import CredentialKeeper.Apns.CertificateInfo
import CredentialKeeper.Apns.CertificateSource
import CredentialKeeper.Apns.Settings
import CredentialKeeper.Backoff.Exponential
import CredentialKeeper.Backoff.Settings
import CredentialKeeper.Backoff.Strategy
import CredentialKeeper.Credential
import CredentialKeeper.Crypto.Curve
import CredentialKeeper.Crypto.KeyPair
import CredentialKeeper.Crypto.Modular
import CredentialKeeper.Crypto.Rsa
import CredentialKeeper.Crypto.Sha2
import CredentialKeeper.Encoding.Base64
import CredentialKeeper.Encoding.Der
import CredentialKeeper.Encoding.DerContents
import CredentialKeeper.Encoding.DerTree
import CredentialKeeper.Encoding.Pem
import CredentialKeeper.Environment
import CredentialKeeper.Expiry
import CredentialKeeper.Fcm.AccessToken
import CredentialKeeper.Fcm.Assertion
import CredentialKeeper.Fcm.Error
import CredentialKeeper.Fcm.ServiceAccount
import CredentialKeeper.Fcm.SigningKey
import CredentialKeeper.Fcm.TokenRequest
import CredentialKeeper.Fcm.TokenResponse
import CredentialKeeper.Fcm.TokenSource
import CredentialKeeper.Files
import CredentialKeeper.Json.Fault
import CredentialKeeper.Json.Number
import CredentialKeeper.Json.Record
import CredentialKeeper.Json.Text
import CredentialKeeper.Json.Value
import CredentialKeeper.Log.Filter
import CredentialKeeper.Log.Line
import CredentialKeeper.Log.Notice
import CredentialKeeper.Main
import CredentialKeeper.Manager.Cells
import CredentialKeeper.Manager.Interleaving
import CredentialKeeper.Manager.Script
import CredentialKeeper.Manager.Session
import CredentialKeeper.Manager.Shutdown
import CredentialKeeper.Manager.Source
import CredentialKeeper.Manager.Startup
import CredentialKeeper.Manager.Task
import CredentialKeeper.Number.Binary64
import CredentialKeeper.Number.Decimal
import CredentialKeeper.Number.Integer
import CredentialKeeper.Proofs.Manager.Chronicle
import CredentialKeeper.Proofs.Manager.Moves
import CredentialKeeper.Proofs.Manager.Publication
import CredentialKeeper.Proofs.Manager.Traces
import CredentialKeeper.Proofs.Manager.Courses
import CredentialKeeper.Proofs.Time.Expiry
import CredentialKeeper.Proofs.Time.Moments
import CredentialKeeper.Proofs.Time.Waits
import CredentialKeeper.Refresh.Environment
import CredentialKeeper.Refresh.Settings
import CredentialKeeper.Service.Gateways
import CredentialKeeper.Service.Program
import CredentialKeeper.Service.Run
import CredentialKeeper.Service.Settings
import CredentialKeeper.Service.Supervision
import CredentialKeeper.Text.Alphanumeric
import CredentialKeeper.Text.Blank
import CredentialKeeper.Text.CodePoints
import CredentialKeeper.Text.Composed
import CredentialKeeper.Text.Excerpt
import CredentialKeeper.Text.Invisible
import CredentialKeeper.Text.Mark
import CredentialKeeper.Text.Pattern
import CredentialKeeper.Text.Quoted
import CredentialKeeper.Text.Record
import CredentialKeeper.Text.Utf16
import CredentialKeeper.Text.Utf8
import CredentialKeeper.Time.Calendar
import CredentialKeeper.Time.Deadline
import CredentialKeeper.Time.Moment
import CredentialKeeper.Time.Span
import CredentialKeeper.Time.Timestamp
import CredentialKeeper.VariableFile
import CredentialKeeper.Web.Direction
import CredentialKeeper.Web.Folding
import CredentialKeeper.Web.Host
import CredentialKeeper.Web.Joining
import CredentialKeeper.Web.Name
import CredentialKeeper.Web.NumericHost
import CredentialKeeper.Web.Path
import CredentialKeeper.Web.Percent
import CredentialKeeper.Web.Punycode
import CredentialKeeper.Web.Url
import CredentialKeeper.X509.Certificate
import CredentialKeeper.X509.Date
import CredentialKeeper.X509.Fault
import CredentialKeeper.X509.Name
import CredentialKeeper.Proofs.Manager.Exhaustion
import CredentialKeeper.Proofs.Manager.Timeline
import CredentialKeeper.Proofs.Manager.Freshness
import CredentialKeeper.Proofs.Manager.Sessions
import CredentialKeeper.Proofs.Manager.Lifecycle
import CredentialKeeper.Proofs.Manager.Cancellation
import CredentialKeeper.Proofs.Manager.Joining
import CredentialKeeper.Proofs.Manager.Opening
import CredentialKeeper.Proofs.Manager.Accounting
import CredentialKeeper.Proofs.CheckedSettings
import CredentialKeeper.Proofs.Number.Rounding
import CredentialKeeper.Proofs.Backoff.Memory
import CredentialKeeper.Proofs.Manager.Consultation
import CredentialKeeper.Proofs.Backoff.Interval
import CredentialKeeper.Proofs.Backoff.Growth
import CredentialKeeper.Proofs.Backoff.Lineage
import CredentialKeeper.Proofs.Manager.Budget
import CredentialKeeper.Proofs.Manager.GivingUp
import CredentialKeeper.Proofs.Apns.Acceptance
import CredentialKeeper.Proofs.Apns.Rotation
import CredentialKeeper.Proofs.Refresh.Loading
import CredentialKeeper.Proofs.Service.Loading
import CredentialKeeper.Proofs.Service.Ending
import CredentialKeeper.Proofs.Service.HandingOver
import CredentialKeeper.Proofs.Manager.Discarding
import CredentialKeeper.Proofs.Service.Malformed
import CredentialKeeper.Proofs.Manager.Likeness
import CredentialKeeper.Proofs.Service.Secrecy
import CredentialKeeper.Proofs.Json.Numbers
import CredentialKeeper.Proofs.Json.Texts
import CredentialKeeper.Proofs.Json.Values
import CredentialKeeper.Proofs.Json.Members
import CredentialKeeper.Proofs.Json.Objects
import CredentialKeeper.Proofs.Json.Records
import CredentialKeeper.Proofs.Fcm.Answers
import CredentialKeeper.Proofs.Fcm.Signing
import CredentialKeeper.Proofs.Text.Utf8
import CredentialKeeper.Proofs.Text.Boundaries
import CredentialKeeper.Proofs.Number.Seconds
import CredentialKeeper.Proofs.Backoff.Jitter
import CredentialKeeper.Proofs.Json.Unambiguity
import CredentialKeeper.Proofs.Json.Writing
import CredentialKeeper.Proofs.Json.TextRecords
import CredentialKeeper.Proofs.Fcm.Accounts
import CredentialKeeper.Proofs.Crypto.Signatures
import CredentialKeeper.Proofs.Fcm.Assertions
