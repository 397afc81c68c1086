import CredentialKeeper.Environment
import CredentialKeeper.Number.Integer
import CredentialKeeper.Text.Blank
import CredentialKeeper.Text.Quoted
import CredentialKeeper.Text.Record
import CredentialKeeper.Time.Span

/-!
# Settings of the APNs gateway

Where the certificate and its key are, for which app they are used, and on which of the two
gateways.
-/

namespace CredentialKeeper.Apns

inductive Error where
  | settings (reason : String)
  | pem (reason : String)
  | certificate (reason : String)
  | privateKey (reason : String)
deriving DecidableEq

def Error.message : Error → String
  | settings reason => "APNs configuration error: " ++ reason
  | pem reason => "Failed to parse PEM: " ++ reason
  | certificate reason => "Failed to parse X.509 certificate: " ++ reason
  | privateKey reason => "Invalid private key: " ++ reason

structure Settings where
  certificatePath : String
  privateKeyPath : String
  bundleId : String
  isProduction : Bool
  /-- How long before its expiry a certificate on disk is reported. -/
  expiryWarning : Span
deriving DecidableEq

namespace Settings

/-- A month. -/
def standardWarning : Span := .ofSeconds 2592000

def endpoint (s : Settings) : String :=
  if s.isProduction then "api.push.apple.com" else "api.sandbox.push.apple.com"

def isBlank (s : String) : Bool := Text.trim s = ""

/-- Neither path may be blank, nor the app's name. -/
def check (s : Settings) : Except Error Unit :=
  if isBlank s.certificatePath then .error (.settings "certificate path is empty")
  else if isBlank s.privateKeyPath then .error (.settings "private key path is empty")
  else if isBlank s.bundleId then .error (.settings "bundle id is empty")
  else .ok ()

def required (env : Environment) (key : String) : Except Error String :=
  match env.text? key with
  | some s => .ok s
  | none => .error (.settings (key ++ " not set"))

/-- The gateway's variable: unset, or one of two words. -/
def loadProduction (env : Environment) : Except Error Bool :=
  match env.text? "APNS_PRODUCTION" with
  | none => .ok false
  | some raw =>
    match parseBool? raw with
    | some b => .ok b
    | none =>
      .error (.settings ("APNS_PRODUCTION must be true or false, got " ++ Text.quote raw))

def load (env : Environment) : Except Error Settings := do
  let isProduction ← loadProduction env
  let certificatePath ← required env "APNS_CERTIFICATE_PATH"
  let privateKeyPath ← required env "APNS_PRIVATE_KEY_PATH"
  let bundleId ← required env "APNS_BUNDLE_ID"
  let s : Settings := ⟨certificatePath, privateKeyPath, bundleId, isProduction, standardWarning⟩
  s.check
  return s

def record (s : Settings) : String :=
  Text.record "ApnsConfig" [("certificate_path", Text.quote s.certificatePath),
    ("private_key_path", Text.quote s.privateKeyPath), ("bundle_id", Text.quote s.bundleId),
    ("is_production", toString s.isProduction), ("expiry_warning", s.expiryWarning.text)]

end Settings

end CredentialKeeper.Apns
