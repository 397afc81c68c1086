import CredentialKeeper.Credential
import CredentialKeeper.Fcm.AccessToken
import CredentialKeeper.Fcm.Error
import CredentialKeeper.Json.Record
import CredentialKeeper.Text.Excerpt

/-!
# Token responses

An answer with a status of success carries a token and the seconds that it lasts, counted from
before the request. Main definition: `readAnswer`.
-/

namespace CredentialKeeper.Fcm

structure TokenResponse where
  accessToken : String
  /-- The lifetime in seconds. -/
  expiresIn : Int
  tokenType : String
deriving DecidableEq

inductive ResponseFault where
  | json (cause : Json.Error)
  | emptyToken
  | nonPositiveLifetime (seconds : Int)
  /-- The expiry would be no moment. -/
  | longLifetime (seconds : Int)
deriving DecidableEq

namespace ResponseFault

def message : ResponseFault → String
  | json cause => cause.message
  | emptyToken => "empty access_token"
  | nonPositiveLifetime seconds => "non-positive expires_in: " ++ toString seconds
  | longLifetime seconds => "expires_in out of range: " ++ toString seconds

def error (f : ResponseFault) : Error := .tokenParse f.message

end ResponseFault

namespace TokenResponse

/-- The fields of a response. The type of the token need not be there. -/
def recordType : Json.RecordType TokenResponse where
  wanted := "struct GoogleTokenResponse"
  blank := ⟨"", 0, "Bearer"⟩
  fields := [
    .text "access_token" fun s r => { r with accessToken := s },
    .integer "expires_in" fun n r => { r with expiresIn := n },
    .optionalText "token_type" fun s r => { r with tokenType := s }]

def credential (r : TokenResponse) (requestedAt : Moment) :
    Except ResponseFault (Credential AccessToken) :=
  if r.accessToken.isEmpty then .error .emptyToken
  else if r.expiresIn ≤ 0 then .error (.nonPositiveLifetime r.expiresIn)
  else
    match Moment.ofNanos? (requestedAt.nanos + r.expiresIn * nanosPerSecond) with
    | none => .error (.longLifetime r.expiresIn)
    | some expiresAt => .ok ⟨⟨r.accessToken, r.tokenType⟩, expiresAt, requestedAt⟩

def read (body : String) (requestedAt : Moment) :
    Except ResponseFault (TokenResponse × Credential AccessToken) :=
  match recordType.read body with
  | .error e => .error (.json e)
  | .ok r =>
    match r.credential requestedAt with
    | .error e => .error e
    | .ok c => .ok (r, c)

end TokenResponse

def isSuccess (status : Nat) : Bool := decide (200 ≤ status ∧ status < 300)

/-- How many bytes of the body of a refusal are kept. -/
def longestRefusal : Nat := 512

/-- The response in an answer to a request of a given time, with its credential. -/
def readAnswer (status : Nat) (body : String) (requestedAt : Moment) :
    Except Error (TokenResponse × Credential AccessToken) :=
  if isSuccess status then
    match TokenResponse.read body requestedAt with
    | .error e => .error e.error
    | .ok r => .ok r
  else .error (.requestFailed status (Text.excerpt body longestRefusal))

end CredentialKeeper.Fcm
