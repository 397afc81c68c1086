import CredentialKeeper.Fcm.Assertion
import CredentialKeeper.Fcm.TokenRequest
import CredentialKeeper.Fcm.TokenResponse
import CredentialKeeper.Manager.Source

/-!
# Access tokens as credentials

A source that signs an assertion at every renewal and trades it for a token. A fetch makes one
request at most (`TokenSource.fetch`); all its times are counted from the time of the call.
-/

namespace CredentialKeeper.Fcm

/-- The scope of all services of the platform, and that of messaging alone. -/
def platformScope : String := "https://www.googleapis.com/auth/cloud-platform"
def messagingScope : String := "https://www.googleapis.com/auth/firebase.messaging"

/-- An account with its key and what is asked for in its name. -/
structure TokenSource where
  account : ServiceAccount
  key : SigningKey
  scope : String
deriving DecidableEq

/-- What came of a fetch: the requests made, the result, and what is reported. -/
structure Fetched where
  requests : List TokenRequest
  result : Except Error (Credential AccessToken)
  notices : List Log.Notice

/-- What a fetch says as a renewal. -/
def Fetched.reply : Fetched → Manager.Reply AccessToken × List Log.Notice
  | ⟨_, .ok credential, notices⟩ => (.outcome (.ok credential), notices)
  | ⟨_, .error e, notices⟩ => (.outcome (.error e.failure), notices)

namespace TokenSource

def new (account : ServiceAccount) : Except Error TokenSource :=
  match SigningKey.ofPem account.privateKey with
  | .error e => .error (.keyParse e.message)
  | .ok key => .ok ⟨account, key, platformScope⟩

def withScope (s : TokenSource) (scope : String) : TokenSource := { s with scope }

def name (s : TokenSource) : String := "fcm:" ++ s.account.projectId

/-- The request for a token at a time. There is none at times that have no hour after them. -/
def request? (s : TokenSource) (now : Moment) : Option (Except Error TokenRequest) :=
  (Claims.of? s.account s.scope now).map fun claims =>
    match assertion s.key s.account.privateKeyId claims with
    | .error e => .error (.jwtEncode e.message)
    | .ok assertion => .ok (.ofAssertion s.account.tokenUri assertion)

def receive (s : TokenSource) (request : TokenRequest) (reply : TokenReply) (now : Moment) :
    Fetched :=
  match request.answer reply with
  | .error e => ⟨[request], .error (.token e.message), []⟩
  | .ok (status, body) =>
    match readAnswer status body now with
    | .error e => ⟨[request], .error e, []⟩
    | .ok (response, credential) =>
      ⟨[request], .ok credential, [.tokenObtained s.name response.expiresIn.toNat]⟩

/-- Fetches a token from an endpoint at a time that has an hour after it. -/
def fetch? (s : TokenSource) (endpoint : TokenRequest → TokenReply) (now : Moment) :
    Option Fetched :=
  (s.request? now).map fun
    | .error e => ⟨[], .error e, []⟩
    | .ok request => s.receive request (endpoint request) now

/-- What asks an endpoint, and how long it takes for its reply; it may remember past calls. -/
abbrev Asking (σ : Type) := σ → TokenRequest → (Manager.Latency × TokenReply) × σ

def source {σ : Type} (s : TokenSource) (ask : Asking σ) : Manager.Source σ AccessToken where
  name := s.name
  renew memory now :=
    let atOnce (reply : Manager.Reply AccessToken) := (⟨.atOnce, fun _ => (reply, [])⟩, memory)
    match now with
    | none => atOnce (.crash Moment.noneMessage)
    | some now =>
      match s.request? now with
      | none => atOnce (.crash Moment.overflowMessage)
      | some (.error e) => atOnce (.outcome (.error e.failure))
      | some (.ok request) =>
        let ((latency, reply), memory) := ask memory request
        (⟨latency, fun _ => (s.receive request reply now).reply⟩, memory)

end TokenSource

end CredentialKeeper.Fcm
