import CredentialKeeper.Time.Moment
import CredentialKeeper.Text.Record

/-!
# Credentials and renewal outcomes

A credential is a secret with the time it was issued and the time it expires. A renewal either
issues a new credential or fails in one of four ways, each of which is worth another attempt.
-/

namespace CredentialKeeper

/-- A secret with its time of issue and its expiry. -/
structure Credential (α : Type) where
  value : α
  expiresAt : Moment
  issuedAt : Moment
deriving DecidableEq

namespace Credential

variable {α : Type}

/-- The time left until the expiry, none once it has passed. -/
def remaining (c : Credential α) (now : Moment) : Span := c.expiresAt.since now

/-- A credential is expired from its expiry on. -/
def isExpired (c : Credential α) (now : Moment) : Bool := decide (c.expiresAt ≤ now)

/-- The developer's view of a credential, given that of its secret. -/
def record (showSecret : α → String) (c : Credential α) : String :=
  Text.record "Credential" [("value", showSecret c.value), ("expires_at", c.expiresAt.record),
    ("issued_at", c.issuedAt.record)]

end Credential

inductive FailureKind where
  | io
  | rejected
  | timeout
  | invalidResponse
deriving DecidableEq

namespace FailureKind

/-- The word for a kind in logs and metrics. -/
def label : FailureKind → String
  | io => "io"
  | rejected => "rejected"
  | timeout => "timeout"
  | invalidResponse => "invalid_response"

def name : FailureKind → String
  | io => "Io"
  | rejected => "Rejected"
  | timeout => "Timeout"
  | invalidResponse => "InvalidResponse"

end FailureKind

structure Failure where
  kind : FailureKind
  message : String
deriving DecidableEq

namespace Failure

def timedOut (after : Span) : Failure :=
  ⟨.timeout, "renewal did not complete within " ++ after.text⟩

def text (f : Failure) : String := f.kind.label ++ ": " ++ f.message

def record (f : Failure) : String :=
  Text.record "RenewalFailure" [("kind", f.kind.name), ("message", Text.quote f.message)]

end Failure

/-- What a renewal came to. -/
abbrev Outcome (α : Type) := Except Failure (Credential α)

namespace Outcome

def isSuccess {α : Type} : Outcome α → Bool
  | .ok _ => true
  | .error _ => false

/-- The label a renewal is counted under. -/
def label {α : Type} : Outcome α → String
  | .ok _ => "success"
  | .error f => f.kind.label

end Outcome

end CredentialKeeper
