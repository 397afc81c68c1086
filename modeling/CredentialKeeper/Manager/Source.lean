import CredentialKeeper.Credential
import CredentialKeeper.Log.Notice
import CredentialKeeper.Time.Deadline

/-!
# Credential sources

A source is asked for a credential and answers after some time, or never. What it answers may depend
on the wall clock at that time, which shows nothing once it has gone past the last moment. A
`PendingCall` is a call that has not ended yet; it ends with the answer or at its deadline, and with
the answer if both fall on the same instant.
-/

namespace CredentialKeeper.Manager

inductive Latency where
  | atOnce
  /-- The source waits so many nanoseconds before it answers. -/
  | after (nanos : Nat)
  | never
deriving DecidableEq

inductive Reply (α : Type) where
  | outcome (o : Outcome α)
  /-- The source broke off with this message instead of an outcome. -/
  | crash (message : String)

/-- What a source does with one call. -/
structure Call (α : Type) where
  latency : Latency
  /-- The answer at a wall time, and what the source reports with it. -/
  reply : Option Moment → Reply α × List Log.Notice

/-- Where credentials come from. A `σ` is what the source remembers from call to call. -/
structure Source (σ α : Type) where
  name : String
  renew : σ → Option Moment → Call α × σ

/-- A call that has been made and has not ended. -/
structure PendingCall (α : Type) where
  call : Call α
  /-- The instant of the answer. -/
  answerAt : Option Nat
  /-- The instant at which the caller stops waiting. -/
  deadline : Nat

namespace PendingCall

variable {α : Type}

/-- A call made now that may take no longer than `limit`. -/
def begin (call : Call α) (now : Nat) (limit : Span) : PendingCall α where
  call := call
  answerAt := match call.latency with
    | .atOnce => some now
    | .after nanos => some (now + nanos)
    | .never => none
  deadline := tickAfter now limit

inductive Status where
  | waiting
  | answered
  | timedOut
deriving DecidableEq

def status (p : PendingCall α) (now : Nat) : Status :=
  if p.answerAt.any (· ≤ now) then .answered
  else if p.deadline ≤ now then .timedOut
  else .waiting

/-- The instant at which the call ends. -/
def endsAt (p : PendingCall α) : Nat :=
  match p.answerAt with
  | some t => Nat.min t p.deadline
  | none => p.deadline

/-- The source let time pass before it answered. -/
def isDelayed (p : PendingCall α) : Bool :=
  match p.call.latency with
  | .after _ => true
  | _ => false

end PendingCall

end CredentialKeeper.Manager
