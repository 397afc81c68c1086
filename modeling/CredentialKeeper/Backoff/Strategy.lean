import CredentialKeeper.Time.Span

/-!
# Backoff strategies

A strategy is asked for a wait before each retry and is told of each success.
-/

namespace CredentialKeeper.Backoff

inductive Advice where
  | retryAfter (wait : Span)
  | exhausted
  /-- The wait came out longer than any span; the strategy fails. -/
  | overflow
deriving DecidableEq

def Advice.overflowMessage : String :=
  "cannot convert float seconds to Duration: value is either too big or NaN"

/-- A strategy whose memory is a `β`. The clock counts nanoseconds and never goes back. -/
structure Strategy (β : Type) where
  next : β → (clock : Nat) → Advice × β
  reset : β → β

/-- A strategy that gives the waits of a list in turn and is exhausted at a gap or after the last.
A success starts the list again. -/
structure Schedule where
  waits : List (Option Span)
  rest : List (Option Span)

def Schedule.ofList (waits : List (Option Span)) : Schedule := ⟨waits, waits⟩

def Schedule.strategy : Strategy Schedule where
  next s _ :=
    match s.rest with
    | some wait :: rest => (.retryAfter wait, { s with rest })
    | none :: rest => (.exhausted, { s with rest })
    | [] => (.exhausted, s)
  reset s := { s with rest := s.waits }

end CredentialKeeper.Backoff
