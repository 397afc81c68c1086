import CredentialKeeper.Time.Span

/-!
# Deadlines

A clock counts nanoseconds from its beginning, and timers run on its whole milliseconds: a wait ends
at the first of them that is not before its end (`tickAfter`). Work with a deadline that is done by
the deadline's millisecond counts as done in time.
-/

namespace CredentialKeeper

/-- Thirty years of 365 days, in nanoseconds. -/
def thirtyYears : Nat := 946080000000000000

/-- The first whole millisecond that is not before an instant. -/
def tickFrom (t : Nat) : Nat := (t + 999999) / 1000000 * 1000000

/-- Ends of waits that lie beyond what the clock counts, about 2 ^ 63 seconds, are put thirty years
ahead. -/
def tickAfter (now : Nat) (wait : Span) : Nat :=
  if wait.seconds < 9223372036854775807 - now / nanosPerSecond then tickFrom (now + wait.nanos)
  else tickFrom (now + thirtyYears)

/-- The deadline of some work passed before it was done. -/
structure Elapsed where
  limit : Span
deriving DecidableEq

def Elapsed.message (e : Elapsed) : String := "Operation timed out after " ++ e.limit.text

/-- When work that takes so long ends if it is started now under a deadline, and whether in time. -/
def finishBy (now : Nat) (limit work : Span) : Except Elapsed Unit × Nat :=
  let deadline := tickAfter now limit
  let done := tickAfter now work
  if done ≤ deadline then (.ok (), done) else (.error ⟨limit⟩, deadline)

end CredentialKeeper
