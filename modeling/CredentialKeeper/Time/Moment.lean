import CredentialKeeper.Time.Span
import CredentialKeeper.Time.Calendar

/-!
# Moments

A `Moment` is an instant of universal time in whole nanoseconds since 1970, from the year -262143
to the year 262142. A sum or difference that leaves this range has no value. The moments within a
leap second, which a clock may tell as nanoseconds past the 999999999 of a second, are left out. The
two written forms differ in the separator and the zone: `2030-06-15 00:00:00 UTC` and
`2030-06-15T00:00:00Z`.
-/

namespace CredentialKeeper

/-- An instant of universal time, leap seconds apart, in nanoseconds since the start of 1970. -/
@[ext] structure Moment where
  nanos : Int
  ge_first : -8334601228800 * 1000000000 ≤ nanos
  le_last : nanos ≤ 8210266876799 * 1000000000 + 999999999
deriving DecidableEq

namespace Moment

instance : LE Moment := ⟨fun a b => a.nanos ≤ b.nanos⟩
instance : LT Moment := ⟨fun a b => a.nanos < b.nanos⟩
instance (a b : Moment) : Decidable (a ≤ b) := inferInstanceAs (Decidable (a.nanos ≤ b.nanos))
instance (a b : Moment) : Decidable (a < b) := inferInstanceAs (Decidable (a.nanos < b.nanos))

theorem le_def {a b : Moment} : a ≤ b ↔ a.nanos ≤ b.nanos := Iff.rfl
theorem lt_def {a b : Moment} : a < b ↔ a.nanos < b.nanos := Iff.rfl

def first : Moment := ⟨-8334601228800 * 1000000000, by decide, by decide⟩
def last : Moment := ⟨8210266876799 * 1000000000 + 999999999, by decide, by decide⟩

def epoch : Moment := ⟨0, by decide, by decide⟩

/-- The moment so many nanoseconds after the start of 1970, if there is one. -/
def ofNanos? (n : Int) : Option Moment :=
  if h : first.nanos ≤ n ∧ n ≤ last.nanos then some ⟨n, h.1, h.2⟩ else none

def ofSeconds? (n : Int) : Option Moment := ofNanos? (n * nanosPerSecond)

/-- The whole second a moment falls into, also before 1970. -/
def unixSeconds (m : Moment) : Int := m.nanos / nanosPerSecond

def subsecond (m : Moment) : Nat := (m.nanos % nanosPerSecond).toNat

/-- The longest step between moments: the greatest count of milliseconds in 63 bits. -/
def longestStep : Nat := 9223372036854775807 * 1000000

/-- A span as a step between moments. A span that is longer than any step is cut to the longest,
which still leads out of the range of moments from wherever it starts. -/
def step (s : Span) : Nat := if s.nanos ≤ longestStep then s.nanos else longestStep

/-- The moment a span later, if there is one. -/
def add? (m : Moment) (s : Span) : Option Moment := ofNanos? (m.nanos + step s)

def sub? (m : Moment) (s : Span) : Option Moment := ofNanos? (m.nanos - step s)

/-- The message of a sum of times that leaves the range of moments. -/
def overflowMessage : String := "`DateTime + TimeDelta` overflowed"

def noneMessage : String := "called `Option::unwrap()` on a `None` value"

/-- The time from `start` to `m`, none if `m` is the earlier. -/
def since (m start : Moment) : Span :=
  ⟨(m.nanos - start.nanos).toNat, by
    have := m.le_last; have := start.ge_first; unfold nanosPerSecond; omega⟩

@[simp] theorem since_nanos (m start : Moment) :
    (m.since start).nanos = (m.nanos - start.nanos).toNat := rfl

def date (m : Moment) : Date := Date.ofDays (m.unixSeconds / 86400)

def secondOfDay (m : Moment) : Nat := (m.unixSeconds % 86400).toNat

/-- A year has four digits; outside 0 to 9999 it has a sign and at least four. -/
def yearText (year : Int) : List Char :=
  if 0 ≤ year ∧ year ≤ 9999 then paddedDigits 4 year.toNat
  else (if year < 0 then '-' else '+') :: paddedDigits 4 year.natAbs

def dateText (d : Date) : List Char :=
  yearText d.year ++ '-' :: paddedDigits 2 d.month ++ '-' :: paddedDigits 2 d.day

/-- The fraction of a second in groups of three digits, as few as hold it, and nothing for zero. -/
def fractionText (nanos : Nat) : List Char :=
  if nanos = 0 then []
  else if nanos % 1000000 = 0 then '.' :: paddedDigits 3 (nanos / 1000000)
  else if nanos % 1000 = 0 then '.' :: paddedDigits 6 (nanos / 1000)
  else '.' :: paddedDigits 9 nanos

def clockText (m : Moment) : List Char :=
  let s := m.secondOfDay
  paddedDigits 2 (s / 3600) ++ ':' :: paddedDigits 2 (s / 60 % 60) ++ ':' :: paddedDigits 2 (s % 60)

/-- The form for readers: `2030-06-15 00:00:00 UTC`. -/
def text (m : Moment) : String :=
  String.ofList (dateText m.date ++ ' ' :: m.clockText ++ fractionText m.subsecond) ++ " UTC"

/-- The form for records: `2030-06-15T00:00:00Z`. -/
def record (m : Moment) : String :=
  String.ofList (dateText m.date ++ 'T' :: m.clockText ++ fractionText m.subsecond) ++ "Z"

end Moment

end CredentialKeeper
