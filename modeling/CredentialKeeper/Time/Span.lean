/-!
# Spans of time

A `Span` is a length of time in whole nanoseconds, shorter than 2 ^ 64 seconds. Its written form
(`Span.text`) uses the largest of `s`, `ms`, `µs` and `ns` that leaves a whole part, and drops the
zeros at the end of the fraction.
-/

namespace CredentialKeeper

abbrev nanosPerSecond : Nat := 1000000000

/-- A length of time in whole nanoseconds, shorter than 2 ^ 64 seconds. -/
@[ext] structure Span where
  nanos : Nat
  nanos_lt : nanos < 18446744073709551616 * nanosPerSecond
deriving DecidableEq

namespace Span

instance : LE Span := ⟨fun a b => a.nanos ≤ b.nanos⟩
instance : LT Span := ⟨fun a b => a.nanos < b.nanos⟩
instance (a b : Span) : Decidable (a ≤ b) := inferInstanceAs (Decidable (a.nanos ≤ b.nanos))
instance (a b : Span) : Decidable (a < b) := inferInstanceAs (Decidable (a.nanos < b.nanos))

theorem le_def {a b : Span} : a ≤ b ↔ a.nanos ≤ b.nanos := Iff.rfl
theorem lt_def {a b : Span} : a < b ↔ a.nanos < b.nanos := Iff.rfl

def zero : Span := ⟨0, by decide⟩

/-- A span of so many nanoseconds, if one is that long. -/
def ofNanos? (n : Nat) : Option Span :=
  if h : n < 18446744073709551616 * nanosPerSecond then some ⟨n, h⟩ else none

def ofSeconds (n : UInt64) : Span :=
  ⟨n.toNat * nanosPerSecond, by have := n.toNat_lt; unfold nanosPerSecond; omega⟩

def ofMillis (n : UInt64) : Span :=
  ⟨n.toNat * 1000000, by have := n.toNat_lt; unfold nanosPerSecond; omega⟩

def seconds (s : Span) : Nat := s.nanos / nanosPerSecond

/-- What a span has beyond its whole seconds, in nanoseconds. -/
def subsecond (s : Span) : Nat := s.nanos % nanosPerSecond

/-- The whole milliseconds of a span as a 64-bit counter shows them, which goes round at 2 ^ 64. -/
def millis (s : Span) : UInt64 := UInt64.ofNat (s.nanos / 1000000)

def isZero (s : Span) : Bool := s.nanos == 0

def min (a b : Span) : Span := if a ≤ b then a else b
def max (a b : Span) : Span := if a ≤ b then b else a

@[simp] theorem zero_nanos : zero.nanos = 0 := rfl
@[simp] theorem isZero_iff {s : Span} : s.isZero = true ↔ s.nanos = 0 := by simp [isZero]

theorem min_nanos (a b : Span) : (a.min b).nanos = Nat.min a.nanos b.nanos := by
  unfold min
  split
  next h => exact (Nat.min_eq_left (le_def.1 h)).symm
  next h => exact (Nat.min_eq_right (Nat.le_of_not_le h)).symm

theorem max_nanos (a b : Span) : (a.max b).nanos = Nat.max a.nanos b.nanos := by
  unfold max
  split
  next h => exact (Nat.max_eq_right (le_def.1 h)).symm
  next h => exact (Nat.max_eq_left (Nat.le_of_not_le h)).symm

end Span

def dropTrailingZeros (digits : List Char) : List Char :=
  (digits.reverse.dropWhile (· == '0')).reverse

def padZeros (width : Nat) (digits : List Char) : List Char :=
  List.replicate (width - digits.length) '0' ++ digits

def paddedDigits (width n : Nat) : List Char := padZeros width (Nat.toDigits 10 n)

/-- A count of `unit`s of so many nanoseconds, as a decimal fraction without zeros at its end. -/
def decimalUnits (nanos places : Nat) (unit : String) : String :=
  let size := Nat.pow 10 places
  let fraction := dropTrailingZeros (paddedDigits places (nanos % size))
  let shown := if fraction.isEmpty then fraction else '.' :: fraction
  String.ofList (Nat.toDigits 10 (nanos / size) ++ shown) ++ unit

/-- The written form of a span: `90s`, `1.5ms`, `3µs`, `0ns`. -/
def Span.text (s : Span) : String :=
  if nanosPerSecond ≤ s.nanos then decimalUnits s.nanos 9 "s"
  else if 1000000 ≤ s.nanos then decimalUnits s.nanos 6 "ms"
  else if 1000 ≤ s.nanos then decimalUnits s.nanos 3 "µs"
  else decimalUnits s.nanos 0 "ns"

end CredentialKeeper
