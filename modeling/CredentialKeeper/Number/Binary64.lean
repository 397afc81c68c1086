import CredentialKeeper.Time.Span

/-!
# Binary64 numbers

The numbers of the 64-bit binary interchange format, with exact arithmetic. A magnitude is its code,
the 63 low bits of the format: codes and values grow together, so a code is also the rank of its
value. Values are counted in units of 2 ^ -1074, the least positive magnitude. Every operation is
the exact result rounded once to the nearest magnitude, a tie going to the even code
(`Magnitude.nearestCode`). Only quiet not-a-number values without payload occur.
-/

namespace CredentialKeeper

/-- A quotient rounded to the nearest natural number, a tie going to the even one. -/
def roundDiv (num den : Nat) : Nat :=
  let q := num / den
  let r := num % den
  if 2 * r < den then q else if den < 2 * r then q + 1 else q + q % 2

/-- A finite magnitude, as its code. -/
@[ext] structure Magnitude where
  code : Nat
  code_lt : code < 9218868437227405312
deriving DecidableEq

namespace Magnitude

/-- The number of magnitudes with one exponent. -/
abbrev binade : Nat := 4503599627370496

/-- The first code past the finite ones, which stands for infinity. -/
abbrev codes : Nat := 9218868437227405312

def zero : Magnitude := ⟨0, by decide⟩
def one : Magnitude := ⟨1023 * binade, by decide⟩

/-- The value of a code in units of 2 ^ -1074. -/
def unitsOfCode (code : Nat) : Nat :=
  if code < binade then code else (code % binade + binade) * Nat.pow 2 (code / binade - 1)

def units (m : Magnitude) : Nat := unitsOfCode m.code

/-- The code of the magnitude nearest to `num / den` units, a tie going to the even code. It may be
`codes` or more, when the value is too great for a finite magnitude. -/
def nearestCode (num den : Nat) : Nat :=
  let exponent := (num / den).log2 - 52
  exponent * binade + roundDiv num (den * Nat.pow 2 exponent)

end Magnitude

abbrev unitsPerOne : Nat := Nat.pow 2 1074

inductive Binary64 where
  | nan (negative : Bool)
  | infinite (negative : Bool)
  | finite (negative : Bool) (magnitude : Magnitude)
deriving DecidableEq

namespace Binary64

def zero : Binary64 := finite false .zero
def one : Binary64 := finite false .one

/-- The number nearest to `num / den` units of 2 ^ -1074, infinite past the finite range. -/
def ofUnits (negative : Bool) (num den : Nat) : Binary64 :=
  let code := Magnitude.nearestCode num den
  if h : code < 9218868437227405312 then finite negative ⟨code, h⟩ else infinite negative

def ofNat (n : Nat) : Binary64 := ofUnits false (n * unitsPerOne) 1

def ofRatio (num den : Nat) : Binary64 := ofUnits false (num * unitsPerOne) den

def negate : Binary64 → Binary64
  | nan s => nan !s
  | infinite s => infinite !s
  | finite s m => finite (!s) m

/-- The place of a number in the order of the numbers, in units of 2 ^ -1074; infinity comes after
every finite number. Not-a-number has no place. -/
def rank? : Binary64 → Option Int
  | nan _ => none
  | infinite s => some (if s then -(Nat.pow 2 2098 : Nat) else Nat.pow 2 2098)
  | finite s m => some (if s then -(m.units : Int) else m.units)

/-- The order of the numbers. Not-a-number is neither below nor above anything. -/
def le (a b : Binary64) : Bool :=
  match a.rank?, b.rank? with
  | some x, some y => decide (x ≤ y)
  | _, _ => false

def lt (a b : Binary64) : Bool :=
  match a.rank?, b.rank? with
  | some x, some y => decide (x < y)
  | _, _ => false

/-- The two zeros are equal and not-a-number equals nothing. -/
def eq (a b : Binary64) : Bool := le a b && le b a

def mul : Binary64 → Binary64 → Binary64
  | nan s, _ => nan s
  | _, nan s => nan s
  | infinite s, infinite t => infinite (s != t)
  | infinite s, finite t m => if m.units = 0 then nan true else infinite (s != t)
  | finite s m, infinite t => if m.units = 0 then nan true else infinite (s != t)
  | finite s m, finite t k => ofUnits (s != t) (m.units * k.units) unitsPerOne

def div : Binary64 → Binary64 → Binary64
  | nan s, _ => nan s
  | _, nan s => nan s
  | infinite _, infinite _ => nan true
  | infinite s, finite t _ => infinite (s != t)
  | finite s _, infinite t => finite (s != t) .zero
  | finite s m, finite t k =>
    if k.units = 0 then (if m.units = 0 then nan true else infinite (s != t))
    else ofUnits (s != t) (m.units * unitsPerOne) k.units

def add : Binary64 → Binary64 → Binary64
  | nan s, _ => nan s
  | _, nan s => nan s
  | infinite s, infinite t => if s = t then infinite s else nan true
  | infinite s, finite _ _ => infinite s
  | finite _ _, infinite t => infinite t
  | finite s m, finite t k =>
    if s = t then ofUnits s (m.units + k.units) 1
    else if m.units = k.units then zero
    else if k.units < m.units then ofUnits s (m.units - k.units) 1
    else ofUnits t (k.units - m.units) 1

def toBits : Binary64 → UInt64
  | nan s => signBit s ||| 0x7ff8000000000000
  | infinite s => signBit s ||| 0x7ff0000000000000
  | finite s m => signBit s ||| UInt64.ofNat m.code
where
  signBit (negative : Bool) : UInt64 := if negative then 0x8000000000000000 else 0

end Binary64

namespace Span

/-- A span in seconds: the whole seconds and the fraction are rounded, and then their sum. -/
def toBinary64 (s : Span) : Binary64 :=
  (Binary64.ofNat s.seconds).add (Binary64.ofRatio s.subsecond nanosPerSecond)

/-- The nanoseconds nearest to a number of seconds, a tie going to the even one. Negative numbers,
not-a-number and numbers from 2 ^ 64 seconds up have no span; minus zero is zero. -/
def ofBinary64? : Binary64 → Option Span
  | .finite s m =>
    if s && m.units != 0 then none else ofNanos? (roundDiv (m.units * nanosPerSecond) unitsPerOne)
  | _ => none

end Span

end CredentialKeeper
