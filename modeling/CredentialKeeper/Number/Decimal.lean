import CredentialKeeper.Number.Binary64

/-!
# Decimal text of binary64 numbers

Reading (`Binary64.parse?`) rounds the exact decimal value once. Writing (`Binary64.text`) uses the
fewest digits that read back as the number, of those the nearest to it, and never an exponent.
-/

namespace CredentialKeeper

/-- A decimal fraction `digits * 10 ^ exponent`. -/
structure Decimal where
  digits : Nat
  exponent : Int
deriving DecidableEq

namespace Decimal

/-- The number nearest to a decimal fraction. Exponents that put every nonzero fraction with these
digits out of range are not computed with. -/
def toBinary64 (negative : Bool) (d : Decimal) : Binary64 :=
  let length : Int := (Nat.toDigits 10 d.digits).length
  if d.digits = 0 then .finite negative .zero
  else if d.exponent + length > 310 then .infinite negative
  else if d.exponent + length < -330 then .finite negative .zero
  else if 0 ≤ d.exponent then
    .ofUnits negative (d.digits * Nat.pow 10 d.exponent.toNat * unitsPerOne) 1
  else .ofUnits negative (d.digits * unitsPerOne) (Nat.pow 10 d.exponent.natAbs)

/-- A fraction with these digits, but without zeros at their end. -/
def trimmed (digits : Nat) (exponent : Int) : Decimal :=
  if digits ≠ 0 ∧ digits % 10 = 0 then trimmed (digits / 10) (exponent + 1) else ⟨digits, exponent⟩
termination_by digits
decreasing_by omega

def trim (d : Decimal) : Decimal := trimmed d.digits d.exponent

end Decimal

/-- The natural number that a row of decimal digits writes. -/
def digitsValue (cs : List Char) : Nat :=
  cs.foldl (fun n c => 10 * n + (c.toNat - 48)) 0

def isDigits (cs : List Char) : Bool := !cs.isEmpty && cs.all Char.isDigit

/-- An exponent after its mark: an optional sign and digits. -/
def parseExponent? (cs : List Char) : Option Int :=
  match cs with
  | '-' :: rest => if isDigits rest then some (-(digitsValue rest : Int)) else none
  | '+' :: rest => if isDigits rest then some (digitsValue rest) else none
  | rest => if isDigits rest then some (digitsValue rest) else none

/-- An unsigned decimal numeral: digits with at most one point among, before or after them, and an
optional exponent. -/
def parseDecimal? (cs : List Char) : Option Decimal :=
  let whole := cs.takeWhile Char.isDigit
  let afterWhole := cs.dropWhile Char.isDigit
  let (fraction, rest) := match afterWhole with
    | '.' :: r => (r.takeWhile Char.isDigit, r.dropWhile Char.isDigit)
    | r => ([], r)
  if whole.isEmpty && fraction.isEmpty then none
  else
    let decimal (e : Int) : Decimal := ⟨digitsValue (whole ++ fraction), e - fraction.length⟩
    match rest with
    | [] => some (decimal 0)
    | c :: r => if c = 'e' || c = 'E' then (parseExponent? r).map decimal else none

/-- A number without its sign: a numeral, or a word in any case for the special values. -/
def parseUnsigned? (negative : Bool) (cs : List Char) : Option Binary64 :=
  match cs.map Char.toLower with
  | ['i', 'n', 'f'] | ['i', 'n', 'f', 'i', 'n', 'i', 't', 'y'] => some (.infinite negative)
  | ['n', 'a', 'n'] => some (.nan negative)
  | _ => (parseDecimal? cs).map (·.toBinary64 negative)

/-- Reads a number: an optional sign, then a numeral or one of `inf`, `infinity` and `nan`. -/
def Binary64.parse? (s : String) : Option Binary64 :=
  match s.toList with
  | '-' :: r => parseUnsigned? true r
  | '+' :: r => parseUnsigned? false r
  | r => parseUnsigned? false r

namespace Magnitude

/-- Twice the bounds of the values that round to a magnitude, in units of 2 ^ -1074. -/
def twiceLow (m : Magnitude) : Nat := unitsOfCode (m.code - 1) + m.units
def twiceHigh (m : Magnitude) : Nat := m.units + unitsOfCode (m.code + 1)

/-- The fraction rounds to the magnitude: it lies between the bounds, which themselves belong to the
magnitude if its code is even. -/
def attracts (m : Magnitude) (num den : Nat) : Bool :=
  if m.code % 2 = 0 then m.twiceLow * den ≤ 2 * num && 2 * num ≤ m.twiceHigh * den
  else m.twiceLow * den < 2 * num && 2 * num < m.twiceHigh * den

/-- The decimal exponent of the leading digit of a positive magnitude. -/
def leadingExponent (m : Magnitude) : Int :=
  (Nat.toDigits 10 (m.units * Nat.pow 10 400 / unitsPerOne)).length - 401

/-- The decimal fraction on the grid of `10 ^ exponent` that is nearest to a magnitude among those
that round to it; the greater of two at the same distance. -/
def onGrid? (m : Magnitude) (exponent : Int) : Option Decimal :=
  let scaleUp := Nat.pow 10 (-exponent).toNat
  let scaleDown := Nat.pow 10 exponent.toNat
  let below := m.units * scaleUp / (unitsPerOne * scaleDown)
  let reads (n : Nat) : Bool := m.attracts (n * scaleDown * unitsPerOne) scaleUp
  let pastHalf : Bool :=
    (2 * below + 1) * (unitsPerOne * scaleDown) ≤ 2 * (m.units * scaleUp)
  match reads below, reads (below + 1) with
  | true, true => some ⟨if pastHalf then below + 1 else below, exponent⟩
  | true, false => some ⟨below, exponent⟩
  | false, true => some ⟨below + 1, exponent⟩
  | false, false => none

/-- The fewest digits that read back: the first of the grids of one, two, … digits that has a
fraction rounding to the magnitude, without zeros at the end. Seventeen digits always suffice. -/
def shortest (m : Magnitude) : Decimal :=
  let top := m.leadingExponent
  (((List.range 17).findSome? fun (n : Nat) => m.onGrid? (top - n)).getD ⟨0, 0⟩).trim

end Magnitude

/-- A decimal fraction in positional notation, without a point when it is whole. -/
def Decimal.positional (d : Decimal) : List Char :=
  let digits := Nat.toDigits 10 d.digits
  if 0 ≤ d.exponent then digits ++ List.replicate d.exponent.toNat '0'
  else
    let places := d.exponent.natAbs
    let padded := padZeros (places + 1) digits
    let whole := padded.take (padded.length - places)
    let fraction := dropTrailingZeros (padded.drop (padded.length - places))
    if fraction.isEmpty then whole else whole ++ '.' :: fraction

/-- The written form of a number: `1.5`, `-0`, `inf`, `NaN`. Not-a-number shows no sign. -/
def Binary64.text : Binary64 → String
  | nan _ => "NaN"
  | infinite s => if s then "-inf" else "inf"
  | finite s m =>
    let body := if m.code = 0 then ['0'] else m.shortest.positional
    String.ofList (if s then '-' :: body else body)

end CredentialKeeper
