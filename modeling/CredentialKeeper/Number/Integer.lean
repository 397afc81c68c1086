import CredentialKeeper.Number.Decimal

/-!
# Integers in text

Decimal integers within a range. A plus sign is allowed, and a minus sign where negative numbers
are; nothing else may stand before or after the digits.
-/

namespace CredentialKeeper

/-- A natural number up to `most`. -/
def parseNat? (most : Nat) (s : String) : Option Nat :=
  let digits := match s.toList with
    | '+' :: r => r
    | r => r
  if isDigits digits && digitsValue digits ≤ most then some (digitsValue digits) else none

def parseUInt64? (s : String) : Option UInt64 := (parseNat? 18446744073709551615 s).map UInt64.ofNat

/-- An integer from `-(most + 1)` to `most`. -/
def parseInt? (most : Nat) (s : String) : Option Int :=
  match s.toList with
  | '-' :: r =>
    if isDigits r && digitsValue r ≤ most + 1 then some (-(digitsValue r : Int)) else none
  | _ => (parseNat? most s).map Int.ofNat

def parseBool? (s : String) : Option Bool :=
  if s = "true" then some true else if s = "false" then some false else none

end CredentialKeeper
