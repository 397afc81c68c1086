/-!
# UTF-16

The code units in bytes (`codeUnits`) and the characters of code units (`fromCodeUnits?`).
-/

namespace CredentialKeeper.Text

/-- The code units of sixteen bits that pairs of bytes write. A byte left over at the end is a unit
of its own. -/
def codeUnits : List UInt8 → List Nat
  | a :: b :: rest => (a.toNat * 256 + b.toNat) :: codeUnits rest
  | [a] => [a.toNat]
  | [] => []

/-- The characters of code units; surrogates must come in pairs. -/
def fromCodeUnits? : List Nat → Option (List Char)
  | [] => some []
  | u :: rest =>
    if u < 0xd800 || 0xe000 ≤ u then (fromCodeUnits? rest).map (Char.ofNat u :: ·)
    else
      match rest with
      | v :: rest =>
        if u < 0xdc00 && 0xdc00 ≤ v && v < 0xe000 then
          let n := 0x10000 + (u - 0xd800) * 0x400 + (v - 0xdc00)
          (fromCodeUnits? rest).map (Char.ofNat n :: ·)
        else none
      | [] => none

end CredentialKeeper.Text
