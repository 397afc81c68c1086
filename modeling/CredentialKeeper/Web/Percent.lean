import CredentialKeeper.Text.Utf8

/-!
# Bytes after percent signs

An address writes what may not stand in it as bytes, each with two digits in base 16 after a percent
sign. Writing leaves a percent sign as it is, so that what has been written so is not written again.
-/

namespace CredentialKeeper.Web

def hexDigit? (c : Char) : Option Nat :=
  if c.isDigit then some (c.toNat - 48)
  else if 'a' ≤ c ∧ c ≤ 'f' then some (c.toNat - 87)
  else if 'A' ≤ c ∧ c ≤ 'F' then some (c.toNat - 55)
  else none

/-- The bytes of a text in which a percent sign and two digits stand for a byte. -/
def percentDecode : List Char → List UInt8
  | '%' :: a :: b :: rest =>
    match hexDigit? a, hexDigit? b with
    | some x, some y => UInt8.ofNat (x * 16 + y) :: percentDecode rest
    | _, _ => 0x25 :: percentDecode (a :: b :: rest)
  | c :: rest => Text.utf8 [c] ++ percentDecode rest
  | [] => []

def hexPair (b : UInt8) : List Char :=
  let digit (n : Nat) : Char := if n < 10 then Char.ofNat (48 + n) else Char.ofNat (55 + n)
  ['%', digit (b.toNat / 16), digit (b.toNat % 16)]

/-- Writes characters, those outside printable ASCII and some others as bytes. -/
def percentEncode (others : String) (cs : List Char) : List Char :=
  cs.flatMap fun c =>
    if c.toNat < 0x20 || 0x7e < c.toNat || others.toList.contains c then
      (Text.utf8 [c]).flatMap hexPair
    else [c]

end CredentialKeeper.Web
