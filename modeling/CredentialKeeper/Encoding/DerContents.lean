import CredentialKeeper.Text.Utf16
import CredentialKeeper.Time.Timestamp

/-!
# What values may hold

Values of some tags hold text or times, and not all bytes are one. Times are read as such
(`shortTime?`, `longTime?`), and `allows` tells whether contents are what their tag says.
-/

namespace CredentialKeeper.Der

open Timestamp

def isDigit (b : UInt8) : Bool := 48 ≤ b && b ≤ 57

/-- The letters, digits, blanks and signs that a printable string may hold. -/
def isPrintable (b : UInt8) : Bool :=
  let c := Char.ofNat b.toNat
  c.isAlphanum || " '()+,-./:=?".toList.contains c

def isUtf8 (contents : List UInt8) : Bool := (String.fromUTF8? ⟨contents.toArray⟩).isSome

/-- Reads a time with a two-digit year: six pairs of digits and a `Z`. -/
def shortTime? (contents : List UInt8) : Option Int :=
  match pairs? 6 contents with
  | some ([year, month, day, hour, minute, second], [0x5a]) =>
    secondsOf? (centuryYear year) month day hour minute second
  | _ => none

/-- Reads a time with a four-digit year: seven pairs of digits, those of a fraction and a `Z`. A
point may stand before the fraction; the year may then have a sign. The fraction is dropped. -/
def longTime? (contents : List UInt8) : Option Int :=
  let isSigned := contents.head? = some 0x2b || contents.head? = some 0x2d
  match pairs? 7 (if isSigned then contents.tail else contents) with
  | some ([century, year, month, day, hour, minute, second], rest) =>
    let hasPoint := rest.head? = some 0x2e
    let ending := (if hasPoint then rest.tail else rest).dropWhile isDigit
    if ending = [0x5a] && (hasPoint || !isSigned) then
      let year : Int := century * 100 + year
      secondsOf? (if contents.head? = some 0x2d then -year else year) month day hour minute second
    else none
  | _ => none

/-- The contents are what their tag says: a single byte, bits, text or a time. Other tags allow any
contents. -/
def allows (tag : Nat) (contents : List UInt8) : Bool :=
  match tag with
  | 1 => contents.length = 1
  | 3 => contents.head?.all (·.toNat ≤ 8 * (contents.length - 1))
  | 12 | 20 | 28 => isUtf8 contents
  | 19 => contents.all isPrintable
  | 23 => (shortTime? contents).isSome
  | 24 => (longTime? contents).isSome
  | 30 => (Text.fromCodeUnits? (Text.codeUnits contents)).isSome
  | _ => true

end CredentialKeeper.Der
