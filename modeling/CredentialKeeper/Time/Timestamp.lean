import CredentialKeeper.Time.Calendar

/-!
# Times in digits

The fields of a time as pairs of digits in bytes, and the seconds that they stand for.
-/

namespace CredentialKeeper.Timestamp

def twoDigits? : List UInt8 → Option (Nat × List UInt8)
  | a :: b :: rest =>
    if 48 ≤ a ∧ a ≤ 57 ∧ 48 ≤ b ∧ b ≤ 57 then some ((a.toNat - 48) * 10 + (b.toNat - 48), rest)
    else none
  | _ => none

def pairs? : Nat → List UInt8 → Option (List Nat × List UInt8)
  | 0, bytes => some ([], bytes)
  | count + 1, bytes =>
    match twoDigits? bytes with
    | none => none
    | some (n, rest) => (pairs? count rest).map fun (ns, rest) => (n :: ns, rest)

/-- The seconds from 1970 to a time of a day. -/
def secondsOf? (year : Int) (month day hour minute second : Nat) : Option Int :=
  let date : Date := ⟨year, month, day⟩
  if date.isValid && hour ≤ 23 && minute ≤ 59 && second ≤ 59 then
    some (date.toDays * 86400 + (hour * 3600 + minute * 60 + second : Nat))
  else none

/-- The year that two digits stand for. -/
def centuryYear (year : Nat) : Nat := if 50 ≤ year then 1900 + year else 2000 + year

end CredentialKeeper.Timestamp
