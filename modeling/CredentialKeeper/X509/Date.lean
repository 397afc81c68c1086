import CredentialKeeper.Time.Timestamp

/-!
# Dates in certificates

A date has two or four digits for the year, two each for the month, the day, the hour and the
minute, and two for the second unless a lone `Z` follows the minute. The short form needs a zone,
and its year is one from 1950 to 2049; the long form may have up to three digits of a fraction,
which is dropped, and ends with a `Z`. All dates are read as seconds since 1970.
-/

namespace CredentialKeeper.X509

open Timestamp

/-- The seconds by which a zone is ahead of universal time, from the sign, hours and minutes. A zone
of minutes only is ahead whatever its sign. -/
def zoneOffset? (isBehind : Bool) (bytes : List UInt8) : Option Int :=
  match pairs? 2 bytes with
  | some ([hours, minutes], []) =>
    if hours ≤ 25 ∧ minutes ≤ 59 then
      let seconds : Int := hours * 3600 + minutes * 60
      some (if isBehind && hours ≠ 0 then -seconds else seconds)
    else none
  | _ => none

def zone? : List UInt8 → Option Int
  | [0x5a] => some 0
  | 0x2b :: rest => zoneOffset? false rest
  | 0x2d :: rest => zoneOffset? true rest
  | _ => none

/-- What follows the minute: the second, or nothing where a single byte is left. -/
def second? (bytes : List UInt8) : Option (Nat × List UInt8) :=
  match bytes with
  | [] => none
  | [_] => some (0, bytes)
  | _ => twoDigits? bytes

/-- Reads a date with a two-digit year. The year is that of the place, before the zone counts. -/
def shortDate? (bytes : List UInt8) : Option Int :=
  match pairs? 5 bytes with
  | some ([year, month, day, hour, minute], rest) =>
    match second? rest with
    | none => none
    | some (second, rest) =>
      match secondsOf? (centuryYear year) month day hour minute second, zone? rest with
      | some seconds, some offset => some (seconds - offset)
      | _, _ => none
  | _ => none

def skipFraction? (bytes : List UInt8) : Option (List UInt8) :=
  let rest := bytes.dropWhile fun b => 48 ≤ b && b ≤ 57
  if 3 < bytes.length - rest.length then none else some rest

def longDate? (bytes : List UInt8) : Option Int :=
  match pairs? 6 bytes with
  | some ([century, year, month, day, hour, minute], rest) =>
    match second? rest with
    | none => none
    | some (second, rest) =>
      let rest? := match rest with
        | 0x2e :: r => skipFraction? r
        | r => some r
      if rest? = some [0x5a] then secondsOf? (century * 100 + year) month day hour minute second
      else none
  | _ => none

end CredentialKeeper.X509
