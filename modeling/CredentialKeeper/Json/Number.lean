import CredentialKeeper.Json.Fault

/-!
# Numbers in JSON

A numeral without a fraction and an exponent is a whole number as long as it fits 64 bits. Any other
is a binary64: the digits that fit 64 bits, rounded, and then multiplied or divided by a power of
ten (`scale?`), so that the last bit may differ from that of the nearest number. A number past the
greatest one is a fault.
-/

namespace CredentialKeeper.Json

/-- The greatest whole number that is read digit by digit. -/
abbrev mostDigits : Nat := 18446744073709551615

/-- Appends digits to a number as long as it stays within 64 bits: the number, how many digits were
taken, and what is left. -/
def takeDigits (n : Nat) : List Char → Nat × Nat × List Char
  | [] => (n, 0, [])
  | c :: r =>
    let next := 10 * n + (c.toNat - 48)
    if c.isDigit && next ≤ mostDigits then
      let (m, count, rest) := takeDigits next r
      (m, count + 1, rest)
    else (n, 0, c :: r)

/-- A number times a power of ten, unless it is too great. -/
def scale? (x : Binary64) (exponent : Int) : Option Binary64 :=
  if exponent.natAbs ≤ 308 then
    let power := Binary64.ofNat (Nat.pow 10 exponent.natAbs)
    if 0 ≤ exponent then
      match x.mul power with
      | .infinite _ => none
      | y => some y
    else some (x.div power)
  else if x.eq .zero then some x
  else if 0 ≤ exponent then none
  else scale? (x.div (.ofNat (Nat.pow 10 308))) (exponent + 308)
termination_by exponent.natAbs

/-- The number with a sign, significant digits and a decimal exponent. -/
def finishReal (isNegative : Bool) (digits : Nat) (exponent : Int) (rest : List Char) :
    Reading Number :=
  match scale? (.ofNat digits) exponent with
  | none => stop .numberOutOfRange rest
  | some x => .ok (.real (if isNegative then x.negate else x), rest)

/-- The digits of an exponent, up to 31 bits: the exponent, or nothing if it does not fit, and what
is left after the last digit that was looked at. -/
def readExponentDigits (n : Nat) : List Char → Option Nat × List Char
  | [] => (some n, [])
  | c :: r =>
    if c.isDigit then
      let next := 10 * n + (c.toNat - 48)
      if next ≤ 2147483647 then readExponentDigits next r else (none, r)
    else (some n, c :: r)

def readExponent (isNegative : Bool) (digits : Nat) (start : Int) (cs : List Char) :
    Reading Number :=
  let (down, cs) := match cs with
    | '+' :: r => (false, r)
    | '-' :: r => (true, r)
    | r => (false, r)
  match cs with
  | [] => stop .eofInValue []
  | c :: r =>
    if c.isDigit then
      match readExponentDigits (c.toNat - 48) r with
      | (some n, r) => finishReal isNegative digits (if down then start - n else start + n) r
      | (none, r) =>
        if digits ≠ 0 && !down then stop .numberOutOfRange r
        else .ok (.real (.finite isNegative .zero), r.dropWhile Char.isDigit)
    else stopAt .invalidNumber cs

/-- What may follow the digits of a number that is not whole. -/
def readTail (isNegative : Bool) (digits : Nat) (exponent : Int) (cs : List Char) :
    Reading Number :=
  match cs with
  | 'e' :: r | 'E' :: r => readExponent isNegative digits exponent r
  | _ => finishReal isNegative digits exponent cs

/-- The fraction of a number, after its point. Digits that no longer fit are dropped. -/
def readFraction (isNegative : Bool) (digits : Nat) (exponent : Int) (cs : List Char) :
    Reading Number :=
  let (digits, count, rest) := takeDigits digits cs
  if (rest.head?).any Char.isDigit then
    readTail isNegative digits (exponent - count) (rest.dropWhile Char.isDigit)
  else if count = 0 then
    if rest.isEmpty then stop .eofInValue [] else stopAt .invalidNumber rest
  else readTail isNegative digits (exponent - count) rest

/-- A whole number with its sign. Minus zero is not whole, and neither is a number below 64 bits. -/
def wholeNumber (isNegative : Bool) (n : Nat) : Number :=
  if !isNegative then .natural n
  else if n = 0 || 9223372036854775808 < n then .real (Binary64.ofNat n).negate
  else .negative (-n)

def readUnsigned (isNegative : Bool) (cs : List Char) : Reading Number :=
  match cs with
  | [] => stop .eofInValue []
  | c :: r =>
    if !c.isDigit then stopAt .invalidNumber cs
    else if c = '0' && (r.head?).any Char.isDigit then stopAt .invalidNumber r
    else
      let (digits, _, rest) := takeDigits 0 cs
      match rest with
      | '.' :: r => readFraction isNegative digits 0 r
      | 'e' :: r | 'E' :: r => readExponent isNegative digits 0 r
      | _ =>
        let dropped := (rest.takeWhile Char.isDigit).length
        if dropped = 0 then .ok (wholeNumber isNegative digits, rest)
        else
          match rest.dropWhile Char.isDigit with
          | '.' :: r => readFraction isNegative digits dropped r
          | r => readTail isNegative digits dropped r

def readNumber (cs : List Char) : Reading Number :=
  match cs with
  | '-' :: r => readUnsigned true r
  | _ => readUnsigned false cs

/-- Skips an exponent, after its mark. -/
def skipExponent (cs : List Char) : Except Stop (List Char) :=
  let cs := match cs with
    | '+' :: r | '-' :: r => r
    | r => r
  match cs with
  | [] => stop .invalidNumber []
  | c :: r => if c.isDigit then .ok (r.dropWhile Char.isDigit) else stopAt .invalidNumber cs

def skipUnsigned (cs : List Char) : Except Stop (List Char) :=
  match cs with
  | [] => stop .invalidNumber []
  | c :: r =>
    if !c.isDigit then stopAt .invalidNumber cs
    else if c = '0' && (r.head?).any Char.isDigit then stopAt .invalidNumber r
    else
      match cs.dropWhile Char.isDigit with
      | '.' :: r =>
        if (r.head?).any Char.isDigit then
          match r.dropWhile Char.isDigit with
          | 'e' :: r | 'E' :: r => skipExponent r
          | r => .ok r
        else stopAt .invalidNumber r
      | 'e' :: r | 'E' :: r => skipExponent r
      | r => .ok r

end CredentialKeeper.Json
