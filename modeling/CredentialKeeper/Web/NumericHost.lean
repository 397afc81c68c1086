import CredentialKeeper.Web.Percent

/-!
# Hosts that are numbers

A number of 32 bits, whose parts stand between dots in base 8, 10 or 16, and a number of 128 bits,
whose groups stand between colons in base 16. Their normal forms are four decimal parts, and groups
in which a pair of colons stands for the first longest row of zeros.
-/

namespace CredentialKeeper.Web

/-! ## Numbers of 32 bits -/

/-- The parts between dots; a dot at the end has none after it. -/
def dotParts (host : List Char) : List (List Char) :=
  let parts := host.splitOn '.'
  if 1 < parts.length ∧ parts.getLast? = some [] then parts.dropLast else parts

def numberIn? (base : Nat) (digits : List Char) : Option Nat :=
  digits.foldlM (fun n c => (hexDigit? c).bind fun d =>
    if d < base then some (n * base + d) else none) 0

/-- A number in base 16, 8 or 10, as its first characters say. -/
def number? : List Char → Option Nat
  | [] => none
  | '0' :: 'x' :: digits | '0' :: 'X' :: digits => numberIn? 16 digits
  | '0' :: d :: digits => numberIn? 8 (d :: digits)
  | digits => numberIn? 10 digits

/-- A host whose last part looks like a number must be a number as a whole. -/
def endsInNumber (host : List Char) : Bool :=
  match (dotParts host).getLastD [] with
  | [] => false
  | '0' :: 'x' :: digits | '0' :: 'X' :: digits => (numberIn? 16 digits).isSome
  | digits => digits.all Char.isDigit

/-- A number of up to four parts, of which the last fills up what is left. -/
def word? (host : List Char) : Option Nat :=
  match (dotParts host).mapM number? with
  | none => none
  | some numbers =>
    let first := numbers.dropLast
    let last := numbers.getLastD 0
    let weight := Nat.pow 256 (5 - numbers.length)
    if 4 < numbers.length || first.any (255 < ·) || weight ≤ last then none
    else some (first.foldl (fun n part => n * 256 + part) 0 * weight + last)

def wordText (n : Nat) : String :=
  ".".intercalate ([16777216, 65536, 256, 1].map fun d => toString (n / d % 256))

/-! ## Numbers of 128 bits -/

/-- The two groups that four decimal parts from 0 to 255 make, which have no zeros in front. -/
def dottedGroups? (text : List Char) : Option (List Nat) :=
  let part? (digits : List Char) : Option Nat :=
    if digits.isEmpty || 3 < digits.length || (1 < digits.length && digits.head? = some '0') then
      none
    else (numberIn? 10 digits).filter (· ≤ 255)
  match (text.splitOn '.').mapM part? with
  | some [a, b, c, d] => some [a * 256 + b, c * 256 + d]
  | _ => none

def group? (text : List Char) : Option Nat :=
  if text.isEmpty || 4 < text.length then none else numberIn? 16 text

/-- Groups between colons; the last two may be in four decimal parts where they are the last of the
number. -/
def colonGroups? (isLast : Bool) (text : List Char) : Option (List Nat) :=
  if text.isEmpty then some []
  else
    let words := text.splitOn ':'
    let last := words.getLastD []
    if isLast && last.contains '.' then do
      return (← words.dropLast.mapM group?) ++ (← dottedGroups? last)
    else words.mapM group?

/-- Cuts a text at the first pair of colons. -/
def cutAtGap : List Char → List Char × Option (List Char)
  | ':' :: ':' :: rest => ([], some rest)
  | c :: rest =>
    let (before, after) := cutAtGap rest
    (c :: before, after)
  | [] => ([], none)

/-- The eight groups of a number; a pair of colons stands for groups of zero. -/
def groups? (text : List Char) : Option (List Nat) :=
  match cutAtGap text with
  | (all, none) => (colonGroups? true all).filter (·.length = 8)
  | (before, some after) =>
    match colonGroups? false before, colonGroups? true after with
    | some a, some b =>
      if a.length + b.length < 8 then
        some (a ++ List.replicate (8 - a.length - b.length) 0 ++ b)
      else none
    | _, _ => none

/-- The place and length of the first longest row of zeros. -/
def longestZeros (groups : List Nat) : Nat × Nat :=
  (List.range 8).foldl (fun best i =>
    let length := ((groups.drop i).takeWhile (· = 0)).length
    if best.2 < length then (i, length) else best) (0, 0)

def groupsText (groups : List Nat) : String :=
  let hex (l : List Nat) : String :=
    ":".intercalate (l.map fun n => String.ofList (Nat.toDigits 16 n))
  let (place, length) := longestZeros groups
  if length < 2 then "[" ++ hex groups ++ "]"
  else "[" ++ hex (groups.take place) ++ "::" ++ hex (groups.drop (place + length)) ++ "]"

end CredentialKeeper.Web
