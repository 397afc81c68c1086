/-!
# Tables of code points

Properties of characters in tables. A set of code points is an array of ranges in increasing order;
a `Replacements` says what code points are written as instead. Both can be read from texts in base
16: `41-5a 5f` is a set (`readRanges`), and in `41: 61*26 a0: 20 69+307` the code points from 41
become those from 61, a0 becomes 20, and a1 becomes two (`readReplacements`).
-/

namespace CredentialKeeper.Text

/-- One of the ranges, which include their ends, holds the code point. -/
def inRanges (ranges : Array (Nat × Nat)) (code : Nat) : Bool :=
  ranges.any fun r => r.1 ≤ code && code ≤ r.2

/-- What code points in a row are replaced by. -/
structure Replacement where
  first : Nat
  count : Nat
  step : Nat
  target : List Nat
  /-- The target of a later code point is as much later. -/
  isMoving : Bool
deriving DecidableEq

/-- What a code point is replaced by, if it is one of those in the row. -/
def Replacement.target? (r : Replacement) (code : Nat) : Option (List Nat) :=
  let offset := code - r.first
  if r.first ≤ code && offset % r.step = 0 && offset / r.step < r.count then
    some (if r.isMoving then r.target.map (· + offset) else r.target)
  else none

abbrev Replacements := Array Replacement

def Replacements.target? (rs : Replacements) (code : Nat) : Option (List Nat) :=
  rs.findSome? (·.target? code)

/-! ## Reading -/

def hexValue (cs : List Char) : Nat :=
  cs.foldl (fun n c => n * 16 + (if c.isDigit then c.toNat - 48 else c.toNat - 87)) 0

def decimalValue (cs : List Char) : Nat := cs.foldl (fun n c => n * 10 + (c.toNat - 48)) 0

def words (s : String) : List (List Char) :=
  (s.toList.splitOnP fun c => c = ' ' || c = '\n').filter (!·.isEmpty)

def readRanges (s : String) : Array (Nat × Nat) :=
  (words s).toArray.map fun word =>
    match word.splitOn '-' with
    | [first, last] => (hexValue first, hexValue last)
    | _ => (hexValue word, hexValue word)

/-- The code points joined by plus signs. -/
def readTarget (cs : List Char) : List Nat := (cs.splitOn '+').map hexValue

/-- Reads what the code points from `first` on are replaced by: a lone target, or one with a count
after `*` for a row, `/` for every second code point of a row and `=` for a row with one target. -/
def readReplacement (first : Nat) (word : List Char) : Replacement :=
  let target := word.takeWhile fun c => c ≠ '*' && c ≠ '/' && c ≠ '='
  let count := decimalValue (word.drop (target.length + 1))
  match word.drop target.length with
  | [] => ⟨first, 1, 1, readTarget target, false⟩
  | mark :: _ => ⟨first, count, if mark = '/' then 2 else 1, readTarget target, mark ≠ '='⟩

def readRows : Nat → List (List Char) → List Replacement
  | _, [] => []
  | first, word :: rest =>
    if word.getLast? = some ':' then readRows (hexValue word.dropLast) rest
    else
      let r := readReplacement first word
      r :: readRows (first + (r.count - 1) * r.step + 1) rest

def readReplacements (s : String) : Replacements := (readRows 0 (words s)).toArray

end CredentialKeeper.Text
