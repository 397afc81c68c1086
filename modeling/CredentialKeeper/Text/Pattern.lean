import CredentialKeeper.Text.Alphanumeric

/-!
# Patterns

Regular expressions, as far as it matters whether a text is one (`isPattern`). Patterns know the
cases of letters, digits, blanks, words and their borders in ASCII only, so that the signs for them
are allowed where `(?-u)` limits a pattern to ASCII. Every part of a pattern stands for whole
characters. Repetitions are not counted, and no part looks ahead or back.
-/

namespace CredentialKeeper.Text.Pattern

/-- How a place of a pattern is read. -/
structure Mode where
  ignoresCase : Bool
  isAscii : Bool
deriving DecidableEq

/-- Characters can stand for themselves. -/
def Mode.hasLetters (m : Mode) : Bool := !m.ignoresCase || m.isAscii

/-! ## Signs after a backslash -/

inductive Escape where
  | letter (c : Char)
  | letters
  | border
deriving DecidableEq

/-- The letters for control characters. -/
def controls : List (Char × Char) :=
  [('a', '\x07'), ('f', '\x0c'), ('t', '\t'), ('n', '\n'), ('r', '\r'), ('v', '\x0b')]

/-- The letters before so many digits in base 16. -/
def digitCounts : List (Char × Nat) := [('x', 2), ('u', 4), ('U', 8)]

/-- The character whose number has so many digits in base 16. -/
def numbered? (count : Nat) (cs : List Char) : Option (Char × List Char) :=
  let digits := (cs.take count).map Char.toLower
  let n := hexValue digits
  if digits.length = count && digits.all (fun c => c.isDigit || ('a' ≤ c && c ≤ 'f')) &&
      (n < 0xd800 || 0xe000 ≤ n) && n < 0x110000 then
    some (Char.ofNat n, cs.drop count)
  else none

def readEscape? (m : Mode) : List Char → Option (Escape × List Char)
  | [] => none
  | c :: rest =>
    match digitCounts.lookup c, controls.lookup c with
    | some count, _ => (numbered? count rest).map fun (c, rest) => (.letter c, rest)
    | none, some control => some (.letter control, rest)
    | none, none =>
      if c = 'A' || c = 'z' then some (.border, rest)
      else if "bB<>".toList.contains c then if m.isAscii then some (.border, rest) else none
      else if "dsw".toList.contains c then if m.isAscii then some (.letters, rest) else none
      else if c.toNat < 128 && !c.isAlphanum then some (.letter c, rest)
      else none

/-! ## Classes of characters -/

/-- The names of classes within a class. -/
def classNames : List String :=
  ["alnum", "alpha", "ascii", "blank", "cntrl", "digit", "graph", "lower", "print", "punct",
    "space", "upper", "word", "xdigit"]

/-- What follows the name of a class, as in `[:alpha:]` after the first bracket. -/
def skipNamed? (cs : List Char) : Option (List Char) :=
  match cs with
  | ':' :: rest =>
    let rest := if rest.head? = some '^' then rest.tail else rest
    let name := rest.takeWhile Char.isLower
    match rest.drop name.length with
    | ':' :: ']' :: after => if classNames.contains (String.ofList name) then some after else none
    | _ => none
  | _ => none

/-- What follows the beginning of a class, where dashes or else a bracket stand for themselves. The
other characters can be meant only beyond ASCII. -/
def openClass? (m : Mode) (cs : List Char) : Option (List Char) :=
  let isNegated := cs.head? = some '^'
  let cs := if isNegated then cs.tail else cs
  let rest := cs.dropWhile (· = '-')
  if isNegated && m.isAscii then none
  else if rest.length = cs.length && rest.head? = some ']' then some rest.tail
  else some rest

/-- Reads a character or a set of them in a class. -/
def readItem? (m : Mode) : List Char → Option (Option Char × List Char)
  | [] => none
  | '\\' :: rest =>
    match readEscape? m rest with
    | some (.letter c, rest) => some (some c, rest)
    | some (.letters, rest) => some (none, rest)
    | _ => none
  | c :: rest => if m.isAscii && 128 ≤ c.toNat then none else some (some c, rest)

/-- What follows a character or a range of them in a class. -/
def skipRange? (m : Mode) (cs : List Char) : Option (List Char) :=
  match readItem? m cs with
  | none => none
  | some (low, rest) =>
    match rest with
    | '-' :: next :: after =>
      if next = ']' || next = '-' then some rest
      else
        match low, readItem? m (next :: after) with
        | some low, some (some high, rest) => if low ≤ high then some rest else none
        | _, _ => none
    | _ => some rest

/-- What follows the end of a class, within so many classes. -/
def skipClass? (m : Mode) : (fuel depth : Nat) → List Char → Option (List Char)
  | 0, _, _ => none
  | fuel + 1, depth, cs =>
    match cs with
    | ']' :: rest => if depth = 0 then some rest else skipClass? m fuel (depth - 1) rest
    | '[' :: rest =>
      match skipNamed? rest with
      | some rest => skipClass? m fuel depth rest
      | none => (openClass? m rest).bind (skipClass? m fuel (depth + 1))
    | '&' :: '&' :: rest | '-' :: '-' :: rest | '~' :: '~' :: rest => skipClass? m fuel depth rest
    | _ => (skipRange? m cs).bind (skipClass? m fuel depth)

/-! ## Groups -/

inductive Opening where
  /-- A group, which may have a name. -/
  | group (name : Option (List Char)) (m : Mode)
  /-- No group, but another mode for the rest of the one around. -/
  | mode (m : Mode)

/-- The letters of modes, each at most once; those after a dash are ended. -/
def readFlags? (m : Mode) (isOff : Bool) (seen : List Char) :
    List Char → Option (Opening × List Char)
  | [] => none
  | c :: rest =>
    if c = ':' || c = ')' then
      if seen.head? = some '-' || (c = ')' && seen.isEmpty) then none
      else some (if c = ':' then .group none m else .mode m, rest)
    else if seen.contains c || !"imsUuRx-".toList.contains c then none
    else
      let m := match c with
        | 'i' => { m with ignoresCase := !isOff }
        | 'u' => { m with isAscii := isOff }
        | _ => m
      readFlags? m (isOff || c = '-') (c :: seen) rest

def readName? (cs : List Char) : Option (List Char × List Char) :=
  let name := cs.takeWhile (· ≠ '>')
  let isFirst (c : Char) : Bool := c = '_' || (isAlphanumeric c && !c.isDigit)
  if (cs.drop name.length).isEmpty || !name.head?.any isFirst ||
      !name.all (fun c => isAlphanumeric c || "_.[]".toList.contains c) then none
  else some (name, cs.drop (name.length + 1))

def readOpening? (m : Mode) (cs : List Char) : Option (Opening × List Char) :=
  let named (rest : List Char) :=
    (readName? rest).map fun (name, rest) => (Opening.group (some name) m, rest)
  match cs with
  | '?' :: 'P' :: '<' :: rest => named rest
  | '?' :: '<' :: rest => named rest
  | '?' :: rest => readFlags? m false [] rest
  | _ => some (.group none m, cs)

/-! ## Patterns -/

structure Place where
  mode : Mode
  /-- The modes of the groups around. -/
  outer : List Mode
  names : List (List Char)
  /-- Something to repeat stands in front. -/
  canRepeat : Bool

/-- The rest of a text after a place goes on as a pattern to its end. -/
def goesOn : (fuel : Nat) → Place → List Char → Bool
  | 0, _, _ => false
  | fuel + 1, p, cs =>
    let after (rest : List Char) : Bool := goesOn fuel { p with canRepeat := true } rest
    match cs with
    | [] => p.outer.isEmpty
    | '|' :: rest => goesOn fuel { p with canRepeat := false } rest
    | '(' :: rest =>
      match readOpening? p.mode rest with
      | none => false
      | some (.mode mode, rest) => goesOn fuel { p with mode, canRepeat := false } rest
      | some (.group name mode, rest) =>
        !name.any p.names.contains &&
          goesOn fuel ⟨mode, p.mode :: p.outer, name.toList ++ p.names, false⟩ rest
    | ')' :: rest =>
      match p.outer with
      | [] => false
      | mode :: outer => goesOn fuel { p with mode, outer, canRepeat := true } rest
    | '[' :: rest =>
      match (openClass? p.mode rest).bind (skipClass? p.mode rest.length 0) with
      | none => false
      | some rest => p.mode.hasLetters && after rest
    | '\\' :: rest =>
      match readEscape? p.mode rest with
      | none => false
      | some (.letter _, rest) => p.mode.hasLetters && after rest
      | some (_, rest) => after rest
    | c :: rest =>
      if "*+?".toList.contains c then p.canRepeat && after rest
      else if c = '\x7b' then false
      else if c = '^' || c = '$' then after rest
      else if c = '.' then !p.mode.isAscii && after rest
      else p.mode.hasLetters && after rest

def isPattern (s : String) : Bool :=
  goesOn (s.toList.length + 1) ⟨⟨false, false⟩, [], [], false⟩ s.toList

example : isPattern "fcm:[a-z]+|(?P<a>.*)" = true := by cbv
example : isPattern "a)" = false ∧ isPattern "+a" = false ∧ isPattern "[b-a]" = false := by
  refine ⟨?_, ?_, ?_⟩ <;> cbv

end CredentialKeeper.Text.Pattern
