import CredentialKeeper.Environment
import CredentialKeeper.Text.Alphanumeric
import CredentialKeeper.Text.Blank

/-!
# Files of variables

A file of variables has lines such as `NAME=value # remark`. Values may stand in quotes of two
kinds: in single ones everything stands for itself, while elsewhere a backslash marks the next
character and a dollar sign a variable. A value in quotes may go on over lines. Reading stops at the
first bad line; the variables before it count. A variable that is set is not changed.
-/

namespace CredentialKeeper.VariableFile

/-- Where the end of a line finds the reader. -/
inductive Inside where
  | plain
  | escape
  | single
  | singleEscape
  | double
  | doubleEscape
  | remark
  | blank
deriving DecidableEq

/-- What a character leads to, outside remarks. -/
def Inside.next (c : Char) : Inside → Inside
  | escape => plain
  | single => if c = '\\' then singleEscape else if c = '\'' then plain else single
  | singleEscape => single
  | double => if c = '\\' then doubleEscape else if c = '"' then plain else double
  | doubleEscape => double
  | remark => remark
  | state =>
    if state = blank ∧ c = '#' then remark
    else if c = '\\' then escape
    else if c = '"' then double
    else if c = '\'' then single
    else if state = plain ∧ Text.isBlank c ∧ c ≠ '\n' ∧ c ≠ '\r' then blank
    else plain

/-- Reads a line up to a remark; tells the state at the end and how much was read. -/
def scan : Inside → List Char → Inside × List Char
  | state, [] => (state, [])
  | state, c :: rest =>
    let state := state.next c
    if state = .remark then (.remark, [])
    else
      let (last, read) := scan state rest
      (last, c :: read)

def splitLines : List UInt8 → List (List UInt8)
  | [] => []
  | c :: rest =>
    if c = 0x0a then [c] :: splitLines rest
    else
      match splitLines rest with
      | [] => [[c]]
      | line :: lines => (c :: line) :: lines

/-- The entries of a file: lines, or several of them where a value goes on. The last is none if a
line is no text or the file ends within a value. -/
def entries (state : Inside) (started : List Char) : List (List UInt8) → List (Option (List Char))
  | [] => if state = .plain then [] else [none]
  | bytes :: lines =>
    match String.fromUTF8? ⟨bytes.toArray⟩ with
    | none => [none]
    | some line =>
      if ((started ++ line.toList).dropWhile Text.isBlank).head? = some '#' then
        some [] :: entries .plain [] lines
      else
        match scan state line.toList with
        | (.plain, read) => some (started ++ read) :: entries .plain [] lines
        | (.remark, read) => some (started ++ read) :: entries .plain [] lines
        | (state, read) => entries state (started ++ read) lines

/-! ## Values -/

/-- How a variable is named after a dollar sign. -/
inductive Naming where
  | bare
  | braced
deriving DecidableEq

structure Value where
  /-- What is there, the last character first. -/
  read : List Char
  isSingle : Bool
  isDouble : Bool
  isEscaped : Bool
  isOver : Bool
  /-- The variable being named, if any, with the last character first. -/
  naming : Option (Naming × List Char)

namespace Value

def empty : Value := ⟨[], false, false, false, false, none⟩

/-- Puts a variable's value in the place of its name. -/
def insert (value : String → String) (v : Value) (name : List Char) : Value :=
  { v with
    read := (value (String.ofList name.reverse)).toList.reverse ++ v.read
    naming := none }

/-- Reads a character; none if it may not stand there. -/
def push (value : String → String) (v : Value) (c : Char) : Option Value :=
  let keep (v : Value) : Value := { v with read := c :: v.read }
  if v.isEscaped then
    if "\\'\"$ ".toList.contains c then some { keep v with isEscaped := false }
    else if c = 'n' then some { v with read := '\n' :: v.read, isEscaped := false }
    else none
  else if v.isSingle then some (if c = '\'' then { v with isSingle := false } else keep v)
  else
    match v.naming with
    | some (.bare, name) =>
      if Text.isAlphanumeric c then some { v with naming := some (.bare, c :: name) }
      else if c = '\x7b' && name.isEmpty then some { v with naming := some (.braced, []) }
      else
        let v := v.insert value name
        some (if c = '$' then { v with naming := some (.bare, []) } else keep v)
    | some (.braced, name) =>
      if c = '\x7d' then some (v.insert value name)
      else some { v with naming := some (.braced, c :: name) }
    | none =>
      if c = '$' then some { v with naming := some (.bare, []) }
      else if c = '\\' then some { v with isEscaped := true }
      else if v.isDouble then some (if c = '"' then { v with isDouble := false } else keep v)
      else if c = '\'' then some { v with isSingle := true }
      else if c = '"' then some { v with isDouble := true }
      else if c = ' ' || c = '\t' then some { v with isOver := true }
      else some (keep v)

/-- Reads a value to its end. After a blank only a remark may follow. -/
def readAll (value : String → String) (v : Value) : List Char → Option Value
  | [] => some v
  | c :: rest =>
    if v.isOver then
      if c = ' ' || c = '\t' then readAll value v rest
      else if c = '#' then some v
      else none
    else
      match v.push value c with
      | none => none
      | some v => readAll value v rest

def parse? (value : String → String) (cs : List Char) : Option String :=
  match readAll value empty cs with
  | none => none
  | some v =>
    if v.isSingle || v.isDouble then none
    else
      match v.naming with
      | some (.braced, _) => none
      | some (.bare, name) => some (String.ofList (v.insert value name).read.reverse)
      | none => some (String.ofList v.read.reverse)

end Value

/-! ## Lines -/

def skipBlanks (cs : List Char) : List Char := cs.dropWhile Text.isBlank

def readName (cs : List Char) : Option (String × List Char) :=
  match cs with
  | c :: _ =>
    if c.isAlpha || c = '_' then
      let name := cs.takeWhile fun c => c.isAlphanum || c = '_' || c = '.'
      some (String.ofList name, skipBlanks (cs.drop name.length))
    else none
  | [] => none

/-- The name of a line, after which comes the value. The word `export` may go before. -/
def readAssignment (cs : List Char) : Option (String × List Char) :=
  match readName cs with
  | none => none
  | some (name, '=' :: rest) => some (name, skipBlanks rest)
  | some (name, rest) =>
    if name = "export" then
      match readName rest with
      | some (name, '=' :: rest) => some (name, skipBlanks rest)
      | _ => none
    else none

/-- What a line says: nothing, or that a variable has a value. -/
def readLine (value : String → String) (line : List Char) : Option (Option (String × String)) :=
  let cs := skipBlanks (line.reverse.dropWhile Text.isBlank).reverse
  if cs.isEmpty || cs.head? = some '#' then some none
  else
    match readAssignment cs with
    | none => none
    | some (name, rest) =>
      if rest.isEmpty || rest.head? = some '#' then some (some (name, ""))
      else (Value.parse? value rest).map fun text => some (name, text)

/-- The value of a variable: that of the environment, or else the last one read for it. -/
def valueIn (env : Environment) (read : List (String × String)) (name : String) : String :=
  match env.text? name with
  | some text => text
  | none => (read.lookup name).getD ""

def extend (env : Environment) (read : List (String × String)) :
    List (Option (List Char)) → Environment
  | [] | none :: _ => env
  | some line :: rest =>
    match readLine (valueIn env read) line with
    | none => env
    | some none => extend env read rest
    | some (some (name, text)) =>
      let env := if (env.text? name).isSome then env
        else ⟨(name, text.toUTF8) :: env.entries⟩
      extend env ((name, text) :: read) rest

def load (env : Environment) (bytes : ByteArray) : Environment :=
  let bytes := match bytes.toList with
    | 0xef :: 0xbb :: 0xbf :: rest => rest
    | rest => rest
  extend env [] (entries .plain [] (splitLines bytes))

end CredentialKeeper.VariableFile
