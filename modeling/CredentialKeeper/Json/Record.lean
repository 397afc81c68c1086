import CredentialKeeper.Json.Value

/-!
# Records in JSON

A record is read off an object, whose keys may come in any order and of which unknown ones are
skipped, or off a sequence of its fields in order. A field that may be absent keeps the value of the
blank record. Some faults concern the record as a whole: a field that is missing or comes twice, and
a sequence that is too short. They are placed after the end of the record, if it has one there.
-/

namespace CredentialKeeper.Json

/-- A field of a record: how it is called, whether it must be there, and how a value of it is read
into a record. -/
structure Field (ρ : Type) where
  name : String
  isRequired : Bool
  read : List Char → Reading (ρ → ρ)

structure RecordType (ρ : Type) where
  /-- How messages call the record. -/
  wanted : String
  blank : ρ
  fields : List (Field ρ)

def readString (cs : List Char) : Reading String :=
  match skipBlanks cs with
  | [] => stop .eofInValue []
  | '"' :: r =>
    match readText r with
    | .error s => .error s
    | .ok (text, r) => .ok (String.ofList text, r)
  | r => refuse "a string" r

/-- Reads a whole number of 64 bits with a sign. -/
def readInt (cs : List Char) : Reading Int :=
  match skipBlanks cs with
  | [] => stop .eofInValue []
  | c :: r =>
    if c = '-' || c.isDigit then
      match readNumber (c :: r) with
      | .error s => .error s
      | .ok (.natural n, r) =>
        if n ≤ 9223372036854775807 then .ok (n, r) else stop (.outOfRange n "i64") r
      | .ok (.negative n, r) => .ok (n, r)
      | .ok (.real x, r) => stop (.wrongType (.number (.real x)) "i64") r
    else refuse "i64" (c :: r)

namespace Field

variable {ρ α : Type}

/-- A field with a reader for its values and a way to put them into a record. -/
def reading (read : List Char → Reading α) (name : String) (isRequired : Bool)
    (put : α → ρ → ρ) : Field ρ where
  name
  isRequired
  read cs :=
    match read cs with
    | .error s => .error s
    | .ok (a, r) => .ok (put a, r)

def text (name : String) (put : String → ρ → ρ) : Field ρ := reading readString name true put
def optionalText (name : String) (put : String → ρ → ρ) : Field ρ :=
  reading readString name false put
def integer (name : String) (put : Int → ρ → ρ) : Field ρ := reading readInt name true put

end Field

inductive Refusal where
  | stopped (s : Stop)
  /-- A fault of the record as a whole. -/
  | flawed (fault : Fault) (rest : List Char)

/-- Moves to the next key of an object, if there is one. -/
def nextKey (isFirst : Bool) (cs : List Char) : Reading Bool :=
  match skipBlanks cs with
  | [] => stop .eofInObject []
  | '\x7d' :: r => .ok (false, '\x7d' :: r)
  | ',' :: r =>
    if isFirst then stopAt .keyNotText (',' :: r)
    else
      match skipBlanks r with
      | [] => stop .eofInValue []
      | '"' :: r => .ok (true, r)
      | '\x7d' :: r => stopAt .trailingComma ('\x7d' :: r)
      | r => stopAt .keyNotText r
  | c :: r =>
    if !isFirst then stopAt .expectedObjectCommaOrEnd (c :: r)
    else if c = '"' then .ok (true, r)
    else stopAt .keyNotText (c :: r)

def skipColon (cs : List Char) : Except Stop (List Char) :=
  match skipBlanks cs with
  | [] => stop .eofInObject []
  | ':' :: r => .ok r
  | r => stopAt .expectedColon r

namespace RecordType

variable {ρ : Type}

/-- The value of a key goes into the record, or past it. -/
def readEntry (t : RecordType ρ) (key : String) (seen : List String) (record : ρ)
    (cs : List Char) : Except Refusal ((List String × ρ) × List Char) :=
  match t.fields.find? (·.name = key) with
  | some f =>
    if key ∈ seen then .error (.flawed (.duplicateField key) cs)
    else
      match skipColon cs with
      | .error s => .error (.stopped s)
      | .ok r =>
        match f.read r with
        | .error s => .error (.stopped s)
        | .ok (put, r) => .ok ((key :: seen, put record), r)
  | none =>
    match skipColon cs with
    | .error s => .error (.stopped s)
    | .ok r =>
      match skipValue r with
      | .error s => .error (.stopped s)
      | .ok r => .ok ((seen, record), r)

/-- Reads the entries of an object in at most so many moves, up to its end. -/
def readEntries (t : RecordType ρ) :
    Nat → Bool → List String → ρ → List Char → Except Refusal ((List String × ρ) × List Char)
  | 0, _, seen, record, cs => .ok ((seen, record), cs)
  | moves + 1, isFirst, seen, record, cs =>
    match nextKey isFirst cs with
    | .error s => .error (.stopped s)
    | .ok (false, r) => .ok ((seen, record), r)
    | .ok (true, r) =>
      match readText r with
      | .error s => .error (.stopped s)
      | .ok (key, r) =>
        match t.readEntry (String.ofList key) seen record r with
        | .error e => .error e
        | .ok ((seen, record), r) => readEntries t moves false seen record r

def readObject (t : RecordType ρ) (cs : List Char) : Except Refusal (ρ × List Char) :=
  match t.readEntries (cs.length + 1) true [] t.blank cs with
  | .error e => .error e
  | .ok ((seen, record), r) =>
    match t.fields.find? fun f => f.isRequired && !seen.contains f.name with
    | some f => .error (.flawed (.missingField f.name) r)
    | none => .ok (record, r)

def nextElement (isFirst : Bool) (cs : List Char) : Reading Bool :=
  match skipBlanks cs with
  | [] => stop .eofInList []
  | ']' :: r => .ok (false, ']' :: r)
  | c :: r =>
    if isFirst then .ok (true, c :: r)
    else if c = ',' then
      match skipBlanks r with
      | [] => stop .eofInValue []
      | ']' :: r => stopAt .trailingComma (']' :: r)
      | r => .ok (true, r)
    else stopAt .expectedListCommaOrEnd (c :: r)

/-- Reads the elements of a sequence into the fields. -/
def readElements (t : RecordType ρ) (index : Nat) (record : ρ) (cs : List Char) :
    List (Field ρ) → Except Refusal (ρ × List Char)
  | [] => .ok (record, cs)
  | f :: fields =>
    match nextElement (index = 0) cs with
    | .error s => .error (.stopped s)
    | .ok (false, r) =>
      if f.isRequired then
        .error (.flawed (.wrongLength index
          (t.wanted ++ " with " ++ toString t.fields.length ++ " elements")) r)
      else readElements t (index + 1) record r fields
    | .ok (true, r) =>
      match f.read r with
      | .error s => .error (.stopped s)
      | .ok (put, r) => readElements t (index + 1) (put record) r fields

end RecordType

def closeObject (cs : List Char) : Except Stop (List Char) :=
  match skipBlanks cs with
  | [] => stop .eofInObject []
  | '\x7d' :: r => .ok r
  | ',' :: r => stopAt .trailingComma (',' :: r)
  | r => stopAt .trailingCharacters r

def closeSequence (cs : List Char) : Except Stop (List Char) :=
  match skipBlanks cs with
  | [] => stop .eofInList []
  | ']' :: r => .ok r
  | ',' :: r =>
    match skipBlanks r with
    | ']' :: r => stopAt .trailingComma (']' :: r)
    | r => stopAt .trailingCharacters r
  | r => stopAt .trailingCharacters r

/-- Reads the end of a record after its parts. A fault of the record as a whole goes first and takes
the place where the reading of the end ends. -/
def finish {ρ : Type} (close : List Char → Except Stop (List Char)) :
    Except Refusal (ρ × List Char) → Reading ρ
  | .ok (record, r) =>
    match close r with
    | .error s => .error s
    | .ok r => .ok (record, r)
  | .error (.stopped s) => .error s
  | .error (.flawed fault r) =>
    match close r with
    | .error s => stop fault s.rest
    | .ok r => stop fault r

namespace RecordType

variable {ρ : Type}

def readValue (t : RecordType ρ) (cs : List Char) : Reading ρ :=
  match skipBlanks cs with
  | [] => stop .eofInValue []
  | '\x7b' :: r => finish closeObject (t.readObject r)
  | '[' :: r => finish closeSequence (t.readElements 0 t.blank r t.fields)
  | r => refuse t.wanted r

/-- Reads a record and nothing else. -/
def read (t : RecordType ρ) (text : String) : Except Error ρ :=
  match t.readValue text.toList with
  | .error s => .error (s.error text.toList)
  | .ok (record, r) =>
    match skipBlanks r with
    | [] => .ok record
    | r => .error (Stop.error text.toList ⟨.trailingCharacters, r, 1⟩)

end RecordType

inductive Scalar where
  | text (s : String)
  | integer (n : Int)
deriving DecidableEq

def Scalar.write : Scalar → List Char
  | text s => writeText s
  | integer n => (toString n).toList

def writeEntry (e : String × Scalar) : List Char := writeText e.1 ++ ':' :: e.2.write

/-- An object with its entries in order and no blanks. -/
def writeObject (entries : List (String × Scalar)) : String :=
  String.ofList ('\x7b' :: [','].intercalate (entries.map writeEntry) ++ ['\x7d'])

end CredentialKeeper.Json
