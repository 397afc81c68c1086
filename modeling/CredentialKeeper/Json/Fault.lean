import CredentialKeeper.Number.Decimal
import CredentialKeeper.Text.Quoted
import CredentialKeeper.Text.Utf8

/-!
# Faults of a JSON text

What can be wrong with a JSON text, and where. A reader that meets a fault stops: a `Stop` holds
what was left of the text, from which the line and the column follow. Lines count from one; the
column is the number of bytes of the line up to the fault.
-/

namespace CredentialKeeper.Json

/-- A number as a text writes it: a whole one as far as it fits 64 bits, else a binary64. -/
inductive Number where
  | natural (n : Nat)
  | negative (n : Int)
  | real (x : Binary64)
deriving DecidableEq

/-- What a value is, for a reader that wanted something else. -/
inductive Shape where
  | null
  | boolean (b : Bool)
  | number (n : Number)
  | text (s : String)
  | sequence
  | map
deriving DecidableEq

inductive Fault where
  | eofInList
  | eofInObject
  | eofInText
  | eofInValue
  | expectedColon
  | expectedListCommaOrEnd
  | expectedObjectCommaOrEnd
  | expectedWord
  | expectedValue
  | invalidEscape
  | invalidNumber
  | numberOutOfRange
  | controlCharacter
  | keyNotText
  | loneSurrogate
  | trailingComma
  | trailingCharacters
  | brokenSurrogatePair
  | wrongType (found : Shape) (wanted : String)
  | outOfRange (n : Nat) (wanted : String)
  | wrongLength (n : Nat) (wanted : String)
  | missingField (name : String)
  | duplicateField (name : String)
deriving DecidableEq

/-- A finite number with its fewest digits: positional with a point from `0.00001` to below
`10 ^ 16`, else with an exponent. -/
def realText (negative : Bool) (m : Magnitude) : String :=
  let d := m.shortest
  let digits := Nat.toDigits 10 d.digits
  let point : Int := digits.length + d.exponent
  let body :=
    if m.code = 0 then ['0', '.', '0']
    else if -5 < point ∧ point ≤ 16 then
      if 0 ≤ d.exponent then d.positional ++ ['.', '0'] else d.positional
    else
      let fraction := if digits.length = 1 then [] else '.' :: digits.drop 1
      let exponent := (toString (point - 1)).toList
      digits.take 1 ++ fraction ++ 'e' :: exponent
  String.ofList (if negative then '-' :: body else body)

def Number.phrase : Number → String
  | natural n => "integer `" ++ toString n ++ "`"
  | negative n => "integer `" ++ toString n ++ "`"
  | real (.finite s m) => "floating point `" ++ realText s m ++ "`"
  | real x => "floating point `" ++ x.text ++ "`"

def Shape.phrase : Shape → String
  | null => "null"
  | boolean b => "boolean `" ++ toString b ++ "`"
  | number n => n.phrase
  | text s => "string " ++ Text.quote s
  | sequence => "sequence"
  | map => "map"

def Fault.message : Fault → String
  | eofInList => "EOF while parsing a list"
  | eofInObject => "EOF while parsing an object"
  | eofInText => "EOF while parsing a string"
  | eofInValue => "EOF while parsing a value"
  | expectedColon => "expected `:`"
  | expectedListCommaOrEnd => "expected `,` or `]`"
  | expectedObjectCommaOrEnd => "expected `,` or `\x7d`"
  | expectedWord => "expected ident"
  | expectedValue => "expected value"
  | invalidEscape => "invalid escape"
  | invalidNumber => "invalid number"
  | numberOutOfRange => "number out of range"
  | controlCharacter => "control character (\\u0000-\\u001F) found while parsing a string"
  | keyNotText => "key must be a string"
  | loneSurrogate => "lone leading surrogate in hex escape"
  | trailingComma => "trailing comma"
  | trailingCharacters => "trailing characters"
  | brokenSurrogatePair => "unexpected end of hex escape"
  | wrongType found wanted => "invalid type: " ++ found.phrase ++ ", expected " ++ wanted
  | outOfRange n wanted => "invalid value: " ++ (Number.natural n).phrase ++ ", expected " ++ wanted
  | wrongLength n wanted => "invalid length " ++ toString n ++ ", expected " ++ wanted
  | missingField name => "missing field `" ++ name ++ "`"
  | duplicateField name => "duplicate field `" ++ name ++ "`"

structure Stop where
  fault : Fault
  /-- What was left of the text. -/
  rest : List Char
  /-- How many bytes past the beginning of the rest the fault lies, as far as there are so many. -/
  past : Nat
deriving DecidableEq

/-- A reader's answer with what is left of the text, or the fault that it met. -/
abbrev Reading (α : Type) := Except Stop (α × List Char)

def stop {α : Type} (fault : Fault) (rest : List Char) : Except Stop α := .error ⟨fault, rest, 0⟩

/-- A fault at the next byte. -/
def stopAt {α : Type} (fault : Fault) (rest : List Char) : Except Stop α := .error ⟨fault, rest, 1⟩

structure Place where
  line : Nat
  column : Nat
deriving DecidableEq

def Place.after (bytes : List UInt8) : Place :=
  bytes.foldl (fun p b => if b = 10 then ⟨p.line + 1, 0⟩ else ⟨p.line, p.column + 1⟩) ⟨1, 0⟩

structure Error where
  fault : Fault
  place : Place
deriving DecidableEq

def Error.message (e : Error) : String :=
  e.fault.message ++ " at line " ++ toString e.place.line ++ " column " ++ toString e.place.column

/-- Where in a text a reader stopped. -/
def Stop.place (text : List Char) (s : Stop) : Place :=
  let bytes := Text.utf8 text
  .after (bytes.take (bytes.length - (Text.utf8 s.rest).length + s.past))

def Stop.error (text : List Char) (s : Stop) : Error := ⟨s.fault, s.place text⟩

end CredentialKeeper.Json
