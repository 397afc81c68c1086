import CredentialKeeper.Json.Number
import CredentialKeeper.Json.Text

/-!
# Values that are not wanted

A reader that looks for something else skips a value as a whole (`skipValue`) or tells its shape
(`readShape`). A sequence or a map that has the wrong shape is not read at all.
-/

namespace CredentialKeeper.Json

/-- The characters that may stand between the parts of a text. -/
def isBlank (c : Char) : Bool := c = ' ' || c = '\n' || c = '\t' || c = '\r'

def skipBlanks (cs : List Char) : List Char := cs.dropWhile isBlank

def expectWord : List Char → List Char → Except Stop (List Char)
  | [], cs => .ok cs
  | _ :: _, [] => stop .eofInValue []
  | w :: ws, c :: r => if c = w then expectWord ws r else stopAt .expectedWord (c :: r)

/-- Reads a word after its first letter, as a shape. -/
def readWord (word : String) (shape : Shape) (cs : List Char) : Reading Shape :=
  match expectWord word.toList cs with
  | .error s => .error s
  | .ok r => .ok (shape, r)

/-- The shape of the value that begins here. -/
def readShape (cs : List Char) : Reading Shape :=
  match cs with
  | [] => stop .eofInValue []
  | c :: r =>
    match c with
    | 'n' => readWord "ull" .null r
    | 't' => readWord "rue" (.boolean true) r
    | 'f' => readWord "alse" (.boolean false) r
    | '[' => .ok (.sequence, cs)
    | '\x7b' => .ok (.map, cs)
    | '"' =>
      match readText r with
      | .error s => .error s
      | .ok (text, r) => .ok (.text (String.ofList text), r)
    | _ =>
      if c = '-' || c.isDigit then
        match readNumber cs with
        | .error s => .error s
        | .ok (n, r) => .ok (.number n, r)
      else stopAt .expectedValue cs

/-- The fault of a value that is not what was wanted. -/
def refuse {α : Type} (wanted : String) (cs : List Char) : Except Stop α :=
  match readShape cs with
  | .error s => .error s
  | .ok (shape, r) => stop (.wrongType shape wanted) r

def skipScalar (cs : List Char) : Except Stop (List Char) :=
  match cs with
  | [] => stop .eofInValue []
  | c :: r =>
    match c with
    | 'n' => expectWord "ull".toList r
    | 't' => expectWord "rue".toList r
    | 'f' => expectWord "alse".toList r
    | '-' => skipUnsigned r
    | '"' => skipText r
    | _ => if c.isDigit then skipUnsigned cs else stopAt .expectedValue cs

/-- A value that is open while its parts are read. -/
inductive Frame where
  | list
  | object
deriving DecidableEq

inductive Expected where
  | value
  /-- The first part of an open value, or its end. -/
  | firstPart
  /-- A comma, or the end of an open value. -/
  | separator
  | key
deriving DecidableEq

namespace Frame

def close : Frame → Char
  | list => ']'
  | object => '\x7d'

def eof : Frame → Fault
  | list => .eofInList
  | object => .eofInObject

def noSeparator : Frame → Fault
  | list => .expectedListCommaOrEnd
  | object => .expectedObjectCommaOrEnd

def part : Frame → Expected
  | list => .value
  | object => .key

end Frame

def skipKey (cs : List Char) : Except Stop (List Char) :=
  match skipBlanks cs with
  | [] => stop .eofInObject []
  | '"' :: r =>
    match skipText r with
    | .error s => .error s
    | .ok r =>
      match skipBlanks r with
      | [] => stop .eofInObject []
      | ':' :: r => .ok r
      | r => stopAt .expectedColon r
  | r => stopAt .keyNotText r

/-- Skips what is to come and the rest of the open values, the innermost first, in so many moves. -/
def skipParts : Nat → Expected → List Frame → List Char → Except Stop (List Char)
  | 0, _, _, cs => .ok cs
  | moves + 1, .value, open', cs =>
    match skipBlanks cs with
    | '[' :: r => skipParts moves .firstPart (.list :: open') r
    | '\x7b' :: r => skipParts moves .firstPart (.object :: open') r
    | r =>
      match skipScalar r with
      | .error s => .error s
      | .ok r => skipParts moves .separator open' r
  | moves + 1, .key, open', cs =>
    match skipKey cs with
    | .error s => .error s
    | .ok r => skipParts moves .value open' r
  | _ + 1, _, [], cs => .ok cs
  | moves + 1, .firstPart, frame :: outer, cs =>
    match skipBlanks cs with
    | [] => stop frame.eof []
    | c :: r =>
      if c = frame.close then skipParts moves .separator outer r
      else skipParts moves frame.part (frame :: outer) (c :: r)
  | moves + 1, .separator, frame :: outer, cs =>
    match skipBlanks cs with
    | [] => stop frame.eof []
    | c :: r =>
      if c = ',' then skipParts moves frame.part (frame :: outer) r
      else if c = frame.close then skipParts moves .separator outer r
      else stopAt frame.noSeparator (c :: r)

/-- Skips a value. Every other move at least takes a character. -/
def skipValue (cs : List Char) : Except Stop (List Char) :=
  skipParts (2 * cs.length + 3) .value [] cs

end CredentialKeeper.Json
