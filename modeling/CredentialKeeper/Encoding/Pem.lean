import CredentialKeeper.Encoding.Base64
import CredentialKeeper.Text.Blank
import CredentialKeeper.Text.Utf8

/-!
# PEM files

A PEM text holds blocks of bytes between a line `-----BEGIN TAG-----` and one `-----END TAG-----`.
Text outside the blocks is ignored, and so are blank characters anywhere in the data of a block.
Headers may stand before the data, with an empty line after them. `Pem.blocks` reads all blocks and
`Pem.firstBlock` the first one; what follows the last complete block is not looked at.
-/

namespace CredentialKeeper.Pem

structure Block where
  tag : String
  contents : List UInt8
deriving DecidableEq

inductive Fault where
  /-- There is no block. -/
  | malformedFraming
  | missingBeginTag
  | missingEndTag
  | mismatchedTags (begun ended : String)
  | invalidData (cause : Base64.Fault)
  | invalidHeader (line : String)
deriving DecidableEq

def Fault.message : Fault → String
  | malformedFraming => "malformedframing"
  | missingBeginTag => "missing BEGIN tag"
  | missingEndTag => "missing END tag"
  | mismatchedTags begun ended =>
    "mismatching BEGIN (\"" ++ begun ++ "\") and END (\"" ++ ended ++ "\") tags"
  | invalidData cause => "invalid data: " ++ cause.message
  | invalidHeader line => "invalid header: " ++ line

/-- Splits a text at the first place where a mark is found. The search goes on after the character
that breaks a partial match, so that a mark that begins within one is overlooked. The last argument
is the part of the mark that is still to come. -/
def splitAt (mark : List Char) : (passed text toCome : List Char) → Option (List Char × List Char)
  | passed, text, [] => some ((passed.drop mark.length).reverse, text)
  | _, [], _ :: _ => none
  | passed, c :: text, m :: toCome =>
    splitAt mark (c :: passed) text (if c = m then toCome else mark)

/-- What stands before and after a mark. -/
def cut? (mark : String) (text : List Char) : Option (List Char × List Char) :=
  splitAt mark.toList [] text mark.toList

/-- The characters skipped after the line of a tag. -/
def isSpace (c : Char) : Bool := c = ' ' || c = '\t' || c = '\n' || c = '\r'

/-- A block as it stands in the text. -/
structure RawBlock where
  begun : List Char
  headers : List Char
  data : List Char
  ended : List Char

/-- Splits the body of a block into its headers and its data. -/
def splitHeaders (body : List Char) : List Char × List Char :=
  match cut? "\n\n" body with
  | some parts => parts
  | none =>
    match cut? "\r\n\r\n" body with
    | some parts => parts
    | none => ([], body)

def rawBlock? (text : List Char) : Option (RawBlock × List Char) :=
  match cut? "-----BEGIN " text with
  | none => none
  | some (_, text) =>
    match cut? "-----" text with
    | none => none
    | some (begun, text) =>
      match cut? "-----END " (text.dropWhile isSpace) with
      | none => none
      | some (body, text) =>
        match cut? "-----" text with
        | none => none
        | some (ended, text) =>
          let (headers, data) := splitHeaders body
          some (⟨begun, headers, data, ended⟩, text.dropWhile isSpace)

def splitLines : List Char → List (List Char)
  | [] => [[]]
  | c :: text =>
    match splitLines text with
    | [] => []
    | line :: rest => if c = '\n' then [] :: line :: rest else (c :: line) :: rest

/-- The lines of a text without their ends. The last one need not have an end. -/
def lines (text : List Char) : List (List Char) :=
  let parts := splitLines text
  let ended := parts.dropLast.map fun l => if l.getLast? = some '\r' then l.dropLast else l
  ended ++ (parts.drop ended.length).filter (!·.isEmpty)

/-- Reads a block: the tags first, then the data without its blank characters, then the headers,
each of which has a colon. -/
def RawBlock.read (b : RawBlock) : Except Fault Block :=
  if b.begun.isEmpty then .error .missingBeginTag
  else if b.ended.isEmpty then .error .missingEndTag
  else if b.begun ≠ b.ended then
    .error (.mismatchedTags (String.ofList b.begun) (String.ofList b.ended))
  else
    match Base64.decode (Text.utf8 (b.data.filter (!Text.isBlank ·))) with
    | .error e => .error (.invalidData e)
    | .ok contents =>
      match (lines b.headers).find? fun l => !l.contains ':' with
      | some l => .error (.invalidHeader (String.ofList l))
      | none => .ok ⟨String.ofList b.begun, contents⟩

/-- The blocks of a text as they stand there, at most so many. -/
def rawBlocks : Nat → List Char → List RawBlock
  | 0, _ => []
  | most + 1, text =>
    match rawBlock? text with
    | none => []
    | some (b, rest) => b :: rawBlocks most rest

def readAll : List RawBlock → Except Fault (List Block)
  | [] => .ok []
  | b :: rest =>
    match b.read with
    | .error e => .error e
    | .ok block =>
      match readAll rest with
      | .error e => .error e
      | .ok blocks => .ok (block :: blocks)

/-- All blocks of a text. Every block takes some of its characters. -/
def blocks (text : String) : Except Fault (List Block) :=
  readAll (rawBlocks text.length text.toList)

def firstBlock (text : String) : Except Fault Block :=
  match rawBlock? text.toList with
  | none => .error .malformedFraming
  | some (b, _) => b.read

end CredentialKeeper.Pem
