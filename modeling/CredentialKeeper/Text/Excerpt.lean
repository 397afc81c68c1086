import CredentialKeeper.Text.Utf8

/-!
# Excerpts

A long text is cut to the whole characters that fit into a number of bytes, and three dots say that
it was cut. The characters that fit are counted from the start (`excerpt`); the same cut is found in
the bytes by going back from the last one that fits (`cutBack?`).
-/

namespace CredentialKeeper.Text

/-- The characters from the start that fit into so many bytes. -/
def fitting : Nat → List Char → List Char
  | _, [] => []
  | room, c :: rest => if c.utf8Size ≤ room then c :: fitting (room - c.utf8Size) rest else []

/-- A text, or what fits of it into so many bytes. -/
def excerpt (text : String) (room : Nat) : String :=
  if text.utf8ByteSize ≤ room then text
  else String.ofList (fitting room text.toList) ++ "..."

/-- A byte within a character, past its first one. -/
def isContinuation (b : UInt8) : Bool := 0x80 ≤ b.toNat && b.toNat < 0xc0

/-- An offset at the start of bytes, at the first byte of a character, or at the end. -/
def isBoundary (bytes : List UInt8) (offset : Nat) : Bool :=
  offset = 0 ||
    match bytes[offset]? with
    | some b => !isContinuation b
    | none => offset = bytes.length

/-- The last boundary up to an offset, looked for by going back one byte at a time. The search fails
if it would go back past the start. -/
def boundaryUpTo? (bytes : List UInt8) : Nat → Option Nat
  | 0 => if isBoundary bytes 0 then some 0 else none
  | n + 1 => if isBoundary bytes (n + 1) then some (n + 1) else boundaryUpTo? bytes n

/-- What stands before an offset of a text, which must be a boundary. -/
def before? (text : String) (offset : Nat) : Option String :=
  let bytes := utf8 text.toList
  if isBoundary bytes offset then String.fromUTF8? ⟨(bytes.take offset).toArray⟩ else none

/-- The excerpt of a text, cut at the last boundary that fits. There is none if the search or the
cut fails. -/
def cutBack? (text : String) (room : Nat) : Option String :=
  if text.utf8ByteSize ≤ room then some text
  else
    match boundaryUpTo? (utf8 text.toList) room with
    | none => none
    | some offset => (before? text offset).map (· ++ "...")

end CredentialKeeper.Text
