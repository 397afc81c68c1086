import CredentialKeeper.Text.Invisible

/-!
# Quoted text

A text between quotes in which every character that would not show is written as an escape:
`"a\n\u{301}"`. A backslash and a quote get a backslash, five controls have letters of their own,
and other invisible characters give their code point.
-/

namespace CredentialKeeper.Text

def hexDigits (n : Nat) : List Char := Nat.toDigits 16 n

/-- How a quoted text shows one character. -/
def quoteChar (c : Char) : List Char :=
  match c with
  | '\x00' => ['\\', '0']
  | '\t' => ['\\', 't']
  | '\r' => ['\\', 'r']
  | '\n' => ['\\', 'n']
  | '\\' => ['\\', '\\']
  | '"' => ['\\', '"']
  | c =>
    if 0x20 ≤ c.toNat && c.toNat ≤ 0x7e then [c]
    else if inRanges graphemeExtending c.toNat || inRanges unprintable c.toNat then
      ['\\', 'u', '\x7b'] ++ hexDigits c.toNat ++ ['\x7d']
    else [c]

/-- A text between quotes, with escapes for what would not show. -/
def quote (s : String) : String := String.ofList ('"' :: s.toList.flatMap quoteChar ++ ['"'])

end CredentialKeeper.Text
