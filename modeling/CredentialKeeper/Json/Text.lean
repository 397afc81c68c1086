import CredentialKeeper.Json.Fault

/-!
# Texts in JSON

A JSON text stands between quotes. Quotes, backslashes and controls are written as escapes, and
every other character may be; one outside the first plane is then written as a pair of surrogates.
The main definitions read a text (`readText`), skip one without a look at its code points
(`skipText`), and write one with as few escapes as there can be (`writeText`).
-/

namespace CredentialKeeper.Json

def hexValue? (c : Char) : Option Nat :=
  if '0' ≤ c ∧ c ≤ '9' then some (c.toNat - 48)
  else if 'a' ≤ c ∧ c ≤ 'f' then some (c.toNat - 87)
  else if 'A' ≤ c ∧ c ≤ 'F' then some (c.toNat - 55)
  else none

def readHex (cs : List Char) : Reading Nat :=
  match cs with
  | a :: b :: c :: d :: r =>
    match hexValue? a, hexValue? b, hexValue? c, hexValue? d with
    | some a, some b, some c, some d => .ok (((a * 16 + b) * 16 + c) * 16 + d, r)
    | _, _, _, _ => .error ⟨.invalidEscape, cs, 4⟩
  | _ => if (Text.utf8 cs).length < 4 then stop .eofInText [] else .error ⟨.invalidEscape, cs, 4⟩

/-- What follows the first surrogate of a pair. -/
def readSecond (first : Nat) (cs : List Char) : Reading Char :=
  match cs with
  | [] => stop .eofInText []
  | '\\' :: r =>
    match r with
    | [] => stop .eofInText []
    | 'u' :: r =>
      match readHex r with
      | .error s => .error s
      | .ok (second, r) =>
        if 0xdc00 ≤ second ∧ second ≤ 0xdfff then
          .ok (Char.ofNat (0x10000 + (first - 0xd800) * 0x400 + (second - 0xdc00)), r)
        else stop .loneSurrogate r
    | _ => stopAt .brokenSurrogatePair r
  | _ => stopAt .brokenSurrogatePair cs

/-- The character with a code unit, or with the pair that begins with it. -/
def readUnit (unit : Nat) (cs : List Char) : Reading Char :=
  if 0xdc00 ≤ unit ∧ unit ≤ 0xdfff then stop .loneSurrogate cs
  else if 0xd800 ≤ unit ∧ unit ≤ 0xdbff then readSecond unit cs
  else .ok (Char.ofNat unit, cs)

def shortEscape? (c : Char) : Option Char :=
  match c with
  | '"' => some '"'
  | '\\' => some '\\'
  | '/' => some '/'
  | 'b' => some '\x08'
  | 'f' => some '\x0c'
  | 'n' => some '\n'
  | 'r' => some '\r'
  | 't' => some '\t'
  | _ => none

def readEscape (cs : List Char) : Reading Char :=
  match cs with
  | [] => stop .eofInText []
  | c :: r =>
    match shortEscape? c with
    | some e => .ok (e, r)
    | none =>
      if c = 'u' then
        match readHex r with
        | .error s => .error s
        | .ok (unit, r) => readUnit unit r
      else stopAt .invalidEscape cs

/-- Controls must be written as escapes. -/
def isControl (c : Char) : Bool := c.toNat < 0x20

/-- The next character of a text, or nothing at its closing quote. -/
def readChar (cs : List Char) : Reading (Option Char) :=
  match cs with
  | [] => stop .eofInText []
  | c :: r =>
    if c = '"' then .ok (none, r)
    else if c = '\\' then
      match readEscape r with
      | .error s => .error s
      | .ok (c, r) => .ok (some c, r)
    else if isControl c then stopAt .controlCharacter cs
    else .ok (some c, r)

theorem readHex_length {cs : List Char} {p : Nat × List Char} (h : readHex cs = .ok p) :
    p.2.length < cs.length := by
  unfold readHex at h
  split at h
  · split at h <;> cases h
    simp only [List.length_cons]; omega
  · split at h <;> cases h

theorem readSecond_length {n : Nat} {cs : List Char} {p : Char × List Char}
    (h : readSecond n cs = .ok p) : p.2.length < cs.length := by
  unfold readSecond at h
  split at h
  · cases h
  · split at h
    · cases h
    · split at h
      · cases h
      · rename_i hr
        have := readHex_length hr
        split at h
        · simp only [Except.ok.injEq] at h
          simp only [← h, List.length_cons] at *; omega
        · cases h
    · cases h
  · cases h

theorem readUnit_length {n : Nat} {cs : List Char} {p : Char × List Char}
    (h : readUnit n cs = .ok p) : p.2.length ≤ cs.length := by
  unfold readUnit at h
  split at h
  · cases h
  · split at h
    · exact Nat.le_of_lt (readSecond_length h)
    · simp only [Except.ok.injEq] at h; simp [← h]

theorem readEscape_length {cs : List Char} {p : Char × List Char} (h : readEscape cs = .ok p) :
    p.2.length < cs.length := by
  unfold readEscape at h
  split at h
  · cases h
  · split at h
    · cases h; simp
    · split at h
      · split at h
        · cases h
        · rename_i hr
          have h₁ := readHex_length hr
          have h₂ := readUnit_length h
          simp only [List.length_cons] at *; omega
      · cases h

theorem readChar_length {cs : List Char} {p : Option Char × List Char} (h : readChar cs = .ok p) :
    p.2.length < cs.length := by
  unfold readChar at h
  split at h
  · cases h
  · split at h
    · cases h; simp
    · split at h
      · split at h
        · cases h
        · rename_i hr
          have := readEscape_length hr
          cases h
          simp only [List.length_cons] at *; omega
      · split at h <;> cases h
        simp

def readText (cs : List Char) : Reading (List Char) :=
  match _h : readChar cs with
  | .error s => .error s
  | .ok (none, r) => .ok ([], r)
  | .ok (some c, r) =>
    match readText r with
    | .error s => .error s
    | .ok (text, r) => .ok (c :: text, r)
termination_by cs.length
decreasing_by exact readChar_length _h

/-- Skips an escape, after the backslash. Any four digits will do. -/
def skipEscape (cs : List Char) : Except Stop (List Char) :=
  match cs with
  | [] => stop .eofInText []
  | c :: r =>
    if (shortEscape? c).isSome then .ok r
    else if c = 'u' then
      match readHex r with
      | .error s => .error s
      | .ok (_, r) => .ok r
    else stopAt .invalidEscape cs

theorem skipEscape_length {cs r : List Char} (h : skipEscape cs = .ok r) :
    r.length < cs.length := by
  unfold skipEscape at h
  split at h
  · cases h
  · split at h
    · cases h; simp
    · split at h
      · split at h
        · cases h
        · rename_i hr
          have := readHex_length hr
          cases h
          simp only [List.length_cons] at *; omega
      · cases h

def skipText (cs : List Char) : Except Stop (List Char) :=
  match cs with
  | [] => stop .eofInText []
  | c :: r =>
    if c = '"' then .ok r
    else if c = '\\' then
      match _h : skipEscape r with
      | .error s => .error s
      | .ok r => skipText r
    else if isControl c then stop .controlCharacter cs
    else skipText r
termination_by cs.length
decreasing_by
  · have := skipEscape_length _h
    simp only [List.length_cons]; omega
  · simp

/-- How a text shows one character: as itself, unless it must be escaped. -/
def writeChar (c : Char) : List Char :=
  match c with
  | '"' => ['\\', '"']
  | '\\' => ['\\', '\\']
  | '\x08' => ['\\', 'b']
  | '\x0c' => ['\\', 'f']
  | '\n' => ['\\', 'n']
  | '\r' => ['\\', 'r']
  | '\t' => ['\\', 't']
  | c =>
    if isControl c then ['\\', 'u'] ++ padZeros 4 (Text.hexDigits c.toNat) else [c]

def writeText (s : String) : List Char := '"' :: s.toList.flatMap writeChar ++ ['"']

end CredentialKeeper.Json
