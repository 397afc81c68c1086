/-!
# Base 64

Bytes as groups of four symbols, each of which stands for six bits. The strict reading
(`Base64.decode`) wants the last group filled up with padding and the bits that no byte takes to be
zero; it tells the first thing wrong. The writing for URLs (`Base64.encodeUrl`) has its own last two
symbols and no padding; `Base64.decodeUrl?` reads it back.
-/

namespace CredentialKeeper.Base64

/-- The padding of the last group, `=`. -/
abbrev pad : UInt8 := 61

inductive Fault where
  | invalidSymbol (offset : Nat) (symbol : UInt8)
  | invalidLength (length : Nat)
  /-- The last symbol has bits that belong to no byte. -/
  | invalidLastSymbol (offset : Nat) (symbol : UInt8)
  | invalidPadding
deriving DecidableEq

def Fault.message : Fault → String
  | invalidSymbol offset symbol =>
    "Invalid symbol " ++ toString symbol.toNat ++ ", offset " ++ toString offset ++ "."
  | invalidLength length => "Invalid input length: " ++ toString length
  | invalidLastSymbol offset symbol =>
    "Invalid last symbol " ++ toString symbol.toNat ++ ", offset " ++ toString offset ++ "."
  | invalidPadding => "Invalid padding"

def value? (b : UInt8) : Option Nat :=
  let n := b.toNat
  if 65 ≤ n ∧ n ≤ 90 then some (n - 65)
  else if 97 ≤ n ∧ n ≤ 122 then some (n - 71)
  else if 48 ≤ n ∧ n ≤ 57 then some (n + 4)
  else if n = 43 then some 62
  else if n = 47 then some 63
  else none

/-- The values of symbols that begin at an offset. -/
def values (offset : Nat) : List UInt8 → Except Fault (List Nat)
  | [] => .ok []
  | b :: rest =>
    match value? b with
    | none => .error (.invalidSymbol offset b)
    | some v =>
      match values (offset + 1) rest with
      | .error e => .error e
      | .ok vs => .ok (v :: vs)

def groups : List Nat → List UInt8
  | a :: b :: c :: d :: rest =>
    let n := ((a * 64 + b) * 64 + c) * 64 + d
    UInt8.ofNat (n / 65536) :: UInt8.ofNat (n / 256) :: UInt8.ofNat n :: groups rest
  | _ => []

/-- The symbols of the last group before its padding, after which only padding may come; the first
two places are for symbols only. -/
def splitPadding (offset : Nat) (place : Nat) : List UInt8 → Except Fault (List UInt8 × Nat)
  | [] => .ok ([], 0)
  | b :: rest =>
    if b ≠ pad then
      if (value? b).isNone then .error (.invalidSymbol (offset + place) b)
      else
        match splitPadding offset (place + 1) rest with
        | .error e => .error e
        | .ok (symbols, pads) => .ok (b :: symbols, pads)
    else if place < 2 || rest.any (· ≠ pad) then .error (.invalidSymbol (offset + place) b)
    else .ok ([], rest.length + 1)

/-- The bytes of a last group without its padding, and what its last symbol has beyond them. -/
def shortGroup : List Nat → List UInt8 × Nat
  | [a, b] => ([UInt8.ofNat ((a * 64 + b) / 16)], b % 16)
  | [a, b, c] =>
    let n := (a * 64 + b) * 64 + c
    ([UInt8.ofNat (n / 1024), UInt8.ofNat (n / 4)], c % 4)
  | vs => (groups vs, 0)

def lastGroup (offset : Nat) (group : List UInt8) : Except Fault (List UInt8) :=
  match splitPadding offset 0 group with
  | .error e => .error e
  | .ok (symbols, pads) =>
    if symbols.length < 2 then .error (.invalidLength (offset + symbols.length))
    else if (symbols.length + pads) % 4 ≠ 0 then .error .invalidPadding
    else
      match shortGroup (symbols.filterMap value?) with
      | (bytes, 0) => .ok bytes
      | _ => .error (.invalidLastSymbol (offset + symbols.length - 1) (symbols.getLastD 0))

/-- Reads symbols. A symbol of its own past the last full group is looked at first. -/
def decode (symbols : List UInt8) : Except Fault (List UInt8) :=
  let length := symbols.length
  let rest := length % 4
  let full := if rest = 0 then length - 4 else length - rest
  let last := symbols.getLastD pad
  if length = 0 then .ok []
  else if rest = 1 && last ≠ pad && (value? last).isNone then
    .error (.invalidSymbol (length - 1) last)
  else
    match values 0 (symbols.take full) with
    | .error e => .error e
    | .ok vs =>
      match lastGroup full (symbols.drop full) with
      | .error e => .error e
      | .ok bytes => .ok (groups vs ++ bytes)

def urlSymbol (v : Nat) : Char :=
  if v < 26 then Char.ofNat (v + 65)
  else if v < 52 then Char.ofNat (v + 71)
  else if v < 62 then Char.ofNat (v - 4)
  else if v = 62 then '-'
  else '_'

/-- Writes bytes for a URL, without padding. -/
def encodeUrl : List UInt8 → List Char
  | [] => []
  | [a] =>
    let n := a.toNat * 16
    [urlSymbol (n / 64), urlSymbol (n % 64)]
  | [a, b] =>
    let n := (a.toNat * 256 + b.toNat) * 4
    [urlSymbol (n / 4096), urlSymbol (n / 64 % 64), urlSymbol (n % 64)]
  | a :: b :: c :: rest =>
    let n := (a.toNat * 256 + b.toNat) * 256 + c.toNat
    urlSymbol (n / 262144) :: urlSymbol (n / 4096 % 64) :: urlSymbol (n / 64 % 64) ::
      urlSymbol (n % 64) :: encodeUrl rest

def urlValue? (c : Char) : Option Nat :=
  if 'A' ≤ c ∧ c ≤ 'Z' then some (c.toNat - 65)
  else if 'a' ≤ c ∧ c ≤ 'z' then some (c.toNat - 71)
  else if '0' ≤ c ∧ c ≤ '9' then some (c.toNat + 4)
  else if c = '-' then some 62
  else if c = '_' then some 63
  else none

theorem urlValue?_urlSymbol {v : Nat} (h : v < 64) : urlValue? (urlSymbol v) = some v := by
  have all : ∀ v ∈ List.range 64, urlValue? (urlSymbol v) = some v := by decide
  exact all v (List.mem_range.mpr h)

def decodeUrl? : List Char → Option (List UInt8)
  | [] => some []
  | [_] => none
  | [a, b] => do
    let n := (← urlValue? a) * 64 + (← urlValue? b)
    if n % 16 = 0 then some [UInt8.ofNat (n / 16)] else none
  | [a, b, c] => do
    let n := ((← urlValue? a) * 64 + (← urlValue? b)) * 64 + (← urlValue? c)
    if n % 4 = 0 then some [UInt8.ofNat (n / 1024), UInt8.ofNat (n / 4)] else none
  | a :: b :: c :: d :: rest => do
    let high := (← urlValue? a) * 64 + (← urlValue? b)
    let n := (high * 64 + (← urlValue? c)) * 64 + (← urlValue? d)
    return UInt8.ofNat (n / 65536) :: UInt8.ofNat (n / 256) :: UInt8.ofNat n :: (← decodeUrl? rest)

theorem ofNat_eq_of_mod {n : Nat} {b : UInt8} (h : n % 256 = b.toNat) : UInt8.ofNat n = b :=
  UInt8.toNat_inj.mp (by simpa using h)

/-- Reading for URLs inverts writing. -/
theorem decodeUrl?_encodeUrl (bytes : List UInt8) : decodeUrl? (encodeUrl bytes) = some bytes := by
  induction bytes using encodeUrl.induct with
  | case1 => rfl
  | case2 a =>
    have := a.toNat_lt
    generalize hn : a.toNat * 16 = n
    simp [encodeUrl, decodeUrl?, hn, urlValue?_urlSymbol (show n / 64 < 64 by omega),
      urlValue?_urlSymbol (show n % 64 < 64 by omega), show n / 64 * 64 + n % 64 = n by omega,
      show n % 16 = 0 by omega, ofNat_eq_of_mod (show n / 16 % 256 = a.toNat by omega)]
  | case3 a b =>
    have := a.toNat_lt
    have := b.toNat_lt
    generalize hn : (a.toNat * 256 + b.toNat) * 4 = n
    simp [encodeUrl, decodeUrl?, hn, urlValue?_urlSymbol (show n / 4096 < 64 by omega),
      urlValue?_urlSymbol (show n / 64 % 64 < 64 by omega),
      urlValue?_urlSymbol (show n % 64 < 64 by omega),
      show (n / 4096 * 64 + n / 64 % 64) * 64 + n % 64 = n by omega, show n % 4 = 0 by omega,
      ofNat_eq_of_mod (show n / 1024 % 256 = a.toNat by omega),
      ofNat_eq_of_mod (show n / 4 % 256 = b.toNat by omega)]
  | case4 a b c rest ih =>
    have := a.toNat_lt
    have := b.toNat_lt
    have := c.toNat_lt
    generalize hn : (a.toNat * 256 + b.toNat) * 256 + c.toNat = n
    simp [-UInt8.ofNat_add, -UInt8.ofNat_mul, encodeUrl, decodeUrl?, hn, ih,
      urlValue?_urlSymbol (show n / 262144 < 64 by omega),
      urlValue?_urlSymbol (show n / 4096 % 64 < 64 by omega),
      urlValue?_urlSymbol (show n / 64 % 64 < 64 by omega),
      urlValue?_urlSymbol (show n % 64 < 64 by omega),
      show ((n / 262144 * 64 + n / 4096 % 64) * 64 + n / 64 % 64) * 64 + n % 64 = n by omega,
      ofNat_eq_of_mod (show n / 65536 % 256 = a.toNat by omega),
      ofNat_eq_of_mod (show n / 256 % 256 = b.toNat by omega),
      ofNat_eq_of_mod (show n % 256 = c.toNat by omega)]

end CredentialKeeper.Base64
