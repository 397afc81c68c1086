/-!
# Tagged values in bytes

A value is a tag, a length and so many bytes of contents. Two readers are here. `Element.read` takes
tags and lengths of any form but the indefinite one. `Strict` readers take one-byte tags and lengths
up to two bytes in their shortest form.
-/

namespace CredentialKeeper.Der

inductive TagClass where
  | universal
  | application
  | contextSpecific
  | privateUse
deriving DecidableEq

def TagClass.name : TagClass → String
  | universal => "Universal"
  | application => "Application"
  | contextSpecific => "ContextSpecific"
  | privateUse => "Private"

/-- The tag numbers of values. -/
def integerTag : Nat := 2
def bitStringTag : Nat := 3
def octetStringTag : Nat := 4
def objectIdTag : Nat := 6
def sequenceTag : Nat := 16
def setTag : Nat := 17

/-- What stands before the contents of a value. -/
structure Header where
  tagClass : TagClass
  isConstructed : Bool
  tag : Nat
  length : Nat
deriving DecidableEq

structure Element where
  header : Header
  contents : List UInt8
deriving DecidableEq

inductive Fault where
  /-- So many bytes at least are missing. -/
  | incomplete (missing : Nat)
  | eof
  | invalidTag
  | invalidLength
  | indefiniteLength
  | unexpectedTag (expected actual : Nat)
  | unexpectedClass (expected actual : TagClass)
deriving DecidableEq

def classOf (b : UInt8) : TagClass :=
  match b.toNat / 64 with
  | 0 => .universal
  | 1 => .application
  | 2 => .contextSpecific
  | _ => .privateUse

/-- The number of a tag that is too great for the first byte, of at most five more bytes. -/
def readLongTag : Nat → Nat → List UInt8 → Except Fault (Nat × List UInt8)
  | 0, _, _ => .error .invalidTag
  | _, _, [] => .error .invalidTag
  | most + 1, tag, b :: rest =>
    let tag := (tag * 128 + b.toNat % 128) % 4294967296
    if b.toNat < 128 then .ok (tag, rest) else readLongTag most tag rest

/-- The length after its first byte, of so many bytes. It must fit 64 bits. -/
def readLongLength (count : Nat) (bytes : List UInt8) : Except Fault (Nat × List UInt8) :=
  if bytes.length < count then .error (.incomplete (count - bytes.length))
  else
    let length := (bytes.take count).foldl (fun n b => n * 256 + b.toNat) 0
    if length < 18446744073709551616 then .ok (length, bytes.drop count)
    else .error .invalidLength

def readLength : List UInt8 → Except Fault (Nat × List UInt8)
  | [] => .error (.incomplete 1)
  | b :: rest =>
    if b.toNat < 128 then .ok (b.toNat, rest)
    else if b.toNat = 128 then .error .indefiniteLength
    else if b.toNat = 255 then .error .invalidLength
    else readLongLength (b.toNat - 128) rest

namespace Header

def read : List UInt8 → Except Fault (Header × List UInt8)
  | [] => .error (.incomplete 1)
  | b :: rest =>
    let short := b.toNat % 32
    match if short = 31 then readLongTag 5 0 rest else .ok (short, rest) with
    | .error e => .error e
    | .ok (tag, rest) =>
      match readLength rest with
      | .error e => .error e
      | .ok (length, rest) => .ok (⟨classOf b, b.toNat / 32 % 2 = 1, tag, length⟩, rest)

end Header

namespace Element

/-- Reads a value whose missing bytes may still come. -/
def read (bytes : List UInt8) : Except Fault (Element × List UInt8) :=
  match Header.read bytes with
  | .error e => .error e
  | .ok (h, rest) =>
    if rest.length < h.length then .error (.incomplete (h.length - rest.length))
    else .ok (⟨h, rest.take h.length⟩, rest.drop h.length)

/-- Reads a value with a given tag, of any class, whose contents must be there. -/
def readContents (tag : Nat) (bytes : List UInt8) : Except Fault (List UInt8 × List UInt8) :=
  match Header.read bytes with
  | .error e => .error e
  | .ok (h, rest) =>
    if rest.length < h.length then .error .eof
    else if h.tag ≠ tag then .error (.unexpectedTag tag h.tag)
    else .ok (rest.take h.length, rest.drop h.length)

end Element

/-- The bits of a bit string: its first byte counts the bits at the end that are not used, which
must be zero. -/
def bitString? (contents : List UInt8) : Option (List UInt8) :=
  match contents with
  | [] => none
  | unused :: bytes =>
    match bytes.getLast? with
    | none => if unused = 0 then some [] else none
    | some last =>
      let zeros := if last = 0 then 8
        else (List.range 8).countP fun k => last.toNat % Nat.pow 2 (k + 1) = 0
      if unused.toNat ≤ zeros then some bytes else none

/-- Numbers of seven bits a byte; every byte of a number but its last has the top bit. A number that
is broken off keeps its lowest 64 bits. -/
def sevenBitNumbers (n : Nat) : List UInt8 → List Nat
  | [] => []
  | b :: rest =>
    let n := (n * 128 + b.toNat % 128) % 18446744073709551616
    if b.toNat < 128 || rest.isEmpty then n :: sevenBitNumbers 0 rest else sevenBitNumbers n rest

/-- The arcs of an object identifier. The first byte holds the first two, but a lone zero byte is a
single arc. -/
def arcs : List UInt8 → List Nat
  | [] => []
  | [0] => [0]
  | b :: rest => b.toNat / 40 :: b.toNat % 40 :: sevenBitNumbers 0 rest

/-- No number of seven bits a byte is longer than so many bytes; one that is broken off counts for
nothing. -/
def areShort (most : Nat) : (length : Nat) → List UInt8 → Bool
  | _, [] => true
  | length, b :: rest =>
    if b.toNat < 128 then length < most && areShort most 0 rest
    else areShort most (length + 1) rest

/-- Two digits in base 16, small letters. -/
def hexPair (b : UInt8) : String :=
  let digit (n : Nat) : Char := if n < 10 then Char.ofNat (48 + n) else Char.ofNat (87 + n)
  String.ofList [digit (b.toNat / 16), digit (b.toNat % 16)]

/-- An object identifier as text: its arcs between dots, or its bytes where an arc has more than
nine, which may be too great for 64 bits. -/
def objectIdText (contents : List UInt8) : String :=
  if areShort 9 0 contents.tail then ".".intercalate ((arcs contents).map toString)
  else " ".intercalate (contents.map hexPair)

/-- A number in bytes of seven bits, all of which but the last have the top bit; the first argument
is how many bytes there may be at most. -/
def sevenBitBytes : Nat → Nat → List UInt8
  | 0, _ => []
  | most + 1, n =>
    (if n < 128 then [] else (sevenBitBytes most (n / 128)).map (· ||| 128)) ++
      [UInt8.ofNat (n % 128)]

/-- The contents of the object identifier with some arcs, in its shortest form. -/
def objectId : List Nat → List UInt8
  | first :: second :: rest => UInt8.ofNat (first * 40 + second) :: rest.flatMap (sevenBitBytes 9)
  | _ => []

namespace Strict

/-- A value in strict form: its first byte, its contents, and what follows. -/
def read? (bytes : List UInt8) : Option (UInt8 × List UInt8 × List UInt8) :=
  let contents (tag : UInt8) (length : Nat) (rest : List UInt8) :=
    if rest.length < length then none else some (tag, rest.take length, rest.drop length)
  match bytes with
  | tag :: first :: rest =>
    if tag.toNat % 32 = 31 then none
    else if first.toNat < 128 then contents tag first.toNat rest
    else
      match first.toNat, rest with
      | 0x81, a :: rest => if a.toNat < 128 then none else contents tag a.toNat rest
      | 0x82, a :: b :: rest =>
        let length := a.toNat * 256 + b.toNat
        if length < 256 then none else contents tag length rest
      | _, _ => none
  | _ => none

/-- The contents of a value with a given first byte, and what follows. -/
def expect? (tag : UInt8) (bytes : List UInt8) : Option (List UInt8 × List UInt8) :=
  match read? bytes with
  | some (t, contents, rest) => if t = tag then some (contents, rest) else none
  | none => none

/-- An integer from zero up in its shortest form, without the zero byte that shows its sign. -/
def natural? (bytes : List UInt8) : Option (List UInt8 × List UInt8) :=
  match expect? 2 bytes with
  | none => none
  | some ([], _) => none
  | some ([b], rest) => if b.toNat < 128 then some ([b], rest) else none
  | some (b :: c :: more, rest) =>
    if b = 0 then (if c.toNat < 128 then none else some (c :: more, rest))
    else if b.toNat < 128 then some (b :: c :: more, rest)
    else none

def small? (bytes : List UInt8) : Option (Nat × List UInt8) :=
  match natural? bytes with
  | some ([b], rest) => some (b.toNat, rest)
  | _ => none

/-- A bit string in which every bit is used. -/
def wholeBits? (contents : List UInt8) : Option (List UInt8) :=
  match contents with
  | 0 :: bits => some bits
  | _ => none

def toNat (bytes : List UInt8) : Nat := bytes.foldl (fun n b => n * 256 + b.toNat) 0

end Strict

/-- A length in its shortest form. -/
def lengthBytes (n : Nat) : List UInt8 :=
  if n < 128 then [UInt8.ofNat n]
  else if n < 256 then [0x81, UInt8.ofNat n]
  else [0x82, UInt8.ofNat (n / 256), UInt8.ofNat n]

def write (tag : UInt8) (contents : List UInt8) : List UInt8 :=
  tag :: lengthBytes contents.length ++ contents

/-- Writes a number from zero up, given by its bytes without zeros in front. -/
def writeNatural (bytes : List UInt8) : List UInt8 :=
  write 2 (if bytes.headD 0 < 128 then bytes else 0 :: bytes)

end CredentialKeeper.Der
