import CredentialKeeper.X509.Date
import CredentialKeeper.X509.Fault
import CredentialKeeper.X509.Name

/-!
# Certificates

The parts of an X.509 certificate that say whom it names, when it is valid and which key it binds.
Every part up to the signature must be well formed; what follows the certificate, or a part within
it, is not looked at. No signature is checked.
-/

namespace CredentialKeeper.X509

/-- What is read off a certificate. Dates are in seconds since 1970. -/
structure Certificate where
  serial : List UInt8
  notBefore : Int
  notAfter : Int
  subject : Name
  publicKey : List UInt8
deriving DecidableEq

abbrev Parsed (α : Type) := Except Fault (α × List UInt8)

def readSequence (bytes : List UInt8) : Parsed (List UInt8) :=
  match Der.Element.readContents Der.sequenceTag bytes with
  | .error e => .error (.form e)
  | .ok r => .ok r

/-- The contents of an integer are a natural number of 32 bits in its shortest form. -/
def isWord (contents : List UInt8) : Bool :=
  match contents with
  | [] => false
  | [b] => b < 128
  | b :: c :: rest =>
    let body := if b = 0 then c :: rest else contents
    b < 128 && (b ≠ 0 || 128 ≤ c) && body.length ≤ 4

def skipVersion (bytes : List UInt8) : Except Fault (List UInt8) :=
  if bytes.isEmpty then .ok []
  else
    match Der.Element.read bytes with
    | .error e => .error (.form e)
    | .ok (outer, rest) =>
      if outer.header.tag ≠ 0 then .ok bytes
      else if outer.header.tagClass ≠ .contextSpecific then
        .error (.form (.unexpectedClass .contextSpecific outer.header.tagClass))
      else
        match Der.Element.read outer.contents with
        | .error _ => .error .version
        | .ok (v, _) =>
          if v.header.tag = Der.integerTag && !v.header.isConstructed && isWord v.contents then
            .ok rest
          else .error .version

/-- The serial number, an integer of any form. -/
def readSerial (bytes : List UInt8) : Parsed (List UInt8) :=
  match Der.Element.read bytes with
  | .error _ => .error .serial
  | .ok (e, rest) =>
    if e.header.tag = Der.integerTag then .ok (e.contents, rest) else .error .serial

def algorithmFault : Der.Fault → Fault
  | .incomplete missing => .form (.incomplete missing)
  | _ => .algorithm

/-- Skips an algorithm: its identifier, which may have any tag, and a parameter that need not be
there. -/
def skipAlgorithm (bytes : List UInt8) : Except Fault (List UInt8) :=
  match Der.Element.read bytes with
  | .error e => .error (.form e)
  | .ok (outer, rest) =>
    if outer.header.tag ≠ Der.sequenceTag then
      .error (.form (.unexpectedTag Der.sequenceTag outer.header.tag))
    else
      match Der.Element.read outer.contents with
      | .error e => .error (algorithmFault e)
      | .ok (id, parameter) =>
        if id.header.isConstructed then .error .algorithm
        else if parameter.isEmpty then .ok rest
        else
          match Der.Element.read parameter with
          | .error e => .error (.form e)
          | .ok _ => .ok rest

def readDate (bytes : List UInt8) : Parsed Int :=
  match Der.Element.read bytes with
  | .error _ => .error .date
  | .ok (e, rest) =>
    let date? := if e.header.tag = 23 then shortDate? e.contents
      else if e.header.tag = 24 then longDate? e.contents
      else none
    match date? with
    | some t => .ok (t, rest)
    | none => .error .date

def readValidity (bytes : List UInt8) : Parsed (Int × Int) :=
  match readSequence bytes with
  | .error e => .error e
  | .ok (contents, rest) =>
    match readDate contents with
    | .error e => .error e
    | .ok (notBefore, contents) =>
      match readDate contents with
      | .error e => .error e
      | .ok (notAfter, _) => .ok ((notBefore, notAfter), rest)

def readBits (fault : Fault) (bytes : List UInt8) : Parsed (List UInt8) :=
  match Der.Element.read bytes with
  | .error _ => .error fault
  | .ok (e, rest) =>
    if e.header.tag ≠ Der.bitStringTag || e.header.isConstructed then .error fault
    else
      match Der.bitString? e.contents with
      | some bits => .ok (bits, rest)
      | none => .error fault

def readPublicKey (bytes : List UInt8) : Parsed (List UInt8) :=
  match readSequence bytes with
  | .error e => .error e
  | .ok (contents, rest) =>
    match skipAlgorithm contents with
    | .error e => .error e
    | .ok contents =>
      match readBits .publicKey contents with
      | .error e => .error e
      | .ok (bits, _) => .ok (bits, rest)

/-- Skips a unique identifier with a given tag, which need not be there. Its bits may have any
form. -/
def skipUniqueId (tag : Nat) (fault : Fault) (bytes : List UInt8) : Except Fault (List UInt8) :=
  if bytes.isEmpty then .ok []
  else
    match Der.Header.read bytes with
    | .error _ => .error fault
    | .ok (h, _) =>
      if h.tag ≠ tag then .ok bytes
      else
        match Der.Element.read bytes with
        | .error _ => .error fault
        | .ok (e, rest) =>
          if h.tagClass = .contextSpecific && !e.contents.isEmpty then .ok rest
          else .error fault

/-- An extension at the beginning of some bytes: its identifier, which may have any tag, a truth
value that need not be there, and its contents. -/
def readExtension? (bytes : List UInt8) : Option (Unit × List UInt8) :=
  match Der.Element.readContents Der.sequenceTag bytes with
  | .error _ => none
  | .ok (contents, rest) =>
    match Der.Element.read contents with
    | .error _ => none
    | .ok (id, contents) =>
      if id.header.isConstructed then none
      else
        match Der.Element.read contents with
        | .error _ => none
        | .ok (second, after) =>
          let isFlag := second.header.tag = 1 && second.contents.length = 1
          let value := if isFlag then after else contents
          match Der.Element.read value with
          | .error _ => none
          | .ok (v, _) =>
            if v.header.tag = Der.octetStringTag && !v.header.isConstructed then some ((), rest)
            else none

/-- Checks the extensions, which need not be there. Nothing may follow them. -/
def checkExtensions (bytes : List UInt8) : Except Fault Unit :=
  if bytes.isEmpty then .ok ()
  else
    match Der.Header.read bytes with
    | .error _ => .error .extensions
    | .ok (h, rest) =>
      if h.tag ≠ 3 then .error .extensions
      else
        match readSequence rest with
        | .error e => .error e
        | .ok (contents, after) =>
          let (_, unread) := readMany readExtension? contents.length contents
          if unread.isEmpty && after.isEmpty then .ok ()
          else .error (.form .eof)

def readBody (bytes : List UInt8) : Except Fault Certificate := do
  let bytes ← skipVersion bytes
  let (serial, bytes) ← readSerial bytes
  let bytes ← skipAlgorithm bytes
  let (_, bytes) ← readSequence bytes
  let ((notBefore, notAfter), bytes) ← readValidity bytes
  let (subject, bytes) ← readSequence bytes
  let (publicKey, bytes) ← readPublicKey bytes
  let bytes ← skipUniqueId 1 .issuerId bytes
  let bytes ← skipUniqueId 2 .subjectId bytes
  checkExtensions bytes
  return ⟨serial, notBefore, notAfter, Name.ofContents subject, publicKey⟩

namespace Certificate

def ofBytes (bytes : List UInt8) : Except Fault Certificate := do
  let (contents, _) ← readSequence bytes
  let (body, contents) ← readSequence contents
  let certificate ← readBody body
  let contents ← skipAlgorithm contents
  let _ ← readBits .signatureValue contents
  return certificate

/-- The serial number in base 16, small letters, its bytes apart: `0a:ff`. -/
def serialText (c : Certificate) : String :=
  ":".intercalate (c.serial.map Der.hexPair)

end Certificate

end CredentialKeeper.X509
