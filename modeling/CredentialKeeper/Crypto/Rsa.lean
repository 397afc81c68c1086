import CredentialKeeper.Crypto.Modular
import CredentialKeeper.Crypto.Sha2
import CredentialKeeper.Encoding.Der

/-!
# RSA keys

Reading and checking a private key (`PrivateKey.ofBytes`), its public half, and signatures of
SHA-256 hashes with it (`PrivateKey.sign?`).
-/

namespace CredentialKeeper.Rsa

inductive Fault where
  | invalidEncoding
  | versionNotSupported
  | tooSmall
  | tooLarge
  | invalidComponent
  | inconsistentComponents
  | unevenPrimes
  | unexpected
deriving DecidableEq

def Fault.message : Fault → String
  | invalidEncoding => "InvalidEncoding"
  | versionNotSupported => "VersionNotSupported"
  | tooSmall => "TooSmall"
  | tooLarge => "TooLarge"
  | invalidComponent => "InvalidComponent"
  | inconsistentComponents => "InconsistentComponents"
  | unevenPrimes => "PrivateModulusLenNotMultipleOf512Bits"
  | unexpected => "UnexpectedError"

structure PrivateKey where
  modulus : Nat
  publicExponent : Nat
  privateExponent : Nat
  firstPrime : Nat
  secondPrime : Nat
  firstExponent : Nat
  secondExponent : Nat
  coefficient : Nat
deriving DecidableEq

def bitLength (n : Nat) : Nat := if n = 0 then 0 else n.log2 + 1

/-- The greatest numbers that are worked with have so many bits. -/
def mostBits : Nat := 8192

/-- A number that can be a modulus is odd, is not too great and has more than three words of 64
bits. -/
def checkModulus (n : Nat) : Except Fault Unit :=
  if n = 0 then .error .invalidEncoding
  else if mostBits < bitLength n then .error .tooLarge
  else if bitLength n ≤ 192 then .error .unexpected
  else if n % 2 = 0 then .error .invalidComponent
  else .ok ()

/-- The primes have half of the modulus's bits each. -/
def checkPrime (modulusBits p : Nat) : Except Fault Unit :=
  match checkModulus p with
  | .error e => .error e
  | .ok () =>
    if bitLength p ≠ (modulusBits + 1) / 2 then .error .inconsistentComponents
    else if bitLength p % 512 ≠ 0 then .error .unevenPrimes
    else .ok ()

/-- The exponent for a prime is odd and below it. -/
def checkExponent (p exponent : Nat) : Except Fault Unit :=
  if exponent < p && exponent % 2 = 1 then .ok () else .error .inconsistentComponents

namespace PrivateKey

def size (k : PrivateKey) : Nat := (bitLength k.modulus + 7) / 8

/-- The conditions on the public half: a modulus of 2048 to 4096 bits, and an odd exponent from
65537 to below `2 ^ 33`. -/
def checkPublic (k : PrivateKey) : Except Fault Unit := do
  checkModulus k.modulus
  if k.size < 256 then throw .tooSmall
  if 4096 < bitLength k.modulus then throw .tooLarge
  if k.publicExponent = 0 then throw .invalidEncoding
  if k.publicExponent < 65537 then throw .tooSmall
  if Nat.pow 2 33 ≤ k.publicExponent then throw .tooLarge
  if k.publicExponent % 2 = 0 then throw .invalidComponent

/-- The conditions on the parts of a key and their relations. -/
def check (k : PrivateKey) : Except Fault Unit := do
  k.checkPublic
  let bits := bitLength k.modulus
  checkPrime bits k.firstPrime
  checkPrime bits k.secondPrime
  if k.firstPrime * k.secondPrime % k.modulus ≠ 0 then throw .inconsistentComponents
  let .ok () := checkModulus k.privateExponent | throw .invalidComponent
  if bitLength k.privateExponent ≤ (bits + 1) / 2 || k.modulus ≤ k.privateExponent then
    throw .inconsistentComponents
  checkExponent k.firstPrime k.firstExponent
  checkExponent k.secondPrime k.secondExponent
  if k.firstPrime ≤ k.coefficient then throw .invalidComponent
  if k.coefficient * k.secondPrime % k.firstPrime ≠ 1 then throw .inconsistentComponents

def readNaturals : Nat → List UInt8 → Option (List Nat × List UInt8)
  | 0, bytes => some ([], bytes)
  | count + 1, bytes =>
    match Der.Strict.natural? bytes with
    | none => none
    | some (n, rest) =>
      (readNaturals count rest).map fun (ns, rest) => (Der.Strict.toNat n :: ns, rest)

/-- Reads a private key: a sequence of a version, which is zero, and eight numbers. -/
def ofBytes (bytes : List UInt8) : Except Fault PrivateKey := do
  let some (contents, after) := Der.Strict.expect? 0x30 bytes | throw .invalidEncoding
  let some (version, contents) := Der.Strict.small? contents | throw .invalidEncoding
  if version ≠ 0 then throw .versionNotSupported
  let some ([n, e, d, p, q, dp, dq, qi], rest) := readNaturals 8 contents | throw .invalidEncoding
  let key : PrivateKey := ⟨n, e, d, p, q, dp, dq, qi⟩
  key.check
  if !rest.isEmpty || !after.isEmpty then throw .invalidEncoding
  return key

/-- A number in as few bytes as hold it. -/
def naturalBytes (n : Nat) : List UInt8 := Sha2.Variant.toBytes ((bitLength n + 7) / 8) n

def publicKey (k : PrivateKey) : List UInt8 :=
  Der.write 0x30
    (Der.writeNatural (naturalBytes k.modulus) ++ Der.writeNatural (naturalBytes k.publicExponent))

/-- What goes before a SHA-256 hash in a signature. -/
def sha256Mark : List UInt8 :=
  [0x30, 0x31, 0x30, 0x0d, 0x06, 0x09, 0x60, 0x86, 0x48, 0x01, 0x65, 0x03, 0x04, 0x02, 0x01, 0x05,
    0x00, 0x04, 0x20]

/-- The hash of a message with its mark, filled up to the size of the modulus. -/
def paddedHash (size : Nat) (message : List UInt8) : List UInt8 :=
  let marked := sha256Mark ++ Sha2.sha256 message
  [0, 1] ++ List.replicate (size - marked.length - 3) 0xff ++ 0 :: marked

/-- A power with the private exponent, from its remainders by the two primes. -/
def privatePower (k : PrivateKey) (n : Nat) : Nat :=
  let first := Modular.pow n k.firstExponent k.firstPrime
  let second := Modular.pow n k.secondExponent k.secondPrime
  let quotient := k.coefficient * Modular.sub first second k.firstPrime % k.firstPrime
  second + k.secondPrime * quotient

/-- The signature of a message, if it holds with the public half. -/
def sign? (k : PrivateKey) (message : List UInt8) : Option (List UInt8) :=
  let padded := Sha2.Variant.ofBytes (paddedHash k.size message)
  let signature := k.privatePower padded
  if Modular.pow signature k.publicExponent k.modulus = padded then
    some (Sha2.Variant.toBytes k.size signature)
  else none

end PrivateKey

end CredentialKeeper.Rsa
