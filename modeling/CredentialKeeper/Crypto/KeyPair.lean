import CredentialKeeper.Crypto.Curve
import CredentialKeeper.Crypto.Rsa

/-!
# Private keys of four kinds

A private key in its common wrapping: a version, the algorithm, and the key in the algorithm's own
form. `publicKeyOf?` gives the public half of a key for Ed25519, for one of two prime curves, or for
RSA. A key that carries its public half must carry the right one.
-/

namespace CredentialKeeper.KeyPair

/-- The values of the algorithms, each with its parameters. -/
def ed25519 : List UInt8 := [0x06, 0x03, 0x2b, 0x65, 0x70]
def p256Curve : List UInt8 := [0x06, 0x08, 0x2a, 0x86, 0x48, 0xce, 0x3d, 0x03, 0x01, 0x07]
def p384Curve : List UInt8 := [0x06, 0x05, 0x2b, 0x81, 0x04, 0x00, 0x22]
def curveKey : List UInt8 := [0x06, 0x07, 0x2a, 0x86, 0x48, 0xce, 0x3d, 0x02, 0x01]
def rsa : List UInt8 :=
  [0x06, 0x09, 0x2a, 0x86, 0x48, 0x86, 0xf7, 0x0d, 0x01, 0x01, 0x01, 0x05, 0x00]

structure Wrapped where
  version : Nat
  algorithm : List UInt8
  key : List UInt8
  /-- What follows the key and its attributes. -/
  rest : List UInt8

def unwrap? (bytes : List UInt8) : Option Wrapped := do
  let (contents, after) ← Der.Strict.expect? 0x30 bytes
  guard after.isEmpty
  let (version, contents) ← Der.Strict.small? contents
  let (algorithm, contents) ← Der.Strict.expect? 0x30 contents
  let (key, contents) ← Der.Strict.expect? 4 contents
  if contents.head? = some 0xa0 then
    let (_, rest) ← Der.Strict.expect? 0xa0 contents
    return ⟨version, algorithm, key, rest⟩
  return ⟨version, algorithm, key, contents⟩

/-- The public half that a version-one wrapping carries, in one of two forms. -/
def carriedPublicKey? (rest : List UInt8) : Option (List UInt8) := do
  if rest.head? = some 0xa1 then
    let (contents, after) ← Der.Strict.expect? 0xa1 rest
    guard after.isEmpty
    let (bits, inner) ← Der.Strict.expect? 3 contents
    guard inner.isEmpty
    Der.Strict.wholeBits? bits
  else
    let (bits, after) ← Der.Strict.expect? 0x81 rest
    guard after.isEmpty
    Der.Strict.wholeBits? bits

def ed25519PublicKey? (w : Wrapped) : Option (List UInt8) := do
  guard (w.algorithm = ed25519)
  let (seed, after) ← Der.Strict.expect? 4 w.key
  guard after.isEmpty
  let publicKey ← Curve.Edwards.publicKey? seed
  match w.version with
  | 0 => guard w.rest.isEmpty
  | 1 => guard (carriedPublicKey? w.rest = some publicKey)
  | _ => none
  return publicKey

/-- A key on a prime curve. It carries its public half. -/
def curvePublicKey? (c : Curve.Weierstrass) (name : List UInt8) (w : Wrapped) :
    Option (List UInt8) := do
  guard (w.version = 0 && w.algorithm = curveKey ++ name && w.rest.isEmpty)
  let (contents, after) ← Der.Strict.expect? 0x30 w.key
  guard after.isEmpty
  let (version, contents) ← Der.Strict.small? contents
  guard (version = 1)
  let (privateKey, contents) ← Der.Strict.expect? 4 contents
  let contents ←
    if contents.head? = some 0xa0 then do
      let (named, rest) ← Der.Strict.expect? 0xa0 contents
      guard (named = name)
      pure rest
    else pure contents
  let (carried, after) ← Der.Strict.expect? 0xa1 contents
  guard after.isEmpty
  let (bits, inner) ← Der.Strict.expect? 3 carried
  guard inner.isEmpty
  let publicKey ← c.publicKey? privateKey
  guard (Der.Strict.wholeBits? bits = some publicKey)
  return publicKey

def rsaPublicKey? (w : Wrapped) : Option (List UInt8) := do
  guard (w.version = 0 && w.algorithm = rsa && w.rest.isEmpty)
  match Rsa.PrivateKey.ofBytes w.key with
  | .ok key => return key.publicKey
  | .error _ => none

/-- The public half of a private key, if the key is of one of the four kinds and in order. -/
def publicKeyOf? (bytes : List UInt8) : Option (List UInt8) := do
  let w ← unwrap? bytes
  ed25519PublicKey? w <|> curvePublicKey? Curve.p256 p256Curve w <|>
    curvePublicKey? Curve.p384 p384Curve w <|> rsaPublicKey? w

end CredentialKeeper.KeyPair
