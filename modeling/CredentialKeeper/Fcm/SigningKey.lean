import CredentialKeeper.Crypto.KeyPair
import CredentialKeeper.Encoding.DerTree
import CredentialKeeper.Encoding.Pem

/-!
# Signing keys

The RSA key in the PEM text of a service account. Taking the key out of the text
(`SigningKey.ofPem`) only finds its bytes; whether they are a usable key shows at the first
signature (`SigningKey.sign`).
-/

namespace CredentialKeeper.Fcm

structure SigningKey where
  bytes : List UInt8
deriving DecidableEq

inductive KeyFault where
  | invalidFormat
  /-- There are no bytes in the place of the key. -/
  | noKeyBytes
deriving DecidableEq

def KeyFault.message : KeyFault → String
  | invalidFormat => "InvalidKeyFormat"
  | noKeyBytes => "InvalidEcdsaKey"

inductive SigningFault where
  | invalidKey (fault : Rsa.Fault)
  /-- The parts of the key do not belong together: what the private half signs does not hold with
  the public half. -/
  | invalidSignature
deriving DecidableEq

def SigningFault.message : SigningFault → String
  | invalidKey fault => "RSA key invalid: " ++ fault.message
  | invalidSignature => "RsaFailedSigning"

namespace SigningKey

/-- The identifiers of the kinds of keys that are told apart, RSA first. -/
def rsaId : List Nat := [1, 2, 840, 113549, 1, 1, 1]
def curveId : List Nat := [1, 2, 840, 10045, 2, 1]
def edwardsId : List Nat := [1, 3, 101, 112]

/-- The tags of blocks that hold a bare RSA key, and of those that hold a key in a wrapping. -/
def bareTags : List String := ["RSA PRIVATE KEY", "RSA PUBLIC KEY"]
def wrappingTags : List String := ["PRIVATE KEY", "PUBLIC KEY", "CERTIFICATE"]

/-- The RSA key in the first block of a PEM text. -/
def ofPem (text : String) : Except KeyFault SigningKey :=
  match Pem.firstBlock text with
  | .error _ => .error .invalidFormat
  | .ok block =>
    match Der.trees? block.contents with
    | none => .error .invalidFormat
    | some forest =>
      if bareTags.contains block.tag then .ok ⟨block.contents⟩
      else if wrappingTags.contains block.tag &&
          Der.firstObjectId? [rsaId, curveId, edwardsId] forest = some rsaId then
        match Der.firstBytes? forest with
        | some bytes => .ok ⟨bytes⟩
        | none => .error .noKeyBytes
      else .error .invalidFormat

def sign (k : SigningKey) (message : List UInt8) : Except SigningFault (List UInt8) :=
  match Rsa.PrivateKey.ofBytes k.bytes with
  | .error e => .error (.invalidKey e)
  | .ok key =>
    match key.sign? message with
    | none => .error .invalidSignature
    | some signature => .ok signature

end SigningKey

end CredentialKeeper.Fcm
