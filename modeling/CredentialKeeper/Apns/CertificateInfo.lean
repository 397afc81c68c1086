import CredentialKeeper.Apns.Settings
import CredentialKeeper.Encoding.Pem
import CredentialKeeper.Expiry
import CredentialKeeper.X509.Certificate

/-!
# What a certificate says

The identity and the validity of the first certificate of a PEM text. All checks of the validity
compare moments of universal time: a certificate is valid from its first moment on, up to its last
one, which no longer belongs to it.
-/

namespace CredentialKeeper.Apns

/-- Whom a certificate names, when it is valid, and which key it binds. -/
structure CertificateInfo where
  subject : String
  serial : String
  notBefore : Moment
  notAfter : Moment
  publicKey : List UInt8
deriving DecidableEq

def momentOf (seconds : Int) : Except Error Moment :=
  match Moment.ofSeconds? seconds with
  | some m => .ok m
  | none => .error (.certificate ("validity timestamp " ++ toString seconds ++ " out of range"))

namespace CertificateInfo

def ofBytes (bytes : List UInt8) : Except Error CertificateInfo :=
  match X509.Certificate.ofBytes bytes with
  | .error e => .error (.certificate e.message)
  | .ok c => do
    let notBefore ← momentOf c.notBefore
    let notAfter ← momentOf c.notAfter
    return ⟨c.subject.text, c.serialText, notBefore, notAfter, c.publicKey⟩

/-- Reads the first certificate of a PEM text, all of whose blocks must be well formed. -/
def ofPem (text : String) : Except Error CertificateInfo :=
  match Pem.blocks text with
  | .error e => .error (.pem e.message)
  | .ok blocks =>
    match blocks.find? (·.tag = "CERTIFICATE") with
    | none => .error (.pem "no CERTIFICATE block found")
    | some leaf => ofBytes leaf.contents

def willExpireWithin (c : CertificateInfo) (span : Span) (now : Moment) : Bool :=
  isDue c.notAfter now span

def isExpired (c : CertificateInfo) (now : Moment) : Bool := decide (c.notAfter ≤ now)

def isNotYetValid (c : CertificateInfo) (now : Moment) : Bool := decide (now < c.notBefore)

end CertificateInfo

end CredentialKeeper.Apns
