import CredentialKeeper.Fcm.ServiceAccount
import CredentialKeeper.Fcm.SigningKey
import CredentialKeeper.Time.Moment

/-!
# Assertions

An assertion says who asks for a token, for what, of whom, and when. It is a header and claims in
JSON, and the signature of both, each in base 64. An assertion holds for an hour.
-/

namespace CredentialKeeper.Fcm

/-- The claims of an assertion. Times are in whole seconds since 1970. -/
structure Claims where
  issuer : String
  subject : String
  scope : String
  audience : String
  expiresAt : Int
  issuedAt : Int
deriving DecidableEq

/-- How long an assertion holds. -/
def assertionLifetime : Span := .ofSeconds 3600

namespace Claims

/-- The claims of an account at a time, if an hour later is still a time. -/
def of? (a : ServiceAccount) (scope : String) (now : Moment) : Option Claims :=
  (now.add? assertionLifetime).map fun expiry =>
    { issuer := a.clientEmail
      subject := a.clientEmail
      scope
      audience := a.tokenUri
      expiresAt := expiry.unixSeconds
      issuedAt := now.unixSeconds }

def json (c : Claims) : String :=
  Json.writeObject [("iss", .text c.issuer), ("sub", .text c.subject), ("scope", .text c.scope),
    ("aud", .text c.audience), ("exp", .integer c.expiresAt), ("iat", .integer c.issuedAt)]

end Claims

def headerJson (keyId : String) : String :=
  Json.writeObject [("typ", .text "JWT"), ("alg", .text "RS256"), ("kid", .text keyId)]

/-- A text as a part of an assertion. -/
def segment (text : String) : List Char := Base64.encodeUrl (Text.utf8 text.toList)

def signedPart (keyId : String) (claims : Claims) : List Char :=
  segment (headerJson keyId) ++ '.' :: segment claims.json

def assertion (key : SigningKey) (keyId : String) (claims : Claims) :
    Except SigningFault (List Char) :=
  let signed := signedPart keyId claims
  match key.sign (Text.utf8 signed) with
  | .error e => .error e
  | .ok signature => .ok (signed ++ '.' :: Base64.encodeUrl signature)

end CredentialKeeper.Fcm
