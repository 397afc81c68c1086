import CredentialKeeper.Encoding.Der
import CredentialKeeper.Text.Utf16

/-!
# Names in certificates

A name is a sequence of sets of attributes, `C=US, O=Example, CN=a + OU=b`. It is read up to the
first part that is not well formed. Attributes show their type by its short name and their value as
text, or in base 16 where it is none.
-/

namespace CredentialKeeper.X509

/-- An attribute of a name: its type, and the tag and contents of its value. -/
structure Attribute where
  kind : List UInt8
  tag : Nat
  value : List UInt8
deriving DecidableEq

/-- The short names of object identifiers, those with the same arcs but the last one together. -/
def shortNames : List (List Nat × List (Nat × String)) := [
  ([0, 9, 2342, 19200300, 100, 1], [(1, "uid"), (25, "DC")]),
  ([1, 2, 840, 10040, 4], [(1, "id-dsa"), (3, "dsa-with-sha1")]),
  ([1, 2, 840, 10045, 2], [(1, "id-ecPublicKey")]),
  ([1, 2, 840, 10045, 3, 1], [(7, "prime256v1")]),
  ([1, 2, 840, 10045, 4, 3], [(1, "ecdsa-with-SHA224"), (2, "ecdsa-with-SHA256"),
    (3, "ecdsa-with-SHA384"), (4, "ecdsa-with-SHA512")]),
  ([1, 2, 840, 113549, 1, 1], [(1, "rsaEncryption"), (2, "md2WithRSAEncryption"),
    (3, "md4WithRSAEncryption"), (4, "md5WithRSAEncryption"), (5, "sha1WithRSAEncryption"),
    (10, "rsassa-pss"), (11, "sha256WithRSAEncryption"), (12, "sha384WithRSAEncryption"),
    (13, "sha512WithRSAEncryption"), (14, "sha224WithRSAEncryption")]),
  ([1, 2, 840, 113549, 1, 7], [(1, "pkcs7-data"), (2, "pkcs7-signedData"),
    (3, "pkcs7-envelopedData"), (4, "pkcs7-signedAndEnvelopedData"), (5, "pkcs7-digestData"),
    (6, "pkcs7-encryptedData")]),
  ([1, 2, 840, 113549, 1, 9], [(1, "Email"), (2, "unstructuredName"), (3, "contentType"),
    (4, "id-messageDigest"), (5, "signing-time"), (7, "challengePassword"),
    (14, "extensionRequest"), (15, "smimeCapabilities"), (20, "friendlyName")]),
  ([1, 2, 840, 113549, 1], [(12, "pkcs-12")]),
  ([1, 2, 840, 113549, 1, 12], [(1, "pkcs-12PbeIds")]),
  ([1, 2, 840, 113549, 1, 12, 1], [(1, "pbeWithSHAAnd128BitRC4"), (2, "pbeWithSHAAnd40BitRC4"),
    (3, "pbeWithSHAAnd3-KeyTripleDES-CBC"), (4, "pbeWithSHAAnd2-KeyTripleDES-CBC"),
    (5, "pbeWithSHAAnd128BitRC2-CBC"), (6, "pbeWithSHAAnd40BitRC2-CBC")]),
  ([1, 3, 14, 3, 2], [(25, "md5WithRSASignature"), (26, "id-SHA1"), (29, "sha1WithRSAEncryption")]),
  ([1, 3, 36, 3, 3, 1], [(2, "rsaSignatureWithripemd160")]),
  ([1, 3, 101], [(112, "ed25519"), (113, "ed448")]),
  ([1, 3, 132, 0], [(34, "secp384r1"), (35, "secp521r1")]),
  ([1, 3, 133, 16, 840, 63, 0], [(2, "dhSinglePass-stdDH-sha1kdf-scheme")]),
  ([1, 3, 6, 1, 4, 1, 311, 60, 2, 1], [(1, "msJurisdictionLocality"),
    (2, "msJurisdictionStateOrProvince"), (3, "msJurisdictionCountry")]),
  ([1, 3, 6, 1, 4, 1, 11129, 2, 4], [(2, "ctSCTList")]),
  ([1, 3, 6, 1, 5, 5, 7, 1], [(1, "authorityInfoAccess")]),
  ([1, 3, 6, 1, 5, 5, 7, 48], [(1, "id-ad-ocsp"), (2, "id-ad-caIssuers"),
    (3, "id-ad-timestamping"), (4, "id-ad-dvcs"), (5, "id-ad-caRepository"),
    (6, "id-ad-http-certs"), (7, "id-ad-http-crls"), (10, "id-ad-rpki-manifest"),
    (11, "id-ad-signed-object"), (12, "id-ad-cmc"), (13, "id-ad-rpki-notify"),
    (14, "id-ad-stirTNList")]),
  ([2, 5], [(4, "x509")]),
  ([2, 5, 4], [(0, "objectClass"), (1, "aliasedEntryName"), (2, "knowledgeInformation"), (3, "CN"),
    (4, "surname"), (5, "serialNumber"), (6, "C"), (7, "L"), (8, "ST"), (9, "streetAddress"),
    (10, "O"), (11, "OU"), (12, "title"), (13, "description"), (14, "searchGuide"),
    (15, "businessCategory"), (16, "postalAddress"), (17, "postalCode"), (41, "name"),
    (42, "givenName"), (43, "initials"), (44, "generationQualifier"), (45, "uniqueIdentifier"),
    (46, "dnQualifier")]),
  ([2, 5, 29], [(1, "oldAuthorityKeyIdentifier"), (2, "oldKeyAttributes"),
    (3, "oldCertificatePolicies"), (4, "oldKeyUsage"), (5, "oldPolicyMapping"),
    (6, "oldSubtreesConstraint"), (7, "oldSubjectAltNAme"), (8, "oldIssuerAltNAme"),
    (14, "subjectKeyIdentifier"), (15, "keyUsage"), (16, "privateKeyUsagePeriod"),
    (17, "subjectAltName"), (18, "issuerAltName"), (19, "basicConstraints"), (20, "crlNumber"),
    (21, "reasonCode"), (23, "holdInstructionCode"), (24, "invalidityDate"),
    (27, "deltaCRLIndicator"), (28, "issuerDistributionPoint"), (29, "issuer"),
    (30, "nameConstraints"), (31, "crlDistributionPoints"), (32, "certificatePolicies"),
    (33, "policyMappings"), (35, "authorityKeyIdentifier"), (36, "policyConstraints"),
    (37, "extendedKeyUsage"), (46, "freshestCRL"), (54, "inhibitantAnyPolicy")]),
  ([2, 16, 840, 1, 101, 3, 4, 1], [(42, "aes-256-cbc")]),
  ([2, 16, 840, 1, 101, 3, 4, 2], [(1, "sha256"), (2, "sha384"), (3, "sha512")]),
  ([2, 16, 840, 1, 113730, 1], [(1, "nsCertType"), (2, "nsBaseURL"), (3, "nsRevocationURL"),
    (4, "nsCARevocationURL"), (5, "nsCACRLURL"), (6, "nsCACertURL"), (7, "nsRenewalURL"),
    (8, "nsCAPolicyURL"), (9, "nsHomepageURL"), (10, "nsEntityLogo"), (11, "nsUserPicture"),
    (12, "nsSSLServerName"), (13, "nsComment")])]

/-- The short name of an object identifier, which must be in its shortest form. -/
def shortName? (kind : List UInt8) : Option String :=
  shortNames.findSome? fun (arcs, names) =>
    names.findSome? fun (last, name) =>
      if Der.objectId (arcs ++ [last]) = kind then some name else none

def kindText (kind : List UInt8) : String :=
  (shortName? kind).getD ("OID(" ++ Der.objectIdText kind ++ ")")

def hexCapitals (bytes : List UInt8) : String :=
  let digit (n : Nat) : Char := if n < 10 then Char.ofNat (48 + n) else Char.ofNat (55 + n)
  String.ofList (bytes.flatMap fun b => [digit (b.toNat / 16), digit (b.toNat % 16)])

def textTags : List Nat := [12, 18, 19, 20, 21, 22, 7, 25, 26, 27]

namespace Attribute

/-- The value as text, if its bytes are what its tag says. -/
def valueText? (a : Attribute) : Option String :=
  if textTags.contains a.tag then String.fromUTF8? ⟨a.value.toArray⟩
  else if a.tag = 30 then (Text.fromCodeUnits? (Text.codeUnits a.value)).map String.ofList
  else some (hexCapitals a.value)

def text? (a : Attribute) : Option String := a.valueText?.map (kindText a.kind ++ "=" ++ ·)

/-- An attribute at the beginning of some bytes, and what follows. Its type may have any tag. -/
def read? (bytes : List UInt8) : Option (Attribute × List UInt8) :=
  match Der.Element.readContents Der.sequenceTag bytes with
  | .error _ => none
  | .ok (contents, rest) =>
    match Der.Element.read contents with
    | .error _ => none
    | .ok (kind, value) =>
      if kind.header.isConstructed then none
      else
        match Der.Element.read value with
        | .error _ => none
        | .ok (v, _) => some (⟨kind.contents, v.header.tag, v.contents⟩, rest)

end Attribute

/-- Reads things one after the other, at most so many, up to the first that cannot be read. -/
def readMany {α : Type} (read? : List UInt8 → Option (α × List UInt8)) :
    Nat → List UInt8 → List α × List UInt8
  | 0, bytes => ([], bytes)
  | most + 1, bytes =>
    match read? bytes with
    | none => ([], bytes)
    | some (a, rest) =>
      let (more, rest) := readMany read? most rest
      (a :: more, rest)

def readSet? (bytes : List UInt8) : Option (List Attribute × List UInt8) :=
  match Der.Element.readContents Der.setTag bytes with
  | .error _ => none
  | .ok (contents, rest) =>
    match (readMany Attribute.read? contents.length contents).1 with
    | [] => none
    | set => some (set, rest)

abbrev Name := List (List Attribute)

namespace Name

/-- The sets of a name, from the contents of its sequence. -/
def ofContents (contents : List UInt8) : Name := (readMany readSet? contents.length contents).1

/-- A name as text, or a note that a value of it is not text. -/
def text (n : Name) : String :=
  match n.mapM fun set => (set.mapM Attribute.text?).map (" + ".intercalate ·) with
  | some sets => ", ".intercalate sets
  | none => "<X509Error: Invalid X.509 name>"

end Name

end CredentialKeeper.X509
