import CredentialKeeper.Encoding.Der

/-!
# Faults of certificates

What can be wrong with the bytes of a certificate. A fault in the form of a value is told as such,
one in what a value means by the part of the certificate.
-/

namespace CredentialKeeper.X509

inductive Fault where
  /-- A value is not well formed, or not of the kind that belongs there. -/
  | form (cause : Der.Fault)
  | version
  | serial
  | algorithm
  | date
  | publicKey
  | issuerId
  | subjectId
  | extensions
  | signatureValue
deriving DecidableEq

def tagRecord (tag : Nat) : String := "Tag(" ++ toString tag ++ ")"

namespace Fault

/-- The name of a fault, but for missing bytes. -/
def name : Fault → String
  | form .eof => "NomError(Eof)"
  | form (.incomplete _) => "NomError(Eof)"
  | form .invalidTag => "Der(InvalidTag)"
  | form .invalidLength => "Der(InvalidLength)"
  | form .indefiniteLength => "Der(DerConstraintFailed(IndefiniteLength))"
  | form (.unexpectedTag expected actual) =>
    "Der(UnexpectedTag \x7b expected: Some(" ++ tagRecord expected ++ "), actual: " ++
      tagRecord actual ++ " \x7d)"
  | form (.unexpectedClass expected actual) =>
    "Der(UnexpectedClass \x7b expected: Some(" ++ expected.name ++ "), actual: " ++
      actual.name ++ " \x7d)"
  | version => "InvalidVersion"
  | serial => "InvalidSerial"
  | algorithm => "InvalidAlgorithmIdentifier"
  | date => "InvalidDate"
  | publicKey => "InvalidSPKI"
  | issuerId => "InvalidIssuerUID"
  | subjectId => "InvalidSubjectUID"
  | extensions => "InvalidExtensions"
  | signatureValue => "InvalidSignatureValue"

def message : Fault → String
  | form (.incomplete missing) => "Parsing requires " ++ toString missing ++ " bytes/chars"
  | f => "Parsing Error: " ++ f.name

end Fault

end CredentialKeeper.X509
