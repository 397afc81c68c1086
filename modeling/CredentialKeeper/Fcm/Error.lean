import CredentialKeeper.Credential

/-!
# Errors of the FCM gateway

What goes wrong with a service account or with a request for an access token, and what kind of
failed renewal each of them is.
-/

namespace CredentialKeeper.Fcm

inductive Error where
  | keyParse (reason : String)
  | keyFile (reason : String)
  | jwtEncode (reason : String)
  | token (reason : String)
  | requestFailed (status : Nat) (body : String)
  | tokenParse (reason : String)
deriving DecidableEq

namespace Error

def message : Error → String
  | keyParse reason => "Failed to parse private key: " ++ reason
  | keyFile reason => "Failed to load service account key: " ++ reason
  | jwtEncode reason => "Failed to encode JWT: " ++ reason
  | token reason => "Failed to get access token: " ++ reason
  | requestFailed status body =>
    "Token request failed with status " ++ toString status ++ ": " ++ body
  | tokenParse reason => "Failed to parse token response: " ++ reason

def record : Error → String
  | keyParse reason => Text.wrapped "KeyParseError" (Text.quote reason)
  | keyFile reason => Text.wrapped "KeyFileError" (Text.quote reason)
  | jwtEncode reason => Text.wrapped "JwtEncodeError" (Text.quote reason)
  | token reason => Text.wrapped "TokenError" (Text.quote reason)
  | requestFailed status body =>
    Text.record "TokenRequestFailed" [("status", toString status), ("body", Text.quote body)]
  | tokenParse reason => Text.wrapped "TokenParseError" (Text.quote reason)

/-- The failed renewal that an error is: one of the exchange, of the answer, or of the request. -/
def failure (e : Error) : Failure :=
  match e with
  | token _ => ⟨.io, e.message⟩
  | tokenParse _ => ⟨.invalidResponse, e.message⟩
  | _ => ⟨.rejected, e.message⟩

end Error

end CredentialKeeper.Fcm
