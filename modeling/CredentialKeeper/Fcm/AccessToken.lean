import CredentialKeeper.Text.Quoted
import CredentialKeeper.Text.Record

/-!
# Access tokens

A token that its bearer shows to the gateway.
-/

namespace CredentialKeeper.Fcm

structure AccessToken where
  secret : String
  tokenType : String
deriving DecidableEq

namespace AccessToken

/-- The value of the header that authorizes a request. -/
def authorizationHeader (t : AccessToken) : String := "Bearer " ++ t.secret

def record (t : AccessToken) : String :=
  Text.record "AccessToken" [("token", Text.quote "<redacted>"),
    ("token_type", Text.quote t.tokenType)]

end AccessToken

end CredentialKeeper.Fcm
