import CredentialKeeper.Web.Url

/-!
# Token requests

A request for a token takes an assertion to an address and trades it for an answer. An address that
cannot be asked at all is told from an endpoint that does not answer.
-/

namespace CredentialKeeper.Fcm

/-- The kind of trade in which an assertion is worth a token. -/
def assertionGrant : String := "urn:ietf:params:oauth:grant-type:jwt-bearer"

/-- A form posted to an address. -/
structure TokenRequest where
  address : String
  form : List (String × String)
deriving DecidableEq

namespace TokenRequest

def ofAssertion (address : String) (assertion : List Char) : TokenRequest where
  address
  form := [("grant_type", assertionGrant), ("assertion", String.ofList assertion)]

end TokenRequest

inductive TokenReply where
  /-- The endpoint was not reached, or hung up. -/
  | unsent
  /-- The answer broke off. -/
  | unread
  | answered (status : Nat) (body : String)
deriving DecidableEq

inductive TransportFault where
  | noAddress
  /-- The address is not one of a server that takes requests. -/
  | unsuited (url : Web.Url)
  | unsent (url : Web.Url)
  | unread
deriving DecidableEq

def TransportFault.message : TransportFault → String
  | noAddress => "builder error"
  | unsuited url => "builder error for url (" ++ url.text ++ ")"
  | unsent url => "error sending request for url (" ++ url.text ++ ")"
  | unread => "error decoding response body"

namespace TokenRequest

/-- The place of a request: an address of a server that takes requests. Who asks is not part of it,
as that is told in another way. -/
def url (r : TokenRequest) : Except TransportFault Web.Url :=
  match Web.Url.parse? r.address with
  | none => .error .noAddress
  | some url =>
    if !url.hasHost then .error (.unsuited url)
    else
      let url := url.withoutUser
      if (url.scheme = "http" || url.scheme = "https") && url.isSendable then .ok url
      else .error (.unsuited url)

/-- The status and the body of the answer, if what comes back is one. -/
def answer (r : TokenRequest) (reply : TokenReply) : Except TransportFault (Nat × String) :=
  match r.url with
  | .error e => .error e
  | .ok url =>
    match reply with
    | .unsent => .error (.unsent url)
    | .unread => .error .unread
    | .answered status body => .ok (status, body)

end TokenRequest

end CredentialKeeper.Fcm
