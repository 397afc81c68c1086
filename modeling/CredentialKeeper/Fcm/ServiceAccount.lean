import CredentialKeeper.Fcm.Error
import CredentialKeeper.Files
import CredentialKeeper.Json.Record

/-!
# Service accounts

The key of a service account as a JSON record. The e-mail address and the private key must not be
empty. The main definitions are `ServiceAccount.ofJson` and its counterpart `ServiceAccount.json`.
-/

namespace CredentialKeeper.Fcm

structure ServiceAccount where
  projectId : String
  privateKeyId : String
  privateKey : String
  clientEmail : String
  clientId : String
  authUri : String
  tokenUri : String
deriving DecidableEq

/-- Where tokens are asked for if the account does not say. -/
def defaultTokenUri : String := "https://oauth2.googleapis.com/token"

inductive AccountFault where
  | json (cause : Json.Error)
  | emptyClientEmail
  | emptyPrivateKey
  | file (path : String) (cause : ReadError)
deriving DecidableEq

namespace AccountFault

def message : AccountFault → String
  | json cause => cause.message
  | emptyClientEmail => "client_email is empty"
  | emptyPrivateKey => "private_key is empty"
  | file path cause => path ++ ": " ++ cause.message

def error (f : AccountFault) : Error := .keyFile f.message

end AccountFault

namespace ServiceAccount

/-- The fields of an account. The last three need not be there. -/
def recordType : Json.RecordType ServiceAccount where
  wanted := "struct ServiceAccountKey"
  blank := ⟨"", "", "", "", "", "", defaultTokenUri⟩
  fields := [
    .text "project_id" fun s a => { a with projectId := s },
    .text "private_key_id" fun s a => { a with privateKeyId := s },
    .text "private_key" fun s a => { a with privateKey := s },
    .text "client_email" fun s a => { a with clientEmail := s },
    .optionalText "client_id" fun s a => { a with clientId := s },
    .optionalText "auth_uri" fun s a => { a with authUri := s },
    .optionalText "token_uri" fun s a => { a with tokenUri := s }]

def ofJson (text : String) : Except AccountFault ServiceAccount :=
  match recordType.read text with
  | .error e => .error (.json e)
  | .ok a =>
    if a.clientEmail.isEmpty then .error .emptyClientEmail
    else if a.privateKey.isEmpty then .error .emptyPrivateKey
    else .ok a

def ofFile (files : Files) (path : String) : Except AccountFault ServiceAccount :=
  match files.readText path with
  | .error e => .error (.file path e)
  | .ok text => ofJson text

def json (a : ServiceAccount) : String :=
  Json.writeObject [("project_id", .text a.projectId), ("private_key_id", .text a.privateKeyId),
    ("private_key", .text a.privateKey), ("client_email", .text a.clientEmail),
    ("client_id", .text a.clientId), ("auth_uri", .text a.authUri), ("token_uri", .text a.tokenUri)]

def record (a : ServiceAccount) : String :=
  Text.openRecord "ServiceAccountKey" [("project_id", Text.quote a.projectId),
    ("private_key_id", Text.quote a.privateKeyId), ("client_email", Text.quote a.clientEmail),
    ("token_uri", Text.quote a.tokenUri)]

end ServiceAccount

end CredentialKeeper.Fcm
