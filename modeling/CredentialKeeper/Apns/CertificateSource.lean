import CredentialKeeper.Apns.CertificateInfo
import CredentialKeeper.Crypto.KeyPair
import CredentialKeeper.Files
import CredentialKeeper.Manager.Source

/-!
# Certificates as credentials

A source that reads a certificate and its private key from files at every renewal. The key must be
the certificate's, and the certificate must be valid at the time.
-/

namespace CredentialKeeper.Apns

structure Identity where
  certificatePem : String
  keyPem : String
  info : CertificateInfo
deriving DecidableEq

def Identity.record (i : Identity) : String :=
  Text.record "ApnsIdentity" [("subject", Text.quote i.info.subject),
    ("serial", Text.quote i.info.serial), ("not_after", i.info.notAfter.record),
    ("key_pem", Text.quote "<redacted>")]

def isPrivateKeyTag (tag : String) : Bool := "PRIVATE KEY".toList.isSuffixOf tag.toList

/-- The public half of the private key in a PEM text. The text has a block of a private key, the
first of which is not encrypted; the key itself is read from the first block of all. -/
def publicKeyOfPem (text : String) : Except Error (List UInt8) :=
  match Pem.blocks text with
  | .error e => .error (.pem e.message)
  | .ok blocks =>
    match blocks.find? (isPrivateKeyTag ·.tag) with
    | none => .error (.privateKey "no PRIVATE KEY block found")
    | some block =>
      if block.tag = "ENCRYPTED PRIVATE KEY" then
        .error (.privateKey "encrypted private keys are not supported")
      else
        match blocks.head?.bind (KeyPair.publicKeyOf? ·.contents) with
        | some key => .ok key
        | none => .error (.privateKey "Could not parse key pair")

/-- The key in a PEM text is the certificate's. -/
def checkPrivateKey (text : String) (leaf : CertificateInfo) : Except Error Unit :=
  match publicKeyOfPem text with
  | .error e => .error e
  | .ok key =>
    if key = leaf.publicKey then .ok ()
    else .error (.privateKey ("key does not match certificate " ++ leaf.serial))

def readFile (path : String) (answer : Except ReadError String) : Except Failure String :=
  match answer with
  | .ok text => .ok text
  | .error e => .error ⟨.io, "failed to read " ++ path ++ ": " ++ e.message⟩

def identify (certificatePem keyPem : String) : Except Failure Identity :=
  match CertificateInfo.ofPem certificatePem with
  | .error e => .error ⟨.rejected, e.message⟩
  | .ok info =>
    match checkPrivateKey keyPem info with
    | .error e => .error ⟨.rejected, e.message⟩
    | .ok () => .ok ⟨certificatePem, keyPem, info⟩

def Identity.checkValidity (i : Identity) (now : Moment) : Except Failure Unit :=
  if i.info.isExpired now then
    .error ⟨.rejected, "certificate " ++ i.info.serial ++ " expired at " ++ i.info.notAfter.text⟩
  else if i.info.isNotYetValid now then
    .error ⟨.rejected, "certificate " ++ i.info.serial ++ " not valid before " ++
      i.info.notBefore.text⟩
  else .ok ()

/-- The identity in two files, from the answers of the two reads. -/
def readIdentity (s : Settings) (certificate key : Except ReadError String) :
    Except Failure Identity :=
  match readFile s.certificatePath certificate with
  | .error f => .error f
  | .ok certificatePem =>
    match readFile s.privateKeyPath key with
    | .error f => .error f
    | .ok keyPem => identify certificatePem keyPem

def sourceName (s : Settings) : String := "apns:" ++ s.bundleId

def notice (s : Settings) (i : Identity) (now : Moment) : Log.Notice :=
  if i.info.willExpireWithin s.expiryWarning now then
    .certificateExpiring (sourceName s) i.info.subject i.info.notAfter
  else .certificateLoaded (sourceName s) i.info.subject i.info.notAfter

/-- A credential of an identity, if it is valid, with what is reported. -/
def issue (s : Settings) (i : Identity) (now : Moment) : Outcome Identity × List Log.Notice :=
  match i.checkValidity now with
  | .error f => (.error f, [])
  | .ok () => (.ok ⟨i, i.info.notAfter, now⟩, [notice s i now])

def renewal (s : Settings) (certificate key : Except ReadError String) (now : Moment) :
    Outcome Identity × List Log.Notice :=
  match readIdentity s certificate key with
  | .error f => (.error f, [])
  | .ok identity => issue s identity now

def reads (s : Settings) (files : Files) : Except ReadError String × Except ReadError String :=
  (files.readText s.certificatePath, files.readText s.privateKeyPath)

def load (s : Settings) (files : Files) (now : Moment) : Outcome Identity × List Log.Notice :=
  renewal s (reads s files).1 (reads s files).2 now

/-- The answer of the source at a wall time. The clock is not looked at unless there is an
identity. -/
def reply (s : Settings) (files : Files) : Option Moment → Manager.Reply Identity × List Log.Notice
  | some now =>
    let (outcome, notices) := load s files now
    (.outcome outcome, notices)
  | none =>
    match readIdentity s (reads s files).1 (reads s files).2 with
    | .error f => (.outcome (.error f), [])
    | .ok _ => (.crash Moment.noneMessage, [])

def certificateSource (s : Settings) : Manager.Source Files Identity where
  name := sourceName s
  renew files _ := (⟨.atOnce, reply s files⟩, files)

def newSource (s : Settings) : Except Error (Manager.Source Files Identity) :=
  match s.check with
  | .ok () => .ok (certificateSource s)
  | .error e => .error e

end CredentialKeeper.Apns
