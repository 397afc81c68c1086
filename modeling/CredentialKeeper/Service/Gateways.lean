import CredentialKeeper.Apns.CertificateSource
import CredentialKeeper.Backoff.Exponential
import CredentialKeeper.Fcm.TokenSource
import CredentialKeeper.Service.Supervision

/-!
# The gateways of the service

How the managers of certificates and of access tokens are prepared from their settings. The service
account and its key are read when their manager's turn has come.
-/

namespace CredentialKeeper.Service

/-- What the service finds around it. A `σ` is what the token endpoint remembers. -/
structure Surroundings (σ : Type) where
  wall : Nat → Moment
  files : Nat → Files
  ask : Fcm.TokenSource.Asking σ
  memory : σ
  /-- The random parts of the waits, for each gateway. -/
  draws : List Binary64

abbrev Waits := Backoff.Exponential × List Binary64

variable {σ : Type}

/-- The manager of a source with given settings. -/
def openingOf {τ α : Type} (w : Surroundings σ) (source : Manager.Source τ α) (memory : τ)
    (refresh : Refresh.Settings) : Opening τ α Waits where
  plan := ⟨source, Backoff.Exponential.strategy, refresh, fun now => some (w.wall now)⟩
  memory
  backoff := (.fresh refresh.backoff, w.draws)

def certificatePost (w : Surroundings σ) (s : ApnsSettings) : Post Files Apns.Identity Waits where
  prepare now :=
    match Apns.newSource s.gateway with
    | .error e => .error (.apns e)
    | .ok source => .ok (openingOf w source (w.files now) s.refresh)
  announcement := .apnsStarting s.gateway.endpoint
  refusal := .apnsStart

def tokenSource (files : Files) (s : FcmSettings) : Except Fcm.Error Fcm.TokenSource :=
  match Fcm.ServiceAccount.ofFile files s.accountPath with
  | .error e => .error e.error
  | .ok account =>
    match Fcm.TokenSource.new account with
    | .error e => .error e
    | .ok source => .ok (match s.scope with
      | some scope => source.withScope scope
      | none => source)

def tokenPost (w : Surroundings σ) (s : FcmSettings) : Post σ Fcm.AccessToken Waits where
  prepare now :=
    match tokenSource (w.files now) s with
    | .error e => .error (.fcm e)
    | .ok source => .ok (openingOf w (source.source w.ask) w.memory s.refresh)
  announcement := .fcmStarting
  refusal := .fcmStart

abbrev PushService (σ : Type) := Service Files Apns.Identity Waits σ Fcm.AccessToken Waits

def stationOf {σ α β ρ : Type} (post : ρ → Post σ α β) : Option ρ → Station σ α β
  | some settings => .idle (post settings)
  | none => .vacant

def ofSettings {σ : Type} (w : Surroundings σ) (s : Settings) : PushService σ :=
  before (stationOf (certificatePost w) s.apns) (stationOf (tokenPost w) s.fcm)

end CredentialKeeper.Service
