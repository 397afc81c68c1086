import CredentialKeeper.Apns.Settings
import CredentialKeeper.Refresh.Environment

/-!
# Settings of the service

A gateway is served if the variable for the path of its credential is set. Its other variables are
read only then, and the first fault in reading order is reported. At least one gateway must be
served. Main definition: `Service.Settings.load`.
-/

namespace CredentialKeeper.Service

inductive LogFormat where
  | text
  | json
deriving DecidableEq

structure ApnsSettings where
  gateway : Apns.Settings
  refresh : Refresh.Settings
deriving DecidableEq

structure FcmSettings where
  accountPath : String
  /-- What tokens are asked for, if not for the whole platform. -/
  scope : Option String
  refresh : Refresh.Settings
deriving DecidableEq

structure Settings where
  /-- Where the service runs, for its log. -/
  surroundings : String
  logFormat : LogFormat
  apns : Option ApnsSettings
  fcm : Option FcmSettings
deriving DecidableEq

inductive SettingsError where
  | logFormat (raw : String)
  | apns (cause : Apns.Error)
  | apnsRefresh (cause : Refresh.SettingsError)
  | fcmRefresh (cause : Refresh.SettingsError)
  | noGateway
deriving DecidableEq

def SettingsError.chain : SettingsError → List String
  | logFormat raw => ["LOG_FORMAT must be text or json, got " ++ Text.quote raw]
  | apns cause => ["invalid APNs configuration", cause.message]
  | apnsRefresh cause => "invalid APNS_REFRESH_* configuration" :: cause.chain
  | fcmRefresh cause => "invalid FCM_REFRESH_* configuration" :: cause.chain
  | noGateway =>
    ["no push gateway configured: set APNS_CERTIFICATE_PATH and/or FCM_SERVICE_ACCOUNT_PATH"]

namespace LogFormat

/-- Text lines are the standard. -/
def load (env : Environment) : Except SettingsError LogFormat :=
  match env.text? "LOG_FORMAT" with
  | none => .ok .text
  | some raw =>
    if raw = "text" then .ok .text
    else if raw = "json" then .ok .json
    else .error (.logFormat raw)

end LogFormat

/-- The part of the APNs gateway, if it is served. -/
def ApnsSettings.load (env : Environment) : Except SettingsError (Option ApnsSettings) :=
  match env.text? "APNS_CERTIFICATE_PATH" with
  | none => .ok none
  | some _ =>
    match Apns.Settings.load env with
    | .error e => .error (.apns e)
    | .ok gateway =>
      match Refresh.Settings.forCertificates.load env "APNS_REFRESH" with
      | .error e => .error (.apnsRefresh e)
      | .ok refresh => .ok (some ⟨gateway, refresh⟩)

def FcmSettings.load (env : Environment) : Except SettingsError (Option FcmSettings) :=
  match env.text? "FCM_SERVICE_ACCOUNT_PATH" with
  | none => .ok none
  | some accountPath =>
    match Refresh.Settings.forAccessTokens.load env "FCM_REFRESH" with
    | .error e => .error (.fcmRefresh e)
    | .ok refresh => .ok (some ⟨accountPath, env.text? "FCM_SCOPE", refresh⟩)

namespace Settings

def load (env : Environment) : Except SettingsError Settings :=
  match LogFormat.load env with
  | .error e => .error e
  | .ok logFormat =>
    match ApnsSettings.load env with
    | .error e => .error e
    | .ok apns =>
      match FcmSettings.load env with
      | .error e => .error e
      | .ok fcm =>
        if apns.isNone && fcm.isNone then .error .noGateway
        else .ok ⟨(env.text? "APP_ENV").getD "development", logFormat, apns, fcm⟩

end Settings

end CredentialKeeper.Service
