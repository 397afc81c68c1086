import CredentialKeeper.Backoff.Settings
import CredentialKeeper.Text.Quoted

/-!
# Refresh settings

The parameters of a refresh manager, the conditions on them, and the settings that suit each kind
of credential.
-/

namespace CredentialKeeper.Refresh

structure Settings where
  /-- How long before its expiry a credential is renewed. -/
  lookahead : Span
  /-- Renew at least this often, however long credentials last. -/
  refreshInterval : Option Span
  /-- The least time from one renewal to the next. -/
  minRefreshInterval : Span
  /-- The wait between attempts until the first credential is issued. -/
  startupRetryDelay : Span
  /-- How long one renewal may take. -/
  renewTimeout : Span
  backoff : Backoff.Settings
deriving DecidableEq

inductive Interval where
  | startupRetryDelay
  | minRefreshInterval
  | renewTimeout
  | refreshInterval
deriving DecidableEq

def Interval.name : Interval → String
  | startupRetryDelay => "startup_retry_delay"
  | minRefreshInterval => "min_refresh_interval"
  | renewTimeout => "renew_timeout"
  | refreshInterval => "refresh_interval"

inductive SettingsError where
  /-- A variable's text, as it was set, is not a value of the setting. -/
  | invalidValue (key value : String)
  | zero (interval : Interval)
  | backoff (cause : Backoff.SettingsError)
deriving DecidableEq

namespace SettingsError

def message : SettingsError → String
  | invalidValue key value => "Invalid value for " ++ key ++ ": " ++ Text.quote value
  | zero interval => interval.name ++ " must be greater than zero"
  | backoff cause => "Invalid backoff configuration: " ++ cause.message

/-- The message, and those of the causes behind it. -/
def chain : SettingsError → List String
  | backoff cause => [(backoff cause).message, cause.message]
  | e => [e.message]

end SettingsError

namespace Settings

/-- Renewal five minutes before the expiry, and no sooner. -/
def standard : Settings where
  lookahead := .ofSeconds 300
  refreshInterval := none
  minRefreshInterval := .ofSeconds 1
  startupRetryDelay := .ofSeconds 2
  renewTimeout := .ofSeconds 30
  backoff := .standard

/-- For certificates: a month of lookahead, a look at the files every six hours, and a day of
retries. -/
def forCertificates : Settings where
  lookahead := .ofSeconds 2592000
  refreshInterval := some (.ofSeconds 21600)
  minRefreshInterval := .ofSeconds 60
  startupRetryDelay := .ofSeconds 2
  renewTimeout := .ofSeconds 10
  backoff :=
    { initialInterval := .ofSeconds 1
      multiplier := .ofNat 2
      maxInterval := .ofSeconds 300
      randomizationFactor := .ofRatio 3 10
      maxElapsedTime := some (.ofSeconds 86400)
      maxAttempts := none }

def forAccessTokens : Settings where
  lookahead := .ofSeconds 300
  refreshInterval := some (.ofSeconds 2700)
  minRefreshInterval := .ofSeconds 1
  startupRetryDelay := .ofSeconds 2
  renewTimeout := .ofSeconds 30
  backoff := .standard

/-- The first of the conditions that fails: no interval may be zero, and the backoff settings must
meet theirs. -/
def check (s : Settings) : Except SettingsError Unit :=
  if s.startupRetryDelay.isZero then .error (.zero .startupRetryDelay)
  else if s.minRefreshInterval.isZero then .error (.zero .minRefreshInterval)
  else if s.renewTimeout.isZero then .error (.zero .renewTimeout)
  else if s.refreshInterval.any Span.isZero then .error (.zero .refreshInterval)
  else
    match s.backoff.check with
    | .ok () => .ok ()
    | .error e => .error (.backoff e)

end Settings

/-- Why a manager reports an end of its renewals, or did not start. -/
inductive RefreshError where
  | backoffExhausted (sourceName : String) (attempts : Nat) (elapsed : Span)
  | spawn (reason : String)
  | invalidConfig (cause : SettingsError)
deriving DecidableEq

namespace RefreshError

def message : RefreshError → String
  | backoffExhausted name attempts elapsed =>
    "Backoff exhausted for credential source " ++ name ++ ": " ++ toString attempts ++
      " consecutive failed renewals over " ++ elapsed.text
  | spawn reason => "Failed to launch background renewal task: " ++ reason
  | invalidConfig cause => "Invalid refresh configuration: " ++ cause.message

def chain : RefreshError → List String
  | invalidConfig cause => (invalidConfig cause).message :: cause.chain
  | e => [e.message]

/-- The renewals of a running manager have ended for good. -/
def isFatal : RefreshError → Bool
  | backoffExhausted .. => true
  | _ => false

end RefreshError

end CredentialKeeper.Refresh
