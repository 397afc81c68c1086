import CredentialKeeper.Environment
import CredentialKeeper.Number.Integer
import CredentialKeeper.Refresh.Settings
import CredentialKeeper.Text.Blank

/-!
# Refresh settings from the environment

Each of eleven variables, named by a common first part, replaces one setting of a base. A variable
that is unset or blank leaves the base's value. The variables are read in a fixed order and the
first bad one is reported (`Settings.load`).
-/

namespace CredentialKeeper.Refresh

/-- Reads a setting: none if the variable is unset or blank, else what the text, trimmed, stands
for. The error shows the text as it was set. -/
def readSetting {α : Type} (parse? : String → Option α) (env : Environment) (key : String) :
    Except SettingsError (Option α) :=
  match env.text? key with
  | none => .ok none
  | some raw =>
    if Text.trim raw = "" then .ok none
    else
      match parse? (Text.trim raw) with
      | some v => .ok (some v)
      | none => .error (.invalidValue key raw)

/-- Zero turns a limit off. -/
def limitOf {α : Type} (n : UInt64) (limit : α) : Option α := if n = 0 then none else some limit

/-- How a variable's text changes the settings, if it is a value of the setting. -/
abbrev Change := String → Option (Settings → Settings)

def changeSeconds (change : Span → Settings → Settings) : Change :=
  fun s => (parseUInt64? s).map fun n => change (.ofSeconds n)

def changeMillis (change : Span → Settings → Settings) : Change :=
  fun s => (parseUInt64? s).map fun n => change (.ofMillis n)

def changes : List (String × Change) := [
  ("LOOKAHEAD_SECS", changeSeconds fun d s => { s with lookahead := d }),
  ("REFRESH_INTERVAL_SECS", changeSeconds fun d s => { s with refreshInterval := some d }),
  ("MIN_REFRESH_INTERVAL_MS", changeMillis fun d s => { s with minRefreshInterval := d }),
  ("STARTUP_RETRY_DELAY_MS", changeMillis fun d s => { s with startupRetryDelay := d }),
  ("RENEW_TIMEOUT_SECS", changeSeconds fun d s => { s with renewTimeout := d }),
  ("BACKOFF_INITIAL_MS", changeMillis fun d s =>
    { s with backoff := { s.backoff with initialInterval := d } }),
  ("BACKOFF_MULTIPLIER", fun t => (Binary64.parse? t).map fun x s =>
    { s with backoff := { s.backoff with multiplier := x } }),
  ("BACKOFF_MAX_MS", changeMillis fun d s =>
    { s with backoff := { s.backoff with maxInterval := d } }),
  ("BACKOFF_RANDOMIZATION", fun t => (Binary64.parse? t).map fun x s =>
    { s with backoff := { s.backoff with randomizationFactor := x } }),
  ("BACKOFF_MAX_ELAPSED_SECS", fun t => (parseUInt64? t).map fun n s =>
    { s with backoff := { s.backoff with maxElapsedTime := limitOf n (.ofSeconds n) } }),
  ("BACKOFF_MAX_ATTEMPTS", fun t => (parseNat? 4294967295 t).map fun n s =>
    { s with backoff := { s.backoff with maxAttempts := if n = 0 then none else some n } })]

/-- The settings after some variables, without their check. -/
def override (env : Environment) (stem : String) (base : Settings) :
    List (String × Change) → Except SettingsError Settings
  | [] => .ok base
  | (name, change) :: rest =>
    match readSetting change env (stem ++ "_" ++ name) with
    | .error e => .error e
    | .ok none => override env stem base rest
    | .ok (some f) => override env stem (f base) rest

/-- The base with the settings of the environment, checked. -/
def Settings.load (env : Environment) (stem : String) (base : Settings) :
    Except SettingsError Settings :=
  match override env stem base changes with
  | .error e => .error e
  | .ok s =>
    match s.check with
    | .ok () => .ok s
    | .error e => .error e

end CredentialKeeper.Refresh
