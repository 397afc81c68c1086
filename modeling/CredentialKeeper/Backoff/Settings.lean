import CredentialKeeper.Number.Decimal

/-!
# Backoff settings

The parameters of an exponential backoff and the conditions on them. `Settings.check` reports the
first condition that fails.
-/

namespace CredentialKeeper.Backoff

/-- How the waits between retries grow, and when to give up. -/
structure Settings where
  initialInterval : Span
  multiplier : Binary64
  maxInterval : Span
  /-- The part of the interval by which a wait may differ from it. -/
  randomizationFactor : Binary64
  maxElapsedTime : Option Span
  maxAttempts : Option Nat
deriving DecidableEq

inductive SettingsError where
  | zeroInitialInterval
  | invalidMultiplier (multiplier : Binary64)
  | invalidRandomization (factor : Binary64)
  | maxBelowInitial (initial max : Span)
deriving DecidableEq

def SettingsError.message : SettingsError → String
  | zeroInitialInterval => "initial interval must be greater than zero"
  | invalidMultiplier m => "multiplier must be >= 1.0, got " ++ m.text
  | invalidRandomization f => "randomization factor must be in [0, 1), got " ++ f.text
  | maxBelowInitial initial max =>
    "max interval " ++ max.text ++ " is below initial interval " ++ initial.text

namespace Settings

/-- Half a second, growing by half up to a minute, half of it random, for a quarter of an hour. -/
def standard : Settings where
  initialInterval := .ofMillis 500
  multiplier := .ofRatio 3 2
  maxInterval := .ofSeconds 60
  randomizationFactor := .ofRatio 1 2
  maxElapsedTime := some (.ofSeconds 900)
  maxAttempts := none

/-- The first of the conditions that fails: a positive first interval, a multiplier of at least
one, a randomization factor from zero to below one, and a greatest interval not below the first. -/
def check (s : Settings) : Except SettingsError Unit :=
  if s.initialInterval.isZero then .error .zeroInitialInterval
  else if !Binary64.one.le s.multiplier then .error (.invalidMultiplier s.multiplier)
  else if !(Binary64.zero.le s.randomizationFactor && s.randomizationFactor.lt .one) then
    .error (.invalidRandomization s.randomizationFactor)
  else if s.maxInterval < s.initialInterval then
    .error (.maxBelowInitial s.initialInterval s.maxInterval)
  else .ok ()

end Settings

end CredentialKeeper.Backoff
