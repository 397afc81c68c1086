import CredentialKeeper.Backoff.Settings
import CredentialKeeper.Backoff.Strategy

/-!
# Exponential backoff

The interval starts at `initialInterval` and grows by the multiplier with every wait handed out, up
to `maxInterval`. A wait is the interval with some of it random. Once the attempts or the time since
the first question are spent, the backoff stays exhausted until it is reset.
-/

namespace CredentialKeeper.Backoff

structure Exponential where
  settings : Settings
  /-- The interval that the next wait is drawn around. -/
  current : Span
  /-- The number of waits handed out since the last reset. -/
  attempts : Nat
  /-- The time of the first question since the last reset. -/
  startedAt : Option Nat
deriving DecidableEq

namespace Exponential

def fresh (s : Settings) : Exponential := ⟨s, s.initialInterval, 0, none⟩

def new (s : Settings) : Except SettingsError Exponential :=
  match s.check with
  | .ok () => .ok (fresh s)
  | .error e => .error e

/-- The attempts are used up, or more than the allowed time has passed since the first question. -/
def isExhausted (b : Exponential) (clock : Nat) : Bool :=
  (match b.settings.maxAttempts with
    | some most => decide (most ≤ b.attempts)
    | none => false) ||
  (match b.settings.maxElapsedTime, b.startedAt with
    | some most, some start => decide (most.nanos < clock - start)
    | _, _ => false)

/-- The interval times the multiplier in seconds, rounded as binary64. -/
def product (b : Exponential) : Binary64 := b.current.toBinary64.mul b.settings.multiplier

/-- The interval after the current one. It stops at the greatest interval and never shrinks. -/
def grown? (b : Exponential) : Option Span :=
  if b.settings.maxInterval.toBinary64.le b.product then some b.settings.maxInterval
  else (Span.ofBinary64? b.product).map (·.max b.current)

/-- A wait around `base`, `draw` being the random part of it, from `-factor` to below `factor`. -/
def randomized? (base : Span) (factor draw : Binary64) : Option Span :=
  if factor.eq .zero then some base
  else Span.ofBinary64? (base.toBinary64.mul (Binary64.one.add draw))

def next (b : Exponential) (clock : Nat) (draw : Binary64) : Advice × Exponential :=
  let b := { b with startedAt := some (b.startedAt.getD clock) }
  if b.isExhausted clock then (.exhausted, b)
  else
    match randomized? b.current b.settings.randomizationFactor draw with
    | none => (.overflow, b)
    | some wait =>
      match b.grown? with
      | none => (.overflow, { b with attempts := b.attempts + 1 })
      | some interval =>
        (.retryAfter wait, { b with attempts := b.attempts + 1, current := interval })

def reset (b : Exponential) : Exponential := fresh b.settings

/-- The backoff as a strategy; its random draws are read off a sequence in turn. -/
def strategy : Strategy (Exponential × List Binary64) where
  next s clock :=
    let (advice, b) := s.1.next clock (s.2.headD .zero)
    (advice, b, s.2.tail)
  reset s := (s.1.reset, s.2)

end Exponential

end CredentialKeeper.Backoff
