import CredentialKeeper.Manager.Task

/-!
# Startup

A manager first obtains a credential, asking again after a fixed delay for as long as it takes. The
backoff strategy has no part in this, and there is no task before the first success. Settings that
do not meet their conditions are refused before the source is called.
-/

namespace CredentialKeeper.Manager

open Refresh

inductive StartupPhase (α : Type) where
  | calling (call : PendingCall α)
  | pausing (wake : Nat)
  | issued (c : Credential α)
  | crashed (message : String)

/-- A startup with its source and the number of calls made. -/
structure Startup (σ α : Type) where
  phase : StartupPhase α
  source : σ
  attempt : Nat

namespace Startup

variable {σ α β : Type}

def call (p : Plan σ α β) (now : Nat) (source : σ) (attempt : Nat) :
    Startup σ α × List (Effect α) :=
  let (call, source) := p.source.renew source (p.wall now)
  (⟨.calling (.begin call now p.settings.renewTimeout), source, attempt + 1⟩, [.renewCalled])

def begin (p : Plan σ α β) (now : Nat) (source : σ) : Startup σ α × List (Effect α) :=
  call p now source 0

/-- The first credential: the wait for it is over, and its expiry becomes known. -/
def issue (s : Startup σ α) (c : Credential α) : Startup σ α × List (Effect α) :=
  ({ s with phase := .issued c },
    [.renewalCounted "success", .expiryGauged c.expiresAt.unixSeconds])

/-- A failed call: another one after the delay. -/
def fail (p : Plan σ α β) (now : Nat) (s : Startup σ α) (f : Failure) :
    Startup σ α × List (Effect α) :=
  ({ s with phase := .pausing (tickAfter now p.settings.startupRetryDelay) },
    [.renewalCounted f.kind.label,
      .noticed (.startupAttemptFailed p.source.name s.attempt f p.settings.startupRetryDelay)])

def receive (p : Plan σ α β) (now : Nat) (s : Startup σ α) (call : PendingCall α) :
    Startup σ α × List (Effect α) :=
  let (reply, notices) := call.call.reply (p.wall now)
  let heard := (if call.isDelayed then [.answered] else []) ++ notices.map .noticed
  let (s, effects) := match reply with
    | .outcome (.ok c) => s.issue c
    | .outcome (.error f) => s.fail p now f
    | .crash message => ({ s with phase := .crashed message }, [])
  (s, heard ++ effects)

/-- One move of the startup at an instant, if it can move. -/
def step (p : Plan σ α β) (now : Nat) (s : Startup σ α) :
    Option (Startup σ α × List (Effect α)) :=
  match s.phase with
  | .calling call =>
    match call.status now with
    | .answered => some (s.receive p now call)
    | .timedOut => some (s.fail p now (.timedOut p.settings.renewTimeout))
    | .waiting => none
  | .pausing wake => if wake ≤ now then some (Startup.call p now s.source s.attempt) else none
  | .issued _ | .crashed _ => none

/-- The instant at which a waiting startup can move again. -/
def wake? (s : Startup σ α) : Option Nat :=
  match s.phase with
  | .calling call => some call.endsAt
  | .pausing wake => some wake
  | _ => none

/-- The effects of handing over to a task: the task is there, and the state becomes running unless
the task has stopped already. -/
def handOver (name : String) (c : Credential α) : List (Effect α) :=
  [.markedRunning, .noticed (.managerRunning name c.expiresAt)]

end Startup

def noRuntimeMessage : String :=
  "there is no reactor running, must be called from the context of a Tokio 1.x runtime"

/-- Why a manager with these settings cannot start, if so. -/
def startRefusal? (settings : Settings) (hasRuntime : Bool) : Option RefreshError :=
  match settings.check with
  | .error e => some (.invalidConfig e)
  | .ok () => if hasRuntime then none else some (.spawn noRuntimeMessage)

/-- The same for a manager that builds its exponential backoff from the settings: the backoff's
conditions come first. -/
def startExponentialRefusal? (settings : Settings) (hasRuntime : Bool) : Option RefreshError :=
  match settings.backoff.check with
  | .error e => some (.invalidConfig (.backoff e))
  | .ok () => startRefusal? settings hasRuntime

end CredentialKeeper.Manager
