import CredentialKeeper.Expiry
import CredentialKeeper.Manager.Cells
import CredentialKeeper.Manager.Source

/-!
# The renewal task

The task waits until the credential is due, renews it, and after a failure waits as the backoff
strategy says. `Task.step` is one move of the task: it answers the task after the move and the
effects of the move in their order, or nothing if the task has to wait. A task that has been asked
to stop ends at its next move, even if its wait is over or its answer there by then. However a task
ends, it marks the manager as stopped last.
-/

namespace CredentialKeeper.Manager

open Refresh

/-- What a manager is given: its source and its settings, and how its clocks relate. -/
structure Plan (σ α β : Type) where
  source : Source σ α
  backoff : Backoff.Strategy β
  settings : Settings
  /-- The wall time at an instant of the manager's clock; none past the last moment. -/
  wall : Nat → Option Moment

/-- A wall clock that shows `start` at the beginning and runs along. -/
def wallFrom (start : Moment) (now : Nat) : Option Moment :=
  Moment.ofNanos? (start.nanos + now)

inductive Exit where
  | cancelled
  | gaveUp (error : RefreshError)
  | crashed (message : String)
  /-- The task was thrown away before it ended by itself. -/
  | discarded
deriving DecidableEq

inductive Phase (α : Type) where
  /-- Handed to the runtime, which has not run it yet. -/
  | spawned
  | planning
  | waiting (wake : Nat)
  /-- The wait is over and the source not called yet. -/
  | awake
  | renewing (call : PendingCall α)
  | ended (exit : Exit)

/-- A renewal task: where it stands, what its source and strategy remember, and the failures since
the last success with the instant of the first of them. -/
structure Task (σ α β : Type) where
  phase : Phase α
  source : σ
  backoff : β
  failures : Nat
  failingSince : Option Nat

/-- The time between two instants of the clock. -/
def spanBetween (start now : Nat) : Span :=
  (Span.ofNanos? (now - start)).getD ⟨18446744073709551615999999999, by decide⟩

namespace Task

variable {σ α β : Type}

/-- A task with a source that has issued the first credential. -/
def spawn (source : σ) (backoff : β) : Task σ α β := ⟨.spawned, source, backoff, 0, none⟩

/-- The wait after a success: until the credential is due, capped by the refresh interval, and never
below the least interval. -/
def scheduledDelay (s : Settings) (expiresAt now : Moment) : Span :=
  let due := ExpiryPolicy.renewDelay ⟨s.lookahead⟩ expiresAt now
  let capped := match s.refreshInterval with
    | some cap => due.min cap
    | none => due
  capped.max s.minRefreshInterval

/-- The end of a task, with the effects that come with it. -/
def finish (name : String) (t : Task σ α β) (exit : Exit) (before : List (Effect α)) :
    Task σ α β × List (Effect α) :=
  ({ t with phase := .ended exit }, before ++ [.markedStopped, .noticed (.managerStopped name)])

/-- The task goes to sleep until its next renewal. -/
def rest (name : String) (now : Nat) (t : Task σ α β) (delay : Span) (before : List (Effect α)) :
    Task σ α β × List (Effect α) :=
  ({ t with phase := .waiting (tickAfter now delay) },
    before ++ [.noticed (.renewalScheduled name delay t.failures)])

/-- The strategy has no more waits: the failure is final. -/
def giveUp (name : String) (now : Nat) (cells : Cells α) (t : Task σ α β) :
    Task σ α β × List (Effect α) :=
  let elapsed := (t.failingSince.map (spanBetween · now)).getD .zero
  let error := RefreshError.backoffExhausted name t.failures elapsed
  t.finish name (.gaveUp error) [.backoffAsked .exhausted,
    .noticed (.exhausted name t.failures elapsed cells.current.expiresAt), .exhaustionCounted,
    .fatalSet error]

/-- Chooses the wait before the next renewal. -/
def plan (p : Plan σ α β) (now : Nat) (cells : Cells α) (t : Task σ α β) :
    Task σ α β × List (Effect α) :=
  if t.failures = 0 then
    match p.wall now with
    | some wall =>
      t.rest p.source.name now (scheduledDelay p.settings cells.current.expiresAt wall) []
    | none => t.finish p.source.name (.crashed Moment.noneMessage) []
  else
    let (advice, backoff) := p.backoff.next t.backoff now
    let t := { t with backoff }
    match advice with
    | .retryAfter wait => t.rest p.source.name now wait [.backoffAsked advice]
    | .exhausted => t.giveUp p.source.name now cells
    | .overflow => t.finish p.source.name (.crashed Backoff.Advice.overflowMessage) []

/-- A new credential: it is stored, the strategy starts afresh, and subscribers are told. -/
def succeed (p : Plan σ α β) (t : Task σ α β) (c : Credential α) :
    Task σ α β × List (Effect α) :=
  ({ t with
      phase := .planning
      backoff := p.backoff.reset t.backoff
      failures := 0
      failingSince := none },
    [.stored c, .backoffReset, .published c, .renewalCounted "success",
      .expiryGauged c.expiresAt.unixSeconds,
      .noticed (.renewed p.source.name c.expiresAt t.failures)])

def fail (p : Plan σ α β) (now : Nat) (t : Task σ α β) (f : Failure) :
    Task σ α β × List (Effect α) :=
  ({ t with
      phase := .planning
      failures := t.failures + 1
      failingSince := some (t.failingSince.getD now) },
    [.renewalCounted f.kind.label, .noticed (.renewalFailed p.source.name (t.failures + 1) f)])

def receive (p : Plan σ α β) (now : Nat) (t : Task σ α β) (call : PendingCall α) :
    Task σ α β × List (Effect α) :=
  let (reply, notices) := call.call.reply (p.wall now)
  let heard := (if call.isDelayed then [.answered] else []) ++ notices.map .noticed
  let (t, effects) := match reply with
    | .outcome (.ok c) => t.succeed p c
    | .outcome (.error f) => t.fail p now f
    | .crash message => t.finish p.source.name (.crashed message) []
  (t, heard ++ effects)

/-- One move of the task at an instant, if it can move. -/
def step (p : Plan σ α β) (now : Nat) (cells : Cells α) (t : Task σ α β) :
    Option (Task σ α β × List (Effect α)) :=
  match t.phase with
  | .spawned => some ({ t with phase := .planning }, [])
  | .planning => some (t.plan p now cells)
  | .waiting wake =>
    if cells.isCancelled then some (t.finish p.source.name .cancelled [])
    else if wake ≤ now then some ({ t with phase := .awake }, [])
    else none
  | .awake =>
    if cells.isCancelled then some (t.finish p.source.name .cancelled [])
    else
      let (call, source) := p.source.renew t.source (p.wall now)
      some ({ t with
        phase := .renewing (.begin call now p.settings.renewTimeout)
        source }, [.renewCalled])
  | .renewing call =>
    if cells.isCancelled then some (t.finish p.source.name .cancelled [])
    else
      match call.status now with
      | .answered => some (t.receive p now call)
      | .timedOut => some (t.fail p now (.timedOut p.settings.renewTimeout))
      | .waiting => none
  | .ended _ => none

/-- The runtime throws the task away. Only a task that has run marks the manager as stopped. -/
def discard (p : Plan σ α β) (t : Task σ α β) : Task σ α β × List (Effect α) :=
  match t.phase with
  | .spawned => ({ t with phase := .ended .discarded }, [])
  | .ended _ => (t, [])
  | _ => t.finish p.source.name .discarded []

/-- The instant at which a waiting task can move again. -/
def wake? (t : Task σ α β) : Option Nat :=
  match t.phase with
  | .waiting wake => some wake
  | .renewing call => some call.endsAt
  | _ => none

def exit? (t : Task σ α β) : Option Exit :=
  match t.phase with
  | .ended exit => some exit
  | _ => none

end Task

end CredentialKeeper.Manager
