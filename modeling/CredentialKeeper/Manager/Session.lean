import CredentialKeeper.Backoff.Exponential
import CredentialKeeper.Manager.Shutdown
import CredentialKeeper.Manager.Startup

/-!
# Managers at work

A session is a manager with its task, a clock, a subscriber and all that has happened. Nothing
happens while time stands still but what can happen at once (`Session.settle`); time then moves on
to the next instant at which the task can move (`Session.runUntil`).
-/

namespace CredentialKeeper.Manager

open Refresh

/-- A manager at work. -/
structure Session (σ α β : Type) where
  plan : Plan σ α β
  now : Nat
  cells : Cells α
  task : Task σ α β
  /-- All effects with their instants, the last first. -/
  history : List (Nat × Effect α)
  /-- The manager itself is still there; its handles always are. -/
  isOwned : Bool
  /-- Nobody has taken the task's handle. -/
  hasHandle : Bool
  /-- The publications that the subscriber has seen. -/
  seen : Nat

namespace Session

variable {σ α β : Type}

def record (now : Nat) (history : List (Nat × Effect α)) (effects : List (Effect α)) :
    List (Nat × Effect α) :=
  effects.foldl (fun h e => (now, e) :: h) history

/-- A session with its first credential and a task that has not run yet, before the manager is
handed over. -/
def spawned (p : Plan σ α β) (now : Nat) (source : σ) (backoff : β) (c : Credential α)
    (history : List (Nat × Effect α)) : Session σ α β where
  plan := p
  now := now
  cells := .ofFirst c
  task := .spawn source backoff
  history := history
  isOwned := true
  hasHandle := true
  seen := 0

def perform (s : Session σ α β) (effects : List (Effect α)) : Session σ α β :=
  { s with cells := s.cells.applyAll effects, history := record s.now s.history effects }

def ofFirst (p : Plan σ α β) (now : Nat) (source : σ) (backoff : β) (c : Credential α)
    (history : List (Nat × Effect α)) : Session σ α β :=
  (spawned p now source backoff c history).perform (Startup.handOver p.source.name c)

/-- One move of the task, if it can move at this instant, and its effects. -/
def move (s : Session σ α β) : Option (Session σ α β × List (Effect α)) :=
  (s.task.step s.plan s.now s.cells).map fun (task, effects) =>
    (({ s with task }).perform effects, effects)

/-- The moves of a task without a wait that a session follows, at most. -/
def movesAtOnce : Nat := 1000000

/-- Moves the task for as long as it can move at this instant. -/
def settleWith : Nat → Session σ α β → Session σ α β
  | 0, s => s
  | fuel + 1, s =>
    match s.move with
    | none => s
    | some (s, _) => settleWith fuel s

def settle (s : Session σ α β) : Session σ α β := settleWith movesAtOnce s

/-- Settles, and lets so many nanoseconds pass, or thirty years if that is less, until the session
is as wanted; tells whether it got so. -/
def runUntil (wanted : Session σ α β → Bool) (wait : Nat) (s : Session σ α β) :
    Bool × Session σ α β :=
  let wait := Nat.min wait thirtyYears
  go (s.now + wait) wait s.settle
where
  go (limit : Nat) : Nat → Session σ α β → Bool × Session σ α β
  | fuel, s =>
    if wanted s then (true, s)
    else
      match fuel, s.task.wake? with
      | fuel + 1, some wake =>
        if s.now < wake ∧ wake ≤ limit then go limit fuel ({ s with now := wake }).settle
        else (false, { s with now := Nat.max s.now limit })
      | _, _ => (false, { s with now := Nat.max s.now limit })

def advance (nanos : Nat) (s : Session σ α β) : Session σ α β :=
  (runUntil (fun _ => false) nanos s).2

def stop (s : Session σ α β) : Session σ α β :=
  if s.isOwned then s.perform (stopEffects s.plan.source.name s.cells) else s

/-- Follows a shutdown call until it returns; it waits for the task, which has been asked to end. -/
def follow : Nat → ShutdownCall → Session σ α β → Session σ α β
  | 0, _, s => s
  | fuel + 1, call, s =>
    match call.step s.plan.source.name s.cells s.hasHandle s.task.exit? with
    | some (call, hasHandle, effects) => follow fuel call (({ s with hasHandle }).perform effects)
    | none => if call = .joining then follow fuel call s.settle else s

def shutdown (s : Session σ α β) : Session σ α β :=
  if s.isOwned then follow 5 .called s else s

/-- The manager goes away, and its task ends without a word. -/
def drop (s : Session σ α β) : Session σ α β :=
  if s.isOwned then ({ s with isOwned := false }).perform [.cancelled] else s

/-- Waits for the manager to stop: the final error, if there is one, or nothing if it takes longer
than so many nanoseconds. -/
def stopped (nanos : Nat) (s : Session σ α β) : Option (Option RefreshError) × Session σ α β :=
  let (reached, s) := s.runUntil (fun s => s.cells.state == .stopped) nanos
  (if reached then some s.cells.fatal else none, s)

/-- The subscriber has seen all publications so far. -/
def subscribe (s : Session σ α β) : Session σ α β := { s with seen := s.cells.publications }

/-- There is a publication that the subscriber has not seen. -/
def hasChanged (s : Session σ α β) : Bool := decide (s.seen < s.cells.publications)

/-- Waits for a publication that the subscriber has not seen. -/
def nextUpdate (nanos : Nat) (s : Session σ α β) : Option (Credential α) × Session σ α β :=
  if s.hasChanged then (some s.cells.published, s.subscribe)
  else
    let (reached, s) := s.runUntil hasChanged nanos
    if reached then (some s.cells.published, s.subscribe) else (none, s)

def metrics (s : Session σ α β) : Metrics := .ofEffects (s.history.reverse.map Prod.snd)

end Session

def managerRecord {α : Type} (name : String) (cells : Cells α) : String :=
  Text.record "CredentialRefreshManager" [("source", Text.quote name),
    ("state", cells.state.name), ("cancelled", toString cells.isCancelled)]

def handleRecord {α : Type} (name : String) (cells : Cells α) : String :=
  Text.record "CredentialHandle" [("source", Text.quote name), ("state", cells.state.name)]

/-- How the attempt to start a manager ended, with all effects of it. -/
inductive Started (σ α β : Type) where
  | refused (error : RefreshError) (history : List (Nat × Effect α))
  /-- The source broke off. -/
  | crashed (message : String) (history : List (Nat × Effect α))
  /-- The time for the startup was up. -/
  | timedOut (now : Nat) (history : List (Nat × Effect α))
  | ok (session : Session σ α β)

namespace Started

variable {σ α β : Type}

/-- Moves a startup until it has to wait or is over. -/
def settle (p : Plan σ α β) (now : Nat) : Nat → Startup σ α → List (Nat × Effect α) →
    Startup σ α × List (Nat × Effect α)
  | 0, s, history => (s, history)
  | fuel + 1, s, history =>
    match s.step p now with
    | none => (s, history)
    | some (s, effects) => settle p now fuel s (Session.record now history effects)

def run (p : Plan σ α β) (backoff : β) (limit : Nat) :
    Nat → Nat → Startup σ α → List (Nat × Effect α) → Started σ α β
  | 0, now, _, history => .timedOut (Nat.max now limit) history
  | fuel + 1, now, s, history =>
    let (s, history) := settle p now 3 s history
    match s.phase with
    | .issued c => .ok (Session.ofFirst p now s.source backoff c history)
    | .crashed message => .crashed message history
    | _ =>
      match s.wake? with
      | some wake =>
        if wake ≤ limit then run p backoff limit fuel (Nat.max now wake) s history
        else .timedOut limit history
      | none => .timedOut limit history

end Started

/-- Starts a manager at the beginning of its clock, giving it up to `limit` nanoseconds. -/
def start {σ α β : Type} (p : Plan σ α β) (source : σ) (backoff : β) (limit : Nat) :
    Started σ α β :=
  let (s, effects) := Startup.begin p 0 source
  let history := Session.record 0 [] (.noticed (.managerStarting p.source.name) :: effects)
  Started.run p backoff limit (2 * limit + 2) 0 s history

/-- Starts a manager unless its settings or the lack of a runtime refuse it. -/
def startUnless {σ α β : Type} (refusal? : Settings → Bool → Option RefreshError)
    (hasRuntime : Bool) (p : Plan σ α β) (source : σ) (backoff : β) (limit : Nat) :
    Started σ α β :=
  match refusal? p.settings hasRuntime with
  | some e => .refused e []
  | none => start p source backoff limit

/-- A start with a strategy of the caller's own. -/
def startWithBackoff {σ α β : Type} (hasRuntime : Bool) (p : Plan σ α β) (source : σ) (backoff : β)
    (limit : Nat) : Started σ α β := startUnless startRefusal? hasRuntime p source backoff limit

/-- A start with the exponential backoff that the settings describe. `draws` are the numbers that it
will draw. -/
def startExponential {σ α : Type} (hasRuntime : Bool) (source : Source σ α) (settings : Settings)
    (wall : Nat → Option Moment) (memory : σ) (draws : List Binary64) (limit : Nat) :
    Started σ α (Backoff.Exponential × List Binary64) :=
  startUnless startExponentialRefusal? hasRuntime
    ⟨source, Backoff.Exponential.strategy, settings, wall⟩ memory (.fresh settings.backoff, draws)
    limit

end CredentialKeeper.Manager
