import CredentialKeeper.Fcm.Error
import CredentialKeeper.Manager.Session
import CredentialKeeper.Service.Settings

/-!
# Supervision

The service brings up the managers of its two gateways one after the other, then waits for the first
of them to stop or for an interrupt, and last shuts both down. `Service.step` is one move: of the
service itself, of one of the renewal tasks, of the clock, or of the outside world. Between any two
moves of the service itself all others may happen in any order. When the service could go on for two
reasons, a label says which one it takes.
-/

namespace CredentialKeeper.Service

open Manager

inductive Fault where
  | settings (cause : SettingsError)
  | apns (cause : Apns.Error)
  | apnsStart (cause : Refresh.RefreshError)
  | fcm (cause : Fcm.Error)
  | fcmStart (cause : Refresh.RefreshError)
  | exhausted (cause : Refresh.RefreshError)
  | stoppedUnexpectedly
deriving DecidableEq

def Fault.chain : Fault → List String
  | settings cause => cause.chain
  | apns cause => [cause.message]
  | apnsStart cause => "failed to start APNs credential refresh" :: cause.chain
  | fcm cause => [cause.message]
  | fcmStart cause => "failed to start FCM credential refresh" :: cause.chain
  | exhausted cause => cause.chain
  | stoppedUnexpectedly => ["push credential refresh stopped unexpectedly"]

/-! ## One gateway -/

/-- What it takes to start a manager. -/
structure Opening (σ α β : Type) where
  plan : Plan σ α β
  memory : σ
  backoff : β

/-- A gateway's part in the service. -/
structure Post (σ α β : Type) where
  /-- Prepares the manager at an instant. -/
  prepare : Nat → Except Fault (Opening σ α β)
  /-- What is reported before the manager starts. -/
  announcement : Log.Notice
  /-- What becomes of a manager's refusal to start. -/
  refusal : Refresh.RefreshError → Fault

inductive Station (σ α β : Type) where
  | vacant
  | idle (post : Post σ α β)
  | starting (opening : Opening σ α β) (startup : Startup σ α) (history : List (Nat × Effect α))
  | manned (session : Session σ α β)

/-- What a move towards a manager's start led to. -/
inductive Raised (σ α β : Type) where
  | station (s : Station σ α β) (notices : List Log.Notice)
  | failed (fault : Fault) (notices : List Log.Notice)
  | crashed (message : String)

/-- What some effects report. -/
def noticesOf {α : Type} (effects : List (Effect α)) : List Log.Notice :=
  effects.filterMap fun
    | .noticed n => some n
    | _ => none

namespace Station

variable {σ α β : Type}

/-- Nothing is left to be done for the start. -/
def isUp : Station σ α β → Bool
  | vacant | manned _ => true
  | _ => false

def session? : Station σ α β → Option (Session σ α β)
  | manned s => some s
  | _ => none

/-- The manager begins to ask for its first credential, unless its settings are refused. -/
def begin (post : Post σ α β) (now : Nat) (opening : Opening σ α β) : Raised σ α β :=
  match startExponentialRefusal? opening.plan.settings true with
  | some e => .failed (post.refusal e) [post.announcement]
  | none =>
    let (startup, effects) := Startup.begin opening.plan now opening.memory
    let effects := .noticed (.managerStarting opening.plan.source.name) :: effects
    .station (starting opening startup (Session.record now [] effects))
      (post.announcement :: noticesOf effects)

/-- One move towards the manager's start, if there is one. -/
def raise (now : Nat) : Station σ α β → Option (Raised σ α β)
  | idle post =>
    match post.prepare now with
    | .error fault => some (.failed fault [])
    | .ok opening => some (begin post now opening)
  | starting opening startup history =>
    (startup.step opening.plan now).map fun (startup, effects) =>
      let history := Session.record now history effects
      match startup.phase with
      | .issued c =>
        let session := Session.ofFirst opening.plan now startup.source opening.backoff c history
        .station (manned session)
          (noticesOf effects ++ noticesOf (Startup.handOver opening.plan.source.name c))
      | .crashed message => .crashed message
      | _ => .station (starting opening startup history) (noticesOf effects)
  | vacant | manned _ => none

def work : Station σ α β → Option (Station σ α β × List Log.Notice)
  | manned s => s.move.map fun (s, effects) => (manned s, noticesOf effects)
  | _ => none

def close (call : ShutdownCall) :
    Station σ α β → Option (Station σ α β × ShutdownCall × List Log.Notice)
  | manned s =>
    (call.step s.plan.source.name s.cells s.hasHandle s.task.exit?).map
      fun (call, hasHandle, effects) =>
        (manned (({ s with hasHandle }).perform effects), call, noticesOf effects)
  | station => if call = .returned then none else some (station, .returned, [])

def drop : Station σ α β → Station σ α β
  | manned s => manned s.drop
  | station => station

def isStopped : Station σ α β → Bool
  | manned s => s.cells.state == .stopped
  | _ => false

def fatal? : Station σ α β → Option Refresh.RefreshError
  | manned s => s.cells.fatal
  | _ => none

/-- What the manager's source looks at changes. -/
def change (f : σ → σ) : Station σ α β → Station σ α β
  | starting opening startup history =>
    starting opening { startup with source := f startup.source } history
  | manned s => manned { s with task := { s.task with source := f s.task.source } }
  | station => station

def setNow (now : Nat) : Station σ α β → Station σ α β
  | manned s => manned { s with now }
  | station => station

def wake? : Station σ α β → Option Nat
  | starting _ startup _ => startup.wake?
  | manned s => s.task.wake?
  | _ => none

end Station

/-! ## Both gateways -/

inductive Ending where
  | interrupted
  | gaveUp (error : Refresh.RefreshError)
  | stoppedUnexpectedly
deriving DecidableEq

/-- How the service's end follows from that of a manager. -/
def Ending.ofFatal : Option Refresh.RefreshError → Ending
  | some e => gaveUp e
  | none => stoppedUnexpectedly

/-- What the service returns, and what it reports last. -/
def Ending.result : Ending → Except Fault Unit × List Log.Notice
  | interrupted => (.ok (), [])
  | gaveUp e => (.error (.exhausted e), [.renewalExhausted e.message])
  | stoppedUnexpectedly => (.error .stoppedUnexpectedly, [])

inductive Stage where
  | opening
  | up
  | watching
  /-- Both managers are shut down, the first one first. -/
  | closing (ending : Ending) (first second : ShutdownCall)
  | ended (result : Except Fault Unit)
  | crashed (message : String)

end Service

open Service Manager

/-- The service with its two gateways. -/
structure Service (σ₁ α₁ β₁ σ₂ α₂ β₂ : Type) where
  now : Nat
  stage : Stage
  first : Station σ₁ α₁ β₁
  second : Station σ₂ α₂ β₂
  isInterrupted : Bool

namespace Service

variable {σ₁ α₁ β₁ σ₂ α₂ β₂ : Type}

/-- What the service's wait may end with. -/
inductive Branch where
  | first
  | second
  | interrupt
deriving DecidableEq

inductive Label (σ₁ σ₂ : Type) where
  | main
  /-- The service's wait ends in one of the ways in which it may end. -/
  | select (branch : Branch)
  | firstTask
  | secondTask
  | tick (nanos : Nat)
  | interrupt
  /-- What the sources look at changes. -/
  | change (first : σ₁ → σ₁) (second : σ₂ → σ₂)

/-- The service ends, and its managers go away. -/
def finish (s : Service σ₁ α₁ β₁ σ₂ α₂ β₂) (result : Except Fault Unit) :
    Service σ₁ α₁ β₁ σ₂ α₂ β₂ :=
  { s with stage := .ended result, first := s.first.drop, second := s.second.drop }

def openMove (s : Service σ₁ α₁ β₁ σ₂ α₂ β₂) :
    Option (Service σ₁ α₁ β₁ σ₂ α₂ β₂ × List Log.Notice) :=
  if !s.first.isUp then
    (s.first.raise s.now).map fun
      | .station first notices => ({ s with first }, notices)
      | .failed fault notices => (s.finish (.error fault), notices)
      | .crashed message => ({ s with stage := .crashed message }, [])
  else if !s.second.isUp then
    (s.second.raise s.now).map fun
      | .station second notices => ({ s with second }, notices)
      | .failed fault notices => (s.finish (.error fault), notices)
      | .crashed message => ({ s with stage := .crashed message }, [])
  else some ({ s with stage := .up }, [])

def closeMove (s : Service σ₁ α₁ β₁ σ₂ α₂ β₂) (ending : Ending) (first second : ShutdownCall) :
    Option (Service σ₁ α₁ β₁ σ₂ α₂ β₂ × List Log.Notice) :=
  if first ≠ .returned then
    (s.first.close first).map fun (station, call, notices) =>
      ({ s with first := station, stage := .closing ending call second }, notices)
  else if second ≠ .returned then
    (s.second.close second).map fun (station, call, notices) =>
      ({ s with second := station, stage := .closing ending first call }, notices)
  else
    let (result, notices) := ending.result
    some (s.finish result, notices)

/-- How the service's wait ends in a given way, if it may. -/
def selectMove (s : Service σ₁ α₁ β₁ σ₂ α₂ β₂) :
    Branch → Option (Ending × List Log.Notice)
  | .first => if s.first.isStopped then some (.ofFatal s.first.fatal?, []) else none
  | .second => if s.second.isStopped then some (.ofFatal s.second.fatal?, []) else none
  | .interrupt => if s.isInterrupted then some (.interrupted, [.shutdownSignal]) else none

/-- One move, if it can be made, and what is reported with it. -/
def step (s : Service σ₁ α₁ β₁ σ₂ α₂ β₂) :
    Label σ₁ σ₂ → Option (Service σ₁ α₁ β₁ σ₂ α₂ β₂ × List Log.Notice)
  | .main =>
    match s.stage with
    | .opening => s.openMove
    | .up => some ({ s with stage := .watching }, [.serviceReady])
    | .closing ending first second => s.closeMove ending first second
    | _ => none
  | .select branch =>
    match s.stage with
    | .watching =>
      (s.selectMove branch).map fun (ending, notices) =>
        ({ s with stage := .closing ending .called .called }, notices)
    | _ => none
  | .firstTask => s.first.work.map fun (first, notices) => ({ s with first }, notices)
  | .secondTask => s.second.work.map fun (second, notices) => ({ s with second }, notices)
  | .tick nanos =>
    let now := s.now + nanos
    some ({ s with now, first := s.first.setNow now, second := s.second.setNow now }, [])
  | .interrupt => some ({ s with isInterrupted := true }, [])
  | .change first second =>
    some ({ s with first := s.first.change first, second := s.second.change second }, [])

def before (first : Station σ₁ α₁ β₁) (second : Station σ₂ α₂ β₂) :
    Service σ₁ α₁ β₁ σ₂ α₂ β₂ := ⟨0, .opening, first, second, false⟩

end Service

end CredentialKeeper
