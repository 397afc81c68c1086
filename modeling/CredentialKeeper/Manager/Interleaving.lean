import CredentialKeeper.Manager.Session

/-!
# Managers among threads

The one who starts a manager, its task, and those who stop it run side by side. What each of them
does happens effect by effect, and between any two effects the others may go on and readers may look
at the cells. `Interleaving.step` is one move of one of them, and `Interleaving.Reachable` holds of
all that such moves lead to. A `Session` is the course in which every move is done before the next
one begins.
-/

namespace CredentialKeeper.Manager

/-- A session with what its parties have yet to do. -/
structure Interleaving (σ α β : Type) where
  session : Session σ α β
  /-- The rest of the task's move. -/
  taskAhead : List (Effect α)
  /-- The rest of the start. -/
  startAhead : List (Effect α)
  shutdowns : List ShutdownCall

namespace Interleaving

variable {σ α β : Type}

inductive Move where
  | start
  | task
  /-- The runtime throws the task away. -/
  | discard
  | tick (nanos : Nat)
  | stop
  | callShutdown
  | shutdown (i : Nat)
  /-- The caller does not wait for a shutdown any longer. -/
  | abandon (i : Nat)
  | drop
deriving DecidableEq

/-- The first credential is there and the task handed to the runtime. -/
def ofFirst (p : Plan σ α β) (now : Nat) (source : σ) (backoff : β) (c : Credential α)
    (history : List (Nat × Effect α)) : Interleaving σ α β where
  session := .spawned p now source backoff c history
  taskAhead := []
  startAhead := Startup.handOver p.source.name c
  shutdowns := []

/-- The manager has been handed over and is still there. -/
def hasManager (s : Interleaving σ α β) : Bool := s.startAhead.isEmpty && s.session.isOwned

/-- How the task ended, once nothing of its last move is left. -/
def exit? (s : Interleaving σ α β) : Option Exit :=
  if s.taskAhead.isEmpty then s.session.task.exit? else none

/-- The task's next effect, or its next move if it is done with the last one. -/
def taskMove (s : Interleaving σ α β) : Option (Interleaving σ α β) :=
  match s.taskAhead with
  | e :: rest => some { s with session := s.session.perform [e], taskAhead := rest }
  | [] =>
    (s.session.task.step s.session.plan s.session.now s.session.cells).map fun (task, effects) =>
      { s with session := { s.session with task }, taskAhead := effects }

def shutdownMove (s : Interleaving σ α β) (i : Nat) : Option (Interleaving σ α β) :=
  s.shutdowns[i]?.bind fun call =>
    (call.step s.session.plan.source.name s.session.cells s.session.hasHandle s.exit?).map
      fun (call, hasHandle, effects) =>
        { s with
          session := ({ s.session with hasHandle }).perform effects
          shutdowns := s.shutdowns.set i call }

/-- One move, if it can be made. The manager cannot go away while a shutdown of it is waited for. -/
def step (s : Interleaving σ α β) : Move → Option (Interleaving σ α β)
  | .start =>
    match s.startAhead with
    | e :: rest => some { s with session := s.session.perform [e], startAhead := rest }
    | [] => none
  | .task => s.taskMove
  | .discard =>
    if s.taskAhead.isEmpty then
      let (task, effects) := s.session.task.discard s.session.plan
      some { s with session := { s.session with task }, taskAhead := effects }
    else none
  | .tick nanos => some { s with session := { s.session with now := s.session.now + nanos } }
  | .stop => if s.hasManager then some { s with session := s.session.stop } else none
  | .callShutdown =>
    if s.hasManager then some { s with shutdowns := s.shutdowns ++ [.called] } else none
  | .shutdown i => s.shutdownMove i
  | .abandon i => some { s with shutdowns := s.shutdowns.eraseIdx i }
  | .drop =>
    if s.hasManager && s.shutdowns.all (· = .returned) then
      some { s with session := s.session.drop }
    else none

/-- What moves from `s` lead to. -/
inductive Reachable (s : Interleaving σ α β) : Interleaving σ α β → Prop where
  | refl : Reachable s s
  | tail {t u : Interleaving σ α β} (m : Move) : Reachable s t → t.step m = some u → Reachable s u

end Interleaving

end CredentialKeeper.Manager
