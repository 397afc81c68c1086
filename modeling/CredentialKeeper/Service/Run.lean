import CredentialKeeper.Service.Supervision

/-!
# Runs of the service

A run makes the moves of a service in a fixed order: the service itself goes first, its wait ends as
soon as it may, and the renewal tasks work while it waits. Time passes when nothing can move. An
interrupt comes once the service waits for one.
-/

namespace CredentialKeeper.Service

variable {σ₁ α₁ β₁ σ₂ α₂ β₂ : Type}

/-- The labels of moves that take no time, in the order in which a run tries them. -/
def labels : List (Label σ₁ σ₂) :=
  [.main, .select .first, .select .second, .select .interrupt, .firstTask, .secondTask]

/-- The first move that can be made. -/
def next? (s : Service σ₁ α₁ β₁ σ₂ α₂ β₂) :
    Option (Service σ₁ α₁ β₁ σ₂ α₂ β₂ × List Log.Notice) := labels.findSome? s.step

def wake? (s : Service σ₁ α₁ β₁ σ₂ α₂ β₂) : Option Nat :=
  match s.first.wake?, s.second.wake? with
  | some a, some b => some (Nat.min a b)
  | some a, none => some a
  | none, b => b

def isWatching (s : Service σ₁ α₁ β₁ σ₂ α₂ β₂) : Bool :=
  match s.stage with
  | .watching => true
  | _ => false

def isOver (s : Service σ₁ α₁ β₁ σ₂ α₂ β₂) : Bool :=
  match s.stage with
  | .ended _ | .crashed _ => true
  | _ => false

/-- Every manager is up, and the service does not wait yet. -/
def isUp (s : Service σ₁ α₁ β₁ σ₂ α₂ β₂) : Bool :=
  match s.stage with
  | .up => true
  | _ => false

/-- How a run is followed. -/
structure Watch where
  limit : Nat
  isInterrupting : Bool

/-- Adds the reports of an instant to those before, which come last first. -/
def report (now : Nat) (log : List (Nat × Log.Notice)) (notices : List Log.Notice) :
    List (Nat × Log.Notice) :=
  notices.foldl (fun log n => (now, n) :: log) log

/-- Runs a service in at most so many moves until it is as wanted or over, or time is up. The
reports come with their instants, last first. -/
def run (w : Watch) (wanted : Service σ₁ α₁ β₁ σ₂ α₂ β₂ → Bool) :
    Nat → Service σ₁ α₁ β₁ σ₂ α₂ β₂ → List (Nat × Log.Notice) →
      Service σ₁ α₁ β₁ σ₂ α₂ β₂ × List (Nat × Log.Notice)
  | 0, s, log => (s, log)
  | moves + 1, s, log =>
    if wanted s || s.isOver then (s, log)
    else
      match s.next? with
      | some (s, notices) => run w wanted moves s (report s.now log notices)
      | none =>
        if w.isInterrupting && s.isWatching && !s.isInterrupted then
          run w wanted moves { s with isInterrupted := true } log
        else
          match s.wake? with
          | some wake =>
            if s.now < wake ∧ wake ≤ w.limit then
              match s.step (.tick (wake - s.now)) with
              | some (s, notices) => run w wanted moves s (report s.now log notices)
              | none => (s, log)
            else (s, log)
          | none => (s, log)

/-- What the first manager that has stopped says, if one has. -/
def firstStop? (s : Service σ₁ α₁ β₁ σ₂ α₂ β₂) : Option (Option Refresh.RefreshError) :=
  if s.first.isStopped then some s.first.fatal?
  else if s.second.isStopped then some s.second.fatal?
  else none

end CredentialKeeper.Service
