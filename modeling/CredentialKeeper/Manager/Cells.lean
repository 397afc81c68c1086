import CredentialKeeper.Backoff.Strategy
import CredentialKeeper.Log.Notice

/-!
# What a manager, its handles and its task share

The shared cells change by single effects (`Cells.apply`), one at a time, so that others may look at
them between any two. Effects also record what cannot be read off the cells: calls, notices and
counts. The current credential and the published one are two cells; `publications` counts the
publications, so that a subscriber can tell whether it has seen the last one.
-/

namespace CredentialKeeper.Manager

open Refresh

inductive State where
  | starting
  | running
  | stopped
deriving DecidableEq

namespace State

def label : State → String
  | starting => "starting"
  | running => "running"
  | stopped => "stopped"

def name : State → String
  | starting => "Starting"
  | running => "Running"
  | stopped => "Stopped"

end State

/-- One thing done, in the order of doing. -/
inductive Effect (α : Type) where
  | renewCalled
  | answered
  | backoffAsked (advice : Backoff.Advice)
  | backoffReset
  | stored (c : Credential α)
  | published (c : Credential α)
  | renewalCounted (label : String)
  | expiryGauged (unixSeconds : Int)
  | exhaustionCounted
  | fatalSet (e : RefreshError)
  /-- The state becomes running if the task has not stopped already. -/
  | markedRunning
  | markedStopped
  | cancelled
  | noticed (n : Log.Notice)

/-- The cells that a manager, its handles and its task share. -/
structure Cells (α : Type) where
  current : Credential α
  published : Credential α
  publications : Nat
  state : State
  fatal : Option RefreshError
  isCancelled : Bool

namespace Cells

variable {α : Type}

/-- The cells of a manager that has its first credential and no task yet. -/
def ofFirst (c : Credential α) : Cells α := ⟨c, c, 0, .starting, none, false⟩

def apply (cells : Cells α) : Effect α → Cells α
  | .stored c => { cells with current := c }
  | .published c => { cells with published := c, publications := cells.publications + 1 }
  | .fatalSet e => { cells with fatal := some (cells.fatal.getD e) }
  | .markedRunning => if cells.state = .starting then { cells with state := .running } else cells
  | .markedStopped => { cells with state := .stopped }
  | .cancelled => { cells with isCancelled := true }
  | _ => cells

def applyAll (cells : Cells α) (effects : List (Effect α)) : Cells α := effects.foldl apply cells

end Cells

/-- The counts that a monitoring system reads: renewals by result, exhaustions, and the expiry of
the current credential. -/
structure Metrics where
  renewals : List (String × Nat)
  exhaustions : Nat
  expiry : Option Int

namespace Metrics

def empty : Metrics := ⟨[], 0, none⟩

def bump (label : String) : List (String × Nat) → List (String × Nat)
  | [] => [(label, 1)]
  | (l, n) :: rest => if l = label then (l, n + 1) :: rest else (l, n) :: bump label rest

def apply {α : Type} (m : Metrics) : Effect α → Metrics
  | .renewalCounted label => { m with renewals := bump label m.renewals }
  | .expiryGauged seconds => { m with expiry := some seconds }
  | .exhaustionCounted => { m with exhaustions := m.exhaustions + 1 }
  | _ => m

def ofEffects {α : Type} (effects : List (Effect α)) : Metrics := effects.foldl apply empty

end Metrics

end CredentialKeeper.Manager
