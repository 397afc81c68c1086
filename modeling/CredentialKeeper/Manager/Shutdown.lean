import CredentialKeeper.Manager.Task

/-!
# Stopping a manager

A stop asks the task to end and is reported once. A shutdown is a stop after which the caller takes
the task's handle, if it is still there, and waits for the task to end. The handle is taken by one
caller only; any other finds it gone and does not wait.
-/

namespace CredentialKeeper.Manager

def stopEffects {α : Type} (name : String) (cells : Cells α) : List (Effect α) :=
  if cells.isCancelled then [] else [.noticed (.stopRequested name), .cancelled]

inductive ShutdownCall where
  | called
  | asked
  | joining
  | returned
deriving DecidableEq

namespace ShutdownCall

variable {α : Type}

/-- One move of a shutdown call, if it can move: the call, whether the handle is there, and the
effects. The exit of the task is none while it runs. -/
def step (name : String) (cells : Cells α) (handle : Bool) (exit : Option Exit) :
    ShutdownCall → Option (ShutdownCall × Bool × List (Effect α))
  | called => some (asked, handle, stopEffects name cells)
  | asked => some (if handle then (joining, false, []) else (returned, false, []))
  | joining =>
    match exit with
    | none => none
    | some (.crashed _) => some (returned, handle, [.noticed (.taskCrashed name)])
    | some _ => some (returned, handle, [])
  | returned => none

end ShutdownCall

end CredentialKeeper.Manager
