import CredentialKeeper.Manager.Interleaving
import CredentialKeeper.Manager.Script
import Mathlib.Logic.Relation

/-! # Runs of a manager and their events

A `Chronicle` is a manager among threads together with the events of its task: the calls of the
source, what became of them, and what the strategy said. The events are read off the source and the
strategy at the moves of the task (`Task.event?`), not off the effects that the moves have.

A run (`Chronicle.Run`) is any number of moves that a discipline admits. `Interleaving.free` admits
all moves, so its runs are those of `Interleaving.Reachable` (`Chronicle.Run.reachable`,
`Interleaving.Reachable.run`). `Interleaving.prompt` is the discipline of a runtime that does not
keep the task waiting. -/

namespace CredentialKeeper.Manager

variable {σ α β : Type}

/-- What a task takes from its source and its strategy. -/
inductive Event (α : Type) where
  | called (call : Call α)
  /-- A call has come to an outcome, its answer or the lack of one. -/
  | ended (o : Outcome α) (said : List Log.Notice)
  /-- The source broke off. -/
  | broke (message : String) (said : List Log.Notice)
  | advised (advice : Backoff.Advice)

namespace Event

def said : Event α → List Log.Notice
  | ended _ said | broke _ said => said
  | _ => []

def success? : Event α → Option (Credential α)
  | ended (.ok c) _ => some c
  | _ => none

end Event

/-- The event of the task's next move, if there is one. -/
def Task.event? (p : Plan σ α β) (now : Nat) (cells : Cells α) (t : Task σ α β) :
    Option (Event α) :=
  match t.phase with
  | .planning =>
    if t.failures = 0 then none else some (.advised (p.backoff.next t.backoff now).1)
  | .awake =>
    if cells.isCancelled then none else some (.called (p.source.renew t.source (p.wall now)).1)
  | .renewing call =>
    if cells.isCancelled then none
    else
      match call.status now with
      | .answered =>
        match call.call.reply (p.wall now) with
        | (.outcome o, said) => some (.ended o said)
        | (.crash message, said) => some (.broke message said)
      | .timedOut => some (.ended (.error (.timedOut p.settings.renewTimeout)) [])
      | .waiting => none
  | _ => none

namespace Interleaving

/-- The event of a move, if there is one: a task that still has to do the rest of its last move
does not begin another. -/
def event? (s : Interleaving σ α β) : Move → Option (Event α)
  | .task =>
    if s.taskAhead.isEmpty then
      s.session.task.event? s.session.plan s.session.now s.session.cells
    else none
  | _ => none

abbrev Discipline (σ α β : Type) := Interleaving σ α β → Move → Prop

def free : Discipline σ α β := fun _ _ => True

/-- Time passes only while the task has nothing to do and cannot move, and the runtime does not
throw the task away. -/
def prompt : Discipline σ α β := fun s m =>
  match m with
  | .tick nanos => s.taskAhead = [] ∧
      ∀ k < nanos, s.session.task.step s.session.plan (s.session.now + k) s.session.cells = none
  | .discard => False
  | _ => True

/-- Nobody but the task moves. -/
def alone : Discipline σ α β := fun _ m => m = .task

end Interleaving

/-- So many milliseconds on a clock of nanoseconds. -/
def millis (n : Nat) : Nat := n * 1000000

/-- A manager among threads and the events of its task with their instants, the last first. -/
structure Chronicle (σ α β : Type) where
  manager : Interleaving σ α β
  log : List (Nat × Event α)

namespace Chronicle

abbrev session (x : Chronicle σ α β) : Session σ α β := x.manager.session

/-- Start has obtained a credential from a source, at the instant `now`, and handed the task to
the runtime. `history` holds the effects so far. -/
def launched (p : Plan σ α β) (now : Nat) (source : σ) (backoff : β) (c : Credential α)
    (history : List (Nat × Effect α)) : Chronicle σ α β where
  manager := .ofFirst p now source backoff c history
  log := [(now, .ended (.ok c) [])]

def step (x : Chronicle σ α β) (m : Interleaving.Move) : Option (Chronicle σ α β) :=
  (x.manager.step m).map fun u =>
    ⟨u, (x.manager.event? m).toList.map (x.session.now, ·) ++ x.log⟩

def Next (admits : Interleaving.Discipline σ α β) (x y : Chronicle σ α β) : Prop :=
  ∃ m, admits x.manager m ∧ x.step m = some y

abbrev Run (admits : Interleaving.Discipline σ α β) (x y : Chronicle σ α β) : Prop :=
  Relation.ReflTransGen (Next admits) x y

/-- The effects from `x` to a later `y`, in the order of doing. -/
def effectsTo (x y : Chronicle σ α β) : List (Effect α) :=
  ((y.session.history.take (y.session.history.length - x.session.history.length)).map
    Prod.snd).reverse

/-- The events from `x` to a later `y`, in their order. -/
def eventsTo (x y : Chronicle σ α β) : List (Event α) :=
  ((y.log.take (y.log.length - x.log.length)).map Prod.snd).reverse

theorem Run.mono {admits admits' : Interleaving.Discipline σ α β} {x y : Chronicle σ α β}
    (hadm : ∀ s m, admits s m → admits' s m) (H : Run admits x y) : Run admits' x y := by
  refine Relation.ReflTransGen.mono ?_ _ _ H
  rintro _ _ ⟨m, hm, h⟩
  exact ⟨m, hadm _ _ hm, h⟩

theorem Run.reachable {admits : Interleaving.Discipline σ α β} {x y : Chronicle σ α β}
    (H : Run admits x y) : x.manager.Reachable y.manager := by
  induction H with
  | refl => exact .refl
  | tail _ H ih =>
    obtain ⟨m, _, h⟩ := H
    obtain ⟨u, hu, rfl⟩ := Option.map_eq_some_iff.1 h
    exact .tail m ih hu

/-! ## Playing moves -/

/-- The moves one after the other, if all of them pass a check and can be made. -/
def play (check : Interleaving σ α β → Interleaving.Move → Bool) (x : Chronicle σ α β) :
    List Interleaving.Move → Option (Chronicle σ α β)
  | [] => some x
  | m :: ms => if check x.manager m then (x.step m).bind fun y => y.play check ms else none

def after (check : Interleaving σ α β → Interleaving.Move → Bool) (x : Chronicle σ α β)
    (ms : List Interleaving.Move) (h : (x.play check ms).isSome) : Chronicle σ α β :=
  (x.play check ms).get h

theorem run_of_play {admits : Interleaving.Discipline σ α β}
    {check : Interleaving σ α β → Interleaving.Move → Bool}
    (hcheck : ∀ s m, check s m = true → admits s m) {ms : List Interleaving.Move}
    {x y : Chronicle σ α β} (h : x.play check ms = some y) : Run admits x y := by
  induction ms generalizing x with
  | nil =>
    cases h
    exact .refl
  | cons m ms ih =>
    rw [play] at h
    split at h
    next hm =>
      obtain ⟨z, hz, h⟩ := Option.bind_eq_some_iff.1 h
      exact .head ⟨m, hcheck _ _ hm, hz⟩ (ih h)
    next => cases h

theorem run_after {admits : Interleaving.Discipline σ α β}
    {check : Interleaving σ α β → Interleaving.Move → Bool}
    (hcheck : ∀ s m, check s m = true → admits s m) {ms : List Interleaving.Move}
    {x : Chronicle σ α β} (h : (x.play check ms).isSome) : Run admits x (x.after check ms h) :=
  run_of_play hcheck (Option.some_get h).symm

/-- A manager to look at: its first credential is 7, its source says `last` whenever it is called,
and its strategy has a schedule of waits. -/
def sample (settings : Refresh.Settings) (expiresAt : Moment) (last : Line Nat)
    (waits : List (Option Span)) : Chronicle (List (Line Nat)) Nat Backoff.Schedule :=
  launched ⟨scripted "sample" last, Backoff.Schedule.strategy, settings, wallFrom .epoch⟩ 0 []
    (.ofList waits) ⟨7, expiresAt, .epoch⟩ []

end Chronicle

theorem Interleaving.Reachable.run {s u : Interleaving σ α β}
    (H : s.Reachable u) (log : List (Nat × Event α)) :
    ∃ log', Chronicle.Run free ⟨s, log⟩ ⟨u, log'⟩ := by
  induction H with
  | refl => exact ⟨log, .refl⟩
  | tail m _ hu ih =>
    obtain ⟨log', ih⟩ := ih
    exact ⟨_, ih.tail ⟨m, trivial, congrArg (Option.map _) hu⟩⟩

end CredentialKeeper.Manager
