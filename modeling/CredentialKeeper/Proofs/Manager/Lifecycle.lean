import CredentialKeeper.Proofs.Manager.Exhaustion
import Mathlib.Data.List.Destutter

/-! # The life of a manager

A manager is starting, then running, then stopped, or it is stopped before it was ever running
(`Cells.course_starting`). That is so whatever happens, as its state changes only by two marks, one
of which is conditional. When the marks are made is up to the parties: who starts a manager marks it
as running before the start returns (`Chronicle.HandsOver`), and the task marks it as stopped once,
as it leaves its loop (`Chronicle.Leaves`). -/

namespace CredentialKeeper.Manager

variable {σ α β : Type}

/-! ## The values of the state -/

namespace Cells

/-- The values of the state one after the other, with the present one first. -/
def course (cells : Cells α) : List (Effect α) → List State
  | [] => [cells.state]
  | e :: es => cells.state :: (cells.apply e).course es

theorem destutter_course_cons (cells : Cells α) (e : Effect α) (es : List (Effect α)) :
    (cells.course (e :: es)).destutter (· ≠ ·) =
      if cells.state = (cells.apply e).state then ((cells.apply e).course es).destutter (· ≠ ·)
      else cells.state :: ((cells.apply e).course es).destutter (· ≠ ·) := by
  have hhead : ∃ rest, (cells.apply e).course es = (cells.apply e).state :: rest := by
    cases es <;> exact ⟨_, rfl⟩
  obtain ⟨rest, hrest⟩ := hhead
  rw [course, hrest, List.destutter_cons_cons, List.destutter_cons']
  by_cases h : cells.state = (cells.apply e).state
  · rw [if_neg (not_not_intro h), if_pos h, h]
  · rw [if_pos h, if_neg h]

theorem state_apply_cases (cells : Cells α) (e : Effect α) :
    (cells.apply e).state = cells.state ∨ (cells.apply e).state = .stopped ∨
      cells.state = .starting ∧ e = .markedRunning ∧ (cells.apply e).state = .running := by
  cases e with
  | markedRunning =>
    by_cases h : cells.state = .starting
    · exact .inr (.inr ⟨h, rfl, by simp [apply, h]⟩)
    · exact .inl (by simp [apply, h])
  | markedStopped => exact .inr (.inl rfl)
  | _ => exact .inl rfl

theorem course_stopped {cells : Cells α} (h : cells.state = .stopped) (es : List (Effect α)) :
    (cells.course es).destutter (· ≠ ·) = [.stopped] := by
  induction es generalizing cells with
  | nil => simp [course, h]
  | cons e es ih =>
    have hnext : (cells.apply e).state = .stopped := (state_apply cells e).2 (.inl h)
    rw [destutter_course_cons, if_pos (h.trans hnext.symm), ih hnext]

theorem course_running {cells : Cells α} (h : cells.state = .running) (es : List (Effect α)) :
    (cells.course es).destutter (· ≠ ·) <+: [.running, .stopped] := by
  induction es generalizing cells with
  | nil => simp [course, h]
  | cons e es ih =>
    rw [destutter_course_cons]
    rcases state_apply_cases cells e with hsame | hstop | ⟨hstart, -⟩
    · rw [if_pos hsame.symm]
      exact ih (hsame.trans h)
    · have hlast := course_stopped hstop es
      simp only [h, hstop, reduceCtorEq, if_false, hlast, List.prefix_rfl]
    · rw [h] at hstart
      cases hstart

/-- From starting on the values are starting, running and stopped, or starting and stopped. -/
theorem course_starting {cells : Cells α} (h : cells.state = .starting) (es : List (Effect α)) :
    (cells.course es).destutter (· ≠ ·) <+: [.starting, .running, .stopped] ∨
      (cells.course es).destutter (· ≠ ·) <+: [.starting, .stopped] := by
  induction es generalizing cells with
  | nil => simp [course, h]
  | cons e es ih =>
    rw [destutter_course_cons]
    rcases state_apply_cases cells e with hsame | hstop | ⟨-, -, hrun⟩
    · rw [if_pos hsame.symm]
      exact ih (hsame.trans h)
    · rw [if_neg (by simp [h, hstop]), h, course_stopped hstop]
      exact .inr (List.prefix_refl _)
    · rw [if_neg (by simp [h, hrun]), h]
      exact .inl ((List.prefix_cons_inj _).2 (course_running hrun es))

theorem getLast?_course (cells : Cells α) (es : List (Effect α)) :
    (cells.course es).getLast? = some (cells.applyAll es).state := by
  induction es generalizing cells with
  | nil => rfl
  | cons e es ih =>
    have hnext := ih (cells.apply e)
    rw [course, List.getLast?_cons, hnext]
    rfl

/-- Nobody goes back to starting, and the mark leads on from it. -/
theorem state_apply_starting {cells : Cells α} {e : Effect α}
    (h : (cells.apply e).state = .starting) : cells.state = .starting ∧ e ≠ .markedRunning := by
  rcases state_apply_cases cells e with hsame | hstop | ⟨-, -, hrun⟩
  · refine ⟨hsame.symm.trans h, ?_⟩
    rintro rfl
    rw [h] at hsame
    simp [apply, ← hsame] at h
  · rw [h] at hstop
    cases hstop
  · rw [h] at hrun
    cases hrun

theorem state_applyAll_starting {cells : Cells α} {es : List (Effect α)}
    (h : (cells.applyAll es).state = .starting) : cells.state = .starting := by
  induction es generalizing cells with
  | nil => exact h
  | cons e es ih => exact (state_apply_starting (ih h)).1

end Cells

/-! ## Leaving the loop -/

theorem Task.exit?_eq_some {t : Task σ α β} {exit : Exit} :
    t.exit? = some exit ↔ t.phase = .ended exit := by
  unfold exit?
  split <;> simp_all

def Effect.mark? : Effect α → Option Unit
  | .markedStopped => some ()
  | _ => none

theorem mem_mark {es : List (Effect α)} :
    .markedStopped ∈ es ↔ es.filterMap Effect.mark? ≠ [] := by
  rw [Ne, List.filterMap_eq_nil_iff]
  constructor
  · intro h hnone
    cases hnone _ h
  · intro h
    by_contra hmem
    refine h fun e he => ?_
    cases e with
    | markedStopped => exact absurd he hmem
    | _ => rfl

/-- A task marks the manager as stopped just when it ends, and once. -/
theorem Task.Moves.filterMap_mark {p : Plan σ α β} {now : Nat} {cells : Cells α}
    {t t' : Task σ α β} {ev : Option (Event α)} {effects : List (Effect α)}
    (M : t.Moves p now cells ev t' effects) :
    effects.filterMap Effect.mark? = t'.exit?.toList.map fun _ => () := by
  cases M <;>
    simp [closing, heard_filterMap, List.filterMap_cons, Effect.mark?, Task.exit?]

namespace Interleaving

/-- The runtime moves a task at least once before it throws it away. -/
def kept : Discipline σ α β := fun s m =>
  m = .discard → s.session.task.phase ≠ .spawned

theorem kept_of_prompt (s : Interleaving σ α β) (m : Move) (h : prompt s m) : kept s m := by
  rintro rfl
  exact h.elim

theorem kept_of_alone (s : Interleaving σ α β) (m : Move) (h : alone s m) : kept s m := by
  rintro rfl
  cases h

end Interleaving

namespace Chronicle
open Interleaving

variable {admits : Discipline σ α β} {p : Plan σ α β} {x y : Chronicle σ α β}

/-- The mark that the manager has stopped is still ahead of a task that has ended, or made. -/
structure Leaves (x : Chronicle σ α β) : Prop where
  once : (x.manager.taskAhead.filterMap Effect.mark?).length ≤ 1
  before : .markedStopped ∈ x.manager.taskAhead → x.session.cells.state ≠ .stopped
  after : (∃ exit, x.session.task.phase = .ended exit) →
    .markedStopped ∈ x.manager.taskAhead ∨ x.session.cells.state = .stopped

theorem Leaves.of_running (h : ∀ exit, x.session.task.phase ≠ .ended exit)
    (hquiet : x.manager.taskAhead = []) : x.Leaves :=
  ⟨by simp [hquiet], by simp [hquiet], fun ⟨exit, hexit⟩ => absurd hexit (h exit)⟩

theorem launched_leaves (p : Plan σ α β) (now : Nat) (source : σ) (backoff : β) (c : Credential α)
    (history : List (Nat × Effect α)) : (launched p now source backoff c history).Leaves :=
  .of_running (by simp [launched, ofFirst, Session.spawned, Task.spawn]) rfl

theorem Leaves.decide {ev : Option (Event α)} {t : Task σ α β} {effects : List (Effect α)}
    (hstate : x.session.cells.state ≠ .stopped)
    (M : x.session.task.Moves x.session.plan x.session.now x.session.cells ev t effects) :
    (x.decided ev t effects).Leaves := by
  have hmarks := M.filterMap_mark
  refine ⟨?_, fun _ => hstate, fun ⟨exit, hexit⟩ => .inl (mem_mark.2 ?_)⟩
  · show (effects.filterMap Effect.mark?).length ≤ 1
    rw [hmarks]
    cases t.exit? <;> simp
  · rw [show (x.decided ev t effects).manager.taskAhead = effects from rfl, hmarks,
      Task.exit?_eq_some.2 hexit]
    simp

theorem Leaves.perform {e : Effect α} {rest : List (Effect α)} (L : x.Leaves)
    (h : x.manager.taskAhead = e :: rest) : (x.performed [e] rest).Leaves := by
  obtain ⟨honce, hbefore, hafter⟩ := L
  rw [h] at honce hbefore hafter
  rw [List.filterMap_cons] at honce
  cases hmark : e.mark? with
  | some u =>
    have he : e = .markedStopped := by
      cases e with
      | markedStopped => rfl
      | _ => cases hmark
    subst he
    rw [hmark] at honce
    have hrest : rest.filterMap Effect.mark? = [] :=
      List.length_eq_zero_iff.1 (Nat.le_zero.1 (Nat.le_of_succ_le_succ honce))
    refine ⟨by simp [hrest], fun hmem => absurd hrest (mem_mark.1 hmem), fun _ => .inr rfl⟩
  | none =>
    rw [hmark] at honce
    have hne : e ≠ .markedStopped := by
      rintro rfl
      cases hmark
    have hstate : (x.session.perform [e]).cells.state = .stopped ↔
        x.session.cells.state = .stopped :=
      (Cells.state_apply ..).trans (or_iff_left hne)
    refine ⟨honce, fun hmem hs => hbefore (.tail _ hmem) (hstate.1 hs), fun hend => ?_⟩
    rcases hafter hend with hmem | hs
    · exact .inl ((List.mem_cons.1 hmem).resolve_left (Ne.symm hne))
    · exact .inr (hstate.2 hs)

theorem Leaves.others {u : Interleaving σ α β} {es : List (Effect α)} (L : x.Leaves)
    (O : x.manager.Beside u es) : Leaves ⟨u, x.log⟩ := by
  have hmark : .markedStopped ∉ es := fun he => by cases O.outside _ he
  have hstate : u.session.cells.state = .stopped ↔ x.session.cells.state = .stopped := by
    rw [O.cells, Cells.state_applyAll]
    exact or_iff_left hmark
  refine ⟨?_, ?_, ?_⟩
  · rw [O.taskAhead]; exact L.once
  · rw [O.taskAhead, Ne, hstate]; exact L.before
  · rw [O.taskAhead, O.task, hstate]; exact L.after

theorem Run.leaves (hkept : ∀ s m, admits s m → kept s m) (H : Run admits x y)
    (hx : x.manager.Sound) (B : x.Books p) (L : x.Leaves) : y.Leaves := by
  induction H with
  | refl => exact L
  | @tail y z H N ih =>
    have H : Run admits x y := H
    have B := H.books hx B
    cases N.advance (H.sound hx) with
    | decide h M =>
      have hrun := (B.running M.not_ended).2
      rw [h] at hrun
      exact .decide hrun M
    | perform h => exact ih.perform h
    | discard had h D =>
      cases D with
      | early hs => exact absurd hs (hkept _ _ had rfl)
      | late => exact h ▸ ih
      | midway _ he =>
        have hrun := (B.running he).2
        rw [h] at hrun
        exact ⟨by simp [closing, Effect.mark?, List.filterMap_cons], fun _ => hrun,
          fun _ => .inl (by simp [closing])⟩
    | others O => exact ih.others O
    | tick => exact ⟨ih.once, ih.before, ih.after⟩

/-- The start marks the manager as running before it returns, unless the task was faster. -/
def HandsOver (x : Chronicle σ α β) : Prop :=
  x.session.cells.state = .starting → .markedRunning ∈ x.manager.startAhead

theorem HandsOver.advance (hx : x.HandsOver) (A : Advance admits x y) : y.HandsOver := by
  cases A with
  | perform h => exact fun hy => hx (Cells.state_apply_starting hy).1
  | others O _ A =>
    intro hy
    have hstart := hx (Cells.state_applyAll_starting (O.cells ▸ hy))
    cases A with
    | handOver h =>
      rw [h] at hstart
      exact (List.mem_cons.1 hstart).resolve_left
        (Ne.symm (Cells.state_apply_starting (O.cells ▸ hy)).2)
    | _ => exact hstart
  | _ => exact hx

theorem launched_handsOver (p : Plan σ α β) (now : Nat) (source : σ) (backoff : β)
    (c : Credential α) (history : List (Nat × Effect α)) :
    (launched p now source backoff c history).HandsOver :=
  fun _ => .head _

theorem Run.handsOver (H : Run admits x y) (hx : x.manager.Sound) (hs : x.HandsOver) :
    y.HandsOver :=
  H.induct hx hs HandsOver.advance

/-- The task has left its loop, for whatever reason, and marked the manager as stopped. -/
def HasLeft (x : Chronicle σ α β) : Prop :=
  (∃ exit, x.session.task.phase = .ended exit) ∧ .markedStopped ∉ x.manager.taskAhead

/-- **A manager is starting, running and stopped in this order.** Let `x` be any state of any run in
which the runtime does not throw the task away unmoved, and `y` a later one. The values of the state
by `x` are a first part of starting, running, stopped, or of starting, stopped. Nobody sees starting
once the start has returned: from then on the state is running until the task has left its loop, and
stopped ever after. -/
theorem state_follows_lifecycle {now : Nat} {source : σ} {backoff : β} {c : Credential α}
    {history : List (Nat × Effect α)} {start : Chronicle σ α β}
    (hstart : start = launched p now source backoff c history)
    (hx : Run kept start x) (hy : Run kept x y) :
    ((start.session.cells.course (effectsTo start x)).getLast? = some x.session.cells.state ∧
      ((start.session.cells.course (effectsTo start x)).destutter (· ≠ ·) <+:
          [.starting, .running, .stopped] ∨
        (start.session.cells.course (effectsTo start x)).destutter (· ≠ ·) <+:
          [.starting, .stopped])) ∧
    (x.session.cells.state = .stopped → y.session.cells.state = .stopped) ∧
    (x.manager.startAhead = [] →
      x.session.cells.state ≠ .starting ∧ (¬x.HasLeft → x.session.cells.state = .running)) ∧
    (x.HasLeft → x.session.cells.state = .stopped ∧ y.session.cells.state = .stopped) := by
  have N : start.Begins c := hstart ▸ launched_begins p now source backoff c history
  have B0 : start.Books p := hstart ▸ launched_books p now source backoff c history
  have hbegin : start.session.cells.state = .starting := by rw [hstart]; rfl
  have hxs := hx.sound N.sound
  have B := hx.books N.sound B0
  have L0 : start.Leaves := hstart ▸ launched_leaves p now source backoff c history
  have L := hx.leaves (fun _ _ h => h) N.sound B0 L0
  have HO : x.HandsOver := by
    refine hx.handsOver N.sound fun _ => ?_
    rw [hstart]
    simp [launched, ofFirst, Startup.handOver]
  have hkeeps := hy.stopped hxs
  refine ⟨⟨?_, Cells.course_starting hbegin _⟩, hkeeps, fun hreturned => ?_, fun hleft => ?_⟩
  · rw [Cells.getLast?_course, hx.cells_eq N.sound]
  · have hne : x.session.cells.state ≠ .starting := fun hs => by
      have := HO hs
      rw [hreturned] at this
      cases this
    refine ⟨hne, fun hgoes => ?_⟩
    have hstop : x.session.cells.state ≠ .stopped := fun hs =>
      hgoes ⟨B.ended_of_stopped hs, fun hmem => L.before hmem hs⟩
    cases hs : x.session.cells.state with
    | starting => exact absurd hs hne
    | running => rfl
    | stopped => exact absurd hs hstop
  · have hs := (L.after hleft.1).resolve_left hleft.2
    exact ⟨hs, hkeeps hs⟩

/-- The task has given up before the start has marked the manager as running. -/
def overtaken : Chronicle (List (Line Nat)) Nat Backoff.Schedule :=
  failing.after (fun _ m => m ≠ .discard)
    ([.task, .task, .task, .tick (millis 1000)] ++ List.replicate 13 .task) (by decide +kernel)

/-- Then nobody ever sees it running. -/
theorem stopped_before_running :
    overtaken.session.cells.state = .stopped ∧
      ∃ y, Run kept overtaken y ∧ y.manager.startAhead = [] ∧ y.session.cells.state = .stopped := by
  have hx : Run kept failing overtaken := run_after (fun _ _ h hm => by simp [hm] at h) _
  let y := overtaken.after (fun _ m => m ≠ .discard) [.start, .start] (by decide +kernel)
  have hy : Run kept overtaken y := run_after (fun _ _ h hm => by simp [hm] at h) _
  have hstart : failing = launched _ _ _ _ _ _ := rfl
  obtain ⟨-, -, -, hleft⟩ := state_follows_lifecycle hstart hx hy
  have hleft := hleft ⟨⟨.gaveUp (.backoffExhausted "sample" 1 .zero), ?_⟩, ?_⟩
  · exact ⟨hleft.1, y, hy, by decide +kernel, hleft.2⟩
  · exact Task.exit?_eq_some.1 (by decide +kernel)
  · have hquiet : overtaken.manager.taskAhead.isEmpty = true := by decide +kernel
    simp [List.isEmpty_iff.1 hquiet]

end Chronicle

end CredentialKeeper.Manager
