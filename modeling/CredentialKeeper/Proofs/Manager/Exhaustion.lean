import CredentialKeeper.Proofs.Manager.Publication
import Mathlib.Data.List.Perm.Basic

/-! # Exhaustion is reported once and is final

`verdict?` says what a manager should report in the end, going by the events of its task alone: the
log's last event is then the advice to give up, and the failures before it count back to the last
success (`streak`). `Books` is the invariant of all runs that ties this to the task's own counters
and to the cells: what the task has yet to do sets the final error before it marks the manager as
stopped. A task that has ended does nothing but the rest of its last move (`Run.of_ended`). -/

namespace CredentialKeeper.Manager

open Refresh

variable {σ α β : Type}

/-! ## What the events call for -/

/-- The instants of the failures since the last success, the last first. -/
def streak : List (Nat × Event α) → List Nat
  | [] => []
  | (n, .ended (.error _) _) :: log => n :: streak log
  | (_, .ended (.ok _) _) :: _ => []
  | _ :: log => streak log

/-- The error to report at the end of a log. -/
def verdict? (name : String) : List (Nat × Event α) → Option RefreshError
  | (n, .advised .exhausted) :: log =>
    (streak log).getLast?.map fun first =>
      .backoffExhausted name (streak log).length (spanBetween first n)
  | _ => none

/-- The strategy has been asked for a wait and has had none. -/
def Exhausted (log : List (Nat × Event α)) : Prop := ∃ n, (n, .advised .exhausted) ∈ log

namespace Event

def exhaustion? : Event α → Option Unit
  | advised .exhausted => some ()
  | _ => none

end Event

def exhaustions (log : List (Nat × Event α)) : Nat :=
  (log.filterMap fun r => r.2.exhaustion?).length

theorem exhausted_iff {log : List (Nat × Event α)} : Exhausted log ↔ 0 < exhaustions log := by
  rw [exhaustions, List.length_pos_iff_exists_mem]
  simp only [List.mem_filterMap]
  constructor
  · rintro ⟨n, h⟩
    exact ⟨(), _, h, rfl⟩
  · rintro ⟨_, ⟨n, e⟩, h, he⟩
    cases e with
    | advised advice =>
      cases advice with
      | exhausted => exact ⟨n, h⟩
      | _ => cases he
    | _ => cases he

theorem verdict?_eq_some {name : String} {log : List (Nat × Event α)} {e : RefreshError}
    (h : verdict? name log = some e) :
    ∃ n first rest, log = (n, .advised .exhausted) :: rest ∧ (streak rest).getLast? = some first ∧
      e = .backoffExhausted name (streak rest).length (spanBetween first n) := by
  unfold verdict? at h
  split at h
  next n rest =>
    obtain ⟨first, hf, rfl⟩ := Option.map_eq_some_iff.1 h
    exact ⟨n, first, rest, rfl, hf, rfl⟩
  next => cases h

theorem verdict?_isSome (name : String) (n : Nat) {log : List (Nat × Event α)}
    (h : (streak log).length ≠ 0) :
    (verdict? name ((n, .advised .exhausted) :: log)).isSome := by
  rw [verdict?, Option.isSome_map, List.getLast?_isSome]
  exact List.ne_nil_of_length_pos (Nat.pos_of_ne_zero h)

/-! ## The effects that matter -/

namespace Effect

def fatal? : Effect α → Option RefreshError
  | .fatalSet e => some e
  | _ => none

def exhaustion? : Effect α → Option Unit
  | .exhaustionCounted => some ()
  | _ => none

def alarm? : Effect α → Option Unit
  | .noticed (.exhausted ..) => some ()
  | _ => none

/-- What a task does only as long as it renews. -/
def isRenewal : Effect α → Bool
  | .renewCalled | .answered | .backoffReset | .stored _ | .published _ | .renewalCounted _ => true
  | _ => false

theorem fatal?_of_outside {e : Effect α} (h : e.isOutside = true) : e.fatal? = none := by
  cases e with
  | fatalSet => cases h
  | _ => rfl

theorem isRenewal_of_outside {e : Effect α} (h : e.isOutside = true) : e.isRenewal = false := by
  cases e <;> first | rfl | cases h

end Effect

/-- The exhaustions that a source reports with an event, on its own account. -/
def Event.alarms (e : Event α) : List Unit :=
  e.said.filterMap fun n => (.noticed n : Effect α).alarm?

theorem exhaustion_reports (p : Plan σ α β) :
    Reports p Effect.exhaustion? fun e => e.exhaustion?.toList where
  outside e h := by
    cases e with
    | exhaustionCounted => cases h
    | _ => rfl
  closing := rfl
  moves M := by
    cases M <;>
      simp [closing, heard_filterMap, List.filterMap_cons, Effect.exhaustion?, Event.exhaustion?]

theorem alarm_reports (p : Plan σ α β) :
    Reports p Effect.alarm? fun e => e.alarms ++ e.exhaustion?.toList where
  outside e h := by
    cases e with
    | noticed n =>
      cases n with
      | exhausted => cases h
      | _ => rfl
    | _ => rfl
  closing := rfl
  moves M := by
    cases M <;>
      simp [closing, heard_filterMap, List.filterMap_cons, Effect.alarm?, Event.exhaustion?,
        Event.alarms, Event.said]

namespace Cells

theorem fatal_apply (cells : Cells α) (e : Effect α) :
    (cells.apply e).fatal = cells.fatal.or e.fatal? := by
  cases e with
  | markedRunning => simp only [apply]; split <;> simp [Effect.fatal?]
  | fatalSet e => cases h : cells.fatal <;> simp [apply, Effect.fatal?, h]
  | _ => simp [apply, Effect.fatal?]

/-- The first error that is set stays. -/
theorem fatal_applyAll (cells : Cells α) (es : List (Effect α)) :
    (cells.applyAll es).fatal = cells.fatal.or (es.filterMap Effect.fatal?).head? := by
  induction es generalizing cells with
  | nil => simp [applyAll]
  | cons e es ih =>
    have h : cells.applyAll (e :: es) = (cells.apply e).applyAll es := rfl
    rw [h, ih, fatal_apply, List.filterMap_cons]
    cases e.fatal? <;> cases cells.fatal <;> simp

theorem state_apply (cells : Cells α) (e : Effect α) :
    (cells.apply e).state = .stopped ↔ cells.state = .stopped ∨ e = .markedStopped := by
  cases e with
  | markedRunning => simp only [apply]; split <;> simp [*]
  | _ => simp [apply]

/-- Nobody leaves the stopped state, and only a mark leads there. -/
theorem state_applyAll (cells : Cells α) (es : List (Effect α)) :
    (cells.applyAll es).state = .stopped ↔ cells.state = .stopped ∨ .markedStopped ∈ es := by
  induction es generalizing cells with
  | nil => simp [applyAll]
  | cons e es ih =>
    have h : cells.applyAll (e :: es) = (cells.apply e).applyAll es := rfl
    rw [h, ih, state_apply, List.mem_cons, or_assoc, eq_comm (a := e)]

end Cells

/-- No error is set after the mark that the manager has stopped. -/
def MarksLast (es : List (Effect α)) : Prop :=
  es.Pairwise fun e e' => e = .markedStopped → e'.fatal? = none

theorem MarksLast.of_filterMap {es : List (Effect α)} (h : es.filterMap Effect.fatal? = []) :
    MarksLast es :=
  List.pairwise_of_forall_mem_list fun _ _ _ he _ => List.filterMap_eq_nil_iff.1 h _ he

namespace Task.Moves

variable {p : Plan σ α β} {now : Nat} {cells : Cells α} {t t' : Task σ α β}
  {ev : Option (Event α)} {effects : List (Effect α)} {log : List (Nat × Event α)}

theorem failures_eq (M : t.Moves p now cells ev t' effects)
    (h : t.failures = (streak log).length) :
    t'.failures = (streak (ev.toList.map (now, ·) ++ log)).length := by
  cases M <;> simp [streak, h]

theorem failingSince_eq (M : t.Moves p now cells ev t' effects)
    (h : t.failingSince = (streak log).getLast?) :
    t'.failingSince = (streak (ev.toList.map (now, ·) ++ log)).getLast? := by
  cases M <;> simp [streak, h, List.getLast?_cons]

/-- A move sets the final error just if the events call for one. -/
theorem filterMap_fatal (M : t.Moves p now cells ev t' effects)
    (hf : t.failures = (streak log).length) (hs : t.failingSince = (streak log).getLast?)
    (hv : verdict? p.source.name log = none) :
    effects.filterMap Effect.fatal? =
      (verdict? p.source.name (ev.toList.map (now, ·) ++ log)).toList := by
  cases M with
  | giveUp h hne hb =>
    obtain ⟨first, hfirst⟩ : ∃ first, (streak log).getLast? = some first := by
      rw [← Option.isSome_iff_exists, List.getLast?_isSome]
      simpa [hf] using hne
    rw [hf, hs, hfirst, elapsedSince_some]
    simp [List.filterMap_cons, Effect.fatal?, closing, verdict?, hfirst]
  | begin | schedule | timeless | cancel | wakeUp =>
    exact (Option.toList_eq_nil_iff.2 hv).symm
  | _ => simp [List.filterMap_cons, heard_filterMap, Effect.fatal?, closing, verdict?]

theorem marksLast (M : t.Moves p now cells ev t' effects) : MarksLast effects := by
  cases M with
  | giveUp => simp [MarksLast, closing, Effect.fatal?]
  | _ =>
    refine .of_filterMap ?_
    simp [List.filterMap_cons, heard_filterMap, Effect.fatal?, closing]

/-- Only a task that ends marks the manager as stopped. -/
theorem ended_of_mark (M : t.Moves p now cells ev t' effects) (h : .markedStopped ∈ effects) :
    ∃ exit, t'.phase = .ended exit := by
  cases M <;> simp_all [heard]

/-- A task that is told to give up has failed, ends, and renews no more. -/
theorem of_exhausted
    (M : t.Moves p now cells (some (.advised .exhausted)) t' effects) :
    t.failures ≠ 0 ∧ (∃ exit, t'.phase = .ended exit) ∧ .markedStopped ∈ effects ∧
      ∀ e ∈ effects, e.isRenewal = false := by
  cases M with
  | giveUp _ hf =>
    exact ⟨hf, ⟨_, rfl⟩, by simp [closing], by simp [closing, Effect.isRenewal]⟩

end Task.Moves

/-! ## The invariant -/

namespace Chronicle
open Interleaving

variable {admits : Discipline σ α β} {p : Plan σ α β} {x y z : Chronicle σ α β}

/-- The task's counters, its final error and the manager's state are in step with the events. -/
structure Books (p : Plan σ α β) (x : Chronicle σ α β) : Prop where
  plan : x.session.plan = p
  failures : x.session.task.failures = (streak x.log).length
  failingSince : x.session.task.failingSince = (streak x.log).getLast?
  exhaustions : exhaustions x.log = (verdict? p.source.name x.log).toList.length
  fatal : (x.session.cells.applyAll x.manager.taskAhead).fatal = verdict? p.source.name x.log
  gaveUp : (verdict? p.source.name x.log).isSome →
    (x.session.cells.applyAll x.manager.taskAhead).state = .stopped ∧
      ∀ e ∈ x.manager.taskAhead, e.isRenewal = false
  marksLast : MarksLast x.manager.taskAhead
  stopped : x.session.cells.state = .stopped →
    x.manager.taskAhead.filterMap Effect.fatal? = []
  running : (∀ exit, x.session.task.phase ≠ .ended exit) →
    verdict? p.source.name x.log = none ∧
      (x.session.cells.applyAll x.manager.taskAhead).state ≠ .stopped

theorem launched_books (p : Plan σ α β) (now : Nat) (source : σ) (backoff : β) (c : Credential α)
    (history : List (Nat × Effect α)) : (launched p now source backoff c history).Books p where
  plan := rfl
  failures := rfl
  failingSince := rfl
  exhaustions := rfl
  fatal := rfl
  gaveUp h := by cases h
  marksLast := .nil
  stopped h := by cases h
  running _ := ⟨rfl, by simp [launched, ofFirst, Session.spawned, Cells.ofFirst, Cells.applyAll]⟩

theorem verdict?_of_ne {name : String} {now : Nat} {ev : Option (Event α)}
    {log : List (Nat × Event α)} (hev : ev ≠ some (.advised .exhausted))
    (hv : verdict? name log = none) : verdict? name (ev.toList.map (now, ·) ++ log) = none := by
  cases ev with
  | none => exact hv
  | some e =>
    show verdict? name ((now, e) :: log) = none
    unfold verdict?
    split
    next h =>
      cases h
      exact absurd rfl hev
    next => rfl

theorem exhaustions_of_ne {now : Nat} {ev : Option (Event α)} {log : List (Nat × Event α)}
    (hev : ev ≠ some (.advised .exhausted)) :
    Manager.exhaustions (ev.toList.map (now, ·) ++ log) = Manager.exhaustions log := by
  cases ev with
  | none => rfl
  | some e =>
    have he : e.exhaustion? = none := by
      unfold Event.exhaustion?
      split
      next => exact absurd rfl hev
      next => rfl
    simp [Manager.exhaustions, he]

theorem Books.decide {ev : Option (Event α)} {t : Task σ α β} {effects : List (Effect α)}
    (B : x.Books p) (h : x.manager.taskAhead = [])
    (M : x.session.task.Moves x.session.plan x.session.now x.session.cells ev t effects) :
    (x.decided ev t effects).Books p := by
  obtain rfl := B.plan
  obtain ⟨hv, hstate⟩ := B.running M.not_ended
  have hfatal := B.fatal
  rw [h] at hfatal hstate
  have hfatal : x.session.cells.fatal = none := hfatal.trans hv
  have hstate : x.session.cells.state ≠ .stopped := hstate
  have hzero : Manager.exhaustions x.log = 0 := by rw [B.exhaustions, hv]; rfl
  have hset := M.filterMap_fatal B.failures B.failingSince hv
  refine ⟨rfl, M.failures_eq B.failures, M.failingSince_eq B.failingSince, ?_, ?_, ?_,
    M.marksLast, fun hs => absurd hs hstate, ?_⟩
  · by_cases hev : ev = some (.advised .exhausted)
    · subst hev
      have hlen := M.of_exhausted.1
      rw [B.failures] at hlen
      obtain ⟨e, he⟩ := Option.isSome_iff_exists.1
        (verdict?_isSome x.session.plan.source.name x.session.now hlen)
      simpa [he, Manager.exhaustions, List.filterMap_cons, Event.exhaustion?] using hzero
    · simp only [verdict?_of_ne hev hv, exhaustions_of_ne hev, hzero, Option.toList_none,
        List.length_nil]
  · simp only [Cells.fatal_applyAll, hfatal, hset, Option.none_or, Option.head?_toList]
  · intro hsome
    by_cases hev : ev = some (.advised .exhausted)
    · subst hev
      obtain ⟨-, -, hmark, hren⟩ := M.of_exhausted
      exact ⟨(Cells.state_applyAll ..).2 (.inr hmark), hren⟩
    · rw [verdict?_of_ne hev hv] at hsome
      cases hsome
  · intro hrun
    refine ⟨verdict?_of_ne ?_ hv, ?_⟩
    · rintro rfl
      obtain ⟨exit, hexit⟩ := M.of_exhausted.2.1
      exact hrun exit hexit
    · intro hs
      rcases (Cells.state_applyAll ..).1 hs with hs | hs
      · exact hstate hs
      · obtain ⟨exit, hexit⟩ := M.ended_of_mark hs
        exact hrun exit hexit

theorem Books.perform {e : Effect α} {rest : List (Effect α)} (B : x.Books p)
    (h : x.manager.taskAhead = e :: rest) :
    (x.performed [e] rest).Books p := by
  have hfatal := B.fatal
  have hrunning := B.running
  have hmarks := B.marksLast
  rw [h] at hfatal hrunning hmarks
  obtain ⟨hmark, hmarks⟩ := List.pairwise_cons.1 hmarks
  refine ⟨B.plan, B.failures, B.failingSince, B.exhaustions, hfatal, ?_, hmarks, ?_, hrunning⟩
  · intro hsome
    have hgone := B.gaveUp hsome
    rw [h] at hgone
    exact ⟨hgone.1, fun e' he' => hgone.2 e' (.tail _ he')⟩
  · intro hs
    rcases (Cells.state_apply ..).1 hs with hs | rfl
    · have hnone := B.stopped hs
      rw [h, List.filterMap_eq_nil_iff] at hnone
      exact List.filterMap_eq_nil_iff.2 fun e' he' => hnone e' (.tail _ he')
    · exact List.filterMap_eq_nil_iff.2 fun e' he' => hmark e' he' rfl

theorem Books.discard {t : Task σ α β} {effects : List (Effect α)} (B : x.Books p)
    (h : x.manager.taskAhead = []) (D : x.session.task.Discards x.session.plan t effects) :
    (x.decided none t effects).Books p := by
  have hfatal := B.fatal
  rw [h] at hfatal
  cases D with
  | early hs =>
    refine ⟨B.plan, B.failures, B.failingSince, B.exhaustions, hfatal, fun hsome => ?_, .nil,
      fun _ => rfl, fun hrun => absurd rfl (hrun _)⟩
    have hsome : (verdict? p.source.name x.log).isSome := hsome
    rw [(B.running (by simp [hs])).1] at hsome
    cases hsome
  | late =>
    exact h ▸ B
  | midway hs he =>
    refine ⟨B.plan, B.failures, B.failingSince, B.exhaustions, hfatal, fun hsome => ?_,
      .of_filterMap rfl, fun _ => rfl, fun hrun => absurd rfl (hrun _)⟩
    have hsome : (verdict? p.source.name x.log).isSome := hsome
    rw [(B.running he).1] at hsome
    cases hsome

theorem Books.others {u : Interleaving σ α β} {es : List (Effect α)} (B : x.Books p)
    (O : x.manager.Beside u es) : Books p ⟨u, x.log⟩ := by
  have hset : es.filterMap Effect.fatal? = [] :=
    List.filterMap_eq_nil_iff.2 fun e he => Effect.fatal?_of_outside (O.outside e he)
  have hmark : .markedStopped ∉ es := fun he => by cases O.outside _ he
  have hfatal : u.session.cells.fatal = x.session.cells.fatal := by
    rw [O.cells, Cells.fatal_applyAll, hset]
    simp
  have hstate : u.session.cells.state = .stopped ↔ x.session.cells.state = .stopped := by
    rw [O.cells, Cells.state_applyAll]
    simp [hmark]
  refine ⟨O.plan.trans B.plan, ?_, ?_, B.exhaustions, ?_, ?_, ?_, ?_, ?_⟩
  · rw [O.task]; exact B.failures
  · rw [O.task]; exact B.failingSince
  · rw [← B.fatal, Cells.fatal_applyAll, Cells.fatal_applyAll, hfatal, O.taskAhead]
  · rw [O.taskAhead, Cells.state_applyAll, hstate, ← Cells.state_applyAll]
    exact B.gaveUp
  · rw [O.taskAhead]; exact B.marksLast
  · rw [O.taskAhead, hstate]; exact B.stopped
  · rw [O.task, O.taskAhead, Ne, Cells.state_applyAll, hstate, ← Cells.state_applyAll]
    exact B.running

theorem Run.books (H : Run admits x y) (hx : x.manager.Sound) (B : x.Books p) : y.Books p := by
  refine H.induct hx B fun B A => ?_
  cases A with
  | decide h M => exact B.decide h M
  | perform h => exact B.perform h
  | discard _ h D => exact B.discard h D
  | others O => exact B.others O
  | tick => exact ⟨B.1, B.2, B.3, B.4, B.5, B.6, B.7, B.8, B.9⟩

/-- The manager has no more to tell than it has told: its task goes on, has done all of its last
move, or has marked the manager as stopped. -/
def Told (x : Chronicle σ α β) : Prop :=
  (∀ exit, x.session.task.phase ≠ .ended exit) ∨ x.manager.taskAhead = [] ∨
    x.session.cells.state = .stopped

namespace Books

theorem exhausted_iff (B : x.Books p) :
    Exhausted x.log ↔ (verdict? p.source.name x.log).isSome := by
  rw [Manager.exhausted_iff, B.exhaustions]
  cases verdict? p.source.name x.log <;> simp

theorem exhaustions_le (B : x.Books p) :
    Manager.exhaustions x.log ≤ 1 ∧ (Exhausted x.log ↔ Manager.exhaustions x.log = 1) := by
  rw [B.exhausted_iff, B.exhaustions]
  cases verdict? p.source.name x.log <;> simp

theorem fatal_of_told (B : x.Books p) (h : x.Told) :
    x.session.cells.fatal = verdict? p.source.name x.log := by
  have hfatal := B.fatal
  rcases h with hrun | hquiet | hstop
  · -- no error is ahead of a task that goes on, or its events would call for one
    rw [(B.running hrun).1] at hfatal ⊢
    rw [Cells.fatal_applyAll, Option.or_eq_none_iff] at hfatal
    exact hfatal.1
  · rw [hquiet] at hfatal
    exact hfatal
  · rw [Cells.fatal_applyAll, B.stopped hstop] at hfatal
    simpa using hfatal

theorem verdict?_of_fatal (B : x.Books p) {e : RefreshError}
    (h : x.session.cells.fatal = some e) : verdict? p.source.name x.log = some e := by
  rw [← B.fatal, Cells.fatal_applyAll, h, Option.some_or]

theorem ended_of_stopped (B : x.Books p) (h : x.session.cells.state = .stopped) :
    ∃ exit, x.session.task.phase = .ended exit := by
  by_contra hrun
  exact (B.running (not_exists.1 hrun)).2 ((Cells.state_applyAll ..).2 (.inl h))

theorem ended_of_exhausted (B : x.Books p) (h : Exhausted x.log) :
    ∃ exit, x.session.task.phase = .ended exit := by
  by_contra hrun
  rw [B.exhausted_iff, (B.running (not_exists.1 hrun)).1] at h
  cases h

end Books

theorem Run.stopped (H : Run admits x y) (hx : x.manager.Sound)
    (h : x.session.cells.state = .stopped) : y.session.cells.state = .stopped := by
  rw [H.cells_eq hx]
  exact (Cells.state_applyAll ..).2 (.inl h)

/-- Once the manager is stopped, or has an error, there is one answer to what went wrong. -/
theorem Run.fatal_eq (H : Run admits x y) (hx : x.manager.Sound) (B : x.Books p)
    (h : x.session.cells.state = .stopped ∨ x.session.cells.fatal.isSome) :
    y.session.cells.fatal = x.session.cells.fatal := by
  rcases h with hstop | hsome
  · have hstop' := H.stopped hx hstop
    rw [B.fatal_of_told (.inr (.inr hstop)), (H.books hx B).fatal_of_told (.inr (.inr hstop')),
      (H.of_ended hx (B.ended_of_stopped hstop)).1]
  · obtain ⟨e, he⟩ := Option.isSome_iff_exists.1 hsome
    rw [H.cells_eq hx, Cells.fatal_applyAll, he, Option.some_or]

theorem Run.exhaustions_eq (H : Run admits x y) (hx : x.manager.Sound) :
    exhaustions y.log =
      ((eventsTo x y).flatMap fun e => e.exhaustion?.toList).length + exhaustions x.log := by
  obtain ⟨new, hl⟩ := (H.grows hx).log
  rw [eventsTo_eq hl, ← List.filterMap_eq_flatMap_toList, List.filterMap_reverse,
    List.length_reverse, List.filterMap_map, hl, exhaustions, List.filterMap_append,
    List.length_append]
  rfl

theorem Run.reported (H : Run admits x y) (hx : x.manager.Sound) (hquiet : x.manager.taskAhead = [])
    (hzero : exhaustions x.log = 0) :
    ((effectsTo x y ++ y.manager.taskAhead).filterMap Effect.exhaustion?).length =
        exhaustions y.log ∧
      ((effectsTo x y ++ y.manager.taskAhead).filterMap Effect.alarm?).length =
        ((eventsTo x y).flatMap Event.alarms).length + exhaustions y.log := by
  have hcount := (exhaustion_reports x.session.plan).effectsTo_append rfl hx H
  have halarm := (alarm_reports x.session.plan).effectsTo_append rfl hx H
  rw [hcount, halarm, hquiet, H.exhaustions_eq hx, hzero]
  refine ⟨rfl, ?_⟩
  rw [List.filterMap_nil, List.nil_append, ← (List.flatMap_append_perm ..).length_eq,
    List.length_append]
  rfl

/-- **Exhaustion is reported if it has happened, once, and is final.** Let `x` be any state of any
run, and `y` a later one. Once there is no more to tell, there is a final error just if the strategy
had no more waits. The error tells the number of failures since the last success and the time since
the first of them. Who sees the manager stopped, or sees an error, sees the same ever after. The
exhaustion is counted once, and logged once by the manager. After it the task calls neither its
source nor its strategy, and the credential stays. -/
theorem exhaustion_reported_once_and_final {now : Nat} {source : σ} {backoff : β}
    {c : Credential α} {history : List (Nat × Effect α)} {start : Chronicle σ α β}
    (hstart : start = launched p now source backoff c history)
    (hx : Run free start x) (hy : Run free x y) :
    (x.Told → (x.session.cells.fatal.isSome ↔ Exhausted x.log)) ∧
    (∀ e, x.session.cells.fatal = some e → ∃ n first rest,
      x.log = (n, .advised .exhausted) :: rest ∧ (streak rest).getLast? = some first ∧
        e = .backoffExhausted p.source.name (streak rest).length (spanBetween first n)) ∧
    -- there is one answer, and it is there before the manager is stopped
    ((x.session.cells.state = .stopped ∨ x.session.cells.fatal.isSome →
        y.session.cells.fatal = x.session.cells.fatal) ∧
      (x.session.cells.state = .stopped → y.session.cells.state = .stopped)) ∧
    -- one count and one entry in the log, but for what the source says itself
    (∃ n ≤ 1, (Exhausted x.log ↔ n = 1) ∧
      ((effectsTo start x ++ x.manager.taskAhead).filterMap Effect.exhaustion?).length = n ∧
      ((effectsTo start x ++ x.manager.taskAhead).filterMap Effect.alarm?).length =
        ((eventsTo start x).flatMap Event.alarms).length + n) ∧
    -- nothing comes after it
    (Exhausted x.log →
      y.log = x.log ∧ (∀ e ∈ effectsTo x y, e.isRenewal = false) ∧
      x.credentials.getLast? = some x.session.cells.current ∧
      y.session.cells.current = x.session.cells.current ∧
      y.session.cells.published = x.session.cells.published ∧
      (x.manager.taskAhead = [] → x.session.cells.state = .stopped ∧
        ∀ e ∈ effectsTo x y, e.isOutside = true)) := by
  have N : start.Begins c := hstart ▸ launched_begins p now source backoff c history
  have B0 : start.Books p := hstart ▸ launched_books p now source backoff c history
  have hxs := hx.sound N.sound
  have B := hx.books N.sound B0
  obtain ⟨hle, hone⟩ := B.exhaustions_le
  refine ⟨fun h => ?_, fun e he => verdict?_eq_some (B.verdict?_of_fatal he),
    ⟨hy.fatal_eq hxs B, hy.stopped hxs⟩,
    ⟨exhaustions x.log, hle, hone, hx.reported N.sound N.taskAhead (hstart ▸ rfl)⟩, fun hex => ?_⟩
  · rw [B.fatal_of_told h, B.exhausted_iff]
  · have hend := B.ended_of_exhausted hex
    obtain ⟨hstate, hren⟩ := B.gaveUp (B.exhausted_iff.1 hex)
    obtain ⟨hlog, hdone⟩ := hy.of_ended hxs hend
    have hnone : ∀ e ∈ effectsTo x y, e.isRenewal = false := fun e he =>
      (hdone e he).elim Effect.isRenewal_of_outside (hren e)
    have hset : x.Settled := by
      obtain ⟨exit, hexit⟩ := hend
      exact .inl (by simp [hexit])
    have hcred : y.credentials = x.credentials := by rw [credentials, credentials, hlog]
    obtain ⟨hcur, hpub⟩ := N.eq_of_settled hx hy hset hcred
    refine ⟨hlog, hnone, N.getLast?_credentials hx hset, hcur, hpub, fun hquiet => ?_⟩
    rw [hquiet] at hstate hdone
    exact ⟨hstate, fun e he => (hdone e he).resolve_right (by simp)⟩

def failing : Chronicle (List (Line Nat)) Nat Backoff.Schedule :=
  sample .standard .epoch ⟨.atOnce, .fail ⟨.io, "gone"⟩⟩ []

def gaveUp : Chronicle (List (Line Nat)) Nat Backoff.Schedule :=
  failing.after (fun _ _ => true)
    ([.task, .task, .task, .tick (millis 1000)] ++ List.replicate 13 .task)
    (by decide +kernel)

/-- The first failure is the last, and neither a stop nor a shutdown changes what is reported. -/
theorem exhaustion_at_first_failure :
    (gaveUp.session.cells.fatal = some (.backoffExhausted "sample" 1 .zero) ∧
      Exhausted gaveUp.log) ∧
    ∃ y, Run free gaveUp y ∧ y.session.cells.isCancelled = true ∧
      y.session.cells.fatal = gaveUp.session.cells.fatal := by
  have hx : Run free failing gaveUp := run_after (fun _ _ _ => trivial) _
  let y := gaveUp.after (fun _ _ => true)
    [.start, .start, .stop, .callShutdown, .shutdown 0] (by decide +kernel)
  have hy : Run free gaveUp y := run_after (fun _ _ _ => trivial) _
  have hstart : failing = launched _ _ _ _ _ _ := rfl
  obtain ⟨hiff, -, ⟨hsame, -⟩, -⟩ := exhaustion_reported_once_and_final hstart hx hy
  have hfatal : gaveUp.session.cells.fatal = some (.backoffExhausted "sample" 1 .zero) := by
    decide +kernel
  have hstop : gaveUp.session.cells.state = .stopped := by decide +kernel
  have hex : Exhausted gaveUp.log := (hiff (.inr (.inr hstop))).1 (by rw [hfatal]; rfl)
  exact ⟨⟨hfatal, hex⟩, y, hy, by decide +kernel, hsame (.inl hstop)⟩

end Chronicle

end CredentialKeeper.Manager
