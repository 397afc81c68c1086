import CredentialKeeper.Proofs.Manager.Lifecycle
import CredentialKeeper.Proofs.Manager.Sessions

/-! # Cancellation is prompt, final and idempotent

Between two polls the task stands at a point at which it may wait (`Interleaving.Parked`), and at
every such point it looks for a request to stop before anything else. So if it has been asked by
then, all that is left to happen is its end (`Effect.isClosing`), however the moves to come are
mixed (`Chronicle.Fades`). The next poll ends it (`Chronicle.exists_poll`), and a runtime that does
not keep it waiting lets no time pass before. A request itself changes nothing that a reader of
the manager can see but that it has been made (`Chronicle.Run.of_requests`), and it is reported by
the first to make it (`Chronicle.Asked`). -/

namespace CredentialKeeper.Manager

variable {σ α β : Type}

/-! ## What is left to happen -/

namespace Effect

/-- What may still happen to a manager after it has been asked to stop. -/
def isClosing : Effect α → Bool
  | .markedStopped | .cancelled | .noticed (.renewalScheduled ..) | .noticed (.managerStopped _)
  | .noticed (.taskCrashed _) => true
  | _ => false

def stopNotice? : Effect α → Option Unit
  | .noticed (.stopRequested _) => some ()
  | _ => none

theorem fatal?_of_closing {e : Effect α} (h : e.isClosing = true) : e.fatal? = none := by
  cases e with
  | fatalSet => cases h
  | _ => rfl

theorem write?_of_closing {e : Effect α} (h : e.isClosing = true) : e.write? = none := by
  cases e with
  | stored => cases h
  | published => cases h
  | _ => rfl

end Effect

theorem stopEffects_of_cancelled {name : String} {cells : Cells α}
    (h : cells.isCancelled = true) : stopEffects name cells = [] := if_pos h

/-- The requests that a source reports with an event, on its own account. -/
def Event.stopNotices (e : Event α) : List Unit :=
  e.said.filterMap fun n => (.noticed n : Effect α).stopNotice?

theorem Task.Moves.filterMap_stopNotice {p : Plan σ α β} {now : Nat} {cells : Cells α}
    {t t' : Task σ α β} {ev : Option (Event α)} {effects : List (Effect α)}
    (M : t.Moves p now cells ev t' effects) :
    effects.filterMap Effect.stopNotice? = ev.toList.flatMap Event.stopNotices := by
  cases M <;>
    simp [closing, heard_filterMap, List.filterMap_cons, Effect.stopNotice?, Event.stopNotices,
      Event.said]

/-- A task that has been asked to stop, and has no failure to ask about, takes nothing more from its
source or its strategy. -/
theorem Task.Moves.of_cancelled {p : Plan σ α β} {now : Nat} {cells : Cells α}
    {t t' : Task σ α β} {ev : Option (Event α)} {effects : List (Effect α)}
    (M : t.Moves p now cells ev t' effects) (hc : cells.isCancelled = true)
    (hf : t.phase = .spawned ∨ t.phase = .planning → t.failures = 0) :
    ev = none ∧ (∀ e ∈ effects, e.isClosing = true) ∧
      (t'.phase = .spawned ∨ t'.phase = .planning → t'.failures = 0) := by
  cases M with
  | begin h => exact ⟨rfl, by simp, fun _ => hf (.inl h)⟩
  | schedule => exact ⟨rfl, by simp [Effect.isClosing], by simp⟩
  | timeless => exact ⟨rfl, by simp [closing, Effect.isClosing], by simp⟩
  | retry h hne | giveUp h hne | overflow h hne => exact absurd (hf (.inr h)) hne
  | cancel => exact ⟨rfl, by simp [closing, Effect.isClosing], by simp⟩
  | wakeUp _ hc' | call _ hc' | succeed _ hc' | fail _ hc' | timeOut _ hc' | crash _ hc' =>
    rw [hc] at hc'
    cases hc'

/-- A task that has been asked to stop does not wait for anything. -/
theorem Task.ended_of_idle {p : Plan σ α β} {now : Nat} {cells : Cells α} {t : Task σ α β}
    (h : t.step p now cells = none) (hc : cells.isCancelled = true) :
    ∃ exit, t.phase = .ended exit := by
  rcases Task.idle h with ⟨-, hc'⟩ | hend
  · rw [hc] at hc'
    cases hc'
  · exact hend

/-- A task with a time to wait for is at rest. -/
theorem Task.of_wake {t : Task σ α β} {wake : Nat} (h : t.wake? = some wake) :
    t.phase ≠ .planning ∧ ∀ exit, t.phase ≠ .ended exit := by
  unfold wake? at h
  split at h <;> simp_all

namespace Interleaving

/-- The task is between two polls. -/
def Parked (s : Interleaving σ α β) : Prop :=
  s.taskAhead = [] ∧ s.session.task.phase ≠ .planning

def Move.isRequest : Move → Bool
  | .stop | .callShutdown | .shutdown _ | .abandon _ | .drop => true
  | _ => false

/-- Nobody does anything but ask the manager to stop, in any way. -/
def requests : Discipline σ α β := fun _ m => m.isRequest = true

/-- A party that reports a request is the first to make one. -/
theorem Acts.filterMap_stopNotice {s u : Interleaving σ α β} {m : Move} {es : List (Effect α)}
    (hstart : ∀ e ∈ s.startAhead, e ≠ .cancelled ∧ e.stopNotice? = none) (H : s.Acts m u es) :
    es.filterMap Effect.stopNotice? = [] ∨
      s.session.cells.isCancelled = false ∧ es.filterMap Effect.stopNotice? = [()] ∧
        .cancelled ∈ es := by
  have hstop : ∀ name : String, ∀ cells : Cells α,
      (stopEffects name cells).filterMap Effect.stopNotice? = [] ∨
        cells.isCancelled = false ∧
          (stopEffects name cells).filterMap Effect.stopNotice? = [()] ∧
          .cancelled ∈ stopEffects name cells := by
    intro name cells
    cases hc : cells.isCancelled with
    | true => exact .inl (by simp [stopEffects, hc])
    | false => exact .inr (by simp [stopEffects, hc, Effect.stopNotice?, List.filterMap_cons])
  cases H with
  | @handOver e rest h =>
    have he := (hstart e (by simp [h])).2
    exact .inl (by simp [he])
  | stop => exact hstop _ _
  | ask => exact hstop _ _
  | join _ _ hes =>
    rcases hes with rfl | rfl
    · exact .inl rfl
    · exact .inl rfl
  | _ => exact .inl rfl

end Interleaving

namespace Chronicle
open Interleaving

variable {admits : Discipline σ α β} {p : Plan σ α β} {x y z : Chronicle σ α β}

/-! ## Who asks -/

/-- The task does not stop itself, and nobody else can before the start has handed the manager
over. -/
structure Asked (x : Chronicle σ α β) : Prop where
  taskAhead : .cancelled ∉ x.manager.taskAhead
  startAhead : ∀ e ∈ x.manager.startAhead, e ≠ .cancelled ∧ e.stopNotice? = none
  handedOver : x.session.cells.isCancelled = true ∨ x.manager.shutdowns ≠ [] →
    x.manager.startAhead = []

theorem launched_asked (p : Plan σ α β) (now : Nat) (source : σ) (backoff : β) (c : Credential α)
    (history : List (Nat × Effect α)) : (launched p now source backoff c history).Asked := by
  refine ⟨by simp [launched, ofFirst], ?_, ?_⟩
  · simp [launched, ofFirst, Startup.handOver, Effect.stopNotice?]
  · simp [launched, ofFirst, Session.spawned, Cells.ofFirst]

theorem startAhead_of_hasManager {s : Interleaving σ α β} (h : s.hasManager = true) :
    s.startAhead = [] :=
  List.isEmpty_iff.1 ((Bool.and_eq_true ..).mp h).1

theorem Asked.others {m : Move} {u : Interleaving σ α β} {es : List (Effect α)} (A : x.Asked)
    (H : x.manager.Acts m u es) : Asked ⟨u, x.log⟩ := by
  obtain ⟨hahead, hstart, hover⟩ := A
  -- a call of shutdown has been made of a manager that was there
  have hcall : ∀ {i : Nat} {call : ShutdownCall}, x.manager.shutdowns[i]? = some call →
      x.manager.startAhead = [] := by
    intro i call h
    refine hover (.inr fun hnil => ?_)
    simp [hnil] at h
  cases H with
  | handOver h =>
    rw [h] at hstart
    refine ⟨hahead, fun e he => hstart e (.tail _ he), fun hask => ?_⟩
    refine absurd (hover (hask.imp_left fun hc => ?_)) (by simp [h])
    exact ((Cells.isCancelled_apply ..).1 hc).resolve_right (hstart _ (.head _)).1
  | stop h | call h => exact ⟨hahead, hstart, fun _ => startAhead_of_hasManager h⟩
  | drop h =>
    have hquiet : x.manager.startAhead = [] := startAhead_of_hasManager h
    exact ⟨hahead, hstart, fun _ => hquiet⟩
  | ask h | take h | miss h | join h => exact ⟨hahead, hstart, fun _ => hcall h⟩
  | abandon =>
    refine ⟨hahead, hstart, fun hask => hover (hask.imp_right fun hne hnil => hne ?_)⟩
    show x.manager.shutdowns.eraseIdx _ = []
    simp [hnil]

theorem Asked.advance (A : x.Asked) (H : Advance admits x y) : y.Asked := by
  cases H with
  | decide _ M => exact ⟨M.not_cancelled, A.startAhead, A.handedOver⟩
  | @perform e rest h =>
    have hahead := A.taskAhead
    rw [h] at hahead
    refine ⟨fun hmem => hahead (.tail _ hmem), A.startAhead, fun hask => A.handedOver ?_⟩
    refine hask.imp_left fun hc => ((Cells.isCancelled_apply ..).1 hc).resolve_right ?_
    rintro rfl
    exact hahead (.head _)
  | discard _ _ D =>
    refine ⟨?_, A.startAhead, A.handedOver⟩
    cases D <;> simp [closing]
  | others _ _ H => exact A.others H
  | tick => exact ⟨A.taskAhead, A.startAhead, A.handedOver⟩

theorem Run.asked (H : Run admits x y) (hx : x.manager.Sound) (A : x.Asked) : y.Asked :=
  H.induct hx A Asked.advance

/-! ## The report of a request -/

theorem isCancelled_toNat_le (cells : Cells α) (es : List (Effect α)) :
    cells.isCancelled.toNat ≤ (cells.applyAll es).isCancelled.toNat := by
  refine Bool.toNat_le_toNat fun hc => ?_
  exact (Cells.isCancelled_applyAll ..).2 (.inl hc)

/-- One move adds the reports of its event, and one more only with the first request. -/
theorem Asked.stopNotices_le (A : x.Asked) (H : Advance admits x y) :
    ((effectsTo x y ++ y.manager.taskAhead).filterMap Effect.stopNotice?).length +
        x.session.cells.isCancelled.toNat ≤
      (x.manager.taskAhead.filterMap Effect.stopNotice?).length +
        ((eventsTo x y).flatMap Event.stopNotices).length +
        y.session.cells.isCancelled.toNat := by
  obtain ⟨es, ev, hh, hl, h⟩ : ∃ (es : List (Effect α)) (ev : Option (Event α)),
      y.session.history = (es.map (x.session.now, ·)).reverse ++ x.session.history ∧
      y.log = ev.toList.map (x.session.now, ·) ++ x.log ∧
      ((es ++ y.manager.taskAhead).filterMap Effect.stopNotice?).length +
          x.session.cells.isCancelled.toNat ≤
        (x.manager.taskAhead.filterMap Effect.stopNotice?).length +
          (ev.toList.flatMap Event.stopNotices).length + y.session.cells.isCancelled.toNat := by
    cases H with
    | @decide ev _ _ h M =>
      refine ⟨[], ev, rfl, rfl, ?_⟩
      rw [← M.filterMap_stopNotice]
      simp
    | @perform e rest h =>
      have hle : x.session.cells.isCancelled.toNat ≤
          (x.performed [e] rest).session.cells.isCancelled.toNat := isCancelled_toNat_le ..
      refine ⟨[e], none, rfl, rfl, ?_⟩
      simpa [h] using hle
    | discard _ _ D =>
      refine ⟨[], none, rfl, rfl, ?_⟩
      cases D <;> simp [closing, Effect.stopNotice?, List.filterMap_cons]
    | @others _ u es O _ H =>
      refine ⟨es, none, O.history.trans (Session.record_eq ..), rfl, ?_⟩
      rw [List.filterMap_append, List.length_append, O.taskAhead, O.cells]
      rcases H.filterMap_stopNotice A.startAhead with hnone | ⟨hc, hone, hmem⟩
      · have hle : x.session.cells.isCancelled.toNat ≤
            (x.manager.session.cells.applyAll es).isCancelled.toNat := isCancelled_toNat_le ..
        simp only [hnone, List.length_nil, Option.toList_none, List.flatMap_nil]
        omega
      · have hc' : (x.session.cells.applyAll es).isCancelled = true :=
          (Cells.isCancelled_applyAll ..).2 (.inr hmem)
        simp only [hone, hc, hc', List.length_singleton, Option.toList_none, List.flatMap_nil,
          List.length_nil, Bool.toNat_true, Bool.toNat_false]
        omega
    | tick => exact ⟨[], none, rfl, rfl, by simp⟩
  rw [effectsTo_step hh, eventsTo_step hl]
  exact h

/-- Besides what the source says itself there is one report of a request at most. -/
theorem Run.stopNotices_le (H : Run admits x y) (hx : x.manager.Sound) (A : x.Asked)
    (hquiet : x.manager.taskAhead = []) :
    ((effectsTo x y ++ y.manager.taskAhead).filterMap Effect.stopNotice?).length ≤
      ((eventsTo x y).flatMap Event.stopNotices).length + y.session.cells.isCancelled.toNat := by
  induction H with
  | refl => simp [effectsTo_self, eventsTo_self, hquiet]
  | @tail y z H N ih =>
    have H : Run admits x y := H
    have hstep := (H.asked hx A).stopNotices_le (N.advance (H.sound hx))
    rw [H.effectsTo_trans (.single N) hx, H.eventsTo_trans (.single N) hx]
    simp only [List.filterMap_append, List.flatMap_append, List.length_append] at ih hstep ⊢
    omega

/-! ## After a request -/

theorem Run.cancelled (H : Run admits x y) (hx : x.manager.Sound)
    (hc : x.session.cells.isCancelled = true) : y.session.cells.isCancelled = true := by
  rw [H.cells_eq hx]
  exact (Cells.isCancelled_applyAll ..).2 (.inl hc)

/-- `y` is `x`, which has been asked to stop, after some of what is left to happen. -/
structure Fades (x y : Chronicle σ α β) : Prop where
  log : y.log = x.log
  cancelled : y.session.cells.isCancelled = true
  startAhead : y.manager.startAhead = []
  ahead : ∀ e ∈ y.manager.taskAhead, e.isClosing = true
  unfailing : y.session.task.phase = .spawned ∨ y.session.task.phase = .planning →
    y.session.task.failures = 0
  history : ∃ done, y.session.history = done ++ x.session.history ∧
    ∀ r ∈ done, r.2.isClosing = true

theorem Fades.others {m : Move} {u : Interleaving σ α β} {es : List (Effect α)} (F : x.Fades y)
    (O : y.manager.Beside u es) (H : y.manager.Acts m u es) : x.Fades ⟨u, y.log⟩ := by
  have hes : ∀ e ∈ es, e.isClosing = true := by
    cases H with
    | handOver h =>
      rw [F.startAhead] at h
      cases h
    | stop | ask => simp [stopEffects_of_cancelled F.cancelled]
    | join _ _ hes => rcases hes with rfl | rfl <;> simp [Effect.isClosing]
    | _ => simp [Effect.isClosing]
  have hstart : u.startAhead = [] :=
    List.eq_nil_iff_forall_not_mem.2 fun e he => by
      have := O.startAhead e he
      simp [F.startAhead] at this
  obtain ⟨done, hh, hdone⟩ := F.history
  refine ⟨F.log, ?_, hstart, O.taskAhead ▸ F.ahead, O.task ▸ F.unfailing,
    (es.map (y.session.now, ·)).reverse ++ done, ?_, fun r hr => ?_⟩
  · rw [O.cells]
    exact (Cells.isCancelled_applyAll ..).2 (.inl F.cancelled)
  · rw [List.append_assoc, ← hh, ← Session.record_eq]
    exact O.history
  · rcases List.mem_append.1 hr with hr | hr
    · obtain ⟨e, he, rfl⟩ := List.mem_map.1 (List.mem_reverse.1 hr)
      exact hes e he
    · exact hdone r hr

theorem Fades.advance (F : x.Fades y) (A : Advance admits y z) : x.Fades z := by
  cases A with
  | decide h M =>
    obtain ⟨rfl, heffects, hunfailing⟩ := M.of_cancelled F.cancelled F.unfailing
    exact ⟨F.log, F.cancelled, F.startAhead, heffects, hunfailing, F.history⟩
  | @perform e rest h =>
    have hahead := F.ahead
    rw [h] at hahead
    obtain ⟨done, hh, hdone⟩ := F.history
    refine ⟨F.log, (Cells.isCancelled_apply ..).2 (.inl F.cancelled), F.startAhead,
      fun e' he' => hahead e' (.tail _ he'), F.unfailing, (y.session.now, e) :: done,
      congrArg (List.cons _) hh, fun r hr => ?_⟩
    rcases List.mem_cons.1 hr with rfl | hr
    · exact hahead e (.head _)
    · exact hdone r hr
  | discard _ h D =>
    cases D with
    | early => exact ⟨F.log, F.cancelled, F.startAhead, by simp, by simp, F.history⟩
    | late => exact ⟨F.log, F.cancelled, F.startAhead, by simp, F.unfailing, F.history⟩
    | midway =>
      exact ⟨F.log, F.cancelled, F.startAhead, by simp [closing, Effect.isClosing], by simp,
        F.history⟩
  | others O _ H => exact F.others O H
  | tick => exact ⟨F.log, F.cancelled, F.startAhead, F.ahead, F.unfailing, F.history⟩

/-- A task that has not run yet has not failed. -/
theorem Run.unfailing (H : Run admits x y) (hx : x.manager.Sound)
    (h : x.session.task.phase = .spawned → x.session.task.failures = 0) :
    y.session.task.phase = .spawned → y.session.task.failures = 0 := by
  refine H.induct (P := fun y => y.session.task.phase = .spawned → y.session.task.failures = 0)
    hx h fun {y z} ih A => ?_
  cases A with
  | decide _ M => cases M <;> simp
  | discard _ _ D =>
    cases D with
    | late => exact ih
    | _ => simp
  | others O => exact O.task ▸ ih
  | _ => exact ih

theorem Run.fades (H : Run admits x y) (hx : x.manager.Sound) (A : x.Asked)
    (hc : x.session.cells.isCancelled = true) (hpark : x.manager.Parked)
    (hnew : x.session.task.phase = .spawned → x.session.task.failures = 0) : x.Fades y := by
  refine H.induct hx ⟨rfl, hc, A.handedOver (.inl hc), ?_, fun h => ?_, [], rfl, by simp⟩
    Fades.advance
  · rw [hpark.1]
    simp
  · exact h.elim hnew fun hplan => absurd hplan hpark.2

/-- What is left to happen changes none of the cells but the state. -/
theorem Fades.cells_eq (F : x.Fades y) (H : Run admits x y) (hx : x.manager.Sound) :
    (∀ e ∈ effectsTo x y, e.isClosing = true) ∧
      y.session.cells.current = x.session.cells.current ∧
      y.session.cells.published = x.session.cells.published ∧
      y.session.cells.fatal = x.session.cells.fatal := by
  obtain ⟨done, hh, hdone⟩ := F.history
  have heffects : ∀ e ∈ effectsTo x y, e.isClosing = true := by
    intro e he
    rw [effectsTo_eq hh, List.mem_reverse] at he
    obtain ⟨r, hr, rfl⟩ := List.mem_map.1 he
    exact hdone r hr
  have hwrite : (effectsTo x y).filterMap Effect.write? = [] :=
    List.filterMap_eq_nil_iff.2 fun e he => Effect.write?_of_closing (heffects e he)
  have hstored : (effectsTo x y).filterMap Effect.stored? = [] :=
    List.filterMap_filterMap.symm.trans (by rw [hwrite]; rfl)
  have hpublished : (effectsTo x y).filterMap Effect.published? = [] :=
    List.filterMap_filterMap.symm.trans (by rw [hwrite]; rfl)
  have hfatal : (effectsTo x y).filterMap Effect.fatal? = [] :=
    List.filterMap_eq_nil_iff.2 fun e he => Effect.fatal?_of_closing (heffects e he)
  rw [H.cells_eq hx, Cells.current_applyAll, Cells.published_applyAll, Cells.fatal_applyAll,
    hstored, hpublished, hfatal]
  exact ⟨heffects, rfl, rfl, by simp⟩

/-! ## The next poll -/

/-- `y` is `x` after a poll: the task has moved alone, until it has to wait. -/
def Poll (x y : Chronicle σ α β) : Prop := Run alone x y ∧ y.manager.step .task = none

theorem idle_of_poll (h : x.manager.step .task = none) :
    x.manager.taskAhead = [] ∧
      x.session.task.step x.session.plan x.session.now x.session.cells = none := by
  simp only [Interleaving.step, taskMove] at h
  split at h
  next => cases h
  next hquiet => exact ⟨hquiet, Option.map_eq_none_iff.1 h⟩

/-- A task that has been asked to stop comes to rest in a poll, as a wait is cut short. -/
theorem exists_poll (hc : x.session.cells.isCancelled = true) : ∃ y, Poll x y := by
  induction hn : movesLeft x.session.now x.session.cells x.session.task
    using Nat.strong_induction_on generalizing x with
  | h n ih =>
    have hrun : Run alone x (x.performed x.manager.taskAhead []) := run_taskAhead rfl
    generalize hy : x.performed x.manager.taskAhead [] = y at hrun
    have hquiet : y.manager.taskAhead = [] := by rw [← hy]
    have hcy : y.session.cells.isCancelled = true := by
      rw [← hy]
      exact (Cells.isCancelled_applyAll ..).2 (.inl hc)
    have hleft : movesLeft y.session.now y.session.cells y.session.task = n := by
      rw [← hn, ← hy]
      simp only [movesLeft, hc, show (x.performed x.manager.taskAhead []).session.cells.isCancelled
        = true from hy ▸ hcy]
      rfl
    cases hstep : y.session.task.step y.session.plan y.session.now y.session.cells with
    | none => exact ⟨y, hrun, by simp [Interleaving.step, taskMove, hquiet, hstep]⟩
    | some r =>
      have hlt := movesLeft_lt (.inl hcy) (Task.step_moves hstep)
      have hnext := next_decide hquiet hstep
      obtain ⟨z, hz, hidle⟩ := ih _ (hleft ▸ hlt) (x := y.decided _ r.1 r.2) hcy rfl
      exact ⟨z, hrun.trans (.head hnext hz), hidle⟩

theorem Poll.ended (H : Poll x y) (hx : x.manager.Sound)
    (hc : x.session.cells.isCancelled = true) :
    (∃ exit, y.session.task.phase = .ended exit) ∧ y.manager.taskAhead = [] := by
  obtain ⟨hquiet, hstep⟩ := idle_of_poll H.2
  exact ⟨Task.ended_of_idle hstep (H.1.cancelled hx hc), hquiet⟩

/-- A poll of a task that has been asked to stop marks the manager as stopped, in no time. -/
theorem Poll.stopped (H : Poll x y) (hx : x.manager.Sound) (B : x.Books p)
    (hc : x.session.cells.isCancelled = true) (hpark : x.manager.Parked)
    (hrun : ∀ exit, x.session.task.phase ≠ .ended exit) :
    y.session.cells.state = .stopped ∧ y.session.now = x.session.now := by
  obtain ⟨hend, hquiet⟩ := H.ended hx hc
  have L := H.1.leaves kept_of_alone hx B (.of_running hrun hpark.1)
  refine ⟨(L.after hend).resolve_left (by simp [hquiet]), ?_⟩
  refine H.1.induct (P := fun y => y.session.now = x.session.now) hx rfl fun {y z} ih A => ?_
  rcases A.now_eq with hnow | ⟨nanos, had, -⟩
  · exact hnow.trans ih
  · cases had

/-- A prompt runtime lets no time pass until a task that has been asked to stop has ended. -/
theorem Run.stopped_of_lt (H : Run prompt x y) (hx : x.manager.Sound) (B : x.Books p)
    (hc : x.session.cells.isCancelled = true) (hpark : x.manager.Parked)
    (hrun : ∀ exit, x.session.task.phase ≠ .ended exit)
    (hlt : x.session.now < y.session.now) : y.session.cells.state = .stopped := by
  induction H with
  | refl => exact absurd hlt (Nat.lt_irrefl _)
  | @tail y z H N ih =>
    have H : Run prompt x y := H
    have hys := H.sound hx
    have hyz : Run prompt y z := .single N
    have hkeeps := hyz.stopped hys
    rcases (N.advance hys).now_eq with hnow | ⟨nanos, ⟨hquiet, hidle⟩, rfl⟩
    · exact hkeeps (ih (hnow ▸ hlt))
    · by_cases hlt' : x.session.now < y.session.now
      · exact hkeeps (ih hlt')
      · have hnanos : 0 < nanos := by
          have hlt : x.session.now < y.session.now + nanos := hlt
          omega
        have hend := Task.ended_of_idle (hidle 0 hnanos) (H.cancelled hx hc)
        have L := H.leaves kept_of_prompt hx B (.of_running hrun hpark.1)
        exact (L.after hend).resolve_left (by simp [hquiet])

/-! ## Requests -/

/-- A request changes nothing in the cells but that it has been made. -/
theorem cells_of_stopEffects (name : String) (cells : Cells α) :
    cells.applyAll (stopEffects name cells) = { cells with isCancelled := true } := by
  unfold stopEffects
  split
  next hc => rw [← hc]; rfl
  next => rfl

theorem Next.of_request (hx : x.manager.Sound) (N : Next requests x y) :
    y.session.task = x.session.task ∧ y.session.now = x.session.now ∧
      y.session.cells = { x.session.cells with isCancelled := y.session.cells.isCancelled } := by
  obtain ⟨m, hm, h⟩ := N
  obtain ⟨u, hu, rfl⟩ := Option.map_eq_some_iff.1 h
  have hothers : m ≠ .task ∧ m ≠ .discard ∧ ∀ nanos, m ≠ .tick nanos := by
    cases m <;> simp_all [requests, Move.isRequest]
  obtain ⟨es, A⟩ := step_acts hu hothers
  have O := A.beside hx
  refine ⟨O.task, O.now, ?_⟩
  show u.session.cells = { x.session.cells with isCancelled := u.session.cells.isCancelled }
  cases A with
  | handOver => cases hm
  | stop | ask => rw [O.cells, cells_of_stopEffects]
  | join _ _ hes =>
    rw [O.cells]
    rcases hes with rfl | rfl <;> rfl
  | _ => rfl

/-- However often and in whatever order a manager is asked to stop, nothing of it changes but that
it has been asked. -/
theorem Run.of_requests (H : Run requests x y) (hx : x.manager.Sound) :
    y.session.task = x.session.task ∧ y.session.now = x.session.now ∧
      y.session.cells = { x.session.cells with isCancelled := y.session.cells.isCancelled } := by
  induction H with
  | refl => exact ⟨rfl, rfl, rfl⟩
  | @tail y z H N ih =>
    have H : Run requests x y := H
    obtain ⟨htask, hnow, hcells⟩ := ih
    obtain ⟨htask', hnow', hcells'⟩ := N.of_request (H.sound hx)
    refine ⟨htask'.trans htask, hnow'.trans hnow, ?_⟩
    rw [hcells', hcells]

/-- **Cancellation is prompt, final and idempotent.** Let `x` be any state of any run in which the
task is between two polls and has been asked to stop. Whatever happens from then on, the task takes
nothing more from its source and its strategy, even if an answer is there already, nothing is
published, counted or reported as an error, and the credential stays. The next poll ends the task
and marks the manager as stopped with no time in between, so under a prompt runtime no time passes
before. To ask again changes nothing, asked or not, ended or not, and the first request alone is
logged. -/
theorem cancellation_prompt_final_and_idempotent {now : Nat} {source : σ} {backoff : β}
    {c : Credential α} {history : List (Nat × Effect α)} {start : Chronicle σ α β}
    (hstart : start = launched p now source backoff c history)
    (hx : Run free start x) (hy : Run free x y) :
    (x.session.cells.isCancelled = true → x.manager.Parked →
      (y.log = x.log ∧ (∀ e ∈ effectsTo x y, e.isClosing = true) ∧
        x.credentials.getLast? = some x.session.cells.current ∧
        y.session.cells.current = x.session.cells.current ∧
        y.session.cells.published = x.session.cells.published ∧
        y.session.cells.fatal = x.session.cells.fatal) ∧
      ((∀ exit, x.session.task.phase ≠ .ended exit) →
        (∃ z, Poll x z) ∧
        (∀ z, Poll x z → (∃ exit, z.session.task.phase = .ended exit) ∧
          z.session.cells.state = .stopped ∧ z.session.now = x.session.now) ∧
        ∀ z, Run prompt x z → x.session.now < z.session.now →
          z.session.cells.state = .stopped)) ∧
    -- to ask again
    (∀ z, Run requests x z → z.session.task = x.session.task ∧ z.session.now = x.session.now ∧
      z.session.cells = { x.session.cells with isCancelled := z.session.cells.isCancelled }) ∧
    ((effectsTo start x).filterMap Effect.stopNotice?).length ≤
      ((eventsTo start x).flatMap Event.stopNotices).length + 1 := by
  have N : start.Begins c := hstart ▸ launched_begins p now source backoff c history
  have B0 : start.Books p := hstart ▸ launched_books p now source backoff c history
  have A0 : start.Asked := hstart ▸ launched_asked p now source backoff c history
  have hxs := hx.sound N.sound
  have B := hx.books N.sound B0
  refine ⟨fun hc hpark => ⟨?_, fun hrun => ⟨exists_poll hc, fun z hz => ?_, fun z hz hlt => ?_⟩⟩,
    fun z hz => hz.of_requests hxs, ?_⟩
  · have hnew : x.session.task.phase = .spawned → x.session.task.failures = 0 :=
      hx.unfailing N.sound fun _ => by rw [hstart]; rfl
    have F := hy.fades hxs (hx.asked N.sound A0) hc hpark hnew
    obtain ⟨heffects, hkept⟩ := F.cells_eq hy hxs
    exact ⟨F.log, heffects, N.getLast?_credentials hx (.inr hpark.1), hkept⟩
  · exact ⟨(hz.ended hxs hc).1, hz.stopped hxs B hc hpark hrun⟩
  · exact hz.stopped_of_lt hxs B hc hpark hrun hlt
  · have hle := hx.stopNotices_le N.sound A0 N.taskAhead
    have hone := x.session.cells.isCancelled.toNat_le
    rw [List.filterMap_append, List.length_append] at hle
    omega

/-- A renewal has its answer at the instant at which the manager is asked to stop. -/
def answered : Chronicle (List (Line Nat)) Nat Backoff.Schedule :=
  (sample .standard .epoch ⟨.after (millis 5), .issue 8 (.forMillis 10000)⟩ []).after
    (fun _ _ => true)
    [.start, .start, .task, .task, .task, .tick (millis 1000), .task, .task, .task,
      .tick (millis 5), .stop] (by decide +kernel)

/-- The answer is not taken, and the first credential stays. -/
theorem answer_not_taken :
    answered.session.task.wake? = some answered.session.now ∧
      ∃ y, Poll answered y ∧ y.session.cells.state = .stopped ∧
        y.session.now = answered.session.now ∧ y.session.cells.current.value = 7 := by
  have hx : Run free (sample .standard .epoch ⟨.after (millis 5), .issue 8 (.forMillis 10000)⟩ [])
      answered := run_after (fun _ _ _ => trivial) _
  have hc : answered.session.cells.isCancelled = true := by decide +kernel
  have hwake : answered.session.task.wake? = some answered.session.now := by decide +kernel
  have hquiet : answered.manager.taskAhead.isEmpty = true := by decide +kernel
  obtain ⟨hplan, hrun⟩ := Task.of_wake hwake
  obtain ⟨y, hy⟩ := exists_poll hc
  have hfree : Run free answered y := Run.mono (fun _ _ _ => trivial) hy.1
  obtain ⟨hleft, -⟩ := cancellation_prompt_final_and_idempotent rfl hx hfree
  obtain ⟨⟨-, -, -, hcur, -⟩, hpoll⟩ := hleft hc ⟨List.isEmpty_iff.1 hquiet, hplan⟩
  obtain ⟨-, hstop, -⟩ := hpoll hrun
  obtain ⟨-, hstate, hnow⟩ := hstop y hy
  refine ⟨hwake, y, hy, hstate, hnow, ?_⟩
  rw [hcur]
  decide +kernel

end Chronicle

end CredentialKeeper.Manager
