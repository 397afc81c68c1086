import CredentialKeeper.Proofs.Manager.Joining

/-! # However the task ends

A task ends by itself, or the runtime throws it away, or its source or its strategy breaks off and
takes it along, at any point of its loop (`Chronicle.Course`). What marks the manager as stopped
comes with the first move of the task. So a task that has moved leaves a stopped manager behind,
whatever ends it (`Chronicle.Guarded`), and one that the runtime throws away unmoved leaves it as it
is (`Chronicle.Forsaken`). -/

namespace CredentialKeeper.Manager

variable {σ α β : Type}

/-! ## Waiting for the manager to stop -/

namespace Session

variable {s : Session σ α β} {exit : Exit}

theorem settleWith_of_ended (h : s.task.phase = .ended exit) (fuel : Nat) :
    s.settleWith fuel = s := by
  have hnone : s.move = none := by simp only [move, Task.step, h, Option.map_none]
  cases fuel with
  | zero => rfl
  | succ fuel => simp only [settleWith, hnone]

/-- The wait for the end of a manager whose task is gone is over at once, or lasts forever. -/
theorem stopped_of_ended (h : s.task.phase = .ended exit) (nanos : Nat) :
    (s.stopped nanos).1 = if s.cells.state = .stopped then some s.cells.fatal else none := by
  have hwake : s.task.wake? = none := by simp only [Task.wake?, h]
  have hsettle : s.settle = s := settleWith_of_ended h _
  unfold stopped runUntil
  rw [hsettle]
  unfold runUntil.go
  by_cases hstate : s.cells.state = .stopped
  · simp [hstate]
  · simp [hstate, hwake]

end Session

namespace Task.Moves

variable {p : Plan σ α β} {now : Nat} {cells : Cells α} {t t' : Task σ α β}
  {ev : Option (Event α)} {effects : List (Effect α)}

theorem not_spawned (M : t.Moves p now cells ev t' effects) : t'.phase ≠ .spawned := by
  cases M <;> simp

theorem mark_of_ended (M : t.Moves p now cells ev t' effects) {exit : Exit}
    (h : t'.phase = .ended exit) : .markedStopped ∈ effects := by
  rw [mem_mark, M.filterMap_mark, Task.exit?_eq_some.2 h]
  simp

/-- The first move only enters the loop. -/
theorem phase_of_spawned (M : t.Moves p now cells ev t' effects) (h : t.phase = .spawned) :
    t'.phase = .planning := by
  cases M with
  | begin => rfl
  | cancel _ hphase => obtain ⟨_, hphase⟩ | hphase | ⟨_, hphase⟩ := hphase <;> cases h ▸ hphase
  | _ hphase => cases h.symm.trans hphase

end Task.Moves

namespace Chronicle
open Interleaving

variable {admits : Discipline σ α β} {p : Plan σ α β} {start x y z : Chronicle σ α β}

/-! ## A task that has moved -/

/-- The task has moved, and once it has ended, the mark that the manager has stopped is made or is
still ahead of it. -/
structure Guarded (x : Chronicle σ α β) : Prop where
  moved : x.session.task.phase ≠ .spawned
  marks : (∃ exit, x.session.task.phase = .ended exit) →
    .markedStopped ∈ x.manager.taskAhead ∨ x.session.cells.state = .stopped

theorem InLoop.guarded (h : x.InLoop) : x.Guarded :=
  ⟨h.moved, fun ⟨exit, hexit⟩ => absurd hexit (h.goesOn exit)⟩

theorem Guarded.advance (G : x.Guarded) (A : Advance admits x y) : y.Guarded := by
  obtain ⟨hmoved, hmarks⟩ := G
  cases A with
  | decide h M => exact ⟨M.not_spawned, fun ⟨_, hexit⟩ => .inl (M.mark_of_ended hexit)⟩
  | @perform e rest h =>
    refine ⟨hmoved, fun hend => ?_⟩
    rcases hmarks hend with hmem | hstop
    · rw [h] at hmem
      rcases List.mem_cons.1 hmem with rfl | hmem
      · exact .inr ((Cells.state_apply ..).2 (.inr rfl))
      · exact .inl hmem
    · exact .inr ((Cells.state_apply ..).2 (.inl hstop))
  | discard _ h D =>
    cases D with
    | early hs => exact absurd hs hmoved
    | late => exact ⟨hmoved, h ▸ hmarks⟩
    | midway => exact ⟨by simp, fun _ => .inl (by simp [closing])⟩
  | others O =>
    refine ⟨O.task ▸ hmoved, fun hend => ?_⟩
    rw [O.task] at hend
    rw [O.taskAhead, O.cells, Cells.state_applyAll]
    exact (hmarks hend).imp_right .inl
  | tick => exact ⟨hmoved, hmarks⟩

theorem Course.guarded (H : Course x y) (hx : x.manager.Sound) (G : x.Guarded) : y.Guarded :=
  H.induct hx G Guarded.advance fun _ _ _ =>
    ⟨by simp [broken], fun _ => .inl (by simp [broken, closing])⟩

theorem Course.stopped (H : Course x y) (hx : x.manager.Sound)
    (h : x.session.cells.state = .stopped) : y.session.cells.state = .stopped := by
  refine H.induct (P := fun y => y.session.cells.state = .stopped) hx h (fun hy A => ?_)
    fun _ hy _ => hy
  rw [A.grows.cells]
  exact (Cells.state_applyAll ..).2 (.inl hy)

/-- The task leaves its loop for good when it is let go on, and no time need pass for it. -/
theorem Guarded.exists_left (G : x.Guarded) (hend : ∃ exit, x.session.task.phase = .ended exit) :
    ∃ y, Run alone x y ∧ y.session.now = x.session.now ∧ y.HasLeft ∧
      y.session.cells.state = .stopped := by
  refine ⟨_, run_taskAhead rfl, rfl, ⟨hend, by simp⟩, ?_⟩
  exact (Cells.state_applyAll ..).2 (G.marks hend).symm

/-! ## A task that is thrown away unmoved -/

/-- The task has not moved yet, so nothing has been marked. -/
def Waits (x : Chronicle σ α β) : Prop :=
  x.session.task.phase = .spawned → x.manager.taskAhead = [] ∧ x.session.cells.state ≠ .stopped

/-- The task is gone without a trace. -/
structure Forsaken (x : Chronicle σ α β) : Prop where
  ended : x.session.task.phase = .ended .discarded
  taskAhead : x.manager.taskAhead = []
  state : x.session.cells.state ≠ .stopped

theorem Waits.advance (hx : x.Waits) (A : Advance admits x y) : y.Waits := by
  intro hy
  cases A with
  | decide h M => exact absurd hy M.not_spawned
  | perform h => cases h.symm.trans (hx hy).1
  | discard _ _ D =>
    cases D with
    | late h => cases h.symm.trans hy
    | _ => cases hy
  | others O =>
    obtain ⟨hquiet, hstate⟩ := hx (O.task ▸ hy)
    refine ⟨O.taskAhead.trans hquiet, ?_⟩
    rw [O.cells, Ne, Cells.state_applyAll]
    exact not_or.2 ⟨hstate, fun he => by cases O.outside _ he⟩
  | tick => exact hx hy

theorem Forsaken.advance (F : x.Forsaken) (A : Advance admits x y) : y.Forsaken := by
  obtain ⟨hend, hquiet, hstate⟩ := F
  cases A with
  | decide h M => exact absurd hend (M.not_ended _)
  | perform h => cases h.symm.trans hquiet
  | discard _ _ D =>
    cases D with
    | early hs => cases hend.symm.trans hs
    | late => exact ⟨hend, rfl, hstate⟩
    | midway _ he => exact absurd hend (he _)
  | others O =>
    refine ⟨O.task ▸ hend, O.taskAhead.trans hquiet, ?_⟩
    rw [O.cells, Ne, Cells.state_applyAll]
    exact not_or.2 ⟨hstate, fun he => by cases O.outside _ he⟩
  | tick => exact ⟨hend, hquiet, hstate⟩

theorem Course.forsaken (H : Course x y) (hx : x.manager.Sound) (F : x.Forsaken) : y.Forsaken :=
  H.induct hx F Forsaken.advance fun _ F hloop => absurd F.ended (hloop.goesOn _)

theorem Waits.forsaken (hx : x.Waits) (hs : x.session.task.phase = .spawned)
    (h : x.step .discard = some y) : y.Forsaken := by
  obtain ⟨hquiet, hstate⟩ := hx hs
  obtain ⟨u, hu, rfl⟩ := Option.map_eq_some_iff.1 h
  simp only [Interleaving.step, hquiet, List.isEmpty_nil, if_true, Task.discard, hs] at hu
  cases hu
  exact ⟨rfl, rfl, hstate⟩

/-! ## Either of the two -/

/-- On the way to `x` the task has moved. -/
def HasMoved (start x : Chronicle σ α β) : Prop := ∃ y, Course start y ∧ y.InLoop ∧ Course y x

/-- On the way to `x` the runtime has thrown the task away before its first move. -/
def ThrownAway (start x : Chronicle σ α β) : Prop :=
  ∃ y z, Course start y ∧ y.session.task.phase = .spawned ∧ y.step .discard = some z ∧ Course z x

theorem Course.moved_or_thrown (H : Course start x) (hs : start.manager.Sound)
    (h0 : start.session.task.phase = .spawned) :
    x.session.task.phase = .spawned ∨ HasMoved start x ∨ ThrownAway start x := by
  induction H with
  | refl => exact .inl h0
  | @tail y z H S ih =>
    have H : Course start y := H
    rcases ih with hspawned | ⟨u, hu, hloop, huy⟩ | ⟨u, v, hu, hus, huv, hvy⟩
    case inl =>
      cases S with
      | breakOff _ h => exact absurd hspawned h.moved
      | @move z N =>
        obtain ⟨m, -, hstep⟩ := id N
        by_cases hm : m = .discard
        · subst hm
          exact .inr (.inr ⟨y, z, H, hspawned, hstep, .refl⟩)
        · have A : Advance (fun _ m => m ≠ .discard) y z :=
            Next.advance (H.sound hs) ⟨m, hm, hstep⟩
          have hz : Course start z := H.tail (.move N)
          cases A with
          | decide _ M =>
            refine .inr (.inl ⟨_, hz, ⟨M.not_spawned, fun exit => ?_⟩, .refl⟩)
            simp [M.phase_of_spawned hspawned]
          | discard had => exact absurd rfl had
          | others O => exact .inl (O.task ▸ hspawned)
          | _ => exact .inl hspawned
    case inr.inl => exact .inr (.inl ⟨u, hu, hloop, huy.tail S⟩)
    case inr.inr => exact .inr (.inr ⟨u, v, hu, hus, huv, hvy.tail S⟩)

/-- **The manager is stopped however a task ends that has moved.** Let `x` be a state of any course
in which the task has ended: by itself, thrown away by the runtime, or broken off by its source or
its strategy, before or after the start has marked the manager as running. If the task has ever
moved, it only has to be let go on, without any time, for the manager to be marked as stopped, and
once it has left its loop, the manager is stopped for good and a wait for that is over at once.
Otherwise the runtime has thrown it away before its first move. Then the manager is never stopped:
from the return of the start on it says that it is running, and a wait for its end never ends. -/
theorem stopped_unless_thrown_away {now : Nat} {source : σ} {backoff : β} {c : Credential α}
    {history : List (Nat × Effect α)} (hstart : start = launched p now source backoff c history)
    (hx : Course start x) (hend : ∃ exit, x.session.task.phase = .ended exit) :
    (HasMoved start x ∨ ThrownAway start x) ∧
    (HasMoved start x →
      (∃ y, Run alone x y ∧ y.session.now = x.session.now ∧ y.HasLeft) ∧
      ∀ y, Course x y → y.HasLeft → ∀ z, Course y z → z.session.cells.state = .stopped ∧
        ∀ nanos, (z.session.stopped nanos).1 = some z.session.cells.fatal) ∧
    (ThrownAway start x → ∀ z, Course x z → z.session.cells.state ≠ .stopped ∧
      (z.manager.startAhead = [] → z.session.cells.state = .running) ∧
      ∀ nanos, (z.session.stopped nanos).1 = none) := by
  obtain ⟨exit, hexit⟩ := hend
  have hs : start.manager.Sound := hstart ▸ ofFirst_sound p now source backoff c history
  have h0 : start.session.task.phase = .spawned := by rw [hstart]; rfl
  refine ⟨(hx.moved_or_thrown hs h0).resolve_left (by simp [hexit]), ?moved, ?thrown⟩
  case moved =>
    rintro ⟨u, hu, hloop, hux⟩
    have G : x.Guarded := hux.guarded (hu.sound hs) hloop.guarded
    constructor
    · obtain ⟨y, hy, hnow, hleft, -⟩ := G.exists_left ⟨exit, hexit⟩
      exact ⟨y, hy, hnow, hleft⟩
    · intro y hy hleft z hz
      have hys : y.manager.Sound := hy.sound (hx.sound hs)
      have hstop : y.session.cells.state = .stopped :=
        ((hy.guarded (hx.sound hs) G).marks hleft.1).resolve_left hleft.2
      have hstop : z.session.cells.state = .stopped := hz.stopped hys hstop
      have hexit : z.session.task.phase = .ended exit :=
        hz.ended hys (hy.ended (hx.sound hs) hexit)
      refine ⟨hstop, fun nanos => ?_⟩
      rw [Session.stopped_of_ended hexit, if_pos hstop]
  case thrown =>
    rintro ⟨u, v, hu, hspawned, huv, hvx⟩ z hxz
    have hwaits : u.Waits := by
      refine hu.induct hs (fun _ => ?_) Waits.advance fun _ _ _ hy => ?_
      · rw [hstart]
        exact ⟨rfl, nofun⟩
      · cases hy
    have huv' : Course u v := .single (.move ⟨.discard, trivial, huv⟩)
    have hz : Course start z := hx.trans hxz
    have hvz : Course v z := hvx.trans hxz
    have F : z.Forsaken :=
      hvz.forsaken (huv'.sound (hu.sound hs)) (hwaits.forsaken hspawned huv)
    have HO : z.HandsOver := by
      refine hz.induct hs ?_ HandsOver.advance fun _ hy _ => hy
      rw [hstart]
      exact launched_handsOver p now source backoff c history
    refine ⟨F.state, fun hreturned => ?_, fun nanos => ?_⟩
    · cases hstate : z.session.cells.state with
      | starting =>
        have hmark := HO hstate
        rw [hreturned] at hmark
        cases hmark
      | running => rfl
      | stopped => exact absurd hstate F.state
    · rw [Session.stopped_of_ended F.ended, if_neg F.state]

/-- A manager at rest, whose task is broken off where it waits. -/
def brokenOff : Chronicle (List (Line Nat)) Nat Backoff.Schedule :=
  (failing.after (fun _ _ => true) [.start, .task, .task, .task] (by decide +kernel)).broken "lost"

/-- The task of the same manager, thrown away at once. -/
def thrownAway : Chronicle (List (Line Nat)) Nat Backoff.Schedule :=
  (failing.step .discard).get (by decide +kernel)

def runningOn : Chronicle (List (Line Nat)) Nat Backoff.Schedule :=
  thrownAway.after (fun _ _ => true) [.start, .start] (by decide +kernel)

theorem course_runningOn : Course thrownAway runningOn :=
  Course.of_run (run_after (fun _ _ _ => trivial) _)

theorem course_thrownAway : Course failing thrownAway :=
  .single (.move ⟨.discard, trivial, (Option.some_get _).symm⟩)

theorem broken_off_stops :
    (∃ y, Run alone brokenOff y ∧ y.session.now = brokenOff.session.now ∧ y.HasLeft) ∧
      ∀ nanos, (runningOn.session.stopped nanos).1 = none := by
  have hstart : failing = launched _ _ _ _ _ _ := rfl
  let y := failing.after (fun _ _ => true) [.start, .task, .task, .task] (by decide +kernel)
  have hy : Course failing y := Course.of_run (run_after (fun _ _ _ => trivial) _)
  have hloop : y.InLoop := .of_wake (by decide +kernel)
  have hbreak : Course y brokenOff := .single (.breakOff "lost" hloop)
  have hgone : runningOn.session.task.phase = .ended .discarded :=
    Task.exit?_eq_some.1 (by decide +kernel)
  obtain ⟨-, hmoved, -⟩ := stopped_unless_thrown_away hstart (hy.trans hbreak) ⟨_, rfl⟩
  obtain ⟨-, -, hthrown⟩ := stopped_unless_thrown_away hstart
    (course_thrownAway.trans course_runningOn) ⟨_, hgone⟩
  refine ⟨(hmoved ⟨y, hy, hloop, hbreak⟩).1, (hthrown ?_ _ .refl).2.2⟩
  exact ⟨failing, thrownAway, .refl, rfl, (Option.some_get _).symm, course_runningOn⟩

/-- The task is gone, and the manager goes on to say that it is running. -/
theorem thrown_away_runs_on :
    (Course failing runningOn ∧ runningOn.HasLeft ∧ runningOn.session.cells.state = .running ∧
      ∀ nanos, (runningOn.session.stopped nanos).1 = none) ∧
    ¬∀ x, Course failing x → x.HasLeft → x.session.cells.state = .stopped := by
  have hcourse : Course failing runningOn := course_thrownAway.trans course_runningOn
  have hgone : runningOn.session.task.phase = .ended .discarded :=
    Task.exit?_eq_some.1 (by decide +kernel)
  have hquiet : runningOn.manager.taskAhead.isEmpty = true := by decide +kernel
  have hleft : runningOn.HasLeft := ⟨⟨_, hgone⟩, by simp [List.isEmpty_iff.1 hquiet]⟩
  have hstate : runningOn.session.cells.state = .running := by decide +kernel
  refine ⟨⟨hcourse, hleft, hstate, fun nanos => ?_⟩, fun h => ?_⟩
  · rw [Session.stopped_of_ended hgone, hstate]
    rfl
  · cases hstate.symm.trans (h _ hcourse hleft)

end Chronicle

end CredentialKeeper.Manager
