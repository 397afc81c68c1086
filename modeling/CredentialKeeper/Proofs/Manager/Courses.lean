import CredentialKeeper.Proofs.Manager.Traces

/-! # Courses

A task ends by itself, or the runtime throws it away, or its source or its strategy breaks off and
takes it along. A course (`Chronicle.Course`) is a run in which the task may also break off, at any
point of its loop. It does so once at most: a task that has ended does the rest of its last move
and nothing else (`Chronicle.Lingers`), so a course is a run, or a run up to a point where the task
breaks off with another one from there on (`Chronicle.Course.run_or_broke`). -/

namespace CredentialKeeper.Manager

variable {σ α β : Type}

theorem Task.Moves.not_ended {p : Plan σ α β} {now : Nat} {cells : Cells α} {t t' : Task σ α β}
    {ev : Option (Event α)} {effects : List (Effect α)} (M : t.Moves p now cells ev t' effects)
    (exit : Exit) : t.phase ≠ .ended exit := by
  cases M with
  | cancel _ h => obtain ⟨_, h⟩ | h | ⟨_, h⟩ := h <;> simp [h]
  | _ => simp [*]

namespace Chronicle
open Interleaving

variable {admits : Discipline σ α β} {x y z : Chronicle σ α β}

/-! ## After the end -/

/-- `y` is `x` after some of the rest of its task's last move and of what others do. -/
structure Lingers (x y : Chronicle σ α β) : Prop where
  log : y.log = x.log
  task : y.session.task = x.session.task
  ahead : ∀ e ∈ y.manager.taskAhead, e ∈ x.manager.taskAhead
  history : ∃ done, y.session.history = done ++ x.session.history ∧
    ∀ r ∈ done, r.2.isOutside = true ∨ r.2 ∈ x.manager.taskAhead

theorem Lingers.advance {exit : Exit} (hend : x.session.task.phase = .ended exit)
    (L : Lingers x y) (A : Advance admits y z) : Lingers x z := by
  obtain ⟨hlog, htask, hahead, done, hh, hdone⟩ := L
  rw [← htask] at hend
  cases A with
  | decide _ M => exact absurd hend (M.not_ended exit)
  | @perform e rest h =>
    refine ⟨hlog, htask, fun e' he' => hahead e' (h ▸ .tail _ he'), (y.session.now, e) :: done,
      congrArg (List.cons _) hh, fun r hr => ?_⟩
    rcases List.mem_cons.1 hr with rfl | hr
    · exact .inr (hahead e (h ▸ .head _))
    · exact hdone r hr
  | discard _ h D =>
    cases D with
    | early hs => rw [hend] at hs; cases hs
    | late => exact ⟨hlog, htask, by simp, done, hh, hdone⟩
    | midway _ he => exact absurd hend (he exit)
  | @others _ u es O =>
    refine ⟨hlog, O.task.trans htask, O.taskAhead ▸ hahead,
      (es.map (y.session.now, ·)).reverse ++ done, ?_, fun r hr => ?_⟩
    · rw [List.append_assoc, ← hh, ← Session.record_eq]
      exact O.history
    · rcases List.mem_append.1 hr with hr | hr
      · obtain ⟨e, he, rfl⟩ := List.mem_map.1 (List.mem_reverse.1 hr)
        exact .inl (O.outside e he)
      · exact hdone r hr
  | tick => exact ⟨hlog, htask, hahead, done, hh, hdone⟩

/-- A task that has ended does the rest of its last move and nothing else. -/
theorem Run.lingers (H : Run admits x y) (hx : x.manager.Sound)
    (h : ∃ exit, x.session.task.phase = .ended exit) : Lingers x y := by
  obtain ⟨exit, hend⟩ := h
  exact H.induct hx ⟨rfl, rfl, fun _ h => h, [], rfl, by simp⟩ fun L A => L.advance hend A

theorem Run.of_ended (H : Run admits x y) (hx : x.manager.Sound)
    (h : ∃ exit, x.session.task.phase = .ended exit) :
    y.log = x.log ∧ ∀ e ∈ effectsTo x y, e.isOutside = true ∨ e ∈ x.manager.taskAhead := by
  have L := H.lingers hx h
  obtain ⟨done, hh, hdone⟩ := L.history
  refine ⟨L.log, fun e he => ?_⟩
  rw [effectsTo_eq hh, List.mem_reverse] at he
  obtain ⟨r, hr, rfl⟩ := List.mem_map.1 he
  exact hdone r hr

/-! ## Breaking off -/

/-- The task has entered its loop and not left it. -/
structure InLoop (x : Chronicle σ α β) : Prop where
  moved : x.session.task.phase ≠ .spawned
  goesOn : ∀ exit, x.session.task.phase ≠ .ended exit

/-- The source or the strategy breaks off, wherever the task stands. Nothing is left of the task's
move, and the manager is about to be marked as stopped. -/
def broken (x : Chronicle σ α β) (message : String) : Chronicle σ α β :=
  ⟨{ x.manager with
      session := { x.session with
        task := { x.session.task with phase := .ended (.crashed message) } }
      taskAhead := closing x.session.plan.source.name },
    (x.session.now, .broke message []) :: x.log⟩

/-- What may happen at a point of a course. -/
inductive Happens (x : Chronicle σ α β) : Chronicle σ α β → Prop
  | move {y : Chronicle σ α β} (N : Next free x y) : Happens x y
  | breakOff (message : String) (h : x.InLoop) : Happens x (x.broken message)

abbrev Course (x y : Chronicle σ α β) : Prop := Relation.ReflTransGen Happens x y

/-- On the way from `x` to `y` the task breaks off, and `P` holds where it does. -/
def BreaksOff (P : Chronicle σ α β → Prop) (x y : Chronicle σ α β) : Prop :=
  ∃ u message, Run free x u ∧ u.InLoop ∧ P u ∧ Run free (u.broken message) y

theorem InLoop.of_wake (h : x.session.task.wake?.isSome) : x.InLoop := by
  obtain ⟨wake, hwake⟩ := Option.isSome_iff_exists.1 h
  unfold Task.wake? at hwake
  split at hwake
  next hphase => exact ⟨by simp [hphase], by simp [hphase]⟩
  next hphase => exact ⟨by simp [hphase], by simp [hphase]⟩
  next => cases hwake

theorem Course.of_run (H : Run admits x y) : Course x y := by
  refine Relation.ReflTransGen.mono ?_ _ _ (Run.mono (fun _ _ _ => trivial) H : Run free x y)
  exact fun _ _ N => .move N

theorem Course.induct {P : Chronicle σ α β → Prop} (H : Course x y) (hx : x.manager.Sound)
    (h0 : P x) (hmove : ∀ {y z}, P y → Advance free y z → P z)
    (hbreak : ∀ {y} message, P y → y.InLoop → P (y.broken message)) : P y := by
  have : y.manager.Sound ∧ P y := by
    induction H with
    | refl => exact ⟨hx, h0⟩
    | tail _ H ih =>
      obtain ⟨hs, hP⟩ := ih
      cases H with
      | move N =>
        have A := N.advance hs
        exact ⟨A.sound hs, hmove hP A⟩
      | breakOff message h => exact ⟨hs, hbreak message hP h⟩
  exact this.2

theorem Course.sound (H : Course x y) (hx : x.manager.Sound) : y.manager.Sound :=
  H.induct hx hx (fun hy A => A.sound hy) fun _ hy _ => hy

/-- To break off is the task's last event, and changes no cell. -/
theorem grows_broken (x : Chronicle σ α β) (message : String) : Grows x (x.broken message) where
  plan := rfl
  history := ⟨[], rfl⟩
  log := ⟨[(x.session.now, .broke message [])], rfl⟩
  cells := by rw [show effectsTo x (x.broken message) = [] from effectsTo_self x]; rfl

theorem Course.grows (H : Course x y) (hx : x.manager.Sound) : Grows x y :=
  H.induct hx (.refl x) (fun G A => G.trans A.grows) fun message G _ =>
    G.trans (grows_broken _ message)

/-- A task that has ended stays so. -/
theorem Course.ended {exit : Exit} (H : Course x y) (hx : x.manager.Sound)
    (h : x.session.task.phase = .ended exit) : y.session.task.phase = .ended exit := by
  refine H.induct hx h (fun hy A => ?_) fun _ hy hloop => absurd hy (hloop.goesOn exit)
  have L : Lingers _ _ := .advance hy ⟨rfl, rfl, fun _ h => h, [], rfl, by simp⟩ A
  rw [L.task, hy]

/-- A task breaks off once at most. -/
theorem Course.run_or_broke (H : Course x y) (hx : x.manager.Sound) :
    Run free x y ∨ BreaksOff (fun _ => True) x y := by
  induction H with
  | refl => exact .inl .refl
  | @tail y z _ S ih =>
    rcases ih with H | ⟨u, message, hu, hloop, -, huy⟩
    · cases S with
      | move N => exact .inl (H.tail N)
      | breakOff message h => exact .inr ⟨y, message, H, h, trivial, .refl⟩
    · cases S with
      | move N => exact .inr ⟨u, message, hu, hloop, trivial, huy.tail N⟩
      | breakOff _ h =>
        have L := huy.lingers (hu.sound hx) ⟨_, rfl⟩
        exact absurd (congrArg Task.phase L.task) (h.goesOn _)

theorem Course.run_of_ended (H : Course x y) (hx : x.manager.Sound)
    (h : ∃ exit, x.session.task.phase = .ended exit) : Run free x y := by
  refine (H.run_or_broke hx).resolve_right ?_
  rintro ⟨u, message, hu, hloop, -⟩
  obtain ⟨exit, hexit⟩ := h
  exact hloop.goesOn exit ((hu.lingers hx ⟨exit, hexit⟩).task ▸ hexit)

end Chronicle

end CredentialKeeper.Manager
