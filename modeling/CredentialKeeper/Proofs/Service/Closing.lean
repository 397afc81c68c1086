import CredentialKeeper.Proofs.Service.Moves

/-! # Shutting the managers down

A service that has come up shuts its managers down before it ends. How far it has got with each of
them is told by a call of shutdown, and what holds of a manager by then is `Session.Heeds`; nobody
else has to do with it, so its task's handle is there for the service. From the moment at which the
service has a reason to end, the way to the end has a bounded number of moves that it waits for
(`Service.movesToEnd`), one of which can always be made (`Watched.goes_on`). -/

namespace CredentialKeeper

open Manager

variable {σ α β : Type}

/-! ## A manager that is shut down -/

namespace Manager.Session

variable {s t : Session σ α β} {call call' : ShutdownCall}

/-- A call of shutdown has got so far with a manager that nobody else has to do with. -/
structure Heeds (s : Session σ α β) (call : ShutdownCall) : Prop where
  handle : call = .called ∨ call = .asked → s.hasHandle = true
  cancelled : call ≠ .called → s.cells.isCancelled = true
  ended : call = .returned → ∃ exit, s.task.phase = .ended exit

theorem Heeds.lives (h : s.Heeds call) (H : s.Lives t) : t.Heeds call := by
  obtain ⟨-, hhandle, hcancelled⟩ := H.frame
  refine ⟨fun hc => hhandle.trans (h.handle hc), fun hc => hcancelled.trans (h.cancelled hc),
    fun hc => ?_⟩
  obtain ⟨exit, hexit⟩ := h.ended hc
  exact ⟨exit, (Goes.lives H).ended hexit⟩

theorem Heeds.drop (h : s.Heeds .returned) : s.drop.Heeds .returned := by
  unfold Session.drop
  split
  next => exact ⟨by simp, fun _ => rfl, fun _ => h.ended rfl⟩
  next => exact h

/-- The moves that a call of shutdown and the task it waits for have yet to make, at most. -/
def closingLeft (s : Session σ α β) : ShutdownCall → Nat
  | .called => 7
  | .asked => 2 + Chronicle.movesLeft s.now s.cells s.task
  | .joining => 1 + Chronicle.movesLeft s.now s.cells s.task
  | .returned => 0

theorem movesLeft_le (now : Nat) {cells : Cells α} (h : cells.isCancelled = true)
    (t : Task σ α β) : Chronicle.movesLeft now cells t ≤ 4 := by
  unfold Chronicle.movesLeft
  split
  next => omega
  next => rw [if_pos h]; omega
  all_goals omega

theorem movesLeft_congr {now now' : Nat} {cells : Cells α} {t t' : Task σ α β}
    (h : cells.isCancelled = true) (ht : t.phase = t'.phase) :
    Chronicle.movesLeft now cells t = Chronicle.movesLeft now' cells t' := by
  simp only [Chronicle.movesLeft, ht, h, if_true]

theorem Heeds.movesLeft_le (h : s.Heeds call) (hne : call ≠ .called) (H : s.Lives t) :
    Chronicle.movesLeft t.now t.cells t.task ≤ Chronicle.movesLeft s.now s.cells s.task := by
  have hc := h.cancelled hne
  cases H with
  | works M =>
    refine (Chronicle.movesLeft_applyAll M.not_cancelled).le.trans ?_
    exact (Chronicle.movesLeft_lt (.inl hc) M).le
  | waits => exact (movesLeft_congr hc rfl).le
  | looks => exact (movesLeft_congr hc rfl).le

theorem Heeds.closingLeft_le (h : s.Heeds call) (H : s.Lives t) :
    t.closingLeft call ≤ s.closingLeft call := by
  cases call with
  | asked => exact Nat.add_le_add_left (h.movesLeft_le (by simp) H) 2
  | joining => exact Nat.add_le_add_left (h.movesLeft_le (by simp) H) 1
  | _ => exact Nat.le_refl _

/-- The task that is waited for comes closer to its end with every move. -/
theorem Heeds.closingLeft_lt (h : s.Heeds .joining) {ev : Option (Event α)} {t : Task σ α β}
    {es : List (Effect α)} (M : s.task.Moves s.plan s.now s.cells ev t es) :
    (({ s with task := t }).perform es).closingLeft .joining < s.closingLeft .joining := by
  refine Nat.add_lt_add_left ((Chronicle.movesLeft_applyAll M.not_cancelled).le.trans_lt ?_) 1
  exact Chronicle.movesLeft_lt (.inl (h.cancelled (by simp))) M

end Manager.Session

/-! ## A gateway that is shut down -/

namespace Service.Station

variable {st st' : Station σ α β} {now : Nat} {call call' : ShutdownCall}

/-- What holds of the manager, if there is one. -/
def Each (P : Session σ α β → Prop) : Station σ α β → Prop
  | .manned s => P s
  | _ => True

theorem Raises.each {P : Session σ α β → Prop} (H : st.Raises now st')
    (hfirst : ∀ p source backoff c history, P (.ofFirst p now source backoff c history)) :
    st'.Each P := by
  cases H with
  | hires => exact hfirst ..
  | _ => trivial

theorem Goes.each {P : Session σ α β → Prop} (H : st.Goes now st')
    (hfirst : ∀ p source backoff c history, P (.ofFirst p now source backoff c history))
    (hstep : ∀ {s t : Session σ α β}, s.Goes t → P s → P t) (h : st.Each P) : st'.Each P := by
  cases H with
  | same => exact h
  | raises H => exact H.each hfirst
  | looks => trivial
  | manned H => exact hstep H h

theorem Goes.vacant_iff (H : st.Goes now st') : st' = .vacant ↔ st = .vacant := by
  cases H with
  | raises H => cases H <;> simp
  | _ => simp

/-- The gateway is up, and a call of shutdown has got so far with its manager, if it has one. -/
structure Heeds (st : Station σ α β) (call : ShutdownCall) : Prop where
  up : st.isUp = true
  each : st.Each (·.Heeds call)

theorem Heeds.cases (h : st.Heeds call) : st = .vacant ∨ ∃ s, st = .manned s ∧ s.Heeds call := by
  obtain ⟨hup, heach⟩ := h
  cases st with
  | vacant => exact .inl rfl
  | manned s => exact .inr ⟨s, rfl, heach⟩
  | _ => cases hup

theorem heeds_vacant (call : ShutdownCall) : (vacant : Station σ α β).Heeds call := ⟨rfl, trivial⟩

theorem Heeds.works (h : st.Heeds call) (H : st.Works st') : st'.Heeds call := by
  cases H with
  | mk M => exact ⟨rfl, Session.Heeds.lives h.each (.works M)⟩

theorem Heeds.setNow (h : st.Heeds call) (n : Nat) : (st.setNow n).Heeds call := by
  obtain rfl | ⟨s, rfl, hs⟩ := h.cases
  · exact heeds_vacant _
  · exact ⟨rfl, hs.lives (.waits n)⟩

theorem Heeds.change (h : st.Heeds call) (f : σ → σ) : (st.change f).Heeds call := by
  obtain rfl | ⟨s, rfl, hs⟩ := h.cases
  · exact heeds_vacant _
  · exact ⟨rfl, hs.lives (.looks f)⟩

theorem Heeds.drop (h : st.Heeds .returned) : st.drop.Heeds .returned := by
  obtain rfl | ⟨s, rfl, hs⟩ := h.cases
  · exact heeds_vacant _
  · exact ⟨rfl, hs.drop⟩

theorem Heeds.closes (h : st.Heeds call) (H : st.Closes call st' call') : st'.Heeds call' := by
  cases H with
  | absent hnone =>
    obtain rfl | ⟨s, rfl, -⟩ := h.cases
    · exact heeds_vacant _
    · exact absurd rfl (hnone s)
  | asks s =>
    have hs : s.Heeds .called := h.each
    refine ⟨rfl, fun _ => hs.handle (.inl rfl), fun _ => ?_, by simp⟩
    show (s.cells.applyAll _).isCancelled = true
    rw [Chronicle.cells_of_stopEffects]
  | @takes s =>
    have hs : s.Heeds .asked := h.each
    exact ⟨rfl, by simp, fun _ => hs.cancelled (by simp), by simp⟩
  | @misses s hhandle =>
    have hs : s.Heeds .asked := h.each
    rw [hs.handle (.inr rfl)] at hhandle
    cases hhandle
  | @joins s exit es hend =>
    have hs : s.Heeds .joining := h.each
    refine ⟨rfl, by simp, fun _ => ?_, fun _ => ⟨exit, hend⟩⟩
    exact (Cells.isCancelled_applyAll ..).2 (.inl (hs.cancelled (by simp)))

def closingLeft (call : ShutdownCall) : Station σ α β → Nat
  | .manned s => s.closingLeft call
  | _ => if call = .returned then 0 else 1

theorem Heeds.closingLeft_le (h : st.Heeds call) : st.closingLeft call ≤ 7 := by
  obtain rfl | ⟨s, rfl, hs⟩ := h.cases
  · simp only [closingLeft]
    split <;> omega
  · cases call with
    | called => exact Nat.le_refl _
    | returned => exact Nat.zero_le _
    | asked =>
      have hle := Session.movesLeft_le s.now (hs.cancelled (by simp)) s.task
      exact (Nat.add_le_add_left hle 2).trans (by omega)
    | joining =>
      have hle := Session.movesLeft_le s.now (hs.cancelled (by simp)) s.task
      exact (Nat.add_le_add_left hle 1).trans (by omega)

theorem closingLeft_called_le (st : Station σ α β) : st.closingLeft .called ≤ 7 := by
  cases st <;> simp [closingLeft, Session.closingLeft]

theorem closingLeft_returned (st : Station σ α β) : st.closingLeft .returned = 0 := by
  cases st <;> rfl

theorem Heeds.closingLeft_works_le (h : st.Heeds call) (H : st.Works st') :
    st'.closingLeft call ≤ st.closingLeft call := by
  cases H with
  | mk M => exact Session.Heeds.closingLeft_le h.each (.works M)

theorem Heeds.closingLeft_works_lt (h : st.Heeds .joining) (H : st.Works st') :
    st'.closingLeft .joining < st.closingLeft .joining := by
  cases H with
  | mk M => exact Session.Heeds.closingLeft_lt h.each M

theorem Heeds.closingLeft_setNow_le (h : st.Heeds call) (n : Nat) :
    (st.setNow n).closingLeft call ≤ st.closingLeft call := by
  obtain rfl | ⟨s, rfl, hs⟩ := h.cases
  · exact Nat.le_refl _
  · exact hs.closingLeft_le (.waits n)

theorem Heeds.closingLeft_change_le (h : st.Heeds call) (f : σ → σ) :
    (st.change f).closingLeft call ≤ st.closingLeft call := by
  obtain rfl | ⟨s, rfl, hs⟩ := h.cases
  · exact Nat.le_refl _
  · exact hs.closingLeft_le (.looks f)

theorem Heeds.closingLeft_lt (h : st.Heeds call) (hne : call ≠ .returned)
    (H : st.Closes call st' call') : st'.closingLeft call' < st.closingLeft call := by
  cases H with
  | absent hnone =>
    rw [closingLeft_returned]
    obtain rfl | ⟨s, rfl, -⟩ := h.cases
    · simp [closingLeft, hne]
    · exact absurd rfl (hnone s)
  | asks s =>
    have hc : (s.perform (stopEffects s.plan.source.name s.cells)).cells.isCancelled = true := by
      show (s.cells.applyAll _).isCancelled = true
      rw [Chronicle.cells_of_stopEffects]
    refine (Nat.add_le_add_left (Session.movesLeft_le _ hc s.task) 2).trans_lt ?_
    show 6 < 7
    omega
  | takes => exact Nat.add_lt_add_right (by omega) _
  | misses => show 0 < 2 + _; omega
  | joins => show 0 < 1 + _; omega

/-- A call of shutdown can go on, or else it waits for a task that can. -/
theorem Heeds.goes_on (h : st.Heeds call) (hne : call ≠ .returned) :
    (st.close call).isSome ∨ call = .joining ∧ st.work.isSome := by
  obtain rfl | ⟨s, rfl, hs⟩ := h.cases
  · exact .inl (by simp [close, hne])
  cases call with
  | called => exact .inl rfl
  | asked => exact .inl (by cases hh : s.hasHandle <;> simp [close, ShutdownCall.step])
  | joining =>
    by_cases hmove : s.task.step s.plan s.now s.cells = none
    · obtain ⟨exit, hexit⟩ := Task.ended_of_idle hmove (hs.cancelled (by simp))
      refine .inl ?_
      cases exit <;> simp [close, ShutdownCall.step, Task.exit?, hexit]
    · refine .inr ⟨rfl, ?_⟩
      simpa [work, Session.move, Option.isSome_iff_ne_none] using hmove
  | returned => exact absurd rfl hne

end Service.Station

namespace Service

variable {σ₁ α₁ β₁ σ₂ α₂ β₂ : Type} {s t u : Service σ₁ α₁ β₁ σ₂ α₂ β₂} {l : Label σ₁ σ₂}
  {notices : List Log.Notice}

/-! ## The service once it is up -/

/-- How far the calls of shutdown have got at a stage from which the service does not go back to its
start. -/
def Stage.calls? : Stage → Option (ShutdownCall × ShutdownCall)
  | .up | .watching => some (.called, .called)
  | .closing _ first second => some (first, second)
  | .ended _ => some (.returned, .returned)
  | _ => none

/-- The service is up, or has been, and its managers heed the calls of shutdown. -/
def Watched (s : Service σ₁ α₁ β₁ σ₂ α₂ β₂) : Prop :=
  ∃ first second, s.stage.calls? = some (first, second) ∧ s.first.Heeds first ∧
    s.second.Heeds second

theorem Watched.moves (W : s.Watched) (M : s.Moves l t) : t.Watched := by
  obtain ⟨first, second, hcalls, hfirst, hsecond⟩ := W
  cases M with
  | raiseFirst h | raiseSecond h | fails _ h | crashes _ h | rises h =>
    rw [h] at hcalls
    cases hcalls
  | watches h | selects h =>
    rw [h] at hcalls
    cases hcalls
    exact ⟨_, _, rfl, hfirst, hsecond⟩
  | closesFirst h _ hc =>
    rw [h] at hcalls
    cases hcalls
    exact ⟨_, _, rfl, hfirst.closes hc, hsecond⟩
  | closesSecond h _ hc =>
    rw [h] at hcalls
    cases hcalls
    exact ⟨_, _, rfl, hfirst, hsecond.closes hc⟩
  | finishes h =>
    rw [h] at hcalls
    cases hcalls
    exact ⟨_, _, rfl, hfirst.drop, hsecond.drop⟩
  | worksFirst H => exact ⟨_, _, hcalls, hfirst.works H, hsecond⟩
  | worksSecond H => exact ⟨_, _, hcalls, hfirst, hsecond.works H⟩
  | ticks => exact ⟨_, _, hcalls, hfirst.setNow _, hsecond.setNow _⟩
  | interrupted => exact ⟨_, _, hcalls, hfirst, hsecond⟩
  | changes => exact ⟨_, _, hcalls, hfirst.change _, hsecond.change _⟩

theorem Watched.run (W : s.Watched) (R : Run s t) : t.Watched := R.induct W fun W M => W.moves M

/-! ## The way to the end -/

/-- There is a reason for the service to end. -/
def IsDue (s : Service σ₁ α₁ β₁ σ₂ α₂ β₂) : Prop :=
  s.first.isStopped = true ∨ s.second.isStopped = true ∨ s.isInterrupted = true

theorem Station.Goes.isStopped {σ α β : Type} {st st' : Station σ α β} {now : Nat}
    (H : st.Goes now st') (h : st.isStopped = true) : st'.isStopped = true := by
  cases H with
  | manned H =>
    simp only [Station.isStopped, beq_iff_eq] at h ⊢
    exact H.stopped h
  | same => exact h
  | raises H => cases H <;> cases h
  | looks => cases h

theorem IsDue.moves (D : s.IsDue) (M : s.Moves l t) : t.IsDue :=
  D.imp M.first_goes.isStopped (.imp M.second_goes.isStopped M.isInterrupted)

/-- The moves that the service waits for: its own, and those of the task that it joins. -/
inductive Awaits (s : Service σ₁ α₁ β₁ σ₂ α₂ β₂) : Label σ₁ σ₂ → Prop
  | watch (h : s.stage = .up) : Awaits s .main
  | select (h : s.stage = .watching) (branch : Branch) : Awaits s (.select branch)
  | close {ending : Ending} {first second : ShutdownCall}
      (h : s.stage = .closing ending first second) : Awaits s .main
  | joinFirst {ending : Ending} {second : ShutdownCall}
      (h : s.stage = .closing ending .joining second) : Awaits s .firstTask
  | joinSecond {ending : Ending} (h : s.stage = .closing ending .returned .joining) :
      Awaits s .secondTask

/-- The awaited moves to the end, at most. -/
def movesToEnd (s : Service σ₁ α₁ β₁ σ₂ α₂ β₂) : Nat :=
  match s.stage with
  | .up => 17
  | .watching => 16
  | .closing _ first second => 1 + s.first.closingLeft first + s.second.closingLeft second
  | _ => 0

/-- A move that leaves the stage as it is does not lead away from the end if it leads neither
gateway away from it. -/
theorem movesToEnd_le (hstage : t.stage = s.stage)
    (hfirst : ∀ ending first second, s.stage = .closing ending first second →
      t.first.closingLeft first ≤ s.first.closingLeft first)
    (hsecond : ∀ ending first second, s.stage = .closing ending first second →
      t.second.closingLeft second ≤ s.second.closingLeft second) :
    t.movesToEnd ≤ s.movesToEnd := by
  unfold movesToEnd
  rw [hstage]
  split
  case h_3 ending first second h =>
    exact Nat.add_le_add (Nat.add_le_add_left (hfirst _ _ _ h) 1) (hsecond _ _ _ h)
  all_goals exact Nat.le_refl _

theorem Watched.heeds {ending : Ending} {first second : ShutdownCall} (W : s.Watched)
    (h : s.stage = .closing ending first second) :
    s.first.Heeds first ∧ s.second.Heeds second := by
  obtain ⟨first', second', hcalls, hfirst, hsecond⟩ := W
  rw [h] at hcalls
  cases hcalls
  exact ⟨hfirst, hsecond⟩

/-- No move leads away from the end, and those that are awaited lead towards it. -/
theorem Watched.movesToEnd (W : s.Watched) (M : s.Moves l t) :
    t.movesToEnd ≤ s.movesToEnd ∧ (s.Awaits l → t.movesToEnd < s.movesToEnd) := by
  -- what is so for a move that gets closer
  have hless (h : t.movesToEnd < s.movesToEnd) :
      t.movesToEnd ≤ s.movesToEnd ∧ (s.Awaits l → t.movesToEnd < s.movesToEnd) :=
    ⟨h.le, fun _ => h⟩
  cases M with
  | raiseFirst h | raiseSecond h | fails _ h | crashes _ h | rises h =>
    obtain ⟨_, _, hcalls, -⟩ := W
    rw [h] at hcalls
    cases hcalls
  | watches h =>
    refine hless ?_
    simp only [Service.movesToEnd, h]
    omega
  | selects h =>
    refine hless ?_
    have hfirst := s.first.closingLeft_called_le
    have hsecond := s.second.closingLeft_called_le
    simp only [Service.movesToEnd, h]
    omega
  | closesFirst h hne hc =>
    refine hless ?_
    have hlt := (W.heeds h).1.closingLeft_lt hne hc
    simp only [Service.movesToEnd, h]
    omega
  | closesSecond h hne hc =>
    refine hless ?_
    have hlt := (W.heeds h).2.closingLeft_lt hne hc
    simp only [Service.movesToEnd, h]
    omega
  | finishes h =>
    refine hless ?_
    simp only [Service.movesToEnd, h, finish]
    omega
  | worksFirst H =>
    refine ⟨movesToEnd_le rfl (fun _ _ _ h => (W.heeds h).1.closingLeft_works_le H)
      fun _ _ _ _ => Nat.le_refl _, fun ha => ?_⟩
    cases ha with
    | joinFirst h =>
      have hlt := (W.heeds h).1.closingLeft_works_lt H
      simp only [Service.movesToEnd, h]
      omega
  | worksSecond H =>
    refine ⟨movesToEnd_le rfl (fun _ _ _ _ => Nat.le_refl _)
      fun _ _ _ h => (W.heeds h).2.closingLeft_works_le H, fun ha => ?_⟩
    cases ha with
    | joinSecond h =>
      have hlt := (W.heeds h).2.closingLeft_works_lt H
      simp only [Service.movesToEnd, h]
      omega
  | ticks nanos =>
    refine ⟨movesToEnd_le rfl (fun _ _ _ h => (W.heeds h).1.closingLeft_setNow_le _)
      fun _ _ _ h => (W.heeds h).2.closingLeft_setNow_le _, fun ha => by cases ha⟩
  | interrupted =>
    exact ⟨movesToEnd_le rfl (fun _ _ _ _ => Nat.le_refl _) fun _ _ _ _ => Nat.le_refl _,
      fun ha => by cases ha⟩
  | changes f g =>
    refine ⟨movesToEnd_le rfl (fun _ _ _ h => (W.heeds h).1.closingLeft_change_le _)
      fun _ _ _ h => (W.heeds h).2.closingLeft_change_le _, fun ha => by cases ha⟩

/-- A service that has a reason to end can always make a move that is awaited. -/
theorem Watched.goes_on (W : s.Watched) (D : s.IsDue) :
    (∃ result, s.stage = .ended result) ∨ ∃ l, s.Awaits l ∧ (s.step l).isSome := by
  obtain ⟨first, second, hcalls, hfirst, hsecond⟩ := id W
  cases h : s.stage with
  | opening | crashed =>
    rw [h] at hcalls
    cases hcalls
  | up => exact .inr ⟨.main, .watch h, by simp [step, h]⟩
  | watching =>
    obtain hstop | hstop | hstop := D
    · exact .inr ⟨.select .first, .select h _, by simp [step, h, selectMove, hstop]⟩
    · exact .inr ⟨.select .second, .select h _, by simp [step, h, selectMove, hstop]⟩
    · exact .inr ⟨.select .interrupt, .select h _, by simp [step, h, selectMove, hstop]⟩
  | ended result => exact .inl ⟨result, rfl⟩
  | closing ending first' second' =>
    rw [h] at hcalls
    cases hcalls
    refine .inr ?_
    by_cases hne : first = .returned
    · subst hne
      by_cases hne : second = .returned
      · subst hne
        exact ⟨.main, .close h, by simp [step, h, closeMove]⟩
      · obtain hclose | ⟨rfl, hwork⟩ := hsecond.goes_on hne
        · exact ⟨.main, .close h, by simpa [step, h, closeMove, hne] using hclose⟩
        · exact ⟨.secondTask, .joinSecond h, by simpa [step] using hwork⟩
    · obtain hclose | ⟨rfl, hwork⟩ := hfirst.goes_on hne
      · exact ⟨.main, .close h, by simpa [step, h, closeMove, hne] using hclose⟩
      · exact ⟨.firstTask, .joinFirst h, by simpa [step] using hwork⟩

/-- A run with so many awaited moves. -/
inductive Trail (s : Service σ₁ α₁ β₁ σ₂ α₂ β₂) : Nat → Service σ₁ α₁ β₁ σ₂ α₂ β₂ → Prop
  | start : Trail s 0 s
  | awaited {n : Nat} {t u : Service σ₁ α₁ β₁ σ₂ α₂ β₂} {l : Label σ₁ σ₂}
      {notices : List Log.Notice} (T : Trail s n t) (ha : t.Awaits l)
      (h : t.step l = some (u, notices)) : Trail s (n + 1) u
  | other {n : Nat} {t u : Service σ₁ α₁ β₁ σ₂ α₂ β₂} {l : Label σ₁ σ₂}
      {notices : List Log.Notice} (T : Trail s n t) (ha : ¬t.Awaits l)
      (h : t.step l = some (u, notices)) : Trail s n u

theorem Trail.run {n : Nat} (T : s.Trail n t) : Run s t := by
  induction T with
  | start => exact .refl
  | awaited _ _ h ih => exact ih.tail ⟨_, _, h⟩
  | other _ _ h ih => exact ih.tail ⟨_, _, h⟩

theorem Trail.le {n : Nat} (T : s.Trail n t) (W : s.Watched) :
    n + t.movesToEnd ≤ s.movesToEnd := by
  induction T with
  | start => exact (Nat.zero_add _).le
  | awaited T ha h ih =>
    have hlt := ((W.run T.run).movesToEnd (step_moves h)).2 ha
    omega
  | other T _ h ih =>
    have hle := ((W.run T.run).movesToEnd (step_moves h)).1
    omega

theorem Watched.movesToEnd_le (W : s.Watched) : s.movesToEnd ≤ 17 := by
  unfold Service.movesToEnd
  split
  case h_3 ending first second h =>
    have hfirst := (W.heeds h).1.closingLeft_le
    have hsecond := (W.heeds h).2.closingLeft_le
    omega
  all_goals omega

end Service

end CredentialKeeper
