import CredentialKeeper.Proofs.Service.Closing

/-! # How the service ends

Once all managers are up, the service waits for the first of them to stop or for an interrupt, and
what it returns follows from that alone (`Service.Explains`). A start that fails ends the service at
once, and the manager that is there already goes away with it (`Rising.fails`). -/

namespace CredentialKeeper

open Manager

namespace Service

variable {σ α β : Type} {σ₁ α₁ β₁ σ₂ α₂ β₂ : Type} {s t u : Service σ₁ α₁ β₁ σ₂ α₂ β₂}
  {l : Label σ₁ σ₂} {notices : List Log.Notice}

/-! ## What the service returns -/

/-- The end of the gateway's manager explains what the service returns: the manager has given up,
or it has ended without a final error. -/
inductive Station.Explains : Station σ α β → Except Fault Unit → Prop
  | gaveUp {m : Session σ α β} {failures : Nat} {elapsed : Span}
      (h : m.task.phase =
        .ended (.gaveUp (.backoffExhausted m.plan.source.name failures elapsed))) :
      Explains (.manned m)
        (.error (.exhausted (.backoffExhausted m.plan.source.name failures elapsed)))
  | quietly {m : Session σ α β} {exit : Exit} (h : m.task.phase = .ended exit)
      (hfatal : m.cells.fatal = none) : Explains (.manned m) (.error .stoppedUnexpectedly)

theorem Station.explains {st : Station σ α β} (I : st.Each Session.InStep)
    (h : st.isStopped = true) : st.Explains (Ending.ofFatal st.fatal?).result.1 := by
  cases st with
  | manned m =>
    have I : m.InStep := I
    have hstate : m.cells.state = .stopped := by simpa [Station.isStopped] using h
    cases hfatal : m.cells.fatal with
    | none =>
      obtain ⟨exit, hexit⟩ := I.stopped.1 hstate
      rw [show Station.fatal? (.manned m) = none from hfatal]
      exact .quietly hexit hfatal
    | some e =>
      have hphase := (I.fatal e).1 hfatal
      obtain ⟨failures, elapsed, rfl⟩ := I.named e hphase
      rw [show Station.fatal? (.manned m) = some _ from hfatal]
      exact .gaveUp hphase
  | _ => cases h

theorem Station.Explains.error {st : Station σ α β} {result : Except Fault Unit}
    (h : st.Explains result) : ∃ fault, result = .error fault := by
  cases h <;> exact ⟨_, rfl⟩

/-- The end of the service's wait explains what the service returns. -/
def Explains (s : Service σ₁ α₁ β₁ σ₂ α₂ β₂) : Branch → Except Fault Unit → Prop
  | .first, result => s.first.Explains result
  | .second, result => s.second.Explains result
  | .interrupt, result => s.isInterrupted = true ∧ result = .ok ()

theorem Explains.error {branch : Branch} {result : Except Fault Unit}
    (h : s.Explains branch result) (hquiet : s.isInterrupted ≠ true) :
    ∃ fault, result = .error fault := by
  cases branch with
  | first => exact Station.Explains.error h
  | second => exact Station.Explains.error h
  | interrupt => exact absurd h.1 hquiet

/-- All managers are in step. -/
def InStep (s : Service σ₁ α₁ β₁ σ₂ α₂ β₂) : Prop :=
  s.first.Each Session.InStep ∧ s.second.Each Session.InStep

theorem InStep.moves (I : s.InStep) (M : s.Moves l t) : t.InStep :=
  ⟨M.first_goes.each (fun _ _ _ _ _ => Session.ofFirst_inStep ..) Session.Goes.inStep I.1,
    M.second_goes.each (fun _ _ _ _ _ => Session.ofFirst_inStep ..) Session.Goes.inStep I.2⟩

theorem InStep.run (I : s.InStep) (R : Run s t) : t.InStep := R.induct I fun I M => I.moves M

theorem InStep.selects {branch : Branch} {ending : Ending} (I : s.InStep)
    (h : s.selectMove branch = some (ending, notices)) : s.Explains branch ending.result.1 := by
  cases branch <;> simp only [selectMove, Option.ite_none_right_eq_some] at h <;>
    obtain ⟨hstop, heq⟩ := h <;> cases heq
  · exact Station.explains I.1 hstop
  · exact Station.explains I.2 hstop
  · exact ⟨hstop, rfl⟩

/-- The service's wait has once ended so that it returns this. -/
def Chose (s t : Service σ₁ α₁ β₁ σ₂ α₂ β₂) (result : Except Fault Unit) : Prop :=
  ∃ u v branch notices, Run s u ∧ u.step (.select branch) = some (v, notices) ∧ Run v t ∧
    u.Explains branch result

theorem Chose.tail {result : Except Fault Unit} (C : s.Chose t result) (N : Next t u) :
    s.Chose u result := by
  obtain ⟨v, w, branch, notices, hv, hw, R, hexplains⟩ := C
  exact ⟨v, w, branch, notices, hv, hw, R.tail N, hexplains⟩

/-- The service closes only after its wait has ended, and returns what follows from that. -/
def Settled (s t : Service σ₁ α₁ β₁ σ₂ α₂ β₂) : Prop :=
  (∀ ending first second, t.stage = .closing ending first second → s.Chose t ending.result.1) ∧
  ∀ result, t.stage = .ended result → s.Chose t result

theorem Settled.tail (W : t.Watched) (I : t.InStep) (R : Run s t) (S : s.Settled t)
    (N : Next t u) : s.Settled u := by
  obtain ⟨l, notices, hu⟩ := id N
  obtain ⟨hclosing, hended⟩ := S
  -- a move that leaves the stage as it is
  have hsame (hstage : u.stage = t.stage) : s.Settled u := by
    exact ⟨fun ending first second h => (hclosing _ _ _ (hstage ▸ h)).tail N,
      fun result h => (hended _ (hstage ▸ h)).tail N⟩
  cases step_moves hu with
  | raiseFirst h | raiseSecond h | fails _ h | crashes _ h | rises h =>
    obtain ⟨_, _, hcalls, -⟩ := W
    rw [h] at hcalls
    cases hcalls
  | watches => exact ⟨by simp, by simp⟩
  | selects _ hs =>
    refine ⟨fun ending first second h => ?_, by simp⟩
    cases h
    exact ⟨_, _, _, _, R, hu, .refl, I.selects hs⟩
  | closesFirst h | closesSecond h =>
    refine ⟨fun ending first second h' => ?_, by simp⟩
    cases h'
    exact (hclosing _ _ _ h).tail N
  | finishes h =>
    refine ⟨by simp [finish], fun result h' => ?_⟩
    cases h'
    exact (hclosing _ _ _ h).tail N
  | _ => exact hsame rfl

theorem Watched.settled (W : s.Watched) (I : s.InStep) (hup : s.stage = .up) (R : Run s t) :
    s.Settled t := by
  induction R with
  | refl => exact ⟨by simp [hup], by simp [hup]⟩
  | tail R N ih => exact ih.tail (W.run R) (I.run R) R N

/-! ## The way up -/

/-- The service has its manager to itself and has not asked it to stop. -/
structure Untouched (m : Session σ α β) : Prop where
  owned : m.isOwned = true
  handle : m.hasHandle = true
  uncancelled : m.cells.isCancelled = false
  own : ∀ exit, m.task.phase = .ended exit → exit.isOwn = true

theorem ofFirst_untouched (p : Plan σ α β) (now : Nat) (source : σ) (backoff : β)
    (c : Credential α) (history : List (Nat × Effect α)) :
    Untouched (Session.ofFirst p now source backoff c history) := by
  have hphase : (Session.ofFirst p now source backoff c history).task.phase = .spawned := rfl
  exact ⟨rfl, rfl, rfl, by simp [hphase]⟩

theorem Untouched.lives {m m' : Session σ α β} (h : Untouched m) (H : m.Lives m') :
    Untouched m' := by
  obtain ⟨howned, hhandle, hcancelled⟩ := H.frame
  refine ⟨howned.trans h.owned, hhandle.trans h.handle, hcancelled.trans h.uncancelled, ?_⟩
  cases H with
  | works M => exact fun exit hexit => M.isOwn h.uncancelled hexit
  | _ => exact h.own

namespace Station

variable {st st' : Station σ α β}

theorem each_works (h : st.Each Untouched) (H : st.Works st') : st'.Each Untouched := by
  cases H with
  | @mk s _ _ _ M => exact Untouched.lives (m := s) h (.works M)

theorem each_setNow (h : st.Each Untouched) (n : Nat) : (st.setNow n).Each Untouched := by
  cases st with
  | manned s => exact Untouched.lives (m := s) h (.waits n)
  | _ => trivial

theorem each_change (h : st.Each Untouched) (f : σ → σ) : (st.change f).Each Untouched := by
  cases st with
  | manned s => exact Untouched.lives (m := s) h (.looks f)
  | _ => trivial

theorem heeds_of_untouched (hup : st.isUp = true) (h : st.Each Untouched) : st.Heeds .called := by
  refine ⟨hup, ?_⟩
  cases st with
  | manned s => exact ⟨fun _ => Untouched.handle h, by simp, by simp⟩
  | _ => trivial

end Station

/-- The service is on its way up. -/
structure Rising (s : Service σ₁ α₁ β₁ σ₂ α₂ β₂) : Prop where
  stage : s.stage = .opening
  first : s.first.Each Untouched
  second : s.second.Each Untouched

theorem Rising.moves (H : s.Rising) (M : s.Moves l t) : t.Rising ∨ t.Watched ∨ t.isOver = true := by
  obtain ⟨hstage, hfirst, hsecond⟩ := H
  cases M with
  | raiseFirst _ H => exact .inl ⟨hstage, H.each (ofFirst_untouched · _), hsecond⟩
  | raiseSecond _ _ H => exact .inl ⟨hstage, hfirst, H.each (ofFirst_untouched · _)⟩
  | fails | crashes => exact .inr (.inr rfl)
  | rises _ hup hup' =>
    exact .inr (.inl ⟨_, _, rfl, Station.heeds_of_untouched hup hfirst,
      Station.heeds_of_untouched hup' hsecond⟩)
  | worksFirst H => exact .inl ⟨hstage, Station.each_works hfirst H, hsecond⟩
  | worksSecond H => exact .inl ⟨hstage, hfirst, Station.each_works hsecond H⟩
  | ticks => exact .inl ⟨hstage, Station.each_setNow hfirst _, Station.each_setNow hsecond _⟩
  | interrupted => exact .inl ⟨hstage, hfirst, hsecond⟩
  | changes => exact .inl ⟨hstage, Station.each_change hfirst _, Station.each_change hsecond _⟩
  | watches h | selects h | closesFirst h | closesSecond h | finishes h =>
    rw [hstage] at h
    cases h

/-- A service that is over stays as it is, for all that its tasks may still do. -/
theorem Moves.stage_of_isOver (M : s.Moves l t) (h : s.isOver = true) : t.stage = s.stage := by
  cases M with
  | raiseFirst h' | raiseSecond h' | fails _ h' | crashes _ h' | rises h' | watches h'
  | selects h' | closesFirst h' | closesSecond h' | finishes h' =>
    simp [isOver, h'] at h
  | _ => rfl

theorem Rising.run (H : s.Rising) (R : Run s t) : t.Rising ∨ t.Watched ∨ t.isOver = true := by
  refine R.induct (P := fun t => t.Rising ∨ t.Watched ∨ t.isOver = true) (.inl H)
    fun {u v l} ih M => ?_
  obtain H | W | h := ih
  · exact H.moves M
  · exact .inr (.inl (W.moves M))
  · exact .inr (.inr (by rw [isOver, M.stage_of_isOver h]; exact h))

theorem Rising.watched (H : s.Rising) (R : Run s t) (hup : t.stage = .up) : t.Watched := by
  obtain H | W | h := H.run R
  · rw [H.stage] at hup
    cases hup
  · exact W
  · simp [isOver, hup] at h

theorem Rising.of_opening (H : s.Rising) (R : Run s t) (hstage : t.stage = .opening) :
    t.Rising := by
  obtain H | ⟨_, _, hcalls, -⟩ | h := H.run R
  · exact H
  · rw [hstage] at hcalls
    cases hcalls
  · simp [isOver, hstage] at h

section
variable {ρ₁ ρ₂ : Type} (post₁ : ρ₁ → Post σ₁ α₁ β₁) (post₂ : ρ₂ → Post σ₂ α₂ β₂)
  (apns : Option ρ₁) (fcm : Option ρ₂)

theorem stationOf_each {ρ : Type} (post : ρ → Post σ α β) (settings : Option ρ)
    (P : Session σ α β → Prop) : (stationOf post settings).Each P := by
  cases settings <;> trivial

theorem stationOf_vacant {ρ : Type} (post : ρ → Post σ α β) (settings : Option ρ) :
    stationOf post settings = .vacant ↔ settings = none := by
  cases settings <;> simp [stationOf]

theorem before_rising : (before (stationOf post₁ apns) (stationOf post₂ fcm)).Rising :=
  ⟨rfl, stationOf_each .., stationOf_each ..⟩

theorem before_inStep : (before (stationOf post₁ apns) (stationOf post₂ fcm)).InStep :=
  ⟨stationOf_each .., stationOf_each ..⟩

end

theorem Run.isInterrupted (R : Run s t) (h : s.isInterrupted = true) : t.isInterrupted = true :=
  R.induct (P := fun t => t.isInterrupted = true) h fun ih M => M.isInterrupted ih

/-- Nobody takes a gateway's place, and no gateway leaves its place. -/
theorem Run.vacant_iff (R : Run s t) :
    (t.first = .vacant ↔ s.first = .vacant) ∧ (t.second = .vacant ↔ s.second = .vacant) :=
  R.induct (P := fun t => (t.first = .vacant ↔ s.first = .vacant) ∧
    (t.second = .vacant ↔ s.second = .vacant)) ⟨.rfl, .rfl⟩ fun ih M =>
    ⟨M.first_goes.vacant_iff.trans ih.1, M.second_goes.vacant_iff.trans ih.2⟩

/-- The gateway's manager has been asked to stop, and its task has ended. -/
inductive Station.IsShutDown : Station σ α β → Prop
  | mk {m : Session σ α β} {exit : Exit} (hc : m.cells.isCancelled = true)
      (h : m.task.phase = .ended exit) (hs : m.cells.state = .stopped) : IsShutDown (.manned m)

theorem Station.Heeds.isShutDown {st : Station σ α β} (h : st.Heeds .returned)
    (I : st.Each Session.InStep) (hne : st ≠ .vacant) : st.IsShutDown := by
  obtain rfl | ⟨m, rfl, hm⟩ := h.cases
  · exact absurd rfl hne
  · obtain ⟨exit, hexit⟩ := hm.ended rfl
    exact .mk (hm.cancelled (by simp)) hexit (Session.InStep.stopped I |>.2 ⟨exit, hexit⟩)

/-! ## A start that fails -/

theorem Station.Goes.of_manned {m : Session σ α β} {st : Station σ α β} {now : Nat}
    (H : (Station.manned m).Goes now st) : ∃ m', st = .manned m' ∧ (m' = m ∨ m.Goes m') := by
  cases H with
  | same => exact ⟨m, rfl, .inl rfl⟩
  | raises H => cases H
  | manned H => exact ⟨_, rfl, .inr H⟩

/-- The gateway has a manager that has been asked to stop, after so many calls of its source. -/
inductive Station.Silenced (times : List Nat) : Station σ α β → Prop
  | mk {m : Session σ α β} (hc : m.cells.isCancelled = true) (h : renewalTimes m.history = times) :
      Silenced times (.manned m)

theorem Station.Silenced.goes {times : List Nat} {st st' : Station σ α β} {now : Nat}
    (h : st.Silenced times) (H : st.Goes now st') : st'.Silenced times := by
  obtain ⟨hc, htimes⟩ := h
  obtain ⟨m', rfl, rfl | H⟩ := H.of_manned
  · exact ⟨hc, htimes⟩
  · exact ⟨H.cancelled hc, (H.renewalTimes_eq hc).trans htimes⟩

theorem silenced_drop {m : Session σ α β} (h : m.isOwned = true) :
    (Station.manned m).drop.Silenced (renewalTimes m.history) := by
  show (Station.manned m.drop).Silenced _
  rw [Session.drop, if_pos h]
  exact ⟨rfl, Session.renewalTimes_perform _ (by simp)⟩

/-- A start that fails ends the service with an error, and the manager that is there already calls
its source no more. -/
theorem Rising.fails (H : s.Rising) (h : s.step .main = some (t, notices))
    {result : Except Fault Unit} (hend : t.stage = .ended result) (R : Run t u) :
    (∃ fault, result = .error fault) ∧ u.stage = .ended result ∧
      ∀ m, s.first = .manned m → u.first.Silenced (renewalTimes m.history) := by
  have ht : ∃ fault, t = s.finish (.error fault) := by
    have hstage := H.stage
    cases step_moves h with
    | fails fault => exact ⟨fault, rfl⟩
    | crashes | rises => cases hend
    | raiseFirst | raiseSecond => cases hstage.symm.trans hend
    | watches h' | closesFirst h' | closesSecond h' | finishes h' =>
      rw [hstage] at h'
      cases h'
  obtain ⟨fault, rfl⟩ := ht
  cases hend
  refine ⟨⟨fault, rfl⟩, R.induct (P := fun u => u.stage = .ended (.error fault) ∧
    ∀ m, s.first = .manned m → u.first.Silenced (renewalTimes m.history)) ⟨rfl, fun m hm => ?_⟩
    fun {v w l} ih M => ⟨?_, fun m hm => ?_⟩⟩
  · have howned : m.isOwned = true := by
      have heach := H.first
      rw [hm] at heach
      exact Untouched.owned heach
    rw [finish, hm]
    exact silenced_drop howned
  · exact (M.stage_of_isOver (by rw [isOver, ih.1])).trans ih.1
  · exact (ih.2 m hm).goes M.first_goes

/-! ## The end -/

/-- **The service ends as its managers do, or when it is interrupted.** This holds of all runs of a
service with one gateway or both: a gateway that is not served never ends the wait. Once the service
is up it returns normally only if its wait has ended with the interrupt. Otherwise it returns an
error, which is that of a manager that has given up, or says that a manager has stopped
unexpectedly, and then one has ended without a final error. By then all managers have been asked to
stop and their tasks have ended. If a manager has stopped or the interrupt is there, 17 awaited
moves at most lead to the end, one of which can always be made. A start that fails returns an error,
and a manager that is there already calls its source no more; so it is if the second gateway cannot
be prepared. -/
theorem exit_follows_stops {ρ₁ ρ₂ : Type} {post₁ : ρ₁ → Post σ₁ α₁ β₁} {post₂ : ρ₂ → Post σ₂ α₂ β₂}
    {apns : Option ρ₁} {fcm : Option ρ₂} {start s : Service σ₁ α₁ β₁ σ₂ α₂ β₂}
    (hstart : start = before (stationOf post₁ apns) (stationOf post₂ fcm)) (R : Run start s) :
    (apns = none → s.step (.select .first) = none) ∧
    (fcm = none → s.step (.select .second) = none) ∧
    (s.stage = .up → ∀ t, Run s t →
      (∀ result, t.stage = .ended result →
        (∃ u v branch notices, Run s u ∧ u.step (.select branch) = some (v, notices) ∧ Run v t ∧
          u.Explains branch result) ∧
        (t.isInterrupted = false → ∃ fault, result = .error fault) ∧
        (apns.isSome → t.first.IsShutDown) ∧ (fcm.isSome → t.second.IsShutDown)) ∧
      (t.IsDue → ∀ n u, t.Trail n u → n ≤ 17 ∧
        ((∃ result, u.stage = .ended result) ∨ ∃ l, u.Awaits l ∧ (u.step l).isSome))) ∧
    (s.stage = .opening →
      (∀ t notices result, s.step .main = some (t, notices) → t.stage = .ended result →
        (∃ fault, result = .error fault) ∧ ∀ u, Run t u → u.stage = .ended result ∧
          ∀ m, s.first = .manned m → u.first.Silenced (renewalTimes m.history)) ∧
      ∀ post fault, s.first.isUp = true → s.second = .idle post →
        post.prepare s.now = .error fault →
        ∃ t, s.step .main = some (t, []) ∧ t.stage = .ended (.error fault)) := by
  have H0 : start.Rising := hstart ▸ before_rising ..
  have I0 : start.InStep := hstart ▸ before_inStep ..
  obtain ⟨hfirst, hsecond⟩ := R.vacant_iff
  rw [hstart] at hfirst hsecond
  have hfirst : s.first = .vacant ↔ apns = none := hfirst.trans (stationOf_vacant ..)
  have hsecond : s.second = .vacant ↔ fcm = none := hsecond.trans (stationOf_vacant ..)
  refine ⟨fun h => ?_, fun h => ?_, fun hup t R' => ⟨fun result hend => ?_, fun D n u T => ?_⟩,
    fun hstage => ⟨fun t notices result h hend => ?_, fun post fault hup hidle hprepare => ?_⟩⟩
  · simp only [step, selectMove, hfirst.2 h, Station.isStopped]
    split <;> rfl
  · simp only [step, selectMove, hsecond.2 h, Station.isStopped]
    split <;> rfl
  · have W := H0.watched R hup
    have I := I0.run R
    obtain ⟨first, second, hcalls, hheeds, hheeds'⟩ := W.run R'
    rw [hend] at hcalls
    cases hcalls
    have hchose := (W.settled I hup R').2 result hend
    refine ⟨hchose, fun hquiet => ?_, fun h => ?_, fun h => ?_⟩
    · obtain ⟨u, v, branch, notices, -, hselect, hv, hexplains⟩ := hchose
      exact hexplains.error fun hi => by
        rw [hv.isInterrupted ((step_moves hselect).isInterrupted hi)] at hquiet
        cases hquiet
    · refine hheeds.isShutDown (I.run R').1 fun hvacant => ?_
      rw [hfirst.1 (R'.vacant_iff.1.1 hvacant)] at h
      cases h
    · refine hheeds'.isShutDown (I.run R').2 fun hvacant => ?_
      rw [hsecond.1 (R'.vacant_iff.2.1 hvacant)] at h
      cases h
  · have W := (H0.watched R hup).run R'
    have hle := T.le W
    have D : u.IsDue := T.run.induct D fun D M => D.moves M
    exact ⟨by have := W.movesToEnd_le; omega, (W.run T.run).goes_on D⟩
  · have H := H0.of_opening R hstage
    exact ⟨(H.fails h hend .refl).1, fun u hu => (H.fails h hend hu).2⟩
  · have hdown : s.second.isUp = false := by rw [hidle]; rfl
    have hraise : s.second.raise s.now = some (.failed fault []) := by
      simp only [hidle, Station.raise, hprepare]
    exact ⟨s.finish (.error fault), by simp [step, hstage, openMove, hup, hdown, hraise], rfl⟩

def lastingPost : Post Nat Nat Waits :=
  playedPost "lasting" .forAccessTokens fun _ => ⟨.atOnce, .issue 8 (.forMillis 100000000)⟩

/-- A gateway that cannot be prepared. -/
def keylessPost : Post Nat Nat Waits :=
  { lastingPost with prepare := fun _ => .error (.fcm (.keyFile "gone")) }

abbrev beside (second : Post Nat Nat Waits) : Service Nat Nat Waits Nat Nat Waits :=
  before (stationOf id (some (solePost 90000 (some 0)))) (stationOf id (some second))

/-- Both managers are up. -/
def bothUp := (run ⟨millis 100000, false⟩ isUp 20 (beside lastingPost) []).1

/-- The first manager has given up, and both have been shut down. -/
def bothDown := (run ⟨millis 100000, false⟩ isOver 60 bothUp []).1

/-- The first manager is there, and the second gateway's turn has come. -/
def halfUp := (run ⟨millis 100000, false⟩ (·.first.isUp) 20 (beside keylessPost) []).1

theorem two_ends :
    (bothDown.stage = .ended (.error (.exhausted (.backoffExhausted "sole" 1 .zero))) ∧
      bothDown.first.IsShutDown ∧ bothDown.second.IsShutDown) ∧
    ∃ m t, halfUp.first = .manned m ∧ halfUp.step .main = some (t, []) ∧
      t.stage = .ended (.error (.fcm (.keyFile "gone"))) ∧
      ∀ u, Run t u → u.first.Silenced (renewalTimes m.history) := by
  constructor
  · have hup : bothUp.stage = .up := by decide +kernel
    have hend : bothDown.stage =
        .ended (.error (.exhausted (.backoffExhausted "sole" 1 .zero))) := by decide +kernel
    have R : Run (beside lastingPost) bothUp := run_run ..
    obtain ⟨-, -, hexit, -⟩ := exit_follows_stops rfl R
    obtain ⟨-, -, hfirst, hsecond⟩ := (hexit hup bothDown (run_run ..)).1 _ hend
    exact ⟨hend, hfirst rfl, hsecond rfl⟩
  · have hstage : halfUp.stage = .opening := by decide +kernel
    obtain ⟨m, hm⟩ : ∃ m, halfUp.first = .manned m := by
      have hmanned : halfUp.first.session?.isSome := by decide +kernel
      cases hfirst : halfUp.first with
      | manned m => exact ⟨m, rfl⟩
      | _ => rw [hfirst] at hmanned; cases hmanned
    have R : Run (beside keylessPost) halfUp := run_run ..
    obtain ⟨-, -, -, hfails⟩ := exit_follows_stops rfl R
    have hmain : (halfUp.step .main).map (fun r => (r.1.stage, r.2)) =
        some (.ended (.error (.fcm (.keyFile "gone"))), []) := by decide +kernel
    obtain ⟨⟨t, said⟩, ht, heq⟩ := Option.map_eq_some_iff.1 hmain
    obtain ⟨hend, rfl⟩ := Prod.mk.inj heq
    exact ⟨m, t, hm, ht, hend, fun u hu => (((hfails hstage).1 t [] _ ht hend).2 u hu).2 m hm⟩

end Service

end CredentialKeeper
