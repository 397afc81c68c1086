import CredentialKeeper.Proofs.Manager.Cancellation
import CredentialKeeper.Proofs.Manager.Opening
import CredentialKeeper.Manager.Script
import CredentialKeeper.Service.Gateways
import CredentialKeeper.Service.Run

/-! # What a move of the service can do

`Service.Moves` lists the moves of a service, and `Service.step_moves` says that there are no
others. To each gateway a move does one of the things that `Station.Goes` lists, and to a manager in
it one of those of `Session.Goes`: either the manager goes on by itself (`Session.Lives`), or the
service acts on it from outside. A manager whose moves are done in one go keeps its state and its
final error in step with its task (`Session.InStep`). -/

namespace CredentialKeeper

open Manager

variable {σ α β : Type}

/-! ## A manager in the service -/

namespace Manager

theorem Task.Moves.head?_fatal {p : Plan σ α β} {now : Nat} {cells : Cells α} {t t' : Task σ α β}
    {ev : Option (Event α)} {es : List (Effect α)} (M : t.Moves p now cells ev t' es)
    (e : Refresh.RefreshError) :
    (es.filterMap Effect.fatal?).head? = some e ↔ t'.phase = .ended (.gaveUp e) := by
  cases M <;> simp [closing, heard_filterMap, Effect.fatal?, List.filterMap_cons, *]

/-- Who gives up names its source. -/
theorem Task.Moves.gaveUp {p : Plan σ α β} {now : Nat} {cells : Cells α} {t t' : Task σ α β}
    {ev : Option (Event α)} {es : List (Effect α)} (M : t.Moves p now cells ev t' es)
    {e : Refresh.RefreshError} (h : t'.phase = .ended (.gaveUp e)) :
    ∃ failures elapsed, e = .backoffExhausted p.source.name failures elapsed := by
  cases M <;> simp_all
  case giveUp => exact ⟨_, _, h.symm⟩

/-- A task that has been asked to stop does not call its source. -/
theorem Task.Moves.not_called {p : Plan σ α β} {now : Nat} {cells : Cells α} {t t' : Task σ α β}
    {ev : Option (Event α)} {es : List (Effect α)} (M : t.Moves p now cells ev t' es)
    (hc : cells.isCancelled = true) : .renewCalled ∉ es := by
  cases M <;> simp_all [closing]

/-- The task has ended of its own accord. -/
def Exit.isOwn : Exit → Bool
  | .gaveUp _ | .crashed _ => true
  | _ => false

theorem Task.Moves.isOwn {p : Plan σ α β} {now : Nat} {cells : Cells α} {t t' : Task σ α β}
    {ev : Option (Event α)} {es : List (Effect α)} (M : t.Moves p now cells ev t' es)
    (hc : cells.isCancelled = false) {exit : Exit} (h : t'.phase = .ended exit) :
    exit.isOwn = true := by
  cases M <;> simp_all
  all_goals exact h ▸ rfl

namespace Session

/-- A manager goes on while the service leaves it alone: its task moves, time passes, or what its
source looks at changes. -/
inductive Lives (s : Session σ α β) : Session σ α β → Prop
  | works {ev : Option (Event α)} {t : Task σ α β} {es : List (Effect α)}
      (M : s.task.Moves s.plan s.now s.cells ev t es) : Lives s (({ s with task := t }).perform es)
  | waits (now : Nat) : Lives s { s with now }
  | looks (f : σ → σ) : Lives s { s with task := { s.task with source := f s.task.source } }

inductive Goes (s : Session σ α β) : Session σ α β → Prop
  | lives {t : Session σ α β} (H : s.Lives t) : Goes s t
  | beside {isOwned hasHandle : Bool} {es : List (Effect α)} (h : ∀ e ∈ es, e.isOutside = true) :
      Goes s (({ s with isOwned, hasHandle }).perform es)

variable {s t : Session σ α β}

theorem Lives.frame (H : s.Lives t) : t.isOwned = s.isOwned ∧ t.hasHandle = s.hasHandle ∧
    t.cells.isCancelled = s.cells.isCancelled := by
  cases H with
  | works M =>
    refine ⟨rfl, rfl, Bool.eq_iff_iff.2 ((Cells.isCancelled_applyAll ..).trans (or_iff_left ?_))⟩
    exact M.not_cancelled
  | _ => exact ⟨rfl, rfl, rfl⟩

theorem Goes.plan (H : s.Goes t) : t.plan = s.plan := by
  cases H with
  | lives H => cases H <;> rfl
  | beside => rfl

theorem Goes.cancelled (H : s.Goes t) (h : s.cells.isCancelled = true) :
    t.cells.isCancelled = true := by
  cases H with
  | lives H => exact H.frame.2.2.trans h
  | beside => exact (Cells.isCancelled_applyAll ..).2 (.inl h)

theorem Goes.stopped (H : s.Goes t) (h : s.cells.state = .stopped) : t.cells.state = .stopped := by
  cases H with
  | lives H =>
    cases H with
    | works => exact (Cells.state_applyAll ..).2 (.inl h)
    | _ => exact h
  | beside => exact (Cells.state_applyAll ..).2 (.inl h)

theorem Goes.ended {exit : Exit} (H : s.Goes t) (h : s.task.phase = .ended exit) :
    t.task.phase = .ended exit := by
  cases H with
  | lives H =>
    cases H with
    | works M => exact absurd h (M.not_ended exit)
    | _ => exact h
  | beside => exact h

theorem renewalTimes_perform (s : Session σ α β) {es : List (Effect α)} (h : .renewCalled ∉ es) :
    renewalTimes (s.perform es).history = renewalTimes s.history := by
  have hnone : ((es.map (s.now, ·)).reverse).filterMap Effect.renewedAt? = [] := by
    refine List.filterMap_eq_nil_iff.2 fun r hr => ?_
    obtain ⟨e, he, rfl⟩ := List.mem_map.1 (List.mem_reverse.1 hr)
    cases e with
    | renewCalled => exact absurd he h
    | _ => rfl
  rw [renewalTimes, perform, record_eq, List.filterMap_append, hnone]
  rfl

/-- A manager that has been asked to stop calls its source no more. -/
theorem Goes.renewalTimes_eq (H : s.Goes t) (hc : s.cells.isCancelled = true) :
    renewalTimes t.history = renewalTimes s.history := by
  cases H with
  | lives H =>
    cases H with
    | works M => exact renewalTimes_perform _ (M.not_called hc)
    | _ => rfl
  | beside h => exact renewalTimes_perform _ fun he => by cases h _ he

/-- The state and the final error say how the task has ended, if it has. -/
structure InStep (s : Session σ α β) : Prop where
  started : s.cells.state ≠ .starting
  stopped : s.cells.state = .stopped ↔ ∃ exit, s.task.phase = .ended exit
  fatal : ∀ e, s.cells.fatal = some e ↔ s.task.phase = .ended (.gaveUp e)
  named : ∀ e, s.task.phase = .ended (.gaveUp e) →
    ∃ failures elapsed, e = .backoffExhausted s.plan.source.name failures elapsed

theorem ofFirst_inStep (p : Plan σ α β) (now : Nat) (source : σ) (backoff : β) (c : Credential α)
    (history : List (Nat × Effect α)) : (ofFirst p now source backoff c history).InStep := by
  have hstate : (ofFirst p now source backoff c history).cells.state = .running := rfl
  have hphase : (ofFirst p now source backoff c history).task.phase = .spawned := rfl
  have hfatal : (ofFirst p now source backoff c history).cells.fatal = none := rfl
  exact ⟨by simp [hstate], by simp [hstate, hphase], by simp [hfatal, hphase], by simp [hphase]⟩

theorem InStep.works {ev : Option (Event α)} {t : Task σ α β} {es : List (Effect α)} (I : s.InStep)
    (M : s.task.Moves s.plan s.now s.cells ev t es) :
    (({ s with task := t }).perform es).InStep := by
  have hstate : s.cells.state ≠ .stopped := fun h => by
    obtain ⟨exit, hexit⟩ := I.stopped.1 h
    exact M.not_ended exit hexit
  have hfatal : s.cells.fatal = none := by
    refine Option.eq_none_iff_forall_ne_some.2 fun e he => ?_
    exact M.not_ended _ ((I.fatal e).1 he)
  refine ⟨fun h => I.started (Cells.state_applyAll_starting h), ?_, fun e => ?_, fun e h => ?_⟩
  · refine (Cells.state_applyAll ..).trans ?_
    rw [or_iff_right hstate, mem_mark, M.filterMap_mark]
    show _ ↔ ∃ exit, t.phase = .ended exit
    simp only [← Task.exit?_eq_some, ← Option.isSome_iff_exists]
    cases t.exit? <;> simp
  · show (s.cells.applyAll es).fatal = some e ↔ t.phase = _
    rw [Cells.fatal_applyAll, hfatal, Option.none_or, M.head?_fatal]
  · exact M.gaveUp h

theorem InStep.beside {isOwned hasHandle : Bool} {es : List (Effect α)} (I : s.InStep)
    (h : ∀ e ∈ es, e.isOutside = true) : (({ s with isOwned, hasHandle }).perform es).InStep := by
  have hmark : .markedStopped ∉ es := fun he => by cases h _ he
  have hfatal : es.filterMap Effect.fatal? = [] :=
    List.filterMap_eq_nil_iff.2 fun e he => Effect.fatal?_of_outside (h e he)
  refine ⟨fun h => I.started (Cells.state_applyAll_starting h), ?_, fun e => ?_, I.named⟩
  · exact ((Cells.state_applyAll ..).trans (or_iff_left hmark)).trans I.stopped
  · refine Iff.trans ?_ (I.fatal e)
    show (s.cells.applyAll es).fatal = some e ↔ _
    rw [Cells.fatal_applyAll, hfatal, List.head?_nil, Option.or_none]

theorem Goes.inStep (H : s.Goes t) (I : s.InStep) : t.InStep := by
  cases H with
  | lives H =>
    cases H with
    | works M => exact I.works M
    | waits => exact ⟨I.started, I.stopped, I.fatal, I.named⟩
    | looks => exact ⟨I.started, I.stopped, I.fatal, I.named⟩
  | beside h => exact I.beside h

end Session

end Manager

/-- Who waits for a task returns if it has ended. -/
theorem Manager.ShutdownCall.joining_step {name : String} {cells : Cells α}
    {handle handle' : Bool} {exit? : Option Exit} {call' : ShutdownCall} {es : List (Effect α)}
    (h : joining.step name cells handle exit? = some (call', handle', es)) :
    ∃ exit, exit? = some exit ∧ call' = .returned ∧ handle' = handle ∧
      ∀ e ∈ es, e.isOutside = true := by
  simp only [step] at h
  split at h
  next => cases h
  next message =>
    cases h
    exact ⟨.crashed message, rfl, rfl, rfl, by simp [Effect.isOutside]⟩
  next exit _ =>
    cases h
    exact ⟨exit, rfl, rfl, rfl, List.forall_mem_nil _⟩

/-! ## A gateway -/

namespace Service

/-- A move towards a manager's start, at an instant. -/
inductive Station.Raises (now : Nat) : Station σ α β → Station σ α β → Prop
  | begins {post : Post σ α β} {opening : Opening σ α β} {startup : Startup σ α}
      {history : List (Nat × Effect α)} (h : post.prepare now = .ok opening)
      (hb : (Startup.begin opening.plan now opening.memory).1 = startup) :
      Raises now (.idle post) (.starting opening startup history)
  | asks {opening : Opening σ α β} {startup startup' : Startup σ α}
      {history : List (Nat × Effect α)} {effects : List (Effect α)}
      (h : startup.step opening.plan now = some (startup', effects)) :
      Raises now (.starting opening startup history)
        (.starting opening startup' (Session.record now history effects))
  | hires {opening : Opening σ α β} {startup startup' : Startup σ α} {c : Credential α}
      {history : List (Nat × Effect α)} {effects : List (Effect α)}
      (h : startup.step opening.plan now = some (startup', effects))
      (hc : startup'.phase = .issued c) :
      Raises now (.starting opening startup history) (.manned (.ofFirst opening.plan now
        startup'.source opening.backoff c (Session.record now history effects)))

/-- What a move of the service at an instant does to a gateway. -/
inductive Station.Goes (now : Nat) : Station σ α β → Station σ α β → Prop
  | same (st : Station σ α β) : Goes now st st
  | raises {st st' : Station σ α β} (H : st.Raises now st') : Goes now st st'
  | looks {opening : Opening σ α β} {startup : Startup σ α} {history : List (Nat × Effect α)}
      (f : σ → σ) : Goes now (.starting opening startup history)
        (.starting opening { startup with source := f startup.source } history)
  | manned {s t : Session σ α β} (H : s.Goes t) : Goes now (.manned s) (.manned t)

namespace Station

variable {st st' : Station σ α β} {now : Nat}

theorem raise_raises {notices : List Log.Notice}
    (h : st.raise now = some (.station st' notices)) : st.Raises now st' := by
  cases st with
  | vacant => cases h
  | manned => cases h
  | idle post =>
    simp only [raise] at h
    split at h
    next => cases h
    next opening hprepare =>
      simp only [begin, Option.some.injEq] at h
      split at h
      next => cases h
      next =>
        cases h
        exact .begins hprepare rfl
  | starting opening startup history =>
    obtain ⟨⟨startup', effects⟩, hstep, heq⟩ := Option.map_eq_some_iff.1 h
    simp only at heq
    split at heq
    next c hc =>
      cases heq
      exact .hires hstep hc
    next => cases heq
    next =>
      cases heq
      exact .asks hstep

/-- What the task of a gateway's manager can do. -/
inductive Works : Station σ α β → Station σ α β → Prop
  | mk {s : Session σ α β} {ev : Option (Event α)} {t : Task σ α β} {es : List (Effect α)}
      (M : s.task.Moves s.plan s.now s.cells ev t es) :
      Works (.manned s) (.manned (({ s with task := t }).perform es))

theorem work_works {notices : List Log.Notice} (h : st.work = some (st', notices)) :
    st.Works st' := by
  cases st with
  | manned s =>
    obtain ⟨⟨s', es⟩, hs, heq⟩ := Option.map_eq_some_iff.1 h
    cases heq
    obtain ⟨⟨t, es'⟩, ht, heq⟩ := Option.map_eq_some_iff.1 hs
    cases heq
    exact .mk (Task.step_moves ht)
  | _ => cases h

theorem Works.goes (H : st.Works st') (now : Nat) : st.Goes now st' := by
  cases H with
  | mk M => exact .manned (.lives (.works M))

theorem drop_goes (now : Nat) (st : Station σ α β) : st.Goes now st.drop := by
  cases st with
  | manned s =>
    show Goes now (.manned s) (.manned s.drop)
    unfold Session.drop
    split
    next => exact .manned (.beside (by simp [Effect.isOutside]))
    next => exact .same _
  | _ => exact .same _

theorem setNow_goes (now n : Nat) (st : Station σ α β) : st.Goes now (st.setNow n) := by
  cases st with
  | manned s => exact .manned (.lives (.waits n))
  | _ => exact .same _

theorem change_goes (now : Nat) (f : σ → σ) (st : Station σ α β) : st.Goes now (st.change f) := by
  cases st with
  | manned s => exact .manned (.lives (.looks f))
  | starting => exact .looks f
  | _ => exact .same _

/-- One move of a call of shutdown at a gateway. -/
inductive Closes : Station σ α β → ShutdownCall → Station σ α β → ShutdownCall → Prop
  /-- There is no manager to shut down. -/
  | absent {st : Station σ α β} {call : ShutdownCall} (h : ∀ s, st ≠ .manned s) :
      Closes st call st .returned
  | asks (s : Session σ α β) : Closes (.manned s) .called
      (.manned (s.perform (stopEffects s.plan.source.name s.cells))) .asked
  | takes {s : Session σ α β} (h : s.hasHandle = true) :
      Closes (.manned s) .asked (.manned { s with hasHandle := false }) .joining
  | misses {s : Session σ α β} (h : s.hasHandle = false) :
      Closes (.manned s) .asked (.manned s) .returned
  | joins {s : Session σ α β} {exit : Exit} {es : List (Effect α)}
      (h : s.task.phase = .ended exit) (hes : ∀ e ∈ es, e.isOutside = true) :
      Closes (.manned s) .joining (.manned (s.perform es)) .returned

theorem close_closes {call call' : ShutdownCall} {notices : List Log.Notice}
    (h : st.close call = some (st', call', notices)) : st.Closes call st' call' := by
  cases st with
  | manned s =>
    obtain ⟨⟨call'', handle, es⟩, hstep, heq⟩ := Option.map_eq_some_iff.1 h
    cases call with
    | called =>
      cases hstep
      cases heq
      exact .asks s
    | asked =>
      cases hhandle : s.hasHandle with
      | true =>
        simp only [ShutdownCall.step, hhandle, if_true] at hstep
        cases hstep
        cases heq
        exact .takes hhandle
      | false =>
        simp only [ShutdownCall.step, hhandle] at hstep
        cases hstep
        cases heq
        have hsame : ({ s with hasHandle := false } : Session σ α β) = s := by rw [← hhandle]
        show Closes _ _ (.manned { s with hasHandle := false }) _
        rw [hsame]
        exact .misses hhandle
    | joining =>
      obtain ⟨exit, hexit, rfl, rfl, hes⟩ := ShutdownCall.joining_step hstep
      cases heq
      exact .joins (Task.exit?_eq_some.1 hexit) hes
    | returned => cases hstep
  | _ =>
    simp only [close] at h
    split at h
    next => cases h
    next =>
      cases h
      exact .absent (by simp)

theorem Closes.goes {call call' : ShutdownCall} (H : st.Closes call st' call') (now : Nat) :
    st.Goes now st' := by
  cases H with
  | absent => exact .same _
  | asks s => exact .manned (.beside (Interleaving.stopEffects_outside _ _))
  | @takes s =>
    have H : s.Goes (({ s with hasHandle := false }).perform []) :=
      .beside (List.forall_mem_nil _)
    exact .manned H
  | misses => exact .same _
  | joins _ hes => exact .manned (.beside hes)

end Station

end Service

/-! ## Both gateways -/

namespace Service

variable {σ₁ α₁ β₁ σ₂ α₂ β₂ : Type}

inductive Moves (s : Service σ₁ α₁ β₁ σ₂ α₂ β₂) :
    Label σ₁ σ₂ → Service σ₁ α₁ β₁ σ₂ α₂ β₂ → Prop
  | raiseFirst {first : Station σ₁ α₁ β₁} (h : s.stage = .opening)
      (H : s.first.Raises s.now first) : Moves s .main { s with first }
  | raiseSecond {second : Station σ₂ α₂ β₂} (h : s.stage = .opening) (hup : s.first.isUp = true)
      (H : s.second.Raises s.now second) : Moves s .main { s with second }
  | fails (fault : Fault) (h : s.stage = .opening) : Moves s .main (s.finish (.error fault))
  | crashes (message : String) (h : s.stage = .opening) :
      Moves s .main { s with stage := .crashed message }
  | rises (h : s.stage = .opening) (hfirst : s.first.isUp = true) (hsecond : s.second.isUp = true) :
      Moves s .main { s with stage := .up }
  | watches (h : s.stage = .up) : Moves s .main { s with stage := .watching }
  | selects {branch : Branch} {ending : Ending} {notices : List Log.Notice}
      (h : s.stage = .watching) (hs : s.selectMove branch = some (ending, notices)) :
      Moves s (.select branch) { s with stage := .closing ending .called .called }
  | closesFirst {ending : Ending} {call call' second : ShutdownCall} {first : Station σ₁ α₁ β₁}
      (h : s.stage = .closing ending call second) (hne : call ≠ .returned)
      (hc : s.first.Closes call first call') :
      Moves s .main { s with first, stage := .closing ending call' second }
  | closesSecond {ending : Ending} {call call' : ShutdownCall} {second : Station σ₂ α₂ β₂}
      (h : s.stage = .closing ending .returned call) (hne : call ≠ .returned)
      (hc : s.second.Closes call second call') :
      Moves s .main { s with second, stage := .closing ending .returned call' }
  | finishes {ending : Ending} (h : s.stage = .closing ending .returned .returned) :
      Moves s .main (s.finish ending.result.1)
  | worksFirst {first : Station σ₁ α₁ β₁} (H : s.first.Works first) :
      Moves s .firstTask { s with first }
  | worksSecond {second : Station σ₂ α₂ β₂} (H : s.second.Works second) :
      Moves s .secondTask { s with second }
  | ticks (nanos : Nat) : Moves s (.tick nanos) { s with
      now := s.now + nanos
      first := s.first.setNow (s.now + nanos)
      second := s.second.setNow (s.now + nanos) }
  | interrupted : Moves s .interrupt { s with isInterrupted := true }
  | changes (f : σ₁ → σ₁) (g : σ₂ → σ₂) :
      Moves s (.change f g) { s with first := s.first.change f, second := s.second.change g }

variable {s t : Service σ₁ α₁ β₁ σ₂ α₂ β₂} {l : Label σ₁ σ₂} {notices : List Log.Notice}

theorem openMove_moves (hstage : s.stage = .opening) (h : s.openMove = some (t, notices)) :
    s.Moves .main t := by
  unfold openMove at h
  split at h
  next =>
    obtain ⟨raised, hr, heq⟩ := Option.map_eq_some_iff.1 h
    cases raised <;> cases heq
    · exact .raiseFirst hstage (Station.raise_raises hr)
    · exact .fails _ hstage
    · exact .crashes _ hstage
  next hup =>
    have hup : s.first.isUp = true := by simpa using hup
    split at h
    next =>
      obtain ⟨raised, hr, heq⟩ := Option.map_eq_some_iff.1 h
      cases raised <;> cases heq
      · exact .raiseSecond hstage hup (Station.raise_raises hr)
      · exact .fails _ hstage
      · exact .crashes _ hstage
    next hup' =>
      cases h
      exact .rises hstage hup (by simpa using hup')

theorem closeMove_moves {ending : Ending} {first second : ShutdownCall}
    (hstage : s.stage = .closing ending first second)
    (h : s.closeMove ending first second = some (t, notices)) : s.Moves .main t := by
  unfold closeMove at h
  split at h
  next hne =>
    obtain ⟨⟨st, call, said⟩, hc, heq⟩ := Option.map_eq_some_iff.1 h
    cases heq
    exact .closesFirst hstage hne (Station.close_closes hc)
  next hfirst =>
    obtain rfl : first = .returned := not_not.1 hfirst
    split at h
    next hne =>
      obtain ⟨⟨st, call, said⟩, hc, heq⟩ := Option.map_eq_some_iff.1 h
      cases heq
      exact .closesSecond hstage hne (Station.close_closes hc)
    next hsecond =>
      obtain rfl : second = .returned := not_not.1 hsecond
      cases h
      exact .finishes hstage

theorem step_moves (h : s.step l = some (t, notices)) : s.Moves l t := by
  cases l with
  | main =>
    simp only [step] at h
    split at h
    next hstage => exact openMove_moves hstage h
    next hstage =>
      cases h
      exact .watches hstage
    next hstage => exact closeMove_moves hstage h
    next => cases h
  | select branch =>
    simp only [step] at h
    split at h
    next hstage =>
      obtain ⟨⟨ending, said⟩, hs, heq⟩ := Option.map_eq_some_iff.1 h
      cases heq
      exact .selects hstage hs
    next => cases h
  | firstTask =>
    obtain ⟨⟨st, said⟩, hw, heq⟩ := Option.map_eq_some_iff.1 h
    cases heq
    exact .worksFirst (Station.work_works hw)
  | secondTask =>
    obtain ⟨⟨st, said⟩, hw, heq⟩ := Option.map_eq_some_iff.1 h
    cases heq
    exact .worksSecond (Station.work_works hw)
  | tick nanos =>
    cases h
    exact .ticks nanos
  | interrupt =>
    cases h
    exact .interrupted
  | change f g =>
    cases h
    exact .changes f g

namespace Moves

theorem first_goes (M : s.Moves l t) : s.first.Goes s.now t.first := by
  cases M with
  | raiseFirst _ H => exact .raises H
  | closesFirst _ _ hc => exact hc.goes _
  | fails | finishes => exact Station.drop_goes _ _
  | worksFirst H => exact H.goes _
  | ticks => exact Station.setNow_goes _ _ _
  | changes => exact Station.change_goes _ _ _
  | _ => exact .same _

theorem second_goes (M : s.Moves l t) : s.second.Goes s.now t.second := by
  cases M with
  | raiseSecond _ _ H => exact .raises H
  | closesSecond _ _ hc => exact hc.goes _
  | fails | finishes => exact Station.drop_goes _ _
  | worksSecond H => exact H.goes _
  | ticks => exact Station.setNow_goes _ _ _
  | changes => exact Station.change_goes _ _ _
  | _ => exact .same _

theorem isInterrupted (M : s.Moves l t) (h : s.isInterrupted = true) : t.isInterrupted = true := by
  cases M with
  | interrupted => rfl
  | _ => exact h

end Moves

/-! ## Runs -/

def Next (s t : Service σ₁ α₁ β₁ σ₂ α₂ β₂) : Prop := ∃ l notices, s.step l = some (t, notices)

/-- What any moves in any order lead to. -/
abbrev Run (s t : Service σ₁ α₁ β₁ σ₂ α₂ β₂) : Prop := Relation.ReflTransGen Next s t

theorem Run.induct {P : Service σ₁ α₁ β₁ σ₂ α₂ β₂ → Prop} (H : Run s t) (h0 : P s)
    (hstep : ∀ {u v l}, P u → u.Moves l v → P v) : P t := by
  induction H with
  | refl => exact h0
  | tail _ N ih =>
    obtain ⟨l, notices, h⟩ := N
    exact hstep ih (step_moves h)

/-! ## Played runs -/

deriving instance DecidableEq for Stage

/-- What the service's runner does is a run. -/
theorem run_run (w : Watch) (wanted : Service σ₁ α₁ β₁ σ₂ α₂ β₂ → Bool) (moves : Nat)
    (s : Service σ₁ α₁ β₁ σ₂ α₂ β₂) (log : List (Nat × Log.Notice)) :
    Run s (run w wanted moves s log).1 := by
  induction moves generalizing s log with
  | zero => exact .refl
  | succ moves ih =>
    unfold run
    split
    next => exact .refl
    split
    next u notices hnext =>
      obtain ⟨l, -, hl⟩ := List.exists_of_findSome?_eq_some hnext
      exact .head ⟨l, notices, hl⟩ (ih ..)
    split
    next => exact .head ⟨.interrupt, [], rfl⟩ (ih ..)
    split
    next wake hwake =>
      split
      next =>
        split
        next u notices hu => exact .head ⟨_, notices, hu⟩ (ih ..)
        next => exact .refl
      next => exact .refl
    next => exact .refl

/-- A source that plays an endless script. It remembers how many lines it has played. -/
def played {α : Type} (name : String) (line : Nat → Line α) : Source Nat α where
  name
  renew n _ := (⟨(line n).latency, fun now => ((line n).speech.reply now, [])⟩, n + 1)

def playedPost (name : String) (settings : Refresh.Settings) (line : Nat → Line Nat) :
    Post Nat Nat Waits where
  prepare _ := .ok ⟨⟨played name line, Backoff.Exponential.strategy, settings, wallFrom .epoch⟩, 0,
    (.fresh settings.backoff, [])⟩
  announcement := .fcmStarting
  refusal := .fcmStart

/-- A credential that lasts so many milliseconds, and no other one. -/
def soleLine (lasts : Int) (n : Nat) : Line Nat :=
  if n = 0 then ⟨.atOnce, .issue 7 (.forMillis lasts)⟩ else ⟨.atOnce, .fail ⟨.io, "gone"⟩⟩

/-- A gateway of certificates that has only one and gives up after so many retries, if at all. -/
def solePost (lasts : Int) (most : Option Nat) : Post Nat Nat Waits :=
  let backoff := { Refresh.Settings.forCertificates.backoff with maxAttempts := most }
  playedPost "sole" { Refresh.Settings.forCertificates with backoff } (soleLine lasts)

end Service

end CredentialKeeper
