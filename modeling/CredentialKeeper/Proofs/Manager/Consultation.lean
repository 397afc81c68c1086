import CredentialKeeper.Proofs.Backoff.Memory
import CredentialKeeper.Proofs.Manager.Sessions

/-! # How a task consults its strategy

A task calls its strategy once for each outcome and in the order of the outcomes: it resets it after
a success, and asks it for a wait after a failure (`Consults`). It does so before it goes to wait
again (`Chronicle.Owes`), at once under a prompt runtime, and for no other reason. So whatever the
failures before the last success were like, an exponential backoff gives the waits of a fresh one
after it. -/

namespace CredentialKeeper.Manager

variable {σ α β : Type}

/-! ## Outcomes and calls -/

def outcome? : Nat × Event α → Option (Nat × Outcome α)
  | (n, .ended o _) => some (n, o)
  | _ => none

/-- The advice since the last success with its instants, the last first. -/
def counsel : List (Nat × Event α) → List (Nat × Backoff.Advice)
  | [] => []
  | (n, .advised advice) :: log => (n, advice) :: counsel log
  | (_, .ended (.ok _) _) :: _ => []
  | _ :: log => counsel log

/-- The call of a strategy that an outcome calls for, a failure with some lag. -/
inductive Answered (lag : Nat → Nat → Prop) : Nat × Outcome α → Backoff.Call → Prop
  | success {n : Nat} {c : Credential α} : Answered lag (n, .ok c) .reset
  | failure {m n : Nat} {f : Failure} (h : lag m n) :
      Answered lag (m, .error f) (.next n)

/-- The logs of a task that consults its strategy as it should, the last event first, with what the
strategy then remembers, and with the failure that it has not been asked about yet. -/
inductive Consults (lag : Nat → Nat → Prop) (s : Backoff.Strategy β) (b₀ : β) :
    List (Nat × Event α) → β → Option Nat → Prop
  | start : Consults lag s b₀ [] b₀ none
  | call {n : Nat} {call : Call α} {log : List (Nat × Event α)} {b : β}
      (H : Consults lag s b₀ log b none) : Consults lag s b₀ ((n, .called call) :: log) b none
  | success {n : Nat} {c : Credential α} {said : List Log.Notice} {log : List (Nat × Event α)}
      {b : β} (H : Consults lag s b₀ log b none) :
      Consults lag s b₀ ((n, .ended (.ok c) said) :: log) (s.reset b) none
  | failure {n : Nat} {f : Failure} {said : List Log.Notice} {log : List (Nat × Event α)} {b : β}
      (H : Consults lag s b₀ log b none) :
      Consults lag s b₀ ((n, .ended (.error f) said) :: log) b (some n)
  | broke {n : Nat} {message : String} {said : List Log.Notice} {log : List (Nat × Event α)} {b : β}
      (H : Consults lag s b₀ log b none) :
      Consults lag s b₀ ((n, .broke message said) :: log) b none
  | advice {m n : Nat} {advice : Backoff.Advice} {log : List (Nat × Event α)} {b b' : β}
      (H : Consults lag s b₀ log b (some m)) (h : lag m n)
      (hb : s.next b n = (advice, b')) :
      Consults lag s b₀ ((n, .advised advice) :: log) b' none

namespace Consults

variable {lag : Nat → Nat → Prop} {s : Backoff.Strategy β} {b₀ b : β}
  {log : List (Nat × Event α)} {owed : Option Nat}

/-- The calls are those that the outcomes call for, but for the last if it has not been made. -/
theorem calls (H : Consults lag s b₀ log b owed) :
    ∃ due calls, b = s.memory b₀ calls ∧ List.Forall₂ (Answered lag) due calls ∧
      (owed = none ∧ log.filterMap outcome? = due ∨
        ∃ m f, owed = some m ∧ log.filterMap outcome? = (m, .error f) :: due) := by
  induction H with
  | start => exact ⟨[], [], rfl, .nil, .inl ⟨rfl, rfl⟩⟩
  | call _ ih | broke _ ih =>
    obtain ⟨due, calls, hb, hcalls, ⟨-, hdue⟩ | ⟨m, f, h, -⟩⟩ := ih
    · exact ⟨due, calls, hb, hcalls, .inl ⟨rfl, hdue⟩⟩
    · cases h
  | @success n c said log b _ ih =>
    obtain ⟨due, calls, rfl, hcalls, ⟨-, hdue⟩ | ⟨m, f, h, -⟩⟩ := ih
    · exact ⟨(n, .ok c) :: due, .reset :: calls, rfl, .cons .success hcalls,
        .inl ⟨rfl, congrArg (List.cons _) hdue⟩⟩
    · cases h
  | @failure n f _ _ _ _ ih =>
    obtain ⟨due, calls, hb, hcalls, ⟨-, hdue⟩ | ⟨m, f', h, -⟩⟩ := ih
    · exact ⟨due, calls, hb, hcalls, .inr ⟨n, f, rfl, congrArg (List.cons _) hdue⟩⟩
    · cases h
  | @advice m n advice log b b' _ h hb ih =>
    obtain ⟨due, calls, rfl, hcalls, ⟨h', -⟩ | ⟨m, f, hm, hdue⟩⟩ := ih
    · cases h'
    · cases hm
      refine ⟨(m, .error f) :: due, .next n :: calls, ?_, .cons (.failure h) hcalls,
        .inl ⟨rfl, hdue⟩⟩
      exact (congrArg Prod.snd hb).symm

/-- There is one advice for each failure since the last success, but for the last if the strategy
has not been asked about it. -/
theorem streak_eq (H : Consults lag s b₀ log b owed) :
    ∃ times, streak log = owed.toList ++ times ∧
      List.Forall₂ lag times ((counsel log).map Prod.fst) := by
  induction H with
  | start => exact ⟨[], rfl, .nil⟩
  | call _ ih | broke _ ih => exact ih
  | success => exact ⟨[], rfl, .nil⟩
  | failure _ ih =>
    obtain ⟨times, hstreak, htimes⟩ := ih
    exact ⟨times, congrArg (List.cons _) hstreak, htimes⟩
  | @advice m n _ _ _ _ _ h _ ih =>
    obtain ⟨times, hstreak, htimes⟩ := ih
    exact ⟨m :: times, hstreak, .cons h htimes⟩

/-- The advice since the last success is the strategy's from its start or its last reset on. -/
theorem counsel_eq (H : Consults lag s b₀ log b owed) :
    ∃ calls, (calls = [] ∨ ∃ earlier, calls = .reset :: earlier) ∧
      (counsel log).map Prod.snd =
        s.answers (s.memory b₀ calls) ((counsel log).map Prod.fst) ∧
      b = s.memory (s.memory b₀ calls) (((counsel log).map Prod.fst).map .next) := by
  induction H with
  | start => exact ⟨[], .inl rfl, rfl, rfl⟩
  | call _ ih | broke _ ih | failure _ ih => exact ih
  | success _ ih =>
    obtain ⟨calls, -, -, hb⟩ := ih
    rw [← Backoff.Strategy.memory_append] at hb
    exact ⟨.reset :: _, .inr ⟨_, rfl⟩, rfl, congrArg s.reset hb⟩
  | advice _ _ hb ih =>
    obtain ⟨calls, hcalls, hcounsel, rfl⟩ := ih
    refine ⟨calls, hcalls, ?_, (congrArg Prod.snd hb).symm⟩
    rw [counsel, List.map_cons, List.map_cons, Backoff.Strategy.answers, ← hcounsel, hb]

end Consults

theorem streak_append {log : List (Nat × Event α)} {n : Nat} {c : Credential α}
    {said : List Log.Notice} : streak (log ++ [(n, .ended (.ok c) said)]) = streak log := by
  induction log with
  | nil => rfl
  | cons r log ih =>
    obtain ⟨m, _ | ⟨_ | _, _⟩ | _ | _⟩ := r <;> simp [streak, ih]

theorem counsel_append {log : List (Nat × Event α)} {n : Nat} {c : Credential α}
    {said : List Log.Notice} : counsel (log ++ [(n, .ended (.ok c) said)]) = counsel log := by
  induction log with
  | nil => rfl
  | cons r log ih =>
    obtain ⟨m, _ | ⟨_ | _, _⟩ | _ | _⟩ := r <;> simp [counsel, ih]

/-! ## The task and its strategy -/

/-- The task is about to ask about a failure if there is one that it has not asked about, unless it
was thrown away. -/
structure Task.Owes (lag : Nat → Nat → Prop) (now : Nat) (t : Task σ α β) (owed : Option Nat) :
    Prop where
  owing : ∀ m, owed = some m →
    t.phase = .planning ∧ t.failures ≠ 0 ∧ lag m now ∨ t.phase = .ended .discarded
  settled : owed = none → t.phase = .spawned ∨ t.phase = .planning → t.failures = 0

namespace Task

section
variable {lag : Nat → Nat → Prop} {p : Plan σ α β} {b₀ : β} {now : Nat} {cells : Cells α}
  {t t' : Task σ α β} {ev : Option (Event α)} {effects : List (Effect α)} {owed : Option Nat}
  {log : List (Nat × Event α)}

theorem Owes.eq_none (O : t.Owes lag now owed) (hplan : t.phase ≠ .planning)
    (hend : t.phase ≠ .ended .discarded) : owed = none := by
  cases owed with
  | none => rfl
  | some m => exact ((O.owing m rfl).elim (fun h => hplan h.1) hend).elim

theorem Owes.of_none (h : t.phase = .spawned ∨ t.phase = .planning → t.failures = 0) :
    t.Owes lag now none :=
  ⟨fun _ hm => (by cases hm), fun _ => h⟩

theorem Owes.asked (O : t.Owes lag now owed) (h : t.phase = .planning) :
    (t.failures = 0 ∧ owed = none) ∨ t.failures ≠ 0 ∧ ∃ m, owed = some m ∧ lag m now := by
  cases owed with
  | none => exact .inl ⟨O.settled rfl (.inr h), rfl⟩
  | some m =>
    rcases O.owing m rfl with ⟨-, hf, hl⟩ | hend
    · exact .inr ⟨hf, m, rfl, hl⟩
    · rw [h] at hend
      cases hend

/-- What a task takes from its strategy it takes for an outcome, and before it waits. -/
theorem Moves.consults (M : t.Moves p now cells ev t' effects) (hlag : ∀ n, lag n n)
    (H : Consults lag p.backoff b₀ log t.backoff owed) (O : t.Owes lag now owed) :
    ∃ owed', Consults lag p.backoff b₀ (ev.toList.map (now, ·) ++ log) t'.backoff owed' ∧
      t'.Owes lag now owed' := by
  have hnone : t.phase ≠ .planning → owed = none := fun h => O.eq_none h (M.not_ended _)
  cases M with
  | begin h =>
    obtain rfl := hnone (by simp [h])
    exact ⟨none, H, .of_none fun _ => O.settled rfl (.inl h)⟩
  | schedule h hf | timeless h hf =>
    obtain ⟨-, rfl⟩ | ⟨hne, -⟩ := O.asked h
    · exact ⟨none, H, .of_none (by simp)⟩
    · exact absurd hf hne
  | retry h hf hb | giveUp h hf hb | overflow h hf hb =>
    obtain ⟨hzero, -⟩ | ⟨-, m, rfl, hl⟩ := O.asked h
    · exact absurd hzero hf
    · exact ⟨none, .advice H hl hb, .of_none (by simp)⟩
  | cancel _ h =>
    obtain rfl := hnone (by rcases h with ⟨wake, h⟩ | h | ⟨call, h⟩ <;> simp [h])
    exact ⟨none, H, .of_none (by simp)⟩
  | wakeUp h =>
    obtain rfl := hnone (by simp [h])
    exact ⟨none, H, .of_none (by simp)⟩
  | call h =>
    obtain rfl := hnone (by simp [h])
    exact ⟨none, .call H, .of_none (by simp)⟩
  | succeed h =>
    obtain rfl := hnone (by simp [h])
    exact ⟨none, .success H, .of_none fun _ => rfl⟩
  | fail h | timeOut h =>
    obtain rfl := hnone (by simp [h])
    exact ⟨some now, .failure H,
      fun m hm => .inl ⟨rfl, Nat.succ_ne_zero _, Option.some.inj hm ▸ hlag now⟩,
      fun hm => by cases hm⟩
  | crash h =>
    obtain rfl := hnone (by simp [h])
    exact ⟨none, .broke H, .of_none (by simp)⟩

theorem Discards.owes (D : t.Discards p t' effects) (O : t.Owes lag now owed) :
    t'.backoff = t.backoff ∧ t'.Owes lag now owed := by
  cases D with
  | late => exact ⟨rfl, O⟩
  | early | midway => exact ⟨rfl, fun _ _ => .inr rfl, fun _ h => by simp at h⟩

end

end Task

namespace Chronicle
open Interleaving

variable {admits : Discipline σ α β} {lag : Nat → Nat → Prop} {p : Plan σ α β} {b₀ : β}
  {init : List (Nat × Event α)} {x y z : Chronicle σ α β}

/-- What has happened since `init` was the log, and what the strategy remembers, is as it should. -/
def Consulted (lag : Nat → Nat → Prop) (p : Plan σ α β) (b₀ : β) (init : List (Nat × Event α))
    (x : Chronicle σ α β) : Prop :=
  x.session.plan = p ∧ ∃ loop owed, x.log = loop ++ init ∧
    Consults lag p.backoff b₀ loop x.session.task.backoff owed ∧
    x.session.task.Owes lag x.session.now owed

theorem launched_consulted (lag : Nat → Nat → Prop) (p : Plan σ α β) (now : Nat) (source : σ)
    (backoff : β) (c : Credential α) (history : List (Nat × Effect α)) :
    (launched p now source backoff c history).Consulted lag p backoff
      (launched p now source backoff c history).log :=
  ⟨rfl, [], none, rfl, .start, .of_none fun _ => rfl⟩

/-- A runtime keeps to a lag if a task that is about to ask does not wait for longer than that. -/
structure Keeps (admits : Discipline σ α β) (lag : Nat → Nat → Prop) : Prop where
  refl : ∀ n, lag n n
  tick : ∀ {x : Chronicle σ α β} {nanos m : Nat}, admits x.manager (.tick nanos) →
    x.session.task.phase = .planning → lag m x.session.now → lag m (x.session.now + nanos)

theorem free_keeps : Keeps (free : Discipline σ α β) (· ≤ ·) where
  refl := Nat.le_refl
  tick _ _ h := Nat.le_add_right_of_le h

theorem prompt_keeps : Keeps (prompt : Discipline σ α β) (· = ·) where
  refl _ := rfl
  tick {x nanos m} had hplan h := by
    obtain ⟨-, hidle⟩ := had
    rcases Nat.eq_zero_or_pos nanos with rfl | hnanos
    · exact h
    · have hstep := hidle 0 hnanos
      rw [Task.step, show x.manager.session.task.phase = .planning from hplan] at hstep
      cases hstep

theorem Run.consulted (K : Keeps admits lag) (H : Run admits x y) (hx : x.manager.Sound)
    (C : x.Consulted lag p b₀ init) : y.Consulted lag p b₀ init := by
  refine H.induct hx C fun {y z} C A => ?_
  obtain ⟨rfl, loop, owed, hlog, H, O⟩ := C
  cases A with
  | decide _ M =>
    obtain ⟨owed', H, O⟩ := M.consults K.refl H O
    refine ⟨rfl, _, owed', ?_, H, O⟩
    rw [List.append_assoc, ← hlog]
  | perform => exact ⟨rfl, loop, owed, hlog, H, O⟩
  | discard _ _ D =>
    obtain ⟨hb, O⟩ := D.owes O
    exact ⟨rfl, loop, owed, hlog, hb ▸ H, O⟩
  | others B => exact ⟨B.plan, loop, owed, hlog, B.task ▸ H, B.task ▸ B.now ▸ O⟩
  | tick had =>
    exact ⟨rfl, loop, owed, hlog, H,
      fun m hm => (O.owing m hm).imp_left fun ⟨hp, hf, hl⟩ => ⟨hp, hf, K.tick had hp hl⟩, O.settled⟩

end Chronicle

/-! ## Calls on record -/

namespace Effect

def consult? : Effect α → Option (Effect α)
  | .backoffAsked advice => some (.backoffAsked advice)
  | .backoffReset => some .backoffReset
  | _ => none

end Effect

/-- The calls of a strategy that come with an event; one that fails in a call leaves no record. -/
def Event.consults : Event α → List (Effect α)
  | .ended (.ok _) _ => [.backoffReset]
  | .advised .overflow => []
  | .advised advice => [.backoffAsked advice]
  | _ => []

theorem consult_reports (p : Plan σ α β) : Reports p Effect.consult? Event.consults where
  outside e h := by cases e <;> first | rfl | cases h
  closing := rfl
  moves M := by
    cases M <;>
      simp [closing, heard_filterMap, Effect.consult?, Event.consults, List.filterMap_cons]

/-! ## The startup -/

section
variable {p : Plan σ α β} {now : Nat} {history : List (Nat × Effect α)}

/-- Nothing on record is a call of a strategy. -/
def Unconsulted (history : List (Nat × Effect α)) : Prop :=
  history.filterMap (fun r => r.2.consult?) = []

theorem Unconsulted.record (H : Unconsulted history) {es : List (Effect α)}
    (hes : es.filterMap Effect.consult? = []) : Unconsulted (Session.record now history es) := by
  have hmap : (es.map (now, ·)).filterMap (fun r => r.2.consult?) = [] := by
    rw [List.filterMap_map]
    exact hes
  rw [Unconsulted, Session.record_eq, List.filterMap_append, List.filterMap_reverse, hmap]
  exact H

theorem Startup.receive_consults (p : Plan σ α β) (now : Nat) (s : Startup σ α)
    (call : PendingCall α) :
    (s.receive p now call).2.filterMap Effect.consult? = [] := by
  unfold Startup.receive
  obtain ⟨reply, said⟩ := call.call.reply (p.wall now)
  have hheard : (heard call said).filterMap Effect.consult? = [] := by
    simp [heard_filterMap, Effect.consult?]
  cases reply with
  | outcome o =>
    show (heard call said ++ _).filterMap _ = []
    cases o <;> rw [List.filterMap_append, hheard] <;> rfl
  | crash message =>
    show (heard call said ++ _).filterMap _ = []
    rw [List.filterMap_append, hheard]
    rfl

theorem Startup.step_consults {s s' : Startup σ α} {effects : List (Effect α)}
    (h : s.step p now = some (s', effects)) : effects.filterMap Effect.consult? = [] := by
  unfold Startup.step at h
  split at h
  next call _ =>
    split at h
    next =>
      have hreceive := receive_consults p now s call
      rwa [Option.some.inj h] at hreceive
    next => cases h; rfl
    next => cases h
  next =>
    split at h
    next => cases h; rfl
    next => cases h
  next => cases h
  next => cases h

theorem Unconsulted.settle (H : Unconsulted history) (p : Plan σ α β) (now fuel : Nat)
    (s : Startup σ α) :
    Unconsulted (Started.settle p now fuel s history).2 := by
  induction fuel generalizing s history with
  | zero => exact H
  | succ fuel ih =>
    rw [Started.settle]
    split
    next => exact H
    next h => exact ih (H.record (Startup.step_consults h)) _

theorem Unconsulted.run {backoff : β} {limit fuel : Nat} {startup : Startup σ α}
    {s : Session σ α β} (H : Unconsulted history)
    (h : Started.run p backoff limit fuel now startup history = .ok s) :
    s.task.backoff = backoff ∧ Unconsulted s.history := by
  induction fuel generalizing now startup history with
  | zero => cases h
  | succ fuel ih =>
    have hsettle := H.settle p now 3 startup
    simp only [Started.run] at h
    split at h
    next => cases h; exact ⟨rfl, hsettle.record rfl⟩
    next => cases h
    next =>
      split at h
      next =>
        split at h
        next => exact ih hsettle h
        next => cases h
      next => cases h

/-- A start does not call the strategy, however often it calls the source. -/
theorem start_consults {source : σ} {backoff : β} {limit : Nat} {s : Session σ α β}
    (h : start p source backoff limit = .ok s) :
    s.task.backoff = backoff ∧ Unconsulted s.history := by
  have hnone : Unconsulted ([] : List (Nat × Effect α)) := rfl
  exact (hnone.record rfl).run h

end

namespace Chronicle
open Interleaving

variable {lag : Nat → Nat → Prop} {p : Plan σ α β} {b₀ : β} {init : List (Nat × Event α)}
  {x y : Chronicle σ α β}

/-! ## The calls of a run -/

/-- Since `init` was the log the strategy has been called for the outcomes, each in its turn, and
for nothing else; it may be about to be called for the last. -/
def CallsFit (lag : Nat → Nat → Prop) (p : Plan σ α β) (b₀ : β) (init : List (Nat × Event α))
    (x : Chronicle σ α β) : Prop :=
  ∃ loop owed due calls, x.log = loop ++ init ∧ loop.filterMap outcome? = owed ++ due ∧
    List.Forall₂ (Answered lag) due calls ∧
    x.session.task.backoff = p.backoff.memory b₀ calls ∧
    (owed = [] ∨ owed.length = 1 ∧
      (x.session.task.phase = .planning ∨ x.session.task.phase = .ended .discarded))

/-- What a strategy that writes down its calls has written fits the outcomes. -/
theorem CallsFit.recorded {p : Plan σ α (List Backoff.Call)}
    {x : Chronicle σ α (List Backoff.Call)} {advise : List Backoff.Call → Nat → Backoff.Advice}
    (hp : p.backoff = .recorder advise) (C : x.CallsFit lag p [] init) :
    ∃ loop owed due, x.log = loop ++ init ∧ loop.filterMap outcome? = owed ++ due ∧
      List.Forall₂ (Answered lag) due x.session.task.backoff := by
  obtain ⟨loop, owed, due, calls, hlog, hdue, hcalls, hb, -⟩ := C
  rw [hp, Backoff.Strategy.memory_recorder] at hb
  exact ⟨loop, owed, due, hlog, hdue, hb ▸ hcalls⟩

namespace Consulted

theorem callsFit (C : x.Consulted lag p b₀ init) : x.CallsFit lag p b₀ init := by
  obtain ⟨-, loop, owed, hlog, H, O⟩ := C
  obtain ⟨due, calls, hb, hcalls, ⟨-, hdue⟩ | ⟨m, f, hm, hdue⟩⟩ := H.calls
  · exact ⟨loop, [], due, calls, hlog, hdue, hcalls, hb, .inl rfl⟩
  · exact ⟨loop, [(m, .error f)], due, calls, hlog, hdue, hcalls, hb,
      .inr ⟨rfl, (O.owing m hm).imp_left And.left⟩⟩

variable {n : Nat} {c : Credential α}

theorem streak_eq (C : x.Consulted lag p b₀ [(n, .ended (.ok c) [])]) :
    ∃ owed times, streak x.log = owed ++ times ∧ owed.length ≤ 1 ∧
      List.Forall₂ lag times ((counsel x.log).map Prod.fst) := by
  obtain ⟨-, loop, owed, hlog, H, -⟩ := C
  obtain ⟨times, hstreak, htimes⟩ := H.streak_eq
  rw [hlog, streak_append, counsel_append]
  refine ⟨owed.toList, times, hstreak, ?_, htimes⟩
  cases owed <;> simp

/-- The advice since the last success is that of a fresh backoff. -/
theorem counsel_eq {q : Plan σ α (Backoff.Exponential × List Binary64)}
    {x : Chronicle σ α (Backoff.Exponential × List Binary64)} {s : Backoff.Settings}
    {draws : List Binary64} (hq : q.backoff = Backoff.Exponential.strategy)
    (C : x.Consulted lag q (.fresh s, draws) [(n, .ended (.ok c) [])]) :
    ∃ left, left <:+ draws ∧ (counsel x.log).map Prod.snd =
      Backoff.Exponential.strategy.answers (.fresh s, left)
        ((counsel x.log).map Prod.fst) := by
  obtain ⟨-, loop, owed, hlog, H, -⟩ := C
  rw [hq] at H
  obtain ⟨calls, hcalls, hcounsel, -⟩ := H.counsel_eq
  obtain ⟨left, hleft, hmemory⟩ := Backoff.Exponential.memory_renewed hcalls
  rw [hlog, counsel_append]
  exact ⟨left, hleft, hmemory ▸ hcounsel⟩

end Consulted

/-- **A strategy is called once for each outcome.** Let `x` be any state of any run. The strategy
has been reset for each success of the task and asked for each failure, in their order, at once
under a prompt runtime, and otherwise left alone: neither the startup nor a renewal that comes to no
outcome has to do with it, and there is no call once it has had no more waits.

So let `z` be any state of a run with an exponential backoff. What the backoff has said since the
last success is what a fresh one says at the times of these failures, whatever came before them. Its
waits are those of a fresh one without anything random about them, but for the random part. -/
theorem strategy_called_once_for_each_outcome {now : Nat} {source : σ} {backoff : β}
    {c : Credential α} {history : List (Nat × Effect α)} {start : Chronicle σ α β}
    (hstart : start = launched p now source backoff c history)
    (hx : Run free start x) (hy : Run free x y) :
    (x.CallsFit (· ≤ ·) p backoff start.log ∧
      (Run prompt start x → x.CallsFit (· = ·) p backoff start.log)) ∧
    -- what is on record, from the first call of the source on
    ((effectsTo start x ++ x.manager.taskAhead).filterMap Effect.consult? =
        (eventsTo start x).flatMap Event.consults ∧
      ∀ {source limit s}, Manager.start p source backoff limit = .ok s →
        s.task.backoff = backoff ∧ Unconsulted s.history) ∧
    (Exhausted x.log → y.log = x.log ∧ y.session.task.backoff = x.session.task.backoff) ∧
    -- exponential backoffs
    ∀ {q : Plan σ α (Backoff.Exponential × List Binary64)} {s : Backoff.Settings}
      {draws : List Binary64} {z : Chronicle σ α (Backoff.Exponential × List Binary64)},
      q.backoff = Backoff.Exponential.strategy →
      Run free (launched q now source (.fresh s, draws) c history) z →
      ∃ left, left <:+ draws ∧
        (counsel z.log).map Prod.snd = Backoff.Exponential.strategy.answers (.fresh s, left)
          ((counsel z.log).map Prod.fst) ∧
        (.overflow ∉ (counsel z.log).map Prod.snd →
          List.Forall₂ (Backoff.Exponential.Jittered s.randomizationFactor)
            (Backoff.Exponential.strategy.answers (.fresh s.steady, [])
              ((counsel z.log).map Prod.fst))
            ((counsel z.log).map Prod.snd)) ∧
        (Run prompt (launched q now source (.fresh s, draws) c history) z →
          ∃ owed, owed.length ≤ 1 ∧
            streak z.log = owed ++ (counsel z.log).map Prod.fst) := by
  have N : start.Begins c := hstart ▸ launched_begins p now source backoff c history
  have B0 : start.Books p := hstart ▸ launched_books p now source backoff c history
  have C0 : ∀ lag, start.Consulted lag p backoff start.log := fun lag =>
    hstart ▸ launched_consulted lag p now source backoff c history
  have hxs := hx.sound N.sound
  refine ⟨⟨(hx.consulted free_keeps N.sound (C0 _)).callsFit, fun hp =>
    (hp.consulted prompt_keeps N.sound (C0 _)).callsFit⟩, ⟨?_, start_consults⟩, fun hex => ?_, ?_⟩
  · have hrecord := (consult_reports start.session.plan).effectsTo_append rfl N.sound hx
    rwa [N.taskAhead, List.filterMap_nil, List.nil_append] at hrecord
  · have L := hy.lingers hxs ((hx.books N.sound B0).ended_of_exhausted hex)
    exact ⟨L.log, congrArg Task.backoff L.task⟩
  · intro q s draws z hq hz
    have hqs := ofFirst_sound q now source (.fresh s, draws) c history
    have C := hz.consulted free_keeps hqs (launched_consulted ..)
    obtain ⟨left, hleft, hcounsel⟩ := C.counsel_eq hq
    refine ⟨left, hleft, hcounsel, fun hover => ?_, fun hp => ?_⟩
    · rw [hcounsel] at hover ⊢
      exact (Backoff.Exponential.answers_jittered [] hover).1
    · have C := hp.consulted prompt_keeps hqs (launched_consulted ..)
      obtain ⟨owed, times, hstreak, hlen, htimes⟩ := C.streak_eq
      rw [List.forall₂_eq_eq_eq] at htimes
      exact ⟨owed, hlen, htimes ▸ hstreak⟩

/-- A manager whose source fails twice, issues a credential and fails from then on. -/
def flaky (strategy : Backoff.Strategy β) (backoff : β) : Chronicle (List (Line Nat)) Nat β :=
  let failure : Line Nat := ⟨.atOnce, .fail ⟨.io, "gone"⟩⟩
  launched ⟨scripted "sample" failure, strategy, .standard, wallFrom .epoch⟩ 0
    [failure, failure, ⟨.atOnce, .issue 8 (.forMillis 10000)⟩] backoff ⟨7, .epoch, .epoch⟩ []

/-- Up to the first failure after the success, if the waits of the first two are half a second and
twice as much. -/
def twoStreaks : List Move :=
  List.replicate 3 .task ++ [.tick (millis 1000)] ++ List.replicate 9 .task ++
    [.tick (millis 500)] ++ List.replicate 9 .task ++ [.tick (millis 1000)] ++
    List.replicate 12 .task ++ [.tick (millis 1000)] ++ List.replicate 7 .task

def noting : Chronicle (List (Line Nat)) Nat (List Backoff.Call) :=
  flaky (.recorder fun calls _ => .retryAfter (.ofMillis (if calls.isEmpty then 500 else 1000))) []

def noted : Chronicle (List (Line Nat)) Nat (List Backoff.Call) :=
  noting.after isPrompt twoStreaks (by decide +kernel)

def doubling : Backoff.Settings :=
  { Backoff.Settings.standard with multiplier := .ofRatio 2 1, randomizationFactor := .zero }

def growing : Chronicle (List (Line Nat)) Nat (Backoff.Exponential × List Binary64) :=
  flaky Backoff.Exponential.strategy (.fresh doubling, [])

def grown : Chronicle (List (Line Nat)) Nat (Backoff.Exponential × List Binary64) :=
  growing.after isPrompt twoStreaks (by decide +kernel)

/-- The strategy has been called four times, and the waits start over after the success. -/
theorem advice_starts_over :
    (noted.session.task.backoff =
        [.next (millis 3500), .reset, .next (millis 1500), .next (millis 1000)] ∧
      ∃ loop owed due, noted.log = loop ++ noting.log ∧
        loop.filterMap outcome? = owed ++ due ∧
        List.Forall₂ (Answered (· = ·)) due noted.session.task.backoff) ∧
    (counsel grown.log = [(millis 3500, .retryAfter (.ofMillis 500))] ∧
      Backoff.Exponential.strategy.answers (.fresh doubling, []) [millis 3500] =
        [.retryAfter (.ofMillis 500)]) := by
  have hx : Run prompt noting noted := run_after prompt_of_isPrompt _
  have hz : Run prompt growing grown := run_after prompt_of_isPrompt _
  have hfree : Run free noting noted := Run.mono (fun _ _ _ => trivial) hx
  have hstart : noting = launched _ _ _ _ _ _ := rfl
  obtain ⟨⟨-, hcalls⟩, -, -, hexp⟩ := strategy_called_once_for_each_outcome hstart hfree .refl
  obtain ⟨left, hleft, hcounsel, -⟩ := hexp (q := growing.session.plan) rfl
    (Run.mono (fun _ _ _ => trivial) hz)
  have hgrown : counsel grown.log = [(millis 3500, .retryAfter (.ofMillis 500))] := by
    decide +kernel
  rw [List.suffix_nil.1 hleft, hgrown] at hcounsel
  exact ⟨⟨by decide +kernel, (hcalls hx).recorded rfl⟩, hgrown, hcounsel.symm⟩

end Chronicle

end CredentialKeeper.Manager
