import CredentialKeeper.Proofs.Manager.Exhaustion
import CredentialKeeper.Proofs.Time.Waits

/-! # The timeline of renewals

`Timeline` is the recurrence that the events of a manager follow if the runtime is prompt: when a
call is made after a success and after a failure (`CallDue`), and when and how a call ends
(`Ending`). It is about events and instants alone and knows no task.
That the task follows it is the invariant `Chronicle.Paced`, which also says for each phase of the
task how the last event and the time fit it. -/

namespace CredentialKeeper.Manager

variable {σ α β : Type}

/-- A log that is the one of its length among the ends of another is one of these ends. -/
theorem suffix_of_eq_end {γ : Type} {log log' : List γ} (hlen : log'.length ≤ log.length)
    (heq : ∀ later earlier, log = later ++ earlier → log'.length = earlier.length →
      log' = earlier) : log' <:+ log := by
  have hsplit := List.take_append_drop (log.length - log'.length) log
  have hdrop : log'.length = (log.drop (log.length - log'.length)).length := by
    rw [List.length_drop]
    omega
  rw [heq _ _ hsplit.symm hdrop]
  exact List.drop_suffix ..

/-! ## The recurrence -/

/-- The instant of the answer to a call that is made at an instant, if there is one. -/
def Latency.answerAt : Latency → Nat → Option Nat
  | atOnce, t => some t
  | after nanos, t => some (t + nanos)
  | never, _ => none

/-- After an event at the end of a log the next call is due at the instant `u`. -/
inductive CallDue (p : Plan σ α β) : List (Nat × Event α) → Nat → Prop
  | onSchedule {t u : Nat} {c : Credential α} {said : List Log.Notice} {w : Moment}
      {log : List (Nat × Event α)} (hw : p.wall t = some w)
      (hu : EndsWait t (renewalWait p.settings c.expiresAt w) u) :
      CallDue p ((t, .ended (.ok c) said) :: log) u
  | onAdvice {t u : Nat} {wait : Span} {log : List (Nat × Event α)}
      (hu : EndsWait t wait.nanos u) :
      CallDue p ((t, .advised (.retryAfter wait)) :: log) u

def Event.ofReply : Reply α × List Log.Notice → Event α
  | (.outcome o, said) => .ended o said
  | (.crash message, said) => .broke message said

theorem Event.eq_of_ofReply {answer : Reply α × List Log.Notice} {o : Outcome α}
    {said : List Log.Notice} (h : ofReply answer = .ended o said) :
    answer = (.outcome o, said) := by
  obtain ⟨reply, notices⟩ := answer
  cases reply with
  | outcome o =>
    cases h
    rfl
  | crash message => cases h

/-- A call that is made at the instant `t` ends at `u` with an event. -/
inductive Ending (p : Plan σ α β) (call : Call α) (t : Nat) : Nat → Event α → Prop
  | answered {u deadline : Nat} (hu : call.latency.answerAt t = some u)
      (hd : EndsWait t p.settings.renewTimeout.nanos deadline) (hle : u ≤ deadline) :
      Ending p call t u (.ofReply (call.reply (p.wall u)))
  /-- An answer that would come later is not waited for. -/
  | tooLate {deadline : Nat} (hd : EndsWait t p.settings.renewTimeout.nanos deadline)
      (hlt : ∀ u, call.latency.answerAt t = some u → deadline < u) :
      Ending p call t deadline (.ended (.error (.timedOut p.settings.renewTimeout)) [])

/-- The logs, the last event first, that a first credential `c` at the instant `t₀` may lead to,
and what the source and the strategy then remember. -/
inductive Timeline (p : Plan σ α β) (t₀ : Nat) (c : Credential α) (source₀ : σ) (backoff₀ : β) :
    σ → β → List (Nat × Event α) → Prop
  | launch : Timeline p t₀ c source₀ backoff₀ source₀ backoff₀ [(t₀, .ended (.ok c) [])]
  | call {source source' : σ} {backoff : β} {log : List (Nat × Event α)} {u : Nat} {call : Call α}
      (H : Timeline p t₀ c source₀ backoff₀ source backoff log) (hu : CallDue p log u)
      (hr : p.source.renew source (p.wall u) = (call, source')) :
      Timeline p t₀ c source₀ backoff₀ source' backoff ((u, .called call) :: log)
  | ending {source : σ} {backoff : β} {log : List (Nat × Event α)} {t u : Nat} {call : Call α}
      {ev : Event α}
      (H : Timeline p t₀ c source₀ backoff₀ source backoff ((t, .called call) :: log))
      (he : Ending p call t u ev) :
      Timeline p t₀ c source₀ backoff₀ source
        (if ev.success?.isSome then p.backoff.reset backoff else backoff)
        ((u, ev) :: (t, .called call) :: log)
  /-- The strategy is asked after a failure and at once. -/
  | asked {source : σ} {backoff backoff' : β} {log : List (Nat × Event α)} {t : Nat} {f : Failure}
      {said : List Log.Notice} {advice : Backoff.Advice}
      (H : Timeline p t₀ c source₀ backoff₀ source backoff ((t, .ended (.error f) said) :: log))
      (hb : p.backoff.next backoff t = (advice, backoff')) :
      Timeline p t₀ c source₀ backoff₀ source backoff'
        ((t, .advised advice) :: (t, .ended (.error f) said) :: log)

/-- After an event at the end of a log the next one is due at the instant `u`. -/
inductive Due (p : Plan σ α β) : List (Nat × Event α) → Nat → Prop
  | call {log : List (Nat × Event α)} {u : Nat} (h : CallDue p log u) : Due p log u
  | ending {log : List (Nat × Event α)} {t u : Nat} {call : Call α} {ev : Event α}
      (h : Ending p call t u ev) : Due p ((t, .called call) :: log) u
  | asked {log : List (Nat × Event α)} {t : Nat} {f : Failure} {said : List Log.Notice} :
      Due p ((t, .ended (.error f) said) :: log) t

/-- After an event at the end of a log there is none to come. -/
inductive Over (p : Plan σ α β) : List (Nat × Event α) → Prop
  | exhausted {log : List (Nat × Event α)} {t : Nat} : Over p ((t, .advised .exhausted) :: log)
  | overflow {log : List (Nat × Event α)} {t : Nat} : Over p ((t, .advised .overflow) :: log)
  | broke {log : List (Nat × Event α)} {t : Nat} {message : String} {said : List Log.Notice} :
      Over p ((t, .broke message said) :: log)
  /-- The clock has gone past the last moment. -/
  | timeless {log : List (Nat × Event α)} {t : Nat} {c : Credential α} {said : List Log.Notice}
      (h : p.wall t = none) : Over p ((t, .ended (.ok c) said) :: log)

/-! ## Nothing is left open -/

section
variable {p : Plan σ α β} {t u u' : Nat} {log : List (Nat × Event α)}

theorem CallDue.unique (h : CallDue p log u) (h' : CallDue p log u') : u = u' := by
  cases h with
  | onSchedule hw hu =>
    cases h' with
    | onSchedule hw' hu' =>
      cases hw.symm.trans hw'
      exact hu.unique hu'
  | onAdvice hu =>
    cases h' with
    | onAdvice hu' => exact hu.unique hu'

/-- The least interval lies between a success and the next call, but for the thirty years. -/
theorem CallDue.separated {c : Credential α} {said : List Log.Notice}
    (h : CallDue p ((t, .ended (.ok c) said) :: log) u) :
    t + min p.settings.minRefreshInterval.nanos thirtyYears ≤ u := by
  cases h with
  | onSchedule hw hu =>
    have hle := hu.min_le
    have hmin := le_renewalWait p.settings c.expiresAt ‹Moment›
    omega

theorem Ending.le {call : Call α} {ev : Event α} (h : Ending p call t u ev) : t ≤ u := by
  cases h with
  | answered hu =>
    revert hu
    cases call.latency <;> simp only [Latency.answerAt] <;> grind
  | tooLate hd => exact hd.le

theorem Ending.le_deadline {call : Call α} {ev : Event α} (h : Ending p call t u ev) :
    ∃ deadline, EndsWait t p.settings.renewTimeout.nanos deadline ∧ u ≤ deadline := by
  cases h with
  | answered _ hd hle => exact ⟨_, hd, hle⟩
  | tooLate hd => exact ⟨_, hd, Nat.le_refl _⟩

theorem Ending.ne_called {call call' : Call α} {ev : Event α} (h : Ending p call t u ev) :
    ev ≠ .called call' := by
  cases h with
  | answered =>
    obtain ⟨r, said⟩ := call.reply (p.wall u)
    cases r <;> simp [Event.ofReply]
  | tooLate => simp

theorem Ending.ne_advised {call : Call α} {ev : Event α} {advice : Backoff.Advice}
    (h : Ending p call t u ev) : ev ≠ .advised advice := by
  cases h with
  | answered =>
    obtain ⟨r, said⟩ := call.reply (p.wall u)
    cases r <;> simp [Event.ofReply]
  | tooLate => simp

theorem Ending.unique {call : Call α} {ev ev' : Event α} (h : Ending p call t u ev)
    (h' : Ending p call t u' ev') : u = u' ∧ ev = ev' := by
  cases h with
  | answered hu hd hle =>
    cases h' with
    | answered hu' _ _ =>
      obtain rfl := Option.some.inj (hu.symm.trans hu')
      exact ⟨rfl, rfl⟩
    | tooLate hd' hlt =>
      obtain rfl := hd.unique hd'
      exact absurd (hlt _ hu) (Nat.not_lt.2 hle)
  | tooLate hd hlt =>
    cases h' with
    | answered hu' hd' hle' =>
      obtain rfl := hd.unique hd'
      exact absurd (hlt _ hu') (Nat.not_lt.2 hle')
    | tooLate hd' _ => exact ⟨hd.unique hd', rfl⟩

end

namespace Timeline

variable {p : Plan σ α β} {t₀ : Nat} {c : Credential α} {source₀ source source' : σ}
  {backoff₀ backoff backoff' : β} {log log' : List (Nat × Event α)}

theorem tail {e : Nat × Event α} (H : Timeline p t₀ c source₀ backoff₀ source backoff (e :: log))
    (h : log ≠ []) :
    ∃ source' backoff', Timeline p t₀ c source₀ backoff₀ source' backoff' log := by
  cases H with
  | launch => exact absurd rfl h
  | call H => exact ⟨_, _, H⟩
  | ending H => exact ⟨_, _, H⟩
  | asked H => exact ⟨_, _, H⟩

theorem of_append {later : List (Nat × Event α)}
    (H : Timeline p t₀ c source₀ backoff₀ source backoff (later ++ log)) (h : log ≠ []) :
    ∃ source' backoff', Timeline p t₀ c source₀ backoff₀ source' backoff' log := by
  induction later generalizing source backoff with
  | nil => exact ⟨_, _, H⟩
  | cons e later ih =>
    obtain ⟨_, _, H⟩ := H.tail (by simp [h])
    exact ih H

/-- What comes after a call is its end, so no other call is made before. -/
theorem after_call {e : Nat × Event α} {t : Nat} {call : Call α}
    {later earlier : List (Nat × Event α)}
    (H : Timeline p t₀ c source₀ backoff₀ source backoff
      (later ++ e :: (t, .called call) :: earlier)) : Ending p call t e.1 e.2 := by
  obtain ⟨_, _, H⟩ := H.of_append (by simp)
  cases H with
  | call _ hu => cases hu
  | ending _ he => exact he

theorem call_due {u : Nat} {call : Call α} {later earlier : List (Nat × Event α)}
    (H : Timeline p t₀ c source₀ backoff₀ source backoff
      (later ++ (u, .called call) :: earlier)) : CallDue p earlier u := by
  obtain ⟨_, _, H⟩ := H.of_append (by simp)
  cases H with
  | call _ hu => exact hu
  | ending _ he => exact absurd rfl he.ne_called

theorem ne_nil (H : Timeline p t₀ c source₀ backoff₀ source backoff log) : log ≠ [] := by
  cases H <;> simp

/-- A start has one log of each length, and no more than one course of events. -/
theorem unique (H : Timeline p t₀ c source₀ backoff₀ source backoff log)
    (H' : Timeline p t₀ c source₀ backoff₀ source' backoff' log')
    (hlen : log'.length = log.length) : log' = log ∧ source' = source ∧ backoff' = backoff := by
  induction H generalizing source' backoff' log' with
  | launch =>
    cases H' with
    | launch => exact ⟨rfl, rfl, rfl⟩
    | call H' => simp at hlen; exact absurd hlen H'.ne_nil
    | ending H' => simp at hlen
    | asked H' => simp at hlen
  | call H hu hr ih =>
    cases H' with
    | launch => simp at hlen; exact absurd hlen H.ne_nil
    | call H' hu' hr' =>
      obtain ⟨rfl, rfl, rfl⟩ := ih H' (by simpa using hlen)
      obtain rfl := hu.unique hu'
      cases hr.symm.trans hr'
      exact ⟨rfl, rfl, rfl⟩
    | ending H' =>
      obtain ⟨rfl, rfl, rfl⟩ := ih H' (by simpa using hlen)
      cases hu
    | asked H' =>
      obtain ⟨rfl, rfl, rfl⟩ := ih H' (by simpa using hlen)
      cases hu
  | ending H he ih =>
    cases H' with
    | launch => simp at hlen
    | call H' hu' =>
      obtain ⟨rfl, rfl, rfl⟩ := ih H' (by simpa using hlen)
      cases hu'
    | ending H' he' =>
      obtain ⟨hlog, rfl, rfl⟩ := ih H' (by simpa using hlen)
      cases hlog
      obtain ⟨rfl, rfl⟩ := he.unique he'
      exact ⟨rfl, rfl, rfl⟩
    | asked H' =>
      obtain ⟨hlog, -, -⟩ := ih H' (by simpa using hlen)
      cases hlog
  | asked H hb ih =>
    cases H' with
    | launch => simp at hlen
    | call H' hu' =>
      obtain ⟨rfl, rfl, rfl⟩ := ih H' (by simpa using hlen)
      cases hu'
    | ending H' =>
      obtain ⟨hlog, -, -⟩ := ih H' (by simpa using hlen)
      cases hlog
    | asked H' hb' =>
      obtain ⟨hlog, rfl, rfl⟩ := ih H' (by simpa using hlen)
      cases hlog
      cases hb.symm.trans hb'
      exact ⟨rfl, rfl, rfl⟩

end Timeline

/-! ## Calls of the task -/

namespace PendingCall

section
variable {call : PendingCall α} {now a : Nat}

theorem answered_iff :
    call.status now = .answered ↔ ∃ a, call.answerAt = some a ∧ a ≤ now := by
  unfold status
  cases call.answerAt with
  | none => by_cases h : call.deadline ≤ now <;> simp [h]
  | some a => by_cases ha : a ≤ now <;> by_cases h : call.deadline ≤ now <;> simp [ha, h]

theorem timedOut_iff : call.status now = .timedOut ↔
    call.deadline ≤ now ∧ ∀ a, call.answerAt = some a → now < a := by
  unfold status
  cases call.answerAt with
  | none => by_cases h : call.deadline ≤ now <;> simp [h]
  | some a =>
    by_cases ha : a ≤ now
    · simp [ha]
    · by_cases h : call.deadline ≤ now <;> simp [ha, h, Nat.lt_of_not_le ha]

theorem endsAt_le_deadline : call.endsAt ≤ call.deadline := by
  unfold endsAt
  cases call.answerAt with
  | none => exact Nat.le_refl _
  | some a => exact Nat.min_le_right ..

theorem endsAt_le_answer (h : call.answerAt = some a) : call.endsAt ≤ a := by
  rw [endsAt, h]
  exact Nat.min_le_left ..

theorem endsAt_eq (call : PendingCall α) :
    call.answerAt = some call.endsAt ∨ call.endsAt = call.deadline := by
  unfold endsAt
  cases call.answerAt with
  | none => exact .inr rfl
  | some a =>
    rcases Nat.le_total a call.deadline with h | h
    · exact .inl (congrArg some (Nat.min_eq_left h).symm)
    · exact .inr (Nat.min_eq_right h)

theorem waiting_iff : call.status now = .waiting ↔ now < call.endsAt := by
  constructor
  · intro h
    refine Nat.lt_of_not_le fun hle => ?_
    have hanswered : call.status now ≠ .answered := by simp [h]
    have htimedOut : call.status now ≠ .timedOut := by simp [h]
    rw [Ne, answered_iff] at hanswered
    rcases endsAt_eq call with ha | hd
    · exact hanswered ⟨_, ha, hle⟩
    · refine htimedOut (timedOut_iff.2 ⟨hd ▸ hle, fun a ha => ?_⟩)
      exact Nat.lt_of_not_le fun hge => hanswered ⟨a, ha, hge⟩
  · intro hlt
    cases h : call.status now with
    | waiting => rfl
    | answered =>
      obtain ⟨a, ha, hle⟩ := answered_iff.1 h
      exact absurd (hlt.trans_le (endsAt_le_answer ha)) (Nat.not_lt.2 hle)
    | timedOut =>
      exact absurd (hlt.trans_le endsAt_le_deadline) (Nat.not_lt.2 (timedOut_iff.1 h).1)

end

variable {p : Plan σ α β} {call : Call α} {t now : Nat} {limit : Span}

theorem begin_answerAt : (PendingCall.begin call t limit).answerAt = call.latency.answerAt t := by
  unfold PendingCall.begin Latency.answerAt
  cases call.latency <;> rfl

theorem le_endsAt : t ≤ (PendingCall.begin call t limit).endsAt := by
  have hd : t ≤ tickAfter t limit := (tickAfter_endsWait t limit).le
  unfold endsAt
  rw [begin_answerAt]
  cases call.latency with
  | atOnce => exact Nat.le_min.2 ⟨Nat.le_refl t, hd⟩
  | after nanos => exact Nat.le_min.2 ⟨Nat.le_add_right t nanos, hd⟩
  | never => exact hd

theorem ending_of_answered
    (hs : (PendingCall.begin call t p.settings.renewTimeout).status now = .answered)
    (hle : now ≤ (PendingCall.begin call t p.settings.renewTimeout).endsAt) :
    Ending p call t now (.ofReply (call.reply (p.wall now))) := by
  obtain ⟨a, ha, hge⟩ := answered_iff.1 hs
  obtain rfl := Nat.le_antisymm hge (hle.trans (endsAt_le_answer ha))
  exact .answered (begin_answerAt ▸ ha) (tickAfter_endsWait ..) (hle.trans endsAt_le_deadline)

theorem ending_of_timedOut
    (hs : (PendingCall.begin call t p.settings.renewTimeout).status now = .timedOut)
    (hle : now ≤ (PendingCall.begin call t p.settings.renewTimeout).endsAt) :
    Ending p call t now (.ended (.error (.timedOut p.settings.renewTimeout)) []) := by
  obtain ⟨hge, hlt⟩ := timedOut_iff.1 hs
  obtain rfl := Nat.le_antisymm hge (hle.trans endsAt_le_deadline)
  exact .tooLate (tickAfter_endsWait ..) (begin_answerAt ▸ hlt)

theorem exists_ending (p : Plan σ α β) (call : Call α) (t : Nat) :
    ∃ ev, Ending p call t (PendingCall.begin call t p.settings.renewTimeout).endsAt ev := by
  rcases endsAt_eq (PendingCall.begin call t p.settings.renewTimeout) with h | h
  · exact ⟨_, ending_of_answered (answered_iff.2 ⟨_, h, Nat.le_refl _⟩) (Nat.le_refl _)⟩
  · by_cases ha : (PendingCall.begin call t p.settings.renewTimeout).status
        (PendingCall.begin call t p.settings.renewTimeout).endsAt = .answered
    · exact ⟨_, ending_of_answered ha (Nat.le_refl _)⟩
    · refine ⟨_, ending_of_timedOut (timedOut_iff.2 ⟨h.ge, fun a hsome => ?_⟩) (Nat.le_refl _)⟩
      exact Nat.lt_of_not_le fun hle => ha (answered_iff.2 ⟨a, hsome, hle⟩)

end PendingCall

/-- A task that cannot move waits for the end of its wait or of its call, or has ended. -/
theorem Task.idle {p : Plan σ α β} {now : Nat} {cells : Cells α} {t : Task σ α β}
    (h : t.step p now cells = none) :
    ((∃ wake, t.phase = .waiting wake ∧ now < wake) ∨
        ∃ call, t.phase = .renewing call ∧ now < call.endsAt) ∧ cells.isCancelled = false ∨
      ∃ exit, t.phase = .ended exit := by
  unfold step at h
  split at h
  next => cases h
  next => cases h
  next wake hp =>
    split at h
    next => cases h
    next hc =>
      split at h
      next => cases h
      next hw => exact .inl ⟨.inl ⟨wake, hp, Nat.lt_of_not_le hw⟩, Bool.eq_false_iff.2 hc⟩
  next =>
    split at h
    next => cases h
    next => cases h
  next call hp =>
    split at h
    next => cases h
    next hc =>
      split at h
      next => cases h
      next => cases h
      next hs =>
        exact .inl ⟨.inr ⟨call, hp, PendingCall.waiting_iff.1 hs⟩, Bool.eq_false_iff.2 hc⟩
  next exit hp => exact .inr ⟨exit, hp⟩

/-- A task that waits, and has not been asked to stop, cannot move before its time. -/
theorem Task.step_of_wake {p : Plan σ α β} {now wake : Nat} {cells : Cells α} {t : Task σ α β}
    (h : t.wake? = some wake) (hc : cells.isCancelled = false) (hlt : now < wake) :
    t.step p now cells = none := by
  unfold wake? at h
  split at h
  next hp =>
    cases h
    simp [step, hp, hc, hlt]
  next call hp =>
    cases h
    simp [step, hp, hc, PendingCall.waiting_iff.2 hlt]
  next => cases h

/-- The moves of a prompt runtime that can be told without looking into the future. -/
def Interleaving.isPrompt (s : Interleaving σ α β) : Move → Bool
  | .tick nanos => s.taskAhead.isEmpty && !s.session.cells.isCancelled &&
      s.session.task.wake?.any (s.session.now + nanos ≤ ·)
  | .discard => false
  | _ => true

theorem Interleaving.prompt_of_isPrompt (s : Interleaving σ α β) (m : Move)
    (h : s.isPrompt m = true) : prompt s m := by
  cases m with
  | tick nanos =>
    simp only [isPrompt, Bool.and_eq_true, Bool.not_eq_true', List.isEmpty_iff,
      Option.any_eq_true, decide_eq_true_eq] at h
    obtain ⟨⟨hquiet, hc⟩, wake, hwake, hle⟩ := h
    refine ⟨hquiet, fun k hk => Task.step_of_wake hwake hc ?_⟩
    omega
  | discard => cases h
  | _ => trivial

theorem Cells.isCancelled_apply (cells : Cells α) (e : Effect α) :
    (cells.apply e).isCancelled = true ↔ cells.isCancelled = true ∨ e = .cancelled := by
  cases e with
  | markedRunning => simp only [apply]; split <;> simp [*]
  | _ => simp [apply]

/-- A stop is not taken back, and only a request for one makes it. -/
theorem Cells.isCancelled_applyAll (cells : Cells α) (es : List (Effect α)) :
    (cells.applyAll es).isCancelled = true ↔ cells.isCancelled = true ∨ .cancelled ∈ es := by
  induction es generalizing cells with
  | nil => simp [applyAll]
  | cons e es ih =>
    have h : cells.applyAll (e :: es) = (cells.apply e).applyAll es := rfl
    rw [h, ih, isCancelled_apply, List.mem_cons, or_assoc, eq_comm (a := e)]

/-! ## The task on the timeline -/

namespace Chronicle
open Interleaving

variable {p : Plan σ α β} {t₀ : Nat} {c : Credential α} {source₀ : σ} {backoff₀ : β}
  {x y : Chronicle σ α β}

/-- How a task that the runtime does not keep waiting stands in time after the last event. -/
def InStep (p : Plan σ α β) (x : Chronicle σ α β) : Prop :=
  match x.session.task.phase with
  | .spawned | .planning => ∃ o said log, x.log = (x.session.now, .ended o said) :: log
  | .waiting wake => CallDue p x.log wake ∧ x.session.now ≤ wake
  | .awake => CallDue p x.log x.session.now
  | .renewing call => ∃ t c log, x.log = (t, .called c) :: log ∧
      call = .begin c t p.settings.renewTimeout ∧ x.session.now ≤ call.endsAt
  | .ended _ => x.session.cells.isCancelled = true ∨ Over p x.log

/-- The events are on the timeline, and the task is in step with them. -/
structure Paced (p : Plan σ α β) (t₀ : Nat) (c : Credential α) (source₀ : σ) (backoff₀ : β)
    (x : Chronicle σ α β) : Prop where
  timeline : Timeline p t₀ c source₀ backoff₀ x.session.task.source x.session.task.backoff x.log
  inStep : x.InStep p

theorem launched_paced (p : Plan σ α β) (now : Nat) (source : σ) (backoff : β) (c : Credential α)
    (history : List (Nat × Effect α)) :
    (launched p now source backoff c history).Paced p now c source backoff :=
  ⟨.launch, _, _, _, rfl⟩

/-- A task that is about to plan has had an answer or the lack of one, and its count of failures
tells which. -/
theorem Books.planning (B : x.Books p) (h : x.session.task.phase = .planning) (P : x.InStep p) :
    (∃ c said log, x.log = (x.session.now, .ended (.ok c) said) :: log ∧
        x.session.task.failures = 0) ∨
      ∃ f said log, x.log = (x.session.now, .ended (.error f) said) :: log ∧
        x.session.task.failures ≠ 0 := by
  have hfailures := B.failures
  simp only [InStep, h] at P
  obtain ⟨o, said, log, hlog⟩ := P
  rw [hlog] at hfailures
  cases o with
  | ok c => exact .inl ⟨c, said, log, hlog, hfailures⟩
  | error f => exact .inr ⟨f, said, log, hlog, by rw [hfailures]; simp [streak]⟩

namespace Paced

theorem schedule (P : x.Paced p t₀ c source₀ backoff₀) (B : x.Books p)
    (h : x.session.task.phase = .planning) (hf : x.session.task.failures = 0) :
    ∃ c said log, x.log = (x.session.now, .ended (.ok c) said) :: log := by
  obtain ⟨c, said, log, hlog, -⟩ | ⟨f, said, log, -, hne⟩ := B.planning h P.inStep
  · exact ⟨c, said, log, hlog⟩
  · exact absurd hf hne

theorem asked (P : x.Paced p t₀ c source₀ backoff₀) (B : x.Books p)
    (h : x.session.task.phase = .planning) (hf : x.session.task.failures ≠ 0)
    {advice : Backoff.Advice} {b : β}
    (hb : p.backoff.next x.session.task.backoff x.session.now = (advice, b)) :
    Timeline p t₀ c source₀ backoff₀ x.session.task.source b
      ((x.session.now, .advised advice) :: x.log) := by
  obtain ⟨c, said, log, -, hz⟩ | ⟨f, said, log, hlog, -⟩ := B.planning h P.inStep
  · exact absurd hz hf
  · have T := P.timeline
    rw [hlog] at T ⊢
    exact T.asked hb

theorem answered (P : x.Paced p t₀ c source₀ backoff₀) {call : PendingCall α}
    (h : x.session.task.phase = .renewing call) (hs : call.status x.session.now = .answered)
    {r : Reply α × List Log.Notice} (hr : call.call.reply (p.wall x.session.now) = r) :
    Timeline p t₀ c source₀ backoff₀ x.session.task.source
      (if (Event.ofReply r).success?.isSome then p.backoff.reset x.session.task.backoff
        else x.session.task.backoff)
      ((x.session.now, .ofReply r) :: x.log) := by
  have S := P.inStep
  simp only [InStep, h] at S
  obtain ⟨t, call, log, hlog, rfl, hle⟩ := S
  have T := P.timeline
  have he := PendingCall.ending_of_answered hs hle
  rw [show call.reply (p.wall x.session.now) = r from hr] at he
  rw [hlog] at T ⊢
  exact T.ending he

theorem timedOut (P : x.Paced p t₀ c source₀ backoff₀) {call : PendingCall α}
    (h : x.session.task.phase = .renewing call) (hs : call.status x.session.now = .timedOut) :
    Timeline p t₀ c source₀ backoff₀ x.session.task.source x.session.task.backoff
      ((x.session.now, .ended (.error (.timedOut p.settings.renewTimeout)) []) :: x.log) := by
  have S := P.inStep
  simp only [InStep, h] at S
  obtain ⟨t, call, log, hlog, rfl, hle⟩ := S
  have T := P.timeline
  rw [hlog] at T ⊢
  exact T.ending (PendingCall.ending_of_timedOut hs hle)

/-- What the task decides on follows the recurrence. -/
theorem decide {ev : Option (Event α)} {t : Task σ α β} {effects : List (Effect α)}
    (P : x.Paced p t₀ c source₀ backoff₀) (B : x.Books p)
    (hcur : x.credentials.getLast? = some x.session.cells.current)
    (M : x.session.task.Moves x.session.plan x.session.now x.session.cells ev t effects) :
    (x.decided ev t effects).Paced p t₀ c source₀ backoff₀ := by
  obtain rfl := B.plan
  have T := P.timeline
  have S := P.inStep
  cases M with
  | begin h =>
    simp only [InStep, h] at S
    exact ⟨T, S⟩
  | schedule h hf hw hd =>
    obtain ⟨c', said, log, hlog⟩ := P.schedule B h hf
    have hc' : c' = x.session.cells.current := by
      simpa [credentials, hlog, Event.success?] using hcur
    refine ⟨T, ?_, (tickAfter_endsWait ..).le⟩
    show CallDue x.session.plan x.log _
    rw [hlog]
    refine .onSchedule hw ?_
    rw [hc', ← Task.scheduledDelay_nanos, hd]
    exact tickAfter_endsWait ..
  | timeless h hf hw =>
    obtain ⟨c', said, log, hlog⟩ := P.schedule B h hf
    refine ⟨T, .inr ?_⟩
    show Over x.session.plan x.log
    rw [hlog]
    exact .timeless hw
  | retry h hf hb =>
    exact ⟨P.asked B h hf hb, .onAdvice (tickAfter_endsWait ..), (tickAfter_endsWait ..).le⟩
  | giveUp h hf hb => exact ⟨P.asked B h hf hb, .inr .exhausted⟩
  | overflow h hf hb => exact ⟨P.asked B h hf hb, .inr .overflow⟩
  | cancel hc _ => exact ⟨T, .inl hc⟩
  | @wakeUp wake h hc hw =>
    simp only [InStep, h] at S
    obtain ⟨hdue, hle⟩ := S
    obtain rfl := Nat.le_antisymm hle hw
    exact ⟨T, hdue⟩
  | call h hc hr =>
    simp only [InStep, h] at S
    exact ⟨T.call S hr, _, _, _, rfl, rfl, PendingCall.le_endsAt⟩
  | succeed h hc hs hr => exact ⟨P.answered h hs hr, _, _, _, rfl⟩
  | fail h hc hs hr => exact ⟨P.answered h hs hr, _, _, _, rfl⟩
  | timeOut h hc hs => exact ⟨P.timedOut h hs, _, _, _, rfl⟩
  | crash h hc hs hr => exact ⟨P.answered h hs hr, .inr .broke⟩

/-- It takes the task's own moves, or time, to change how the task stands. -/
theorem frame (P : x.Paced p t₀ c source₀ backoff₀) (htask : y.session.task = x.session.task)
    (hnow : y.session.now = x.session.now) (hlog : y.log = x.log)
    (hc : x.session.cells.isCancelled = true → y.session.cells.isCancelled = true) :
    y.Paced p t₀ c source₀ backoff₀ := by
  have S := P.inStep
  refine ⟨by rw [htask, hlog]; exact P.timeline, ?_⟩
  unfold InStep at S ⊢
  rw [htask, hnow, hlog]
  cases h : x.session.task.phase with
  | ended exit =>
    simp only [h] at S
    exact S.imp_left hc
  | _ =>
    simp only [h] at S
    exact S

/-- Time passes up to the end of a wait or of a call, and no further. -/
theorem tick (P : x.Paced p t₀ c source₀ backoff₀) {nanos : Nat}
    (had : prompt x.manager (.tick nanos)) : (x.ticked nanos).Paced p t₀ c source₀ backoff₀ := by
  obtain ⟨-, hidle⟩ := had
  cases nanos with
  | zero => exact P
  | succ nanos =>
    have S := P.inStep
    refine ⟨P.timeline, ?_⟩
    obtain ⟨⟨wake, h, hlt⟩ | ⟨call, h, hlt⟩, -⟩ | ⟨exit, h⟩ :=
      Task.idle (hidle nanos (Nat.lt_succ_self nanos))
    · simp only [InStep, h] at S ⊢
      exact ⟨S.1, hlt⟩
    · simp only [InStep, h] at S ⊢
      obtain ⟨t, call, log, hlog, rfl, -⟩ := S
      exact ⟨t, call, log, hlog, rfl, hlt⟩
    · simp only [InStep, h] at S ⊢
      exact S

end Paced

theorem Run.paced (H : Run prompt x y) (hbegin : x.Begins c) (B : x.Books p)
    (P : x.Paced p t₀ c source₀ backoff₀) : y.Paced p t₀ c source₀ backoff₀ := by
  induction H with
  | refl => exact P
  | @tail y z H N P =>
    have H : Run prompt x y := H
    cases N.advance (H.sound hbegin.sound) with
    | decide h M =>
      exact P.decide (H.books hbegin.sound B) (hbegin.getLast?_credentials H (.inr h)) M
    | perform h =>
      exact P.frame rfl rfl rfl fun hc => (Cells.isCancelled_apply ..).2 (.inl hc)
    | discard had => exact had.elim
    | others O =>
      refine P.frame O.task O.now rfl fun hc => ?_
      rw [O.cells]
      exact (Cells.isCancelled_applyAll ..).2 (.inl hc)
    | tick had => exact P.tick had

/-- A task that goes on is not overdue, and one that has ended unasked was done. -/
theorem Paced.due (P : x.Paced p t₀ c source₀ backoff₀)
    (hc : x.session.cells.isCancelled = false) :
    ((∃ exit, x.session.task.phase = .ended exit) → Over p x.log) ∧
      ((∀ exit, x.session.task.phase ≠ .ended exit) →
        p.wall x.session.now = none ∨ ∃ u, Due p x.log u ∧ x.session.now ≤ u) := by
  have S := P.inStep
  unfold InStep at S
  refine ⟨?_, fun hrun => ?_⟩
  · rintro ⟨exit, h⟩
    simp only [h, hc] at S
    exact S.resolve_left (by simp)
  · have hplan : (∃ o said log, x.log = (x.session.now, .ended o said) :: log) →
        p.wall x.session.now = none ∨ ∃ u, Due p x.log u ∧ x.session.now ≤ u := by
      rintro ⟨o, said, log, hlog⟩
      rw [hlog]
      cases o with
      | error f => exact .inr ⟨_, .asked, Nat.le_refl _⟩
      | ok c' =>
        cases hw : p.wall x.session.now with
        | none => exact .inl rfl
        | some w =>
          have hu := tickAfter_endsWait x.session.now
            (Task.scheduledDelay p.settings c'.expiresAt w)
          exact .inr ⟨_, .call (.onSchedule hw (Task.scheduledDelay_nanos .. ▸ hu)), hu.le⟩
    cases h : x.session.task.phase with
    | spawned => simp only [h] at S; exact hplan S
    | planning => simp only [h] at S; exact hplan S
    | waiting wake => simp only [h] at S; exact .inr ⟨wake, .call S.1, S.2⟩
    | awake => simp only [h] at S; exact .inr ⟨_, .call S, Nat.le_refl _⟩
    | renewing call =>
      simp only [h] at S
      obtain ⟨t, call, log, hlog, rfl, hle⟩ := S
      obtain ⟨ev, he⟩ := PendingCall.exists_ending p call t
      exact .inr ⟨_, hlog ▸ .ending he, hle⟩
    | ended exit => exact absurd h (hrun exit)

/-- **Renewals are on the timeline.** The events of any run under a prompt runtime follow the
recurrence, and there is no more than one course of them. Unless a stop has been requested, the task
goes on and the next event is not overdue, or there is no event to come. Each call is made when it
is due, and ends before anything else happens; the least interval separates a success from the next
call, or thirty years if that is less. -/
theorem renewals_on_timeline {now : Nat} {source : σ} {backoff : β}
    {c : Credential α} {history : List (Nat × Effect α)} {start : Chronicle σ α β}
    (hstart : start = launched p now source backoff c history) (hx : Run prompt start x) :
    ((∃ source' backoff', Timeline p now c source backoff source' backoff' x.log) ∧
      ∀ y, Run prompt start y → y.log.length = x.log.length → y.log = x.log) ∧
    (x.session.cells.isCancelled = false →
      ((∃ exit, x.session.task.phase = .ended exit) → Over p x.log) ∧
      ((∀ exit, x.session.task.phase ≠ .ended exit) →
        p.wall x.session.now = none ∨ ∃ u, Due p x.log u ∧ x.session.now ≤ u)) ∧
    (∀ later u call earlier, x.log = later ++ (u, .called call) :: earlier →
      CallDue p earlier u) ∧
    (∀ later e t call earlier, x.log = later ++ e :: (t, .called call) :: earlier →
      Ending p call t e.1 e.2) ∧
    ∀ later u call t c' said earlier,
      x.log = later ++ (u, .called call) :: (t, .ended (.ok c') said) :: earlier →
      t + min p.settings.minRefreshInterval.nanos thirtyYears ≤ u := by
  have N : start.Begins c := hstart ▸ launched_begins p now source backoff c history
  have B : start.Books p := hstart ▸ launched_books p now source backoff c history
  have P₀ : start.Paced p now c source backoff :=
    hstart ▸ launched_paced p now source backoff c history
  have P := hx.paced N B P₀
  refine ⟨⟨⟨_, _, P.timeline⟩, fun y hy hlen => ?_⟩, P.due, ?_, ?_, ?_⟩
  · exact (P.timeline.unique (hy.paced N B P₀).timeline hlen).1
  · intro later u call earlier hlog
    exact (hlog ▸ P.timeline).call_due
  · intro later e t call earlier hlog
    exact (hlog ▸ P.timeline).after_call
  · intro later u call t c' said earlier hlog
    exact (hlog ▸ P.timeline).call_due.separated

/-- A manager whose source takes its time to fail, and whose strategy waits for two seconds. -/
def retrying : Chronicle (List (Line Nat)) Nat Backoff.Schedule :=
  sample .standard .epoch ⟨.after (millis 250), .fail ⟨.io, "gone"⟩⟩ [some (.ofSeconds 2)]

/-- The source has been called, has failed, and has been called again. -/
def retried : Chronicle (List (Line Nat)) Nat Backoff.Schedule :=
  retrying.after isPrompt
    (List.replicate 3 .task ++ [.tick (millis 1000)] ++ List.replicate 3 .task ++
      [.tick (millis 250)] ++ List.replicate 7 .task ++ [.tick (millis 2000)] ++
      List.replicate 3 .task) (by decide +kernel)

theorem retry_on_timeline :
    retried.log.map Prod.fst = [3250, 1250, 1250, 1000, 0].map millis ∧
      ∃ source backoff, Timeline retrying.session.plan 0 ⟨7, .epoch, .epoch⟩ []
        (.ofList [some (.ofSeconds 2)]) source backoff retried.log := by
  have hx : Run prompt retrying retried := run_after prompt_of_isPrompt _
  have hstart : retrying = launched _ _ _ _ _ _ := rfl
  obtain ⟨⟨hline, -⟩, -⟩ := renewals_on_timeline hstart hx
  exact ⟨by decide +kernel, hline⟩

/-- A manager whose least interval is the longest number of seconds there is. -/
def patient : Chronicle (List (Line Nat)) Nat Backoff.Schedule :=
  sample { Refresh.Settings.standard with minRefreshInterval := .ofSeconds 18446744073709551615 }
    .epoch ⟨.atOnce, .issue 8 (.forMillis 10000)⟩ []

def impatient : Chronicle (List (Line Nat)) Nat Backoff.Schedule :=
  patient.after isPrompt (List.replicate 3 .task ++ [.tick thirtyYears] ++ List.replicate 2 .task)
    (by decide +kernel)

/-- The least interval alone does not always separate a success from the next call: a clock that
cannot count to its end has no more than thirty years of it. -/
theorem least_interval_cut_short :
    patient.session.plan.settings.check = .ok () ∧ Run prompt patient impatient ∧
      ∃ t call u c said,
        impatient.log = [(t, .called call), (u, .ended (.ok c) said)] ∧
        t < u + patient.session.plan.settings.minRefreshInterval.nanos :=
  ⟨by decide +kernel, run_after prompt_of_isPrompt _, _, _, _, _, _, rfl, by decide +kernel⟩

end Chronicle

end CredentialKeeper.Manager
