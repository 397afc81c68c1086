import CredentialKeeper.Proofs.CheckedSettings
import CredentialKeeper.Proofs.Manager.Consultation
import CredentialKeeper.Proofs.Manager.Timeline

/-! # Startups

`Opening` is the recurrence that the calls of a startup follow: the first call is made at once,
another one after a failure and the delay, and nothing follows a success. `Startup.Course` is what
the moves of a startup lead to while time passes up to the end of a wait and no further. A course
follows the recurrence (`Startup.Course.opening`), whatever a start answers comes from a course
(`start_follows`), and there is only one of them (`Opening.comparable`). So a start ends as the
recurrence says, which is the main result here. -/

namespace CredentialKeeper.Manager

open Refresh

variable {σ α β γ : Type}

/-! ## The recurrence -/

namespace Event

def failure? : Event α → Option Failure
  | ended (.error f) _ => some f
  | _ => none

/-- A startup does not go on after it. -/
def isFinal : Event α → Bool
  | ended (.ok _) _ | broke .. => true
  | _ => false

end Event

def calledAt? : Nat × Event α → Option Nat
  | (t, .called _) => some t
  | _ => none

/-- The instants of the calls, the last first. -/
def callTimes (log : List (Nat × Event α)) : List Nat := log.filterMap calledAt?

def failures (log : List (Nat × Event α)) : List Failure := log.filterMap fun r => r.2.failure?

/-- With a log, the last event first, a startup from the instant `t₀` on makes its next call at the
instant `u`. -/
inductive Opening.CallDue (p : Plan σ α β) (t₀ : Nat) : List (Nat × Event α) → Nat → Prop
  | first : CallDue p t₀ [] t₀
  | again {t u : Nat} {f : Failure} {said : List Log.Notice} {log : List (Nat × Event α)}
      (hu : EndsWait t p.settings.startupRetryDelay.nanos u) :
      CallDue p t₀ ((t, .ended (.error f) said) :: log) u

/-- The logs, the last event first, of a startup from the instant `t₀` on, and what the source then
remembers. -/
inductive Opening (p : Plan σ α β) (t₀ : Nat) (source₀ : σ) : σ → List (Nat × Event α) → Prop
  | begin : Opening p t₀ source₀ source₀ []
  | call {source source' : σ} {log : List (Nat × Event α)} {u : Nat} {call : Call α}
      (H : Opening p t₀ source₀ source log) (hu : Opening.CallDue p t₀ log u)
      (hr : p.source.renew source (p.wall u) = (call, source')) :
      Opening p t₀ source₀ source' ((u, .called call) :: log)
  | ending {source : σ} {log : List (Nat × Event α)} {t u : Nat} {call : Call α} {ev : Event α}
      (H : Opening p t₀ source₀ source ((t, .called call) :: log)) (he : Ending p call t u ev) :
      Opening p t₀ source₀ source ((u, ev) :: (t, .called call) :: log)

namespace Opening

variable {p : Plan σ α β} {t₀ u u' : Nat} {source₀ source source' : σ}
  {log log' later : List (Nat × Event α)} {e : Nat × Event α}

theorem CallDue.unique (h : CallDue p t₀ log u) (h' : CallDue p t₀ log u') : u = u' := by
  cases h with
  | first => cases h'; rfl
  | again hu =>
    cases h' with
    | again hu' => exact hu.unique hu'

theorem tail (H : Opening p t₀ source₀ source (e :: log)) :
    ∃ source', Opening p t₀ source₀ source' log := by
  cases H with
  | call H => exact ⟨_, H⟩
  | ending H => exact ⟨_, H⟩

theorem of_append (H : Opening p t₀ source₀ source (later ++ log)) :
    ∃ source', Opening p t₀ source₀ source' log := by
  induction later generalizing source with
  | nil => exact ⟨_, H⟩
  | cons e later ih =>
    obtain ⟨_, H⟩ := H.tail
    exact ih H

/-- A startup has one log of each length. -/
theorem unique (H : Opening p t₀ source₀ source log) (H' : Opening p t₀ source₀ source' log')
    (hlen : log'.length = log.length) : log' = log ∧ source' = source := by
  induction H generalizing source' log' with
  | begin =>
    cases H' with
    | begin => exact ⟨rfl, rfl⟩
    | call | ending => cases hlen
  | call H hu hr ih =>
    cases H' with
    | begin => cases hlen
    | call H' hu' hr' =>
      obtain ⟨rfl, rfl⟩ := ih H' (Nat.succ.inj hlen)
      obtain rfl := hu.unique hu'
      cases hr.symm.trans hr'
      exact ⟨rfl, rfl⟩
    | ending H' =>
      obtain ⟨rfl, rfl⟩ := ih H' (Nat.succ.inj hlen)
      cases hu
  | ending H he ih =>
    cases H' with
    | begin => cases hlen
    | call H' hu' =>
      obtain ⟨rfl, rfl⟩ := ih H' (Nat.succ.inj hlen)
      cases hu'
    | ending H' he' =>
      obtain ⟨hlog, rfl⟩ := ih H' (Nat.succ.inj hlen)
      cases hlog
      obtain ⟨rfl, rfl⟩ := he.unique he'
      exact ⟨rfl, rfl⟩

theorem suffix_of_length_le (H : Opening p t₀ source₀ source log)
    (H' : Opening p t₀ source₀ source' log') (hlen : log'.length ≤ log.length) :
    log' <:+ log := by
  refine suffix_of_eq_end hlen fun later earlier hsplit hlength => ?_
  obtain ⟨_, H⟩ := (hsplit ▸ H).of_append
  exact (H.unique H' hlength).1

/-- Of two logs of a startup one goes on where the other ends. -/
theorem comparable (H : Opening p t₀ source₀ source log)
    (H' : Opening p t₀ source₀ source' log') : log' <:+ log ∨ log <:+ log' :=
  (Nat.le_total log'.length log.length).imp (H.suffix_of_length_le H') (H'.suffix_of_length_le H)

theorem call_due {call : Call α}
    (H : Opening p t₀ source₀ source (later ++ (u, .called call) :: log)) :
    CallDue p t₀ log u := by
  obtain ⟨_, H⟩ := H.of_append
  cases H with
  | call _ hu => exact hu
  | ending _ he => exact absurd rfl he.ne_called

theorem first_call {call : Call α}
    (H : Opening p t₀ source₀ source (later ++ [(u, .called call)])) : u = t₀ := by
  cases H.call_due
  rfl

theorem next_call {t : Nat} {call : Call α} {ev : Event α}
    (H : Opening p t₀ source₀ source (later ++ (u, .called call) :: (t, ev) :: log)) :
    (∃ f said, ev = .ended (.error f) said) ∧
      EndsWait t p.settings.startupRetryDelay.nanos u := by
  cases H.call_due with
  | again hu => exact ⟨⟨_, _, rfl⟩, hu⟩

theorem congr {β' : Type} {q : Plan σ α β'} (H : Opening p t₀ source₀ source log)
    (hsource : q.source = p.source) (hsettings : q.settings = p.settings)
    (hwall : q.wall = p.wall) : Opening q t₀ source₀ source log := by
  obtain ⟨_, _, _, _⟩ := p
  obtain ⟨_, _, _, _⟩ := q
  obtain rfl := hsource
  obtain rfl := hsettings
  obtain rfl := hwall
  induction H with
  | begin => exact .begin
  | call _ hu hr ih =>
    refine .call ih ?_ hr
    cases hu with
    | first => exact .first
    | again hu => exact .again hu
  | ending _ he ih =>
    refine .ending ih ?_
    cases he with
    | answered hu hd hle => exact .answered hu hd hle
    | tooLate hd hlt => exact .tooLate hd hlt

theorem final (H : Opening p t₀ source₀ source (later ++ e :: log)) (he : e.2.isFinal = true) :
    later = [] := by
  rcases List.eq_nil_or_concat later with rfl | ⟨later, e', rfl⟩
  · rfl
  · rw [List.concat_eq_append, List.append_assoc] at H
    obtain ⟨_, H⟩ := H.of_append
    cases H with
    | call _ hu => cases hu; cases he
    | ending _ _ => cases he

/-- All courses of a startup to its end are the same. -/
theorem eq_of_final {e' : Nat × Event α} (H : Opening p t₀ source₀ source (e :: log))
    (H' : Opening p t₀ source₀ source' (e' :: log')) (he : e.2.isFinal = true)
    (he' : e'.2.isFinal = true) : e' = e ∧ log' = log ∧ source' = source := by
  have heq : e' :: log' = e :: log := by
    rcases H.comparable H' with ⟨later, hlater⟩ | ⟨later, hlater⟩
    · obtain rfl : later = [] := (hlater ▸ H).final he'
      exact hlater
    · obtain rfl : later = [] := (hlater ▸ H').final he
      exact hlater.symm
  have hsource := (H.unique H' (congrArg List.length heq)).2
  exact ⟨(List.cons.inj heq).1, (List.cons.inj heq).2, hsource⟩

theorem sorted (H : Opening p t₀ source₀ source log) : log.Pairwise fun r q => q.1 ≤ r.1 := by
  have hcons : ∀ {e : Nat × Event α} {q : Nat × Event α} {log : List (Nat × Event α)},
      q.1 ≤ e.1 → (q :: log).Pairwise (fun r q => q.1 ≤ r.1) →
      (e :: q :: log).Pairwise fun r q => q.1 ≤ r.1 := by
    intro e q log hle hlog
    refine List.pairwise_cons.2 ⟨fun r hr => ?_, hlog⟩
    rcases List.mem_cons.1 hr with rfl | hr
    · exact hle
    · exact (List.rel_of_pairwise_cons hlog hr).trans hle
  induction H with
  | begin => exact .nil
  | call _ hu _ ih =>
    cases hu with
    | first => exact List.pairwise_singleton ..
    | again hu => exact hcons hu.le ih
  | ending _ he ih => exact hcons he.le ih

/-- Every call but the last has ended in a failure, and the last may have. -/
theorem calls_eq (H : Opening p t₀ source₀ source log) :
    (∀ u, CallDue p t₀ log u → (callTimes log).length = (failures log).length) ∧
      ∀ t call earlier, log = (t, .called call) :: earlier →
        (callTimes log).length = (failures log).length + 1 := by
  induction H with
  | begin => exact ⟨fun _ _ => rfl, by simp⟩
  | call _ hu _ ih =>
    refine ⟨fun _ h => (by cases h), fun _ _ _ _ => ?_⟩
    exact congrArg (· + 1) (ih.1 _ hu)
  | @ending _ earlier t u call ev _ he ih =>
    refine ⟨fun _ h => ?_, fun t call _ h => ?_⟩
    · cases h
      exact ih.2 _ _ _ rfl
    · cases h
      exact absurd rfl he.ne_called

theorem calls_of_success {c : Credential α} {said : List Log.Notice}
    (H : Opening p t₀ source₀ source ((u, .ended (.ok c) said) :: log)) :
    (callTimes ((u, .ended (.ok c) said) :: log)).length =
      (failures ((u, .ended (.ok c) said) :: log)).length + 1 := by
  cases H with
  | ending H => exact H.calls_eq.2 _ _ _ rfl

end Opening

/-! ## Moves -/

/-- A startup's move: its event, the startup after it, and its effects. -/
inductive Startup.Moves (p : Plan σ α β) (now : Nat) (s : Startup σ α) :
    Event α → Startup σ α → List (Effect α) → Prop
  | call {wake : Nat} {c : Call α} {source : σ} (h : s.phase = .pausing wake) (hw : wake ≤ now)
      (hr : p.source.renew s.source (p.wall now) = (c, source)) :
      Moves p now s (.called c)
        ⟨.calling (.begin c now p.settings.renewTimeout), source, s.attempt + 1⟩ [.renewCalled]
  | issue {call : PendingCall α} {c : Credential α} {said : List Log.Notice}
      (h : s.phase = .calling call) (hs : call.status now = .answered)
      (hr : call.call.reply (p.wall now) = (.outcome (.ok c), said)) :
      Moves p now s (.ended (.ok c) said) { s with phase := .issued c }
        (heard call said ++ [.renewalCounted "success", .expiryGauged c.expiresAt.unixSeconds])
  | fail {call : PendingCall α} {f : Failure} {said : List Log.Notice}
      (h : s.phase = .calling call) (hs : call.status now = .answered)
      (hr : call.call.reply (p.wall now) = (.outcome (.error f), said)) :
      Moves p now s (.ended (.error f) said)
        { s with phase := .pausing (tickAfter now p.settings.startupRetryDelay) }
        (heard call said ++ [.renewalCounted f.kind.label,
          .noticed (.startupAttemptFailed p.source.name s.attempt f p.settings.startupRetryDelay)])
  | timeOut {call : PendingCall α} (h : s.phase = .calling call)
      (hs : call.status now = .timedOut) :
      Moves p now s (.ended (.error (.timedOut p.settings.renewTimeout)) [])
        { s with phase := .pausing (tickAfter now p.settings.startupRetryDelay) }
        [.renewalCounted (Failure.timedOut p.settings.renewTimeout).kind.label,
          .noticed (.startupAttemptFailed p.source.name s.attempt
            (.timedOut p.settings.renewTimeout) p.settings.startupRetryDelay)]
  | crash {call : PendingCall α} {message : String} {said : List Log.Notice}
      (h : s.phase = .calling call) (hs : call.status now = .answered)
      (hr : call.call.reply (p.wall now) = (.crash message, said)) :
      Moves p now s (.broke message said) { s with phase := .crashed message } (heard call said)

namespace Startup

variable {p : Plan σ α β} {now : Nat} {s s' : Startup σ α} {es : List (Effect α)}

theorem receive_moves {call : PendingCall α} (h : s.phase = .calling call)
    (hs : call.status now = .answered) :
    ∃ ev, s.Moves p now ev (s.receive p now call).1 (s.receive p now call).2 := by
  obtain ⟨⟨reply, said⟩, hr⟩ : ∃ r, call.call.reply (p.wall now) = r := ⟨_, rfl⟩
  unfold receive
  rw [hr]
  cases reply with
  | outcome o =>
    cases o with
    | ok c => exact ⟨_, .issue h hs hr⟩
    | error f => exact ⟨_, .fail h hs hr⟩
  | crash message =>
    have M : s.Moves p now _ _ _ := .crash h hs hr
    exact ⟨_, by simpa [heard] using M⟩

theorem step_moves (h : s.step p now = some (s', es)) : ∃ ev, s.Moves p now ev s' es := by
  unfold step at h
  split at h
  next call hphase =>
    split at h
    next hs =>
      obtain ⟨ev, M⟩ := receive_moves (p := p) hphase hs
      rw [Option.some.inj h] at M
      exact ⟨ev, M⟩
    next hs =>
      cases h
      exact ⟨_, .timeOut hphase hs⟩
    next => cases h
  next wake hphase =>
    split at h
    next hw =>
      cases h
      exact ⟨_, .call hphase hw rfl⟩
    next => cases h
  next => cases h
  next => cases h

/-- A startup that cannot move is over, or waits for something that is still to come. -/
theorem lt_wake_of_idle (h : s.step p now = none) {wake : Nat} (hw : s.wake? = some wake) :
    now < wake := by
  unfold step at h
  unfold wake? at hw
  split at h
  next call hphase =>
    simp only [hphase, Option.some.injEq] at hw
    subst hw
    split at h
    next => cases h
    next => cases h
    next hs => exact PendingCall.waiting_iff.1 hs
  next hphase =>
    simp only [hphase, Option.some.injEq] at hw
    subst hw
    split at h
    next => cases h
    next hlt => exact Nat.lt_of_not_le hlt
  next hphase => simp [hphase] at hw
  next hphase => simp [hphase] at hw

/-- How many moves a startup can make at an instant, at most. -/
def movesLeft (now : Nat) (s : Startup σ α) : Nat :=
  match s.phase with
  | .pausing wake => if wake ≤ now then 2 else 0
  | .calling _ => 1
  | .issued _ | .crashed _ => 0

/-- Each move leaves fewer to come, as the delay is not over at once. -/
theorem movesLeft_lt (hdelay : 0 < p.settings.startupRetryDelay.nanos) {ev : Event α}
    (M : s.Moves p now ev s' es) : s'.movesLeft now < s.movesLeft now := by
  have hlt : now < tickAfter now p.settings.startupRetryDelay := Chronicle.lt_tickAfter hdelay
  cases M with
  | call h hw => simp [movesLeft, h, hw]
  | issue h => simp [movesLeft, h]
  | fail h => simp [movesLeft, h, Nat.not_le.2 hlt]
  | timeOut h => simp [movesLeft, h, Nat.not_le.2 hlt]
  | crash h => simp [movesLeft, h]

/-! ## Courses -/

/-- What a startup from the instant `t₀` on comes to with its moves and the passing of time, with
its events and its effects, the last first. -/
inductive Course (p : Plan σ α β) (t₀ : Nat) (source₀ : σ) :
    Nat → Startup σ α → List (Nat × Event α) → List (Nat × Effect α) → Prop
  | begin : Course p t₀ source₀ t₀ ⟨.pausing t₀, source₀, 0⟩ []
      [(t₀, .noticed (.managerStarting p.source.name))]
  | move {now : Nat} {s s' : Startup σ α} {ev : Event α} {es : List (Effect α)}
      {log : List (Nat × Event α)} {history : List (Nat × Effect α)}
      (H : Course p t₀ source₀ now s log history) (M : s.Moves p now ev s' es) :
      Course p t₀ source₀ now s' ((now, ev) :: log) (Session.record now history es)
  | wait {now later wake : Nat} {s : Startup σ α} {log : List (Nat × Event α)}
      {history : List (Nat × Effect α)} (H : Course p t₀ source₀ now s log history)
      (hw : s.wake? = some wake) (hnow : now ≤ later) (hle : later ≤ wake) :
      Course p t₀ source₀ later s log history

/-- How a startup stands to its log. -/
def InStep (p : Plan σ α β) (t₀ now : Nat) (s : Startup σ α) (log : List (Nat × Event α)) : Prop :=
  match s.phase with
  | .calling pending => ∃ t call earlier, log = (t, .called call) :: earlier ∧
      pending = .begin call t p.settings.renewTimeout ∧ now ≤ pending.endsAt
  | .pausing wake => Opening.CallDue p t₀ log wake ∧ now ≤ wake
  | .issued c => ∃ said earlier, log = (now, .ended (.ok c) said) :: earlier
  | .crashed message => ∃ said earlier, log = (now, .broke message said) :: earlier

/-- Some effects with their instants are those that `g` gives for the events of a startup. -/
structure Reports (p : Plan σ α β) (f : Nat × Effect α → Option γ) (g : Nat × Event α → List γ) :
    Prop where
  starting : ∀ now, f (now, .noticed (.managerStarting p.source.name)) = none
  moves : ∀ {now s ev s' es}, Moves p now s ev s' es → (es.map (now, ·)).filterMap f = g (now, ev)

namespace Course

variable {t₀ : Nat} {source₀ : σ} {log : List (Nat × Event α)} {history : List (Nat × Effect α)}

theorem answered {source : σ} {pending : PendingCall α}
    (H : Opening p t₀ source₀ source log) (hs : pending.status now = .answered)
    (S : ∃ t call earlier, log = (t, .called call) :: earlier ∧
      pending = .begin call t p.settings.renewTimeout ∧ now ≤ pending.endsAt) :
    Opening p t₀ source₀ source ((now, .ofReply (pending.call.reply (p.wall now))) :: log) := by
  obtain ⟨t, call, earlier, rfl, rfl, hle⟩ := S
  exact .ending H (PendingCall.ending_of_answered hs hle)

theorem timedOut {source : σ} {pending : PendingCall α}
    (H : Opening p t₀ source₀ source log) (hs : pending.status now = .timedOut)
    (S : ∃ t call earlier, log = (t, .called call) :: earlier ∧
      pending = .begin call t p.settings.renewTimeout ∧ now ≤ pending.endsAt) :
    Opening p t₀ source₀ source
      ((now, .ended (.error (.timedOut p.settings.renewTimeout)) []) :: log) := by
  obtain ⟨t, call, earlier, rfl, rfl, hle⟩ := S
  exact .ending H (PendingCall.ending_of_timedOut hs hle)

/-- A startup follows the recurrence. -/
theorem opening (H : Course p t₀ source₀ now s log history) :
    Opening p t₀ source₀ s.source log ∧ s.InStep p t₀ now log := by
  induction H with
  | begin => exact ⟨.begin, .first, Nat.le_refl _⟩
  | @move now s s' ev es log _ _ M ih =>
    obtain ⟨O, S⟩ := ih
    cases M with
    | call h hw hr =>
      simp only [InStep, h] at S
      obtain rfl := Nat.le_antisymm S.2 hw
      exact ⟨.call O S.1 hr, _, _, _, rfl, rfl, PendingCall.le_endsAt⟩
    | issue h hs hr =>
      simp only [InStep, h] at S
      have hlog := answered O hs S
      rw [hr] at hlog
      exact ⟨hlog, _, _, rfl⟩
    | fail h hs hr =>
      simp only [InStep, h] at S
      have hlog := answered O hs S
      rw [hr] at hlog
      have hwait := tickAfter_endsWait now p.settings.startupRetryDelay
      exact ⟨hlog, .again hwait, hwait.le⟩
    | timeOut h hs =>
      simp only [InStep, h] at S
      have hwait := tickAfter_endsWait now p.settings.startupRetryDelay
      exact ⟨timedOut O hs S, .again hwait, hwait.le⟩
    | crash h hs hr =>
      simp only [InStep, h] at S
      have hlog := answered O hs S
      rw [hr] at hlog
      exact ⟨hlog, _, _, rfl⟩
  | @wait now later wake s _ _ _ hw _ hle ih =>
    obtain ⟨O, S⟩ := ih
    refine ⟨O, ?_⟩
    unfold InStep at S ⊢
    unfold wake? at hw
    cases h : s.phase with
    | calling pending =>
      simp only [h, Option.some.injEq] at S hw ⊢
      obtain ⟨t, call, earlier, hlog, hpending, -⟩ := S
      exact ⟨t, call, earlier, hlog, hpending, hw ▸ hle⟩
    | pausing wake =>
      simp only [h, Option.some.injEq] at S hw ⊢
      exact ⟨S.1, hw ▸ hle⟩
    | issued c => simp [h] at hw
    | crashed message => simp [h] at hw

theorem le_wake (H : Course p t₀ source₀ now s log history) {wake : Nat}
    (hw : s.wake? = some wake) : now ≤ wake := by
  have S := H.opening.2
  unfold InStep at S
  unfold wake? at hw
  cases h : s.phase with
  | calling pending =>
    simp only [h, Option.some.injEq] at S hw
    obtain ⟨_, _, _, -, -, hle⟩ := S
    exact hw ▸ hle
  | pausing wake =>
    simp only [h, Option.some.injEq] at S hw
    exact hw ▸ S.2
  | issued c => simp [h] at hw
  | crashed message => simp [h] at hw

/-- A log that goes on after that of a course has its next event when the startup moves again. -/
theorem next_at_wake (H : Course p t₀ source₀ now s log history) {wake : Nat} {source : σ}
    {e : Nat × Event α} (hw : s.wake? = some wake)
    (O : Opening p t₀ source₀ source (e :: log)) : e.1 = wake := by
  have S := H.opening.2
  unfold InStep at S
  unfold wake? at hw
  cases h : s.phase with
  | calling pending =>
    simp only [h, Option.some.injEq] at S hw
    obtain ⟨t, call, earlier, rfl, rfl, -⟩ := S
    obtain ⟨ev, he⟩ := PendingCall.exists_ending p call t
    cases O with
    | call _ hu => cases hu
    | ending _ he' => exact hw ▸ (he'.unique he).1
  | pausing wake =>
    simp only [h, Option.some.injEq] at S hw
    obtain ⟨hdue, -⟩ := S
    subst hw
    cases O with
    | call _ hu => exact hu.unique hdue
    | ending => cases hdue
  | issued c => simp [h] at hw
  | crashed message => simp [h] at hw

theorem not_final (H : Course p t₀ source₀ now s log history) {wake : Nat}
    (hw : s.wake? = some wake) {e : Nat × Event α} {earlier : List (Nat × Event α)}
    (hlog : log = e :: earlier) : e.2.isFinal = false := by
  subst hlog
  have S := H.opening.2
  unfold InStep at S
  unfold wake? at hw
  cases h : s.phase with
  | calling pending =>
    simp only [h] at S
    obtain ⟨t, call, _, hlog, -⟩ := S
    cases hlog
    rfl
  | pausing wake =>
    simp only [h] at S
    obtain ⟨hdue, -⟩ := S
    cases hdue
    rfl
  | issued c => simp [h] at hw
  | crashed message => simp [h] at hw

/-- A startup that waits does so no longer than to its end. -/
theorem wake_le_final (H : Course p t₀ source₀ now s log history) {wake : Nat}
    (hw : s.wake? = some wake) {source : σ} {e : Nat × Event α} {log' : List (Nat × Event α)}
    (O : Opening p t₀ source₀ source (e :: log')) (he : e.2.isFinal = true) : wake ≤ e.1 := by
  have hne : ∀ later, later ++ e :: log' = log → False := by
    rintro later rfl
    obtain rfl := H.opening.1.final he
    exact absurd he (Bool.eq_false_iff.1 (H.not_final hw rfl))
  rcases O.comparable H.opening.1 with ⟨later, hlater⟩ | ⟨later, hlater⟩
  · rcases List.eq_nil_or_concat later with rfl | ⟨later, e', rfl⟩
    · exact (hne [] hlater.symm).elim
    · rw [List.concat_eq_append, List.append_assoc] at hlater
      obtain ⟨_, O'⟩ := (hlater ▸ O).of_append
      rw [← H.next_at_wake hw O']
      have hmem : e' ∈ e :: log' := hlater ▸ by simp
      rcases List.mem_cons.1 hmem with rfl | hmem
      · exact Nat.le_refl _
      · exact List.rel_of_pairwise_cons O.sorted hmem
  · exact (hne later hlater).elim

theorem reports {f : Nat × Effect α → Option γ} {g : Nat × Event α → List γ} (R : Reports p f g)
    (H : Course p t₀ source₀ now s log history) :
    history.reverse.filterMap f = log.reverse.flatMap g := by
  induction H with
  | begin => simp [R.starting]
  | move _ M ih =>
    rw [Session.record_eq, List.reverse_append, List.reverse_reverse, List.filterMap_append, ih,
      R.moves M, List.reverse_cons, List.flatMap_append, List.flatMap_singleton]
  | wait _ _ _ _ ih => exact ih

end Course

end Startup

/-! ## Starts -/

/-- The result of a start comes from a course of the startup, and a start with a delay takes no more
time than it is given for nothing. -/
def Started.Follows (p : Plan σ α β) (source₀ : σ) (backoff : β) (limit : Nat) :
    Started σ α β → Prop
  | .refused .. => False
  | .crashed message history => ∃ now source attempt log,
      Startup.Course p 0 source₀ now ⟨.crashed message, source, attempt⟩ log history
  | .timedOut _ history => ∃ now, ∃ s : Startup σ α, ∃ log,
      s.Course p 0 source₀ now log history ∧
      (0 < p.settings.startupRetryDelay.nanos → ∃ wake, s.wake? = some wake ∧ limit < wake)
  | .ok session => ∃ now c source attempt log history,
      Startup.Course p 0 source₀ now ⟨.issued c, source, attempt⟩ log history ∧
      now ≤ limit ∧ session = .ofFirst p now source backoff c history

namespace Started

variable {p : Plan σ α β} {now limit : Nat} {source₀ : σ} {s : Startup σ α}
  {log : List (Nat × Event α)} {history : List (Nat × Effect α)}

theorem settle_course (fuel : Nat) (H : s.Course p 0 source₀ now log history) :
    ∃ log', (settle p now fuel s history).1.Course p 0 source₀ now log'
      (settle p now fuel s history).2 := by
  induction fuel generalizing s log history with
  | zero => exact ⟨log, H⟩
  | succ fuel ih =>
    rw [settle]
    split
    next => exact ⟨log, H⟩
    next h =>
      obtain ⟨ev, M⟩ := Startup.step_moves h
      exact ih (H.move M)

theorem settle_idle (hdelay : 0 < p.settings.startupRetryDelay.nanos) {fuel : Nat}
    (hfuel : s.movesLeft now < fuel) (history : List (Nat × Effect α)) :
    (settle p now fuel s history).1.step p now = none := by
  induction fuel generalizing s history with
  | zero => exact absurd hfuel (Nat.not_lt_zero _)
  | succ fuel ih =>
    rw [settle]
    split
    next h => exact h
    next h =>
      obtain ⟨ev, M⟩ := Startup.step_moves h
      exact ih ((Startup.movesLeft_lt hdelay M).trans_le (Nat.le_of_lt_succ hfuel)) _

/-- Each round but the first begins at a later instant, so they do not run out. -/
theorem run_follows (backoff : β) {fuel : Nat} (H : s.Course p 0 source₀ now log history)
    (hnow : now ≤ limit)
    (hfuel : 0 < p.settings.startupRetryDelay.nanos → limit < now + fuel) :
    (run p backoff limit fuel now s history).Follows p source₀ backoff limit := by
  induction fuel generalizing now s log history with
  | zero =>
    refine ⟨now, s, log, H, fun hdelay => ?_⟩
    exact absurd (hfuel hdelay) (Nat.not_lt.2 hnow)
  | succ fuel ih =>
    have hmoves : s.movesLeft now < 3 := by
      unfold Startup.movesLeft
      grind
    obtain ⟨log', H'⟩ := settle_course 3 H
    have hidle := fun hdelay => settle_idle (p := p) hdelay hmoves history
    obtain ⟨⟨s', history'⟩, hsettle⟩ : ∃ r, settle p now 3 s history = r := ⟨_, rfl⟩
    rw [hsettle] at H' hidle
    -- a startup that is not over waits for the instant at which it moves again
    have hwaits {wake : Nat} (hw : s'.wake? = some wake) :
        (if wake ≤ limit then run p backoff limit fuel (now.max wake) s' history'
          else .timedOut limit history').Follows p source₀ backoff limit := by
      have hle : now ≤ wake := H'.le_wake hw
      rw [show now.max wake = wake from Nat.max_eq_right hle]
      split
      next hlimit =>
        refine ih (H'.wait hw hle (Nat.le_refl _)) hlimit fun hdelay => ?_
        have hlt := Startup.lt_wake_of_idle (hidle hdelay) hw
        have hfuel := hfuel hdelay
        omega
      next hlimit => exact ⟨now, _, log', H', fun _ => ⟨wake, hw, Nat.lt_of_not_le hlimit⟩⟩
    obtain ⟨phase, source, attempt⟩ := s'
    simp only [run, hsettle]
    cases phase with
    | calling call => exact hwaits rfl
    | pausing wake => exact hwaits rfl
    | issued c => exact ⟨now, c, source, attempt, log', history', H', hnow, rfl⟩
    | crashed message => exact ⟨now, source, attempt, log', H'⟩

end Started

section
variable {p : Plan σ α β} {source source' : σ} {limit : Nat}

theorem start_follows (p : Plan σ α β) (source : σ) (backoff : β) (limit : Nat) :
    (start p source backoff limit).Follows p source backoff limit := by
  have H : Startup.Course p 0 source 0 _ _ _ := .move .begin (.call rfl (Nat.le_refl 0) rfl)
  exact Started.run_follows backoff H (Nat.zero_le limit) fun _ => by omega

theorem start_ne_refused (p : Plan σ α β) (source : σ) (backoff : β) (limit : Nat)
    (e : RefreshError) (history : List (Nat × Effect α)) :
    start p source backoff limit ≠ .refused e history := by
  intro h
  have hfollows := start_follows p source backoff limit
  rw [h] at hfollows
  exact hfollows

/-- A manager that has started has come from a course of its startup. -/
theorem start_course {backoff : β} {s : Session σ α β} (h : start p source backoff limit = .ok s) :
    ∃ now c source' attempt log history,
      Startup.Course p 0 source now ⟨.issued c, source', attempt⟩ log history ∧
      now ≤ limit ∧ s = .ofFirst p now source' backoff c history := by
  have hfollows := start_follows p source backoff limit
  rwa [h] at hfollows

/-- A log that ends in a success tells how the start ends. -/
theorem Opening.start_eq {u : Nat} {c : Credential α} {said : List Log.Notice}
    {log : List (Nat × Event α)}
    (O : Opening p 0 source source' ((u, .ended (.ok c) said) :: log))
    (hdelay : 0 < p.settings.startupRetryDelay.nanos) (backoff : β) :
    (limit < u → ∃ now history, start p source backoff limit = .timedOut now history) ∧
      (u ≤ limit → ∃ s attempt history,
        Startup.Course p 0 source u ⟨.issued c, source', attempt⟩
          ((u, .ended (.ok c) said) :: log) history ∧
        start p source backoff limit = .ok s ∧ s = .ofFirst p u source' backoff c history) := by
  have hfollows := start_follows p source backoff limit
  cases hstart : start p source backoff limit with
  | refused e history =>
    rw [hstart] at hfollows
    exact hfollows.elim
  | crashed message history =>
    rw [hstart] at hfollows
    obtain ⟨now, source'', attempt, log', H⟩ := hfollows
    obtain ⟨O', said', earlier, rfl⟩ := H.opening
    obtain ⟨heq, -⟩ := O.eq_of_final O' rfl rfl
    cases heq
  | timedOut now history =>
    rw [hstart] at hfollows
    obtain ⟨now', s, log', H, hwake⟩ := hfollows
    obtain ⟨wake, hw, hlt⟩ := hwake hdelay
    have hle : wake ≤ u := H.wake_le_final hw O rfl
    exact ⟨fun _ => ⟨now, history, rfl⟩, fun hu => by omega⟩
  | ok s =>
    rw [hstart] at hfollows
    obtain ⟨now, c', source'', attempt, log', history, H, hle, rfl⟩ := hfollows
    obtain ⟨O', said', earlier, rfl⟩ := H.opening
    obtain ⟨heq, rfl, rfl⟩ := O.eq_of_final O' rfl rfl
    cases heq
    exact ⟨fun hlt => absurd hle (Nat.not_le.2 hlt), fun _ => ⟨_, attempt, history, H, rfl, rfl⟩⟩

end

/-! ## How a manager starts -/

def Effect.renewedAt? : Nat × Effect α → Option Nat
  | (t, .renewCalled) => some t
  | _ => none

/-- The instants of the calls of the source on record, the last first. -/
def renewalTimes (history : List (Nat × Effect α)) : List Nat :=
  history.filterMap Effect.renewedAt?

theorem Startup.renewal_reports (p : Plan σ α β) :
    Startup.Reports p Effect.renewedAt? fun r => (calledAt? r).toList where
  starting _ := rfl
  moves {now} _ _ _ _ M := by
    rw [List.filterMap_map]
    show List.filterMap (fun e => Effect.renewedAt? (now, e)) _ = _
    cases M <;> simp [heard_filterMap, Effect.renewedAt?, calledAt?]

theorem Startup.Course.renewalTimes_eq {p : Plan σ α β} {t₀ now : Nat} {source₀ : σ}
    {s : Startup σ α} {log : List (Nat × Event α)} {history : List (Nat × Effect α)}
    (H : s.Course p t₀ source₀ now log history) : renewalTimes history = callTimes log := by
  have hreports := H.reports (Startup.renewal_reports p)
  rw [← List.filterMap_eq_flatMap_toList, List.filterMap_reverse,
    List.filterMap_reverse] at hreports
  exact List.reverse_injective hreports

/-- A manager has its first credential `c` at the instant `u`, after the calls in a log and before
its task has run. Nobody has called its strategy. -/
structure Session.Opened (s : Session σ α β) (u : Nat) (c : Credential α) (backoff : β)
    (log : List (Nat × Event α)) : Prop where
  now : s.now = u
  calls : renewalTimes s.history = callTimes log
  current : s.cells.current = c
  published : s.cells.published = c ∧ s.cells.publications = 0
  task : s.task.phase = .spawned
  backoff : s.task.backoff = backoff
  unconsulted : Unconsulted s.history

section
variable {p : Plan σ α β} {source source' : σ} {limit : Nat}

theorem Opening.start_opened {u : Nat} {c : Credential α} {said : List Log.Notice}
    {log : List (Nat × Event α)}
    (O : Opening p 0 source source' ((u, .ended (.ok c) said) :: log))
    (hdelay : 0 < p.settings.startupRetryDelay.nanos) (backoff : β) (hu : u ≤ limit) :
    ∃ s, start p source backoff limit = .ok s ∧ s.Opened u c backoff log := by
  obtain ⟨s, attempt, history, H, hs, rfl⟩ := (O.start_eq hdelay backoff).2 hu
  have hconsults := start_consults hs
  exact ⟨_, hs, rfl, H.renewalTimes_eq, rfl, ⟨rfl, rfl⟩, rfl, hconsults.1, hconsults.2⟩

/-- An entry point refuses settings that do not pass their check, and others for want of a
runtime. -/
structure Refuses (refusal? : Settings → Bool → Option RefreshError) : Prop where
  of_error : ∀ {s}, s.check ≠ .ok () → ∀ hasRuntime,
    ∃ e, refusal? s hasRuntime = some (.invalidConfig e)
  of_ok : ∀ {s}, s.check = .ok () → ∀ hasRuntime,
    refusal? s hasRuntime = if hasRuntime then none else some (.spawn noRuntimeMessage)

theorem startRefusal?_refuses : Refuses startRefusal? where
  of_error {s} h hasRuntime := by
    unfold startRefusal?
    split
    next e _ => exact ⟨e, rfl⟩
    next hs => exact absurd hs h
  of_ok h hasRuntime := by rw [startRefusal?, h]

/-- The backoff's conditions are among the settings', so to check them first makes no difference
for settings that pass. -/
theorem startExponentialRefusal?_refuses : Refuses startExponentialRefusal? where
  of_error h hasRuntime := by
    unfold startExponentialRefusal?
    split
    next e _ => exact ⟨_, rfl⟩
    next => exact startRefusal?_refuses.of_error h hasRuntime
  of_ok h hasRuntime := by
    obtain ⟨-, -, -, -, hbackoff⟩ := Settings.check_eq_ok.1 h
    rw [startExponentialRefusal?, hbackoff]
    exact startRefusal?_refuses.of_ok h hasRuntime

namespace Refuses

variable {refusal? : Settings → Bool → Option RefreshError} {backoff : β} (R : Refuses refusal?)
include R

theorem without_runtime (h : p.settings.check = .ok ()) :
    startUnless refusal? false p source backoff limit = .refused (.spawn noRuntimeMessage) [] := by
  rw [startUnless, R.of_ok h]
  rfl

theorem with_runtime (h : p.settings.check = .ok ()) :
    startUnless refusal? true p source backoff limit = start p source backoff limit := by
  rw [startUnless, R.of_ok h]
  rfl

theorem invalidConfig_iff (hasRuntime : Bool) :
    (∃ e history, startUnless refusal? hasRuntime p source backoff limit =
        .refused (.invalidConfig e) history) ↔ p.settings.check ≠ .ok () := by
  constructor
  · rintro ⟨e, history, he⟩ h
    cases hasRuntime with
    | false => cases (R.without_runtime h).symm.trans he
    | true => exact start_ne_refused _ _ _ _ _ _ ((R.with_runtime h).symm.trans he)
  · intro h
    obtain ⟨e, he⟩ := R.of_error h hasRuntime
    exact ⟨e, [], by rw [startUnless, he]⟩

end Refuses

/-- The refusal comes before the first effect: a start that has begun is not refused any more. -/
theorem history_of_refused {refusal? : Settings → Bool → Option RefreshError} {hasRuntime : Bool}
    {backoff : β} {e : RefreshError} {history : List (Nat × Effect α)}
    (h : startUnless refusal? hasRuntime p source backoff limit = .refused e history) :
    history = [] := by
  unfold startUnless at h
  split at h
  next => cases h; rfl
  next => exact absurd h (start_ne_refused _ _ _ _ _ _)

end

/-- **A start asks until it gets a credential.** Settings that do not pass their check are refused,
with a strategy of one's own or without, and no others are refused as such; without a runtime the
others are refused as well. Nothing has been done then.

Otherwise let the source fail `N` times, or not answer in time, and then issue `c` in time, at the
instant `u`. The start makes `N + 1` calls, the first at once and each of the others at the first
whole millisecond that is not before the end of the delay after the failure. It ends at `u` and not
before, with `c` as the current and as the published credential; nobody has called the strategy, and
the task has not run. -/
theorem start_asks_until_success (p : Plan σ α β) (source : σ) (backoff : β)
    (draws : List Binary64) (limit : Nat) :
    let withBackoff (hasRuntime : Bool) : Started σ α β :=
      startWithBackoff hasRuntime p source backoff limit
    let exponential (hasRuntime : Bool) : Started σ α (Backoff.Exponential × List Binary64) :=
      startExponential hasRuntime p.source p.settings p.wall source draws limit
    (∀ hasRuntime,
      ((∃ e history, withBackoff hasRuntime = .refused (.invalidConfig e) history) ↔
        p.settings.check ≠ .ok ()) ∧
      ((∃ e history, exponential hasRuntime = .refused (.invalidConfig e) history) ↔
        p.settings.check ≠ .ok ())) ∧
    (p.settings.check = .ok () →
      withBackoff false = .refused (.spawn noRuntimeMessage) [] ∧
      exponential false = .refused (.spawn noRuntimeMessage) [] ∧
      ∀ N u c said source' log, Opening p 0 source source' ((u, .ended (.ok c) said) :: log) →
        (failures log).length = N →
        (callTimes log).length = N + 1 ∧
        (∀ later v call, log = later ++ [(v, .called call)] → v = 0) ∧
        (∀ later v call t ev earlier, log = later ++ (v, .called call) :: (t, ev) :: earlier →
          (∃ f said, ev = .ended (.error f) said) ∧
            EndsWait t p.settings.startupRetryDelay.nanos v) ∧
        (limit < u → (∃ now history, withBackoff true = .timedOut now history) ∧
          ∃ now history, exponential true = .timedOut now history) ∧
        (u ≤ limit → (∃ s, withBackoff true = .ok s ∧ s.Opened u c backoff log) ∧
          ∃ s, exponential true = .ok s ∧
            s.Opened u c (.fresh p.settings.backoff, draws) log)) ∧
    ∀ hasRuntime e history,
      (withBackoff hasRuntime = .refused e history → history = []) ∧
      (exponential hasRuntime = .refused e history → history = []) := by
  intro withBackoff exponential
  have R := startRefusal?_refuses
  have R' := startExponentialRefusal?_refuses
  refine ⟨fun hasRuntime => ⟨R.invalidConfig_iff hasRuntime, R'.invalidConfig_iff hasRuntime⟩,
    fun h => ⟨R.without_runtime h, R'.without_runtime h, ?_⟩,
    fun hasRuntime e history => ⟨history_of_refused, history_of_refused⟩⟩
  intro N u c said source' log O hN
  have hdelay := (Settings.check_eq_ok.1 h).1
  have O' : Opening ⟨p.source, Backoff.Exponential.strategy, p.settings, p.wall⟩ 0 source source'
      ((u, .ended (.ok c) said) :: log) := O.congr rfl rfl rfl
  have hstart : withBackoff true = start p source backoff limit := R.with_runtime h
  have hstart' : exponential true = start ⟨p.source, Backoff.Exponential.strategy, p.settings,
      p.wall⟩ source (.fresh p.settings.backoff, draws) limit := R'.with_runtime h
  rw [hstart, hstart']
  obtain ⟨_, T⟩ := O.tail
  refine ⟨hN ▸ O.calls_of_success, ?_, ?_, ?_, ?_⟩
  · intro later v call hlog
    exact (hlog ▸ T).first_call
  · intro later v call t ev earlier hlog
    exact (hlog ▸ T).next_call
  · intro hlt
    exact ⟨(O.start_eq hdelay backoff).1 hlt, (O'.start_eq hdelay _).1 hlt⟩
  · intro hle
    exact ⟨O.start_opened hdelay backoff hle, O'.start_opened hdelay _ hle⟩

/-- A source that fails at once, then does not answer, and then issues 8 after a quarter of a
second. -/
def hesitant : Plan (List (Line Nat)) Nat Backoff.Schedule :=
  ⟨scripted "sample" ⟨.after (millis 250), .issue 8 (.forMillis 10000)⟩, Backoff.Schedule.strategy,
    .standard, wallFrom .epoch⟩

def hesitations : List (Line Nat) :=
  [⟨.atOnce, .fail ⟨.io, "gone"⟩⟩, ⟨.never, .fail ⟨.io, "gone"⟩⟩]

theorem hesitant_opening : ∃ u c log, u = millis 34250 ∧ c.value = 8 ∧ (failures log).length = 2 ∧
    callTimes log = [34000, 2000, 0].map millis ∧
    Opening hesitant 0 hesitations [] ((u, .ended (.ok c) []) :: log) := by
  have first : EndsWait 0 hesitant.settings.startupRetryDelay.nanos (millis 2000) :=
    tickAfter_endsWait ..
  have timeout : EndsWait (millis 2000) hesitant.settings.renewTimeout.nanos (millis 32000) :=
    tickAfter_endsWait ..
  have second : EndsWait (millis 32000) hesitant.settings.startupRetryDelay.nanos (millis 34000) :=
    tickAfter_endsWait ..
  have O₁ : Opening hesitant 0 hesitations _ _ :=
    .ending (.call .begin .first rfl) (.answered rfl (tickAfter_endsWait ..) (Nat.zero_le _))
  have O₂ : Opening hesitant 0 hesitations _ _ :=
    .ending (.call O₁ (.again first) rfl) (.tooLate timeout nofun)
  have O₃ : Opening hesitant 0 hesitations _ _ :=
    .ending (.call O₂ (.again second) rfl) (.answered rfl (tickAfter_endsWait ..) (by decide))
  exact ⟨_, _, _, rfl, rfl, rfl, rfl, O₃⟩

/-- It starts with the third call and not earlier. -/
theorem third_call_starts :
    (∃ s, startWithBackoff true hesitant hesitations (.ofList []) (millis 34250) = .ok s ∧
      s.cells.current.value = 8 ∧ renewalTimes s.history = [34000, 2000, 0].map millis) ∧
    ∃ now history, startWithBackoff true hesitant hesitations (.ofList []) (millis 34250 - 1) =
      .timedOut now history := by
  have hcheck : hesitant.settings.check = .ok () := by decide +kernel
  obtain ⟨u, c, log, rfl, hc, hN, hcalls, O⟩ := hesitant_opening
  obtain ⟨-, hok, -⟩ :=
    start_asks_until_success hesitant hesitations (.ofList []) [] (millis 34250)
  obtain ⟨-, -, hok⟩ := hok hcheck
  obtain ⟨-, -, -, -, hin⟩ := hok 2 _ c [] [] log O hN
  obtain ⟨⟨s, hs, hopened⟩, -⟩ := hin (Nat.le_refl _)
  obtain ⟨-, hlate, -⟩ :=
    start_asks_until_success hesitant hesitations (.ofList []) [] (millis 34250 - 1)
  obtain ⟨-, -, hlate⟩ := hlate hcheck
  obtain ⟨-, -, -, hout, -⟩ := hlate 2 _ c [] [] log O hN
  obtain ⟨hout, -⟩ := hout (by decide)
  exact ⟨⟨s, hs, hopened.current ▸ hc, hopened.calls.trans hcalls⟩, hout⟩

end CredentialKeeper.Manager
