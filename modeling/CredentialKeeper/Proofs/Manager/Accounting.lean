import CredentialKeeper.Proofs.Manager.Opening
import Mathlib.Data.List.Count

/-! # Renewals are accounted for

What a monitoring system reads off a manager agrees with what its source has done, startup and task
together. `Metrics` depends on the labels, the exhaustions and the gauged expiries on record only
(`Metrics.renewed_ofEffects` and the lemmas after it). Each of these comes with the events of the
startup and of the task and with nothing else (`Entries`), so what is on record once the task has
done all of its last move is what the events of both call for (`Entries.history_eq`). -/

namespace CredentialKeeper

namespace FailureKind

theorem label_injective {k k' : FailureKind} (h : k.label = k'.label) : k = k' := by
  cases k <;> cases k' <;> first | rfl | (revert h; decide)

theorem label_ne_success (k : FailureKind) : k.label ≠ "success" := by
  cases k <;> decide

end FailureKind

namespace Manager

variable {σ α β γ : Type}

/-! ## What the metrics read -/

namespace Effect

def label? : Effect α → Option String
  | .renewalCounted label => some label
  | _ => none

def expiry? : Effect α → Option Int
  | .expiryGauged seconds => some seconds
  | _ => none

/-- A warning that a renewal has failed, of the startup or of the task. -/
def warned? : Effect α → Option FailureKind
  | .noticed (.startupAttemptFailed _ _ f _) | .noticed (.renewalFailed _ _ f) => some f.kind
  | _ => none

end Effect

namespace Metrics

/-- The count under a label. -/
def renewed (m : Metrics) (label : String) : Nat := (m.renewals.lookup label).getD 0

/-- The counts under all labels together. -/
def total (m : Metrics) : Nat := m.renewals.foldr (fun r n => r.2 + n) 0

theorem lookup_bump (label l : String) (renewals : List (String × Nat)) :
    ((bump label renewals).lookup l).getD 0 =
      (renewals.lookup l).getD 0 + if l = label then 1 else 0 := by
  have hlookup (k : String) (n : Nat) (rest : List (String × Nat)) :
      (((k, n) :: rest).lookup l).getD 0 = if l = k then n else (rest.lookup l).getD 0 := by
    rw [List.lookup_cons]
    by_cases h : l = k
    · simp [h]
    · simp [h, beq_eq_false_iff_ne.2 h]
  induction renewals with
  | nil => simp [bump, hlookup]
  | cons r renewals ih =>
    obtain ⟨k, n⟩ := r
    rw [bump, hlookup]
    split
    next hk =>
      subst hk
      rw [hlookup]
      split <;> rfl
    next hk =>
      rw [hlookup]
      split
      next h => rw [if_neg (h ▸ hk), Nat.add_zero]
      next => exact ih

theorem sum_bump (label : String) (renewals : List (String × Nat)) :
    (bump label renewals).foldr (fun r n => r.2 + n) 0 =
      renewals.foldr (fun r n => r.2 + n) 0 + 1 := by
  induction renewals with
  | nil => rfl
  | cons r renewals ih =>
    rw [bump]
    split
    · simp only [List.foldr_cons]
      omega
    · simp only [List.foldr_cons, ih]
      omega

theorem ofEffects_concat (es : List (Effect α)) (e : Effect α) :
    ofEffects (es ++ [e]) = (ofEffects es).apply e := List.foldl_append

theorem renewed_ofEffects (es : List (Effect α)) (label : String) :
    (ofEffects es).renewed label = (es.filterMap Effect.label?).count label := by
  induction es using List.reverseRecOn with
  | nil => rfl
  | append_singleton es e ih =>
    rw [ofEffects_concat, List.filterMap_append, List.count_append, ← ih]
    cases e with
    | renewalCounted l =>
      have hlabel : [Effect.renewalCounted (α := α) l].filterMap Effect.label? = [l] := rfl
      simp only [renewed, apply, lookup_bump, hlabel, List.count_singleton, beq_iff_eq,
        eq_comm (a := l)]
    | _ => rfl

theorem total_ofEffects (es : List (Effect α)) :
    (ofEffects es).total = (es.filterMap Effect.label?).length := by
  induction es using List.reverseRecOn with
  | nil => rfl
  | append_singleton es e ih =>
    rw [ofEffects_concat, List.filterMap_append, List.length_append, ← ih]
    cases e with
    | renewalCounted l => exact sum_bump ..
    | _ => rfl

theorem exhaustions_ofEffects (es : List (Effect α)) :
    (ofEffects es).exhaustions = (es.filterMap Effect.exhaustion?).length := by
  induction es using List.reverseRecOn with
  | nil => rfl
  | append_singleton es e ih =>
    rw [ofEffects_concat, List.filterMap_append, List.length_append, ← ih]
    cases e <;> rfl

theorem expiry_ofEffects (es : List (Effect α)) :
    (ofEffects es).expiry = (es.filterMap Effect.expiry?).getLast? := by
  induction es using List.reverseRecOn with
  | nil => rfl
  | append_singleton es e ih =>
    rw [ofEffects_concat, List.filterMap_append]
    cases e with
    | expiryGauged seconds => simp [Effect.expiry?, apply]
    | _ => simpa [Effect.expiry?, apply] using ih

end Metrics

/-! ## What the events call for -/

namespace Event

def outcome? : Event α → Option (Outcome α)
  | ended o _ => some o
  | _ => none

def isBreak : Event α → Bool
  | broke .. => true
  | _ => false

def isCall : Event α → Bool
  | called _ => true
  | _ => false

/-- A call has come to an outcome, or the source has broken off. -/
def isEnd : Event α → Bool
  | ended .. | broke .. => true
  | _ => false

/-- The warnings of failed renewals that a source reports with an event, on its own account. -/
def warnings (e : Event α) : List FailureKind :=
  e.said.filterMap fun n => (.noticed n : Effect α).warned?

end Event

/-- The outcomes with their instants left out, the last first. -/
def outcomes (log : List (Nat × Event α)) : List (Outcome α) := log.filterMap fun r => r.2.outcome?

/-- The credentials of the successes, the last first. -/
def issued (log : List (Nat × Event α)) : List (Credential α) := log.filterMap fun r => r.2.success?

def breaks (log : List (Nat × Event α)) : Nat := log.countP fun r => r.2.isBreak

/-- The last event is a call, which has not come to an end. -/
def isCut (log : List (Nat × Event α)) : Bool := log.head?.any fun r => r.2.isCall

theorem callTimes_cons (n : Nat) (ev : Event α) (log : List (Nat × Event α)) :
    (callTimes ((n, ev) :: log)).length = (callTimes log).length + ev.isCall.toNat := by
  cases ev <;> rfl

theorem ends_cons (n : Nat) (ev : Event α) (log : List (Nat × Event α)) :
    (outcomes ((n, ev) :: log)).length + breaks ((n, ev) :: log) =
      (outcomes log).length + breaks log + ev.isEnd.toNat := by
  cases ev with
  | ended => exact Nat.add_right_comm ..
  | broke => simp [outcomes, breaks, Event.outcome?, Event.isBreak, Event.isEnd, Nat.add_assoc]
  | _ => rfl

theorem count_label (log : List (Nat × Event α)) (k : FailureKind) :
    ((outcomes log).map Outcome.label).count k.label =
      ((failures log).map Failure.kind).count k := by
  induction log with
  | nil => rfl
  | cons r log ih =>
    obtain ⟨n, ev⟩ := r
    cases ev with
    | ended o said =>
      cases o with
      | ok c =>
        have hne := k.label_ne_success.symm
        simpa [outcomes, failures, Event.outcome?, Event.failure?, Outcome.label, hne] using ih
      | error f =>
        have hiff : f.kind.label = k.label ↔ f.kind = k :=
          ⟨FailureKind.label_injective, congrArg _⟩
        have ih := congrArg (· + if f.kind = k then 1 else 0) ih
        simpa [outcomes, failures, Event.outcome?, Event.failure?, Outcome.label, hiff,
          List.count_cons] using ih
    | _ => exact ih

theorem count_success (log : List (Nat × Event α)) :
    ((outcomes log).map Outcome.label).count "success" = (issued log).length := by
  induction log with
  | nil => rfl
  | cons r log ih =>
    obtain ⟨n, ev⟩ := r
    cases ev with
    | ended o said =>
      cases o with
      | ok c =>
        have ih := congrArg (· + 1) ih
        simpa [outcomes, issued, Event.outcome?, Event.success?, Outcome.label] using ih
      | error f =>
        have hne := f.kind.label_ne_success
        simpa [outcomes, issued, Event.outcome?, Event.success?, Outcome.label, hne] using ih
    | _ => exact ih

/-! ## Effects of a startup and of its task -/

/-- The effects that `f` picks come with the events that `g` gives them for, whether of the startup
or of the task. -/
structure Entries (p : Plan σ α β) (f : Effect α → Option γ) (g : Event α → List γ) : Prop where
  starting : f (.noticed (.managerStarting p.source.name)) = none
  startup : ∀ {now s ev s' es}, Startup.Moves p now s ev s' es → es.filterMap f = g ev
  task : Reports p f g

theorem label_entries (p : Plan σ α β) :
    Entries p Effect.label? fun e => (e.outcome?.map Outcome.label).toList where
  starting := rfl
  startup M := by
    cases M <;> simp [heard_filterMap, List.filterMap_cons, Effect.label?, Event.outcome?,
      Outcome.label]
  task :=
    { outside := fun e h => by
        cases e with
        | renewalCounted => cases h
        | _ => rfl
      closing := rfl
      moves := fun M => by
        cases M <;> simp [closing, heard_filterMap, List.filterMap_cons, Effect.label?,
          Event.outcome?, Outcome.label] }

theorem expiry_entries (p : Plan σ α β) :
    Entries p Effect.expiry? fun e => (e.success?.map fun c => c.expiresAt.unixSeconds).toList where
  starting := rfl
  startup M := by
    cases M <;> simp [heard_filterMap, List.filterMap_cons, Effect.expiry?, Event.success?]
  task :=
    { outside := fun e h => by
        cases e with
        | expiryGauged => cases h
        | _ => rfl
      closing := rfl
      moves := fun M => by
        cases M <;> simp [closing, heard_filterMap, List.filterMap_cons, Effect.expiry?,
          Event.success?] }

theorem warning_entries (p : Plan σ α β) :
    Entries p Effect.warned? fun e => e.warnings ++ (e.failure?.map Failure.kind).toList where
  starting := rfl
  startup M := by
    cases M <;> simp [heard_filterMap, List.filterMap_cons, Effect.warned?, Event.warnings,
      Event.said, Event.failure?]
  task :=
    { outside := fun e h => by
        cases e with
        | noticed n =>
          cases n with
          | startupAttemptFailed => cases h
          | renewalFailed => cases h
          | _ => rfl
        | _ => rfl
      closing := rfl
      moves := fun M => by
        cases M <;> simp [closing, heard_filterMap, List.filterMap_cons, Effect.warned?,
          Event.warnings, Event.said, Event.failure?] }

theorem exhaustion_entries (p : Plan σ α β) :
    Entries p Effect.exhaustion? fun e => e.exhaustion?.toList where
  starting := rfl
  startup M := by
    cases M <;> simp [heard_filterMap, List.filterMap_cons, Effect.exhaustion?, Event.exhaustion?]
  task := exhaustion_reports p

theorem Entries.startup_reports {p : Plan σ α β} {f : Effect α → Option γ} {g : Event α → List γ}
    (E : Entries p f g) : Startup.Reports p (fun r => f r.2) fun r => g r.2 where
  starting _ := E.starting
  moves M := by
    rw [List.filterMap_map]
    exact E.startup M

/-! ## The events of a startup -/

namespace Opening

variable {p : Plan σ α β} {t₀ : Nat} {source₀ source : σ} {log : List (Nat × Event α)}
  {e : Nat × Event α}

/-- Every call of a startup comes to an end before another one is made. -/
theorem balance (H : Opening p t₀ source₀ source log) :
    (callTimes log).length = (outcomes log).length + breaks log + (isCut log).toNat := by
  induction H with
  | begin => rfl
  | @call _ _ log _ _ _ hu _ ih =>
    have hcut : isCut log = false := by cases hu <;> rfl
    rw [callTimes_cons, ends_cons, ih, hcut]
    rfl
  | @ending _ log t u call ev _ he ih =>
    rw [callTimes_cons, ends_cons, ih]
    cases he with
    | answered =>
      obtain ⟨reply, said⟩ := call.reply (p.wall u)
      cases reply <;> rfl
    | tooLate => rfl

theorem exhaustion?_eq_none (H : Opening p t₀ source₀ source log) {r : Nat × Event α}
    (hr : r ∈ log) : r.2.exhaustion? = none := by
  induction H with
  | begin => cases hr
  | call _ _ _ ih =>
    rcases List.mem_cons.1 hr with rfl | hr
    · rfl
    · exact ih hr
  | @ending _ log t u call ev _ he ih =>
    rcases List.mem_cons.1 hr with rfl | hr
    · cases he with
      | answered =>
        obtain ⟨reply, said⟩ := call.reply (p.wall u)
        cases reply <;> rfl
      | tooLate => rfl
    · exact ih hr

/-- There is no success in a startup before its last event. -/
theorem success?_eq_none (H : Opening p t₀ source₀ source (e :: log)) {r : Nat × Event α}
    (hr : r ∈ log) : r.2.success? = none := by
  obtain ⟨later, earlier, rfl⟩ := List.append_of_mem hr
  cases hs : r.2.success? with
  | none => rfl
  | some c =>
    have hfinal : r.2.isFinal = true := by
      obtain ⟨n, ev⟩ := r
      cases ev with
      | ended o said => cases o <;> first | rfl | cases hs
      | _ => cases hs
    have H : Opening p t₀ source₀ source ((e :: later) ++ r :: earlier) := H
    cases H.final hfinal

end Opening

/-! ## The events of a run -/

namespace Chronicle
open Interleaving

variable {admits : Discipline σ α β} {p : Plan σ α β} {x y : Chronicle σ α β}

/-- Every call of the task comes to an end before another one is made, but the first credential is
the end of a call of the startup. -/
structure Balanced (x : Chronicle σ α β) : Prop where
  calls : (callTimes x.log).length + 1 =
    (outcomes x.log).length + breaks x.log + (isCut x.log).toNat
  inStep : match x.session.task.phase with
    | .renewing _ => isCut x.log = true
    | .ended _ => True
    | _ => isCut x.log = false

theorem launched_balanced (p : Plan σ α β) (now : Nat) (source : σ) (backoff : β)
    (c : Credential α) (history : List (Nat × Effect α)) :
    (launched p now source backoff c history).Balanced := ⟨rfl, rfl⟩

theorem Balanced.decide {ev : Option (Event α)} {t : Task σ α β} {effects : List (Effect α)}
    (B : x.Balanced)
    (M : x.session.task.Moves x.session.plan x.session.now x.session.cells ev t effects) :
    (x.decided ev t effects).Balanced := by
  obtain ⟨hcalls, hstep⟩ := B
  have hlog (ev : Event α) : (callTimes ((x.session.now, ev) :: x.log)).length + 1 =
      (outcomes ((x.session.now, ev) :: x.log)).length + breaks ((x.session.now, ev) :: x.log) +
        (isCut x.log).toNat + ev.isCall.toNat - ev.isEnd.toNat := by
    rw [callTimes_cons, ends_cons]
    omega
  cases M with
  | begin h | schedule h | wakeUp h =>
    simp only [h] at hstep
    exact ⟨hcalls, hstep⟩
  | timeless h => exact ⟨hcalls, trivial⟩
  | cancel => exact ⟨hcalls, trivial⟩
  | retry h | giveUp h | overflow h | call h | succeed h | fail h | timeOut h | crash h =>
    simp only [h] at hstep
    rw [hstep] at hlog
    exact ⟨hlog _, by first | rfl | trivial⟩

theorem Balanced.of_task (B : x.Balanced) (htask : y.session.task = x.session.task)
    (hlog : y.log = x.log) : y.Balanced := by
  obtain ⟨hcalls, hstep⟩ := B
  exact ⟨hlog ▸ hcalls, by rw [htask, hlog]; exact hstep⟩

theorem Run.balanced (H : Run admits x y) (hx : x.manager.Sound) (B : x.Balanced) :
    y.Balanced := by
  refine H.induct hx B fun B A => ?_
  cases A with
  | decide _ M => exact B.decide M
  | perform => exact B.of_task rfl rfl
  | discard _ _ D =>
    cases D with
    | late => exact ⟨B.calls, B.inStep⟩
    | _ => exact ⟨B.calls, trivial⟩
  | others O => exact B.of_task O.task rfl
  | tick => exact B.of_task rfl rfl

end Chronicle

/-! ## Startup and task together -/

theorem Session.ofFirst_inj {p : Plan σ α β} {now now' : Nat} {source source' : σ}
    {backoff : β} {c c' : Credential α} {history history' : List (Nat × Effect α)}
    (h : Session.ofFirst p now source backoff c history =
      .ofFirst p now' source' backoff c' history') :
    now' = now ∧ source' = source ∧ c' = c ∧ history' = history := by
  have hhistory := congrArg (fun s => s.history.tail.tail) h
  exact ⟨(congrArg Session.now h).symm, (congrArg (fun s => s.task.source) h).symm,
    (congrArg (fun s => s.cells.current) h).symm, hhistory.symm⟩

section
variable {p : Plan σ α β} {source source' : σ} {backoff : β} {now attempt : Nat}
  {c : Credential α} {said : List Log.Notice} {opening loop : List (Nat × Event α)}
  {history : List (Nat × Effect α)} {x : Chronicle σ α β}

/-- What is on record once the task has done all of its last move is what the events call for. -/
theorem Entries.history_eq {f : Effect α → Option γ} {g : Event α → List γ} (E : Entries p f g)
    (C : Startup.Course p 0 source now ⟨.issued c, source', attempt⟩
      ((now, .ended (.ok c) said) :: opening) history)
    (hx : Chronicle.Run Interleaving.free (.launched p now source' backoff c history) x)
    (hquiet : x.manager.taskAhead = []) (hlog : x.log = loop ++ [(now, .ended (.ok c) [])]) :
    (x.session.history.reverse.map Prod.snd).filterMap f =
      ((loop ++ (now, .ended (.ok c) said) :: opening).reverse.map Prod.snd).flatMap g := by
  have hsound := Interleaving.ofFirst_sound p now source' backoff c history
  obtain ⟨-, ⟨done, hhistory⟩, ⟨new, hnew⟩, -⟩ := hx.grows hsound
  obtain rfl : new = loop := List.append_cancel_right (hnew.symm.trans hlog)
  have hloop := E.task.effectsTo_append rfl hsound hx
  rw [hquiet, List.append_nil, Chronicle.effectsTo_eq hhistory, Chronicle.eventsTo_eq hnew]
    at hloop
  have hopening := C.reports E.startup_reports
  rw [hhistory, List.reverse_append, List.map_append, List.filterMap_append, List.reverse_append,
    List.map_append, List.flatMap_append]
  congr 1
  · rw [List.filterMap_map, List.flatMap_map]
    exact hopening
  · rw [List.map_reverse, List.map_reverse]
    exact hloop

theorem flatMap_toList_reverse (h : Event α → Option γ) (log : List (Nat × Event α)) :
    (log.reverse.map Prod.snd).flatMap (fun e => (h e).toList) =
      (log.filterMap fun r => h r.2).reverse := by
  rw [← List.filterMap_eq_flatMap_toList, List.filterMap_map, List.filterMap_reverse]
  rfl

/-- The warnings of a kind are the failures of it, and what the source itself has said. -/
theorem count_warned
    (C : Startup.Course p 0 source now ⟨.issued c, source', attempt⟩
      ((now, .ended (.ok c) said) :: opening) history)
    (hx : Chronicle.Run Interleaving.free (.launched p now source' backoff c history) x)
    (hquiet : x.manager.taskAhead = []) (hlog : x.log = loop ++ [(now, .ended (.ok c) [])])
    (k : FailureKind) :
    (x.session.history.filterMap fun r => r.2.warned?).count k =
      ((failures (loop ++ (now, .ended (.ok c) said) :: opening)).map Failure.kind).count k +
        ((loop ++ (now, .ended (.ok c) said) :: opening).flatMap fun r =>
          r.2.warnings).count k := by
  have hwarned := congrArg (List.count k) ((warning_entries p).history_eq C hx hquiet hlog)
  generalize loop ++ (now, Event.ended (.ok c) said) :: opening = events at hwarned ⊢
  have hsaid : ((events.reverse.map Prod.snd).flatMap Event.warnings).Perm
      (events.flatMap fun r => r.2.warnings) := by
    rw [List.flatMap_map]
    exact (List.reverse_perm events).flatMap_right _
  rw [List.filterMap_map, List.filterMap_reverse, List.count_reverse,
    ← (List.flatMap_append_perm ..).count_eq, List.count_append, hsaid.count_eq,
    flatMap_toList_reverse, List.count_reverse] at hwarned
  rw [failures, List.map_filterMap, Nat.add_comm]
  exact hwarned

theorem Chronicle.credentials_eq (x : Chronicle σ α β) :
    x.credentials = (issued x.log).reverse := by
  rw [credentials, issued, ← List.map_reverse, List.filterMap_map, ← List.filterMap_reverse]
  rfl

/-- All credentials but that of the startup are the task's. -/
theorem issued_eq (O : Opening p 0 source source' ((now, .ended (.ok c) said) :: opening)) :
    issued (loop ++ (now, .ended (.ok c) said) :: opening) =
      issued (loop ++ [(now, .ended (.ok c) [])]) := by
  have hnone : issued opening = [] :=
    List.filterMap_eq_nil_iff.2 fun r hr => O.success?_eq_none hr
  have hcons : issued ((now, .ended (.ok c) said) :: opening) = c :: issued opening := rfl
  rw [issued, List.filterMap_append, ← issued, ← issued, hcons, hnone, issued, issued,
    List.filterMap_append]
  rfl

theorem exhaustions_eq (O : Opening p 0 source source' ((now, .ended (.ok c) said) :: opening)) :
    exhaustions (loop ++ (now, .ended (.ok c) said) :: opening) =
      exhaustions (loop ++ [(now, (.ended (.ok c) [] : Event α))]) := by
  have hnone : ((now, .ended (.ok c) said) :: opening).filterMap (fun r => r.2.exhaustion?) = [] :=
    List.filterMap_eq_nil_iff.2 fun r hr => O.exhaustion?_eq_none hr
  rw [exhaustions, List.filterMap_append, hnone, exhaustions, List.filterMap_append]
  rfl

/-- The calls of startup and task come to an outcome or a break, but for the one that is cut off. -/
theorem calls_eq_ends (O : Opening p 0 source source' ((now, .ended (.ok c) said) :: opening))
    (B : x.Balanced) (hlog : x.log = loop ++ [(now, .ended (.ok c) [])]) :
    (callTimes (loop ++ (now, .ended (.ok c) said) :: opening)).length =
      (outcomes (loop ++ (now, .ended (.ok c) said) :: opening)).length +
        breaks (loop ++ (now, .ended (.ok c) said) :: opening) + (isCut x.log).toNat := by
  have hloop := B.calls
  have hopening := O.balance
  have hcut : isCut ((now, .ended (.ok c) said) :: opening) = false := rfl
  rw [hcut] at hopening
  rw [hlog] at hloop ⊢
  -- the first event of the task's log is no call
  have happend (log : List (Nat × Event α)) :
      (callTimes (loop ++ log)).length = (callTimes loop).length + (callTimes log).length ∧
      (outcomes (loop ++ log)).length = (outcomes loop).length + (outcomes log).length ∧
      breaks (loop ++ log) = breaks loop + breaks log := by
    simp [callTimes, outcomes, breaks]
  obtain ⟨hcalls, houtcomes, hbreaks⟩ := happend [(now, .ended (.ok c) [])]
  obtain ⟨hcalls', houtcomes', hbreaks'⟩ := happend ((now, .ended (.ok c) said) :: opening)
  have hfirst : (callTimes [(now, (.ended (.ok c) [] : Event α))]).length = 0 ∧
      (outcomes [(now, (.ended (.ok c) [] : Event α))]).length = 1 ∧
      breaks [(now, (.ended (.ok c) [] : Event α))] = 0 := ⟨rfl, rfl, rfl⟩
  obtain ⟨h0, h1, h2⟩ := hfirst
  rw [hcalls, houtcomes, hbreaks, h0, h1, h2] at hloop
  rw [hcalls', houtcomes', hbreaks', hopening, Bool.toNat_false]
  omega

end

/-- **Renewals are accounted for.** A manager has started with `c`, and its task has done all of its
last move. Take the events of the startup and of the task together. For each kind the count and the
warnings are the failures of that kind, but for the warnings of the source itself. The successes are
one more than the publications. A call that came to no outcome is under no label: the source has
broken off, or the last call has not come to an end. One exhaustion is counted if there is a final
error, and none if there is not. The gauge shows the expiry of the current credential. -/
theorem renewals_accounted_for {p : Plan σ α β} {source source' : σ} {backoff : β} {limit now : Nat}
    {c : Credential α} {history : List (Nat × Effect α)} {x : Chronicle σ α β}
    (hstart : start p source backoff limit = .ok (.ofFirst p now source' backoff c history))
    (hx : Chronicle.Run Interleaving.free (.launched p now source' backoff c history) x)
    (hquiet : x.manager.taskAhead = []) :
    ∃ opening loop said, Opening p 0 source source' ((now, .ended (.ok c) said) :: opening) ∧
      x.log = loop ++ [(now, .ended (.ok c) [])] ∧
      let events := loop ++ (now, .ended (.ok c) said) :: opening
      let metrics := x.session.metrics
      (∀ k : FailureKind, metrics.renewed k.label = ((failures events).map Failure.kind).count k) ∧
      (∀ k, (x.session.history.filterMap fun r => r.2.warned?).count k =
        ((failures events).map Failure.kind).count k +
          (events.flatMap fun r => r.2.warnings).count k) ∧
      metrics.renewed "success" = 1 + x.session.cells.publications ∧
      (callTimes events).length = metrics.total + breaks events + (isCut x.log).toNat ∧
      metrics.exhaustions = (if x.session.cells.fatal.isSome then 1 else 0) ∧
      metrics.expiry = some x.session.cells.current.expiresAt.unixSeconds := by
  obtain ⟨now', c', source'', attempt, log, history', C, -, hsession⟩ := start_course hstart
  obtain ⟨rfl, rfl, rfl, rfl⟩ := Session.ofFirst_inj hsession
  obtain ⟨O, said, opening, rfl⟩ := C.opening
  have N := Chronicle.launched_begins p now' source'' backoff c' history'
  obtain ⟨loop, hlog⟩ := (hx.grows N.sound).log
  have B := hx.books N.sound (Chronicle.launched_books p now' source'' backoff c' history')
  have L := hx.balanced N.sound (Chronicle.launched_balanced p now' source'' backoff c' history')
  refine ⟨opening, loop, said, O, hlog, ?_⟩
  intro events metrics
  have hissued : issued events = issued x.log := (issued_eq O).trans (congrArg issued hlog.symm)
  have hlabels : (x.session.history.reverse.map Prod.snd).filterMap Effect.label? =
      ((outcomes events).map Outcome.label).reverse := by
    rw [(label_entries p).history_eq C hx hquiet hlog, flatMap_toList_reverse, outcomes,
      List.map_filterMap]
  have hexpiries : (x.session.history.reverse.map Prod.snd).filterMap Effect.expiry? =
      ((issued events).map fun c => c.expiresAt.unixSeconds).reverse := by
    rw [(expiry_entries p).history_eq C hx hquiet hlog, flatMap_toList_reverse, issued,
      List.map_filterMap]
  have hmetrics : metrics = .ofEffects (x.session.history.reverse.map Prod.snd) := rfl
  have hsettled : x.Settled := .inr hquiet
  refine ⟨fun k => ?_, fun k => ?_, ?_, ?_, ?_, ?_⟩
  · rw [hmetrics, Metrics.renewed_ofEffects, hlabels, List.count_reverse, count_label]
  · exact count_warned C hx hquiet hlog k
  · have hpublished := (N.numbered hx).settled (N.writesAhead_eq_nil hx hsettled)
    rw [x.credentials_eq, List.length_reverse] at hpublished
    rw [hmetrics, Metrics.renewed_ofEffects, hlabels, List.count_reverse, count_success, hissued,
      hpublished, Nat.add_comm]
  · rw [hmetrics, Metrics.total_ofEffects, hlabels, List.length_reverse, List.length_map]
    exact calls_eq_ends O L hlog
  · have hcount : exhaustions events = exhaustions x.log :=
      (exhaustions_eq O).trans (congrArg exhaustions hlog.symm)
    rw [hmetrics, Metrics.exhaustions_ofEffects,
      (exhaustion_entries p).history_eq C hx hquiet hlog, flatMap_toList_reverse,
      List.length_reverse, ← exhaustions, hcount, B.exhaustions,
      B.fatal_of_told (.inr (.inl hquiet))]
    cases verdict? p.source.name x.log <;> rfl
  · have hlast := N.getLast?_credentials hx hsettled
    rw [x.credentials_eq, List.getLast?_reverse] at hlast
    rw [hmetrics, Metrics.expiry_ofEffects, hexpiries, List.getLast?_reverse, hissued,
      List.head?_map, hlast]
    rfl

/-- A source that fails, issues 7, and fails ever after. -/
def shaky : Plan (List (Line Nat)) Nat Backoff.Schedule :=
  ⟨scripted "sample" ⟨.atOnce, .fail ⟨.io, "gone"⟩⟩, Backoff.Schedule.strategy, .standard,
    wallFrom .epoch⟩

def shakyLines : List (Line Nat) :=
  [⟨.atOnce, .fail ⟨.io, "gone"⟩⟩, ⟨.atOnce, .issue 7 (.until .epoch)⟩]

/-- What is on record of its startup. -/
def shakyHistory : List (Nat × Effect Nat) :=
  [(millis 2000, .expiryGauged 0), (millis 2000, .renewalCounted "success"),
    (millis 2000, .renewCalled),
    (0, .noticed (.startupAttemptFailed "sample" 1 ⟨.io, "gone"⟩ (.ofSeconds 2))),
    (0, .renewalCounted "io"), (0, .renewCalled), (0, .noticed (.managerStarting "sample"))]

def shakyFirst : Credential Nat := ⟨7, .epoch, ⟨2000000000, by decide, by decide⟩⟩

/-- Its manager has given up at the first failure of the task. -/
def shakyEnd : Chronicle (List (Line Nat)) Nat Backoff.Schedule :=
  (Chronicle.launched shaky (millis 2000) [] (.ofList []) shakyFirst shakyHistory).after
    (fun _ _ => true)
    (List.replicate 3 .task ++ [.tick (millis 1000)] ++ List.replicate 13 .task) (by decide +kernel)

theorem shaky_accounted_for :
    shakyEnd.session.metrics.exhaustions = 1 ∧ shakyEnd.session.metrics.renewed "success" = 1 ∧
      shakyEnd.session.metrics.expiry = some 0 := by
  have hstart : start shaky shakyLines (.ofList []) (millis 10000) =
      .ok (.ofFirst shaky (millis 2000) [] (.ofList []) shakyFirst shakyHistory) := rfl
  have hx : Chronicle.Run Interleaving.free _ shakyEnd :=
    Chronicle.run_after (fun _ _ _ => trivial) _
  have hquiet : shakyEnd.manager.taskAhead.isEmpty = true := by decide +kernel
  obtain ⟨_, _, _, -, -, -, -, hsuccess, -, hexhaustions, hexpiry⟩ :=
    renewals_accounted_for hstart hx (List.isEmpty_iff.1 hquiet)
  have hfatal : shakyEnd.session.cells.fatal.isSome = true := by decide +kernel
  have hnone : shakyEnd.session.cells.publications = 0 := by decide +kernel
  have hcurrent : shakyEnd.session.cells.current.expiresAt.unixSeconds = 0 := by decide +kernel
  refine ⟨?_, ?_, ?_⟩
  · rw [hexhaustions, hfatal]
    rfl
  · rw [hsuccess, hnone]
  · rw [hexpiry, hcurrent]

end Manager

end CredentialKeeper
