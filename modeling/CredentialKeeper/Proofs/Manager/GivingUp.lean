import CredentialKeeper.Proofs.Manager.Budget
import CredentialKeeper.Proofs.Manager.Cancellation
import CredentialKeeper.Proofs.Manager.Freshness

/-! # A manager whose source only fails gives up

Under a prompt runtime a task that has neither ended nor been asked to stop always comes to a next
event (`Chronicle.exists_event`), and a streak of so many failures has no more than three times as
many events (`Timeline.recent_le`). With a budget on the failures a source that only fails therefore
drives the manager to give up (`Chronicle.Failing.exists_exhausted`), and as there is only one
course of events, whoever lets enough time pass finds that it has. -/

namespace CredentialKeeper.Manager

open Backoff

variable {σ α β : Type}

/-! ## Sources that only fail -/

/-- If the call is answered at all it fails. -/
def Call.Fails (c : Call α) : Prop := ∀ w, ∃ f said, c.reply w = (.outcome (.error f), said)

/-- From a memory on a source fails whenever it is called. -/
def Source.Fails (s : Source σ α) (memory : σ) : Prop :=
  ∀ later, Relation.ReflTransGen (fun m m' => ∃ w, (s.renew m w).2 = m') memory later →
    ∀ w, (s.renew later w).1.Fails

theorem Source.Fails.call {s : Source σ α} {memory memory' : σ} {c : Call α} {w : Option Moment}
    (h : s.Fails memory) (hr : s.renew memory w = (c, memory')) : c.Fails ∧ s.Fails memory' := by
  refine ⟨?_, fun later hlater => h later (.head ⟨w, by rw [hr]⟩ hlater)⟩
  have hc := h memory .refl w
  rwa [hr] at hc

/-- A script of failures fails. -/
theorem scripted_fails {name : String} {last : Line α} {lines : List (Line α)}
    (h : ∀ line ∈ last :: lines, ∃ f, line.speech = .fail f) :
    (scripted name last).Fails lines := by
  intro later hlater w w'
  have hall : ∀ line ∈ last :: later, ∃ f, line.speech = .fail f := by
    induction hlater with
    | refl => exact h
    | tail _ hnext ih =>
      obtain ⟨_, rfl⟩ := hnext
      intro line hline
      rcases List.mem_cons.1 hline with rfl | hline
      · exact ih _ (.head _)
      · exact ih line (.tail _ (List.mem_of_mem_tail hline))
  have hmem : later.headD last ∈ last :: later := by cases later <;> simp
  obtain ⟨f, hf⟩ := hall _ hmem
  exact ⟨f, [], by simp only [scripted, hf, Speech.reply]⟩

/-! ## The events of a streak -/

/-- The number of events since the last success. -/
def recent : List (Nat × Event α) → Nat
  | [] => 0
  | (_, .ended (.ok _) _) :: _ => 0
  | _ :: log => recent log + 1

section
variable {p : Plan σ α β} {t₀ : Nat} {c : Credential α} {source₀ source source' : σ}
  {backoff₀ backoff backoff' : β} {log log' : List (Nat × Event α)}

/-- Each failure comes with a call before it and a question after it. -/
theorem Timeline.recent_eq (H : Timeline p t₀ c source₀ backoff₀ source backoff log) :
    match log with
    | (_, .called _) :: _ => recent log = 3 * (streak log).length + 1
    | (_, .ended (.error _) _) :: _ => recent log + 1 = 3 * (streak log).length
    | (_, .broke ..) :: _ => recent log = 3 * (streak log).length + 2
    | _ => recent log = 3 * (streak log).length := by
  induction H with
  | launch => rfl
  | call _ hu _ ih =>
    cases hu with
    | onSchedule => rfl
    | onAdvice => simpa [recent, streak] using ih
  | @ending _ _ _ _ _ _ ev _ he ih =>
    have ih : recent _ = _ := ih
    cases ev with
    | called => exact absurd rfl he.ne_called
    | advised => exact absurd rfl he.ne_advised
    | broke => exact congrArg (· + 1) ih
    | ended o said =>
      cases o with
      | ok => rfl
      | error =>
        simp only [recent, streak, List.length_cons] at ih ⊢
        omega
  | asked _ _ ih =>
    simp only [recent, streak, List.length_cons] at ih ⊢
    omega

theorem Timeline.recent_le (H : Timeline p t₀ c source₀ backoff₀ source backoff log) :
    recent log ≤ 3 * (streak log).length + 2 := by
  have h := H.recent_eq
  split at h <;> omega

theorem Timeline.suffix_of_length_le (H : Timeline p t₀ c source₀ backoff₀ source backoff log)
    (H' : Timeline p t₀ c source₀ backoff₀ source' backoff' log')
    (hlen : log'.length ≤ log.length) : log' <:+ log := by
  refine suffix_of_eq_end hlen fun later earlier hsplit hlength => ?_
  have hnil : earlier ≠ [] := by
    rintro rfl
    exact H'.ne_nil (List.length_eq_zero_iff.1 hlength)
  obtain ⟨_, _, H⟩ := (hsplit ▸ H).of_append hnil
  exact (H.unique H' hlength).1

/-- Nothing comes after the advice to give up. -/
theorem Timeline.of_exhausted {n : Nat} {later : List (Nat × Event α)}
    (H : Timeline p t₀ c source₀ backoff₀ source backoff
      (later ++ (n, .advised .exhausted) :: log)) : later = [] := by
  rcases List.eq_nil_or_concat later with rfl | ⟨later, e, rfl⟩
  · rfl
  · rw [List.concat_eq_append, List.append_assoc] at H
    obtain ⟨_, _, H⟩ := H.of_append (by simp)
    cases H with
    | call _ hu => cases hu

end

/-! ## The next event -/

namespace Task

variable {p : Plan σ α β} {now wake : Nat} {cells : Cells α} {t t' : Task σ α β}
  {ev : Option (Event α)} {effects : List (Effect α)}

/-- The clock shows a time if the task is about to plan by it. -/
def Timed (p : Plan σ α β) (now : Nat) (t : Task σ α β) : Prop :=
  t.phase = .spawned ∨ t.phase = .planning → t.failures = 0 → p.wall now ≠ none

/-- The moves of a task that come before its next event, at most. -/
def lead (t : Task σ α β) : Nat :=
  match t.phase with
  | .spawned => 3
  | .planning => 2
  | .waiting _ => 1
  | _ => 0

/-- A move that comes with no event brings the next one closer. -/
theorem Moves.lead_lt (M : t.Moves p now cells none t' effects) (hc : cells.isCancelled = false)
    (htimed : t.Timed p now) :
    t'.lead < t.lead ∧ t'.Timed p now ∧ ∀ exit, t'.phase ≠ .ended exit := by
  cases M with
  | begin h => exact ⟨by simp [lead, h], fun _ => htimed (.inl h), by simp⟩
  | schedule h => exact ⟨by simp [lead, h], by simp [Timed], by simp⟩
  | timeless h hf hw => exact absurd hw (htimed (.inr h) hf)
  | cancel hc' =>
    rw [hc] at hc'
    cases hc'
  | wakeUp h => exact ⟨by simp [lead, h], by simp [Timed], by simp⟩

theorem step_isSome (h : t.wake? = some wake) (hle : wake ≤ now) :
    (t.step p now cells).isSome := by
  rw [Option.isSome_iff_ne_none]
  intro hnone
  unfold wake? at h
  obtain ⟨⟨wake', hp, hlt⟩ | ⟨call, hp, hlt⟩, -⟩ | ⟨exit, hp⟩ := Task.idle hnone
  · simp only [hp, Option.some.injEq] at h
    omega
  · simp only [hp, Option.some.injEq] at h
    omega
  · simp only [hp] at h
    cases h

end Task

namespace Chronicle
open Interleaving

section
variable {p : Plan σ α β} {x y z : Chronicle σ α β}

/-- The clock is advanced for a task that waits, until it can move. -/
theorem exists_tick (hquiet : x.manager.taskAhead = []) (hc : x.session.cells.isCancelled = false)
    (hrun : ∀ exit, x.session.task.phase ≠ .ended exit)
    (htimed : x.session.task.Timed p x.session.now) :
    ∃ nanos, prompt x.manager (.tick nanos) ∧ x.session.task.Timed p (x.session.now + nanos) ∧
      (x.session.task.step x.session.plan (x.session.now + nanos) x.session.cells).isSome := by
  cases hstep : x.session.task.step x.session.plan x.session.now x.session.cells with
  | some r =>
    exact ⟨0, ⟨hquiet, fun k hk => absurd hk (Nat.not_lt_zero k)⟩, htimed, by simp [hstep]⟩
  | none =>
    obtain ⟨wake, hw, hlt, hphase⟩ : ∃ wake, x.session.task.wake? = some wake ∧
        x.session.now < wake ∧ ∀ later, x.session.task.Timed p later := by
      obtain ⟨⟨wake, hp, hlt⟩ | ⟨call, hp, hlt⟩, -⟩ | ⟨exit, hp⟩ := Task.idle hstep
      · exact ⟨wake, by simp [Task.wake?, hp], hlt, by simp [Task.Timed, hp]⟩
      · exact ⟨_, by simp [Task.wake?, hp], hlt, by simp [Task.Timed, hp]⟩
      · exact absurd hp (hrun exit)
    obtain ⟨nanos, rfl⟩ := Nat.exists_eq_add_of_lt hlt
    refine ⟨nanos + 1, ⟨hquiet, fun k hk => ?_⟩, hphase _, Task.step_isSome hw (Nat.le_refl _)⟩
    exact Task.step_of_wake hw hc (Nat.add_lt_add_left hk _)

/-- A task that goes on comes to its next event, as long as the clock shows a time. -/
theorem exists_event (hx : x.manager.Sound) (hplan : x.session.plan = p) (A : x.Asked)
    (hc : x.session.cells.isCancelled = false)
    (hrun : ∀ exit, x.session.task.phase ≠ .ended exit)
    (htimed : x.session.task.Timed p x.session.now) :
    ∃ y e, Run prompt x y ∧ y.log = e :: x.log ∧ y.session.cells.isCancelled = false := by
  induction hn : x.session.task.lead using Nat.strong_induction_on generalizing x with
  | h n ih =>
    subst hplan
    let y := x.performed x.manager.taskAhead []
    have hxy : Run prompt x y := Run.mono prompt_of_alone (run_taskAhead rfl)
    have hcy : y.session.cells.isCancelled = false := by
      rw [← Bool.not_eq_true] at hc ⊢
      exact fun h => ((Cells.isCancelled_applyAll ..).1 h).elim hc A.taskAhead
    obtain ⟨nanos, had, htimed, hsome⟩ := exists_tick (x := y) rfl hcy hrun htimed
    obtain ⟨⟨t, effects⟩, hstep⟩ := Option.isSome_iff_exists.1 hsome
    have hxz : Run prompt x
        ((y.ticked nanos).decided ((y.ticked nanos).manager.event? .task) t effects) :=
      (hxy.tail ⟨.tick nanos, had, rfl⟩).trans
        (Run.mono prompt_of_alone (.single (next_decide rfl hstep)))
    have M := Task.step_moves hstep
    have hev : (y.ticked nanos).manager.event? .task =
      x.session.task.event? x.session.plan (x.session.now + nanos) y.session.cells := rfl
    rw [hev] at hxz
    cases h : x.session.task.event? x.session.plan (x.session.now + nanos) y.session.cells with
    | some e =>
      rw [h] at hxz
      exact ⟨_, (x.session.now + nanos, e), hxz, rfl, hcy⟩
    | none =>
      rw [h] at hxz
      have M : x.session.task.Moves x.session.plan (x.session.now + nanos) y.session.cells none t
        effects := h ▸ M
      obtain ⟨hlt, htimed, hrun⟩ := M.lead_lt hcy htimed
      obtain ⟨z, e, hz, hlog, hcz⟩ := ih _ (hn ▸ hlt) (hxz.sound hx) rfl (hxz.asked hx A) hcy hrun
        htimed rfl
      exact ⟨z, e, hxz.trans hz, hlog, hcz⟩

/-- A task that goes on has no event behind it to come. -/
theorem Paced.now_le {t₀ : Nat} {c : Credential α} {source₀ source : σ} {backoff₀ backoff : β}
    {e : Nat × Event α} (P : x.Paced p t₀ c source₀ backoff₀)
    (hrun : ∀ exit, x.session.task.phase ≠ .ended exit)
    (H : Timeline p t₀ c source₀ backoff₀ source backoff (e :: x.log)) :
    x.session.now ≤ e.1 := by
  have S := P.inStep
  unfold InStep at S
  -- the next event is due at one time only
  have hcall : ∀ {u log}, x.log = log → CallDue p log u → e.1 = u := by
    intro u log hlog hu
    rw [hlog] at H
    cases H with
    | launch => cases hu
    | call _ hu' => exact hu'.unique hu
    | ending => cases hu
    | asked => cases hu
  cases h : x.session.task.phase with
  | spawned | planning =>
    simp only [h] at S
    obtain ⟨o, said, log, hlog⟩ := S
    rw [hlog] at H
    cases H with
    | call _ hu =>
      cases hu with
      | onSchedule _ hu => exact hu.le
    | asked => exact Nat.le_refl _
  | waiting wake =>
    simp only [h] at S
    exact hcall rfl S.1 ▸ S.2
  | awake =>
    simp only [h] at S
    exact (hcall rfl S).ge
  | renewing call =>
    simp only [h] at S
    obtain ⟨t, call, log, hlog, rfl, hle⟩ := S
    rw [hlog] at H
    cases H with
    | call _ hu => cases hu
    | ending _ he =>
      obtain ⟨ev, he'⟩ := PendingCall.exists_ending p call t
      exact (he.unique he').1 ▸ hle
  | ended exit => exact absurd h (hrun exit)

end

/-! ## Failing for good -/

section
variable {p : Plan σ α (Exponential × List Binary64)} {log₀ : List (Nat × Event α)}
  {x y z : Chronicle σ α (Exponential × List Binary64)}

/-- A manager whose source only fails, with the events since a log. It goes on until it is asked to
stop or gives up. -/
structure Failing (p : Plan σ α (Exponential × List Binary64)) (log₀ : List (Nat × Event α))
    (x : Chronicle σ α (Exponential × List Binary64)) : Prop where
  source : p.source.Fails x.session.task.source
  pending : ∀ call, x.session.task.phase = .renewing call → call.call.Fails
  timed : x.session.task.Timed p x.session.now
  going : x.session.cells.isCancelled = false →
    (∀ exit, x.session.task.phase ≠ .ended exit) ∨ Exhausted x.log
  since : ∃ later, x.log = later ++ log₀ ∧ ∀ r ∈ later, r.2.success? = none

namespace Failing

theorem decide {lag : Nat → Nat → Prop} {slack : Nat} {ev : Option (Event α)}
    {t : Task σ α (Exponential × List Binary64)} {effects : List (Effect α)}
    (F : x.Failing p log₀) (B : x.Books p)
    (I : (x.decided ev t effects).InBudget lag slack p.settings.backoff)
    (M : x.session.task.Moves x.session.plan x.session.now x.session.cells ev t effects) :
    (x.decided ev t effects).Failing p log₀ := by
  obtain rfl := B.plan
  obtain ⟨hsource, hpending, htimed, -, later, hlog, hlater⟩ := F
  have hsince : (∀ e, ev = some e → e.success? = none) → ∃ later,
      (x.decided ev t effects).log = later ++ log₀ ∧ ∀ r ∈ later, r.2.success? = none := by
    intro hev
    refine ⟨ev.toList.map (x.session.now, ·) ++ later, by rw [List.append_assoc, ← hlog], ?_⟩
    simpa [or_imp, forall_and] using ⟨hev, fun a b => hlater (a, b)⟩
  cases M with
  | begin h =>
    exact ⟨hsource, by simp, fun _ => htimed (.inl h), fun _ => .inl (by simp), hsince (by simp)⟩
  | schedule | wakeUp =>
    exact ⟨hsource, by simp, by simp [Task.Timed], fun _ => .inl (by simp), hsince (by simp)⟩
  | timeless h hf hw => exact absurd hw (htimed (.inr h) hf)
  | retry =>
    exact ⟨hsource, by simp, by simp [Task.Timed], fun _ => .inl (by simp),
      hsince (by rintro _ ⟨⟩; rfl)⟩
  | giveUp =>
    exact ⟨hsource, by simp, by simp [Task.Timed], fun _ => .inr ⟨_, .head _⟩,
      hsince (by rintro _ ⟨⟩; rfl)⟩
  | overflow => cases I.advised [] _ _ _ rfl
  | cancel hc =>
    refine ⟨hsource, by simp, by simp [Task.Timed], fun hc' => ?_, hsince (by simp)⟩
    rw [show x.session.cells.isCancelled = false from hc'] at hc
    cases hc
  | call h hc hr =>
    obtain ⟨hfails, hsource⟩ := hsource.call hr
    exact ⟨hsource, by rintro _ ⟨⟩; exact hfails, by simp [Task.Timed], fun _ => .inl (by simp),
      hsince (by rintro _ ⟨⟩; rfl)⟩
  | succeed h hc hs hr | crash h hc hs hr =>
    obtain ⟨f, said, hf⟩ := hpending _ h (x.session.plan.wall x.session.now)
    cases hr.symm.trans hf
  | fail h | timeOut h =>
    exact ⟨hsource, by simp, by simp [Task.Timed], fun _ => .inl (by simp),
      hsince (by rintro _ ⟨⟩; rfl)⟩

theorem tick {nanos : Nat} (F : x.Failing p log₀) (had : prompt x.manager (.tick nanos)) :
    (x.ticked nanos).Failing p log₀ := by
  refine ⟨F.source, F.pending, fun hplan hf => ?_, F.going, F.since⟩
  rcases Nat.eq_zero_or_pos nanos with rfl | hnanos
  · exact F.timed hplan hf
  · have hidle := had.2 0 hnanos
    rcases hplan with h | h <;>
      rw [Task.step, show x.manager.session.task.phase = _ from h] at hidle <;> cases hidle

/-- It takes the task's own moves, or time, to change what a source that fails comes to. -/
theorem frame (F : x.Failing p log₀) (htask : y.session.task = x.session.task)
    (hnow : y.session.now = x.session.now) (hlog : y.log = x.log)
    (hc : x.session.cells.isCancelled = true → y.session.cells.isCancelled = true) :
    y.Failing p log₀ := by
  obtain ⟨hsource, hpending, htimed, hgoing, hsince⟩ := F
  rw [← htask] at hsource hpending htimed hgoing
  rw [← hnow] at htimed
  rw [← hlog] at hgoing hsince
  refine ⟨hsource, hpending, htimed, fun hc' => hgoing ?_, hsince⟩
  rw [← Bool.not_eq_true] at hc' ⊢
  exact mt hc hc'

end Failing

/-- What holds of a manager with an exponential backoff as long as its runtime is prompt. -/
structure Orderly (p : Plan σ α (Exponential × List Binary64)) (now : Nat) (c : Credential α)
    (source : σ) (draws : List Binary64) (x : Chronicle σ α (Exponential × List Binary64)) :
    Prop where
  sound : x.manager.Sound
  books : x.Books p
  asked : x.Asked
  inBudget : x.InBudget (· = ·) 999999 p.settings.backoff
  paced : x.Paced p now c source (.fresh p.settings.backoff, draws)
  le_now : ∀ r ∈ x.log, r.1 ≤ x.session.now

section
variable {now : Nat} {c : Credential α} {source : σ} {draws : List Binary64}

theorem Run.orderly {history : List (Nat × Effect α)}
    {start : Chronicle σ α (Exponential × List Binary64)}
    (H : Run prompt start x) (hp : p.backoff = Exponential.strategy)
    (hcheck : p.settings.backoff.check = .ok ())
    (hzero : p.settings.backoff.randomizationFactor.eq .zero = true)
    (hstart : start = launched p now source (.fresh p.settings.backoff, draws) c history) :
    x.Orderly p now c source draws := by
  have N : start.Begins c := hstart ▸ launched_begins p now source _ c history
  have B : start.Books p := hstart ▸ launched_books p now source _ c history
  refine ⟨H.sound N.sound, H.books N.sound B, H.asked N.sound ?_, ?_, H.paced N B ?_,
    H.le_now N.sound ?_⟩
  · exact hstart ▸ launched_asked p now source _ c history
  · refine H.inBudget prompt_keeps N.sound B hp hzero ?_ fun _ _ => by omega
    exact hstart ▸ launched_inBudget hcheck now source draws c history
  · exact hstart ▸ launched_paced p now source _ c history
  · exact hstart ▸ by simp [launched, ofFirst, Session.spawned]

theorem Run.failing (H : Run prompt x y) (O : x.Orderly p now c source draws)
    (hp : p.backoff = Exponential.strategy)
    (hzero : p.settings.backoff.randomizationFactor.eq .zero = true) (F : x.Failing p log₀) :
    y.Failing p log₀ := by
  induction H with
  | refl => exact F
  | @tail y z H N F =>
    have H : Run prompt x y := H
    have I := H.inBudget prompt_keeps O.sound O.books hp hzero O.inBudget fun _ _ => by omega
    cases N.advance (H.sound O.sound) with
    | decide _ M =>
      have B := H.books O.sound O.books
      exact F.decide B (I.decide B hp hzero (fun _ => rfl) M fun _ _ => by omega) M
    | perform => exact F.frame rfl rfl rfl fun hc => (Cells.isCancelled_apply ..).2 (.inl hc)
    | discard had => exact had.elim
    | others O =>
      refine F.frame O.task O.now rfl fun hc => ?_
      rw [O.cells]
      exact (Cells.isCancelled_applyAll ..).2 (.inl hc)
    | tick had => exact F.tick had

theorem length_le_recent {later : List (Nat × Event α)}
    (h : ∀ r ∈ later, r.2.success? = none) : later.length ≤ recent (later ++ log₀) := by
  induction later with
  | nil => exact Nat.zero_le _
  | cons r later ih =>
    obtain ⟨m, _ | ⟨_ | _, _⟩ | _ | _⟩ := r
    case ended.ok => simp [Event.success?] at h
    all_goals exact Nat.succ_le_succ (ih fun r hr => h r (.tail _ hr))

/-- A bound on the failures is a bound on the events, and each state has one to come, until the
manager has given up. -/
theorem Failing.exists_exhausted {start : Chronicle σ α (Exponential × List Binary64)} {most : Nat}
    (H : Run prompt start x) (hstart : ∀ {y}, Run prompt start y → y.Orderly p now c source draws)
    (hfails : ∀ {y}, Run prompt start y → y.Failing p log₀)
    (hmost : ∀ {y}, Run prompt start y → (streak y.log).length ≤ most)
    (hc : x.session.cells.isCancelled = false) : ∃ y, Run prompt x y ∧ Exhausted y.log := by
  induction hn : 3 * most + 3 + log₀.length - x.log.length using Nat.strong_induction_on
    generalizing x with
  | h n ih =>
    have F := hfails H
    have O := hstart H
    rcases F.going hc with hrun | hex
    · obtain ⟨y, e, hxy, hlog, hcy⟩ :=
        exists_event O.sound O.books.plan O.asked hc hrun F.timed
      have hlen : x.log.length < 3 * most + 3 + log₀.length := by
        obtain ⟨later, hx, hlater⟩ := F.since
        have hle : later.length ≤ recent x.log := hx ▸ length_le_recent hlater
        have hrecent := O.paced.timeline.recent_le
        have hstreak := hmost H
        rw [hx, List.length_append]
        omega
      have hlt : 3 * most + 3 + log₀.length - y.log.length < n := by
        rw [hlog, List.length_cons]
        omega
      obtain ⟨z, hyz, hex⟩ := ih _ hlt (H.trans hxy) hcy rfl
      exact ⟨z, hxy.trans hyz, hex⟩
    · exact ⟨x, .refl, hex⟩

namespace Orderly

theorem of_exhausted (O : x.Orderly p now c source draws) (hex : Exhausted x.log) :
    ∃ n first log, x.log = (n, .advised .exhausted) :: log ∧
      (streak log).getLast? = some first := by
  obtain ⟨e, he⟩ := Option.isSome_iff_exists.1 (O.books.exhausted_iff.1 hex)
  obtain ⟨n, first, log, hlog, hfirst, -⟩ := verdict?_eq_some he
  exact ⟨n, first, log, hlog, hfirst⟩

/-- No course of events goes further than one in which the manager has given up. -/
theorem suffix_of_exhausted (Oy : y.Orderly p now c source draws)
    (Oz : z.Orderly p now c source draws) (hex : Exhausted y.log) : z.log <:+ y.log := by
  have Ty := Oy.paced.timeline
  have Tz := Oz.paced.timeline
  rcases Nat.le_total z.log.length y.log.length with hle | hle
  · exact Ty.suffix_of_length_le Tz hle
  · obtain ⟨later, hlater⟩ := Tz.suffix_of_length_le Ty hle
    obtain ⟨n, _, log, hlog, -⟩ := Oy.of_exhausted hex
    rw [← hlater, hlog] at Tz
    obtain rfl := Tz.of_exhausted
    rw [← hlater]
    exact List.suffix_rfl

/-- With the time at which a manager has given up behind it, another that has taken the same course
has given up as well. -/
theorem eq_of_exhausted (Oy : y.Orderly p now c source draws)
    (Oz : z.Orderly p now c source draws) (hex : Exhausted y.log) (F : z.Failing p log₀)
    (hc : z.session.cells.isCancelled = false) (hlt : y.session.now < z.session.now) :
    z.log = y.log := by
  obtain ⟨later, hlater⟩ := Oy.suffix_of_exhausted Oz hex
  rcases List.eq_nil_or_concat later with rfl | ⟨later, e, rfl⟩
  · exact hlater
  · rw [List.concat_eq_append, List.append_assoc] at hlater
    have T := Oy.paced.timeline
    rw [← hlater] at T
    obtain ⟨_, _, T⟩ := T.of_append (by simp)
    have he : e ∈ y.log := by
      rw [← hlater]
      simp
    rcases F.going hc with hrun | hexz
    · have hge := Oz.paced.now_le hrun T
      have hle := Oy.le_now e he
      omega
    · obtain ⟨n, _, log, hlog, -⟩ := Oz.of_exhausted hexz
      rw [hlog] at T
      have hnil := Timeline.of_exhausted T
      cases hnil

end Orderly

/-- A source that only fails drives a manager to give up, and there is only one way to go there. -/
theorem Failing.gives_up (hx : ∀ {y}, Run prompt x y → y.Orderly p now c source draws)
    (hp : p.backoff = Exponential.strategy)
    (hzero : p.settings.backoff.randomizationFactor.eq .zero = true)
    (hc : x.session.cells.isCancelled = false)
    (hbudget : p.settings.backoff.maxAttempts ≠ none ∨ p.settings.backoff.maxElapsedTime ≠ none)
    (F : x.Failing p log₀) :
    ∃ y, Run prompt x y ∧ Exhausted y.log ∧ ∀ z, Run prompt x z → z.log <:+ y.log ∧
      (z.session.cells.isCancelled = false → y.session.now < z.session.now → z.log = y.log) := by
  have failing : ∀ {y}, Run prompt x y → y.Failing p log₀ := fun H =>
    H.failing (hx .refl) hp hzero F
  obtain ⟨most, hmost⟩ : ∃ most, ∀ {y}, Run prompt x y → (streak y.log).length ≤ most := by
    rcases hbudget with h | h
    · obtain ⟨most, h⟩ := Option.ne_none_iff_exists'.1 h
      exact ⟨most + 1, fun H => (hx H).inBudget.within.attempts_le most h⟩
    · obtain ⟨most, h⟩ := Option.ne_none_iff_exists'.1 h
      exact ⟨(most.nanos + 999999) / 1000000 + 2, fun H => (hx H).inBudget.within.elapsed_le most h⟩
  obtain ⟨y, hxy, hex⟩ := exists_exhausted .refl hx failing hmost hc
  exact ⟨y, hxy, hex, fun z hxz => ⟨(hx hxy).suffix_of_exhausted (hx hxz) hex,
    (hx hxy).eq_of_exhausted (hx hxz) hex (failing hxz)⟩⟩

end

end

/-- **A manager gives up when a budget is spent, and not before.** Let the waits have nothing random
about them. In any state of any run, with `most` attempts allowed there are no more than `most + 1`
failures since the last success. With a time allowed there are no more than its milliseconds and two
if all events come on whole milliseconds, when `slack` is 0, and no more than one above that
whenever they come, so that a count of them in 32 bits does not go round. The manager gives up after
`most + 1` attempts, or with more time gone by than allowed, and under a prompt runtime with less
than a greatest interval, a call and two milliseconds more; the strategy does not fail. With a
budget, a source that only fails drives a manager that goes on to give up after finitely many
events, and if only enough time passes it has given up. -/
theorem gives_up_when_budget_spent {p : Plan σ α (Exponential × List Binary64)} {now : Nat}
    {source : σ} {draws : List Binary64} {c : Credential α} {history : List (Nat × Effect α)}
    {start x : Chronicle σ α (Exponential × List Binary64)}
    (hp : p.backoff = Exponential.strategy) (hcheck : p.settings.check = .ok ())
    (hzero : p.settings.backoff.randomizationFactor.eq .zero = true)
    (hstart : start = launched p now source (.fresh p.settings.backoff, draws) c history)
    (hx : Run free start x) :
    ((∀ most, p.settings.backoff.maxAttempts = some most → (streak x.log).length ≤ most + 1) ∧
      (∀ slack, (∀ r ∈ x.log, r.1 % 1000000 ≤ slack) →
        ∀ most, p.settings.backoff.maxElapsedTime = some most →
          (streak x.log).length ≤ (most.nanos + slack) / 1000000 + 2) ∧
      ((∃ most < 2 ^ 32 - 1, p.settings.backoff.maxAttempts = some most) ∨
          (∃ most, p.settings.backoff.maxElapsedTime = some most ∧
            most.nanos ≤ 49 * 86400 * nanosPerSecond) →
        (streak x.log).length < 2 ^ 32)) ∧
    -- there is an error only once the manager has given up, and a budget is spent then
    (x.session.cells.fatal.isSome → Exhausted x.log) ∧
    (Exhausted x.log → ∃ n first log, x.log = (n, .advised .exhausted) :: log ∧
      (streak log).getLast? = some first ∧
      (∀ e, x.session.cells.fatal = some e →
        e = .backoffExhausted p.source.name (streak log).length (spanBetween first n)) ∧
      Spent p.settings.backoff (streak log).length (n - first) ∧
      (clockReaches n thirtyYears →
        (spanBetween first n).nanos = n - first ∧
        (Run prompt start x → ∀ most, p.settings.backoff.maxElapsedTime = some most →
          n - first < most.nanos + p.settings.backoff.maxInterval.nanos +
            p.settings.renewTimeout.nanos + 2000000))) ∧
    (∀ n, (n, .advised .overflow) ∉ x.log) ∧
    -- a source that only fails
    (Run prompt start x → x.session.cells.isCancelled = false →
      (∀ exit, x.session.task.phase ≠ .ended exit) → p.wall x.session.now ≠ none →
      (p.settings.backoff.maxAttempts ≠ none ∨ p.settings.backoff.maxElapsedTime ≠ none) →
      p.source.Fails x.session.task.source →
      (∀ call, x.session.task.phase = .renewing call → call.call.Fails) →
      ∃ y, Run prompt x y ∧ Exhausted y.log ∧ ∀ z, Run prompt x z → z.log <:+ y.log ∧
        (z.session.cells.isCancelled = false → y.session.now < z.session.now →
          z.log = y.log)) := by
  have hbackoff := (Refresh.Settings.check_eq_ok.1 hcheck).2.2.2.2
  have N : start.Begins c := hstart ▸ launched_begins p now source _ c history
  have B₀ : start.Books p := hstart ▸ launched_books p now source _ c history
  have B := hx.books N.sound B₀
  have within : ∀ slack, (∀ r ∈ x.log, r.1 % 1000000 ≤ slack) →
      x.InBudget (· ≤ ·) slack p.settings.backoff := by
    refine fun slack => hx.inBudget free_keeps N.sound B₀ hp hzero ?_
    exact hstart ▸ launched_inBudget hbackoff now source draws c history
  have I := within 999999 fun _ _ => by omega
  have orderly : ∀ {y}, Run prompt start y → y.Orderly p now c source draws := fun H =>
    H.orderly hp hbackoff hzero hstart
  refine ⟨⟨I.within.attempts_le, fun slack h => (within slack h).within.elapsed_le,
    I.within.lt (by decide)⟩, fun hsome => ?_, fun hex => ?_,
    fun n hmem => ?_, fun hx hc hrun hwall hbudget hsource hpending => ?_⟩
  · obtain ⟨e, he⟩ := Option.isSome_iff_exists.1 hsome
    rw [B.exhausted_iff, B.verdict?_of_fatal he]
    rfl
  · obtain ⟨e, he⟩ := Option.isSome_iff_exists.1 (B.exhausted_iff.1 hex)
    obtain ⟨n, first, log, hlog, hfirst, rfl⟩ := verdict?_eq_some he
    refine ⟨n, first, log, hlog, hfirst, fun e' he' => ?_, I.spent hlog hfirst,
      fun hclock => ⟨spanBetween_nanos hclock, fun hx most hmost => ?_⟩⟩
    · exact Option.some.inj ((B.verdict?_of_fatal he').symm.trans he)
    · have O := orderly hx
      exact O.paced.gaveUp_lt O.inBudget hlog hfirst hmost hclock
  · obtain ⟨later, log, hlog⟩ := List.append_of_mem hmem
    cases I.advised later n _ log hlog
  · have F : x.Failing p x.log :=
      ⟨hsource, hpending, fun _ _ => hwall, fun _ => .inl hrun, [], rfl, by simp⟩
    exact F.gives_up (fun H => orderly (hx.trans H)) hp hzero hc hbudget

/-- A manager whose source always fails, and whose backoff has two attempts. -/
def stubborn : Chronicle (List (Line Nat)) Nat (Exponential × List Binary64) :=
  let backoff : Settings :=
    { Settings.standard with randomizationFactor := .zero, maxAttempts := some 2 }
  launched ⟨scripted "sample" ⟨.after (millis 250), .fail ⟨.io, "gone"⟩⟩, Exponential.strategy,
    { Refresh.Settings.standard with backoff }, wallFrom .epoch⟩ 0 [] (.fresh backoff, [])
    ⟨7, .epoch, .epoch⟩ []

theorem stubborn_gives_up : ∃ y, Run prompt stubborn y ∧ Exhausted y.log ∧
    (streak y.log).length ≤ 3 := by
  have hcheck : stubborn.session.plan.settings.check = .ok () := by decide +kernel
  have hzero : stubborn.session.plan.settings.backoff.randomizationFactor.eq .zero = true := by
    decide +kernel
  have hstart : stubborn = launched stubborn.session.plan 0 [] _ _ _ := rfl
  have hfails : stubborn.session.plan.source.Fails stubborn.session.task.source :=
    scripted_fails fun line hline => ⟨⟨.io, "gone"⟩, by rw [List.mem_singleton.1 hline]⟩
  obtain ⟨-, -, -, -, hforever⟩ :=
    gives_up_when_budget_spent rfl hcheck hzero hstart .refl
  obtain ⟨y, hy, hex, -⟩ := hforever .refl rfl nofun (by decide +kernel) (.inl nofun) hfails nofun
  obtain ⟨⟨hattempts, -⟩, -⟩ := gives_up_when_budget_spent rfl hcheck hzero hstart
    (Run.mono (fun _ _ _ => trivial) hy)
  exact ⟨y, hy, hex, hattempts 2 rfl⟩

end Chronicle

end CredentialKeeper.Manager
