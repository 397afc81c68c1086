import CredentialKeeper.Proofs.Backoff.Interval
import CredentialKeeper.Proofs.Manager.Consultation

/-! # The budgets of an exponential backoff

The task counts its failures and knows the first of them; the backoff counts the waits that it has
handed out and knows the first question. The two stay in step over all streaks of failures
(`Task.Tallies`): the waits are the failures that have been asked about, and each of them has taken
the clock to another whole millisecond, however short the interval is (`Tallied.next`). So neither
the attempts nor the time that the settings allow can be overrun by more than one failure, and a
backoff that gives up has spent one of them (`Chronicle.InBudget`). How many failures there is time
for depends on how far after a whole millisecond they come: the bounds have this `slack`, which is
less than a millisecond anyway. -/

namespace CredentialKeeper.Manager

open Backoff

/-! ## The backoff -/

/-- The counters of a backoff that has no question to answer before the instant `u`. The first
question came some lag after the first failure, and each wait that it has handed out took the clock
to another whole millisecond. -/
structure Tallied (lag : Nat → Nat → Prop) (slack : Nat) (s : Settings) (first : Option Nat)
    (u : Nat) (b : Exponential) : Prop where
  kept : b.Kept
  settings : b.settings = s
  started : b.startedAt = none ∧ b.attempts = 0 ∨
    ∃ f a, first = some f ∧ lag f a ∧ b.startedAt = some a ∧ a ≤ u ∧ a % 1000000 ≤ slack ∧
      a / 1000000 + b.attempts ≤ u / 1000000
  attempts_le : ∀ most, s.maxAttempts = some most → b.attempts ≤ most
  elapsed_le : ∀ most, s.maxElapsedTime = some most →
    b.attempts ≤ (most.nanos + slack) / 1000000 + 1

namespace Tallied

variable {lag : Nat → Nat → Prop} {slack : Nat} {s : Settings} {first : Option Nat}
  {u u' f now : Nat} {b : Exponential}

theorem fresh (h : s.check = .ok ()) : Tallied lag slack s first u (.fresh s) :=
  ⟨Exponential.fresh_kept h, rfl, .inl ⟨rfl, rfl⟩, fun _ _ => Nat.zero_le _,
    fun _ _ => Nat.zero_le _⟩

theorem reset (T : Tallied lag slack s first u b) {first' : Option Nat} :
    Tallied lag slack s first' u' b.reset := by
  obtain rfl := T.settings
  exact fresh T.kept.checked

theorem mono (T : Tallied lag slack s first u b) (h : u ≤ u') : Tallied lag slack s first u' b := by
  refine ⟨T.kept, T.settings, ?_, T.attempts_le, T.elapsed_le⟩
  refine T.started.imp_right fun ⟨f, a, hf, hl, hs, hau, hslack, hle⟩ => ?_
  exact ⟨f, a, hf, hl, hs, hau.trans h, hslack, hle.trans (Nat.div_le_div_right h)⟩

theorem failed (T : Tallied lag slack s first u b) (now : Nat) :
    Tallied lag slack s (some (first.getD now)) u b := by
  refine ⟨T.kept, T.settings, ?_, T.attempts_le, T.elapsed_le⟩
  refine T.started.imp_right fun ⟨f, a, hf, hl, hs, hle⟩ => ⟨f, a, ?_, hl, hs, hle⟩
  rw [hf, Option.getD_some]

/-- An answer of a backoff with nothing random about its waits. It gives up only if a budget is
spent, and else waits for its interval. -/
theorem next (T : Tallied lag slack s (some f) now b)
    (hzero : s.randomizationFactor.eq .zero = true)
    (hlag : b.startedAt = none → lag f now) (hslack : now % 1000000 ≤ slack) (draw : Binary64) :
    ∃ a, lag f a ∧ a ≤ now ∧
      (b.next now draw = (.exhausted, b.asked now) ∧
          (s.maxAttempts = some b.attempts ∨
            ∃ most, s.maxElapsedTime = some most ∧ most.nanos < now - a) ∨
        ∃ b', b.next now draw = (.retryAfter b.current, b') ∧
          b'.attempts = b.attempts + 1 ∧
          (∀ most, s.maxElapsedTime = some most → now - a ≤ most.nanos) ∧
          Tallied lag slack s (some f) (tickAfter now b.current) b') := by
  obtain ⟨a, hl, hasked, han, haslack, hle⟩ : ∃ a, lag f a ∧
      (b.asked now).startedAt = some a ∧ a ≤ now ∧ a % 1000000 ≤ slack ∧
      a / 1000000 + b.attempts ≤ now / 1000000 := by
    rcases T.started with ⟨hnone, h0⟩ | ⟨f', a, hf, hl, hs, hle⟩
    · refine ⟨now, hlag hnone, ?_, Nat.le_refl _, hslack, by omega⟩
      rw [Exponential.asked, hnone, Option.getD_none]
    · cases hf
      exact ⟨a, hl, by rw [Exponential.asked, hs, Option.getD_some], hle⟩
  have hsettings : (b.asked now).settings = s := T.settings
  have hattempts : (b.asked now).attempts = b.attempts := rfl
  refine ⟨a, hl, han, ?_⟩
  rcases T.kept.next (T.settings ▸ hzero) now draw with ⟨hex, hnext⟩ | ⟨hex, i, hnext, K⟩
  · refine .inl ⟨hnext, ?_⟩
    rw [Exponential.isExhausted_iff, hsettings, hasked, hattempts] at hex
    rcases hex with ⟨most, hmost, hge⟩ | ⟨most, start, hmost, hstart, hlt⟩
    · obtain rfl := Nat.le_antisymm hge (T.attempts_le most hmost)
      exact .inl hmost
    · cases hstart
      exact .inr ⟨most, hmost, hlt⟩
  · rw [← Bool.not_eq_true, Exponential.isExhausted_iff, hsettings, hasked, hattempts] at hex
    have helapsed : ∀ most, s.maxElapsedTime = some most → now - a ≤ most.nanos := by
      intro most hmost
      exact Nat.le_of_not_lt fun hlt => hex (.inr ⟨most, _, hmost, rfl, hlt⟩)
    have hlt : now < tickAfter now b.current := Chronicle.lt_tickAfter T.kept.pos
    have hdvd := (tickAfter_endsWait now b.current).dvd
    refine .inr ⟨_, hnext, rfl, helapsed, K, hsettings,
      .inr ⟨f, a, rfl, hl, hasked, han.trans hlt.le, haslack, ?_⟩, ?_, ?_⟩
    · show a / 1000000 + (b.attempts + 1) ≤ _
      omega
    · intro most hmost
      exact Nat.lt_of_not_le fun hge => hex (.inl ⟨most, hmost, hge⟩)
    · intro most hmost
      have := helapsed most hmost
      show b.attempts + 1 ≤ _
      omega

end Tallied

/-! ## The task -/

variable {σ α : Type} {lag : Nat → Nat → Prop} {slack : Nat} {s : Settings}

/-- The instant before which the task has no failure to ask about. -/
def Task.askableAt {β : Type} (now : Nat) (t : Task σ α β) : Nat :=
  match t.phase with
  | .waiting wake => wake
  | _ => now

/-- So many failures in a row are no more than the budgets allow. -/
structure Within (slack : Nat) (s : Settings) (failures : Nat) : Prop where
  attempts_le : ∀ most, s.maxAttempts = some most → failures ≤ most + 1
  elapsed_le : ∀ most, s.maxElapsedTime = some most →
    failures ≤ (most.nanos + slack) / 1000000 + 2

/-- A count of the failures in 32 bits does not go round. -/
theorem Within.lt {failures : Nat} (W : Within slack s failures) (hslack : slack < 1000000)
    (h : (∃ most < 2 ^ 32 - 1, s.maxAttempts = some most) ∨
      ∃ most, s.maxElapsedTime = some most ∧ most.nanos ≤ 49 * 86400 * nanosPerSecond) :
    failures < 2 ^ 32 := by
  rcases h with ⟨most, hlt, hmost⟩ | ⟨most, hmost, hle⟩
  · have := W.attempts_le most hmost
    omega
  · have := W.elapsed_le most hmost
    unfold nanosPerSecond at hle
    omega

/-- The counters of a task and of its backoff are in step: the backoff has been asked about each
failure, but for the last as long as the task is planning. -/
structure Task.Tallies (lag : Nat → Nat → Prop) (slack : Nat) (s : Settings) (now : Nat)
    (t : Task σ α (Exponential × List Binary64)) : Prop where
  backoff : Tallied lag slack s t.failingSince (t.askableAt now) t.backoff.1
  unused : t.phase = .spawned → t.failures = 0
  settled : t.phase ≠ .planning ∨ t.failures = 0 → t.failures = t.backoff.1.attempts
  pending : t.phase = .planning → t.failures ≠ 0 → t.failures = t.backoff.1.attempts + 1 ∧
    (t.backoff.1.startedAt = none → ∀ first, t.failingSince = some first → lag first now)

/-- An advice at the instant `n` that the settings bear out after a log. -/
inductive Advised (lag : Nat → Nat → Prop) (s : Settings) (n : Nat) (log : List (Nat × Event α)) :
    Advice → Prop
  | wait {first asked : Nat} {wait : Span} (hfirst : (streak log).getLast? = some first)
      (hl : lag first asked) (hle : asked ≤ n) (hmax : wait ≤ s.maxInterval)
      (h : ∀ most, s.maxElapsedTime = some most → n - asked ≤ most.nanos) :
      Advised lag s n log (.retryAfter wait)
  | attempts {most : Nat} (h : s.maxAttempts = some most) (hlen : (streak log).length = most + 1) :
      Advised lag s n log .exhausted
  | elapsed {first asked : Nat} {most : Span} (hfirst : (streak log).getLast? = some first)
      (hl : lag first asked) (h : s.maxElapsedTime = some most)
      (hlt : most.nanos < n - asked) : Advised lag s n log .exhausted

namespace Task

variable {p : Plan σ α (Exponential × List Binary64)} {now : Nat} {cells : Cells α}
  {t t' : Task σ α (Exponential × List Binary64)} {ev : Option (Event α)}
  {effects : List (Effect α)} {log : List (Nat × Event α)}

theorem Tallies.within (T : t.Tallies lag slack s now) : Within slack s t.failures := by
  have hle : t.failures ≤ t.backoff.1.attempts + 1 := by
    by_cases h : t.phase ≠ .planning ∨ t.failures = 0
    · exact (T.settled h).le.trans (Nat.le_succ _)
    · rw [not_or, not_not] at h
      exact (T.pending h.1 h.2).1.le
  exact ⟨fun most h => hle.trans (Nat.succ_le_succ (T.backoff.attempts_le most h)),
    fun most h => hle.trans (Nat.succ_le_succ (T.backoff.elapsed_le most h))⟩

theorem Tallies.mono (T : t.Tallies lag slack s now) {later : Nat} (hle : now ≤ later)
    (hlag : t.phase = .planning → ∀ first, lag first now → lag first later) :
    t.Tallies lag slack s later := by
  refine ⟨T.backoff.mono ?_, T.unused, T.settled, fun hp hf => ?_⟩
  · unfold askableAt
    cases t.phase with
    | waiting wake => exact Nat.le_refl wake
    | _ => exact hle
  · obtain ⟨hlen, hfirst⟩ := T.pending hp hf
    exact ⟨hlen, fun hnone first h => hlag hp first (hfirst hnone first h)⟩

/-- The task has asked its backoff about a failure. -/
theorem Tallies.asked (T : t.Tallies lag slack s now) (hp : p.backoff = Exponential.strategy)
    (hzero : s.randomizationFactor.eq .zero = true) (hlen : t.failures = (streak log).length)
    (hsince : t.failingSince = (streak log).getLast?) (h : t.phase = .planning)
    (hf : t.failures ≠ 0) (hslack : now % 1000000 ≤ slack) {advice : Advice}
    {b : Exponential × List Binary64}
    (hb : p.backoff.next t.backoff now = (advice, b)) :
    Advised lag s now log advice ∧ ∀ wait, advice = .retryAfter wait →
      b.1.attempts = t.failures ∧ Tallied lag slack s t.failingSince (tickAfter now wait) b.1 := by
  obtain ⟨hcount, hlag⟩ := T.pending h hf
  obtain ⟨first, hfirst⟩ : ∃ first, t.failingSince = some first := by
    rw [← Option.isSome_iff_exists, hsince, List.getLast?_isSome]
    exact List.ne_nil_of_length_pos (Nat.pos_of_ne_zero (hlen ▸ hf))
  have hnow : t.askableAt now = now := by rw [askableAt, h]
  have hback := T.backoff
  rw [hnow, hfirst] at hback
  have hstrategy : (t.backoff.1.next now (t.backoff.2.headD .zero)).1 = advice ∧
      (t.backoff.1.next now (t.backoff.2.headD .zero)).2 = b.1 := by
    rw [hp] at hb
    cases hb
    exact ⟨rfl, rfl⟩
  obtain ⟨hadvice, hb⟩ := hstrategy
  rw [hfirst] at hsince ⊢
  obtain ⟨a, hl, hle, ⟨hnext, hspent⟩ | ⟨b', hnext, hattempts, helapsed, hback'⟩⟩ :=
    hback.next hzero (fun hnone => hlag hnone first hfirst) hslack (t.backoff.2.headD .zero)
  · rw [hnext] at hadvice
    cases hadvice
    refine ⟨?_, fun wait hwait => by cases hwait⟩
    rcases hspent with hmost | ⟨most, hmost, hlt⟩
    · exact .attempts hmost (hlen ▸ hcount)
    · exact .elapsed hsince.symm hl hmost hlt
  · rw [hnext] at hadvice hb
    obtain rfl : b' = b.1 := hb
    cases hadvice
    refine ⟨.wait hsince.symm hl hle ?_ helapsed, ?_⟩
    · exact hback.settings ▸ hback.kept.le_max
    · intro wait hwait
      obtain rfl := Advice.retryAfter.inj hwait
      exact ⟨hattempts.trans hcount.symm, hback'⟩

/-- A backoff that has not been asked yet is asked after the first failure. -/
theorem Tallies.first_failure (T : t.Tallies lag slack s now) (hrefl : ∀ n, lag n n)
    (hnone : t.failures = 0 → t.failingSince = none) (h : t.phase ≠ .planning)
    (hstart : t.backoff.1.startedAt = none) (first : Nat)
    (hfirst : some (t.failingSince.getD now) = some first) : lag first now := by
  rcases T.backoff.started with ⟨-, h0⟩ | ⟨_, _, _, _, hs, _⟩
  · rw [hnone ((T.settled (.inl h)).trans h0)] at hfirst
    cases hfirst
    exact hrefl now
  · rw [hstart] at hs
    cases hs

/-- A move keeps the counters in step, and takes advice only that the settings bear out. -/
theorem Tallies.moves (T : t.Tallies lag slack s now) (hp : p.backoff = Exponential.strategy)
    (hzero : s.randomizationFactor.eq .zero = true) (hrefl : ∀ n, lag n n)
    (hlen : t.failures = (streak log).length) (hsince : t.failingSince = (streak log).getLast?)
    (M : t.Moves p now cells ev t' effects) (hslack : ev ≠ none → now % 1000000 ≤ slack) :
    (∀ advice, ev = some (.advised advice) → Advised lag s now log advice) ∧
      ((∀ exit, t'.phase ≠ .ended exit) → t'.Tallies lag slack s now) := by
  have hnone : t.failures = 0 → t.failingSince = none := by
    intro h0
    rw [hsince, List.getLast?_eq_none_iff, ← List.length_eq_zero_iff, ← hlen, h0]
  have hback := T.backoff
  unfold askableAt at hback
  cases M with
  | begin h =>
    have hzero := T.unused h
    rw [h] at hback
    exact ⟨by simp, fun _ => ⟨hback, by simp, fun _ => T.settled (.inr hzero),
      fun _ hne => absurd hzero hne⟩⟩
  | schedule h hf hw hd =>
    rw [h] at hback
    exact ⟨by simp, fun _ => ⟨hback.mono (tickAfter_endsWait ..).le, by simp,
      fun _ => T.settled (.inr hf), by simp⟩⟩
  | timeless => exact ⟨by simp, fun hrun => absurd rfl (hrun _)⟩
  | retry h hf hb =>
    obtain ⟨hadvised, hback⟩ := T.asked hp hzero hlen hsince h hf (hslack nofun) hb
    obtain ⟨hcount, hback⟩ := hback _ rfl
    exact ⟨by rintro _ ⟨⟩; exact hadvised,
      fun _ => ⟨hback, by simp, fun _ => hcount.symm, by simp⟩⟩
  | giveUp h hf hb =>
    have hadvised := (T.asked hp hzero hlen hsince h hf (hslack nofun) hb).1
    exact ⟨by rintro _ ⟨⟩; exact hadvised, fun hrun => absurd rfl (hrun _)⟩
  | overflow h hf hb =>
    have hadvised := (T.asked hp hzero hlen hsince h hf (hslack nofun) hb).1
    cases hadvised
  | cancel | crash => exact ⟨by simp, fun hrun => absurd rfl (hrun _)⟩
  | wakeUp h hc hw =>
    rw [h] at hback
    exact ⟨by simp, fun _ => ⟨hback.mono hw, by simp, fun _ => T.settled (.inl (by simp [h])),
      by simp⟩⟩
  | call h hc hr =>
    rw [h] at hback
    exact ⟨by simp, fun _ => ⟨hback, by simp, fun _ => T.settled (.inl (by simp [h])), by simp⟩⟩
  | succeed h hc hs hr =>
    rw [hp]
    exact ⟨by simp, fun _ => ⟨hback.reset, by simp, fun _ => rfl, by simp⟩⟩
  | fail h hc hs hr =>
    rw [h] at hback
    have hcount := T.settled (.inl (by simp [h]))
    exact ⟨by simp, fun _ => ⟨hback.failed now, by simp, by simp,
      fun _ _ => ⟨congrArg (· + 1) hcount, T.first_failure hrefl hnone (by simp [h])⟩⟩⟩
  | timeOut h hc hs =>
    rw [h] at hback
    have hcount := T.settled (.inl (by simp [h]))
    exact ⟨by simp, fun _ => ⟨hback.failed now, by simp, by simp,
      fun _ _ => ⟨congrArg (· + 1) hcount, T.first_failure hrefl hnone (by simp [h])⟩⟩⟩

theorem Moves.failures_of_ended (M : t.Moves p now cells ev t' effects) {exit : Exit}
    (h : t'.phase = .ended exit) : t'.failures = t.failures := by
  cases M <;> first | rfl | cases h

end Task

/-! ## The manager -/

namespace Chronicle
open Interleaving

variable {admits : Discipline σ α (Exponential × List Binary64)}
  {p : Plan σ α (Exponential × List Binary64)} {x y : Chronicle σ α (Exponential × List Binary64)}

/-- No streak of failures is longer than the budgets allow, and the settings bear out all advice. -/
structure InBudget (lag : Nat → Nat → Prop) (slack : Nat) (s : Settings)
    (x : Chronicle σ α (Exponential × List Binary64)) : Prop where
  within : Within slack s (streak x.log).length
  tallies : (∀ exit, x.session.task.phase ≠ .ended exit) →
    x.session.task.Tallies lag slack s x.session.now
  advised : ∀ later n advice log, x.log = later ++ (n, .advised advice) :: log →
    Advised lag s n log advice

theorem launched_inBudget (h : p.settings.backoff.check = .ok ()) (now : Nat) (source : σ)
    (draws : List Binary64) (c : Credential α) (history : List (Nat × Effect α)) :
    (launched p now source (.fresh p.settings.backoff, draws) c history).InBudget lag slack
      p.settings.backoff where
  within := ⟨fun _ _ => Nat.zero_le _, fun _ _ => Nat.zero_le _⟩
  tallies _ := ⟨.fresh h, fun _ => rfl, fun _ => rfl, nofun⟩
  advised later _ _ _ hlog := by
    cases later with
    | nil => cases hlog
    | cons => simp [launched] at hlog

namespace InBudget

theorem decide {ev : Option (Event α)} {t : Task σ α (Exponential × List Binary64)}
    {effects : List (Effect α)} (I : x.InBudget lag slack s) (B : x.Books p)
    (hp : p.backoff = Exponential.strategy) (hzero : s.randomizationFactor.eq .zero = true)
    (hrefl : ∀ n, lag n n)
    (M : x.session.task.Moves x.session.plan x.session.now x.session.cells ev t effects)
    (hslack : ∀ r ∈ (x.decided ev t effects).log, r.1 % 1000000 ≤ slack) :
    (x.decided ev t effects).InBudget lag slack s := by
  obtain rfl := B.plan
  have hnow : ev ≠ none → x.session.now % 1000000 ≤ slack := by
    intro hev
    obtain ⟨e, rfl⟩ := Option.ne_none_iff_exists'.1 hev
    exact hslack _ (.head _)
  obtain ⟨hadvised, hrunning⟩ := (I.tallies M.not_ended).moves hp hzero hrefl B.failures
    B.failingSince M hnow
  refine ⟨?_, hrunning, fun later n advice log hlog => ?_⟩
  · show Within slack s (streak (ev.toList.map (x.session.now, ·) ++ x.log)).length
    rw [← M.failures_eq B.failures]
    by_cases hend : ∃ exit, t.phase = .ended exit
    · obtain ⟨exit, hexit⟩ := hend
      rw [M.failures_of_ended hexit, B.failures]
      exact I.within
    · exact (hrunning (not_exists.1 hend)).within
  · change ev.toList.map (x.session.now, ·) ++ x.log = _ at hlog
    cases ev with
    | none => exact I.advised later n advice log hlog
    | some e =>
      cases later with
      | nil =>
        cases hlog
        exact hadvised advice rfl
      | cons r later => exact I.advised later n advice log (List.cons.inj hlog).2

end InBudget

theorem Run.inBudget (K : Keeps admits lag) (H : Run admits x y) (hx : x.manager.Sound)
    (B : x.Books p) (hp : p.backoff = Exponential.strategy)
    (hzero : s.randomizationFactor.eq .zero = true) (I : x.InBudget lag slack s)
    (hslack : ∀ r ∈ y.log, r.1 % 1000000 ≤ slack) : y.InBudget lag slack s := by
  induction H with
  | refl => exact I
  | @tail y z H N ih =>
    have H : Run admits x y := H
    have A := N.advance (H.sound hx)
    obtain ⟨new, hlog⟩ := A.grows.log
    have I := ih fun r hr => hslack r (hlog ▸ List.mem_append_right new hr)
    cases A with
    | decide _ M => exact I.decide (H.books hx B) hp hzero K.refl M hslack
    | perform => exact ⟨I.within, I.tallies, I.advised⟩
    | discard _ _ D =>
      refine ⟨I.within, fun hrun => ?_, I.advised⟩
      cases D with
      | late => exact I.tallies hrun
      | early | midway => exact absurd rfl (hrun _)
    | others O => exact ⟨I.within, O.task ▸ O.now ▸ I.tallies, I.advised⟩
    | tick had =>
      refine ⟨I.within, fun hrun => ?_, I.advised⟩
      exact (I.tallies hrun).mono (Nat.le_add_right ..) fun hplan first => K.tick had hplan

/-! ## Giving up -/

/-- A budget is spent on so many attempts in so many nanoseconds. -/
def Spent (s : Settings) (attempts elapsed : Nat) : Prop :=
  (∃ most, s.maxAttempts = some most ∧ attempts = most + 1) ∨
    ∃ most, s.maxElapsedTime = some most ∧ most.nanos < elapsed

theorem spanBetween_nanos {start now wait : Nat} (h : clockReaches now wait) :
    (spanBetween start now).nanos = now - start := by
  have hlt : now - start < 18446744073709551616 * nanosPerSecond := by
    unfold clockReaches nanosPerSecond at h
    unfold nanosPerSecond
    omega
  rw [spanBetween, Span.ofNanos?, dif_pos hlt, Option.getD_some]

/-- A manager gives up only if a budget is spent, by its own counts. -/
theorem InBudget.spent (I : x.InBudget (· ≤ ·) slack s) {n first : Nat} {log : List (Nat × Event α)}
    (hlog : x.log = (n, .advised .exhausted) :: log)
    (hfirst : (streak log).getLast? = some first) :
    Spent s (streak log).length (n - first) := by
  cases I.advised [] n _ log hlog with
  | attempts hmost hlen => exact .inl ⟨_, hmost, hlen⟩
  | @elapsed first' asked most hfirst' hle hmost hlt =>
    cases hfirst.symm.trans hfirst'
    exact .inr ⟨most, hmost, hlt.trans_le (Nat.sub_le_sub_left hle n)⟩

/-- Under a prompt runtime the last failure of a streak comes no later than a wait, a call and their
ends on the clock after the last time at which the backoff went on. -/
theorem Paced.gaveUp_lt {now n first : Nat} {source : σ} {draws : List Binary64} {c : Credential α}
    {log : List (Nat × Event α)} {most : Span}
    (P : x.Paced p now c source (.fresh s, draws)) (I : x.InBudget (· = ·) slack s)
    (hlog : x.log = (n, .advised .exhausted) :: log) (hfirst : (streak log).getLast? = some first)
    (hmost : s.maxElapsedTime = some most) (hclock : clockReaches n thirtyYears) :
    n - first < most.nanos + s.maxInterval.nanos + p.settings.renewTimeout.nanos +
      2000000 := by
  obtain ⟨_, _, T⟩ : ∃ source' backoff', Timeline p now c source (.fresh s, draws) source' backoff'
      x.log := ⟨_, _, P.timeline⟩
  have hadvised := I.advised
  rw [hlog] at T hadvised
  cases T with
  | ending _ he => exact absurd rfl he.ne_advised
  | asked T =>
    cases T with
    | ending T he =>
      obtain ⟨deadline, hd, hle⟩ := he.le_deadline
      have htn := he.le
      have hcall := hd.lt_add_of_thirtyYears (clockReaches_mono hclock htn)
      cases T with
      | ending _ he => exact absurd rfl he.ne_called
      | call T hu =>
        cases hu with
        | onSchedule =>
          have hn : some n = some first := hfirst
          cases hn
          omega
        | @onAdvice q _ wait log hu =>
          have hqt := hu.le
          have hpause := hu.lt_add_of_thirtyYears (clockReaches_mono hclock (hqt.trans htn))
          cases hadvised [_, _, _] q _ log rfl with
          | @wait first' _ _ hfirst' hl _ hmax h =>
            cases hl
            have hsame : first = first' := by
              simpa [streak, List.getLast?_cons, hfirst'] using hfirst.symm
            have hq := h most hmost
            rw [Span.le_def] at hmax
            omega

end Chronicle

end CredentialKeeper.Manager
