import CredentialKeeper.Proofs.Backoff.Growth

/-! # A backoff and its clones

A backoff is what its past has made of it: the waits that it has handed out since the last reset and
the time of the first question after it decide its state (`Exponential.ofPast`), whatever has been
drawn. A clone has the past of its original. So for all members of a family, the clones of one
backoff and their clones, at any time of a clock that never goes back, the past tells whether the
next question is refused (`Member.Sound.exhausted_iff`), and a refusal is followed by refusals up to
the next reset (`Member.Sound.spent`).

Two backoffs with one past also go on alike (`Concur`): the draws decide about the length of the
waits and not about the refusals. -/

namespace CredentialKeeper.Backoff

/-- Something that was done to a backoff. -/
inductive Deed where
  | asked (clock : Nat) (advice : Advice)
  | reset
deriving DecidableEq

namespace Deed

/-! ## What a past says, the last deed first -/

/-- The waits handed out since the last reset. -/
def handedOut : List Deed → Nat
  | .asked _ (.retryAfter _) :: past => handedOut past + 1
  | .asked _ _ :: past => handedOut past
  | .reset :: _ | [] => 0

/-- The time of the first question since the last reset. -/
def firstAsked : List Deed → Option Nat
  | .asked clock _ :: past => some ((firstAsked past).getD clock)
  | .reset :: _ | [] => none

/-- A question has been refused since the last reset. -/
def gaveUp : List Deed → Bool
  | .asked _ advice :: past => advice = .exhausted || gaveUp past
  | .reset :: _ | [] => false

end Deed

open Exponential

/-- The interval after so many waits. -/
def Settings.intervalAfter (s : Settings) : Nat → Span
  | 0 => s.initialInterval
  | n + 1 => { fresh s with current := s.intervalAfter n }.grown?.getD s.maxInterval

/-- The backoff that a past makes. -/
def Exponential.ofPast (s : Settings) (past : List Deed) : Exponential where
  settings := s
  current := s.intervalAfter (Deed.handedOut past)
  attempts := Deed.handedOut past
  startedAt := Deed.firstAsked past

/-- A backoff with its past, which for a clone begins with that of its original. -/
structure Member where
  backoff : Exponential
  past : List Deed

namespace Member

def ask (m : Member) (clock : Nat) (draw : Binary64) : Member :=
  ⟨(m.backoff.next clock draw).2, .asked clock (m.backoff.next clock draw).1 :: m.past⟩

def reset (m : Member) : Member := ⟨m.backoff.reset, .reset :: m.past⟩

end Member

/-- A new backoff and the clones that there are at some time, each with what was done to it. -/
inductive Family (b : Exponential) : Nat → List Member → Prop
  | alone {now : Nat} : Family b now [⟨b, []⟩]
  | ask {now clock : Nat} {before after : List Member} {m : Member}
      (F : Family b now (before ++ m :: after)) (h : now ≤ clock) (draw : Binary64) :
      Family b clock (before ++ m.ask clock draw :: after)
  | reset {now : Nat} {before after : List Member} {m : Member}
      (F : Family b now (before ++ m :: after)) : Family b now (before ++ m.reset :: after)
  | clone {now : Nat} {members : List Member} {m : Member} (F : Family b now members)
      (hm : m ∈ members) : Family b now (members ++ [m])

namespace Exponential

variable {b : Exponential} {s : Settings} {past : List Deed} {clock later : Nat}

theorem isExhausted_mono (h : b.isExhausted clock = true) (hle : clock ≤ later) :
    b.isExhausted later = true := by
  rw [isExhausted_iff] at h ⊢
  refine h.imp_right fun ⟨most, start, hmost, hstart, hlt⟩ => ⟨most, start, hmost, hstart, ?_⟩
  omega

theorem asked_asked : (b.asked clock).asked later = b.asked clock := rfl

/-- A question is refused if as many waits have been handed out as there may be, or if more time has
passed since the first one than may pass. -/
theorem ofPast_isExhausted_iff : ((ofPast s past).asked clock).isExhausted clock = true ↔
    (∃ most, s.maxAttempts = some most ∧ most ≤ Deed.handedOut past) ∨
      ∃ most, s.maxElapsedTime = some most ∧
        (Deed.firstAsked past).getD clock + most.nanos < clock := by
  rw [isExhausted_iff]
  refine or_congr Iff.rfl (exists_congr fun most => ?_)
  constructor
  · rintro ⟨start, hmost, hstart, hlt⟩
    cases hstart
    exact ⟨hmost, by change _ < clock - (Deed.firstAsked past).getD clock at hlt; omega⟩
  · rintro ⟨hmost, hlt⟩
    exact ⟨_, hmost, rfl, by change _ < clock - (Deed.firstAsked past).getD clock; omega⟩

theorem ofPast_next {draw : Binary64} (K : (ofPast s past).Kept) :
    ((ofPast s past).next clock draw).2 =
      ofPast s (.asked clock ((ofPast s past).next clock draw).1 :: past) := by
  rcases K.next_cases clock draw with ⟨-, hn⟩ | ⟨-, wait, interval, -, hgrown, -, -, hn⟩ |
    ⟨-, -, hn⟩ <;> rw [hn]
  · rfl
  · have hinterval : s.intervalAfter (Deed.handedOut past + 1) = interval := by
      have hsame : { fresh s with current := s.intervalAfter (Deed.handedOut past) }.grown? =
          some interval := hgrown
      rw [Settings.intervalAfter, hsame, Option.getD_some]
    rw [← hinterval]
    rfl
  · rfl

end Exponential

namespace Member

variable {s : Settings} {now clock : Nat} {m : Member}

/-- What holds of a member of a family at any time. -/
structure Sound (s : Settings) (now : Nat) (m : Member) : Prop where
  kept : m.backoff.Kept
  eq_ofPast : m.backoff = ofPast s m.past
  asked_le : ∀ start, Deed.firstAsked m.past = some start → start ≤ now
  handedOut_le : ∀ most, s.maxAttempts = some most → Deed.handedOut m.past ≤ most
  spent : Deed.gaveUp m.past = true → ∀ clock, now ≤ clock →
    (m.backoff.asked clock).isExhausted clock = true

namespace Sound

theorem exhausted_iff (S : m.Sound s now) {draw : Binary64} :
    (m.backoff.next clock draw).1 = .exhausted ↔
      (∃ most, s.maxAttempts = some most ∧ most ≤ Deed.handedOut m.past) ∨
        ∃ most, s.maxElapsedTime = some most ∧
          (Deed.firstAsked m.past).getD clock + most.nanos < clock := by
  rw [next_exhausted_iff, S.eq_ofPast]
  exact ofPast_isExhausted_iff

theorem mono (S : m.Sound s now) (h : now ≤ clock) : m.Sound s clock where
  kept := S.kept
  eq_ofPast := S.eq_ofPast
  asked_le start hstart := Nat.le_trans (S.asked_le start hstart) h
  handedOut_le := S.handedOut_le
  spent hgave later hle := S.spent hgave later (Nat.le_trans h hle)

theorem alone (h : s.check = .ok ()) : Member.Sound s now ⟨fresh s, []⟩ :=
  ⟨fresh_kept h, rfl, nofun, fun _ _ => Nat.zero_le _, nofun⟩

theorem handedOut_ask_le (S : m.Sound s now) (draw : Binary64) {most : Nat}
    (hmost : s.maxAttempts = some most) : Deed.handedOut (m.ask clock draw).past ≤ most := by
  have hle := S.handedOut_le most hmost
  show Deed.handedOut (.asked clock (m.backoff.next clock draw).1 :: m.past) ≤ most
  cases hadvice : (m.backoff.next clock draw).1 with
  | exhausted => exact hle
  | overflow => exact hle
  | retryAfter wait =>
    refine Nat.lt_of_not_le fun hge => ?_
    have hex : (m.backoff.next clock draw).1 = .exhausted :=
      S.exhausted_iff.2 (.inl ⟨most, hmost, hge⟩)
    cases hadvice.symm.trans hex

/-- A member that has been refused an answer is exhausted, and later still is. -/
theorem spent_ask (S : m.Sound s now) (h : now ≤ clock) (draw : Binary64)
    (hgave : Deed.gaveUp (m.ask clock draw).past = true) {later : Nat} (hle : clock ≤ later) :
    ((m.ask clock draw).backoff.asked later).isExhausted later = true := by
  have hex : (m.backoff.asked clock).isExhausted clock = true := by
    rcases Bool.or_eq_true_iff.1 hgave with hnow | hbefore
    · exact next_exhausted_iff.1 (of_decide_eq_true hnow)
    · exact S.spent hbefore clock h
  rw [ask, next_of_exhausted hex, asked_asked]
  exact isExhausted_mono hex hle

theorem eq_ofPast_ask (S : m.Sound s now) (clock : Nat) (draw : Binary64) :
    (m.ask clock draw).backoff = ofPast s (m.ask clock draw).past := by
  have hkept := S.kept
  show (m.backoff.next clock draw).2 = ofPast s (.asked clock (m.backoff.next clock draw).1 :: _)
  rw [S.eq_ofPast] at hkept ⊢
  exact ofPast_next hkept

theorem attempts_eq (S : m.Sound s now) : m.backoff.attempts = Deed.handedOut m.past :=
  congrArg attempts S.eq_ofPast

/-- No question counts past the greatest number of waits. -/
theorem attempts_ask_le (S : m.Sound s now) (clock : Nat) (draw : Binary64) {most : Nat}
    (hmost : s.maxAttempts = some most) : (m.ask clock draw).backoff.attempts ≤ most := by
  rw [S.eq_ofPast_ask]
  exact S.handedOut_ask_le draw hmost

theorem reset_eq (S : m.Sound s now) : m.backoff.reset = fresh s :=
  congrArg Exponential.reset S.eq_ofPast

theorem reset (S : m.Sound s now) : m.reset.Sound s now where
  kept := S.kept.reset
  eq_ofPast := S.reset_eq
  asked_le := nofun
  handedOut_le _ _ := Nat.zero_le _
  spent := nofun

theorem ask (S : m.Sound s now) (h : now ≤ clock) (draw : Binary64) :
    (m.ask clock draw).Sound s clock where
  kept := S.kept.next_kept clock draw
  eq_ofPast := S.eq_ofPast_ask clock draw
  asked_le start hstart := by
    cases hstart
    cases hfirst : Deed.firstAsked m.past with
    | none => exact Nat.le_refl _
    | some first => exact Nat.le_trans (S.asked_le first hfirst) h
  handedOut_le _ hmost := S.handedOut_ask_le draw hmost
  spent hgave _ hle := S.spent_ask h draw hgave hle

end Sound

end Member

theorem Family.sound {s : Settings} {now : Nat} {members : List Member} (hcheck : s.check = .ok ())
    (F : Family (fresh s) now members) : ∀ m ∈ members, m.Sound s now := by
  induction F with
  | alone => exact List.forall_mem_singleton.2 (.alone hcheck)
  | ask F h draw ih =>
    simp only [List.forall_mem_append, List.forall_mem_cons] at ih ⊢
    obtain ⟨hbefore, hm, hafter⟩ := ih
    exact ⟨fun m hmem => (hbefore m hmem).mono h, hm.ask h draw,
      fun m hmem => (hafter m hmem).mono h⟩
  | reset F ih =>
    simp only [List.forall_mem_append, List.forall_mem_cons] at ih ⊢
    exact ⟨ih.1, ih.2.1.reset, ih.2.2⟩
  | clone F hm ih =>
    exact List.forall_mem_append.2 ⟨ih, List.forall_mem_singleton.2 (ih _ hm)⟩

/-! ## Going on alike -/

/-- The answers to the questions among some calls, the last first. -/
def Strategy.replies {β : Type} (s : Strategy β) (b : β) : List Call → List Advice
  | [] => []
  | .next clock :: calls => (s.next (s.memory b calls) clock).1 :: s.replies b calls
  | .reset :: calls => s.replies b calls

/-- Two backoffs answer alike from now on, to whatever calls and with whatever draws. As long as no
question to either has failed, both refuse the same ones; and with nothing random about the waits no
question fails, and the waits are the same. -/
structure Concur (b b' : Exponential) : Prop where
  refusals : ∀ {draws draws' : List Binary64} {calls : List Call} (clock : Nat),
    .overflow ∉ strategy.replies (b, draws) calls →
    .overflow ∉ strategy.replies (b', draws') calls →
    ((strategy.next (strategy.memory (b, draws) calls) clock).1 = .exhausted ↔
      (strategy.next (strategy.memory (b', draws') calls) clock).1 = .exhausted)
  waits : b.settings.randomizationFactor.eq .zero = true →
    ∀ (draws draws' : List Binary64) (calls : List Call),
      .overflow ∉ strategy.replies (b, draws) calls ∧
      strategy.replies (b, draws) calls = strategy.replies (b', draws') calls

namespace Exponential

variable {b : Exponential} {draws draws' : List Binary64} {calls : List Call}

theorem eq_of_steady {b' : Exponential} (h : b.steady = b'.steady)
    (hsettings : b.settings = b'.settings) : b = b' := by
  obtain ⟨settings, current, attempts, startedAt⟩ := b
  obtain ⟨settings', current', attempts', startedAt'⟩ := b'
  cases hsettings
  cases h
  rfl

/-- What a question that does not fail leaves behind does not depend on the draw. -/
theorem next_state_eq {clock : Nat} {draw draw' : Binary64}
    (h : (b.next clock draw).1 ≠ .overflow) (h' : (b.next clock draw').1 ≠ .overflow) :
    (b.next clock draw).2 = (b.next clock draw').2 :=
  eq_of_steady ((next_jittered .zero h).2.symm.trans (next_jittered .zero h').2)
    ((next_settings ..).trans (next_settings ..).symm)

theorem strategy_state_eq {m m' : Exponential × List Binary64} {clock : Nat} (hm : m.1 = m'.1)
    (h : (strategy.next m clock).1 ≠ .overflow) (h' : (strategy.next m' clock).1 ≠ .overflow) :
    (strategy.after m (.next clock)).1 = (strategy.after m' (.next clock)).1 := by
  obtain ⟨b, draws⟩ := m
  obtain ⟨b', draws'⟩ := m'
  cases hm
  exact next_state_eq h h'

theorem memory_eq (h : .overflow ∉ strategy.replies (b, draws) calls)
    (h' : .overflow ∉ strategy.replies (b, draws') calls) :
    (strategy.memory (b, draws) calls).1 = (strategy.memory (b, draws') calls).1 := by
  induction calls with
  | nil => rfl
  | cons call calls ih =>
    cases call with
    | reset => exact congrArg Exponential.reset (ih h h')
    | next clock =>
      obtain ⟨hnow, hearlier⟩ := not_or.1 fun hmem => h (List.mem_cons.2 hmem)
      obtain ⟨hnow', hearlier'⟩ := not_or.1 fun hmem => h' (List.mem_cons.2 hmem)
      exact strategy_state_eq (ih hearlier hearlier') (Ne.symm hnow) (Ne.symm hnow')

/-- With nothing random about the waits no question fails. -/
theorem Kept.overflow_not_mem (K : b.Kept)
    (hfactor : b.settings.randomizationFactor.eq .zero = true) (draws : List Binary64)
    (calls : List Call) : .overflow ∉ strategy.replies (b, draws) calls := by
  induction calls with
  | nil => exact nofun
  | cons call calls ih =>
    cases call with
    | reset => exact ih
    | next clock =>
      have Km : (strategy.memory (b, draws) calls).1.Kept := K.memory calls
      intro hmem
      rcases List.mem_cons.1 hmem with h | h
      · rcases Km.refused_or_waits (by rwa [memory_settings]) clock _ with h' | h' <;>
          cases h.trans h'
      · exact ih h

/-- With nothing random about the waits the draws do not matter at all. -/
theorem Kept.replies_eq (K : b.Kept) (hfactor : b.settings.randomizationFactor.eq .zero = true)
    (draws draws' : List Binary64) (calls : List Call) :
    strategy.replies (b, draws) calls = strategy.replies (b, draws') calls := by
  induction calls with
  | nil => rfl
  | cons call calls ih =>
    cases call with
    | reset => exact ih
    | next clock =>
      have Km : (strategy.memory (b, draws) calls).1.Kept := K.memory calls
      have hzero : (strategy.memory (b, draws) calls).1.settings.randomizationFactor.eq .zero =
          true := by rwa [memory_settings]
      have hm := memory_eq (K.overflow_not_mem hfactor draws calls)
        (K.overflow_not_mem hfactor draws' calls)
      refine congrArg₂ List.cons ?_ ih
      show ((strategy.memory (b, draws) calls).1.next clock _).1 =
        ((strategy.memory (b, draws') calls).1.next clock _).1
      rw [← hm, Km.next_advice hzero, Km.next_advice hzero]

theorem strategy_exhausted_iff {m : Exponential × List Binary64} {clock : Nat} :
    (strategy.next m clock).1 = .exhausted ↔ (m.1.asked clock).isExhausted clock = true :=
  next_exhausted_iff

theorem Kept.concur (K : b.Kept) : Concur b b where
  refusals clock h h' := by rw [strategy_exhausted_iff, strategy_exhausted_iff, memory_eq h h']
  waits hfactor draws draws' calls :=
    ⟨K.overflow_not_mem hfactor draws calls, K.replies_eq hfactor draws draws' calls⟩

end Exponential

/-- **A backoff is exhausted just when a budget is spent.** Let `m` be a new backoff or one of its
clones, after any questions, resets and clonings on a clock that never goes back.

A question is refused if and only if as many waits have been handed out since the last reset as
there may be, or more time has passed since the first question after it than may pass; a question
that is the first itself has waited for no time. A refusal changes neither the attempts nor the
interval, and up to the next reset all other questions are refused as well. The attempts are the
waits handed out; they never exceed the most that there may be, so neither does the counter.

After a reset the backoff goes on like the new one, and so do two members of the family with the
same past, like a clone and its original. -/
theorem refused_just_when_spent {s : Settings} {b : Exponential} {now : Nat}
    {members : List Member} {m : Member} (hnew : Exponential.new s = .ok b)
    (F : Family b now members) (hm : m ∈ members) :
    (∀ clock draw, now ≤ clock →
      ((m.backoff.next clock draw).1 = .exhausted ↔
        (∃ most, s.maxAttempts = some most ∧ most ≤ Deed.handedOut m.past) ∨
          ∃ most, s.maxElapsedTime = some most ∧
            (Deed.firstAsked m.past).getD clock + most.nanos < clock) ∧
      ((m.backoff.next clock draw).1 = .exhausted →
        (m.backoff.next clock draw).2.attempts = m.backoff.attempts ∧
        (m.backoff.next clock draw).2.current = m.backoff.current) ∧
      (Deed.gaveUp m.past = true → (m.backoff.next clock draw).1 = .exhausted)) ∧
    m.backoff.attempts = Deed.handedOut m.past ∧
    (∀ most, s.maxAttempts = some most → m.backoff.attempts ≤ most ∧
      ∀ clock draw, (m.backoff.next clock draw).2.attempts ≤ most ∧
        (most < UInt32.size → (m.backoff.next clock draw).2.attempts < UInt32.size)) ∧
    Concur m.backoff.reset b ∧
    ∀ m' ∈ members, m'.past = m.past → Concur m'.backoff m.backoff := by
  obtain ⟨hcheck, rfl⟩ := new_eq_ok.1 hnew
  have hsound := F.sound hcheck
  have S := hsound m hm
  refine ⟨?_, S.attempts_eq, ?_, ?_, ?_⟩
  · intro clock draw hclock
    refine ⟨S.exhausted_iff, ?_, ?_⟩
    · intro hex
      rw [next_of_exhausted (next_exhausted_iff.1 hex)]
      exact ⟨rfl, rfl⟩
    · intro hgave
      exact next_exhausted_iff.2 (S.spent hgave clock hclock)
  · intro most hmost
    refine ⟨S.attempts_eq ▸ S.handedOut_le most hmost, ?_⟩
    intro clock draw
    have hle := S.attempts_ask_le clock draw hmost
    exact ⟨hle, Nat.lt_of_le_of_lt hle⟩
  · rw [S.reset_eq]
    exact (fresh_kept hcheck).concur
  · intro m' hm' hpast
    rw [(hsound m' hm').eq_ofPast, hpast, ← S.eq_ofPast]
    exact S.kept.concur

/-- Two waits and five seconds, with nothing random about the waits. -/
def twiceInFiveSeconds : Settings :=
  { Settings.standard with
    randomizationFactor := .zero, maxElapsedTime := some (.ofSeconds 5), maxAttempts := some 2 }

def askedOnce : Member := Member.ask ⟨fresh twiceInFiveSeconds, []⟩ 0 .zero

def askedThrice : Member := (askedOnce.ask 1000000000 .zero).ask 2000000000 .zero

/-- The third question is one too many, and so is every later one. The clone that was made after the
first has a wait left, up to the five seconds. -/
theorem clone_has_wait_left :
    Exponential.new twiceInFiveSeconds = .ok (fresh twiceInFiveSeconds) ∧
    Family (fresh twiceInFiveSeconds) 2000000000 [askedThrice, askedOnce] ∧
    (askedThrice.backoff.attempts = 2 ∧
      (askedThrice.backoff.next 4000000000 .zero).1 = .exhausted) ∧
    (askedOnce.backoff.next 5000000000 .zero).1 ≠ .exhausted ∧
    (askedOnce.backoff.next 5000000001 .zero).1 = .exhausted := by
  have hnew : Exponential.new twiceInFiveSeconds = .ok (fresh twiceInFiveSeconds) := by
    decide +kernel
  have F : Family (fresh twiceInFiveSeconds) 2000000000 [askedThrice, askedOnce] :=
    have once := @Family.ask _ 0 0 [] [] _ .alone (Nat.le_refl 0) .zero
    have twice := @Family.ask _ 0 1000000000 [] _ _ (once.clone (.head _)) (by decide) .zero
    @Family.ask _ 1000000000 2000000000 [] _ _ twice (by decide) .zero
  obtain ⟨hthrice, hattempts, -⟩ := refused_just_when_spent hnew F (.head _)
  obtain ⟨honce, -⟩ := refused_just_when_spent hnew F (.tail _ (.head _))
  have hpast : Deed.handedOut askedOnce.past = 1 ∧ Deed.firstAsked askedOnce.past = some 0 := by
    decide +kernel
  refine ⟨hnew, F, ⟨hattempts.trans (by decide +kernel), ?_⟩, fun hex => ?_, ?_⟩
  · exact (hthrice 4000000000 .zero (by decide)).2.2 (by decide +kernel)
  · rcases (honce 5000000000 .zero (by decide)).1.1 hex with ⟨most, hmost, hle⟩ | ⟨most, hmost, hlt⟩
    · cases hmost
      rw [hpast.1] at hle
      exact absurd hle (by decide)
    · cases hmost
      rw [hpast.2] at hlt
      exact absurd hlt (by decide)
  · refine (honce 5000000001 .zero (by decide)).1.2 (.inr ⟨_, rfl, ?_⟩)
    rw [hpast.2]
    decide

end CredentialKeeper.Backoff
