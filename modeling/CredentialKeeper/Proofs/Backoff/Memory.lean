import CredentialKeeper.Backoff.Exponential
import Mathlib.Data.List.Basic
import Mathlib.Data.List.Forall2

/-! # What a strategy remembers

A strategy is called in two ways, and its memory is what the calls have made of it
(`Strategy.memory`). There is a strategy that remembers just its calls (`Strategy.recorder`), so
what holds of the memory of every strategy holds of the calls.

A reset makes an exponential backoff a fresh one of the same settings, with the random draws that
are left (`Exponential.memory_renewed`). But for these, a fresh backoff always gives the same waits:
those that it would give with nothing random about them, each with a random part of its own
(`Exponential.answers_jittered`). -/

namespace CredentialKeeper.Backoff

inductive Call where
  | next (clock : Nat)
  | reset
deriving DecidableEq

namespace Strategy

variable {β : Type}

def after (s : Strategy β) (b : β) : Call → β
  | .next clock => (s.next b clock).2
  | .reset => s.reset b

/-- The memory after some calls, the last first. -/
def memory (s : Strategy β) (b : β) (calls : List Call) : β :=
  calls.foldr (fun call b => s.after b call) b

/-- The answers to questions at some times, the last first. -/
def answers (s : Strategy β) (b : β) : List Nat → List Advice
  | [] => []
  | clock :: clocks =>
    (s.next (s.memory b (clocks.map .next)) clock).1 :: s.answers b clocks

/-- A strategy that writes down its calls, whatever it says. -/
def recorder (advise : List Call → Nat → Advice) : Strategy (List Call) where
  next calls clock := (advise calls clock, .next clock :: calls)
  reset calls := .reset :: calls

theorem memory_recorder (advise : List Call → Nat → Advice) (calls : List Call) :
    (recorder advise).memory [] calls = calls := by
  induction calls with
  | nil => rfl
  | cons call calls ih =>
    show (recorder advise).after ((recorder advise).memory [] calls) call = call :: calls
    rw [ih]
    cases call <;> rfl

@[simp] theorem memory_cons (s : Strategy β) (b : β) (call : Call) (calls : List Call) :
    s.memory b (call :: calls) = s.after (s.memory b calls) call := rfl

theorem memory_append (s : Strategy β) (b : β) (calls calls' : List Call) :
    s.memory b (calls ++ calls') = s.memory (s.memory b calls') calls := List.foldr_append

end Strategy

/-- The same settings with nothing random about the waits. -/
def Settings.steady (s : Settings) : Settings := { s with randomizationFactor := .zero }

namespace Exponential

def steady (b : Exponential) : Exponential := { b with settings := b.settings.steady }

/-- An advice to compare with that of a backoff that is steady: it is exhausted as well, or waits
for a span drawn around the other's. -/
inductive Jittered (factor : Binary64) : Advice → Advice → Prop
  | exhausted : Jittered factor .exhausted .exhausted
  | wait {base wait : Span} {draw : Binary64} (h : randomized? base factor draw = some wait) :
      Jittered factor (.retryAfter base) (.retryAfter wait)

/-- The time of the first question is there once the backoff has been asked. -/
def asked (b : Exponential) (clock : Nat) : Exponential :=
  { b with startedAt := some (b.startedAt.getD clock) }

@[simp] theorem asked_current (b : Exponential) (clock : Nat) :
    (b.asked clock).current = b.current := rfl

@[simp] theorem asked_settings (b : Exponential) (clock : Nat) :
    (b.asked clock).settings = b.settings := rfl

/-- An answer to a question: the backoff is exhausted, or has a wait and an interval after it, or
fails for want of one of them. -/
theorem next_cases (b : Exponential) (clock : Nat) (draw : Binary64) :
    ((b.asked clock).isExhausted clock = true ∧
        b.next clock draw = (.exhausted, b.asked clock)) ∨
      ((b.asked clock).isExhausted clock = false ∧ ∃ wait interval,
        randomized? b.current b.settings.randomizationFactor draw = some wait ∧
        (b.asked clock).grown? = some interval ∧
        b.next clock draw = (.retryAfter wait,
          { b.asked clock with attempts := b.attempts + 1, current := interval })) ∨
      ((b.asked clock).isExhausted clock = false ∧
        randomized? b.current b.settings.randomizationFactor draw = none ∧
        b.next clock draw = (.overflow, b.asked clock)) ∨
      ((b.asked clock).isExhausted clock = false ∧ (b.asked clock).grown? = none ∧
        b.next clock draw = (.overflow, { b.asked clock with attempts := b.attempts + 1 })) := by
  rw [← asked_current b clock, ← asked_settings b clock]
  unfold next
  extract_lets b'
  have hb : b' = b.asked clock := rfl
  clear_value b'
  subst hb
  cases hex : (b.asked clock).isExhausted clock with
  | true => exact .inl ⟨rfl, if_pos rfl⟩
  | false =>
    right
    rw [if_neg Bool.false_ne_true]
    cases randomized? (b.asked clock).current (b.asked clock).settings.randomizationFactor draw with
    | none => exact .inr (.inl ⟨rfl, rfl, rfl⟩)
    | some wait =>
      cases (b.asked clock).grown? with
      | none => exact .inr (.inr ⟨rfl, rfl, rfl⟩)
      | some interval => exact .inl ⟨rfl, wait, interval, rfl, rfl, rfl⟩

theorem next_exhausted_iff {b : Exponential} {clock : Nat} {draw : Binary64} :
    (b.next clock draw).1 = .exhausted ↔ (b.asked clock).isExhausted clock = true := by
  rcases b.next_cases clock draw with ⟨hex, hn⟩ | ⟨hex, _, _, -, -, hn⟩ | ⟨hex, -, hn⟩ |
    ⟨hex, -, hn⟩ <;> simp [hn, hex]

/-- A refusal changes nothing but that the first question has its time. -/
theorem next_of_exhausted {b : Exponential} {clock : Nat} {draw : Binary64}
    (h : (b.asked clock).isExhausted clock = true) :
    b.next clock draw = (.exhausted, b.asked clock) := if_pos h

theorem next_settings (b : Exponential) (clock : Nat) (draw : Binary64) :
    (b.next clock draw).2.settings = b.settings := by
  rcases b.next_cases clock draw with ⟨-, h⟩ | ⟨-, wait, interval, -, -, h⟩ | ⟨-, -, h⟩ |
    ⟨-, -, h⟩ <;> rw [h] <;> rfl

/-- The draws decide about the waits and nothing else. -/
theorem next_jittered {b : Exponential} {clock : Nat} {draw : Binary64} (draw' : Binary64)
    (h : (b.next clock draw).1 ≠ .overflow) :
    Jittered b.settings.randomizationFactor (b.steady.next clock draw').1 (b.next clock draw).1 ∧
      (b.steady.next clock draw').2 = (b.next clock draw).2.steady := by
  have hsteady : randomized? b.steady.current b.steady.settings.randomizationFactor draw' =
      some b.current := if_pos rfl
  rcases b.next_cases clock draw with ⟨hex, hn⟩ | ⟨hex, wait, interval, hw, hg, hn⟩ | ⟨-, -, hn⟩ |
    ⟨-, -, hn⟩
  · have hn' : b.steady.next clock draw' = (.exhausted, b.steady.asked clock) :=
      next_of_exhausted hex
    rw [hn, hn']
    exact ⟨.exhausted, rfl⟩
  · have hn' : b.steady.next clock draw' = (.retryAfter b.current,
        { b.steady.asked clock with attempts := b.attempts + 1, current := interval }) := by
      rcases b.steady.next_cases clock draw' with ⟨hex', -⟩ | ⟨-, wait', interval', hw', hg', hn'⟩ |
        ⟨-, hw', -⟩ | ⟨-, hg', -⟩
      · cases hex.symm.trans hex'
      · cases hsteady.symm.trans hw'
        cases hg.symm.trans hg'
        exact hn'
      · cases hsteady.symm.trans hw'
      · cases hg.symm.trans hg'
    rw [hn, hn']
    exact ⟨.wait hw, rfl⟩
  · exact absurd (congrArg Prod.fst hn) h
  · exact absurd (congrArg Prod.fst hn) h

variable {b : Exponential} {draws : List Binary64}

theorem memory_settings (calls : List Call) :
    (strategy.memory (b, draws) calls).1.settings = b.settings := by
  induction calls with
  | nil => rfl
  | cons call calls ih =>
    cases call with
    | next clock => exact (next_settings ..).trans ih
    | reset => exact ih

theorem memory_draws (calls : List Call) : (strategy.memory (b, draws) calls).2 <:+ draws := by
  induction calls with
  | nil => exact List.suffix_refl _
  | cons call calls ih =>
    cases call with
    | next clock => exact (List.tail_suffix _).trans ih
    | reset => exact ih

/-- Before the first call and after a reset the backoff is fresh, whatever came before. -/
theorem memory_renewed {s : Settings} {calls : List Call}
    (h : calls = [] ∨ ∃ earlier, calls = .reset :: earlier) :
    ∃ left, left <:+ draws ∧ strategy.memory (fresh s, draws) calls = (fresh s, left) := by
  rcases h with rfl | ⟨earlier, rfl⟩
  · exact ⟨draws, List.suffix_refl _, rfl⟩
  · refine ⟨_, memory_draws earlier, Prod.ext ?_ rfl⟩
    show fresh (strategy.memory (fresh s, draws) earlier).1.settings = fresh s
    rw [memory_settings]
    rfl

/-- The advice of a backoff that has not failed is that of the steady one, but for what is random
about its waits. -/
theorem answers_jittered {clocks : List Nat} (draws' : List Binary64)
    (h : .overflow ∉ strategy.answers (b, draws) clocks) :
    List.Forall₂ (Jittered b.settings.randomizationFactor)
        (strategy.answers (b.steady, draws') clocks) (strategy.answers (b, draws) clocks) ∧
      (strategy.memory (b.steady, draws') (clocks.map .next)).1 =
        (strategy.memory (b, draws) (clocks.map .next)).1.steady := by
  induction clocks with
  | nil => exact ⟨.nil, rfl⟩
  | cons clock clocks ih =>
    obtain ⟨hnow, hearlier⟩ := not_or.1 fun hmem => h (List.mem_cons.2 hmem)
    obtain ⟨hadvice, hmemory⟩ := ih hearlier
    obtain ⟨hj, hm⟩ := next_jittered
      ((strategy.memory (b.steady, draws') (clocks.map .next)).2.headD .zero) (Ne.symm hnow)
    rw [memory_settings, ← hmemory] at hj
    rw [← hmemory] at hm
    exact ⟨.cons hj hadvice, hm⟩

end Exponential

end CredentialKeeper.Backoff
