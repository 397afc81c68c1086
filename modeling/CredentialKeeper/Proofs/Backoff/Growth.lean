import CredentialKeeper.Proofs.Backoff.Interval

/-! # The interval from call to call

No call takes the interval of a checked backoff out of its bounds (`Exponential.Kept.after`,
`Exponential.Kept.memory`), and only a reset makes it shorter (`Exponential.Kept.current_le_next`).
So it stays at the greatest interval once it is there, and the waits between two resets never get
shorter where nothing is random about them (`Exponential.Kept.waits`). -/

namespace CredentialKeeper.Backoff

def Advice.wait? : Advice → Option Span
  | .retryAfter wait => some wait
  | .exhausted | .overflow => none

namespace Exponential

variable {s : Settings} {b : Exponential} {draws : List Binary64}

theorem new_eq_ok : new s = .ok b ↔ s.check = .ok () ∧ b = fresh s := by
  unfold new
  cases s.check with
  | ok _ => exact ⟨fun h => ⟨rfl, (Except.ok.inj h).symm⟩, fun h => h.2 ▸ rfl⟩
  | error e => exact ⟨nofun, fun h => nomatch h.1⟩

namespace Kept

theorem asked (K : b.Kept) (clock : Nat) : (b.asked clock).Kept :=
  ⟨K.checked, K.initial_le, K.le_max⟩

theorem reset (K : b.Kept) : b.reset.Kept := fresh_kept K.checked

theorem next_kept (K : b.Kept) (clock : Nat) (draw : Binary64) : (b.next clock draw).2.Kept := by
  rcases K.next_cases clock draw with ⟨-, hn⟩ | ⟨-, _, _, -, -, hle, hmax, hn⟩ | ⟨-, -, hn⟩ <;>
    rw [hn]
  · exact K.asked clock
  · exact ⟨K.checked, Nat.le_trans K.initial_le hle, hmax⟩
  · exact K.asked clock

/-- Whatever comes of a question, the interval gets no shorter. -/
theorem current_le_next (K : b.Kept) (clock : Nat) (draw : Binary64) :
    b.current ≤ (b.next clock draw).2.current := by
  rcases K.next_cases clock draw with ⟨-, hn⟩ | ⟨-, _, _, -, -, hle, -, hn⟩ | ⟨-, -, hn⟩ <;> rw [hn]
  · exact Nat.le_refl _
  · exact hle
  · exact Nat.le_refl _

theorem after (K : b.Kept) (call : Call) : (strategy.after (b, draws) call).1.Kept := by
  cases call with
  | next clock => exact K.next_kept clock _
  | reset => exact K.reset

theorem memory (K : b.Kept) (calls : List Call) :
    (strategy.memory (b, draws) calls).1.Kept := by
  induction calls with
  | nil => exact K
  | cons call calls ih => exact ih.after call

theorem current_le_memory (K : b.Kept) (draws : List Binary64) (clocks : List Nat) :
    b.current ≤ (strategy.memory (b, draws) (clocks.map .next)).1.current := by
  induction clocks with
  | nil => exact Nat.le_refl _
  | cons clock clocks ih => exact Nat.le_trans ih ((K.memory _).current_le_next clock _)

/-- With nothing random about the waits there is one, the interval, unless the backoff is
exhausted. -/
theorem next_advice (K : b.Kept) (hfactor : b.settings.randomizationFactor.eq .zero = true)
    (clock : Nat) (draw : Binary64) : (b.next clock draw).1 =
      if (b.asked clock).isExhausted clock then .exhausted else .retryAfter b.current := by
  rcases K.next hfactor clock draw with ⟨hex, hn⟩ | ⟨hex, _, hn, -⟩
  · rw [hn, if_pos hex]
  · rw [hn, hex, if_neg Bool.false_ne_true]

theorem refused_or_waits (K : b.Kept) (hfactor : b.settings.randomizationFactor.eq .zero = true)
    (clock : Nat) (draw : Binary64) :
    (b.next clock draw).1 = .exhausted ∨ (b.next clock draw).1 = .retryAfter b.current := by
  rw [K.next_advice hfactor]
  split
  · exact .inl rfl
  · exact .inr rfl

/-- The waits for some questions in a row lie between the interval before them and the interval
after them, and each is as long as the ones before it. -/
theorem waits (K : b.Kept) (hfactor : b.settings.randomizationFactor.eq .zero = true)
    (draws : List Binary64) (clocks : List Nat) :
    ((strategy.answers (b, draws) clocks).filterMap Advice.wait?).Pairwise (· ≥ ·) ∧
      ∀ w ∈ (strategy.answers (b, draws) clocks).filterMap Advice.wait?, b.current ≤ w ∧
        w ≤ (strategy.memory (b, draws) (clocks.map .next)).1.current := by
  induction clocks with
  | nil => exact ⟨.nil, nofun⟩
  | cons clock clocks ih =>
    obtain ⟨hsorted, hbounds⟩ := ih
    have Km : (strategy.memory (b, draws) (clocks.map .next)).1.Kept := K.memory _
    have hlow := K.current_le_memory draws clocks
    have hzero : (strategy.memory (b, draws) (clocks.map .next)).1.settings.randomizationFactor.eq
        .zero = true := by rwa [memory_settings]
    rw [Strategy.answers, List.filterMap_cons, List.map_cons, Strategy.memory_cons]
    generalize strategy.memory (b, draws) (clocks.map .next) = m at *
    have hle : m.1.current ≤ (strategy.after m (.next clock)).1.current :=
      Km.current_le_next clock _
    have hearlier : ∀ w ∈ (strategy.answers (b, draws) clocks).filterMap Advice.wait?,
        b.current ≤ w ∧ w ≤ (strategy.after m (.next clock)).1.current := fun w hw =>
      ⟨(hbounds w hw).1, Nat.le_trans (hbounds w hw).2 hle⟩
    have hadvice : (strategy.next m clock).1 = .exhausted ∨
        (strategy.next m clock).1 = .retryAfter m.1.current := Km.refused_or_waits hzero clock _
    rcases hadvice with h | h <;> simp only [h, Advice.wait?]
    · exact ⟨hsorted, hearlier⟩
    · exact ⟨.cons (fun w hw => (hbounds w hw).2) hsorted,
        List.forall_mem_cons.2 ⟨⟨hlow, hle⟩, hearlier⟩⟩

end Kept

/-- **The interval keeps its bounds and grows until a reset.** Let `b` be a checked backoff after
any calls at any times. Its interval lies between the first and the greatest interval. A question
leaves it as it is or makes it longer, one that finds the backoff exhausted leaves it as it is, and a reset
makes it the first again; at the greatest interval it stays up to the next reset.

With nothing random about the waits a question never fails. The wait is the interval before it, so
the waits for questions without a reset in between never get shorter, and lie in the same bounds. -/
theorem interval_bounded_and_growing {s : Settings} {b₀ b : Exponential} {draws : List Binary64}
    {calls : List Call} (hnew : Exponential.new s = .ok b₀)
    (hb : b = (strategy.memory (b₀, draws) calls).1) :
    (s.initialInterval ≤ b.current ∧ b.current ≤ s.maxInterval) ∧
    (∀ clock draw, b.current ≤ (b.next clock draw).2.current ∧
      ((b.next clock draw).1 = .exhausted → (b.next clock draw).2.current = b.current)) ∧
    b.reset.current = s.initialInterval ∧
    (b.current = s.maxInterval → ∀ draws' (clocks : List Nat),
      (strategy.memory (b, draws') (clocks.map .next)).1.current = s.maxInterval) ∧
    (s.randomizationFactor.eq .zero = true →
      (∀ clock draw, (b.next clock draw).1 = .exhausted ∨
        (b.next clock draw).1 = .retryAfter b.current) ∧
      ∀ draws' clocks,
        ((strategy.answers (b, draws') clocks).filterMap Advice.wait?).Pairwise (· ≥ ·) ∧
        ∀ w ∈ (strategy.answers (b, draws') clocks).filterMap Advice.wait?,
          s.initialInterval ≤ w ∧ w ≤ s.maxInterval) := by
  obtain ⟨hcheck, rfl⟩ := new_eq_ok.1 hnew
  have K : b.Kept := hb ▸ (fresh_kept hcheck).memory calls
  have hsettings : b.settings = s := hb ▸ memory_settings calls
  have Kafter (draws') (clocks : List Nat) :
      (strategy.memory (b, draws') (clocks.map .next)).1.Kept := K.memory _
  have hafter (draws') (clocks : List Nat) :
      (strategy.memory (b, draws') (clocks.map .next)).1.settings = s :=
    (memory_settings _).trans hsettings
  subst hsettings
  refine ⟨⟨K.initial_le, K.le_max⟩, ?_, rfl, ?_, ?_⟩
  · intro clock draw
    refine ⟨K.current_le_next clock draw, ?_⟩
    intro hex
    rw [next_of_exhausted (next_exhausted_iff.1 hex), asked_current]
  · intro htop draws' clocks
    have hle := (Kafter draws' clocks).le_max
    have hge := K.current_le_memory draws' clocks
    rw [hafter] at hle
    rw [htop] at hge
    exact Span.ext (Nat.le_antisymm hle hge)
  · intro hfactor
    refine ⟨K.refused_or_waits hfactor, ?_⟩
    intro draws' clocks
    obtain ⟨hsorted, hbounds⟩ := K.waits hfactor draws' clocks
    have hle := (Kafter draws' clocks).le_max
    rw [hafter] at hle
    refine ⟨hsorted, ?_⟩
    intro w hw
    obtain ⟨hfirst, hlast⟩ := hbounds w hw
    exact ⟨Nat.le_trans K.initial_le hfirst, Nat.le_trans hlast hle⟩

/-- Three tenths of a second, doubled up to a second. -/
def doublingToSecond : Settings :=
  { Settings.standard with
    initialInterval := .ofMillis 300, multiplier := .ofRatio 2 1, maxInterval := .ofSeconds 1,
    randomizationFactor := .zero }

/-- The product of the third question is past the greatest interval, which is the wait from the next
question on. A reset has come before. -/
theorem waits_of_doublingToSecond :
    let b := (strategy.memory (fresh doublingToSecond, []) [.reset, .next 7]).1
    Exponential.new doublingToSecond = .ok (fresh doublingToSecond) ∧
    doublingToSecond.randomizationFactor.eq .zero = true ∧
    (strategy.answers (b, []) [3, 2, 1, 0]).filterMap Advice.wait? =
      [.ofSeconds 1, .ofSeconds 1, .ofMillis 600, .ofMillis 300] ∧
    ((strategy.answers (b, []) [3, 2, 1, 0]).filterMap Advice.wait?).Pairwise (· ≥ ·) := by
  have hnew : Exponential.new doublingToSecond = .ok (fresh doublingToSecond) := by decide +kernel
  have hfactor : doublingToSecond.randomizationFactor.eq .zero = true := by decide +kernel
  have hb : (strategy.memory (fresh doublingToSecond, []) [.reset, .next 7]).1 =
      (strategy.memory (fresh doublingToSecond, []) [.reset, .next 7]).1 := rfl
  obtain ⟨-, -, -, -, hsteady⟩ := interval_bounded_and_growing hnew hb
  exact ⟨hnew, hfactor, by decide +kernel, ((hsteady hfactor).2 [] [3, 2, 1, 0]).1⟩

end Exponential

end CredentialKeeper.Backoff
