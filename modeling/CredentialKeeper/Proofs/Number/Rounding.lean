import CredentialKeeper.Number.Binary64
import Mathlib.Algebra.Order.Ring.Nat
import Mathlib.Order.Monotone.Basic
import Mathlib.Tactic.Ring

/-! # Rounding to the nearest magnitude

Codes are the ranks of their values (`Magnitude.unitsOfCode_strictMono`), and the distance from one
to the next is a power of two (`Magnitude.unitsOfCode_succ`). All that is used of rounding is that a
code below the nearest one is no nearer: the middle between it and the next one is not above the
value (`Magnitude.lt_nearestCode`). -/

namespace CredentialKeeper

/-! ## Quotients -/

section
variable {num den q : Nat}

theorem lt_roundDiv (h : q < roundDiv num den) : (2 * q + 1) * den ≤ 2 * num := by
  have hdiv : den * (num / den) + num % den = num := Nat.div_add_mod num den
  have hq : q < num / den ∨ q = num / den ∧ den ≤ 2 * (num % den) := by
    simp only [roundDiv] at h
    split at h
    next => exact .inl h
    next hr =>
      have := Nat.mod_two_eq_zero_or_one (num / den)
      split at h <;> omega
  rcases hq with hq | ⟨rfl, hr⟩
  · have hle : den * (q + 1) ≤ den * (num / den) := Nat.mul_le_mul_left den hq
    calc (2 * q + 1) * den ≤ 2 * (den * (q + 1)) := by ring_nf; omega
      _ ≤ 2 * num := by omega
  · calc (2 * (num / den) + 1) * den = 2 * (den * (num / den)) + den := by ring
      _ ≤ 2 * num := by omega

theorem roundDiv_le (h : 2 * num < (2 * q + 1) * den) : roundDiv num den ≤ q :=
  Nat.le_of_not_lt fun hlt => absurd (lt_roundDiv hlt) (Nat.not_le.2 h)

theorem le_roundDiv : num / den ≤ roundDiv num den := by
  simp only [roundDiv]
  split
  next => exact Nat.le_refl _
  next => split <;> omega

theorem roundDiv_le_succ : roundDiv num den ≤ num / den + 1 := by
  simp only [roundDiv]
  have := Nat.mod_two_eq_zero_or_one (num / den)
  split
  next => omega
  next => split <;> omega

theorem roundDiv_mul (q : Nat) (hden : 0 < den) : roundDiv (q * den) den = q := by
  simp [roundDiv, Nat.mul_div_cancel _ hden, hden]

end

namespace Magnitude

/-! ## Codes -/

/-- A code by its exponent and its significand. -/
theorem unitsOfCode_eq {x q : Nat} (hq : q ≤ 2 * binade) (hx : x = 0 ∨ binade ≤ q) :
    unitsOfCode (x * binade + q) = q * 2 ^ x := by
  have hpow (n : Nat) : Nat.pow 2 n = 2 ^ n := rfl
  unfold unitsOfCode
  rw [hpow]
  rcases Nat.lt_or_ge q binade with hlt | hge
  · obtain rfl : x = 0 := hx.resolve_right (Nat.not_le.2 hlt)
    rw [Nat.zero_mul, Nat.zero_add, if_pos hlt, pow_zero, Nat.mul_one]
  · have hcode : ¬x * binade + q < binade := by omega
    rw [if_neg hcode]
    unfold binade at *
    rcases Nat.lt_or_eq_of_le hq with hlt | rfl
    · have hmod : (x * 4503599627370496 + q) % 4503599627370496 = q - 4503599627370496 := by omega
      have hdiv : (x * 4503599627370496 + q) / 4503599627370496 - 1 = x := by omega
      rw [hmod, hdiv, Nat.sub_add_cancel hge]
    · have hmod : (x * 4503599627370496 + 2 * 4503599627370496) % 4503599627370496 = 0 := by omega
      have hdiv : (x * 4503599627370496 + 2 * 4503599627370496) / 4503599627370496 - 1 = x + 1 := by
        omega
      rw [hmod, hdiv, pow_succ]
      ring

theorem exists_code (c : Nat) :
    ∃ x q, c = x * binade + q ∧ q < 2 * binade ∧ (x = 0 ∨ binade ≤ q) := by
  unfold binade
  rcases Nat.lt_or_ge c 4503599627370496 with hlt | hge
  · exact ⟨0, c, by omega, by omega, .inl rfl⟩
  · exact ⟨c / 4503599627370496 - 1, c % 4503599627370496 + 4503599627370496, by omega, by omega,
      .inr (by omega)⟩

theorem unitsOfCode_succ (c : Nat) :
    unitsOfCode (c + 1) = unitsOfCode c + 2 ^ (c / binade - 1) := by
  obtain ⟨x, q, rfl, hq, hx⟩ := exists_code c
  have hdiv : (x * binade + q) / binade - 1 = x := by
    unfold binade at *
    omega
  rw [Nat.add_assoc, unitsOfCode_eq (by omega) (by omega), unitsOfCode_eq hq.le hx, hdiv]
  ring

theorem unitsOfCode_strictMono : StrictMono unitsOfCode := by
  refine strictMono_nat_of_lt_succ fun c => ?_
  rw [unitsOfCode_succ]
  exact Nat.lt_add_of_pos_right (Nat.two_pow_pos _)

/-! ## The nearest code -/

section
variable {num den c : Nat}

/-- The exponent of the nearest code, from zero. -/
def exponentOf (num den : Nat) : Nat := (num / den).log2 - 52

theorem nearestCode_eq (num den : Nat) : nearestCode num den =
    exponentOf num den * binade + roundDiv num (den * 2 ^ exponentOf num den) := rfl

theorem significand_bounds (num den : Nat) :
    num / (den * 2 ^ exponentOf num den) < 2 * binade ∧
      (exponentOf num den = 0 ∨ binade ≤ num / (den * 2 ^ exponentOf num den)) := by
  have hlt : num / den < 2 ^ ((num / den).log2 + 1) := Nat.lt_log2_self
  have hbinade : binade = 2 ^ 52 := by decide
  rw [← Nat.div_div_eq_div_mul, Nat.div_lt_iff_lt_mul (Nat.two_pow_pos _),
    Nat.le_div_iff_mul_le (Nat.two_pow_pos _)]
  constructor
  · calc num / den < 2 ^ ((num / den).log2 + 1) := hlt
      _ ≤ 2 ^ (53 + exponentOf num den) :=
        Nat.pow_le_pow_right Nat.two_pos (by unfold exponentOf; omega)
      _ = 2 * binade * 2 ^ exponentOf num den := by rw [hbinade, pow_add, pow_succ']
  · rcases Nat.eq_zero_or_pos (exponentOf num den) with h | h
    · exact .inl h
    · right
      have hlog : (num / den).log2 = 52 + exponentOf num den := by
        unfold exponentOf at h ⊢
        omega
      have hne : num / den ≠ 0 := by
        intro h0
        rw [h0, Nat.log2_zero] at hlog
        omega
      calc binade * 2 ^ exponentOf num den = 2 ^ (52 + exponentOf num den) := by
            rw [hbinade, pow_add]
        _ = 2 ^ (num / den).log2 := by rw [hlog]
        _ ≤ num / den := Nat.log2_self_le hne

/-- A code below the nearest one is no nearer to the value. -/
theorem lt_nearestCode (h : c < nearestCode num den) :
    (unitsOfCode c + unitsOfCode (c + 1)) * den ≤ 2 * num := by
  obtain ⟨htop, hbottom⟩ := significand_bounds num den
  rw [nearestCode_eq] at h
  generalize exponentOf num den = x at *
  have hround : roundDiv num (den * 2 ^ x) ≤ 2 * binade := roundDiv_le_succ.trans htop
  by_cases hc : x = 0 ∨ x * binade + binade ≤ c
  · -- the code has the exponent of the nearest one
    obtain ⟨q, rfl⟩ : ∃ q, c = x * binade + q := by
      refine ⟨c - x * binade, ?_⟩
      rcases hc with rfl | hc <;> omega
    have hq : q < roundDiv num (den * 2 ^ x) := by omega
    rw [Nat.add_assoc, unitsOfCode_eq (by omega) (by omega), unitsOfCode_eq (by omega) (by omega)]
    calc (q * 2 ^ x + (q + 1) * 2 ^ x) * den = (2 * q + 1) * (den * 2 ^ x) := by ring
      _ ≤ 2 * num := lt_roundDiv hq
  · -- the next code still lies below the nearest one's exponent
    obtain ⟨hx, hlt⟩ := not_or.1 hc
    have hnext : unitsOfCode (c + 1) ≤ binade * 2 ^ x := by
      rw [← unitsOfCode_eq (by omega) (.inr (Nat.le_refl _))]
      exact unitsOfCode_strictMono.monotone (by omega)
    have hle : unitsOfCode c ≤ unitsOfCode (c + 1) :=
      unitsOfCode_strictMono.monotone (Nat.le_succ c)
    have hmul : binade * (den * 2 ^ x) ≤ num :=
      (Nat.mul_le_mul_right _ (hbottom.resolve_left hx)).trans (Nat.div_mul_le_self ..)
    calc (unitsOfCode c + unitsOfCode (c + 1)) * den
        ≤ (binade * 2 ^ x + binade * 2 ^ x) * den := Nat.mul_le_mul_right _ (by omega)
      _ = 2 * (binade * (den * 2 ^ x)) := by ring
      _ ≤ 2 * num := by omega

theorem nearestCode_le (hden : 0 < den) (h : num ≤ unitsOfCode c * den) :
    nearestCode num den ≤ c := by
  refine Nat.le_of_not_lt fun hlt => ?_
  have hmid := lt_nearestCode hlt
  have hstep : unitsOfCode c * den < unitsOfCode (c + 1) * den :=
    Nat.mul_lt_mul_of_pos_right (unitsOfCode_strictMono (Nat.lt_succ_self c)) hden
  rw [Nat.add_mul] at hmid
  omega

theorem unitsOfCode_nearestCode (num den : Nat) : unitsOfCode (nearestCode num den) =
    roundDiv num (den * 2 ^ exponentOf num den) * 2 ^ exponentOf num den := by
  obtain ⟨htop, hbottom⟩ := significand_bounds num den
  rw [nearestCode_eq, unitsOfCode_eq (roundDiv_le_succ.trans htop)
    (hbottom.imp_right fun h => h.trans le_roundDiv)]

/-- What has a code is not rounded. -/
theorem unitsOfCode_nearestCode_of_dvd {n : Nat} (h : 2 ^ (n.log2 - 52) ∣ n) :
    unitsOfCode (nearestCode n 1) = n := by
  have hexponent : exponentOf n 1 = n.log2 - 52 := by rw [exponentOf, Nat.div_one]
  obtain ⟨q, hq⟩ := h
  rw [unitsOfCode_nearestCode, hexponent, Nat.one_mul]
  nth_rewrite 1 [hq]
  rw [Nat.mul_comm _ q, roundDiv_mul q (Nat.two_pow_pos _), Nat.mul_comm q, ← hq]

theorem nearestCode_pos (h : 0 < num / den) : 0 < nearestCode num den := by
  have hle : num / (den * 2 ^ exponentOf num den) ≤ roundDiv num (den * 2 ^ exponentOf num den) :=
    le_roundDiv
  rw [nearestCode_eq]
  rcases (significand_bounds num den).2 with h0 | hb
  · rw [h0, pow_zero, Nat.mul_one] at hle ⊢
    omega
  · have hbinade : 0 < binade := by decide
    omega

/-- A value is rounded up by half the distance between two codes at most. -/
theorem unitsOfCode_nearestCode_le {x : Nat} (h : nearestCode num den ≤ (x + 2) * binade) :
    2 * unitsOfCode (nearestCode num den) * den ≤ 2 * num + 2 ^ x * den := by
  cases hcode : nearestCode num den with
  | zero =>
    have hzero : unitsOfCode 0 = 0 := rfl
    rw [hzero]
    omega
  | succ c =>
    have hlt : c < nearestCode num den := by omega
    have hmid := lt_nearestCode hlt
    have hexponent : c / binade - 1 ≤ x := by
      unfold binade at *
      omega
    have hstep : 2 ^ (c / binade - 1) * den ≤ 2 ^ x * den :=
      Nat.mul_le_mul_right den (Nat.pow_le_pow_right Nat.two_pos hexponent)
    rw [unitsOfCode_succ] at hmid ⊢
    calc 2 * (unitsOfCode c + 2 ^ (c / binade - 1)) * den
        = (unitsOfCode c + (unitsOfCode c + 2 ^ (c / binade - 1))) * den +
            2 ^ (c / binade - 1) * den := by ring
      _ ≤ 2 * num + 2 ^ x * den := Nat.add_le_add hmid hstep

end

/-! ## Finite magnitudes -/

theorem units_lt (m : Magnitude) {n : Nat} (hn : 2098 ≤ n) : m.units < Nat.pow 2 n := by
  have hcode : m.code < 2046 * binade + binade := m.code_lt
  have hmono (x y : Nat) (h : x ≤ y) : 2 ^ x ≤ 2 ^ y := Nat.pow_le_pow_right Nat.two_pos h
  calc m.units < unitsOfCode (2046 * binade + binade) := unitsOfCode_strictMono hcode
    _ = 2 ^ 52 * 2 ^ 2046 := by
      rw [unitsOfCode_eq (by decide) (.inr (Nat.le_refl _)), show binade = 2 ^ 52 by decide]
    _ ≤ 2 ^ 52 * 2 ^ (n - 52) := Nat.mul_le_mul_left _ (hmono 2046 (n - 52) (by omega))
    _ = 2 ^ n := by rw [← pow_add, Nat.add_sub_cancel' (by omega)]

end Magnitude

end CredentialKeeper
