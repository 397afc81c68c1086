import CredentialKeeper.Proofs.Backoff.Interval

/-! # Numbers of seconds

A number of seconds has a span if and only if it is not negative and below 2 ^ 64
(`Span.exists_ofBinary64?_iff`): the greatest magnitude below 2 ^ 64 is a whole number of seconds,
so that no rounding to nanoseconds leads out of the range. -/

namespace CredentialKeeper

open Magnitude

namespace Binary64

/-- The first number of seconds that is longer than any span. -/
def secondsEnd : Binary64 := .ofNat 18446744073709551616

/-- A number of seconds that is not negative and below 2 ^ 64, and so finite. -/
def IsSeconds (x : Binary64) : Prop := zero.le x = true ∧ x.lt secondsEnd = true

end Binary64

namespace Magnitude

/-- The code of 2 ^ 64. -/
def endCode : Nat := (66 + 1020) * binade + binade

theorem unitsOfCode_endCode : unitsOfCode endCode = 2 ^ 64 * unitsPerOne := by
  rw [endCode, unitsOfCode_binade, unitsPerOne_eq]
  generalize 2 ^ 1020 = w
  omega

/-- The last magnitude with an exponent. -/
theorem unitsOfCode_last (k n : Nat) :
    unitsOfCode ((k + n) * binade + (2 * binade - 1)) = (2 ^ 53 - 1) * (2 ^ k * 2 ^ n) := by
  rw [unitsOfCode_eq (by decide) (.inr (by decide)), ← pow_add]
  rfl

theorem unitsOfCode_before_end :
    unitsOfCode (endCode - 1) = (2 ^ 64 - 2 ^ 11) * unitsPerOne := by
  have hcode : endCode - 1 = (65 + 1020) * binade + (2 * binade - 1) := rfl
  rw [hcode, unitsOfCode_last, unitsPerOne_eq]
  generalize 2 ^ 1020 = w
  omega

theorem unitsPerOne_pos : 0 < unitsPerOne := by
  rw [unitsPerOne_eq]
  exact Nat.mul_pos (by decide) (pow_pos Nat.two_pos 1020)

theorem units_lt_end_iff {m : Magnitude} :
    m.units < 2 ^ 64 * unitsPerOne ↔ m.code < endCode := by
  rw [← unitsOfCode_endCode]
  exact unitsOfCode_strictMono.lt_iff_lt

end Magnitude

namespace Binary64

theorem secondsEnd_eq : secondsEnd = .finite false ⟨endCode, by decide⟩ := by decide +kernel

theorem finite_isSeconds_iff {negative : Bool} {m : Magnitude} :
    (finite negative m).IsSeconds ↔
      (negative = true → m.units = 0) ∧ m.units < 2 ^ 64 * unitsPerOne := by
  have hend : (⟨endCode, by decide⟩ : Magnitude).units = 2 ^ 64 * unitsPerOne := unitsOfCode_endCode
  have hzero : Magnitude.zero.units = 0 := by decide
  have hpos := unitsPerOne_pos
  rw [IsSeconds, secondsEnd_eq, zero]
  cases negative <;>
    simp only [le, lt, rank?, hend, hzero, Bool.false_eq_true, if_false, if_true, true_implies,
      false_implies, true_and, decide_eq_true_eq] <;>
    omega

theorem infinite_not_isSeconds (negative : Bool) : ¬(infinite negative).IsSeconds := by
  rintro ⟨hle, hlt⟩
  cases negative with
  | true => exact absurd hle (by decide +kernel)
  | false =>
    -- infinity is not below a finite number
    have hge := finite_le_infinite ⟨endCode, by decide⟩
    rw [secondsEnd_eq] at hlt
    simp only [le, lt, rank?, Bool.false_eq_true, if_false, decide_eq_true_eq] at hlt hge
    exact absurd hlt (Int.not_lt.2 hge)

end Binary64

namespace Span

/-! ## Which numbers have a span -/

theorem roundDiv_lt_iff {m : Magnitude} :
    roundDiv (m.units * nanosPerSecond) unitsPerOne < 18446744073709551616 * nanosPerSecond ↔
      m.units < 2 ^ 64 * unitsPerOne := by
  constructor
  · intro h
    refine Nat.lt_of_not_le fun hge => Nat.not_le.2 h ?_
    calc 18446744073709551616 * nanosPerSecond
        ≤ m.units * nanosPerSecond / unitsPerOne := by
          have hpos := unitsPerOne_pos
          generalize unitsPerOne = u at *
          rw [Nat.le_div_iff_mul_le hpos, Nat.mul_right_comm]
          exact Nat.mul_le_mul_right _ hge
      _ ≤ roundDiv (m.units * nanosPerSecond) unitsPerOne := le_roundDiv
  · intro h
    have hle : m.units ≤ (2 ^ 64 - 2 ^ 11) * unitsPerOne := by
      rw [← unitsOfCode_before_end]
      exact unitsOfCode_strictMono.monotone (Nat.le_sub_one_of_lt (units_lt_end_iff.1 h))
    have hround : roundDiv (m.units * nanosPerSecond) unitsPerOne ≤
        (2 ^ 64 - 2 ^ 11) * nanosPerSecond := by
      have hpos := unitsPerOne_pos
      apply roundDiv_le
      generalize unitsPerOne = u at *
      unfold nanosPerSecond
      omega
    exact hround.trans_lt (by decide)

/-- A number of seconds has a span just when it is not negative and below 2 ^ 64. -/
theorem exists_ofBinary64?_iff {x : Binary64} : (∃ s, ofBinary64? x = some s) ↔ x.IsSeconds := by
  cases x with
  | nan negative =>
    constructor
    · rintro ⟨s, hs⟩
      cases hs
    · rintro ⟨hzero, -⟩
      cases hzero
  | infinite negative =>
    constructor
    · rintro ⟨s, hs⟩
      cases hs
    · intro h
      exact absurd h (Binary64.infinite_not_isSeconds negative)
  | finite negative m =>
    rw [ofBinary64?, Binary64.finite_isSeconds_iff, ← roundDiv_lt_iff]
    split
    next h =>
      obtain ⟨rfl, hm⟩ : negative = true ∧ m.units ≠ 0 := by simpa using h
      constructor
      · rintro ⟨s, hs⟩
        cases hs
      · intro hs
        exact absurd (hs.1 rfl) hm
    next h =>
      have hsign : negative = true → m.units = 0 := by simpa using h
      rw [ofNanos?]
      split
      next hlt => exact ⟨fun _ => ⟨hsign, hlt⟩, fun _ => ⟨_, rfl⟩⟩
      next hge =>
        constructor
        · rintro ⟨s, hs⟩
          cases hs
        · intro hs
          exact absurd hs.2 hge

end Span
end CredentialKeeper
