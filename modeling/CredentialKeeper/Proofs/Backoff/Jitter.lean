import CredentialKeeper.Proofs.Backoff.Growth
import CredentialKeeper.Proofs.Number.Seconds

/-! # The random part of a wait

A wait is drawn around the interval by one product, and its factor is at most the greatest number
below two (`Binary64.exists_one_add`). So the product is a number of seconds whenever the interval
has at most 2 ^ 63 seconds, and finite in any case; past 2 ^ 64 seconds no span is that long and the
question fails (`Exponential.overflow_only_by_jitter`). The growth of the interval, on the other
hand, is compared with the greatest interval before it is made a span, and always is one. -/

namespace CredentialKeeper

open Magnitude

/-! ## One and a random part -/

namespace Magnitude

theorem one_units : one.units = unitsPerOne := by
  have hcode : one.code = (2 + 1020) * binade + binade := rfl
  rw [units, hcode, unitsOfCode_binade, unitsPerOne_eq]

/-- The greatest magnitude below two. -/
def belowTwo : Magnitude := ⟨(2 + 1020) * binade + (2 * binade - 1), by decide⟩

theorem belowTwo_units : belowTwo.units = (2 ^ 53 - 1) * (2 ^ 2 * 2 ^ 1020) :=
  unitsOfCode_last 2 1020

/-- Two magnitudes in a row below one: the lesser is off from one by the distance from two to the
greatest magnitude below it. -/
theorem one_add_le_belowTwo {m k : Magnitude} (hm : m.units < k.units) (hk : k.units < one.units) :
    one.units + m.units ≤ belowTwo.units := by
  have hcode : m.code ≤ (1 + 1020) * binade + (2 * binade - 2) := by
    have hmk : m.code < k.code := unitsOfCode_strictMono.lt_iff_lt.1 hm
    have hko : k.code < 1023 * binade := unitsOfCode_strictMono.lt_iff_lt.1 hk
    unfold binade at *
    omega
  have hle : m.units ≤ (2 * binade - 2) * (2 ^ 1 * 2 ^ 1020) := by
    have hpow (n : Nat) : unitsOfCode ((1 + n) * binade + (2 * binade - 2)) =
        (2 * binade - 2) * (2 ^ 1 * 2 ^ n) := by
      rw [unitsOfCode_eq (by decide) (.inr (by decide)), pow_add]
    rw [← hpow]
    exact unitsOfCode_strictMono.monotone hcode
  rw [one_units, unitsPerOne_eq, belowTwo_units]
  generalize 2 ^ 1020 = w at *
  unfold binade at *
  omega

end Magnitude

namespace Binary64

section
variable {a b : Binary64}

theorem le_iff : a.le b = true ↔ ∃ x y, a.rank? = some x ∧ b.rank? = some y ∧ x ≤ y := by
  unfold le
  cases a.rank? <;> cases b.rank? <;> simp

theorem lt_iff : a.lt b = true ↔ ∃ x y, a.rank? = some x ∧ b.rank? = some y ∧ x < y := by
  unfold lt
  cases a.rank? <;> cases b.rank? <;> simp

theorem rank?_negate {x : Int} (h : a.rank? = some x) : a.negate.rank? = some (-x) := by
  cases a with
  | nan negative => cases h
  | infinite negative | finite negative m =>
    cases h
    cases negative with
    | false => rfl
    | true => exact congrArg some (Int.neg_neg _).symm

theorem rank?_finite (m : Magnitude) : (finite false m).rank? = some (m.units : Int) := rfl

/-- A number between minus one and one is finite. -/
theorem finite_of_rank {x : Int} (ha : a.rank? = some x) (hlow : -(Magnitude.one.units : Int) < x)
    (hhigh : x < Magnitude.one.units) :
    (∃ m, a = finite false m ∧ x = m.units) ∨ ∃ m, a = finite true m ∧ x = -(m.units : Int) := by
  obtain ⟨_, y, hone, hy, hle⟩ := le_iff.1 (finite_le_infinite Magnitude.one)
  cases (rank?_finite _).symm.trans hone
  cases a with
  | nan negative => cases ha
  | finite negative m =>
    cases negative with
    | false => exact .inl ⟨m, rfl, (Option.some.inj ha).symm⟩
    | true => exact .inr ⟨m, rfl, (Option.some.inj ha).symm⟩
  | infinite negative =>
    cases negative with
    | false =>
      cases hy.symm.trans ha
      omega
    | true =>
      cases (rank?_negate hy).symm.trans ha
      omega

end

theorem ofUnits_le {num : Nat} {m : Magnitude} (h : num ≤ m.units) :
    ∃ k, ofUnits false num 1 = finite false k ∧ k.units ≤ m.units := by
  have hcode : nearestCode num 1 ≤ m.code := nearestCode_le Nat.one_pos (by rwa [Nat.mul_one])
  exact ⟨_, ofUnits_of_lt (hcode.trans_lt m.code_lt), unitsOfCode_strictMono.monotone hcode⟩

theorem one_add_positive (m : Magnitude) :
    one.add (finite false m) = ofUnits false (Magnitude.one.units + m.units) 1 :=
  add_finite Magnitude.one m

theorem one_add_minus {m : Magnitude} (h : m.units < Magnitude.one.units) :
    one.add (finite true m) = ofUnits false (Magnitude.one.units - m.units) 1 := by
  rw [one, add, if_neg Bool.false_ne_true, if_neg h.ne', if_pos h]

/-- One and a random part is finite, not negative and below two. -/
theorem exists_one_add {factor draw : Binary64} (hzero : zero.le factor = true)
    (hone : factor.lt one = true) (hlow : factor.negate.le draw = true)
    (hhigh : draw.lt factor = true) :
    ∃ k, one.add draw = finite false k ∧ k.units ≤ belowTwo.units := by
  obtain ⟨_, f, hz, hf, hzf⟩ := le_iff.1 hzero
  obtain ⟨_, _, hf', hu, hfu⟩ := lt_iff.1 hone
  obtain ⟨_, d, hn, hd, hnd⟩ := le_iff.1 hlow
  obtain ⟨_, _, hd', hf'', hdf⟩ := lt_iff.1 hhigh
  cases hf.symm.trans hf'
  cases hf.symm.trans hf''
  cases hd.symm.trans hd'
  cases (rank?_finite _).symm.trans hz
  cases (rank?_finite _).symm.trans hu
  cases (rank?_negate hf).symm.trans hn
  rcases finite_of_rank hd (by omega) (by omega) with ⟨m, rfl, rfl⟩ | ⟨m, rfl, rfl⟩
  · rw [one_add_positive]
    rcases finite_of_rank hf (by omega) hfu with ⟨k, rfl, rfl⟩ | ⟨k, rfl, rfl⟩
    · exact ofUnits_le (one_add_le_belowTwo (Int.ofNat_lt.1 hdf) (Int.ofNat_lt.1 hfu))
    · omega
  · have hm : m.units < Magnitude.one.units := by omega
    rw [one_add_minus hm]
    have hbelow : Magnitude.one.units ≤ belowTwo.units :=
      unitsOfCode_strictMono.monotone (by decide)
    exact ofUnits_le (by omega)

end Binary64

/-! ## The product -/

namespace Span

variable {s : Span} {e : Nat}

/-- A span of at most so many seconds, and a fraction, is rounded to no more seconds than these: the
fraction is less than half the distance to the next magnitude. -/
theorem magnitude_le (he : 54 ≤ e) (h : s.seconds ≤ 2 ^ e) :
    s.magnitude.units ≤ 2 ^ (52 + (e + 2)) * 2 ^ 1020 := by
  have hpow : 2 ^ (52 + (e + 2)) = 2 ^ e * 2 ^ 54 := by
    rw [← pow_add, show 52 + (e + 2) = e + 54 by omega]
  have hwhole : s.wholeUnits ≤ 2 ^ (52 + (e + 2)) * 2 ^ 1020 := by
    rw [← unitsOfCode_binade]
    refine unitsOfCode_strictMono.monotone (nearestCode_le Nat.one_pos ?_)
    rw [unitsOfCode_binade, hpow, unitsPerOne_eq, Nat.mul_one, Nat.mul_assoc]
    exact Nat.mul_le_mul_right _ h
  have hrest := s.restUnits_le
  have hcode : nearestCode (s.wholeUnits + s.restUnits) 1 ≤ (e + 2 + 1020) * binade + binade := by
    refine Nat.le_of_not_lt fun hlt => ?_
    have hmid := lt_nearestCode hlt
    have hexponent : ((e + 2 + 1020) * binade + binade) / binade - 1 = e + 2 + 1020 := by
      unfold binade
      omega
    have hstep : 2 ^ 56 * 2 ^ 1020 ≤ 2 ^ (e + 2 + 1020) := by
      rw [pow_add _ (e + 2)]
      exact Nat.mul_le_mul_right _ (Nat.pow_le_pow_right Nat.two_pos (by omega))
    rw [unitsOfCode_succ, hexponent, unitsOfCode_binade] at hmid
    generalize 2 ^ (52 + (e + 2)) * 2 ^ 1020 = top at *
    generalize 2 ^ (e + 2 + 1020) = step at *
    have hpos : 0 < 2 ^ 1020 := pow_pos Nat.two_pos 1020
    generalize 2 ^ 1020 = w at *
    omega
  rw [← unitsOfCode_binade]
  exact unitsOfCode_strictMono.monotone hcode

/-- A span times a number below two. -/
theorem nearestCode_product_le {k : Magnitude} (he : 54 ≤ e) (h : s.seconds ≤ 2 ^ e)
    (hk : k.units ≤ belowTwo.units) :
    nearestCode (s.magnitude.units * k.units) unitsPerOne ≤
      (e + 2 + 1020) * binade + (2 * binade - 1) := by
  refine nearestCode_le unitsPerOne_pos ?_
  have hm := magnitude_le he h
  have hpow (n : Nat) : 2 ^ (52 + (e + 2)) * n * ((2 ^ 53 - 1) * (2 ^ 2 * n)) =
      (2 ^ 53 - 1) * (2 ^ (e + 2) * n) * (2 ^ 54 * n) := by
    rw [pow_add _ 52]
    ring
  calc s.magnitude.units * k.units
      ≤ 2 ^ (52 + (e + 2)) * 2 ^ 1020 * ((2 ^ 53 - 1) * (2 ^ 2 * 2 ^ 1020)) :=
        Nat.mul_le_mul hm (hk.trans belowTwo_units.le)
    _ = unitsOfCode ((e + 2 + 1020) * binade + (2 * binade - 1)) * unitsPerOne := by
        rw [hpow, unitsOfCode_last, unitsPerOne_eq]

end Span

namespace Binary64

theorem zero_le_finite (m : Magnitude) : zero.le (finite false m) = true := by
  have hzero : Magnitude.zero.units = 0 := by decide
  rw [zero, finite_le_finite, hzero]
  exact Nat.zero_le _

/-- A finite number that is not negative has a span unless it is past all of them. -/
theorem finite_not_isSeconds_iff {m : Magnitude} :
    ¬(finite false m).IsSeconds ↔ secondsEnd.le (finite false m) = true := by
  have hend : (⟨endCode, by decide⟩ : Magnitude).units = 2 ^ 64 * unitsPerOne := unitsOfCode_endCode
  rw [finite_isSeconds_iff, secondsEnd_eq, finite_le_finite, hend]
  simp only [Bool.false_eq_true, false_implies, true_and, Nat.not_lt]

end Binary64

namespace Backoff.Exponential

variable {b : Exponential} {factor draw : Binary64}

/-- A random part of a wait: from minus the factor to below the factor. -/
def IsDraw (factor draw : Binary64) : Prop := factor.negate.le draw = true ∧ draw.lt factor = true

/-- A wait around `base` in seconds, before it is made a span. -/
def drawn (base : Span) (draw : Binary64) : Binary64 := base.toBinary64.mul (Binary64.one.add draw)

/-- A wait around an interval is finite, and a number of seconds if the interval is not too long. -/
theorem drawn_finite (base : Span) (hzero : Binary64.zero.le factor = true)
    (hone : factor.lt .one = true) (h : IsDraw factor draw) :
    ∃ m, drawn base draw = .finite false m ∧
      (base.seconds ≤ 9223372036854775808 → (drawn base draw).IsSeconds) := by
  obtain ⟨k, hk, hle⟩ := Binary64.exists_one_add hzero hone h.1 h.2
  have hproduct : drawn base draw =
      .ofUnits false (base.magnitude.units * k.units) unitsPerOne := by
    rw [drawn, Span.toBinary64_eq, hk, Binary64.mul, bne_self_eq_false]
  have hcode : nearestCode (base.magnitude.units * k.units) unitsPerOne < codes :=
    (Span.nearestCode_product_le (e := 64) (by decide) base.seconds_lt.le hle).trans_lt (by decide)
  rw [hproduct, Binary64.ofUnits_of_lt hcode]
  refine ⟨_, rfl, ?_⟩
  intro hseconds
  have hend : nearestCode (base.magnitude.units * k.units) unitsPerOne ≤ endCode - 1 :=
    Span.nearestCode_product_le (e := 63) (by decide) hseconds hle
  rw [Binary64.finite_isSeconds_iff, units_lt_end_iff]
  constructor
  · intro hneg
    cases hneg
  · exact hend.trans_lt (Nat.sub_one_lt (by decide))

/-- With a random part in its bounds only a wait past all spans is wanting. -/
theorem randomized?_eq_none (base : Span) (hzero : Binary64.zero.le factor = true)
    (hone : factor.lt .one = true) (h : factor.eq .zero = true ∨ IsDraw factor draw) :
    randomized? base factor draw = none ↔
      factor.eq .zero = false ∧ Binary64.secondsEnd.le (drawn base draw) = true := by
  by_cases hfactor : factor.eq .zero = true
  · have hsome : randomized? base factor draw = some base := if_pos hfactor
    simp [hsome, hfactor]
  · have hspan : randomized? base factor draw = Span.ofBinary64? (drawn base draw) :=
      if_neg hfactor
    obtain ⟨m, hm, -⟩ := drawn_finite base hzero hone (h.resolve_left hfactor)
    rw [hspan, Option.eq_none_iff_forall_ne_some, ← not_exists, Span.exists_ofBinary64?_iff, hm,
      Binary64.finite_not_isSeconds_iff]
    exact (and_iff_right (Bool.eq_false_iff.2 hfactor)).symm

/-- The product for the next interval is a number of seconds unless it reaches the greatest. -/
theorem Kept.product_isSeconds (K : b.Kept)
    (h : b.settings.maxInterval.toBinary64.le b.product = false) : b.product.IsSeconds := by
  have hbelow : ¬b.settings.maxInterval.toBinary64.le b.product = true := Bool.eq_false_iff.1 h
  rw [Span.toBinary64_eq] at hbelow
  obtain ⟨k, hp, hlt⟩ := K.product_below hbelow
  have htop := Span.magnitude_le (e := 64) (by decide) b.settings.maxInterval.seconds_lt.le
  rw [hp, Binary64.finite_isSeconds_iff, unitsPerOne_eq]
  exact ⟨nofun, by omega⟩

/-- A question of a kept backoff fails for its wait only, if at all. -/
theorem Kept.next_overflow_iff (K : b.Kept) (clock : Nat) (draw : Binary64) :
    (b.next clock draw).1 = .overflow ↔ (b.asked clock).isExhausted clock = false ∧
      randomized? b.current b.settings.randomizationFactor draw = none := by
  rcases K.next_cases clock draw with ⟨hex, hn⟩ | ⟨hex, _, _, hw, -, -, -, hn⟩ | ⟨hex, hw, hn⟩
  · simp [hn, hex]
  · simp [hn, hw]
  · simp [hn, hex, hw]

/-- **Only the random part of a wait can lead past all spans.** Let `b` be a checked backoff after
any calls at any times. Where its interval is made from a product at all, and not set to the
greatest, the product is not negative and below 2 ^ 64 seconds; so there always is a next interval.
A wait, with the random part in its bounds, is drawn as a finite number of seconds that is not
negative, and below 2 ^ 64 if the interval has at most 2 ^ 63 seconds. A question fails exactly if
the backoff is not exhausted, something is random about its waits, and the wait comes out at 2 ^ 64
seconds or more; so never while the greatest interval has at most 2 ^ 63 seconds. -/
theorem overflow_only_by_jitter {s : Settings} {b₀ b : Exponential} {draws : List Binary64}
    {calls : List Call} (hnew : Exponential.new s = .ok b₀)
    (hb : b = (strategy.memory (b₀, draws) calls).1) :
    (s.maxInterval.toBinary64.le b.product = false → b.product.IsSeconds) ∧
    (∃ interval, b.grown? = some interval) ∧
    (∀ draw, IsDraw s.randomizationFactor draw →
      Binary64.zero.le (drawn b.current draw) = true ∧
      (∃ m, drawn b.current draw = .finite false m) ∧
      (b.current.seconds ≤ 9223372036854775808 → (drawn b.current draw).IsSeconds)) ∧
    ∀ clock draw, s.randomizationFactor.eq .zero = true ∨ IsDraw s.randomizationFactor draw →
      ((b.next clock draw).1 = .overflow ↔ (b.asked clock).isExhausted clock = false ∧
        s.randomizationFactor.eq .zero = false ∧
        Binary64.secondsEnd.le (drawn b.current draw) = true) ∧
      (s.maxInterval.seconds ≤ 9223372036854775808 → (b.next clock draw).1 ≠ .overflow) := by
  obtain ⟨hcheck, rfl⟩ := new_eq_ok.1 hnew
  have K : b.Kept := hb ▸ (fresh_kept hcheck).memory calls
  have hsettings : b.settings = s := hb ▸ memory_settings calls
  subst hsettings
  obtain ⟨-, -, hfactor, -⟩ := Settings.check_eq_ok.1 K.checked
  obtain ⟨hzero, hone⟩ := Bool.and_eq_true_iff.1 hfactor
  obtain ⟨interval, hgrown, -, -⟩ := K.grown?
  refine ⟨K.product_isSeconds, ⟨interval, hgrown⟩, ?_, ?_⟩
  · intro draw hdraw
    obtain ⟨m, hm, hseconds⟩ := drawn_finite b.current hzero hone hdraw
    exact ⟨hm ▸ Binary64.zero_le_finite m, ⟨m, hm⟩, hseconds⟩
  · intro clock draw hdraw
    have hnone := randomized?_eq_none b.current hzero hone hdraw
    refine ⟨by rw [K.next_overflow_iff, hnone], ?_⟩
    intro htop hover
    obtain ⟨hne, hpast⟩ := hnone.1 ((K.next_overflow_iff clock draw).1 hover).2
    obtain ⟨m, hm, hseconds⟩ := drawn_finite b.current hzero hone
      (hdraw.resolve_left (Bool.eq_false_iff.1 hne))
    have hcurrent : b.current.seconds ≤ b.settings.maxInterval.seconds :=
      Nat.div_le_div_right K.le_max
    rw [hm] at hpast hseconds
    exact Binary64.finite_not_isSeconds_iff.2 hpast (hseconds (hcurrent.trans htop))

/-- Half of each wait is random, and the backoff has been asked, reset and asked again. -/
theorem standard_draws_seconds :
    let b := (strategy.memory (fresh .standard, []) [.next 7, .reset, .next 3]).1
    Exponential.new .standard = .ok (fresh .standard) ∧
    IsDraw Settings.standard.randomizationFactor (.ofRatio 1 4) ∧
    (drawn b.current (.ofRatio 1 4)).IsSeconds ∧ b.product.IsSeconds ∧
    (b.next 9 (.ofRatio 1 4)).1 ≠ .overflow := by
  have hnew : Exponential.new .standard = .ok (fresh .standard) := by decide +kernel
  have hdraw : IsDraw Settings.standard.randomizationFactor (.ofRatio 1 4) :=
    ⟨by decide +kernel, by decide +kernel⟩
  have hb : (strategy.memory (fresh .standard, []) [.next 7, .reset, .next 3]).1 =
      (strategy.memory (fresh .standard, []) [.next 7, .reset, .next 3]).1 := rfl
  obtain ⟨hgrown, -, hdrawn, hnext⟩ := overflow_only_by_jitter hnew hb
  exact ⟨hnew, hdraw, (hdrawn _ hdraw).2.2 (by decide +kernel), hgrown (by decide +kernel),
    (hnext 9 _ (.inr hdraw)).2 (by decide +kernel)⟩

theorem longest_lt : 18446744073709551615999999999 < 18446744073709551616 * nanosPerSecond := by
  decide

/-- Settings whose only interval is the longest span, with next to nothing random about waits. -/
def longest : Settings where
  initialInterval := ⟨18446744073709551615999999999, longest_lt⟩
  multiplier := .ofRatio 3 2
  maxInterval := ⟨18446744073709551615999999999, longest_lt⟩
  randomizationFactor := Decimal.toBinary64 false ⟨1, -300⟩
  maxElapsedTime := none
  maxAttempts := none

/-- The longest span is 2 ^ 64 seconds when it is rounded, and a random part of zero leaves it
there: the first question fails. -/
theorem longest_wait_overflows :
    Exponential.new longest = .ok (fresh longest) ∧ IsDraw longest.randomizationFactor .zero ∧
    drawn (fresh longest).current .zero = Binary64.secondsEnd ∧
    Span.ofBinary64? (drawn (fresh longest).current .zero) = none ∧
    ((fresh longest).next 0 .zero).1 = .overflow := by
  have hdraw : IsDraw longest.randomizationFactor .zero := ⟨by decide +kernel, by decide +kernel⟩
  exact ⟨by decide +kernel, hdraw, by decide +kernel, by decide +kernel, by decide +kernel⟩

end Backoff.Exponential

end CredentialKeeper
