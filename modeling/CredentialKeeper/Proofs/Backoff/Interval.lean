import CredentialKeeper.Proofs.Backoff.Memory
import CredentialKeeper.Proofs.CheckedSettings
import CredentialKeeper.Proofs.Number.Rounding
import Mathlib.Tactic.NormNum

/-! # The interval of an exponential backoff

The interval grows by a product of rounded numbers, and is compared with the greatest one after
rounding. It still never exceeds the greatest one: a number of seconds below the rounded greatest
interval is at most that interval in nanoseconds (`Span.nanos_le_of_lt`). So with settings that pass
their check the interval always has a next one, between itself and the greatest
(`Backoff.Exponential.Kept.grown?`). -/

namespace CredentialKeeper

open Magnitude

/-! ## Spans as numbers of seconds -/

namespace Magnitude

/-- A power of two that is normal has a code of its own. -/
theorem unitsOfCode_binade (k n : Nat) :
    unitsOfCode ((k + n) * binade + binade) = 2 ^ (52 + k) * 2 ^ n := by
  rw [unitsOfCode_eq (by decide) (.inr (Nat.le_refl _)), show binade = 2 ^ 52 by decide, ← pow_add,
    ← pow_add, Nat.add_assoc]

theorem unitsPerOne_eq : unitsPerOne = 2 ^ 54 * 2 ^ 1020 := by decide +kernel

end Magnitude

theorem Binary64.add_finite (m k : Magnitude) :
    (finite false m).add (finite false k) = ofUnits false (m.units + k.units) 1 := by
  rw [add, if_pos rfl]

theorem Binary64.ofUnits_of_lt {negative : Bool} {num den : Nat} (h : nearestCode num den < codes) :
    ofUnits negative num den = .finite negative ⟨nearestCode num den, h⟩ := dif_pos h

theorem Binary64.ofUnits_of_ge {negative : Bool} {num den : Nat} (h : codes ≤ nearestCode num den) :
    ofUnits negative num den = .infinite negative := dif_neg (Nat.not_lt.2 h)

namespace Span

/-- The whole seconds of a span as they are rounded, in units. -/
def wholeUnits (s : Span) : Nat := unitsOfCode (nearestCode (s.seconds * unitsPerOne) 1)

/-- The rest of a span as it is rounded, in units. -/
def restUnits (s : Span) : Nat :=
  unitsOfCode (nearestCode (s.subsecond * unitsPerOne) nanosPerSecond)

variable (s : Span)

theorem nanos_eq : s.nanos = s.seconds * 1000000000 + s.subsecond :=
  (Nat.div_add_mod' s.nanos nanosPerSecond).symm

theorem seconds_lt : s.seconds < 2 ^ 64 := by
  have hlt := s.nanos_lt
  exact Nat.div_lt_of_lt_mul (by unfold nanosPerSecond at *; omega)

theorem subsecond_lt : s.subsecond < nanosPerSecond := Nat.mod_lt _ (by decide)

theorem nearestCode_whole_le :
    nearestCode (s.seconds * unitsPerOne) 1 ≤ (66 + 1020) * binade + binade := by
  refine nearestCode_le Nat.one_pos ?_
  rw [unitsOfCode_binade, unitsPerOne_eq, Nat.mul_one]
  generalize 2 ^ 1020 = w
  calc s.seconds * (2 ^ 54 * w) ≤ 2 ^ 64 * (2 ^ 54 * w) := Nat.mul_le_mul_right _ s.seconds_lt.le
    _ = 2 ^ (52 + 66) * w := by rw [← Nat.mul_assoc, ← pow_add]

theorem nearestCode_rest_le :
    nearestCode (s.subsecond * unitsPerOne) nanosPerSecond ≤ (2 + 1020) * binade + binade := by
  refine nearestCode_le (by decide) ?_
  rw [unitsOfCode_binade, unitsPerOne_eq]
  generalize 2 ^ 1020 = w
  calc s.subsecond * (2 ^ 54 * w) ≤ nanosPerSecond * (2 ^ 54 * w) :=
        Nat.mul_le_mul_right _ s.subsecond_lt.le
    _ = 2 ^ (52 + 2) * w * nanosPerSecond := by rw [Nat.mul_comm]

theorem wholeUnits_le : s.wholeUnits ≤ 2 ^ (52 + 66) * 2 ^ 1020 := by
  rw [← unitsOfCode_binade]
  exact unitsOfCode_strictMono.monotone s.nearestCode_whole_le

theorem restUnits_le : s.restUnits ≤ 2 ^ (52 + 2) * 2 ^ 1020 := by
  rw [← unitsOfCode_binade]
  exact unitsOfCode_strictMono.monotone s.nearestCode_rest_le

theorem nearestCode_sum_lt : nearestCode (s.wholeUnits + s.restUnits) 1 < codes := by
  have hwhole := s.wholeUnits_le
  have hrest := s.restUnits_le
  have hle : nearestCode (s.wholeUnits + s.restUnits) 1 ≤ (67 + 1020) * binade + binade := by
    refine nearestCode_le Nat.one_pos ?_
    rw [unitsOfCode_binade]
    generalize 2 ^ 1020 = w at *
    omega
  exact hle.trans_lt (by decide)

/-- A span as a magnitude of seconds. -/
def magnitude : Magnitude := ⟨nearestCode (s.wholeUnits + s.restUnits) 1, s.nearestCode_sum_lt⟩

theorem toBinary64_eq : s.toBinary64 = .finite false s.magnitude := by
  have hwhole : nearestCode (s.seconds * unitsPerOne) 1 < codes :=
    s.nearestCode_whole_le.trans_lt (by decide)
  have hrest : nearestCode (s.subsecond * unitsPerOne) nanosPerSecond < codes :=
    s.nearestCode_rest_le.trans_lt (by decide)
  rw [toBinary64, Binary64.ofNat, Binary64.ofRatio, Binary64.ofUnits_of_lt hwhole,
    Binary64.ofUnits_of_lt hrest, Binary64.add_finite]
  exact Binary64.ofUnits_of_lt s.nearestCode_sum_lt

/-! ## From seconds back to nanoseconds -/

/-- Whole seconds below 2 ^ 53 are not rounded. -/
theorem wholeUnits_eq (h : s.seconds < 2 ^ 53) : s.wholeUnits = s.seconds * unitsPerOne := by
  refine unitsOfCode_nearestCode_of_dvd ?_
  rw [unitsPerOne_eq]
  have hdvd (n : Nat) : 2 ^ ((s.seconds * (2 ^ 54 * 2 ^ n)).log2 - 52) ∣
      s.seconds * (2 ^ 54 * 2 ^ n) := by
    have hlt : s.seconds * (2 ^ 54 * 2 ^ n) < 2 ^ (107 + n) := by
      rw [pow_add, show 2 ^ 107 = 2 ^ 53 * 2 ^ 54 by decide, Nat.mul_assoc]
      exact Nat.mul_lt_mul_of_pos_right h (Nat.mul_pos (by decide) (Nat.two_pow_pos n))
    have hlog : (s.seconds * (2 ^ 54 * 2 ^ n)).log2 < 107 + n := by
      rcases Nat.eq_zero_or_pos (s.seconds * (2 ^ 54 * 2 ^ n)) with h0 | hpos
      · rw [h0, Nat.log2_zero]
        omega
      · exact (Nat.log2_lt hpos.ne').2 hlt
    have hd : 2 ^ ((s.seconds * (2 ^ 54 * 2 ^ n)).log2 - 52) ∣ 2 ^ (54 + n) :=
      pow_dvd_pow 2 (by omega)
    rw [pow_add 2 54] at hd
    exact hd.mul_left _
  exact hdvd 1020

/-- The rest is rounded up by less than a nanosecond. -/
theorem restUnits_lt : 2 * s.restUnits * nanosPerSecond ≤
    2 * (s.subsecond * unitsPerOne) + 2 * 2 ^ 1020 * nanosPerSecond := by
  have hle : nearestCode (s.subsecond * unitsPerOne) nanosPerSecond ≤ (1020 + 1 + 2) * binade := by
    rw [show (1020 + 1 + 2) * binade = (2 + 1020) * binade + binade by decide]
    exact s.nearestCode_rest_le
  rw [← pow_succ']
  exact unitsOfCode_nearestCode_le hle

/-- The distance from a magnitude above 2 ^ 53 to the next one is two at least. -/
theorem unitsOfCode_succ_ge {c : Nat} (h : 2 ^ 53 * unitsPerOne < unitsOfCode c) :
    unitsOfCode c + 2 * unitsPerOne ≤ unitsOfCode (c + 1) := by
  have hcode : (55 + 1020) * binade + binade < c := by
    refine unitsOfCode_strictMono.lt_iff_lt.1 (lt_of_eq_of_lt ?_ h)
    rw [unitsOfCode_binade, unitsPerOne_eq, ← Nat.mul_assoc,
      show 2 ^ (52 + 55) = 2 ^ 53 * 2 ^ 54 by decide]
  have hexponent : 55 + 1020 ≤ c / binade - 1 := by
    unfold binade at *
    omega
  have hpow (n : Nat) (hn : 55 + n ≤ c / binade - 1) :
      2 ^ 55 * 2 ^ n ≤ 2 ^ (c / binade - 1) := by
    rw [← pow_add]
    exact Nat.pow_le_pow_right Nat.two_pos hn
  have hstep := hpow 1020 hexponent
  rw [unitsOfCode_succ, unitsPerOne_eq]
  generalize 2 ^ 1020 = w at *
  omega

/-- A magnitude below a span in seconds is at most as many nanoseconds: where the seconds are exact
the rest is off by less than a nanosecond, and elsewhere the rest is less than the distance to the
next magnitude. -/
theorem nanos_le_of_lt {m : Magnitude} (h : m.units < s.magnitude.units) :
    roundDiv (m.units * nanosPerSecond) unitsPerOne ≤ s.nanos := by
  have hcode : m.code < nearestCode (s.wholeUnits + s.restUnits) 1 :=
    unitsOfCode_strictMono.lt_iff_lt.1 h
  have hmid : (m.units + unitsOfCode (m.code + 1)) * 1 ≤ 2 * (s.wholeUnits + s.restUnits) :=
    lt_nearestCode hcode
  have hnext : m.units < unitsOfCode (m.code + 1) := unitsOfCode_strictMono (Nat.lt_succ_self _)
  have hrest := s.restUnits_lt
  have hsub : (s.subsecond + 1) * unitsPerOne ≤ nanosPerSecond * unitsPerOne :=
    Nat.mul_le_mul_right _ s.subsecond_lt
  rw [Nat.add_mul, Nat.one_mul] at hsub
  have hone : unitsPerOne = 2 ^ 54 * 2 ^ 1020 := unitsPerOne_eq
  have hpos : 0 < 2 ^ 1020 := pow_pos Nat.two_pos 1020
  have hgoal : (2 * s.nanos + 1) * unitsPerOne = 2 * nanosPerSecond * (s.seconds * unitsPerOne) +
      2 * (s.subsecond * unitsPerOne) + unitsPerOne := by
    rw [s.nanos_eq]
    ring
  refine roundDiv_le ?_
  rw [hgoal]
  have hbelow : m.units ≤ s.seconds * unitsPerOne + s.restUnits := by
    rcases Nat.lt_or_ge s.seconds (2 ^ 53) with hexact | hlarge
    · rw [s.wholeUnits_eq hexact] at hmid
      omega
    · rcases Nat.lt_or_ge (2 ^ 53 * unitsPerOne) m.units with hm | hm
      · have hgap : m.units + 2 * unitsPerOne ≤ unitsOfCode (m.code + 1) := unitsOfCode_succ_ge hm
        have hwhole : m.units < s.wholeUnits := by
          generalize unitsPerOne = u at *
          generalize 2 ^ 1020 = w at *
          generalize s.subsecond * u = rest at *
          unfold nanosPerSecond at *
          omega
        have hmid' : (m.units + unitsOfCode (m.code + 1)) * 1 ≤ 2 * (s.seconds * unitsPerOne) :=
          lt_nearestCode (unitsOfCode_strictMono.lt_iff_lt.1 hwhole)
        omega
      · exact (hm.trans (Nat.mul_le_mul_right _ hlarge)).trans (Nat.le_add_right ..)
  generalize unitsPerOne = u at *
  generalize 2 ^ 1020 = w at *
  generalize s.seconds * u = whole at *
  generalize s.subsecond * u = rest at *
  unfold nanosPerSecond at *
  omega

/-- A span that is there is more than no seconds. -/
theorem magnitude_pos (h : 0 < s.nanos) : 0 < s.magnitude.units := by
  have hcode {num den : Nat} (hpos : 0 < num / den) : 0 < unitsOfCode (nearestCode num den) :=
    unitsOfCode_strictMono (nearestCode_pos hpos)
  have hone : nanosPerSecond ≤ unitsPerOne := by
    rw [unitsPerOne_eq]
    exact (show nanosPerSecond ≤ 2 ^ 54 by decide).trans
      (Nat.le_mul_of_pos_right _ (pow_pos Nat.two_pos 1020))
  have hsum : 0 < s.wholeUnits + s.restUnits := by
    rcases Nat.eq_zero_or_pos s.seconds with h0 | hseconds
    · have hsub : 0 < s.subsecond := by
        have := s.nanos_eq
        omega
      have hdiv : 0 < s.subsecond * unitsPerOne / nanosPerSecond :=
        Nat.div_pos (hone.trans (Nat.le_mul_of_pos_left _ hsub)) (by decide)
      exact Nat.add_pos_right _ (hcode hdiv)
    · have hdiv : 0 < s.seconds * unitsPerOne / 1 := by
        rw [Nat.div_one]
        exact Nat.mul_pos hseconds ((show 0 < nanosPerSecond by decide).trans_le hone)
      exact Nat.add_pos_left (hcode hdiv) _
  exact hcode (Nat.div_one _ ▸ hsum)

theorem ofBinary64?_finite (m : Magnitude) : ofBinary64? (.finite false m) =
    ofNanos? (roundDiv (m.units * nanosPerSecond) unitsPerOne) := by
  rw [ofBinary64?, if_neg (by simp)]

theorem ofNanos?_max {base top : Span} {n : Nat} (hn : n ≤ top.nanos) (hbase : base ≤ top) :
    ∃ s, (ofNanos? n).map (·.max base) = some s ∧ base ≤ s ∧ s ≤ top := by
  rw [ofNanos?, dif_pos (hn.trans_lt top.nanos_lt)]
  refine ⟨_, rfl, ?_, ?_⟩
  · rw [le_def, max_nanos]
    exact Nat.le_max_right ..
  · rw [le_def, max_nanos]
    exact Nat.max_le.2 ⟨hn, hbase⟩

end Span

/-! ## Order and products -/

namespace Binary64

theorem finite_le_finite {m k : Magnitude} :
    (finite false m).le (finite false k) = true ↔ m.units ≤ k.units := by
  simp [le, rank?]

theorem finite_le_infinite (m : Magnitude) : (finite false m).le (infinite false) = true := by
  simp only [le, rank?, Bool.false_eq_true, if_false, decide_eq_true_eq]
  generalize hn : 2098 = n
  exact Int.ofNat_le.2 (m.units_lt hn.le).le

/-- What is not below one is infinite or finite, and positive. -/
theorem of_one_le {x : Binary64} (h : one.le x = true) :
    x = infinite false ∨ ∃ k, x = finite false k := by
  have hone : 0 < Magnitude.one.units := by decide +kernel
  cases x with
  | nan negative => cases h
  | infinite negative =>
    cases negative with
    | false => exact .inl rfl
    | true =>
      simp only [le, one, rank?, Bool.false_eq_true, if_false, if_true, decide_eq_true_eq] at h
      omega
  | finite negative k =>
    cases negative with
    | false => exact .inr ⟨k, rfl⟩
    | true =>
      simp only [le, one, rank?, Bool.false_eq_true, if_false, if_true, decide_eq_true_eq] at h
      omega

/-- A product of positive numbers is infinite or finite, and positive. -/
theorem mul_of_one_le {m : Magnitude} {x : Binary64} (hm : 0 < m.units) (h : one.le x = true) :
    (finite false m).mul x = infinite false ∨ ∃ k, (finite false m).mul x = finite false k := by
  rcases of_one_le h with rfl | ⟨k, rfl⟩
  · exact .inl (if_neg hm.ne')
  · have hmul : (finite false m).mul (finite false k) =
        ofUnits false (m.units * k.units) unitsPerOne := by
      rw [mul, bne_self_eq_false]
    rw [hmul]
    rcases Nat.lt_or_ge (nearestCode (m.units * k.units) unitsPerOne) codes with hlt | hge
    · exact .inr ⟨_, ofUnits_of_lt hlt⟩
    · exact .inl (ofUnits_of_ge hge)

end Binary64

namespace Backoff.Exponential

variable {b : Exponential}

/-- The settings pass their check, and the interval lies between the first and the greatest. -/
structure Kept (b : Exponential) : Prop where
  checked : b.settings.check = .ok ()
  initial_le : b.settings.initialInterval ≤ b.current
  le_max : b.current ≤ b.settings.maxInterval

theorem fresh_kept {s : Settings} (h : s.check = .ok ()) : (fresh s).Kept :=
  ⟨h, Nat.le_refl _, (Settings.check_eq_ok.1 h).2.2.2⟩

theorem grown?_eq : b.grown? =
    if (Binary64.finite false b.settings.maxInterval.magnitude).le b.product then
      some b.settings.maxInterval
    else (Span.ofBinary64? b.product).map (·.max b.current) := by
  rw [← Span.toBinary64_eq]
  rfl

theorem Kept.pos (K : b.Kept) : 0 < b.current.nanos :=
  Nat.lt_of_lt_of_le (Settings.check_eq_ok.1 K.checked).1 K.initial_le

/-- A product that does not reach the greatest interval is finite. -/
theorem Kept.product_below (K : b.Kept)
    (h : ¬(Binary64.finite false b.settings.maxInterval.magnitude).le b.product = true) :
    ∃ k, b.product = .finite false k ∧ k.units < b.settings.maxInterval.magnitude.units := by
  obtain ⟨-, hmultiplier, -, -⟩ := Settings.check_eq_ok.1 K.checked
  have hproduct := Binary64.mul_of_one_le (b.current.magnitude_pos K.pos) hmultiplier
  rw [← Span.toBinary64_eq] at hproduct
  change b.product = _ ∨ ∃ k, b.product = _ at hproduct
  rcases hproduct with hp | ⟨k, hp⟩
  · rw [hp] at h
    exact absurd (Binary64.finite_le_infinite _) h
  · rw [hp, Binary64.finite_le_finite, Nat.not_le] at h
    exact ⟨k, hp, h⟩

/-- There is always a next interval, and it is neither below the interval nor above the greatest. -/
theorem Kept.grown? (K : b.Kept) : ∃ interval, b.grown? = some interval ∧ b.current ≤ interval ∧
    interval ≤ b.settings.maxInterval := by
  rw [b.grown?_eq]
  split
  next => exact ⟨_, rfl, K.le_max, Nat.le_refl _⟩
  next hbelow =>
    obtain ⟨k, hp, hlt⟩ := K.product_below hbelow
    rw [hp, Span.ofBinary64?_finite]
    exact Span.ofNanos?_max (Span.nanos_le_of_lt _ hlt) K.le_max

/-- A backoff is exhausted for its attempts or for its time. -/
theorem isExhausted_iff {clock : Nat} :
    b.isExhausted clock = true ↔
      (∃ most, b.settings.maxAttempts = some most ∧ most ≤ b.attempts) ∨
        ∃ most start, b.settings.maxElapsedTime = some most ∧ b.startedAt = some start ∧
          most.nanos < clock - start := by
  unfold isExhausted
  cases b.settings.maxAttempts <;> cases b.settings.maxElapsedTime <;> cases b.startedAt <;> simp

/-- An answer of a backoff that is kept. Its next interval is never wanting, only its wait may be;
then nothing but the time of the first question has changed. -/
theorem Kept.next_cases (K : b.Kept) (clock : Nat) (draw : Binary64) :
    ((b.asked clock).isExhausted clock = true ∧
        b.next clock draw = (.exhausted, b.asked clock)) ∨
      ((b.asked clock).isExhausted clock = false ∧ ∃ wait interval,
        randomized? b.current b.settings.randomizationFactor draw = some wait ∧
        b.grown? = some interval ∧ b.current ≤ interval ∧ interval ≤ b.settings.maxInterval ∧
        b.next clock draw = (.retryAfter wait,
          { b.asked clock with attempts := b.attempts + 1, current := interval })) ∨
      ((b.asked clock).isExhausted clock = false ∧
        randomized? b.current b.settings.randomizationFactor draw = none ∧
        b.next clock draw = (.overflow, b.asked clock)) := by
  obtain ⟨interval, hgrown, hle, hmax⟩ := K.grown?
  rcases b.next_cases clock draw with h | ⟨hex, wait, interval', hw, hg, hn⟩ | h | ⟨-, hg, -⟩
  · exact .inl h
  · cases hgrown.symm.trans hg
    exact .inr (.inl ⟨hex, wait, interval, hw, hgrown, hle, hmax, hn⟩)
  · exact .inr (.inr h)
  · cases hgrown.symm.trans hg

/-- With nothing random about the waits, a backoff that is not exhausted waits for its interval. -/
theorem Kept.next (K : b.Kept) (hfactor : b.settings.randomizationFactor.eq .zero = true)
    (clock : Nat) (draw : Binary64) :
    ((b.asked clock).isExhausted clock = true ∧ b.next clock draw = (.exhausted, b.asked clock)) ∨
      ((b.asked clock).isExhausted clock = false ∧ ∃ interval,
        b.next clock draw = (.retryAfter b.current,
          { b.asked clock with attempts := b.attempts + 1, current := interval }) ∧
        Kept { b.asked clock with attempts := b.attempts + 1, current := interval }) := by
  have hwait : randomized? b.current b.settings.randomizationFactor draw = some b.current :=
    if_pos hfactor
  rcases K.next_cases clock draw with h | ⟨hex, wait, interval, hw, -, hle, hmax, hn⟩ | ⟨-, hw, -⟩
  · exact .inl h
  · cases hwait.symm.trans hw
    exact .inr ⟨hex, interval, hn, K.checked, Nat.le_trans K.initial_le hle, hmax⟩
  · cases hwait.symm.trans hw

end Backoff.Exponential

end CredentialKeeper
