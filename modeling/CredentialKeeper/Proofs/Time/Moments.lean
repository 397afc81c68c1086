import CredentialKeeper.Expiry

/-! # Sums and differences of moments

A span that is longer than any step between moments is cut to the longest step. That still leads out
of the moments from wherever it starts, as the span itself does (`Moment.step_cases`). So a sum is
the plain sum of the numbers, or it has none for lying past the last moment
(`Moment.add?_eq_some_iff`, `Moment.add?_eq_none_iff`), and a difference likewise. A credential is
therefore due by the plain comparison (`isDue_iff`), and the delay until then is the plain
difference (`ExpiryPolicy.renewDelay_nanos`). -/

namespace CredentialKeeper

namespace Moment

variable {m m' : Moment} {s : Span} {n : Int}

theorem first_nanos : first.nanos = -8334601228800000000000 := rfl

theorem last_nanos : last.nanos = 8210266876799999999999 := rfl

theorem ofNanos?_of_mem (h : first.nanos ≤ n) (h' : n ≤ last.nanos) :
    ∃ m, ofNanos? n = some m ∧ m.nanos = n := ⟨_, dif_pos ⟨h, h'⟩, rfl⟩

theorem ofNanos?_eq_some_iff : ofNanos? n = some m ↔ m.nanos = n := by
  constructor
  · intro h
    unfold ofNanos? at h
    split at h
    · cases h
      rfl
    · cases h
  · rintro rfl
    exact dif_pos ⟨m.ge_first, m.le_last⟩

theorem ofNanos?_eq_none_iff : ofNanos? n = none ↔ n < first.nanos ∨ last.nanos < n := by
  rw [← Int.not_le, ← Int.not_le, ← Decidable.not_and_iff_not_or_not]
  unfold ofNanos?
  split <;> simp_all

/-- A step that is cut is longer than the range of moments. -/
theorem step_cases (s : Span) :
    step s = s.nanos ∨ step s ≤ s.nanos ∧ last.nanos < first.nanos + step s := by
  rw [first_nanos, last_nanos]
  unfold step longestStep
  split
  next => exact .inl rfl
  next => omega

theorem add?_eq_none_iff : m.add? s = none ↔ last.nanos < m.nanos + s.nanos := by
  have hfirst : first.nanos ≤ m.nanos := m.ge_first
  have hstep := step_cases s
  rw [add?, ofNanos?_eq_none_iff]
  omega

theorem sub?_eq_none_iff : m.sub? s = none ↔ m.nanos - s.nanos < first.nanos := by
  have hlast : m.nanos ≤ last.nanos := m.le_last
  have hstep := step_cases s
  rw [sub?, ofNanos?_eq_none_iff]
  omega

theorem add?_eq_some_iff : m.add? s = some m' ↔ m'.nanos = m.nanos + s.nanos := by
  have hfirst : first.nanos ≤ m.nanos := m.ge_first
  have hlast : m'.nanos ≤ last.nanos := m'.le_last
  have hstep := step_cases s
  rw [add?, ofNanos?_eq_some_iff]
  omega

theorem sub?_eq_some_iff : m.sub? s = some m' ↔ m'.nanos = m.nanos - s.nanos := by
  have hfirst : first.nanos ≤ m'.nanos := m'.ge_first
  have hlast : m.nanos ≤ last.nanos := m.le_last
  have hstep := step_cases s
  rw [sub?, ofNanos?_eq_some_iff]
  omega

end Moment

/-- A credential is due if it expires at `now + lookahead` or before, wherever this sum lies. -/
theorem isDue_iff {expiresAt now : Moment} {lookahead : Span} :
    isDue expiresAt now lookahead = true ↔ expiresAt.nanos ≤ now.nanos + lookahead.nanos := by
  unfold isDue
  cases hadd : now.add? lookahead with
  | none =>
    have hlast : expiresAt.nanos ≤ Moment.last.nanos := expiresAt.le_last
    have hpast := Moment.add?_eq_none_iff.1 hadd
    exact iff_of_true rfl (by omega)
  | some deadline =>
    rw [← Moment.add?_eq_some_iff.1 hadd]
    exact decide_eq_true_iff

/-- A difference that has no value is one that lies before every moment. -/
theorem ExpiryPolicy.renewDelay_nanos (p : ExpiryPolicy) (expiresAt now : Moment) :
    (p.renewDelay expiresAt now).nanos =
      (expiresAt.nanos - p.lookahead.nanos - now.nanos).toNat := by
  unfold renewDelay
  cases hsub : expiresAt.sub? p.lookahead with
  | none =>
    have hfirst : Moment.first.nanos ≤ now.nanos := now.ge_first
    have hpast := Moment.sub?_eq_none_iff.1 hsub
    exact (Int.toNat_of_nonpos (by omega)).symm
  | some renewAt =>
    rw [← Moment.sub?_eq_some_iff.1 hsub]
    rfl

end CredentialKeeper
