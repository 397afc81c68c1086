import CredentialKeeper.Refresh.Settings
import Mathlib.Tactic.SplitIfs

/-! # What settings meet that pass their checks -/

namespace CredentialKeeper

theorem Span.not_isZero {s : Span} : ¬s.isZero = true ↔ 0 < s.nanos := by
  rw [Span.isZero_iff, Nat.pos_iff_ne_zero]

theorem Backoff.Settings.check_eq_ok {s : Backoff.Settings} :
    s.check = .ok () ↔ 0 < s.initialInterval.nanos ∧ Binary64.one.le s.multiplier = true ∧
      (Binary64.zero.le s.randomizationFactor && s.randomizationFactor.lt .one) = true ∧
      s.initialInterval ≤ s.maxInterval := by
  have hle : s.initialInterval ≤ s.maxInterval ↔ ¬s.maxInterval < s.initialInterval := by
    simp only [Span.le_def, Span.lt_def, Nat.not_lt]
  rw [hle, ← Span.not_isZero, check]
  split_ifs with hzero hm hr hmax
  · exact ⟨nofun, fun h => absurd hzero h.1⟩
  · exact ⟨nofun, fun h => by simp [h.2.1] at hm⟩
  · exact ⟨nofun, fun h => by simp [h.2.2.1] at hr⟩
  · exact ⟨nofun, fun h => absurd hmax h.2.2.2⟩
  · exact ⟨fun _ => ⟨hzero, by simpa using hm, by simpa using hr, hmax⟩, fun _ => rfl⟩

theorem Refresh.Settings.check_eq_ok {s : Refresh.Settings} :
    s.check = .ok () ↔ 0 < s.startupRetryDelay.nanos ∧ 0 < s.minRefreshInterval.nanos ∧
      0 < s.renewTimeout.nanos ∧ (∀ i, s.refreshInterval = some i → 0 < i.nanos) ∧
      s.backoff.check = .ok () := by
  have hany : (∀ i, s.refreshInterval = some i → 0 < i.nanos) ↔
      ¬s.refreshInterval.any Span.isZero = true := by
    cases s.refreshInterval with
    | none => simp
    | some i => simpa using Span.not_isZero.symm
  rw [hany]
  simp only [← Span.not_isZero]
  rw [check]
  split_ifs with hdelay hmin htimeout hinterval
  · exact ⟨nofun, fun h => absurd hdelay h.1⟩
  · exact ⟨nofun, fun h => absurd hmin h.2.1⟩
  · exact ⟨nofun, fun h => absurd htimeout h.2.2.1⟩
  · exact ⟨nofun, fun h => absurd hinterval h.2.2.2.1⟩
  · cases s.backoff.check with
    | ok _ => exact ⟨fun _ => ⟨hdelay, hmin, htimeout, hinterval, rfl⟩, fun _ => rfl⟩
    | error e => exact ⟨nofun, fun h => nomatch h.2.2.2.2⟩

end CredentialKeeper
