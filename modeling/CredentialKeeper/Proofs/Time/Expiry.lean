import CredentialKeeper.Apns.CertificateInfo
import CredentialKeeper.Credential
import CredentialKeeper.Proofs.Time.Moments

/-! # Expiry in plain numbers

The checks of an expiry are one comparison, `expiresAt ≤ now + span` in whole nanoseconds
(`ComparesExactly`), whichever way each of them takes around the ends of the range of moments. The
delay of a renewal is the other side of this comparison: the least wait until it holds
(`ExpiryPolicy.renewDelay_least_wait`). -/

namespace CredentialKeeper

namespace ExpiryPolicy

variable {p : ExpiryPolicy} {expiresAt now : Moment}

theorem shouldRenew_iff :
    p.shouldRenew expiresAt now = true ↔ expiresAt.nanos ≤ now.nanos + p.lookahead.nanos :=
  isDue_iff

theorem renewDelay_eq_zero_iff :
    p.renewDelay expiresAt now = .zero ↔ expiresAt.nanos ≤ now.nanos + p.lookahead.nanos := by
  rw [Span.ext_iff, renewDelay_nanos, Span.zero_nanos]
  omega

/-- A credential falls due at its expiry if not before, so the wait for it ends within the range of
moments. -/
theorem exists_due (p : ExpiryPolicy) (expiresAt now : Moment) :
    ∃ due, now.add? (p.renewDelay expiresAt now) = some due := by
  cases hadd : now.add? (p.renewDelay expiresAt now) with
  | some due => exact ⟨due, rfl⟩
  | none =>
    have hnow : now.nanos ≤ Moment.last.nanos := now.le_last
    have hlast : expiresAt.nanos ≤ Moment.last.nanos := expiresAt.le_last
    have hpast := Moment.add?_eq_none_iff.1 hadd
    have hdelay := p.renewDelay_nanos expiresAt now
    omega

/-- **The delay is the least wait until a renewal is due.** It is what is left of the time up to the
expiry when the lookahead is taken off, and nothing if less than nothing is left. The wait ends at a
moment; from then on the credential is due and at no moment before. So a credential is due just if
the delay is zero, and the delay shrinks by each wait, down to zero. -/
theorem renewDelay_least_wait (p : ExpiryPolicy) (expiresAt now : Moment) :
    ((p.renewDelay expiresAt now).nanos : Int) =
        max 0 (expiresAt.nanos - p.lookahead.nanos - now.nanos) ∧
    (∃ due, now.add? (p.renewDelay expiresAt now) = some due ∧
      due.nanos = now.nanos + (p.renewDelay expiresAt now).nanos ∧
      p.shouldRenew expiresAt due = true ∧
      ∀ m, now ≤ m → m < due → p.shouldRenew expiresAt m = false) ∧
    (p.shouldRenew expiresAt now = true ↔ p.renewDelay expiresAt now = .zero) ∧
    ∀ (wait : Span) (later : Moment), later.nanos = now.nanos + wait.nanos →
      ((p.renewDelay expiresAt later).nanos : Int) =
        max 0 (((p.renewDelay expiresAt now).nanos : Int) - wait.nanos) := by
  have hdelay := p.renewDelay_nanos expiresAt now
  refine ⟨by omega, ?_, ?_, ?_⟩
  · obtain ⟨due, hadd⟩ := p.exists_due expiresAt now
    have hdue := Moment.add?_eq_some_iff.1 hadd
    refine ⟨due, hadd, hdue, ?_, ?_⟩
    · rw [shouldRenew_iff]
      omega
    · intro m hm hlt
      rw [Moment.le_def] at hm
      rw [Moment.lt_def] at hlt
      rw [← Bool.not_eq_true, shouldRenew_iff]
      omega
  · rw [shouldRenew_iff, renewDelay_eq_zero_iff]
  · intro wait later hlater
    rw [renewDelay_nanos]
    omega

/-- At the first moment the longest lookahead covers the last one. Without a lookahead the wait for
the last moment is as long as the moments reach, and at the epoch it is shorter by the time since
the first moment. -/
theorem renewDelay_of_last :
    ((mk (.ofSeconds 18446744073709551615)).renewDelay .last .first).nanos = (0 : Int) ∧
    Moment.epoch.nanos = Moment.first.nanos + (Moment.epoch.since .first).nanos ∧
    ((mk .zero).renewDelay .last .epoch).nanos = (8210266876799999999999 : Int) := by
  have hepoch : Moment.epoch.nanos = Moment.first.nanos + (Moment.epoch.since .first).nanos := rfl
  obtain ⟨hlong, -⟩ := renewDelay_least_wait ⟨.ofSeconds 18446744073709551615⟩ .last .first
  obtain ⟨hwhole, -, -, hless⟩ := renewDelay_least_wait ⟨.zero⟩ .last .first
  have hrest := hless _ _ hepoch
  rw [hwhole] at hrest
  exact ⟨hlong.trans (by decide), hepoch, hrest.trans (by decide)⟩

end ExpiryPolicy

/-! ## One comparison -/

/-- A check of an expiry at a time, with some span to spare, is the comparison of the plain numbers.
So it stays true at a later time, with more to spare and for an earlier expiry. -/
structure ComparesExactly (check : Moment → Moment → Span → Bool) : Prop where
  iff : ∀ {expiresAt now span},
    check expiresAt now span = true ↔ expiresAt.nanos ≤ now.nanos + span.nanos
  mono : ∀ {expiresAt expiresAt' now now' span span'}, expiresAt' ≤ expiresAt → now ≤ now' →
    span ≤ span' → check expiresAt now span = true → check expiresAt' now' span' = true

namespace ComparesExactly

variable {check : Moment → Moment → Span → Bool}

theorem of_iff (h : ∀ {expiresAt now span},
    check expiresAt now span = true ↔ expiresAt.nanos ≤ now.nanos + span.nanos) :
    ComparesExactly check where
  iff := h
  mono hexpiry hnow hspan hcheck := by
    rw [Moment.le_def] at hexpiry hnow
    rw [Span.le_def] at hspan
    rw [h] at hcheck ⊢
    omega

/-- With nothing to spare the check says whether the expiry has come. -/
theorem zero (C : ComparesExactly check) (expiresAt now : Moment) :
    check expiresAt now .zero = decide (expiresAt ≤ now) := by
  rw [Bool.eq_iff_iff, C.iff, decide_eq_true_iff, Moment.le_def, Span.zero_nanos]
  omega

end ComparesExactly

namespace Credential

variable {α : Type} {k : Credential α} {now : Moment}

theorem remaining_eq_zero_iff : k.remaining now = .zero ↔ k.isExpired now = true := by
  rw [Span.ext_iff, remaining, Moment.since_nanos, Span.zero_nanos, isExpired, decide_eq_true_iff,
    Moment.le_def]
  omega

theorem remaining_eq_renewDelay :
    k.remaining now = (ExpiryPolicy.mk .zero).renewDelay k.expiresAt now := by
  rw [Span.ext_iff, ExpiryPolicy.renewDelay_nanos, remaining, Moment.since_nanos, Span.zero_nanos]
  omega

end Credential

/-- **All checks of an expiry are one comparison.** That of a renewal, with a policy or without, and
that of a certificate are true just if the expiry is no later than the time with the span added to
it, as plain numbers. Without a span they say whether a certificate or a credential with this expiry
has expired. What remains of a credential is the time up to its expiry; it is zero just if the
credential has expired, and it is the delay of a renewal without a lookahead. -/
theorem expiry_checks_agree {α : Type} (c : Apns.CertificateInfo) (k : Credential α) :
    ComparesExactly isDue ∧
    ComparesExactly (fun expiresAt now span => (ExpiryPolicy.mk span).shouldRenew expiresAt now) ∧
    ComparesExactly (fun notAfter now span => { c with notAfter }.willExpireWithin span now) ∧
    ∀ expiry now : Moment,
      let certificate : Apns.CertificateInfo := { c with notAfter := expiry }
      let credential : Credential α := { k with expiresAt := expiry }
      (isDue expiry now .zero = credential.isExpired now ∧
        (ExpiryPolicy.mk .zero).shouldRenew expiry now = credential.isExpired now ∧
        certificate.willExpireWithin .zero now = credential.isExpired now ∧
        certificate.isExpired now = credential.isExpired now) ∧
      ((credential.remaining now).nanos : Int) = max 0 (expiry.nanos - now.nanos) ∧
      (credential.remaining now = .zero ↔ credential.isExpired now = true) ∧
      credential.remaining now = (ExpiryPolicy.mk .zero).renewDelay expiry now := by
  have hdue : ComparesExactly isDue := .of_iff isDue_iff
  refine ⟨hdue, .of_iff isDue_iff, .of_iff isDue_iff, fun expiry now => ?_⟩
  have hzero : isDue expiry now .zero = decide (expiry ≤ now) := hdue.zero expiry now
  refine ⟨⟨hzero, hzero, hzero, rfl⟩, ?_, Credential.remaining_eq_zero_iff,
    Credential.remaining_eq_renewDelay⟩
  exact (Int.toNat_eq_max _).trans (Int.max_comm ..)

end CredentialKeeper
