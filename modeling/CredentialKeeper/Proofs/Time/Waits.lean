import CredentialKeeper.Manager.Task
import CredentialKeeper.Proofs.Time.Moments
import Mathlib.Order.Bounds.Basic

/-! # Waits on timers of whole milliseconds

`EndsWait t wait u` says without the clock's arithmetic when a wait ends: at the first whole
millisecond that is not before its end, or the first one thirty years on if the clock cannot count
so far. This is the only place where instants are rounded. `tickAfter` is that millisecond
(`tickAfter_endsWait`), and there is only one (`EndsWait.unique`).

The wait before a credential is renewed is a maximum of a minimum of a difference
(`renewalWait`), whatever the saturating steps between moments make of it on the way
(`Task.scheduledDelay_nanos`). -/

namespace CredentialKeeper

/-- The clock can count up to the end of a wait of so many nanoseconds. -/
def clockReaches (t wait : Nat) : Prop :=
  wait / nanosPerSecond < 9223372036854775807 - t / nanosPerSecond

instance (t wait : Nat) : Decidable (clockReaches t wait) :=
  inferInstanceAs (Decidable (_ < _))

theorem clockReaches_mono {t u wait : Nat} (h : clockReaches u wait) (hle : t ≤ u) :
    clockReaches t wait := by
  unfold clockReaches nanosPerSecond at *
  omega

theorem tickFrom_isLeast (t : Nat) : IsLeast { v | t ≤ v ∧ 1000000 ∣ v } (tickFrom t) := by
  refine ⟨⟨?_, Nat.dvd_mul_left ..⟩, ?_⟩
  · unfold tickFrom
    omega
  · rintro v ⟨hle, k, rfl⟩
    unfold tickFrom
    omega

theorem tickFrom_lt (t : Nat) : tickFrom t < t + 1000000 := by
  unfold tickFrom
  omega

/-- `u` is the instant at which a wait of so many nanoseconds from `t` on ends. -/
structure EndsWait (t wait u : Nat) : Prop where
  first : clockReaches t wait → IsLeast { v | t + wait ≤ v ∧ 1000000 ∣ v } u
  beyond : ¬clockReaches t wait → IsLeast { v | t + thirtyYears ≤ v ∧ 1000000 ∣ v } u

theorem tickAfter_endsWait (t : Nat) (wait : Span) : EndsWait t wait.nanos (tickAfter t wait) where
  first h := by
    have htick : tickAfter t wait = tickFrom (t + wait.nanos) := if_pos h
    exact htick ▸ tickFrom_isLeast _
  beyond h := by
    have htick : tickAfter t wait = tickFrom (t + thirtyYears) := if_neg h
    exact htick ▸ tickFrom_isLeast _

namespace EndsWait

variable {t wait u v : Nat}

theorem unique (hu : EndsWait t wait u) (hv : EndsWait t wait v) : u = v := by
  by_cases h : clockReaches t wait
  · exact (hu.first h).unique (hv.first h)
  · exact (hu.beyond h).unique (hv.beyond h)

/-- A wait never ends before its end, but for the thirty years. -/
theorem min_le (h : EndsWait t wait u) : t + min wait thirtyYears ≤ u := by
  by_cases hc : clockReaches t wait
  · have hle : t + wait ≤ u := (h.first hc).1.1
    omega
  · have hle : t + thirtyYears ≤ u := (h.beyond hc).1.1
    omega

theorem le (h : EndsWait t wait u) : t ≤ u := by
  have := h.min_le
  omega

/-- Waits end on whole milliseconds. -/
theorem dvd (h : EndsWait t wait u) : 1000000 ∣ u := by
  by_cases hc : clockReaches t wait
  · exact (h.first hc).1.2
  · exact (h.beyond hc).1.2

/-- A wait that the clock can count ends less than a millisecond late. -/
theorem lt_add (h : EndsWait t wait u) (hc : clockReaches t wait) : u < t + wait + 1000000 :=
  (h.first hc).unique (tickFrom_isLeast _) ▸ tickFrom_lt _

/-- On a clock that can count thirty years more no wait ends later than that: one that is cut short
is longer than thirty years. -/
theorem lt_add_of_thirtyYears (h : EndsWait t wait u) (hc : clockReaches t thirtyYears) :
    u < t + wait + 1000000 := by
  by_cases hw : clockReaches t wait
  · exact h.lt_add hw
  · have hu : u < t + thirtyYears + 1000000 :=
      (h.beyond hw).unique (tickFrom_isLeast _) ▸ tickFrom_lt _
    unfold clockReaches nanosPerSecond at *
    omega

end EndsWait

/-! ## The wait before a renewal -/

/-- The wait in nanoseconds before a credential is renewed: until its expiry is no more than the
lookahead away, no longer than the refresh interval, and no shorter than the least interval. -/
def renewalWait (s : Refresh.Settings) (expiresAt now : Moment) : Nat :=
  let due := (expiresAt.nanos - s.lookahead.nanos - now.nanos).toNat
  max s.minRefreshInterval.nanos <|
    match s.refreshInterval with
    | some cap => min cap.nanos due
    | none => due

theorem le_renewalWait (s : Refresh.Settings) (expiresAt now : Moment) :
    s.minRefreshInterval.nanos ≤ renewalWait s expiresAt now := Nat.le_max_left ..

/-- Neither the cap nor a floor that the expiry leaves room for delays a renewal beyond the
lookahead. -/
theorem renewalWait_le {s : Refresh.Settings} {expiresAt now : Moment}
    (h : now.nanos + s.lookahead.nanos + s.minRefreshInterval.nanos ≤ expiresAt.nanos) :
    now.nanos + s.lookahead.nanos + renewalWait s expiresAt now ≤ expiresAt.nanos := by
  simp only [renewalWait]
  split <;> omega

theorem Manager.Task.scheduledDelay_nanos (s : Refresh.Settings) (expiresAt now : Moment) :
    (scheduledDelay s expiresAt now).nanos = renewalWait s expiresAt now := by
  unfold scheduledDelay renewalWait
  cases s.refreshInterval with
  | none => simp only [Span.max_nanos, ExpiryPolicy.renewDelay_nanos]; exact Nat.max_comm ..
  | some cap =>
    simp only [Span.max_nanos, Span.min_nanos, ExpiryPolicy.renewDelay_nanos]
    rw [Nat.max_comm, Nat.min_comm]

end CredentialKeeper
