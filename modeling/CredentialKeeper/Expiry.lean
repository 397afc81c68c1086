import CredentialKeeper.Time.Moment

/-!
# Expiry

When a credential is due for renewal. A credential is due once its expiry lies no further ahead
than the lookahead (`isDue`); `renewDelay` is the wait until then.
-/

namespace CredentialKeeper

/-- The expiry falls at or before `now + lookahead`. A lookahead that leads past the last moment
covers every expiry. -/
def isDue (expiresAt now : Moment) (lookahead : Span) : Bool :=
  match now.add? lookahead with
  | some deadline => decide (expiresAt ≤ deadline)
  | none => true

structure ExpiryPolicy where
  lookahead : Span
deriving DecidableEq

namespace ExpiryPolicy

def shouldRenew (p : ExpiryPolicy) (expiresAt now : Moment) : Bool :=
  isDue expiresAt now p.lookahead

/-- The wait from `now` until the credential is due, none if it is due already. -/
def renewDelay (p : ExpiryPolicy) (expiresAt now : Moment) : Span :=
  match expiresAt.sub? p.lookahead with
  | some renewAt => renewAt.since now
  | none => Span.zero

end ExpiryPolicy

end CredentialKeeper
