/-!
# Arithmetic modulo a number
-/

namespace CredentialKeeper.Modular

/-- A power modulo a number, by repeated squaring. -/
def pow (base exponent modulus : Nat) : Nat :=
  if exponent = 0 then 1 % modulus
  else
    let half := pow (base * base % modulus) (exponent / 2) modulus
    if exponent % 2 = 1 then base * half % modulus else half
termination_by exponent
decreasing_by omega

theorem pow_eq (base exponent modulus : Nat) :
    pow base exponent modulus = Nat.pow base exponent % modulus := by
  rw [Nat.pow_eq]
  induction exponent using Nat.strongRecOn generalizing base with
  | ind exponent ih =>
    rw [pow]
    split
    next h => rw [h, Nat.pow_zero]
    next h =>
      have hhalf : pow (base * base % modulus) (exponent / 2) modulus =
          base ^ (2 * (exponent / 2)) % modulus := by
        rw [ih _ (Nat.div_lt_self (Nat.pos_of_ne_zero h) (by decide)), ← Nat.pow_mod, Nat.pow_mul,
          Nat.pow_two]
      simp only [hhalf]
      split
      next hodd =>
        rw [Nat.mul_mod_mod, ← Nat.pow_succ']
        congr 2
        omega
      next heven =>
        congr 2
        omega

/-- A difference modulo a number that is greater than the subtrahend. -/
def sub (a b modulus : Nat) : Nat := (a + (modulus - b % modulus)) % modulus

def inverse (a prime : Nat) : Nat := pow (a % prime) (prime - 2) prime

end CredentialKeeper.Modular
