import CredentialKeeper.Crypto.Rsa
import CredentialKeeper.Proofs.X509.Dates
import Mathlib.FieldTheory.Finite.Basic
import Mathlib.NumberTheory.LucasPrimality

/-! # Signatures

What a checked key signs holds with its public half, also as the bytes that are handed out
(`Rsa.PrivateKey.sign?_holds`): a power is below the product of the primes, and the size of the
modulus has room for that, since each of the primes has half of its bits.

A key whose parts belong together (`Rsa.PrivateKey.Sound`) signs every message
(`Rsa.PrivateKey.exists_sign?`). By Fermat's theorem the power of the signature is the padded hash
modulo each prime, so it is the hash itself, which is below the modulus as it begins with a zero
byte. -/

namespace CredentialKeeper

/-! ## Numbers as bytes -/

namespace Sha2.Variant

theorem ofBytes_append_singleton (bytes : List UInt8) (b : UInt8) :
    ofBytes (bytes ++ [b]) = ofBytes bytes * 256 + b.toNat := by
  rw [ofBytes, List.foldl_append]
  rfl

theorem ofBytes_lt (bytes : List UInt8) : ofBytes bytes < Nat.pow 256 bytes.length := by
  induction bytes using List.reverseRecOn with
  | nil => exact Nat.one_pos
  | append_singleton bytes b ih =>
    have hb := b.toNat_lt
    have hpow : Nat.pow 256 (bytes.length + 1) = Nat.pow 256 bytes.length * 256 := Nat.pow_succ ..
    rw [ofBytes_append_singleton, List.length_append, List.length_singleton, hpow]
    omega

theorem toBytes_succ (count n : Nat) :
    toBytes (count + 1) n = toBytes count (n / 256) ++ [UInt8.ofNat n] := by
  have hpow : ∀ i ∈ List.range count,
      UInt8.ofNat (n / Nat.pow 256 (count + 1 - 1 - i)) =
        UInt8.ofNat (n / 256 / Nat.pow 256 (count - 1 - i)) := by
    intro i hi
    have hlt := List.mem_range.1 hi
    rw [show count + 1 - 1 - i = (count - 1 - i) + 1 by omega, Nat.div_div_eq_div_mul]
    exact congrArg (fun m => UInt8.ofNat (n / m)) Nat.pow_succ'
  rw [toBytes, List.range_succ, List.map_append, List.map_congr_left hpow, List.map_singleton,
    Nat.add_sub_cancel, Nat.sub_self]
  exact congrArg (fun m => toBytes count (n / 256) ++ [UInt8.ofNat m]) (Nat.div_one n)

@[simp] theorem length_toBytes (count n : Nat) : (toBytes count n).length = count := by
  rw [toBytes, List.length_map, List.length_range]

/-- The lowest bytes of a number write its remainder. -/
theorem ofBytes_toBytes (count n : Nat) : ofBytes (toBytes count n) = n % Nat.pow 256 count := by
  induction count generalizing n with
  | zero => exact (Nat.mod_one n).symm
  | succ count ih =>
    have hbyte : (UInt8.ofNat n).toNat = n % 256 := UInt8.toNat_ofNat'
    have hpow : Nat.pow 256 (count + 1) = 256 * Nat.pow 256 count := Nat.pow_succ'
    rw [toBytes_succ, ofBytes_append_singleton, ih, hbyte, hpow, Nat.mod_mul]
    omega

/-! ## The length of a hash -/

variable (v : Variant)

theorem length_initialState : v.initialState.length = 8 := by
  have hprimes : (primes.take 8).length = 8 := by decide +kernel
  rw [initialState, List.length_map, hprimes]

theorem length_round {state : List v.Word} (h : state.length = 8) (constant word : v.Word) :
    (v.round state constant word).length = 8 := by
  unfold round
  split
  next => rfl
  next => exact h

/-- Steps that keep the number of words keep it from the first to the last. -/
theorem length_foldl {α : Type} {f : List v.Word → α → List v.Word}
    (hf : ∀ state a, state.length = 8 → (f state a).length = 8) (l : List α) {state : List v.Word}
    (h : state.length = 8) : (l.foldl f state).length = 8 := by
  induction l generalizing state with
  | nil => exact h
  | cons a l ih => exact ih (hf state a h)

theorem length_mix {state : List v.Word} (h : state.length = 8) (constants block : List v.Word) :
    (v.mix constants state block).length = 8 := by
  have hmixed := v.length_foldl (fun state (p : v.Word × v.Word) hstate =>
    v.length_round hstate p.1 p.2) (constants.zip (v.schedule block)) h
  rw [mix, List.length_zipWith, h, hmixed, Nat.min_self]

theorem length_hash (message : List UInt8) : (v.hash message).length = 8 * v.wordBytes := by
  unfold hash
  extract_lets padded words state
  have hlength : state.length = 8 := by
    apply v.length_foldl _ _ v.length_initialState
    intro state block hstate
    exact v.length_mix hstate v.roundConstants block
  simp only [List.length_flatMap, length_toBytes, List.map_const', List.sum_replicate, hlength,
    smul_eq_mul]

end Sha2.Variant

/-! ## Powers -/

namespace Modular

theorem pow_lt {modulus : Nat} (h : 0 < modulus) (base exponent : Nat) :
    pow base exponent modulus < modulus := by
  rw [pow_eq]
  exact Nat.mod_lt _ h

theorem pow_modEq (base exponent modulus : Nat) :
    Nat.ModEq modulus (pow base exponent modulus) (base ^ exponent) := by
  rw [pow_eq]
  exact Nat.mod_modEq ..

theorem add_sub_modEq {modulus : Nat} (h : 0 < modulus) (a b : Nat) :
    Nat.ModEq modulus (b + sub a b modulus) a := by
  have hlt := Nat.mod_lt b h
  have hsum : b + (a + (modulus - b % modulus)) = a + modulus * (b / modulus + 1) := by
    have hb := Nat.div_add_mod b modulus
    rw [Nat.mul_add_one]
    omega
  calc Nat.ModEq modulus (b + sub a b modulus) (b + (a + (modulus - b % modulus))) :=
      (Nat.mod_modEq ..).add_left b
    Nat.ModEq modulus _ a := by
      rw [hsum]
      exact Nat.add_mul_mod_self_left ..

/-- A power is the number itself, modulo a prime, if the exponent is one more than a multiple of the
exponent that makes all powers one. -/
theorem pow_modEq_self {p exponent : Nat} (hp : p.Prime) (h : exponent % (p - 1) = 1) (n : Nat) :
    Nat.ModEq p (n ^ exponent) n := by
  have hsplit := Nat.div_add_mod exponent (p - 1)
  rw [h] at hsplit
  by_cases hn : p ∣ n
  · have hzero := Nat.modEq_zero_iff_dvd.2 hn
    exact (Nat.modEq_zero_iff_dvd.2 (hn.pow (by omega))).trans hzero.symm
  · have hone : Nat.ModEq p (n ^ (p - 1)) 1 := by
      rw [← Nat.totient_prime hp]
      exact Nat.ModEq.pow_totient ((hp.coprime_iff_not_dvd.2 hn).symm)
    have hpow := ((hone.pow (exponent / (p - 1))).mul_right n)
    rwa [one_pow, one_mul, ← pow_mul, ← pow_succ, hsplit] at hpow

theorem cast_pow_eq_one_iff {g n p : Nat} (hp : 2 ≤ p) : (g : ZMod p) ^ n = 1 ↔ pow g n p = 1 := by
  have hone : 1 % p = 1 := Nat.mod_eq_of_lt hp
  rw [pow_eq, ← Nat.cast_pow, ← Nat.cast_one, ZMod.natCast_eq_natCast_iff', hone]
  rfl

/-- Lucas's test, for a number that is one more than a product of powers of two primes: it is a
prime if some number has no smaller exponent that makes its power one. -/
theorem prime_of_generator {g b c i j p : Nat} (hp : p = Nat.pow b i * Nat.pow c j + 1)
    (hb : b.Prime) (hc : c.Prime) (hall : pow g (p - 1) p = 1) (hfirst : pow g ((p - 1) / b) p ≠ 1)
    (hsecond : pow g ((p - 1) / c) p ≠ 1) : p.Prime := by
  have hpos : 0 < Nat.pow b i * Nat.pow c j := Nat.mul_pos (Nat.pow_pos hb.pos) (Nat.pow_pos hc.pos)
  have htwo : 2 ≤ p := by omega
  refine lucas_primality p (g : ZMod p) ((cast_pow_eq_one_iff htwo).2 hall) ?_
  intro q hq hdvd
  rw [hp, Nat.add_sub_cancel, hq.dvd_mul] at hdvd
  rw [Ne, cast_pow_eq_one_iff htwo]
  rcases hdvd with hdvd | hdvd
  · obtain rfl := (Nat.prime_dvd_prime_iff_eq hq hb).1 (hq.dvd_of_dvd_pow hdvd)
    exact hfirst
  · obtain rfl := (Nat.prime_dvd_prime_iff_eq hq hc).1 (hq.dvd_of_dvd_pow hdvd)
    exact hsecond

end Modular

namespace Rsa

theorem lt_pow_bitLength (n : Nat) : n < Nat.pow 2 (bitLength n) := by
  unfold bitLength
  split
  next h =>
    rw [h]
    exact Nat.one_pos
  next => exact Nat.lt_log2_self

theorem pow_bitLength_le {n : Nat} (h : 0 < n) : Nat.pow 2 (bitLength n - 1) ≤ n := by
  rw [bitLength, if_neg h.ne', Nat.add_sub_cancel]
  exact Nat.log2_self_le h.ne'

theorem checkPrime_eq_ok {bits p : Nat} (h : checkPrime bits p = .ok ()) :
    0 < p ∧ bitLength p = (bits + 1) / 2 ∧ bitLength p % 512 = 0 := by
  unfold checkPrime at h
  split at h
  next => cases h
  next hmodulus =>
    split at h
    next => cases h
    next hhalf =>
      split at h
      next => cases h
      next hwords =>
        refine ⟨Nat.pos_of_ne_zero ?_, not_not.1 hhalf, not_not.1 hwords⟩
        rintro rfl
        cases hmodulus

namespace PrivateKey

variable {k : PrivateKey} {bytes message signature : List UInt8}

/-! ## Checked keys -/

section
variable {ε α β : Type} {p : Prop} [Decidable p] {e : ε} {x : Except ε α} {a : α}

/-- What comes after a condition that throws. -/
theorem guarded_eq_ok_iff {f : β → Except ε α} :
    (if p then (throw e : Except ε β) >>= f else x) = .ok a ↔ ¬p ∧ x = .ok a := by
  by_cases h : p
  · rw [if_pos h]
    exact ⟨nofun, fun h' => absurd h h'.1⟩
  · rw [if_neg h, and_iff_right h]

theorem guard_eq_ok_iff : (if p then throw e else x) = .ok a ↔ ¬p ∧ x = .ok a := by
  by_cases h : p
  · rw [if_pos h]
    exact ⟨nofun, fun h' => absurd h h'.1⟩
  · rw [if_neg h, and_iff_right h]

end

/-- What signing needs of the checks of a key. -/
structure Checked (k : PrivateKey) : Prop where
  size : 256 ≤ k.size
  firstPrime : checkPrime (bitLength k.modulus) k.firstPrime = .ok ()
  secondPrime : checkPrime (bitLength k.modulus) k.secondPrime = .ok ()
  coefficient : k.coefficient * k.secondPrime % k.firstPrime = 1

theorem size_of_checkPublic (h : k.checkPublic = .ok ()) : 256 ≤ k.size := by
  simp only [checkPublic, bind_eq_ok_iff, guarded_eq_ok_iff] at h
  obtain ⟨_, -, hsize, -⟩ := h
  exact Nat.le_of_not_lt hsize

theorem checked_of_check (h : k.check = .ok ()) : k.Checked := by
  simp only [check, bind_eq_ok_iff, guarded_eq_ok_iff] at h
  obtain ⟨_, hpublic, _, hfirst, _, hsecond, -, h⟩ := h
  split at h
  next =>
    simp only [bind_eq_ok_iff, guarded_eq_ok_iff, guard_eq_ok_iff] at h
    obtain ⟨-, _, -, _, -, -, hcoefficient, -⟩ := h
    exact ⟨size_of_checkPublic hpublic, hfirst, hsecond, not_not.1 hcoefficient⟩
  next => cases h

/-- A key that has been read has been checked, whatever stands around it. -/
theorem check_of_ofBytes (h : ofBytes bytes = .ok k) : k.check = .ok () := by
  simp only [ofBytes] at h
  split at h
  next =>
    split at h
    next =>
      obtain ⟨-, h⟩ := guarded_eq_ok_iff.1 h
      split at h
      next =>
        simp only [bind_eq_ok_iff, guarded_eq_ok_iff] at h
        obtain ⟨_, hcheck, -, h⟩ := h
        cases h
        exact hcheck
      next => cases h
    next => cases h
  next => cases h

theorem privatePower_lt (hfirst : 0 < k.firstPrime) (hsecond : 0 < k.secondPrime) (n : Nat) :
    k.privatePower n < k.secondPrime * k.firstPrime := by
  have hpower := Modular.pow_lt hsecond n k.secondExponent
  unfold privatePower
  extract_lets first second quotient
  have hquotient : quotient + 1 ≤ k.firstPrime := Nat.mod_lt _ hfirst
  calc second + k.secondPrime * quotient
    _ < k.secondPrime * (quotient + 1) := by
      rw [Nat.mul_add_one, Nat.add_comm]
      exact Nat.add_lt_add_left hpower _
    _ ≤ k.secondPrime * k.firstPrime := Nat.mul_le_mul_left _ hquotient

namespace Checked

variable (c : k.Checked)
include c

/-- The modulus has room for what is signed. -/
theorem privatePower_lt_size (n : Nat) : k.privatePower n < Nat.pow 256 k.size := by
  obtain ⟨hfirst, hfirstBits, hwords⟩ := checkPrime_eq_ok c.firstPrime
  obtain ⟨hsecond, hsecondBits, -⟩ := checkPrime_eq_ok c.secondPrime
  have hsize : bitLength k.secondPrime + bitLength k.firstPrime = 8 * k.size := by
    unfold PrivateKey.size
    omega
  calc k.privatePower n
    _ < k.secondPrime * k.firstPrime := privatePower_lt hfirst hsecond n
    _ ≤ Nat.pow 2 (bitLength k.secondPrime) * Nat.pow 2 (bitLength k.firstPrime) :=
      Nat.mul_le_mul (lt_pow_bitLength _).le (lt_pow_bitLength _).le
    _ = Nat.pow 2 (8 * k.size) := hsize ▸ (Nat.pow_add ..).symm
    _ = Nat.pow 256 k.size := Nat.pow_mul ..

/-- A padded hash is below the modulus, since it has a zero byte in front. -/
theorem paddedHash_lt (hmodulus : 0 < k.modulus) (message : List UInt8) :
    Sha2.Variant.ofBytes (paddedHash k.size message) < k.modulus := by
  have hsize := c.size
  have hhash : (Sha2.sha256 message).length = 32 := Sha2.words256.length_hash message
  have hlength : (paddedHash k.size message).tail.length = k.size - 1 := by
    simp only [paddedHash, sha256Mark, List.length_append, List.length_cons,
      List.length_replicate, hhash, List.cons_append, List.nil_append, List.tail_cons]
    omega
  have hbits : 8 * (k.size - 1) ≤ bitLength k.modulus - 1 := by
    unfold PrivateKey.size
    omega
  calc Sha2.Variant.ofBytes (paddedHash k.size message)
    _ = Sha2.Variant.ofBytes (paddedHash k.size message).tail := rfl
    _ < Nat.pow 256 (k.size - 1) := hlength ▸ Sha2.Variant.ofBytes_lt _
    _ = Nat.pow 2 (8 * (k.size - 1)) := (Nat.pow_mul 2 8 _).symm
    _ ≤ Nat.pow 2 (bitLength k.modulus - 1) := Nat.pow_le_pow_right (by decide) hbits
    _ ≤ k.modulus := pow_bitLength_le hmodulus

end Checked

/-! ## Signatures -/

/-- A signature of a message holds with the public half of a key: it has the size of the modulus,
and its power is the hash with its mark and padding. -/
structure Holds (k : PrivateKey) (message signature : List UInt8) : Prop where
  size : signature.length = k.size
  power : Nat.pow (Sha2.Variant.ofBytes signature) k.publicExponent % k.modulus =
    Sha2.Variant.ofBytes (paddedHash k.size message)

theorem sign?_holds (c : k.Checked) (hsign : k.sign? message = some signature) :
    k.Holds message signature := by
  unfold sign? at hsign
  extract_lets padded power at hsign
  split at hsign
  next hpower =>
    cases hsign
    have hread : Sha2.Variant.ofBytes (Sha2.Variant.toBytes k.size power) = power := by
      rw [Sha2.Variant.ofBytes_toBytes]
      exact Nat.mod_eq_of_lt (c.privatePower_lt_size padded)
    refine ⟨Sha2.Variant.length_toBytes .., ?_⟩
    rw [hread, ← Modular.pow_eq, hpower]
  next => cases hsign

/-- The parts of a key belong together: the modulus is the product of two primes, and the exponents
for the primes undo the public one. -/
structure Sound (k : PrivateKey) : Prop where
  firstPrime : k.firstPrime.Prime
  secondPrime : k.secondPrime.Prime
  modulus : k.modulus = k.firstPrime * k.secondPrime
  firstExponent : k.firstExponent * k.publicExponent % (k.firstPrime - 1) = 1
  secondExponent : k.secondExponent * k.publicExponent % (k.secondPrime - 1) = 1

theorem privatePower_modEq_second (n : Nat) :
    Nat.ModEq k.secondPrime (k.privatePower n) (n ^ k.secondExponent) := by
  unfold privatePower
  extract_lets first second quotient
  have hsecond : Nat.ModEq k.secondPrime second (n ^ k.secondExponent) := Modular.pow_modEq ..
  have hdrop : Nat.ModEq k.secondPrime (second + k.secondPrime * quotient) second :=
    Nat.add_mul_mod_self_left ..
  exact hdrop.trans hsecond

theorem privatePower_modEq_first (c : k.Checked) (n : Nat) :
    Nat.ModEq k.firstPrime (k.privatePower n) (n ^ k.firstExponent) := by
  obtain ⟨hpos, -, -⟩ := checkPrime_eq_ok c.firstPrime
  unfold privatePower
  extract_lets first second quotient
  have hfirst : Nat.ModEq k.firstPrime first (n ^ k.firstExponent) := Modular.pow_modEq ..
  have hcoefficient : Nat.ModEq k.firstPrime (k.coefficient * k.secondPrime) 1 := by
    rw [Nat.ModEq, c.coefficient, ← c.coefficient, Nat.mod_mod]
  have hquotient : Nat.ModEq k.firstPrime (k.secondPrime * quotient)
      (Modular.sub first second k.firstPrime) := by
    have hmul := (Nat.mod_modEq (k.coefficient * Modular.sub first second k.firstPrime)
      k.firstPrime).mul_left k.secondPrime
    have hone := hcoefficient.mul_right (Modular.sub first second k.firstPrime)
    rw [one_mul, mul_comm k.coefficient, mul_assoc] at hone
    exact hmul.trans hone
  exact ((hquotient.add_left second).trans (Modular.add_sub_modEq hpos first second)).trans hfirst

/-- The primes of a checked key differ, since one has an inverse modulo the other. -/
theorem Sound.coprime (hsound : k.Sound) (c : k.Checked) :
    Nat.Coprime k.firstPrime k.secondPrime := by
  rw [Nat.coprime_primes hsound.firstPrime hsound.secondPrime]
  intro heq
  have hone := c.coefficient
  rw [← heq, Nat.mul_mod_left] at hone
  cases hone

/-- **A key whose parts belong together signs every message.** -/
theorem exists_sign? (c : k.Checked) (hsound : k.Sound) (message : List UInt8) :
    ∃ signature, k.sign? message = some signature := by
  have hmodulus : 0 < k.modulus := by
    rw [hsound.modulus]
    exact Nat.mul_pos hsound.firstPrime.pos hsound.secondPrime.pos
  unfold sign?
  extract_lets padded signature
  have hlt : padded < k.modulus := c.paddedHash_lt hmodulus message
  clear_value padded
  have hfirst : Nat.ModEq k.firstPrime (signature ^ k.publicExponent) padded := by
    have hpower := (privatePower_modEq_first c padded).pow k.publicExponent
    rw [← pow_mul] at hpower
    exact hpower.trans (Modular.pow_modEq_self hsound.firstPrime hsound.firstExponent padded)
  have hsecond : Nat.ModEq k.secondPrime (signature ^ k.publicExponent) padded := by
    have hpower := (privatePower_modEq_second (k := k) padded).pow k.publicExponent
    rw [← pow_mul] at hpower
    exact hpower.trans (Modular.pow_modEq_self hsound.secondPrime hsound.secondExponent padded)
  have hboth : Nat.ModEq k.modulus (signature ^ k.publicExponent) padded := by
    rw [hsound.modulus]
    exact (Nat.modEq_and_modEq_iff_modEq_mul (hsound.coprime c)).1 ⟨hfirst, hsecond⟩
  have hpower : Modular.pow signature k.publicExponent k.modulus = padded := by
    calc Modular.pow signature k.publicExponent k.modulus
      _ = signature ^ k.publicExponent % k.modulus := Modular.pow_eq ..
      _ = padded % k.modulus := hboth
      _ = padded := Nat.mod_eq_of_lt hlt
  rw [if_pos hpower]
  exact ⟨_, rfl⟩

end PrivateKey

end Rsa

end CredentialKeeper
