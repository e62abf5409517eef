import Mathlib.FieldTheory.Finite.Basic
import Mathlib.NumberTheory.LucasPrimality
import Mathlib.Tactic

/-!
Raising to two exponents that are inverse modulo the order of the units: the second
power takes the first one back, modulo a product of two primes. For primes one above a
multiple of a power of two there is a test by squarings.
-/

namespace Panda.Library

/-- The numbers of a key pair. -/
structure KeyPair where
  p : ℕ
  q : ℕ
  e : ℕ
  d : ℕ
  p_prime : p.Prime
  q_prime : q.Prime
  distinct : p ≠ q
  inverse : e * d ≡ 1 [MOD (p - 1).lcm (q - 1)]
  product_pos : 0 < e * d

namespace KeyPair

def n (pair : KeyPair) : ℕ := pair.p * pair.q

/-- An exponent that is one modulo the order of the units changes nothing. -/
theorem pow_modEq_self {p k : ℕ} (hp : p.Prime) (hpos : 0 < k) (hk : k ≡ 1 [MOD p - 1]) (m : ℕ) :
    m ^ k ≡ m [MOD p] := by
  have : Fact p.Prime := ⟨hp⟩
  rw [← ZMod.natCast_eq_natCast_iff, Nat.cast_pow]
  obtain ⟨c, hc⟩ := (Nat.modEq_iff_dvd' hpos).mp hk.symm
  have hsplit : k = (p - 1) * c + 1 := by omega
  rcases eq_or_ne (m : ZMod p) 0 with hzero | hne
  · rw [hzero, zero_pow hpos.ne']
  · rw [hsplit, pow_succ, pow_mul, ZMod.pow_card_sub_one_eq_one hne, one_pow, one_mul]

theorem pow_product (pair : KeyPair) (m : ℕ) : m ^ (pair.e * pair.d) ≡ m [MOD pair.n] := by
  have hp : m ^ (pair.e * pair.d) ≡ m [MOD pair.p] :=
    pow_modEq_self pair.p_prime pair.product_pos
      (pair.inverse.of_dvd (Nat.dvd_lcm_left _ _)) m
  have hq : m ^ (pair.e * pair.d) ≡ m [MOD pair.q] :=
    pow_modEq_self pair.q_prime pair.product_pos
      (pair.inverse.of_dvd (Nat.dvd_lcm_right _ _)) m
  have hcoprime : Nat.Coprime pair.p pair.q :=
    (Nat.coprime_primes pair.p_prime pair.q_prime).mpr pair.distinct
  exact (Nat.modEq_and_modEq_iff_modEq_mul hcoprime).mp ⟨hp, hq⟩

/-- A signature gives the message back. -/
theorem verify_sign (pair : KeyPair) {m : ℕ} (hm : m < pair.n) :
    (m ^ pair.d % pair.n) ^ pair.e % pair.n = m := by
  rw [← Nat.pow_mod, ← pow_mul, Nat.mul_comm, pair.pow_product m, Nat.mod_eq_of_lt hm]

end KeyPair

section Primes

/-- `x` squared `m` times, modulo `q`. -/
def squarings (q x : ℕ) : ℕ → ℕ
  | 0 => x % q
  | m + 1 => squarings q x m ^ 2 % q

theorem squarings_eq (q a k m : ℕ) : squarings q (a ^ k) m = a ^ (k * 2 ^ m) % q := by
  induction m with
  | zero => rw [squarings, pow_zero, mul_one]
  | succ m ih => rw [squarings, ih, ← Nat.pow_mod, ← pow_mul, mul_assoc, ← pow_succ]

theorem natCast_pow_eq_one_iff {q a e : ℕ} (hq : 1 < q) :
    (a : ZMod q) ^ e = 1 ↔ a ^ e % q = 1 := by
  rw [← Nat.cast_pow, ← Nat.cast_one, ZMod.natCast_eq_natCast_iff, Nat.ModEq,
    Nat.mod_eq_of_lt hq]

/-- The test of Lucas, where the odd part of the predecessor has known factors. -/
theorem prime_of_squarings {k m a : ℕ} (hk : 0 < k) (factors : List ℕ)
    (hfactors : ∀ r : ℕ, r.Prime → r ∣ k → r ∈ factors)
    (hone : squarings (k * 2 ^ (m + 1) + 1) (a ^ k) (m + 1) = 1)
    (htwo : squarings (k * 2 ^ (m + 1) + 1) (a ^ k) m ≠ 1)
    (hne : ∀ r ∈ factors, squarings (k * 2 ^ (m + 1) + 1) (a ^ (k / r)) (m + 1) ≠ 1) :
    (k * 2 ^ (m + 1) + 1).Prime := by
  have hq : 1 < k * 2 ^ (m + 1) + 1 := Nat.lt_add_of_pos_left (by positivity)
  rw [squarings_eq] at hone htwo
  apply lucas_primality _ (a : ZMod (k * 2 ^ (m + 1) + 1))
  · rw [natCast_pow_eq_one_iff hq, Nat.add_sub_cancel]
    exact hone
  · intro r hr hdvd
    rw [Nat.add_sub_cancel] at hdvd
    rw [Ne, natCast_pow_eq_one_iff hq, Nat.add_sub_cancel]
    rcases (hr.dvd_mul).mp hdvd with hodd | hpow
    · have h := hne r (hfactors r hr hodd)
      have hexp : k * 2 ^ (m + 1) / r = k / r * 2 ^ (m + 1) := Nat.div_mul_right_comm hodd _ |>.symm
      rw [squarings_eq] at h
      rwa [hexp]
    · obtain rfl := (Nat.prime_dvd_prime_iff_eq hr Nat.prime_two).mp (hr.dvd_of_dvd_pow hpow)
      have hexp : k * 2 ^ (m + 1) / 2 = k * 2 ^ m := by
        rw [pow_succ, ← mul_assoc, Nat.mul_div_cancel _ (by norm_num)]
      rwa [hexp]

end Primes

end Panda.Library
