import Mathlib.Data.Nat.Digits.Lemmas
import Mathlib.Data.Nat.ModEq
import Mathlib.Logic.Function.Iterate
import Mathlib.Tactic

/-!
Montgomery arithmetic: numbers that stand for their product with a radix `R`, the
product divided by `R`, and the accumulation of such a product over the digits of a
factor. Nothing here fixes the radix or how a number is stored.
-/

namespace Panda.Library.Montgomery

variable {n R : ℕ}

/-- `x` is the Montgomery form of `u`. -/
def Represents (n R x u : ℕ) : Prop := x ≡ u * R [MOD n]

/-- `z` is the product of `x` and `y` over `R`. -/
def IsProduct (n R z x y : ℕ) : Prop := z * R ≡ x * y [MOD n]

section Products

variable {x y z u v : ℕ}

/-- A product with the square of the radix enters the form. -/
theorem represents_of_product (hR : Nat.Coprime n R) {rr : ℕ} (hrr : rr ≡ R ^ 2 [MOD n])
    (h : IsProduct n R x u rr) : Represents n R x u := by
  have hsquare : x * R ≡ u * R * R [MOD n] :=
    calc x * R ≡ u * rr [MOD n] := h
      _ ≡ u * R ^ 2 [MOD n] := hrr.mul_left u
      _ = u * R * R := by ring
  exact Nat.ModEq.cancel_right_of_coprime hR hsquare

theorem Represents.mul (hR : Nat.Coprime n R) (hx : Represents n R x u)
    (hy : Represents n R y v) (h : IsProduct n R z x y) : Represents n R z (u * v) := by
  have hforms : z * R ≡ u * v * R * R [MOD n] :=
    calc z * R ≡ x * y [MOD n] := h
      _ ≡ u * R * (v * R) [MOD n] := Nat.ModEq.mul hx hy
      _ = u * v * R * R := by ring
  exact Nat.ModEq.cancel_right_of_coprime hR hforms

/-- A product with a plain number leaves the form. -/
theorem Represents.leave (hR : Nat.Coprime n R) (hx : Represents n R x u)
    (h : IsProduct n R z x v) : z ≡ u * v [MOD n] := by
  have hform : z * R ≡ u * v * R [MOD n] :=
    calc z * R ≡ x * v [MOD n] := h
      _ ≡ u * R * v [MOD n] := hx.mul_right v
      _ = u * v * R := by ring
  exact Nat.ModEq.cancel_right_of_coprime hR hform

end Products

section Runs

variable {σ δ : Type*} {I : σ → Prop}

/-- A step that takes a form to the form of a power, again and again. -/
theorem Represents.iterate (value : σ → ℕ) {step : σ → σ} {k : ℕ}
    (hstep : ∀ s u, I s → Represents n R (value s) u →
      I (step s) ∧ Represents n R (value (step s)) (u ^ k)) (m : ℕ) :
    ∀ s u, I s → Represents n R (value s) u →
      I (step^[m] s) ∧ Represents n R (value (step^[m] s)) (u ^ k ^ m) := by
  induction m with
  | zero =>
    intro s u hI hu
    simpa using ⟨hI, hu⟩
  | succ m ih =>
    intro s u hI hu
    obtain ⟨hI', hu'⟩ := hstep s u hI hu
    obtain ⟨hlast, hpow⟩ := ih _ _ hI' hu'
    rw [← pow_mul, ← pow_succ'] at hpow
    exact ⟨hlast, hpow⟩

/-- A product digit by digit, from the low digit on, with a division by the base at
each digit. -/
theorem value_accumulate (value : σ → ℕ) (digit : δ → ℕ) {step : σ → δ → σ} {β b : ℕ}
    (hstep : ∀ s a, I s →
      I (step s a) ∧ value (step s a) * β ≡ value s + digit a * b [MOD n]) (as : List δ) :
    ∀ s, I s → I (as.foldl step s) ∧
      value (as.foldl step s) * β ^ as.length ≡
        value s + Nat.ofDigits β (as.map digit) * b [MOD n] := by
  induction as with
  | nil =>
    intro s hI
    simpa using ⟨hI, Nat.ModEq.refl _⟩
  | cons a as ih =>
    intro s hI
    obtain ⟨hI', hfirst⟩ := hstep s a hI
    obtain ⟨hlast, hrest⟩ := ih _ hI'
    refine ⟨hlast, ?_⟩
    rw [List.foldl_cons, List.length_cons, List.map_cons, Nat.ofDigits_cons]
    calc value (as.foldl step (step s a)) * β ^ (as.length + 1)
        = value (as.foldl step (step s a)) * β ^ as.length * β := by ring
      _ ≡ (value (step s a) + Nat.ofDigits β (as.map digit) * b) * β [MOD n] :=
          hrest.mul_right β
      _ = value (step s a) * β + β * Nat.ofDigits β (as.map digit) * b := by ring
      _ ≡ value s + digit a * b + β * Nat.ofDigits β (as.map digit) * b [MOD n] :=
          hfirst.add_right _
      _ = value s + (digit a + β * Nat.ofDigits β (as.map digit)) * b := by ring

end Runs

section Rows

/-- The digit that clears the low digit of a sum, when `n0inv` is minus the inverse of
the low digit of the modulus. -/
theorem clears_low_digit {β n0 n0inv : ℕ} (h : (n0inv * n0 + 1) % β = 0) (low : ℕ) :
    (low * n0inv % β * n0 + low) % β = 0 := by
  have hinv : n0inv * n0 + 1 ≡ 0 [MOD β] := by
    rw [Nat.ModEq, h, Nat.zero_mod]
  have hdigit : low * n0inv % β * n0 + low ≡ low * n0inv * n0 + low [MOD β] :=
    ((Nat.mod_modEq (low * n0inv) β).mul_right n0).add_right low
  have hzero : low * n0inv * n0 + low ≡ 0 [MOD β] :=
    calc low * n0inv * n0 + low = low * (n0inv * n0 + 1) := by ring
      _ ≡ low * 0 [MOD β] := hinv.mul_left low
      _ = 0 := by ring
  exact Nat.mod_eq_zero_of_dvd ((Nat.modEq_zero_iff_dvd).mp (hdigit.trans hzero))

/-- A row is less than one modulus above the radix. -/
theorem row_lt {β c c' a b d : ℕ} (hrow : c' * β = c + a * b + d * n)
    (hc : c < R) (hb : b < R) (ha : a < β) (hd : d < β) : c' < R + n := by
  by_contra hge
  have hbig : (R + n) * β ≤ c' * β := Nat.mul_le_mul_right β (by omega)
  have hab : a * b + R ≤ β * R := by
    calc a * b + R ≤ a * R + R := by gcongr
      _ = (a + 1) * R := by ring
      _ ≤ β * R := Nat.mul_le_mul_right R ha
  have hdn : d * n ≤ β * n := Nat.mul_le_mul_right n hd.le
  have hexpand : (R + n) * β = β * R + β * n := by ring
  omega

end Rows

/-- An odd modulus is coprime to a power of two. -/
theorem coprime_two_pow {n0 n0inv w k : ℕ} (hw : 0 < w)
    (h : (n0inv * n0 + 1) % 2 ^ w = 0) (hn : n % 2 ^ w = n0 % 2 ^ w) :
    Nat.Coprime n (2 ^ k) := by
  apply Nat.Coprime.pow_right
  rw [Nat.coprime_two_right, Nat.odd_iff]
  have hdvd : 2 ∣ 2 ^ w := dvd_pow_self 2 hw.ne'
  have heven : 2 ∣ n0inv * n0 + 1 := hdvd.trans (Nat.dvd_of_mod_eq_zero h)
  have hparity : n % 2 = n0 % 2 := by
    rw [← Nat.mod_mod_of_dvd n hdvd, hn, Nat.mod_mod_of_dvd n0 hdvd]
  have hodd : ¬ 2 ∣ n0 := by
    intro hn0
    have : 2 ∣ n0inv * n0 := hn0.mul_left n0inv
    omega
  omega

end Panda.Library.Montgomery
