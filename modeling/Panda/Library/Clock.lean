import Mathlib.Tactic

/-!
A clock that counts without bound and a 32-bit timer that shows its low bits,
and a limiter of a quantity that moves its reference at most once in a period
of the clock.
-/

namespace Panda.Library

/-- What a 32-bit timer shows at a time. -/
def timerAt (time : Nat) : UInt32 := UInt32.ofNat time

/-- The difference of two readings is the elapsed time modulo the timer's
range. -/
theorem timerAt_sub_toNat {base time : Nat} (h : base ≤ time) :
    (timerAt time - timerAt base).toNat = (time - base) % 2 ^ 32 := by
  simp only [timerAt, UInt32.toNat_sub, UInt32.toNat_ofNat']
  omega

/-- A timer never shows more time than has elapsed. -/
theorem timerAt_sub_le {base time : Nat} (h : base ≤ time) :
    (timerAt time - timerAt base).toNat ≤ time - base := by
  rw [timerAt_sub_toNat h]
  exact Nat.mod_le _ _

section Limiter

variable {α : Type*} [Ring α] [LinearOrder α] [IsStrictOrderedRing α]

/-- The reference, which was set at time `base`, has grown by at most `delta`
in each full period since `start`. -/
structure GrewAt (delta : α) (period start base : Nat) (reference : α) : Prop where
  started : start ≤ base
  grew : |reference| ≤ delta * ((base - start) / period : Nat)

variable {delta reference value : α} {period start base time : Nat}

theorem GrewAt.zero (delta : α) (period start : Nat) : GrewAt delta period start start 0 where
  started := le_rfl
  grew := by simp

/-- A value within `delta` of the reference has grown by one more period at
most. -/
theorem GrewAt.within (h : GrewAt delta period start base reference) (hdelta : 0 ≤ delta)
    (htime : base ≤ time) (hvalue : |value| ≤ |reference| + delta) :
    |value| ≤ delta * (1 + (time - start) / period : Nat) := by
  have hperiods : (base - start) / period ≤ (time - start) / period :=
    Nat.div_le_div_right (Nat.sub_le_sub_right htime start)
  have hmono : delta * ((base - start) / period : Nat) ≤
      delta * ((time - start) / period : Nat) :=
    mul_le_mul_of_nonneg_left (Nat.cast_le.mpr hperiods) hdelta
  calc |value| ≤ |reference| + delta := hvalue
    _ ≤ delta * ((time - start) / period : Nat) + delta :=
      add_le_add_left (h.grew.trans hmono) delta
    _ = delta * (1 + (time - start) / period : Nat) := by
      rw [Nat.cast_add, Nat.cast_one, mul_add, mul_one, add_comm]

/-- After a full period, such a value may become the reference. -/
theorem GrewAt.rebase (h : GrewAt delta period start base reference) (hdelta : 0 ≤ delta)
    (hperiod : 0 < period) (helapsed : period ≤ time - base)
    (hvalue : |value| ≤ |reference| + delta) : GrewAt delta period start time value where
  started := by
    have hstarted := h.started
    omega
  grew := by
    have hstarted := h.started
    have hperiods : 1 + (base - start) / period ≤ (time - start) / period := by
      rw [Nat.add_comm, ← Nat.add_div_right _ hperiod]
      exact Nat.div_le_div_right (by omega)
    calc |value| ≤ delta * (1 + (base - start) / period : Nat) :=
          h.within hdelta le_rfl hvalue
      _ ≤ delta * ((time - start) / period : Nat) :=
          mul_le_mul_of_nonneg_left (Nat.cast_le.mpr hperiods) hdelta

end Limiter

end Panda.Library
