import Mathlib.Data.List.GetD
import Mathlib.Tactic

/-!
A buffer that gives a symbol for each index: reading a stretch of it and writing
one, and what a read sees of a write.
-/

namespace Panda.Library

variable {α : Type*}

/-- The symbols of a buffer from an index on. -/
def readAt (buf : Nat → α) (offset len : Nat) : List α :=
  (List.range len).map fun i => buf (offset + i)

/-- Write symbols to a buffer from an index on. -/
def writeAt (buf : Nat → α) (offset : Nat) (xs : List α) : Nat → α :=
  fun i => if offset ≤ i then xs.getD (i - offset) (buf i) else buf i

@[simp] theorem readAt_length (buf : Nat → α) (offset len : Nat) :
    (readAt buf offset len).length = len := by
  simp [readAt]

theorem readAt_add (buf : Nat → α) (offset m n : Nat) :
    readAt buf offset (m + n) = readAt buf offset m ++ readAt buf (offset + m) n := by
  simp [readAt, List.range_add, Nat.add_assoc]

theorem readAt_getElem (buf : Nat → α) {offset len i : Nat}
    (h : i < (readAt buf offset len).length) : (readAt buf offset len)[i] = buf (offset + i) := by
  simp [readAt]

theorem readAt_congr {buf buf' : Nat → α} {offset offset' len : Nat}
    (h : ∀ i < len, buf (offset + i) = buf' (offset' + i)) :
    readAt buf offset len = readAt buf' offset' len := by
  apply List.map_congr_left
  intro i hi
  exact h i (List.mem_range.mp hi)

theorem writeAt_of_lt (buf : Nat → α) (xs : List α) {offset i : Nat} (h : i < offset) :
    writeAt buf offset xs i = buf i := by
  rw [writeAt, if_neg]
  omega

theorem writeAt_of_le (buf : Nat → α) {xs : List α} {offset i : Nat} (h : offset + xs.length ≤ i) :
    writeAt buf offset xs i = buf i := by
  rw [writeAt, if_pos (by omega), List.getD_eq_default]
  omega

theorem writeAt_add (buf : Nat → α) {xs : List α} (offset : Nat) {i : Nat} (h : i < xs.length) :
    writeAt buf offset xs (offset + i) = xs[i] := by
  rw [writeAt, if_pos (by omega), Nat.add_sub_cancel_left, List.getD_eq_getElem _ _ h]

@[simp] theorem readAt_writeAt (buf : Nat → α) (offset : Nat) (xs : List α) :
    readAt (writeAt buf offset xs) offset xs.length = xs := by
  apply List.ext_getElem (readAt_length _ _ _)
  intro i hi hi'
  rw [readAt_getElem, writeAt_add buf offset hi']

/-- A write after the stretch. -/
theorem readAt_writeAt_before (buf : Nat → α) (xs : List α) {offset offset' len : Nat}
    (h : offset' + len ≤ offset) :
    readAt (writeAt buf offset xs) offset' len = readAt buf offset' len := by
  apply readAt_congr
  intro i hi
  exact writeAt_of_lt buf xs (by omega)

/-- A write before the stretch. -/
theorem readAt_writeAt_after (buf : Nat → α) {xs : List α} {offset offset' len : Nat}
    (h : offset + xs.length ≤ offset') :
    readAt (writeAt buf offset xs) offset' len = readAt buf offset' len := by
  apply readAt_congr
  intro i hi
  exact writeAt_of_le buf (by omega)

end Panda.Library
