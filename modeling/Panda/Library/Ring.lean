import Mathlib.Tactic

/-!
The cells of a circular buffer from a start index on. Reading on from the last
cell continues at the first one.
-/

namespace Panda.Library

variable {α : Type*}

/-- The index `k` cells after `start`. -/
def ringIndex (size start k : Nat) : Nat :=
  if start + k < size then start + k else start + k - size

/-- The index of the next cell. -/
def ringNext (size i : Nat) : Nat := if i + 1 = size then 0 else i + 1

/-- The number of cells from `start` to before `stop`. -/
def ringCount (size start stop : Nat) : Nat :=
  if start ≤ stop then stop - start else size - start + stop

/-- The contents of `count` cells from `start` on. -/
def window (cells : Nat → α) (size start count : Nat) : List α :=
  (List.range count).map fun k => cells (ringIndex size start k)

@[simp] theorem window_length (cells : Nat → α) (size start count : Nat) :
    (window cells size start count).length = count := by
  simp [window]

theorem ringNext_lt {size i : Nat} (h : i < size) : ringNext size i < size := by
  unfold ringNext
  split <;> omega

theorem ringIndex_succ {size start k : Nat} (hk : k < size) :
    ringIndex size start (k + 1) = ringIndex size (ringNext size start) k := by
  unfold ringIndex ringNext
  split_ifs <;> omega

theorem window_cons {cells : Nat → α} {size start count : Nat} (h : start < size)
    (hcount : count ≤ size) :
    window cells size start (count + 1) =
      cells start :: window cells size (ringNext size start) count := by
  simp only [window, List.range_succ_eq_map, List.map_cons, List.map_map]
  congr 1
  · simp [ringIndex, h]
  · apply List.map_congr_left
    intro k hk
    have hlt := List.mem_range.mp hk
    exact congrArg cells (ringIndex_succ (by omega))

theorem window_snoc (cells : Nat → α) (size start count : Nat) :
    window cells size start (count + 1) =
      window cells size start count ++ [cells (ringIndex size start count)] := by
  simp [window, List.range_succ]

/-- Writing a cell outside of the window leaves the window alone. -/
theorem window_update {cells : Nat → α} {size start count i : Nat}
    (h : ∀ k < count, ringIndex size start k ≠ i) (a : α) :
    window (Function.update cells i a) size start count = window cells size start count := by
  apply List.map_congr_left
  intro k hk
  exact Function.update_of_ne (h k (List.mem_range.mp hk)) a cells

/-! ### Between two pointers

The cells from the read pointer to before the write pointer. One cell stays free, so
that equal pointers mean an empty buffer.
-/

theorem ringCount_lt {size r w : Nat} (hr : r < size) (hw : w < size) :
    ringCount size r w < size := by
  unfold ringCount
  split <;> omega

theorem ringCount_eq_zero {size r w : Nat} (hr : r < size) :
    ringCount size r w = 0 ↔ r = w := by
  unfold ringCount
  split <;> omega

/-- The buffer is full when the write pointer would get to the read pointer. -/
theorem ringNext_eq_iff {size r w : Nat} (hr : r < size) (hw : w < size) :
    ringNext size w = r ↔ ringCount size r w = size - 1 := by
  unfold ringNext ringCount
  split_ifs <;> omega

/-- Behind the read pointer is the oldest element. -/
theorem window_pop (cells : Nat → α) {size r w : Nat} (hr : r < size) (hw : w < size)
    (h : r ≠ w) :
    window cells size r (ringCount size r w) =
      cells r :: window cells size (ringNext size r) (ringCount size (ringNext size r) w) := by
  have hlt := ringCount_lt (ringNext_lt hr) hw
  have hcount : ringCount size r w = ringCount size (ringNext size r) w + 1 := by
    unfold ringCount ringNext
    split_ifs <;> omega
  rw [hcount, window_cons hr (Nat.le_of_lt hlt)]

/-- Writing a cell at the write pointer appends an element. -/
theorem window_push (cells : Nat → α) {size r w : Nat} (hr : r < size) (hw : w < size)
    (h : ringNext size w ≠ r) (a : α) :
    window (Function.update cells w a) size r (ringCount size r (ringNext size w)) =
      window cells size r (ringCount size r w) ++ [a] := by
  have hcount : ringCount size r (ringNext size w) = ringCount size r w + 1 := by
    unfold ringCount ringNext at *
    split_ifs at * <;> omega
  have hlast : ringIndex size r (ringCount size r w) = w := by
    unfold ringIndex ringCount
    split_ifs <;> omega
  have hbefore : ∀ k < ringCount size r w, ringIndex size r k ≠ w := by
    intro k hk
    unfold ringCount at hk
    unfold ringIndex
    split_ifs at * <;> omega
  rw [hcount, window_snoc, window_update hbefore, hlast, Function.update_self]

end Panda.Library
