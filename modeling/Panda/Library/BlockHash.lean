import Mathlib.Tactic

/-!
A hash that folds a compression over the blocks of a message, and what one more symbol
does to the complete blocks and to the symbols after them.
-/

namespace Panda.Library

variable {α σ : Type*}

/-- A compression of blocks of `size` symbols. -/
structure Compression (α σ : Type*) where
  size : ℕ
  size_pos : 0 < size
  compress : σ → List α → σ

/-- The complete blocks of a message. -/
def blocks (size : ℕ) (message : List α) : List (List α) :=
  (List.range (message.length / size)).map fun i => (message.drop (size * i)).take size

/-- The symbols after the complete blocks. -/
def remainder (size : ℕ) (message : List α) : List α :=
  message.drop (size * (message.length / size))

/-- The chaining value of the complete blocks. -/
def Compression.digest (C : Compression α σ) (init : σ) (message : List α) : σ :=
  (blocks C.size message).foldl C.compress init

theorem remainder_length (size : ℕ) (message : List α) :
    (remainder size message).length = message.length % size := by
  rw [remainder, List.length_drop, Nat.mod_eq_sub]

/-- A block of a message is a block of a longer one. -/
theorem drop_take_append {size i : ℕ} {message : List α} (more : List α)
    (h : i < message.length / size) :
    ((message ++ more).drop (size * i)).take size = (message.drop (size * i)).take size := by
  have hle : size * (i + 1) ≤ message.length :=
    (Nat.mul_le_mul_left size h).trans (Nat.mul_div_le _ _)
  rw [Nat.mul_add, Nat.mul_one] at hle
  rw [List.drop_append_of_le_length (by omega), List.take_append_of_le_length]
  rw [List.length_drop]
  omega

/-- One symbol completes a block. -/
theorem blocks_snoc_complete {size : ℕ} (hpos : 0 < size) {message : List α} (a : α)
    (h : message.length % size + 1 = size) :
    blocks size (message ++ [a]) = blocks size message ++ [remainder size message ++ [a]] ∧
      remainder size (message ++ [a]) = [] := by
  have hsplit := Nat.div_add_mod message.length size
  have hlength : message.length + 1 = size * (message.length / size + 1) := by
    rw [Nat.mul_add, Nat.mul_one]
    omega
  have hdiv : (message ++ [a]).length / size = message.length / size + 1 := by
    rw [List.length_append, List.length_singleton, hlength, Nat.mul_div_cancel_left _ hpos]
  have hle : size * (message.length / size) ≤ message.length := Nat.mul_div_le _ _
  refine ⟨?_, ?_⟩
  · rw [blocks, hdiv, List.range_succ, List.map_append]
    congr 1
    · apply List.map_congr_left
      intro i hi
      exact drop_take_append [a] (List.mem_range.mp hi)
    · have hlast : (remainder size message ++ [a]).length ≤ size := by
        rw [List.length_append, remainder_length, List.length_singleton, h]
      rw [List.map_singleton, List.drop_append_of_le_length hle, ← remainder,
        List.take_of_length_le hlast]
  · rw [remainder, hdiv, List.drop_eq_nil_iff, List.length_append, List.length_singleton]
    exact hlength.le

/-- One symbol that leaves the block incomplete. -/
theorem blocks_snoc_pending {size : ℕ} {message : List α} (a : α)
    (hpos : 0 < size) (h : message.length % size + 1 ≠ size) :
    blocks size (message ++ [a]) = blocks size message ∧
      remainder size (message ++ [a]) = remainder size message ++ [a] := by
  have hlt := Nat.mod_lt message.length hpos
  have hsplit := Nat.div_add_mod message.length size
  have hdiv : (message ++ [a]).length / size = message.length / size := by
    rw [List.length_append, List.length_singleton]
    apply Nat.div_eq_of_lt_le
    · rw [Nat.mul_comm]
      omega
    · rw [Nat.succ_mul, Nat.mul_comm]
      omega
  refine ⟨?_, ?_⟩
  · rw [blocks, hdiv]
    apply List.map_congr_left
    intro i hi
    exact drop_take_append [a] (List.mem_range.mp hi)
  · rw [remainder, hdiv, remainder, List.drop_append_of_le_length (Nat.mul_div_le _ _)]

namespace Compression

variable (C : Compression α σ) (init : σ) {message : List α} (a : α)

theorem digest_snoc_complete (h : message.length % C.size + 1 = C.size) :
    C.digest init (message ++ [a]) =
      C.compress (C.digest init message) (remainder C.size message ++ [a]) := by
  rw [digest, digest, (blocks_snoc_complete C.size_pos a h).1, List.foldl_append]
  rfl

theorem digest_snoc_pending (h : message.length % C.size + 1 ≠ C.size) :
    C.digest init (message ++ [a]) = C.digest init message := by
  rw [digest, digest, (blocks_snoc_pending a C.size_pos h).1]

end Compression

end Panda.Library
