import Mathlib.Order.Monotone.Basic
import Mathlib.Tactic

/-!
A memory that is laid out in regions, and blocks that are stored in it. Blocks that are
stored one behind the other make one block. A region ends where the next one starts.
-/

namespace Panda.Library

variable {α : Type*}

/-! ### Blocks -/

/-- The memory with a block from `start` on. -/
def store (mem : Nat → α) (start : Nat) (block : List α) : Nat → α := fun address =>
  if start ≤ address then block[address - start]?.getD (mem address) else mem address

@[simp] theorem store_nil (mem : Nat → α) (start : Nat) : store mem start [] = mem := by
  funext address
  rw [store]
  split
  · rfl
  · rfl

theorem store_add (mem : Nat → α) (start : Nat) (block : List α) (i : Nat) :
    store mem start block (start + i) = block[i]?.getD (mem (start + i)) := by
  rw [store, if_pos (Nat.le_add_right start i), Nat.add_sub_cancel_left]

theorem store_append (mem : Nat → α) (start : Nat) (first second : List α) :
    store (store mem start first) (start + first.length) second =
      store mem start (first ++ second) := by
  funext address
  rcases Nat.lt_or_ge address start with hbelow | hstart
  · rw [store, if_neg (by omega), store, if_neg (by omega), store, if_neg (by omega)]
  obtain ⟨i, rfl⟩ := Nat.exists_eq_add_of_le hstart
  rw [store_add mem start (first ++ second)]
  rcases Nat.lt_or_ge i first.length with hfirst | hsecond
  · rw [store, if_neg (by omega), store_add, List.getElem?_append_left hfirst]
  · obtain ⟨j, rfl⟩ := Nat.exists_eq_add_of_le hsecond
    rw [← Nat.add_assoc, store_add, Nat.add_assoc, store_add,
      List.getElem?_eq_none (Nat.le_add_right first.length j),
      List.getElem?_append_right (Nat.le_add_right first.length j), Nat.add_sub_cancel_left]
    rfl

/-! ### Regions -/

/-- The address is in the region `i` of those that start at `bound`. -/
def InRegion (bound : Nat → Nat) (i address : Nat) : Prop :=
  bound i ≤ address ∧ address < bound (i + 1)

instance inRegionDecidable (bound : Nat → Nat) (i address : Nat) :
    Decidable (InRegion bound i address) :=
  inferInstanceAs (Decidable (bound i ≤ address ∧ address < bound (i + 1)))

theorem InRegion.between {bound : Nat → Nat} {first last i address : Nat}
    (h : InRegion bound i address) (hmono : Monotone bound) (hfirst : bound first ≤ address)
    (hlast : address < bound last) : first ≤ i ∧ i < last := by
  constructor
  · apply Nat.le_of_lt_succ
    exact hmono.reflect_lt (Nat.lt_of_le_of_lt hfirst h.2)
  · exact hmono.reflect_lt (Nat.lt_of_le_of_lt h.1 hlast)

end Panda.Library
