import Mathlib.Tactic

/-!
A queue with a bound on its length: the elements are taken in the order in which they
were put, and none is put when the queue is full.
-/

namespace Panda.Library

variable {α : Type*} {capacity : Nat}

/-- A bounded queue, the oldest element first. -/
@[ext] structure Fifo (α : Type*) (capacity : Nat) where
  items : List α
  length_le : items.length ≤ capacity

namespace Fifo

def empty : Fifo α capacity where
  items := []
  length_le := Nat.zero_le capacity

/-- Put an element, if there is room. -/
def push (a : α) (q : Fifo α capacity) : Bool × Fifo α capacity :=
  if h : q.items.length < capacity then
    (true, { items := q.items ++ [a], length_le := by rw [List.length_append]; exact h })
  else (false, q)

/-- Take the oldest element, if there is one. -/
def pop (q : Fifo α capacity) : Option α × Fifo α capacity :=
  (q.items.head?,
    { items := q.items.tail
      length_le := by
        rw [List.length_tail]
        exact Nat.le_trans (Nat.sub_le _ 1) q.length_le })

/-- How many elements may be put. -/
def room (q : Fifo α capacity) : Nat := capacity - q.items.length

/-- The calls of a queue. -/
inductive Call (α : Type*) where
  | push (a : α)
  | pop
  | room
  | clear

/-- What a call returns. -/
inductive Result (α : Type*) where
  | pushed (ret : Bool)
  | popped (a : Option α)
  | room (count : Nat)
  | cleared

/-- The queue after a call. -/
def step (q : Fifo α capacity) : Call α → Fifo α capacity
  | .push a => (q.push a).2
  | .pop => q.pop.2
  | .room => q
  | .clear => empty

def result (q : Fifo α capacity) : Call α → Result α
  | .push a => .pushed (q.push a).1
  | .pop => .popped q.pop.1
  | .room => .room q.room
  | .clear => .cleared

theorem push_spec (a : α) (q : Fifo α capacity) :
    (q.push a).1 = decide (q.items.length < capacity) ∧
      (q.push a).2.items = if (q.push a).1 then q.items ++ [a] else q.items := by
  unfold push
  split
  · next h => exact ⟨(decide_eq_true h).symm, rfl⟩
  · next h => exact ⟨(decide_eq_false h).symm, rfl⟩

end Fifo

end Panda.Library
