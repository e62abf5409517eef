import Panda.Library.Transition
import Mathlib.Data.List.DropRight

/-!
A sliding window by counting. A counter that a mark clears and that any other event
increments up to a bound tells which marks lie in the window of the last events.
-/

namespace Panda.Library

/-- The number of events since the last mark, saturated at `size`. -/
def sinceMark (size n : Nat) (mark : Bool) : Nat := if mark then 0 else min (n + 1) size

/-- The counter that starts saturated is below `k` exactly if one of the last `k` events
was a mark. -/
theorem run_sinceMark_lt_iff {size k : Nat} (hk : k ≤ size) (marks : List Bool) :
    run (sinceMark size) size marks < k ↔ true ∈ marks.rtake k := by
  induction marks using List.reverseRecOn generalizing k with
  | nil => simpa using hk
  | append_singleton marks mark ih =>
      rw [run_append, run_cons, run_nil]
      cases k with
      | zero => simp
      | succ k =>
          rw [List.rtake_concat_succ, List.mem_append, List.mem_singleton, sinceMark]
          cases mark with
          | true => simp
          | false =>
              have hprev := ih (Nat.le_of_succ_le hk)
              have hcount : min (run (sinceMark size) size marks + 1) size < k + 1 ↔
                  run (sinceMark size) size marks < k := by omega
              simpa [hcount] using hprev

end Panda.Library
