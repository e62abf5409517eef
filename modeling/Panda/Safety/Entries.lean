import Panda.Safety.Engagement

/-!
One entry of the check list across one call. A received message rewrites the
entry that it matches and no other, a tick only marks lagging, and the other
calls leave the list alone. The verdict on a matched message is the validity of
its entry after the update.
-/

namespace Panda.Safety

open Library

/-- The entry that a received message matches. -/
def matchedIndex (toPush : CANPacket) (s : State) : Option Nat :=
  (getAddrCheckIndex toPush s.cfg.rxChecks).1

/-- The entry with the verdict on a message that matches it. -/
def checkedEntry (ts : UInt32) (toPush : CANPacket) (s : State) (check : RxCheck) : RxCheck :=
  checkMsg s.hooks s.params ts toPush (selectVariant toPush check)

/-! ### Lookup -/

theorem presentVariant_isOf {toPush : CANPacket} {check : RxCheck} {j : Fin 3}
    (h : presentVariant toPush check = some j) :
    (check.variant j).addr ≠ 0 ∧ (check.variant j).isOf toPush = true := by
  unfold presentVariant at h
  have hof := List.find?_some h
  have hpresent := List.all_eq_true.mp List.all_takeWhile j (List.mem_of_find?_eq_some h)
  exact ⟨by simpa using hpresent, hof⟩

/-- An entry that a message selects a variant of is matched by the message. -/
theorem selectVariant_eq_or_matched (toPush : CANPacket) (check : RxCheck) :
    selectVariant toPush check = check ∨ Matched toPush (selectVariant toPush check) := by
  unfold selectVariant
  split
  · exact Or.inl rfl
  · split
    · rename_i j hpresent
      exact Or.inr ⟨rfl, (presentVariant_isOf hpresent).2⟩
    · exact Or.inl rfl

theorem getAddrCheckIndex_frame {toPush : CANPacket} {rxChecks : List RxCheck} {i : Nat}
    (h : (getAddrCheckIndex toPush rxChecks).1 ≠ some i) :
    (getAddrCheckIndex toPush rxChecks).2[i]? = rxChecks[i]? := by
  induction rxChecks generalizing i with
  | nil => rfl
  | cons check rest ih =>
      simp only [getAddrCheckIndex] at h ⊢
      split at h
      · rename_i hmatch
        rw [if_pos hmatch]
        cases i with
        | zero => exact absurd rfl h
        | succ k => rfl
      · rename_i hmiss
        rw [if_neg hmiss]
        cases i with
        | zero =>
            rcases selectVariant_eq_or_matched toPush check with hsame | ⟨hseen, hof⟩
            · exact congrArg some hsame
            · exact absurd (by simp [hseen, hof]) hmiss
        | succ k =>
            apply ih
            intro hindex
            exact h (by simp [hindex])

theorem getAddrCheckIndex_matched {toPush : CANPacket} {rxChecks : List RxCheck} {i : Nat}
    (h : (getAddrCheckIndex toPush rxChecks).1 = some i) :
    ∃ check, rxChecks[i]? = some check ∧
      (getAddrCheckIndex toPush rxChecks).2[i]? = some (selectVariant toPush check) ∧
      Matched toPush (selectVariant toPush check) := by
  induction rxChecks generalizing i with
  | nil => cases h
  | cons check rest ih =>
      simp only [getAddrCheckIndex] at h ⊢
      split at h
      · rename_i hmatch
        rw [if_pos hmatch]
        cases h
        exact ⟨check, rfl, rfl, by simpa [Matched] using hmatch⟩
      · rename_i hmiss
        rw [if_neg hmiss]
        obtain ⟨k, hk, rfl⟩ := Option.map_eq_some_iff.mp h
        exact ih hk

/-! ### Calls -/

/-- A message that does not match the entry leaves it alone. -/
theorem rx_entry_frame (ts : UInt32) {toPush : CANPacket} {s : State} {i : Nat}
    (h : matchedIndex toPush s ≠ some i) :
    (safetyRxHook ts toPush s).cfg.rxChecks[i]? = s.cfg.rxChecks[i]? := by
  have hframe := getAddrCheckIndex_frame h
  change (s.rxChecksAfter ts toPush)[i]? = _
  unfold matchedIndex at h
  unfold State.rxChecksAfter rxMsgSafetyCheck
  cases hlookup : getAddrCheckIndex toPush s.cfg.rxChecks with
  | mk index after =>
      rw [hlookup] at h hframe
      cases index with
      | none => exact hframe
      | some index =>
          have hother : index ≠ i := fun hsame => h (congrArg some hsame)
          simpa [List.getElem?_modify, hother] using hframe

/-- A message that matches the entry updates it, and is valid when the entry
is. -/
theorem rx_entry_matched (ts : UInt32) {toPush : CANPacket} {s : State} {i : Nat}
    (h : matchedIndex toPush s = some i) :
    ∃ check, s.cfg.rxChecks[i]? = some check ∧
      (safetyRxHook ts toPush s).cfg.rxChecks[i]? = some (checkedEntry ts toPush s check) ∧
      Matched toPush (selectVariant toPush check) ∧
      s.rxValid ts toPush = isMsgValid (checkedEntry ts toPush s check) := by
  obtain ⟨check, hcheck, hselected, hmatched⟩ := getAddrCheckIndex_matched h
  change ∃ check, _ ∧ (s.rxChecksAfter ts toPush)[i]? = _ ∧ _
  unfold matchedIndex at h
  unfold State.rxChecksAfter State.rxValid rxMsgSafetyCheck
  cases hlookup : getAddrCheckIndex toPush s.cfg.rxChecks with
  | mk index after =>
      rw [hlookup] at h hselected
      cases h
      have hselected : after[i]? = some (selectVariant toPush check) := hselected
      refine ⟨check, hcheck, ?_, hmatched, ?_⟩
      · simp [hselected, checkedEntry]
      · simp [hselected, checkedEntry]

theorem tick_entry (ts : UInt32) (s : State) (i : Nat) :
    (safetyTick ts s).cfg.rxChecks[i]? = (s.cfg.rxChecks[i]?).map (checkLagging ts) := by
  simp [safetyTick]

/-- A tick that leaves controls on found every entry valid and in time. -/
theorem tick_controls {ts : UInt32} {s : State}
    (hon : (safetyTick ts s).signals.controlsAllowed = true) :
    ∀ check ∈ (safetyTick ts s).cfg.rxChecks,
      isMsgValid check = true ∧ check.status.lagging = false := by
  intro check hcheck
  have hnone := (Bool.and_eq_true_iff.mp hon).2
  rw [Bool.not_eq_true', List.any_eq_false] at hnone
  have hentry := hnone check hcheck
  rw [Bool.not_eq_true, Bool.or_eq_false_iff, Bool.not_eq_false'] at hentry
  exact hentry.symm

end Panda.Safety
