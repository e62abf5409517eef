import Panda.Library.Clock
import Panda.Safety.Engagement

/-!
Lagging checks. Each entry of the check list remembers when its message was
last processed, on the 32-bit timer, and the tick compares the time since then
with the lag threshold of the entry. The timer wraps, so the tick sees the
elapsed time modulo the timer's range, and it misses a lagging entry while that
remainder is within the threshold.
-/

namespace Panda.Safety

open Library

/-- A call of the safety code at a time of the unbounded clock. -/
inductive TimedCall where
  | rx (time : Nat) (toPush : CANPacket)
  | tx (time : Nat) (toSend : CANPacket)
  | tick (time : Nat)

/-- The call as the code sees it, with the timer for the clock. -/
def TimedCall.event : TimedCall → Event
  | .rx time toPush => .rx (timerAt time) toPush
  | .tx time toSend => .tx (timerAt time) toSend
  | .tick time => .tick (timerAt time)

def timedStep (s : State) (call : TimedCall) : State := step s call.event

/-- The threshold of `safety_tick` for an entry: 1 s or ten expected periods. -/
def lagThreshold (check : RxCheck) : Nat :=
  max (1000000 / check.selected.frequency * maxMissedMsgs) 1000000

/-- The time at which a call processes a message of the entry. -/
def processedTime (i : Nat) (s : State) : TimedCall → Option Nat
  | .rx time toPush =>
      if (getAddrCheckIndex toPush s.cfg.rxChecks).1 = some i then some time else none
  | _ => none

/-- When the last message of the entry was processed, in a run that starts with
the clock at zero and no message seen. -/
def lastProcessed (i : Nat) (s : State) (calls : List TimedCall) : Nat :=
  (lastReport timedStep (processedTime i) s calls).getD 0

/-- The timestamp of an entry of the list. -/
def lastTimestamp (i : Nat) (s : State) : Option UInt32 :=
  s.cfg.rxChecks[i]?.map fun check => check.status.lastTimestamp

/-! ### Timestamps -/

theorem selectVariant_lastTimestamp (toPush : CANPacket) (check : RxCheck) :
    (selectVariant toPush check).status.lastTimestamp = check.status.lastTimestamp := by
  unfold selectVariant
  split
  · rfl
  · split
    · rfl
    · rfl

theorem getAddrCheckIndex_lastTimestamp (toPush : CANPacket) (rxChecks : List RxCheck) :
    (getAddrCheckIndex toPush rxChecks).2.map (fun check => check.status.lastTimestamp) =
      rxChecks.map fun check => check.status.lastTimestamp := by
  induction rxChecks with
  | nil => rfl
  | cons check rest ih =>
      simp only [getAddrCheckIndex]
      split
      · rw [List.map_cons, List.map_cons, selectVariant_lastTimestamp]
      · rw [List.map_cons, List.map_cons, selectVariant_lastTimestamp, ih]

theorem checkMsg_lastTimestamp (hooks : SafetyHooks ModeParams ModeVars) (params : ModeParams)
    (ts : UInt32) (toPush : CANPacket) (check : RxCheck) :
    (checkMsg hooks params ts toPush check).status.lastTimestamp = ts := by
  have hcounter : ∀ entry : RxCheck,
      (checkCounter hooks toPush entry).status.lastTimestamp = entry.status.lastTimestamp := by
    intro entry
    unfold checkCounter
    split
    · split
      · rfl
      · rfl
    · rfl
  exact hcounter (checkChecksum hooks params toPush (updateAddrTimestamp ts check))

/-- A received message sets the timestamp of the entry that it matches. -/
theorem rx_lastTimestamp (i : Nat) (s : State) (ts : UInt32) (toPush : CANPacket) :
    lastTimestamp i (safetyRxHook ts toPush s) =
      if (getAddrCheckIndex toPush s.cfg.rxChecks).1 = some i then some ts
      else lastTimestamp i s := by
  have hmap := getAddrCheckIndex_lastTimestamp toPush s.cfg.rxChecks
  have hkept : (getAddrCheckIndex toPush s.cfg.rxChecks).2[i]?.map
      (fun check => check.status.lastTimestamp) = lastTimestamp i s := by
    have hentry := congrArg (fun timestamps => timestamps[i]?) hmap
    simp only [List.getElem?_map] at hentry
    exact hentry
  change (s.rxChecksAfter ts toPush)[i]?.map _ = _
  unfold State.rxChecksAfter rxMsgSafetyCheck
  cases hlookup : getAddrCheckIndex toPush s.cfg.rxChecks with
  | mk index after =>
      rw [hlookup] at hkept
      cases index with
      | none => exact hkept
      | some index =>
          by_cases hindex : index = i
          · subst hindex
            obtain ⟨check, hcheck, -⟩ := getAddrCheckIndex_some hlookup
            simp [hcheck, checkMsg_lastTimestamp]
          · simpa [hindex, List.getElem?_modify] using hkept

theorem tick_lastTimestamp (i : Nat) (s : State) (ts : UInt32) :
    lastTimestamp i (safetyTick ts s) = lastTimestamp i s := by
  simp only [lastTimestamp, safetyTick, List.getElem?_map, Option.map_map]
  rfl

theorem timedStep_lastTimestamp (i : Nat) (s : State) (call : TimedCall) :
    lastTimestamp i (timedStep s call) =
      ((processedTime i s call).map fun time => some (timerAt time)).getD
        (lastTimestamp i s) := by
  cases call with
  | rx time toPush =>
      refine (rx_lastTimestamp i s (timerAt time) toPush).trans ?_
      simp only [processedTime]
      by_cases hindex : (getAddrCheckIndex toPush s.cfg.rxChecks).1 = some i
      · rw [if_pos hindex, if_pos hindex]
        rfl
      · rw [if_neg hindex, if_neg hindex]
        rfl
  | tx time toSend => rfl
  | tick time => exact tick_lastTimestamp i s (timerAt time)

/-- An entry that was reset before the run has the timestamp of its last
processed message. -/
theorem run_lastTimestamp {s : State}
    (hreset : ∀ check ∈ s.cfg.rxChecks, check.status = {}) {calls : List TimedCall} {i : Nat}
    {check : RxCheck} (hcheck : (run timedStep s calls).cfg.rxChecks[i]? = some check) :
    check.status.lastTimestamp = timerAt (lastProcessed i s calls) := by
  have hrun := run_eq_lastReport (timedStep_lastTimestamp i) s calls
  have hentry : lastTimestamp i (run timedStep s calls) = some check.status.lastTimestamp := by
    rw [lastTimestamp, hcheck]
    rfl
  rw [hentry] at hrun
  unfold lastProcessed
  cases hlast : lastReport timedStep (processedTime i) s calls with
  | some time =>
      rw [hlast] at hrun
      exact Option.some.inj hrun
  | none =>
      rw [hlast] at hrun
      have hstart : lastTimestamp i s = some check.status.lastTimestamp := hrun.symm
      obtain ⟨entry, hget, htimestamp⟩ := Option.map_eq_some_iff.mp hstart
      rw [← htimestamp, hreset entry (List.mem_of_getElem? hget)]
      rfl

/-! ### Ticks -/

/-- The tick marked the entry, ended controls and reported the checks
invalid. -/
structure LagDetected (i : Nat) (s : State) : Prop where
  lagging : ∃ check, s.cfg.rxChecks[i]? = some check ∧ check.status.lagging = true
  controls : s.signals.controlsAllowed = false
  invalid : s.safetyRxChecksInvalid = true

theorem safetyTick_lagDetected_iff {ts : UInt32} {s : State} {i : Nat} {check : RxCheck}
    (hcheck : s.cfg.rxChecks[i]? = some check) :
    LagDetected i (safetyTick ts s) ↔
      lagThreshold check < (ts - check.status.lastTimestamp).toNat := by
  have hentry : (safetyTick ts s).cfg.rxChecks[i]? = some (checkLagging ts check) := by
    simp [safetyTick, hcheck]
  have hlagging : (checkLagging ts check).status.lagging = true ↔
      lagThreshold check < (ts - check.status.lastTimestamp).toNat := by
    simp only [checkLagging, decide_eq_true_eq]
    rfl
  rw [← hlagging]
  constructor
  · rintro ⟨⟨entry, hget, hlag⟩, -, -⟩
    rw [hentry] at hget
    rw [Option.some.inj hget]
    exact hlag
  · intro hlag
    have hinvalid : (safetyTick ts s).safetyRxChecksInvalid = true := by
      apply List.any_eq_true.mpr
      refine ⟨checkLagging ts check, List.mem_of_getElem? hentry, ?_⟩
      simp [hlag]
    refine ⟨⟨_, hentry, hlag⟩, ?_, hinvalid⟩
    change (s.signals.controlsAllowed && !(safetyTick ts s).safetyRxChecksInvalid) = false
    rw [hinvalid, Bool.not_true, Bool.and_false]

/-- A tick of a run detects that no message of the entry was processed for
longer than the threshold exactly when the time since the last one, modulo the
range of the timer, is above the threshold. -/
theorem lag_detected_iff {s : State} (hreset : ∀ check ∈ s.cfg.rxChecks, check.status = {})
    {calls : List TimedCall} {i : Nat} {check : RxCheck}
    (hcheck : (run timedStep s calls).cfg.rxChecks[i]? = some check) (time : Nat) :
    (∀ since ≥ lastProcessed i s calls, since + lagThreshold check < time →
        LagDetected i (safetyTick (timerAt time) (run timedStep s calls))) ↔
      (lastProcessed i s calls + lagThreshold check < time →
        lagThreshold check < (time - lastProcessed i s calls) % 2 ^ 32) := by
  have htimestamp := run_lastTimestamp hreset hcheck
  rw [safetyTick_lagDetected_iff hcheck, htimestamp]
  constructor
  · intro hall hlate
    have hdetected := hall (lastProcessed i s calls) le_rfl hlate
    rw [timerAt_sub_toNat (by omega)] at hdetected
    exact hdetected
  · intro hcondition since hsince hlate
    rw [timerAt_sub_toNat (by omega)]
    apply hcondition
    omega

/-- The wheel speeds of a Toyota, which its first check expects 83 times a
second. -/
def wheelSpeedsAt (time : Nat) : TimedCall := .rx time (.ofBytes 0xaa 0 8 [])

/-- The wheel speeds are silent for 3 s. -/
theorem lag_detected_toyota :
    LagDetected 0 (safetyTick (timerAt 3000005)
      (run timedStep (setSafetyHooks safetyToyota 0 bootState) [wheelSpeedsAt 5])) := by
  have hlast : lastProcessed 0 (setSafetyHooks safetyToyota 0 bootState) [wheelSpeedsAt 5] = 5 := by
    decide
  have hentry : (run timedStep (setSafetyHooks safetyToyota 0 bootState)
      [wheelSpeedsAt 5]).cfg.rxChecks[0]?.map lagThreshold = some 1000000 := by decide
  obtain ⟨check, hcheck, hthreshold⟩ := Option.map_eq_some_iff.mp hentry
  have hiff := lag_detected_iff (setSafetyHooks_reset safetyToyota 0 bootState) hcheck 3000005
  rw [hlast, hthreshold] at hiff
  exact hiff.mpr (by decide) 5 le_rfl (by decide)

/-- The wheel speeds are silent for one round of the timer. -/
theorem lag_missed_after_wrap :
    ¬ ∀ (s : State) (calls : List TimedCall) (i : Nat) (check : RxCheck) (time : Nat),
      (∀ check ∈ s.cfg.rxChecks, check.status = {}) →
      (run timedStep s calls).cfg.rxChecks[i]? = some check →
      ∀ since ≥ lastProcessed i s calls, since + lagThreshold check < time →
        LagDetected i (safetyTick (timerAt time) (run timedStep s calls)) := by
  intro hall
  have hlast : lastProcessed 0 (setSafetyHooks safetyToyota 0 bootState) [wheelSpeedsAt 5] = 5 := by
    decide
  have hentry : (run timedStep (setSafetyHooks safetyToyota 0 bootState)
      [wheelSpeedsAt 5]).cfg.rxChecks[0]?.map lagThreshold = some 1000000 := by decide
  obtain ⟨check, hcheck, hthreshold⟩ := Option.map_eq_some_iff.mp hentry
  have hreset := setSafetyHooks_reset safetyToyota 0 bootState
  obtain ⟨⟨entry, hget, hlagging⟩, -, -⟩ :=
    hall _ [wheelSpeedsAt 5] 0 check (5 + 2 ^ 32) hreset hcheck 5 (by rw [hlast])
      (by rw [hthreshold]; decide)
  have hmissed : (safetyTick (timerAt (5 + 2 ^ 32))
      (run timedStep (setSafetyHooks safetyToyota 0 bootState)
        [wheelSpeedsAt 5])).cfg.rxChecks[0]?.map (fun entry => entry.status.lagging) =
      some false := by decide
  rw [hget, Option.map_some, hlagging] at hmissed
  cases hmissed

end Panda.Safety
