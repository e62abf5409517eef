import Panda.Library.Clock
import Panda.Library.Transition
import Panda.Safety.Checks

/-!
What one call of `steer_torque_cmd_checks` does. A call that finds a violation
or controls disallowed resets the limiter's memory. The others pass the torque
limits and the request check one after the other, and keep what both
remember. Runs of calls are runs of the limiter's memory, whatever the signals,
the commands and the times of the calls.
-/

namespace Panda.Safety

open Library

theorem maxLimitCheck_eq_false {val maxVal minVal : Int} :
    maxLimitCheck val maxVal minVal = false ↔ val ≤ maxVal ∧ minVal ≤ val := by
  simp [maxLimitCheck]

section

variable {ts : UInt32} {s : Signals} {desiredTorque steerReq : Int} {limits : SteeringLimits}
  {t : TorqueState}

/-- The calls after which the memory is kept are those that pass with
controls. -/
theorem steerTorqueCmdChecks_state :
    (steerTorqueCmdChecks ts s desiredTorque steerReq limits t).2 =
      if (steerTorqueCmdChecks ts s desiredTorque steerReq limits t).1 || !s.controlsAllowed then
        resetTorque ts
      else
        (steerReqChecks ts desiredTorque steerReq limits
          (torqueLimitChecks ts s desiredTorque limits t).2).2 := by
  cases hcontrols : s.controlsAllowed with
  | true => simp only [steerTorqueCmdChecks, hcontrols, if_true]
  | false => simp only [steerTorqueCmdChecks, hcontrols, Bool.not_false, Bool.or_true, if_true]

/-- A call that resets the memory. -/
theorem steerTorqueCmdChecks_reset
    (h : (steerTorqueCmdChecks ts s desiredTorque steerReq limits t).1 = true ∨
      s.controlsAllowed = false) :
    (steerTorqueCmdChecks ts s desiredTorque steerReq limits t).2 = resetTorque ts := by
  rw [steerTorqueCmdChecks_state, if_pos]
  rcases h with h | h <;> simp [h]

/-- A call that keeps it passed both checks. -/
theorem steerTorqueCmdChecks_kept (hcontrols : s.controlsAllowed = true)
    (hpass : (steerTorqueCmdChecks ts s desiredTorque steerReq limits t).1 = false) :
    (torqueLimitChecks ts s desiredTorque limits t).1 = false ∧
      (steerReqChecks ts desiredTorque steerReq limits
        (torqueLimitChecks ts s desiredTorque limits t).2).1 = false ∧
      (steerTorqueCmdChecks ts s desiredTorque steerReq limits t).2 =
        (steerReqChecks ts desiredTorque steerReq limits
          (torqueLimitChecks ts s desiredTorque limits t).2).2 := by
  have hstate : (steerTorqueCmdChecks ts s desiredTorque steerReq limits t).2 =
      (steerReqChecks ts desiredTorque steerReq limits
        (torqueLimitChecks ts s desiredTorque limits t).2).2 := by
    rw [steerTorqueCmdChecks_state, hpass, hcontrols]
    rfl
  simp only [steerTorqueCmdChecks, hcontrols, if_true, Bool.or_eq_false_iff] at hpass
  exact ⟨hpass.1.1, hpass.2, hstate⟩

/-- Without controls, only zero torque passes. -/
theorem steerTorqueCmdChecks_off (hcontrols : s.controlsAllowed = false)
    (hpass : (steerTorqueCmdChecks ts s desiredTorque steerReq limits t).1 = false) :
    desiredTorque = 0 := by
  simp only [steerTorqueCmdChecks, hcontrols, Bool.or_eq_false_iff] at hpass
  simpa using hpass.1.2

end

/-! ### Runs of calls -/

/-- The arguments of a call and what it only reads. The time is counted in
microseconds, without wrapping. -/
structure TorqueCall where
  time : Nat
  signals : Signals
  desiredTorque : Int
  steerReq : Int

/-- `microsecond_timer_get()` at the call. -/
def TorqueCall.ts (call : TorqueCall) : UInt32 := timerAt call.time

/-- The violation that the call finds and the memory that it leaves. -/
def TorqueCall.check (call : TorqueCall) (limits : SteeringLimits) (t : TorqueState) :
    Bool × TorqueState :=
  steerTorqueCmdChecks call.ts call.signals call.desiredTorque call.steerReq limits t

/-- The call finds a violation or controls disallowed. -/
def TorqueCall.resets (call : TorqueCall) (limits : SteeringLimits) (t : TorqueState) : Bool :=
  (call.check limits t).1 || !call.signals.controlsAllowed

def torqueStep (limits : SteeringLimits) (t : TorqueState) (call : TorqueCall) : TorqueState :=
  (call.check limits t).2

theorem torqueStep_resets {limits : SteeringLimits} {t : TorqueState} {call : TorqueCall}
    (h : call.resets limits t = true) : torqueStep limits t call = resetTorque call.ts := by
  rw [TorqueCall.resets, Bool.or_eq_true, Bool.not_eq_true'] at h
  exact steerTorqueCmdChecks_reset h

/-- A call that does not reset the memory passed both checks. -/
theorem torqueStep_kept {limits : SteeringLimits} {t : TorqueState} {call : TorqueCall}
    (h : call.resets limits t = false) :
    (torqueLimitChecks call.ts call.signals call.desiredTorque limits t).1 = false ∧
      (steerReqChecks call.ts call.desiredTorque call.steerReq limits
        (torqueLimitChecks call.ts call.signals call.desiredTorque limits t).2).1 = false ∧
      torqueStep limits t call =
        (steerReqChecks call.ts call.desiredTorque call.steerReq limits
          (torqueLimitChecks call.ts call.signals call.desiredTorque limits t).2).2 := by
  simp only [TorqueCall.resets, Bool.or_eq_false_iff, Bool.not_eq_false'] at h
  exact steerTorqueCmdChecks_kept h.2 h.1

end Panda.Safety
