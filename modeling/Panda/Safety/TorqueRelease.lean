import Panda.Safety.Steering
import Panda.Safety.TorqueCheck

/-!
Releasing the wheel. Every limit of `steer_torque_cmd_checks` accepts an interval
around zero, in every state of the limiter: each bound is nested in a maximum or
a minimum that zero cannot leave. So does their conjunction, and a command can be
lowered to zero at any time.
-/

namespace Panda.Safety

/-! ### Intervals around zero -/

/-- The set is an interval of torques that holds zero. -/
def AroundZero (torques : Set Int) : Prop :=
  ∃ lowest highest : Int, lowest ≤ 0 ∧ 0 ≤ highest ∧ torques = Set.Icc lowest highest

theorem AroundZero.zero_mem {torques : Set Int} (h : AroundZero torques) : 0 ∈ torques := by
  obtain ⟨lowest, highest, hlow, hhigh, rfl⟩ := h
  exact ⟨hlow, hhigh⟩

theorem AroundZero.inter {torques torques' : Set Int} (h : AroundZero torques)
    (h' : AroundZero torques') : AroundZero (torques ∩ torques') := by
  obtain ⟨lowest, highest, hlow, hhigh, rfl⟩ := h
  obtain ⟨lowest', highest', hlow', hhigh', rfl⟩ := h'
  refine ⟨max lowest lowest', min highest highest', ?_, ?_, Set.Icc_inter_Icc⟩
  · exact max_le hlow hlow'
  · exact le_min hhigh hhigh'

theorem maxLimitCheck_aroundZero {maxVal minVal : Int} (hmax : 0 ≤ maxVal) (hmin : minVal ≤ 0) :
    AroundZero {val | maxLimitCheck val maxVal minVal = false} := by
  refine ⟨minVal, maxVal, hmin, hmax, ?_⟩
  ext val
  rw [Set.mem_ofPred_eq, maxLimitCheck_eq_false, and_comm]
  exact Iff.rfl

/-! ### The limits -/

theorem driverLimitCheck_aroundZero (valLast : Int) (valDriver : Sample)
    (maxVal maxRateDown maxAllowance driverFactor : Int) {maxRateUp : Int}
    (hup : 0 ≤ maxRateUp) :
    AroundZero {val | driverLimitCheck val valLast valDriver maxVal maxRateUp maxRateDown
      maxAllowance driverFactor = false} := by
  apply maxLimitCheck_aroundZero
  · have hrate : 0 ≤ max valLast 0 + maxRateUp := add_nonneg (le_max_right _ _) hup
    exact le_min hrate (le_max_of_le_right (le_max_right _ _))
  · have hrate : min valLast 0 - maxRateUp ≤ 0 := by omega
    exact max_le hrate (min_le_of_right_le (min_le_right _ _))

theorem distToMeasCheck_aroundZero (valLast : Int) (valMeas : Sample) (maxRateDown : Int)
    {maxRateUp maxError : Int} (hup : 0 ≤ maxRateUp) (herror : 0 ≤ maxError) :
    AroundZero {val | distToMeasCheck val valLast valMeas maxRateUp maxRateDown maxError =
      false} := by
  apply maxLimitCheck_aroundZero
  · have hrate : 0 ≤ max valLast 0 + maxRateUp := add_nonneg (le_max_right _ _) hup
    have hmeas : 0 ≤ max valMeas.max 0 + maxError := add_nonneg (le_max_right _ _) herror
    exact le_min hrate (le_max_of_le_right hmeas)
  · have hrate : min valLast 0 - maxRateUp ≤ 0 := by omega
    have hmeas : min valMeas.min 0 - maxError ≤ 0 := by omega
    exact max_le hrate (min_le_of_right_le hmeas)

theorem rtRateLimitCheck_aroundZero (valLast : Int) {maxRtDelta : Int} (hdelta : 0 ≤ maxRtDelta) :
    AroundZero {val | rtRateLimitCheck val valLast maxRtDelta = false} := by
  apply maxLimitCheck_aroundZero
  · exact add_nonneg (le_max_right _ _) hdelta
  · omega

section

variable {limits : SteeringLimits} (ts : UInt32) (s : Signals) (t : TorqueState)

/-- The limits that apply with controls, all at once. -/
theorem torqueLimitChecks_aroundZero (hlimits : limits.ProperTorque) :
    AroundZero {torque | (torqueLimitChecks ts s torque limits t).1 = false} := by
  have hglobal := maxLimitCheck_aroundZero hlimits.max (neg_nonpos.mpr hlimits.max)
  have hrt := rtRateLimitCheck_aroundZero t.rtTorqueLast hlimits.rtDelta
  have hsplit : ∀ rate : Int → Bool, AroundZero {torque | rate torque = false} →
      AroundZero {torque | (maxLimitCheck torque limits.maxSteer (-limits.maxSteer) ||
        rate torque || rtRateLimitCheck torque t.rtTorqueLast limits.maxRtDelta) = false} := by
    intro rate hrate
    have hall := (hglobal.inter hrate).inter hrt
    simpa only [Bool.or_eq_false_iff, Set.ofPred_and] using hall
  unfold torqueLimitChecks
  cases limits.type with
  | torqueMotorLimited =>
      exact hsplit _ (distToMeasCheck_aroundZero _ _ _ hlimits.rateUp hlimits.error)
  | torqueDriverLimited =>
      exact hsplit _ (driverLimitCheck_aroundZero _ _ _ _ _ _ hlimits.rateUp)

/-- Without a mismatch the request bit is no violation. -/
theorem steerReqChecks_matching {torque steerReq : Int}
    (h : steerReqMismatch torque steerReq = false) :
    (steerReqChecks ts torque steerReq limits t).1 = false := by
  unfold steerReqChecks
  split <;> simp [h]

/-- Zero torque passes in every state, and with controls and a set request bit the
torques that pass are an interval around it. -/
theorem torque_released (hlimits : limits.ProperTorque) :
    (∀ steerReq, (steerTorqueCmdChecks ts s 0 steerReq limits t).1 = false) ∧
      (s.controlsAllowed = true → ∀ steerReq, steerReq ≠ 0 →
        AroundZero {torque | (steerTorqueCmdChecks ts s torque steerReq limits t).1 = false}) := by
  have haround := torqueLimitChecks_aroundZero ts s t hlimits
  constructor
  · intro steerReq
    have hreq : steerReqMismatch 0 steerReq = false := by simp [steerReqMismatch]
    have hzero : (torqueLimitChecks ts s 0 limits t).1 = false := haround.zero_mem
    unfold steerTorqueCmdChecks
    cases s.controlsAllowed with
    | true => simp [hzero, steerReqChecks_matching ts _ hreq]
    | false => simp [steerReqChecks_matching ts _ hreq]
  · intro hcontrols steerReq hne
    have hpass : ∀ torque, (steerTorqueCmdChecks ts s torque steerReq limits t).1 =
        (torqueLimitChecks ts s torque limits t).1 := by
      intro torque
      have hreq : steerReqMismatch torque steerReq = false := by simp [steerReqMismatch, hne]
      simp [steerTorqueCmdChecks, hcontrols, steerReqChecks_matching ts _ hreq]
    simpa only [hpass] using haround

end

theorem torque_released_gm :
    (∀ steerReq, (steerTorqueCmdChecks 0 centred 0 steerReq gmSteeringLimits
        { desiredTorqueLast := 300 }).1 = false) ∧
      (centred.controlsAllowed = true → ∀ steerReq, steerReq ≠ 0 →
        AroundZero {torque | (steerTorqueCmdChecks 0 centred torque steerReq
          gmSteeringLimits { desiredTorqueLast := 300 }).1 = false}) := by
  have hcmd : torqueCommand .gm bootState.params = some
      { addr := 0x180, torque := gmDesiredTorque
        steerReq := fun toSend => (gmSteerReq toSend).toInt, limits := gmSteeringLimits } := rfl
  exact torque_released 0 centred { desiredTorqueLast := 300 } (torqueCommand_proper hcmd)

end Panda.Safety
