import Panda.Safety.Steering
import Panda.Safety.TorqueCheck

/-!
Left and right are alike to the steering limits. The code writes the upper and the
lower bound of each limit out separately; negating the command, the memory and the
samples turns each into the other. The exception is the last clamp of the angle
check, whose bounds are the wrong way round when the maximum is negative.
-/

namespace Panda.Safety

open Library

/-! ### The mirror image of what the checks read -/

/-- The sample of the negated signal. -/
def Sample.mirror (sample : Sample) : Sample where
  values := sample.values.map (- ·)
  min := -sample.max
  max := -sample.min

/-- What the steering checks read of the signals is mirrored: controls and speed are
equal, torques and angles negated. -/
structure Signals.Mirrors (s s' : Signals) : Prop where
  controls : s'.controlsAllowed = s.controlsAllowed
  speed : s'.vehicleSpeed = s.vehicleSpeed
  driver : s'.torqueDriver = s.torqueDriver.mirror
  torqueMeas : s'.torqueMeas = s.torqueMeas.mirror
  angleMeas : s'.angleMeas = s.angleMeas.mirror

def TorqueState.mirror (t : TorqueState) : TorqueState :=
  { t with desiredTorqueLast := -t.desiredTorqueLast, rtTorqueLast := -t.rtTorqueLast }

def Commands.mirror (c : Commands) : Commands where
  torque := c.torque.mirror
  desiredAngleLast := -c.desiredAngleLast

/-! ### The limits -/

theorem maxLimitCheck_neg (val maxVal minVal : Int) :
    maxLimitCheck (-val) (-minVal) (-maxVal) = maxLimitCheck val maxVal minVal := by
  simp only [maxLimitCheck, gt_iff_lt, neg_lt_neg_iff]
  exact Bool.or_comm _ _

/-- Two limit checks whose bounds are the negated bounds of each other. -/
theorem maxLimitCheck_mirror {val maxVal minVal maxVal' minVal' : Int} (hmax : maxVal' = -minVal)
    (hmin : minVal' = -maxVal) :
    maxLimitCheck (-val) maxVal' minVal' = maxLimitCheck val maxVal minVal := by
  rw [hmax, hmin, maxLimitCheck_neg]

theorem max_neg_zero (x : Int) : max (-x) 0 = -min x 0 := by
  rw [← max_neg_neg, neg_zero]

theorem min_neg_zero (x : Int) : min (-x) 0 = -max x 0 := by
  rw [← min_neg_neg, neg_zero]

theorem neg_add_rate (x rate : Int) : -x + rate = -(x - rate) := by
  rw [neg_sub, neg_add_eq_sub]

theorem driverLimitCheck_mirror (val valLast : Int) (valDriver : Sample)
    (maxVal maxRateUp maxRateDown maxAllowance driverFactor : Int) :
    driverLimitCheck (-val) (-valLast) valDriver.mirror maxVal maxRateUp maxRateDown maxAllowance
        driverFactor =
      driverLimitCheck val valLast valDriver maxVal maxRateUp maxRateDown maxAllowance
        driverFactor := by
  have hdriver : maxVal + (maxAllowance + valDriver.mirror.max) * driverFactor =
      -(-maxVal + (-maxAllowance + valDriver.min) * driverFactor) := by
    simp only [Sample.mirror]
    ring
  have hdriver' : -maxVal + (-maxAllowance + valDriver.mirror.min) * driverFactor =
      -(maxVal + (maxAllowance + valDriver.max) * driverFactor) := by
    simp only [Sample.mirror]
    ring
  unfold driverLimitCheck
  rw [hdriver, hdriver']
  simp only [max_neg_zero, min_neg_zero, neg_add_rate, ← neg_add', max_neg_neg, min_neg_neg]
  exact maxLimitCheck_neg _ _ _

theorem distToMeasCheck_mirror (val valLast : Int) (valMeas : Sample)
    (maxRateUp maxRateDown maxError : Int) :
    distToMeasCheck (-val) (-valLast) valMeas.mirror maxRateUp maxRateDown maxError =
      distToMeasCheck val valLast valMeas maxRateUp maxRateDown maxError := by
  unfold distToMeasCheck
  simp only [Sample.mirror, max_neg_zero, min_neg_zero, neg_add_rate, ← neg_add', max_neg_neg,
    min_neg_neg]
  exact maxLimitCheck_neg _ _ _

theorem rtRateLimitCheck_mirror (val valLast maxRtDelta : Int) :
    rtRateLimitCheck (-val) (-valLast) maxRtDelta = rtRateLimitCheck val valLast maxRtDelta := by
  unfold rtRateLimitCheck
  simp only [max_neg_zero, min_neg_zero, neg_add_rate, ← neg_add']
  exact maxLimitCheck_neg _ _ _

theorem neg_bne_zero (val : Int) : (-val != 0) = (val != 0) := by
  rw [Bool.eq_iff_iff]
  simp

/-! ### Torque commands -/

section

variable {ts : UInt32} {s s' : Signals} {desiredTorque steerReq : Int} {limits : SteeringLimits}
  {t : TorqueState}

theorem torqueLimitChecks_mirror (hs : s.Mirrors s') :
    torqueLimitChecks ts s' (-desiredTorque) limits t.mirror =
      ((torqueLimitChecks ts s desiredTorque limits t).1,
        (torqueLimitChecks ts s desiredTorque limits t).2.mirror) := by
  have hglobal : maxLimitCheck (-desiredTorque) limits.maxSteer (-limits.maxSteer) =
      maxLimitCheck desiredTorque limits.maxSteer (-limits.maxSteer) :=
    maxLimitCheck_mirror (neg_neg _).symm rfl
  have hdriver := driverLimitCheck_mirror desiredTorque t.desiredTorqueLast s.torqueDriver
  have hmeas := distToMeasCheck_mirror desiredTorque t.desiredTorqueLast s.torqueMeas
  have hrt := rtRateLimitCheck_mirror desiredTorque t.rtTorqueLast
  unfold torqueLimitChecks TorqueState.mirror
  rcases em (getTsElapsed ts t.tsTorqueCheckLast > limits.maxRtInterval) with hdue | hrecent
  · simp only [hs.driver, hs.torqueMeas, hglobal, hdriver, hmeas, hrt, hdue, if_true]
  · simp only [hs.driver, hs.torqueMeas, hglobal, hdriver, hmeas, hrt, hrecent, if_false]

theorem steerReqMismatch_neg (desiredTorque steerReq : Int) :
    steerReqMismatch (-desiredTorque) steerReq = steerReqMismatch desiredTorque steerReq := by
  rw [steerReqMismatch, steerReqMismatch, neg_bne_zero]

/-- The request check does not look at the sign of the torque. -/
theorem steerReqChecks_mirror :
    steerReqChecks ts (-desiredTorque) steerReq limits t.mirror =
      ((steerReqChecks ts desiredTorque steerReq limits t).1,
        (steerReqChecks ts desiredTorque steerReq limits t).2.mirror) := by
  unfold steerReqChecks
  rw [steerReqMismatch_neg]
  split
  · rfl
  · split <;> rfl

theorem resetTorque_mirror (ts : UInt32) : (resetTorque ts).mirror = resetTorque ts := rfl

theorem steerTorqueCmdChecks_mirror (hs : s.Mirrors s') :
    steerTorqueCmdChecks ts s' (-desiredTorque) steerReq limits t.mirror =
      ((steerTorqueCmdChecks ts s desiredTorque steerReq limits t).1,
        (steerTorqueCmdChecks ts s desiredTorque steerReq limits t).2.mirror) := by
  have hlimited : (if s.controlsAllowed then
        torqueLimitChecks ts s' (-desiredTorque) limits t.mirror else (false, t.mirror)) =
      ((if s.controlsAllowed then torqueLimitChecks ts s desiredTorque limits t
          else (false, t)).1,
        (if s.controlsAllowed then torqueLimitChecks ts s desiredTorque limits t
          else (false, t)).2.mirror) := by
    rw [torqueLimitChecks_mirror hs]
    split <;> rfl
  simp only [steerTorqueCmdChecks, hs.controls, hlimited, steerReqChecks_mirror, neg_bne_zero]
  rw [apply_ite TorqueState.mirror, resetTorque_mirror]

end

/-! ### Angle commands -/

theorem deltaHighest_neg (last up down : Int) :
    deltaHighest (-last) up down = deltaLowest last up down := by
  unfold deltaHighest deltaLowest
  split_ifs <;> first | rfl | omega

theorem deltaLowest_neg (last up down : Int) :
    deltaLowest (-last) up down = deltaHighest last up down := by
  unfold deltaHighest deltaLowest
  split_ifs <;> first | rfl | omega

theorem clamp_neg {x high : Int} (h : 0 ≤ high) :
    clamp (-x) (-high) high = -clamp x (-high) high := by
  unfold clamp
  split_ifs <;> omega

section

variable {s s' : Signals} {desiredAngle last : Int} {limits : SteeringLimits}

theorem deltaAngle_mirror (hs : s.Mirrors s') (lookup : Lookup) :
    deltaAngle s' limits lookup = deltaAngle s limits lookup := by
  rw [deltaAngle, deltaAngle, hs.speed]

theorem deltaAngleLower_mirror (hs : s.Mirrors s') (lookup : Lookup) :
    deltaAngleLower s' limits lookup = deltaAngleLower s limits lookup := by
  rw [deltaAngleLower, deltaAngleLower, hs.speed]

/-- The accepted range of the mirrored state is the mirrored range. -/
theorem desiredAngleRange_mirror (hs : s.Mirrors s')
    (hmax : limits.enforceAngleError = true → 0 ≤ limits.maxSteer) :
    desiredAngleRange s' limits (-last) =
      (-(desiredAngleRange s limits last).2, -(desiredAngleRange s limits last).1) := by
  simp only [desiredAngleRange, deltaAngle_mirror hs, deltaAngleLower_mirror hs, hs.speed,
    hs.angleMeas, deltaHighest_neg, deltaLowest_neg]
  cases henforce : limits.enforceAngleError with
  | false =>
      simp only [Bool.false_and, Bool.false_eq_true, if_false, Prod.mk.injEq]
      omega
  | true =>
      have hmax : 0 ≤ limits.maxSteer := hmax henforce
      split
      · simp only [← clamp_neg hmax, Sample.mirror, Prod.mk.injEq]
        constructor <;> (congr 1; omega)
      · simp only [Prod.mk.injEq]
        omega

theorem steerAngleCmdChecks_mirror (hs : s.Mirrors s')
    (hmax : limits.enforceAngleError = true → 0 ≤ limits.maxSteer) (steerControlEnabled : Bool) :
    steerAngleCmdChecks s' (-desiredAngle) steerControlEnabled limits (-last) =
      ((steerAngleCmdChecks s desiredAngle steerControlEnabled limits last).1,
        -(steerAngleCmdChecks s desiredAngle steerControlEnabled limits last).2) := by
  have hinactive : maxLimitCheck (-desiredAngle) (s'.angleMeas.max + 1) (s'.angleMeas.min - 1) =
      maxLimitCheck desiredAngle (s.angleMeas.max + 1) (s.angleMeas.min - 1) := by
    rw [hs.angleMeas]
    apply maxLimitCheck_mirror <;> (simp only [Sample.mirror]; omega)
  simp only [steerAngleCmdChecks, desiredAngleRange_mirror hs hmax, maxLimitCheck_neg, hs.controls,
    neg_bne_zero, hinactive]

end

/-! ### Runs of calls -/

/-- A call of one of the two checks, with what it only reads. -/
inductive SteerCall where
  | torque (ts : UInt32) (signals : Signals) (desiredTorque steerReq : Int)
  | angle (signals : Signals) (desiredAngle : Int) (steerControlEnabled : Bool)

/-- The violation that the call finds and the memory that it leaves. -/
def SteerCall.check (limits : SteeringLimits) (c : Commands) : SteerCall → Bool × Commands
  | .torque ts s desiredTorque steerReq =>
      let checked := steerTorqueCmdChecks ts s desiredTorque steerReq limits c.torque
      (checked.1, { c with torque := checked.2 })
  | .angle s desiredAngle steerControlEnabled =>
      let checked := steerAngleCmdChecks s desiredAngle steerControlEnabled limits
        c.desiredAngleLast
      (checked.1, { c with desiredAngleLast := checked.2 })

def steerStep (limits : SteeringLimits) (c : Commands) (call : SteerCall) : Commands :=
  (call.check limits c).2

def steerViolation (limits : SteeringLimits) (c : Commands) (call : SteerCall) : Bool :=
  (call.check limits c).1

/-- The same call for the other side. -/
inductive SteerCall.Mirrors : SteerCall → SteerCall → Prop
  | torque {s s' : Signals} (hs : s.Mirrors s') (ts : UInt32) (desiredTorque steerReq : Int) :
      Mirrors (.torque ts s desiredTorque steerReq) (.torque ts s' (-desiredTorque) steerReq)
  | angle {s s' : Signals} (hs : s.Mirrors s') (desiredAngle : Int) (steerControlEnabled : Bool) :
      Mirrors (.angle s desiredAngle steerControlEnabled)
        (.angle s' (-desiredAngle) steerControlEnabled)

theorem SteerCall.check_mirror {limits : SteeringLimits}
    (hmax : limits.enforceAngleError = true → 0 ≤ limits.maxSteer) {call call' : SteerCall}
    (h : call.Mirrors call') (c : Commands) :
    call'.check limits c.mirror = ((call.check limits c).1, (call.check limits c).2.mirror) := by
  cases h with
  | torque hs ts desiredTorque steerReq =>
      simp only [SteerCall.check, Commands.mirror, steerTorqueCmdChecks_mirror hs]
  | angle hs desiredAngle steerControlEnabled =>
      simp only [SteerCall.check, Commands.mirror, steerAngleCmdChecks_mirror hs hmax]

/-- Mirrored runs find the same violations and end in mirrored memories. -/
theorem steering_mirrored {limits : SteeringLimits}
    (hmax : limits.enforceAngleError = true → 0 ≤ limits.maxSteer) (c : Commands)
    {calls calls' : List SteerCall} (h : List.Forall₂ SteerCall.Mirrors calls calls') :
    trace (steerStep limits) (steerViolation limits) c calls =
        trace (steerStep limits) (steerViolation limits) c.mirror calls' ∧
      run (steerStep limits) c.mirror calls' = (run (steerStep limits) c calls).mirror := by
  refine lockstep_of_pairs (R := fun (c c' : Commands) => c' = c.mirror) ?_ rfl h
  rintro c _ call call' hcall rfl
  have hcheck := SteerCall.check_mirror hmax hcall c
  constructor
  · exact (congrArg Prod.fst hcheck).symm
  · exact congrArg Prod.snd hcheck

theorem zeroSample_mirror : zeroSample.mirror = zeroSample := by
  simp [zeroSample, Sample.mirror]

/-- A measured angle of one. -/
def oneRight : Sample := ⟨#v[1, 1, 1, 1, 1, 1], 1, 1⟩

/-- Controls in a turn: a torque of the motor, of the driver and an angle are measured. -/
def inTurn : Signals :=
  { centred with
    torqueMeas := ⟨#v[40, 45, 38, 40, 41, 42], 38, 45⟩
    torqueDriver := ⟨#v[5, 7, 6, 5, 5, 6], 5, 7⟩
    angleMeas := oneRight }

/-- The same turn to the other side. -/
def inOtherTurn : Signals :=
  { centred with
    torqueMeas := inTurn.torqueMeas.mirror
    torqueDriver := inTurn.torqueDriver.mirror
    angleMeas := oneRight.mirror }

/-- Torques and angles in a turn under the limits of Toyota: the last two calls ask for
more than the rates allow. -/
def turnCalls : List SteerCall :=
  [.torque 0 inTurn 10 1, .angle inTurn 3 true, .torque 20000 inTurn 20 1,
    .torque 40000 inTurn 300 1, .angle inTurn 700 true]

def otherTurnCalls : List SteerCall :=
  [.torque 0 inOtherTurn (-10) 1, .angle inOtherTurn (-3) true, .torque 20000 inOtherTurn (-20) 1,
    .torque 40000 inOtherTurn (-300) 1, .angle inOtherTurn (-700) true]

/-- The turn and its mirror image: the first three calls are accepted on both sides, the
last two are violations on both. -/
theorem steering_mirrored_turn :
    trace (steerStep toyotaSteeringLimits) (steerViolation toyotaSteeringLimits) {} turnCalls =
        [false, false, false, true, true] ∧
      trace (steerStep toyotaSteeringLimits) (steerViolation toyotaSteeringLimits) {} turnCalls =
        trace (steerStep toyotaSteeringLimits) (steerViolation toyotaSteeringLimits)
          (Commands.mirror {}) otherTurnCalls ∧
      run (steerStep toyotaSteeringLimits) (Commands.mirror {}) otherTurnCalls =
        (run (steerStep toyotaSteeringLimits) {} turnCalls).mirror := by
  have hs : inTurn.Mirrors inOtherTurn := ⟨rfl, rfl, rfl, rfl, rfl⟩
  have hcalls : List.Forall₂ SteerCall.Mirrors turnCalls otherTurnCalls :=
    .cons (.torque hs 0 10 1) <| .cons (.angle hs 3 true) <| .cons (.torque hs 20000 20 1) <|
      .cons (.torque hs 40000 300 1) <| .cons (.angle hs 700 true) .nil
  refine ⟨by decide +kernel, steering_mirrored ?_ {} hcalls⟩
  intro henforce
  cases henforce

/-- A negative maximum, with the distance to the measured angle enforced. -/
def negativeMaxSteer : SteeringLimits where
  maxSteer := -1
  angleErrorMinSpeed := -1
  enforceAngleError := true

theorem not_steering_mirrored_negative :
    SteerCall.Mirrors (.angle { centred with angleMeas := oneRight } (-1) true)
        (.angle { centred with angleMeas := oneRight.mirror } 1 true) ∧
      trace (steerStep negativeMaxSteer) (steerViolation negativeMaxSteer) {}
          [.angle { centred with angleMeas := oneRight } (-1) true] = [false] ∧
      trace (steerStep negativeMaxSteer) (steerViolation negativeMaxSteer) (Commands.mirror {})
          [.angle { centred with angleMeas := oneRight.mirror } 1 true] = [true] := by
  have hs : ({ centred with angleMeas := oneRight } : Signals).Mirrors
      { centred with angleMeas := oneRight.mirror } :=
    ⟨rfl, rfl, zeroSample_mirror.symm, zeroSample_mirror.symm, rfl⟩
  refine ⟨.angle hs (-1) true, ?_, ?_⟩
  · decide +kernel
  · decide +kernel

end Panda.Safety
