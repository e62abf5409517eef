import Panda.Safety.Declarations

/-!
The checks of `board/safety.h` that the hooks of the safety modes share: the
pedal and relay checks of the receive side, cruise engagement, and the limits
on longitudinal and steering commands of the transmit side.
-/

namespace Panda.Safety

def altExpDisableDisengageOnGas : Nat := 1

def altExpDisableStockAeb : Nat := 2

def genericRxChecks (c : Context) (stockEcuDetected : Bool) (s : Signals) : Signals :=
  let s := { s with
    controlsAllowed := s.controlsAllowed &&
      !(s.gasPressed && !s.gasPressedPrev &&
        (c.alternativeExperience &&& altExpDisableDisengageOnGas) == 0)
    gasPressedPrev := s.gasPressed }
  let s := { s with
    controlsAllowed := s.controlsAllowed &&
      !(s.brakePressed && (!s.brakePressedPrev || s.vehicleMoving))
    brakePressedPrev := s.brakePressed }
  let s := { s with
    controlsAllowed := s.controlsAllowed &&
      !(s.regenBraking && (!s.regenBrakingPrev || s.vehicleMoving))
    regenBrakingPrev := s.regenBraking }
  -- RELAY_TRNS_TIMEOUT is 1 s
  { s with relayMalfunction := s.relayMalfunction || (c.safetyModeCnt > 1 && stockEcuDetected) }

def pcmCruiseCheck (cruiseEngaged : Bool) (s : Signals) : Signals :=
  { s with
    controlsAllowed := (s.controlsAllowed && cruiseEngaged) ||
      (cruiseEngaged && !s.cruiseEngagedPrev)
    cruiseEngagedPrev := cruiseEngaged }

def getLongitudinalAllowed (s : Signals) : Bool :=
  s.controlsAllowed && !s.gasPressedPrev

def maxLimitCheck (val maxVal minVal : Int) : Bool :=
  val > maxVal || val < minVal

/-- `dist_to_meas_check`: the command is not too far from the measured one. -/
def distToMeasCheck (val valLast : Int) (valMeas : Sample)
    (maxRateUp maxRateDown maxError : Int) : Bool :=
  let highestAllowedRl := max valLast 0 + maxRateUp
  let lowestAllowedRl := min valLast 0 - maxRateUp
  let highestAllowed := min highestAllowedRl
    (max (valLast - maxRateDown) (max valMeas.max 0 + maxError))
  let lowestAllowed := max lowestAllowedRl
    (min (valLast + maxRateDown) (min valMeas.min 0 - maxError))
  maxLimitCheck val highestAllowed lowestAllowed

/-- `driver_limit_check`: the command is not fighting against the driver. -/
def driverLimitCheck (val valLast : Int) (valDriver : Sample)
    (maxVal maxRateUp maxRateDown maxAllowance driverFactor : Int) : Bool :=
  let highestAllowedRl := max valLast 0 + maxRateUp
  let lowestAllowedRl := min valLast 0 - maxRateUp
  let driverMaxLimit := maxVal + (maxAllowance + valDriver.max) * driverFactor
  let driverMinLimit := -maxVal + (-maxAllowance + valDriver.min) * driverFactor
  let highestAllowed := min highestAllowedRl (max (valLast - maxRateDown) (max driverMaxLimit 0))
  let lowestAllowed := max lowestAllowedRl (min (valLast + maxRateDown) (min driverMinLimit 0))
  maxLimitCheck val highestAllowed lowestAllowed

def rtRateLimitCheck (val valLast maxRtDelta : Int) : Bool :=
  maxLimitCheck val (max valLast 0 + maxRtDelta) (min valLast 0 - maxRtDelta)

/-- The C conversion of a floating point value to `int`. -/
def truncToInt (val : ℚ) : Int := val.num.tdiv val.den

/-- `ROUND`. -/
def roundToInt (val : ℚ) : Int :=
  truncToInt (val + if val > 0 then 1 / 2 else -1 / 2)

/-- One segment of `interpolate`, with the guard against a zero `dx`. -/
def interpolateSegment (x0 x1 y0 y1 x : ℚ) : ℚ :=
  (y1 - y0) * (x - x0) / max (x1 - x0) (1 / 10000) + y0

/-- `interpolate`, in exact rationals: extreme values are held. -/
def interpolate (xy : Lookup) (x : ℚ) : ℚ :=
  if x ≤ xy.x 0 then xy.y 0
  else if x < xy.x 1 then interpolateSegment (xy.x 0) (xy.x 1) (xy.y 0) (xy.y 1) x
  else if x < xy.x 2 then interpolateSegment (xy.x 1) (xy.x 2) (xy.y 1) (xy.y 2) x
  else xy.y 2

/-- `VEHICLE_SPEED_FACTOR`, the scale of the speed samples. -/
def vehicleSpeedFactor : ℚ := 100

def updateVehicleSpeed (valMs : ℚ) (s : Signals) : Signals :=
  { s with vehicleSpeed := updateSample s.vehicleSpeed (roundToInt (valMs * vehicleSpeedFactor)) }

/-! ### Longitudinal commands; `true` is a violation -/

/-- A request is passed when it is inactive, or when longitudinal control is
allowed and it is within its limits. -/
def longitudinalRequestCheck (s : Signals) (desired maxVal minVal inactive : Int) : Bool :=
  let valid := getLongitudinalAllowed s && !maxLimitCheck desired maxVal minVal
  !(valid || desired == inactive)

def longitudinalAccelChecks (s : Signals) (desiredAccel : Int) (limits : LongitudinalLimits) :
    Bool :=
  longitudinalRequestCheck s desiredAccel limits.maxAccel limits.minAccel limits.inactiveAccel

def longitudinalSpeedChecks (s : Signals) (desiredSpeed : Int) (limits : LongitudinalLimits) :
    Bool :=
  !getLongitudinalAllowed s && desiredSpeed != limits.inactiveSpeed

def longitudinalTransmissionRpmChecks (s : Signals) (desiredTransmissionRpm : Int)
    (limits : LongitudinalLimits) : Bool :=
  longitudinalRequestCheck s desiredTransmissionRpm limits.maxTransmissionRpm
    limits.minTransmissionRpm limits.inactiveTransmissionRpm

def longitudinalGasChecks (s : Signals) (desiredGas : Int) (limits : LongitudinalLimits) : Bool :=
  longitudinalRequestCheck s desiredGas limits.maxGas limits.minGas limits.inactiveGas

def longitudinalBrakeChecks (s : Signals) (desiredBrake : Int) (limits : LongitudinalLimits) :
    Bool :=
  (!getLongitudinalAllowed s && desiredBrake != 0) || desiredBrake > limits.maxBrake

/-! ### Torque commands -/

/-- The `if (controls_allowed)` block of `steer_torque_cmd_checks`: the global,
rate and real time limits. -/
def torqueLimitChecks (ts : UInt32) (s : Signals) (desiredTorque : Int)
    (limits : SteeringLimits) (t : TorqueState) : Bool × TorqueState :=
  let limitViolation := maxLimitCheck desiredTorque limits.maxSteer (-limits.maxSteer)
  let rateViolation := match limits.type with
    | .torqueDriverLimited =>
        driverLimitCheck desiredTorque t.desiredTorqueLast s.torqueDriver limits.maxSteer
          limits.maxRateUp limits.maxRateDown limits.driverTorqueAllowance
          limits.driverTorqueFactor
    | .torqueMotorLimited =>
        distToMeasCheck desiredTorque t.desiredTorqueLast s.torqueMeas limits.maxRateUp
          limits.maxRateDown limits.maxTorqueError
  let rtViolation := rtRateLimitCheck desiredTorque t.rtTorqueLast limits.maxRtDelta
  let t := { t with desiredTorqueLast := desiredTorque }
  -- every RT_INTERVAL set the new limits
  let t := if getTsElapsed ts t.tsTorqueCheckLast > limits.maxRtInterval then
      { t with rtTorqueLast := desiredTorque, tsTorqueCheckLast := ts }
    else t
  (limitViolation || rateViolation || rtViolation, t)

/-- `steer_req_mismatch`: torque without the request bit. -/
def steerReqMismatch (desiredTorque steerReq : Int) : Bool :=
  steerReq == 0 && desiredTorque != 0

/-- The request bit block of `steer_torque_cmd_checks`. -/
def steerReqChecks (ts : UInt32) (desiredTorque steerReq : Int) (limits : SteeringLimits)
    (t : TorqueState) : Bool × TorqueState :=
  if !limits.hasSteerReqTolerance then
    (steerReqMismatch desiredTorque steerReq, t)
  else if steerReqMismatch desiredTorque steerReq then
    let violation :=
      if t.invalidSteerReqCount == 0 then
        -- not enough recent matching messages, or torque was cut too recently
        t.validSteerReqCount < limits.minValidRequestFrames ||
          getTsElapsed ts t.tsSteerReqMismatchLast < limits.minValidRequestRtInterval
      else
        -- more frames cut consecutively than allowed
        t.invalidSteerReqCount ≥ limits.maxInvalidRequestFrames
    (violation, { t with
      validSteerReqCount := 0
      tsSteerReqMismatchLast := ts
      invalidSteerReqCount := min (t.invalidSteerReqCount + 1) limits.maxInvalidRequestFrames })
  else
    (false, { t with
      validSteerReqCount := min (t.validSteerReqCount + 1) limits.minValidRequestFrames
      invalidSteerReqCount := 0 })

/-- The memory after a violation or without controls. -/
def resetTorque (ts : UInt32) : TorqueState where
  tsTorqueCheckLast := ts
  tsSteerReqMismatchLast := ts

def steerTorqueCmdChecks (ts : UInt32) (s : Signals) (desiredTorque steerReq : Int)
    (limits : SteeringLimits) (t : TorqueState) : Bool × TorqueState :=
  let limited := if s.controlsAllowed then torqueLimitChecks ts s desiredTorque limits t
    else (false, t)
  -- no torque if controls is not allowed
  let violation := limited.1 || (!s.controlsAllowed && desiredTorque != 0)
  let requested := steerReqChecks ts desiredTorque steerReq limits limited.2
  let violation := violation || requested.1
  (violation, if violation || !s.controlsAllowed then resetTorque ts else requested.2)

/-! ### Angle commands -/

/-- `delta_angle_up` and `delta_angle_down`: the rate limit of the lookup at
the lowest sampled speed, fudged by 1 m/s and rounded up. -/
def deltaAngle (s : Signals) (limits : SteeringLimits) (lookup : Lookup) : Int :=
  truncToInt (interpolate lookup (s.vehicleSpeed.min / vehicleSpeedFactor - 1) *
    limits.angleDegToCan + 1)

/-- `delta_angle_up_lower` and `delta_angle_down_lower`. -/
def deltaAngleLower (s : Signals) (limits : SteeringLimits) (lookup : Lookup) : Int :=
  truncToInt (interpolate lookup (s.vehicleSpeed.max / vehicleSpeedFactor + 1) *
    limits.angleDegToCan)

/-- The rate of a move to higher values: away from zero on the right of it. -/
def deltaHighest (desiredAngleLast up down : Int) : Int :=
  if desiredAngleLast > 0 then up else down

def deltaLowest (desiredAngleLast up down : Int) : Int :=
  if desiredAngleLast ≥ 0 then down else up

def clamp (x low high : Int) : Int :=
  if x > high then high else if x < low then low else x

/-- The range of desired angles that `steer_angle_cmd_checks` accepts with
controls allowed and steering enabled: lowest and highest. -/
def desiredAngleRange (s : Signals) (limits : SteeringLimits) (desiredAngleLast : Int) :
    Int × Int :=
  let up := deltaAngle s limits limits.angleRateUpLookup
  let down := deltaAngle s limits limits.angleRateDownLookup
  let highest := desiredAngleLast + deltaHighest desiredAngleLast up down
  let lowest := desiredAngleLast - deltaLowest desiredAngleLast up down
  if limits.enforceAngleError &&
      s.vehicleSpeed.latest / vehicleSpeedFactor > limits.angleErrorMinSpeed then
    let upLower := deltaAngleLower s limits limits.angleRateUpLookup
    let downLower := deltaAngleLower s limits limits.angleRateDownLookup
    let highestLower := desiredAngleLast + deltaHighest desiredAngleLast upLower downLower
    let lowestLower := desiredAngleLast - deltaLowest desiredAngleLast upLower downLower
    let lowest := min (max lowest (s.angleMeas.min - limits.maxAngleError - 1)) highestLower
    let highest := max (min highest (s.angleMeas.max + limits.maxAngleError + 1)) lowestLower
    (clamp lowest (-limits.maxSteer) limits.maxSteer,
      clamp highest (-limits.maxSteer) limits.maxSteer)
  else (lowest, highest)

/-- `steer_angle_cmd_checks`. The desired angle is stored on every call. -/
def steerAngleCmdChecks (s : Signals) (desiredAngle : Int) (steerControlEnabled : Bool)
    (limits : SteeringLimits) (desiredAngleLast : Int) : Bool × Int :=
  let rateViolation := s.controlsAllowed && steerControlEnabled &&
    (let range := desiredAngleRange s limits desiredAngleLast
     maxLimitCheck desiredAngle range.2 range.1)
  -- angle should either be 0 or same as current angle while not steering
  let inactiveViolation := !steerControlEnabled &&
    (if limits.inactiveAngleIsZero then desiredAngle != 0
     else maxLimitCheck desiredAngle (s.angleMeas.max + 1) (s.angleMeas.min - 1))
  (rateViolation || inactiveViolation || (!s.controlsAllowed && steerControlEnabled), desiredAngle)

end Panda.Safety
