import Panda.Safety.Checks

/-!
Toyota, `safety_toyota.h`.
-/

namespace Panda.Safety

open Library

structure ToyotaParams where
  altBrake : Bool := false
  stockLongitudinal : Bool := false
  lta : Bool := false
  dbcEpsTorqueFactor : Nat := 100

/-! ### Configurations -/

def toyotaCommonTxMsgs : List CanMsg :=
  [⟨0x2E4, 0, 5⟩, ⟨0x191, 0, 8⟩, ⟨0x412, 0, 8⟩, ⟨0x343, 0, 8⟩, ⟨0x1D2, 0, 8⟩]

def toyotaCommonLongTxMsgs : List CanMsg :=
  toyotaCommonTxMsgs ++
    [⟨0x283, 0, 7⟩, ⟨0x2E6, 0, 8⟩, ⟨0x2E7, 0, 8⟩, ⟨0x33E, 0, 7⟩, ⟨0x344, 0, 8⟩, ⟨0x365, 0, 7⟩,
     ⟨0x366, 0, 7⟩, ⟨0x4CB, 0, 8⟩,
     ⟨0x128, 1, 6⟩, ⟨0x141, 1, 4⟩, ⟨0x160, 1, 8⟩, ⟨0x161, 1, 7⟩, ⟨0x470, 1, 4⟩,
     ⟨0x411, 0, 8⟩, ⟨0x750, 0, 8⟩]

def toyotaCommonRxChecks (lta : Bool) : List RxCheck :=
  [rxCheck { addr := 0xaa, bus := 0, len := 8, frequency := 83 },
   rxCheck { addr := 0x260, bus := 0, len := 8, checkChecksum := true, qualityFlag := lta,
             frequency := 50 },
   rxCheck { addr := 0x1D2, bus := 0, len := 8, checkChecksum := true, frequency := 33 },
   { msg := #v[{ addr := 0x224, bus := 0, len := 8, frequency := 40 },
               { addr := 0x226, bus := 0, len := 8, frequency := 40 }, {}] }]

def toyotaParams (param : UInt16) : ToyotaParams where
  altBrake := getFlag param.toNat (1 <<< 8)
  stockLongitudinal := getFlag param.toNat (2 <<< 8)
  lta := getFlag param.toNat (4 <<< 8)
  dbcEpsTorqueFactor := param.toNat &&& ((1 <<< 8) - 1)

def toyotaInit (param : UInt16) : InitResult ToyotaParams Unit :=
  let params := toyotaParams param
  { cfg :=
      { rxChecks := toyotaCommonRxChecks params.lta
        txMsgs := if params.stockLongitudinal then toyotaCommonTxMsgs else toyotaCommonLongTxMsgs }
    params
    vars := () }

/-! ### Receive -/

def toyotaComputeChecksum (toPush : CANPacket) : UInt32 :=
  let addr := getAddr toPush
  let len := getLen toPush
  let checksum : UInt8 := UInt8.ofNat addr + UInt8.ofNat (addr >>> 8) + UInt8.ofNat len
  ((List.range (len - 1)).foldl (fun checksum i => checksum + getByte8 toPush i) checksum).toUInt32

def toyotaGetChecksum (toPush : CANPacket) : UInt32 :=
  (getByte8 toPush (getLen toPush - 1)).toUInt32

def toyotaGetQualityFlagValid (toPush : CANPacket) : Bool :=
  -- STEER_ANGLE_INITIALIZING
  getAddr toPush == 0x260 && !getBit toPush 3

def toyotaLtaMaxAngle : Int := 1657

/-- EPS motor torque, driver torque and the angle that LTA requests match. -/
def toyotaRxSteering (p : ToyotaParams) (toPush : CANPacket) (s : Signals) : Signals :=
  let torqueMeasNew := toSigned ((getByte toPush 5 <<< 8) ||| getByte toPush 6 : Nat) 16
  let torqueMeas := updateSample s.torqueMeas ((torqueMeasNew * p.dbcEpsTorqueFactor).tdiv 100)
  -- increase torque_meas by 1 to be conservative on rounding
  let torqueMeas := { torqueMeas with min := torqueMeas.min - 1, max := torqueMeas.max + 1 }
  let torqueDriverNew := toSigned ((getByte toPush 1 <<< 8) ||| getByte toPush 2 : Nat) 16
  let angleMeasNew := clamp (toSigned ((getByte toPush 3 <<< 8) ||| getByte toPush 4 : Nat) 16)
    (-toyotaLtaMaxAngle) toyotaLtaMaxAngle
  let steerAngleInitializing := getBit toPush 3
  { s with
    torqueMeas
    torqueDriver := updateSample s.torqueDriver torqueDriverNew
    angleMeas := if steerAngleInitializing then s.angleMeas
      else updateSample s.angleMeas angleMeasNew }

/-- The sum of the four wheel speeds, raw * 0.01 - 67.67. -/
def toyotaWheelSpeedSum (toPush : CANPacket) : Int :=
  ([0, 2, 4, 6].map fun i =>
    (((getByte toPush i <<< 8) ||| getByte toPush (i + 1) : Nat) : Int) - 6767).sum

def toyotaStockEcuDetected (p : ToyotaParams) (addr : Nat) : Bool :=
  addr == 0x2E4 || (!p.stockLongitudinal && addr == 0x343)

def toyotaRxHook (c : Context) (p : ToyotaParams) (toPush : CANPacket) (s : Signals) : Signals :=
  let addr := getAddr toPush
  s |> guarded (getBus toPush = 0) fun s => s
    |> guarded (addr = 0x260) (toyotaRxSteering p toPush)
    |> guarded (addr = 0x1D2) (fun s =>
        { pcmCruiseCheck (getBit toPush 5) s with gasPressed := !getBit toPush 4 })
    |> guarded (addr = 0xaa) (fun s =>
        let speed := toyotaWheelSpeedSum toPush
        { s with vehicleMoving := speed != 0 }
          |> updateVehicleSpeed ((speed : ℚ) / 4 * (1 / 100) / (36 / 10)))
    -- most cars have brake_pressed on 0x226, corolla and rav4 on 0x224
    |> guarded ((addr = 0x224 ∧ p.altBrake) ∨ (addr = 0x226 ∧ ¬ p.altBrake)) (fun s =>
        { s with brakePressed := getBit toPush (if addr = 0x224 then 5 else 37) })
    |> genericRxChecks c (toyotaStockEcuDetected p addr)

/-! ### Transmit -/

def toyotaSteeringLimits : SteeringLimits where
  maxSteer := 1500
  maxRateUp := 15
  maxRateDown := 25
  maxTorqueError := 350
  maxRtDelta := 450
  maxRtInterval := 250000
  type := .torqueMotorLimited
  minValidRequestFrames := 18
  maxInvalidRequestFrames := 1
  minValidRequestRtInterval := 170000
  hasSteerReqTolerance := true
  angleDegToCan := 17452007 / 1000000
  angleRateUpLookup := ⟨![5, 25, 25], ![3 / 10, 15 / 100, 15 / 100]⟩
  angleRateDownLookup := ⟨![5, 25, 25], ![36 / 100, 26 / 100, 26 / 100]⟩

def toyotaLtaMaxMeasTorque : Int := 1500

def toyotaLtaMaxDriverTorque : Int := 150

def toyotaLongLimits : LongitudinalLimits where
  maxAccel := 2000
  minAccel := -3500

def toyotaDesiredAccel (toSend : CANPacket) : Int :=
  toSigned ((getByte toSend 0 <<< 8) ||| getByte toSend 1 : Nat) 16

def toyotaDesiredTorque (toSend : CANPacket) : Int :=
  toSigned ((getByte toSend 1 <<< 8) ||| getByte toSend 2 : Nat) 16

def toyotaSteerReq (toSend : CANPacket) : Bool := getBit toSend 0

def toyotaLtaRequest (toSend : CANPacket) : Bool := getBit toSend 0

def toyotaLtaRequest2 (toSend : CANPacket) : Bool := getBit toSend 25

def toyotaLtaAngle (toSend : CANPacket) : Int :=
  toSigned ((getByte toSend 1 <<< 8) ||| getByte toSend 2 : Nat) 16

def toyotaTorqueWindDown (toSend : CANPacket) : Nat := getByte toSend 5

/-- AEB may only carry its checksum, which is the last byte. -/
def toyotaAebActuation (toSend : CANPacket) : Bool :=
  getBytes toSend 0 4 != 0 || getByte toSend 4 != 0 || getByte toSend 5 != 0

/-- The LTA check: angle rate limits, inactive angle and torque wind down. -/
def toyotaTxLta (p : ToyotaParams) (s : Signals) (toSend : CANPacket) (r : Sending Unit) :
    Sending Unit :=
  let ltaRequest := toyotaLtaRequest toSend
  let ltaRequest2 := toyotaLtaRequest2 toSend
  let torqueWindDown := toyotaTorqueWindDown toSend
  let ltaAngle := toyotaLtaAngle toSend
  let steerControlEnabled := ltaRequest || ltaRequest2
  if !p.lta then
    -- using torque (LKA), block LTA msgs with actuation requests
    block (steerControlEnabled || ltaAngle != 0 || torqueWindDown != 0) r
  else
    let driverTorque := min |s.torqueDriver.min| |s.torqueDriver.max|
    let epsTorque := min |s.torqueMeas.min| |s.torqueMeas.max|
    r |> checkAngle (steerAngleCmdChecks s ltaAngle steerControlEnabled toyotaSteeringLimits)
      |> block (ltaRequest != ltaRequest2)
      -- TORQUE_WIND_DOWN is gated on steer request, and no or full torque
      |> block (!steerControlEnabled && torqueWindDown != 0)
      |> block (torqueWindDown != 0 && torqueWindDown != 100)
      |> block (driverTorque > toyotaLtaMaxDriverTorque && torqueWindDown != 0)
      |> block (epsTorque > toyotaLtaMaxMeasTorque && torqueWindDown != 0)

def toyotaTxLka (c : Context) (p : ToyotaParams) (s : Signals) (toSend : CANPacket)
    (r : Sending Unit) : Sending Unit :=
  let desiredTorque := toyotaDesiredTorque toSend
  let steerReq := toyotaSteerReq toSend
  -- when using LTA (angle control), assert no actuation on LKA message
  if !p.lta then
    checkTorque (steerTorqueCmdChecks c.ts s desiredTorque steerReq.toInt toyotaSteeringLimits) r
  else block (desiredTorque != 0 || steerReq) r

def toyotaTxHook (c : Context) (p : ToyotaParams) (s : Signals) (toSend : CANPacket)
    (commands : Commands) : Sending Unit :=
  let addr := getAddr toSend
  let bus := getBus toSend
  ⟨true, commands, ()⟩
    -- ACCEL: only cancels are allowed when openpilot is not controlling longitudinal
    |> guarded (bus = 0 ∧ addr = 0x343) (block
        (longitudinalAccelChecks s (toyotaDesiredAccel toSend) toyotaLongLimits ||
          (p.stockLongitudinal &&
            (!getBit toSend 24 || toyotaDesiredAccel toSend != toyotaLongLimits.inactiveAccel))))
    -- AEB: block all actuation. only used when DSU is unplugged
    |> guarded (bus = 0 ∧ addr = 0x283) (block (toyotaAebActuation toSend))
    |> guarded (bus = 0 ∧ addr = 0x191) (toyotaTxLta p s toSend)
    |> guarded (bus = 0 ∧ addr = 0x2E4) (toyotaTxLka c p s toSend)
    -- UDS: only tester present to the radar allowed on diagnostics address
    |> guarded (addr = 0x750) (block
        (getBytes toSend 0 4 != 0x003E020F || getBytes toSend 4 4 != 0x0))

/-! ### Forward -/

def toyotaFwdHook (p : ToyotaParams) (busNum addr : Int) : Int :=
  if busNum = 0 then 2
  else if busNum = 2 then
    let isLkasMsg := addr == 0x2E4 || addr == 0x412 || addr == 0x191
    let isAccMsg := addr == 0x343
    if isLkasMsg || (isAccMsg && !p.stockLongitudinal) then -1 else 0
  else -1

def toyotaHooks : SafetyHooks ToyotaParams Unit where
  init param _ _ := toyotaInit param
  rx c p toPush := onSignals (toyotaRxHook c p toPush)
  tx c p s toSend commands _ := toyotaTxHook c p s toSend commands
  fwd p _ := toyotaFwdHook p
  getChecksum := some toyotaGetChecksum
  computeChecksum := some fun _ => toyotaComputeChecksum
  getQualityFlagValid := some toyotaGetQualityFlagValid

end Panda.Safety
