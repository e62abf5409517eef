import Panda.Safety.Checks

/-!
Ford, `safety_ford.h`.
-/

namespace Panda.Safety

open Library

def fordEngBrakeData : Nat := 0x165
def fordEngVehicleSpThrottle : Nat := 0x204
def fordDesiredTorqBrk : Nat := 0x213
def fordBrakeSysFeatures : Nat := 0x415
def fordEngVehicleSpThrottle2 : Nat := 0x202
def fordYawDataFd1 : Nat := 0x91
def fordSteeringDataFd1 : Nat := 0x083
def fordAccdata : Nat := 0x186
def fordAccdata3 : Nat := 0x18A
def fordLaneAssistData1 : Nat := 0x3CA
def fordLateralMotionControl : Nat := 0x3D3
def fordLateralMotionControl2 : Nat := 0x3D6
def fordIpmaData : Nat := 0x3D8

def fordMainBus : Nat := 0
def fordCamBus : Nat := 2

structure FordParams where
  longitudinal : Bool := false

/-! ### Configurations -/

def fordRxChecks : List RxCheck :=
  [rxCheck { addr := fordBrakeSysFeatures, bus := 0, len := 8, checkChecksum := true,
             maxCounter := 15, qualityFlag := true, frequency := 50 },
   rxCheck { addr := fordEngVehicleSpThrottle2, bus := 0, len := 8, qualityFlag := true,
             frequency := 50 },
   rxCheck { addr := fordYawDataFd1, bus := 0, len := 8, checkChecksum := true,
             maxCounter := 255, qualityFlag := true, frequency := 100 },
   rxCheck { addr := fordEngBrakeData, bus := 0, len := 8, frequency := 10 },
   rxCheck { addr := fordEngVehicleSpThrottle, bus := 0, len := 8, frequency := 100 },
   rxCheck { addr := fordDesiredTorqBrk, bus := 0, len := 8, frequency := 50 }]

def fordCanfdLongTxMsgs : List CanMsg :=
  [⟨fordSteeringDataFd1, 0, 8⟩, ⟨fordSteeringDataFd1, 2, 8⟩, ⟨fordAccdata, 0, 8⟩,
   ⟨fordAccdata3, 0, 8⟩, ⟨fordLaneAssistData1, 0, 8⟩, ⟨fordLateralMotionControl2, 0, 8⟩,
   ⟨fordIpmaData, 0, 8⟩]

def fordCanfdStockTxMsgs : List CanMsg :=
  [⟨fordSteeringDataFd1, 0, 8⟩, ⟨fordSteeringDataFd1, 2, 8⟩,
   ⟨fordAccdata3, 0, 8⟩, ⟨fordLaneAssistData1, 0, 8⟩, ⟨fordLateralMotionControl2, 0, 8⟩,
   ⟨fordIpmaData, 0, 8⟩]

def fordStockTxMsgs : List CanMsg :=
  [⟨fordSteeringDataFd1, 0, 8⟩, ⟨fordSteeringDataFd1, 2, 8⟩,
   ⟨fordAccdata3, 0, 8⟩, ⟨fordLaneAssistData1, 0, 8⟩, ⟨fordLateralMotionControl, 0, 8⟩,
   ⟨fordIpmaData, 0, 8⟩]

def fordLongTxMsgs : List CanMsg :=
  [⟨fordSteeringDataFd1, 0, 8⟩, ⟨fordSteeringDataFd1, 2, 8⟩, ⟨fordAccdata, 0, 8⟩,
   ⟨fordAccdata3, 0, 8⟩, ⟨fordLaneAssistData1, 0, 8⟩, ⟨fordLateralMotionControl, 0, 8⟩,
   ⟨fordIpmaData, 0, 8⟩]

def fordInit (param : UInt16) : InitResult FordParams Unit :=
  let longitudinal := getFlag param.toNat 1
  let fordCanfd := getFlag param.toNat 2
  { cfg :=
      { rxChecks := fordRxChecks
        txMsgs :=
          if fordCanfd then
            if longitudinal then fordCanfdLongTxMsgs else fordCanfdStockTxMsgs
          else if longitudinal then fordLongTxMsgs else fordStockTxMsgs }
    params := { longitudinal }
    vars := () }

/-! ### Receive -/

def fordGetCounter (toPush : CANPacket) : UInt8 :=
  let addr := getAddr toPush
  if addr = fordBrakeSysFeatures then (getByte8 toPush 2 >>> 2) &&& 0xF
  else if addr = fordYawDataFd1 then getByte8 toPush 5
  else 0

def fordGetChecksum (toPush : CANPacket) : UInt32 :=
  let addr := getAddr toPush
  let chksum : UInt8 :=
    if addr = fordBrakeSysFeatures then getByte8 toPush 3
    else if addr = fordYawDataFd1 then getByte8 toPush 4
    else 0
  chksum.toUInt32

def fordComputeChecksum (toPush : CANPacket) : UInt32 :=
  let addr := getAddr toPush
  let byte := getByte8 toPush
  let chksum : UInt8 :=
    if addr = fordBrakeSysFeatures then
      let sum : UInt8 := byte 0 + byte 1 + (byte 2 >>> 6) + ((byte 2 >>> 2) &&& 0xF)
      0xFF - sum
    else if addr = fordYawDataFd1 then
      let sum : UInt8 := byte 0 + byte 1 + (byte 2 + byte 3) + byte 5 + (byte 6 >>> 6) +
        ((byte 6 >>> 4) &&& 0x3)
      0xFF - sum
    else 0
  chksum.toUInt32

def fordGetQualityFlagValid (toPush : CANPacket) : Bool :=
  let addr := getAddr toPush
  if addr = fordBrakeSysFeatures then (getByte toPush 2 >>> 6) == 0x3
  else if addr = fordEngVehicleSpThrottle2 then ((getByte toPush 4 >>> 5) &&& 0x3) == 0x3
  else if addr = fordYawDataFd1 then ((getByte toPush 6 >>> 4) &&& 0x3) == 0x3
  else false

def fordInactiveCurvature : Nat := 1000
def fordInactiveCurvatureRate : Nat := 4096
def fordInactivePathOffset : Nat := 512
def fordInactivePathAngle : Nat := 1000
def fordCanfdInactiveCurvatureRate : Nat := 1024

/-- `FORD_MAX_SPEED_DELTA`, in m/s. -/
def fordMaxSpeedDelta : ℚ := 2

def fordLkasMsgCheck (addr : Int) : Bool :=
  addr == fordAccdata3 || addr == fordLaneAssistData1 || addr == fordLateralMotionControl ||
    addr == fordLateralMotionControl2 || addr == fordIpmaData

/-- Curvature rate limits. -/
def fordSteeringLimits : SteeringLimits where
  maxSteer := 1000
  angleDegToCan := 50000
  maxAngleError := 100
  angleRateUpLookup := ⟨![5, 25, 25], ![2 / 10000, 1 / 10000, 1 / 10000]⟩
  angleRateDownLookup := ⟨![5, 25, 25], ![225 / 1000000, 15 / 100000, 15 / 100000]⟩
  angleErrorMinSpeed := 10
  enforceAngleError := true
  inactiveAngleIsZero := true

/-- The filtered speed of the PCM, in m/s. -/
def fordFilteredPcmSpeed (toPush : CANPacket) : ℚ :=
  ((getByte toPush 6 <<< 8) ||| getByte toPush 7 : Nat) * (1 / 100) / (36 / 10)

/-- Disable controls if speeds from ABS and PCM ECUs are too far apart. -/
def fordRxSecondSpeed (toPush : CANPacket) (s : Signals) : Signals :=
  let isInvalidSpeed :=
    |fordFilteredPcmSpeed toPush - s.vehicleSpeed.latest / vehicleSpeedFactor| >
      fordMaxSpeedDelta
  { s with controlsAllowed := s.controlsAllowed && !isInvalidSpeed }

/-- The measured curvature, in the unit of the desired curvature on CAN. -/
def fordRxYawRate (toPush : CANPacket) (s : Signals) : Signals :=
  let fordYawRate : ℚ :=
    ((getByte toPush 2 <<< 8) ||| getByte toPush 3 : Nat) * (2 / 10000) - 65 / 10
  let currentCurvature :=
    fordYawRate / max (s.vehicleSpeed.latest / vehicleSpeedFactor) (1 / 10)
  { s with
    angleMeas := updateSample s.angleMeas
      (roundToInt (currentCurvature * fordSteeringLimits.angleDegToCan)) }

/-- Brake pedal and cruise state. -/
def fordRxBrakeCruise (toPush : CANPacket) (s : Signals) : Signals :=
  let cruiseState := getByte toPush 1 &&& 0x07
  { s with brakePressed := ((getByte toPush 0 >>> 4) &&& 0x3) == 2 }
    |> pcmCruiseCheck (cruiseState == 4 || cruiseState == 5)

def fordRxHook (c : Context) (p : FordParams) (toPush : CANPacket) (s : Signals) : Signals :=
  let addr := getAddr toPush
  s |> guarded (getBus toPush = fordMainBus) fun s => s
    |> guarded (addr = fordDesiredTorqBrk) (fun s =>
        { s with vehicleMoving := ((getByte toPush 3 >>> 3) &&& 0x3) != 1 })
    |> guarded (addr = fordBrakeSysFeatures) (updateVehicleSpeed
        (((getByte toPush 0 <<< 8) ||| getByte toPush 1 : Nat) * (1 / 100) / (36 / 10)))
    |> guarded (addr = fordEngVehicleSpThrottle2) (fordRxSecondSpeed toPush)
    |> guarded (addr = fordYawDataFd1) (fordRxYawRate toPush)
    |> guarded (addr = fordEngVehicleSpThrottle) (fun s =>
        { s with gasPressed := (((getByte toPush 0 &&& 0x03) <<< 8) ||| getByte toPush 1) > 0 })
    |> guarded (addr = fordEngBrakeData) (fordRxBrakeCruise toPush)
    |> genericRxChecks c (fordLkasMsgCheck addr || (p.longitudinal && addr == fordAccdata))

/-! ### Transmit -/

def fordLongLimits : LongitudinalLimits where
  maxAccel := 5641
  minAccel := 4231
  inactiveAccel := 5128
  maxGas := 700
  minGas := 450
  inactiveGas := 0

def fordGas (toSend : CANPacket) : Int :=
  ((getByte toSend 6 &&& 0x3) <<< 8) ||| getByte toSend 7

def fordGasPred (toSend : CANPacket) : Int :=
  ((getByte toSend 2 &&& 0x3) <<< 8) ||| getByte toSend 3

def fordAccel (toSend : CANPacket) : Int :=
  ((getByte toSend 0 &&& 0x1F) <<< 8) ||| getByte toSend 1

def fordLaneAssistAction (toSend : CANPacket) : Nat := getByte toSend 0 >>> 5

/-- `LatCtl_D_Rq` of LateralMotionControl. -/
def fordSteerControlEnabled (toSend : CANPacket) : Bool :=
  ((getByte toSend 4 >>> 2) &&& 0x7) != 0

def fordDesiredCurvature (toSend : CANPacket) : Int :=
  ((getByte toSend 0 <<< 3) ||| (getByte toSend 1 >>> 5) : Nat) - (fordInactiveCurvature : Int)

/-- Curvature rate, path angle and path offset are not tested with the limits. -/
def fordPathViolation (toSend : CANPacket) : Bool :=
  let rawCurvatureRate := ((getByte toSend 1 &&& 0x1F) <<< 8) ||| getByte toSend 2
  let rawPathAngle := (getByte toSend 3 <<< 3) ||| (getByte toSend 4 >>> 5)
  let rawPathOffset := (getByte toSend 5 <<< 2) ||| (getByte toSend 6 >>> 6)
  rawCurvatureRate != fordInactiveCurvatureRate || rawPathAngle != fordInactivePathAngle ||
    rawPathOffset != fordInactivePathOffset

/-- `LatCtl_D2_Rq` of LateralMotionControl2. -/
def fordSteerControlEnabled2 (toSend : CANPacket) : Bool :=
  ((getByte toSend 0 >>> 4) &&& 0x7) != 0

def fordDesiredCurvature2 (toSend : CANPacket) : Int :=
  ((getByte toSend 2 <<< 3) ||| (getByte toSend 3 >>> 5) : Nat) - (fordInactiveCurvature : Int)

def fordPathViolation2 (toSend : CANPacket) : Bool :=
  let rawCurvatureRate := (getByte toSend 6 <<< 3) ||| (getByte toSend 7 >>> 5)
  let rawPathAngle := ((getByte toSend 3 &&& 0x1F) <<< 6) ||| (getByte toSend 4 >>> 2)
  let rawPathOffset := ((getByte toSend 4 &&& 0x3) <<< 8) ||| getByte toSend 5
  rawCurvatureRate != fordCanfdInactiveCurvatureRate || rawPathAngle != fordInactivePathAngle ||
    rawPathOffset != fordInactivePathOffset

def fordTxHook (s : Signals) (toSend : CANPacket) (commands : Commands) : Sending Unit :=
  let addr := getAddr toSend
  ⟨true, commands, ()⟩
    -- ACCDATA accel and brake requests; do not prevent stock AEB actuation
    |> guarded (addr = fordAccdata) (block
        (longitudinalAccelChecks s (fordAccel toSend) fordLongLimits ||
          longitudinalGasChecks s (fordGas toSend) fordLongLimits ||
          longitudinalGasChecks s (fordGasPred toSend) fordLongLimits ||
          getBit toSend 37))
    -- cancel only when cruise is engaged, resume only with controls allowed
    |> guarded (addr = fordSteeringDataFd1) (block
        ((getBit toSend 8 && !s.cruiseEngagedPrev) || (getBit toSend 25 && !s.controlsAllowed)))
    |> guarded (addr = fordLaneAssistData1) (block (fordLaneAssistAction toSend != 0))
    |> guarded (addr = fordLateralMotionControl) (fun r => r
        |> block (fordPathViolation toSend)
        |> checkAngle (steerAngleCmdChecks s (fordDesiredCurvature toSend)
            (fordSteerControlEnabled toSend) fordSteeringLimits))
    |> guarded (addr = fordLateralMotionControl2) (fun r => r
        |> block (fordPathViolation2 toSend)
        |> checkAngle (steerAngleCmdChecks s (fordDesiredCurvature2 toSend)
            (fordSteerControlEnabled2 toSend) fordSteeringLimits))

/-! ### Forward -/

def fordFwdHook (p : FordParams) (busNum addr : Int) : Int :=
  if busNum = fordMainBus then fordCamBus
  else if busNum = fordCamBus then
    if fordLkasMsgCheck addr then -1
    else if p.longitudinal && addr == fordAccdata then -1
    else fordMainBus
  else -1

def fordHooks : SafetyHooks FordParams Unit where
  init param _ _ := fordInit param
  rx c p toPush := onSignals (fordRxHook c p toPush)
  tx _ _ s toSend commands _ := fordTxHook s toSend commands
  fwd p _ := fordFwdHook p
  getCounter := some fordGetCounter
  getChecksum := some fordGetChecksum
  computeChecksum := some fun _ => fordComputeChecksum
  getQualityFlagValid := some fordGetQualityFlagValid

end Panda.Safety
