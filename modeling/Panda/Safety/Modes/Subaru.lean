import Panda.Safety.Checks

/-!
Subaru global and preglobal platforms, `safety_subaru.h` and
`safety_subaru_preglobal.h`.
-/

namespace Panda.Safety

open Library

structure SubaruParams where
  gen2 : Bool := false
  longitudinal : Bool := false

def subaruBrakeStatus : Nat := 0x13c
def subaruCruiseControl : Nat := 0x240
def subaruThrottle : Nat := 0x40
def subaruSteeringTorque : Nat := 0x119
def subaruWheelSpeeds : Nat := 0x13a
def subaruEsLkas : Nat := 0x122
def subaruEsBrake : Nat := 0x220
def subaruEsDistance : Nat := 0x221
def subaruEsStatus : Nat := 0x222
def subaruEsDashStatus : Nat := 0x321
def subaruEsLkasState : Nat := 0x322
def subaruEsInfotainment : Nat := 0x323
def subaruEsUdsRequest : Nat := 0x787
def subaruEsHighBeamAssist : Nat := 0x121
def subaruEsStatic1 : Nat := 0x22a
def subaruEsStatic2 : Nat := 0x325

def subaruMainBus : Nat := 0
def subaruAltBus : Nat := 1
def subaruCamBus : Nat := 2

/-! ### Configurations -/

def subaruCommonTxMsgs (altBus lkasMsg : Nat) : List CanMsg :=
  [⟨lkasMsg, subaruMainBus, 8⟩, ⟨subaruEsDistance, altBus, 8⟩,
   ⟨subaruEsDashStatus, subaruMainBus, 8⟩, ⟨subaruEsLkasState, subaruMainBus, 8⟩,
   ⟨subaruEsInfotainment, subaruMainBus, 8⟩]

def subaruCommonLongTxMsgs (altBus : Nat) : List CanMsg :=
  [⟨subaruEsBrake, altBus, 8⟩, ⟨subaruEsStatus, altBus, 8⟩]

def subaruGen2LongAdditionalTxMsgs : List CanMsg :=
  [⟨subaruEsUdsRequest, subaruCamBus, 8⟩, ⟨subaruEsHighBeamAssist, subaruMainBus, 8⟩,
   ⟨subaruEsStatic1, subaruMainBus, 8⟩, ⟨subaruEsStatic2, subaruMainBus, 8⟩]

def subaruTxMsgs : List CanMsg := subaruCommonTxMsgs subaruMainBus subaruEsLkas

def subaruLongTxMsgs : List CanMsg :=
  subaruCommonTxMsgs subaruMainBus subaruEsLkas ++ subaruCommonLongTxMsgs subaruMainBus

def subaruGen2TxMsgs : List CanMsg := subaruCommonTxMsgs subaruAltBus subaruEsLkas

def subaruGen2LongTxMsgs : List CanMsg :=
  subaruCommonTxMsgs subaruAltBus subaruEsLkas ++ subaruCommonLongTxMsgs subaruAltBus ++
    subaruGen2LongAdditionalTxMsgs

def subaruCommonRxChecks (altBus : Nat) : List RxCheck :=
  let check (addr bus frequency : Nat) : RxCheck :=
    rxCheck { addr, bus, len := 8, checkChecksum := true, maxCounter := 15, frequency }
  [check subaruThrottle subaruMainBus 100, check subaruSteeringTorque subaruMainBus 50,
   check subaruWheelSpeeds altBus 50, check subaruBrakeStatus altBus 50,
   check subaruCruiseControl altBus 20]

def subaruInit (param : UInt16) : InitResult SubaruParams Unit :=
  let gen2 := getFlag param.toNat 1
  let longitudinal := getFlag param.toNat 2
  { cfg :=
      if gen2 then
        ⟨subaruCommonRxChecks subaruAltBus,
          if longitudinal then subaruGen2LongTxMsgs else subaruGen2TxMsgs⟩
      else
        ⟨subaruCommonRxChecks subaruMainBus,
          if longitudinal then subaruLongTxMsgs else subaruTxMsgs⟩
    params := { gen2, longitudinal }
    vars := () }

/-! ### Receive -/

def subaruGetChecksum (toPush : CANPacket) : UInt32 := (getByte8 toPush 0).toUInt32

def subaruGetCounter (toPush : CANPacket) : UInt8 := getByte8 toPush 1 &&& 0xF

def subaruComputeChecksum (toPush : CANPacket) : UInt32 :=
  let addr := getAddr toPush
  let checksum : UInt8 := UInt8.ofNat addr + UInt8.ofNat (addr >>> 8)
  ((List.range (getLen toPush - 1)).foldl
    (fun checksum i => checksum + getByte8 toPush (i + 1)) checksum).toUInt32

def subaruAltMainBus (p : SubaruParams) : Nat := if p.gen2 then subaruAltBus else subaruMainBus

/-- Driver torque, and the steering angle in centidegrees. -/
def subaruRxSteeringTorque (toPush : CANPacket) (s : Signals) : Signals :=
  let torqueDriverNew := -1 * toSigned ((getBytes toPush 0 4 >>> 16) &&& 0x7FF : Nat) 11
  let angleMeasNew := toSigned (getBytes toPush 4 2 &&& 0xFFFF : Nat) 16
  { s with
    torqueDriver := updateSample s.torqueDriver torqueDriverNew
    angleMeas := updateSample s.angleMeas (roundToInt ((angleMeasNew : ℚ) * (-217 / 100))) }

/-- Vehicle moving with any non-zero wheel speed, and the average speed. -/
def subaruRxWheelSpeeds (toPush : CANPacket) (s : Signals) : Signals :=
  let fr := (getBytes toPush 1 3 >>> 4) &&& 0x1FFF
  let rr := (getBytes toPush 3 3 >>> 1) &&& 0x1FFF
  let rl := (getBytes toPush 4 3 >>> 6) &&& 0x1FFF
  let fl := (getBytes toPush 6 2 >>> 3) &&& 0x1FFF
  { s with vehicleMoving := fr > 0 || rr > 0 || rl > 0 || fl > 0 }
    |> updateVehicleSpeed (((fr + rr + rl + fl) / 4 : Nat) * (57 / 1000))

def subaruRxHook (c : Context) (p : SubaruParams) (toPush : CANPacket) (s : Signals) : Signals :=
  let bus := getBus toPush
  let addr := getAddr toPush
  let altMainBus := subaruAltMainBus p
  s
    |> guarded (addr = subaruSteeringTorque ∧ bus = subaruMainBus) (subaruRxSteeringTorque toPush)
    |> guarded (addr = subaruCruiseControl ∧ bus = altMainBus) (pcmCruiseCheck (getBit toPush 41))
    |> guarded (addr = subaruWheelSpeeds ∧ bus = altMainBus) (subaruRxWheelSpeeds toPush)
    |> guarded (addr = subaruBrakeStatus ∧ bus = altMainBus) (fun s =>
        { s with brakePressed := getBit toPush 62 })
    |> guarded (addr = subaruThrottle ∧ bus = subaruMainBus) (fun s =>
        { s with gasPressed := getByte toPush 4 != 0 })
    |> genericRxChecks c (addr == subaruEsLkas && bus == subaruMainBus)

/-! ### Transmit -/

def subaruSteeringLimitsGenerator (steerMax rateUp rateDown : Int) : SteeringLimits where
  maxSteer := steerMax
  maxRtDelta := 940
  maxRtInterval := 250000
  maxRateUp := rateUp
  maxRateDown := rateDown
  driverTorqueFactor := 50
  driverTorqueAllowance := 60
  type := .torqueDriverLimited
  minValidRequestFrames := 7
  maxInvalidRequestFrames := 1
  minValidRequestRtInterval := 144000
  hasSteerReqTolerance := true

def subaruSteeringLimits (p : SubaruParams) : SteeringLimits :=
  if p.gen2 then subaruSteeringLimitsGenerator 1000 40 40
  else subaruSteeringLimitsGenerator 2047 50 70

def subaruLongLimits : LongitudinalLimits where
  minGas := 808
  maxGas := 3400
  inactiveGas := 1818
  maxBrake := 600
  minTransmissionRpm := 0
  maxTransmissionRpm := 3600

def subaruDesiredTorque (toSend : CANPacket) : Int :=
  -1 * toSigned ((getBytes toSend 0 4 >>> 16) &&& 0x1FFF : Nat) 13

def subaruSteerReq (toSend : CANPacket) : Bool := getBit toSend 29

def subaruEsBrakePressure (toSend : CANPacket) : Int := getBytes toSend 2 2

def subaruCruiseThrottle (toSend : CANPacket) : Int := (getBytes toSend 2 2 &&& 0x1FFF : Nat)

def subaruTransmissionRpm (toSend : CANPacket) : Int := (getBytes toSend 2 2 &&& 0x1FFF : Nat)

/-- Tester present, or reading ES button data by identifier. -/
def subaruUdsAllowed (toSend : CANPacket) : Bool :=
  (getBytes toSend 0 4 == 0x00803E02 && getBytes toSend 4 4 == 0x0) ||
    (getBytes toSend 0 4 == 0x30112203 && getBytes toSend 4 4 == 0x0)

def subaruTxHook (c : Context) (p : SubaruParams) (s : Signals) (toSend : CANPacket)
    (commands : Commands) : Sending Unit :=
  let addr := getAddr toSend
  ⟨true, commands, ()⟩
    |> guarded (addr = subaruEsLkas) (checkTorque
        (steerTorqueCmdChecks c.ts s (subaruDesiredTorque toSend) (subaruSteerReq toSend).toInt
          (subaruSteeringLimits p)))
    |> guarded (addr = subaruEsBrake) (block
        (longitudinalBrakeChecks s (subaruEsBrakePressure toSend) subaruLongLimits))
    -- check es_distance cruise_throttle limits; only cruise cancel requests on stock longitudinal
    |> guarded (addr = subaruEsDistance) (block
        (if p.longitudinal then
          longitudinalGasChecks s (subaruCruiseThrottle toSend) subaruLongLimits
        else subaruCruiseThrottle toSend != subaruLongLimits.inactiveGas || !getBit toSend 56))
    |> guarded (addr = subaruEsStatus) (block
        (longitudinalTransmissionRpmChecks s (subaruTransmissionRpm toSend) subaruLongLimits))
    |> guarded (addr = subaruEsUdsRequest) (block (!subaruUdsAllowed toSend))

/-! ### Forward -/

def subaruFwdHook (p : SubaruParams) (busNum addr : Int) : Int :=
  if busNum = subaruMainBus then subaruCamBus
  else if busNum = subaruCamBus then
    let blockLkas := addr == subaruEsLkas || addr == subaruEsDashStatus ||
      addr == subaruEsLkasState || addr == subaruEsInfotainment
    let blockLong := addr == subaruEsBrake || addr == subaruEsDistance || addr == subaruEsStatus
    if blockLkas || (p.longitudinal && blockLong) then -1 else subaruMainBus
  else -1

def subaruHooks : SafetyHooks SubaruParams Unit where
  init param _ _ := subaruInit param
  rx c p toPush := onSignals (subaruRxHook c p toPush)
  tx c p s toSend commands _ := subaruTxHook c p s toSend commands
  fwd p _ := subaruFwdHook p
  getCounter := some subaruGetCounter
  getChecksum := some subaruGetChecksum
  computeChecksum := some fun _ => subaruComputeChecksum

/-! ### Preglobal platform -/

structure SubaruPreglobalParams where
  reversedDriverTorque : Bool := false

def subaruPgCruiseControl : Nat := 0x144
def subaruPgThrottle : Nat := 0x140
def subaruPgWheelSpeeds : Nat := 0xD4
def subaruPgBrakePedal : Nat := 0xD1
def subaruPgEsLkas : Nat := 0x164
def subaruPgEsDistance : Nat := 0x161
def subaruPgSteeringTorque : Nat := 0x371

def subaruPgMainBus : Nat := 0
def subaruPgCamBus : Nat := 2

def subaruPgTxMsgs : List CanMsg :=
  [⟨subaruPgEsDistance, subaruPgMainBus, 8⟩, ⟨subaruPgEsLkas, subaruPgMainBus, 8⟩]

def subaruPreglobalRxChecks : List RxCheck :=
  [rxCheck { addr := subaruPgThrottle, bus := subaruPgMainBus, len := 8, frequency := 100 },
   rxCheck { addr := subaruPgSteeringTorque, bus := subaruPgMainBus, len := 8, frequency := 50 },
   rxCheck { addr := subaruPgCruiseControl, bus := subaruPgMainBus, len := 8, frequency := 20 }]

def subaruPreglobalInit (param : UInt16) : InitResult SubaruPreglobalParams Unit where
  cfg := ⟨subaruPreglobalRxChecks, subaruPgTxMsgs⟩
  params := { reversedDriverTorque := getFlag param.toNat 1 }
  vars := ()

def subaruPreglobalRxHook (c : Context) (p : SubaruPreglobalParams) (toPush : CANPacket)
    (s : Signals) : Signals :=
  let addr := getAddr toPush
  s |> guarded (getBus toPush = subaruPgMainBus) fun s => s
    |> guarded (addr = subaruPgSteeringTorque) (fun s =>
        let torqueDriverNew :=
          toSigned ((getByte toPush 3 >>> 5) + (getByte toPush 4 <<< 3) : Nat) 11
        let torqueDriverNew :=
          if p.reversedDriverTorque then -torqueDriverNew else torqueDriverNew
        { s with torqueDriver := updateSample s.torqueDriver torqueDriverNew })
    |> guarded (addr = subaruPgCruiseControl) (pcmCruiseCheck (getBit toPush 49))
    |> guarded (addr = subaruPgWheelSpeeds) (fun s =>
        { s with vehicleMoving :=
            (getBytes toPush 0 4 >>> 12) != 0 || getBytes toPush 4 4 != 0 })
    |> guarded (addr = subaruPgBrakePedal) (fun s =>
        { s with brakePressed := ((getBytes toPush 0 4 >>> 16) &&& 0xFF) > 0 })
    |> guarded (addr = subaruPgThrottle) (fun s =>
        { s with gasPressed := getByte toPush 0 != 0 })
    |> genericRxChecks c (addr == subaruPgEsLkas)

def subaruPgSteeringLimits : SteeringLimits where
  maxSteer := 2047
  maxRtDelta := 940
  maxRtInterval := 250000
  maxRateUp := 50
  maxRateDown := 70
  driverTorqueFactor := 10
  driverTorqueAllowance := 75
  type := .torqueDriverLimited

def subaruPgDesiredTorque (toSend : CANPacket) : Int :=
  -1 * toSigned ((getBytes toSend 0 4 >>> 8) &&& 0x1FFF : Nat) 13

def subaruPgSteerReq (toSend : CANPacket) : Bool := getBit toSend 24

def subaruPreglobalTxHook (c : Context) (s : Signals) (toSend : CANPacket)
    (commands : Commands) : Sending Unit :=
  ⟨true, commands, ()⟩
    |> guarded (getAddr toSend = subaruPgEsLkas) (checkTorque
        (steerTorqueCmdChecks c.ts s (subaruPgDesiredTorque toSend)
          (subaruPgSteerReq toSend).toInt subaruPgSteeringLimits))

def subaruPreglobalFwdHook (busNum addr : Int) : Int :=
  if busNum = subaruPgMainBus then subaruPgCamBus
  else if busNum = subaruPgCamBus then
    if addr == subaruPgEsDistance || addr == subaruPgEsLkas then -1 else subaruPgMainBus
  else -1

def subaruPreglobalHooks : SafetyHooks SubaruPreglobalParams Unit where
  init param _ _ := subaruPreglobalInit param
  rx c p toPush := onSignals (subaruPreglobalRxHook c p toPush)
  tx c _ s toSend commands _ := subaruPreglobalTxHook c s toSend commands
  fwd _ _ := subaruPreglobalFwdHook

end Panda.Safety
