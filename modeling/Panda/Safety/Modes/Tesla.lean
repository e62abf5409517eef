import Panda.Safety.Checks

/-!
Tesla, `safety_tesla.h`.
-/

namespace Panda.Safety

open Library

structure TeslaParams where
  longitudinal : Bool := false
  /-- the second panda, intercepting the powertrain bus -/
  powertrain : Bool := false
  raven : Bool := false

structure TeslaVars where
  stockAeb : Bool := false

/-! ### Configurations -/

def teslaTxMsgs : List CanMsg := [⟨0x488, 0, 4⟩, ⟨0x45, 0, 8⟩, ⟨0x45, 2, 8⟩, ⟨0x2b9, 0, 8⟩]

def teslaPtTxMsgs : List CanMsg := [⟨0x2bf, 0, 8⟩]

def teslaPtRxChecks : List RxCheck :=
  [rxCheck { addr := 0x106, bus := 0, len := 8, frequency := 100 },
   rxCheck { addr := 0x116, bus := 0, len := 6, frequency := 100 },
   rxCheck { addr := 0x1f8, bus := 0, len := 8, frequency := 50 },
   rxCheck { addr := 0x2bf, bus := 2, len := 8, frequency := 25 },
   rxCheck { addr := 0x256, bus := 0, len := 8, frequency := 10 }]

def teslaRavenRxChecks : List RxCheck :=
  [rxCheck { addr := 0x2b9, bus := 2, len := 8, frequency := 25 },
   rxCheck { addr := 0x131, bus := 2, len := 8, frequency := 100 },
   rxCheck { addr := 0x108, bus := 0, len := 8, frequency := 100 },
   rxCheck { addr := 0x118, bus := 0, len := 6, frequency := 100 },
   rxCheck { addr := 0x20a, bus := 0, len := 8, frequency := 50 },
   rxCheck { addr := 0x368, bus := 0, len := 8, frequency := 10 },
   rxCheck { addr := 0x318, bus := 0, len := 8, frequency := 10 }]

def teslaRxChecks : List RxCheck :=
  [rxCheck { addr := 0x2b9, bus := 2, len := 8, frequency := 25 },
   rxCheck { addr := 0x370, bus := 0, len := 8, frequency := 25 },
   rxCheck { addr := 0x108, bus := 0, len := 8, frequency := 100 },
   rxCheck { addr := 0x118, bus := 0, len := 6, frequency := 100 },
   rxCheck { addr := 0x20a, bus := 0, len := 8, frequency := 50 },
   rxCheck { addr := 0x368, bus := 0, len := 8, frequency := 10 },
   rxCheck { addr := 0x318, bus := 0, len := 8, frequency := 10 }]

def teslaParams (param : UInt16) : TeslaParams where
  powertrain := getFlag param.toNat 1
  longitudinal := getFlag param.toNat 2
  raven := getFlag param.toNat 4

def teslaInit (param : UInt16) : InitResult TeslaParams TeslaVars :=
  let params := teslaParams param
  { cfg :=
      if params.powertrain then ⟨teslaPtRxChecks, teslaPtTxMsgs⟩
      else if params.raven then ⟨teslaRavenRxChecks, teslaTxMsgs⟩
      else ⟨teslaRxChecks, teslaTxMsgs⟩
    params
    vars := { stockAeb := false } }

/-! ### Receive -/

def teslaDasControlAddr (p : TeslaParams) : Nat := if p.powertrain then 0x2bf else 0x2b9

/-- Vehicle speed: ((0.05 * val) - 25) * MPH_TO_MPS -/
def teslaSpeed (toPush : CANPacket) : ℚ :=
  (((((getByte toPush 3 &&& 0x0F) <<< 8) ||| getByte toPush 2 : Nat) : ℚ) * (5 / 100) - 25) *
    (447 / 1000)

def teslaCruiseEngaged (toPush : CANPacket) : Bool :=
  -- ENABLED, STANDSTILL, OVERRIDE, PRE_FAULT, PRE_CANCEL
  [2, 3, 4, 6, 7].contains (getByte toPush 1 >>> 4)

def teslaRxHook (c : Context) (p : TeslaParams) (toPush : CANPacket)
    (sv : Signals × TeslaVars) : Signals × TeslaVars :=
  let bus := getBus toPush
  let addr := getAddr toPush
  sv
    |> guarded (¬ p.powertrain ∧
          ((¬ p.raven ∧ addr = 0x370 ∧ bus = 0) ∨ (p.raven ∧ addr = 0x131 ∧ bus = 2)))
        (onSignals fun s =>
          let angleMeasNew : Int :=
            (((getByte toPush 4 &&& 0x3F) <<< 8) ||| getByte toPush 5 : Nat) - 8192
          { s with angleMeas := updateSample s.angleMeas angleMeasNew })
    |> guarded (bus = 0 ∧ addr = if p.powertrain then 0x116 else 0x118) (onSignals fun s =>
        { s with vehicleMoving := |teslaSpeed toPush| > 1 / 10 }
          |> updateVehicleSpeed (teslaSpeed toPush))
    |> guarded (bus = 0 ∧ addr = if p.powertrain then 0x106 else 0x108) (onSignals fun s =>
        { s with gasPressed := getByte toPush 6 != 0 })
    |> guarded (bus = 0 ∧ addr = if p.powertrain then 0x1f8 else 0x20a) (onSignals fun s =>
        { s with brakePressed := ((getByte toPush 0 &&& 0x0C) >>> 2) != 1 })
    |> guarded (bus = 0 ∧ addr = if p.powertrain then 0x256 else 0x368)
        (onSignals (pcmCruiseCheck (teslaCruiseEngaged toPush)))
    |> guarded (bus = 2 ∧ p.longitudinal ∧ addr = teslaDasControlAddr p) (onVars fun v =>
        -- AEB_ACTIVE
        { v with stockAeb := (getByte toPush 2 &&& 0x03) == 1 })
    -- DAS_control or DAS_steeringControl should not be received on bus 0
    |> onSignals (genericRxChecks c
        (if p.powertrain then addr == 0x2bf && bus == 0 else addr == 0x488 && bus == 0))

/-! ### Transmit -/

def teslaSteeringLimits : SteeringLimits where
  angleDegToCan := 10
  angleRateUpLookup := ⟨![0, 5, 15], ![10, 16 / 10, 3 / 10]⟩
  angleRateDownLookup := ⟨![0, 5, 15], ![10, 7, 8 / 10]⟩

def teslaLongLimits : LongitudinalLimits where
  maxAccel := 425
  minAccel := 287
  inactiveAccel := 375

def teslaDesiredAngle (toSend : CANPacket) : Int :=
  (((getByte toSend 0 &&& 0x7F) <<< 8) ||| getByte toSend 1 : Nat) - 16384

def teslaSteerControlEnabled (toSend : CANPacket) : Bool :=
  let steerControlType := getByte toSend 2 >>> 6
  -- NONE, DISABLED
  steerControlType != 0 && steerControlType != 3

def teslaAebEvent (toSend : CANPacket) : Nat := getByte toSend 2 &&& 0x03

def teslaRawAccelMax (toSend : CANPacket) : Int :=
  ((getByte toSend 6 &&& 0x1F) <<< 4) ||| (getByte toSend 5 >>> 4)

def teslaRawAccelMin (toSend : CANPacket) : Int :=
  ((getByte toSend 5 &&& 0x0F) <<< 5) ||| (getByte toSend 4 >>> 3)

def teslaTxHook (p : TeslaParams) (s : Signals) (toSend : CANPacket) (commands : Commands)
    (v : TeslaVars) : Sending TeslaVars :=
  let addr := getAddr toSend
  ⟨true, commands, v⟩
    |> guarded (¬ p.powertrain ∧ addr = 0x488) (checkAngle
        (steerAngleCmdChecks s (teslaDesiredAngle toSend) (teslaSteerControlEnabled toSend)
          teslaSteeringLimits))
    -- no button other than cancel can be sent by us
    |> guarded (¬ p.powertrain ∧ addr = 0x45) (block ((getByte toSend 0 &&& 0x3F) != 1))
    -- DAS_control: no AEB events, nothing while the stock AEB system is active
    |> guarded (addr = teslaDasControlAddr p) (block
        (if p.longitudinal then
          teslaAebEvent toSend != 0 || v.stockAeb ||
            longitudinalAccelChecks s (teslaRawAccelMax toSend) teslaLongLimits ||
            longitudinalAccelChecks s (teslaRawAccelMin toSend) teslaLongLimits
        else true))

/-! ### Forward -/

def teslaFwdHook (p : TeslaParams) (v : TeslaVars) (busNum addr : Int) : Int :=
  if busNum = 0 then 2
  else if busNum = 2 then
    let blockMsg := (!p.powertrain && addr == 0x488) ||
      (p.longitudinal && addr == teslaDasControlAddr p && !v.stockAeb)
    if blockMsg then -1 else 0
  else -1

def teslaHooks : SafetyHooks TeslaParams TeslaVars where
  init param _ _ := teslaInit param
  rx c p toPush := teslaRxHook c p toPush
  tx _ p s toSend commands v := teslaTxHook p s toSend commands v
  fwd := teslaFwdHook

end Panda.Safety
