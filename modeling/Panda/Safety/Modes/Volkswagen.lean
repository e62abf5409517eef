import Panda.Safety.Checks

/-!
Volkswagen MQB and PQ, `safety_volkswagen_common.h`, `safety_volkswagen_mqb.h`
and `safety_volkswagen_pq.h`, with the table generator of `safety.h` that MQB
uses.
-/

namespace Panda.Safety

open Library

/-! ### Common -/

structure VolkswagenParams where
  longitudinal : Bool := false

structure VolkswagenVars where
  setButtonPrev : Bool := false
  resumeButtonPrev : Bool := false

/-- Enter controls on the falling edge of set or resume, with the main switch
on. -/
def volkswagenButtons (setButton resumeButton : Bool) (sv : Signals × VolkswagenVars) :
    Signals × VolkswagenVars :=
  let fallingEdge :=
    (sv.2.setButtonPrev && !setButton) || (sv.2.resumeButtonPrev && !resumeButton)
  ({ sv.1 with controlsAllowed := if fallingEdge then sv.1.accMainOn else sv.1.controlsAllowed },
    { setButtonPrev := setButton, resumeButtonPrev := resumeButton })

/-- The sign and magnitude encoding of torques. -/
def volkswagenSigned (magnitude : Nat) (negative : Bool) : Int :=
  if negative then -(magnitude : Int) else magnitude

/-! ### MQB -/

def msgEsp19 : Nat := 0x0B2
def msgLhEps03 : Nat := 0x09F
def msgEsp05 : Nat := 0x106
def msgTsk06 : Nat := 0x120
def msgMotor20 : Nat := 0x121
def msgAcc06 : Nat := 0x122
def msgHca01 : Nat := 0x126
def msgGraAcc01 : Nat := 0x12B
def msgAcc07 : Nat := 0x12E
def msgAcc02 : Nat := 0x30C
def msgMotor14 : Nat := 0x3BE
def msgLdw02 : Nat := 0x397

structure VolkswagenMqbParams where
  crc8Lut8h2f : UInt8 → UInt8 := fun _ => 0

structure VolkswagenMqbVars where
  brakePedalSwitch : Bool := false
  brakePressureDetected : Bool := false

/-- `gen_crc_lookup_table_8`, the entry of one index. -/
def genCrcLookupTable8 (poly : UInt8) (i : UInt8) : UInt8 :=
  (List.range 8).foldl
    (fun crc _ => if (crc &&& 0x80) != 0 then (crc <<< 1) ^^^ poly else crc <<< 1) i

def volkswagenMqbGetChecksum (toPush : CANPacket) : UInt32 := (getByte8 toPush 0).toUInt32

def volkswagenMqbGetCounter (toPush : CANPacket) : UInt8 := getByte8 toPush 1 &&& 0xF

/-- The byte that the counter and the address add to the CRC. -/
def volkswagenMqbCrcPad (addr : Nat) (counter : UInt8) : UInt8 :=
  let pads : List UInt8 :=
    if addr = msgLhEps03 then List.replicate 16 0xF5
    else if addr = msgEsp05 then List.replicate 16 0x07
    else if addr = msgTsk06 then
      [0xC4, 0xE2, 0x4F, 0xE4, 0xF8, 0x2F, 0x56, 0x81, 0x9F, 0xE5, 0x83, 0x44, 0x05, 0x3F, 0x97,
       0xDF]
    else if addr = msgMotor20 then
      [0xE9, 0x65, 0xAE, 0x6B, 0x7B, 0x35, 0xE5, 0x5F, 0x4E, 0xC7, 0x86, 0xA2, 0xBB, 0xDD, 0xEB,
       0xB4]
    else if addr = msgGraAcc01 then
      [0x6A, 0x38, 0xB4, 0x27, 0x22, 0xEF, 0xE1, 0xBB, 0xF8, 0x80, 0x84, 0x49, 0xC7, 0x9E, 0x1E,
       0x2B]
    else []
  pads.getD counter.toNat 0

/-- CRC-8H2F/AUTOSAR with a twist: the last round adds the pad byte. -/
def volkswagenMqbComputeCrc (lut : UInt8 → UInt8) (toPush : CANPacket) : UInt32 :=
  let crc := (List.range (getLen toPush - 1)).foldl
    (fun crc i => lut (crc ^^^ getByte8 toPush (i + 1))) (0xFF : UInt8)
  let crc := lut (crc ^^^ volkswagenMqbCrcPad (getAddr toPush) (volkswagenMqbGetCounter toPush))
  let inverted : UInt8 := crc ^^^ 0xFF
  inverted.toUInt32

def volkswagenMqbStockTxMsgs : List CanMsg :=
  [⟨msgHca01, 0, 8⟩, ⟨msgGraAcc01, 0, 8⟩, ⟨msgGraAcc01, 2, 8⟩, ⟨msgLdw02, 0, 8⟩,
   ⟨msgLhEps03, 2, 8⟩]

def volkswagenMqbLongTxMsgs : List CanMsg :=
  [⟨msgHca01, 0, 8⟩, ⟨msgLdw02, 0, 8⟩, ⟨msgLhEps03, 2, 8⟩, ⟨msgAcc02, 0, 8⟩, ⟨msgAcc06, 0, 8⟩,
   ⟨msgAcc07, 0, 8⟩]

def volkswagenMqbRxChecks : List RxCheck :=
  let checked (addr frequency : Nat) : RxCheck :=
    rxCheck { addr, bus := 0, len := 8, checkChecksum := true, maxCounter := 15, frequency }
  [rxCheck { addr := msgEsp19, bus := 0, len := 8, frequency := 100 },
   checked msgLhEps03 100, checked msgEsp05 50, checked msgTsk06 50, checked msgMotor20 50,
   rxCheck { addr := msgMotor14, bus := 0, len := 8, frequency := 10 },
   checked msgGraAcc01 33]

def volkswagenMqbInit (param : UInt16) :
    InitResult (VolkswagenParams × VolkswagenMqbParams) (VolkswagenVars × VolkswagenMqbVars) :=
  let longitudinal := getFlag param.toNat 1
  { cfg :=
      { rxChecks := volkswagenMqbRxChecks
        txMsgs := if longitudinal then volkswagenMqbLongTxMsgs else volkswagenMqbStockTxMsgs }
    params := ({ longitudinal }, { crc8Lut8h2f := genCrcLookupTable8 0x2F })
    vars := ({ setButtonPrev := false, resumeButtonPrev := false },
      { brakePedalSwitch := false, brakePressureDetected := false }) }

/-- `TSK_06.TSK_Status`: engagement of stock ACC and the main switch. -/
def volkswagenMqbRxAccStatus (p : VolkswagenParams) (toPush : CANPacket) (s : Signals) :
    Signals :=
  let accStatus := getByte toPush 3 &&& 0x7
  let cruiseEngaged := accStatus == 3 || accStatus == 4 || accStatus == 5
  let accMainOn := cruiseEngaged || accStatus == 2
  { s with accMainOn }
    |> guarded (¬ p.longitudinal) (pcmCruiseCheck cruiseEngaged)
    |> guarded (¬ accMainOn) (fun s => { s with controlsAllowed := false })

/-- `GRA_ACC_01`: the buttons with openpilot longitudinal, and always exit on
cancel. -/
def volkswagenMqbRxButtons (p : VolkswagenParams) (toPush : CANPacket)
    (sv : Signals × (VolkswagenVars × VolkswagenMqbVars)) :
    Signals × (VolkswagenVars × VolkswagenMqbVars) :=
  sv
    |> guarded p.longitudinal (fun sv =>
        let pressed := volkswagenButtons (getBit toPush 16) (getBit toPush 19) (sv.1, sv.2.1)
        (pressed.1, pressed.2, sv.2.2))
    |> guarded (getBit toPush 13) (onSignals fun s => { s with controlsAllowed := false })

/-- The brake pedal: the switch or the brake pressure. -/
def volkswagenMqbRxBrake (sv : Signals × (VolkswagenVars × VolkswagenMqbVars)) :
    Signals × (VolkswagenVars × VolkswagenMqbVars) :=
  ({ sv.1 with brakePressed := sv.2.2.brakePedalSwitch || sv.2.2.brakePressureDetected }, sv.2)

def volkswagenMqbRxHook (c : Context) (p : VolkswagenParams) (toPush : CANPacket)
    (sv : Signals × (VolkswagenVars × VolkswagenMqbVars)) :
    Signals × (VolkswagenVars × VolkswagenMqbVars) :=
  let addr := getAddr toPush
  sv |> guarded (getBus toPush = 0) fun sv => sv
    |> guarded (addr = msgEsp19) (onSignals fun s =>
        let speed := ([0, 2, 4, 6].map fun i =>
          getByte toPush i ||| (getByte toPush (i + 1) <<< 8)).sum
        { s with vehicleMoving := speed > 0 })
    |> guarded (addr = msgLhEps03) (onSignals fun s =>
        let torqueDriverNew := volkswagenSigned
          (getByte toPush 5 ||| ((getByte toPush 6 &&& 0x1F) <<< 8))
          (((getByte toPush 6 &&& 0x80) >>> 7) == 1)
        { s with torqueDriver := updateSample s.torqueDriver torqueDriverNew })
    |> guarded (addr = msgTsk06) (onSignals (volkswagenMqbRxAccStatus p toPush))
    |> guarded (addr = msgGraAcc01) (volkswagenMqbRxButtons p toPush)
    |> guarded (addr = msgMotor20) (onSignals fun s =>
        { s with gasPressed := ((getBytes toPush 0 4 >>> 12) &&& 0xFF) != 0 })
    -- ECU detected brake pedal switch, ESP detected driver brake pressure
    |> guarded (addr = msgMotor14) (onVars fun v =>
        (v.1, { v.2 with brakePedalSwitch := ((getByte toPush 3 &&& 0x10) >>> 4) != 0 }))
    |> guarded (addr = msgEsp05) (onVars fun v =>
        (v.1, { v.2 with brakePressureDetected := ((getByte toPush 3 &&& 0x4) >>> 2) != 0 }))
    |> volkswagenMqbRxBrake
    |> onSignals (genericRxChecks c (addr == msgHca01))

def volkswagenMqbSteeringLimits : SteeringLimits where
  maxSteer := 300
  maxRtDelta := 75
  maxRtInterval := 250000
  maxRateUp := 4
  maxRateDown := 10
  driverTorqueAllowance := 80
  driverTorqueFactor := 3
  type := .torqueDriverLimited

def volkswagenMqbLongLimits : LongitudinalLimits where
  maxAccel := 2000
  minAccel := -3500
  inactiveAccel := 3010

def volkswagenMqbDesiredTorque (toSend : CANPacket) : Int :=
  volkswagenSigned (getByte toSend 2 ||| ((getByte toSend 3 &&& 0x1) <<< 8)) (getBit toSend 31)

def volkswagenMqbSteerReq (toSend : CANPacket) : Bool := getBit toSend 30

/-- `ACC_06.ACC_Sollbeschleunigung_02`, scaled to mm/s2. -/
def volkswagenAcc06DesiredAccel (toSend : CANPacket) : Int :=
  ((((getByte toSend 4 &&& 0x7) <<< 8) ||| getByte toSend 3) * 5 : Nat) - 7220

/-- `ACC_07.ACC_Folgebeschl`. -/
def volkswagenAcc07SecondaryAccel (toSend : CANPacket) : Int :=
  (getByte toSend 4 * 30 : Nat) - 4600

/-- `ACC_07.ACC_Sollbeschleunigung_02`. -/
def volkswagenAcc07DesiredAccel (toSend : CANPacket) : Int :=
  (((getByte toSend 7 <<< 3) ||| ((getByte toSend 6 &&& 0xE0) >>> 5)) * 5 : Nat) - 7220

def volkswagenMqbTxHook (c : Context) (s : Signals) (toSend : CANPacket) (commands : Commands)
    (v : VolkswagenVars × VolkswagenMqbVars) : Sending (VolkswagenVars × VolkswagenMqbVars) :=
  let addr := getAddr toSend
  ⟨true, commands, v⟩
    |> guarded (addr = msgHca01) (checkTorque
        (steerTorqueCmdChecks c.ts s (volkswagenMqbDesiredTorque toSend)
          (volkswagenMqbSteerReq toSend).toInt volkswagenMqbSteeringLimits))
    |> guarded (addr = msgAcc06) (block
        (longitudinalAccelChecks s (volkswagenAcc06DesiredAccel toSend) volkswagenMqbLongLimits))
    |> guarded (addr = msgAcc07) (block
        (volkswagenAcc07SecondaryAccel toSend != 3020 ||
          longitudinalAccelChecks s (volkswagenAcc07DesiredAccel toSend) volkswagenMqbLongLimits))
    -- FORCE CANCEL: disallow resume and set when controls are off
    |> guarded (addr = msgGraAcc01 ∧ ¬ s.controlsAllowed) (block
        ((getByte toSend 2 &&& 0x9) != 0))

def volkswagenMqbFwdHook (p : VolkswagenParams) (busNum addr : Int) : Int :=
  if busNum = 0 then
    -- openpilot replaces apparent driver steering input torque to pacify VW Emergency Assist
    if addr = msgLhEps03 then -1 else 2
  else if busNum = 2 then
    if addr = msgHca01 ∨ addr = msgLdw02 then -1
    else if p.longitudinal ∧ (addr = msgAcc02 ∨ addr = msgAcc06 ∨ addr = msgAcc07) then -1
    else 0
  else -1

def volkswagenMqbHooks :
    SafetyHooks (VolkswagenParams × VolkswagenMqbParams) (VolkswagenVars × VolkswagenMqbVars) where
  init param _ _ := volkswagenMqbInit param
  rx c p toPush := volkswagenMqbRxHook c p.1 toPush
  tx c _ s toSend commands v := volkswagenMqbTxHook c s toSend commands v
  fwd p _ := volkswagenMqbFwdHook p.1
  getCounter := some volkswagenMqbGetCounter
  getChecksum := some volkswagenMqbGetChecksum
  computeChecksum := some fun p => volkswagenMqbComputeCrc p.2.crc8Lut8h2f

/-! ### PQ -/

def msgLenkhilfe3 : Nat := 0x0D0
def msgHca1 : Nat := 0x0D2
def msgBremse1 : Nat := 0x1A0
def msgMotor2 : Nat := 0x288
def msgAccSystem : Nat := 0x368
def msgMotor3 : Nat := 0x380
def msgGraNeu : Nat := 0x38A
def msgMotor5 : Nat := 0x480
def msgAccGraAnzeige : Nat := 0x56A
def msgLdw1 : Nat := 0x5BE

def volkswagenPqChecksumByte (addr : Nat) : Nat := if addr = msgMotor5 then 7 else 0

def volkswagenPqGetChecksum (toPush : CANPacket) : UInt32 :=
  (getByte8 toPush (volkswagenPqChecksumByte (getAddr toPush))).toUInt32

def volkswagenPqGetCounter (toPush : CANPacket) : UInt8 :=
  let addr := getAddr toPush
  if addr = msgLenkhilfe3 then (getByte8 toPush 1 &&& 0xF0) >>> 4
  else if addr = msgGraNeu then (getByte8 toPush 2 &&& 0xF0) >>> 4
  else 0

/-- Simple XOR over the payload, except for the byte where the checksum lives. -/
def volkswagenPqComputeChecksum (toPush : CANPacket) : UInt32 :=
  let checksumByte := volkswagenPqChecksumByte (getAddr toPush)
  let checksum := (List.range (getLen toPush)).foldl
    (fun checksum i => if i != checksumByte then checksum ^^^ getByte8 toPush i else checksum)
    (0 : UInt8)
  checksum.toUInt32

def volkswagenPqStockTxMsgs : List CanMsg :=
  [⟨msgHca1, 0, 5⟩, ⟨msgLdw1, 0, 8⟩, ⟨msgGraNeu, 0, 4⟩, ⟨msgGraNeu, 2, 4⟩]

def volkswagenPqLongTxMsgs : List CanMsg :=
  [⟨msgHca1, 0, 5⟩, ⟨msgLdw1, 0, 8⟩, ⟨msgAccSystem, 0, 8⟩, ⟨msgAccGraAnzeige, 0, 8⟩]

def volkswagenPqRxChecks : List RxCheck :=
  [rxCheck { addr := msgLenkhilfe3, bus := 0, len := 6, checkChecksum := true, maxCounter := 15,
             frequency := 100 },
   rxCheck { addr := msgBremse1, bus := 0, len := 8, frequency := 100 },
   rxCheck { addr := msgMotor2, bus := 0, len := 8, frequency := 50 },
   rxCheck { addr := msgMotor3, bus := 0, len := 8, frequency := 100 },
   rxCheck { addr := msgMotor5, bus := 0, len := 8, checkChecksum := true, frequency := 50 },
   rxCheck { addr := msgGraNeu, bus := 0, len := 4, checkChecksum := true, maxCounter := 15,
             frequency := 30 }]

def volkswagenPqInit (param : UInt16) : InitResult VolkswagenParams VolkswagenVars :=
  let longitudinal := getFlag param.toNat 1
  { cfg :=
      { rxChecks := volkswagenPqRxChecks
        txMsgs := if longitudinal then volkswagenPqLongTxMsgs else volkswagenPqStockTxMsgs }
    params := { longitudinal }
    vars := { setButtonPrev := false, resumeButtonPrev := false } }

/-- `Motor_5.GRA_Hauptschalter`: exit controls on main switch off. -/
def volkswagenPqRxMainSwitch (toPush : CANPacket) (s : Signals) : Signals :=
  let accMainOn := getBit toPush 50
  { s with accMainOn, controlsAllowed := s.controlsAllowed && accMainOn }

/-- `GRA_Neu`: cancel overrides set and resume if present simultaneously. -/
def volkswagenPqRxButtons (toPush : CANPacket) (sv : Signals × VolkswagenVars) :
    Signals × VolkswagenVars :=
  sv
    |> volkswagenButtons (getBit toPush 16) (getBit toPush 17)
    |> guarded (getBit toPush 9) (onSignals fun s => { s with controlsAllowed := false })

/-- `Motor_2.GRA_Status` of stock ACC. -/
def volkswagenPqCruiseEngaged (toPush : CANPacket) : Bool :=
  let accStatus := (getByte toPush 2 &&& 0xC0) >>> 6
  accStatus == 1 || accStatus == 2

def volkswagenPqRxHook (c : Context) (p : VolkswagenParams) (toPush : CANPacket)
    (sv : Signals × VolkswagenVars) : Signals × VolkswagenVars :=
  let addr := getAddr toPush
  sv |> guarded (getBus toPush = 0) fun sv => sv
    |> guarded (addr = msgBremse1) (onSignals fun s =>
        let speed := ((getByte toPush 2 &&& 0xFE) >>> 1) ||| (getByte toPush 3 <<< 7)
        { s with vehicleMoving := speed > 0 })
    |> guarded (addr = msgLenkhilfe3) (onSignals fun s =>
        let torqueDriverNew := volkswagenSigned
          (getByte toPush 2 ||| ((getByte toPush 3 &&& 0x3) <<< 8))
          (((getByte toPush 3 &&& 0x4) >>> 2) == 1)
        { s with torqueDriver := updateSample s.torqueDriver torqueDriverNew })
    |> guarded (p.longitudinal ∧ addr = msgMotor5) (onSignals (volkswagenPqRxMainSwitch toPush))
    |> guarded (p.longitudinal ∧ addr = msgGraNeu) (volkswagenPqRxButtons toPush)
    |> guarded (¬ p.longitudinal ∧ addr = msgMotor2)
        (onSignals (pcmCruiseCheck (volkswagenPqCruiseEngaged toPush)))
    |> guarded (addr = msgMotor3) (onSignals fun s =>
        { s with gasPressed := getByte toPush 2 != 0 })
    |> guarded (addr = msgMotor2) (onSignals fun s =>
        { s with brakePressed := (getByte toPush 2 &&& 0x1) != 0 })
    |> onSignals (genericRxChecks c (addr == msgHca1))

def volkswagenPqSteeringLimits : SteeringLimits where
  maxSteer := 300
  maxRtDelta := 113
  maxRtInterval := 250000
  maxRateUp := 6
  maxRateDown := 10
  driverTorqueFactor := 3
  driverTorqueAllowance := 80
  type := .torqueDriverLimited

def volkswagenPqLongLimits : LongitudinalLimits where
  maxAccel := 2000
  minAccel := -3500
  inactiveAccel := 3010

/-- `HCA_1.LM_Offset` in centi-Nm and its sign. -/
def volkswagenPqDesiredTorque (toSend : CANPacket) : Int :=
  volkswagenSigned ((getByte toSend 2 ||| ((getByte toSend 3 &&& 0x7F) <<< 8)) / 32)
    (((getByte toSend 3 &&& 0x80) >>> 7) == 1)

def volkswagenPqSteerReq (toSend : CANPacket) : Bool :=
  let hcaStatus := (getByte toSend 1 >>> 4) &&& 0xF
  hcaStatus == 5 || hcaStatus == 7

/-- `ACC_System.ACS_Sollbeschl`. -/
def volkswagenPqDesiredAccel (toSend : CANPacket) : Int :=
  ((((getByte toSend 4 &&& 0x7) <<< 8) ||| getByte toSend 3) * 5 : Nat) - 7220

def volkswagenPqTxHook (c : Context) (s : Signals) (toSend : CANPacket) (commands : Commands)
    (v : VolkswagenVars) : Sending VolkswagenVars :=
  let addr := getAddr toSend
  ⟨true, commands, v⟩
    |> guarded (addr = msgHca1) (checkTorque
        (steerTorqueCmdChecks c.ts s (volkswagenPqDesiredTorque toSend)
          (volkswagenPqSteerReq toSend).toInt volkswagenPqSteeringLimits))
    |> guarded (addr = msgAccSystem) (block
        (longitudinalAccelChecks s (volkswagenPqDesiredAccel toSend) volkswagenPqLongLimits))
    -- FORCE CANCEL: disallow resume and set when controls are off
    |> guarded (addr = msgGraNeu ∧ ¬ s.controlsAllowed) (block
        (getBit toSend 16 || getBit toSend 17))

def volkswagenPqFwdHook (p : VolkswagenParams) (busNum addr : Int) : Int :=
  if busNum = 0 then 2
  else if busNum = 2 then
    if addr = msgHca1 ∨ addr = msgLdw1 then -1
    else if p.longitudinal ∧ (addr = msgAccSystem ∨ addr = msgAccGraAnzeige) then -1
    else 0
  else -1

def volkswagenPqHooks : SafetyHooks VolkswagenParams VolkswagenVars where
  init param _ _ := volkswagenPqInit param
  rx c p toPush := volkswagenPqRxHook c p toPush
  tx c _ s toSend commands v := volkswagenPqTxHook c s toSend commands v
  fwd p _ := volkswagenPqFwdHook p
  getCounter := some volkswagenPqGetCounter
  getChecksum := some volkswagenPqGetChecksum
  computeChecksum := some fun _ => volkswagenPqComputeChecksum

end Panda.Safety
