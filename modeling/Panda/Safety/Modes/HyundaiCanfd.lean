import Panda.Safety.Modes.Hyundai

/-!
Hyundai on CAN-FD, `safety_hyundai_canfd.h`, with the checksum of
`safety_hyundai_common.h` and the table generator of `safety.h` it uses.
-/

namespace Panda.Safety

open Library

structure HyundaiCanfdParams where
  altButtons : Bool := false
  hda2AltSteering : Bool := false
  crcLut : UInt8 → UInt16 := fun _ => 0

/-- `gen_crc_lookup_table_16`, the entry of one index. -/
def genCrcLookupTable16 (poly : UInt16) (i : UInt8) : UInt16 :=
  (List.range 8).foldl
    (fun crc _ => if (crc &&& 0x8000) != 0 then (crc <<< 1) ^^^ poly else crc <<< 1)
    (i.toUInt16 <<< 8)

/-! ### Configurations -/

def hyundaiCanfdCommonRxChecks (ptBus : Nat) : List RxCheck :=
  [{ msg := #v[
      { addr := 0x35, bus := ptBus, len := 32, checkChecksum := true, maxCounter := 0xff,
        frequency := 100 },
      { addr := 0x100, bus := ptBus, len := 32, checkChecksum := true, maxCounter := 0xff,
        frequency := 100 },
      { addr := 0x105, bus := ptBus, len := 32, checkChecksum := true, maxCounter := 0xff,
        frequency := 100 }] },
   rxCheck { addr := 0x175, bus := ptBus, len := 24, checkChecksum := true, maxCounter := 0xff,
             frequency := 50 },
   rxCheck { addr := 0xa0, bus := ptBus, len := 24, checkChecksum := true, maxCounter := 0xff,
             frequency := 100 },
   rxCheck { addr := 0xea, bus := ptBus, len := 24, checkChecksum := true, maxCounter := 0xff,
             frequency := 100 }]

def hyundaiCanfdButtonsAddrCheck (ptBus : Nat) : RxCheck :=
  rxCheck { addr := 0x1cf, bus := ptBus, len := 8, maxCounter := 0xf, frequency := 50 }

def hyundaiCanfdAltButtonsAddrCheck (ptBus : Nat) : RxCheck :=
  rxCheck { addr := 0x1aa, bus := ptBus, len := 16, maxCounter := 0xff, frequency := 50 }

def hyundaiCanfdSccAddrCheck (sccBus : Nat) : RxCheck :=
  rxCheck { addr := 0x1a0, bus := sccBus, len := 32, checkChecksum := true, maxCounter := 0xff,
            frequency := 50 }

def hyundaiCanfdHda2TxMsgs : List CanMsg := [⟨0x50, 0, 16⟩, ⟨0x1CF, 1, 8⟩, ⟨0x2A4, 0, 24⟩]

def hyundaiCanfdHda2AltSteeringTxMsgs : List CanMsg :=
  [⟨0x110, 0, 32⟩, ⟨0x1CF, 1, 8⟩, ⟨0x362, 0, 32⟩]

def hyundaiCanfdHda2LongTxMsgs : List CanMsg :=
  [⟨0x50, 0, 16⟩, ⟨0x1CF, 1, 8⟩, ⟨0x2A4, 0, 24⟩, ⟨0x51, 0, 32⟩, ⟨0x730, 1, 8⟩, ⟨0x12A, 1, 16⟩,
   ⟨0x160, 1, 16⟩, ⟨0x1E0, 1, 16⟩, ⟨0x1A0, 1, 32⟩, ⟨0x1EA, 1, 32⟩, ⟨0x200, 1, 8⟩,
   ⟨0x345, 1, 8⟩, ⟨0x1DA, 1, 32⟩]

def hyundaiCanfdHda1TxMsgs : List CanMsg :=
  [⟨0x12A, 0, 16⟩, ⟨0x1A0, 0, 32⟩, ⟨0x1CF, 2, 8⟩, ⟨0x1E0, 0, 16⟩]

/-- The common flags; there is no openpilot longitudinal control for
radar-SCC HDA1 yet. -/
def hyundaiCanfdCommonParams (param : UInt16) : HyundaiParams :=
  let p := hyundaiCommonInit param
  { p with longitudinal := p.longitudinal && (p.canfdHda2 || p.cameraScc) }

def hyundaiCanfdParams (param : UInt16) : HyundaiCanfdParams where
  altButtons := getFlag param.toNat 32
  hda2AltSteering := getFlag param.toNat 128
  crcLut := genCrcLookupTable16 0x1021

/-- The selection of rx checks and whitelist by the variant flags. -/
def hyundaiCanfdConfig (p : HyundaiParams) (q : HyundaiCanfdParams) : SafetyConfig :=
  let buttons (ptBus : Nat) :=
    if q.altButtons then hyundaiCanfdAltButtonsAddrCheck ptBus
    else hyundaiCanfdButtonsAddrCheck ptBus
  if p.longitudinal then
    if p.canfdHda2 then
      ⟨hyundaiCanfdCommonRxChecks 1 ++ [hyundaiCanfdButtonsAddrCheck 1],
        hyundaiCanfdHda2LongTxMsgs⟩
    else ⟨hyundaiCanfdCommonRxChecks 0 ++ [buttons 0], hyundaiCanfdHda1TxMsgs⟩
  else if p.canfdHda2 then
    -- does not use the alt buttons message
    ⟨hyundaiCanfdCommonRxChecks 1 ++
        [hyundaiCanfdButtonsAddrCheck 1, hyundaiCanfdSccAddrCheck 1],
      if q.hda2AltSteering then hyundaiCanfdHda2AltSteeringTxMsgs else hyundaiCanfdHda2TxMsgs⟩
  else if !p.cameraScc then
    -- radar sends SCC messages on these cars instead of camera
    ⟨hyundaiCanfdCommonRxChecks 0 ++ [buttons 0, hyundaiCanfdSccAddrCheck 0],
      hyundaiCanfdHda1TxMsgs⟩
  else
    -- camera sends SCC messages on HDA1
    ⟨hyundaiCanfdCommonRxChecks 0 ++ [buttons 0, hyundaiCanfdSccAddrCheck 2],
      hyundaiCanfdHda1TxMsgs⟩

def hyundaiCanfdInit (param : UInt16) :
    InitResult (HyundaiParams × HyundaiCanfdParams) HyundaiVars :=
  let p := hyundaiCanfdCommonParams param
  let q := hyundaiCanfdParams param
  { cfg := hyundaiCanfdConfig p q
    params := (p, q)
    vars := hyundaiInitialVars }

/-! ### Receive -/

def hyundaiCanfdHda2GetLkasAddr (q : HyundaiCanfdParams) : Nat :=
  if q.hda2AltSteering then 0x110 else 0x50

def hyundaiCanfdGetCounter (toPush : CANPacket) : UInt8 :=
  if getLen toPush = 8 then getByte8 toPush 1 >>> 4 else getByte8 toPush 2

def hyundaiCanfdGetChecksum (toPush : CANPacket) : UInt32 :=
  UInt32.ofNat (getByte toPush 0 ||| (getByte toPush 1 <<< 8))

/-- One byte of `hyundai_common_canfd_compute_checksum`. -/
def hyundaiCanfdCrcStep (lut : UInt8 → UInt16) (crc : UInt16) (byte : UInt8) : UInt16 :=
  (crc <<< 8) ^^^ lut ((crc >>> 8).toUInt8 ^^^ byte)

def hyundaiCommonCanfdComputeChecksum (lut : UInt8 → UInt16) (toPush : CANPacket) : UInt32 :=
  let len := getLen toPush
  let address := getAddr toPush
  let crc := (List.range (len - 2)).foldl
    (fun crc i => hyundaiCanfdCrcStep lut crc (getByte8 toPush (i + 2))) (0 : UInt16)
  let crc := hyundaiCanfdCrcStep lut crc (UInt8.ofNat address)
  let crc := hyundaiCanfdCrcStep lut crc (UInt8.ofNat (address >>> 8))
  let crc := if len = 24 then crc ^^^ 0x819d else if len = 32 then crc ^^^ 0x9f5b else crc
  crc.toUInt32

def hyundaiCanfdPtBus (p : HyundaiParams) : Nat := if p.canfdHda2 then 1 else 0

def hyundaiCanfdSccBus (p : HyundaiParams) : Nat :=
  if p.cameraScc then 2 else hyundaiCanfdPtBus p

def hyundaiCanfdButtonAddr (q : HyundaiCanfdParams) : Nat :=
  if q.altButtons then 0x1aa else 0x1cf

/-- Cruise buttons, from the message selected by the alt buttons flag. -/
def hyundaiCanfdRxButtons (p : HyundaiParams) (toPush : CANPacket)
    (sv : Signals × HyundaiVars) : Signals × HyundaiVars :=
  if getAddr toPush = 0x1cf then
    hyundaiCommonCruiseButtonsCheck p (getByte toPush 2 &&& 0x7) (getBit toPush 19) sv
  else
    hyundaiCommonCruiseButtonsCheck p ((getByte toPush 4 >>> 4) &&& 0x7) (getBit toPush 34) sv

def hyundaiCanfdRxGas (p : HyundaiParams) (toPush : CANPacket) (s : Signals) : Signals :=
  let addr := getAddr toPush
  if addr = 0x35 ∧ p.evGasSignal then
    { s with gasPressed := getByte toPush 5 != 0 }
  else if addr = 0x105 ∧ p.hybridGasSignal then
    { s with gasPressed :=
        getBit toPush 103 || getByte toPush 13 != 0 || getBit toPush 112 }
  else if addr = 0x100 ∧ ¬ p.evGasSignal ∧ ¬ p.hybridGasSignal then
    { s with gasPressed := getBit toPush 176 }
  else s

def hyundaiCanfdCruiseEngaged (toPush : CANPacket) : Bool :=
  -- 1=enabled, 2=driver override
  let cruiseStatus := (getByte toPush 8 >>> 4) &&& 0x7
  cruiseStatus == 1 || cruiseStatus == 2

def hyundaiCanfdStockEcuDetected (p : HyundaiParams) (q : HyundaiCanfdParams)
    (addr bus : Nat) : Bool :=
  let steerAddr := if p.canfdHda2 then hyundaiCanfdHda2GetLkasAddr q else 0x12a
  -- on HDA2, ensure ADRV ECU is still knocked out
  -- on others, ensure accel msg is blocked from camera
  (addr == steerAddr && bus == 0) ||
    (p.longitudinal && addr == 0x1a0 && bus == hyundaiCanfdPtBus p)

def hyundaiCanfdRxHook (c : Context) (pq : HyundaiParams × HyundaiCanfdParams)
    (toPush : CANPacket) (sv : Signals × HyundaiVars) : Signals × HyundaiVars :=
  let p := pq.1
  let q := pq.2
  let bus := getBus toPush
  let addr := getAddr toPush
  sv
    |> guarded (bus = hyundaiCanfdPtBus p) (fun sv => sv
      |> guarded (addr = 0xea) (onSignals fun s =>
          let torqueDriverNew : Int :=
            (((getByte toPush 11 &&& 0x1f) <<< 8) ||| getByte toPush 10 : Nat) - 4095
          { s with torqueDriver := updateSample s.torqueDriver torqueDriverNew })
      |> guarded (addr = hyundaiCanfdButtonAddr q) (hyundaiCanfdRxButtons p toPush)
      -- gas press, different for EV, hybrid, and ICE models
      |> onSignals (hyundaiCanfdRxGas p toPush)
      |> guarded (addr = 0x175) (onSignals fun s =>
          { s with brakePressed := getBit toPush 81 })
      |> guarded (addr = 0xa0) (onSignals fun s =>
          let frontLeftSpeed := getBytes toPush 8 2
          let rearRightSpeed := getBytes toPush 14 2
          { s with vehicleMoving :=
              frontLeftSpeed > hyundaiStandstillThrsld ||
                rearRightSpeed > hyundaiStandstillThrsld }))
    |> guarded (bus = hyundaiCanfdSccBus p ∧ addr = 0x1a0 ∧ ¬ p.longitudinal)
        (hyundaiCommonCruiseStateCheck p (hyundaiCanfdCruiseEngaged toPush))
    |> onSignals (genericRxChecks c (hyundaiCanfdStockEcuDetected p q addr bus))

/-! ### Transmit -/

def hyundaiCanfdSteeringLimits : SteeringLimits where
  maxSteer := 270
  maxRtDelta := 112
  maxRtInterval := 250000
  maxRateUp := 2
  maxRateDown := 3
  driverTorqueAllowance := 250
  driverTorqueFactor := 2
  type := .torqueDriverLimited
  minValidRequestFrames := 89
  maxInvalidRequestFrames := 2
  minValidRequestRtInterval := 810000
  hasSteerReqTolerance := true

def hyundaiCanfdSteerAddr (p : HyundaiParams) (q : HyundaiCanfdParams) : Nat :=
  if p.canfdHda2 && !p.longitudinal then hyundaiCanfdHda2GetLkasAddr q else 0x12a

def hyundaiCanfdDesiredTorque (toSend : CANPacket) : Int :=
  (((getByte toSend 6 &&& 0xF) <<< 7) ||| (getByte toSend 5 >>> 1) : Nat) - 1024

def hyundaiCanfdSteerReq (toSend : CANPacket) : Bool := getBit toSend 52

def hyundaiCanfdDesiredAccelRaw (toSend : CANPacket) : Int :=
  (((getByte toSend 17 &&& 0x7) <<< 8) ||| getByte toSend 16 : Nat) - 1023

def hyundaiCanfdDesiredAccelVal (toSend : CANPacket) : Int :=
  ((getByte toSend 18 <<< 4) ||| (getByte toSend 17 >>> 4) : Nat) - 1023

def hyundaiCanfdTxHook (c : Context) (pq : HyundaiParams × HyundaiCanfdParams) (s : Signals)
    (toSend : CANPacket) (commands : Commands) (v : HyundaiVars) : Sending HyundaiVars :=
  let p := pq.1
  let q := pq.2
  let addr := getAddr toSend
  ⟨true, commands, v⟩
    |> guarded (addr = hyundaiCanfdSteerAddr p q) (checkTorque
        (steerTorqueCmdChecks c.ts s (hyundaiCanfdDesiredTorque toSend)
          (hyundaiCanfdSteerReq toSend).toInt hyundaiCanfdSteeringLimits))
    |> guarded (addr = 0x1cf) (block
        (let button := getByte toSend 2 &&& 0x7
         !((button == hyundaiBtnCancel && s.cruiseEngagedPrev) ||
           (button == hyundaiBtnResume && s.controlsAllowed))))
    |> guarded (addr = 0x730 ∧ p.canfdHda2) (block
        (getBytes toSend 0 4 != 0x00803E02 || getBytes toSend 4 4 != 0x0))
    -- ACCEL: safety check, only used to cancel on stock longitudinal
    |> guarded (addr = 0x1a0) (block
        (if p.longitudinal then
          longitudinalAccelChecks s (hyundaiCanfdDesiredAccelRaw toSend) hyundaiLongLimits ||
            longitudinalAccelChecks s (hyundaiCanfdDesiredAccelVal toSend) hyundaiLongLimits
        else hyundaiCanfdDesiredAccelRaw toSend != 0 || hyundaiCanfdDesiredAccelVal toSend != 0))

/-! ### Forward -/

def hyundaiCanfdFwdHook (pq : HyundaiParams × HyundaiCanfdParams) (busNum addr : Int) : Int :=
  let p := pq.1
  let q := pq.2
  if busNum = 0 then 2
  else if busNum = 2 then
    -- LKAS for HDA2, LFA for HDA1
    let hda2LfaBlockAddr : Int := if q.hda2AltSteering then 0x362 else 0x2a4
    let isLkasMsg :=
      (addr == hyundaiCanfdHda2GetLkasAddr q || addr == hda2LfaBlockAddr) && p.canfdHda2
    let isLfaMsg := addr == 0x12a && !p.canfdHda2
    let isLfahdaMsg := addr == 0x1e0 && !p.canfdHda2
    -- CRUISE_INFO for non-HDA2, we send our own longitudinal commands
    let isSccMsg := addr == 0x1a0 && p.longitudinal && !p.canfdHda2
    if isLkasMsg || isLfaMsg || isLfahdaMsg || isSccMsg then -1 else 0
  else -1

def hyundaiCanfdHooks : SafetyHooks (HyundaiParams × HyundaiCanfdParams) HyundaiVars where
  init param _ _ := hyundaiCanfdInit param
  rx c pq toPush := hyundaiCanfdRxHook c pq toPush
  tx c pq s toSend commands v := hyundaiCanfdTxHook c pq s toSend commands v
  fwd pq _ := hyundaiCanfdFwdHook pq
  getCounter := some hyundaiCanfdGetCounter
  getChecksum := some hyundaiCanfdGetChecksum
  computeChecksum := some fun pq => hyundaiCommonCanfdComputeChecksum pq.2.crcLut

end Panda.Safety
