import Panda.Safety.Checks

/-!
Hyundai on classic CAN: `safety_hyundai_common.h` and `safety_hyundai.h`, with
the legacy variant. The variables are shared with the CAN-FD mode.
`hyundai_legacy` is left out: no hook reads it.
-/

namespace Panda.Safety

open Library

structure HyundaiParams where
  evGasSignal : Bool := false
  hybridGasSignal : Bool := false
  longitudinal : Bool := false
  cameraScc : Bool := false
  canfdHda2 : Bool := false
  altLimits : Bool := false

structure HyundaiVars where
  /-- button messages since the user pressed an enable button -/
  lastButtonInteraction : Nat := 0

/-! ### Common -/

def hyundaiPrevButtonSamples : Nat := 8

def hyundaiStandstillThrsld : Nat := 12

def hyundaiBtnResume : Nat := 1
def hyundaiBtnSet : Nat := 2
def hyundaiBtnCancel : Nat := 4

def hyundaiCommonInit (param : UInt16) : HyundaiParams :=
  let evGasSignal := getFlag param.toNat 1
  { evGasSignal
    hybridGasSignal := !evGasSignal && getFlag param.toNat 2
    cameraScc := getFlag param.toNat 8
    canfdHda2 := getFlag param.toNat 16
    altLimits := getFlag param.toNat 64
    longitudinal := getFlag param.toNat 4 }

def hyundaiInitialVars : HyundaiVars where
  lastButtonInteraction := hyundaiPrevButtonSamples

/-- Enter controls on rising edge of ACC and recent user button press, exit
controls when ACC off. -/
def hyundaiCommonCruiseStateCheck (p : HyundaiParams) (cruiseEngaged : Bool)
    (sv : Signals × HyundaiVars) : Signals × HyundaiVars :=
  let engages := cruiseEngaged && !sv.1.cruiseEngagedPrev &&
    sv.2.lastButtonInteraction < hyundaiPrevButtonSamples
  sv |> guarded (¬ p.longitudinal) (onSignals fun s =>
    { s with
      controlsAllowed := (s.controlsAllowed || engages) && cruiseEngaged
      cruiseEngagedPrev := cruiseEngaged })

def hyundaiButtonInteraction (cruiseButton : Nat) (mainButton : Bool) (v : HyundaiVars) :
    HyundaiVars where
  lastButtonInteraction :=
    if cruiseButton == hyundaiBtnResume || cruiseButton == hyundaiBtnSet ||
        cruiseButton == hyundaiBtnCancel || mainButton then 0
    else min (v.lastButtonInteraction + 1) hyundaiPrevButtonSamples

/-- Enter controls on falling edge of resume or set, exit controls on cancel
press. -/
def hyundaiLongButtons (cruiseButton : Nat) (s : Signals) : Signals :=
  let set := cruiseButton != hyundaiBtnSet && s.cruiseButtonPrev == hyundaiBtnSet
  let res := cruiseButton != hyundaiBtnResume && s.cruiseButtonPrev == hyundaiBtnResume
  { s with
    controlsAllowed := (s.controlsAllowed || (set || res)) && cruiseButton != hyundaiBtnCancel
    cruiseButtonPrev := cruiseButton }

def hyundaiCommonCruiseButtonsCheck (p : HyundaiParams) (cruiseButton : Nat) (mainButton : Bool)
    (sv : Signals × HyundaiVars) : Signals × HyundaiVars :=
  (guarded p.longitudinal (hyundaiLongButtons cruiseButton) sv.1,
    hyundaiButtonInteraction cruiseButton mainButton sv.2)

/-! ### Configurations -/

def hyundaiLimits (steer rateUp rateDown : Int) : SteeringLimits where
  maxSteer := steer
  maxRateUp := rateUp
  maxRateDown := rateDown
  maxRtDelta := 112
  maxRtInterval := 250000
  driverTorqueAllowance := 50
  driverTorqueFactor := 2
  type := .torqueDriverLimited
  minValidRequestFrames := 89
  maxInvalidRequestFrames := 2
  minValidRequestRtInterval := 810000
  hasSteerReqTolerance := true

def hyundaiLongLimits : LongitudinalLimits where
  maxAccel := 200
  minAccel := -350

def hyundaiTxMsgs : List CanMsg := [⟨0x340, 0, 8⟩, ⟨0x4F1, 0, 4⟩, ⟨0x485, 0, 4⟩]

def hyundaiLongTxMsgs : List CanMsg :=
  [⟨0x340, 0, 8⟩, ⟨0x4F1, 0, 4⟩, ⟨0x485, 0, 4⟩, ⟨0x420, 0, 8⟩, ⟨0x421, 0, 8⟩, ⟨0x50A, 0, 8⟩,
   ⟨0x389, 0, 8⟩, ⟨0x4A2, 0, 2⟩, ⟨0x38D, 0, 8⟩, ⟨0x483, 0, 8⟩, ⟨0x7D0, 0, 8⟩]

def hyundaiCameraSccTxMsgs : List CanMsg := [⟨0x340, 0, 8⟩, ⟨0x4F1, 2, 4⟩, ⟨0x485, 0, 4⟩]

def hyundaiCommonRxChecks (legacy : Bool) : List RxCheck :=
  [{ msg := #v[
      { addr := 0x260, bus := 0, len := 8, checkChecksum := true, maxCounter := 3,
        frequency := 100 },
      { addr := 0x371, bus := 0, len := 8, frequency := 100 }, {}] },
   rxCheck { addr := 0x386, bus := 0, len := 8, checkChecksum := !legacy,
             maxCounter := if legacy then 0 else 15, frequency := 100 },
   rxCheck { addr := 0x394, bus := 0, len := 8, checkChecksum := !legacy,
             maxCounter := if legacy then 0 else 7, frequency := 100 }]

def hyundaiScc12AddrCheck (sccBus : Nat) : RxCheck :=
  rxCheck { addr := 0x421, bus := sccBus, len := 8, checkChecksum := true, maxCounter := 15,
            frequency := 50 }

def hyundaiParams (param : UInt16) : HyundaiParams :=
  let p := hyundaiCommonInit param
  { p with longitudinal := p.longitudinal && !p.cameraScc }

def hyundaiInit (param : UInt16) : InitResult HyundaiParams HyundaiVars :=
  let p := hyundaiParams param
  { cfg :=
      if p.longitudinal then
        { rxChecks := hyundaiCommonRxChecks false ++
            [rxCheck { addr := 0x4F1, bus := 0, len := 4, maxCounter := 15, frequency := 50 }]
          txMsgs := hyundaiLongTxMsgs }
      else if p.cameraScc then
        ⟨hyundaiCommonRxChecks false ++ [hyundaiScc12AddrCheck 2], hyundaiCameraSccTxMsgs⟩
      else ⟨hyundaiCommonRxChecks false ++ [hyundaiScc12AddrCheck 0], hyundaiTxMsgs⟩
    params := p
    vars := hyundaiInitialVars }

def hyundaiLegacyInit (param : UInt16) : InitResult HyundaiParams HyundaiVars where
  cfg := ⟨hyundaiCommonRxChecks true ++ [hyundaiScc12AddrCheck 0], hyundaiTxMsgs⟩
  params := { hyundaiCommonInit param with longitudinal := false, cameraScc := false }
  vars := hyundaiInitialVars

/-! ### Receive -/

def hyundaiGetCounter (toPush : CANPacket) : UInt8 :=
  let addr := getAddr toPush
  let byte := getByte8 toPush
  if addr = 0x260 then (byte 7 >>> 4) &&& 0x3
  else if addr = 0x386 then ((byte 3 >>> 6) <<< 2) ||| (byte 1 >>> 6)
  else if addr = 0x394 then (byte 1 >>> 5) &&& 0x7
  else if addr = 0x421 then byte 7 &&& 0xF
  else if addr = 0x4F1 then (byte 3 >>> 4) &&& 0xF
  else 0

def hyundaiGetChecksum (toPush : CANPacket) : UInt32 :=
  let addr := getAddr toPush
  let byte := getByte8 toPush
  let chksum : UInt8 :=
    if addr = 0x260 then byte 7 &&& 0xF
    else if addr = 0x386 then ((byte 7 >>> 6) <<< 2) ||| (byte 5 >>> 6)
    else if addr = 0x394 then byte 6 &&& 0xF
    else if addr = 0x421 then byte 7 >>> 4
    else 0
  chksum.toUInt32

/-- The bits of message 0x386, without its checksum and counter bits. -/
def hyundaiCountBits (toPush : CANPacket) : Nat :=
  ((List.range 8).map fun i =>
    ((List.range 8).filter fun j =>
      (i % 2 == 0 || j < 6) && (getByte toPush i).testBit j).length).sum

/-- The nibbles of byte `i`, without the checksum and the excluded byte. -/
def hyundaiNibbles (addr i byte : Nat) : Nat :=
  if addr = 0x394 ∧ i = 7 then 0
  else
    let byte :=
      if (addr = 0x260 ∧ i = 7) ∨ (addr = 0x394 ∧ i = 6) ∨ (addr = 0x421 ∧ i = 7) then
        byte &&& (if addr = 0x421 then 0x0F else 0xF0)
      else byte
    byte % 16 + byte / 16

/-- The sums stay below 256, so the `uint8_t` of the source does not wrap. -/
def hyundaiComputeChecksum (toPush : CANPacket) : UInt32 :=
  let addr := getAddr toPush
  let chksum :=
    if addr = 0x386 then (hyundaiCountBits toPush ^^^ 9) &&& 15
    else
      let sum := ((List.range 8).map fun i => hyundaiNibbles addr i (getByte toPush i)).sum
      (16 - sum % 16) % 16
  UInt32.ofNat chksum

/-- Gas press, different for EV, hybrid, and ICE models. -/
def hyundaiRxGas (p : HyundaiParams) (toPush : CANPacket) (s : Signals) : Signals :=
  let addr := getAddr toPush
  if addr = 0x371 ∧ p.evGasSignal then
    { s with gasPressed :=
        (((getByte toPush 4 &&& 0x7F) <<< 1) ||| (getByte toPush 3 >>> 7)) != 0 }
  else if addr = 0x371 ∧ p.hybridGasSignal then
    { s with gasPressed := getByte toPush 7 != 0 }
  else if addr = 0x260 ∧ ¬ p.evGasSignal ∧ ¬ p.hybridGasSignal then
    { s with gasPressed := (getByte toPush 7 >>> 6) != 0 }
  else s

def hyundaiStockEcuDetected (p : HyundaiParams) (addr : Nat) : Bool :=
  -- SCC12 must be gone when openpilot is controlling longitudinal
  addr == 0x340 || (p.longitudinal && addr == 0x421)

/-- SCC12 is on bus 2 for camera-based SCC cars, bus 0 on all others. -/
def hyundaiIsScc12 (p : HyundaiParams) (addr bus : Nat) : Bool :=
  addr == 0x421 && ((bus == 0 && !p.cameraScc) || (bus == 2 && p.cameraScc))

def hyundaiScc12CruiseEngaged (toPush : CANPacket) : Bool :=
  ((getBytes toPush 0 4 >>> 13) &&& 0x3) != 0

def hyundaiRxHook (c : Context) (p : HyundaiParams) (toPush : CANPacket)
    (sv : Signals × HyundaiVars) : Signals × HyundaiVars :=
  let bus := getBus toPush
  let addr := getAddr toPush
  sv
    |> guarded (hyundaiIsScc12 p addr bus)
        (hyundaiCommonCruiseStateCheck p (hyundaiScc12CruiseEngaged toPush))
    |> guarded (bus = 0) fun sv => sv
      |> guarded (addr = 0x251) (onSignals fun s =>
          let torqueDriverNew : Int := (getBytes toPush 0 2 &&& 0x7ff : Nat) - 1024
          { s with torqueDriver := updateSample s.torqueDriver torqueDriverNew })
      |> guarded (addr = 0x4F1)
          (hyundaiCommonCruiseButtonsCheck p (getByte toPush 0 &&& 0x7) (getBit toPush 3))
      |> onSignals (hyundaiRxGas p toPush)
      -- sample wheel speed, averaging opposite corners
      |> guarded (addr = 0x386) (onSignals fun s =>
          let frontLeftSpeed := getBytes toPush 0 2 &&& 0x3FFF
          let rearRightSpeed := getBytes toPush 6 2 &&& 0x3FFF
          { s with vehicleMoving :=
              frontLeftSpeed > hyundaiStandstillThrsld ||
                rearRightSpeed > hyundaiStandstillThrsld })
      |> guarded (addr = 0x394) (onSignals fun s =>
          { s with brakePressed := ((getByte toPush 5 >>> 5) &&& 0x3) == 0x2 })
      |> onSignals (genericRxChecks c (hyundaiStockEcuDetected p addr))

/-! ### Transmit -/

def hyundaiSteeringLimits (p : HyundaiParams) : SteeringLimits :=
  if p.altLimits then hyundaiLimits 270 2 3 else hyundaiLimits 384 3 7

/-- Any potential actuation of FCA11. -/
def hyundaiFca11Actuation (toSend : CANPacket) : Bool :=
  let crVsmDecCmd := getByte toSend 1
  let fcaCmdAct := getBit toSend 20
  let cfVsmDecCmdAct := getBit toSend 31
  crVsmDecCmd != 0 || fcaCmdAct || cfVsmDecCmdAct

def hyundaiDesiredAccelRaw (toSend : CANPacket) : Int :=
  (((getByte toSend 4 &&& 0x7) <<< 8) ||| getByte toSend 3 : Nat) - 1023

def hyundaiDesiredAccelVal (toSend : CANPacket) : Int :=
  ((getByte toSend 5 <<< 3) ||| (getByte toSend 4 >>> 5) : Nat) - 1023

def hyundaiAebDecelCmd (toSend : CANPacket) : Nat := getByte toSend 2

def hyundaiAebReq (toSend : CANPacket) : Bool := getBit toSend 54

def hyundaiDesiredTorque (toSend : CANPacket) : Int :=
  ((getBytes toSend 0 4 >>> 16) &&& 0x7ff : Nat) - 1024

def hyundaiSteerReq (toSend : CANPacket) : Bool := getBit toSend 27

def hyundaiTxHook (c : Context) (p : HyundaiParams) (s : Signals) (toSend : CANPacket)
    (commands : Commands) (v : HyundaiVars) : Sending HyundaiVars :=
  let addr := getAddr toSend
  ⟨true, commands, v⟩
    -- FCA11: block any potential actuation
    |> guarded (addr = 0x38D) (block (hyundaiFca11Actuation toSend))
    |> guarded (addr = 0x421) (block
        (longitudinalAccelChecks s (hyundaiDesiredAccelRaw toSend) hyundaiLongLimits ||
          longitudinalAccelChecks s (hyundaiDesiredAccelVal toSend) hyundaiLongLimits ||
          hyundaiAebDecelCmd toSend != 0 || hyundaiAebReq toSend))
    |> guarded (addr = 0x340) (checkTorque
        (steerTorqueCmdChecks c.ts s (hyundaiDesiredTorque toSend)
          (hyundaiSteerReq toSend).toInt (hyundaiSteeringLimits p)))
    |> guarded (addr = 0x7D0) (block
        (getBytes toSend 0 4 != 0x00803E02 || getBytes toSend 4 4 != 0x0))
    |> guarded (addr = 0x4F1 ∧ ¬ p.longitudinal) (block
        (let button := getByte toSend 0 &&& 0x7
         !((button == 1 && s.controlsAllowed) || (button == 4 && s.cruiseEngagedPrev))))

/-! ### Forward -/

def hyundaiFwdHook (busNum addr : Int) : Int :=
  if busNum = 2 ∧ addr ≠ 0x340 ∧ addr ≠ 0x485 then 0
  else if busNum = 0 then 2
  else -1

def hyundaiHooks : SafetyHooks HyundaiParams HyundaiVars where
  init param _ _ := hyundaiInit param
  rx c p toPush := hyundaiRxHook c p toPush
  tx c p s toSend commands v := hyundaiTxHook c p s toSend commands v
  fwd _ _ := hyundaiFwdHook
  getCounter := some hyundaiGetCounter
  getChecksum := some hyundaiGetChecksum
  computeChecksum := some fun _ => hyundaiComputeChecksum

def hyundaiLegacyHooks : SafetyHooks HyundaiParams HyundaiVars :=
  { hyundaiHooks with init := fun param _ _ => hyundaiLegacyInit param }

end Panda.Safety
