import Panda.Safety.Checks

/-!
Honda Nidec and Bosch, `safety_honda.h`.
-/

namespace Panda.Safety

open Library

inductive HondaHw where
  | nidec
  | bosch
deriving DecidableEq

structure HondaParams where
  hw : HondaHw := .nidec
  altBrakeMsg : Bool := false
  boschLong : Bool := false
  boschRadarless : Bool := false

structure HondaVars where
  brake : Nat := 0
  brakeSwitchPrev : Bool := false
  fwdBrake : Bool := false

/-! ### Configurations -/

def hondaCommonNoScmFeedbackRxChecks (ptBus : Nat) : List RxCheck :=
  [{ msg := #v[
      { addr := 0x1A6, bus := ptBus, len := 8, checkChecksum := true, maxCounter := 3,
        frequency := 25 },
      { addr := 0x296, bus := ptBus, len := 4, checkChecksum := true, maxCounter := 3,
        frequency := 25 }, {}] },
   rxCheck { addr := 0x158, bus := ptBus, len := 8, checkChecksum := true, maxCounter := 3,
             frequency := 100 },
   rxCheck { addr := 0x17C, bus := ptBus, len := 8, checkChecksum := true, maxCounter := 3,
             frequency := 100 }]

def hondaCommonRxChecks (ptBus : Nat) : List RxCheck :=
  hondaCommonNoScmFeedbackRxChecks ptBus ++
    [rxCheck { addr := 0x326, bus := ptBus, len := 8, checkChecksum := true, maxCounter := 3,
               frequency := 10 }]

def hondaAltBrakeAddrCheck (ptBus : Nat) : RxCheck :=
  rxCheck { addr := 0x1BE, bus := ptBus, len := 3, checkChecksum := true, maxCounter := 3,
            frequency := 50 }

def hondaNTxMsgs : List CanMsg :=
  [⟨0xE4, 0, 5⟩, ⟨0x194, 0, 4⟩, ⟨0x1FA, 0, 8⟩, ⟨0x30C, 0, 8⟩, ⟨0x33D, 0, 5⟩]

def hondaBoschTxMsgs : List CanMsg :=
  [⟨0xE4, 0, 5⟩, ⟨0xE5, 0, 8⟩, ⟨0x296, 1, 4⟩, ⟨0x33D, 0, 5⟩, ⟨0x33DA, 0, 5⟩, ⟨0x33DB, 0, 8⟩]

def hondaBoschLongTxMsgs : List CanMsg :=
  [⟨0xE4, 1, 5⟩, ⟨0x1DF, 1, 8⟩, ⟨0x1EF, 1, 8⟩, ⟨0x1FA, 1, 8⟩, ⟨0x30C, 1, 8⟩, ⟨0x33D, 1, 5⟩,
   ⟨0x33DA, 1, 5⟩, ⟨0x33DB, 1, 8⟩, ⟨0x39F, 1, 8⟩, ⟨0x18DAB0F1, 1, 8⟩]

def hondaRadarlessTxMsgs : List CanMsg := [⟨0xE4, 0, 5⟩, ⟨0x296, 2, 4⟩, ⟨0x33D, 0, 8⟩]

def hondaRadarlessLongTxMsgs : List CanMsg :=
  [⟨0xE4, 0, 5⟩, ⟨0x33D, 0, 8⟩, ⟨0x1C8, 0, 8⟩, ⟨0x30C, 0, 8⟩]

def hondaNidecInit (param : UInt16) (_ : HondaParams) (_ : HondaVars) :
    InitResult HondaParams HondaVars where
  cfg :=
    { rxChecks := if getFlag param.toNat 4 then hondaCommonNoScmFeedbackRxChecks 0
        else hondaCommonRxChecks 0
      txMsgs := hondaNTxMsgs }
  params := { hw := .nidec, altBrakeMsg := false, boschLong := false, boschRadarless := false }
  vars := { brake := 0, brakeSwitchPrev := false, fwdBrake := false }

/-- The Bosch `init` clears `honda_brake_switch_prev` and leaves `honda_brake`
and `honda_fwd_brake` as they are. -/
def hondaBoschInit (param : UInt16) (_ : HondaParams) (v : HondaVars) :
    InitResult HondaParams HondaVars :=
  let boschRadarless := getFlag param.toNat 8
  let altBrakeMsg := getFlag param.toNat 1
  let boschLong := getFlag param.toNat 2
  { cfg :=
      { rxChecks :=
          if boschRadarless && altBrakeMsg then hondaCommonRxChecks 0 ++ [hondaAltBrakeAddrCheck 0]
          else if boschRadarless then hondaCommonRxChecks 0
          else if altBrakeMsg then hondaCommonRxChecks 1 ++ [hondaAltBrakeAddrCheck 1]
          else hondaCommonRxChecks 1
        txMsgs :=
          if boschRadarless then
            if boschLong then hondaRadarlessLongTxMsgs else hondaRadarlessTxMsgs
          else if boschLong then hondaBoschLongTxMsgs else hondaBoschTxMsgs }
    params := { hw := .bosch, altBrakeMsg, boschLong, boschRadarless }
    vars := { v with brakeSwitchPrev := false } }

/-! ### Receive -/

def hondaGetPtBus (p : HondaParams) : Nat :=
  if p.hw == .bosch && !p.boschRadarless then 1 else 0

def hondaGetChecksum (toPush : CANPacket) : UInt32 :=
  (getByte8 toPush (getLen toPush - 1) &&& 0xF).toUInt32

/-- The nibbles of the address and of the data are summed, the checksum nibble
of the last byte left out. An address has 29 bits, so eight rounds of the
nibble loop cover it and the further rounds add zero. -/
def hondaComputeChecksum (toPush : CANPacket) : UInt32 :=
  let len := getLen toPush
  let addrSum := (List.range 8).foldl
    (fun checksum i => checksum + UInt8.ofNat ((getAddr toPush >>> (4 * i)) &&& 0xF)) (0 : UInt8)
  let checksum := (List.range len).foldl (fun checksum j =>
    let byte := getByte8 toPush j
    let low : UInt8 := byte &&& 0xF
    let high : UInt8 := byte >>> 4
    if j == len - 1 then checksum + (low + high) - low else checksum + (low + high)) addrSum
  ((8 - checksum) &&& 0xF).toUInt32

def hondaGetCounter (toPush : CANPacket) : UInt8 :=
  (getByte8 toPush (getLen toPush - 1) >>> 4) &&& 0x3

def hondaBtnMain : Nat := 1
def hondaBtnCancel : Nat := 2
def hondaBtnSet : Nat := 3
def hondaBtnResume : Nat := 4

/-- `pcm_cruise`: the car's own cruise control engages openpilot. -/
def hondaPcmCruise (p : HondaParams) : Bool :=
  (p.hw == .bosch && !p.boschLong) || p.hw == .nidec

/-- PCM cruise state. Nidec does not disengage when the PCM does. -/
def hondaRxPcmCruise (p : HondaParams) (cruiseEngaged : Bool) (s : Signals) : Signals :=
  { s with
    controlsAllowed := (s.controlsAllowed || (cruiseEngaged && !s.cruiseEngagedPrev)) &&
      (cruiseEngaged || p.hw == .nidec)
    cruiseEngagedPrev := cruiseEngaged }

/-- Button state machine: enter controls on the falling edge of set or resume,
exit once main or cancel are pressed. -/
def hondaRxButtons (p : HondaParams) (button : Nat) (s : Signals) : Signals :=
  let set := button != hondaBtnSet && s.cruiseButtonPrev == hondaBtnSet
  let res := button != hondaBtnResume && s.cruiseButtonPrev == hondaBtnResume
  { s with
    controlsAllowed := (s.controlsAllowed || (s.accMainOn && !hondaPcmCruise p && (set || res))) &&
      !(button == hondaBtnMain || button == hondaBtnCancel)
    cruiseButtonPrev := button }

/-- The brake of 0x17C, also if the brake switch is 1 for two CAN frames, as
brake pressed is delayed. -/
def hondaRxBrake (toPush : CANPacket) (sv : Signals × HondaVars) : Signals × HondaVars :=
  let brakeSwitch := getBit toPush 32
  ({ sv.1 with brakePressed := getBit toPush 53 || (brakeSwitch && sv.2.brakeSwitchPrev) },
    { sv.2 with brakeSwitchPrev := brakeSwitch })

def hondaStockAeb (toPush : CANPacket) : Bool := getBit toPush 29

def hondaStockBrake (toPush : CANPacket) : Nat :=
  (getByte toPush 0 <<< 2) ||| (getByte toPush 1 >>> 6)

/-- Forward AEB when stock braking is higher than openpilot braking; only stop
forwarding when the AEB event is over. -/
def hondaRxStockAeb (toPush : CANPacket) (v : HondaVars) : HondaVars :=
  if !hondaStockAeb toPush then { v with fwdBrake := false }
  else if hondaStockBrake toPush ≥ v.brake then { v with fwdBrake := true }
  else v

def hondaStockEcuDetected (p : HondaParams) (addr bus : Nat) : Bool :=
  let busRdrCar := if p.hw == .bosch then 0 else 2
  ((addr == 0xE4 || addr == 0x194) &&
    ((p.hw != .nidec && bus == busRdrCar) || (p.hw == .nidec && bus == 0))) ||
  (p.boschLong && !p.boschRadarless && bus == hondaGetPtBus p && addr == 0x1DF)

def hondaRxHook (c : Context) (p : HondaParams) (toPush : CANPacket)
    (sv : Signals × HondaVars) : Signals × HondaVars :=
  let addr := getAddr toPush
  let bus := getBus toPush
  sv
    |> guarded (addr = 0x158) (onSignals fun s =>
        { s with vehicleMoving := (getByte toPush 0 ||| getByte toPush 1) != 0 })
    |> guarded (addr = 0x326 ∨ addr = 0x1A6) (onSignals fun s =>
        let accMainOn := getBit toPush (if addr = 0x326 then 28 else 47)
        { s with accMainOn, controlsAllowed := s.controlsAllowed && accMainOn })
    |> guarded (hondaPcmCruise p ∧ addr = 0x17C)
        (onSignals (hondaRxPcmCruise p (getBit toPush 38)))
    |> guarded ((addr = 0x1A6 ∨ addr = 0x296) ∧ bus = hondaGetPtBus p)
        (onSignals (hondaRxButtons p ((getByte toPush 0 &&& 0xE0) >>> 5)))
    -- user brake, on an alternate message for some cars
    |> guarded (p.altBrakeMsg ∧ addr = 0x1BE) (onSignals fun s =>
        { s with brakePressed := getBit toPush 4 })
    |> guarded (¬ p.altBrakeMsg ∧ addr = 0x17C) (hondaRxBrake toPush)
    |> guarded (addr = 0x17C) (onSignals fun s =>
        { s with gasPressed := getByte toPush 0 != 0 })
    -- disable stock Honda AEB in alternative experience
    |> guarded ((c.alternativeExperience &&& altExpDisableStockAeb) = 0 ∧ bus = 2 ∧ addr = 0x1FA)
        (onVars (hondaRxStockAeb toPush))
    |> onSignals (genericRxChecks c (hondaStockEcuDetected p addr bus))

/-! ### Transmit -/

def hondaBoschLongLimits : LongitudinalLimits where
  maxAccel := 200
  minAccel := -350
  maxGas := 2000
  inactiveGas := -30000

def hondaNidecLongLimits : LongitudinalLimits where
  maxGas := 198
  maxBrake := 255
  inactiveSpeed := 0

def hondaPcmSpeed (toSend : CANPacket) : Int := (getByte toSend 0 <<< 8) ||| getByte toSend 1

def hondaPcmGas (toSend : CANPacket) : Int := getByte toSend 2

def hondaBrake (toSend : CANPacket) : Nat :=
  (getByte toSend 0 <<< 2) + ((getByte toSend 1 >>> 6) &&& 0x3)

def hondaBoschAccel (toSend : CANPacket) : Int :=
  toSigned ((getByte toSend 3 <<< 3) ||| ((getByte toSend 4 >>> 5) &&& 0x7) : Nat) 11

def hondaBoschGas (toSend : CANPacket) : Int :=
  toSigned ((getByte toSend 0 <<< 8) ||| getByte toSend 1 : Nat) 16

def hondaRadarlessAccel (toSend : CANPacket) : Int :=
  toSigned ((getByte toSend 0 <<< 4) ||| (getByte toSend 1 >>> 4) : Nat) 12

def hondaSteerApplied (toSend : CANPacket) : Bool :=
  (getByte toSend 0 ||| getByte toSend 1) != 0

/-- The brake command: it is remembered before it is checked. -/
def hondaTxBrake (s : Signals) (toSend : CANPacket) (r : Sending HondaVars) :
    Sending HondaVars :=
  { r with vars := { r.vars with brake := hondaBrake toSend } }
    |> block (longitudinalBrakeChecks s (hondaBrake toSend) hondaNidecLongLimits)
    |> block r.vars.fwdBrake

def hondaTxHook (p : HondaParams) (s : Signals) (toSend : CANPacket) (commands : Commands)
    (v : HondaVars) : Sending HondaVars :=
  let addr := getAddr toSend
  let bus := getBus toSend
  let busPt := hondaGetPtBus p
  -- the camera controls ACC on radarless Bosch cars
  let busButtons := if p.boschRadarless then 2 else busPt
  ⟨true, commands, v⟩
    -- ACC_HUD: safety check (nidec w/o pedal)
    |> guarded (addr = 0x30C ∧ bus = busPt) (block
        (longitudinalSpeedChecks s (hondaPcmSpeed toSend) hondaNidecLongLimits ||
          longitudinalGasChecks s (hondaPcmGas toSend) hondaNidecLongLimits))
    |> guarded (addr = 0x1FA ∧ bus = busPt) (hondaTxBrake s toSend)
    -- BRAKE/GAS: safety check (bosch)
    |> guarded (addr = 0x1DF ∧ bus = busPt) (block
        (longitudinalAccelChecks s (hondaBoschAccel toSend) hondaBoschLongLimits ||
          longitudinalGasChecks s (hondaBoschGas toSend) hondaBoschLongLimits))
    |> guarded (addr = 0x1C8 ∧ bus = busPt) (block
        (longitudinalAccelChecks s (hondaRadarlessAccel toSend) hondaBoschLongLimits))
    |> guarded (addr = 0xE4 ∨ addr = 0x194) (block
        (!s.controlsAllowed && hondaSteerApplied toSend))
    |> guarded (addr = 0xE5) (block
        (getBytes toSend 0 4 != 0x10800004 || (getBytes toSend 4 4 &&& 0x00FFFFFF) != 0x0))
    -- FORCE CANCEL: only the cancel button when controls are off
    |> guarded (addr = 0x296 ∧ ¬ s.controlsAllowed ∧ bus = busButtons) (block
        (((getByte toSend 0 >>> 5) &&& 0x7) != 2))
    |> guarded (addr = 0x18DAB0F1) (block
        (getBytes toSend 0 4 != 0x00803E02 || getBytes toSend 4 4 != 0x0))

/-! ### Forward -/

def hondaNidecFwdHook (v : HondaVars) (busNum addr : Int) : Int :=
  if busNum = 0 then 2
  else if busNum = 2 then
    -- block stock lkas messages and stock acc messages (if OP is doing ACC)
    let isLkasMsg := addr == 0xE4 || addr == 0x194 || addr == 0x33D
    let isAccHudMsg := addr == 0x30C
    let isBrakeMsg := addr == 0x1FA
    if isLkasMsg || isAccHudMsg || (isBrakeMsg && !v.fwdBrake) then -1 else 0
  else -1

def hondaBoschFwdHook (p : HondaParams) (busNum addr : Int) : Int :=
  if busNum = 0 then 2
  else if busNum = 2 then
    let isLkasMsg := addr == 0xE4 || addr == 0xE5 || addr == 0x33D || addr == 0x33DA ||
      addr == 0x33DB
    let isAccMsg := (addr == 0x1C8 || addr == 0x30C) && p.boschRadarless && p.boschLong
    if isLkasMsg || isAccMsg then -1 else 0
  else -1

def hondaNidecHooks : SafetyHooks HondaParams HondaVars where
  init := hondaNidecInit
  rx c p toPush := hondaRxHook c p toPush
  tx _ p s toSend commands v := hondaTxHook p s toSend commands v
  fwd _ v := hondaNidecFwdHook v
  getCounter := some hondaGetCounter
  getChecksum := some hondaGetChecksum
  computeChecksum := some fun _ => hondaComputeChecksum

def hondaBoschHooks : SafetyHooks HondaParams HondaVars :=
  { hondaNidecHooks with
    init := hondaBoschInit
    fwd := fun p _ => hondaBoschFwdHook p }

end Panda.Safety
