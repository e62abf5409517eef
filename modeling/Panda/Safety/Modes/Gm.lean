import Panda.Safety.Checks

/-!
GM, `safety_gm.h`.
-/

namespace Panda.Safety

open Library

inductive GmHardware where
  | ascm
  | cam
deriving DecidableEq

/-! ### Configurations -/

def gmAscmLongLimits : LongitudinalLimits where
  maxGas := 3072
  minGas := 1404
  inactiveGas := 1404
  maxBrake := 400

def gmCamLongLimits : LongitudinalLimits where
  maxGas := 3400
  minGas := 1514
  inactiveGas := 1554
  maxBrake := 400

structure GmParams where
  longLimits : LongitudinalLimits := {}
  hw : GmHardware := .ascm
  camLong : Bool := false
  pcmCruise : Bool := false

def gmAscmTxMsgs : List CanMsg :=
  [⟨0x180, 0, 4⟩, ⟨0x409, 0, 7⟩, ⟨0x40A, 0, 7⟩, ⟨0x2CB, 0, 8⟩, ⟨0x370, 0, 6⟩,
   ⟨0xA1, 1, 7⟩, ⟨0x306, 1, 8⟩, ⟨0x308, 1, 7⟩, ⟨0x310, 1, 2⟩,
   ⟨0x315, 2, 5⟩]

def gmCamLongTxMsgs : List CanMsg :=
  [⟨0x180, 0, 4⟩, ⟨0x315, 0, 5⟩, ⟨0x2CB, 0, 8⟩, ⟨0x370, 0, 6⟩, ⟨0x184, 2, 8⟩]

def gmCamTxMsgs : List CanMsg := [⟨0x180, 0, 4⟩, ⟨0x1E1, 2, 7⟩, ⟨0x184, 2, 8⟩]

def gmRxChecks : List RxCheck :=
  [rxCheck { addr := 0x184, bus := 0, len := 8, frequency := 10 },
   rxCheck { addr := 0x34A, bus := 0, len := 5, frequency := 10 },
   rxCheck { addr := 0x1E1, bus := 0, len := 7, frequency := 10 },
   { msg := #v[{ addr := 0xBE, bus := 0, len := 6, frequency := 10 },
               { addr := 0xBE, bus := 0, len := 7, frequency := 10 },
               { addr := 0xBE, bus := 0, len := 8, frequency := 10 }] },
   rxCheck { addr := 0x1C4, bus := 0, len := 8, frequency := 10 },
   rxCheck { addr := 0xC9, bus := 0, len := 8, frequency := 10 }]

def gmParams (param : UInt16) : GmParams :=
  let hw := if getFlag param.toNat 1 then GmHardware.cam else GmHardware.ascm
  let camLong := getFlag param.toNat 2
  { hw
    longLimits := match hw with
      | .ascm => gmAscmLongLimits
      | .cam => gmCamLongLimits
    camLong
    pcmCruise := hw == .cam && !camLong }

def gmInit (param : UInt16) : InitResult GmParams Unit :=
  let params := gmParams param
  { cfg :=
      { rxChecks := gmRxChecks
        txMsgs := match params.hw with
          | .ascm => gmAscmTxMsgs
          | .cam => if params.camLong then gmCamLongTxMsgs else gmCamTxMsgs }
    params
    vars := () }

/-! ### Receive -/

def gmBtnResume : Nat := 2
def gmBtnSet : Nat := 3
def gmBtnCancel : Nat := 6

def gmStandstillThrsld : Nat := 10

/-- ACC steering wheel buttons: enter controls on the falling edge of set or
the rising edge of resume (avoids fault), exit controls on cancel press. -/
def gmRxButtons (button : Nat) (s : Signals) : Signals :=
  let set := button != gmBtnSet && s.cruiseButtonPrev == gmBtnSet
  let res := button == gmBtnResume && s.cruiseButtonPrev != gmBtnResume
  { s with
    controlsAllowed := (s.controlsAllowed || (set || res)) && button != gmBtnCancel
    cruiseButtonPrev := button }

def gmStockEcuDetected (p : GmParams) (addr : Nat) : Bool :=
  -- ASCMLKASteeringCmd, and ASCMGasRegenCmd only if we're blocking it
  addr == 0x180 || (!p.pcmCruise && addr == 0x2CB)

def gmRxHook (c : Context) (p : GmParams) (toPush : CANPacket) (s : Signals) : Signals :=
  let addr := getAddr toPush
  s |> guarded (getBus toPush = 0) fun s => s
    |> guarded (addr = 0x184) (fun s =>
        let torqueDriverNew :=
          toSigned (((getByte toPush 6 &&& 0x7) <<< 8) ||| getByte toPush 7 : Nat) 11
        { s with torqueDriver := updateSample s.torqueDriver torqueDriverNew })
    |> guarded (addr = 0x34A) (fun s =>
        let leftRearSpeed := (getByte toPush 0 <<< 8) ||| getByte toPush 1
        let rightRearSpeed := (getByte toPush 2 <<< 8) ||| getByte toPush 3
        { s with vehicleMoving :=
            leftRearSpeed > gmStandstillThrsld || rightRearSpeed > gmStandstillThrsld })
    -- buttons (GM_CAM is tied to the PCM)
    |> guarded (addr = 0x1E1 ∧ ¬ p.pcmCruise) (gmRxButtons ((getByte toPush 5 &&& 0x70) >>> 4))
    |> guarded (addr = 0xBE ∧ p.hw = .ascm) (fun s =>
        { s with brakePressed := getByte toPush 1 ≥ 8 })
    |> guarded (addr = 0xC9 ∧ p.hw = .cam) (fun s =>
        { s with brakePressed := getBit toPush 40 })
    |> guarded (addr = 0x1C4) (fun s =>
        { s with gasPressed := getByte toPush 5 != 0 }
          |> guarded p.pcmCruise (pcmCruiseCheck ((getByte toPush 1 >>> 5) != 0)))
    |> guarded (addr = 0xBD) (fun s =>
        { s with regenBraking := (getByte toPush 0 >>> 4) != 0 })
    |> genericRxChecks c (gmStockEcuDetected p addr)

/-! ### Transmit -/

def gmSteeringLimits : SteeringLimits where
  maxSteer := 300
  maxRateUp := 10
  maxRateDown := 15
  driverTorqueAllowance := 65
  driverTorqueFactor := 4
  maxRtDelta := 128
  maxRtInterval := 250000
  type := .torqueDriverLimited

def gmBrake (toSend : CANPacket) : Int :=
  let brake : Int := (((getByte toSend 0 &&& 0xF) <<< 8) + getByte toSend 1 : Nat)
  (0x1000 - brake) % 0x1000

def gmDesiredTorque (toSend : CANPacket) : Int :=
  toSigned (((getByte toSend 0 &&& 0x7) <<< 8) + getByte toSend 1 : Nat) 11

def gmSteerReq (toSend : CANPacket) : Bool := getBit toSend 3

def gmGasRegen (toSend : CANPacket) : Int :=
  ((getByte toSend 2 &&& 0x7F) <<< 5) + ((getByte toSend 3 &&& 0xF8) >>> 3)

def gmTxHook (c : Context) (p : GmParams) (s : Signals) (toSend : CANPacket)
    (commands : Commands) : Sending Unit :=
  let addr := getAddr toSend
  ⟨true, commands, ()⟩
    |> guarded (addr = 0x315) (block (longitudinalBrakeChecks s (gmBrake toSend) p.longLimits))
    |> guarded (addr = 0x180) (checkTorque
        (steerTorqueCmdChecks c.ts s (gmDesiredTorque toSend) (gmSteerReq toSend).toInt
          gmSteeringLimits))
    -- GAS/REGEN: allow apply bit in pre-enabled and overriding states
    |> guarded (addr = 0x2CB) (block
        ((!s.controlsAllowed && getBit toSend 0) ||
          longitudinalGasChecks s (gmGasRegen toSend) p.longLimits))
    -- BUTTONS: used for cruise cancellation with stock longitudinal
    |> guarded (addr = 0x1E1 ∧ p.pcmCruise) (block
        (!(((getByte toSend 5 >>> 4) &&& 0x7) == 6 && s.cruiseEngagedPrev)))

/-! ### Forward -/

def gmFwdHook (p : GmParams) (busNum addr : Int) : Int :=
  if p.hw = .cam then
    if busNum = 0 then
      -- block PSCMStatus; forwarded through openpilot to hide an alert from the camera
      if addr == 0x184 then -1 else 2
    else if busNum = 2 then
      let isLkasMsg := addr == 0x180
      let isAccMsg := addr == 0x315 || addr == 0x2CB || addr == 0x370
      if isLkasMsg || (isAccMsg && p.camLong) then -1 else 0
    else -1
  else -1

def gmHooks : SafetyHooks GmParams Unit where
  init param _ _ := gmInit param
  rx c p toPush := onSignals (gmRxHook c p toPush)
  tx c p s toSend commands _ := gmTxHook c p s toSend commands
  fwd p _ := gmFwdHook p

end Panda.Safety
