import Panda.Safety.Checks

/-!
Chrysler, Jeep and RAM, `safety_chrysler.h`.
-/

namespace Panda.Safety

open Library

structure ChryslerAddrs where
  eps2 : Nat
  esp1 : Nat
  esp8 : Nat
  ecm5 : Nat
  das3 : Nat
  das6 : Nat
  lkasCommand : Nat
  cruiseButtons : Nat

inductive ChryslerPlatform where
  | ramDt
  | ramHd
  | pacifica
deriving DecidableEq

/-! ### Configurations -/

def chryslerAddrs : ChryslerAddrs where
  eps2 := 0x220
  esp1 := 0x140
  esp8 := 0x11C
  ecm5 := 0x22F
  das3 := 0x1F4
  das6 := 0x2A6
  lkasCommand := 0x292
  cruiseButtons := 0x23B

def chryslerRamDtAddrs : ChryslerAddrs where
  eps2 := 0x31
  esp1 := 0x83
  esp8 := 0x79
  ecm5 := 0x9D
  das3 := 0x99
  das6 := 0xFA
  lkasCommand := 0xA6
  cruiseButtons := 0xB1

def chryslerRamHdAddrs : ChryslerAddrs where
  eps2 := 0x220
  esp1 := 0x140
  esp8 := 0x11C
  ecm5 := 0x22F
  das3 := 0x1F4
  das6 := 0x275
  lkasCommand := 0x276
  cruiseButtons := 0x23A

/-- `chrysler_platform` and `chrysler_addrs`, which point at the addresses of
the platform once the mode is set. -/
structure ChryslerParams where
  platform : ChryslerPlatform := .ramDt
  addrs : ChryslerAddrs := chryslerRamDtAddrs

/-- The checks of the three platforms share their form. -/
def chryslerPlatformRxChecks (addrs : ChryslerAddrs) (speed : RxCheck) (das3Bus : Nat) :
    List RxCheck :=
  let check (addr bus frequency : Nat) : RxCheck :=
    rxCheck { addr, bus, len := 8, checkChecksum := true, maxCounter := 15, frequency }
  [check addrs.eps2 0 100, check addrs.esp1 0 50, speed, check addrs.ecm5 0 50,
   check addrs.das3 das3Bus 50]

def chryslerEsp8Check (addrs : ChryslerAddrs) : RxCheck :=
  rxCheck { addr := addrs.esp8, bus := 0, len := 8, checkChecksum := true, maxCounter := 15,
            frequency := 50 }

def chryslerRxChecks : List RxCheck :=
  chryslerPlatformRxChecks chryslerAddrs
    (rxCheck { addr := 514, bus := 0, len := 8, frequency := 100 }) 0

def chryslerRamDtRxChecks : List RxCheck :=
  chryslerPlatformRxChecks chryslerRamDtAddrs (chryslerEsp8Check chryslerRamDtAddrs) 2

def chryslerRamHdRxChecks : List RxCheck :=
  chryslerPlatformRxChecks chryslerRamHdAddrs (chryslerEsp8Check chryslerRamHdAddrs) 2

def chryslerTxMsgs : List CanMsg :=
  [⟨chryslerAddrs.cruiseButtons, 0, 3⟩, ⟨chryslerAddrs.lkasCommand, 0, 6⟩,
   ⟨chryslerAddrs.das6, 0, 8⟩]

def chryslerRamDtTxMsgs : List CanMsg :=
  [⟨chryslerRamDtAddrs.cruiseButtons, 2, 3⟩, ⟨chryslerRamDtAddrs.lkasCommand, 0, 8⟩,
   ⟨chryslerRamDtAddrs.das6, 0, 8⟩]

def chryslerRamHdTxMsgs : List CanMsg :=
  [⟨chryslerRamHdAddrs.cruiseButtons, 2, 3⟩, ⟨chryslerRamHdAddrs.lkasCommand, 0, 8⟩,
   ⟨chryslerRamHdAddrs.das6, 0, 8⟩]

def chryslerInit (param : UInt16) : InitResult ChryslerParams Unit :=
  if getFlag param.toNat 1 then
    { cfg := ⟨chryslerRamDtRxChecks, chryslerRamDtTxMsgs⟩
      params := ⟨.ramDt, chryslerRamDtAddrs⟩
      vars := () }
  else if getFlag param.toNat 2 then
    { cfg := ⟨chryslerRamHdRxChecks, chryslerRamHdTxMsgs⟩
      params := ⟨.ramHd, chryslerRamHdAddrs⟩
      vars := () }
  else
    { cfg := ⟨chryslerRxChecks, chryslerTxMsgs⟩
      params := ⟨.pacifica, chryslerAddrs⟩
      vars := () }

/-! ### Receive -/

def chryslerGetChecksum (toPush : CANPacket) : UInt32 :=
  (getByte8 toPush (getLen toPush - 1)).toUInt32

/-- One bit of the checksum, `shift` selecting it in the byte. -/
def chryslerChecksumBit (curr : UInt8) (checksum shift : UInt8) : UInt8 :=
  let top := (checksum &&& 0x80) != 0
  if (curr &&& shift) != 0 then
    let bitSum : UInt8 := if top then 1 else 0x1C
    bitSum ^^^ ((checksum <<< 1) ||| 1)
  else
    let bitSum : UInt8 := if top then 0x1D else 0
    bitSum ^^^ (checksum <<< 1)

def chryslerComputeChecksum (toPush : CANPacket) : UInt32 :=
  let checksum := (List.range (getLen toPush - 1)).foldl
    (fun checksum j =>
      [0x80, 0x40, 0x20, 0x10, 0x08, 0x04, 0x02, 0x01].foldl
        (chryslerChecksumBit (getByte8 toPush j)) checksum) (0xFF : UInt8)
  (~~~checksum).toUInt32

def chryslerGetCounter (toPush : CANPacket) : UInt8 := getByte8 toPush 6 >>> 4

def chryslerDas3Bus (p : ChryslerParams) : Nat := if p.platform = .pacifica then 0 else 2

def chryslerRxHook (c : Context) (p : ChryslerParams) (toPush : CANPacket) (s : Signals) :
    Signals :=
  let bus := getBus toPush
  let addr := getAddr toPush
  s
    |> guarded (bus = 0 ∧ addr = p.addrs.eps2) (fun s =>
        let torqueMeasNew : Int :=
          (((getByte toPush 4 &&& 0x7) <<< 8) + getByte toPush 5 : Nat) - 1024
        { s with torqueMeas := updateSample s.torqueMeas torqueMeasNew })
    |> guarded (bus = chryslerDas3Bus p ∧ addr = p.addrs.das3) (pcmCruiseCheck (getBit toPush 21))
    |> guarded (p.platform ≠ .pacifica ∧ bus = 0 ∧ addr = p.addrs.esp8) (fun s =>
        { s with vehicleMoving := ((getByte toPush 4 <<< 8) + getByte toPush 5) != 0 })
    |> guarded (p.platform = .pacifica ∧ bus = 0 ∧ addr = 514) (fun s =>
        let speedL := (getByte toPush 0 <<< 4) + (getByte toPush 1 >>> 4)
        let speedR := (getByte toPush 2 <<< 4) + (getByte toPush 3 >>> 4)
        { s with vehicleMoving := speedL != 0 || speedR != 0 })
    |> guarded (bus = 0 ∧ addr = p.addrs.ecm5) (fun s =>
        { s with gasPressed := getByte toPush 0 != 0 })
    |> guarded (bus = 0 ∧ addr = p.addrs.esp1) (fun s =>
        { s with brakePressed := ((getByte toPush 0 &&& 0xF) >>> 2) == 1 })
    |> genericRxChecks c (bus == 0 && addr == p.addrs.lkasCommand)

/-! ### Transmit -/

def chryslerTorqueLimits (steer rate rtDelta : Int) : SteeringLimits where
  maxSteer := steer
  maxRtDelta := rtDelta
  maxRtInterval := 250000
  maxRateUp := rate
  maxRateDown := rate
  maxTorqueError := 80
  type := .torqueMotorLimited

def chryslerSteeringLimits : ChryslerPlatform → SteeringLimits
  | .pacifica => chryslerTorqueLimits 261 3 112
  | .ramDt => chryslerTorqueLimits 350 6 112
  | .ramHd => chryslerTorqueLimits 361 14 182

def chryslerDesiredTorque (p : ChryslerParams) (toSend : CANPacket) : Int :=
  let startByte := if p.platform = .pacifica then 0 else 1
  (((getByte toSend startByte &&& 0x7) <<< 8) ||| getByte toSend (startByte + 1) : Nat) - 1024

def chryslerSteerReq (p : ChryslerParams) (toSend : CANPacket) : Bool :=
  if p.platform = .pacifica then getBit toSend 4 else (getByte toSend 3 &&& 0x7) == 2

def chryslerTxHook (c : Context) (p : ChryslerParams) (s : Signals) (toSend : CANPacket)
    (commands : Commands) : Sending Unit :=
  let addr := getAddr toSend
  ⟨true, commands, ()⟩
    |> guarded (addr = p.addrs.lkasCommand) (checkTorque
        (steerTorqueCmdChecks c.ts s (chryslerDesiredTorque p toSend)
          (chryslerSteerReq p toSend).toInt (chryslerSteeringLimits p.platform)))
    -- FORCE CANCEL: only the cancel button press is allowed
    |> guarded (addr = p.addrs.cruiseButtons) (block
        (let isCancel := getByte toSend 0 == 1
         let isResume := getByte toSend 0 == 0x10
         !(isCancel || (isResume && s.controlsAllowed))))

/-! ### Forward -/

def chryslerFwdHook (p : ChryslerParams) (busNum addr : Int) : Int :=
  let isLkas := addr == p.addrs.lkasCommand || addr == p.addrs.das6
  -- forward all messages from camera except LKAS messages
  if busNum = 2 ∧ ¬ isLkas then 0
  else if busNum = 0 then 2
  else -1

def chryslerHooks : SafetyHooks ChryslerParams Unit where
  init param _ _ := chryslerInit param
  rx c p toPush := onSignals (chryslerRxHook c p toPush)
  tx c p s toSend commands _ := chryslerTxHook c p s toSend commands
  fwd p _ := chryslerFwdHook p
  getCounter := some chryslerGetCounter
  getChecksum := some chryslerGetChecksum
  computeChecksum := some fun _ => chryslerComputeChecksum

end Panda.Safety
