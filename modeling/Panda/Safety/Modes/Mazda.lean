import Panda.Safety.Checks

/-!
Mazda and Nissan, `safety_mazda.h` and `safety_nissan.h`.
-/

namespace Panda.Safety

open Library

/-! ### Mazda -/

def mazdaLkas : Nat := 0x243
def mazdaLkasHud : Nat := 0x440
def mazdaCrzCtrl : Nat := 0x21c
def mazdaCrzBtns : Nat := 0x09d
def mazdaSteerTorque : Nat := 0x240
def mazdaEngineData : Nat := 0x202
def mazdaPedals : Nat := 0x165

def mazdaMain : Nat := 0
def mazdaCam : Nat := 2

def mazdaTxMsgs : List CanMsg := [⟨mazdaLkas, 0, 8⟩, ⟨mazdaCrzBtns, 0, 8⟩, ⟨mazdaLkasHud, 0, 8⟩]

def mazdaRxChecks : List RxCheck :=
  [rxCheck { addr := mazdaCrzCtrl, bus := 0, len := 8, frequency := 50 },
   rxCheck { addr := mazdaCrzBtns, bus := 0, len := 8, frequency := 10 },
   rxCheck { addr := mazdaSteerTorque, bus := 0, len := 8, frequency := 83 },
   rxCheck { addr := mazdaEngineData, bus := 0, len := 8, frequency := 100 },
   rxCheck { addr := mazdaPedals, bus := 0, len := 8, frequency := 50 }]

def mazdaRxHook (c : Context) (toPush : CANPacket) (s : Signals) : Signals :=
  let addr := getAddr toPush
  s |> guarded (getBus toPush = mazdaMain) fun s => s
    |> guarded (addr = mazdaEngineData) (fun s =>
        { s with vehicleMoving := ((getByte toPush 2 <<< 8) ||| getByte toPush 3) > 10 })
    |> guarded (addr = mazdaSteerTorque) (fun s =>
        { s with torqueDriver := updateSample s.torqueDriver ((getByte toPush 0 : Int) - 127) })
    |> guarded (addr = mazdaCrzCtrl) (pcmCruiseCheck ((getByte toPush 0 &&& 0x8) != 0))
    |> guarded (addr = mazdaEngineData) (fun s =>
        { s with gasPressed := getByte toPush 4 != 0 || (getByte toPush 5 &&& 0xF0) != 0 })
    |> guarded (addr = mazdaPedals) (fun s =>
        { s with brakePressed := (getByte toPush 0 &&& 0x10) != 0 })
    |> genericRxChecks c (addr == mazdaLkas)

def mazdaSteeringLimits : SteeringLimits where
  maxSteer := 800
  maxRateUp := 10
  maxRateDown := 25
  maxRtDelta := 300
  maxRtInterval := 250000
  driverTorqueFactor := 1
  driverTorqueAllowance := 15
  type := .torqueDriverLimited

def mazdaDesiredTorque (toSend : CANPacket) : Int :=
  (((getByte toSend 0 &&& 0x0F) <<< 8) ||| getByte toSend 1 : Nat) - 2048

def mazdaTxHook (c : Context) (s : Signals) (toSend : CANPacket) (commands : Commands) :
    Sending Unit :=
  let bus := getBus toSend
  let addr := getAddr toSend
  ⟨true, commands, ()⟩
    -- steer cmd checks: the message has no request bit
    |> guarded (bus = mazdaMain ∧ addr = mazdaLkas) (checkTorque
        (steerTorqueCmdChecks c.ts s (mazdaDesiredTorque toSend) (-1) mazdaSteeringLimits))
    -- allow resume spamming while controls allowed, only cancel otherwise
    |> guarded (bus = mazdaMain ∧ addr = mazdaCrzBtns) (block
        (!s.controlsAllowed && getByte toSend 0 != 0x1))

def mazdaFwdHook (bus addr : Int) : Int :=
  if bus = mazdaMain then mazdaCam
  else if bus = mazdaCam then
    if addr == mazdaLkas || addr == mazdaLkasHud then -1 else mazdaMain
  else -1

def mazdaHooks : SafetyHooks Unit Unit where
  init _ _ _ := { cfg := ⟨mazdaRxChecks, mazdaTxMsgs⟩, params := (), vars := () }
  rx c _ toPush := onSignals (mazdaRxHook c toPush)
  tx c _ s toSend commands _ := mazdaTxHook c s toSend commands
  fwd _ _ := mazdaFwdHook

/-! ### Nissan -/

structure NissanParams where
  altEps : Bool := false

def nissanTxMsgs : List CanMsg :=
  [⟨0x169, 0, 8⟩, ⟨0x2b1, 0, 8⟩, ⟨0x4cc, 0, 8⟩, ⟨0x20b, 2, 6⟩, ⟨0x20b, 1, 6⟩, ⟨0x280, 2, 8⟩]

/-- The messages can come in on either CAN bus, depending on the car model. -/
def nissanRxChecks : List RxCheck :=
  [{ msg := #v[{ addr := 0x2, bus := 0, len := 5, frequency := 100 },
               { addr := 0x2, bus := 1, len := 5, frequency := 100 }, {}] },
   { msg := #v[{ addr := 0x285, bus := 0, len := 8, frequency := 50 },
               { addr := 0x285, bus := 1, len := 8, frequency := 50 }, {}] },
   { msg := #v[{ addr := 0x30f, bus := 2, len := 3, frequency := 10 },
               { addr := 0x30f, bus := 1, len := 3, frequency := 10 }, {}] },
   { msg := #v[{ addr := 0x15c, bus := 0, len := 8, frequency := 50 },
               { addr := 0x15c, bus := 1, len := 8, frequency := 50 },
               { addr := 0x239, bus := 0, len := 8, frequency := 50 }] },
   { msg := #v[{ addr := 0x454, bus := 0, len := 8, frequency := 10 },
               { addr := 0x454, bus := 1, len := 8, frequency := 10 },
               { addr := 0x1cc, bus := 0, len := 4, frequency := 100 }] }]

def nissanInit (param : UInt16) : InitResult NissanParams Unit where
  cfg := ⟨nissanRxChecks, nissanTxMsgs⟩
  params := { altEps := getFlag param.toNat 1 }
  vars := ()

/-- X-Trail 0x15c, Leaf 0x239. -/
def nissanRxGas (toPush : CANPacket) (s : Signals) : Signals :=
  if getAddr toPush = 0x15c then
    { s with gasPressed :=
        ((getByte toPush 5 <<< 2) ||| ((getByte toPush 6 >>> 6) &&& 0x3)) > 3 }
  else { s with gasPressed := getByte toPush 0 > 3 }

/-- X-Trail 0x454, Leaf 0x239. -/
def nissanRxBrake (toPush : CANPacket) (s : Signals) : Signals :=
  if getAddr toPush = 0x454 then
    { s with brakePressed := (getByte toPush 2 &&& 0x80) != 0 }
  else { s with brakePressed := ((getByte toPush 4 >>> 5) &&& 1) != 0 }

def nissanCruiseBus (p : NissanParams) : Nat := if p.altEps then 1 else 2

def nissanRxHook (c : Context) (p : NissanParams) (toPush : CANPacket) (s : Signals) : Signals :=
  let bus := getBus toPush
  let addr := getAddr toPush
  s
    |> guarded (bus = if p.altEps then 1 else 0) (fun s => s
      |> guarded (addr = 0x2) (fun s =>
          let angleMeasNew := toSigned (getBytes toPush 0 4 &&& 0xFFFF : Nat) 16 * -10
          { s with angleMeas := updateSample s.angleMeas angleMeasNew })
      |> guarded (addr = 0x285) (fun s =>
          let rightRear := (getByte toPush 0 <<< 8) ||| getByte toPush 1
          let leftRear := (getByte toPush 2 <<< 8) ||| getByte toPush 3
          { s with vehicleMoving := (rightRear ||| leftRear) != 0 }
            |> updateVehicleSpeed
                (((rightRear + leftRear : Nat) : ℚ) / 2 * (5 / 1000) / (36 / 10)))
      |> guarded (addr = 0x15c ∨ addr = 0x239) (nissanRxGas toPush)
      |> guarded (addr = 0x454 ∨ addr = 0x239) (nissanRxBrake toPush))
    |> guarded (addr = 0x30f ∧ bus = nissanCruiseBus p)
        (pcmCruiseCheck (((getByte toPush 0 >>> 3) &&& 1) != 0))
    |> genericRxChecks c (addr == 0x169 && bus == 0)

def nissanSteeringLimits : SteeringLimits where
  angleDegToCan := 100
  angleRateUpLookup := ⟨![0, 5, 15], ![5, 8 / 10, 15 / 100]⟩
  angleRateDownLookup := ⟨![0, 5, 15], ![5, 35 / 10, 4 / 10]⟩

/-- Factor is -0.01, offset is 1310, in CAN scale. -/
def nissanDesiredAngle (toSend : CANPacket) : Int :=
  131000 - ((getByte toSend 0 <<< 10) ||| (getByte toSend 1 <<< 2) |||
    ((getByte toSend 2 >>> 6) &&& 0x3) : Nat)

def nissanLkaActive (toSend : CANPacket) : Bool := ((getByte toSend 6 >>> 4) &&& 1) != 0

def nissanTxHook (s : Signals) (toSend : CANPacket) (commands : Commands) : Sending Unit :=
  let addr := getAddr toSend
  ⟨true, commands, ()⟩
    |> guarded (addr = 0x169) (checkAngle
        (steerAngleCmdChecks s (nissanDesiredAngle toSend) (nissanLkaActive toSend)
          nissanSteeringLimits))
    -- acc button check, only allow cancel button to be sent
    |> guarded (addr = 0x20b) (block ((getByte toSend 1 &&& 0x3d) > 0))

def nissanFwdHook (busNum addr : Int) : Int :=
  -- CANCEL_MSG goes to the camera, LKAS and its HUD messages do not come back
  if busNum = 0 then if addr == 0x280 then -1 else 2
  else if busNum = 2 then
    if addr == 0x169 || addr == 0x2b1 || addr == 0x4cc then -1 else 0
  else -1

def nissanHooks : SafetyHooks NissanParams Unit where
  init param _ _ := nissanInit param
  rx c p toPush := onSignals (nissanRxHook c p toPush)
  tx _ _ s toSend commands _ := nissanTxHook s toSend commands
  fwd _ _ := nissanFwdHook

end Panda.Safety
