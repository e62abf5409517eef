import Panda.Safety.Checks

/-!
The modes that drive no car: `safety_defaults.h`, `safety_elm327.h` and
`safety_body.h`.
-/

namespace Panda.Safety

open Library

def defaultRxHook (s : Signals) : Signals := s

def defaultFwdHook (_busNum _addr : Int) : Int := -1

def nooutputHooks : SafetyHooks Unit Unit where
  init _ _ _ := { cfg := {}, params := (), vars := () }
  rx _ _ _ := onSignals defaultRxHook
  tx _ _ _ _ commands vars := ⟨false, commands, vars⟩
  fwd _ _ := defaultFwdHook

/-! ### All output -/

structure AlloutputParams where
  passthrough : Bool := false

def alloutputFwdHook (p : AlloutputParams) (busNum _addr : Int) : Int :=
  if p.passthrough && busNum == 0 then 2
  else if p.passthrough && busNum == 2 then 0
  else -1

def alloutputHooks : SafetyHooks AlloutputParams Unit where
  init param _ vars :=
    { cfg := {}
      params := { passthrough := getFlag param.toNat 1 }
      vars
      controlsAllowed := true }
  rx _ _ _ := onSignals defaultRxHook
  tx _ _ _ _ commands vars := ⟨true, commands, vars⟩
  fwd p _ := alloutputFwdHook p

/-! ### ELM327 -/

def gmCameraDiagAddr : Nat := 0x24B

def elm327TxHook (toSend : CANPacket) (commands : Commands) : Sending Unit :=
  let addr := getAddr toSend
  let len := getLen toSend
  -- ISO 15765-4: eight bytes, a valid 29 bit or 11 bit send address
  let validAddr := addr == 0x18DB33F1 || (addr &&& 0x1FFF00FF) == 0x18DA00F1 ||
    (addr &&& 0x1FFFFF00) == 0x600 || (addr &&& 0x1FFFFF00) == 0x700 ||
    addr == gmCameraDiagAddr
  ⟨true, commands, ()⟩
    |> block (len != 8)
    |> block (!validAddr)
    -- only known frame types for ISO 15765-2 on the camera's own address
    |> block (addr == gmCameraDiagAddr && len == 8 && (getByte toSend 0 &&& 0xF0) > 0x30)

def elm327Hooks : SafetyHooks Unit Unit :=
  { nooutputHooks with tx := fun _ _ _ toSend commands _ => elm327TxHook toSend commands }

/-! ### Body -/

def bodyRxHook (toPush : CANPacket) (s : Signals) : Signals :=
  -- body is never at standstill
  { s with vehicleMoving := true }
    |> guarded (getAddr toPush = 0x201) fun s => { s with controlsAllowed := true }

def bodyTxHook (s : Signals) (toSend : CANPacket) (commands : Commands) : Sending Unit :=
  let addr := getAddr toSend
  let flashMsg := (addr == 0x250 || addr == 0x350) && getLen toSend == 8
  let tx := s.controlsAllowed || addr == 0x1
  -- CAN flashing mode for base and knee
  let tx := tx || (!s.controlsAllowed && getBytes toSend 0 4 == 0xdeadface &&
    getBytes toSend 4 4 == 0x0ab00b1e && flashMsg)
  ⟨tx, commands, ()⟩

def bodyRxChecks : List RxCheck := [rxCheck { addr := 0x201, bus := 0, len := 8, frequency := 100 }]

def bodyTxMsgs : List CanMsg :=
  [⟨0x250, 0, 8⟩, ⟨0x250, 0, 6⟩, ⟨0x251, 0, 5⟩,
   ⟨0x350, 0, 8⟩, ⟨0x350, 0, 6⟩, ⟨0x351, 0, 5⟩,
   ⟨0x1, 0, 8⟩]

def bodyHooks : SafetyHooks Unit Unit where
  init _ _ _ := { cfg := ⟨bodyRxChecks, bodyTxMsgs⟩, params := (), vars := () }
  rx _ _ toPush := onSignals (bodyRxHook toPush)
  tx _ _ s toSend commands _ := bodyTxHook s toSend commands
  fwd _ _ := defaultFwdHook

end Panda.Safety
