import Panda.Safety.Session

/-!
The main loop of `board/main.c`: the tick handler, `set_safety_mode`, the
harness of `drivers/harness.h` and the control requests of `main_comms.h` that
touch them, over the safety state. Left out is what none of these reads back:
the outputs to LEDs, siren, fan, infrared and bootkick, the CAN controllers that
are initialised again, and the requests that only answer or only reach such
parts. The request to reset restarts the machine, as power on does.
-/

namespace Panda.Main

open Library Safety

/-! ### Harness -/

inductive HarnessStatus where
  | nc
  | normal
  | flipped
deriving DecidableEq

structure Harness where
  status : HarnessStatus := .nc
  relayDriven : Bool := false

/-- `current_board->harness_config->has_harness` and `current_board->has_obd`. -/
structure Board where
  hasHarness : Bool := true
  hasObd : Bool := true

def setInterceptRelay (board : Board) (intercept ignitionRelay : Bool) (harness : Harness) :
    Harness :=
  if board.hasHarness then
    let driveRelay := intercept && harness.status != .nc
    { harness with relayDriven := driveRelay || ignitionRelay }
  else harness

/-- `harness_detect_orientation`, where `sensed` is what the voltages of the SBU
lines show. The relay hides them while it is driven. -/
def harnessDetectOrientation (board : Board) (sensed : HarnessStatus) (harness : Harness) :
    HarnessStatus :=
  if !harness.relayDriven && board.hasHarness then sensed else harness.status

def harnessTick (board : Board) (sensed : HarnessStatus) (harness : Harness) : Harness :=
  { harness with status := harnessDetectOrientation board sensed harness }

/-- `harness_init`, which the boards with a harness call. -/
def harnessInit (board : Board) (sensed : HarnessStatus) : Harness :=
  setInterceptRelay board false false (harnessTick board sensed {})

/-! ### State -/

inductive CanSilent where
  | allCanSilent
  | allCanLive
deriving DecidableEq

inductive PowerSaveStatus where
  | disabled
  | enabled
deriving DecidableEq

/-- The variables of the main loop. `clearSends`, which no function reads, is how often
`set_safety_mode` cleared what CAN2 has to send. -/
structure State where
  safety : Safety.State := bootState
  harness : Harness := {}
  prevHarnessStatus : HarnessStatus := .nc
  loopCounter : Nat := 0
  heartbeatCounter : UInt32 := 0
  heartbeatLost : Bool := false
  heartbeatDisabled : Bool := false
  heartbeatEngaged : Bool := false
  canSilent : CanSilent := .allCanSilent
  powerSaveStatus : PowerSaveStatus := .disabled
  ignitionCan : Bool := false
  ignitionCanCnt : UInt32 := 0
  safetyTxBlocked : UInt32 := 0
  safetyRxInvalid : UInt32 := 0
  clearSends : Nat := 0

def State.mode (s : State) : UInt16 := s.safety.currentSafetyMode

/-- `set_safety_hooks` as `set_safety_mode` calls it: a mode that is not
registered falls back to SILENT. -/
def selectHooks (mode param : UInt16) (safety : Safety.State) : Safety.State :=
  let selected := setSafetyHooks mode param safety
  if setStatus mode = -1 then setSafetyHooks safetySilent 0 selected else selected

def selectedMode (mode : UInt16) : UInt16 := if setStatus mode = -1 then safetySilent else mode

def setSafetyMode (board : Board) (mode param : UInt16) (s : State) : State :=
  let s := { s with
    safety := selectHooks mode param s.safety
    safetyTxBlocked := 0
    safetyRxInvalid := 0 }
  let modeCopy := selectedMode mode
  if modeCopy = safetySilent then
    { s with
      harness := setInterceptRelay board false false s.harness
      canSilent := .allCanSilent }
  else if modeCopy = safetyNooutput then
    { s with
      harness := setInterceptRelay board false false s.harness
      canSilent := .allCanLive }
  else if modeCopy = safetyElm327 then
    { s with
      harness := setInterceptRelay board false false s.harness
      heartbeatCounter := 0
      heartbeatLost := false
      clearSends := s.clearSends + board.hasObd.toNat
      canSilent := .allCanLive }
  else
    { s with
      harness := setInterceptRelay board true false s.harness
      heartbeatCounter := 0
      heartbeatLost := false
      canSilent := .allCanLive }

def powerOn (board : Board) (sensed : HarnessStatus) : State :=
  setSafetyMode board safetySilent 0 { harness := harnessInit board sensed }

/-! ### Control requests -/

structure ControlPacket where
  request : UInt8
  param1 : UInt16
  param2 : UInt16

/-- The state that a parameter of `set_power_save_state` names. -/
def powerSaveStatusOf (param : UInt16) : Option PowerSaveStatus :=
  if param = 0 then some .disabled else if param = 1 then some .enabled else none

def commsControlHandler (board : Board) (req : ControlPacket) (s : State) : State :=
  if req.request = 0xc5 then
    { s with harness :=
        setInterceptRelay board (req.param1 &&& 1 != 0) (req.param1 &&& 2 != 0) s.harness }
  else if req.request = 0xdc then setSafetyMode board req.param1 req.param2 s
  else if req.request = 0xdf then
    if isCarSafetyMode s.mode then s
    else { s with safety := { s.safety with alternativeExperience := req.param1.toNat } }
  else if req.request = 0xe7 then
    { s with powerSaveStatus := (powerSaveStatusOf req.param1).getD s.powerSaveStatus }
  else if req.request = 0xf3 then
    { s with
      heartbeatCounter := 0
      heartbeatLost := false
      heartbeatDisabled := false
      heartbeatEngaged := req.param1 = 1 }
  else if req.request = 0xf8 then
    if isCarSafetyMode s.mode then s else { s with heartbeatDisabled := true }
  else s

/-! ### Ticks -/

/-- What a tick reads: the harness lines, the ignition line and the
microsecond timer. -/
structure TickInput where
  sensed : HarnessStatus
  ignition : Bool
  ts : UInt32

def checkStarted (input : TickInput) (s : State) : Bool := input.ignition || s.ignitionCan

def heartbeatIgnitionCntOn : UInt32 := 5

def heartbeatIgnitionCntOff : UInt32 := 2

def heartbeatLimit (input : TickInput) (s : State) : UInt32 :=
  if checkStarted input s then heartbeatIgnitionCntOn else heartbeatIgnitionCntOff

def reinitHarness (board : Board) (s : State) : State :=
  setSafetyMode board s.mode s.safety.currentSafetyParam
    { s with prevHarnessStatus := s.harness.status }

/-- The heartbeat counter of the 1 Hz part, capped at the limit of `uint32_t`.
Disabling the heartbeat is not allowed while in a car safety mode. -/
def countHeartbeat (s : State) : State :=
  { s with
    heartbeatCounter :=
      if s.heartbeatCounter < 0xFFFFFFFF then s.heartbeatCounter + 1 else s.heartbeatCounter
    heartbeatDisabled := s.heartbeatDisabled && !isCarSafetyMode s.mode }

def loseHeartbeat (board : Board) (s : State) : State :=
  let s := { s with
    heartbeatLost := s.heartbeatLost || isCarSafetyMode s.mode
    heartbeatEngaged := false }
  let s := guarded (s.mode ≠ safetySilent) (setSafetyMode board safetySilent 0) s
  { s with powerSaveStatus := .enabled }

def secondTick (board : Board) (input : TickInput) (s : State) : State :=
  s |> countHeartbeat
    |> (fun s => { s with safety := exitUnusedControls s.heartbeatEngaged s.safety })
    |> (fun s => guarded (s.heartbeatDisabled = false ∧ heartbeatLimit input s ≤ s.heartbeatCounter)
        (loseHeartbeat board) s)
    |> (fun s => { s with
          ignitionCan := s.ignitionCan && !(s.ignitionCanCnt > 2)
          ignitionCanCnt := s.ignitionCanCnt + 1
          safety := safetyTick input.ts
            { s.safety with safetyModeCnt := s.safety.safetyModeCnt + 1 } })

/-- The driver part of the tick handler: the harness, and the re-init when its
status changed. -/
def harnessPart (board : Board) (input : TickInput) (s : State) : State :=
  let s := { s with harness := harnessTick board input.sensed s.harness }
  guarded (s.harness.status ≠ s.prevHarnessStatus) (reinitHarness board) s

def tickHandler (board : Board) (input : TickInput) (s : State) : State :=
  let s := harnessPart board input s
  let s := guarded (s.loopCounter = 0) (secondTick board input) s
  { s with loopCounter := (s.loopCounter + 1) % 8 }

/-! ### Runs -/

/-- `ignition_can_hook`: GM, Tesla and Mazda announce ignition on CAN. -/
def ignitionCanHook (toPush : CANPacket) (s : State) : State :=
  let addr := getAddr toPush
  let heard (ignitionCan : Bool) (s : State) : State :=
    { s with ignitionCan, ignitionCanCnt := 0 }
  s |> guarded (getBus toPush = 0 ∧ getLen toPush = 8) fun s => s
    |> guarded (addr = 0x1F1) (heard (getByte toPush 0 &&& 0x2 != 0))
    |> guarded (addr = 0x348) (heard (getByte toPush 0 &&& 0x1 != 0))
    |> guarded (addr = 0x9E) (heard (getByte toPush 0 >>> 5 == 0x6))

inductive Event where
  | tick (input : TickInput)
  | rx (ts : UInt32) (toPush : CANPacket)
  | tx (ts : UInt32) (toSend : CANPacket)
  | control (req : ControlPacket)
  | restart (sensed : HarnessStatus)

def step (board : Board) (s : State) : Event → State
  | .tick input => tickHandler board input s
  | .rx ts toPush =>
      ignitionCanHook toPush { s with
        safety := safetyRxHook ts toPush s.safety
        safetyRxInvalid := s.safetyRxInvalid + if s.safety.rxValid ts toPush then 0 else 1 }
  | .tx ts toSend =>
      { s with
        safety := safetyTxHook ts toSend s.safety
        safetyTxBlocked := s.safetyTxBlocked + if s.safety.txAccepted ts toSend then 0 else 1 }
  | .control req => commsControlHandler board req s
  | .restart sensed => powerOn board sensed

/-! ### What the parts leave alone -/

theorem setSafetyHooks_mode {mode : UInt16} {id : HooksId} (h : registered mode = some id)
    (param : UInt16) (safety : Safety.State) :
    (setSafetyHooks mode param safety).currentSafetyMode = mode := by
  rw [setSafetyHooks_registered h]
  rfl

theorem selectHooks_mode (mode param : UInt16) (safety : Safety.State) :
    (selectHooks mode param safety).currentSafetyMode = selectedMode mode := by
  unfold selectHooks selectedMode
  by_cases hstatus : setStatus mode = -1
  · rw [if_pos hstatus, if_pos hstatus]
    apply setSafetyHooks_mode
    rfl
  · rw [if_neg hstatus, if_neg hstatus]
    obtain ⟨id, hid⟩ : ∃ id, registered mode = some id := by
      apply Option.isSome_iff_exists.mp
      by_contra hnone
      exact hstatus (if_neg hnone)
    exact setSafetyHooks_mode hid param safety

@[simp] theorem setSafetyMode_safety (board : Board) (mode param : UInt16) (s : State) :
    (setSafetyMode board mode param s).safety = selectHooks mode param s.safety := by
  simp only [setSafetyMode]
  split_ifs
  · rfl
  · rfl
  · rfl
  · rfl

theorem setSafetyMode_mode (board : Board) (mode param : UInt16) (s : State) :
    (setSafetyMode board mode param s).mode = selectedMode mode := by
  unfold State.mode
  rw [setSafetyMode_safety]
  exact selectHooks_mode mode param s.safety

@[simp] theorem setSafetyMode_loopCounter (board : Board) (mode param : UInt16) (s : State) :
    (setSafetyMode board mode param s).loopCounter = s.loopCounter := by
  simp only [setSafetyMode]
  split_ifs
  · rfl
  · rfl
  · rfl
  · rfl

theorem harnessPart_loopCounter (board : Board) (input : TickInput) (s : State) :
    (harnessPart board input s).loopCounter = s.loopCounter := by
  simp only [harnessPart, guarded]
  split
  · simp only [reinitHarness, setSafetyMode_loopCounter]
  · rfl

def SameButIgnition (s t : State) : Prop :=
  t = { s with ignitionCan := t.ignitionCan, ignitionCanCnt := t.ignitionCanCnt }

theorem ignitionCanHook_same (toPush : CANPacket) (s : State) :
    SameButIgnition s (ignitionCanHook toPush s) := by
  have hsame : SameButIgnition s s := rfl
  have hheard : ∀ (c : Prop) [Decidable c] (ignitionCan : Bool) (t : State),
      SameButIgnition s t →
      SameButIgnition s (guarded c (fun t => { t with ignitionCan, ignitionCanCnt := 0 }) t) := by
    intro c _ ignitionCan t ht
    apply guarded_preserves _ ht
    intro _ ht
    unfold SameButIgnition at ht ⊢
    rw [ht]
  unfold ignitionCanHook
  apply guarded_preserves _ hsame
  intro _ _
  exact hheard _ _ _ (hheard _ _ _ (hheard _ _ _ hsame))

end Panda.Main
