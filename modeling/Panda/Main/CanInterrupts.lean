import Panda.Comms.Fdcan

/-!
The interrupts of the CAN controllers. Over the state of the main loop are the
interrupt enables, which `power_saving.h` and every initialisation of a controller
switch, and the lookup from buses to controllers of `can_common.h`. An interrupt
enable stands for all the lines of its controller, which are switched together.
Left out are the transceivers and infrared, which power saving switches too.
-/

namespace Panda.Main

open Library Safety

/-! ### Boards -/

/-- `bxcan.h` of the STM32F4 or `fdcan.h` of the STM32H7. -/
inductive CanDriver where
  | bxcan
  | fdcan
deriving DecidableEq

structure CanBoard extends Board where
  driver : CanDriver
  hasCanfd : Bool

def speeds : List UInt32 := [100, 200, 500, 1000, 1250, 2500, 5000, 10000]

def CanDriver.dataSpeeds : CanDriver → List UInt32
  | .bxcan => [0]
  | .fdcan => Comms.Driver.dataSpeeds

/-- Which controllers acknowledge that they enter the initialisation, at each place
where the handler of an event asks for it. -/
abbrev Acks := Nat → Fin 3 → Bool

def Acks.from (acks : Acks) (place : Nat) : Acks := fun n => acks (place + n)

structure Controllers where
  main : State
  irq : Fin 3 → Bool := fun _ => false
  canNumLookup : Fin 3 → Fin 3 := id

/-- The controller that the harness leaves unused. -/
def unusedCan (harness : Harness) : Fin 3 := if harness.status = .flipped then 0 else 2

namespace Controllers

/-! ### Initialisation -/

def llcanIrqEnable (can : Fin 3) (s : Controllers) : Controllers :=
  { s with irq := Function.update s.irq can true }

def llcanIrqDisable (can : Fin 3) (s : Controllers) : Controllers :=
  { s with irq := Function.update s.irq can false }

/-- `llcan_init`. A controller that does not acknowledge in time keeps its interrupts
as they are. -/
def llcanInit (ack : Fin 3 → Bool) (can : Fin 3) (s : Controllers) : Controllers :=
  if ack can then s.llcanIrqEnable can else s

/-- It goes on when the speed could not be set. -/
def canInit (ack : Fin 3 → Bool) (can : Fin 3) (s : Controllers) : Controllers :=
  s.llcanInit ack can

def canInitAll (ack : Fin 3 → Bool) (s : Controllers) : Controllers :=
  s |> canInit ack 0 |> canInit ack 1 |> canInit ack 2

/-- Only the CAN-FD core is reset. -/
def canClearSend (board : CanBoard) (ack : Fin 3 → Bool) (can : Fin 3) (s : Controllers) :
    Controllers :=
  if board.driver = .fdcan then s.llcanInit ack can else s

def canSetOrientation (flipped : Bool) (s : Controllers) : Controllers :=
  { s with canNumLookup := fun bus => if flipped then bus.rev else bus }

/-! ### The functions of the main loop -/

/-- `set_safety_mode`. ELM327 clears what CAN2 has to send. -/
def setSafetyMode (board : CanBoard) (acks : Acks) (mode param : UInt16) (s : Controllers) :
    Controllers :=
  { s with main := Main.setSafetyMode board.toBoard mode param s.main }
    |> guarded (selectedMode mode = safetyElm327 ∧ board.hasObd = true)
        (canClearSend board (acks 0) 1)
    |> canInitAll (acks 1)

def setPowerSaveState (state : PowerSaveStatus) (s : Controllers) : Controllers :=
  if state ≠ s.main.powerSaveStatus then
    let unused := unusedCan s.main.harness
    let s :=
      if state = .enabled then s |> llcanIrqDisable unused |> llcanIrqDisable 1
      else s |> llcanIrqEnable unused |> llcanIrqEnable 1
    { s with main := { s.main with powerSaveStatus := state } }
  else s

def powerOn (board : CanBoard) (sensed : HarnessStatus) (acks : Acks) : Controllers :=
  setSafetyMode board acks safetySilent 0
    { main := { harness := harnessInit board.toBoard sensed } }

/-- Whether a request for a bit rate (0xde), a data bit rate (0xf9) or non-ISO frames
(0xfc) is one that the board takes. -/
def validSetup (board : CanBoard) (req : ControlPacket) : Bool :=
  if req.request = 0xde then decide (req.param2.toUInt32 ∈ speeds)
  else if req.request = 0xf9 then
    board.hasCanfd && decide (req.param2.toUInt32 ∈ board.driver.dataSpeeds)
  else if req.request = 0xfc then board.hasCanfd
  else false

def setupCan (board : CanBoard) (req : ControlPacket) (s : Controllers) : Option (Fin 3) :=
  if h : req.param1.toNat < 3 then
    if validSetup board req then some (s.canNumLookup ⟨req.param1.toNat, h⟩) else none
  else none

def commsControlHandler (board : CanBoard) (req : ControlPacket) (acks : Acks)
    (s : Controllers) : Controllers :=
  if req.request = 0xdc then s.setSafetyMode board acks req.param1 req.param2
  else if req.request = 0xe5 then s.canInitAll (acks 0)
  else if req.request = 0xe7 then
    match powerSaveStatusOf req.param1 with
    | some state => s.setPowerSaveState state
    | none => s
  else
    match s.setupCan board req with
    | some can => s.canInit (acks 0) can
    | none => { s with main := Main.commsControlHandler board.toBoard req s.main }

def reinitHarness (board : CanBoard) (acks : Acks) (s : Controllers) : Controllers :=
  { s with main := { s.main with prevHarnessStatus := s.main.harness.status } }
    |> canSetOrientation (s.main.harness.status = .flipped)
    |> canInitAll (acks 0)
    |> setSafetyMode board (acks.from 1) s.main.mode s.main.safety.currentSafetyParam
    |> setPowerSaveState s.main.powerSaveStatus

def harnessPart (board : CanBoard) (input : TickInput) (acks : Acks) (s : Controllers) :
    Controllers :=
  let harness := harnessTick board.toBoard input.sensed s.main.harness
  let s := { s with main := { s.main with harness } }
  guarded (s.main.harness.status ≠ s.main.prevHarnessStatus) (reinitHarness board acks) s

def loseHeartbeat (board : CanBoard) (acks : Acks) (s : Controllers) : Controllers :=
  { s with main :=
      { s.main with
        heartbeatLost := s.main.heartbeatLost || isCarSafetyMode s.main.mode
        heartbeatEngaged := false } }
    |> guarded (s.main.mode ≠ safetySilent) (setSafetyMode board acks safetySilent 0)
    |> guarded (s.main.powerSaveStatus ≠ .enabled) (setPowerSaveState .enabled)

def beforeHeartbeatCheck (s : State) : State :=
  let s := countHeartbeat s
  { s with safety := exitUnusedControls s.heartbeatEngaged s.safety }

def afterHeartbeatCheck (input : TickInput) (s : State) : State :=
  { s with
    ignitionCan := s.ignitionCan && !(s.ignitionCanCnt > 2)
    ignitionCanCnt := s.ignitionCanCnt + 1
    safety := safetyTick input.ts
      { s.safety with safetyModeCnt := s.safety.safetyModeCnt + 1 } }

def checkHeartbeat (board : CanBoard) (input : TickInput) (acks : Acks) (s : Controllers) :
    Controllers :=
  guarded (s.main.heartbeatDisabled = false ∧
      heartbeatLimit input s.main ≤ s.main.heartbeatCounter) (loseHeartbeat board acks) s

def secondTick (board : CanBoard) (input : TickInput) (acks : Acks) (s : Controllers) :
    Controllers :=
  let s := { s with main := beforeHeartbeatCheck s.main }
  let s := s.checkHeartbeat board input acks
  { s with main := afterHeartbeatCheck input s.main }

def tickHandler (board : CanBoard) (input : TickInput) (acks : Acks) (s : Controllers) :
    Controllers :=
  let s := s.harnessPart board input acks
  let s := guarded (s.main.loopCounter = 0) (secondTick board input (acks.from 3)) s
  { s with main := { s.main with loopCounter := (s.main.loopCounter + 1) % 8 } }

/-! ### Runs -/

/-- An event of the main loop, or an error on the bus of a controller, which its
interrupt handler recovers from. -/
inductive Event where
  | main (e : Main.Event) (acks : Acks)
  | busError (can : Fin 3) (acks : Acks)

def step (board : CanBoard) (s : Controllers) : Event → Controllers
  | .main (.tick input) acks => s.tickHandler board input acks
  | .main (.control req) acks => s.commsControlHandler board req acks
  | .main (.restart sensed) acks => powerOn board sensed acks
  | .main (.rx ts toPush) _ => { s with main := Main.step board.toBoard s.main (.rx ts toPush) }
  | .main (.tx ts toSend) _ => { s with main := Main.step board.toBoard s.main (.tx ts toSend) }
  | .busError can acks => guarded (s.irq can = true) (canClearSend board (acks 0) can) s

/-! ### The main loop below -/

@[simp] theorem canInit_main (ack : Fin 3 → Bool) (can : Fin 3) (s : Controllers) :
    (s.canInit ack can).main = s.main := by
  unfold canInit llcanInit
  split
  · rfl
  · rfl

@[simp] theorem canInitAll_main (ack : Fin 3 → Bool) (s : Controllers) :
    (s.canInitAll ack).main = s.main := by
  simp only [canInitAll, canInit_main]

@[simp] theorem canClearSend_main (board : CanBoard) (ack : Fin 3 → Bool) (can : Fin 3)
    (s : Controllers) : (s.canClearSend board ack can).main = s.main := by
  unfold canClearSend
  split
  · exact canInit_main ack can s
  · rfl

@[simp] theorem setSafetyMode_main (board : CanBoard) (acks : Acks) (mode param : UInt16)
    (s : Controllers) :
    (s.setSafetyMode board acks mode param).main =
      Main.setSafetyMode board.toBoard mode param s.main := by
  simp only [setSafetyMode, canInitAll_main, guarded]
  split
  · exact canClearSend_main _ _ _ _
  · rfl

@[simp] theorem setPowerSaveState_main (state : PowerSaveStatus) (s : Controllers) :
    (s.setPowerSaveState state).main = { s.main with powerSaveStatus := state } := by
  unfold setPowerSaveState
  by_cases hsame : state = s.main.powerSaveStatus
  · rw [if_neg (not_not_intro hsame), hsame]
  · rw [if_pos hsame]
    by_cases henable : state = .enabled
    · simp only [if_pos henable]
      rfl
    · simp only [if_neg henable]
      rfl

theorem validSetup_request {board : CanBoard} {req : ControlPacket}
    (h : validSetup board req = true) :
    req.request = 0xde ∨ req.request = 0xf9 ∨ req.request = 0xfc := by
  unfold validSetup at h
  by_contra hother
  simp only [not_or] at hother
  rw [if_neg hother.1, if_neg hother.2.1, if_neg hother.2.2] at h
  cases h

theorem setupCan_request {board : CanBoard} {req : ControlPacket} {s : Controllers} {can : Fin 3}
    (h : s.setupCan board req = some can) :
    req.request = 0xde ∨ req.request = 0xf9 ∨ req.request = 0xfc := by
  unfold setupCan at h
  split_ifs at h with _ hvalid
  exact validSetup_request hvalid

@[simp] theorem commsControlHandler_main (board : CanBoard) (req : ControlPacket) (acks : Acks)
    (s : Controllers) :
    (s.commsControlHandler board req acks).main =
      Main.commsControlHandler board.toBoard req s.main := by
  unfold commsControlHandler
  by_cases hmode : req.request = 0xdc
  · rw [if_pos hmode, setSafetyMode_main]
    simp [Main.commsControlHandler, hmode]
  rw [if_neg hmode]
  by_cases hloopback : req.request = 0xe5
  · rw [if_pos hloopback, canInitAll_main]
    simp [Main.commsControlHandler, hloopback]
  rw [if_neg hloopback]
  by_cases hpower : req.request = 0xe7
  · rw [if_pos hpower]
    cases hstate : powerSaveStatusOf req.param1 with
    | none => simp [Main.commsControlHandler, hpower, hstate]
    | some state => simp [Main.commsControlHandler, hpower, hstate]
  rw [if_neg hpower]
  cases hsetup : s.setupCan board req with
  | none => rfl
  | some can =>
      simp only [canInit_main]
      rcases setupCan_request hsetup with hreq | hreq | hreq
      · simp [Main.commsControlHandler, hreq]
      · simp [Main.commsControlHandler, hreq]
      · simp [Main.commsControlHandler, hreq]

theorem setSafetyMode_powerSaveStatus (board : Board) (mode param : UInt16) (s : State) :
    (Main.setSafetyMode board mode param s).powerSaveStatus = s.powerSaveStatus := by
  simp only [Main.setSafetyMode]
  split_ifs
  · rfl
  · rfl
  · rfl
  · rfl

@[simp] theorem reinitHarness_main (board : CanBoard) (acks : Acks) (s : Controllers) :
    (s.reinitHarness board acks).main = Main.reinitHarness board.toBoard s.main := by
  simp only [reinitHarness, Main.reinitHarness, setPowerSaveState_main, setSafetyMode_main,
    canInitAll_main, canSetOrientation]
  generalize hset : Main.setSafetyMode _ _ _ _ = t
  have hstatus : t.powerSaveStatus = s.main.powerSaveStatus := by
    rw [← hset]
    exact setSafetyMode_powerSaveStatus _ _ _ _
  rw [← hstatus]

@[simp] theorem harnessPart_main (board : CanBoard) (input : TickInput) (acks : Acks)
    (s : Controllers) :
    (s.harnessPart board input acks).main = Main.harnessPart board.toBoard input s.main := by
  simp only [harnessPart, Main.harnessPart, guarded]
  split
  · exact reinitHarness_main _ _ _
  · rfl

@[simp] theorem loseHeartbeat_main (board : CanBoard) (acks : Acks) (s : Controllers) :
    (s.loseHeartbeat board acks).main = Main.loseHeartbeat board.toBoard s.main := by
  simp only [loseHeartbeat, Main.loseHeartbeat]
  have hset : ∀ t : Controllers, t.main.powerSaveStatus = s.main.powerSaveStatus →
      (guarded (s.main.powerSaveStatus ≠ .enabled) (setPowerSaveState .enabled) t).main =
        { t.main with powerSaveStatus := .enabled } := by
    intro t ht
    by_cases henabled : s.main.powerSaveStatus = .enabled
    · rw [guarded_of_neg (not_not_intro henabled), ← henabled, ← ht]
    · rw [guarded_of_pos henabled, setPowerSaveState_main]
  by_cases hsilent : s.main.mode = safetySilent
  · rw [guarded_of_neg (not_not_intro hsilent), hset]
    · rw [guarded_of_neg (by exact not_not_intro hsilent)]
    · rfl
  · rw [guarded_of_pos hsilent, hset]
    · rw [guarded_of_pos (by exact hsilent), setSafetyMode_main]
    · rw [setSafetyMode_main, setSafetyMode_powerSaveStatus]

theorem secondTick_main (board : CanBoard) (input : TickInput) (acks : Acks) (s : Controllers) :
    (s.secondTick board input acks).main = Main.secondTick board.toBoard input s.main := by
  simp only [secondTick, checkHeartbeat, Main.secondTick, guarded]
  split
  · rename_i hlost
    rw [if_pos (by exact hlost), loseHeartbeat_main]
    rfl
  · rename_i hkept
    rw [if_neg (by exact hkept)]
    rfl

theorem tickHandler_main (board : CanBoard) (input : TickInput) (acks : Acks) (s : Controllers) :
    (s.tickHandler board input acks).main = Main.tickHandler board.toBoard input s.main := by
  simp only [tickHandler, Main.tickHandler, guarded, harnessPart_main]
  split
  · rw [secondTick_main, harnessPart_main]
  · rw [harnessPart_main]

theorem powerOn_main (board : CanBoard) (sensed : HarnessStatus) (acks : Acks) :
    (powerOn board sensed acks).main = Main.powerOn board.toBoard sensed :=
  setSafetyMode_main _ _ _ _ _

/-- The interrupts do not change what the main loop does. -/
theorem step_main (board : CanBoard) (s : Controllers) (e : Main.Event) (acks : Acks) :
    (step board s (.main e acks)).main = Main.step board.toBoard s.main e := by
  cases e with
  | tick input => exact tickHandler_main _ _ _ _
  | rx ts toPush => rfl
  | tx ts toSend => rfl
  | control req => exact commsControlHandler_main _ _ _ _
  | restart sensed => exact powerOn_main _ _ _

def mainOf : Event → Option Main.Event
  | .main e _ => some e
  | .busError _ _ => none

theorem run_main (board : CanBoard) (sensed : HarnessStatus) (acks : Acks) (events : List Event) :
    (run (step board) (powerOn board sensed acks) events).main =
      run (Main.step board.toBoard) (Main.powerOn board.toBoard sensed)
        (events.filterMap mainOf) := by
  rw [← powerOn_main board sensed acks]
  apply run_project (Main.step board.toBoard) Controllers.main mainOf
  intro s e
  cases e with
  | main e acks => exact step_main board s e acks
  | busError can acks =>
    change (guarded (s.irq can = true) (canClearSend board (acks 0) can) s).main = s.main
    unfold guarded
    split
    · exact canClearSend_main _ _ _ _
    · rfl

end Controllers

end Panda.Main
