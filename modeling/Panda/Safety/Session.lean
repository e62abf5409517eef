import Panda.Library.Transition
import Panda.Safety.Hooks

/-!
The calls of `board/safety.h` on the state they share: message validation,
`safety_rx_hook`, `safety_tx_hook`, `safety_fwd_hook`, `safety_tick` and
`set_safety_hooks`, and the session machine that runs any sequence of them.
Two blocks of the tick handler of `main.c` that write the same state are
events of the machine too: the count of the seconds since the mode was set and
the exit of controls when openpilot does not use them.
-/

namespace Panda.Safety

open Library

structure State where
  alternativeExperience : Nat := 0
  safetyModeCnt : UInt32 := 0
  signals : Signals
  commands : Commands := {}
  params : ModeParams := {}
  vars : ModeVars := {}
  currentHooks : HooksId := .nooutput
  currentSafetyMode : UInt16 := safetySilent
  currentSafetyParam : UInt16 := 0
  cfg : SafetyConfig := {}
  safetyRxChecksInvalid : Bool := false
  heartbeatEngagedMismatches : UInt32 := 0

def State.hooks (s : State) : SafetyHooks ModeParams ModeVars := hooksOf s.currentHooks

/-- What the hooks read of the state beside the signals, at time `ts`. -/
def State.context (s : State) (ts : UInt32) : Context where
  alternativeExperience := s.alternativeExperience
  safetyModeCnt := s.safetyModeCnt
  ts := ts

/-! ### Validation of received messages -/

def maxWrongCounters : Int := 5

def CanMsgCheck.isOf (check : CanMsgCheck) (toPush : CANPacket) : Bool :=
  getAddr toPush == check.addr && getBus toPush == check.bus && getLen toPush == check.len

/-- The first variant of the check that the message is; a variant with a zero
address ends the list. -/
def presentVariant (toPush : CANPacket) (check : RxCheck) : Option (Fin 3) :=
  ([0, 1, 2].takeWhile fun j : Fin 3 => (check.variant j).addr != 0).find? fun j =>
    (check.variant j).isOf toPush

def selectVariant (toPush : CANPacket) (check : RxCheck) : RxCheck :=
  if check.status.msgSeen then check
  else match presentVariant toPush check with
    | some j => { check with status := { check.status with index := j, msgSeen := true } }
    | none => check

/-- `get_addr_check_index`, with the list whose variants it selected on the
way. -/
def getAddrCheckIndex (toPush : CANPacket) : List RxCheck → Option Nat × List RxCheck
  | [] => (none, [])
  | check :: rest =>
      let check := selectVariant toPush check
      if check.status.msgSeen && check.selected.isOf toPush then (some 0, check :: rest)
      else
        let (index, rest) := getAddrCheckIndex toPush rest
        (index.map (· + 1), check :: rest)

/-- `is_msg_valid` for the entry of a matched message. -/
def isMsgValid (check : RxCheck) : Bool :=
  check.status.validChecksum && check.status.validQualityFlag &&
    check.status.wrongCounters < maxWrongCounters

def updateAddrTimestamp (ts : UInt32) (check : RxCheck) : RxCheck :=
  { check with status := { check.status with lastTimestamp := ts } }

def updateCounter (counter : UInt8) (check : RxCheck) : RxCheck :=
  let expectedCounter : UInt8 := UInt8.ofNat
    ((check.status.lastCounter.toNat + 1) % (check.selected.maxCounter.toNat + 1))
  let wrongCounters := check.status.wrongCounters + if expectedCounter = counter then -1 else 1
  { check with status :=
      { check.status with
        wrongCounters := clamp wrongCounters 0 maxWrongCounters
        lastCounter := counter } }

def checkChecksum (hooks : SafetyHooks ModeParams ModeVars) (params : ModeParams)
    (toPush : CANPacket) (check : RxCheck) : RxCheck :=
  let validChecksum := match hooks.getChecksum, hooks.computeChecksum with
    | some getChecksum, some computeChecksum =>
        !check.selected.checkChecksum || computeChecksum params toPush == getChecksum toPush
    | _, _ => true
  { check with status := { check.status with validChecksum } }

/-- The counter check; a maximum of zero means to skip it. -/
def checkCounter (hooks : SafetyHooks ModeParams ModeVars) (toPush : CANPacket)
    (check : RxCheck) : RxCheck :=
  match hooks.getCounter with
  | some getCounter =>
      if check.selected.maxCounter > 0 then updateCounter (getCounter toPush) check
      else { check with status := { check.status with wrongCounters := 0 } }
  | none => { check with status := { check.status with wrongCounters := 0 } }

def checkQualityFlag (hooks : SafetyHooks ModeParams ModeVars) (toPush : CANPacket)
    (check : RxCheck) : RxCheck :=
  let validQualityFlag := match hooks.getQualityFlagValid with
    | some getQualityFlagValid =>
        !check.selected.qualityFlag || getQualityFlagValid toPush
    | none => true
  { check with status := { check.status with validQualityFlag } }

def checkMsg (hooks : SafetyHooks ModeParams ModeVars) (params : ModeParams) (ts : UInt32)
    (toPush : CANPacket) (check : RxCheck) : RxCheck :=
  check |> updateAddrTimestamp ts
    |> checkChecksum hooks params toPush
    |> checkCounter hooks toPush
    |> checkQualityFlag hooks toPush

/-- `rx_msg_safety_check`: the verdict, the matched entry's index and the
updated list. A message that matches no entry is valid. -/
def rxMsgSafetyCheck (hooks : SafetyHooks ModeParams ModeVars) (params : ModeParams)
    (ts : UInt32) (toPush : CANPacket) (rxChecks : List RxCheck) :
    Bool × Option Nat × List RxCheck :=
  match getAddrCheckIndex toPush rxChecks with
  | (none, rxChecks) => (true, none, rxChecks)
  | (some index, rxChecks) =>
      let rxChecks := rxChecks.modify index (checkMsg hooks params ts toPush)
      (rxChecks[index]?.all isMsgValid, some index, rxChecks)

/-! ### The calls -/

def State.rxValid (s : State) (ts : UInt32) (toPush : CANPacket) : Bool :=
  (rxMsgSafetyCheck s.hooks s.params ts toPush s.cfg.rxChecks).1

def State.rxChecksAfter (s : State) (ts : UInt32) (toPush : CANPacket) : List RxCheck :=
  (rxMsgSafetyCheck s.hooks s.params ts toPush s.cfg.rxChecks).2.2

/-- The signals and variables after a received message: an invalid one exits
controls, a valid one reaches the mode's hook. -/
def State.rxSignals (s : State) (ts : UInt32) (toPush : CANPacket) : Signals × ModeVars :=
  if s.rxValid ts toPush then
    s.hooks.rx (s.context ts) s.params toPush (s.signals, s.vars)
  else ({ s.signals with controlsAllowed := false }, s.vars)

/-- `safety_rx_hook`. The mismatches are reset on the rising edge of
`controls_allowed`. -/
def safetyRxHook (ts : UInt32) (toPush : CANPacket) (s : State) : State :=
  let received := s.rxSignals ts toPush
  let risingEdge := received.1.controlsAllowed && !s.signals.controlsAllowed
  { s with
    signals := received.1
    vars := received.2
    cfg := { s.cfg with rxChecks := s.rxChecksAfter ts toPush }
    heartbeatEngagedMismatches := if risingEdge then 0 else s.heartbeatEngagedMismatches }

def msgAllowed (toSend : CANPacket) (msgList : List CanMsg) : Bool :=
  msgList.any fun m =>
    getAddr toSend == m.addr && getBus toSend == m.bus && getLen toSend == m.len

/-- The call of the mode's transmit hook, which `safety_tx_hook` makes for
every message. -/
def State.sending (s : State) (ts : UInt32) (toSend : CANPacket) : Sending ModeVars :=
  s.hooks.tx (s.context ts) s.params s.signals toSend s.commands s.vars

def State.whitelisted (s : State) (toSend : CANPacket) : Bool :=
  msgAllowed toSend s.cfg.txMsgs ||
    s.currentSafetyMode == safetyAlloutput || s.currentSafetyMode == safetyElm327

def State.txAccepted (s : State) (ts : UInt32) (toSend : CANPacket) : Bool :=
  !s.signals.relayMalfunction && s.whitelisted toSend && (s.sending ts toSend).tx

def safetyTxHook (ts : UInt32) (toSend : CANPacket) (s : State) : State :=
  let sent := s.sending ts toSend
  { s with commands := sent.commands, vars := sent.vars }

/-- `safety_fwd_hook`; `-1` is not to forward. -/
def safetyFwdHook (busNum addr : Int) (s : State) : Int :=
  if s.signals.relayMalfunction then -1 else s.hooks.fwd s.params s.vars busNum addr

def maxMissedMsgs : Nat := 10

/-- The lag threshold is the maximum of 1 s and ten expected timesteps. -/
def checkLagging (ts : UInt32) (check : RxCheck) : RxCheck :=
  let elapsedTime := getTsElapsed ts check.status.lastTimestamp
  let timestep := 1000000 / check.selected.frequency
  { check with status :=
      { check.status with lagging := elapsedTime.toNat > max (timestep * maxMissedMsgs) 1000000 } }

def safetyTick (ts : UInt32) (s : State) : State :=
  let rxChecks := s.cfg.rxChecks.map (checkLagging ts)
  let rxChecksInvalid := rxChecks.any fun check => check.status.lagging || !isMsgValid check
  { s with
    signals := { s.signals with
      controlsAllowed := s.signals.controlsAllowed && !rxChecksInvalid }
    cfg := { s.cfg with rxChecks }
    safetyRxChecksInvalid := rxChecksInvalid }

/-- The samples and flags after `set_safety_hooks`. -/
def resetSignals (s : Signals) : Signals where
  vehicleSpeed := resetSample s.vehicleSpeed
  torqueMeas := resetSample s.torqueMeas
  torqueDriver := resetSample s.torqueDriver
  angleMeas := resetSample s.angleMeas

/-- What `set_safety_hooks` resets for every mode. -/
def State.reset (s : State) : State :=
  { s with
    safetyModeCnt := 0
    signals := resetSignals s.signals
    commands := {}
    cfg := {}
    safetyRxChecksInvalid := false }

def State.start (s : State) (id : HooksId) (mode param : UInt16) : State :=
  let r := (hooksOf id).init param s.params s.vars
  { s with
    currentHooks := id
    currentSafetyMode := mode
    currentSafetyParam := param
    signals := { s.signals with controlsAllowed := r.controlsAllowed }
    params := r.params
    vars := r.vars
    cfg := { r.cfg with rxChecks := r.cfg.rxChecks.map fun check => { check with status := {} } } }

/-- `set_safety_hooks`. A mode that is not registered keeps the hooks with an
empty configuration. -/
def setSafetyHooks (mode param : UInt16) (s : State) : State :=
  match registered mode with
  | some id => s.reset.start id mode param
  | none => s.reset

def setStatus (mode : UInt16) : Int := if (registered mode).isSome then 0 else -1

/-- The block of the tick handler that exits controls which openpilot has not
used for three seconds. -/
def exitUnusedControls (heartbeatEngaged : Bool) (s : State) : State :=
  let unused := s.signals.controlsAllowed && !heartbeatEngaged
  let mismatches := if unused then s.heartbeatEngagedMismatches + 1 else 0
  { s with
    heartbeatEngagedMismatches := mismatches
    signals := { s.signals with
      controlsAllowed := s.signals.controlsAllowed && !(unused && mismatches ≥ 3) } }

/-! ### Sessions -/

inductive Event where
  | rx (ts : UInt32) (toPush : CANPacket)
  | tx (ts : UInt32) (toSend : CANPacket)
  | fwd (busNum addr : Int)
  | tick (ts : UInt32)
  | modeSecond
  | exitUnused (heartbeatEngaged : Bool)

def step (s : State) : Event → State
  | .rx ts toPush => safetyRxHook ts toPush s
  | .tx ts toSend => safetyTxHook ts toSend s
  | .fwd _ _ => s
  | .tick ts => safetyTick ts s
  | .modeSecond => { s with safetyModeCnt := s.safetyModeCnt + 1 }
  | .exitUnused heartbeatEngaged => exitUnusedControls heartbeatEngaged s

/-! A call leaves alone what `set_safety_hooks` selected: the hooks, the
variables that `init` wrote and the whitelist. -/

@[simp] theorem step_currentHooks (s : State) (e : Event) :
    (step s e).currentHooks = s.currentHooks := by
  cases e <;> rfl

@[simp] theorem step_currentSafetyMode (s : State) (e : Event) :
    (step s e).currentSafetyMode = s.currentSafetyMode := by
  cases e <;> rfl

@[simp] theorem step_params (s : State) (e : Event) : (step s e).params = s.params := by
  cases e <;> rfl

@[simp] theorem step_txMsgs (s : State) (e : Event) :
    (step s e).cfg.txMsgs = s.cfg.txMsgs := by
  cases e <;> rfl

@[simp] theorem step_alternativeExperience (s : State) (e : Event) :
    (step s e).alternativeExperience = s.alternativeExperience := by
  cases e <;> rfl

@[simp] theorem run_currentHooks (s : State) (events : List Event) :
    (run step s events).currentHooks = s.currentHooks :=
  run_frame State.currentHooks step_currentHooks s events

@[simp] theorem run_currentSafetyMode (s : State) (events : List Event) :
    (run step s events).currentSafetyMode = s.currentSafetyMode :=
  run_frame State.currentSafetyMode step_currentSafetyMode s events

@[simp] theorem run_params (s : State) (events : List Event) :
    (run step s events).params = s.params :=
  run_frame State.params step_params s events

@[simp] theorem run_txMsgs (s : State) (events : List Event) :
    (run step s events).cfg.txMsgs = s.cfg.txMsgs :=
  run_frame (fun s => s.cfg.txMsgs) step_txMsgs s events

@[simp] theorem run_alternativeExperience (s : State) (events : List Event) :
    (run step s events).alternativeExperience = s.alternativeExperience :=
  run_frame State.alternativeExperience step_alternativeExperience s events

theorem setSafetyHooks_registered {mode : UInt16} {id : HooksId} (h : registered mode = some id)
    (param : UInt16) (s : State) :
    setSafetyHooks mode param s = s.reset.start id mode param := by
  simp [setSafetyHooks, h]

/-- Only all output mode turns controls on when it is set. -/
theorem init_controls_off {id : HooksId} (hid : id ≠ .alloutput) (param : UInt16)
    (before : ModeParams) (v : ModeVars) :
    ((hooksOf id).init param before v).controlsAllowed = false := by
  cases id with
  | alloutput => exact absurd rfl hid
  | chrysler =>
      change (chryslerInit param).controlsAllowed = false
      unfold chryslerInit
      split_ifs
      · rfl
      · rfl
      · rfl
  | _ => rfl

theorem setSafetyHooks_controls_off {mode : UInt16} (hmode : registered mode ≠ some .alloutput)
    (param : UInt16) (s : State) :
    (setSafetyHooks mode param s).signals.controlsAllowed = false := by
  unfold setSafetyHooks
  cases hid : registered mode with
  | none => rfl
  | some id =>
      apply init_controls_off
      rintro rfl
      exact hmode hid

theorem setSafetyHooks_reset (mode param : UInt16) (before : State) :
    ∀ check ∈ (setSafetyHooks mode param before).cfg.rxChecks, check.status = {} := by
  unfold setSafetyHooks
  split
  · intro check hcheck
    obtain ⟨entry, -, rfl⟩ := List.mem_map.mp hcheck
    rfl
  · intro check hcheck
    cases hcheck

def session (mode param : UInt16) (before : State) (events : List Event) : State :=
  run step (setSafetyHooks mode param before) events

theorem session_append (mode param : UInt16) (before : State) (first second : List Event) :
    session mode param before (first ++ second) =
      run step (session mode param before first) second :=
  run_append step _ first second

/-- What a session keeps of `set_safety_hooks` with hooks `id`: the hooks, and
the variables and the whitelist of an `init`. -/
structure Configured (id : HooksId) (s : State) : Prop where
  currentHooks : s.currentHooks = id
  whitelisted : id ≠ .alloutput → id ≠ .elm327 →
    ∀ toSend, s.whitelisted toSend = msgAllowed toSend s.cfg.txMsgs
  init : ∃ param m v, s.params = ((hooksOf id).init param m v).params ∧
    s.cfg.txMsgs = ((hooksOf id).init param m v).cfg.txMsgs

theorem Configured.run {id : HooksId} {s : State} (h : Configured id s) (events : List Event) :
    Configured id (run step s events) where
  currentHooks := by rw [run_currentHooks]; exact h.currentHooks
  whitelisted hall helm toSend := by
    have hwhite := h.whitelisted hall helm toSend
    simpa [State.whitelisted] using hwhite
  init := by
    obtain ⟨param, m, v, hparams, htx⟩ := h.init
    exact ⟨param, m, v, by rw [run_params, hparams], by rw [run_txMsgs, htx]⟩

theorem setSafetyHooks_configured {mode : UInt16} {id : HooksId} (h : registered mode = some id)
    (param : UInt16) (s : State) : Configured id (setSafetyHooks mode param s) := by
  rw [setSafetyHooks_registered h]
  refine ⟨rfl, ?_, param, s.params, s.vars, rfl, rfl⟩
  intro hall helm toSend
  have hnotAll : (mode == safetyAlloutput) = false := by
    rw [beq_eq_false_iff_ne]
    rintro rfl
    have hregistered : registered safetyAlloutput = some .alloutput := by decide
    exact hall (Option.some.inj (h.symm.trans hregistered))
  have hnotElm : (mode == safetyElm327) = false := by
    rw [beq_eq_false_iff_ne]
    rintro rfl
    have hregistered : registered safetyElm327 = some .elm327 := by decide
    exact helm (Option.some.inj (h.symm.trans hregistered))
  simp [State.whitelisted, State.start, hnotAll, hnotElm]

theorem session_configured {mode : UInt16} {id : HooksId} (h : registered mode = some id)
    (param : UInt16) (before : State) (events : List Event) :
    Configured id (session mode param before events) :=
  (setSafetyHooks_configured h param before).run events

/-- What acceptance means in a mode with a whitelist. -/
theorem Configured.accepted {id : HooksId} {s : State} (hs : Configured id s)
    (hall : id ≠ .alloutput) (helm : id ≠ .elm327) {ts : UInt32} {toSend : CANPacket}
    (haccepted : s.txAccepted ts toSend = true) :
    s.signals.relayMalfunction = false ∧ msgAllowed toSend s.cfg.txMsgs = true ∧
      ((hooksOf id).tx (s.context ts) s.params s.signals toSend s.commands s.vars).tx = true := by
  simp only [State.txAccepted, Bool.and_eq_true, Bool.not_eq_true',
    hs.whitelisted hall helm] at haccepted
  obtain ⟨⟨hrelay, hwhite⟩, htx⟩ := haccepted
  rw [State.sending, State.hooks, hs.currentHooks] at htx
  exact ⟨hrelay, hwhite, htx⟩

def bootState : State where
  signals :=
    { vehicleSpeed := zeroSample
      torqueMeas := zeroSample
      torqueDriver := zeroSample
      angleMeas := zeroSample }

end Panda.Safety
