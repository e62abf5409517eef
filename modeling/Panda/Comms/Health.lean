import Mathlib.Data.UInt
import Panda.Comms.FlowControl
import Panda.Library.PackedStruct
import Panda.Main.ModeOutputs

/-!
The health packets: the packed structs that the control requests 0xd2 and 0xc2 are
answered with, and the error handling of the CAN controllers that fills the second
of them.
-/

namespace Panda.Comms

open Library Safety

/-! ### The health of the panda -/

/-- `struct health_t`, with the bits of `interrupt_load_pkt`. -/
structure HealthT where
  uptimePkt : UInt32
  voltagePkt : UInt32
  currentPkt : UInt32
  safetyTxBlockedPkt : UInt32
  safetyRxInvalidPkt : UInt32
  txBufferOverflowPkt : UInt32
  rxBufferOverflowPkt : UInt32
  faultsPkt : UInt32
  ignitionLinePkt : UInt8
  ignitionCanPkt : UInt8
  controlsAllowedPkt : UInt8
  carHarnessStatusPkt : UInt8
  safetyModePkt : UInt8
  safetyParamPkt : UInt16
  faultStatusPkt : UInt8
  powerSaveEnabledPkt : UInt8
  heartbeatLostPkt : UInt8
  alternativeExperiencePkt : UInt16
  interruptLoadPkt : UInt32
  fanPower : UInt8
  safetyRxChecksInvalidPkt : UInt8
  spiChecksumErrorCountPkt : UInt16
  fanStallCount : UInt8
  sbu1VoltageMV : UInt16
  sbu2VoltageMV : UInt16
  somResetTriggered : UInt8

def HealthT.members (health : HealthT) : List Member :=
  [.uint32 health.uptimePkt,
   .uint32 health.voltagePkt,
   .uint32 health.currentPkt,
   .uint32 health.safetyTxBlockedPkt,
   .uint32 health.safetyRxInvalidPkt,
   .uint32 health.txBufferOverflowPkt,
   .uint32 health.rxBufferOverflowPkt,
   .uint32 health.faultsPkt,
   .uint8 health.ignitionLinePkt,
   .uint8 health.ignitionCanPkt,
   .uint8 health.controlsAllowedPkt,
   .uint8 health.carHarnessStatusPkt,
   .uint8 health.safetyModePkt,
   .uint16 health.safetyParamPkt,
   .uint8 health.faultStatusPkt,
   .uint8 health.powerSaveEnabledPkt,
   .uint8 health.heartbeatLostPkt,
   .uint16 health.alternativeExperiencePkt,
   .float health.interruptLoadPkt,
   .uint8 health.fanPower,
   .uint8 health.safetyRxChecksInvalidPkt,
   .uint16 health.spiChecksumErrorCountPkt,
   .uint8 health.fanStallCount,
   .uint16 health.sbu1VoltageMV,
   .uint16 health.sbu2VoltageMV,
   .uint8 health.somResetTriggered]

/-- What `get_health_pkt` reads beside the variables of the driver. -/
structure HealthVars where
  uptimeCnt : UInt32
  readVoltageMV : UInt32
  readCurrentMA : UInt32
  checkIgnition : Bool
  faults : UInt32
  faultStatus : UInt8
  interruptLoad : UInt32
  fanPower : UInt8
  totalStallCount : UInt8
  spiChecksumErrorCount : UInt16
  sbu1VoltageMV : UInt16
  sbu2VoltageMV : UInt16
  bootkickResetTriggered : Bool

def harnessStatusCode : Main.HarnessStatus → UInt8
  | .nc => 0
  | .normal => 1
  | .flipped => 2

def getHealthPkt (vars : HealthVars) (d : Driver) : HealthT where
  uptimePkt := vars.uptimeCnt
  voltagePkt := vars.readVoltageMV
  currentPkt := vars.readCurrentMA
  ignitionLinePkt := vars.checkIgnition.toUInt8
  ignitionCanPkt := d.main.ignitionCan.toUInt8
  controlsAllowedPkt := d.main.safety.signals.controlsAllowed.toUInt8
  safetyTxBlockedPkt := d.main.safetyTxBlocked
  safetyRxInvalidPkt := d.main.safetyRxInvalid
  txBufferOverflowPkt := d.txBufferOverflow
  rxBufferOverflowPkt := d.rxBufferOverflow
  carHarnessStatusPkt := harnessStatusCode d.main.harness.status
  safetyModePkt := d.main.mode.toUInt8
  safetyParamPkt := d.main.safety.currentSafetyParam
  alternativeExperiencePkt := .ofNat d.main.safety.alternativeExperience
  powerSaveEnabledPkt := (d.main.powerSaveStatus == .enabled).toUInt8
  heartbeatLostPkt := d.main.heartbeatLost.toUInt8
  safetyRxChecksInvalidPkt := d.main.safety.safetyRxChecksInvalid.toUInt8
  spiChecksumErrorCountPkt := vars.spiChecksumErrorCount
  faultStatusPkt := vars.faultStatus
  faultsPkt := vars.faults
  interruptLoadPkt := vars.interruptLoad
  fanPower := vars.fanPower
  fanStallCount := vars.totalStallCount
  sbu1VoltageMV := vars.sbu1VoltageMV
  sbu2VoltageMV := vars.sbu2VoltageMV
  somResetTriggered := vars.bootkickResetTriggered.toUInt8

/-! ### Errors of a CAN controller -/

/-- The members of `can_health_t` that the packets do not touch. -/
structure CanErrors where
  busOff : UInt8 := 0
  busOffCnt : UInt32 := 0
  errorWarning : UInt8 := 0
  errorPassive : UInt8 := 0
  lastError : UInt8 := 0
  lastStoredError : UInt8 := 0
  lastDataError : UInt8 := 0
  lastDataStoredError : UInt8 := 0
  receiveErrorCnt : UInt8 := 0
  transmitErrorCnt : UInt8 := 0
  totalErrorCnt : UInt32 := 0
  totalTxLostCnt : UInt32 := 0
  canSpeed : UInt16 := 0
  canDataSpeed : UInt16 := 0
  canfdEnabled : UInt8 := 0
  brsEnabled : UInt8 := 0
  canfdNonIso : UInt8 := 0
  irq0CallRate : UInt32 := 0
  irq1CallRate : UInt32 := 0
  irq2CallRate : UInt32 := 0
  canCoreResetCnt : UInt32 := 0

def canHealthMembers (health : CanHealth) (errors : CanErrors) : List Member :=
  [.uint8 errors.busOff,
   .uint32 errors.busOffCnt,
   .uint8 errors.errorWarning,
   .uint8 errors.errorPassive,
   .uint8 errors.lastError,
   .uint8 errors.lastStoredError,
   .uint8 errors.lastDataError,
   .uint8 errors.lastDataStoredError,
   .uint8 errors.receiveErrorCnt,
   .uint8 errors.transmitErrorCnt,
   .uint32 errors.totalErrorCnt,
   .uint32 errors.totalTxLostCnt,
   .uint32 health.totalRxLostCnt,
   .uint32 health.totalTxCnt,
   .uint32 health.totalRxCnt,
   .uint32 health.totalFwdCnt,
   .uint32 health.totalTxChecksumErrorCnt,
   .uint16 errors.canSpeed,
   .uint16 errors.canDataSpeed,
   .uint8 errors.canfdEnabled,
   .uint8 errors.brsEnabled,
   .uint8 errors.canfdNonIso,
   .uint32 errors.irq0CallRate,
   .uint32 errors.irq1CallRate,
   .uint32 errors.irq2CallRate,
   .uint32 errors.canCoreResetCnt]

/-- The registers of a controller, and the call rates of its two interrupts. -/
structure ErrorRegisters where
  psr : UInt32
  ecr : UInt32
  txfqs : UInt32
  irq0CallRate : UInt32
  irq1CallRate : UInt32

namespace ErrorRegisters

def busOff (regs : ErrorRegisters) : UInt8 := ((regs.psr &&& 0x80) >>> 7).toUInt8

def errorWarning (regs : ErrorRegisters) : UInt8 := ((regs.psr &&& 0x40) >>> 6).toUInt8

def errorPassive (regs : ErrorRegisters) : UInt8 := ((regs.psr &&& 0x20) >>> 5).toUInt8

def lastError (regs : ErrorRegisters) : UInt8 := (regs.psr &&& 0x7).toUInt8

def lastDataError (regs : ErrorRegisters) : UInt8 := ((regs.psr &&& 0x700) >>> 8).toUInt8

def receiveErrorCnt (regs : ErrorRegisters) : UInt8 := ((regs.ecr &&& 0x7F00) >>> 8).toUInt8

def transmitErrorCnt (regs : ErrorRegisters) : UInt8 := (regs.ecr &&& 0xFF).toUInt8

/-- The messages of the transmit FIFO that a reset loses: `FDCAN_TXFQS_TFFL` elements of
`FDCAN_TX_FIFO_EL_CNT` are free. -/
def txLost (regs : ErrorRegisters) : UInt32 := 1 - (regs.txfqs &&& 0x3F)

end ErrorRegisters

/-- An error code that names an error of the bus: neither `0`, no error, nor `7`, no
change. -/
def isStored (code : UInt8) : Bool := code != 0 && code != 7

def canAckError : UInt8 := 3

def irErrors : UInt32 := 0x1A800008

def irBusOff : UInt32 := 0x2000000

def irMessageLost : UInt32 := 0x8

/-- The driver with the rest of `can_health`. -/
structure Monitored where
  driver : Driver
  canErrors : Fin 3 → CanErrors := fun _ => {}

namespace Monitored

def record (canNumber : Fin 3) (f : CanErrors → CanErrors) (m : Monitored) : Monitored :=
  { m with canErrors := Function.update m.canErrors canNumber (f (m.canErrors canNumber)) }

def canClearSend (canNumber : Fin 3) (regs : ErrorRegisters) (m : Monitored) : Monitored :=
  m.record canNumber fun errors =>
    { errors with
      canCoreResetCnt := errors.canCoreResetCnt + 1
      totalTxLostCnt := errors.totalTxLostCnt + regs.txLost }

/-- The first part of `update_can_health_pkt`. -/
def readErrors (regs : ErrorRegisters) (errors : CanErrors) : CanErrors :=
  { errors with
    busOff := regs.busOff
    busOffCnt := errors.busOffCnt + regs.busOff.toUInt32
    errorWarning := regs.errorWarning
    errorPassive := regs.errorPassive
    lastError := regs.lastError
    lastStoredError :=
      if isStored regs.lastError then regs.lastError else errors.lastStoredError
    lastDataError := regs.lastDataError
    lastDataStoredError :=
      if isStored regs.lastDataError then regs.lastDataError else errors.lastDataStoredError
    receiveErrorCnt := regs.receiveErrorCnt
    transmitErrorCnt := regs.transmitErrorCnt
    irq0CallRate := regs.irq0CallRate
    irq1CallRate := regs.irq1CallRate }

def resets (irReg : UInt32) (regs : ErrorRegisters) : Bool :=
  (regs.lastError == canAckError || regs.lastDataError == canAckError) &&
      decide (regs.transmitErrorCnt > 127) ||
    irReg &&& irBusOff != 0

def updateCanHealthPkt (canNumber : Fin 3) (irReg : UInt32) (regs : ErrorRegisters)
    (m : Monitored) : Monitored :=
  m.record canNumber (readErrors regs)
    |> guarded (irReg ≠ 0) fun m =>
      m.record canNumber (fun errors => { errors with totalErrorCnt := errors.totalErrorCnt + 1 })
        |> guarded (irReg &&& irMessageLost ≠ 0) (fun m =>
            { m with
              driver := m.driver.count canNumber fun health =>
                { health with totalRxLostCnt := health.totalRxLostCnt + 1 } })
        |> guarded (resets irReg regs = true) (canClearSend canNumber regs)

/-- The control request 0xc2 for a controller. -/
def canHealthRequest (canNumber : Fin 3) (regs : ErrorRegisters) (m : Monitored) : Monitored :=
  let config := m.driver.busConfig canNumber
  (m.updateCanHealthPkt canNumber 0 regs).record canNumber fun errors =>
    { errors with
      canSpeed := (config.canSpeed / 10).toUInt16
      canDataSpeed := (config.canDataSpeed / 10).toUInt16
      canfdEnabled := config.canfdEnabled.toUInt8
      brsEnabled := config.brsEnabled.toUInt8
      canfdNonIso := config.canfdNonIso.toUInt8 }

def canHealthPkt (canNumber : Fin 3) (m : Monitored) : List UInt8 :=
  packed (canHealthMembers (m.driver.canHealth canNumber) (m.canErrors canNumber))

end Monitored

def poweredOn (board : Main.Board) (sensed : Main.HarnessStatus) : Monitored where
  driver := initialDriver (Main.powerOn board sensed)

/-- The driver with the registers of CAN2, the error handling at the end of `can_rx` with
the interrupts that were pending, and the request of the host. -/
inductive MonitorEvent where
  | driver (e : DriverEvent) (regs : ErrorRegisters)
  | rxErrors (canNumber : Fin 3) (irReg : UInt32) (regs : ErrorRegisters)
  | canHealth (canNumber : Fin 3) (regs : ErrorRegisters)

def restarted : DriverEvent → Option Monitored
  | .main board (.restart sensed) => some (poweredOn board sensed)
  | _ => none

/-- The event sets ELM327 on a board with OBD, which clears what CAN2 has to send. -/
def clearsSend (d : Driver) (e : DriverEvent) : Prop :=
  d.main.clearSends < (driverStep d e).main.clearSends

instance (d : Driver) (e : DriverEvent) : Decidable (clearsSend d e) :=
  inferInstanceAs (Decidable (_ < _))

def monitorStep (m : Monitored) : MonitorEvent → Monitored
  | .driver e regs =>
      (restarted e).getD <| { m with driver := driverStep m.driver e }
        |> guarded (clearsSend m.driver e) (Monitored.canClearSend 1 regs)
  | .rxErrors canNumber irReg regs =>
      guarded (irReg &&& irErrors ≠ 0) (Monitored.updateCanHealthPkt canNumber irReg regs) m
  | .canHealth canNumber regs => m.canHealthRequest canNumber regs

/-! ### What fits into the packet -/

/-- The mode and the alternative experience fit into their members. -/
structure Reportable (s : Main.State) : Prop where
  mode : s.mode.toNat < 256
  experience : s.safety.alternativeExperience < 2 ^ 16

theorem selectedMode_lt (mode : UInt16) : (Main.selectedMode mode).toNat < 256 := by
  have hregistry : ∀ entry ∈ safetyHookRegistry, entry.1.toNat < 256 := by decide
  unfold Main.selectedMode
  split
  next => decide
  next hstatus =>
    obtain ⟨id, hid⟩ : ∃ id, registered mode = some id := by
      apply Option.isSome_iff_exists.mp
      by_contra hnone
      exact hstatus (if_neg hnone)
    exact hregistry _ (registered_mem hid)

theorem setSafetyMode_reportable {s : Main.State} (h : Reportable s) (board : Main.Board)
    (mode param : UInt16) : Reportable (Main.setSafetyMode board mode param s) where
  mode := by
    rw [Main.setSafetyMode_mode]
    exact selectedMode_lt mode
  experience := by
    rw [Main.setSafetyMode_safety, Main.selectHooks_experience]
    exact h.experience

theorem Reportable.congr {s t : Main.State} (h : Reportable s) (hmode : t.mode = s.mode)
    (hexperience : t.safety.alternativeExperience = s.safety.alternativeExperience) :
    Reportable t where
  mode := hmode ▸ h.mode
  experience := hexperience ▸ h.experience

theorem secondTick_reportable {s : Main.State} (h : Reportable s) (board : Main.Board)
    (input : Main.TickInput) : Reportable (Main.secondTick board input s) := by
  have hcounted : Reportable { Main.countHeartbeat s with
      safety := exitUnusedControls (Main.countHeartbeat s).heartbeatEngaged
        (Main.countHeartbeat s).safety } := h.congr rfl rfl
  unfold Main.secondTick
  refine Reportable.congr (s := guarded _ (Main.loseHeartbeat board) _) ?_ rfl rfl
  apply guarded_preserves (P := Reportable)
  · intro _ ht
    unfold Main.loseHeartbeat
    refine Reportable.congr (s := guarded _ (Main.setSafetyMode board safetySilent 0) _) ?_ rfl rfl
    apply guarded_preserves (P := Reportable)
    · intro _ hlost
      exact setSafetyMode_reportable hlost board _ _
    · exact ht.congr rfl rfl
  · exact hcounted

theorem mainStep_reportable {s : Main.State} (h : Reportable s) (board : Main.Board)
    (e : Main.Event) : Reportable (Main.step board s e) := by
  cases e with
  | tick input =>
    have hharness : Reportable (Main.harnessPart board input s) := by
      unfold Main.harnessPart
      apply guarded_preserves (P := Reportable)
      · intro _ ht
        unfold Main.reinitHarness
        apply setSafetyMode_reportable
        exact ht.congr rfl rfl
      · exact h.congr rfl rfl
    unfold Main.step Main.tickHandler
    refine Reportable.congr (s := guarded _ (Main.secondTick board input) _) ?_ rfl rfl
    apply guarded_preserves (P := Reportable)
    · intro _ ht
      exact secondTick_reportable ht board input
    · exact hharness
  | rx ts toPush =>
    change Reportable (Main.ignitionCanHook toPush _)
    rw [Main.ignitionCanHook_same toPush]
    exact h.congr rfl rfl
  | tx ts toSend => exact h.congr rfl rfl
  | control req =>
    change Reportable (Main.commsControlHandler board req s)
    unfold Main.commsControlHandler
    split_ifs
    · exact h.congr rfl rfl
    · exact setSafetyMode_reportable h board _ _
    · exact h
    · exact ⟨h.mode, req.param1.toNat_lt⟩
    · exact h.congr rfl rfl
    · exact h.congr rfl rfl
    · exact h.congr rfl rfl
    · exact h.congr rfl rfl
    · exact h
  | restart sensed =>
    have hzero : Reportable {} := ⟨by decide, by decide⟩
    change Reportable (Main.powerOn board sensed)
    apply setSafetyMode_reportable
    exact hzero.congr rfl rfl

def mainSteps (s : Main.State) (steps : List (Main.Board × Main.Event)) : Main.State :=
  run (fun s step => Main.step step.1 s step.2) s steps

theorem sendAll_mainSteps (packets : List CANPacket) (hw : Nat → Hardware) (d : Driver) :
    ∃ steps, (d.sendAll packets hw).main = mainSteps d.main steps := by
  induction packets generalizing hw d with
  | nil => exact ⟨[], rfl⟩
  | cons toPush packets ih =>
    obtain ⟨steps, hsteps⟩ :=
      ih (fun i => hw (i + 1)) (d.canSend toPush (getBus toPush) false (hw 0))
    refine ⟨({}, .tx (hw 0).ts toPush) :: steps, ?_⟩
    rw [Driver.sendAll, hsteps, Driver.canSend_main]
    rfl

theorem forward_main (canNumber busNumber : Fin 3) (frame : RxFrame) (hw : Hardware)
    (d : Driver) : (d.forward canNumber busNumber frame hw).main = d.main := by
  unfold Driver.forward
  dsimp only
  split
  · exact Driver.enqueue_main _ _ _ (d.note _)
  · rfl

/-- The driver touches the variables of the main loop through its steps alone. -/
theorem driverStep_main (d : Driver) (e : DriverEvent) :
    ∃ steps, (driverStep d e).main = mainSteps d.main steps := by
  cases e with
  | send toPush hw => exact ⟨[({}, .tx hw.ts toPush)], Driver.canSend_main _ _ _ _⟩
  | write data hw =>
    exact sendAll_mainSteps (Comms.commsCanWrite data d.comms).1 hw
      { d with comms := (Comms.commsCanWrite data d.comms).2 }
  | spiWrite data hw =>
    rcases d.spiCanWrite_cases data hw with ⟨-, -, hwrite⟩ | ⟨-, hwrite⟩
    · change ∃ steps, (d.spiCanWrite data hw).2.main = _
      rw [hwrite]
      exact sendAll_mainSteps (Comms.commsCanWrite data d.comms).1 hw (d.started data)
    · change ∃ steps, (d.spiCanWrite data hw).2.main = _
      rw [hwrite]
      exact ⟨[], rfl⟩
  | rx canNumber frame hw =>
    obtain ⟨health, -, -, -, hmain⟩ := d.canRx_forward canNumber frame hw
    refine ⟨[({}, .rx hw.ts (receivedFrame (d.busConfig canNumber).busLookup frame))], ?_⟩
    change (d.canRx canNumber frame hw).main = _
    rw [hmain, forward_main]
    rfl
  | processCan canNumber hw => exact ⟨[], Driver.processCan_main _ _ _⟩
  | setDataBitrate param1 param2 hw =>
    refine ⟨[], ?_⟩
    change (d.setDataBitrate param1 param2 hw).main = d.main
    unfold Driver.setDataBitrate
    split
    · exact Driver.processCan_main _ _ { d with busConfig := _ }
    · rfl
  | setNonIso param1 param2 hw =>
    exact ⟨[], Driver.processCan_main _ _ { d with busConfig := _ }⟩
  | main board e => exact ⟨[(board, e)], rfl⟩
  | read maxLen => exact ⟨[], rfl⟩
  | clearTx bus => exact ⟨[], rfl⟩
  | clearRx => exact ⟨[], rfl⟩
  | setOrientation flipped => exact ⟨[], rfl⟩

theorem driverStep_reportable {d : Driver} (h : Reportable d.main) (e : DriverEvent) :
    Reportable (driverStep d e).main := by
  obtain ⟨steps, hsteps⟩ := driverStep_main d e
  rw [hsteps]
  apply run_invariant (I := Reportable)
  · exact fun s step hs => mainStep_reportable hs step.1 step.2
  · exact h

theorem run_reportable (board : Main.Board) (sensed : Main.HarnessStatus)
    (events : List DriverEvent) :
    Reportable (run driverStep (initialDriver (Main.powerOn board sensed)) events).main := by
  apply run_invariant (I := fun d : Driver => Reportable d.main)
  · exact fun d e hd => driverStep_reportable hd e
  · exact mainStep_reportable (s := {}) ⟨by decide, by decide⟩ board (.restart sensed)

/-! ### The errors that were read

A controller's errors are read by its error interrupts and by the requests for its
packet. What `can_health` holds of them is a summary of all these readings, and of the
resets by a change of the mode, since power on.
-/

/-- The pending interrupts, none for a request, and the registers of a reading. -/
abbrev Reading := UInt32 × ErrorRegisters

def Reading.resets (reading : Reading) : Bool :=
  reading.1 != 0 && Monitored.resets reading.1 reading.2

inductive Happening where
  | read (reading : Reading)
  | cleared (regs : ErrorRegisters)

namespace Happening

def reading? : Happening → Option Reading
  | .read reading => some reading
  | .cleared _ => none

/-- The registers at a reset of the controller. -/
def reset? : Happening → Option ErrorRegisters
  | .read reading => if reading.resets then some reading.2 else none
  | .cleared regs => some regs

end Happening

def happening (canNumber : Fin 3) (m : Monitored) : MonitorEvent → Option Happening
  | .driver e regs =>
      if canNumber = 1 ∧ clearsSend m.driver e then some (.cleared regs) else none
  | .rxErrors i irReg regs =>
      if i = canNumber ∧ irReg &&& irErrors ≠ 0 then some (.read (irReg, regs)) else none
  | .canHealth i regs => if i = canNumber then some (.read (0, regs)) else none

def restarts : MonitorEvent → Bool
  | .driver e _ => (restarted e).isSome
  | _ => false

/-- The history of a controller since power on. -/
def remember (canNumber : Fin 3) (m : Monitored) (e : MonitorEvent) (history : List Happening) :
    List Happening :=
  if restarts e then [] else history ++ (happening canNumber m e).toList

def happenings (canNumber : Fin 3) (m : Monitored) (events : List MonitorEvent) : List Happening :=
  ghost monitorStep (remember canNumber) [] m events

def lastStored (codes : List UInt8) : UInt8 := ((codes.filter isStored).getLast?).getD 0

theorem lastStored_append (codes : List UInt8) (code : UInt8) :
    lastStored (codes ++ [code]) = if isStored code then code else lastStored codes := by
  unfold lastStored
  rw [List.filter_append]
  cases hcode : isStored code with
  | false =>
    rw [List.filter_cons_of_neg (by simp [hcode]), List.filter_nil, List.append_nil]
    rfl
  | true =>
    rw [List.filter_cons_of_pos hcode, List.filter_nil, List.getLast?_concat]
    rfl

theorem lastStored_lt {codes : List UInt8} (h : ∀ code ∈ codes, code.toNat < 8) :
    (lastStored codes).toNat < 8 := by
  unfold lastStored
  cases hlast : (codes.filter isStored).getLast? with
  | none => decide
  | some code => exact h code (List.mem_filter.mp (List.mem_of_getLast? hlast)).1

/-- What the history of a controller leaves in `can_health`. -/
structure Summary (history : List Happening) (errors : CanErrors) : Prop where
  busOffCnt : errors.busOffCnt = UInt32.ofNat ((history.filterMap Happening.reading?).countP
    fun reading => reading.2.busOff == 1)
  lastStoredError : errors.lastStoredError =
    lastStored ((history.filterMap Happening.reading?).map fun reading => reading.2.lastError)
  lastDataStoredError : errors.lastDataStoredError =
    lastStored ((history.filterMap Happening.reading?).map fun reading => reading.2.lastDataError)
  totalErrorCnt : errors.totalErrorCnt =
    UInt32.ofNat ((history.filterMap Happening.reading?).countP fun reading => reading.1 != 0)
  totalTxLostCnt : errors.totalTxLostCnt =
    ((history.filterMap Happening.reset?).map ErrorRegisters.txLost).sum
  canCoreResetCnt : errors.canCoreResetCnt =
    UInt32.ofNat (history.filterMap Happening.reset?).length
  irq2CallRate : errors.irq2CallRate = 0

theorem Summary.nil : Summary [] {} := ⟨rfl, rfl, rfl, rfl, rfl, rfl, rfl⟩

theorem busOff_le (regs : ErrorRegisters) : regs.busOff = 0 ∨ regs.busOff = 1 := by
  have hle : ((regs.psr &&& 0x80) >>> 7).toNat ≤ 1 := by
    rw [UInt32.toNat_shiftRight, UInt32.toNat_and]
    have hand : regs.psr.toNat &&& 0x80 ≤ 0x80 := Nat.and_le_right
    change (regs.psr.toNat &&& 0x80) >>> 7 ≤ 1
    rw [Nat.shiftRight_eq_div_pow]
    omega
  unfold ErrorRegisters.busOff
  have hvalue : ((regs.psr &&& 0x80) >>> 7).toUInt8.toNat = ((regs.psr &&& 0x80) >>> 7).toNat := by
    rw [UInt32.toNat_toUInt8]
    exact Nat.mod_eq_of_lt (by omega)
  rw [← UInt8.toNat_inj, ← UInt8.toNat_inj, hvalue]
  change _ = 0 ∨ _ = 1
  omega

/-- A count goes up by one with each reading that is counted. -/
theorem ofNat_countP_append (p : Reading → Bool) (readings : List Reading) (reading : Reading) :
    UInt32.ofNat ((readings ++ [reading]).countP p) =
      UInt32.ofNat (readings.countP p) + if p reading then 1 else 0 := by
  rw [List.countP_append, UInt32.ofNat_add, List.countP_singleton]
  cases p reading with
  | false => rfl
  | true => rfl

def CanErrors.afterReading (reading : Reading) (errors : CanErrors) : CanErrors :=
  let errors := Monitored.readErrors reading.2 errors
  { errors with
    totalErrorCnt := errors.totalErrorCnt + if reading.1 != 0 then 1 else 0
    canCoreResetCnt := errors.canCoreResetCnt + if reading.resets then 1 else 0
    totalTxLostCnt := errors.totalTxLostCnt + if reading.resets then reading.2.txLost else 0 }

theorem updateCanHealthPkt_canErrors (canNumber : Fin 3) (irReg : UInt32) (regs : ErrorRegisters)
    (m : Monitored) :
    (m.updateCanHealthPkt canNumber irReg regs).canErrors =
      Function.update m.canErrors canNumber
        ((m.canErrors canNumber).afterReading (irReg, regs)) := by
  have hlost : ∀ m : Monitored, (guarded (irReg &&& irMessageLost ≠ 0) (fun m : Monitored =>
      { m with
        driver := m.driver.count canNumber fun health =>
          { health with totalRxLostCnt := health.totalRxLostCnt + 1 } }) m).canErrors =
      m.canErrors := by
    intro m
    unfold guarded
    split
    · rfl
    · rfl
  unfold Monitored.updateCanHealthPkt
  by_cases hirq : irReg = 0
  · subst hirq
    rw [guarded_of_neg (not_not_intro rfl)]
    simp [Monitored.record, CanErrors.afterReading, Reading.resets]
  · rw [guarded_of_pos hirq]
    by_cases hresets : Monitored.resets irReg regs = true
    · rw [guarded_of_pos hresets]
      simp only [Monitored.canClearSend, Monitored.record, hlost]
      simp [CanErrors.afterReading, Reading.resets, hirq, hresets]
    · rw [guarded_of_neg hresets, hlost]
      simp [Monitored.record, CanErrors.afterReading, Reading.resets, hirq, hresets]

theorem Summary.afterReading {history : List Happening} {errors : CanErrors}
    (h : Summary history errors) (reading : Reading) :
    Summary (history ++ [.read reading]) (errors.afterReading reading) := by
  have hreadings : (history ++ [Happening.read reading]).filterMap Happening.reading? =
      history.filterMap Happening.reading? ++ [reading] := filterMap_snoc _ _ _
  constructor
  · rw [hreadings, ofNat_countP_append, ← h.busOffCnt]
    change errors.busOffCnt + reading.2.busOff.toUInt32 = _
    rcases busOff_le reading.2 with hoff | hoff
    · rw [hoff]
      rfl
    · rw [hoff]
      rfl
  · rw [hreadings, List.map_append, List.map_singleton, lastStored_append, ← h.lastStoredError]
    rfl
  · rw [hreadings, List.map_append, List.map_singleton, lastStored_append,
      ← h.lastDataStoredError]
    rfl
  · rw [hreadings, ofNat_countP_append, ← h.totalErrorCnt]
    rfl
  · change errors.totalTxLostCnt + (if reading.resets then reading.2.txLost else 0) = _
    rw [h.totalTxLostCnt, filterMap_snoc, List.map_append, List.sum_append, Happening.reset?]
    cases hresets : reading.resets with
    | false => simp
    | true => simp
  · change errors.canCoreResetCnt + (if reading.resets then 1 else 0) = _
    rw [h.canCoreResetCnt, filterMap_snoc, List.length_append, UInt32.ofNat_add, Happening.reset?]
    cases hresets : reading.resets with
    | false => rfl
    | true => rfl
  · exact h.irq2CallRate

def CanErrors.afterClear (regs : ErrorRegisters) (errors : CanErrors) : CanErrors :=
  { errors with
    canCoreResetCnt := errors.canCoreResetCnt + 1
    totalTxLostCnt := errors.totalTxLostCnt + regs.txLost }

theorem canClearSend_canErrors (canNumber : Fin 3) (regs : ErrorRegisters) (m : Monitored) :
    (m.canClearSend canNumber regs).canErrors =
      Function.update m.canErrors canNumber ((m.canErrors canNumber).afterClear regs) :=
  rfl

theorem Summary.afterClear {history : List Happening} {errors : CanErrors}
    (h : Summary history errors) (regs : ErrorRegisters) :
    Summary (history ++ [.cleared regs]) (errors.afterClear regs) := by
  have hreadings : (history ++ [Happening.cleared regs]).filterMap Happening.reading? =
      history.filterMap Happening.reading? := by
    rw [filterMap_snoc]
    exact List.append_nil _
  have hresets : (history ++ [Happening.cleared regs]).filterMap Happening.reset? =
      history.filterMap Happening.reset? ++ [regs] := filterMap_snoc _ _ _
  constructor
  · rw [hreadings]
    exact h.busOffCnt
  · rw [hreadings]
    exact h.lastStoredError
  · rw [hreadings]
    exact h.lastDataStoredError
  · rw [hreadings]
    exact h.totalErrorCnt
  · rw [hresets, List.map_append, List.sum_append, ← h.totalTxLostCnt, List.map_singleton,
      List.sum_singleton]
    rfl
  · rw [hresets, List.length_append, UInt32.ofNat_add, ← h.canCoreResetCnt]
    rfl
  · exact h.irq2CallRate

/-- The settings of the bus, which a request copies, are no errors. -/
theorem Summary.congr {history : List Happening} {errors : CanErrors} (h : Summary history errors)
    (canSpeed canDataSpeed : UInt16) (canfdEnabled brsEnabled canfdNonIso : UInt8) :
    Summary history
      { errors with canSpeed, canDataSpeed, canfdEnabled, brsEnabled, canfdNonIso } :=
  ⟨h.busOffCnt, h.lastStoredError, h.lastDataStoredError, h.totalErrorCnt, h.totalTxLostCnt,
    h.canCoreResetCnt, h.irq2CallRate⟩

theorem canHealthRequest_canErrors (canNumber : Fin 3) (regs : ErrorRegisters) (m : Monitored) :
    (m.canHealthRequest canNumber regs).canErrors =
      Function.update m.canErrors canNumber
        { (m.canErrors canNumber).afterReading (0, regs) with
          canSpeed := ((m.driver.busConfig canNumber).canSpeed / 10).toUInt16
          canDataSpeed := ((m.driver.busConfig canNumber).canDataSpeed / 10).toUInt16
          canfdEnabled := (m.driver.busConfig canNumber).canfdEnabled.toUInt8
          brsEnabled := (m.driver.busConfig canNumber).brsEnabled.toUInt8
          canfdNonIso := (m.driver.busConfig canNumber).canfdNonIso.toUInt8 } := by
  unfold Monitored.canHealthRequest
  dsimp only
  unfold Monitored.record
  rw [updateCanHealthPkt_canErrors, Function.update_self, Function.update_idem]

theorem canHealthRequest_driver (canNumber : Fin 3) (regs : ErrorRegisters) (m : Monitored) :
    (m.canHealthRequest canNumber regs).driver = m.driver := by
  unfold Monitored.canHealthRequest Monitored.updateCanHealthPkt
  rw [guarded_of_neg (not_not_intro rfl)]
  rfl

theorem lastError_lt (regs : ErrorRegisters) : regs.lastError.toNat < 8 := by
  have hle : regs.psr.toNat &&& 0x7 ≤ 0x7 := Nat.and_le_right
  have hvalue : regs.lastError.toNat = (regs.psr.toNat &&& 0x7) % 2 ^ 8 := by
    rw [ErrorRegisters.lastError, UInt32.toNat_toUInt8, UInt32.toNat_and]
    rfl
  omega

theorem lastDataError_lt (regs : ErrorRegisters) : regs.lastDataError.toNat < 8 := by
  have hle : regs.psr.toNat &&& 0x700 ≤ 0x700 := Nat.and_le_right
  have hvalue : regs.lastDataError.toNat = ((regs.psr.toNat &&& 0x700) >>> 8) % 2 ^ 8 := by
    rw [ErrorRegisters.lastDataError, UInt32.toNat_toUInt8, UInt32.toNat_shiftRight,
      UInt32.toNat_and]
    rfl
  rw [Nat.shiftRight_eq_div_pow] at hvalue
  omega

theorem restarted_canErrors {e : DriverEvent} {m : Monitored} (h : restarted e = some m)
    (i : Fin 3) : m.canErrors i = {} := by
  unfold restarted at h
  split at h
  · cases h
    rfl
  · cases h

/-- A driver event touches the errors of CAN2 alone, and only when it clears. -/
theorem driver_summary {history : List Happening} {m : Monitored} {i : Fin 3}
    (h : Summary history (m.canErrors i)) (e : DriverEvent) (regs : ErrorRegisters) :
    Summary (remember i m (.driver e regs) history)
      ((monitorStep m (.driver e regs)).canErrors i) := by
  cases hrestarted : restarted e with
  | some fresh =>
    simp only [remember, restarts, monitorStep, hrestarted, Option.isSome_some, if_true,
      Option.getD_some]
    rw [restarted_canErrors hrestarted]
    exact Summary.nil
  | none =>
    simp only [remember, restarts, monitorStep, hrestarted, Option.isSome_none,
      if_neg Bool.false_ne_true, Option.getD_none, happening]
    by_cases hclears : clearsSend m.driver e
    · rw [guarded_of_pos hclears, canClearSend_canErrors]
      by_cases hi : i = 1
      · subst hi
        rw [if_pos ⟨rfl, hclears⟩, Function.update_self]
        exact h.afterClear regs
      · rw [if_neg fun hboth => hi hboth.1, Function.update_of_ne hi, Option.toList_none,
          List.append_nil]
        exact h
    · rw [guarded_of_neg hclears, if_neg fun hboth => hclears hboth.2, Option.toList_none,
        List.append_nil]
      exact h

theorem monitorStep_summary {history : List Happening} {m : Monitored} {i : Fin 3}
    (h : Summary history (m.canErrors i)) (e : MonitorEvent) :
    Summary (remember i m e history) ((monitorStep m e).canErrors i) := by
  cases e with
  | driver e regs => exact driver_summary h e regs
  | rxErrors canNumber irReg regs =>
    change Summary (history ++ Option.toList (if _ then _ else _)) _
    simp only [monitorStep]
    by_cases hirq : irReg &&& irErrors ≠ 0
    · rw [guarded_of_pos hirq, updateCanHealthPkt_canErrors]
      by_cases hi : canNumber = i
      · subst hi
        rw [if_pos ⟨rfl, hirq⟩, Function.update_self]
        exact h.afterReading _
      · rw [if_neg fun hread => hi hread.1, Function.update_of_ne (Ne.symm hi),
          Option.toList_none, List.append_nil]
        exact h
    · rw [guarded_of_neg hirq, if_neg fun hread => hirq hread.2, Option.toList_none,
        List.append_nil]
      exact h
  | canHealth canNumber regs =>
    change Summary (history ++ Option.toList (if _ then _ else _)) _
    simp only [monitorStep]
    rw [canHealthRequest_canErrors]
    by_cases hi : canNumber = i
    · subst hi
      rw [if_pos rfl, Function.update_self]
      exact (h.afterReading _).congr _ _ _ _ _
    · rw [if_neg hi, Function.update_of_ne (Ne.symm hi), Option.toList_none, List.append_nil]
      exact h

/-- In every run `can_health` summarises the history of each controller. -/
theorem run_summary (board : Main.Board) (sensed : Main.HarnessStatus)
    (events : List MonitorEvent) (i : Fin 3) :
    Summary (happenings i (poweredOn board sensed) events)
      ((run monitorStep (poweredOn board sensed) events).canErrors i) := by
  have halways : Along monitorStep (fun _ _ => True) (poweredOn board sensed) events :=
    Along.of_forall (fun _ _ => trivial) _
  exact ghost_preserves (P := fun history (m : Monitored) => Summary history (m.canErrors i))
    (fun _ _ e _ h => monitorStep_summary h e) halways Summary.nil

end Panda.Comms
