import Panda.Comms.Health

/-!
`health` and `can_health` of the library. The format strings repeat the structs of the
firmware, and the indices of the dictionaries the order of their members: what the
library returns is what the firmware holds.
-/

namespace Panda.Host

open Library Comms

inductive HealthError where
  | runtimeError (message : String)
  | structError
  | indexError
  | keyError (key : Nat)
deriving DecidableEq

inductive HealthValue where
  | field (value : FieldValue)
  | text (value : String)
deriving DecidableEq

abbrev HealthDict := List (String × HealthValue)

/-- The response of the request 0xdd. -/
def packetVersionsPkt : List UInt8 := [16, 4, 5]

structure PacketVersions where
  healthVersion : Nat
  canVersion : Nat
  canHealthVersion : Nat

/-- `controlRead` over USB, of a request with this response. -/
def usbControlRead (response : List UInt8) (length : Nat) : List UInt8 := response.take length

def getPacketsVersions (dat : List UInt8) : PacketVersions :=
  match dat with
  | [health, can, canHealth] => ⟨health.toNat, can.toNat, canHealth.toNat⟩
  | _ => ⟨0, 0, 0⟩

def ensureVersion (desc : String) (libVersion pandaVersion : Nat)
    (fn : Except HealthError HealthDict) : Except HealthError HealthDict :=
  if libVersion ≠ pandaVersion then
    .error (.runtimeError (s!"{desc} packet version mismatch: panda's firmware v{pandaVersion}, " ++
      s!"library v{libVersion}. Reflash panda."))
  else fn

def structSize (format : String) : Nat := ((structFormat format).map calcsize).getD 0

def unpack (format : String) (dat : List UInt8) : Except HealthError (List FieldValue) :=
  match (structFormat format).bind (structUnpack · dat) with
  | some values => .ok values
  | none => .error .structError

def item (a : List FieldValue) (i : Nat) : Except HealthError FieldValue :=
  match a[i]? with
  | some value => .ok value
  | none => .error .indexError

/-! ### Health -/

def healthStruct : String := "<IIIIIIIIBBBBBHBBBHfBBHBHHB"

def healthKeys : List (String × Nat) :=
  [("uptime", 0), ("voltage", 1), ("current", 2), ("safety_tx_blocked", 3),
   ("safety_rx_invalid", 4), ("tx_buffer_overflow", 5), ("rx_buffer_overflow", 6), ("faults", 7),
   ("ignition_line", 8), ("ignition_can", 9), ("controls_allowed", 10),
   ("car_harness_status", 11), ("safety_mode", 12), ("safety_param", 13), ("fault_status", 14),
   ("power_save_enabled", 15), ("heartbeat_lost", 16), ("alternative_experience", 17),
   ("interrupt_load", 18), ("fan_power", 19), ("safety_rx_checks_invalid", 20),
   ("spi_checksum_error_count", 21), ("fan_stall_count", 22), ("sbu1_voltage_mV", 23),
   ("sbu2_voltage_mV", 24), ("som_reset_triggered", 25)]

/-- `health`, for a response of the request 0xd2. -/
def health (versions : PacketVersions) (response : List UInt8) : Except HealthError HealthDict :=
  ensureVersion "health" 16 versions.healthVersion do
    let a ← unpack healthStruct (usbControlRead response (structSize healthStruct))
    healthKeys.mapM fun (key, i) => return (key, .field (← item a i))

/-! ### The health of a bus -/

def canHealthStruct : String := "<BIBBBBBBBBIIIIIIIHHBBBIIII"

def lecErrorCode : List (Nat × String) :=
  [(0, "No error"), (1, "Stuff error"), (2, "Form error"), (3, "AckError"), (4, "Bit1Error"),
   (5, "Bit0Error"), (6, "CRCError"), (7, "NoChange")]

def lecItem (a : List FieldValue) (i : Nat) : Except HealthError HealthValue := do
  match ← item a i with
  | .int code =>
    match lecErrorCode.lookup code with
    | some name => return .text name
    | none => .error (.keyError code)
  | .float bits => .error (.keyError bits)

/-- The keys of `can_health` with the indices of their fields, and whether these are
names of errors. -/
def canHealthKeys : List (String × Nat × Bool) :=
  [("bus_off", 0, false), ("bus_off_cnt", 1, false), ("error_warning", 2, false),
   ("error_passive", 3, false), ("last_error", 4, true), ("last_stored_error", 5, true),
   ("last_data_error", 6, true), ("last_data_stored_error", 7, true),
   ("receive_error_cnt", 8, false), ("transmit_error_cnt", 9, false),
   ("total_error_cnt", 10, false), ("total_tx_lost_cnt", 11, false),
   ("total_rx_lost_cnt", 12, false), ("total_tx_cnt", 13, false), ("total_rx_cnt", 14, false),
   ("total_fwd_cnt", 15, false), ("total_tx_checksum_error_cnt", 16, false),
   ("can_speed", 17, false), ("can_data_speed", 18, false), ("canfd_enabled", 19, false),
   ("brs_enabled", 20, false), ("canfd_non_iso", 21, false), ("irq0_call_rate", 22, false),
   ("irq1_call_rate", 23, false), ("irq2_call_rate", 24, false),
   ("can_core_reset_count", 25, false)]

def canHealthEntry (a : List FieldValue) :
    String × Nat × Bool → Except HealthError (String × HealthValue)
  | (key, i, false) => return (key, .field (← item a i))
  | (key, i, true) => return (key, ← lecItem a i)

/-- `can_health`, for a response of the request 0xc2. -/
def canHealth (versions : PacketVersions) (response : List UInt8) :
    Except HealthError HealthDict :=
  ensureVersion "CAN health" 5 versions.canHealthVersion do
    let a ← unpack canHealthStruct (usbControlRead response (structSize canHealthStruct))
    canHealthKeys.mapM (canHealthEntry a)

/-! ### Round trips -/

/-- A struct whose members have the types of the format is read back whole. -/
theorem unpack_packed {format : String} {members : List Member}
    (h : structFormat format = some (members.map Member.type)) :
    unpack format (usbControlRead (packed members) (structSize format)) =
      .ok (members.map Member.read) := by
  have hsize : structSize format = (packed members).length := by
    rw [structSize, h, packed_length]
    rfl
  have hread : usbControlRead (packed members) (structSize format) = packed members :=
    List.take_of_length_le (Nat.le_of_eq hsize.symm)
  rw [hread, unpack, h, Option.bind_some, structUnpack_packed rfl]

theorem toNat_toUInt8 {value : UInt16} (h : value.toNat < 256) :
    value.toUInt8.toNat = value.toNat := by
  rw [UInt16.toNat_toUInt8]
  exact Nat.mod_eq_of_lt h

/-- In every state that a run reaches, `health` returns the variables of the firmware,
each under its own key. -/
theorem health_round_trip (board : Main.Board) (sensed : Main.HarnessStatus)
    (events : List DriverEvent) (vars : HealthVars) :
    let d := run driverStep (initialDriver (Main.powerOn board sensed)) events
    health (getPacketsVersions packetVersionsPkt) (packed (getHealthPkt vars d).members) = .ok
      [("uptime", .field (.int vars.uptimeCnt.toNat)),
       ("voltage", .field (.int vars.readVoltageMV.toNat)),
       ("current", .field (.int vars.readCurrentMA.toNat)),
       ("safety_tx_blocked", .field (.int d.main.safetyTxBlocked.toNat)),
       ("safety_rx_invalid", .field (.int d.main.safetyRxInvalid.toNat)),
       ("tx_buffer_overflow", .field (.int d.txBufferOverflow.toNat)),
       ("rx_buffer_overflow", .field (.int d.rxBufferOverflow.toNat)),
       ("faults", .field (.int vars.faults.toNat)),
       ("ignition_line", .field (.int vars.checkIgnition.toNat)),
       ("ignition_can", .field (.int d.main.ignitionCan.toNat)),
       ("controls_allowed", .field (.int d.main.safety.signals.controlsAllowed.toNat)),
       ("car_harness_status", .field (.int (harnessStatusCode d.main.harness.status).toNat)),
       ("safety_mode", .field (.int d.main.mode.toNat)),
       ("safety_param", .field (.int d.main.safety.currentSafetyParam.toNat)),
       ("fault_status", .field (.int vars.faultStatus.toNat)),
       ("power_save_enabled", .field (.int (d.main.powerSaveStatus == .enabled).toNat)),
       ("heartbeat_lost", .field (.int d.main.heartbeatLost.toNat)),
       ("alternative_experience", .field (.int d.main.safety.alternativeExperience)),
       ("interrupt_load", .field (.float vars.interruptLoad.toNat)),
       ("fan_power", .field (.int vars.fanPower.toNat)),
       ("safety_rx_checks_invalid", .field (.int d.main.safety.safetyRxChecksInvalid.toNat)),
       ("spi_checksum_error_count", .field (.int vars.spiChecksumErrorCount.toNat)),
       ("fan_stall_count", .field (.int vars.totalStallCount.toNat)),
       ("sbu1_voltage_mV", .field (.int vars.sbu1VoltageMV.toNat)),
       ("sbu2_voltage_mV", .field (.int vars.sbu2VoltageMV.toNat)),
       ("som_reset_triggered", .field (.int vars.bootkickResetTriggered.toNat))] := by
  intro d
  have hreportable : Reportable d.main := run_reportable board sensed events
  have hmode := toNat_toUInt8 hreportable.mode
  have hexperience : (UInt16.ofNat d.main.safety.alternativeExperience).toNat =
      d.main.safety.alternativeExperience := by
    rw [UInt16.toNat_ofNat']
    exact Nat.mod_eq_of_lt hreportable.experience
  have hformat : structFormat healthStruct =
      some ((getHealthPkt vars d).members.map Member.type) := by
    rfl
  have hversion : (getPacketsVersions packetVersionsPkt).healthVersion = 16 := rfl
  have hflag : ∀ flag : Bool, flag.toUInt8.toNat = flag.toNat := by decide
  rw [health, ensureVersion, hversion, if_neg (not_not_intro rfl), unpack_packed hformat]
  simp only [getHealthPkt, HealthT.members, List.map_cons, List.map_nil, Member.read_uint8,
    Member.read_uint16, Member.read_uint32, Member.read_float, hmode, hexperience, hflag]
  rfl

def errorName (code : UInt8) : String := (lecErrorCode.lookup code.toNat).getD ""

theorem lecItem_eq {a : List FieldValue} {i : Nat} {code : UInt8}
    (hitem : a[i]? = some (.int code.toNat)) (hcode : code.toNat < 8) :
    lecItem a i = .ok (.text (errorName code)) := by
  have hnames : ∀ n < 8, (lecErrorCode.lookup n).isSome = true := by decide
  obtain ⟨name, hname⟩ := Option.isSome_iff_exists.mp (hnames code.toNat hcode)
  have hread : item a i = .ok (.int code.toNat) := by
    unfold item
    rw [hitem]
  have herror : errorName code = name := by
    rw [errorName, hname]
    rfl
  unfold lecItem
  rw [hread, herror]
  change (match lecErrorCode.lookup code.toNat with
    | some name => Except.ok (HealthValue.text name)
    | none => Except.error (HealthError.keyError code.toNat)) = _
  rw [hname]

def canHealthDict (health : CanHealth) (errors : CanErrors) : HealthDict :=
  [("bus_off", .field (.int errors.busOff.toNat)),
   ("bus_off_cnt", .field (.int errors.busOffCnt.toNat)),
   ("error_warning", .field (.int errors.errorWarning.toNat)),
   ("error_passive", .field (.int errors.errorPassive.toNat)),
   ("last_error", .text (errorName errors.lastError)),
   ("last_stored_error", .text (errorName errors.lastStoredError)),
   ("last_data_error", .text (errorName errors.lastDataError)),
   ("last_data_stored_error", .text (errorName errors.lastDataStoredError)),
   ("receive_error_cnt", .field (.int errors.receiveErrorCnt.toNat)),
   ("transmit_error_cnt", .field (.int errors.transmitErrorCnt.toNat)),
   ("total_error_cnt", .field (.int errors.totalErrorCnt.toNat)),
   ("total_tx_lost_cnt", .field (.int errors.totalTxLostCnt.toNat)),
   ("total_rx_lost_cnt", .field (.int health.totalRxLostCnt.toNat)),
   ("total_tx_cnt", .field (.int health.totalTxCnt.toNat)),
   ("total_rx_cnt", .field (.int health.totalRxCnt.toNat)),
   ("total_fwd_cnt", .field (.int health.totalFwdCnt.toNat)),
   ("total_tx_checksum_error_cnt", .field (.int health.totalTxChecksumErrorCnt.toNat)),
   ("can_speed", .field (.int errors.canSpeed.toNat)),
   ("can_data_speed", .field (.int errors.canDataSpeed.toNat)),
   ("canfd_enabled", .field (.int errors.canfdEnabled.toNat)),
   ("brs_enabled", .field (.int errors.brsEnabled.toNat)),
   ("canfd_non_iso", .field (.int errors.canfdNonIso.toNat)),
   ("irq0_call_rate", .field (.int errors.irq0CallRate.toNat)),
   ("irq1_call_rate", .field (.int errors.irq1CallRate.toNat)),
   ("irq2_call_rate", .field (.int errors.irq2CallRate.toNat)),
   ("can_core_reset_count", .field (.int errors.canCoreResetCnt.toNat))]

theorem canHealthEntry_named {a : List FieldValue} {key : String} {i : Nat} {code : UInt8}
    (hitem : a[i]? = some (.int code.toNat)) (hcode : code.toNat < 8) :
    canHealthEntry a (key, i, true) = .ok (key, .text (errorName code)) := by
  simp only [canHealthEntry]
  rw [lecItem_eq hitem hcode]
  rfl

theorem mapM_eq_ok {α β : Type} {f : α → Except HealthError β} {xs : List α} {ys : List β}
    (h : List.Forall₂ (fun x y => f x = .ok y) xs ys) : xs.mapM f = .ok ys := by
  induction h with
  | nil => rfl
  | cons hhead _ ih =>
    rw [List.mapM_cons, hhead, ih]
    rfl

/-- A struct whose codes have names is read back whole. -/
theorem canHealth_packed (health : CanHealth) {errors : CanErrors}
    (hlast : errors.lastError.toNat < 8) (hstored : errors.lastStoredError.toNat < 8)
    (hdata : errors.lastDataError.toNat < 8) (hdataStored : errors.lastDataStoredError.toNat < 8) :
    canHealth (getPacketsVersions packetVersionsPkt) (packed (canHealthMembers health errors)) =
      .ok (canHealthDict health errors) := by
  have hformat : structFormat canHealthStruct =
      some ((canHealthMembers health errors).map Member.type) := rfl
  have hversion : (getPacketsVersions packetVersionsPkt).canHealthVersion = 5 := rfl
  have hentries : List.Forall₂
      (fun key entry =>
        canHealthEntry ((canHealthMembers health errors).map Member.read) key = .ok entry)
      canHealthKeys (canHealthDict health errors) := by
    simp only [canHealthKeys, canHealthDict, List.forall₂_cons, List.forall₂_nil_left_iff,
      canHealthMembers, List.map_cons, List.map_nil, Member.read_uint8, Member.read_uint16,
      Member.read_uint32]
    exact ⟨rfl, rfl, rfl, rfl, canHealthEntry_named rfl hlast, canHealthEntry_named rfl hstored,
      canHealthEntry_named rfl hdata, canHealthEntry_named rfl hdataStored, rfl, rfl, rfl, rfl, rfl,
      rfl, rfl, rfl, rfl, rfl, rfl, rfl, rfl, rfl, rfl, rfl, rfl, rfl, trivial⟩
  have hbind : ∀ (a : List FieldValue) (f : List FieldValue → Except HealthError HealthDict),
      (Except.ok a >>= f) = f a := fun _ _ => rfl
  rw [canHealth, ensureVersion, hversion, if_neg (not_not_intro rfl), unpack_packed hformat, hbind]
  exact mapM_eq_ok hentries

/-- After any run, `can_health` returns the registers and settings of the moment and
the counters of the driver, and it sums up what was read of the errors and the resets of
the controller since power on. The codes that it looks up have a name. -/
theorem can_health_round_trip (board : Main.Board) (sensed : Main.HarnessStatus)
    (events : List MonitorEvent) (canNumber : Fin 3) (regs : ErrorRegisters) :
    let m := run monitorStep (poweredOn board sensed) (events ++ [.canHealth canNumber regs])
    let history := happenings canNumber (poweredOn board sensed) events ++ [.read (0, regs)]
    let readings := history.filterMap Happening.reading?
    let resets := history.filterMap Happening.reset?
    let config := m.driver.busConfig canNumber
    let counters := m.driver.canHealth canNumber
    canHealth (getPacketsVersions packetVersionsPkt) (m.canHealthPkt canNumber) = .ok
      [("bus_off", .field (.int regs.busOff.toNat)),
       ("bus_off_cnt", .field
        (.int (readings.countP (fun reading => reading.2.busOff == 1) % 2 ^ 32))),
       ("error_warning", .field (.int regs.errorWarning.toNat)),
       ("error_passive", .field (.int regs.errorPassive.toNat)),
       ("last_error", .text (errorName regs.lastError)),
       ("last_stored_error", .text
        (errorName (lastStored (readings.map fun reading => reading.2.lastError)))),
       ("last_data_error", .text (errorName regs.lastDataError)),
       ("last_data_stored_error", .text
        (errorName (lastStored (readings.map fun reading => reading.2.lastDataError)))),
       ("receive_error_cnt", .field (.int regs.receiveErrorCnt.toNat)),
       ("transmit_error_cnt", .field (.int regs.transmitErrorCnt.toNat)),
       ("total_error_cnt", .field
        (.int (readings.countP (fun reading => reading.1 != 0) % 2 ^ 32))),
       ("total_tx_lost_cnt", .field (.int (resets.map ErrorRegisters.txLost).sum.toNat)),
       ("total_rx_lost_cnt", .field (.int counters.totalRxLostCnt.toNat)),
       ("total_tx_cnt", .field (.int counters.totalTxCnt.toNat)),
       ("total_rx_cnt", .field (.int counters.totalRxCnt.toNat)),
       ("total_fwd_cnt", .field (.int counters.totalFwdCnt.toNat)),
       ("total_tx_checksum_error_cnt", .field (.int counters.totalTxChecksumErrorCnt.toNat)),
       ("can_speed", .field (.int ((config.canSpeed / 10).toNat % 2 ^ 16))),
       ("can_data_speed", .field (.int ((config.canDataSpeed / 10).toNat % 2 ^ 16))),
       ("canfd_enabled", .field (.int config.canfdEnabled.toNat)),
       ("brs_enabled", .field (.int config.brsEnabled.toNat)),
       ("canfd_non_iso", .field (.int config.canfdNonIso.toNat)),
       ("irq0_call_rate", .field (.int regs.irq0CallRate.toNat)),
       ("irq1_call_rate", .field (.int regs.irq1CallRate.toNat)),
       ("irq2_call_rate", .field (.int 0)),
       ("can_core_reset_count", .field
        (.int (resets.length % 2 ^ 32)))] := by
  intro m history readings resets config counters
  have hsummary : Summary history _ :=
    (run_summary board sensed events canNumber).afterReading (0, regs)
  obtain ⟨hbusOff, hstored, hdataStored, htotal, htxLost, hcore, hirq⟩ := hsummary
  have hlast : m = (run monitorStep (poweredOn board sensed) events).canHealthRequest canNumber
      regs := by
    change run monitorStep _ (events ++ _) = _
    rw [run_append]
    rfl
  have herrors := canHealthRequest_canErrors canNumber regs
    (run monitorStep (poweredOn board sensed) events)
  rw [← canHealthRequest_driver canNumber regs, ← hlast] at herrors
  have hwritten := congrFun herrors canNumber
  rw [Function.update_self] at hwritten
  have hflag : ∀ flag : Bool, flag.toUInt8.toNat = flag.toNat := by decide
  have hcodes : ∀ code ∈ readings.map fun reading => reading.2.lastError, code.toNat < 8 := by
    intro code hcode
    obtain ⟨reading, -, rfl⟩ := List.mem_map.mp hcode
    exact lastError_lt _
  have hdataCodes : ∀ code ∈ readings.map fun reading => reading.2.lastDataError,
      code.toNat < 8 := by
    intro code hcode
    obtain ⟨reading, -, rfl⟩ := List.mem_map.mp hcode
    exact lastDataError_lt _
  have hlasts : (m.canErrors canNumber).lastError.toNat < 8 ∧
      (m.canErrors canNumber).lastStoredError.toNat < 8 ∧
      (m.canErrors canNumber).lastDataError.toNat < 8 ∧
      (m.canErrors canNumber).lastDataStoredError.toNat < 8 := by
    rw [hwritten]
    dsimp only
    rw [hstored, hdataStored]
    exact ⟨lastError_lt regs, lastStored_lt hcodes, lastDataError_lt regs,
      lastStored_lt hdataCodes⟩
  obtain ⟨hlow, hlowStored, hlowData, hlowDataStored⟩ := hlasts
  rw [Monitored.canHealthPkt, canHealth_packed _ hlow hlowStored hlowData hlowDataStored, hwritten]
  dsimp only [canHealthDict]
  rw [hbusOff, hstored, hdataStored, htotal, htxLost, hcore, hirq]
  simp only [UInt32.toNat_ofNat', UInt32.toNat_toUInt16, hflag, CanErrors.afterReading,
    Monitored.readErrors]
  rfl

end Panda.Host
