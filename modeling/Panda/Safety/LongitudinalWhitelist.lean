import Panda.Safety.Whitelist

/-!
The longitudinal commands of the modes. A message on the whitelist that carries
acceleration, gas, brake or transmission speed requests is checked field by
field, on the bus and at the address of the whitelist, whatever the variant of
the mode.
-/

namespace Panda.Safety

open Library

/-! ### Requests -/

/-- A request field of a frame, with the limits of its mode. -/
structure LongRequest where
  value : Int
  maxVal : Int
  minVal : Int
  inactive : Int

/-- The request is within its limits or inactive, and inactive while
longitudinal control is not allowed. -/
structure LongRequest.Permitted (s : Signals) (r : LongRequest) : Prop where
  limits : (r.minVal ≤ r.value ∧ r.value ≤ r.maxVal) ∨ r.value = r.inactive
  inactive : s.controlsAllowed = false ∨ s.gasPressedPrev = true → r.value = r.inactive

def LongitudinalLimits.accel (limits : LongitudinalLimits) (value : Int) : LongRequest where
  value
  maxVal := limits.maxAccel
  minVal := limits.minAccel
  inactive := limits.inactiveAccel

def LongitudinalLimits.gas (limits : LongitudinalLimits) (value : Int) : LongRequest where
  value
  maxVal := limits.maxGas
  minVal := limits.minGas
  inactive := limits.inactiveGas

def LongitudinalLimits.transmissionRpm (limits : LongitudinalLimits) (value : Int) :
    LongRequest where
  value
  maxVal := limits.maxTransmissionRpm
  minVal := limits.minTransmissionRpm
  inactive := limits.inactiveTransmissionRpm

/-- Brake requests are not negative and inactive at zero. -/
def LongitudinalLimits.brake (limits : LongitudinalLimits) (value : Int) : LongRequest where
  value
  maxVal := limits.maxBrake
  minVal := 0
  inactive := 0

/-- A field that openpilot never uses. -/
def LongRequest.unused (value inactive : Int) : LongRequest := ⟨value, inactive, inactive, inactive⟩

theorem LongRequest.unused_permitted {s : Signals} {value inactive : Int}
    (h : value = inactive) : (LongRequest.unused value inactive).Permitted s where
  limits := Or.inr h
  inactive _ := h

theorem getLongitudinalAllowed_eq_false {s : Signals} :
    getLongitudinalAllowed s = false ↔ s.controlsAllowed = false ∨ s.gasPressedPrev = true := by
  simp only [getLongitudinalAllowed, Bool.and_eq_false_iff, Bool.not_eq_false']

theorem longitudinalRequestCheck_permitted {s : Signals} {r : LongRequest}
    (hpass : longitudinalRequestCheck s r.value r.maxVal r.minVal r.inactive = false) :
    r.Permitted s := by
  simp only [longitudinalRequestCheck, Bool.not_eq_false', Bool.or_eq_true, Bool.and_eq_true,
    Bool.not_eq_true', beq_iff_eq] at hpass
  rcases hpass with ⟨hallowed, hwithin⟩ | hinactive
  · simp only [maxLimitCheck, Bool.or_eq_false_iff, decide_eq_false_iff_not, not_lt] at hwithin
    refine ⟨Or.inl ⟨hwithin.2, hwithin.1⟩, fun hoff => ?_⟩
    rw [getLongitudinalAllowed_eq_false.mpr hoff] at hallowed
    cases hallowed
  · exact ⟨Or.inr hinactive, fun _ => hinactive⟩

section Checks

variable {s : Signals} {limits : LongitudinalLimits} {value : Int}

theorem longitudinalAccelChecks_permitted
    (hpass : longitudinalAccelChecks s value limits = false) : (limits.accel value).Permitted s :=
  longitudinalRequestCheck_permitted hpass

theorem longitudinalGasChecks_permitted
    (hpass : longitudinalGasChecks s value limits = false) : (limits.gas value).Permitted s :=
  longitudinalRequestCheck_permitted hpass

theorem longitudinalTransmissionRpmChecks_permitted
    (hpass : longitudinalTransmissionRpmChecks s value limits = false) :
    (limits.transmissionRpm value).Permitted s :=
  longitudinalRequestCheck_permitted hpass

theorem longitudinalBrakeChecks_permitted
    (hpass : longitudinalBrakeChecks s value limits = false) (hvalue : 0 ≤ value) :
    (limits.brake value).Permitted s := by
  simp only [longitudinalBrakeChecks, Bool.or_eq_false_iff, decide_eq_false_iff_not,
    not_lt] at hpass
  obtain ⟨hoff, hmax⟩ := hpass
  refine ⟨Or.inl ⟨hvalue, hmax⟩, fun hnot => ?_⟩
  rw [getLongitudinalAllowed_eq_false.mpr hnot] at hoff
  have hzero : value = 0 := by simpa using hoff
  exact hzero

end Checks

/-! ### The messages of the modes -/

/-- The requests of the frame, if it has the address of one of the mode's
longitudinal messages. -/
def longRequests (id : HooksId) (m : ModeParams) (toSend : CANPacket) : List LongRequest :=
  let addr := getAddr toSend
  match id with
  | .hondaNidec | .hondaBosch =>
      if addr = 0x30C then [hondaNidecLongLimits.gas (hondaPcmGas toSend)]
      else if addr = 0x1FA then [hondaNidecLongLimits.brake (hondaBrake toSend)]
      else if addr = 0x1DF then
        [hondaBoschLongLimits.accel (hondaBoschAccel toSend),
         hondaBoschLongLimits.gas (hondaBoschGas toSend)]
      else if addr = 0x1C8 then [hondaBoschLongLimits.accel (hondaRadarlessAccel toSend)]
      else []
  | .toyota =>
      if addr = 0x343 then [toyotaLongLimits.accel (toyotaDesiredAccel toSend)]
      else if addr = 0x283 then
        [.unused (getBytes toSend 0 4) 0, .unused (getByte toSend 4) 0,
         .unused (getByte toSend 5) 0]
      else []
  | .gm =>
      if addr = 0x315 then [m.gm.longLimits.brake (gmBrake toSend)]
      else if addr = 0x2CB then [m.gm.longLimits.gas (gmGasRegen toSend)]
      else []
  | .hyundai | .hyundaiLegacy =>
      if addr = 0x421 then
        [hyundaiLongLimits.accel (hyundaiDesiredAccelRaw toSend),
         hyundaiLongLimits.accel (hyundaiDesiredAccelVal toSend),
         .unused (hyundaiAebDecelCmd toSend) 0]
      else if addr = 0x38D then [.unused (getByte toSend 1) 0]
      else []
  | .hyundaiCanfd =>
      if addr = 0x1a0 then
        [hyundaiLongLimits.accel (hyundaiCanfdDesiredAccelRaw toSend),
         hyundaiLongLimits.accel (hyundaiCanfdDesiredAccelVal toSend)]
      else []
  | .subaru =>
      if addr = subaruEsBrake then [subaruLongLimits.brake (subaruEsBrakePressure toSend)]
      else if addr = subaruEsDistance then [subaruLongLimits.gas (subaruCruiseThrottle toSend)]
      else if addr = subaruEsStatus then
        [subaruLongLimits.transmissionRpm (subaruTransmissionRpm toSend)]
      else []
  | .volkswagenMqb =>
      if addr = msgAcc06 then
        [volkswagenMqbLongLimits.accel (volkswagenAcc06DesiredAccel toSend)]
      else if addr = msgAcc07 then
        [volkswagenMqbLongLimits.accel (volkswagenAcc07DesiredAccel toSend),
         .unused (volkswagenAcc07SecondaryAccel toSend) 3020]
      else []
  | .volkswagenPq =>
      if addr = msgAccSystem then
        [volkswagenPqLongLimits.accel (volkswagenPqDesiredAccel toSend)]
      else []
  | .ford =>
      if addr = fordAccdata then
        [fordLongLimits.accel (fordAccel toSend), fordLongLimits.gas (fordGas toSend),
         fordLongLimits.gas (fordGasPred toSend)]
      else []
  | .tesla =>
      if addr = teslaDasControlAddr m.tesla then
        [teslaLongLimits.accel (teslaRawAccelMax toSend),
         teslaLongLimits.accel (teslaRawAccelMin toSend)]
      else []
  | .nooutput | .elm327 | .alloutput | .body | .chrysler | .subaruPreglobal | .mazda | .nissan =>
      []

/-! ### The hooks -/

theorem gmBrake_nonneg (toSend : CANPacket) : 0 ≤ gmBrake toSend :=
  Int.emod_nonneg _ (by norm_num)

/-- The hook of Honda checks the requests of the frames on the powertrain
bus. -/
theorem hondaTxHook_permitted {id : HooksId} (hid : id = .hondaNidec ∨ id = .hondaBosch)
    {m : ModeParams} {s : Signals} {toSend : CANPacket} {commands : Commands} {v : HondaVars}
    (hbus : getAddr toSend = 0x30C ∨ getAddr toSend = 0x1FA ∨ getAddr toSend = 0x1DF ∨
      getAddr toSend = 0x1C8 → getBus toSend = hondaGetPtBus m.honda)
    (htx : (hondaTxHook m.honda s toSend commands v).tx = true) :
    ∀ r ∈ longRequests id m toSend, r.Permitted s := by
  have hrequests : longRequests id m toSend = longRequests .hondaNidec m toSend := by
    rcases hid with rfl | rfl <;> rfl
  rw [hrequests]
  simp only [longRequests]
  split_ifs with hhud hbrake hacc hradarless
  · simp [hondaTxHook, hhud, hbus (Or.inl hhud)] at htx
    simpa using longitudinalGasChecks_permitted htx.2
  · simp [hondaTxHook, hondaTxBrake, hbrake, hbus (Or.inr (Or.inl hbrake))] at htx
    simpa using longitudinalBrakeChecks_permitted htx.1 (Int.natCast_nonneg _)
  · simp [hondaTxHook, hacc, hbus (Or.inr (Or.inr (Or.inl hacc)))] at htx
    simpa using ⟨longitudinalAccelChecks_permitted htx.1, longitudinalGasChecks_permitted htx.2⟩
  · simp [hondaTxHook, hradarless, hbus (Or.inr (Or.inr (Or.inr hradarless)))] at htx
    simpa using longitudinalAccelChecks_permitted htx
  · simp

theorem toyotaTxHook_permitted {c : Context} {m : ModeParams} {s : Signals} {toSend : CANPacket}
    {commands : Commands}
    (hbus : getAddr toSend = 0x343 ∨ getAddr toSend = 0x283 → getBus toSend = 0)
    (htx : (toyotaTxHook c m.toyota s toSend commands).tx = true) :
    ∀ r ∈ longRequests .toyota m toSend, r.Permitted s := by
  simp only [longRequests]
  split_ifs with haccel haeb
  · simp [toyotaTxHook, haccel, hbus (Or.inl haccel)] at htx
    simpa using longitudinalAccelChecks_permitted htx.1
  · simp [toyotaTxHook, haeb, hbus (Or.inr haeb), toyotaAebActuation] at htx
    obtain ⟨⟨h0, h4⟩, h5⟩ := htx
    simp only [List.forall_mem_cons, List.not_mem_nil, false_implies, implies_true, and_true]
    exact ⟨LongRequest.unused_permitted (by rw [h0]; rfl),
      LongRequest.unused_permitted (by rw [h4]; rfl),
      LongRequest.unused_permitted (by rw [h5]; rfl)⟩
  · simp

theorem gmTxHook_permitted {c : Context} {m : ModeParams} {s : Signals} {toSend : CANPacket}
    {commands : Commands} (htx : (gmTxHook c m.gm s toSend commands).tx = true) :
    ∀ r ∈ longRequests .gm m toSend, r.Permitted s := by
  simp only [longRequests]
  split_ifs with hbrake hgas
  · simp [gmTxHook, hbrake] at htx
    simpa using longitudinalBrakeChecks_permitted htx (gmBrake_nonneg toSend)
  · simp [gmTxHook, hgas] at htx
    simpa using longitudinalGasChecks_permitted htx.2
  · simp

theorem hyundaiTxHook_permitted {id : HooksId} (hid : id = .hyundai ∨ id = .hyundaiLegacy)
    {c : Context} {m : ModeParams} {s : Signals} {toSend : CANPacket} {commands : Commands}
    {v : HyundaiVars} (htx : (hyundaiTxHook c m.hyundai s toSend commands v).tx = true) :
    ∀ r ∈ longRequests id m toSend, r.Permitted s := by
  have hrequests : longRequests id m toSend = longRequests .hyundai m toSend := by
    rcases hid with rfl | rfl <;> rfl
  rw [hrequests]
  simp only [longRequests]
  split_ifs with haccel hfca
  · simp [hyundaiTxHook, haccel] at htx
    obtain ⟨⟨⟨hraw, hval⟩, hdecel⟩, -⟩ := htx
    simp only [List.forall_mem_cons, List.not_mem_nil, false_implies, implies_true, and_true]
    exact ⟨longitudinalAccelChecks_permitted hraw, longitudinalAccelChecks_permitted hval,
      LongRequest.unused_permitted (by rw [hdecel]; rfl)⟩
  · simp [hyundaiTxHook, hfca, hyundaiFca11Actuation] at htx
    simp only [List.forall_mem_cons, List.not_mem_nil, false_implies, implies_true, and_true]
    exact LongRequest.unused_permitted (by rw [htx.1.1]; rfl)
  · simp

theorem longitudinalRequestCheck_inactive {s : Signals} {desired maxVal minVal : Int}
    (h : desired = 0) : longitudinalRequestCheck s desired maxVal minVal 0 = false := by
  simp [longitudinalRequestCheck, h]

/-- Without openpilot longitudinal control, the hook lets inactive requests
pass only. -/
theorem hyundaiCanfdTxHook_permitted {c : Context} {m : ModeParams} {s : Signals}
    {toSend : CANPacket} {commands : Commands} {v : HyundaiVars}
    (htx : (hyundaiCanfdTxHook c (m.hyundai, m.hyundaiCanfd) s toSend commands v).tx = true) :
    ∀ r ∈ longRequests .hyundaiCanfd m toSend, r.Permitted s := by
  simp only [longRequests]
  split_ifs with haccel
  · have hsteer : ¬ 0x1a0 = hyundaiCanfdSteerAddr m.hyundai m.hyundaiCanfd := by
      unfold hyundaiCanfdSteerAddr hyundaiCanfdHda2GetLkasAddr
      split_ifs <;> decide
    simp only [List.forall_mem_cons, List.not_mem_nil, false_implies, implies_true, and_true]
    cases hlong : m.hyundai.longitudinal with
    | true =>
        simp [hyundaiCanfdTxHook, haccel, hsteer, hlong] at htx
        exact ⟨longitudinalAccelChecks_permitted htx.1, longitudinalAccelChecks_permitted htx.2⟩
    | false =>
        simp [hyundaiCanfdTxHook, haccel, hsteer, hlong] at htx
        exact ⟨longitudinalAccelChecks_permitted (longitudinalRequestCheck_inactive htx.1),
          longitudinalAccelChecks_permitted (longitudinalRequestCheck_inactive htx.2)⟩
  · simp

theorem subaruTxHook_permitted {c : Context} {m : ModeParams} {s : Signals} {toSend : CANPacket}
    {commands : Commands} (htx : (subaruTxHook c m.subaru s toSend commands).tx = true) :
    ∀ r ∈ longRequests .subaru m toSend, r.Permitted s := by
  simp only [longRequests]
  split_ifs with hbrake hthrottle hrpm
  · simp [subaruTxHook, hbrake, subaruEsLkas, subaruEsBrake, subaruEsDistance, subaruEsStatus,
      subaruEsUdsRequest] at htx
    simpa using longitudinalBrakeChecks_permitted htx (Int.natCast_nonneg _)
  · cases hlong : m.subaru.longitudinal with
    | true =>
        simp [subaruTxHook, hthrottle, hlong, subaruEsLkas, subaruEsBrake, subaruEsDistance,
          subaruEsStatus, subaruEsUdsRequest] at htx
        simpa using longitudinalGasChecks_permitted htx
    | false =>
        simp [subaruTxHook, hthrottle, hlong, subaruEsLkas, subaruEsBrake, subaruEsDistance,
          subaruEsStatus, subaruEsUdsRequest] at htx
        simpa using
          (⟨Or.inr htx.1, fun _ => htx.1⟩ :
            (subaruLongLimits.gas (subaruCruiseThrottle toSend)).Permitted s)
  · simp [subaruTxHook, hrpm, subaruEsLkas, subaruEsBrake, subaruEsDistance, subaruEsStatus,
      subaruEsUdsRequest] at htx
    simpa using longitudinalTransmissionRpmChecks_permitted htx
  · simp

theorem volkswagenMqbTxHook_permitted {c : Context} {m : ModeParams} {s : Signals}
    {toSend : CANPacket} {commands : Commands} {v : VolkswagenVars × VolkswagenMqbVars}
    (htx : (volkswagenMqbTxHook c s toSend commands v).tx = true) :
    ∀ r ∈ longRequests .volkswagenMqb m toSend, r.Permitted s := by
  simp only [longRequests]
  split_ifs with hacc06 hacc07
  · simp [volkswagenMqbTxHook, hacc06, msgHca01, msgAcc06, msgAcc07, msgGraAcc01] at htx
    simpa using longitudinalAccelChecks_permitted htx
  · simp [volkswagenMqbTxHook, hacc07, msgHca01, msgAcc06, msgAcc07, msgGraAcc01] at htx
    obtain ⟨hsecondary, haccel⟩ := htx
    simpa using ⟨longitudinalAccelChecks_permitted haccel,
      LongRequest.unused_permitted hsecondary⟩
  · simp

theorem volkswagenPqTxHook_permitted {c : Context} {m : ModeParams} {s : Signals}
    {toSend : CANPacket} {commands : Commands} {v : VolkswagenVars}
    (htx : (volkswagenPqTxHook c s toSend commands v).tx = true) :
    ∀ r ∈ longRequests .volkswagenPq m toSend, r.Permitted s := by
  simp only [longRequests]
  split_ifs with haccel
  · simp [volkswagenPqTxHook, haccel, msgHca1, msgAccSystem, msgGraNeu] at htx
    simpa using longitudinalAccelChecks_permitted htx
  · simp

theorem fordTxHook_permitted {m : ModeParams} {s : Signals} {toSend : CANPacket}
    {commands : Commands} (htx : (fordTxHook s toSend commands).tx = true) :
    ∀ r ∈ longRequests .ford m toSend, r.Permitted s := by
  simp only [longRequests]
  split_ifs with haccdata
  · simp [fordTxHook, haccdata, fordAccdata, fordSteeringDataFd1, fordLaneAssistData1,
      fordLateralMotionControl, fordLateralMotionControl2] at htx
    obtain ⟨⟨⟨haccel, hgas⟩, hpred⟩, -⟩ := htx
    simpa using ⟨longitudinalAccelChecks_permitted haccel, longitudinalGasChecks_permitted hgas,
      longitudinalGasChecks_permitted hpred⟩
  · simp

/-- Without openpilot longitudinal control, the hook blocks the message. -/
theorem teslaTxHook_permitted {m : ModeParams} {s : Signals} {toSend : CANPacket}
    {commands : Commands} {v : TeslaVars}
    (htx : (teslaTxHook m.tesla s toSend commands v).tx = true) :
    ∀ r ∈ longRequests .tesla m toSend, r.Permitted s := by
  simp only [longRequests]
  split_ifs with hcontrol
  · cases hlong : m.tesla.longitudinal with
    | true =>
        simp [teslaTxHook, hcontrol, hlong] at htx
        obtain ⟨-, ⟨-, hmax⟩, hmin⟩ := htx
        simpa using ⟨longitudinalAccelChecks_permitted hmax,
          longitudinalAccelChecks_permitted hmin⟩
    | false => simp [teslaTxHook, hcontrol, hlong] at htx
  · simp

/-! ### Sessions -/

/-- Every request of an accepted frame is within its limits or inactive, and
inactive without controls or while the gas is pressed. -/
theorem accepted_longitudinal {mode : UInt16} {id : HooksId} (hmode : registered mode = some id)
    (param : UInt16) (before : State) (events : List Event) {ts : UInt32} {toSend : CANPacket}
    (haccepted : (session mode param before events).txAccepted ts toSend = true) :
    ∀ r ∈ longRequests id (session mode param before events).params toSend,
      r.Permitted (session mode param before events).signals := by
  have hs := session_configured hmode param before events
  generalize session mode param before events = s at hs haccepted ⊢
  by_cases hopen : id = .alloutput ∨ id = .elm327
  · rcases hopen with rfl | rfl <;> simp [longRequests]
  obtain ⟨hnotAll, hnotElm⟩ := not_or.mp hopen
  obtain ⟨-, hwhite, htx⟩ := hs.accepted hnotAll hnotElm haccepted
  cases id with
  | hondaNidec =>
      have hbus := honda_whitelisted_bus hs (Or.inl rfl) hwhite
      exact hondaTxHook_permitted (Or.inl rfl) hbus htx
  | hondaBosch =>
      have hbus := honda_whitelisted_bus hs (Or.inr rfl) hwhite
      exact hondaTxHook_permitted (Or.inr rfl) hbus htx
  | toyota =>
      obtain ⟨param, m, v, -, htxMsgs⟩ := hs.init
      rw [htxMsgs] at hwhite
      refine toyotaTxHook_permitted (fun haddr => toyota_whitelisted_bus hwhite ?_) htx
      rcases haddr with haddr | haddr <;> rw [haddr] <;> decide
  | gm => exact gmTxHook_permitted htx
  | hyundai => exact hyundaiTxHook_permitted (Or.inl rfl) htx
  | hyundaiLegacy => exact hyundaiTxHook_permitted (Or.inr rfl) htx
  | hyundaiCanfd => exact hyundaiCanfdTxHook_permitted htx
  | subaru => exact subaruTxHook_permitted htx
  | volkswagenMqb => exact volkswagenMqbTxHook_permitted htx
  | volkswagenPq => exact volkswagenPqTxHook_permitted htx
  | ford => exact fordTxHook_permitted htx
  | tesla => exact teslaTxHook_permitted htx
  | nooutput | elm327 | alloutput | body | chrysler | subaruPreglobal | mazda | nissan =>
      simp [longRequests]

/-- GM with controls, turned on by the set button. -/
def gmLongSession : State :=
  session safetyGm 0 bootState
    [.rx 0 (.ofBytes 0x1E1 0 7 [0, 0, 0, 0, 0, 0x30]),
     .rx 0 (.ofBytes 0x1E1 0 7 [0, 0, 0, 0, 0, 0x10])]

/-- GM's gas command of 2000. -/
def gmGasCommand : CANPacket := .ofBytes 0x2CB 0 8 [0, 0, 62, 128]

theorem accepted_longitudinal_gm :
    (gmLongSession.params.gm.longLimits.gas (gmGasRegen gmGasCommand)).Permitted
      gmLongSession.signals := by
  have haccepted : gmLongSession.txAccepted 0 gmGasCommand = true := by decide
  have hrequest : gmLongSession.params.gm.longLimits.gas (gmGasRegen gmGasCommand) ∈
      longRequests .gm gmLongSession.params gmGasCommand := List.mem_singleton.mpr rfl
  exact accepted_longitudinal (by decide) 0 bootState _ haccepted _ hrequest

end Panda.Safety
