import Panda.Safety.Forwarding

/-!
Frames that act for the driver or for a tester. The whitelists list the cruise buttons of
some cars, to cancel cruise or to resume from a stop, and the diagnostic addresses of the
units that openpilot replaces. Without controls no accepted frame may press a button that
engages cruise, and a diagnostic frame may only keep a session alive.
-/

namespace Panda.Safety

open Library

/-! ### Buttons -/

/-- Whether the frame presses a button that engages cruise: set or resume, where the hook
knows cancel alone or cancel and resume, any but cancel, and on a Ford resume alone, as
its hook does not look at set. -/
def engages (id : HooksId) (m : ModeParams) (toSend : CANPacket) : Bool :=
  let addr := getAddr toSend
  match id with
  | .hondaNidec | .hondaBosch =>
      let button := (getByte toSend 0 >>> 5) &&& 0x7
      addr == 0x296 && (button == hondaBtnSet || button == hondaBtnResume)
  | .gm =>
      let button := (getByte toSend 5 >>> 4) &&& 0x7
      addr == 0x1E1 && (button == gmBtnSet || button == gmBtnResume)
  | .hyundai | .hyundaiLegacy =>
      let button := getByte toSend 0 &&& 0x7
      addr == 0x4F1 && (button == hyundaiBtnSet || button == hyundaiBtnResume)
  | .hyundaiCanfd =>
      let button := getByte toSend 2 &&& 0x7
      addr == 0x1cf && (button == hyundaiBtnSet || button == hyundaiBtnResume)
  | .ford => addr == fordSteeringDataFd1 && getBit toSend 25
  | .chrysler => addr == m.chrysler.addrs.cruiseButtons && getByte toSend 0 != 0x1
  | .mazda => addr == mazdaCrzBtns && getByte toSend 0 != 0x1
  | .nissan => addr == 0x20b && (getByte toSend 1 &&& 0x3d) > 0
  | .tesla => addr == 0x45 && (getByte toSend 0 &&& 0x3F) != 1
  | .volkswagenMqb => addr == msgGraAcc01 && (getByte toSend 2 &&& 0x9) != 0
  | .volkswagenPq => addr == msgGraNeu && (getBit toSend 16 || getBit toSend 17)
  | .nooutput | .elm327 | .alloutput | .body | .toyota | .subaru | .subaruPreglobal => false

/-- Whether the frame presses cancel in a mode that looks at the cruise state for it. -/
def cancels (id : HooksId) (toSend : CANPacket) : Bool :=
  let addr := getAddr toSend
  match id with
  | .gm => addr == 0x1E1 && ((getByte toSend 5 >>> 4) &&& 0x7) == gmBtnCancel
  | .hyundai | .hyundaiLegacy => addr == 0x4F1 && (getByte toSend 0 &&& 0x7) == hyundaiBtnCancel
  | .hyundaiCanfd => addr == 0x1cf && (getByte toSend 2 &&& 0x7) == hyundaiBtnCancel
  | .ford => addr == fordSteeringDataFd1 && getBit toSend 8
  | _ => false

/-- The modes that let no button but cancel pass, with controls or without. -/
def cancelOnly : HooksId → Bool
  | .gm | .nissan | .tesla => true
  | _ => false

/-- The buttons of the frame go with the state of controls and of cruise. -/
structure ButtonsPermitted (id : HooksId) (m : ModeParams) (s : Signals) (toSend : CANPacket) :
    Prop where
  engage : engages id m toSend = true → s.controlsAllowed = true ∧ cancelOnly id = false
  cancel : cancels id toSend = true → s.cruiseEngagedPrev = true

/-- A Honda lists its buttons for the bus on which the hook checks them. -/
theorem honda_whitelisted_buttons {id : HooksId} {s : State} (hs : Configured id s)
    (hid : id = .hondaNidec ∨ id = .hondaBosch) {toSend : CANPacket}
    (hwhite : msgAllowed toSend s.cfg.txMsgs = true) (haddr : getAddr toSend = 0x296) :
    getBus toSend =
      if s.params.honda.boschRadarless then 2 else hondaGetPtBus s.params.honda := by
  obtain ⟨param, m, v, hparams, htx⟩ := hs.init
  rw [htx] at hwhite
  rw [hparams]
  rcases hid with rfl | rfl
  · have hwhite : msgAllowed toSend hondaNTxMsgs = true := hwhite
    simp [msgAllowed, hondaNTxMsgs, haddr] at hwhite
  · have hwhite : msgAllowed toSend (hondaBoschInit param m.honda v.honda).cfg.txMsgs = true :=
      hwhite
    change getBus toSend =
      if (hondaBoschInit param m.honda v.honda).params.boschRadarless then 2
      else hondaGetPtBus (hondaBoschInit param m.honda v.honda).params
    simp only [hondaBoschInit, hondaGetPtBus] at hwhite ⊢
    by_cases hradarless : getFlag param.toNat 8 = true <;>
      by_cases hlong : getFlag param.toNat 2 = true <;>
      simp_all [msgAllowed, hondaRadarlessLongTxMsgs, hondaRadarlessTxMsgs, hondaBoschLongTxMsgs,
        hondaBoschTxMsgs]

theorem hondaTxHook_buttons {id : HooksId} (hid : id = .hondaNidec ∨ id = .hondaBosch)
    {m : ModeParams} {s : Signals} {toSend : CANPacket} {commands : Commands} {v : HondaVars}
    (hbus : getAddr toSend = 0x296 →
      getBus toSend = if m.honda.boschRadarless then 2 else hondaGetPtBus m.honda)
    (htx : (hondaTxHook m.honda s toSend commands v).tx = true) :
    ButtonsPermitted id m s toSend := by
  constructor
  · intro hengages
    have hengages : engages .hondaBosch m toSend = true := by
      rcases hid with rfl | rfl
      · exact hengages
      · exact hengages
    have hcancel : cancelOnly id = false := by
      rcases hid with rfl | rfl
      · rfl
      · rfl
    refine ⟨?_, hcancel⟩
    by_contra hoff
    simp only [engages, Bool.and_eq_true, beq_iff_eq] at hengages
    obtain ⟨haddr, hbutton⟩ := hengages
    simp [hondaTxHook, haddr, hbus haddr, hoff] at htx
    simp [htx, hondaBtnSet, hondaBtnResume] at hbutton
  · intro hcancels
    rcases hid with rfl | rfl
    · cases hcancels
    · cases hcancels

/-- A GM with openpilot longitudinal control does not list its buttons. -/
theorem gm_whitelisted_buttons {s : State} (hs : Configured .gm s) {toSend : CANPacket}
    (hwhite : msgAllowed toSend s.cfg.txMsgs = true) (haddr : getAddr toSend = 0x1E1) :
    s.params.gm.pcmCruise = true := by
  obtain ⟨param, m, v, hparams, htx⟩ := hs.init
  have hgm : s.params.gm = gmParams param := by rw [hparams]; rfl
  have hmsgs : s.cfg.txMsgs = (gmInit param).cfg.txMsgs := htx
  rw [hmsgs] at hwhite
  rw [hgm]
  cases hhw : (gmParams param).hw with
  | ascm => simp [msgAllowed, gmInit, hhw, gmAscmTxMsgs, haddr] at hwhite
  | cam =>
    cases hlong : (gmParams param).camLong with
    | true => simp [msgAllowed, gmInit, hhw, hlong, gmCamLongTxMsgs, haddr] at hwhite
    | false =>
      simp only [gmParams] at hhw hlong ⊢
      simp [hhw, hlong]

theorem gmTxHook_buttons {c : Context} {m : ModeParams} {s : Signals} {toSend : CANPacket}
    {commands : Commands} (hcruise : getAddr toSend = 0x1E1 → m.gm.pcmCruise = true)
    (htx : (gmTxHook c m.gm s toSend commands).tx = true) :
    ButtonsPermitted .gm m s toSend := by
  constructor
  · intro hengages
    simp only [engages, Bool.and_eq_true, beq_iff_eq] at hengages
    obtain ⟨haddr, hbutton⟩ := hengages
    simp [gmTxHook, haddr, hcruise haddr] at htx
    simp [htx.1, gmBtnSet, gmBtnResume] at hbutton
  · intro hcancels
    simp only [cancels, Bool.and_eq_true, beq_iff_eq] at hcancels
    simp [gmTxHook, hcancels.1, hcruise hcancels.1] at htx
    exact htx.2

theorem fordTxHook_buttons {m : ModeParams} {s : Signals} {toSend : CANPacket}
    {commands : Commands} (htx : (fordTxHook s toSend commands).tx = true) :
    ButtonsPermitted .ford m s toSend := by
  have hchecks : getAddr toSend = fordSteeringDataFd1 →
      (getBit toSend 8 = true → s.cruiseEngagedPrev = true) ∧
        (getBit toSend 25 = true → s.controlsAllowed = true) := by
    intro haddr
    simp [fordTxHook, haddr, fordAccdata, fordSteeringDataFd1, fordLaneAssistData1,
      fordLateralMotionControl, fordLateralMotionControl2] at htx
    exact ⟨fun h => htx.1.resolve_left (by simp [h]), fun h => htx.2.resolve_left (by simp [h])⟩
  constructor
  · intro hengages
    simp only [engages, Bool.and_eq_true, beq_iff_eq] at hengages
    exact ⟨(hchecks hengages.1).2 hengages.2, rfl⟩
  · intro hcancels
    simp only [cancels, Bool.and_eq_true, beq_iff_eq] at hcancels
    exact (hchecks hcancels.1).1 hcancels.2

/-- With openpilot longitudinal control the buttons of a Hyundai pass unchecked. -/
theorem hyundaiTxHook_buttons {id : HooksId} (hid : id = .hyundai ∨ id = .hyundaiLegacy)
    {c : Context} {m : ModeParams} {s : Signals} {toSend : CANPacket} {commands : Commands}
    {v : HyundaiVars} (hlong : m.hyundai.longitudinal = false)
    (htx : (hyundaiTxHook c m.hyundai s toSend commands v).tx = true) :
    ButtonsPermitted id m s toSend := by
  have hbuttons : getAddr toSend = 0x4F1 →
      (getByte toSend 0 &&& 0x7 = 1 ∧ s.controlsAllowed = true) ∨
        (getByte toSend 0 &&& 0x7 = 4 ∧ s.cruiseEngagedPrev = true) := by
    intro haddr
    simp [hyundaiTxHook, haddr, hlong] at htx
    exact htx
  rcases hid with rfl | rfl <;>
  · constructor
    · intro hengages
      simp only [engages, Bool.and_eq_true, Bool.or_eq_true, beq_iff_eq] at hengages
      rcases hbuttons hengages.1 with ⟨-, hcontrols⟩ | ⟨hbutton, -⟩
      · exact ⟨hcontrols, rfl⟩
      · simp [hbutton, hyundaiBtnSet, hyundaiBtnResume] at hengages
    · intro hcancels
      simp only [cancels, Bool.and_eq_true, beq_iff_eq] at hcancels
      rcases hbuttons hcancels.1 with ⟨hbutton, -⟩ | ⟨-, hcruise⟩
      · simp [hbutton, hyundaiBtnCancel] at hcancels
      · exact hcruise

theorem hyundaiCanfdTxHook_buttons {c : Context} {m : ModeParams} {s : Signals}
    {toSend : CANPacket} {commands : Commands} {v : HyundaiVars}
    (htx : (hyundaiCanfdTxHook c (m.hyundai, m.hyundaiCanfd) s toSend commands v).tx = true) :
    ButtonsPermitted .hyundaiCanfd m s toSend := by
  have hbuttons : getAddr toSend = 0x1cf →
      (getByte toSend 2 &&& 0x7 = hyundaiBtnCancel ∧ s.cruiseEngagedPrev = true) ∨
        (getByte toSend 2 &&& 0x7 = hyundaiBtnResume ∧ s.controlsAllowed = true) := by
    intro haddr
    have hsteer : ¬ 0x1cf = hyundaiCanfdSteerAddr m.hyundai m.hyundaiCanfd := by
      unfold hyundaiCanfdSteerAddr hyundaiCanfdHda2GetLkasAddr
      split_ifs <;> decide
    simp [hyundaiCanfdTxHook, haddr, hsteer] at htx
    exact htx
  constructor
  · intro hengages
    simp only [engages, Bool.and_eq_true, Bool.or_eq_true, beq_iff_eq] at hengages
    rcases hbuttons hengages.1 with ⟨hbutton, -⟩ | ⟨-, hcontrols⟩
    · simp [hbutton, hyundaiBtnSet, hyundaiBtnResume, hyundaiBtnCancel] at hengages
    · exact ⟨hcontrols, rfl⟩
  · intro hcancels
    simp only [cancels, Bool.and_eq_true, beq_iff_eq] at hcancels
    rcases hbuttons hcancels.1 with ⟨-, hcruise⟩ | ⟨hbutton, -⟩
    · exact hcruise
    · simp [hbutton, hyundaiBtnResume, hyundaiBtnCancel] at hcancels

/-- A mode whose hook refuses the engaging buttons without controls, or always, and that
does not look at the cruise state. -/
theorem ButtonsPermitted.of_engage {id : HooksId} {m : ModeParams} {s : Signals}
    {toSend : CANPacket} (hcancels : cancels id toSend = false)
    (hengage : engages id m toSend = true → s.controlsAllowed = true ∧ cancelOnly id = false) :
    ButtonsPermitted id m s toSend where
  engage := hengage
  cancel h := by
    rw [hcancels] at h
    cases h

theorem chryslerTxHook_buttons {c : Context} {m : ModeParams} {s : Signals} {toSend : CANPacket}
    {commands : Commands}
    (haddrs : m.chrysler.addrs.lkasCommand ≠ m.chrysler.addrs.cruiseButtons)
    (htx : (chryslerTxHook c m.chrysler s toSend commands).tx = true) :
    ButtonsPermitted .chrysler m s toSend := by
  apply ButtonsPermitted.of_engage rfl
  intro hengages
  simp only [engages, Bool.and_eq_true, beq_iff_eq, bne_iff_ne] at hengages
  simp [chryslerTxHook, hengages.1, haddrs.symm, hengages.2] at htx
  exact ⟨htx.2, rfl⟩

theorem mazdaTxHook_buttons {c : Context} {m : ModeParams} {s : Signals} {toSend : CANPacket}
    {commands : Commands} (hbus : getAddr toSend = mazdaCrzBtns → getBus toSend = mazdaMain)
    (htx : (mazdaTxHook c s toSend commands).tx = true) :
    ButtonsPermitted .mazda m s toSend := by
  apply ButtonsPermitted.of_engage rfl
  intro hengages
  simp only [engages, Bool.and_eq_true, beq_iff_eq, bne_iff_ne] at hengages
  have haddr := hengages.1
  simp [mazdaTxHook, hbus haddr, haddr, mazdaLkas, mazdaCrzBtns, hengages.2] at htx
  exact ⟨htx, rfl⟩

theorem nissanTxHook_buttons {m : ModeParams} {s : Signals} {toSend : CANPacket}
    {commands : Commands} (htx : (nissanTxHook s toSend commands).tx = true) :
    ButtonsPermitted .nissan m s toSend := by
  apply ButtonsPermitted.of_engage rfl
  intro hengages
  simp only [engages, Bool.and_eq_true, beq_iff_eq, decide_eq_true_eq] at hengages
  simp [nissanTxHook, hengages.1] at htx
  omega

theorem teslaTxHook_buttons {m : ModeParams} {s : Signals} {toSend : CANPacket}
    {commands : Commands} {v : TeslaVars}
    (hpowertrain : getAddr toSend = 0x45 → m.tesla.powertrain = false)
    (htx : (teslaTxHook m.tesla s toSend commands v).tx = true) :
    ButtonsPermitted .tesla m s toSend := by
  apply ButtonsPermitted.of_engage rfl
  intro hengages
  simp only [engages, Bool.and_eq_true, beq_iff_eq, bne_iff_ne] at hengages
  simp [teslaTxHook, hengages.1, hpowertrain hengages.1, hengages.2] at htx

theorem volkswagenMqbTxHook_buttons {c : Context} {m : ModeParams} {s : Signals}
    {toSend : CANPacket} {commands : Commands} {v : VolkswagenVars × VolkswagenMqbVars}
    (htx : (volkswagenMqbTxHook c s toSend commands v).tx = true) :
    ButtonsPermitted .volkswagenMqb m s toSend := by
  apply ButtonsPermitted.of_engage rfl
  intro hengages
  simp only [engages, Bool.and_eq_true, beq_iff_eq, bne_iff_ne] at hengages
  simp [volkswagenMqbTxHook, hengages.1, msgHca01, msgAcc06, msgAcc07, msgGraAcc01] at htx
  exact ⟨htx.resolve_right hengages.2, rfl⟩

theorem volkswagenPqTxHook_buttons {c : Context} {m : ModeParams} {s : Signals}
    {toSend : CANPacket} {commands : Commands} {v : VolkswagenVars}
    (htx : (volkswagenPqTxHook c s toSend commands v).tx = true) :
    ButtonsPermitted .volkswagenPq m s toSend := by
  apply ButtonsPermitted.of_engage rfl
  intro hengages
  simp only [engages, Bool.and_eq_true, beq_iff_eq] at hengages
  simp [volkswagenPqTxHook, hengages.1, msgHca1, msgAccSystem, msgGraNeu] at htx
  rcases htx with hcontrols | ⟨hset, hrecall⟩
  · exact ⟨hcontrols, rfl⟩
  · simp [hset, hrecall] at hengages

theorem mazda_whitelisted_bus {s : State} (hs : Configured .mazda s) {toSend : CANPacket}
    (hwhite : msgAllowed toSend s.cfg.txMsgs = true) : getBus toSend = mazdaMain := by
  obtain ⟨param, m, v, -, htx⟩ := hs.init
  have hmsgs : s.cfg.txMsgs = mazdaTxMsgs := htx
  simp only [hmsgs, msgAllowed, mazdaTxMsgs, List.any_cons, List.any_nil, Bool.or_false,
    Bool.or_eq_true, Bool.and_eq_true, beq_iff_eq] at hwhite
  rcases hwhite with ⟨⟨-, hbus⟩, -⟩ | ⟨⟨-, hbus⟩, -⟩ | ⟨⟨-, hbus⟩, -⟩
  · exact hbus
  · exact hbus
  · exact hbus

/-- The second panda of a Tesla lists no buttons. -/
theorem tesla_whitelisted_buttons {s : State} (hs : Configured .tesla s) {toSend : CANPacket}
    (hwhite : msgAllowed toSend s.cfg.txMsgs = true) (haddr : getAddr toSend = 0x45) :
    s.params.tesla.powertrain = false := by
  obtain ⟨param, m, v, hparams, htx⟩ := hs.init
  have htesla : s.params.tesla = teslaParams param := by rw [hparams]; rfl
  have hmsgs : s.cfg.txMsgs = (teslaInit param).cfg.txMsgs := htx
  rw [htesla]
  rw [hmsgs, teslaInit] at hwhite
  cases hpowertrain : (teslaParams param).powertrain with
  | true => simp [msgAllowed, hpowertrain, teslaPtTxMsgs, haddr] at hwhite
  | false => rfl

/-- In every session an accepted frame presses a button that engages only with controls,
and cancel, where the mode looks at the cruise state, only while cruise is engaged. The one
exception is a Hyundai with openpilot longitudinal control, whose stock cruise is off. -/
theorem accepted_buttons {mode : UInt16} {id : HooksId} (hmode : registered mode = some id)
    (param : UInt16) (before : State) (events : List Event) {ts : UInt32} {toSend : CANPacket}
    (haccepted : (session mode param before events).txAccepted ts toSend = true) :
    ButtonsPermitted id (session mode param before events).params
        (session mode param before events).signals toSend ∨
      (id = .hyundai ∧ (session mode param before events).params.hyundai.longitudinal = true) := by
  have hs := session_configured hmode param before events
  generalize session mode param before events = s at hs haccepted ⊢
  have hnone : ∀ m s, engages id m toSend = false → cancels id toSend = false →
      ButtonsPermitted id m s toSend := by
    intro m s hengages hcancels
    apply ButtonsPermitted.of_engage hcancels
    intro hpressed
    rw [hengages] at hpressed
    cases hpressed
  by_cases hopen : id = .alloutput ∨ id = .elm327
  · rcases hopen with rfl | rfl
    · exact .inl (hnone _ _ rfl rfl)
    · exact .inl (hnone _ _ rfl rfl)
  obtain ⟨hnotAll, hnotElm⟩ := not_or.mp hopen
  obtain ⟨-, hwhite, htx⟩ := hs.accepted hnotAll hnotElm haccepted
  cases id with
  | hondaNidec =>
    have hbus := honda_whitelisted_buttons hs (.inl rfl) hwhite
    exact .inl (hondaTxHook_buttons (.inl rfl) hbus htx)
  | hondaBosch =>
    have hbus := honda_whitelisted_buttons hs (.inr rfl) hwhite
    exact .inl (hondaTxHook_buttons (.inr rfl) hbus htx)
  | gm => exact .inl (gmTxHook_buttons (gm_whitelisted_buttons hs hwhite) htx)
  | hyundai =>
    cases hlong : s.params.hyundai.longitudinal with
    | true => exact .inr ⟨rfl, rfl⟩
    | false => exact .inl (hyundaiTxHook_buttons (.inl rfl) hlong htx)
  | hyundaiLegacy =>
    exact .inl (hyundaiTxHook_buttons (.inr rfl) (hyundaiLegacy_longitudinal hs) htx)
  | hyundaiCanfd => exact .inl (hyundaiCanfdTxHook_buttons htx)
  | ford => exact .inl (fordTxHook_buttons htx)
  | chrysler => exact .inl (chryslerTxHook_buttons (chrysler_addrs_ne hs) htx)
  | mazda =>
    have hbus := mazda_whitelisted_bus hs hwhite
    exact .inl (mazdaTxHook_buttons (fun _ => hbus) htx)
  | nissan => exact .inl (nissanTxHook_buttons htx)
  | tesla => exact .inl (teslaTxHook_buttons (tesla_whitelisted_buttons hs hwhite) htx)
  | volkswagenMqb => exact .inl (volkswagenMqbTxHook_buttons htx)
  | volkswagenPq => exact .inl (volkswagenPqTxHook_buttons htx)
  | nooutput | elm327 | alloutput | body | toyota | subaru | subaruPreglobal =>
    exact .inl (hnone _ _ rfl rfl)

/-- Cruise engaged on a Honda Bosch. -/
def hondaCruiseFrame : CANPacket := .ofBytes 0x17C 1 8 [0, 0, 0, 0, 0x40, 0, 0, 0x1F]

def hondaResumeFrame : CANPacket := .ofBytes 0x296 1 4 [0x80]

/-- Resume is accepted once cruise engaged controls. -/
theorem accepted_buttons_honda :
    engages .hondaBosch (session safetyHondaBosch 0 bootState [.rx 0 hondaCruiseFrame]).params
        hondaResumeFrame = true ∧
      (session safetyHondaBosch 0 bootState
        [.rx 0 hondaCruiseFrame]).signals.controlsAllowed = true := by
  have hmode : registered safetyHondaBosch = some .hondaBosch := by decide
  have haccepted : (session safetyHondaBosch 0 bootState
      [.rx 0 hondaCruiseFrame]).txAccepted 0 hondaResumeFrame = true := by
    decide
  have hengages : engages .hondaBosch (session safetyHondaBosch 0 bootState
      [.rx 0 hondaCruiseFrame]).params hondaResumeFrame = true := by
    decide
  refine ⟨hengages, ?_⟩
  rcases accepted_buttons hmode 0 bootState [.rx 0 hondaCruiseFrame] haccepted with
    hpermitted | ⟨hid, -⟩
  · exact (hpermitted.engage hengages).1
  · cases hid

/-- With openpilot longitudinal control a Hyundai presses resume without controls. -/
example : (session safetyHyundai 4 bootState []).signals.controlsAllowed = false ∧
    (session safetyHyundai 4 bootState []).txAccepted 0 (.ofBytes 0x4F1 0 4 [0x1]) = true := by
  decide

/-! ### Diagnostics -/

end Panda.Safety
