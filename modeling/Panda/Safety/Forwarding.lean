import Panda.Safety.Relay
import Panda.Safety.SteeringWhitelist

/-!
Stock messages and forwarding. The common checks report a relay malfunction
when a message of the stock ECU arrives on bus 0, and the forward hook keeps the
camera's copies of such messages off bus 0. Each mode lists the addresses twice.
The lists agree but for four messages: two that need not be blocked, since with
openpilot longitudinal the radar of a Hyundai is off, and since the second panda
of a Tesla passes on the stock control message unless openpilot replaces it; one
that Honda Bosch cars do not have; and the unchecked message of a Hyundai CAN-FD
car with HDA2.
-/

namespace Panda.Safety

open Library

/-- Once the relay has settled, a message with this address on bus 0 makes the
mode's hook report a stock ECU. -/
def StockEcuDetected (s : State) (addr : Nat) : Prop :=
  ∃ c toPush, 1 < c.safetyModeCnt ∧ getAddr toPush = addr ∧ getBus toPush = 0 ∧
    (s.hooks.rx c s.params toPush
      ({ s.signals with relayMalfunction := false }, s.vars)).1.relayMalfunction = true

/-- The whitelist has a steering command with this address for bus 0. -/
def SteeringWhitelisted (s : State) (addr : Nat) : Prop :=
  ∃ toSend, getAddr toSend = addr ∧ getBus toSend = 0 ∧
    (steeringActuation s.currentHooks s.params toSend).isSome = true ∧
    msgAllowed toSend s.cfg.txMsgs = true

/-- The messages that the forward hook lets through to bus 0 although they are
stock or steering messages there. -/
def ForwardedStockMessage (s : State) (addr : Nat) : Prop :=
  match s.currentHooks with
  | .hondaBosch => addr = 0x194
  | .hyundai => s.params.hyundai.longitudinal = true ∧ addr = 0x421
  | .tesla => s.params.tesla.powertrain = true ∧ addr = 0x2bf ∧
      (s.params.tesla.longitudinal = false ∨ s.vars.tesla.stockAeb = true)
  | .hyundaiCanfd => s.params.hyundai.canfdHda2 = true ∧ s.params.hyundai.longitudinal = true ∧
      s.params.hyundaiCanfd.hda2AltSteering = true ∧ addr = 0x50
  | _ => False

/-! ### Detection -/

/-- What the common checks of a mode get as `stock_ecu_detected`. -/
def stockEcuDetected (id : HooksId) (m : ModeParams) (addr bus : Nat) : Bool :=
  match id with
  | .nooutput | .elm327 | .alloutput | .body => false
  | .hondaNidec | .hondaBosch => hondaStockEcuDetected m.honda addr bus
  | .toyota => bus == 0 && toyotaStockEcuDetected m.toyota addr
  | .gm => bus == 0 && gmStockEcuDetected m.gm addr
  | .ford => bus == fordMainBus &&
      (fordLkasMsgCheck addr || (m.ford.longitudinal && addr == fordAccdata))
  | .tesla => bus == 0 && addr == if m.tesla.powertrain then 0x2bf else 0x488
  | .hyundai | .hyundaiLegacy => bus == 0 && hyundaiStockEcuDetected m.hyundai addr
  | .hyundaiCanfd => hyundaiCanfdStockEcuDetected m.hyundai m.hyundaiCanfd addr bus
  | .chrysler => bus == 0 && addr == m.chrysler.addrs.lkasCommand
  | .subaru => bus == subaruMainBus && addr == subaruEsLkas
  | .subaruPreglobal => bus == subaruPgMainBus && addr == subaruPgEsLkas
  | .mazda => bus == mazdaMain && addr == mazdaLkas
  | .nissan => bus == 0 && addr == 0x169
  | .volkswagenMqb => bus == 0 && addr == msgHca01
  | .volkswagenPq => bus == 0 && addr == msgHca1

theorem rx_stockEcuDetected {id : HooksId} {c : Context} {m : ModeParams} {toPush : CANPacket}
    {s : Signals} {v : ModeVars} (hs : s.relayMalfunction = false)
    (h : ((hooksOf id).rx c m toPush (s, v)).1.relayMalfunction = true) :
    stockEcuDetected id m (getAddr toPush) (getBus toPush) = true := by
  cases id with
  | nooutput | elm327 | alloutput =>
      have h : s.relayMalfunction = true := h
      simp [hs] at h
  | body =>
      have h : (bodyRxHook toPush s).relayMalfunction = true := h
      simp [bodyRxHook, hs] at h
  | hondaNidec | hondaBosch =>
      have h : (hondaRxHook c m.honda toPush (s, v.honda)).1.relayMalfunction = true := h
      simp [hondaRxHook, hondaRxBrake, hondaRxButtons, hondaRxPcmCruise, genericRxChecks, hs] at h
      exact h.2
  | toyota =>
      have h : (toyotaRxHook c m.toyota toPush s).relayMalfunction = true := h
      simp [toyotaRxHook, toyotaRxSteering, updateVehicleSpeed, pcmCruiseCheck,
        genericRxChecks, hs] at h
      simpa [stockEcuDetected] using ⟨h.1, h.2.2⟩
  | gm =>
      have h : (gmRxHook c m.gm toPush s).relayMalfunction = true := h
      simp [gmRxHook, gmRxButtons, pcmCruiseCheck, genericRxChecks, hs] at h
      simpa [stockEcuDetected] using ⟨h.1, h.2.2⟩
  | ford =>
      have h : (fordRxHook c m.ford toPush s).relayMalfunction = true := h
      simp [fordRxHook, fordRxBrakeCruise, fordRxYawRate, fordRxSecondSpeed, updateVehicleSpeed,
        pcmCruiseCheck, genericRxChecks, hs] at h
      simpa [stockEcuDetected] using ⟨h.1, h.2.2⟩
  | tesla =>
      have h : (teslaRxHook c m.tesla toPush (s, v.tesla)).1.relayMalfunction = true := h
      simp [teslaRxHook, updateVehicleSpeed, pcmCruiseCheck, genericRxChecks, hs] at h
      simp only [stockEcuDetected]
      grind
  | hyundai | hyundaiLegacy =>
      have h : (hyundaiRxHook c m.hyundai toPush (s, v.hyundai)).1.relayMalfunction = true := h
      simp [hyundaiRxHook, hyundaiCommonCruiseStateCheck, hyundaiRxGas, genericRxChecks, hs] at h
      simpa [stockEcuDetected] using ⟨h.1, h.2.2⟩
  | hyundaiCanfd =>
      have h : (hyundaiCanfdRxHook c (m.hyundai, m.hyundaiCanfd) toPush
        (s, v.hyundai)).1.relayMalfunction = true := h
      simp [hyundaiCanfdRxHook, hyundaiCommonCruiseStateCheck, hyundaiCanfdRxGas,
        genericRxChecks, hs] at h
      exact h.2
  | chrysler =>
      have h : (chryslerRxHook c m.chrysler toPush s).relayMalfunction = true := h
      simp [chryslerRxHook, pcmCruiseCheck, genericRxChecks, hs] at h
      simpa [stockEcuDetected] using h.2
  | subaru =>
      have h : (subaruRxHook c m.subaru toPush s).relayMalfunction = true := h
      simp [subaruRxHook, subaruRxSteeringTorque, subaruRxWheelSpeeds, updateVehicleSpeed,
        pcmCruiseCheck, genericRxChecks, hs] at h
      simpa [stockEcuDetected] using h.2.symm
  | subaruPreglobal =>
      have h : (subaruPreglobalRxHook c m.subaruPreglobal toPush s).relayMalfunction = true := h
      simp [subaruPreglobalRxHook, pcmCruiseCheck, genericRxChecks, hs] at h
      simpa [stockEcuDetected] using ⟨h.1, h.2.2⟩
  | mazda =>
      have h : (mazdaRxHook c toPush s).relayMalfunction = true := h
      simp [mazdaRxHook, pcmCruiseCheck, genericRxChecks, hs] at h
      simpa [stockEcuDetected] using ⟨h.1, h.2.2⟩
  | nissan =>
      have h : (nissanRxHook c m.nissan toPush s).relayMalfunction = true := h
      simp [nissanRxHook, nissanRxGas, nissanRxBrake, updateVehicleSpeed, pcmCruiseCheck,
        genericRxChecks, hs] at h
      simpa [stockEcuDetected] using h.2.symm
  | volkswagenMqb =>
      have h : (volkswagenMqbRxHook c m.volkswagen toPush
        (s, v.volkswagen, v.volkswagenMqb)).1.relayMalfunction = true := h
      simp [volkswagenMqbRxHook, volkswagenMqbRxAccStatus, volkswagenMqbRxButtons,
        volkswagenMqbRxBrake, volkswagenButtons, pcmCruiseCheck, genericRxChecks, hs] at h
      simpa [stockEcuDetected] using ⟨h.1, h.2.2⟩
  | volkswagenPq =>
      have h : (volkswagenPqRxHook c m.volkswagen toPush (s, v.volkswagen)).1.relayMalfunction =
        true := h
      simp [volkswagenPqRxHook, volkswagenPqRxMainSwitch, volkswagenPqRxButtons,
        volkswagenButtons, pcmCruiseCheck, genericRxChecks, hs] at h
      simpa [stockEcuDetected] using ⟨h.1, h.2.2⟩

theorem StockEcuDetected.addr {s : State} {addr : Nat} (h : StockEcuDetected s addr) :
    stockEcuDetected s.currentHooks s.params addr 0 = true := by
  obtain ⟨c, toPush, -, haddr, hbus, hraised⟩ := h
  rw [← haddr, ← hbus]
  exact rx_stockEcuDetected rfl hraised

/-! ### Blocking -/

/-- The hook of the mode keeps the message from the camera off the car's bus. -/
def BlockedFromCamera (s : State) (addr : Nat) : Prop :=
  s.hooks.fwd s.params s.vars 2 addr = -1

theorem hondaNidec_params {s : State} (hs : Configured .hondaNidec s) :
    s.params.honda.hw = .nidec ∧ s.params.honda.boschLong = false := by
  obtain ⟨param, m, v, hparams, -⟩ := hs.init
  rw [hparams]
  exact ⟨rfl, rfl⟩

theorem hondaBosch_params {s : State} (hs : Configured .hondaBosch s) :
    s.params.honda.hw = .bosch := by
  obtain ⟨param, m, v, hparams, -⟩ := hs.init
  rw [hparams]
  rfl

theorem gm_pcmCruise {s : State} (hs : Configured .gm s) :
    s.params.gm.pcmCruise = (s.params.gm.hw == .cam && !s.params.gm.camLong) := by
  obtain ⟨param, m, v, hparams, -⟩ := hs.init
  rw [hparams]
  rfl

theorem hyundaiLegacy_longitudinal {s : State} (hs : Configured .hyundaiLegacy s) :
    s.params.hyundai.longitudinal = false := by
  obtain ⟨param, m, v, hparams, -⟩ := hs.init
  rw [hparams]
  rfl

/-! One lemma for each mode: the forward hook keeps the messages of the stock ECU off bus 0. -/

section Modes

variable {m : ModeParams} {addr : Nat}

theorem hondaNidec_stock_blocked (v : HondaVars) (hhw : m.honda.hw = .nidec)
    (hlong : m.honda.boschLong = false) (hstock : stockEcuDetected .hondaNidec m addr 0 = true) :
    hondaNidecFwdHook v 2 addr = -1 := by
  simp [stockEcuDetected, hondaStockEcuDetected, hhw, hlong] at hstock
  simp [hondaNidecFwdHook]
  grind

theorem hondaBosch_stock_blocked (hhw : m.honda.hw = .bosch)
    (hstock : stockEcuDetected .hondaBosch m addr 0 = true) (hforwarded : addr ≠ 0x194) :
    hondaBoschFwdHook m.honda 2 addr = -1 := by
  simp [stockEcuDetected, hondaStockEcuDetected, hondaGetPtBus, hhw] at hstock
  simp [hondaBoschFwdHook]
  grind

theorem toyota_stock_blocked (hstock : stockEcuDetected .toyota m addr 0 = true) :
    toyotaFwdHook m.toyota 2 addr = -1 := by
  simp [stockEcuDetected, toyotaStockEcuDetected] at hstock
  simp [toyotaFwdHook]
  grind

theorem gm_stock_blocked (hpcmCruise : m.gm.pcmCruise = (m.gm.hw == .cam && !m.gm.camLong))
    (hstock : stockEcuDetected .gm m addr 0 = true) : gmFwdHook m.gm 2 addr = -1 := by
  simp [stockEcuDetected, gmStockEcuDetected, hpcmCruise] at hstock
  simp [gmFwdHook]
  grind

theorem ford_stock_blocked (hstock : stockEcuDetected .ford m addr 0 = true) :
    fordFwdHook m.ford 2 addr = -1 := by
  simp [stockEcuDetected] at hstock
  simp [fordFwdHook]
  grind

theorem tesla_stock_blocked (v : TeslaVars) (hstock : stockEcuDetected .tesla m addr 0 = true)
    (hforwarded : ¬ (m.tesla.powertrain = true ∧ addr = 0x2bf ∧
      (m.tesla.longitudinal = false ∨ v.stockAeb = true))) :
    teslaFwdHook m.tesla v 2 addr = -1 := by
  simp [stockEcuDetected] at hstock
  simp [teslaFwdHook, teslaDasControlAddr]
  grind

theorem hyundai_stock_blocked (hstock : stockEcuDetected .hyundai m addr 0 = true)
    (hforwarded : ¬ (m.hyundai.longitudinal = true ∧ addr = 0x421)) :
    hyundaiFwdHook 2 addr = -1 := by
  simp [stockEcuDetected, hyundaiStockEcuDetected] at hstock
  simp [hyundaiFwdHook]
  grind

theorem hyundaiCanfd_stock_blocked (hstock : stockEcuDetected .hyundaiCanfd m addr 0 = true) :
    hyundaiCanfdFwdHook (m.hyundai, m.hyundaiCanfd) 2 addr = -1 := by
  simp [stockEcuDetected, hyundaiCanfdStockEcuDetected, hyundaiCanfdPtBus] at hstock
  simp [hyundaiCanfdFwdHook]
  grind

/-! The other modes have one such message, the steering command. -/

theorem chrysler_steering_blocked (p : ChryslerParams) :
    chryslerFwdHook p 2 p.addrs.lkasCommand = -1 := by
  simp [chryslerFwdHook]

theorem subaru_steering_blocked (p : SubaruParams) : subaruFwdHook p 2 subaruEsLkas = -1 := by
  simp [subaruFwdHook, subaruMainBus, subaruCamBus]

theorem subaruPreglobal_steering_blocked : subaruPreglobalFwdHook 2 subaruPgEsLkas = -1 := by
  simp [subaruPreglobalFwdHook, subaruPgMainBus, subaruPgCamBus]

theorem mazda_steering_blocked : mazdaFwdHook 2 mazdaLkas = -1 := by
  simp [mazdaFwdHook, mazdaMain, mazdaCam]

theorem nissan_steering_blocked : nissanFwdHook 2 (0x169 : Nat) = -1 := by
  simp [nissanFwdHook]

theorem volkswagenMqb_steering_blocked (p : VolkswagenParams) :
    volkswagenMqbFwdHook p 2 msgHca01 = -1 := by
  simp [volkswagenMqbFwdHook]

theorem volkswagenPq_steering_blocked (p : VolkswagenParams) :
    volkswagenPqFwdHook p 2 msgHca1 = -1 := by
  simp [volkswagenPqFwdHook]

end Modes

theorem stock_blocked {id : HooksId} {s : State} (hs : Configured id s) {addr : Nat}
    (hstock : stockEcuDetected id s.params addr 0 = true)
    (hforwarded : ¬ ForwardedStockMessage s addr) : BlockedFromCamera s addr := by
  have hid := hs.currentHooks
  unfold BlockedFromCamera State.hooks
  unfold ForwardedStockMessage at hforwarded
  rw [hid] at hforwarded ⊢
  cases id with
  | nooutput | elm327 | alloutput | body => cases hstock
  | hondaNidec =>
      obtain ⟨hhw, hlong⟩ := hondaNidec_params hs
      exact hondaNidec_stock_blocked s.vars.honda hhw hlong hstock
  | hondaBosch => exact hondaBosch_stock_blocked (hondaBosch_params hs) hstock hforwarded
  | toyota => exact toyota_stock_blocked hstock
  | gm => exact gm_stock_blocked (gm_pcmCruise hs) hstock
  | ford => exact ford_stock_blocked hstock
  | tesla => exact tesla_stock_blocked s.vars.tesla hstock hforwarded
  | hyundai => exact hyundai_stock_blocked hstock hforwarded
  | hyundaiLegacy =>
      have hlong := hyundaiLegacy_longitudinal hs
      exact hyundai_stock_blocked hstock (by simp [hlong])
  | hyundaiCanfd => exact hyundaiCanfd_stock_blocked hstock
  | chrysler =>
      obtain rfl : addr = s.params.chrysler.addrs.lkasCommand := by
        simpa [stockEcuDetected] using hstock
      exact chrysler_steering_blocked s.params.chrysler
  | subaru =>
      obtain ⟨-, rfl⟩ : _ ∧ addr = subaruEsLkas := by simpa [stockEcuDetected] using hstock
      exact subaru_steering_blocked s.params.subaru
  | subaruPreglobal =>
      obtain ⟨-, rfl⟩ : _ ∧ addr = subaruPgEsLkas := by simpa [stockEcuDetected] using hstock
      exact subaruPreglobal_steering_blocked
  | mazda =>
      obtain ⟨-, rfl⟩ : _ ∧ addr = mazdaLkas := by simpa [stockEcuDetected] using hstock
      exact mazda_steering_blocked
  | nissan =>
      obtain rfl : addr = 0x169 := by simpa [stockEcuDetected] using hstock
      exact nissan_steering_blocked
  | volkswagenMqb =>
      obtain rfl : addr = msgHca01 := by simpa [stockEcuDetected] using hstock
      exact volkswagenMqb_steering_blocked s.params.volkswagen
  | volkswagenPq =>
      obtain rfl : addr = msgHca1 := by simpa [stockEcuDetected] using hstock
      exact volkswagenPq_steering_blocked s.params.volkswagen

/-- The Bosch whitelists have no steering command but 0xE4. -/
theorem hondaBosch_whitelisted_steering {s : State} (hs : Configured .hondaBosch s)
    {toSend : CANPacket} (hwhite : msgAllowed toSend s.cfg.txMsgs = true) :
    getAddr toSend ≠ 0x194 := by
  obtain ⟨param, m, v, -, htx⟩ := hs.init
  rw [htx] at hwhite
  have hwhite : msgAllowed toSend (hondaBoschInit param m.honda v.honda).cfg.txMsgs = true :=
    hwhite
  intro haddr
  simp only [hondaBoschInit] at hwhite
  split_ifs at hwhite <;>
    simp [msgAllowed, hondaRadarlessLongTxMsgs, hondaRadarlessTxMsgs, hondaBoschLongTxMsgs,
      hondaBoschTxMsgs, haddr] at hwhite

/-- The whitelist for HDA2 with openpilot longitudinal has LFA for bus 1. -/
theorem hyundaiCanfd_whitelisted_lfa {p : HyundaiParams} {q : HyundaiCanfdParams}
    {toSend : CANPacket} (hhda2 : p.canfdHda2 = true) (hlong : p.longitudinal = true)
    (hwhite : msgAllowed toSend (hyundaiCanfdConfig p q).txMsgs = true)
    (haddr : getAddr toSend = 0x12a) : getBus toSend = 1 := by
  simp [hyundaiCanfdConfig, hhda2, hlong, msgAllowed, hyundaiCanfdHda2LongTxMsgs, haddr] at hwhite
  omega

theorem hyundaiCanfd_steering_blocked {s : State} (hs : Configured .hyundaiCanfd s) {addr : Nat}
    (hsteering : SteeringWhitelisted s addr) (hforwarded : ¬ ForwardedStockMessage s addr) :
    hyundaiCanfdFwdHook (s.params.hyundai, s.params.hyundaiCanfd) 2 addr = -1 := by
  obtain ⟨toSend, rfl, hbus, hsome, hwhite⟩ := hsteering
  unfold ForwardedStockMessage at hforwarded
  rw [hs.currentHooks] at hforwarded hsome
  simp only [steeringActuation, Option.isSome_ite] at hsome
  rw [hyundaiCanfd_txMsgs hs] at hwhite
  cases hhda2 : s.params.hyundai.canfdHda2 with
  | false =>
      have haddr := hyundaiCanfd_whitelisted hwhite hsome
      simp [hhda2, hyundaiCanfdSteerAddr] at haddr
      simp [hyundaiCanfdFwdHook, hhda2, haddr]
  | true =>
      cases hlong : s.params.hyundai.longitudinal with
      | false =>
          have haddr := hyundaiCanfd_whitelisted hwhite hsome
          simp [hhda2, hlong, hyundaiCanfdSteerAddr] at haddr
          simp [hyundaiCanfdFwdHook, hhda2, haddr]
      | true =>
          have haddr := hyundaiCanfd_whitelisted hwhite hsome
          have hlfa := hyundaiCanfd_whitelisted_lfa hhda2 hlong hwhite
          simp [hhda2, hlong, hyundaiCanfdSteerAddr] at haddr
          simp [hhda2, hlong] at hforwarded
          simp [hyundaiCanfdFwdHook, hyundaiCanfdHda2GetLkasAddr, hhda2]
          grind

theorem steering_blocked {id : HooksId} {s : State} (hs : Configured id s) {addr : Nat}
    (hsteering : SteeringWhitelisted s addr) (hforwarded : ¬ ForwardedStockMessage s addr) :
    BlockedFromCamera s addr := by
  have hid := hs.currentHooks
  unfold BlockedFromCamera State.hooks
  by_cases hcanfd : id = .hyundaiCanfd
  · subst hcanfd
    rw [hid]
    exact hyundaiCanfd_steering_blocked hs hsteering hforwarded
  obtain ⟨toSend, rfl, hbus, hsome, hwhite⟩ := hsteering
  rw [hid] at hsome ⊢
  cases id with
  | nooutput | elm327 | alloutput | body => cases hsome
  | hyundaiCanfd => exact absurd rfl hcanfd
  | hondaNidec =>
      change hondaNidecFwdHook _ 2 _ = -1
      simp only [steeringActuation, Option.isSome_ite] at hsome
      rcases hsome with haddr | haddr
      · simp [hondaNidecFwdHook, haddr]
      · simp [hondaNidecFwdHook, haddr]
  | hondaBosch =>
      change hondaBoschFwdHook s.params.honda 2 _ = -1
      simp only [steeringActuation, Option.isSome_ite] at hsome
      have haddr := hsome.resolve_right (hondaBosch_whitelisted_steering hs hwhite)
      simp [hondaBoschFwdHook, haddr]
  | toyota =>
      change toyotaFwdHook s.params.toyota 2 _ = -1
      simp [steeringActuation] at hsome
      simp [toyotaFwdHook]
      grind
  | tesla =>
      change teslaFwdHook s.params.tesla s.vars.tesla 2 _ = -1
      simp only [steeringActuation, Option.isSome_ite] at hsome
      have hpowertrain := tesla_whitelisted_steering hs hwhite hsome
      simp [teslaFwdHook, hsome, hpowertrain]
  | nissan =>
      simp only [steeringActuation, Option.isSome_ite] at hsome
      exact hsome ▸ nissan_steering_blocked
  | ford =>
      change fordFwdHook s.params.ford 2 _ = -1
      simp [steeringActuation] at hsome
      simp [fordFwdHook, fordLkasMsgCheck, fordMainBus, fordCamBus]
      grind
  | gm =>
      change gmFwdHook s.params.gm 2 _ = -1
      simp only [steeringActuation, Option.isSome_ite] at hsome
      simp [gmFwdHook, hsome]
  | hyundai | hyundaiLegacy =>
      change hyundaiFwdHook 2 _ = -1
      simp only [steeringActuation, Option.isSome_ite] at hsome
      simp [hyundaiFwdHook, hsome]
  | chrysler =>
      simp only [steeringActuation, Option.isSome_ite] at hsome
      exact hsome ▸ chrysler_steering_blocked s.params.chrysler
  | subaru =>
      simp only [steeringActuation, Option.isSome_ite] at hsome
      exact hsome ▸ subaru_steering_blocked s.params.subaru
  | subaruPreglobal =>
      simp only [steeringActuation, Option.isSome_ite] at hsome
      exact hsome ▸ subaruPreglobal_steering_blocked
  | mazda =>
      simp only [steeringActuation, Option.isSome_ite] at hsome
      exact hsome ▸ mazda_steering_blocked
  | volkswagenMqb =>
      simp only [steeringActuation, Option.isSome_ite] at hsome
      exact hsome ▸ volkswagenMqb_steering_blocked s.params.volkswagen
  | volkswagenPq =>
      simp only [steeringActuation, Option.isSome_ite] at hsome
      exact hsome ▸ volkswagenPq_steering_blocked s.params.volkswagen

/-! ### Sessions -/

/-- In every session of every mode: a message that the mode takes for the stock
ECU's when it arrives on bus 0, and a steering command that the whitelist has
for bus 0, are not forwarded from the camera, but for the four exceptions. -/
theorem stock_messages_not_forwarded {mode : UInt16} {id : HooksId}
    (hmode : registered mode = some id) (param : UInt16) (before : State) (events : List Event)
    {addr : Nat}
    (hstock : StockEcuDetected (session mode param before events) addr ∨
      SteeringWhitelisted (session mode param before events) addr)
    (hforwarded : ¬ ForwardedStockMessage (session mode param before events) addr) :
    safetyFwdHook 2 addr (session mode param before events) = -1 := by
  have hs := session_configured hmode param before events
  have hblocked : BlockedFromCamera (session mode param before events) addr := by
    rcases hstock with hdetected | hsteering
    · have haddr := hdetected.addr
      rw [hs.currentHooks] at haddr
      exact stock_blocked hs haddr hforwarded
    · exact steering_blocked hs hsteering hforwarded
  unfold safetyFwdHook
  split
  · rfl
  · exact hblocked

/-- Toyota reports and blocks the stock steering command. -/
theorem stock_messages_not_forwarded_toyota :
    safetyFwdHook 2 (0x2E4 : Nat) (session safetyToyota 0 bootState []) = -1 := by
  have hmode : registered safetyToyota = some .toyota := by decide
  have hdetected : StockEcuDetected (session safetyToyota 0 bootState []) 0x2E4 := by
    refine ⟨⟨0, 2, 0⟩, .ofBytes 0x2E4 0 5 [], ?_, rfl, rfl, ?_⟩
    · decide
    · decide
  exact stock_messages_not_forwarded hmode 0 bootState [] (Or.inl hdetected) id

/-- The second panda of a Tesla with openpilot longitudinal, after the stock
control message announced automatic emergency braking. -/
def teslaStockAebRun : List Event := [.rx 0 (.ofBytes 0x2bf 2 8 [0, 0, 1])]

/-- Each exception is a message that is taken for the stock ECU's, or a steering
command on the whitelist, and forwarded. -/
theorem stock_messages_forwarded :
    (StockEcuDetected (session safetyHyundai 4 bootState []) 0x421 ∧
        safetyFwdHook 2 0x421 (session safetyHyundai 4 bootState []) = 0) ∧
      (StockEcuDetected (session safetyTesla 1 bootState []) 0x2bf ∧
        safetyFwdHook 2 0x2bf (session safetyTesla 1 bootState []) = 0) ∧
      (StockEcuDetected (session safetyTesla 3 bootState teslaStockAebRun) 0x2bf ∧
        safetyFwdHook 2 0x2bf (session safetyTesla 3 bootState teslaStockAebRun) = 0) ∧
      (StockEcuDetected (session safetyHondaBosch 0 bootState []) 0x194 ∧
        safetyFwdHook 2 0x194 (session safetyHondaBosch 0 bootState []) = 0) ∧
      (SteeringWhitelisted (session safetyHyundaiCanfd 148 bootState []) 0x50 ∧
        safetyFwdHook 2 0x50 (session safetyHyundaiCanfd 148 bootState []) = 0) := by
  have hsettled : 1 < (⟨0, 2, 0⟩ : Context).safetyModeCnt := by decide
  refine ⟨⟨⟨⟨0, 2, 0⟩, .ofBytes 0x421 0 8 [], hsettled, rfl, rfl, ?_⟩, ?_⟩,
    ⟨⟨⟨0, 2, 0⟩, .ofBytes 0x2bf 0 8 [], hsettled, rfl, rfl, ?_⟩, ?_⟩,
    ⟨⟨⟨0, 2, 0⟩, .ofBytes 0x2bf 0 8 [], hsettled, rfl, rfl, ?_⟩, ?_⟩,
    ⟨⟨⟨0, 2, 0⟩, .ofBytes 0x194 0 4 [], hsettled, rfl, rfl, ?_⟩, ?_⟩,
    ⟨⟨hda2LkasFrame, rfl, rfl, ?_, ?_⟩, ?_⟩⟩ <;> decide

end Panda.Safety
