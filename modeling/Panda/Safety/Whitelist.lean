import Panda.Safety.Session

/-!
What the whitelists list. The hooks check a command by its address, and some of
them on one bus only; the whitelist of every variant lists these addresses for
that bus only.
-/

namespace Panda.Safety

/-- The longitudinal messages of Honda are on the whitelist for the powertrain
bus only. -/
theorem honda_whitelisted_bus {id : HooksId} {s : State} (hs : Configured id s)
    (hid : id = .hondaNidec ∨ id = .hondaBosch) {toSend : CANPacket}
    (hwhite : msgAllowed toSend s.cfg.txMsgs = true)
    (haddr : getAddr toSend = 0x30C ∨ getAddr toSend = 0x1FA ∨ getAddr toSend = 0x1DF ∨
      getAddr toSend = 0x1C8) : getBus toSend = hondaGetPtBus s.params.honda := by
  obtain ⟨param, m, v, hparams, htx⟩ := hs.init
  rw [htx] at hwhite
  rw [hparams]
  rcases hid with rfl | rfl
  · have hwhite : msgAllowed toSend hondaNTxMsgs = true := hwhite
    change getBus toSend = 0
    rcases haddr with haddr | haddr | haddr | haddr <;>
      simp_all [msgAllowed, hondaNTxMsgs]
  · have hwhite : msgAllowed toSend (hondaBoschInit param m.honda v.honda).cfg.txMsgs = true :=
      hwhite
    change getBus toSend = hondaGetPtBus (hondaBoschInit param m.honda v.honda).params
    simp only [hondaBoschInit, hondaGetPtBus] at hwhite ⊢
    by_cases hradarless : getFlag param.toNat 8 = true <;>
      by_cases hlong : getFlag param.toNat 2 = true <;>
      rcases haddr with haddr | haddr | haddr | haddr <;>
      simp_all [msgAllowed, hondaRadarlessLongTxMsgs, hondaRadarlessTxMsgs, hondaBoschLongTxMsgs,
        hondaBoschTxMsgs]

/-- The commands of Toyota are on the whitelist for bus 0 only. -/
theorem toyota_whitelisted_bus {param : UInt16} {toSend : CANPacket}
    (hwhite : msgAllowed toSend (toyotaInit param).cfg.txMsgs = true)
    (haddr : getAddr toSend ∈ [0x2E4, 0x191, 0x343, 0x283]) : getBus toSend = 0 := by
  have htxMsgs : (toyotaInit param).cfg.txMsgs = if (toyotaParams param).stockLongitudinal
      then toyotaCommonTxMsgs else toyotaCommonLongTxMsgs := rfl
  rw [htxMsgs] at hwhite
  simp only [List.mem_cons, List.not_mem_nil, or_false] at haddr
  split at hwhite <;> rcases haddr with haddr | haddr | haddr | haddr <;>
    simp_all [msgAllowed, toyotaCommonLongTxMsgs, toyotaCommonTxMsgs]

/-- The second panda of a Tesla lists no steering command. -/
theorem tesla_whitelisted_steering {s : State} (hs : Configured .tesla s) {toSend : CANPacket}
    (hwhite : msgAllowed toSend s.cfg.txMsgs = true) (haddr : getAddr toSend = 0x488) :
    s.params.tesla.powertrain = false := by
  obtain ⟨param, m, v, hparams, htx⟩ := hs.init
  have htesla : s.params.tesla = teslaParams param := by rw [hparams]; rfl
  have htxMsgs : s.cfg.txMsgs = if (teslaParams param).powertrain then teslaPtTxMsgs
      else teslaTxMsgs := by
    rw [htx]
    change (teslaInit param).cfg.txMsgs = _
    simp only [teslaInit]
    split_ifs <;> rfl
  rw [htesla]
  by_contra hpowertrain
  rw [htxMsgs, if_pos (by simpa using hpowertrain)] at hwhite
  simp [msgAllowed, teslaPtTxMsgs, haddr] at hwhite

theorem hyundaiCanfd_txMsgs {s : State} (hs : Configured .hyundaiCanfd s) :
    s.cfg.txMsgs = (hyundaiCanfdConfig s.params.hyundai s.params.hyundaiCanfd).txMsgs := by
  obtain ⟨param, m, v, hparams, htx⟩ := hs.init
  rw [htx, hparams]
  rfl

/-- The whitelist of the CAN-FD mode lists no steering message but the one that
the hook checks and, with HDA2 and openpilot longitudinal, LKAS on bus 0. -/
theorem hyundaiCanfd_whitelisted {p : HyundaiParams} {q : HyundaiCanfdParams}
    {toSend : CANPacket} (hwhite : msgAllowed toSend (hyundaiCanfdConfig p q).txMsgs = true)
    (haddr : getAddr toSend = 0x50 ∨ getAddr toSend = 0x110 ∨ getAddr toSend = 0x12a) :
    getAddr toSend = hyundaiCanfdSteerAddr p q ∨
      (p.canfdHda2 = true ∧ p.longitudinal = true ∧ getAddr toSend = 0x50 ∧ getBus toSend = 0 ∧
        getLen toSend = 16) := by
  unfold hyundaiCanfdConfig at hwhite
  cases hhda2 : p.canfdHda2 <;> cases hlong : p.longitudinal <;>
    cases halt : q.hda2AltSteering <;> cases hcamera : p.cameraScc <;>
    rcases haddr with haddr | haddr | haddr <;>
    simp_all [msgAllowed, hyundaiCanfdSteerAddr, hyundaiCanfdHda2GetLkasAddr,
      hyundaiCanfdHda2TxMsgs, hyundaiCanfdHda2AltSteeringTxMsgs, hyundaiCanfdHda2LongTxMsgs,
      hyundaiCanfdHda1TxMsgs]

end Panda.Safety
