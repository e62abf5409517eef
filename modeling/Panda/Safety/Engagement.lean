import Panda.Safety.Session

/-!
What can turn controls on. Each mode reads engagement from one or two
messages, which its receive hook recognises by address and bus. The check list
recognises messages by address, bus and length, and passes a message that it
does not know to the hook. So a message that turns controls on is one of the
mode's engagement messages, and it is either vouched for by a check or unknown
to all of them.
-/

namespace Panda.Safety

open Library

/-! ### Lowering

Most statements of a receive hook can only turn controls off. -/

theorem genericRxChecks_lowers {c : Context} {stockEcuDetected : Bool} {s : Signals}
    (h : (genericRxChecks c stockEcuDetected s).controlsAllowed = true) :
    s.controlsAllowed = true := by
  simp only [genericRxChecks, Bool.and_eq_true] at h
  exact h.1.1.1

@[simp] theorem updateVehicleSpeed_controlsAllowed (valMs : ℚ) (s : Signals) :
    (updateVehicleSpeed valMs s).controlsAllowed = s.controlsAllowed := rfl

/-! ### Engagement messages -/

/-- The messages whose reception can turn controls on, as the mode's hook
recognises them. -/
def EngagementMessage (id : HooksId) (m : ModeParams) (toPush : CANPacket) : Prop :=
  let addr := getAddr toPush
  let bus := getBus toPush
  match id with
  | .nooutput | .elm327 | .alloutput => False
  | .hondaNidec | .hondaBosch =>
      (hondaPcmCruise m.honda ∧ addr = 0x17C) ∨
        (¬ hondaPcmCruise m.honda ∧ (addr = 0x1A6 ∨ addr = 0x296) ∧
          bus = hondaGetPtBus m.honda)
  | .toyota => bus = 0 ∧ addr = 0x1D2
  | .gm => bus = 0 ∧ addr = if m.gm.pcmCruise then 0x1C4 else 0x1E1
  | .ford => bus = fordMainBus ∧ addr = fordEngBrakeData
  | .tesla => bus = 0 ∧ addr = if m.tesla.powertrain then 0x256 else 0x368
  | .hyundai | .hyundaiLegacy =>
      if m.hyundai.longitudinal then bus = 0 ∧ addr = 0x4F1
      else hyundaiIsScc12 m.hyundai addr bus
  | .hyundaiCanfd =>
      if m.hyundai.longitudinal then
        bus = hyundaiCanfdPtBus m.hyundai ∧ addr = hyundaiCanfdButtonAddr m.hyundaiCanfd
      else bus = hyundaiCanfdSccBus m.hyundai ∧ addr = 0x1a0
  | .chrysler => bus = chryslerDas3Bus m.chrysler ∧ addr = m.chrysler.addrs.das3
  | .subaru => bus = subaruAltMainBus m.subaru ∧ addr = subaruCruiseControl
  | .subaruPreglobal => bus = subaruPgMainBus ∧ addr = subaruPgCruiseControl
  | .mazda => bus = mazdaMain ∧ addr = mazdaCrzCtrl
  | .nissan => bus = nissanCruiseBus m.nissan ∧ addr = 0x30f
  | .volkswagenMqb =>
      bus = 0 ∧ addr = if m.volkswagen.longitudinal then msgGraAcc01 else msgTsk06
  | .volkswagenPq =>
      bus = 0 ∧ addr = if m.volkswagen.longitudinal then msgGraNeu else msgMotor2
  | .body => addr = 0x201

theorem hondaRxHook_lowers {c : Context} {p : HondaParams} {toPush : CANPacket}
    {sv : Signals × HondaVars}
    (hpcm : ¬ (hondaPcmCruise p ∧ getAddr toPush = 0x17C))
    (hbuttons : ¬ (¬ hondaPcmCruise p ∧ (getAddr toPush = 0x1A6 ∨ getAddr toPush = 0x296) ∧
      getBus toPush = hondaGetPtBus p))
    (h : (hondaRxHook c p toPush sv).1.controlsAllowed = true) :
    sv.1.controlsAllowed = true := by
  unfold hondaRxHook at h
  have h := genericRxChecks_lowers h
  simp [hpcm, hondaRxBrake, hondaRxButtons] at h
  grind

theorem toyotaRxHook_lowers {c : Context} {p : ToyotaParams} {toPush : CANPacket} {s : Signals}
    (hmsg : ¬ (getBus toPush = 0 ∧ getAddr toPush = 0x1D2))
    (h : (toyotaRxHook c p toPush s).controlsAllowed = true) : s.controlsAllowed = true := by
  unfold toyotaRxHook at h
  by_cases hbus : getBus toPush = 0
  · rw [guarded_of_pos hbus] at h
    have haddr : getAddr toPush ≠ 0x1D2 := fun haddr => hmsg ⟨hbus, haddr⟩
    simpa [haddr, toyotaRxSteering] using genericRxChecks_lowers h
  · rwa [guarded_of_neg hbus] at h

theorem gmRxHook_lowers {c : Context} {p : GmParams} {toPush : CANPacket} {s : Signals}
    (hmsg : ¬ (getBus toPush = 0 ∧ getAddr toPush = if p.pcmCruise then 0x1C4 else 0x1E1))
    (h : (gmRxHook c p toPush s).controlsAllowed = true) : s.controlsAllowed = true := by
  unfold gmRxHook at h
  by_cases hbus : getBus toPush = 0
  · rw [guarded_of_pos hbus] at h
    have h := genericRxChecks_lowers h
    by_cases hpcm : p.pcmCruise = true
    · have haddr : getAddr toPush ≠ 0x1C4 := fun haddr => hmsg ⟨hbus, by simp [hpcm, haddr]⟩
      simpa [haddr, hpcm] using h
    · have haddr : getAddr toPush ≠ 0x1E1 := fun haddr => hmsg ⟨hbus, by simp [hpcm, haddr]⟩
      simpa [haddr, hpcm] using h
  · rwa [guarded_of_neg hbus] at h

theorem fordRxHook_lowers {c : Context} {p : FordParams} {toPush : CANPacket} {s : Signals}
    (hmsg : ¬ (getBus toPush = fordMainBus ∧ getAddr toPush = fordEngBrakeData))
    (h : (fordRxHook c p toPush s).controlsAllowed = true) : s.controlsAllowed = true := by
  unfold fordRxHook at h
  by_cases hbus : getBus toPush = fordMainBus
  · rw [guarded_of_pos hbus] at h
    have haddr : getAddr toPush ≠ fordEngBrakeData := fun haddr => hmsg ⟨hbus, haddr⟩
    have h := genericRxChecks_lowers h
    simp [haddr, fordRxYawRate, fordRxSecondSpeed] at h
    grind
  · rwa [guarded_of_neg hbus] at h

theorem teslaRxHook_lowers {c : Context} {p : TeslaParams} {toPush : CANPacket}
    {sv : Signals × TeslaVars}
    (hmsg : ¬ (getBus toPush = 0 ∧ getAddr toPush = if p.powertrain then 0x256 else 0x368))
    (h : (teslaRxHook c p toPush sv).1.controlsAllowed = true) :
    sv.1.controlsAllowed = true := by
  unfold teslaRxHook at h
  simpa [hmsg] using genericRxChecks_lowers h

theorem hyundaiRxHook_lowers {c : Context} {p : HyundaiParams} {toPush : CANPacket}
    {sv : Signals × HyundaiVars}
    (hmsg : ¬ if p.longitudinal then getBus toPush = 0 ∧ getAddr toPush = 0x4F1
      else hyundaiIsScc12 p (getAddr toPush) (getBus toPush))
    (h : (hyundaiRxHook c p toPush sv).1.controlsAllowed = true) :
    sv.1.controlsAllowed = true := by
  unfold hyundaiRxHook at h
  by_cases hlong : p.longitudinal = true
  · by_cases hbus : getBus toPush = 0
    · rw [guarded_of_pos hbus] at h
      have haddr : getAddr toPush ≠ 0x4F1 := by
        intro haddr
        simp [hlong, hbus, haddr] at hmsg
      have h := genericRxChecks_lowers h
      simpa [hlong, haddr, hyundaiRxGas, hyundaiCommonCruiseStateCheck] using h
    · rw [guarded_of_neg hbus] at h
      simpa [hlong, hyundaiCommonCruiseStateCheck] using h
  · have hscc : hyundaiIsScc12 p (getAddr toPush) (getBus toPush) = false := by
      simpa [hlong] using hmsg
    by_cases hbus : getBus toPush = 0
    · rw [guarded_of_pos hbus] at h
      have h := genericRxChecks_lowers h
      simpa [hlong, hscc, hyundaiRxGas, hyundaiCommonCruiseButtonsCheck] using h
    · rw [guarded_of_neg hbus] at h
      simpa [hscc] using h

theorem hyundaiCanfdRxButtons_stock {p : HyundaiParams} (hlong : ¬ p.longitudinal = true)
    (toPush : CANPacket) (sv : Signals × HyundaiVars) :
    (hyundaiCanfdRxButtons p toPush sv).1.controlsAllowed = sv.1.controlsAllowed := by
  unfold hyundaiCanfdRxButtons
  split <;> simp [hyundaiCommonCruiseButtonsCheck, hlong]

theorem hyundaiCanfdRxHook_lowers {c : Context} {p : HyundaiParams} {q : HyundaiCanfdParams}
    {toPush : CANPacket} {sv : Signals × HyundaiVars}
    (hmsg : ¬ if p.longitudinal then
        getBus toPush = hyundaiCanfdPtBus p ∧ getAddr toPush = hyundaiCanfdButtonAddr q
      else getBus toPush = hyundaiCanfdSccBus p ∧ getAddr toPush = 0x1a0)
    (h : (hyundaiCanfdRxHook c (p, q) toPush sv).1.controlsAllowed = true) :
    sv.1.controlsAllowed = true := by
  unfold hyundaiCanfdRxHook at h
  have h := genericRxChecks_lowers h
  by_cases hlong : p.longitudinal = true
  · have hbuttons : getBus toPush = hyundaiCanfdPtBus p →
        getAddr toPush ≠ hyundaiCanfdButtonAddr q := by
      simpa [hlong] using hmsg
    by_cases hbus : getBus toPush = hyundaiCanfdPtBus p
    · simpa [hlong, hbus, hbuttons hbus, hyundaiCanfdRxGas] using h
    · simpa [hlong, hbus] using h
  · have hscc : ¬ (getBus toPush = hyundaiCanfdSccBus p ∧ getAddr toPush = 0x1a0 ∧
        ¬ p.longitudinal = true) := by
      rintro ⟨hbus, haddr, -⟩
      exact hmsg (by simp [hlong, hbus, haddr])
    rw [guarded_of_neg hscc] at h
    simpa [hyundaiCanfdRxGas, hyundaiCanfdRxButtons_stock hlong] using h

theorem chryslerRxHook_lowers {c : Context} {p : ChryslerParams} {toPush : CANPacket}
    {s : Signals}
    (hmsg : ¬ (getBus toPush = chryslerDas3Bus p ∧ getAddr toPush = p.addrs.das3))
    (h : (chryslerRxHook c p toPush s).controlsAllowed = true) : s.controlsAllowed = true := by
  unfold chryslerRxHook at h
  simpa [hmsg] using genericRxChecks_lowers h

theorem subaruRxHook_lowers {c : Context} {p : SubaruParams} {toPush : CANPacket} {s : Signals}
    (hmsg : ¬ (getBus toPush = subaruAltMainBus p ∧ getAddr toPush = subaruCruiseControl))
    (h : (subaruRxHook c p toPush s).controlsAllowed = true) : s.controlsAllowed = true := by
  unfold subaruRxHook at h
  have hcruise : ¬ (getAddr toPush = subaruCruiseControl ∧
      getBus toPush = subaruAltMainBus p) := fun hboth => hmsg hboth.symm
  simpa [hcruise, subaruRxSteeringTorque, subaruRxWheelSpeeds] using genericRxChecks_lowers h

theorem subaruPreglobalRxHook_lowers {c : Context} {p : SubaruPreglobalParams}
    {toPush : CANPacket} {s : Signals}
    (hmsg : ¬ (getBus toPush = subaruPgMainBus ∧ getAddr toPush = subaruPgCruiseControl))
    (h : (subaruPreglobalRxHook c p toPush s).controlsAllowed = true) :
    s.controlsAllowed = true := by
  unfold subaruPreglobalRxHook at h
  by_cases hbus : getBus toPush = subaruPgMainBus
  · rw [guarded_of_pos hbus] at h
    have haddr : getAddr toPush ≠ subaruPgCruiseControl := fun haddr => hmsg ⟨hbus, haddr⟩
    simpa [haddr] using genericRxChecks_lowers h
  · rwa [guarded_of_neg hbus] at h

theorem mazdaRxHook_lowers {c : Context} {toPush : CANPacket} {s : Signals}
    (hmsg : ¬ (getBus toPush = mazdaMain ∧ getAddr toPush = mazdaCrzCtrl))
    (h : (mazdaRxHook c toPush s).controlsAllowed = true) : s.controlsAllowed = true := by
  unfold mazdaRxHook at h
  by_cases hbus : getBus toPush = mazdaMain
  · rw [guarded_of_pos hbus] at h
    have haddr : getAddr toPush ≠ mazdaCrzCtrl := fun haddr => hmsg ⟨hbus, haddr⟩
    simpa [haddr] using genericRxChecks_lowers h
  · rwa [guarded_of_neg hbus] at h

theorem nissanRxHook_lowers {c : Context} {p : NissanParams} {toPush : CANPacket} {s : Signals}
    (hmsg : ¬ (getBus toPush = nissanCruiseBus p ∧ getAddr toPush = 0x30f))
    (h : (nissanRxHook c p toPush s).controlsAllowed = true) : s.controlsAllowed = true := by
  unfold nissanRxHook at h
  have hcruise : ¬ (getAddr toPush = 0x30f ∧ getBus toPush = nissanCruiseBus p) :=
    fun hboth => hmsg hboth.symm
  simpa [hcruise, nissanRxGas, nissanRxBrake] using genericRxChecks_lowers h

theorem volkswagenMqbRxHook_lowers {c : Context} {p : VolkswagenParams} {toPush : CANPacket}
    {sv : Signals × (VolkswagenVars × VolkswagenMqbVars)}
    (hmsg : ¬ (getBus toPush = 0 ∧
      getAddr toPush = if p.longitudinal then msgGraAcc01 else msgTsk06))
    (h : (volkswagenMqbRxHook c p toPush sv).1.controlsAllowed = true) :
    sv.1.controlsAllowed = true := by
  unfold volkswagenMqbRxHook at h
  by_cases hbus : getBus toPush = 0
  · rw [guarded_of_pos hbus] at h
    have h := genericRxChecks_lowers h
    by_cases hlong : p.longitudinal = true
    · have haddr : getAddr toPush ≠ msgGraAcc01 := fun haddr => hmsg ⟨hbus, by simp [hlong, haddr]⟩
      simp [haddr, hlong, volkswagenMqbRxBrake, volkswagenMqbRxAccStatus] at h
      grind
    · have haddr : getAddr toPush ≠ msgTsk06 := fun haddr => hmsg ⟨hbus, by simp [hlong, haddr]⟩
      simp [haddr, hlong, volkswagenMqbRxBrake, volkswagenMqbRxButtons] at h
      grind
  · rwa [guarded_of_neg hbus] at h

theorem volkswagenPqRxHook_lowers {c : Context} {p : VolkswagenParams} {toPush : CANPacket}
    {sv : Signals × VolkswagenVars}
    (hmsg : ¬ (getBus toPush = 0 ∧
      getAddr toPush = if p.longitudinal then msgGraNeu else msgMotor2))
    (h : (volkswagenPqRxHook c p toPush sv).1.controlsAllowed = true) :
    sv.1.controlsAllowed = true := by
  unfold volkswagenPqRxHook at h
  by_cases hbus : getBus toPush = 0
  · rw [guarded_of_pos hbus] at h
    have h := genericRxChecks_lowers h
    by_cases hlong : p.longitudinal = true
    · have haddr : getAddr toPush ≠ msgGraNeu := fun haddr => hmsg ⟨hbus, by simp [hlong, haddr]⟩
      simp [haddr, hlong, volkswagenPqRxMainSwitch] at h
      grind
    · have haddr : getAddr toPush ≠ msgMotor2 := fun haddr => hmsg ⟨hbus, by simp [hlong, haddr]⟩
      simpa [haddr, hlong] using h
  · rwa [guarded_of_neg hbus] at h

/-- A message other than the engagement messages of the mode does not turn
controls on. -/
theorem rx_lowers {id : HooksId} {c : Context} {m : ModeParams} {toPush : CANPacket}
    {s : Signals} {v : ModeVars} (hmsg : ¬ EngagementMessage id m toPush)
    (h : ((hooksOf id).rx c m toPush (s, v)).1.controlsAllowed = true) :
    s.controlsAllowed = true := by
  cases id with
  | nooutput | elm327 | alloutput => exact h
  | hondaNidec | hondaBosch =>
      exact hondaRxHook_lowers (fun hpcm => hmsg (Or.inl hpcm))
        (fun hbuttons => hmsg (Or.inr hbuttons)) h
  | toyota => exact toyotaRxHook_lowers hmsg h
  | gm => exact gmRxHook_lowers hmsg h
  | ford => exact fordRxHook_lowers hmsg h
  | tesla => exact teslaRxHook_lowers hmsg h
  | hyundai | hyundaiLegacy => exact hyundaiRxHook_lowers hmsg h
  | hyundaiCanfd => exact hyundaiCanfdRxHook_lowers hmsg h
  | chrysler => exact chryslerRxHook_lowers hmsg h
  | subaru => exact subaruRxHook_lowers hmsg h
  | subaruPreglobal => exact subaruPreglobalRxHook_lowers hmsg h
  | mazda => exact mazdaRxHook_lowers hmsg h
  | nissan => exact nissanRxHook_lowers hmsg h
  | volkswagenMqb => exact volkswagenMqbRxHook_lowers hmsg h
  | volkswagenPq => exact volkswagenPqRxHook_lowers hmsg h
  | body =>
      have haddr : getAddr toPush ≠ 0x201 := hmsg
      have h : (bodyRxHook toPush s).controlsAllowed = true := h
      simpa [bodyRxHook, haddr] using h

/-! ### The check list -/

/-- The message is the variant of the check that was selected on the bus. -/
def Matched (toPush : CANPacket) (check : RxCheck) : Prop :=
  check.status.msgSeen = true ∧ check.selected.isOf toPush = true

theorem getAddrCheckIndex_none {toPush : CANPacket} {rxChecks after : List RxCheck}
    (h : getAddrCheckIndex toPush rxChecks = (none, after)) :
    ∀ check ∈ after, ¬ Matched toPush check := by
  induction rxChecks generalizing after with
  | nil =>
      cases h
      simp
  | cons check rest ih =>
      simp only [getAddrCheckIndex] at h
      split at h
      · cases h
      · rename_i hmiss
        have hindex : (getAddrCheckIndex toPush rest).1 = none := by
          simpa using congrArg Prod.fst h
        have hafter : after = selectVariant toPush check :: (getAddrCheckIndex toPush rest).2 :=
          (congrArg Prod.snd h).symm
        subst hafter
        intro entry hentry
        rcases List.mem_cons.mp hentry with rfl | hrest
        · rintro ⟨hseen, hof⟩
          exact hmiss (by simp [hseen, hof])
        · exact ih (Prod.ext hindex rfl) entry hrest

theorem getAddrCheckIndex_some {toPush : CANPacket} {rxChecks after : List RxCheck} {index : Nat}
    (h : getAddrCheckIndex toPush rxChecks = (some index, after)) :
    ∃ check, after[index]? = some check ∧ Matched toPush check := by
  induction rxChecks generalizing after index with
  | nil => cases h
  | cons check rest ih =>
      simp only [getAddrCheckIndex] at h
      split at h
      · rename_i hmatch
        cases h
        exact ⟨selectVariant toPush check, rfl, by simpa [Matched] using hmatch⟩
      · have hindex : (getAddrCheckIndex toPush rest).1.map (· + 1) = some index :=
          congrArg Prod.fst h
        have hafter : after = selectVariant toPush check :: (getAddrCheckIndex toPush rest).2 :=
          (congrArg Prod.snd h).symm
        obtain ⟨i, hi, rfl⟩ := Option.map_eq_some_iff.mp hindex
        obtain ⟨entry, hentry, hmatched⟩ := ih (Prod.ext hi rfl)
        exact ⟨entry, by simpa [hafter] using hentry, hmatched⟩

/-- The update of a matched entry does not change which variant it selects. -/
theorem checkMsg_matched {hooks : SafetyHooks ModeParams ModeVars} {params : ModeParams}
    {ts : UInt32} {toPush : CANPacket} {check : RxCheck} (h : Matched toPush check) :
    Matched toPush (checkMsg hooks params ts toPush check) := by
  have hcounter : ∀ entry : RxCheck, Matched toPush entry →
      Matched toPush (checkCounter hooks toPush entry) := by
    intro entry hentry
    unfold checkCounter
    split
    · split
      · exact hentry
      · exact hentry
    · exact hentry
  have hchecksum : Matched toPush
      (checkChecksum hooks params toPush (updateAddrTimestamp ts check)) := h
  exact hcounter _ hchecksum

/-- A message that the validation passes is vouched for by an entry, or it is
known to none. -/
theorem rxValid_matched {s : State} {ts : UInt32} {toPush : CANPacket}
    (hvalid : s.rxValid ts toPush = true) :
    (∃ check ∈ s.rxChecksAfter ts toPush, Matched toPush check ∧ isMsgValid check = true) ∨
      ∀ check ∈ s.rxChecksAfter ts toPush, ¬ Matched toPush check := by
  unfold State.rxValid at hvalid
  unfold State.rxChecksAfter
  unfold rxMsgSafetyCheck at hvalid ⊢
  cases hlookup : getAddrCheckIndex toPush s.cfg.rxChecks with
  | mk index after =>
      cases index with
      | none => exact Or.inr (getAddrCheckIndex_none hlookup)
      | some index =>
          obtain ⟨check, hcheck, hmatched⟩ := getAddrCheckIndex_some hlookup
          left
          simp only [hlookup] at hvalid
          have hentry : (after.modify index (checkMsg s.hooks s.params ts toPush))[index]? =
              some (checkMsg s.hooks s.params ts toPush check) := by
            simp [hcheck]
          rw [hentry, Option.all_some] at hvalid
          exact ⟨_, List.mem_of_getElem? hentry, checkMsg_matched hmatched, hvalid⟩

/-! ### Sessions -/

/-- If a received message turns controls on, it is one of the engagement
messages of the mode, and after the call it is the selected variant of an
entry with valid checksum, quality flag and counter, or of no entry. -/
theorem rx_turns_controls_on {s : State} {ts : UInt32} {toPush : CANPacket}
    (hoff : s.signals.controlsAllowed = false)
    (hon : (safetyRxHook ts toPush s).signals.controlsAllowed = true) :
    EngagementMessage s.currentHooks s.params toPush ∧
      ((∃ check ∈ (safetyRxHook ts toPush s).cfg.rxChecks,
          Matched toPush check ∧ isMsgValid check = true) ∨
        ∀ check ∈ (safetyRxHook ts toPush s).cfg.rxChecks, ¬ Matched toPush check) := by
  have hon : (s.rxSignals ts toPush).1.controlsAllowed = true := hon
  unfold State.rxSignals at hon
  by_cases hvalid : s.rxValid ts toPush = true
  · rw [if_pos hvalid] at hon
    refine ⟨?_, rxValid_matched hvalid⟩
    by_contra hmsg
    have hcontrols : s.signals.controlsAllowed = true := rx_lowers hmsg hon
    simp [hoff] at hcontrols
  · rw [if_neg hvalid] at hon
    cases hon

end Panda.Safety
