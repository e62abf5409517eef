import Panda.Safety.ButtonEngagement
import Panda.Safety.Entries
import Panda.Safety.Inputs
import Panda.Safety.PcmEngagement

/-!
Engagement by messages that no entry of the check list vouches for. The lookup
takes a message by address, bus and length, and lets one pass that it does not
know. The hooks go by address and at most by bus. So a message of another length, of
another bus or of a variant that was not selected still turns controls on when
it carries what the hook engages on.
-/

namespace Panda.Safety

open Library

/-! ### Entries for a message -/

/-- The message is the variant that was selected, or, while none was, one of the
variants to select from. -/
def EntryFor (toPush : CANPacket) (check : RxCheck) : Prop :=
  if check.status.msgSeen then check.selected.isOf toPush = true
  else ∃ j : Fin 3, (∀ i ≤ j, (check.variant i).addr ≠ 0) ∧ (check.variant j).isOf toPush = true

instance (toPush : CANPacket) (check : RxCheck) : Decidable (EntryFor toPush check) :=
  inferInstanceAs (Decidable (if check.status.msgSeen then _ else
    ∃ j : Fin 3, (∀ i ≤ j, (check.variant i).addr ≠ 0) ∧ (check.variant j).isOf toPush = true))

theorem presentVariant_isSome (toPush : CANPacket) (check : RxCheck) :
    (presentVariant toPush check).isSome = true ↔
      ∃ j : Fin 3, (∀ i ≤ j, (check.variant i).addr ≠ 0) ∧
        (check.variant j).isOf toPush = true := by
  unfold presentVariant
  simp only [List.find?_isSome, List.takeWhile_cons, Fin.exists_fin_succ, Fin.forall_fin_succ]
  by_cases h0 : (check.variant 0).addr = 0
  · simp [h0]
  · by_cases h1 : (check.variant 1).addr = 0
    · simp [h0, h1]
    · by_cases h2 : (check.variant 2).addr = 0
      · simp [h0, h1, h2]
      · simp [h0, h1, h2]

theorem matched_selectVariant (toPush : CANPacket) (check : RxCheck) :
    Matched toPush (selectVariant toPush check) ↔ EntryFor toPush check := by
  unfold EntryFor selectVariant
  cases hseen : check.status.msgSeen with
  | true => simp [Matched, hseen]
  | false =>
      rw [if_neg Bool.false_ne_true, if_neg Bool.false_ne_true, ← presentVariant_isSome]
      cases hpresent : presentVariant toPush check with
      | none => simp [Matched, hseen]
      | some j => exact iff_of_true ⟨rfl, (presentVariant_isOf hpresent).2⟩ rfl

/-- The lookup misses exactly the messages that no entry is for. -/
theorem getAddrCheckIndex_eq_none (toPush : CANPacket) (rxChecks : List RxCheck) :
    (getAddrCheckIndex toPush rxChecks).1 = none ↔
      ∀ check ∈ rxChecks, ¬ EntryFor toPush check := by
  induction rxChecks with
  | nil => simp [getAddrCheckIndex]
  | cons check rest ih =>
      have hmatched := matched_selectVariant toPush check
      rw [Matched, ← Bool.and_eq_true] at hmatched
      rw [List.forall_mem_cons, ← hmatched, ← ih]
      simp only [getAddrCheckIndex]
      split
      next hmatch => simp [hmatch]
      next hmiss => simp [hmiss]

/-! ### What engages -/

/-- The message reports cruise engaged, which it was not before. -/
def RaisesCruise (id : HooksId) (m : ModeParams) (toPush : CANPacket) (s : Signals) : Prop :=
  cruiseReport id m toPush = some true ∧ s.cruiseEngagedPrev = false

/-- The main switch for the buttons of the message, which may come with it. -/
def mainSwitchOn (id : HooksId) (toPush : CANPacket) (s : Signals) : Bool :=
  match id with
  | .hondaNidec | .hondaBosch => if getAddr toPush = 0x1A6 then getBit toPush 47 else s.accMainOn
  | _ => s.accMainOn

/-- The message releases set or resume with the main switch on. -/
def ReleasesButton (id : HooksId) (m : ModeParams) (toPush : CANPacket) (s : Signals)
    (v : ModeVars) : Prop :=
  ∃ current, buttonReport id m toPush = some current ∧
    Released (rememberedButtons id s v) current ∧ current.exit = false ∧
    mainSwitchOn id toPush s = true

/-- Set is released or resume is pressed. -/
def GmPresses (button : Nat) (s : Signals) : Prop :=
  ((s.cruiseButtonPrev = gmBtnSet ∧ button ≠ gmBtnSet) ∨
    (s.cruiseButtonPrev ≠ gmBtnResume ∧ button = gmBtnResume)) ∧ button ≠ gmBtnCancel

/-- Set or resume is released. -/
def HyundaiReleases (button : Nat) (s : Signals) : Prop :=
  ((s.cruiseButtonPrev = hyundaiBtnSet ∧ button ≠ hyundaiBtnSet) ∨
    (s.cruiseButtonPrev = hyundaiBtnResume ∧ button ≠ hyundaiBtnResume)) ∧
    button ≠ hyundaiBtnCancel

/-- Cruise is engaged soon after a press. -/
def HyundaiRaises (cruiseEngaged : Bool) (s : Signals) (v : HyundaiVars) : Prop :=
  cruiseEngaged = true ∧ s.cruiseEngagedPrev = false ∧
    v.lastButtonInteraction < hyundaiPrevButtonSamples

def hyundaiCanfdButton (toPush : CANPacket) : Nat :=
  if getAddr toPush = 0x1cf then getByte toPush 2 &&& 0x7
  else (getByte toPush 4 >>> 4) &&& 0x7

/-- The message carries what the mode engages on. -/
def Engages (id : HooksId) (m : ModeParams) (toPush : CANPacket) (s : Signals) (v : ModeVars) :
    Prop :=
  let addr := getAddr toPush
  let bus := getBus toPush
  match id with
  | .nooutput | .elm327 | .alloutput => False
  | .hondaNidec | .hondaBosch =>
      if hondaPcmCruise m.honda then
        addr = 0x17C ∧ getBit toPush 38 = true ∧ s.cruiseEngagedPrev = false
      else ReleasesButton id m toPush s v
  | .gm =>
      if m.gm.pcmCruise then RaisesCruise id m toPush s
      else bus = 0 ∧ addr = 0x1E1 ∧ GmPresses ((getByte toPush 5 &&& 0x70) >>> 4) s
  | .hyundai | .hyundaiLegacy =>
      if m.hyundai.longitudinal then
        bus = 0 ∧ addr = 0x4F1 ∧ HyundaiReleases (getByte toPush 0 &&& 0x7) s
      else hyundaiIsScc12 m.hyundai addr bus ∧
        HyundaiRaises (hyundaiScc12CruiseEngaged toPush) s v.hyundai
  | .hyundaiCanfd =>
      if m.hyundai.longitudinal then
        bus = hyundaiCanfdPtBus m.hyundai ∧ addr = hyundaiCanfdButtonAddr m.hyundaiCanfd ∧
          HyundaiReleases (hyundaiCanfdButton toPush) s
      else bus = hyundaiCanfdSccBus m.hyundai ∧ addr = 0x1a0 ∧
        HyundaiRaises (hyundaiCanfdCruiseEngaged toPush) s v.hyundai
  | .volkswagenMqb | .volkswagenPq =>
      if m.volkswagen.longitudinal then ReleasesButton id m toPush s v
      else RaisesCruise id m toPush s
  | .body => addr = 0x201
  | .toyota | .ford | .tesla | .chrysler | .subaru | .subaruPreglobal | .mazda | .nissan =>
      RaisesCruise id m toPush s

/-- The brake pedal with an engaging message, which may report it. -/
def brakeWith (id : HooksId) (m : ModeParams) (toPush : CANPacket) (s : Signals) (v : ModeVars) :
    Bool :=
  match id with
  | .hondaNidec | .hondaBosch =>
      if ¬ m.honda.altBrakeMsg ∧ getAddr toPush = 0x17C then
        getBit toPush 53 || (getBit toPush 32 && v.honda.brakeSwitchPrev)
      else s.brakePressed
  | .ford => ((getByte toPush 0 >>> 4) &&& 0x3) == 2
  | .volkswagenPq =>
      if m.volkswagen.longitudinal then s.brakePressed else (getByte toPush 2 &&& 0x1) != 0
  | _ => s.brakePressed

/-- The hook runs the common checks on an engaging message. -/
def ChecksPedals (id : HooksId) (toPush : CANPacket) : Prop :=
  match id with
  | .hyundai | .hyundaiLegacy => getBus toPush = 0
  | .body => False
  | _ => True

/-- No pedal exits controls: the gas pedal where it is just pressed, the others also
while the car moves. -/
structure PedalsPermit (alternativeExperience : Nat) (s : Signals) (gas brake : Bool) : Prop where
  gas : gas = true → s.gasPressedPrev = false →
    alternativeExperience &&& altExpDisableDisengageOnGas ≠ 0
  brake : brake = true → s.brakePressedPrev = true ∧ s.vehicleMoving = false
  regen : s.regenBraking = true → s.regenBrakingPrev = true ∧ s.vehicleMoving = false

/-- The message turns controls on if its mode's hook sees it. -/
structure TurnsOn (id : HooksId) (alternativeExperience : Nat) (m : ModeParams)
    (toPush : CANPacket) (s : Signals) (v : ModeVars) : Prop where
  engages : Engages id m toPush s v
  pedals : ChecksPedals id toPush → PedalsPermit alternativeExperience s
    ((gasReport id m toPush).getD s.gasPressed) (brakeWith id m toPush s v)

/-! ### The receive hooks -/

/-- The signals before the common checks. -/
structure BeforePedalChecks (engages : Prop) (s u : Signals) : Prop where
  controls : u.controlsAllowed = true ↔ engages
  gas : u.gasPressedPrev = s.gasPressedPrev
  brake : u.brakePressedPrev = s.brakePressedPrev
  regen : u.regenBrakingPrev = s.regenBrakingPrev

/-- A hook that runs the common checks last, or that ignores a message that does not
engage. -/
def EngagingHook (c : Context) (engages : Prop) (s t : Signals) : Prop :=
  (t = s ∧ ¬ engages) ∨
    ∃ stockEcuDetected u, t = genericRxChecks c stockEcuDetected u ∧
      BeforePedalChecks engages s u

theorem EngagingHook.of_checks {c : Context} {engages : Prop} {s u : Signals}
    {stockEcuDetected : Bool} (h : BeforePedalChecks engages s u) :
    EngagingHook c engages s (genericRxChecks c stockEcuDetected u) :=
  Or.inr ⟨stockEcuDetected, u, rfl, h⟩

theorem EngagingHook.of_guarded {c : Context} {engages : Prop} {s : Signals}
    {bus : Prop} [Decidable bus] {f : Signals → Signals}
    (hf : bus → EngagingHook c engages s (f s)) (hbus : engages → bus) :
    EngagingHook c engages s (guarded bus f s) := by
  by_cases h : bus
  · rw [guarded_of_pos h]
    exact hf h
  · rw [guarded_of_neg h]
    exact Or.inl ⟨rfl, fun hengages => h (hbus hengages)⟩

theorem EngagingHook.of_guarded_fst {D : Type} {c : Context} {engages : Prop}
    {sv : Signals × D} {bus : Prop} [Decidable bus] {f : Signals × D → Signals × D}
    (hf : bus → EngagingHook c engages sv.1 (f sv).1) (hbus : engages → bus) :
    EngagingHook c engages sv.1 (guarded bus f sv).1 := by
  by_cases h : bus
  · rw [guarded_of_pos h]
    exact hf h
  · rw [guarded_of_neg h]
    exact Or.inl ⟨rfl, fun hengages => h (hbus hengages)⟩

/-- The common checks leave controls on with what no pedal exits. -/
theorem EngagingHook.controls {c : Context} {engages : Prop} {s t : Signals}
    (h : EngagingHook c engages s t) (hoff : s.controlsAllowed = false) :
    t.controlsAllowed = true ↔ engages ∧ PedalsPermit c.alternativeExperience
      { s with regenBraking := t.regenBraking, vehicleMoving := t.vehicleMoving }
      t.gasPressed t.brakePressed := by
  rcases h with ⟨rfl, hnot⟩ | ⟨stockEcuDetected, u, rfl, hu⟩
  · rw [hoff]
    exact iff_of_false Bool.false_ne_true fun hboth => hnot hboth.1
  · rw [← hu.controls]
    simp only [genericRxChecks, Bool.and_eq_true, Bool.not_eq_true', hu.gas, hu.brake, hu.regen]
    constructor
    · rintro ⟨⟨⟨hon, hgas⟩, hbrake⟩, hregen⟩
      refine ⟨hon, ⟨?_, ?_, ?_⟩⟩
      · grind
      · grind
      · grind
    · rintro ⟨hon, hpermit⟩
      refine ⟨⟨⟨hon, ?_⟩, ?_⟩, ?_⟩
      · have hgas := hpermit.gas
        grind
      · have hbrake := hpermit.brake
        grind
      · have hregen := hpermit.regen
        grind

/-- The modes that the car's own cruise control engages. -/
theorem PcmCruiseHook.engaging {c : Context} {report : Option Bool} {s t : Signals}
    (h : PcmCruiseHook c report s t) (hoff : s.controlsAllowed = false) :
    EngagingHook c (report = some true ∧ s.cruiseEngagedPrev = false) s t := by
  rcases h with ⟨rfl, hnone⟩ | ⟨stockEcuDetected, u, rfl, hu⟩
  · refine Or.inl ⟨rfl, ?_⟩
    rintro ⟨hsome, -⟩
    rw [hnone] at hsome
    cases hsome
  · refine EngagingHook.of_checks ⟨⟨?_, ?_⟩, hu.gas, hu.brake, hu.regen⟩
    · intro hon
      obtain ⟨hreport, hprev⟩ := hu.controls hon
      refine ⟨?_, hprev hoff⟩
      cases report with
      | none =>
          rw [Option.getD_none, hoff] at hreport
          cases hreport
      | some engaged => exact congrArg some hreport
    · rintro ⟨hreport, hprev⟩
      exact hu.engages hreport hprev

section Modes

attribute [local simp] buttonReport rememberedButtons Buttons.pressed VolkswagenVars.pressed
  hondaButtons hondaButton Released mainSwitchOn

@[simp] theorem guarded_cruiseButtonPrev {c : Prop} [Decidable c] (f : Signals → Signals)
    (s : Signals) :
    (guarded c f s).cruiseButtonPrev =
      if c then (f s).cruiseButtonPrev else s.cruiseButtonPrev :=
  apply_ite _ _ _ _

theorem hondaRxHook_engaging (c : Context) (m : ModeParams) (toPush : CANPacket) (s : Signals)
    (v : ModeVars) (hoff : s.controlsAllowed = false) :
    EngagingHook c (Engages .hondaBosch m toPush s v) s
      (hondaRxHook c m.honda toPush (s, v.honda)).1 := by
  unfold hondaRxHook
  apply EngagingHook.of_checks
  by_cases hpcm : hondaPcmCruise m.honda = true
  · constructor <;> simp [Engages, hondaRxPcmCruise, hondaRxButtons, hondaRxBrake,
      hpcm, hoff]
    · grind
  · constructor <;> simp [Engages, ReleasesButton, hondaRxButtons, hondaRxBrake, hpcm, hoff]
    · grind

theorem gmRxHook_engaging (c : Context) (m : ModeParams) (toPush : CANPacket) (s : Signals)
    (v : ModeVars) (hoff : s.controlsAllowed = false) :
    EngagingHook c (Engages .gm m toPush s v) s (gmRxHook c m.gm toPush s) := by
  by_cases hpcm : m.gm.pcmCruise = true
  · simp only [Engages, if_pos hpcm]
    exact (gmRxHook_pcmCruise c hpcm toPush s).engaging hoff
  · simp only [Engages, if_neg hpcm]
    unfold gmRxHook
    apply EngagingHook.of_guarded
    · intro hbus
      apply EngagingHook.of_checks
      constructor <;> simp [gmRxButtons, GmPresses, hbus, hpcm, hoff]
      · grind
    · exact fun hengages => hengages.1

theorem hyundaiRxHook_engaging (c : Context) (m : ModeParams) (toPush : CANPacket) (s : Signals)
    (v : ModeVars) (hoff : s.controlsAllowed = false) (hbus : getBus toPush = 0) :
    EngagingHook c (Engages .hyundai m toPush s v) s
      (hyundaiRxHook c m.hyundai toPush (s, v.hyundai)).1 := by
  unfold hyundaiRxHook
  rw [guarded_of_pos hbus]
  apply EngagingHook.of_checks
  by_cases hlong : m.hyundai.longitudinal = true
  · constructor <;> simp [Engages, HyundaiReleases, hyundaiCommonCruiseStateCheck,
      hyundaiCommonCruiseButtonsCheck, hyundaiLongButtons, hyundaiRxGas, hbus, hlong, hoff]
    · grind
  · constructor <;> simp [Engages, HyundaiRaises, hyundaiCommonCruiseStateCheck,
      hyundaiCommonCruiseButtonsCheck, hyundaiRxGas, hlong, hoff]
    · grind

theorem hyundaiRxHook_camera (c : Context) (m : ModeParams) (toPush : CANPacket) (s : Signals)
    (v : ModeVars) (hoff : s.controlsAllowed = false) (hbus : getBus toPush ≠ 0) :
    (hyundaiRxHook c m.hyundai toPush (s, v.hyundai)).1.controlsAllowed = true ↔
      Engages .hyundai m toPush s v := by
  unfold hyundaiRxHook
  rw [guarded_of_neg hbus]
  by_cases hlong : m.hyundai.longitudinal = true
  · simp [Engages, hyundaiCommonCruiseStateCheck, hbus, hlong, hoff]
  · simp [Engages, HyundaiRaises, hyundaiCommonCruiseStateCheck, hlong, hoff]
    grind

theorem hyundaiCanfdRxButtons_signals (p : HyundaiParams) (toPush : CANPacket)
    (sv : Signals × HyundaiVars) :
    (hyundaiCanfdRxButtons p toPush sv).1 =
      guarded p.longitudinal (hyundaiLongButtons (hyundaiCanfdButton toPush)) sv.1 := by
  unfold hyundaiCanfdRxButtons hyundaiCanfdButton
  split
  · rfl
  · rfl

theorem hyundaiCanfdRxHook_engaging (c : Context) (m : ModeParams) (toPush : CANPacket)
    (s : Signals) (v : ModeVars) (hoff : s.controlsAllowed = false) :
    EngagingHook c (Engages .hyundaiCanfd m toPush s v) s
      (hyundaiCanfdRxHook c (m.hyundai, m.hyundaiCanfd) toPush (s, v.hyundai)).1 := by
  unfold hyundaiCanfdRxHook
  apply EngagingHook.of_checks
  by_cases hlong : m.hyundai.longitudinal = true
  · constructor <;> simp [Engages, HyundaiReleases, hyundaiCanfdRxButtons_signals,
      hyundaiLongButtons, hyundaiCanfdRxGas, hlong, hoff]
    · grind
  · constructor <;> simp [Engages, HyundaiRaises, hyundaiCommonCruiseStateCheck,
      hyundaiCanfdRxButtons_signals, hyundaiCanfdRxGas, hlong, hoff]
    · grind [hyundaiCanfdButtonAddr]

theorem volkswagenMqbRxHook_engaging (c : Context) (m : ModeParams) (toPush : CANPacket)
    (s : Signals) (v : ModeVars) (hoff : s.controlsAllowed = false) :
    EngagingHook c (Engages .volkswagenMqb m toPush s v) s
      (volkswagenMqbRxHook c m.volkswagen toPush (s, v.volkswagen, v.volkswagenMqb)).1 := by
  by_cases hlong : m.volkswagen.longitudinal = true
  · simp only [Engages, if_pos hlong]
    unfold volkswagenMqbRxHook
    apply EngagingHook.of_guarded_fst
    · intro hbus
      apply EngagingHook.of_checks
      constructor <;> simp [ReleasesButton, volkswagenMqbRxAccStatus, volkswagenMqbRxButtons,
        volkswagenMqbRxBrake, volkswagenButtons, hbus, hlong, hoff]
      · grind [msgTsk06, msgGraAcc01]
    · rintro ⟨current, hreport, -⟩
      simp at hreport
      exact hreport.1.1
  · simp only [Engages, if_neg hlong]
    exact (volkswagenMqbRxHook_pcmCruise c (Bool.eq_false_iff.mpr hlong) toPush
      (s, v.volkswagen, v.volkswagenMqb)).engaging hoff

theorem volkswagenPqRxHook_engaging (c : Context) (m : ModeParams) (toPush : CANPacket)
    (s : Signals) (v : ModeVars) (hoff : s.controlsAllowed = false) :
    EngagingHook c (Engages .volkswagenPq m toPush s v) s
      (volkswagenPqRxHook c m.volkswagen toPush (s, v.volkswagen)).1 := by
  by_cases hlong : m.volkswagen.longitudinal = true
  · simp only [Engages, if_pos hlong]
    unfold volkswagenPqRxHook
    apply EngagingHook.of_guarded_fst
    · intro hbus
      apply EngagingHook.of_checks
      constructor <;> simp [ReleasesButton, volkswagenPqRxMainSwitch, volkswagenPqRxButtons,
        volkswagenButtons, hbus, hlong, hoff]
      · grind [msgMotor5, msgGraNeu]
    · rintro ⟨current, hreport, -⟩
      simp at hreport
      exact hreport.1.1
  · simp only [Engages, if_neg hlong]
    exact (volkswagenPqRxHook_pcmCruise c (Bool.eq_false_iff.mpr hlong) toPush
      (s, v.volkswagen)).engaging hoff

end Modes

theorem rx_engaging {id : HooksId} {toPush : CANPacket} (hchecks : ChecksPedals id toPush)
    (c : Context) (m : ModeParams) {s : Signals} (v : ModeVars)
    (hoff : s.controlsAllowed = false) :
    EngagingHook c (Engages id m toPush s v) s ((hooksOf id).rx c m toPush (s, v)).1 := by
  cases id with
  | nooutput | elm327 | alloutput => exact Or.inl ⟨rfl, fun hengages => hengages⟩
  | hondaNidec | hondaBosch => exact hondaRxHook_engaging c m toPush s v hoff
  | toyota => exact (toyotaRxHook_pcmCruise c m toPush s).engaging hoff
  | gm => exact gmRxHook_engaging c m toPush s v hoff
  | ford => exact (fordRxHook_pcmCruise c m toPush s).engaging hoff
  | tesla => exact (teslaRxHook_pcmCruise c m toPush (s, v.tesla)).engaging hoff
  | hyundai | hyundaiLegacy => exact hyundaiRxHook_engaging c m toPush s v hoff hchecks
  | hyundaiCanfd => exact hyundaiCanfdRxHook_engaging c m toPush s v hoff
  | chrysler => exact (chryslerRxHook_pcmCruise c m toPush s).engaging hoff
  | subaru => exact (subaruRxHook_pcmCruise c m toPush s).engaging hoff
  | subaruPreglobal => exact (subaruPreglobalRxHook_pcmCruise c m toPush s).engaging hoff
  | mazda => exact (mazdaRxHook_pcmCruise c m toPush s).engaging hoff
  | nissan => exact (nissanRxHook_pcmCruise c m toPush s).engaging hoff
  | volkswagenMqb => exact volkswagenMqbRxHook_engaging c m toPush s v hoff
  | volkswagenPq => exact volkswagenPqRxHook_engaging c m toPush s v hoff
  | body => exact hchecks.elim

theorem rx_engages_unchecked {id : HooksId} {toPush : CANPacket}
    (hchecks : ¬ ChecksPedals id toPush) (c : Context) (m : ModeParams) {s : Signals} (v : ModeVars)
    (hoff : s.controlsAllowed = false) :
    ((hooksOf id).rx c m toPush (s, v)).1.controlsAllowed = true ↔ Engages id m toPush s v := by
  cases id with
  | hyundai | hyundaiLegacy => exact hyundaiRxHook_camera c m toPush s v hoff hchecks
  | body =>
      change (bodyRxHook toPush s).controlsAllowed = true ↔ getAddr toPush = 0x201
      simp [bodyRxHook, hoff]
  | _ => exact absurd trivial hchecks

/-! ### The pedals of an engaging message -/

theorem Engages.message {id : HooksId} {m : ModeParams} {toPush : CANPacket} {s : Signals}
    {v : ModeVars} (h : Engages id m toPush s v) : EngagementMessage id m toPush := by
  cases id <;>
    simp [Engages, EngagementMessage, ReleasesButton, RaisesCruise, cruiseReport, buttonReport]
      at h ⊢ <;> grind

/-- The addresses of Pacifica are those of its platform. -/
def PlatformAddrs (id : HooksId) (m : ModeParams) : Prop :=
  id = .chrysler → m.chrysler.platform = .pacifica → m.chrysler.addrs = chryslerAddrs

section Pedals

attribute [local simp] EngagementMessage sources hondaSources toyotaSources gmSources fordSources
  teslaSources hyundaiSources hyundaiCanfdSources chryslerSources subaruSources
  subaruPreglobalSources mazdaSources nissanSources volkswagenMqbSources volkswagenPqSources
  Source.sentAs sourceOn

attribute [local simp] fordEngBrakeData fordDesiredTorqBrk hyundaiIsScc12 subaruCruiseControl
  subaruWheelSpeeds subaruBrakeStatus subaruPgCruiseControl subaruPgWheelSpeeds subaruPgBrakePedal
  mazdaCrzCtrl mazdaEngineData mazdaPedals msgGraAcc01 msgTsk06 msgEsp19 msgMotor14 msgEsp05
  msgGraNeu msgMotor2 msgBremse1

/-- The modes whose engagement message reports the brake pedal too. -/
def ReportsBrake (id : HooksId) : Prop :=
  id = .hondaNidec ∨ id = .hondaBosch ∨ id = .ford ∨ id = .volkswagenPq

/-- No engagement message tells whether the car moves or brakes by regeneration, and
few report the brake pedal. -/
theorem EngagementMessage.not_source {id : HooksId} {m : ModeParams} {toPush : CANPacket}
    (h : EngagementMessage id m toPush) (hm : PlatformAddrs id m) {input : Input}
    (hinput : input = .vehicleMoving ∨ input = .regenBraking ∨
      (input = .brakePressed ∧ ¬ ReportsBrake id)) :
    ∀ source ∈ sources id m input, source.sentAs (getAddr toPush) (getBus toPush) = false := by
  rcases hinput with rfl | rfl | ⟨rfl, hid⟩
  · cases id <;> simp at h ⊢ <;>
      grind [PlatformAddrs, chryslerAddrs, chryslerDas3Bus, hyundaiCanfdButtonAddr]
  · cases id <;> simp at h ⊢
    · grind
  · cases id <;> simp [ReportsBrake] at h hid ⊢ <;>
      grind [PlatformAddrs, chryslerAddrs, chryslerDas3Bus, hyundaiCanfdButtonAddr]

theorem eq_of_toInt_eq {a b : Bool} (h : a.toInt = b.toInt) : a = b := by
  cases a <;> cases b
  · rfl
  · cases h
  · cases h
  · rfl

@[simp] theorem genericRxChecks_brakePressed (c : Context) (stockEcuDetected : Bool)
    (s : Signals) :
    (genericRxChecks c stockEcuDetected s).brakePressed = s.brakePressed := rfl

@[simp] theorem pcmCruiseCheck_brakePressed (cruiseEngaged : Bool) (s : Signals) :
    (pcmCruiseCheck cruiseEngaged s).brakePressed = s.brakePressed := rfl

@[simp] theorem guarded_brakePressed {c : Prop} [Decidable c] (f : Signals → Signals)
    (s : Signals) :
    (guarded c f s).brakePressed = if c then (f s).brakePressed else s.brakePressed :=
  apply_ite _ _ _ _

@[simp] theorem ite_brakePressed {c : Prop} [Decidable c] (s t : Signals) :
    (if c then s else t).brakePressed = if c then s.brakePressed else t.brakePressed :=
  apply_ite _ _ _ _

theorem hondaRxHook_brakePressed (c : Context) {m : ModeParams} {toPush : CANPacket}
    (h : EngagementMessage .hondaBosch m toPush) (s : Signals) (v : ModeVars) :
    (hondaRxHook c m.honda toPush (s, v.honda)).1.brakePressed =
      brakeWith .hondaBosch m toPush s v := by
  simp at h
  simp [hondaRxHook, hondaRxBrake, hondaRxButtons, hondaRxPcmCruise, brakeWith]
  grind

theorem EngagementMessage.brakePressed {id : HooksId} (hid : ReportsBrake id) (c : Context)
    {m : ModeParams} {toPush : CANPacket} (h : EngagementMessage id m toPush) (s : Signals)
    (v : ModeVars) :
    ((hooksOf id).rx c m toPush (s, v)).1.brakePressed = brakeWith id m toPush s v := by
  rcases hid with rfl | rfl | rfl | rfl
  · exact hondaRxHook_brakePressed c h s v
  · exact hondaRxHook_brakePressed c h s v
  · change (fordRxHook c m.ford toPush s).brakePressed = _
    simp at h
    simp [fordRxHook, fordRxBrakeCruise, brakeWith, h]
  · change (volkswagenPqRxHook c m.volkswagen toPush (s, v.volkswagen)).1.brakePressed = _
    simp at h
    simp [volkswagenPqRxHook, volkswagenPqRxMainSwitch, volkswagenPqRxButtons, volkswagenButtons,
      brakeWith, h]
    grind

/-- The pedals after an engaging message. -/
theorem Engages.pedals {id : HooksId} {toPush : CANPacket} (hchecks : ChecksPedals id toPush)
    (c : Context) {m : ModeParams} (hm : PlatformAddrs id m) {s : Signals} {v : ModeVars}
    (hs : BrakeRecalled id v s) (h : Engages id m toPush s v) :
    let t := ((hooksOf id).rx c m toPush (s, v)).1
    t.vehicleMoving = s.vehicleMoving ∧ t.regenBraking = s.regenBraking ∧
      t.brakePressed = brakeWith id m toPush s v := by
  have hid : id ≠ .body := by
    rintro rfl
    exact hchecks
  have hframe := (rx_reads hid c m toPush v).frame
  refine ⟨?_, ?_, ?_⟩
  · exact eq_of_toInt_eq (hframe .vehicleMoving (h.message.not_source hm (.inl rfl)) s hs)
  · exact eq_of_toInt_eq
      (hframe .regenBraking (h.message.not_source hm (.inr (.inl rfl))) s hs)
  · by_cases hreports : ReportsBrake id
    · exact h.message.brakePressed hreports c s v
    · have hsame : brakeWith id m toPush s v = s.brakePressed := by
        cases id <;> simp [ReportsBrake] at hreports <;> rfl
      rw [hsame]
      exact eq_of_toInt_eq
        (hframe .brakePressed (h.message.not_source hm (.inr (.inr ⟨rfl, hreports⟩))) s hs)

/-- The hook turns controls on exactly with what the mode engages on and no pedal
exits. -/
theorem rx_turnsOn_iff {id : HooksId} (c : Context) {m : ModeParams} (hm : PlatformAddrs id m)
    (toPush : CANPacket) {s : Signals} {v : ModeVars} (hs : BrakeRecalled id v s)
    (hoff : s.controlsAllowed = false) :
    ((hooksOf id).rx c m toPush (s, v)).1.controlsAllowed = true ↔
      TurnsOn id c.alternativeExperience m toPush s v := by
  by_cases hchecks : ChecksPedals id toPush
  · rw [(rx_engaging hchecks c m v hoff).controls hoff, rx_gasPressed]
    constructor
    · rintro ⟨hengages, hpermit⟩
      obtain ⟨hmoving, hregen, hbrake⟩ := hengages.pedals hchecks c hm hs
      rw [hmoving, hregen, hbrake] at hpermit
      exact ⟨hengages, fun _ => hpermit⟩
    · rintro ⟨hengages, hpermit⟩
      obtain ⟨hmoving, hregen, hbrake⟩ := hengages.pedals hchecks c hm hs
      rw [hmoving, hregen, hbrake]
      exact ⟨hengages, hpermit hchecks⟩
  · rw [rx_engages_unchecked hchecks c m v hoff]
    exact ⟨fun hengages => ⟨hengages, fun hrun => absurd hrun hchecks⟩, TurnsOn.engages⟩

end Pedals

/-! ### Sessions -/

theorem Configured.platformAddrs {id : HooksId} {s : State} (h : Configured id s) :
    PlatformAddrs id s.params := by
  rintro rfl hplatform
  obtain ⟨param, m, v, hparams, -⟩ := h.init
  have hinit : s.params.chrysler = (chryslerInit param).params := by
    rw [hparams]
    rfl
  rw [hinit] at hplatform ⊢
  unfold chryslerInit at hplatform ⊢
  split_ifs at hplatform ⊢
  rfl

/-- If the received message turns controls on, it is the selected variant of an entry
whose checksum, quality flag and counter are valid after the call. -/
def EngagedByEntry (ts : UInt32) (toPush : CANPacket) (s : State) : Prop :=
  s.signals.controlsAllowed = false → (safetyRxHook ts toPush s).signals.controlsAllowed = true →
    ∃ check ∈ (safetyRxHook ts toPush s).cfg.rxChecks,
      Matched toPush check ∧ isMsgValid check = true

/-- With controls off, a message that no entry is for carries what turns controls on. -/
structure EngagesUnchecked (toPush : CANPacket) (s : State) : Prop where
  off : s.signals.controlsAllowed = false
  unknown : ∀ check ∈ s.cfg.rxChecks, ¬ EntryFor toPush check
  turnsOn : TurnsOn s.currentHooks s.alternativeExperience s.params toPush s.signals s.vars

/-- A message that no entry is for reaches the hook and matches no entry after. -/
theorem rx_unknown {s : State} {toPush : CANPacket} (ts : UInt32)
    (h : ∀ check ∈ s.cfg.rxChecks, ¬ EntryFor toPush check) :
    (safetyRxHook ts toPush s).signals =
        (s.hooks.rx (s.context ts) s.params toPush (s.signals, s.vars)).1 ∧
      ∀ check ∈ (safetyRxHook ts toPush s).cfg.rxChecks, ¬ Matched toPush check := by
  have hindex := (getAddrCheckIndex_eq_none toPush s.cfg.rxChecks).mpr h
  change (s.rxSignals ts toPush).1 = _ ∧ ∀ check ∈ s.rxChecksAfter ts toPush, _
  unfold State.rxSignals State.rxValid State.rxChecksAfter rxMsgSafetyCheck
  cases hlookup : getAddrCheckIndex toPush s.cfg.rxChecks with
  | mk index after =>
      rw [hlookup] at hindex
      cases hindex
      exact ⟨rfl, getAddrCheckIndex_none hlookup⟩

theorem rx_engagedByEntry_iff {s : State} (hm : PlatformAddrs s.currentHooks s.params)
    (hs : s.BrakeRecalled) (ts : UInt32) (toPush : CANPacket) :
    EngagedByEntry ts toPush s ↔ ¬ EngagesUnchecked toPush s := by
  constructor
  · rintro hentry ⟨hoff, hunknown, hturnsOn⟩
    obtain ⟨hsignals, hmiss⟩ := rx_unknown ts hunknown
    have hon := (rx_turnsOn_iff (s.context ts) hm toPush hs hoff).mpr hturnsOn
    obtain ⟨check, hcheck, hmatched, -⟩ := hentry hoff (hsignals ▸ hon)
    exact hmiss check hcheck hmatched
  · intro hchecked hoff hon
    rcases (rx_turns_controls_on hoff hon).2 with hvalid | hmiss
    · exact hvalid
    · exfalso
      cases hindex : matchedIndex toPush s with
      | some i =>
          obtain ⟨check, -, hentry, hmatched, -⟩ := rx_entry_matched ts hindex
          exact hmiss _ (List.mem_of_getElem? hentry) (checkMsg_matched hmatched)
      | none =>
          have hunknown := (getAddrCheckIndex_eq_none toPush s.cfg.rxChecks).mp hindex
          rw [(rx_unknown ts hunknown).1] at hon
          exact hchecked ⟨hoff, hunknown,
            (rx_turnsOn_iff (s.context ts) hm toPush hs hoff).mp hon⟩

/-- In every session, a received message that turns controls on has a valid entry
exactly if it does not engage without one. -/
theorem engagedByEntry_iff {mode : UInt16} {id : HooksId} (hmode : registered mode = some id)
    (param : UInt16) (before : State) (events : List Event) (ts : UInt32) (toPush : CANPacket) :
    EngagedByEntry ts toPush (session mode param before events) ↔
      ¬ EngagesUnchecked toPush (session mode param before events) := by
  have hconfigured := session_configured hmode param before events
  apply rx_engagedByEntry_iff
  · rw [hconfigured.currentHooks]
    exact hconfigured.platformAddrs
  · exact run_invariant step_brakeRecalled (setSafetyHooks_brakeRecalled hmode param before) events

/-- Toyota cruise engaged, in a frame of one byte. -/
def shortCruiseMessage : CANPacket := .ofBytes 0x1D2 0 1 [0x30]

/-- The whole frame engages through its entry, and its first byte without one. -/
theorem engagedByEntry_toyota :
    (∃ check ∈ (safetyRxHook 0 cruiseMessage (session safetyToyota 0 bootState [])).cfg.rxChecks,
        Matched cruiseMessage check ∧ isMsgValid check = true) ∧
      ¬ EngagedByEntry 0 shortCruiseMessage (session safetyToyota 0 bootState []) := by
  have hmode : registered safetyToyota = some .toyota := by decide
  constructor
  · have hentry : ∃ check ∈ (session safetyToyota 0 bootState []).cfg.rxChecks,
        EntryFor cruiseMessage check := by
      decide
    obtain ⟨check, hcheck, hfor⟩ := hentry
    apply (engagedByEntry_iff hmode 0 bootState [] 0 cruiseMessage).mpr
    · exact fun hengages => hengages.unknown check hcheck hfor
    · decide
    · decide
  · rw [engagedByEntry_iff hmode 0 bootState [] 0 shortCruiseMessage, not_not]
    have hunknown : ∀ check ∈ (session safetyToyota 0 bootState []).cfg.rxChecks,
        ¬ EntryFor shortCruiseMessage check := by
      decide
    have hraises : RaisesCruise .toyota (session safetyToyota 0 bootState []).params
        shortCruiseMessage (session safetyToyota 0 bootState []).signals :=
      ⟨by decide, by decide⟩
    refine ⟨by decide, hunknown, ⟨hraises, fun _ => ⟨?_, ?_, ?_⟩⟩⟩
    · decide
    · decide
    · decide

theorem short_message_turns_controls_on :
    ¬ ∀ mode param before events ts toPush,
      (session mode param before events).cfg.rxChecks ≠ [] →
      (session mode param before events).signals.controlsAllowed = false →
      (safetyRxHook ts toPush (session mode param before events)).signals.controlsAllowed = true →
      ∃ check ∈ (safetyRxHook ts toPush (session mode param before events)).cfg.rxChecks,
        Matched toPush check ∧ isMsgValid check = true := by
  intro hall
  have hoff : (session safetyToyota 0 bootState []).signals.controlsAllowed = false := by
    decide
  have hon : (safetyRxHook 0 shortCruiseMessage
      (session safetyToyota 0 bootState [])).signals.controlsAllowed = true := by
    decide
  obtain ⟨check, hcheck, hmatched, -⟩ :=
    hall safetyToyota 0 bootState [] 0 shortCruiseMessage (List.cons_ne_nil _ _) hoff hon
  have hnone : (safetyRxHook 0 shortCruiseMessage
      (session safetyToyota 0 bootState [])).cfg.rxChecks.all
        (fun check =>
          !(check.status.msgSeen && check.selected.isOf shortCruiseMessage)) = true := by
    decide
  have hmiss := List.all_eq_true.mp hnone check hcheck
  obtain ⟨hseen, hof⟩ := hmatched
  simp [hseen, hof] at hmiss

end Panda.Safety
