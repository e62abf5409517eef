import Panda.Safety.PedalMemory
import Panda.Safety.PedalMotion
import Panda.Safety.Engagement

/-!
Engagement by the car's own cruise control. In the modes whose only way to turn
controls on is `pcm_cruise_check`, controls are on only while the car reports
cruise engaged, and since the last rising edge of that report nothing happened
that exits controls.
-/

namespace Panda.Safety

open Library

/-- The modes in which only `pcm_cruise_check` turns controls on. -/
def PcmCruiseMode (id : HooksId) (m : ModeParams) : Prop :=
  match id with
  | .toyota | .chrysler | .subaru | .subaruPreglobal | .mazda | .nissan | .tesla | .ford => True
  | .gm => m.gm.pcmCruise = true
  | .volkswagenMqb | .volkswagenPq => m.volkswagen.longitudinal = false
  | _ => False

/-- What the message reports of the car's cruise control, as the mode's hook
reads it. -/
def cruiseReport (id : HooksId) (m : ModeParams) (toPush : CANPacket) : Option Bool :=
  let addr := getAddr toPush
  let bus := getBus toPush
  match id with
  | .toyota => if bus = 0 ∧ addr = 0x1D2 then some (getBit toPush 5) else none
  | .chrysler =>
      if bus = chryslerDas3Bus m.chrysler ∧ addr = m.chrysler.addrs.das3 then
        some (getBit toPush 21)
      else none
  | .subaru =>
      if addr = subaruCruiseControl ∧ bus = subaruAltMainBus m.subaru then
        some (getBit toPush 41)
      else none
  | .subaruPreglobal =>
      if bus = subaruPgMainBus ∧ addr = subaruPgCruiseControl then some (getBit toPush 49)
      else none
  | .mazda =>
      if bus = mazdaMain ∧ addr = mazdaCrzCtrl then some ((getByte toPush 0 &&& 0x8) != 0)
      else none
  | .nissan =>
      if addr = 0x30f ∧ bus = nissanCruiseBus m.nissan then
        some (((getByte toPush 0 >>> 3) &&& 1) != 0)
      else none
  | .tesla =>
      if bus = 0 ∧ addr = (if m.tesla.powertrain then 0x256 else 0x368) then
        some (teslaCruiseEngaged toPush)
      else none
  | .ford =>
      if bus = fordMainBus ∧ addr = fordEngBrakeData then
        some (getByte toPush 1 &&& 0x07 == 4 || getByte toPush 1 &&& 0x07 == 5)
      else none
  | .gm => if bus = 0 ∧ addr = 0x1C4 then some ((getByte toPush 1 >>> 5) != 0) else none
  | .volkswagenMqb =>
      if bus = 0 ∧ addr = msgTsk06 then
        some (getByte toPush 3 &&& 0x7 == 3 || getByte toPush 3 &&& 0x7 == 4 ||
          getByte toPush 3 &&& 0x7 == 5)
      else none
  | .volkswagenPq =>
      if bus = 0 ∧ addr = msgMotor2 then some (volkswagenPqCruiseEngaged toPush) else none
  | _ => none

/-! ### The receive hook -/

/-- The signals before the common checks of a hook: a cruise report went through
`pcm_cruise_check`, and the previous pedals are still in place. -/
structure BeforeCommonChecks (report : Option Bool) (s u : Signals) : Prop where
  cruise : u.cruiseEngagedPrev = report.getD s.cruiseEngagedPrev
  controls : u.controlsAllowed = true → report.getD s.controlsAllowed = true ∧
    (s.controlsAllowed = false → s.cruiseEngagedPrev = false)
  engages : report = some true → s.cruiseEngagedPrev = false → u.controlsAllowed = true
  gas : u.gasPressedPrev = s.gasPressedPrev
  brake : u.brakePressedPrev = s.brakePressedPrev
  regen : u.regenBrakingPrev = s.regenBrakingPrev

/-- A hook that runs the common checks last, or that ignores a message without
a cruise report. -/
def PcmCruiseHook (c : Context) (report : Option Bool) (s t : Signals) : Prop :=
  (t = s ∧ report = none) ∨
    ∃ stockEcuDetected u, t = genericRxChecks c stockEcuDetected u ∧
      BeforeCommonChecks report s u

theorem PcmCruiseHook.of_checks {c : Context} {report : Option Bool} {s u : Signals}
    {stockEcuDetected : Bool} (h : BeforeCommonChecks report s u) :
    PcmCruiseHook c report s (genericRxChecks c stockEcuDetected u) :=
  Or.inr ⟨stockEcuDetected, u, rfl, h⟩

/-- A hook whose bus test guards everything. -/
theorem PcmCruiseHook.of_guarded {c : Context} {report : Option Bool} {s : Signals}
    {bus : Prop} [Decidable bus] {f : Signals → Signals}
    (hf : bus → PcmCruiseHook c report s (f s)) (hreport : ¬ bus → report = none) :
    PcmCruiseHook c report s (guarded bus f s) := by
  by_cases hbus : bus
  · rw [guarded_of_pos hbus]
    exact hf hbus
  · rw [guarded_of_neg hbus]
    exact Or.inl ⟨rfl, hreport hbus⟩

theorem PcmCruiseHook.of_guarded_fst {D : Type} {c : Context} {report : Option Bool}
    {sv : Signals × D} {bus : Prop} [Decidable bus] {f : Signals × D → Signals × D}
    (hf : bus → PcmCruiseHook c report sv.1 (f sv).1) (hreport : ¬ bus → report = none) :
    PcmCruiseHook c report sv.1 (guarded bus f sv).1 := by
  by_cases hbus : bus
  · rw [guarded_of_pos hbus]
    exact hf hbus
  · rw [guarded_of_neg hbus]
    exact Or.inl ⟨rfl, hreport hbus⟩

section Modes

attribute [local simp] cruiseReport

theorem toyotaRxHook_pcmCruise (c : Context) (m : ModeParams) (toPush : CANPacket)
    (s : Signals) :
    PcmCruiseHook c (cruiseReport .toyota m toPush) s (toyotaRxHook c m.toyota toPush s) := by
  unfold toyotaRxHook
  apply PcmCruiseHook.of_guarded
  · intro hbus
    apply PcmCruiseHook.of_checks
    constructor <;> simp [toyotaRxSteering, updateVehicleSpeed, pcmCruiseCheck, hbus]
    · grind
    · grind
    · grind
  · intro hbus
    simp [hbus]

theorem gmRxHook_pcmCruise (c : Context) {m : ModeParams} (hpcm : m.gm.pcmCruise = true)
    (toPush : CANPacket) (s : Signals) :
    PcmCruiseHook c (cruiseReport .gm m toPush) s (gmRxHook c m.gm toPush s) := by
  unfold gmRxHook
  apply PcmCruiseHook.of_guarded
  · intro hbus
    apply PcmCruiseHook.of_checks
    constructor <;> simp [pcmCruiseCheck, hbus, hpcm]
    · grind
    · grind
    · grind
  · intro hbus
    simp [hbus]

theorem fordRxHook_pcmCruise (c : Context) (m : ModeParams) (toPush : CANPacket)
    (s : Signals) :
    PcmCruiseHook c (cruiseReport .ford m toPush) s (fordRxHook c m.ford toPush s) := by
  unfold fordRxHook
  apply PcmCruiseHook.of_guarded
  · intro hbus
    apply PcmCruiseHook.of_checks
    constructor <;> simp [fordRxSecondSpeed, fordRxYawRate, fordRxBrakeCruise, updateVehicleSpeed,
      pcmCruiseCheck, hbus]
    · grind
    · grind
    · grind
  · intro hbus
    simp [hbus]

theorem teslaRxHook_pcmCruise (c : Context) (m : ModeParams) (toPush : CANPacket)
    (sv : Signals × TeslaVars) :
    PcmCruiseHook c (cruiseReport .tesla m toPush) sv.1 (teslaRxHook c m.tesla toPush sv).1 := by
  unfold teslaRxHook
  apply PcmCruiseHook.of_checks
  constructor <;> simp [updateVehicleSpeed, pcmCruiseCheck]
  · grind
  · grind
  · grind

theorem chryslerRxHook_pcmCruise (c : Context) (m : ModeParams) (toPush : CANPacket)
    (s : Signals) :
    PcmCruiseHook c (cruiseReport .chrysler m toPush) s
      (chryslerRxHook c m.chrysler toPush s) := by
  unfold chryslerRxHook
  apply PcmCruiseHook.of_checks
  constructor <;> simp [pcmCruiseCheck]
  · grind
  · grind
  · grind

theorem subaruRxHook_pcmCruise (c : Context) (m : ModeParams) (toPush : CANPacket)
    (s : Signals) :
    PcmCruiseHook c (cruiseReport .subaru m toPush) s (subaruRxHook c m.subaru toPush s) := by
  unfold subaruRxHook
  apply PcmCruiseHook.of_checks
  constructor <;> simp [subaruRxSteeringTorque, subaruRxWheelSpeeds, updateVehicleSpeed,
    pcmCruiseCheck]
  · grind
  · grind
  · grind

theorem subaruPreglobalRxHook_pcmCruise (c : Context) (m : ModeParams) (toPush : CANPacket)
    (s : Signals) :
    PcmCruiseHook c (cruiseReport .subaruPreglobal m toPush) s
      (subaruPreglobalRxHook c m.subaruPreglobal toPush s) := by
  unfold subaruPreglobalRxHook
  apply PcmCruiseHook.of_guarded
  · intro hbus
    apply PcmCruiseHook.of_checks
    constructor <;> simp [pcmCruiseCheck, hbus]
    · grind
    · grind
    · grind
  · intro hbus
    simp [hbus]

theorem mazdaRxHook_pcmCruise (c : Context) (m : ModeParams) (toPush : CANPacket)
    (s : Signals) :
    PcmCruiseHook c (cruiseReport .mazda m toPush) s (mazdaRxHook c toPush s) := by
  unfold mazdaRxHook
  apply PcmCruiseHook.of_guarded
  · intro hbus
    apply PcmCruiseHook.of_checks
    constructor <;> simp [pcmCruiseCheck, hbus]
    · grind
    · grind
    · grind
  · intro hbus
    simp [hbus]

theorem nissanRxHook_pcmCruise (c : Context) (m : ModeParams) (toPush : CANPacket)
    (s : Signals) :
    PcmCruiseHook c (cruiseReport .nissan m toPush) s (nissanRxHook c m.nissan toPush s) := by
  unfold nissanRxHook
  apply PcmCruiseHook.of_checks
  constructor <;> simp [nissanRxGas, nissanRxBrake, updateVehicleSpeed, pcmCruiseCheck]
  · grind
  · grind
  · grind

theorem volkswagenMqbRxHook_pcmCruise (c : Context) {m : ModeParams}
    (hlong : m.volkswagen.longitudinal = false) (toPush : CANPacket)
    (sv : Signals × (VolkswagenVars × VolkswagenMqbVars)) :
    PcmCruiseHook c (cruiseReport .volkswagenMqb m toPush) sv.1
      (volkswagenMqbRxHook c m.volkswagen toPush sv).1 := by
  unfold volkswagenMqbRxHook
  apply PcmCruiseHook.of_guarded_fst
  · intro hbus
    apply PcmCruiseHook.of_checks
    constructor <;> simp [volkswagenMqbRxAccStatus, volkswagenMqbRxButtons, volkswagenMqbRxBrake,
      pcmCruiseCheck, hbus, hlong]
    · grind
    · grind
    · grind [msgTsk06, msgGraAcc01]
  · intro hbus
    simp [hbus]

theorem volkswagenPqRxHook_pcmCruise (c : Context) {m : ModeParams}
    (hlong : m.volkswagen.longitudinal = false) (toPush : CANPacket)
    (sv : Signals × VolkswagenVars) :
    PcmCruiseHook c (cruiseReport .volkswagenPq m toPush) sv.1
      (volkswagenPqRxHook c m.volkswagen toPush sv).1 := by
  unfold volkswagenPqRxHook
  apply PcmCruiseHook.of_guarded_fst
  · intro hbus
    apply PcmCruiseHook.of_checks
    constructor <;> simp [pcmCruiseCheck, hbus, hlong]
    · grind
    · grind
    · grind
  · intro hbus
    simp [hbus]

theorem rx_pcmCruise {id : HooksId} {m : ModeParams} (hpcm : PcmCruiseMode id m) (c : Context)
    (toPush : CANPacket) (s : Signals) (v : ModeVars) :
    PcmCruiseHook c (cruiseReport id m toPush) s ((hooksOf id).rx c m toPush (s, v)).1 := by
  cases id with
  | toyota => exact toyotaRxHook_pcmCruise c m toPush s
  | gm => exact gmRxHook_pcmCruise c hpcm toPush s
  | ford => exact fordRxHook_pcmCruise c m toPush s
  | tesla => exact teslaRxHook_pcmCruise c m toPush (s, v.tesla)
  | chrysler => exact chryslerRxHook_pcmCruise c m toPush s
  | subaru => exact subaruRxHook_pcmCruise c m toPush s
  | subaruPreglobal => exact subaruPreglobalRxHook_pcmCruise c m toPush s
  | mazda => exact mazdaRxHook_pcmCruise c m toPush s
  | nissan => exact nissanRxHook_pcmCruise c m toPush s
  | volkswagenMqb =>
      exact volkswagenMqbRxHook_pcmCruise c hpcm toPush (s, v.volkswagen, v.volkswagenMqb)
  | volkswagenPq => exact volkswagenPqRxHook_pcmCruise c hpcm toPush (s, v.volkswagen)
  | nooutput | elm327 | alloutput | hondaNidec | hondaBosch | hyundai | hyundaiLegacy
  | hyundaiCanfd | body => exact hpcm.elim

end Modes

/-! ### One call -/

/-- The cruise report of a message that the validation passes on to the hook. -/
def processedCruiseReport (s : State) : Event → Option Bool
  | .rx ts toPush =>
      if s.rxValid ts toPush then cruiseReport s.currentHooks s.params toPush else none
  | _ => none

/-- A processed message that reports cruise engaged after it was not. -/
def CruiseRisingEdge (s : State) (e : Event) : Prop :=
  processedCruiseReport s e = some true ∧ s.signals.cruiseEngagedPrev = false

/-- The pedal reports of a call that exit controls: the edges compare the
pedals before and after the call. -/
structure NoPedalExit (alternativeExperience : Nat) (before after : Signals) : Prop where
  gas : after.gasPressed = true → before.gasPressed = false →
    (alternativeExperience &&& altExpDisableDisengageOnGas) ≠ 0
  brake : after.brakePressed = true → before.brakePressed = true
  regen : after.regenBraking = true → before.regenBraking = true
  moving : ¬ PedalWhileMoving after

/-- Nothing in the call exits controls: no message reports cruise disengaged or
fails its checks, no pedal exits, and no tick finds a check lagging or
invalid. -/
structure NoExit (s : State) (e : Event) : Prop where
  cruise : processedCruiseReport s e ≠ some false
  valid : ∀ ts toPush, e = .rx ts toPush → s.rxValid ts toPush = true
  pedals : NoPedalExit s.alternativeExperience s.signals (step s e).signals
  tick : ∀ ts, e = .tick ts → (step s e).safetyRxChecksInvalid = false

/-- What holds of the state between two calls in a mode with `pcm_cruise_check`. -/
structure PcmState (s : State) : Prop where
  mode : PcmCruiseMode s.currentHooks s.params
  remembered : PedalsRemembered s.signals
  safe : PedalSafe s.signals
  engaged : s.signals.controlsAllowed = true → s.signals.cruiseEngagedPrev = true

/-- The common checks keep controls only when no pedal exits. -/
theorem genericRxChecks_noPedalExit {c : Context} {report : Option Bool} {s u : Signals}
    {stockEcuDetected : Bool} (hs : PedalsRemembered s) (hu : BeforeCommonChecks report s u)
    (h : (genericRxChecks c stockEcuDetected u).controlsAllowed = true) :
    NoPedalExit c.alternativeExperience s (genericRxChecks c stockEcuDetected u) := by
  have hsafe := genericRxChecks_pedalSafe c stockEcuDetected u h
  simp only [genericRxChecks, Bool.and_eq_true, Bool.not_eq_true', hu.gas, hu.brake, hu.regen,
    ← hs.gas, ← hs.brake, ← hs.regen] at h
  obtain ⟨⟨⟨-, hgas⟩, hbrake⟩, hregen⟩ := h
  refine ⟨?_, ?_, ?_, hsafe⟩
  · intro hpressed hreleased
    have hpressed : u.gasPressed = true := hpressed
    simpa [hpressed, hreleased] using hgas
  · intro hpressed
    have hpressed : u.brakePressed = true := hpressed
    simp only [hpressed, Bool.true_and, Bool.or_eq_false_iff] at hbrake
    simpa using hbrake.1
  · intro hpressed
    have hpressed : u.regenBraking = true := hpressed
    simp only [hpressed, Bool.true_and, Bool.or_eq_false_iff] at hregen
    simpa using hregen.1

/-- A call that leaves the pedals alone does not exit by them. -/
theorem NoPedalExit.of_unchanged (alternativeExperience : Nat) {s t : Signals}
    (hsafe : ¬ PedalWhileMoving t) (hgas : t.gasPressed = s.gasPressed)
    (hbrake : t.brakePressed = s.brakePressed) (hregen : t.regenBraking = s.regenBraking) :
    NoPedalExit alternativeExperience s t where
  gas hpressed hreleased := by
    rw [hgas, hreleased] at hpressed
    cases hpressed
  brake hpressed := hbrake ▸ hpressed
  regen hpressed := hregen ▸ hpressed
  moving := hsafe

/-- A hook of a mode with `pcm_cruise_check` leaves controls on only by a report
of cruise engaged, or without a report when they were on. -/
structure PcmKept (alternativeExperience : Nat) (report : Option Bool) (s t : Signals) :
    Prop where
  reported : report.getD s.controlsAllowed = true
  edge : s.controlsAllowed = false → s.cruiseEngagedPrev = false
  cruise : t.cruiseEngagedPrev = report.getD s.cruiseEngagedPrev
  pedals : NoPedalExit alternativeExperience s t

theorem PcmCruiseHook.kept {c : Context} {report : Option Bool} {s t : Signals}
    (h : PcmCruiseHook c report s t) (hs : PedalsRemembered s) (hsafe : PedalSafe s)
    (hon : t.controlsAllowed = true) : PcmKept c.alternativeExperience report s t := by
  rcases h with ⟨rfl, rfl⟩ | ⟨stockEcuDetected, u, rfl, hu⟩
  · have hpedals := NoPedalExit.of_unchanged c.alternativeExperience (hsafe hon) rfl rfl rfl
    refine ⟨hon, ?_, rfl, hpedals⟩
    intro hoff
    rw [hoff] at hon
    cases hon
  · obtain ⟨hreport, hedge⟩ := hu.controls (genericRxChecks_lowers hon)
    exact ⟨hreport, hedge, hu.cruise, genericRxChecks_noPedalExit hs hu hon⟩

/-- A received message after which controls are on reached the hook. -/
theorem rx_kept {s : State} (hs : PcmState s) {ts : UInt32} {toPush : CANPacket}
    (hon : (step s (.rx ts toPush)).signals.controlsAllowed = true) :
    s.rxValid ts toPush = true ∧
      PcmKept s.alternativeExperience (cruiseReport s.currentHooks s.params toPush) s.signals
        (step s (.rx ts toPush)).signals := by
  have hsignals : (step s (.rx ts toPush)).signals = (s.rxSignals ts toPush).1 := rfl
  rw [hsignals] at hon ⊢
  unfold State.rxSignals at hon ⊢
  by_cases hvalid : s.rxValid ts toPush = true
  · rw [if_pos hvalid] at hon ⊢
    have hhook := rx_pcmCruise hs.mode (s.context ts) toPush s.signals s.vars
    exact ⟨hvalid, hhook.kept hs.remembered hs.safe hon⟩
  · rw [if_neg hvalid] at hon
    cases hon

/-- If controls are on after a call, nothing in the call exits them, and they
were on before it or the call is a rising edge of cruise engaged. -/
theorem step_kept {s : State} (hs : PcmState s) {e : Event}
    (hon : (step s e).signals.controlsAllowed = true) :
    NoExit s e ∧ (CruiseRisingEdge s e ∨ s.signals.controlsAllowed = true) := by
  cases e with
  | rx ts toPush =>
      obtain ⟨hvalid, hkept⟩ := rx_kept hs hon
      have hreport : processedCruiseReport s (.rx ts toPush) =
          cruiseReport s.currentHooks s.params toPush := if_pos hvalid
      have hnotOff : cruiseReport s.currentHooks s.params toPush ≠ some false := by
        intro hoff
        have hreported := hkept.reported
        rw [hoff] at hreported
        cases hreported
      constructor
      · refine ⟨by rwa [hreport], ?_, hkept.pedals, by rintro _ ⟨⟩⟩
        rintro _ _ ⟨⟩
        exact hvalid
      · by_cases hbefore : s.signals.controlsAllowed = true
        · exact Or.inr hbefore
        · left
          have hoff : s.signals.controlsAllowed = false := by simpa using hbefore
          refine ⟨?_, hkept.edge hoff⟩
          rw [hreport]
          have hreported := hkept.reported
          cases hcruise : cruiseReport s.currentHooks s.params toPush with
          | none =>
              rw [hcruise, Option.getD_none, hoff] at hreported
              cases hreported
          | some engaged =>
              rw [hcruise, Option.getD_some] at hreported
              rw [hreported]
  | tx | fwd | modeSecond =>
      have hpedals : NoPedalExit s.alternativeExperience s.signals s.signals :=
        NoPedalExit.of_unchanged _ (hs.safe hon) rfl rfl rfl
      exact ⟨⟨by simp [processedCruiseReport], by rintro _ _ ⟨⟩, hpedals, by rintro _ ⟨⟩⟩,
        Or.inr hon⟩
  | tick ts =>
      obtain ⟨hbefore, hvalid⟩ := Bool.and_eq_true_iff.mp hon
      have hpedals := NoPedalExit.of_unchanged s.alternativeExperience (s := s.signals)
        (t := (step s (.tick ts)).signals) (hs.safe hbefore) rfl rfl rfl
      refine ⟨⟨by simp [processedCruiseReport], by rintro _ _ ⟨⟩, hpedals, ?_⟩, Or.inr hbefore⟩
      intro ts' hts
      exact (Bool.not_eq_true' _).mp hvalid
  | exitUnused heartbeatEngaged =>
      obtain ⟨hbefore, -⟩ := Bool.and_eq_true_iff.mp hon
      have hpedals := NoPedalExit.of_unchanged s.alternativeExperience (s := s.signals)
        (t := (step s (.exitUnused heartbeatEngaged)).signals) (hs.safe hbefore) rfl rfl rfl
      exact ⟨⟨by simp [processedCruiseReport], by rintro _ _ ⟨⟩, hpedals, by rintro _ ⟨⟩⟩,
        Or.inr hbefore⟩

theorem step_pcmState (s : State) (e : Event) (hs : PcmState s) : PcmState (step s e) where
  mode := by
    rw [step_currentHooks, step_params]
    exact hs.mode
  remembered := step_pedalsRemembered s e hs.remembered
  safe := by
    intro hon
    exact (step_kept hs hon).1.pedals.moving
  engaged := by
    intro hon
    cases e with
    | rx ts toPush =>
        obtain ⟨-, hkept⟩ := rx_kept hs hon
        rw [hkept.cruise]
        have hreported := hkept.reported
        cases hcruise : cruiseReport s.currentHooks s.params toPush with
        | none =>
            rw [hcruise, Option.getD_none] at hreported
            exact hs.engaged hreported
        | some engaged =>
            rw [hcruise, Option.getD_some] at hreported
            exact hreported
    | tx | fwd | modeSecond => exact hs.engaged hon
    | tick | exitUnused => exact hs.engaged (Bool.and_eq_true_iff.mp hon).1

/-! ### Sessions -/

theorem PcmCruiseMode.registered_ne {mode param : UInt16} {before : State}
    (hpcm : PcmCruiseMode (setSafetyHooks mode param before).currentHooks
      (setSafetyHooks mode param before).params) : registered mode ≠ some .alloutput := by
  intro hall
  rw [setSafetyHooks_registered hall] at hpcm
  exact hpcm

theorem setSafetyHooks_pcmState {mode param : UInt16} {before : State}
    (hpcm : PcmCruiseMode (setSafetyHooks mode param before).currentHooks
      (setSafetyHooks mode param before).params) :
    PcmState (setSafetyHooks mode param before) where
  mode := hpcm
  remembered := setSafetyHooks_pedalsRemembered mode param before
  safe := PedalSafe.of_controls_off (setSafetyHooks_controls_off hpcm.registered_ne param before)
  engaged := by
    intro hon
    rw [setSafetyHooks_controls_off hpcm.registered_ne param before] at hon
    cases hon

/-- The run has a last rising edge of cruise engaged, and nothing in its call or
in the calls since then exits controls. -/
def UndisturbedSinceRisingEdge (s : State) (events : List Event) : Prop :=
  ∃ first e rest, events = first ++ e :: rest ∧
    CruiseRisingEdge (run step s first) e ∧ NoExit (run step s first) e ∧
    Along step (fun s e => NoExit s e ∧ ¬ CruiseRisingEdge s e)
      (step (run step s first) e) rest

/-- In every session of a mode with `pcm_cruise_check`: while controls are on,
cruise is engaged and nothing exited controls since its last rising edge. -/
theorem pcm_controls_since_rising_edge {mode param : UInt16} {before : State}
    (hpcm : PcmCruiseMode (setSafetyHooks mode param before).currentHooks
      (setSafetyHooks mode param before).params) {events : List Event}
    (hon : (session mode param before events).signals.controlsAllowed = true) :
    (session mode param before events).signals.cruiseEngagedPrev = true ∧
      UndisturbedSinceRisingEdge (setSafetyHooks mode param before) events := by
  have hstart := setSafetyHooks_pcmState hpcm
  have hend : PcmState (session mode param before events) :=
    run_invariant step_pcmState hstart events
  have hoff : ¬ (setSafetyHooks mode param before).signals.controlsAllowed = true := by
    simp [setSafetyHooks_controls_off hpcm.registered_ne param before]
  have hstep : ∀ (s : State) (e : Event), PcmState s →
      (step s e).signals.controlsAllowed = true → (CruiseRisingEdge s e ∧ NoExit s e) ∨
        (s.signals.controlsAllowed = true ∧ NoExit s e ∧ ¬ CruiseRisingEdge s e) := by
    intro s e hs hon
    obtain ⟨hnoExit, hcause⟩ := step_kept hs hon
    by_cases hedge : CruiseRisingEdge s e
    · exact Or.inl ⟨hedge, hnoExit⟩
    · exact Or.inr ⟨hcause.resolve_left hedge, hnoExit, hedge⟩
  obtain ⟨first, e, rest, hevents, ⟨hedge, hnoExit⟩, hquiet⟩ :=
    run_since (P := fun s : State => s.signals.controlsAllowed = true) step_pcmState hstep
      hstart hoff hon
  exact ⟨hend.engaged hon, first, e, rest, hevents, hedge, hnoExit, hquiet⟩

/-- Toyota cruise engaged with the gas pedal released, as the car sends it. -/
def cruiseMessage : CANPacket := .ofBytes 0x1D2 0 8 [0x30, 0, 0, 0, 0, 0, 0, 0x0B]

/-- Cruise is engaged, the other messages of the check list follow, and a tick. -/
def toyotaDrive : List Event :=
  [.rx 0 (.ofBytes 0x1D2 0 8 [0x10, 0, 0, 0, 0, 0, 0, 0xEB]), .rx 1000 cruiseMessage,
    .rx 2000 (.ofBytes 0xAA 0 8 [0x1A, 0x6F, 0x1A, 0x6F, 0x1A, 0x6F, 0x1A, 0x6F]),
    .rx 3000 (.ofBytes 0x260 0 8 [0, 0, 0, 0, 0, 0, 0, 0x6A]),
    .rx 4000 (.ofBytes 0x226 0 8 []), .tick 5000, .rx 6000 cruiseMessage]

theorem pcm_controls_since_rising_edge_toyota :
    (session safetyToyota 0 bootState toyotaDrive).signals.cruiseEngagedPrev = true ∧
      UndisturbedSinceRisingEdge (setSafetyHooks safetyToyota 0 bootState) toyotaDrive := by
  have hpcm : PcmCruiseMode (setSafetyHooks safetyToyota 0 bootState).currentHooks
      (setSafetyHooks safetyToyota 0 bootState).params := trivial
  have hon : (session safetyToyota 0 bootState toyotaDrive).signals.controlsAllowed = true := by
    decide +kernel
  exact pcm_controls_since_rising_edge hpcm hon

end Panda.Safety
