import Panda.Safety.Session

/-!
The pedals and their previous values. The longitudinal checks read the copies
that the common checks refresh, and a hook that can report a pedal runs the
common checks last. So between calls the copies are the pedals themselves, and
while the gas pedal is reported pressed, only inactive longitudinal commands
pass.
-/

namespace Panda.Safety

open Library

/-- The previous value of each pedal is its value. -/
structure PedalsRemembered (s : Signals) : Prop where
  gas : s.gasPressed = s.gasPressedPrev
  brake : s.brakePressed = s.brakePressedPrev
  regen : s.regenBraking = s.regenBrakingPrev

theorem genericRxChecks_pedalsRemembered (c : Context) (stockEcuDetected : Bool) (s : Signals) :
    PedalsRemembered (genericRxChecks c stockEcuDetected s) := by
  constructor <;> rfl

/-! ### Every mode -/

/-- A hook whose bus test guards everything, the common checks included. -/
private theorem guarded_pedalsRemembered {c : Prop} [Decidable c] {f : Signals → Signals}
    {s : Signals} (hf : PedalsRemembered (f s)) (hs : PedalsRemembered s) :
    PedalsRemembered (guarded c f s) :=
  guarded_preserves (fun _ _ => hf) hs

private theorem guarded_pedalsRemembered_fst {D : Type} {c : Prop} [Decidable c]
    {f : Signals × D → Signals × D} {sv : Signals × D} (hf : PedalsRemembered (f sv).1)
    (hs : PedalsRemembered sv.1) : PedalsRemembered (guarded c f sv).1 :=
  by
  rw [guarded_fst]
  split
  · exact hf
  · exact hs

theorem bodyRxHook_pedalsRemembered (toPush : CANPacket) {s : Signals}
    (hs : PedalsRemembered s) : PedalsRemembered (bodyRxHook toPush s) := by
  unfold bodyRxHook
  apply guarded_pedalsRemembered
  · exact ⟨hs.gas, hs.brake, hs.regen⟩
  · exact ⟨hs.gas, hs.brake, hs.regen⟩

/-- The Hyundai hook runs the common checks for bus 0, and touches no pedal for
the others. -/
theorem hyundaiRxHook_pedalsRemembered (c : Context) (p : HyundaiParams) (toPush : CANPacket)
    {sv : Signals × HyundaiVars} (hs : PedalsRemembered sv.1) :
    PedalsRemembered (hyundaiRxHook c p toPush sv).1 := by
  have hcruise : PedalsRemembered
      (guarded (hyundaiIsScc12 p (getAddr toPush) (getBus toPush))
        (hyundaiCommonCruiseStateCheck p (hyundaiScc12CruiseEngaged toPush)) sv).1 := by
    apply guarded_pedalsRemembered_fst _ hs
    apply guarded_pedalsRemembered_fst _ hs
    exact ⟨hs.gas, hs.brake, hs.regen⟩
  unfold hyundaiRxHook
  apply guarded_pedalsRemembered_fst _ hcruise
  exact genericRxChecks_pedalsRemembered _ _ _

theorem rx_pedalsRemembered (id : HooksId) (c : Context) (m : ModeParams) (toPush : CANPacket)
    {s : Signals} (v : ModeVars) (hs : PedalsRemembered s) :
    PedalsRemembered ((hooksOf id).rx c m toPush (s, v)).1 := by
  cases id with
  | nooutput | elm327 | alloutput => exact hs
  | body => exact bodyRxHook_pedalsRemembered toPush hs
  | hyundai | hyundaiLegacy => exact hyundaiRxHook_pedalsRemembered c _ toPush hs
  | toyota =>
      change PedalsRemembered (toyotaRxHook c _ toPush s)
      apply guarded_pedalsRemembered _ hs
      exact genericRxChecks_pedalsRemembered _ _ _
  | gm =>
      change PedalsRemembered (gmRxHook c _ toPush s)
      apply guarded_pedalsRemembered _ hs
      exact genericRxChecks_pedalsRemembered _ _ _
  | ford =>
      change PedalsRemembered (fordRxHook c _ toPush s)
      apply guarded_pedalsRemembered _ hs
      exact genericRxChecks_pedalsRemembered _ _ _
  | mazda =>
      change PedalsRemembered (mazdaRxHook c toPush s)
      apply guarded_pedalsRemembered _ hs
      exact genericRxChecks_pedalsRemembered _ _ _
  | subaruPreglobal =>
      change PedalsRemembered (subaruPreglobalRxHook c _ toPush s)
      apply guarded_pedalsRemembered _ hs
      exact genericRxChecks_pedalsRemembered _ _ _
  | volkswagenMqb =>
      change PedalsRemembered (volkswagenMqbRxHook c _ toPush (s, _)).1
      apply guarded_pedalsRemembered_fst _ hs
      exact genericRxChecks_pedalsRemembered _ _ _
  | volkswagenPq =>
      change PedalsRemembered (volkswagenPqRxHook c _ toPush (s, _)).1
      apply guarded_pedalsRemembered_fst _ hs
      exact genericRxChecks_pedalsRemembered _ _ _
  | hondaNidec | hondaBosch | chrysler | subaru | nissan | hyundaiCanfd | tesla =>
      exact genericRxChecks_pedalsRemembered _ _ _

/-! ### Gas reports -/

/-- What the message reports of the gas pedal, as the mode's hook reads it. -/
def gasReport (id : HooksId) (m : ModeParams) (toPush : CANPacket) : Option Bool :=
  let addr := getAddr toPush
  let bus := getBus toPush
  match id with
  | .nooutput | .elm327 | .alloutput | .body => none
  | .hondaNidec | .hondaBosch =>
      if addr = 0x17C then some (getByte toPush 0 != 0) else none
  | .toyota => if bus = 0 ∧ addr = 0x1D2 then some (!getBit toPush 4) else none
  | .gm => if bus = 0 ∧ addr = 0x1C4 then some (getByte toPush 5 != 0) else none
  | .ford =>
      if bus = fordMainBus ∧ addr = fordEngVehicleSpThrottle then
        some ((((getByte toPush 0 &&& 0x03) <<< 8) ||| getByte toPush 1) > 0)
      else none
  | .tesla =>
      if bus = 0 ∧ addr = (if m.tesla.powertrain then 0x106 else 0x108) then
        some (getByte toPush 6 != 0)
      else none
  | .hyundai | .hyundaiLegacy =>
      if bus = 0 ∧ addr = 0x371 ∧ m.hyundai.evGasSignal then
        some ((((getByte toPush 4 &&& 0x7F) <<< 1) ||| (getByte toPush 3 >>> 7)) != 0)
      else if bus = 0 ∧ addr = 0x371 ∧ m.hyundai.hybridGasSignal then
        some (getByte toPush 7 != 0)
      else if bus = 0 ∧ addr = 0x260 ∧ ¬ m.hyundai.evGasSignal ∧ ¬ m.hyundai.hybridGasSignal then
        some ((getByte toPush 7 >>> 6) != 0)
      else none
  | .hyundaiCanfd =>
      if bus = hyundaiCanfdPtBus m.hyundai ∧ addr = 0x35 ∧ m.hyundai.evGasSignal then
        some (getByte toPush 5 != 0)
      else if bus = hyundaiCanfdPtBus m.hyundai ∧ addr = 0x105 ∧ m.hyundai.hybridGasSignal then
        some (getBit toPush 103 || getByte toPush 13 != 0 || getBit toPush 112)
      else if bus = hyundaiCanfdPtBus m.hyundai ∧ addr = 0x100 ∧
          ¬ m.hyundai.evGasSignal ∧ ¬ m.hyundai.hybridGasSignal then
        some (getBit toPush 176)
      else none
  | .chrysler =>
      if bus = 0 ∧ addr = m.chrysler.addrs.ecm5 then some (getByte toPush 0 != 0) else none
  | .subaru =>
      if addr = subaruThrottle ∧ bus = subaruMainBus then some (getByte toPush 4 != 0) else none
  | .subaruPreglobal =>
      if bus = subaruPgMainBus ∧ addr = subaruPgThrottle then some (getByte toPush 0 != 0)
      else none
  | .mazda =>
      if bus = mazdaMain ∧ addr = mazdaEngineData then
        some (getByte toPush 4 != 0 || (getByte toPush 5 &&& 0xF0) != 0)
      else none
  | .nissan =>
      if (bus = if m.nissan.altEps then 1 else 0) ∧ addr = 0x15c then
        some (((getByte toPush 5 <<< 2) ||| ((getByte toPush 6 >>> 6) &&& 0x3)) > 3)
      else if (bus = if m.nissan.altEps then 1 else 0) ∧ addr = 0x239 then
        some (getByte toPush 0 > 3)
      else none
  | .volkswagenMqb =>
      if bus = 0 ∧ addr = msgMotor20 then
        some (((getBytes toPush 0 4 >>> 12) &&& 0xFF) != 0)
      else none
  | .volkswagenPq =>
      if bus = 0 ∧ addr = msgMotor3 then some (getByte toPush 2 != 0) else none

@[simp] theorem genericRxChecks_gasPressed (c : Context) (stockEcuDetected : Bool)
    (s : Signals) : (genericRxChecks c stockEcuDetected s).gasPressed = s.gasPressed := rfl

@[simp] theorem pcmCruiseCheck_gasPressed (cruiseEngaged : Bool) (s : Signals) :
    (pcmCruiseCheck cruiseEngaged s).gasPressed = s.gasPressed := rfl

@[simp] theorem updateVehicleSpeed_gasPressed (valMs : ℚ) (s : Signals) :
    (updateVehicleSpeed valMs s).gasPressed = s.gasPressed := rfl

@[simp] theorem hyundaiCommonCruiseStateCheck_gasPressed (p : HyundaiParams)
    (cruiseEngaged : Bool) (sv : Signals × HyundaiVars) :
    (hyundaiCommonCruiseStateCheck p cruiseEngaged sv).1.gasPressed = sv.1.gasPressed := by
  simp [hyundaiCommonCruiseStateCheck]

@[simp] theorem hyundaiCommonCruiseButtonsCheck_gasPressed (p : HyundaiParams)
    (cruiseButton : Nat) (mainButton : Bool) (sv : Signals × HyundaiVars) :
    (hyundaiCommonCruiseButtonsCheck p cruiseButton mainButton sv).1.gasPressed =
      sv.1.gasPressed := by
  simp [hyundaiCommonCruiseButtonsCheck, hyundaiLongButtons]

@[simp] theorem hyundaiCanfdRxButtons_gasPressed (p : HyundaiParams) (toPush : CANPacket)
    (sv : Signals × HyundaiVars) :
    (hyundaiCanfdRxButtons p toPush sv).1.gasPressed = sv.1.gasPressed := by
  unfold hyundaiCanfdRxButtons
  split
  · exact hyundaiCommonCruiseButtonsCheck_gasPressed _ _ _ _
  · exact hyundaiCommonCruiseButtonsCheck_gasPressed _ _ _ _

/-- A receive hook writes the gas pedal from a gas report and from nothing
else. -/
theorem rx_gasPressed (id : HooksId) (c : Context) (m : ModeParams) (toPush : CANPacket)
    (s : Signals) (v : ModeVars) :
    ((hooksOf id).rx c m toPush (s, v)).1.gasPressed =
      (gasReport id m toPush).getD s.gasPressed := by
  cases id with
  | nooutput | elm327 | alloutput => rfl
  | body =>
      change (bodyRxHook toPush s).gasPressed = _
      simp [bodyRxHook, gasReport]
  | hondaNidec | hondaBosch =>
      change (hondaRxHook c m.honda toPush (s, v.honda)).1.gasPressed = _
      simp [hondaRxHook, hondaRxPcmCruise, hondaRxButtons, hondaRxBrake, gasReport]
      grind
  | toyota =>
      change (toyotaRxHook c m.toyota toPush s).gasPressed = _
      simp [toyotaRxHook, toyotaRxSteering, gasReport]
      grind
  | gm =>
      change (gmRxHook c m.gm toPush s).gasPressed = _
      simp [gmRxHook, gmRxButtons, gasReport]
      grind
  | ford =>
      change (fordRxHook c m.ford toPush s).gasPressed = _
      simp [fordRxHook, fordRxSecondSpeed, fordRxYawRate, fordRxBrakeCruise, gasReport]
      grind
  | tesla =>
      change (teslaRxHook c m.tesla toPush (s, v.tesla)).1.gasPressed = _
      simp [teslaRxHook, gasReport]
      grind
  | hyundai | hyundaiLegacy =>
      change (hyundaiRxHook c m.hyundai toPush (s, v.hyundai)).1.gasPressed = _
      simp [hyundaiRxHook, hyundaiRxGas, gasReport]
      grind
  | hyundaiCanfd =>
      change (hyundaiCanfdRxHook c (m.hyundai, m.hyundaiCanfd) toPush
        (s, v.hyundai)).1.gasPressed = _
      simp [hyundaiCanfdRxHook, hyundaiCanfdRxGas, gasReport]
      grind
  | chrysler =>
      change (chryslerRxHook c m.chrysler toPush s).gasPressed = _
      simp [chryslerRxHook, gasReport]
      grind
  | subaru =>
      change (subaruRxHook c m.subaru toPush s).gasPressed = _
      simp [subaruRxHook, subaruRxSteeringTorque, subaruRxWheelSpeeds, gasReport]
      grind
  | subaruPreglobal =>
      change (subaruPreglobalRxHook c m.subaruPreglobal toPush s).gasPressed = _
      simp [subaruPreglobalRxHook, gasReport]
      grind
  | mazda =>
      change (mazdaRxHook c toPush s).gasPressed = _
      simp [mazdaRxHook, gasReport]
      grind
  | nissan =>
      change (nissanRxHook c m.nissan toPush s).gasPressed = _
      simp [nissanRxHook, nissanRxGas, nissanRxBrake, gasReport]
      grind
  | volkswagenMqb =>
      change (volkswagenMqbRxHook c m.volkswagen toPush
        (s, v.volkswagen, v.volkswagenMqb)).1.gasPressed = _
      simp [volkswagenMqbRxHook, volkswagenMqbRxAccStatus, volkswagenMqbRxButtons,
        volkswagenMqbRxBrake, volkswagenButtons, gasReport]
      grind
  | volkswagenPq =>
      change (volkswagenPqRxHook c m.volkswagen toPush (s, v.volkswagen)).1.gasPressed = _
      simp [volkswagenPqRxHook, volkswagenPqRxMainSwitch, volkswagenPqRxButtons,
        volkswagenButtons, gasReport]
      grind

/-! ### Sessions -/

/-- The gas report of a message that the validation passes on to the hook. -/
def processedGasReport (s : State) : Event → Option Bool
  | .rx ts toPush =>
      if s.rxValid ts toPush then gasReport s.currentHooks s.params toPush else none
  | _ => none

/-- The last gas report that a run processed. -/
def lastGasReport (s : State) (events : List Event) : Option Bool :=
  lastReport step processedGasReport s events

theorem step_pedalsRemembered (s : State) (e : Event) (hs : PedalsRemembered s.signals) :
    PedalsRemembered (step s e).signals := by
  cases e with
  | rx ts toPush =>
      change PedalsRemembered (s.rxSignals ts toPush).1
      unfold State.rxSignals
      split
      · exact rx_pedalsRemembered s.currentHooks _ _ toPush s.vars hs
      · exact ⟨hs.gas, hs.brake, hs.regen⟩
  | tx | fwd | modeSecond => exact hs
  | tick | exitUnused => exact ⟨hs.gas, hs.brake, hs.regen⟩

theorem setSafetyHooks_pedalsRemembered (mode param : UInt16) (s : State) :
    PedalsRemembered (setSafetyHooks mode param s).signals := by
  unfold setSafetyHooks
  split
  · constructor <;> rfl
  · constructor <;> rfl

theorem session_pedalsRemembered (mode param : UInt16) (before : State) (events : List Event) :
    PedalsRemembered (session mode param before events).signals := by
  apply run_invariant step_pedalsRemembered
  exact setSafetyHooks_pedalsRemembered mode param before

/-- A call writes the gas pedal from a processed gas report and from nothing
else. -/
theorem step_gasPressed (s : State) (e : Event) :
    (step s e).signals.gasPressed = (processedGasReport s e).getD s.signals.gasPressed := by
  cases e with
  | rx ts toPush =>
      change (s.rxSignals ts toPush).1.gasPressed = _
      unfold State.rxSignals
      by_cases hvalid : s.rxValid ts toPush = true
      · rw [if_pos hvalid, processedGasReport, if_pos hvalid]
        exact rx_gasPressed s.currentHooks _ _ toPush s.signals s.vars
      · rw [if_neg hvalid, processedGasReport, if_neg hvalid]
        rfl
  | _ => rfl

theorem setSafetyHooks_gasPressed (mode param : UInt16) (s : State) :
    (setSafetyHooks mode param s).signals.gasPressed = false := by
  unfold setSafetyHooks
  split
  · rfl
  · rfl

/-- After setting a mode, the gas pedal is what the last report said. -/
theorem session_gasPressed (mode param : UInt16) (before : State) (events : List Event) :
    (session mode param before events).signals.gasPressed =
      (lastGasReport (setSafetyHooks mode param before) events).getD false := by
  have hstep : ∀ s e, (step s e).signals.gasPressed =
      ((processedGasReport s e).map id).getD s.signals.gasPressed := by
    intro s e
    rw [Option.map_id, step_gasPressed]
    rfl
  have hrun := run_eq_lastReport (g := fun s : State => s.signals.gasPressed) hstep
    (setSafetyHooks mode param before) events
  rw [Option.map_id, setSafetyHooks_gasPressed] at hrun
  exact hrun

/-- Without longitudinal control, a request passes only when it is inactive. -/
theorem eq_inactive_of_longitudinalRequestCheck {s : Signals} (h : getLongitudinalAllowed s = false)
    {desired maxVal minVal inactive : Int}
    (hpass : longitudinalRequestCheck s desired maxVal minVal inactive = false) :
    desired = inactive := by
  simpa [longitudinalRequestCheck, h] using hpass

/-- What the longitudinal checks let through: only the inactive value, and no
brake. -/
structure OnlyInactivePasses (s : Signals) : Prop where
  accel : ∀ desired limits, longitudinalAccelChecks s desired limits = false →
    desired = limits.inactiveAccel
  speed : ∀ desired limits, longitudinalSpeedChecks s desired limits = false →
    desired = limits.inactiveSpeed
  gas : ∀ desired limits, longitudinalGasChecks s desired limits = false →
    desired = limits.inactiveGas
  transmissionRpm : ∀ desired limits, longitudinalTransmissionRpmChecks s desired limits = false →
    desired = limits.inactiveTransmissionRpm
  brake : ∀ desired limits, longitudinalBrakeChecks s desired limits = false → desired = 0

theorem onlyInactivePasses_of_not_allowed {s : Signals} (h : getLongitudinalAllowed s = false) :
    OnlyInactivePasses s where
  accel _ _ hpass := eq_inactive_of_longitudinalRequestCheck h hpass
  speed desired limits hpass := by
    simpa [longitudinalSpeedChecks, h] using hpass
  gas _ _ hpass := eq_inactive_of_longitudinalRequestCheck h hpass
  transmissionRpm _ _ hpass := eq_inactive_of_longitudinalRequestCheck h hpass
  brake desired limits hpass := by
    simp only [longitudinalBrakeChecks, h, Bool.not_false, Bool.true_and,
      Bool.or_eq_false_iff] at hpass
    simpa using hpass.1

/-- In every session, the previous pedals are the pedals, and while the last
gas report says pressed, only inactive longitudinal commands pass. -/
theorem session_gas_stops_longitudinal (mode param : UInt16) (before : State)
    (events : List Event) :
    PedalsRemembered (session mode param before events).signals ∧
      (lastGasReport (setSafetyHooks mode param before) events = some true →
        OnlyInactivePasses (session mode param before events).signals) := by
  have hremembered := session_pedalsRemembered mode param before events
  refine ⟨hremembered, ?_⟩
  intro hreport
  have hpressed : (session mode param before events).signals.gasPressed = true := by
    rw [session_gasPressed, hreport]
    rfl
  apply onlyInactivePasses_of_not_allowed
  simp [getLongitudinalAllowed, ← hremembered.gas, hpressed]

theorem session_gas_stops_longitudinal_toyota :
    OnlyInactivePasses
      (session safetyToyota 0 bootState [.rx 0 (.ofBytes 0x1D2 0 1 [0x20])]).signals := by
  apply (session_gas_stops_longitudinal safetyToyota 0 bootState _).2
  decide

end Panda.Safety
