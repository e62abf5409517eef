import Panda.Safety.Session

/-!
Controls and the driver's pedals. The common checks end controls when a pedal
is pressed while the car moves, and every receive hook that can report a pedal
or enable controls runs them last, with one exception: with camera-based SCC,
the Hyundai hook enables controls from a message on bus 2 and runs the checks
for bus 0 only. Controls and a pressed pedal in motion meet exactly there.
-/

namespace Panda.Safety

open Library

/-- The brake or the regen paddle is reported pressed while the car moves. -/
def PedalWhileMoving (s : Signals) : Prop :=
  (s.brakePressed ∧ s.vehicleMoving) ∨ (s.regenBraking ∧ s.vehicleMoving)

def PedalSafe (s : Signals) : Prop := s.controlsAllowed → ¬ PedalWhileMoving s

theorem PedalSafe.of_controls_off {s : Signals} (h : s.controlsAllowed = false) : PedalSafe s := by
  intro hcontrols
  rw [h] at hcontrols
  cases hcontrols

/-- Whatever came before, the common checks leave controls and a pressed pedal
in motion apart. -/
theorem genericRxChecks_pedalSafe (c : Context) (stockEcuDetected : Bool) (s : Signals) :
    PedalSafe (genericRxChecks c stockEcuDetected s) := by
  intro hcontrols hpedal
  simp only [genericRxChecks, Bool.and_eq_true, Bool.not_eq_true'] at hcontrols
  obtain ⟨⟨-, hbrake⟩, hregen⟩ := hcontrols
  rcases hpedal with ⟨hpressed, hmoving⟩ | ⟨hpressed, hmoving⟩
  · simp only [genericRxChecks] at hpressed hmoving
    simp [hpressed, hmoving] at hbrake
  · simp only [genericRxChecks] at hpressed hmoving
    simp [hpressed, hmoving] at hregen

/-! ### The Hyundai camera -/

/-- The cruise state message of a camera-based SCC car enables controls. -/
def HyundaiCameraEngages (p : HyundaiParams) (v : HyundaiVars) (toPush : CANPacket)
    (s : Signals) : Prop :=
  p.cameraScc ∧ ¬ p.longitudinal ∧ getBus toPush = 2 ∧ getAddr toPush = 0x421 ∧
    hyundaiScc12CruiseEngaged toPush ∧ ¬ s.cruiseEngagedPrev ∧
    v.lastButtonInteraction < hyundaiPrevButtonSamples

theorem hyundaiIsScc12_of_bus_ne_zero {p : HyundaiParams} {addr bus : Nat} (hbus : bus ≠ 0) :
    hyundaiIsScc12 p addr bus = true ↔ addr = 0x421 ∧ bus = 2 ∧ p.cameraScc = true := by
  have hbus' : (bus == 0) = false := by simpa using hbus
  simp [hyundaiIsScc12, hbus']

/-- Off bus 0, the Hyundai hook is the cruise state check of the camera. -/
theorem hyundaiRxHook_off_bus_zero {c : Context} {p : HyundaiParams} {toPush : CANPacket}
    {sv : Signals × HyundaiVars} (hbus : getBus toPush ≠ 0) :
    hyundaiRxHook c p toPush sv =
      guarded (hyundaiIsScc12 p (getAddr toPush) (getBus toPush))
        (hyundaiCommonCruiseStateCheck p (hyundaiScc12CruiseEngaged toPush)) sv := by
  unfold hyundaiRxHook
  rw [guarded_of_neg hbus]

theorem hyundaiCommonCruiseStateCheck_pedals (p : HyundaiParams) (cruiseEngaged : Bool)
    (sv : Signals × HyundaiVars) :
    PedalWhileMoving (hyundaiCommonCruiseStateCheck p cruiseEngaged sv).1 ↔
      PedalWhileMoving sv.1 := by
  unfold hyundaiCommonCruiseStateCheck guarded
  split <;> rfl

/-- The Hyundai hook keeps controls and the pedals apart unless the camera
enables controls with a pedal pressed in motion. -/
theorem hyundaiRxHook_pedalSafe_iff (c : Context) (p : HyundaiParams) (toPush : CANPacket)
    {s : Signals} (v : HyundaiVars) (hs : PedalSafe s) :
    PedalSafe (hyundaiRxHook c p toPush (s, v)).1 ↔
      ¬ (HyundaiCameraEngages p v toPush s ∧ PedalWhileMoving s) := by
  by_cases hbus : getBus toPush = 0
  · have hsafe : PedalSafe (hyundaiRxHook c p toPush (s, v)).1 := by
      unfold hyundaiRxHook
      rw [guarded_of_pos hbus]
      exact genericRxChecks_pedalSafe _ _ _
    have hcamera : ¬ HyundaiCameraEngages p v toPush s := by
      rintro ⟨-, -, htwo, -⟩
      omega
    simp [hsafe, hcamera]
  · rw [hyundaiRxHook_off_bus_zero hbus]
    by_cases hscc : hyundaiIsScc12 p (getAddr toPush) (getBus toPush) = true
    · rw [guarded_of_pos hscc]
      obtain ⟨haddr, htwo, hcamera⟩ := (hyundaiIsScc12_of_bus_ne_zero hbus).mp hscc
      have hpedals := hyundaiCommonCruiseStateCheck_pedals p
        (hyundaiScc12CruiseEngaged toPush) (s, v)
      simp only [PedalSafe, hpedals]
      by_cases hpedal : PedalWhileMoving s
      · -- a pressed pedal in motion: controls were off, so they are on only by engaging
        have hoff : s.controlsAllowed = false := by
          simpa using fun h => hs h hpedal
        simp [HyundaiCameraEngages, hyundaiCommonCruiseStateCheck, hoff, hpedal, haddr, htwo,
          hcamera]
        grind
      · simp [hpedal]
    · rw [guarded_of_neg hscc]
      have hcamera : ¬ HyundaiCameraEngages p v toPush s := by
        rintro ⟨hcamera, -, htwo, haddr, -⟩
        exact hscc ((hyundaiIsScc12_of_bus_ne_zero hbus).mpr ⟨haddr, htwo, hcamera⟩)
      simp [hcamera, hs]

/-! ### Every mode -/

/-- A hook whose bus test guards everything, the common checks included. -/
private theorem guarded_pedalSafe {c : Prop} [Decidable c] {f : Signals → Signals} {s : Signals}
    (hf : PedalSafe (f s)) (hs : PedalSafe s) : PedalSafe (guarded c f s) :=
  guarded_preserves (fun _ _ => hf) hs

private theorem guarded_pedalSafe_fst {D : Type} {c : Prop} [Decidable c]
    {f : Signals × D → Signals × D} {sv : Signals × D} (hf : PedalSafe (f sv).1)
    (hs : PedalSafe sv.1) : PedalSafe (guarded c f sv).1 := by
  unfold guarded
  split
  · exact hf
  · exact hs

/-- The modes whose receive hook is `hyundai_rx_hook`. -/
def UsesHyundaiRxHook (id : HooksId) : Prop := id = .hyundai ∨ id = .hyundaiLegacy

/-- The body reports no pedals, so they stay released. -/
def BodyPedalsReleased (id : HooksId) (s : Signals) : Prop :=
  id = .body → s.brakePressed = false ∧ s.regenBraking = false

theorem bodyRxHook_pedals (toPush : CANPacket) (s : Signals) :
    (bodyRxHook toPush s).brakePressed = s.brakePressed ∧
      (bodyRxHook toPush s).regenBraking = s.regenBraking := by
  unfold bodyRxHook guarded
  split <;> exact ⟨rfl, rfl⟩

theorem rx_pedalSafe {id : HooksId} (hid : ¬ UsesHyundaiRxHook id) (c : Context)
    (m : ModeParams) (toPush : CANPacket) {s : Signals} (v : ModeVars)
    (hbody : BodyPedalsReleased id s) (hs : PedalSafe s) :
    PedalSafe ((hooksOf id).rx c m toPush (s, v)).1 := by
  cases id with
  | nooutput | elm327 | alloutput => exact hs
  | hyundai => exact absurd (Or.inl rfl) hid
  | hyundaiLegacy => exact absurd (Or.inr rfl) hid
  | body =>
      obtain ⟨hbrake, hregen⟩ := bodyRxHook_pedals toPush s
      change PedalSafe (bodyRxHook toPush s)
      rintro - (⟨hpressed, -⟩ | ⟨hpressed, -⟩)
      · simp [hbrake, hbody rfl] at hpressed
      · simp [hregen, hbody rfl] at hpressed
  | toyota =>
      change PedalSafe (toyotaRxHook c _ toPush s)
      exact guarded_pedalSafe (by exact genericRxChecks_pedalSafe _ _ _) hs
  | gm =>
      change PedalSafe (gmRxHook c _ toPush s)
      exact guarded_pedalSafe (by exact genericRxChecks_pedalSafe _ _ _) hs
  | ford =>
      change PedalSafe (fordRxHook c _ toPush s)
      exact guarded_pedalSafe (by exact genericRxChecks_pedalSafe _ _ _) hs
  | mazda =>
      change PedalSafe (mazdaRxHook c toPush s)
      exact guarded_pedalSafe (by exact genericRxChecks_pedalSafe _ _ _) hs
  | subaruPreglobal =>
      change PedalSafe (subaruPreglobalRxHook c _ toPush s)
      exact guarded_pedalSafe (by exact genericRxChecks_pedalSafe _ _ _) hs
  | volkswagenMqb =>
      change PedalSafe (volkswagenMqbRxHook c _ toPush (s, _)).1
      exact guarded_pedalSafe_fst (by exact genericRxChecks_pedalSafe _ _ _) hs
  | volkswagenPq =>
      change PedalSafe (volkswagenPqRxHook c _ toPush (s, _)).1
      exact guarded_pedalSafe_fst (by exact genericRxChecks_pedalSafe _ _ _) hs
  | hondaNidec | hondaBosch | chrysler | subaru | nissan | hyundaiCanfd | tesla =>
      exact genericRxChecks_pedalSafe _ _ _

theorem rx_bodyPedalsReleased {id : HooksId} (c : Context) (m : ModeParams)
    (toPush : CANPacket) {s : Signals} (v : ModeVars) (hbody : BodyPedalsReleased id s) :
    BodyPedalsReleased id ((hooksOf id).rx c m toPush (s, v)).1 := by
  rintro rfl
  obtain ⟨hbrake, hregen⟩ := bodyRxHook_pedals toPush s
  exact ⟨hbrake.trans (hbody rfl).1, hregen.trans (hbody rfl).2⟩

/-! ### Sessions -/

/-- A received message that enables controls with a pedal pressed in motion:
a valid cruise state message from the camera of a Hyundai. -/
def CameraEngagesOnPedal (s : State) : Event → Prop
  | .rx ts toPush =>
      UsesHyundaiRxHook s.currentHooks ∧ s.rxValid ts toPush ∧
        HyundaiCameraEngages s.params.hyundai s.vars.hyundai toPush s.signals ∧
        PedalWhileMoving s.signals
  | _ => False

theorem rxSignals_pedalSafe_iff {s : State} (ts : UInt32) (toPush : CANPacket)
    (hbody : BodyPedalsReleased s.currentHooks s.signals) (hs : PedalSafe s.signals) :
    PedalSafe (s.rxSignals ts toPush).1 ↔ ¬ CameraEngagesOnPedal s (.rx ts toPush) := by
  unfold State.rxSignals
  by_cases hvalid : s.rxValid ts toPush = true
  · rw [if_pos hvalid]
    by_cases hid : UsesHyundaiRxHook s.currentHooks
    · have hiff := hyundaiRxHook_pedalSafe_iff (s.context ts) s.params.hyundai toPush
        s.vars.hyundai hs
      have hrx : (s.hooks.rx (s.context ts) s.params toPush (s.signals, s.vars)).1 =
          (hyundaiRxHook (s.context ts) s.params.hyundai toPush
            (s.signals, s.vars.hyundai)).1 := by
        rcases hid with hid | hid <;> rw [State.hooks, hid] <;> rfl
      rw [hrx, hiff]
      simp [CameraEngagesOnPedal, hid, hvalid]
    · have hsafe := rx_pedalSafe hid (s.context ts) s.params toPush s.vars hbody hs
      exact iff_of_true hsafe fun hengages => hid hengages.1
  · rw [if_neg hvalid]
    have hsafe : PedalSafe { s.signals with controlsAllowed := false } :=
      PedalSafe.of_controls_off rfl
    exact iff_of_true hsafe fun hengages => hvalid hengages.2.1

/-- A call that changes nothing but to turn controls off keeps the pedals safe. -/
private theorem pedalSafe_of_lowered {s t : Signals} (hs : PedalSafe s)
    (hcontrols : t.controlsAllowed = true → s.controlsAllowed = true)
    (hpedal : PedalWhileMoving t → PedalWhileMoving s) : PedalSafe t :=
  fun ht hpressed => hs (hcontrols ht) (hpedal hpressed)

theorem step_pedalSafe_iff (s : State) (e : Event)
    (hbody : BodyPedalsReleased s.currentHooks s.signals) (hs : PedalSafe s.signals) :
    PedalSafe (step s e).signals ↔ ¬ CameraEngagesOnPedal s e := by
  cases e with
  | rx ts toPush => exact rxSignals_pedalSafe_iff ts toPush hbody hs
  | tx | fwd | modeSecond => exact iff_of_true hs id
  | tick ts =>
      have hsafe : PedalSafe (safetyTick ts s).signals := by
        refine pedalSafe_of_lowered hs ?_ id
        intro hcontrols
        exact (Bool.and_eq_true_iff.mp hcontrols).1
      exact iff_of_true hsafe id
  | exitUnused heartbeatEngaged =>
      have hsafe : PedalSafe (exitUnusedControls heartbeatEngaged s).signals := by
        refine pedalSafe_of_lowered hs ?_ id
        intro hcontrols
        exact (Bool.and_eq_true_iff.mp hcontrols).1
      exact iff_of_true hsafe id

theorem step_bodyPedalsReleased (s : State) (e : Event)
    (hbody : BodyPedalsReleased s.currentHooks s.signals) :
    BodyPedalsReleased (step s e).currentHooks (step s e).signals := by
  rw [step_currentHooks]
  cases e with
  | rx ts toPush =>
      change BodyPedalsReleased s.currentHooks (s.rxSignals ts toPush).1
      unfold State.rxSignals
      split
      · exact rx_bodyPedalsReleased (s.context ts) s.params toPush s.vars hbody
      · exact hbody
  | _ => exact hbody

theorem setSafetyHooks_pedals_released (mode param : UInt16) (s : State) :
    (setSafetyHooks mode param s).signals.brakePressed = false ∧
      (setSafetyHooks mode param s).signals.regenBraking = false := by
  unfold setSafetyHooks
  split <;> exact ⟨rfl, rfl⟩

/-- In every run from setting a mode, controls are apart from a pressed pedal
in motion in all states exactly when no message enables controls with a pedal
pressed in motion, which only a Hyundai with camera-based SCC can do. -/
theorem pedalSafe_always_iff (mode param : UInt16) (before : State) (events : List Event) :
    Always step (fun s => PedalSafe s.signals) (setSafetyHooks mode param before) events ↔
      Along step (fun s e => ¬ CameraEngagesOnPedal s e) (setSafetyHooks mode param before)
        events := by
  obtain ⟨hbrake, hregen⟩ := setSafetyHooks_pedals_released mode param before
  have hbody : BodyPedalsReleased (setSafetyHooks mode param before).currentHooks
      (setSafetyHooks mode param before).signals := fun _ => ⟨hbrake, hregen⟩
  have hsafe : PedalSafe (setSafetyHooks mode param before).signals := by
    rintro - (⟨hpressed, -⟩ | ⟨hpressed, -⟩)
    · simp [hbrake] at hpressed
    · simp [hregen] at hpressed
  exact always_iff_along (I := fun s : State => BodyPedalsReleased s.currentHooks s.signals)
    step_bodyPedalsReleased step_pedalSafe_iff hbody hsafe

/-- A resume press, a wheel speed, the brake pedal, and cruise engaged by the
camera. -/
def cameraEngagementRun : List Event :=
  [.rx 0 (.ofBytes 0x4F1 0 4 [1]),
   .rx 0 (.ofBytes 0x386 0 8 [100, 0, 0, 0, 0, 0x80, 0, 0x80]),
   .rx 0 (.ofBytes 0x394 0 8 [0, 0, 0, 0, 0, 0x40, 0x0C, 0]),
   .rx 0 (.ofBytes 0x421 2 8 [0, 0x20, 0, 0, 0, 0, 0, 0xE0])]

theorem camera_engages_on_brake :
    ¬ ∀ mode param before events, isCarSafetyMode mode → (registered mode).isSome →
      Always step (fun s => PedalSafe s.signals) (setSafetyHooks mode param before) events := by
  intro hall
  have hsafe := (hall safetyHyundai 8 bootState cameraEngagementRun (by decide) (by decide)).last
  have hcontrols : (session safetyHyundai 8 bootState cameraEngagementRun).signals.controlsAllowed
      = true := by decide
  have hbrake : (session safetyHyundai 8 bootState cameraEngagementRun).signals.brakePressed
      = true := by decide
  have hmoving : (session safetyHyundai 8 bootState cameraEngagementRun).signals.vehicleMoving
      = true := by decide
  exact hsafe hcontrols (Or.inl ⟨hbrake, hmoving⟩)

end Panda.Safety
