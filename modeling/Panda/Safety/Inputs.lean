import Panda.Safety.PedalMemory

/-!
The inputs of the safety checks: the pedals, the motion of the car and the
measured torques and angles that the receive hooks pass on to the common checks
and to the limiters. Each is read from certain messages, its sources. A message
of a source replaces the value of the input, and no other message changes it.
-/

namespace Panda.Safety

open Library

inductive Input where
  | brakePressed
  | gasPressed
  | regenBraking
  | vehicleMoving
  | torqueDriver
  | torqueMeas
  | angleMeas
deriving DecidableEq

/-- The value of an input; of a sampled one, the last sample. -/
def Input.value (s : Signals) : Input → Int
  | .brakePressed => s.brakePressed.toInt
  | .gasPressed => s.gasPressed.toInt
  | .regenBraking => s.regenBraking.toInt
  | .vehicleMoving => s.vehicleMoving.toInt
  | .torqueDriver => s.torqueDriver.latest
  | .torqueMeas => s.torqueMeas.latest
  | .angleMeas => s.angleMeas.latest

/-- The messages that carry an input: one of the addresses on the bus, or on any
bus. A source with `quality` is used only while its quality flag is valid. -/
structure Source where
  addrs : List Nat
  bus : Option Nat
  quality : Bool := false

def Source.sentAs (source : Source) (addr bus : Nat) : Bool :=
  source.addrs.contains addr && source.bus.all (· == bus)

/-- The message carries the source. -/
def Source.carriedBy (source : Source) (hooks : SafetyHooks ModeParams ModeVars)
    (toPush : CANPacket) : Bool :=
  source.sentAs (getAddr toPush) (getBus toPush) &&
    (!source.quality || hooks.getQualityFlagValid.all fun valid => valid toPush)

def sourceOn (bus : Nat) (addrs : List Nat) : Source where
  addrs := addrs
  bus := some bus

/-! ### Every mode -/

def hondaSources (p : HondaParams) : Input → List Source
  | .brakePressed => [⟨[if p.altBrakeMsg then 0x1BE else 0x17C], none, false⟩]
  | .gasPressed => [⟨[0x17C], none, false⟩]
  | .vehicleMoving => [⟨[0x158], none, false⟩]
  | _ => []

/-- The angle is read only with the steering angle initialized. -/
def toyotaSources (p : ToyotaParams) : Input → List Source
  | .brakePressed => [sourceOn 0 [if p.altBrake then 0x224 else 0x226]]
  | .gasPressed => [sourceOn 0 [0x1D2]]
  | .vehicleMoving => [sourceOn 0 [0xaa]]
  | .torqueDriver | .torqueMeas => [sourceOn 0 [0x260]]
  | .angleMeas => [⟨[0x260], some 0, true⟩]
  | _ => []

def gmSources (p : GmParams) : Input → List Source
  | .brakePressed => [sourceOn 0 [match p.hw with | .ascm => 0xBE | .cam => 0xC9]]
  | .gasPressed => [sourceOn 0 [0x1C4]]
  | .regenBraking => [sourceOn 0 [0xBD]]
  | .vehicleMoving => [sourceOn 0 [0x34A]]
  | .torqueDriver => [sourceOn 0 [0x184]]
  | _ => []

def fordSources : Input → List Source
  | .brakePressed => [sourceOn fordMainBus [fordEngBrakeData]]
  | .gasPressed => [sourceOn fordMainBus [fordEngVehicleSpThrottle]]
  | .vehicleMoving => [sourceOn fordMainBus [fordDesiredTorqBrk]]
  | .angleMeas => [sourceOn fordMainBus [fordYawDataFd1]]
  | _ => []

def teslaSources (p : TeslaParams) : Input → List Source
  | .brakePressed => [sourceOn 0 [if p.powertrain then 0x1f8 else 0x20a]]
  | .gasPressed => [sourceOn 0 [if p.powertrain then 0x106 else 0x108]]
  | .vehicleMoving => [sourceOn 0 [if p.powertrain then 0x116 else 0x118]]
  | .angleMeas =>
      if p.powertrain then [] else [if p.raven then sourceOn 2 [0x131] else sourceOn 0 [0x370]]
  | _ => []

def hyundaiSources (p : HyundaiParams) : Input → List Source
  | .brakePressed => [sourceOn 0 [0x394]]
  | .gasPressed => [sourceOn 0 [if p.evGasSignal || p.hybridGasSignal then 0x371 else 0x260]]
  | .vehicleMoving => [sourceOn 0 [0x386]]
  | .torqueDriver => [sourceOn 0 [0x251]]
  | _ => []

def hyundaiCanfdSources (p : HyundaiParams) : Input → List Source
  | .brakePressed => [sourceOn (hyundaiCanfdPtBus p) [0x175]]
  | .gasPressed => [sourceOn (hyundaiCanfdPtBus p)
      ((if p.evGasSignal then [0x35] else []) ++ (if p.hybridGasSignal then [0x105] else []) ++
        if p.evGasSignal || p.hybridGasSignal then [] else [0x100])]
  | .vehicleMoving => [sourceOn (hyundaiCanfdPtBus p) [0xa0]]
  | .torqueDriver => [sourceOn (hyundaiCanfdPtBus p) [0xea]]
  | _ => []

def chryslerSources (p : ChryslerParams) : Input → List Source
  | .brakePressed => [sourceOn 0 [p.addrs.esp1]]
  | .gasPressed => [sourceOn 0 [p.addrs.ecm5]]
  | .vehicleMoving => [sourceOn 0 [if p.platform = .pacifica then 514 else p.addrs.esp8]]
  | .torqueMeas => [sourceOn 0 [p.addrs.eps2]]
  | _ => []

def subaruSources (p : SubaruParams) : Input → List Source
  | .brakePressed => [sourceOn (subaruAltMainBus p) [subaruBrakeStatus]]
  | .gasPressed => [sourceOn subaruMainBus [subaruThrottle]]
  | .vehicleMoving => [sourceOn (subaruAltMainBus p) [subaruWheelSpeeds]]
  | .torqueDriver | .angleMeas => [sourceOn subaruMainBus [subaruSteeringTorque]]
  | _ => []

def subaruPreglobalSources : Input → List Source
  | .brakePressed => [sourceOn subaruPgMainBus [subaruPgBrakePedal]]
  | .gasPressed => [sourceOn subaruPgMainBus [subaruPgThrottle]]
  | .vehicleMoving => [sourceOn subaruPgMainBus [subaruPgWheelSpeeds]]
  | .torqueDriver => [sourceOn subaruPgMainBus [subaruPgSteeringTorque]]
  | _ => []

def mazdaSources : Input → List Source
  | .brakePressed => [sourceOn mazdaMain [mazdaPedals]]
  | .gasPressed | .vehicleMoving => [sourceOn mazdaMain [mazdaEngineData]]
  | .torqueDriver => [sourceOn mazdaMain [mazdaSteerTorque]]
  | _ => []

/-- X-Trail and Leaf send the pedals in different messages. -/
def nissanSources (p : NissanParams) : Input → List Source
  | .brakePressed => [sourceOn (if p.altEps then 1 else 0) [0x454, 0x239]]
  | .gasPressed => [sourceOn (if p.altEps then 1 else 0) [0x15c, 0x239]]
  | .vehicleMoving => [sourceOn (if p.altEps then 1 else 0) [0x285]]
  | .angleMeas => [sourceOn (if p.altEps then 1 else 0) [0x2]]
  | _ => []

/-- The brake pedal is the switch or the pressure, which come in two messages. -/
def volkswagenMqbSources : Input → List Source
  | .brakePressed => [sourceOn 0 [msgMotor14], sourceOn 0 [msgEsp05]]
  | .gasPressed => [sourceOn 0 [msgMotor20]]
  | .vehicleMoving => [sourceOn 0 [msgEsp19]]
  | .torqueDriver => [sourceOn 0 [msgLhEps03]]
  | _ => []

def volkswagenPqSources : Input → List Source
  | .brakePressed => [sourceOn 0 [msgMotor2]]
  | .gasPressed => [sourceOn 0 [msgMotor3]]
  | .vehicleMoving => [sourceOn 0 [msgBremse1]]
  | .torqueDriver => [sourceOn 0 [msgLenkhilfe3]]
  | _ => []

/-- The sources of an input, as the mode's hook reads them. The hook of body runs
neither the common checks nor a limiter. -/
def sources (id : HooksId) (m : ModeParams) : Input → List Source :=
  match id with
  | .nooutput | .elm327 | .alloutput | .body => fun _ => []
  | .hondaNidec | .hondaBosch => hondaSources m.honda
  | .toyota => toyotaSources m.toyota
  | .gm => gmSources m.gm
  | .ford => fordSources
  | .tesla => teslaSources m.tesla
  | .hyundai | .hyundaiLegacy => hyundaiSources m.hyundai
  | .hyundaiCanfd => hyundaiCanfdSources m.hyundai
  | .chrysler => chryslerSources m.chrysler
  | .subaru => subaruSources m.subaru
  | .subaruPreglobal => subaruPreglobalSources
  | .mazda => mazdaSources
  | .nissan => nissanSources m.nissan
  | .volkswagenMqb => volkswagenMqbSources
  | .volkswagenPq => volkswagenPqSources

/-! ### Statements -/

section Statements

variable (input : Input) (s : Signals)

theorem Input.value_guarded {c : Prop} [Decidable c] (f : Signals → Signals) :
    input.value (guarded c f s) = if c then input.value (f s) else input.value s :=
  apply_ite (fun s => Input.value s input) _ _ _

theorem Input.value_ite {c : Prop} [Decidable c] (t : Signals) :
    input.value (if c then s else t) = if c then input.value s else input.value t :=
  apply_ite (fun s => Input.value s input) _ _ _

theorem Input.value_brakePressed (b : Bool) :
    input.value { s with brakePressed := b } =
      if input = .brakePressed then b.toInt else input.value s := by
  cases input <;> rfl

theorem Input.value_gasPressed (b : Bool) :
    input.value { s with gasPressed := b } =
      if input = .gasPressed then b.toInt else input.value s := by
  cases input <;> rfl

theorem Input.value_regenBraking (b : Bool) :
    input.value { s with regenBraking := b } =
      if input = .regenBraking then b.toInt else input.value s := by
  cases input <;> rfl

theorem Input.value_vehicleMoving (b : Bool) :
    input.value { s with vehicleMoving := b } =
      if input = .vehicleMoving then b.toInt else input.value s := by
  cases input <;> rfl

theorem Input.value_samples (torqueMeas torqueDriver angleMeas : Sample) :
    input.value { s with torqueMeas, torqueDriver, angleMeas } =
      match input with
      | .torqueMeas => torqueMeas.latest
      | .torqueDriver => torqueDriver.latest
      | .angleMeas => angleMeas.latest
      | input => input.value s := by
  cases input <;> rfl

theorem Input.value_torqueMeas : s.torqueMeas.latest = Input.torqueMeas.value s := rfl

theorem Input.value_torqueDriver : s.torqueDriver.latest = Input.torqueDriver.value s := rfl

theorem Input.value_angleMeas : s.angleMeas.latest = Input.angleMeas.value s := rfl

/-- What engages controls is no input. -/
theorem Input.value_engagement (controlsAllowed cruiseEngagedPrev accMainOn : Bool)
    (cruiseButtonPrev : Nat) :
    input.value { s with controlsAllowed, cruiseEngagedPrev, accMainOn, cruiseButtonPrev } =
      input.value s := by
  cases input <;> rfl

theorem Input.value_pcmCruiseCheck (cruiseEngaged : Bool) :
    input.value (pcmCruiseCheck cruiseEngaged s) = input.value s := by
  cases input <;> rfl

theorem Input.value_updateVehicleSpeed (valMs : ℚ) :
    input.value (updateVehicleSpeed valMs s) = input.value s := by
  cases input <;> rfl

theorem Input.value_genericRxChecks (c : Context) (stockEcuDetected : Bool) :
    input.value (genericRxChecks c stockEcuDetected s) = input.value s := by
  cases input <;> rfl

end Statements

/-! ### Speed and samples -/

/-- The angle that Ford derives from the yaw rate at a speed. -/
def fordAngleAt (toPush : CANPacket) (vehicleSpeed : Sample) : Int :=
  (fordRxYawRate toPush
    { vehicleSpeed
      torqueMeas := zeroSample
      torqueDriver := zeroSample
      angleMeas := zeroSample }).angleMeas.latest

theorem Input.value_fordRxYawRate (input : Input) (toPush : CANPacket) (s : Signals) :
    input.value (fordRxYawRate toPush s) =
      if input = .angleMeas then fordAngleAt toPush s.vehicleSpeed else input.value s := by
  cases input <;> rfl

theorem Input.value_fordRxSecondSpeed (input : Input) (toPush : CANPacket) (s : Signals) :
    input.value (fordRxSecondSpeed toPush s) = input.value s := by
  cases input <;> rfl

theorem fordRxSecondSpeed_vehicleSpeed (toPush : CANPacket) (s : Signals) :
    (fordRxSecondSpeed toPush s).vehicleSpeed = s.vehicleSpeed := rfl

theorem updateVehicleSpeed_vehicleSpeed (valMs : ℚ) (s : Signals) :
    (updateVehicleSpeed valMs s).vehicleSpeed =
      updateSample s.vehicleSpeed (roundToInt (valMs * vehicleSpeedFactor)) := rfl

theorem guarded_vehicleSpeed {c : Prop} [Decidable c] (f : Signals → Signals) (s : Signals) :
    (guarded c f s).vehicleSpeed = if c then (f s).vehicleSpeed else s.vehicleSpeed :=
  apply_ite _ _ _ _

theorem updateSample_latest (sample : Sample) (x : Int) :
    (updateSample sample x).latest = x := rfl

theorem updateSample_widened_latest (sample : Sample) (x low high : Int) :
    Sample.latest ⟨(updateSample sample x).values, low, high⟩ = x := rfl

theorem Sample.ite_latest {c : Prop} [Decidable c] (a b : Sample) :
    (if c then a else b).latest = if c then a.latest else b.latest := apply_ite _ _ _ _

/-! ### The receive hooks -/

/-- A hook reads the inputs from the sources: a message of a source sets the
input whatever it was before, and a message of none leaves it alone. Ford
derives its curvature from the speed too. -/
structure ReadsFrom (hooks : SafetyHooks ModeParams ModeVars) (srcs : Input → List Source)
    (toPush : CANPacket) (recalled : Signals → Prop) (rx : Signals → Signals) : Prop where
  sets : ∀ (input : Input), ∀ source ∈ srcs input, source.carriedBy hooks toPush = true →
    ∀ s t, s.vehicleSpeed = t.vehicleSpeed → input.value (rx s) = input.value (rx t)
  frame : ∀ input, (∀ source ∈ srcs input,
      source.sentAs (getAddr toPush) (getBus toPush) = false) →
    ∀ s, recalled s → input.value (rx s) = input.value s

/-- On MQB the brake pedal is recomputed for every message. -/
def BrakeRecalled (id : HooksId) (v : ModeVars) (s : Signals) : Prop :=
  id = .volkswagenMqb → s.brakePressed =
    (v.volkswagenMqb.brakePedalSwitch || v.volkswagenMqb.brakePressureDetected)

section Modes

open Input

attribute [local simp] Source.sentAs Source.carriedBy sourceOn

theorem hondaRxHook_reads (hooks : SafetyHooks ModeParams ModeVars) (c : Context)
    (p : HondaParams) (toPush : CANPacket) (v : HondaVars) (recalled : Signals → Prop) :
    ReadsFrom hooks (hondaSources p) toPush recalled
      (fun s => (hondaRxHook c p toPush (s, v)).1) := by
  -- the values of the hook are those of its statements, and the sources decide the guards
  constructor <;> intro input <;> cases input <;>
    simp only [hondaRxHook, hondaRxPcmCruise, hondaRxButtons, hondaRxBrake, value_ite,
      value_brakePressed, value_gasPressed, value_vehicleMoving, value_engagement,
      value_genericRxChecks, guarded_fst, onSignals_fst, onVars_fst, reduceCtorEq, if_true,
      if_false, ite_self] <;>
    simp [hondaSources] <;> grind

theorem toyota_quality :
    (hooksOf .toyota).getQualityFlagValid = some toyotaGetQualityFlagValid := rfl

theorem toyotaRxHook_reads (c : Context) (p : ToyotaParams) (toPush : CANPacket)
    (recalled : Signals → Prop) :
    ReadsFrom (hooksOf .toyota) (toyotaSources p) toPush recalled
      (fun s => toyotaRxHook c p toPush s) := by
  constructor <;> intro input <;> cases input <;>
    simp only [toyotaRxHook, toyotaRxSteering, updateSample_widened_latest, Sample.ite_latest,
      value_guarded, value_brakePressed, value_gasPressed, value_vehicleMoving, value_samples,
      updateSample_latest, value_angleMeas, value_pcmCruiseCheck, value_updateVehicleSpeed,
      value_genericRxChecks, reduceCtorEq, if_true, if_false, ite_self] <;>
    simp [toyotaSources, toyota_quality, toyotaGetQualityFlagValid] <;> grind

theorem gmRxHook_reads (hooks : SafetyHooks ModeParams ModeVars) (c : Context) (p : GmParams)
    (toPush : CANPacket) (recalled : Signals → Prop) :
    ReadsFrom hooks (gmSources p) toPush recalled (fun s => gmRxHook c p toPush s) := by
  constructor <;> intro input <;> cases input <;>
    simp only [gmRxHook, gmRxButtons, value_guarded, value_brakePressed, value_gasPressed,
      value_regenBraking, value_vehicleMoving, value_samples, updateSample_latest, value_torqueMeas,
      value_angleMeas, value_engagement, value_pcmCruiseCheck, value_genericRxChecks, reduceCtorEq,
      if_true, if_false, ite_self] <;>
    simp [gmSources] <;> grind

theorem fordRxHook_reads (hooks : SafetyHooks ModeParams ModeVars) (c : Context)
    (p : FordParams) (toPush : CANPacket) (recalled : Signals → Prop) :
    ReadsFrom hooks fordSources toPush recalled (fun s => fordRxHook c p toPush s) := by
  constructor <;> intro input <;> cases input <;>
    simp only [fordRxHook, value_fordRxSecondSpeed, value_fordRxYawRate, fordRxBrakeCruise,
      value_guarded, value_brakePressed, value_gasPressed, value_vehicleMoving,
      value_pcmCruiseCheck, value_updateVehicleSpeed, value_genericRxChecks, reduceCtorEq, if_true,
      if_false, ite_self] <;>
    simp +contextual [fordSources, guarded_vehicleSpeed, fordRxSecondSpeed_vehicleSpeed,
      updateVehicleSpeed_vehicleSpeed] <;> grind

theorem teslaRxHook_reads (hooks : SafetyHooks ModeParams ModeVars) (c : Context)
    (p : TeslaParams) (toPush : CANPacket) (v : TeslaVars) (recalled : Signals → Prop) :
    ReadsFrom hooks (teslaSources p) toPush recalled
      (fun s => (teslaRxHook c p toPush (s, v)).1) := by
  constructor <;> intro input <;> cases input <;>
    simp only [teslaRxHook, value_ite, value_brakePressed, value_gasPressed, value_vehicleMoving,
      value_samples, updateSample_latest, value_torqueDriver, value_torqueMeas,
      value_pcmCruiseCheck, value_updateVehicleSpeed, value_genericRxChecks, guarded_fst,
      onSignals_fst, onVars_fst, reduceCtorEq, if_true, if_false, ite_self] <;>
    simp [teslaSources] <;> grind

theorem chryslerRxHook_reads (hooks : SafetyHooks ModeParams ModeVars) (c : Context)
    (p : ChryslerParams) (toPush : CANPacket) (recalled : Signals → Prop) :
    ReadsFrom hooks (chryslerSources p) toPush recalled (fun s => chryslerRxHook c p toPush s) := by
  constructor <;> intro input <;> cases input <;>
    simp only [chryslerRxHook, value_guarded, value_brakePressed, value_gasPressed,
      value_vehicleMoving, value_samples, updateSample_latest, value_torqueDriver, value_angleMeas,
      value_pcmCruiseCheck, value_genericRxChecks, reduceCtorEq, if_true, if_false, ite_self] <;>
    simp [chryslerSources] <;> grind

theorem subaruRxHook_reads (hooks : SafetyHooks ModeParams ModeVars) (c : Context)
    (p : SubaruParams) (toPush : CANPacket) (recalled : Signals → Prop) :
    ReadsFrom hooks (subaruSources p) toPush recalled (fun s => subaruRxHook c p toPush s) := by
  constructor <;> intro input <;> cases input <;>
    simp only [subaruRxHook, subaruRxSteeringTorque, subaruRxWheelSpeeds, value_guarded,
      value_brakePressed, value_gasPressed, value_vehicleMoving, value_samples, updateSample_latest,
      value_torqueMeas, value_pcmCruiseCheck, value_updateVehicleSpeed, value_genericRxChecks,
      reduceCtorEq, if_true, if_false, ite_self] <;>
    simp [subaruSources] <;> grind

theorem subaruPreglobalRxHook_reads (hooks : SafetyHooks ModeParams ModeVars) (c : Context)
    (p : SubaruPreglobalParams) (toPush : CANPacket) (recalled : Signals → Prop) :
    ReadsFrom hooks subaruPreglobalSources toPush recalled
      (fun s => subaruPreglobalRxHook c p toPush s) := by
  constructor <;> intro input <;> cases input <;>
    simp only [subaruPreglobalRxHook, value_guarded, value_brakePressed, value_gasPressed,
      value_vehicleMoving, value_samples, updateSample_latest, value_torqueMeas, value_angleMeas,
      value_pcmCruiseCheck, value_genericRxChecks, reduceCtorEq, if_true, if_false, ite_self] <;>
    simp [subaruPreglobalSources] <;> grind

theorem mazdaRxHook_reads (hooks : SafetyHooks ModeParams ModeVars) (c : Context)
    (toPush : CANPacket) (recalled : Signals → Prop) :
    ReadsFrom hooks mazdaSources toPush recalled (fun s => mazdaRxHook c toPush s) := by
  constructor <;> intro input <;> cases input <;>
    simp only [mazdaRxHook, value_guarded, value_brakePressed, value_gasPressed,
      value_vehicleMoving, value_samples, updateSample_latest, value_torqueMeas, value_angleMeas,
      value_pcmCruiseCheck, value_genericRxChecks, reduceCtorEq, if_true, if_false, ite_self] <;>
    simp [mazdaSources] <;> grind

theorem nissanRxHook_reads (hooks : SafetyHooks ModeParams ModeVars) (c : Context)
    (p : NissanParams) (toPush : CANPacket) (recalled : Signals → Prop) :
    ReadsFrom hooks (nissanSources p) toPush recalled (fun s => nissanRxHook c p toPush s) := by
  constructor <;> intro input <;> cases input <;>
    simp only [nissanRxHook, nissanRxGas, nissanRxBrake, value_guarded, value_ite,
      value_brakePressed, value_gasPressed, value_vehicleMoving, value_samples, updateSample_latest,
      value_torqueDriver, value_torqueMeas, value_pcmCruiseCheck, value_updateVehicleSpeed,
      value_genericRxChecks, reduceCtorEq, if_true, if_false, ite_self] <;>
    simp [nissanSources] <;> grind

theorem volkswagenPqRxHook_reads (hooks : SafetyHooks ModeParams ModeVars) (c : Context)
    (p : VolkswagenParams) (toPush : CANPacket) (v : VolkswagenVars) (recalled : Signals → Prop) :
    ReadsFrom hooks volkswagenPqSources toPush recalled
      (fun s => (volkswagenPqRxHook c p toPush (s, v)).1) := by
  constructor <;> intro input <;> cases input <;>
    simp only [volkswagenPqRxHook, volkswagenPqRxMainSwitch, volkswagenPqRxButtons,
      volkswagenButtons, value_ite, value_brakePressed, value_gasPressed, value_vehicleMoving,
      value_samples, updateSample_latest, value_torqueMeas, value_angleMeas, value_engagement,
      value_pcmCruiseCheck, value_genericRxChecks, guarded_fst, onSignals_fst, reduceCtorEq,
      if_true, if_false, ite_self] <;>
    simp [volkswagenPqSources] <;> grind

theorem hyundaiRxHook_reads (hooks : SafetyHooks ModeParams ModeVars) (c : Context)
    (p : HyundaiParams) (toPush : CANPacket) (v : HyundaiVars) (recalled : Signals → Prop) :
    ReadsFrom hooks (hyundaiSources p) toPush recalled
      (fun s => (hyundaiRxHook c p toPush (s, v)).1) := by
  constructor <;> intro input <;> cases input <;>
    simp only [hyundaiRxHook, hyundaiRxGas, hyundaiCommonCruiseStateCheck,
      hyundaiCommonCruiseButtonsCheck, hyundaiLongButtons, value_guarded, value_ite,
      value_brakePressed, value_gasPressed, value_vehicleMoving, value_samples, updateSample_latest,
      value_torqueMeas, value_angleMeas, value_engagement, value_genericRxChecks, guarded_fst,
      onSignals_fst, reduceCtorEq, if_true, if_false, ite_self] <;>
    simp [hyundaiSources] <;> grind

theorem hyundaiCanfdRxHook_reads (hooks : SafetyHooks ModeParams ModeVars) (c : Context)
    (pq : HyundaiParams × HyundaiCanfdParams) (toPush : CANPacket) (v : HyundaiVars)
    (recalled : Signals → Prop) :
    ReadsFrom hooks (hyundaiCanfdSources pq.1) toPush recalled
      (fun s => (hyundaiCanfdRxHook c pq toPush (s, v)).1) := by
  constructor <;> intro input <;> cases input <;>
    simp only [hyundaiCanfdRxHook, hyundaiCanfdRxGas, hyundaiCanfdRxButtons,
      hyundaiCommonCruiseStateCheck, hyundaiCommonCruiseButtonsCheck, hyundaiLongButtons,
      value_guarded, value_ite, value_brakePressed, value_gasPressed, value_vehicleMoving,
      value_samples, updateSample_latest, value_torqueMeas, value_angleMeas, value_engagement,
      value_genericRxChecks, guarded_fst, onSignals_fst, reduceCtorEq, if_true, if_false, ite_self,
      apply_ite Prod.fst] <;>
    simp [hyundaiCanfdSources] <;> grind

theorem volkswagenMqbRxHook_reads (hooks : SafetyHooks ModeParams ModeVars) (c : Context)
    (p : VolkswagenParams) (toPush : CANPacket) (v : ModeVars) :
    ReadsFrom hooks volkswagenMqbSources toPush (BrakeRecalled .volkswagenMqb v)
      (fun s => (volkswagenMqbRxHook c p toPush (s, v.volkswagen, v.volkswagenMqb)).1) := by
  constructor <;> intro input <;> cases input <;>
    simp only [volkswagenMqbRxHook, volkswagenMqbRxAccStatus, volkswagenMqbRxButtons,
      volkswagenMqbRxBrake, volkswagenButtons, value_guarded, value_ite, value_brakePressed,
      value_gasPressed, value_vehicleMoving, value_samples, updateSample_latest, value_torqueMeas,
      value_angleMeas, value_engagement, value_pcmCruiseCheck, value_genericRxChecks, guarded_fst,
      onSignals_fst, onVars_fst, reduceCtorEq, if_true, if_false, ite_self, guarded_snd,
      onSignals_snd, onVars_snd, apply_ite Prod.snd, apply_ite VolkswagenMqbVars.brakePedalSwitch,
      apply_ite VolkswagenMqbVars.brakePressureDetected] <;>
    simp [volkswagenMqbSources] <;> grind [BrakeRecalled, Input.value]

end Modes

/-- Every hook but the one of body, which the car only tells that it moves. -/
theorem rx_reads {id : HooksId} (hid : id ≠ .body) (c : Context) (m : ModeParams)
    (toPush : CANPacket) (v : ModeVars) :
    ReadsFrom (hooksOf id) (sources id m) toPush (BrakeRecalled id v)
      (fun s => ((hooksOf id).rx c m toPush (s, v)).1) := by
  cases id with
  | nooutput | elm327 | alloutput =>
      constructor
      · rintro _ _ ⟨⟩
      · intro input _ s _
        rfl
  | body => exact absurd rfl hid
  | hondaNidec | hondaBosch => exact hondaRxHook_reads _ c m.honda toPush v.honda _
  | toyota => exact toyotaRxHook_reads c m.toyota toPush _
  | gm => exact gmRxHook_reads _ c m.gm toPush _
  | ford => exact fordRxHook_reads _ c m.ford toPush _
  | tesla => exact teslaRxHook_reads _ c m.tesla toPush v.tesla _
  | hyundai | hyundaiLegacy => exact hyundaiRxHook_reads _ c m.hyundai toPush v.hyundai _
  | hyundaiCanfd =>
      exact hyundaiCanfdRxHook_reads _ c (m.hyundai, m.hyundaiCanfd) toPush v.hyundai _
  | chrysler => exact chryslerRxHook_reads _ c m.chrysler toPush _
  | subaru => exact subaruRxHook_reads _ c m.subaru toPush _
  | subaruPreglobal => exact subaruPreglobalRxHook_reads _ c m.subaruPreglobal toPush _
  | mazda => exact mazdaRxHook_reads _ c toPush _
  | nissan => exact nissanRxHook_reads _ c m.nissan toPush _
  | volkswagenMqb => exact volkswagenMqbRxHook_reads _ c m.volkswagen toPush v
  | volkswagenPq => exact volkswagenPqRxHook_reads _ c m.volkswagen toPush v.volkswagen _

/-! ### Sessions -/

def State.BrakeRecalled (s : State) : Prop :=
  Panda.Safety.BrakeRecalled s.currentHooks s.vars s.signals

theorem rx_brakeRecalled {id : HooksId} (c : Context) (m : ModeParams) (toPush : CANPacket)
    {s : Signals} {v : ModeVars} (hs : BrakeRecalled id v s) :
    BrakeRecalled id ((hooksOf id).rx c m toPush (s, v)).2
      ((hooksOf id).rx c m toPush (s, v)).1 := by
  rintro rfl
  have hrx : ∀ sv : Signals × (VolkswagenVars × VolkswagenMqbVars),
      sv.1.brakePressed = (sv.2.2.brakePedalSwitch || sv.2.2.brakePressureDetected) →
      (volkswagenMqbRxHook c m.volkswagen toPush sv).1.brakePressed =
        ((volkswagenMqbRxHook c m.volkswagen toPush sv).2.2.brakePedalSwitch ||
          (volkswagenMqbRxHook c m.volkswagen toPush sv).2.2.brakePressureDetected) := by
    intro sv hsv
    unfold volkswagenMqbRxHook
    by_cases hbus : getBus toPush = 0
    · rw [guarded_of_pos hbus]
      rfl
    · rw [guarded_of_neg hbus]
      exact hsv
  exact hrx (s, v.volkswagen, v.volkswagenMqb) (hs rfl)

theorem tx_brakeRecalled {id : HooksId} (c : Context) (m : ModeParams) {s : Signals}
    (toSend : CANPacket) (commands : Commands) {v : ModeVars} (hs : BrakeRecalled id v s) :
    BrakeRecalled id ((hooksOf id).tx c m s toSend commands v).vars s := by
  rintro rfl
  have hvars : (volkswagenMqbTxHook c s toSend commands (v.volkswagen, v.volkswagenMqb)).vars =
      (v.volkswagen, v.volkswagenMqb) := by
    simp [volkswagenMqbTxHook]
  change s.brakePressed = ((volkswagenMqbTxHook c s toSend commands
    (v.volkswagen, v.volkswagenMqb)).vars.2.brakePedalSwitch || (volkswagenMqbTxHook c s toSend
      commands (v.volkswagen, v.volkswagenMqb)).vars.2.brakePressureDetected)
  rw [hvars]
  exact hs rfl

theorem step_brakeRecalled (s : State) (e : Event) (hs : s.BrakeRecalled) :
    (step s e).BrakeRecalled := by
  cases e with
  | rx ts toPush =>
      change BrakeRecalled s.currentHooks (s.rxSignals ts toPush).2 (s.rxSignals ts toPush).1
      unfold State.rxSignals
      split
      · exact rx_brakeRecalled _ _ toPush hs
      · exact hs
  | tx ts toSend => exact tx_brakeRecalled _ _ toSend _ hs
  | fwd | tick | modeSecond | exitUnused => exact hs

theorem setSafetyHooks_brakeRecalled {mode : UInt16} {id : HooksId}
    (hmode : registered mode = some id) (param : UInt16) (before : State) :
    (setSafetyHooks mode param before).BrakeRecalled := by
  rw [setSafetyHooks_registered hmode]
  rintro (rfl : id = .volkswagenMqb)
  rfl

/-- A processed message of a source sets the input whatever the inputs were
before. -/
theorem rx_sets {s : State} (hid : s.currentHooks ≠ .body) {ts : UInt32} {toPush : CANPacket}
    (hvalid : s.rxValid ts toPush = true) {input : Input} {source : Source}
    (hsource : source ∈ sources s.currentHooks s.params input)
    (hcarried : source.carriedBy s.hooks toPush = true) {before : Signals}
    (hspeed : before.vehicleSpeed = s.signals.vehicleSpeed) :
    input.value (safetyRxHook ts toPush { s with signals := before }).signals =
      input.value (safetyRxHook ts toPush s).signals := by
  have hsets := (rx_reads hid (s.context ts) s.params toPush s.vars).sets input source hsource
    hcarried before s.signals hspeed
  change input.value (({ s with signals := before } : State).rxSignals ts toPush).1 =
    input.value (s.rxSignals ts toPush).1
  have hbefore : ({ s with signals := before } : State).rxValid ts toPush = true := hvalid
  rw [State.rxSignals, if_pos hbefore, State.rxSignals, if_pos hvalid]
  exact hsets

/-- The call receives no message of a source of the input. -/
def SilentFor (input : Input) (s : State) : Event → Prop
  | .rx _ toPush => ∀ source ∈ sources s.currentHooks s.params input,
      source.sentAs (getAddr toPush) (getBus toPush) = false
  | _ => True

theorem step_silent {input : Input} {s : State} {e : Event} (hid : s.currentHooks ≠ .body)
    (hs : s.BrakeRecalled) (hsilent : SilentFor input s e) :
    input.value (step s e).signals = input.value s.signals := by
  cases e with
  | rx ts toPush =>
      change input.value (s.rxSignals ts toPush).1 = _
      unfold State.rxSignals
      split
      · exact (rx_reads hid _ s.params toPush s.vars).frame input hsilent s.signals hs
      · cases input <;> rfl
  | tx | fwd | modeSecond => rfl
  | tick | exitUnused => cases input <;> rfl

end Panda.Safety
