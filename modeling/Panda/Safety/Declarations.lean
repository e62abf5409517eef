import Panda.Library.Guarded
import Panda.Safety.Packet

/-!
The data of `board/safety_declarations.h` and the globals of `board/safety.h`,
grouped by who writes them. `Signals` is what a receive hook writes from the
messages of the car, `Commands` what a transmit hook remembers of openpilot's
commands, and `Context` what both only read. Every hook is typed by the groups
it reads and writes. C `int` is `Int`, `uint32_t` timestamps are `UInt32`, and
`float` and `double` arithmetic is exact rational arithmetic with the C
truncation where a value is stored in an `int`.
-/

namespace Panda.Safety

open Library

instance variantNeZero : NeZero 3 := ⟨by decide⟩

structure Sample where
  values : Vector Int 6
  min : Int
  max : Int

def updateSample (sample : Sample) (sampleNew : Int) : Sample :=
  let v := sample.values
  let values := #v[sampleNew, v[0], v[1], v[2], v[3], v[4]]
  { values
    min := [v[0], v[1], v[2], v[3], v[4]].foldl Min.min sampleNew
    max := [v[0], v[1], v[2], v[3], v[4]].foldl Max.max sampleNew }

def resetSample (sample : Sample) : Sample :=
  updateSample { sample with values := #v[0, 0, 0, 0, 0, 0] } 0

def zeroSample : Sample := ⟨#v[0, 0, 0, 0, 0, 0], 0, 0⟩

/-- `values[0]`, the last sample. -/
def Sample.latest (sample : Sample) : Int := sample.values[0]

structure Lookup where
  x : Fin 3 → ℚ
  y : Fin 3 → ℚ

structure CanMsg where
  addr : Nat
  bus : Nat
  len : Nat
deriving DecidableEq

inductive SteeringControlType where
  | torqueMotorLimited
  | torqueDriverLimited
deriving DecidableEq

/-- `SteeringLimits`. A field that a mode does not set is zero, as in C. -/
structure SteeringLimits where
  maxSteer : Int := 0
  maxRateUp : Int := 0
  maxRateDown : Int := 0
  maxRtDelta : Int := 0
  maxRtInterval : UInt32 := 0
  type : SteeringControlType := .torqueMotorLimited
  driverTorqueAllowance : Int := 0
  driverTorqueFactor : Int := 0
  maxTorqueError : Int := 0
  minValidRequestFrames : Int := 0
  maxInvalidRequestFrames : Int := 0
  minValidRequestRtInterval : UInt32 := 0
  hasSteerReqTolerance : Bool := false
  angleDegToCan : ℚ := 0
  angleRateUpLookup : Lookup := ⟨![0, 0, 0], ![0, 0, 0]⟩
  angleRateDownLookup : Lookup := ⟨![0, 0, 0], ![0, 0, 0]⟩
  maxAngleError : Int := 0
  angleErrorMinSpeed : ℚ := 0
  enforceAngleError : Bool := false
  inactiveAngleIsZero : Bool := false

structure LongitudinalLimits where
  maxAccel : Int := 0
  minAccel : Int := 0
  inactiveAccel : Int := 0
  maxGas : Int := 0
  minGas : Int := 0
  inactiveGas : Int := 0
  maxBrake : Int := 0
  maxTransmissionRpm : Int := 0
  minTransmissionRpm : Int := 0
  inactiveTransmissionRpm : Int := 0
  inactiveSpeed : Int := 0

structure CanMsgCheck where
  addr : Nat := 0
  bus : Nat := 0
  len : Nat := 0
  checkChecksum : Bool := false
  maxCounter : UInt8 := 0
  qualityFlag : Bool := false
  frequency : Nat := 0

structure RxStatus where
  msgSeen : Bool := false
  index : Fin 3 := 0
  validChecksum : Bool := false
  wrongCounters : Int := 0
  validQualityFlag : Bool := false
  lastCounter : UInt8 := 0
  lastTimestamp : UInt32 := 0
  lagging : Bool := false

/-- `RxCheck`: up to three variants of one monitored message and its status. -/
structure RxCheck where
  msg : Vector CanMsgCheck 3
  status : RxStatus := {}

def RxCheck.variant (check : RxCheck) (j : Fin 3) : CanMsgCheck := check.msg[j]

def RxCheck.selected (check : RxCheck) : CanMsgCheck := check.variant check.status.index

/-- A check with one variant, `{.msg = {{...}, { 0 }, { 0 }}}`. -/
def rxCheck (msg : CanMsgCheck) : RxCheck := { msg := #v[msg, {}, {}] }

structure SafetyConfig where
  rxChecks : List RxCheck := []
  txMsgs : List CanMsg := []

/-- The globals that describe the car, written by the receive hooks and by the checks
they call. -/
structure Signals where
  controlsAllowed : Bool := false
  relayMalfunction : Bool := false
  gasPressed : Bool := false
  gasPressedPrev : Bool := false
  brakePressed : Bool := false
  brakePressedPrev : Bool := false
  regenBraking : Bool := false
  regenBrakingPrev : Bool := false
  cruiseEngagedPrev : Bool := false
  vehicleMoving : Bool := false
  accMainOn : Bool := false
  cruiseButtonPrev : Nat := 0
  vehicleSpeed : Sample
  torqueMeas : Sample
  torqueDriver : Sample
  angleMeas : Sample

structure TorqueState where
  desiredTorqueLast : Int := 0
  rtTorqueLast : Int := 0
  validSteerReqCount : Int := 0
  invalidSteerReqCount : Int := 0
  tsTorqueCheckLast : UInt32 := 0
  tsSteerReqMismatchLast : UInt32 := 0

/-- The globals that remember commands, written by the transmit hooks only. -/
structure Commands where
  torque : TorqueState := {}
  desiredAngleLast : Int := 0

/-- What the hooks only read: `alternative_experience`, `safety_mode_cnt` and
`microsecond_timer_get()`. -/
structure Context where
  alternativeExperience : Nat
  safetyModeCnt : UInt32
  ts : UInt32

/-- What `init` decides: the configuration, the mode's variables and the value
of `controls_allowed`, which was cleared just before. -/
structure InitResult (P D : Type) where
  cfg : SafetyConfig
  params : P
  vars : D
  controlsAllowed : Bool := false

/-- The local `bool tx` of a transmit hook with the variables it writes. -/
structure Sending (D : Type) where
  tx : Bool
  commands : Commands
  vars : D

/-- `safety_hooks`. `P` is the mode's static variables that only `init` writes
and `D` the ones its other hooks write. -/
structure SafetyHooks (P D : Type) where
  init : UInt16 → P → D → InitResult P D
  rx : Context → P → CANPacket → Signals × D → Signals × D
  tx : Context → P → Signals → CANPacket → Commands → D → Sending D
  fwd : P → D → Int → Int → Int
  getChecksum : Option (CANPacket → UInt32) := none
  computeChecksum : Option (P → CANPacket → UInt32) := none
  getCounter : Option (CANPacket → UInt8) := none
  getQualityFlagValid : Option (CANPacket → Bool) := none

/-- A statement of a receive hook that leaves the mode's variables alone. -/
def onSignals {D : Type} (f : Signals → Signals) (sv : Signals × D) : Signals × D :=
  (f sv.1, sv.2)

/-- A statement of a receive hook that leaves the signals alone. -/
def onVars {D : Type} (f : D → D) (sv : Signals × D) : Signals × D :=
  (sv.1, f sv.2)

/-- `if (violation) { tx = false; }` -/
def block {D : Type} (violation : Bool) (r : Sending D) : Sending D :=
  { r with tx := r.tx && !violation }

/-- A torque check inside a transmit hook: its verdict blocks the frame and
its memory is kept. -/
def checkTorque {D : Type} (check : TorqueState → Bool × TorqueState)
    (r : Sending D) : Sending D :=
  let (violation, torque) := check r.commands.torque
  { r with tx := r.tx && !violation, commands := { r.commands with torque } }

def checkAngle {D : Type} (check : Int → Bool × Int) (r : Sending D) : Sending D :=
  let (violation, desiredAngleLast) := check r.commands.desiredAngleLast
  { r with tx := r.tx && !violation, commands := { r.commands with desiredAngleLast } }

/-! ### Projections of statements

A hook is a sequence of guarded statements. What it does to one variable is
read off by projecting the sequence: a statement that leaves the variable
alone disappears. -/

section Projections

variable {D : Type} {c : Prop} [Decidable c]

@[simp] theorem onSignals_fst (f : Signals → Signals) (sv : Signals × D) :
    (onSignals f sv).1 = f sv.1 := rfl

@[simp] theorem onSignals_snd (f : Signals → Signals) (sv : Signals × D) :
    (onSignals f sv).2 = sv.2 := rfl

@[simp] theorem onVars_fst (f : D → D) (sv : Signals × D) : (onVars f sv).1 = sv.1 := rfl

@[simp] theorem onVars_snd (f : D → D) (sv : Signals × D) : (onVars f sv).2 = f sv.2 := rfl

@[simp] theorem guarded_fst (f : Signals × D → Signals × D) (sv : Signals × D) :
    (guarded c f sv).1 = if c then (f sv).1 else sv.1 := apply_ite Prod.fst _ _ _

@[simp] theorem guarded_snd (f : Signals × D → Signals × D) (sv : Signals × D) :
    (guarded c f sv).2 = if c then (f sv).2 else sv.2 := apply_ite Prod.snd _ _ _

@[simp] theorem guarded_controlsAllowed (f : Signals → Signals) (s : Signals) :
    (guarded c f s).controlsAllowed =
      if c then (f s).controlsAllowed else s.controlsAllowed := apply_ite _ _ _ _

@[simp] theorem ite_controlsAllowed (s t : Signals) :
    (if c then s else t).controlsAllowed =
      if c then s.controlsAllowed else t.controlsAllowed := apply_ite _ _ _ _

@[simp] theorem guarded_relayMalfunction (f : Signals → Signals) (s : Signals) :
    (guarded c f s).relayMalfunction =
      if c then (f s).relayMalfunction else s.relayMalfunction := apply_ite _ _ _ _

@[simp] theorem ite_relayMalfunction (s t : Signals) :
    (if c then s else t).relayMalfunction =
      if c then s.relayMalfunction else t.relayMalfunction := apply_ite _ _ _ _

@[simp] theorem guarded_gasPressed (f : Signals → Signals) (s : Signals) :
    (guarded c f s).gasPressed = if c then (f s).gasPressed else s.gasPressed :=
  apply_ite _ _ _ _

@[simp] theorem ite_gasPressed (s t : Signals) :
    (if c then s else t).gasPressed = if c then s.gasPressed else t.gasPressed :=
  apply_ite _ _ _ _

@[simp] theorem guarded_gasPressedPrev (f : Signals → Signals) (s : Signals) :
    (guarded c f s).gasPressedPrev = if c then (f s).gasPressedPrev else s.gasPressedPrev :=
  apply_ite _ _ _ _

@[simp] theorem ite_gasPressedPrev (s t : Signals) :
    (if c then s else t).gasPressedPrev = if c then s.gasPressedPrev else t.gasPressedPrev :=
  apply_ite _ _ _ _

@[simp] theorem guarded_brakePressedPrev (f : Signals → Signals) (s : Signals) :
    (guarded c f s).brakePressedPrev = if c then (f s).brakePressedPrev else s.brakePressedPrev :=
  apply_ite _ _ _ _

@[simp] theorem ite_brakePressedPrev (s t : Signals) :
    (if c then s else t).brakePressedPrev = if c then s.brakePressedPrev else t.brakePressedPrev :=
  apply_ite _ _ _ _

@[simp] theorem guarded_regenBrakingPrev (f : Signals → Signals) (s : Signals) :
    (guarded c f s).regenBrakingPrev = if c then (f s).regenBrakingPrev else s.regenBrakingPrev :=
  apply_ite _ _ _ _

@[simp] theorem ite_regenBrakingPrev (s t : Signals) :
    (if c then s else t).regenBrakingPrev = if c then s.regenBrakingPrev else t.regenBrakingPrev :=
  apply_ite _ _ _ _

@[simp] theorem guarded_cruiseEngagedPrev (f : Signals → Signals) (s : Signals) :
    (guarded c f s).cruiseEngagedPrev =
      if c then (f s).cruiseEngagedPrev else s.cruiseEngagedPrev :=
  apply_ite _ _ _ _

@[simp] theorem ite_cruiseEngagedPrev (s t : Signals) :
    (if c then s else t).cruiseEngagedPrev =
      if c then s.cruiseEngagedPrev else t.cruiseEngagedPrev :=
  apply_ite _ _ _ _

@[simp] theorem block_tx (violation : Bool) (r : Sending D) :
    (block violation r).tx = (r.tx && !violation) := rfl

@[simp] theorem block_commands (violation : Bool) (r : Sending D) :
    (block violation r).commands = r.commands := rfl

@[simp] theorem block_vars (violation : Bool) (r : Sending D) :
    (block violation r).vars = r.vars := rfl

@[simp] theorem checkTorque_tx (check : TorqueState → Bool × TorqueState) (r : Sending D) :
    (checkTorque check r).tx = (r.tx && !(check r.commands.torque).1) := rfl

@[simp] theorem checkTorque_torque (check : TorqueState → Bool × TorqueState) (r : Sending D) :
    (checkTorque check r).commands.torque = (check r.commands.torque).2 := rfl

@[simp] theorem checkTorque_desiredAngleLast (check : TorqueState → Bool × TorqueState)
    (r : Sending D) :
    (checkTorque check r).commands.desiredAngleLast = r.commands.desiredAngleLast := rfl

@[simp] theorem checkTorque_vars (check : TorqueState → Bool × TorqueState) (r : Sending D) :
    (checkTorque check r).vars = r.vars := rfl

@[simp] theorem checkAngle_tx (check : Int → Bool × Int) (r : Sending D) :
    (checkAngle check r).tx = (r.tx && !(check r.commands.desiredAngleLast).1) := rfl

@[simp] theorem checkAngle_torque (check : Int → Bool × Int) (r : Sending D) :
    (checkAngle check r).commands.torque = r.commands.torque := rfl

@[simp] theorem checkAngle_desiredAngleLast (check : Int → Bool × Int) (r : Sending D) :
    (checkAngle check r).commands.desiredAngleLast =
      (check r.commands.desiredAngleLast).2 := rfl

@[simp] theorem checkAngle_vars (check : Int → Bool × Int) (r : Sending D) :
    (checkAngle check r).vars = r.vars := rfl

@[simp] theorem guarded_tx (f : Sending D → Sending D) (r : Sending D) :
    (guarded c f r).tx = if c then (f r).tx else r.tx := apply_ite _ _ _ _

@[simp] theorem guarded_commands (f : Sending D → Sending D) (r : Sending D) :
    (guarded c f r).commands = if c then (f r).commands else r.commands := apply_ite _ _ _ _

@[simp] theorem ite_torque (a b : Commands) :
    (if c then a else b).torque = if c then a.torque else b.torque := apply_ite _ _ _ _

@[simp] theorem ite_desiredAngleLast (a b : Commands) :
    (if c then a else b).desiredAngleLast =
      if c then a.desiredAngleLast else b.desiredAngleLast := apply_ite _ _ _ _

@[simp] theorem guarded_vars (f : Sending D → Sending D) (r : Sending D) :
    (guarded c f r).vars = if c then (f r).vars else r.vars := apply_ite _ _ _ _

end Projections

end Panda.Safety
