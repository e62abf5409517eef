import Panda.Safety.Steering
import Panda.Safety.TorqueCheck

/-!
Steering without controls. Each mode lists the frames it may send and tests
the steering commands among them by address. The two agree, so without
controls no accepted frame steers, but for one variant: the long whitelist of
a Hyundai CAN-FD car with HDA2 lists the LKAS message for bus 0 while the hook
checks the LFA message only.
-/

namespace Panda.Safety

open Library

/-- The steering commands of a mode, by address, and whether a frame steers:
its torque is not zero, or the steering request of an angle command is set. -/
def steeringActuation (id : HooksId) (m : ModeParams) (toSend : CANPacket) : Option Bool :=
  let addr := getAddr toSend
  match id with
  | .hondaNidec | .hondaBosch =>
      if addr = 0xE4 ∨ addr = 0x194 then some (hondaSteerApplied toSend) else none
  | .toyota =>
      if addr = 0x2E4 then some (toyotaDesiredTorque toSend != 0)
      else if addr = 0x191 then some (toyotaLtaRequest toSend || toyotaLtaRequest2 toSend)
      else none
  | .tesla => if addr = 0x488 then some (teslaSteerControlEnabled toSend) else none
  | .nissan => if addr = 0x169 then some (nissanLkaActive toSend) else none
  | .ford =>
      if addr = fordLaneAssistData1 then some (fordLaneAssistAction toSend != 0)
      else if addr = fordLateralMotionControl then some (fordSteerControlEnabled toSend)
      else if addr = fordLateralMotionControl2 then some (fordSteerControlEnabled2 toSend)
      else none
  | .gm => if addr = 0x180 then some (gmDesiredTorque toSend != 0) else none
  | .hyundai | .hyundaiLegacy =>
      if addr = 0x340 then some (hyundaiDesiredTorque toSend != 0) else none
  -- LKAS, LKAS_ALT and LFA have one layout
  | .hyundaiCanfd =>
      if addr = 0x50 ∨ addr = 0x110 ∨ addr = 0x12a then
        some (hyundaiCanfdDesiredTorque toSend != 0)
      else none
  | .chrysler =>
      if addr = m.chrysler.addrs.lkasCommand then
        some (chryslerDesiredTorque m.chrysler toSend != 0)
      else none
  | .subaru => if addr = subaruEsLkas then some (subaruDesiredTorque toSend != 0) else none
  | .subaruPreglobal =>
      if addr = subaruPgEsLkas then some (subaruPgDesiredTorque toSend != 0) else none
  | .mazda => if addr = mazdaLkas then some (mazdaDesiredTorque toSend != 0) else none
  | .volkswagenMqb =>
      if addr = msgHca01 then some (volkswagenMqbDesiredTorque toSend != 0) else none
  | .volkswagenPq =>
      if addr = msgHca1 then some (volkswagenPqDesiredTorque toSend != 0) else none
  | .nooutput | .elm327 | .alloutput | .body => none

/-- The LKAS message of an HDA2 car with openpilot longitudinal, steering. -/
def UncheckedLkas (s : State) (toSend : CANPacket) : Prop :=
  s.currentHooks = .hyundaiCanfd ∧ s.params.hyundai.canfdHda2 ∧ s.params.hyundai.longitudinal ∧
    s.signals.relayMalfunction = false ∧
    getAddr toSend = 0x50 ∧ getBus toSend = 0 ∧ getLen toSend = 16 ∧
    hyundaiCanfdDesiredTorque toSend ≠ 0

theorem steerAngleCmdChecks_off {s : Signals} {angle last : Int} {enabled : Bool}
    {limits : SteeringLimits} (hcontrols : s.controlsAllowed = false)
    (hpass : (steerAngleCmdChecks s angle enabled limits last).1 = false) : enabled = false := by
  simp only [steerAngleCmdChecks, Bool.or_eq_false_iff, hcontrols] at hpass
  simpa using hpass.2

/-- Without controls an accepted torque command is zero. -/
theorem accepted_torque_off {id : HooksId} {s : State} (hs : Configured id s)
    (hcontrols : s.signals.controlsAllowed = false) {cmd : TorqueCommand}
    (hcmd : torqueCommand id s.params = some cmd) {ts : UInt32} {toSend : CANPacket}
    (haccepted : s.txAccepted ts toSend = true) (haddr : getAddr toSend = cmd.addr) :
    cmd.torque toSend = 0 := by
  rcases accepted_torque hs hcmd haccepted haddr with ⟨-, hpass⟩ | ⟨-, hzero⟩
  · exact steerTorqueCmdChecks_off hcontrols hpass
  · exact hzero

/-- Without controls an accepted angle command does not request steering. -/
theorem accepted_angle_off {id : HooksId} {s : State} (hs : Configured id s)
    (hcontrols : s.signals.controlsAllowed = false) {cmd : AngleCommand}
    (hcmd : angleCommand id s.params = some cmd) {ts : UInt32} {toSend : CANPacket}
    (haccepted : s.txAccepted ts toSend = true) {angle : Int} {enabled : Bool}
    (hdecode : cmd.decode toSend = some (angle, enabled)) : enabled = false := by
  have hpass := accepted_angle hs hcmd haccepted hdecode
  exact steerAngleCmdChecks_off hcontrols hpass

/-! One lemma for each mode: without controls an accepted frame does not steer. -/

section Modes

variable {s : State} {ts : UInt32} {toSend : CANPacket}

theorem honda_steering_covered {id : HooksId} (hid : id = .hondaNidec ∨ id = .hondaBosch)
    (hs : Configured id s) (hcontrols : s.signals.controlsAllowed = false)
    (haccepted : s.txAccepted ts toSend = true) :
    steeringActuation id s.params toSend ≠ some true := by
  intro hsteers
  have htx : (hondaTxHook s.params.honda s.signals toSend s.commands s.vars.honda).tx = true := by
    rcases hid with rfl | rfl <;> exact (hs.accepted (by decide) (by decide) haccepted).2.2
  have hsteers : (if getAddr toSend = 0xE4 ∨ getAddr toSend = 0x194 then
      some (hondaSteerApplied toSend) else none) = some true := by
    rcases hid with rfl | rfl <;> exact hsteers
  simp only [Option.ite_none_right_eq_some, Option.some.injEq] at hsteers
  obtain ⟨haddr, happlied⟩ := hsteers
  rcases haddr with haddr | haddr <;>
    simp [hondaTxHook, haddr, hcontrols, happlied] at htx

/-- The LTA message is an angle command on a car with LTA, and requests nothing on another. -/
theorem toyota_steering_covered (hs : Configured .toyota s)
    (hcontrols : s.signals.controlsAllowed = false) (haccepted : s.txAccepted ts toSend = true) :
    steeringActuation .toyota s.params toSend ≠ some true := by
  intro hsteers
  simp only [steeringActuation] at hsteers
  split at hsteers
  · rename_i haddr
    have hzero : toyotaDesiredTorque toSend = 0 :=
      accepted_torque_off hs hcontrols rfl haccepted haddr
    simp [hzero] at hsteers
  · simp only [Option.ite_none_right_eq_some, Option.some.injEq] at hsteers
    obtain ⟨haddr, hrequest⟩ := hsteers
    obtain ⟨-, hwhite, htx⟩ := hs.accepted (by decide) (by decide) haccepted
    obtain ⟨param, m, v, -, htxMsgs⟩ := hs.init
    rw [htxMsgs] at hwhite
    have hbus : getBus toSend = 0 := toyota_whitelisted_bus hwhite (by rw [haddr]; decide)
    by_cases hlta : s.params.toyota.lta = true
    · have hdecode : toyotaAngleDecode s.params.toyota toSend =
          some (toyotaLtaAngle toSend, toyotaLtaRequest toSend || toyotaLtaRequest2 toSend) := by
        simp [toyotaAngleDecode, hlta, hbus, haddr]
      have hoff := accepted_angle_off hs hcontrols rfl haccepted hdecode
      simp [hoff] at hrequest
    · have htx : (toyotaTxHook (s.context ts) s.params.toyota s.signals toSend
          s.commands).tx = true := htx
      simp [toyotaTxHook, toyotaTxLta, hlta, haddr, hbus] at htx
      simp [htx.1] at hrequest

theorem tesla_steering_covered (hs : Configured .tesla s)
    (hcontrols : s.signals.controlsAllowed = false) (haccepted : s.txAccepted ts toSend = true) :
    steeringActuation .tesla s.params toSend ≠ some true := by
  intro hsteers
  simp only [steeringActuation, Option.ite_none_right_eq_some, Option.some.injEq] at hsteers
  obtain ⟨haddr, henabled⟩ := hsteers
  obtain ⟨-, hwhite, -⟩ := hs.accepted (by decide) (by decide) haccepted
  have hpowertrain := tesla_whitelisted_steering hs hwhite haddr
  have hdecode : teslaAngleDecode s.params.tesla toSend =
      some (teslaDesiredAngle toSend, teslaSteerControlEnabled toSend) := by
    simp [teslaAngleDecode, hpowertrain, haddr]
  have hoff := accepted_angle_off hs hcontrols rfl haccepted hdecode
  simp [hoff] at henabled

theorem nissan_steering_covered (hs : Configured .nissan s)
    (hcontrols : s.signals.controlsAllowed = false) (haccepted : s.txAccepted ts toSend = true) :
    steeringActuation .nissan s.params toSend ≠ some true := by
  intro hsteers
  simp only [steeringActuation, Option.ite_none_right_eq_some, Option.some.injEq] at hsteers
  obtain ⟨haddr, hactive⟩ := hsteers
  have hdecode : nissanAngleDecode toSend =
      some (nissanDesiredAngle toSend, nissanLkaActive toSend) := by
    simp [nissanAngleDecode, haddr]
  have hoff := accepted_angle_off hs hcontrols rfl haccepted hdecode
  simp [hoff] at hactive

theorem ford_steering_covered (hs : Configured .ford s)
    (hcontrols : s.signals.controlsAllowed = false) (haccepted : s.txAccepted ts toSend = true) :
    steeringActuation .ford s.params toSend ≠ some true := by
  intro hsteers
  simp only [steeringActuation] at hsteers
  split at hsteers
  · rename_i haddr
    obtain ⟨-, -, htx⟩ := hs.accepted (by decide) (by decide) haccepted
    have htx : (fordTxHook s.signals toSend s.commands).tx = true := htx
    have haction : fordLaneAssistAction toSend ≠ 0 := by simpa using hsteers
    simp [fordTxHook, haddr, fordAccdata, fordSteeringDataFd1, fordLaneAssistData1,
      fordLateralMotionControl, fordLateralMotionControl2, haction] at htx
  · split at hsteers
    · rename_i haddr
      have hdecode : fordAngleDecode toSend =
          some (fordDesiredCurvature toSend, fordSteerControlEnabled toSend) := by
        simp [fordAngleDecode, haddr]
      have hoff := accepted_angle_off hs hcontrols rfl haccepted hdecode
      simp [hoff] at hsteers
    · simp only [Option.ite_none_right_eq_some, Option.some.injEq] at hsteers
      obtain ⟨haddr, henabled⟩ := hsteers
      have hdecode : fordAngleDecode toSend =
          some (fordDesiredCurvature2 toSend, fordSteerControlEnabled2 toSend) := by
        simp [fordAngleDecode, haddr, fordLateralMotionControl, fordLateralMotionControl2]
      have hoff := accepted_angle_off hs hcontrols rfl haccepted hdecode
      simp [hoff] at henabled

theorem hyundaiCanfd_steering_covered (hs : Configured .hyundaiCanfd s)
    (hcontrols : s.signals.controlsAllowed = false) (haccepted : s.txAccepted ts toSend = true)
    (hlkas : ¬ UncheckedLkas s toSend) :
    steeringActuation .hyundaiCanfd s.params toSend ≠ some true := by
  intro hsteers
  simp only [steeringActuation, Option.ite_none_right_eq_some, Option.some.injEq,
    bne_iff_ne] at hsteers
  obtain ⟨haddr, htorque⟩ := hsteers
  obtain ⟨hrelay, hwhite, -⟩ := hs.accepted (by decide) (by decide) haccepted
  rw [hyundaiCanfd_txMsgs hs] at hwhite
  rcases hyundaiCanfd_whitelisted hwhite haddr with hsteer | ⟨hhda2, hlong, hmsg⟩
  · exact htorque (accepted_torque_off hs hcontrols rfl haccepted hsteer)
  · exact hlkas ⟨hs.currentHooks, hhda2, hlong, hrelay, hmsg.1, hmsg.2.1, hmsg.2.2, htorque⟩

end Modes

theorem steering_covered {id : HooksId} {s : State} (hs : Configured id s)
    (hcontrols : s.signals.controlsAllowed = false) {ts : UInt32} {toSend : CANPacket}
    (haccepted : s.txAccepted ts toSend = true) (hlkas : ¬ UncheckedLkas s toSend) :
    steeringActuation id s.params toSend ≠ some true := by
  cases id with
  | nooutput | elm327 | alloutput | body =>
      intro hsteers
      cases hsteers
  | hondaNidec => exact honda_steering_covered (.inl rfl) hs hcontrols haccepted
  | hondaBosch => exact honda_steering_covered (.inr rfl) hs hcontrols haccepted
  | toyota => exact toyota_steering_covered hs hcontrols haccepted
  | tesla => exact tesla_steering_covered hs hcontrols haccepted
  | nissan => exact nissan_steering_covered hs hcontrols haccepted
  | ford => exact ford_steering_covered hs hcontrols haccepted
  | hyundaiCanfd => exact hyundaiCanfd_steering_covered hs hcontrols haccepted hlkas
  | gm | hyundai | hyundaiLegacy | chrysler | subaru | subaruPreglobal | mazda | volkswagenMqb
  | volkswagenPq =>
      -- one torque command, which the limiter checks
      intro hsteers
      simp only [steeringActuation, Option.ite_none_right_eq_some, Option.some.injEq,
        bne_iff_ne] at hsteers
      obtain ⟨haddr, htorque⟩ := hsteers
      exact htorque (accepted_torque_off hs hcontrols rfl haccepted haddr)

/-- The unchecked message is accepted, whatever torque it carries. -/
theorem uncheckedLkas_accepted {id : HooksId} {s : State} (hs : Configured id s) {ts : UInt32}
    {toSend : CANPacket} (hlkas : UncheckedLkas s toSend) :
    s.txAccepted ts toSend = true ∧ steeringActuation id s.params toSend = some true := by
  obtain ⟨hhooks, hhda2, hlong, hrelay, haddr, hbus, hlen, htorque⟩ := hlkas
  obtain rfl : id = .hyundaiCanfd := hs.currentHooks.symm.trans hhooks
  have hwhite : msgAllowed toSend s.cfg.txMsgs = true := by
    rw [hyundaiCanfd_txMsgs hs]
    simp [hyundaiCanfdConfig, hhda2, hlong, msgAllowed, hyundaiCanfdHda2LongTxMsgs, haddr, hbus,
      hlen]
  have htx : (hyundaiCanfdTxHook (s.context ts) (s.params.hyundai, s.params.hyundaiCanfd)
      s.signals toSend s.commands s.vars.hyundai).tx = true := by
    simp [hyundaiCanfdTxHook, hyundaiCanfdSteerAddr, hlong, haddr]
  constructor
  · have hsending : (s.sending ts toSend).tx = true := by
      rw [State.sending, State.hooks, hs.currentHooks]
      exact htx
    simp [State.txAccepted, hrelay, hs.whitelisted (by decide) (by decide), hwhite, hsending]
  · simp [steeringActuation, haddr, htorque]

/-- Without controls, an accepted frame steers exactly if it is the LKAS
message of a Hyundai CAN-FD car with HDA2 and openpilot longitudinal. -/
theorem accepted_steers_iff {mode : UInt16} {id : HooksId} (hmode : registered mode = some id)
    (param : UInt16) (before : State) (events : List Event)
    (hcontrols : (session mode param before events).signals.controlsAllowed = false)
    (ts : UInt32) (toSend : CANPacket) :
    ((session mode param before events).txAccepted ts toSend = true →
        steeringActuation id (session mode param before events).params toSend ≠ some true) ↔
      ¬ UncheckedLkas (session mode param before events) toSend := by
  have hs := session_configured hmode param before events
  constructor
  · intro hcovered hlkas
    obtain ⟨haccepted, hsteers⟩ := uncheckedLkas_accepted hs hlkas
    exact hcovered haccepted hsteers
  · intro hlkas haccepted
    exact steering_covered hs hcontrols haccepted hlkas

/-- LKAS of an HDA2 car on bus 0, with torque 250. -/
def hda2LkasFrame : CANPacket := .ofBytes 0x50 0 10 [0, 0, 0, 0, 0, 0xF4, 0x09]

theorem accepted_steers_iff_hda2 :
    ((session safetyHyundaiCanfd 20 bootState []).txAccepted 0 hda2LkasFrame = true →
        steeringActuation .hyundaiCanfd (session safetyHyundaiCanfd 20 bootState []).params
          hda2LkasFrame ≠ some true) ↔
      ¬ UncheckedLkas (session safetyHyundaiCanfd 20 bootState []) hda2LkasFrame := by
  have hmode : registered safetyHyundaiCanfd = some .hyundaiCanfd := by decide
  have hcontrols :
      (session safetyHyundaiCanfd 20 bootState []).signals.controlsAllowed = false := by
    decide
  exact accepted_steers_iff hmode 20 bootState [] hcontrols 0 hda2LkasFrame

theorem hda2_lkas_unchecked :
    ¬ ∀ mode id param before events ts toSend, registered mode = some id →
      (session mode param before events).signals.controlsAllowed = false →
      (session mode param before events).txAccepted ts toSend = true →
      steeringActuation id (session mode param before events).params toSend ≠ some true := by
  intro hall
  have hmode : registered safetyHyundaiCanfd = some .hyundaiCanfd := by decide
  have hcontrols :
      (session safetyHyundaiCanfd 20 bootState []).signals.controlsAllowed = false := by
    decide
  have haccepted :
      (session safetyHyundaiCanfd 20 bootState []).txAccepted 0 hda2LkasFrame = true := by
    decide
  have hsteers : steeringActuation .hyundaiCanfd
      (session safetyHyundaiCanfd 20 bootState []).params hda2LkasFrame = some true := by
    decide
  exact hall safetyHyundaiCanfd .hyundaiCanfd 20 bootState [] 0 hda2LkasFrame hmode hcontrols
    haccepted hsteers

end Panda.Safety
