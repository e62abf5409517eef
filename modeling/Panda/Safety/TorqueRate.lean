import Panda.Safety.Relay
import Panda.Safety.Steering
import Panda.Safety.TorqueCheck

/-!
The rate limit of torque commands over the frames that reach the car. The
check compares a command with the last one it saw, which is also updated by
frames that are rejected after the check: those that the whitelist does not
list. As long as these do not move the reference away from zero, the accepted
torques keep the rate limit.
-/

namespace Panda.Safety

open Library

/-! ### The check -/

section Check

variable {ts : UInt32} {s : Signals} {desiredTorque steerReq : Int} {limits : SteeringLimits}
  {t : TorqueState}

theorem steerReqChecks_desiredTorqueLast :
    (steerReqChecks ts desiredTorque steerReq limits t).2.desiredTorqueLast =
      t.desiredTorqueLast := by
  unfold steerReqChecks
  split_ifs <;> rfl

theorem torqueLimitChecks_desiredTorqueLast :
    (torqueLimitChecks ts s desiredTorque limits t).2.desiredTorqueLast = desiredTorque := by
  simp only [torqueLimitChecks]
  split <;> rfl

/-- The reference after the check: the command, or zero after a violation and
without controls. -/
theorem steerTorqueCmdChecks_desiredTorqueLast :
    (steerTorqueCmdChecks ts s desiredTorque steerReq limits t).2.desiredTorqueLast =
      if (steerTorqueCmdChecks ts s desiredTorque steerReq limits t).1 || !s.controlsAllowed then 0
      else desiredTorque := by
  rw [steerTorqueCmdChecks_state]
  split
  · rfl
  · rw [steerReqChecks_desiredTorqueLast, torqueLimitChecks_desiredTorqueLast]

theorem driverLimitCheck_rate {val valLast : Int} {valDriver : Sample}
    {maxVal maxRateUp maxRateDown maxAllowance driverFactor : Int}
    (hpass : driverLimitCheck val valLast valDriver maxVal maxRateUp maxRateDown maxAllowance
      driverFactor = false) :
    min valLast 0 - maxRateUp ≤ val ∧ val ≤ max valLast 0 + maxRateUp := by
  obtain ⟨hhigh, hlow⟩ := maxLimitCheck_eq_false.mp hpass
  exact ⟨le_trans (le_max_left _ _) hlow, le_trans hhigh (min_le_left _ _)⟩

theorem distToMeasCheck_rate {val valLast : Int} {valMeas : Sample}
    {maxRateUp maxRateDown maxError : Int}
    (hpass : distToMeasCheck val valLast valMeas maxRateUp maxRateDown maxError = false) :
    min valLast 0 - maxRateUp ≤ val ∧ val ≤ max valLast 0 + maxRateUp := by
  obtain ⟨hhigh, hlow⟩ := maxLimitCheck_eq_false.mp hpass
  exact ⟨le_trans (le_max_left _ _) hlow, le_trans hhigh (min_le_left _ _)⟩

/-- With controls, a command that passes is within the rate limit of the
reference, whichever kind of limits the mode has. -/
theorem steerTorqueCmdChecks_rate (hcontrols : s.controlsAllowed = true)
    (hpass : (steerTorqueCmdChecks ts s desiredTorque steerReq limits t).1 = false) :
    min t.desiredTorqueLast 0 - limits.maxRateUp ≤ desiredTorque ∧
      desiredTorque ≤ max t.desiredTorqueLast 0 + limits.maxRateUp := by
  obtain ⟨hlimits, -, -⟩ := steerTorqueCmdChecks_kept hcontrols hpass
  unfold torqueLimitChecks at hlimits
  simp only [Bool.or_eq_false_iff] at hlimits
  have hrate := hlimits.1.2
  cases htype : limits.type with
  | torqueDriverLimited =>
      rw [htype] at hrate
      exact driverLimitCheck_rate hrate
  | torqueMotorLimited =>
      rw [htype] at hrate
      exact distToMeasCheck_rate hrate

end Check

/-! ### The reference between accepted commands -/

/-- The value lies between zero and the given torque. -/
def TowardZero (torque value : Int) : Prop := min torque 0 ≤ value ∧ value ≤ max torque 0

theorem TowardZero.zero (torque : Int) : TowardZero torque 0 :=
  ⟨min_le_right _ _, le_max_right _ _⟩

theorem TowardZero.trans {torque last value : Int} (hlast : TowardZero torque last)
    (hvalue : TowardZero last value) : TowardZero torque value := by
  unfold TowardZero at *
  omega

/-- The event sends a frame of the steering address that is accepted. -/
def AcceptsSteering (addr : Nat) (s : State) : Event → Prop
  | .tx ts toSend => s.txAccepted ts toSend = true ∧ getAddr toSend = addr
  | _ => False

/-- The event does not let a frame that is off the whitelist move the
reference away from zero: such a frame violates the check, or its torque lies
between zero and the reference. -/
def KeepsTorqueReference (cmd : TorqueCommand) (s : State) : Event → Prop
  | .tx ts toSend =>
      cmd.checks toSend = true → s.whitelisted toSend = false →
        (cmd.verdict ts s.signals toSend s.commands.torque).1 = true ∨
          TowardZero s.commands.torque.desiredTorqueLast (cmd.torque toSend)
  | _ => True

/-- The reference lies between zero and the last accepted torque, unless no
frame will be accepted any more. -/
def ReferenceWithin (torque : Int) (s : State) : Prop :=
  s.signals.relayMalfunction = true ∨ TowardZero torque s.commands.torque.desiredTorqueLast

theorem verdict_desiredTorqueLast (cmd : TorqueCommand) (ts : UInt32) (s : Signals)
    (toSend : CANPacket) (t : TorqueState) :
    (cmd.verdict ts s toSend t).2.desiredTorqueLast =
      if (cmd.verdict ts s toSend t).1 || !s.controlsAllowed then 0 else cmd.torque toSend :=
  steerTorqueCmdChecks_desiredTorqueLast

/-- A frame that is not accepted keeps the reference toward zero. -/
theorem tx_referenceWithin {id : HooksId} {s : State} (hs : Configured id s)
    {cmd : TorqueCommand} (hcmd : torqueCommand id s.params = some cmd) {torque : Int}
    {ts : UInt32} {toSend : CANPacket}
    (hrejected : ¬ AcceptsSteering cmd.addr s (.tx ts toSend))
    (hkeeps : KeepsTorqueReference cmd s (.tx ts toSend)) (hwithin : ReferenceWithin torque s) :
    ReferenceWithin torque (step s (.tx ts toSend)) := by
  rcases hwithin with hrelay | hwithin
  · exact Or.inl hrelay
  by_cases hrelay : s.signals.relayMalfunction = true
  · exact Or.inl hrelay
  right
  change TowardZero torque (s.sending ts toSend).commands.torque.desiredTorqueLast
  rw [sending_torque hs hcmd]
  by_cases hchecks : cmd.checks toSend = true
  · rw [if_pos hchecks, verdict_desiredTorqueLast]
    by_cases hviolation : (cmd.verdict ts s.signals toSend s.commands.torque).1 = true
    · rw [hviolation]
      exact TowardZero.zero torque
    · have hpass : (cmd.verdict ts s.signals toSend s.commands.torque).1 = false := by
        simpa using hviolation
      have hwhite : s.whitelisted toSend = false := by
        -- on the whitelist, a frame that passes the check is accepted
        by_contra hwhite
        have haddr : getAddr toSend = cmd.addr := by
          simp only [TorqueCommand.checks, Bool.and_eq_true, beq_iff_eq] at hchecks
          exact hchecks.2
        have htx : (s.sending ts toSend).tx = true := by
          rw [sending_tx hs hcmd hchecks, hpass]
          rfl
        exact hrejected ⟨by simp [State.txAccepted, hrelay, hwhite, htx], haddr⟩
      have htoward : TowardZero s.commands.torque.desiredTorqueLast (cmd.torque toSend) :=
        (hkeeps hchecks hwhite).resolve_left hviolation
      split
      · exact TowardZero.zero torque
      · exact hwithin.trans htoward
  · rw [if_neg hchecks]
    exact hwithin

theorem step_referenceWithin {id : HooksId} {s : State} (hs : Configured id s)
    {cmd : TorqueCommand} (hcmd : torqueCommand id s.params = some cmd) {torque : Int}
    {e : Event} (hrejected : ¬ AcceptsSteering cmd.addr s e)
    (hkeeps : KeepsTorqueReference cmd s e) (hwithin : ReferenceWithin torque s) :
    ReferenceWithin torque (step s e) := by
  cases e with
  | tx ts toSend => exact tx_referenceWithin hs hcmd hrejected hkeeps hwithin
  | _ =>
      rcases hwithin with hrelay | hwithin
      · exact Or.inl (step_relayMalfunction hrelay _)
      · exact Or.inr hwithin

/-- After an accepted command, the reference is the command, or zero. -/
theorem accepted_referenceWithin {id : HooksId} {s : State} (hs : Configured id s)
    {cmd : TorqueCommand} (hcmd : torqueCommand id s.params = some cmd) {ts : UInt32}
    {toSend : CANPacket} (haccepted : AcceptsSteering cmd.addr s (.tx ts toSend))
    (henabled : cmd.enabled = true) :
    ReferenceWithin (cmd.torque toSend) (step s (.tx ts toSend)) := by
  right
  change TowardZero (cmd.torque toSend) (s.sending ts toSend).commands.torque.desiredTorqueLast
  rcases accepted_torque hs hcmd haccepted.1 haccepted.2 with ⟨hchecks, hpass⟩ | ⟨hdisabled, -⟩
  · rw [sending_torque hs hcmd, if_pos hchecks, verdict_desiredTorqueLast]
    split
    · exact TowardZero.zero _
    · exact ⟨min_le_left _ _, le_max_left _ _⟩
  · simp [henabled] at hdisabled

/-! ### Sessions -/

/-- The reference stays toward zero while no command is accepted. -/
theorem run_referenceWithin {id : HooksId} {s : State} (hs : Configured id s)
    {cmd : TorqueCommand} (hcmd : torqueCommand id s.params = some cmd) {torque : Int}
    {between : List Event} (hwithin : ReferenceWithin torque s)
    (hrejected : Along step (fun s e => ¬ AcceptsSteering cmd.addr s e) s between)
    (hkeeps : Along step (KeepsTorqueReference cmd) s between) :
    ReferenceWithin torque (run step s between) := by
  have hstep : ∀ s e, (¬ AcceptsSteering cmd.addr s e ∧ KeepsTorqueReference cmd s e) →
      (Configured id s ∧ torqueCommand id s.params = some cmd ∧ ReferenceWithin torque s) →
      (Configured id (step s e) ∧ torqueCommand id (step s e).params = some cmd ∧
        ReferenceWithin torque (step s e)) := by
    rintro s e ⟨hrejected, hkeeps⟩ ⟨hs, hcmd, hwithin⟩
    refine ⟨hs.run [e], ?_, step_referenceWithin hs hcmd hrejected hkeeps hwithin⟩
    rw [step_params]
    exact hcmd
  exact (run_preserves hstep (hrejected.and hkeeps) ⟨hs, hcmd, hwithin⟩).2.2

/-- With the reference toward zero, the next accepted command keeps the rate
limit. -/
theorem accepted_within {id : HooksId} {s : State} (hs : Configured id s)
    {cmd : TorqueCommand} (hcmd : torqueCommand id s.params = some cmd) {torque : Int}
    (hwithin : ReferenceWithin torque s) {ts : UInt32} {toSend : CANPacket}
    (haccepted : AcceptsSteering cmd.addr s (.tx ts toSend)) :
    min torque 0 - cmd.limits.maxRateUp ≤ cmd.torque toSend ∧
      cmd.torque toSend ≤ max torque 0 + cmd.limits.maxRateUp := by
  have hrate : 0 ≤ cmd.limits.maxRateUp := (torqueCommand_proper hcmd).rateUp
  have hwithin : TowardZero torque s.commands.torque.desiredTorqueLast := by
    refine hwithin.resolve_left fun hrelay => ?_
    have hrejected := txAccepted_of_relayMalfunction hrelay ts toSend
    rw [haccepted.1] at hrejected
    cases hrejected
  have hzero : cmd.torque toSend = 0 → min torque 0 - cmd.limits.maxRateUp ≤ cmd.torque toSend ∧
      cmd.torque toSend ≤ max torque 0 + cmd.limits.maxRateUp := by
    intro hzero
    rw [hzero]
    omega
  rcases accepted_torque hs hcmd haccepted.1 haccepted.2 with ⟨-, hpass⟩ | ⟨-, hnone⟩
  · cases hcontrols : s.signals.controlsAllowed with
    | true =>
        obtain ⟨hlow, hhigh⟩ := steerTorqueCmdChecks_rate hcontrols hpass
        unfold TowardZero at hwithin
        omega
    | false => exact hzero (steerTorqueCmdChecks_off hcontrols hpass)
  · exact hzero hnone

/-- The torque that reaches the car keeps the rate limit: from one accepted
command to the next one it grows away from zero by at most the rate, as long
as the frames in between that are off the whitelist do not move the reference
of the check away from zero. -/
theorem accepted_torque_rate {mode : UInt16} {id : HooksId} (hmode : registered mode = some id)
    (param : UInt16) (before : State) (events between : List Event) {cmd : TorqueCommand}
    (hcmd : torqueCommand id (session mode param before events).params = some cmd)
    {ts ts' : UInt32} {sent next : CANPacket}
    (hsent : AcceptsSteering cmd.addr (session mode param before events) (.tx ts sent))
    (hbetween : Along step (fun s e => ¬ AcceptsSteering cmd.addr s e)
      (session mode param before (events ++ [.tx ts sent])) between)
    (hkeeps : Along step (KeepsTorqueReference cmd)
      (session mode param before (events ++ [.tx ts sent])) between)
    (hnext : AcceptsSteering cmd.addr
      (session mode param before (events ++ [.tx ts sent] ++ between)) (.tx ts' next)) :
    min (cmd.torque sent) 0 - cmd.limits.maxRateUp ≤ cmd.torque next ∧
      cmd.torque next ≤ max (cmd.torque sent) 0 + cmd.limits.maxRateUp := by
  have hsent' : session mode param before (events ++ [.tx ts sent]) =
      step (session mode param before events) (.tx ts sent) := session_append ..
  have hs := session_configured hmode param before events
  have hs' := session_configured hmode param before (events ++ [.tx ts sent])
  have hcmd' : torqueCommand id
      (session mode param before (events ++ [.tx ts sent])).params = some cmd := by
    rw [hsent', step_params]
    exact hcmd
  have hcmd'' : torqueCommand id
      (session mode param before (events ++ [.tx ts sent] ++ between)).params = some cmd := by
    rw [session_append, run_params]
    exact hcmd'
  have hs'' := session_configured hmode param before (events ++ [.tx ts sent] ++ between)
  rcases accepted_torque hs'' hcmd'' hnext.1 hnext.2 with ⟨hchecks, -⟩ | ⟨-, hzero⟩
  · have henabled : cmd.enabled = true := by
      simp only [TorqueCommand.checks, Bool.and_eq_true] at hchecks
      exact hchecks.1.1
    have hwithin := accepted_referenceWithin hs hcmd hsent henabled
    rw [← hsent'] at hwithin
    have hlast := run_referenceWithin hs' hcmd' hwithin hbetween hkeeps
    rw [← session_append] at hlast
    exact accepted_within hs'' hcmd'' hlast hnext
  · have hrate : 0 ≤ cmd.limits.maxRateUp := (torqueCommand_proper hcmd).rateUp
    rw [hzero]
    omega

/-- GM with controls turned on by the set button. -/
def gmEngaged : List Event :=
  [.rx 0 (.ofBytes 0x1E1 0 7 [0, 0, 0, 0, 0, 0x30]),
   .rx 0 (.ofBytes 0x1E1 0 7 [0, 0, 0, 0, 0, 0x10])]

/-- GM's steering frame with a torque below 256 and the request bit. -/
def gmSteeringFrame (bus : Fin 8) (torque : UInt8) : CANPacket :=
  .ofBytes 0x180 bus 4 [0x08, torque, 0, 0]

/-- The torque command of GM. -/
def gmTorqueCommand : TorqueCommand where
  addr := 0x180
  torque := gmDesiredTorque
  steerReq toSend := (gmSteerReq toSend).toInt
  limits := gmSteeringLimits

theorem accepted_torque_rate_gm :
    min (gmDesiredTorque (gmSteeringFrame 0 10)) 0 - gmSteeringLimits.maxRateUp ≤
        gmDesiredTorque (gmSteeringFrame 0 15) ∧
      gmDesiredTorque (gmSteeringFrame 0 15) ≤
        max (gmDesiredTorque (gmSteeringFrame 0 10)) 0 + gmSteeringLimits.maxRateUp := by
  -- a frame of torque 5 for bus 1 comes between the two
  have hsent : AcceptsSteering 0x180 (session safetyGm 0 bootState gmEngaged)
      (.tx 0 (gmSteeringFrame 0 10)) := ⟨by decide, by decide⟩
  have hbetween : (session safetyGm 0 bootState (gmEngaged ++ [.tx 0 (gmSteeringFrame 0 10)])
      ).txAccepted 0 (gmSteeringFrame 1 5) = false := by decide
  have hkeeps : TowardZero (session safetyGm 0 bootState
      (gmEngaged ++ [.tx 0 (gmSteeringFrame 0 10)])).commands.torque.desiredTorqueLast
      (gmDesiredTorque (gmSteeringFrame 1 5)) := ⟨by decide, by decide⟩
  have hnext : AcceptsSteering 0x180 (session safetyGm 0 bootState
      (gmEngaged ++ [.tx 0 (gmSteeringFrame 0 10)] ++ [.tx 0 (gmSteeringFrame 1 5)]))
      (.tx 0 (gmSteeringFrame 0 15)) := ⟨by decide, by decide⟩
  have hmode : registered safetyGm = some .gm := by decide
  have hcmd : torqueCommand .gm (session safetyGm 0 bootState gmEngaged).params =
      some gmTorqueCommand := rfl
  refine accepted_torque_rate hmode 0 bootState gmEngaged [.tx 0 (gmSteeringFrame 1 5)] hcmd
    hsent ⟨?_, trivial⟩ ⟨fun _ _ => Or.inr hkeeps, trivial⟩ hnext
  rintro ⟨haccepted, -⟩
  rw [hbetween] at haccepted
  cases haccepted

/-- A frame for the wrong bus is rejected and still moves the reference. -/
theorem rejected_frame_moves_reference :
    ¬ ∀ mode id param before events between cmd ts ts' sent next,
      registered mode = some id →
      torqueCommand id (session mode param before events).params = some cmd →
      AcceptsSteering cmd.addr (session mode param before events) (.tx ts sent) →
      Along step (fun s e => ¬ AcceptsSteering cmd.addr s e)
        (session mode param before (events ++ [.tx ts sent])) between →
      Always step (fun s => s.signals.controlsAllowed = true)
        (session mode param before (events ++ [.tx ts sent])) between →
      AcceptsSteering cmd.addr
        (session mode param before (events ++ [.tx ts sent] ++ between)) (.tx ts' next) →
      min (cmd.torque sent) 0 - cmd.limits.maxRateUp ≤ cmd.torque next ∧
        cmd.torque next ≤ max (cmd.torque sent) 0 + cmd.limits.maxRateUp := by
  intro hall
  have hsent : AcceptsSteering 0x180 (session safetyGm 0 bootState gmEngaged)
      (.tx 0 (gmSteeringFrame 0 0)) := ⟨by decide, by decide⟩
  have hbetween : (session safetyGm 0 bootState (gmEngaged ++ [.tx 0 (gmSteeringFrame 0 0)])
      ).txAccepted 0 (gmSteeringFrame 1 10) = false := by decide
  have hnext : AcceptsSteering 0x180 (session safetyGm 0 bootState
      (gmEngaged ++ [.tx 0 (gmSteeringFrame 0 0)] ++ [.tx 0 (gmSteeringFrame 1 10)]))
      (.tx 0 (gmSteeringFrame 0 20)) := ⟨by decide, by decide⟩
  have hmode : registered safetyGm = some .gm := by decide
  have hrejected : ¬ AcceptsSteering 0x180 (session safetyGm 0 bootState
      (gmEngaged ++ [.tx 0 (gmSteeringFrame 0 0)])) (.tx 0 (gmSteeringFrame 1 10)) := by
    rintro ⟨haccepted, -⟩
    rw [hbetween] at haccepted
    cases haccepted
  have hcontrols : (session safetyGm 0 bootState
      (gmEngaged ++ [.tx 0 (gmSteeringFrame 0 0)])).signals.controlsAllowed = true := by
    decide
  obtain ⟨-, hhigh⟩ := hall safetyGm .gm 0 bootState gmEngaged [.tx 0 (gmSteeringFrame 1 10)]
    gmTorqueCommand 0 0 (gmSteeringFrame 0 0) (gmSteeringFrame 0 20) hmode rfl hsent
    ⟨hrejected, trivial⟩ ⟨hcontrols, hcontrols⟩ hnext
  revert hhigh
  decide

end Panda.Safety
