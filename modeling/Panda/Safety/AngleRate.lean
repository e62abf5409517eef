import Panda.Safety.Steering
import Panda.Safety.TorqueCheck

/-!
The rate limit of angle commands over the frames that reach the car. The check
compares a command with the last one it saw, accepted or not. As long as the
commands that are rejected in between repeat the accepted angle, the next
accepted one keeps the rate limit. For Ford, the limit on the distance to the
measured curvature only narrows the range that the rate allows.
-/

namespace Panda.Safety

open Library

/-! ### The lookup of the rate -/

theorem interpolateSegment_nonneg {x0 x1 y0 y1 x : ℚ} (hlow : x0 ≤ x) (hhigh : x ≤ x1)
    (hy0 : 0 ≤ y0) (hy1 : 0 ≤ y1) : 0 ≤ interpolateSegment x0 x1 y0 y1 x := by
  have hd : 0 < max (x1 - x0) (1 / 10000) := lt_max_of_lt_right (by norm_num)
  -- the weight of the right end
  have hweight : 0 ≤ (x - x0) / max (x1 - x0) (1 / 10000) :=
    div_nonneg (sub_nonneg.mpr hlow) hd.le
  have hweight' : (x - x0) / max (x1 - x0) (1 / 10000) ≤ 1 := by
    rw [div_le_one hd]
    exact le_max_of_le_left (sub_le_sub_right hhigh x0)
  have hconvex : interpolateSegment x0 x1 y0 y1 x =
      (1 - (x - x0) / max (x1 - x0) (1 / 10000)) * y0 +
        (x - x0) / max (x1 - x0) (1 / 10000) * y1 := by
    unfold interpolateSegment
    ring
  rw [hconvex]
  exact add_nonneg (mul_nonneg (sub_nonneg.mpr hweight') hy0) (mul_nonneg hweight hy1)

/-- A table of non-negative values interpolates to non-negative values. -/
def Lookup.Nonneg (xy : Lookup) : Prop := ∀ i, 0 ≤ xy.y i

theorem interpolate_nonneg {xy : Lookup} (hxy : xy.Nonneg) (x : ℚ) : 0 ≤ interpolate xy x := by
  unfold interpolate
  split_ifs with h0 h1 h2
  · exact hxy 0
  · exact interpolateSegment_nonneg (not_le.mp h0).le h1.le (hxy 0) (hxy 1)
  · exact interpolateSegment_nonneg (not_lt.mp h1) h2.le (hxy 1) (hxy 2)
  · exact hxy 2

theorem truncToInt_nonneg {val : ℚ} (h : 0 ≤ val) : 0 ≤ truncToInt val :=
  Int.tdiv_nonneg (Rat.num_nonneg.mpr h) (Int.natCast_nonneg _)

theorem deltaAngle_nonneg {limits : SteeringLimits} {lookup : Lookup} (s : Signals)
    (hcan : 0 ≤ limits.angleDegToCan) (hlookup : lookup.Nonneg) :
    0 ≤ deltaAngle s limits lookup :=
  truncToInt_nonneg
    (add_nonneg (mul_nonneg (interpolate_nonneg hlookup _) hcan) zero_le_one)

theorem deltaAngleLower_nonneg {limits : SteeringLimits} {lookup : Lookup} (s : Signals)
    (hcan : 0 ≤ limits.angleDegToCan) (hlookup : lookup.Nonneg) :
    0 ≤ deltaAngleLower s limits lookup :=
  truncToInt_nonneg (mul_nonneg (interpolate_nonneg hlookup _) hcan)

/-! ### The check -/

/-- The lookup tables and the limit of a mode are not negative. -/
structure SteeringLimits.ProperAngle (limits : SteeringLimits) : Prop where
  can : 0 ≤ limits.angleDegToCan
  up : limits.angleRateUpLookup.Nonneg
  down : limits.angleRateDownLookup.Nonneg
  max : 0 ≤ limits.maxSteer

/-- The limit on the distance to the measured angle is active. -/
def EnforcesAngleError (s : Signals) (limits : SteeringLimits) : Prop :=
  limits.enforceAngleError = true ∧
    s.vehicleSpeed.latest / vehicleSpeedFactor > limits.angleErrorMinSpeed

/-- The lowest and the highest angle that the rate allows after `last`. -/
def angleRateRange (s : Signals) (limits : SteeringLimits) (last : Int) : Int × Int :=
  let up := deltaAngle s limits limits.angleRateUpLookup
  let down := deltaAngle s limits limits.angleRateDownLookup
  (last - deltaLowest last up down, last + deltaHighest last up down)

theorem clamp_mem {x high : Int} (h : 0 ≤ high) : -high ≤ clamp x (-high) high ∧
    clamp x (-high) high ≤ high := by
  unfold clamp
  split_ifs <;> omega

/-- While the distance is limited, accepted angles are within the maximum. -/
theorem desiredAngleRange_max {s : Signals} {limits : SteeringLimits}
    (hlimits : limits.ProperAngle) (henforces : EnforcesAngleError s limits) (last : Int) :
    -limits.maxSteer ≤ (desiredAngleRange s limits last).1 ∧
      (desiredAngleRange s limits last).2 ≤ limits.maxSteer := by
  simp only [desiredAngleRange, henforces.1, henforces.2, decide_true, Bool.and_self, if_true]
  exact ⟨(clamp_mem hlimits.max).1, (clamp_mem hlimits.max).2⟩

/-- The accepted range is part of the range that the rate allows. -/
theorem desiredAngleRange_within {s : Signals} {limits : SteeringLimits}
    (hlimits : limits.ProperAngle) {last : Int}
    (hlast : EnforcesAngleError s limits → -limits.maxSteer ≤ last ∧ last ≤ limits.maxSteer) :
    (angleRateRange s limits last).1 ≤ (desiredAngleRange s limits last).1 ∧
      (desiredAngleRange s limits last).2 ≤ (angleRateRange s limits last).2 := by
  have hup : 0 ≤ deltaAngle s limits limits.angleRateUpLookup :=
    deltaAngle_nonneg s hlimits.can hlimits.up
  have hdown : 0 ≤ deltaAngle s limits limits.angleRateDownLookup :=
    deltaAngle_nonneg s hlimits.can hlimits.down
  have hupLower : 0 ≤ deltaAngleLower s limits limits.angleRateUpLookup :=
    deltaAngleLower_nonneg s hlimits.can hlimits.up
  have hdownLower : 0 ≤ deltaAngleLower s limits limits.angleRateDownLookup :=
    deltaAngleLower_nonneg s hlimits.can hlimits.down
  by_cases henforces : EnforcesAngleError s limits
  · obtain ⟨hlow, hhigh⟩ := hlast henforces
    simp only [angleRateRange, desiredAngleRange, henforces.1, henforces.2, decide_true,
      Bool.and_self, if_true, clamp, deltaLowest, deltaHighest]
    constructor <;> split_ifs <;> omega
  · have hinactive : (limits.enforceAngleError &&
        decide (s.vehicleSpeed.latest / vehicleSpeedFactor > limits.angleErrorMinSpeed)) =
          false := by
      simpa [EnforcesAngleError] using henforces
    simp only [angleRateRange, desiredAngleRange, hinactive, if_false, Bool.false_eq_true]
    exact ⟨le_rfl, le_rfl⟩

/-- A steering command passes with controls only, and within the range. -/
theorem steerAngleCmdChecks_range {s : Signals} {angle last : Int} {limits : SteeringLimits}
    (hpass : (steerAngleCmdChecks s angle true limits last).1 = false) :
    (desiredAngleRange s limits last).1 ≤ angle ∧
      angle ≤ (desiredAngleRange s limits last).2 := by
  simp only [steerAngleCmdChecks, Bool.or_eq_false_iff] at hpass
  obtain ⟨⟨hrate, -⟩, hcontrols⟩ := hpass
  have hcontrols : s.controlsAllowed = true := by simpa using hcontrols
  rw [hcontrols] at hrate
  have hrange := maxLimitCheck_eq_false.mp hrate
  exact hrange.symm

theorem lookup_nonneg {x : Fin 3 → ℚ} {a b c : ℚ} (ha : 0 ≤ a) (hb : 0 ≤ b) (hc : 0 ≤ c) :
    Lookup.Nonneg ⟨x, ![a, b, c]⟩ := by
  intro i
  match i with
  | 0 => exact ha
  | 1 => exact hb
  | 2 => exact hc

theorem toyotaSteeringLimits_proper : toyotaSteeringLimits.ProperAngle where
  can := show (0 : ℚ) ≤ 17452007 / 1000000 by norm_num
  up := lookup_nonneg (by norm_num) (by norm_num) (by norm_num)
  down := lookup_nonneg (by norm_num) (by norm_num) (by norm_num)
  max := show (0 : Int) ≤ 1500 by decide

theorem teslaSteeringLimits_proper : teslaSteeringLimits.ProperAngle where
  can := show (0 : ℚ) ≤ 10 by norm_num
  up := lookup_nonneg (by norm_num) (by norm_num) (by norm_num)
  down := lookup_nonneg (by norm_num) (by norm_num) (by norm_num)
  max := show (0 : Int) ≤ 0 by decide

theorem nissanSteeringLimits_proper : nissanSteeringLimits.ProperAngle where
  can := show (0 : ℚ) ≤ 100 by norm_num
  up := lookup_nonneg (by norm_num) (by norm_num) (by norm_num)
  down := lookup_nonneg (by norm_num) (by norm_num) (by norm_num)
  max := show (0 : Int) ≤ 0 by decide

theorem fordSteeringLimits_proper : fordSteeringLimits.ProperAngle where
  can := show (0 : ℚ) ≤ 50000 by norm_num
  up := lookup_nonneg (by norm_num) (by norm_num) (by norm_num)
  down := lookup_nonneg (by norm_num) (by norm_num) (by norm_num)
  max := show (0 : Int) ≤ 1000 by decide

theorem angleCommand_proper {id : HooksId} {m : ModeParams} {cmd : AngleCommand}
    (hcmd : angleCommand id m = some cmd) : cmd.limits.ProperAngle := by
  cases id with
  | toyota =>
      cases hcmd
      exact toyotaSteeringLimits_proper
  | tesla =>
      cases hcmd
      exact teslaSteeringLimits_proper
  | nissan =>
      cases hcmd
      exact nissanSteeringLimits_proper
  | ford =>
      cases hcmd
      exact fordSteeringLimits_proper
  | _ => cases hcmd

/-! ### Sessions -/

/-- The frame is a steering command of `angle`, with steering enabled, that is
accepted in the state. -/
structure AcceptsAngle (cmd : AngleCommand) (s : State) (ts : UInt32) (toSend : CANPacket)
    (angle : Int) : Prop where
  accepted : s.txAccepted ts toSend = true
  decode : cmd.decode toSend = some (angle, true)

/-- The angle of the last steering command of the events, accepted or not,
and `angle` if there is none. -/
def AngleCommand.lastAngle (cmd : AngleCommand) (angle : Int) (events : List Event) : Int :=
  events.foldl (fun angle e =>
    match e with
    | .tx _ toSend =>
        match cmd.decode toSend with
        | some (desired, _) => desired
        | none => angle
    | _ => angle) angle

/-- The reference of the check is the angle of the last steering command. -/
theorem run_desiredAngleLast {id : HooksId} {s : State} (hs : Configured id s)
    {cmd : AngleCommand} (hcmd : angleCommand id s.params = some cmd) (events : List Event) :
    (run step s events).commands.desiredAngleLast =
      cmd.lastAngle s.commands.desiredAngleLast events := by
  induction events generalizing s with
  | nil => rfl
  | cons e es ih =>
      have hcmd' : angleCommand id (step s e).params = some cmd := by
        rw [step_params]
        exact hcmd
      have hs' : Configured id (step s e) := hs.run [e]
      rw [run_cons, ih hs' hcmd']
      have hstep : (step s e).commands.desiredAngleLast =
          cmd.lastAngle s.commands.desiredAngleLast [e] := by
        cases e with
        | tx ts toSend => exact sending_desiredAngleLast hs hcmd ts toSend
        | _ => rfl
      rw [hstep]
      rfl

/-- An accepted command with steering enabled is in the range of the check. -/
theorem accepted_angle_range {id : HooksId} {s : State} (hs : Configured id s)
    {cmd : AngleCommand} (hcmd : angleCommand id s.params = some cmd) {ts : UInt32}
    {toSend : CANPacket} {angle : Int} (haccepts : AcceptsAngle cmd s ts toSend angle) :
    (desiredAngleRange s.signals cmd.limits s.commands.desiredAngleLast).1 ≤ angle ∧
      angle ≤ (desiredAngleRange s.signals cmd.limits s.commands.desiredAngleLast).2 := by
  have hpass := accepted_angle hs hcmd haccepts.accepted haccepts.decode
  exact steerAngleCmdChecks_range hpass

theorem angleRateRange_congr {s s' : Signals} (hspeed : s.vehicleSpeed = s'.vehicleSpeed)
    (limits : SteeringLimits) (last : Int) :
    angleRateRange s limits last = angleRateRange s' limits last := by
  simp only [angleRateRange, deltaAngle, hspeed]

theorem enforcesAngleError_congr {s s' : Signals} (hspeed : s.vehicleSpeed = s'.vehicleSpeed)
    (limits : SteeringLimits) : EnforcesAngleError s limits ↔ EnforcesAngleError s' limits := by
  simp only [EnforcesAngleError, hspeed]

/-- The angles that reach the car keep the rate limit: after an accepted
command of angle `p`, an accepted command is within the rate that the check
computes for `p`, as long as the last steering command in between, accepted or
not, is of angle `p`. -/
theorem accepted_angle_rate {mode : UInt16} {id : HooksId} (hmode : registered mode = some id)
    (param : UInt16) (before : State) (events between : List Event) {cmd : AngleCommand}
    (hcmd : angleCommand id (session mode param before events).params = some cmd)
    {ts ts' : UInt32} {sent next : CANPacket} {p v : Int}
    (hsent : AcceptsAngle cmd (session mode param before events) ts sent p)
    (hbetween : cmd.lastAngle p between = p)
    (hnext : AcceptsAngle cmd
      (session mode param before (events ++ [.tx ts sent] ++ between)) ts' next v)
    (hspeed : (session mode param before
      (events ++ [.tx ts sent] ++ between)).signals.vehicleSpeed =
        (session mode param before events).signals.vehicleSpeed) :
    (angleRateRange (session mode param before events).signals cmd.limits p).1 ≤ v ∧
      v ≤ (angleRateRange (session mode param before events).signals cmd.limits p).2 := by
  have hs := session_configured hmode param before events
  have hs'' := session_configured hmode param before (events ++ [.tx ts sent] ++ between)
  have hrun : session mode param before (events ++ [.tx ts sent] ++ between) =
      run step (session mode param before events) (.tx ts sent :: between) := by
    rw [List.append_assoc, session_append]
    rfl
  have hcmd'' : angleCommand id
      (session mode param before (events ++ [.tx ts sent] ++ between)).params = some cmd := by
    rw [hrun, run_params]
    exact hcmd
  have hlast : (session mode param before
      (events ++ [.tx ts sent] ++ between)).commands.desiredAngleLast = p := by
    rw [hrun, run_desiredAngleLast hs hcmd]
    simp only [AngleCommand.lastAngle, List.foldl_cons, hsent.decode]
    exact hbetween
  have hproper : cmd.limits.ProperAngle := angleCommand_proper hcmd
  have hp := accepted_angle_range hs hcmd hsent
  have hv := accepted_angle_range hs'' hcmd'' hnext
  rw [hlast] at hv
  have hmax : EnforcesAngleError
      (session mode param before (events ++ [.tx ts sent] ++ between)).signals cmd.limits →
      -cmd.limits.maxSteer ≤ p ∧ p ≤ cmd.limits.maxSteer := by
    intro henforces
    have henforces' := (enforcesAngleError_congr hspeed cmd.limits).mp henforces
    obtain ⟨hlow, hhigh⟩ := desiredAngleRange_max hproper henforces'
      (session mode param before events).commands.desiredAngleLast
    exact ⟨hlow.trans hp.1, hp.2.trans hhigh⟩
  obtain ⟨hlow, hhigh⟩ := desiredAngleRange_within hproper hmax
  rw [angleRateRange_congr hspeed] at hlow hhigh
  exact ⟨hlow.trans hv.1, hv.2.trans hhigh⟩

/-- Nissan with cruise engaged. -/
def nissanEngaged : List Event := [.rx 0 (.ofBytes 0x30f 2 3 [0x08])]

/-- Nissan's steering frame with the given raw angle and the request set. -/
def nissanSteeringFrame (b0 b1 b2 : UInt8) : CANPacket :=
  .ofBytes 0x169 0 8 [b0, b1, b2, 0, 0, 0, 0x10, 0]

def nissanAngleCommand : AngleCommand := ⟨nissanAngleDecode, nissanSteeringLimits⟩

theorem accepted_angle_rate_nissan :
    (angleRateRange (session safetyNissan 0 bootState nissanEngaged).signals
        nissanSteeringLimits 0).1 ≤ -8 ∧
      -8 ≤ (angleRateRange (session safetyNissan 0 bootState nissanEngaged).signals
        nissanSteeringLimits 0).2 := by
  -- a command with the accepted angle and steering off comes between the two
  have hmode : registered safetyNissan = some .nissan := by decide
  have hcmd : angleCommand .nissan (session safetyNissan 0 bootState nissanEngaged).params =
      some nissanAngleCommand := rfl
  have hsent : AcceptsAngle nissanAngleCommand (session safetyNissan 0 bootState nissanEngaged)
      0 (nissanSteeringFrame 127 238 0) 0 := ⟨by decide +kernel, by decide +kernel⟩
  have hbetween : nissanAngleCommand.lastAngle 0
      [.tx 0 (.ofBytes 0x169 0 8 [127, 238, 0])] = 0 := by decide +kernel
  have hnext : AcceptsAngle nissanAngleCommand (session safetyNissan 0 bootState
      (nissanEngaged ++ [.tx 0 (nissanSteeringFrame 127 238 0)] ++
        [.tx 0 (.ofBytes 0x169 0 8 [127, 238, 0])])) 0 (nissanSteeringFrame 127 240 0) (-8) :=
    ⟨by decide +kernel, by decide +kernel⟩
  exact accepted_angle_rate hmode 0 bootState nissanEngaged _ hcmd hsent hbetween hnext rfl

/-- A rejected command moves the reference of the next one. -/
theorem rejected_angle_moves_reference :
    ¬ ∀ mode id param before events between cmd ts ts' sent next p v,
      registered mode = some id →
      angleCommand id (session mode param before events).params = some cmd →
      AcceptsAngle cmd (session mode param before events) ts sent p →
      Along step (fun s e => ∀ ts toSend, e = .tx ts toSend → s.txAccepted ts toSend = false)
        (session mode param before (events ++ [.tx ts sent])) between →
      Always step (fun s => s.signals.controlsAllowed = true ∧
          s.signals.vehicleSpeed = (session mode param before events).signals.vehicleSpeed)
        (session mode param before (events ++ [.tx ts sent])) between →
      AcceptsAngle cmd (session mode param before (events ++ [.tx ts sent] ++ between)) ts' next
        v →
      (angleRateRange (session mode param before events).signals cmd.limits p).1 ≤ v ∧
        v ≤ (angleRateRange (session mode param before events).signals cmd.limits p).2 := by
  intro hall
  have hmode : registered safetyNissan = some .nissan := by decide
  have hcmd : angleCommand .nissan (session safetyNissan 0 bootState nissanEngaged).params =
      some nissanAngleCommand := rfl
  have hsent : AcceptsAngle nissanAngleCommand (session safetyNissan 0 bootState nissanEngaged)
      0 (nissanSteeringFrame 127 238 0) 0 := ⟨by decide +kernel, by decide +kernel⟩
  have hrejected : (session safetyNissan 0 bootState
      (nissanEngaged ++ [.tx 0 (nissanSteeringFrame 127 238 0)])).txAccepted 0
        (nissanSteeringFrame 0 0 0) = false := by decide +kernel
  have hbetween : Along step
      (fun s e => ∀ ts toSend, e = .tx ts toSend → s.txAccepted ts toSend = false)
      (session safetyNissan 0 bootState
        (nissanEngaged ++ [.tx 0 (nissanSteeringFrame 127 238 0)]))
      [.tx 0 (nissanSteeringFrame 0 0 0)] := by
    refine ⟨?_, trivial⟩
    rintro ts toSend ⟨rfl, rfl⟩
    exact hrejected
  have hnext : AcceptsAngle nissanAngleCommand (session safetyNissan 0 bootState
      (nissanEngaged ++ [.tx 0 (nissanSteeringFrame 127 238 0)] ++
        [.tx 0 (nissanSteeringFrame 0 0 0)])) 0 (nissanSteeringFrame 0 0 0) 131000 :=
    ⟨by decide +kernel, by decide +kernel⟩
  have hcontrols : (session safetyNissan 0 bootState
      (nissanEngaged ++ [.tx 0 (nissanSteeringFrame 127 238 0)])).signals.controlsAllowed =
        true := by decide +kernel
  obtain ⟨-, hhigh⟩ := hall safetyNissan .nissan 0 bootState nissanEngaged
    [.tx 0 (nissanSteeringFrame 0 0 0)] nissanAngleCommand 0 0 _ _ 0 131000 hmode hcmd hsent
    hbetween ⟨⟨hcontrols, rfl⟩, ⟨hcontrols, rfl⟩⟩ hnext
  revert hhigh
  decide +kernel

end Panda.Safety
