import Panda.Safety.AngleRate

/-!
The angle limits never contradict each other. The rates that the code takes at the
highest sampled speed are not above those at the lowest one, so the band around the
measured angle, cut by the first and stretched by the second, stays an interval.
-/

namespace Panda.Safety

open Library

/-! ### The lookup falls with the speed -/

section

variable {x0 x1 y0 y1 : ℚ}

theorem interpolateSegment_antitone (hy : y1 ≤ y0) {x x' : ℚ} (h : x ≤ x') :
    interpolateSegment x0 x1 y0 y1 x' ≤ interpolateSegment x0 x1 y0 y1 x := by
  have hd : 0 ≤ max (x1 - x0) (1 / 10000) := le_max_of_le_right (by norm_num)
  unfold interpolateSegment
  have hmul : (y1 - y0) * (x' - x0) ≤ (y1 - y0) * (x - x0) :=
    mul_le_mul_of_nonpos_left (sub_le_sub_right h x0) (sub_nonpos.mpr hy)
  gcongr

theorem interpolateSegment_left : interpolateSegment x0 x1 y0 y1 x0 = y0 := by
  simp [interpolateSegment]

theorem interpolateSegment_le (hy : y1 ≤ y0) {x : ℚ} (h : x0 ≤ x) :
    interpolateSegment x0 x1 y0 y1 x ≤ y0 := by
  have hanti : interpolateSegment x0 x1 y0 y1 x ≤ interpolateSegment x0 x1 y0 y1 x0 :=
    interpolateSegment_antitone hy h
  rwa [interpolateSegment_left] at hanti

/-- A segment does not fall below its right end before it. -/
theorem le_interpolateSegment (hy : y1 ≤ y0) {x : ℚ} (hlow : x0 ≤ x) (hhigh : x ≤ x1) :
    y1 ≤ interpolateSegment x0 x1 y0 y1 x := by
  have hshift : interpolateSegment x0 x1 y0 y1 x =
      interpolateSegment x0 x1 (y0 - y1) 0 x + y1 := by
    unfold interpolateSegment
    ring
  have hnonneg : 0 ≤ interpolateSegment x0 x1 (y0 - y1) 0 x :=
    interpolateSegment_nonneg hlow hhigh (sub_nonneg.mpr hy) le_rfl
  linarith

end

/-- The values of the table do not rise. -/
structure Lookup.Falling (xy : Lookup) : Prop where
  first : xy.y 1 ≤ xy.y 0
  second : xy.y 2 ≤ xy.y 1

section

variable {xy : Lookup} {x : ℚ}

theorem interpolate_first (h : x ≤ xy.x 0) : interpolate xy x = xy.y 0 := if_pos h

theorem interpolate_segment (hlow : xy.x 0 < x) (hhigh : x < xy.x 1) :
    interpolate xy x = interpolateSegment (xy.x 0) (xy.x 1) (xy.y 0) (xy.y 1) x := by
  rw [interpolate, if_neg (not_le.mpr hlow), if_pos hhigh]

theorem interpolate_segment' (h : xy.x 0 < x) (hlow : xy.x 1 ≤ x) (hhigh : x < xy.x 2) :
    interpolate xy x = interpolateSegment (xy.x 1) (xy.x 2) (xy.y 1) (xy.y 2) x := by
  rw [interpolate, if_neg (not_le.mpr h), if_neg (not_lt.mpr hlow), if_pos hhigh]

theorem interpolate_last (h : xy.x 0 < x) (h' : xy.x 1 ≤ x) (hlow : xy.x 2 ≤ x) :
    interpolate xy x = xy.y 2 := by
  rw [interpolate, if_neg (not_le.mpr h), if_neg (not_lt.mpr h'), if_neg (not_lt.mpr hlow)]

theorem interpolate_le_second (hxy : xy.Falling) (h : xy.x 0 < x) (hlow : xy.x 1 ≤ x) :
    interpolate xy x ≤ xy.y 1 := by
  rcases lt_or_ge x (xy.x 2) with hhigh | hhigh
  · rw [interpolate_segment' h hlow hhigh]
    exact interpolateSegment_le hxy.second hlow
  · rw [interpolate_last h hlow hhigh]
    exact hxy.second

theorem interpolate_le_first (hxy : xy.Falling) : interpolate xy x ≤ xy.y 0 := by
  rcases le_or_gt x (xy.x 0) with h | h
  · exact (interpolate_first h).le
  · rcases lt_or_ge x (xy.x 1) with hhigh | hhigh
    · rw [interpolate_segment h hhigh]
      exact interpolateSegment_le hxy.first h.le
    · exact (interpolate_le_second hxy h hhigh).trans hxy.first

end

/-- A table of falling values interpolates to falling values, wherever its points
are. -/
theorem interpolate_antitone {xy : Lookup} (hxy : xy.Falling) : Antitone (interpolate xy) := by
  intro x x' h
  rcases le_or_gt x (xy.x 0) with h0 | h0
  · rw [interpolate_first h0]
    exact interpolate_le_first hxy
  have h0' : xy.x 0 < x' := h0.trans_le h
  rcases lt_or_ge x (xy.x 1) with h1 | h1
  · rw [interpolate_segment h0 h1]
    rcases lt_or_ge x' (xy.x 1) with h1' | h1'
    · rw [interpolate_segment h0' h1']
      exact interpolateSegment_antitone hxy.first h
    · exact (interpolate_le_second hxy h0' h1').trans
        (le_interpolateSegment hxy.first h0.le h1.le)
  have h1' : xy.x 1 ≤ x' := h1.trans h
  rcases lt_or_ge x (xy.x 2) with h2 | h2
  · rw [interpolate_segment' h0 h1 h2]
    rcases lt_or_ge x' (xy.x 2) with h2' | h2'
    · rw [interpolate_segment' h0' h1' h2']
      exact interpolateSegment_antitone hxy.second h
    · rw [interpolate_last h0' h1' h2']
      exact le_interpolateSegment hxy.second h1 h2.le
  · rw [interpolate_last h0 h1 h2, interpolate_last h0' h1' (h2.trans h)]

theorem truncToInt_mono {val val' : ℚ} (hval : 0 ≤ val) (h : val ≤ val') :
    truncToInt val ≤ truncToInt val' := by
  have hfloor : ∀ {q : ℚ}, 0 ≤ q → truncToInt q = ⌊q⌋ := by
    intro q hq
    rw [truncToInt, Int.tdiv_eq_ediv_of_nonneg (Rat.num_nonneg.mpr hq), Rat.floor_def']
  rw [hfloor hval, hfloor (hval.trans h)]
  exact Int.floor_mono h

/-! ### The range -/

/-- The rate at the highest sampled speed is not above the one at the lowest. -/
theorem deltaAngleLower_le {limits : SteeringLimits} {lookup : Lookup} {s : Signals}
    (hcan : 0 ≤ limits.angleDegToCan) (hlookup : lookup.Nonneg) (hfalling : lookup.Falling)
    (hspeed : s.vehicleSpeed.min ≤ s.vehicleSpeed.max) :
    deltaAngleLower s limits lookup ≤ deltaAngle s limits lookup := by
  have hspeeds : (s.vehicleSpeed.min : ℚ) / vehicleSpeedFactor - 1 ≤
      s.vehicleSpeed.max / vehicleSpeedFactor + 1 := by
    have hmono : (s.vehicleSpeed.min : ℚ) / vehicleSpeedFactor ≤
        s.vehicleSpeed.max / vehicleSpeedFactor := by
      unfold vehicleSpeedFactor
      gcongr
    linarith
  have hrate := mul_le_mul_of_nonneg_right (interpolate_antitone hfalling hspeeds) hcan
  apply truncToInt_mono
  · exact mul_nonneg (interpolate_nonneg hlookup _) hcan
  · linarith

/-- No rate, scale, error or maximum is negative, and the rates fall with the speed. -/
structure SteeringLimits.FallingAngle (limits : SteeringLimits) : Prop
    extends limits.ProperAngle where
  error : 0 ≤ limits.maxAngleError
  upFalling : limits.angleRateUpLookup.Falling
  downFalling : limits.angleRateDownLookup.Falling

theorem clamp_mono {x y low high : Int} (hbounds : low ≤ high) (h : x ≤ y) :
    clamp x low high ≤ clamp y low high := by
  unfold clamp
  split_ifs <;> omega

theorem desiredAngleRange_nonempty {limits : SteeringLimits} (hlimits : limits.FallingAngle)
    {s : Signals} (hspeed : s.vehicleSpeed.min ≤ s.vehicleSpeed.max)
    (hmeas : s.angleMeas.min ≤ s.angleMeas.max) (last : Int) :
    (desiredAngleRange s limits last).1 ≤ (desiredAngleRange s limits last).2 := by
  have hup := deltaAngle_nonneg s hlimits.can hlimits.up
  have hdown := deltaAngle_nonneg s hlimits.can hlimits.down
  have hupLower := deltaAngleLower_le hlimits.can hlimits.up hlimits.upFalling hspeed
  have hdownLower := deltaAngleLower_le hlimits.can hlimits.down hlimits.downFalling hspeed
  have herror : 0 ≤ limits.maxAngleError := hlimits.error
  simp only [desiredAngleRange, deltaHighest, deltaLowest]
  split
  · apply clamp_mono
    · exact (neg_nonpos.mpr hlimits.max).trans hlimits.max
    · split_ifs <;> omega
  · split_ifs <;> omega

/-- With controls, a steering command is accepted exactly in the range. -/
theorem steerAngleCmdChecks_accepted_iff {s : Signals} (hcontrols : s.controlsAllowed = true)
    (limits : SteeringLimits) (angle last : Int) :
    (steerAngleCmdChecks s angle true limits last).1 = false ↔
      (desiredAngleRange s limits last).1 ≤ angle ∧
        angle ≤ (desiredAngleRange s limits last).2 := by
  simp [steerAngleCmdChecks, hcontrols, maxLimitCheck_eq_false, and_comm]

/-- The range is never empty, and with controls some steering command is accepted. -/
theorem angle_never_locks_out {limits : SteeringLimits} (hlimits : limits.FallingAngle)
    {s : Signals} (hspeed : s.vehicleSpeed.min ≤ s.vehicleSpeed.max)
    (hmeas : s.angleMeas.min ≤ s.angleMeas.max) (last : Int) :
    (desiredAngleRange s limits last).1 ≤ (desiredAngleRange s limits last).2 ∧
      (s.controlsAllowed = true →
        ∃ angle, (steerAngleCmdChecks s angle true limits last).1 = false) := by
  have hrange := desiredAngleRange_nonempty hlimits hspeed hmeas last
  refine ⟨hrange, ?_⟩
  intro hcontrols
  refine ⟨(desiredAngleRange s limits last).1, ?_⟩
  rw [steerAngleCmdChecks_accepted_iff hcontrols]
  exact ⟨le_rfl, hrange⟩

theorem fordSteeringLimits_falling : fordSteeringLimits.FallingAngle where
  toProperAngle := fordSteeringLimits_proper
  error := show (0 : Int) ≤ 100 by decide
  upFalling := ⟨show (1 / 10000 : ℚ) ≤ 2 / 10000 by norm_num, le_rfl⟩
  downFalling := ⟨show (15 / 100000 : ℚ) ≤ 225 / 1000000 by norm_num, le_rfl⟩

/-- Controls in a Ford at about 15 m/s, where the distance to the measured curvature is
enforced. -/
def fordInCurve : Signals :=
  { centred with
    vehicleSpeed := ⟨#v[1502, 1500, 1498, 1500, 1499, 1501], 1498, 1502⟩
    angleMeas := ⟨#v[250, 256, 252, 250, 251, 255], 250, 256⟩ }

/-- From a command far above the measured curvature the range leads back to it. -/
theorem angle_never_locks_out_ford :
    desiredAngleRange fordInCurve fordSteeringLimits 500 = (490, 491) ∧
      (desiredAngleRange fordInCurve fordSteeringLimits 500).1 ≤
        (desiredAngleRange fordInCurve fordSteeringLimits 500).2 ∧
      (fordInCurve.controlsAllowed = true →
        ∃ angle, (steerAngleCmdChecks fordInCurve angle true fordSteeringLimits 500).1 = false) :=
  ⟨by decide +kernel, angle_never_locks_out fordSteeringLimits_falling (by decide) (by decide) 500⟩

/-- Constant rates and a negative scale from degrees to the unit on CAN. -/
def negativeScale : SteeringLimits where
  maxSteer := 1000
  angleDegToCan := -10
  angleRateUpLookup := ⟨![0, 1, 2], ![1, 1, 1]⟩
  angleRateDownLookup := ⟨![0, 1, 2], ![1, 1, 1]⟩
  enforceAngleError := true

theorem angle_locks_out_negative_scale :
    (desiredAngleRange centred negativeScale 0).2 < (desiredAngleRange centred negativeScale 0).1 ∧
      ∀ angle, (steerAngleCmdChecks centred angle true negativeScale 0).1 = true := by
  have hrange : desiredAngleRange centred negativeScale 0 = (9, -9) := by decide +kernel
  rw [hrange]
  refine ⟨by decide, ?_⟩
  intro angle
  rw [← Bool.not_eq_false, steerAngleCmdChecks_accepted_iff rfl, hrange]
  omega

end Panda.Safety
