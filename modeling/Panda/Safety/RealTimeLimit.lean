import Panda.Safety.Session
import Panda.Safety.TorqueCheck

/-!
The real time limit of torque commands. The limiter compares a torque with a
reference that it moves at most once in an interval, so the torque grows by at
most the real time delta in each interval, whatever the rate of the messages
and whatever the other limits let through. The timer may wrap.
-/

namespace Panda.Safety

open Library

section Check

variable {ts : UInt32} {s : Signals} {desiredTorque steerReq : Int} {limits : SteeringLimits}
  {t : TorqueState}

theorem rtRateLimitCheck_abs {val valLast maxRtDelta : Int}
    (hpass : rtRateLimitCheck val valLast maxRtDelta = false) :
    |val| ≤ |valLast| + maxRtDelta := by
  obtain ⟨hhigh, hlow⟩ := maxLimitCheck_eq_false.mp hpass
  have hhigh' : max valLast 0 ≤ |valLast| := max_le (le_abs_self _) (abs_nonneg _)
  have hlow' : -|valLast| ≤ min valLast 0 :=
    le_min (neg_abs_le _) (neg_nonpos.mpr (abs_nonneg _))
  rw [abs_le]
  omega

theorem torqueLimitChecks_realTime
    (hpass : (torqueLimitChecks ts s desiredTorque limits t).1 = false) :
    |desiredTorque| ≤ |t.rtTorqueLast| + limits.maxRtDelta := by
  simp only [torqueLimitChecks, Bool.or_eq_false_iff] at hpass
  exact rtRateLimitCheck_abs hpass.2

/-- The reference of the real time limit moves after an interval, and only
then. -/
theorem torqueLimitChecks_reference (ts : UInt32) (s : Signals) (desiredTorque : Int)
    (limits : SteeringLimits) (t : TorqueState) :
    let kept := (torqueLimitChecks ts s desiredTorque limits t).2
    (limits.maxRtInterval < getTsElapsed ts t.tsTorqueCheckLast ∧
        kept.rtTorqueLast = desiredTorque ∧ kept.tsTorqueCheckLast = ts) ∨
      (kept.rtTorqueLast = t.rtTorqueLast ∧ kept.tsTorqueCheckLast = t.tsTorqueCheckLast) := by
  simp only [torqueLimitChecks]
  by_cases helapsed : getTsElapsed ts t.tsTorqueCheckLast > limits.maxRtInterval
  · rw [if_pos helapsed]
    exact Or.inl ⟨helapsed, rfl, rfl⟩
  · rw [if_neg helapsed]
    exact Or.inr ⟨rfl, rfl⟩

/-- The request check has no part in the real time limit. -/
theorem steerReqChecks_reference :
    (steerReqChecks ts desiredTorque steerReq limits t).2.rtTorqueLast = t.rtTorqueLast ∧
      (steerReqChecks ts desiredTorque steerReq limits t).2.tsTorqueCheckLast =
        t.tsTorqueCheckLast := by
  unfold steerReqChecks
  split_ifs <;> exact ⟨rfl, rfl⟩

end Check

/-- The period of the limiter: an interval has passed when more than
`max_rt_interval` microseconds have. -/
def SteeringLimits.rtPeriod (limits : SteeringLimits) : Nat := limits.maxRtInterval.toNat + 1

/-- The reference was set at some time up to now, and grew by the real time
delta in each period since `start`. -/
def ReferenceGrew (limits : SteeringLimits) (start now : Nat) (t : TorqueState) : Prop :=
  ∃ base, base ≤ now ∧ t.tsTorqueCheckLast = timerAt base ∧
    GrewAt limits.maxRtDelta limits.rtPeriod start base t.rtTorqueLast

/-- A call that resets the limiter starts the periods. -/
theorem ReferenceGrew.start {limits : SteeringLimits} {t : TorqueState} {call : TorqueCall}
    (hresets : call.resets limits t = true) :
    ReferenceGrew limits call.time call.time (torqueStep limits t call) := by
  rw [torqueStep_resets hresets]
  exact ⟨call.time, le_rfl, rfl, GrewAt.zero _ _ _⟩

/-- A later call that keeps the memory keeps the growth of the reference. -/
theorem ReferenceGrew.step {limits : SteeringLimits} (hdelta : 0 ≤ limits.maxRtDelta)
    {start now : Nat} {t : TorqueState} (hgrew : ReferenceGrew limits start now t)
    {call : TorqueCall} (htime : now ≤ call.time) (hkept : call.resets limits t = false) :
    ReferenceGrew limits start call.time (torqueStep limits t call) := by
  obtain ⟨base, hbase, hts, hgrew⟩ := hgrew
  obtain ⟨hpass, -, hstate⟩ := torqueStep_kept hkept
  have hvalue : |call.desiredTorque| ≤ |t.rtTorqueLast| + limits.maxRtDelta :=
    torqueLimitChecks_realTime hpass
  rw [hstate, ReferenceGrew, steerReqChecks_reference.1, steerReqChecks_reference.2]
  rcases torqueLimitChecks_reference call.ts call.signals call.desiredTorque limits t with
    ⟨helapsed, hrt, hrebase⟩ | ⟨hrt, hold⟩
  · rw [hrt, hrebase]
    refine ⟨call.time, le_rfl, rfl, hgrew.rebase hdelta (Nat.succ_pos _) ?_ hvalue⟩
    -- the timer shows at most the time that has passed
    have hshown : limits.maxRtInterval.toNat < (timerAt call.time - timerAt base).toNat := by
      rw [hts] at helapsed
      exact UInt32.lt_iff_toNat_lt.mp helapsed
    have hpassed := timerAt_sub_le (hbase.trans htime)
    unfold SteeringLimits.rtPeriod
    omega
  · rw [hrt, hold]
    exact ⟨base, hbase.trans htime, hts, hgrew⟩

/-- The torque of such a call has grown by one more period at most. -/
theorem ReferenceGrew.torque {limits : SteeringLimits} (hdelta : 0 ≤ limits.maxRtDelta)
    {start now : Nat} {t : TorqueState} (hgrew : ReferenceGrew limits start now t)
    {call : TorqueCall} (htime : now ≤ call.time) (hkept : call.resets limits t = false) :
    |call.desiredTorque| ≤
      limits.maxRtDelta * (1 + (call.time - start) / limits.rtPeriod : Nat) := by
  obtain ⟨base, hbase, -, hgrew⟩ := hgrew
  obtain ⟨hpass, -, -⟩ := torqueStep_kept hkept
  exact hgrew.within hdelta (hbase.trans htime) (torqueLimitChecks_realTime hpass)

/-- In a run of calls that keep the memory, every torque has grown by one more
period than has passed at most. -/
theorem ReferenceGrew.run {limits : SteeringLimits} (hdelta : 0 ≤ limits.maxRtDelta)
    {start now : Nat} {t : TorqueState} (hgrew : ReferenceGrew limits start now t)
    {calls : List TorqueCall} (hlater : ∀ call ∈ calls, now ≤ call.time)
    (hmonotone : calls.Pairwise fun call later => call.time ≤ later.time)
    (hkept : Along (torqueStep limits) (fun t call => call.resets limits t = false) t calls) :
    ∀ call ∈ calls, |call.desiredTorque| ≤
      limits.maxRtDelta * (1 + (call.time - start) / limits.rtPeriod : Nat) := by
  induction calls generalizing t now with
  | nil => simp
  | cons head rest ih =>
      obtain ⟨hhead, hrest⟩ := hkept
      have htime : now ≤ head.time := hlater head List.mem_cons_self
      obtain ⟨hfirst, hmonotone⟩ := List.pairwise_cons.mp hmonotone
      intro call hcall
      rcases List.mem_cons.mp hcall with rfl | hcall
      · exact hgrew.torque hdelta htime hhead
      · exact ih (hgrew.step hdelta htime hhead) hfirst hmonotone hrest call hcall

/-- The real time limiter bounds how fast torque builds up: after a call that
finds a violation or controls disallowed, and as long as no later one does, a
torque is at most the real time delta times one more than the number of
intervals that have passed. -/
theorem real_time_limit {limits : SteeringLimits} (hdelta : 0 ≤ limits.maxRtDelta)
    (before : TorqueState) {first : TorqueCall} (hfirst : first.resets limits before = true)
    {calls : List TorqueCall}
    (hmonotone : (first :: calls).Pairwise fun call later => call.time ≤ later.time)
    (hkept : Along (torqueStep limits) (fun t call => call.resets limits t = false)
      (torqueStep limits before first) calls) :
    ∀ call ∈ calls, |call.desiredTorque| ≤
      limits.maxRtDelta *
        (1 + (call.time - first.time) / (limits.maxRtInterval.toNat + 1) : Nat) := by
  have hgrew : ReferenceGrew limits first.time first.time (torqueStep limits before first) :=
    ReferenceGrew.start hfirst
  obtain ⟨hlater, hmonotone⟩ := List.pairwise_cons.mp hmonotone
  exact hgrew.run hdelta hlater hmonotone hkept

/-- A torque call of GM shortly before the timer wraps, with or without
controls. -/
def gmTorqueCall (controls : Bool) (time : Nat) (torque : Int) : TorqueCall where
  time := 2 ^ 32 - 100000 + time
  signals := { bootState.signals with controlsAllowed := controls }
  desiredTorque := torque
  steerReq := 1

theorem real_time_limit_gm :
    |(gmTorqueCall true 300000 20).desiredTorque| ≤ gmSteeringLimits.maxRtDelta *
      (1 + ((gmTorqueCall true 300000 20).time - (gmTorqueCall false 0 0).time) /
        (gmSteeringLimits.maxRtInterval.toNat + 1) : Nat) := by
  have hfirst : (gmTorqueCall false 0 0).resets gmSteeringLimits {} = true := by decide
  have hkept : Along (torqueStep gmSteeringLimits)
      (fun t call => call.resets gmSteeringLimits t = false)
      (torqueStep gmSteeringLimits {} (gmTorqueCall false 0 0))
      [gmTorqueCall true 200000 10, gmTorqueCall true 300000 20] :=
    ⟨by decide, by decide, trivial⟩
  have hlimit := real_time_limit (by decide) {} hfirst (by decide) hkept
  exact hlimit (gmTorqueCall true 300000 20) (List.mem_of_getLast? rfl)

end Panda.Safety
