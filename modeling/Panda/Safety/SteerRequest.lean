import Panda.Safety.Session
import Panda.Safety.TorqueCheck

/-!
The tolerance for torque without the request bit. Two saturating counters and
a timestamp tell the check how the calls before went: how many matching calls
came last, or how many mismatching ones, and when the last call was that was
not a matching one with controls. This is an invariant of the history of the
calls, and it bounds every burst of mismatching calls that pass.
-/

namespace Panda.Safety

open Library

/-! ### The check -/

section Check

variable {limits : SteeringLimits} {t : TorqueState} {call : TorqueCall}

/-- What the torque limits leave alone. -/
theorem torqueLimitChecks_request (ts : UInt32) (s : Signals) (desiredTorque : Int)
    (limits : SteeringLimits) (t : TorqueState) :
    let kept := (torqueLimitChecks ts s desiredTorque limits t).2
    kept.validSteerReqCount = t.validSteerReqCount ∧
      kept.invalidSteerReqCount = t.invalidSteerReqCount ∧
      kept.tsSteerReqMismatchLast = t.tsSteerReqMismatchLast := by
  simp only [torqueLimitChecks]
  split <;> exact ⟨rfl, rfl, rfl⟩

/-- A call with torque and without the request bit. -/
def TorqueCall.mismatch (call : TorqueCall) : Bool :=
  steerReqMismatch call.desiredTorque call.steerReq

/-- A mismatching call that keeps the memory. The first one of a burst needs
enough matching calls and enough time before it, the others a count that is
not exhausted. -/
theorem torqueStep_mismatch (htolerance : limits.hasSteerReqTolerance = true)
    (hkept : call.resets limits t = false) (hmismatch : call.mismatch = true) :
    (t.invalidSteerReqCount = 0 → limits.minValidRequestFrames ≤ t.validSteerReqCount ∧
        limits.minValidRequestRtInterval ≤ getTsElapsed call.ts t.tsSteerReqMismatchLast) ∧
      (t.invalidSteerReqCount ≠ 0 → t.invalidSteerReqCount < limits.maxInvalidRequestFrames) ∧
      (torqueStep limits t call).validSteerReqCount = 0 ∧
      (torqueStep limits t call).invalidSteerReqCount =
        min (t.invalidSteerReqCount + 1) limits.maxInvalidRequestFrames ∧
      (torqueStep limits t call).tsSteerReqMismatchLast = call.ts := by
  obtain ⟨-, hpass, hstate⟩ := torqueStep_kept hkept
  obtain ⟨hvalid, hinvalid, hlast⟩ :=
    torqueLimitChecks_request call.ts call.signals call.desiredTorque limits t
  have hmismatch : steerReqMismatch call.desiredTorque call.steerReq = true := hmismatch
  simp only [steerReqChecks, htolerance, hmismatch, Bool.not_true, Bool.false_eq_true, if_false,
    if_true, hvalid, hinvalid, hlast] at hpass hstate
  refine ⟨?_, ?_, by rw [hstate], by rw [hstate], by rw [hstate]⟩
  · intro hfirst
    simp only [hfirst, beq_self_eq_true, if_true, Bool.or_eq_false_iff, decide_eq_false_iff_not,
      not_lt] at hpass
    exact ⟨hpass.1, UInt32.not_lt.mp hpass.2⟩
  · intro hlater
    have hcount : (t.invalidSteerReqCount == 0) = false := by simpa using hlater
    simpa [hcount] using hpass

/-- A matching call that keeps the memory. -/
theorem torqueStep_matching (htolerance : limits.hasSteerReqTolerance = true)
    (hkept : call.resets limits t = false) (hmatching : call.mismatch = false) :
    (torqueStep limits t call).validSteerReqCount =
        min (t.validSteerReqCount + 1) limits.minValidRequestFrames ∧
      (torqueStep limits t call).invalidSteerReqCount = 0 ∧
      (torqueStep limits t call).tsSteerReqMismatchLast = t.tsSteerReqMismatchLast := by
  obtain ⟨-, -, hstate⟩ := torqueStep_kept hkept
  obtain ⟨hvalid, -, hlast⟩ :=
    torqueLimitChecks_request call.ts call.signals call.desiredTorque limits t
  have hmatching : steerReqMismatch call.desiredTorque call.steerReq = false := hmatching
  simp only [steerReqChecks, htolerance, hmatching, Bool.not_true, Bool.false_eq_true, if_false,
    hvalid] at hstate
  rw [hstate]
  exact ⟨rfl, rfl, hlast⟩

/-- A mismatching call that passes was made with controls, so it keeps the
memory. -/
theorem TorqueCall.kept_of_mismatch (hpass : (call.check limits t).1 = false)
    (hmismatch : call.mismatch = true) : call.resets limits t = false := by
  rw [TorqueCall.resets, hpass, Bool.false_or, Bool.not_eq_false']
  by_contra hcontrols
  have hcontrols : call.signals.controlsAllowed = false := by simpa using hcontrols
  have hzero : call.desiredTorque = 0 := steerTorqueCmdChecks_off hcontrols hpass
  simp [TorqueCall.mismatch, steerReqMismatch, hzero] at hmismatch

end Check

/-! ### The history of the calls -/

/-- A call and whether it found a violation. -/
structure TorqueRecord where
  call : TorqueCall
  violation : Bool

/-- A matching call without a violation, made with controls. -/
def TorqueRecord.matching (r : TorqueRecord) : Bool :=
  !r.violation && r.call.signals.controlsAllowed && !r.call.mismatch

def TorqueCall.record (limits : SteeringLimits) (t : TorqueState) (call : TorqueCall) :
    TorqueRecord :=
  ⟨call, (call.check limits t).1⟩

/-- The history of a sequence of calls. -/
def records (limits : SteeringLimits) (t : TorqueState) (calls : List TorqueCall) :
    List TorqueRecord :=
  trace (torqueStep limits) (fun t call => call.record limits t) t calls

/-- The counters are within their bounds, and at most one is positive. -/
structure CountsBounded (limits : SteeringLimits) (t : TorqueState) : Prop where
  valid_nonneg : 0 ≤ t.validSteerReqCount
  valid_le : t.validSteerReqCount ≤ limits.minValidRequestFrames
  invalid_nonneg : 0 ≤ t.invalidSteerReqCount
  invalid_le : t.invalidSteerReqCount ≤ limits.maxInvalidRequestFrames
  exclusive : ¬ (0 < t.validSteerReqCount ∧ 0 < t.invalidSteerReqCount)

/-- What the limiter's memory says of the history. -/
structure RequestHistory (limits : SteeringLimits) (history : List TorqueRecord)
    (t : TorqueState) : Prop where
  counts : CountsBounded limits t
  -- the count of matching calls is the number of those that came last
  valid : ∃ kept, kept <:+ history ∧ t.validSteerReqCount ≤ kept.length ∧
    ∀ r ∈ kept, r.matching = true
  -- a mismatch is counted right after it only
  invalid : t.invalidSteerReqCount ≠ 0 →
    ∃ r, history.getLast? = some r ∧ r.violation = false ∧ r.call.mismatch = true
  -- the timestamp is that of the last call that was not such a matching one
  last : ∀ r ∈ (history.filter (!·.matching)).getLast?, t.tsSteerReqMismatchLast = r.call.ts

theorem RequestHistory.nil {limits : SteeringLimits} (hvalid : 0 ≤ limits.minValidRequestFrames)
    (hinvalid : 0 ≤ limits.maxInvalidRequestFrames) : RequestHistory limits [] {} where
  counts := ⟨le_rfl, hvalid, le_rfl, hinvalid, by rintro ⟨h, -⟩; exact lt_irrefl _ h⟩
  valid := ⟨[], List.suffix_rfl, le_rfl, by simp⟩
  invalid h := absurd rfl h
  last := by simp

section Step

variable {limits : SteeringLimits} {history : List TorqueRecord} {t : TorqueState}
  {call : TorqueCall}

theorem filter_append_of_matching {r : TorqueRecord} (h : r.matching = true) :
    (history ++ [r]).filter (!·.matching) = history.filter (!·.matching) := by
  simp [List.filter_append, h]

theorem getLast?_filter_append {r : TorqueRecord} (h : r.matching = false) :
    ((history ++ [r]).filter (!·.matching)).getLast? = some r := by
  simp [List.filter_append, h]

/-- A call that resets the memory: the history says nothing any more. -/
theorem RequestHistory.resets (hh : RequestHistory limits history t)
    (hresets : call.resets limits t = true) :
    RequestHistory limits (history ++ [call.record limits t]) (torqueStep limits t call) := by
  have hmatching : (call.record limits t).matching = false := by
    simp only [TorqueCall.resets, Bool.or_eq_true, Bool.not_eq_true'] at hresets
    rcases hresets with h | h <;> simp [TorqueRecord.matching, TorqueCall.record, h]
  rw [torqueStep_resets hresets]
  exact
    { counts := ⟨le_rfl, hh.counts.valid_nonneg.trans hh.counts.valid_le, le_rfl,
        hh.counts.invalid_nonneg.trans hh.counts.invalid_le,
        by rintro ⟨h, -⟩; exact lt_irrefl _ h⟩
      valid := ⟨[], List.nil_suffix, le_rfl, by simp⟩
      invalid := fun h => absurd rfl h
      last := by
        rw [getLast?_filter_append hmatching]
        rintro r ⟨rfl⟩
        rfl }

/-- A mismatching call that keeps the memory. -/
theorem RequestHistory.mismatch (htolerance : limits.hasSteerReqTolerance = true)
    (hmax : 0 < limits.maxInvalidRequestFrames) (hh : RequestHistory limits history t)
    (hkept : call.resets limits t = false) (hmismatch : call.mismatch = true) :
    RequestHistory limits (history ++ [call.record limits t]) (torqueStep limits t call) := by
  obtain ⟨-, -, hvalid, hinvalid, hlast⟩ := torqueStep_mismatch htolerance hkept hmismatch
  have hmatching : (call.record limits t).matching = false := by
    simp [TorqueRecord.matching, TorqueCall.record, hmismatch]
  have hpass : (call.check limits t).1 = false := by
    simp only [TorqueCall.resets, Bool.or_eq_false_iff] at hkept
    exact hkept.1
  have hnonneg : 0 ≤ t.invalidSteerReqCount := hh.counts.invalid_nonneg
  exact
    { counts :=
        { valid_nonneg := hvalid.ge
          valid_le := by
            rw [hvalid]
            exact hh.counts.valid_nonneg.trans hh.counts.valid_le
          invalid_nonneg := by omega
          invalid_le := by omega
          exclusive := by omega }
      valid := ⟨[], List.nil_suffix, by rw [hvalid]; rfl, by simp⟩
      invalid := fun _ => ⟨call.record limits t, by simp, hpass, hmismatch⟩
      last := by
        rw [getLast?_filter_append hmatching]
        rintro r ⟨rfl⟩
        exact hlast }

/-- A matching call that keeps the memory. -/
theorem RequestHistory.matching (htolerance : limits.hasSteerReqTolerance = true)
    (hmin : 0 < limits.minValidRequestFrames) (hh : RequestHistory limits history t)
    (hkept : call.resets limits t = false) (hmatch : call.mismatch = false) :
    RequestHistory limits (history ++ [call.record limits t]) (torqueStep limits t call) := by
  obtain ⟨hvalid, hinvalid, hlast⟩ := torqueStep_matching htolerance hkept hmatch
  have hmatching : (call.record limits t).matching = true := by
    simp only [TorqueCall.resets, Bool.or_eq_false_iff, Bool.not_eq_false'] at hkept
    simp [TorqueRecord.matching, TorqueCall.record, hmatch, hkept.1, hkept.2]
  have hnonneg : 0 ≤ t.validSteerReqCount := hh.counts.valid_nonneg
  obtain ⟨kept, ⟨older, hhistory⟩, hlength, hall⟩ := hh.valid
  exact
    { counts :=
        { valid_nonneg := by omega
          valid_le := by omega
          invalid_nonneg := hinvalid.ge
          invalid_le := by
            rw [hinvalid]
            exact hh.counts.invalid_nonneg.trans hh.counts.invalid_le
          exclusive := by omega }
      valid := by
        refine ⟨kept ++ [call.record limits t], ⟨older, ?_⟩, ?_, ?_⟩
        · rw [← List.append_assoc, hhistory]
        · simp only [List.length_append, List.length_singleton]
          omega
        · intro r hr
          rcases List.mem_append.mp hr with hr | hr
          · exact hall r hr
          · rw [List.mem_singleton.mp hr]
            exact hmatching
      invalid := fun h => absurd hinvalid h
      last := by
        rw [filter_append_of_matching hmatching]
        intro r hr
        rw [hlast]
        exact hh.last r hr }

/-- Every call keeps what the memory says of the history. -/
theorem RequestHistory.step (htolerance : limits.hasSteerReqTolerance = true)
    (hmax : 0 < limits.maxInvalidRequestFrames) (hmin : 0 < limits.minValidRequestFrames)
    (hh : RequestHistory limits history t) (call : TorqueCall) :
    RequestHistory limits (history ++ [call.record limits t]) (torqueStep limits t call) := by
  cases hresets : call.resets limits t with
  | true => exact hh.resets hresets
  | false =>
      cases hmismatch : call.mismatch with
      | true => exact hh.mismatch htolerance hmax hresets hmismatch
      | false => exact hh.matching htolerance hmin hresets hmismatch

end Step

theorem records_history {limits : SteeringLimits} (htolerance : limits.hasSteerReqTolerance = true)
    (hmax : 0 < limits.maxInvalidRequestFrames) (hmin : 0 < limits.minValidRequestFrames)
    (calls : List TorqueCall) :
    RequestHistory limits (records limits {} calls) (run (torqueStep limits) {} calls) :=
  trace_preserves (fun _ _ call hh => hh.step htolerance hmax hmin call)
    (RequestHistory.nil hmin.le hmax.le) calls

/-! ### Bursts -/

/-- The records of a burst that is maximal in the sequence of the calls without
a violation: it begins with such a call, and all such calls of it mismatch,
unlike the one before and the one after it. -/
structure MaximalBurst (before burst after : List TorqueRecord) : Prop where
  first : ∃ r, burst.head? = some r ∧ r.violation = false
  mismatch : ∀ r ∈ burst, r.violation = false → r.call.mismatch = true
  before : ∀ r ∈ (before.filter (!·.violation)).getLast?, r.call.mismatch = false
  after : ∀ r ∈ (after.filter (!·.violation)).head?, r.call.mismatch = false

/-- The burst is short, comes right after enough matching calls, and begins
long enough after the last call that was not one. -/
structure BurstLimited (limits : SteeringLimits) (before burst : List TorqueRecord) : Prop where
  length : ((burst.filter (!·.violation)).length : Int) ≤ limits.maxInvalidRequestFrames
  preceded : ∃ kept, kept <:+ before ∧ limits.minValidRequestFrames ≤ kept.length ∧
    ∀ r ∈ kept, r.matching = true
  interval : ∀ last ∈ (before.filter (!·.matching)).getLast?, ∀ first ∈ burst.head?,
    limits.minValidRequestRtInterval ≤ getTsElapsed first.call.ts last.call.ts

/-- How many mismatching calls may still pass in a row. -/
def remainingMismatches (limits : SteeringLimits) (t : TorqueState) : Int :=
  if t.invalidSteerReqCount = 0 then 0 else limits.maxInvalidRequestFrames - t.invalidSteerReqCount

theorem remainingMismatches_nonneg {limits : SteeringLimits} {t : TorqueState}
    (h : CountsBounded limits t) : 0 ≤ remainingMismatches limits t := by
  have hle := h.invalid_le
  unfold remainingMismatches
  split <;> omega

/-- While no matching call passes, the calls that pass are those that remain:
a violation ends the burst, since the calls after it have no matching ones
before them. -/
theorem records_passing_le {limits : SteeringLimits}
    (htolerance : limits.hasSteerReqTolerance = true)
    (hmax : 0 < limits.maxInvalidRequestFrames) (hmin : 0 < limits.minValidRequestFrames)
    {history : List TorqueRecord} {t : TorqueState} (hh : RequestHistory limits history t)
    (hvalid : t.validSteerReqCount = 0) {calls : List TorqueCall}
    (hmismatch : ∀ r ∈ records limits t calls, r.violation = false → r.call.mismatch = true) :
    (((records limits t calls).filter (!·.violation)).length : Int) ≤
      remainingMismatches limits t := by
  induction calls generalizing history t with
  | nil => exact remainingMismatches_nonneg hh.counts
  | cons call calls ih =>
      have hstep := hh.step htolerance hmax hmin call
      have hrest : ∀ r ∈ records limits (torqueStep limits t call) calls,
          r.violation = false → r.call.mismatch = true :=
        fun r hr => hmismatch r (List.mem_cons_of_mem _ hr)
      have hhead := hmismatch (call.record limits t) List.mem_cons_self
      have hrecords : records limits t (call :: calls) =
          call.record limits t :: records limits (torqueStep limits t call) calls := rfl
      rw [hrecords, List.filter_cons]
      cases hviolation : (call.check limits t).1 with
      | true =>
          have hresets : call.resets limits t = true := by simp [TorqueCall.resets, hviolation]
          have hreset : torqueStep limits t call = resetTorque call.ts := torqueStep_resets hresets
          have hpassing := ih hstep (by rw [hreset]; rfl) hrest
          have hzero : remainingMismatches limits (torqueStep limits t call) = 0 := by
            rw [hreset]
            rfl
          have hnonneg := remainingMismatches_nonneg hh.counts
          simp only [TorqueCall.record, hviolation, Bool.not_true, Bool.false_eq_true, if_false]
          omega
      | false =>
          have hmis : call.mismatch = true := hhead hviolation
          have hkept := TorqueCall.kept_of_mismatch hviolation hmis
          obtain ⟨hfirst, hlater, hvalid', hinvalid, -⟩ :=
            torqueStep_mismatch htolerance hkept hmis
          have hpassing := ih hstep hvalid' hrest
          have hcount : t.invalidSteerReqCount ≠ 0 := by
            intro hzero
            have henough := (hfirst hzero).1
            omega
          have hleft := hlater hcount
          have hnonneg := hh.counts.invalid_nonneg
          simp only [TorqueCall.record, hviolation, Bool.not_false, if_true, List.length_cons]
          unfold remainingMismatches at hpassing ⊢
          rw [if_neg hcount]
          split at hpassing <;> push_cast <;> omega

/-- The first call of a burst found no mismatch counted. -/
theorem RequestHistory.invalid_eq_zero {limits : SteeringLimits} {before : List TorqueRecord}
    {t : TorqueState} (hh : RequestHistory limits before t)
    (hbefore : ∀ r ∈ (before.filter (!·.violation)).getLast?, r.call.mismatch = false) :
    t.invalidSteerReqCount = 0 := by
  by_contra hcount
  obtain ⟨r, hlast, hpass, hmismatch⟩ := hh.invalid hcount
  obtain ⟨older, rfl⟩ := List.getLast?_eq_some_iff.mp hlast
  have hmatching := hbefore r (by simp [List.filter_append, hpass])
  rw [hmismatch] at hmatching
  cases hmatching

theorem burst_limited {limits : SteeringLimits} (htolerance : limits.hasSteerReqTolerance = true)
    (hmax : 0 < limits.maxInvalidRequestFrames) (hmin : 0 < limits.minValidRequestFrames)
    {t : TorqueState} {before burst after : List TorqueRecord}
    (hh : RequestHistory limits before t) (hburst : MaximalBurst before burst after)
    {calls : List TorqueCall} (hcalls : records limits t calls = burst) :
    BurstLimited limits before burst := by
  obtain ⟨r, hr, hpass⟩ := hburst.first
  cases calls with
  | nil =>
      subst hcalls
      cases hr
  | cons call calls =>
      have hrecords : burst = call.record limits t ::
          records limits (torqueStep limits t call) calls := hcalls.symm
      subst hrecords
      cases hr
      have hpass : (call.check limits t).1 = false := hpass
      have hmis : call.mismatch = true :=
        hburst.mismatch (call.record limits t) List.mem_cons_self hpass
      have hkept := TorqueCall.kept_of_mismatch hpass hmis
      have hzero : t.invalidSteerReqCount = 0 := hh.invalid_eq_zero hburst.before
      obtain ⟨hfirst, -, hvalid, hinvalid, -⟩ := torqueStep_mismatch htolerance hkept hmis
      obtain ⟨henough, helapsed⟩ := hfirst hzero
      have hpassing := records_passing_le htolerance hmax hmin
        (hh.step htolerance hmax hmin call) hvalid
        (fun r hr => hburst.mismatch r (List.mem_cons_of_mem _ hr))
      refine ⟨?_, ?_, ?_⟩
      · rw [hzero] at hinvalid
        have hone : (torqueStep limits t call).invalidSteerReqCount = 1 := by omega
        rw [remainingMismatches, hone] at hpassing
        simp only [List.filter_cons, TorqueCall.record, hpass, Bool.not_false, if_true,
          List.length_cons]
        simp only [one_ne_zero, if_false] at hpassing
        push_cast
        omega
      · obtain ⟨kept, hsuffix, hlength, hall⟩ := hh.valid
        exact ⟨kept, hsuffix, henough.trans hlength, hall⟩
      · rintro last hlast first ⟨rfl⟩
        rw [← hh.last last hlast]
        exact helapsed

/-- The tolerance for torque without the request bit, from the reset of the
limiter on: after any calls the counters are within their bounds, and in any
calls every burst of mismatching ones that pass is limited. -/
theorem steer_request_tolerance {limits : SteeringLimits}
    (htolerance : limits.hasSteerReqTolerance = true)
    (hmax : 0 < limits.maxInvalidRequestFrames) (hmin : 0 < limits.minValidRequestFrames)
    (calls : List TorqueCall) :
    CountsBounded limits (run (torqueStep limits) {} calls) ∧
      ∀ before burst after, records limits {} calls = before ++ burst ++ after →
        MaximalBurst before burst after → BurstLimited limits before burst := by
  refine ⟨(records_history htolerance hmax hmin calls).counts, ?_⟩
  intro before burst after hrecords hburst
  rw [List.append_assoc] at hrecords
  obtain ⟨calls₁, rest, -, hbefore, hrest⟩ := trace_eq_append hrecords
  obtain ⟨calls₂, -, -, hcalls, -⟩ := trace_eq_append hrest
  have hh := records_history htolerance hmax hmin calls₁
  rw [records, hbefore] at hh
  exact burst_limited htolerance hmax hmin hh hburst hcalls

/-- Eighteen calls of Toyota with the request bit, then one without it. -/
def toyotaCut : List TorqueCall :=
  (List.range 19).map fun i =>
    { time := 10000 * (i + 1)
      signals := { bootState.signals with controlsAllowed := true }
      desiredTorque := 10
      steerReq := if i < 18 then 1 else 0 }

theorem steer_request_tolerance_toyota :
    CountsBounded toyotaSteeringLimits (run (torqueStep toyotaSteeringLimits) {} toyotaCut) ∧
      ∀ before burst after,
        records toyotaSteeringLimits {} toyotaCut = before ++ burst ++ after →
          MaximalBurst before burst after → BurstLimited toyotaSteeringLimits before burst :=
  steer_request_tolerance rfl (by decide) (by decide) toyotaCut

-- the cut of the request bit passes
example : ∀ r ∈ records toyotaSteeringLimits {} toyotaCut, r.violation = false := by
  decide +kernel

end Panda.Safety
