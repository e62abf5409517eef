import Panda.Safety.Lag
import Panda.Safety.Supervision

/-!
How old the inputs can be while controls are allowed. After a tick that leaves
controls on, every entry is valid and in time, so the last message of each entry
was processed, and it is no older than the lag threshold on the timer. An input
whose source is the selected message of an entry is as recent as that.
-/

namespace Panda.Safety

open Library

def TimedCall.time : TimedCall → Nat
  | .rx time _ => time
  | .tx time _ => time
  | .tick time => time

/-- The run processed a message of the source at the time. -/
def UpdatedAt (source : Source) (start : State) (calls : List TimedCall) (since : Nat) : Prop :=
  ∃ first toPush rest, calls = first ++ .rx since toPush :: rest ∧
    (run timedStep start first).rxValid (timerAt since) toPush = true ∧
    source.carriedBy start.hooks toPush = true

/-! ### The messages of an entry -/

/-- The entries name the same messages and selected the same one. -/
structure SameMessage (check check' : RxCheck) : Prop where
  msg : check'.msg = check.msg
  index : check'.status.index = check.status.index

theorem SameMessage.selected {check check' : RxCheck} (h : SameMessage check check') :
    check'.selected = check.selected := by
  unfold RxCheck.selected RxCheck.variant
  rw [h.msg, h.index]

theorem checkCounter_sameMessage (hooks : SafetyHooks ModeParams ModeVars) (toPush : CANPacket)
    (check : RxCheck) : SameMessage check (checkCounter hooks toPush check) := by
  unfold checkCounter
  split
  · split
    · exact ⟨rfl, rfl⟩
    · exact ⟨rfl, rfl⟩
  · exact ⟨rfl, rfl⟩

theorem checkMsg_sameMessage (hooks : SafetyHooks ModeParams ModeVars) (params : ModeParams)
    (ts : UInt32) (toPush : CANPacket) (check : RxCheck) :
    SameMessage check (checkMsg hooks params ts toPush check) := by
  have hcounter := checkCounter_sameMessage hooks toPush
    (checkChecksum hooks params toPush (updateAddrTimestamp ts check))
  exact ⟨hcounter.msg, hcounter.index⟩

/-- A valid entry found the quality flag of its message valid where it checks
it. -/
theorem checkMsg_quality {hooks : SafetyHooks ModeParams ModeVars} {params : ModeParams}
    {ts : UInt32} {toPush : CANPacket} {check : RxCheck}
    (hvalid : isMsgValid (checkMsg hooks params ts toPush check) = true)
    (hquality : check.selected.qualityFlag = true) :
    (hooks.getQualityFlagValid.all fun valid => valid toPush) = true := by
  have hselected := (checkCounter_sameMessage hooks toPush
    (checkChecksum hooks params toPush (updateAddrTimestamp ts check))).selected
  have hselected : (checkCounter hooks toPush
      (checkChecksum hooks params toPush (updateAddrTimestamp ts check))).selected =
        check.selected := hselected
  simp only [isMsgValid, Bool.and_eq_true] at hvalid
  have hflag := hvalid.1.2
  cases hget : hooks.getQualityFlagValid with
  | none => rfl
  | some valid =>
      simp only [checkMsg, checkQualityFlag, hget, hselected, hquality] at hflag
      simpa using hflag

/-- The variant that an entry selected is one of its alternatives. -/
def Chosen (check : RxCheck) : Prop := check.status.index = 0 ∨ check.selected.addr ≠ 0

theorem selectVariant_msg (toPush : CANPacket) (check : RxCheck) :
    (selectVariant toPush check).msg = check.msg := by
  unfold selectVariant
  split
  · rfl
  · split
    · rfl
    · rfl

theorem selectVariant_chosen (toPush : CANPacket) {check : RxCheck} (h : Chosen check) :
    Chosen (selectVariant toPush check) := by
  unfold selectVariant
  split
  · exact h
  · split
    · rename_i j hpresent
      exact Or.inr (presentVariant_isOf hpresent).1
    · exact h

/-- A call keeps the messages of an entry, and the entry selects one of its
alternatives or keeps the selected one. -/
theorem step_entry {s : State} (e : Event) {i : Nat} {check : RxCheck}
    (h : s.cfg.rxChecks[i]? = some check) :
    ∃ check', (step s e).cfg.rxChecks[i]? = some check' ∧ check'.msg = check.msg ∧
      (Chosen check → Chosen check') := by
  cases e with
  | rx ts toPush =>
      by_cases hmatch : matchedIndex toPush s = some i
      · obtain ⟨entry, hentry, hafter, -, -⟩ := rx_entry_matched ts hmatch
        have hsame : some entry = some check := hentry.symm.trans h
        cases hsame
        have hkept := checkMsg_sameMessage s.hooks s.params ts toPush (selectVariant toPush check)
        refine ⟨_, hafter, hkept.msg.trans (selectVariant_msg toPush check), ?_⟩
        intro hchosen
        have hselected := selectVariant_chosen toPush hchosen
        unfold Chosen checkedEntry
        rw [hkept.index, hkept.selected]
        exact hselected
      · exact ⟨check, (rx_entry_frame ts hmatch).trans h, rfl, id⟩
  | tick ts =>
      refine ⟨checkLagging ts check, ?_, rfl, id⟩
      rw [step, tick_entry, h]
      rfl
  | tx | fwd | modeSecond | exitUnused => exact ⟨check, h, rfl, id⟩

theorem run_entry {s : State} (calls : List TimedCall) {i : Nat} {check : RxCheck}
    (h : s.cfg.rxChecks[i]? = some check) (hchosen : Chosen check) :
    ∃ check', (run timedStep s calls).cfg.rxChecks[i]? = some check' ∧
      check'.msg = check.msg ∧ Chosen check' := by
  induction calls generalizing s check with
  | nil => exact ⟨check, h, rfl, hchosen⟩
  | cons call calls ih =>
      obtain ⟨next, hnext, hmsg, hkept⟩ := step_entry call.event h
      obtain ⟨last, hlast, hlastMsg, hlastChosen⟩ := ih hnext (hkept hchosen)
      exact ⟨last, hlast, hlastMsg.trans hmsg, hlastChosen⟩

/-- A call adds no entry. -/
theorem step_entry_none {s : State} (e : Event) {i : Nat} (h : s.cfg.rxChecks[i]? = none) :
    (step s e).cfg.rxChecks[i]? = none := by
  cases e with
  | rx ts toPush =>
      by_cases hmatch : matchedIndex toPush s = some i
      · obtain ⟨check, hcheck, -⟩ := rx_entry_matched ts hmatch
        rw [h] at hcheck
        cases hcheck
      · exact (rx_entry_frame ts hmatch).trans h
  | tick ts =>
      rw [step, tick_entry, h]
      rfl
  | tx | fwd | modeSecond | exitUnused => exact h

/-- An entry of a run is an entry of its start. -/
theorem run_entry_start {s : State} {calls : List TimedCall} {check : RxCheck}
    (h : check ∈ (run timedStep s calls).cfg.rxChecks)
    (hchosen : ∀ entry ∈ s.cfg.rxChecks, Chosen entry) :
    ∃ entry ∈ s.cfg.rxChecks, check.msg = entry.msg := by
  obtain ⟨i, hcheck⟩ := List.getElem?_of_mem h
  cases hstart : s.cfg.rxChecks[i]? with
  | none =>
      have hstep : ∀ (s : State) (call : TimedCall), s.cfg.rxChecks[i]? = none →
          (timedStep s call).cfg.rxChecks[i]? = none := fun _ call => step_entry_none call.event
      have hnone : (run timedStep s calls).cfg.rxChecks[i]? = none :=
        run_invariant (I := fun s : State => s.cfg.rxChecks[i]? = none) hstep hstart calls
      rw [hnone] at hcheck
      cases hcheck
  | some entry =>
      have hmem := List.mem_of_getElem? hstart
      obtain ⟨last, hlast, hmsg, -⟩ := run_entry calls hstart (hchosen entry hmem)
      rw [hlast] at hcheck
      cases hcheck
      exact ⟨entry, hmem, hmsg⟩

/-- An alternative that was chosen carries the source of the entry. -/
theorem Source.covered_of_supervisedBy {source : Source} {check check' : RxCheck}
    (h : source.supervisedBy check = true) (hmsg : check'.msg = check.msg)
    (hchosen : Chosen check') : source.coveredBy check'.selected = true := by
  have hvariant : ∀ j, check'.variant j = check.variant j := by
    intro j
    unfold RxCheck.variant
    rw [hmsg]
  simp only [Source.supervisedBy, Bool.and_eq_true, List.all_cons, List.all_nil, Bool.and_true,
    Bool.or_eq_true, beq_iff_eq] at h
  obtain ⟨hfirst, hsecond, hthird⟩ := h
  unfold Chosen RxCheck.selected at hchosen
  unfold RxCheck.selected
  rw [hvariant] at hchosen ⊢
  rcases hchosen with hindex | haddr
  · rw [hindex]
    exact hfirst
  · match hj : check'.status.index with
    | 0 => exact hfirst
    | 1 =>
        rw [hj] at haddr
        exact hsecond.resolve_left haddr
    | 2 =>
        rw [hj] at haddr
        exact hthird.resolve_left haddr

theorem timedRun_currentHooks (s : State) (calls : List TimedCall) :
    (run timedStep s calls).currentHooks = s.currentHooks := by
  have hstep : ∀ s call, (timedStep s call).currentHooks = s.currentHooks :=
    fun s call => step_currentHooks s call.event
  exact run_frame State.currentHooks hstep s calls

/-- A message that the selected variant vouches for carries the source. -/
theorem Source.carriedBy_of_covered {source : Source} {variant : CanMsgCheck}
    {hooks : SafetyHooks ModeParams ModeVars} {toPush : CANPacket}
    (hcovered : source.coveredBy variant = true) (hof : variant.isOf toPush = true)
    (hquality : variant.qualityFlag = true →
      (hooks.getQualityFlagValid.all fun valid => valid toPush) = true) :
    source.carriedBy hooks toPush = true := by
  simp only [CanMsgCheck.isOf, Bool.and_eq_true, beq_iff_eq] at hof
  simp only [Source.coveredBy, Bool.and_eq_true, Bool.or_eq_true] at hcovered
  simp only [Source.carriedBy, Bool.and_eq_true, Bool.or_eq_true, hof.1.1, hof.1.2]
  exact ⟨hcovered.1, hcovered.2.imp_right hquality⟩

/-- The last message of a valid entry was valid, and it updated the source that
the entry selected. -/
theorem updated_of_valid {s : State} (hreset : ∀ check ∈ s.cfg.rxChecks, check.status = {})
    {calls : List TimedCall} {i : Nat} {check : RxCheck}
    (hcheck : (run timedStep s calls).cfg.rxChecks[i]? = some check)
    (hvalid : isMsgValid check = true) {source : Source}
    (hcovered : source.coveredBy check.selected = true) :
    ∃ since, UpdatedAt source s calls since ∧ check.status.lastTimestamp = timerAt since := by
  induction calls using List.reverseRecOn generalizing check with
  | nil =>
      have hstatus := hreset check (List.mem_of_getElem? hcheck)
      rw [isMsgValid, hstatus] at hvalid
      cases hvalid
  | append_singleton calls call ih =>
      have hextend : ∀ {since}, UpdatedAt source s calls since →
          UpdatedAt source s (calls ++ [call]) since := by
        rintro since ⟨first, toPush, rest, rfl, hrx, hcarried⟩
        exact ⟨first, toPush, rest ++ [call], by simp, hrx, hcarried⟩
      rw [run_append] at hcheck
      cases call with
      | rx time toPush =>
          by_cases hmatch : matchedIndex toPush (run timedStep s calls) = some i
          · obtain ⟨entry, -, hafter, hmatched, hverdict⟩ :=
              rx_entry_matched (timerAt time) hmatch
            have hsame : some (checkedEntry (timerAt time) toPush (run timedStep s calls) entry) =
                some check := hafter.symm.trans hcheck
            cases hsame
            have hselected := (checkMsg_sameMessage (run timedStep s calls).hooks
              (run timedStep s calls).params (timerAt time) toPush
              (selectVariant toPush entry)).selected
            rw [checkedEntry, hselected] at hcovered
            refine ⟨time, ⟨calls, toPush, [], rfl, hverdict.trans hvalid, ?_⟩,
              checkMsg_lastTimestamp _ _ _ _ _⟩
            apply Source.carriedBy_of_covered hcovered hmatched.2
            intro hquality
            have hflag := checkMsg_quality hvalid hquality
            rwa [State.hooks, timedRun_currentHooks] at hflag
          · have hframe := rx_entry_frame (timerAt time) hmatch
            obtain ⟨since, hupdated, htimestamp⟩ := ih (hframe.symm.trans hcheck) hvalid hcovered
            exact ⟨since, hextend hupdated, htimestamp⟩
      | tx time toSend =>
          obtain ⟨since, hupdated, htimestamp⟩ := ih hcheck hvalid hcovered
          exact ⟨since, hextend hupdated, htimestamp⟩
      | tick time =>
          have hentry := (tick_entry (timerAt time) (run timedStep s calls) i).symm.trans hcheck
          obtain ⟨entry, hget, rfl⟩ := Option.map_eq_some_iff.mp hentry
          obtain ⟨since, hupdated, htimestamp⟩ := ih hget hvalid hcovered
          exact ⟨since, hextend hupdated, htimestamp⟩

/-! ### Ticks -/

/-- The source was updated by a processed message, and on the timer no longer
ago than the lag threshold of an entry that names its message. -/
def UpdatedInTime (source : Source) (start : State) (calls : List TimedCall) (time : Nat) :
    Prop :=
  ∃ since check, UpdatedAt source start calls since ∧
    check ∈ (run timedStep start calls).cfg.rxChecks ∧
    source.coveredBy check.selected = true ∧
    (time - since) % 2 ^ 32 ≤ lagThreshold check

/-- The selected variant of an entry carries the source. -/
def SelectedBy (source : Source) (s : State) : Prop :=
  ∃ check ∈ s.cfg.rxChecks, source.coveredBy check.selected = true

theorem UpdatedAt.le {source : Source} {start : State} {calls : List TimedCall} {since : Nat}
    (h : UpdatedAt source start calls since) {time : Nat}
    (hclock : ∀ call ∈ calls, call.time ≤ time) : since ≤ time := by
  obtain ⟨first, toPush, rest, rfl, -, -⟩ := h
  exact hclock (.rx since toPush) (by simp)

/-- A tick that leaves controls on found the source updated in time. -/
theorem tick_updatedInTime {s : State} (hreset : ∀ check ∈ s.cfg.rxChecks, check.status = {})
    {calls : List TimedCall} {time : Nat} (hclock : ∀ call ∈ calls, call.time ≤ time)
    (hon : (safetyTick (timerAt time)
      (run timedStep s calls)).signals.controlsAllowed = true) {source : Source}
    (hselected : SelectedBy source (run timedStep s calls)) :
    UpdatedInTime source s calls time := by
  obtain ⟨check, hmem, hcovered⟩ := hselected
  obtain ⟨i, hcheck⟩ := List.getElem?_of_mem hmem
  have hafter : checkLagging (timerAt time) check ∈
      (safetyTick (timerAt time) (run timedStep s calls)).cfg.rxChecks :=
    List.mem_map_of_mem hmem
  obtain ⟨hvalid, hlagging⟩ := tick_controls hon _ hafter
  have hvalid : isMsgValid check = true := hvalid
  obtain ⟨since, hupdated, htimestamp⟩ := updated_of_valid hreset hcheck hvalid hcovered
  refine ⟨since, check, hupdated, hmem, hcovered, ?_⟩
  have hle := hupdated.le hclock
  have hnot : ¬ lagThreshold check < (timerAt time - check.status.lastTimestamp).toNat := by
    intro hlate
    have htrue : (checkLagging (timerAt time) check).status.lagging = true :=
      decide_eq_true hlate
    rw [hlagging] at htrue
    cases htrue
  rw [htimestamp, timerAt_sub_toNat hle] at hnot
  omega

/-! ### Sessions -/

/-- An entry that supervises the source when the mode is set has selected it in
every state of the session. -/
theorem session_selectedBy {mode : UInt16} {id : HooksId} (hmode : registered mode = some id)
    {param : UInt16} {before : State} {input : Input}
    (halways : supervision id (setSafetyHooks mode param before).params input = .always)
    {source : Source}
    (hsource : source ∈ sources id (setSafetyHooks mode param before).params input)
    (calls : List TimedCall) :
    SelectedBy source (run timedStep (setSafetyHooks mode param before) calls) := by
  rw [setSafetyHooks_registered hmode] at halways hsource ⊢
  obtain ⟨entry, hentry, hsupervised⟩ := init_supervised halways source hsource
  have hreset : { entry with status := {} } ∈ (before.reset.start id mode param).cfg.rxChecks :=
    List.mem_map_of_mem hentry
  obtain ⟨i, hstart⟩ := List.getElem?_of_mem hreset
  obtain ⟨check, hcheck, hmsg, hchosen⟩ := run_entry calls hstart (Or.inl rfl)
  exact ⟨check, List.mem_of_getElem? hcheck,
    Source.covered_of_supervisedBy hsupervised hmsg hchosen⟩

/-- An input without supervision has no entry in any state of the session. -/
theorem session_not_selectedBy {mode : UInt16} {id : HooksId} (hmode : registered mode = some id)
    {param : UInt16} {before : State} {input : Input}
    (hnever : supervision id (setSafetyHooks mode param before).params input = .never)
    {source : Source}
    (hsource : source ∈ sources id (setSafetyHooks mode param before).params input)
    (calls : List TimedCall) :
    ¬ SelectedBy source (run timedStep (setSafetyHooks mode param before) calls) := by
  rintro ⟨check, hcheck, hcovered⟩
  have hreset := setSafetyHooks_reset mode param before
  rw [setSafetyHooks_registered hmode] at hnever hsource hcheck hreset
  have hchosen : ∀ entry ∈ (before.reset.start id mode param).cfg.rxChecks, Chosen entry := by
    intro entry hentry
    left
    rw [hreset entry hentry]
  obtain ⟨entry, hentry, hmsg⟩ := run_entry_start hcheck hchosen
  obtain ⟨original, horiginal, rfl⟩ := List.mem_map.mp hentry
  have hunknown := init_unsupervised hnever source hsource original horiginal
  have hvariant := List.all_eq_true.mp hunknown check.status.index
    (by match check.status.index with | 0 | 1 | 2 => simp)
  have hselected : check.selected = original.variant check.status.index := by
    unfold RxCheck.selected RxCheck.variant
    rw [hmsg]
  rw [← hselected, hcovered] at hvariant
  cases hvariant

/-- The input is what its sources last said: a processed message of one of them sets it,
whatever the inputs were before, and it keeps its value until the next one. -/
structure FollowsSources (input : Input) (start : State) (calls : List TimedCall) : Prop where
  sets : ∀ {first rest : List TimedCall} {time : Nat} {toPush : CANPacket},
    calls = first ++ .rx time toPush :: rest →
    let s := run timedStep start first
    s.rxValid (timerAt time) toPush = true →
    ∀ source ∈ sources s.currentHooks s.params input, source.carriedBy s.hooks toPush = true →
    ∀ signals : Signals, signals.vehicleSpeed = s.signals.vehicleSpeed →
      input.value (timedStep { s with signals } (.rx time toPush)).signals =
        input.value (timedStep s (.rx time toPush)).signals
  keeps : ∀ {first rest : List TimedCall}, calls = first ++ rest →
    Along timedStep (fun s call => SilentFor input s call.event) (run timedStep start first) rest →
      input.value (run timedStep start calls).signals =
        input.value (run timedStep start first).signals

/-- The body has no source: its hook sets `vehicle_moving` with every message. -/
theorem session_followsSources {mode : UInt16} {id : HooksId} (hmode : registered mode = some id)
    (hid : id ≠ .body) (param : UInt16) (before : State) (input : Input) (calls : List TimedCall) :
    FollowsSources input (setSafetyHooks mode param before) calls := by
  have hstart : (setSafetyHooks mode param before).currentHooks = id := by
    rw [setSafetyHooks_registered hmode]
    rfl
  have hhooks : ∀ first, (run timedStep (setSafetyHooks mode param before) first).currentHooks ≠
      .body := by
    intro first
    rw [timedRun_currentHooks, hstart]
    exact hid
  constructor
  · rintro first rest time toPush - s hvalid source hsource hcarried signals hspeed
    exact rx_sets (hhooks first) hvalid hsource hcarried hspeed
  · rintro first rest rfl hsilent
    have hstep : ∀ s call, s.BrakeRecalled → (timedStep s call).BrakeRecalled :=
      fun s call => step_brakeRecalled s call.event
    have hrecalled := run_invariant hstep (setSafetyHooks_brakeRecalled hmode param before) first
    rw [run_append]
    apply (run_preserves (P := fun s : State => (s.currentHooks ≠ .body ∧ s.BrakeRecalled) ∧
      input.value s.signals =
        input.value (run timedStep (setSafetyHooks mode param before) first).signals) ?_ hsilent
      ⟨⟨hhooks first, hrecalled⟩, rfl⟩).2
    rintro s call hok ⟨⟨hs, hbrake⟩, hvalue⟩
    refine ⟨⟨?_, step_brakeRecalled s call.event hbrake⟩, (step_silent hs hbrake hok).trans hvalue⟩
    rw [timedStep, step_currentHooks]
    exact hs

/-- In every session: right after a tick that leaves controls on, a source was
updated by a processed message within the lag threshold on the timer, where the
check list supervises it, or where an entry selected its message. No entry selects
the message of an input without supervision. An input follows its sources. -/
theorem inputs_updated_in_time {mode : UInt16} {id : HooksId} (hmode : registered mode = some id)
    (param : UInt16) (before : State) {calls : List TimedCall} {time : Nat}
    (hclock : ∀ call ∈ calls, call.time ≤ time)
    (hon : (safetyTick (timerAt time) (run timedStep
      (setSafetyHooks mode param before) calls)).signals.controlsAllowed = true) :
    ∀ input, (id ≠ .body → FollowsSources input (setSafetyHooks mode param before) calls) ∧
      ∀ source ∈ sources id (setSafetyHooks mode param before).params input,
        ((supervision id (setSafetyHooks mode param before).params input = .always ∨
            SelectedBy source (run timedStep (setSafetyHooks mode param before) calls)) →
          UpdatedInTime source (setSafetyHooks mode param before) calls time) ∧
        (supervision id (setSafetyHooks mode param before).params input = .never →
          ¬ SelectedBy source (run timedStep (setSafetyHooks mode param before) calls)) := by
  intro input
  refine ⟨fun hid => session_followsSources hmode hid param before input calls, ?_⟩
  intro source hsource
  have hreset := setSafetyHooks_reset mode param before
  constructor
  · rintro (halways | hselected)
    · exact tick_updatedInTime hreset hclock hon (session_selectedBy hmode halways hsource calls)
    · exact tick_updatedInTime hreset hclock hon hselected
  · intro hnever
    exact session_not_selectedBy hmode hnever hsource calls

/-- Subaru before the global platform: the throttle, the steering torque and
cruise engaged. -/
def subaruEngaged : List TimedCall :=
  [.rx 0 (.ofBytes 0x140 0 8 []), .rx 0 (.ofBytes 0x371 0 8 []),
   .rx 0 (.ofBytes 0x144 0 8 [0, 0, 0, 0, 0, 0, 0x02, 0])]

/-- Half a second after the throttle message the gas pedal is recent, and no entry names the
message of the brake. -/
theorem inputs_updated_in_time_subaru :
    UpdatedInTime (sourceOn 0 [0x140]) (setSafetyHooks safetySubaruPreglobal 0 bootState)
        subaruEngaged 500000 ∧
      ¬ SelectedBy (sourceOn 0 [0xD1])
        (run timedStep (setSafetyHooks safetySubaruPreglobal 0 bootState) subaruEngaged) := by
  have hregistered : registered safetySubaruPreglobal = some .subaruPreglobal := by decide
  have hclock : ∀ call ∈ subaruEngaged, call.time ≤ 500000 := by decide
  have hon : (safetyTick (timerAt 500000) (run timedStep
      (setSafetyHooks safetySubaruPreglobal 0 bootState)
      subaruEngaged)).signals.controlsAllowed = true := by decide
  have hinputs := inputs_updated_in_time hregistered 0 bootState hclock hon
  exact ⟨((hinputs .gasPressed).2 _ List.mem_cons_self).1 (Or.inl rfl),
    ((hinputs .brakePressed).2 _ List.mem_cons_self).2 rfl⟩

/-- The times of the ticks of a run and of the one after it. -/
def tickTimes (calls : List TimedCall) (time : Nat) : List Nat :=
  (calls.filterMap fun call => match call with
    | .tick time => some time
    | _ => none) ++ [time]

/-- After every tick that leaves controls on, the sources of the inputs with this
supervision were updated within the lag threshold in real time. -/
def AlwaysRecent (kind : Supervision) : Prop :=
  ∀ (mode : UInt16) (id : HooksId) (param : UInt16) (before : State) (calls : List TimedCall)
    (time : Nat), registered mode = some id → isCarSafetyMode mode = true →
    (calls.map TimedCall.time ++ [time]).IsChain (· ≤ ·) →
    (tickTimes calls time).IsChain (fun first second => second < first + 2 ^ 32) →
    (safetyTick (timerAt time) (run timedStep
      (setSafetyHooks mode param before) calls)).signals.controlsAllowed = true →
    ∀ input, supervision id (setSafetyHooks mode param before).params input = kind →
      ∀ source ∈ sources id (setSafetyHooks mode param before).params input,
        ∃ since check, UpdatedAt source (setSafetyHooks mode param before) calls since ∧
          check ∈ (run timedStep (setSafetyHooks mode param before) calls).cfg.rxChecks ∧
          time ≤ since + lagThreshold check

/-- The times of the messages of a source. -/
def sourceTimes (source : Source) (start : State) (calls : List TimedCall) : List Nat :=
  calls.filterMap fun call => match call with
    | .rx time toPush => if source.carriedBy start.hooks toPush then some time else none
    | _ => none

theorem UpdatedAt.mem_sourceTimes {source : Source} {start : State} {calls : List TimedCall}
    {since : Nat} (h : UpdatedAt source start calls since) :
    since ∈ sourceTimes source start calls := by
  obtain ⟨first, toPush, rest, rfl, -, hcarried⟩ := h
  apply List.mem_filterMap.mpr
  exact ⟨.rx since toPush, by simp, by simp [hcarried]⟩

/-- A Toyota on which the brake message of the other models is seen. -/
def toyotaEngaged : List TimedCall :=
  [.rx 0 (.ofBytes 0xaa 0 8 []), .rx 0 (.ofBytes 0x260 0 8 [0, 0, 0, 0, 0, 0, 0, 0x6A]),
   .rx 0 (.ofBytes 0x224 0 8 []), .rx 0 (.ofBytes 0x1D2 0 8 [0x30, 0, 0, 0, 0, 0, 0, 0x0B])]

/-- The brake of a Subaru is in no entry, the brake of a Toyota is not the
alternative that was seen, and the throttle of a Subaru is silent for one round
of the timer. -/
theorem inputs_not_always_recent :
    ¬ AlwaysRecent .never ∧ ¬ AlwaysRecent .byAlternative ∧ ¬ AlwaysRecent .always := by
  refine ⟨?_, ?_, ?_⟩
  · intro hall
    obtain ⟨since, -, hupdated, -⟩ := hall safetySubaruPreglobal .subaruPreglobal 0 bootState
      subaruEngaged 500000 (by decide) (by decide) (by decide) (by decide) (by decide)
      .brakePressed rfl (sourceOn 0 [0xD1]) List.mem_cons_self
    have htimes : sourceTimes (sourceOn 0 [0xD1])
        (setSafetyHooks safetySubaruPreglobal 0 bootState) subaruEngaged = [] := by decide
    have hmem := hupdated.mem_sourceTimes
    rw [htimes] at hmem
    cases hmem
  · intro hall
    obtain ⟨since, -, hupdated, -⟩ := hall safetyToyota .toyota 0 bootState
      toyotaEngaged 500000 (by decide) (by decide) (by decide) (by decide) (by decide)
      .brakePressed rfl (sourceOn 0 [0x226]) List.mem_cons_self
    have htimes : sourceTimes (sourceOn 0 [0x226]) (setSafetyHooks safetyToyota 0 bootState)
        toyotaEngaged = [] := by decide
    have hmem := hupdated.mem_sourceTimes
    rw [htimes] at hmem
    cases hmem
  · intro hall
    obtain ⟨since, check, hupdated, hcheck, hrecent⟩ := hall safetySubaruPreglobal
      .subaruPreglobal 0 bootState (subaruEngaged ++ [.tick 500000]) (2 ^ 32 + 400000)
      (by decide) (by decide) (by decide) (by decide) (by decide)
      .gasPressed rfl (sourceOn 0 [0x140]) List.mem_cons_self
    have htimes : sourceTimes (sourceOn 0 [0x140])
        (setSafetyHooks safetySubaruPreglobal 0 bootState)
        (subaruEngaged ++ [.tick 500000]) = [0] := by decide
    have hmem := hupdated.mem_sourceTimes
    rw [htimes, List.mem_singleton] at hmem
    have hthresholds : ((run timedStep (setSafetyHooks safetySubaruPreglobal 0 bootState)
        (subaruEngaged ++ [.tick 500000])).cfg.rxChecks.all
          fun check => lagThreshold check ≤ 1000000) = true := by decide
    have hthreshold := of_decide_eq_true (List.all_eq_true.mp hthresholds check hcheck)
    omega

end Panda.Safety
