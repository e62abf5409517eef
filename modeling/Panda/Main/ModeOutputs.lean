import Panda.Main.Heartbeat

/-!
What the safety mode decides outside of the hooks. The relay of the harness and the
silence of the controllers are set by `set_safety_mode` alone, so that they follow the
mode as long as no request for debugging drives the relay. What the host may set in other
modes only is locked while the mode is that of a car.
-/

namespace Panda.Main

open Library Safety

/-! ### The relay and the controllers -/

/-- The modes that take the harness apart. -/
def intercepts (mode : UInt16) : Bool :=
  mode != safetySilent && mode != safetyNooutput && mode != safetyElm327

/-- The relay is driven in the modes that intercept, where there is a harness, and the
controllers are silent in SILENT. -/
structure FollowsMode (board : Board) (s : State) : Prop where
  relay : s.harness.relayDriven =
    (board.hasHarness && intercepts s.mode && s.harness.status != .nc)
  canSilent : s.canSilent = if s.mode = safetySilent then .allCanSilent else .allCanLive
  prevStatus : s.prevHarnessStatus = .nc ∨ s.prevHarnessStatus = s.harness.status

/-- A request that drives the relay by itself. -/
def DrivesRelay : Event → Prop
  | .control req => req.request = 0xc5
  | _ => False

theorem FollowsMode.congr {board : Board} {s t : State} (h : FollowsMode board s)
    (hmode : t.mode = s.mode) (hharness : t.harness = s.harness)
    (hprev : t.prevHarnessStatus = s.prevHarnessStatus) (hsilent : t.canSilent = s.canSilent) :
    FollowsMode board t where
  relay := by
    rw [hharness, hmode]
    exact h.relay
  canSilent := by
    rw [hsilent, hmode]
    exact h.canSilent
  prevStatus := by
    rw [hprev, hharness]
    exact h.prevStatus

/-- The relay after `set_intercept_relay`. -/
theorem setInterceptRelay_driven {board : Board} {harness : Harness}
    (hnone : board.hasHarness = false → harness.relayDriven = false) (intercept : Bool) :
    (setInterceptRelay board intercept false harness).relayDriven =
      (board.hasHarness && intercept && harness.status != .nc) := by
  unfold setInterceptRelay
  cases hboard : board.hasHarness with
  | true => simp
  | false => simp [hnone hboard]

theorem setInterceptRelay_keeps (board : Board) (intercept ignitionRelay : Bool)
    (harness : Harness) :
    (setInterceptRelay board intercept ignitionRelay harness).status = harness.status := by
  unfold setInterceptRelay
  split
  · rfl
  · rfl

theorem setSafetyMode_relay (board : Board) (mode param : UInt16) (s : State) :
    (setSafetyMode board mode param s).harness =
      setInterceptRelay board (intercepts (selectedMode mode)) false s.harness := by
  simp only [setSafetyMode]
  split_ifs with hsilent hnooutput helm
  · rw [hsilent]
    rfl
  · rw [hnooutput]
    rfl
  · rw [helm]
    rfl
  · have hintercepts : intercepts (selectedMode mode) = true := by
      simp [intercepts, hsilent, hnooutput, helm]
    rw [hintercepts]

theorem setSafetyMode_canSilent (board : Board) (mode param : UInt16) (s : State) :
    (setSafetyMode board mode param s).canSilent =
      if selectedMode mode = safetySilent then .allCanSilent else .allCanLive := by
  simp only [setSafetyMode]
  split_ifs
  · rfl
  · rfl
  · rfl
  · rfl

theorem setSafetyMode_prevHarnessStatus (board : Board) (mode param : UInt16) (s : State) :
    (setSafetyMode board mode param s).prevHarnessStatus = s.prevHarnessStatus := by
  simp only [setSafetyMode]
  split_ifs
  · rfl
  · rfl
  · rfl
  · rfl

/-- `set_safety_mode` sets both, whatever they were. -/
theorem setSafetyMode_follows {board : Board} {s : State}
    (hnone : board.hasHarness = false → s.harness.relayDriven = false)
    (hprev : s.prevHarnessStatus = .nc ∨ s.prevHarnessStatus = s.harness.status)
    (mode param : UInt16) : FollowsMode board (setSafetyMode board mode param s) where
  relay := by
    rw [setSafetyMode_mode, setSafetyMode_relay, setInterceptRelay_keeps]
    exact setInterceptRelay_driven hnone _
  canSilent := by
    rw [setSafetyMode_mode]
    exact setSafetyMode_canSilent board mode param s
  prevStatus := by
    rw [setSafetyMode_prevHarnessStatus, setSafetyMode_relay, setInterceptRelay_keeps]
    exact hprev

theorem FollowsMode.unplugged {board : Board} {s : State} (h : FollowsMode board s)
    (hboard : board.hasHarness = false) : s.harness.relayDriven = false := by
  rw [h.relay, hboard]
  rfl

theorem powerOn_follows (board : Board) (sensed : HarnessStatus) :
    FollowsMode board (powerOn board sensed) := by
  apply setSafetyMode_follows
  · intro hboard
    unfold harnessInit
    rw [setInterceptRelay_driven fun _ => rfl, hboard]
    rfl
  · exact .inl rfl

/-! ### One event -/

/-- A tick reads the status only while the relay is not driven, and a status that is not
the one of the last re-init is followed by another. -/
theorem harnessPart_follows {board : Board} {s : State} (input : TickInput)
    (h : FollowsMode board s) : FollowsMode board (harnessPart board input s) := by
  have hdriven : (harnessTick board input.sensed s.harness).relayDriven = s.harness.relayDriven :=
    rfl
  have hkept : s.harness.relayDriven = true →
      (harnessTick board input.sensed s.harness).status = s.harness.status := by
    intro hrelay
    simp [harnessTick, harnessDetectOrientation, hrelay]
  simp only [harnessPart]
  generalize harnessTick board input.sensed s.harness = harness at hdriven hkept
  unfold guarded
  split
  next hchanged =>
    apply setSafetyMode_follows
    · intro hboard
      exact hdriven.trans (h.unplugged hboard)
    · exact .inr rfl
  next hsame =>
    have hstatus : harness.status = s.prevHarnessStatus := not_not.mp hsame
    refine ⟨?_, h.canSilent, .inr hstatus.symm⟩
    change harness.relayDriven = (board.hasHarness && intercepts s.mode && harness.status != .nc)
    rw [hdriven]
    cases hrelay : s.harness.relayDriven with
    | true => rw [hkept hrelay, ← h.relay, hrelay]
    | false =>
      rcases h.prevStatus with hnc | hprev
      · rw [hstatus, hnc]
        simp
      · rw [hstatus, hprev, ← h.relay, hrelay]

theorem loseHeartbeat_follows {board : Board} {s : State} (h : FollowsMode board s) :
    FollowsMode board (loseHeartbeat board s) := by
  have hsilenced : FollowsMode board
      (guarded (s.mode ≠ safetySilent) (setSafetyMode board safetySilent 0)
        { s with
          heartbeatLost := s.heartbeatLost || isCarSafetyMode s.mode
          heartbeatEngaged := false }) := by
    apply guarded_preserves (P := FollowsMode board)
    · intro _ ht
      exact setSafetyMode_follows ht.unplugged ht.prevStatus _ _
    · exact h.congr rfl rfl rfl rfl
  exact hsilenced.congr rfl rfl rfl rfl

theorem secondTick_follows {board : Board} {s : State} (input : TickInput)
    (h : FollowsMode board s) : FollowsMode board (secondTick board input s) := by
  have hcounted : FollowsMode board
      { countHeartbeat s with
        safety :=
          exitUnusedControls (countHeartbeat s).heartbeatEngaged (countHeartbeat s).safety } :=
    h.congr rfl rfl rfl rfl
  unfold secondTick
  simp only [guarded]
  split
  · exact (loseHeartbeat_follows hcounted).congr rfl rfl rfl rfl
  · exact hcounted.congr rfl rfl rfl rfl

theorem commsControlHandler_follows {board : Board} {req : ControlPacket} {s : State}
    (hrelay : ¬ DrivesRelay (.control req)) (h : FollowsMode board s) :
    FollowsMode board (commsControlHandler board req s) := by
  have hrequest : req.request ≠ 0xc5 := hrelay
  unfold commsControlHandler
  rw [if_neg hrequest]
  split_ifs
  · exact setSafetyMode_follows h.unplugged h.prevStatus _ _
  · exact h
  · exact h.congr rfl rfl rfl rfl
  · exact h.congr rfl rfl rfl rfl
  · exact h.congr rfl rfl rfl rfl
  · exact h
  · exact h.congr rfl rfl rfl rfl
  · exact h

theorem step_follows {board : Board} {s : State} {e : Event} (hrelay : ¬ DrivesRelay e)
    (h : FollowsMode board s) : FollowsMode board (step board s e) := by
  cases e with
  | tick input =>
    have hharness : FollowsMode board (harnessPart board input s) := harnessPart_follows input h
    have hsecond : FollowsMode board (guarded ((harnessPart board input s).loopCounter = 0)
        (secondTick board input) (harnessPart board input s)) := by
      apply guarded_preserves (P := FollowsMode board)
      · intro _ ht
        exact secondTick_follows input ht
      · exact hharness
    exact hsecond.congr rfl rfl rfl rfl
  | rx ts toPush =>
    simp only [step]
    rw [ignitionCanHook_same]
    exact h.congr rfl rfl rfl rfl
  | tx ts toSend => exact h.congr rfl rfl rfl rfl
  | control req => exact commsControlHandler_follows hrelay h
  | restart sensed => exact powerOn_follows board sensed

/-- In every run in which no request drives the relay by itself, the relay is driven
exactly in the modes that intercept, where there is a harness, and the controllers are
silent exactly in SILENT. -/
theorem outputs_follow_mode (board : Board) (sensed : HarnessStatus) {events : List Event}
    (hrelay : ∀ e ∈ events, ¬ DrivesRelay e) :
    let s := run (step board) (powerOn board sensed) events
    s.harness.relayDriven = (board.hasHarness && intercepts s.mode && s.harness.status != .nc) ∧
      s.canSilent = if s.mode = safetySilent then .allCanSilent else .allCanLive := by
  intro s
  have hs : FollowsMode board s := by
    apply run_preserves (P := FollowsMode board) _ (Along.of_forall hrelay _)
    · exact powerOn_follows board sensed
    · intro t e hstep ht
      exact step_follows hstep ht
  exact ⟨hs.relay, hs.canSilent⟩

/-- A car mode without a harness, which is plugged in then. -/
def plugIn : List Event :=
  [.control { request := 0xdc, param1 := safetyToyota, param2 := 0 },
   .tick { sensed := .flipped, ignition := true, ts := 0 }]

theorem outputs_follow_mode_plugIn :
    (run (step {}) (powerOn {} .nc) plugIn).harness.relayDriven = true := by
  have hrelay : ∀ e ∈ plugIn, ¬ DrivesRelay e := by
    simp [plugIn, DrivesRelay]
  rw [(outputs_follow_mode {} .nc hrelay).1]
  decide

/-! ### What a car mode locks -/

/-- A step leaves the alternative experience alone, and a heartbeat that goes unchecked
after it went unchecked before, with no second counted. -/
structure Locks (board : Board) (s : State) (e : Event) : Prop where
  experience :
    (step board s e).safety.alternativeExperience = s.safety.alternativeExperience
  heartbeat : (step board s e).heartbeatDisabled = true →
    s.heartbeatDisabled = true ∧ isSecondTick s e = false

@[simp] theorem selectHooks_experience (mode param : UInt16) (safety : Safety.State) :
    (selectHooks mode param safety).alternativeExperience = safety.alternativeExperience := by
  have hset : ∀ (mode param : UInt16) (safety : Safety.State),
      (setSafetyHooks mode param safety).alternativeExperience =
        safety.alternativeExperience := by
    intro mode param safety
    unfold setSafetyHooks
    split
    · rfl
    · rfl
  unfold selectHooks
  split
  · rw [hset, hset]
  · exact hset mode param safety

@[simp] theorem setSafetyMode_heartbeatDisabled (board : Board) (mode param : UInt16) (s : State) :
    (setSafetyMode board mode param s).heartbeatDisabled = s.heartbeatDisabled := by
  simp only [setSafetyMode]
  split_ifs
  · rfl
  · rfl
  · rfl
  · rfl

theorem harnessPart_keeps (board : Board) (input : TickInput) (s : State) :
    (harnessPart board input s).safety.alternativeExperience = s.safety.alternativeExperience ∧
      (harnessPart board input s).heartbeatDisabled = s.heartbeatDisabled := by
  simp only [harnessPart, guarded]
  split
  · simp [reinitHarness]
  · exact ⟨rfl, rfl⟩

theorem loseHeartbeat_keeps (board : Board) (s : State) :
    (loseHeartbeat board s).safety.alternativeExperience = s.safety.alternativeExperience ∧
      (loseHeartbeat board s).heartbeatDisabled = s.heartbeatDisabled := by
  simp only [loseHeartbeat, guarded]
  split
  · simp
  · exact ⟨rfl, rfl⟩

/-- The second part checks the heartbeat again in a car mode. -/
theorem secondTick_keeps (board : Board) (input : TickInput) (s : State) :
    (secondTick board input s).safety.alternativeExperience = s.safety.alternativeExperience ∧
      (secondTick board input s).heartbeatDisabled =
        (s.heartbeatDisabled && !isCarSafetyMode s.mode) := by
  unfold secondTick
  simp only [guarded]
  split
  · obtain ⟨hexperience, hdisabled⟩ := loseHeartbeat_keeps board
      { countHeartbeat s with
        safety := exitUnusedControls (countHeartbeat s).heartbeatEngaged (countHeartbeat s).safety }
    exact ⟨hexperience, hdisabled⟩
  · exact ⟨rfl, rfl⟩

theorem tickHandler_locks {board : Board} {s : State} {input : TickInput}
    (hcar : isCarSafetyMode s.mode = true)
    (hafter : isCarSafetyMode (tickHandler board input s).mode = true) :
    Locks board s (.tick input) := by
  obtain ⟨hexperience, hdisabled⟩ := harnessPart_keeps board input s
  obtain ⟨hsecondExperience, hsecondDisabled⟩ :=
    secondTick_keeps board input (harnessPart board input s)
  have hloop := harnessPart_loopCounter board input s
  simp only [tickHandler, hloop] at hafter
  by_cases hsecond : s.loopCounter = 0
  · rw [guarded_of_pos hsecond] at hafter
    -- a mode that the re-init left for SILENT is none of a car after the tick
    have hmode : isCarSafetyMode (harnessPart board input s).mode = true := by
      rcases @harnessPart_restarts board s input hcar with hsilenced | hmissed
      · have hsilent := (@secondTick_silenced board _ input hsilenced).mode
        change isCarSafetyMode
          (secondTick board input (harnessPart board input s)).mode = true at hafter
        rw [hsilent] at hafter
        cases hafter
      · exact hmissed.car
    constructor
    · simp only [step, tickHandler, hloop]
      rw [guarded_of_pos hsecond]
      exact hsecondExperience.trans hexperience
    · simp only [step, tickHandler, hloop]
      rw [guarded_of_pos hsecond]
      intro hstill
      have hstill' : (secondTick board input
          (harnessPart board input s)).heartbeatDisabled = true := hstill
      rw [hsecondDisabled, hmode] at hstill'
      simp at hstill'
  · constructor
    · simp only [step, tickHandler, hloop]
      rw [guarded_of_neg hsecond]
      exact hexperience
    · simp only [step, tickHandler, hloop]
      rw [guarded_of_neg hsecond]
      intro hstill
      have hbefore : s.heartbeatDisabled = true := hdisabled.symm.trans hstill
      exact ⟨hbefore, beq_eq_false_iff_ne.mpr hsecond⟩

theorem commsControlHandler_locks {board : Board} {s : State} {req : ControlPacket}
    (hcar : isCarSafetyMode s.mode = true) : Locks board s (.control req) := by
  constructor
  · simp only [step, commsControlHandler, if_pos hcar]
    split_ifs
    · rfl
    · simp
    · rfl
    · rfl
    · rfl
    · rfl
    · rfl
  · simp only [step, commsControlHandler, if_pos hcar]
    split_ifs
    · exact fun h => ⟨h, rfl⟩
    · rw [setSafetyMode_heartbeatDisabled]
      exact fun h => ⟨h, rfl⟩
    · exact fun h => ⟨h, rfl⟩
    · exact fun h => ⟨h, rfl⟩
    · exact fun h => by cases h
    · exact fun h => ⟨h, rfl⟩
    · exact fun h => ⟨h, rfl⟩

theorem step_locks {board : Board} {s : State} {e : Event} (hcar : isCarSafetyMode s.mode = true)
    (hafter : isCarSafetyMode (step board s e).mode = true) : Locks board s e := by
  cases e with
  | tick input => exact tickHandler_locks hcar hafter
  | rx ts toPush =>
    constructor
    · simp only [step]
      rw [ignitionCanHook_same]
      rfl
    · simp only [step]
      rw [ignitionCanHook_same]
      exact fun h => ⟨h, rfl⟩
  | tx ts toSend => exact ⟨rfl, fun h => ⟨h, rfl⟩⟩
  | control req => exact commsControlHandler_locks hcar
  | restart sensed =>
    -- a restart is in SILENT
    have hsilent : (powerOn board sensed).mode = safetySilent := setSafetyMode_mode _ _ _ _
    have hcar' : isCarSafetyMode (powerOn board sensed).mode = true := hafter
    rw [hsilent] at hcar'
    cases hcar'

/-- While the mode is that of a car, whatever the host asks for, the alternative
experience stays as it was, and the heartbeat goes unchecked only if it went unchecked
before and no second has been counted since. -/
theorem car_mode_locks {board : Board} {s : State} {events : List Event}
    (hcar : Always (step board) (fun s => isCarSafetyMode s.mode = true) s events) :
    let t := run (step board) s events
    t.safety.alternativeExperience = s.safety.alternativeExperience ∧
      (t.heartbeatDisabled = true →
        s.heartbeatDisabled = true ∧ secondTicks board s events = 0) := by
  have hsteps : Along (step board) (fun s e => isCarSafetyMode s.mode = true ∧
      isCarSafetyMode (step board s e).mode = true) s events := by
    have hstart : isCarSafetyMode s.mode = true := hcar.head
    refine (always_iff_along (I := fun _ => True)
      (P := fun s => isCarSafetyMode s.mode = true) ?_ ?_ trivial hstart).mp hcar
    · intro _ _ _
      trivial
    · intro _ _ _ hmode
      exact (and_iff_right hmode).symm
  apply ghost_preserves (P := fun n t =>
    t.safety.alternativeExperience = s.safety.alternativeExperience ∧
      (t.heartbeatDisabled = true → s.heartbeatDisabled = true ∧ n = 0)) _ hsteps
  · exact ⟨rfl, fun h => ⟨h, rfl⟩⟩
  · rintro n t e ⟨hbefore, hafter⟩ ⟨hexperience, hdisabled⟩
    have hlocks : Locks board t e := step_locks hbefore hafter
    refine ⟨hlocks.experience.trans hexperience, ?_⟩
    intro hstill
    obtain ⟨hearlier, hsecond⟩ := hlocks.heartbeat hstill
    obtain ⟨hstart, hcount⟩ := hdisabled hearlier
    rw [hcount, hsecond]
    exact ⟨hstart, rfl⟩

/-- In a car mode the host asks for another experience and for no heartbeat, and a
second passes. -/
def asks : List Event :=
  [.control { request := 0xdf, param1 := 1, param2 := 0 },
   .control { request := 0xf8, param1 := 0, param2 := 0 },
   .tick { sensed := .nc, ignition := true, ts := 0 }]

theorem car_mode_locks_asks :
    let t := run (step {}) bootToyota asks
    t.safety.alternativeExperience = 0 ∧ t.heartbeatDisabled = false := by
  have hcar : Always (step {}) (fun s => isCarSafetyMode s.mode = true) bootToyota asks := by
    refine ⟨by decide, by decide, by decide, ?_⟩
    change isCarSafetyMode _ = true
    decide
  obtain ⟨hexperience, hdisabled⟩ := car_mode_locks hcar
  refine ⟨hexperience, ?_⟩
  by_contra hstill
  obtain ⟨-, hseconds⟩ := hdisabled (Bool.not_eq_false _ ▸ hstill)
  revert hseconds
  decide

end Panda.Main
