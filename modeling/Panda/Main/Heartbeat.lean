import Panda.Main.Machine

/-!
The heartbeat watchdog. In a car safety mode every second without a heartbeat
counts, and the fifth at the latest ends in SILENT with CAN silenced. One other
thing restarts the count: a change of the harness status sets the mode again,
and setting a car mode clears the heartbeat counter.
-/

namespace Panda.Main

open Library Safety

/-- The mode is SILENT with CAN silenced. -/
structure Silenced (s : State) : Prop where
  mode : s.mode = safetySilent
  canSilent : s.canSilent = .allCanSilent

/-- The host's heartbeat and its request to set the safety mode. -/
def HostSign : Event → Prop
  | .control req => req.request = 0xf3 ∨ req.request = 0xdc
  | _ => False

/-- In a car mode, the tick finds the harness as it was at the last re-init. -/
def HarnessSettled (board : Board) (s : State) : Event → Prop
  | .tick input => isCarSafetyMode s.mode = true →
      harnessDetectOrientation board input.sensed s.harness = s.prevHarnessStatus
  | _ => True

instance HarnessSettled.decidable (board : Board) (s : State) :
    ∀ e, Decidable (HarnessSettled board s e)
  | .tick input => inferInstanceAs (Decidable (isCarSafetyMode s.mode = true →
      harnessDetectOrientation board input.sensed s.harness = s.prevHarnessStatus))
  | .rx _ _ | .tx _ _ | .control _ | .restart _ => .isTrue trivial

/-- Whether the event is a tick that runs the 1 Hz part. -/
def isSecondTick (s : State) : Event → Bool
  | .tick _ => s.loopCounter == 0
  | _ => false

/-- The number of 1 Hz ticks in a run. -/
def secondTicks (board : Board) (s : State) (events : List Event) : Nat :=
  ghost (step board) (fun s e n => n + (isSecondTick s e).toNat) 0 s events

theorem setSafetyMode_silenced (board : Board) (param : UInt16) (s : State) :
    Silenced (setSafetyMode board safetySilent param s) where
  mode := setSafetyMode_mode board safetySilent param s
  canSilent := rfl

/-! ### One event -/

theorem loseHeartbeat_silenced {board : Board} {s : State} (hcar : isCarSafetyMode s.mode = true) :
    Silenced (loseHeartbeat board s) := by
  have hmode : s.mode ≠ safetySilent := by
    intro hsilent
    rw [hsilent] at hcar
    cases hcar
  have hsilenced := setSafetyMode_silenced board 0
    { s with heartbeatLost := s.heartbeatLost || isCarSafetyMode s.mode, heartbeatEngaged := false }
  simp only [loseHeartbeat]
  rw [guarded_of_pos (by exact hmode)]
  exact ⟨hsilenced.mode, hsilenced.canSilent⟩

/-- A car safety mode in which the heartbeat has been missing for at least `n`
seconds, fewer than five, or SILENT. -/
structure Missed (n : Nat) (s : State) : Prop where
  car : isCarSafetyMode s.mode = true
  counted : n ≤ s.heartbeatCounter.toNat
  below : n < 5

def Countdown (n : Nat) (s : State) : Prop := Silenced s ∨ Missed n s

theorem countHeartbeat_counter {n : Nat} {s : State} (h : n ≤ s.heartbeatCounter.toNat)
    (hn : n < 5) : n + 1 ≤ (countHeartbeat s).heartbeatCounter.toNat := by
  simp only [countHeartbeat]
  split
  · rename_i hlt
    rw [UInt32.toNat_add]
    have hlt' : s.heartbeatCounter.toNat < 0xFFFFFFFF := hlt
    have hone : (1 : UInt32).toNat = 1 := rfl
    omega
  · rename_i hlimit
    have hlimit' : ¬ s.heartbeatCounter.toNat < 0xFFFFFFFF := hlimit
    omega

theorem heartbeatLimit_le (input : TickInput) (s : State) :
    (heartbeatLimit input s).toNat ≤ 5 := by
  unfold heartbeatLimit
  split
  · decide
  · decide

theorem Countdown.congr {n : Nat} {s t : State} (h : Countdown n s) (hmode : t.mode = s.mode)
    (hcan : t.canSilent = s.canSilent) (hcounter : t.heartbeatCounter = s.heartbeatCounter) :
    Countdown n t := by
  rcases h with hsilenced | hmissed
  · exact .inl ⟨hmode.trans hsilenced.mode, hcan.trans hsilenced.canSilent⟩
  · apply Or.inr
    constructor
    · rw [hmode]
      exact hmissed.car
    · rw [hcounter]
      exact hmissed.counted
    · exact hmissed.below

/-- A 1 Hz tick counts a missing heartbeat, or falls back to SILENT. -/
theorem secondTick_missed {board : Board} {n : Nat} {s : State} (input : TickInput)
    (hs : Missed n s) : Countdown (n + 1) (secondTick board input s) := by
  have hcounted : n + 1 ≤ (countHeartbeat s).heartbeatCounter.toNat :=
    countHeartbeat_counter hs.counted hs.below
  have henabled : (countHeartbeat s).heartbeatDisabled = false := by
    simp [countHeartbeat, hs.car]
  have hcar : isCarSafetyMode (countHeartbeat s).mode = true := hs.car
  unfold secondTick
  generalize countHeartbeat s = t at hcounted henabled hcar
  simp only [guarded]
  split
  · apply Or.inl
    have hsilenced : Silenced (loseHeartbeat board
        { t with safety := exitUnusedControls t.heartbeatEngaged t.safety }) :=
      loseHeartbeat_silenced hcar
    exact ⟨hsilenced.mode, hsilenced.canSilent⟩
  · rename_i hkept
    apply Or.inr
    have hlimit : ¬ heartbeatLimit input t ≤ t.heartbeatCounter := by
      intro hreached
      exact hkept ⟨henabled, hreached⟩
    have hbelow := UInt32.lt_iff_toNat_lt.mp (UInt32.not_le.mp hlimit)
    have hle := heartbeatLimit_le input t
    exact ⟨hcar, hcounted, by omega⟩

theorem loseHeartbeat_stays {board : Board} {s : State} (hs : Silenced s) :
    Silenced (loseHeartbeat board s) := by
  have hmode : ¬ s.mode ≠ safetySilent := not_not_intro hs.mode
  simp only [loseHeartbeat]
  rw [guarded_of_neg (by exact hmode)]
  exact ⟨hs.mode, hs.canSilent⟩

theorem secondTick_silenced {board : Board} {s : State} (input : TickInput) (hs : Silenced s) :
    Silenced (secondTick board input s) := by
  have hcounted : Silenced
      { countHeartbeat s with
        safety :=
          exitUnusedControls (countHeartbeat s).heartbeatEngaged (countHeartbeat s).safety } :=
    ⟨hs.mode, hs.canSilent⟩
  unfold secondTick
  simp only [guarded]
  split
  · have hlost : Silenced (loseHeartbeat board _) := loseHeartbeat_stays hcounted
    exact ⟨hlost.mode, hlost.canSilent⟩
  · exact ⟨hcounted.mode, hcounted.canSilent⟩

theorem secondTick_countdown {board : Board} {n : Nat} {s : State} (input : TickInput)
    (hs : Countdown n s) : Countdown (n + 1) (secondTick board input s) := by
  rcases hs with hsilenced | hmissed
  · exact .inl (secondTick_silenced input hsilenced)
  · exact secondTick_missed input hmissed

theorem harnessPart_silenced {board : Board} {s : State} (input : TickInput) (hs : Silenced s) :
    Silenced (harnessPart board input s) := by
  simp only [harnessPart]
  apply guarded_preserves (P := Silenced)
  · intro _ hs
    unfold reinitHarness
    rw [hs.mode]
    exact setSafetyMode_silenced _ _ _
  · exact ⟨hs.mode, hs.canSilent⟩

/-- A re-init in a car mode starts the count again. -/
theorem reinitHarness_restarts {board : Board} {s : State}
    (hcar : isCarSafetyMode s.mode = true) : Countdown 0 (reinitHarness board s) := by
  unfold reinitHarness
  by_cases hselected : selectedMode s.mode = safetySilent
  · apply Or.inl
    constructor
    · rw [setSafetyMode_mode]
      exact hselected
    · simp only [setSafetyMode]
      rw [if_pos hselected]
  · have hsame : selectedMode s.mode = s.mode := by
      unfold selectedMode at hselected ⊢
      split
      · rename_i hstatus
        rw [if_pos hstatus] at hselected
        exact absurd rfl hselected
      · rfl
    apply Or.inr
    constructor
    · rw [setSafetyMode_mode, hsame]
      exact hcar
    · apply Nat.zero_le
    · omega

theorem harnessPart_restarts {board : Board} {s : State} (input : TickInput)
    (hcar : isCarSafetyMode s.mode = true) : Countdown 0 (harnessPart board input s) := by
  simp only [harnessPart, guarded]
  split
  · exact reinitHarness_restarts hcar
  · apply Or.inr
    exact ⟨hcar, Nat.zero_le _, by omega⟩

/-- The driver part leaves the count alone when the harness is settled. -/
theorem harnessPart_countdown {board : Board} {n : Nat} {s : State} {input : TickInput}
    (hsettled : HarnessSettled board s (.tick input)) (hs : Countdown n s) :
    Countdown n (harnessPart board input s) := by
  rcases hs with hsilenced | hmissed
  · exact .inl (harnessPart_silenced input hsilenced)
  · simp only [harnessPart]
    rw [guarded_of_neg]
    · exact Countdown.congr (.inr hmissed) rfl rfl rfl
    · apply not_not_intro
      exact hsettled hmissed.car

/-- A tick counts the missing heartbeat when it runs the 1 Hz part. -/
theorem tickHandler_countdown {board : Board} {n : Nat} {s : State} {input : TickInput}
    (hs : Countdown n (harnessPart board input s)) :
    Countdown (n + (isSecondTick s (.tick input)).toNat) (tickHandler board input s) := by
  simp only [tickHandler, harnessPart_loopCounter]
  by_cases hsecond : s.loopCounter = 0
  · have hcounted : Countdown (n + 1) (secondTick board input (harnessPart board input s)) :=
      secondTick_countdown input hs
    rw [guarded_of_pos hsecond]
    simp only [isSecondTick, hsecond, beq_self_eq_true, Bool.toNat_true]
    exact hcounted.congr rfl rfl rfl
  · rw [guarded_of_neg hsecond]
    simp only [isSecondTick, beq_eq_false_iff_ne.mpr hsecond, Bool.toNat_false, Nat.add_zero]
    exact hs.congr rfl rfl rfl

theorem ignitionCanHook_countdown {n : Nat} {toPush : CANPacket} {s : State}
    (hs : Countdown n s) : Countdown n (ignitionCanHook toPush s) := by
  rw [ignitionCanHook_same toPush s]
  exact hs.congr rfl rfl rfl

theorem commsControlHandler_countdown {board : Board} {n : Nat} {req : ControlPacket} {s : State}
    (hhost : ¬ HostSign (.control req)) (hs : Countdown n s) :
    Countdown n (commsControlHandler board req s) := by
  simp only [HostSign, not_or] at hhost
  unfold commsControlHandler
  rw [if_neg hhost.1, if_neg hhost.2]
  split_ifs
  · exact hs.congr rfl rfl rfl
  · exact hs
  · exact hs.congr rfl rfl rfl
  · exact hs.congr rfl rfl rfl
  · exact hs
  · exact hs.congr rfl rfl rfl
  · exact hs

/-- No event but a host sign or a change of the harness holds the count back. -/
theorem step_countdown {board : Board} {n : Nat} {s : State} {e : Event} (hhost : ¬ HostSign e)
    (hsettled : HarnessSettled board s e) (hs : Countdown n s) :
    Countdown (n + (isSecondTick s e).toNat) (step board s e) := by
  cases e with
  | tick input => exact tickHandler_countdown (harnessPart_countdown hsettled hs)
  | rx ts toPush =>
      apply ignitionCanHook_countdown
      exact hs.congr rfl rfl rfl
  | tx ts toSend => exact hs.congr rfl rfl rfl
  | control req => exact commsControlHandler_countdown hhost hs
  | restart sensed => exact .inl (setSafetyMode_silenced _ _ _)

/-! ### Runs -/

theorem tick_countdown {board : Board} {s : State} {input : TickInput}
    (hcar : isCarSafetyMode s.mode = true) (hsecond : s.loopCounter = 0) :
    Countdown 1 (step board s (.tick input)) := by
  have hharness : Countdown 0 (harnessPart board input s) := harnessPart_restarts input hcar
  have hcounted := tickHandler_countdown hharness
  rw [isSecondTick, hsecond] at hcounted
  exact hcounted

theorem run_countdown {board : Board} {n : Nat} {s : State} {events : List Event}
    (hhost : ∀ e ∈ events, ¬ HostSign e)
    (hsettled : Along (step board) (HarnessSettled board) s events) (hs : Countdown n s) :
    Countdown (n + secondTicks board s events) (run (step board) s events) := by
  have hok := (Along.of_forall hhost s).and hsettled
  have hstart : Countdown (n + 0) s := hs
  apply ghost_preserves (P := fun k s => Countdown (n + k) s) _ hok hstart
  intro k t e hstep ht
  have hcounted := step_countdown hstep.1 hstep.2 ht
  rw [Nat.add_assoc] at hcounted
  exact hcounted

/-- Five 1 Hz ticks without a heartbeat, the first of them in a car mode, end in
SILENT with CAN silenced, unless the harness status changes in between. -/
theorem heartbeat_fallback {board : Board} {s : State} {input : TickInput} {events : List Event}
    (hcar : isCarSafetyMode s.mode = true) (hsecond : s.loopCounter = 0)
    (hhost : ∀ e ∈ events, ¬ HostSign e)
    (hticks : 4 ≤ secondTicks board (step board s (.tick input)) events)
    (hsettled : Along (step board) (HarnessSettled board) (step board s (.tick input)) events) :
    Silenced (run (step board) s (.tick input :: events)) := by
  have hcounted := run_countdown hhost hsettled (tick_countdown hcar hsecond)
  rcases hcounted with hsilenced | hmissed
  · exact hsilenced
  · have hbelow := hmissed.below
    omega

/-- The ticks of some seconds with the ignition on. -/
def ticks (sensed : HarnessStatus) (seconds : Nat) : List Event :=
  List.replicate (8 * seconds) (.tick { sensed, ignition := true, ts := 0 })

theorem ticks_hostSign (sensed : HarnessStatus) (seconds : Nat) :
    ∀ e ∈ ticks sensed seconds, ¬ HostSign e := by
  intro e he
  rw [List.eq_of_mem_replicate he]
  exact id

/-- The host sets a Toyota mode right after power on, without a harness. -/
def bootToyota : State :=
  step {} (powerOn {} .nc) (.control { request := 0xdc, param1 := safetyToyota, param2 := 0 })

theorem heartbeat_fallback_toyota : Silenced (run (step {}) bootToyota (ticks .nc 5)) := by
  apply heartbeat_fallback
  · decide
  · rfl
  · intro e he
    exact ticks_hostSign .nc 5 e (List.mem_cons_of_mem _ he)
  · decide
  · decide

/-- The harness is plugged in after the fourth second. -/
theorem heartbeat_postponed :
    isCarSafetyMode bootToyota.mode = true ∧
      (∀ e ∈ ticks .nc 4 ++ ticks .normal 1, ¬ HostSign e) ∧
      secondTicks {} bootToyota (ticks .nc 4 ++ ticks .normal 1) = 5 ∧
      ¬ Silenced (run (step {}) bootToyota (ticks .nc 4 ++ ticks .normal 1)) := by
  refine ⟨by decide, ?_, by decide, ?_⟩
  · intro e he
    rcases List.mem_append.mp he with hbefore | hafter
    · exact ticks_hostSign .nc 4 e hbefore
    · exact ticks_hostSign .normal 1 e hafter
  · intro hsilenced
    have hmode :
        (run (step {}) bootToyota (ticks .nc 4 ++ ticks .normal 1)).mode = safetyToyota := by
      decide
    rw [hsilenced.mode] at hmode
    cases hmode

end Panda.Main
