import Panda.Main.Machine

/-!
The exit of controls that openpilot does not use. The counter of the tick
handler is compared with the 1 Hz ticks that found controls on and
`heartbeat_engaged` false, counted beside the run: it counts those since the
last rising edge of `controls_allowed`, which the receive hook resets it at.
-/

namespace Panda.Main

open Library Safety

def State.controlsAllowed (s : State) : Bool := s.safety.signals.controlsAllowed

def risingEdge (board : Board) (s : State) (e : Event) : Bool :=
  !s.controlsAllowed && (step board s e).controlsAllowed

/-- The state in which a 1 Hz tick checks the use of controls. -/
def checked (board : Board) (s : State) : Event → Option State
  | .tick input => if s.loopCounter = 0 then some (harnessPart board input s) else none
  | _ => none

theorem checked_tick {board : Board} {s : State} {input : TickInput} (h : s.loopCounter = 0) :
    checked board s (.tick input) = some (harnessPart board input s) :=
  if_pos h

/-- Controls are on and openpilot is not engaged. -/
def State.unused (s : State) : Bool := s.controlsAllowed && !s.heartbeatEngaged

/-- The 1 Hz ticks that find controls unused, counted from the last rising edge
and the last 1 Hz tick that finds a state in which `restarts` holds. -/
def countUnused (board : Board) (restarts : State → Bool) (s : State) (e : Event) (n : Nat) : Nat :=
  if risingEdge board s e then 0
  else
    match checked board s e with
    | some t => if restarts t then 0 else n + t.unused.toNat
    | none => n

/-- The last 1 Hz ticks in a row that found controls unused. -/
def unusedInARow (board : Board) (s : State) (events : List Event) : Nat :=
  ghost (step board) (countUnused board fun t => !t.unused) 0 s events

/-- The 1 Hz ticks that found controls unused since the last that found
openpilot engaged. -/
def unusedSinceEngaged (board : Board) (s : State) (events : List Event) : Nat :=
  ghost (step board) (countUnused board State.heartbeatEngaged) 0 s events

/-- The check of the 1 Hz tick turns controls off. -/
def ExitsUnused (board : Board) (s : State) (input : TickInput) : Prop :=
  ∃ t, checked board s (.tick input) = some t ∧ t.controlsAllowed = true ∧
    (exitUnusedControls t.heartbeatEngaged t.safety).signals.controlsAllowed = false

/-- The host's request to set the safety mode. -/
def SetsMode : Event → Prop
  | .control req => req.request = 0xdc
  | _ => False

/-! ### The mode -/

theorem registered_ne_alloutput {mode : UInt16} (h : mode ≠ safetyAlloutput) :
    registered mode ≠ some .alloutput := by
  intro hall
  have hentries :
      ∀ entry ∈ safetyHookRegistry, entry.2 = .alloutput → entry.1 = safetyAlloutput := by
    decide
  exact h (hentries _ (registered_mem hall) rfl)

theorem isCarSafetyMode_ne_alloutput {mode : UInt16} (h : isCarSafetyMode mode = true) :
    mode ≠ safetyAlloutput := by
  rintro rfl
  cases h

theorem selectedMode_ne_alloutput {mode : UInt16} (h : mode ≠ safetyAlloutput) :
    selectedMode mode ≠ safetyAlloutput := by
  unfold selectedMode
  split
  · decide
  · exact h

/-- Setting a mode other than all output turns controls off. -/
theorem setSafetyMode_controls_off {mode : UInt16} (h : mode ≠ safetyAlloutput) (board : Board)
    (param : UInt16) (s : State) :
    (setSafetyMode board mode param s).controlsAllowed = false := by
  unfold State.controlsAllowed
  rw [setSafetyMode_safety]
  simp only [selectHooks]
  split
  · exact setSafetyHooks_controls_off (registered_ne_alloutput (by decide)) _ _
  · exact setSafetyHooks_controls_off (registered_ne_alloutput h) _ _

theorem reinitHarness_controls_off {s : State} (h : s.mode ≠ safetyAlloutput) (board : Board) :
    (reinitHarness board s).controlsAllowed = false :=
  setSafetyMode_controls_off h board _ _

/-- A machine that is not in all output mode, with the mismatches counted while
controls are on. -/
structure Counted (n : Nat) (s : State) : Prop where
  mode : s.mode ≠ safetyAlloutput
  counted : s.controlsAllowed = true → s.safety.heartbeatEngagedMismatches.toNat = n
  below : s.controlsAllowed = true → n < 3

theorem Counted.of_off {n : Nat} {s : State} (hmode : s.mode ≠ safetyAlloutput)
    (hoff : s.controlsAllowed = false) : Counted n s where
  mode := hmode
  counted := by
    intro hon
    rw [hoff] at hon
    cases hon
  below := by
    intro hon
    rw [hoff] at hon
    cases hon

theorem setSafetyMode_counted {mode : UInt16} (h : mode ≠ safetyAlloutput) (board : Board)
    (param : UInt16) (n : Nat) (s : State) : Counted n (setSafetyMode board mode param s) := by
  apply Counted.of_off
  · rw [setSafetyMode_mode]
    exact selectedMode_ne_alloutput h
  · exact setSafetyMode_controls_off h board param s

theorem Counted.mono {n : Nat} {s t : State} (h : Counted n s) (hmode : t.mode = s.mode)
    (hon : t.controlsAllowed = true → s.controlsAllowed = true)
    (hmismatches : t.safety.heartbeatEngagedMismatches = s.safety.heartbeatEngagedMismatches) :
    Counted n t where
  mode := by
    rw [hmode]
    exact h.mode
  counted := by
    intro ht
    rw [hmismatches]
    exact h.counted (hon ht)
  below := fun ht => h.below (hon ht)

/-! ### One event -/

/-- The driver part leaves the safety state alone, or turns controls off. -/
theorem harnessPart_counted {board : Board} {n : Nat} {s : State} (input : TickInput)
    (hs : Counted n s) : Counted n (harnessPart board input s) := by
  simp only [harnessPart, guarded]
  split
  · exact setSafetyMode_counted hs.mode board _ n _
  · exact ⟨hs.mode, hs.counted, hs.below⟩

theorem harnessPart_on {board : Board} {s : State} {input : TickInput}
    (hmode : s.mode ≠ safetyAlloutput)
    (hon : (harnessPart board input s).controlsAllowed = true) : s.controlsAllowed = true := by
  simp only [harnessPart, guarded] at hon
  split at hon
  · rw [reinitHarness_controls_off (by exact hmode)] at hon
    cases hon
  · exact hon

/-- Which states a check restarts the count at is the same while controls are
on. -/
def RestartsWhenUsed (restarts : State → Bool) : Prop :=
  ∀ t, t.controlsAllowed = true → restarts t = !t.unused

/-- The check counts as the ledger does. -/
theorem exitUnusedControls_counted {restarts : State → Bool} {n : Nat} {t : State}
    (hrestarts : RestartsWhenUsed restarts) (ht : Counted n t)
    (hon : (exitUnusedControls t.heartbeatEngaged t.safety).signals.controlsAllowed = true) :
    t.controlsAllowed = true ∧
      (exitUnusedControls t.heartbeatEngaged t.safety).heartbeatEngagedMismatches.toNat =
        (if restarts t then 0 else n + t.unused.toNat) ∧
      (if restarts t then 0 else n + t.unused.toNat) < 3 := by
  have hcontrols : t.safety.signals.controlsAllowed = true := by
    simp only [exitUnusedControls, Bool.and_eq_true] at hon
    exact hon.1
  have hcount := ht.counted hcontrols
  have hbelow := ht.below hcontrols
  have hrestart : restarts t = t.heartbeatEngaged := by
    rw [hrestarts t hcontrols, State.unused, State.controlsAllowed, hcontrols]
    simp
  refine ⟨hcontrols, ?_⟩
  rw [hrestart, State.unused, State.controlsAllowed, hcontrols]
  simp only [exitUnusedControls, hcontrols] at hon ⊢
  cases hengaged : t.heartbeatEngaged with
  | true => simp
  | false =>
      have hmismatches : (t.safety.heartbeatEngagedMismatches + 1).toNat = n + 1 := by
        rw [UInt32.toNat_add, hcount]
        have hone : (1 : UInt32).toNat = 1 := rfl
        omega
      have hkept : ¬ 3 ≤ t.safety.heartbeatEngagedMismatches + 1 := by
        simpa [hengaged] using hon
      have hless := UInt32.lt_iff_toNat_lt.mp (UInt32.not_le.mp hkept)
      rw [hmismatches] at hless
      exact ⟨hmismatches, hless⟩

theorem loseHeartbeat_counted {board : Board} {n : Nat} {s : State} (hs : Counted n s) :
    Counted n (loseHeartbeat board s) := by
  simp only [loseHeartbeat, guarded]
  split
  · have hsilent := setSafetyMode_counted (by decide : safetySilent ≠ safetyAlloutput) board 0 n
      { s with
        heartbeatLost := s.heartbeatLost || isCarSafetyMode s.mode
        heartbeatEngaged := false }
    exact ⟨hsilent.mode, hsilent.counted, hsilent.below⟩
  · exact ⟨hs.mode, hs.counted, hs.below⟩

/-- The check of the 1 Hz part, and what comes after it. -/
theorem secondTick_counted {board : Board} {restarts : State → Bool} {n : Nat} {t : State}
    (hrestarts : RestartsWhenUsed restarts) (input : TickInput) (ht : Counted n t) :
    Counted (if restarts t then 0 else n + t.unused.toNat) (secondTick board input t) := by
  have hchecked : Counted (if restarts t then 0 else n + t.unused.toNat)
      { countHeartbeat t with
        safety := exitUnusedControls t.heartbeatEngaged t.safety } := by
    constructor
    · exact ht.mode
    · intro hon
      exact (exitUnusedControls_counted hrestarts ht hon).2.1
    · intro hon
      exact (exitUnusedControls_counted hrestarts ht hon).2.2
  have hlost := guarded_preserves (f := loseHeartbeat board)
    (c := (countHeartbeat t).heartbeatDisabled = false ∧
      heartbeatLimit input (countHeartbeat t) ≤ (countHeartbeat t).heartbeatCounter)
    (fun _ => loseHeartbeat_counted) hchecked
  apply hlost.mono
  · rfl
  · intro hon
    simp only [State.controlsAllowed, secondTick, safetyTick, Bool.and_eq_true] at hon
    exact hon.1
  · rfl

theorem loseHeartbeat_on {board : Board} {s : State}
    (hon : (loseHeartbeat board s).controlsAllowed = true) : s.controlsAllowed = true := by
  simp only [loseHeartbeat, guarded] at hon
  split at hon
  · have hoff : (setSafetyMode board safetySilent 0
        { s with
          heartbeatLost := s.heartbeatLost || isCarSafetyMode s.mode
          heartbeatEngaged := false }).controlsAllowed = false :=
      setSafetyMode_controls_off (by decide) board 0 _
    cases hoff.symm.trans hon
  · exact hon

theorem secondTick_on {board : Board} {input : TickInput} {t : State}
    (hon : (secondTick board input t).controlsAllowed = true) : t.controlsAllowed = true := by
  simp only [secondTick, State.controlsAllowed, safetyTick, Bool.and_eq_true] at hon
  obtain ⟨hlost, -⟩ := hon
  revert hlost
  apply guarded_preserves (P := fun u : State => u.safety.signals.controlsAllowed = true →
    t.controlsAllowed = true)
  · intro _ hbefore hon
    exact hbefore (loseHeartbeat_on hon)
  · intro hon
    simp only [exitUnusedControls, Bool.and_eq_true] at hon
    exact hon.1

theorem tickHandler_on {board : Board} {input : TickInput} {s : State}
    (hmode : s.mode ≠ safetyAlloutput)
    (hon : (tickHandler board input s).controlsAllowed = true) : s.controlsAllowed = true := by
  have hharness : (harnessPart board input s).controlsAllowed = true → s.controlsAllowed = true :=
    harnessPart_on hmode
  apply hharness
  revert hon
  apply guarded_preserves (P := fun u : State => u.controlsAllowed = true →
    (harnessPart board input s).controlsAllowed = true)
  · intro _ _
    exact secondTick_on
  · exact id

theorem risingEdge_of_on {board : Board} {s : State} {e : Event}
    (h : (step board s e).controlsAllowed = true → s.controlsAllowed = true) :
    risingEdge board s e = false := by
  unfold risingEdge
  cases hon : (step board s e).controlsAllowed with
  | false => exact Bool.and_false _
  | true => rw [h hon]; rfl

/-- A tick counts as the ledger does. -/
theorem tickHandler_counted {board : Board} {restarts : State → Bool} {n : Nat} {s : State}
    (hrestarts : RestartsWhenUsed restarts) (input : TickInput) (hs : Counted n s) :
    Counted (countUnused board restarts s (.tick input) n) (tickHandler board input s) := by
  have hharness : Counted n (harnessPart board input s) := harnessPart_counted input hs
  have hedge : risingEdge board s (.tick input) = false := risingEdge_of_on (tickHandler_on hs.mode)
  simp only [countUnused, hedge, checked, tickHandler, harnessPart_loopCounter, guarded]
  by_cases hsecond : s.loopCounter = 0
  · have hcounted := @secondTick_counted board _ _ _ hrestarts input hharness
    simp only [if_pos hsecond]
    exact hcounted.mono rfl id rfl
  · simp only [if_neg hsecond]
    exact hharness.mono rfl id rfl

theorem rx_safety (board : Board) (s : State) (ts : UInt32) (toPush : CANPacket) :
    (step board s (.rx ts toPush)).safety = safetyRxHook ts toPush s.safety := by
  simp only [step]
  rw [ignitionCanHook_same]

/-- The receive hook restarts the count at a rising edge. -/
theorem rx_counted {board : Board} {restarts : State → Bool} {n : Nat} {s : State} (ts : UInt32)
    (toPush : CANPacket) (hs : Counted n s) :
    Counted (countUnused board restarts s (.rx ts toPush) n) (step board s (.rx ts toPush)) := by
  have hsafety := rx_safety board s ts toPush
  have hmismatches : (step board s (.rx ts toPush)).safety.heartbeatEngagedMismatches =
      if risingEdge board s (.rx ts toPush) then 0 else s.safety.heartbeatEngagedMismatches := by
    unfold risingEdge State.controlsAllowed
    rw [hsafety, Bool.and_comm]
    rfl
  have hmode : (step board s (.rx ts toPush)).mode = s.mode := by
    unfold State.mode
    rw [hsafety]
    rfl
  simp only [countUnused, checked]
  cases hedge : risingEdge board s (.rx ts toPush) with
  | true =>
      rw [hedge] at hmismatches
      constructor
      · rw [hmode]
        exact hs.mode
      · intro _
        rw [hmismatches]
        rfl
      · intro _
        exact Nat.zero_lt_succ 2
  | false =>
      rw [hedge] at hmismatches
      apply hs.mono hmode _ hmismatches
      intro hon
      unfold risingEdge at hedge
      rw [hon, Bool.and_true] at hedge
      simpa using hedge

/-- An event that reports nothing about controls leaves the count alone. -/
theorem quiet_counted {board : Board} {restarts : State → Bool} {n : Nat} {s : State} {e : Event}
    (hchecked : checked board s e = none) (hmode : (step board s e).mode = s.mode)
    (hon : (step board s e).controlsAllowed = s.controlsAllowed)
    (hmismatches : (step board s e).safety.heartbeatEngagedMismatches =
      s.safety.heartbeatEngagedMismatches) (hs : Counted n s) :
    Counted (countUnused board restarts s e n) (step board s e) := by
  have hkept : (step board s e).controlsAllowed = true → s.controlsAllowed = true := by
    intro h
    rw [← hon]
    exact h
  simp only [countUnused, risingEdge_of_on hkept, hchecked]
  exact hs.mono hmode hkept hmismatches

theorem control_counted {board : Board} {restarts : State → Bool} {n : Nat} {s : State}
    {req : ControlPacket} (hmode : ¬ SetsMode (.control req)) (hs : Counted n s) :
    Counted (countUnused board restarts s (.control req) n) (step board s (.control req)) := by
  have hkept : (commsControlHandler board req s).mode = s.mode ∧
      (commsControlHandler board req s).controlsAllowed = s.controlsAllowed ∧
      (commsControlHandler board req s).safety.heartbeatEngagedMismatches =
        s.safety.heartbeatEngagedMismatches := by
    unfold commsControlHandler
    rw [if_neg (by exact hmode : ¬ req.request = 0xdc)]
    split_ifs
    · exact ⟨rfl, rfl, rfl⟩
    · exact ⟨rfl, rfl, rfl⟩
    · exact ⟨rfl, rfl, rfl⟩
    · exact ⟨rfl, rfl, rfl⟩
    · exact ⟨rfl, rfl, rfl⟩
    · exact ⟨rfl, rfl, rfl⟩
    · exact ⟨rfl, rfl, rfl⟩
    · exact ⟨rfl, rfl, rfl⟩
  exact quiet_counted rfl hkept.1 hkept.2.1 hkept.2.2 hs

theorem step_counted {board : Board} {restarts : State → Bool} {n : Nat} {s : State} {e : Event}
    (hrestarts : RestartsWhenUsed restarts) (hmode : ¬ SetsMode e) (hs : Counted n s) :
    Counted (countUnused board restarts s e n) (step board s e) := by
  cases e with
  | tick input => exact tickHandler_counted hrestarts input hs
  | rx ts toPush => exact rx_counted ts toPush hs
  | tx ts toSend => exact quiet_counted rfl rfl rfl rfl hs
  | control req => exact control_counted hmode hs
  | restart sensed =>
      have hmode : safetySilent ≠ safetyAlloutput := by decide
      exact setSafetyMode_counted hmode board 0 _ _

/-- A check that turns controls off has counted to three. -/
theorem exitsUnused_counted {board : Board} {n : Nat} {s : State} {input : TickInput}
    (hs : Counted n s) (hexits : ExitsUnused board s input) :
    3 ≤ countUnused board State.heartbeatEngaged s (.tick input) n := by
  obtain ⟨t, hchecked, hcontrols, hoff⟩ := hexits
  have hedge : risingEdge board s (.tick input) = false := risingEdge_of_on (tickHandler_on hs.mode)
  simp only [countUnused, hedge, hchecked]
  have ht : Counted n t := by
    simp only [checked] at hchecked
    split at hchecked
    · rw [← Option.some.inj hchecked]
      exact harnessPart_counted input hs
    · cases hchecked
  have hcount := ht.counted hcontrols
  have hbelow := ht.below hcontrols
  simp only [State.controlsAllowed] at hcontrols
  cases hengaged : t.heartbeatEngaged with
  | true => simp [exitUnusedControls, hengaged, hcontrols] at hoff
  | false =>
      have hthree : 3 ≤ t.safety.heartbeatEngagedMismatches + 1 := by
        simpa [exitUnusedControls, hengaged, hcontrols] using hoff
      have hreached := UInt32.le_iff_toNat_le.mp hthree
      rw [UInt32.toNat_add, hcount] at hreached
      have hone : (1 : UInt32).toNat = 1 := rfl
      have hthree' : (3 : UInt32).toNat = 3 := rfl
      simp only [State.unused, State.controlsAllowed, hcontrols, hengaged, Bool.not_false,
        Bool.and_true, Bool.toNat_true, Bool.false_eq_true, if_false]
      omega

/-! ### Runs -/

theorem unused_restarts : RestartsWhenUsed fun t => !t.unused := by
  intro t _
  rfl

theorem heartbeatEngaged_restarts : RestartsWhenUsed State.heartbeatEngaged := by
  intro t hon
  rw [State.unused, hon]
  simp

theorem run_counted {board : Board} {restarts : State → Bool} {n : Nat} {s : State}
    {events : List Event} (hrestarts : RestartsWhenUsed restarts)
    (hmode : ∀ e ∈ events, ¬ SetsMode e) (hs : Counted n s) :
    Counted (ghost (step board) (countUnused board restarts) n s events)
      (run (step board) s events) := by
  apply ghost_preserves _ (Along.of_forall hmode s) hs
  intro n s e hok hs
  exact step_counted hrestarts hok hs

/-- In every run in a car mode: the third 1 Hz tick in a row that finds controls
unused leaves them off, and the check turns controls off only after three such
ticks since the last rising edge and the last tick with openpilot engaged. -/
theorem unused_controls_exit {board : Board} {mode param : UInt16} {before : State}
    (hcar : isCarSafetyMode mode = true) {events : List Event}
    (hmode : ∀ e ∈ events, ¬ SetsMode e) :
    (3 ≤ unusedInARow board (setSafetyMode board mode param before) events →
      (run (step board) (setSafetyMode board mode param before) events).controlsAllowed = false) ∧
    ∀ input, ExitsUnused board
        (run (step board) (setSafetyMode board mode param before) events) input →
      3 ≤ unusedSinceEngaged board (setSafetyMode board mode param before)
        (events ++ [.tick input]) := by
  have hstart := setSafetyMode_counted (isCarSafetyMode_ne_alloutput hcar) board param 0 before
  generalize setSafetyMode board mode param before = s at hstart
  constructor
  · intro hrow
    have hcounted : Counted (unusedInARow board s events) (run (step board) s events) :=
      run_counted unused_restarts hmode hstart
    cases hon : (run (step board) s events).controlsAllowed with
    | false => rfl
    | true =>
        have hbelow := hcounted.below hon
        omega
  · intro input hexits
    have hcounted : Counted (unusedSinceEngaged board s events) (run (step board) s events) :=
      run_counted heartbeatEngaged_restarts hmode hstart
    have hthree := exitsUnused_counted hcounted hexits
    unfold unusedSinceEngaged at hthree ⊢
    rw [ghost_append]
    exact hthree

/-- The body turns controls on, and two seconds pass. -/
def bodyUnused : List Event :=
  .rx 0 (.ofBytes 0x201 0 8 [0, 0, 0, 0, 0, 0, 0, 0]) ::
    List.replicate 16 (.tick { sensed := .nc, ignition := true, ts := 0 })

theorem bodyUnused_setsMode : ∀ e ∈ bodyUnused, ¬ SetsMode e := by
  intro e he
  rcases List.mem_cons.mp he with rfl | htick
  · exact id
  · rw [List.eq_of_mem_replicate htick]
    exact id

set_option maxRecDepth 4000 in
/-- The next tick turns controls off. -/
theorem unused_controls_exit_body :
    3 ≤ unusedSinceEngaged {} (setSafetyMode {} safetyBody 0 (powerOn {} .nc))
      (bodyUnused ++ [.tick { sensed := .nc, ignition := true, ts := 0 }]) := by
  apply (unused_controls_exit (by decide) bodyUnused_setsMode).2
  refine ⟨_, checked_tick ?_, ?_, ?_⟩
  · decide
  · decide
  · decide

end Panda.Main
