import Panda.Main.CanInterrupts
import Panda.Library.Transition

/-!
Power saving and the idle CAN controllers. Nothing but `set_power_save_state` turns
interrupts off, and it does nothing when the state is the one it has, so that an
initialisation while power is saved leaves the interrupts of an idle controller on.
-/

namespace Panda.Main.Controllers

open Library Safety

/-- While power is saved the interrupts of CAN2 and of the unused controller are off,
and otherwise all of them are on. -/
structure IdleCansOff (s : Controllers) : Prop where
  saving : s.main.powerSaveStatus = .enabled →
    s.irq 1 = false ∧ s.irq (unusedCan s.main.harness) = false
  awake : s.main.powerSaveStatus = .disabled → ∀ can, s.irq can = true

/-! ### Initialisations -/

/-- Whether `set_safety_mode` initialises the controller. -/
def safetyModeInits (board : CanBoard) (acks : Acks) (mode : UInt16) (can : Fin 3) : Bool :=
  (decide (selectedMode mode = safetyElm327 ∧ board.hasObd = true ∧ board.driver = .fdcan ∧
      can = 1) && acks 0 can) || acks 1 can

/-- The check of the heartbeat finds it gone, in another mode than SILENT. -/
def FallsBack (input : TickInput) (s : State) : Prop :=
  (s.heartbeatDisabled = false ∧ heartbeatLimit input s ≤ s.heartbeatCounter) ∧
    s.mode ≠ safetySilent

instance FallsBack.decidable (input : TickInput) (s : State) : Decidable (FallsBack input s) :=
  inferInstanceAs (Decidable (_ ∧ _))

/-- Whether the tick finds another harness status than the last one. -/
def harnessChanges (board : Board) (input : TickInput) (s : State) : Bool :=
  (harnessTick board input.sensed s.harness).status != s.prevHarnessStatus

/-- Whether an event initialises the controller, which acknowledges it. -/
def initialises (board : CanBoard) (s : Controllers) : Event → Fin 3 → Bool
  | .main (.tick input) acks, can =>
      (harnessChanges board.toBoard input s.main &&
          (acks 0 can || safetyModeInits board (acks.from 1) s.main.mode can)) ||
        (decide (s.main.loopCounter = 0 ∧ FallsBack input
            (beforeHeartbeatCheck (Main.harnessPart board.toBoard input s.main))) && acks 4 can)
  | .main (.control req) acks, can =>
      if req.request = 0xdc then safetyModeInits board acks req.param1 can
      else if req.request = 0xe5 then acks 0 can
      else if req.request = 0xe7 then false
      else decide (s.setupCan board req = some can) && acks 0 can
  | .main (.restart _) acks, can => acks 1 can
  | .main (.rx _ _) _, _ | .main (.tx _ _) _, _ | .busError _ _, _ => false

/-- The harness after the event. -/
def nextHarness (board : CanBoard) (s : Controllers) : Event → Harness
  | .main (.tick input) _ => harnessTick board.toBoard input.sensed s.main.harness
  | _ => s.main.harness

/-- At a restart all controllers acknowledge. While power is saved no event initialises
an idle controller, or leaves another one unused. -/
def KeepsIdle (board : CanBoard) (s : Controllers) : Event → Prop
  | .main (.restart _) acks => ∀ can, acks 1 can = true
  | e => s.main.powerSaveStatus = .enabled →
      initialises board s e 1 = false ∧
        initialises board s e (unusedCan s.main.harness) = false ∧
        unusedCan (nextHarness board s e) = unusedCan s.main.harness

/-! ### Interrupts -/

theorem llcanInit_irq (ack : Fin 3 → Bool) (can i : Fin 3) (s : Controllers) :
    (s.llcanInit ack can).irq i = (s.irq i || (decide (i = can) && ack i)) := by
  unfold llcanInit llcanIrqEnable
  by_cases hcan : i = can
  · subst hcan
    cases hack : ack i with
    | false => simp
    | true => simp
  · cases ack can with
    | false => simp [hcan]
    | true => simp [hcan]

theorem canInitAll_irq (ack : Fin 3 → Bool) (i : Fin 3) (s : Controllers) :
    (s.canInitAll ack).irq i = (s.irq i || ack i) := by
  simp only [canInitAll, canInit, llcanInit_irq]
  fin_cases i
  · simp
  · simp
  · simp

theorem canClearSend_irq (board : CanBoard) (ack : Fin 3 → Bool) (can i : Fin 3)
    (s : Controllers) :
    (s.canClearSend board ack can).irq i =
      (s.irq i || (decide (board.driver = .fdcan ∧ i = can) && ack i)) := by
  unfold canClearSend
  split
  · rename_i hfdcan
    rw [llcanInit_irq]
    simp [hfdcan]
  · rename_i hbxcan
    simp [hbxcan]

theorem setSafetyMode_irq (board : CanBoard) (acks : Acks) (mode param : UInt16) (i : Fin 3)
    (s : Controllers) :
    (s.setSafetyMode board acks mode param).irq i =
      (s.irq i || safetyModeInits board acks mode i) := by
  simp only [setSafetyMode, canInitAll_irq, safetyModeInits, guarded]
  split
  · rename_i helm
    rw [canClearSend_irq]
    simp [helm.1, helm.2, Bool.or_assoc]
  · rename_i hother
    have hnone : ¬ (selectedMode mode = safetyElm327 ∧ board.hasObd = true ∧
        board.driver = .fdcan ∧ i = 1) := by
      rintro ⟨hmode, hobd, -⟩
      exact hother ⟨hmode, hobd⟩
    simp [hnone]

/-! ### Steps that only turn interrupts on -/

/-- The second state keeps the power save status, has the interrupts of more
controllers on, and has the given controller unused. -/
structure Grown (more : Fin 3 → Bool) (unused : Fin 3) (s t : Controllers) : Prop where
  status : t.main.powerSaveStatus = s.main.powerSaveStatus
  harness : unusedCan t.main.harness = unused
  irq : ∀ can, t.irq can = (s.irq can || more can)

/-- Since power saving leaves the controller in use alone, one of the outer controllers
is on. -/
def UsedOn (s : Controllers) : Prop := s.irq 0 = true ∨ s.irq 2 = true

theorem unusedCan_outer (harness : Harness) : unusedCan harness = 0 ∨ unusedCan harness = 2 := by
  unfold unusedCan
  split
  · exact .inl rfl
  · exact .inr rfl

theorem UsedOn.irq_of_ne {s : Controllers} (h : UsedOn s) {i j : Fin 3} (hi : i = 0 ∨ i = 2)
    (hj : j = 0 ∨ j = 2) (hne : j ≠ i) (hoff : s.irq i = false) : s.irq j = true := by
  unfold UsedOn at h
  rcases hi with rfl | rfl
  · rcases hj with rfl | rfl
    · exact absurd rfl hne
    · exact h.resolve_left (Bool.eq_false_iff.mp hoff)
  · rcases hj with rfl | rfl
    · exact h.resolve_right (Bool.eq_false_iff.mp hoff)
    · exact absurd rfl hne

theorem UsedOn.irq_eq {s : Controllers} (h : UsedOn s) {harness other : Harness}
    (hunused : s.irq (unusedCan harness) = false) (hother : s.irq (unusedCan other) = false) :
    unusedCan other = unusedCan harness := by
  by_contra hne
  have hon := h.irq_of_ne (unusedCan_outer harness) (unusedCan_outer other) hne hunused
  rw [hon] at hother
  cases hother

theorem UsedOn.grown {more : Fin 3 → Bool} {unused : Fin 3} {s t : Controllers} (h : UsedOn s)
    (hgrown : Grown more unused s t) : UsedOn t := by
  unfold UsedOn
  rw [hgrown.irq, hgrown.irq]
  rcases h with hzero | htwo
  · simp [hzero]
  · simp [htwo]

/-- Interrupts that come on are those of idle controllers exactly where power saving
is broken. -/
theorem Grown.idle_iff {more : Fin 3 → Bool} {unused : Fin 3} {s t : Controllers}
    (h : Grown more unused s t) (hidle : IdleCansOff s) (hused : UsedOn s) :
    IdleCansOff t ↔ (s.main.powerSaveStatus = .enabled →
      more 1 = false ∧ more (unusedCan s.main.harness) = false ∧
        unused = unusedCan s.main.harness) := by
  constructor
  · intro hafter hsaving
    obtain ⟨hone, hunused⟩ := hidle.saving hsaving
    obtain ⟨hone', hunused'⟩ := hafter.saving (h.status.trans hsaving)
    rw [h.irq] at hone' hunused'
    obtain ⟨hbefore, hmore⟩ := Bool.or_eq_false_iff.mp hunused'
    have hsame : unusedCan t.main.harness = unusedCan s.main.harness :=
      hused.irq_eq hunused hbefore
    refine ⟨(Bool.or_eq_false_iff.mp hone').2, ?_, h.harness.symm.trans hsame⟩
    rw [← hsame]
    exact hmore
  · intro hok
    constructor
    · intro hsaving
      rw [h.status] at hsaving
      obtain ⟨hone, hunused⟩ := hidle.saving hsaving
      obtain ⟨hmore, hmore', hsame⟩ := hok hsaving
      rw [h.harness, hsame, h.irq, h.irq, hone, hunused, hmore, hmore']
      exact ⟨rfl, rfl⟩
    · intro hawake can
      rw [h.status] at hawake
      rw [h.irq, hidle.awake hawake can, Bool.true_or]

theorem Grown.trans {more more' : Fin 3 → Bool} {unused unused' : Fin 3} {s t u : Controllers}
    (h : Grown more unused s t) (h' : Grown more' unused' t u) :
    Grown (fun can => more can || more' can) unused' s u where
  status := h'.status.trans h.status
  harness := h'.harness
  irq can := by rw [h'.irq, h.irq, Bool.or_assoc]

/-- The states agree in what power saving is about. -/
structure SameSaving (s t : Controllers) : Prop where
  status : t.main.powerSaveStatus = s.main.powerSaveStatus
  harness : t.main.harness = s.main.harness
  irq : t.irq = s.irq

theorem SameSaving.trans {s t u : Controllers} (h : SameSaving s t) (h' : SameSaving t u) :
    SameSaving s u :=
  ⟨h'.status.trans h.status, h'.harness.trans h.harness, h'.irq.trans h.irq⟩

theorem SameSaving.idle {s t : Controllers} (h : SameSaving s t) (hidle : IdleCansOff s) :
    IdleCansOff t := by
  constructor
  · rw [h.status, h.harness, h.irq]
    exact hidle.saving
  · rw [h.status, h.irq]
    exact hidle.awake

theorem SameSaving.usedOn {s t : Controllers} (h : SameSaving s t) (hused : UsedOn s) :
    UsedOn t := by
  unfold UsedOn
  rw [h.irq]
  exact hused

theorem Grown.congr {more : Fin 3 → Bool} {unused : Fin 3} {s t u : Controllers}
    (h : Grown more unused s t) (hsame : SameSaving t u) : Grown more unused s u where
  status := hsame.status.trans h.status
  harness := by rw [hsame.harness, h.harness]
  irq can := by rw [hsame.irq, h.irq]

/-! ### Power saving -/

theorem setPowerSaveState_irq {s : Controllers} {state : PowerSaveStatus}
    (hstate : state ≠ s.main.powerSaveStatus) (can : Fin 3) :
    (s.setPowerSaveState state).irq can =
      if can = 1 ∨ can = unusedCan s.main.harness then decide (state = .disabled)
      else s.irq can := by
  unfold setPowerSaveState
  rw [if_pos hstate]
  cases state with
  | enabled =>
      simp only [if_pos, llcanIrqDisable, Function.update_apply]
      by_cases hone : can = 1
      · simp [hone]
      · simp [hone]
  | disabled =>
      simp only [reduceCtorEq, if_false, llcanIrqEnable, Function.update_apply]
      by_cases hone : can = 1
      · simp [hone]
      · simp [hone]

theorem setPowerSaveState_same {s : Controllers} {state : PowerSaveStatus}
    (hstate : state = s.main.powerSaveStatus) : s.setPowerSaveState state = s := by
  unfold setPowerSaveState
  exact if_neg (not_not_intro hstate)

/-- A controller that is not among those that power saving switches. -/
theorem exists_used (harness : Harness) :
    ∃ used : Fin 3, (used = 0 ∨ used = 2) ∧ used ≠ unusedCan harness ∧
      ∀ can, can ≠ used → can = 1 ∨ can = unusedCan harness := by
  rcases unusedCan_outer harness with hzero | htwo
  · rw [hzero]
    exact ⟨2, by decide⟩
  · rw [htwo]
    exact ⟨0, by decide⟩

/-- Power saving that sets in turns the idle controllers off, and power saving that
ends turns all on. -/
theorem setPowerSaveState_idle {s : Controllers} (state : PowerSaveStatus) (hidle : IdleCansOff s)
    (hused : UsedOn s) :
    IdleCansOff (s.setPowerSaveState state) ∧ UsedOn (s.setPowerSaveState state) := by
  by_cases hsame : state = s.main.powerSaveStatus
  · rw [setPowerSaveState_same hsame]
    exact ⟨hidle, hused⟩
  have hirq := setPowerSaveState_irq hsame
  obtain ⟨used, houter, hne, hrest⟩ := exists_used s.main.harness
  have hkept : (s.setPowerSaveState state).irq used = s.irq used := by
    rw [hirq, if_neg]
    rintro (hone | hunused)
    · rcases houter with rfl | rfl
      · cases hone
      · cases hone
    · exact hne hunused
  have hon : s.irq used = true := by
    cases hstatus : s.main.powerSaveStatus with
    | enabled =>
        exact hused.irq_of_ne (unusedCan_outer _) houter hne (hidle.saving hstatus).2
    | disabled => exact hidle.awake hstatus used
  constructor
  · constructor
    · intro hsaving
      have hstate : state = .enabled := by
        rw [setPowerSaveState_main] at hsaving
        exact hsaving
      rw [setPowerSaveState_main, hirq, hirq, if_pos (.inl rfl), if_pos (by exact .inr rfl), hstate]
      exact ⟨rfl, rfl⟩
    · intro hawake can
      have hstate : state = .disabled := by
        rw [setPowerSaveState_main] at hawake
        exact hawake
      by_cases hcan : can = used
      · rw [hcan, hkept]
        exact hon
      · rw [hirq, if_pos (hrest can hcan), hstate]
        rfl
  · rcases houter with rfl | rfl
    · exact .inl (hkept.trans hon)
    · exact .inr (hkept.trans hon)

/-! ### Each event -/

theorem setInterceptRelay_status (board : Board) (intercept ignitionRelay : Bool)
    (harness : Harness) :
    (setInterceptRelay board intercept ignitionRelay harness).status = harness.status := by
  unfold setInterceptRelay
  split
  · rfl
  · rfl

theorem setSafetyMode_harness (board : Board) (mode param : UInt16) (s : State) :
    (Main.setSafetyMode board mode param s).harness.status = s.harness.status := by
  simp only [Main.setSafetyMode]
  split_ifs
  · exact setInterceptRelay_status _ _ _ _
  · exact setInterceptRelay_status _ _ _ _
  · exact setInterceptRelay_status _ _ _ _
  · exact setInterceptRelay_status _ _ _ _

/-- The requests that the main loop takes by itself. -/
theorem handler_saving {req : ControlPacket} (hmode : req.request ≠ 0xdc)
    (hpower : req.request ≠ 0xe7) (board : Board) (s : State) :
    (Main.commsControlHandler board req s).powerSaveStatus = s.powerSaveStatus ∧
      (Main.commsControlHandler board req s).harness.status = s.harness.status := by
  unfold Main.commsControlHandler
  rw [if_neg hmode, if_neg hpower]
  split_ifs
  · exact ⟨rfl, setInterceptRelay_status _ _ _ _⟩
  · exact ⟨rfl, rfl⟩
  · exact ⟨rfl, rfl⟩
  · exact ⟨rfl, rfl⟩
  · exact ⟨rfl, rfl⟩
  · exact ⟨rfl, rfl⟩
  · exact ⟨rfl, rfl⟩

theorem unusedCan_congr {harness other : Harness} (h : harness.status = other.status) :
    unusedCan harness = unusedCan other := by
  unfold unusedCan
  rw [h]

theorem setSafetyMode_grown (board : CanBoard) (acks : Acks) (mode param : UInt16)
    (s : Controllers) :
    Grown (safetyModeInits board acks mode) (unusedCan s.main.harness) s
      (s.setSafetyMode board acks mode param) where
  status := by
    rw [setSafetyMode_main]
    exact setSafetyMode_powerSaveStatus _ _ _ _
  harness := by
    rw [setSafetyMode_main]
    exact unusedCan_congr (setSafetyMode_harness _ _ _ _)
  irq can := setSafetyMode_irq board acks mode param can s

theorem canInitAll_grown (ack : Fin 3 → Bool) (s : Controllers) :
    Grown ack (unusedCan s.main.harness) s (s.canInitAll ack) where
  status := by rw [canInitAll_main]
  harness := by rw [canInitAll_main]
  irq can := canInitAll_irq ack can s

theorem reinitHarness_grown (board : CanBoard) (acks : Acks) (s : Controllers) :
    Grown (fun can => acks 0 can || safetyModeInits board (acks.from 1) s.main.mode can)
      (unusedCan s.main.harness) s (s.reinitHarness board acks) := by
  unfold reinitHarness
  generalize hstart : canSetOrientation (decide (s.main.harness.status = .flipped))
    { s with main := { s.main with prevHarnessStatus := s.main.harness.status } } = start
  have hinit := canInitAll_grown (acks 0) start
  have hmode := setSafetyMode_grown board (acks.from 1) s.main.mode
    s.main.safety.currentSafetyParam (start.canInitAll (acks 0))
  have hboth := hinit.trans hmode
  have hsame : SameSaving s start := by
    rw [← hstart]
    exact ⟨rfl, rfl, rfl⟩
  rw [setPowerSaveState_same (hsame.status.symm.trans hboth.status.symm)]
  refine ⟨hboth.status.trans hsame.status, ?_, ?_⟩
  · rw [hboth.harness, canInitAll_main, hsame.harness]
  · intro can
    rw [hboth.irq, hsame.irq]

theorem harnessPart_grown (board : CanBoard) (input : TickInput) (acks : Acks) (s : Controllers) :
    Grown
      (fun can => harnessChanges board.toBoard input s.main &&
        (acks 0 can || safetyModeInits board (acks.from 1) s.main.mode can))
      (unusedCan (harnessTick board.toBoard input.sensed s.main.harness)) s
      (s.harnessPart board input acks) := by
  unfold harnessPart
  simp only
  by_cases hchanged :
      (harnessTick board.toBoard input.sensed s.main.harness).status = s.main.prevHarnessStatus
  · rw [guarded_of_neg (by exact not_not_intro hchanged)]
    have hsame : harnessChanges board.toBoard input s.main = false := by
      simp [harnessChanges, hchanged]
    constructor
    · rfl
    · rfl
    · intro can
      simp [hsame]
  · rw [guarded_of_pos (by exact hchanged)]
    have hdiff : harnessChanges board.toBoard input s.main = true := by
      simp [harnessChanges, hchanged]
    have hgrown := reinitHarness_grown board acks
      { s with main := { s.main with
          harness := harnessTick board.toBoard input.sensed s.main.harness } }
    constructor
    · exact hgrown.status
    · exact hgrown.harness
    · intro can
      rw [hgrown.irq, hdiff]
      rfl

theorem safetyModeInits_silent (board : CanBoard) (acks : Acks) (can : Fin 3) :
    safetyModeInits board acks safetySilent can = acks 1 can := by
  have hmode : ¬ (selectedMode safetySilent = safetyElm327 ∧ board.hasObd = true ∧
      board.driver = .fdcan ∧ can = 1) := by
    rintro ⟨hmode, -⟩
    exact absurd hmode (by decide)
  simp [safetyModeInits, hmode]

theorem loseHeartbeat_eq (board : CanBoard) (acks : Acks) (s : Controllers) :
    ∃ t, Grown (fun can => decide (s.main.mode ≠ safetySilent) && acks 1 can)
        (unusedCan s.main.harness) s t ∧
      s.loseHeartbeat board acks = t.setPowerSaveState .enabled := by
  unfold loseHeartbeat
  generalize hstart : ({ s with main := { s.main with
      heartbeatLost := s.main.heartbeatLost || isCarSafetyMode s.main.mode
      heartbeatEngaged := false } } : Controllers) = start
  have hsame : SameSaving s start := by
    rw [← hstart]
    exact ⟨rfl, rfl, rfl⟩
  have hmode : Grown (fun can => decide (s.main.mode ≠ safetySilent) && acks 1 can)
      (unusedCan s.main.harness) s
      (guarded (s.main.mode ≠ safetySilent) (setSafetyMode board acks safetySilent 0) start) := by
    by_cases hsilent : s.main.mode = safetySilent
    · rw [guarded_of_neg (not_not_intro hsilent)]
      refine ⟨hsame.status, by rw [hsame.harness], ?_⟩
      intro can
      rw [hsame.irq]
      simp [hsilent]
    · rw [guarded_of_pos hsilent]
      have hset := setSafetyMode_grown board acks safetySilent 0 start
      refine ⟨hset.status.trans hsame.status, by rw [hset.harness, hsame.harness], ?_⟩
      intro can
      rw [hset.irq, hsame.irq, safetyModeInits_silent]
      simp [hsilent]
  refine ⟨_, hmode, ?_⟩
  by_cases henabled : s.main.powerSaveStatus = .enabled
  · rw [guarded_of_neg (not_not_intro henabled), setPowerSaveState_same]
    exact (hmode.status.trans henabled).symm
  · exact guarded_of_pos henabled _ _

theorem checkHeartbeat_eq (board : CanBoard) (input : TickInput) (acks : Acks) (s : Controllers) :
    ∃ t, Grown (fun can => decide (FallsBack input s.main) && acks 1 can)
        (unusedCan s.main.harness) s t ∧
      (s.checkHeartbeat board input acks = t ∨
        s.checkHeartbeat board input acks = t.setPowerSaveState .enabled) := by
  unfold checkHeartbeat
  by_cases hlost : s.main.heartbeatDisabled = false ∧
      heartbeatLimit input s.main ≤ s.main.heartbeatCounter
  · rw [guarded_of_pos hlost]
    obtain ⟨t, hgrown, heq⟩ := loseHeartbeat_eq board acks s
    refine ⟨t, ⟨hgrown.status, hgrown.harness, ?_⟩, .inr heq⟩
    intro can
    rw [hgrown.irq]
    simp [FallsBack, hlost]
  · rw [guarded_of_neg hlost]
    refine ⟨s, ⟨rfl, rfl, ?_⟩, .inl rfl⟩
    intro can
    simp [FallsBack, hlost]

theorem secondTick_eq (board : CanBoard) (input : TickInput) (acks : Acks) (s : Controllers) :
    ∃ t, Grown (fun can => decide (FallsBack input (beforeHeartbeatCheck s.main)) && acks 1 can)
        (unusedCan s.main.harness) s t ∧
      (SameSaving t (s.secondTick board input acks) ∨
        SameSaving (t.setPowerSaveState .enabled) (s.secondTick board input acks)) := by
  have hafter : ∀ t : Controllers,
      SameSaving t { t with main := afterHeartbeatCheck input t.main } := by
    intro t
    exact ⟨rfl, rfl, rfl⟩
  obtain ⟨t, hgrown, heq⟩ :=
    checkHeartbeat_eq board input acks { s with main := beforeHeartbeatCheck s.main }
  refine ⟨t, ⟨hgrown.status, hgrown.harness, hgrown.irq⟩, ?_⟩
  simp only [secondTick]
  rcases heq with heq | heq
  · rw [heq]
    exact .inl (hafter t)
  · rw [heq]
    exact .inr (hafter _)

theorem tickHandler_eq (board : CanBoard) (input : TickInput) (acks : Acks) (s : Controllers) :
    ∃ t, Grown (initialises board s (.main (.tick input) acks))
        (unusedCan (nextHarness board s (.main (.tick input) acks))) s t ∧
      (SameSaving t (s.tickHandler board input acks) ∨
        SameSaving (t.setPowerSaveState .enabled) (s.tickHandler board input acks)) := by
  have hcount : ∀ t : Controllers,
      SameSaving t
        { t with main := { t.main with loopCounter := (t.main.loopCounter + 1) % 8 } } := by
    intro t
    exact ⟨rfl, rfl, rfl⟩
  have hharness := harnessPart_grown board input acks s
  have hmain := harnessPart_main board input acks s
  have hloop := harnessPart_loopCounter board.toBoard input s.main
  simp only [tickHandler]
  generalize s.harnessPart board input acks = u at hharness hmain
  rw [← hmain] at hloop
  by_cases hsecond : u.main.loopCounter = 0
  · rw [guarded_of_pos hsecond]
    obtain ⟨t, hgrown, heq⟩ := secondTick_eq board input (acks.from 3) u
    have hboth := hharness.trans hgrown
    refine ⟨t, ⟨hboth.status, hboth.harness.trans hharness.harness, ?_⟩, ?_⟩
    · intro can
      rw [hboth.irq]
      simp only [initialises, ← hmain, ← hloop, hsecond, true_and]
      rfl
    · rcases heq with heq | heq
      · exact .inl (heq.trans (hcount _))
      · exact .inr (heq.trans (hcount _))
  · rw [guarded_of_neg hsecond]
    refine ⟨u, ⟨hharness.status, hharness.harness, ?_⟩, .inl (hcount u)⟩
    intro can
    rw [hharness.irq]
    simp [initialises, ← hloop, hsecond]

/-! ### Runs -/

/-- A request other than the one for the power save state only initialises controllers. -/
theorem commsControlHandler_grown (board : CanBoard) {req : ControlPacket}
    (hpower : req.request ≠ 0xe7) (acks : Acks) (s : Controllers) :
    Grown (initialises board s (.main (.control req) acks)) (unusedCan s.main.harness) s
      (s.commsControlHandler board req acks) := by
  unfold commsControlHandler
  by_cases hmode : req.request = 0xdc
  · rw [if_pos hmode]
    have hgrown := setSafetyMode_grown board acks req.param1 req.param2 s
    refine ⟨hgrown.status, hgrown.harness, ?_⟩
    intro can
    rw [hgrown.irq]
    simp [initialises, hmode]
  rw [if_neg hmode]
  by_cases hloopback : req.request = 0xe5
  · rw [if_pos hloopback]
    have hgrown := canInitAll_grown (acks 0) s
    refine ⟨hgrown.status, hgrown.harness, ?_⟩
    intro can
    rw [hgrown.irq]
    simp [initialises, hloopback]
  rw [if_neg hloopback, if_neg hpower]
  cases hsetup : s.setupCan board req with
  | some setup =>
      simp only
      refine ⟨by rw [canInit_main], by rw [canInit_main], ?_⟩
      intro can
      rw [canInit, llcanInit_irq]
      simp [initialises, hmode, hloopback, hpower, hsetup, eq_comm]
  | none =>
      obtain ⟨hstatus, hharness⟩ := handler_saving hmode hpower board.toBoard s.main
      refine ⟨hstatus, unusedCan_congr hharness, ?_⟩
      intro can
      simp [initialises, hmode, hloopback, hpower, hsetup]

theorem tickHandler_iff (board : CanBoard) (input : TickInput) (acks : Acks) {s : Controllers}
    (hidle : IdleCansOff s) (hused : UsedOn s) :
    (IdleCansOff (s.tickHandler board input acks) ↔
        KeepsIdle board s (.main (.tick input) acks)) ∧
      UsedOn (s.tickHandler board input acks) := by
  obtain ⟨t, hgrown, heq⟩ := tickHandler_eq board input acks s
  have ht : UsedOn t := hused.grown hgrown
  cases hstatus : s.main.powerSaveStatus with
  | enabled =>
      have hsame : t.setPowerSaveState .enabled = t :=
        setPowerSaveState_same (hgrown.status.trans hstatus).symm
      rw [hsame, or_self] at heq
      exact ⟨(hgrown.congr heq).idle_iff hidle hused, heq.usedOn ht⟩
  | disabled =>
      have hawake : ¬ s.main.powerSaveStatus = .enabled := by
        rw [hstatus]
        exact PowerSaveStatus.noConfusion
      have hafter : IdleCansOff t :=
        (hgrown.idle_iff hidle hused).mpr fun henabled => absurd henabled hawake
      have hkeeps : KeepsIdle board s (.main (.tick input) acks) :=
        fun henabled => absurd henabled hawake
      rcases heq with heq | heq
      · exact ⟨iff_of_true (heq.idle hafter) hkeeps, heq.usedOn ht⟩
      · obtain ⟨hsaved, hused'⟩ := setPowerSaveState_idle .enabled hafter ht
        exact ⟨iff_of_true (heq.idle hsaved) hkeeps, heq.usedOn hused'⟩

theorem commsControlHandler_iff (board : CanBoard) (req : ControlPacket) (acks : Acks)
    {s : Controllers} (hidle : IdleCansOff s) (hused : UsedOn s) :
    (IdleCansOff (s.commsControlHandler board req acks) ↔
        KeepsIdle board s (.main (.control req) acks)) ∧
      UsedOn (s.commsControlHandler board req acks) := by
  by_cases hpower : req.request = 0xe7
  · have hkeeps : KeepsIdle board s (.main (.control req) acks) := by
      intro _
      simp [initialises, nextHarness, hpower]
    have hafter : IdleCansOff (s.commsControlHandler board req acks) ∧
        UsedOn (s.commsControlHandler board req acks) := by
      unfold commsControlHandler
      rw [if_neg (by rw [hpower]; decide), if_neg (by rw [hpower]; decide), if_pos hpower]
      cases powerSaveStatusOf req.param1 with
      | none => exact ⟨hidle, hused⟩
      | some state => exact setPowerSaveState_idle state hidle hused
    exact ⟨iff_of_true hafter.1 hkeeps, hafter.2⟩
  · have hgrown := commsControlHandler_grown board hpower acks s
    exact ⟨hgrown.idle_iff hidle hused, hused.grown hgrown⟩

theorem powerOn_grown (board : CanBoard) (sensed : HarnessStatus) (acks : Acks) :
    (powerOn board sensed acks).main.powerSaveStatus = .disabled ∧
      ∀ can, (powerOn board sensed acks).irq can = acks 1 can := by
  have hgrown := setSafetyMode_grown board acks safetySilent 0
    { main := { harness := harnessInit board.toBoard sensed } }
  refine ⟨hgrown.status, ?_⟩
  intro can
  unfold powerOn
  rw [hgrown.irq, safetyModeInits_silent, Bool.false_or]

theorem powerOn_iff (board : CanBoard) (sensed : HarnessStatus) (acks : Acks) :
    IdleCansOff (powerOn board sensed acks) ↔ ∀ can, acks 1 can = true := by
  obtain ⟨hstatus, hirq⟩ := powerOn_grown board sensed acks
  constructor
  · intro hidle can
    rw [← hirq]
    exact hidle.awake hstatus can
  · intro hacks
    constructor
    · intro henabled
      rw [hstatus] at henabled
      cases henabled
    · intro _ can
      rw [hirq, hacks]

theorem IdleCansOff.usedOn_powerOn {board : CanBoard} {sensed : HarnessStatus} {acks : Acks}
    (h : IdleCansOff (powerOn board sensed acks)) : UsedOn (powerOn board sensed acks) :=
  .inl (h.awake (powerOn_grown board sensed acks).1 0)

theorem hooks_same (board : Board) {e : Main.Event} {s : State} {t : Controllers}
    (h : (∃ ts toPush, e = .rx ts toPush) ∨ ∃ ts toSend, e = .tx ts toSend) :
    SameSaving { t with main := s } { t with main := Main.step board s e } := by
  rcases h with ⟨ts, toPush, rfl⟩ | ⟨ts, toSend, rfl⟩
  · change SameSaving _ { t with main := ignitionCanHook toPush _ }
    rw [ignitionCanHook_same toPush]
    exact ⟨rfl, rfl, rfl⟩
  · exact ⟨rfl, rfl, rfl⟩

theorem busError_same (board : CanBoard) (ack : Fin 3 → Bool) (can : Fin 3) (s : Controllers) :
    SameSaving s (guarded (s.irq can = true) (canClearSend board ack can) s) := by
  by_cases hon : s.irq can = true
  · rw [guarded_of_pos hon]
    refine ⟨by rw [canClearSend_main], by rw [canClearSend_main], ?_⟩
    funext i
    rw [canClearSend_irq]
    by_cases hi : i = can
    · rw [hi, hon, Bool.true_or]
    · simp [hi]
  · rw [guarded_of_neg hon]
    exact ⟨rfl, rfl, rfl⟩

theorem SameSaving.step_iff {board : CanBoard} {s : Controllers} {e : Event}
    (h : SameSaving s (step board s e)) (hkeeps : KeepsIdle board s e) (hidle : IdleCansOff s)
    (hused : UsedOn s) :
    (IdleCansOff (step board s e) ↔ KeepsIdle board s e) ∧
      (IdleCansOff (step board s e) → UsedOn (step board s e)) :=
  ⟨iff_of_true (h.idle hidle) hkeeps, fun _ => h.usedOn hused⟩

theorem step_iff (board : CanBoard) {s : Controllers} (e : Event) (hidle : IdleCansOff s)
    (hused : UsedOn s) :
    (IdleCansOff (step board s e) ↔ KeepsIdle board s e) ∧
      (IdleCansOff (step board s e) → UsedOn (step board s e)) := by
  cases e with
  | main e acks =>
      cases e with
      | tick input =>
          obtain ⟨hiff, hused'⟩ := tickHandler_iff board input acks hidle hused
          exact ⟨hiff, fun _ => hused'⟩
      | control req =>
          obtain ⟨hiff, hused'⟩ := commsControlHandler_iff board req acks hidle hused
          exact ⟨hiff, fun _ => hused'⟩
      | restart sensed => exact ⟨powerOn_iff board sensed acks, IdleCansOff.usedOn_powerOn⟩
      | rx ts toPush =>
          have hsame : SameSaving s (step board s (.main (.rx ts toPush) acks)) :=
            hooks_same board.toBoard (t := s) (.inl ⟨ts, toPush, rfl⟩)
          exact hsame.step_iff (fun _ => ⟨rfl, rfl, rfl⟩) hidle hused
      | tx ts toSend =>
          have hsame : SameSaving s (step board s (.main (.tx ts toSend) acks)) :=
            hooks_same board.toBoard (t := s) (.inr ⟨ts, toSend, rfl⟩)
          exact hsame.step_iff (fun _ => ⟨rfl, rfl, rfl⟩) hidle hused
  | busError can acks =>
      exact SameSaving.step_iff (busError_same board (acks 0) can s) (fun _ => ⟨rfl, rfl, rfl⟩)
        hidle hused

/-- Power saving keeps the idle controllers off exactly along the runs in which all
controllers acknowledge at a restart, and no idle one is initialised after. The
interrupts leave the main loop as it runs without them. -/
theorem always_idleCansOff_iff (board : CanBoard) (sensed : HarnessStatus) (acks : Acks)
    (events : List Event) :
    (Always (step board) IdleCansOff (powerOn board sensed acks) events ↔
      (∀ can, acks 1 can = true) ∧
        Along (step board) (KeepsIdle board) (powerOn board sensed acks) events) ∧
      (run (step board) (powerOn board sensed acks) events).main =
        run (Main.step board.toBoard) (Main.powerOn board.toBoard sensed)
          (events.filterMap mainOf) := by
  refine ⟨?_, run_main board sensed acks events⟩
  rw [← powerOn_iff board sensed acks]
  by_cases hidle : IdleCansOff (powerOn board sensed acks)
  · have hused : UsedOn (powerOn board sensed acks) := hidle.usedOn_powerOn
    rw [and_iff_right hidle, ← always_and_iff (I := UsedOn)]
    · apply always_iff_along (I := fun _ => True)
      · intro s e _
        trivial
      · rintro s e - ⟨hused, hidle⟩
        obtain ⟨hiff, hkept⟩ := step_iff board e hidle hused
        exact ⟨fun h => hiff.mp h.2, fun h => ⟨hkept (hiff.mpr h), hiff.mpr h⟩⟩
      · trivial
      · exact ⟨hused, hidle⟩
    · intro s e hused hidle hafter
      exact (step_iff board e hidle hused).2 hafter
    · exact hused
  · constructor
    · intro halways
      exact absurd halways.head hidle
    · rintro ⟨hstart, -⟩
      exact absurd hstart hidle

/-- A harness that is plugged in while power is saved. -/
theorem not_always_idleCansOff_plugged :
    ¬ Always (step ⟨{}, .fdcan, true⟩) IdleCansOff
        (powerOn ⟨{}, .fdcan, true⟩ .nc fun _ _ => true)
        [.main (.control ⟨0xe7, 1, 0⟩) fun _ _ => true,
          .main (.tick ⟨.normal, false, 0⟩) fun _ _ => true] := by
  intro halways
  obtain ⟨hcan2, -⟩ := halways.2.2.saving (by decide)
  revert hcan2
  decide

end Panda.Main.Controllers
