import Panda.Safety.PedalMemory
import Panda.Safety.Engagement

/-!
Engagement by the buttons of the steering wheel. With openpilot longitudinal,
Honda Bosch and Volkswagen turn controls on themselves: when a message releases
the set or the resume button that the message before it reported pressed. The
main switch, the buttons and the cancel button come in different messages, and
each is handled on its own.
-/

namespace Panda.Safety

open Library

/-- `HONDA_PARAM_BOSCH_LONG` and `FLAG_VOLKSWAGEN_LONG_CONTROL`: the parameters
that select engagement by the buttons. -/
def ButtonEngaged (mode param : UInt16) : Prop :=
  (mode = safetyHondaBosch ∧ getFlag param.toNat 2 = true) ∨
    ((mode = safetyVolkswagenMqb ∨ mode = safetyVolkswagenPq) ∧ getFlag param.toNat 1 = true)

/-- The modes in which only the buttons turn controls on. -/
def ButtonMode (id : HooksId) (m : ModeParams) : Prop :=
  match id with
  | .hondaBosch => hondaPcmCruise m.honda = false
  | .volkswagenMqb | .volkswagenPq => m.volkswagen.longitudinal = true
  | _ => False

/-- What one message reports of the buttons. `exit` is cancel, and on Honda the
main button too. -/
structure Buttons where
  set : Bool
  resume : Bool
  exit : Bool

def hondaButton (toPush : CANPacket) : Nat := (getByte toPush 0 &&& 0xE0) >>> 5

def hondaButtons (button : Nat) : Buttons where
  set := button == hondaBtnSet
  resume := button == hondaBtnResume
  exit := button == hondaBtnMain || button == hondaBtnCancel

/-- What the message reports of the buttons, as the mode's hook reads it. -/
def buttonReport (id : HooksId) (m : ModeParams) (toPush : CANPacket) : Option Buttons :=
  let addr := getAddr toPush
  let bus := getBus toPush
  match id with
  | .hondaNidec | .hondaBosch =>
      if (addr = 0x1A6 ∨ addr = 0x296) ∧ bus = hondaGetPtBus m.honda then
        some (hondaButtons (hondaButton toPush))
      else none
  | .volkswagenMqb =>
      if bus = 0 ∧ addr = msgGraAcc01 ∧ m.volkswagen.longitudinal then
        some ⟨getBit toPush 16, getBit toPush 19, getBit toPush 13⟩
      else none
  | .volkswagenPq =>
      if bus = 0 ∧ addr = msgGraNeu ∧ m.volkswagen.longitudinal then
        some ⟨getBit toPush 16, getBit toPush 17, getBit toPush 9⟩
      else none
  | _ => none

/-- What a hook remembers of a report: whether set and whether resume was
pressed. -/
abbrev Pressed : Type := Bool × Bool

def Buttons.pressed (buttons : Buttons) : Pressed := (buttons.set, buttons.resume)

def VolkswagenVars.pressed (v : VolkswagenVars) : Pressed :=
  (v.setButtonPrev, v.resumeButtonPrev)

/-- The buttons that the variables of the mode remember. -/
def rememberedButtons (id : HooksId) (s : Signals) (v : ModeVars) : Pressed :=
  match id with
  | .hondaNidec | .hondaBosch => (hondaButtons s.cruiseButtonPrev).pressed
  | .volkswagenMqb | .volkswagenPq => v.volkswagen.pressed
  | _ => (false, false)

/-- Set or resume was pressed before and is not any more. -/
def Released (previous : Pressed) (current : Buttons) : Prop :=
  (previous.1 = true ∧ current.set = false) ∨ (previous.2 = true ∧ current.resume = false)

/-! ### The receive hook -/

/-- What a hook of a button mode does to controls and to the main switch. -/
structure ButtonHook (previous : Pressed) (report : Option Buttons) (s t : Signals) : Prop where
  main : (s.controlsAllowed = true → s.accMainOn = true) → t.controlsAllowed = true →
    t.accMainOn = true
  released : s.controlsAllowed = false → t.controlsAllowed = true →
    ∃ current, report = some current ∧ Released previous current ∧ current.exit = false

/-- The common checks can only turn controls off. -/
theorem ButtonHook.of_checks {c : Context} {previous : Pressed} {report : Option Buttons}
    {s u : Signals} {stockEcuDetected : Bool} (h : ButtonHook previous report s u) :
    ButtonHook previous report s (genericRxChecks c stockEcuDetected u) where
  main hs hon := h.main hs (genericRxChecks_lowers hon)
  released hoff hon := h.released hoff (genericRxChecks_lowers hon)

theorem ButtonHook.of_unchanged (previous : Pressed) (report : Option Buttons) (s : Signals) :
    ButtonHook previous report s s where
  main hs hon := hs hon
  released hoff hon := by
    rw [hoff] at hon
    cases hon

theorem ButtonHook.of_guarded_fst {D : Type} {previous : Pressed} {report : Option Buttons}
    {s : Signals} {v : D} {bus : Prop} [Decidable bus] {f : Signals × D → Signals × D}
    (hf : bus → ButtonHook previous report s (f (s, v)).1) :
    ButtonHook previous report s (guarded bus f (s, v)).1 := by
  by_cases hbus : bus
  · rw [guarded_of_pos hbus]
    exact hf hbus
  · rw [guarded_of_neg hbus]
    exact ButtonHook.of_unchanged _ _ _

section Modes

attribute [local simp] buttonReport rememberedButtons Buttons.pressed
  VolkswagenVars.pressed hondaButtons hondaButton Released

@[simp] theorem guarded_accMainOn {c : Prop} [Decidable c] (f : Signals → Signals)
    (s : Signals) :
    (guarded c f s).accMainOn = if c then (f s).accMainOn else s.accMainOn :=
  apply_ite _ _ _ _

@[simp] theorem ite_accMainOn {c : Prop} [Decidable c] (s t : Signals) :
    (if c then s else t).accMainOn = if c then s.accMainOn else t.accMainOn :=
  apply_ite _ _ _ _

theorem hondaRxHook_buttons (c : Context) {m : ModeParams} (hlong : hondaPcmCruise m.honda = false)
    (toPush : CANPacket) (s : Signals) (v : ModeVars) :
    ButtonHook (rememberedButtons .hondaBosch s v) (buttonReport .hondaBosch m toPush) s
      (hondaRxHook c m.honda toPush (s, v.honda)).1 := by
  unfold hondaRxHook
  apply ButtonHook.of_checks
  constructor <;> simp [hondaRxButtons, hondaRxBrake, hlong]
  · grind
  · grind

theorem volkswagenMqbRxHook_buttons (c : Context) {m : ModeParams}
    (hlong : m.volkswagen.longitudinal = true) (toPush : CANPacket) (s : Signals) (v : ModeVars) :
    ButtonHook (rememberedButtons .volkswagenMqb s v) (buttonReport .volkswagenMqb m toPush) s
      (volkswagenMqbRxHook c m.volkswagen toPush (s, v.volkswagen, v.volkswagenMqb)).1 := by
  unfold volkswagenMqbRxHook
  apply ButtonHook.of_guarded_fst
  intro hbus
  apply ButtonHook.of_checks
  constructor <;> simp [volkswagenMqbRxAccStatus, volkswagenMqbRxButtons, volkswagenMqbRxBrake,
    volkswagenButtons, hbus, hlong]
  · grind
  · grind

theorem volkswagenPqRxHook_buttons (c : Context) {m : ModeParams}
    (hlong : m.volkswagen.longitudinal = true) (toPush : CANPacket) (s : Signals) (v : ModeVars) :
    ButtonHook (rememberedButtons .volkswagenPq s v) (buttonReport .volkswagenPq m toPush) s
      (volkswagenPqRxHook c m.volkswagen toPush (s, v.volkswagen)).1 := by
  unfold volkswagenPqRxHook
  apply ButtonHook.of_guarded_fst
  intro hbus
  apply ButtonHook.of_checks
  constructor <;> simp [volkswagenPqRxMainSwitch, volkswagenPqRxButtons, volkswagenButtons, hbus,
    hlong]
  · grind
  · grind

@[simp] theorem ite_cruiseButtonPrev {c : Prop} [Decidable c] (s t : Signals) :
    (if c then s else t).cruiseButtonPrev =
      if c then s.cruiseButtonPrev else t.cruiseButtonPrev := apply_ite _ _ _ _

@[simp] theorem genericRxChecks_cruiseButtonPrev (c : Context) (stockEcuDetected : Bool)
    (s : Signals) :
    (genericRxChecks c stockEcuDetected s).cruiseButtonPrev = s.cruiseButtonPrev := rfl

theorem hondaRxHook_cruiseButtonPrev (c : Context) (p : HondaParams) (toPush : CANPacket)
    (sv : Signals × HondaVars) :
    (hondaRxHook c p toPush sv).1.cruiseButtonPrev =
      if (getAddr toPush = 0x1A6 ∨ getAddr toPush = 0x296) ∧ getBus toPush = hondaGetPtBus p then
        hondaButton toPush
      else sv.1.cruiseButtonPrev := by
  simp [hondaRxHook, hondaRxPcmCruise, hondaRxButtons, hondaRxBrake]

theorem volkswagenMqbRxHook_vars (c : Context) (p : VolkswagenParams) (toPush : CANPacket)
    (sv : Signals × (VolkswagenVars × VolkswagenMqbVars)) :
    (volkswagenMqbRxHook c p toPush sv).2.1 =
      if getBus toPush = 0 ∧ getAddr toPush = msgGraAcc01 ∧ p.longitudinal then
        ⟨getBit toPush 16, getBit toPush 19⟩
      else sv.2.1 := by
  simp [volkswagenMqbRxHook, volkswagenMqbRxButtons, volkswagenMqbRxBrake, volkswagenButtons,
    apply_ite Prod.fst]
  grind

theorem volkswagenPqRxHook_vars (c : Context) (p : VolkswagenParams) (toPush : CANPacket)
    (sv : Signals × VolkswagenVars) :
    (volkswagenPqRxHook c p toPush sv).2 =
      if getBus toPush = 0 ∧ getAddr toPush = msgGraNeu ∧ p.longitudinal then
        ⟨getBit toPush 16, getBit toPush 17⟩
      else sv.2 := by
  simp [volkswagenPqRxHook, volkswagenPqRxButtons, volkswagenButtons]
  grind

end Modes

theorem rx_buttons {id : HooksId} {m : ModeParams} (hmode : ButtonMode id m) (c : Context)
    (toPush : CANPacket) (s : Signals) (v : ModeVars) :
    ButtonHook (rememberedButtons id s v) (buttonReport id m toPush) s
      ((hooksOf id).rx c m toPush (s, v)).1 := by
  cases id with
  | hondaBosch => exact hondaRxHook_buttons c hmode toPush s v
  | volkswagenMqb => exact volkswagenMqbRxHook_buttons c hmode toPush s v
  | volkswagenPq => exact volkswagenPqRxHook_buttons c hmode toPush s v
  | _ => exact hmode.elim

/-- The remembered buttons are those of the message that reports them, and no
other message touches them. -/
theorem rx_rememberedButtons (id : HooksId) (c : Context) (m : ModeParams) (toPush : CANPacket)
    (s : Signals) (v : ModeVars) :
    rememberedButtons id ((hooksOf id).rx c m toPush (s, v)).1
        ((hooksOf id).rx c m toPush (s, v)).2 =
      ((buttonReport id m toPush).map Buttons.pressed).getD (rememberedButtons id s v) := by
  cases id with
  | hondaNidec | hondaBosch =>
      change (hondaButtons (hondaRxHook c m.honda toPush (s, v.honda)).1.cruiseButtonPrev).pressed
        = _
      rw [hondaRxHook_cruiseButtonPrev, buttonReport]
      split
      · rfl
      · rfl
  | volkswagenMqb =>
      change (volkswagenMqbRxHook c m.volkswagen toPush
        (s, v.volkswagen, v.volkswagenMqb)).2.1.pressed = _
      rw [volkswagenMqbRxHook_vars, buttonReport]
      split
      · rfl
      · rfl
  | volkswagenPq =>
      change (volkswagenPqRxHook c m.volkswagen toPush (s, v.volkswagen)).2.pressed = _
      rw [volkswagenPqRxHook_vars, buttonReport]
      split
      · rfl
      · rfl
  | _ => rfl

/-! ### Sessions -/

/-- The buttons of a message that the validation passes on to the hook. -/
def processedButtons (s : State) : Event → Option Buttons
  | .rx ts toPush =>
      if s.rxValid ts toPush then buttonReport s.currentHooks s.params toPush else none
  | _ => none

/-- The buttons of the last message that a run processed. -/
def lastButtons (s : State) (events : List Event) : Option Buttons :=
  lastReport step processedButtons s events

def State.buttons (s : State) : Pressed := rememberedButtons s.currentHooks s.signals s.vars

/-- The transmit hooks do not touch what the mode remembers of the buttons. -/
theorem tx_rememberedButtons (id : HooksId) (c : Context) (m : ModeParams) (s : Signals)
    (toSend : CANPacket) (commands : Commands) (v : ModeVars) :
    rememberedButtons id s ((hooksOf id).tx c m s toSend commands v).vars =
      rememberedButtons id s v := by
  cases id with
  | volkswagenMqb =>
      change (volkswagenMqbTxHook c s toSend commands
        (v.volkswagen, v.volkswagenMqb)).vars.1.pressed = _
      simp [volkswagenMqbTxHook, rememberedButtons]
  | volkswagenPq =>
      change (volkswagenPqTxHook c s toSend commands v.volkswagen).vars.pressed = _
      simp [volkswagenPqTxHook, rememberedButtons]
  | _ => rfl

theorem step_buttons (s : State) (e : Event) :
    (step s e).buttons = ((processedButtons s e).map Buttons.pressed).getD s.buttons := by
  cases e with
  | rx ts toPush =>
      change rememberedButtons s.currentHooks (s.rxSignals ts toPush).1
        (s.rxSignals ts toPush).2 = _
      unfold State.rxSignals
      by_cases hvalid : s.rxValid ts toPush = true
      · rw [if_pos hvalid, processedButtons, if_pos hvalid]
        exact rx_rememberedButtons s.currentHooks _ _ toPush s.signals s.vars
      · rw [if_neg hvalid, processedButtons, if_neg hvalid]
        rfl
  | tx ts toSend => exact tx_rememberedButtons s.currentHooks _ _ _ toSend _ _
  | _ => rfl

theorem ButtonEngaged.registered {mode param : UInt16} (h : ButtonEngaged mode param) :
    ∃ id, registered mode = some id ∧ id ≠ .alloutput ∧
      ∀ m v, ButtonMode id ((hooksOf id).init param m v).params := by
  rcases h with ⟨rfl, hlong⟩ | ⟨rfl | rfl, hlong⟩
  · refine ⟨.hondaBosch, by decide, by decide, ?_⟩
    intro m v
    change hondaPcmCruise (hondaBoschInit param m.honda v.honda).params = false
    simp [hondaBoschInit, hondaPcmCruise, hlong]
  · exact ⟨.volkswagenMqb, by decide, by decide, fun _ _ => hlong⟩
  · exact ⟨.volkswagenPq, by decide, by decide, fun _ _ => hlong⟩

theorem setSafetyHooks_buttons {mode param : UInt16} (h : ButtonEngaged mode param)
    (before : State) : (setSafetyHooks mode param before).buttons = (false, false) := by
  rcases h with ⟨rfl, -⟩ | ⟨rfl | rfl, -⟩
  · rfl
  · rfl
  · rfl

/-- The remembered buttons are those of the last button message. -/
theorem session_buttons {mode param : UInt16} (h : ButtonEngaged mode param) (before : State)
    (events : List Event) :
    (session mode param before events).buttons =
      ((lastButtons (setSafetyHooks mode param before) events).map Buttons.pressed).getD
        (false, false) := by
  have hrun := run_eq_lastReport (g := State.buttons) step_buttons
    (setSafetyHooks mode param before) events
  rwa [setSafetyHooks_buttons h] at hrun

/-- What holds of the state between two calls in a button mode. -/
structure ButtonState (s : State) : Prop where
  mode : ButtonMode s.currentHooks s.params
  main : s.signals.controlsAllowed = true → s.signals.accMainOn = true

theorem setSafetyHooks_buttonState {mode param : UInt16} (h : ButtonEngaged mode param)
    (before : State) : ButtonState (setSafetyHooks mode param before) := by
  obtain ⟨id, hid, hall, hmode⟩ := h.registered
  have hnot : registered mode ≠ some .alloutput := by simpa [hid] using hall
  have hoff := setSafetyHooks_controls_off hnot param before
  constructor
  · rw [setSafetyHooks_registered hid]
    exact hmode _ _
  · intro hon
    rw [hoff] at hon
    cases hon

/-- A received message reaches the hook, or controls are off after it. -/
theorem rx_buttonHook {s : State} (hs : ButtonMode s.currentHooks s.params) {ts : UInt32}
    {toPush : CANPacket} (hon : (safetyRxHook ts toPush s).signals.controlsAllowed = true) :
    ButtonHook s.buttons (processedButtons s (.rx ts toPush)) s.signals
      (safetyRxHook ts toPush s).signals := by
  have hsignals : (safetyRxHook ts toPush s).signals = (s.rxSignals ts toPush).1 := rfl
  rw [hsignals] at hon ⊢
  unfold State.rxSignals at hon ⊢
  by_cases hvalid : s.rxValid ts toPush = true
  · rw [if_pos hvalid, processedButtons, if_pos hvalid]
    exact rx_buttons hs (s.context ts) toPush s.signals s.vars
  · rw [if_neg hvalid] at hon
    cases hon

theorem step_buttonState (s : State) (e : Event) (hs : ButtonState s) :
    ButtonState (step s e) where
  mode := by
    rw [step_currentHooks, step_params]
    exact hs.mode
  main hon := by
    cases e with
    | rx ts toPush => exact (rx_buttonHook hs.mode hon).main hs.main hon
    | tx | fwd | modeSecond => exact hs.main hon
    | tick | exitUnused => exact hs.main (Bool.and_eq_true_iff.mp hon).1

/-- The last button message of the run had set or resume pressed, and the call
is a button message that releases it and that does not exit. -/
def EngagedByRelease (start : State) (events : List Event) (e : Event) : Prop :=
  ∃ previous current, lastButtons start events = some previous ∧
    processedButtons (run step start events) e = some current ∧
    Released previous.pressed current ∧ current.exit = false

theorem released_of_getD {last : Option Buttons} {current : Buttons}
    (h : Released ((last.map Buttons.pressed).getD (false, false)) current) :
    ∃ previous, last = some previous ∧ Released previous.pressed current := by
  cases last with
  | none =>
      rcases h with ⟨hset, -⟩ | ⟨hresume, -⟩
      · cases hset
      · cases hresume
  | some previous => exact ⟨previous, rfl, h⟩

/-- In every session of a button mode: controls are on only with the main
switch on, and only the release of set or resume turns them on. -/
theorem controls_by_button_release {mode param : UInt16} (h : ButtonEngaged mode param)
    (before : State) (events : List Event) :
    ((session mode param before events).signals.controlsAllowed = true →
        (session mode param before events).signals.accMainOn = true) ∧
      ∀ ts toPush, (session mode param before events).signals.controlsAllowed = false →
        (safetyRxHook ts toPush
          (session mode param before events)).signals.controlsAllowed = true →
        EngagedByRelease (setSafetyHooks mode param before) events (.rx ts toPush) ∧
          (safetyRxHook ts toPush (session mode param before events)).signals.accMainOn = true := by
  have hs : ButtonState (session mode param before events) :=
    run_invariant step_buttonState (setSafetyHooks_buttonState h before) events
  refine ⟨hs.main, ?_⟩
  intro ts toPush hoff hon
  have hhook := rx_buttonHook hs.mode hon
  obtain ⟨current, hcurrent, hreleased, hexit⟩ := hhook.released hoff hon
  rw [session_buttons h] at hreleased
  obtain ⟨previous, hprevious, hreleased⟩ := released_of_getD hreleased
  exact ⟨⟨previous, current, hprevious, hcurrent, hreleased, hexit⟩, hhook.main hs.main hon⟩

/-- Volkswagen PQ reports the main switch on and set pressed. -/
def pqSetPressed : List Event :=
  [.rx 0 (.ofBytes 0x480 0 8 [0, 0, 0, 0, 0, 0, 0x04, 0x04]),
   .rx 0 (.ofBytes 0x38A 0 4 [0x11, 0, 0x11, 0])]

def pqSetReleased : CANPacket := .ofBytes 0x38A 0 4 [0x20, 0, 0x20, 0]

theorem controls_by_button_release_pq :
    EngagedByRelease (setSafetyHooks safetyVolkswagenPq 1 bootState) pqSetPressed
        (.rx 0 pqSetReleased) ∧
      (safetyRxHook 0 pqSetReleased
        (session safetyVolkswagenPq 1 bootState pqSetPressed)).signals.accMainOn = true := by
  have hengaged : ButtonEngaged safetyVolkswagenPq 1 := Or.inr ⟨Or.inr rfl, by decide⟩
  have hoff : (session safetyVolkswagenPq 1 bootState
      pqSetPressed).signals.controlsAllowed = false := by decide
  have hon : (safetyRxHook 0 pqSetReleased
      (session safetyVolkswagenPq 1 bootState pqSetPressed)).signals.controlsAllowed = true := by
    decide
  exact (controls_by_button_release hengaged bootState pqSetPressed).2 0 pqSetReleased hoff hon

end Panda.Safety
