import Panda.Safety.Session

/-!
What a mode switch leaves of the earlier sessions. `set_safety_hooks` and the
mode's `init` set every variable that the mode's hooks read, so two sessions of
the same calls look the same whatever came before. The exception is Honda
Bosch: its `init` leaves the brake and the latch of the stock AEB as they are,
which shows when openpilot may send the brake message.
-/

namespace Panda.Safety

open Library

/-! ### What a session shows -/

/-- The calls whose results are compared. The exit of unused controls counts
over the mode switch and is no call of the safety code. -/
def Event.isSafetyCall : Event → Bool
  | .exitUnused _ => false
  | _ => true

/-- The return value of a call, zero if it has none. -/
def result (s : State) : Event → Int
  | .rx ts toPush => (s.rxValid ts toPush).toInt
  | .tx ts toSend => (s.txAccepted ts toSend).toInt
  | .fwd busNum addr => safetyFwdHook busNum addr s
  | _ => 0

/-- The return value, and whether controls are allowed after the call. -/
def observe (s : State) (e : Event) : Int × Bool :=
  (result s e, (step s e).signals.controlsAllowed)

/-! ### Variables that do not show -/

/-- The hooks of a mode do not show a difference in its variables within the
relation `V`, as long as only frames with `allowed` can be accepted. -/
structure Unobservable (mode : Mode) (p : mode.P) (alternativeExperience : Nat)
    (allowed : CANPacket → Prop) (V : mode.D → mode.D → Prop) : Prop where
  rx : ∀ c toPush s v w, c.alternativeExperience = alternativeExperience → V v w →
    (mode.hooks.rx c p toPush (s, v)).1 = (mode.hooks.rx c p toPush (s, w)).1 ∧
      V (mode.hooks.rx c p toPush (s, v)).2 (mode.hooks.rx c p toPush (s, w)).2
  tx : ∀ c s toSend commands v w, V v w →
    (allowed toSend → (mode.hooks.tx c p s toSend commands v).tx =
        (mode.hooks.tx c p s toSend commands w).tx) ∧
      (mode.hooks.tx c p s toSend commands v).commands =
        (mode.hooks.tx c p s toSend commands w).commands ∧
      V (mode.hooks.tx c p s toSend commands v).vars (mode.hooks.tx c p s toSend commands w).vars
  fwd : ∀ busNum addr v w, V v w →
    mode.hooks.fwd p v busNum addr = mode.hooks.fwd p w busNum addr

theorem unobservable_eq (mode : Mode) (p : mode.P) (alternativeExperience : Nat)
    (allowed : CANPacket → Prop) : Unobservable mode p alternativeExperience allowed Eq where
  rx := by
    rintro c toPush s v _ - rfl
    exact ⟨rfl, rfl⟩
  tx := by
    rintro c s toSend commands v _ rfl
    exact ⟨fun _ => rfl, rfl, rfl⟩
  fwd := by
    rintro busNum addr v _ rfl
    rfl

/-- Two states of a mode that agree in all that its hooks read, but for its
variables, which are related by `V`. -/
structure Agree (id : HooksId) (p : (modeOf id).P) (alternativeExperience : Nat)
    (allowed : CANPacket → Prop) (V : (modeOf id).D → (modeOf id).D → Prop) (s t : State) :
    Prop where
  hooks : s.currentHooks = id ∧ t.currentHooks = id
  safetyMode : s.currentSafetyMode = t.currentSafetyMode
  experience : s.alternativeExperience = alternativeExperience ∧
    t.alternativeExperience = alternativeExperience
  safetyModeCnt : s.safetyModeCnt = t.safetyModeCnt
  signals : s.signals = t.signals
  commands : s.commands = t.commands
  cfg : s.cfg = t.cfg
  params : (modeOf id).params.get s.params = p ∧ (modeOf id).params.get t.params = p
  vars : V ((modeOf id).vars.get s.vars) ((modeOf id).vars.get t.vars)
  allowed : ∀ toSend, s.whitelisted toSend = true → allowed toSend

section Lockstep

variable {id : HooksId} {p : (modeOf id).P} {alternativeExperience : Nat}
  {allowed : CANPacket → Prop} {V : (modeOf id).D → (modeOf id).D → Prop} {s t : State}

/-- The check of a message reads the mode's own variables only. -/
theorem checkMsg_congr {m m' : ModeParams}
    (h : (modeOf id).params.get m = (modeOf id).params.get m') (ts : UInt32)
    (toPush : CANPacket) :
    checkMsg (hooksOf id) m ts toPush = checkMsg (hooksOf id) m' ts toPush := by
  have hchecksum : checkChecksum (hooksOf id) m toPush = checkChecksum (hooksOf id) m' toPush := by
    funext check
    simp only [checkChecksum, hooksOf, Mode.embed]
    cases (modeOf id).hooks.getChecksum with
    | none => rfl
    | some getChecksum =>
        cases (modeOf id).hooks.computeChecksum with
        | none => rfl
        | some computeChecksum => simp only [Option.map_some, h]
  funext check
  simp only [checkMsg]
  rw [hchecksum]

theorem Agree.embed (h : Agree id p alternativeExperience allowed V s t) :
    s.hooks = (modeOf id).embed ∧ t.hooks = (modeOf id).embed := by
  rw [State.hooks, State.hooks, h.hooks.1, h.hooks.2]
  exact ⟨rfl, rfl⟩

theorem Agree.check (h : Agree id p alternativeExperience allowed V s t) (ts : UInt32)
    (toPush : CANPacket) :
    rxMsgSafetyCheck s.hooks s.params ts toPush s.cfg.rxChecks =
      rxMsgSafetyCheck t.hooks t.params ts toPush t.cfg.rxChecks := by
  have hparams : (modeOf id).params.get s.params = (modeOf id).params.get t.params :=
    h.params.1.trans h.params.2.symm
  simp only [rxMsgSafetyCheck, State.hooks, h.hooks.1, h.hooks.2, h.cfg,
    checkMsg_congr hparams ts toPush]

theorem Agree.context (h : Agree id p alternativeExperience allowed V s t) (ts : UInt32) :
    s.context ts = t.context ts := by
  simp only [State.context, h.experience.1, h.experience.2, h.safetyModeCnt]

theorem Agree.rxSignals (hV : Unobservable (modeOf id) p alternativeExperience allowed V)
    (h : Agree id p alternativeExperience allowed V s t) (ts : UInt32) (toPush : CANPacket) :
    (s.rxSignals ts toPush).1 = (t.rxSignals ts toPush).1 ∧
      V ((modeOf id).vars.get (s.rxSignals ts toPush).2)
        ((modeOf id).vars.get (t.rxSignals ts toPush).2) := by
  have hvalid : s.rxValid ts toPush = t.rxValid ts toPush := by
    simp only [State.rxValid, h.check ts toPush]
  unfold State.rxSignals
  rw [hvalid]
  split
  · obtain ⟨hsignals, hvars⟩ := hV.rx (t.context ts) toPush t.signals _ _ h.experience.2 h.vars
    rw [h.embed.1, h.embed.2, h.context ts, h.signals]
    simp only [Mode.embed, h.params.1, h.params.2, Lens.get_set]
    exact ⟨hsignals, hvars⟩
  · rw [h.signals]
    exact ⟨rfl, h.vars⟩

theorem Agree.sending (hV : Unobservable (modeOf id) p alternativeExperience allowed V)
    (h : Agree id p alternativeExperience allowed V s t) (ts : UInt32) (toSend : CANPacket) :
    (allowed toSend → (s.sending ts toSend).tx = (t.sending ts toSend).tx) ∧
      (s.sending ts toSend).commands = (t.sending ts toSend).commands ∧
      V ((modeOf id).vars.get (s.sending ts toSend).vars)
        ((modeOf id).vars.get (t.sending ts toSend).vars) := by
  have hsending := hV.tx (t.context ts) t.signals toSend t.commands _ _ h.vars
  rw [State.sending, State.sending, h.embed.1, h.embed.2, h.context ts, h.signals, h.commands]
  simp only [Mode.embed, h.params.1, h.params.2, Lens.get_set]
  exact hsending

theorem Agree.whitelisted (h : Agree id p alternativeExperience allowed V s t)
    (toSend : CANPacket) : s.whitelisted toSend = t.whitelisted toSend := by
  simp only [State.whitelisted, h.cfg, h.safetyMode]

/-- A call keeps the agreement. -/
theorem Agree.after (hV : Unobservable (modeOf id) p alternativeExperience allowed V)
    (e : Event) (he : e.isSafetyCall = true)
    (h : Agree id p alternativeExperience allowed V s t) :
    Agree id p alternativeExperience allowed V (step s e) (step t e) := by
  cases e with
  | rx ts toPush =>
      obtain ⟨hsignals, hvars⟩ := h.rxSignals hV ts toPush
      have hchecks : s.rxChecksAfter ts toPush = t.rxChecksAfter ts toPush := by
        simp only [State.rxChecksAfter, h.check ts toPush]
      have hcfg : (step s (.rx ts toPush)).cfg =
          (step t (.rx ts toPush)).cfg := by
        simp only [step, safetyRxHook, hchecks, h.cfg]
      exact { h with signals := hsignals, cfg := hcfg, vars := hvars }
  | tx ts toSend =>
      obtain ⟨-, hcommands, hvars⟩ := h.sending hV ts toSend
      exact { h with commands := hcommands, vars := hvars }
  | fwd busNum addr => exact h
  | tick ts =>
      have hsignals : (step s (.tick ts)).signals =
          (step t (.tick ts)).signals := by
        simp only [step, safetyTick, h.signals, h.cfg]
      have hcfg : (step s (.tick ts)).cfg = (step t (.tick ts)).cfg := by
        simp only [step, safetyTick, h.cfg]
      exact { h with signals := hsignals, cfg := hcfg }
  | modeSecond =>
      have hcount : s.safetyModeCnt + 1 = t.safetyModeCnt + 1 := by rw [h.safetyModeCnt]
      exact { h with safetyModeCnt := hcount }
  | exitUnused heartbeatEngaged => cases he

/-- A call looks the same in both states. -/
theorem Agree.observed (hV : Unobservable (modeOf id) p alternativeExperience allowed V)
    (e : Event) (he : e.isSafetyCall = true)
    (h : Agree id p alternativeExperience allowed V s t) : observe s e = observe t e := by
  have hcontrols : (step s e).signals.controlsAllowed =
      (step t e).signals.controlsAllowed := by
    rw [(h.after hV e he).signals]
  have hresult : result s e = result t e := by
    cases e with
    | rx ts toPush => simp only [result, State.rxValid, h.check ts toPush]
    | tx ts toSend =>
        obtain ⟨htx, -, -⟩ := h.sending hV ts toSend
        have haccepted : s.txAccepted ts toSend = t.txAccepted ts toSend := by
          simp only [State.txAccepted, ← h.signals, ← h.whitelisted]
          cases hwhite : s.whitelisted toSend with
          | false => simp
          | true => rw [htx (h.allowed toSend hwhite)]
        simp only [result, haccepted]
    | fwd busNum addr =>
        have hfwd := hV.fwd busNum addr _ _ h.vars
        simp only [result, safetyFwdHook, h.embed.1, h.embed.2, Mode.embed, h.params.1, h.params.2,
          h.signals, hfwd]
    | _ => rfl
  rw [observe, observe, hresult, hcontrols]

/-- Sessions that start in agreement look the same. -/
theorem Agree.trace_eq (hV : Unobservable (modeOf id) p alternativeExperience allowed V)
    (h : Agree id p alternativeExperience allowed V s t) {events : List Event}
    (hcalls : ∀ e ∈ events, e.isSafetyCall = true) :
    trace step observe s events =
      trace step observe t events :=
  trace_eq_of_lockstep (fun _ _ e he h => h.observed hV e he)
    (fun _ _ e he h => h.after hV e he) h hcalls

end Lockstep

/-! ### The start of a session -/

/-- No `init` but the one of Honda Bosch depends on the variables that it
finds. -/
theorem init_independent {id : HooksId} (hid : id ≠ .hondaBosch) (param : UInt16)
    (p p' : (modeOf id).P) (v v' : (modeOf id).D) :
    (modeOf id).hooks.init param p v = (modeOf id).hooks.init param p' v' := by
  cases id with
  | hondaBosch => exact absurd rfl hid
  | _ => rfl

/-- What is left of the earlier sessions at the start of one is in the
variables after `init`. -/
theorem Agree.start {id : HooksId} (mode param : UInt16) {s t : State}
    {allowed : CANPacket → Prop} {V : (modeOf id).D → (modeOf id).D → Prop}
    (hexperience : s.alternativeExperience = t.alternativeExperience)
    (hinit : ((hooksOf id).init param s.params s.vars).cfg =
        ((hooksOf id).init param t.params t.vars).cfg ∧
      ((hooksOf id).init param s.params s.vars).controlsAllowed =
        ((hooksOf id).init param t.params t.vars).controlsAllowed)
    (hparams : (modeOf id).params.get (s.reset.start id mode param).params =
      (modeOf id).params.get (t.reset.start id mode param).params)
    (hvars : V ((modeOf id).vars.get (s.reset.start id mode param).vars)
      ((modeOf id).vars.get (t.reset.start id mode param).vars))
    (hallowed : ∀ toSend, (s.reset.start id mode param).whitelisted toSend = true →
      allowed toSend) :
    Agree id ((modeOf id).params.get (t.reset.start id mode param).params)
      t.alternativeExperience allowed V (s.reset.start id mode param)
      (t.reset.start id mode param) where
  hooks := ⟨rfl, rfl⟩
  safetyMode := rfl
  experience := ⟨hexperience, rfl⟩
  safetyModeCnt := rfl
  signals := by
    have hreset : s.reset.signals = t.reset.signals := rfl
    simp only [State.start, hreset]
    exact congrArg (fun c => { t.reset.signals with controlsAllowed := c }) hinit.2
  commands := rfl
  cfg := congrArg (fun cfg : SafetyConfig => { cfg with
    rxChecks := cfg.rxChecks.map fun check : RxCheck => { check with status := {} } }) hinit.1
  params := ⟨hparams, rfl⟩
  vars := hvars
  allowed := hallowed

/-- In all modes but Honda Bosch, nothing is left. -/
theorem agree_start_of_ne {id : HooksId} (hid : id ≠ .hondaBosch) (mode param : UInt16)
    {s t : State} (hexperience : s.alternativeExperience = t.alternativeExperience) :
    Agree id ((modeOf id).params.get (t.reset.start id mode param).params)
      t.alternativeExperience (fun _ => True) Eq (s.reset.start id mode param)
      (t.reset.start id mode param) := by
  have hinit := init_independent hid param ((modeOf id).params.get s.params)
    ((modeOf id).params.get t.params) ((modeOf id).vars.get s.vars) ((modeOf id).vars.get t.vars)
  have hcfg := congrArg InitResult.cfg hinit
  have hcontrols := congrArg InitResult.controlsAllowed hinit
  refine Agree.start mode param hexperience ⟨hcfg, hcontrols⟩ ?_ ?_ fun _ _ => trivial
  · change (modeOf id).params.get ((modeOf id).params.set _ _) =
      (modeOf id).params.get ((modeOf id).params.set _ _)
    rw [Lens.get_set, Lens.get_set]
    exact congrArg InitResult.params hinit
  · change (modeOf id).vars.get ((modeOf id).vars.set _ _) =
      (modeOf id).vars.get ((modeOf id).vars.set _ _)
    rw [Lens.get_set, Lens.get_set]
    exact congrArg InitResult.vars hinit

/-! ### Honda Bosch -/

/-- No stock brake value compares with one brake but not with the other. -/
def SameThreshold (v w : HondaVars) : Prop :=
  ∀ toPush, hondaStockBrake toPush ≥ v.brake ↔ hondaStockBrake toPush ≥ w.brake

/-- Openpilot may send the brake message: longitudinal control without the
radarless platform. -/
def hondaBoschSendsBrake (param : UInt16) : Prop :=
  getFlag param.toNat 2 = true ∧ getFlag param.toNat 8 = false

/-- What two Bosch sessions need to have in common. The threshold is of no use
when the stock AEB is disabled. -/
structure BrakeAgrees (sendsBrake : Prop) (alternativeExperience : Nat) (v w : HondaVars) :
    Prop where
  brakeSwitchPrev : v.brakeSwitchPrev = w.brakeSwitchPrev
  fwdBrake : sendsBrake → v.fwdBrake = w.fwdBrake
  threshold : sendsBrake → alternativeExperience &&& altExpDisableStockAeb = 0 → SameThreshold v w

theorem hondaRxStockAeb_brakeAgrees {sendsBrake : Prop} {alternativeExperience : Nat}
    {v w : HondaVars} (h : BrakeAgrees sendsBrake alternativeExperience v w)
    (halt : alternativeExperience &&& altExpDisableStockAeb = 0) (toPush : CANPacket) :
    BrakeAgrees sendsBrake alternativeExperience (hondaRxStockAeb toPush v)
      (hondaRxStockAeb toPush w) := by
  have hbrake : ∀ v : HondaVars, (hondaRxStockAeb toPush v).brake = v.brake ∧
      (hondaRxStockAeb toPush v).brakeSwitchPrev = v.brakeSwitchPrev := by
    intro v
    unfold hondaRxStockAeb
    split_ifs <;> exact ⟨rfl, rfl⟩
  refine ⟨?_, ?_, ?_⟩
  · rw [(hbrake v).2, (hbrake w).2]
    exact h.brakeSwitchPrev
  · intro hsends
    have hthreshold := h.threshold hsends halt toPush
    simp only [hondaRxStockAeb, hthreshold]
    split_ifs
    · rfl
    · rfl
    · exact h.fwdBrake hsends
  · intro hsends _ toPush'
    rw [(hbrake v).1, (hbrake w).1]
    exact h.threshold hsends halt toPush'

theorem hondaRxBrake_brakeAgrees {sendsBrake : Prop} {alternativeExperience : Nat}
    {s : Signals} {v w : HondaVars} (h : BrakeAgrees sendsBrake alternativeExperience v w)
    (toPush : CANPacket) :
    (hondaRxBrake toPush (s, v)).1 = (hondaRxBrake toPush (s, w)).1 ∧
      BrakeAgrees sendsBrake alternativeExperience (hondaRxBrake toPush (s, v)).2
        (hondaRxBrake toPush (s, w)).2 := by
  simp only [hondaRxBrake, h.brakeSwitchPrev]
  exact ⟨trivial, rfl, h.fwdBrake, h.threshold⟩

/-- The same signals, and variables that agree. -/
def SignalsAgree (sendsBrake : Prop) (alternativeExperience : Nat) (x y : Signals × HondaVars) :
    Prop :=
  x.1 = y.1 ∧ BrakeAgrees sendsBrake alternativeExperience x.2 y.2

theorem onSignals_signalsAgree {sendsBrake : Prop} {alternativeExperience : Nat}
    {x y : Signals × HondaVars} (f : Signals → Signals)
    (h : SignalsAgree sendsBrake alternativeExperience x y) :
    SignalsAgree sendsBrake alternativeExperience (onSignals f x) (onSignals f y) :=
  ⟨congrArg f h.1, h.2⟩

theorem hondaRxHook_signalsAgree {sendsBrake : Prop} {c : Context} (p : HondaParams)
    (toPush : CANPacket) {x y : Signals × HondaVars}
    (h : SignalsAgree sendsBrake c.alternativeExperience x y) :
    SignalsAgree sendsBrake c.alternativeExperience (hondaRxHook c p toPush x)
      (hondaRxHook c p toPush y) := by
  have hbrake : ∀ x y, SignalsAgree sendsBrake c.alternativeExperience x y →
      SignalsAgree sendsBrake c.alternativeExperience (hondaRxBrake toPush x)
        (hondaRxBrake toPush y) := by
    rintro ⟨s, v⟩ ⟨_, w⟩ ⟨rfl, h⟩
    exact hondaRxBrake_brakeAgrees h toPush
  simp only [hondaRxHook]
  apply onSignals_signalsAgree
  apply guarded_relates
  · intro haeb h
    exact ⟨h.1, hondaRxStockAeb_brakeAgrees h.2 haeb.1 toPush⟩
  apply guarded_relates
  · exact fun _ => onSignals_signalsAgree _
  apply guarded_relates
  · exact fun _ => hbrake _ _
  iterate 5
    apply guarded_relates
    · exact fun _ => onSignals_signalsAgree _
  exact h

theorem hondaTxHook_brakeAgrees {sendsBrake : Prop} {alternativeExperience : Nat}
    (p : HondaParams) (s : Signals) (toSend : CANPacket) (commands : Commands) {v w : HondaVars}
    (h : BrakeAgrees sendsBrake alternativeExperience v w) :
    ((getAddr toSend = 0x1FA → sendsBrake) →
        (hondaTxHook p s toSend commands v).tx = (hondaTxHook p s toSend commands w).tx) ∧
      (hondaTxHook p s toSend commands v).commands =
        (hondaTxHook p s toSend commands w).commands ∧
      BrakeAgrees sendsBrake alternativeExperience (hondaTxHook p s toSend commands v).vars
        (hondaTxHook p s toSend commands w).vars := by
  by_cases hbrake : getAddr toSend = 0x1FA ∧ getBus toSend = hondaGetPtBus p
  · refine ⟨?_, ?_, ?_⟩
    · intro hsends
      have hfwd := h.fwdBrake (hsends hbrake.1)
      simp [hondaTxHook, hondaTxBrake, hbrake, hfwd]
    · simp [hondaTxHook, hondaTxBrake]
    · simp only [hondaTxHook, hondaTxBrake, guarded_vars, block_vars, if_pos hbrake, ite_self]
      exact ⟨h.brakeSwitchPrev, h.fwdBrake, fun _ _ _ => Iff.rfl⟩
  · refine ⟨?_, ?_, ?_⟩
    · intro _
      simp [hondaTxHook, hbrake]
    · simp [hondaTxHook, hondaTxBrake]
    · simp only [hondaTxHook, guarded_vars, block_vars, if_neg hbrake, ite_self]
      exact h

theorem hondaBosch_unobservable (p : HondaParams) (sendsBrake : Prop)
    (alternativeExperience : Nat) :
    Unobservable (modeOf .hondaBosch) p alternativeExperience
      (fun toSend => getAddr toSend = 0x1FA → sendsBrake)
      (BrakeAgrees sendsBrake alternativeExperience) where
  rx := by
    rintro c toPush s v w rfl h
    exact hondaRxHook_signalsAgree p toPush ⟨rfl, h⟩
  tx := by
    intro c s toSend commands v w h
    exact hondaTxHook_brakeAgrees p s toSend commands h
  fwd _ _ _ _ _ := rfl

/-- Without longitudinal control, or on the radarless platform, the brake
message is not on the whitelist. -/
theorem hondaBosch_whitelisted_brake {param : UInt16} (p : HondaParams) (v : HondaVars)
    {toSend : CANPacket} (hwhite : msgAllowed toSend (hondaBoschInit param p v).cfg.txMsgs = true)
    (haddr : getAddr toSend = 0x1FA) : hondaBoschSendsBrake param := by
  have htxMsgs : (hondaBoschInit param p v).cfg.txMsgs =
      if getFlag param.toNat 8 then
        if getFlag param.toNat 2 then hondaRadarlessLongTxMsgs else hondaRadarlessTxMsgs
      else if getFlag param.toNat 2 then hondaBoschLongTxMsgs else hondaBoschTxMsgs := rfl
  rw [htxMsgs] at hwhite
  cases hradarless : getFlag param.toNat 8 with
  | true =>
      rw [hradarless, if_pos rfl] at hwhite
      split at hwhite
      · simp [msgAllowed, hondaRadarlessLongTxMsgs, haddr] at hwhite
      · simp [msgAllowed, hondaRadarlessTxMsgs, haddr] at hwhite
  | false =>
      cases hlong : getFlag param.toNat 2 with
      | true => exact ⟨hlong, hradarless⟩
      | false => simp [hradarless, hlong, msgAllowed, hondaBoschTxMsgs, haddr] at hwhite

/-- What two histories before a mode switch need to have in common for it. -/
def HistoriesAgree (id : HooksId) (param : UInt16) (s t : State) : Prop :=
  id = .hondaBosch → hondaBoschSendsBrake param →
    s.vars.honda.fwdBrake = t.vars.honda.fwdBrake ∧
      (t.alternativeExperience &&& altExpDisableStockAeb = 0 →
        SameThreshold s.vars.honda t.vars.honda)

theorem agree_start_hondaBosch {mode : UInt16} (hmode : registered mode = some .hondaBosch)
    (param : UInt16) {s t : State}
    (hexperience : s.alternativeExperience = t.alternativeExperience)
    (h : HistoriesAgree .hondaBosch param s t) :
    Agree .hondaBosch (t.reset.start .hondaBosch mode param).params.honda
      t.alternativeExperience (fun toSend => getAddr toSend = 0x1FA → hondaBoschSendsBrake param)
      (BrakeAgrees (hondaBoschSendsBrake param) t.alternativeExperience)
      (s.reset.start .hondaBosch mode param) (t.reset.start .hondaBosch mode param) := by
  refine Agree.start mode param hexperience ⟨rfl, rfl⟩ rfl ?_ ?_
  · exact ⟨rfl, fun hsends => (h rfl hsends).1, fun hsends => (h rfl hsends).2⟩
  · intro toSend hwhite haddr
    have hs := setSafetyHooks_configured hmode param s
    rw [setSafetyHooks_registered hmode] at hs
    rw [hs.whitelisted (by decide) (by decide)] at hwhite
    exact hondaBosch_whitelisted_brake s.params.honda s.vars.honda hwhite haddr

/-! ### What shows on Honda Bosch -/

/-- A session of Honda Bosch in which openpilot may send the brake message,
and no check is about the stock one. -/
structure BoschSendsBrake (s : State) : Prop where
  currentHooks : s.currentHooks = .hondaBosch
  hw : s.params.honda.hw = .bosch
  boschLong : s.params.honda.boschLong = true
  boschRadarless : s.params.honda.boschRadarless = false
  txMsgs : s.cfg.txMsgs = hondaBoschLongTxMsgs
  relayMalfunction : s.signals.relayMalfunction = false
  rxChecks : ∀ check ∈ s.cfg.rxChecks, ∀ j : Fin 3, (check.variant j).addr ≠ 0x1FA

theorem setSafetyHooks_boschSendsBrake {mode : UInt16}
    (hmode : registered mode = some .hondaBosch) {param : UInt16}
    (hsends : hondaBoschSendsBrake param) (s : State) :
    BoschSendsBrake (setSafetyHooks mode param s) := by
  obtain ⟨hlong, hradarless⟩ := hsends
  rw [setSafetyHooks_registered hmode]
  have hcfg : (hondaBoschInit param s.params.honda s.vars.honda).cfg =
      { rxChecks := if getFlag param.toNat 1 then
            hondaCommonRxChecks 1 ++ [hondaAltBrakeAddrCheck 1]
          else hondaCommonRxChecks 1
        txMsgs := hondaBoschLongTxMsgs } := by
    simp [hondaBoschInit, hlong, hradarless]
  refine ⟨rfl, rfl, hlong, hradarless, ?_, rfl, ?_⟩
  · change (hondaBoschInit param s.params.honda s.vars.honda).cfg.txMsgs = _
    rw [hcfg]
  · change ∀ check ∈ (hondaBoschInit param s.params.honda s.vars.honda).cfg.rxChecks.map
      (fun check : RxCheck => { check with status := {} }),
        ∀ j : Fin 3, (check.variant j).addr ≠ 0x1FA
    rw [hcfg]
    cases getFlag param.toNat 1 <;> decide

/-- A frame that no variant of a check is passes the validation unseen. -/
theorem getAddrCheckIndex_unknown {toPush : CANPacket} {rxChecks : List RxCheck}
    (h : ∀ check ∈ rxChecks, ∀ j : Fin 3, (check.variant j).isOf toPush = false) :
    getAddrCheckIndex toPush rxChecks = (none, rxChecks) := by
  induction rxChecks with
  | nil => rfl
  | cons check rest ih =>
      obtain ⟨hcheck, hrest⟩ := List.forall_mem_cons.mp h
      have hpresent : presentVariant toPush check = none := by
        unfold presentVariant
        rw [List.find?_eq_none]
        intro j _
        rw [hcheck j]
        exact Bool.false_ne_true
      have hselect : selectVariant toPush check = check := by
        simp only [selectVariant, hpresent, ite_self]
      have hmiss : check.selected.isOf toPush = false := hcheck check.status.index
      simp only [getAddrCheckIndex, hselect, hmiss, Bool.and_false, Bool.false_eq_true, if_false,
        ih hrest, Option.map_none]

/-- A brake command of zero. -/
def releasedBrake : CANPacket := .ofBytes 0x1FA 1 8 []

/-- The stock brake frame with the given first bytes, and its AEB bit. -/
def stockBrakeFrame (b0 b1 : UInt8) (aeb : Bool) : CANPacket :=
  .ofBytes 0x1FA 2 8 [b0, b1, 0, if aeb then 0x20 else 0]

/-- A brake command of zero is rejected exactly while the latch is set. -/
theorem BoschSendsBrake.txAccepted {s : State} (hs : BoschSendsBrake s) (ts : UInt32) :
    s.txAccepted ts releasedBrake = !s.vars.honda.fwdBrake := by
  have hwhite : s.whitelisted releasedBrake = true := by
    have hlisted : msgAllowed releasedBrake hondaBoschLongTxMsgs = true := by decide
    rw [State.whitelisted, hs.txMsgs, hlisted]
    rfl
  have hbus : hondaGetPtBus s.params.honda = 1 := by
    simp [hondaGetPtBus, hs.hw, hs.boschRadarless]
  have htx : (s.sending ts releasedBrake).tx =
      (hondaTxHook s.params.honda s.signals releasedBrake s.commands s.vars.honda).tx := by
    rw [State.sending, State.hooks, hs.currentHooks]
    rfl
  have haddr : getAddr releasedBrake = 0x1FA := by decide
  have hframe : getBus releasedBrake = 1 := by decide
  have hzero : hondaBrake releasedBrake = 0 := by decide
  rw [State.txAccepted, hs.relayMalfunction, hwhite, htx]
  simp [hondaTxHook, hondaTxBrake, haddr, hframe, hbus, hzero, longitudinalBrakeChecks,
    hondaNidecLongLimits]

/-- With the stock AEB enabled, a stock brake frame reaches the latch, and the
session goes on. -/
theorem BoschSendsBrake.rx {s : State} (hs : BoschSendsBrake s)
    (halt : s.alternativeExperience &&& altExpDisableStockAeb = 0) (ts : UInt32) (b0 b1 : UInt8)
    (aeb : Bool) :
    BoschSendsBrake (step s (.rx ts (stockBrakeFrame b0 b1 aeb))) ∧
      (step s (.rx ts (stockBrakeFrame b0 b1 aeb))).vars.honda =
        hondaRxStockAeb (stockBrakeFrame b0 b1 aeb) s.vars.honda := by
  have haddr : getAddr (stockBrakeFrame b0 b1 aeb) = 0x1FA := rfl
  have hbus : getBus (stockBrakeFrame b0 b1 aeb) = 2 := rfl
  have hunknown : rxMsgSafetyCheck s.hooks s.params ts (stockBrakeFrame b0 b1 aeb)
      s.cfg.rxChecks = (true, none, s.cfg.rxChecks) := by
    have hmiss : ∀ check ∈ s.cfg.rxChecks, ∀ j : Fin 3,
        (check.variant j).isOf (stockBrakeFrame b0 b1 aeb) = false := by
      intro check hcheck j
      have hne : (0x1FA == (check.variant j).addr) = false := by
        simpa using (hs.rxChecks check hcheck j).symm
      rw [CanMsgCheck.isOf, haddr, hne, Bool.false_and, Bool.false_and]
    simp only [rxMsgSafetyCheck, getAddrCheckIndex_unknown hmiss]
  have hhook : hondaRxHook (s.context ts) s.params.honda (stockBrakeFrame b0 b1 aeb)
      (s.signals, s.vars.honda) =
        (genericRxChecks (s.context ts) false s.signals,
          hondaRxStockAeb (stockBrakeFrame b0 b1 aeb) s.vars.honda) := by
    have halt' : (s.context ts).alternativeExperience &&& altExpDisableStockAeb = 0 := halt
    simp [hondaRxHook, guarded, haddr, hbus, halt', onSignals, onVars, hondaStockEcuDetected,
      hondaGetPtBus, hs.hw, hs.boschRadarless]
  have hsignals : s.rxSignals ts (stockBrakeFrame b0 b1 aeb) =
      (genericRxChecks (s.context ts) false s.signals,
        { s.vars with honda := hondaRxStockAeb (stockBrakeFrame b0 b1 aeb) s.vars.honda }) := by
    rw [State.rxSignals, State.rxValid, hunknown, if_pos rfl, State.hooks, hs.currentHooks]
    have hrx := congrArg
      (fun r : Signals × HondaVars => (r.1, ({ s.vars with honda := r.2 } : ModeVars))) hhook
    exact hrx
  have hchecks : s.rxChecksAfter ts (stockBrakeFrame b0 b1 aeb) = s.cfg.rxChecks := by
    rw [State.rxChecksAfter, hunknown]
  refine ⟨⟨hs.currentHooks, hs.hw, hs.boschLong, hs.boschRadarless, hs.txMsgs, ?_, ?_⟩, ?_⟩
  · change (s.rxSignals ts (stockBrakeFrame b0 b1 aeb)).1.relayMalfunction = false
    rw [hsignals]
    simp [genericRxChecks, hs.relayMalfunction]
  · change ∀ check ∈ s.rxChecksAfter ts (stockBrakeFrame b0 b1 aeb),
      ∀ j : Fin 3, (check.variant j).addr ≠ 0x1FA
    rw [hchecks]
    exact hs.rxChecks
  · change (s.rxSignals ts (stockBrakeFrame b0 b1 aeb)).2.honda = _
    rw [hsignals]

/-- After a frame that clears the latch and one with the AEB bit, the latch
tells how the stock brake compares with the brake. -/
theorem BoschSendsBrake.compares {s : State} (hs : BoschSendsBrake s)
    (halt : s.alternativeExperience &&& altExpDisableStockAeb = 0) (toPush : CANPacket) :
    (run step s
      [.rx 0 (stockBrakeFrame 0 0 false),
       .rx 0 (stockBrakeFrame (getByte8 toPush 0) (getByte8 toPush 1) true)]).txAccepted 0
        releasedBrake = !decide (hondaStockBrake toPush ≥ s.vars.honda.brake) := by
  obtain ⟨hclear, hvars⟩ := hs.rx halt 0 0 0 false
  obtain ⟨hset, hvars'⟩ := hclear.rx halt 0 (getByte8 toPush 0) (getByte8 toPush 1) true
  have hbrake : hondaStockBrake
      (stockBrakeFrame (getByte8 toPush 0) (getByte8 toPush 1) true) = hondaStockBrake toPush := rfl
  have haeb : ∀ b0 b1, hondaStockAeb (stockBrakeFrame b0 b1 true) = true := by
    intro b0 b1
    change (0x20 : UInt8).toNat.testBit 5 = true
    decide
  have hnone : hondaStockAeb (stockBrakeFrame 0 0 false) = false := rfl
  have haccepted := hset.txAccepted 0
  rw [run_cons, run_cons, run_nil, haccepted, hvars', hvars]
  simp only [hondaRxStockAeb, hnone, haeb, hbrake, Bool.not_false, Bool.not_true, if_true,
    Bool.false_eq_true, if_false]
  split <;> simp [*]

/-! ### Mode switches -/

/-- Sessions of the same calls look the same after any two histories exactly
when the histories agree in the brake and the latch of Honda Bosch, where
openpilot may send the brake message. -/
theorem mode_switch_independent_iff {mode : UInt16} {id : HooksId}
    (hmode : registered mode = some id) (param : UInt16) {before before' : State}
    (hexperience : before.alternativeExperience = before'.alternativeExperience) :
    (∀ events : List Event, (∀ e ∈ events, e.isSafetyCall = true) →
      trace step observe (setSafetyHooks mode param before) events =
        trace step observe (setSafetyHooks mode param before') events) ↔
      HistoriesAgree id param before before' := by
  constructor
  · rintro hsame rfl hsends
    have hs := setSafetyHooks_boschSendsBrake hmode hsends before
    have hs' := setSafetyHooks_boschSendsBrake hmode hsends before'
    have hvars : ∀ s, (setSafetyHooks mode param s).vars.honda =
        { s.vars.honda with brakeSwitchPrev := false } := by
      intro s
      rw [setSafetyHooks_registered hmode]
      rfl
    have hexp : ∀ s, (setSafetyHooks mode param s).alternativeExperience =
        s.alternativeExperience := by
      intro s
      rw [setSafetyHooks_registered hmode]
      rfl
    refine ⟨?_, ?_⟩
    · have htrace := hsame [.tx 0 releasedBrake] (by simp [Event.isSafetyCall])
      simp only [trace, observe, result, hs.txAccepted, hs'.txAccepted, hvars, List.cons.injEq,
        Prod.mk.injEq, and_true] at htrace
      revert htrace
      cases before.vars.honda.fwdBrake <;> cases before'.vars.honda.fwdBrake <;> simp
    · intro halt toPush
      have htrace := hsame
        [.rx 0 (stockBrakeFrame 0 0 false),
         .rx 0 (stockBrakeFrame (getByte8 toPush 0) (getByte8 toPush 1) true),
         .tx 0 releasedBrake] (by simp [Event.isSafetyCall])
      have hcompares := hs.compares (by rw [hexp, hexperience]; exact halt) toPush
      have hcompares' := hs'.compares (by rw [hexp]; exact halt) toPush
      simp only [run_cons, run_nil] at hcompares hcompares'
      simp only [trace, observe, result, hcompares, hcompares', hvars, List.cons.injEq,
        Prod.mk.injEq] at htrace
      have hlast := htrace.2.2.1.1
      revert hlast
      by_cases hb : hondaStockBrake toPush ≥ before.vars.honda.brake <;>
        by_cases hb' : hondaStockBrake toPush ≥ before'.vars.honda.brake <;> simp [hb, hb']
  · intro hagree events hcalls
    rw [setSafetyHooks_registered hmode, setSafetyHooks_registered hmode]
    by_cases hid : id = .hondaBosch
    · subst hid
      have hstart := agree_start_hondaBosch hmode param hexperience hagree
      exact hstart.trace_eq (hondaBosch_unobservable _ _ _) hcalls
    · have hstart := agree_start_of_ne hid mode param hexperience
      exact hstart.trace_eq (unobservable_eq _ _ _ _) hcalls

/-- A Honda Bosch with longitudinal control after two Nidec sessions: one in which a
stock AEB event is not over, and one in which it is. -/
theorem mode_switch_independent_iff_hondaBosch :
    (¬ ∀ events : List Event, (∀ e ∈ events, e.isSafetyCall = true) →
      trace step observe (setSafetyHooks safetyHondaBosch 2 bootState) events =
        trace step observe (setSafetyHooks safetyHondaBosch 2
          (session safetyHondaNidec 0 bootState [.rx 0 (stockBrakeFrame 1 0 true)])) events) ∧
    ∀ events : List Event, (∀ e ∈ events, e.isSafetyCall = true) →
      trace step observe (setSafetyHooks safetyHondaBosch 2 bootState) events =
        trace step observe (setSafetyHooks safetyHondaBosch 2
          (session safetyHondaNidec 0 bootState [.rx 0 (stockBrakeFrame 1 0 true),
            .rx 0 (stockBrakeFrame 0 0 false)])) events := by
  have hmode : registered safetyHondaBosch = some .hondaBosch := by decide
  have hsends : hondaBoschSendsBrake 2 := ⟨by decide, by decide⟩
  have hlatching : bootState.alternativeExperience = (session safetyHondaNidec 0 bootState
      [.rx 0 (stockBrakeFrame 1 0 true)]).alternativeExperience := rfl
  have hreleasing : bootState.alternativeExperience = (session safetyHondaNidec 0 bootState
      [.rx 0 (stockBrakeFrame 1 0 true),
        .rx 0 (stockBrakeFrame 0 0 false)]).alternativeExperience := rfl
  constructor
  · intro hsame
    have hagree := (mode_switch_independent_iff hmode 2 hlatching).mp hsame rfl hsends
    have hlatched : (session safetyHondaNidec 0 bootState
        [.rx 0 (stockBrakeFrame 1 0 true)]).vars.honda.fwdBrake = true := by
      decide
    rw [hlatched] at hagree
    cases hagree.1
  · have hagree : HistoriesAgree .hondaBosch 2 bootState
        (session safetyHondaNidec 0 bootState
          [.rx 0 (stockBrakeFrame 1 0 true), .rx 0 (stockBrakeFrame 0 0 false)]) :=
      fun _ _ => ⟨by decide, fun _ _ => Iff.rfl⟩
    exact (mode_switch_independent_iff hmode 2 hreleasing).mpr hagree

/-- The latch that a stock AEB frame sets in a Nidec session rejects brake
commands in the Bosch session after it. -/
theorem latch_survives_mode_switch :
    ¬ ∀ mode id param mode₁ param₁ events₁ mode₂ param₂ events₂,
      registered mode = some id →
      ∀ events : List Event, (∀ e ∈ events, e.isSafetyCall = true) →
        trace step observe
            (setSafetyHooks mode param (session mode₁ param₁ bootState events₁)) events =
          trace step observe
            (setSafetyHooks mode param (session mode₂ param₂ bootState events₂)) events := by
  intro hall
  have hmode : registered safetyHondaBosch = some .hondaBosch := by decide
  have hsame := hall safetyHondaBosch .hondaBosch 2 safetyHondaNidec 0 [] safetyHondaNidec 0
    [.rx 0 (stockBrakeFrame 1 0 true)] hmode [.tx 0 releasedBrake] (by simp [Event.isSafetyCall])
  revert hsame
  decide

end Panda.Safety
