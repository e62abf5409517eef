import Panda.Safety.Whitelist

/-!
The stock AEB of Honda Nidec. A stock brake frame whose brake is not below
openpilot's latches `honda_fwd_brake`, and the latch lets the stock frames
through and openpilot's brake commands not, until the AEB event is over. The
brake that is compared is that of the last command, accepted or not.
-/

namespace Panda.Safety

open Library

/-! ### The hooks -/

/-- The receive hook latches on stock brake frames only. -/
theorem hondaRxHook_vars (c : Context) (p : HondaParams) (toPush : CANPacket)
    (sv : Signals × HondaVars) :
    (hondaRxHook c p toPush sv).2.brake = sv.2.brake ∧
      (hondaRxHook c p toPush sv).2.fwdBrake =
        if (c.alternativeExperience &&& altExpDisableStockAeb) = 0 ∧ getBus toPush = 2 ∧
            getAddr toPush = 0x1FA then (hondaRxStockAeb toPush sv.2).fwdBrake
        else sv.2.fwdBrake := by
  have hlatch : ∀ v : HondaVars, (hondaRxStockAeb toPush v).brake = v.brake := by
    intro v
    unfold hondaRxStockAeb
    split_ifs <;> rfl
  by_cases hstock : (c.alternativeExperience &&& altExpDisableStockAeb) = 0 ∧
      getBus toPush = 2 ∧ getAddr toPush = 0x1FA
  · simp [hondaRxHook, hstock, hlatch]
  · rw [if_neg hstock]
    simp only [hondaRxHook, onSignals_snd, onVars_snd, guarded_snd, if_neg hstock, ite_self,
      hondaRxBrake]
    split_ifs <;> exact ⟨rfl, rfl⟩

/-- The brake command that the hook remembers and checks. -/
def IsBrakeCommand (toSend : CANPacket) : Prop :=
  getAddr toSend = 0x1FA ∧ getBus toSend = 0

instance (toSend : CANPacket) : Decidable (IsBrakeCommand toSend) :=
  inferInstanceAs (Decidable (_ ∧ _))

theorem hondaTxHook_vars {p : HondaParams} (hbus : hondaGetPtBus p = 0) (s : Signals)
    (toSend : CANPacket) (commands : Commands) (v : HondaVars) :
    (hondaTxHook p s toSend commands v).vars.brake =
        (if IsBrakeCommand toSend then hondaBrake toSend else v.brake) ∧
      (hondaTxHook p s toSend commands v).vars.fwdBrake = v.fwdBrake := by
  have hvars : (hondaTxHook p s toSend commands v).vars =
      if IsBrakeCommand toSend then { v with brake := hondaBrake toSend } else v := by
    simp only [hondaTxHook, hondaTxBrake, guarded_vars, block_vars, hbus, ite_self]
    rfl
  rw [hvars]
  split_ifs <;> exact ⟨rfl, rfl⟩

/-- With the latch set, a brake command is blocked. -/
theorem hondaTxHook_latched {p : HondaParams} (hbus : hondaGetPtBus p = 0) (s : Signals)
    {toSend : CANPacket} (hbrake : IsBrakeCommand toSend) (commands : Commands) {v : HondaVars}
    (hlatched : v.fwdBrake = true) : (hondaTxHook p s toSend commands v).tx = false := by
  obtain ⟨haddr, hframe⟩ := hbrake
  simp [hondaTxHook, hondaTxBrake, haddr, hframe, hbus, hlatched]

/-! ### The steps of a session -/

/-- A session of Honda Nidec with the stock AEB enabled. -/
structure NidecAeb (s : State) : Prop where
  configured : Configured .hondaNidec s
  enabled : s.alternativeExperience &&& altExpDisableStockAeb = 0

theorem NidecAeb.after {s : State} (hs : NidecAeb s) (events : List Event) :
    NidecAeb (run step s events) where
  configured := hs.configured.run events
  enabled := by
    rw [run_alternativeExperience]
    exact hs.enabled

theorem NidecAeb.ptBus {s : State} (hs : NidecAeb s) : hondaGetPtBus s.params.honda = 0 := by
  obtain ⟨param, m, v, hparams, -⟩ := hs.configured.init
  rw [hparams]
  rfl

theorem session_nidecAeb (param : UInt16) {before : State}
    (henabled : before.alternativeExperience &&& altExpDisableStockAeb = 0)
    (events : List Event) : NidecAeb (session safetyHondaNidec param before events) where
  configured := session_configured (by decide) param before events
  enabled := by
    have hkept : (session safetyHondaNidec param before events).alternativeExperience =
        before.alternativeExperience := run_alternativeExperience _ events
    rw [hkept]
    exact henabled

/-- The message is a stock brake frame. -/
def IsStockBrake (toPush : CANPacket) : Prop := getAddr toPush = 0x1FA ∧ getBus toPush = 2

/-- A processed message changes the latch by a stock brake frame only. -/
theorem NidecAeb.rx {s : State} (hs : NidecAeb s) {ts : UInt32} {toPush : CANPacket}
    (hvalid : s.rxValid ts toPush = true) :
    (step s (.rx ts toPush)).vars.honda.brake = s.vars.honda.brake ∧
      (IsStockBrake toPush → (step s (.rx ts toPush)).vars.honda.fwdBrake =
        (hondaRxStockAeb toPush s.vars.honda).fwdBrake) ∧
      (¬ IsStockBrake toPush →
        (step s (.rx ts toPush)).vars.honda.fwdBrake = s.vars.honda.fwdBrake) := by
  have hvars : (step s (.rx ts toPush)).vars.honda =
      (hondaRxHook (s.context ts) s.params.honda toPush (s.signals, s.vars.honda)).2 := by
    change (s.rxSignals ts toPush).2.honda = _
    rw [State.rxSignals, if_pos hvalid, State.hooks, hs.configured.currentHooks]
    rfl
  obtain ⟨hbrake, hfwd⟩ :=
    hondaRxHook_vars (s.context ts) s.params.honda toPush (s.signals, s.vars.honda)
  have henabled : (s.context ts).alternativeExperience &&& altExpDisableStockAeb = 0 := hs.enabled
  rw [hvars, hbrake, hfwd]
  refine ⟨rfl, ?_, ?_⟩
  · rintro ⟨haddr, hbus⟩
    rw [if_pos ⟨henabled, hbus, haddr⟩]
  · intro hother
    rw [if_neg]
    rintro ⟨-, hbus, haddr⟩
    exact hother ⟨haddr, hbus⟩

theorem rx_invalid_vars {s : State} {ts : UInt32} {toPush : CANPacket}
    (hinvalid : ¬ s.rxValid ts toPush = true) : (step s (.rx ts toPush)).vars = s.vars := by
  change (s.rxSignals ts toPush).2 = s.vars
  rw [State.rxSignals, if_neg hinvalid]

theorem NidecAeb.sending {s : State} (hs : NidecAeb s) (ts : UInt32) (toSend : CANPacket) :
    (s.sending ts toSend).tx =
        (hondaTxHook s.params.honda s.signals toSend s.commands s.vars.honda).tx ∧
      (s.sending ts toSend).vars.honda =
        (hondaTxHook s.params.honda s.signals toSend s.commands s.vars.honda).vars := by
  rw [State.sending, State.hooks, hs.configured.currentHooks]
  exact ⟨rfl, rfl⟩

/-! ### The brake of the last command -/

/-- The brake of the command that the event sends, accepted or not. -/
def sentBrake : Event → Option Nat
  | .tx _ toSend => if IsBrakeCommand toSend then some (hondaBrake toSend) else none
  | _ => none

/-- The brake of the last command of the events, zero if there is none. -/
def lastSentBrake (events : List Event) : Nat := ((events.filterMap sentBrake).getLast?).getD 0

/-- The brake of the command that the event sends, if it is accepted. -/
def acceptedBrake (s : State) : Event → Option Nat
  | .tx ts toSend =>
      if s.txAccepted ts toSend = true ∧ getAddr toSend = 0x1FA then some (hondaBrake toSend)
      else none
  | _ => none

/-- The brake of the last accepted command, zero if there is none. -/
def lastAcceptedBrake (s : State) (events : List Event) : Nat :=
  ((trace step acceptedBrake s events).reduceOption.getLast?).getD 0

theorem NidecAeb.step_brake {s : State} (hs : NidecAeb s) (e : Event) :
    (step s e).vars.honda.brake = (sentBrake e).getD s.vars.honda.brake := by
  cases e with
  | rx ts toPush =>
      by_cases hvalid : s.rxValid ts toPush = true
      · exact (hs.rx hvalid).1
      · rw [rx_invalid_vars hvalid]
        rfl
  | tx ts toSend =>
      have hbrake := (hondaTxHook_vars hs.ptBus s.signals toSend s.commands s.vars.honda).1
      change (s.sending ts toSend).vars.honda.brake = _
      rw [(hs.sending ts toSend).2, hbrake]
      simp only [sentBrake]
      split <;> rfl
  | _ => rfl

/-- The brake that is compared is that of the last command. -/
theorem NidecAeb.run_brake {s : State} (hs : NidecAeb s) (events : List Event) :
    (run step s events).vars.honda.brake =
      ((events.filterMap sentBrake).getLast?).getD s.vars.honda.brake := by
  induction events generalizing s with
  | nil => rfl
  | cons e es ih =>
      have hnext : NidecAeb (step s e) := hs.after [e]
      rw [run_cons, ih hnext, hs.step_brake e, List.filterMap_cons]
      cases sentBrake e with
      | none => rfl
      | some brake => rw [List.getLast?_cons, Option.getD_some, Option.getD_some]

/-! ### The latch -/

/-- The processed message ends the AEB event. -/
def ClearsAeb (s : State) : Event → Prop
  | .rx ts toPush =>
      s.rxValid ts toPush = true ∧ IsStockBrake toPush ∧ hondaStockAeb toPush = false
  | _ => False

theorem NidecAeb.step_latched {s : State} (hs : NidecAeb s) {e : Event}
    (hkeeps : ¬ ClearsAeb s e) (hlatched : s.vars.honda.fwdBrake = true) :
    (step s e).vars.honda.fwdBrake = true := by
  cases e with
  | rx ts toPush =>
      by_cases hvalid : s.rxValid ts toPush = true
      · obtain ⟨-, hstock, hother⟩ := hs.rx hvalid
        by_cases hframe : IsStockBrake toPush
        · have haeb : hondaStockAeb toPush = true := by
            by_contra haeb
            exact hkeeps ⟨hvalid, hframe, by simpa using haeb⟩
          rw [hstock hframe]
          simp only [hondaRxStockAeb, haeb, Bool.not_true, Bool.false_eq_true, if_false]
          split
          · rfl
          · exact hlatched
        · rw [hother hframe]
          exact hlatched
      · rw [rx_invalid_vars hvalid]
        exact hlatched
  | tx ts toSend =>
      have hfwd := (hondaTxHook_vars hs.ptBus s.signals toSend s.commands s.vars.honda).2
      change (s.sending ts toSend).vars.honda.fwdBrake = true
      rw [(hs.sending ts toSend).2, hfwd]
      exact hlatched
  | _ => exact hlatched

theorem NidecAeb.run_latched {s : State} (hs : NidecAeb s) {events : List Event}
    (hkeeps : Along step (fun s e => ¬ ClearsAeb s e) s events)
    (hlatched : s.vars.honda.fwdBrake = true) :
    (run step s events).vars.honda.fwdBrake = true := by
  have hstep : ∀ s e, ¬ ClearsAeb s e → (NidecAeb s ∧ s.vars.honda.fwdBrake = true) →
      (NidecAeb (step s e) ∧ (step s e).vars.honda.fwdBrake = true) := by
    rintro s e hkeeps ⟨hs, hlatched⟩
    exact ⟨hs.after [e], hs.step_latched hkeeps hlatched⟩
  exact (run_preserves hstep hkeeps ⟨hs, hlatched⟩).2

/-- The stock AEB passes through: the latch is set, the stock frame is
forwarded unless the relay malfunctions, and no brake command is accepted. -/
structure AebPasses (s : State) : Prop where
  latched : s.vars.honda.fwdBrake = true
  forwarded : s.signals.relayMalfunction = false → safetyFwdHook 2 0x1FA s = 0
  commands : ∀ ts toSend, getAddr toSend = 0x1FA → s.txAccepted ts toSend = false

/-- Brake commands are on the whitelist for bus 0 only. -/
theorem NidecAeb.whitelisted_brake {s : State} (hs : NidecAeb s) {toSend : CANPacket}
    (hwhite : s.whitelisted toSend = true) (haddr : getAddr toSend = 0x1FA) :
    IsBrakeCommand toSend := by
  rw [hs.configured.whitelisted (by decide) (by decide)] at hwhite
  have hbus := honda_whitelisted_bus hs.configured (Or.inl rfl) hwhite (Or.inr (Or.inl haddr))
  rw [hs.ptBus] at hbus
  exact ⟨haddr, hbus⟩

theorem NidecAeb.passes {s : State} (hs : NidecAeb s)
    (hlatched : s.vars.honda.fwdBrake = true) : AebPasses s where
  latched := hlatched
  forwarded hrelay := by
    rw [safetyFwdHook, hrelay, State.hooks, hs.configured.currentHooks]
    change hondaNidecFwdHook s.vars.honda 2 0x1FA = 0
    simp [hondaNidecFwdHook, hlatched]
  commands ts toSend haddr := by
    by_cases hwhite : s.whitelisted toSend = true
    · have hbrake := hs.whitelisted_brake hwhite haddr
      have htx := hondaTxHook_latched hs.ptBus s.signals hbrake s.commands hlatched
      rw [State.txAccepted, (hs.sending ts toSend).1, htx, Bool.and_false]
    · have hrejected : s.whitelisted toSend = false := by simpa using hwhite
      rw [State.txAccepted, hrejected, Bool.and_false, Bool.false_and]

/-- The stock AEB passes through from a processed stock frame with the AEB bit
on, whose brake is not below that of the last accepted command, until a later
frame ends the AEB event, as long as the last command before the frame, if it
was rejected, does not carry a larger brake than the frame. -/
theorem stock_aeb_passes (param : UInt16) {before : State}
    (henabled : before.alternativeExperience &&& altExpDisableStockAeb = 0)
    (events later : List Event) {ts : UInt32} {toPush : CANPacket}
    (hstock : IsStockBrake toPush) (haeb : hondaStockAeb toPush = true)
    (hprocessed : (session safetyHondaNidec param before events).rxValid ts toPush = true)
    (hbrake : lastAcceptedBrake (setSafetyHooks safetyHondaNidec param before) events ≤
      hondaStockBrake toPush)
    (hsent : lastSentBrake events =
        lastAcceptedBrake (setSafetyHooks safetyHondaNidec param before) events ∨
      lastSentBrake events ≤ hondaStockBrake toPush)
    (hlater : Along step (fun s e => ¬ ClearsAeb s e)
      (session safetyHondaNidec param before (events ++ [.rx ts toPush])) later) :
    AebPasses (session safetyHondaNidec param before (events ++ [.rx ts toPush] ++ later)) := by
  have hs := session_nidecAeb param henabled events
  have hnext := session_nidecAeb param henabled (events ++ [.rx ts toPush])
  have hlast := session_nidecAeb param henabled (events ++ [.rx ts toPush] ++ later)
  have hlastBrake : (session safetyHondaNidec param before events).vars.honda.brake =
      lastSentBrake events :=
    (session_nidecAeb param henabled []).run_brake events
  have hlatched : (session safetyHondaNidec param before
      (events ++ [.rx ts toPush])).vars.honda.fwdBrake = true := by
    rw [session_append]
    have hrx := (hs.rx hprocessed).2.1 hstock
    have hthreshold : hondaStockBrake toPush ≥
        (session safetyHondaNidec param before events).vars.honda.brake := by
      rw [hlastBrake]
      rcases hsent with haccepted | hrejected
      · rw [haccepted]
        exact hbrake
      · exact hrejected
    rw [run_cons, run_nil, hrx]
    simp [hondaRxStockAeb, haeb, hthreshold]
  refine hlast.passes ?_
  rw [session_append]
  exact hnext.run_latched hlater hlatched

/-- A stock brake frame with the AEB bit and a brake below 256. -/
def stockAebFrame (brake : UInt8) : CANPacket :=
  .ofBytes 0x1FA 2 8 [brake >>> 2, (brake &&& 3) <<< 6, 0, 0x20]

/-- Openpilot's brake command below 256. -/
def brakeCommand (brake : UInt8) : CANPacket :=
  .ofBytes 0x1FA 0 8 [brake >>> 2, (brake &&& 3) <<< 6]

theorem stock_aeb_passes_over_command :
    AebPasses (session safetyHondaNidec 0 bootState
      ([.tx 0 (brakeCommand 0)] ++ [.rx 0 (stockAebFrame 50)] ++ [.tx 0 (brakeCommand 60)])) := by
  have hlater : Along step (fun s e => ¬ ClearsAeb s e) (session safetyHondaNidec 0 bootState
      ([.tx 0 (brakeCommand 0)] ++ [.rx 0 (stockAebFrame 50)])) [.tx 0 (brakeCommand 60)] :=
    ⟨id, trivial⟩
  exact stock_aeb_passes 0 (by decide) [.tx 0 (brakeCommand 0)] [.tx 0 (brakeCommand 60)]
    ⟨by decide, by decide⟩ (by decide) (by decide) (by decide)
    (Or.inl (by decide)) hlater

/-- A relay malfunction stops the forwarding, and a rejected command raises the
brake that a stock frame is compared with. -/
theorem stock_aeb_blocked :
    (¬ ∀ param before events ts toPush later,
      before.alternativeExperience &&& altExpDisableStockAeb = 0 → IsStockBrake toPush →
      hondaStockAeb toPush = true →
      (session safetyHondaNidec param before events).rxValid ts toPush = true →
      lastAcceptedBrake (setSafetyHooks safetyHondaNidec param before) events ≤
        hondaStockBrake toPush →
      Along step (fun s e => ¬ ClearsAeb s e)
        (session safetyHondaNidec param before (events ++ [.rx ts toPush])) later →
      safetyFwdHook 2 0x1FA
        (session safetyHondaNidec param before (events ++ [.rx ts toPush] ++ later)) ≠ -1) ∧
    ¬ ∀ param before events ts toPush,
      before.alternativeExperience &&& altExpDisableStockAeb = 0 → IsStockBrake toPush →
      hondaStockAeb toPush = true →
      (session safetyHondaNidec param before events).rxValid ts toPush = true →
      lastAcceptedBrake (setSafetyHooks safetyHondaNidec param before) events ≤
        hondaStockBrake toPush →
      (session safetyHondaNidec param before events).signals.relayMalfunction = false →
      (session safetyHondaNidec param before
        (events ++ [.rx ts toPush])).vars.honda.fwdBrake = true := by
  constructor
  · intro hall
    have hfwd := hall 0 bootState [.modeSecond, .modeSecond, .rx 0 (.ofBytes 0xE4 0 5 [])] 0
      (stockAebFrame 50) [] (by decide) ⟨by decide, by decide⟩ (by decide)
      (by decide) (by decide) trivial
    revert hfwd
    decide
  · intro hall
    have hlatched := hall 0 bootState [.tx 0 (brakeCommand 60)] 0 (stockAebFrame 50) (by decide)
      ⟨by decide, by decide⟩ (by decide) (by decide) (by decide)
      (by decide)
    revert hlatched
    decide

end Panda.Safety
