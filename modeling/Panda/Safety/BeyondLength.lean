import Panda.Safety.CheckedBytes
import Panda.Safety.ModeSwitch
import Panda.Safety.RxBranches
import Panda.Safety.TxBranches

/-!
The bytes beyond the length of a frame. The hooks read fixed places of the data
and the length is checked for monitored and for whitelisted messages only, so
these bytes can matter: what an earlier packet left on the stack of `can_rx`
decides for a shorter frame. They do not matter in any call whose frame is long
enough for the branches that it takes.
-/

namespace Panda.Safety

open Library

/-- The calls differ at most in the bytes beyond the length of their frame. -/
inductive SameCall : Event → Event → Prop
  | rx (ts : UInt32) {msg msg' : CANPacket} (h : SameFrame msg msg') :
      SameCall (.rx ts msg) (.rx ts msg')
  | tx (ts : UInt32) {msg msg' : CANPacket} (h : SameFrame msg msg') :
      SameCall (.tx ts msg) (.tx ts msg')
  | other (e : Event) : SameCall e e

/-- The frame of the call covers the branches in which the mode's hook writes
something. -/
def FrameCovered (s : State) : Event → Prop
  | .rx _ toPush =>
      Covers (getLen toPush) (rxBranches s.currentHooks s.alternativeExperience s.params s.signals
        (getAddr toPush) (getBus toPush))
  | .tx _ toSend =>
      Covers (getLen toSend) (commandBranches s.currentHooks s.params s.signals
        (getAddr toSend) (getBus toSend))
  | _ => True

instance FrameCovered.decidable (s : State) : ∀ e, Decidable (FrameCovered s e)
  | .rx _ toPush => inferInstanceAs (Decidable (Covers (getLen toPush) _))
  | .tx _ toSend => inferInstanceAs (Decidable (Covers (getLen toSend) _))
  | .fwd _ _ | .tick _ | .modeSecond | .exitUnused _ => .isTrue trivial

/-- The return value of a call and the state after it. -/
def outcome (s : State) (e : Event) : Int × State := (result s e, step s e)

/-- What a session keeps: the configuration of the mode, and the lengths that
the list of checks names. -/
structure Monitored (id : HooksId) (s : State) : Prop where
  configured : Configured id s
  covered : ∀ check ∈ s.cfg.rxChecks, EntryCovered id check

theorem Monitored.after {id : HooksId} {s : State} (h : Monitored id s) (e : Event) :
    Monitored id (step s e) where
  configured := h.configured.run [e]
  covered := by
    intro check' hcheck'
    obtain ⟨i, hi⟩ := List.mem_iff_getElem?.mp hcheck'
    cases hbefore : s.cfg.rxChecks[i]? with
    | none =>
        rw [step_entry_none e hbefore] at hi
        cases hi
    | some check =>
        obtain ⟨after, hafter, hmsg, -⟩ := step_entry e hbefore
        rw [hafter] at hi
        cases hi
        exact (h.covered check (List.mem_of_getElem? hbefore)).of_msg hmsg

theorem setSafetyHooks_monitored {mode : UInt16} {id : HooksId} (hmode : registered mode = some id)
    (param : UInt16) (before : State) : Monitored id (setSafetyHooks mode param before) where
  configured := setSafetyHooks_configured hmode param before
  covered := by
    rw [setSafetyHooks_registered hmode]
    intro check hcheck
    obtain ⟨entry, hentry, rfl⟩ := List.mem_map.mp hcheck
    exact (init_rxChecks_covered id param _ _ entry hentry).of_msg rfl

theorem session_monitored {mode : UInt16} {id : HooksId} (hmode : registered mode = some id)
    (param : UInt16) (before : State) (events : List Event) :
    Monitored id (session mode param before events) :=
  run_invariant (fun _ e h => h.after e) (setSafetyHooks_monitored hmode param before) events

section Calls

variable {id : HooksId} {s : State} {msg msg' : CANPacket} {ts : UInt32}

theorem Monitored.rx_eq (hs : Monitored id s) (h : SameFrame msg msg')
    (hcovered : FrameCovered s (.rx ts msg)) :
    s.rxValid ts msg' = s.rxValid ts msg ∧ safetyRxHook ts msg' s = safetyRxHook ts msg s := by
  have hhooks : s.hooks = hooksOf id := by rw [State.hooks, hs.configured.currentHooks]
  have hcheck : rxMsgSafetyCheck s.hooks s.params ts msg' s.cfg.rxChecks =
      rxMsgSafetyCheck s.hooks s.params ts msg s.cfg.rxChecks := by
    rw [hhooks]
    exact rxMsgSafetyCheck_congr h hs.covered s.params ts
  have hrx : s.hooks.rx (s.context ts) s.params msg' (s.signals, s.vars) =
      s.hooks.rx (s.context ts) s.params msg (s.signals, s.vars) := rx_congr h hcovered
  have hvalid : s.rxValid ts msg' = s.rxValid ts msg := congrArg Prod.fst hcheck
  have hchecks : s.rxChecksAfter ts msg' = s.rxChecksAfter ts msg :=
    congrArg (fun r => r.2.2) hcheck
  have hsignals : s.rxSignals ts msg' = s.rxSignals ts msg := by
    unfold State.rxSignals
    rw [hvalid, hrx]
  refine ⟨hvalid, ?_⟩
  unfold safetyRxHook
  rw [hchecks, hsignals]

theorem Monitored.tx_eq (hs : Monitored id s) (h : SameFrame msg msg')
    (hcovered : FrameCovered s (.tx ts msg)) :
    s.txAccepted ts msg' = s.txAccepted ts msg ∧
      safetyTxHook ts msg' s = safetyTxHook ts msg s := by
  have hmemory : SameMemory (s.sending ts msg) (s.sending ts msg') :=
    tx_sameMemory h hcovered (s.context ts) s.commands s.vars
  have hallowed : msgAllowed msg' s.cfg.txMsgs = msgAllowed msg s.cfg.txMsgs := by
    simp only [msgAllowed, h.addr_eq, h.bus_eq, h.len_eq]
  have hwhite : s.whitelisted msg' = s.whitelisted msg := by
    unfold State.whitelisted
    rw [hallowed]
  constructor
  · unfold State.txAccepted
    rw [hwhite]
    cases hlisted : s.whitelisted msg with
    | false => simp only [Bool.and_false, Bool.false_and]
    | true =>
        have hlong : Covers (getLen msg) (txBranches s.currentHooks s.params (getAddr msg)) := by
          rw [hs.configured.currentHooks]
          by_cases hfree : id = .alloutput ∨ id = .elm327
          · rcases hfree with rfl | rfl <;> exact covers_nil _
          · rw [not_or] at hfree
            rw [hs.configured.whitelisted hfree.1 hfree.2] at hlisted
            exact whitelisted_covered hs.configured hlisted
        have hsending : s.sending ts msg' = s.sending ts msg :=
          tx_congr h hlong (s.context ts) s.signals s.commands s.vars
        rw [hsending]
  · dsimp only [safetyTxHook]
    rw [hmemory.commands, hmemory.vars]

end Calls

/-- Two calls that agree within the length of a frame that is long enough have
the same outcome. -/
theorem Monitored.outcome_eq {id : HooksId} {s : State} (hs : Monitored id s) {e e' : Event}
    (hsame : SameCall e e') (hcovered : FrameCovered s e) : outcome s e = outcome s e' := by
  cases hsame with
  | rx ts h =>
      obtain ⟨hvalid, hafter⟩ := hs.rx_eq h hcovered
      exact Prod.ext (congrArg Bool.toInt hvalid.symm) hafter.symm
  | tx ts h =>
      obtain ⟨haccepted, hafter⟩ := hs.tx_eq h hcovered
      exact Prod.ext (congrArg Bool.toInt haccepted.symm) hafter.symm
  | other => rfl

/-- From every reachable state, two runs of calls whose frames agree in address,
bus, length code and the bytes of their length have the same outcomes, as long
as each frame is long enough for the branches that its hook takes. -/
theorem bytes_beyond_length {mode : UInt16} {id : HooksId} (hmode : registered mode = some id)
    (param : UInt16) (before : State) (earlier : List Event) {events events' : List Event}
    (hsame : List.Forall₂ SameCall events events')
    (hcovered : Along step FrameCovered (session mode param before earlier) events) :
    trace step outcome (session mode param before earlier) events =
      trace step outcome (session mode param before earlier) events' := by
  refine trace_eq_of_pairs (I := Monitored id) (fun _ e hs => hs.after e) ?_
    (session_monitored hmode param before earlier) hsame hcovered
  intro s e e' hs hpair hlong
  have houtcome := hs.outcome_eq hpair hlong
  exact ⟨congrArg Prod.snd houtcome, houtcome⟩

/-- The cruise message of Toyota in one byte, before and after another packet
went through the buffer. -/
theorem bytes_beyond_length_toyota :
    trace step outcome (session safetyToyota 73 bootState [.modeSecond])
        [.rx 0 (.ofBytes 0x1D2 0 1 [0x30, 0xFF]), .tx 0 (.ofBytes 0x2E4 0 3 [0, 0, 1, 0xFF])] =
      trace step outcome (session safetyToyota 73 bootState [.modeSecond])
        [.rx 0 (.ofBytes 0x1D2 0 1 [0x30]), .tx 0 (.ofBytes 0x2E4 0 3 [0, 0, 1])] := by
  have hmode : registered safetyToyota = some .toyota := by decide
  apply bytes_beyond_length hmode 73 bootState [.modeSecond]
  · exact .cons (.rx 0 ⟨rfl, rfl, rfl, by decide⟩) (.cons (.tx 0 ⟨rfl, rfl, rfl, by decide⟩) .nil)
  · exact ⟨by decide, by decide, trivial⟩

/-- An empty cruise message takes what the packet on the stack held before: with
one content it engages, with the other one it does not. -/
theorem empty_frame_engages :
    ¬ ∀ (mode param : UInt16) (id : HooksId) (before : State) (events : List Event)
        (ts : UInt32) (toPush toPush' : CANPacket), registered mode = some id →
      SameFrame toPush toPush' →
      safetyRxHook ts toPush (session mode param before events) =
        safetyRxHook ts toPush' (session mode param before events) := by
  intro h
  have hmode : registered safetyToyota = some .toyota := by decide
  have hframes : SameFrame (.ofBytes 0x1D2 0 0 [0x30]) (.ofBytes 0x1D2 0 0 []) :=
    ⟨rfl, rfl, rfl, by decide⟩
  have hsame := h safetyToyota 73 .toyota bootState [] 0 _ _ hmode hframes
  have hcontrols := congrArg (fun s => s.signals.controlsAllowed) hsame
  revert hcontrols
  decide

end Panda.Safety
