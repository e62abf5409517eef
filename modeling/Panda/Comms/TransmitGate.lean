import Panda.Comms.CanfdConfig
import Panda.Comms.Checksums
import Panda.Safety.Relay

/-!
The safety hooks as the only gate to the buses. Between a call of `can_send` and a
mailbox a packet waits in a queue, and in that time anything may happen. So a run has a
list of the packets that the hooks let through, each judged in the state of its call,
and what is in the mailboxes of a bus is a part of this list, in its order.
-/

namespace Panda.Comms

open Library Safety Driver

/-! ### What the hooks let through -/

def clearedSend (toPush : CANPacket) (hw : Hardware) (d : Driver) : List (Nat × CANPacket) :=
  if d.main.safety.txAccepted hw.ts toPush then [(getBus toPush, toPush)] else []

/-- The packets of one transfer, each in the state that the ones before it leave. -/
def clearedAll : List CANPacket → (Nat → Hardware) → Driver → List (Nat × CANPacket)
  | [], _, _ => []
  | toPush :: packets, hw, d =>
      clearedSend toPush (hw 0) d ++
        clearedAll packets (fun i => hw (i + 1)) (d.canSend toPush (getBus toPush) false (hw 0))

def clearedWrite (data : List UInt8) (hw : Nat → Hardware) (d : Driver) : List (Nat × CANPacket) :=
  clearedAll (Comms.commsCanWrite data d.comms).1 hw
    { d with comms := (Comms.commsCanWrite data d.comms).2 }

/-- What one event brings through the hooks, with the number of its bus. -/
def cleared (d : Driver) : DriverEvent → List (Nat × CANPacket)
  | .send toPush hw => clearedSend toPush hw d
  | .write data hw => clearedWrite data hw d
  | .spiWrite data hw =>
      if data.length > 0 ∧ d.spiCanTxReady = true then
        clearedWrite data hw { d with spiCanTxReady := false }
      else []
  | .rx canNumber frame _ => clearedForward canNumber frame d
  | _ => []

def clearedOn (bus : Fin 3) (packets : List (Nat × CANPacket)) : List CANPacket :=
  packets.filterMap fun packet => if packet.1 = (bus : Nat) then some packet.2 else none

theorem clearedOn_append (bus : Fin 3) (xs ys : List (Nat × CANPacket)) :
    clearedOn bus (xs ++ ys) = clearedOn bus xs ++ clearedOn bus ys :=
  List.filterMap_append

/-! ### What was taken out of a queue and what is in it -/

/-- The packets that `process_can` took from the queue of the bus, and those that wait. -/
def carried (bus : Fin 3) (d : Driver) : List CANPacket :=
  d.log.filterMap (takenFrom bus) ++ (d.canQueues bus).queued

theorem carried_congr {d d' : Driver} (hlog : d'.log = d.log) (hqueues : d'.canQueues = d.canQueues)
    (bus : Fin 3) : carried bus d' = carried bus d := by
  rw [carried, hlog, hqueues, carried]

theorem carried_refresh (bus : Fin 3) (d : Driver) :
    carried bus d.refreshCanTxSlotsAvailable = carried bus d := rfl

theorem carried_note {entry : Entry} {bus : Fin 3} (h : takenFrom bus entry = none) (d : Driver) :
    carried bus (d.note entry) = carried bus d := by
  rw [carried, Driver.note, filterMap_snoc, h, Option.toList_none, List.append_nil, carried]

theorem carried_pushRx (bus : Fin 3) (toPush : CANPacket) (d : Driver) :
    carried bus (d.pushRx toPush) = carried bus d := by
  unfold Driver.pushRx
  rcases canPush toPush d.comms.canRxQ with ⟨ret, q⟩
  cases ret with
  | false => exact carried_note rfl _
  | true => exact carried_note rfl _

/-- A push to a queue carries at most the packet. -/
theorem carried_pushTx (b bus : Fin 3) (toPush : CANPacket) (d : Driver) :
    (carried b (d.pushTx bus toPush)).Sublist
      (carried b d ++ clearedOn b [((bus : Nat), toPush)]) := by
  have hqueue := (canPush_spec toPush (d.canQueues bus)).2
  unfold Driver.pushTx
  rcases hpush : canPush toPush (d.canQueues bus) with ⟨ret, q⟩
  rw [hpush] at hqueue
  have hnote : takenFrom b (if ret then .accepted bus toPush else .txOverflow bus toPush) =
      none := by
    cases ret with
    | false => rfl
    | true => rfl
  simp only at hqueue ⊢
  rw [carried_note hnote, carried, carried]
  dsimp only
  by_cases hb : b = bus
  · subst hb
    have hcleared : clearedOn b [((b : Nat), toPush)] = [toPush] := by simp [clearedOn]
    rw [hcleared, Function.update_self, List.append_assoc]
    apply List.Sublist.append_left
    rw [hqueue]
    split
    · exact List.Sublist.refl _
    · exact List.sublist_append_left _ _
  · rw [Function.update_of_ne hb]
    exact List.sublist_append_left _ _

/-- `process_can` moves a packet from the queue to the log. -/
theorem carried_processCan (bus canNumber : Fin 3) (hw : Hardware) (d : Driver) :
    carried bus (d.processCan canNumber hw) = carried bus d := by
  rcases d.processCan_cases canNumber hw with hsame | ⟨toSend, q, hpop, hpopped⟩
  · rw [hsame]
  obtain ⟨hhead, htail⟩ := canPop_spec (d.canQueues (d.busConfig canNumber).busLookup)
  rw [hpop] at hhead htail
  have hqueued : (d.canQueues (d.busConfig canNumber).busLookup).queued = toSend :: q.queued := by
    rw [htail]
    exact (List.cons_head?_tail hhead.symm).symm
  generalize (d.busConfig canNumber).busLookup = source at *
  have htake : ∀ entry f, takenFrom bus entry = (if source = bus then some toSend else none) →
      carried bus (({ d with canQueues := Function.update d.canQueues source q }.count canNumber
        f).note entry) = carried bus d := by
    intro entry f hentry
    rw [carried, Driver.note, filterMap_snoc, hentry, carried]
    change d.log.filterMap (takenFrom bus) ++ _ ++
      (Function.update d.canQueues source q bus).queued = _
    by_cases hb : source = bus
    · subst hb
      rw [if_pos rfl, Function.update_self, hqueued]
      simp
    · rw [if_neg hb, Function.update_of_ne (Ne.symm hb)]
      simp
  rw [hpopped, carried_refresh]
  split
  · rw [Driver.transmit, carried_pushRx]
    exact htake _ _ rfl
  · exact htake _ _ rfl

theorem carried_enqueue (bus : Fin 3) (toPush : CANPacket) (busNumber : Nat) (hw : Hardware)
    (d : Driver) : (carried bus (d.enqueue toPush busNumber hw)).Sublist
      (carried bus d ++ clearedOn bus [(busNumber, toPush)]) := by
  unfold Driver.enqueue
  split
  next h =>
    rw [carried_processCan]
    exact carried_pushTx bus ⟨busNumber, h⟩ toPush d
  next => exact List.sublist_append_left _ _

/-- `can_send` carries what the hook cleared. -/
theorem carried_canSend (bus : Fin 3) (toPush : CANPacket) (hw : Hardware) (d : Driver) :
    (carried bus (d.canSend toPush (getBus toPush) false hw)).Sublist
      (carried bus d ++ clearedOn bus (clearedSend toPush hw d)) := by
  have hnote : carried bus ((d.note (.handed (getBus toPush) toPush)).runTxHook toPush hw.ts) =
      carried bus d := by
    rw [carried_congr rfl rfl]
    exact carried_note rfl d
  unfold Driver.canSend
  simp only [Bool.false_eq_true, if_false]
  rw [clearedSend, ← hnote]
  change (carried bus (if d.main.safety.txAccepted hw.ts toPush = true then _ else _)).Sublist _
  split
  next => exact carried_enqueue bus toPush _ hw _
  next =>
    rw [Driver.reject, carried_pushRx, carried_note rfl]
    exact List.sublist_append_left _ _

theorem carried_sendAll (bus : Fin 3) (packets : List CANPacket) (hw : Nat → Hardware)
    (d : Driver) : (carried bus (d.sendAll packets hw)).Sublist
      (carried bus d ++ clearedOn bus (clearedAll packets hw d)) := by
  induction packets generalizing hw d with
  | nil =>
    simp only [clearedAll, clearedOn, List.filterMap_nil, List.append_nil]
    exact List.Sublist.refl _
  | cons toPush packets ih =>
    rw [clearedAll, clearedOn_append, ← List.append_assoc]
    exact (ih _ _).trans ((carried_canSend bus toPush (hw 0) d).append_right _)

theorem carried_commsCanWrite (bus : Fin 3) (data : List UInt8) (hw : Nat → Hardware)
    (d : Driver) : (carried bus (d.commsCanWrite data hw)).Sublist
      (carried bus d ++ clearedOn bus (clearedWrite data hw d)) :=
  carried_sendAll bus _ hw _

theorem carried_forward (bus canNumber : Fin 3) (frame : RxFrame) (hw : Hardware) (d : Driver) :
    (carried bus (d.forward canNumber (d.busConfig canNumber).busLookup frame hw)).Sublist
      (carried bus d ++ clearedOn bus (clearedForward canNumber frame d)) := by
  have hnote : ∀ busNumber toPush,
      carried bus (d.note (.handed busNumber toPush)) = carried bus d := by
    intro busNumber toPush
    exact carried_note rfl d
  unfold Driver.forward
  rw [clearedForward]
  dsimp only
  split
  next =>
    rw [← hnote]
    exact carried_enqueue bus _ _ hw _
  next => exact List.sublist_append_left _ _

theorem carried_canRx (bus canNumber : Fin 3) (frame : RxFrame) (hw : Hardware) (d : Driver) :
    (carried bus (d.canRx canNumber frame hw)).Sublist
      (carried bus d ++ clearedOn bus (clearedForward canNumber frame d)) := by
  have hlater : ∀ (d' : Driver) (toPush : CANPacket),
      carried bus ((((d'.runRxHook toPush hw.ts).note (.received toPush)).pushRx toPush).raiseConfig
        canNumber frame.fifo) = carried bus d' := by
    intro d' toPush
    change carried bus (((d'.runRxHook toPush hw.ts).note (.received toPush)).pushRx toPush) = _
    rw [carried_pushRx]
    exact carried_note rfl (d'.runRxHook toPush hw.ts)
  unfold Driver.canRx
  dsimp only
  rw [hlater]
  exact carried_forward bus canNumber frame hw (d.count canNumber _)

/-- One event carries at most what it clears. -/
theorem driverStep_carried (bus : Fin 3) (d : Driver) (e : DriverEvent) :
    (carried bus (driverStep d e)).Sublist (carried bus d ++ clearedOn bus (cleared d e)) := by
  have hsame : ∀ {d' : Driver}, carried bus d' = carried bus d →
      (carried bus d').Sublist (carried bus d ++ clearedOn bus []) := by
    intro d' h
    rw [h]
    exact List.sublist_append_left _ _
  cases e with
  | send toPush hw => exact carried_canSend bus toPush hw d
  | write data hw => exact carried_commsCanWrite bus data hw d
  | spiWrite data hw =>
    change (carried bus (d.spiCanWrite data hw).2).Sublist _
    unfold Driver.spiCanWrite
    simp only [cleared]
    split
    next => exact carried_commsCanWrite bus data hw { d with spiCanTxReady := false }
    next => exact hsame rfl
  | read maxLen => exact hsame (carried_note rfl _)
  | processCan canNumber hw => exact hsame (carried_processCan bus canNumber hw d)
  | rx canNumber frame hw => exact carried_canRx bus canNumber frame hw d
  | clearTx b =>
    apply List.Sublist.trans _ (List.sublist_append_left _ _)
    apply List.Sublist.append_left
    change ((Function.update d.canQueues b (d.canQueues b).clear bus).queued).Sublist _
    by_cases hb : bus = b
    · subst hb
      rw [Function.update_self, CanRing.clear_queued]
      exact List.nil_sublist _
    · rw [Function.update_of_ne hb]
  | clearRx => exact hsame rfl
  | setOrientation flipped => exact hsame rfl
  | setDataBitrate param1 param2 hw =>
    apply hsame
    change carried bus (d.setDataBitrate param1 param2 hw) = _
    unfold Driver.setDataBitrate
    split
    · exact carried_processCan bus _ hw _
    · rfl
  | setNonIso param1 param2 hw =>
    apply hsame
    exact carried_processCan bus _ hw _
  | main board e => exact hsame rfl

/-! ### Runs -/

def clearedAlong (d : Driver) (events : List DriverEvent) : List (Nat × CANPacket) :=
  (trace driverStep cleared d events).flatten

theorem run_carried (bus : Fin 3) {d : Driver} (h : carried bus d = [])
    (events : List DriverEvent) :
    (carried bus (run driverStep d events)).Sublist (clearedOn bus (clearedAlong d events)) := by
  have hstep : ∀ (history : List (List (Nat × CANPacket))) (d : Driver) (e : DriverEvent),
      (carried bus d).Sublist (clearedOn bus history.flatten) →
      (carried bus (driverStep d e)).Sublist
        (clearedOn bus (history ++ [cleared d e]).flatten) := by
    intro history d e hd
    rw [List.flatten_append, List.flatten_singleton, clearedOn_append]
    exact (driverStep_carried bus d e).trans (hd.append_right _)
  have hstart : (carried bus d).Sublist
      (clearedOn bus ([] : List (List (Nat × CANPacket))).flatten) := by
    rw [h]
    exact List.nil_sublist _
  exact trace_preserves
    (P := fun history d => (carried bus d).Sublist (clearedOn bus history.flatten))
    hstep hstart events

theorem writtenTo_sublist (bus : Fin 3) (log : List Entry) :
    (log.filterMap (writtenTo bus)).Sublist (log.filterMap (takenFrom bus)) := by
  induction log with
  | nil => exact List.Sublist.refl _
  | cons entry log ih =>
    rw [List.filterMap_cons, List.filterMap_cons]
    cases hwritten : writtenTo bus entry with
    | none =>
      cases takenFrom bus entry with
      | none => exact ih
      | some packet => exact ih.cons packet
    | some packet =>
      have htaken : takenFrom bus entry = some packet := by
        cases entry <;> simp_all [writtenTo, takenFrom]
      rw [htaken]
      exact ih.cons_cons packet

/-- The frames in the mailboxes of a bus, and behind them the packets that wait for it,
are in order a part of what the safety hooks let through to the bus. -/
theorem transmit_gate (main : Main.State) (events : List DriverEvent) (bus : Fin 3) :
    let d := run driverStep (initialDriver main) events
    (d.log.filterMap (writtenTo bus) ++ (d.canQueues bus).queued).Sublist
      (clearedOn bus (clearedAlong (initialDriver main) events)) := by
  intro d
  have hempty : carried bus (initialDriver main) = [] := CanRing.queued_eq_nil.mpr rfl
  exact ((writtenTo_sublist bus d.log).append_right _).trans (run_carried bus hempty events)

/-! ### A closed gate -/

/-- The relay malfunction is latched, or the hooks of SILENT and NOOUTPUT are set. -/
def Closed (s : Safety.State) : Prop :=
  s.signals.relayMalfunction = true ∨
    s.currentHooks = .nooutput ∧ registered s.currentSafetyMode = some .nooutput

/-- An event of the main loop that selects a mode with other hooks: the request for
it, or in such a mode a tick that finds another harness. -/
def Reopens (board : Main.Board) (s : Main.State) : Main.Event → Prop
  | .tick input =>
      Main.harnessDetectOrientation board input.sensed s.harness ≠ s.prevHarnessStatus ∧
        registered s.mode ≠ some .nooutput
  | .control req =>
      req.request = 0xdc ∧ registered (Main.selectedMode req.param1) ≠ some .nooutput
  | _ => False

/-- No event of the main loop opens the gate. -/
def Settled (d : Driver) : DriverEvent → Prop
  | .main board e => ¬ Reopens board d.main e
  | _ => True

theorem txAccepted_closed {s : Safety.State} (h : Closed s) (ts : UInt32) (toSend : CANPacket) :
    s.txAccepted ts toSend = false := by
  rcases h with hrelay | ⟨hhooks, -⟩
  · exact txAccepted_of_relayMalfunction hrelay ts toSend
  · have htx : (s.sending ts toSend).tx = false := by
      unfold State.sending State.hooks
      rw [hhooks]
      rfl
    rw [State.txAccepted, htx, Bool.and_false]

theorem safetyFwdHook_closed {s : Safety.State} (h : Closed s) (busNum addr : Int) :
    safetyFwdHook busNum addr s = -1 := by
  unfold safetyFwdHook
  split
  next => rfl
  next hrelay =>
    rcases h with hset | ⟨hhooks, -⟩
    · exact absurd hset hrelay
    · unfold State.hooks
      rw [hhooks]
      rfl

theorem Closed.step {s : Safety.State} (h : Closed s) (e : Safety.Event) :
    Closed (Safety.step s e) := by
  rcases h with hrelay | ⟨hhooks, hmode⟩
  · exact .inl (step_relayMalfunction hrelay e)
  · rw [← step_currentHooks s e] at hhooks
    rw [← step_currentSafetyMode s e] at hmode
    exact .inr ⟨hhooks, hmode⟩

/-- A mode whose hooks let nothing through closes the gate. -/
theorem selectHooks_closed {mode : UInt16}
    (h : registered (Main.selectedMode mode) = some .nooutput) (param : UInt16)
    (s : Safety.State) : Closed (Main.selectHooks mode param s) := by
  have hset : ∀ (mode param : UInt16) (s : Safety.State), registered mode = some .nooutput →
      Closed (setSafetyHooks mode param s) := by
    intro mode param s hmode
    rw [setSafetyHooks_registered hmode]
    exact .inr ⟨rfl, hmode⟩
  simp only [Main.selectHooks]
  unfold Main.selectedMode at h
  split
  next hstatus =>
    rw [if_pos hstatus] at h
    exact hset _ _ _ h
  next hstatus =>
    rw [if_neg hstatus] at h
    exact hset _ _ _ h

theorem setSafetyMode_closed {board : Main.Board} {mode : UInt16}
    (h : registered (Main.selectedMode mode) = some .nooutput) (param : UInt16)
    (s : Main.State) : Closed (Main.setSafetyMode board mode param s).safety := by
  rw [Main.setSafetyMode_safety]
  exact selectHooks_closed h param s.safety

theorem registered_silent : registered (Main.selectedMode safetySilent) = some .nooutput := by
  decide

/-- A registered mode is the one that is selected. -/
theorem selectedMode_registered {mode : UInt16} {id : HooksId} (h : registered mode = some id) :
    Main.selectedMode mode = mode := by
  have hstatus : setStatus mode ≠ -1 := by simp [setStatus, h]
  exact if_neg hstatus

theorem harnessPart_closed {board : Main.Board} {input : Main.TickInput} {s : Main.State}
    (hsettled : ¬ Reopens board s (.tick input)) (h : Closed s.safety) :
    Closed (Main.harnessPart board input s).safety := by
  simp only [Main.harnessPart]
  apply guarded_preserves (P := fun s : Main.State => Closed s.safety)
  · intro hchanged _
    have hmode : registered s.mode = some .nooutput := by
      by_contra hother
      exact hsettled ⟨hchanged, hother⟩
    apply setSafetyMode_closed
    change registered (Main.selectedMode s.mode) = _
    rw [selectedMode_registered hmode]
    exact hmode
  · exact h

theorem secondTick_closed {board : Main.Board} {input : Main.TickInput} {s : Main.State}
    (h : Closed s.safety) : Closed (Main.secondTick board input s).safety := by
  have hunused : Closed (exitUnusedControls s.heartbeatEngaged s.safety) :=
    h.step (.exitUnused s.heartbeatEngaged)
  simp only [Main.secondTick]
  apply (Closed.step · (.tick input.ts))
  apply (Closed.step · .modeSecond)
  apply guarded_preserves (P := fun s : Main.State => Closed s.safety)
  · intro _ ht
    simp only [Main.loseHeartbeat]
    apply guarded_preserves (P := fun s : Main.State => Closed s.safety)
    · intro _ _
      exact setSafetyMode_closed registered_silent 0 _
    · exact ht
  · exact hunused

theorem commsControlHandler_closed {board : Main.Board} {req : Main.ControlPacket}
    {s : Main.State} (hsettled : ¬ Reopens board s (.control req)) (h : Closed s.safety) :
    Closed (Main.commsControlHandler board req s).safety := by
  unfold Main.commsControlHandler
  split_ifs with _ hmode
  · exact h
  · apply setSafetyMode_closed
    by_contra hother
    exact hsettled ⟨hmode, hother⟩
  · exact h
  · exact h
  · exact h
  · exact h
  · exact h
  · exact h
  · exact h

theorem ignitionCanHook_closed {toPush : CANPacket} {s : Main.State} (h : Closed s.safety) :
    Closed (Main.ignitionCanHook toPush s).safety := by
  rw [Main.ignitionCanHook_same toPush s]
  exact h

/-- The main loop keeps the gate closed. -/
theorem mainStep_closed {board : Main.Board} {s : Main.State} {e : Main.Event}
    (hsettled : ¬ Reopens board s e) (h : Closed s.safety) :
    Closed (Main.step board s e).safety := by
  cases e with
  | tick input =>
    simp only [Main.step, Main.tickHandler]
    apply guarded_preserves (P := fun s : Main.State => Closed s.safety)
    · intro _ ht
      exact secondTick_closed ht
    · exact harnessPart_closed hsettled h
  | rx ts toPush => exact ignitionCanHook_closed (h.step (.rx ts toPush))
  | tx ts toSend => exact h.step (.tx ts toSend)
  | control req => exact commsControlHandler_closed hsettled h
  | restart sensed => exact setSafetyMode_closed registered_silent 0 _

/-! ### The driver behind a closed gate -/

/-- The gate is closed and no bus is forwarded by the table. -/
structure Shut (d : Driver) : Prop where
  closed : Closed d.main.safety
  forwardingBus : ∀ bus, (d.busConfig bus).forwardingBus = -1

theorem Shut.busFwdNum {d : Driver} (h : Shut d) (canNumber busNumber : Fin 3)
    (toPush : CANPacket) : d.busFwdNum canNumber busNumber toPush = -1 := by
  unfold Driver.busFwdNum
  rw [safetyFwdHook_closed h.closed]
  exact h.forwardingBus canNumber

theorem Shut.canSend {d : Driver} (h : Shut d) (toPush : CANPacket) (hw : Hardware) :
    Shut (d.canSend toPush (getBus toPush) false hw) where
  closed := by
    rw [canSend_main]
    exact h.closed.step (.tx hw.ts toPush)
  forwardingBus := by
    rw [canSend_busConfig]
    exact h.forwardingBus

theorem Shut.sendAll {d : Driver} (h : Shut d) (packets : List CANPacket) (hw : Nat → Hardware) :
    Shut (d.sendAll packets hw) := by
  induction packets generalizing hw d with
  | nil => exact h
  | cons toPush packets ih => exact ih (h.canSend toPush (hw 0)) _

theorem Shut.commsCanWrite {d : Driver} (h : Shut d) (data : List UInt8) (hw : Nat → Hardware) :
    Shut (d.commsCanWrite data hw) := by
  obtain ⟨hclosed, hforwarding⟩ := Shut.sendAll
    (d := { d with comms := (Comms.commsCanWrite data d.comms).2 }) ⟨h.closed, h.forwardingBus⟩
    (Comms.commsCanWrite data d.comms).1 hw
  exact ⟨hclosed, hforwarding⟩

theorem Shut.update {d : Driver} (h : Shut d) {i : Fin 3} {config : BusConfig}
    (hsame : config.forwardingBus = (d.busConfig i).forwardingBus) :
    Shut { d with busConfig := Function.update d.busConfig i config } where
  closed := h.closed
  forwardingBus bus := by
    by_cases hbus : bus = i
    · subst hbus
      change (Function.update d.busConfig bus config bus).forwardingBus = -1
      rw [Function.update_self, hsame]
      exact h.forwardingBus bus
    · change (Function.update d.busConfig i config bus).forwardingBus = -1
      rw [Function.update_of_ne hbus]
      exact h.forwardingBus bus

theorem Shut.processCan {d : Driver} (h : Shut d) (canNumber : Fin 3) (hw : Hardware) :
    Shut (d.processCan canNumber hw) where
  closed := by
    rw [processCan_main]
    exact h.closed
  forwardingBus := by
    rw [processCan_busConfig]
    exact h.forwardingBus

theorem Shut.raiseConfig {d : Driver} (h : Shut d) (canNumber : Fin 3) (fifo : CanfdFifo) :
    Shut (d.raiseConfig canNumber fifo) := h.update rfl

theorem Shut.canRx {d : Driver} (h : Shut d) (canNumber : Fin 3) (frame : RxFrame)
    (hw : Hardware) : Shut (d.canRx canNumber frame hw) := by
  have hcounted : ∀ f, Shut (d.count canNumber f) := fun f => ⟨h.closed, h.forwardingBus⟩
  unfold Driver.canRx Driver.forward
  dsimp only
  rw [if_neg (not_not_intro ((hcounted _).busFwdNum canNumber _ _))]
  apply Shut.raiseConfig
  exact ⟨ignitionCanHook_closed (h.closed.step (.rx hw.ts _)), h.forwardingBus⟩

theorem Shut.canSetOrientation {d : Driver} (h : Shut d) (flipped : Bool) :
    Shut (d.canSetOrientation flipped) := by
  let turned (bus : Fin 3) : BusConfig :=
    { d.busConfig bus with
      busLookup := if flipped then bus.rev else bus
      canNumLookup := if flipped then bus.rev else bus }
  have hfirst : Shut { d with busConfig := Function.update d.busConfig 0 (turned 0) } :=
    h.update rfl
  exact hfirst.update rfl

theorem Shut.step {d : Driver} (h : Shut d) {e : DriverEvent} (hsettled : Settled d e) :
    Shut (driverStep d e) := by
  cases e with
  | send toPush hw => exact h.canSend toPush hw
  | write data hw => exact h.commsCanWrite data hw
  | spiWrite data hw =>
    change Shut (d.spiCanWrite data hw).2
    unfold Driver.spiCanWrite
    split
    next =>
      have hclear : Shut { d with spiCanTxReady := false } := ⟨h.closed, h.forwardingBus⟩
      exact hclear.commsCanWrite data hw
    next => exact h
  | read maxLen => exact ⟨h.closed, h.forwardingBus⟩
  | processCan canNumber hw => exact h.processCan canNumber hw
  | rx canNumber frame hw => exact h.canRx canNumber frame hw
  | clearTx bus => exact ⟨h.closed, h.forwardingBus⟩
  | clearRx => exact ⟨h.closed, h.forwardingBus⟩
  | setOrientation flipped => exact h.canSetOrientation flipped
  | setDataBitrate param1 param2 hw =>
    change Shut (d.setDataBitrate param1 param2 hw)
    unfold Driver.setDataBitrate
    split
    next =>
      apply Shut.processCan
      exact h.update rfl
    next => exact h
  | setNonIso param1 param2 hw =>
    apply Shut.processCan
    exact h.update rfl
  | main board e => exact ⟨mainStep_closed hsettled h.closed, h.forwardingBus⟩

/-- With the gate closed no packet passes. -/
theorem Shut.cleared {d : Driver} (h : Shut d) (e : DriverEvent) : cleared d e = [] := by
  have hsend : ∀ (d : Driver) toPush hw, Shut d → clearedSend toPush hw d = [] := by
    intro d toPush hw hd
    rw [clearedSend, txAccepted_closed hd.closed]
    rfl
  have hall : ∀ packets (hw : Nat → Hardware) (d : Driver), Shut d →
      clearedAll packets hw d = [] := by
    intro packets
    induction packets with
    | nil =>
      intro hw d hd
      rfl
    | cons toPush packets ih =>
      intro hw d hd
      rw [clearedAll, hsend d toPush _ hd, List.nil_append]
      exact ih _ _ (hd.canSend toPush (hw 0))
  cases e with
  | send toPush hw => exact hsend d toPush hw h
  | write data hw => exact hall _ hw _ ⟨h.closed, h.forwardingBus⟩
  | spiWrite data hw =>
    simp only [Comms.cleared]
    split
    next => exact hall _ hw _ ⟨h.closed, h.forwardingBus⟩
    next => rfl
  | rx canNumber frame hw =>
    change clearedForward canNumber frame d = []
    simp only [clearedForward, h.busFwdNum]
    rfl
  | _ => rfl

theorem driverStep_log (d : Driver) (e : DriverEvent) : d.log <+: (driverStep d e).log := by
  obtain ⟨added, hlog, -⟩ := driverStep_adds d e
  exact ⟨added, hlog.symm⟩

/-- While the relay malfunction is latched, or the hooks of SILENT or NOOUTPUT are set,
and nothing selects another mode, the frames that reach the mailboxes of a bus come in
order from what waited for it when the gate closed. -/
theorem closed_gate {d : Driver} (h : Shut d) {events : List DriverEvent}
    (hsettled : Along driverStep Settled d events) (bus : Fin 3) :
    let d' := run driverStep d events
    ∃ frames, d'.log.filterMap (writtenTo bus) = d.log.filterMap (writtenTo bus) ++ frames ∧
      (frames ++ (d'.canQueues bus).queued).Sublist (d.canQueues bus).queued := by
  intro d'
  have hrun : Shut d' ∧ d.log <+: d'.log ∧ (carried bus d').Sublist (carried bus d) := by
    apply run_preserves (P := fun t =>
      Shut t ∧ d.log <+: t.log ∧ (carried bus t).Sublist (carried bus d)) _ hsettled
    · exact ⟨h, List.prefix_refl _, List.Sublist.refl _⟩
    · rintro t e hok ⟨hshut, hlog, hcarried⟩
      refine ⟨hshut.step hok, hlog.trans (driverStep_log t e), ?_⟩
      have hstep := driverStep_carried bus t e
      rw [hshut.cleared e, clearedOn, List.filterMap_nil, List.append_nil] at hstep
      exact hstep.trans hcarried
  obtain ⟨-, ⟨added, hlog⟩, hcarried⟩ := hrun
  refine ⟨added.filterMap (writtenTo bus), ?_, ?_⟩
  · rw [← hlog, List.filterMap_append]
  · rw [carried, carried, ← hlog, List.filterMap_append, List.append_assoc,
      List.append_sublist_append_left] at hcarried
    exact ((writtenTo_sublist bus added).append_right _).trans hcarried

def roomy : Hardware := { quiet with txFifoFull := false }

def selectMode (mode : UInt16) : DriverEvent :=
  .main {} (.control { request := 0xdc, param1 := mode, param2 := 0 })

def obdRequest : CANPacket := canSetChecksum { ofStruct [] with addr := 0x7DF, dataLenCode := 8 }

/-- A panda in ELM327 mode with a request that waits for room in the transmit FIFO. -/
def waiting : Driver :=
  run driverStep (initialDriver (Main.powerOn {} .nc)) [selectMode 3, .send obdRequest quiet]

def unattended : List DriverEvent :=
  [.processCan 0 roomy, .send obdRequest roomy,
   .main {} (.control { request := 0xf3, param1 := 0, param2 := 0 }),
   .main {} (.tick { sensed := .normal, ignition := true, ts := 0 }), .processCan 0 roomy]

/-- SILENT is selected while the request waits: it is written, and the second one is not. -/
theorem closed_gate_waiting :
    let d := driverStep waiting (selectMode safetySilent)
    let d' := run driverStep d unattended
    (d.canQueues 0).queued.length = 1 ∧ (d'.log.filterMap (writtenTo 0)).length = 1 ∧
      ∃ frames, d'.log.filterMap (writtenTo 0) = d.log.filterMap (writtenTo 0) ++ frames ∧
        (frames ++ (d'.canQueues 0).queued).Sublist (d.canQueues 0).queued := by
  have hshut : Shut (driverStep waiting (selectMode safetySilent)) :=
    ⟨setSafetyMode_closed registered_silent 0 _, by decide +kernel⟩
  have hsettled : Along driverStep Settled (driverStep waiting (selectMode safetySilent))
      unattended := by
    refine ⟨trivial, trivial, ?_, ?_, trivial, trivial⟩
    · rintro ⟨hrequest, -⟩
      cases hrequest
    · rintro ⟨-, hmode⟩
      revert hmode
      decide +kernel
  exact ⟨by decide +kernel, by decide +kernel, closed_gate hshut hsettled 0⟩

end Panda.Comms
