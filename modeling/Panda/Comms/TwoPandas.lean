import Panda.Comms.SendMany
import Panda.Comms.TransmitGate
import Panda.Comms.WireFrame

/-!
Two pandas on one bus: from `can_send_many` at the host of the first one to `can_recv`
at the host of the second. On the way a message can be blocked by the safety hooks, or
lost where a queue is full or on the wire, and that is all that happens to it.
-/

namespace Panda.Comms

open Library Safety Host

/-! ### The two pandas and their wire -/

def sentOn (bus : Fin 3) : Entry → Option WireFrame
  | .written b _ _ fifo => if b = bus then some fifo.wire else none
  | _ => none

def heardOn (bus : Fin 3) : Entry → Option CanMessage
  | .received packet =>
      if (packetMessage packet).bus = bus then some (packetMessage packet) else none
  | _ => none

/-- The frames that a driver wrote to the mailboxes of a bus. -/
def framesOn (bus : Fin 3) (d : Driver) : List WireFrame := d.log.filterMap (sentOn bus)

/-- The messages that a driver read from a bus. -/
def heard (bus : Fin 3) (d : Driver) : List CanMessage := d.log.filterMap (heardOn bus)

/-- The event reads a frame from the bus. -/
def Driver.listens (bus : Fin 3) (d : Driver) : DriverEvent → Bool
  | .rx canNumber _ _ => (d.busConfig canNumber).busLookup == bus
  | _ => false

/-- The frames on the wire are those of the first panda, the oldest one first. -/
structure TwoPandas where
  first : Driver
  second : Driver
  wire : List WireFrame

inductive BusEvent where
  | first (e : DriverEvent)
  | second (e : DriverEvent)
  | arrive (canNumber : Fin 3) (frame : RxFrame) (hw : Hardware)
  | lose

/-- The wire is `bus` at the first panda and `bus'` at the second one, which reads nothing
else from there. The mailboxes are a FIFO, so frames arrive in order or not at all. -/
def busStep (bus bus' : Fin 3) (s : TwoPandas) : BusEvent → TwoPandas
  | .first e =>
      let first := driverStep s.first e
      { s with first, wire := s.wire ++ (framesOn bus first).drop (framesOn bus s.first).length }
  | .second e =>
      if s.second.listens bus' e then s else { s with second := driverStep s.second e }
  | .arrive canNumber frame hw =>
      if s.wire.head? = some frame.fifo.wire ∧ s.second.listens bus' (.rx canNumber frame hw) then
        { s with second := driverStep s.second (.rx canNumber frame hw), wire := s.wire.tail }
      else s
  | .lose => { s with wire := s.wire.tail }

/-! ### What transmission leaves alone -/

/-- Nothing new was heard, and the buffer for the writes of the host is the same. -/
structure Relays (d d' : Driver) : Prop where
  writeBuffer : d'.comms.canWriteBuffer = d.comms.canWriteBuffer
  heard : ∀ bus, heard bus d' = heard bus d

namespace Relays

theorem of_log_eq {d d' : Driver} (hlog : d'.log = d.log)
    (hbuffer : d'.comms.canWriteBuffer = d.comms.canWriteBuffer) : Relays d d' where
  writeBuffer := hbuffer
  heard bus := congrArg (List.filterMap (heardOn bus)) hlog

theorem trans {d d' d'' : Driver} (h : Relays d d') (h' : Relays d' d'') : Relays d d'' where
  writeBuffer := h'.writeBuffer.trans h.writeBuffer
  heard bus := (h'.heard bus).trans (h.heard bus)

theorem note {entry : Entry} (h : ∀ bus, heardOn bus entry = none) {d d' : Driver}
    (hlog : d'.log = d.log ++ [entry])
    (hbuffer : d'.comms.canWriteBuffer = d.comms.canWriteBuffer) : Relays d d' where
  writeBuffer := hbuffer
  heard bus := by
    unfold Comms.heard
    rw [hlog, filterMap_snoc, h bus, Option.toList_none, List.append_nil]

theorem refresh (d : Driver) : Relays d d.refreshCanTxSlotsAvailable := of_log_eq rfl rfl

theorem pushRx (toPush : CANPacket) (d : Driver) : Relays d (d.pushRx toPush) := by
  unfold Driver.pushRx
  rcases canPush toPush d.comms.canRxQ with ⟨ret, q⟩
  cases ret with
  | false => exact note (fun _ => rfl) rfl rfl
  | true => exact note (fun _ => rfl) rfl rfl

theorem pushTx (bus : Fin 3) (toPush : CANPacket) (d : Driver) :
    Relays d (d.pushTx bus toPush) := by
  unfold Driver.pushTx
  rcases canPush toPush (d.canQueues bus) with ⟨ret, q⟩
  cases ret with
  | false => exact note (fun _ => rfl) rfl rfl
  | true => exact note (fun _ => rfl) rfl rfl

theorem processCan (canNumber : Fin 3) (hw : Hardware) (d : Driver) :
    Relays d (d.processCan canNumber hw) := by
  rcases d.processCan_cases canNumber hw with hsame | ⟨toSend, q, -, hpopped⟩
  · rw [hsame]
    exact of_log_eq rfl rfl
  rw [hpopped]
  refine trans ?_ (refresh _)
  split
  · refine trans ?_ (pushRx (returnedEcho _ hw.stack toSend) _)
    exact note (fun _ => rfl) rfl rfl
  · exact note (fun _ => rfl) rfl rfl

theorem enqueue (toPush : CANPacket) (busNumber : Nat) (hw : Hardware) (d : Driver) :
    Relays d (d.enqueue toPush busNumber hw) := by
  unfold Driver.enqueue
  split
  · exact (pushTx _ toPush d).trans (processCan _ hw _)
  · exact of_log_eq rfl rfl

theorem canSend (toPush : CANPacket) (busNumber : Nat) (skipTxHook : Bool) (hw : Hardware)
    (d : Driver) : Relays d (d.canSend toPush busNumber skipTxHook hw) := by
  have hhanded : Relays d (d.note (.handed busNumber toPush)) := note (fun _ => rfl) rfl rfl
  have hhook : Relays d ((d.note (.handed busNumber toPush)).runTxHook toPush hw.ts) :=
    hhanded.trans (of_log_eq rfl rfl)
  unfold Driver.canSend
  simp only
  split
  · exact hhanded.trans (enqueue toPush busNumber hw _)
  · split
    · exact hhook.trans (enqueue toPush busNumber hw _)
    · refine (hhook.trans ?_).trans (pushRx (rejectedEcho toPush) _)
      exact note (fun _ => rfl) rfl rfl

theorem sendAll (packets : List CANPacket) (hw : Nat → Hardware) (d : Driver) :
    Relays d (d.sendAll packets hw) := by
  induction packets generalizing hw d with
  | nil => exact of_log_eq rfl rfl
  | cons toPush packets ih => exact (canSend toPush (getBus toPush) false (hw 0) d).trans (ih _ _)

theorem forward (canNumber busNumber : Fin 3) (frame : RxFrame) (hw : Hardware) (d : Driver) :
    Relays d (d.forward canNumber busNumber frame hw) := by
  unfold Driver.forward
  simp only
  split
  · exact (canSend _ _ true hw d).trans (of_log_eq rfl rfl)
  · exact of_log_eq rfl rfl

theorem runRxHook (toPush : CANPacket) (ts : UInt32) (d : Driver) :
    Relays d (d.runRxHook toPush ts) := of_log_eq rfl rfl

theorem raiseConfig (canNumber : Fin 3) (fifo : CanfdFifo) (d : Driver) :
    Relays d (d.raiseConfig canNumber fifo) := of_log_eq rfl rfl

end Relays

theorem commsCanWrite_heard (bus : Fin 3) (data : List UInt8) (hw : Nat → Hardware) (d : Driver) :
    heard bus (d.commsCanWrite data hw) = heard bus d :=
  (Relays.sendAll _ hw { d with comms := _ }).heard bus

/-- Beside what it forwards `can_rx` only notes and pushes the frame. -/
theorem canRx_relays (canNumber : Fin 3) (frame : RxFrame) (hw : Hardware) (d : Driver) :
    ∃ d', Relays d d' ∧
      Relays (d'.note (.received (receivedFrame (d.busConfig canNumber).busLookup frame)))
        (d.canRx canNumber frame hw) := by
  unfold Driver.canRx
  dsimp only
  generalize (d.busConfig canNumber).busLookup = busNumber
  generalize hcount : Driver.count canNumber _ d = counted
  have hcounted : Relays d counted := by
    rw [← hcount]
    exact .of_log_eq rfl rfl
  have hforward := hcounted.trans (.forward canNumber busNumber frame hw counted)
  refine ⟨_, hforward.trans (.runRxHook (receivedFrame busNumber frame) hw.ts _), ?_⟩
  exact (Relays.pushRx _ _).trans (.raiseConfig canNumber frame.fifo _)

theorem canRx_heard (bus canNumber : Fin 3) (frame : RxFrame) (hw : Hardware) (d : Driver) :
    heard bus (d.canRx canNumber frame hw) = heard bus d ++
      if (d.busConfig canNumber).busLookup = bus then [packetMessage (receivedFrame bus frame)]
      else [] := by
  obtain ⟨d', hbefore, hafter⟩ := canRx_relays canNumber frame hw d
  generalize (d.busConfig canNumber).busLookup = busNumber at *
  have hnumber : (packetMessage (receivedFrame busNumber frame)).bus = busNumber := rfl
  rw [hafter.heard, ← hbefore.heard, heard, Driver.note, filterMap_snoc, heardOn, hnumber]
  by_cases hsame : busNumber = bus
  · subst hsame
    rw [if_pos rfl, if_pos rfl]
    rfl
  · rw [if_neg hsame, if_neg fun h => hsame (Fin.ext h)]
    rfl

/-- An event that brings neither bytes of the host nor a frame. -/
def DriverEvent.isQuiet : DriverEvent → Bool
  | .write _ _ | .spiWrite _ _ | .rx _ _ _ => false
  | _ => true

theorem driverStep_relays {d : Driver} {e : DriverEvent} (h : e.isQuiet = true) :
    Relays d (driverStep d e) := by
  cases e with
  | write data hw => cases h
  | spiWrite data hw => cases h
  | rx canNumber frame hw => cases h
  | send toPush hw => exact .canSend toPush (getBus toPush) false hw d
  | read maxLen => exact .note (fun _ => rfl) rfl (commsCanRead_canWriteBuffer maxLen d.comms)
  | processCan canNumber hw => exact .processCan canNumber hw d
  | clearTx bus => exact .of_log_eq rfl rfl
  | clearRx => exact .of_log_eq rfl rfl
  | setOrientation flipped => exact .of_log_eq rfl rfl
  | setDataBitrate param1 param2 hw =>
    change Relays d (d.setDataBitrate param1 param2 hw)
    unfold Driver.setDataBitrate
    split
    · refine .trans ?_ (.processCan _ hw _)
      exact .of_log_eq rfl rfl
    · exact .of_log_eq rfl rfl
  | setNonIso param1 param2 hw =>
    refine .trans ?_ (.processCan _ hw _)
    exact .of_log_eq rfl rfl
  | main board e => exact .of_log_eq rfl rfl

theorem driverStep_heard {bus : Fin 3} {d : Driver} {e : DriverEvent}
    (h : d.listens bus e = false) : heard bus (driverStep d e) = heard bus d := by
  cases e with
  | write data hw => exact commsCanWrite_heard bus data hw d
  | spiWrite data hw =>
    change heard bus (d.spiCanWrite data hw).2 = _
    unfold Driver.spiCanWrite
    split
    · exact commsCanWrite_heard bus data hw { d with spiCanTxReady := false }
    · rfl
  | rx canNumber frame hw =>
    have hother : (d.busConfig canNumber).busLookup ≠ bus := by
      simpa [Driver.listens] using h
    change heard bus (d.canRx canNumber frame hw) = _
    rw [canRx_heard, if_neg hother, List.append_nil]
  | _ => exact (driverStep_relays rfl).heard bus

/-! ### The wire -/

theorem driverStep_framesOn (bus : Fin 3) (d : Driver) (e : DriverEvent) :
    framesOn bus d <+: framesOn bus (driverStep d e) :=
  (driverStep_log d e).filterMap (sentOn bus)

/-- What arrived and what is on the wire is in order a part of what was sent, and what
arrived was heard. -/
def Linked (bus bus' : Fin 3) (s : TwoPandas) : Prop :=
  ∃ arrived, (arrived ++ s.wire).Sublist (framesOn bus s.first) ∧
    List.Forall₂ (fun frame msg => frame.Whole → msg = frame.message bus') arrived
      (heard bus' s.second)

theorem busStep_linked {bus bus' : Fin 3} {s : TwoPandas} (h : Linked bus bus' s) (e : BusEvent) :
    Linked bus bus' (busStep bus bus' s e) := by
  obtain ⟨arrived, hsent, hheard⟩ := h
  cases e with
  | first e =>
    obtain ⟨added, hadded⟩ := driverStep_framesOn bus s.first e
    refine ⟨arrived, ?_, hheard⟩
    change (arrived ++ (s.wire ++ (framesOn bus (driverStep s.first e)).drop _)).Sublist
      (framesOn bus (driverStep s.first e))
    rw [← hadded, List.drop_left, ← List.append_assoc]
    exact hsent.append_right added
  | second e =>
    unfold busStep
    dsimp only
    cases hlistens : s.second.listens bus' e with
    | true => exact ⟨arrived, hsent, hheard⟩
    | false =>
      refine ⟨arrived, hsent, ?_⟩
      change List.Forall₂ _ arrived (heard bus' (driverStep s.second e))
      rwa [driverStep_heard hlistens]
  | arrive canNumber frame hw =>
    unfold busStep
    dsimp only
    split
    next hread =>
      obtain ⟨hhead, hlistens⟩ := hread
      obtain ⟨rest, hwire⟩ := List.head?_eq_some_iff.mp hhead
      have hbus : (s.second.busConfig canNumber).busLookup = bus' := beq_iff_eq.mp hlistens
      refine ⟨arrived ++ [frame.fifo.wire], ?_, ?_⟩
      · rw [hwire, List.tail_cons, List.append_assoc, List.singleton_append, ← hwire]
        exact hsent
      · change List.Forall₂ _ _ (heard bus' (s.second.canRx canNumber frame hw))
        rw [canRx_heard, if_pos hbus]
        exact List.rel_append hheard (.cons (receivedFrame_message bus') .nil)
    next => exact ⟨arrived, hsent, hheard⟩
  | lose =>
    refine ⟨arrived, ?_, hheard⟩
    exact ((List.tail_sublist s.wire).append_left arrived).trans hsent

/-! ### The host of the second panda -/

theorem pushed_sublist (log : List Entry) :
    ((log.filterMap pushed).map packetMessage).Sublist (log.filterMap settled) := by
  induction log with
  | nil => exact List.Sublist.refl _
  | cons entry log ih =>
    cases entry with
    | rxPushed packet => exact ih.cons_cons (packetMessage packet)
    | rxOverflow packet => exact ih.cons (packetMessage packet)
    | _ => exact ih

/-- The echoes have other numbers than the buses. -/
theorem owed_heard (bus : Fin 3) (log : List Entry) :
    (log.filterMap owed).filter (fun msg => msg.bus = (bus : Nat)) =
      log.filterMap (heardOn bus) := by
  rw [List.filter_filterMap]
  apply List.filterMap_congr
  intro entry _
  have hlt := bus.isLt
  cases entry with
  | received packet => simp [owed, heardOn, Option.filter]
  | written b canNumber packet fifo =>
    have hne : (b : Nat) + 128 ≠ bus := by omega
    simp [owed, heardOn, Option.filter, hne]
  | rejected busNumber packet =>
    have hne : packet.bus.val + 192 ≠ bus := by omega
    simp [owed, heardOn, Option.filter, hne]
  | _ => rfl

/-- The host reads without an error, and what it gets of the bus was heard. -/
theorem canRecv_heard {d : Driver} (hbalanced : Balanced d.log) (haccounted : Accounted d)
    {batches : List (List UInt8)} (hbatches : batches.flatten = d.log.flatMap bytesOf)
    (bus : Fin 3) :
    ∃ msgs overflow, canRecv batches [] = .ok (msgs, overflow) ∧
      (msgs.filter fun msg => msg.bus = (bus : Nat)).Sublist (heard bus d) := by
  have hvalid : ∀ packet ∈ d.log.filterMap pushed, canCheckChecksum packet = true := by
    intro packet hpacket
    obtain ⟨entry, hentry, hpushed⟩ := List.mem_filterMap.mp hpacket
    have hsound := hbalanced.sound entry hentry
    cases entry with
    | rxPushed p =>
      cases hpushed
      exact hsound.1
    | _ => cases hpushed
  have hstream : batches.flatten ++ d.comms.pending =
      ((d.log.filterMap pushed).map wireBytes).flatten := by
    rw [hbatches]
    exact haccounted.reads
  obtain ⟨msgs, overflow, hrecv, hdelivers⟩ := canRecv_delivers hvalid hstream
  obtain ⟨delivered, undelivered, hqueued, hmsgs, -⟩ := hdelivers.parts
  refine ⟨msgs, overflow, hrecv, ?_⟩
  have hsub : msgs.Sublist (d.log.filterMap settled) := by
    apply List.Sublist.trans _ (pushed_sublist d.log)
    rw [hmsgs, hqueued, List.map_append]
    exact List.sublist_append_left _ _
  rw [← hbalanced.settled] at hsub
  have hfiltered := hsub.filter fun msg => decide (msg.bus = (bus : Nat))
  rwa [owed_heard] at hfiltered

/-! ### The host of the first panda -/

def chunkOf : DriverEvent → Option (List UInt8)
  | .write data _ => some data
  | _ => none

/-- The packets that a write completes. -/
def parsed (d : Driver) : DriverEvent → List CANPacket
  | .write data _ => (Comms.commsCanWrite data d.comms).1
  | _ => []

/-- What comes to the bus comes from the host, over USB: nothing else is sent, and no
received frame is forwarded there. -/
def Feeding (bus : Fin 3) (d : Driver) : DriverEvent → Prop
  | .send _ _ => False
  | .spiWrite _ _ => False
  | .rx canNumber frame _ => clearedOn bus (clearedForward canNumber frame d) = []
  | _ => True

/-- All packets that the writes of a run complete. -/
def parsedAlong (d : Driver) (events : List DriverEvent) : List CANPacket :=
  (trace driverStep parsed d events).flatten

theorem driverStep_writes {bus : Fin 3} {d : Driver} {e : DriverEvent} (h : Feeding bus d e)
    (hd : Assembling d.comms.canWriteBuffer) :
    Writes (d.comms.canWriteBuffer.carried ++ (chunkOf e).getD []) (parsed d e)
      (driverStep d e).comms.canWriteBuffer := by
  have hnothing : ∀ {d' : Driver}, d'.comms.canWriteBuffer = d.comms.canWriteBuffer →
      Writes (d.comms.canWriteBuffer.carried ++ []) [] d'.comms.canWriteBuffer := by
    intro d' hbuffer
    rw [List.append_nil, hbuffer]
    exact hd.writes
  cases e with
  | write data hw =>
    have hsame : (driverStep d (.write data hw)).comms.canWriteBuffer =
        (Comms.commsCanWrite data d.comms).2.canWriteBuffer :=
      (Relays.sendAll (Comms.commsCanWrite data d.comms).1 hw
        { d with comms := (Comms.commsCanWrite data d.comms).2 }).writeBuffer
    rw [hsame]
    exact commsCanWrite_writes data hd
  | send toPush hw => exact h.elim
  | spiWrite data hw => exact h.elim
  | rx canNumber frame hw =>
    apply hnothing
    obtain ⟨d', hbefore, hafter⟩ := canRx_relays canNumber frame hw d
    exact hafter.writeBuffer.trans hbefore.writeBuffer
  | _ => exact hnothing (driverStep_relays rfl).writeBuffer

theorem run_writes {bus : Fin 3} {d : Driver} {events : List DriverEvent}
    (h : Along driverStep (Feeding bus) d events) (hd : Assembling d.comms.canWriteBuffer) :
    Writes (d.comms.canWriteBuffer.carried ++ (events.filterMap chunkOf).flatten)
      (parsedAlong d events) (run driverStep d events).comms.canWriteBuffer := by
  induction events generalizing d with
  | nil =>
    rw [List.filterMap_nil, List.flatten_nil, List.append_nil]
    exact hd.writes
  | cons e events ih =>
    obtain ⟨hfeeding, hlater⟩ := h
    have hnow := driverStep_writes hfeeding hd
    have hrest := hnow.append (ih hlater hnow.assembling)
    have hstream : ((e :: events).filterMap chunkOf).flatten =
        (chunkOf e).getD [] ++ (events.filterMap chunkOf).flatten := by
      rw [List.filterMap_cons]
      cases chunkOf e with
      | none => rfl
      | some data => rfl
    rw [hstream, ← List.append_assoc]
    exact hrest

theorem clearedAll_sublist (bus : Fin 3) (packets : List CANPacket) (hw : Nat → Hardware)
    (d : Driver) : (clearedOn bus (clearedAll packets hw d)).Sublist
      (packets.filter fun packet => getBus packet = (bus : Nat)) := by
  induction packets generalizing hw d with
  | nil => exact List.Sublist.refl _
  | cons toPush packets ih =>
    have hone : (clearedOn bus (clearedSend toPush (hw 0) d)).Sublist
        ([toPush].filter fun packet => getBus packet = (bus : Nat)) := by
      unfold clearedSend
      split
      next =>
        by_cases hbus : getBus toPush = (bus : Nat)
        · simp [clearedOn, hbus]
        · simp [clearedOn, hbus]
      next => exact List.nil_sublist _
    rw [clearedAll, clearedOn_append]
    exact (hone.append (ih _ _)).trans (List.filter_append [toPush] packets ▸ List.Sublist.refl _)

theorem cleared_sublist {bus : Fin 3} {d : Driver} {e : DriverEvent} (h : Feeding bus d e) :
    (clearedOn bus (cleared d e)).Sublist
      ((parsed d e).filter fun packet => getBus packet = (bus : Nat)) := by
  cases e with
  | write data hw => exact clearedAll_sublist bus _ hw _
  | send toPush hw => exact h.elim
  | spiWrite data hw => exact h.elim
  | rx canNumber frame hw =>
    change (clearedOn bus (clearedForward canNumber frame d)).Sublist _
    rw [show clearedOn bus (clearedForward canNumber frame d) = [] from h]
    exact List.nil_sublist _
  | _ => exact List.Sublist.refl _

theorem clearedAlong_sublist {bus : Fin 3} {d : Driver} {events : List DriverEvent}
    (h : Along driverStep (Feeding bus) d events) :
    (clearedOn bus (clearedAlong d events)).Sublist
      ((parsedAlong d events).filter fun packet => getBus packet = (bus : Nat)) := by
  induction events generalizing d with
  | nil => exact List.Sublist.refl _
  | cons e events ih =>
    obtain ⟨hfeeding, hlater⟩ := h
    simp only [clearedAlong, parsedAlong, trace, List.flatten_cons, clearedOn_append,
      List.filter_append]
    exact (cleared_sublist hfeeding).append (ih hlater)

/-! ### The messages -/

theorem Carries.message {msg : CanMessage} {packet : CANPacket} (h : Carries msg packet) :
    packetMessage packet = msg := by
  obtain ⟨hreturned, hrejected⟩ := h.fresh
  unfold packetMessage
  rw [h.address, h.dat, h.bus, hreturned, hrejected]
  rfl

theorem Carries.inFormat {msg : CanMessage} {packet : CANPacket} (h : Carries msg packet) :
    InFormat packet := by
  intro hextended
  rw [h.extended, decide_eq_false_iff_not] at hextended
  rw [h.address]
  omega

theorem carried_inFormat {arr : List CanMessage} {packets : List CANPacket}
    (h : List.Forall₂ Carries arr packets) : ∀ packet ∈ packets, InFormat packet := by
  induction h with
  | nil => exact nofun
  | cons hcarries _ ih => exact List.forall_mem_cons.mpr ⟨hcarries.inFormat, ih⟩

/-- Packets for a bus are the messages for it. -/
theorem carried_filter (bus bus' : Fin 3) {arr : List CanMessage} {packets : List CANPacket}
    (h : List.Forall₂ Carries arr packets) :
    ((packets.filter fun packet => getBus packet = (bus : Nat)).map fun packet =>
        { packetMessage packet with bus := (bus' : Nat) }) =
      (arr.filter fun msg => msg.bus = (bus : Nat)).map fun msg =>
        { msg with bus := (bus' : Nat) } := by
  induction h with
  | nil => rfl
  | @cons msg packet arr packets hcarries _ ih =>
    have hbus : getBus packet = msg.bus := hcarries.bus
    rw [List.filter_cons, List.filter_cons, hbus]
    split
    next => rw [List.map_cons, List.map_cons, ih, hcarries.message]
    next => exact ih

/-- The frames that were written are the messages of their packets. -/
theorem framesOn_message {d : Driver} (hbalanced : Balanced d.log) {bus : Fin 3} (bus' : Fin 3)
    (hwhole : ∀ frame ∈ framesOn bus d, frame.Whole)
    (hformat : ∀ packet ∈ d.log.filterMap (writtenTo bus), InFormat packet) :
    (framesOn bus d).map (WireFrame.message bus') =
      (d.log.filterMap (writtenTo bus)).map fun packet =>
        { packetMessage packet with bus := (bus' : Nat) } := by
  unfold framesOn
  rw [List.map_filterMap, List.map_filterMap]
  apply List.filterMap_congr
  intro entry hentry
  cases entry with
  | written b canNumber packet fifo =>
    by_cases hb : b = bus
    · obtain ⟨-, canfdEnabled, brsEnabled, hfifo⟩ := hbalanced.sound _ hentry
      have hframe : fifo.wire.Whole := hwhole _ (List.mem_filterMap.mpr ⟨_, hentry, if_pos hb⟩)
      have hpacket := hformat packet (List.mem_filterMap.mpr ⟨_, hentry, if_pos hb⟩)
      simp only [sentOn, writtenTo, if_pos hb, Option.map_some]
      rw [hfifo] at hframe ⊢
      rw [txElement_message bus' hpacket hframe]
    · simp [sentOn, writtenTo, hb]
  | _ => rfl

/-- What arrived is heard as it was sent. -/
theorem heard_eq {bus : Fin 3} {arrived : List WireFrame} {msgs : List CanMessage}
    (h : List.Forall₂ (fun frame msg => frame.Whole → msg = frame.message bus) arrived msgs)
    (hwhole : ∀ frame ∈ arrived, frame.Whole) : msgs = arrived.map (WireFrame.message bus) := by
  induction h with
  | nil => rfl
  | cons hmsg _ ih =>
    obtain ⟨hframe, hlater⟩ := List.forall_mem_cons.mp hwhole
    rw [List.map_cons, hmsg hframe, ih hlater]

/-- The chunks of several calls are the frames of all their messages. -/
theorem packed_frames {calls : List (List CanMessage)} {sends : List (List (List UInt8))}
    (h : List.Forall₂ (fun arr snds => packCanBuffer arr = some snds) calls sends)
    (hpackable : ∀ arr ∈ calls, ∀ msg ∈ arr, Packable msg) :
    ∃ frames : List (List UInt8), sends.flatten.flatten = frames.flatten ∧
      (∀ frame ∈ frames, packetFraming.IsFrame frame) ∧
      List.Forall₂ Carries calls.flatten (frames.map ofStruct) := by
  induction h with
  | nil => exact ⟨[], rfl, by simp, .nil⟩
  | @cons arr snds calls sends hsnds _ ih =>
    obtain ⟨hnow, hlater⟩ := List.forall_mem_cons.mp hpackable
    obtain ⟨chunks, frames, hchunks, hflatten, hframes, hcarries⟩ := packLoop_flatten hnow [] []
    obtain ⟨frames', hflatten', hframes', hcarries'⟩ := ih hlater
    have hsame : chunks = snds := by
      rw [packCanBuffer, hchunks] at hsnds
      exact Option.some.inj hsnds
    refine ⟨frames ++ frames', ?_, List.forall_mem_append.mpr ⟨hframes, hframes'⟩, ?_⟩
    · rw [List.flatten_cons, List.flatten_append, hflatten', ← hsame, hflatten, List.flatten_append]
      rfl
    · rw [List.flatten_cons, List.map_append]
      exact List.rel_append hcarries hcarries'

/-- The packets that the writes of a part of the chunks complete are the first messages. -/
theorem parsedAlong_carries {bus : Fin 3} {d : Driver} {events : List DriverEvent}
    (h : Along driverStep (Feeding bus) d events) (hd : d.comms.canWriteBuffer.ptr = 0)
    {arr : List CanMessage} {frames : List (List UInt8)}
    (hframes : ∀ frame ∈ frames, packetFraming.IsFrame frame)
    (hcarries : List.Forall₂ Carries arr (frames.map ofStruct))
    (hchunks : (events.filterMap chunkOf).flatten <+: frames.flatten) :
    ∃ firsts, firsts <+: arr ∧ List.Forall₂ Carries firsts (parsedAlong d events) := by
  have hwrites := run_writes h (Assembling.of_zero hd)
  rw [AsmBuffer.carried_of_zero hd, List.nil_append] at hwrites
  obtain ⟨rest, hrest⟩ := hchunks
  have hsplit := Framing.split_flatten_append hframes []
  rw [List.append_nil, Framing.split, ← hrest, Framing.split_append, Prod.mk.injEq] at hsplit
  have hparts := hsplit.1
  rw [List.append_nil] at hparts
  rw [← hparts, List.map_append, ← hwrites.sent] at hcarries
  exact ⟨_, List.take_prefix _ _, List.forall₂_take_append _ _ _ hcarries⟩

/-! ### From host to host -/

def firstOf : BusEvent → Option DriverEvent
  | .first e => some e
  | _ => none

/-- Two pandas that were powered on, after a run. -/
def joined (main main' : Main.State) (bus bus' : Fin 3) (events : List BusEvent) : TwoPandas :=
  run (busStep bus bus') ⟨initialDriver main, initialDriver main', []⟩ events

theorem joined_first (main main' : Main.State) (bus bus' : Fin 3) (events : List BusEvent) :
    (joined main main' bus bus' events).first =
      run driverStep (initialDriver main) (events.filterMap firstOf) := by
  apply run_project driverStep TwoPandas.first firstOf
  intro s e
  cases e with
  | first e => rfl
  | second e =>
    unfold busStep
    dsimp only
    split
    · rfl
    · rfl
  | arrive canNumber frame hw =>
    unfold busStep
    dsimp only
    split
    · rfl
    · rfl
  | lose => rfl

/-- The accounts of the second panda. -/
theorem joined_second (main main' : Main.State) (bus bus' : Fin 3) {events : List BusEvent}
    (hclears : ∀ e, .second e ∈ events → e.clears = false) :
    Balanced (joined main main' bus bus' events).second.log ∧
      Accounted (joined main main' bus bus' events).second := by
  have hstep : ∀ (d : Driver) (e : DriverEvent), e.clears = false → Balanced d.log ∧ Accounted d →
      Balanced (driverStep d e).log ∧ Accounted (driverStep d e) := by
    rintro d e he ⟨hbalanced, haccounted⟩
    exact ⟨run_balanced hbalanced [e], driverStep_accounted haccounted he⟩
  have hok : Along (busStep bus bus') (fun _ e => ∀ e', e = .second e' → e'.clears = false)
      ⟨initialDriver main, initialDriver main', []⟩ events := by
    apply Along.of_forall
    rintro _ he e rfl
    exact hclears e he
  apply run_preserves (P := fun s : TwoPandas => Balanced s.second.log ∧ Accounted s.second) _ hok
  · exact ⟨Balanced.nil, initialDriver_accounted main'⟩
  · intro s e he hs
    cases e with
    | first e => exact hs
    | second e =>
      unfold busStep
      dsimp only
      split
      · exact hs
      · exact hstep _ _ (he e rfl) hs
    | arrive canNumber frame hw =>
      unfold busStep
      dsimp only
      split
      · exact hstep _ _ rfl hs
      · exact hs
    | lose => exact hs

/-- In any order of the steps of both, what the host of the second panda gets of the bus is
in order a part of what the host of the first one gave to `can_send_many` for it. -/
theorem sent_received (main main' : Main.State) (bus bus' : Fin 3) (events : List BusEvent)
    {calls : List (List CanMessage)} {sends : List (List (List UInt8))}
    (hpackable : ∀ arr ∈ calls, ∀ msg ∈ arr, Packable msg)
    (hpacked : List.Forall₂ (fun arr snds => packCanBuffer arr = some snds) calls sends)
    (hfeeding : Along driverStep (Feeding bus) (initialDriver main) (events.filterMap firstOf))
    (hchunks : ((events.filterMap firstOf).filterMap chunkOf).flatten <+: sends.flatten.flatten)
    (hwhole : ∀ frame ∈ framesOn bus (joined main main' bus bus' events).first, frame.Whole)
    (hclears : ∀ e, .second e ∈ events → e.clears = false) {batches : List (List UInt8)}
    (hbatches : batches.flatten =
      (joined main main' bus bus' events).second.log.flatMap bytesOf) :
    ∃ msgs overflow, canRecv batches [] = .ok (msgs, overflow) ∧
      (msgs.filter fun msg => msg.bus = (bus' : Nat)).Sublist
        ((calls.flatten.filter fun msg => msg.bus = (bus : Nat)).map fun msg =>
          { msg with bus := (bus' : Nat) }) := by
  obtain ⟨hbalanced, haccounted⟩ := joined_second main main' bus bus' hclears
  obtain ⟨msgs, overflow, hrecv, hmsgs⟩ := canRecv_heard hbalanced haccounted hbatches bus'
  refine ⟨msgs, overflow, hrecv, hmsgs.trans ?_⟩
  have hlinked : Linked bus bus' (joined main main' bus bus' events) := by
    apply run_invariant (I := Linked bus bus')
    · intro s e hs
      exact busStep_linked hs e
    · exact ⟨[], List.Sublist.refl _, .nil⟩
  have hfirst := joined_first main main' bus bus' events
  obtain ⟨arrived, hsent, hheard⟩ := hlinked
  generalize joined main main' bus bus' events = s at *
  have harrived : arrived.Sublist (framesOn bus s.first) :=
    (List.sublist_append_left _ _).trans hsent
  rw [heard_eq hheard fun frame hframe => hwhole frame (harrived.subset hframe)]
  -- what was written came through the hooks from the packets of the host
  obtain ⟨frames, hflatten, hframes, hcarries⟩ := packed_frames hpacked hpackable
  rw [hflatten] at hchunks
  obtain ⟨firsts, hfirsts, hparsed⟩ := parsedAlong_carries hfeeding rfl hframes hcarries hchunks
  have hwritten : (s.first.log.filterMap (writtenTo bus)).Sublist
      ((parsedAlong (initialDriver main) (events.filterMap firstOf)).filter fun packet =>
        getBus packet = (bus : Nat)) := by
    have hempty : carried bus (initialDriver main) = [] := CanRing.queued_eq_nil.mpr rfl
    have hcarried := run_carried bus hempty (events.filterMap firstOf)
    rw [← hfirst] at hcarried
    exact (((writtenTo_sublist bus s.first.log).trans (List.sublist_append_left _ _)).trans
      hcarried).trans (clearedAlong_sublist hfeeding)
  have hformat : ∀ packet ∈ s.first.log.filterMap (writtenTo bus), InFormat packet := by
    intro packet hpacket
    obtain ⟨hmem, -⟩ := List.mem_filter.mp (hwritten.subset hpacket)
    exact carried_inFormat hparsed packet hmem
  have hsound : Balanced s.first.log := by
    rw [hfirst]
    exact run_balanced Balanced.nil _
  have hframed : (arrived.map (WireFrame.message bus')).Sublist
      ((s.first.log.filterMap (writtenTo bus)).map fun packet =>
        { packetMessage packet with bus := (bus' : Nat) }) := by
    rw [← framesOn_message hsound bus' hwhole hformat]
    exact harrived.map _
  have hpackets := hwritten.map fun packet => { packetMessage packet with bus := (bus' : Nat) }
  rw [carried_filter bus bus' hparsed] at hpackets
  exact (hframed.trans hpackets).trans ((hfirsts.sublist.filter _).map _)

/-- A panda that sends whatever it is given. -/
def allOutput : Main.State := { safety := setSafetyHooks safetyAlloutput 0 bootState }

/-- Three messages for the second bus of the first panda. -/
def crossingMessages : List CanMessage :=
  [⟨0x123, [1, 2, 3], 1⟩, ⟨0x124, [4], 1⟩, ⟨0x125, [5, 6], 1⟩]

def crossingBytes : List UInt8 := ((packCanBuffer crossingMessages).getD []).flatten

/-- An interrupt for a frame that the second panda reads. -/
def crossingFrame (header0 header1 : UInt32) (dataWord : List UInt32) : RxFrame where
  fifo := { header0, header1, dataWord }
  fifoFull := false
  toPush := ofStruct []
  toSend := ofStruct []

/-- The host of the first panda writes them in two pieces, the second packet is cut. The
second frame is lost, and the second panda has the others on its first bus. -/
def crossing : List BusEvent :=
  [.first (.write (crossingBytes.take 12) fun _ => roomy),
   .arrive 0 (crossingFrame 0x48C0000 0x30000 [0x30201]) quiet,
   .first (.write (crossingBytes.drop 12) fun _ => roomy),
   .lose,
   .second (.read 64),
   .arrive 0 (crossingFrame 0x4940000 0x20000 [0x605]) quiet,
   .second (.read 64)]

/-- The first and the third message get through. -/
theorem sent_received_crossing :
    heard 0 (joined allOutput allOutput 1 0 crossing).second =
        [⟨0x123, [1, 2, 3], 0⟩, ⟨0x125, [5, 6], 0⟩] ∧
      ∃ msgs overflow,
        canRecv [(joined allOutput allOutput 1 0 crossing).second.log.flatMap bytesOf] [] =
          .ok (msgs, overflow) ∧
        (msgs.filter fun msg => msg.bus = ((0 : Fin 3) : Nat)).Sublist
          [⟨0x123, [1, 2, 3], 0⟩, ⟨0x124, [4], 0⟩, ⟨0x125, [5, 6], 0⟩] := by
  have hpackable : ∀ arr ∈ [crossingMessages], ∀ msg ∈ arr, Packable msg := by
    intro arr harr msg hmsg
    rw [List.mem_singleton.mp harr] at hmsg
    simp only [crossingMessages, List.mem_cons, List.not_mem_nil, or_false] at hmsg
    rcases hmsg with rfl | rfl | rfl
    all_goals exact ⟨by decide, by decide, by decide⟩
  have hpacked : List.Forall₂ (fun arr snds => packCanBuffer arr = some snds) [crossingMessages]
      [[crossingBytes]] := .cons (by decide) .nil
  have hclears : ∀ e, .second e ∈ crossing → e.clears = false := by
    intro e he
    simp only [crossing, List.mem_cons, BusEvent.second.injEq, reduceCtorEq, List.not_mem_nil,
      or_false, false_or, or_self] at he
    rw [he]
    rfl
  refine ⟨by decide +kernel, ?_⟩
  exact sent_received allOutput allOutput 1 0 crossing hpackable hpacked
    ⟨trivial, trivial, trivial⟩ (by decide) (by decide +kernel) hclears List.flatten_singleton

end Panda.Comms
