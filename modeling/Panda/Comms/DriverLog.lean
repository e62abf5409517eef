import Panda.Comms.Fdcan
import Panda.Comms.Unpack

/-!
What the log of the CAN driver says after any run: every packet handed to
`can_send` has one outcome, every frame in a mailbox has a valid checksum, and
every packet that the host is to see was pushed once, or counted as lost, with a
checksum that is right.
-/

namespace Panda.Comms

open Library Safety Host

/-! ### Reading the log -/

/-- A packet handed to `can_send` for one of the buses. -/
def handedTo : Entry → Option (Nat × CANPacket)
  | .handed busNumber packet => if busNumber < 3 then some (busNumber, packet) else none
  | _ => none

def outcome : Entry → Option (Nat × CANPacket)
  | .rejected busNumber packet => if busNumber < 3 then some (busNumber, packet) else none
  | .accepted bus packet => some (bus, packet)
  | .txOverflow bus packet => some (bus, packet)
  | _ => none

/-- A packet that `can_push` took into the queue of the bus. -/
def acceptedOn (bus : Fin 3) : Entry → Option CANPacket
  | .accepted b packet => if b = bus then some packet else none
  | _ => none

def takenFrom (bus : Fin 3) : Entry → Option CANPacket
  | .written b _ packet _ => if b = bus then some packet else none
  | .checksumError b _ packet => if b = bus then some packet else none
  | _ => none

/-- A packet whose frame is in a mailbox of the bus. -/
def writtenTo (bus : Fin 3) : Entry → Option CANPacket
  | .written b _ packet _ => if b = bus then some packet else none
  | _ => none

/-- The message that the host is to see. -/
def owed : Entry → Option CanMessage
  | .written bus _ packet _ => some { packetMessage packet with bus := bus + 128 }
  | .rejected _ packet => some { packetMessage packet with bus := packet.bus + 192 }
  | .received packet => some (packetMessage packet)
  | _ => none

/-- A message that is in the receive queue, or counted as lost. -/
def settled : Entry → Option CanMessage
  | .rxPushed packet => some (packetMessage packet)
  | .rxOverflow packet => some (packetMessage packet)
  | _ => none

/-- A frame in a mailbox is that of a packet with a valid checksum. -/
def Sound (log : List Entry) : Entry → Prop
  | .written _ _ packet fifo => canCheckChecksum packet = true ∧
      ∃ canfdEnabled brsEnabled, fifo = txElement canfdEnabled brsEnabled packet
  | .checksumError _ _ packet => canCheckChecksum packet = false
  | .rxPushed packet => canCheckChecksum packet = true ∧
      (packet.returned = true → ∃ bus canNumber stack toSend fifo,
        .written bus canNumber toSend fifo ∈ log ∧ packet = returnedEcho bus stack toSend)
  | _ => True

structure Balanced (log : List Entry) : Prop where
  handed : log.filterMap handedTo = log.filterMap outcome
  settled : log.filterMap owed = log.filterMap settled
  sound : ∀ entry ∈ log, Sound log entry

theorem Sound.mono {log log' : List Entry} (h : log ⊆ log') {entry : Entry}
    (hentry : Sound log entry) : Sound log' entry := by
  cases entry with
  | rxPushed packet =>
      obtain ⟨hsum, hecho⟩ := hentry
      refine ⟨hsum, ?_⟩
      intro hreturned
      obtain ⟨bus, canNumber, stack, toSend, fifo, hmem, heq⟩ := hecho hreturned
      exact ⟨bus, canNumber, stack, toSend, fifo, h hmem, heq⟩
  | _ => exact hentry

theorem Balanced.nil : Balanced [] where
  handed := rfl
  settled := rfl
  sound := by
    intro entry hentry
    cases hentry

theorem Balanced.append {log added : List Entry} (h : Balanced log) (h' : Balanced added) :
    Balanced (log ++ added) where
  handed := by rw [List.filterMap_append, List.filterMap_append, h.handed, h'.handed]
  settled := by rw [List.filterMap_append, List.filterMap_append, h.settled, h'.settled]
  sound := by
    intro entry hentry
    rcases List.mem_append.mp hentry with hold | hnew
    · exact (h.sound entry hold).mono (List.subset_append_left _ _)
    · exact (h'.sound entry hnew).mono (List.subset_append_right _ _)

/-! ### Echoes -/

theorem take_ofFn_congr {f g : Fin 64 → UInt8} {n : Nat} (h : ∀ i : Fin 64, i < n → f i = g i) :
    (List.ofFn f).take n = (List.ofFn g).take n := by
  apply List.ext_getElem
  · simp
  · intro i hi hi'
    rw [List.length_take, List.length_ofFn] at hi
    rw [List.getElem_take, List.getElem_take, List.getElem_ofFn, List.getElem_ofFn]
    apply h
    simp only
    omega

theorem returnedEcho_message (bus : Fin 3) (stack toSend : CANPacket) :
    packetMessage (returnedEcho bus stack toSend) =
      { packetMessage toSend with bus := bus + 128 } := by
  have hdata := @take_ofFn_congr (copyPacket stack toSend).data toSend.data (getLen toSend)
    (fun i hi => if_pos hi)
  unfold packetMessage
  congr 1

theorem rejectedEcho_message (toPush : CANPacket) :
    packetMessage (rejectedEcho toPush) =
      { packetMessage toPush with bus := toPush.bus + 192 } := rfl

/-! ### What each function adds -/

def Adds (d d' : Driver) : Prop := ∃ added, d'.log = d.log ++ added ∧ Balanced added

theorem Adds.of_log_eq {d d' : Driver} (h : d'.log = d.log) : Adds d d' :=
  ⟨[], by rw [h, List.append_nil], Balanced.nil⟩

theorem Adds.trans {d d' d'' : Driver} (h : Adds d d') (h' : Adds d' d'') : Adds d d'' := by
  obtain ⟨first, hfirst, hbalanced⟩ := h
  obtain ⟨second, hsecond, hbalanced'⟩ := h'
  refine ⟨first ++ second, ?_, hbalanced.append hbalanced'⟩
  rw [hsecond, hfirst, List.append_assoc]

def rxEntry (ret : Bool) (toPush : CANPacket) : Entry :=
  if ret then .rxPushed toPush else .rxOverflow toPush

def txEntry (ret : Bool) (bus : Fin 3) (toPush : CANPacket) : Entry :=
  if ret then .accepted bus toPush else .txOverflow bus toPush

@[simp] theorem handedTo_rxEntry (ret : Bool) (toPush : CANPacket) :
    handedTo (rxEntry ret toPush) = none := by
  cases ret <;> rfl

@[simp] theorem outcome_rxEntry (ret : Bool) (toPush : CANPacket) :
    outcome (rxEntry ret toPush) = none := by
  cases ret <;> rfl

@[simp] theorem owed_rxEntry (ret : Bool) (toPush : CANPacket) :
    owed (rxEntry ret toPush) = none := by
  cases ret <;> rfl

@[simp] theorem settled_rxEntry (ret : Bool) (toPush : CANPacket) :
    settled (rxEntry ret toPush) = some (packetMessage toPush) := by
  cases ret <;> rfl

@[simp] theorem handedTo_txEntry (ret : Bool) (bus : Fin 3) (toPush : CANPacket) :
    handedTo (txEntry ret bus toPush) = none := by
  cases ret <;> rfl

@[simp] theorem outcome_txEntry (ret : Bool) (bus : Fin 3) (toPush : CANPacket) :
    outcome (txEntry ret bus toPush) = some (bus.val, toPush) := by
  cases ret <;> rfl

@[simp] theorem owed_txEntry (ret : Bool) (bus : Fin 3) (toPush : CANPacket) :
    owed (txEntry ret bus toPush) = none := by
  cases ret <;> rfl

@[simp] theorem settled_txEntry (ret : Bool) (bus : Fin 3) (toPush : CANPacket) :
    settled (txEntry ret bus toPush) = none := by
  cases ret <;> rfl

theorem sound_rxEntry {log : List Entry} {packet : CANPacket}
    (hsum : canCheckChecksum packet = true)
    (hecho : packet.returned = true → ∃ bus canNumber stack toSend fifo,
      .written bus canNumber toSend fifo ∈ log ∧ packet = returnedEcho bus stack toSend)
    (ret : Bool) : Sound log (rxEntry ret packet) := by
  cases ret with
  | true => exact ⟨hsum, hecho⟩
  | false => trivial

theorem sound_txEntry (log : List Entry) (ret : Bool) (bus : Fin 3) (packet : CANPacket) :
    Sound log (txEntry ret bus packet) := by
  cases ret <;> trivial

/-- A message that the host is to see, and its push. -/
theorem balanced_push {entry : Entry} {packet : CANPacket}
    (hhanded : handedTo entry = outcome entry)
    (howed : owed entry = some (packetMessage packet)) (hsettled : settled entry = none)
    (hsound : ∀ log, Sound log entry) (hsum : canCheckChecksum packet = true)
    (hecho : packet.returned = true → ∃ bus canNumber stack toSend fifo,
      entry = .written bus canNumber toSend fifo ∧ packet = returnedEcho bus stack toSend)
    (ret : Bool) : Balanced [entry, rxEntry ret packet] := by
  constructor
  · simp only [List.filterMap_cons, List.filterMap_nil, hhanded, handedTo_rxEntry, outcome_rxEntry]
  · simp only [List.filterMap_cons, List.filterMap_nil, howed, hsettled, owed_rxEntry,
      settled_rxEntry]
  · intro e he
    rcases List.mem_cons.mp he with rfl | hpush
    · exact hsound _
    · rw [List.mem_singleton.mp hpush]
      apply sound_rxEntry hsum
      intro hreturned
      obtain ⟨bus, canNumber, stack, toSend, fifo, rfl, heq⟩ := hecho hreturned
      exact ⟨bus, canNumber, stack, toSend, fifo, List.mem_cons_self, heq⟩

namespace Driver

theorem pushRx_log (entry : Entry) (toPush : CANPacket) (d : Driver) :
    ∃ ret, ((d.note entry).pushRx toPush).log = d.log ++ [entry, rxEntry ret toPush] :=
  ⟨(canPush toPush d.comms.canRxQ).1, List.append_assoc _ _ _⟩

theorem pushTx_log (entry : Entry) (bus : Fin 3) (toPush : CANPacket) (d : Driver) :
    ∃ ret, ((d.note entry).pushTx bus toPush).log = d.log ++ [entry, txEntry ret bus toPush] :=
  ⟨(canPush toPush (d.canQueues bus)).1, List.append_assoc _ _ _⟩

theorem transmit_adds (canNumber busNumber : Fin 3) (stack : CANPacket) {toSend : CANPacket}
    (h : canCheckChecksum toSend = true) (d : Driver) :
    Adds d (d.transmit canNumber busNumber stack toSend) := by
  obtain ⟨ret, hlog⟩ := pushRx_log (.written busNumber canNumber toSend (d.txFifo canNumber toSend))
    (returnedEcho busNumber stack toSend) (d.count canNumber _)
  refine ⟨_, hlog, balanced_push rfl ?_ rfl ?_ (canSetChecksum_valid _) ?_ ret⟩
  · exact congrArg some (returnedEcho_message _ _ _).symm
  · intro _
    exact ⟨h, _, _, rfl⟩
  · intro _
    exact ⟨_, _, _, _, _, rfl, rfl⟩

theorem dropInvalid_adds (canNumber busNumber : Fin 3) {toSend : CANPacket}
    (h : canCheckChecksum toSend = false) (d : Driver) :
    Adds d (d.dropInvalid canNumber busNumber toSend) := by
  refine ⟨_, rfl, rfl, rfl, ?_⟩
  intro entry hentry
  rw [List.mem_singleton.mp hentry]
  exact h

theorem processCan_adds (canNumber : Fin 3) (hw : Hardware) (d : Driver) :
    Adds d (d.processCan canNumber hw) := by
  rcases d.processCan_cases canNumber hw with hsame | ⟨toSend, q, -, hpopped⟩
  · exact Adds.of_log_eq (congrArg Driver.log hsame)
  · rw [hpopped]
    split
    · rename_i hvalid
      exact transmit_adds canNumber _ hw.stack hvalid _
    · rename_i hvalid
      exact dropInvalid_adds canNumber _ (by simpa using hvalid) _

theorem enqueue_adds (toPush : CANPacket) (busNumber : Nat) (hw : Hardware) (d : Driver) :
    Adds d ((d.note (.handed busNumber toPush)).enqueue toPush busNumber hw) := by
  unfold enqueue
  split
  · rename_i hbus
    obtain ⟨ret, hlog⟩ := pushTx_log (.handed busNumber toPush) ⟨busNumber, hbus⟩ toPush d
    refine Adds.trans ⟨_, hlog, ?_⟩ (processCan_adds _ hw _)
    constructor
    · simp only [List.filterMap_cons, List.filterMap_nil, handedTo_txEntry, outcome_txEntry]
      simp [handedTo, outcome, hbus]
    · simp only [List.filterMap_cons, List.filterMap_nil, owed_txEntry, settled_txEntry]
      rfl
    · intro entry hentry
      rcases List.mem_cons.mp hentry with rfl | hpush
      · trivial
      · rw [List.mem_singleton.mp hpush]
        exact sound_txEntry _ _ _ _
  · rename_i hbus
    refine ⟨_, rfl, ?_⟩
    constructor
    · simp [List.filterMap_cons, handedTo, outcome, hbus]
    · rfl
    · intro entry hentry
      rw [List.mem_singleton.mp hentry]
      trivial

theorem reject_adds (toPush : CANPacket) (busNumber : Nat) (d : Driver) :
    Adds d ((d.note (.handed busNumber toPush)).reject toPush busNumber) := by
  obtain ⟨ret, hlog⟩ := pushRx_log (.rejected busNumber toPush) (rejectedEcho toPush)
    { d.note (.handed busNumber toPush) with
      main := { d.main with safetyTxBlocked := d.main.safetyTxBlocked + 1 } }
  refine ⟨_, hlog.trans (List.append_assoc _ _ _), ?_⟩
  constructor
  · simp only [List.cons_append, List.nil_append, List.filterMap_cons, List.filterMap_nil,
      handedTo_rxEntry, outcome_rxEntry]
    rfl
  · simp only [List.cons_append, List.nil_append, List.filterMap_cons, List.filterMap_nil,
      owed_rxEntry, settled_rxEntry, rejectedEcho_message]
    rfl
  · intro entry hentry
    simp only [List.cons_append, List.nil_append, List.mem_cons, List.not_mem_nil,
      or_false] at hentry
    rcases hentry with rfl | rfl | rfl
    · trivial
    · trivial
    · apply sound_rxEntry (canSetChecksum_valid _)
      intro hreturned
      cases hreturned

theorem canSend_adds (toPush : CANPacket) (busNumber : Nat) (skipTxHook : Bool) (hw : Hardware)
    (d : Driver) : Adds d (d.canSend toPush busNumber skipTxHook hw) := by
  unfold canSend
  split
  · exact enqueue_adds toPush busNumber hw d
  · simp only
    split
    · exact enqueue_adds toPush busNumber hw (d.runTxHook toPush hw.ts)
    · exact reject_adds toPush busNumber (d.runTxHook toPush hw.ts)

theorem canRx_adds (canNumber : Fin 3) (frame : RxFrame) (hw : Hardware) (d : Driver) :
    Adds d (d.canRx canNumber frame hw) := by
  have hforward : ∀ (busNumber : Fin 3) (d : Driver),
      Adds d (d.forward canNumber busNumber frame hw) := by
    intro busNumber d
    unfold forward
    simp only
    split
    · exact canSend_adds _ _ true hw d
    · exact Adds.of_log_eq rfl
  have hreceived : ∀ (busNumber : Fin 3) (d : Driver),
      Adds d ((((d.runRxHook (receivedFrame busNumber frame) hw.ts).note
        (.received (receivedFrame busNumber frame))).pushRx
        (receivedFrame busNumber frame)).raiseConfig canNumber frame.fifo) := by
    intro busNumber d
    obtain ⟨ret, hlog⟩ := pushRx_log (.received (receivedFrame busNumber frame))
      (receivedFrame busNumber frame) (d.runRxHook (receivedFrame busNumber frame) hw.ts)
    refine ⟨_, hlog, balanced_push rfl rfl rfl ?_ (canSetChecksum_valid _) ?_ ret⟩
    · intro _
      trivial
    · intro hreturned
      cases hreturned
  unfold canRx
  exact (hforward _ (d.count canNumber _)).trans (hreceived _ _)

theorem sendAll_adds (packets : List CANPacket) (hw : Nat → Hardware) (d : Driver) :
    Adds d (d.sendAll packets hw) := by
  induction packets generalizing hw d with
  | nil => exact Adds.of_log_eq rfl
  | cons toPush packets ih =>
      exact (canSend_adds toPush (getBus toPush) false (hw 0) d).trans (ih _ _)

end Driver

theorem driverStep_adds (d : Driver) (e : DriverEvent) : Adds d (driverStep d e) := by
  cases e with
  | send toPush hw => exact Driver.canSend_adds toPush (getBus toPush) false hw d
  | write data hw => exact Driver.sendAll_adds _ hw _
  | spiWrite data hw =>
      change Adds d (d.spiCanWrite data hw).2
      unfold Driver.spiCanWrite
      split
      · exact Driver.sendAll_adds _ hw _
      · exact Adds.of_log_eq rfl
  | read maxLen =>
      refine ⟨_, rfl, rfl, rfl, ?_⟩
      intro entry hentry
      rw [List.mem_singleton.mp hentry]
      trivial
  | processCan canNumber hw => exact d.processCan_adds canNumber hw
  | rx canNumber frame hw => exact d.canRx_adds canNumber frame hw
  | setDataBitrate param1 param2 hw =>
      change Adds d (d.setDataBitrate param1 param2 hw)
      unfold Driver.setDataBitrate
      split
      · exact Driver.processCan_adds _ hw _
      · exact Adds.of_log_eq rfl
  | setNonIso param1 param2 hw => exact Driver.processCan_adds _ hw _
  | clearTx bus => exact Adds.of_log_eq rfl
  | clearRx => exact Adds.of_log_eq rfl
  | setOrientation flipped => exact Adds.of_log_eq rfl
  | main board e => exact Adds.of_log_eq rfl

/-- The accounts of the log balance after any run. -/
theorem run_balanced {d : Driver} (h : Balanced d.log) (events : List DriverEvent) :
    Balanced (run driverStep d events).log := by
  refine run_invariant (I := fun d : Driver => Balanced d.log) ?_ h events
  intro d e hd
  obtain ⟨added, hadded, hbalanced⟩ := driverStep_adds d e
  rw [hadded]
  exact hd.append hbalanced

end Panda.Comms
