import Panda.Comms.Conservation

/-!
The checksum of a packet on its way through the driver. A packet with an invalid
one reaches the safety hook and the queue, but no mailbox. What the host reads
has a valid one.
-/

namespace Panda.Comms

open Library Safety Host

/-! ### Towards the host -/

/-- Every packet that goes into the receive queue has a checksum that is right, so
that no read of the host fails. -/
theorem received_checksums (main : Main.State) (events : List DriverEvent) :
    (∀ packet, .rxPushed packet ∈ (run driverStep (initialDriver main) events).log →
      calculateChecksum (wireBytes packet) = 0) ∧
    ((∀ e ∈ events, e.clears = false) → ∀ batches : List (List UInt8),
      batches.flatten = (run driverStep (initialDriver main) events).log.flatMap bytesOf →
      ∃ msgs overflow, canRecv batches [] = .ok (msgs, overflow)) := by
  have hsound := (run_balanced (d := initialDriver main) Balanced.nil events).sound
  constructor
  · intro packet hpacket
    have hpushed := hsound _ hpacket
    exact eq_of_beq hpushed.1
  · intro hclears batches hbatches
    have hreads := (run_accounted (initialDriver_accounted main) hclears).reads
    have hvalid : ∀ packet ∈ (run driverStep (initialDriver main) events).log.filterMap pushed,
        canCheckChecksum packet = true := by
      intro packet hpacket
      obtain ⟨entry, hentry, heq⟩ := List.mem_filterMap.mp hpacket
      cases entry with
      | rxPushed p =>
          cases heq
          exact (hsound _ hentry).1
      | _ => cases heq
    rw [← hbatches] at hreads
    obtain ⟨msgs, overflow, hrecv, -⟩ := canRecv_delivers hvalid hreads
    exact ⟨msgs, overflow, hrecv⟩

theorem received_checksums_gm :
    ∃ msgs overflow, canRecv
      [(run driverStep (initialDriver gmMain) gmRejecting).log.flatMap bytesOf] [] =
        .ok (msgs, overflow) := by
  apply (received_checksums gmMain gmRejecting).2
  · decide
  · simp

/-! ### Towards the bus -/

/-- The safety hook does not look at the checksum. -/
theorem safetyTxHook_checksum (ts : UInt32) (toSend : CANPacket) (checksum : UInt8)
    (s : Safety.State) : safetyTxHook ts { toSend with checksum } s = safetyTxHook ts toSend s := by
  have hhook : ∀ id : HooksId, (hooksOf id).tx (s.context ts) s.params s.signals
      { toSend with checksum } s.commands s.vars =
      (hooksOf id).tx (s.context ts) s.params s.signals toSend s.commands s.vars := by
    intro id
    cases id <;> rfl
  unfold safetyTxHook State.sending State.hooks
  rw [hhook]

namespace Driver

theorem processCan_main (canNumber : Fin 3) (hw : Hardware) (d : Driver) :
    (d.processCan canNumber hw).main = d.main := by
  rcases d.processCan_cases canNumber hw with hsame | ⟨toSend, q, -, hpopped⟩
  · rw [hsame]
  · rw [hpopped]
    split
    · rfl
    · rfl

theorem enqueue_main (toPush : CANPacket) (busNumber : Nat) (hw : Hardware) (d : Driver) :
    (d.enqueue toPush busNumber hw).main = d.main := by
  unfold enqueue
  split
  · exact processCan_main _ _ _
  · rfl

/-- What the host sends reaches the safety layer through its hook alone. -/
theorem canSend_main (toPush : CANPacket) (busNumber : Nat) (hw : Hardware) (d : Driver) :
    (d.canSend toPush busNumber false hw).main = Main.step {} d.main (.tx hw.ts toPush) := by
  unfold canSend Main.step
  simp only [Bool.false_eq_true, if_false]
  by_cases haccepted : d.main.safety.txAccepted hw.ts toPush = true
  · rw [if_pos haccepted]
    refine (congrArg Driver.main (if_pos haccepted)).trans ?_
    rw [enqueue_main, UInt32.add_zero]
    rfl
  · rw [if_neg haccepted]
    exact congrArg Driver.main (if_neg haccepted)

/-- The calls of the safety hook for packets of the host. -/
def hookCalls : List CANPacket → (Nat → Hardware) → List Safety.Event
  | [], _ => []
  | toPush :: packets, hw => .tx (hw 0).ts toPush :: hookCalls packets fun i => hw (i + 1)

theorem sendAll_main (packets : List CANPacket) (hw : Nat → Hardware) (d : Driver) :
    ∃ safetyTxBlocked, (d.sendAll packets hw).main =
      { d.main with
        safety := run Safety.step d.main.safety (hookCalls packets hw)
        safetyTxBlocked } := by
  induction packets generalizing hw d with
  | nil => exact ⟨_, rfl⟩
  | cons toPush packets ih =>
      obtain ⟨safetyTxBlocked, hrest⟩ :=
        ih (fun i => hw (i + 1)) (d.canSend toPush (getBus toPush) false (hw 0))
      rw [canSend_main] at hrest
      exact ⟨safetyTxBlocked, hrest⟩

end Driver

/-- What becomes of packets from the host whatever their checksum is: only those
with a valid one reach a mailbox or come back as returned. The safety hook sees
all of them, and a packet changes the commands and variables that the hook
remembers, and nothing else of the safety layer, as it would with any checksum.
Outside of the safety layer the blocked packets are counted. -/
theorem invalid_checksum_contained (main : Main.State) (events : List DriverEvent) :
    let d := run driverStep (initialDriver main) events
    (∀ bus canNumber packet fifo, .written bus canNumber packet fifo ∈ d.log →
      canCheckChecksum packet = true) ∧
    (∀ packet, .rxPushed packet ∈ d.log → packet.returned = true →
      ∃ bus canNumber stack toSend fifo, .written bus canNumber toSend fifo ∈ d.log ∧
        canCheckChecksum toSend = true ∧ packet = returnedEcho bus stack toSend) ∧
    (∀ data hw, ∃ safetyTxBlocked, (d.commsCanWrite data hw).main = { d.main with
      safety := run Safety.step d.main.safety
        (Driver.hookCalls (Comms.commsCanWrite data d.comms).1 hw)
      safetyTxBlocked }) ∧
    (∀ toPush hw checksum, ∃ commands vars,
      (d.canSend toPush (getBus toPush) false hw).main = { d.main with
        safety := { d.main.safety with commands, vars }
        safetyTxBlocked := d.main.safetyTxBlocked +
          if d.main.safety.txAccepted hw.ts toPush then 0 else 1 } ∧
      { d.main.safety with commands, vars } =
        safetyTxHook hw.ts { toPush with checksum } d.main.safety) ∧
    ∀ canNumber hw, (d.processCan canNumber hw).main = d.main := by
  intro d
  have hsound := (run_balanced (d := initialDriver main) Balanced.nil events).sound
  refine ⟨?_, ?_, ?_, ?_, ?_⟩
  · intro bus canNumber packet fifo hwritten
    exact (hsound _ hwritten).1
  · intro packet hpushed hreturned
    obtain ⟨bus, canNumber, stack, toSend, fifo, hwritten, heq⟩ := (hsound _ hpushed).2 hreturned
    exact ⟨bus, canNumber, stack, toSend, fifo, hwritten, (hsound _ hwritten).1, heq⟩
  · intro data hw
    exact Driver.sendAll_main _ hw _
  · intro toPush hw checksum
    refine ⟨_, _, d.canSend_main toPush (getBus toPush) hw, ?_⟩
    rw [safetyTxHook_checksum]
    rfl
  · intro canNumber hw
    exact d.processCan_main canNumber hw

/-- A steering frame of GM with a wrong checksum. -/
def gmCorruptFrame : CANPacket := .ofBytes 0x180 0 4 [0x08, 10, 0, 0]

theorem invalid_checksum_moves_reference :
    ¬ ∀ (main : Main.State) (events : List DriverEvent) (toPush : CANPacket) (hw : Hardware),
      let d := run driverStep (initialDriver main) events
      canCheckChecksum toPush = false →
      (d.canSend toPush (getBus toPush) false hw).main.safety.commands.torque.desiredTorqueLast =
        d.main.safety.commands.torque.desiredTorqueLast := by
  intro hall
  have hinvalid : canCheckChecksum gmCorruptFrame = false := by decide
  have hsame := hall gmMain gmEngaging gmCorruptFrame quiet hinvalid
  revert hsame
  decide

end Panda.Comms
