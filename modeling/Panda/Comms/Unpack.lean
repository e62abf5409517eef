import Panda.Comms.Receive
import Panda.Host.CanBuffer

/-!
The receive path end to end: the host unpacks what it reads, in batches of any
size, to exactly the packets that the device queued.
-/

namespace Panda.Comms

open Library Safety Host

/-- The message that `unpack_can_buffer` makes of the bytes of one packet. -/
def frameMessage (frame : List UInt8) : CanMessage :=
  let byte (i : Nat) : Nat := (frame.getD i 0).toNat
  let bus := byte 0 >>> 1 &&& 0x7
  let bus := if byte 1 >>> 1 &&& 0x1 ≠ 0 then bus + 128 else bus
  { address := (byte 4 <<< 24 ||| byte 3 <<< 16 ||| byte 2 <<< 8 ||| byte 1) >>> 3
    dat := frame.drop Host.canpacketHeadSize
    bus := if byte 1 &&& 0x1 ≠ 0 then bus + 192 else bus }

/-- The message that a queued packet is for the host. -/
def packetMessage (packet : CANPacket) : CanMessage where
  address := packet.addr.val
  dat := (List.ofFn packet.data).take (getLen packet)
  bus := packet.bus.val + (if packet.returned then 128 else 0) +
    (if packet.rejected then 192 else 0)

theorem host_dlcToLen (first : UInt8) :
    Host.dlcToLen.getD (first.toNat >>> 4) 0 = Safety.dlcToLen (lenCode first) := by
  have htable : ∀ code : Fin 16, Host.dlcToLen.getD code.val 0 = Safety.dlcToLen code := by decide
  exact htable (lenCode first)

theorem getD_take {n i : Nat} (h : i < n) (bytes : List UInt8) :
    (bytes.take n).getD i 0 = bytes.getD i 0 := by
  simp [List.getD_eq_getElem?_getD, h]

theorem frameMessage_take {n : Nat} (h : Host.canpacketHeadSize ≤ n) (dat : List UInt8) :
    frameMessage (dat.take n) =
      { frameMessage dat with dat := (dat.take n).drop Host.canpacketHeadSize } := by
  have hsix : Host.canpacketHeadSize = 6 := rfl
  unfold frameMessage
  simp only [getD_take (show 0 < n by omega), getD_take (show 1 < n by omega),
    getD_take (show 2 < n by omega), getD_take (show 3 < n by omega),
    getD_take (show 4 < n by omega)]

/-- The loop takes the complete packets off the front. -/
theorem unpackLoop_split {fuel : Nat} {dat : List UInt8} {ret : List CanMessage}
    (hfuel : dat.length < fuel)
    (hvalid : ∀ frame ∈ (packetFraming.split dat).1, Host.calculateChecksum frame = 0) :
    unpackLoop fuel dat ret =
      .ok (ret ++ (packetFraming.split dat).1.map frameMessage, (packetFraming.split dat).2) := by
  induction fuel generalizing dat ret with
  | zero => omega
  | succ fuel ih =>
      cases dat with
      | nil =>
          rw [unpackLoop, if_neg (by decide),
            Framing.split_incomplete_eq (by simp [Framing.Incomplete])]
          simp
      | cons a rest =>
          have hneed : packetFraming.need a =
              Host.canpacketHeadSize + Host.dlcToLen.getD (a.toNat >>> 4) 0 := by
            rw [host_dlcToLen]
            rfl
          by_cases hfull : packetFraming.need a ≤ (a :: rest).length
          · rw [Framing.split_complete_eq hfull] at hvalid ⊢
            obtain ⟨hchecksum, hlater⟩ := List.forall_mem_cons.mp hvalid
            rw [hneed] at hchecksum hlater ⊢
            rw [unpackLoop, if_pos (by omega)]
            simp only [List.getD_cons_zero]
            rw [if_neg (by omega), if_neg (not_not_intro hchecksum)]
            have hsix : Host.canpacketHeadSize = 6 := rfl
            rw [ih (by rw [List.length_drop]; omega) hlater]
            rw [List.map_cons, frameMessage_take (Nat.le_add_right _ _), List.append_assoc]
            rfl
          · have hincomplete : packetFraming.Incomplete (a :: rest) := by
              intro b hb
              cases hb
              omega
            rw [Framing.split_incomplete_eq hincomplete, unpackLoop]
            simp only [List.getD_cons_zero, List.map_nil, List.append_nil]
            by_cases hhead : (a :: rest).length ≥ Host.canpacketHeadSize
            · rw [if_pos hhead, if_pos (by omega)]
            · rw [if_neg hhead]

theorem unpackCanBuffer_split {dat : List UInt8}
    (hvalid : ∀ frame ∈ (packetFraming.split dat).1, Host.calculateChecksum frame = 0) :
    unpackCanBuffer dat =
      .ok ((packetFraming.split dat).1.map frameMessage, (packetFraming.split dat).2) := by
  unfold unpackCanBuffer
  rw [unpackLoop_split (Nat.lt_succ_self _) hvalid]
  rfl

/-- Batches with the overflow carried along unpack as their concatenation. -/
theorem canRecv_split {batches : List (List UInt8)} {overflow : List UInt8}
    (hoverflow : packetFraming.Incomplete overflow)
    (hvalid : ∀ frame ∈ (packetFraming.split (overflow ++ batches.flatten)).1,
      Host.calculateChecksum frame = 0) :
    canRecv batches overflow =
      .ok ((packetFraming.split (overflow ++ batches.flatten)).1.map frameMessage,
        (packetFraming.split (overflow ++ batches.flatten)).2) := by
  induction batches generalizing overflow with
  | nil =>
      rw [List.flatten_nil, List.append_nil, Framing.split_incomplete_eq hoverflow]
      rfl
  | cons dat batches ih =>
      rw [List.flatten_cons, ← List.append_assoc, Framing.split_append] at hvalid ⊢
      obtain ⟨hnow, hlater⟩ := List.forall_mem_append.mp hvalid
      rw [canRecv, unpackCanBuffer_split hnow]
      simp only [bind, Except.bind]
      rw [ih (packetFraming.split_rest _) hlater, List.map_append]

/-- The four bytes of a little-endian word. -/
theorem word_bytes {b1 b2 b3 b4 : Nat} (h1 : b1 < 2 ^ 8) (h2 : b2 < 2 ^ 8) (h3 : b3 < 2 ^ 8) :
    b4 <<< 24 ||| b3 <<< 16 ||| b2 <<< 8 ||| b1 =
      b4 * 2 ^ 24 + b3 * 2 ^ 16 + b2 * 2 ^ 8 + b1 := by
  simp only [Nat.shiftLeft_eq]
  have hthird : b4 * 2 ^ 24 ||| b3 * 2 ^ 16 = b4 * 2 ^ 24 + b3 * 2 ^ 16 :=
    or_eq_add (Dvd.intro_left b4 rfl) (by omega)
  have hsecond : b4 * 2 ^ 24 + b3 * 2 ^ 16 ||| b2 * 2 ^ 8 =
      b4 * 2 ^ 24 + b3 * 2 ^ 16 + b2 * 2 ^ 8 :=
    @or_eq_add _ _ 16 (by omega) (by omega)
  have hfirst : b4 * 2 ^ 24 + b3 * 2 ^ 16 + b2 * 2 ^ 8 ||| b1 =
      b4 * 2 ^ 24 + b3 * 2 ^ 16 + b2 * 2 ^ 8 + b1 :=
    @or_eq_add _ _ 8 (by omega) (by omega)
  rw [hthird, hsecond, hfirst]

/-- A queued packet comes out as it was. -/
theorem frameMessage_wireBytes (packet : CANPacket) :
    frameMessage (wireBytes packet) = packetMessage packet := by
  have hflags := flagsWord_lt packet
  obtain ⟨haddr, -, hreturned, hrejected⟩ := flagsWord_fields packet
  have hbytes : flagsWord packet / 2 ^ 24 % 2 ^ 8 * 2 ^ 24 +
      flagsWord packet / 2 ^ 16 % 2 ^ 8 * 2 ^ 16 + flagsWord packet / 2 ^ 8 % 2 ^ 8 * 2 ^ 8 +
      flagsWord packet % 2 ^ 8 = flagsWord packet := by omega
  have hbus : (packet.dataLenCode.val * 16 + packet.bus.val * 2 + packet.reserved.toNat) % 2 ^ 8 /
      2 ^ 1 % 8 = packet.bus.val := by
    have hlt := packet.bus.isLt
    have hcode := packet.dataLenCode.isLt
    have hreserved := Bool.toNat_le packet.reserved
    omega
  have hand1 : ∀ n, n &&& 0x1 = n % 2 := fun n => Nat.and_two_pow_sub_one_eq_mod n 1
  have hand3 : ∀ n, n &&& 0x7 = n % 8 := fun n => Nat.and_two_pow_sub_one_eq_mod n 3
  rw [wireBytes_eq]
  unfold frameMessage packetMessage
  simp only [headBytes, List.cons_append, List.getD_cons_zero, List.getD_cons_succ,
    UInt8.toNat_ofNat']
  rw [word_bytes (Nat.mod_lt _ (by decide)) (Nat.mod_lt _ (by decide)) (Nat.mod_lt _ (by decide))]
  simp only [hand1, hand3, Nat.shiftRight_eq_div_pow]
  rw [hbytes, haddr, hreturned, hrejected, hbus]
  congr 1
  cases packet.returned <;> cases packet.rejected <;> rfl

/-! ### Runs -/

/-- What the host has read is the start of the stream of queued packets. -/
theorem bytesRead_prefix {s : CanComms} (hs : s.canReadBuffer.ptr = 0) (events : List RxEvent) :
    bytesRead s events ++ (run rxStep s events).pending =
      ((packetsQueued s events).map wireBytes).flatten := by
  rw [run_pending events (by omega), CanComms.pending, AsmBuffer.carried_of_zero hs]
  simp [packetsQueued]

theorem split_packets (packets : List CANPacket) :
    packetFraming.split (packets.map wireBytes).flatten = (packets.map wireBytes, []) := by
  have hframes : ∀ frame ∈ packets.map wireBytes, packetFraming.IsFrame frame := by
    intro frame hframe
    obtain ⟨packet, -, rfl⟩ := List.mem_map.mp hframe
    exact wireBytes_isFrame packet
  have hsplit := Framing.split_flatten_append hframes []
  rw [List.append_nil, Framing.split] at hsplit
  rw [hsplit, List.append_nil]

theorem hostChecksum_wireBytes {packet : CANPacket} (h : canCheckChecksum packet = true) :
    Host.calculateChecksum (wireBytes packet) = 0 :=
  eq_of_beq h

/-- The host has got a first part of the queued packets. The bytes of the others
are in its overflow and in the device. -/
structure Delivers (queued : List CANPacket) (msgs : List CanMessage)
    (overflow pending : List UInt8) : Prop where
  parts : ∃ delivered undelivered, queued = delivered ++ undelivered ∧
    msgs = delivered.map packetMessage ∧
    overflow ++ pending = (undelivered.map wireBytes).flatten
  all : pending = [] → msgs = queued.map packetMessage ∧ overflow = []

theorem canRecv_delivers {queued : List CANPacket} {batches : List (List UInt8)}
    {pending : List UInt8} (hvalid : ∀ packet ∈ queued, canCheckChecksum packet = true)
    (hstream : batches.flatten ++ pending = (queued.map wireBytes).flatten) :
    ∃ msgs overflow, canRecv batches [] = .ok (msgs, overflow) ∧
      Delivers queued msgs overflow pending := by
  have hsplit := split_packets queued
  rw [← hstream, Framing.split_append, Prod.mk.injEq] at hsplit
  obtain ⟨hframes, hrest⟩ := hsplit
  obtain ⟨delivered, undelivered, hqueued, hdelivered, hundelivered⟩ :=
    List.map_eq_append_iff.mp hframes.symm
  have hchecksum : ∀ frame ∈ (packetFraming.split ([] ++ batches.flatten)).1,
      Host.calculateChecksum frame = 0 := by
    intro frame hframe
    rw [List.nil_append, ← hdelivered] at hframe
    obtain ⟨packet, hpacket, rfl⟩ := List.mem_map.mp hframe
    apply hostChecksum_wireBytes
    apply hvalid
    rw [hqueued]
    exact List.mem_append_left _ hpacket
  have hempty : packetFraming.Incomplete [] := by
    intro first hfirst
    cases hfirst
  have hrecv := canRecv_split hempty hchecksum
  rw [List.nil_append, ← hdelivered, List.map_map] at hrecv
  have hmessages : frameMessage ∘ wireBytes = packetMessage := funext frameMessage_wireBytes
  rw [hmessages] at hrecv
  refine ⟨_, _, hrecv, ⟨delivered, undelivered, hqueued, rfl, ?_⟩, ?_⟩
  · have hjoin := packetFraming.split_join ((packetFraming.split batches.flatten).2 ++ pending)
    rw [hrest, List.append_nil, ← hundelivered] at hjoin
    exact hjoin.symm
  · intro hdrained
    have hincomplete := packetFraming.split_rest batches.flatten
    rw [hdrained, List.append_nil, Framing.split_incomplete_eq hincomplete] at hundelivered hrest
    rw [hqueued, List.map_eq_nil_iff.mp hundelivered, List.append_nil]
    exact ⟨rfl, hrest⟩

/-- In every run of reads of any lengths and further pushes, and for every
grouping of the bytes into batches: the host gets the queued packets in order,
all of them once nothing is pending, and a read comes back short only when it
leaves nothing pending. -/
theorem receive_end_to_end {s : CanComms} (hs : s.canReadBuffer.ptr = 0) {events : List RxEvent}
    (hvalid : ∀ packet ∈ packetsQueued s events, canCheckChecksum packet = true)
    {batches : List (List UInt8)} (hbatches : batches.flatten = bytesRead s events) :
    (∃ msgs overflow, canRecv batches [] = .ok (msgs, overflow) ∧
      Delivers (packetsQueued s events) msgs overflow (run rxStep s events).pending) ∧
    ∀ first maxLen rest, events = first ++ .read maxLen :: rest →
      (rxReturned (run rxStep s first) (.read maxLen)).length < maxLen →
      (rxStep (run rxStep s first) (.read maxLen)).canRxQ.queued = [] ∧
        (rxStep (run rxStep s first) (.read maxLen)).canReadBuffer.ptr = 0 := by
  constructor
  · apply canRecv_delivers hvalid
    rw [hbatches]
    exact bytesRead_prefix hs events
  · intro first maxLen rest _ hshort
    have hfits : (run rxStep s first).canReadBuffer.ptr ≤ 72 :=
      run_invariant (I := fun t : CanComms => t.canReadBuffer.ptr ≤ 72)
        (fun t e ht => rxStep_fits e ht) (by omega) first
    exact (commsCanRead_reads maxLen hfits).drained hshort

/-- A packet is queued, read in part, and read to the end after a second one. -/
def splitReads : List RxEvent :=
  [.push
    { bus := 0
      dataLenCode := 2
      addr := 0x100
      checksum := 0x28
      data := fun _ => 0x15 },
   .read 5,
   .push
    { bus := 1
      dataLenCode := 0
      returned := true
      addr := 0x7FF
      checksum := 0xC7
      data := fun _ => 0 },
   .read 64]

theorem receive_end_to_end_split :
    ∃ msgs overflow, canRecv [bytesRead powerOnComms splitReads] [] = .ok (msgs, overflow) ∧
      Delivers (packetsQueued powerOnComms splitReads) msgs overflow
        (run rxStep powerOnComms splitReads).pending := by
  apply (receive_end_to_end rfl _ _).1
  · decide
  · simp

end Panda.Comms
