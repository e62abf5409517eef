import Mathlib.Data.Nat.Bitwise
import Panda.Comms.Transmit
import Panda.Comms.Unpack
import Panda.Host.SocketCan

/-!
The records of the SocketCAN driver against the packets of the firmware. The firmware
takes the first byte of a record for the head of a packet of another format, and a record
of the driver is longer than any packet with at most eight bytes of data.
-/

namespace Panda.Comms

open Library Safety Host

/-- The frame that a packet is for Linux, and the number of its interface. -/
def packetFrame (packet : CANPacket) : Nat × SocketFrame :=
  (packet.bus.val,
    { canId := packet.addr.val + if packet.extended then canEffFlag else 0
      data := (List.ofFn packet.data).take (getLen packet) })

/-- Of the packets that `comms_can_write` makes of the driver's transfer, exactly one is
valid, and it is the frame. -/
def SendsFrame (s : CanComms) (infNum : Nat) (cf : SocketFrame) : Prop :=
  ((commsCanWrite (pandaUsbStartXmit infNum cf) s).1.filter canCheckChecksum).map packetFrame =
    [(infNum, cf)]

/-- From the transfers of the run the driver makes the frames of the packets. -/
def ReceivesFrames (k : KernelCan) (s : CanComms) (events : List RxEvent) : Prop :=
  (trace rxStep rxReturned s events).flatMap (pandaUsbReadBulkCallback k) =
    (packetsQueued s events).map packetFrame

/-! ### From the device -/

theorem flatMap_readBulk_length (k : KernelCan) (transfers : List (List UInt8)) :
    16 * (transfers.flatMap (pandaUsbReadBulkCallback k)).length ≤ transfers.flatten.length := by
  induction transfers with
  | nil => exact Nat.le_refl _
  | cons buffer transfers ih =>
      have hbuffer := readBulkCallback_length k buffer
      rw [List.flatMap_cons, List.flatten_cons, List.length_append, List.length_append]
      omega

theorem flatten_wireBytes_length {packets : List CANPacket}
    (h : ∀ packet ∈ packets, getLen packet ≤ 8) :
    (packets.map wireBytes).flatten.length ≤ 14 * packets.length := by
  induction packets with
  | nil => exact Nat.le_refl _
  | cons packet packets ih =>
      obtain ⟨hpacket, hpackets⟩ := List.forall_mem_cons.mp h
      have hrest := ih hpackets
      rw [List.map_cons, List.flatten_cons, List.length_append, wireBytes_length, List.length_cons]
      simp only [canpacketHeadSize]
      omega

theorem packetFrame_length (packet : CANPacket) :
    (packetFrame packet).2.data.length = getLen packet := by
  have hle : getLen packet ≤ 64 := dlcToLen_le packet.dataLenCode
  exact List.length_take_of_le (by rw [List.length_ofFn]; exact hle)

/-- The driver gets the frames of all packets only if there are none. -/
theorem receivesFrames_iff (k : KernelCan) {s : CanComms} (hs : s.canReadBuffer.ptr = 0)
    {events : List RxEvent} (hall : (run rxStep s events).pending = []) :
    ReceivesFrames k s events ↔ packetsQueued s events = [] := by
  have hbytes : (trace rxStep rxReturned s events).flatten =
      ((packetsQueued s events).map wireBytes).flatten := by
    have hrun := bytesRead_prefix hs events
    rw [hall, List.append_nil] at hrun
    exact hrun
  constructor
  · intro h
    have hlength := flatMap_readBulk_length k (trace rxStep rxReturned s events)
    have hshort : ∀ packet ∈ packetsQueued s events, getLen packet ≤ 8 := by
      intro packet hpacket
      have hframe : packetFrame packet ∈
          (trace rxStep rxReturned s events).flatMap (pandaUsbReadBulkCallback k) := by
        rw [h]
        exact List.mem_map_of_mem hpacket
      obtain ⟨buffer, -, hreceived⟩ := List.mem_flatMap.mp hframe
      rw [← packetFrame_length]
      exact readBulkCallback_data k buffer _ hreceived
    have htotal := flatten_wireBytes_length hshort
    rw [h, List.length_map, hbytes] at hlength
    exact List.eq_nil_of_length_eq_zero (by omega)
  · intro h
    have hnone : (trace rxStep rxReturned s events).flatMap (pandaUsbReadBulkCallback k) = [] := by
      apply List.eq_nil_of_length_eq_zero
      have hlength := flatMap_readBulk_length k (trace rxStep rxReturned s events)
      rw [hbytes, h, List.map_nil, List.flatten_nil, List.length_nil] at hlength
      omega
    rw [ReceivesFrames, hnone, h, List.map_nil]

/-! ### The record of a frame -/

variable {infNum : Nat} {cf : SocketFrame}

def paddedData (cf : SocketFrame) : List UInt8 :=
  cf.data ++ List.replicate (8 - cf.data.length) 0

def record (rir infNum : Nat) (cf : SocketFrame) : List UInt8 :=
  cpuToLe32 rir ++ ([.ofNat (infNum * 2 ^ 4 + cf.data.length), 0, 0, 0] ++ paddedData cf)

theorem paddedData_length (h : cf.data.length ≤ 8) : (paddedData cf).length = 8 := by
  rw [paddedData, List.length_append, List.length_replicate]
  omega

theorem paddedData_zero {i : Nat} (h : cf.data.length ≤ i) : (paddedData cf).getD i 0 = 0 := by
  rw [paddedData, List.getD_append_right _ _ _ _ h, List.getD_eq_getElem?_getD,
    List.getElem?_replicate]
  split
  · rfl
  · rfl

theorem record_length (rir infNum : Nat) (h : cf.data.length ≤ 8) :
    (record rir infNum cf).length = 16 := by
  rw [record, List.length_append, List.length_append, paddedData_length h]
  rfl

/-- The bytes of the word that a record starts with. -/
theorem record_rir (rir infNum : Nat) (cf : SocketFrame) {i : Nat} (hi : i < 4) :
    ((record rir infNum cf).getD i 0).toNat = rir / 2 ^ (8 * i) % 2 ^ 8 := by
  rw [← Nat.shiftRight_eq_div_pow]
  match i, hi with
  | 0, _ | 1, _ | 2, _ | 3, _ => exact UInt8.toNat_ofNat'

theorem effFlag_standard {id : Nat} (h : id < 2 ^ 11) : id &&& canEffFlag = 0 := by
  have hbit : id.testBit 31 = false := Nat.testBit_lt_two_pow (by omega)
  exact (Nat.and_two_pow id 31).trans (by rw [hbit]; rfl)

theorem effFlag_extended {id : Nat} (h : id < 2 ^ 29) :
    (canEffFlag + id) &&& canEffFlag ≠ 0 := by
  have hbit : (canEffFlag + id).testBit 31 = true := by
    rw [canEffFlag, Nat.testBit_eq_decide_div_mod_eq]
    exact decide_eq_true (by omega)
  have hand : (canEffFlag + id) &&& canEffFlag = ((canEffFlag + id).testBit 31).toNat * 2 ^ 31 :=
    Nat.and_two_pow (canEffFlag + id) 31
  rw [hand, hbit]
  decide

theorem cpuToLe32_busDatLen (hinf : infNum < 3) (hlen : cf.data.length ≤ 8) :
    cpuToLe32 (cf.data.length &&& 0x0F ||| canNumbering.getD infNum 0 <<< 4) =
      [.ofNat (infNum * 2 ^ 4 + cf.data.length), 0, 0, 0] := by
  have hmask : cf.data.length &&& 0x0F = cf.data.length % 2 ^ 4 :=
    Nat.and_two_pow_sub_one_eq_mod _ 4
  have hbus : canNumbering.getD infNum 0 = infNum := by
    interval_cases infNum
    · rfl
    · rfl
    · rfl
  rw [hmask, Nat.mod_eq_of_lt (by omega), hbus, Nat.or_comm, Nat.shiftLeft_eq,
    or_eq_add (Dvd.intro_left infNum rfl) (by omega)]
  have hhigh : ∀ i, 1 ≤ i → UInt8.ofNat ((infNum * 2 ^ 4 + cf.data.length) >>> (8 * i)) = 0 := by
    intro i hi
    rw [Nat.shiftRight_eq_div_pow, Nat.div_eq_of_lt]
    · rfl
    · exact Nat.lt_of_lt_of_le (show _ < 2 ^ (8 * 1) by omega)
        (Nat.pow_le_pow_right (by decide) (Nat.mul_le_mul_left 8 hi))
  simp only [cpuToLe32, List.cons.injEq, true_and, and_true]
  exact ⟨hhigh 1 (by decide), hhigh 2 (by decide), hhigh 3 (by decide)⟩

theorem startXmit_standard (hid : cf.canId < 2 ^ 11) (hinf : infNum < 3)
    (hlen : cf.data.length ≤ 8) :
    pandaUsbStartXmit infNum cf = record (cf.canId * 2 ^ 21 + 1) infNum cf := by
  have hmask : cf.canId &&& 0x7FF = cf.canId % 2 ^ 11 := Nat.and_two_pow_sub_one_eq_mod _ 11
  have hrir : cf.canId <<< 21 ||| pandaCanTransmit = cf.canId * 2 ^ 21 + 1 := by
    rw [Nat.shiftLeft_eq]
    exact or_eq_add (Dvd.intro_left _ rfl) (by decide)
  unfold pandaUsbStartXmit
  dsimp only
  rw [if_neg (not_not_intro (effFlag_standard hid)), hmask, Nat.mod_eq_of_lt hid, hrir,
    cpuToLe32_busDatLen hinf hlen, List.append_assoc]
  rfl

theorem startXmit_extended {id : Nat} (hid : id < 2 ^ 29) (heq : cf.canId = canEffFlag + id)
    (hinf : infNum < 3) (hlen : cf.data.length ≤ 8) :
    pandaUsbStartXmit infNum cf = record (id * 2 ^ 3 + 5) infNum cf := by
  have hmask : (canEffFlag + id) &&& 0x1FFFFFFF = (canEffFlag + id) % 2 ^ 29 :=
    Nat.and_two_pow_sub_one_eq_mod _ 29
  have hmod : (canEffFlag + id) % 2 ^ 29 = id := by
    rw [canEffFlag]
    omega
  have hrir : id <<< 3 ||| pandaCanTransmit ||| pandaCanExtended = id * 2 ^ 3 + 5 := by
    rw [Nat.or_assoc, Nat.shiftLeft_eq]
    exact or_eq_add (Dvd.intro_left _ rfl) (by decide)
  unfold pandaUsbStartXmit
  dsimp only
  rw [heq, if_pos (effFlag_extended hid), hmask, hmod, hrir, cpuToLe32_busDatLen hinf hlen,
    List.append_assoc]
  rfl

/-! ### Packets of a record -/

variable {s : CanComms}

theorem commsCanWrite_sent (hs : s.canWriteBuffer.ptr = 0) (data : List UInt8) :
    (commsCanWrite data s).1 = (packetFraming.split data).1.map ofStruct := by
  have hsent := (commsCanWrite_writes data (Assembling.of_zero hs)).sent
  rw [AsmBuffer.carried_of_zero hs, List.nil_append] at hsent
  exact hsent

/-- One of the packets is the frame. -/
theorem SendsFrame.exists_packet (h : SendsFrame s infNum cf) (hs : s.canWriteBuffer.ptr = 0) :
    ∃ frame ∈ (packetFraming.split (pandaUsbStartXmit infNum cf)).1,
      packetFrame (ofStruct frame) = (infNum, cf) := by
  have hmem : (infNum, cf) ∈
      ((commsCanWrite (pandaUsbStartXmit infNum cf) s).1.filter canCheckChecksum).map
        packetFrame := by
    rw [h]
    exact List.mem_singleton_self _
  obtain ⟨packet, hpacket, hframe⟩ := List.mem_map.mp hmem
  have hsent := (List.mem_filter.mp hpacket).1
  rw [commsCanWrite_sent hs] at hsent
  obtain ⟨frame, hin, rfl⟩ := List.mem_map.mp hsent
  exact ⟨frame, hin, hframe⟩

/-- What it takes for the packet of a memory to be the frame. -/
structure Makes (memory : List UInt8) (infNum : Nat) (cf : SocketFrame) : Prop where
  bus : (memory.getD 0 0).toNat / 2 % 8 = infNum
  length : dlcToLen (lenCode (memory.getD 0 0)) = cf.data.length
  data : ∀ i < cf.data.length, cf.data.getD i 0 = memory.getD (canpacketHeadSize + i) 0
  id : cf.canId = ((memory.getD 1 0).toNat + (memory.getD 2 0).toNat * 2 ^ 8 +
      (memory.getD 3 0).toNat * 2 ^ 16 + (memory.getD 4 0).toNat * 2 ^ 24) / 8 +
    (if (memory.getD 1 0).toNat / 4 % 2 = 1 then canEffFlag else 0)

theorem makes_of_packetFrame {memory : List UInt8}
    (h : packetFrame (ofStruct memory) = (infNum, cf)) : Makes memory infNum cf := by
  obtain ⟨hbus, hframe⟩ := Prod.mk.inj h
  subst hframe
  have hlength := packetFrame_length (ofStruct memory)
  refine ⟨hbus, hlength.symm, ?_, ?_⟩
  · intro i hi
    rw [List.getD_eq_getElem _ _ hi, List.getElem_take, List.getElem_ofFn]
    rfl
  · have h1 := (memory.getD 1 0).toNat_lt
    have h2 := (memory.getD 2 0).toNat_lt
    have h3 := (memory.getD 3 0).toNat_lt
    have h4 := (memory.getD 4 0).toNat_lt
    obtain ⟨word, hword⟩ : ∃ word, word = (memory.getD 1 0).toNat +
        (memory.getD 2 0).toNat * 2 ^ 8 + (memory.getD 3 0).toNat * 2 ^ 16 +
        (memory.getD 4 0).toNat * 2 ^ 24 := ⟨_, rfl⟩
    have haddr : (ofStruct memory).addr.val = word / 8 % 2 ^ 29 := by
      rw [hword]
      rfl
    have hextended : (ofStruct memory).extended = decide (word / 4 % 2 = 1) := by
      rw [hword]
      rfl
    have hbit : word / 4 % 2 = (memory.getD 1 0).toNat / 4 % 2 := by omega
    rw [hbit] at hextended
    have hsmall : word / 8 < 2 ^ 29 := by omega
    rw [← hword]
    simp only [haddr, hextended, decide_eq_true_eq, Nat.mod_eq_of_lt hsmall]

/-- The record of a standard frame is two packets without data, and the start of a third. -/
theorem split_standard (x y z d0 d1 d2 d3 : UInt8) {more : List UInt8} (h : more.length = 4) :
    (packetFraming.split ([1, 0, x, y, z, 0] ++ ([0, 0, d0, d1, d2, d3] ++ more))).1 =
      [[1, 0, x, y, z, 0], [0, 0, d0, d1, d2, d3]] := by
  have hfirst : packetFraming.IsFrame [1, 0, x, y, z, 0] := ⟨1, _, rfl, rfl⟩
  have hsecond : packetFraming.IsFrame [0, 0, d0, d1, d2, d3] := ⟨0, _, rfl, rfl⟩
  have hmore : packetFraming.Incomplete more := by
    intro a _
    rw [h]
    exact Nat.lt_of_lt_of_le (by decide) (Nat.le_add_right canpacketHeadSize _)
  rw [Framing.split_frame_append hfirst, Framing.split_frame_append hsecond,
    Framing.split_incomplete_eq hmore]

theorem exists_cons_four {bytes : List UInt8} (h : bytes.length = 8) :
    ∃ d0 d1 d2 d3 more, bytes = d0 :: d1 :: d2 :: d3 :: more ∧ more.length = 4 := by
  match bytes, h with
  | d0 :: d1 :: d2 :: d3 :: more, h => exact ⟨d0, d1, d2, d3, more, rfl, by simpa using h⟩

theorem cpuToLe32_standard (id : Nat) :
    cpuToLe32 (id * 2 ^ 21 + 1) = [1, 0, .ofNat (id % 8 * 32), .ofNat (id / 8)] := by
  have hbyte : ∀ {m n : Nat}, m % 2 ^ 8 = n % 2 ^ 8 → UInt8.ofNat m = UInt8.ofNat n := by
    intro m n heq
    apply UInt8.toNat_inj.mp
    rw [UInt8.toNat_ofNat', UInt8.toNat_ofNat', heq]
  simp only [cpuToLe32, Nat.shiftRight_eq_div_pow, List.cons.injEq, and_true]
  refine ⟨hbyte (n := 1) ?_, hbyte (n := 0) ?_, hbyte ?_, hbyte ?_⟩
  · omega
  · omega
  · omega
  · omega

theorem eq_blank (hid : cf.canId = 0) (hlen : cf.data.length = 0) : cf = ⟨0, []⟩ := by
  obtain ⟨canId, data⟩ := cf
  obtain rfl : canId = 0 := hid
  obtain rfl := List.eq_nil_of_length_eq_zero hlen
  rfl

/-- A standard frame is found exactly if it has id 0, no data and bus 0. -/
theorem sendsFrame_standard (hs : s.canWriteBuffer.ptr = 0) (hid : cf.canId < 2 ^ 11)
    (hinf : infNum < 3) (hlen : cf.data.length ≤ 8) :
    SendsFrame s infNum cf ↔ infNum = 0 ∧ cf = ⟨0, []⟩ := by
  constructor
  · intro h
    obtain ⟨frame, hframe, hmakes⟩ := h.exists_packet hs
    obtain ⟨d0, d1, d2, d3, more, hpadded, hmore⟩ := exists_cons_four (paddedData_length hlen)
    have hrecord : pandaUsbStartXmit infNum cf =
        [1, 0, .ofNat (cf.canId % 8 * 32), .ofNat (cf.canId / 8),
          .ofNat (infNum * 2 ^ 4 + cf.data.length), 0] ++ ([0, 0, d0, d1, d2, d3] ++ more) := by
      rw [startXmit_standard hid hinf hlen, record, cpuToLe32_standard, hpadded]
      rfl
    rw [hrecord, split_standard _ _ _ _ _ _ _ hmore] at hframe
    obtain ⟨hbus, hlength, -, hcanId⟩ := makes_of_packetFrame hmakes
    rcases List.mem_cons.mp hframe with rfl | hsecond
    · have hcode : Safety.dlcToLen (lenCode 1) = 0 := by decide
      have hnone : cf.data.length = 0 := hlength.symm.trans hcode
      simp only [List.getD_cons_zero, List.getD_cons_succ, UInt8.toNat_ofNat', UInt8.toNat_zero,
        hnone] at hcanId
      rw [if_neg (by decide)] at hcanId
      exact ⟨by omega, eq_blank (by omega) hnone⟩
    · obtain rfl := List.mem_singleton.mp hsecond
      have hcode : Safety.dlcToLen (lenCode 0) = 0 := by decide
      have hnone : cf.data.length = 0 := hlength.symm.trans hcode
      have hzero (i : Nat) : (paddedData cf).getD i 0 = 0 := paddedData_zero (by omega)
      rw [hpadded] at hzero
      obtain rfl : d0 = 0 := hzero 0
      obtain rfl : d1 = 0 := hzero 1
      obtain rfl : d2 = 0 := hzero 2
      simp only [List.getD_cons_zero, List.getD_cons_succ, UInt8.toNat_zero] at hbus hcanId
      rw [if_neg (by decide)] at hcanId
      exact ⟨by omega, eq_blank (by omega) hnone⟩
  · rintro ⟨rfl, rfl⟩
    have hrecord : pandaUsbStartXmit 0 ⟨0, []⟩ =
        [1, 0, 0, 0, 0, 0] ++ ([0, 0, 0, 0, 0, 0] ++ [0, 0, 0, 0]) := by decide
    rw [SendsFrame, commsCanWrite_sent hs, hrecord, split_standard _ _ _ _ _ _ _ rfl]
    decide

/-- If the head of an extended record has the id of the frame, the id repeats the byte
behind it, and the length code of the head is 2. -/
theorem repeated_id {id n : Nat} (hn : n ≤ 8) (hid : id = id / 2 ^ 8 + (32 + n) * 2 ^ 21) :
    id / 2 % 16 = 2 ∧ (n = 2 → id / 2 ^ 7 % 2 = 0) := by
  interval_cases n
  all_goals omega

/-- The bit of the record that is taken for the kind of the id. -/
theorem extended_bit (id : Nat) :
    (id * 2 ^ 3 + 5) / 2 ^ 8 % 2 ^ 8 / 4 % 2 = id / 2 ^ 7 % 2 := by
  omega

theorem not_makes_head {id : Nat} (hid : id < 2 ^ 29) (heq : cf.canId = canEffFlag + id)
    (hinf : infNum < 3) (hlen : cf.data.length ≤ 8) {memory : List UInt8}
    (hmemory : ∀ i < 5, memory.getD i 0 = (record (id * 2 ^ 3 + 5) infNum cf).getD i 0) :
    ¬ Makes memory infNum cf := by
  rintro ⟨hbus, hlength, -, hcanId⟩
  have hbyte : ∀ i < 4, (memory.getD i 0).toNat = (id * 2 ^ 3 + 5) / 2 ^ (8 * i) % 2 ^ 8 := by
    intro i hi
    rw [hmemory i (by omega), record_rir _ _ _ hi]
  have h0 : (memory.getD 0 0).toNat = (id * 2 ^ 3 + 5) / 2 ^ 0 % 2 ^ 8 := hbyte 0 (by decide)
  have h1 : (memory.getD 1 0).toNat = (id * 2 ^ 3 + 5) / 2 ^ 8 % 2 ^ 8 := hbyte 1 (by decide)
  have h2 : (memory.getD 2 0).toNat = (id * 2 ^ 3 + 5) / 2 ^ 16 % 2 ^ 8 := hbyte 2 (by decide)
  have h3 : (memory.getD 3 0).toNat = (id * 2 ^ 3 + 5) / 2 ^ 24 % 2 ^ 8 := hbyte 3 (by decide)
  have h4 : (memory.getD 4 0).toNat = (infNum * 2 ^ 4 + cf.data.length) % 2 ^ 8 := by
    rw [hmemory 4 (by decide)]
    exact UInt8.toNat_ofNat'
  have hword : (id * 2 ^ 3 + 5) / 2 ^ 8 % 2 ^ 8 + (id * 2 ^ 3 + 5) / 2 ^ 16 % 2 ^ 8 * 2 ^ 8 +
      (id * 2 ^ 3 + 5) / 2 ^ 24 % 2 ^ 8 * 2 ^ 16 = (id * 2 ^ 3 + 5) / 2 ^ 8 := by omega
  have hthird : (infNum * 2 ^ 4 + cf.data.length) % 2 ^ 8 = infNum * 2 ^ 4 + cf.data.length :=
    Nat.mod_eq_of_lt (by omega)
  rw [h0] at hbus
  rw [heq, h1, h2, h3, h4, hword, hthird, canEffFlag] at hcanId
  split at hcanId
  · rename_i hextended
    obtain rfl : infNum = 2 := by omega
    have hperiod : id = id / 2 ^ 8 + (32 + cf.data.length) * 2 ^ 21 := by omega
    obtain ⟨hcode, htwo⟩ := repeated_id hlen hperiod
    have hlenCode : lenCode (memory.getD 0 0) = 2 := by
      apply Fin.ext
      have hval : (lenCode (memory.getD 0 0)).val = (memory.getD 0 0).toNat / 2 ^ 4 :=
        Nat.shiftRight_eq_div_pow _ 4
      rw [hval, h0]
      exact Eq.trans (by omega) hcode
    rw [hlenCode] at hlength
    rw [extended_bit, htwo hlength.symm] at hextended
    cases hextended
  · omega

theorem not_makes_behind {rir pos : Nat} (hlen : cf.data.length ≤ 8) (hpos : 6 ≤ pos)
    {id : Nat} (heq : cf.canId = canEffFlag + id) {frame : List UInt8}
    (hframe : frame.length = 6 + cf.data.length) (hfits : pos + frame.length ≤ 16)
    (hget : ∀ i < frame.length, frame.getD i 0 = (record rir infNum cf).getD (pos + i) 0) :
    ¬ Makes frame infNum cf := by
  rintro ⟨-, hlength, hdata, hcanId⟩
  have hextended : (frame.getD 1 0).toNat / 4 % 2 = 1 := by
    have h1 := (frame.getD 1 0).toNat_lt
    have h2 := (frame.getD 2 0).toNat_lt
    have h3 := (frame.getD 3 0).toNat_lt
    have h4 := (frame.getD 4 0).toNat_lt
    rw [heq, canEffFlag] at hcanId
    split at hcanId
    · assumption
    · omega
  have hnonzero : frame.getD 1 0 ≠ 0 := by
    intro hzero
    rw [hzero] at hextended
    exact absurd hextended (by decide)
  have hbehind (j : Nat) : (record rir infNum cf).getD (j + 8) 0 = (paddedData cf).getD j 0 := rfl
  match pos, hpos with
  | 6, _ => exact hnonzero (hget 1 (by omega))
  | 7, _ =>
      have hcode : Safety.dlcToLen (lenCode 0) = 0 := by decide
      have hzero : frame.getD 0 0 = 0 := hget 0 (by omega)
      have hdata : (paddedData cf).getD 0 0 = 0 := by
        apply paddedData_zero
        rw [← hlength, hzero, hcode]
      have hone : frame.getD 1 0 = (paddedData cf).getD 0 0 := hget 1 (by omega)
      exact hnonzero (hone.trans hdata)
  | j + 8, _ =>
      have hone : frame.getD 1 0 = (paddedData cf).getD (j + 1) 0 := by
        rw [hget 1 (by omega), ← hbehind]
      have hlong : j + 1 < cf.data.length := by
        by_contra hshort
        exact hnonzero (hone.trans (paddedData_zero (Nat.not_lt.mp hshort)))
      obtain rfl : j = 0 := by omega
      have htwo : cf.data.length = 2 := by omega
      have hcode : Safety.dlcToLen (lenCode 0) = 0 := by decide
      have hsixth : frame.getD canpacketHeadSize 0 = 0 := by
        have hpad : (paddedData cf).getD 6 0 = 0 := paddedData_zero (by omega)
        exact (hget 6 (by omega)).trans hpad
      have hfirst : cf.data.getD 0 0 = 0 := (hdata 0 (by omega)).trans hsixth
      have hhead : frame.getD 0 0 = 0 := by
        have hpad : (paddedData cf).getD 0 0 = cf.data.getD 0 0 :=
          List.getD_append _ _ _ _ (by omega)
        exact (hget 0 (by omega)).trans (hpad.trans hfirst)
      rw [hhead, hcode] at hlength
      omega

/-- An extended frame is never found. -/
theorem not_sendsFrame_extended (hs : s.canWriteBuffer.ptr = 0) {id : Nat} (hid : id < 2 ^ 29)
    (heq : cf.canId = canEffFlag + id) (hinf : infNum < 3) (hlen : cf.data.length ≤ 8) :
    ¬ SendsFrame s infNum cf := by
  intro h
  obtain ⟨frame, hframe, hpacket⟩ := h.exists_packet hs
  have hmakes := makes_of_packetFrame hpacket
  rw [startXmit_extended hid heq hinf hlen] at hframe
  obtain ⟨first, rest, hcons, hneed⟩ := packetFraming.split_frames _ frame hframe
  have hlength : frame.length = 6 + cf.data.length := by
    rw [hneed, ← hmakes.length, hcons]
    rfl
  obtain ⟨before, after, hbefore, hrecord⟩ := packetFraming.exists_split_append hframe
  have htotal := congrArg List.length hrecord
  rw [record_length _ _ hlen, List.length_append, List.length_append] at htotal
  have hget : ∀ i < frame.length, frame.getD i 0 =
      (record (id * 2 ^ 3 + 5) infNum cf).getD (before.flatten.length + i) 0 := by
    intro i hi
    rw [hrecord, List.getD_append_right _ _ _ _ (Nat.le_add_right _ i), Nat.add_sub_cancel_left,
      List.getD_append _ _ _ _ hi]
  cases before with
  | nil =>
      refine not_makes_head hid heq hinf hlen ?_ hmakes
      intro i hi
      rw [hget i (by omega), List.flatten_nil, List.length_nil, Nat.zero_add]
  | cons earlier before =>
      obtain ⟨head, tail, -, hsize⟩ := hbefore earlier List.mem_cons_self
      have hsix : 6 ≤ packetFraming.need head := Nat.le_add_right canpacketHeadSize _
      have hpos : 6 ≤ (earlier :: before).flatten.length := by
        rw [List.flatten_cons, List.length_append]
        omega
      exact not_makes_behind hlen hpos heq hlength (by omega) hget hmakes

/-- With an empty buffer of the firmware, and for any classic frame and interface of the
driver, the firmware finds exactly the frame in the record if and only if it is the frame
with id 0 and no data on bus 0. And in every run of reads after which nothing is pending,
the driver decodes exactly the packets if and only if there are none. -/
theorem socketCan_agrees_iff (k : KernelCan) :
    (∀ (s : CanComms) (infNum : Nat) (cf : SocketFrame), s.canWriteBuffer.ptr = 0 → infNum < 3 →
      cf.Classic → (SendsFrame s infNum cf ↔ infNum = 0 ∧ cf = ⟨0, []⟩)) ∧
    ∀ (s : CanComms) (events : List RxEvent), s.canReadBuffer.ptr = 0 →
      (run rxStep s events).pending = [] →
        (ReceivesFrames k s events ↔ packetsQueued s events = []) := by
  constructor
  · intro s infNum cf hs hinf hclassic
    rcases hclassic.id with hstandard | ⟨id, hid, heq⟩
    · exact sendsFrame_standard hs hstandard hinf hclassic.length
    · refine iff_of_false (not_sendsFrame_extended hs hid heq hinf hclassic.length) ?_
      rintro ⟨-, rfl⟩
      have hzero : 0 = canEffFlag + id := heq
      rw [canEffFlag] at hzero
      omega
  · intro s events hs hall
    exact receivesFrames_iff k hs hall

def kernelCan : KernelCan where
  canCcDlc2len dlc := min dlc 8
  le dlc := Nat.min_le_right dlc 8

theorem socketCan_agrees_iff_blank :
    SendsFrame powerOnComms 0 ⟨0, []⟩ ∧ ReceivesFrames kernelCan powerOnComms [.read 64] := by
  obtain ⟨hsends, hreceives⟩ := socketCan_agrees_iff kernelCan
  have hclassic : SocketFrame.Classic ⟨0, []⟩ := ⟨.inl (by decide), Nat.zero_le 8⟩
  exact ⟨(hsends powerOnComms 0 ⟨0, []⟩ rfl (by decide) hclassic).mpr ⟨rfl, rfl⟩,
    (hreceives powerOnComms [.read 64] rfl rfl).mpr rfl⟩

def queuedPacket : CANPacket where
  bus := 0
  dataLenCode := 0
  addr := 0x123
  checksum := 0x11
  data := fun _ => 0

/-- Neither does the firmware find a frame with two bytes in its record, nor the driver the
packet in a transfer that holds it. -/
theorem not_socketCan_agrees :
    ¬ SendsFrame powerOnComms 0 ⟨0x123, [1, 2]⟩ ∧
      (run rxStep powerOnComms [.push queuedPacket, .read 64]).pending = [] ∧
      ¬ ReceivesFrames kernelCan powerOnComms [.push queuedPacket, .read 64] := by
  have hpending : (run rxStep powerOnComms [.push queuedPacket, .read 64]).pending = [] := rfl
  refine ⟨?_, hpending, ?_⟩
  · intro h
    obtain ⟨-, hblank⟩ := (sendsFrame_standard rfl (by decide) (by decide) (by decide)).mp h
    cases hblank
  · intro h
    have hnone := (receivesFrames_iff kernelCan rfl hpending).mp h
    exact List.cons_ne_nil queuedPacket [] hnone

end Panda.Comms
