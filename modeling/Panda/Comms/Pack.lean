import Panda.Comms.Transmit
import Panda.Host.CanBuffer

/-!
The transmit path end to end: the messages that the host packs are the packets
that the device hands to `can_send`.
-/

namespace Panda.Comms

open Library Safety Host

/-- A message that `pack_can_buffer` takes. -/
structure Packable (msg : CanMessage) : Prop where
  address : msg.address < 2 ^ 29
  bus : msg.bus < 8
  length : msg.dat.length ∈ Host.dlcToLen

/-- The packet is the message. -/
structure Carries (msg : CanMessage) (packet : CANPacket) : Prop where
  address : packet.addr.val = msg.address
  extended : packet.extended = decide (msg.address ≥ 0x800)
  bus : packet.bus.val = msg.bus
  dat : (List.ofFn packet.data).take (getLen packet) = msg.dat
  checksum : canCheckChecksum packet = true
  fresh : packet.returned = false ∧ packet.rejected = false

theorem lenToDlc_some {length : Nat} (h : length ∈ Host.dlcToLen) :
    ∃ code : Fin 16, lenToDlc length = some code.val ∧ Safety.dlcToLen code = length := by
  revert length
  decide

/-! ### Checksums -/

theorem foldl_xor (bytes : List UInt8) (start : UInt8) :
    bytes.foldl (fun res b => res ^^^ b) start = start ^^^ Host.calculateChecksum bytes := by
  unfold Host.calculateChecksum
  induction bytes generalizing start with
  | nil => simp
  | cons b bytes ih =>
      rw [List.foldl_cons, List.foldl_cons, ih, ih (0 ^^^ b), UInt8.zero_xor, UInt8.xor_assoc]

theorem calculateChecksum_append (first second : List UInt8) :
    Host.calculateChecksum (first ++ second) =
      Host.calculateChecksum first ^^^ Host.calculateChecksum second := by
  unfold Host.calculateChecksum
  rw [List.foldl_append, foldl_xor]
  rfl

/-- The checksum byte makes the checksum of the whole packet zero. -/
theorem calculateChecksum_packed (header dat : List UInt8) :
    Host.calculateChecksum
      (header ++ [Host.calculateChecksum (header ++ dat)] ++ dat) = 0 := by
  have hbyte : ∀ b : UInt8, Host.calculateChecksum [b] = b := by
    intro b
    simp [Host.calculateChecksum]
  rw [calculateChecksum_append, calculateChecksum_append, hbyte, calculateChecksum_append]
  generalize Host.calculateChecksum header = x
  generalize Host.calculateChecksum dat = y
  rw [← UInt8.xor_assoc, UInt8.xor_self, UInt8.zero_xor, UInt8.xor_self]

/-! ### One message -/

/-- The first byte of a packed message. -/
theorem packFirst_eq {code bus : Nat} (hbus : bus < 8) :
    code <<< 4 ||| bus <<< 1 = code * 16 + bus * 2 := by
  simp only [Nat.shiftLeft_eq]
  exact @or_eq_add _ _ 4 (Dvd.intro_left code rfl) (by omega)

theorem packWord_eq {address extended : Nat} (hextended : extended ≤ 1) :
    address <<< 3 ||| extended <<< 2 = address * 8 + extended * 4 := by
  simp only [Nat.shiftLeft_eq]
  exact @or_eq_add _ _ 3 (Dvd.intro_left address rfl) (by omega)

theorem toNat_lowByte (n : Nat) : (UInt8.ofNat (n &&& 0xFF)).toNat = n % 2 ^ 8 := by
  have hand : n &&& 0xFF = n % 2 ^ 8 := Nat.and_two_pow_sub_one_eq_mod n 8
  rw [hand, UInt8.toNat_ofNat', Nat.mod_mod]

/-- The packet of bytes whose bit fields are those of the message. -/
theorem carries_of_fields {msg : CanMessage} {b0 b1 b2 b3 b4 b5 : UInt8} {code : Fin 16}
    {extended : Nat} (h : Packable msg) (hlength : Safety.dlcToLen code = msg.dat.length)
    (hfirst : b0.toNat = code.val * 16 + msg.bus * 2)
    (hword : b1.toNat + b2.toNat * 2 ^ 8 + b3.toNat * 2 ^ 16 + b4.toNat * 2 ^ 24 =
      msg.address * 8 + extended * 4)
    (hextended : extended = (decide (msg.address ≥ 0x800)).toNat)
    (hchecksum : Host.calculateChecksum (b0 :: b1 :: b2 :: b3 :: b4 :: b5 :: msg.dat) = 0) :
    packetFraming.IsFrame (b0 :: b1 :: b2 :: b3 :: b4 :: b5 :: msg.dat) ∧
      Carries msg (ofStruct (b0 :: b1 :: b2 :: b3 :: b4 :: b5 :: msg.dat)) := by
  have hbus := h.bus
  have hcode : lenCode b0 = code := by
    apply Fin.ext
    simp only [lenCode, Nat.shiftRight_eq_div_pow]
    omega
  have hframe : packetFraming.IsFrame (b0 :: b1 :: b2 :: b3 :: b4 :: b5 :: msg.dat) := by
    refine ⟨_, _, rfl, ?_⟩
    simp only [packetFraming, hcode, hlength, List.length_cons, canpacketHeadSize]
    omega
  have hwire := wireBytes_ofStruct hframe
  have hflags := flagsWord_ofStruct b0 b1 b2 b3 b4 b5 msg.dat
  rw [hword] at hflags
  generalize hpacket : ofStruct (b0 :: b1 :: b2 :: b3 :: b4 :: b5 :: msg.dat) = packet
    at hwire hflags
  obtain ⟨haddr, hext, hreturned, hrejected⟩ := flagsWord_fields packet
  rw [hflags] at haddr hext hreturned hrejected
  have hle := Bool.toNat_le (decide (msg.address ≥ 0x800))
  refine ⟨hframe, ?_, ?_, ?_, ?_, ?_, ?_, ?_⟩
  · omega
  · rw [hextended] at hext
    cases hlong : decide (msg.address ≥ 0x800) with
    | false =>
        rw [hlong] at hext
        apply Bool.toNat_eq_zero.mp
        rw [← hext]
        simp only [Bool.toNat_false]
        omega
    | true =>
        rw [hlong] at hext
        apply Bool.toNat_eq_one.mp
        rw [← hext]
        simp only [Bool.toNat_true]
        omega
  · rw [← hpacket]
    simp only [ofStruct, List.getD_cons_zero, Fin.ofNat]
    omega
  · rw [wireBytes_eq] at hwire
    have hdrop := congrArg (List.drop canpacketHeadSize) hwire
    rw [← headBytes_length packet, List.drop_left] at hdrop
    exact hdrop
  · unfold canCheckChecksum
    rw [hwire]
    exact beq_iff_eq.mpr hchecksum
  · apply Bool.toNat_eq_zero.mp
    omega
  · apply Bool.toNat_eq_zero.mp
    omega

/-- The bytes of a packable message are a frame whose packet is the message. -/
theorem packMessage_carries {msg : CanMessage} (h : Packable msg) :
    ∃ bytes, packMessage msg = some bytes ∧ packetFraming.IsFrame bytes ∧
      Carries msg (ofStruct bytes) := by
  obtain ⟨code, hcode, hlength⟩ := lenToDlc_some h.length
  have hbus := h.bus
  have haddress := h.address
  have hlt := code.isLt
  have hextended :
      (if msg.address ≥ 0x800 then 1 else 0) = (decide (msg.address ≥ 0x800)).toNat := by
    by_cases hlong : msg.address ≥ 0x800
    · rw [if_pos hlong, decide_eq_true hlong]
      rfl
    · rw [if_neg hlong, decide_eq_false hlong]
      rfl
  have hle := Bool.toNat_le (decide (msg.address ≥ 0x800))
  unfold packMessage
  rw [hcode]
  simp only
  rw [hextended, packFirst_eq hbus, packWord_eq hle, if_pos (by omega)]
  generalize hword : msg.address * 8 + (decide (msg.address ≥ 0x800)).toNat * 4 = word
  refine ⟨_, rfl, ?_⟩
  apply carries_of_fields h hlength
  · rw [UInt8.toNat_ofNat']
    omega
  · rw [hword]
    simp only [toNat_lowByte, Nat.shiftRight_eq_div_pow]
    omega
  · rfl
  · exact calculateChecksum_packed [_, _, _, _, _] msg.dat

/-! ### Messages -/

/-- The chunks hold the packed messages one after the other. -/
theorem packLoop_flatten {arr : List CanMessage} (h : ∀ msg ∈ arr, Packable msg)
    (snds : List (List UInt8)) (last : List UInt8) :
    ∃ chunks frames : List (List UInt8), packLoop arr snds last = some chunks ∧
      chunks.flatten = snds.flatten ++ last ++ frames.flatten ∧
      (∀ frame ∈ frames, packetFraming.IsFrame frame) ∧
      List.Forall₂ Carries arr (frames.map ofStruct) := by
  induction arr generalizing snds last with
  | nil => exact ⟨_, [], rfl, by simp, by simp, .nil⟩
  | cons msg arr ih =>
      obtain ⟨hmsg, harr⟩ := List.forall_mem_cons.mp h
      obtain ⟨bytes, hbytes, hframe, hcarries⟩ := packMessage_carries hmsg
      rw [packLoop, hbytes]
      simp only
      by_cases hlong : (last ++ bytes).length > 256
      · obtain ⟨chunks, frames, hchunks, hflatten, hframes, hlater⟩ :=
          ih harr (snds ++ [last ++ bytes]) []
        rw [if_pos hlong]
        refine ⟨chunks, bytes :: frames, hchunks, ?_, ?_, .cons hcarries hlater⟩
        · simp [hflatten]
        · exact List.forall_mem_cons.mpr ⟨hframe, hframes⟩
      · obtain ⟨chunks, frames, hchunks, hflatten, hframes, hlater⟩ := ih harr snds (last ++ bytes)
        rw [if_neg hlong]
        refine ⟨chunks, bytes :: frames, hchunks, ?_, ?_, .cons hcarries hlater⟩
        · simp [hflatten]
        · exact List.forall_mem_cons.mpr ⟨hframe, hframes⟩

/-- The packets of a whole stream, and its incomplete last packet. -/
def parseStream (stream : List UInt8) : List CANPacket × List UInt8 :=
  ((packetFraming.split stream).1.map ofStruct, (packetFraming.split stream).2)

/-- Chunks of any sizes hand to `can_send` the packets of the whole stream and
keep an incomplete last one. For the packed messages these are the messages. -/
theorem transmit_end_to_end {s : CanComms} (hs : s.canWriteBuffer.ptr = 0)
    (chunks : List (List UInt8)) :
    packetsSent s chunks = (parseStream chunks.flatten).1 ∧
      (run txStep s chunks).canWriteBuffer.carried = (parseStream chunks.flatten).2 ∧
      ∀ arr, (∀ msg ∈ arr, Packable msg) →
        ∃ snds, packCanBuffer arr = some snds ∧
          (chunks.flatten = snds.flatten → List.Forall₂ Carries arr (packetsSent s chunks)) := by
  have hwrites := packetsSent_writes (Assembling.of_zero hs) chunks
  rw [AsmBuffer.carried_of_zero hs, List.nil_append] at hwrites
  refine ⟨hwrites.sent, hwrites.carried, ?_⟩
  intro arr harr
  obtain ⟨snds, frames, hsnds, hflatten, hframes, hcarries⟩ := packLoop_flatten harr [] []
  refine ⟨snds, hsnds, ?_⟩
  intro hstream
  have hsplit := Framing.split_flatten_append hframes []
  rw [List.append_nil, Framing.split] at hsplit
  rw [hwrites.sent, hstream, hflatten]
  simp only [List.flatten_nil, List.nil_append, hsplit, List.append_nil]
  exact hcarries

/-- The bytes of one packed message. -/
def packedBytes (msg : CanMessage) : List UInt8 := ((packCanBuffer [msg]).getD []).flatten

/-- A message that arrives in two pieces. -/
theorem transmit_end_to_end_pieces :
    List.Forall₂ Carries [⟨0x18DB33F1, [2, 1, 0], 1⟩]
      (packetsSent powerOnComms
        [(packedBytes ⟨0x18DB33F1, [2, 1, 0], 1⟩).take 4,
          (packedBytes ⟨0x18DB33F1, [2, 1, 0], 1⟩).drop 4]) := by
  have hpackable : ∀ msg ∈ [CanMessage.mk 0x18DB33F1 [2, 1, 0] 1], Packable msg := by
    intro msg hmsg
    rw [List.mem_singleton.mp hmsg]
    exact ⟨by decide, by decide, by decide⟩
  have hempty : powerOnComms.canWriteBuffer.ptr = 0 := rfl
  obtain ⟨snds, hsnds, hcarries⟩ := (transmit_end_to_end hempty _).2.2 _ hpackable
  apply hcarries
  simp [packedBytes, hsnds]

end Panda.Comms
