import Mathlib.Data.List.GetD
import Panda.Library.Framing
import Panda.Safety.Packet

/-!
The memory of a `CANPacket_t` on the CAN-FD build, which is the wire format of
`can_comms.h`: six head bytes, and 64 data bytes of which a packet sends as many
as its length code says.
-/

namespace Panda.Comms

open Library Safety

def canpacketHeadSize : Nat := 6

/-- The length code in the first byte of a packet. -/
def lenCode (first : UInt8) : Fin 16 := ⟨first.toNat >>> 4, by
  have hlt := first.toNat_lt
  rw [Nat.shiftRight_eq_div_pow]
  omega⟩

/-- `CANPACKET_HEAD_SIZE + dlc_to_len[..]` for the first byte of a packet. -/
def packetFraming : Framing UInt8 where
  need first := canpacketHeadSize + dlcToLen (lenCode first)
  need_pos _ := Nat.lt_of_lt_of_le (by decide : 0 < canpacketHeadSize) (Nat.le_add_right _ _)

/-- The bit fields `rejected`, `returned`, `extended` and `addr`, 32 bits. -/
def flagsWord (packet : CANPacket) : Nat :=
  packet.addr.val * 8 + packet.extended.toNat * 4 + packet.returned.toNat * 2 +
    packet.rejected.toNat

def headBytes (packet : CANPacket) : List UInt8 :=
  [.ofNat (packet.dataLenCode.val * 16 + packet.bus.val * 2 + packet.reserved.toNat),
   .ofNat (flagsWord packet), .ofNat (flagsWord packet / 2 ^ 8),
   .ofNat (flagsWord packet / 2 ^ 16), .ofNat (flagsWord packet / 2 ^ 24),
   packet.checksum]

/-- The bytes at `(uint8_t*)&packet`. -/
def structBytes (packet : CANPacket) : List UInt8 := headBytes packet ++ List.ofFn packet.data

def structSize : Nat := 70

/-- The packet that the bytes at its address make. -/
def ofStruct (memory : List UInt8) : CANPacket :=
  let byte (i : Nat) : Nat := (memory.getD i 0).toNat
  let word := byte 1 + byte 2 * 2 ^ 8 + byte 3 * 2 ^ 16 + byte 4 * 2 ^ 24
  { reserved := byte 0 % 2 = 1
    bus := Fin.ofNat 8 (byte 0 / 2)
    dataLenCode := lenCode (memory.getD 0 0)
    rejected := word % 2 = 1
    returned := word / 2 % 2 = 1
    extended := word / 4 % 2 = 1
    addr := Fin.ofNat (2 ^ 29) (word / 8)
    checksum := memory.getD 5 0
    data := fun i => memory.getD (canpacketHeadSize + i) 0 }

/-- The bytes of a packet that the transfers carry. -/
def wireBytes (packet : CANPacket) : List UInt8 :=
  (structBytes packet).take (canpacketHeadSize + getLen packet)

def calculateChecksum (dat : List UInt8) : UInt8 := dat.foldl (fun checksum b => checksum ^^^ b) 0

def canCheckChecksum (packet : CANPacket) : Bool := calculateChecksum (wireBytes packet) == 0

/-- The packet depends on the bytes of its memory. -/
theorem ofStruct_congr {memory other : List UInt8}
    (h : ∀ i < structSize, memory.getD i 0 = other.getD i 0) :
    ofStruct memory = ofStruct other := by
  have hdata : (fun i : Fin 64 => memory.getD (canpacketHeadSize + i) 0) =
      fun i : Fin 64 => other.getD (canpacketHeadSize + i) 0 := by
    funext i
    apply h
    have hlt := i.isLt
    simp only [canpacketHeadSize, structSize]
    omega
  have hhead : ∀ i < canpacketHeadSize, memory.getD i 0 = other.getD i 0 := by
    intro i hi
    exact h i (Nat.lt_trans hi (by decide))
  unfold ofStruct
  simp only [hdata, hhead 0 (by decide), hhead 1 (by decide), hhead 2 (by decide),
    hhead 3 (by decide), hhead 4 (by decide), hhead 5 (by decide)]

/-- Bits below the lowest set bit of the other number add up. -/
theorem or_eq_add {a b i : Nat} (ha : 2 ^ i ∣ a) (hb : b < 2 ^ i) : a ||| b = a + b := by
  obtain ⟨k, rfl⟩ := ha
  rw [Nat.mul_comm, ← Nat.shiftLeft_eq, Nat.shiftLeft_add_eq_or_of_lt hb]

/-! ### Sizes -/

theorem dlcToLen_le (code : Fin 16) : dlcToLen code ≤ 64 := by
  revert code
  decide

theorem need_le (first : UInt8) : packetFraming.need first ≤ structSize := by
  have hle := dlcToLen_le (lenCode first)
  simp only [packetFraming, canpacketHeadSize, structSize]
  omega

@[simp] theorem headBytes_length (packet : CANPacket) :
    (headBytes packet).length = canpacketHeadSize := rfl

@[simp] theorem structBytes_length (packet : CANPacket) :
    (structBytes packet).length = structSize := by
  simp [structBytes, canpacketHeadSize, structSize]

@[simp] theorem wireBytes_length (packet : CANPacket) :
    (wireBytes packet).length = canpacketHeadSize + getLen packet := by
  have hle := dlcToLen_le packet.dataLenCode
  simp only [wireBytes, List.length_take, structBytes_length, structSize, canpacketHeadSize,
    getLen]
  omega

theorem wireBytes_eq (packet : CANPacket) :
    wireBytes packet = headBytes packet ++ (List.ofFn packet.data).take (getLen packet) := by
  unfold wireBytes structBytes
  rw [List.take_append, headBytes_length, Nat.add_sub_cancel_left]
  rw [List.take_of_length_le (by simp)]

/-- The first byte of a packet holds its length code. -/
theorem lenCode_headBytes (packet : CANPacket) :
    lenCode (.ofNat (packet.dataLenCode.val * 16 + packet.bus.val * 2 + packet.reserved.toNat)) =
      packet.dataLenCode := by
  have hbus := packet.bus.isLt
  have hcode := packet.dataLenCode.isLt
  have hreserved := Bool.toNat_le packet.reserved
  apply Fin.ext
  simp only [lenCode, UInt8.toNat_ofNat', Nat.shiftRight_eq_div_pow]
  omega

theorem wireBytes_isFrame (packet : CANPacket) : packetFraming.IsFrame (wireBytes packet) := by
  rw [wireBytes_eq]
  refine ⟨_, _, rfl, ?_⟩
  rw [← wireBytes_eq, wireBytes_length]
  simp only [packetFraming, lenCode_headBytes, getLen]

/-! ### Bit fields -/

theorem flagsWord_lt (packet : CANPacket) : flagsWord packet < 2 ^ 32 := by
  have haddr := packet.addr.isLt
  have hextended := Bool.toNat_le packet.extended
  have hreturned := Bool.toNat_le packet.returned
  have hrejected := Bool.toNat_le packet.rejected
  unfold flagsWord
  omega

theorem flagsWord_fields (packet : CANPacket) :
    flagsWord packet / 2 ^ 3 = packet.addr.val ∧
      flagsWord packet / 2 ^ 2 % 2 = packet.extended.toNat ∧
      flagsWord packet % 2 ^ 8 / 2 ^ 1 % 2 = packet.returned.toNat ∧
      flagsWord packet % 2 ^ 8 % 2 = packet.rejected.toNat := by
  have hextended := Bool.toNat_le packet.extended
  have hreturned := Bool.toNat_le packet.returned
  have hrejected := Bool.toNat_le packet.rejected
  unfold flagsWord
  refine ⟨?_, ?_, ?_, ?_⟩
  · omega
  · omega
  · omega
  · omega

/-! ### The packet of a frame -/

theorem toNat_odd (n : Nat) : (decide (n % 2 = 1)).toNat = n % 2 := by
  rcases Nat.mod_two_eq_zero_or_one n with h | h
  · rw [h]
    rfl
  · rw [h]
    rfl

theorem ofNat_eq_of_mod {b : UInt8} {n : Nat} (h : n % 2 ^ 8 = b.toNat) : UInt8.ofNat n = b := by
  apply UInt8.toNat_inj.mp
  rw [UInt8.toNat_ofNat']
  exact h

/-- The flags word of the packet that a memory makes. -/
theorem flagsWord_ofStruct (b0 b1 b2 b3 b4 b5 : UInt8) (rest : List UInt8) :
    flagsWord (ofStruct (b0 :: b1 :: b2 :: b3 :: b4 :: b5 :: rest)) =
      b1.toNat + b2.toNat * 2 ^ 8 + b3.toNat * 2 ^ 16 + b4.toNat * 2 ^ 24 := by
  have h1 := b1.toNat_lt
  have h2 := b2.toNat_lt
  have h3 := b3.toNat_lt
  have h4 := b4.toNat_lt
  simp only [flagsWord, ofStruct, List.getD_cons_zero, List.getD_cons_succ, toNat_odd, Fin.ofNat]
  omega

/-- The bytes of the packet that a memory makes are those of the memory. -/
theorem headBytes_ofStruct (b0 b1 b2 b3 b4 b5 : UInt8) (rest : List UInt8) :
    headBytes (ofStruct (b0 :: b1 :: b2 :: b3 :: b4 :: b5 :: rest)) = [b0, b1, b2, b3, b4, b5] := by
  have h0 := b0.toNat_lt
  have h1 := b1.toNat_lt
  have h2 := b2.toNat_lt
  have h3 := b3.toNat_lt
  have h4 := b4.toNat_lt
  unfold headBytes
  rw [flagsWord_ofStruct]
  simp only [ofStruct, List.getD_cons_zero, List.getD_cons_succ, toNat_odd, Fin.ofNat, lenCode,
    Nat.shiftRight_eq_div_pow]
  have hfirst : UInt8.ofNat (b0.toNat / 2 ^ 4 * 16 + b0.toNat / 2 % 8 * 2 + b0.toNat % 2) = b0 :=
    ofNat_eq_of_mod (by omega)
  rw [hfirst, @ofNat_eq_of_mod b1 _ (by omega), @ofNat_eq_of_mod b2 _ (by omega),
    @ofNat_eq_of_mod b3 _ (by omega), @ofNat_eq_of_mod b4 _ (by omega)]

theorem getD_range (bytes : List UInt8) {n : Nat} (h : bytes.length ≤ n) :
    (List.ofFn fun i : Fin n => bytes.getD i 0).take bytes.length = bytes := by
  apply List.ext_getElem
  · simp
    omega
  · intro i hi hi'
    rw [List.getElem_take, List.getElem_ofFn]
    exact List.getD_eq_getElem _ _ hi'

theorem exists_head {frame : List UInt8} (h : canpacketHeadSize ≤ frame.length) :
    ∃ b0 b1 b2 b3 b4 b5 rest, frame = b0 :: b1 :: b2 :: b3 :: b4 :: b5 :: rest := by
  match frame with
  | b0 :: b1 :: b2 :: b3 :: b4 :: b5 :: rest => exact ⟨b0, b1, b2, b3, b4, b5, rest, rfl⟩
  | [] | [_] | [_, _] | [_, _, _] | [_, _, _, _] | [_, _, _, _, _] =>
      simp [canpacketHeadSize] at h

/-- A frame is what its packet sends. -/
theorem wireBytes_ofStruct {frame : List UInt8} (h : packetFraming.IsFrame frame) :
    wireBytes (ofStruct frame) = frame := by
  obtain ⟨first, rest, hcons, hlength⟩ := h
  have hneed : packetFraming.need first = canpacketHeadSize + dlcToLen (lenCode first) := rfl
  obtain ⟨b0, b1, b2, b3, b4, b5, data, hframe⟩ := @exists_head frame (by omega)
  have hle := dlcToLen_le (lenCode first)
  have hfirst : first = b0 := by
    rw [hcons, List.cons.injEq] at hframe
    exact hframe.1
  have hdata : data.length = dlcToLen (lenCode b0) := by
    rw [hneed, hframe, hfirst] at hlength
    simp only [List.length_cons, canpacketHeadSize] at hlength
    omega
  have hlen : getLen (ofStruct frame) = data.length := by
    rw [hdata, hframe]
    rfl
  rw [wireBytes_eq, hlen, hframe, headBytes_ofStruct]
  rw [hfirst, ← hdata] at hle
  have htail : (ofStruct (b0 :: b1 :: b2 :: b3 :: b4 :: b5 :: data)).data =
      fun i : Fin 64 => data.getD i 0 := by
    funext i
    simp only [ofStruct, canpacketHeadSize]
    rw [Nat.add_comm]
    rfl
  rw [htail, getD_range data hle]
  rfl

end Panda.Comms
