import Panda.Comms.Fdcan
import Panda.Comms.Unpack

/-!
Frames on the wire: the element that `process_can` writes to the message RAM of one
controller, and what `can_rx` reads of the frame at another.
-/

namespace Panda.Comms

open Library Safety Host

/-- What the wire carries of an element of the message RAM. -/
structure WireFrame where
  extended : Bool
  id : Nat
  dlc : Fin 16
  fdf : Bool
  data : List UInt8
deriving DecidableEq

namespace CanfdFifo

def id (fifo : CanfdFifo) : Nat :=
  if fifo.extended then (fifo.header0 &&& 0x1FFFFFFF).toNat
  else (fifo.header0 >>> 18 &&& 0x7FF).toNat

def dlc (fifo : CanfdFifo) : Fin 16 := Fin.ofNat 16 (fifo.header1 >>> 16).toNat

def bytes (fifo : CanfdFifo) (n : Nat) : List UInt8 :=
  (List.range n).map fun i => wordByte (fifo.dataWord.getD (i / 4) 0) (i % 4)

/-- A classic frame has at most 8 bytes, whatever its length code says. -/
def wire (fifo : CanfdFifo) : WireFrame where
  extended := fifo.extended
  id := fifo.id
  dlc := fifo.dlc
  fdf := fifo.fdf
  data := fifo.bytes (if fifo.fdf then dlcToLen fifo.dlc else min 8 (dlcToLen fifo.dlc))

end CanfdFifo

/-- All bytes that the length code stands for are on the wire. -/
def WireFrame.Whole (frame : WireFrame) : Prop := frame.data.length = dlcToLen frame.dlc

instance (frame : WireFrame) : Decidable frame.Whole :=
  inferInstanceAs (Decidable (frame.data.length = dlcToLen frame.dlc))

/-- The message that a frame is on a bus. -/
def WireFrame.message (bus : Fin 3) (frame : WireFrame) : CanMessage := ⟨frame.id, frame.data, bus⟩

/-! ### A packet as a frame -/

theorem byteArrayToWord_toNat (packet : CANPacket) (i : Nat) :
    (byteArrayToWord packet i).toNat =
      (getByte8 packet (i + 3)).toNat * 2 ^ 24 + (getByte8 packet (i + 2)).toNat * 2 ^ 16 +
        (getByte8 packet (i + 1)).toNat * 2 ^ 8 + (getByte8 packet i).toNat := by
  have hbytes : ∀ b0 b1 b2 b3 : UInt8,
      (b0.toUInt32 ||| b1.toUInt32 <<< 8 ||| b2.toUInt32 <<< 16 ||| b3.toUInt32 <<< 24).toNat =
        b3.toNat * 2 ^ 24 + b2.toNat * 2 ^ 16 + b1.toNat * 2 ^ 8 + b0.toNat := by
    intro b0 b1 b2 b3
    have h0 := b0.toNat_lt
    have h1 := b1.toNat_lt
    have h2 := b2.toNat_lt
    have h3 := b3.toNat_lt
    have hlow : b0.toNat ||| b1.toNat * 2 ^ 8 = b1.toNat * 2 ^ 8 + b0.toNat := by
      rw [Nat.or_comm]
      exact or_eq_add (Dvd.intro_left b1.toNat rfl) h0
    have hmiddle : b1.toNat * 2 ^ 8 + b0.toNat ||| b2.toNat * 2 ^ 16 =
        b2.toNat * 2 ^ 16 + (b1.toNat * 2 ^ 8 + b0.toNat) := by
      rw [Nat.or_comm]
      exact or_eq_add (Dvd.intro_left b2.toNat rfl) (by omega)
    have hhigh : b2.toNat * 2 ^ 16 + (b1.toNat * 2 ^ 8 + b0.toNat) ||| b3.toNat * 2 ^ 24 =
        b3.toNat * 2 ^ 24 + (b2.toNat * 2 ^ 16 + (b1.toNat * 2 ^ 8 + b0.toNat)) := by
      rw [Nat.or_comm]
      exact or_eq_add (Dvd.intro_left b3.toNat rfl) (by omega)
    simp only [UInt32.toNat_or, UInt32.toNat_shiftLeft, UInt8.toNat_toUInt32, Nat.shiftLeft_eq,
      UInt32.reduceToNat, Nat.reduceMod]
    rw [Nat.mod_eq_of_lt (a := b1.toNat * 2 ^ 8) (by omega),
      Nat.mod_eq_of_lt (a := b2.toNat * 2 ^ 16) (by omega),
      Nat.mod_eq_of_lt (a := b3.toNat * 2 ^ 24) (by omega), hlow, hmiddle, hhigh]
    omega
  exact hbytes _ _ _ _

/-- `WORD_TO_BYTE_ARRAY` takes back what `BYTE_ARRAY_TO_WORD` put in a word. -/
theorem wordByte_byteArrayToWord (packet : CANPacket) (i : Nat) {k : Nat} (hk : k < 4) :
    wordByte (byteArrayToWord packet i) k = getByte8 packet (i + k) := by
  have hword := byteArrayToWord_toNat packet i
  have h0 := (getByte8 packet i).toNat_lt
  have h1 := (getByte8 packet (i + 1)).toNat_lt
  have h2 := (getByte8 packet (i + 2)).toNat_lt
  have h3 := (getByte8 packet (i + 3)).toNat_lt
  have hshift : (wordByte (byteArrayToWord packet i) k).toNat =
      (byteArrayToWord packet i).toNat / 2 ^ (8 * k) % 2 ^ 8 := by
    have hamount : (8 * k).toUInt32.toNat % 32 = 8 * k := by
      rw [Nat.toUInt32, UInt32.toNat_ofNat']
      omega
    rw [wordByte, UInt32.toNat_toUInt8, UInt32.toNat_shiftRight, hamount,
      Nat.shiftRight_eq_div_pow]
  apply UInt8.toNat_inj.mp
  rw [hshift, hword]
  interval_cases k
  · simp only [Nat.add_zero]
    omega
  · omega
  · omega
  · omega

theorem range_getByte8 (packet : CANPacket) {n : Nat} (h : n ≤ 64) :
    (List.range n).map (getByte8 packet) = (List.ofFn packet.data).take n := by
  apply List.ext_getElem
  · simp [h]
  · intro i hi hi'
    have hlt : i < 64 := by
      rw [List.length_map, List.length_range] at hi
      omega
    rw [List.getElem_map, List.getElem_range, List.getElem_take, List.getElem_ofFn, getByte8,
      dif_pos hlt]

theorem txElement_bytes (canfdEnabled brsEnabled : Bool) (packet : CANPacket) :
    (txElement canfdEnabled brsEnabled packet).bytes (getLen packet) =
      (List.ofFn packet.data).take (getLen packet) := by
  have hle : getLen packet ≤ 64 := dlcToLen_le packet.dataLenCode
  rw [← range_getByte8 packet hle]
  apply List.map_congr_left
  intro i hi
  have hi : i < dlcToLen packet.dataLenCode := List.mem_range.mp hi
  have hword : i / 4 < dataLenW packet.dataLenCode := by
    unfold dataLenW
    split
    · omega
    · omega
  have hentry : (txElement canfdEnabled brsEnabled packet).dataWord.getD (i / 4) 0 =
      byteArrayToWord packet (i / 4 * 4) := by
    simp [txElement, hword]
  rw [hentry, wordByte_byteArrayToWord _ _ (Nat.mod_lt _ (by norm_num)), Nat.div_add_mod']

theorem txElement_dlc (canfdEnabled brsEnabled : Bool) (packet : CANPacket) :
    (txElement canfdEnabled brsEnabled packet).dlc = packet.dataLenCode := by
  have hbits : ∀ (code : Fin 16) (fd brs : Bool),
      Fin.ofNat 16 ((UInt32.ofNat code <<< 16 ||| bit fd 21 ||| bit brs 20) >>> 16).toNat =
        code := by
    decide
  exact hbits packet.dataLenCode canfdEnabled brsEnabled

/-- A standard address has 11 bits. -/
def InFormat (packet : CANPacket) : Prop := packet.extended = false → packet.addr.val < 0x800

theorem txElement_header (canfdEnabled brsEnabled : Bool) {packet : CANPacket}
    (h : InFormat packet) :
    (txElement canfdEnabled brsEnabled packet).extended = packet.extended ∧
      (txElement canfdEnabled brsEnabled packet).id = packet.addr.val := by
  have haddr := packet.addr.isLt
  unfold CanfdFifo.id CanfdFifo.extended
  cases hextended : packet.extended with
  | true =>
    have hheader : (txElement canfdEnabled brsEnabled packet).header0.toNat =
        2 ^ 30 + packet.addr.val := by
      simp only [txElement, hextended, bit, if_true, UInt32.toNat_or, UInt32.toNat_ofNat']
      rw [Nat.mod_eq_of_lt (by omega)]
      exact or_eq_add (i := 30) (by decide) (by omega)
    have hbit : (txElement canfdEnabled brsEnabled packet).header0 >>> 30 &&& 1 = 1 := by
      apply UInt32.toNat_inj.mp
      rw [UInt32.toNat_and, UInt32.toNat_shiftRight, hheader]
      simp [Nat.shiftRight_eq_div_pow]
      omega
    rw [hbit]
    refine ⟨rfl, ?_⟩
    rw [if_pos (by decide), UInt32.toNat_and, hheader]
    have hmask := Nat.and_two_pow_sub_one_eq_mod (2 ^ 30 + packet.addr.val) 29
    simp at hmask ⊢
    omega
  | false =>
    have hshort := h hextended
    have hheader : (txElement canfdEnabled brsEnabled packet).header0.toNat =
        packet.addr.val * 2 ^ 18 := by
      simp [txElement, hextended, bit, Nat.shiftLeft_eq]
      omega
    have hbit : (txElement canfdEnabled brsEnabled packet).header0 >>> 30 &&& 1 = 0 := by
      apply UInt32.toNat_inj.mp
      rw [UInt32.toNat_and, UInt32.toNat_shiftRight, hheader]
      simp [Nat.shiftRight_eq_div_pow]
      omega
    rw [hbit]
    refine ⟨rfl, ?_⟩
    rw [if_neg (by decide), UInt32.toNat_and, UInt32.toNat_shiftRight, hheader]
    have hmask := Nat.and_two_pow_sub_one_eq_mod packet.addr.val 11
    simp [Nat.shiftRight_eq_div_pow] at hmask ⊢
    omega

/-- A whole frame that `process_can` writes is the message of its packet. -/
theorem txElement_message {canfdEnabled brsEnabled : Bool} {packet : CANPacket} (bus : Fin 3)
    (h : InFormat packet) (hwhole : (txElement canfdEnabled brsEnabled packet).wire.Whole) :
    (txElement canfdEnabled brsEnabled packet).wire.message bus =
      { packetMessage packet with bus := bus } := by
  obtain ⟨-, hid⟩ := txElement_header canfdEnabled brsEnabled h
  have hdlc := txElement_dlc canfdEnabled brsEnabled packet
  have hbytes := txElement_bytes canfdEnabled brsEnabled packet
  generalize txElement canfdEnabled brsEnabled packet = fifo at *
  have hlength : (if fifo.fdf then dlcToLen fifo.dlc else min 8 (dlcToLen fifo.dlc)) =
      getLen packet := by
    simp only [WireFrame.Whole, CanfdFifo.wire, CanfdFifo.bytes, List.length_map,
      List.length_range] at hwhole
    rw [hwhole, hdlc, getLen]
  simp only [WireFrame.message, CanfdFifo.wire, packetMessage, hid, hlength, hbytes]

/-- A whole frame that `can_rx` reads is the message of the packet it makes. -/
theorem receivedFrame_message (bus : Fin 3) {frame : RxFrame} (hwhole : frame.fifo.wire.Whole) :
    packetMessage (receivedFrame bus frame) = frame.fifo.wire.message bus := by
  have hid : frame.fifo.id < 2 ^ 29 := by
    unfold CanfdFifo.id
    split
    · rw [UInt32.toNat_and]
      exact Nat.lt_of_le_of_lt Nat.and_le_right (by decide)
    · rw [UInt32.toNat_and]
      exact Nat.lt_of_le_of_lt Nat.and_le_right (by decide)
  have hlength : (if frame.fifo.fdf then dlcToLen frame.fifo.dlc
      else min 8 (dlcToLen frame.fifo.dlc)) = dlcToLen frame.fifo.dlc := by
    simpa [WireFrame.Whole, CanfdFifo.wire, CanfdFifo.bytes] using hwhole
  have hle := dlcToLen_le frame.fifo.dlc
  have hdata : (List.ofFn (receivedFrame bus frame).data).take (dlcToLen frame.fifo.dlc) =
      frame.fifo.bytes (dlcToLen frame.fifo.dlc) := by
    rw [← range_getByte8 _ hle]
    apply List.map_congr_left
    intro i hi
    have hi : i < dlcToLen frame.fifo.dlc := List.mem_range.mp hi
    have hword : i / 4 < dataLenW frame.fifo.dlc := by
      unfold dataLenW
      split
      · omega
      · omega
    have hlt : i < 64 := by omega
    simp only [getByte8, dif_pos hlt]
    exact if_pos hword
  simp only [WireFrame.message, CanfdFifo.wire, hlength]
  rw [← hdata]
  simp only [packetMessage]
  congr 1
  · exact Nat.mod_eq_of_lt hid

end Panda.Comms
