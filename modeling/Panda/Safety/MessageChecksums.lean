import Panda.Library.Crc
import Panda.Safety.Modes.Volkswagen
import Panda.Safety.Modes.HyundaiCanfd
import Panda.Safety.Modes.Chrysler

/-!
The CRCs of the monitored messages. Volkswagen MQB and Hyundai CAN-FD look up tables
that their `init` generates, Chrysler shifts bit by bit with masks. Each is the CRC of
its polynomial over the bytes that the message gives it, for every frame.
-/

namespace Panda.Safety

open Library

variable {w : Nat}

/-- The bytes of the frame from `start` up to `stop`. -/
def bytesBetween (msg : CANPacket) (start stop : Nat) : List UInt8 :=
  (List.range (stop - start)).map fun i => getByte8 msg (i + start)

theorem foldl_bytesBetween {α : Type*} (f : α → UInt8 → α) (a : α) (msg : CANPacket)
    (start stop : Nat) :
    (List.range (stop - start)).foldl (fun a i => f a (getByte8 msg (i + start))) a =
      (bytesBetween msg start stop).foldl f a :=
  List.foldl_map.symm

/-! ### Tables -/

/-- The test of the top bit with a mask. -/
theorem and_top_bne (crc : BitVec (w + 1)) :
    ((crc &&& BitVec.twoPow (w + 1) w) != 0#(w + 1)) = crc.msb := by
  have hone : BitVec.twoPow (w + 1) w ≠ 0#(w + 1) := by
    intro heq
    have hbit := congrArg (fun x : BitVec (w + 1) => x.getLsbD w) heq
    simp at hbit
  rw [BitVec.and_twoPow, BitVec.msb_eq_getLsbD_last, Nat.add_sub_cancel]
  cases crc.getLsbD w with
  | false => simp
  | true => simp [hone]

theorem top_bne8 (crc : UInt8) : ((crc &&& 0x80) != 0) = crc.toBitVec.msb := by
  rw [← and_top_bne, Bool.eq_iff_iff, bne_iff_ne, bne_iff_ne, ne_eq, ne_eq, ← UInt8.toBitVec_inj]
  rfl

theorem top_bne16 (crc : UInt16) : ((crc &&& 0x8000) != 0) = crc.toBitVec.msb := by
  rw [← and_top_bne, Bool.eq_iff_iff, bne_iff_ne, bne_iff_ne, ne_eq, ne_eq, ← UInt16.toBitVec_inj]
  rfl

/-- An entry of the table is its index, shifted out. -/
theorem genCrcLookupTable8_toBitVec (poly i : UInt8) :
    (genCrcLookupTable8 poly i).toBitVec = (crcShift poly.toBitVec)^[8] i.toBitVec := by
  have hshift : Function.Semiconj UInt8.toBitVec
      (fun crc => if (crc &&& 0x80) != 0 then (crc <<< 1) ^^^ poly else crc <<< 1)
      (crcShift poly.toBitVec) := by
    intro crc
    simp only [crcShift, top_bne8, apply_ite UInt8.toBitVec]
    rfl
  rw [genCrcLookupTable8, List.foldl_const]
  exact hshift.iterate_right 8 i

theorem genCrcLookupTable16_toBitVec (poly : UInt16) (i : UInt8) :
    (genCrcLookupTable16 poly i).toBitVec =
      (crcShift poly.toBitVec)^[8] (i.toBitVec ++ 0#8) := by
  have hshift : Function.Semiconj UInt16.toBitVec
      (fun crc => if (crc &&& 0x8000) != 0 then (crc <<< 1) ^^^ poly else crc <<< 1)
      (crcShift poly.toBitVec) := by
    intro crc
    simp only [crcShift, top_bne16, apply_ite UInt16.toBitVec]
    rfl
  have hstart : (i.toUInt16 <<< 8).toBitVec = i.toBitVec ++ 0#8 := by
    apply BitVec.eq_of_toNat_eq
    have hlt : i.toNat < 256 := i.toNat_lt
    rw [BitVec.toNat_append, UInt16.toNat_toBitVec, UInt16.toNat_shiftLeft]
    simp
    omega
  rw [genCrcLookupTable16, List.foldl_const, ← hstart]
  exact hshift.iterate_right 8 (i.toUInt16 <<< 8)

/-! ### Bytes -/

theorem lookup8_toBitVec (poly crc byte : UInt8) :
    (genCrcLookupTable8 poly (crc ^^^ byte)).toBitVec =
      crcByte poly.toBitVec crc.toBitVec byte := by
  rw [genCrcLookupTable8_toBitVec, crcByte_eq_eight]
  rfl

theorem toBitVec_split (crc : UInt16) :
    crc.toBitVec = (crc >>> 8).toUInt8.toBitVec ++ crc.toUInt8.toBitVec := by
  apply BitVec.eq_of_getLsbD_eq
  intro i hi
  rw [BitVec.getLsbD_append, UInt16.toBitVec_toUInt8, UInt16.toBitVec_toUInt8,
    UInt16.toBitVec_shiftRight]
  rcases lt_or_ge i 8 with h | h
  · simp [h]
  · simp [Nat.not_lt.mpr h, show i - 8 < 8 by omega, show 8 + (i - 8) = i by omega]

theorem hyundaiCanfdCrcStep_toBitVec (poly : UInt16) (crc : UInt16) (byte : UInt8) :
    (hyundaiCanfdCrcStep (genCrcLookupTable16 poly) crc byte).toBitVec =
      crcByte poly.toBitVec crc.toBitVec byte := by
  have hlow : (crc <<< 8).toBitVec = (0#8 ++ crc.toUInt8.toBitVec) <<< 8 := by
    apply BitVec.eq_of_getLsbD_eq
    intro i hi
    rw [UInt16.toBitVec_shiftLeft]
    have hindex : i - 8 < 8 := by omega
    have hbyte : (0#8 ++ crc.toUInt8.toBitVec).getLsbD (i - 8) = crc.toBitVec.getLsbD (i - 8) := by
      rw [BitVec.getLsbD_append, if_pos hindex, UInt16.toBitVec_toUInt8]
      simp [hindex]
    rw [BitVec.getLsbD_shiftLeft, hbyte]
    simp
  have htable := @crcByte_table 8 poly.toBitVec (crc >>> 8).toUInt8.toBitVec
    crc.toUInt8.toBitVec byte
  calc (hyundaiCanfdCrcStep (genCrcLookupTable16 poly) crc byte).toBitVec
      = (crc <<< 8).toBitVec ^^^
          (genCrcLookupTable16 poly ((crc >>> 8).toUInt8 ^^^ byte)).toBitVec := rfl
    _ = (0#8 ++ crc.toUInt8.toBitVec) <<< 8 ^^^ (crcShift poly.toBitVec)^[8]
          (((crc >>> 8).toUInt8.toBitVec ^^^ byte.toBitVec) ++ 0#8) := by
        rw [hlow, genCrcLookupTable16_toBitVec, UInt8.toBitVec_xor]
    _ = crcByte poly.toBitVec crc.toBitVec byte := by
        rw [toBitVec_split crc]
        exact htable.symm

/-- One bit of the checksum of Chrysler, by the bit that the mask selects. -/
theorem chryslerChecksumBit_toBitVec (curr checksum shift : UInt8) :
    (chryslerChecksumBit curr checksum shift).toBitVec =
      crcBit 0x1D#8 checksum.toBitVec ((curr &&& shift) != 0) := by
  have hpoly : ∀ x : BitVec 8, 0x1C#8 ^^^ ((x <<< 1) ||| 1#8) = (x <<< 1) ^^^ 0x1D#8 := by decide
  have hcancel : ∀ x : BitVec 8, 1#8 ^^^ ((x <<< 1) ||| 1#8) = x <<< 1 := by decide
  rw [chryslerChecksumBit, crcBit, top_bne8]
  cases (curr &&& shift) != 0 with
  | false =>
      cases checksum.toBitVec.msb with
      | false => exact BitVec.zero_xor
      | true => exact BitVec.xor_comm _ _
  | true =>
      cases checksum.toBitVec.msb with
      | false => exact hpoly checksum.toBitVec
      | true => exact hcancel checksum.toBitVec

theorem and_bne (byte shift : UInt8) :
    ((byte &&& shift) != 0) = ((byte.toBitVec &&& shift.toBitVec) != 0#8) := by
  rw [Bool.eq_iff_iff, bne_iff_ne, bne_iff_ne, ne_eq, ne_eq, ← UInt8.toBitVec_inj]
  rfl

/-- The masks of Chrysler select the bits of a byte in order. -/
def chryslerMasks : List UInt8 := [0x80, 0x40, 0x20, 0x10, 0x08, 0x04, 0x02, 0x01]

theorem byteBits_masks (byte : UInt8) :
    byteBits byte = chryslerMasks.map fun shift => (byte &&& shift) != 0 := by
  have hbits : ∀ x : BitVec 8, (List.range 8).map x.getMsbD =
      (chryslerMasks.map UInt8.toBitVec).map fun shift => (x &&& shift) != 0#8 := by decide
  rw [byteBits, hbits, List.map_map]
  simp only [Function.comp_def, and_bne]

theorem chryslerByte_toBitVec (byte checksum : UInt8) :
    (chryslerMasks.foldl (chryslerChecksumBit byte) checksum).toBitVec =
      crcByte 0x1D#8 checksum.toBitVec byte := by
  rw [crcByte, byteBits_masks, List.foldl_map]
  exact (List.foldl_hom UInt8.toBitVec
    fun checksum shift => (chryslerChecksumBit_toBitVec byte checksum shift).symm).symm

/-! ### Messages -/

theorem volkswagenMqbComputeCrc_eq (toPush : CANPacket) :
    (volkswagenMqbComputeCrc (genCrcLookupTable8 0x2F) toPush).toNat =
      (crcOf 0x2F#8 0xFF#8 0xFF#8 (bytesBetween toPush 1 (getLen toPush) ++
        [volkswagenMqbCrcPad (getAddr toPush) (volkswagenMqbGetCounter toPush)])).toNat := by
  have hfold := foldl_bytesBetween (fun crc byte => genCrcLookupTable8 0x2F (crc ^^^ byte))
    0xFF toPush 1 (getLen toPush)
  have hbytes := fun bytes : List UInt8 =>
    @List.foldl_hom _ _ _ UInt8.toBitVec _ (crcByte 0x2F#8) bytes 0xFF
      fun crc byte => (lookup8_toBitVec 0x2F crc byte).symm
  rw [volkswagenMqbComputeCrc, hfold, crcOf, List.foldl_append, List.foldl_cons, List.foldl_nil,
    UInt8.toNat_toUInt32, ← UInt8.toNat_toBitVec, UInt8.toBitVec_xor, lookup8_toBitVec, ← hbytes]
  rfl

theorem chryslerComputeChecksum_eq (toPush : CANPacket) :
    (chryslerComputeChecksum toPush).toNat =
      (crcOf 0x1D#8 0xFF#8 0xFF#8 (bytesBetween toPush 0 (getLen toPush - 1))).toNat := by
  have hfold := foldl_bytesBetween (fun checksum byte =>
    chryslerMasks.foldl (chryslerChecksumBit byte) checksum) 0xFF toPush 0 (getLen toPush - 1)
  have hbytes := fun bytes : List UInt8 =>
    @List.foldl_hom _ _ _ UInt8.toBitVec _ (crcByte 0x1D#8) bytes 0xFF
      fun checksum byte => (chryslerByte_toBitVec byte checksum).symm
  have hnot : ∀ x : BitVec 8, ~~~x = x ^^^ 0xFF#8 := by decide
  have hloop : chryslerComputeChecksum toPush =
      (~~~(bytesBetween toPush 0 (getLen toPush - 1)).foldl (fun checksum byte =>
        chryslerMasks.foldl (chryslerChecksumBit byte) checksum) 0xFF).toUInt32 := by
    rw [← hfold]
    rfl
  rw [hloop, UInt8.toNat_toUInt32, ← UInt8.toNat_toBitVec, UInt8.toBitVec_not, ← hbytes, hnot]
  rfl

/-- What the length of a message adds to its CRC. -/
def hyundaiCanfdLengthXor (len : Nat) : BitVec 16 :=
  if len = 24 then 0x819d#16 else if len = 32 then 0x9f5b#16 else 0#16

theorem hyundaiCommonCanfdComputeChecksum_eq (toPush : CANPacket) :
    (hyundaiCommonCanfdComputeChecksum (genCrcLookupTable16 0x1021) toPush).toNat =
      (crcOf 0x1021#16 0#16 (hyundaiCanfdLengthXor (getLen toPush))
        (bytesBetween toPush 2 (getLen toPush) ++
          [UInt8.ofNat (getAddr toPush), UInt8.ofNat (getAddr toPush >>> 8)])).toNat := by
  have hfold := foldl_bytesBetween (hyundaiCanfdCrcStep (genCrcLookupTable16 0x1021))
    0 toPush 2 (getLen toPush)
  have hbytes := fun bytes : List UInt8 =>
    @List.foldl_hom _ _ _ UInt16.toBitVec _ (crcByte 0x1021#16) bytes 0
      fun crc byte => (hyundaiCanfdCrcStep_toBitVec 0x1021 crc byte).symm
  have hlength : ∀ crc : UInt16, (if getLen toPush = 24 then crc ^^^ 0x819d
      else if getLen toPush = 32 then crc ^^^ 0x9f5b else crc).toBitVec =
        crc.toBitVec ^^^ hyundaiCanfdLengthXor (getLen toPush) := by
    intro crc
    unfold hyundaiCanfdLengthXor
    split
    · rfl
    · split
      · rfl
      · exact BitVec.xor_zero.symm
  rw [hyundaiCommonCanfdComputeChecksum, hfold, UInt16.toNat_toUInt32, ← UInt16.toNat_toBitVec,
    hlength, hyundaiCanfdCrcStep_toBitVec, hyundaiCanfdCrcStep_toBitVec, ← hbytes, crcOf,
    List.foldl_append]
  rfl

/-- With the tables that the modes generate, the three checksums are bitwise CRCs. -/
theorem checksums_bitwise (param : UInt16) (toPush : CANPacket) :
    (volkswagenMqbComputeCrc (volkswagenMqbInit param).params.2.crc8Lut8h2f toPush).toNat =
        (crcOf 0x2F#8 0xFF#8 0xFF#8 (bytesBetween toPush 1 (getLen toPush) ++
          [volkswagenMqbCrcPad (getAddr toPush) (volkswagenMqbGetCounter toPush)])).toNat ∧
      (hyundaiCommonCanfdComputeChecksum (hyundaiCanfdInit param).params.2.crcLut toPush).toNat =
        (crcOf 0x1021#16 0#16 (hyundaiCanfdLengthXor (getLen toPush))
          (bytesBetween toPush 2 (getLen toPush) ++
            [UInt8.ofNat (getAddr toPush), UInt8.ofNat (getAddr toPush >>> 8)])).toNat ∧
      (chryslerComputeChecksum toPush).toNat =
        (crcOf 0x1D#8 0xFF#8 0xFF#8 (bytesBetween toPush 0 (getLen toPush - 1))).toNat :=
  ⟨volkswagenMqbComputeCrc_eq toPush, hyundaiCommonCanfdComputeChecksum_eq toPush,
    chryslerComputeChecksum_eq toPush⟩

end Panda.Safety
