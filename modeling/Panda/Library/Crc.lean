import Mathlib.Tactic

/-!
Cyclic redundancy checks, most significant bit first. The definition is bit by bit: a
shift register of any width takes the polynomial whenever the bit that leaves it
differs from the bit that enters. A whole byte can be added to the top of the register
and shifted out, which is what a table stores, and the shift is linear, which lets the
table be indexed by the top byte alone.
-/

namespace Panda.Library

variable {w : Nat}

/-- The register after one bit of the message. -/
def crcBit (poly crc : BitVec w) (bit : Bool) : BitVec w :=
  if crc.msb != bit then (crc <<< 1) ^^^ poly else crc <<< 1

/-- The bits of a byte, the most significant one first. -/
def byteBits (byte : UInt8) : List Bool := (List.range 8).map byte.toBitVec.getMsbD

def crcByte (poly crc : BitVec w) (byte : UInt8) : BitVec w :=
  (byteBits byte).foldl (crcBit poly) crc

/-- The check value of a message. -/
def crcOf (poly init xorOut : BitVec w) (bytes : List UInt8) : BitVec w :=
  bytes.foldl (crcByte poly) init ^^^ xorOut

/-- The check value of CRC-8/SAE-J1850, of the digits from one to nine. -/
example : crcOf 0x1D#8 0xFF#8 0xFF#8 [0x31, 0x32, 0x33, 0x34, 0x35, 0x36, 0x37, 0x38, 0x39] =
    0x4B#8 := by decide +kernel

/-- The register after one bit without a message. -/
def crcShift (poly crc : BitVec w) : BitVec w :=
  if crc.msb then (crc <<< 1) ^^^ poly else crc <<< 1

/-- Adding the message to the top of the register and shifting is the same as adding it
bit by bit. -/
theorem foldl_crcBit (poly : BitVec w) {bits : List Bool} {top : BitVec w}
    (htop : ∀ i, top.getMsbD i = bits.getD i false) (crc : BitVec w) :
    bits.foldl (crcBit poly) crc = (crcShift poly)^[bits.length] (crc ^^^ top) := by
  induction bits generalizing crc top with
  | nil =>
      have hzero : top = 0#w := by
        apply BitVec.eq_of_getMsbD_eq
        intro i _
        simp [htop i]
      simp [hzero]
  | cons bit bits ih =>
      have hnext : ∀ i, (top <<< 1).getMsbD i = bits.getD i false := by
        intro i
        simp [htop (i + 1)]
      have hmsb : top.msb = bit := by
        rw [BitVec.msb_eq_getMsbD_zero, htop 0]
        rfl
      have hshift : crcShift poly (crc ^^^ top) = crcBit poly crc bit ^^^ (top <<< 1) := by
        rw [crcShift, crcBit, BitVec.msb_xor, hmsb, BitVec.shiftLeft_xor_distrib]
        split
        · rw [BitVec.xor_assoc, BitVec.xor_comm _ poly, BitVec.xor_assoc]
        · rfl
      rw [List.foldl_cons, ih hnext, List.length_cons, Function.iterate_succ_apply, hshift]

theorem byteBits_getD (byte : UInt8) (i : Nat) :
    byte.toBitVec.getMsbD i = (byteBits byte).getD i false := by
  rw [byteBits]
  rcases lt_or_ge i 8 with hi | hi
  · simp [hi]
  · simp [hi]

/-- A byte of the message goes to the top of the register. -/
theorem crcByte_eq {k : Nat} (poly crc : BitVec (8 + k)) (byte : UInt8) :
    crcByte poly crc byte = (crcShift poly)^[8] (crc ^^^ (byte.toBitVec ++ 0#k)) := by
  apply foldl_crcBit poly
  intro i
  rw [BitVec.getMsbD_append, ← byteBits_getD]
  rcases lt_or_ge i 8 with hi | hi
  · rw [if_neg (Nat.not_le.mpr hi)]
  · simp [hi]

/-- A register of one byte. -/
theorem crcByte_eq_eight (poly crc : BitVec 8) (byte : UInt8) :
    crcByte poly crc byte = (crcShift poly)^[8] (crc ^^^ byte.toBitVec) :=
  foldl_crcBit poly (byteBits_getD byte) crc

/-- The shift is linear. -/
theorem crcShift_xor (poly a b : BitVec w) :
    crcShift poly (a ^^^ b) = crcShift poly a ^^^ crcShift poly b := by
  simp only [crcShift, BitVec.msb_xor, BitVec.shiftLeft_xor_distrib]
  cases a.msb with
  | false =>
      cases b.msb with
      | false => rfl
      | true => exact BitVec.xor_assoc _ _ _
  | true =>
      cases b.msb with
      | false =>
          change (a <<< 1 ^^^ b <<< 1) ^^^ poly = (a <<< 1 ^^^ poly) ^^^ b <<< 1
          rw [BitVec.xor_assoc, BitVec.xor_comm (b <<< 1), BitVec.xor_assoc]
      | true =>
          change a <<< 1 ^^^ b <<< 1 = (a <<< 1 ^^^ poly) ^^^ (b <<< 1 ^^^ poly)
          rw [BitVec.xor_assoc, BitVec.xor_comm (b <<< 1), ← BitVec.xor_assoc poly,
            BitVec.xor_self, BitVec.zero_xor]

theorem iterate_crcShift_xor (poly : BitVec w) (n : Nat) (a b : BitVec w) :
    (crcShift poly)^[n] (a ^^^ b) = (crcShift poly)^[n] a ^^^ (crcShift poly)^[n] b := by
  induction n generalizing a b with
  | zero => rfl
  | succ n ih => rw [Function.iterate_succ_apply, crcShift_xor, ih]; rfl

/-- Clear bits are shifted out without the polynomial. -/
theorem iterate_crcShift_clear (poly : BitVec w) {n : Nat} {crc : BitVec w}
    (h : ∀ i < n, crc.getMsbD i = false) : (crcShift poly)^[n] crc = crc <<< n := by
  induction n generalizing crc with
  | zero => simp
  | succ n ih =>
      have hmsb : crc.msb = false := by
        rw [BitVec.msb_eq_getMsbD_zero]
        exact h 0 n.succ_pos
      have hshift : crcShift poly crc = crc <<< 1 := by simp [crcShift, hmsb]
      have hnext : ∀ i < n, (crc <<< 1).getMsbD i = false := by
        intro i hi
        simpa using h (i + 1) (by omega)
      rw [Function.iterate_succ_apply, hshift, ih hnext, ← BitVec.shiftLeft_add, Nat.add_comm]

/-- The step of a table: the top byte of the register selects the entry, and the rest
moves up by a byte. -/
theorem crcByte_table {k : Nat} (poly : BitVec (8 + k)) (high : BitVec 8) (low : BitVec k)
    (byte : UInt8) :
    crcByte poly (high ++ low) byte =
      (0#8 ++ low) <<< 8 ^^^ (crcShift poly)^[8] ((high ^^^ byte.toBitVec) ++ 0#k) := by
  have hsplit : (high ++ low) ^^^ (byte.toBitVec ++ 0#k) =
      (0#8 ++ low) ^^^ ((high ^^^ byte.toBitVec) ++ 0#k) := by
    simp
  have hclear : ∀ i < 8, (0#8 ++ low).getMsbD i = false := by
    intro i hi
    simp [BitVec.getMsbD_append, Nat.not_le.mpr hi]
  rw [crcByte_eq, hsplit, iterate_crcShift_xor, iterate_crcShift_clear poly hclear]

end Panda.Library
