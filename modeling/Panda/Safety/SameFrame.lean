import Panda.Safety.Session

/-!
Frames that agree in their header and in the bytes that their length covers.
`can_rx` fills only these of the packet on its stack, so what a hook makes of
two such frames should be the same. A field is read alike from both as long as
it ends within the length.
-/

namespace Panda.Safety

open Library

/-- The packets agree in address, bus, length code and the first `GET_LEN` data
bytes. -/
structure SameFrame (msg msg' : CANPacket) : Prop where
  addr : msg'.addr = msg.addr
  bus : msg'.bus = msg.bus
  dataLenCode : msg'.dataLenCode = msg.dataLenCode
  data : ∀ i < getLen msg, getByte8 msg' i = getByte8 msg i

theorem getBytes_succ (msg : CANPacket) (start len : Nat) :
    getBytes msg start (len + 1) =
      getBytes msg start len ||| (getByte msg (start + len) <<< (len * 8)) := by
  simp only [getBytes, List.range_succ, List.foldl_append, List.foldl_cons, List.foldl_nil]

section Fields

variable {msg msg' : CANPacket} (h : SameFrame msg msg')

include h

theorem SameFrame.addr_eq : getAddr msg' = getAddr msg := congrArg Fin.val h.addr

theorem SameFrame.bus_eq : getBus msg' = getBus msg := congrArg Fin.val h.bus

theorem SameFrame.len_eq : getLen msg' = getLen msg := congrArg dlcToLen h.dataLenCode

theorem SameFrame.byte_eq {i : Nat} (hi : i < getLen msg) : getByte msg' i = getByte msg i :=
  congrArg UInt8.toNat (h.data i hi)

theorem SameFrame.bit_eq {b : Nat} (hb : b / 8 < getLen msg) : getBit msg' b = getBit msg b := by
  simp only [getBit, h.byte_eq hb]

theorem SameFrame.bytes_eq {start len : Nat} (hlen : start + len ≤ getLen msg) :
    getBytes msg' start len = getBytes msg start len := by
  induction len with
  | zero => rfl
  | succ len ih => rw [getBytes_succ, getBytes_succ, ih (by omega), h.byte_eq (by omega)]

/-- The bits of a little endian number that lie within the length. -/
theorem SameFrame.testBit_eq (len : Nat) {j : Nat} (hj : j < 8 * getLen msg) :
    (getBytes msg' 0 len).testBit j = (getBytes msg 0 len).testBit j := by
  induction len with
  | zero => rfl
  | succ len ih =>
      rw [getBytes_succ, getBytes_succ, Nat.testBit_or, Nat.testBit_or, ih, Nat.testBit_shiftLeft,
        Nat.testBit_shiftLeft]
      by_cases hbyte : 0 + len < getLen msg
      · rw [h.byte_eq hbyte]
      · have hbelow : ¬ j ≥ len * 8 := by omega
        simp only [hbelow, decide_false, Bool.false_and]

/-- A field that is cut out of a longer read. -/
theorem SameFrame.field_eq {len shift mask : Nat} (width : Nat)
    (hend : shift + width ≤ 8 * getLen msg) (hmask : mask < 2 ^ width) :
    (getBytes msg' 0 len >>> shift) &&& mask = (getBytes msg 0 len >>> shift) &&& mask := by
  apply Nat.eq_of_testBit_eq
  intro j
  rw [Nat.testBit_and, Nat.testBit_and, Nat.testBit_shiftRight, Nat.testBit_shiftRight]
  by_cases hj : j < width
  · rw [h.testBit_eq len (by omega)]
  · have hhigh : mask.testBit j = false :=
      Nat.testBit_lt_two_pow (hmask.trans_le (Nat.pow_le_pow_right (by omega) (by omega)))
    rw [hhigh, Bool.and_false, Bool.and_false]

end Fields

/-! ### Branches and the bytes they need -/

/-- The length covers every branch that is taken. A hook is listed by its
branches on frames, each with the condition under which it is taken and the
number of leading data bytes that its outcome depends on. -/
def Covers (len : Nat) (branches : List (Bool × Nat)) : Prop :=
  ∀ branch ∈ branches, branch.1 = true → branch.2 ≤ len

instance (len : Nat) (branches : List (Bool × Nat)) : Decidable (Covers len branches) :=
  inferInstanceAs (Decidable (∀ branch ∈ branches, branch.1 = true → branch.2 ≤ len))

theorem covers_cons {len : Nat} {taken : Bool} {bytes : Nat} {branches : List (Bool × Nat)} :
    Covers len ((taken, bytes) :: branches) ↔
      (taken = true → bytes ≤ len) ∧ Covers len branches :=
  List.forall_mem_cons

theorem covers_nil (len : Nat) : Covers len [] := by
  intro branch hbranch
  cases hbranch

theorem covers_ite {len : Nat} {c : Prop} [Decidable c] {branches : List (Bool × Nat)}
    (h : Covers len branches) : Covers len (if c then branches else []) := by
  split
  · exact h
  · exact covers_nil len

theorem covers_append {len : Nat} {branches more : List (Bool × Nat)} :
    Covers len (branches ++ more) ↔ Covers len branches ∧ Covers len more :=
  List.forall_mem_append

end Panda.Safety
