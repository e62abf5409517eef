import Panda.Library.Probe
import Panda.Library.Transition

/-!
`board/drivers/registers.h`: the map of what the firmware has set in the registers,
and the check of the registers against it. A register is a word under its address,
and it keeps what is written to it.
-/

namespace Panda.Main

open Library

def registerMapSize : Nat := 0x3FF

def hashingPrime : UInt32 := 23

structure Reg where
  address : UInt32
  value : UInt32
  checkMask : UInt32

/-- `register_map` and the registers. The cells from `REGISTER_MAP_SIZE` on are the
memory behind the array. -/
structure Registers where
  registerMap : UInt16 → Reg
  registers : UInt32 → UInt32

def hashAddr (input : UInt32) : UInt16 :=
  (((input >>> 16) ^^^ ((((input + 1) &&& 0xFFFF) * hashingPrime) &&& 0xFFFF)) &&& 0x3FF).toUInt16

def rehash (hash : UInt16) : UInt16 := hashAddr hash.toUInt32

def setMasked (old val mask : UInt32) : UInt32 := (old &&& ~~~mask) ||| (val &&& mask)

namespace Registers

def checkCollision (s : Registers) (addr : UInt32) (hash : UInt16) : Bool :=
  (s.registerMap hash).address != 0 && (s.registerMap hash).address != addr

/-- The collision loop of `register_set`, with `hash` and `tries` after it. -/
def findSlot (s : Registers) (addr : UInt32) : UInt16 × Nat :=
  probe rehash (s.checkCollision addr) registerMapSize (hashAddr addr)

def hashIndexes (s : Registers) (addr : UInt32) : List UInt16 :=
  probed rehash (s.checkCollision addr) registerMapSize (hashAddr addr)

def registerSet (addr val mask : UInt32) (s : Registers) : Registers :=
  let s := { s with
    registers := Function.update s.registers addr (setMasked (s.registers addr) val mask) }
  let (hash, tries) := s.findSlot addr
  if tries ≠ 0 then
    let entry := s.registerMap hash
    { s with
      registerMap := Function.update s.registerMap hash
        { address := addr
          value := setMasked entry.value val mask
          checkMask := entry.checkMask ||| mask } }
  else s

def registerSetBits (addr val : UInt32) (s : Registers) : Registers := s.registerSet addr val val

def registerClearBits (addr val : UInt32) (s : Registers) : Registers :=
  s.registerSet addr (~~~val) val

def divergent (s : Registers) (i : UInt16) : Bool :=
  let entry := s.registerMap i
  entry.address != 0 &&
    s.registers entry.address &&& entry.checkMask != entry.value &&& entry.checkMask

/-- `check_registers`: whether it reports `FAULT_REGISTER_DIVERGENT`. -/
def checkRegisters (s : Registers) : Bool :=
  (List.range registerMapSize).any fun i => s.divergent (.ofNat i)

/-- `init_registers`. The values stay. -/
def initRegisters (s : Registers) : Registers :=
  { s with
    registerMap := fun i =>
      if i.toNat < registerMapSize then { s.registerMap i with address := 0, checkMask := 0 }
      else s.registerMap i }

end Registers

inductive RegisterCall where
  | set (addr val mask : UInt32)
  | setBits (addr val : UInt32)
  | clearBits (addr val : UInt32)

def RegisterCall.addr : RegisterCall → UInt32
  | set addr _ _ => addr
  | setBits addr _ => addr
  | clearBits addr _ => addr

def registerStep (s : Registers) : RegisterCall → Registers
  | .set addr val mask => s.registerSet addr val mask
  | .setBits addr val => s.registerSetBits addr val
  | .clearBits addr val => s.registerClearBits addr val

/-- Each call is one of `register_set`. -/
theorem registerStep_eq (s : Registers) (c : RegisterCall) :
    ∃ val mask, registerStep s c = s.registerSet c.addr val mask := by
  cases c with
  | set addr val mask => exact ⟨val, mask, rfl⟩
  | setBits addr val => exact ⟨val, val, rfl⟩
  | clearBits addr val => exact ⟨~~~val, val, rfl⟩

/-! ### The hash -/

/-- `hash_addr` in arithmetic: its mask leaves ten bits. -/
theorem hashAddr_toNat (input : UInt32) :
    (hashAddr input).toNat = (input.toNat / 2 ^ 16 ^^^ 23 * (input.toNat + 1)) % 2 ^ 10 := by
  have hlow : ∀ x : Nat, x &&& 65535 = x % 2 ^ 16 := fun x => Nat.and_two_pow_sub_one_eq_mod x 16
  have hten : ∀ x : Nat, x &&& 1023 = x % 2 ^ 10 := fun x => Nat.and_two_pow_sub_one_eq_mod x 10
  have hproduct : (input.toNat + 1) % 2 ^ 32 % 2 ^ 16 * 23 % 2 ^ 32 % 2 ^ 16 % 2 ^ 10 =
      23 * (input.toNat + 1) % 2 ^ 10 := by
    omega
  simp only [hashAddr, hashingPrime, UInt32.toNat_toUInt16, UInt32.toNat_and, UInt32.toNat_xor,
    UInt32.toNat_shiftRight, UInt32.toNat_mul, UInt32.toNat_add, UInt32.reduceToNat,
    Nat.shiftRight_eq_div_pow, Nat.reduceMod, hlow, hten]
  rw [Nat.xor_mod_two_pow, hproduct, ← Nat.xor_mod_two_pow]
  exact Nat.mod_eq_of_lt (Nat.lt_trans (Nat.mod_lt _ (by decide)) (by decide))

theorem hashAddr_lt (input : UInt32) : (hashAddr input).toNat < 2 ^ 10 := by
  rw [hashAddr_toNat]
  exact Nat.mod_lt _ (by decide)

theorem rehash_toNat (hash : UInt16) : (rehash hash).toNat = 23 * (hash.toNat + 1) % 2 ^ 10 := by
  have hlt := hash.toNat_lt
  rw [rehash, hashAddr_toNat, UInt16.toNat_toUInt32, Nat.div_eq_of_lt hlt, Nat.zero_xor]

theorem rehash_iterate_lt {hash : UInt16} (h : hash.toNat < 2 ^ 10) (n : Nat) :
    (rehash^[n] hash).toNat < 2 ^ 10 := by
  cases n with
  | zero => exact h
  | succ n =>
      rw [Function.iterate_succ_apply']
      exact hashAddr_lt _

/-- The ten bits that are taken to `x`: 935 is the inverse of the prime. -/
def unhash (x : Nat) : Nat := (935 * x + 1023) % 2 ^ 10

theorem unhash_lt (x : Nat) : unhash x < 2 ^ 10 := Nat.mod_lt _ (by decide)

theorem unhash_eq {input x : Nat} : 23 * (input + 1) % 2 ^ 10 = x % 2 ^ 10 ↔
    input % 2 ^ 10 = unhash x := by
  unfold unhash
  omega

/-- The addresses that are taken to a slot. -/
theorem hashAddr_eq_iff {input : UInt32} {x : Nat} (hx : x < 2 ^ 10) :
    (hashAddr input).toNat = x ↔
      input.toNat % 2 ^ 10 = unhash (input.toNat / 2 ^ 16 ^^^ x) := by
  rw [hashAddr_toNat, ← unhash_eq, Nat.xor_mod_two_pow, Nat.xor_mod_two_pow, Nat.mod_eq_of_lt hx]
  constructor
  · rintro rfl
    rw [← Nat.xor_assoc, Nat.xor_self, Nat.zero_xor]
  · intro h
    rw [h, ← Nat.xor_assoc, Nat.xor_self, Nat.zero_xor]

/-- The slots from which rehashing gets to the cell behind the array, which is
the first of them. -/
def toEnd : Nat → Nat
  | 0 => 1023
  | n + 1 => unhash (toEnd n)

theorem toEnd_lt (n : Nat) : toEnd n < 2 ^ 10 := by
  cases n with
  | zero => decide
  | succ n => exact unhash_lt _

theorem rehash_eq_toEnd {hash : UInt16} (h : hash.toNat < 2 ^ 10) (n : Nat) :
    (rehash hash).toNat = toEnd n ↔ hash.toNat = toEnd (n + 1) := by
  have hslot := toEnd_lt n
  rw [rehash_toNat, toEnd, ← Nat.mod_eq_of_lt hslot, unhash_eq, Nat.mod_eq_of_lt hslot,
    Nat.mod_eq_of_lt h]

/-- After `n` rehashes a slot is the cell behind the array if it is `n` before it. -/
theorem rehash_iterate_eq_end {hash : UInt16} (h : hash.toNat < 2 ^ 10) (n : Nat) :
    (rehash^[n] hash).toNat = toEnd 0 ↔ hash.toNat = toEnd n := by
  induction n generalizing hash with
  | zero => exact Iff.rfl
  | succ n ih =>
      have hnext : (rehash hash).toNat < 2 ^ 10 := hashAddr_lt _
      rw [Function.iterate_succ_apply, ih hnext]
      exact rehash_eq_toEnd h n

/-- On the way to the end a slot is followed by the next one. -/
theorem rehash_iterate_toEnd {hash : UInt16} {n : Nat} (h : hash.toNat = toEnd n) {j : Nat}
    (hj : j ≤ n) : (rehash^[j] hash).toNat = toEnd (n - j) := by
  induction j with
  | zero => exact h
  | succ j ih =>
      have hbefore := ih (Nat.le_of_succ_le hj)
      have hlt : hash.toNat < 2 ^ 10 := h ▸ toEnd_lt n
      rw [Function.iterate_succ_apply']
      apply (rehash_eq_toEnd (rehash_iterate_lt hlt j) _).mpr
      rw [hbefore]
      congr 1
      omega

/-- The slots are on a cycle. -/
theorem toEnd_add (n : Nat) : toEnd (n + 256) = toEnd n := by
  induction n with
  | zero => decide +kernel
  | succ n ih =>
      have hstep : toEnd (n + 256 + 1) = unhash (toEnd (n + 256)) := rfl
      rw [Nat.add_right_comm, hstep, ih]
      rfl

end Panda.Main
