import Mathlib.Tactic

/-!
`memcpy` of `board/libc.h`, on a memory that gives a byte for each address. It
copies forward, in words of four bytes where both addresses are aligned, so a
copy to a lower address reads each byte before it is overwritten.
-/

namespace Panda.Comms

def unaligned (x y : Nat) : Bool := (x &&& 3 ||| y &&& 3) != 0

def copyUnit (width dest src : Nat) (mem : Nat → UInt8) : Nat → UInt8 :=
  fun i => if dest ≤ i ∧ i < dest + width then mem (src + (i - dest)) else mem i

def copyUnits (width : Nat) : Nat → Nat → Nat → (Nat → UInt8) → Nat → UInt8
  | 0, _, _, mem => mem
  | count + 1, dest, src, mem =>
      copyUnits width count (dest + width) (src + width) (copyUnit width dest src mem)

/-- The `while (n >= 16U)` loop, four words at a time, the `while (n >= 4U)`
loop and the loop over the remaining bytes. -/
def memcpy (dest src len : Nat) (mem : Nat → UInt8) : Nat → UInt8 :=
  let words := if len ≥ 4 ∧ unaligned src dest = false then len / 16 * 4 + len % 16 / 4 else 0
  copyUnits 1 (len - 4 * words) (dest + 4 * words) (src + 4 * words)
    (copyUnits 4 words dest src mem)

/-- A forward copy to a lower address moves what was there before the call. -/
theorem copyUnits_forward {dest src : Nat} (h : dest ≤ src) (width count : Nat)
    (mem : Nat → UInt8) (i : Nat) :
    copyUnits width count dest src mem i =
      if dest ≤ i ∧ i < dest + width * count then mem (src + (i - dest)) else mem i := by
  induction count generalizing dest src mem with
  | zero =>
      rw [copyUnits, if_neg]
      omega
  | succ count ih =>
      rw [copyUnits, ih (by omega), Nat.mul_succ]
      simp only [copyUnit]
      by_cases hunit : dest ≤ i ∧ i < dest + width
      · rw [if_neg (by omega), if_pos hunit, if_pos (by omega)]
      · by_cases hlater : dest + width ≤ i ∧ i < dest + width + width * count
        · rw [if_pos hlater, if_neg (by omega), if_pos (by omega)]
          congr 1
          omega
        · rw [if_neg hlater, if_neg hunit, if_neg (by omega)]

theorem memcpy_forward {dest src : Nat} (h : dest ≤ src) (len : Nat) (mem : Nat → UInt8)
    (i : Nat) :
    memcpy dest src len mem i =
      if dest ≤ i ∧ i < dest + len then mem (src + (i - dest)) else mem i := by
  have hwords : ∀ words, 4 * words ≤ len →
      copyUnits 1 (len - 4 * words) (dest + 4 * words) (src + 4 * words)
        (copyUnits 4 words dest src mem) i =
      if dest ≤ i ∧ i < dest + len then mem (src + (i - dest)) else mem i := by
    intro words hle
    rw [copyUnits_forward (by omega), copyUnits_forward h, copyUnits_forward h]
    by_cases hword : dest ≤ i ∧ i < dest + 4 * words
    · rw [if_neg (by omega), if_pos hword, if_pos (by omega)]
    · by_cases hbyte : dest + 4 * words ≤ i ∧ i < dest + len
      · rw [if_pos (by omega), if_neg (by omega), if_pos (by omega)]
        congr 1
        omega
      · rw [if_neg (by omega), if_neg hword, if_neg (by omega)]
  unfold memcpy
  apply hwords
  split
  · omega
  · omega

/-! ### The loops -/

/-- The counter and the pointers of `memcpy`, and the memory. -/
structure Copy where
  n : Nat
  dest : Nat
  src : Nat
  mem : Nat → UInt8

namespace Copy

def unit (width : Nat) (c : Copy) : Copy :=
  { c with
    dest := c.dest + width
    src := c.src + width
    mem := copyUnit width c.dest c.src c.mem }

def fourWords (c : Copy) : Copy :=
  if 16 ≤ c.n then
    let c' := (((c.unit 4).unit 4).unit 4).unit 4
    fourWords { c' with n := c.n - 16 }
  else c
termination_by c.n

def words (c : Copy) : Copy :=
  if 4 ≤ c.n then words { c.unit 4 with n := c.n - 4 } else c
termination_by c.n

def bytes (c : Copy) : Copy :=
  if 0 < c.n then bytes { c.unit 1 with n := c.n - 1 } else c
termination_by c.n

end Copy

def memcpyLoops (dest src len : Nat) (mem : Nat → UInt8) : Nat → UInt8 :=
  let c : Copy := { n := len, dest, src, mem }
  let c := if len ≥ 4 ∧ unaligned src dest = false then c.fourWords.words else c
  c.bytes.mem

namespace Copy

/-- After copies of `count` units, with `n` bytes left. -/
def after (width count n : Nat) (c : Copy) : Copy where
  n
  dest := c.dest + width * count
  src := c.src + width * count
  mem := copyUnits width count c.dest c.src c.mem

/-- A unit before the others. The counter is not looked at. -/
theorem after_unit (width count n m : Nat) (c : Copy) :
    after width count n { c.unit width with n := m } = c.after width (count + 1) n := by
  simp only [after, unit, copyUnits, Nat.mul_succ]
  congr 1
  · omega
  · omega

theorem after_zero {n : Nat} {c : Copy} (h : c.n = n) (width : Nat) : c.after width 0 n = c := by
  subst h
  rfl

theorem after_after (width first second n m : Nat) (c : Copy) :
    (c.after width first m).after width second n = c.after width (first + second) n := by
  induction first generalizing c with
  | zero => rw [Nat.zero_add]; rfl
  | succ first ih =>
      have hunit := fun count n => after_unit width count n c.n c
      rw [Nat.add_right_comm, ← hunit, ← hunit, ih]

theorem fourWords_eq (c : Copy) : c.fourWords = c.after 4 (c.n / 16 * 4) (c.n % 16) := by
  fun_induction fourWords c with
  | case1 c hle c' ih =>
      have hcount : c.n / 16 * 4 = (c.n - 16) / 16 * 4 + 1 + 1 + 1 + 1 := by omega
      have hleft : c.n % 16 = (c.n - 16) % 16 := by omega
      have hunit : ∀ (count n : Nat) (c : Copy),
          (c.unit 4).after 4 count n = c.after 4 (count + 1) n :=
        fun count n c => after_unit 4 count n c.n c
      rw [ih, hcount, hleft, after_unit, hunit, hunit, hunit]
  | case2 c hlt =>
      have hcount : c.n / 16 * 4 = 0 := by omega
      rw [hcount, after_zero (by omega)]

theorem words_eq (c : Copy) : c.words = c.after 4 (c.n / 4) (c.n % 4) := by
  fun_induction words c with
  | case1 c hle ih =>
      have hcount : c.n / 4 = (c.n - 4) / 4 + 1 := by omega
      have hleft : c.n % 4 = (c.n - 4) % 4 := by omega
      rw [ih, hcount, hleft, after_unit]
  | case2 c hlt =>
      have hcount : c.n / 4 = 0 := by omega
      rw [hcount, after_zero (by omega)]

theorem bytes_eq (c : Copy) : c.bytes = c.after 1 c.n 0 := by
  fun_induction bytes c with
  | case1 c hle ih =>
      have hcount : c.n = c.n - 1 + 1 := by omega
      rw [ih, after_unit, ← hcount]
  | case2 c hlt =>
      have hcount : c.n = 0 := by omega
      rw [hcount, after_zero hcount]

end Copy

/-- The loops copy as many units as `memcpy` says. -/
theorem memcpyLoops_eq (dest src len : Nat) (mem : Nat → UInt8) :
    memcpyLoops dest src len mem = memcpy dest src len mem := by
  unfold memcpyLoops memcpy
  simp only [Copy.bytes_eq]
  split
  · have hleft : len % 16 % 4 = len - 4 * (len / 16 * 4 + len % 16 / 4) := by omega
    rw [Copy.words_eq, Copy.fourWords_eq, Copy.after_after, ← hleft]
    rfl
  · rfl

/-- To a lower address, `memcpy` moves the bytes that were at the source before the call,
and changes nothing else. -/
theorem memcpy_moves {dest src : Nat} (h : dest ≤ src) (len : Nat) (mem : Nat → UInt8) :
    (∀ i < len, memcpyLoops dest src len mem (dest + i) = mem (src + i)) ∧
      ∀ address, address < dest ∨ dest + len ≤ address →
        memcpyLoops dest src len mem address = mem address := by
  rw [memcpyLoops_eq]
  constructor
  · intro i hi
    rw [memcpy_forward h, if_pos (by omega), Nat.add_sub_cancel_left]
  · intro address houtside
    rw [memcpy_forward h, if_neg (by omega)]

/-- The tail of a packet of 70 bytes after a read of 6 of them. -/
theorem memcpy_moves_tail :
    (∀ i < 64, memcpyLoops 0 6 64 UInt8.ofNat (0 + i) = UInt8.ofNat (6 + i)) ∧
      ∀ address, address < 0 ∨ 0 + 64 ≤ address →
        memcpyLoops 0 6 64 UInt8.ofNat address = UInt8.ofNat address :=
  memcpy_moves (by decide) 64 UInt8.ofNat

end Panda.Comms
