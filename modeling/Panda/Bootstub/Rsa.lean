import Panda.Bootstub.Sha
import Panda.Bootstub.SecureBoot
import Panda.Library.Montgomery

/-!
`crypto/rsa.c`: the exponentiation with Montgomery products over 32-bit words, and
`RSA_verify`. A number is an array of words, low word first; on the way in and out of
`modpow` it is big-endian bytes.
-/

namespace Panda.Bootstub.Rsa

open Comms

def rsanumwords : Nat := rsanumbytes / 4

structure RSAPublicKey where
  /-- Length of `n[]` in number of `uint32_t`. -/
  len : Int
  /-- `-1 / n[0] mod 2^32`. -/
  n0inv : UInt32
  /-- The modulus as little endian array. -/
  n : Vector UInt32 rsanumwords
  /-- `R^2` as little endian array. -/
  rr : Vector UInt32 rsanumwords
  exponent : Int

/-- The words of `n[]` that the loops up to `len` see. -/
def RSAPublicKey.words (key : RSAPublicKey) : List UInt32 := key.n.toList.take key.len.toNat

/-! ### The words -/

def subMLoop : List UInt32 → List UInt32 → Int64 → List UInt32
  | a :: as, n :: ns, A =>
      let A := (A.toUInt64 + (a.toUInt64 - n.toUInt64)).toInt64
      A.toUInt64.toUInt32 :: subMLoop as ns (A >>> 32)
  | _, _, _ => []

def subM (key : RSAPublicKey) (a : List UInt32) : List UInt32 := subMLoop a key.words 0

def geMLoop : List UInt32 → List UInt32 → Bool
  | a :: as, n :: ns => if a < n then false else if a > n then true else geMLoop as ns
  -- equal
  | _, _ => true

def geM (key : RSAPublicKey) (a : List UInt32) : Bool := geMLoop a.reverse key.words.reverse

/-- The loop of `montMulAdd`: the words `b[i]`, `c[i]` and `n[i]` from 1 on, and what is
stored in `c[i - 1]`. -/
def montMulAddLoop (a d0 : UInt32) :
    List UInt32 → List UInt32 → List UInt32 → UInt64 → UInt64 → List UInt32 × UInt64 × UInt64
  | b :: bs, c :: cs, n :: ns, A, B =>
      let A := (A >>> 32) + a.toUInt64 * b.toUInt64 + c.toUInt64
      let B := (B >>> 32) + d0.toUInt64 * n.toUInt64 + A.toUInt32.toUInt64
      let (stored, A', B') := montMulAddLoop a d0 bs cs ns A B
      (B.toUInt32 :: stored, A', B')
  | _, _, _, A, B => ([], A, B)

/-- montgomery `c[] += a * b[] / R % mod` -/
def montMulAdd (key : RSAPublicKey) (c : List UInt32) (a : UInt32) (b : List UInt32) :
    List UInt32 :=
  match b, c, key.words with
  | b0 :: bs, c0 :: cs, n0 :: ns =>
      let A := a.toUInt64 * b0.toUInt64 + c0.toUInt64
      let d0 := A.toUInt32 * key.n0inv
      let B := d0.toUInt64 * n0.toUInt64 + A.toUInt32.toUInt64
      let (stored, A, B) := montMulAddLoop a d0 bs cs ns A B
      let A := (A >>> 32) + (B >>> 32)
      let c := stored ++ [A.toUInt32]
      if A >>> 32 ≠ 0 then subM key c else c
  | _, _, _ => c

/-- montgomery `c[] = a[] * b[] / R % mod` -/
def montMul (key : RSAPublicKey) (a b : List UInt32) : List UInt32 :=
  a.foldl (fun c word => montMulAdd key c word b) (.replicate key.len.toNat 0)

/-! ### The exponentiation -/

def fromBigEndian (len : Nat) (inout : List UInt8) : List UInt32 :=
  (List.range len).map fun i => wordBig inout ((len - 1 - i) * 4)

def toBigEndian (words : List UInt32) : List UInt8 := words.reverse.flatMap bytesBig

def squareTwice (key : RSAPublicKey) (aR : List UInt32) : List UInt32 :=
  let aaR := montMul key aR aR
  montMul key aaR aaR

/-- The product `aaa` of `modpow`, which stays a null pointer for other exponents. -/
def modpowProduct (key : RSAPublicKey) (a : List UInt32) : Option (List UInt32) :=
  if key.exponent = 65537 then
    let aR := montMul key a (key.rr.toList.take key.len.toNat)
    let aR := (squareTwice key)^[8] aR
    some (montMul key aR a)
  else if key.exponent = 3 then
    let aR := montMul key a (key.rr.toList.take key.len.toNat)
    let aaR := montMul key aR aR
    some (montMul key aaR a)
  else none

def modpow (key : RSAPublicKey) (inout : List UInt8) : Option (List UInt8) := do
  let aaa ← modpowProduct key (fromBigEndian key.len.toNat inout)
  -- Make sure aaa < mod; aaa is at most 1x mod too large.
  let aaa := if geM key aaa then subM key aaa else aaa
  return toBigEndian aaa

/-! ### The verification -/

def shaPadding1024 : List UInt8 :=
  0x00 :: 0x01 :: .replicate 105 0xff ++ 0x00 :: .replicate shaDigestSize 0

/-- `RSA_verify`, with `none` for a null pointer that is read. -/
def rsaVerify (key : RSAPublicKey) (signature : List UInt8) (len : Int) (hash : List UInt8)
    (hashLen : Int) : Option Bool :=
  -- Wrong key passed in.
  if key.len ≠ rsanumwords then some false
  -- Wrong input length.
  else if len ≠ rsanumbytes then some false
  -- Unsupported hash.
  else if hashLen ≠ shaDigestSize then some false
  -- Unsupported exponent.
  else if key.exponent ≠ 3 ∧ key.exponent ≠ 65537 then some false
  else do
    let buf ← modpow key (signature.take len.toNat)
    -- Xor sha portion, so it all becomes 00 iff equal.
    let front := (len - hashLen).toNat
    let buf := buf.take front ++ List.zipWith (· ^^^ ·) (buf.drop front) (hash.take hashLen.toNat)
    return buf == shaPadding1024

/-! ### The values -/

def value (words : List UInt32) : Nat := Nat.ofDigits (2 ^ 32) (words.map UInt32.toNat)

@[simp] theorem value_nil : value [] = 0 := rfl

@[simp] theorem value_cons (word : UInt32) (words : List UInt32) :
    value (word :: words) = word.toNat + 2 ^ 32 * value words := by
  simp [value, Nat.ofDigits_cons]

theorem value_append (low high : List UInt32) :
    value (low ++ high) = value low + 2 ^ (32 * low.length) * value high := by
  simp [value, Nat.ofDigits_append, pow_mul]

theorem value_lt (words : List UInt32) : value words < 2 ^ (32 * words.length) := by
  have hdigits : ∀ d ∈ words.map UInt32.toNat, d < 2 ^ 32 := by
    intro d hd
    obtain ⟨word, -, rfl⟩ := List.mem_map.mp hd
    exact word.toNat_lt
  have hlt := Nat.ofDigits_lt_base_pow_length (by norm_num) hdigits
  simpa [value, pow_mul] using hlt

/-! ### `subM` and `geM` -/

theorem shiftRight_toInt (A : Int64) : (A >>> 32).toInt = A.toInt / 2 ^ 32 := by
  have hshift : ((32 : Int64).toBitVec.smod 64) = 32#64 := by decide
  have hbits : (A >>> 32).toBitVec = A.toBitVec.sshiftRight 32 := by
    rw [Int64.toBitVec_shiftRight, hshift]
    rfl
  rw [← Int64.toInt_toBitVec, hbits, BitVec.toInt_sshiftRight, Int.shiftRight_eq_div_pow,
    Int64.toInt_toBitVec]
  norm_num

theorem toInt_toInt64 (x : UInt64) : x.toInt64.toInt = Int.bmod x.toNat (2 ^ 64) :=
  BitVec.toInt_eq_toNat_bmod x.toBitVec

/-- The low word of an `int64_t`. -/
theorem lowWord_toNat (A : Int64) : (A.toUInt64.toUInt32.toNat : Int) = A.toInt % 2 ^ 32 := by
  have hdvd : (2 : Int) ^ 32 ∣ ((2 ^ 64 : Nat) : Int) := by norm_num
  have hlow : A.toUInt64.toUInt32.toNat = A.toUInt64.toNat % 2 ^ 32 := by simp
  have hbmod : A.toInt = Int.bmod A.toUInt64.toNat (2 ^ 64) := toInt_toInt64 A.toUInt64
  rw [hlow, hbmod, ← Int.emod_emod_of_dvd (Int.bmod _ _) hdvd, Int.bmod_emod,
    Int.emod_emod_of_dvd _ hdvd]
  norm_num

/-- The sum of one word, with a borrow of 0 or -1. -/
theorem borrow_toInt (a n : UInt32) {A : Int64} (hA : A = 0 ∨ A = -1) :
    (A.toUInt64 + (a.toUInt64 - n.toUInt64)).toInt64.toInt = A.toInt + a.toNat - n.toNat := by
  have ha := a.toNat_lt
  have hn := n.toNat_lt
  have hnat : (A.toUInt64 + (a.toUInt64 - n.toUInt64)).toNat =
      (A.toUInt64.toNat + (2 ^ 64 - n.toNat + a.toNat)) % 2 ^ 64 := by
    simp [UInt64.toNat_add, UInt64.toNat_sub]
  rw [toInt_toInt64, hnat]
  rcases hA with rfl | rfl
  · simp [Int.bmod]
    omega
  · have hbits : (-1 : Int64).toUInt64.toNat = 2 ^ 64 - 1 := by decide
    have hint : (-1 : Int64).toInt = -1 := by decide
    rw [hbits, hint]
    simp only [Int.bmod]
    omega

/-- The difference of two arrays, and the borrow that is left. -/
theorem subMLoop_value {a n : List UInt32} (hlen : a.length = n.length) {A : Int64}
    (hA : A = 0 ∨ A = -1) :
    ∃ borrow : Int, (value (subMLoop a n A) : Int) + 2 ^ (32 * a.length) * borrow =
      A.toInt + value a - value n := by
  induction a generalizing n A with
  | nil =>
    obtain rfl := List.length_eq_zero_iff.mp hlen.symm
    exact ⟨A.toInt, by simp [subMLoop]⟩
  | cons word a ih =>
    obtain ⟨mod, n, rfl⟩ := List.exists_cons_of_length_eq_add_one hlen.symm
    have hsum := borrow_toInt word mod hA
    rw [subMLoop]
    generalize (A.toUInt64 + (word.toUInt64 - mod.toUInt64)).toInt64 = A' at hsum ⊢
    have hlow := lowWord_toNat A'
    have hhigh := shiftRight_toInt A'
    have hword := word.toNat_lt
    have hmod := mod.toNat_lt
    have hAint : A.toInt = 0 ∨ A.toInt = -1 := by
      rcases hA with rfl | rfl
      · exact .inl (by decide)
      · exact .inr (by decide)
    have hborrow : A' >>> 32 = 0 ∨ A' >>> 32 = -1 := by
      rw [← Int64.toInt_inj, ← Int64.toInt_inj]
      have : (A' >>> 32).toInt = 0 ∨ (A' >>> 32).toInt = -1 := by omega
      exact this
    obtain ⟨borrow, hrest⟩ := ih (by simpa using hlen) hborrow
    refine ⟨borrow, ?_⟩
    have hdigit := Int.emod_add_mul_ediv A'.toInt (2 ^ 32)
    simp only [value_cons, List.length_cons, Nat.cast_add, Nat.cast_mul]
    push_cast
    rw [mul_add, pow_add]
    linear_combination 2 ^ 32 * hrest + hlow + 2 ^ 32 * hhigh + hdigit + hsum

theorem subMLoop_length {a n : List UInt32} (hlen : a.length = n.length) (A : Int64) :
    (subMLoop a n A).length = a.length := by
  induction a generalizing n A with
  | nil => simp [subMLoop]
  | cons word a ih =>
    obtain ⟨mod, n, rfl⟩ := List.exists_cons_of_length_eq_add_one hlen.symm
    simp [subMLoop, ih (by simpa using hlen)]

/-- A number that the words hold up to a carry, less the modulus. -/
theorem subM_value {key : RSAPublicKey} {a : List UInt32} (hlen : a.length = key.words.length)
    (carry : Nat) (hle : value key.words ≤ value a + 2 ^ (32 * a.length) * carry)
    (hlt : value a + 2 ^ (32 * a.length) * carry < 2 ^ (32 * a.length) + value key.words) :
    value (subM key a) + value key.words = value a + 2 ^ (32 * a.length) * carry := by
  obtain ⟨borrow, hvalue⟩ := subMLoop_value hlen (A := 0) (.inl rfl)
  have hlength := subMLoop_length hlen 0
  have hbound := value_lt (subMLoop a key.words 0)
  rw [hlength] at hbound
  rw [show (0 : Int64).toInt = 0 by decide] at hvalue
  rw [subM]
  obtain ⟨R, hR⟩ : ∃ R : Nat, 2 ^ (32 * a.length) = R := ⟨_, rfl⟩
  have hcast : (2 : Int) ^ (32 * a.length) = R := by
    rw [← hR]
    norm_num
  rw [hR] at hle hlt hbound ⊢
  rw [hcast] at hvalue
  have hmultiple : (R : Int) * (borrow + carry) =
      value a + R * carry - value key.words - value (subMLoop a key.words 0) := by
    linear_combination hvalue
  have hzero : borrow + carry = 0 := by
    rcases lt_trichotomy (borrow + carry) 0 with hneg | hzero | hpos
    · nlinarith
    · exact hzero
    · nlinarith
  rw [hzero, mul_zero] at hmultiple
  omega

/-- `geM` compares the numbers. -/
theorem geMLoop_iff {a n : List UInt32} (hlen : a.length = n.length) :
    geMLoop a n = true ↔ value n.reverse ≤ value a.reverse := by
  induction a generalizing n with
  | nil =>
    obtain rfl := List.length_eq_zero_iff.mp hlen.symm
    simp [geMLoop]
  | cons word a ih =>
    obtain ⟨mod, n, rfl⟩ := List.exists_cons_of_length_eq_add_one hlen.symm
    have htail : a.length = n.length := by simpa using hlen
    have ha := value_lt a.reverse
    have hn := value_lt n.reverse
    simp only [geMLoop, List.reverse_cons, value_append, value_cons, value_nil,
      List.length_reverse, htail, mul_zero, add_zero] at ha hn ⊢
    split
    next hlt =>
      have hwords : word.toNat + 1 ≤ mod.toNat := UInt32.lt_iff_toNat_lt.mp hlt
      have := Nat.mul_le_mul_left (2 ^ (32 * n.length)) hwords
      rw [Nat.mul_add, Nat.mul_one] at this
      simp only [Bool.false_eq_true, false_iff, not_le]
      omega
    next hge =>
      split
      next hgt =>
        have hwords : mod.toNat + 1 ≤ word.toNat := UInt32.lt_iff_toNat_lt.mp hgt
        have := Nat.mul_le_mul_left (2 ^ (32 * n.length)) hwords
        rw [Nat.mul_add, Nat.mul_one] at this
        simp only [true_iff]
        omega
      next hle =>
        have hequal : word.toNat = mod.toNat := by
          rw [UInt32.lt_iff_toNat_lt] at hge
          rw [gt_iff_lt, UInt32.lt_iff_toNat_lt] at hle
          omega
        rw [ih htail, hequal]
        omega

theorem geM_iff {key : RSAPublicKey} {a : List UInt32} (hlen : a.length = key.words.length) :
    geM key a = true ↔ value key.words ≤ value a := by
  have h := geMLoop_iff (a := a.reverse) (n := key.words.reverse) (by simpa using hlen)
  simpa [geM] using h

/-! ### `montMulAdd` -/

/-- A product of two words and two more words are inside 64 bits. -/
theorem mac_toNat (x : UInt64) (a b c : UInt32) :
    ((x >>> 32) + a.toUInt64 * b.toUInt64 + c.toUInt64).toNat =
      x.toNat / 2 ^ 32 + a.toNat * b.toNat + c.toNat := by
  have hx := x.toNat_lt
  have ha : a.toNat ≤ 2 ^ 32 - 1 := Nat.le_sub_one_of_lt a.toNat_lt
  have hb : b.toNat ≤ 2 ^ 32 - 1 := Nat.le_sub_one_of_lt b.toNat_lt
  have hc := c.toNat_lt
  have hprod : a.toNat * b.toNat ≤ (2 ^ 32 - 1) * (2 ^ 32 - 1) := Nat.mul_le_mul ha hb
  simp only [UInt64.toNat_add, UInt64.toNat_mul, UInt64.toNat_shiftRight, UInt32.toNat_toUInt64,
    Nat.shiftRight_eq_div_pow, UInt64.reduceToNat, Nat.reduceMod]
  rw [Nat.mod_eq_of_lt (a := a.toNat * b.toNat) (by omega), Nat.mod_add_mod, Nat.mod_eq_of_lt]
  all_goals omega

theorem montMulAddLoop_length {b c n : List UInt32} (hc : c.length = b.length)
    (hn : n.length = b.length) (a d0 : UInt32) (A B : UInt64) :
    (montMulAddLoop a d0 b c n A B).1.length = b.length := by
  induction b generalizing c n A B with
  | nil => simp [montMulAddLoop]
  | cons word b ih =>
    obtain ⟨word', c, rfl⟩ := List.exists_cons_of_length_eq_add_one hc
    obtain ⟨mod, n, rfl⟩ := List.exists_cons_of_length_eq_add_one hn
    simp [montMulAddLoop, ih (by simpa using hc) (by simpa using hn)]

/-- What the loop stores, with the two carries at the end. -/
theorem montMulAddLoop_value {b c n : List UInt32} (hc : c.length = b.length)
    (hn : n.length = b.length) (a d0 : UInt32) (A B : UInt64) :
    let r := montMulAddLoop a d0 b c n A B
    value r.1 + 2 ^ (32 * b.length) * (r.2.1.toNat / 2 ^ 32 + r.2.2.toNat / 2 ^ 32) =
      A.toNat / 2 ^ 32 + B.toNat / 2 ^ 32 + a.toNat * value b + value c + d0.toNat * value n := by
  induction b generalizing c n A B with
  | nil =>
    obtain rfl := List.length_eq_zero_iff.mp hc
    obtain rfl := List.length_eq_zero_iff.mp hn
    simp [montMulAddLoop]
  | cons word b ih =>
    obtain ⟨word', c, rfl⟩ := List.exists_cons_of_length_eq_add_one hc
    obtain ⟨mod, n, rfl⟩ := List.exists_cons_of_length_eq_add_one hn
    have hA := mac_toNat A a word word'
    rw [montMulAddLoop]
    generalize (A >>> 32) + a.toUInt64 * word.toUInt64 + word'.toUInt64 = A' at hA ⊢
    have hB := mac_toNat B d0 mod A'.toUInt32
    simp only
    generalize (B >>> 32) + d0.toUInt64 * mod.toUInt64 + A'.toUInt32.toUInt64 = B' at hB ⊢
    have hrest := ih (c := c) (n := n) (by simpa using hc) (by simpa using hn) A' B'
    simp only [UInt64.toNat_toUInt32] at hB
    simp only [value_cons, List.length_cons, UInt64.toNat_toUInt32]
    generalize montMulAddLoop a d0 b c n A' B' = r at hrest ⊢
    have hsplitA := Nat.mod_add_div A'.toNat (2 ^ 32)
    have hsplitB := Nat.mod_add_div B'.toNat (2 ^ 32)
    calc B'.toNat % 2 ^ 32 + 2 ^ 32 * value r.1 +
          2 ^ (32 * (b.length + 1)) * (r.2.1.toNat / 2 ^ 32 + r.2.2.toNat / 2 ^ 32)
        = B'.toNat % 2 ^ 32 + 2 ^ 32 * (value r.1 +
            2 ^ (32 * b.length) * (r.2.1.toNat / 2 ^ 32 + r.2.2.toNat / 2 ^ 32)) := by ring
      _ = (B'.toNat % 2 ^ 32 + 2 ^ 32 * (B'.toNat / 2 ^ 32)) + 2 ^ 32 * (A'.toNat / 2 ^ 32) +
            2 ^ 32 * (a.toNat * value b + value c + d0.toNat * value n) := by rw [hrest]; ring
      _ = B.toNat / 2 ^ 32 + d0.toNat * mod.toNat +
            (A'.toNat % 2 ^ 32 + 2 ^ 32 * (A'.toNat / 2 ^ 32)) +
            2 ^ 32 * (a.toNat * value b + value c + d0.toNat * value n) := by
          rw [hsplitB, hB]; ring
      _ = A.toNat / 2 ^ 32 + B.toNat / 2 ^ 32 + a.toNat * (word.toNat + 2 ^ 32 * value b) +
            (word'.toNat + 2 ^ 32 * value c) + d0.toNat * (mod.toNat + 2 ^ 32 * value n) := by
          rw [hsplitA, hA]; ring

/-- `R`, which is above every array of words. -/
def radix : Nat := 2 ^ (32 * rsanumwords)

theorem two_pow_words : 2 ^ (32 * rsanumwords) = radix := rfl

/-- A key for the modulus `N`, with its constants as they have to be. -/
structure KeyOf (N : Nat) (key : RSAPublicKey) : Prop where
  len : key.len = rsanumwords
  modulus : value key.n.toList = N
  size : radix ≤ 2 * N
  inverse : (key.n0inv.toNat * N + 1) % 2 ^ 32 = 0
  square : value key.rr.toList ≡ radix ^ 2 [MOD N]

section Key

open Library.Montgomery

variable {N : Nat} {key : RSAPublicKey}

theorem KeyOf.words_eq (hkey : KeyOf N key) : key.words = key.n.toList := by
  rw [RSAPublicKey.words, hkey.len]
  apply List.take_of_length_le
  simp

theorem KeyOf.words_length (hkey : KeyOf N key) : key.words.length = rsanumwords := by
  rw [hkey.words_eq, Vector.length_toList]

theorem KeyOf.value_words (hkey : KeyOf N key) : value key.words = N := by
  rw [hkey.words_eq, hkey.modulus]

theorem KeyOf.lt (hkey : KeyOf N key) : N < radix := by
  have h := value_lt key.words
  rwa [hkey.words_length, hkey.value_words] at h

theorem KeyOf.coprime (hkey : KeyOf N key) : Nat.Coprime N radix :=
  coprime_two_pow (by norm_num) hkey.inverse rfl

theorem product_toNat (a b c : UInt32) :
    (a.toUInt64 * b.toUInt64 + c.toUInt64).toNat = a.toNat * b.toNat + c.toNat := by
  have h := mac_toNat 0 a b c
  simpa using h

/-- The sum that a row leaves, before the modulus is subtracted. -/
theorem row_value (a b0 c0 : UInt32) {n0inv n0 : UInt32} {b c n : List UInt32}
    (hc : c.length = b.length)
    (hn : n.length = b.length) (hinv : (n0inv.toNat * n0.toNat + 1) % 2 ^ 32 = 0) :
    let A := a.toUInt64 * b0.toUInt64 + c0.toUInt64
    let d0 := A.toUInt32 * n0inv
    let B := d0.toUInt64 * n0.toUInt64 + A.toUInt32.toUInt64
    let r := montMulAddLoop a d0 b c n A B
    let top := (r.2.1 >>> 32) + (r.2.2 >>> 32)
    (value (r.1 ++ [top.toUInt32]) + 2 ^ (32 * (b.length + 1)) * (top >>> 32).toNat) * 2 ^ 32 =
      value (c0 :: c) + a.toNat * value (b0 :: b) + d0.toNat * value (n0 :: n) := by
  intro A d0 B r top
  have hA : A.toNat = a.toNat * b0.toNat + c0.toNat := product_toNat a b0 c0
  have hB : B.toNat = d0.toNat * n0.toNat + A.toNat % 2 ^ 32 := by
    rw [← UInt64.toNat_toUInt32]
    exact product_toNat d0 n0 A.toUInt32
  have hd0 : d0.toNat = A.toNat % 2 ^ 32 * n0inv.toNat % 2 ^ 32 := by
    rw [← UInt64.toNat_toUInt32]
    exact UInt32.toNat_mul _ _
  have hclear : B.toNat % 2 ^ 32 = 0 := by
    rw [hB, hd0]
    exact clears_low_digit hinv _
  have hloop := montMulAddLoop_value hc hn a d0 A B
  have hlength : r.1.length = b.length := montMulAddLoop_length hc hn a d0 A B
  have htop : top.toNat = r.2.1.toNat / 2 ^ 32 + r.2.2.toNat / 2 ^ 32 := by
    have h1 := r.2.1.toNat_lt
    have h2 := r.2.2.toNat_lt
    simp only [top, UInt64.toNat_add, UInt64.toNat_shiftRight, Nat.shiftRight_eq_div_pow,
      UInt64.reduceToNat, Nat.reduceMod]
    omega
  have hcarry : (top >>> 32).toNat = top.toNat / 2 ^ 32 := by
    simp [UInt64.toNat_shiftRight, Nat.shiftRight_eq_div_pow]
  have hsplitA := Nat.mod_add_div A.toNat (2 ^ 32)
  have hsplitB := Nat.mod_add_div B.toNat (2 ^ 32)
  have hsplit := Nat.mod_add_div top.toNat (2 ^ 32)
  rw [value_append, value_cons, value_nil, hlength, hcarry, UInt64.toNat_toUInt32]
  simp only [value_cons]
  calc (value r.1 + 2 ^ (32 * b.length) * (top.toNat % 2 ^ 32 + 2 ^ 32 * 0) +
        2 ^ (32 * (b.length + 1)) * (top.toNat / 2 ^ 32)) * 2 ^ 32
      = (value r.1 + 2 ^ (32 * b.length) *
          (top.toNat % 2 ^ 32 + 2 ^ 32 * (top.toNat / 2 ^ 32))) * 2 ^ 32 := by ring
    _ = (A.toNat / 2 ^ 32 + B.toNat / 2 ^ 32 + a.toNat * value b + value c +
          d0.toNat * value n) * 2 ^ 32 := by rw [hsplit, htop, hloop]
    _ = 2 ^ 32 * (A.toNat / 2 ^ 32) + (B.toNat % 2 ^ 32 + 2 ^ 32 * (B.toNat / 2 ^ 32)) +
          2 ^ 32 * (a.toNat * value b + value c + d0.toNat * value n) := by rw [hclear]; ring
    _ = (A.toNat % 2 ^ 32 + 2 ^ 32 * (A.toNat / 2 ^ 32)) + d0.toNat * n0.toNat +
          2 ^ 32 * (a.toNat * value b + value c + d0.toNat * value n) := by
        rw [hsplitB, hB]; ring
    _ = c0.toNat + 2 ^ 32 * value c + a.toNat * (b0.toNat + 2 ^ 32 * value b) +
          d0.toNat * (n0.toNat + 2 ^ 32 * value n) := by rw [hsplitA, hA]; ring

/-- One row is a multiple of the modulus away from the sum that it divides. -/
theorem montMulAdd_spec (hkey : KeyOf N key) {b c : List UInt32} (hb : b.length = rsanumwords)
    (hc : c.length = rsanumwords) (a : UInt32) :
    (montMulAdd key c a b).length = rsanumwords ∧
      value (montMulAdd key c a b) * 2 ^ 32 ≡ value c + a.toNat * value b [MOD N] := by
  have hwords := hkey.words_length
  have hN := hkey.value_words
  have hinverse := hkey.inverse
  have hblt := value_lt b
  have hclt := value_lt c
  rw [hb] at hblt
  rw [hc] at hclt
  obtain ⟨b0, bs, rfl⟩ := List.exists_cons_of_length_eq_add_one (n := 31) hb
  obtain ⟨c0, cs, rfl⟩ := List.exists_cons_of_length_eq_add_one (n := 31) hc
  obtain ⟨n0, ns, hcons⟩ := List.exists_cons_of_length_eq_add_one (n := 31) hwords
  have hcs : cs.length = bs.length := Nat.succ.inj (hc.trans hb.symm)
  have hns : ns.length = bs.length := by
    rw [hcons] at hwords
    exact Nat.succ.inj (hwords.trans hb.symm)
  have hinv : (key.n0inv.toNat * n0.toNat + 1) % 2 ^ 32 = 0 := by
    rw [← hN, hcons, value_cons] at hinverse
    rw [← hinverse, mul_add, ← mul_assoc, mul_comm key.n0inv.toNat (2 ^ 32), mul_assoc,
      add_right_comm, Nat.add_mul_mod_self_left]
  have hrow := row_value a b0 c0 hcs hns hinv
  unfold montMulAdd
  rw [hcons]
  simp only at hrow ⊢
  generalize (a.toUInt64 * b0.toUInt64 + c0.toUInt64).toUInt32 * key.n0inv = d0 at hrow ⊢
  generalize hr : montMulAddLoop a d0 bs cs ns _ _ = r at hrow ⊢
  have hstored : r.1.length = bs.length := by
    rw [← hr]
    exact montMulAddLoop_length hcs hns _ _ _ _
  rw [← hcons, hN] at hrow
  generalize (r.2.1 >>> 32) + (r.2.2 >>> 32) = top at hrow ⊢
  have hlength : (r.1 ++ [top.toUInt32]).length = rsanumwords := by
    rw [List.length_append, hstored]
    exact hb
  have hradix : 2 ^ (32 * (bs.length + 1)) = radix := congrArg (fun k => 2 ^ (32 * k)) hb
  rw [hradix] at hrow
  have hlt := row_lt (R := radix) hrow hclt hblt a.toNat_lt d0.toNat_lt
  have hvalue := value_lt (r.1 ++ [top.toUInt32])
  rw [hlength] at hvalue
  have hmod : (value (r.1 ++ [top.toUInt32]) + radix * (top >>> 32).toNat) * 2 ^ 32 ≡
      value (c0 :: cs) + a.toNat * value (b0 :: bs) [MOD N] := by
    rw [hrow, Nat.ModEq, Nat.add_mul_mod_self_right]
  split
  next hcarry =>
    have hpos : 1 ≤ (top >>> 32).toNat := by
      rw [Nat.one_le_iff_ne_zero, Ne, ← UInt64.toNat_zero, UInt64.toNat_inj]
      exact hcarry
    have hover : radix ≤ radix * (top >>> 32).toNat := Nat.le_mul_of_pos_right radix hpos
    have hle := hkey.lt.le
    have hsub := subM_value (hlength.trans hwords.symm) (top >>> 32).toNat
      (by rw [hlength, hN]; exact (hle.trans hover).trans (Nat.le_add_left _ _))
      (by rw [hlength, hN]; exact hlt)
    rw [hlength, hN, two_pow_words] at hsub
    refine ⟨?_, ?_⟩
    · rw [subM, subMLoop_length (by rw [hlength, hwords]), hlength]
    · rw [← hsub] at hmod
      refine Nat.ModEq.trans ?_ hmod
      rw [add_mul, Nat.ModEq, Nat.add_mul_mod_self_left]
  next hcarry =>
    have hzero : (top >>> 32).toNat = 0 := by
      rw [← UInt64.toNat_zero, UInt64.toNat_inj]
      simpa using hcarry
    rw [hzero, Nat.mul_zero, Nat.add_zero] at hmod
    exact ⟨hlength, hmod⟩

theorem montMul_spec (hkey : KeyOf N key) {a b : List UInt32} (ha : a.length = rsanumwords)
    (hb : b.length = rsanumwords) :
    (montMul key a b).length = rsanumwords ∧
      IsProduct N radix (value (montMul key a b)) (value a) (value b) := by
  have hstart : (List.replicate key.len.toNat (0 : UInt32)).length = rsanumwords := by
    rw [List.length_replicate, hkey.len, Int.toNat_natCast]
  have hzero : value (List.replicate key.len.toNat 0) = 0 := by
    simp [value, Nat.ofDigits_replicate_zero]
  have h := value_accumulate (I := fun c => c.length = rsanumwords) value UInt32.toNat
    (fun c word hc => montMulAdd_spec hkey hb hc word) a _ hstart
  rw [hzero, zero_add, ha, ← pow_mul, two_pow_words] at h
  exact h

/-! ### The bytes -/

theorem fromBigEndian_value {len : Nat} {bytes : List UInt8} (h : bytes.length = 4 * len) :
    value (fromBigEndian len bytes) = fromBytes bytes := by
  induction len generalizing bytes with
  | zero =>
    obtain rfl := List.length_eq_zero_iff.mp h
    rfl
  | succ len ih =>
    obtain ⟨b0, bytes, rfl⟩ := List.exists_cons_of_length_eq_add_one (n := 4 * len + 3) h
    obtain ⟨b1, bytes, rfl⟩ := List.exists_cons_of_length_eq_add_one (n := 4 * len + 2)
      (Nat.succ.inj h)
    obtain ⟨b2, bytes, rfl⟩ := List.exists_cons_of_length_eq_add_one (n := 4 * len + 1)
      (Nat.succ.inj (Nat.succ.inj h))
    obtain ⟨b3, bytes, rfl⟩ := List.exists_cons_of_length_eq_add_one (n := 4 * len)
      (Nat.succ.inj (Nat.succ.inj (Nat.succ.inj h)))
    have hrest : bytes.length = 4 * len := by
      simp only [List.length_cons] at h
      omega
    have hlow : (List.range len).map (fun i =>
        wordBig (b0 :: b1 :: b2 :: b3 :: bytes) ((len + 1 - 1 - i) * 4)) =
          fromBigEndian len bytes := by
      apply List.map_congr_left
      intro i hi
      have hi : i < len := List.mem_range.mp hi
      rw [show (len + 1 - 1 - i) * 4 = (len - 1 - i) * 4 + 4 by omega, wordBig_cons]
    have hlength : (fromBigEndian len bytes).length = len := by simp [fromBigEndian]
    have hfirst : (wordBig (b0 :: b1 :: b2 :: b3 :: bytes) 0).toNat =
        fromBytes [b0, b1, b2, b3] := or_toNat b0 b1 b2 b3
    rw [fromBigEndian, List.range_succ, List.map_append, hlow, List.map_singleton, value_append,
      hlength, ih hrest, value_cons, value_nil]
    simp only [Nat.add_sub_cancel, Nat.sub_self, Nat.zero_mul, hfirst]
    have happend := fromBytes_append [b0, b1, b2, b3] bytes
    rw [hrest, pow_mul] at happend
    rw [pow_mul]
    exact happend.symm

theorem toBigEndian_value (words : List UInt32) :
    fromBytes (toBigEndian words) = value words := by
  induction words with
  | nil => rfl
  | cons word words ih =>
    rw [toBigEndian] at ih
    rw [toBigEndian, List.reverse_cons, List.flatMap_append, fromBytes_append, ih,
      List.flatMap_singleton, bytesBig_value, value_cons,
      show (bytesBig word).length = 4 by rfl]
    norm_num

theorem toBigEndian_length (words : List UInt32) :
    (toBigEndian words).length = 4 * words.length := by
  simp [toBigEndian, bytesBig, List.length_flatMap, mul_comm]

/-! ### The exponentiation -/

theorem squareTwice_spec (hkey : KeyOf N key) (aR : List UInt32) (u : Nat)
    (hlen : aR.length = rsanumwords) (hform : Represents N radix (value aR) u) :
    (squareTwice key aR).length = rsanumwords ∧
      Represents N radix (value (squareTwice key aR)) (u ^ 4) := by
  obtain ⟨hlen1, hprod1⟩ := montMul_spec hkey hlen hlen
  have hsquare := hform.mul hkey.coprime hform hprod1
  obtain ⟨hlen2, hprod2⟩ := montMul_spec hkey hlen1 hlen1
  have hfourth := hsquare.mul hkey.coprime hsquare hprod2
  rw [show u * u * (u * u) = u ^ 4 by ring] at hfourth
  exact ⟨hlen2, hfourth⟩

theorem modpowProduct_spec (hkey : KeyOf N key)
    (hexp : key.exponent = 3 ∨ key.exponent = 65537) {a : List UInt32}
    (ha : a.length = rsanumwords) :
    ∃ aaa, modpowProduct key a = some aaa ∧ aaa.length = rsanumwords ∧
      value aaa ≡ value a ^ key.exponent.toNat [MOD N] := by
  have hrr : key.rr.toList.take key.len.toNat = key.rr.toList := by
    rw [hkey.len]
    apply List.take_of_length_le
    simp
  have hrrlen : key.rr.toList.length = rsanumwords := Vector.length_toList
  obtain ⟨henter, hprod⟩ := montMul_spec hkey ha hrrlen
  have hform := represents_of_product hkey.coprime hkey.square hprod
  rw [modpowProduct, hrr]
  rcases hexp with hexp | hexp
  · rw [if_neg (by omega), if_pos hexp, hexp]
    obtain ⟨hlen2, hprod2⟩ := montMul_spec hkey henter henter
    have hsquare := hform.mul hkey.coprime hform hprod2
    obtain ⟨hlen3, hprod3⟩ := montMul_spec hkey hlen2 ha
    have hcube := hsquare.leave hkey.coprime hprod3
    refine ⟨_, rfl, hlen3, hcube.trans ?_⟩
    rw [show value a * value a * value a = value a ^ 3 by ring]
    exact Nat.ModEq.refl _
  · rw [if_pos hexp, hexp]
    obtain ⟨hlen2, hpow⟩ := Represents.iterate (I := fun c => c.length = rsanumwords) value
      (squareTwice_spec hkey) 8 _ _ henter hform
    obtain ⟨hlen3, hprod3⟩ := montMul_spec hkey hlen2 ha
    have hlast := hpow.leave hkey.coprime hprod3
    refine ⟨_, rfl, hlen3, hlast.trans ?_⟩
    rw [← pow_succ]
    exact Nat.ModEq.refl _

/-- `modpow` is the power modulo `N`, on bytes. -/
theorem modpow_spec (hkey : KeyOf N key) (hexp : key.exponent = 3 ∨ key.exponent = 65537)
    {inout : List UInt8} (hlen : inout.length = rsanumbytes) :
    ∃ out, modpow key inout = some out ∧ out.length = rsanumbytes ∧
      fromBytes out = fromBytes inout ^ key.exponent.toNat % N := by
  have hwords : key.len.toNat = rsanumwords := by rw [hkey.len, Int.toNat_natCast]
  have hin : (fromBigEndian rsanumwords inout).length = rsanumwords := by simp [fromBigEndian]
  obtain ⟨aaa, hproduct, haaa, hpower⟩ := modpowProduct_spec hkey hexp hin
  rw [fromBigEndian_value hlen] at hpower
  have hlt := value_lt aaa
  rw [haaa, two_pow_words] at hlt
  have hsize := hkey.size
  have hge := geM_iff (haaa.trans hkey.words_length.symm)
  rw [hkey.value_words] at hge
  rw [← hpower, modpow, hwords, hproduct]
  refine ⟨_, rfl, ?_, ?_⟩
  · rw [toBigEndian_length]
    split
    · rw [subM, subMLoop_length (haaa.trans hkey.words_length.symm), haaa]
      rfl
    · rw [haaa]
      rfl
  · rw [toBigEndian_value]
    split
    next hle =>
      have hN := hge.mp hle
      have hsub := subM_value (haaa.trans hkey.words_length.symm) 0
        (by rw [hkey.value_words]; omega)
        (by rw [haaa, two_pow_words, hkey.value_words]; omega)
      rw [hkey.value_words, Nat.mul_zero, Nat.add_zero] at hsub
      rw [Nat.mod_eq_sub_mod hN, Nat.mod_eq_of_lt (by omega)]
      omega
    next hnot =>
      rw [hge, not_le] at hnot
      rw [Nat.mod_eq_of_lt hnot]

end Key

/-! ### The verification -/

/-- The encoded message that a signature of a hash has to give. -/
def encodedMessage (hash : List UInt8) : List UInt8 :=
  0x00 :: 0x01 :: .replicate 105 0xff ++ 0x00 :: hash

theorem xor_eq_zero_iff {xs ys : List UInt8} (hlen : xs.length = ys.length) :
    List.zipWith (· ^^^ ·) xs ys = .replicate ys.length 0 ↔ xs = ys := by
  induction xs generalizing ys with
  | nil =>
    obtain rfl := List.length_eq_zero_iff.mp hlen.symm
    simp
  | cons x xs ih =>
    obtain ⟨y, ys, rfl⟩ := List.exists_cons_of_length_eq_add_one hlen.symm
    have htail := ih (Nat.succ.inj hlen)
    rw [List.zipWith_cons_cons, List.length_cons, List.replicate_succ, List.cons_eq_cons, htail,
      List.cons_eq_cons, UInt8.xor_eq_zero_iff]

/-- The comparison with the padding, after the hash is taken out of the buffer. -/
theorem padding_iff {buf hash : List UInt8} (hbuf : buf.length = rsanumbytes)
    (hhash : hash.length = shaDigestSize) :
    buf.take 108 ++ List.zipWith (· ^^^ ·) (buf.drop 108) hash = shaPadding1024 ↔
      buf = encodedMessage hash := by
  have hdrop : (buf.drop 108).length = hash.length := by
    rw [List.length_drop, hbuf, hhash]
    rfl
  have hpadding : shaPadding1024 =
      (0x00 :: 0x01 :: .replicate 105 0xff ++ [0x00]) ++ .replicate hash.length 0 := by
    rw [hhash]
    simp [shaPadding1024]
  have hmessage : encodedMessage hash =
      (0x00 :: 0x01 :: .replicate 105 0xff ++ [0x00]) ++ hash := by
    simp [encodedMessage]
  have htake : (buf.take 108).length =
      (0x00 :: 0x01 :: .replicate 105 0xff ++ [0x00] : List UInt8).length := by
    rw [List.length_take, hbuf]
    rfl
  rw [hpadding, hmessage]
  constructor
  · intro h
    obtain ⟨hfront, hback⟩ := List.append_inj h htake
    rw [← List.take_append_drop 108 buf, hfront, (xor_eq_zero_iff hdrop).mp hback]
  · intro h
    have hsplit : buf.take 108 ++ buf.drop 108 =
        (0x00 :: 0x01 :: .replicate 105 0xff ++ [0x00]) ++ hash := by
      rw [List.take_append_drop, h]
    obtain ⟨hfront, hback⟩ := List.append_inj hsplit htake
    rw [hfront, (xor_eq_zero_iff hdrop).mpr hback]

theorem encodedMessage_length {hash : List UInt8} (hhash : hash.length = shaDigestSize) :
    (encodedMessage hash).length = rsanumbytes := by
  simp [encodedMessage, hhash, shaDigestSize, rsanumbytes]

def Supported (exponent : Int) : Prop := exponent = 3 ∨ exponent = 65537

/-- `RSA_verify` looks at the number of a signature and never reads a null pointer. -/
theorem rsaVerify_spec {N : Nat} {key : RSAPublicKey} (hkey : KeyOf N key)
    {signature hash : List UInt8} (hsignature : signature.length = rsanumbytes)
    (hhash : hash.length = shaDigestSize) :
    ∃ accepted, rsaVerify key signature rsanumbytes hash shaDigestSize = some accepted ∧
      (accepted = true ↔ Supported key.exponent ∧
        fromBytes signature ^ key.exponent.toNat % N = fromBytes (encodedMessage hash)) := by
  rw [rsaVerify, if_neg (by simp [hkey.len]), if_neg (by simp), if_neg (by simp)]
  split
  next hexp =>
    refine ⟨false, rfl, ?_⟩
    simp only [Bool.false_eq_true, false_iff, Supported]
    rintro ⟨h, -⟩
    omega
  next hexp =>
    have hsupported : Supported key.exponent := by
      rw [Supported]
      omega
    obtain ⟨out, hout, hlen, hvalue⟩ := modpow_spec hkey hsupported hsignature
    have hall : signature.take ((rsanumbytes : Int)).toNat = signature := by
      apply List.take_of_length_le
      simp [hsignature]
    have hhashall : hash.take ((shaDigestSize : Int)).toNat = hash := by
      apply List.take_of_length_le
      simp [hhash]
    rw [hall, hhashall, hout]
    refine ⟨_, rfl, ?_⟩
    have hfront : ((rsanumbytes : Int) - (shaDigestSize : Int)).toNat = 108 := by decide
    rw [hfront, beq_iff_eq, padding_iff hlen hhash, ← hvalue]
    constructor
    · rintro rfl
      exact ⟨hsupported, rfl⟩
    · rintro ⟨-, h⟩
      exact fromBytes_inj (hlen.trans (encodedMessage_length hhash).symm) h

end Panda.Bootstub.Rsa
