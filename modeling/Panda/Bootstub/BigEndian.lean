import Mathlib.Data.Nat.Digits.Lemmas
import Mathlib.Tactic

/-!
Words and numbers in big-endian bytes, as `crypto/rsa.c` and `crypto/sha.c` read and
write them.
-/

namespace Panda.Bootstub

/-- The word at four big-endian bytes. -/
def wordBig (bytes : List UInt8) (start : Nat) : UInt32 :=
  (bytes.getD start 0).toUInt32 <<< 24 ||| (bytes.getD (start + 1) 0).toUInt32 <<< 16 |||
    (bytes.getD (start + 2) 0).toUInt32 <<< 8 ||| (bytes.getD (start + 3) 0).toUInt32

/-- The big-endian bytes of a word. -/
def bytesBig (word : UInt32) : List UInt8 :=
  [(word >>> 24).toUInt8, (word >>> 16).toUInt8, (word >>> 8).toUInt8, word.toUInt8]

/-- The number of big-endian bytes. -/
def fromBytes (bytes : List UInt8) : Nat := Nat.ofDigits 256 (bytes.reverse.map UInt8.toNat)

theorem fromBytes_append (high low : List UInt8) :
    fromBytes (high ++ low) = fromBytes low + 256 ^ low.length * fromBytes high := by
  simp [fromBytes, Nat.ofDigits_append]

theorem toNat_lt_of_mem {bytes : List UInt8} {d : Nat} (hd : d ∈ bytes.reverse.map UInt8.toNat) :
    d < 256 := by
  obtain ⟨byte, -, rfl⟩ := List.mem_map.mp hd
  exact byte.toNat_lt

theorem fromBytes_lt (bytes : List UInt8) : fromBytes bytes < 256 ^ bytes.length := by
  have hlt : fromBytes bytes < 256 ^ (bytes.reverse.map UInt8.toNat).length :=
    Nat.ofDigits_lt_base_pow_length (by norm_num) (fun d => toNat_lt_of_mem)
  simpa using hlt

theorem fromBytes_inj {xs ys : List UInt8} (hlen : xs.length = ys.length)
    (h : fromBytes xs = fromBytes ys) : xs = ys := by
  have hmap : xs.reverse.map UInt8.toNat = ys.reverse.map UInt8.toNat :=
    Nat.ofDigits_inj_of_len_eq (by norm_num) (by simpa using hlen)
      (fun d => toNat_lt_of_mem) (fun d => toNat_lt_of_mem) h
  have hinj : Function.Injective UInt8.toNat := fun x y => UInt8.toNat_inj.mp
  exact List.reverse_injective (hinj.list_map hmap)

theorem or_toNat (b0 b1 b2 b3 : UInt8) :
    (b0.toUInt32 <<< 24 ||| b1.toUInt32 <<< 16 ||| b2.toUInt32 <<< 8 ||| b3.toUInt32).toNat =
      fromBytes [b0, b1, b2, b3] := by
  have h0 := b0.toNat_lt
  have h1 := b1.toNat_lt
  have h2 := b2.toNat_lt
  have h3 := b3.toNat_lt
  have hor1 := Nat.two_pow_add_eq_or_of_lt (i := 24) (b := 2 ^ 16 * b1.toNat) (by omega) b0.toNat
  have hor2 := Nat.two_pow_add_eq_or_of_lt (i := 16) (b := 2 ^ 8 * b2.toNat) (by omega)
    (2 ^ 8 * b0.toNat + b1.toNat)
  have hor3 := Nat.two_pow_add_eq_or_of_lt (i := 8) (b := b3.toNat) (by omega)
    (2 ^ 16 * b0.toNat + 2 ^ 8 * b1.toNat + b2.toNat)
  simp only [UInt32.toNat_or, UInt32.toNat_shiftLeft, UInt8.toNat_toUInt32, Nat.shiftLeft_eq,
    UInt32.reduceToNat, Nat.reduceMod]
  rw [Nat.mod_eq_of_lt (a := b0.toNat * 2 ^ 24) (by omega),
    Nat.mod_eq_of_lt (a := b1.toNat * 2 ^ 16) (by omega),
    Nat.mod_eq_of_lt (a := b2.toNat * 2 ^ 8) (by omega)]
  have hvalue : fromBytes [b0, b1, b2, b3] =
      2 ^ 24 * b0.toNat + 2 ^ 16 * b1.toNat + 2 ^ 8 * b2.toNat + b3.toNat := by
    simp [fromBytes, Nat.ofDigits_cons]
    omega
  rw [mul_comm b0.toNat, mul_comm b1.toNat, mul_comm b2.toNat, ← hor1, hvalue]
  rw [show 2 ^ 24 * b0.toNat + 2 ^ 16 * b1.toNat = 2 ^ 16 * (2 ^ 8 * b0.toNat + b1.toNat) by ring,
    ← hor2,
    show 2 ^ 16 * (2 ^ 8 * b0.toNat + b1.toNat) + 2 ^ 8 * b2.toNat =
      2 ^ 8 * (2 ^ 16 * b0.toNat + 2 ^ 8 * b1.toNat + b2.toNat) by ring, ← hor3]

theorem wordBig_cons (b0 b1 b2 b3 : UInt8) (bytes : List UInt8) (start : Nat) :
    wordBig (b0 :: b1 :: b2 :: b3 :: bytes) (start + 4) = wordBig bytes start := by
  simp [wordBig]

theorem bytesBig_value (word : UInt32) : fromBytes (bytesBig word) = word.toNat := by
  have h := word.toNat_lt
  simp only [fromBytes, bytesBig, List.reverse_cons, List.reverse_nil, List.nil_append,
    List.cons_append, List.map_cons, List.map_nil, Nat.ofDigits_cons, Nat.ofDigits_nil,
    UInt32.toNat_toUInt8, UInt32.toNat_shiftRight, Nat.shiftRight_eq_div_pow,
    UInt32.reduceToNat, Nat.reduceMod]
  omega

end Panda.Bootstub
