import Panda.Bootstub.BigEndian
import Panda.Library.BlockHash
import Panda.Library.Loop
import Mathlib.Data.List.GetD

/-!
`crypto/sha.c`: the context with the one block that it buffers, and the hash that it
ends with. `Sha1` is the hash of the standard, over the whole padded message.
-/

namespace Panda.Bootstub

open Library

/-- The words `A` to `E`. -/
structure ShaWords where
  a : UInt32
  b : UInt32
  c : UInt32
  d : UInt32
  e : UInt32
deriving DecidableEq

def ShaWords.add (v w : ShaWords) : ShaWords :=
  ⟨v.a + w.a, v.b + w.b, v.c + w.c, v.d + w.d, v.e + w.e⟩

def ShaWords.toList (w : ShaWords) : List UInt32 := [w.a, w.b, w.c, w.d, w.e]

/-! ### The code -/

/-- `SHA_CTX`, with the words of `state` that it uses. -/
structure ShaCtx where
  count : UInt64
  buf : Vector UInt8 64
  state : ShaWords

def rol (bits value : UInt32) : UInt32 := (value <<< bits) ||| (value >>> (32 - bits))

/-- The words `W` of `SHA1_Transform`. -/
def shaSchedule (buf : List UInt8) : List UInt32 :=
  (List.range' 16 64).foldl (fun W t =>
      W ++ [rol 1 (W.getD (t - 3) 0 ^^^ W.getD (t - 8) 0 ^^^ W.getD (t - 14) 0 ^^^
        W.getD (t - 16) 0)])
    ((List.range 16).map fun t => wordBig buf (4 * t))

/-- The iteration `t` of the second loop of `SHA1_Transform`. -/
def shaRound (W : List UInt32) (w : ShaWords) (t : Nat) : ShaWords :=
  let tmp := rol 5 w.a + w.e + W.getD t 0
  let tmp :=
    if t < 20 then tmp + ((w.d ^^^ (w.b &&& (w.c ^^^ w.d))) + 0x5A827999)
    else if t < 40 then tmp + ((w.b ^^^ w.c ^^^ w.d) + 0x6ED9EBA1)
    else if t < 60 then tmp + (((w.b &&& w.c) ||| (w.d &&& (w.b ||| w.c))) + 0x8F1BBCDC)
    else tmp + ((w.b ^^^ w.c ^^^ w.d) + 0xCA62C1D6)
  ⟨tmp, w.a, rol 30 w.b, w.c, w.d⟩

/-- `SHA1_Transform` -/
def sha1Transform (ctx : ShaCtx) : ShaCtx :=
  let W := shaSchedule ctx.buf.toList
  { ctx with state := ctx.state.add ((List.range 80).foldl (shaRound W) ctx.state) }

/-- `SHA_init`, which leaves the buffer as it is. -/
def shaInit (ctx : ShaCtx) : ShaCtx :=
  { ctx with
    state := ⟨0x67452301, 0xEFCDAB89, 0x98BADCFE, 0x10325476, 0xC3D2E1F0⟩
    count := 0 }

/-- The loop of `SHA_update`, with the index `i` into the buffer. -/
def shaUpdateLoop (ctx : ShaCtx) : Nat → List UInt8 → ShaCtx
  | _, [] => ctx
  | i, p :: data =>
      let ctx := { ctx with buf := ctx.buf.setIfInBounds i p }
      if i + 1 = 64 then shaUpdateLoop (sha1Transform ctx) 0 data
      else shaUpdateLoop ctx (i + 1) data

/-- `SHA_update` -/
def shaUpdate (ctx : ShaCtx) (data : List UInt8) : ShaCtx :=
  let i := (ctx.count &&& 63).toNat
  shaUpdateLoop { ctx with count := ctx.count + .ofNat data.length } i data

/-- One test of the condition of the loop in `SHA_final`, and its body. -/
def shaPadStep (ctx : ShaCtx) : ShaCtx ⊕ ShaCtx :=
  if ctx.count &&& 63 ≠ 56 then .inl (shaUpdate ctx [0]) else .inr ctx

/-- The bytes `tmp` of `SHA_final`. -/
def shaCountBytes (cnt : UInt64) : List UInt8 :=
  [(cnt >>> 56).toUInt8, (cnt >>> 48).toUInt8, (cnt >>> 40).toUInt8, (cnt >>> 32).toUInt8,
    (cnt >>> 24).toUInt8, (cnt >>> 16).toUInt8, (cnt >>> 8).toUInt8, cnt.toUInt8]

/-- `SHA_final`, which returns the buffer with the digest at its start. -/
def shaFinal (fuel : Nat) (ctx : ShaCtx) : Option (List UInt8) := do
  let cnt := ctx.count * 8
  let ctx := shaUpdate ctx [0x80]
  let ctx ← loop shaPadStep fuel ctx
  let ctx := (shaCountBytes cnt).foldl (fun ctx tmp => shaUpdate ctx [tmp]) ctx
  let digest := ctx.state.toList.flatMap bytesBig
  return digest ++ ctx.buf.toList.drop digest.length

def shaDigestSize : Nat := 20

/-- `SHA_hash`, with the context as it is on the stack. -/
def shaHash (fuel : Nat) (stack : ShaCtx) (data : List UInt8) : Option (List UInt8) := do
  let buf ← shaFinal fuel (shaUpdate (shaInit stack) data)
  return buf.take shaDigestSize

/-! ### The hash of the standard -/

namespace Sha1

def rotl (n : Nat) (x : UInt32) : UInt32 := ⟨x.toBitVec.rotateLeft n⟩

def ch (x y z : UInt32) : UInt32 := (x &&& y) ^^^ (~~~x &&& z)

def parity (x y z : UInt32) : UInt32 := x ^^^ y ^^^ z

def maj (x y z : UInt32) : UInt32 := (x &&& y) ^^^ (x &&& z) ^^^ (y &&& z)

/-- The function of round `t`. -/
def f (t : Nat) : UInt32 → UInt32 → UInt32 → UInt32 :=
  if t < 20 then ch else if t < 40 then parity else if t < 60 then maj else parity

/-- The constant of round `t`. -/
def k (t : Nat) : UInt32 :=
  if t < 20 then 0x5A827999 else if t < 40 then 0x6ED9EBA1
  else if t < 60 then 0x8F1BBCDC else 0xCA62C1D6

/-- The message schedule of a block. -/
def word (block : List UInt8) (t : Nat) : UInt32 :=
  if t < 16 then wordBig block (4 * t)
  else rotl 1 (word block (t - 3) ^^^ word block (t - 8) ^^^ word block (t - 14) ^^^
    word block (t - 16))

def round (block : List UInt8) (w : ShaWords) (t : Nat) : ShaWords :=
  ⟨rotl 5 w.a + f t w.b w.c w.d + w.e + k t + word block t, w.a, rotl 30 w.b, w.c, w.d⟩

/-- The intermediate hash value after one more block. -/
def compression : Compression UInt8 ShaWords where
  size := 64
  size_pos := by norm_num
  compress h block := h.add ((List.range 80).foldl (round block) h)

def initial : ShaWords := ⟨0x67452301, 0xEFCDAB89, 0x98BADCFE, 0x10325476, 0xC3D2E1F0⟩

/-- The length of a message in bits, in 64 bits. -/
def lengthBytes (bits : Nat) : List UInt8 :=
  (List.range 8).map fun i => .ofNat (bits / 256 ^ (7 - i))

/-- A one, the fewest zeros and the length fill the last block. -/
def pad (message : List UInt8) : List UInt8 :=
  message ++ 0x80 :: .replicate ((119 - message.length % 64) % 64) 0 ++
    lengthBytes (8 * message.length)

def hash (message : List UInt8) : List UInt8 :=
  (compression.digest initial (pad message)).toList.flatMap bytesBig

end Sha1

/-! ### One block -/

theorem rol_eq {n : Nat} (hn : n < 32) (hpos : 0 < n) (x : UInt32) :
    rol (.ofNat n) x = Sha1.rotl n x := by
  have hleft : (UInt32.ofNat n).toNat = n := by
    simp
    omega
  have hright : (32 - UInt32.ofNat n).toNat = 32 - n := by
    rw [UInt32.toNat_sub_of_le]
    · rw [hleft]
      rfl
    · rw [UInt32.le_iff_toNat_le, hleft]
      exact hn.le
  apply UInt32.toNat_inj.mp
  rw [rol, Sha1.rotl, UInt32.toNat_or, UInt32.toNat_shiftLeft, UInt32.toNat_shiftRight, hleft,
    hright, Nat.mod_eq_of_lt hn, Nat.mod_eq_of_lt (by omega : 32 - n < 32)]
  change _ = (x.toBitVec.rotateLeft n).toNat
  rw [BitVec.rotateLeft_def, Nat.mod_eq_of_lt hn, BitVec.toNat_or, BitVec.toNat_shiftLeft,
    BitVec.toNat_ushiftRight]
  rfl

theorem ch_eq (b c d : UInt32) : d ^^^ (b &&& (c ^^^ d)) = Sha1.ch b c d := by
  apply UInt32.toBitVec_inj.mp
  apply BitVec.eq_of_getLsbD_eq
  intro i hi
  simp only [Sha1.ch, UInt32.toBitVec_xor, UInt32.toBitVec_and, UInt32.toBitVec_not,
    BitVec.getLsbD_xor, BitVec.getLsbD_and, BitVec.getLsbD_not, hi, decide_true, Bool.true_and]
  cases b.toBitVec.getLsbD i <;> cases c.toBitVec.getLsbD i <;> simp

theorem maj_eq (b c d : UInt32) : (b &&& c) ||| (d &&& (b ||| c)) = Sha1.maj b c d := by
  apply UInt32.toBitVec_inj.mp
  apply BitVec.eq_of_getLsbD_eq
  intro i hi
  simp only [Sha1.maj, UInt32.toBitVec_xor, UInt32.toBitVec_and, UInt32.toBitVec_or,
    BitVec.getLsbD_xor, BitVec.getLsbD_and, BitVec.getLsbD_or]
  cases b.toBitVec.getLsbD i <;> cases c.toBitVec.getLsbD i <;>
    cases d.toBitVec.getLsbD i <;> rfl

/-- The words that the first loop and `n` iterations of the next one leave. -/
theorem shaSchedule_prefix (buf : List UInt8) (n : Nat) :
    (List.range' 16 n).foldl (fun W t =>
        W ++ [rol 1 (W.getD (t - 3) 0 ^^^ W.getD (t - 8) 0 ^^^ W.getD (t - 14) 0 ^^^
          W.getD (t - 16) 0)])
      ((List.range 16).map fun t => wordBig buf (4 * t)) =
        (List.range (16 + n)).map (Sha1.word buf) := by
  induction n with
  | zero =>
    apply List.map_congr_left
    intro t ht
    rw [Sha1.word, if_pos (List.mem_range.mp ht)]
  | succ n ih =>
    rw [List.range'_concat, List.foldl_append, ih, ← Nat.add_assoc, List.range_succ,
      List.map_append]
    simp only [List.foldl_cons, List.foldl_nil, List.map_cons, List.map_nil, Nat.one_mul]
    congr 2
    have hget : ∀ t < 16 + n, ((List.range (16 + n)).map (Sha1.word buf)).getD t 0 =
        Sha1.word buf t := by
      intro t ht
      rw [List.getD_eq_getElem _ _ (by simpa using ht)]
      simp
    rw [hget _ (by omega), hget _ (by omega), hget _ (by omega), hget _ (by omega)]
    conv_rhs => rw [Sha1.word, if_neg (by omega)]
    exact rol_eq (n := 1) (by norm_num) (by norm_num) _

theorem shaSchedule_getD (buf : List UInt8) {t : Nat} (ht : t < 80) :
    (shaSchedule buf).getD t 0 = Sha1.word buf t := by
  rw [shaSchedule, shaSchedule_prefix, List.getD_eq_getElem _ _ (by simpa using ht)]
  simp

theorem shaRound_eq (buf : List UInt8) (w : ShaWords) {t : Nat} (ht : t < 80) :
    shaRound (shaSchedule buf) w t = Sha1.round buf w t := by
  have h5 : rol 5 w.a = Sha1.rotl 5 w.a := rol_eq (n := 5) (by norm_num) (by norm_num) _
  have h30 : rol 30 w.b = Sha1.rotl 30 w.b := rol_eq (n := 30) (by norm_num) (by norm_num) _
  have hparity : w.b ^^^ w.c ^^^ w.d = Sha1.parity w.b w.c w.d := rfl
  rw [shaRound, Sha1.round, shaSchedule_getD buf ht, h5, h30, ch_eq, maj_eq, hparity, Sha1.f,
    Sha1.k]
  congr 1
  split
  · ac_rfl
  split
  · ac_rfl
  split <;> ac_rfl

theorem sha1Transform_state (ctx : ShaCtx) :
    (sha1Transform ctx).state = Sha1.compression.compress ctx.state ctx.buf.toList := by
  have hrounds : (List.range 80).foldl (shaRound (shaSchedule ctx.buf.toList)) ctx.state =
      (List.range 80).foldl (Sha1.round ctx.buf.toList) ctx.state := by
    apply List.foldl_ext
    intro w t ht
    exact shaRound_eq ctx.buf.toList w (List.mem_range.mp ht)
  rw [sha1Transform]
  simp only [hrounds]
  rfl

/-! ### The stream -/

/-- The chaining value and the buffer are those of a message. -/
structure Buffers (message : List UInt8) (ctx : ShaCtx) : Prop where
  state : ctx.state = Sha1.compression.digest Sha1.initial message
  pending : ctx.buf.toList.take (message.length % 64) = remainder 64 message

/-- The context after a message. -/
structure Holds (message : List UInt8) (ctx : ShaCtx) : Prop extends Buffers message ctx where
  count : ctx.count = .ofNat message.length

theorem index_toNat {message : List UInt8} {ctx : ShaCtx}
    (h : ctx.count = .ofNat message.length) : (ctx.count &&& 63).toNat = message.length % 64 := by
  rw [h, UInt64.toNat_and, show (63 : UInt64).toNat = 2 ^ 6 - 1 by decide,
    Nat.and_two_pow_sub_one_eq_mod, UInt64.toNat_ofNat']
  exact Nat.mod_mod_of_dvd _ (by norm_num)

theorem Buffers.store {message : List UInt8} {ctx : ShaCtx} (h : Buffers message ctx)
    (p : UInt8) :
    let stored := { ctx with buf := ctx.buf.setIfInBounds (message.length % 64) p }
    stored.buf.toList.take (message.length % 64 + 1) = remainder 64 message ++ [p] := by
  intro stored
  have hlt : message.length % 64 < 64 := Nat.mod_lt _ (by norm_num)
  have hlist : stored.buf.toList = ctx.buf.toList.set (message.length % 64) p := by
    simp [stored]
  rw [hlist, List.take_succ_eq_append_getElem (by simpa using hlt), List.getElem_set_self,
    List.take_set_of_le le_rfl, h.pending]

/-- One byte of the loop of `SHA_update`. -/
theorem Buffers.push {message : List UInt8} {ctx : ShaCtx} (h : Buffers message ctx) (p : UInt8) :
    let stored := { ctx with buf := ctx.buf.setIfInBounds (message.length % 64) p }
    if message.length % 64 + 1 = 64 then Buffers (message ++ [p]) (sha1Transform stored)
    else Buffers (message ++ [p]) stored := by
  intro stored
  have hstore := h.store p
  split
  next hfull =>
    have hrest := (blocks_snoc_complete (by norm_num) p hfull).2
    have hblock : stored.buf.toList = remainder 64 message ++ [p] := by
      rw [← hstore, hfull, List.take_of_length_le (by simp)]
    refine ⟨?_, ?_⟩
    · rw [sha1Transform_state, hblock]
      change Sha1.compression.compress ctx.state _ = _
      rw [h.state]
      exact (Sha1.compression.digest_snoc_complete _ p hfull).symm
    · have hzero : (message ++ [p]).length % 64 = 0 := by
        rw [List.length_append, List.length_singleton]
        omega
      rw [hzero, hrest, List.take_zero]
  next hroom =>
    have hrest := (blocks_snoc_pending p (by norm_num) hroom).2
    have hlength : (message ++ [p]).length % 64 = message.length % 64 + 1 := by
      rw [List.length_append, List.length_singleton]
      omega
    refine ⟨?_, ?_⟩
    · change ctx.state = _
      rw [h.state]
      exact (Sha1.compression.digest_snoc_pending _ p hroom).symm
    · rw [hlength, hrest]
      exact hstore

theorem shaUpdateLoop_buffers {message : List UInt8} {ctx : ShaCtx} (h : Buffers message ctx)
    {i : Nat} (hi : i = message.length % 64) (data : List UInt8) :
    Buffers (message ++ data) (shaUpdateLoop ctx i data) := by
  induction data generalizing message ctx i with
  | nil => simpa [shaUpdateLoop] using h
  | cons p data ih =>
    have hpush := h.push p
    rw [shaUpdateLoop, List.append_cons, hi]
    dsimp only at hpush ⊢
    split
    next hfull =>
      rw [if_pos hfull] at hpush
      apply ih hpush
      rw [List.length_append, List.length_singleton]
      omega
    next hroom =>
      rw [if_neg hroom] at hpush
      apply ih hpush
      rw [List.length_append, List.length_singleton]
      omega

theorem shaUpdateLoop_count (ctx : ShaCtx) (i : Nat) (data : List UInt8) :
    (shaUpdateLoop ctx i data).count = ctx.count := by
  induction data generalizing ctx i with
  | nil => rfl
  | cons p data ih =>
    rw [shaUpdateLoop]
    split
    · rw [ih]
      rfl
    · rw [ih]

theorem shaInit_holds (stack : ShaCtx) : Holds [] (shaInit stack) :=
  ⟨⟨rfl, rfl⟩, rfl⟩

/-- `SHA_update` appends to the message. -/
theorem Holds.update {message : List UInt8} {ctx : ShaCtx} (h : Holds message ctx)
    (data : List UInt8) : Holds (message ++ data) (shaUpdate ctx data) := by
  have hbuffers : Buffers message { ctx with count := ctx.count + .ofNat data.length } :=
    ⟨h.state, h.pending⟩
  refine ⟨shaUpdateLoop_buffers hbuffers (index_toNat h.count) data, ?_⟩
  rw [shaUpdate, shaUpdateLoop_count, h.count, List.length_append, UInt64.ofNat_add]

theorem Holds.updates {message : List UInt8} {ctx : ShaCtx} (h : Holds message ctx)
    (chunks : List (List UInt8)) :
    Holds (message ++ chunks.flatten) (chunks.foldl shaUpdate ctx) := by
  induction chunks generalizing message ctx with
  | nil => simpa using h
  | cons chunk chunks ih =>
    rw [List.flatten_cons, ← List.append_assoc]
    exact ih (h.update chunk)

/-! ### The padding -/

/-- The loop of `SHA_final` ends with the fewest zeros. -/
theorem Holds.zeros {message : List UInt8} {ctx : ShaCtx} (h : Holds message ctx) {k fuel : Nat}
    (hk : (message.length + k) % 64 = 56) (hlt : k < 64) (hfuel : k < fuel) :
    ∃ padded, loop shaPadStep fuel ctx = some padded ∧
      Holds (message ++ .replicate k 0) padded := by
  induction k generalizing message ctx fuel with
  | zero =>
    obtain ⟨fuel, rfl⟩ := Nat.exists_eq_add_of_le' hfuel
    have hexit : shaPadStep ctx = .inr ctx := by
      rw [shaPadStep, if_neg]
      rw [not_not, ← UInt64.toNat_inj, index_toNat h.count]
      simpa using hk
    exact ⟨ctx, loop_exit hexit fuel, by simpa using h⟩
  | succ k ih =>
    obtain ⟨fuel, rfl⟩ := Nat.exists_eq_add_of_le' (Nat.zero_lt_of_lt hfuel)
    have hnext : shaPadStep ctx = .inl (shaUpdate ctx [0]) := by
      rw [shaPadStep, if_pos]
      rw [Ne, ← UInt64.toNat_inj, index_toNat h.count]
      change message.length % 64 ≠ 56
      omega
    have hupdate := h.update [0]
    have hlength : ((message ++ [0]).length + k) % 64 = 56 := by
      rw [List.length_append, List.length_singleton]
      omega
    have hfuelLeft : k < fuel := Nat.lt_of_succ_lt_succ hfuel
    obtain ⟨padded, hloop, hpadded⟩ := ih hupdate hlength (Nat.lt_of_succ_lt hlt) hfuelLeft
    refine ⟨padded, ?_, ?_⟩
    · rw [loop_next hnext, hloop]
    · rw [List.replicate_succ]
      simpa using hpadded

theorem shaCountBytes_eq (length : Nat) :
    shaCountBytes (.ofNat length * 8) = Sha1.lengthBytes (8 * length) := by
  have hcount : (UInt64.ofNat length * 8).toNat = 8 * length % 2 ^ 64 := by
    rw [UInt64.toNat_mul, UInt64.toNat_ofNat', show (8 : UInt64).toNat = 8 by decide]
    omega
  generalize UInt64.ofNat length * 8 = cnt at hcount ⊢
  apply List.ext_getElem
  · simp [shaCountBytes, Sha1.lengthBytes]
  intro i hi hi'
  have hi : i < 8 := hi
  apply UInt8.toNat_inj.mp
  simp only [Sha1.lengthBytes, List.getElem_map, List.getElem_range, UInt8.toNat_ofNat']
  interval_cases i <;>
    simp [shaCountBytes, UInt64.toNat_shiftRight, Nat.shiftRight_eq_div_pow] <;> omega

/-- `SHA_final` after a message. -/
theorem shaFinal_eq {message : List UInt8} {ctx : ShaCtx} (h : Holds message ctx) {fuel : Nat}
    (hfuel : 64 ≤ fuel) :
    ∃ buf, shaFinal fuel ctx = some buf ∧ buf.take shaDigestSize = Sha1.hash message := by
  have hone := h.update [0x80]
  have hzeros : ((message ++ [0x80]).length + (119 - message.length % 64) % 64) % 64 = 56 := by
    rw [List.length_append, List.length_singleton]
    omega
  have hlt : (119 - message.length % 64) % 64 < 64 := Nat.mod_lt _ (by norm_num)
  obtain ⟨padded, hloop, hpadded⟩ := hone.zeros hzeros hlt (hlt.trans_le hfuel)
  have hlast := hpadded.updates ((shaCountBytes (ctx.count * 8)).map fun tmp => [tmp])
  have hpad : message ++ [0x80] ++ List.replicate ((119 - message.length % 64) % 64) 0 ++
      ((shaCountBytes (ctx.count * 8)).map fun tmp => [tmp]).flatten = Sha1.pad message := by
    rw [h.count, shaCountBytes_eq, ← List.flatMap_def, List.flatMap_singleton']
    simp [Sha1.pad]
  rw [List.foldl_map, hpad] at hlast
  rw [shaFinal, hloop]
  refine ⟨_, rfl, ?_⟩
  rw [List.take_append_of_le_length (by simp [ShaWords.toList, bytesBig, shaDigestSize]),
    hlast.state, Sha1.hash]
  rfl

/-- Whatever the updates are, the digest is that of all their bytes. -/
theorem sha_of_updates (stack : ShaCtx) (chunks : List (List UInt8)) (fuel : Nat) :
    (shaFinal (64 + fuel) (chunks.foldl shaUpdate (shaInit stack))).map (·.take shaDigestSize) =
      some (Sha1.hash chunks.flatten) := by
  obtain ⟨buf, hbuf, hdigest⟩ := shaFinal_eq ((shaInit_holds stack).updates chunks)
    (Nat.le_add_right 64 fuel)
  rw [hbuf, Option.map_some, hdigest]
  rfl

theorem shaHash_eq (stack : ShaCtx) (data : List UInt8) {fuel : Nat} (hfuel : 64 ≤ fuel) :
    shaHash fuel stack data = some (Sha1.hash data) := by
  obtain ⟨buf, hbuf, hdigest⟩ := shaFinal_eq ((shaInit_holds stack).update data) hfuel
  rw [shaHash, hbuf]
  simpa using hdigest

/-- The hash of "abc". -/
example : shaHash 64 ⟨5, .replicate 64 0xff, ⟨1, 2, 3, 4, 5⟩⟩ [0x61, 0x62, 0x63] =
    some [0xa9, 0x99, 0x3e, 0x36, 0x47, 0x06, 0x81, 0x6a, 0xba, 0x3e, 0x25, 0x71, 0x78, 0x50,
      0xc2, 0x6c, 0x9c, 0xd0, 0xd8, 0x9d] := by
  decide +kernel

theorem hash_length (message : List UInt8) : (Sha1.hash message).length = shaDigestSize := by
  simp [Sha1.hash, ShaWords.toList, bytesBig, shaDigestSize]

end Panda.Bootstub
