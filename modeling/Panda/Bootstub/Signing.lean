import Panda.Bootstub.Rsa
import Panda.Library.TextbookRsa
import Mathlib.Data.Nat.Size

/-!
What the build makes for the bootstub: the constants of a key in `SConscript`, and the
signed image of `crypto/sign.py`. The bootstub starts what was signed, and what it
starts carries a signature in the sense of the mathematics.
-/

namespace Panda.Bootstub

open Library Rsa

/-! ### `SConscript` -/

def toCUint32Loop : (k : Nat) → Nat → Vector UInt32 k
  | 0, _ => #v[]
  | k + 1, x =>
      ⟨(.ofNat (x % 2 ^ 32) :: (toCUint32Loop k (x / 2 ^ 32)).toList).toArray, by simp⟩

def toCUint32 (x : Nat) : Vector UInt32 rsanumwords := toCUint32Loop rsanumwords x

/-- `pow(x, -1, m)`, which raises when there is no inverse. -/
def powInv (x m : Nat) : Option Nat :=
  if x.Coprime m then some (x.gcdA m % m).toNat else none

/-- `get_key_header` for the numbers of a public key. -/
def getKeyHeader (n e : Nat) : Option RSAPublicKey := do
  -- assert(rsa.size_in_bits() == 1024)
  if n.size ≠ 1024 then none
  let rr := (2 ^ 1024) ^ 2 % n
  let n0inv := 2 ^ 32 - (← powInv n (2 ^ 32))
  return {
    len := 0x20
    n0inv := .ofNat n0inv
    n := toCUint32 n
    rr := toCUint32 rr
    exponent := e }

/-! ### `sign.py` -/

def version : Nat := 2

/-- `struct.pack("I", x)`, which raises for a larger number. -/
def packI (x : Nat) : Option (List UInt8) :=
  if x < 2 ^ 32 then
    some [.ofNat x, .ofNat (x / 2 ^ 8), .ofNat (x / 2 ^ 16), .ofNat (x / 2 ^ 24)]
  else none

/-- `hex(x)[2:]`, with the digits for their characters. -/
def hexDigits (x : Nat) : List Nat := (Nat.digits 16 x).reverse

def rjust (width : Nat) (digits : List Nat) : List Nat :=
  .replicate (width - digits.length) 0 ++ digits

/-- `binascii.unhexlify`, which raises for an odd number of digits. -/
def unhexlify : List Nat → Option (List UInt8)
  | [] => some []
  | [_] => none
  | high :: low :: digits => do return .ofNat (16 * high + low) :: (← unhexlify digits)

def versBytes : List UInt8 := [0x56, 0x45, 0x52, 0x53]

/-- The file without its signature, and the hash that is signed. -/
def signedPart (setlen : Bool) (dat : List UInt8) : Option (List UInt8 × List UInt8) :=
  if setlen then do
    -- add the version at the end
    let vers ← packI version
    let dat := dat ++ versBytes ++ vers
    -- add the length at the beginning
    let length ← packI dat.length
    return (length ++ dat.drop 4, Sha1.hash (dat.drop 4))
  else some (dat, Sha1.hash dat)

def rsaSign (n d : Nat) (dd : List UInt8) : Option (List UInt8) :=
  let rsaOut := fromBytes (0x00 :: 0x01 :: .replicate 0x69 0xff ++ 0x00 :: dd) ^ d % n
  unhexlify (rjust 0x100 (hexDigits rsaOut))

def sign (setlen : Bool) (n d : Nat) (dat : List UInt8) : Option (List UInt8) :=
  (signedPart setlen dat).bind fun (x, dd) => (rsaSign n d dd).map (x ++ ·)

/-! ### The constants of a key -/

theorem value_toCUint32Loop (k x : Nat) :
    value (toCUint32Loop k x).toList = x % 2 ^ (32 * k) := by
  induction k generalizing x with
  | zero => simp [toCUint32Loop, Nat.mod_one]
  | succ k ih =>
    have hword : (UInt32.ofNat (x % 2 ^ 32)).toNat = x % 2 ^ 32 := by simp
    rw [toCUint32Loop]
    change value (_ :: (toCUint32Loop k (x / 2 ^ 32)).toList) = _
    rw [value_cons, ih, hword, Nat.mul_add, Nat.mul_one, Nat.add_comm (32 * k), pow_add,
      Nat.mod_mul]

theorem powInv_spec {x m inv : Nat} (hm : 1 < m) (h : powInv x m = some inv) :
    x * inv % m = 1 ∧ inv < m := by
  rw [powInv] at h
  split at h
  next hcoprime =>
    obtain rfl := Option.some.inj h
    have hbezout : (1 : Int) = x * x.gcdA m + m * x.gcdB m := by
      rw [← Nat.gcd_eq_gcd_ab, Nat.Coprime.gcd_eq_one hcoprime]
      norm_num
    have hnonneg : 0 ≤ x.gcdA m % (m : Int) := Int.emod_nonneg _ (by omega)
    have hlt : x.gcdA m % (m : Int) < m := Int.emod_lt_of_pos _ (by omega)
    refine ⟨?_, by omega⟩
    have hone : ((x * (x.gcdA m % (m : Int)).toNat : Nat) : Int) % m = 1 := by
      rw [Nat.cast_mul, Int.toNat_of_nonneg hnonneg, Int.mul_emod, Int.emod_emod_of_dvd _ dvd_rfl,
        ← Int.mul_emod]
      rw [show (x : Int) * x.gcdA m = 1 - m * x.gcdB m by omega, Int.sub_mul_emod_self_left]
      exact Int.emod_eq_of_lt (by norm_num) (by exact_mod_cast hm)
    exact_mod_cast hone
  next => cases h

theorem radix_eq : radix = 2 ^ 1024 := by
  rw [radix, show 32 * rsanumwords = 1024 by rfl]

theorem value_toCUint32 {x : Nat} (hx : x < radix) : value (toCUint32 x).toList = x := by
  rw [toCUint32, value_toCUint32Loop, two_pow_words, Nat.mod_eq_of_lt hx]

/-- `get_key_header` makes the constants that the exponentiation needs. -/
theorem getKeyHeader_spec {n e : Nat} {key : RSAPublicKey} (h : getKeyHeader n e = some key) :
    KeyOf n key ∧ key.exponent = e := by
  rw [getKeyHeader] at h
  split at h
  next => cases h
  next hsize =>
    obtain ⟨inv, hinv, hkey⟩ := Option.bind_eq_some_iff.mp h
    obtain rfl := Option.some.inj hkey
    obtain ⟨hone, hlt⟩ := powInv_spec (by norm_num) hinv
    have hbits : n.size = 1024 := not_not.mp hsize
    have hupper : n < radix := by
      rw [radix_eq, ← Nat.size_le, hbits]
    have hlower : 2 ^ 1023 ≤ n := by
      rw [← Nat.lt_size, hbits]
      omega
    have hpos : 0 < n := Nat.size_pos.mp (by omega)
    refine ⟨⟨rfl, value_toCUint32 hupper, ?_, ?_, ?_⟩, rfl⟩
    · rw [radix_eq, pow_succ, Nat.mul_comm]
      exact Nat.mul_le_mul_left 2 hlower
    · have hword : (UInt32.ofNat (2 ^ 32 - inv)).toNat = 2 ^ 32 - inv := by
        have hne : inv ≠ 0 := by
          rintro rfl
          simp at hone
        rw [UInt32.toNat_ofNat', Nat.mod_eq_of_lt (by omega)]
      have hsum : (2 ^ 32 - inv) * n + n * inv = 2 ^ 32 * n := by
        rw [Nat.mul_comm n inv, ← Nat.add_mul, Nat.sub_add_cancel hlt.le]
      change ((UInt32.ofNat (2 ^ 32 - inv)).toNat * n + 1) % 2 ^ 32 = 0
      rw [hword]
      omega
    · rw [value_toCUint32 ((Nat.mod_lt _ hpos).trans hupper), radix_eq]
      exact Nat.mod_modEq _ _

/-! ### The signature in the file -/

theorem unhexlify_value {k : Nat} {digits : List Nat} (hlen : digits.length = 2 * k)
    (hdigits : ∀ digit ∈ digits, digit < 16) :
    ∃ bytes, unhexlify digits = some bytes ∧ bytes.length = k ∧
      fromBytes bytes = Nat.ofDigits 16 digits.reverse := by
  induction k generalizing digits with
  | zero =>
    obtain rfl := List.length_eq_zero_iff.mp hlen
    exact ⟨[], rfl, rfl, rfl⟩
  | succ k ih =>
    obtain ⟨high, digits, rfl⟩ := List.exists_cons_of_length_eq_add_one (n := 2 * k + 1) hlen
    obtain ⟨low, digits, rfl⟩ := List.exists_cons_of_length_eq_add_one (n := 2 * k)
      (Nat.succ.inj hlen)
    have hhigh := hdigits high (by simp)
    have hlow := hdigits low (by simp)
    have htail : digits.length = 2 * k := Nat.succ.inj (Nat.succ.inj hlen)
    obtain ⟨bytes, hbytes, hlength, hvalue⟩ := ih htail (fun digit hdigit =>
      hdigits digit (List.mem_cons_of_mem _ (List.mem_cons_of_mem _ hdigit)))
    refine ⟨.ofNat (16 * high + low) :: bytes, ?_, ?_, ?_⟩
    · rw [unhexlify, hbytes]
      rfl
    · rw [List.length_cons, hlength]
    · have hbyte : fromBytes [.ofNat (16 * high + low)] = 16 * high + low := by
        simp [fromBytes]
        omega
      have happend := fromBytes_append [.ofNat (16 * high + low)] bytes
      rw [List.singleton_append] at happend
      rw [happend, hvalue, hlength, hbyte, List.reverse_cons, List.reverse_cons,
        Nat.ofDigits_append, Nat.ofDigits_append, Nat.ofDigits_singleton, Nat.ofDigits_singleton,
        List.length_append, List.length_reverse, htail, List.length_singleton, pow_succ, pow_mul]
      ring

/-- A number below the radix is written with all the digits of a signature. -/
theorem unhexlify_rjust {x : Nat} (hx : x < radix) :
    ∃ sig, unhexlify (rjust 0x100 (hexDigits x)) = some sig ∧ sig.length = rsanumbytes ∧
      fromBytes sig = x := by
  have hlen : (hexDigits x).length ≤ 0x100 := by
    rw [hexDigits, List.length_reverse, Nat.digits_length_le_iff (by norm_num)]
    rw [radix_eq, show 1024 = 4 * 0x100 by rfl, pow_mul] at hx
    exact hx
  have hjust : (rjust 0x100 (hexDigits x)).length = 2 * rsanumbytes := by
    rw [rjust, List.length_append, List.length_replicate, Nat.sub_add_cancel hlen]
    rfl
  have hdigits : ∀ digit ∈ rjust 0x100 (hexDigits x), digit < 16 := by
    intro digit hdigit
    rcases List.mem_append.mp hdigit with hzero | hhex
    · rw [List.eq_of_mem_replicate hzero]
      norm_num
    · exact Nat.digits_lt_base (by norm_num) (List.mem_reverse.mp hhex)
  obtain ⟨sig, hsig, hlength, hvalue⟩ := unhexlify_value hjust hdigits
  refine ⟨sig, hsig, hlength, ?_⟩
  rw [hvalue, rjust, List.reverse_append, List.reverse_replicate,
    Nat.ofDigits_append_replicate_zero, hexDigits, List.reverse_reverse, Nat.ofDigits_digits]

/-- The encoded message is below a modulus of the size that `get_key_header` asserts. -/
theorem encodedMessage_lt {N : Nat} (hN : radix ≤ 2 * N) {hash : List UInt8}
    (hhash : hash.length = shaDigestSize) : fromBytes (encodedMessage hash) < N := by
  obtain ⟨rest, hrest⟩ : ∃ rest, encodedMessage hash = [0x00] ++ rest := ⟨_, rfl⟩
  have hlength : rest.length = 127 := by
    have h := encodedMessage_length hhash
    rw [hrest, List.length_append] at h
    exact Nat.add_left_cancel h
  have hlt := fromBytes_lt rest
  have happend := fromBytes_append [0x00] rest
  have hzero : fromBytes [0x00] = 0 := by simp [fromBytes]
  rw [hzero, Nat.mul_zero, Nat.add_zero] at happend
  have hpow : 2 * 256 ^ rest.length ≤ radix := by
    have hexp : 8 * rest.length + 1 ≤ 32 * rsanumwords := by
      rw [hlength]
      decide
    rw [radix, show 256 = 2 ^ 8 by rfl, ← pow_mul, ← pow_succ']
    exact Nat.pow_le_pow_right (by norm_num) hexp
  rw [hrest, happend]
  omega

/-! ### The signed image in the flash -/

theorem bytesAt_add (flash : Nat → UInt8) (start m n : Nat) :
    bytesAt flash start (m + n) = bytesAt flash start m ++ bytesAt flash (start + m) n := by
  rw [bytesAt, bytesAt, bytesAt, ← List.map_append, List.range'_append_1]

theorem bytesAt_length (flash : Nat → UInt8) (start count : Nat) :
    (bytesAt flash start count).length = count := by
  simp [bytesAt]

/-- The parts of a stretch of the flash. -/
theorem bytesAt_append {flash : Nat → UInt8} {start : Nat} {xs ys : List UInt8}
    (h : bytesAt flash start (xs ++ ys).length = xs ++ ys) :
    bytesAt flash start xs.length = xs ∧ bytesAt flash (start + xs.length) ys.length = ys := by
  rw [List.length_append, bytesAt_add] at h
  exact List.append_inj h (bytesAt_length _ _ _)

theorem wordAt_packI {flash : Nat → UInt8} {start x : Nat} {bytes : List UInt8}
    (hpack : packI x = some bytes) (h : bytesAt flash start bytes.length = bytes) :
    wordAt flash start = .ofNat x := by
  rw [packI] at hpack
  split at hpack
  next hx =>
    obtain rfl := Option.some.inj hpack
    simp only [bytesAt, List.length_cons, List.length_nil, List.range'_succ, List.map_cons,
      List.cons.injEq] at h
    obtain ⟨h0, h1, h2, h3, -⟩ := h
    apply UInt32.toNat_inj.mp
    rw [wordAt, h0, h1, h2, h3]
    simp only [UInt32.toNat_ofNat', UInt8.toNat_ofNat', Nat.shiftLeft_eq]
    omega
  next => cases hpack

theorem toInt_ofNat {x : Nat} (hx : x < 2 ^ 31) : (UInt32.ofNat x).toBitVec.toInt = x := by
  have hnat : (UInt32.ofNat x).toBitVec.toNat = x := by
    change (UInt32.ofNat x).toNat = x
    rw [UInt32.toNat_ofNat', Nat.mod_eq_of_lt (by omega)]
  rw [BitVec.toInt_eq_toNat_of_lt (by omega), hnat]

/-! ### The bootstub -/

/-- The bootstub as it is built, with the context of the hash as it is on the stack. -/
def bootBuild (mcu : Comms.Mcu) (stack : ShaCtx) (release : RSAPublicKey)
    (debug : Option RSAPublicKey) : BootBuild RSAPublicKey where
  mcu := mcu
  shaHash data := (shaHash 64 stack data).getD []
  rsaVerify key signature digest :=
    (rsaVerify key signature rsanumbytes digest shaDigestSize).getD false
  releaseRsaKey := release
  debugRsaKey := debug

theorem verifyKeys_app_iff {Key : Type} (b : BootBuild Key) (flash : Nat → UInt8) (len : Nat)
    (digest : List UInt8) (keys : List Key) (reads : List Span) :
    ((verifyKeys b flash len digest keys).run reads).1 = .app ↔
      ∃ key ∈ keys, b.rsaVerify key (bytesAt flash len rsanumbytes) digest = true := by
  induction keys generalizing reads with
  | nil =>
    simp only [List.not_mem_nil, false_and, exists_false, iff_false]
    exact fun h => Target.noConfusion h
  | cons key keys ih =>
    rw [verifyKeys_cons, List.exists_mem_cons_iff]
    split
    next hverify => simp [hverify]
    next hrefused =>
      rw [ih]
      simp [hrefused]

/-- What `main` starts. -/
theorem main_app_iff {Key : Type} (b : BootBuild Key) (magic : UInt32) (flash : Nat → UInt8) :
    ((main b magic flash).run []).1 = .app ↔
      magic ≠ enterSoftloaderMagic ∧ 8 ≤ imageLen flash ∧ imageLen flash ≤ maxLen ∧
        VersionOk flash (imageLen flash).toNat ∧ Verified b flash (imageLen flash).toNat := by
  by_cases hmagic : magic = enterSoftloaderMagic
  · rw [hmagic, main_softloader]
    simp
  by_cases hlen : imageLen flash < 8 ∨ maxLen < imageLen flash
  · rw [main_refused b hmagic hlen]
    refine iff_of_false (fun h => Target.noConfusion h) ?_
    rintro ⟨-, hlower, hupper, -⟩
    omega
  rw [main_accepted b magic hmagic hlen rfl]
  have hbounds : 8 ≤ imageLen flash ∧ imageLen flash ≤ maxLen := by omega
  split
  next hversion =>
    rw [verifyKeys_app_iff]
    exact ⟨fun h => ⟨hmagic, hbounds.1, hbounds.2, hversion, h⟩, fun h => h.2.2.2.2⟩
  next hversion =>
    refine iff_of_false (fun h => Target.noConfusion h) ?_
    rintro ⟨-, -, -, h, -⟩
    exact hversion h

section Boot

variable {mcu : Comms.Mcu} {stack : ShaCtx} {release : RSAPublicKey} {debug : Option RSAPublicKey}

theorem bootBuild_hash (data : List UInt8) :
    (bootBuild mcu stack release debug).shaHash data = Sha1.hash data := by
  change (shaHash 64 stack data).getD [] = _
  rw [shaHash_eq stack data le_rfl]
  rfl

/-- A key verifies what raises to the encoded message. -/
theorem bootBuild_verify_iff {n e : Nat} {key : RSAPublicKey}
    (hkey : getKeyHeader n e = some key) {signature : List UInt8}
    (hsignature : signature.length = rsanumbytes) (message : List UInt8) :
    (bootBuild mcu stack release debug).rsaVerify key signature (Sha1.hash message) = true ↔
      (e = 3 ∨ e = 65537) ∧
        fromBytes signature ^ e % n = fromBytes (encodedMessage (Sha1.hash message)) := by
  obtain ⟨hkeyOf, hexp⟩ := getKeyHeader_spec hkey
  obtain ⟨accepted, haccepted, hiff⟩ := rsaVerify_spec hkeyOf hsignature (hash_length message)
  change (rsaVerify key signature rsanumbytes (Sha1.hash message) shaDigestSize).getD false =
    true ↔ _
  rw [haccepted, Option.getD_some, hiff, Supported, hexp, Int.toNat_natCast]
  norm_cast

end Boot

theorem packI_some {x : Nat} (hx : x < 2 ^ 32) :
    ∃ bytes, packI x = some bytes ∧ bytes.length = 4 := by
  rw [packI, if_pos hx]
  exact ⟨_, rfl, rfl⟩

/-- The image that is signed: the length, the file from its second word on, and the
version. -/
theorem signedPart_eq {dat : List UInt8} (hdat : 4 ≤ dat.length) {length : List UInt8}
    (hlength : packI (dat.length + 8) = some length) :
    let signed := dat.drop 4 ++ (versBytes ++ [2, 0, 0, 0])
    signedPart true dat = some (length ++ signed, Sha1.hash signed) := by
  intro signed
  have hversion : packI version = some [2, 0, 0, 0] := rfl
  have hlen : (dat ++ versBytes ++ [2, 0, 0, 0]).length = dat.length + 8 := by
    simp [versBytes]
  have hdrop : (dat ++ versBytes ++ [2, 0, 0, 0]).drop 4 = signed := by
    rw [List.append_assoc, List.drop_append_of_le_length hdat]
  rw [signedPart, if_pos rfl, hversion]
  simp only [Option.bind_eq_bind, Option.bind_some, hlen, hlength, hdrop, Option.pure_def]

/-- The signature of a key pair gives the encoded message back. -/
theorem rsaSign_spec (pair : KeyPair) {key : RSAPublicKey}
    (hkey : getKeyHeader pair.n pair.e = some key) {hash : List UInt8}
    (hhash : hash.length = shaDigestSize) :
    ∃ sig, rsaSign pair.n pair.d hash = some sig ∧ sig.length = rsanumbytes ∧
      fromBytes sig ^ pair.e % pair.n = fromBytes (encodedMessage hash) := by
  obtain ⟨hkeyOf, -⟩ := getKeyHeader_spec hkey
  have hmessage := encodedMessage_lt hkeyOf.size hhash
  have hpos : 0 < pair.n := (Nat.zero_le _).trans_lt hmessage
  have hout := (Nat.mod_lt (fromBytes (encodedMessage hash) ^ pair.d) hpos).trans hkeyOf.lt
  obtain ⟨sig, hsig, hlength, hvalue⟩ := unhexlify_rjust hout
  refine ⟨sig, hsig, hlength, ?_⟩
  rw [hvalue, pair.verify_sign hmessage]

/-! ### A key pair -/

theorem prime_p : (15 * 2 ^ 522 + 1).Prime := by
  apply prime_of_squarings (a := 23) (by norm_num) [3, 5]
  · intro r hr hdvd
    rcases (hr.dvd_mul).mp (show r ∣ 3 * 5 from hdvd) with h | h
    · simp [(Nat.prime_dvd_prime_iff_eq hr Nat.prime_three).mp h]
    · simp [(Nat.prime_dvd_prime_iff_eq hr Nat.prime_five).mp h]
  · decide +kernel
  · decide +kernel
  · decide +kernel

theorem prime_q : (125 * 2 ^ 491 + 1).Prime := by
  apply prime_of_squarings (a := 6) (by norm_num) [5]
  · intro r hr hdvd
    have h : r ∣ 5 := hr.dvd_of_dvd_pow (show r ∣ 5 ^ 3 from hdvd)
    simp [(Nat.prime_dvd_prime_iff_eq hr Nat.prime_five).mp h]
  · decide +kernel
  · decide +kernel
  · decide +kernel

def somePair : KeyPair where
  p := 15 * 2 ^ 522 + 1
  q := 125 * 2 ^ 491 + 1
  e := 65537
  d := 1414161725590251752590779211944369127028248601986812495321456620635659583643680 *
      10 ^ 81 +
    744399249997233015435297766653585280607811536608015123891526200601377104103145473
  p_prime := prime_p
  q_prime := prime_q
  distinct := by decide +kernel
  inverse := by decide +kernel
  product_pos := by decide +kernel

theorem somePair_header : ∃ key, getKeyHeader somePair.n somePair.e = some key := by
  have hlower : 2 ^ 1023 ≤ somePair.n := by decide +kernel
  have hupper : somePair.n.size ≤ 1024 := by
    rw [Nat.size_le, ← radix_eq]
    decide +kernel
  have hcoprime : somePair.n.Coprime (2 ^ 32) := by decide +kernel
  have hsize : somePair.n.size = 1024 :=
    Nat.le_antisymm hupper (Nat.lt_size.mpr hlower)
  rw [getKeyHeader, if_neg (not_not.mpr hsize), powInv, if_pos hcoprime]
  exact ⟨_, rfl⟩

/-- With the constants that the build makes for a key, `modpow` raises big-endian bytes
to the exponent of the key. -/
theorem modpow_header {n e : Nat} {key : RSAPublicKey} (hkey : getKeyHeader n e = some key)
    (hexp : e = 3 ∨ e = 65537) {inout : List UInt8} (hlen : inout.length = rsanumbytes) :
    ∃ out, modpow key inout = some out ∧ out.length = rsanumbytes ∧
      fromBytes out = fromBytes inout ^ e % n := by
  obtain ⟨hkeyOf, hexponent⟩ := getKeyHeader_spec hkey
  have hsupported : key.exponent = 3 ∨ key.exponent = 65537 := by omega
  have h := modpow_spec hkeyOf hsupported hlen
  rwa [hexponent, Int.toNat_natCast] at h

theorem modpow_header_of_pair :
    ∃ key out, getKeyHeader somePair.n somePair.e = some key ∧
      modpow key (.replicate rsanumbytes 0xff) = some out ∧ out.length = rsanumbytes ∧
      fromBytes out = fromBytes (.replicate rsanumbytes 0xff) ^ somePair.e % somePair.n := by
  obtain ⟨key, hkey⟩ := somePair_header
  obtain ⟨out, hout⟩ := modpow_header hkey (.inr rfl)
    (List.length_replicate (n := rsanumbytes) (a := (0xff : UInt8)))
  exact ⟨key, out, hkey, hout⟩

/-- A file that `sign.py` signed for a key of the bootstub is started, whatever the rest
of the flash and the stack hold. -/
theorem signed_image_starts (pair : KeyPair) {key : RSAPublicKey}
    (hkey : getKeyHeader pair.n pair.e = some key) (hexp : pair.e = 3 ∨ pair.e = 65537)
    (dat : List UInt8) (hdat : 4 ≤ dat.length) (hroom : (dat.length : Int) + 8 ≤ maxLen)
    (mcu : Comms.Mcu) (stack : ShaCtx) (release : RSAPublicKey) (debug : Option RSAPublicKey)
    (hb : key = release ∨ debug = some key) (magic : UInt32)
    (hmagic : magic ≠ enterSoftloaderMagic) :
    ∃ image, sign true pair.n pair.d dat = some image ∧
      ∀ flash, bytesAt flash 0 image.length = image →
        ((main (bootBuild mcu stack release debug) magic flash).run []).1 = .app := by
  have hfits : dat.length + 8 < 2 ^ 31 := by
    rw [maxLen, rsanumbytes] at hroom
    omega
  obtain ⟨length, hlength, hfour⟩ := packI_some (x := dat.length + 8) (by omega)
  have hpart := signedPart_eq hdat hlength
  dsimp only at hpart
  generalize hsigned : dat.drop 4 ++ (versBytes ++ [2, 0, 0, 0]) = signed at hpart
  have hsignedLength : signed.length = dat.length + 8 - 4 := by
    rw [← hsigned]
    simp [versBytes]
    omega
  obtain ⟨sig, hsig, hsigLength, hvalue⟩ := rsaSign_spec pair hkey (hash_length signed)
  refine ⟨length ++ (signed ++ sig), ?_, ?_⟩
  · rw [sign, hpart, Option.bind_some]
    dsimp only
    rw [hsig, Option.map_some, List.append_assoc]
  intro flash hflash
  obtain ⟨hat0, hbehind⟩ := bytesAt_append hflash
  rw [Nat.zero_add, hfour] at hbehind
  obtain ⟨hat4, hatSig⟩ := bytesAt_append hbehind
  rw [hsignedLength] at hat4
  rw [hsignedLength, hsigLength, show 4 + (dat.length + 8 - 4) = dat.length + 8 by omega] at hatSig
  have hlen : imageLen flash = dat.length + 8 := by
    rw [imageLen, wordAt_packI hlength hat0]
    exact toInt_ofNat hfits
  have hnat : (imageLen flash).toNat = dat.length + 8 := by omega
  rw [main_app_iff, hnat]
  refine ⟨hmagic, by omega, by omega, ?_, ?_⟩
  · have hbody : (dat.drop 4).length = dat.length - 4 := List.length_drop
    rw [← hsignedLength, ← hsigned] at hat4
    obtain ⟨-, htail⟩ := bytesAt_append hat4
    obtain ⟨htag, hvers⟩ := bytesAt_append htail
    rw [hbody, show 4 + (dat.length - 4) = dat.length by omega] at htag hvers
    have htag' := wordAt_packI (x := 0x53524556) rfl htag
    have hvers' := wordAt_packI (x := 2) rfl hvers
    refine ⟨htag', ?_⟩
    change minVersion ≤ wordAt flash (dat.length + versBytes.length)
    rw [hvers']
    decide
  · have hmem : key ∈ (bootBuild mcu stack release debug).keys := by
      rcases hb with rfl | hdebug
      · exact List.mem_cons_self
      · apply List.mem_cons_of_mem
        change key ∈ debug.toList
        rw [hdebug]
        exact List.mem_singleton_self key
    refine ⟨key, hmem, ?_⟩
    rw [hatSig, hat4, bootBuild_hash, bootBuild_verify_iff hkey hsigLength]
    exact ⟨hexp, hvalue⟩

theorem signed_zeros_start :
    ∃ key image, getKeyHeader somePair.n somePair.e = some key ∧
      sign true somePair.n somePair.d [0, 0, 0, 0] = some image ∧
      ∀ flash, bytesAt flash 0 image.length = image →
        ((main (bootBuild .stm32f4 ⟨0, .replicate 64 0, ⟨0, 0, 0, 0, 0⟩⟩ key none) 0
          flash).run []).1 = .app := by
  obtain ⟨key, hkey⟩ := somePair_header
  obtain ⟨image, hsign, hstarts⟩ := signed_image_starts somePair hkey (.inr rfl)
    [0, 0, 0, 0] (by decide) (by decide) .stm32f4 ⟨0, .replicate 64 0, ⟨0, 0, 0, 0, 0⟩⟩ key none
    (.inl rfl) 0 (by decide)
  exact ⟨key, image, hkey, hsign, hstarts⟩

/-- The bootstub starts exactly what carries a version and, for one of its keys, a
signature of the hash of the signed area. -/
theorem main_starts_iff {n e : Nat} {release : RSAPublicKey}
    (hrelease : getKeyHeader n e = some release) {n' e' : Nat} {debug : RSAPublicKey}
    (hdebug : getKeyHeader n' e' = some debug) (allowDebug : Bool) (mcu : Comms.Mcu)
    (stack : ShaCtx) (magic : UInt32) (flash : Nat → UInt8) :
    let len := (imageLen flash).toNat
    let signature := fromBytes (bytesAt flash len rsanumbytes)
    let message := fromBytes (encodedMessage (Sha1.hash (bytesAt flash 4 (len - 4))))
    ((main (bootBuild mcu stack release (if allowDebug then some debug else none)) magic
        flash).run []).1 = .app ↔
      magic ≠ enterSoftloaderMagic ∧ 8 ≤ imageLen flash ∧ imageLen flash ≤ maxLen ∧
        VersionOk flash len ∧
        ((e = 3 ∨ e = 65537) ∧ signature ^ e % n = message ∨
          allowDebug = true ∧ (e' = 3 ∨ e' = 65537) ∧ signature ^ e' % n' = message) := by
  intro len signature message
  have hsignature : (bytesAt flash len rsanumbytes).length = rsanumbytes := bytesAt_length _ _ _
  rw [main_app_iff]
  refine and_congr_right fun _ => and_congr_right fun _ => and_congr_right fun _ =>
    and_congr_right fun _ => ?_
  rw [Verified, bootBuild_hash]
  cases allowDebug with
  | false =>
    change (∃ key ∈ [release], _) ↔ _
    rw [List.exists_mem_cons_iff, bootBuild_verify_iff hrelease hsignature]
    simp [signature, message, len]
  | true =>
    change (∃ key ∈ [release, debug], _) ↔ _
    rw [List.exists_mem_cons_iff, List.exists_mem_cons_iff,
      bootBuild_verify_iff hrelease hsignature, bootBuild_verify_iff hdebug hsignature]
    simp [signature, message, len]

/-- A build with one key for both places. -/
theorem main_starts_iff_of_pair :
    ∃ key, getKeyHeader somePair.n somePair.e = some key ∧ ∀ flash,
      ((main (bootBuild .stm32h7 ⟨0, .replicate 64 0, ⟨0, 0, 0, 0, 0⟩⟩ key (some key)) 0
          flash).run []).1 = .app ↔
        (0 : UInt32) ≠ enterSoftloaderMagic ∧ 8 ≤ imageLen flash ∧ imageLen flash ≤ maxLen ∧
          VersionOk flash (imageLen flash).toNat ∧
          ((somePair.e = 3 ∨ somePair.e = 65537) ∧
              fromBytes (bytesAt flash (imageLen flash).toNat rsanumbytes) ^ somePair.e %
                somePair.n = fromBytes (encodedMessage
                  (Sha1.hash (bytesAt flash 4 ((imageLen flash).toNat - 4)))) ∨
            true = true ∧ (somePair.e = 3 ∨ somePair.e = 65537) ∧
              fromBytes (bytesAt flash (imageLen flash).toNat rsanumbytes) ^ somePair.e %
                somePair.n = fromBytes (encodedMessage
                  (Sha1.hash (bytesAt flash 4 ((imageLen flash).toNat - 4))))) := by
  obtain ⟨key, hkey⟩ := somePair_header
  exact ⟨key, hkey, fun flash => main_starts_iff hkey hkey true .stm32h7 _ 0 flash⟩

end Panda.Bootstub
