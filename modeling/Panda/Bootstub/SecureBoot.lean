import Panda.Bootstub.Flasher

/-!
`main` of `board/bootstub.c`, with every read of the application image. The length
in front of the image is compared to a bound of 16 MB, not to the size of the flash,
so an image that claims to be longer is hashed beyond the flash.
-/

namespace Panda.Bootstub

open Comms

def versTag : UInt32 := 0x53524556

def minVersion : UInt32 := 2

def rsanumbytes : Nat := 128

/-- The microcontroller, the hash and the verification, and the keys that are enabled.
The debug key is there if `ALLOW_DEBUG` is defined. -/
structure BootBuild (Key : Type) where
  mcu : Mcu
  shaHash : List UInt8 → List UInt8
  rsaVerify : Key → List UInt8 → List UInt8 → Bool
  releaseRsaKey : Key
  debugRsaKey : Option Key

def BootBuild.keys {Key : Type} (b : BootBuild Key) : List Key :=
  b.releaseRsaKey :: b.debugRsaKey.toList

/-- The bytes of the flash from `APP_START_ADDRESS` on. The linker scripts have 1024 KB
of flash in all. -/
def appSize (mcu : Mcu) : Nat := 0x8000000 + 1024 * 1024 - appStartAddress mcu

/-- Where `main` goes on to: `soft_flasher_start` or the application. -/
inductive Target where
  | flasher
  | app
deriving DecidableEq

/-- Bytes that were read, by their offset from `_app_start`. -/
structure Span where
  start : Nat
  count : Nat
deriving DecidableEq

/-- A computation with the reads so far. -/
abbrev Boot := StateM (List Span)

variable {Key : Type}

def bytesAt (flash : Nat → UInt8) (start count : Nat) : List UInt8 :=
  (List.range' start count).map flash

/-- The little-endian word of four bytes. -/
def wordAt (flash : Nat → UInt8) (start : Nat) : UInt32 :=
  .ofNat ((flash start).toNat + (flash (start + 1)).toNat <<< 8 +
    (flash (start + 2)).toNat <<< 16 + (flash (start + 3)).toNat <<< 24)

def readBytes (flash : Nat → UInt8) (start count : Nat) : Boot (List UInt8) := do
  modify (· ++ [⟨start, count⟩])
  return bytesAt flash start count

/-- `_app_start[0]` as an `int`. -/
def imageLen (flash : Nat → UInt8) : Int := (wordAt flash 0).toBitVec.toInt

/-- The bound in the check of the length. -/
def maxLen : Int := 0x1000000 - 0x4000 - 4 - rsanumbytes

/-- The version, last bytes in the signed area. -/
def VersionOk (flash : Nat → UInt8) (len : Nat) : Prop :=
  wordAt flash (len - 8) = versTag ∧ minVersion ≤ wordAt flash (len - 4)

instance (flash : Nat → UInt8) (len : Nat) : Decidable (VersionOk flash len) :=
  inferInstanceAs (Decidable (_ ∧ _))

/-- The keys one after the other, from the release key on. -/
def verifyKeys (b : BootBuild Key) (flash : Nat → UInt8) (len : Nat) (digest : List UInt8) :
    List Key → Boot Target
  -- here is a failure
  | [] => return .flasher
  | key :: keys => do
      let signature ← readBytes flash len rsanumbytes
      if b.rsaVerify key signature digest then
        -- jump to flash
        let _ ← readBytes flash 4 4
        return .app
      else verifyKeys b flash len digest keys

def main (b : BootBuild Key) (enterBootloaderMode : UInt32) (flash : Nat → UInt8) :
    Boot Target := do
  if enterBootloaderMode = enterSoftloaderMagic then return .flasher
  -- validate length
  let _ ← readBytes flash 0 4
  let len := imageLen flash
  if len < 8 ∨ len > maxLen then return .flasher
  let len := len.toNat
  -- compute SHA hash
  let signed ← readBytes flash 4 (len - 4)
  let digest := b.shaHash signed
  -- verify version, last bytes in the signed area
  let _ ← readBytes flash (len - 8) 8
  if ¬ VersionOk flash len then return .flasher
  verifyKeys b flash len digest b.keys

/-! ### What the boot should do -/

/-- An enabled key verifies the signature behind the signed area. -/
def Verified (b : BootBuild Key) (flash : Nat → UInt8) (len : Nat) : Prop :=
  ∃ key ∈ b.keys, b.rsaVerify key (bytesAt flash len rsanumbytes)
    (b.shaHash (bytesAt flash 4 (len - 4))) = true

/-- There is no room for the version, or none for the signature. -/
def Malformed (mcu : Mcu) (len : Int) : Prop := len < 8 ∨ appSize mcu < len + rsanumbytes

/-- The application is only started when it is verified, nothing outside the flash is
read, and a malformed length leads to the flasher. -/
structure Secure (b : BootBuild Key) (flash : Nat → UInt8) (outcome : Target × List Span) :
    Prop where
  version : outcome.1 = .app → VersionOk flash (imageLen flash).toNat
  verified : outcome.1 = .app → Verified b flash (imageLen flash).toNat
  inside : ∀ span ∈ outcome.2, span.start + span.count ≤ appSize b.mcu
  malformed : Malformed b.mcu (imageLen flash) → outcome.1 = .flasher

/-- The length is refused, or the signed area is inside the flash, and the signature
too if it is looked at. -/
def Covered (mcu : Mcu) (enterBootloaderMode : UInt32) (flash : Nat → UInt8) : Prop :=
  enterBootloaderMode = enterSoftloaderMagic ∨ imageLen flash < 8 ∨ maxLen < imageLen flash ∨
    (imageLen flash ≤ appSize mcu ∧
      (VersionOk flash (imageLen flash).toNat →
        imageLen flash + rsanumbytes ≤ appSize mcu))

theorem appSize_ge (mcu : Mcu) : 8 ≤ appSize mcu := by
  cases mcu with
  | stm32f4 => decide
  | stm32h7 => decide

/-! ### The keys -/

theorem readBytes_run {α : Type} (flash : Nat → UInt8) (start count : Nat)
    (next : List UInt8 → Boot α) (reads : List Span) :
    (readBytes flash start count >>= next).run reads =
      (next (bytesAt flash start count)).run (reads ++ [⟨start, count⟩]) := rfl

theorem verifyKeys_cons (b : BootBuild Key) (flash : Nat → UInt8) (len : Nat)
    (digest : List UInt8) (key : Key) (keys : List Key) (reads : List Span) :
    (verifyKeys b flash len digest (key :: keys)).run reads =
      if b.rsaVerify key (bytesAt flash len rsanumbytes) digest then
        (.app, reads ++ [⟨len, rsanumbytes⟩] ++ [⟨4, 4⟩])
      else (verifyKeys b flash len digest keys).run (reads ++ [⟨len, rsanumbytes⟩]) := by
  rw [verifyKeys, readBytes_run]
  split
  · rw [readBytes_run]
    rfl
  · rfl

/-- Trying keys reads the signature and, behind it, the entry point. -/
theorem verifyKeys_run (b : BootBuild Key) (flash : Nat → UInt8) (len : Nat)
    (digest : List UInt8) (keys : List Key) (reads : List Span) :
    let outcome := (verifyKeys b flash len digest keys).run reads
    (outcome.1 = .app →
      ∃ key ∈ keys, b.rsaVerify key (bytesAt flash len rsanumbytes) digest = true) ∧
    ∃ more, outcome.2 = reads ++ more ∧
      (∀ span ∈ more, span = ⟨len, rsanumbytes⟩ ∨ span = ⟨4, 4⟩) ∧
      (keys ≠ [] → ⟨len, rsanumbytes⟩ ∈ more) := by
  induction keys generalizing reads with
  | nil =>
      refine ⟨fun happ => Target.noConfusion happ, [], (List.append_nil _).symm, ?_, ?_⟩
      · intro span hspan
        exact absurd hspan List.not_mem_nil
      · intro hne
        exact absurd rfl hne
  | cons key keys ih =>
      dsimp only
      rw [verifyKeys_cons]
      split
      · rename_i hverify
        refine ⟨fun _ => ⟨key, List.mem_cons_self, hverify⟩, [⟨len, rsanumbytes⟩, ⟨4, 4⟩],
          List.append_assoc _ _ _, ?_, fun _ => List.mem_cons_self⟩
        intro span hspan
        rcases List.mem_cons.mp hspan with hsignature | hentry
        · exact .inl hsignature
        · exact .inr (List.mem_singleton.mp hentry)
      · obtain ⟨happ, more, hreads, honly, -⟩ := ih (reads ++ [⟨len, rsanumbytes⟩])
        refine ⟨?_, ⟨len, rsanumbytes⟩ :: more, ?_, ?_, fun _ => List.mem_cons_self⟩
        · intro hstarted
          obtain ⟨later, hlater, hverify⟩ := happ hstarted
          exact ⟨later, List.mem_cons_of_mem _ hlater, hverify⟩
        · rw [hreads, List.append_assoc]
          rfl
        · intro span hspan
          rcases List.mem_cons.mp hspan with hsignature | hlater
          · exact .inl hsignature
          · exact honly span hlater

/-! ### `main` -/

theorem main_softloader (b : BootBuild Key) (flash : Nat → UInt8) :
    (main b enterSoftloaderMagic flash).run [] = (.flasher, []) := by
  rw [main, if_pos rfl]
  rfl

theorem main_refused (b : BootBuild Key) {magic : UInt32} {flash : Nat → UInt8}
    (hmagic : magic ≠ enterSoftloaderMagic)
    (hlen : imageLen flash < 8 ∨ maxLen < imageLen flash) :
    (main b magic flash).run [] = (.flasher, [⟨0, 4⟩]) := by
  rw [main, if_neg hmagic, readBytes_run, if_pos hlen]
  rfl

theorem main_accepted (b : BootBuild Key) (magic : UInt32) {flash : Nat → UInt8}
    (hmagic : magic ≠ enterSoftloaderMagic)
    (hlen : ¬ (imageLen flash < 8 ∨ maxLen < imageLen flash)) {len : Nat}
    (hnat : (imageLen flash).toNat = len) :
    (main b magic flash).run [] =
      if VersionOk flash len then
        (verifyKeys b flash len (b.shaHash (bytesAt flash 4 (len - 4))) b.keys).run
          [⟨0, 4⟩, ⟨4, len - 4⟩, ⟨len - 8, 8⟩]
      else (.flasher, [⟨0, 4⟩, ⟨4, len - 4⟩, ⟨len - 8, 8⟩]) := by
  rw [main, if_neg hmagic, readBytes_run, if_neg hlen]
  dsimp only
  rw [hnat, readBytes_run, readBytes_run]
  by_cases hversion : VersionOk flash len
  · rw [if_neg (not_not_intro hversion), if_pos hversion]
    rfl
  · rw [if_pos hversion, if_neg hversion]
    rfl

/-- `main` starts only what is verified, reads nothing outside the flash, and takes a
malformed length to the flasher, exactly if the signed area and the signature that it
looks at are inside the flash. -/
theorem main_secure_iff (b : BootBuild Key) (enterBootloaderMode : UInt32)
    (flash : Nat → UInt8) :
    Secure b flash ((main b enterBootloaderMode flash).run []) ↔
      Covered b.mcu enterBootloaderMode flash := by
  have hsize := appSize_ge b.mcu
  by_cases hmagic : enterBootloaderMode = enterSoftloaderMagic
  · rw [hmagic, main_softloader]
    refine iff_of_true ?_ (.inl rfl)
    exact ⟨fun happ => Target.noConfusion happ, fun happ => Target.noConfusion happ,
      fun span hspan => absurd hspan List.not_mem_nil, fun _ => rfl⟩
  by_cases hlen : imageLen flash < 8 ∨ maxLen < imageLen flash
  · rw [main_refused b hmagic hlen]
    refine iff_of_true ?_ (.inr (hlen.imp_right .inl))
    refine ⟨fun happ => Target.noConfusion happ, fun happ => Target.noConfusion happ, ?_,
      fun _ => rfl⟩
    intro span hspan
    rw [List.mem_singleton.mp hspan]
    exact Nat.le_trans (by decide) hsize
  obtain ⟨hlower, hupper⟩ := not_or.mp hlen
  obtain ⟨len, hint⟩ := Int.eq_ofNat_of_zero_le (show 0 ≤ imageLen flash by omega)
  have hnat : (imageLen flash).toNat = len := by rw [hint]; rfl
  have hcovered : Covered b.mcu enterBootloaderMode flash ↔
      len ≤ appSize b.mcu ∧ (VersionOk flash len → len + rsanumbytes ≤ appSize b.mcu) := by
    rw [Covered, or_iff_right hmagic, or_iff_right hlower, or_iff_right hupper, hnat, hint]
    exact Iff.and Int.ofNat_le (imp_congr_right fun _ => by omega)
  rw [hcovered, main_accepted b _ hmagic hlen hnat]
  have hsigned {more : List Span}
      (hmore : ∀ span ∈ more, span.start + span.count ≤ appSize b.mcu) :
      (∀ span ∈ [⟨0, 4⟩, ⟨4, len - 4⟩, ⟨len - 8, 8⟩] ++ more,
        span.start + span.count ≤ appSize b.mcu) ↔ len ≤ appSize b.mcu := by
    simp only [List.cons_append, List.nil_append, List.forall_mem_cons]
    constructor
    · rintro ⟨-, hhashed, -⟩
      omega
    · intro hle
      exact ⟨by omega, by omega, by omega, hmore⟩
  by_cases hversion : VersionOk flash len
  · rw [if_pos hversion]
    obtain ⟨happ, more, hreads, honly, hsignature⟩ := verifyKeys_run b flash len
      (b.shaHash (bytesAt flash 4 (len - 4))) b.keys [⟨0, 4⟩, ⟨4, len - 4⟩, ⟨len - 8, 8⟩]
    generalize (verifyKeys b flash len _ b.keys).run _ = outcome at happ hreads
    constructor
    · intro h
      have hinside := h.inside
      rw [hreads] at hinside
      have hlast := hinside _ (List.mem_append_right _ (hsignature (List.cons_ne_nil _ _)))
      exact ⟨Nat.le_trans (Nat.le_add_right len _) hlast, fun _ => hlast⟩
    · rintro ⟨hle, hroom⟩
      have hmore : ∀ span ∈ more, span.start + span.count ≤ appSize b.mcu := by
        intro span hspan
        rcases honly span hspan with rfl | rfl
        · exact hroom hversion
        · exact hsize
      refine ⟨fun _ => hnat ▸ hversion, ?_, hreads ▸ (hsigned hmore).mpr hle, ?_⟩
      · intro hstarted
        rw [hnat]
        exact happ hstarted
      · rintro (hshort | hlong)
        · exact absurd hshort hlower
        · have hend := hroom hversion
          omega
  · rw [if_neg hversion]
    have hnone : ∀ span ∈ ([] : List Span), span.start + span.count ≤ appSize b.mcu :=
      fun span hspan => absurd hspan List.not_mem_nil
    constructor
    · intro h
      exact ⟨(hsigned hnone).mp h.inside, fun hok => absurd hok hversion⟩
    · rintro ⟨hle, -⟩
      exact ⟨fun happ => Target.noConfusion happ, fun happ => Target.noConfusion happ,
        (hsigned hnone).mpr hle, fun _ => rfl⟩

/-- An image that claims two megabytes. -/
def longImage : Nat → UInt8 := fun offset => if offset = 2 then 0x20 else 0

/-- A build that verifies nothing. -/
def strictBuild : BootBuild Unit where
  mcu := .stm32f4
  shaHash := fun _ => List.replicate 20 0
  rsaVerify := fun _ _ _ => false
  releaseRsaKey := ()
  debugRsaKey := none

/-- The image is hashed beyond the flash. -/
theorem not_secure_long_image :
    ¬ Secure strictBuild longImage ((main strictBuild 0 longImage).run []) := by
  intro h
  have hword : wordAt longImage 0 = 0x200000 := by decide
  have hlen : imageLen longImage = 0x200000 := by
    rw [imageLen, hword]
    decide
  have haccepted : ¬ (imageLen longImage < 8 ∨ maxLen < imageLen longImage) := by
    rw [hlen, maxLen, rsanumbytes]
    omega
  have hversion : ¬ VersionOk longImage 0x200000 := by
    rintro ⟨htag, -⟩
    exact absurd htag (by decide)
  have hnat : (imageLen longImage).toNat = 0x200000 := by
    rw [hlen]
    exact Int.toNat_natCast 0x200000
  have hmain := main_accepted strictBuild 0 (by decide) haccepted hnat
  rw [hmain, if_neg hversion] at h
  have hinside := h.inside ⟨4, 0x200000 - 4⟩ (List.mem_cons_of_mem _ List.mem_cons_self)
  exact absurd hinside (by decide)

end Panda.Bootstub
