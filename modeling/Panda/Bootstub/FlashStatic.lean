import Panda.Bootstub.FlashWrites
import Panda.Library.Memory

/-!
`flash_static` of `python/__init__.py`, run against the soft flasher. The sectors that
are erased hold more than the code, and the words go behind each other from the start
of the application on. The flasher drops the bytes behind the last whole word.
-/

namespace Panda.Bootstub

open Comms Library Flasher

/-! ### `python/constants.py` -/

structure McuConfig where
  sectorSizes : List Nat
  bootstubAddress : Nat

def McuConfig.sectorAddress (config : McuConfig) (i : Nat) : Nat :=
  -- assume bootstub is in sector 0
  config.bootstubAddress + (config.sectorSizes.take i).sum

def f4Config : McuConfig where
  sectorSizes := List.replicate 4 0x4000 ++ [0x10000] ++ List.replicate 11 0x20000
  bootstubAddress := 0x8000000

def h7Config : McuConfig where
  -- there is an 8th sector, but we use that for the provisioning chunk
  sectorSizes := List.replicate 7 0x20000
  bootstubAddress := 0x8000000

def mcuConfig : Mcu → McuConfig
  | .stm32f4 => f4Config
  | .stm32h7 => h7Config

/-! ### `flash_static` -/

def accumulate (total : Nat) : List Nat → List Nat
  | [] => []
  | v :: vs => (total + v) :: accumulate (total + v) vs

def lastSector (config : McuConfig) (codeLength : Nat) : Int :=
  match (accumulate 0 (config.sectorSizes.drop 1)).findIdx? fun v => v > codeLength with
  | some i => i + 1
  | none => -1

def flashStep : Nat := 0x10

/-- The pieces of the code that go over EP2. -/
def flashChunks (code : List UInt8) : List (List UInt8) :=
  (List.range ((code.length + flashStep - 1) / flashStep)).map fun k =>
    (code.drop (k * flashStep)).take flashStep

def flasherPresent (d : Device) (f : Flasher) : Bool :=
  let fr := ((f.commsControlHandler d ⟨0xb0, 0, 0, 0xc⟩).1).getD []
  (fr.drop 4).take 4 == [0xde, 0xad, 0xd0, 0x0d]

/-- The requests of `flash_static` once its assertions hold: unlock, erase, flash over
EP2, and reset. -/
def flashRequests (last : Nat) (code : List UInt8) : List Flasher.Request :=
  .control ⟨0xb1, 0, 0, 0⟩ ::
    (List.range last).map (fun i => .control ⟨0xb2, .ofNat (i + 1), 0, 0⟩) ++
    (flashChunks code).map .endpoint2 ++ [.control ⟨0xd8, 0, 0, 0⟩]

def flashStatic (d : Device) (code : List UInt8) (mcuType : Option Mcu) (f : Flasher) :
    Except String Flasher :=
  match mcuType with
  | none => .error "must set valid mcu_type to flash"
  | some mcu =>
      if !flasherPresent d f then .error ""
      else
        let lastSector := lastSector (mcuConfig mcu) code.length
        if ¬ lastSector ≥ 1 then .error "Binary too small? No sector to erase."
        else if ¬ lastSector < 7 then
          .error "Binary too large! Risk of overwriting provisioning chunk."
        else .ok (run (step d) f (flashRequests lastSector.toNat code))

/-! ### The flash -/

/-- What an entry does to the flash: bytes that are erased are 0xFF, and words are
little endian. -/
def FlashEntry.apply (config : McuConfig) (mem : Nat → UInt8) : FlashEntry → Nat → UInt8
  | .unlock => mem
  | .erase sector => fun address =>
      if InRegion config.sectorAddress sector.toNat address then 0xFF else mem address
  | .write address data => store mem address (pointerBytes data.toNat)
  | .reset => mem

def flashAfter (config : McuConfig) (mem : Nat → UInt8) (entries : List FlashEntry) :
    Nat → UInt8 :=
  run (FlashEntry.apply config) mem entries

/-- Each sector is erased before it is written to, and sector 0 and the sectors from 7
on are left alone. -/
structure SectorsKept (mcu : Mcu) (entries : List FlashEntry) : Prop where
  erasedBefore : ∀ before address data after, entries = before ++ .write address data :: after →
    ∀ i < 4, ∀ sector : UInt8, InRegion (mcuConfig mcu).sectorAddress sector.toNat (address + i) →
      .erase sector ∈ before
  erases : ∀ sector, .erase sector ∈ entries → 1 ≤ sector ∧ sector < 7
  writes : ∀ address data, .write address data ∈ entries →
    (mcuConfig mcu).sectorAddress 1 ≤ address ∧ address + 4 ≤ (mcuConfig mcu).sectorAddress 7

structure Flashed (mcu : Mcu) (code : List UInt8) (mem : Nat → UInt8)
    (entries : List FlashEntry) : Prop extends SectorsKept mcu entries where
  holds : ∀ (i : Nat) (h : i < code.length),
    flashAfter (mcuConfig mcu) mem entries (appStartAddress mcu + i) = code[i]

/-! ### The words of the code -/

variable {code : List UInt8}

def tailBytes (code : List UInt8) : List UInt8 := code.drop (code.length / 4 * 4)

theorem words_append (first second : List UInt8) (h : first.length % 4 = 0) :
    words (first ++ second) = words first ++ words second := by
  fun_induction words first with
  | case1 b0 b1 b2 b3 data ih =>
      simp only [List.length_cons] at h
      rw [List.cons_append, List.cons_append, List.cons_append, List.cons_append, words,
        ih (by omega), List.cons_append]
  | case2 data hshort =>
      have hlt := length_lt_word hshort
      obtain rfl := List.eq_nil_of_length_eq_zero (l := data) (by omega)
      rfl

theorem flashChunks_cons (h : code ≠ []) :
    flashChunks code = code.take flashStep :: flashChunks (code.drop flashStep) := by
  have hpos : 0 < code.length := List.length_pos_of_ne_nil h
  have hcount : (code.length + flashStep - 1) / flashStep =
      ((code.drop flashStep).length + flashStep - 1) / flashStep + 1 := by
    rw [List.length_drop, flashStep]
    omega
  rw [flashChunks, hcount, List.range_succ_eq_map, List.map_cons, List.map_map]
  refine congrArg₂ List.cons (by rw [Nat.zero_mul, List.drop_zero]) ?_
  apply List.map_congr_left
  intro k _
  rw [Function.comp_apply, List.drop_drop, Nat.succ_mul, Nat.add_comm]

/-- Cutting the code in pieces does not cut its words. -/
theorem flatMap_words_flashChunks (code : List UInt8) :
    (flashChunks code).flatMap words = words code := by
  induction hlen : code.length using Nat.strong_induction_on generalizing code with
  | _ n ih =>
      rcases eq_or_ne code [] with rfl | hcode
      · rfl
      · have hpos : 0 < code.length := List.length_pos_of_ne_nil hcode
        have hrest := ih (code.drop flashStep).length
          (by rw [List.length_drop, flashStep]; omega) (code.drop flashStep) rfl
        rw [flashChunks_cons hcode, List.flatMap_cons, hrest]
        rcases Nat.lt_or_ge code.length flashStep with hshort | hlong
        · rw [List.take_of_length_le hshort.le, List.drop_of_length_le hshort.le]
          exact List.append_nil (words code)
        · rw [← words_append _ _ (by rw [List.length_take_of_le hlong]; rfl), List.take_append_drop]

theorem pointerBytes_word (b0 b1 b2 b3 : UInt8) :
    pointerBytes (UInt32.ofNat
      (b0.toNat + b1.toNat <<< 8 + b2.toNat <<< 16 + b3.toNat <<< 24)).toNat =
      [b0, b1, b2, b3] := by
  have h0 := b0.toNat_lt
  have h1 := b1.toNat_lt
  have h2 := b2.toNat_lt
  have h3 := b3.toNat_lt
  have hword : b0.toNat + b1.toNat <<< 8 + b2.toNat <<< 16 + b3.toNat <<< 24 < 2 ^ 32 := by
    simp only [Nat.shiftLeft_eq]
    omega
  rw [UInt32.toNat_ofNat_of_lt' hword, pointerBytes]
  simp only [List.cons.injEq, ← UInt8.toNat_inj, UInt8.toNat_ofNat', Nat.shiftLeft_eq,
    Nat.shiftRight_eq_div_pow, and_true]
  refine ⟨?_, ?_, ?_, ?_⟩
  · omega
  · omega
  · omega
  · omega

/-- The bytes of the words are the code without its tail. -/
theorem flatMap_pointerBytes_words (code : List UInt8) :
    (words code).flatMap (fun word => pointerBytes word.toNat) =
      code.take (code.length / 4 * 4) := by
  fun_induction words code with
  | case1 b0 b1 b2 b3 data ih =>
      have hcount : (b0 :: b1 :: b2 :: b3 :: data).length / 4 * 4 = data.length / 4 * 4 + 4 := by
        simp only [List.length_cons]
        omega
      rw [List.flatMap_cons, pointerBytes_word, ih, hcount]
      rfl
  | case2 data hshort =>
      rw [Nat.div_eq_of_lt (length_lt_word hshort), Nat.zero_mul, List.take_zero]
      rfl

/-! ### Sectors -/

theorem sectorAddress_monotone (config : McuConfig) : Monotone config.sectorAddress := by
  apply monotone_nat_of_le_succ
  intro i
  rw [McuConfig.sectorAddress, McuConfig.sectorAddress, List.take_add_one, List.sum_append]
  exact Nat.add_le_add_left (Nat.le_add_right _ _) _

theorem sectorAddress_add_one (config : McuConfig) (i : Nat) :
    config.sectorAddress (i + 1) =
      config.sectorAddress 1 + ((config.sectorSizes.drop 1).take i).sum := by
  cases hsizes : config.sectorSizes with
  | nil => simp [McuConfig.sectorAddress, hsizes]
  | cons size sizes =>
      simp only [McuConfig.sectorAddress, hsizes, List.take_succ_cons, List.take_zero,
        List.sum_cons, List.sum_nil, List.drop_one, List.tail_cons]
      omega

/-- The application starts with sector 1. -/
theorem sectorAddress_one (mcu : Mcu) :
    (mcuConfig mcu).sectorAddress 1 = appStartAddress mcu := by
  cases mcu with
  | stm32f4 => rfl
  | stm32h7 => rfl

theorem sectorAddress_seven_lt (mcu : Mcu) : (mcuConfig mcu).sectorAddress 7 < 2 ^ 32 := by
  cases mcu with
  | stm32f4 => decide
  | stm32h7 => decide

theorem lt_of_findIdx_accumulate {n i : Nat} {total : Nat} {sizes : List Nat}
    (h : (accumulate total sizes).findIdx? (fun v => v > n) = some i) :
    n < total + (sizes.take (i + 1)).sum := by
  induction sizes generalizing total i with
  | nil => cases h
  | cons size sizes ih =>
      rw [accumulate, List.findIdx?_cons] at h
      split at h
      · rename_i hfirst
        obtain rfl := Option.some.inj h
        have hlt := of_decide_eq_true hfirst
        rw [List.take_succ_cons, List.sum_cons]
        omega
      · obtain ⟨j, hj, rfl⟩ := Option.map_eq_some_iff.mp h
        have hlt := ih hj
        rw [List.take_succ_cons, List.sum_cons]
        omega

/-- The code ends in front of the last sector's end. -/
theorem lt_lastSector {config : McuConfig} {n last : Nat} (h : lastSector config n = last) :
    config.sectorAddress 1 + n < config.sectorAddress (last + 1) := by
  unfold lastSector at h
  split at h
  · rename_i i hfound
    obtain rfl : i + 1 = last := by omega
    have hlt := lt_of_findIdx_accumulate hfound
    rw [sectorAddress_add_one config (i + 1)]
    omega
  · omega

/-- Where the assertions hold there are one to six sectors, the code ends in front of
their end, and its requests are sent. -/
theorem flashStatic_ok {d : Device} {mcu : Mcu} {f f' : Flasher}
    (h : flashStatic d code (some mcu) f = .ok f') :
    ∃ last, 1 ≤ last ∧ last < 7 ∧
      appStartAddress mcu + code.length < (mcuConfig mcu).sectorAddress (last + 1) ∧
      f' = run (step d) f (flashRequests last code) := by
  unfold flashStatic at h
  dsimp only at h
  split at h
  · cases h
  split at h
  · cases h
  split at h
  · cases h
  rename_i hpositive hseven
  obtain ⟨last, hlast⟩ := Int.eq_ofNat_of_zero_le
    (show 0 ≤ lastSector (mcuConfig mcu) code.length by omega)
  rw [hlast] at h hpositive hseven
  refine ⟨last, by omega, by omega, ?_, (Except.ok.inj h).symm⟩
  rw [← sectorAddress_one]
  exact lt_lastSector hlast

/-! ### The entries of a run -/

/-- The entries of words that are written behind each other. -/
def writesFrom (address : Nat) : List UInt32 → List FlashEntry
  | [] => []
  | word :: words => .write address word :: writesFrom (address + 4) words

/-- The entries of sectors that are erased, from sector 1 on. -/
def erasesTo (last : Nat) : List FlashEntry :=
  (List.range last).map fun i => .erase (.ofNat (i + 1))

theorem endpoint2Loop_append (first second : List UInt32) (f : Flasher) :
    endpoint2Loop (first ++ second) f = endpoint2Loop second (endpoint2Loop first f) := by
  induction first generalizing f with
  | nil => rfl
  | cons word first ih => exact ih _

theorem endpoint2Loop_log {ws : List UInt32} {f : Flasher}
    (h : f.progPtr + 4 * ws.length < 2 ^ 32) :
    (endpoint2Loop ws f).log = f.log ++ writesFrom f.progPtr ws := by
  induction ws generalizing f with
  | nil => exact (List.append_nil _).symm
  | cons word ws ih =>
      rw [List.length_cons] at h
      have hnext : ((f.flashWriteWord f.progPtr word).progPtr + 4) % 2 ^ 32 = f.progPtr + 4 :=
        Nat.mod_eq_of_lt (show f.progPtr + 4 < 2 ^ 32 by omega)
      rw [endpoint2Loop, hnext, ih (by dsimp only; omega)]
      exact List.append_assoc _ _ _

theorem run_endpoint2 (d : Device) (f : Flasher) (chunks : List (List UInt8)) :
    run (step d) f (chunks.map .endpoint2) = endpoint2Loop (chunks.flatMap words) f := by
  induction chunks generalizing f with
  | nil => rfl
  | cons chunk chunks ih =>
      rw [List.map_cons, run_cons, ih, List.flatMap_cons, endpoint2Loop_append]
      rfl

theorem seven_le_sectorCount (mcu : Mcu) : 7 ≤ sectorCount mcu := by
  cases mcu with
  | stm32f4 => decide
  | stm32h7 => decide

theorem step_erase {d : Device} {f : Flasher} {i : Nat} (hunlocked : f.unlocked = true)
    (hi : i + 1 < 7) :
    step d f (.control ⟨0xb2, .ofNat (i + 1), 0, 0⟩) = f.note (.erase (.ofNat (i + 1))) := by
  have hparam : (UInt16.ofNat (i + 1)).toNat = i + 1 :=
    UInt16.toNat_ofNat_of_lt' (Nat.lt_trans hi (by decide))
  have hsector : (UInt8.ofNat (i + 1)).toNat = i + 1 :=
    UInt8.toNat_ofNat_of_lt' (Nat.lt_trans hi (by decide))
  have hpos : UInt8.ofNat (i + 1) ≠ 0 := by
    intro hzero
    rw [hzero] at hsector
    exact absurd hsector (Nat.succ_ne_zero i).symm
  have hcount := seven_le_sectorCount d.mcu
  have herase : f.flashEraseSector d.mcu (.ofNat (i + 1)) f.unlocked =
      (true, f.note (.erase (.ofNat (i + 1)))) :=
    if_pos ⟨hpos, by omega, hunlocked⟩
  have hstep : step d f (.control ⟨0xb2, .ofNat (i + 1), 0, 0⟩) =
      (f.flashEraseSector d.mcu (.ofNat (UInt16.ofNat (i + 1)).toNat) f.unlocked).2 := rfl
  rw [hstep, hparam, herase]

theorem erasesTo_succ (last : Nat) :
    erasesTo (last + 1) = erasesTo last ++ [.erase (.ofNat (last + 1))] := by
  rw [erasesTo, List.range_succ, List.map_append, List.map_singleton]
  rfl

theorem run_erases {d : Device} {f : Flasher} {last : Nat} (hunlocked : f.unlocked = true)
    (hlast : last < 7) :
    run (step d) f ((List.range last).map fun i => .control ⟨0xb2, .ofNat (i + 1), 0, 0⟩) =
      { f with log := f.log ++ erasesTo last } := by
  induction last with
  | zero => rw [erasesTo, List.range_zero, List.map_nil, List.map_nil, List.append_nil, run_nil]
  | succ last ih =>
      have hstep := step_erase (d := d) (f := { f with log := f.log ++ erasesTo last })
        hunlocked hlast
      rw [List.range_succ, List.map_append, run_append, ih (Nat.lt_of_succ_lt hlast),
        List.map_singleton, run_cons, run_nil, hstep, note, erasesTo_succ, List.append_assoc]

def flashEntries (mcu : Mcu) (last : Nat) (code : List UInt8) : List FlashEntry :=
  .unlock :: erasesTo last ++ writesFrom (appStartAddress mcu) (words code) ++ [.reset]

theorem run_flashRequests {d : Device} {f : Flasher} {last : Nat} (hlast : last < 7)
    (hfits : appStartAddress d.mcu + code.length < 2 ^ 32) :
    (run (step d) f (flashRequests last code)).log = f.log ++ flashEntries d.mcu last code := by
  obtain ⟨g, hg, hunlocked, hptr, hlog⟩ : ∃ g, step d f (.control ⟨0xb1, 0, 0, 0⟩) = g ∧
      g.unlocked = true ∧ g.progPtr = appStartAddress d.mcu ∧ g.log = f.log ++ [.unlock] := by
    refine ⟨_, rfl, rfl, rfl, ?_⟩
    cases hlocked : f.flashLocked with
    | true => simp [step, commsControlHandler, hlocked, flashUnlock, note]
    | false => simp [step, commsControlHandler, hlocked, note]
  have hwords : g.progPtr + 4 * (words code).length < 2 ^ 32 := by
    rw [hptr, words_length]
    omega
  have hreset (h : Flasher) : (step d h (.control ⟨0xd8, 0, 0, 0⟩)).log = h.log ++ [.reset] := rfl
  rw [flashRequests, run_append, run_cons (step d) _ _ [], run_nil, hreset, run_append, run_cons,
    hg, run_erases hunlocked hlast, run_endpoint2, flatMap_words_flashChunks,
    endpoint2Loop_log (f := { g with log := g.log ++ erasesTo last }) hwords]
  simp only [hlog, hptr, flashEntries, List.append_assoc, List.cons_append, List.nil_append]

/-! ### The flash after a run -/

variable {mcu : Mcu} {mem : Nat → UInt8} {last : Nat}

theorem run_writesFrom (config : McuConfig) (mem : Nat → UInt8) (address : Nat)
    (ws : List UInt32) :
    flashAfter config mem (writesFrom address ws) =
      store mem address (ws.flatMap fun word => pointerBytes word.toNat) := by
  induction ws generalizing mem address with
  | nil => exact (store_nil mem address).symm
  | cons word ws ih =>
      have hrest := ih (store mem address (pointerBytes word.toNat)) (address + 4)
      have hblocks := store_append mem address (pointerBytes word.toNat)
        (ws.flatMap fun word => pointerBytes word.toNat)
      rw [List.flatMap_cons, ← hblocks]
      exact hrest

theorem run_erasesTo {config : McuConfig} (hlast : last < 7) {address : Nat}
    (hfirst : config.sectorAddress 1 ≤ address)
    (hend : address < config.sectorAddress (last + 1)) :
    flashAfter config mem (erasesTo last) address = 0xFF := by
  induction last with
  | zero => exact absurd hend (Nat.not_lt.mpr hfirst)
  | succ last ih =>
      have hsector : (UInt8.ofNat (last + 1)).toNat = last + 1 :=
        UInt8.toNat_ofNat_of_lt' (Nat.lt_trans hlast (by decide))
      rw [erasesTo_succ, flashAfter, run_append, run_cons, run_nil, FlashEntry.apply, hsector]
      dsimp only
      split
      · rfl
      · rename_i hother
        apply ih (Nat.lt_of_succ_lt hlast)
        by_contra hhere
        exact hother ⟨Nat.not_lt.mp hhere, hend⟩

/-- The flash holds the whole words of the code, and behind them what was erased. -/
theorem flashAfter_flashEntries (hlast : last < 7)
    (hend : appStartAddress mcu + code.length < (mcuConfig mcu).sectorAddress (last + 1)) {i : Nat}
    (hi : i < code.length) :
    flashAfter (mcuConfig mcu) mem (flashEntries mcu last code) (appStartAddress mcu + i) =
      (code.take (code.length / 4 * 4))[i]?.getD 0xFF := by
  have hstart : (mcuConfig mcu).sectorAddress 1 ≤ appStartAddress mcu + i := by
    rw [sectorAddress_one]
    exact Nat.le_add_right _ i
  have herased : flashAfter (mcuConfig mcu) mem (erasesTo last) (appStartAddress mcu + i) = 0xFF :=
    run_erasesTo hlast hstart (by omega)
  have hentries : flashAfter (mcuConfig mcu) mem (flashEntries mcu last code) =
      flashAfter (mcuConfig mcu) (flashAfter (mcuConfig mcu) mem (erasesTo last))
        (writesFrom (appStartAddress mcu) (words code)) := by
    rw [flashAfter, flashEntries, run_append, run_append]
    rfl
  rw [hentries, run_writesFrom, flatMap_pointerBytes_words, store_add, herased]

theorem mem_writesFrom {start address : Nat} {data : UInt32} {ws : List UInt32}
    (h : .write address data ∈ writesFrom start ws) :
    start ≤ address ∧ address + 4 ≤ start + 4 * ws.length := by
  induction ws generalizing start with
  | nil => cases h
  | cons word ws ih =>
      rw [List.length_cons]
      rcases List.mem_cons.mp h with heq | hrest
      · obtain ⟨rfl, -⟩ := FlashEntry.write.inj heq
        omega
      · have hbounds := ih hrest
        omega

theorem erase_mem_writesFrom {start : Nat} {sector : UInt8} {ws : List UInt32} :
    .erase sector ∉ writesFrom start ws := by
  intro h
  induction ws generalizing start with
  | nil => cases h
  | cons word ws ih =>
      rcases List.mem_cons.mp h with heq | hrest
      · cases heq
      · exact ih hrest

theorem mem_erasesTo {entry : FlashEntry} (hlast : last < 7) :
    entry ∈ erasesTo last ↔ ∃ sector : UInt8, entry = .erase sector ∧ 1 ≤ sector.toNat ∧
      sector.toNat ≤ last := by
  constructor
  · intro h
    obtain ⟨i, hi, rfl⟩ := List.mem_map.mp h
    have hlt := List.mem_range.mp hi
    have hsector : (UInt8.ofNat (i + 1)).toNat = i + 1 :=
      UInt8.toNat_ofNat_of_lt' (show i + 1 < 256 by omega)
    exact ⟨_, rfl, by omega, by omega⟩
  · rintro ⟨sector, rfl, hpos, hle⟩
    refine List.mem_map.mpr ⟨sector.toNat - 1, List.mem_range.mpr (by omega), ?_⟩
    rw [Nat.sub_add_cancel hpos, UInt8.ofNat_toNat]

theorem write_mem_flashEntries {address : Nat} {data : UInt32}
    (h : .write address data ∈ flashEntries mcu last code) :
    appStartAddress mcu ≤ address ∧ address + 4 ≤ appStartAddress mcu + code.length := by
  have hmem : .write address data ∈ writesFrom (appStartAddress mcu) (words code) := by
    rcases List.mem_append.mp h with hbefore | hreset
    · rcases List.mem_append.mp hbefore with herase | hwrite
      · rcases List.mem_cons.mp herase with heq | hin
        · cases heq
        · obtain ⟨i, -, heq⟩ := List.mem_map.mp hin
          cases heq
      · exact hwrite
    · cases List.mem_singleton.mp hreset
  obtain ⟨hstart, hend⟩ := mem_writesFrom hmem
  rw [words_length] at hend
  exact ⟨hstart, by omega⟩

theorem erase_mem_flashEntries {sector : UInt8} (hlast : last < 7)
    (h : .erase sector ∈ flashEntries mcu last code) : 1 ≤ sector ∧ sector < 7 := by
  rcases List.mem_append.mp h with hbefore | hreset
  · rcases List.mem_append.mp hbefore with herase | hwrite
    · rcases List.mem_cons.mp herase with heq | hin
      · cases heq
      · obtain ⟨sector', heq, hpos, hle⟩ := (mem_erasesTo hlast).mp hin
        obtain rfl := FlashEntry.erase.inj heq
        exact ⟨UInt8.le_iff_toNat_le.mpr hpos,
          UInt8.lt_iff_toNat_lt.mpr (Nat.lt_of_le_of_lt hle hlast)⟩
    · exact absurd hwrite erase_mem_writesFrom
  · cases List.mem_singleton.mp hreset

/-- The entries in front of a write hold all that are erased. -/
theorem erasesTo_before {before after : List FlashEntry} {address : Nat} {data : UInt32}
    (h : flashEntries mcu last code = before ++ .write address data :: after) :
    ∀ entry ∈ erasesTo last, entry ∈ before := by
  intro entry hentry
  rw [flashEntries, List.append_assoc] at h
  rcases List.append_eq_append_iff.mp h with ⟨more, rfl, -⟩ | ⟨more, herased, hmore⟩
  · exact List.mem_append_left _ (List.mem_cons_of_mem _ hentry)
  · cases more with
    | nil =>
        rw [List.append_nil] at herased
        rw [← herased]
        exact List.mem_cons_of_mem _ hentry
    | cons first more =>
        obtain ⟨rfl, -⟩ := List.cons.inj hmore
        have hwrite : .write address data ∈ .unlock :: erasesTo last := by
          rw [herased]
          exact List.mem_append_right _ List.mem_cons_self
        rcases List.mem_cons.mp hwrite with heq | hin
        · cases heq
        · obtain ⟨i, -, heq⟩ := List.mem_map.mp hin
          cases heq

/-- The whole code is in the flash exactly if the bytes of its last, unfinished word are
like erased ones. -/
theorem holds_iff (hlast : last < 7)
    (hend : appStartAddress mcu + code.length < (mcuConfig mcu).sectorAddress (last + 1)) :
    (∀ (i : Nat) (h : i < code.length),
        flashAfter (mcuConfig mcu) mem (flashEntries mcu last code) (appStartAddress mcu + i) =
          code[i]) ↔ ∀ b ∈ tailBytes code, b = 0xFF := by
  constructor
  · intro h b hb
    obtain ⟨j, hj, rfl⟩ := List.getElem_of_mem hb
    have hi : code.length / 4 * 4 + j < code.length := by
      rw [tailBytes, List.length_drop] at hj
      omega
    have hhere := h _ hi
    rw [flashAfter_flashEntries hlast hend hi,
      List.getElem?_take_eq_none (Nat.le_add_right _ j)] at hhere
    exact (List.getElem_drop ..).trans hhere.symm
  · intro h i hi
    rw [flashAfter_flashEntries hlast hend hi]
    rcases Nat.lt_or_ge i (code.length / 4 * 4) with hword | htail
    · rw [List.getElem?_take_of_lt hword, List.getElem?_eq_getElem hi]
      rfl
    · rw [List.getElem?_take_eq_none htail]
      obtain ⟨j, rfl⟩ := Nat.exists_eq_add_of_le htail
      exact (h _ (List.mem_drop_iff_getElem.mpr ⟨j, by omega, rfl⟩)).symm

theorem sectorsKept_flashEntries (hlast : last < 7)
    (hend : appStartAddress mcu + code.length < (mcuConfig mcu).sectorAddress (last + 1)) :
    SectorsKept mcu (flashEntries mcu last code) where
  erasedBefore := by
    intro before address data after hentries i hi sector hsector
    have hwrite : .write address data ∈ flashEntries mcu last code := by
      rw [hentries]
      exact List.mem_append_right _ List.mem_cons_self
    obtain ⟨hstart, hbound⟩ := write_mem_flashEntries hwrite
    have hfirst : (mcuConfig mcu).sectorAddress 1 ≤ address + i := by
      rw [sectorAddress_one]
      exact Nat.le_add_right_of_le hstart
    have hbefore : address + i < (mcuConfig mcu).sectorAddress (last + 1) := by omega
    obtain ⟨hpos, hlt⟩ := hsector.between (sectorAddress_monotone _) hfirst hbefore
    exact erasesTo_before hentries _
      ((mem_erasesTo hlast).mpr ⟨sector, rfl, hpos, Nat.le_of_lt_succ hlt⟩)
  erases := fun _ => erase_mem_flashEntries hlast
  writes := by
    intro address data hwrite
    obtain ⟨hstart, hbound⟩ := write_mem_flashEntries hwrite
    have hseven : (mcuConfig mcu).sectorAddress (last + 1) ≤ (mcuConfig mcu).sectorAddress 7 :=
      sectorAddress_monotone _ hlast
    rw [sectorAddress_one]
    exact ⟨hstart, by omega⟩

/-- For any code that `flash_static` accepts, any flasher and any flash: each sector is
erased before it is written, and sector 0 and those from 7 on are left alone. The flash
holds the code besides exactly if the bytes of its last, unfinished word are 0xFF. -/
theorem flashStatic_flashed (d : Device) (code : List UInt8) (f f' : Flasher)
    (h : flashStatic d code (some d.mcu) f = .ok f') (mem : Nat → UInt8) :
    ∃ entries, f'.log = f.log ++ entries ∧ SectorsKept d.mcu entries ∧
      (Flashed d.mcu code mem entries ↔ ∀ b ∈ tailBytes code, b = 0xFF) := by
  obtain ⟨last, -, hlast, hend, rfl⟩ := flashStatic_ok h
  have hseven : (mcuConfig d.mcu).sectorAddress (last + 1) ≤ (mcuConfig d.mcu).sectorAddress 7 :=
    sectorAddress_monotone _ hlast
  have hspace := sectorAddress_seven_lt d.mcu
  have hkept : SectorsKept d.mcu (flashEntries d.mcu last code) :=
    sectorsKept_flashEntries hlast hend
  refine ⟨_, run_flashRequests hlast (by omega), hkept, ?_⟩
  have hholds := @holds_iff code d.mcu mem last hlast hend
  exact ⟨fun h => hholds.mp h.holds, fun h => ⟨hkept, hholds.mpr h⟩⟩

/-- Six bytes, of which the last two are like erased ones. -/
theorem flashStatic_flashed_six :
    ∃ f', flashStatic ⟨.stm32h7, 0x07, [], [], [], []⟩ [1, 2, 3, 4, 0xFF, 0xFF] (some .stm32h7)
        {} = .ok f' ∧
      Flashed .stm32h7 [1, 2, 3, 4, 0xFF, 0xFF] (fun _ => 0) f'.log := by
  refine ⟨_, rfl, ?_⟩
  obtain ⟨entries, hlog, -, hflashed⟩ := flashStatic_flashed ⟨.stm32h7, 0x07, [], [], [], []⟩
    [1, 2, 3, 4, 0xFF, 0xFF] {} _ rfl fun _ => 0
  have htail : ∀ b ∈ tailBytes [1, 2, 3, 4, 0xFF, 0xFF], b = 0xFF :=
    List.forall_mem_cons.mpr ⟨rfl, List.forall_mem_singleton.mpr rfl⟩
  rw [hlog]
  exact hflashed.mpr htail

/-- A single byte is not written at all. -/
theorem not_flashed_byte :
    ∃ f', flashStatic ⟨.stm32h7, 0x07, [], [], [], []⟩ [0x00] (some .stm32h7) {} = .ok f' ∧
      ¬ Flashed .stm32h7 [0x00] (fun _ => 0) f'.log := by
  refine ⟨_, rfl, fun h => ?_⟩
  have hend : appStartAddress .stm32h7 + [(0x00 : UInt8)].length <
      (mcuConfig .stm32h7).sectorAddress (1 + 1) := by decide
  have htail := (holds_iff (by decide) hend).mp h.holds
  exact absurd (htail 0x00 List.mem_cons_self) (by decide)

end Panda.Bootstub
