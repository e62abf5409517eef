import Panda.Main.Registers

/-!
The map of `board/drivers/registers.h` over sequences of calls. The hash has ten bits
and the array one entry less than that, and the entries follow the registers as long
as no call has the address 0, which marks a free entry.
-/

namespace Panda.Main

open Library

namespace Registers

/-! ### Indexes -/

/-- Every index that `hash_addr` yields for an address is one of the array. -/
def IndexesValid (s : Registers) (addr : UInt32) : Prop :=
  ∀ hash ∈ s.hashIndexes addr, hash.toNat < registerMapSize

/-- The low bits of the address lead to one of the slots before the end of the array,
and from there to the end all slots belong to other addresses. -/
def RunsOut (s : Registers) (addr : UInt32) : Prop :=
  ∃ n < 256, addr.toNat % 2 ^ 10 = unhash (addr.toNat / 2 ^ 16 ^^^ toEnd n) ∧
    ∀ k, 0 < k → k ≤ n → (s.registerMap (.ofNat (toEnd k))).address ≠ 0 ∧
      (s.registerMap (.ofNat (toEnd k))).address ≠ addr

theorem checkCollision_iff {s : Registers} {addr : UInt32} {hash : UInt16} :
    s.checkCollision addr hash = true ↔
      (s.registerMap hash).address ≠ 0 ∧ (s.registerMap hash).address ≠ addr := by
  simp [checkCollision]

/-- A slot on the way to the end, under its number. -/
theorem toEnd_ofNat {hash : UInt16} {n : Nat} (h : hash.toNat = toEnd n) :
    UInt16.ofNat (toEnd n) = hash := by
  rw [← h, UInt16.ofNat_toNat]

/-- The search gets to the end of the array only along occupied slots. -/
theorem mem_hashIndexes_end {s : Registers} {addr : UInt32} {hash : UInt16}
    (hend : hash.toNat = toEnd 0) : hash ∈ s.hashIndexes addr ↔ s.RunsOut addr := by
  have hlt := hashAddr_lt addr
  rw [hashIndexes, mem_probed]
  constructor
  · rintro ⟨n, -, rfl, hchain⟩
    have hstart : (hashAddr addr).toNat = toEnd n := (rehash_iterate_eq_end hlt n).mp hend
    clear hend
    induction n using Nat.strong_induction_on with
    | h n ih =>
        rcases Nat.lt_or_ge n 256 with hn | hn
        · refine ⟨n, hn, (hashAddr_eq_iff (toEnd_lt n)).mp hstart, ?_⟩
          intro k hk hkn
          have hslot := rehash_iterate_toEnd hstart (Nat.sub_le n k)
          rw [Nat.sub_sub_self hkn] at hslot
          rw [toEnd_ofNat hslot]
          exact checkCollision_iff.mp (hchain _ (Nat.sub_lt_self hk hkn))
        · -- The end was reached a cycle earlier.
          have hearlier := toEnd_add (n - 256)
          rw [Nat.sub_add_cancel hn] at hearlier
          apply ih (n - 256) (by omega)
          · intro j hj
            exact hchain j (by omega)
          · rw [hstart, hearlier]
  · rintro ⟨n, hn, hlow, hslots⟩
    have hstart : (hashAddr addr).toNat = toEnd n := (hashAddr_eq_iff (toEnd_lt n)).mpr hlow
    refine ⟨n, Nat.le_of_lt (Nat.lt_trans hn (by decide)), ?_, ?_⟩
    · apply UInt16.toNat_inj.mp
      rw [hend]
      exact (rehash_iterate_eq_end hlt n).mpr hstart
    · intro j hj
      have hslot := rehash_iterate_toEnd hstart (Nat.le_of_lt hj)
      rw [checkCollision_iff, ← toEnd_ofNat hslot]
      exact hslots (n - j) (by omega) (Nat.sub_le n j)

/-- As long as the slot before the end is free, an address that is not taken to the
end itself does not get there. -/
theorem not_runsOut {s : Registers} {addr : UInt32} (hfree : (s.registerMap 88).address = 0)
    (hfirst : addr.toNat % 2 ^ 10 ≠ unhash (addr.toNat / 2 ^ 16 ^^^ 1023)) : ¬ s.RunsOut addr := by
  rintro ⟨n, -, hlow, hslots⟩
  cases n with
  | zero => exact hfirst hlow
  | succ n => exact (hslots 1 Nat.one_pos (Nat.succ_le_succ (Nat.zero_le n))).1 hfree

theorem hashIndexes_lt {s : Registers} {addr : UInt32} {hash : UInt16}
    (h : hash ∈ s.hashIndexes addr) : hash.toNat < 2 ^ 10 := by
  obtain ⟨n, -, rfl, -⟩ := mem_probed.mp h
  exact rehash_iterate_lt (hashAddr_lt addr) n

theorem indexesValid_iff (s : Registers) (addr : UInt32) :
    s.IndexesValid addr ↔ ¬ s.RunsOut addr := by
  have hend : (UInt16.ofNat (toEnd 0)).toNat = toEnd 0 := rfl
  rw [← mem_hashIndexes_end hend]
  constructor
  · intro h hmem
    have hlt := h _ hmem
    rw [hend] at hlt
    exact absurd hlt (by decide)
  · intro h hash hmem
    have hlt := hashIndexes_lt hmem
    have hne : hash.toNat ≠ toEnd 0 := by
      intro heq
      apply h
      rw [toEnd_ofNat heq]
      exact hmem
    change hash.toNat ≠ 1023 at hne
    change hash.toNat < 1023
    omega

end Registers

/-- In every sequence of calls, all indexes are valid exactly if no call runs out of
the array. -/
theorem hash_indexes_valid_iff (s : Registers) (calls : List RegisterCall) :
    Along registerStep (fun s c => s.IndexesValid c.addr) s calls ↔
      Along registerStep (fun s c => ¬ s.RunsOut c.addr) s calls := by
  have hgood : ∀ c ∈ calls, True := fun _ _ => trivial
  apply along_congr (I := fun _ => True) _ _ trivial hgood
  · intro s c _ _
    trivial
  · intro s c _ _
    exact s.indexesValid_iff c.addr

/-- The memory at power on, all zero. -/
def blankRegisters : Registers where
  registerMap _ := { address := 0, value := 0, checkMask := 0 }
  registers _ := 0

/-- An address of the region of the first timers. -/
theorem hash_index_behind :
    ¬ ∀ (s : Registers) (calls : List RegisterCall),
      Along registerStep (fun s c => s.IndexesValid c.addr) s.initRegisters calls := by
  intro hall
  obtain ⟨hvalid, -⟩ := hall blankRegisters [.set 0x40000058 0 0]
  have hfirst : hashAddr 0x40000058 ∈ blankRegisters.initRegisters.hashIndexes 0x40000058 :=
    mem_probed.mpr ⟨0, Nat.zero_le _, rfl, fun j hj => absurd hj (Nat.not_lt_zero j)⟩
  have hlt := hvalid _ hfirst
  revert hlt
  decide

/-! ### Consistency -/

namespace Registers

/-- The entries of the array, where those in use are under the slot at which the search
for their address ends, and hold what is in the register. -/
structure Filed (s : Registers) : Prop where
  settles : ∀ hash : UInt16, hash.toNat < registerMapSize → (s.registerMap hash).address ≠ 0 →
    Settles rehash (s.checkCollision (s.registerMap hash).address) registerMapSize
      (hashAddr (s.registerMap hash).address) hash
  free : ∀ hash : UInt16, hash.toNat < registerMapSize → (s.registerMap hash).address = 0 →
    (s.registerMap hash).checkMask = 0
  agrees : ∀ hash : UInt16, hash.toNat < registerMapSize →
    s.registers (s.registerMap hash).address &&& (s.registerMap hash).checkMask =
      (s.registerMap hash).value &&& (s.registerMap hash).checkMask

/-- What the calls keep: one entry for an address, entries that agree with the
registers, and nothing to report. The memory behind the array stays as it was. -/
structure Consistent (start s : Registers) : Prop where
  unique : ∀ i j : UInt16, i.toNat < registerMapSize → j.toNat < registerMapSize →
    (s.registerMap i).address ≠ 0 → (s.registerMap i).address = (s.registerMap j).address → i = j
  agrees : ∀ i : UInt16, i.toNat < registerMapSize →
    s.registers (s.registerMap i).address &&& (s.registerMap i).checkMask =
      (s.registerMap i).value &&& (s.registerMap i).checkMask
  quiet : s.checkRegisters = false
  behind : ∀ i : UInt16, registerMapSize ≤ i.toNat → s.registerMap i = start.registerMap i

/-- The same bits set in two words that agree on a mask. -/
theorem setMasked_agrees {a b mask' : UInt32} (h : a &&& mask' = b &&& mask') (val mask : UInt32) :
    setMasked a val mask &&& (mask' ||| mask) = setMasked b val mask &&& (mask' ||| mask) := by
  have hbits : ∀ i : Nat, (a.toBitVec.getLsbD i && mask'.toBitVec.getLsbD i) =
      (b.toBitVec.getLsbD i && mask'.toBitVec.getLsbD i) := by
    intro i
    have hi := congrArg (fun x : UInt32 => x.toBitVec.getLsbD i) h
    simpa using hi
  apply UInt32.toBitVec_inj.mp
  apply BitVec.eq_of_getLsbD_eq
  intro i hi
  have hbit := hbits i
  simp only [setMasked, UInt32.toBitVec_and, UInt32.toBitVec_or, UInt32.toBitVec_not,
    BitVec.getLsbD_and, BitVec.getLsbD_or, BitVec.getLsbD_not, hi, decide_true, Bool.true_and]
  cases hmask : mask.toBitVec.getLsbD i with
  | false => simpa [hmask] using hbit
  | true => simp

theorem initRegisters_filed (s : Registers) : s.initRegisters.Filed := by
  have haddress : ∀ hash : UInt16, hash.toNat < registerMapSize →
      s.initRegisters.registerMap hash = { s.registerMap hash with address := 0, checkMask := 0 } :=
    fun hash h => if_pos h
  constructor
  · intro hash h hused
    rw [haddress hash h] at hused
    exact absurd rfl hused
  · intro hash h _
    rw [haddress hash h]
  · intro hash h
    rw [haddress hash h]
    simp

/-- The search for an address settles at each entry of it. -/
theorem Filed.settles_at {s : Registers} (h : s.Filed) {addr : UInt32} (haddr : addr ≠ 0)
    {slot : UInt16} (hlt : slot.toNat < registerMapSize)
    (hsame : (s.registerMap slot).address = addr) :
    Settles rehash (s.checkCollision addr) registerMapSize (hashAddr addr) slot := by
  subst hsame
  exact h.settles slot hlt haddr

theorem Filed.unique {s : Registers} (h : s.Filed) {i j : UInt16} (hi : i.toNat < registerMapSize)
    (hj : j.toNat < registerMapSize) (hused : (s.registerMap i).address ≠ 0)
    (hsame : (s.registerMap i).address = (s.registerMap j).address) : i = j := by
  have hfirst := h.settles_at hused hi rfl
  have hsecond := h.settles_at hused hj hsame.symm
  exact hfirst.unique hsecond

theorem Filed.quiet {s : Registers} (h : s.Filed) : s.checkRegisters = false := by
  apply List.any_eq_false.mpr
  intro i hi
  have hlt : i < registerMapSize := List.mem_range.mp hi
  have hslot : (UInt16.ofNat i).toNat < registerMapSize := by
    rw [UInt16.toNat_ofNat']
    exact Nat.lt_of_le_of_lt (Nat.mod_le _ _) hlt
  have hagrees := h.agrees _ hslot
  simp [divergent, hagrees]

theorem registerSet_registers (addr val mask : UInt32) (s : Registers) :
    (s.registerSet addr val mask).registers =
      Function.update s.registers addr (setMasked (s.registers addr) val mask) := by
  unfold registerSet
  simp only
  split
  · rfl
  · rfl

/-- The call goes to the entry under `hash`, where the search settles. -/
structure StoredAt (s s' : Registers) (addr val mask : UInt32) (hash : UInt16) : Prop where
  settles : Settles rehash (s.checkCollision addr) registerMapSize (hashAddr addr) hash
  registerMap : s'.registerMap = Function.update s.registerMap hash
    { address := addr
      value := setMasked (s.registerMap hash).value val mask
      checkMask := (s.registerMap hash).checkMask ||| mask }
  registers : s'.registers =
    Function.update s.registers addr (setMasked (s.registers addr) val mask)

/-- The call finds no entry, and leaves the map as it is. -/
structure Unstored (s s' : Registers) (addr : UInt32) : Prop where
  full : ∀ hash, ¬ Settles rehash (s.checkCollision addr) registerMapSize (hashAddr addr) hash
  registerMap : s'.registerMap = s.registerMap
  registers : ∀ a ≠ addr, s'.registers a = s.registers a

theorem registerSet_cases (addr val mask : UInt32) (s : Registers) :
    (∃ hash ∈ s.hashIndexes addr, StoredAt s (s.registerSet addr val mask) addr val mask hash) ∨
      Unstored s (s.registerSet addr val mask) addr := by
  have hregisters := registerSet_registers addr val mask s
  by_cases htries : (s.findSlot addr).2 = 0
  · right
    refine ⟨?_, ?_, ?_⟩
    · intro hash hsettles
      exact hsettles.probe_eq.2 htries
    · rw [registerSet]
      exact (apply_ite registerMap _ _ _).trans (if_neg (not_not_intro htries))
    · intro a hne
      rw [hregisters, Function.update_of_ne hne]
  · left
    refine ⟨_, probe_mem_probed _ _ _ _, settles_of_probe htries, ?_, hregisters⟩
    rw [registerSet]
    exact (apply_ite registerMap _ _ _).trans (if_pos htries)

section Stored

variable {s s' : Registers} {addr val mask : UInt32} {hash slot : UInt16}

theorem StoredAt.entry (h : StoredAt s s' addr val mask hash) :
    s'.registerMap hash =
      { address := addr
        value := setMasked (s.registerMap hash).value val mask
        checkMask := (s.registerMap hash).checkMask ||| mask } := by
  rw [h.registerMap, Function.update_self]

theorem StoredAt.other (h : StoredAt s s' addr val mask hash) (hne : slot ≠ hash) :
    s'.registerMap slot = s.registerMap slot := by
  rw [h.registerMap, Function.update_of_ne hne]

/-- The entry was free or one of this address. -/
theorem StoredAt.taken (h : StoredAt s s' addr val mask hash) :
    (s.registerMap hash).address = 0 ∨ (s.registerMap hash).address = addr := by
  obtain ⟨-, -, -, -, hstop⟩ := h.settles
  by_contra hne
  rw [not_or] at hne
  rw [checkCollision_iff.mpr hne] at hstop
  cases hstop

/-- A search that went on past an entry still does. -/
theorem StoredAt.checkCollision (h : StoredAt s s' addr val mask hash) (haddr : addr ≠ 0)
    {a : UInt32} (hpassed : s.checkCollision a slot = true) : s'.checkCollision a slot = true := by
  rw [checkCollision_iff] at hpassed ⊢
  by_cases hslot : slot = hash
  · subst hslot
    rw [h.entry]
    rcases h.taken with hzero | hsame
    · exact absurd hzero hpassed.1
    · exact ⟨haddr, hsame ▸ hpassed.2⟩
  · rw [h.other hslot]
    exact hpassed

/-- A search that settled at an entry of its address still does. -/
theorem StoredAt.settled (h : StoredAt s s' addr val mask hash) (haddr : addr ≠ 0) {a : UInt32}
    (hsettles : Settles rehash (s.checkCollision a) registerMapSize (hashAddr a) slot)
    (hentry : (s'.registerMap slot).address = a) :
    Settles rehash (s'.checkCollision a) registerMapSize (hashAddr a) slot := by
  apply hsettles.mono
  · intro c hpassed
    exact h.checkCollision haddr hpassed
  · simp [Registers.checkCollision, hentry]

/-- What was in the entry agrees with the register of the address. -/
theorem StoredAt.agrees (h : StoredAt s s' addr val mask hash) (hs : s.Filed)
    (hlt : hash.toNat < registerMapSize) :
    s.registers addr &&& (s.registerMap hash).checkMask =
      (s.registerMap hash).value &&& (s.registerMap hash).checkMask := by
  rcases h.taken with hzero | hsame
  · rw [hs.free hash hlt hzero]
    simp
  · have hagrees := hs.agrees hash hlt
    rw [hsame] at hagrees
    exact hagrees

/-- No other entry is one of the address. -/
theorem StoredAt.address_ne (h : StoredAt s s' addr val mask hash) (hs : s.Filed)
    (haddr : addr ≠ 0) (hlt : slot.toNat < registerMapSize) (hne : slot ≠ hash) :
    (s.registerMap slot).address ≠ addr := by
  intro hsame
  exact hne ((hs.settles_at haddr hlt hsame).unique h.settles)

theorem Filed.stored (hs : s.Filed) (haddr : addr ≠ 0) (h : StoredAt s s' addr val mask hash) :
    s'.Filed := by
  constructor
  · intro slot hlt hused
    by_cases hslot : slot = hash
    · subst hslot
      rw [h.entry]
      exact h.settled haddr h.settles (by rw [h.entry])
    · rw [h.other hslot] at hused ⊢
      exact h.settled haddr (hs.settles slot hlt hused) (by rw [h.other hslot])
  · intro slot hlt hzero
    by_cases hslot : slot = hash
    · subst hslot
      rw [h.entry] at hzero
      exact absurd hzero haddr
    · rw [h.other hslot] at hzero ⊢
      exact hs.free slot hlt hzero
  · intro slot hlt
    by_cases hslot : slot = hash
    · subst hslot
      rw [h.entry, h.registers, Function.update_self]
      exact setMasked_agrees (h.agrees hs hlt) val mask
    · have hne := h.address_ne hs haddr hlt hslot
      rw [h.other hslot, h.registers, Function.update_of_ne hne]
      exact hs.agrees slot hlt

/-- A call that finds no entry has none to keep in step. -/
theorem Filed.unstored (hs : s.Filed) (haddr : addr ≠ 0) (h : Unstored s s' addr) : s'.Filed := by
  have hchecked : ∀ a, s'.checkCollision a = s.checkCollision a := by
    intro a
    funext slot
    simp [Registers.checkCollision, h.registerMap]
  constructor
  · intro slot hlt hused
    rw [h.registerMap] at hused ⊢
    rw [hchecked]
    exact hs.settles slot hlt hused
  · rw [h.registerMap]
    exact hs.free
  · intro slot hlt
    have hne : (s.registerMap slot).address ≠ addr :=
      fun hsame => h.full slot (hs.settles_at haddr hlt hsame)
    rw [h.registerMap, h.registers _ hne]
    exact hs.agrees slot hlt

end Stored

theorem Filed.registerSet {s : Registers} (h : s.Filed) {addr : UInt32} (haddr : addr ≠ 0)
    (val mask : UInt32) : (s.registerSet addr val mask).Filed := by
  rcases registerSet_cases addr val mask s with ⟨hash, -, hstored⟩ | hunstored
  · exact h.stored haddr hstored
  · exact h.unstored haddr hunstored

/-- A call with valid indexes leaves the memory behind the array alone. -/
theorem registerSet_behind {s : Registers} {addr : UInt32} (hvalid : s.IndexesValid addr)
    (val mask : UInt32) {i : UInt16} (hi : registerMapSize ≤ i.toNat) :
    (s.registerSet addr val mask).registerMap i = s.registerMap i := by
  rcases registerSet_cases addr val mask s with ⟨hash, hmem, hstored⟩ | hunstored
  · have hne : i ≠ hash := by
      rintro rfl
      exact absurd (hvalid i hmem) (Nat.not_lt.mpr hi)
    exact hstored.other hne
  · rw [hunstored.registerMap]

theorem Filed.consistent {start s : Registers} (h : s.Filed)
    (hbehind : ∀ i : UInt16, registerMapSize ≤ i.toNat → s.registerMap i = start.registerMap i) :
    Consistent start s where
  unique _ _ hi hj hused hsame := h.unique hi hj hused hsame
  agrees := h.agrees
  quiet := h.quiet
  behind := hbehind

end Registers

/-- In every sequence of calls with valid indexes, the array stays consistent and
`check_registers` has nothing to report, as long as no call has the address 0. -/
theorem register_map_consistent (s : Registers) (calls : List RegisterCall)
    (hvalid : Along registerStep (fun s c => s.IndexesValid c.addr) s.initRegisters calls)
    (hused : ∀ c ∈ calls, c.addr ≠ 0) :
    Always registerStep (Registers.Consistent s.initRegisters) s.initRegisters calls := by
  let start := s.initRegisters
  have hadmissible := hvalid.and (Along.of_forall hused start)
  apply hadmissible.always (I := fun t => t.Filed ∧
    ∀ i : UInt16, registerMapSize ≤ i.toNat → t.registerMap i = start.registerMap i)
  · rintro t c ⟨hindexes, haddr⟩ ⟨hfiled, hbehind⟩
    obtain ⟨val, mask, hstep⟩ := registerStep_eq t c
    rw [hstep]
    refine ⟨hfiled.registerSet haddr val mask, ?_⟩
    intro i hi
    rw [Registers.registerSet_behind hindexes val mask hi, hbehind i hi]
  · rintro t ⟨hfiled, hbehind⟩
    exact hfiled.consistent hbehind
  · exact ⟨s.initRegisters_filed, fun _ _ => rfl⟩

/-- Writes to the first register of two timers, whose addresses have the same hash. -/
def timerCalls : List RegisterCall :=
  [.set 0x40000000 1 1, .setBits 0x40000400 4, .clearBits 0x40000000 1]

/-- The second address is filed where the search goes on after the first one. -/
theorem register_map_consistent_collision :
    hashAddr 0x40000400 = hashAddr 0x40000000 ∧
      ((run registerStep blankRegisters.initRegisters timerCalls).registerMap
        (rehash (hashAddr 0x40000000))).address = 0x40000400 ∧
      Always registerStep (Registers.Consistent blankRegisters.initRegisters)
        blankRegisters.initRegisters timerCalls := by
  refine ⟨by decide, by decide +kernel, register_map_consistent _ _ ?_ (by decide)⟩
  refine ⟨?_, ?_, ?_, trivial⟩
  all_goals
    apply (Registers.indexesValid_iff _ _).mpr
    refine Registers.not_runsOut ?_ (by decide)
    decide +kernel

/-- A bit that is set under the address 0 stays in the entry, with its mask, when the
entry is taken for another address. -/
theorem register_map_stale :
    ¬ ∀ (s : Registers) (calls : List RegisterCall),
      Along registerStep (fun s c => s.IndexesValid c.addr) s.initRegisters calls →
      Always registerStep (Registers.Consistent s.initRegisters) s.initRegisters calls := by
  intro hall
  let first := registerStep blankRegisters.initRegisters (.set 0 1 1)
  have hvalid : Along registerStep (fun s c => s.IndexesValid c.addr) blankRegisters.initRegisters
      [.set 0 1 1, .set 0x40000000 0 2] := by
    refine ⟨?_, ?_, trivial⟩
    · apply (Registers.indexesValid_iff _ _).mpr
      exact Registers.not_runsOut rfl (by decide)
    · apply (Registers.indexesValid_iff _ _).mpr
      have hfree : (first.registerMap 88).address = 0 := by decide +kernel
      exact Registers.not_runsOut hfree (by decide)
  have hconsistent := (hall blankRegisters _ hvalid).last
  have hagrees := hconsistent.agrees 23 (by decide)
  revert hagrees
  decide +kernel

end Panda.Main
