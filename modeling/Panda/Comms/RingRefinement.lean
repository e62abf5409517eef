import Panda.Comms.CanCommon
import Panda.Library.Fifo
import Panda.Library.Transition

/-!
The interrupt safe queue of `board/drivers/can_common.h` in its 32-bit words. No
operation of it leaves the range of the words, so that it is the queue of `CanRing`,
which is a bounded queue that holds one packet less than it has cells.
-/

namespace Panda.Comms

open Library Safety

/-- `can_ring`. -/
structure RingWords where
  wPtr : UInt32
  rPtr : UInt32
  fifoSize : UInt32
  elems : Nat → CANPacket

namespace RingWords

def canPop (q : RingWords) : Option CANPacket × RingWords :=
  if q.wPtr ≠ q.rPtr then
    (some (q.elems q.rPtr.toNat),
      { q with rPtr := if q.rPtr + 1 = q.fifoSize then 0 else q.rPtr + 1 })
  else (none, q)

def canPush (elem : CANPacket) (q : RingWords) : Bool × RingWords :=
  let nextWPtr := if q.wPtr + 1 = q.fifoSize then 0 else q.wPtr + 1
  if nextWPtr ≠ q.rPtr then
    (true, { q with
      elems := Function.update q.elems q.wPtr.toNat elem
      wPtr := nextWPtr })
  else (false, q)

def canSlotsEmpty (q : RingWords) : UInt32 :=
  if q.wPtr ≥ q.rPtr then q.fifoSize - 1 - q.wPtr + q.rPtr else q.rPtr - q.wPtr - 1

/-- `can_clear`. What it does beside, `refresh_can_tx_slots_available`, only reads the
queues. -/
def canClear (q : RingWords) : RingWords := { q with wPtr := 0, rPtr := 0 }

/-- The queue after a call. -/
def step (q : RingWords) : Fifo.Call CANPacket → RingWords
  | .push elem => (q.canPush elem).2
  | .pop => q.canPop.2
  | .room => q
  | .clear => q.canClear

def result (q : RingWords) : Fifo.Call CANPacket → Fifo.Result CANPacket
  | .push elem => .pushed (q.canPush elem).1
  | .pop => .popped q.canPop.1
  | .room => .room q.canSlotsEmpty.toNat
  | .clear => .cleared

/-- No subtraction of `can_slots_empty` goes below zero. -/
def NoUnderflow (q : RingWords) : Prop :=
  if q.wPtr ≥ q.rPtr then 1 ≤ q.fifoSize.toNat ∧ q.wPtr.toNat ≤ q.fifoSize.toNat - 1
  else q.wPtr.toNat + 1 ≤ q.rPtr.toNat

/-- Both pointers are below the size. -/
structure Bounded (q : RingWords) : Prop where
  wPtr_lt : q.wPtr.toNat < q.fifoSize.toNat
  rPtr_lt : q.rPtr.toNat < q.fifoSize.toNat

/-- The queue with its pointers as numbers. -/
def toRing (q : RingWords) (h : q.Bounded) : CanRing where
  wPtr := q.wPtr.toNat
  rPtr := q.rPtr.toNat
  fifoSize := q.fifoSize.toNat
  elems := q.elems
  wPtr_lt := h.wPtr_lt
  rPtr_lt := h.rPtr_lt

theorem next_toNat {size i : UInt32} (h : i.toNat < size.toNat) :
    (if i + 1 = size then 0 else i + 1 : UInt32).toNat = ringNext size.toNat i.toNat := by
  have hlt := size.toNat_lt
  have hsucc : (i + 1).toNat = i.toNat + 1 := by
    rw [UInt32.toNat_add, UInt32.toNat_one]
    exact Nat.mod_eq_of_lt (by omega)
  unfold ringNext
  split
  · next heq =>
      rw [← heq, hsucc, if_pos rfl]
      rfl
  · next hne =>
      rw [hsucc, if_neg]
      rw [← hsucc]
      exact fun heq => hne (UInt32.toNat_inj.mp heq)

theorem canPop_fifoSize (q : RingWords) : q.canPop.2.fifoSize = q.fifoSize := by
  unfold RingWords.canPop
  split
  · rfl
  · rfl

theorem canPush_fifoSize (elem : CANPacket) (q : RingWords) :
    (q.canPush elem).2.fifoSize = q.fifoSize := by
  unfold RingWords.canPush
  simp only
  generalize (if q.wPtr + 1 = q.fifoSize then 0 else q.wPtr + 1) = next
  split
  · rfl
  · rfl

/-- A pop is that of the queue of numbers. -/
theorem canPop_toRing {q : RingWords} (h : q.Bounded) :
    q.canPop.1 = (Comms.canPop (q.toRing h)).1 ∧
      ∃ h' : q.canPop.2.Bounded, q.canPop.2.toRing h' = (Comms.canPop (q.toRing h)).2 := by
  have hnext := next_toNat h.rPtr_lt
  unfold RingWords.canPop Comms.canPop
  by_cases hempty : q.wPtr = q.rPtr
  · have hempty' : (q.toRing h).wPtr = (q.toRing h).rPtr := congrArg UInt32.toNat hempty
    rw [if_neg (not_not_intro hempty), if_neg (not_not_intro hempty')]
    exact ⟨rfl, h, rfl⟩
  · have hempty' : (q.toRing h).wPtr ≠ (q.toRing h).rPtr :=
      fun heq => hempty (UInt32.toNat_inj.mp heq)
    rw [if_pos hempty, if_pos hempty']
    refine ⟨rfl, ⟨h.wPtr_lt, ?_⟩, ?_⟩
    · rw [hnext]
      exact ringNext_lt h.rPtr_lt
    · simp only [toRing, hnext]

theorem canPush_toRing (elem : CANPacket) {q : RingWords} (h : q.Bounded) :
    (q.canPush elem).1 = (Comms.canPush elem (q.toRing h)).1 ∧
      ∃ h' : (q.canPush elem).2.Bounded,
        (q.canPush elem).2.toRing h' = (Comms.canPush elem (q.toRing h)).2 := by
  have hnext := next_toNat h.wPtr_lt
  unfold RingWords.canPush Comms.canPush
  simp only
  generalize (if q.wPtr + 1 = q.fifoSize then 0 else q.wPtr + 1) = next at *
  have hsame : next = q.rPtr ↔
      ringNext (q.toRing h).fifoSize (q.toRing h).wPtr = (q.toRing h).rPtr := by
    rw [← UInt32.toNat_inj, hnext]
    exact Iff.rfl
  by_cases hfull : next = q.rPtr
  · rw [if_neg (not_not_intro hfull), if_neg (not_not_intro (hsame.mp hfull))]
    exact ⟨rfl, h, rfl⟩
  · rw [if_pos hfull, if_pos fun heq => hfull (hsame.mpr heq)]
    refine ⟨rfl, ⟨?_, h.rPtr_lt⟩, ?_⟩
    · rw [hnext]
      exact ringNext_lt h.wPtr_lt
    · simp only [toRing, hnext]

/-- The free slots are counted without leaving the range of the words. -/
theorem canSlotsEmpty_toRing {q : RingWords} (h : q.Bounded) :
    q.NoUnderflow ∧ q.canSlotsEmpty.toNat = Comms.canSlotsEmpty (q.toRing h) := by
  have hw := h.wPtr_lt
  have hr := h.rPtr_lt
  have hsize := q.fifoSize.toNat_lt
  have hone : (1 : UInt32).toNat = 1 := rfl
  unfold NoUnderflow RingWords.canSlotsEmpty Comms.canSlotsEmpty
  simp only [toRing, ge_iff_le, UInt32.le_iff_toNat_le]
  split
  · refine ⟨by omega, ?_⟩
    simp only [UInt32.toNat_add, UInt32.toNat_sub, hone]
    omega
  · refine ⟨by omega, ?_⟩
    simp only [UInt32.toNat_sub, hone]
    omega

/-- The queue stands for a bounded queue of its packets. -/
structure Models {capacity : Nat} (q : RingWords) (f : Fifo CANPacket capacity) : Prop where
  bounded : q.Bounded
  capacity_eq : capacity = q.fifoSize.toNat - 1
  items : f.items = (q.toRing bounded).queued

section Steps

variable {capacity : Nat} {q : RingWords} {f : Fifo CANPacket capacity}

theorem Models.push (h : q.Models f) (elem : CANPacket) :
    (q.canPush elem).1 = (f.push elem).1 ∧ (q.canPush elem).2.Models (f.push elem).2 := by
  obtain ⟨hq, rfl, hitems⟩ := h
  obtain ⟨hret, hbounded, hring⟩ := canPush_toRing elem hq
  obtain ⟨hroom, hqueued⟩ := canPush_spec elem (q.toRing hq)
  obtain ⟨hput, hnext⟩ := Fifo.push_spec elem f
  have hsame : (q.canPush elem).1 = (f.push elem).1 := by
    rw [hret, hroom, hput, hitems]
    rfl
  refine ⟨hsame, hbounded, ?_, ?_⟩
  · rw [canPush_fifoSize]
  · rw [hring, hqueued, hnext, ← hsame, hret, hitems]

theorem Models.pop (h : q.Models f) : q.canPop.1 = f.pop.1 ∧ q.canPop.2.Models f.pop.2 := by
  obtain ⟨hq, rfl, hitems⟩ := h
  obtain ⟨hret, hbounded, hring⟩ := canPop_toRing hq
  obtain ⟨holdest, hqueued⟩ := canPop_spec (q.toRing hq)
  refine ⟨?_, hbounded, ?_, ?_⟩
  · rw [hret, holdest, ← hitems]
    rfl
  · rw [canPop_fifoSize]
  · rw [hring, hqueued, ← hitems]
    rfl

theorem Models.room (h : q.Models f) : q.canSlotsEmpty.toNat = f.room := by
  obtain ⟨hq, rfl, hitems⟩ := h
  have hslots := canSlotsEmpty_eq (q.toRing hq)
  have hsize : (q.toRing hq).fifoSize = q.fifoSize.toNat := rfl
  rw [(canSlotsEmpty_toRing hq).2, Fifo.room, hitems]
  omega

theorem Models.clear (h : q.Models f) :
    q.canClear.Models (Fifo.empty : Fifo CANPacket capacity) where
  bounded := ⟨Nat.zero_lt_of_lt h.bounded.wPtr_lt, Nat.zero_lt_of_lt h.bounded.wPtr_lt⟩
  capacity_eq := h.capacity_eq
  items := (CanRing.queued_eq_nil.mpr rfl).symm

/-- Each call returns the same for both, and keeps them together. -/
theorem Models.step (h : q.Models f) (c : Fifo.Call CANPacket) :
    q.result c = f.result c ∧ (q.step c).Models (f.step c) := by
  cases c with
  | push elem =>
      obtain ⟨hret, hnext⟩ := h.push elem
      exact ⟨congrArg Fifo.Result.pushed hret, hnext⟩
  | pop =>
      obtain ⟨hret, hnext⟩ := h.pop
      exact ⟨congrArg Fifo.Result.popped hret, hnext⟩
  | room => exact ⟨congrArg Fifo.Result.room h.room, h⟩
  | clear => exact ⟨rfl, h.clear⟩

end Steps

theorem empty_models {q : RingWords} (hbounded : q.Bounded) (hempty : q.wPtr = q.rPtr) :
    q.Models (Fifo.empty : Fifo CANPacket (q.fifoSize.toNat - 1)) where
  bounded := hbounded
  capacity_eq := rfl
  items := (CanRing.queued_eq_nil.mpr (congrArg UInt32.toNat hempty)).symm

theorem Bounded.step {q : RingWords} (h : q.Bounded) (c : Fifo.Call CANPacket) :
    (q.step c).Bounded := by
  cases c with
  | push elem => exact (canPush_toRing elem h).2.1
  | pop => exact (canPop_toRing h).2.1
  | room => exact h
  | clear => exact ⟨Nat.zero_lt_of_lt h.wPtr_lt, Nat.zero_lt_of_lt h.wPtr_lt⟩

theorem canPush_failed {q : RingWords} {elem : CANPacket} (h : (q.canPush elem).1 = false) :
    (q.canPush elem).2 = q := by
  unfold RingWords.canPush at *
  simp only at *
  generalize (if q.wPtr + 1 = q.fifoSize then 0 else q.wPtr + 1) = next at *
  split
  · next hroom =>
      rw [if_pos hroom] at h
      cases h
  · rfl

/-- What holds of the queue at all times: the pointers are below the size, the free
slots are counted without underflow, and a push that fails changes nothing. -/
structure Sound (q : RingWords) : Prop where
  wPtr_lt : q.wPtr < q.fifoSize
  rPtr_lt : q.rPtr < q.fifoSize
  noUnderflow : q.NoUnderflow
  unchanged : ∀ elem, (q.canPush elem).1 = false → (q.canPush elem).2 = q

theorem Bounded.sound {q : RingWords} (h : q.Bounded) : q.Sound where
  wPtr_lt := UInt32.lt_iff_toNat_lt.mpr h.wPtr_lt
  rPtr_lt := UInt32.lt_iff_toNat_lt.mpr h.rPtr_lt
  noUnderflow := (canSlotsEmpty_toRing h).1
  unchanged _ := canPush_failed

end RingWords

/-- From the empty queue on, `can_ring` behaves as a bounded queue of
`fifo_size - 1` packets. -/
theorem can_ring_refines_fifo (q : RingWords) (hsize : 2 ≤ q.fifoSize)
    (hempty : q.wPtr = 0 ∧ q.rPtr = 0) (calls : List (Fifo.Call CANPacket)) :
    trace RingWords.step RingWords.result q calls =
        trace Fifo.step Fifo.result (Fifo.empty : Fifo CANPacket (q.fifoSize.toNat - 1)) calls ∧
      Always RingWords.step RingWords.Sound q calls := by
  obtain ⟨hw, hr⟩ := hempty
  have htwo : 2 ≤ q.fifoSize.toNat := UInt32.le_iff_toNat_le.mp hsize
  have hbounded : q.Bounded := by
    constructor
    · rw [hw]
      exact Nat.lt_of_lt_of_le (by decide) htwo
    · rw [hr]
      exact Nat.lt_of_lt_of_le (by decide) htwo
  constructor
  · apply trace_eq_of_simulation (R := RingWords.Models)
    · intro s t c h
      exact h.step c
    · exact RingWords.empty_models hbounded (hw.trans hr.symm)
  · have hany : ∀ c ∈ calls, True := fun _ _ => trivial
    apply (Along.of_forall hany q).always (I := RingWords.Bounded)
    · intro s c _ h
      exact h.step c
    · intro s h
      exact h.sound
    · exact hbounded

/-- A queue of two cells, which holds one packet. -/
def smallestRing : RingWords where
  wPtr := 0
  rPtr := 0
  fifoSize := 2
  elems _ := ofStruct []

theorem can_ring_refines_fifo_smallest :
    trace RingWords.step RingWords.result smallestRing
        [.push (ofStruct []), .push (ofStruct []), .pop, .room, .pop] =
      trace Fifo.step Fifo.result (Fifo.empty : Fifo CANPacket (smallestRing.fifoSize.toNat - 1))
        [.push (ofStruct []), .push (ofStruct []), .pop, .room, .pop] ∧
      Always RingWords.step RingWords.Sound smallestRing
        [.push (ofStruct []), .push (ofStruct []), .pop, .room, .pop] :=
  can_ring_refines_fifo smallestRing (by decide) ⟨rfl, rfl⟩ _

end Panda.Comms
