import Panda.Library.Ring
import Panda.Safety.Packet

/-!
`can_ring` of `board/drivers/can_common.h`: the interrupt safe queue, with the
queue of packets that it stands for. One cell always stays free.
-/

namespace Panda.Comms

open Library Safety

/-- `can_ring`, with both pointers below the size. -/
structure CanRing where
  wPtr : Nat
  rPtr : Nat
  fifoSize : Nat
  elems : Nat → CANPacket
  wPtr_lt : wPtr < fifoSize
  rPtr_lt : rPtr < fifoSize

def canPop (q : CanRing) : Option CANPacket × CanRing :=
  if q.wPtr ≠ q.rPtr then
    (some (q.elems q.rPtr),
      { q with rPtr := ringNext q.fifoSize q.rPtr, rPtr_lt := ringNext_lt q.rPtr_lt })
  else (none, q)

def canPush (elem : CANPacket) (q : CanRing) : Bool × CanRing :=
  let nextWPtr := ringNext q.fifoSize q.wPtr
  if nextWPtr ≠ q.rPtr then
    (true, { q with
      elems := Function.update q.elems q.wPtr elem
      wPtr := nextWPtr
      wPtr_lt := ringNext_lt q.wPtr_lt })
  else (false, q)

/-- The packets in the queue, the oldest first. -/
def CanRing.queued (q : CanRing) : List CANPacket :=
  window q.elems q.fifoSize q.rPtr (ringCount q.fifoSize q.rPtr q.wPtr)

theorem CanRing.queued_length (q : CanRing) :
    q.queued.length = ringCount q.fifoSize q.rPtr q.wPtr := by
  simp [queued]

theorem CanRing.queued_eq_nil {q : CanRing} : q.queued = [] ↔ q.wPtr = q.rPtr := by
  rw [← List.length_eq_zero_iff, queued_length, ringCount_eq_zero q.rPtr_lt]
  exact eq_comm

theorem canPop_spec (q : CanRing) :
    (canPop q).1 = q.queued.head? ∧ (canPop q).2.queued = q.queued.tail := by
  unfold canPop
  by_cases hempty : q.wPtr = q.rPtr
  · rw [if_neg (not_not_intro hempty), CanRing.queued_eq_nil.mpr hempty]
    exact ⟨rfl, rfl⟩
  · have holdest := window_pop q.elems q.rPtr_lt q.wPtr_lt (Ne.symm hempty)
    rw [if_pos hempty, CanRing.queued, holdest]
    exact ⟨rfl, rfl⟩

/-- A push fails when all cells but one are taken, and then changes nothing. -/
theorem canPush_spec (elem : CANPacket) (q : CanRing) :
    (canPush elem q).1 = decide (q.queued.length < q.fifoSize - 1) ∧
      (canPush elem q).2.queued =
        if (canPush elem q).1 then q.queued ++ [elem] else q.queued := by
  have hfull := ringNext_eq_iff q.rPtr_lt q.wPtr_lt
  have hlt := ringCount_lt q.rPtr_lt q.wPtr_lt
  unfold canPush
  by_cases hnext : ringNext q.fifoSize q.wPtr = q.rPtr
  · have hcount := hfull.mp hnext
    rw [if_neg (not_not_intro hnext)]
    refine ⟨?_, rfl⟩
    rw [CanRing.queued_length, eq_comm, decide_eq_false_iff_not]
    omega
  · have hcount : ringCount q.fifoSize q.rPtr q.wPtr ≠ q.fifoSize - 1 :=
      fun h => hnext (hfull.mpr h)
    rw [if_pos hnext]
    constructor
    · rw [CanRing.queued_length, eq_comm, decide_eq_true_iff]
      omega
    · exact window_push q.elems q.rPtr_lt q.wPtr_lt hnext elem

end Panda.Comms
