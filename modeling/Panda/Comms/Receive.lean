import Panda.Comms.CanComms
import Panda.Library.Transition

/-!
The receive path: what the reads of the host return is the stream of the packets
that were queued, in whatever pieces.
-/

namespace Panda.Comms

open Library Safety

/-- All bytes that the host has still to read. -/
def CanComms.pending (s : CanComms) : List UInt8 :=
  s.canReadBuffer.carried ++ (s.canRxQ.queued.map wireBytes).flatten

/-- The tail goes out first. -/
theorem readTail_spec {b : AsmBuffer} (h : b.ptr ≤ 72) (maxLen : Nat) :
    (readTail maxLen b).1 = b.carried.take maxLen ∧
      (readTail maxLen b).2.carried = b.carried.drop maxLen ∧
      (readTail maxLen b).2.ptr = b.ptr - maxLen := by
  unfold readTail
  by_cases hptr : b.ptr > 0
  · rw [if_pos hptr]
    refine ⟨?_, ?_, ?_⟩
    · simp only [AsmBuffer.carried, List.take_take]
    · simp only [AsmBuffer.carried]
      rw [memcpyWithin_take _ (by omega), List.drop_take]
      rcases Nat.le_total maxLen b.ptr with hle | hle
      · rw [Nat.min_eq_left hle]
      · rw [Nat.min_eq_right hle, Nat.sub_self, Nat.sub_eq_zero_of_le hle]
        rfl
    · simp only
      omega
  · have hzero : b.ptr = 0 := by omega
    rw [if_neg hptr]
    simp [AsmBuffer.carried, hzero]

theorem readLoop_full {maxLen : Nat} {out : List UInt8} (h : maxLen ≤ out.length) (fuel : Nat)
    (s : CanComms) : readLoop maxLen fuel out s = (out, s) := by
  cases fuel with
  | zero => rfl
  | succ fuel =>
      rw [readLoop, if_neg]
      omega

/-- A read of at most `n` bytes returns `out`, and leaves the rest. -/
structure Reads (n : Nat) (s : CanComms) (out : List UInt8) (t : CanComms) : Prop where
  sent : out = s.pending.take n
  kept : t.pending = s.pending.drop n
  fits : t.canReadBuffer.ptr ≤ 72

theorem Reads.prepend {n : Nat} {s s' t : CanComms} {bytes out : List UInt8}
    (hpending : s.pending = bytes ++ s'.pending) (hn : bytes.length ≤ n)
    (h : Reads (n - bytes.length) s' out t) : Reads n s (bytes ++ out) t := by
  obtain ⟨m, rfl⟩ := Nat.exists_eq_add_of_le hn
  rw [Nat.add_sub_cancel_left] at h
  constructor
  · rw [hpending, List.take_length_add_append, h.sent]
  · rw [hpending, List.drop_length_add_append, h.kept]
  · exact h.fits

theorem pending_of_pop {s : CanComms} {p : CANPacket} {q : CanRing}
    (hptr : s.canReadBuffer.ptr = 0) (hpop : canPop s.canRxQ = (some p, q)) :
    s.pending = wireBytes p ++ CanComms.pending { s with canRxQ := q } := by
  obtain ⟨hhead, htail⟩ := canPop_spec s.canRxQ
  rw [hpop] at hhead htail
  have hqueue : s.canRxQ.queued = p :: q.queued := by
    rw [htail]
    exact (List.cons_head?_tail hhead.symm).symm
  simp [CanComms.pending, AsmBuffer.carried_of_zero hptr, hqueue]

theorem pending_of_empty {s : CanComms} {q : CanRing} (hptr : s.canReadBuffer.ptr = 0)
    (hpop : canPop s.canRxQ = (none, q)) : s.pending = [] ∧ q.queued = [] := by
  obtain ⟨hhead, htail⟩ := canPop_spec s.canRxQ
  rw [hpop] at hhead htail
  have hqueue : s.canRxQ.queued = [] := List.head?_eq_none_iff.mp hhead.symm
  rw [hqueue] at htail
  rw [CanComms.pending, AsmBuffer.carried_of_zero hptr, hqueue]
  exact ⟨rfl, htail⟩

/-- The packet that does not fit in the transfer goes to the buffer in part. -/
theorem carried_rest {b : AsmBuffer} (hptr : b.ptr = 0) (p : CANPacket) (sent : Nat) :
    AsmBuffer.carried
        { b with
          ptr := b.ptr + (canpacketHeadSize + getLen p - sent)
          data := copyInto b.data 0
            (((structBytes p).drop sent).take (b.ptr + (canpacketHeadSize + getLen p - sent))) } =
      (wireBytes p).drop sent := by
  have hle : getLen p ≤ 64 := dlcToLen_le p.dataLenCode
  have htail : (((structBytes p).drop sent).take (canpacketHeadSize + getLen p - sent)) =
      (wireBytes p).drop sent := by
    rw [wireBytes, List.drop_take]
  have hlength : ((wireBytes p).drop sent).length = canpacketHeadSize + getLen p - sent := by
    rw [List.length_drop, wireBytes_length]
  simp only [AsmBuffer.carried, hptr, Nat.zero_add, htail]
  have hcopied := @copyInto_take 72 b.data 0 ((wireBytes p).drop sent)
    (by rw [hlength]; simp only [canpacketHeadSize]; omega)
  rw [hlength, Nat.zero_add] at hcopied
  exact hcopied

/-- The loop sends what is queued, and keeps what does not fit. -/
theorem readLoop_reads {maxLen fuel : Nat} {out : List UInt8} {s : CanComms}
    (hptr : s.canReadBuffer.ptr = 0) (hfuel : maxLen < out.length + fuel) :
    ∃ sent, (readLoop maxLen fuel out s).1 = out ++ sent ∧
      Reads (maxLen - out.length) s sent (readLoop maxLen fuel out s).2 := by
  induction fuel generalizing out s with
  | zero =>
      refine ⟨[], (List.append_nil out).symm, ?_⟩
      rw [Nat.sub_eq_zero_of_le (by omega)]
      exact ⟨rfl, rfl, by simp [readLoop, hptr]⟩
  | succ fuel ih =>
      by_cases hpos : out.length < maxLen
      · rw [readLoop, if_pos hpos]
        rcases hpop : canPop s.canRxQ with ⟨_ | p, q⟩
        · obtain ⟨hpending, hqueue⟩ := pending_of_empty hptr hpop
          refine ⟨[], (List.append_nil out).symm, ?_, ?_, ?_⟩
          · rw [hpending, List.take_nil]
          · rw [hpending, List.drop_nil, CanComms.pending, AsmBuffer.carried_of_zero hptr, hqueue]
            rfl
          · simp [hptr]
        · have hpending := pending_of_pop hptr hpop
          have hlength := wireBytes_length p
          have hpositive : 0 < canpacketHeadSize := by decide
          by_cases hfits : out.length + (canpacketHeadSize + getLen p) ≤ maxLen
          · obtain ⟨sent, hsent, hreads⟩ := @ih (out ++ wireBytes p) { s with canRxQ := q } hptr
              (by rw [List.length_append]; omega)
            rw [List.length_append, ← Nat.sub_sub] at hreads
            simp only [if_pos hfits]
            refine ⟨wireBytes p ++ sent, ?_, ?_⟩
            · rw [← List.append_assoc]
              exact hsent
            · exact hreads.prepend hpending (by omega)
          · have hsent : ((structBytes p).take (maxLen - out.length)) =
                (wireBytes p).take (maxLen - out.length) := by
              rw [wireBytes, List.take_take, Nat.min_eq_left (by omega)]
            have hfull : maxLen ≤ (out ++ (wireBytes p).take (maxLen - out.length)).length := by
              rw [List.length_append, List.length_take]
              omega
            have hrest := carried_rest hptr p (maxLen - out.length)
            simp only [if_neg hfits, hsent]
            rw [readLoop_full hfull]
            refine ⟨(wireBytes p).take (maxLen - out.length), rfl, ?_, ?_, ?_⟩
            · rw [hpending, List.take_append_of_le_length (by omega)]
            · rw [hpending, List.drop_append_of_le_length (by omega), ← hrest]
              simp [CanComms.pending, AsmBuffer.carried_of_zero hptr]
            · have hle : getLen p ≤ 64 := dlcToLen_le p.dataLenCode
              have hsix : canpacketHeadSize = 6 := rfl
              simp only [hptr]
              omega
      · have hfull : maxLen ≤ out.length := by omega
        rw [readLoop_full hfull, Nat.sub_eq_zero_of_le hfull]
        exact ⟨[], (List.append_nil out).symm, rfl, rfl, by simp [hptr]⟩

/-- `comms_can_read` returns the next bytes that are pending. -/
theorem commsCanRead_reads (maxLen : Nat) {s : CanComms} (hs : s.canReadBuffer.ptr ≤ 72) :
    Reads maxLen s (commsCanRead maxLen s).1 (commsCanRead maxLen s).2 := by
  obtain ⟨hout, hcarried, hptr⟩ := readTail_spec hs maxLen
  have hlength := AsmBuffer.carried_length hs
  unfold commsCanRead
  rcases htail : readTail maxLen s.canReadBuffer with ⟨out, b⟩
  rw [htail] at hout hcarried hptr
  simp only at hout hcarried hptr ⊢
  by_cases hzero : b.ptr = 0
  · have hwhole : out = s.canReadBuffer.carried := by
      rw [hout, List.take_of_length_le (by omega)]
    have hpending : s.pending = out ++ CanComms.pending { s with canReadBuffer := b } := by
      rw [CanComms.pending, CanComms.pending, AsmBuffer.carried_of_zero hzero, hwhole]
      rfl
    obtain ⟨sent, hsent, hreads⟩ := @readLoop_reads maxLen (maxLen + 1) out
      { s with canReadBuffer := b } hzero (by omega)
    rw [if_pos hzero, hsent]
    apply hreads.prepend hpending
    rw [hwhole]
    omega
  · rw [if_neg hzero]
    refine ⟨?_, ?_, ?_⟩
    · rw [hout, CanComms.pending, List.take_append_of_le_length (by omega)]
    · rw [CanComms.pending, CanComms.pending, hcarried, List.drop_append_of_le_length (by omega)]
    · simp only
      omega

/-- A read comes back short only when nothing is left. -/
theorem Reads.drained {n : Nat} {s t : CanComms} {out : List UInt8} (h : Reads n s out t)
    (hshort : out.length < n) : t.canRxQ.queued = [] ∧ t.canReadBuffer.ptr = 0 := by
  have hlt : s.pending.length < n := by
    rw [h.sent, List.length_take] at hshort
    omega
  have hnone : t.pending = [] := by
    rw [h.kept]
    exact List.drop_of_length_le (Nat.le_of_lt hlt)
  obtain ⟨hcarried, hqueue⟩ := List.append_eq_nil_iff.mp hnone
  constructor
  · cases hqueued : t.canRxQ.queued with
    | nil => rfl
    | cons p queued =>
        rw [hqueued, List.map_cons, List.flatten_cons] at hqueue
        have hbytes := (List.append_eq_nil_iff.mp hqueue).1
        have hlength := wireBytes_length p
        rw [hbytes] at hlength
        simp only [List.length_nil, canpacketHeadSize] at hlength
        omega
  · have hlength := AsmBuffer.carried_length h.fits
    rw [hcarried] at hlength
    exact hlength.symm

/-! ### Runs -/

/-- A received packet is queued, or the host reads. -/
inductive RxEvent where
  | push (packet : CANPacket)
  | read (maxLen : Nat)

def rxStep (s : CanComms) : RxEvent → CanComms
  | .push packet => { s with canRxQ := (canPush packet s.canRxQ).2 }
  | .read maxLen => (commsCanRead maxLen s).2

/-- The bytes that the call returns. -/
def rxReturned (s : CanComms) : RxEvent → List UInt8
  | .push _ => []
  | .read maxLen => (commsCanRead maxLen s).1

/-- The packet that the call adds to the queue. A full queue takes none. -/
def rxAdded (s : CanComms) : RxEvent → List CANPacket
  | .push packet => if (canPush packet s.canRxQ).1 then [packet] else []
  | .read _ => []

/-- All bytes that the reads of the run return. -/
def bytesRead (s : CanComms) (events : List RxEvent) : List UInt8 :=
  (trace rxStep rxReturned s events).flatten

/-- All packets that the queue holds in the run. -/
def packetsQueued (s : CanComms) (events : List RxEvent) : List CANPacket :=
  s.canRxQ.queued ++ (trace rxStep rxAdded s events).flatten

theorem rxStep_fits {s : CanComms} (e : RxEvent) (hs : s.canReadBuffer.ptr ≤ 72) :
    (rxStep s e).canReadBuffer.ptr ≤ 72 := by
  cases e with
  | push packet => exact hs
  | read maxLen => exact (commsCanRead_reads maxLen hs).fits

/-- One call moves bytes from the pending ones to the host, or adds a packet. -/
theorem rxStep_pending {s : CanComms} (e : RxEvent) (hs : s.canReadBuffer.ptr ≤ 72) :
    rxReturned s e ++ (rxStep s e).pending =
      s.pending ++ ((rxAdded s e).map wireBytes).flatten := by
  cases e with
  | push packet =>
      have hqueue := (canPush_spec packet s.canRxQ).2
      simp only [rxReturned, rxStep, rxAdded, CanComms.pending, List.nil_append]
      rw [hqueue]
      split
      · simp
      · simp
  | read maxLen =>
      have hreads := commsCanRead_reads maxLen hs
      simp only [rxReturned, rxStep, rxAdded, List.map_nil, List.flatten_nil, List.append_nil]
      rw [hreads.sent, hreads.kept]
      exact List.take_append_drop maxLen s.pending

theorem run_pending {s : CanComms} (events : List RxEvent) (hs : s.canReadBuffer.ptr ≤ 72) :
    bytesRead s events ++ (run rxStep s events).pending =
      s.pending ++ ((trace rxStep rxAdded s events).flatten.map wireBytes).flatten := by
  induction events generalizing s with
  | nil => simp [bytesRead, trace]
  | cons e events ih =>
      have hlater := ih (rxStep_fits e hs)
      have hnow := rxStep_pending e hs
      simp only [bytesRead, trace, run_cons, List.flatten_cons, List.append_assoc,
        List.map_append, List.flatten_append] at hlater ⊢
      rw [hlater, ← List.append_assoc, hnow, List.append_assoc]

end Panda.Comms
