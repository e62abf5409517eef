import Panda.Comms.Receive
import Panda.Library.Loop

/-!
The loops of `comms_can_read` and `comms_can_write` of `board/can_comms.h` end: each
iteration gets on in the chunk by a packet, or by the rest of the chunk.
-/

namespace Panda.Comms

open Library Safety

/-- An iteration of `while ((pos < max_len) && can_pop(&can_rx_q, &can_packet))`. -/
def readBody (maxLen : Nat) (s : List UInt8 × CanComms) :
    (List UInt8 × CanComms) ⊕ (List UInt8 × CanComms) :=
  let next := readLoop maxLen 1 s.1 s.2
  if s.1.length < maxLen ∧ (canPop s.2.canRxQ).1.isSome then .inl next else .inr next

/-- `comms_can_read` with less than `fuel` iterations of its loop. -/
def commsCanReadWithin (fuel maxLen : Nat) (s : CanComms) : Option (List UInt8 × CanComms) :=
  let (out, canReadBuffer) := readTail maxLen s.canReadBuffer
  let s := { s with canReadBuffer }
  if s.canReadBuffer.ptr = 0 then loop (readBody maxLen) fuel (out, s) else some (out, s)

/-- An iteration of `while (pos < len)`: the next position and the buffer. -/
def writeBody (data : List UInt8) (s : Nat × AsmBuffer) : (Nat × AsmBuffer) ⊕ AsmBuffer :=
  let (pos, b) := s
  if pos < data.length then
    let pcktLen := canpacketHeadSize + dlcToLen (lenCode (data.getD pos 0))
    if pos + pcktLen ≤ data.length then .inl (pos + pcktLen, b)
    else
      let ptr := data.length - pos
      .inl (pos + ptr,
        { data := copyInto b.data 0 ((data.drop pos).take ptr), ptr, tailSize := pcktLen - ptr })
  else .inr b

/-- `comms_can_write` with less than `fuel` iterations of its loop. -/
def commsCanWriteWithin (fuel : Nat) (data : List UInt8) (s : CanComms) : Option AsmBuffer :=
  let (_, pos, canWriteBuffer) := writeAssemble data s.canWriteBuffer
  loop (writeBody data) fuel (pos, canWriteBuffer)

/-! ### `comms_can_read` -/

theorem readLoop_next {maxLen : Nat} {s : List UInt8 × CanComms} (hpos : s.1.length < maxLen)
    (hpop : (canPop s.2.canRxQ).1.isSome) (fuel : Nat) :
    readLoop maxLen (fuel + 1) s.1 s.2 =
      readLoop maxLen fuel (readLoop maxLen 1 s.1 s.2).1 (readLoop maxLen 1 s.1 s.2).2 := by
  rw [readLoop, readLoop, if_pos hpos, if_pos hpos]
  rcases hpopped : canPop s.2.canRxQ with ⟨_ | canPacket, canRxQ⟩
  · rw [hpopped] at hpop
    cases hpop
  · simp only
    split
    · rfl
    · rfl

theorem readLoop_last {maxLen : Nat} {s : List UInt8 × CanComms}
    (h : ¬ (s.1.length < maxLen ∧ (canPop s.2.canRxQ).1.isSome)) (fuel : Nat) :
    readLoop maxLen (fuel + 1) s.1 s.2 = readLoop maxLen 1 s.1 s.2 := by
  rw [readLoop, readLoop]
  split
  · next hpos =>
      rcases hpopped : canPop s.2.canRxQ with ⟨_ | canPacket, canRxQ⟩
      · rfl
      · exact absurd ⟨hpos, by rw [hpopped]; rfl⟩ h
  · rfl

/-- The result of the loop is that of the model. -/
theorem readLoop_eq {maxLen fuel : Nat} {s t : List UInt8 × CanComms}
    (h : loop (readBody maxLen) fuel s = some t) : readLoop maxLen fuel s.1 s.2 = t := by
  induction fuel generalizing s with
  | zero => cases h
  | succ fuel ih =>
      by_cases hon : s.1.length < maxLen ∧ (canPop s.2.canRxQ).1.isSome
      · have hbody : readBody maxLen s = .inl (readLoop maxLen 1 s.1 s.2) := if_pos hon
        rw [loop_next hbody] at h
        rw [readLoop_next hon.1 hon.2]
        exact ih h
      · have hbody : readBody maxLen s = .inr (readLoop maxLen 1 s.1 s.2) := if_neg hon
        rw [loop_exit hbody] at h
        rw [readLoop_last hon]
        exact Option.some.inj h

/-- An iteration writes a packet, or the rest of the chunk. -/
theorem readBody_lower {maxLen : Nat} {s next : List UInt8 × CanComms}
    (h : readBody maxLen s = .inl next) : maxLen - next.1.length < maxLen - s.1.length := by
  unfold readBody at h
  simp only at h
  split at h
  · next hon =>
      obtain ⟨hpos, hpop⟩ := hon
      cases h
      rw [readLoop, if_pos hpos]
      rcases hpopped : canPop s.2.canRxQ with ⟨_ | canPacket, canRxQ⟩
      · rw [hpopped] at hpop
        cases hpop
      · have hle := dlcToLen_le canPacket.dataLenCode
        have hlen : getLen canPacket = dlcToLen canPacket.dataLenCode := rfl
        simp only
        split
        · simp only [readLoop, List.length_append, List.length_take, structBytes_length]
          simp only [canpacketHeadSize, structSize] at *
          omega
        · simp only [readLoop, List.length_append, List.length_take, structBytes_length]
          simp only [canpacketHeadSize, structSize] at *
          omega
  · cases h

/-- `comms_can_read` returns, with the result of the model. -/
theorem commsCanReadWithin_eq {fuel maxLen : Nat} (hfuel : maxLen < fuel) (s : CanComms) :
    commsCanReadWithin fuel maxLen s = some (commsCanRead maxLen s) := by
  unfold commsCanReadWithin commsCanRead
  rcases readTail maxLen s.canReadBuffer with ⟨out, canReadBuffer⟩
  simp only
  split
  · obtain ⟨t, ht⟩ :
        ∃ t, loop (readBody maxLen) (maxLen + 1) (out, { s with canReadBuffer }) = some t := by
      apply loop_ends fun s : List UInt8 × CanComms => maxLen - s.1.length
      · intro s next hbody
        exact readBody_lower hbody
      · exact Nat.lt_succ_of_le (Nat.sub_le _ _)
    rw [readLoop_eq ht]
    exact loop_mono ht hfuel
  · rfl

/-! ### `comms_can_write` -/

/-- What an iteration does. -/
theorem writeBody_cases (data : List UInt8) (s : Nat × AsmBuffer) :
    (data.length ≤ s.1 ∧ writeBody data s = .inr s.2 ∧
        ∀ fuel, (writeLoop data (fuel + 1) s.1 s.2).2 = s.2) ∨
      ∃ next, writeBody data s = .inl next ∧ s.1 < next.1 ∧ s.1 < data.length ∧
        ∀ fuel, (writeLoop data (fuel + 1) s.1 s.2).2 = (writeLoop data fuel next.1 next.2).2 := by
  rcases Nat.lt_or_ge s.1 data.length with hpos | hend
  · right
    rcases Nat.lt_or_ge data.length
        (s.1 + (canpacketHeadSize + dlcToLen (lenCode (data.getD s.1 0)))) with hrest | hfits
    · refine ⟨_, (if_pos hpos).trans (if_neg (Nat.not_le.mpr hrest)), ?_, hpos, ?_⟩
      · simp only
        omega
      · intro fuel
        rw [writeLoop, if_pos hpos, if_neg (Nat.not_le.mpr hrest)]
    · refine ⟨_, (if_pos hpos).trans (if_pos hfits), ?_, hpos, ?_⟩
      · simp only [canpacketHeadSize]
        omega
      · intro fuel
        rw [writeLoop, if_pos hpos, if_pos hfits]
  · left
    refine ⟨hend, if_neg (Nat.not_lt.mpr hend), ?_⟩
    intro fuel
    rw [writeLoop, if_neg (Nat.not_lt.mpr hend)]

theorem writeLoop_eq {data : List UInt8} {fuel : Nat} {s : Nat × AsmBuffer} {b : AsmBuffer}
    (h : loop (writeBody data) fuel s = some b) : (writeLoop data fuel s.1 s.2).2 = b := by
  induction fuel generalizing s with
  | zero => cases h
  | succ fuel ih =>
      rcases writeBody_cases data s with ⟨-, hbody, hloop⟩ | ⟨next, hbody, -, -, hloop⟩
      · rw [loop_exit hbody] at h
        rw [hloop]
        exact Option.some.inj h
      · rw [loop_next hbody] at h
        rw [hloop]
        exact ih h

theorem writeBody_lower {data : List UInt8} {s next : Nat × AsmBuffer}
    (h : writeBody data s = .inl next) : data.length - next.1 < data.length - s.1 := by
  rcases writeBody_cases data s with ⟨-, hbody, -⟩ | ⟨next', hbody, hlater, hpos, -⟩
  · rw [hbody] at h
    cases h
  · rw [hbody] at h
    cases h
    omega

/-- `comms_can_write` returns, with the buffer of the model. -/
theorem commsCanWriteWithin_eq {fuel : Nat} {data : List UInt8} (hfuel : data.length < fuel)
    (s : CanComms) :
    commsCanWriteWithin fuel data s = some (commsCanWrite data s).2.canWriteBuffer := by
  unfold commsCanWriteWithin commsCanWrite
  rcases writeAssemble data s.canWriteBuffer with ⟨sent, pos, canWriteBuffer⟩
  simp only
  obtain ⟨b, hb⟩ :
      ∃ b, loop (writeBody data) (data.length + 1) (pos, canWriteBuffer) = some b := by
    apply loop_ends fun s : Nat × AsmBuffer => data.length - s.1
    · intro s next hbody
      exact writeBody_lower hbody
    · exact Nat.lt_succ_of_le (Nat.sub_le _ _)
  have hresult := writeLoop_eq hb
  simp only at hresult
  rw [hresult]
  exact loop_mono hb hfuel

end Panda.Comms
