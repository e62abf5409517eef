import Panda.Comms.CanComms
import Panda.Library.Transition

/-!
The transmit path: the packets that `comms_can_write` hands to `can_send` are
those of the whole stream, in whatever chunks it arrives.
-/

namespace Panda.Comms

open Library Safety

/-- The buffer is empty, or holds the start of a packet and knows how many bytes
are missing. -/
structure Assembling (b : AsmBuffer) : Prop where
  fits : b.ptr ≤ 72
  tail : b.ptr ≠ 0 → 0 < b.tailSize ∧ b.ptr + b.tailSize = packetFraming.need (b.data.get 0)

theorem Assembling.of_zero {b : AsmBuffer} (h : b.ptr = 0) : Assembling b where
  fits := by omega
  tail := fun hptr => absurd h hptr

theorem AsmBuffer.carried_head {b : AsmBuffer} (h : b.ptr ≠ 0) :
    b.carried.head? = some (b.data.get 0) := by
  have hlength : 0 < b.data.toList.length := by
    rw [Vector.length_toList]
    omega
  rw [carried, List.head?_take, if_neg h, List.head?_eq_getElem?,
    List.getElem?_eq_getElem hlength, Vector.getElem_toList]
  rfl

theorem Assembling.incomplete {b : AsmBuffer} (h : Assembling b) :
    packetFraming.Incomplete b.carried := by
  intro first hfirst
  by_cases hptr : b.ptr = 0
  · rw [AsmBuffer.carried_of_zero hptr] at hfirst
    cases hfirst
  · obtain ⟨htail, hneed⟩ := h.tail hptr
    rw [AsmBuffer.carried_head hptr, Option.mem_some_iff] at hfirst
    rw [AsmBuffer.carried_length h.fits, ← hfirst]
    omega

/-- A write of the bytes that follow the carried ones hands over the packets
that are complete, and carries the rest. -/
structure Writes (stream : List UInt8) (sent : List CANPacket) (b : AsmBuffer) : Prop where
  sent : sent = (packetFraming.split stream).1.map ofStruct
  carried : b.carried = (packetFraming.split stream).2
  assembling : Assembling b

theorem writeLoop_end {data : List UInt8} {pos : Nat} (h : data.length ≤ pos) (fuel : Nat)
    (b : AsmBuffer) : writeLoop data fuel pos b = ([], b) := by
  cases fuel with
  | zero => rfl
  | succ fuel =>
      rw [writeLoop, if_neg]
      omega

theorem Writes.nil {b : AsmBuffer} (hptr : b.ptr = 0) : Writes [] [] b := by
  have hsplit : packetFraming.split [] = ([], []) := by rw [Framing.split]
  constructor
  · rw [hsplit]
    rfl
  · rw [hsplit, AsmBuffer.carried_of_zero hptr]
  · exact Assembling.of_zero hptr

/-- A buffer that takes the start of a packet. -/
theorem Writes.start {stream : List UInt8} {b : AsmBuffer} {first : UInt8} {rest : List UInt8}
    (hcons : stream = first :: rest) (hshort : stream.length < packetFraming.need first)
    (hcarried : b.carried = stream) (hptr : b.ptr = stream.length)
    (htail : b.tailSize = packetFraming.need first - stream.length) : Writes stream [] b := by
  have hincomplete : packetFraming.Incomplete stream := by
    intro a ha
    rw [hcons] at ha
    cases ha
    exact hshort
  have hle := need_le first
  have hsplit := Framing.split_incomplete_eq hincomplete
  constructor
  · rw [hsplit]
    rfl
  · rw [hsplit, hcarried]
  · constructor
    · simp only [structSize] at hle
      omega
    · intro hne
      have hhead := AsmBuffer.carried_head hne
      rw [hcarried, hcons, List.head?_cons, Option.some.injEq] at hhead
      rw [← hhead]
      omega

/-- The loop takes the complete packets off the front of the rest. -/
theorem writeLoop_writes {data : List UInt8} {fuel pos : Nat} {b : AsmBuffer} (hptr : b.ptr = 0)
    (hfuel : data.length < pos + fuel) :
    Writes (data.drop pos) (writeLoop data fuel pos b).1 (writeLoop data fuel pos b).2 := by
  induction fuel generalizing pos with
  | zero =>
      rw [writeLoop, List.drop_of_length_le (by omega)]
      exact Writes.nil hptr
  | succ fuel ih =>
      by_cases hpos : pos < data.length
      · have hcons : data.drop pos = data.getD pos 0 :: data.drop (pos + 1) := by
          rw [List.getD_eq_getElem _ _ hpos]
          exact List.drop_eq_getElem_cons hpos
        have hneed : packetFraming.need (data.getD pos 0) =
            canpacketHeadSize + dlcToLen (lenCode (data.getD pos 0)) := rfl
        have hlength := List.length_drop (i := pos) (l := data)
        rw [writeLoop, if_pos hpos]
        simp only [← hneed]
        generalize data.getD pos 0 = first at hcons
        have hpositive := packetFraming.need_pos first
        by_cases hfits : pos + packetFraming.need first ≤ data.length
        · have hsplit : packetFraming.split (data.drop pos) =
              ((data.drop pos).take (packetFraming.need first) ::
                (packetFraming.split (data.drop (pos + packetFraming.need first))).1,
                (packetFraming.split (data.drop (pos + packetFraming.need first))).2) := by
            rw [hcons, Framing.split_complete_eq (by rw [← hcons]; omega), ← hcons, List.drop_drop]
          have hlater := @ih (pos + packetFraming.need first) (by omega)
          rw [if_pos hfits]
          constructor
          · rw [hsplit, List.map_cons, ← hlater.sent, receivedPacket_eq]
          · rw [hsplit]
            exact hlater.carried
          · exact hlater.assembling
        · rw [if_neg hfits, writeLoop_end (by omega)]
          have hwhole : (data.drop pos).take (data.length - pos) = data.drop pos :=
            List.take_of_length_le (by omega)
          have hle := need_le first
          have hcopied := @copyInto_take 72 b.data 0 (data.drop pos) (by
            simp only [structSize] at hle
            omega)
          rw [Nat.zero_add, hlength] at hcopied
          apply Writes.start hcons (by omega)
          · rw [hwhole]
            exact hcopied
          · exact hlength.symm
          · rw [hlength]
      · rw [writeLoop_end (by omega), List.drop_of_length_le (by omega)]
        exact Writes.nil hptr

theorem AsmBuffer.carried_cons {b : AsmBuffer} (h : b.ptr ≠ 0) :
    ∃ rest, b.carried = b.data.get 0 :: rest :=
  List.head?_eq_some_iff.mp (AsmBuffer.carried_head h)

/-- A carried start that the chunk completes is a packet. -/
theorem writeAssemble_complete {data : List UInt8} {b : AsmBuffer} (hb : Assembling b)
    (hptr : b.ptr ≠ 0) (henough : b.tailSize ≤ data.length) :
    packetFraming.IsFrame (b.carried ++ data.take b.tailSize) ∧
      (writeAssemble data b).1 = [ofStruct (b.carried ++ data.take b.tailSize)] ∧
      (writeAssemble data b).2.1 = b.tailSize ∧ (writeAssemble data b).2.2.ptr = 0 := by
  obtain ⟨htail, hneed⟩ := hb.tail hptr
  obtain ⟨rest, hcons⟩ := AsmBuffer.carried_cons hptr
  have hlength := AsmBuffer.carried_length hb.fits
  have htaken : (data.take b.tailSize).length = b.tailSize := List.length_take_of_le henough
  have hle := need_le (b.data.get 0)
  have hcopied := @copyInto_take 72 b.data b.ptr (data.take b.tailSize) (by
    simp only [structSize] at hle
    omega)
  rw [htaken] at hcopied
  unfold writeAssemble
  rw [if_pos hptr, if_pos henough]
  refine ⟨⟨b.data.get 0, rest ++ data.take b.tailSize, ?_, ?_⟩, ?_, rfl, rfl⟩
  · rw [hcons, List.cons_append]
  · rw [List.length_append, hlength, htaken, hneed]
  · simp only [hcopied, receivedPacket_eq]
    rfl

/-- A chunk that does not complete it is carried too. -/
theorem writeAssemble_incomplete {data : List UInt8} {b : AsmBuffer} (hb : Assembling b)
    (hptr : b.ptr ≠ 0) (hshort : ¬ b.tailSize ≤ data.length) :
    Writes (b.carried ++ data) (writeAssemble data b).1 (writeAssemble data b).2.2 ∧
      (writeAssemble data b).2.1 = data.length := by
  obtain ⟨htail, hneed⟩ := hb.tail hptr
  obtain ⟨rest, hcons⟩ := AsmBuffer.carried_cons hptr
  have hlength := AsmBuffer.carried_length hb.fits
  have hle := need_le (b.data.get 0)
  have hcopied := @copyInto_take 72 b.data b.ptr data (by
    simp only [structSize] at hle
    omega)
  have hstream : (b.carried ++ data).length = b.ptr + data.length := by
    rw [List.length_append, hlength]
  have hfirst : b.carried ++ data = b.data.get 0 :: (rest ++ data) := by
    rw [hcons, List.cons_append]
  unfold writeAssemble
  rw [if_pos hptr, if_neg hshort]
  refine ⟨Writes.start hfirst (by omega) hcopied hstream.symm ?_, rfl⟩
  simp only [hstream]
  omega

/-- `comms_can_write` takes the complete packets off the carried bytes and the
chunk. -/
theorem commsCanWrite_writes (data : List UInt8) {s : CanComms}
    (hs : Assembling s.canWriteBuffer) :
    Writes (s.canWriteBuffer.carried ++ data) (commsCanWrite data s).1
      (commsCanWrite data s).2.canWriteBuffer := by
  unfold commsCanWrite
  by_cases hptr : s.canWriteBuffer.ptr = 0
  · have hassemble : writeAssemble data s.canWriteBuffer = ([], 0, s.canWriteBuffer) := by
      rw [writeAssemble, if_neg (not_not_intro hptr)]
    have hlater := @writeLoop_writes data (data.length + 1) 0 s.canWriteBuffer hptr (by omega)
    rw [hassemble, AsmBuffer.carried_of_zero hptr]
    exact hlater
  · by_cases henough : s.canWriteBuffer.tailSize ≤ data.length
    · obtain ⟨hframe, hsent, hpos, hreset⟩ := writeAssemble_complete hs hptr henough
      have hlater := @writeLoop_writes data (data.length + 1) s.canWriteBuffer.tailSize _ hreset
        (by omega)
      have hstream : s.canWriteBuffer.carried ++ data =
          (s.canWriteBuffer.carried ++ data.take s.canWriteBuffer.tailSize) ++
            data.drop s.canWriteBuffer.tailSize := by
        rw [List.append_assoc, List.take_append_drop]
      rcases hassemble : writeAssemble data s.canWriteBuffer with ⟨sent, pos, b⟩
      rw [hassemble] at hsent hpos hlater
      simp only at hsent hpos hlater ⊢
      rw [hstream, hsent, hpos]
      constructor
      · rw [Framing.split_frame_append hframe, hlater.sent]
        rfl
      · rw [Framing.split_frame_append hframe]
        exact hlater.carried
      · exact hlater.assembling
    · obtain ⟨hwrites, hpos⟩ := writeAssemble_incomplete hs hptr henough
      rcases hassemble : writeAssemble data s.canWriteBuffer with ⟨sent, pos, b⟩
      rw [hassemble] at hwrites hpos
      simp only at hwrites hpos ⊢
      rw [hpos, writeLoop_end (Nat.le_refl _), List.append_nil]
      exact hwrites

/-! ### Chunks -/

def txStep (s : CanComms) (data : List UInt8) : CanComms := (commsCanWrite data s).2

/-- The packets that the chunks hand to `can_send`, in order. -/
def packetsSent (s : CanComms) (chunks : List (List UInt8)) : List CANPacket :=
  (trace txStep (fun s data => (commsCanWrite data s).1) s chunks).flatten

/-- What comes next is read after the carried bytes. -/
theorem Writes.append {stream more : List UInt8} {sent sent' : List CANPacket} {b b' : AsmBuffer}
    (h : Writes stream sent b) (h' : Writes (b.carried ++ more) sent' b') :
    Writes (stream ++ more) (sent ++ sent') b' := by
  have hsent := h'.sent
  have hcarried := h'.carried
  rw [h.carried] at hsent hcarried
  constructor
  · rw [Framing.split_append, List.map_append, ← hsent, ← h.sent]
  · rw [Framing.split_append]
    exact hcarried
  · exact h'.assembling

/-- Nothing new. -/
theorem Assembling.writes {b : AsmBuffer} (h : Assembling b) : Writes b.carried [] b := by
  have hsplit := Framing.split_incomplete_eq h.incomplete
  constructor
  · rw [hsplit]
    rfl
  · rw [hsplit]
  · exact h

theorem packetsSent_writes {s : CanComms} (hs : Assembling s.canWriteBuffer)
    (chunks : List (List UInt8)) :
    Writes (s.canWriteBuffer.carried ++ chunks.flatten) (packetsSent s chunks)
      (run txStep s chunks).canWriteBuffer := by
  induction chunks generalizing s with
  | nil =>
      rw [List.flatten_nil, List.append_nil]
      exact hs.writes
  | cons data chunks ih =>
      have hnow := commsCanWrite_writes data hs
      have hlater := @ih (txStep s data) hnow.assembling
      rw [List.flatten_cons, ← List.append_assoc]
      exact hnow.append hlater

end Panda.Comms
