import Panda.Comms.Pack
import Panda.Comms.Receive

/-!
`can_send_many` over USB. After a bulk write that raised, the messages start over
from the first chunk, on a device that keeps what it took of them and a packet
that is half received.
-/

namespace Panda.Comms

open Library Safety Host

/-! ### The device before the call -/

/-- What the host and the CAN interrupts do with the buffers. -/
inductive CommsEvent where
  | write (data : List UInt8)
  | read (maxLen : Nat)
  | reset
  | received (packet : CANPacket)

def commsStep (s : CanComms) : CommsEvent → CanComms
  | .write data => (commsCanWrite data s).2
  | .read maxLen => (commsCanRead maxLen s).2
  | .reset => commsCanReset s
  | .received packet => { s with canRxQ := (canPush packet s.canRxQ).2 }

theorem readLoop_canWriteBuffer (maxLen fuel : Nat) (out : List UInt8) (s : CanComms) :
    (readLoop maxLen fuel out s).2.canWriteBuffer = s.canWriteBuffer := by
  induction fuel generalizing out s with
  | zero => rfl
  | succ fuel ih =>
      rw [readLoop]
      split
      · split
        · rfl
        · simp only
          split
          · exact ih _ _
          · exact ih _ _
      · rfl

theorem commsCanRead_canWriteBuffer (maxLen : Nat) (s : CanComms) :
    (commsCanRead maxLen s).2.canWriteBuffer = s.canWriteBuffer := by
  unfold commsCanRead
  simp only
  split
  · exact readLoop_canWriteBuffer _ _ _ _
  · rfl

theorem commsStep_assembling (s : CanComms) (e : CommsEvent) (hs : Assembling s.canWriteBuffer) :
    Assembling (commsStep s e).canWriteBuffer := by
  cases e with
  | write data => exact (commsCanWrite_writes data hs).assembling
  | read maxLen =>
      rw [commsStep, commsCanRead_canWriteBuffer]
      exact hs
  | reset => exact Assembling.of_zero rfl
  | received packet => exact hs

/-- The buffers after earlier traffic. -/
def commsAfter (earlier : List CommsEvent) : CanComms := run commsStep powerOnComms earlier

theorem commsAfter_assembling (earlier : List CommsEvent) :
    Assembling (commsAfter earlier).canWriteBuffer :=
  run_invariant commsStep_assembling (Assembling.of_zero rfl) earlier

/-! ### The call -/

/-- One `bulkWrite`: it returns the count of the bytes that the device took, or
raises `USBErrorIO` or `USBErrorOverflow`. The device takes the bytes in pieces. -/
inductive BulkWrite where
  | returned (pieces : List (List UInt8))
  | raised (pieces : List (List UInt8))

def BulkWrite.pieces : BulkWrite → List (List UInt8)
  | .returned pieces => pieces
  | .raised pieces => pieces

/-- `can_send_many` and the device: what the loops have still to write, the bytes
that the device took since the loops last started, its buffers and the packets
handed to `can_send`. -/
structure SendMany where
  remaining : List (List UInt8)
  taken : List UInt8
  comms : CanComms
  sent : List CANPacket

/-- The loops start. -/
def SendMany.start (snds : List (List UInt8)) (comms : CanComms) : SendMany where
  remaining := snds
  taken := []
  comms
  sent := []

/-- A step of the loops of `can_send_many`. The device takes a prefix of `tx`. -/
def canSendMany (snds : List (List UInt8)) (s : SendMany) (e : BulkWrite) : SendMany :=
  match s.remaining with
  | [] => s
  | tx :: later =>
      if e.pieces.flatten <+: tx then
        let comms := run txStep s.comms e.pieces
        let sent := s.sent ++ packetsSent s.comms e.pieces
        match e with
        | .returned pieces =>
            let bs := pieces.flatten.length
            let tx := tx.drop bs
            { remaining := if tx.length = 0 then later else tx :: later
              taken := s.taken ++ pieces.flatten
              comms
              sent }
        | .raised _ => { remaining := snds, taken := [], comms, sent }
      else s

/-- An error comes before the device took a byte since the loops last started. -/
def BeforeAnyByte (s : SendMany) : BulkWrite → Prop
  | .returned _ => True
  | .raised pieces =>
      ∀ tx ∈ s.remaining.head?, pieces.flatten <+: tx → s.taken = [] ∧ pieces.flatten = []

/-! ### What the device took -/

/-- The packets are those of the bytes before the loops last started and of the
bytes since then, and these with what remains are the chunks. -/
structure Consumed (snds : List (List UInt8)) (given : List UInt8) (s : SendMany) : Prop where
  writes : Writes (given ++ s.taken) s.sent s.comms.canWriteBuffer
  chunks : s.taken ++ s.remaining.flatten = snds.flatten

theorem consumed_start (snds : List (List UInt8)) {comms : CanComms}
    (hcomms : Assembling comms.canWriteBuffer) :
    Consumed snds comms.canWriteBuffer.carried (SendMany.start snds comms) where
  writes := by
    simp only [SendMany.start, List.append_nil]
    exact hcomms.writes
  chunks := rfl

/-- An empty `tx` is left for the next chunk. -/
theorem flatten_later (tx : List UInt8) (later : List (List UInt8)) :
    (if tx.length = 0 then later else tx :: later).flatten = tx ++ later.flatten := by
  cases tx with
  | nil => rfl
  | cons b tx => rfl

theorem Consumed.step {snds : List (List UInt8)} {given : List UInt8} {s : SendMany}
    (hs : Consumed snds given s) (e : BulkWrite) :
    ∃ abandoned, Consumed snds (given ++ abandoned) (canSendMany snds s e) ∧
      (abandoned = [] ↔ BeforeAnyByte s e) := by
  have hunchanged : ∃ abandoned, Consumed snds (given ++ abandoned) s ∧ abandoned = [] :=
    ⟨[], by rwa [List.append_nil], rfl⟩
  unfold canSendMany
  cases hremaining : s.remaining with
  | nil =>
      obtain ⟨abandoned, hconsumed, hnil⟩ := hunchanged
      refine ⟨abandoned, hconsumed, fun _ => ?_, fun _ => hnil⟩
      cases e with
      | returned pieces => trivial
      | raised pieces =>
          intro tx htx
          rw [hremaining] at htx
          cases htx
  | cons tx later =>
      by_cases hfront : e.pieces.flatten <+: tx
      · have hwrites := hs.writes.append (packetsSent_writes hs.writes.assembling e.pieces)
        have hchunks := hs.chunks
        rw [hremaining, List.flatten_cons] at hchunks
        simp only [if_pos hfront]
        cases e with
        | returned pieces =>
            refine ⟨[], ⟨?_, ?_⟩, fun _ => trivial, fun _ => rfl⟩
            · rw [List.append_nil, ← List.append_assoc]
              exact hwrites
            · obtain ⟨rest, rfl⟩ := hfront
              simp only [BulkWrite.pieces, List.append_assoc] at hchunks
              simp only [BulkWrite.pieces, List.drop_left, flatten_later, List.append_assoc]
              exact hchunks
        | raised pieces =>
            refine ⟨s.taken ++ pieces.flatten, ⟨?_, rfl⟩, ?_⟩
            · rw [List.append_nil, ← List.append_assoc]
              exact hwrites
            · rw [List.append_eq_nil_iff]
              constructor
              · intro hnone tx' htx _
                exact hnone
              · intro hbefore
                exact hbefore tx (by rw [hremaining]; rfl) hfront
      · obtain ⟨abandoned, hconsumed, hnil⟩ := hunchanged
        simp only [if_neg hfront]
        refine ⟨abandoned, hconsumed, fun _ => ?_, fun _ => hnil⟩
        cases e with
        | returned pieces => trivial
        | raised pieces =>
            intro tx' htx hfront'
            rw [hremaining, List.head?_cons, Option.mem_some_iff] at htx
            rw [← htx] at hfront'
            exact absurd hfront' hfront

/-- The bytes that the device took before the loops last started are none exactly
when every error came before any byte. -/
theorem Consumed.run {snds : List (List UInt8)} {given : List UInt8} {s : SendMany}
    (hs : Consumed snds given s) (events : List BulkWrite) :
    ∃ abandoned, Consumed snds (given ++ abandoned) (run (canSendMany snds) s events) ∧
      (abandoned = [] ↔ Along (canSendMany snds) BeforeAnyByte s events) := by
  induction events generalizing given s with
  | nil =>
      refine ⟨[], ?_, fun _ => trivial, fun _ => rfl⟩
      rw [List.append_nil]
      exact hs
  | cons e events ih =>
      obtain ⟨first, hfirst, hbefore⟩ := hs.step e
      obtain ⟨rest, hrest, halong⟩ := ih hfirst
      refine ⟨first ++ rest, ?_, ?_⟩
      · rw [← List.append_assoc]
        exact hrest
      · rw [List.append_eq_nil_iff, hbefore, halong]
        rfl

/-! ### Lengths -/

theorem wireBytes_frames {frames : List (List UInt8)}
    (h : ∀ frame ∈ frames, packetFraming.IsFrame frame) :
    (frames.map ofStruct).map wireBytes = frames := by
  rw [List.map_map]
  apply (List.map_congr_left _).trans (List.map_id frames)
  intro frame hframe
  exact wireBytes_ofStruct (h frame hframe)

theorem Writes.stream_eq {stream : List UInt8} {sent : List CANPacket} {b : AsmBuffer}
    (h : Writes stream sent b) : stream = (sent.map wireBytes).flatten ++ b.carried := by
  rw [h.sent, wireBytes_frames (packetFraming.split_frames stream), h.carried,
    packetFraming.split_join]

theorem Carries.wireBytes_length {msg : CanMessage} {packet : CANPacket} (h : Carries msg packet) :
    (wireBytes packet).length = Comms.canpacketHeadSize + msg.dat.length := by
  have hle := dlcToLen_le packet.dataLenCode
  rw [Comms.wireBytes_length, ← h.dat, List.length_take, List.length_ofFn]
  unfold getLen
  omega

theorem carried_length {arr : List CanMessage} {packets : List CANPacket}
    (h : List.Forall₂ Carries arr packets) :
    (packets.map wireBytes).flatten.length =
      (arr.map fun msg => Comms.canpacketHeadSize + msg.dat.length).sum := by
  induction h with
  | nil => rfl
  | cons hmsg _ ih =>
      rw [List.map_cons, List.flatten_cons, List.length_append, ih, hmsg.wireBytes_length]
      rfl

/-! ### The messages -/

/-- After a run that returns, the device handed over every message once and in
order and carries nothing, exactly when it carried nothing before and every error
came before it took a byte since the loops last started. -/
theorem send_many_exactly_once_iff {arr : List CanMessage} (harr : ∀ msg ∈ arr, Packable msg)
    (earlier : List CommsEvent) {snds : List (List UInt8)} (hsnds : packCanBuffer arr = some snds)
    {events : List BulkWrite}
    (hreturned : (run (canSendMany snds) (SendMany.start snds (commsAfter earlier))
      events).remaining = []) :
    (List.Forall₂ Carries arr
        (run (canSendMany snds) (SendMany.start snds (commsAfter earlier)) events).sent ∧
      (run (canSendMany snds) (SendMany.start snds (commsAfter earlier))
        events).comms.canWriteBuffer.ptr = 0) ↔
    ((commsAfter earlier).canWriteBuffer.ptr = 0 ∧
      Along (canSendMany snds) BeforeAnyByte (SendMany.start snds (commsAfter earlier))
        events) := by
  have hassembling := commsAfter_assembling earlier
  obtain ⟨chunks, frames, hchunks, hflatten, hframes, hcarries⟩ := packLoop_flatten harr [] []
  have hsame : chunks = snds := by
    rw [packCanBuffer, hchunks] at hsnds
    exact Option.some.inj hsnds
  rw [hsame, List.flatten_nil, List.nil_append, List.nil_append] at hflatten
  obtain ⟨abandoned, hconsumed, hbefore⟩ := (consumed_start snds hassembling).run events
  generalize run (canSendMany snds) (SendMany.start snds (commsAfter earlier)) events = s at *
  have htaken : s.taken = snds.flatten := by
    have hchunks := hconsumed.chunks
    rw [hreturned, List.flatten_nil, List.append_nil] at hchunks
    exact hchunks
  have hwrites := hconsumed.writes
  rw [htaken] at hwrites
  rw [← hbefore]
  constructor
  · rintro ⟨hsent, hptr⟩
    have hstream := congrArg List.length hwrites.stream_eq
    rw [AsmBuffer.carried_of_zero hptr, List.append_nil, carried_length hsent] at hstream
    have hpacked : snds.flatten.length =
        (arr.map fun msg => Comms.canpacketHeadSize + msg.dat.length).sum := by
      rw [← carried_length hcarries, wireBytes_frames hframes, hflatten]
    rw [List.length_append, List.length_append, hpacked] at hstream
    constructor
    · rw [← AsmBuffer.carried_length hassembling.fits]
      omega
    · exact List.length_eq_zero_iff.mp (by omega)
  · rintro ⟨hptr, habandoned⟩
    rw [AsmBuffer.carried_of_zero hptr, habandoned, List.nil_append, List.nil_append,
      hflatten] at hwrites
    have hsplit := Framing.split_flatten_append hframes []
    rw [List.append_nil, Framing.split] at hsplit
    have hsent := hwrites.sent
    have hcarried := hwrites.carried
    rw [hsplit] at hsent hcarried
    constructor
    · rw [hsent, List.append_nil]
      exact hcarries
    · rw [← AsmBuffer.carried_length hwrites.assembling.fits, hcarried]
      rfl

/-- A message without data, and its bytes. -/
def sampleMessage : CanMessage := ⟨0x123, [], 0⟩

def sampleBytes : List UInt8 := [0x00, 0x18, 0x09, 0x00, 0x00, 0x11]

/-- `can_send_many` of the message at power on. -/
def sampleSendMany (events : List BulkWrite) : SendMany :=
  run (canSendMany [sampleBytes]) (SendMany.start [sampleBytes] (commsAfter [])) events

/-- A bulk write raises after the device took the whole packet, which is sent twice,
or half of it, which stays in the buffer. -/
theorem send_many_repeated :
    packCanBuffer [sampleMessage] = some [sampleBytes] ∧
      (sampleSendMany [.raised [sampleBytes], .returned [sampleBytes]]).remaining = [] ∧
      ¬ List.Forall₂ Carries [sampleMessage]
        (sampleSendMany [.raised [sampleBytes], .returned [sampleBytes]]).sent ∧
      (sampleSendMany [.raised [sampleBytes.take 3], .returned [sampleBytes]]).remaining = [] ∧
      (sampleSendMany [.raised [sampleBytes.take 3],
        .returned [sampleBytes]]).comms.canWriteBuffer.ptr ≠ 0 := by
  refine ⟨by decide, by decide, ?_, by decide, by decide⟩
  intro hsent
  have hlength := hsent.length_eq
  have htwice : (sampleSendMany [.raised [sampleBytes],
      .returned [sampleBytes]]).sent.length = 2 := by decide
  rw [htwice] at hlength
  cases hlength

/-- An error before the first byte, and a partial write. -/
theorem send_many_exactly_once_partial :
    List.Forall₂ Carries [sampleMessage]
        (sampleSendMany [.raised [], .returned [sampleBytes.take 3],
          .returned [sampleBytes.drop 3]]).sent ∧
      (sampleSendMany [.raised [], .returned [sampleBytes.take 3],
        .returned [sampleBytes.drop 3]]).comms.canWriteBuffer.ptr = 0 := by
  have hpackable : ∀ msg ∈ [sampleMessage], Packable msg := by
    intro msg hmsg
    rw [List.mem_singleton.mp hmsg]
    exact ⟨by decide, by decide, by decide⟩
  have hsnds : packCanBuffer [sampleMessage] = some [sampleBytes] := by decide
  have hreturned : (sampleSendMany [.raised [], .returned [sampleBytes.take 3],
      .returned [sampleBytes.drop 3]]).remaining = [] := by decide
  apply (send_many_exactly_once_iff hpackable [] hsnds hreturned).mpr
  refine ⟨rfl, ?_, trivial, trivial, trivial⟩
  intro tx _ _
  exact ⟨rfl, rfl⟩

end Panda.Comms
