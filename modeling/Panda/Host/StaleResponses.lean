import Panda.Host.IsoTp
import Panda.Host.Isolation

/-!
What is left over from before a request. `send` asks for the buffer to be thrown
away, but drops the generator that would do it, so that a frame which is still in
the buffer of the client answers the next request.
-/

namespace Panda.Host

open Library

namespace CanClient

/-! ### Clients that differ in their logs -/

/-- The clients agree on all that a call reads: they differ in what they sent and in
the two logs. -/
structure Alike (c d : CanClient) : Prop where
  txAddr : d.txAddr = c.txAddr
  rxAddr : d.rxAddr = c.rxAddr
  bus : d.bus = c.bus
  subAddr : d.subAddr = c.subAddr
  rxBuff : d.rxBuff = c.rxBuff
  rx : d.port.rx = c.port.rx

/-- The same result, with clients that agree. -/
def Agree {α : Type} (x y : α × CanClient) : Prop := y.1 = x.1 ∧ Alike x.2 y.2

variable {c d : CanClient}

theorem recvFilter_alike (h : Alike c d) (bus addr : Nat) :
    Agree (c.recvFilter bus addr) (d.recvFilter bus addr) := by
  obtain ⟨txAddr, rxAddr, cbus, subAddr, rxBuff, ⟨rx, tx⟩, seen, accepted⟩ := c
  obtain ⟨rfl, rfl, rfl, rfl, rfl, rfl⟩ := h
  unfold recvFilter
  dsimp only
  split_ifs
  · exact ⟨rfl, rfl, rfl, rfl, rfl, rfl, rfl⟩
  · exact ⟨rfl, rfl, rfl, rfl, rfl, rfl, rfl⟩
  · exact ⟨rfl, rfl, rfl, rfl, rfl, rfl, rfl⟩
  · exact ⟨rfl, rfl, rfl, rfl, rfl, rfl, rfl⟩

theorem push_alike (h : Alike c d) (msg : CanMessage) (rxData : List UInt8) :
    Alike (c.push msg rxData) (d.push msg rxData) := by
  obtain ⟨htx, hrx, hbus, hsub, hbuff, hport⟩ := h
  refine ⟨htx, hrx, hbus, hsub, ?_, hport⟩
  rw [push, push, hbuff]

theorem bufferMsg_alike (h : Alike c d) (msg : CanMessage) :
    Agree (c.bufferMsg msg) (d.bufferMsg msg) := by
  obtain ⟨hours, halike⟩ := recvFilter_alike
    (c := { c with seen := c.seen ++ [msg] }) (d := { d with seen := d.seen ++ [msg] })
    { h with } msg.bus msg.address
  unfold bufferMsg
  dsimp only
  rw [hours, halike.subAddr]
  split
  · exact ⟨rfl, halike⟩
  · exact ⟨rfl, halike⟩
  · exact ⟨rfl, push_alike halike msg _⟩
  · split
    · exact ⟨rfl, halike⟩
    · exact ⟨rfl, push_alike halike msg _⟩

theorem bufferMsgs_alike (h : Alike c d) (msgs : List CanMessage) :
    Agree (c.bufferMsgs msgs) (d.bufferMsgs msgs) := by
  induction msgs generalizing c d with
  | nil => exact ⟨rfl, h⟩
  | cons msg msgs ih =>
      obtain ⟨hexc, halike⟩ := bufferMsg_alike h msg
      unfold bufferMsgs
      generalize c.bufferMsg msg = first at *
      generalize d.bufferMsg msg = second at *
      obtain ⟨exc, c'⟩ := first
      obtain ⟨exc', d'⟩ := second
      obtain rfl : exc' = exc := hexc
      cases exc' with
      | none => exact ih halike
      | some exc => exact ⟨rfl, halike⟩

theorem recvBufferLoop_alike (h : Alike c d) (drain : Bool) (rx : List (List CanMessage)) :
    Agree (recvBufferLoop drain rx c) (recvBufferLoop drain rx d) := by
  induction rx generalizing c d with
  | nil =>
      cases drain with
      | false => exact ⟨rfl, h⟩
      | true => exact ⟨rfl, { h with rxBuff := rfl }⟩
  | cons msgs rx ih =>
      have hport :
          Alike { c with port := { c.port with rx } } { d with port := { d.port with rx } } :=
        { h with rx := rfl }
      cases drain with
      | false =>
          obtain ⟨hexc, halike⟩ := bufferMsgs_alike hport msgs
          rw [recvBufferLoop_take, recvBufferLoop_take]
          dsimp only
          rw [hexc]
          split
          · exact ⟨hexc, halike⟩
          · exact ih halike
      | true =>
          have hcleared : Alike { c with rxBuff := [], port := { c.port with rx } }
              { d with rxBuff := [], port := { d.port with rx } } := { hport with rxBuff := rfl }
          rw [recvBufferLoop_drain, recvBufferLoop_drain]
          split
          · exact ⟨rfl, hcleared⟩
          · exact ih hcleared

theorem recvBuffer_alike (h : Alike c d) (drain : Bool) :
    Agree (c.recvBuffer drain) (d.recvBuffer drain) := by
  rw [recvBuffer, recvBuffer, h.rx]
  exact recvBufferLoop_alike h drain c.port.rx

theorem popleft_alike {x y : Option UdsException × CanClient} (h : Agree x y) :
    Agree (popleft x) (popleft y) := by
  obtain ⟨exc, c⟩ := x
  obtain ⟨exc', d⟩ := y
  obtain ⟨hexc, halike⟩ := h
  obtain rfl : exc' = exc := hexc
  cases exc' with
  | some exc => exact ⟨rfl, halike⟩
  | none =>
      have hbuff : d.rxBuff = c.rxBuff := halike.rxBuff
      unfold popleft
      dsimp only
      rw [hbuff]
      split
      · exact ⟨rfl, halike⟩
      · exact ⟨rfl, { halike with rxBuff := rfl }⟩

theorem next_alike (h : Alike c d) (gen : Generator) : Agree (c.next gen) (d.next gen) := by
  cases gen with
  | created drain => exact popleft_alike (recvBuffer_alike h drain)
  | yielded => exact popleft_alike (x := (none, c)) (y := (none, d)) ⟨rfl, h⟩

theorem sendLoop_alike (h : Alike c d) (i : Nat) (msgs : List (List UInt8)) :
    Agree (sendLoop i msgs c) (sendLoop i msgs d) := by
  induction msgs generalizing i c d with
  | nil => exact ⟨rfl, h⟩
  | cons msg msgs ih =>
      have haddressed : d.addressed msg = c.addressed msg := by
        rw [addressed, addressed, h.subAddr]
      by_cases hlen : (c.addressed msg).length ≤ 8
      · have hsent : Alike { c with port := c.port.canSend c.txAddr (c.addressed msg) c.bus }
            { d with port := d.port.canSend d.txAddr (d.addressed msg) d.bus } := { h with }
        obtain ⟨hexc, halike⟩ := recvBuffer_alike hsent false
        rw [sendLoop_cons hlen, sendLoop_cons (haddressed ▸ hlen)]
        dsimp only
        rw [hexc]
        split
        · split
          · exact ⟨hexc, halike⟩
          · exact ih halike (i + 1)
        · exact ih hsent (i + 1)
      · rw [sendLoop, sendLoop, if_neg hlen, if_neg (haddressed ▸ hlen)]
        exact ⟨rfl, h⟩

end CanClient

namespace IsoTpMessage

/-! ### Messages that differ in the logs of their clients -/

/-- The same result, with messages whose clients agree. -/
def Agree {α : Type} (x y : α × IsoTpMessage) : Prop :=
  y.1 = x.1 ∧ ∃ d, CanClient.Alike x.2.canClient d ∧ y.2 = { x.2 with canClient := d }

variable {m : IsoTpMessage} {d : CanClient}

theorem canSend_alike (h : CanClient.Alike m.canClient d) (msgs : List (List UInt8)) :
    Agree (m.canSend msgs) ({ m with canClient := d }.canSend msgs) := by
  obtain ⟨hexc, halike⟩ := CanClient.sendLoop_alike h 0 msgs
  exact ⟨hexc, _, halike, rfl⟩

theorem answer_alike (h : CanClient.Alike m.canClient d) (frameType : IsoTpFrameType) :
    Agree (m.answer frameType) ({ m with canClient := d }.answer frameType) := by
  have hsent := canSend_alike h [m.flowControlMsg]
  have hflow : ({ m with canClient := d } : IsoTpMessage).flowControlMsg = m.flowControlMsg := rfl
  unfold answer
  rw [hflow]
  generalize m.canSend [m.flowControlMsg] = first at *
  generalize canSend _ { m with canClient := d } = second at *
  obtain ⟨exc, after⟩ := first
  obtain ⟨exc', after'⟩ := second
  obtain ⟨hexc, d', halike, rfl⟩ := hsent
  obtain rfl : exc' = exc := hexc
  cases exc' with
  | none => exact ⟨rfl, d', halike, rfl⟩
  | some exc => exact ⟨rfl, d', halike, rfl⟩

/-- The loop over a block does not look at the client. -/
theorem txLoop_client (endIdx fuel i : Nat) (m : IsoTpMessage) (d : CanClient) :
    txLoop endIdx fuel i { m with canClient := d } =
        ((txLoop endIdx fuel i m).1, { (txLoop endIdx fuel i m).2 with canClient := d }) ∧
      (txLoop endIdx fuel i m).2.canClient = m.canClient := by
  induction fuel generalizing i m with
  | zero => exact ⟨rfl, rfl⟩
  | succ fuel ih =>
      obtain ⟨hloop, hclient⟩ := ih (i + (m.maxLen - 1)) { m with txIdx := m.txIdx + 1 }
      unfold txLoop
      split
      · dsimp only at hloop ⊢
        rw [hloop]
        exact ⟨rfl, hclient⟩
      · exact ⟨rfl, rfl⟩

theorem rxContinue_alike (h : CanClient.Alike m.canClient d) (count : Nat) :
    Agree (m.rxContinue count) ({ m with canClient := d }.rxContinue count) := by
  unfold rxContinue
  dsimp only
  generalize (if count > 0 then m.maxLen - 2 + m.txIdx * (m.maxLen - 1) + count * (m.maxLen - 1)
    else m.txLen) = endIdx
  generalize m.maxLen - 2 + m.txIdx * (m.maxLen - 1) = start
  obtain ⟨hloop, hclient⟩ := txLoop_client endIdx (endIdx - start) start m d
  rw [hloop]
  generalize txLoop endIdx (endIdx - start) start m = block at *
  have hsent := canSend_alike (m := block.2) (hclient ▸ h) block.1
  dsimp only at hsent ⊢
  generalize canSend block.1 block.2 = first at *
  generalize canSend block.1 { block.2 with canClient := d } = second at *
  obtain ⟨exc, after⟩ := first
  obtain ⟨exc', after'⟩ := second
  obtain ⟨hexc, d', halike, rfl⟩ := hsent
  obtain rfl : exc' = exc := hexc
  cases exc' with
  | some exc => exact ⟨rfl, d', halike, rfl⟩
  | none =>
      unfold blockSent
      dsimp only
      split
      · exact ⟨rfl, d', halike, rfl⟩
      · exact ⟨rfl, d', halike, rfl⟩

theorem rxSingle_alike (h : CanClient.Alike m.canClient d) (rxData : List UInt8) (first : UInt8) :
    Agree (m.rxSingle rxData first) ({ m with canClient := d }.rxSingle rxData first) := by
  unfold rxSingle
  dsimp only
  split
  · exact ⟨rfl, d, h, rfl⟩
  · split
    · exact ⟨rfl, d, h, rfl⟩
    · exact ⟨rfl, d, h, rfl⟩

theorem rxFirst_alike (h : CanClient.Alike m.canClient d) (rxData : List UInt8) (first : UInt8) :
    Agree (m.rxFirst rxData first) ({ m with canClient := d }.rxFirst rxData first) := by
  unfold rxFirst
  dsimp only
  split
  · exact ⟨rfl, d, h, rfl⟩
  · split
    · exact ⟨rfl, d, h, rfl⟩
    · split
      · exact ⟨rfl, d, h, rfl⟩
      · split
        · exact ⟨rfl, d, h, rfl⟩
        · exact answer_alike (m := { m with
            rxLen := _, rxDat := rxData.drop 2, rxIdx := 0, rxDone := false }) h .first

theorem rxConsecutive_alike (h : CanClient.Alike m.canClient d) (rxData : List UInt8)
    (first : UInt8) :
    Agree (m.rxConsecutive rxData first)
      ({ m with canClient := d }.rxConsecutive rxData first) := by
  unfold rxConsecutive
  dsimp only
  split
  · exact ⟨rfl, d, h, rfl⟩
  · split
    · exact ⟨rfl, d, h, rfl⟩
    · split
      · exact ⟨rfl, d, h, rfl⟩
      · split
        · exact answer_alike (m := { m with rxIdx := m.rxIdx + 1, rxDat := _ }) h .consecutive
        · exact ⟨rfl, d, h, rfl⟩

theorem rxFlow_alike (h : CanClient.Alike m.canClient d) (rxData : List UInt8) (first : UInt8) :
    Agree (m.rxFlow rxData first) ({ m with canClient := d }.rxFlow rxData first) := by
  unfold rxFlow
  dsimp only
  split
  · exact ⟨rfl, d, h, rfl⟩
  · split
    · exact ⟨rfl, d, h, rfl⟩
    · split
      · split
        · exact rxContinue_alike h _
        · exact ⟨rfl, d, h, rfl⟩
      · split
        · exact ⟨rfl, d, h, rfl⟩
        · exact ⟨rfl, d, h, rfl⟩

theorem isotpRxNext_alike (h : CanClient.Alike m.canClient d) (rxData : List UInt8) :
    Agree (m.isotpRxNext rxData) ({ m with canClient := d }.isotpRxNext rxData) := by
  unfold isotpRxNext
  split
  · exact ⟨rfl, d, h, rfl⟩
  · split
    · exact rxSingle_alike h _ _
    · split
      · exact rxFirst_alike h _ _
      · split
        · exact rxConsecutive_alike h _ _
        · split
          · exact rxFlow_alike h _ _
          · exact ⟨rfl, d, h, rfl⟩

theorem recvPass_alike (h : CanClient.Alike m.canClient d) (fuel : Nat)
    (gen : CanClient.Generator) (rxInProgress : Bool) :
    Agree (recvPass fuel gen rxInProgress m)
      (recvPass fuel gen rxInProgress { m with canClient := d }) := by
  induction fuel generalizing gen rxInProgress m d with
  | zero => exact ⟨rfl, d, h, rfl⟩
  | succ fuel ih =>
      have hnext := CanClient.next_alike h gen
      unfold recvPass
      dsimp only
      generalize m.canClient.next gen = first at *
      generalize d.next gen = second at *
      obtain ⟨item, after⟩ := first
      obtain ⟨item', after'⟩ := second
      obtain ⟨hitem, halike⟩ := hnext
      obtain rfl : item' = item := hitem
      dsimp only
      split
      · exact ⟨rfl, after', halike, rfl⟩
      · exact ⟨rfl, after', halike, rfl⟩
      · rename_i msg
        have htaken := isotpRxNext_alike (m := { m with canClient := after }) halike msg
        dsimp only at htaken
        generalize isotpRxNext msg { m with canClient := after } = first at *
        generalize isotpRxNext msg { m with canClient := after' } = second at *
        obtain ⟨result, taken⟩ := first
        obtain ⟨result', taken'⟩ := second
        obtain ⟨hresult, d', halike', rfl⟩ := htaken
        obtain rfl : result' = result := hresult
        cases result' with
        | error exc => exact ⟨rfl, d', halike', rfl⟩
        | ok frameType =>
            dsimp only
            split
            · exact ⟨rfl, d', halike', rfl⟩
            · exact ih halike' _ _

theorem poll_alike (h : CanClient.Alike m.canClient d) (rxInProgress : Bool) :
    Agree (m.poll rxInProgress) ({ m with canClient := d }.poll rxInProgress) := by
  have hpending : ({ m with canClient := d } : IsoTpMessage).pending = m.pending := by
    rw [pending, pending, h.rxBuff, h.rx]
  unfold poll CanClient.recv
  dsimp only
  rw [hpending]
  exact recvPass_alike h _ _ _

theorem recvLoop_alike (h : CanClient.Alike m.canClient d) (blocking : Bool) (clock : List Bool)
    (rxInProgress : Bool) :
    Agree (recvLoop blocking clock rxInProgress m)
      (recvLoop blocking clock rxInProgress { m with canClient := d }) := by
  induction clock generalizing rxInProgress m d with
  | nil =>
      have hpass := poll_alike h rxInProgress
      unfold recvLoop
      generalize m.poll rxInProgress = first at *
      generalize poll rxInProgress { m with canClient := d } = second at *
      obtain ⟨pass, after⟩ := first
      obtain ⟨pass', after'⟩ := second
      obtain ⟨hpass, d', halike, rfl⟩ := hpass
      obtain rfl : pass' = pass := hpass
      cases pass' with
      | returned rxDat => exact ⟨rfl, d', halike, rfl⟩
      | raised exc => exact ⟨rfl, d', halike, rfl⟩
      | ended rxInProgress =>
          cases blocking with
          | false => exact ⟨rfl, d', halike, rfl⟩
          | true => exact ⟨rfl, d', halike, rfl⟩
  | cons late clock ih =>
      have hpass := poll_alike h rxInProgress
      unfold recvLoop
      generalize m.poll rxInProgress = first at *
      generalize poll rxInProgress { m with canClient := d } = second at *
      obtain ⟨pass, after⟩ := first
      obtain ⟨pass', after'⟩ := second
      obtain ⟨hpass, d', halike, rfl⟩ := hpass
      obtain rfl : pass' = pass := hpass
      cases pass' with
      | returned rxDat => exact ⟨rfl, d', halike, rfl⟩
      | raised exc => exact ⟨rfl, d', halike, rfl⟩
      | ended rxInProgress =>
          cases blocking with
          | false => exact ⟨rfl, d', halike, rfl⟩
          | true =>
              cases late with
              | true => exact ⟨rfl, d', halike, rfl⟩
              | false => exact ih halike rxInProgress

/-! ### A request and its response -/

/-- `send` and then `recv`, with what `can_recv` returns from the start of `send`
on. -/
def exchange (dat : List UInt8) (setupOnly : Bool) (rx : List (List CanMessage)) (blocking : Bool)
    (clock : List Bool) (m : IsoTpMessage) : Received :=
  match (m.hearing rx).send dat setupOnly with
  | (some exc, _) => .raised exc
  | (none, m) => (m.recv blocking clock).1

/-- A new message of the same kind. -/
def renewed (c : CanClient) (m : IsoTpMessage) : IsoTpMessage :=
  { canClient := c
    singleFrameMode := m.singleFrameMode
    separationTime := m.separationTime
    maxLen := m.maxLen }

theorem send_alike (h : CanClient.Alike m.canClient d) (dat : List UInt8) (setupOnly : Bool) :
    Agree (m.send dat setupOnly) ({ m with canClient := d }.send dat setupOnly) := by
  unfold send CanClient.recv txFirstFrame
  dsimp only
  split
  · split
    · exact ⟨rfl, d, h, rfl⟩
    · exact canSend_alike (m := { m with
        txDat := dat, txLen := dat.length, txIdx := 0, txDone := true, rxDat := [], rxLen := 0,
        rxIdx := 0, rxDone := false }) h _
  · split
    · exact ⟨rfl, d, h, rfl⟩
    · split
      · exact ⟨rfl, d, h, rfl⟩
      · exact canSend_alike (m := { m with
          txDat := dat, txLen := dat.length, txIdx := 0, txDone := false, rxDat := [], rxLen := 0,
          rxIdx := 0, rxDone := false }) h _

/-- What an earlier request left in the message is gone, and a client that agrees
with a new one brings nothing along. -/
theorem exchange_renewed {c : CanClient} (htx : m.canClient.txAddr = c.txAddr)
    (hrx : m.canClient.rxAddr = c.rxAddr) (hbus : m.canClient.bus = c.bus)
    (hsub : m.canClient.subAddr = c.subAddr) (hbuff : m.canClient.rxBuff = c.rxBuff)
    (dat : List UInt8) (setupOnly : Bool) (rx : List (List CanMessage)) (blocking : Bool)
    (clock : List Bool) :
    m.exchange dat setupOnly rx blocking clock =
      (m.renewed c).exchange dat setupOnly rx blocking clock := by
  have halike : CanClient.Alike (m.hearing rx).canClient ((m.renewed c).hearing rx).canClient :=
    ⟨htx.symm, hrx.symm, hbus.symm, hsub.symm, hbuff.symm, rfl⟩
  have hsend : Agree ((m.hearing rx).send dat setupOnly)
      (((m.renewed c).hearing rx).send dat setupOnly) := send_alike halike dat setupOnly
  unfold exchange
  generalize (m.hearing rx).send dat setupOnly = first at *
  generalize ((m.renewed c).hearing rx).send dat setupOnly = second at *
  obtain ⟨exc, after⟩ := first
  obtain ⟨exc', after'⟩ := second
  obtain ⟨hexc, d', halike', rfl⟩ := hsend
  obtain rfl : exc' = exc := hexc
  cases exc' with
  | some exc => rfl
  | none => exact (recvLoop_alike halike' blocking clock false).1.symm

/-! ### A frame that is still in the buffer -/

theorem answer_txDone {asked frameType : IsoTpFrameType} {after : IsoTpMessage}
    (h : m.answer asked = (.ok frameType, after)) :
    after.txDone = m.txDone ∧ frameType = asked := by
  unfold answer canSend at h
  dsimp only at h
  split at h
  · cases h
  · rename_i hsent
    obtain ⟨htype, rfl⟩ := Prod.mk.inj h
    obtain ⟨-, rfl⟩ := Prod.mk.inj hsent
    exact ⟨rfl, (Except.ok.inj htype).symm⟩

/-- With nothing to send, no frame leaves the message as it waits: a frame is refused,
or it is part of a response. -/
theorem isotpRxNext_txDone {frame : List UInt8} {frameType : IsoTpFrameType}
    {after : IsoTpMessage} (hdone : m.txDone = true)
    (h : m.isotpRxNext frame = (.ok frameType, after)) :
    after.txDone = true ∧
      (frameType = .single ∧ after.rxDone = true ∨ frameType = .first ∨
        frameType = .consecutive) := by
  unfold isotpRxNext at h
  split at h
  · cases h
  rename_i first rest
  split at h
  · unfold rxSingle at h
    dsimp only at h
    split at h
    · cases h
    split at h
    · cases h
    obtain ⟨htype, rfl⟩ := Prod.mk.inj h
    exact ⟨hdone, .inl ⟨(Except.ok.inj htype).symm, rfl⟩⟩
  split at h
  · unfold rxFirst at h
    dsimp only at h
    split at h
    · cases h
    split at h
    · cases h
    split at h
    · cases h
    split at h
    · cases h
    obtain ⟨hafter, rfl⟩ := answer_txDone h
    exact ⟨hafter.trans hdone, .inr (.inl rfl)⟩
  split at h
  · unfold rxConsecutive at h
    dsimp only at h
    split at h
    · cases h
    split at h
    · cases h
    split at h
    · obtain ⟨htype, rfl⟩ := Prod.mk.inj h
      exact ⟨hdone, .inr (.inr (Except.ok.inj htype).symm)⟩
    split at h
    · obtain ⟨hafter, rfl⟩ := answer_txDone h
      exact ⟨hafter.trans hdone, .inr (.inr rfl)⟩
    · obtain ⟨htype, rfl⟩ := Prod.mk.inj h
      exact ⟨hdone, .inr (.inr (Except.ok.inj htype).symm)⟩
  split at h
  · rw [rxFlow, if_pos hdone] at h
    cases h
  · cases h

/-- A pass over a buffer that is not empty shows. -/
theorem recvPass_buffered {fuel : Nat} {rxInProgress : Bool} (hdone : m.txDone = true)
    (h : rxInProgress = true ∨ m.canClient.rxBuff ≠ [] ∧ 0 < fuel) :
    (recvPass fuel .yielded rxInProgress m).1 ≠ .ended false := by
  induction fuel generalizing m rxInProgress with
  | zero =>
      rcases h with rfl | ⟨-, hpos⟩
      · exact fun hend => absurd (Pass.ended.inj hend).symm Bool.false_ne_true
      · exact absurd hpos (Nat.lt_irrefl 0)
  | succ fuel ih =>
      unfold recvPass
      cases hbuff : m.canClient.rxBuff with
      | nil =>
          have hnext : m.canClient.next .yielded = (.ok none, m.canClient) :=
            CanClient.popleft_empty hbuff
          rw [hnext]
          rcases h with rfl | ⟨hne, -⟩
          · exact fun hend => absurd (Pass.ended.inj hend).symm Bool.false_ne_true
          · exact absurd hbuff hne
      | cons frame rest =>
          have hnext : m.canClient.next .yielded =
              (.ok (some frame), { m.canClient with rxBuff := rest }) :=
            CanClient.popleft_cons hbuff
          rw [hnext]
          dsimp only
          split
          · exact Pass.noConfusion
          · rename_i frameType after htaken
            obtain ⟨hafter, htype⟩ := isotpRxNext_txDone
              (m := { m with canClient := { m.canClient with rxBuff := rest } }) hdone htaken
            split
            · exact Pass.noConfusion
            · rename_i hopen
              apply ih hafter
              left
              rcases htype with ⟨-, hrx⟩ | rfl | rfl
              · exact absurd (Bool.and_eq_true_iff.mpr ⟨hafter, hrx⟩) hopen
              · rfl
              · rfl

/-- The message after `send` with an empty payload that is only set up. -/
def waiting (rx : List (List CanMessage)) (m : IsoTpMessage) : IsoTpMessage :=
  { (m.renewed m.canClient).hearing rx with txDone := true }

theorem exchange_setUp (hmax : 0 < m.maxLen) (rx : List (List CanMessage)) :
    m.exchange [] true rx false [] = ((m.waiting rx).recv false []).1 := by
  have hsend : (m.hearing rx).send [] true = (none, m.waiting rx) := by
    unfold send CanClient.recv txFirstFrame
    dsimp only
    rw [if_pos (show ([] : List UInt8).length < (m.hearing rx).maxLen from hmax), if_pos rfl]
    rfl
  rw [exchange, hsend]

/-- A call without a timeout comes to nothing exactly if its pass does. -/
theorem recv_none_iff (m : IsoTpMessage) :
    (m.recv false []).1 = .result none false ↔ (m.poll false).1 = .ended false := by
  unfold recv recvLoop
  generalize m.poll false = r
  obtain ⟨pass, after⟩ := r
  cases pass with
  | returned rxDat => simp
  | raised exc => simp
  | ended rxInProgress => simp

/-- The generator starts with one message. -/
theorem next_one (c : CanClient) (msg : CanMessage) (hrx : c.port.rx = [[msg]]) :
    c.next (.created false) =
      CanClient.popleft ({ c with port := { c.port with rx := [] } }.bufferMsg msg) := by
  have hone (c : CanClient) : c.bufferMsgs [msg] = c.bufferMsg msg := by
    unfold CanClient.bufferMsgs
    cases c.bufferMsg msg with
    | mk exc after =>
        cases exc with
        | none => rfl
        | some exc => rfl
  unfold CanClient.next CanClient.recvBuffer
  dsimp only
  rw [hrx, CanClient.recvBufferLoop_take, hone]
  dsimp only
  rw [if_pos (Or.inr (by rw [List.length_singleton]; decide))]

/-- Nothing that was there, and nothing that comes: the call comes to nothing. -/
theorem exchange_quiet (hmax : 0 < m.maxLen) (hbuff : m.canClient.rxBuff = []) :
    m.exchange [] true [] false [] = .result none false := by
  rw [exchange_setUp hmax, recv_none_iff]
  have hnext : (m.waiting []).canClient.next (.created false) =
      (.ok none, (m.waiting []).canClient) := CanClient.popleft_empty hbuff
  unfold poll CanClient.recv recvPass
  dsimp only
  rw [hnext]

theorem exchange_buffered (hmax : 0 < m.maxLen) (hbuff : m.canClient.rxBuff ≠ []) :
    m.exchange [] true [] false [] ≠ .result none false := by
  rw [exchange_setUp hmax, Ne, recv_none_iff]
  have hpoll : (m.waiting []).poll false =
      recvPass ((m.waiting []).pending + 1) .yielded false (m.waiting []) := by
    unfold poll CanClient.recv recvPass
    rfl
  rw [hpoll]
  exact recvPass_buffered rfl (.inr ⟨hbuff, Nat.succ_pos _⟩)

/-- A message that the client refuses comes to nothing as well. -/
theorem exchange_foreign (hmax : 0 < m.maxLen) (hbuff : m.canClient.rxBuff = [])
    (msg : CanMessage) (hresponse : CanClient.isResponse m.canClient.txAddr msg.address = false)
    (hrx : m.canClient.rxAddr ≠ some msg.address) :
    m.exchange [] true [[msg]] false [] = .result none false := by
  rw [exchange_setUp hmax, recv_none_iff]
  have hother : (some msg.address == m.canClient.rxAddr) = false :=
    beq_eq_false_iff_ne.mpr hrx.symm
  have hfilter := CanClient.recvFilter_other msg.bus (c := { m.canClient with
    port := { m.canClient.port with rx := [] }, seen := m.canClient.seen ++ [msg] }) hresponse
  dsimp only at hfilter
  rw [hother, Bool.and_false, Bool.and_false] at hfilter
  have hnext : (m.waiting [[msg]]).canClient.next (.created false) =
      (.ok none, { m.canClient with
        port := { m.canClient.port with rx := [] }
        seen := m.canClient.seen ++ [msg] }) := by
    rw [next_one _ msg rfl]
    exact (congrArg CanClient.popleft (CanClient.bufferMsg_refused hfilter)).trans
      (CanClient.popleft_empty hbuff)
  unfold poll CanClient.recv recvPass
  dsimp only
  rw [hnext]

/-- An empty single frame of a responder ends the call of a client that has a
functional address still. -/
theorem exchange_answered (hmax : 0 < m.maxLen) (hbuff : m.canClient.rxBuff = [])
    {address : Nat} (hresponse : CanClient.isResponse m.canClient.txAddr address = true) :
    m.exchange [] true
      [[⟨address, m.canClient.subAddr.toList ++ [0x00], m.canClient.bus⟩]] false [] =
        .result (some []) false := by
  rw [exchange_setUp hmax]
  generalize hmsg : (⟨address, m.canClient.subAddr.toList ++ [0x00], m.canClient.bus⟩ :
    CanMessage) = msg
  have hfilter := CanClient.recvFilter_response m.canClient.bus (c := { m.canClient with
    port := { m.canClient.port with rx := [] }, seen := m.canClient.seen ++ [msg] }) hresponse
  dsimp only at hfilter
  rw [beq_self_eq_true, Bool.or_true] at hfilter
  obtain ⟨after, hnext⟩ : ∃ after, (m.waiting [[msg]]).canClient.next (.created false) =
      (.ok (some [0x00]), after) := by
    rw [next_one _ msg rfl]
    subst hmsg
    exact ⟨_, (congrArg CanClient.popleft
      (CanClient.bufferMsg_taken hfilter rfl (List.cons_ne_nil _ _))).trans
        (CanClient.popleft_cons (congrArg (· ++ [[0x00]]) hbuff))⟩
  have hsingle : { m.waiting [[msg]] with canClient := after }.isotpRxNext [0x00] =
      (.ok .single, { m.waiting [[msg]] with
        canClient := after
        rxDone := true }) := by
    unfold isotpRxNext
    dsimp only
    rw [if_pos (by decide), rxSingle, if_neg (not_not_intro (.inl rfl))]
    exact if_neg (not_not_intro hmax)
  unfold recv recvLoop poll CanClient.recv recvPass
  dsimp only
  rw [hnext]
  dsimp only
  rw [hsingle]
  rfl

/-! ### Histories -/

theorem exists_other_response {txAddr first : Nat}
    (h : CanClient.isResponse txAddr first = true) :
    ∃ other, CanClient.isResponse txAddr other = true ∧ other ≠ first := by
  simp only [CanClient.isResponse, Bool.or_eq_true, Bool.and_eq_true, beq_iff_eq,
    decide_eq_true_eq] at h ⊢
  rcases h with ⟨⟨htx, -⟩, -⟩ | ⟨⟨htx, -⟩, -⟩
  · rcases Nat.decEq first 0x7E8 with hne | heq
    · exact ⟨0x7E8, .inl ⟨⟨htx, by omega⟩, by omega⟩, fun h => hne h.symm⟩
    · exact ⟨0x7E9, .inl ⟨⟨htx, by omega⟩, by omega⟩, by omega⟩
  · rcases Nat.decEq first 0x18DAF100 with hne | heq
    · exact ⟨0x18DAF100, .inr ⟨⟨htx, by omega⟩, by omega⟩, fun h => hne h.symm⟩
    · exact ⟨0x18DAF101, .inr ⟨⟨htx, by omega⟩, by omega⟩, by omega⟩

/-- For a client with any history, a request sees nothing from before it exactly if
the buffer is empty and the addresses are those that the client was made with. -/
theorem unaffected_iff (txAddr : Nat) (rxAddr : Option Nat) (bus : Nat) (subAddr : Option UInt8)
    (history : List ClientCall) (m : IsoTpMessage) (hmax : 0 < m.maxLen) :
    let made : CanClient := { txAddr, rxAddr, bus, subAddr }
    let used := run clientStep made history
    (∀ dat setupOnly rx blocking clock,
        { m with canClient := used }.exchange dat setupOnly rx blocking clock =
          (m.renewed made).exchange dat setupOnly rx blocking clock) ↔
      used.rxBuff = [] ∧ used.txAddr = txAddr ∧ used.rxAddr = rxAddr := by
  intro made used
  have hhistory : CanClient.History made used :=
    CanClient.history_run txAddr rxAddr bus subAddr history
  constructor
  · intro h
    have hquiet := exchange_quiet (m := m.renewed made) hmax rfl
    have hbuff : used.rxBuff = [] := by
      by_contra hne
      have hstale := exchange_buffered (m := { m with canClient := used }) hmax hne
      exact hstale ((h [] true [] false []).trans hquiet)
    refine ⟨hbuff, ?_⟩
    rcases hhistory.addresses with hunswitched | ⟨before, first, after, rest, hswitched⟩
    · exact ⟨hunswitched.txAddr, hunswitched.rxAddr⟩
    obtain ⟨other, hother, hne⟩ := exists_other_response hswitched.response
    have hanswered := exchange_answered (m := m.renewed made) hmax rfl hother
    have hphysical := (CanClient.isResponse_requestAddr hswitched.response other).1
    rw [← hswitched.txAddr] at hphysical
    have hforeign := exchange_foreign (m := { m with canClient := used }) hmax hbuff
      ⟨other, made.subAddr.toList ++ [0x00], made.bus⟩ hphysical (by
        rw [hswitched.rxAddr]
        exact fun heq => hne (Option.some.inj heq).symm)
    have hboth := hforeign.symm.trans ((h _ _ _ _ _).trans hanswered)
    exact absurd (Received.result.inj hboth).1 (Option.some_ne_none _).symm
  · rintro ⟨hbuff, htx, hrx⟩ dat setupOnly rx blocking clock
    exact exchange_renewed htx hrx hhistory.bus hhistory.subAddr hbuff dat setupOnly rx blocking
      clock

/-- A client whose one response was taken. -/
theorem unaffected_one :
    let made : CanClient := { txAddr := 0x7E0, rxAddr := some 0x7E8, bus := 0, subAddr := none }
    let message : IsoTpMessage := { canClient := made }
    let used := run clientStep made [.next (.created false) [[⟨0x7E8, [0x02, 0x50, 0x01], 0⟩]]]
    { message with canClient := used }.exchange [0x3E, 0x00] false
        [[⟨0x7E8, [0x02, 0x7E, 0x00], 0⟩]] false [] =
      (message.renewed made).exchange [0x3E, 0x00] false
        [[⟨0x7E8, [0x02, 0x7E, 0x00], 0⟩]] false [] :=
  (unaffected_iff 0x7E0 (some 0x7E8) 0 none
    [.next (.created false) [[⟨0x7E8, [0x02, 0x50, 0x01], 0⟩]]]
    { canClient := { txAddr := 0x7E0, rxAddr := some 0x7E8, bus := 0 } } (by decide)).mpr
      ⟨rfl, rfl, rfl⟩ [0x3E, 0x00] false [[⟨0x7E8, [0x02, 0x7E, 0x00], 0⟩]] false []

/-- Two responses in one batch: the second one answers the next request. -/
theorem not_unaffected_two :
    ¬ ∀ (txAddr : Nat) (rxAddr : Option Nat) (bus : Nat) (subAddr : Option UInt8)
      (history : List ClientCall) (m : IsoTpMessage) (dat : List UInt8) (setupOnly : Bool)
      (rx : List (List CanMessage)) (blocking : Bool) (clock : List Bool), 0 < m.maxLen →
      { m with canClient := run clientStep { txAddr, rxAddr, bus, subAddr } history }.exchange
          dat setupOnly rx blocking clock =
        (m.renewed { txAddr, rxAddr, bus, subAddr }).exchange dat setupOnly rx blocking clock := by
  intro h
  have hsame := h 0x7E0 (some 0x7E8) 0 none
    [.next (.created false)
      [[⟨0x7E8, [0x03, 0x7F, 0x10, 0x78], 0⟩, ⟨0x7E8, [0x02, 0x50, 0x01], 0⟩]]]
    { canClient := { txAddr := 0x7E0, rxAddr := some 0x7E8, bus := 0 } } [0x3E, 0x00] false []
    false [] (by decide)
  exact absurd hsame (by decide)

end IsoTpMessage

end Panda.Host
