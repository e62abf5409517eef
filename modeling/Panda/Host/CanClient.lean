import Panda.Host.CanBuffer

/-!
`CanClient` of `python/uds.py`: the frames of one diagnostic partner, filtered
by address and bus and buffered. A call that raises leaves what it did until
then.
-/

namespace Panda.Host

/-- The exceptions of `python/uds.py` with their texts. -/
inductive UdsException where
  | invalidSubAddressError (text : String)
  | assertionError (text : String)
  | messageTimeoutError (text : String)
  | invalidFrameType (text : String)
  | indexError
  | structError
deriving DecidableEq

/-- `CanClient`, with the port behind `self.tx` and `self.rx`, and two logs that
no function reads: the messages that the filter looked at, and those of them
that were appended to `rx_buff`. -/
structure CanClient where
  txAddr : Nat
  rxAddr : Option Nat
  bus : Nat
  subAddr : Option UInt8 := none
  rxBuff : List (List UInt8) := []
  port : CanPort := {}
  seen : List CanMessage := []
  accepted : List CanMessage := []
deriving DecidableEq

namespace CanClient

/-! ### Receiving -/

/-- `_recv_filter`. A functional address is switched to the first address to
respond. -/
def recvFilter (bus addr : Nat) (c : CanClient) : Bool × CanClient :=
  if c.txAddr = 0x7DF then
    if addr ≥ 0x7E8 ∧ addr ≤ 0x7EF then
      (true, { c with txAddr := addr - 8, rxAddr := some addr })
    else (false, c)
  else
    let isResponse := c.txAddr = 0x18DB33F1 ∧ addr ≥ 0x18DAF100 ∧ addr ≤ 0x18DAF1FF
    let c := if isResponse then
        { c with txAddr := 0x18DA00F1 + (addr <<< 8 &&& 0xFF00), rxAddr := some addr }
      else c
    (bus == c.bus && some addr == c.rxAddr, c)

def push (msg : CanMessage) (rxData : List UInt8) (c : CanClient) : CanClient :=
  { c with rxBuff := c.rxBuff ++ [rxData], accepted := c.accepted ++ [msg] }

/-- What the loop of `_recv_buffer` does with one message: the sub-address in the
first byte is cut off. -/
def bufferMsg (msg : CanMessage) (c : CanClient) : Option UdsException × CanClient :=
  let (ours, c) := { c with seen := c.seen ++ [msg] }.recvFilter msg.bus msg.address
  match ours, msg.dat, c.subAddr with
  | false, _, _ | true, [], _ => (none, c)
  | true, rxData, none => (none, c.push msg rxData)
  | true, first :: rxData, some subAddr =>
      if first ≠ subAddr then
        (some (.invalidSubAddressError (s!"isotp - rx: invalid sub-address: {first}, " ++
          s!"expected: {subAddr}")), c)
      else (none, c.push msg rxData)

/-- A message that the filter refuses leaves what the filter left. -/
theorem bufferMsg_refused {msg : CanMessage} {c c' : CanClient}
    (h : { c with seen := c.seen ++ [msg] }.recvFilter msg.bus msg.address = (false, c')) :
    c.bufferMsg msg = (none, c') := by
  rw [bufferMsg, h]

/-- A message of the client with data behind the sub-address is appended. -/
theorem bufferMsg_taken {msg : CanMessage} {frame : List UInt8} {c c' : CanClient}
    (h : { c with seen := c.seen ++ [msg] }.recvFilter msg.bus msg.address = (true, c'))
    (hdat : msg.dat = c'.subAddr.toList ++ frame) (hframe : frame ≠ []) :
    c.bufferMsg msg = (none, c'.push msg frame) := by
  obtain ⟨first, rest, rfl⟩ := List.exists_cons_of_ne_nil hframe
  rw [bufferMsg, h]
  cases hsub : c'.subAddr with
  | none =>
      rw [hsub] at hdat
      simp only [hdat, hsub]
      rfl
  | some subAddr =>
      rw [hsub] at hdat
      simp only [hdat, hsub]
      exact if_neg (not_not_intro rfl)

def bufferMsgs : List CanMessage → CanClient → Option UdsException × CanClient
  | [], c => (none, c)
  | msg :: msgs, c =>
      match c.bufferMsg msg with
      | (some exc, c) => (some exc, c)
      | (none, c) => bufferMsgs msgs c

def recvBufferLoop (drain : Bool) : List (List CanMessage) → CanClient →
    Option UdsException × CanClient
  | [], c => (none, if drain then { c with rxBuff := [] } else c)
  | msgs :: rx, c =>
      let c := { c with port := { c.port with rx } }
      let (exc, c) := if drain then (none, { c with rxBuff := [] }) else c.bufferMsgs msgs
      if exc.isSome ∨ msgs.length < 254 then (exc, c) else recvBufferLoop drain rx c

theorem recvBufferLoop_drain (msgs : List CanMessage) (rx : List (List CanMessage))
    (c : CanClient) :
    recvBufferLoop true (msgs :: rx) c =
      if msgs.length < 254 then (none, { c with rxBuff := [], port := { c.port with rx } })
      else recvBufferLoop true rx { c with rxBuff := [], port := { c.port with rx } } := by
  rw [recvBufferLoop]
  simp only [if_true, Option.isSome_none, Bool.false_eq_true, false_or]

theorem recvBufferLoop_take (msgs : List CanMessage) (rx : List (List CanMessage))
    (c : CanClient) :
    recvBufferLoop false (msgs :: rx) c =
      let r := { c with port := { c.port with rx } }.bufferMsgs msgs
      if r.1.isSome ∨ msgs.length < 254 then r else recvBufferLoop false rx r.2 := by
  rw [recvBufferLoop]
  simp only [Bool.false_eq_true, if_false]

def recvBuffer (drain : Bool) (c : CanClient) : Option UdsException × CanClient :=
  recvBufferLoop drain c.port.rx c

/-- The generator that a call of `recv` returns. Its body runs from one `next` to
the following `yield`, so the call alone runs none of it. -/
inductive Generator where
  | created (drain : Bool)
  | yielded

def recv (drain : Bool) (c : CanClient) : Generator × CanClient := (.created drain, c)

/-- `yield self.rx_buff.popleft()`, unless something was raised before: nothing when
the buffer is empty. -/
def popleft : Option UdsException × CanClient →
    Except UdsException (Option (List UInt8)) × CanClient
  | (some exc, c) => (.error exc, c)
  | (none, c) =>
      match c.rxBuff with
      | [] => (.ok none, c)
      | msg :: rxBuff => (.ok (some msg), { c with rxBuff })

theorem popleft_empty {c : CanClient} (h : c.rxBuff = []) : popleft (none, c) = (.ok none, c) := by
  simp only [popleft, h]

theorem popleft_cons {c : CanClient} {msg : List UInt8} {rest : List (List UInt8)}
    (h : c.rxBuff = msg :: rest) :
    popleft (none, c) = (.ok (some msg), { c with rxBuff := rest }) := by
  simp only [popleft, h]

def next (gen : Generator) (c : CanClient) :
    Except UdsException (Option (List UInt8)) × CanClient :=
  popleft <| match gen with
    | .created drain => c.recvBuffer drain
    | .yielded => (none, c)

/-! ### Sending -/

def addressed (msg : List UInt8) (c : CanClient) : List UInt8 := c.subAddr.toList ++ msg

def sendLoop : Nat → List (List UInt8) → CanClient → Option UdsException × CanClient
  | _, [], c => (none, c)
  | i, msg :: msgs, c =>
      let msg := c.addressed msg
      if msg.length ≤ 8 then
        let c := { c with port := c.port.canSend c.txAddr msg c.bus }
        -- prevent rx buffer from overflowing on large tx
        let (exc, c) := if i % 10 = 9 then c.recvBuffer false else (none, c)
        if exc.isSome then (exc, c) else sendLoop (i + 1) msgs c
      else (some (.assertionError ""), c)

theorem sendLoop_cons {i : Nat} {msg : List UInt8} {msgs : List (List UInt8)} {c : CanClient}
    (hlen : (c.addressed msg).length ≤ 8) :
    sendLoop i (msg :: msgs) c =
      let sent := { c with port := c.port.canSend c.txAddr (c.addressed msg) c.bus }
      if i % 10 = 9 then
        let r := sent.recvBuffer false
        if r.1.isSome then r else sendLoop (i + 1) msgs r.2
      else sendLoop (i + 1) msgs sent := by
  rw [sendLoop]
  dsimp only
  rw [if_pos hlen]
  split
  · rfl
  · rw [Option.isSome_none, if_neg Bool.false_ne_true]

/-- `send`. The delay between the messages is left out. -/
def send (msgs : List (List UInt8)) (c : CanClient) : Option UdsException × CanClient :=
  sendLoop 0 msgs c

/-! ### What receiving keeps -/

/-- A predicate that one message keeps, and that does not look at what is
received. -/
structure Keeps (P : CanClient → Prop) : Prop where
  msg : ∀ c msg, P c → P (c.bufferMsg msg).2
  rest : ∀ c rxBuff rx, P c → P { c with rxBuff, port := { c.port with rx } }

variable {P : CanClient → Prop} {c : CanClient}

theorem Keeps.bufferMsgs (hP : Keeps P) (msgs : List CanMessage) (hc : P c) :
    P (c.bufferMsgs msgs).2 := by
  induction msgs generalizing c with
  | nil => exact hc
  | cons msg msgs ih =>
      have hnext : P (c.bufferMsg msg).2 := hP.msg c msg hc
      unfold CanClient.bufferMsgs
      cases hbuffer : c.bufferMsg msg with
      | mk exc after =>
          rw [hbuffer] at hnext
          cases exc with
          | none => exact ih hnext
          | some exc => exact hnext

theorem Keeps.recvBufferLoop (hP : Keeps P) (drain : Bool) (rx : List (List CanMessage))
    (hc : P c) : P (CanClient.recvBufferLoop drain rx c).2 := by
  induction rx generalizing c with
  | nil =>
      cases drain with
      | false => exact hc
      | true => exact hP.rest c [] c.port.rx hc
  | cons msgs rx ih =>
      have hport : P { c with port := { c.port with rx } } := hP.rest c c.rxBuff rx hc
      cases drain with
      | false =>
          rw [recvBufferLoop_take]
          dsimp only
          split
          · exact hP.bufferMsgs msgs hport
          · exact ih (hP.bufferMsgs msgs hport)
      | true =>
          rw [recvBufferLoop_drain]
          split
          · exact hP.rest c [] _ hc
          · exact ih (hP.rest c [] _ hc)

theorem Keeps.popleft (hP : Keeps P) (exc : Option UdsException) (hc : P c) :
    P (CanClient.popleft (exc, c)).2 := by
  cases exc with
  | some exc => exact hc
  | none =>
      unfold CanClient.popleft
      dsimp only
      split
      · exact hc
      · exact hP.rest c _ c.port.rx hc

theorem Keeps.next (hP : Keeps P) (gen : Generator) (hc : P c) : P (c.next gen).2 := by
  cases gen with
  | created drain => exact hP.popleft _ (hP.recvBufferLoop drain c.port.rx hc)
  | yielded => exact hP.popleft none hc

theorem Keeps.sendLoop (hP : Keeps P)
    (hsend : ∀ c dat, P c → P { c with port := c.port.canSend c.txAddr dat c.bus }) (i : Nat)
    (msgs : List (List UInt8)) (hc : P c) : P (CanClient.sendLoop i msgs c).2 := by
  induction msgs generalizing i c with
  | nil => exact hc
  | cons msg msgs ih =>
      by_cases hlen : (c.addressed msg).length ≤ 8
      · have hsent : P { c with port := c.port.canSend c.txAddr (c.addressed msg) c.bus } :=
          hsend c _ hc
        rw [sendLoop_cons hlen]
        dsimp only
        split
        · split
          · exact hP.recvBufferLoop false _ hsent
          · exact ih (i + 1) (hP.recvBufferLoop false _ hsent)
        · exact ih (i + 1) hsent
      · rw [CanClient.sendLoop, if_neg hlen]
        exact hc

/-! ### What was sent -/

theorem recvFilter_frame (bus addr : Nat) (c : CanClient) :
    ∃ txAddr rxAddr, (c.recvFilter bus addr).2 = { c with txAddr, rxAddr } := by
  unfold recvFilter
  dsimp only
  split_ifs
  · exact ⟨_, _, rfl⟩
  · exact ⟨_, _, rfl⟩
  · exact ⟨_, _, rfl⟩
  · exact ⟨_, _, rfl⟩

theorem bufferMsg_frame (c : CanClient) (msg : CanMessage) :
    ∃ txAddr rxAddr rxBuff seen accepted,
      (c.bufferMsg msg).2 = { c with txAddr, rxAddr, rxBuff, seen, accepted } := by
  obtain ⟨txAddr, rxAddr, hfilter⟩ :=
    recvFilter_frame msg.bus msg.address { c with seen := c.seen ++ [msg] }
  unfold bufferMsg
  dsimp only
  rw [hfilter]
  split
  · exact ⟨_, _, _, _, _, rfl⟩
  · exact ⟨_, _, _, _, _, rfl⟩
  · exact ⟨_, _, _, _, _, rfl⟩
  · split
    · exact ⟨_, _, _, _, _, rfl⟩
    · exact ⟨_, _, _, _, _, rfl⟩

/-- Receiving sends nothing. -/
theorem keeps_sent (subAddr : Option UInt8) (tx : List CanMessage) :
    Keeps fun c => c.subAddr = subAddr ∧ c.port.tx = tx where
  msg c msg h := by
    obtain ⟨_, _, _, _, _, hframe⟩ := bufferMsg_frame c msg
    rw [hframe]
    exact h
  rest _ _ _ h := h

/-- A send that does not raise gave every message to the port, with the
sub-address. -/
theorem sendLoop_sent {i : Nat} {msgs : List (List UInt8)} {c' : CanClient}
    (h : CanClient.sendLoop i msgs c = (none, c')) :
    c'.subAddr = c.subAddr ∧
      c'.port.tx.map CanMessage.dat = c.port.tx.map CanMessage.dat ++ msgs.map c.addressed := by
  induction msgs generalizing i c with
  | nil =>
      obtain ⟨-, rfl⟩ := Prod.mk.inj h
      exact ⟨rfl, (List.append_nil _).symm⟩
  | cons msg msgs ih =>
      by_cases hlen : (c.addressed msg).length ≤ 8
      · rw [sendLoop_cons hlen] at h
        have hafter : ∀ after : CanClient, after.subAddr = c.subAddr →
            after.port.tx = c.port.tx ++ [⟨c.txAddr, c.addressed msg, c.bus⟩] →
            CanClient.sendLoop (i + 1) msgs after = (none, c') →
            c'.subAddr = c.subAddr ∧ c'.port.tx.map CanMessage.dat =
              c.port.tx.map CanMessage.dat ++ (msg :: msgs).map c.addressed := by
          intro after hsub htx hrest
          obtain ⟨hsub', htx'⟩ := ih hrest
          have haddressed : after.addressed = c.addressed := by
            funext dat
            rw [addressed, addressed, hsub]
          refine ⟨hsub'.trans hsub, ?_⟩
          rw [htx', htx, haddressed, List.map_append, List.map_cons, List.append_assoc]
          rfl
        dsimp only at h
        split at h
        · split at h
          · rename_i hraised
            rw [h] at hraised
            exact absurd hraised Bool.false_ne_true
          · obtain ⟨hsub, htx⟩ := (keeps_sent c.subAddr _).recvBufferLoop false _
              (c := { c with port := c.port.canSend c.txAddr (c.addressed msg) c.bus }) ⟨rfl, rfl⟩
            exact hafter _ hsub htx h
        · refine hafter _ ?_ ?_ h
          · rfl
          · rfl
      · rw [sendLoop, if_neg hlen] at h
        exact absurd (Prod.mk.inj h).1 (Option.some_ne_none _)

end CanClient

end Panda.Host
