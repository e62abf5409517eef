import Panda.Host.IsoTpTransfer
import Panda.Library.Transition

/-!
Runs of a sender and a receiver on one line. A call of `recv` takes the frames
that were delivered until then. The receiver ends with the payload of the sender,
in whatever batches the frames are delivered.
-/

namespace Panda.Host

open Library

/-! ### A call of `recv` -/

namespace IsoTpMessage

variable {m : IsoTpMessage}

/-- An invariant with a budget that a call of `recv` keeps: filling the buffer raises
nothing, each frame of the buffer is taken at a cost, and a message that is complete
then is a good one. -/
structure PassInvariant (I : Nat → IsoTpMessage → Prop) (good : IsoTpMessage → Prop) : Prop where
  fill : ∀ budget m, I budget m → ∃ after lower, m.canClient.recvBuffer false = (none, after) ∧
    I lower { m with canClient := after } ∧ lower ≤ budget ∧
    (m.canClient.port.rx ≠ [] → lower < budget) ∧
    (m.canClient.rxBuff ≠ [] → after.rxBuff ≠ []) ∧
    ({ m with canClient := after } : IsoTpMessage).pending ≤ m.pending
  frame : ∀ budget m frame rest, I budget m → m.canClient.rxBuff = frame :: rest →
    ∃ frameType after lower,
      { m with canClient.rxBuff := rest }.isotpRxNext frame = (.ok frameType, after) ∧
        I lower after ∧ lower < budget ∧ after.pending < m.pending ∧
        ((after.txDone && after.rxDone) = true → good after)

/-- How a pass ends: with an empty buffer, and complete only if the message was so
before, or with the data of a good message. -/
inductive PassEnd (good : IsoTpMessage → Prop) (m : IsoTpMessage) : Pass × IsoTpMessage → Prop
  | waits {rxInProgress : Bool} {last : IsoTpMessage} (hempty : last.canClient.rxBuff = [])
      (hflags : (last.txDone && last.rxDone) = true → (m.txDone && m.rxDone) = true) :
      PassEnd good m (.ended rxInProgress, last)
  | returned {last : IsoTpMessage} (hgood : good last) :
      PassEnd good m (.returned last.rxDat, last)

variable {I : Nat → IsoTpMessage → Prop} {good : IsoTpMessage → Prop}

theorem recvPass_yielded (hI : PassInvariant I good) {fuel budget : Nat} (hm : I budget m)
    (hfuel : m.pending < fuel) (rxInProgress : Bool) :
    ∃ lower, I lower (recvPass fuel .yielded rxInProgress m).2 ∧ lower ≤ budget ∧
      (m.canClient.rxBuff ≠ [] → lower < budget) ∧
      PassEnd good m (recvPass fuel .yielded rxInProgress m) := by
  induction fuel generalizing m budget rxInProgress with
  | zero => exact absurd hfuel (Nat.not_lt_zero _)
  | succ fuel ih =>
      unfold recvPass
      cases hbuff : m.canClient.rxBuff with
      | nil =>
          have hnext : m.canClient.next .yielded = (.ok none, m.canClient) :=
            CanClient.popleft_empty hbuff
          rw [hnext]
          exact ⟨budget, hm, Nat.le_refl _, fun hne => absurd rfl hne, .waits hbuff id⟩
      | cons frame rest =>
          have hnext : m.canClient.next .yielded =
              (.ok (some frame), { m.canClient with rxBuff := rest }) :=
            CanClient.popleft_cons hbuff
          obtain ⟨frameType, after, lower, htaken, hafter, hlower, hpending, hgood⟩ :=
            hI.frame budget m frame rest hm hbuff
          rw [hnext]
          dsimp only
          rw [htaken]
          dsimp only
          split
          · rename_i hcomplete
            exact ⟨lower, hafter, Nat.le_of_lt hlower, fun _ => hlower, .returned (hgood hcomplete)⟩
          · rename_i hopen
            obtain ⟨lowest, hlast, hle, -, hend⟩ :=
              ih hafter (by omega) (decide (frameType = .first ∨ frameType = .consecutive))
            have hlt : lowest < budget := Nat.lt_of_le_of_lt hle hlower
            refine ⟨lowest, hlast, Nat.le_of_lt hlt, fun _ => hlt, ?_⟩
            generalize recvPass _ _ _ _ = r at hend
            cases hend with
            | waits hempty hflags => exact .waits hempty fun hdone => absurd (hflags hdone) hopen
            | returned hgood => exact .returned hgood

theorem poll_ends (hI : PassInvariant I good) {budget : Nat} (hm : I budget m)
    (rxInProgress : Bool) :
    ∃ lower, I lower (m.poll rxInProgress).2 ∧ lower ≤ budget ∧
      (m.canClient.rxBuff ≠ [] ∨ m.canClient.port.rx ≠ [] → lower < budget) ∧
      PassEnd good m (m.poll rxInProgress) := by
  obtain ⟨after, lower, hfill, hafter, hle, hlt, hkept, hpending⟩ := hI.fill budget m hm
  have hnext : m.canClient.next (.created false) = after.next .yielded := by
    rw [CanClient.next, hfill]
    rfl
  have hpoll : m.poll rxInProgress =
      recvPass (m.pending + 1) .yielded rxInProgress { m with canClient := after } := by
    unfold poll CanClient.recv recvPass
    dsimp only
    rw [hnext]
  obtain ⟨lowest, hlast, hle', hlt', hend⟩ :=
    recvPass_yielded hI hafter (Nat.lt_succ_of_le hpending) rxInProgress
  rw [hpoll]
  refine ⟨lowest, hlast, Nat.le_trans hle' hle, ?_, ?_⟩
  · rintro (hbuff | hrx)
    · exact Nat.lt_of_lt_of_le (hlt' (hkept hbuff)) hle
    · exact Nat.lt_of_le_of_lt hle' (hlt hrx)
  · generalize recvPass _ _ _ _ = r at hend
    cases hend with
    | waits hempty hflags => exact .waits hempty hflags
    | returned hgood => exact .returned hgood

/-- A call without a timeout is one pass. -/
theorem recv_nonblocking (clock : List Bool) (m : IsoTpMessage) :
    m.recv false clock =
      match m.poll false with
      | (.returned rxDat, m) => (.result rxDat false, m)
      | (.raised exc, m) => (.raised exc, m)
      | (.ended rxInProgress, m) => (.result none rxInProgress, m) := by
  unfold recv recvLoop
  rfl

end IsoTpMessage

/-! ### Runs of both sides -/

inductive Side where
  | sender
  | receiver
deriving DecidableEq

/-- The two messages, with what their calls of `recv` came to. -/
structure Pair where
  sender : IsoTpMessage
  receiver : IsoTpMessage
  log : List (Side × IsoTpMessage.Received) := []

/-- The next frames of one side are delivered to the other as one batch, or a side
calls `recv`. A call that blocks makes the same pass again and again. -/
inductive PairEvent where
  | deliver (source : Side) (k : Nat)
  | recv (side : Side)

namespace Pair

def step (p : Pair) : PairEvent → Pair
  | .deliver .sender k =>
      let (src, dst) := p.sender.canClient.port.deliver k p.receiver.canClient.port
      { p with
        sender.canClient.port := src
        receiver.canClient.port := dst }
  | .deliver .receiver k =>
      let (src, dst) := p.receiver.canClient.port.deliver k p.sender.canClient.port
      { p with
        receiver.canClient.port := src
        sender.canClient.port := dst }
  | .recv .sender =>
      let (received, sender) := p.sender.recv false []
      { p with sender, log := p.log ++ [(.sender, received)] }
  | .recv .receiver =>
      let (received, receiver) := p.receiver.recv false []
      { p with receiver, log := p.log ++ [(.receiver, received)] }

def side (p : Pair) : Side → IsoTpMessage
  | .sender => p.sender
  | .receiver => p.receiver

/-- The event moves a frame or a batch. -/
def useful (p : Pair) : PairEvent → Bool
  | .deliver source k => k ≠ 0 && (p.side source).canClient.port.tx ≠ []
  | .recv side => (p.side side).canClient.rxBuff ≠ [] || (p.side side).canClient.port.rx ≠ []

/-- The event delivers an empty batch. -/
def idle (p : Pair) : PairEvent → Bool
  | .deliver source k => k = 0 || (p.side source).canClient.port.tx = []
  | .recv _ => false

/-- No event moves anything any more. -/
def Quiet (p : Pair) : Prop :=
  ∀ side, (p.side side).canClient.port.tx = [] ∧ (p.side side).canClient.port.rx = [] ∧
    (p.side side).canClient.rxBuff = []

end Pair

namespace IsoTpTransfer

variable {t : IsoTpTransfer} {s r : IsoTpMessage}

/-- The predicates about a side do not look at its client. -/
theorem Link.clients {phase : TransferPhase} {heardS sentS heardR sentR : List (List UInt8)}
    (h : t.Link phase heardS sentS heardR sentR s r)
    {heardS' sentS' heardR' sentR' : List (List UInt8)} {senderClient receiverClient : CanClient}
    (hs : t.line.On heardS' sentS' senderClient)
    (hr : t.line.peer.On heardR' sentR' receiverClient)
    (htoReceiver : heardR' ++ sentS' = heardR ++ sentS)
    (htoSender : heardS' ++ sentR' = heardS ++ sentR) :
    t.Link phase heardS' sentS' heardR' sentR' { s with canClient := senderClient }
      { r with canClient := receiverClient } :=
  { h with
    sender := by
      have hsender := h.sender
      cases phase with
      | single => exact hsender
      | first => exact ⟨{ hsender.1 with }, hsender.2⟩
      | asked idx => exact ⟨{ hsender.1 with }, hsender.2⟩
      | sent next upto => exact ⟨{ hsender.1 with }, hsender.2⟩
      | done => exact hsender
    senderOn := hs
    receiver := by
      have hreceiver := h.receiver
      cases phase with
      | single => exact hreceiver
      | first => exact hreceiver
      | asked idx => exact { (hreceiver : t.Receiving idx r) with }
      | sent next upto => exact { (hreceiver : t.Receiving next r) with }
      | done => exact hreceiver
    setUp := { h.setUp with }
    receiverOn := hr
    toReceiver := htoReceiver.trans h.toReceiver
    toSender := htoSender.trans h.toSender }

theorem receiver_invariant (t : IsoTpTransfer) (s : IsoTpMessage) :
    IsoTpMessage.PassInvariant (fun budget r => t.Linked budget s r)
      fun r => r.rxDat = t.dat where
  fill budget r h := by
    obtain ⟨phase, heardS, sentS, heardR, sentR, hlink, rfl⟩ := h
    obtain ⟨after, hbuffer, hon, hle, hlt, taken, htaken⟩ :=
      hlink.receiverOn.recvBufferLoop t.physical.peer rfl
    have hafter : t.Link phase heardS sentS heardR sentR s { r with canClient := after } :=
      hlink.clients hlink.senderOn hon rfl rfl
    refine ⟨after, _, hbuffer, ⟨phase, heardS, sentS, heardR, sentR, hafter, rfl⟩, ?_, ?_, ?_, ?_⟩
    · exact Nat.add_le_add_left hle _
    · intro hrx
      exact Nat.add_lt_add_left (hlt hrx) _
    · intro hbuff
      rw [htaken]
      exact List.append_ne_nil_of_left_ne_nil hbuff taken
    · rw [IsoTpMessage.pending, IsoTpMessage.pending, hon.length, hlink.receiverOn.length]
  frame budget r frame rest h hbuff := by
    obtain ⟨frameType, after, lower, htaken, hlinked, hlt, hpending, hgood⟩ := h.takes hbuff
    refine ⟨frameType, after, lower, htaken, hlinked, hlt, hpending, ?_⟩
    intro hdone
    exact hgood (Bool.and_eq_true_iff.mp hdone).2

theorem sender_invariant (t : IsoTpTransfer) (r : IsoTpMessage) :
    IsoTpMessage.PassInvariant (fun budget s => t.Linked budget s r) fun _ => False where
  fill budget s h := by
    obtain ⟨phase, heardS, sentS, heardR, sentR, hlink, rfl⟩ := h
    obtain ⟨after, hbuffer, hon, hle, hlt, taken, htaken⟩ :=
      hlink.senderOn.recvBufferLoop t.physical rfl
    have hafter : t.Link phase heardS sentS heardR sentR { s with canClient := after } r :=
      hlink.clients hon hlink.receiverOn rfl rfl
    refine ⟨after, _, hbuffer, ⟨phase, heardS, sentS, heardR, sentR, hafter, rfl⟩, ?_, ?_, ?_, ?_⟩
    · exact Nat.add_le_add_right (Nat.add_le_add_left hle _) _
    · intro hrx
      exact Nat.add_lt_add_right (Nat.add_lt_add_left (hlt hrx) _) _
    · intro hbuff
      rw [htaken]
      exact List.append_ne_nil_of_left_ne_nil hbuff taken
    · rw [IsoTpMessage.pending, IsoTpMessage.pending, hon.length, hlink.senderOn.length]
  frame budget s frame rest h hbuff := by
    obtain ⟨frameType, after, lower, htaken, hlinked, hlt, hpending, hwaits⟩ := h.continues hbuff
    refine ⟨frameType, after, lower, htaken, hlinked, hlt, hpending, ?_⟩
    intro hdone
    rw [hwaits, Bool.and_false] at hdone
    exact Bool.false_ne_true hdone

/-- What a call may come to: it is still waiting, or the receiver has the payload. -/
def Expected (t : IsoTpTransfer) (entry : Side × IsoTpMessage.Received) : Prop :=
  entry = (.receiver, .result (some t.dat) false) ∨
    ∃ rxInProgress, entry.2 = .result none rxInProgress

/-- The two sides are in a phase, and a receiver that is done has returned. -/
structure Keeps (t : IsoTpTransfer) (budget : Nat) (p : Pair) : Prop where
  linked : t.Linked budget p.sender p.receiver
  expected : ∀ entry ∈ p.log, t.Expected entry
  returned : p.receiver.rxDone = true → (.receiver, .result (some t.dat) false) ∈ p.log

theorem toReceiver_filled (t : IsoTpTransfer) (phase : TransferPhase) :
    ∀ frame ∈ t.toReceiver phase, frame ≠ [] := by
  intro frame hframe
  cases phase with
  | single =>
      rw [List.mem_singleton.mp hframe]
      exact List.cons_ne_nil _ _
  | first =>
      rw [List.mem_singleton.mp hframe]
      exact List.cons_ne_nil _ _
  | asked idx => exact absurd hframe List.not_mem_nil
  | sent next upto =>
      obtain ⟨idx, _, rfl⟩ := List.mem_map.mp hframe
      exact List.cons_ne_nil _ _
  | done => exact absurd hframe List.not_mem_nil

theorem toSender_filled (t : IsoTpTransfer) (phase : TransferPhase) :
    ∀ frame ∈ t.toSender phase, frame ≠ [] := by
  intro frame hframe
  cases phase with
  | asked idx =>
      rw [List.mem_singleton.mp hframe]
      exact List.cons_ne_nil _ _
  | single => exact absurd hframe List.not_mem_nil
  | first => exact absurd hframe List.not_mem_nil
  | sent next upto => exact absurd hframe List.not_mem_nil
  | done => exact absurd hframe List.not_mem_nil

/-- What a delivery saves when it moves a frame, and costs when it does not. -/
theorem delivery_cost (k sent : Nat) :
    3 * (sent - k) + min k sent + 1 + (if k ≠ 0 ∧ sent ≠ 0 then 1 else 0) ≤
      3 * sent + if k = 0 ∨ sent = 0 then 1 else 0 := by
  split
  · omega
  · split
    · omega
    · omega

theorem Keeps.deliver_sender {budget : Nat} {p : Pair} (h : t.Keeps budget p) (k : Nat) :
    ∃ lower, t.Keeps lower (p.step (.deliver .sender k)) ∧
      lower + (if p.useful (.deliver .sender k) then 1 else 0) ≤
        budget + if p.idle (.deliver .sender k) then 1 else 0 := by
  obtain ⟨phase, heardS, sentS, heardR, sentR, hlink, rfl⟩ := h.linked
  have hsent : ∀ frame ∈ sentS, frame ≠ [] := by
    intro frame hframe
    apply toReceiver_filled t phase
    rw [← hlink.toReceiver]
    exact List.mem_append_right _ hframe
  obtain ⟨hs, hr⟩ := hlink.senderOn.deliver k hlink.receiverOn hsent
  have hnext := hlink.clients hs hr (by rw [List.append_assoc, List.take_append_drop]) rfl
  refine ⟨_, ⟨⟨phase, _, _, _, _, hnext, rfl⟩, h.expected, h.returned⟩, ?_⟩
  have htx : p.sender.canClient.port.tx = [] ↔ sentS.length = 0 := by
    rw [hlink.senderOn.tx, List.map_eq_nil_iff, List.length_eq_zero_iff]
  have hbatch : (p.step (.deliver .sender k)).receiver.canClient.port.rx.length =
      p.receiver.canClient.port.rx.length + 1 := List.length_append
  have hother : (p.step (.deliver .sender k)).sender.canClient.port.rx.length =
      p.sender.canClient.port.rx.length := rfl
  have hcost := delivery_cost k sentS.length
  simp only [cost, Pair.useful, Pair.idle, Pair.side, hbatch, hother, List.length_drop,
    List.length_append, List.length_take, Bool.and_eq_true, Bool.or_eq_true, decide_eq_true_eq,
    ne_eq, htx] at hcost ⊢
  omega

theorem Keeps.deliver_receiver {budget : Nat} {p : Pair} (h : t.Keeps budget p) (k : Nat) :
    ∃ lower, t.Keeps lower (p.step (.deliver .receiver k)) ∧
      lower + (if p.useful (.deliver .receiver k) then 1 else 0) ≤
        budget + if p.idle (.deliver .receiver k) then 1 else 0 := by
  obtain ⟨phase, heardS, sentS, heardR, sentR, hlink, rfl⟩ := h.linked
  have hsent : ∀ frame ∈ sentR, frame ≠ [] := by
    intro frame hframe
    apply toSender_filled t phase
    rw [← hlink.toSender]
    exact List.mem_append_right _ hframe
  obtain ⟨hr, hs⟩ := hlink.receiverOn.deliver k hlink.senderOn hsent
  have hnext := hlink.clients hs hr rfl (by rw [List.append_assoc, List.take_append_drop])
  refine ⟨_, ⟨⟨phase, _, _, _, _, hnext, rfl⟩, h.expected, h.returned⟩, ?_⟩
  have htx : p.receiver.canClient.port.tx = [] ↔ sentR.length = 0 := by
    rw [hlink.receiverOn.tx, List.map_eq_nil_iff, List.length_eq_zero_iff]
  have hbatch : (p.step (.deliver .receiver k)).sender.canClient.port.rx.length =
      p.sender.canClient.port.rx.length + 1 := List.length_append
  have hother : (p.step (.deliver .receiver k)).receiver.canClient.port.rx.length =
      p.receiver.canClient.port.rx.length := rfl
  have hcost := delivery_cost k sentR.length
  simp only [cost, Pair.useful, Pair.idle, Pair.side, hbatch, hother, List.length_drop,
    List.length_append, List.length_take, Bool.and_eq_true, Bool.or_eq_true, decide_eq_true_eq,
    ne_eq, htx] at hcost ⊢
  omega

/-- What `recv` comes to after a pass. -/
theorem recv_end {m : IsoTpMessage} {good : IsoTpMessage → Prop}
    (h : IsoTpMessage.PassEnd good m (m.poll false)) :
    (m.recv false []).2 = (m.poll false).2 ∧
      (((∃ rxInProgress, (m.recv false []).1 = .result none rxInProgress) ∧
        (((m.poll false).2.txDone && (m.poll false).2.rxDone) = true →
          (m.txDone && m.rxDone) = true)) ∨
      ((m.recv false []).1 = .result (some (m.poll false).2.rxDat) false ∧
        good (m.poll false).2)) := by
  rw [IsoTpMessage.recv_nonblocking]
  generalize m.poll false = r at h
  cases h with
  | waits hempty hflags => exact ⟨rfl, .inl ⟨⟨_, rfl⟩, hflags⟩⟩
  | returned hgood => exact ⟨rfl, .inr ⟨rfl, hgood⟩⟩

theorem Linked.setUp {budget : Nat} (h : t.Linked budget s r) : t.SetUp r := by
  obtain ⟨_, _, _, _, _, hlink, _⟩ := h
  exact hlink.setUp

theorem Keeps.recv_receiver {budget : Nat} {p : Pair} (h : t.Keeps budget p) :
    ∃ lower, t.Keeps lower (p.step (.recv .receiver)) ∧
      lower + (if p.useful (.recv .receiver) then 1 else 0) ≤
        budget + if p.idle (.recv .receiver) then 1 else 0 := by
  obtain ⟨lower, hlinked, hle, hlt, hend⟩ :=
    IsoTpMessage.poll_ends (t.receiver_invariant p.sender) h.linked false
  obtain ⟨hstate, hresult⟩ := recv_end hend
  have hlog : (p.step (.recv .receiver)).log =
      p.log ++ [(.receiver, (p.receiver.recv false []).1)] := rfl
  have hreceiver : (p.step (.recv .receiver)).receiver = (p.receiver.poll false).2 := hstate
  refine ⟨lower, ⟨?_, ?_, ?_⟩, ?_⟩
  · rw [hreceiver]
    exact hlinked
  · rw [hlog]
    intro entry hentry
    rcases List.mem_append.mp hentry with hold | hnew
    · exact h.expected entry hold
    rw [List.mem_singleton.mp hnew]
    rcases hresult with ⟨hwaits, -⟩ | ⟨hreturned, hdat⟩
    · exact .inr hwaits
    · rw [hreturned, hdat]
      exact .inl rfl
  · rw [hreceiver, hlog]
    intro hdone
    rcases hresult with ⟨-, hflags⟩ | ⟨hreturned, hdat⟩
    · have hboth := hflags (Bool.and_eq_true_iff.mpr ⟨hlinked.setUp.txDone, hdone⟩)
      exact List.mem_append_left _ (h.returned (Bool.and_eq_true_iff.mp hboth).2)
    · rw [hreturned, hdat]
      exact List.mem_append_right _ (List.mem_singleton_self _)
  · simp only [Pair.useful, Pair.idle, Pair.side, Bool.or_eq_true, Bool.false_eq_true,
      if_false]
    split
    · rename_i huseful
      exact hlt (huseful.imp of_decide_eq_true of_decide_eq_true)
    · exact hle

theorem Keeps.recv_sender {budget : Nat} {p : Pair} (h : t.Keeps budget p) :
    ∃ lower, t.Keeps lower (p.step (.recv .sender)) ∧
      lower + (if p.useful (.recv .sender) then 1 else 0) ≤
        budget + if p.idle (.recv .sender) then 1 else 0 := by
  obtain ⟨lower, hlinked, hle, hlt, hend⟩ :=
    IsoTpMessage.poll_ends (t.sender_invariant p.receiver) h.linked false
  obtain ⟨hstate, ⟨hwaits, -⟩ | ⟨-, hfalse⟩⟩ := recv_end hend
  · have hsender : (p.step (.recv .sender)).sender = (p.sender.poll false).2 := hstate
    refine ⟨lower, ⟨?_, ?_, ?_⟩, ?_⟩
    · rw [hsender]
      exact hlinked
    · intro entry hentry
      rcases List.mem_append.mp hentry with hold | hnew
      · exact h.expected entry hold
      · rw [List.mem_singleton.mp hnew]
        exact .inr hwaits
    · intro hdone
      exact List.mem_append_left _ (h.returned hdone)
    · simp only [Pair.useful, Pair.idle, Pair.side, Bool.or_eq_true, Bool.false_eq_true,
        if_false]
      split
      · rename_i huseful
        exact hlt (huseful.imp of_decide_eq_true of_decide_eq_true)
      · exact hle
  · exact hfalse.elim

theorem Keeps.step {budget : Nat} {p : Pair} (h : t.Keeps budget p) (e : PairEvent) :
    ∃ lower, t.Keeps lower (p.step e) ∧
      lower + (if p.useful e then 1 else 0) ≤ budget + if p.idle e then 1 else 0 := by
  cases e with
  | deliver source k =>
      cases source with
      | sender => exact h.deliver_sender k
      | receiver => exact h.deliver_receiver k
  | recv side =>
      cases side with
      | sender => exact h.recv_sender
      | receiver => exact h.recv_receiver

/-- With nothing left to move, the receiver has returned the payload. -/
theorem Keeps.quiet {budget : Nat} {p : Pair} (h : t.Keeps budget p) (hquiet : p.Quiet) :
    (.receiver, .result (some t.dat) false) ∈ p.log ∧ p.sender.txDone = true := by
  obtain ⟨phase, heardS, sentS, heardR, sentR, hlink, -⟩ := h.linked
  have hheard {l : Line} {heard sent : List (List UInt8)} {c : CanClient}
      (hon : l.On heard sent c) (htx : c.port.tx = []) (hrx : c.port.rx = [])
      (hbuff : c.rxBuff = []) : heard = [] ∧ sent = [] := by
    refine ⟨?_, ?_⟩
    · apply List.eq_nil_of_length_eq_zero
      rw [← hon.length, hrx, hbuff]
      rfl
    · rw [hon.tx] at htx
      exact List.map_eq_nil_iff.mp htx
  obtain ⟨hstx, hsrx, hsbuff⟩ := hquiet .sender
  obtain ⟨hrtx, hrrx, hrbuff⟩ := hquiet .receiver
  obtain ⟨rfl, rfl⟩ := hheard hlink.senderOn hstx hsrx hsbuff
  obtain ⟨rfl, rfl⟩ := hheard hlink.receiverOn hrtx hrrx hrbuff
  cases phase with
  | single => exact absurd hlink.toReceiver (List.cons_ne_nil _ _).symm
  | first => exact absurd hlink.toReceiver (List.cons_ne_nil _ _).symm
  | asked idx => exact absurd hlink.toSender (List.cons_ne_nil _ _).symm
  | sent next upto =>
      obtain ⟨-, hlt, -⟩ := hlink.occurs
      have hnone := congrArg List.length hlink.toReceiver
      simp only [toReceiver, consecutiveFrames, List.length_append, List.length_nil,
        List.length_map, List.length_range'] at hnone
      omega
  | done => exact ⟨h.returned hlink.receiver.1, hlink.sender⟩

end IsoTpTransfer

/-! ### The transfer from its start -/

/-- A new message on a line. -/
def Line.message (l : Line) (maxLen : Nat) (singleFrameMode : Bool) (separationTime : UInt8) :
    IsoTpMessage :=
  { canClient := l.client, singleFrameMode, separationTime, maxLen }

namespace IsoTpTransfer

/-- The sender after `send`. -/
theorem send_starts (t : IsoTpTransfer) (senderMode : Bool) (senderTime : UInt8) :
    ∃ sender, (t.line.message t.maxLen senderMode senderTime).send t.dat false = (none, sender) ∧
      sender.rxDone = false ∧
      ((t.Occurs .single ∧ t.Sender sender .single ∧
          t.line.On [] [singleFrame t.maxLen t.dat] sender.canClient) ∨
        (t.Occurs .first ∧ t.Sender sender .first ∧
          t.line.On [] [firstFrame t.maxLen t.dat] sender.canClient)) ∧
      sender.canClient.port.rx.length = 0 := by
  have hupper := t.upper
  have hlower := t.lower
  have hsent {frame : List UInt8} (hframe : frame.length = t.maxLen) (m : IsoTpMessage)
      (hm : m.canClient = t.line.client) :
      ∃ after, m.canSend [frame] = (none, { m with canClient := after }) ∧
        t.line.On [] [frame] after ∧ after.port.rx.length = 0 := by
    obtain ⟨after, hsend, hon, hle⟩ := canSend_on t.physical [frame] (m := m)
      (hm ▸ t.line.client_on) (by
        intro msg hmsg
        rw [List.mem_singleton.mp hmsg, hframe]
        exact hupper)
    refine ⟨after, hsend, hon, ?_⟩
    rw [hm] at hle
    exact Nat.le_zero.mp hle
  unfold IsoTpMessage.send CanClient.recv IsoTpMessage.txFirstFrame
  dsimp only
  by_cases hshort : t.dat.length < t.maxLen
  · have hframe : (singleFrame t.maxLen t.dat).length = t.maxLen := by
      simp only [singleFrame, ljust, List.length_append, List.length_cons, List.length_replicate]
      omega
    have hmax : t.dat.length < (t.line.message t.maxLen senderMode senderTime).maxLen := hshort
    rw [if_pos hmax, if_neg Bool.false_ne_true]
    obtain ⟨after, hsend, hon, hrx⟩ := hsent hframe
      { t.line.message t.maxLen senderMode senderTime with
        txDat := t.dat
        txLen := t.dat.length
        txDone := true } rfl
    exact ⟨_, hsend, rfl, .inl ⟨hshort, rfl, hon⟩, hrx⟩
  · have hlong := Nat.not_lt.mp hshort
    have hframe : (firstFrame t.maxLen t.dat).length = t.maxLen := by
      rw [firstFrame_eq hlower hlong t.short]
      simp only [List.length_cons, List.length_take]
      omega
    have hhead : ¬ 0x1000 ||| t.dat.length ≥ 2 ^ 16 := by
      have hsmall := t.short
      exact Nat.not_le.mpr (Nat.or_lt_two_pow (by decide) (by omega))
    have hmax : ¬ t.dat.length < (t.line.message t.maxLen senderMode senderTime).maxLen := hshort
    rw [if_neg hmax, if_neg hhead, if_neg Bool.false_ne_true]
    obtain ⟨after, hsend, hon, hrx⟩ := hsent hframe
      { t.line.message t.maxLen senderMode senderTime with
        txDat := t.dat
        txLen := t.dat.length } rfl
    exact ⟨_, hsend, rfl, .inr ⟨hlong, ⟨⟨rfl, rfl, rfl, rfl⟩, rfl⟩, hon⟩, hrx⟩

/-- A receiver that is only set up sends nothing. -/
theorem setUp_starts (t : IsoTpTransfer) {request : List UInt8}
    (hrequest : request.length < t.maxLen) :
    ∃ receiver,
      (t.line.peer.message t.maxLen t.oneByOne t.separationTime).send request true =
        (none, receiver) ∧
      t.SetUp receiver ∧ receiver.rxDone = false ∧ receiver.rxDat = [] ∧
      receiver.canClient = t.line.peer.client := by
  unfold IsoTpMessage.send CanClient.recv IsoTpMessage.txFirstFrame
  dsimp only
  have hmax : request.length < (t.line.peer.message t.maxLen t.oneByOne t.separationTime).maxLen :=
    hrequest
  rw [if_pos hmax, if_pos rfl]
  exact ⟨_, rfl, ⟨rfl, rfl, rfl, rfl⟩, rfl, rfl, rfl⟩

/-- Both sides start in the first phase. -/
theorem keeps_start (t : IsoTpTransfer) {sender receiver : IsoTpMessage} {senderMode : Bool}
    {senderTime : UInt8} {request : List UInt8} (hrequest : request.length < t.maxLen)
    (hsender : (t.line.message t.maxLen senderMode senderTime).send t.dat false = (none, sender))
    (hreceiver : (t.line.peer.message t.maxLen t.oneByOne t.separationTime).send request true =
      (none, receiver)) :
    ∃ budget ≤ 3 * (2 * t.count + 1), t.Keeps budget { sender, receiver } := by
  obtain ⟨started, hsend, hrxDone, hphase, hrx⟩ := t.send_starts senderMode senderTime
  obtain ⟨-, rfl⟩ : none = none ∧ started = sender := Prod.mk.inj (hsend.symm.trans hsender)
  obtain ⟨prepared, hset, hsetUp, hopen, hempty, hclient⟩ := t.setUp_starts hrequest
  obtain ⟨-, rfl⟩ : none = none ∧ prepared = receiver :=
    Prod.mk.inj (hset.symm.trans hreceiver)
  have hon : t.line.peer.On [] [] prepared.canClient := hclient.symm ▸ t.line.peer.client_on
  have hlog {budget : Nat} (hlinked : t.Linked budget started prepared) :
      t.Keeps budget { sender := started, receiver := prepared } := by
    refine ⟨hlinked, fun entry hentry => absurd hentry List.not_mem_nil, ?_⟩
    intro hdone
    rw [hopen] at hdone
    exact absurd hdone Bool.false_ne_true
  rcases hphase with ⟨hoccurs, hs, hson⟩ | ⟨hoccurs, hs, hson⟩
  · refine ⟨_, ?_, hlog ⟨.single, [], [singleFrame t.maxLen t.dat], [], [], ?_, rfl⟩⟩
    · simp only [cost, unsent, hrx, hclient, List.length_cons, List.length_nil]
      exact Nat.mul_le_mul_left 3 (Nat.le_add_left _ _)
    · exact ⟨hoccurs, hs, hrxDone, hson, ⟨hopen, hempty⟩, hsetUp, hon, rfl, rfl⟩
  · refine ⟨_, ?_, hlog ⟨.first, [], [firstFrame t.maxLen t.dat], [], [], ?_, rfl⟩⟩
    · simp only [cost, unsent, hrx, hclient, List.length_cons, List.length_nil]
      exact Nat.le_refl _
    · exact ⟨hoccurs, hs, hrxDone, hson, ⟨hopen, hempty⟩, hsetUp, hon, rfl, rfl⟩

end IsoTpTransfer

/-- For every payload that the length field can hold, the transfer raises nothing in
any run, only so many events of a run can move anything, and when nothing is left to
move, the receiver has returned the payload and the sender is done. -/
theorem isotp_roundTrip (line : Line) (hline : line.Physical) (maxLen : Nat)
    (hmax : maxLen = 7 ∨ maxLen = 8) (hsub : line.subAddr.isSome → maxLen = 7)
    (dat : List UInt8) (hdat : dat.length ≤ 4095) (senderMode receiverMode : Bool)
    (senderTime receiverTime : UInt8) (request : List UInt8) (hrequest : request.length < maxLen)
    (es : List PairEvent) :
    ∃ sender receiver,
      (line.message maxLen senderMode senderTime).send dat false = (none, sender) ∧
      (line.peer.message maxLen receiverMode receiverTime).send request true =
        (none, receiver) ∧
      let start : Pair := { sender, receiver }
      let last := run Pair.step start es
      (∀ entry ∈ last.log, entry = (.receiver, .result (some dat) false) ∨
        ∃ rxInProgress, entry.2 = .result none rxInProgress) ∧
      countAlong Pair.step Pair.useful start es ≤
        3 * (2 * frameCount maxLen dat.length + 1) + countAlong Pair.step Pair.idle start es ∧
      (last.Quiet → (.receiver, .result (some dat) false) ∈ last.log ∧
        last.sender.txDone = true) := by
  have hupper : line.subAddr.toList.length + maxLen ≤ 8 := by
    cases hline : line.subAddr with
    | none =>
        rw [Option.toList_none, List.length_nil]
        omega
    | some subAddr =>
        rw [hsub (by rw [hline]; rfl)]
        exact Nat.le_refl _
  let t : IsoTpTransfer :=
    ⟨line, maxLen, dat, receiverMode, receiverTime, hline, by omega, hupper, hdat⟩
  obtain ⟨sender, hsend, -⟩ := t.send_starts senderMode senderTime
  obtain ⟨receiver, hset, -⟩ := t.setUp_starts hrequest
  obtain ⟨budget, hbudget, hkeeps⟩ := t.keeps_start hrequest hsend hset
  obtain ⟨⟨lower, hlast⟩, hcount⟩ := countAlong_le_budget (I := t.Keeps)
    (fun budget p e h => h.step e) hkeeps es
  refine ⟨sender, receiver, hsend, hset, hlast.expected, ?_, hlast.quiet⟩
  exact Nat.le_trans hcount (Nat.add_le_add_right hbudget _)

/-- The sender's frames get to the receiver, and its flow control back to the sender. -/
def flowRound : List PairEvent :=
  [.deliver .sender 2, .recv .receiver, .deliver .receiver 2, .recv .sender]

/-- Twenty bytes under a sub-address: a first frame and three consecutive ones, each with a
flow control of its own. -/
def twentyBytes : List UInt8 := (List.range 20).map UInt8.ofNat

theorem isotp_roundTrip_twenty :
    let line : Line := ⟨0x7E0, 0x7E8, 1, some 0x0F⟩
    ∃ sender receiver, (line.message 7 false 0).send twentyBytes false = (none, sender) ∧
      (line.peer.message 7 true 10).send [] true = (none, receiver) ∧
      (.receiver, .result (some twentyBytes) false) ∈
        (run Pair.step { sender, receiver } (List.replicate 4 flowRound).flatten).log := by
  intro line
  obtain ⟨sender, receiver, hsend, hset, -, -, hquiet⟩ :=
    isotp_roundTrip ⟨0x7E0, 0x7E8, 1, some 0x0F⟩ (by decide) 7 (.inl rfl) (fun _ => rfl)
      twentyBytes (by decide) false true 0 10 [] (by decide) (List.replicate 4 flowRound).flatten
  refine ⟨sender, receiver, hsend, hset, (hquiet ?_).1⟩
  obtain rfl := congrArg Prod.snd hsend
  obtain rfl := congrArg Prod.snd hset
  intro side
  cases side with
  | sender => exact ⟨by decide +kernel, by decide +kernel, by decide +kernel⟩
  | receiver => exact ⟨by decide +kernel, by decide +kernel, by decide +kernel⟩

end Panda.Host
