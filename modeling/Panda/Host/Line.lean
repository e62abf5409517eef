import Panda.Host.CanClient

/-!
A `CanClient` with physical addresses whose port returns nothing but messages of
its partner. Such a client accepts every message, so that receiving only moves
frames from the port to the buffer.
-/

namespace Panda.Host

structure Line where
  txAddr : Nat
  rxAddr : Nat
  bus : Nat
  subAddr : Option UInt8

namespace Line

def peer (l : Line) : Line := { l with txAddr := l.rxAddr, rxAddr := l.txAddr }

/-- Neither side has a functional address. -/
def Physical (l : Line) : Prop :=
  ∀ addr ∈ [l.txAddr, l.rxAddr], addr ≠ 0x7DF ∧ addr ≠ 0x18DB33F1

instance Physical.decidable (l : Line) : Decidable l.Physical :=
  inferInstanceAs (Decidable (∀ addr ∈ [l.txAddr, l.rxAddr], addr ≠ 0x7DF ∧ addr ≠ 0x18DB33F1))

def wire (l : Line) (frame : List UInt8) : CanMessage :=
  ⟨l.txAddr, l.subAddr.toList ++ frame, l.bus⟩

def client (l : Line) : CanClient :=
  { txAddr := l.txAddr, rxAddr := some l.rxAddr, bus := l.bus, subAddr := l.subAddr }

variable {l : Line}

theorem Physical.peer (h : l.Physical) : l.peer.Physical := by
  intro addr haddr
  apply h
  exact List.Perm.mem_iff (List.Perm.swap l.txAddr l.rxAddr []) |>.mp haddr

structure Addressed (l : Line) (c : CanClient) : Prop where
  txAddr : c.txAddr = l.txAddr
  rxAddr : c.rxAddr = some l.rxAddr
  bus : c.bus = l.bus
  subAddr : c.subAddr = l.subAddr

/-- The client has the frames `heard` still to take, first those in the buffer, and
has sent the frames `sent`. -/
structure On (l : Line) (heard sent : List (List UInt8)) (c : CanClient) : Prop
    extends Addressed l c where
  tx : c.port.tx = sent.map l.wire
  rx : ∃ pending, c.port.rx.flatten = pending.map l.peer.wire ∧ (∀ frame ∈ pending, frame ≠ []) ∧
    heard = c.rxBuff ++ pending

theorem client_on (l : Line) : l.On [] [] l.client :=
  ⟨⟨rfl, rfl, rfl, rfl⟩, rfl, [], rfl, fun _ h => absurd h List.not_mem_nil, rfl⟩

variable {heard sent : List (List UInt8)} {c : CanClient}

/-- How many frames a loop over the generator can still take. -/
theorem On.length (h : l.On heard sent c) :
    c.rxBuff.length + (c.port.rx.map List.length).sum = heard.length := by
  obtain ⟨pending, hflat, _, rfl⟩ := h.rx
  rw [← List.length_flatten, hflat, List.length_map, List.length_append]

/-- A message of the partner goes to the buffer. -/
theorem Addressed.bufferMsg (hl : l.Physical) (h : l.Addressed c) {frame : List UInt8}
    (hframe : frame ≠ []) :
    ∃ seen accepted, c.bufferMsg (l.peer.wire frame) =
      (none, { c with rxBuff := c.rxBuff ++ [frame], seen, accepted }) := by
  have hphysical : c.txAddr ≠ 0x7DF ∧ c.txAddr ≠ 0x18DB33F1 := by
    rw [h.txAddr]
    exact hl l.txAddr (List.mem_cons_self)
  have hfilter : { c with seen := c.seen ++ [l.peer.wire frame] }.recvFilter
      (l.peer.wire frame).bus (l.peer.wire frame).address =
        (true, { c with seen := c.seen ++ [l.peer.wire frame] }) := by
    rw [CanClient.recvFilter, if_neg hphysical.1]
    simp [hphysical.2, h.bus, h.rxAddr, wire, Line.peer]
  have hdat : (l.peer.wire frame).dat = c.subAddr.toList ++ frame := by
    rw [h.subAddr]
    rfl
  have htaken := CanClient.bufferMsg_taken hfilter hdat hframe
  exact ⟨_, _, htaken⟩

theorem Addressed.bufferMsgs (hl : l.Physical) (h : l.Addressed c)
    {frames : List (List UInt8)} (hframes : ∀ frame ∈ frames, frame ≠ []) :
    ∃ seen accepted, c.bufferMsgs (frames.map l.peer.wire) =
      (none, { c with rxBuff := c.rxBuff ++ frames, seen, accepted }) := by
  induction frames generalizing c with
  | nil =>
      refine ⟨c.seen, c.accepted, ?_⟩
      simp only [List.append_nil]
      rfl
  | cons frame frames ih =>
      obtain ⟨hframe, hrest⟩ := List.forall_mem_cons.mp hframes
      obtain ⟨seen, accepted, hfirst⟩ := h.bufferMsg hl hframe
      obtain ⟨seen', accepted', hlater⟩ :=
        ih (c := { c with rxBuff := c.rxBuff ++ [frame], seen, accepted }) { h with } hrest
      refine ⟨seen', accepted', ?_⟩
      rw [List.map_cons, CanClient.bufferMsgs, hfirst]
      dsimp only
      rw [hlater]
      simp only [List.append_assoc, List.singleton_append]

/-- Receiving keeps the frames, and takes at least one batch if there is one. -/
theorem On.recvBufferLoop (hl : l.Physical) {rx : List (List CanMessage)}
    (h : l.On heard sent c) (hrx : c.port.rx = rx) :
    ∃ after, CanClient.recvBufferLoop false rx c = (none, after) ∧ l.On heard sent after ∧
      after.port.rx.length ≤ rx.length ∧ (rx ≠ [] → after.port.rx.length < rx.length) ∧
      ∃ taken, after.rxBuff = c.rxBuff ++ taken := by
  induction rx generalizing c with
  | nil =>
      refine ⟨c, rfl, h, ?_, fun hne => absurd rfl hne, [], (List.append_nil _).symm⟩
      rw [hrx]
  | cons msgs rx ih =>
      obtain ⟨pending, hflat, hfilled, hheard⟩ := h.rx
      rw [hrx, List.flatten_cons] at hflat
      obtain ⟨now, later, rfl, hnow, hlater⟩ := List.append_eq_map_iff.mp hflat
      have hfilled' := List.forall_mem_append.mp hfilled
      obtain ⟨seen, accepted, hbuffer⟩ := Addressed.bufferMsgs hl
        (c := { c with port := { c.port with rx } }) { h with } hfilled'.1
      have hafter : l.On heard sent { c with
          port := { c.port with rx }, rxBuff := c.rxBuff ++ now, seen, accepted } := by
        refine ⟨{ h with }, h.tx, later, hlater.symm, hfilled'.2, ?_⟩
        rw [hheard, List.append_assoc]
      rw [CanClient.recvBufferLoop_take, ← hnow, hbuffer]
      dsimp only
      split
      · refine ⟨_, rfl, hafter, ?_, ?_, now, rfl⟩
        · exact Nat.le_succ _
        · intro _
          exact Nat.lt_succ_self _
      · obtain ⟨after, hloop, hon, hle, -, taken, htaken⟩ := ih hafter rfl
        refine ⟨after, hloop, hon, ?_, ?_, now ++ taken, ?_⟩
        · exact Nat.le_succ_of_le hle
        · intro _
          exact Nat.lt_succ_of_le hle
        · rw [htaken, List.append_assoc]

theorem On.sendLoop (hl : l.Physical) (i : Nat) {msgs : List (List UInt8)}
    (h : l.On heard sent c) (hmsgs : ∀ msg ∈ msgs, l.subAddr.toList.length + msg.length ≤ 8) :
    ∃ after, CanClient.sendLoop i msgs c = (none, after) ∧ l.On heard (sent ++ msgs) after ∧
      after.port.rx.length ≤ c.port.rx.length := by
  induction msgs generalizing i sent c with
  | nil =>
      refine ⟨c, rfl, ?_, Nat.le_refl _⟩
      rwa [List.append_nil]
  | cons msg msgs ih =>
      obtain ⟨hmsg, hrest⟩ := List.forall_mem_cons.mp hmsgs
      have hlen : (c.addressed msg).length ≤ 8 := by
        rw [CanClient.addressed, h.subAddr, List.length_append]
        exact hmsg
      have hsent : l.On heard (sent ++ [msg])
          { c with port := c.port.canSend c.txAddr (c.addressed msg) c.bus } := by
        refine ⟨{ h with }, ?_, h.rx⟩
        rw [List.map_append, ← h.tx]
        simp only [CanPort.canSend, h.txAddr, h.bus, CanClient.addressed, h.subAddr]
        rfl
      rw [CanClient.sendLoop_cons hlen]
      dsimp only
      rw [show sent ++ msg :: msgs = sent ++ [msg] ++ msgs by rw [List.append_assoc]; rfl]
      split
      · obtain ⟨after, hbuffer, hon, hle, -⟩ := hsent.recvBufferLoop hl rfl
        obtain ⟨last, hloop, hlast, hle'⟩ := ih (i + 1) hon hrest
        refine ⟨last, ?_, hlast, Nat.le_trans hle' hle⟩
        rw [CanClient.recvBuffer, hbuffer]
        exact hloop
      · exact ih (i + 1) hsent hrest

/-- A frame that was buffered is taken. -/
theorem On.popleft {frame : List UInt8} {rest : List (List UInt8)} (h : l.On heard sent c)
    (hbuff : c.rxBuff = frame :: rest) :
    ∃ later, heard = frame :: later ∧ l.On later sent { c with rxBuff := rest } := by
  obtain ⟨pending, hflat, hfilled, hheard⟩ := h.rx
  refine ⟨rest ++ pending, ?_, { h with }, h.tx, pending, hflat, hfilled, rfl⟩
  rw [hheard, hbuff, List.cons_append]

/-- A delivery to the partner takes from what was sent to what is heard. -/
theorem On.deliver {src dst : CanClient} {heard' sent' : List (List UInt8)} (k : Nat)
    (hsrc : l.On heard sent src) (hdst : l.peer.On heard' sent' dst)
    (hsent : ∀ frame ∈ sent, frame ≠ []) :
    l.On heard (sent.drop k) { src with port := (src.port.deliver k dst.port).1 } ∧
      l.peer.On (heard' ++ sent.take k) sent' { dst with port := (src.port.deliver k dst.port).2 }
    := by
  constructor
  · refine ⟨{ hsrc with }, ?_, hsrc.rx⟩
    rw [List.map_drop, ← hsrc.tx]
    rfl
  · obtain ⟨pending, hflat, hfilled, hheard⟩ := hdst.rx
    refine ⟨{ hdst with }, hdst.tx, pending ++ sent.take k, ?_, ?_, ?_⟩
    · rw [CanPort.deliver, List.flatten_append, hflat, List.flatten_singleton, hsrc.tx,
        List.map_append, List.map_take]
      rfl
    · exact List.forall_mem_append.mpr
        ⟨hfilled, fun frame hframe => hsent frame (List.mem_of_mem_take hframe)⟩
    · rw [hheard, List.append_assoc]

end Line

end Panda.Host
