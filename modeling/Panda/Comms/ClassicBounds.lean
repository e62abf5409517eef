import Panda.Comms.Bxcan
import Panda.Comms.SendMany

/-!
The bounds of packets in the classic build. A length code above eight stands for 12
data bytes or more, in every build. The host can send such a code and a mailbox can
hold it, and nothing checks it before the first copy or checksum over that length.
-/

namespace Panda.Comms.Bxcan

open Library Safety

/-- The access stays inside when it is one to a buffer. -/
def Access.InBuffer : Access → Prop
  | .packet _ => True
  | .asmBuffer bytes => bytes ≤ 72

/-- Every access so far has been inside. -/
def InBounds (s : State) : Prop := ∀ a ∈ s.accesses, a.Inside

/-- A code for at most eight bytes. -/
def ClassicCode (code : Fin 16) : Prop := code.val ≤ 8

instance ClassicCode.decidable (code : Fin 16) : Decidable (ClassicCode code) :=
  inferInstanceAs (Decidable (_ ≤ _))

/-- Every packet that the chunk completes and every message that is received has a
length code of the classic build. -/
def FitsClassic (s : State) : Event → Prop
  | .write data _ =>
      ∀ frame ∈ (packetFraming.split (s.driver.comms.canWriteBuffer.carried ++ data)).1,
        ClassicCode (lenCode (frame.headD 0))
  | .rx _ msg _ => ClassicCode msg.mailBox.dataLenCode
  | _ => True

/-- The packet has at most as many data bytes as the build has room for. -/
def Narrow (packet : CANPacket) : Prop := getLen packet ≤ canpacketDataSizeMax

theorem dlcToLen_le_iff (code : Fin 16) :
    dlcToLen code ≤ canpacketDataSizeMax ↔ ClassicCode code := by
  revert code
  decide

theorem inside_packetLen (packet : CANPacket) :
    (Access.packet (packetLen packet)).Inside ↔ Narrow packet := by
  simp only [Access.Inside, packetLen, Narrow]
  omega

/-! ### Hooks -/

theorem rxBranches_covers {id : HooksId} (hid : id ≠ .hyundaiCanfd) (alternativeExperience : Nat)
    (m : ModeParams) (s : Signals) (addr bus : Nat) :
    Covers 8 (rxBranches id alternativeExperience m s addr bus) := by
  cases id with
  | hyundaiCanfd => exact absurd rfl hid
  | nooutput | elm327 | alloutput | body => exact covers_nil 8
  | hondaNidec | hondaBosch => simp [rxBranches, hondaRxBranches, Covers]
  | tesla => simp [rxBranches, teslaRxBranches, Covers]
  | hyundai | hyundaiLegacy => simp [rxBranches, hyundaiRxBranches, Covers]
  | chrysler => simp [rxBranches, chryslerRxBranches, Covers]
  | subaru => simp [rxBranches, subaruRxBranches, Covers]
  | toyota | gm | ford | subaruPreglobal | mazda | volkswagenMqb | volkswagenPq =>
      exact covers_ite (by simp [Covers])
  | nissan => exact covers_cons.mpr ⟨fun _ => by decide, covers_ite (by simp [Covers])⟩

theorem txBranches_covers {id : HooksId} (hid : id ≠ .hyundaiCanfd) (m : ModeParams)
    (addr : Nat) : Covers 8 (txBranches id m addr) := by
  cases id with
  | hyundaiCanfd => exact absurd rfl hid
  | nooutput | elm327 | alloutput | body => exact covers_nil 8
  | hondaNidec | hondaBosch => simp [txBranches, hondaTxBranches, Covers]
  | toyota => simp [txBranches, toyotaTxBranches, Covers]
  | gm => simp [txBranches, gmTxBranches, Covers]
  | ford => simp [txBranches, fordTxBranches, Covers]
  | tesla => simp [txBranches, teslaTxBranches, Covers]
  | hyundai | hyundaiLegacy => simp [txBranches, hyundaiTxBranches, Covers]
  | chrysler =>
      have hcommand : (if m.chrysler.platform = .pacifica then 2 else 4) ≤ 8 := by
        split
        · decide
        · decide
      exact covers_cons.mpr ⟨fun _ => hcommand, by simp [Covers]⟩
  | subaru => simp [txBranches, subaruTxBranches, Covers]
  | subaruPreglobal => simp [txBranches, subaruPreglobalTxBranches, Covers]
  | mazda => simp [txBranches, mazdaTxBranches, Covers]
  | nissan => simp [txBranches, nissanTxBranches, Covers]
  | volkswagenMqb => simp [txBranches, volkswagenMqbTxBranches, Covers]
  | volkswagenPq => simp [txBranches, volkswagenPqTxBranches, Covers]

theorem commandBranches_covers (id : HooksId) (m : ModeParams) (s : Signals) (addr bus : Nat) :
    Covers 8 (commandBranches id m s addr bus) := by
  cases id with
  | chrysler =>
      have hcommand : (if m.chrysler.platform = .pacifica then 2 else 4) ≤ 8 := by
        split
        · decide
        · decide
      exact covers_cons.mpr ⟨fun _ => hcommand, covers_nil 8⟩
  | nooutput | elm327 | alloutput | body => exact covers_nil 8
  | _ => simp [commandBranches, Covers]

theorem branchAccesses_inside {branches : List (Bool × Nat)} (h : Covers 8 branches) :
    ∀ a ∈ branchAccesses branches, a.Inside := by
  intro a ha
  obtain ⟨branch, hbranch, rfl⟩ := List.mem_map.mp ha
  obtain ⟨hmem, htaken⟩ := List.mem_filter.mp hbranch
  exact Nat.add_le_add_left (h branch hmem htaken) canpacketHeadSize

theorem branchAccesses_inBuffer (branches : List (Bool × Nat)) :
    ∀ a ∈ branchAccesses branches, a.InBuffer := by
  intro a ha
  obtain ⟨branch, -, rfl⟩ := List.mem_map.mp ha
  trivial

theorem rxHookAccesses_inside {s : Safety.State} (h : s.currentHooks ≠ .hyundaiCanfd)
    (toPush : CANPacket) : (∀ a ∈ rxHookAccesses s toPush, a.Inside) ↔ Narrow toPush := by
  rw [rxHookAccesses, List.forall_mem_cons, inside_packetLen]
  exact and_iff_left (branchAccesses_inside (rxBranches_covers h _ _ _ _ _))

theorem txHookAccesses_inside {s : Safety.State} (h : s.currentHooks ≠ .hyundaiCanfd)
    (toSend : CANPacket) : (∀ a ∈ txHookAccesses s toSend, a.Inside) ↔ Narrow toSend := by
  rw [txHookAccesses, List.forall_mem_cons, inside_packetLen]
  have hcovers := covers_append.mpr ⟨txBranches_covers h s.params (getAddr toSend),
    commandBranches_covers s.currentHooks s.params s.signals (getAddr toSend) (getBus toSend)⟩
  exact and_iff_left (branchAccesses_inside hcovers)

/-! ### The buffers of the host -/

theorem getLen_ofStruct (memory : List UInt8) :
    getLen (ofStruct memory) = dlcToLen (lenCode (memory.headD 0)) := by
  cases memory with
  | nil => rfl
  | cons first rest => rfl

theorem need_le_asmBuffer (first : UInt8) : packetFraming.need first ≤ 72 :=
  Nat.le_trans (need_le first) (by decide)

theorem headD_take_drop (data : List UInt8) (pos : Nat) {n : Nat} (h : n ≠ 0) :
    ((data.drop pos).take n).headD 0 = data.getD pos 0 := by
  rw [List.headD_eq_head?_getD, List.head?_take, if_neg h, List.head?_drop,
    List.getD_eq_getElem?_getD]

/-- The loop reaches as far as the packets that it completes. -/
theorem writeLoopAccesses_inside {data : List UInt8} {fuel pos : Nat} {b : AsmBuffer} :
    (∀ a ∈ writeLoopAccesses data fuel pos, a.Inside) ↔
      ∀ packet ∈ (writeLoop data fuel pos b).1, Narrow packet := by
  induction fuel generalizing pos b with
  | zero => simp [writeLoopAccesses, writeLoop]
  | succ fuel ih =>
      rw [writeLoopAccesses, writeLoop]
      by_cases hpos : pos < data.length
      · rw [if_pos hpos, if_pos hpos]
        simp only
        have hneed := need_le_asmBuffer (data.getD pos 0)
        have hneed' : packetFraming.need (data.getD pos 0) =
          canpacketHeadSize + dlcToLen (lenCode (data.getD pos 0)) := rfl
        rw [hneed'] at hneed
        by_cases hfits :
            pos + (canpacketHeadSize + dlcToLen (lenCode (data.getD pos 0))) ≤ data.length
        · rw [if_pos hfits, if_pos hfits, List.forall_mem_cons, List.forall_mem_cons]
          refine and_congr ?_ ih
          have hpositive := packetFraming.need_pos (data.getD pos 0)
          rw [hneed'] at hpositive
          rw [receivedPacket_eq, ← inside_packetLen, packetLen, getLen_ofStruct,
            headD_take_drop data pos hpositive.ne']
        · rw [if_neg hfits, if_neg hfits, List.forall_mem_cons, ih]
          apply and_iff_right
          simp only [Access.Inside]
          omega
      · rw [if_neg hpos, if_neg hpos]
        simp

theorem assembleAccesses_inside {b : AsmBuffer} (hb : Assembling b) (data : List UInt8) :
    (∀ a ∈ assembleAccesses data b, a.Inside) ↔
      ∀ packet ∈ (writeAssemble data b).1, Narrow packet := by
  unfold assembleAccesses
  by_cases hptr : b.ptr = 0
  · rw [if_neg (not_not_intro hptr), writeAssemble, if_neg (not_not_intro hptr)]
    simp
  · obtain ⟨-, hneed⟩ := hb.tail hptr
    have hle := need_le_asmBuffer (b.data.get 0)
    rw [if_pos hptr]
    by_cases henough : b.tailSize ≤ data.length
    · obtain ⟨-, hsent, -, -⟩ := writeAssemble_complete hb hptr henough
      obtain ⟨rest, hcons⟩ := AsmBuffer.carried_cons hptr
      have hlen :
          b.ptr + b.tailSize = packetLen (ofStruct (b.carried ++ data.take b.tailSize)) := by
        rw [packetLen, getLen_ofStruct, hcons, hneed]
        rfl
      rw [if_pos henough, hsent, List.forall_mem_cons, List.forall_mem_singleton,
        List.forall_mem_singleton, ← inside_packetLen, ← hlen]
      apply and_iff_right
      simp only [Access.Inside]
      omega
    · rw [if_neg henough, List.forall_mem_singleton, writeAssemble, if_pos hptr, if_neg henough]
      apply iff_of_true
      · simp only [Access.Inside]
        omega
      · simp

/-- A write reaches as far as the packets that it hands to `can_send`. -/
theorem writeAccesses_inside {s : CanComms} (hs : Assembling s.canWriteBuffer)
    (data : List UInt8) :
    (∀ a ∈ writeAccesses data s.canWriteBuffer, a.Inside) ↔
      ∀ packet ∈ (Comms.commsCanWrite data s).1, Narrow packet := by
  unfold writeAccesses Comms.commsCanWrite
  rw [List.forall_mem_append, assembleAccesses_inside hs, writeLoopAccesses_inside]
  exact List.forall_mem_append.symm

/-- The packets are those of the frames that the chunk completes. -/
theorem sent_narrow_iff {s : CanComms} (hs : Assembling s.canWriteBuffer) (data : List UInt8) :
    (∀ packet ∈ (Comms.commsCanWrite data s).1, Narrow packet) ↔
      ∀ frame ∈ (packetFraming.split (s.canWriteBuffer.carried ++ data)).1,
        ClassicCode (lenCode (frame.headD 0)) := by
  rw [(commsCanWrite_writes data hs).sent, List.forall_mem_map]
  apply forall₂_congr
  intro frame _
  rw [Narrow, getLen_ofStruct, dlcToLen_le_iff]

theorem tailAccesses_inside {b : AsmBuffer} (hb : b.ptr ≤ 72) (maxLen : Nat) :
    ∀ a ∈ tailAccesses maxLen b, a.Inside := by
  unfold tailAccesses
  split
  · rw [List.forall_mem_cons, List.forall_mem_singleton]
    simp only [Access.Inside]
    omega
  · simp

/-- The loop reaches as far as the packets in the queue, and what it keeps of one fits
in the buffer. -/
theorem readLoopAccesses_inside {maxLen fuel pos : Nat} {s : CanComms}
    (hptr : s.canReadBuffer.ptr = 0) (hqueue : ∀ packet ∈ s.canRxQ.queued, Narrow packet) :
    ∀ a ∈ readLoopAccesses maxLen fuel pos s, a.Inside := by
  induction fuel generalizing pos s with
  | zero => simp [readLoopAccesses]
  | succ fuel ih =>
      rw [readLoopAccesses]
      split
      · obtain ⟨hhead, htail⟩ := canPop_spec s.canRxQ
        rcases hpop : canPop s.canRxQ with ⟨_ | packet, q⟩
        · simp
        · rw [hpop] at hhead htail
          have hnarrow : Narrow packet := hqueue packet (List.mem_of_mem_head? hhead.symm)
          have hrest : ∀ other ∈ q.queued, Narrow other := by
            intro other hother
            rw [htail] at hother
            exact hqueue other (List.mem_of_mem_tail hother)
          have hinside := (inside_packetLen packet).mpr hnarrow
          simp only
          split
          · rw [List.forall_mem_cons]
            exact ⟨hinside, ih hptr hrest⟩
          · rw [List.forall_mem_cons, List.forall_mem_singleton]
            refine ⟨hinside, ?_⟩
            simp only [Access.Inside, canpacketHeadSize, canpacketDataSizeMax] at hinside ⊢
            omega
      · simp

theorem readAccesses_inside {s : CanComms} (hptr : s.canReadBuffer.ptr ≤ 72)
    (hqueue : ∀ packet ∈ s.canRxQ.queued, Narrow packet) (maxLen : Nat) :
    ∀ a ∈ readAccesses maxLen s, a.Inside := by
  simp only [readAccesses]
  rw [List.forall_mem_append]
  refine ⟨tailAccesses_inside hptr maxLen, ?_⟩
  split
  · rename_i hzero
    exact readLoopAccesses_inside hzero hqueue
  · simp

/-! The buffers are never overrun, whatever the length codes are. -/

theorem writeLoopAccesses_inBuffer (data : List UInt8) (fuel pos : Nat) :
    ∀ a ∈ writeLoopAccesses data fuel pos, a.InBuffer := by
  induction fuel generalizing pos with
  | zero => simp [writeLoopAccesses]
  | succ fuel ih =>
      rw [writeLoopAccesses]
      split
      · have hneed : canpacketHeadSize + dlcToLen (lenCode (data.getD pos 0)) ≤ 72 :=
          need_le_asmBuffer (data.getD pos 0)
        simp only
        split
        · exact List.forall_mem_cons.mpr ⟨trivial, ih _⟩
        · refine List.forall_mem_cons.mpr ⟨?_, ih _⟩
          simp only [Access.InBuffer]
          omega
      · simp

theorem writeAccesses_inBuffer {b : AsmBuffer} (hb : Assembling b) (data : List UInt8) :
    ∀ a ∈ writeAccesses data b, a.InBuffer := by
  unfold writeAccesses assembleAccesses
  refine List.forall_mem_append.mpr ⟨?_, writeLoopAccesses_inBuffer _ _ _⟩
  split
  · rename_i hptr
    obtain ⟨-, hneed⟩ := hb.tail hptr
    have hle := need_le_asmBuffer (b.data.get 0)
    split
    · refine List.forall_mem_cons.mpr ⟨?_, List.forall_mem_singleton.mpr trivial⟩
      simp only [Access.InBuffer]
      omega
    · refine List.forall_mem_singleton.mpr ?_
      simp only [Access.InBuffer]
      omega
  · simp

theorem readLoopAccesses_inBuffer {maxLen fuel pos : Nat} {s : CanComms}
    (hptr : s.canReadBuffer.ptr = 0) :
    ∀ a ∈ readLoopAccesses maxLen fuel pos s, a.InBuffer := by
  induction fuel generalizing pos s with
  | zero => simp [readLoopAccesses]
  | succ fuel ih =>
      rw [readLoopAccesses]
      split
      · rcases canPop s.canRxQ with ⟨_ | packet, q⟩
        · simp
        · have hle := dlcToLen_le packet.dataLenCode
          simp only
          split
          · exact List.forall_mem_cons.mpr ⟨trivial, ih hptr⟩
          · refine List.forall_mem_cons.mpr ⟨trivial, List.forall_mem_singleton.mpr ?_⟩
            simp only [Access.InBuffer, packetLen, getLen, canpacketHeadSize]
            omega
      · simp

theorem readAccesses_inBuffer {s : CanComms} (hptr : s.canReadBuffer.ptr ≤ 72) (maxLen : Nat) :
    ∀ a ∈ readAccesses maxLen s, a.InBuffer := by
  simp only [readAccesses, tailAccesses]
  refine List.forall_mem_append.mpr ⟨?_, ?_⟩
  · split
    · refine List.forall_mem_cons.mpr ⟨?_, List.forall_mem_singleton.mpr ?_⟩
      · simp only [Access.InBuffer]
        omega
      · simp only [Access.InBuffer]
        omega
    · simp
  · split
    · rename_i hzero
      exact readLoopAccesses_inBuffer hzero
    · simp

/-! ### Steps -/

/-- What holds in any run: the buffers are in order and never overrun, and the mode is
one of the build. -/
structure Ready (s : State) : Prop where
  assembling : Assembling s.driver.comms.canWriteBuffer
  reading : s.driver.comms.canReadBuffer.ptr ≤ 72
  classic : s.driver.main.safety.currentHooks ≠ .hyundaiCanfd
  buffers : ∀ a ∈ s.accesses, a.InBuffer

/-- The packets that wait in queues and mailboxes are narrow. -/
structure Waiting (s : State) : Prop where
  rx : ∀ packet ∈ s.driver.comms.canRxQ.queued, Narrow packet
  tx : ∀ bus, ∀ packet ∈ (s.driver.canQueues bus).queued, Narrow packet
  mailBox : ∀ canNumber m, s.txMailBox canNumber = some m → ClassicCode m.dataLenCode

/-- As long as every access is inside, only narrow packets wait. -/
structure Kept (s : State) : Prop extends Ready s where
  waiting : InBounds s → Waiting s

/-- The second state comes from the first by accesses that are inside exactly if the
condition holds. -/
structure Moves (ok : Prop) (s t : State) : Prop where
  kept : Kept t
  inBounds_iff : InBounds t ↔ InBounds s ∧ ok

section Moves

variable {ok ok' : Prop} {s t u : State}

theorem Moves.trans (h : Moves ok s t) (h' : Moves ok' t u) : Moves (ok ∧ ok') s u where
  kept := h'.kept
  inBounds_iff := by rw [h'.inBounds_iff, h.inBounds_iff, and_assoc]

/-- A condition that the accesses before already imply can be dropped. -/
theorem Moves.congr (h : Moves ok s t) (hok : InBounds s → (ok ↔ ok')) : Moves ok' s t where
  kept := h.kept
  inBounds_iff := by
    rw [h.inBounds_iff]
    exact and_congr_right hok

theorem Kept.refl (h : Kept s) : Moves True s s where
  kept := h
  inBounds_iff := (and_iff_left trivial).symm

theorem Kept.access (h : Kept s) (accesses : List Access)
    (hbuffers : ∀ a ∈ accesses, a.InBuffer) :
    Moves (∀ a ∈ accesses, a.Inside) s (s.access accesses) := by
  have hiff : InBounds (s.access accesses) ↔ InBounds s ∧ ∀ a ∈ accesses, a.Inside :=
    List.forall_mem_append
  have hready : Ready (s.access accesses) := by
    refine ⟨h.assembling, h.reading, h.classic, ?_⟩
    exact List.forall_mem_append.mpr ⟨h.buffers, hbuffers⟩
  refine ⟨⟨hready, ?_⟩, hiff⟩
  intro hinside
  obtain ⟨hrx, htx, hmailBox⟩ := h.waiting (hiff.mp hinside).1
  exact ⟨hrx, htx, hmailBox⟩

/-- An access to one packet, over its length. -/
theorem Kept.accessPacket (h : Kept s) (packet : CANPacket) :
    Moves (Narrow packet) s (s.access [.packet (packetLen packet)]) := by
  have haccess := h.access [.packet (packetLen packet)] (by simp [Access.InBuffer])
  refine haccess.congr fun _ => ?_
  rw [List.forall_mem_singleton, inside_packetLen]

/-- Changes to what neither queues packets nor chooses the hooks. -/
theorem Kept.lift (h : Kept s) {f : Driver → Driver} (hcomms : (f s.driver).comms = s.driver.comms)
    (hqueues : (f s.driver).canQueues = s.driver.canQueues)
    (hhooks : (f s.driver).main.safety.currentHooks = s.driver.main.safety.currentHooks) :
    Moves True s (s.lift f) := by
  have hready : Ready (s.lift f) := by
    constructor
    · exact hcomms ▸ h.assembling
    · exact hcomms ▸ h.reading
    · exact hhooks ▸ h.classic
    · exact h.buffers
  refine ⟨⟨hready, ?_⟩, (and_iff_left trivial).symm⟩
  intro hinside
  obtain ⟨hrx, htx, hmailBox⟩ := h.waiting hinside
  constructor
  · exact hcomms ▸ hrx
  · exact hqueues ▸ htx
  · exact hmailBox

theorem Kept.count (h : Kept s) (canNumber : Fin 3) (f : CanHealth → CanHealth) :
    Moves True s (s.lift (Driver.count canNumber f)) := by
  apply h.lift
  · rfl
  · rfl
  · rfl

/-! ### Queues -/

theorem canPush_narrow {q : CanRing} {elem : CANPacket} (hq : ∀ packet ∈ q.queued, Narrow packet)
    (helem : Narrow elem) : ∀ packet ∈ (canPush elem q).2.queued, Narrow packet := by
  rw [(canPush_spec elem q).2]
  split
  · rw [List.forall_mem_append, List.forall_mem_singleton]
    exact ⟨hq, helem⟩
  · exact hq

theorem Kept.pushRx (h : Kept s) {toPush : CANPacket} (hpacket : InBounds s → Narrow toPush) :
    Moves True s (s.lift (Driver.pushRx toPush)) := by
  refine ⟨⟨⟨h.assembling, h.reading, h.classic, h.buffers⟩, ?_⟩, (and_iff_left trivial).symm⟩
  intro hinside
  obtain ⟨hrx, htx, hmailBox⟩ := h.waiting hinside
  exact ⟨canPush_narrow hrx (hpacket hinside), htx, hmailBox⟩

theorem Kept.pushTx (h : Kept s) (bus : Fin 3) {toPush : CANPacket}
    (hpacket : InBounds s → Narrow toPush) :
    Moves True s (s.lift (Driver.pushTx bus toPush)) := by
  refine ⟨⟨⟨h.assembling, h.reading, h.classic, h.buffers⟩, ?_⟩, (and_iff_left trivial).symm⟩
  intro hinside
  obtain ⟨hrx, htx, hmailBox⟩ := h.waiting hinside
  refine ⟨hrx, ?_, hmailBox⟩
  intro bus'
  by_cases hbus : bus' = bus
  · subst hbus
    simp only [State.lift, Driver.pushTx, Driver.note, Function.update_self]
    exact canPush_narrow (htx bus') (hpacket hinside)
  · simp only [State.lift, Driver.pushTx, Driver.note, Function.update_of_ne hbus]
    exact htx bus'

/-! ### Transmission -/

theorem packet_narrow_iff (busNumber : Fin 3) (returned : Bool) (stack : CANPacket) (m : MailBox) :
    Narrow (m.packet busNumber returned stack) ↔ ClassicCode m.dataLenCode :=
  dlcToLen_le_iff m.dataLenCode

theorem txMailBoxOf_dataLenCode (toSend : CANPacket) :
    (txMailBoxOf toSend).dataLenCode = toSend.dataLenCode := by
  have hmask : ∀ code : Fin 16, Fin.ofNat 16 (UInt32.ofNat code &&& 0xF).toNat = code := by
    decide
  exact hmask toSend.dataLenCode

theorem Kept.echoTransmitted (h : Kept s) (canNumber busNumber : Fin 3) (hw : Hardware) :
    Moves True s (s.echoTransmitted canNumber busNumber hw) := by
  unfold State.echoTransmitted
  cases hm : s.txMailBox canNumber with
  | none => exact h.refl
  | some m =>
      simp only
      split
      · have hnarrow : InBounds s → Narrow (m.packet busNumber true hw.stack) := by
          intro hinside
          rw [packet_narrow_iff]
          exact (h.waiting hinside).mailBox canNumber m hm
        have haccess := h.accessPacket (m.packet busNumber true hw.stack)
        have hpush := haccess.kept.pushRx fun hinside => (haccess.inBounds_iff.mp hinside).2
        exact (haccess.trans hpush).congr fun hinside =>
          iff_of_true ⟨hnarrow hinside, trivial⟩ trivial
      · exact h.refl

theorem Kept.transmit (h : Kept s) (canNumber : Fin 3) {toSend : CANPacket}
    (hpacket : InBounds s → Narrow toSend) : Moves True s (s.transmit canNumber toSend) := by
  have haccess := h.accessPacket toSend
  have hsent :
      Moves True (s.access [.packet (packetLen toSend)]) (s.transmit canNumber toSend) := by
    unfold State.transmit
    generalize s.access [.packet (packetLen toSend)] = t at haccess
    simp only
    split
    · have hmailBox : Moves True t { t with
          txMailBox := Function.update t.txMailBox canNumber (some (txMailBoxOf toSend)) } := by
        refine ⟨⟨⟨haccess.kept.assembling, haccess.kept.reading, haccess.kept.classic,
          haccess.kept.buffers⟩, ?_⟩, (and_iff_left trivial).symm⟩
        intro hinside
        obtain ⟨hrx, htx, hbefore⟩ := haccess.kept.waiting hinside
        refine ⟨hrx, htx, ?_⟩
        intro canNumber' m hm
        by_cases hcan : canNumber' = canNumber
        · subst hcan
          simp only [Function.update_self, Option.some.injEq] at hm
          rw [← hm, txMailBoxOf_dataLenCode, ← dlcToLen_le_iff]
          exact (haccess.inBounds_iff.mp hinside).2
        · simp only [Function.update_of_ne hcan] at hm
          exact hbefore canNumber' m hm
      exact (hmailBox.trans (hmailBox.kept.count canNumber _)).congr fun _ => and_self_iff
    · exact haccess.kept.count canNumber _
  exact (haccess.trans hsent).congr fun hinside => iff_of_true ⟨hpacket hinside, trivial⟩ trivial

theorem Kept.sendNext (h : Kept s) (canNumber busNumber : Fin 3) :
    Moves True s (s.sendNext canNumber busNumber) := by
  unfold State.sendNext
  obtain ⟨hhead, htail⟩ := canPop_spec (s.driver.canQueues busNumber)
  rcases hpop : canPop (s.driver.canQueues busNumber) with ⟨_ | toSend, q⟩
  · exact h.refl
  · rw [hpop] at hhead htail
    have hpopped : Moves True s (s.lift fun d =>
        { d with canQueues := Function.update d.canQueues busNumber q }) := by
      refine ⟨⟨⟨h.assembling, h.reading, h.classic, h.buffers⟩, ?_⟩, (and_iff_left trivial).symm⟩
      intro hinside
      obtain ⟨hrx, htx, hmailBox⟩ := h.waiting hinside
      refine ⟨hrx, ?_, hmailBox⟩
      intro bus packet hpacket
      by_cases hbus : bus = busNumber
      · subst hbus
        simp only [State.lift, Function.update_self] at hpacket
        rw [htail] at hpacket
        exact htx bus packet (List.mem_of_mem_tail hpacket)
      · simp only [State.lift, Function.update_of_ne hbus] at hpacket
        exact htx bus packet hpacket
    have hnarrow : InBounds s → Narrow toSend := fun hinside =>
      (h.waiting hinside).tx busNumber toSend (List.mem_of_mem_head? hhead.symm)
    have hsent := hpopped.kept.transmit canNumber hnarrow
    have hrefreshed := hsent.kept.lift (f := Driver.refreshCanTxSlotsAvailable) rfl rfl rfl
    exact ((hpopped.trans hsent).trans hrefreshed).congr fun _ => by simp

theorem Kept.processCan (h : Kept s) (canNumber : Fin 3) (hw : Hardware) :
    Moves True s (s.processCan canNumber hw) := by
  unfold State.processCan
  simp only
  split
  · have hecho := h.echoTransmitted canNumber (s.driver.busConfig canNumber).busLookup hw
    have hsent := hecho.kept.sendNext canNumber (s.driver.busConfig canNumber).busLookup
    exact (hecho.trans hsent).congr fun _ => and_self_iff
  · exact h.refl

theorem Kept.enqueue (h : Kept s) {toPush : CANPacket} (hpacket : InBounds s → Narrow toPush)
    (busNumber : Nat) (hw : Hardware) : Moves True s (s.enqueue toPush busNumber hw) := by
  unfold State.enqueue
  split
  · rename_i hbus
    have hpush := h.pushTx ⟨busNumber, hbus⟩ hpacket
    have hsent := hpush.kept.processCan
      ((s.lift (Driver.pushTx ⟨busNumber, hbus⟩ toPush)).driver.busConfig
        ⟨busNumber, hbus⟩).canNumLookup hw
    exact (hpush.trans hsent).congr fun _ => and_self_iff
  · exact h.refl

theorem Kept.reject (h : Kept s) (toPush : CANPacket) :
    Moves (Narrow toPush) s (s.reject toPush) := by
  have haccess := h.accessPacket toPush
  have hblocked := haccess.kept.lift
    (f := fun d =>
      { d with main := { d.main with safetyTxBlocked := d.main.safetyTxBlocked + 1 } }) rfl rfl rfl
  have hnarrow : InBounds (s.access [.packet (packetLen toPush)]) → Narrow (rejectedEcho toPush) :=
    fun hinside => (haccess.inBounds_iff.mp hinside).2
  have hpush := hblocked.kept.pushRx hnarrow
  exact ((haccess.trans hblocked).trans hpush).congr fun _ => by simp

/-- A packet from the host is looked at by the hook in any case. -/
theorem Kept.canSend (h : Kept s) (toPush : CANPacket) (busNumber : Nat) (hw : Hardware) :
    Moves (Narrow toPush) s (s.canSend toPush busNumber false hw) := by
  have haccess := h.access (txHookAccesses s.driver.main.safety toPush)
    (List.forall_mem_cons.mpr ⟨trivial, branchAccesses_inBuffer _⟩)
  have hhook := haccess.kept.lift (f := Driver.runTxHook toPush hw.ts) rfl rfl
    (step_currentHooks _ (.tx hw.ts toPush))
  have hlooked := (haccess.trans hhook).congr fun _ =>
    (and_iff_left trivial).trans (txHookAccesses_inside h.classic toPush)
  unfold State.canSend
  simp only [Bool.false_eq_true, if_false]
  generalize (s.access (txHookAccesses s.driver.main.safety toPush)).lift
    (Driver.runTxHook toPush hw.ts) = t at hlooked
  have hnarrow : InBounds t → Narrow toPush := fun hinside => (hlooked.inBounds_iff.mp hinside).2
  split
  · have hqueued := hlooked.kept.enqueue hnarrow busNumber hw
    exact (hlooked.trans hqueued).congr fun _ => and_iff_left trivial
  · have hrejected := hlooked.kept.reject toPush
    exact (hlooked.trans hrejected).congr fun _ => and_self_iff

theorem Kept.sendAll (h : Kept s) (packets : List CANPacket) (hw : Nat → Hardware) :
    Moves (∀ packet ∈ packets, Narrow packet) s (s.sendAll packets hw) := by
  induction packets generalizing s hw with
  | nil => exact h.refl.congr fun _ => by simp
  | cons toPush packets ih =>
      have hfirst := h.canSend toPush (getBus toPush) (hw 0)
      have hlater := ih hfirst.kept fun i => hw (i + 1)
      exact (hfirst.trans hlater).congr fun _ => List.forall_mem_cons.symm

/-! ### Reception -/

theorem Kept.forward (h : Kept s) (canNumber busNumber : Fin 3) (stack : CANPacket)
    {toPush : CANPacket} (hpacket : InBounds s → Narrow toPush) (hw : Hardware) :
    Moves True s (s.forward canNumber busNumber stack toPush hw) := by
  unfold State.forward
  simp only
  split
  · have haccess := h.access [.packet (packetLen toPush), .packet (packetLen toPush)]
      (by simp [Access.InBuffer])
    have hboth := haccess.congr fun hinside => iff_of_true (by
      rw [List.forall_mem_cons, List.forall_mem_singleton, inside_packetLen]
      exact ⟨hpacket hinside, hpacket hinside⟩) trivial
    have hnarrow : InBounds (s.access [.packet (packetLen toPush), .packet (packetLen toPush)]) →
        Narrow (forwardedFrame stack toPush) :=
      fun hinside => hpacket (hboth.inBounds_iff.mp hinside).1
    have hqueued := hboth.kept.enqueue hnarrow
      (safetyFwdHook busNumber (getAddr toPush) s.driver.main.safety % 256).toNat hw
    have hcounted := hqueued.kept.count canNumber fun health =>
      { health with totalFwdCnt := health.totalFwdCnt + 1 }
    exact ((hboth.trans hqueued).trans hcounted).congr fun _ => by simp
  · exact h.refl

theorem runRxHook_currentHooks (toPush : CANPacket) (ts : UInt32) (d : Driver) :
    (d.runRxHook toPush ts).main.safety.currentHooks = d.main.safety.currentHooks := by
  change (Main.ignitionCanHook toPush _).safety.currentHooks = _
  rw [Main.ignitionCanHook_same toPush]
  exact step_currentHooks d.main.safety (.rx ts toPush)

theorem Kept.canRx (h : Kept s) (canNumber : Fin 3) (msg : RxMessage) (hw : Hardware) :
    Moves (ClassicCode msg.mailBox.dataLenCode) s (s.canRx canNumber msg hw) := by
  unfold State.canRx
  simp only
  generalize hbus : (s.driver.busConfig canNumber).busLookup = busNumber
  generalize hpacket : msg.mailBox.packet busNumber false msg.toPush = toPush
  have hcode : Narrow toPush ↔ ClassicCode msg.mailBox.dataLenCode := by
    rw [← hpacket]
    exact packet_narrow_iff busNumber false msg.toPush msg.mailBox
  have hcounted := h.count canNumber fun health =>
    { health with totalRxCnt := health.totalRxCnt + 1 }
  have haccess := hcounted.trans (hcounted.kept.accessPacket toPush)
  have hforwarded := haccess.trans (haccess.kept.forward canNumber busNumber msg.toSend
    (fun hinside => (haccess.inBounds_iff.mp hinside).2.2) hw)
  generalize State.forward canNumber busNumber msg.toSend toPush hw _ = t at hforwarded
  have hnarrow : InBounds t → Narrow toPush :=
    fun hinside => (hforwarded.inBounds_iff.mp hinside).2.1.2
  have hhook := hforwarded.kept.access (rxHookAccesses t.driver.main.safety toPush)
    (List.forall_mem_cons.mpr ⟨trivial, branchAccesses_inBuffer _⟩)
  have hrun := hhook.trans (hhook.kept.lift (f := Driver.runRxHook toPush hw.ts) rfl rfl
    (runRxHook_currentHooks _ _ _))
  have hpushed := hrun.trans (hrun.kept.pushRx fun hinside =>
    hnarrow (hrun.inBounds_iff.mp hinside).1)
  refine (hforwarded.trans hpushed).congr fun _ => ?_
  rw [rxHookAccesses_inside hforwarded.kept.classic, ← hcode]
  simp

/-! ### The host -/

theorem readLoop_queued {maxLen fuel : Nat} {out : List UInt8} {s : CanComms} {packet : CANPacket}
    (h : packet ∈ (readLoop maxLen fuel out s).2.canRxQ.queued) : packet ∈ s.canRxQ.queued := by
  induction fuel generalizing out s with
  | zero => exact h
  | succ fuel ih =>
      rw [readLoop] at h
      obtain ⟨-, htail⟩ := canPop_spec s.canRxQ
      simp only at h
      split at h
      · rcases hpop : canPop s.canRxQ with ⟨_ | canPacket, q⟩
        · rw [hpop] at h htail
          rw [htail] at h
          exact List.mem_of_mem_tail h
        · rw [hpop] at h htail
          simp only at h
          apply List.mem_of_mem_tail
          rw [← htail]
          split at h
          · exact ih h
          · exact ih h
      · exact h

theorem commsCanRead_queued {maxLen : Nat} {s : CanComms} {packet : CANPacket}
    (h : packet ∈ (Comms.commsCanRead maxLen s).2.canRxQ.queued) : packet ∈ s.canRxQ.queued := by
  simp only [Comms.commsCanRead] at h
  split at h
  · have hbefore := readLoop_queued h
    exact hbefore
  · exact h

theorem Kept.commsCanRead (h : Kept s) (maxLen : Nat) : Moves True s (s.commsCanRead maxLen) := by
  have haccess := h.access (readAccesses maxLen s.driver.comms)
    (readAccesses_inBuffer h.reading maxLen)
  have hread : Moves True (s.access (readAccesses maxLen s.driver.comms))
      (s.commsCanRead maxLen) := by
    refine ⟨⟨⟨?_, ?_, h.classic, haccess.kept.buffers⟩, ?_⟩, (and_iff_left trivial).symm⟩
    · have hbuffer := commsCanRead_canWriteBuffer maxLen s.driver.comms
      exact hbuffer ▸ h.assembling
    · exact (commsCanRead_reads maxLen h.reading).fits
    · intro hinside
      obtain ⟨hrx, htx, hmailBox⟩ := h.waiting (haccess.inBounds_iff.mp hinside).1
      exact ⟨fun packet hpacket => hrx packet (commsCanRead_queued hpacket), htx, hmailBox⟩
  refine (haccess.trans hread).congr fun hinside => iff_of_true ⟨?_, trivial⟩ trivial
  exact readAccesses_inside h.reading (h.waiting hinside).rx maxLen

theorem Kept.commsCanWrite (h : Kept s) (data : List UInt8) (hw : Nat → Hardware) :
    Moves (∀ frame ∈ (packetFraming.split (s.driver.comms.canWriteBuffer.carried ++ data)).1,
        ClassicCode (lenCode (frame.headD 0))) s (s.commsCanWrite data hw) := by
  have haccess := h.access (writeAccesses data s.driver.comms.canWriteBuffer)
    (writeAccesses_inBuffer h.assembling data)
  unfold State.commsCanWrite
  rcases hwrite : Comms.commsCanWrite data s.driver.comms with ⟨packets, comms⟩
  have hsent := writeAccesses_inside h.assembling data
  have hframes := sent_narrow_iff h.assembling data
  have hassembling := (commsCanWrite_writes data h.assembling).assembling
  have hreading : (Comms.commsCanWrite data s.driver.comms).2.canReadBuffer =
    s.driver.comms.canReadBuffer := rfl
  have hqueue : (Comms.commsCanWrite data s.driver.comms).2.canRxQ = s.driver.comms.canRxQ := rfl
  rw [hwrite] at hsent hframes hassembling hreading hqueue
  simp only at hsent hframes hassembling hreading hqueue ⊢
  have hbuffered : Moves True (s.access (writeAccesses data s.driver.comms.canWriteBuffer))
      ((s.access (writeAccesses data s.driver.comms.canWriteBuffer)).lift
        fun d => { d with comms }) := by
    refine ⟨⟨⟨hassembling, ?_, h.classic, haccess.kept.buffers⟩, ?_⟩, (and_iff_left trivial).symm⟩
    · exact hreading ▸ h.reading
    · intro hinside
      obtain ⟨hrx, htx, hmailBox⟩ := h.waiting (haccess.inBounds_iff.mp hinside).1
      exact ⟨hqueue ▸ hrx, htx, hmailBox⟩
  have hall := hbuffered.kept.sendAll packets hw
  have hrefreshed := hall.kept.lift (f := Driver.refreshCanTxSlotsAvailable) rfl rfl rfl
  refine (((haccess.trans hbuffered).trans hall).trans hrefreshed).congr fun _ => ?_
  rw [hsent, ← hframes]
  simp

end Moves

theorem step_moves {s : State} (h : Kept s) (e : Event) : Moves (FitsClassic s e) s (step s e) := by
  cases e with
  | write data hw => exact h.commsCanWrite data hw
  | read maxLen => exact h.commsCanRead maxLen
  | processCan canNumber hw => exact h.processCan canNumber hw
  | rx canNumber msg hw => exact h.canRx canNumber msg hw
  | setOrientation flipped =>
      apply h.lift
      · rfl
      · rfl
      · rfl
  | reset =>
      refine ⟨⟨⟨Assembling.of_zero rfl, Nat.zero_le 72, h.classic, h.buffers⟩, ?_⟩,
        (and_iff_left trivial).symm⟩
      intro hinside
      obtain ⟨hrx, htx, hmailBox⟩ := h.waiting hinside
      exact ⟨hrx, htx, hmailBox⟩
  | clearRx =>
      refine ⟨⟨⟨h.assembling, h.reading, h.classic, h.buffers⟩, ?_⟩, (and_iff_left trivial).symm⟩
      intro hinside
      obtain ⟨-, htx, hmailBox⟩ := h.waiting hinside
      refine ⟨?_, htx, hmailBox⟩
      intro packet hpacket
      have hempty := CanRing.clear_queued s.driver.comms.canRxQ
      have hmem : packet ∈ s.driver.comms.canRxQ.clear.queued := hpacket
      rw [hempty] at hmem
      cases hmem
  | clearTx bus =>
      refine ⟨⟨⟨h.assembling, h.reading, h.classic, h.buffers⟩, ?_⟩, (and_iff_left trivial).symm⟩
      intro hinside
      obtain ⟨hrx, htx, hmailBox⟩ := h.waiting hinside
      refine ⟨hrx, ?_, hmailBox⟩
      intro bus' packet hpacket
      have hmem : packet ∈ (Function.update s.driver.canQueues bus
        (s.driver.canQueues bus).clear bus').queued := hpacket
      by_cases hbus : bus' = bus
      · subst hbus
        rw [Function.update_self, CanRing.clear_queued] at hmem
        cases hmem
      · rw [Function.update_of_ne hbus] at hmem
        exact htx bus' packet hmem
  | main m =>
      refine ⟨⟨⟨h.assembling, h.reading, m.classic, h.buffers⟩, ?_⟩, (and_iff_left trivial).symm⟩
      intro hinside
      obtain ⟨hrx, htx, hmailBox⟩ := h.waiting hinside
      exact ⟨hrx, htx, hmailBox⟩

theorem start_kept (m : ClassicMain) : Kept (start m) := by
  have hempty : ∀ q : CanRing, q.wPtr = q.rPtr → ∀ packet ∈ q.queued, Narrow packet := by
    intro q hq packet hpacket
    rw [CanRing.queued_eq_nil.mpr hq] at hpacket
    cases hpacket
  refine ⟨⟨Assembling.of_zero rfl, Nat.zero_le 72, m.classic, ?_⟩, fun _ => ⟨?_, ?_, ?_⟩⟩
  · intro a ha
    cases ha
  · exact hempty _ rfl
  · intro bus
    exact hempty _ rfl
  · intro canNumber mailBox hmailBox
    cases hmailBox

/-- The buffers of the host are never overrun. -/
theorem run_inBuffer (m : ClassicMain) (events : List Event) :
    ∀ a ∈ (run step (start m) events).accesses, a.InBuffer := by
  have hstep : ∀ s e, Kept s → Kept (step s e) := fun _ e h => (step_moves h e).kept
  exact (run_invariant hstep (start_kept m) events).buffers

/-- On the classic build every access stays inside packets and buffers exactly if every
packet that the host completes and every message that a mailbox holds has a length
code of at most eight. The buffers of the host are overrun in no run. -/
theorem inBounds_iff_along (m : ClassicMain) (events : List Event) :
    (InBounds (run step (start m) events) ↔ Along step FitsClassic (start m) events) ∧
      ∀ a ∈ (run step (start m) events).accesses, a.InBuffer := by
  have hstart : InBounds (start m) := by
    intro a ha
    cases ha
  have hsteps := run_iff_along (fun s e (h : Kept s) => (step_moves h e).kept)
    (fun s e (h : Kept s) => (step_moves h e).inBounds_iff) (start_kept m) events
  exact ⟨hsteps.trans (and_iff_right hstart), run_inBuffer m events⟩

/-- The state of the main loop at power on. -/
def powerOnMain : ClassicMain where
  main := Main.powerOn {} .nc
  classic := by decide

/-- A packet with the code for twelve bytes. -/
theorem not_inBounds_twelve :
    ¬ InBounds (run step (start powerOnMain)
        [.write (0x90 :: List.replicate 17 0) fun _ => busy]) := by
  intro hinside
  have hcopy : Access.packet 18 ∈ (run step (start powerOnMain)
      [.write (0x90 :: List.replicate 17 0) fun _ => busy]).accesses := by decide
  have hle : 18 ≤ canpacketHeadSize + canpacketDataSizeMax := hinside _ hcopy
  exact absurd hle (by decide)

end Panda.Comms.Bxcan
