import Panda.Comms.CanfdConfig

/-!
How full the transmit queues are: what a push finds, what `process_can` takes, and
when the flag for writes over SPI is set.
-/

namespace Panda.Comms

open Library Safety

/-! ### One queue -/

/-- What a queue can hold. -/
def canTxRoom : Nat := canTxBufferSize - 1

/-- Pushes to a queue of `n` packets, each with whether the transmit FIFO is full
afterwards, all find room. -/
def HasRoom (n : Nat) (full : List Bool) : Prop :=
  full ≠ [] → n + full.dropLast.count true < canTxRoom

theorem hasRoom_cons {n : Nat} (first : Bool) (later : List Bool) :
    HasRoom n (first :: later) ↔
      n < canTxRoom ∧ HasRoom (if first then n + 1 else n) later := by
  cases later with
  | nil =>
      simp [HasRoom]
  | cons second later =>
      have hcount : (first :: second :: later).dropLast.count true =
          (second :: later).dropLast.count true + if first then 1 else 0 := by
        rw [List.dropLast_cons_cons, List.count_cons]
        cases first <;> rfl
      unfold HasRoom
      rw [hcount]
      simp only [ne_eq, reduceCtorEq, not_false_eq_true, forall_const]
      cases first with
      | true =>
          simp only [if_true]
          omega
      | false =>
          simp only [Bool.false_eq_true, if_false]
          omega

/-- The queues have the sizes that they were made with. -/
def Sized (d : Driver) : Prop := ∀ bus, (d.canQueues bus).fifoSize = canTxBufferSize

/-- The number of packets that wait for a bus. -/
def Driver.waiting (bus : Fin 3) (d : Driver) : Nat := (d.canQueues bus).queued.length

theorem canPush_fifoSize (elem : CANPacket) (q : CanRing) :
    (canPush elem q).2.fifoSize = q.fifoSize := by
  unfold canPush
  simp only
  split
  · rfl
  · rfl

theorem canPop_none {q q' : CanRing} (h : canPop q = (none, q')) : q' = q := by
  unfold canPop at h
  split at h
  · cases h
  · cases h
    rfl

theorem canPop_fifoSize (q : CanRing) : (canPop q).2.fifoSize = q.fifoSize := by
  unfold canPop
  split
  · rfl
  · rfl

namespace Driver

theorem pushTx_sized {d : Driver} (h : Sized d) (bus : Fin 3) (toPush : CANPacket) :
    Sized (d.pushTx bus toPush) := by
  intro b
  by_cases hb : b = bus
  · subst hb
    have hsize := canPush_fifoSize toPush (d.canQueues b)
    simp only [pushTx, note, Function.update_self]
    rw [hsize]
    exact h b
  · simp only [pushTx, note, Function.update_of_ne hb]
    exact h b

/-- A push finds room when the queue is not full. -/
theorem pushTx_spec {d : Driver} (h : Sized d) (bus : Fin 3) (toPush : CANPacket) :
    (d.pushTx bus toPush).txBufferOverflow =
        d.txBufferOverflow + (if d.waiting bus < canTxRoom then 0 else 1) ∧
      ∀ b, (d.pushTx bus toPush).waiting b =
        if b = bus ∧ d.waiting bus < canTxRoom then d.waiting b + 1 else d.waiting b := by
  obtain ⟨hret, hqueue⟩ := canPush_spec toPush (d.canQueues bus)
  rw [h bus] at hret
  have hret : (canPush toPush (d.canQueues bus)).1 = decide (d.waiting bus < canTxRoom) := hret
  have hlength : (canPush toPush (d.canQueues bus)).2.queued.length =
      if d.waiting bus < canTxRoom then d.waiting bus + 1 else d.waiting bus := by
    rw [hqueue, hret]
    by_cases hroom : d.waiting bus < canTxRoom
    · rw [decide_eq_true hroom, if_pos rfl, if_pos hroom, List.length_append]
      rfl
    · rw [decide_eq_false hroom, if_neg Bool.false_ne_true, if_neg hroom]
      rfl
  constructor
  · simp only [pushTx, note, hret, decide_eq_true_eq]
  · intro b
    by_cases hb : b = bus
    · subst hb
      simp only [waiting, pushTx, note, Function.update_self, true_and]
      exact hlength
    · simp [waiting, pushTx, note, hb]

/-- The queues were found to have room for the packets of one transfer. -/
def Reserved (d : Driver) : Prop :=
  ∀ bus, d.waiting bus + maxCanMsgsPerSpiBulkTransfer ≤ canTxRoom

theorem canTxCheckMinSlotsFree_iff {d : Driver} (h : Sized d) :
    d.canTxCheckMinSlotsFree maxCanMsgsPerSpiBulkTransfer = true ↔ Reserved d := by
  have hslots : ∀ bus, canSlotsEmpty (d.canQueues bus) ≥ maxCanMsgsPerSpiBulkTransfer ↔
      d.waiting bus + maxCanMsgsPerSpiBulkTransfer ≤ canTxRoom := by
    intro bus
    have hsum := canSlotsEmpty_eq (d.canQueues bus)
    rw [h bus] at hsum
    unfold waiting canTxRoom
    omega
  unfold canTxCheckMinSlotsFree Reserved
  simp only [Bool.and_eq_true, decide_eq_true_eq, hslots, forall_fin3, and_assoc]

/-- What `refresh_can_tx_slots_available` leaves, and when it sets the flag. -/
structure Refreshed (d d' : Driver) : Prop where
  txBufferOverflow : d'.txBufferOverflow = d.txBufferOverflow
  sized : Sized d → Sized d'
  waiting : ∀ bus, d'.waiting bus ≤ d.waiting bus
  ready : Sized d → d'.spiCanTxReady = true → d.spiCanTxReady = true ∨ Reserved d'

theorem Refreshed.refl (d : Driver) : Refreshed d d :=
  ⟨rfl, id, fun _ => Nat.le_refl _, fun _ => Or.inl⟩

theorem Refreshed.trans {d d' d'' : Driver} (h : Refreshed d d') (h' : Refreshed d' d'') :
    Refreshed d d'' where
  txBufferOverflow := h'.txBufferOverflow.trans h.txBufferOverflow
  sized := fun hd => h'.sized (h.sized hd)
  waiting := fun bus => Nat.le_trans (h'.waiting bus) (h.waiting bus)
  ready := by
    intro hd hready
    rcases h'.ready (h.sized hd) hready with hbefore | hnow
    · rcases h.ready hd hbefore with hfirst | hreserved
      · exact .inl hfirst
      · right
        intro bus
        exact Nat.le_trans (Nat.add_le_add_right (h'.waiting bus) _) (hreserved bus)
    · exact .inr hnow

theorem refresh_refreshed (d : Driver) : Refreshed d d.refreshCanTxSlotsAvailable where
  txBufferOverflow := rfl
  sized := id
  waiting := fun _ => Nat.le_refl _
  ready := by
    intro hd hready
    rcases Bool.or_eq_true_iff.mp hready with hbefore | hfree
    · exact .inl hbefore
    · exact .inr ((canTxCheckMinSlotsFree_iff hd).mp hfree)

theorem pop_waiting {d : Driver} {bus : Fin 3} {toSend : CANPacket} {q : CanRing}
    (hpop : canPop (d.canQueues bus) = (some toSend, q)) :
    d.waiting bus = q.queued.length + 1 ∧ q.fifoSize = (d.canQueues bus).fifoSize := by
  obtain ⟨hhead, htail⟩ := canPop_spec (d.canQueues bus)
  have hsize := canPop_fifoSize (d.canQueues bus)
  rw [hpop] at hhead htail hsize
  refine ⟨?_, hsize⟩
  have hqueued : (d.canQueues bus).queued = toSend :: q.queued := by
    rw [htail]
    exact (List.cons_head?_tail hhead.symm).symm
  rw [waiting, hqueued, List.length_cons]

/-- One queue loses packets. -/
theorem Refreshed.of_update {d d' : Driver} {bus : Fin 3} {q : CanRing}
    (hsize : q.fifoSize = (d.canQueues bus).fifoSize) (hlength : q.queued.length ≤ d.waiting bus)
    (hqueues : d'.canQueues = Function.update d.canQueues bus q)
    (hoverflow : d'.txBufferOverflow = d.txBufferOverflow)
    (hready : d'.spiCanTxReady = d.spiCanTxReady) : Refreshed d d' where
  txBufferOverflow := hoverflow
  sized := by
    intro hd b
    rw [hqueues]
    by_cases hb : b = bus
    · subst hb
      rw [Function.update_self, hsize]
      exact hd b
    · rw [Function.update_of_ne hb]
      exact hd b
  waiting := by
    intro b
    unfold Driver.waiting
    rw [hqueues]
    by_cases hb : b = bus
    · subst hb
      rw [Function.update_self]
      exact hlength
    · rw [Function.update_of_ne hb]
  ready := fun _ h => .inl (hready ▸ h)

theorem processCan_refreshed (canNumber : Fin 3) (hw : Hardware) (d : Driver) :
    Refreshed d (d.processCan canNumber hw) := by
  rcases d.processCan_cases canNumber hw with hsame | ⟨toSend, q, hpop, hpopped⟩
  · rw [hsame]
    exact Refreshed.refl d
  · obtain ⟨hlength, hsize⟩ := pop_waiting hpop
    rw [hpopped]
    refine Refreshed.trans ?_ (refresh_refreshed _)
    split
    · exact Refreshed.of_update hsize (by omega) rfl rfl rfl
    · exact Refreshed.of_update hsize (by omega) rfl rfl rfl

theorem clearTx_refreshed (bus : Fin 3) (d : Driver) : Refreshed d (d.clearTx bus) := by
  refine Refreshed.trans ?_ (refresh_refreshed _)
  refine @Refreshed.of_update d _ bus (d.canQueues bus).clear rfl ?_ rfl rfl rfl
  rw [CanRing.clear_queued]
  exact Nat.zero_le _

/-- `process_can` takes a packet of the bus when the transmit FIFO has room. -/
theorem processCan_waiting {d : Driver} {canNumber : Fin 3} {hw : Hardware}
    (hfull : hw.txFifoFull = false) (b : Fin 3) :
    (d.processCan canNumber hw).waiting b =
      if b = (d.busConfig canNumber).busLookup then d.waiting b - 1 else d.waiting b := by
  have htail := (canPop_spec (d.canQueues (d.busConfig canNumber).busLookup)).2
  have hqueues : (d.processCan canNumber hw).canQueues b =
      if b = (d.busConfig canNumber).busLookup then
        (canPop (d.canQueues (d.busConfig canNumber).busLookup)).2
      else d.canQueues b := by
    unfold processCan
    simp only [hfull, Bool.false_eq_true, if_false]
    rcases hpop : canPop (d.canQueues (d.busConfig canNumber).busLookup) with ⟨_ | toSend, q⟩
    · have hsame := canPop_none hpop
      by_cases hb : b = (d.busConfig canNumber).busLookup
      · subst hb
        rw [if_pos rfl, hsame]
      · rw [if_neg hb]
    · rw [← Function.update_apply]
      by_cases hvalid : canCheckChecksum toSend = true
      · simp only [if_pos hvalid]
        rfl
      · simp only [if_neg hvalid]
        rfl
  unfold waiting
  rw [hqueues]
  by_cases hb : b = (d.busConfig canNumber).busLookup
  · subst hb
    rw [if_pos rfl, if_pos rfl, htail, List.length_tail]
  · rw [if_neg hb, if_neg hb]

/-- `can_send` of a packet that is let through: the push, and then `process_can`,
which takes a packet unless the transmit FIFO is full. -/
theorem enqueue_spec {d : Driver} (hsized : Sized d) (horiented : Oriented d.busConfig)
    (toPush : CANPacket) (bus : Fin 3) (hw : Hardware) :
    (d.enqueue toPush bus hw).txBufferOverflow =
        d.txBufferOverflow + (if d.waiting bus < canTxRoom then 0 else 1) ∧
      (d.waiting bus < canTxRoom → ∀ b, (d.enqueue toPush bus hw).waiting b =
        if b = bus ∧ hw.txFifoFull then d.waiting b + 1 else d.waiting b) := by
  obtain ⟨flipped, hflipped⟩ := horiented
  have hlookup : (d.busConfig (d.busConfig bus).canNumLookup).busLookup = bus := by
    rw [(hflipped bus).2, (hflipped _).1]
    cases flipped with
    | false => rfl
    | true => exact Fin.rev_rev bus
  obtain ⟨hoverflow, hwaiting⟩ := pushTx_spec hsized bus toPush
  have henqueue : d.enqueue toPush bus hw =
      (d.pushTx bus toPush).processCan (d.busConfig bus).canNumLookup hw := dif_pos bus.isLt
  rw [henqueue, (processCan_refreshed _ _ _).txBufferOverflow]
  refine ⟨hoverflow, ?_⟩
  intro hroom b
  have hb := hwaiting b
  simp only [hroom, and_true] at hb
  cases hfull : hw.txFifoFull with
  | true =>
      have hsame : (d.pushTx bus toPush).processCan (d.busConfig bus).canNumLookup hw =
          d.pushTx bus toPush := if_pos hfull
      rw [hsame, hb]
      simp only [and_true]
  | false =>
      rw [processCan_waiting hfull, hb]
      change (if b = (d.busConfig (d.busConfig bus).canNumLookup).busLookup then _ else _) = _
      rw [hlookup]
      simp only [Bool.false_eq_true, and_false, if_false]
      split
      · rfl
      · rfl

end Driver

end Panda.Comms
