import Panda.Comms.DriverLog
import Panda.Comms.Receive

/-!
Packet conservation. The counters count what the log says, and what the log says
was put in a queue and not taken out is still there, so every packet is accounted
for once.
-/

namespace Panda.Comms

open Library Safety Host

/-! ### Counting the log -/

/-- The counters of lost packets, and of transmitted ones for each controller. -/
inductive Counter where
  | txBufferOverflow
  | rxBufferOverflow
  | totalTxCnt (canNumber : Fin 3)
  | totalTxChecksumErrorCnt (canNumber : Fin 3)

def Counter.value : Counter → Driver → UInt32
  | .txBufferOverflow, d => d.txBufferOverflow
  | .rxBufferOverflow, d => d.rxBufferOverflow
  | .totalTxCnt canNumber, d => (d.canHealth canNumber).totalTxCnt
  | .totalTxChecksumErrorCnt canNumber, d => (d.canHealth canNumber).totalTxChecksumErrorCnt

/-- The entries that a counter counts. -/
def Counter.counts : Counter → Entry → Bool
  | .txBufferOverflow, .txOverflow _ _ => true
  | .rxBufferOverflow, .rxOverflow _ => true
  | .totalTxCnt canNumber, .written _ c _ _ => c == canNumber
  | .totalTxChecksumErrorCnt canNumber, .checksumError _ c _ => c == canNumber
  | _, _ => false

/-- A packet that went into the receive queue. -/
def pushed : Entry → Option CANPacket
  | .rxPushed packet => some packet
  | _ => none

def bytesOf : Entry → List UInt8
  | .hostRead bytes => bytes
  | _ => []

/-- The counters and the queues are what the log says. -/
structure Accounted (d : Driver) : Prop where
  queue : ∀ bus, d.log.filterMap (acceptedOn bus) =
    d.log.filterMap (takenFrom bus) ++ (d.canQueues bus).queued
  counter : ∀ k : Counter, k.value d = .ofNat (d.log.countP k.counts)
  reads : d.log.flatMap bytesOf ++ d.comms.pending =
    ((d.log.filterMap pushed).map wireBytes).flatten
  fits : d.comms.canReadBuffer.ptr ≤ 72

theorem filterMap_snoc {α β : Type*} (f : α → Option β) (xs : List α) (x : α) :
    (xs ++ [x]).filterMap f = xs.filterMap f ++ (f x).toList := by
  rw [List.filterMap_append]
  cases hx : f x with
  | none => simp [hx]
  | some y => simp [hx]

namespace Accounted

/-- One more entry that agrees with what changed. -/
theorem entry {d d' : Driver} (h : Accounted d) {entry : Entry} (hlog : d'.log = d.log ++ [entry])
    (hqueue : ∀ bus, (takenFrom bus entry).toList ++ (d'.canQueues bus).queued =
      (d.canQueues bus).queued ++ (acceptedOn bus entry).toList)
    (hcounter : ∀ k : Counter, k.value d' = k.value d + if k.counts entry then 1 else 0)
    (hreads : bytesOf entry ++ d'.comms.pending =
      d.comms.pending ++ ((pushed entry).toList.map wireBytes).flatten)
    (hfits : d'.comms.canReadBuffer.ptr ≤ 72) : Accounted d' where
  queue bus := by
    rw [hlog, filterMap_snoc, filterMap_snoc, List.append_assoc, hqueue, ← List.append_assoc,
      h.queue]
  counter k := by
    rw [hlog, hcounter, h.counter, List.countP_append, List.countP_singleton, UInt32.ofNat_add]
    split
    · rfl
    · rfl
  reads := by
    rw [hlog, List.flatMap_append, List.flatMap_singleton, filterMap_snoc, List.map_append,
      List.flatten_append, ← h.reads, List.append_assoc, hreads, List.append_assoc]
  fits := hfits

/-- What the accounts do not speak of may change. -/
theorem frame {d d' : Driver} (h : Accounted d) (hlog : d'.log = d.log)
    (hqueues : d'.canQueues = d.canQueues) (hcounter : ∀ k : Counter, k.value d' = k.value d)
    (hcomms : d'.comms.canRxQ = d.comms.canRxQ ∧ d'.comms.canReadBuffer = d.comms.canReadBuffer) :
    Accounted d' where
  queue := by
    rw [hlog, hqueues]
    exact h.queue
  counter k := by
    rw [hlog, hcounter]
    exact h.counter k
  reads := by
    rw [hlog, CanComms.pending, hcomms.1, hcomms.2]
    exact h.reads
  fits := by
    rw [hcomms.2]
    exact h.fits

theorem refresh {d : Driver} (h : Accounted d) : Accounted d.refreshCanTxSlotsAvailable :=
  h.frame rfl rfl (fun k => by cases k <;> rfl) ⟨rfl, rfl⟩

/-- An entry that the accounts do not speak of. -/
theorem note {d : Driver} (h : Accounted d) {entry : Entry}
    (hqueue : ∀ bus, takenFrom bus entry = none ∧ acceptedOn bus entry = none)
    (hcounter : ∀ k : Counter, k.counts entry = false)
    (hreads : bytesOf entry = [] ∧ pushed entry = none) : Accounted (d.note entry) := by
  refine h.entry rfl ?_ ?_ ?_ h.fits
  · intro bus
    rw [(hqueue bus).1, (hqueue bus).2]
    exact (List.append_nil _).symm
  · intro k
    rw [hcounter k]
    cases k <;> exact (UInt32.add_zero _).symm
  · rw [hreads.1, hreads.2]
    exact (List.append_nil _).symm

theorem handed {d : Driver} (h : Accounted d) (busNumber : Nat) (packet : CANPacket) :
    Accounted (d.note (.handed busNumber packet)) :=
  h.note (fun _ => ⟨rfl, rfl⟩) (fun k => by cases k <;> rfl) ⟨rfl, rfl⟩

theorem received {d : Driver} (h : Accounted d) (packet : CANPacket) :
    Accounted (d.note (.received packet)) :=
  h.note (fun _ => ⟨rfl, rfl⟩) (fun k => by cases k <;> rfl) ⟨rfl, rfl⟩

theorem rejected {d : Driver} (h : Accounted d) (busNumber : Nat) (packet : CANPacket) :
    Accounted (d.note (.rejected busNumber packet)) :=
  h.note (fun _ => ⟨rfl, rfl⟩) (fun k => by cases k <;> rfl) ⟨rfl, rfl⟩

/-- A push to the receive queue adds the bytes of the packet to those that the
host has still to read, or counts the packet as lost. -/
theorem pushRx {d : Driver} (h : Accounted d) (toPush : CANPacket) :
    Accounted (d.pushRx toPush) := by
  have hqueue := (canPush_spec toPush d.comms.canRxQ).2
  unfold Driver.pushRx
  rcases hpush : canPush toPush d.comms.canRxQ with ⟨ret, q⟩
  rw [hpush] at hqueue
  refine h.entry rfl ?_ ?_ ?_ h.fits
  · intro bus
    cases ret <;> exact (List.append_nil _).symm
  · intro k
    cases k with
    | rxBufferOverflow => cases ret <;> rfl
    | _ => cases ret <;> exact (UInt32.add_zero _).symm
  · cases ret <;> simp_all [bytesOf, pushed, Driver.note, CanComms.pending]

/-- A push to a transmit queue adds the packet, or counts it as lost. -/
theorem pushTx {d : Driver} (h : Accounted d) (bus : Fin 3) (toPush : CANPacket) :
    Accounted (d.pushTx bus toPush) := by
  have hqueue := (canPush_spec toPush (d.canQueues bus)).2
  unfold Driver.pushTx
  rcases hpush : canPush toPush (d.canQueues bus) with ⟨ret, q⟩
  rw [hpush] at hqueue
  refine h.entry rfl ?_ ?_ ?_ h.fits
  · intro b
    by_cases hbus : b = bus
    · subst hbus
      cases ret <;> simp_all [takenFrom, acceptedOn, Driver.note]
    · cases ret <;> simp [takenFrom, acceptedOn, Driver.note, hbus, Ne.symm hbus]
  · intro k
    cases k with
    | txBufferOverflow => cases ret <;> rfl
    | _ => cases ret <;> exact (UInt32.add_zero _).symm
  · cases ret <;> exact (List.append_nil _).symm

/-- The counters of a controller change one by one. -/
theorem count_value {d : Driver} {canNumber : Fin 3} {f : CanHealth → CanHealth}
    {entry : Entry}
    (htx : (f (d.canHealth canNumber)).totalTxCnt = (d.canHealth canNumber).totalTxCnt +
      if Counter.counts (.totalTxCnt canNumber) entry then 1 else 0)
    (herror : (f (d.canHealth canNumber)).totalTxChecksumErrorCnt =
      (d.canHealth canNumber).totalTxChecksumErrorCnt +
        if Counter.counts (.totalTxChecksumErrorCnt canNumber) entry then 1 else 0)
    (hothers : ∀ k : Counter, k.counts entry = true →
      k = .totalTxCnt canNumber ∨ k = .totalTxChecksumErrorCnt canNumber) (k : Counter) :
    k.value (d.count canNumber f) = k.value d + if k.counts entry then 1 else 0 := by
  have hno : ∀ k : Counter, k ≠ .totalTxCnt canNumber → k ≠ .totalTxChecksumErrorCnt canNumber →
      k.counts entry = false := by
    intro k h h'
    by_contra hcounts
    rcases hothers k (by simpa using hcounts) with heq | heq
    · exact h heq
    · exact h' heq
  cases k with
  | totalTxCnt c =>
      by_cases hc : c = canNumber
      · subst hc
        simpa [Counter.value, Driver.count] using htx
      · rw [hno _ (by simpa using hc) (by simp)]
        simp [Counter.value, Driver.count, hc]
  | totalTxChecksumErrorCnt c =>
      by_cases hc : c = canNumber
      · subst hc
        simpa [Counter.value, Driver.count] using herror
      · rw [hno _ (by simp) (by simpa using hc)]
        simp [Counter.value, Driver.count, hc]
  | _ =>
      rw [hno _ (by simp) (by simp)]
      simp [Counter.value, Driver.count]

/-- The oldest packet of a queue is taken out and noted. -/
theorem take {d : Driver} (h : Accounted d) {bus canNumber : Fin 3} {toSend : CANPacket}
    {q : CanRing} (hpop : canPop (d.canQueues bus) = (some toSend, q)) {f : CanHealth → CanHealth}
    {entry : Entry}
    (htaken : ∀ b, takenFrom b entry = if bus = b then some toSend else none)
    (haccepted : ∀ b, acceptedOn b entry = none)
    (hcounter : ∀ k : Counter, k.value (d.count canNumber f) =
      k.value d + if k.counts entry then 1 else 0)
    (hpushed : pushed entry = none) (hbytes : bytesOf entry = []) :
    Accounted (({ d with canQueues := Function.update d.canQueues bus q }.count canNumber f).note
      entry) := by
  obtain ⟨hhead, htail⟩ := canPop_spec (d.canQueues bus)
  rw [hpop] at hhead htail
  have hqueued : (d.canQueues bus).queued = toSend :: q.queued := by
    rw [htail]
    exact (List.cons_head?_tail hhead.symm).symm
  refine h.entry rfl ?_ ?_ ?_ h.fits
  · intro b
    by_cases hbus : bus = b
    · subst hbus
      simp [htaken, haccepted, Driver.note, Driver.count, hqueued]
    · simp [htaken, haccepted, Driver.note, Driver.count, hbus, Ne.symm hbus]
  · intro k
    rw [← hcounter k]
    cases k <;> rfl
  · rw [hpushed, hbytes]
    exact (List.append_nil _).symm

/-- Other counters of a controller. -/
theorem count {d : Driver} (h : Accounted d) {canNumber : Fin 3} {f : CanHealth → CanHealth}
    (htx : ∀ health, (f health).totalTxCnt = health.totalTxCnt)
    (herror : ∀ health, (f health).totalTxChecksumErrorCnt = health.totalTxChecksumErrorCnt) :
    Accounted (d.count canNumber f) := by
  refine h.frame rfl rfl ?_ ⟨rfl, rfl⟩
  intro k
  cases k with
  | totalTxCnt c =>
      by_cases hc : c = canNumber
      · subst hc
        simp [Counter.value, Driver.count, htx]
      · simp [Counter.value, Driver.count, hc]
  | totalTxChecksumErrorCnt c =>
      by_cases hc : c = canNumber
      · subst hc
        simp [Counter.value, Driver.count, herror]
      · simp [Counter.value, Driver.count, hc]
  | _ => rfl

theorem processCan {d : Driver} (h : Accounted d) (canNumber : Fin 3) (hw : Hardware) :
    Accounted (d.processCan canNumber hw) := by
  rcases d.processCan_cases canNumber hw with hsame | ⟨toSend, q, hpop, hpopped⟩
  · rwa [hsame]
  · rw [hpopped]
    apply refresh
    split
    · apply pushRx
      apply h.take hpop
      · intro b
        rfl
      · intro b
        rfl
      · intro k
        apply count_value
        · simp [Counter.counts]
        · simp [Counter.counts]
        · intro k hk
          cases k <;> simp_all [Counter.counts]
      · rfl
      · rfl
    · apply h.take hpop
      · intro b
        rfl
      · intro b
        rfl
      · intro k
        apply count_value
        · simp [Counter.counts]
        · simp [Counter.counts]
        · intro k hk
          cases k <;> simp_all [Counter.counts]
      · rfl
      · rfl

theorem enqueue {d : Driver} (h : Accounted d) (toPush : CANPacket) (busNumber : Nat)
    (hw : Hardware) : Accounted (d.enqueue toPush busNumber hw) := by
  unfold Driver.enqueue
  split
  · exact (h.pushTx _ toPush).processCan _ hw
  · exact h

theorem canSend {d : Driver} (h : Accounted d) (toPush : CANPacket) (busNumber : Nat)
    (skipTxHook : Bool) (hw : Hardware) :
    Accounted (d.canSend toPush busNumber skipTxHook hw) := by
  have hhanded := h.handed busNumber toPush
  have hhook : Accounted ((d.note (.handed busNumber toPush)).runTxHook toPush hw.ts) :=
    hhanded.frame rfl rfl (fun k => by cases k <;> rfl) ⟨rfl, rfl⟩
  unfold Driver.canSend
  simp only
  split
  · exact hhanded.enqueue toPush busNumber hw
  · split
    · exact hhook.enqueue toPush busNumber hw
    · apply pushRx
      apply rejected
      exact hhook.frame rfl rfl (fun k => by cases k <;> rfl) ⟨rfl, rfl⟩

theorem canRx {d : Driver} (h : Accounted d) (canNumber : Fin 3) (frame : RxFrame) (hw : Hardware) :
    Accounted (d.canRx canNumber frame hw) := by
  have hforward : ∀ {d : Driver}, Accounted d → ∀ busNumber,
      Accounted (d.forward canNumber busNumber frame hw) := by
    intro d hd busNumber
    unfold Driver.forward
    simp only
    split
    · apply count
      · exact hd.canSend _ _ true hw
      · intro health
        rfl
      · intro health
        rfl
    · exact hd
  have hhook : ∀ {d : Driver}, Accounted d → ∀ toPush, Accounted (d.runRxHook toPush hw.ts) := by
    intro d hd toPush
    exact hd.frame rfl rfl (fun k => by cases k <;> rfl) ⟨rfl, rfl⟩
  have hraise : ∀ {d : Driver}, Accounted d → Accounted (d.raiseConfig canNumber frame.fifo) := by
    intro d hd
    exact hd.frame rfl rfl (fun k => by cases k <;> rfl) ⟨rfl, rfl⟩
  unfold Driver.canRx
  apply hraise
  apply pushRx
  apply received
  apply hhook
  apply hforward
  apply h.count
  · intro health
    rfl
  · intro health
    rfl

theorem sendAll {d : Driver} (h : Accounted d) (packets : List CANPacket) (hw : Nat → Hardware) :
    Accounted (d.sendAll packets hw) := by
  induction packets generalizing hw d with
  | nil => exact h
  | cons toPush packets ih => exact ih (h.canSend toPush (getBus toPush) false (hw 0)) _

theorem commsCanWrite {d : Driver} (h : Accounted d) (data : List UInt8) (hw : Nat → Hardware) :
    Accounted (d.commsCanWrite data hw) := by
  apply refresh
  apply sendAll
  exact h.frame rfl rfl (fun k => by cases k <;> rfl) ⟨rfl, rfl⟩

theorem commsCanRead {d : Driver} (h : Accounted d) (maxLen : Nat) :
    Accounted (d.commsCanRead maxLen) := by
  have hreads := commsCanRead_reads maxLen h.fits
  have hlog : (d.commsCanRead maxLen).log =
      d.log ++ [.hostRead (Comms.commsCanRead maxLen d.comms).1] := rfl
  refine h.entry hlog ?_ ?_ ?_ hreads.fits
  · intro bus
    exact (List.append_nil _).symm
  · intro k
    cases k <;> exact (UInt32.add_zero _).symm
  · change (Comms.commsCanRead maxLen d.comms).1 ++ (Comms.commsCanRead maxLen d.comms).2.pending =
      d.comms.pending ++ []
    rw [hreads.sent, hreads.kept, List.take_append_drop, List.append_nil]

end Accounted

/-- The event clears a queue. -/
def DriverEvent.clears : DriverEvent → Bool
  | .clearTx _ => true
  | .clearRx => true
  | _ => false

theorem driverStep_accounted {d : Driver} (h : Accounted d) {e : DriverEvent}
    (hclears : e.clears = false) : Accounted (driverStep d e) := by
  cases e with
  | send toPush hw => exact h.canSend toPush (getBus toPush) false hw
  | write data hw => exact h.commsCanWrite data hw
  | spiWrite data hw =>
      change Accounted (d.spiCanWrite data hw).2
      unfold Driver.spiCanWrite
      split
      · apply Accounted.commsCanWrite
        exact h.frame rfl rfl (fun k => by cases k <;> rfl) ⟨rfl, rfl⟩
      · exact h
  | read maxLen => exact h.commsCanRead maxLen
  | processCan canNumber hw => exact h.processCan canNumber hw
  | rx canNumber frame hw => exact h.canRx canNumber frame hw
  | clearTx bus => cases hclears
  | clearRx => cases hclears
  | setOrientation flipped => exact h.frame rfl rfl (fun k => by cases k <;> rfl) ⟨rfl, rfl⟩
  | setDataBitrate param1 param2 hw =>
      change Accounted (d.setDataBitrate param1 param2 hw)
      unfold Driver.setDataBitrate
      split
      · apply Accounted.processCan
        exact h.frame rfl rfl (fun k => by cases k <;> rfl) ⟨rfl, rfl⟩
      · exact h
  | setNonIso param1 param2 hw =>
      apply Accounted.processCan
      exact h.frame rfl rfl (fun k => by cases k <;> rfl) ⟨rfl, rfl⟩
  | main board e => exact h.frame rfl rfl (fun k => by cases k <;> rfl) ⟨rfl, rfl⟩

theorem initialDriver_accounted (main : Main.State) : Accounted (initialDriver main) where
  queue bus := CanRing.queued_eq_nil.mpr rfl |>.symm
  counter k := by cases k <;> rfl
  reads := rfl
  fits := Nat.zero_le _

theorem run_accounted {d : Driver} (h : Accounted d) {events : List DriverEvent}
    (hclears : ∀ e ∈ events, e.clears = false) : Accounted (run driverStep d events) :=
  run_preserves (P := Accounted) (fun _ _ hok hd => driverStep_accounted hd hok)
    (Along.of_forall hclears d) h

/-! ### What is handed over -/

def handedOver : Entry → Option (Nat × CANPacket)
  | .handed busNumber packet => some (busNumber, packet)
  | _ => none

/-- The calls of `can_send` that a log noted. -/
def handedLog (d : Driver) : List (Nat × CANPacket) := d.log.filterMap handedOver

/-- The packets of the host name their buses. -/
def forBus (packet : CANPacket) : Nat × CANPacket := (getBus packet, packet)

/-- The copy of a received frame, where `safety_fwd_hook` names a bus for it. -/
def clearedForward (canNumber : Fin 3) (frame : RxFrame) (d : Driver) : List (Nat × CANPacket) :=
  let busNumber := (d.busConfig canNumber).busLookup
  let toPush := receivedFrame busNumber frame
  let busFwdNum := d.busFwdNum canNumber busNumber toPush
  if busFwdNum ≠ -1 then [((busFwdNum % 256).toNat, forwardedFrame frame.toSend toPush)] else []

/-- What one event hands to `can_send`: packets of the host, or the copy of a frame. -/
def handedBy (d : Driver) : DriverEvent → List (Nat × CANPacket)
  | .send toPush _ => [forBus toPush]
  | .write data _ => (Comms.commsCanWrite data d.comms).1.map forBus
  | .spiWrite data _ =>
      if data.length > 0 ∧ d.spiCanTxReady = true then
        (Comms.commsCanWrite data d.comms).1.map forBus
      else []
  | .rx canNumber frame _ => clearedForward canNumber frame d
  | _ => []

def handedAlong (d : Driver) (events : List DriverEvent) : List (Nat × CANPacket) :=
  (trace driverStep handedBy d events).flatten

theorem handedTo_eq (log : List Entry) :
    log.filterMap handedTo = (log.filterMap handedOver).filter fun handed => handed.1 < 3 := by
  rw [List.filter_filterMap]
  apply List.filterMap_congr
  intro entry _
  cases entry with
  | handed busNumber packet =>
      by_cases hbus : busNumber < 3
      · simp [handedTo, handedOver, Option.filter, hbus]
      · simp [handedTo, handedOver, Option.filter, hbus]
  | _ => rfl

theorem handedLog_note {entry : Entry} (h : handedOver entry = none) (d : Driver) :
    handedLog (d.note entry) = handedLog d := by
  rw [handedLog, Driver.note, filterMap_snoc, h, Option.toList_none, List.append_nil, handedLog]

theorem handedLog_pushRx (toPush : CANPacket) (d : Driver) :
    handedLog (d.pushRx toPush) = handedLog d := by
  unfold Driver.pushRx
  rcases canPush toPush d.comms.canRxQ with ⟨ret, q⟩
  cases ret with
  | false => exact handedLog_note rfl _
  | true => exact handedLog_note rfl _

theorem handedLog_pushTx (bus : Fin 3) (toPush : CANPacket) (d : Driver) :
    handedLog (d.pushTx bus toPush) = handedLog d := by
  unfold Driver.pushTx
  rcases canPush toPush (d.canQueues bus) with ⟨ret, q⟩
  cases ret with
  | false => exact handedLog_note rfl _
  | true => exact handedLog_note rfl _

theorem handedLog_processCan (canNumber : Fin 3) (hw : Hardware) (d : Driver) :
    handedLog (d.processCan canNumber hw) = handedLog d := by
  rcases d.processCan_cases canNumber hw with hsame | ⟨toSend, q, -, hpopped⟩
  · rw [hsame]
  rw [hpopped]
  change handedLog (if _ then _ else _) = _
  split
  · rw [Driver.transmit, handedLog_pushRx, handedLog_note rfl]
    rfl
  · rw [Driver.dropInvalid, handedLog_note rfl]
    rfl

theorem handedLog_enqueue (toPush : CANPacket) (busNumber : Nat) (hw : Hardware) (d : Driver) :
    handedLog (d.enqueue toPush busNumber hw) = handedLog d := by
  unfold Driver.enqueue
  split
  · rw [handedLog_processCan, handedLog_pushTx]
  · rfl

/-- Each call of `can_send` is noted, once. -/
theorem handedLog_canSend (toPush : CANPacket) (busNumber : Nat) (skipTxHook : Bool)
    (hw : Hardware) (d : Driver) :
    handedLog (d.canSend toPush busNumber skipTxHook hw) =
      handedLog d ++ [(busNumber, toPush)] := by
  have hnoted : handedLog (d.note (.handed busNumber toPush)) =
      handedLog d ++ [(busNumber, toPush)] := by
    rw [handedLog, Driver.note, filterMap_snoc]
    rfl
  unfold Driver.canSend
  simp only
  rw [← hnoted]
  split
  · exact handedLog_enqueue _ _ _ _
  · split
    · exact handedLog_enqueue _ _ _ _
    · rw [Driver.reject, handedLog_pushRx, handedLog_note rfl]
      rfl

theorem handedLog_sendAll (packets : List CANPacket) (hw : Nat → Hardware) (d : Driver) :
    handedLog (d.sendAll packets hw) = handedLog d ++ packets.map forBus := by
  induction packets generalizing hw d with
  | nil => exact (List.append_nil _).symm
  | cons toPush packets ih =>
      rw [Driver.sendAll, ih, handedLog_canSend, List.append_assoc]
      rfl

theorem handedLog_forward (canNumber : Fin 3) (frame : RxFrame) (hw : Hardware) (d : Driver) :
    handedLog (d.forward canNumber (d.busConfig canNumber).busLookup frame hw) =
      handedLog d ++ clearedForward canNumber frame d := by
  unfold Driver.forward clearedForward
  dsimp only
  split
  · exact handedLog_canSend _ _ true hw d
  · exact (List.append_nil _).symm

theorem handedLog_canRx (canNumber : Fin 3) (frame : RxFrame) (hw : Hardware) (d : Driver) :
    handedLog (d.canRx canNumber frame hw) =
      handedLog d ++ clearedForward canNumber frame d := by
  unfold Driver.canRx
  dsimp only
  change handedLog (Driver.pushRx _ _) = _
  rw [handedLog_pushRx, handedLog_note rfl]
  exact handedLog_forward canNumber frame hw (d.count canNumber _)

theorem driverStep_handedLog (d : Driver) (e : DriverEvent) :
    handedLog (driverStep d e) = handedLog d ++ handedBy d e := by
  have hnothing : ∀ {d' : Driver}, handedLog d' = handedLog d →
      handedLog d' = handedLog d ++ [] := by
    intro d' h
    rw [h, List.append_nil]
  cases e with
  | send toPush hw => exact handedLog_canSend toPush _ false hw d
  | write data hw => exact handedLog_sendAll _ hw _
  | spiWrite data hw =>
      change handedLog (d.spiCanWrite data hw).2 = _
      unfold Driver.spiCanWrite
      simp only [handedBy]
      split
      · exact handedLog_sendAll _ hw _
      · exact hnothing rfl
  | read maxLen => exact hnothing (handedLog_note rfl _)
  | processCan canNumber hw => exact hnothing (handedLog_processCan canNumber hw d)
  | rx canNumber frame hw => exact handedLog_canRx canNumber frame hw d
  | clearTx bus => exact hnothing rfl
  | clearRx => exact hnothing rfl
  | setOrientation flipped => exact hnothing rfl
  | setDataBitrate param1 param2 hw =>
      apply hnothing
      change handedLog (d.setDataBitrate param1 param2 hw) = _
      unfold Driver.setDataBitrate
      split
      · exact handedLog_processCan _ hw _
      · rfl
  | setNonIso param1 param2 hw => exact hnothing (handedLog_processCan _ hw _)
  | main board e => exact hnothing rfl

/-- The calls that the log noted in a run are those that the events make. -/
theorem run_handedLog (d : Driver) (events : List DriverEvent) :
    handedLog (run driverStep d events) = handedLog d ++ handedAlong d events := by
  induction events generalizing d with
  | nil => exact (List.append_nil _).symm
  | cons e events ih =>
      rw [run_cons, ih, driverStep_handedLog, List.append_assoc]
      rfl

/-! ### Conservation -/

/-- The frames in the mailboxes of a bus are the packets taken from its queue,
without those whose checksum is invalid. -/
theorem writtenTo_eq {log : List Entry} (h : ∀ entry ∈ log, ∃ whole, Sound whole entry)
    (bus : Fin 3) :
    log.filterMap (writtenTo bus) = (log.filterMap (takenFrom bus)).filter canCheckChecksum := by
  induction log with
  | nil => rfl
  | cons entry log ih =>
      obtain ⟨⟨whole, hentry⟩, hlater⟩ := List.forall_mem_cons.mp h
      rw [List.filterMap_cons, List.filterMap_cons, ih hlater]
      cases entry with
      | written b canNumber packet fifo =>
          by_cases hb : b = bus
          · simp [writtenTo, takenFrom, hb, hentry.1]
          · simp [writtenTo, takenFrom, hb]
      | checksumError b canNumber packet =>
          have hinvalid : canCheckChecksum packet = false := hentry
          by_cases hb : b = bus
          · simp [writtenTo, takenFrom, hb, hinvalid]
          · simp [writtenTo, takenFrom, hb]
      | _ => rfl

/-- Every packet that was handed over is accounted for once. -/
structure Conserved (handed : List (Nat × CANPacket)) (d : Driver) : Prop where
  outcomes : d.log.filterMap outcome = handed.filter fun call => call.1 < 3
  balanced : Balanced d.log
  accounted : Accounted d
  written : ∀ bus, ∃ taken, d.log.filterMap (acceptedOn bus) = taken ++ (d.canQueues bus).queued ∧
    taken = d.log.filterMap (takenFrom bus) ∧
    d.log.filterMap (writtenTo bus) = taken.filter canCheckChecksum

/-- In every run without a clear of a queue: each packet handed to `can_send` for
a bus has one outcome, in order; a packet that a queue took is in it, or was
written to a mailbox, in order, if its checksum is valid, and counted as an error
if not; and each echo and each received packet was pushed for the host, or
counted as lost. -/
theorem packet_conservation (main : Main.State) {events : List DriverEvent}
    (hclears : ∀ e ∈ events, e.clears = false) :
    Conserved (handedAlong (initialDriver main) events)
      (run driverStep (initialDriver main) events) := by
  have hbalanced := run_balanced (d := initialDriver main) Balanced.nil events
  have haccounted := run_accounted (initialDriver_accounted main) hclears
  refine ⟨?_, hbalanced, haccounted, ?_⟩
  · rw [← hbalanced.handed, handedTo_eq]
    exact congrArg _ (run_handedLog (initialDriver main) events)
  intro bus
  refine ⟨_, haccounted.queue bus, rfl, ?_⟩
  apply writtenTo_eq
  intro entry hentry
  exact ⟨_, hbalanced.sound entry hentry⟩

/-- The buttons of GM on the first controller. -/
def gmButtonsFrame (buttons : UInt32) : RxFrame where
  fifo :=
    { header0 := 0x7840000
      header1 := 0x70000
      dataWord := [0, buttons <<< 8] }
  fifoFull := false
  toPush := ofStruct []
  toSend := ofStruct []

def gmMain : Main.State := { safety := setSafetyHooks safetyGm 0 bootState }

/-- The set button turns on controls. -/
def gmEngaging : List DriverEvent :=
  [.rx 0 (gmButtonsFrame 0x30) quiet, .rx 0 (gmButtonsFrame 0x10) quiet]

/-- A packet that the safety hook rejects comes next, and the host reads. -/
def gmRejecting : List DriverEvent :=
  gmEngaging ++ [.send (.ofBytes 0x123 1 0 []) quiet, .processCan 1 quiet, .read 64]

theorem packet_conservation_gm :
    Conserved (handedAlong (initialDriver gmMain) gmRejecting)
      (run driverStep (initialDriver gmMain) gmRejecting) := by
  apply packet_conservation
  decide

end Panda.Comms
