import Panda.Comms.Checksums
import Panda.Comms.SpiAccess
import Panda.Comms.TxQueues

/-!
Flow control of the writes over SPI. A write is acknowledged when the transmit
queues were found to have room for the packets of one transfer, which may be long
ago: frames that are forwarded take the room away again.
-/

namespace Panda.Comms

open Library Safety Host

/-! ### One write -/

/-- The packets that the safety hook lets through to the queue of a bus, each with
whether the transmit FIFO is full afterwards. -/
def admitted (bus : Fin 3) : List CANPacket → (Nat → Hardware) → Safety.State → List Bool
  | [], _, _ => []
  | toPush :: packets, hw, s =>
      let later := admitted bus packets (fun i => hw (i + 1)) (safetyTxHook (hw 0).ts toPush s)
      if s.txAccepted (hw 0).ts toPush = true ∧ getBus toPush = bus then (hw 0).txFifoFull :: later
      else later

def RoomFor (packets : List CANPacket) (hw : Nat → Hardware) (d : Driver) : Prop :=
  ∀ bus, HasRoom (d.waiting bus) (admitted bus packets hw d.main.safety)

theorem admitted_length (bus : Fin 3) (packets : List CANPacket) (hw : Nat → Hardware)
    (s : Safety.State) : (admitted bus packets hw s).length ≤ packets.length := by
  induction packets generalizing hw s with
  | nil => exact Nat.le_refl 0
  | cons toPush packets ih =>
      have hlater := ih (fun i => hw (i + 1)) (safetyTxHook (hw 0).ts toPush s)
      rw [admitted, List.length_cons]
      split
      · rw [List.length_cons]
        omega
      · omega

namespace Driver

/-- `can_send` of a packet that is not let through, or is for no bus. -/
theorem canSend_blocked {d : Driver} {toPush : CANPacket} {hw : Hardware}
    (h : ¬ (d.main.safety.txAccepted hw.ts toPush = true ∧ getBus toPush < 3)) :
    let d' := d.canSend toPush (getBus toPush) false hw
    d'.txBufferOverflow = d.txBufferOverflow ∧ d'.canQueues = d.canQueues ∧
      d'.spiCanTxReady = d.spiCanTxReady := by
  have hsend : d.canSend toPush (getBus toPush) false hw =
      if d.main.safety.txAccepted hw.ts toPush = true then
        ((d.note (.handed (getBus toPush) toPush)).runTxHook toPush hw.ts).enqueue toPush
          (getBus toPush) hw
      else ((d.note (.handed (getBus toPush) toPush)).runTxHook toPush hw.ts).reject toPush
          (getBus toPush) := rfl
  by_cases haccepted : d.main.safety.txAccepted hw.ts toPush = true
  · have hbus : ¬ getBus toPush < 3 := fun hlt => h ⟨haccepted, hlt⟩
    rw [hsend, if_pos haccepted, enqueue, dif_neg hbus]
    exact ⟨rfl, rfl, rfl⟩
  · rw [hsend, if_neg haccepted]
    exact ⟨rfl, rfl, rfl⟩

/-- `can_send` of a packet that is let through to a queue. -/
theorem canSend_admitted {d : Driver} {toPush : CANPacket} {hw : Hardware} {bus : Fin 3}
    (haccepted : d.main.safety.txAccepted hw.ts toPush = true) (hbus : getBus toPush = bus) :
    d.canSend toPush (getBus toPush) false hw =
      ((d.note (.handed bus toPush)).runTxHook toPush hw.ts).enqueue toPush bus hw := by
  rw [hbus]
  simp only [canSend, Bool.false_eq_true, if_false]
  exact if_pos haccepted

theorem enqueue_sized {d : Driver} (h : Sized d) (toPush : CANPacket) (busNumber : Nat)
    (hw : Hardware) : Sized (d.enqueue toPush busNumber hw) := by
  unfold enqueue
  split
  · exact (processCan_refreshed _ _ _).sized (pushTx_sized h _ _)
  · exact h

theorem canSend_sized {d : Driver} (h : Sized d) (toPush : CANPacket) (busNumber : Nat)
    (skipTxHook : Bool) (hw : Hardware) : Sized (d.canSend toPush busNumber skipTxHook hw) := by
  unfold canSend
  simp only
  split
  · exact @enqueue_sized (d.note _) h _ _ _
  · split
    · exact @enqueue_sized (Driver.runTxHook _ _ (d.note _)) h _ _ _
    · exact h

theorem sendAll_sized {d : Driver} (h : Sized d) (packets : List CANPacket) (hw : Nat → Hardware) :
    Sized (d.sendAll packets hw) := by
  induction packets generalizing hw d with
  | nil => exact h
  | cons toPush packets ih => exact ih (canSend_sized h _ _ _ _) _

/-- What one packet does to the room of the packets after it. -/
theorem roomFor_cons {d : Driver} (hsized : Sized d) (horiented : Oriented d.busConfig)
    (toPush : CANPacket) (packets : List CANPacket) (hw : Nat → Hardware) :
    let d' := d.canSend toPush (getBus toPush) false (hw 0)
    (d'.txBufferOverflow = d.txBufferOverflow ∧
        (RoomFor (toPush :: packets) hw d ↔ RoomFor packets (fun i => hw (i + 1)) d')) ∨
      (d'.txBufferOverflow = d.txBufferOverflow + 1 ∧ ¬ RoomFor (toPush :: packets) hw d) := by
  have hmain : (d.canSend toPush (getBus toPush) false (hw 0)).main.safety =
      safetyTxHook (hw 0).ts toPush d.main.safety :=
    congrArg Main.State.safety (canSend_main toPush (getBus toPush) (hw 0) d)
  by_cases hlet : d.main.safety.txAccepted (hw 0).ts toPush = true ∧ getBus toPush < 3
  · obtain ⟨haccepted, hlt⟩ := hlet
    have hbus : getBus toPush = (⟨getBus toPush, hlt⟩ : Fin 3) := rfl
    generalize (⟨getBus toPush, hlt⟩ : Fin 3) = bus at hbus
    obtain ⟨hoverflow, hwaiting⟩ := @enqueue_spec
      ((d.note (.handed bus toPush)).runTxHook toPush (hw 0).ts) hsized horiented toPush bus (hw 0)
    rw [← canSend_admitted haccepted hbus] at hoverflow hwaiting
    have hadmitted : admitted bus (toPush :: packets) hw d.main.safety = (hw 0).txFifoFull ::
        admitted bus packets (fun i => hw (i + 1)) (safetyTxHook (hw 0).ts toPush d.main.safety) :=
      if_pos ⟨haccepted, hbus⟩
    by_cases hroom : d.waiting bus < canTxRoom
    · left
      rw [hoverflow]
      refine ⟨(congrArg _ (if_pos hroom)).trans (UInt32.add_zero _), ?_⟩
      apply forall_congr'
      intro b
      rw [hmain, hwaiting hroom b]
      by_cases hb : b = bus
      · subst hb
        rw [hadmitted, hasRoom_cons]
        simp only [hroom, true_and]
        rfl
      · have hother : admitted b (toPush :: packets) hw d.main.safety =
            admitted b packets (fun i => hw (i + 1))
              (safetyTxHook (hw 0).ts toPush d.main.safety) := by
          apply if_neg
          rintro ⟨-, hb'⟩
          exact hb (Fin.ext (hb'.symm.trans hbus))
        rw [hother, if_neg fun h => hb h.1]
        rfl
    · right
      rw [hoverflow]
      refine ⟨congrArg _ (if_neg hroom), ?_⟩
      intro hall
      have hbus := hall bus
      rw [hadmitted, hasRoom_cons] at hbus
      exact hroom hbus.1
  · left
    obtain ⟨hoverflow, hqueues, -⟩ := canSend_blocked hlet
    refine ⟨hoverflow, ?_⟩
    apply forall_congr'
    intro b
    have hother : admitted b (toPush :: packets) hw d.main.safety =
        admitted b packets (fun i => hw (i + 1))
          (safetyTxHook (hw 0).ts toPush d.main.safety) := by
      apply if_neg
      rintro ⟨haccepted, hb⟩
      exact hlet ⟨haccepted, hb ▸ b.isLt⟩
    rw [hmain, hother]
    unfold waiting
    rw [hqueues]

/-- The packets that are dropped are counted, and there are none when there is
room for all that are let through. -/
theorem sendAll_overflow {d : Driver} (hsized : Sized d) (horiented : Oriented d.busConfig)
    (packets : List CANPacket) (hw : Nat → Hardware) :
    ∃ dropped ≤ packets.length,
      (d.sendAll packets hw).txBufferOverflow = d.txBufferOverflow + UInt32.ofNat dropped ∧
      (dropped = 0 ↔ RoomFor packets hw d) := by
  induction packets generalizing hw d with
  | nil =>
      refine ⟨0, Nat.le_refl 0, (UInt32.add_zero _).symm, ?_⟩
      apply iff_of_true rfl
      intro bus h
      exact absurd rfl h
  | cons toPush packets ih =>
      have hsized' := canSend_sized hsized toPush (getBus toPush) false (hw 0)
      have horiented' : Oriented (d.canSend toPush (getBus toPush) false (hw 0)).busConfig := by
        rwa [canSend_busConfig]
      obtain ⟨dropped, hle, hoverflow, hnone⟩ := ih hsized' horiented' fun i => hw (i + 1)
      rw [sendAll, hoverflow, List.length_cons]
      rcases roomFor_cons hsized horiented toPush packets hw with ⟨hsame, hiff⟩ | ⟨hmore, hfull⟩
      · rw [hsame]
        exact ⟨dropped, by omega, rfl, hnone.trans hiff.symm⟩
      · rw [hmore, UInt32.add_assoc]
        refine ⟨dropped + 1, by omega, ?_, iff_of_false (by omega) hfull⟩
        rw [Nat.add_comm dropped 1, UInt32.ofNat_add]
        rfl

/-- The driver when the packets of an acknowledged write go to `can_send`. -/
def started (data : List UInt8) (d : Driver) : Driver :=
  { d with
    spiCanTxReady := false
    comms := (Comms.commsCanWrite data d.comms).2 }

theorem spiCanWrite_cases (data : List UInt8) (hw : Nat → Hardware) (d : Driver) :
    (data.length > 0 ∧ d.spiCanTxReady = true ∧ d.spiCanWrite data hw =
      (true, ((d.started data).sendAll (Comms.commsCanWrite data d.comms).1 hw
        ).refreshCanTxSlotsAvailable)) ∨
    ¬ (data.length > 0 ∧ d.spiCanTxReady = true) ∧ d.spiCanWrite data hw = (false, d) := by
  by_cases h : data.length > 0 ∧ d.spiCanTxReady = true
  · exact .inl ⟨h.1, h.2, if_pos h⟩
  · exact .inr ⟨h, if_neg h⟩

end Driver

/-! ### The link

`spi_rx_done` with this driver behind it: for endpoint 3 it calls the handler when
the driver acknowledges the data, and then both have the same flag.
-/

def Driver.spiHandler (hw : Nat → Hardware) (data : List UInt8) (d : Driver) : Bool × Driver :=
  let d := { d with spiCanTxReady := false }.commsCanWrite data hw
  (d.spiCanTxReady, d)

theorem request_spiCanWrite {device : SpiDevice Driver} {data : List UInt8}
    (hready : device.spiCanTxReady = device.app.spiCanTxReady) (hendpoint : device.spiBufRx 1 = 3)
    (hdata : data = readAt (fun i => device.spiBufRx (spiHeaderSize + i)) 0
      (lengthAt device.spiBufRx 2).toNat) (hw : Nat → Hardware) :
    device.request =
      if (device.app.spiCanWrite data hw).1 then some (.canWrite data) else none := by
  have hlength : data.length > 0 ↔ lengthAt device.spiBufRx 2 > 0 := by
    rw [hdata, readAt_length]
    exact Iff.rfl
  have hthree : (3 : UInt8) ≠ 0 ∧ ¬ ((3 : UInt8) = 1 ∨ (3 : UInt8) = 0x81) ∧ (3 : UInt8) ≠ 2 := by
    decide
  rw [SpiDevice.request, dispatch, hendpoint, if_neg hthree.1, if_neg hthree.2.1, if_neg hthree.2.2,
    if_pos rfl, ← hdata, hready, Driver.spiCanWrite]
  by_cases hsome : data.length > 0
  · rw [if_pos (hlength.mp hsome)]
    cases hset : device.app.spiCanTxReady with
    | true => simp [hsome]
    | false => simp
  · rw [if_neg fun h => hsome (hlength.mpr h)]
    simp [hsome]

theorem respond_spiCanWrite {h : Handlers Driver} {hw : Nat → Hardware}
    (hwrite : h.commsCanWrite = Driver.spiHandler hw) (device : SpiDevice Driver)
    {data : List UInt8} (hacknowledged : (device.app.spiCanWrite data hw).1 = true) :
    (device.respond h (.canWrite data)).app = (device.app.spiCanWrite data hw).2 ∧
      (device.respond h (.canWrite data)).spiCanTxReady =
        (device.app.spiCanWrite data hw).2.spiCanTxReady := by
  have hwritten : h.commsCanWrite data device.app =
      ((device.app.spiCanWrite data hw).2.spiCanTxReady, (device.app.spiCanWrite data hw).2) := by
    rw [hwrite, Driver.spiCanWrite, if_pos]
    · rfl
    · rcases device.app.spiCanWrite_cases data hw with ⟨hdata, hready, -⟩ | ⟨-, hrefused⟩
      · exact ⟨hdata, hready⟩
      · rw [hrefused] at hacknowledged
        cases hacknowledged
  unfold SpiDevice.respond
  simp only [Handlers.handle, hwritten]
  split
  · exact ⟨rfl, rfl⟩
  · exact ⟨rfl, rfl⟩

/-- Data for endpoint 3 with a valid checksum is in the buffer, and the flag of the SPI
driver is the one that the CAN driver has set. -/
structure SpiDevice.WriteReceived (device : SpiDevice Driver) (data : List UInt8) : Prop where
  version : readAt device.spiBufRx 0 7 ≠ versionText
  state : device.spiState = .dataRx
  valid : device.dataValid = true
  endpoint : device.spiBufRx 1 = 3
  data : data =
    readAt (fun i => device.spiBufRx (spiHeaderSize + i)) 0 (lengthAt device.spiBufRx 2).toNat
  ready : device.spiCanTxReady = device.app.spiCanTxReady

/-- `spi_rx_done` acknowledges the write when the driver does and takes its step, and then both
have the same flag again. -/
theorem SpiDevice.WriteReceived.rxDone {h : Handlers Driver} {hw : Nat → Hardware}
    (hwrite : h.commsCanWrite = Driver.spiHandler hw) (info : DeviceId) {device : SpiDevice Driver}
    {data : List UInt8} (hreceived : device.WriteReceived data) :
    device.executes =
        (if (device.app.spiCanWrite data hw).1 then some (.canWrite data) else none) ∧
      (device.spiRxDone h info).app = driverStep device.app (.spiWrite data hw) ∧
      (device.spiRxDone h info).spiCanTxReady = (device.spiRxDone h info).app.spiCanTxReady := by
  have hrequest := request_spiCanWrite hreceived.ready hreceived.endpoint hreceived.data hw
  have htakes : device.takesData = true := by
    simp [SpiDevice.takesData, hreceived.version, hreceived.state, hreceived.valid]
  refine ⟨by rw [SpiDevice.executes, if_pos htakes, hrequest], ?_⟩
  rw [rxDone_data hreceived.version hreceived.state, if_pos hreceived.valid, hrequest]
  cases hacknowledged : (device.app.spiCanWrite data hw).1 with
  | true =>
    have hresponds := respond_spiCanWrite hwrite device.parseHeader hacknowledged
    exact ⟨hresponds.1, hresponds.2.trans (congrArg _ hresponds.1.symm)⟩
  | false =>
    have hsame : driverStep device.app (.spiWrite data hw) = device.app := by
      rcases device.app.spiCanWrite_cases data hw with ⟨-, -, hwritten⟩ | ⟨-, hrefused⟩
      · rw [hwritten] at hacknowledged
        cases hacknowledged
      · exact congrArg Prod.snd hrefused
    exact ⟨hsame.symm, hreceived.ready⟩

/-! ### Chunks -/

def PackedChunk (data : List UInt8) : Prop :=
  ∃ arr chunks, packCanBuffer arr = some chunks ∧ data ∈ chunks

theorem packMessage_length {msg : CanMessage} {bytes : List UInt8}
    (h : packMessage msg = some bytes) : bytes.length ≤ 70 := by
  unfold packMessage at h
  cases hcode : lenToDlc msg.dat.length with
  | none =>
      rw [hcode] at h
      cases h
  | some code =>
      have hmem : msg.dat.length ∈ Host.dlcToLen := by
        rw [lenToDlc, List.findIdx?_eq_some_iff_getElem] at hcode
        obtain ⟨hlt, hlength, -⟩ := hcode
        rw [← beq_iff_eq.mp hlength]
        exact List.getElem_mem hlt
      have hle : ∀ length ∈ Host.dlcToLen, length ≤ 64 := by decide
      have hdat := hle _ hmem
      rw [hcode] at h
      simp only [Option.ite_none_right_eq_some, Option.some.injEq] at h
      rw [← h.2]
      simp only [List.length_append, List.length_cons, List.length_nil]
      omega

theorem packLoop_length {arr : List CanMessage} {snds : List (List UInt8)} {last : List UInt8}
    {chunks : List (List UInt8)} (hsnds : ∀ data ∈ snds, data.length ≤ 326)
    (hlast : last.length ≤ 256) (h : packLoop arr snds last = some chunks) :
    ∀ data ∈ chunks, data.length ≤ 326 := by
  induction arr generalizing snds last with
  | nil =>
      cases h
      intro data hdata
      rcases List.mem_append.mp hdata with hmem | hmem
      · exact hsnds data hmem
      · rw [List.mem_singleton.mp hmem]
        omega
  | cons msg arr ih =>
      rw [packLoop] at h
      cases hbytes : packMessage msg with
      | none =>
          rw [hbytes] at h
          cases h
      | some bytes =>
          have hlength := packMessage_length hbytes
          rw [hbytes] at h
          simp only at h
          split at h
          · refine ih ?_ (by simp) h
            intro data hdata
            rcases List.mem_append.mp hdata with hmem | hmem
            · exact hsnds data hmem
            · rw [List.mem_singleton.mp hmem, List.length_append]
              omega
          · next hshort => exact ih hsnds (Nat.le_of_not_lt hshort) h

theorem PackedChunk.length_le {data : List UInt8} (h : PackedChunk data) : data.length ≤ 326 := by
  obtain ⟨arr, chunks, hchunks, hmem⟩ := h
  exact packLoop_length (List.forall_mem_nil _) (by simp) hchunks data hmem

theorem writeLoop_count (data : List UInt8) (fuel pos : Nat) (b : AsmBuffer) :
    canpacketHeadSize * (writeLoop data fuel pos b).1.length ≤ data.length - pos := by
  induction fuel generalizing pos b with
  | zero => exact Nat.zero_le _
  | succ fuel ih =>
      rw [writeLoop]
      by_cases hpos : pos < data.length
      · rw [if_pos hpos]
        simp only
        split
        · next hfits =>
            have hlater := ih (pos + (canpacketHeadSize + dlcToLen (lenCode (data.getD pos 0)))) b
            rw [List.length_cons, Nat.mul_succ]
            omega
        · apply Nat.le_trans (ih _ _)
          omega
      · rw [if_neg hpos]
        exact Nat.zero_le _

/-- A chunk completes at most one packet, and each other takes at least a header. -/
theorem commsCanWrite_count (data : List UInt8) (s : CanComms) :
    canpacketHeadSize * (commsCanWrite data s).1.length ≤ canpacketHeadSize + data.length := by
  have hloop := writeLoop_count data (data.length + 1) (writeAssemble data s.canWriteBuffer).2.1
    (writeAssemble data s.canWriteBuffer).2.2
  have hassemble : (writeAssemble data s.canWriteBuffer).1.length ≤ 1 := by
    unfold writeAssemble
    split
    · split
      · exact Nat.le_refl 1
      · exact Nat.zero_le 1
    · exact Nat.zero_le 1
  have hparts : (commsCanWrite data s).1 = (writeAssemble data s.canWriteBuffer).1 ++
      (writeLoop data (data.length + 1) (writeAssemble data s.canWriteBuffer).2.1
        (writeAssemble data s.canWriteBuffer).2.2).1 := rfl
  have hhead : canpacketHeadSize = 6 := rfl
  rw [hhead] at hloop ⊢
  rw [hparts, List.length_append]
  omega

def maxPacketsPerChunk : Nat := 55

theorem PackedChunk.count_le {data : List UInt8} (h : PackedChunk data) (s : CanComms) :
    (commsCanWrite data s).1.length ≤ maxPacketsPerChunk := by
  have hlength := h.length_le
  have hcount := commsCanWrite_count data s
  have hhead : canpacketHeadSize = 6 := rfl
  rw [hhead] at hcount
  unfold maxPacketsPerChunk
  omega

/-! ### Runs -/

def NothingDropped (d : Driver) : DriverEvent → Prop
  | .spiWrite data hw => (d.spiCanWrite data hw).1 = true →
      (d.spiCanWrite data hw).2.txBufferOverflow = d.txBufferOverflow
  | _ => True

def Roomy (d : Driver) : DriverEvent → Prop
  | .spiWrite data hw => data.length > 0 → d.spiCanTxReady = true →
      RoomFor (Comms.commsCanWrite data d.comms).1 hw d
  | _ => True

def FromPandaLibrary : DriverEvent → Prop
  | .spiWrite data _ => PackedChunk data
  | _ => True

/-- The queues are as large as they were, and the lookups are those of a harness. -/
structure Wired (d : Driver) : Prop where
  sized : Sized d
  oriented : Oriented d.busConfig

theorem nothingDropped_iff {d : Driver} (h : Wired d) {e : DriverEvent} (he : FromPandaLibrary e) :
    NothingDropped d e ↔ Roomy d e := by
  cases e with
  | spiWrite data hw =>
      have hchunk : PackedChunk data := he
      have hcount := hchunk.count_le d.comms
      change ((d.spiCanWrite data hw).1 = true → (d.spiCanWrite data hw).2.txBufferOverflow = _) ↔
        (data.length > 0 → d.spiCanTxReady = true → _)
      rcases d.spiCanWrite_cases data hw with ⟨hdata, hready, hwrite⟩ | ⟨hrefused, hwrite⟩
      · obtain ⟨dropped, hle, hoverflow, hnone⟩ := @Driver.sendAll_overflow (d.started data)
          h.sized h.oriented (Comms.commsCanWrite data d.comms).1 hw
        have hsame : UInt32.ofNat dropped = 0 ↔ dropped = 0 := by
          rw [← UInt32.toNat_inj, UInt32.toNat_ofNat']
          unfold maxPacketsPerChunk at hcount
          change dropped % 2 ^ 32 = 0 ↔ _
          omega
        have hwritten : (d.spiCanWrite data hw).2.txBufferOverflow =
            d.txBufferOverflow + UInt32.ofNat dropped := by
          rw [hwrite]
          exact hoverflow
        rw [hwritten, UInt32.add_eq_left, hsame, hnone]
        simp only [hwrite, hdata, hready, forall_const]
        exact Iff.rfl
      · rw [hwrite]
        apply iff_of_true
        · intro hack
          cases hack
        · intro hdata hready
          exact absurd ⟨hdata, hready⟩ hrefused
  | _ => exact Iff.rfl

/-- The received frame is not forwarded, and no packet comes from elsewhere than
from SPI. -/
def Unforwarded (d : Driver) : DriverEvent → Prop
  | .send _ _ => False
  | .write _ _ => False
  | .rx canNumber frame _ =>
      let busNumber := (d.busConfig canNumber).busLookup
      d.busFwdNum canNumber busNumber (receivedFrame busNumber frame) = -1
  | _ => True

namespace Driver

/-- What a received frame changes beside its being forwarded. -/
theorem canRx_forward (canNumber : Fin 3) (frame : RxFrame) (hw : Hardware) (d : Driver) :
    ∃ health,
      let forwarded := (d.count canNumber health).forward canNumber
        (d.busConfig canNumber).busLookup frame hw
      let toPush := receivedFrame (d.busConfig canNumber).busLookup frame
      (d.canRx canNumber frame hw).canQueues = forwarded.canQueues ∧
        (d.canRx canNumber frame hw).spiCanTxReady = forwarded.spiCanTxReady ∧
        (d.canRx canNumber frame hw).comms.canWriteBuffer = forwarded.comms.canWriteBuffer ∧
        (d.canRx canNumber frame hw).main = Main.step {} forwarded.main (.rx hw.ts toPush) :=
  ⟨_, rfl, rfl, rfl, rfl⟩

theorem forward_sized {d : Driver} (h : Sized d) (canNumber busNumber : Fin 3) (frame : RxFrame)
    (hw : Hardware) : Sized (d.forward canNumber busNumber frame hw) := by
  unfold forward
  simp only
  split
  · exact canSend_sized h _ _ _ _
  · exact h

end Driver

theorem driverStep_sized {d : Driver} (hsized : Sized d) (e : DriverEvent) :
    Sized (driverStep d e) := by
  cases e with
  | send toPush hw => exact Driver.canSend_sized hsized _ _ _ _
  | write data hw =>
      exact @Driver.sendAll_sized { d with comms := (Comms.commsCanWrite data d.comms).2 }
        hsized _ _
  | spiWrite data hw =>
      change Sized (d.spiCanWrite data hw).2
      rcases d.spiCanWrite_cases data hw with ⟨-, -, hwrite⟩ | ⟨-, hwrite⟩
      · rw [hwrite]
        exact @Driver.sendAll_sized (d.started data) hsized _ _
      · rw [hwrite]
        exact hsized
  | processCan canNumber hw => exact (Driver.processCan_refreshed _ _ _).sized hsized
  | rx canNumber frame hw =>
      obtain ⟨health, hqueues, -, -, -⟩ := d.canRx_forward canNumber frame hw
      intro bus
      change ((d.canRx canNumber frame hw).canQueues bus).fifoSize = _
      rw [hqueues]
      exact @Driver.forward_sized (d.count canNumber health) hsized _ _ _ _ bus
  | clearTx bus => exact (Driver.clearTx_refreshed bus d).sized hsized
  | setDataBitrate param1 param2 hw =>
      change Sized (d.setDataBitrate param1 param2 hw)
      unfold Driver.setDataBitrate
      split
      · exact (Driver.processCan_refreshed _ _ { d with busConfig := _ }).sized hsized
      · exact hsized
  | setNonIso param1 param2 hw =>
      exact (Driver.processCan_refreshed _ _ { d with busConfig := _ }).sized hsized
  | read maxLen => exact hsized
  | clearRx => exact hsized
  | setOrientation flipped => exact hsized
  | main board e => exact hsized

theorem driverStep_wired {d : Driver} (h : Wired d) (e : DriverEvent) : Wired (driverStep d e) := by
  obtain ⟨flipped, hflipped⟩ := h.oriented
  exact ⟨driverStep_sized h.sized e, _, driverStep_oriented hflipped e⟩

theorem initialDriver_wired (main : Main.State) : Wired (initialDriver main) :=
  ⟨fun _ => rfl, false, fun _ => ⟨rfl, rfl⟩⟩

/-- While the flag is set, at most `n` packets were added to a queue since it was
found to have room. -/
def Spare (n : Nat) (d : Driver) : Prop :=
  d.spiCanTxReady = true → ∀ bus, d.waiting bus + maxCanMsgsPerSpiBulkTransfer ≤ canTxRoom + n

theorem Driver.Refreshed.spare {d d' : Driver} {n : Nat} (h : Refreshed d d') (hsized : Sized d)
    (hspare : Spare n d) : Spare n d' := by
  intro hready bus
  rcases h.ready hsized hready with hbefore | hreserved
  · have hle := h.waiting bus
    have hbound := hspare hbefore bus
    omega
  · have hbound := hreserved bus
    omega

namespace Driver

theorem canSend_spare {d : Driver} {n : Nat} (hsized : Sized d) (hspare : Spare n d)
    (toPush : CANPacket) (hw : Hardware) :
    Spare (n + 1) (d.canSend toPush (getBus toPush) false hw) := by
  by_cases hlet : d.main.safety.txAccepted hw.ts toPush = true ∧ getBus toPush < 3
  · obtain ⟨haccepted, hlt⟩ := hlet
    have hbus : getBus toPush = (⟨getBus toPush, hlt⟩ : Fin 3) := rfl
    generalize (⟨getBus toPush, hlt⟩ : Fin 3) = bus at hbus
    have henqueue : ∀ d' : Driver, d'.enqueue toPush bus hw =
        (d'.pushTx bus toPush).processCan (d'.busConfig bus).canNumLookup hw :=
      fun d' => dif_pos bus.isLt
    rw [canSend_admitted haccepted hbus, henqueue]
    have hpushed := (pushTx_spec (d := (d.note (.handed bus toPush)).runTxHook toPush hw.ts)
      hsized bus toPush).2
    refine (processCan_refreshed _ _ _).spare (pushTx_sized hsized _ _) ?_
    intro hready b
    have hbound : d.waiting b + maxCanMsgsPerSpiBulkTransfer ≤ canTxRoom + n := hspare hready b
    have hb := hpushed b
    change _ = if b = bus ∧ d.waiting bus < canTxRoom then d.waiting b + 1 else d.waiting b at hb
    split at hb
    · omega
    · omega
  · obtain ⟨-, hqueues, hready⟩ := canSend_blocked hlet
    intro hset bus
    rw [hready] at hset
    have hbound := hspare hset bus
    unfold waiting at hbound ⊢
    rw [hqueues]
    omega

theorem sendAll_spare {d : Driver} {n : Nat} (hsized : Sized d) (hspare : Spare n d)
    (packets : List CANPacket) (hw : Nat → Hardware) :
    Spare (n + packets.length) (d.sendAll packets hw) := by
  induction packets generalizing hw d n with
  | nil => exact hspare
  | cons toPush packets ih =>
      have hlater := ih (canSend_sized hsized toPush (getBus toPush) false (hw 0))
        (canSend_spare hsized hspare toPush (hw 0)) fun i => hw (i + 1)
      rw [List.length_cons, Nat.add_comm packets.length 1, ← Nat.add_assoc]
      exact hlater

end Driver

/-- Without frames that are forwarded, an event adds to the queues at most the
packets of one transfer after they were found to have room. -/
theorem driverStep_spare {d : Driver} (h : Wired d) (hspare : Spare maxPacketsPerChunk d)
    {e : DriverEvent} (he : FromPandaLibrary e) (hunforwarded : Unforwarded d e) :
    Spare maxPacketsPerChunk (driverStep d e) := by
  have hsized := h.sized
  cases e with
  | send toPush hw => exact hunforwarded.elim
  | write data hw => exact hunforwarded.elim
  | spiWrite data hw =>
      have hchunk : PackedChunk data := he
      have hcount := hchunk.count_le d.comms
      change Spare _ (d.spiCanWrite data hw).2
      rcases d.spiCanWrite_cases data hw with ⟨-, -, hwrite⟩ | ⟨-, hwrite⟩
      · have hnone : Spare 0 (d.started data) := by
          intro hready
          cases hready
        have hsent := Driver.sendAll_spare (d := d.started data) hsized hnone
          (Comms.commsCanWrite data d.comms).1 hw
        rw [Nat.zero_add] at hsent
        rw [hwrite]
        refine (Driver.refresh_refreshed _).spare
          (@Driver.sendAll_sized (d.started data) hsized _ _) ?_
        intro hready bus
        have hbound := hsent hready bus
        omega
      · rw [hwrite]
        exact hspare
  | processCan canNumber hw => exact (Driver.processCan_refreshed _ _ _).spare hsized hspare
  | rx canNumber frame hw =>
      obtain ⟨health, hqueues, hready, -, -⟩ := d.canRx_forward canNumber frame hw
      have hstay : Driver.forward canNumber (d.busConfig canNumber).busLookup frame hw
          (d.count canNumber health) = d.count canNumber health :=
        if_neg (not_not_intro hunforwarded)
      rw [hstay] at hqueues hready
      intro hset bus
      change ((d.canRx canNumber frame hw).canQueues bus).queued.length + _ ≤ _
      rw [hqueues]
      exact hspare (hready.symm.trans hset) bus
  | clearTx bus => exact (Driver.clearTx_refreshed bus d).spare hsized hspare
  | setDataBitrate param1 param2 hw =>
      change Spare _ (d.setDataBitrate param1 param2 hw)
      unfold Driver.setDataBitrate
      split
      · exact (Driver.processCan_refreshed _ _ { d with busConfig := _ }).spare hsized hspare
      · exact hspare
  | setNonIso param1 param2 hw =>
      exact (Driver.processCan_refreshed _ _ { d with busConfig := _ }).spare hsized hspare
  | clearRx => exact (Driver.refresh_refreshed { d with comms := _ }).spare hsized hspare
  | read maxLen => exact hspare
  | setOrientation flipped => exact hspare
  | main board e => exact hspare

theorem roomy_of_spare {d : Driver} (hspare : Spare maxPacketsPerChunk d) {e : DriverEvent}
    (he : FromPandaLibrary e) : Roomy d e := by
  cases e with
  | spiWrite data hw =>
      have hchunk : PackedChunk data := he
      have hcount := hchunk.count_le d.comms
      intro _ hready bus hsome
      have hbound := hspare hready bus
      have hlength := admitted_length bus (Comms.commsCanWrite data d.comms).1 hw d.main.safety
      have hfull := List.count_le_length (a := true)
        (l := (admitted bus (Comms.commsCanWrite data d.comms).1 hw d.main.safety).dropLast)
      rw [List.length_dropLast] at hfull
      unfold maxPacketsPerChunk maxCanMsgsPerSpiBulkTransfer canTxRoom canTxBufferSize at *
      omega
  | _ => trivial

/-- In every run, the writes that are acknowledged drop no packet exactly when each
finds room for the packets in it. They do when no received frame is forwarded:
then the room that was found when the flag was set is enough. A write is what `spi_rx_done`
does with data for endpoint 3. -/
theorem flow_control_iff (main : Main.State) {events : List DriverEvent}
    (hchunks : ∀ e ∈ events, FromPandaLibrary e) :
    (Along driverStep NothingDropped (initialDriver main) events ↔
      Along driverStep Roomy (initialDriver main) events) ∧
    (Along driverStep Unforwarded (initialDriver main) events →
      Along driverStep NothingDropped (initialDriver main) events) ∧
    ∀ {h : Handlers Driver} {hw : Nat → Hardware}, h.commsCanWrite = Driver.spiHandler hw →
      ∀ (info : DeviceId) {device : SpiDevice Driver} {data : List UInt8},
        device.app = run driverStep (initialDriver main) events → device.WriteReceived data →
        device.executes =
            (if (device.app.spiCanWrite data hw).1 then some (.canWrite data) else none) ∧
          (device.spiRxDone h info).app =
            run driverStep (initialDriver main) (events ++ [.spiWrite data hw]) ∧
          (device.spiRxDone h info).spiCanTxReady =
            (device.spiRxDone h info).app.spiCanTxReady := by
  have hiff : Along driverStep NothingDropped (initialDriver main) events ↔
      Along driverStep Roomy (initialDriver main) events := by
    apply along_congr (I := Wired) _ _ (initialDriver_wired main) hchunks
    · intro d e hd _
      exact driverStep_wired hd e
    · intro d e hd he
      exact nothingDropped_iff hd he
  refine ⟨hiff, ?_, ?_⟩
  · intro hunforwarded
    apply hiff.mpr
    have hruns := hunforwarded.and (Along.of_forall hchunks (initialDriver main))
    apply hruns.imp (I := fun d => Wired d ∧ Spare maxPacketsPerChunk d)
    · rintro d e ⟨hstay, he⟩ ⟨hwired, hspare⟩
      exact ⟨driverStep_wired hwired e, driverStep_spare hwired hspare he hstay⟩
    · rintro d e ⟨-, he⟩ ⟨-, hspare⟩
      exact roomy_of_spare hspare he
    · refine ⟨initialDriver_wired main, ?_⟩
      intro hready
      cases hready
  · intro h hw hwrite info device data happ hreceived
    obtain ⟨hexecutes, hdone, hready⟩ := hreceived.rxDone hwrite info
    refine ⟨hexecutes, hdone.trans ?_, hready⟩
    rw [happ, run_append]
    rfl

def toyotaMain : Main.State := { safety := setSafetyHooks safetyToyota 0 bootState }

def displayMessage : CanMessage := ⟨0x412, List.replicate 8 0, 0⟩

def displayChunk : List UInt8 := ((packCanBuffer [displayMessage]).getD []).flatten

theorem displayChunk_packed : PackedChunk displayChunk :=
  ⟨[displayMessage], [displayChunk], by decide, List.mem_singleton_self _⟩

def displayTransfer : Transfer := bulkWriteTransfer 3 displayChunk 0 0

def displayBuffer : Nat → UInt8 :=
  writeAt (fun _ => 0) 0 (displayTransfer.headerPacket ++ displayTransfer.dataPacket)

/-- An SPI device before `spi_rx_done`, with the message in its buffer. -/
def displayDevice (app : Driver) : SpiDevice Driver :=
  { SpiDevice.spiInit app with
    spiBufRx := displayBuffer
    spiState := .dataRx
    spiCanTxReady := app.spiCanTxReady }

theorem displayDevice_received (app : Driver) :
    (displayDevice app).WriteReceived displayChunk where
  version := show readAt displayBuffer 0 7 ≠ versionText by decide
  state := rfl
  valid := show validateChecksum (fun i => displayBuffer (spiHeaderSize + i))
      (lengthAt displayBuffer 2 + 1) = true by decide +kernel
  endpoint := show displayBuffer 1 = 3 by decide
  data := show displayChunk = readAt (fun i => displayBuffer (spiHeaderSize + i)) 0
      (lengthAt displayBuffer 2).toNat by decide +kernel
  ready := rfl

/-- Of the handlers, only the one of the writes does anything. -/
def writeHandlers : Handlers Driver where
  commsControlHandler _ app := .silent false app
  commsCanRead _ app := .silent false app
  commsEndpoint2Write _ app := app
  commsCanWrite := Driver.spiHandler fun _ => quiet

/-- Without such frames a write drops nothing, and a second one is a step of `spi_rx_done`. -/
theorem flow_control_unforwarded :
    let events : List DriverEvent := [.clearTx 0, .spiWrite displayChunk fun _ => quiet]
    let device := displayDevice (run driverStep (initialDriver toyotaMain) events)
    Along driverStep NothingDropped (initialDriver toyotaMain) events ∧
      (device.spiRxDone writeHandlers sampleId).app =
        run driverStep (initialDriver toyotaMain)
          (events ++ [.spiWrite displayChunk fun _ => quiet]) := by
  have hchunks : ∀ e ∈ [.clearTx 0, .spiWrite displayChunk fun _ => quiet],
      FromPandaLibrary e := by
    intro e he
    rcases List.mem_cons.mp he with rfl | hlast
    · trivial
    · rw [List.mem_singleton.mp hlast]
      exact displayChunk_packed
  obtain ⟨-, hunforwarded, hdevice⟩ := flow_control_iff toyotaMain hchunks
  refine ⟨hunforwarded ⟨trivial, trivial, trivial⟩, ?_⟩
  exact (hdevice rfl sampleId rfl (displayDevice_received _)).2.1

/-! ### Frames that are forwarded -/

/-- A frame of the camera that the Toyota mode forwards to the car. -/
def cameraFrame : RxFrame where
  fifo := { header0 := 0, header1 := 0, dataWord := [] }
  fifoFull := false
  toPush := ofStruct []
  toSend := ofStruct []

/-- The flag is set, and then frames of the camera come in while the transmit FIFO
is full. -/
def crowding (frames : Nat) : List DriverEvent :=
  .clearTx 0 :: List.replicate frames (.rx 2 cameraFrame quiet)

/-- After the frames the flag is still set. -/
structure Crowded (frames : Nat) (d : Driver) : Prop where
  sized : Sized d
  oriented : OrientedAs false d.busConfig
  main : d.main = toyotaMain
  canWriteBuffer : d.comms.canWriteBuffer = powerOnComms.canWriteBuffer
  spiCanTxReady : d.spiCanTxReady = true
  waiting : d.waiting 0 = frames

/-- The packet that is forwarded is queued. -/
theorem forward_camera {d : Driver} (hfwd : d.busFwdNum 2 2 (receivedFrame 2 cameraFrame) = 0) :
    ∃ toSend health, d.forward 2 2 cameraFrame quiet =
      ((d.note (.handed 0 toSend)).pushTx 0 toSend).count 2 health := by
  refine ⟨forwardedFrame (ofStruct []) (receivedFrame 2 cameraFrame),
    fun health => { health with totalFwdCnt := health.totalFwdCnt + 1 }, ?_⟩
  unfold Driver.forward
  simp only [hfwd]
  rfl

theorem Crowded.forward {frames : Nat} {d : Driver} (h : Crowded frames d)
    (hroom : frames < canTxRoom) : Crowded (frames + 1) (d.canRx 2 cameraFrame quiet) := by
  have hheard : Main.step {} toyotaMain (.rx 0 (receivedFrame 2 cameraFrame)) = toyotaMain := by
    rfl
  obtain ⟨health, hqueues, hready, hbuffer, hmain⟩ := d.canRx_forward 2 cameraFrame quiet
  have hbus : (d.busConfig 2).busLookup = 2 := (h.oriented 2).1
  rw [hbus] at hqueues hready hbuffer hmain
  have hfwd : (d.count 2 health).busFwdNum 2 2 (receivedFrame 2 cameraFrame) = 0 := by
    change Driver.busFwdNum 2 2 _ { d.count 2 health with main := d.main } = 0
    rw [h.main]
    rfl
  obtain ⟨toSend, later, hforward⟩ := forward_camera hfwd
  have hpushed := (Driver.pushTx_spec (d := (d.count 2 health).note (.handed 0 toSend)) h.sized 0
    toSend).2 0
  rw [hforward] at hqueues hready hbuffer hmain
  refine ⟨driverStep_sized h.sized (.rx 2 cameraFrame quiet),
    driverStep_oriented h.oriented (.rx 2 cameraFrame quiet), ?_, hbuffer.trans h.canWriteBuffer,
    hready.trans h.spiCanTxReady, ?_⟩
  · rw [hmain]
    change Main.step {} d.main (.rx 0 _) = _
    rw [h.main]
    exact hheard
  · have hwaiting : d.waiting 0 = frames := h.waiting
    change Driver.waiting 0 _ = if 0 = (0 : Fin 3) ∧ d.waiting 0 < canTxRoom then d.waiting 0 + 1
      else d.waiting 0 at hpushed
    rw [hwaiting, if_pos ⟨rfl, hroom⟩] at hpushed
    unfold Driver.waiting
    rw [hqueues]
    exact hpushed

theorem crowding_crowded {frames : Nat} (h : frames ≤ canTxRoom) :
    Crowded frames (run driverStep (initialDriver toyotaMain) (crowding frames)) := by
  induction frames with
  | zero =>
      refine ⟨fun bus => ?_, fun i => ⟨rfl, rfl⟩, rfl, rfl, rfl, rfl⟩
      fin_cases bus <;> rfl
  | succ frames ih =>
      have hbefore := ih (Nat.le_of_succ_le h)
      rw [crowding, List.replicate_succ', ← List.cons_append, run_append]
      exact hbefore.forward h

theorem displayMessage_admitted :
    admitted 0 (Comms.commsCanWrite displayChunk powerOnComms).1 (fun _ => quiet)
      toyotaMain.safety = [true] := by
  decide

theorem Crowded.dropped {d : Driver} (h : Crowded canTxRoom d) :
    ¬ NothingDropped d (.spiWrite displayChunk fun _ => quiet) := by
  intro hkept
  have hwired : Wired d := ⟨h.sized, false, h.oriented⟩
  have hchunk : FromPandaLibrary (.spiWrite displayChunk fun _ => quiet) := displayChunk_packed
  have hdata : displayChunk.length > 0 := by decide
  have hroomy := (nothingDropped_iff hwired hchunk).mp hkept hdata h.spiCanTxReady 0
  have hpackets : (Comms.commsCanWrite displayChunk d.comms).1 =
      (Comms.commsCanWrite displayChunk powerOnComms).1 := by
    simp only [Comms.commsCanWrite, h.canWriteBuffer]
  rw [hpackets, h.main, h.waiting, displayMessage_admitted, HasRoom] at hroomy
  simp at hroomy

/-- A queue that forwarded frames filled drops the packet of an acknowledged write. -/
theorem acknowledged_write_dropped :
    ¬ ∀ (main : Main.State) (events : List DriverEvent), (∀ e ∈ events, FromPandaLibrary e) →
      Along driverStep NothingDropped (initialDriver main) events := by
  intro hall
  obtain ⟨frames, hframes⟩ : ∃ frames, frames = canTxRoom := ⟨_, rfl⟩
  have hchunks : ∀ e ∈ crowding frames ++ [.spiWrite displayChunk fun _ => quiet],
      FromPandaLibrary e := by
    intro e he
    rcases List.mem_append.mp he with hbefore | hlast
    · rcases List.mem_cons.mp hbefore with rfl | hframe
      · trivial
      · rw [List.eq_of_mem_replicate hframe]
        trivial
    · rw [List.mem_singleton.mp hlast]
      exact displayChunk_packed
  obtain ⟨-, hlast, -⟩ := along_append.mp (hall toyotaMain _ hchunks)
  have hcrowded := crowding_crowded (Nat.le_of_eq hframes)
  rw [hframes] at hcrowded hlast
  exact hcrowded.dropped hlast

end Panda.Comms
