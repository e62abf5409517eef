import Panda.Comms.Spi
import Panda.Comms.Wire
import Panda.Host.Spi
import Panda.Library.Transition

/-!
The SPI link: `_transfer` on one side, `spi_rx_done` and `spi_tx_done` on the
other. Whatever arrives at either side may be damaged or lost, so what the device
receives and what the host reads are events of their own.
-/

namespace Panda.Comms

open Library
open Host (Transfer Progress Phase)

variable {σ : Type*}

inductive Packet where
  | header (bytes : List UInt8)
  | data (bytes : List UInt8)
deriving DecidableEq

/-- A call of a handler: the try of the host at that time, the call and its
response. -/
structure Execution where
  n : Nat
  request : Request
  response : List UInt8
deriving DecidableEq

/-- Both sides of the link, what is on its way to each, and the calls of handlers
since the transfer began. -/
structure Link (σ : Type*) where
  device : SpiDevice σ
  host : Progress
  toDevice : Option Packet
  toHost : Option (List UInt8)
  executions : List Execution

/-- A step of the host or of the device. The host polls once, with the bytes that
it sees. -/
inductive LinkEvent (σ : Type*) where
  | attempt
  | stop
  | pollHeaderAck (seen : UInt8)
  | pollDataAck (seen : List UInt8)
  | ackTimeout
  | device (e : DeviceEvent σ)

def Link.fail (exc : Host.PandaSpiException) (s : Link σ) : Link σ :=
  { s with host := s.host.fail exc }

/-- The device takes the bytes that arrive, calls a handler or not, and answers. -/
def Link.received (h : Handlers σ) (info : DeviceId) (bytes : List UInt8) (s : Link σ) : Link σ :=
  match s.device.receive bytes with
  | none => s
  | some d =>
      { s with
        device := d.spiRxDone h info
        toDevice := none
        toHost := (d.spiRxDone h info).transmitted
        executions := s.executions ++ d.executes.toList.map fun request =>
          ⟨s.host.n, request, (h.handle d.spiBufTx request d.app).response⟩ }

/-- Damage is detected: each side takes for valid only what the other side sent
it, the header, the data, the acknowledge of the header and the response. -/
def Genuine (t : Transfer) (s : Link σ) : LinkEvent σ → Prop
  | .pollHeaderAck seen =>
      s.host.phase = .headerAck → seen = Host.hack → s.toHost = some [spiHack]
  | .pollDataAck seen =>
      s.host.phase = .dataAck → seen.head? = some Host.dack →
        ∀ response ∈ (t.readResponse seen).toOption, ∃ frame ∈ s.toHost, frame <+: seen
  | .device (.received bytes) =>
      ∀ d ∈ s.device.receive bytes,
        (d.takesHeader = true → s.toDevice = some (.header bytes)) ∧
          (d.takesData = true → s.toDevice = some (.data bytes))
  | _ => True

instance (t : Transfer) (s : Link σ) : (e : LinkEvent σ) → Decidable (Genuine t s e)
  | .attempt | .stop | .ackTimeout => .isTrue trivial
  | .device (.sent _) | .device (.firmware _ _) => .isTrue trivial
  | .pollHeaderAck _ => inferInstanceAs (Decidable (_ → _))
  | .pollDataAck _ => inferInstanceAs (Decidable (_ → _))
  | .device (.received bytes) => inferInstanceAs (Decidable (∀ d ∈ s.device.receive bytes, _ ∧ _))

def addressed (t : Transfer) : Option Request :=
  dispatch t.endpoint (.ofNat t.data.length) (.ofNat t.rxLen) true fun i => t.data.getD i 0

/-! ### The device -/

def Armed (d : SpiDevice σ) : Prop :=
  ∀ offset len, d.dma = some (.mosi offset len) →
    (d.spiState = .header ∧ offset = 0 ∧ len = spiHeaderSize) ∨
      (d.spiState = .dataRx ∧ offset = spiHeaderSize ∧ len = d.spiDataLenMosi.toNat + 1)

theorem armed_of_transmitted {d : SpiDevice σ}
    (h : d.dma = none ∨ ∃ frame, d.transmitted = some frame) : Armed d := by
  intro offset len hdma
  rcases h with hnone | ⟨frame, hframe⟩
  · rw [hnone] at hdma
    cases hdma
  · rw [SpiDevice.transmitted, hdma] at hframe
    cases hframe

theorem spiRxDone_armed (h : Handlers σ) (info : DeviceId) (d : SpiDevice σ) :
    Armed (d.spiRxDone h info) := by
  apply armed_of_transmitted
  cases SpiDevice.spiRxDone_cases h info d with
  | header _ _ _ hsent => exact Or.inr ⟨_, hsent⟩
  | call r _ _ _ hsent =>
      rcases hsent with hnone | hnack | ⟨checksum, hframe⟩
      · exact Or.inl hnone
      · exact Or.inr ⟨_, hnack⟩
      · exact Or.inr ⟨_, hframe⟩
  | reject _ _ hrejects =>
      obtain ⟨-, first, rest, hsent, -⟩ := hrejects
      exact Or.inr ⟨_, hsent⟩

theorem spiTxDone_armed (reset : Bool) (d : SpiDevice σ) : Armed (d.spiTxDone reset) := by
  intro offset len hdma
  unfold SpiDevice.spiTxDone at *
  split_ifs at *
  · cases hdma
    exact Or.inl ⟨rfl, rfl, rfl⟩
  · cases hdma
    exact Or.inr ⟨rfl, rfl, rfl⟩
  · cases hdma
    exact Or.inl ⟨rfl, rfl, rfl⟩

theorem spiInit_armed (app : σ) : Armed (SpiDevice.spiInit app) := by
  intro offset len hdma
  cases hdma
  exact Or.inl ⟨rfl, rfl, rfl⟩

/-- The bytes that arrive are in the buffer, where the state expects them. -/
theorem receive_spec {d d' : SpiDevice σ} {bytes : List UInt8} (hd : Armed d)
    (h : d.receive bytes = some d') :
    ∃ offset, d' = { d with spiBufRx := writeAt d.spiBufRx offset bytes } ∧
      (d.spiState = .header ∧ offset = 0 ∨ d.spiState = .dataRx ∧ offset = spiHeaderSize) := by
  unfold SpiDevice.receive at h
  split at h
  · rename_i offset len hdma
    split at h
    · refine ⟨offset, (Option.some.inj h).symm, ?_⟩
      rcases hd offset len hdma with ⟨hstate, hoffset, -⟩ | ⟨hstate, hoffset, -⟩
      · exact Or.inl ⟨hstate, hoffset⟩
      · exact Or.inr ⟨hstate, hoffset⟩
    · cases h
  · cases h

/-- A header that the device is working on is the header of the transfer. -/
def HeaderTaken (t : Transfer) (d : SpiDevice σ) : Prop :=
  d.spiState = .headerAck ∨ d.spiState = .dataRx → readAt d.spiBufRx 0 7 = t.headerPacket

/-- An acknowledged header of the transfer. -/
theorem headerTaken_received {t : Transfer} {d d' : SpiDevice σ} (hd : Armed d)
    (hreceive : d.receive t.headerPacket = some d') (htakes : d'.takesHeader = true)
    (h : Handlers σ) (info : DeviceId) : HeaderTaken t (d'.spiRxDone h info) := by
  intro _
  obtain ⟨offset, rfl, hstate⟩ := receive_spec hd hreceive
  have hheader : d.spiState = .header := by
    simp only [SpiDevice.takesHeader, Bool.and_eq_true, beq_iff_eq] at htakes
    exact htakes.1.2
  rw [(SpiDevice.spiRxDone_buffer h info _).1]
  rcases hstate with ⟨-, rfl⟩ | ⟨hdata, -⟩
  · exact readAt_writeAt _ 0 t.headerPacket
  · rw [hheader] at hdata
    cases hdata

theorem lengthAt_packed {buf : Nat → UInt8} {offset n : Nat} (hlow : buf offset = .ofNat (n % 256))
    (hhigh : buf (offset + 1) = .ofNat (n / 256 % 256)) : lengthAt buf offset = .ofNat n := by
  apply UInt16.toNat_inj.mp
  rw [lengthAt, hlow, hhigh, UInt16.toNat_or, UInt16.toNat_shiftLeft, UInt16.toNat_ofNat']
  have hshift : (8 : UInt16).toNat % 16 = 8 := rfl
  simp only [UInt8.toNat_toUInt16, UInt8.toNat_ofNat', hshift, Nat.shiftLeft_eq]
  rw [@or_eq_add _ _ 8 (by omega) (by omega)]
  omega

/-- The fields of the header in the buffer. -/
theorem header_fields {t : Transfer} {buf : Nat → UInt8} (h : readAt buf 0 7 = t.headerPacket) :
    buf 1 = t.endpoint ∧ lengthAt buf 2 = .ofNat t.data.length ∧
      lengthAt buf 4 = .ofNat t.rxLen := by
  have hfields : [buf 0, buf 1, buf 2, buf 3, buf 4, buf 5, buf 6] = t.headerPacket := h
  simp only [Transfer.headerPacket, Transfer.headerFields, Host.packUInt16, List.cons_append,
    List.nil_append, List.cons.injEq] at hfields
  obtain ⟨-, hendpoint, hlow, hhigh, hlow', hhigh', -⟩ := hfields
  exact ⟨hendpoint, lengthAt_packed hlow hhigh, lengthAt_packed hlow' hhigh'⟩

/-- A transfer of a function of the handle, and what it asks the device for. -/
inductive HandleCall : Transfer → Request → Prop where
  | controlWrite {request : UInt8} {value index : UInt16} {timeout : Nat}
      {expectDisconnect : Bool} :
      HandleCall (Host.controlWrite request value index timeout expectDisconnect)
        (.control ⟨request, value, index, 0⟩)
  | controlRead {request : UInt8} {value index length : UInt16} {timeout : Nat} :
      HandleCall (Host.controlRead request value index length timeout)
        (.control ⟨request, value, index, length⟩)
  | bulkRead {endpoint : UInt8} {timeout : Nat} (hendpoint : endpoint = 1 ∨ endpoint = 0x81) :
      HandleCall (Host.bulkReadTransfer endpoint timeout) (.canRead (.ofNat Host.xferSize))
  | endpoint2Write {t : Transfer} {data : List UInt8} {timeout : Nat}
      (hmem : t ∈ Host.bulkWrite 2 data timeout) : HandleCall t (.endpoint2Write t.data)
  | canWrite {t : Transfer} {data : List UInt8} {timeout : Nat}
      (hmem : t ∈ Host.bulkWrite 3 data timeout) : HandleCall t (.canWrite t.data)

theorem controlPacketAt_packed (request : UInt8) (value index length : UInt16) :
    controlPacketAt
      (fun i => ([request] ++ Host.packUInt16 value.toNat ++ Host.packUInt16 index.toNat ++
        Host.packUInt16 length.toNat).getD i 0) 0 = ⟨request, value, index, length⟩ := by
  have hvalue := @lengthAt_packed (fun i => ([request] ++ Host.packUInt16 value.toNat ++
    Host.packUInt16 index.toNat ++ Host.packUInt16 length.toNat).getD i 0) 1 value.toNat rfl rfl
  have hindex := @lengthAt_packed (fun i => ([request] ++ Host.packUInt16 value.toNat ++
    Host.packUInt16 index.toNat ++ Host.packUInt16 length.toNat).getD i 0) 3 index.toNat rfl rfl
  have hlength := @lengthAt_packed (fun i => ([request] ++ Host.packUInt16 value.toNat ++
    Host.packUInt16 index.toNat ++ Host.packUInt16 length.toNat).getD i 0) 5 length.toNat rfl rfl
  rw [UInt16.ofNat_toNat] at hvalue hindex hlength
  simp only [controlPacketAt, Nat.zero_add, hvalue, hindex, hlength]
  rfl

theorem toNat_dataLength (t : Transfer) : (UInt16.ofNat t.data.length).toNat = t.data.length := by
  rw [UInt16.toNat_ofNat']
  exact Nat.mod_eq_of_lt t.data_lt

theorem readAt_data (t : Transfer) :
    readAt (fun i => t.data.getD i 0) 0 (UInt16.ofNat t.data.length).toNat = t.data := by
  rw [toNat_dataLength]
  apply List.ext_getElem (readAt_length _ _ _)
  intro i hi hi'
  rw [readAt_getElem, Nat.zero_add, List.getD_eq_getElem _ _ hi']

theorem addressed_endpoint2Write {t : Transfer} (hendpoint : t.endpoint = 2) :
    addressed t = some (.endpoint2Write t.data) := by
  unfold addressed dispatch
  rw [hendpoint, if_neg (by decide), if_neg (by decide), if_pos rfl, readAt_data]

theorem addressed_canWrite {t : Transfer} (hendpoint : t.endpoint = 3) (hdata : t.data ≠ []) :
    addressed t = some (.canWrite t.data) := by
  have hsome : UInt16.ofNat t.data.length > 0 := by
    apply UInt16.lt_iff_toNat_lt.mpr
    rw [toNat_dataLength]
    exact List.length_pos_iff.mpr hdata
  unfold addressed dispatch
  rw [hendpoint, if_neg (by decide), if_neg (by decide), if_neg (by decide), if_pos rfl,
    if_pos hsome, if_pos rfl, readAt_data]

/-- The device is addressed for what the handle was called for. -/
theorem HandleCall.addressed {t : Transfer} {r : Request} (h : HandleCall t r) :
    addressed t = some r := by
  cases h with
  | controlWrite =>
      exact congrArg (fun ctrl => some (Request.control ctrl)) (controlPacketAt_packed _ _ _ 0)
  | controlRead =>
      exact congrArg (fun ctrl => some (Request.control ctrl)) (controlPacketAt_packed _ _ _ _)
  | bulkRead hendpoint =>
      rcases hendpoint with rfl | rfl
      · rfl
      · rfl
  | endpoint2Write hmem => exact addressed_endpoint2Write (Host.bulkWrite_transfer hmem).1
  | canWrite hmem =>
      obtain ⟨hendpoint, hdata⟩ := Host.bulkWrite_transfer hmem
      exact addressed_canWrite hendpoint hdata

/-- With the header and the data of the transfer the device calls the handler that
the transfer is for. -/
theorem executes_addressed {t : Transfer} {d d' : SpiDevice σ} {r : Request} (hd : Armed d)
    (htaken : HeaderTaken t d) (hreceive : d.receive t.dataPacket = some d')
    (hexecutes : d'.executes = some r) : addressed t = some r := by
  obtain ⟨offset, rfl, hoffset⟩ := receive_spec hd hreceive
  unfold SpiDevice.executes at hexecutes
  split at hexecutes
  · rename_i htakes
    have hstate : d.spiState = .dataRx := by
      simp only [SpiDevice.takesData, Bool.and_eq_true, beq_iff_eq] at htakes
      exact htakes.1.2
    rcases hoffset with ⟨hheader, -⟩ | ⟨-, rfl⟩
    · rw [hstate] at hheader
      cases hheader
    · have hbuf : readAt (writeAt d.spiBufRx spiHeaderSize t.dataPacket) 0 7 = t.headerPacket := by
        rw [readAt_writeAt_before _ _ (Nat.le_refl 7)]
        exact htaken (Or.inr hstate)
      obtain ⟨hendpoint, hmosi, hmiso⟩ := header_fields hbuf
      have hready := dispatch_ready hexecutes
      simp only [hendpoint, hmosi, hmiso] at hready
      rw [addressed, ← hready]
      apply dispatch_congr
      intro i hi
      have hlength : i < t.data.length := by
        rw [UInt16.toNat_ofNat'] at hi
        exact Nat.lt_of_lt_of_le hi (Nat.mod_le _ _)
      have hdata : i < t.dataPacket.length := by
        rw [Transfer.dataPacket, List.length_append]
        omega
      rw [writeAt_add _ _ hdata, List.getD_eq_getElem _ _ hlength]
      exact (List.getElem_append_left hlength).symm
  · cases hexecutes

/-! ### The response -/

/-- The response to a call is a frame, unless its length does not fit. -/
theorem sent_call {d : SpiDevice σ} {response frame : List UInt8}
    (hsent : d.dma = none ∨ d.transmitted = some [spiNack] ∨
      ∃ checksum, d.transmitted = some (SpiDevice.responseFrame response checksum))
    (hframe : d.transmitted = some frame) :
    frame = [spiNack] ∨ ∃ checksum, frame = SpiDevice.responseFrame response checksum := by
  rcases hsent with hnone | hnack | ⟨checksum, hresponse⟩
  · rw [SpiDevice.transmitted, hnone] at hframe
    cases hframe
  · rw [hnack] at hframe
    exact Or.inl (Option.some.inj hframe).symm
  · rw [hresponse] at hframe
    exact Or.inr ⟨checksum, (Option.some.inj hframe).symm⟩

end Panda.Comms
