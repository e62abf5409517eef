import Panda.Comms.SpiAccess
import Panda.Library.Transition

/-!
The bounds of the SPI buffers. The lengths of a header are not checked, so what the
driver uses stays in the buffers only when the header asks for little enough.
-/

namespace Panda.Comms

open Library

variable {σ : Type*}

def InBounds (fw : Firmware σ) (info : DeviceId) (d : SpiDevice σ) (e : DeviceEvent σ) : Prop :=
  (match e with
    | .received bytes => ∀ d', d.receive bytes = some d' →
        ∀ a ∈ fw.rxDoneAccesses d', a.Within fw.spiBufSize
    | _ => True) ∧
  DmaWithin fw.spiBufSize (deviceStep fw.handlers info d e).dma

/-- The response that a request asks for fits in `size` bytes with its header and checksum. -/
def Firmware.ResponseWithin (fw : Firmware σ) (size : Nat) (app : σ) : Request → Prop
  | .canRead maxLen => min maxLen.toNat (fw.comms app).pending.length + 4 ≤ size
  | .test len => len.toNat + 4 ≤ size
  | _ => True

def Firmware.ResponseFits (fw : Firmware σ) (app : σ) (r : Request) : Prop :=
  fw.ResponseWithin fw.spiBufSize app r

/-- The lengths of the headers are small enough: that of the data when it is about
to be received, and that of the response when a handler is called for it. -/
def LengthsFit (fw : Firmware σ) (d : SpiDevice σ) : DeviceEvent σ → Prop
  | .received bytes => ∀ d', d.receive bytes = some d' →
      ∀ r, d'.executes = some r → fw.ResponseFits d.app r
  | .sent reset => ∀ len, d.dma = some (.miso len) → d.spiState = .headerAck → reset = false →
      spiHeaderSize + (d.spiDataLenMosi.toNat + 1) ≤ fw.spiBufSize
  | .firmware _ _ => True

/-! ### Calls -/

theorem Firmware.spiBufSize_bounds (fw : Firmware σ) :
    1024 ≤ fw.spiBufSize ∧ fw.spiBufSize ≤ 2048 := by
  unfold Firmware.spiBufSize
  cases fw.build.mcu with
  | stm32f4 => decide
  | stm32h7 => decide

/-- The data that goes to a handler has the length of the header. -/
theorem dispatch_data {spiEndpoint : UInt8} {dataLenMosi dataLenMiso : UInt16} {canTxReady : Bool}
    {buf : Nat → UInt8} {r : Request}
    (h : dispatch spiEndpoint dataLenMosi dataLenMiso canTxReady buf = some r) :
    ∀ data, r = .endpoint2Write data ∨ r = .canWrite data → data.length = dataLenMosi.toNat := by
  intro data hdata
  unfold dispatch at h
  split_ifs at h
  all_goals
    cases h
    rcases hdata with hdata | hdata <;> cases hdata <;> exact readAt_length _ _ _

/-- How long the response of a request is. -/
theorem Firmware.responseWithin_iff (fw : Firmware σ) {size : Nat} (hsize : 68 ≤ size)
    (spiBufTx : Nat → UInt8) (r : Request) (app : σ) :
    (fw.handlers.handle spiBufTx r app).response.length + 4 ≤ size ↔
      fw.ResponseWithin size app r := by
  cases r with
  | control ctrl =>
      obtain ⟨hreturned, hle⟩ := controlExtent_sized fw.build (fw.uart ctrl.param1 app) ctrl
      have hlength := fw.control ctrl app
      have hmax : usbpacketMaxSize = 64 := rfl
      apply iff_of_true _ trivial
      simp only [Handlers.handle]
      omega
  | canRead maxLen =>
      have hreads := commsCanRead_reads maxLen.toNat (fw.fits app)
      simp only [Handlers.handle, fw.canRead, hreads.sent, List.length_take]
      exact Iff.rfl
  | endpoint2Write data =>
      apply iff_of_true _ trivial
      simp only [Handlers.handle, Handled.silent, List.length_nil]
      omega
  | canWrite data =>
      apply iff_of_true _ trivial
      simp only [Handlers.handle, Handled.silent, List.length_nil]
      omega
  | test len =>
      simp only [Handlers.handle, readAt_length]
      exact Iff.rfl

theorem Firmware.responseFits_iff (fw : Firmware σ) (spiBufTx : Nat → UInt8) (r : Request)
    (app : σ) : (fw.handlers.handle spiBufTx r app).response.length + 4 ≤ fw.spiBufSize ↔
      fw.ResponseFits app r := by
  have hsize := fw.spiBufSize_bounds
  exact fw.responseWithin_iff (by omega) spiBufTx r app

theorem responseAccesses_within {size : Nat} (hsize : size < 2 ^ 16) (responseLen : Nat) :
    (∀ a ∈ responseAccesses responseLen, a.Within size) ↔ responseLen + 4 ≤ size := by
  constructor
  · intro h
    have hloop : 0 + min (responseLen + 3) (2 ^ 16) ≤ size :=
      h ⟨.tx, 0, min (responseLen + 3) (2 ^ 16)⟩ (by simp [responseAccesses])
    have hlt : responseLen + 3 < 2 ^ 16 := by omega
    have hmem : ⟨.tx, responseLen + 3, 1⟩ ∈ responseAccesses responseLen := by
      rw [responseAccesses, if_pos hlt]
      exact List.mem_append_right _ (List.mem_singleton_self _)
    exact h _ hmem
  · intro hle a ha
    have hlt : responseLen + 3 < 2 ^ 16 := by omega
    simp only [responseAccesses, if_pos hlt, List.cons_append, List.nil_append, List.mem_cons,
      List.not_mem_nil, or_false] at ha
    unfold Access.Within
    rcases ha with rfl | rfl | rfl
    · simp only
      omega
    · simp only
      omega
    · exact hle

/-- A response that fits goes out from the buffer. -/
theorem respond_dma {h : Handlers σ} {r : Request} {d : SpiDevice σ} {size : Nat}
    (hsize : size < 2 ^ 16) (hfits : (h.handle d.spiBufTx r d.app).response.length + 4 ≤ size) :
    DmaWithin size (d.respond h r).dma := by
  unfold SpiDevice.respond
  generalize h.handle d.spiBufTx r d.app = handled at *
  have hlength :
      (UInt16.ofNat handled.response.length + 4).toNat = handled.response.length + 4 := by
    rw [UInt16.toNat_add, UInt16.toNat_ofNat']
    change (_ % 2 ^ 16 + 4) % 2 ^ 16 = _
    omega
  simp only
  split
  · trivial
  · simp only [SpiDevice.sendResponse, DmaWithin, hlength]
    split
    · omega
    · exact hfits

/-- A handler stays in the buffers when the data was received in them and the
response fits. -/
theorem Firmware.handlerAccesses_within (fw : Firmware σ) {d : SpiDevice σ} {r : Request}
    (hrequest : d.request = some r)
    (hdata : spiHeaderSize + ((lengthAt d.spiBufRx 2).toNat + 1) ≤ fw.spiBufSize)
    (hfits : fw.ResponseFits d.app r) : ∀ a ∈ fw.handlerAccesses d r, a.Within fw.spiBufSize := by
  have hsize := fw.spiBufSize_bounds
  have hlength := dispatch_data hrequest
  have hhead : spiHeaderSize = 7 := rfl
  intro a ha
  unfold Access.Within
  cases r with
  | control ctrl =>
      have hle := (controlExtent_sized fw.build (fw.uart ctrl.param1 d.app) ctrl).2
      have hmax : usbpacketMaxSize = 64 := rfl
      have hpacket : controlPacketSize.toNat = 7 := rfl
      simp only [Firmware.handlerAccesses, List.mem_cons, List.not_mem_nil, or_false] at ha
      rcases ha with rfl | rfl
      · simp only
        omega
      · simp only
        omega
  | canRead maxLen =>
      have hreads := commsCanRead_reads maxLen.toNat (fw.fits d.app)
      have hle : min maxLen.toNat (fw.comms d.app).pending.length + 4 ≤ fw.spiBufSize := hfits
      simp only [Firmware.handlerAccesses, List.mem_cons, List.not_mem_nil, or_false] at ha
      rw [ha]
      simp only [hreads.sent, List.length_take]
      omega
  | endpoint2Write data =>
      have hlength := hlength data (.inl rfl)
      simp only [Firmware.handlerAccesses, List.mem_cons, List.not_mem_nil, or_false] at ha
      rcases ha with rfl | rfl
      · simp only
        omega
      · simp only
        split
        · omega
        · omega
  | canWrite data =>
      have hlength := hlength data (.inr rfl)
      simp only [Firmware.handlerAccesses, List.mem_cons, List.not_mem_nil, or_false] at ha
      rw [ha]
      simp only
      omega
  | test len => cases ha

def DataFits (fw : Firmware σ) (d : SpiDevice σ) : Prop :=
  d.spiState = .dataRx → spiHeaderSize + ((lengthAt d.spiBufRx 2).toNat + 1) ≤ fw.spiBufSize

/-- A call that answers without a handler uses little beside the data. -/
theorem small_within {fw : Firmware σ} {accesses : List Access} {d : SpiDevice σ} {len : Nat}
    (haccesses : ∀ a ∈ accesses, a.first + a.len ≤ spiHeaderSize + 64 ∨ a.Within fw.spiBufSize)
    (hdma : d.dma = some (.miso len)) (hlen : len ≤ 25) :
    (∀ a ∈ accesses, a.Within fw.spiBufSize) ∧ DmaWithin fw.spiBufSize d.dma := by
  have hsize := fw.spiBufSize_bounds
  have hhead : spiHeaderSize = 7 := rfl
  constructor
  · intro a ha
    rcases haccesses a ha with hle | hwithin
    · unfold Access.Within
      omega
    · exact hwithin
  · rw [hdma]
    change len ≤ fw.spiBufSize
    omega

/-- The checksum loop over the data stays in the buffer. -/
theorem DataFits.checked {fw : Firmware σ} {d : SpiDevice σ} (h : DataFits fw d)
    (hstate : d.spiState = .dataRx) :
    spiHeaderSize + (lengthAt d.spiBufRx 2 + 1).toNat ≤ fw.spiBufSize := by
  have hfits := h hstate
  rw [UInt16.toNat_add]
  change spiHeaderSize + ((lengthAt d.spiBufRx 2).toNat + 1) % 2 ^ 16 ≤ _
  omega

/-- A call of a handler stays in the buffers exactly when the response fits. -/
theorem rxDone_call {fw : Firmware σ} {info : DeviceId} {d : SpiDevice σ} {r : Request}
    (hdata : DataFits fw d) (hr : d.executes = some r) :
    ((∀ a ∈ fw.rxDoneAccesses d, a.Within fw.spiBufSize) ∧
      DmaWithin fw.spiBufSize (d.spiRxDone fw.handlers info).dma) ↔ fw.ResponseFits d.app r := by
  have hsize := fw.spiBufSize_bounds
  obtain ⟨hversion, hstate, hvalid, hrequest⟩ := executes_some hr
  have hdone : d.spiRxDone fw.handlers info = d.parseHeader.respond fw.handlers r := by
    rw [rxDone_data hversion hstate, if_pos hvalid, hrequest]
  have haccesses : fw.rxDoneAccesses d = ⟨.rx, 0, spiHeaderSize⟩ ::
      ⟨.rx, spiHeaderSize, (lengthAt d.spiBufRx 2 + 1).toNat⟩ :: (fw.handlerAccesses d r ++
        responseAccesses (fw.handlers.handle d.spiBufTx r d.app).response.length) := by
    simp only [Firmware.rxDoneAccesses, if_neg hversion, hstate, if_pos hvalid, hrequest]
  have hresponse := fw.responseFits_iff d.spiBufTx r d.app
  rw [hdone, haccesses]
  constructor
  · rintro ⟨h, -⟩
    apply hresponse.mp
    apply (responseAccesses_within (by omega) _).mp
    intro a ha
    apply h a
    exact List.mem_cons_of_mem _ (List.mem_cons_of_mem _ (List.mem_append_right _ ha))
  · intro h
    have hshort := hresponse.mpr h
    refine ⟨?_, respond_dma (by omega) hshort⟩
    intro a ha
    rcases List.mem_cons.mp ha with rfl | ha
    · change 0 + 7 ≤ fw.spiBufSize
      omega
    · rcases List.mem_cons.mp ha with rfl | ha
      · exact hdata.checked hstate
      · rcases List.mem_append.mp ha with ha | ha
        · exact fw.handlerAccesses_within hrequest (hdata hstate) h a ha
        · exact (responseAccesses_within (by omega) _).mpr hshort a ha

/-- An answer without a handler stays in the buffers. -/
theorem rxDone_answer {fw : Firmware σ} {info : DeviceId} {d : SpiDevice σ}
    (hdata : DataFits fw d) (hr : d.executes = none) :
    (∀ a ∈ fw.rxDoneAccesses d, a.Within fw.spiBufSize) ∧
      DmaWithin fw.spiBufSize (d.spiRxDone fw.handlers info).dma := by
  by_cases hversion : readAt d.spiBufRx 0 7 = versionText
  · have hdma : (d.spiRxDone fw.handlers info).dma = some (.miso 25) := by
      rw [rxDone_version hversion, SpiDevice.spiVersionPacket_length]
      rfl
    apply small_within _ hdma (Nat.le_refl 25)
    rw [Firmware.rxDoneAccesses, if_pos hversion]
    simp [spiHeaderSize]
  · cases hstate : d.spiState with
    | header =>
        have hdma : (d.spiRxDone fw.handlers info).dma = some (.miso 1) := by
          rw [rxDone_header hversion hstate]
          split
          · rfl
          · rfl
        apply small_within _ hdma (by decide)
        simp [Firmware.rxDoneAccesses, if_neg hversion, hstate, spiHeaderSize]
    | dataRx =>
        have hchecked := hdata.checked hstate
        by_cases hvalid : d.dataValid = true
        · have hrequest : d.request = none := by
            simpa [SpiDevice.executes, SpiDevice.takesData, hversion, hstate, hvalid] using hr
          have hdma : (d.spiRxDone fw.handlers info).dma = some (.miso 1) := by
            rw [rxDone_data hversion hstate, if_pos hvalid, hrequest]
            rfl
          apply small_within _ hdma (by decide)
          simp only [Firmware.rxDoneAccesses, if_neg hversion, hstate, if_pos hvalid, hrequest,
            List.forall_mem_cons]
          exact ⟨.inl (by decide), .inr hchecked, .inl (by decide), List.forall_mem_nil _⟩
        · have hdma : (d.spiRxDone fw.handlers info).dma = some (.miso 1) := by
            rw [rxDone_data hversion hstate, if_neg hvalid]
            rfl
          apply small_within _ hdma (by decide)
          simp only [Firmware.rxDoneAccesses, if_neg hversion, hstate, if_neg hvalid,
            List.forall_mem_cons]
          refine ⟨.inl (by decide), .inr hchecked, .inl (by decide), .inl ?_, .inl (by decide),
            List.forall_mem_nil _⟩
          omega
    | _ =>
        have hdma : (d.spiRxDone fw.handlers info).dma = some (.miso 1) := by
          rw [rxDone_other hversion (by simp [hstate]) (by simp [hstate])]
          rfl
        apply small_within _ hdma (by decide)
        simp [Firmware.rxDoneAccesses, if_neg hversion, hstate, spiHeaderSize]

theorem rxDone_within {fw : Firmware σ} {d : SpiDevice σ} (info : DeviceId)
    (hdata : DataFits fw d) :
    ((∀ a ∈ fw.rxDoneAccesses d, a.Within fw.spiBufSize) ∧
      DmaWithin fw.spiBufSize (d.spiRxDone fw.handlers info).dma) ↔
    ∀ r, d.executes = some r → fw.ResponseFits d.app r := by
  cases hr : d.executes with
  | none =>
      apply iff_of_true (rxDone_answer hdata hr)
      intro r h
      cases h
  | some r =>
      rw [rxDone_call hdata hr]
      constructor
      · rintro h r' ⟨⟩
        exact h
      · intro h
        exact h r rfl

/-! ### Behind the buffers -/

/-- `spi_rx_done` does the same whatever lies behind `spi_buf_rx`, and changes nothing behind
`spi_buf_tx`. -/
structure Contained (fw : Firmware σ) (info : DeviceId) (d : SpiDevice σ) : Prop where
  rx : ∀ buf : Nat → UInt8, (∀ i < fw.spiBufSize, buf i = d.spiBufRx i) →
    SpiDevice.spiRxDone fw.handlers info { d with spiBufRx := buf } =
      { d.spiRxDone fw.handlers info with spiBufRx := buf }
  tx : ∀ i, fw.spiBufSize ≤ i → (d.spiRxDone fw.handlers info).spiBufTx i = d.spiBufTx i

theorem touches_lt {accesses : List Access} {size : Nat} (h : ∀ a ∈ accesses, a.Within size)
    {buffer : SpiBuffer} {i : Nat} (htouched : Touches accesses buffer i) : i < size := by
  obtain ⟨a, ha, -, hfirst, hlast⟩ := htouched
  have hwithin := h a ha
  unfold Access.Within at hwithin
  omega

theorem contained_of_within {fw : Firmware σ} {d : SpiDevice σ} (info : DeviceId)
    (h : ∀ a ∈ fw.rxDoneAccesses d, a.Within fw.spiBufSize) : Contained fw info d where
  rx _ hbuf := rxDone_spiBufRx fw info d fun i htouched => hbuf i (touches_lt h htouched)
  tx _ hi := rxDone_spiBufTx fw info d fun htouched => absurd (touches_lt h htouched) (by omega)

def CallContained (fw : Firmware σ) (info : DeviceId) (d : SpiDevice σ) : DeviceEvent σ → Prop
  | .received bytes => ∀ d', d.receive bytes = some d' → Contained fw info d'
  | _ => True

theorem InBounds.contained {fw : Firmware σ} {info : DeviceId} {d : SpiDevice σ}
    {e : DeviceEvent σ} (h : InBounds fw info d e) : CallContained fw info d e := by
  cases e with
  | received bytes => exact fun d' hd' => contained_of_within info (h.1 d' hd')
  | _ => trivial

/-! ### Runs -/

/-- The transfer in progress stays in its buffer, and the data of the header that is
being answered was received in it. -/
structure Bounded (fw : Firmware σ) (d : SpiDevice σ) : Prop where
  armed : Armed d
  dma : DmaWithin fw.spiBufSize d.dma
  header : d.spiState = .headerAck ∨ d.spiState = .dataRx →
    lengthAt d.spiBufRx 2 = d.spiDataLenMosi
  data : DataFits fw d

theorem Bounded.receive {fw : Firmware σ} {d d' : SpiDevice σ} {bytes : List UInt8}
    (h : Bounded fw d) (hreceive : d.receive bytes = some d') :
    DataFits fw d' ∧ d'.app = d.app := by
  obtain ⟨offset, rfl, hstate⟩ := receive_spec h.armed hreceive
  refine ⟨?_, rfl⟩
  intro hdata
  have hdata : d.spiState = .dataRx := hdata
  rcases hstate with ⟨hheader, -⟩ | ⟨-, rfl⟩
  · rw [hheader] at hdata
    cases hdata
  · have hsame : lengthAt (writeAt d.spiBufRx spiHeaderSize bytes) 2 = lengthAt d.spiBufRx 2 := by
      unfold lengthAt
      rw [writeAt_of_lt _ _ (by decide), writeAt_of_lt _ _ (by decide)]
    change spiHeaderSize + ((lengthAt (writeAt d.spiBufRx spiHeaderSize bytes) 2).toNat + 1) ≤ _
    rw [hsame]
    exact h.data hdata

/-- A step stays in the buffers exactly when the lengths fit. -/
theorem inBounds_iff {fw : Firmware σ} {info : DeviceId} {d : SpiDevice σ} (h : Bounded fw d)
    (e : DeviceEvent σ) : InBounds fw info d e ↔ LengthsFit fw d e := by
  cases e with
  | received bytes =>
      simp only [InBounds, LengthsFit, deviceStep]
      cases hreceive : d.receive bytes with
      | none =>
          apply iff_of_true
          · refine ⟨?_, h.dma⟩
            rintro d' ⟨⟩
          · rintro d' ⟨⟩
      | some d' =>
          obtain ⟨hdata, happ⟩ := h.receive hreceive
          have hwithin := rxDone_within info hdata
          rw [happ] at hwithin
          simp only [Option.some.injEq, forall_eq']
          exact hwithin
  | sent reset =>
      simp only [InBounds, LengthsFit, deviceStep, true_and]
      split
      · next len hdma =>
          have hheader : spiHeaderSize ≤ fw.spiBufSize :=
            Nat.le_trans (by decide) fw.spiBufSize_bounds.1
          rw [hdma]
          simp only [Option.some.injEq, Dma.miso.injEq, forall_eq']
          unfold SpiDevice.spiTxDone
          split
          · next hreset =>
              apply iff_of_true (Nat.le_trans (Nat.le_of_eq (Nat.zero_add _)) hheader)
              intro hack hkeep
              rcases hreset with hnack | hset
              · rw [hack] at hnack
                cases hnack
              · rw [hkeep] at hset
                cases hset
          · next hkeep =>
              have hkeep : reset = false := by simpa using fun hset => hkeep (.inr hset)
              split
              · next hack => simp only [hack, hkeep, forall_const, DmaWithin]
              · next hother =>
                  apply iff_of_true (Nat.le_trans (Nat.le_of_eq (Nat.zero_add _)) hheader)
                  intro hack
                  exact absurd hack hother
      · next hother =>
          apply iff_of_true h.dma
          intro len hdma
          exact absurd hdma (hother len)
  | firmware resumed f =>
      simp only [InBounds, LengthsFit, deviceStep, true_and, iff_true]
      split
      · exact h.dma
      · exact h.dma

theorem spiInit_bounded (fw : Firmware σ) (app : σ) : Bounded fw (SpiDevice.spiInit app) where
  armed := spiInit_armed app
  dma := Nat.le_trans (by decide : 0 + spiHeaderSize ≤ 1024) fw.spiBufSize_bounds.1
  header := by
    intro hstate
    rcases hstate with hstate | hstate
    · cases hstate
    · cases hstate
  data := by
    intro hstate
    cases hstate

/-- After an answer the driver waits for data only if the handler does not return. -/
theorem spiRxDone_waiting (h : Handlers σ) (info : DeviceId) (d : SpiDevice σ)
    (hdata : (d.spiRxDone h info).spiState = .dataRx) : d.spiState = .dataRx := by
  cases SpiDevice.spiRxDone_cases h info d with
  | header _ _ hstate _ =>
      rw [hstate] at hdata
      cases hdata
  | call r _ hexecutes _ _ => exact (executes_some hexecutes).2.1
  | reject _ _ hrejects =>
      rw [hrejects.1] at hdata
      cases hdata

/-- After a transfer to the master the driver waits for a header, or for the data of
the header that it acknowledged. -/
theorem spiTxDone_cases (reset : Bool) (d : SpiDevice σ) :
    (d.spiTxDone reset).spiBufRx = d.spiBufRx ∧
      (d.spiTxDone reset).spiDataLenMosi = d.spiDataLenMosi ∧
      ((d.spiTxDone reset).spiState = .header ∨
        d.spiState = .headerAck ∧ (d.spiTxDone reset).spiState = .dataRx ∧
          (d.spiTxDone reset).dma =
            some (.mosi spiHeaderSize (d.spiDataLenMosi.toNat + 1))) := by
  unfold SpiDevice.spiTxDone
  split
  · exact ⟨rfl, rfl, .inl rfl⟩
  · split
    · next hack => exact ⟨rfl, rfl, .inr ⟨hack, rfl, rfl⟩⟩
    · exact ⟨rfl, rfl, .inl rfl⟩

theorem Bounded.txDone {fw : Firmware σ} {d : SpiDevice σ} (h : Bounded fw d) {reset : Bool}
    (hdma : DmaWithin fw.spiBufSize (d.spiTxDone reset).dma) : Bounded fw (d.spiTxDone reset) := by
  obtain ⟨hbuffer, hlength, hstate⟩ := spiTxDone_cases reset d
  refine ⟨spiTxDone_armed reset d, hdma, ?_, ?_⟩
  · intro hnext
    rw [hbuffer, hlength]
    rcases hstate with hheader | ⟨hack, -, -⟩
    · rw [hheader] at hnext
      rcases hnext with hnext | hnext
      · cases hnext
      · cases hnext
    · exact h.header (.inl hack)
  · intro hnext
    rcases hstate with hheader | ⟨hack, -, hmosi⟩
    · rw [hheader] at hnext
      cases hnext
    · rw [hmosi] at hdma
      rw [hbuffer, h.header (.inl hack)]
      exact hdma

theorem Bounded.rxDone {fw : Firmware σ} {info : DeviceId} {d d' : SpiDevice σ}
    {bytes : List UInt8} (h : Bounded fw d) (hreceive : d.receive bytes = some d')
    (hdma : DmaWithin fw.spiBufSize (d'.spiRxDone fw.handlers info).dma) :
    Bounded fw (d'.spiRxDone fw.handlers info) := by
  obtain ⟨hbuffer, hlength⟩ := SpiDevice.spiRxDone_buffer fw.handlers info d'
  refine ⟨spiRxDone_armed _ _ _, hdma, ?_, ?_⟩
  · intro _
    rw [hbuffer, hlength]
  · intro hnext
    rw [hbuffer]
    exact (h.receive hreceive).1 (spiRxDone_waiting _ _ _ hnext)

theorem Bounded.step {fw : Firmware σ} {info : DeviceId} {d : SpiDevice σ} (h : Bounded fw d)
    {e : DeviceEvent σ} (hbounds : InBounds fw info d e) :
    Bounded fw (deviceStep fw.handlers info d e) := by
  obtain ⟨-, hdma⟩ := hbounds
  cases e with
  | received bytes =>
      simp only [deviceStep] at hdma ⊢
      cases hreceive : d.receive bytes with
      | none => exact h
      | some d' =>
          rw [hreceive] at hdma
          exact h.rxDone hreceive hdma
  | sent reset =>
      simp only [deviceStep] at hdma ⊢
      split at hdma
      · exact h.txDone hdma
      · exact h
  | firmware resumed f =>
      simp only [deviceStep]
      split
      · exact ⟨h.armed, h.dma, h.header, h.data⟩
      · exact ⟨h.armed, h.dma, h.header, h.data⟩

/-- In every run, everything that the driver and its handlers use stays in the
buffers exactly when the lengths of the headers fit all along. What lies behind the
buffers then makes no difference and keeps its values. -/
theorem spi_bounds_iff (fw : Firmware σ) (info : DeviceId) (app : σ)
    (events : List (DeviceEvent σ)) :
    (Along (deviceStep fw.handlers info) (InBounds fw info) (SpiDevice.spiInit app) events ↔
      Along (deviceStep fw.handlers info) (LengthsFit fw) (SpiDevice.spiInit app) events) ∧
    (Along (deviceStep fw.handlers info) (InBounds fw info) (SpiDevice.spiInit app) events →
      Along (deviceStep fw.handlers info) (CallContained fw info) (SpiDevice.spiInit app)
        events) := by
  have hgood : ∀ e ∈ events, True := fun _ _ => trivial
  constructor
  · apply along_congr (I := Bounded fw) _ _ (spiInit_bounded fw app) hgood
    · intro d e h hbounds
      exact h.step hbounds
    · intro d e h _
      exact inBounds_iff h e
  · intro hbounds
    exact hbounds.imp (I := fun _ => True) (fun _ _ _ h => h) (fun _ _ h _ => h.contained) trivial

/-! ### A header without a bound -/

def sampleBuild : Build where
  mcu := .stm32h7
  gitversionSize := 16
  gitversionSize_le := by decide

/-- The CAN handlers on a board without any byte from its serial ports. -/
def sampleFirmware : Firmware CanApp where
  build := sampleBuild
  handlers := canHandlers
    (fun req app =>
      { response := List.replicate (controlExtent sampleBuild none req).2 0
        resumed := false
        app
        response_lt := by
          obtain ⟨hreturned, hle⟩ := controlExtent_sized sampleBuild none req
          rw [List.length_replicate]
          exact Nat.lt_of_le_of_lt (Nat.le_trans hreturned hle) (by decide) })
    fun _ => true
  comms := CanApp.comms
  uart _ _ := none
  fits := CanApp.fits
  canRead _ _ := rfl
  control _ _ := List.length_replicate

def longHeader : List UInt8 := [spiSyncByte, 0, 0xFF, 0xFF, 0, 0, 0xF1]

/-- When it is acknowledged, the transfer of the data is longer than the buffer. -/
theorem spi_bounds_exceeded :
    ¬ ∀ (fw : Firmware CanApp) (info : DeviceId) (app : CanApp)
        (events : List (DeviceEvent CanApp)),
      Along (deviceStep fw.handlers info) (InBounds fw info) (SpiDevice.spiInit app) events := by
  intro hall
  obtain ⟨-, ⟨-, hdma⟩, -⟩ :=
    hall sampleFirmware sampleId sampleApp [.received longHeader, .sent false]
  have hlong : (run (deviceStep sampleFirmware.handlers sampleId) (SpiDevice.spiInit sampleApp)
      [.received longHeader, .sent false]).dma = some (.mosi 7 65536) := by
    decide
  have hwithin : DmaWithin sampleFirmware.spiBufSize (some (.mosi 7 65536)) := hlong ▸ hdma
  revert hwithin
  change ¬ 7 + 65536 ≤ 2048
  decide

end Panda.Comms
