import Panda.Comms.SpiTransfer

/-!
The indices of `spi_buf_rx` and `spi_buf_tx` that `spi_rx_done` of
`board/drivers/spi.h` and the handlers it calls use, and that the model of the
driver uses no others.
-/

namespace Panda.Comms

open Library

/-! ### The firmware -/

inductive Mcu where
  | stm32f4
  | stm32h7

def Mcu.spiBufSize : Mcu → Nat
  | .stm32f4 => 1024
  | .stm32h7 => 2048

def Mcu.numInterrupts : Mcu → Nat
  | .stm32f4 => 102
  | .stm32h7 => 163

def usbpacketMaxSize : Nat := 0x40

/-- `sizeof(struct health_t)`. -/
def healthSize : Nat := 58

/-- `sizeof(can_health_t)`. -/
def canHealthSize : Nat := 64

def provisionChunkLen : Nat := 0x20

/-- What the build fixes: the microcontroller, and the size of `gitversion`, which
is asserted at compile time. -/
structure Build where
  mcu : Mcu
  gitversionSize : Nat
  gitversionSize_le : gitversionSize ≤ usbpacketMaxSize

/-- How many bytes `comms_control_handler` writes to its response, and the length
that it returns. `uart` is the number of bytes that wait in the ring of `param1`,
if there is one. -/
def controlExtent (build : Build) (uart : Option Nat) (req : ControlPacket) : Nat × Nat :=
  let whole (len : Nat) : Nat × Nat := (len, len)
  if req.request = 0xa8 then whole 4
  else if req.request = 0xb2 then whole 2
  else if req.request = 0xc1 then whole 1
  else if req.request = 0xc2 then if req.param1 < 3 then whole canHealthSize else whole 0
  else if req.request = 0xc3 then whole 12
  else if req.request = 0xc4 then
    if req.param1.toNat < build.mcu.numInterrupts then whole 4 else whole 0
  else if req.request = 0xc6 then whole 1
  else if req.request = 0xd0 then
    if req.param1 = 1 then whole 0x10 else whole provisionChunkLen
  else if req.request = 0xd2 then whole healthSize
  else if req.request = 0xd3 ∨ req.request = 0xd4 then whole 64
  else if req.request = 0xd6 then (build.gitversionSize, build.gitversionSize - 1)
  else if req.request = 0xdd then whole 3
  else if req.request = 0xe0 then
    whole (min (uart.getD 0) (min req.length.toNat usbpacketMaxSize))
  else whole 0

/-- What is returned was written, and fits in a packet of USB. -/
def PacketSized (extent : Nat × Nat) : Prop :=
  extent.2 ≤ extent.1 ∧ extent.1 ≤ usbpacketMaxSize

theorem controlExtent_sized (build : Build) (uart : Option Nat) (req : ControlPacket) :
    PacketSized (controlExtent build uart req) := by
  have hversion := build.gitversionSize_le
  have hwhole : ∀ {len : Nat}, len ≤ usbpacketMaxSize → PacketSized (len, len) :=
    fun h => ⟨Nat.le_refl _, h⟩
  have hite : ∀ {c : Prop} [Decidable c] {a b : Nat × Nat}, PacketSized a → PacketSized b →
      PacketSized (if c then a else b) := by
    intro c _ a b ha hb
    split
    · exact ha
    · exact hb
  unfold controlExtent
  repeat' apply hite
  all_goals try exact hwhole (by decide)
  · exact ⟨Nat.sub_le _ 1, hversion⟩
  · apply hwhole
    omega

/-- The firmware behind the driver: its handlers, of which `comms_can_read` acts on
the buffers of `can_comms.h` in its state. -/
structure Firmware (σ : Type*) where
  build : Build
  handlers : Handlers σ
  comms : σ → CanComms
  uart : UInt16 → σ → Option Nat
  fits : ∀ app, (comms app).canReadBuffer.ptr ≤ 72
  canRead : ∀ maxLen app, (handlers.commsCanRead maxLen app).response =
    (commsCanRead maxLen.toNat (comms app)).1
  control : ∀ req app, (handlers.commsControlHandler req app).response.length =
    (controlExtent build (uart req.param1 app) req).2

variable {σ : Type*}

def Firmware.spiBufSize (fw : Firmware σ) : Nat := fw.build.mcu.spiBufSize

/-! ### Accesses -/

inductive SpiBuffer where
  | rx
  | tx
deriving DecidableEq

/-- A stretch of indices that is read or written. -/
structure Access where
  buffer : SpiBuffer
  first : Nat
  len : Nat

def Access.Within (size : Nat) (a : Access) : Prop := a.first + a.len ≤ size

/-- The transfer stays in its buffer. -/
def DmaWithin (size : Nat) : Option Dma → Prop
  | some (.mosi offset len) => offset + len ≤ size
  | some (.miso len) => len ≤ size
  | none => True

/-- What the handler of a request uses. `comms_endpoint2_write` reads the number of
the ring in any case. -/
def Firmware.handlerAccesses (fw : Firmware σ) (d : SpiDevice σ) : Request → List Access
  | .control ctrl =>
      [⟨.rx, spiHeaderSize, controlPacketSize.toNat⟩,
       ⟨.tx, 3, (controlExtent fw.build (fw.uart ctrl.param1 d.app) ctrl).1⟩]
  | .canRead maxLen => [⟨.tx, 3, (commsCanRead maxLen.toNat (fw.comms d.app)).1.length⟩]
  | .endpoint2Write data =>
      let number := d.spiBufRx spiHeaderSize
      let written := data.length ≠ 0 ∧ (fw.uart number.toUInt16 d.app).isSome ∧
        (number < 2 ∨ number ≥ 4)
      [⟨.rx, spiHeaderSize, 1⟩, ⟨.rx, spiHeaderSize + 1, if written then data.length - 1 else 0⟩]
  | .canWrite data => [⟨.rx, spiHeaderSize, data.length⟩]
  | .test _ => []

/-- What the set up of a response uses: its header, the checksum loop with its 16-bit
counter, and the checksum after it. -/
def responseAccesses (responseLen : Nat) : List Access :=
  [⟨.tx, 0, 3⟩, ⟨.tx, 0, min (responseLen + 3) (2 ^ 16)⟩] ++
    if responseLen + 3 < 2 ^ 16 then [⟨.tx, responseLen + 3, 1⟩] else []

/-- What `spi_rx_done` uses, and the handler that it calls. -/
def Firmware.rxDoneAccesses (fw : Firmware σ) (d : SpiDevice σ) : List Access :=
  ⟨.rx, 0, spiHeaderSize⟩ ::
    if readAt d.spiBufRx 0 7 = versionText then [⟨.tx, 0, 25⟩]
    else
      match d.spiState with
      | .header => [⟨.rx, 0, spiHeaderSize⟩, ⟨.tx, 0, 1⟩]
      | .dataRx =>
          ⟨.rx, spiHeaderSize, (lengthAt d.spiBufRx 2 + 1).toNat⟩ ::
            if d.dataValid then
              match d.request with
              | some r => fw.handlerAccesses d r ++
                  responseAccesses (fw.handlers.handle d.spiBufTx r d.app).response.length
              | none => [⟨.tx, 0, 1⟩]
            else [⟨.rx, 0, spiHeaderSize⟩,
              ⟨.rx, spiHeaderSize, min (lengthAt d.spiBufRx 2).toNat 64⟩, ⟨.tx, 0, 1⟩]
      | _ => [⟨.tx, 0, 1⟩]

/-! ### Branches of `spi_rx_done` -/

section Branches

variable {h : Handlers σ} {info : DeviceId} {d : SpiDevice σ}

theorem rxDone_version (hversion : readAt d.spiBufRx 0 7 = versionText) :
    d.spiRxDone h info =
      SpiDevice.sendResponse (.ofNat (spiVersionPacket info).length) .headerNack false
        { d.parseHeader with spiBufTx := writeAt d.spiBufTx 0 (spiVersionPacket info) } :=
  if_pos hversion

theorem rxDone_header (hversion : readAt d.spiBufRx 0 7 ≠ versionText)
    (hstate : d.spiState = .header) : d.spiRxDone h info =
      if d.headerValid then d.parseHeader.sendByte spiHack .headerAck true
      else d.parseHeader.sendByte spiNack .headerNack (validateChecksum d.spiBufRx 7) := by
  have hstate' : d.parseHeader.spiState = .header := hstate
  refine (if_neg hversion).trans ?_
  simp only [hstate']
  rfl

theorem rxDone_data (hversion : readAt d.spiBufRx 0 7 ≠ versionText)
    (hstate : d.spiState = .dataRx) : d.spiRxDone h info =
      if d.dataValid then
        match d.request with
        | some r => d.parseHeader.respond h r
        | none => d.parseHeader.sendByte spiNack .headerNack true
      else d.parseHeader.sendByte spiNack .headerNack false := by
  have hstate' : d.parseHeader.spiState = .dataRx := hstate
  refine (if_neg hversion).trans ?_
  simp only [hstate']
  rfl

theorem rxDone_other (hversion : readAt d.spiBufRx 0 7 ≠ versionText)
    (hheader : d.spiState ≠ .header) (hdata : d.spiState ≠ .dataRx) :
    d.spiRxDone h info = SpiDevice.sendResponse 0 .headerNack false d.parseHeader := by
  refine (if_neg hversion).trans ?_
  cases hstate : d.spiState with
  | header => exact absurd hstate hheader
  | dataRx => exact absurd hstate hdata
  | _ =>
      have hstate' : d.parseHeader.spiState = _ := hstate
      simp only [hstate']

end Branches

theorem executes_some {d : SpiDevice σ} {r : Request} (h : d.executes = some r) :
    readAt d.spiBufRx 0 7 ≠ versionText ∧ d.spiState = .dataRx ∧ d.dataValid = true ∧
      d.request = some r := by
  unfold SpiDevice.executes at h
  split at h
  · next htakes =>
      simp only [SpiDevice.takesData, Bool.and_eq_true, bne_iff_ne, beq_iff_eq] at htakes
      exact ⟨htakes.1.1, htakes.1.2, htakes.2, h⟩
  · cases h

/-! ### What is touched

The accesses are those of the model: a byte of `spi_buf_tx` outside of them keeps its
value, and a byte of `spi_buf_rx` outside of them makes no difference.
-/

def Touches (accesses : List Access) (buffer : SpiBuffer) (i : Nat) : Prop :=
  ∃ a ∈ accesses, a.buffer = buffer ∧ a.first ≤ i ∧ i < a.first + a.len

theorem checksumLoop_congr {data data' : Nat → UInt8} {len : Nat}
    (h : ∀ i < len, data i = data' i) (fuel : Nat) (i : UInt16) (checksum : UInt8) :
    checksumLoop data len fuel i checksum = checksumLoop data' len fuel i checksum := by
  induction fuel generalizing i checksum with
  | zero => rfl
  | succ fuel ih =>
      rw [checksumLoop, checksumLoop]
      split
      · next hlt =>
          rw [h _ hlt]
          exact ih _ _
      · rfl

theorem validateChecksum_congr {data data' : Nat → UInt8} {len : UInt16}
    (h : ∀ i < len.toNat, data i = data' i) :
    validateChecksum data len = validateChecksum data' len := by
  unfold validateChecksum spiChecksum
  rw [checksumLoop_congr h]

/-- The length of data with a valid checksum did not wrap around. -/
theorem dataValid_length {d : SpiDevice σ} (h : d.dataValid = true) :
    (lengthAt d.spiBufRx 2).toNat < (lengthAt d.spiBufRx 2 + 1).toNat := by
  have hnone : ∀ data, validateChecksum data 0 = false := fun data => rfl
  unfold SpiDevice.dataValid at h
  generalize lengthAt d.spiBufRx 2 = len at *
  have hlt := len.toNat_lt
  have hsucc : (len + 1).toNat = (len.toNat + 1) % 2 ^ 16 := UInt16.toNat_add len 1
  by_cases hlast : len.toNat = 2 ^ 16 - 1
  · have hwrapped : len + 1 = 0 := by
      apply UInt16.toNat_inj.mp
      rw [hsucc, hlast]
      rfl
    rw [hwrapped, hnone] at h
    cases h
  · omega

theorem respond_spiBufRx (h : Handlers σ) (r : Request) (d : SpiDevice σ) (buf : Nat → UInt8) :
    SpiDevice.respond h r { d with spiBufRx := buf } =
      { d.respond h r with spiBufRx := buf } := by
  unfold SpiDevice.respond
  simp only
  split
  · rfl
  · rfl

/-- Two buffers with the same header. -/
theorem header_congr {buf buf' : Nat → UInt8} (h : ∀ i < 7, buf i = buf' i) :
    readAt buf 0 7 = readAt buf' 0 7 ∧ lengthAt buf 2 = lengthAt buf' 2 ∧
      lengthAt buf 4 = lengthAt buf' 4 := by
  refine ⟨?_, ?_, ?_⟩
  · apply readAt_congr
    intro i hi
    rw [Nat.zero_add]
    exact h i hi
  · unfold lengthAt
    rw [h 2 (by decide), h (2 + 1) (by decide)]
  · unfold lengthAt
    rw [h 4 (by decide), h (4 + 1) (by decide)]

/-- Data with a valid checksum is read up to the length of the header. -/
theorem dataValid_touches {fw : Firmware σ} {d : SpiDevice σ}
    (hversion : readAt d.spiBufRx 0 7 ≠ versionText) (hstate : d.spiState = .dataRx) {i : Nat}
    (hi : i < (lengthAt d.spiBufRx 2 + 1).toNat) :
    Touches (fw.rxDoneAccesses d) .rx (spiHeaderSize + i) := by
  refine ⟨⟨.rx, spiHeaderSize, (lengthAt d.spiBufRx 2 + 1).toNat⟩, ?_, rfl,
    Nat.le_add_right _ i, ?_⟩
  · simp only [Firmware.rxDoneAccesses, if_neg hversion, hstate]
    exact List.mem_cons_of_mem _ List.mem_cons_self
  · exact Nat.add_lt_add_left hi _

theorem rxDone_spiBufRx (fw : Firmware σ) (info : DeviceId) (d : SpiDevice σ) {buf : Nat → UInt8}
    (h : ∀ i, Touches (fw.rxDoneAccesses d) .rx i → buf i = d.spiBufRx i) :
    SpiDevice.spiRxDone fw.handlers info { d with spiBufRx := buf } =
      { d.spiRxDone fw.handlers info with spiBufRx := buf } := by
  have hhead : ∀ i < 7, buf i = d.spiBufRx i := by
    intro i hi
    apply h i
    refine ⟨⟨.rx, 0, spiHeaderSize⟩, List.mem_cons_self, rfl, Nat.zero_le i, ?_⟩
    exact (Nat.zero_add 7).symm ▸ hi
  obtain ⟨hread, hmosi, hmiso⟩ := header_congr hhead
  have hparsed : SpiDevice.parseHeader { d with spiBufRx := buf } =
      { d.parseHeader with spiBufRx := buf } := by
    simp only [SpiDevice.parseHeader, hmosi]
  by_cases hversion : readAt d.spiBufRx 0 7 = versionText
  · have hversion' : readAt buf 0 7 = versionText := hread.trans hversion
    rw [rxDone_version hversion, rxDone_version hversion', hparsed]
    rfl
  · have hversion' : readAt buf 0 7 ≠ versionText := fun heq => hversion (hread.symm.trans heq)
    by_cases hheader : d.spiState = .header
    · have hchecksum : validateChecksum buf 7 = validateChecksum d.spiBufRx 7 :=
        validateChecksum_congr hhead
      have hvalid : SpiDevice.headerValid { d with spiBufRx := buf } = d.headerValid := by
        simp only [SpiDevice.headerValid, hchecksum, hhead 0 (by decide)]
      rw [rxDone_header hversion hheader,
        @rxDone_header _ _ _ { d with spiBufRx := buf } hversion' hheader, hparsed, hvalid,
        hchecksum]
      split
      · rfl
      · rfl
    · by_cases hdata : d.spiState = .dataRx
      · have hbytes : ∀ i < (lengthAt d.spiBufRx 2 + 1).toNat,
            buf (spiHeaderSize + i) = d.spiBufRx (spiHeaderSize + i) := by
          intro i hi
          exact h _ (dataValid_touches hversion hdata hi)
        have hvalid : SpiDevice.dataValid { d with spiBufRx := buf } = d.dataValid := by
          simp only [SpiDevice.dataValid, hmosi]
          exact validateChecksum_congr hbytes
        rw [rxDone_data hversion hdata,
          @rxDone_data _ _ _ { d with spiBufRx := buf } hversion' hdata, hparsed, hvalid]
        split
        · next hset =>
            have hrequest : SpiDevice.request { d with spiBufRx := buf } = d.request := by
              simp only [SpiDevice.request, hmosi, hmiso, hhead 1 (by decide)]
              apply dispatch_congr
              intro i hi
              exact hbytes i (Nat.lt_trans hi (dataValid_length hset))
            rw [hrequest]
            split
            · exact respond_spiBufRx _ _ _ _
            · rfl
        · rfl
      · rw [rxDone_other hversion hheader hdata,
          @rxDone_other _ _ _ { d with spiBufRx := buf } hversion' hheader hdata, hparsed]
        rfl

/-- The response of a handler is written where the handler writes. The test endpoint
sends what is there. -/
theorem response_spiBufTx (fw : Firmware σ) (d : SpiDevice σ) (r : Request) {i : Nat}
    (h : ¬ Touches (fw.handlerAccesses d r) .tx i) :
    writeAt d.spiBufTx 3 (fw.handlers.handle d.spiBufTx r d.app).response i = d.spiBufTx i := by
  have hmissed : ∀ {xs : List UInt8} {len : Nat}, xs.length ≤ len →
      ⟨.tx, 3, len⟩ ∈ fw.handlerAccesses d r → writeAt d.spiBufTx 3 xs i = d.spiBufTx i := by
    intro xs len hle hmem
    by_cases hbefore : i < 3
    · exact writeAt_of_lt _ _ hbefore
    · apply writeAt_of_le
      by_contra hin
      exact h ⟨_, hmem, rfl, by simp only; omega, by simp only; omega⟩
  cases r with
  | control ctrl =>
      have hle := (controlExtent_sized fw.build (fw.uart ctrl.param1 d.app) ctrl).1
      apply hmissed _ (List.mem_cons_of_mem _ List.mem_cons_self)
      exact Nat.le_trans (Nat.le_of_eq (fw.control ctrl d.app)) hle
  | canRead maxLen =>
      apply hmissed _ List.mem_cons_self
      exact Nat.le_of_eq (congrArg List.length (fw.canRead maxLen d.app))
  | endpoint2Write data => simp [Handlers.handle, Handled.silent, writeAt]
  | canWrite data => simp [Handlers.handle, Handled.silent, writeAt]
  | test len =>
      simp only [Handlers.handle]
      unfold writeAt
      split
      · next hle =>
          by_cases hlt : i - 3 < (readAt d.spiBufTx 3 len.toNat).length
          · rw [List.getD_eq_getElem _ _ hlt, readAt_getElem]
            congr 1
            omega
          · exact List.getD_eq_default _ _ (Nat.le_of_not_lt hlt)
      · rfl

theorem sendResponse_spiBufTx (responseLen : UInt16) (nextRxState : SpiState) (checksumValid : Bool)
    (d : SpiDevice σ) {i : Nat} (hi : 0 < i) :
    (SpiDevice.sendResponse responseLen nextRxState checksumValid d).spiBufTx i = d.spiBufTx i := by
  simp only [SpiDevice.sendResponse]
  split
  · exact writeAt_of_le _ hi
  · rfl

theorem respond_spiBufTx (fw : Firmware σ) (d : SpiDevice σ) (r : Request) {i : Nat}
    (h : ¬ Touches (fw.handlerAccesses d r ++
      responseAccesses (fw.handlers.handle d.spiBufTx r d.app).response.length) .tx i) :
    (d.respond fw.handlers r).spiBufTx i = d.spiBufTx i := by
  have hresponse : ¬ Touches (fw.handlerAccesses d r) .tx i := by
    rintro ⟨a, ha, hin⟩
    exact h ⟨a, List.mem_append_left _ ha, hin⟩
  have hwritten := response_spiBufTx fw d r hresponse
  have hlt := (fw.handlers.handle d.spiBufTx r d.app).response_lt
  unfold SpiDevice.respond
  generalize fw.handlers.handle d.spiBufTx r d.app = handled at *
  have hmissed : ∀ a ∈ responseAccesses handled.response.length, ¬ (a.buffer = .tx ∧ a.first ≤ i ∧
      i < a.first + a.len) := by
    intro a ha hin
    exact h ⟨a, List.mem_append_right _ ha, hin⟩
  have hhead : 3 ≤ i := by
    have hout := hmissed ⟨.tx, 0, 3⟩ (by simp [responseAccesses])
    simp only [true_and] at hout
    omega
  have hlength : (UInt16.ofNat handled.response.length).toNat = handled.response.length := by
    rw [UInt16.toNat_ofNat']
    exact Nat.mod_eq_of_lt hlt
  have hset : ∀ xs : List UInt8, xs.length = 3 →
      writeAt (writeAt d.spiBufTx 3 handled.response) 0 xs i = d.spiBufTx i := by
    intro xs hxs
    rw [writeAt_of_le _ (by omega)]
    exact hwritten
  simp only [hlength]
  split
  · exact hset _ rfl
  · next checksum hchecksum =>
      have hbound := spiChecksum_bound hchecksum
      have hout := hmissed ⟨.tx, handled.response.length + 3, 1⟩
        (by rw [responseAccesses, if_pos hbound]; simp)
      have hloop := hmissed ⟨.tx, 0, min (handled.response.length + 3) (2 ^ 16)⟩
        (by simp [responseAccesses])
      simp only [true_and] at hout hloop
      rw [sendResponse_spiBufTx _ _ _ _ (by omega)]
      have hafter : handled.response.length + 3 + [checksum].length ≤ i := by
        simp only [List.length_singleton]
        omega
      exact (writeAt_of_le _ hafter).trans (hset _ rfl)

/-- A byte of `spi_buf_tx` that `spi_rx_done` does not touch keeps its value. -/
theorem rxDone_spiBufTx (fw : Firmware σ) (info : DeviceId) (d : SpiDevice σ) {i : Nat}
    (h : ¬ Touches (fw.rxDoneAccesses d) .tx i) :
    (d.spiRxDone fw.handlers info).spiBufTx i = d.spiBufTx i := by
  have hmissed : ∀ a ∈ fw.rxDoneAccesses d, ¬ (a.buffer = .tx ∧ a.first ≤ i ∧
      i < a.first + a.len) := fun a ha hin => h ⟨a, ha, hin⟩
  have hbyte : ∀ byte state valid, 0 < i →
      (d.parseHeader.sendByte byte state valid).spiBufTx i = d.spiBufTx i := by
    intro byte state valid hi
    have hwritten : writeAt d.spiBufTx 0 [byte] i = d.spiBufTx i := writeAt_of_le _ hi
    exact (sendResponse_spiBufTx _ _ _ _ hi).trans hwritten
  by_cases hversion : readAt d.spiBufRx 0 7 = versionText
  · have hout := hmissed ⟨.tx, 0, 25⟩ (by rw [Firmware.rxDoneAccesses, if_pos hversion]; simp)
    simp only [true_and] at hout
    have hwritten : writeAt d.spiBufTx 0 (spiVersionPacket info) i = d.spiBufTx i := by
      apply writeAt_of_le
      rw [SpiDevice.spiVersionPacket_length]
      omega
    rw [rxDone_version hversion]
    exact (sendResponse_spiBufTx _ _ _ _ (by omega)).trans hwritten
  · have hfirst : ⟨.tx, 0, 1⟩ ∈ fw.rxDoneAccesses d → 0 < i := by
      intro hmem
      have hout := hmissed _ hmem
      simp only [true_and] at hout
      omega
    cases hstate : d.spiState with
    | header =>
        have hi := hfirst (by simp [Firmware.rxDoneAccesses, if_neg hversion, hstate])
        rw [rxDone_header hversion hstate]
        split
        · exact hbyte _ _ _ hi
        · exact hbyte _ _ _ hi
    | dataRx =>
        rw [rxDone_data hversion hstate]
        by_cases hvalid : d.dataValid = true
        · rw [if_pos hvalid]
          cases hrequest : d.request with
          | none =>
              apply hbyte
              apply hfirst
              simp [Firmware.rxDoneAccesses, if_neg hversion, hstate, hvalid, hrequest]
          | some r =>
              apply respond_spiBufTx fw d.parseHeader r
              rintro ⟨a, ha, hin⟩
              apply h
              refine ⟨a, ?_, hin⟩
              simp only [Firmware.rxDoneAccesses, if_neg hversion, hstate, hvalid, hrequest,
                if_true]
              exact List.mem_cons_of_mem _ (List.mem_cons_of_mem _ ha)
        · rw [if_neg hvalid]
          apply hbyte
          apply hfirst
          simp [Firmware.rxDoneAccesses, if_neg hversion, hstate, hvalid]
    | _ =>
        have hi := hfirst (by simp [Firmware.rxDoneAccesses, if_neg hversion, hstate])
        rw [rxDone_other hversion (by simp [hstate]) (by simp [hstate])]
        exact (sendResponse_spiBufTx _ _ _ _ hi).trans rfl

end Panda.Comms
