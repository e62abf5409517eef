import Panda.Library.Buffer

/-!
`board/drivers/spi.h`: the device side of the SPI link. `spi_rx_done` runs when
the bytes from the master are in `spi_buf_rx`, and `spi_tx_done` when the
response is out. The buffers are memories that give a byte for each index, and
the handlers of the other modules act on a state of their own.
-/

namespace Panda.Comms

open Library

def spiHeaderSize : Nat := 7

def spiChecksumStart : UInt8 := 0xAB

def spiSyncByte : UInt8 := 0x5A

def spiHack : UInt8 := 0x79

def spiDack : UInt8 := 0x85

def spiNack : UInt8 := 0x1F

inductive SpiState where
  | header
  | headerAck
  | headerNack
  | dataRx
  | dataRxAck
  | dataTx
deriving DecidableEq

/-! ### Buffers -/

def lengthAt (buf : Nat → UInt8) (offset : Nat) : UInt16 :=
  (buf (offset + 1)).toUInt16 <<< 8 ||| (buf offset).toUInt16

/-- `for (uint16_t i = 0U; i < len; i++) { checksum ^= data[i]; }`. There is a
result only when the counter, which wraps around, reaches the bound. -/
def checksumLoop (data : Nat → UInt8) (len : Nat) : Nat → UInt16 → UInt8 → Option UInt8
  | 0, _, _ => none
  | fuel + 1, i, checksum =>
      if i.toNat < len then checksumLoop data len fuel (i + 1) (checksum ^^^ data i.toNat)
      else some checksum

/-- The checksum loops of the driver. After as many iterations as the counter has
values it only repeats itself. -/
def spiChecksum (data : Nat → UInt8) (len : Nat) : Option UInt8 :=
  checksumLoop data len (2 ^ 16 + 1) 0 spiChecksumStart

/-- A bound beyond the range of the counter is never reached. -/
theorem checksumLoop_unreached (data : Nat → UInt8) {len : Nat} (h : 2 ^ 16 ≤ len) (fuel : Nat)
    (i : UInt16) (checksum : UInt8) : checksumLoop data len fuel i checksum = none := by
  induction fuel generalizing i checksum with
  | zero => rfl
  | succ fuel ih =>
      have hlt := i.toNat_lt
      rw [checksumLoop, if_pos (by omega)]
      exact ih _ _

theorem spiChecksum_bound {data : Nat → UInt8} {len : Nat} {checksum : UInt8}
    (h : spiChecksum data len = some checksum) : len < 2 ^ 16 := by
  by_contra hle
  rw [spiChecksum, checksumLoop_unreached data (by omega)] at h
  cases h

def validateChecksum (data : Nat → UInt8) (len : UInt16) : Bool :=
  spiChecksum data len.toNat == some 0

/-! ### The version packet -/

def versionText : List UInt8 := [0x56, 0x45, 0x52, 0x53, 0x49, 0x4F, 0x4E]

/-- What the version packet tells of the device: the bytes at `UID_BASE`,
`hw_type` and `USB_PID`. -/
structure DeviceId where
  uid : Vector UInt8 12
  hwType : UInt8
  usbPid : UInt16

def crcStep (poly crc : UInt8) : UInt8 :=
  if crc &&& 0x80 ≠ 0 then (crc <<< 1) ^^^ poly else crc <<< 1

/-- `crc_checksum` of `board/crc.h`, from the last byte to the first. -/
def crcChecksum (dat : List UInt8) (poly : UInt8) : UInt8 :=
  dat.reverse.foldl (fun crc b => (crcStep poly)^[8] (crc ^^^ b)) 0xFF

def spiVersionPacket (info : DeviceId) : List UInt8 :=
  let data := info.uid.toList ++ [info.hwType, (info.usbPid &&& 0xFF).toUInt8, 0x2]
  let out := versionText ++
    [.ofNat (data.length &&& 0xFF), .ofNat (data.length >>> 8 &&& 0xFF)] ++ data
  out ++ [crcChecksum out 0xD5]

/-! ### Handlers -/

structure ControlPacket where
  request : UInt8
  param1 : UInt16
  param2 : UInt16
  length : UInt16
deriving DecidableEq

def controlPacketSize : UInt16 := 7

def controlPacketAt (buf : Nat → UInt8) (offset : Nat) : ControlPacket where
  request := buf offset
  param1 := lengthAt buf (offset + 1)
  param2 := lengthAt buf (offset + 3)
  length := lengthAt buf (offset + 5)

/-- What a call of a handler did: the response that it wrote, whether it found room
in the transmit queues and called `can_tx_comms_resume_spi`, and its state. -/
structure Handled (σ : Type*) where
  response : List UInt8
  resumed : Bool
  app : σ
  response_lt : response.length < 2 ^ 16

theorem nil_length_lt : ([] : List UInt8).length < 2 ^ 16 := by norm_num

/-- A handler that writes no response. -/
def Handled.silent {σ : Type*} (resumed : Bool) (app : σ) : Handled σ where
  response := []
  resumed
  app
  response_lt := nil_length_lt

structure Handlers (σ : Type*) where
  commsControlHandler : ControlPacket → σ → Handled σ
  commsCanRead : UInt16 → σ → Handled σ
  commsEndpoint2Write : List UInt8 → σ → σ
  commsCanWrite : List UInt8 → σ → Bool × σ

inductive Request where
  | control (ctrl : ControlPacket)
  | canRead (maxLen : UInt16)
  | endpoint2Write (data : List UInt8)
  | canWrite (data : List UInt8)
  | test (len : UInt16)
deriving DecidableEq

/-- What `spi_rx_done` calls for an endpoint and data with a valid checksum. A
request that it does not acknowledge is none. -/
def dispatch (spiEndpoint : UInt8) (dataLenMosi dataLenMiso : UInt16) (canTxReady : Bool)
    (data : Nat → UInt8) : Option Request :=
  if spiEndpoint = 0 then
    if dataLenMosi ≥ controlPacketSize then some (.control (controlPacketAt data 0)) else none
  else if spiEndpoint = 1 ∨ spiEndpoint = 0x81 then
    if dataLenMosi = 0 then some (.canRead dataLenMiso) else none
  else if spiEndpoint = 2 then some (.endpoint2Write (readAt data 0 dataLenMosi.toNat))
  else if spiEndpoint = 3 then
    if dataLenMosi > 0 then
      if canTxReady then some (.canWrite (readAt data 0 dataLenMosi.toNat)) else none
    else none
  else if spiEndpoint = 0xAB then some (.test dataLenMiso)
  else none

variable {σ : Type*}

def Handlers.handle (h : Handlers σ) (spiBufTx : Nat → UInt8) : Request → σ → Handled σ
  | .control ctrl, app => h.commsControlHandler ctrl app
  | .canRead maxLen, app => h.commsCanRead maxLen app
  | .endpoint2Write data, app => .silent false (h.commsEndpoint2Write data app)
  | .canWrite data, app => .silent (h.commsCanWrite data app).1 (h.commsCanWrite data app).2
  | .test len, app =>
      { response := readAt spiBufTx 3 len.toNat
        resumed := false
        app
        response_lt := by
          rw [readAt_length]
          exact len.toNat_lt }

theorem dispatch_ready {spiEndpoint : UInt8} {dataLenMosi dataLenMiso : UInt16} {canTxReady : Bool}
    {data : Nat → UInt8} {r : Request}
    (h : dispatch spiEndpoint dataLenMosi dataLenMiso canTxReady data = some r) :
    dispatch spiEndpoint dataLenMosi dataLenMiso true data = some r := by
  cases canTxReady with
  | true => exact h
  | false =>
      unfold dispatch at *
      split_ifs at * <;> simp_all

/-- Only the bytes of the length in the header are looked at. -/
theorem dispatch_congr (spiEndpoint : UInt8) {dataLenMosi : UInt16} (dataLenMiso : UInt16)
    (canTxReady : Bool) {data data' : Nat → UInt8}
    (h : ∀ i < dataLenMosi.toNat, data i = data' i) :
    dispatch spiEndpoint dataLenMosi dataLenMiso canTxReady data =
      dispatch spiEndpoint dataLenMosi dataLenMiso canTxReady data' := by
  have hbytes : readAt data 0 dataLenMosi.toNat = readAt data' 0 dataLenMosi.toNat := by
    apply readAt_congr
    intro i hi
    rw [Nat.zero_add]
    exact h i hi
  have hctrl : dataLenMosi ≥ controlPacketSize →
      controlPacketAt data 0 = controlPacketAt data' 0 := by
    intro hle
    have hle : 7 ≤ dataLenMosi.toNat := hle
    simp only [controlPacketAt, lengthAt]
    rw [h 0 (by omega), h (0 + 1) (by omega), h (0 + 1 + 1) (by omega), h (0 + 3) (by omega),
      h (0 + 3 + 1) (by omega), h (0 + 5) (by omega), h (0 + 5 + 1) (by omega)]
  unfold dispatch
  rw [hbytes]
  split_ifs with hzero hle
  · rw [hctrl hle]
  all_goals rfl

/-! ### The driver -/

/-- The transfer that `llspi_mosi_dma` or `llspi_miso_dma` started. -/
inductive Dma where
  | mosi (offset len : Nat)
  | miso (len : Nat)
deriving DecidableEq

/-- The variables of the driver, the transfer in progress and the state that the
handlers act on. No transfer is in progress after a loop that does not end. -/
structure SpiDevice (σ : Type*) where
  spiBufRx : Nat → UInt8
  spiBufTx : Nat → UInt8
  spiState : SpiState
  spiDataLenMosi : UInt16
  spiCanTxReady : Bool
  spiChecksumErrorCount : UInt16
  dma : Option Dma
  app : σ

namespace SpiDevice

/-- `spi_init`, with the buffers at power on. -/
def spiInit (app : σ) : SpiDevice σ where
  spiBufRx _ := 0
  spiBufTx _ := 0
  spiState := .header
  spiDataLenMosi := 0
  spiCanTxReady := false
  spiChecksumErrorCount := 0
  dma := some (.mosi 0 spiHeaderSize)
  app

/-- The end of `spi_rx_done`: send out the response. -/
def sendResponse (responseLen : UInt16) (nextRxState : SpiState) (checksumValid : Bool)
    (d : SpiDevice σ) : SpiDevice σ :=
  { d with
    spiBufTx := if responseLen = 0 then writeAt d.spiBufTx 0 [spiNack] else d.spiBufTx
    dma := some (.miso (if responseLen = 0 then 1 else responseLen.toNat))
    spiState := nextRxState
    spiChecksumErrorCount :=
      if !checksumValid && d.spiChecksumErrorCount < 0xFFFF then d.spiChecksumErrorCount + 1
      else d.spiChecksumErrorCount }

def sendByte (byte : UInt8) (nextRxState : SpiState) (checksumValid : Bool) (d : SpiDevice σ) :
    SpiDevice σ :=
  sendResponse 1 nextRxState checksumValid { d with spiBufTx := writeAt d.spiBufTx 0 [byte] }

def headerValid (d : SpiDevice σ) : Bool :=
  d.spiBufRx 0 == spiSyncByte && validateChecksum d.spiBufRx 7

def dataValid (d : SpiDevice σ) : Bool :=
  validateChecksum (fun i => d.spiBufRx (spiHeaderSize + i)) (lengthAt d.spiBufRx 2 + 1)

/-- What the buffer asks for. -/
def request (d : SpiDevice σ) : Option Request :=
  dispatch (d.spiBufRx 1) (lengthAt d.spiBufRx 2) (lengthAt d.spiBufRx 4) d.spiCanTxReady
    fun i => d.spiBufRx (spiHeaderSize + i)

def respond (h : Handlers σ) (r : Request) (d : SpiDevice σ) : SpiDevice σ :=
  let handled := h.handle d.spiBufTx r d.app
  let responseLen : UInt16 := .ofNat handled.response.length
  let spiBufTx := writeAt (writeAt d.spiBufTx 3 handled.response) 0
    [spiDack, (responseLen &&& 0xFF).toUInt8, (responseLen >>> 8 &&& 0xFF).toUInt8]
  let spiCanTxReady := match r with
    | .canWrite _ => handled.resumed
    | _ => handled.resumed || d.spiCanTxReady
  let d := { d with spiBufTx, spiCanTxReady, app := handled.app }
  match spiChecksum spiBufTx (responseLen.toNat + 3) with
  | none => { d with dma := none }
  | some checksum =>
      sendResponse (responseLen + 4) .dataTx true
        { d with spiBufTx := writeAt spiBufTx (responseLen.toNat + 3) [checksum] }

def parseHeader (d : SpiDevice σ) : SpiDevice σ :=
  { d with spiDataLenMosi := lengthAt d.spiBufRx 2 }

def spiRxDone (h : Handlers σ) (info : DeviceId) (d : SpiDevice σ) : SpiDevice σ :=
  let d := d.parseHeader
  if readAt d.spiBufRx 0 7 = versionText then
    sendResponse (.ofNat (spiVersionPacket info).length) .headerNack false
      { d with spiBufTx := writeAt d.spiBufTx 0 (spiVersionPacket info) }
  else
    match d.spiState with
    | .header =>
        if d.headerValid then sendByte spiHack .headerAck true d
        else sendByte spiNack .headerNack (validateChecksum d.spiBufRx 7) d
    | .dataRx =>
        if d.dataValid then
          match d.request with
          | some r => respond h r d
          | none => sendByte spiNack .headerNack true d
        else sendByte spiNack .headerNack false d
    | _ => sendResponse 0 .headerNack false d

def spiTxDone (reset : Bool) (d : SpiDevice σ) : SpiDevice σ :=
  if d.spiState = .headerNack ∨ reset then
    { d with spiState := .header, dma := some (.mosi 0 spiHeaderSize) }
  else if d.spiState = .headerAck then
    { d with spiState := .dataRx, dma := some (.mosi spiHeaderSize (d.spiDataLenMosi.toNat + 1)) }
  else { d with spiState := .header, dma := some (.mosi 0 spiHeaderSize) }

def canTxCommsResumeSpi (d : SpiDevice σ) : SpiDevice σ := { d with spiCanTxReady := true }

def takesHeader (d : SpiDevice σ) : Bool :=
  readAt d.spiBufRx 0 7 != versionText && d.spiState == .header && d.headerValid

/-- `spi_rx_done` looks at the request of the data in the buffer. -/
def takesData (d : SpiDevice σ) : Bool :=
  readAt d.spiBufRx 0 7 != versionText && d.spiState == .dataRx && d.dataValid

def executes (d : SpiDevice σ) : Option Request := if d.takesData then d.request else none

def transmitted (d : SpiDevice σ) : Option (List UInt8) :=
  match d.dma with
  | some (.miso len) => some (readAt d.spiBufTx 0 len)
  | _ => none

def responseFrame (response : List UInt8) (checksum : UInt8) : List UInt8 :=
  let responseLen : UInt16 := .ofNat response.length
  [spiDack, (responseLen &&& 0xFF).toUInt8, (responseLen >>> 8 &&& 0xFF).toUInt8] ++ response ++
    [checksum]

theorem sendResponse_transmitted {responseLen : UInt16} (nextRxState : SpiState)
    (checksumValid : Bool) (d : SpiDevice σ) (h : responseLen ≠ 0) :
    (sendResponse responseLen nextRxState checksumValid d).transmitted =
      some (readAt d.spiBufTx 0 responseLen.toNat) := by
  simp only [sendResponse, transmitted, if_neg h]

theorem sendResponse_zero_transmitted (nextRxState : SpiState) (checksumValid : Bool)
    (d : SpiDevice σ) :
    (sendResponse 0 nextRxState checksumValid d).transmitted = some [spiNack] := by
  have hbyte := readAt_writeAt d.spiBufTx 0 [spiNack]
  exact congrArg some hbyte

theorem sendByte_transmitted (byte : UInt8) (nextRxState : SpiState) (checksumValid : Bool)
    (d : SpiDevice σ) :
    (sendByte byte nextRxState checksumValid d).transmitted = some [byte] := by
  have hbyte := readAt_writeAt d.spiBufTx 0 [byte]
  exact congrArg some hbyte

/-- The frame that `respond` builds in `spi_buf_tx`. -/
theorem responseFrame_eq (spiBufTx : Nat → UInt8) (response : List UInt8) (checksum : UInt8) :
    readAt
      (writeAt
        (writeAt (writeAt spiBufTx 3 response) 0
          [spiDack, (UInt16.ofNat response.length &&& 0xFF).toUInt8,
            (UInt16.ofNat response.length >>> 8 &&& 0xFF).toUInt8])
        (response.length + 3) [checksum])
      0 (3 + response.length + 1) = responseFrame response checksum := by
  simp only [responseFrame]
  generalize (UInt16.ofNat response.length &&& 0xFF).toUInt8 = low
  generalize (UInt16.ofNat response.length >>> 8 &&& 0xFF).toUInt8 = high
  have hhead := readAt_writeAt (writeAt spiBufTx 3 response) 0 [spiDack, low, high]
  have hchecksum := readAt_writeAt
    (writeAt (writeAt spiBufTx 3 response) 0 [spiDack, low, high]) (response.length + 3) [checksum]
  have hlength : [spiDack, low, high].length = 3 := rfl
  rw [hlength] at hhead
  rw [readAt_add, readAt_add, readAt_writeAt_before _ _ (by omega), hhead]
  rw [readAt_writeAt_before _ _ (by omega), readAt_writeAt_after _ (by rw [hlength])]
  rw [Nat.zero_add, readAt_writeAt, Nat.zero_add, Nat.add_comm 3]
  exact congrArg _ hchecksum

/-- A response leaves the received bytes alone. It goes out as a frame, unless its
length is at the end of the range of the 16-bit counters. -/
theorem respond_spec (h : Handlers σ) (r : Request) (d : SpiDevice σ) :
    (respond h r d).spiBufRx = d.spiBufRx ∧ (respond h r d).spiDataLenMosi = d.spiDataLenMosi ∧
      ((respond h r d).spiState = .dataTx ∨ (respond h r d).spiState = d.spiState) ∧
      ((respond h r d).dma = none ∨ (respond h r d).transmitted = some [spiNack] ∨
        ∃ checksum, (respond h r d).transmitted =
          some (responseFrame (h.handle d.spiBufTx r d.app).response checksum)) := by
  unfold respond
  have hlt := (h.handle d.spiBufTx r d.app).response_lt
  generalize h.handle d.spiBufTx r d.app = handled at *
  have hlen : (UInt16.ofNat handled.response.length).toNat = handled.response.length := by
    rw [UInt16.toNat_ofNat']
    exact Nat.mod_eq_of_lt hlt
  simp only [hlen]
  split
  · exact ⟨rfl, rfl, Or.inr rfl, Or.inl rfl⟩
  · rename_i checksum hchecksum
    refine ⟨rfl, rfl, Or.inl rfl, Or.inr ?_⟩
    by_cases hzero : UInt16.ofNat handled.response.length + 4 = 0
    · left
      rw [hzero]
      exact sendResponse_zero_transmitted _ _ _
    · right
      refine ⟨checksum, ?_⟩
      have hbound := spiChecksum_bound hchecksum
      have hne : (UInt16.ofNat handled.response.length + 4).toNat ≠ 0 := by
        intro heq
        exact hzero (UInt16.toNat_inj.mp heq)
      rw [sendResponse_transmitted _ _ _ hzero]
      rw [UInt16.toNat_add, hlen] at hne ⊢
      have hframe : (handled.response.length + (4 : UInt16).toNat) % 2 ^ 16 =
          3 + handled.response.length + 1 := by
        simp only [UInt16.reduceToNat] at hne ⊢
        omega
      rw [hframe]
      exact congrArg some (responseFrame_eq _ _ _)

/-- A response that is neither an acknowledge nor a frame. -/
def Rejects (d : SpiDevice σ) : Prop :=
  d.spiState = .headerNack ∧
    ∃ first rest, d.transmitted = some (first :: rest) ∧ first ≠ spiHack ∧ first ≠ spiDack

theorem sendByte_rejects (checksumValid : Bool) (d : SpiDevice σ) :
    Rejects (sendByte spiNack .headerNack checksumValid d) :=
  ⟨rfl, spiNack, [], sendByte_transmitted _ _ _ _, by decide, by decide⟩

theorem spiVersionPacket_length (info : DeviceId) : (spiVersionPacket info).length = 25 := by
  simp [spiVersionPacket, versionText]

theorem version_rejects (info : DeviceId) (checksumValid : Bool) (d : SpiDevice σ) :
    Rejects (sendResponse (.ofNat (spiVersionPacket info).length) .headerNack checksumValid
      { d with spiBufTx := writeAt d.spiBufTx 0 (spiVersionPacket info) }) := by
  have hpacket := readAt_writeAt d.spiBufTx 0 (spiVersionPacket info)
  rw [spiVersionPacket_length] at hpacket ⊢
  refine ⟨rfl, 0x56, (spiVersionPacket info).tail, ?_, by decide, by decide⟩
  rw [sendResponse_transmitted _ _ _ (by decide)]
  exact congrArg some hpacket

/-- What `spi_rx_done` can do: acknowledge a header, call a handler, or reject. -/
inductive RxDone (h : Handlers σ) (d d' : SpiDevice σ) : Prop where
  | header (takes : d.takesHeader = true) (executes : d.executes = none)
      (state : d'.spiState = .headerAck) (sent : d'.transmitted = some [spiHack])
  | call (r : Request) (takes : d.takesHeader = false) (executes : d.executes = some r)
      (state : d'.spiState = .dataTx ∨ d'.spiState = .dataRx)
      (sent : d'.dma = none ∨ d'.transmitted = some [spiNack] ∨
        ∃ checksum, d'.transmitted =
          some (responseFrame (h.handle d.spiBufTx r d.app).response checksum))
  | reject (takes : d.takesHeader = false) (executes : d.executes = none) (rejects : Rejects d')

theorem spiRxDone_cases (h : Handlers σ) (info : DeviceId) (d : SpiDevice σ) :
    RxDone h d (spiRxDone h info d) := by
  unfold spiRxDone
  simp only
  split
  · rename_i hversion
    have hversion : readAt d.spiBufRx 0 7 = versionText := hversion
    apply RxDone.reject
    · simp [takesHeader, hversion]
    · simp [executes, takesData, hversion]
    · exact version_rejects _ _ _
  · rename_i hversion
    have hversion : ¬ readAt d.spiBufRx 0 7 = versionText := hversion
    split
    · rename_i hstate
      have hstate : d.spiState = .header := hstate
      have hexecutes : d.executes = none := by simp [executes, takesData, hstate]
      split
      · rename_i hvalid
        have hvalid : d.headerValid = true := hvalid
        apply RxDone.header
        · simp [takesHeader, hversion, hstate, hvalid]
        · exact hexecutes
        · rfl
        · exact sendByte_transmitted _ _ _ _
      · rename_i hvalid
        have hvalid : ¬ d.headerValid = true := hvalid
        apply RxDone.reject
        · simp [takesHeader, hvalid]
        · exact hexecutes
        · exact sendByte_rejects _ _
    · rename_i hstate
      have hstate : d.spiState = .dataRx := hstate
      have htakes : d.takesHeader = false := by simp [takesHeader, hstate]
      split
      · rename_i hvalid
        have hvalid : d.dataValid = true := hvalid
        have hdata : d.executes = d.request := by
          simp [executes, takesData, hversion, hstate, hvalid]
        split
        · rename_i r hrequest
          have hrequest : d.request = some r := hrequest
          obtain ⟨-, -, hnext, hsent⟩ := respond_spec h r d.parseHeader
          apply RxDone.call r htakes (hdata.trans hrequest)
          · exact hnext.imp_right fun hnext => hnext.trans hstate
          · exact hsent
        · rename_i hrequest
          have hrequest : d.request = none := hrequest
          exact RxDone.reject htakes (hdata.trans hrequest) (sendByte_rejects _ _)
      · rename_i hvalid
        have hvalid : ¬ d.dataValid = true := hvalid
        apply RxDone.reject htakes
        · simp [executes, takesData, hvalid]
        · exact sendByte_rejects _ _
    · rename_i hheader hdata
      have hheader : d.spiState ≠ .header := hheader
      have hdata : d.spiState ≠ .dataRx := hdata
      apply RxDone.reject
      · simp [takesHeader, hheader]
      · simp [executes, takesData, hdata]
      · exact ⟨rfl, spiNack, [], sendResponse_zero_transmitted _ _ _, by decide, by decide⟩

theorem spiRxDone_buffer (h : Handlers σ) (info : DeviceId) (d : SpiDevice σ) :
    (spiRxDone h info d).spiBufRx = d.spiBufRx ∧
      (spiRxDone h info d).spiDataLenMosi = lengthAt d.spiBufRx 2 := by
  have hparsed : d.parseHeader.spiBufRx = d.spiBufRx ∧
      d.parseHeader.spiDataLenMosi = lengthAt d.spiBufRx 2 := ⟨rfl, rfl⟩
  unfold spiRxDone
  simp only
  split
  · exact hparsed
  · split
    · split
      · exact hparsed
      · exact hparsed
    · split
      · split
        · rename_i r _
          obtain ⟨hbuf, hlen, -⟩ := respond_spec h r d.parseHeader
          rwa [hbuf, hlen]
        · exact hparsed
      · exact hparsed
    · exact hparsed

/-! ### Events -/

/-- The transfer from the master is complete with these bytes. -/
def receive (bytes : List UInt8) (d : SpiDevice σ) : Option (SpiDevice σ) :=
  match d.dma with
  | some (.mosi offset len) =>
      if bytes.length = len then some { d with spiBufRx := writeAt d.spiBufRx offset bytes }
      else none
  | _ => none

end SpiDevice

/-- The transfers to and from the device that complete, and what the rest of the
firmware does in between. -/
inductive DeviceEvent (σ : Type*) where
  | received (bytes : List UInt8)
  | sent (reset : Bool)
  | firmware (resumed : Bool) (f : σ → σ)

def deviceStep (h : Handlers σ) (info : DeviceId) (d : SpiDevice σ) : DeviceEvent σ → SpiDevice σ
  | .received bytes => ((d.receive bytes).map (SpiDevice.spiRxDone h info)).getD d
  | .sent reset =>
      match d.dma with
      | some (.miso _) => d.spiTxDone reset
      | _ => d
  | .firmware resumed f =>
      let d := { d with app := f d.app }
      if resumed then d.canTxCommsResumeSpi else d

end Panda.Comms
