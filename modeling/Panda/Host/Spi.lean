import Mathlib.Tactic

/-!
`PandaSpiHandle` of `python/spi.py`: the host side of the SPI link. A transfer
sends a header, waits for its acknowledge, sends the data and waits for the
response, and starts again after any `PandaSpiException` until its time is up.
-/

namespace Panda.Host

def sync : UInt8 := 0x5A

def hack : UInt8 := 0x79

def dack : UInt8 := 0x85

def checksumStart : UInt8 := 0xAB

def xferSize : Nat := 0x40 * 31

def usbpacketMaxSize : Nat := 0x40

/-- The exceptions that a transfer retries after. `responseLength` is the
`PandaSpiException` of a response that is longer than the maximum. -/
inductive PandaSpiException where
  | pandaSpiException
  | nackResponse
  | missingAck
  | badChecksum
  | responseLength (maxRxLen responseLen : Nat)
deriving DecidableEq

def calcChecksum (data : List UInt8) : UInt8 :=
  data.foldl (fun cksum b => cksum ^^^ b) checksumStart

/-- `struct.pack("<H", n)`. -/
def packUInt16 (n : Nat) : List UInt8 := [.ofNat (n % 256), .ofNat (n / 256 % 256)]

/-- The arguments of `_transfer`. The lengths have to fit the fields of the
header. -/
structure Transfer where
  endpoint : UInt8
  data : List UInt8
  timeout : Nat
  maxRxLen : Nat := 1000
  expectDisconnect : Bool := false
  data_lt : data.length < 2 ^ 16
  maxRxLen_lt : maxRxLen < 2 ^ 16

namespace Transfer

/-- `max_rx_len` in `_transfer_spidev`. -/
def rxLen (t : Transfer) : Nat := max usbpacketMaxSize t.maxRxLen

/-- The header before its checksum. -/
def headerFields (t : Transfer) : List UInt8 :=
  [sync, t.endpoint] ++ packUInt16 t.data.length ++ packUInt16 t.rxLen

def headerPacket (t : Transfer) : List UInt8 := t.headerFields ++ [calcChecksum t.headerFields]

def dataPacket (t : Transfer) : List UInt8 := t.data ++ [calcChecksum t.data]

/-- What `_transfer_spidev` makes of the bytes from the data acknowledge on. The
first transfer reads enough for a `controlRead`, the second the rest. -/
def readResponse (t : Transfer) (seen : List UInt8) : Except PandaSpiException (List UInt8) :=
  let prereadLen := usbpacketMaxSize + 1
  let dat := seen.take (3 + prereadLen)
  let responseLen := (dat.getD 1 0).toNat + 256 * (dat.getD 2 0).toNat
  if responseLen > t.rxLen then .error (.responseLength t.rxLen responseLen)
  else
    let remaining := responseLen + 1 - prereadLen
    let dat := dat ++ (seen.drop (3 + prereadLen)).take remaining
    let dat := dat.take (3 + responseLen + 1)
    if calcChecksum dat ≠ 0 then .error .badChecksum else .ok (dat.drop 3).dropLast

end Transfer

/-! ### The state of a transfer -/

/-- Where `_transfer` is: at the test of its loop, waiting for the acknowledge of
the header or of the data, or done. -/
inductive Phase where
  | loop
  | headerAck
  | dataAck
  | returned (response : List UInt8)
  | raised (exc : PandaSpiException)
deriving DecidableEq

/-- The variables of `_transfer`: `n`, the try, and `exc`. -/
structure Progress where
  phase : Phase := .loop
  n : Nat := 0
  exc : PandaSpiException := .pandaSpiException
deriving DecidableEq

/-- An exception in a try. -/
def Progress.fail (exc : PandaSpiException) (p : Progress) : Progress :=
  { p with phase := .loop, exc }

/-! ### The functions of the handle -/

/-- The transfer of `controlWrite`. -/
def controlWrite (request : UInt8) (value index : UInt16) (timeout : Nat)
    (expectDisconnect : Bool) : Transfer where
  endpoint := 0
  data := [request] ++ packUInt16 value.toNat ++ packUInt16 index.toNat ++ packUInt16 0
  timeout
  expectDisconnect
  data_lt := by simp [packUInt16]
  maxRxLen_lt := by norm_num

/-- The transfer of `controlRead`. -/
def controlRead (request : UInt8) (value index length : UInt16) (timeout : Nat) : Transfer where
  endpoint := 0
  data := [request] ++ packUInt16 value.toNat ++ packUInt16 index.toNat ++ packUInt16 length.toNat
  timeout
  maxRxLen := length.toNat
  data_lt := by simp [packUInt16]
  maxRxLen_lt := length.toNat_lt

/-- The transfer number `x` of `bulkWrite`. -/
def bulkWriteTransfer (endpoint : UInt8) (data : List UInt8) (timeout x : Nat) : Transfer where
  endpoint
  data := (data.drop (xferSize * x)).take xferSize
  timeout
  data_lt := by
    have hle := List.length_take_le xferSize (data.drop (xferSize * x))
    simp only [xferSize] at *
    omega
  maxRxLen_lt := by norm_num

/-- The transfers of `bulkWrite`. -/
def bulkWrite (endpoint : UInt8) (data : List UInt8) (timeout : Nat) : List Transfer :=
  (List.range ((data.length + xferSize - 1) / xferSize)).map
    (bulkWriteTransfer endpoint data timeout)

theorem bulkWrite_transfer {endpoint : UInt8} {data : List UInt8} {timeout : Nat} {t : Transfer}
    (h : t ∈ bulkWrite endpoint data timeout) : t.endpoint = endpoint ∧ t.data ≠ [] := by
  obtain ⟨x, hx, rfl⟩ := List.mem_map.mp h
  have hx := List.mem_range.mp hx
  refine ⟨rfl, ?_⟩
  apply List.ne_nil_of_length_pos
  simp only [bulkWriteTransfer, List.length_take, List.length_drop]
  simp only [xferSize] at *
  omega

/-- One transfer of `bulkRead`. -/
def bulkReadTransfer (endpoint : UInt8) (timeout : Nat) : Transfer where
  endpoint
  data := []
  timeout
  maxRxLen := xferSize
  data_lt := by norm_num
  maxRxLen_lt := by norm_num [xferSize]

end Panda.Host
