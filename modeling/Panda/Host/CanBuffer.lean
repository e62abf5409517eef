import Mathlib.Tactic

/-!
The CAN buffers of `python/__init__.py`: `pack_can_buffer` and
`unpack_can_buffer`. A call that raises gives no result. For the clients that
only use `can_send` and `can_recv` there is the port.
-/

namespace Panda.Host

def canpacketHeadSize : Nat := 6

def dlcToLen : List Nat := [0, 1, 2, 3, 4, 5, 6, 7, 8, 12, 16, 20, 24, 32, 48, 64]

def lenToDlc (length : Nat) : Option Nat := dlcToLen.findIdx? fun len => len == length

structure CanMessage where
  address : Nat
  dat : List UInt8
  bus : Nat
deriving DecidableEq

def calculateChecksum (data : List UInt8) : UInt8 := data.foldl (fun res b => res ^^^ b) 0

/-- The header and data of one message in `pack_can_buffer`. The length has to
be in the table, and the first byte has to be below 256. -/
def packMessage (msg : CanMessage) : Option (List UInt8) :=
  match lenToDlc msg.dat.length with
  | none => none
  | some dataLenCode =>
      let extended := if msg.address ≥ 0x800 then 1 else 0
      let word4b := msg.address <<< 3 ||| extended <<< 2
      let first := dataLenCode <<< 4 ||| msg.bus <<< 1
      if first < 256 then
        let header : List UInt8 :=
          [.ofNat first, .ofNat (word4b &&& 0xFF), .ofNat (word4b >>> 8 &&& 0xFF),
           .ofNat (word4b >>> 16 &&& 0xFF), .ofNat (word4b >>> 24 &&& 0xFF)]
        some (header ++ [calculateChecksum (header ++ msg.dat)] ++ msg.dat)
      else none

/-- The loop of `pack_can_buffer` over the messages: the chunks so far, and the
last one. Chunks are limited to 256 bytes. -/
def packLoop : List CanMessage → List (List UInt8) → List UInt8 → Option (List (List UInt8))
  | [], snds, last => some (snds ++ [last])
  | msg :: arr, snds, last =>
      match packMessage msg with
      | none => none
      | some bytes =>
          if (last ++ bytes).length > 256 then packLoop arr (snds ++ [last ++ bytes]) []
          else packLoop arr snds (last ++ bytes)

def packCanBuffer (arr : List CanMessage) : Option (List (List UInt8)) := packLoop arr [] []

def unpackLoop : Nat → List UInt8 → List CanMessage →
    Except String (List CanMessage × List UInt8)
  | 0, dat, ret => .ok (ret, dat)
  | fuel + 1, dat, ret =>
      if dat.length ≥ canpacketHeadSize then
        let byte (i : Nat) : Nat := (dat.getD i 0).toNat
        let dataLen := dlcToLen.getD (byte 0 >>> 4) 0
        let bus := byte 0 >>> 1 &&& 0x7
        let address := (byte 4 <<< 24 ||| byte 3 <<< 16 ||| byte 2 <<< 8 ||| byte 1) >>> 3
        let bus := if byte 1 >>> 1 &&& 0x1 ≠ 0 then bus + 128 else bus
        let bus := if byte 1 &&& 0x1 ≠ 0 then bus + 192 else bus
        if dataLen > dat.length - canpacketHeadSize then .ok (ret, dat)
        else if calculateChecksum (dat.take (canpacketHeadSize + dataLen)) ≠ 0 then
          .error "CAN packet checksum incorrect"
        else
          let data := (dat.take (canpacketHeadSize + dataLen)).drop canpacketHeadSize
          unpackLoop fuel (dat.drop (canpacketHeadSize + dataLen)) (ret ++ [⟨address, data, bus⟩])
      else .ok (ret, dat)

def unpackCanBuffer (dat : List UInt8) : Except String (List CanMessage × List UInt8) :=
  unpackLoop (dat.length + 1) dat []

def canRecv : List (List UInt8) → List UInt8 → Except String (List CanMessage × List UInt8)
  | [], canRxOverflowBuffer => .ok ([], canRxOverflowBuffer)
  | dat :: batches, canRxOverflowBuffer => do
      let (msgs, canRxOverflowBuffer) ← unpackCanBuffer (canRxOverflowBuffer ++ dat)
      let (later, canRxOverflowBuffer) ← canRecv batches canRxOverflowBuffer
      .ok (msgs ++ later, canRxOverflowBuffer)

/-! ### The port of a client -/

/-- `can_send` and `can_recv` from the outside: what the next calls of `can_recv`
return, call by call and then nothing, and what was given to `can_send`. -/
structure CanPort where
  rx : List (List CanMessage) := []
  tx : List CanMessage := []
deriving DecidableEq

namespace CanPort

def canRecv (p : CanPort) : List CanMessage × CanPort :=
  match p.rx with
  | [] => ([], p)
  | msgs :: rx => (msgs, { p with rx })

def canSend (address : Nat) (dat : List UInt8) (bus : Nat) (p : CanPort) : CanPort :=
  { p with tx := p.tx ++ [⟨address, dat, bus⟩] }

/-- The first `k` messages that a port sent are the next batch at another one. -/
def deliver (k : Nat) (src dst : CanPort) : CanPort × CanPort :=
  ({ src with tx := src.tx.drop k }, { dst with rx := dst.rx ++ [src.tx.take k] })

end CanPort

end Panda.Host
