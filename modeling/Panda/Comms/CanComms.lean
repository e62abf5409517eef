import Mathlib.Data.List.GetD
import Panda.Comms.Libc
import Panda.Comms.Ring
import Panda.Comms.Wire

/-!
`board/can_comms.h`: CAN transactions to and from the host, in chunks. The
buffers keep the part of a packet that spans two chunks. `commsCanWrite` gives
the packets that it hands to `can_send`, in order.
-/

namespace Panda.Comms

open Library Safety

structure AsmBuffer where
  ptr : Nat := 0
  tailSize : Nat := 0
  data : Vector UInt8 72

structure CanComms where
  canRxQ : CanRing
  canReadBuffer : AsmBuffer
  canWriteBuffer : AsmBuffer

def copyInto {n : Nat} (dest : Vector UInt8 n) (offset : Nat) (src : List UInt8) : Vector UInt8 n :=
  Vector.ofFn fun i =>
    if offset ≤ i then src.getD (i - offset) (dest.get i) else dest.get i

/-- `memcpy` inside of an array that starts at a word address. -/
def memcpyWithin {n : Nat} (data : Vector UInt8 n) (dest src len : Nat) : Vector UInt8 n :=
  Vector.ofFn fun i => memcpy dest src len (fun address => data.toList.getD address 0) i

/-- The loop of `comms_can_read` over new packets. `out` is what is written to
`data` so far, and `pos` its length. -/
def readLoop (maxLen : Nat) : Nat → List UInt8 → CanComms → List UInt8 × CanComms
  | 0, out, s => (out, s)
  | fuel + 1, out, s =>
      let pos := out.length
      if pos < maxLen then
        match canPop s.canRxQ with
        | (none, canRxQ) => (out, { s with canRxQ })
        | (some canPacket, canRxQ) =>
            let pcktLen := canpacketHeadSize + getLen canPacket
            if pos + pcktLen ≤ maxLen then
              readLoop maxLen fuel (out ++ (structBytes canPacket).take pcktLen) { s with canRxQ }
            else
              let ptr := s.canReadBuffer.ptr + (pcktLen - (maxLen - pos))
              let tail := ((structBytes canPacket).drop (maxLen - pos)).take ptr
              readLoop maxLen fuel (out ++ (structBytes canPacket).take (maxLen - pos))
                { s with
                  canRxQ
                  canReadBuffer :=
                    { s.canReadBuffer with ptr, data := copyInto s.canReadBuffer.data 0 tail } }
      else (out, s)

def readTail (maxLen : Nat) (b : AsmBuffer) : List UInt8 × AsmBuffer :=
  if b.ptr > 0 then
    let overflowLen := min maxLen b.ptr
    (b.data.toList.take overflowLen,
      { b with
        data := memcpyWithin b.data 0 overflowLen (b.ptr - overflowLen)
        ptr := b.ptr - overflowLen })
  else ([], b)

def commsCanRead (maxLen : Nat) (s : CanComms) : List UInt8 × CanComms :=
  let (out, canReadBuffer) := readTail maxLen s.canReadBuffer
  let s := { s with canReadBuffer }
  if s.canReadBuffer.ptr = 0 then readLoop maxLen (maxLen + 1) out s else (out, s)

/-- `CANPacket_t to_push = {0}` and the copy of the received bytes to it. -/
def receivedPacket (bytes : List UInt8) : CANPacket :=
  ofStruct (copyInto (Vector.replicate structSize 0) 0 bytes).toList

/-- The assembly of a packet with data from the buffer in `comms_can_write`: the
packet, the position in the chunk and the buffer. -/
def writeAssemble (data : List UInt8) (b : AsmBuffer) : List CANPacket × Nat × AsmBuffer :=
  if b.ptr ≠ 0 then
    if b.tailSize ≤ data.length then
      let bytes := copyInto b.data b.ptr (data.take b.tailSize)
      ([receivedPacket (bytes.toList.take (b.ptr + b.tailSize))], b.tailSize,
        { data := bytes, ptr := 0, tailSize := 0 })
    else
      ([], data.length,
        { data := copyInto b.data b.ptr data
          ptr := b.ptr + data.length
          tailSize := b.tailSize - data.length })
  else ([], 0, b)

def writeLoop (data : List UInt8) : Nat → Nat → AsmBuffer → List CANPacket × AsmBuffer
  | 0, _, b => ([], b)
  | fuel + 1, pos, b =>
      if pos < data.length then
        let pcktLen := canpacketHeadSize + dlcToLen (lenCode (data.getD pos 0))
        if pos + pcktLen ≤ data.length then
          let later := writeLoop data fuel (pos + pcktLen) b
          (receivedPacket ((data.drop pos).take pcktLen) :: later.1, later.2)
        else
          let ptr := data.length - pos
          writeLoop data fuel (pos + ptr)
            { data := copyInto b.data 0 ((data.drop pos).take ptr), ptr, tailSize := pcktLen - ptr }
      else ([], b)

def commsCanWrite (data : List UInt8) (s : CanComms) : List CANPacket × CanComms :=
  let (sent, pos, canWriteBuffer) := writeAssemble data s.canWriteBuffer
  let later := writeLoop data (data.length + 1) pos canWriteBuffer
  (sent ++ later.1, { s with canWriteBuffer := later.2 })

def commsCanReset (s : CanComms) : CanComms :=
  { s with
    canWriteBuffer := { s.canWriteBuffer with ptr := 0, tailSize := 0 }
    canReadBuffer := { s.canReadBuffer with ptr := 0, tailSize := 0 } }

def canRxBufferSize : Nat := 4096

def powerOnComms : CanComms where
  canRxQ :=
    { wPtr := 0, rPtr := 0, fifoSize := canRxBufferSize, elems := fun _ => ofStruct []
      wPtr_lt := by decide, rPtr_lt := by decide }
  canReadBuffer := { data := Vector.replicate 72 0 }
  canWriteBuffer := { data := Vector.replicate 72 0 }

/-! ### Copies -/

theorem copyInto_take {n : Nat} (dest : Vector UInt8 n) {offset : Nat} {src : List UInt8}
    (h : offset + src.length ≤ n) :
    (copyInto dest offset src).toList.take (offset + src.length) =
      dest.toList.take offset ++ src := by
  apply List.ext_getElem
  · simp
    omega
  · intro i hi hi'
    have hlt : i < offset + src.length := by
      simp only [List.length_take, Vector.length_toList] at hi
      omega
    simp only [copyInto, List.getElem_take, Vector.getElem_toList, Vector.getElem_ofFn]
    by_cases hoffset : offset ≤ i
    · rw [if_pos hoffset, List.getElem_append_right (by simp; omega)]
      rw [List.getD_eq_getElem _ _ (by omega)]
      congr 1
      simp
      omega
    · rw [if_neg hoffset, List.getElem_append_left (by simp; omega)]
      rw [List.getElem_take, Vector.getElem_toList]
      rfl

/-- The copy to a lower offset, on overlapping parts of one array. -/
theorem memcpyWithin_take {n : Nat} (data : Vector UInt8 n) {src len : Nat} (h : src + len ≤ n) :
    (memcpyWithin data 0 src len).toList.take len = (data.toList.drop src).take len := by
  apply List.ext_getElem
  · simp
    omega
  · intro i hi hi'
    have hlt : i < len := by
      simp only [List.length_take, Vector.length_toList] at hi
      omega
    simp only [memcpyWithin, List.getElem_take, Vector.getElem_toList, Vector.getElem_ofFn,
      List.getElem_drop]
    rw [memcpy_forward (Nat.zero_le src), if_pos (by omega)]
    rw [List.getD_eq_getElem _ _ (by simp; omega)]
    simp

theorem receivedPacket_eq (bytes : List UInt8) : receivedPacket bytes = ofStruct bytes := by
  apply ofStruct_congr
  intro i hi
  have hlength : i < (copyInto (Vector.replicate structSize 0) 0 bytes).toList.length := by
    rw [Vector.length_toList]
    exact hi
  rw [List.getD_eq_getElem _ _ hlength, Vector.getElem_toList]
  simp only [copyInto, Vector.getElem_ofFn, Nat.zero_le, if_true, Nat.sub_zero]
  congr 1
  exact Vector.getElem_replicate hi

/-- The bytes in the buffer. -/
def AsmBuffer.carried (b : AsmBuffer) : List UInt8 := b.data.toList.take b.ptr

theorem AsmBuffer.carried_length {b : AsmBuffer} (h : b.ptr ≤ 72) : b.carried.length = b.ptr := by
  simp only [carried, List.length_take, Vector.length_toList]
  omega

theorem AsmBuffer.carried_of_zero {b : AsmBuffer} (h : b.ptr = 0) : b.carried = [] := by
  rw [carried, h]
  rfl

end Panda.Comms
