import Mathlib.Tactic

/-!
`drivers/linux/panda.c`: the record that `panda_usb_start_xmit` sends for a frame, and
the frames that `panda_usb_read_bulk_callback` makes of a transfer, while the devices are
there and the allocations succeed.
-/

namespace Panda.Host

def pandaCanTransmit : Nat := 1

def pandaCanExtended : Nat := 4

def pandaDlcMask : Nat := 0x0F

/-- `CAN_EFF_FLAG` of Linux: the id is an extended one. -/
def canEffFlag : Nat := 0x80000000

def canNumbering : List Nat := [0, 1, 2]

/-- `can_cc_dlc2len` of Linux, or `get_can_dlc` before it: at most `CAN_MAX_DLEN`. -/
structure KernelCan where
  canCcDlc2len : Nat → Nat
  le : ∀ dlc, canCcDlc2len dlc ≤ 8

/-- `struct can_frame`. The length of the data is `can_dlc`. -/
structure SocketFrame where
  canId : Nat
  data : List UInt8
deriving DecidableEq

/-- A classic frame that is neither a remote nor an error frame. -/
structure SocketFrame.Classic (cf : SocketFrame) : Prop where
  id : cf.canId < 2 ^ 11 ∨ ∃ id < 2 ^ 29, cf.canId = canEffFlag + id
  length : cf.data.length ≤ 8

def cpuToLe32 (n : Nat) : List UInt8 :=
  [.ofNat n, .ofNat (n >>> 8), .ofNat (n >>> 16), .ofNat (n >>> 24)]

def u32At (memory : List UInt8) (i : Nat) : Nat :=
  let byte (j : Nat) : Nat := (memory.getD (i + j) 0).toNat
  byte 0 + byte 1 <<< 8 + byte 2 <<< 16 + byte 3 <<< 24

/-! ### To the device -/

/-- `panda_usb_start_xmit` of the interface with this number: the bytes of its
`panda_usb_can_msg`. -/
def pandaUsbStartXmit (infNum : Nat) (cf : SocketFrame) : List UInt8 :=
  let bus := canNumbering.getD infNum 0
  let rir :=
    if cf.canId &&& canEffFlag ≠ 0 then
      (cf.canId &&& 0x1FFFFFFF) <<< 3 ||| pandaCanTransmit ||| pandaCanExtended
    else (cf.canId &&& 0x7FF) <<< 21 ||| pandaCanTransmit
  let busDatLen := cf.data.length &&& 0x0F ||| bus <<< 4
  cpuToLe32 rir ++ cpuToLe32 busDatLen ++ (cf.data ++ List.replicate (8 - cf.data.length) 0)

/-! ### From the device -/

def pandaUsbCanMsgSize : Nat := 16

def pandaGetInfFromBusId (busId : Nat) : Option Nat := canNumbering.findIdx? fun bus => bus == busId

/-- `panda_usb_process_can_rx`: the frame, and the interface that gets it. -/
def pandaUsbProcessCanRx (k : KernelCan) (msg : List UInt8) : Option (Nat × SocketFrame) :=
  let rir := u32At msg 0
  let busDatLen := u32At msg 4
  match pandaGetInfFromBusId (busDatLen >>> 4 &&& 0xF) with
  | none => none
  | some infNum =>
      some (infNum,
        { canId := if rir &&& pandaCanExtended ≠ 0 then rir >>> 3 ||| canEffFlag else rir >>> 21
          data := (msg.drop 8).take (k.canCcDlc2len (busDatLen &&& pandaDlcMask)) })

def readBulkLoop (k : KernelCan) (buffer : List UInt8) : Nat → Nat → List (Nat × SocketFrame)
  | 0, _ => []
  | fuel + 1, pos =>
      if pos < buffer.length then
        if pos + pandaUsbCanMsgSize > buffer.length then []
        else
          (pandaUsbProcessCanRx k ((buffer.drop pos).take pandaUsbCanMsgSize)).toList ++
            readBulkLoop k buffer fuel (pos + pandaUsbCanMsgSize)
      else []

def pandaUsbReadBulkCallback (k : KernelCan) (buffer : List UInt8) : List (Nat × SocketFrame) :=
  readBulkLoop k buffer (buffer.length + 1) 0

/-! ### Lengths -/

variable {k : KernelCan}

theorem processCanRx_length {msg : List UInt8} {received : Nat × SocketFrame}
    (h : pandaUsbProcessCanRx k msg = some received) : received.2.data.length ≤ 8 := by
  unfold pandaUsbProcessCanRx at h
  dsimp only at h
  split at h
  · cases h
  · rw [← Option.some.inj h]
    exact Nat.le_trans (List.length_take_le _ _) (k.le _)

theorem readBulkLoop_length (buffer : List UInt8) (fuel pos : Nat) :
    pandaUsbCanMsgSize * (readBulkLoop k buffer fuel pos).length ≤ buffer.length - pos := by
  induction fuel generalizing pos with
  | zero => exact Nat.zero_le _
  | succ fuel ih =>
      rw [readBulkLoop]
      split
      · split
        · exact Nat.zero_le _
        · have hrest := ih (pos + pandaUsbCanMsgSize)
          have hone : (pandaUsbProcessCanRx k
              ((buffer.drop pos).take pandaUsbCanMsgSize)).toList.length ≤ 1 :=
            Option.length_toList_le
          rw [List.length_append, Nat.mul_add]
          simp only [pandaUsbCanMsgSize] at *
          omega
      · exact Nat.zero_le _

theorem readBulkLoop_data (buffer : List UInt8) (fuel pos : Nat) :
    ∀ received ∈ readBulkLoop k buffer fuel pos, received.2.data.length ≤ 8 := by
  induction fuel generalizing pos with
  | zero => exact fun received h => absurd h List.not_mem_nil
  | succ fuel ih =>
      intro received h
      rw [readBulkLoop] at h
      split at h
      · split at h
        · cases h
        · rcases List.mem_append.mp h with hnow | hlater
          · exact processCanRx_length (Option.mem_toList.mp hnow)
          · exact ih _ received hlater
      · cases h

/-- Each frame takes sixteen bytes of the transfer. -/
theorem readBulkCallback_length (k : KernelCan) (buffer : List UInt8) :
    16 * (pandaUsbReadBulkCallback k buffer).length ≤ buffer.length :=
  readBulkLoop_length buffer (buffer.length + 1) 0

theorem readBulkCallback_data (k : KernelCan) (buffer : List UInt8) :
    ∀ received ∈ pandaUsbReadBulkCallback k buffer, received.2.data.length ≤ 8 :=
  readBulkLoop_data buffer (buffer.length + 1) 0

end Panda.Host
