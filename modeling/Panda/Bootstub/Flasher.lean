import Panda.Comms.SpiAccess

/-!
`board/flasher.h`: the handlers of the soft flasher, with the functions of
`stm32f4/llflash.h` and `stm32h7/llflash.h` that they call. A reset ends a session.
-/

namespace Panda.Bootstub

open Comms

def appStartAddress : Mcu → Nat
  | .stm32f4 => 0x8004000
  | .stm32h7 => 0x8020000

def sectorCount : Mcu → Nat
  | .stm32f4 => 12
  | .stm32h7 => 8

def enterBootloaderMagic : UInt32 := 0xdeadbeef

def enterSoftloaderMagic : UInt32 := 0xdeadc0de

structure Device where
  mcu : Mcu
  hwType : UInt8
  uid : List UInt8
  serialNumber : List UInt8
  provisionChunk : List UInt8
  gitversion : List UInt8

def Device.getProvisionChunk (d : Device) : List UInt8 :=
  if d.provisionChunk = List.replicate provisionChunkLen 0xff then
    -- "unprovisioned\x00\x00\x00testing123\x00\x00\xa3\xa6\x99\xec"
    [0x75, 0x6e, 0x70, 0x72, 0x6f, 0x76, 0x69, 0x73, 0x69, 0x6f, 0x6e, 0x65, 0x64, 0x00, 0x00, 0x00,
     0x74, 0x65, 0x73, 0x74, 0x69, 0x6e, 0x67, 0x31, 0x32, 0x33, 0x00, 0x00, 0xa3, 0xa6, 0x99, 0xec]
  else d.provisionChunk

/-- What happens to the flash: an unlock request is handled, a sector is erased, a
word is written, or the session ends. -/
inductive FlashEntry where
  | unlock
  | erase (sector : UInt8)
  | write (address : Nat) (data : UInt32)
  | reset
deriving DecidableEq

/-- The flasher state variables, the lock of the flash controller, and what happened
so far. `NULL` is 0. -/
structure Flasher where
  progPtr : Nat := 0
  unlocked : Bool := false
  flashLocked : Bool := true
  enterBootloaderMode : UInt32 := 0
  log : List FlashEntry := []
deriving DecidableEq

namespace Flasher

def note (entry : FlashEntry) (f : Flasher) : Flasher := { f with log := f.log ++ [entry] }

/-! ### `llflash.h` -/

def flashUnlock (f : Flasher) : Flasher := { f with flashLocked := false }

def flashEraseSector (mcu : Mcu) (sector : UInt8) (unlocked : Bool) (f : Flasher) :
    Bool × Flasher :=
  -- don't erase the bootloader(sector 0)
  if sector ≠ 0 ∧ sector.toNat < sectorCount mcu ∧ unlocked = true then
    (true, f.note (.erase sector))
  else (false, f)

def flashWriteWord (address : Nat) (data : UInt32) (f : Flasher) : Flasher :=
  f.note (.write address data)

/-! ### The handlers -/

/-- `NVIC_SystemReset`. The flasher variables are initialised again when the next
session starts, and `soft_flasher_start` clears the mode. -/
def nvicSystemReset (f : Flasher) : Flasher := { log := f.log ++ [.reset] }

def pointerBytes (p : Nat) : List UInt8 :=
  [.ofNat p, .ofNat (p >>> 8), .ofNat (p >>> 16), .ofNat (p >>> 24)]

/-- `comms_control_handler`: the response, unless the request ends the session. -/
def commsControlHandler (d : Device) (req : ControlPacket) (f : Flasher) :
    Option (List UInt8) × Flasher :=
  let resp (first second : UInt8) : Option (List UInt8) :=
    some ([first, second, req.request, ~~~req.request, 0xde, 0xad, 0xd0, 0x0d] ++
      pointerBytes f.progPtr)
  -- **** 0xb0: flasher echo
  if req.request = 0xb0 then (resp 0xff 0xff, f)
  -- **** 0xb1: unlock flash
  else if req.request = 0xb1 then
    let second : UInt8 := if f.flashLocked then 0xff else 0x00
    let f := if f.flashLocked then f.flashUnlock else f
    (resp 0xff second,
      { f with unlocked := true, progPtr := appStartAddress d.mcu }.note .unlock)
  -- **** 0xb2: erase sector
  else if req.request = 0xb2 then
    let (erased, f) := f.flashEraseSector d.mcu (.ofNat req.param1.toNat) f.unlocked
    (resp 0xff (if erased then 0xff else 0x00), f)
  -- **** 0xc1: get hardware type
  else if req.request = 0xc1 then (some [d.hwType], f)
  -- **** 0xc3: fetch MCU UID
  else if req.request = 0xc3 then (some d.uid, f)
  -- **** 0xd0: fetch serial number
  else if req.request = 0xd0 then
    (some (if req.param1 = 1 then d.serialNumber else d.getProvisionChunk), f)
  -- **** 0xd1: enter bootloader mode
  else if req.request = 0xd1 then
    if req.param1 = 0 then
      (none, { f with enterBootloaderMode := enterBootloaderMagic }.nvicSystemReset)
    else if req.param1 = 1 then
      (none, { f with enterBootloaderMode := enterSoftloaderMagic }.nvicSystemReset)
    else (resp 0xff 0x00, f)
  -- **** 0xd6: get version
  else if req.request = 0xd6 then (some d.gitversion, f)
  -- **** 0xd8: reset ST
  else if req.request = 0xd8 then (none, f.nvicSystemReset)
  else (resp 0xff 0x00, f)

def words : List UInt8 → List UInt32
  | b0 :: b1 :: b2 :: b3 :: data =>
      .ofNat (b0.toNat + b1.toNat <<< 8 + b2.toNat <<< 16 + b3.toNat <<< 24) :: words data
  | _ => []

def endpoint2Loop : List UInt32 → Flasher → Flasher
  | [], f => f
  | word :: words, f =>
      let f := f.flashWriteWord f.progPtr word
      endpoint2Loop words { f with progPtr := (f.progPtr + 4) % 2 ^ 32 }

def commsEndpoint2Write (data : List UInt8) (f : Flasher) : Flasher := endpoint2Loop (words data) f

/-! ### Runs -/

/-- What the host sends. The other endpoints do nothing in the flasher. -/
inductive Request where
  | control (req : ControlPacket)
  | endpoint2 (data : List UInt8)

def step (d : Device) (f : Flasher) : Request → Flasher
  | .control req => (f.commsControlHandler d req).2
  | .endpoint2 data => f.commsEndpoint2Write data

end Flasher

end Panda.Bootstub
