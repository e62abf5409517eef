import Mathlib.Tactic

/-!
CAN packets as the safety code reads them: `board/can_declarations.h`,
`dlc_to_len` of `board/can.h` and the access macros of
`board/safety_declarations.h`, on the CAN-FD build (64 data bytes).
-/

namespace Panda.Safety

/-! The widths of the bit fields, for the literals of their types. -/

instance busNeZero : NeZero 8 := ⟨by decide⟩

instance dataLenCodeNeZero : NeZero 16 := ⟨by decide⟩

instance addrNeZero : NeZero (2 ^ 29) := ⟨by decide⟩

/-- `CANPacket_t`. The widths of the bit fields are in the types, so that a
packet with a bus above 7 or a length code above 15 cannot be built. -/
structure CANPacket where
  reserved : Bool := false
  bus : Fin 8
  dataLenCode : Fin 16
  rejected : Bool := false
  returned : Bool := false
  extended : Bool := false
  addr : Fin (2 ^ 29)
  checksum : UInt8 := 0
  data : Fin 64 → UInt8

/-- `dlc_to_len`, the number of data bytes for each length code. -/
def dlcToLen (code : Fin 16) : Nat :=
  #v[0, 1, 2, 3, 4, 5, 6, 7, 8, 12, 16, 20, 24, 32, 48, 64][code]

def getBus (msg : CANPacket) : Nat := msg.bus.val

def getLen (msg : CANPacket) : Nat := dlcToLen msg.dataLenCode

def getAddr (msg : CANPacket) : Nat := msg.addr.val

/-- `GET_BYTE` as an `unsigned char`. -/
def getByte8 (msg : CANPacket) (b : Nat) : UInt8 :=
  if h : b < 64 then msg.data ⟨b, h⟩ else 0

/-- `GET_BYTE` after the promotion to `int` that every use in an arithmetic
expression makes. -/
def getByte (msg : CANPacket) (b : Nat) : Nat := (getByte8 msg b).toNat

def getBit (msg : CANPacket) (b : Nat) : Bool :=
  (getByte msg (b / 8)).testBit (b % 8)

/-- `GET_BYTES`: little endian, at most four bytes in this code base. -/
def getBytes (msg : CANPacket) (start len : Nat) : Nat :=
  (List.range len).foldl (fun ret i => ret ||| (getByte msg (start + i) <<< (i * 8))) 0

/-- `GET_FLAG`: every bit of the mask is set. -/
def getFlag (value mask : Nat) : Bool := (value &&& mask) == mask

/-- `to_signed`: read a trimmed integer of the given width as signed. -/
def toSigned (d : Int) (bits : Nat) : Int :=
  if d ≥ 2 ^ (bits - 1) then d - 2 ^ bits else d

/-- `get_ts_elapsed` on the 32-bit microsecond timer. -/
def getTsElapsed (ts tsLast : UInt32) : UInt32 := ts - tsLast

/-- A packet of up to eight listed bytes, the rest of the buffer zero. -/
def CANPacket.ofBytes (addr : Fin (2 ^ 29)) (bus : Fin 8) (dataLenCode : Fin 16)
    (bytes : List UInt8) : CANPacket where
  bus := bus
  dataLenCode := dataLenCode
  addr := addr
  data i := bytes.getD i.val 0

end Panda.Safety
