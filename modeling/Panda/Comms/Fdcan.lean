import Panda.Comms.CanCommon

/-!
`board/drivers/fdcan.h` with `can_send`: the interrupt handlers of the CAN-FD
controllers, the calls of the host that reach them, and the machine that runs any
sequence of these. All handlers have one priority, so none interrupts another.
Left out are the registers, and the handling of bus errors.
-/

namespace Panda.Comms

open Library Safety

/-- What a call reads beside its arguments: the microsecond timer, whether the
transmit FIFO of the controller is full, and the memory of the packet that
`process_can` does not initialise. -/
structure Hardware where
  ts : UInt32
  txFifoFull : Bool
  stack : CANPacket

def quiet : Hardware where
  ts := 0
  txFifoFull := true
  stack := ofStruct []

/-! ### Elements of the message RAM -/

def dataLenW (code : Fin 16) : Nat := dlcToLen code / 4 + if dlcToLen code % 4 > 0 then 1 else 0

/-- `BYTE_ARRAY_TO_WORD` of the four bytes from an index on. -/
def byteArrayToWord (packet : CANPacket) (i : Nat) : UInt32 :=
  let byte (k : Nat) : UInt32 := (getByte8 packet (i + k)).toUInt32
  byte 0 ||| byte 1 <<< 8 ||| byte 2 <<< 16 ||| byte 3 <<< 24

/-- A byte of `WORD_TO_BYTE_ARRAY`. -/
def wordByte (word : UInt32) (k : Nat) : UInt8 := (word >>> (8 * k).toUInt32).toUInt8

def bit (set : Bool) (i : UInt32) : UInt32 := if set then 1 <<< i else 0

def txElement (canfdEnabled brsEnabled : Bool) (toSend : CANPacket) : CanfdFifo where
  header0 := bit toSend.extended 30 |||
    if toSend.extended then UInt32.ofNat toSend.addr else UInt32.ofNat toSend.addr <<< 18
  header1 := UInt32.ofNat toSend.dataLenCode <<< 16 ||| bit canfdEnabled 21 ||| bit brsEnabled 20
  dataWord := (List.range (dataLenW toSend.dataLenCode)).map fun i => byteArrayToWord toSend (i * 4)

def CanfdFifo.fdf (fifo : CanfdFifo) : Bool := fifo.header1 >>> 21 &&& 1 != 0

def CanfdFifo.brs (fifo : CanfdFifo) : Bool := fifo.header1 >>> 20 &&& 1 != 0

def CanfdFifo.extended (fifo : CanfdFifo) : Bool := fifo.header0 >>> 30 &&& 1 != 0

/-- One iteration of the loop of `can_rx`: the element, whether the FIFO is full,
and the memory of the two packets that it does not initialise. -/
structure RxFrame where
  fifo : CanfdFifo
  fifoFull : Bool
  toPush : CANPacket
  toSend : CANPacket

def receivedFrame (busNumber : Fin 3) (frame : RxFrame) : CANPacket :=
  let code : Fin 16 := Fin.ofNat 16 (frame.fifo.header1 >>> 16).toNat
  canSetChecksum
    { frame.toPush with
      returned := false
      rejected := false
      extended := frame.fifo.extended
      addr := Fin.ofNat (2 ^ 29) <|
        if frame.fifo.extended then (frame.fifo.header0 &&& 0x1FFFFFFF).toNat
        else (frame.fifo.header0 >>> 18 &&& 0x7FF).toNat
      bus := busField busNumber
      dataLenCode := code
      data := fun i =>
        if i / 4 < dataLenW code then wordByte (frame.fifo.dataWord.getD (i / 4) 0) (i % 4)
        else frame.toPush.data i }

def copyPacket (stack packet : CANPacket) : CANPacket :=
  { stack with
    returned := false
    rejected := false
    extended := packet.extended
    addr := packet.addr
    bus := packet.bus
    dataLenCode := packet.dataLenCode
    data := fun i => if i < getLen packet then packet.data i else stack.data i }

def returnedEcho (busNumber : Fin 3) (stack toSend : CANPacket) : CANPacket :=
  canSetChecksum { copyPacket stack toSend with returned := true, bus := busField busNumber }

/-- The packet that `can_send` sends back to the host. -/
def rejectedEcho (toPush : CANPacket) : CANPacket :=
  canSetChecksum { toPush with returned := false, rejected := true }

def forwardedFrame (stack toPush : CANPacket) : CANPacket :=
  canSetChecksum (copyPacket stack toPush)

namespace Driver

def count (canNumber : Fin 3) (f : CanHealth → CanHealth) (d : Driver) : Driver :=
  { d with canHealth := Function.update d.canHealth canNumber (f (d.canHealth canNumber)) }

/-! ### Transmission -/

def txFifo (canNumber : Fin 3) (toSend : CANPacket) (d : Driver) : CanfdFifo :=
  txElement (d.busConfig canNumber).canfdEnabled (d.busConfig canNumber).brsEnabled toSend

/-- The part of `process_can` for a packet with a valid checksum. -/
def transmit (canNumber busNumber : Fin 3) (stack toSend : CANPacket) (d : Driver) : Driver :=
  d.count canNumber (fun health => { health with totalTxCnt := health.totalTxCnt + 1 })
    |>.note (.written busNumber canNumber toSend (d.txFifo canNumber toSend))
    |>.pushRx (returnedEcho busNumber stack toSend)

def dropInvalid (canNumber busNumber : Fin 3) (toSend : CANPacket) (d : Driver) : Driver :=
  d.count canNumber (fun health =>
      { health with totalTxChecksumErrorCnt := health.totalTxChecksumErrorCnt + 1 })
    |>.note (.checksumError busNumber canNumber toSend)

def processCan (canNumber : Fin 3) (hw : Hardware) (d : Driver) : Driver :=
  let busNumber := (d.busConfig canNumber).busLookup
  if hw.txFifoFull then d
  else
    match canPop (d.canQueues busNumber) with
    | (none, _) => d
    | (some toSend, q) =>
        let d := { d with canQueues := Function.update d.canQueues busNumber q }
        let d := if canCheckChecksum toSend then transmit canNumber busNumber hw.stack toSend d
          else dropInvalid canNumber busNumber toSend d
        d.refreshCanTxSlotsAvailable

/-- What `process_can` can do: nothing, or take the oldest packet of the bus. -/
theorem processCan_cases (canNumber : Fin 3) (hw : Hardware) (d : Driver) :
    d.processCan canNumber hw = d ∨
      ∃ toSend q, canPop (d.canQueues (d.busConfig canNumber).busLookup) = (some toSend, q) ∧
        let popped := { d with
          canQueues := Function.update d.canQueues (d.busConfig canNumber).busLookup q }
        d.processCan canNumber hw =
          (if canCheckChecksum toSend then
              popped.transmit canNumber (d.busConfig canNumber).busLookup hw.stack toSend
            else popped.dropInvalid canNumber (d.busConfig canNumber).busLookup toSend
            ).refreshCanTxSlotsAvailable := by
  unfold processCan
  by_cases hfull : hw.txFifoFull = true
  · left
    exact if_pos hfull
  · simp only [if_neg hfull]
    rcases canPop (d.canQueues (d.busConfig canNumber).busLookup) with ⟨_ | toSend, q⟩
    · exact .inl rfl
    · exact .inr ⟨toSend, q, rfl, rfl⟩

def enqueue (toPush : CANPacket) (busNumber : Nat) (hw : Hardware) (d : Driver) : Driver :=
  if h : busNumber < 3 then
    let d := d.pushTx ⟨busNumber, h⟩ toPush
    d.processCan (d.busConfig ⟨busNumber, h⟩).canNumLookup hw
  else d

def runTxHook (toPush : CANPacket) (ts : UInt32) (d : Driver) : Driver :=
  { d with main := { d.main with safety := safetyTxHook ts toPush d.main.safety } }

/-- The part of `can_send` for a packet that the safety hook does not let
through. -/
def reject (toPush : CANPacket) (busNumber : Nat) (d : Driver) : Driver :=
  { d with main := { d.main with safetyTxBlocked := d.main.safetyTxBlocked + 1 } }
    |>.note (.rejected busNumber toPush)
    |>.pushRx (rejectedEcho toPush)

def canSend (toPush : CANPacket) (busNumber : Nat) (skipTxHook : Bool) (hw : Hardware)
    (d : Driver) : Driver :=
  let d := d.note (.handed busNumber toPush)
  if skipTxHook then d.enqueue toPush busNumber hw
  else
    let accepted := d.main.safety.txAccepted hw.ts toPush
    let d := d.runTxHook toPush hw.ts
    if accepted then d.enqueue toPush busNumber hw else d.reject toPush busNumber

/-! ### Reception -/

/-- The bus that a received packet is forwarded to; `-1` is none. -/
def busFwdNum (canNumber busNumber : Fin 3) (toPush : CANPacket) (d : Driver) : Int :=
  let busFwdNum := safetyFwdHook busNumber (getAddr toPush) d.main.safety
  if busFwdNum < 0 then (d.busConfig canNumber).forwardingBus else busFwdNum

/-- The forwarding part of `can_rx`. The bus number is converted to `uint8_t`. -/
def forward (canNumber busNumber : Fin 3) (frame : RxFrame) (hw : Hardware) (d : Driver) : Driver :=
  let toPush := receivedFrame busNumber frame
  let busFwdNum := d.busFwdNum canNumber busNumber toPush
  if busFwdNum ≠ -1 then
    d.canSend (forwardedFrame frame.toSend toPush) (busFwdNum % 256).toNat true hw
      |>.count canNumber fun health => { health with totalFwdCnt := health.totalFwdCnt + 1 }
  else d

def runRxHook (toPush : CANPacket) (ts : UInt32) (d : Driver) : Driver :=
  { d with
    main := Main.ignitionCanHook toPush
      { d.main with
        safety := safetyRxHook ts toPush d.main.safety
        safetyRxInvalid :=
          d.main.safetyRxInvalid + if d.main.safety.rxValid ts toPush then 0 else 1 } }

def raiseConfig (canNumber : Fin 3) (fifo : CanfdFifo) (d : Driver) : Driver :=
  let config := d.busConfig canNumber
  { d with
    busConfig := Function.update d.busConfig canNumber
      { config with
        canfdEnabled := config.canfdEnabled || fifo.fdf
        brsEnabled := config.brsEnabled || fifo.brs } }

/-- The loop of `can_rx` for one frame. -/
def canRx (canNumber : Fin 3) (frame : RxFrame) (hw : Hardware) (d : Driver) : Driver :=
  let busNumber := (d.busConfig canNumber).busLookup
  let toPush := receivedFrame busNumber frame
  d.count canNumber (fun health =>
      { health with
        totalRxCnt := health.totalRxCnt + 1
        totalRxLostCnt := health.totalRxLostCnt + if frame.fifoFull then 1 else 0 })
    |>.forward canNumber busNumber frame hw
    |>.runRxHook toPush hw.ts
    |>.note (.received toPush)
    |>.pushRx toPush
    |>.raiseConfig canNumber frame.fifo

/-! ### The host -/

def sendAll : List CANPacket → (Nat → Hardware) → Driver → Driver
  | [], _, d => d
  | toPush :: packets, hw, d =>
      sendAll packets (fun i => hw (i + 1)) (d.canSend toPush (getBus toPush) false (hw 0))

def commsCanWrite (data : List UInt8) (hw : Nat → Hardware) (d : Driver) : Driver :=
  let (packets, comms) := Comms.commsCanWrite data d.comms
  { d with comms } |>.sendAll packets hw |>.refreshCanTxSlotsAvailable

/-- The branch of `spi_rx_done` for endpoint 3. It acknowledges data only when the
transmit queues have been found to have room. -/
def spiCanWrite (data : List UInt8) (hw : Nat → Hardware) (d : Driver) : Bool × Driver :=
  if data.length > 0 ∧ d.spiCanTxReady = true then
    (true, { d with spiCanTxReady := false }.commsCanWrite data hw)
  else (false, d)

def commsCanRead (maxLen : Nat) (d : Driver) : Driver :=
  let (bytes, comms) := Comms.commsCanRead maxLen d.comms
  { d with comms } |>.note (.hostRead bytes)

/-- As far as the queues go. -/
def canInit (canNumber : Fin 3) (hw : Hardware) (d : Driver) : Driver := d.processCan canNumber hw

def dataSpeeds : List UInt32 := [100, 200, 500, 1000, 1250, 2500, 5000, 10000, 20000, 50000]

/-- What the control request 0xf9 writes to an entry. -/
def setDataSpeed (speed : UInt32) (config : BusConfig) : BusConfig :=
  { config with
    canDataSpeed := speed
    canfdEnabled := speed ≥ config.canSpeed
    brsEnabled := speed > config.canSpeed }

/-- The control request 0xf9 on a board with CAN FD. -/
def setDataBitrate (param1 : Fin 3) (param2 : UInt16) (hw : Hardware) (d : Driver) : Driver :=
  if param2.toUInt32 ∈ dataSpeeds then
    let d := { d with
      busConfig := Function.update d.busConfig param1
        (setDataSpeed param2.toUInt32 (d.busConfig param1)) }
    d.canInit (d.busConfig param1).canNumLookup hw
  else d

/-- The control request 0xfc on a board with CAN FD. -/
def setNonIso (param1 : Fin 3) (param2 : UInt16) (hw : Hardware) (d : Driver) : Driver :=
  let config := d.busConfig param1
  let d := { d with
    busConfig := Function.update d.busConfig param1 { config with canfdNonIso := param2 ≠ 0 } }
  d.canInit (d.busConfig param1).canNumLookup hw

end Driver

/-! ### Runs -/

inductive DriverEvent where
  | send (toPush : CANPacket) (hw : Hardware)
  | write (data : List UInt8) (hw : Nat → Hardware)
  | spiWrite (data : List UInt8) (hw : Nat → Hardware)
  | read (maxLen : Nat)
  | processCan (canNumber : Fin 3) (hw : Hardware)
  | rx (canNumber : Fin 3) (frame : RxFrame) (hw : Hardware)
  | clearTx (bus : Fin 3)
  | clearRx
  | setOrientation (flipped : Bool)
  | setDataBitrate (param1 : Fin 3) (param2 : UInt16) (hw : Hardware)
  | setNonIso (param1 : Fin 3) (param2 : UInt16) (hw : Hardware)
  | main (board : Main.Board) (e : Main.Event)

def driverStep (d : Driver) : DriverEvent → Driver
  | .send toPush hw => d.canSend toPush (getBus toPush) false hw
  | .write data hw => d.commsCanWrite data hw
  | .spiWrite data hw => (d.spiCanWrite data hw).2
  | .read maxLen => d.commsCanRead maxLen
  | .processCan canNumber hw => d.processCan canNumber hw
  | .rx canNumber frame hw => d.canRx canNumber frame hw
  | .clearTx bus => d.clearTx bus
  | .clearRx => d.clearRx
  | .setOrientation flipped => d.canSetOrientation flipped
  | .setDataBitrate param1 param2 hw => d.setDataBitrate param1 param2 hw
  | .setNonIso param1 param2 hw => d.setNonIso param1 param2 hw
  | .main board e => { d with main := Main.step board d.main e }

def initialDriver (main : Main.State) : Driver where
  main
  comms := powerOnComms
  canQueues _ :=
    { wPtr := 0, rPtr := 0, fifoSize := canTxBufferSize, elems := fun _ => ofStruct []
      wPtr_lt := by decide, rPtr_lt := by decide }
  busConfig bus := { busLookup := bus, canNumLookup := bus }

end Panda.Comms
