import Panda.Comms.Fdcan
import Panda.Library.Transition
import Panda.Safety.BeyondLength

/-!
`board/drivers/bxcan.h`: the CAN driver of the classic build, in which a
`CANPacket_t` has eight data bytes. The variables of the driver are those of the
CAN-FD build, and a packet is modelled with the bytes that may follow it in memory.
Beside them the state has a log of how far the code reaches into packets and into the
buffers of `can_comms.h`. Left out are the other registers, and lost arbitration.
-/

namespace Panda.Comms.Bxcan

open Library Safety

/-- `CANPACKET_DATA_SIZE_MAX` of the classic build. -/
def canpacketDataSizeMax : Nat := 8

/-- An access to the leading bytes of a packet or of an `asm_buffer`. -/
inductive Access where
  | packet (bytes : Nat)
  | asmBuffer (bytes : Nat)
deriving DecidableEq

def Access.Inside : Access → Prop
  | .packet bytes => bytes ≤ canpacketHeadSize + canpacketDataSizeMax
  | .asmBuffer bytes => bytes ≤ 72

/-- A mailbox of the controller, to send or to receive: the registers with the
identifier, the length code and the data. -/
structure MailBox where
  ir : UInt32
  dtr : UInt32
  dlr : UInt32
  dhr : UInt32

/-- What a call reads beside its arguments: the microsecond timer, the flags of the
first transmit mailbox (empty, request completed, transmission OK), and the memory of
the packet that `process_can` does not initialise. -/
structure Hardware where
  ts : UInt32
  tme : Bool
  rqcp : Bool
  txok : Bool
  stack : CANPacket

def busy : Hardware where
  ts := 0
  tme := false
  rqcp := false
  txok := false
  stack := ofStruct []

/-- One iteration of the loop of `can_rx`: the receive mailbox, and the memory of the
two packets that it does not initialise. -/
structure RxMessage where
  mailBox : MailBox
  toPush : CANPacket
  toSend : CANPacket

structure State where
  driver : Driver
  /-- What was written last to the first transmit mailbox of each controller. -/
  txMailBox : Fin 3 → Option MailBox := fun _ => none
  accesses : List Access := []

/-! ### Packets and mailboxes -/

def MailBox.dataLenCode (m : MailBox) : Fin 16 := Fin.ofNat 16 (m.dtr &&& 0xF).toNat

def MailBox.packet (busNumber : Fin 3) (returned : Bool) (stack : CANPacket) (m : MailBox) :
    CANPacket :=
  let extended := m.ir >>> 2 &&& 1 != 0
  canSetChecksum
    { stack with
      returned
      rejected := false
      extended
      addr := Fin.ofNat (2 ^ 29) (if extended then m.ir >>> 3 else m.ir >>> 21).toNat
      bus := busField busNumber
      dataLenCode := m.dataLenCode
      data := fun i =>
        if i < 4 then wordByte m.dlr i
        else if i < 8 then wordByte m.dhr (i - 4)
        else stack.data i }

/-- The mailbox that `process_can` writes, with the request to transmit. -/
def txMailBoxOf (toSend : CANPacket) : MailBox where
  ir :=
    (if toSend.extended then UInt32.ofNat toSend.addr <<< 3
      else UInt32.ofNat toSend.addr <<< 21) |||
      bit toSend.extended 2 ||| 1
  dtr := UInt32.ofNat toSend.dataLenCode
  dlr := byteArrayToWord toSend 0
  dhr := byteArrayToWord toSend 4

/-! ### Accesses -/

def packetLen (packet : CANPacket) : Nat := canpacketHeadSize + getLen packet

def branchAccesses (branches : List (Bool × Nat)) : List Access :=
  (branches.filter fun branch => branch.1).map fun branch => .packet (canpacketHeadSize + branch.2)

/-- How far `safety_rx_hook` and `ignition_can_hook` reach: to the length of the packet,
over which checksums are computed, and to the bytes of the branches that are taken. -/
def rxHookAccesses (s : Safety.State) (toPush : CANPacket) : List Access :=
  .packet (packetLen toPush) ::
    branchAccesses (rxBranches s.currentHooks s.alternativeExperience s.params s.signals
      (getAddr toPush) (getBus toPush))

def txHookAccesses (s : Safety.State) (toSend : CANPacket) : List Access :=
  .packet (packetLen toSend) ::
    branchAccesses (txBranches s.currentHooks s.params (getAddr toSend) ++
      commandBranches s.currentHooks s.params s.signals (getAddr toSend) (getBus toSend))

def assembleAccesses (data : List UInt8) (b : AsmBuffer) : List Access :=
  if b.ptr ≠ 0 then
    if b.tailSize ≤ data.length then
      [.asmBuffer (b.ptr + b.tailSize), .packet (b.ptr + b.tailSize)]
    else [.asmBuffer (b.ptr + data.length)]
  else []

def writeLoopAccesses (data : List UInt8) : Nat → Nat → List Access
  | 0, _ => []
  | fuel + 1, pos =>
      if pos < data.length then
        let pcktLen := canpacketHeadSize + dlcToLen (lenCode (data.getD pos 0))
        if pos + pcktLen ≤ data.length then
          .packet pcktLen :: writeLoopAccesses data fuel (pos + pcktLen)
        else
          let ptr := data.length - pos
          .asmBuffer ptr :: writeLoopAccesses data fuel (pos + ptr)
      else []

def writeAccesses (data : List UInt8) (b : AsmBuffer) : List Access :=
  assembleAccesses data b ++
    writeLoopAccesses data (data.length + 1) (writeAssemble data b).2.1

def tailAccesses (maxLen : Nat) (b : AsmBuffer) : List Access :=
  if b.ptr > 0 then
    let overflowLen := min maxLen b.ptr
    [.asmBuffer overflowLen, .asmBuffer (overflowLen + (b.ptr - overflowLen))]
  else []

/-- How far `readLoop` reaches, from a position in the data. -/
def readLoopAccesses (maxLen : Nat) : Nat → Nat → CanComms → List Access
  | 0, _, _ => []
  | fuel + 1, pos, s =>
      if pos < maxLen then
        match canPop s.canRxQ with
        | (none, _) => []
        | (some canPacket, canRxQ) =>
            let pcktLen := packetLen canPacket
            if pos + pcktLen ≤ maxLen then
              .packet pcktLen :: readLoopAccesses maxLen fuel (pos + pcktLen) { s with canRxQ }
            else
              let ptr := s.canReadBuffer.ptr + (pcktLen - (maxLen - pos))
              [.packet pcktLen, .asmBuffer ptr]
      else []

def readAccesses (maxLen : Nat) (s : CanComms) : List Access :=
  let (out, canReadBuffer) := readTail maxLen s.canReadBuffer
  tailAccesses maxLen s.canReadBuffer ++
    if canReadBuffer.ptr = 0 then
      readLoopAccesses maxLen (maxLen + 1) out.length { s with canReadBuffer }
    else []

namespace State

def lift (f : Driver → Driver) (s : State) : State := { s with driver := f s.driver }

def access (accesses : List Access) (s : State) : State :=
  { s with accesses := s.accesses ++ accesses }

/-! ### Transmission -/

def echo (busNumber : Fin 3) (stack : CANPacket) (m : MailBox) (s : State) : State :=
  let toPush := m.packet busNumber true stack
  s.access [.packet (packetLen toPush)] |>.lift (Driver.pushRx toPush)

/-- The echo of the last message, when its transmission was OK. -/
def echoTransmitted (canNumber busNumber : Fin 3) (hw : Hardware) (s : State) : State :=
  match s.txMailBox canNumber with
  | some m => if hw.rqcp && hw.txok then s.echo busNumber hw.stack m else s
  | none => s

def transmit (canNumber : Fin 3) (toSend : CANPacket) (s : State) : State :=
  let s := s.access [.packet (packetLen toSend)]
  if canCheckChecksum toSend then
    { s with txMailBox := Function.update s.txMailBox canNumber (some (txMailBoxOf toSend)) }
      |>.lift (Driver.count canNumber fun health =>
        { health with totalTxCnt := health.totalTxCnt + 1 })
  else
    s.lift (Driver.count canNumber fun health =>
      { health with totalTxChecksumErrorCnt := health.totalTxChecksumErrorCnt + 1 })

def sendNext (canNumber busNumber : Fin 3) (s : State) : State :=
  match canPop (s.driver.canQueues busNumber) with
  | (none, _) => s
  | (some toSend, q) =>
      s.lift (fun d => { d with canQueues := Function.update d.canQueues busNumber q })
        |>.transmit canNumber toSend
        |>.lift Driver.refreshCanTxSlotsAvailable

def processCan (canNumber : Fin 3) (hw : Hardware) (s : State) : State :=
  let busNumber := (s.driver.busConfig canNumber).busLookup
  if hw.tme then s.echoTransmitted canNumber busNumber hw |>.sendNext canNumber busNumber
  else s

def enqueue (toPush : CANPacket) (busNumber : Nat) (hw : Hardware) (s : State) : State :=
  if h : busNumber < 3 then
    let s := s.lift (Driver.pushTx ⟨busNumber, h⟩ toPush)
    s.processCan (s.driver.busConfig ⟨busNumber, h⟩).canNumLookup hw
  else s

/-- The part of `can_send` for a packet that the safety hook does not let through. -/
def reject (toPush : CANPacket) (s : State) : State :=
  s.access [.packet (packetLen toPush)]
    |>.lift (fun d =>
      { d with main := { d.main with safetyTxBlocked := d.main.safetyTxBlocked + 1 } })
    |>.lift (Driver.pushRx (rejectedEcho toPush))

def canSend (toPush : CANPacket) (busNumber : Nat) (skipTxHook : Bool) (hw : Hardware)
    (s : State) : State :=
  if skipTxHook then s.enqueue toPush busNumber hw
  else
    let accepted := s.driver.main.safety.txAccepted hw.ts toPush
    let s := s.access (txHookAccesses s.driver.main.safety toPush)
      |>.lift (Driver.runTxHook toPush hw.ts)
    if accepted then s.enqueue toPush busNumber hw else s.reject toPush

/-! ### Reception -/

/-- The bus number is converted to `uint8_t`. -/
def forward (canNumber busNumber : Fin 3) (stack toPush : CANPacket) (hw : Hardware)
    (s : State) : State :=
  let busFwdNum := safetyFwdHook busNumber (getAddr toPush) s.driver.main.safety
  if busFwdNum ≠ -1 then
    s.access [.packet (packetLen toPush), .packet (packetLen toPush)]
      |>.canSend (forwardedFrame stack toPush) (busFwdNum % 256).toNat true hw
      |>.lift (Driver.count canNumber fun health =>
        { health with totalFwdCnt := health.totalFwdCnt + 1 })
  else s

/-- The loop of `can_rx` for one message. -/
def canRx (canNumber : Fin 3) (msg : RxMessage) (hw : Hardware) (s : State) : State :=
  let busNumber := (s.driver.busConfig canNumber).busLookup
  let toPush := msg.mailBox.packet busNumber false msg.toPush
  let s := s.lift (Driver.count canNumber fun health =>
      { health with totalRxCnt := health.totalRxCnt + 1 })
    |>.access [.packet (packetLen toPush)]
    |>.forward canNumber busNumber msg.toSend toPush hw
  s.access (rxHookAccesses s.driver.main.safety toPush)
    |>.lift (Driver.runRxHook toPush hw.ts)
    |>.lift (Driver.pushRx toPush)

/-! ### The host -/

def commsCanRead (maxLen : Nat) (s : State) : State :=
  s.access (readAccesses maxLen s.driver.comms)
    |>.lift fun d => { d with comms := (Comms.commsCanRead maxLen d.comms).2 }

def sendAll : List CANPacket → (Nat → Hardware) → State → State
  | [], _, s => s
  | toPush :: packets, hw, s =>
      sendAll packets (fun i => hw (i + 1)) (s.canSend toPush (getBus toPush) false (hw 0))

def commsCanWrite (data : List UInt8) (hw : Nat → Hardware) (s : State) : State :=
  let (packets, comms) := Comms.commsCanWrite data s.driver.comms
  s.access (writeAccesses data s.driver.comms.canWriteBuffer)
    |>.lift (fun d => { d with comms })
    |>.sendAll packets hw
    |>.lift Driver.refreshCanTxSlotsAvailable

end State

/-! ### Runs -/

/-- The main loop in a state of the classic build, which does not have the CAN-FD mode
of Hyundai. -/
structure ClassicMain where
  main : Main.State
  classic : main.safety.currentHooks ≠ .hyundaiCanfd

/-- What can happen in any order: writes and reads of the host in chunks of any size,
messages of any content, transmissions, and whatever the main loop does between. -/
inductive Event where
  | write (data : List UInt8) (hw : Nat → Hardware)
  | read (maxLen : Nat)
  | reset
  | processCan (canNumber : Fin 3) (hw : Hardware)
  | rx (canNumber : Fin 3) (msg : RxMessage) (hw : Hardware)
  | clearTx (bus : Fin 3)
  | clearRx
  | setOrientation (flipped : Bool)
  | main (m : ClassicMain)

def step (s : State) : Event → State
  | .write data hw => s.commsCanWrite data hw
  | .read maxLen => s.commsCanRead maxLen
  | .reset => s.lift fun d => { d with comms := commsCanReset d.comms }
  | .processCan canNumber hw => s.processCan canNumber hw
  | .rx canNumber msg hw => s.canRx canNumber msg hw
  | .clearTx bus => s.lift (Driver.clearTx bus)
  | .clearRx => s.lift Driver.clearRx
  | .setOrientation flipped => s.lift (Driver.canSetOrientation flipped)
  | .main m => s.lift fun d => { d with main := m.main }

def start (m : ClassicMain) : State where
  driver := initialDriver m.main

end Panda.Comms.Bxcan
