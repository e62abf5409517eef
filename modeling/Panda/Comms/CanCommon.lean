import Panda.Comms.Pack
import Panda.Main.Machine

/-!
The state of the CAN driver: `board/drivers/can_common.h`, with the queues and
checksums that it keeps and the flow control of `can_comms.h`. Beside the
variables the state has a log of what became of each packet, which no function
reads. Left out is the flow control of USB.
-/

namespace Panda.Comms

open Library Safety

/-- `bus_config_t`. The entries for the three buses, whose lookups are never outside
of them; nothing uses the fourth one. -/
structure BusConfig where
  busLookup : Fin 3
  canNumLookup : Fin 3
  forwardingBus : Int := -1
  canSpeed : UInt32 := 5000
  canDataSpeed : UInt32 := 20000
  canfdEnabled : Bool := false
  brsEnabled : Bool := false
  canfdNonIso : Bool := false

/-- The counters of `can_health_t` that the packets touch. -/
structure CanHealth where
  totalTxCnt : UInt32 := 0
  totalTxChecksumErrorCnt : UInt32 := 0
  totalRxCnt : UInt32 := 0
  totalRxLostCnt : UInt32 := 0
  totalFwdCnt : UInt32 := 0

/-- `canfd_fifo`, an element of the message RAM, with the words of data that are
used. -/
structure CanfdFifo where
  header0 : UInt32
  header1 : UInt32
  dataWord : List UInt32
deriving DecidableEq

inductive Entry where
  | handed (busNumber : Nat) (packet : CANPacket)
  | rejected (busNumber : Nat) (packet : CANPacket)
  | accepted (bus : Fin 3) (packet : CANPacket)
  | txOverflow (bus : Fin 3) (packet : CANPacket)
  | written (bus canNumber : Fin 3) (packet : CANPacket) (fifo : CanfdFifo)
  | checksumError (bus canNumber : Fin 3) (packet : CANPacket)
  | received (packet : CANPacket)
  | rxPushed (packet : CANPacket)
  | rxOverflow (packet : CANPacket)
  | hostRead (bytes : List UInt8)

/-- The variables of the CAN driver, over those of the main loop and of
`can_comms.h`, and `spi_can_tx_ready`. -/
structure Driver where
  main : Main.State
  comms : CanComms
  canQueues : Fin 3 → CanRing
  busConfig : Fin 3 → BusConfig
  canHealth : Fin 3 → CanHealth := fun _ => {}
  txBufferOverflow : UInt32 := 0
  rxBufferOverflow : UInt32 := 0
  spiCanTxReady : Bool := false
  log : List Entry := []

/-- `GET_BUS` values as the numbers of buses. -/
def busField (bus : Fin 3) : Fin 8 := bus.castLE (by decide)

/-! ### Checksums -/

def canSetChecksum (packet : CANPacket) : CANPacket :=
  { packet with checksum := calculateChecksum (wireBytes { packet with checksum := 0 }) }

/-- The host computes the same checksum. -/
theorem calculateChecksum_eq : calculateChecksum = Host.calculateChecksum := rfl

/-- The checksum byte is one of the bytes of the packet. -/
theorem wireBytes_checksum (packet : CANPacket) :
    ∃ before after, ∀ checksum,
      wireBytes { packet with checksum } = before ++ [checksum] ++ after := by
  refine ⟨(headBytes packet).take 5, (List.ofFn packet.data).take (getLen packet), ?_⟩
  intro checksum
  rw [wireBytes_eq]
  rfl

theorem canSetChecksum_valid (packet : CANPacket) :
    canCheckChecksum (canSetChecksum packet) = true := by
  obtain ⟨before, after, hbytes⟩ := wireBytes_checksum packet
  have hbyte : ∀ b : UInt8, Host.calculateChecksum [b] = b := fun b => UInt8.zero_xor
  unfold canCheckChecksum canSetChecksum
  rw [hbytes, hbytes, calculateChecksum_eq]
  simp only [calculateChecksum_append, hbyte]
  generalize Host.calculateChecksum before = x
  generalize Host.calculateChecksum after = y
  rw [UInt8.xor_zero, ← UInt8.xor_assoc, UInt8.xor_self, UInt8.zero_xor, UInt8.xor_self]
  rfl

/-! ### Queues -/

def canSlotsEmpty (q : CanRing) : Nat :=
  if q.wPtr ≥ q.rPtr then q.fifoSize - 1 - q.wPtr + q.rPtr else q.rPtr - q.wPtr - 1

theorem canSlotsEmpty_eq (q : CanRing) :
    canSlotsEmpty q + q.queued.length = q.fifoSize - 1 := by
  have hw := q.wPtr_lt
  have hr := q.rPtr_lt
  rw [CanRing.queued_length]
  unfold canSlotsEmpty ringCount
  split_ifs <;> omega

def canTxBufferSize : Nat := 416

def maxCanMsgsPerSpiBulkTransfer : Nat := 170

def CanRing.clear (q : CanRing) : CanRing :=
  { q with
    wPtr := 0
    rPtr := 0
    wPtr_lt := Nat.zero_lt_of_lt q.wPtr_lt
    rPtr_lt := Nat.zero_lt_of_lt q.rPtr_lt }

theorem CanRing.clear_queued (q : CanRing) : q.clear.queued = [] :=
  CanRing.queued_eq_nil.mpr rfl

namespace Driver

def canTxCheckMinSlotsFree (min : Nat) (d : Driver) : Bool :=
  canSlotsEmpty (d.canQueues 0) ≥ min && canSlotsEmpty (d.canQueues 1) ≥ min &&
    canSlotsEmpty (d.canQueues 2) ≥ min

def refreshCanTxSlotsAvailable (d : Driver) : Driver :=
  { d with
    spiCanTxReady := d.spiCanTxReady || d.canTxCheckMinSlotsFree maxCanMsgsPerSpiBulkTransfer }

def note (entry : Entry) (d : Driver) : Driver := { d with log := d.log ++ [entry] }

/-- `rx_buffer_overflow += can_push(&can_rx_q, &to_push) ? 0U : 1U`. -/
def pushRx (toPush : CANPacket) (d : Driver) : Driver :=
  let (ret, canRxQ) := canPush toPush d.comms.canRxQ
  let d := { d with
    comms := { d.comms with canRxQ }
    rxBufferOverflow := d.rxBufferOverflow + if ret then 0 else 1 }
  d.note (if ret then .rxPushed toPush else .rxOverflow toPush)

/-- `tx_buffer_overflow += can_push(can_queues[bus_number], to_push) ? 0U : 1U`. -/
def pushTx (bus : Fin 3) (toPush : CANPacket) (d : Driver) : Driver :=
  let (ret, q) := canPush toPush (d.canQueues bus)
  let d := { d with
    canQueues := Function.update d.canQueues bus q
    txBufferOverflow := d.txBufferOverflow + if ret then 0 else 1 }
  d.note (if ret then .accepted bus toPush else .txOverflow bus toPush)

def clearTx (bus : Fin 3) (d : Driver) : Driver :=
  { d with canQueues := Function.update d.canQueues bus (d.canQueues bus).clear }
    |>.refreshCanTxSlotsAvailable

def clearRx (d : Driver) : Driver :=
  { d with comms := { d.comms with canRxQ := d.comms.canRxQ.clear } }.refreshCanTxSlotsAvailable

def canSetOrientation (flipped : Bool) (d : Driver) : Driver :=
  let turned (bus : Fin 3) : BusConfig :=
    { d.busConfig bus with
      busLookup := if flipped then bus.rev else bus
      canNumLookup := if flipped then bus.rev else bus }
  { d with busConfig := Function.update (Function.update d.busConfig 0 (turned 0)) 2 (turned 2) }

end Driver

end Panda.Comms
