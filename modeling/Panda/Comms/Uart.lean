import Panda.Comms.SpiAccess
import Panda.Library.Loop
import Panda.Library.Ring
import Panda.Library.Transition

/-!
The transmit rings of `board/drivers/uart.h` and `comms_endpoint2_write` of
`board/main_comms.h`, which waits for room in a ring without any interrupt. A ring in
overwrite mode makes room, unless it is the ring of one cell that stands for the
missing UART of the STM32F4.
-/

namespace Panda.Comms

open Library

/-- The transmit half of `uart_ring`. -/
structure UartRing where
  wPtrTx : UInt16
  rPtrTx : UInt16
  elemsTx : Nat → UInt8
  txFifoSize : UInt32
  overwrite : Bool

/-- A ring with its transmitter: whether the transmit register is found empty at the
next reads of its flag, and the bytes that were written to it. -/
structure Uart where
  ring : UartRing
  txe : Nat → Bool
  sent : List UInt8

inductive RingName where
  | debug
  | somDebug
deriving DecidableEq

def getRingByNumber (a : UInt8) : Option RingName :=
  if a = 0 then some .debug else if a = 4 then some .somDebug else none

def fifoSizeInt : UInt32 := 0x400

/-- The transmit sizes of `UART_BUFFER`. UART7 is not available on the STM32F4. -/
def Mcu.txFifoSize : Mcu → RingName → UInt32
  | _, .debug => fifoSizeInt
  | .stm32h7, .somDebug => fifoSizeInt
  | .stm32f4, .somDebug => 1

def nextPtr (ptr : UInt16) (size : UInt32) : UInt16 := ((ptr.toUInt32 + 1) % size).toUInt16

namespace UartRing

/-- In overwrite mode, drop the oldest byte of a full ring. -/
def makeRoom (nextWPtr : UInt16) (q : UartRing) : UartRing :=
  if nextWPtr = q.rPtrTx ∧ q.overwrite = true then
    { q with rPtrTx := nextPtr q.rPtrTx q.txFifoSize }
  else q

def store (nextWPtr : UInt16) (elem : UInt8) (q : UartRing) : UartRing :=
  { q with
    elemsTx := Function.update q.elemsTx q.wPtrTx.toNat elem
    wPtrTx := nextWPtr }

end UartRing

/-- `uart_tx_ring`. Whether it enables the interrupt is left out. -/
def uartTxRing (u : Uart) : Uart :=
  let q := u.ring
  if q.wPtrTx ≠ q.rPtrTx then
    let txe := fun n => u.txe (n + 1)
    if u.txe 0 then
      { ring := { q with rPtrTx := nextPtr q.rPtrTx q.txFifoSize }
        txe
        sent := u.sent ++ [q.elemsTx q.rPtrTx.toNat] }
    else { u with txe }
  else u

def putChar (elem : UInt8) (u : Uart) : Bool × Uart :=
  let nextWPtr := nextPtr u.ring.wPtrTx u.ring.txFifoSize
  let q := u.ring.makeRoom nextWPtr
  if nextWPtr ≠ q.rPtrTx then (true, uartTxRing { u with ring := q.store nextWPtr elem })
  else (false, uartTxRing { u with ring := q })

/-- `while (!put_char(ur, elem)) {}`. -/
def waitBody (elem : UInt8) (u : Uart) : Uart ⊕ Uart :=
  let (ret, u) := putChar elem u
  if ret then .inr u else .inl u

def writeBytes (fuel : Nat) (data : List UInt8) (u : Uart) : Option Uart :=
  data.foldlM (fun u elem => loop (waitBody elem) fuel u) u

def commsEndpoint2Write (fuel : Nat) (data : Nat → UInt8) (len : UInt32) (uarts : RingName → Uart) :
    Option (RingName → Uart) :=
  match getRingByNumber (data 0) with
  | none => some uarts
  | some name =>
      if len ≠ 0 ∧ (data 0 < 2 ∨ data 0 ≥ 4) then do
        let u ← writeBytes fuel (readAt data 1 (len.toNat - 1)) (uarts name)
        pure (Function.update uarts name u)
      else some uarts

structure UartRing.Valid (mcu : Mcu) (name : RingName) (q : UartRing) : Prop where
  txFifoSize : q.txFifoSize = mcu.txFifoSize name
  overwrite : q.overwrite = true
  wPtrTx_lt : q.wPtrTx.toNat < q.txFifoSize.toNat
  rPtrTx_lt : q.rPtrTx.toNat < q.txFifoSize.toNat

def UartRing.unread (q : UartRing) : List UInt8 :=
  window q.elemsTx q.txFifoSize.toNat q.rPtrTx.toNat
    (ringCount q.txFifoSize.toNat q.rPtrTx.toNat q.wPtrTx.toNat)

/-- The byte comes behind the ones that wait, of which at most the oldest is dropped. -/
def Stores (elem : UInt8) (u u' : Uart) : Prop :=
  ∃ dropped kept, u.ring.unread = dropped ++ kept ∧ dropped.length ≤ 1 ∧
    u'.sent ++ u'.ring.unread = u.sent ++ kept ++ [elem]

/-! ### A ring with room -/

theorem nextPtr_toNat {ptr : UInt16} {size : UInt32} (h : ptr.toNat < size.toNat)
    (hsize : size.toNat ≤ 2 ^ 16) : (nextPtr ptr size).toNat = ringNext size.toNat ptr.toNat := by
  have hptr := ptr.toNat_lt
  have hsucc : (ptr.toUInt32 + 1).toNat = ptr.toNat + 1 := by
    rw [UInt32.toNat_add, UInt16.toNat_toUInt32, UInt32.toNat_one]
    exact Nat.mod_eq_of_lt (by omega)
  rw [nextPtr, UInt32.toNat_toUInt16, UInt32.toNat_mod, hsucc]
  unfold ringNext
  split
  · next heq => rw [heq, Nat.mod_self]
  · next hne =>
      rw [Nat.mod_eq_of_lt (by omega : ptr.toNat + 1 < size.toNat)]
      exact Nat.mod_eq_of_lt (by omega)

/-- A ring in overwrite mode that has a cell beside the free one. -/
structure UartRing.Roomy (q : UartRing) : Prop where
  two_le : 2 ≤ q.txFifoSize.toNat
  le : q.txFifoSize.toNat ≤ 2 ^ 16
  overwrite : q.overwrite = true
  wPtrTx_lt : q.wPtrTx.toNat < q.txFifoSize.toNat
  rPtrTx_lt : q.rPtrTx.toNat < q.txFifoSize.toNat

namespace UartRing

variable {q : UartRing}

/-- The read pointer goes on by one byte. -/
theorem Roomy.drop (h : q.Roomy) (hne : q.wPtrTx.toNat ≠ q.rPtrTx.toNat) :
    let q' := { q with rPtrTx := nextPtr q.rPtrTx q.txFifoSize }
    q'.Roomy ∧ q.unread = q.elemsTx q.rPtrTx.toNat :: q'.unread := by
  have hnext := nextPtr_toNat h.rPtrTx_lt h.le
  refine ⟨⟨h.two_le, h.le, h.overwrite, h.wPtrTx_lt, ?_⟩, ?_⟩
  · simp only [hnext]
    exact ringNext_lt h.rPtrTx_lt
  · simp only [unread, hnext]
    exact window_pop q.elemsTx h.rPtrTx_lt h.wPtrTx_lt hne.symm

/-- After the oldest byte was dropped, the next write pointer is not the read pointer. -/
theorem Roomy.makeRoom (h : q.Roomy) {nextWPtr : UInt16}
    (hnext : nextWPtr = nextPtr q.wPtrTx q.txFifoSize) :
    (q.makeRoom nextWPtr).Roomy ∧
      nextWPtr = nextPtr (q.makeRoom nextWPtr).wPtrTx (q.makeRoom nextWPtr).txFifoSize ∧
      nextWPtr ≠ (q.makeRoom nextWPtr).rPtrTx ∧
      ∃ dropped, q.unread = dropped ++ (q.makeRoom nextWPtr).unread ∧ dropped.length ≤ 1 := by
  have hsize := h.two_le
  have hw := h.wPtrTx_lt
  have hr := h.rPtrTx_lt
  unfold UartRing.makeRoom
  split
  · next hfull =>
      have hstep : ∀ {i : Nat}, i < q.txFifoSize.toNat → ringNext q.txFifoSize.toNat i ≠ i := by
        intro i hi
        unfold ringNext
        split <;> omega
      have hread : ringNext q.txFifoSize.toNat q.wPtrTx.toNat = q.rPtrTx.toNat := by
        rw [← nextPtr_toNat hw h.le, ← hnext, hfull.1]
      have hne : q.wPtrTx.toNat ≠ q.rPtrTx.toNat := by
        intro heq
        exact hstep hw (hread.trans heq.symm)
      obtain ⟨hroomy, hunread⟩ := h.drop hne
      refine ⟨hroomy, hnext, ?_, [q.elemsTx q.rPtrTx.toNat], hunread, Nat.le_refl 1⟩
      intro heq
      have hsame := congrArg UInt16.toNat (hfull.1.symm.trans heq)
      rw [nextPtr_toNat hr h.le] at hsame
      exact hstep hr hsame.symm
  · next hroom =>
      refine ⟨h, hnext, ?_, [], rfl, Nat.zero_le 1⟩
      exact fun heq => hroom ⟨heq, h.overwrite⟩

theorem Roomy.store (h : q.Roomy) {nextWPtr : UInt16}
    (hnext : nextWPtr = nextPtr q.wPtrTx q.txFifoSize) (hroom : nextWPtr ≠ q.rPtrTx)
    (elem : UInt8) :
    (q.store nextWPtr elem).Roomy ∧ (q.store nextWPtr elem).unread = q.unread ++ [elem] := by
  have hnext' : nextWPtr.toNat = ringNext q.txFifoSize.toNat q.wPtrTx.toNat := by
    rw [hnext, nextPtr_toNat h.wPtrTx_lt h.le]
  have hroom' : ringNext q.txFifoSize.toNat q.wPtrTx.toNat ≠ q.rPtrTx.toNat := by
    rw [← hnext']
    exact fun heq => hroom (UInt16.toNat_inj.mp heq)
  refine ⟨⟨h.two_le, h.le, h.overwrite, ?_, h.rPtrTx_lt⟩, ?_⟩
  · simp only [UartRing.store, hnext']
    exact ringNext_lt h.wPtrTx_lt
  · simp only [UartRing.store, unread, hnext']
    exact window_push q.elemsTx h.rPtrTx_lt h.wPtrTx_lt hroom' elem

end UartRing

/-- The transmitter takes the oldest byte, or none. -/
theorem uartTxRing_spec {u : Uart} (h : u.ring.Roomy) :
    (uartTxRing u).ring.Roomy ∧
      (uartTxRing u).sent ++ (uartTxRing u).ring.unread = u.sent ++ u.ring.unread := by
  unfold uartTxRing
  simp only
  split
  · next hne =>
      have hne' : u.ring.wPtrTx.toNat ≠ u.ring.rPtrTx.toNat :=
        fun heq => hne (UInt16.toNat_inj.mp heq)
      obtain ⟨hroomy, hunread⟩ := h.drop hne'
      split
      · refine ⟨hroomy, ?_⟩
        rw [hunread, List.append_assoc]
        rfl
      · exact ⟨h, rfl⟩
  · exact ⟨h, rfl⟩

/-- With room to make, `put_char` stores its byte. -/
theorem putChar_spec {u : Uart} (h : u.ring.Roomy) (elem : UInt8) :
    (putChar elem u).1 = true ∧ Stores elem u (putChar elem u).2 ∧
      (putChar elem u).2.ring.Roomy := by
  unfold putChar
  generalize hnext : nextPtr u.ring.wPtrTx u.ring.txFifoSize = nextWPtr
  obtain ⟨hroomy, hnext, hroom, dropped, hunread, hdropped⟩ := h.makeRoom hnext.symm
  obtain ⟨hstored, happended⟩ := hroomy.store hnext hroom elem
  obtain ⟨hlast, hsent⟩ := @uartTxRing_spec
    { u with ring := (u.ring.makeRoom nextWPtr).store nextWPtr elem } hstored
  simp only
  rw [if_pos hroom]
  refine ⟨rfl, ⟨dropped, _, hunread, hdropped, ?_⟩, hlast⟩
  rw [hsent, happended, List.append_assoc]

/-! ### Waiting -/

def putStep (u : Uart) (elem : UInt8) : Uart := (putChar elem u).2

/-- The byte is put at the first try, and stored. -/
def PutStores (u : Uart) (elem : UInt8) : Prop :=
  (putChar elem u).1 = true ∧ Stores elem u (putStep u elem)

/-- In a ring with room to make, no byte waits. -/
theorem writeBytes_roomy {u : Uart} (h : u.ring.Roomy) (data : List UInt8) :
    writeBytes 1 data u = some (run putStep u data) ∧ Along putStep PutStores u data := by
  induction data generalizing u with
  | nil => exact ⟨rfl, trivial⟩
  | cons elem data ih =>
      obtain ⟨hret, hstores, hnext⟩ := putChar_spec h elem
      obtain ⟨hwritten, halong⟩ := ih hnext
      have hbody : waitBody elem u = .inr (putStep u elem) := if_pos hret
      refine ⟨?_, ⟨hret, hstores⟩, halong⟩
      rw [writeBytes, List.foldlM_cons, loop_exit hbody]
      exact hwritten

theorem writeBytes_mono {fuel more : Nat} (hle : fuel ≤ more) {data : List UInt8} {u u' : Uart}
    (h : writeBytes fuel data u = some u') : writeBytes more data u = some u' := by
  induction data generalizing u with
  | nil => exact h
  | cons elem data ih =>
      rw [writeBytes, List.foldlM_cons] at h ⊢
      obtain ⟨next, hnext, hrest⟩ := Option.bind_eq_some_iff.mp h
      rw [loop_mono hnext hle]
      exact ih hrest

/-- A ring of one cell in overwrite mode is empty and full at once. -/
structure UartRing.Stuck (q : UartRing) : Prop where
  txFifoSize : q.txFifoSize = 1
  wPtrTx : q.wPtrTx = 0
  rPtrTx : q.rPtrTx = 0

theorem putChar_stuck {u : Uart} (h : u.ring.Stuck) (elem : UInt8) :
    (putChar elem u).1 = false ∧ (putChar elem u).2.ring.Stuck := by
  have hnext : nextPtr 0 1 = 0 := rfl
  have hkept : (u.ring.makeRoom 0).Stuck := by
    unfold UartRing.makeRoom
    split
    · refine ⟨h.txFifoSize, h.wPtrTx, ?_⟩
      simp only [h.rPtrTx, h.txFifoSize, hnext]
    · exact h
  unfold putChar
  simp only [h.wPtrTx, h.txFifoSize, hnext]
  rw [if_neg (not_not_intro hkept.rPtrTx.symm)]
  refine ⟨rfl, ?_⟩
  unfold uartTxRing
  simp only
  rw [if_neg (not_not_intro (hkept.wPtrTx.trans hkept.rPtrTx.symm))]
  exact hkept

/-- In such a ring the first byte waits forever. -/
theorem writeBytes_stuck {u : Uart} (h : u.ring.Stuck) {data : List UInt8}
    (hdata : 0 < data.length) (fuel : Nat) : writeBytes fuel data u = none := by
  obtain ⟨elem, data, rfl⟩ := List.exists_cons_of_length_pos hdata
  have hforever : loop (waitBody elem) fuel u = none := by
    apply loop_never (I := fun u => u.ring.Stuck) _ h
    intro u hu
    obtain ⟨hret, hnext⟩ := putChar_stuck hu elem
    refine ⟨(putChar elem u).2, ?_, hnext⟩
    simp only [waitBody, hret]
    rfl
  rw [writeBytes, List.foldlM_cons, hforever]
  rfl

theorem UartRing.Valid.roomy {mcu : Mcu} {name : RingName} {q : UartRing} (h : q.Valid mcu name)
    (hsize : mcu.txFifoSize name = fifoSizeInt) : q.Roomy where
  two_le := by
    rw [h.txFifoSize, hsize]
    decide
  le := by
    rw [h.txFifoSize, hsize]
    decide
  overwrite := h.overwrite
  wPtrTx_lt := h.wPtrTx_lt
  rPtrTx_lt := h.rPtrTx_lt

theorem UartRing.Valid.stuck {q : UartRing} (h : q.Valid .stm32f4 .somDebug) : q.Stuck := by
  have hsize : q.txFifoSize = 1 := h.txFifoSize
  have hw := h.wPtrTx_lt
  have hr := h.rPtrTx_lt
  rw [hsize] at hw hr
  refine ⟨hsize, ?_, ?_⟩
  · exact UInt16.toNat_inj.mp (Nat.lt_one_iff.mp hw)
  · exact UInt16.toNat_inj.mp (Nat.lt_one_iff.mp hr)

/-! ### `comms_endpoint2_write` -/

theorem getRingByNumber_some {a : UInt8} {name : RingName} (h : getRingByNumber a = some name) :
    (a < 2 ∨ a ≥ 4) ∧ (name = .somDebug ↔ a = 4) := by
  unfold getRingByNumber at h
  split at h
  · next hzero =>
      cases h
      rw [hzero]
      decide
  · split at h
    · next hfour =>
        cases h
        rw [hfour]
        decide
    · cases h

/-- What is written to a ring. -/
theorem commsEndpoint2Write_ring {data : Nat → UInt8} {name : RingName}
    (hname : getRingByNumber (data 0) = some name) (fuel : Nat) (len : UInt32)
    (uarts : RingName → Uart) :
    (commsEndpoint2Write fuel data len uarts).isSome =
      (writeBytes fuel (readAt data 1 (len.toNat - 1)) (uarts name)).isSome := by
  have hnumber := (getRingByNumber_some hname).1
  unfold commsEndpoint2Write
  simp only [hname, hnumber, and_true]
  split
  · cases writeBytes fuel (readAt data 1 (len.toNat - 1)) (uarts name) with
    | none => rfl
    | some u => rfl
  · next hzero =>
      rw [not_not.mp hzero]
      rfl

/-- With more tries the same bytes are written. -/
theorem commsEndpoint2Write_mono {fuel more : Nat} (hle : fuel ≤ more) {data : Nat → UInt8}
    {len : UInt32} {uarts : RingName → Uart}
    (h : (commsEndpoint2Write fuel data len uarts).isSome) :
    (commsEndpoint2Write more data len uarts).isSome := by
  cases hname : getRingByNumber (data 0) with
  | none =>
      simp only [commsEndpoint2Write, hname]
      rfl
  | some name =>
      rw [commsEndpoint2Write_ring hname] at h ⊢
      obtain ⟨u, hu⟩ := Option.isSome_iff_exists.mp h
      exact Option.isSome_of_eq_some (writeBytes_mono hle hu)

/-- `comms_endpoint2_write` returns, and puts each byte at the first try. -/
structure Endpoint2Finishes (data : Nat → UInt8) (len : UInt32) (uarts : RingName → Uart) :
    Prop where
  returns : ∃ fuel, (commsEndpoint2Write fuel data len uarts).isSome
  stores : ∀ name, getRingByNumber (data 0) = some name →
    Along putStep PutStores (uarts name) (readAt data 1 (len.toNat - 1))

theorem Endpoint2Finishes.of_ring {data : Nat → UInt8} {len : UInt32} {uarts : RingName → Uart}
    {name : RingName} (hname : getRingByNumber (data 0) = some name)
    (hwritten : (writeBytes 1 (readAt data 1 (len.toNat - 1)) (uarts name)).isSome)
    (halong : Along putStep PutStores (uarts name) (readAt data 1 (len.toNat - 1))) :
    Endpoint2Finishes data len uarts := by
  refine ⟨⟨1, ?_⟩, ?_⟩
  · rw [commsEndpoint2Write_ring hname]
    exact hwritten
  · intro name' hname'
    rw [hname] at hname'
    cases hname'
    exact halong

/-- The missing UART of the STM32F4 takes no byte. -/
theorem endpoint2_forever {data : Nat → UInt8} {len : UInt32} {uarts : RingName → Uart}
    (hvalid : ∀ name, getRingByNumber (data 0) = some name →
      (uarts name).ring.Valid .stm32f4 name)
    (hfour : data 0 = 4) (hlen : 2 ≤ len) (fuel : Nat) :
    (commsEndpoint2Write fuel data len uarts).isSome = false := by
  have hname : getRingByNumber (data 0) = some .somDebug := by
    rw [hfour]
    rfl
  have hbytes : 0 < (readAt data 1 (len.toNat - 1)).length := by
    have hlong := UInt32.le_iff_toNat_le.mp hlen
    have htwo : (2 : UInt32).toNat = 2 := rfl
    rw [readAt_length]
    omega
  rw [commsEndpoint2Write_ring hname, writeBytes_stuck (hvalid _ hname).stuck hbytes]
  rfl

/-- Every other write returns. -/
theorem endpoint2_returns {mcu : Mcu} {data : Nat → UInt8} {len : UInt32}
    {uarts : RingName → Uart}
    (hvalid : ∀ name, getRingByNumber (data 0) = some name → (uarts name).ring.Valid mcu name)
    (h : ¬ (mcu = .stm32f4 ∧ data 0 = 4 ∧ 2 ≤ len)) : Endpoint2Finishes data len uarts := by
  cases hname : getRingByNumber (data 0) with
  | none =>
      constructor
      · refine ⟨0, ?_⟩
        simp only [commsEndpoint2Write, hname]
        rfl
      · intro name hsome
        rw [hname] at hsome
        cases hsome
  | some name =>
      have hring := hvalid name hname
      have hroomy : mcu.txFifoSize name = fifoSizeInt → Endpoint2Finishes data len uarts := by
        intro hsize
        obtain ⟨hwritten, halong⟩ :=
          writeBytes_roomy (hring.roomy hsize) (readAt data 1 (len.toNat - 1))
        exact .of_ring hname (Option.isSome_of_eq_some hwritten) halong
      cases name with
      | debug => exact hroomy rfl
      | somDebug =>
          cases mcu with
          | stm32h7 => exact hroomy rfl
          | stm32f4 =>
              -- Then there is no byte behind the number of the ring.
              have hfour : data 0 = 4 := (getRingByNumber_some hname).2.mp rfl
              have hshort : ¬ 2 ≤ len := fun hlen => h ⟨rfl, hfour, hlen⟩
              have hnone : len.toNat - 1 = 0 := by
                rw [UInt32.le_iff_toNat_le] at hshort
                have htwo : (2 : UInt32).toNat = 2 := rfl
                omega
              apply Endpoint2Finishes.of_ring hname
              · rw [hnone]
                rfl
              · rw [hnone]
                trivial

/-- On every build and with every state of the selected ring, `comms_endpoint2_write`
returns except for bytes that go to the missing UART of the STM32F4. -/
theorem endpoint2_write_finishes_iff (mcu : Mcu) (data : Nat → UInt8) (len : UInt32)
    (uarts : RingName → Uart)
    (hvalid : ∀ name, getRingByNumber (data 0) = some name → (uarts name).ring.Valid mcu name) :
    Endpoint2Finishes data len uarts ↔ ¬ (mcu = .stm32f4 ∧ data 0 = 4 ∧ 2 ≤ len) := by
  constructor
  · rintro ⟨⟨fuel, hreturns⟩, -⟩ ⟨rfl, hfour, hlen⟩
    rw [endpoint2_forever hvalid hfour hlen] at hreturns
    cases hreturns
  · exact endpoint2_returns hvalid

def uartBuffer (mcu : Mcu) (name : RingName) : Uart where
  ring :=
    { wPtrTx := 0
      rPtrTx := 0
      elemsTx := fun _ => 0
      txFifoSize := mcu.txFifoSize name
      overwrite := true }
  txe _ := true
  sent := []

theorem uartBuffer_valid (mcu : Mcu) (name : RingName) :
    (uartBuffer mcu name).ring.Valid mcu name := by
  have hpos : 0 < (mcu.txFifoSize name).toNat := by
    cases mcu with
    | stm32f4 => cases name <;> decide
    | stm32h7 => cases name <;> decide
  exact ⟨rfl, rfl, hpos, hpos⟩

def somDebugData (i : Nat) : UInt8 := if i = 0 then 4 else 0

theorem endpoint2_write_finishes_som :
    Endpoint2Finishes somDebugData 2 (uartBuffer .stm32h7) ↔
      ¬ (Mcu.stm32h7 = .stm32f4 ∧ somDebugData 0 = 4 ∧ (2 : UInt32) ≤ 2) :=
  endpoint2_write_finishes_iff .stm32h7 somDebugData 2 (uartBuffer .stm32h7)
    fun name _ => uartBuffer_valid .stm32h7 name

theorem endpoint2_write_hangs :
    ¬ ∀ (mcu : Mcu) (data : Nat → UInt8) (len : UInt32) (uarts : RingName → Uart),
      (∀ name, getRingByNumber (data 0) = some name → (uarts name).ring.Valid mcu name) →
      Endpoint2Finishes data len uarts := by
  intro hall
  have hvalid : ∀ name, getRingByNumber (somDebugData 0) = some name →
      (uartBuffer .stm32f4 name).ring.Valid .stm32f4 name :=
    fun name _ => uartBuffer_valid .stm32f4 name
  obtain ⟨⟨fuel, hreturns⟩, -⟩ := hall .stm32f4 somDebugData 2 (uartBuffer .stm32f4) hvalid
  rw [endpoint2_forever hvalid rfl (by decide)] at hreturns
  cases hreturns

end Panda.Comms
