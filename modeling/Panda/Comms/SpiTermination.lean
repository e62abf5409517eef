import Panda.Comms.CanCommsLoops
import Panda.Comms.SpiBounds
import Panda.Comms.Uart

/-!
The loops that `spi_rx_done` of `board/drivers/spi.h` runs: those over the bytes of a
checksum, which count in 16 bits, and those of the bulk handlers. The control handler
is taken to return, and copies, comparisons and prints run over a few bytes.
-/

namespace Panda.Comms

open Library

variable {σ : Type*}

structure SerialFirmware (σ : Type*) extends Firmware σ where
  uarts : σ → RingName → Uart
  valid : ∀ app name, (uarts app name).ring.Valid build.mcu name

/-- A checksum loop with less than `fuel` iterations. -/
def checksumWithin (fuel : Nat) (data : Nat → UInt8) (len : Nat) : Option UInt8 :=
  checksumLoop data len fuel 0 spiChecksumStart

namespace SpiDevice

def data (d : SpiDevice σ) (i : Nat) : UInt8 := d.spiBufRx (spiHeaderSize + i)

def responseLen (h : Handlers σ) (r : Request) (d : SpiDevice σ) : UInt16 :=
  .ofNat (h.handle d.spiBufTx r d.app).response.length

/-- `spi_buf_tx` with the response and its header. -/
def responseBuffer (h : Handlers σ) (r : Request) (d : SpiDevice σ) : Nat → UInt8 :=
  let len := d.responseLen h r
  writeAt (writeAt d.spiBufTx 3 (h.handle d.spiBufTx r d.app).response) 0
    [spiDack, (len &&& 0xFF).toUInt8, (len >>> 8 &&& 0xFF).toUInt8]

end SpiDevice

namespace SerialFirmware

def handlerLoop (fw : SerialFirmware σ) (fuel : Nat) (d : SpiDevice σ) : Request → Option Unit
  | .canRead maxLen => do
      let _ ← commsCanReadWithin fuel maxLen.toNat (fw.comms d.app)
      pure ()
  | .endpoint2Write _ => do
      let _ ← commsEndpoint2Write fuel d.data (lengthAt d.spiBufRx 2).toUInt32 (fw.uarts d.app)
      pure ()
  | .canWrite data => do
      let _ ← commsCanWriteWithin fuel data (fw.comms d.app)
      pure ()
  | _ => pure ()

/-- The loops that `spi_rx_done` runs, each with less than `fuel` iterations. There is a
result only when all of them end. -/
def rxDoneLoops (fw : SerialFirmware σ) (fuel : Nat) (d : SpiDevice σ) : Option Unit :=
  if readAt d.spiBufRx 0 7 = versionText then pure ()
  else
    match d.spiState with
    | .header => do
        let _ ← checksumWithin fuel d.spiBufRx 7
        pure ()
    | .dataRx => do
        let checksum ← checksumWithin fuel d.data (lengthAt d.spiBufRx 2 + 1).toNat
        if checksum = 0 then
          match d.request with
          | some r => do
              fw.handlerLoop fuel d r
              let _ ← checksumWithin fuel (d.responseBuffer fw.handlers r)
                ((d.responseLen fw.handlers r).toNat + 3)
              pure ()
          | none => pure ()
        else pure ()
    | _ => pure ()

/-- All loops of `spi_rx_done` end, and `response_len += 4U` does not wrap around. -/
structure RxDoneFinishes (fw : SerialFirmware σ) (d : SpiDevice σ) : Prop where
  ends : ∃ fuel, (fw.rxDoneLoops fuel d).isSome
  fits : ∀ r, d.executes = some r → (d.responseLen fw.handlers r).toNat + 4 < 2 ^ 16

/-- The request is for a response that the 16-bit counters can hold, and for no byte
to the missing UART of the STM32F4. -/
def Modest (fw : SerialFirmware σ) (d : SpiDevice σ) : Request → Prop
  | .canRead maxLen => min maxLen.toNat (fw.comms d.app).pending.length + 4 < 2 ^ 16
  | .test len => len.toNat + 4 < 2 ^ 16
  | .endpoint2Write _ => ¬ (fw.build.mcu = .stm32f4 ∧ d.data 0 = 4 ∧ 2 ≤ lengthAt d.spiBufRx 2)
  | _ => True

end SerialFirmware

/-! ### Checksum loops -/

def checksumBody (data : Nat → UInt8) (len : Nat) (s : UInt16 × UInt8) :
    (UInt16 × UInt8) ⊕ UInt8 :=
  if s.1.toNat < len then .inl (s.1 + 1, s.2 ^^^ data s.1.toNat) else .inr s.2

theorem checksumLoop_eq_loop (data : Nat → UInt8) (len fuel : Nat) (s : UInt16 × UInt8) :
    checksumLoop data len fuel s.1 s.2 = loop (checksumBody data len) fuel s := by
  induction fuel generalizing s with
  | zero => rfl
  | succ fuel ih =>
      rw [checksumLoop]
      split
      · next hlt =>
          have hbody : checksumBody data len s = .inl (s.1 + 1, s.2 ^^^ data s.1.toNat) :=
            if_pos hlt
          rw [loop_next hbody, ← ih]
      · next hle =>
          have hbody : checksumBody data len s = .inr s.2 := if_neg hle
          rw [loop_exit hbody]

theorem checksumWithin_eq_loop (fuel : Nat) (data : Nat → UInt8) (len : Nat) :
    checksumWithin fuel data len = loop (checksumBody data len) fuel (0, spiChecksumStart) :=
  checksumLoop_eq_loop data len fuel (0, spiChecksumStart)

/-- A bound in the range of the counter is reached. -/
theorem checksumWithin_ends (data : Nat → UInt8) {len fuel : Nat} (h : len < 2 ^ 16)
    (hfuel : len < fuel) : ∃ checksum, checksumWithin fuel data len = some checksum := by
  have hlower : ∀ s next : UInt16 × UInt8, checksumBody data len s = .inl next →
      len - next.1.toNat < len - s.1.toNat := by
    intro s next hbody
    unfold checksumBody at hbody
    split at hbody
    · next hlt =>
        cases hbody
        have hsucc : (s.1 + 1).toNat = s.1.toNat + 1 := by
          rw [UInt16.toNat_add]
          exact Nat.mod_eq_of_lt (by change s.1.toNat + 1 < 2 ^ 16; omega)
        simp only [hsucc]
        omega
    · cases hbody
  rw [checksumWithin_eq_loop]
  exact loop_ends (fun s : UInt16 × UInt8 => len - s.1.toNat) hlower hfuel

/-- A bound beyond it is never reached. -/
theorem checksumWithin_lt {fuel : Nat} {data : Nat → UInt8} {len : Nat} {checksum : UInt8}
    (h : checksumWithin fuel data len = some checksum) : len < 2 ^ 16 := by
  by_contra hle
  rw [checksumWithin, checksumLoop_unreached data (by omega)] at h
  cases h

/-- The result does not depend on how many iterations are allowed. -/
theorem checksumWithin_eq {fuel : Nat} {data : Nat → UInt8} {len : Nat} {checksum : UInt8}
    (h : checksumWithin fuel data len = some checksum) : spiChecksum data len = some checksum := by
  have hlt := checksumWithin_lt h
  obtain ⟨checksum', h'⟩ := checksumWithin_ends data hlt (Nat.lt_succ_of_lt hlt)
  have hsame : checksum' = checksum := by
    have hmore := Nat.le_max_left fuel (2 ^ 16 + 1)
    have hmore' := Nat.le_max_right fuel (2 ^ 16 + 1)
    rw [checksumWithin_eq_loop] at h h'
    have hresult := loop_mono h hmore
    rw [loop_mono h' hmore'] at hresult
    exact Option.some.inj hresult
  rw [← hsame]
  exact h'

/-! ### `spi_rx_done` -/

section Loops

variable {fw : SerialFirmware σ} {d : SpiDevice σ} {r : Request}

/-- With a request to execute, there are the loop over the data, that of the handler and
the one over the response. -/
theorem rxDoneLoops_call (hr : d.executes = some r) (fuel : Nat) :
    (fw.rxDoneLoops fuel d).isSome ↔
      (checksumWithin fuel d.data (lengthAt d.spiBufRx 2 + 1).toNat).isSome ∧
        (fw.handlerLoop fuel d r).isSome ∧
        (checksumWithin fuel (d.responseBuffer fw.handlers r)
          ((d.responseLen fw.handlers r).toNat + 3)).isSome := by
  obtain ⟨hversion, hstate, hvalid, hrequest⟩ := executes_some hr
  unfold SerialFirmware.rxDoneLoops
  simp only [if_neg hversion, hstate]
  cases hchecksum : checksumWithin fuel d.data (lengthAt d.spiBufRx 2 + 1).toNat with
  | none => simp
  | some checksum =>
      have hspi := checksumWithin_eq hchecksum
      have hzero : checksum = 0 := by
        have hdata : spiChecksum d.data (lengthAt d.spiBufRx 2 + 1).toNat = some 0 :=
          beq_iff_eq.mp hvalid
        rw [hspi] at hdata
        exact Option.some.inj hdata
      simp only [hzero, hrequest, if_true, Option.bind_eq_bind, Option.bind_some]
      cases fw.handlerLoop fuel d r with
      | none => simp
      | some _ =>
          cases checksumWithin fuel (d.responseBuffer fw.handlers r)
              ((d.responseLen fw.handlers r).toNat + 3) with
          | none => simp
          | some _ => simp

theorem rxDoneLoops_answer (hr : d.executes = none) {fuel : Nat} (hfuel : 2 ^ 16 ≤ fuel) :
    (fw.rxDoneLoops fuel d).isSome := by
  unfold SerialFirmware.rxDoneLoops
  split
  · rfl
  · next hversion =>
      split
      · next hstate =>
          obtain ⟨checksum, hchecksum⟩ :=
            checksumWithin_ends d.spiBufRx (by decide : 7 < 2 ^ 16) (by omega : 7 < fuel)
          rw [hchecksum]
          rfl
      · next hstate =>
          have hlt := (lengthAt d.spiBufRx 2 + 1).toNat_lt
          obtain ⟨checksum, hchecksum⟩ :=
            checksumWithin_ends d.data hlt (Nat.lt_of_lt_of_le hlt hfuel)
          rw [hchecksum]
          simp only [Option.bind_eq_bind, Option.bind_some]
          split
          · next hzero =>
              have hvalid : d.dataValid = true := by
                have hspi := checksumWithin_eq hchecksum
                rw [hzero] at hspi
                exact beq_iff_eq.mpr hspi
              have hrequest : d.request = none := by
                simpa [SpiDevice.executes, SpiDevice.takesData, hversion, hstate, hvalid] using hr
              rw [hrequest]
              rfl
          · rfl
      · rfl

theorem responseLen_toNat (h : Handlers σ) (r : Request) (d : SpiDevice σ) :
    (d.responseLen h r).toNat = (h.handle d.spiBufTx r d.app).response.length := by
  rw [SpiDevice.responseLen, UInt16.toNat_ofNat']
  exact Nat.mod_eq_of_lt (h.handle d.spiBufTx r d.app).response_lt

/-- The request does not write to the missing UART of the STM32F4. -/
def PresentUart (fw : SerialFirmware σ) (d : SpiDevice σ) : Request → Prop
  | .endpoint2Write _ => ¬ (fw.build.mcu = .stm32f4 ∧ d.data 0 = 4 ∧ 2 ≤ lengthAt d.spiBufRx 2)
  | _ => True

theorem endpoint2Write_handlerLoop (fw : SerialFirmware σ) (d : SpiDevice σ) (data : List UInt8)
    (fuel : Nat) :
    (fw.handlerLoop fuel d (.endpoint2Write data)).isSome =
      (commsEndpoint2Write fuel d.data (lengthAt d.spiBufRx 2).toUInt32
        (fw.uarts d.app)).isSome := by
  unfold SerialFirmware.handlerLoop
  cases commsEndpoint2Write fuel d.data (lengthAt d.spiBufRx 2).toUInt32 (fw.uarts d.app) with
  | none => rfl
  | some _ => rfl

theorem two_le_toUInt32 (len : UInt16) : 2 ≤ len.toUInt32 ↔ 2 ≤ len := by
  rw [UInt32.le_iff_toNat_le, UInt16.le_iff_toNat_le, UInt16.toNat_toUInt32]
  exact Iff.rfl

theorem handlerLoop_present {fuel : Nat} (h : (fw.handlerLoop fuel d r).isSome) :
    PresentUart fw d r := by
  cases r with
  | endpoint2Write data =>
      rintro ⟨hmcu, hfour, hlong⟩
      have hvalid : ∀ name, getRingByNumber (d.data 0) = some name →
          (fw.uarts d.app name).ring.Valid .stm32f4 name :=
        fun name _ => hmcu ▸ fw.valid d.app name
      rw [endpoint2Write_handlerLoop,
        endpoint2_forever hvalid hfour ((two_le_toUInt32 _).mpr hlong)] at h
      cases h
  | _ => trivial

/-- The loop of a handler ends if it is not that of the missing UART. -/
theorem handlerLoop_ends (h : PresentUart fw d r) :
    ∃ enough, ∀ fuel, enough ≤ fuel → (fw.handlerLoop fuel d r).isSome := by
  cases r with
  | control ctrl => exact ⟨0, fun _ _ => rfl⟩
  | canRead maxLen =>
      refine ⟨maxLen.toNat + 1, ?_⟩
      intro fuel hfuel
      simp only [SerialFirmware.handlerLoop, commsCanReadWithin_eq hfuel]
      rfl
  | endpoint2Write data =>
      have hmissing : ¬ (fw.build.mcu = .stm32f4 ∧ d.data 0 = 4 ∧
          2 ≤ (lengthAt d.spiBufRx 2).toUInt32) := by
        rw [two_le_toUInt32]
        exact h
      obtain ⟨enough, henough⟩ :=
        (endpoint2_returns (fun name _ => fw.valid d.app name) hmissing).returns
      refine ⟨enough, ?_⟩
      intro fuel hfuel
      rw [endpoint2Write_handlerLoop]
      exact commsEndpoint2Write_mono hfuel henough
  | canWrite data =>
      refine ⟨data.length + 1, ?_⟩
      intro fuel hfuel
      simp only [SerialFirmware.handlerLoop, commsCanWriteWithin_eq hfuel]
      rfl
  | test len => exact ⟨0, fun _ _ => rfl⟩

/-- With a request to execute, all loops end exactly when that of the handler does and the
response is one that the counter gets to the end of. -/
theorem rxDoneLoops_ends_iff (hr : d.executes = some r) :
    (∃ fuel, (fw.rxDoneLoops fuel d).isSome) ↔
      PresentUart fw d r ∧ (d.responseLen fw.handlers r).toNat + 3 < 2 ^ 16 := by
  constructor
  · rintro ⟨fuel, hends⟩
    obtain ⟨-, hhandler, hresponse⟩ := (rxDoneLoops_call hr fuel).mp hends
    obtain ⟨checksum, hchecksum⟩ := Option.isSome_iff_exists.mp hresponse
    exact ⟨handlerLoop_present hhandler, checksumWithin_lt hchecksum⟩
  · rintro ⟨hpresent, hlt⟩
    obtain ⟨enough, hhandler⟩ := handlerLoop_ends hpresent
    have hlast := Nat.le_max_right enough (2 ^ 16)
    have hdata := (lengthAt d.spiBufRx 2 + 1).toNat_lt
    obtain ⟨checksum, hchecksum⟩ :=
      checksumWithin_ends d.data hdata (Nat.lt_of_lt_of_le hdata hlast)
    obtain ⟨checksum', hchecksum'⟩ :=
      checksumWithin_ends (d.responseBuffer fw.handlers r) hlt (Nat.lt_of_lt_of_le hlt hlast)
    refine ⟨max enough (2 ^ 16), (rxDoneLoops_call hr _).mpr ⟨?_, ?_, ?_⟩⟩
    · rw [hchecksum]
      rfl
    · exact hhandler _ (Nat.le_max_left enough _)
    · rw [hchecksum']
      rfl

theorem modest_iff (fw : SerialFirmware σ) (d : SpiDevice σ) (r : Request) :
    fw.Modest d r ↔
      PresentUart fw d r ∧ (d.responseLen fw.handlers r).toNat + 4 < 2 ^ 16 := by
  have hwithin := fw.responseWithin_iff (by decide : 68 ≤ 2 ^ 16 - 1) d.spiBufTx r d.app
  have hlt : (d.responseLen fw.handlers r).toNat + 4 < 2 ^ 16 ↔
      fw.ResponseWithin (2 ^ 16 - 1) d.app r := by
    rw [← hwithin, responseLen_toNat]
    omega
  rw [hlt]
  cases r with
  | control ctrl => exact (and_iff_left trivial).symm
  | canRead maxLen =>
      refine Iff.trans ?_ (and_iff_right trivial).symm
      exact Nat.lt_iff_le_pred (by decide)
  | endpoint2Write data => exact (and_iff_left trivial).symm
  | canWrite data => exact (and_iff_left trivial).symm
  | test len =>
      refine Iff.trans ?_ (and_iff_right trivial).symm
      exact Nat.lt_iff_le_pred (by decide)

end Loops

/-- When its loops end, `spi_rx_done` starts the transfer of an answer. -/
theorem rxDoneLoops_answers {fw : SerialFirmware σ} {d : SpiDevice σ} {fuel : Nat}
    (h : (fw.rxDoneLoops fuel d).isSome) (info : DeviceId) :
    (d.spiRxDone fw.handlers info).dma.isSome := by
  have hsent : ∀ {d' : SpiDevice σ} {bytes : List UInt8}, d'.transmitted = some bytes →
      d'.dma.isSome := by
    intro d' bytes htransmitted
    unfold SpiDevice.transmitted at htransmitted
    split at htransmitted
    · next hdma =>
        rw [hdma]
        rfl
    · cases htransmitted
  cases SpiDevice.spiRxDone_cases fw.handlers info d with
  | header _ _ _ sent => exact hsent sent
  | reject _ _ rejects =>
      obtain ⟨-, first, rest, htransmitted, -⟩ := rejects
      exact hsent htransmitted
  | call r _ hr _ _ =>
      obtain ⟨hversion, hstate, hvalid, hrequest⟩ := executes_some hr
      obtain ⟨-, -, hresponse⟩ := (rxDoneLoops_call hr fuel).mp h
      obtain ⟨checksum, hchecksum⟩ := Option.isSome_iff_exists.mp hresponse
      have hspi : spiChecksum (d.parseHeader.responseBuffer fw.handlers r)
          ((d.parseHeader.responseLen fw.handlers r).toNat + 3) = some checksum :=
        checksumWithin_eq hchecksum
      rw [rxDone_data hversion hstate, if_pos hvalid, hrequest]
      simp only [SpiDevice.respond]
      simp only [SpiDevice.responseBuffer, SpiDevice.responseLen] at hspi
      rw [hspi]
      rfl

/-- For every content of `spi_buf_rx` and every state, `spi_rx_done` finishes exactly
when the request that it executes, if any, is modest, and then the transfer of an answer
is started. -/
theorem spi_rx_done_finishes_iff (fw : SerialFirmware σ) (d : SpiDevice σ) :
    (fw.RxDoneFinishes d ↔ ∀ r, d.executes = some r → fw.Modest d r) ∧
      (fw.RxDoneFinishes d → ∀ info, (d.spiRxDone fw.handlers info).dma.isSome) := by
  refine ⟨⟨?_, ?_⟩, ?_⟩
  · rintro ⟨hends, hfits⟩ r hr
    exact (modest_iff fw d r).mpr ⟨((rxDoneLoops_ends_iff hr).mp hends).1, hfits r hr⟩
  · intro h
    constructor
    · cases hr : d.executes with
      | none => exact ⟨2 ^ 16, rxDoneLoops_answer hr (Nat.le_refl _)⟩
      | some r =>
          obtain ⟨hpresent, hlt⟩ := (modest_iff fw d r).mp (h r hr)
          exact (rxDoneLoops_ends_iff hr).mpr ⟨hpresent, by omega⟩
    · intro r hr
      exact ((modest_iff fw d r).mp (h r hr)).2
  · rintro ⟨⟨fuel, hends⟩, -⟩ info
    exact rxDoneLoops_answers hends info

/-! ### A response without an end -/

def sampleSerial : SerialFirmware CanApp where
  toFirmware := sampleFirmware
  uarts _ := uartBuffer .stm32h7
  valid _ name := uartBuffer_valid .stm32h7 name

def longestTest : SpiDevice CanApp :=
  { SpiDevice.spiInit sampleApp with
    spiState := .dataRx
    spiBufRx := fun i => [spiSyncByte, 0xAB, 0, 0, 0xFF, 0xFF, 0x5A, 0xAB].getD i 0 }

/-- Its checksum loop counts to 65538 in 16 bits. -/
theorem spi_rx_done_hangs :
    ¬ ∀ (fw : SerialFirmware CanApp) (d : SpiDevice CanApp), fw.RxDoneFinishes d := by
  intro hall
  have hr : longestTest.executes = some (.test 0xFFFF) := by decide
  obtain ⟨-, hlt⟩ := (rxDoneLoops_ends_iff hr).mp (hall sampleSerial longestTest).ends
  rw [responseLen_toNat] at hlt
  simp only [Handlers.handle, readAt_length] at hlt
  exact absurd hlt (by decide)

end Panda.Comms
