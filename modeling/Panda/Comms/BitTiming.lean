import Panda.Comms.Fdcan
import Panda.Main.Registers

/-!
The bit timing and the mode of the CAN controllers: the registers that
`llcan_set_speed` writes for the speeds of a bus, and the speeds that a controller
reads in them. The fields of the data phase are narrow, so that not every speed fits.
-/

namespace Panda.Comms

open Library

/-! ### Registers -/

def regBit (reg : UInt32) (pos : Nat) : Bool := reg.toBitVec.getLsbD pos

def mask (pos : Nat) : UInt32 := ⟨BitVec.twoPow 32 pos⟩

def setBit (pos : Nat) (reg : UInt32) : UInt32 := reg ||| mask pos

def clearBit (pos : Nat) (reg : UInt32) : UInt32 := reg &&& ~~~mask pos

theorem regBit_setBit {pos i : Nat} (hi : i < 32) (reg : UInt32) :
    regBit (setBit pos reg) i = (regBit reg i || decide (pos = i)) := by
  unfold regBit setBit mask
  rw [UInt32.toBitVec_or, BitVec.getLsbD_or, BitVec.getLsbD_twoPow]
  by_cases hpos : pos = i
  · subst hpos
    simp [hi]
  · simp [hpos]

theorem regBit_clearBit {pos i : Nat} (hi : i < 32) (reg : UInt32) :
    regBit (clearBit pos reg) i = (regBit reg i && !decide (pos = i)) := by
  unfold regBit clearBit mask
  rw [UInt32.toBitVec_and, UInt32.toBitVec_not, BitVec.getLsbD_and, BitVec.getLsbD_not,
    BitVec.getLsbD_twoPow]
  by_cases hpos : pos = i
  · subst hpos
    simp [hi]
  · simp [hpos, hi]

def setBitIf (flag : Bool) (pos : Nat) (reg : UInt32) : UInt32 :=
  if flag then setBit pos reg else reg

theorem regBit_setBitIf {pos i : Nat} (hi : i < 32) (flag : Bool) (reg : UInt32) :
    regBit (setBitIf flag pos reg) i = (regBit reg i || (flag && decide (pos = i))) := by
  cases flag with
  | false => simp [setBitIf]
  | true => simp [setBitIf, regBit_setBit hi]

/-! ### The controllers of the STM32H7 -/

def cccrInit : Nat := 0

def cccrCce : Nat := 1

def cccrAsm : Nat := 2

def cccrCsr : Nat := 4

def cccrMon : Nat := 5

def cccrTest : Nat := 7

def cccrNiso : Nat := 15

def testLbck : Nat := 4

/-- `speeds`, in kbps multiplied by 10. -/
def speeds : List UInt32 := [100, 200, 500, 1000, 1250, 2500, 5000, 10000]

/-- `CAN_PCLK`, in kHz. -/
def canPclk : UInt32 := 80000

def canQuanta (speed prescaler : UInt32) : UInt32 := canPclk / (speed / 10 * prescaler)

def canSeg1 (tq sp : UInt32) : UInt32 := tq * sp / 100 - 1

def canSeg2 (tq sp : UInt32) : UInt32 := tq * (100 - sp) / 100

/-- `BITRATE_PRESCALER`, and the one for the speeds below 250 kbps. -/
def prescalerOf (speed : UInt32) : UInt32 := if speed < 2500 then 2 * 16 else 2

def canSpNominal : UInt32 := 80

/-- `CAN_SP_DATA_5M` or `CAN_SP_DATA_2M`. -/
def canSpData (dataSpeed : UInt32) : UInt32 := if dataSpeed = 50000 then 75 else 80

def nbtpValue (speed : UInt32) : UInt32 :=
  let prescaler := prescalerOf speed
  let tq := canQuanta speed prescaler
  let seg1 := canSeg1 tq canSpNominal
  let seg2 := canSeg2 tq canSpNominal
  let sjw := min (127 : UInt32) seg2
  ((sjw &&& (0x7F : UInt32)) - 1) <<< (25 : UInt32) |||
    ((seg1 &&& (0xFF : UInt32)) - 1) <<< (8 : UInt32) |||
    ((seg2 &&& (0x7F : UInt32)) - 1) |||
    ((prescaler &&& (0x1FF : UInt32)) - 1) <<< (16 : UInt32)

/-- The value of `DBTP`, with the prescaler of the nominal speed. -/
def dbtpValue (speed dataSpeed : UInt32) : UInt32 :=
  let prescaler := prescalerOf speed
  let tq := canQuanta dataSpeed prescaler
  let seg1 := canSeg1 tq (canSpData dataSpeed)
  let seg2 := canSeg2 tq (canSpData dataSpeed)
  let sjw := min (15 : UInt32) seg2
  ((sjw &&& (0xF : UInt32)) - 1) |||
    ((seg1 &&& (0x1F : UInt32)) - 1) <<< (8 : UInt32) |||
    ((seg2 &&& (0xF : UInt32)) - 1) <<< (4 : UInt32) |||
    ((prescaler &&& (0x1F : UInt32)) - 1) <<< (16 : UInt32)

structure FdcanRegisters where
  cccr : UInt32
  test : UInt32
  nbtp : UInt32
  dbtp : UInt32

/-- `llcan_set_speed`, for a controller that enters the initialization in time. Whether
it leaves it in time is what it returns. -/
def llcanSetSpeed (speed dataSpeed : UInt32) (nonIso loopback silent : Bool)
    (regs : FdcanRegisters) : FdcanRegisters where
  cccr := regs.cccr
    |> clearBit cccrCsr
    |> setBit cccrInit
    |> setBit cccrCce
    |> clearBit cccrTest
    |> clearBit cccrMon
    |> clearBit cccrAsm
    |> clearBit cccrNiso
    |> setBitIf nonIso cccrNiso
    |> setBitIf loopback cccrTest
    |> setBitIf loopback cccrMon
    |> setBitIf silent cccrMon
    |> clearBit cccrInit
  test := setBitIf loopback testLbck (clearBit testLbck regs.test)
  nbtp := nbtpValue speed
  dbtp := dbtpValue speed dataSpeed

/-- `can_set_speed` of a controller. Its bit of `can_silent` is set in `ALL_CAN_SILENT` and
clear in `ALL_CAN_LIVE`. -/
def Driver.canSetSpeed (canNumber : Fin 3) (canLoopback : Bool) (d : Driver)
    (regs : FdcanRegisters) : FdcanRegisters :=
  let config := d.busConfig (d.busConfig canNumber).busLookup
  llcanSetSpeed config.canSpeed config.canDataSpeed config.canfdNonIso canLoopback
    (decide (d.main.canSilent = .allCanSilent)) regs

/-! ### What a controller reads -/

structure BitTiming where
  prescaler : Nat
  seg1 : Nat
  seg2 : Nat
deriving DecidableEq

def nominalTiming (nbtp : UInt32) : BitTiming where
  prescaler := (nbtp >>> 16 &&& 0x1FF).toNat + 1
  seg1 := (nbtp >>> 8 &&& 0xFF).toNat + 1
  seg2 := (nbtp &&& 0x7F).toNat + 1

def dataTiming (dbtp : UInt32) : BitTiming where
  prescaler := (dbtp >>> 16 &&& 0x1F).toNat + 1
  seg1 := (dbtp >>> 8 &&& 0x1F).toNat + 1
  seg2 := (dbtp >>> 4 &&& 0xF).toNat + 1

/-- The time quanta of a bit: a segment of one for the synchronization, and the two. -/
def BitTiming.quanta (t : BitTiming) : Nat := 1 + t.seg1 + t.seg2

/-- The clock gives exactly this speed, and the sample point is after this percentage of
the bit. -/
structure BitTiming.Gives (t : BitTiming) (pclk speed sp : Nat) : Prop where
  speed : t.prescaler * t.quanta * speed = pclk * 10
  samplePoint : (1 + t.seg1) * 100 = sp * t.quanta

instance (t : BitTiming) (pclk speed sp : Nat) : Decidable (t.Gives pclk speed sp) :=
  decidable_of_iff (t.prescaler * t.quanta * speed = pclk * 10 ∧
    (1 + t.seg1) * 100 = sp * t.quanta) ⟨fun h => ⟨h.1, h.2⟩, fun h => ⟨h.speed, h.samplePoint⟩⟩

/-- The speeds that the data phase gives. With the prescaler 2 a bit below 1 Mbps has too many
quanta for the fields; with 32 it has too many below 100 kbps, and too few from 1 Mbps on.
The prescaler 32 itself does not fit, but what it leaves in the register is read as 32
again. -/
def DataSpeedFits (speed dataSpeed : UInt32) : Prop :=
  if speed < 2500 then 1000 ≤ dataSpeed ∧ dataSpeed ≤ 5000 else 10000 ≤ dataSpeed

instance (speed dataSpeed : UInt32) : Decidable (DataSpeedFits speed dataSpeed) := by
  unfold DataSpeedFits
  infer_instance

theorem nominalTiming_gives : ∀ speed ∈ speeds,
    (nominalTiming (nbtpValue speed)).Gives canPclk.toNat speed.toNat canSpNominal.toNat :=
  List.forall_iff_forall_mem.mp (by decide)

theorem dataTiming_gives {speed dataSpeed : UInt32} (hspeed : speed ∈ speeds)
    (hdataSpeed : dataSpeed ∈ Driver.dataSpeeds) :
    (dataTiming (dbtpValue speed dataSpeed)).Gives canPclk.toNat dataSpeed.toNat
      (canSpData dataSpeed).toNat ↔ DataSpeedFits speed dataSpeed := by
  -- each speed is checked with each speed of the data phase
  have hall : speeds.Forall fun speed => Driver.dataSpeeds.Forall fun dataSpeed =>
      (dataTiming (dbtpValue speed dataSpeed)).Gives canPclk.toNat dataSpeed.toNat
        (canSpData dataSpeed).toNat ↔ DataSpeedFits speed dataSpeed := by
    decide
  have hrow := List.forall_iff_forall_mem.mp hall speed hspeed
  exact List.forall_iff_forall_mem.mp hrow dataSpeed hdataSpeed

/-- The mode bits of a controller, and those that setting the speed leaves alone. -/
theorem llcanSetSpeed_cccr (speed dataSpeed : UInt32) (nonIso loopback silent : Bool)
    (regs : FdcanRegisters) {i : Nat} (hi : i < 32) :
    regBit (llcanSetSpeed speed dataSpeed nonIso loopback silent regs).cccr i =
      if i = cccrMon then loopback || silent
      else if i = cccrTest then loopback
      else if i = cccrNiso then nonIso
      else if i = cccrCce then true
      else if i = cccrInit ∨ i = cccrAsm ∨ i = cccrCsr then false
      else regBit regs.cccr i := by
  simp only [llcanSetSpeed, regBit_setBit hi, regBit_clearBit hi, regBit_setBitIf hi]
  generalize regBit regs.cccr i = before
  revert i nonIso loopback silent before
  decide

/-- With the speeds that the requests accept, `can_set_speed` always gives a controller
the nominal speed, and the speed of the data phase exactly when its fields are wide
enough. The controller only listens when the CAN buses are silent or looped back, and
no bit outside of these settings changes. -/
theorem can_set_speed_registers (d : Driver) (canNumber : Fin 3)
    (hspeed : (d.busConfig (d.busConfig canNumber).busLookup).canSpeed ∈ speeds)
    (hdataSpeed :
      (d.busConfig (d.busConfig canNumber).busLookup).canDataSpeed ∈ Driver.dataSpeeds)
    (canLoopback : Bool) (regs : FdcanRegisters) :
    let config := d.busConfig (d.busConfig canNumber).busLookup
    let after := d.canSetSpeed canNumber canLoopback regs
    (nominalTiming after.nbtp).Gives canPclk.toNat config.canSpeed.toNat canSpNominal.toNat ∧
      ((dataTiming after.dbtp).Gives canPclk.toNat config.canDataSpeed.toNat
          (canSpData config.canDataSpeed).toNat ↔
        DataSpeedFits config.canSpeed config.canDataSpeed) ∧
      (regBit after.cccr cccrMon = true ↔
        canLoopback = true ∨ d.main.canSilent = .allCanSilent) ∧
      (regBit after.cccr cccrNiso = true ↔ config.canfdNonIso = true) ∧
      ∀ i < 32, i ∉ [cccrInit, cccrCce, cccrAsm, cccrCsr, cccrMon, cccrTest, cccrNiso] →
        regBit after.cccr i = regBit regs.cccr i := by
  intro config after
  have hbit : ∀ i < 32, regBit after.cccr i = _ := fun i hi =>
    llcanSetSpeed_cccr config.canSpeed config.canDataSpeed config.canfdNonIso canLoopback
      (decide (d.main.canSilent = .allCanSilent)) regs hi
  refine ⟨nominalTiming_gives _ hspeed, dataTiming_gives hspeed hdataSpeed, ?_, ?_, ?_⟩
  · rw [hbit cccrMon (by decide), if_pos rfl, Bool.or_eq_true, decide_eq_true_iff]
  · rw [hbit cccrNiso (by decide), if_neg (by decide), if_neg (by decide), if_pos rfl]
  · intro i hi hother
    simp only [List.mem_cons, List.not_mem_nil, or_false, not_or] at hother
    obtain ⟨hinit, hcce, hasm, hcsr, hmon, htest, hniso⟩ := hother
    rw [hbit i hi, if_neg hmon, if_neg htest, if_neg hniso, if_neg hcce, if_neg]
    rintro (h | h | h)
    · exact hinit h
    · exact hasm h
    · exact hcsr h

/-- A panda that was powered on, with its speeds of 500 kbps and 2 Mbps. -/
theorem can_set_speed_registers_powerOn :
    (dataTiming ((initialDriver (Main.powerOn {} .nc)).canSetSpeed 0 false ⟨0, 0, 0, 0⟩).dbtp).Gives
      80000 20000 80 :=
  (can_set_speed_registers (initialDriver (Main.powerOn {} .nc)) 0 (by decide) (by decide) false
    ⟨0, 0, 0, 0⟩).2.1.mpr (by decide)

/-! ### The controllers of the STM32F4 -/

/-- `can_speed_to_prescaler`, with `CAN_PCLK` of 48000 kHz and `CAN_QUANTA` of 16. -/
def canSpeedToPrescaler (speed : UInt32) : UInt32 := 48000 / 16 * 10 / speed

/-- `CAN_SEQ1`, `CAN_SEQ2` and `CAN_SJW` with the prescaler, in the fields of `BTR`. -/
def btrValue (speed : UInt32) : UInt32 :=
  (0x10000 * (12 - 1) : UInt32) ||| (0x100000 * (3 - 1) : UInt32) |||
    (0x1000000 * (3 - 1) : UInt32) ||| (canSpeedToPrescaler speed - 1)

/-- `BTR` after `llcan_set_speed`, for a controller that enters the initialization in
time. -/
def bxcanSetSpeed (speed : UInt32) (loopback silent : Bool) (btr : UInt32) : UInt32 :=
  let btr := Main.setMasked btr (btrValue speed) 0xC37F03FF
  let btr := if loopback then Main.setMasked btr 0xC0000000 0xC0000000 else btr
  if silent then Main.setMasked btr 0x80000000 0x80000000 else btr

def bxcanTiming (btr : UInt32) : BitTiming where
  prescaler := (btr &&& 0x3FF).toNat + 1
  seg1 := ((btr &&& 0xF0000) >>> 16).toNat + 1
  seg2 := ((btr &&& 0x700000) >>> 20).toNat + 1

/-- A field inside of the mask has the new value. -/
theorem setMasked_inside {old val mask field : UInt32} (h : mask &&& field = field) :
    Main.setMasked old val mask &&& field = val &&& field := by
  apply UInt32.toBitVec_inj.mp
  ext i hi
  have hfield := congrArg (fun reg : UInt32 => reg.toBitVec[i]) h
  simp only [Main.setMasked, UInt32.toBitVec_and, UInt32.toBitVec_or, UInt32.toBitVec_not,
    BitVec.getElem_and, BitVec.getElem_or, BitVec.getElem_not] at hfield ⊢
  grind

/-- A field outside of the mask keeps its value. -/
theorem setMasked_outside {old val mask field : UInt32} (h : mask &&& field = 0) :
    Main.setMasked old val mask &&& field = old &&& field := by
  apply UInt32.toBitVec_inj.mp
  ext i hi
  have hfield := congrArg (fun reg : UInt32 => reg.toBitVec[i]) h
  simp only [Main.setMasked, UInt32.toBitVec_and, UInt32.toBitVec_or, UInt32.toBitVec_not,
    BitVec.getElem_and, BitVec.getElem_or, BitVec.getElem_not] at hfield ⊢
  simp at hfield
  grind

/-- The flags of `BTR` that the modes set lie outside of the timing. -/
theorem bxcanSetSpeed_field {field : UInt32} (hinside : 0xC37F03FF &&& field = field)
    (houtside : 0xC0000000 &&& field = 0) (speed : UInt32) (loopback silent : Bool)
    (btr : UInt32) :
    bxcanSetSpeed speed loopback silent btr &&& field = btrValue speed &&& field := by
  have hsilent : 0x80000000 &&& field = 0 := by
    have hsub : (0x80000000 : UInt32) = 0x80000000 &&& 0xC0000000 := by decide
    rw [hsub, UInt32.and_assoc, houtside, UInt32.and_zero]
  unfold bxcanSetSpeed
  cases silent with
  | false =>
    cases loopback with
    | false => exact setMasked_inside hinside
    | true => exact (setMasked_outside houtside).trans (setMasked_inside hinside)
  | true =>
    cases loopback with
    | false => exact (setMasked_outside hsilent).trans (setMasked_inside hinside)
    | true =>
      exact (setMasked_outside hsilent).trans
        ((setMasked_outside houtside).trans (setMasked_inside hinside))

theorem bxcanTiming_set (speed : UInt32) (loopback silent : Bool) (btr : UInt32) :
    bxcanTiming (bxcanSetSpeed speed loopback silent btr) = bxcanTiming (btrValue speed) := by
  unfold bxcanTiming
  rw [bxcanSetSpeed_field (by decide) (by decide), bxcanSetSpeed_field (by decide) (by decide),
    bxcanSetSpeed_field (by decide) (by decide)]

theorem regBit_setMasked {i : Nat} (hi : i < 32) (old val mask : UInt32) :
    regBit (Main.setMasked old val mask) i =
      if regBit mask i then regBit val i else regBit old i := by
  unfold regBit Main.setMasked
  rw [UInt32.toBitVec_or, UInt32.toBitVec_and, UInt32.toBitVec_and, UInt32.toBitVec_not,
    BitVec.getLsbD_or, BitVec.getLsbD_and, BitVec.getLsbD_and, BitVec.getLsbD_not]
  cases mask.toBitVec.getLsbD i with
  | false => simp [hi]
  | true => simp

/-- All speeds are exact on the STM32F4, with the sample point at 13 of 16 quanta, whatever
was in the register before. The flags for silent and for loopback follow the mode. -/
theorem bxcan_set_speed {speed : UInt32} (hspeed : speed ∈ speeds) (loopback silent : Bool)
    (btr : UInt32) :
    let after := bxcanSetSpeed speed loopback silent btr
    let timing := bxcanTiming after
    timing.seg1 = 12 ∧ timing.seg2 = 3 ∧
      timing.prescaler * timing.quanta * speed.toNat = 48000 * 10 ∧
      regBit after 31 = (loopback || silent) ∧ regBit after 30 = loopback ∧
      ∀ i < 32, regBit 0xC37F03FF i = false → regBit after i = regBit btr i := by
  intro after timing
  have htiming : timing = bxcanTiming (btrValue speed) := bxcanTiming_set speed loopback silent btr
  have hexact : ∀ speed ∈ speeds, (bxcanTiming (btrValue speed)).seg1 = 12 ∧
      (bxcanTiming (btrValue speed)).seg2 = 3 ∧
      (bxcanTiming (btrValue speed)).prescaler * (bxcanTiming (btrValue speed)).quanta *
        speed.toNat = 48000 * 10 :=
    List.forall_iff_forall_mem.mp (by decide)
  have hflags : ∀ speed ∈ speeds, regBit (btrValue speed) 31 = false ∧
      regBit (btrValue speed) 30 = false :=
    List.forall_iff_forall_mem.mp (by decide)
  obtain ⟨hseg1, hseg2, hrate⟩ := hexact speed hspeed
  obtain ⟨hsilm, hlbkm⟩ := hflags speed hspeed
  rw [← htiming] at hseg1 hseg2 hrate
  have hbit : ∀ i < 32, regBit after i =
      if silent && regBit 0x80000000 i then regBit 0x80000000 i
      else if loopback && regBit 0xC0000000 i then regBit 0xC0000000 i
      else if regBit 0xC37F03FF i then regBit (btrValue speed) i else regBit btr i := by
    intro i hi
    change regBit (bxcanSetSpeed speed loopback silent btr) i = _
    unfold bxcanSetSpeed
    cases silent with
    | false =>
      cases loopback with
      | false => simp [regBit_setMasked hi]
      | true => simp [regBit_setMasked hi]
    | true =>
      cases loopback with
      | false => simp [regBit_setMasked hi]
      | true => simp [regBit_setMasked hi]
  refine ⟨hseg1, hseg2, hrate, ?_, ?_, ?_⟩
  · have hmasks : regBit 0x80000000 31 = true ∧ regBit 0xC0000000 31 = true ∧
        regBit 0xC37F03FF 31 = true := by decide
    rw [hbit 31 (by decide), hsilm, hmasks.1, hmasks.2.1, hmasks.2.2]
    cases silent with
    | false => simp
    | true => simp
  · have hmasks : regBit 0x80000000 30 = false ∧ regBit 0xC0000000 30 = true ∧
        regBit 0xC37F03FF 30 = true := by decide
    rw [hbit 30 (by decide), hlbkm, hmasks.1, hmasks.2.1, hmasks.2.2]
    simp
  · intro i hi houtside
    have hflags : ∀ i < 32, regBit 0xC37F03FF i = false →
        regBit 0x80000000 i = false ∧ regBit 0xC0000000 i = false := by decide
    obtain ⟨hsilent, hloopback⟩ := hflags i hi houtside
    rw [hbit i hi, hsilent, hloopback, houtside]
    simp

theorem bxcan_set_speed_slowest :
    (bxcanTiming (bxcanSetSpeed 100 false true 0x1230000)).prescaler * 16 * 100 = 480000 :=
  (@bxcan_set_speed 100 (by decide) false true 0x1230000).2.2.1

end Panda.Comms
