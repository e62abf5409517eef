import Panda.Comms.Fdcan
import Panda.Library.Transition

/-!
The CAN-FD settings of the buses. The control request 0xf9 indexes the table by
the bus, and the handlers of the controllers by the controller, so that in a
flipped harness a request for an outer bus sets up the other one.
-/

namespace Panda.Comms

open Library Safety

/-- Whether frames of a bus are CAN-FD frames, and have a second bit rate. -/
structure FdSetting where
  fdf : Bool
  brs : Bool
deriving DecidableEq

/-- The setting in an entry of the table. -/
def Driver.fdSetting (i : Fin 3) (d : Driver) : FdSetting :=
  ⟨(d.busConfig i).canfdEnabled, (d.busConfig i).brsEnabled⟩

/-- What a 0xf9 request sets: a data bit rate from the bit rate of the bus on is one
for CAN FD, and a higher one is switched to. -/
def Driver.requestedSetting (bus : Fin 3) (param2 : UInt16) (d : Driver) : FdSetting :=
  ⟨(d.busConfig bus).canSpeed ≤ param2.toUInt32, (d.busConfig bus).canSpeed < param2.toUInt32⟩

/-- The settings that the buses should have: the last request for the bus, raised
by the frames received on it since. -/
def expectedSettings (d : Driver) (e : DriverEvent) (expected : Fin 3 → FdSetting) :
    Fin 3 → FdSetting :=
  match e with
  | .setDataBitrate bus param2 _ =>
      if param2.toUInt32 ∈ Driver.dataSpeeds then
        Function.update expected bus (d.requestedSetting bus param2)
      else expected
  | .rx canNumber frame _ =>
      let bus := (d.busConfig canNumber).busLookup
      Function.update expected bus
        ⟨(expected bus).fdf || frame.fifo.fdf, (expected bus).brs || frame.fifo.brs⟩
  | _ => expected

/-- The driver with the settings that the buses should have. -/
structure FdRun where
  driver : Driver
  expected : Fin 3 → FdSetting

def configStep (s : FdRun) (e : DriverEvent) : FdRun where
  driver := driverStep s.driver e
  expected := expectedSettings s.driver e s.expected

def initialConfig (main : Main.State) : FdRun where
  driver := initialDriver main
  expected _ := ⟨false, false⟩

/-- A frame that `process_can` writes has the bits that its bus should have. -/
def SendsAsExpected (s : FdRun) : Prop :=
  ∀ canNumber toSend,
    let bus := (s.driver.busConfig canNumber).busLookup
    (s.driver.txFifo canNumber toSend).fdf = (s.expected bus).fdf ∧
      (s.driver.txFifo canNumber toSend).brs = (s.expected bus).brs

/-- A change of orientation finds the outer entries equal, and a request for a bus
whose controller has another number finds what it asks for in both entries. -/
def Agreeing (s : FdRun) : DriverEvent → Prop
  | .setOrientation flipped =>
      (s.driver.busConfig 0).busLookup = (if flipped then 2 else 0) ∨
        s.driver.fdSetting 0 = s.driver.fdSetting 2
  | .setDataBitrate bus param2 _ =>
      param2.toUInt32 ∈ Driver.dataSpeeds → (s.driver.busConfig bus).canNumLookup ≠ bus →
        s.driver.fdSetting bus = s.driver.requestedSetting bus param2 ∧
          s.driver.fdSetting (s.driver.busConfig bus).canNumLookup =
            s.driver.requestedSetting bus param2
  | _ => True

/-! ### Frames -/

theorem txElement_bits (canfdEnabled brsEnabled : Bool) (toSend : CANPacket) :
    (txElement canfdEnabled brsEnabled toSend).fdf = canfdEnabled ∧
      (txElement canfdEnabled brsEnabled toSend).brs = brsEnabled := by
  have hbits : ∀ (code : Fin 16) (fd brs : Bool),
      ((UInt32.ofNat code <<< 16 ||| bit fd 21 ||| bit brs 20) >>> 21 &&& 1 != 0) = fd ∧
      ((UInt32.ofNat code <<< 16 ||| bit fd 21 ||| bit brs 20) >>> 20 &&& 1 != 0) = brs := by
    decide
  exact hbits toSend.dataLenCode canfdEnabled brsEnabled

/-- What the frames show is what is in the entry of the controller. -/
theorem sendsAsExpected_iff {s : FdRun} :
    SendsAsExpected s ↔ ∀ canNumber,
      s.driver.fdSetting canNumber = s.expected (s.driver.busConfig canNumber).busLookup := by
  constructor
  · intro h canNumber
    obtain ⟨hfdf, hbrs⟩ := h canNumber (ofStruct [])
    obtain ⟨hfdf', hbrs'⟩ := txElement_bits (s.driver.busConfig canNumber).canfdEnabled
      (s.driver.busConfig canNumber).brsEnabled (ofStruct [])
    exact congrArg₂ FdSetting.mk (hfdf'.symm.trans hfdf) (hbrs'.symm.trans hbrs)
  · intro h canNumber toSend
    obtain ⟨hfdf, hbrs⟩ := txElement_bits (s.driver.busConfig canNumber).canfdEnabled
      (s.driver.busConfig canNumber).brsEnabled toSend
    have hentry := h canNumber
    exact ⟨hfdf.trans (congrArg FdSetting.fdf hentry), hbrs.trans (congrArg FdSetting.brs hentry)⟩

/-! ### The table -/

namespace Driver

theorem processCan_busConfig (canNumber : Fin 3) (hw : Hardware) (d : Driver) :
    (d.processCan canNumber hw).busConfig = d.busConfig := by
  rcases d.processCan_cases canNumber hw with hsame | ⟨toSend, q, -, hpopped⟩
  · rw [hsame]
  · rw [hpopped]
    split
    · rfl
    · rfl

theorem enqueue_busConfig (toPush : CANPacket) (busNumber : Nat) (hw : Hardware) (d : Driver) :
    (d.enqueue toPush busNumber hw).busConfig = d.busConfig := by
  unfold enqueue
  split
  · exact processCan_busConfig _ _ _
  · rfl

theorem canSend_busConfig (toPush : CANPacket) (busNumber : Nat) (skipTxHook : Bool) (hw : Hardware)
    (d : Driver) : (d.canSend toPush busNumber skipTxHook hw).busConfig = d.busConfig := by
  unfold canSend
  simp only
  split
  · exact enqueue_busConfig _ _ _ _
  · split
    · exact enqueue_busConfig _ _ _ _
    · rfl

theorem sendAll_busConfig (packets : List CANPacket) (hw : Nat → Hardware) (d : Driver) :
    (d.sendAll packets hw).busConfig = d.busConfig := by
  induction packets generalizing hw d with
  | nil => rfl
  | cons toPush packets ih =>
      rw [sendAll, ih]
      exact canSend_busConfig _ _ _ _ _

theorem spiCanWrite_busConfig (data : List UInt8) (hw : Nat → Hardware) (d : Driver) :
    (d.spiCanWrite data hw).2.busConfig = d.busConfig := by
  unfold spiCanWrite
  split
  · exact sendAll_busConfig _ _ _
  · rfl

theorem forward_busConfig (canNumber busNumber : Fin 3) (frame : RxFrame) (hw : Hardware)
    (d : Driver) : (d.forward canNumber busNumber frame hw).busConfig = d.busConfig := by
  unfold forward
  simp only
  split
  · exact canSend_busConfig _ _ _ _ _
  · rfl

theorem canRx_busConfig (canNumber : Fin 3) (frame : RxFrame) (hw : Hardware) (d : Driver) :
    (d.canRx canNumber frame hw).busConfig = (d.raiseConfig canNumber frame.fifo).busConfig := by
  unfold canRx
  have hforward := forward_busConfig canNumber (d.busConfig canNumber).busLookup frame hw
  simp only [raiseConfig, pushRx, note, runRxHook, hforward]
  rfl

end Driver

/-- The lookups of a harness: those of a flipped one swap the outer buses. -/
def OrientedAs (flipped : Bool) (config : Fin 3 → BusConfig) : Prop :=
  ∀ i, (config i).busLookup = (if flipped then i.rev else i) ∧
    (config i).canNumLookup = (if flipped then i.rev else i)

def Oriented (config : Fin 3 → BusConfig) : Prop := ∃ flipped, OrientedAs flipped config

theorem OrientedAs.congr {flipped : Bool} {config config' : Fin 3 → BusConfig}
    (h : OrientedAs flipped config)
    (hlookup : ∀ i, (config' i).busLookup = (config i).busLookup ∧
      (config' i).canNumLookup = (config i).canNumLookup) : OrientedAs flipped config' := by
  intro i
  rw [(hlookup i).1, (hlookup i).2]
  exact h i

/-- An entry of the table changes, and not in its lookups. -/
theorem OrientedAs.update {flipped : Bool} {config : Fin 3 → BusConfig}
    (h : OrientedAs flipped config) {i : Fin 3} {entry : BusConfig}
    (hbus : entry.busLookup = (config i).busLookup)
    (hcan : entry.canNumLookup = (config i).canNumLookup) :
    OrientedAs flipped (Function.update config i entry) := by
  apply h.congr
  intro j
  by_cases hj : j = i
  · subst hj
    rw [Function.update_self]
    exact ⟨hbus, hcan⟩
  · rw [Function.update_of_ne hj]
    exact ⟨rfl, rfl⟩

theorem canSetOrientation_oriented {d : Driver} (h : Oriented d.busConfig) (flipped : Bool) :
    OrientedAs flipped (d.canSetOrientation flipped).busConfig := by
  obtain ⟨before, hbefore⟩ := h
  intro i
  fin_cases i
  · exact ⟨rfl, rfl⟩
  · have hmiddle := hbefore 1
    cases before <;> cases flipped <;> exact hmiddle
  · exact ⟨rfl, rfl⟩

/-- The orientation after an event. -/
def turned (flipped : Bool) : DriverEvent → Bool
  | .setOrientation flipped => flipped
  | _ => flipped

theorem driverStep_oriented {d : Driver} {flipped : Bool} (h : OrientedAs flipped d.busConfig)
    (e : DriverEvent) : OrientedAs (turned flipped e) (driverStep d e).busConfig := by
  cases e with
  | send toPush hw =>
      change OrientedAs flipped (d.canSend toPush (getBus toPush) false hw).busConfig
      rwa [Driver.canSend_busConfig]
  | write data hw =>
      change OrientedAs flipped (Driver.sendAll _ hw _).busConfig
      rwa [Driver.sendAll_busConfig]
  | spiWrite data hw =>
      change OrientedAs flipped (d.spiCanWrite data hw).2.busConfig
      rwa [Driver.spiCanWrite_busConfig]
  | processCan canNumber hw =>
      change OrientedAs flipped (d.processCan canNumber hw).busConfig
      rwa [Driver.processCan_busConfig]
  | rx canNumber frame hw =>
      change OrientedAs flipped (d.canRx canNumber frame hw).busConfig
      rw [Driver.canRx_busConfig]
      exact h.update rfl rfl
  | setOrientation flipped => exact canSetOrientation_oriented ⟨_, h⟩ flipped
  | setDataBitrate param1 param2 hw =>
      change OrientedAs flipped (d.setDataBitrate param1 param2 hw).busConfig
      unfold Driver.setDataBitrate
      split
      · rw [Driver.canInit, Driver.processCan_busConfig]
        exact h.update rfl rfl
      · exact h
  | setNonIso param1 param2 hw =>
      change OrientedAs flipped (d.setNonIso param1 param2 hw).busConfig
      rw [Driver.setNonIso, Driver.canInit, Driver.processCan_busConfig]
      exact h.update rfl rfl
  | read maxLen => exact h
  | clearTx bus => exact h
  | clearRx => exact h
  | main board e => exact h

/-! ### One step -/

/-- The table with the lookups of an orientation has the expected settings. -/
def Fits (flipped : Bool) (setting expected : Fin 3 → FdSetting) : Prop :=
  ∀ i, setting i = expected (if flipped then i.rev else i)

theorem sendsAsExpected_fits {s : FdRun} {flipped : Bool}
    (h : OrientedAs flipped s.driver.busConfig) :
    SendsAsExpected s ↔ Fits flipped (fun i => s.driver.fdSetting i) s.expected := by
  rw [sendsAsExpected_iff]
  unfold Fits
  simp only [(h _).1]

theorem forall_fin3 {P : Fin 3 → Prop} : (∀ i, P i) ↔ P 0 ∧ P 1 ∧ P 2 := by
  simp [Fin.forall_fin_succ]

/-- A new orientation fits when the outer entries are equal. -/
theorem fits_turn {before flipped : Bool} {setting expected : Fin 3 → FdSetting}
    (h : Fits before setting expected) :
    Fits flipped setting expected ↔ before = flipped ∨ setting 0 = setting 2 := by
  unfold Fits at *
  rw [forall_fin3] at h ⊢
  cases before <;> cases flipped <;> simp_all [eq_comm]

/-- A request fits when the bus has the controller of its own number, or when it
asks for what is there. -/
theorem fits_request {flipped : Bool} {setting expected : Fin 3 → FdSetting}
    (h : Fits flipped setting expected) (bus : Fin 3) (requested : FdSetting) :
    Fits flipped (Function.update setting bus requested)
        (Function.update expected bus requested) ↔
      ((if flipped then bus.rev else bus) ≠ bus →
        setting bus = requested ∧ setting (if flipped then bus.rev else bus) = requested) := by
  unfold Fits at *
  rw [forall_fin3] at h ⊢
  cases flipped with
  | false =>
      fin_cases bus
      · simp_all [Function.update]
      · simp_all [Function.update]
      · simp_all [Function.update]
  | true =>
      fin_cases bus
      · simp_all [Function.update, eq_comm]
      · simp_all [Function.update]
      · simp_all [Function.update, eq_comm, and_comm]

/-- What a frame raises for its controller it raises for its bus. -/
theorem fits_raise {flipped : Bool} {setting expected : Fin 3 → FdSetting}
    (h : Fits flipped setting expected) (canNumber : Fin 3) (raise : FdSetting → FdSetting) :
    Fits flipped (Function.update setting canNumber (raise (setting canNumber)))
      (Function.update expected (if flipped then canNumber.rev else canNumber)
        (raise (expected (if flipped then canNumber.rev else canNumber)))) := by
  intro i
  have hcan := h canNumber
  have hi := h i
  by_cases hsame : i = canNumber
  · subst hsame
    rw [Function.update_self, Function.update_self, hcan]
  · have hne : (if flipped then i.rev else i) ≠ (if flipped then canNumber.rev else canNumber) := by
      cases flipped with
      | false => exact hsame
      | true => exact fun hrev => hsame (Fin.rev_injective hrev)
    rw [Function.update_of_ne hsame, Function.update_of_ne hne]
    exact hi

theorem fdSetting_update {d d' : Driver} {j : Fin 3} {entry : BusConfig}
    (h : d'.busConfig = Function.update d.busConfig j entry) :
    (fun i => d'.fdSetting i) =
      Function.update (fun i => d.fdSetting i) j ⟨entry.canfdEnabled, entry.brsEnabled⟩ := by
  funext i
  simp only [Driver.fdSetting, h]
  by_cases hi : i = j
  · subst hi
    rw [Function.update_self, Function.update_self]
  · rw [Function.update_of_ne hi, Function.update_of_ne hi]

/-- A step keeps the settings of all buses exactly when it agrees with them. -/
theorem configStep_iff {s : FdRun} (hs : Oriented s.driver.busConfig) (e : DriverEvent)
    (h : SendsAsExpected s) : SendsAsExpected (configStep s e) ↔ Agreeing s e := by
  obtain ⟨flipped, hflipped⟩ := hs
  have hfits := (sendsAsExpected_fits hflipped).mp h
  have hnext : OrientedAs (turned flipped e) (configStep s e).driver.busConfig :=
    driverStep_oriented hflipped e
  rw [sendsAsExpected_fits hnext]
  have hsame : ∀ {d : Driver}, d.busConfig = s.driver.busConfig →
      Fits flipped (fun i => d.fdSetting i) s.expected := by
    intro d hd
    simp only [Driver.fdSetting, hd]
    exact hfits
  cases e with
  | send toPush hw =>
      exact iff_of_true (hsame (Driver.canSend_busConfig _ _ _ _ _)) trivial
  | write data hw => exact iff_of_true (hsame (Driver.sendAll_busConfig _ _ _)) trivial
  | spiWrite data hw => exact iff_of_true (hsame (Driver.spiCanWrite_busConfig _ _ _)) trivial
  | processCan canNumber hw => exact iff_of_true (hsame (Driver.processCan_busConfig _ _ _)) trivial
  | read maxLen => exact iff_of_true hfits trivial
  | clearTx bus => exact iff_of_true hfits trivial
  | clearRx => exact iff_of_true hfits trivial
  | main board e => exact iff_of_true hfits trivial
  | setNonIso param1 param2 hw =>
      have hconfig : (s.driver.setNonIso param1 param2 hw).busConfig =
          Function.update s.driver.busConfig param1
            { s.driver.busConfig param1 with canfdNonIso := param2 ≠ 0 } :=
        Driver.processCan_busConfig _ _ _
      apply iff_of_true _ trivial
      change Fits flipped (fun i => (s.driver.setNonIso param1 param2 hw).fdSetting i) s.expected
      rw [fdSetting_update hconfig]
      change Fits flipped (Function.update (fun i => s.driver.fdSetting i) param1
        (s.driver.fdSetting param1)) s.expected
      rw [Function.update_eq_self param1 fun i => s.driver.fdSetting i]
      exact hfits
  | setOrientation new =>
      have hsetting : (fun i => (s.driver.canSetOrientation new).fdSetting i) =
          fun i => s.driver.fdSetting i := by
        funext i
        fin_cases i
        · rfl
        · rfl
        · rfl
      change Fits new (fun i => (s.driver.canSetOrientation new).fdSetting i) s.expected ↔ _
      rw [hsetting, fits_turn hfits]
      unfold Agreeing
      rw [(hflipped 0).1]
      cases flipped <;> cases new <;> simp
  | rx canNumber frame hw =>
      apply iff_of_true _ trivial
      have hupdate := @fdSetting_update s.driver (s.driver.canRx canNumber frame hw) canNumber _
        (Driver.canRx_busConfig _ _ _ _)
      have hraise := fits_raise hfits canNumber fun setting =>
        ⟨setting.fdf || frame.fifo.fdf, setting.brs || frame.fifo.brs⟩
      change Fits flipped (fun i => (s.driver.canRx canNumber frame hw).fdSetting i)
        (expectedSettings s.driver (.rx canNumber frame hw) s.expected)
      rw [hupdate]
      simp only [expectedSettings, (hflipped canNumber).1]
      exact hraise
  | setDataBitrate param1 param2 hw =>
      change Fits flipped (fun i => (s.driver.setDataBitrate param1 param2 hw).fdSetting i)
        (expectedSettings s.driver (.setDataBitrate param1 param2 hw) s.expected) ↔ _
      unfold Agreeing
      by_cases hspeed : param2.toUInt32 ∈ Driver.dataSpeeds
      · have hconfig : (s.driver.setDataBitrate param1 param2 hw).busConfig =
            Function.update s.driver.busConfig param1
              (Driver.setDataSpeed param2.toUInt32 (s.driver.busConfig param1)) := by
          rw [Driver.setDataBitrate, if_pos hspeed]
          exact Driver.processCan_busConfig _ _ _
        rw [fdSetting_update hconfig, expectedSettings, if_pos hspeed]
        refine (fits_request hfits param1 (s.driver.requestedSetting param1 param2)).trans ?_
        simp only [hspeed, forall_const, (hflipped param1).2]
      · rw [Driver.setDataBitrate, if_neg hspeed, expectedSettings, if_neg hspeed]
        exact iff_of_true hfits fun h => absurd h hspeed

/-! ### Runs -/

/-- In every run, the frames of all buses have the settings of their bus all
along exactly when every step agrees with them. -/
theorem canfd_settings_iff (main : Main.State) (events : List DriverEvent) :
    Always configStep SendsAsExpected (initialConfig main) events ↔
      Along configStep Agreeing (initialConfig main) events := by
  apply always_iff_along (I := fun s : FdRun => Oriented s.driver.busConfig)
  · rintro s e ⟨flipped, hflipped⟩
    exact ⟨_, driverStep_oriented hflipped e⟩
  · intro s e hs h
    exact configStep_iff hs e h
  · exact ⟨false, fun _ => ⟨rfl, rfl⟩⟩
  · exact sendsAsExpected_iff.mpr fun _ => rfl

/-- In a flipped harness, a request for the first bus sets up the third one. -/
theorem canfd_settings_crossed :
    ¬ ∀ (main : Main.State) (events : List DriverEvent),
      Always configStep SendsAsExpected (initialConfig main) events := by
  intro hall
  have hsends := (hall {} [.setOrientation true, .setDataBitrate 0 20000 quiet]).last
  obtain ⟨hfdf, -⟩ := hsends 2 (ofStruct [])
  revert hfdf
  decide

end Panda.Comms
