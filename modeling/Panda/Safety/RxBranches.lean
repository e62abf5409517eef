import Panda.Safety.SameFrame

/-!
The branches of the receive hooks. For every mode, the messages that its hook
looks at, and how many of their data bytes decide what the hook does. Frames
that agree in these bytes are received alike, whatever the rest of the packet
holds.
-/

namespace Panda.Safety

open Library

variable {msg msg' : CANPacket}

/-! ### Honda -/

def hondaRxBranches (alternativeExperience : Nat) (p : HondaParams) (addr bus : Nat) :
    List (Bool × Nat) :=
  [(addr == 0x158, 2),
   (addr == 0x326, 4),
   (addr == 0x1A6, 6),
   (hondaPcmCruise p && addr == 0x17C, 5),
   ((addr == 0x1A6 || addr == 0x296) && bus == hondaGetPtBus p, 1),
   (p.altBrakeMsg && addr == 0x1BE, 1),
   (!p.altBrakeMsg && addr == 0x17C, 7),
   (addr == 0x17C, 1),
   ((alternativeExperience &&& altExpDisableStockAeb) == 0 && bus == 2 && addr == 0x1FA, 4)]

theorem hondaRxHook_congr (h : SameFrame msg msg') {p : HondaParams} {c : Context}
    (hlong : Covers (getLen msg)
      (hondaRxBranches c.alternativeExperience p (getAddr msg) (getBus msg)))
    (sv : Signals × HondaVars) : hondaRxHook c p msg' sv = hondaRxHook c p msg sv := by
  simp only [hondaRxBranches, covers_cons, Bool.and_eq_true, Bool.or_eq_true, beq_iff_eq,
    Bool.not_eq_true'] at hlong
  obtain ⟨hmoving, hmain, hscm, hcruise, hbuttons, hbrakeAlt, hbrake, hgas, haeb, -⟩ := hlong
  dsimp only [hondaRxHook]
  rw [h.addr_eq, h.bus_eq]
  refine congrArg (onSignals (genericRxChecks c _)) ?_
  refine guarded_congr (guarded_congr (guarded_congr (guarded_congr (guarded_congr (guarded_congr
    (guarded_congr (guarded_congr rfl ?_) ?_) ?_) ?_) ?_) ?_) ?_) ?_
  · intro haddr sv
    have hlen := hmoving haddr
    simp (disch := omega) only [h.byte_eq]
  · rintro (haddr | haddr) sv
    · have hlen := hmain haddr
      simp (disch := omega) only [if_pos haddr, h.bit_eq]
    · have hlen := hscm haddr
      have hother : getAddr msg ≠ 0x326 := by omega
      simp (disch := omega) only [if_neg hother, h.bit_eq]
  · intro hbranch sv
    have hlen := hcruise hbranch
    simp (disch := omega) only [h.bit_eq]
  · intro hbranch sv
    have hlen := hbuttons hbranch
    simp (disch := omega) only [h.byte_eq]
  · intro hbranch sv
    have hlen := hbrakeAlt hbranch
    simp (disch := omega) only [h.bit_eq]
  · rintro ⟨halt, haddr⟩ sv
    have hlen := hbrake ⟨by simpa using halt, haddr⟩
    simp (disch := omega) only [hondaRxBrake, h.bit_eq]
  · intro haddr sv
    have hlen := hgas haddr
    simp (disch := omega) only [h.byte_eq]
  · rintro ⟨hexperience, hbus, haddr⟩ sv
    have hlen := haeb ⟨⟨hexperience, hbus⟩, haddr⟩
    have hevent : hondaStockAeb msg' = hondaStockAeb msg := h.bit_eq (by omega)
    have hstock : hondaStockBrake msg' = hondaStockBrake msg := by
      simp (disch := omega) only [hondaStockBrake, h.byte_eq]
    dsimp only [onVars, hondaRxStockAeb]
    rw [hevent, hstock]

/-! ### Toyota -/

def toyotaRxBranches (p : ToyotaParams) (addr bus : Nat) : List (Bool × Nat) :=
  if bus = 0 then
    [(addr == 0x260, 5),
     (addr == 0x260 && p.dbcEpsTorqueFactor != 0, 7),
     (addr == 0x1D2, 1),
     (addr == 0xaa, 8),
     (addr == 0x224 && p.altBrake, 1),
     (addr == 0x226 && !p.altBrake, 5)]
  else []

/-- The measured torque is scaled by a factor, so with a factor of zero its
bytes do not matter. -/
theorem toyotaRxSteering_congr (h : SameFrame msg msg') {p : ToyotaParams}
    (hangle : 5 ≤ getLen msg) (htorque : p.dbcEpsTorqueFactor ≠ 0 → 7 ≤ getLen msg)
    (s : Signals) : toyotaRxSteering p msg' s = toyotaRxSteering p msg s := by
  by_cases hfactor : p.dbcEpsTorqueFactor = 0
  · simp (disch := omega) only [toyotaRxSteering, hfactor, Nat.cast_zero, mul_zero, h.byte_eq,
      h.bit_eq]
  · have hlen := htorque hfactor
    simp (disch := omega) only [toyotaRxSteering, h.byte_eq, h.bit_eq]

theorem toyotaRxHook_congr (h : SameFrame msg msg') {p : ToyotaParams}
    (hlong : Covers (getLen msg) (toyotaRxBranches p (getAddr msg) (getBus msg))) (c : Context)
    (s : Signals) : toyotaRxHook c p msg' s = toyotaRxHook c p msg s := by
  dsimp only [toyotaRxHook]
  rw [h.addr_eq, h.bus_eq]
  refine guarded_congr rfl fun hbus s => congrArg (genericRxChecks c _) ?_
  simp only [toyotaRxBranches, if_pos hbus, covers_cons, Bool.and_eq_true, beq_iff_eq, bne_iff_ne,
    Bool.not_eq_true'] at hlong
  obtain ⟨hangle, htorque, hcruise, hspeed, hbrakeAlt, hbrake, -⟩ := hlong
  refine guarded_congr (guarded_congr (guarded_congr (guarded_congr rfl ?_) ?_) ?_) ?_
  · intro haddr s
    exact toyotaRxSteering_congr h (hangle haddr) (fun hfactor => htorque ⟨haddr, hfactor⟩) s
  · intro haddr s
    have hlen := hcruise haddr
    simp (disch := omega) only [h.bit_eq]
  · intro haddr s
    have hlen := hspeed haddr
    simp (disch := omega) only [toyotaWheelSpeedSum, List.map_cons, List.map_nil, h.byte_eq]
  · rintro (⟨haddr, halt⟩ | ⟨haddr, halt⟩) s
    · have hlen := hbrakeAlt ⟨haddr, halt⟩
      rw [if_pos haddr, h.bit_eq (by omega)]
    · have hlen := hbrake ⟨haddr, by simpa using halt⟩
      have hother : getAddr msg ≠ 0x224 := by omega
      rw [if_neg hother, h.bit_eq (by omega)]

/-! ### GM -/

def gmRxBranches (p : GmParams) (addr bus : Nat) : List (Bool × Nat) :=
  if bus = 0 then
    [(addr == 0x184, 8),
     (addr == 0x34A, 4),
     (addr == 0x1E1 && !p.pcmCruise, 6),
     (addr == 0xBE && p.hw == .ascm, 2),
     (addr == 0xC9 && p.hw == .cam, 6),
     (addr == 0x1C4, 6),
     (addr == 0xBD, 1)]
  else []

theorem gmRxHook_congr (h : SameFrame msg msg') {p : GmParams}
    (hlong : Covers (getLen msg) (gmRxBranches p (getAddr msg) (getBus msg))) (c : Context)
    (s : Signals) : gmRxHook c p msg' s = gmRxHook c p msg s := by
  dsimp only [gmRxHook]
  rw [h.addr_eq, h.bus_eq]
  refine guarded_congr rfl fun hbus s => congrArg (genericRxChecks c _) ?_
  simp only [gmRxBranches, if_pos hbus, covers_cons, Bool.and_eq_true, beq_iff_eq,
    Bool.not_eq_true'] at hlong
  obtain ⟨htorque, hspeed, hbuttons, hbrakeAscm, hbrakeCam, hgas, hregen, -⟩ := hlong
  refine guarded_congr (guarded_congr (guarded_congr (guarded_congr (guarded_congr (guarded_congr
    (guarded_congr rfl ?_) ?_) ?_) ?_) ?_) ?_) ?_
  · intro haddr s
    have hlen := htorque haddr
    simp (disch := omega) only [h.byte_eq]
  · intro haddr s
    have hlen := hspeed haddr
    simp (disch := omega) only [h.byte_eq]
  · rintro ⟨haddr, hpcm⟩ s
    have hlen := hbuttons ⟨haddr, by simpa using hpcm⟩
    simp (disch := omega) only [h.byte_eq]
  · intro hbranch s
    have hlen := hbrakeAscm hbranch
    simp (disch := omega) only [h.byte_eq]
  · intro hbranch s
    have hlen := hbrakeCam hbranch
    simp (disch := omega) only [h.bit_eq]
  · intro haddr s
    have hlen := hgas haddr
    simp (disch := omega) only [h.byte_eq]
  · intro haddr s
    have hlen := hregen haddr
    simp (disch := omega) only [h.byte_eq]

/-! ### Ford -/

/-- The second speed only takes controls away. -/
def fordRxBranches (s : Signals) (addr bus : Nat) : List (Bool × Nat) :=
  if bus = fordMainBus then
    [(addr == fordDesiredTorqBrk, 4),
     (addr == fordBrakeSysFeatures, 2),
     (addr == fordEngVehicleSpThrottle2 && s.controlsAllowed, 8),
     (addr == fordYawDataFd1, 4),
     (addr == fordEngVehicleSpThrottle, 2),
     (addr == fordEngBrakeData, 2)]
  else []

theorem fordRxSecondSpeed_congr (h : SameFrame msg msg') {s : Signals}
    (hlen : s.controlsAllowed = true → 8 ≤ getLen msg) :
    fordRxSecondSpeed msg' s = fordRxSecondSpeed msg s := by
  unfold fordRxSecondSpeed
  cases hon : s.controlsAllowed with
  | false => simp only [Bool.false_and]
  | true =>
      have hlen := hlen hon
      have hspeed : fordFilteredPcmSpeed msg' = fordFilteredPcmSpeed msg := by
        simp (disch := omega) only [fordFilteredPcmSpeed, h.byte_eq]
      rw [hspeed]

theorem fordRxHook_congr (h : SameFrame msg msg') {s : Signals}
    (hlong : Covers (getLen msg) (fordRxBranches s (getAddr msg) (getBus msg))) (c : Context)
    (p : FordParams) : fordRxHook c p msg' s = fordRxHook c p msg s := by
  dsimp only [fordRxHook]
  rw [h.addr_eq, h.bus_eq]
  refine guarded_congr_at rfl fun hbus => congrArg (genericRxChecks c _) ?_
  simp only [fordRxBranches, if_pos hbus, covers_cons, Bool.and_eq_true, beq_iff_eq] at hlong
  obtain ⟨hmoving, hspeed, hsecond, hyaw, hgas, hbrake, -⟩ := hlong
  refine guarded_congr (guarded_congr (guarded_congr (guarded_congr_at (guarded_congr
    (guarded_congr rfl ?_) ?_) ?_) ?_) ?_) ?_
  · intro haddr s
    have hlen := hmoving haddr
    simp (disch := omega) only [h.byte_eq]
  · intro haddr s
    have hlen := hspeed haddr
    simp (disch := omega) only [h.byte_eq]
  · intro haddr
    apply fordRxSecondSpeed_congr h
    intro hon
    exact hsecond ⟨haddr, by simpa [updateVehicleSpeed] using hon⟩
  · intro haddr s
    have hlen := hyaw haddr
    simp (disch := omega) only [fordRxYawRate, h.byte_eq]
  · intro haddr s
    have hlen := hgas haddr
    simp (disch := omega) only [h.byte_eq]
  · intro haddr s
    have hlen := hbrake haddr
    simp (disch := omega) only [fordRxBrakeCruise, h.byte_eq]

/-! ### Tesla -/

def teslaRxBranches (p : TeslaParams) (addr bus : Nat) : List (Bool × Nat) :=
  [(!p.powertrain && ((!p.raven && addr == 0x370 && bus == 0) ||
      (p.raven && addr == 0x131 && bus == 2)), 6),
   (bus == 0 && addr == (if p.powertrain then 0x116 else 0x118), 4),
   (bus == 0 && addr == (if p.powertrain then 0x106 else 0x108), 7),
   (bus == 0 && addr == (if p.powertrain then 0x1f8 else 0x20a), 1),
   (bus == 0 && addr == (if p.powertrain then 0x256 else 0x368), 2),
   (bus == 2 && p.longitudinal && addr == teslaDasControlAddr p, 3)]

theorem teslaRxHook_congr (h : SameFrame msg msg') {p : TeslaParams}
    (hlong : Covers (getLen msg) (teslaRxBranches p (getAddr msg) (getBus msg))) (c : Context)
    (sv : Signals × TeslaVars) : teslaRxHook c p msg' sv = teslaRxHook c p msg sv := by
  simp only [teslaRxBranches, covers_cons, Bool.and_eq_true, Bool.or_eq_true, beq_iff_eq,
    Bool.not_eq_true'] at hlong
  obtain ⟨hangle, hspeed, hgas, hbrake, hcruise, haeb, -⟩ := hlong
  dsimp only [teslaRxHook]
  rw [h.addr_eq, h.bus_eq]
  refine congrArg (onSignals (genericRxChecks c _)) ?_
  refine guarded_congr (guarded_congr (guarded_congr (guarded_congr (guarded_congr
    (guarded_congr rfl ?_) ?_) ?_) ?_) ?_) ?_
  · intro hbranch sv
    have hlen := hangle (by simpa [and_assoc] using hbranch)
    simp (disch := omega) only [h.byte_eq]
  · intro hbranch sv
    have hlen := hspeed hbranch
    have hvalue : teslaSpeed msg' = teslaSpeed msg := by
      simp (disch := omega) only [teslaSpeed, h.byte_eq]
    rw [hvalue]
  · intro hbranch sv
    have hlen := hgas hbranch
    simp (disch := omega) only [h.byte_eq]
  · intro hbranch sv
    have hlen := hbrake hbranch
    simp (disch := omega) only [h.byte_eq]
  · intro hbranch sv
    have hlen := hcruise hbranch
    simp (disch := omega) only [teslaCruiseEngaged, h.byte_eq]
  · intro hbranch sv
    have hlen := haeb (by simpa [and_assoc] using hbranch)
    simp (disch := omega) only [h.byte_eq]

/-! ### Hyundai -/

def hyundaiRxBranches (p : HyundaiParams) (addr bus : Nat) : List (Bool × Nat) :=
  [(hyundaiIsScc12 p addr bus && !p.longitudinal, 2),
   (bus == 0 && addr == 0x251, 2),
   (bus == 0 && addr == 0x4F1, 1),
   (bus == 0 && addr == 0x371 && p.evGasSignal, 5),
   (bus == 0 && addr == 0x371 && !p.evGasSignal && p.hybridGasSignal, 8),
   (bus == 0 && addr == 0x260 && !p.evGasSignal && !p.hybridGasSignal, 8),
   (bus == 0 && addr == 0x386, 8),
   (bus == 0 && addr == 0x394, 6)]

theorem hyundaiRxGas_congr (h : SameFrame msg msg') {p : HyundaiParams}
    (hev : getAddr msg = 0x371 → p.evGasSignal = true → 5 ≤ getLen msg)
    (hhybrid : getAddr msg = 0x371 → p.evGasSignal = false → p.hybridGasSignal = true →
      8 ≤ getLen msg)
    (hother : getAddr msg = 0x260 → p.evGasSignal = false → p.hybridGasSignal = false →
      8 ≤ getLen msg) (s : Signals) : hyundaiRxGas p msg' s = hyundaiRxGas p msg s := by
  dsimp only [hyundaiRxGas]
  rw [h.addr_eq]
  split
  · rename_i hbranch
    have hlen := hev hbranch.1 hbranch.2
    simp (disch := omega) only [h.byte_eq]
  · rename_i hnotEv
    split
    · rename_i hbranch
      have hlen := hhybrid hbranch.1 (by simpa [hbranch.1] using hnotEv) hbranch.2
      simp (disch := omega) only [h.byte_eq]
    · split
      · rename_i hbranch
        have hlen := hother hbranch.1 (by simpa using hbranch.2.1) (by simpa using hbranch.2.2)
        simp (disch := omega) only [h.byte_eq]
      · rfl

theorem hyundaiRxHook_congr (h : SameFrame msg msg') {p : HyundaiParams}
    (hlong : Covers (getLen msg) (hyundaiRxBranches p (getAddr msg) (getBus msg))) (c : Context)
    (sv : Signals × HyundaiVars) : hyundaiRxHook c p msg' sv = hyundaiRxHook c p msg sv := by
  simp only [hyundaiRxBranches, covers_cons, Bool.and_eq_true, beq_iff_eq,
    Bool.not_eq_true'] at hlong
  obtain ⟨hscc, htorque, hbuttons, hev, hhybrid, hgas, hmoving, hbrake, -⟩ := hlong
  dsimp only [hyundaiRxHook]
  rw [h.addr_eq, h.bus_eq]
  refine guarded_congr (guarded_congr rfl ?_) fun hbus sv => ?_
  · intro hscc12 sv
    refine guarded_congr rfl fun hstock sv => ?_
    have hlen := hscc ⟨hscc12, by simpa using hstock⟩
    have hengaged : hyundaiScc12CruiseEngaged msg' = hyundaiScc12CruiseEngaged msg := by
      unfold hyundaiScc12CruiseEngaged
      rw [h.field_eq 2 (by omega) (by decide)]
    rw [hengaged]
  refine congrArg (onSignals (genericRxChecks c _)) ?_
  refine guarded_congr (guarded_congr (congrArg₂ onSignals ?_ (guarded_congr (guarded_congr rfl ?_)
    ?_)) ?_) ?_
  · funext s
    exact hyundaiRxGas_congr h (fun haddr hgas => hev ⟨⟨hbus, haddr⟩, hgas⟩)
      (fun haddr hnotEv hgas => hhybrid ⟨⟨⟨hbus, haddr⟩, hnotEv⟩, hgas⟩)
      (fun haddr hnotEv hnotHybrid => hgas ⟨⟨⟨hbus, haddr⟩, hnotEv⟩, hnotHybrid⟩) s
  · intro haddr sv
    have hlen := htorque ⟨hbus, haddr⟩
    simp (disch := omega) only [h.bytes_eq]
  · intro haddr sv
    have hlen := hbuttons ⟨hbus, haddr⟩
    simp (disch := omega) only [h.byte_eq, h.bit_eq]
  · intro haddr sv
    have hlen := hmoving ⟨hbus, haddr⟩
    simp (disch := omega) only [h.bytes_eq]
  · intro haddr sv
    have hlen := hbrake ⟨hbus, haddr⟩
    simp (disch := omega) only [h.byte_eq]

/-! ### Hyundai CAN-FD -/

def hyundaiCanfdRxBranches (p : HyundaiParams) (q : HyundaiCanfdParams) (addr bus : Nat) :
    List (Bool × Nat) :=
  (bus == hyundaiCanfdSccBus p && addr == 0x1a0 && !p.longitudinal, 9) ::
    if bus = hyundaiCanfdPtBus p then
      [(addr == 0xea, 12),
       (addr == hyundaiCanfdButtonAddr q, if addr = 0x1cf then 3 else 5),
       (addr == 0x35 && p.evGasSignal, 6),
       (addr == 0x105 && p.hybridGasSignal, 15),
       (addr == 0x100 && !p.evGasSignal && !p.hybridGasSignal, 23),
       (addr == 0x175, 11),
       (addr == 0xa0, 16)]
    else []

theorem hyundaiCanfdRxButtons_congr (h : SameFrame msg msg') (p : HyundaiParams)
    (hlen : (if getAddr msg = 0x1cf then 3 else 5) ≤ getLen msg) (sv : Signals × HyundaiVars) :
    hyundaiCanfdRxButtons p msg' sv = hyundaiCanfdRxButtons p msg sv := by
  unfold hyundaiCanfdRxButtons
  rw [h.addr_eq]
  split
  · rename_i haddr
    rw [if_pos haddr] at hlen
    simp (disch := omega) only [h.byte_eq, h.bit_eq]
  · rename_i haddr
    rw [if_neg haddr] at hlen
    simp (disch := omega) only [h.byte_eq, h.bit_eq]

theorem hyundaiCanfdRxGas_congr (h : SameFrame msg msg') {p : HyundaiParams}
    (hev : getAddr msg = 0x35 ∧ p.evGasSignal = true → 6 ≤ getLen msg)
    (hhybrid : getAddr msg = 0x105 ∧ p.hybridGasSignal = true → 15 ≤ getLen msg)
    (hother : (getAddr msg = 0x100 ∧ p.evGasSignal = false) ∧ p.hybridGasSignal = false →
      23 ≤ getLen msg) (s : Signals) : hyundaiCanfdRxGas p msg' s = hyundaiCanfdRxGas p msg s := by
  dsimp only [hyundaiCanfdRxGas]
  rw [h.addr_eq]
  split
  · rename_i hbranch
    have hlen := hev hbranch
    simp (disch := omega) only [h.byte_eq]
  · split
    · rename_i hbranch
      have hlen := hhybrid hbranch
      simp (disch := omega) only [h.byte_eq, h.bit_eq]
    · split
      · rename_i hbranch
        have hlen := hother (by simpa [and_assoc] using hbranch)
        simp (disch := omega) only [h.bit_eq]
      · rfl

theorem hyundaiCanfdRxHook_congr (h : SameFrame msg msg')
    {pq : HyundaiParams × HyundaiCanfdParams}
    (hlong : Covers (getLen msg) (hyundaiCanfdRxBranches pq.1 pq.2 (getAddr msg) (getBus msg)))
    (c : Context) (sv : Signals × HyundaiVars) :
    hyundaiCanfdRxHook c pq msg' sv = hyundaiCanfdRxHook c pq msg sv := by
  rw [hyundaiCanfdRxBranches, covers_cons] at hlong
  obtain ⟨hscc, hlong⟩ := hlong
  dsimp only [hyundaiCanfdRxHook]
  rw [h.addr_eq, h.bus_eq]
  refine congrArg (onSignals (genericRxChecks c _)) ?_
  refine guarded_congr (guarded_congr rfl fun hbus sv => ?_) ?_
  · simp only [if_pos hbus, covers_cons, Bool.and_eq_true, beq_iff_eq, Bool.not_eq_true'] at hlong
    obtain ⟨htorque, hbuttons, hev, hhybrid, hother, hbrake, hmoving, -⟩ := hlong
    refine guarded_congr (guarded_congr (congrArg₂ onSignals ?_ (guarded_congr (guarded_congr rfl
      ?_) ?_)) ?_) ?_
    · funext s
      exact hyundaiCanfdRxGas_congr h hev hhybrid hother s
    · intro haddr sv
      have hlen := htorque haddr
      simp (disch := omega) only [h.byte_eq]
    · intro haddr sv
      exact hyundaiCanfdRxButtons_congr h pq.1 (hbuttons haddr) sv
    · intro haddr sv
      have hlen := hbrake haddr
      simp (disch := omega) only [h.bit_eq]
    · intro haddr sv
      have hlen := hmoving haddr
      simp (disch := omega) only [h.bytes_eq]
  · rintro ⟨hbus, haddr, hstock⟩ sv
    have hlen := hscc (by simp [hbus, haddr, hstock])
    simp (disch := omega) only [hyundaiCanfdCruiseEngaged, h.byte_eq]

/-! ### Chrysler -/

def chryslerRxBranches (p : ChryslerParams) (addr bus : Nat) : List (Bool × Nat) :=
  [(bus == 0 && addr == p.addrs.eps2, 6),
   (bus == chryslerDas3Bus p && addr == p.addrs.das3, 3),
   (p.platform != .pacifica && bus == 0 && addr == p.addrs.esp8, 6),
   (p.platform == .pacifica && bus == 0 && addr == 514, 4),
   (bus == 0 && addr == p.addrs.ecm5, 1),
   (bus == 0 && addr == p.addrs.esp1, 1)]

theorem chryslerRxHook_congr (h : SameFrame msg msg') {p : ChryslerParams}
    (hlong : Covers (getLen msg) (chryslerRxBranches p (getAddr msg) (getBus msg))) (c : Context)
    (s : Signals) : chryslerRxHook c p msg' s = chryslerRxHook c p msg s := by
  simp only [chryslerRxBranches, covers_cons, Bool.and_eq_true, beq_iff_eq, bne_iff_ne,
    and_assoc] at hlong
  obtain ⟨htorque, hcruise, hmoving, hspeed, hgas, hbrake, -⟩ := hlong
  dsimp only [chryslerRxHook]
  rw [h.addr_eq, h.bus_eq]
  refine congrArg (genericRxChecks c _) ?_
  refine guarded_congr (guarded_congr (guarded_congr (guarded_congr (guarded_congr
    (guarded_congr rfl ?_) ?_) ?_) ?_) ?_) ?_
  · intro hbranch s
    have hlen := htorque hbranch
    simp (disch := omega) only [h.byte_eq]
  · intro hbranch s
    have hlen := hcruise hbranch
    simp (disch := omega) only [h.bit_eq]
  · intro hbranch s
    have hlen := hmoving hbranch
    simp (disch := omega) only [h.byte_eq]
  · intro hbranch s
    have hlen := hspeed hbranch
    simp (disch := omega) only [h.byte_eq]
  · intro hbranch s
    have hlen := hgas hbranch
    simp (disch := omega) only [h.byte_eq]
  · intro hbranch s
    have hlen := hbrake hbranch
    simp (disch := omega) only [h.byte_eq]

/-! ### Subaru -/

def subaruRxBranches (p : SubaruParams) (addr bus : Nat) : List (Bool × Nat) :=
  [(addr == subaruSteeringTorque && bus == subaruMainBus, 6),
   (addr == subaruCruiseControl && bus == subaruAltMainBus p, 6),
   (addr == subaruWheelSpeeds && bus == subaruAltMainBus p, 8),
   (addr == subaruBrakeStatus && bus == subaruAltMainBus p, 8),
   (addr == subaruThrottle && bus == subaruMainBus, 5)]

theorem subaruRxHook_congr (h : SameFrame msg msg') {p : SubaruParams}
    (hlong : Covers (getLen msg) (subaruRxBranches p (getAddr msg) (getBus msg))) (c : Context)
    (s : Signals) : subaruRxHook c p msg' s = subaruRxHook c p msg s := by
  simp only [subaruRxBranches, covers_cons, Bool.and_eq_true, beq_iff_eq] at hlong
  obtain ⟨hsteering, hcruise, hspeed, hbrake, hgas, -⟩ := hlong
  dsimp only [subaruRxHook]
  rw [h.addr_eq, h.bus_eq]
  refine congrArg (genericRxChecks c _) ?_
  refine guarded_congr (guarded_congr (guarded_congr (guarded_congr (guarded_congr rfl ?_) ?_) ?_)
    ?_) ?_
  · intro hbranch s
    have hlen := hsteering hbranch
    simp (disch := omega) only [subaruRxSteeringTorque, h.bytes_eq]
  · intro hbranch s
    have hlen := hcruise hbranch
    simp (disch := omega) only [h.bit_eq]
  · intro hbranch s
    have hlen := hspeed hbranch
    simp (disch := omega) only [subaruRxWheelSpeeds, h.bytes_eq]
  · intro hbranch s
    have hlen := hbrake hbranch
    simp (disch := omega) only [h.bit_eq]
  · intro hbranch s
    have hlen := hgas hbranch
    simp (disch := omega) only [h.byte_eq]

def subaruPreglobalRxBranches (addr bus : Nat) : List (Bool × Nat) :=
  if bus = subaruPgMainBus then
    [(addr == subaruPgSteeringTorque, 5),
     (addr == subaruPgCruiseControl, 7),
     (addr == subaruPgWheelSpeeds, 8),
     (addr == subaruPgBrakePedal, 3),
     (addr == subaruPgThrottle, 1)]
  else []

theorem subaruPreglobalRxHook_congr (h : SameFrame msg msg')
    (hlong : Covers (getLen msg) (subaruPreglobalRxBranches (getAddr msg) (getBus msg)))
    (c : Context) (p : SubaruPreglobalParams) (s : Signals) :
    subaruPreglobalRxHook c p msg' s = subaruPreglobalRxHook c p msg s := by
  dsimp only [subaruPreglobalRxHook]
  rw [h.addr_eq, h.bus_eq]
  refine guarded_congr rfl fun hbus s => congrArg (genericRxChecks c _) ?_
  simp only [subaruPreglobalRxBranches, if_pos hbus, covers_cons, beq_iff_eq] at hlong
  obtain ⟨htorque, hcruise, hspeed, hbrake, hgas, -⟩ := hlong
  refine guarded_congr (guarded_congr (guarded_congr (guarded_congr (guarded_congr rfl ?_) ?_) ?_)
    ?_) ?_
  · intro haddr s
    have hlen := htorque haddr
    simp (disch := omega) only [h.byte_eq]
  · intro haddr s
    have hlen := hcruise haddr
    simp (disch := omega) only [h.bit_eq]
  · intro haddr s
    have hlen := hspeed haddr
    simp (disch := omega) only [h.bytes_eq]
  · intro haddr s
    have hlen := hbrake haddr
    rw [h.field_eq 8 (by omega) (by decide)]
  · intro haddr s
    have hlen := hgas haddr
    simp (disch := omega) only [h.byte_eq]

/-! ### Mazda and Nissan -/

def mazdaRxBranches (addr bus : Nat) : List (Bool × Nat) :=
  if bus = mazdaMain then
    [(addr == mazdaEngineData, 6),
     (addr == mazdaSteerTorque, 1),
     (addr == mazdaCrzCtrl, 1),
     (addr == mazdaPedals, 1)]
  else []

theorem mazdaRxHook_congr (h : SameFrame msg msg')
    (hlong : Covers (getLen msg) (mazdaRxBranches (getAddr msg) (getBus msg))) (c : Context)
    (s : Signals) : mazdaRxHook c msg' s = mazdaRxHook c msg s := by
  dsimp only [mazdaRxHook]
  rw [h.addr_eq, h.bus_eq]
  refine guarded_congr rfl fun hbus s => congrArg (genericRxChecks c _) ?_
  simp only [mazdaRxBranches, if_pos hbus, covers_cons, beq_iff_eq] at hlong
  obtain ⟨hengine, htorque, hcruise, hbrake, -⟩ := hlong
  refine guarded_congr (guarded_congr (guarded_congr (guarded_congr (guarded_congr rfl ?_) ?_) ?_)
    ?_) ?_
  · intro haddr s
    have hlen := hengine haddr
    simp (disch := omega) only [h.byte_eq]
  · intro haddr s
    have hlen := htorque haddr
    simp (disch := omega) only [h.byte_eq]
  · intro haddr s
    have hlen := hcruise haddr
    simp (disch := omega) only [h.byte_eq]
  · intro haddr s
    have hlen := hengine haddr
    simp (disch := omega) only [h.byte_eq]
  · intro haddr s
    have hlen := hbrake haddr
    simp (disch := omega) only [h.byte_eq]

def nissanRxBranches (p : NissanParams) (addr bus : Nat) : List (Bool × Nat) :=
  (addr == 0x30f && bus == nissanCruiseBus p, 1) ::
    if bus = (if p.altEps then 1 else 0) then
      [(addr == 0x2, 2),
       (addr == 0x285, 4),
       (addr == 0x15c, 7),
       (addr == 0x454, 3),
       (addr == 0x239, 5)]
    else []

theorem nissanRxHook_congr (h : SameFrame msg msg') {p : NissanParams}
    (hlong : Covers (getLen msg) (nissanRxBranches p (getAddr msg) (getBus msg))) (c : Context)
    (s : Signals) : nissanRxHook c p msg' s = nissanRxHook c p msg s := by
  rw [nissanRxBranches, covers_cons] at hlong
  obtain ⟨hcruise, hlong⟩ := hlong
  dsimp only [nissanRxHook]
  rw [h.addr_eq, h.bus_eq]
  refine congrArg (genericRxChecks c _) ?_
  refine guarded_congr (guarded_congr rfl fun hbus s => ?_) ?_
  · simp only [if_pos hbus, covers_cons, beq_iff_eq] at hlong
    obtain ⟨hangle, hspeed, hgas, hbrake, hleaf, -⟩ := hlong
    refine guarded_congr (guarded_congr (guarded_congr (guarded_congr rfl ?_) ?_) ?_) ?_
    · intro haddr s
      have hlen := hangle haddr
      have hfield : (getBytes msg' 0 4 >>> 0) &&& 0xFFFF = (getBytes msg 0 4 >>> 0) &&& 0xFFFF :=
        h.field_eq 16 (by omega) (by decide)
      rw [Nat.shiftRight_zero, Nat.shiftRight_zero] at hfield
      rw [hfield]
    · intro haddr s
      have hlen := hspeed haddr
      simp (disch := omega) only [h.byte_eq]
    · intro haddr s
      unfold nissanRxGas
      rw [h.addr_eq]
      split
      · rename_i hxtrail
        have hlen := hgas hxtrail
        simp (disch := omega) only [h.byte_eq]
      · rename_i hother
        have hlen := hleaf (haddr.resolve_left hother)
        simp (disch := omega) only [h.byte_eq]
    · intro haddr s
      unfold nissanRxBrake
      rw [h.addr_eq]
      split
      · rename_i hxtrail
        have hlen := hbrake hxtrail
        simp (disch := omega) only [h.byte_eq]
      · rename_i hother
        have hlen := hleaf (haddr.resolve_left hother)
        simp (disch := omega) only [h.byte_eq]
  · rintro ⟨haddr, hbus⟩ s
    have hlen := hcruise (by simp [haddr, hbus])
    simp (disch := omega) only [h.byte_eq]

/-! ### Volkswagen -/

/-- The buttons set the variables with openpilot longitudinal only, and cancel
takes controls away. -/
def volkswagenMqbRxBranches (p : VolkswagenParams) (s : Signals) (addr bus : Nat) :
    List (Bool × Nat) :=
  if bus = 0 then
    [(addr == msgEsp19, 8),
     (addr == msgLhEps03, 7),
     (addr == msgTsk06, 4),
     (addr == msgGraAcc01 && p.longitudinal, 3),
     (addr == msgGraAcc01 && s.controlsAllowed, 2),
     (addr == msgMotor20, 3),
     (addr == msgMotor14, 4),
     (addr == msgEsp05, 4)]
  else []

theorem volkswagenMqbRxButtons_congr (h : SameFrame msg msg') {p : VolkswagenParams}
    {sv : Signals × (VolkswagenVars × VolkswagenMqbVars)}
    (hlong : p.longitudinal = true → 3 ≤ getLen msg)
    (hcancel : sv.1.controlsAllowed = true → 2 ≤ getLen msg) :
    volkswagenMqbRxButtons p msg' sv = volkswagenMqbRxButtons p msg sv := by
  unfold volkswagenMqbRxButtons
  by_cases hlongitudinal : p.longitudinal = true
  · have hlen := hlong hlongitudinal
    simp (disch := omega) only [h.bit_eq]
  · rw [guarded_of_neg hlongitudinal, guarded_of_neg hlongitudinal]
    by_cases hon : sv.1.controlsAllowed = true
    · have hlen := hcancel hon
      simp (disch := omega) only [h.bit_eq]
    · have hoff : onSignals (fun s => { s with controlsAllowed := false }) sv = sv := by
        rw [Bool.not_eq_true] at hon
        simp only [onSignals, ← hon]
      simp only [guarded, hoff, ite_self]

theorem volkswagenMqbRxHook_congr (h : SameFrame msg msg') {p : VolkswagenParams}
    {sv : Signals × (VolkswagenVars × VolkswagenMqbVars)}
    (hlong : Covers (getLen msg) (volkswagenMqbRxBranches p sv.1 (getAddr msg) (getBus msg)))
    (c : Context) : volkswagenMqbRxHook c p msg' sv = volkswagenMqbRxHook c p msg sv := by
  dsimp only [volkswagenMqbRxHook]
  rw [h.addr_eq, h.bus_eq]
  refine guarded_congr_at rfl fun hbus =>
    congrArg (fun sv => onSignals (genericRxChecks c _) (volkswagenMqbRxBrake sv)) ?_
  simp only [volkswagenMqbRxBranches, if_pos hbus, covers_cons, Bool.and_eq_true,
    beq_iff_eq] at hlong
  obtain ⟨hspeed, htorque, hcruise, hbuttons, hcancel, hgas, hswitch, hpressure, -⟩ := hlong
  refine guarded_congr (guarded_congr (guarded_congr (guarded_congr_at (guarded_congr
    (guarded_congr (guarded_congr rfl ?_) ?_) ?_) ?_) ?_) ?_) ?_
  · intro haddr sv
    have hlen := hspeed haddr
    simp (disch := omega) only [List.map_cons, List.map_nil, h.byte_eq]
  · intro haddr sv
    have hlen := htorque haddr
    simp (disch := omega) only [h.byte_eq]
  · intro haddr sv
    have hlen := hcruise haddr
    simp (disch := omega) only [onSignals, volkswagenMqbRxAccStatus, h.byte_eq]
  · intro haddr
    apply volkswagenMqbRxButtons_congr h
    · intro hlongitudinal
      exact hbuttons ⟨haddr, hlongitudinal⟩
    · intro hon
      refine hcancel ⟨haddr, ?_⟩
      simpa [haddr, msgGraAcc01, msgTsk06, msgLhEps03, msgEsp19] using hon
  · intro haddr sv
    have hlen := hgas haddr
    rw [h.field_eq 8 (by omega) (by decide)]
  · intro haddr sv
    have hlen := hswitch haddr
    simp (disch := omega) only [h.byte_eq]
  · intro haddr sv
    have hlen := hpressure haddr
    simp (disch := omega) only [h.byte_eq]

def volkswagenPqRxBranches (p : VolkswagenParams) (addr bus : Nat) : List (Bool × Nat) :=
  if bus = 0 then
    [(addr == msgBremse1, 4),
     (addr == msgLenkhilfe3, 4),
     (p.longitudinal && addr == msgMotor5, 7),
     (p.longitudinal && addr == msgGraNeu, 3),
     (addr == msgMotor2, 3),
     (addr == msgMotor3, 3)]
  else []

theorem volkswagenPqRxHook_congr (h : SameFrame msg msg') {p : VolkswagenParams}
    (hlong : Covers (getLen msg) (volkswagenPqRxBranches p (getAddr msg) (getBus msg)))
    (c : Context) (sv : Signals × VolkswagenVars) :
    volkswagenPqRxHook c p msg' sv = volkswagenPqRxHook c p msg sv := by
  dsimp only [volkswagenPqRxHook]
  rw [h.addr_eq, h.bus_eq]
  refine guarded_congr rfl fun hbus sv => congrArg (onSignals (genericRxChecks c _)) ?_
  simp only [volkswagenPqRxBranches, if_pos hbus, covers_cons, Bool.and_eq_true,
    beq_iff_eq] at hlong
  obtain ⟨hspeed, htorque, hmain, hbuttons, hmotor, hgas, -⟩ := hlong
  refine guarded_congr (guarded_congr (guarded_congr (guarded_congr (guarded_congr (guarded_congr
    (guarded_congr rfl ?_) ?_) ?_) ?_) ?_) ?_) ?_
  · intro haddr sv
    have hlen := hspeed haddr
    simp (disch := omega) only [h.byte_eq]
  · intro haddr sv
    have hlen := htorque haddr
    simp (disch := omega) only [h.byte_eq]
  · intro hbranch sv
    have hlen := hmain hbranch
    simp (disch := omega) only [onSignals, volkswagenPqRxMainSwitch, h.bit_eq]
  · intro hbranch sv
    have hlen := hbuttons hbranch
    simp (disch := omega) only [volkswagenPqRxButtons, h.bit_eq]
  · rintro ⟨-, haddr⟩ sv
    have hlen := hmotor haddr
    simp (disch := omega) only [volkswagenPqCruiseEngaged, h.byte_eq]
  · intro haddr sv
    have hlen := hgas haddr
    simp (disch := omega) only [h.byte_eq]
  · intro haddr sv
    have hlen := hmotor haddr
    simp (disch := omega) only [h.byte_eq]

/-! ### All modes -/

def rxBranches (id : HooksId) (alternativeExperience : Nat) (m : ModeParams) (s : Signals)
    (addr bus : Nat) : List (Bool × Nat) :=
  match id with
  | .nooutput | .elm327 | .alloutput | .body => []
  | .hondaNidec | .hondaBosch => hondaRxBranches alternativeExperience m.honda addr bus
  | .toyota => toyotaRxBranches m.toyota addr bus
  | .gm => gmRxBranches m.gm addr bus
  | .ford => fordRxBranches s addr bus
  | .tesla => teslaRxBranches m.tesla addr bus
  | .hyundai | .hyundaiLegacy => hyundaiRxBranches m.hyundai addr bus
  | .hyundaiCanfd => hyundaiCanfdRxBranches m.hyundai m.hyundaiCanfd addr bus
  | .chrysler => chryslerRxBranches m.chrysler addr bus
  | .subaru => subaruRxBranches m.subaru addr bus
  | .subaruPreglobal => subaruPreglobalRxBranches addr bus
  | .mazda => mazdaRxBranches addr bus
  | .nissan => nissanRxBranches m.nissan addr bus
  | .volkswagenMqb => volkswagenMqbRxBranches m.volkswagen s addr bus
  | .volkswagenPq => volkswagenPqRxBranches m.volkswagen addr bus

/-- The receive hook of a mode makes the same of two frames that agree in the
bytes it needs. -/
theorem rx_congr {id : HooksId} (h : SameFrame msg msg') {c : Context} {m : ModeParams}
    {sv : Signals × ModeVars}
    (hlong : Covers (getLen msg)
      (rxBranches id c.alternativeExperience m sv.1 (getAddr msg) (getBus msg))) :
    (hooksOf id).rx c m msg' sv = (hooksOf id).rx c m msg sv := by
  cases id with
  | nooutput | elm327 | alloutput => rfl
  | body =>
      change ((onSignals (bodyRxHook msg') (sv.1, ())).1, sv.2) =
        ((onSignals (bodyRxHook msg) (sv.1, ())).1, sv.2)
      unfold bodyRxHook
      rw [h.addr_eq]
  | hondaNidec | hondaBosch =>
      exact congrArg (fun r => (r.1, hondaVarsLens.set sv.2 r.2))
        (hondaRxHook_congr h hlong (sv.1, sv.2.honda))
  | toyota => exact congrArg (fun s => (s, sv.2)) (toyotaRxHook_congr h hlong c sv.1)
  | gm => exact congrArg (fun s => (s, sv.2)) (gmRxHook_congr h hlong c sv.1)
  | ford => exact congrArg (fun s => (s, sv.2)) (fordRxHook_congr h hlong c m.ford)
  | tesla =>
      exact congrArg (fun r => (r.1, { sv.2 with tesla := r.2 }))
        (teslaRxHook_congr h hlong c (sv.1, sv.2.tesla))
  | hyundai | hyundaiLegacy =>
      exact congrArg (fun r => (r.1, hyundaiVarsLens.set sv.2 r.2))
        (hyundaiRxHook_congr h hlong c (sv.1, sv.2.hyundai))
  | hyundaiCanfd =>
      have hhook : hyundaiCanfdRxHook c (m.hyundai, m.hyundaiCanfd) msg' (sv.1, sv.2.hyundai) =
          hyundaiCanfdRxHook c (m.hyundai, m.hyundaiCanfd) msg (sv.1, sv.2.hyundai) := by
        apply hyundaiCanfdRxHook_congr h
        exact hlong
      exact congrArg (fun r => (r.1, hyundaiVarsLens.set sv.2 r.2)) hhook
  | chrysler => exact congrArg (fun s => (s, sv.2)) (chryslerRxHook_congr h hlong c sv.1)
  | subaru => exact congrArg (fun s => (s, sv.2)) (subaruRxHook_congr h hlong c sv.1)
  | subaruPreglobal =>
      exact congrArg (fun s => (s, sv.2))
        (subaruPreglobalRxHook_congr h hlong c m.subaruPreglobal sv.1)
  | mazda => exact congrArg (fun s => (s, sv.2)) (mazdaRxHook_congr h hlong c sv.1)
  | nissan => exact congrArg (fun s => (s, sv.2)) (nissanRxHook_congr h hlong c sv.1)
  | volkswagenMqb =>
      have hhook : volkswagenMqbRxHook c m.volkswagen msg' (sv.1, volkswagenMqbVarsLens.get sv.2) =
          volkswagenMqbRxHook c m.volkswagen msg (sv.1, volkswagenMqbVarsLens.get sv.2) := by
        apply volkswagenMqbRxHook_congr h
        exact hlong
      exact congrArg (fun r => (r.1, volkswagenMqbVarsLens.set sv.2 r.2)) hhook
  | volkswagenPq =>
      exact congrArg (fun r => (r.1, { sv.2 with volkswagen := r.2 }))
        (volkswagenPqRxHook_congr h hlong c (sv.1, sv.2.volkswagen))

end Panda.Safety
