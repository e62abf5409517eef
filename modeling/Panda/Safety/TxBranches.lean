import Panda.Safety.SameFrame

/-!
The branches of the transmit hooks. `safety_tx_hook` calls the mode's hook
before it looks at the whitelist, so the hook sees frames of any length. For a
whitelisted frame its verdict counts, and the length is one that the whitelist
names: it covers all branches of the hook. Of the other frames only what the
hook remembers of the command is left.
-/

namespace Panda.Safety

open Library

variable {msg msg' : CANPacket}

/-! ### Verdicts

The branches are listed by address alone: this is all that a whitelisted length
has to cover. -/

def hondaTxBranches (addr : Nat) : List (Bool × Nat) :=
  [(addr == 0x30C, 3), (addr == 0x1FA, 2), (addr == 0x1DF, 5), (addr == 0x1C8, 2),
   (addr == 0xE4 || addr == 0x194, 2), (addr == 0xE5, 8), (addr == 0x296, 1),
   (addr == 0x18DAB0F1, 8)]

theorem hondaTxHook_congr (h : SameFrame msg msg')
    (hlong : Covers (getLen msg) (hondaTxBranches (getAddr msg))) (p : HondaParams) (s : Signals)
    (commands : Commands) (v : HondaVars) :
    hondaTxHook p s msg' commands v = hondaTxHook p s msg commands v := by
  simp only [hondaTxBranches, covers_cons, Bool.or_eq_true, beq_iff_eq] at hlong
  obtain ⟨hspeed, hbrake, haccel, hradarless, hsteer, hstatic, hbuttons, huds, -⟩ := hlong
  dsimp only [hondaTxHook]
  rw [h.addr_eq, h.bus_eq]
  refine guarded_congr (guarded_congr (guarded_congr (guarded_congr (guarded_congr (guarded_congr
    (guarded_congr (guarded_congr rfl ?_) ?_) ?_) ?_) ?_) ?_) ?_) ?_
  · rintro ⟨haddr, -⟩ r
    have hlen := hspeed haddr
    simp (disch := omega) only [hondaPcmSpeed, hondaPcmGas, h.byte_eq]
  · rintro ⟨haddr, -⟩ r
    have hlen := hbrake haddr
    have hvalue : hondaBrake msg' = hondaBrake msg := by
      simp (disch := omega) only [hondaBrake, h.byte_eq]
    dsimp only [hondaTxBrake]
    rw [hvalue]
  · rintro ⟨haddr, -⟩ r
    have hlen := haccel haddr
    simp (disch := omega) only [hondaBoschAccel, hondaBoschGas, h.byte_eq]
  · rintro ⟨haddr, -⟩ r
    have hlen := hradarless haddr
    simp (disch := omega) only [hondaRadarlessAccel, h.byte_eq]
  · intro haddr r
    have hlen := hsteer haddr
    simp (disch := omega) only [hondaSteerApplied, h.byte_eq]
  · intro haddr r
    have hlen := hstatic haddr
    simp (disch := omega) only [h.bytes_eq]
  · rintro ⟨haddr, -⟩ r
    have hlen := hbuttons haddr
    simp (disch := omega) only [h.byte_eq]
  · intro haddr r
    have hlen := huds haddr
    simp (disch := omega) only [h.bytes_eq]

def toyotaTxBranches (addr : Nat) : List (Bool × Nat) :=
  [(addr == 0x343, 4), (addr == 0x283, 6), (addr == 0x191, 6), (addr == 0x2E4, 3),
   (addr == 0x750, 8)]

theorem toyotaTxHook_congr (h : SameFrame msg msg')
    (hlong : Covers (getLen msg) (toyotaTxBranches (getAddr msg))) (c : Context)
    (p : ToyotaParams) (s : Signals) (commands : Commands) :
    toyotaTxHook c p s msg' commands = toyotaTxHook c p s msg commands := by
  simp only [toyotaTxBranches, covers_cons, beq_iff_eq] at hlong
  obtain ⟨haccel, haeb, hlta, hlka, huds, -⟩ := hlong
  dsimp only [toyotaTxHook]
  rw [h.addr_eq, h.bus_eq]
  refine guarded_congr (guarded_congr (guarded_congr (guarded_congr (guarded_congr rfl ?_) ?_) ?_)
    ?_) ?_
  · rintro ⟨-, haddr⟩ r
    have hlen := haccel haddr
    simp (disch := omega) only [toyotaDesiredAccel, h.byte_eq, h.bit_eq]
  · rintro ⟨-, haddr⟩ r
    have hlen := haeb haddr
    simp (disch := omega) only [toyotaAebActuation, h.bytes_eq, h.byte_eq]
  · rintro ⟨-, haddr⟩ r
    have hlen := hlta haddr
    simp (disch := omega) only [toyotaTxLta, toyotaLtaRequest, toyotaLtaRequest2,
      toyotaTorqueWindDown, toyotaLtaAngle, h.byte_eq, h.bit_eq]
  · rintro ⟨-, haddr⟩ r
    have hlen := hlka haddr
    simp (disch := omega) only [toyotaTxLka, toyotaDesiredTorque, toyotaSteerReq, h.byte_eq,
      h.bit_eq]
  · intro haddr r
    have hlen := huds haddr
    simp (disch := omega) only [h.bytes_eq]

def gmTxBranches (addr : Nat) : List (Bool × Nat) :=
  [(addr == 0x315, 2), (addr == 0x180, 2), (addr == 0x2CB, 4), (addr == 0x1E1, 6)]

theorem gmTxHook_congr (h : SameFrame msg msg')
    (hlong : Covers (getLen msg) (gmTxBranches (getAddr msg))) (c : Context) (p : GmParams)
    (s : Signals) (commands : Commands) :
    gmTxHook c p s msg' commands = gmTxHook c p s msg commands := by
  simp only [gmTxBranches, covers_cons, beq_iff_eq] at hlong
  obtain ⟨hbrake, htorque, hgas, hbuttons, -⟩ := hlong
  dsimp only [gmTxHook]
  rw [h.addr_eq]
  refine guarded_congr (guarded_congr (guarded_congr (guarded_congr rfl ?_) ?_) ?_) ?_
  · intro haddr r
    have hlen := hbrake haddr
    simp (disch := omega) only [gmBrake, h.byte_eq]
  · intro haddr r
    have hlen := htorque haddr
    simp (disch := omega) only [gmDesiredTorque, gmSteerReq, h.byte_eq, h.bit_eq]
  · intro haddr r
    have hlen := hgas haddr
    simp (disch := omega) only [gmGasRegen, h.byte_eq, h.bit_eq]
  · rintro ⟨haddr, -⟩ r
    have hlen := hbuttons haddr
    simp (disch := omega) only [h.byte_eq]

def fordTxBranches (addr : Nat) : List (Bool × Nat) :=
  [(addr == fordAccdata, 8), (addr == fordSteeringDataFd1, 4), (addr == fordLaneAssistData1, 1),
   (addr == fordLateralMotionControl, 7), (addr == fordLateralMotionControl2, 8)]

theorem fordTxHook_congr (h : SameFrame msg msg')
    (hlong : Covers (getLen msg) (fordTxBranches (getAddr msg))) (s : Signals)
    (commands : Commands) : fordTxHook s msg' commands = fordTxHook s msg commands := by
  simp only [fordTxBranches, covers_cons, beq_iff_eq] at hlong
  obtain ⟨haccel, hbuttons, hassist, hlateral, hlateral2, -⟩ := hlong
  dsimp only [fordTxHook]
  rw [h.addr_eq]
  refine guarded_congr (guarded_congr (guarded_congr (guarded_congr (guarded_congr rfl ?_) ?_) ?_)
    ?_) ?_
  · intro haddr r
    have hlen := haccel haddr
    simp (disch := omega) only [fordAccel, fordGas, fordGasPred, h.byte_eq, h.bit_eq]
  · intro haddr r
    have hlen := hbuttons haddr
    simp (disch := omega) only [h.bit_eq]
  · intro haddr r
    have hlen := hassist haddr
    simp (disch := omega) only [fordLaneAssistAction, h.byte_eq]
  · intro haddr r
    have hlen := hlateral haddr
    simp (disch := omega) only [fordPathViolation, fordDesiredCurvature, fordSteerControlEnabled,
      h.byte_eq]
  · intro haddr r
    have hlen := hlateral2 haddr
    simp (disch := omega) only [fordPathViolation2, fordDesiredCurvature2,
      fordSteerControlEnabled2, h.byte_eq]

def teslaTxBranches (p : TeslaParams) (addr : Nat) : List (Bool × Nat) :=
  [(addr == 0x488, 3), (addr == 0x45, 1), (addr == teslaDasControlAddr p, 7)]

theorem teslaTxHook_congr (h : SameFrame msg msg') {p : TeslaParams}
    (hlong : Covers (getLen msg) (teslaTxBranches p (getAddr msg))) (s : Signals)
    (commands : Commands) (v : TeslaVars) :
    teslaTxHook p s msg' commands v = teslaTxHook p s msg commands v := by
  simp only [teslaTxBranches, covers_cons, beq_iff_eq] at hlong
  obtain ⟨hsteer, hbuttons, haccel, -⟩ := hlong
  dsimp only [teslaTxHook]
  rw [h.addr_eq]
  refine guarded_congr (guarded_congr (guarded_congr rfl ?_) ?_) ?_
  · rintro ⟨-, haddr⟩ r
    have hlen := hsteer haddr
    simp (disch := omega) only [teslaDesiredAngle, teslaSteerControlEnabled, h.byte_eq]
  · rintro ⟨-, haddr⟩ r
    have hlen := hbuttons haddr
    simp (disch := omega) only [h.byte_eq]
  · intro haddr r
    have hlen := haccel haddr
    simp (disch := omega) only [teslaAebEvent, teslaRawAccelMax, teslaRawAccelMin, h.byte_eq]

def hyundaiTxBranches (addr : Nat) : List (Bool × Nat) :=
  [(addr == 0x38D, 4), (addr == 0x421, 7), (addr == 0x340, 4), (addr == 0x7D0, 8),
   (addr == 0x4F1, 1)]

theorem hyundaiTxHook_congr (h : SameFrame msg msg')
    (hlong : Covers (getLen msg) (hyundaiTxBranches (getAddr msg))) (c : Context)
    (p : HyundaiParams) (s : Signals) (commands : Commands) (v : HyundaiVars) :
    hyundaiTxHook c p s msg' commands v = hyundaiTxHook c p s msg commands v := by
  simp only [hyundaiTxBranches, covers_cons, beq_iff_eq] at hlong
  obtain ⟨haeb, haccel, htorque, huds, hbuttons, -⟩ := hlong
  dsimp only [hyundaiTxHook]
  rw [h.addr_eq]
  refine guarded_congr (guarded_congr (guarded_congr (guarded_congr (guarded_congr rfl ?_) ?_) ?_)
    ?_) ?_
  · intro haddr r
    have hlen := haeb haddr
    simp (disch := omega) only [hyundaiFca11Actuation, h.byte_eq, h.bit_eq]
  · intro haddr r
    have hlen := haccel haddr
    simp (disch := omega) only [hyundaiDesiredAccelRaw, hyundaiDesiredAccelVal,
      hyundaiAebDecelCmd, hyundaiAebReq, h.byte_eq, h.bit_eq]
  · intro haddr r
    have hlen := htorque haddr
    simp (disch := omega) only [hyundaiDesiredTorque, hyundaiSteerReq, h.bytes_eq, h.bit_eq]
  · intro haddr r
    have hlen := huds haddr
    simp (disch := omega) only [h.bytes_eq]
  · rintro ⟨haddr, -⟩ r
    have hlen := hbuttons haddr
    simp (disch := omega) only [h.byte_eq]

def hyundaiCanfdTxBranches (p : HyundaiParams) (q : HyundaiCanfdParams) (addr : Nat) :
    List (Bool × Nat) :=
  [(addr == hyundaiCanfdSteerAddr p q, 7), (addr == 0x1cf, 3), (addr == 0x730, 8),
   (addr == 0x1a0, 19)]

theorem hyundaiCanfdTxHook_congr (h : SameFrame msg msg')
    {pq : HyundaiParams × HyundaiCanfdParams}
    (hlong : Covers (getLen msg) (hyundaiCanfdTxBranches pq.1 pq.2 (getAddr msg))) (c : Context)
    (s : Signals) (commands : Commands) (v : HyundaiVars) :
    hyundaiCanfdTxHook c pq s msg' commands v = hyundaiCanfdTxHook c pq s msg commands v := by
  simp only [hyundaiCanfdTxBranches, covers_cons, beq_iff_eq] at hlong
  obtain ⟨htorque, hbuttons, huds, haccel, -⟩ := hlong
  dsimp only [hyundaiCanfdTxHook]
  rw [h.addr_eq]
  refine guarded_congr (guarded_congr (guarded_congr (guarded_congr rfl ?_) ?_) ?_) ?_
  · intro haddr r
    have hlen := htorque haddr
    simp (disch := omega) only [hyundaiCanfdDesiredTorque, hyundaiCanfdSteerReq, h.byte_eq,
      h.bit_eq]
  · intro haddr r
    have hlen := hbuttons haddr
    simp (disch := omega) only [h.byte_eq]
  · rintro ⟨haddr, -⟩ r
    have hlen := huds haddr
    simp (disch := omega) only [h.bytes_eq]
  · intro haddr r
    have hlen := haccel haddr
    simp (disch := omega) only [hyundaiCanfdDesiredAccelRaw, hyundaiCanfdDesiredAccelVal,
      h.byte_eq]

def chryslerTxBranches (p : ChryslerParams) (addr : Nat) : List (Bool × Nat) :=
  [(addr == p.addrs.lkasCommand, if p.platform = .pacifica then 2 else 4),
   (addr == p.addrs.cruiseButtons, 1)]

/-- The torque command of a platform, in the bytes of its message. -/
theorem chryslerCommand_congr (h : SameFrame msg msg') {p : ChryslerParams}
    (hlen : (if p.platform = .pacifica then 2 else 4) ≤ getLen msg) :
    chryslerDesiredTorque p msg' = chryslerDesiredTorque p msg ∧
      chryslerSteerReq p msg' = chryslerSteerReq p msg := by
  unfold chryslerDesiredTorque chryslerSteerReq
  by_cases hplatform : p.platform = .pacifica
  · rw [if_pos hplatform] at hlen
    simp (disch := omega) only [if_pos hplatform, h.byte_eq, h.bit_eq, and_self]
  · rw [if_neg hplatform] at hlen
    simp (disch := omega) only [if_neg hplatform, h.byte_eq, and_self]

theorem chryslerTxHook_congr (h : SameFrame msg msg') {p : ChryslerParams}
    (hlong : Covers (getLen msg) (chryslerTxBranches p (getAddr msg))) (c : Context) (s : Signals)
    (commands : Commands) :
    chryslerTxHook c p s msg' commands = chryslerTxHook c p s msg commands := by
  simp only [chryslerTxBranches, covers_cons, beq_iff_eq] at hlong
  obtain ⟨htorque, hbuttons, -⟩ := hlong
  dsimp only [chryslerTxHook]
  rw [h.addr_eq]
  refine guarded_congr (guarded_congr rfl ?_) ?_
  · intro haddr r
    obtain ⟨htorque, hreq⟩ := chryslerCommand_congr h (htorque haddr)
    rw [htorque, hreq]
  · intro haddr r
    have hlen := hbuttons haddr
    simp (disch := omega) only [h.byte_eq]

def subaruTxBranches (addr : Nat) : List (Bool × Nat) :=
  [(addr == subaruEsLkas, 4), (addr == subaruEsBrake, 4), (addr == subaruEsDistance, 8),
   (addr == subaruEsStatus, 4), (addr == subaruEsUdsRequest, 8)]

theorem subaruTxHook_congr (h : SameFrame msg msg')
    (hlong : Covers (getLen msg) (subaruTxBranches (getAddr msg))) (c : Context)
    (p : SubaruParams) (s : Signals) (commands : Commands) :
    subaruTxHook c p s msg' commands = subaruTxHook c p s msg commands := by
  simp only [subaruTxBranches, covers_cons, beq_iff_eq] at hlong
  obtain ⟨htorque, hbrake, hdistance, hstatus, huds, -⟩ := hlong
  dsimp only [subaruTxHook]
  rw [h.addr_eq]
  refine guarded_congr (guarded_congr (guarded_congr (guarded_congr (guarded_congr rfl ?_) ?_) ?_)
    ?_) ?_
  · intro haddr r
    have hlen := htorque haddr
    simp (disch := omega) only [subaruDesiredTorque, subaruSteerReq, h.bytes_eq, h.bit_eq]
  · intro haddr r
    have hlen := hbrake haddr
    simp (disch := omega) only [subaruEsBrakePressure, h.bytes_eq]
  · intro haddr r
    have hlen := hdistance haddr
    simp (disch := omega) only [subaruCruiseThrottle, h.bytes_eq, h.bit_eq]
  · intro haddr r
    have hlen := hstatus haddr
    simp (disch := omega) only [subaruTransmissionRpm, h.bytes_eq]
  · intro haddr r
    have hlen := huds haddr
    simp (disch := omega) only [subaruUdsAllowed, h.bytes_eq]

def subaruPreglobalTxBranches (addr : Nat) : List (Bool × Nat) := [(addr == subaruPgEsLkas, 4)]

theorem subaruPreglobalTxHook_congr (h : SameFrame msg msg')
    (hlong : Covers (getLen msg) (subaruPreglobalTxBranches (getAddr msg))) (c : Context)
    (s : Signals) (commands : Commands) :
    subaruPreglobalTxHook c s msg' commands = subaruPreglobalTxHook c s msg commands := by
  simp only [subaruPreglobalTxBranches, covers_cons, beq_iff_eq] at hlong
  dsimp only [subaruPreglobalTxHook]
  rw [h.addr_eq]
  refine guarded_congr rfl fun haddr r => ?_
  have hlen := hlong.1 haddr
  simp (disch := omega) only [subaruPgDesiredTorque, subaruPgSteerReq, h.bytes_eq, h.bit_eq]

def mazdaTxBranches (addr : Nat) : List (Bool × Nat) :=
  [(addr == mazdaLkas, 2), (addr == mazdaCrzBtns, 1)]

theorem mazdaTxHook_congr (h : SameFrame msg msg')
    (hlong : Covers (getLen msg) (mazdaTxBranches (getAddr msg))) (c : Context) (s : Signals)
    (commands : Commands) : mazdaTxHook c s msg' commands = mazdaTxHook c s msg commands := by
  simp only [mazdaTxBranches, covers_cons, beq_iff_eq] at hlong
  obtain ⟨htorque, hbuttons, -⟩ := hlong
  dsimp only [mazdaTxHook]
  rw [h.addr_eq, h.bus_eq]
  refine guarded_congr (guarded_congr rfl ?_) ?_
  · rintro ⟨-, haddr⟩ r
    have hlen := htorque haddr
    simp (disch := omega) only [mazdaDesiredTorque, h.byte_eq]
  · rintro ⟨-, haddr⟩ r
    have hlen := hbuttons haddr
    simp (disch := omega) only [h.byte_eq]

def nissanTxBranches (addr : Nat) : List (Bool × Nat) := [(addr == 0x169, 7), (addr == 0x20b, 2)]

theorem nissanTxHook_congr (h : SameFrame msg msg')
    (hlong : Covers (getLen msg) (nissanTxBranches (getAddr msg))) (s : Signals)
    (commands : Commands) : nissanTxHook s msg' commands = nissanTxHook s msg commands := by
  simp only [nissanTxBranches, covers_cons, beq_iff_eq] at hlong
  obtain ⟨hsteer, hbuttons, -⟩ := hlong
  dsimp only [nissanTxHook]
  rw [h.addr_eq]
  refine guarded_congr (guarded_congr rfl ?_) ?_
  · intro haddr r
    have hlen := hsteer haddr
    simp (disch := omega) only [nissanDesiredAngle, nissanLkaActive, h.byte_eq]
  · intro haddr r
    have hlen := hbuttons haddr
    simp (disch := omega) only [h.byte_eq]

def volkswagenMqbTxBranches (addr : Nat) : List (Bool × Nat) :=
  [(addr == msgHca01, 4), (addr == msgAcc06, 5), (addr == msgAcc07, 8), (addr == msgGraAcc01, 3)]

theorem volkswagenMqbTxHook_congr (h : SameFrame msg msg')
    (hlong : Covers (getLen msg) (volkswagenMqbTxBranches (getAddr msg))) (c : Context)
    (s : Signals) (commands : Commands) (v : VolkswagenVars × VolkswagenMqbVars) :
    volkswagenMqbTxHook c s msg' commands v = volkswagenMqbTxHook c s msg commands v := by
  simp only [volkswagenMqbTxBranches, covers_cons, beq_iff_eq] at hlong
  obtain ⟨htorque, haccel, hsecondary, hbuttons, -⟩ := hlong
  dsimp only [volkswagenMqbTxHook]
  rw [h.addr_eq]
  refine guarded_congr (guarded_congr (guarded_congr (guarded_congr rfl ?_) ?_) ?_) ?_
  · intro haddr r
    have hlen := htorque haddr
    simp (disch := omega) only [volkswagenMqbDesiredTorque, volkswagenMqbSteerReq, h.byte_eq,
      h.bit_eq]
  · intro haddr r
    have hlen := haccel haddr
    simp (disch := omega) only [volkswagenAcc06DesiredAccel, h.byte_eq]
  · intro haddr r
    have hlen := hsecondary haddr
    simp (disch := omega) only [volkswagenAcc07SecondaryAccel, volkswagenAcc07DesiredAccel,
      h.byte_eq]
  · rintro ⟨haddr, -⟩ r
    have hlen := hbuttons haddr
    simp (disch := omega) only [h.byte_eq]

def volkswagenPqTxBranches (addr : Nat) : List (Bool × Nat) :=
  [(addr == msgHca1, 4), (addr == msgAccSystem, 5), (addr == msgGraNeu, 3)]

theorem volkswagenPqTxHook_congr (h : SameFrame msg msg')
    (hlong : Covers (getLen msg) (volkswagenPqTxBranches (getAddr msg))) (c : Context)
    (s : Signals) (commands : Commands) (v : VolkswagenVars) :
    volkswagenPqTxHook c s msg' commands v = volkswagenPqTxHook c s msg commands v := by
  simp only [volkswagenPqTxBranches, covers_cons, beq_iff_eq] at hlong
  obtain ⟨htorque, haccel, hbuttons, -⟩ := hlong
  dsimp only [volkswagenPqTxHook]
  rw [h.addr_eq]
  refine guarded_congr (guarded_congr (guarded_congr rfl ?_) ?_) ?_
  · intro haddr r
    have hlen := htorque haddr
    simp (disch := omega) only [volkswagenPqDesiredTorque, volkswagenPqSteerReq, h.byte_eq]
  · intro haddr r
    have hlen := haccel haddr
    simp (disch := omega) only [volkswagenPqDesiredAccel, h.byte_eq]
  · rintro ⟨haddr, -⟩ r
    have hlen := hbuttons haddr
    simp (disch := omega) only [h.bit_eq]

/-- The two modes that look at the length themselves read eight bytes at most,
and of frames with eight bytes only. -/
theorem elm327TxHook_congr (h : SameFrame msg msg') (commands : Commands) :
    elm327TxHook msg' commands = elm327TxHook msg commands := by
  dsimp only [elm327TxHook]
  rw [h.addr_eq, h.len_eq]
  by_cases hlen : getLen msg = 8
  · rw [h.byte_eq (by omega)]
  · have hshort : (getLen msg == 8) = false := by simpa using hlen
    simp only [hshort, Bool.and_false, Bool.false_and]

theorem bodyTxHook_congr (h : SameFrame msg msg') (s : Signals) (commands : Commands) :
    bodyTxHook s msg' commands = bodyTxHook s msg commands := by
  dsimp only [bodyTxHook]
  rw [h.addr_eq, h.len_eq]
  by_cases hlen : getLen msg = 8
  · rw [h.bytes_eq (by omega), h.bytes_eq (by omega)]
  · have hshort : (getLen msg == 8) = false := by simpa using hlen
    simp only [hshort, Bool.and_false]

/-! ### Whitelisted frames -/

def txBranches (id : HooksId) (m : ModeParams) (addr : Nat) : List (Bool × Nat) :=
  match id with
  | .nooutput | .elm327 | .alloutput | .body => []
  | .hondaNidec | .hondaBosch => hondaTxBranches addr
  | .toyota => toyotaTxBranches addr
  | .gm => gmTxBranches addr
  | .ford => fordTxBranches addr
  | .tesla => teslaTxBranches m.tesla addr
  | .hyundai | .hyundaiLegacy => hyundaiTxBranches addr
  | .hyundaiCanfd => hyundaiCanfdTxBranches m.hyundai m.hyundaiCanfd addr
  | .chrysler => chryslerTxBranches m.chrysler addr
  | .subaru => subaruTxBranches addr
  | .subaruPreglobal => subaruPreglobalTxBranches addr
  | .mazda => mazdaTxBranches addr
  | .nissan => nissanTxBranches addr
  | .volkswagenMqb => volkswagenMqbTxBranches addr
  | .volkswagenPq => volkswagenPqTxBranches addr

theorem embed_tx_congr {mode : Mode} {c : Context} {m : ModeParams} {s : Signals}
    {commands : Commands} {v : ModeVars}
    (h : mode.hooks.tx c (mode.params.get m) s msg' commands (mode.vars.get v) =
      mode.hooks.tx c (mode.params.get m) s msg commands (mode.vars.get v)) :
    mode.embed.tx c m s msg' commands v = mode.embed.tx c m s msg commands v :=
  congrArg (fun r : Sending mode.D => Sending.mk r.tx r.commands (mode.vars.set v r.vars)) h

/-- The transmit hook of a mode makes the same of two frames that agree in the
bytes of its branches. -/
theorem tx_congr {id : HooksId} (h : SameFrame msg msg') {m : ModeParams}
    (hlong : Covers (getLen msg) (txBranches id m (getAddr msg))) (c : Context) (s : Signals)
    (commands : Commands) (v : ModeVars) :
    (hooksOf id).tx c m s msg' commands v = (hooksOf id).tx c m s msg commands v := by
  apply embed_tx_congr
  cases id with
  | nooutput | alloutput => rfl
  | elm327 => exact elm327TxHook_congr h commands
  | body => exact bodyTxHook_congr h s commands
  | hondaNidec | hondaBosch => exact hondaTxHook_congr h hlong m.honda s commands v.honda
  | toyota => exact toyotaTxHook_congr h hlong c m.toyota s commands
  | gm => exact gmTxHook_congr h hlong c m.gm s commands
  | ford => exact fordTxHook_congr h hlong s commands
  | tesla => exact teslaTxHook_congr h hlong s commands v.tesla
  | hyundai | hyundaiLegacy => exact hyundaiTxHook_congr h hlong c m.hyundai s commands v.hyundai
  | hyundaiCanfd =>
      apply hyundaiCanfdTxHook_congr h
      exact hlong
  | chrysler => exact chryslerTxHook_congr h hlong c s commands
  | subaru => exact subaruTxHook_congr h hlong c m.subaru s commands
  | subaruPreglobal => exact subaruPreglobalTxHook_congr h hlong c s commands
  | mazda => exact mazdaTxHook_congr h hlong c s commands
  | nissan => exact nissanTxHook_congr h hlong s commands
  | volkswagenMqb => exact volkswagenMqbTxHook_congr h hlong c s commands _
  | volkswagenPq => exact volkswagenPqTxHook_congr h hlong c s commands v.volkswagen

/-- Every length that the CAN-FD whitelists name is eight at least, and that of
the accelerator message covers all of its fields. -/
theorem hyundaiCanfd_txMsgs_len (p : HyundaiParams) (q : HyundaiCanfdParams) :
    ∀ entry ∈ (hyundaiCanfdConfig p q).txMsgs,
      8 ≤ entry.len ∧ (entry.addr = 0x1a0 → 19 ≤ entry.len) := by
  unfold hyundaiCanfdConfig
  split_ifs <;> decide

/-- The length of a whitelisted message covers the branches of its address. -/
theorem init_txMsgs_covered (id : HooksId) (param : UInt16) (before : ModeParams) (v : ModeVars) :
    ∀ entry ∈ ((hooksOf id).init param before v).cfg.txMsgs,
      Covers entry.len (txBranches id ((hooksOf id).init param before v).params entry.addr) := by
  cases id with
  | nooutput | elm327 | alloutput | body =>
      intro entry _
      exact covers_nil _
  | hondaNidec =>
      change ∀ entry ∈ hondaNTxMsgs, Covers entry.len (hondaTxBranches entry.addr)
      decide
  | hondaBosch =>
      change ∀ entry ∈ (hondaBoschInit param before.honda v.honda).cfg.txMsgs,
        Covers entry.len (hondaTxBranches entry.addr)
      dsimp only [hondaBoschInit]
      split_ifs <;> decide
  | toyota =>
      change ∀ entry ∈ (if (toyotaParams param).stockLongitudinal then toyotaCommonTxMsgs
        else toyotaCommonLongTxMsgs), Covers entry.len (toyotaTxBranches entry.addr)
      split_ifs <;> decide
  | gm =>
      change ∀ entry ∈ (gmInit param).cfg.txMsgs, Covers entry.len (gmTxBranches entry.addr)
      dsimp only [gmInit]
      split
      · decide
      · split_ifs <;> decide
  | ford =>
      change ∀ entry ∈ (fordInit param).cfg.txMsgs, Covers entry.len (fordTxBranches entry.addr)
      dsimp only [fordInit]
      split_ifs <;> decide
  | tesla =>
      change ∀ entry ∈ (teslaInit param).cfg.txMsgs,
        Covers entry.len (teslaTxBranches (teslaParams param) entry.addr)
      dsimp only [teslaInit, teslaTxBranches, teslaDasControlAddr]
      split_ifs <;> decide
  | hyundai =>
      change ∀ entry ∈ (hyundaiInit param).cfg.txMsgs,
        Covers entry.len (hyundaiTxBranches entry.addr)
      dsimp only [hyundaiInit]
      split_ifs <;> decide
  | hyundaiLegacy =>
      change ∀ entry ∈ hyundaiTxMsgs, Covers entry.len (hyundaiTxBranches entry.addr)
      decide
  | hyundaiCanfd =>
      intro entry hentry
      obtain ⟨hlen, haccel⟩ := hyundaiCanfd_txMsgs_len _ _ entry hentry
      simp only [txBranches, hyundaiCanfdTxBranches, covers_cons, beq_iff_eq]
      exact ⟨fun _ => by omega, fun _ => by omega, fun _ => hlen, haccel, covers_nil _⟩
  | chrysler =>
      change ∀ entry ∈ (chryslerInit param).cfg.txMsgs,
        Covers entry.len (chryslerTxBranches (chryslerInit param).params entry.addr)
      unfold chryslerInit
      split_ifs <;> decide
  | subaru =>
      change ∀ entry ∈ (subaruInit param).cfg.txMsgs,
        Covers entry.len (subaruTxBranches entry.addr)
      dsimp only [subaruInit]
      split_ifs <;> decide
  | subaruPreglobal =>
      change ∀ entry ∈ subaruPgTxMsgs, Covers entry.len (subaruPreglobalTxBranches entry.addr)
      decide
  | mazda =>
      change ∀ entry ∈ mazdaTxMsgs, Covers entry.len (mazdaTxBranches entry.addr)
      decide
  | nissan =>
      change ∀ entry ∈ nissanTxMsgs, Covers entry.len (nissanTxBranches entry.addr)
      decide
  | volkswagenMqb =>
      change ∀ entry ∈ (volkswagenMqbInit param).cfg.txMsgs,
        Covers entry.len (volkswagenMqbTxBranches entry.addr)
      dsimp only [volkswagenMqbInit]
      split_ifs <;> decide
  | volkswagenPq =>
      change ∀ entry ∈ (volkswagenPqInit param).cfg.txMsgs,
        Covers entry.len (volkswagenPqTxBranches entry.addr)
      dsimp only [volkswagenPqInit]
      split_ifs <;> decide

theorem whitelisted_covered {id : HooksId} {s : State} (hs : Configured id s)
    (hwhite : msgAllowed msg s.cfg.txMsgs = true) :
    Covers (getLen msg) (txBranches id s.params (getAddr msg)) := by
  obtain ⟨param, before, v, hparams, htx⟩ := hs.init
  rw [htx, msgAllowed, List.any_eq_true] at hwhite
  obtain ⟨entry, hentry, hmatch⟩ := hwhite
  have hcovered := init_txMsgs_covered id param before v entry hentry
  simp only [Bool.and_eq_true, beq_iff_eq] at hmatch
  rw [hparams, hmatch.1.1, hmatch.2]
  exact hcovered

/-! ### What is remembered of a command -/

/-- The two calls of a transmit hook left the same memory. -/
structure SameMemory {D : Type} (r r' : Sending D) : Prop where
  commands : r'.commands = r.commands
  vars : r'.vars = r.vars

section Memory

variable {D : Type} {r r' : Sending D}

theorem SameMemory.refl (r : Sending D) : SameMemory r r := ⟨rfl, rfl⟩

theorem SameMemory.guarded {c : Prop} [Decidable c] {f g : Sending D → Sending D}
    (hr : SameMemory r r') (hf : c → ∀ r r', SameMemory r r' → SameMemory (f r) (g r')) :
    SameMemory (Library.guarded c f r) (Library.guarded c g r') := by
  unfold Library.guarded
  split
  · rename_i hc
    exact hf hc r r' hr
  · exact hr

theorem SameMemory.block (hr : SameMemory r r') (violation violation' : Bool) :
    SameMemory (block violation r) (block violation' r') := ⟨hr.commands, hr.vars⟩

/-- A statement that only blocks. -/
theorem SameMemory.blocks {c : Prop} {violation violation' : Bool} (_ : c) (r r' : Sending D)
    (hr : SameMemory r r') : SameMemory (Safety.block violation r) (Safety.block violation' r') :=
  hr.block violation violation'

/-- Without controls the limiter's memory is reset, whatever the command. -/
theorem SameMemory.steerTorque (hr : SameMemory r r') {s : Signals}
    {torque torque' steerReq steerReq' : Int}
    (h : s.controlsAllowed = true → torque' = torque ∧ steerReq' = steerReq) (ts : UInt32)
    (limits : SteeringLimits) :
    SameMemory (checkTorque (steerTorqueCmdChecks ts s torque steerReq limits) r)
      (checkTorque (steerTorqueCmdChecks ts s torque' steerReq' limits) r') := by
  have hcheck : ∀ t, (steerTorqueCmdChecks ts s torque' steerReq' limits t).2 =
      (steerTorqueCmdChecks ts s torque steerReq limits t).2 := by
    intro t
    cases hcontrols : s.controlsAllowed with
    | false => simp [steerTorqueCmdChecks, hcontrols]
    | true =>
        obtain ⟨rfl, rfl⟩ := h hcontrols
        rfl
  refine ⟨?_, hr.vars⟩
  simp only [checkTorque, hr.commands, hcheck]

/-- The angle is remembered, steering or not. -/
theorem SameMemory.steerAngle (hr : SameMemory r r') {angle angle' : Int} (h : angle' = angle)
    (s : Signals) (enabled enabled' : Bool) (limits : SteeringLimits) :
    SameMemory (checkAngle (steerAngleCmdChecks s angle enabled limits) r)
      (checkAngle (steerAngleCmdChecks s angle' enabled' limits) r') := by
  refine ⟨?_, hr.vars⟩
  simp only [checkAngle, steerAngleCmdChecks, hr.commands, h]

end Memory

/-- The branches of the transmit hooks that remember something of the frame.
Torque is remembered with controls allowed only. -/
def commandBranches (id : HooksId) (m : ModeParams) (s : Signals) (addr bus : Nat) :
    List (Bool × Nat) :=
  match id with
  | .hondaNidec | .hondaBosch => [(addr == 0x1FA && bus == hondaGetPtBus m.honda, 2)]
  | .toyota =>
      [(bus == 0 && addr == 0x191 && m.toyota.lta, 3),
       (s.controlsAllowed && bus == 0 && addr == 0x2E4 && !m.toyota.lta, 3)]
  | .gm => [(s.controlsAllowed && addr == 0x180, 2)]
  | .ford => [(addr == fordLateralMotionControl, 2), (addr == fordLateralMotionControl2, 4)]
  | .tesla => [(!m.tesla.powertrain && addr == 0x488, 2)]
  | .hyundai | .hyundaiLegacy => [(s.controlsAllowed && addr == 0x340, 4)]
  | .hyundaiCanfd =>
      [(s.controlsAllowed && addr == hyundaiCanfdSteerAddr m.hyundai m.hyundaiCanfd, 7)]
  | .chrysler =>
      [(s.controlsAllowed && addr == m.chrysler.addrs.lkasCommand,
        if m.chrysler.platform = .pacifica then 2 else 4)]
  | .subaru => [(s.controlsAllowed && addr == subaruEsLkas, 4)]
  | .subaruPreglobal => [(s.controlsAllowed && addr == subaruPgEsLkas, 4)]
  | .mazda => [(s.controlsAllowed && bus == mazdaMain && addr == mazdaLkas, 2)]
  | .nissan => [(addr == 0x169, 3)]
  | .volkswagenMqb => [(s.controlsAllowed && addr == msgHca01, 4)]
  | .volkswagenPq => [(s.controlsAllowed && addr == msgHca1, 4)]
  | .nooutput | .elm327 | .alloutput | .body => []

theorem embed_sameMemory {mode : Mode} {c : Context} {m : ModeParams} {s : Signals}
    {commands : Commands} {v : ModeVars}
    (h : SameMemory (mode.hooks.tx c (mode.params.get m) s msg commands (mode.vars.get v))
      (mode.hooks.tx c (mode.params.get m) s msg' commands (mode.vars.get v))) :
    SameMemory (mode.embed.tx c m s msg commands v) (mode.embed.tx c m s msg' commands v) :=
  ⟨h.commands, congrArg (mode.vars.set v) h.vars⟩

theorem hondaTxHook_sameMemory (h : SameFrame msg msg') {p : HondaParams}
    (hlong : getAddr msg = 0x1FA ∧ getBus msg = hondaGetPtBus p → 2 ≤ getLen msg) (s : Signals)
    (commands : Commands) (v : HondaVars) :
    SameMemory (hondaTxHook p s msg commands v) (hondaTxHook p s msg' commands v) := by
  dsimp only [hondaTxHook]
  rw [h.addr_eq, h.bus_eq]
  refine ((((((((SameMemory.refl _).guarded .blocks).guarded ?_).guarded .blocks).guarded
    .blocks).guarded .blocks).guarded .blocks).guarded .blocks).guarded .blocks
  intro hbrake r r' hr
  have hlen := hlong hbrake
  have hvalue : hondaBrake msg' = hondaBrake msg := by
    simp (disch := omega) only [hondaBrake, h.byte_eq]
  refine ⟨hr.commands, ?_⟩
  simp only [hondaTxBrake, block_vars, hvalue, hr.vars]

theorem toyotaTxHook_sameMemory (h : SameFrame msg msg') {p : ToyotaParams} {s : Signals}
    (hangle : (getBus msg = 0 ∧ getAddr msg = 0x191) ∧ p.lta = true → 3 ≤ getLen msg)
    (htorque : ((s.controlsAllowed = true ∧ getBus msg = 0) ∧ getAddr msg = 0x2E4) ∧
      p.lta = false → 3 ≤ getLen msg) (c : Context) (commands : Commands) :
    SameMemory (toyotaTxHook c p s msg commands) (toyotaTxHook c p s msg' commands) := by
  dsimp only [toyotaTxHook]
  rw [h.addr_eq, h.bus_eq]
  refine (((((SameMemory.refl _).guarded .blocks).guarded .blocks).guarded ?_).guarded ?_).guarded
    .blocks
  · intro hbranch r r' hr
    dsimp only [toyotaTxLta]
    cases hlta : p.lta with
    | false => exact hr.block _ _
    | true =>
        have hlen := hangle ⟨hbranch, hlta⟩
        have hvalue : toyotaLtaAngle msg' = toyotaLtaAngle msg := by
          simp (disch := omega) only [toyotaLtaAngle, h.byte_eq]
        exact (((((hr.steerAngle hvalue _ _ _ _).block _ _).block _ _).block _ _).block _ _).block
          _ _
  · rintro ⟨hbus, haddr⟩ r r' hr
    dsimp only [toyotaTxLka]
    cases hlta : p.lta with
    | false =>
        apply hr.steerTorque
        intro hon
        have hlen := htorque ⟨⟨⟨hon, hbus⟩, haddr⟩, hlta⟩
        simp (disch := omega) only [toyotaDesiredTorque, toyotaSteerReq, h.byte_eq, h.bit_eq,
          and_self]
    | true => exact hr.block _ _

theorem gmTxHook_sameMemory (h : SameFrame msg msg') {s : Signals}
    (hlong : s.controlsAllowed = true ∧ getAddr msg = 0x180 → 2 ≤ getLen msg) (c : Context)
    (p : GmParams) (commands : Commands) :
    SameMemory (gmTxHook c p s msg commands) (gmTxHook c p s msg' commands) := by
  dsimp only [gmTxHook]
  rw [h.addr_eq]
  refine ((((SameMemory.refl _).guarded .blocks).guarded ?_).guarded .blocks).guarded .blocks
  intro haddr r r' hr
  apply hr.steerTorque
  intro hon
  have hlen := hlong ⟨hon, haddr⟩
  simp (disch := omega) only [gmDesiredTorque, gmSteerReq, h.byte_eq, h.bit_eq, and_self]

theorem fordTxHook_sameMemory (h : SameFrame msg msg')
    (hlateral : getAddr msg = fordLateralMotionControl → 2 ≤ getLen msg)
    (hlateral2 : getAddr msg = fordLateralMotionControl2 → 4 ≤ getLen msg) (s : Signals)
    (commands : Commands) :
    SameMemory (fordTxHook s msg commands) (fordTxHook s msg' commands) := by
  dsimp only [fordTxHook]
  rw [h.addr_eq]
  refine (((((SameMemory.refl _).guarded .blocks).guarded .blocks).guarded .blocks).guarded
    ?_).guarded ?_
  · intro haddr r r' hr
    have hlen := hlateral haddr
    apply (hr.block _ _).steerAngle
    simp (disch := omega) only [fordDesiredCurvature, h.byte_eq]
  · intro haddr r r' hr
    have hlen := hlateral2 haddr
    apply (hr.block _ _).steerAngle
    simp (disch := omega) only [fordDesiredCurvature2, h.byte_eq]

theorem teslaTxHook_sameMemory (h : SameFrame msg msg') {p : TeslaParams}
    (hlong : p.powertrain = false ∧ getAddr msg = 0x488 → 2 ≤ getLen msg) (s : Signals)
    (commands : Commands) (v : TeslaVars) :
    SameMemory (teslaTxHook p s msg commands v) (teslaTxHook p s msg' commands v) := by
  dsimp only [teslaTxHook]
  rw [h.addr_eq]
  refine (((SameMemory.refl _).guarded ?_).guarded .blocks).guarded .blocks
  rintro ⟨hchassis, haddr⟩ r r' hr
  have hlen := hlong ⟨by simpa using hchassis, haddr⟩
  apply hr.steerAngle
  simp (disch := omega) only [teslaDesiredAngle, h.byte_eq]

theorem hyundaiTxHook_sameMemory (h : SameFrame msg msg') {s : Signals}
    (hlong : s.controlsAllowed = true ∧ getAddr msg = 0x340 → 4 ≤ getLen msg) (c : Context)
    (p : HyundaiParams) (commands : Commands) (v : HyundaiVars) :
    SameMemory (hyundaiTxHook c p s msg commands v) (hyundaiTxHook c p s msg' commands v) := by
  dsimp only [hyundaiTxHook]
  rw [h.addr_eq]
  refine (((((SameMemory.refl _).guarded .blocks).guarded .blocks).guarded ?_).guarded
    .blocks).guarded .blocks
  intro haddr r r' hr
  apply hr.steerTorque
  intro hon
  have hlen := hlong ⟨hon, haddr⟩
  simp (disch := omega) only [hyundaiDesiredTorque, hyundaiSteerReq, h.bytes_eq, h.bit_eq,
    and_self]

theorem hyundaiCanfdTxHook_sameMemory (h : SameFrame msg msg')
    {pq : HyundaiParams × HyundaiCanfdParams} {s : Signals}
    (hlong : s.controlsAllowed = true ∧ getAddr msg = hyundaiCanfdSteerAddr pq.1 pq.2 →
      7 ≤ getLen msg) (c : Context) (commands : Commands) (v : HyundaiVars) :
    SameMemory (hyundaiCanfdTxHook c pq s msg commands v)
      (hyundaiCanfdTxHook c pq s msg' commands v) := by
  dsimp only [hyundaiCanfdTxHook]
  rw [h.addr_eq]
  refine ((((SameMemory.refl _).guarded ?_).guarded .blocks).guarded .blocks).guarded .blocks
  intro haddr r r' hr
  apply hr.steerTorque
  intro hon
  have hlen := hlong ⟨hon, haddr⟩
  simp (disch := omega) only [hyundaiCanfdDesiredTorque, hyundaiCanfdSteerReq, h.byte_eq,
    h.bit_eq, and_self]

theorem chryslerTxHook_sameMemory (h : SameFrame msg msg') {p : ChryslerParams} {s : Signals}
    (hlong : s.controlsAllowed = true ∧ getAddr msg = p.addrs.lkasCommand →
      (if p.platform = .pacifica then 2 else 4) ≤ getLen msg) (c : Context)
    (commands : Commands) :
    SameMemory (chryslerTxHook c p s msg commands) (chryslerTxHook c p s msg' commands) := by
  dsimp only [chryslerTxHook]
  rw [h.addr_eq]
  refine ((SameMemory.refl _).guarded ?_).guarded .blocks
  intro haddr r r' hr
  apply hr.steerTorque
  intro hon
  obtain ⟨htorque, hreq⟩ := chryslerCommand_congr h (hlong ⟨hon, haddr⟩)
  exact ⟨htorque, congrArg Bool.toInt hreq⟩

theorem subaruTxHook_sameMemory (h : SameFrame msg msg') {s : Signals}
    (hlong : s.controlsAllowed = true ∧ getAddr msg = subaruEsLkas → 4 ≤ getLen msg) (c : Context)
    (p : SubaruParams) (commands : Commands) :
    SameMemory (subaruTxHook c p s msg commands) (subaruTxHook c p s msg' commands) := by
  dsimp only [subaruTxHook]
  rw [h.addr_eq]
  refine (((((SameMemory.refl _).guarded ?_).guarded .blocks).guarded .blocks).guarded
    .blocks).guarded .blocks
  intro haddr r r' hr
  apply hr.steerTorque
  intro hon
  have hlen := hlong ⟨hon, haddr⟩
  simp (disch := omega) only [subaruDesiredTorque, subaruSteerReq, h.bytes_eq, h.bit_eq, and_self]

theorem subaruPreglobalTxHook_sameMemory (h : SameFrame msg msg') {s : Signals}
    (hlong : s.controlsAllowed = true ∧ getAddr msg = subaruPgEsLkas → 4 ≤ getLen msg)
    (c : Context) (commands : Commands) :
    SameMemory (subaruPreglobalTxHook c s msg commands)
      (subaruPreglobalTxHook c s msg' commands) := by
  dsimp only [subaruPreglobalTxHook]
  rw [h.addr_eq]
  refine (SameMemory.refl _).guarded ?_
  intro haddr r r' hr
  apply hr.steerTorque
  intro hon
  have hlen := hlong ⟨hon, haddr⟩
  simp (disch := omega) only [subaruPgDesiredTorque, subaruPgSteerReq, h.bytes_eq, h.bit_eq,
    and_self]

theorem mazdaTxHook_sameMemory (h : SameFrame msg msg') {s : Signals}
    (hlong : (s.controlsAllowed = true ∧ getBus msg = mazdaMain) ∧ getAddr msg = mazdaLkas →
      2 ≤ getLen msg) (c : Context) (commands : Commands) :
    SameMemory (mazdaTxHook c s msg commands) (mazdaTxHook c s msg' commands) := by
  dsimp only [mazdaTxHook]
  rw [h.addr_eq, h.bus_eq]
  refine ((SameMemory.refl _).guarded ?_).guarded .blocks
  rintro ⟨hbus, haddr⟩ r r' hr
  apply hr.steerTorque
  intro hon
  have hlen := hlong ⟨⟨hon, hbus⟩, haddr⟩
  simp (disch := omega) only [mazdaDesiredTorque, h.byte_eq, and_self]

theorem nissanTxHook_sameMemory (h : SameFrame msg msg')
    (hlong : getAddr msg = 0x169 → 3 ≤ getLen msg) (s : Signals) (commands : Commands) :
    SameMemory (nissanTxHook s msg commands) (nissanTxHook s msg' commands) := by
  dsimp only [nissanTxHook]
  rw [h.addr_eq]
  refine ((SameMemory.refl _).guarded ?_).guarded .blocks
  intro haddr r r' hr
  have hlen := hlong haddr
  apply hr.steerAngle
  simp (disch := omega) only [nissanDesiredAngle, h.byte_eq]

theorem volkswagenMqbTxHook_sameMemory (h : SameFrame msg msg') {s : Signals}
    (hlong : s.controlsAllowed = true ∧ getAddr msg = msgHca01 → 4 ≤ getLen msg) (c : Context)
    (commands : Commands) (v : VolkswagenVars × VolkswagenMqbVars) :
    SameMemory (volkswagenMqbTxHook c s msg commands v)
      (volkswagenMqbTxHook c s msg' commands v) := by
  dsimp only [volkswagenMqbTxHook]
  rw [h.addr_eq]
  refine ((((SameMemory.refl _).guarded ?_).guarded .blocks).guarded .blocks).guarded .blocks
  intro haddr r r' hr
  apply hr.steerTorque
  intro hon
  have hlen := hlong ⟨hon, haddr⟩
  simp (disch := omega) only [volkswagenMqbDesiredTorque, volkswagenMqbSteerReq, h.byte_eq,
    h.bit_eq, and_self]

theorem volkswagenPqTxHook_sameMemory (h : SameFrame msg msg') {s : Signals}
    (hlong : s.controlsAllowed = true ∧ getAddr msg = msgHca1 → 4 ≤ getLen msg) (c : Context)
    (commands : Commands) (v : VolkswagenVars) :
    SameMemory (volkswagenPqTxHook c s msg commands v)
      (volkswagenPqTxHook c s msg' commands v) := by
  dsimp only [volkswagenPqTxHook]
  rw [h.addr_eq]
  refine (((SameMemory.refl _).guarded ?_).guarded .blocks).guarded .blocks
  intro haddr r r' hr
  apply hr.steerTorque
  intro hon
  have hlen := hlong ⟨hon, haddr⟩
  simp (disch := omega) only [volkswagenPqDesiredTorque, volkswagenPqSteerReq, h.byte_eq,
    and_self]

/-- The transmit hook of a mode remembers the same of two frames that agree in
the bytes of the command. -/
theorem tx_sameMemory {id : HooksId} (h : SameFrame msg msg') {m : ModeParams} {s : Signals}
    (hlong : Covers (getLen msg) (commandBranches id m s (getAddr msg) (getBus msg)))
    (c : Context) (commands : Commands) (v : ModeVars) :
    SameMemory ((hooksOf id).tx c m s msg commands v) ((hooksOf id).tx c m s msg' commands v) := by
  apply embed_sameMemory
  cases id <;>
    simp only [commandBranches, covers_cons, Bool.and_eq_true, Bool.not_eq_true', beq_iff_eq]
      at hlong
  case nooutput | elm327 | alloutput | body => exact ⟨rfl, rfl⟩
  case hondaNidec | hondaBosch => exact hondaTxHook_sameMemory h hlong.1 s commands v.honda
  case toyota => exact toyotaTxHook_sameMemory h hlong.1 hlong.2.1 c commands
  case gm => exact gmTxHook_sameMemory h hlong.1 c m.gm commands
  case ford => exact fordTxHook_sameMemory h hlong.1 hlong.2.1 s commands
  case tesla => exact teslaTxHook_sameMemory h hlong.1 s commands v.tesla
  case hyundai | hyundaiLegacy =>
      exact hyundaiTxHook_sameMemory h hlong.1 c m.hyundai commands v.hyundai
  case hyundaiCanfd =>
      apply hyundaiCanfdTxHook_sameMemory h
      exact hlong.1
  case chrysler => exact chryslerTxHook_sameMemory h hlong.1 c commands
  case subaru => exact subaruTxHook_sameMemory h hlong.1 c m.subaru commands
  case subaruPreglobal => exact subaruPreglobalTxHook_sameMemory h hlong.1 c commands
  case mazda => exact mazdaTxHook_sameMemory h hlong.1 c commands
  case nissan => exact nissanTxHook_sameMemory h hlong.1 s commands
  case volkswagenMqb => exact volkswagenMqbTxHook_sameMemory h hlong.1 c commands _
  case volkswagenPq => exact volkswagenPqTxHook_sameMemory h hlong.1 c commands v.volkswagen

end Panda.Safety
