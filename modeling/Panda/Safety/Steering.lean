import Panda.Safety.Whitelist

/-!
The steering commands of the modes. A torque mode hands its command frames to
`steer_torque_cmd_checks`, an angle mode to `steer_angle_cmd_checks`. What the
transmit hook of a mode does to the limiter's memory, and what its acceptance
says of the command, is stated once here for all modes.
-/

namespace Panda.Safety

open Library

/-- Controls at standstill, with all signals at zero. -/
def centred : Signals where
  controlsAllowed := true
  vehicleSpeed := zeroSample
  torqueMeas := zeroSample
  torqueDriver := zeroSample
  angleMeas := zeroSample

/-! ### Torque -/

/-- The torque command of a mode, as its transmit hook decodes it. The hook
checks it on one bus only if `bus` is given. -/
structure TorqueCommand where
  addr : Nat
  bus : Option Nat := none
  enabled : Bool := true
  torque : CANPacket → Int
  steerReq : CANPacket → Int
  limits : SteeringLimits

/-- The hook passes the frame to `steer_torque_cmd_checks`. -/
def TorqueCommand.checks (cmd : TorqueCommand) (toSend : CANPacket) : Bool :=
  cmd.enabled && cmd.bus.all (getBus toSend == ·) && getAddr toSend == cmd.addr

/-- The check that the hook makes of the frame. -/
def TorqueCommand.verdict (cmd : TorqueCommand) (ts : UInt32) (s : Signals) (toSend : CANPacket)
    (t : TorqueState) : Bool × TorqueState :=
  steerTorqueCmdChecks ts s (cmd.torque toSend) (cmd.steerReq toSend) cmd.limits t

/-- The torque command of each mode whose hook calls
`steer_torque_cmd_checks`. Toyota steers by angle with its LTA flag. -/
def torqueCommand (id : HooksId) (m : ModeParams) : Option TorqueCommand :=
  match id with
  | .toyota => some
      { addr := 0x2E4, bus := some 0, enabled := !m.toyota.lta, torque := toyotaDesiredTorque
        steerReq := fun toSend => (toyotaSteerReq toSend).toInt, limits := toyotaSteeringLimits }
  | .gm => some
      { addr := 0x180, torque := gmDesiredTorque
        steerReq := fun toSend => (gmSteerReq toSend).toInt, limits := gmSteeringLimits }
  | .hyundai | .hyundaiLegacy => some
      { addr := 0x340, torque := hyundaiDesiredTorque
        steerReq := fun toSend => (hyundaiSteerReq toSend).toInt
        limits := hyundaiSteeringLimits m.hyundai }
  | .hyundaiCanfd => some
      { addr := hyundaiCanfdSteerAddr m.hyundai m.hyundaiCanfd
        torque := hyundaiCanfdDesiredTorque
        steerReq := fun toSend => (hyundaiCanfdSteerReq toSend).toInt
        limits := hyundaiCanfdSteeringLimits }
  | .chrysler => some
      { addr := m.chrysler.addrs.lkasCommand, torque := chryslerDesiredTorque m.chrysler
        steerReq := fun toSend => (chryslerSteerReq m.chrysler toSend).toInt
        limits := chryslerSteeringLimits m.chrysler.platform }
  | .subaru => some
      { addr := subaruEsLkas, torque := subaruDesiredTorque
        steerReq := fun toSend => (subaruSteerReq toSend).toInt
        limits := subaruSteeringLimits m.subaru }
  | .subaruPreglobal => some
      { addr := subaruPgEsLkas, torque := subaruPgDesiredTorque
        steerReq := fun toSend => (subaruPgSteerReq toSend).toInt
        limits := subaruPgSteeringLimits }
  | .mazda => some
      { addr := mazdaLkas, bus := some mazdaMain, torque := mazdaDesiredTorque
        steerReq := fun _ => -1, limits := mazdaSteeringLimits }
  | .volkswagenMqb => some
      { addr := msgHca01, torque := volkswagenMqbDesiredTorque
        steerReq := fun toSend => (volkswagenMqbSteerReq toSend).toInt
        limits := volkswagenMqbSteeringLimits }
  | .volkswagenPq => some
      { addr := msgHca1, torque := volkswagenPqDesiredTorque
        steerReq := fun toSend => (volkswagenPqSteerReq toSend).toInt
        limits := volkswagenPqSteeringLimits }
  | _ => none

/-- No limit of the torque checks is negative; the driver's allowance may be. -/
structure SteeringLimits.ProperTorque (limits : SteeringLimits) : Prop where
  max : 0 ≤ limits.maxSteer
  rateUp : 0 ≤ limits.maxRateUp
  rateDown : 0 ≤ limits.maxRateDown
  rtDelta : 0 ≤ limits.maxRtDelta
  driverFactor : 0 ≤ limits.driverTorqueFactor
  error : 0 ≤ limits.maxTorqueError

theorem torqueCommand_proper {id : HooksId} {m : ModeParams} {cmd : TorqueCommand}
    (hcmd : torqueCommand id m = some cmd) : cmd.limits.ProperTorque := by
  cases id with
  | hyundai | hyundaiLegacy =>
      cases hcmd
      change (hyundaiSteeringLimits m.hyundai).ProperTorque
      unfold hyundaiSteeringLimits
      split <;> constructor <;> decide
  | chrysler =>
      cases hcmd
      change (chryslerSteeringLimits m.chrysler.platform).ProperTorque
      cases m.chrysler.platform <;> constructor <;> decide
  | subaru =>
      cases hcmd
      change (subaruSteeringLimits m.subaru).ProperTorque
      unfold subaruSteeringLimits
      split <;> constructor <;> decide
  | toyota | gm | hyundaiCanfd | subaruPreglobal | mazda | volkswagenMqb | volkswagenPq =>
      cases hcmd
      constructor <;>
        simp [toyotaSteeringLimits, gmSteeringLimits, hyundaiCanfdSteeringLimits,
          subaruPgSteeringLimits, mazdaSteeringLimits, volkswagenMqbSteeringLimits,
          volkswagenPqSteeringLimits]
  | _ => cases hcmd

/-- The transmit hook of a torque mode updates the limiter's memory by the
check of a command frame, and leaves it alone otherwise. -/
theorem tx_torque {id : HooksId} {m : ModeParams} {cmd : TorqueCommand}
    (hcmd : torqueCommand id m = some cmd) (c : Context) (s : Signals) (toSend : CANPacket)
    (commands : Commands) (v : ModeVars) :
    ((hooksOf id).tx c m s toSend commands v).commands.torque =
      if cmd.checks toSend then (cmd.verdict c.ts s toSend commands.torque).2
      else commands.torque := by
  cases id with
  | toyota =>
      cases hcmd
      change (toyotaTxHook c m.toyota s toSend commands).commands.torque = _
      by_cases hlta : m.toyota.lta = true
      · simp [toyotaTxHook, toyotaTxLka, toyotaTxLta, TorqueCommand.checks, hlta]
      · simp [toyotaTxHook, toyotaTxLka, toyotaTxLta, TorqueCommand.checks,
          TorqueCommand.verdict, hlta]
  | gm =>
      cases hcmd
      change (gmTxHook c m.gm s toSend commands).commands.torque = _
      simp [gmTxHook, TorqueCommand.checks, TorqueCommand.verdict]
  | hyundai | hyundaiLegacy =>
      cases hcmd
      change (hyundaiTxHook c m.hyundai s toSend commands v.hyundai).commands.torque = _
      simp [hyundaiTxHook, TorqueCommand.checks, TorqueCommand.verdict]
  | hyundaiCanfd =>
      cases hcmd
      change (hyundaiCanfdTxHook c (m.hyundai, m.hyundaiCanfd) s toSend commands
        v.hyundai).commands.torque = _
      simp [hyundaiCanfdTxHook, TorqueCommand.checks, TorqueCommand.verdict]
  | chrysler =>
      cases hcmd
      change (chryslerTxHook c m.chrysler s toSend commands).commands.torque = _
      simp [chryslerTxHook, TorqueCommand.checks, TorqueCommand.verdict]
  | subaru =>
      cases hcmd
      change (subaruTxHook c m.subaru s toSend commands).commands.torque = _
      simp [subaruTxHook, TorqueCommand.checks, TorqueCommand.verdict]
  | subaruPreglobal =>
      cases hcmd
      change (subaruPreglobalTxHook c s toSend commands).commands.torque = _
      simp [subaruPreglobalTxHook, TorqueCommand.checks, TorqueCommand.verdict]
  | mazda =>
      cases hcmd
      change (mazdaTxHook c s toSend commands).commands.torque = _
      simp [mazdaTxHook, TorqueCommand.checks, TorqueCommand.verdict]
  | volkswagenMqb =>
      cases hcmd
      change (volkswagenMqbTxHook c s toSend commands _).commands.torque = _
      simp [volkswagenMqbTxHook, TorqueCommand.checks, TorqueCommand.verdict]
  | volkswagenPq =>
      cases hcmd
      change (volkswagenPqTxHook c s toSend commands _).commands.torque = _
      simp [volkswagenPqTxHook, TorqueCommand.checks, TorqueCommand.verdict]
  | _ => cases hcmd

/-- The hook of a torque mode passes a command frame exactly when it passes
the check; no other statement of the hook is about that address. -/
theorem tx_eq_verdict {id : HooksId} {m : ModeParams} {cmd : TorqueCommand}
    (hcmd : torqueCommand id m = some cmd)
    (haddrs : id = .chrysler → m.chrysler.addrs.lkasCommand ≠ m.chrysler.addrs.cruiseButtons)
    {toSend : CANPacket} (hchecks : cmd.checks toSend = true) (c : Context) (s : Signals)
    (commands : Commands) (v : ModeVars) :
    ((hooksOf id).tx c m s toSend commands v).tx =
      !(cmd.verdict c.ts s toSend commands.torque).1 := by
  cases id with
  | toyota =>
      cases hcmd
      change (toyotaTxHook c m.toyota s toSend commands).tx = _
      simp only [TorqueCommand.checks, Bool.and_eq_true, beq_iff_eq, Option.all_some,
        Bool.not_eq_true'] at hchecks
      obtain ⟨⟨hlta, hbus⟩, haddr⟩ := hchecks
      simp [TorqueCommand.verdict, toyotaTxHook, toyotaTxLka, hlta, haddr, hbus]
  | gm =>
      cases hcmd
      change (gmTxHook c m.gm s toSend commands).tx = _
      have haddr : getAddr toSend = 0x180 := by simpa [TorqueCommand.checks] using hchecks
      simp [TorqueCommand.verdict, gmTxHook, haddr]
  | hyundai | hyundaiLegacy =>
      cases hcmd
      change (hyundaiTxHook c m.hyundai s toSend commands v.hyundai).tx = _
      have haddr : getAddr toSend = 0x340 := by simpa [TorqueCommand.checks] using hchecks
      simp [TorqueCommand.verdict, hyundaiTxHook, haddr]
  | hyundaiCanfd =>
      cases hcmd
      change (hyundaiCanfdTxHook c (m.hyundai, m.hyundaiCanfd) s toSend commands
        v.hyundai).tx = _
      have haddr : getAddr toSend = hyundaiCanfdSteerAddr m.hyundai m.hyundaiCanfd := by
        simpa [TorqueCommand.checks] using hchecks
      have hothers : getAddr toSend ≠ 0x1cf ∧ getAddr toSend ≠ 0x730 ∧ getAddr toSend ≠ 0x1a0 := by
        rw [haddr]
        unfold hyundaiCanfdSteerAddr hyundaiCanfdHda2GetLkasAddr
        split_ifs <;> decide
      obtain ⟨hbuttons, huds, haccel⟩ := hothers
      rw [haddr] at hbuttons huds haccel
      simp [TorqueCommand.verdict, hyundaiCanfdTxHook, haddr, hbuttons, huds, haccel]
  | chrysler =>
      cases hcmd
      change (chryslerTxHook c m.chrysler s toSend commands).tx = _
      have haddr : getAddr toSend = m.chrysler.addrs.lkasCommand := by
        simpa [TorqueCommand.checks] using hchecks
      have hbuttons := haddrs rfl
      simp [TorqueCommand.verdict, chryslerTxHook, haddr, hbuttons]
  | subaru =>
      cases hcmd
      change (subaruTxHook c m.subaru s toSend commands).tx = _
      have haddr : getAddr toSend = subaruEsLkas := by simpa [TorqueCommand.checks] using hchecks
      simp [TorqueCommand.verdict, subaruTxHook, haddr, subaruEsLkas, subaruEsBrake,
        subaruEsDistance, subaruEsStatus, subaruEsUdsRequest]
  | subaruPreglobal =>
      cases hcmd
      change (subaruPreglobalTxHook c s toSend commands).tx = _
      have haddr : getAddr toSend = subaruPgEsLkas := by
        simpa [TorqueCommand.checks] using hchecks
      simp [TorqueCommand.verdict, subaruPreglobalTxHook, haddr]
  | mazda =>
      cases hcmd
      change (mazdaTxHook c s toSend commands).tx = _
      simp only [TorqueCommand.checks, Bool.true_and, Bool.and_eq_true, beq_iff_eq,
        Option.all_some] at hchecks
      obtain ⟨hbus, haddr⟩ := hchecks
      simp [TorqueCommand.verdict, mazdaTxHook, hbus, haddr, mazdaLkas, mazdaCrzBtns]
  | volkswagenMqb =>
      cases hcmd
      change (volkswagenMqbTxHook c s toSend commands (v.volkswagen, v.volkswagenMqb)).tx = _
      have haddr : getAddr toSend = msgHca01 := by simpa [TorqueCommand.checks] using hchecks
      simp [TorqueCommand.verdict, volkswagenMqbTxHook, haddr, msgHca01, msgAcc06, msgAcc07,
        msgGraAcc01]
  | volkswagenPq =>
      cases hcmd
      change (volkswagenPqTxHook c s toSend commands v.volkswagen).tx = _
      have haddr : getAddr toSend = msgHca1 := by simpa [TorqueCommand.checks] using hchecks
      simp [TorqueCommand.verdict, volkswagenPqTxHook, haddr, msgHca1, msgAccSystem, msgGraNeu]
  | _ => cases hcmd

/-- The addresses of a Chrysler platform are those of its `init`. -/
theorem chrysler_addrs_ne {s : State} (hs : Configured .chrysler s) :
    s.params.chrysler.addrs.lkasCommand ≠ s.params.chrysler.addrs.cruiseButtons := by
  obtain ⟨param, m, v, hparams, -⟩ := hs.init
  have haddrs : s.params.chrysler = (chryslerInit param).params := by rw [hparams]; rfl
  rw [haddrs, chryslerInit]
  split_ifs <;> decide

/-- In a session of a torque mode, the hook passes a command frame exactly when
it passes the check. -/
theorem sending_tx {id : HooksId} {s : State} (hs : Configured id s) {cmd : TorqueCommand}
    (hcmd : torqueCommand id s.params = some cmd) {toSend : CANPacket}
    (hchecks : cmd.checks toSend = true) (ts : UInt32) :
    (s.sending ts toSend).tx = !(cmd.verdict ts s.signals toSend s.commands.torque).1 := by
  have haddrs : id = .chrysler →
      s.params.chrysler.addrs.lkasCommand ≠ s.params.chrysler.addrs.cruiseButtons := by
    rintro rfl
    exact chrysler_addrs_ne hs
  have htx := tx_eq_verdict hcmd haddrs hchecks (s.context ts) s.signals s.commands s.vars
  rw [State.sending, State.hooks, hs.currentHooks]
  exact htx

theorem sending_torque {id : HooksId} {s : State} (hs : Configured id s) {cmd : TorqueCommand}
    (hcmd : torqueCommand id s.params = some cmd) (ts : UInt32) (toSend : CANPacket) :
    (s.sending ts toSend).commands.torque =
      if cmd.checks toSend then (cmd.verdict ts s.signals toSend s.commands.torque).2
      else s.commands.torque := by
  have htorque := tx_torque hcmd (s.context ts) s.signals toSend s.commands s.vars
  rw [State.sending, State.hooks, hs.currentHooks]
  exact htorque

/-- A frame with the command's address is on the whitelist only for the bus on
which the hook checks it. -/
theorem whitelisted_bus {id : HooksId} {s : State} (hs : Configured id s)
    {cmd : TorqueCommand} (hcmd : torqueCommand id s.params = some cmd) {toSend : CANPacket}
    (hwhite : msgAllowed toSend s.cfg.txMsgs = true) (haddr : getAddr toSend = cmd.addr) :
    cmd.bus.all (getBus toSend == ·) = true := by
  obtain ⟨param, m, v, -, htx⟩ := hs.init
  rw [htx] at hwhite
  cases id with
  | toyota =>
      cases hcmd
      have hbus : getBus toSend = 0 :=
        toyota_whitelisted_bus hwhite (by rw [haddr]; simp)
      simp [hbus]
  | mazda =>
      cases hcmd
      have hwhite : msgAllowed toSend mazdaTxMsgs = true := hwhite
      simp [msgAllowed, mazdaTxMsgs, haddr, mazdaLkas, mazdaCrzBtns, mazdaLkasHud] at hwhite
      simp [mazdaMain, hwhite.1]
  | gm | hyundai | hyundaiLegacy | hyundaiCanfd | chrysler | subaru | subaruPreglobal
  | volkswagenMqb | volkswagenPq =>
      cases hcmd
      rfl
  | _ => cases hcmd

/-- Without a check, the hook lets a zero command pass only. -/
theorem tx_disabled {id : HooksId} {m : ModeParams} {cmd : TorqueCommand}
    (hcmd : torqueCommand id m = some cmd) {c : Context} {s : Signals} {toSend : CANPacket}
    {commands : Commands} {v : ModeVars} (hdisabled : cmd.enabled = false)
    (hbus : cmd.bus.all (getBus toSend == ·) = true) (haddr : getAddr toSend = cmd.addr)
    (htx : ((hooksOf id).tx c m s toSend commands v).tx = true) : cmd.torque toSend = 0 := by
  cases id with
  | toyota =>
      cases hcmd
      have htx : (toyotaTxHook c m.toyota s toSend commands).tx = true := htx
      have hlta : m.toyota.lta = true := by simpa using hdisabled
      have hbus : getBus toSend = 0 := by simpa using hbus
      simp [toyotaTxHook, toyotaTxLka, haddr, hbus, hlta] at htx
      exact htx.1
  | gm | hyundai | hyundaiLegacy | hyundaiCanfd | chrysler | subaru | subaruPreglobal | mazda
  | volkswagenMqb | volkswagenPq =>
      cases hcmd
      cases hdisabled
  | _ => cases hcmd

/-- What acceptance says of a torque command: it passed the check, or the mode
does not steer by torque and the command is zero. -/
theorem accepted_torque {id : HooksId} {s : State} (hs : Configured id s)
    {cmd : TorqueCommand} (hcmd : torqueCommand id s.params = some cmd) {ts : UInt32}
    {toSend : CANPacket} (haccepted : s.txAccepted ts toSend = true)
    (haddr : getAddr toSend = cmd.addr) :
    (cmd.checks toSend = true ∧
        (cmd.verdict ts s.signals toSend s.commands.torque).1 = false) ∨
      (cmd.enabled = false ∧ cmd.torque toSend = 0) := by
  have hnotAll : id ≠ .alloutput := by rintro rfl; cases hcmd
  have hnotElm : id ≠ .elm327 := by rintro rfl; cases hcmd
  obtain ⟨-, hwhite, htx⟩ := hs.accepted hnotAll hnotElm haccepted
  have hbus := whitelisted_bus hs hcmd hwhite haddr
  by_cases henabled : cmd.enabled = true
  · left
    have hchecks : cmd.checks toSend = true := by
      simp [TorqueCommand.checks, henabled, hbus, haddr]
    have hpass := sending_tx hs hcmd hchecks ts
    rw [State.sending, State.hooks, hs.currentHooks, htx] at hpass
    exact ⟨hchecks, by simpa using hpass.symm⟩
  · right
    have hdisabled : cmd.enabled = false := by simpa using henabled
    exact ⟨hdisabled, tx_disabled hcmd hdisabled hbus haddr htx⟩

/-! ### Angle -/

/-- The angle command of a mode: the frames that its transmit hook passes to
`steer_angle_cmd_checks`, decoded to the angle and the steering request. -/
structure AngleCommand where
  decode : CANPacket → Option (Int × Bool)
  limits : SteeringLimits

def toyotaAngleDecode (p : ToyotaParams) (toSend : CANPacket) : Option (Int × Bool) :=
  if p.lta ∧ getBus toSend = 0 ∧ getAddr toSend = 0x191 then
    some (toyotaLtaAngle toSend, toyotaLtaRequest toSend || toyotaLtaRequest2 toSend)
  else none

def teslaAngleDecode (p : TeslaParams) (toSend : CANPacket) : Option (Int × Bool) :=
  if ¬ p.powertrain ∧ getAddr toSend = 0x488 then
    some (teslaDesiredAngle toSend, teslaSteerControlEnabled toSend)
  else none

def nissanAngleDecode (toSend : CANPacket) : Option (Int × Bool) :=
  if getAddr toSend = 0x169 then some (nissanDesiredAngle toSend, nissanLkaActive toSend)
  else none

/-- Ford commands curvature, by one of two messages. -/
def fordAngleDecode (toSend : CANPacket) : Option (Int × Bool) :=
  if getAddr toSend = fordLateralMotionControl then
    some (fordDesiredCurvature toSend, fordSteerControlEnabled toSend)
  else if getAddr toSend = fordLateralMotionControl2 then
    some (fordDesiredCurvature2 toSend, fordSteerControlEnabled2 toSend)
  else none

def angleCommand (id : HooksId) (m : ModeParams) : Option AngleCommand :=
  match id with
  | .toyota => some ⟨toyotaAngleDecode m.toyota, toyotaSteeringLimits⟩
  | .tesla => some ⟨teslaAngleDecode m.tesla, teslaSteeringLimits⟩
  | .nissan => some ⟨nissanAngleDecode, nissanSteeringLimits⟩
  | .ford => some ⟨fordAngleDecode, fordSteeringLimits⟩
  | _ => none

/-- The transmit hook of an angle mode remembers the angle of every command
frame, and nothing else. -/
theorem tx_desiredAngleLast {id : HooksId} {m : ModeParams} {cmd : AngleCommand}
    (hcmd : angleCommand id m = some cmd) (c : Context) (s : Signals) (toSend : CANPacket)
    (commands : Commands) (v : ModeVars) :
    ((hooksOf id).tx c m s toSend commands v).commands.desiredAngleLast =
      match cmd.decode toSend with
      | some (angle, _) => angle
      | none => commands.desiredAngleLast := by
  cases id with
  | toyota =>
      cases hcmd
      change (toyotaTxHook c m.toyota s toSend commands).commands.desiredAngleLast = _
      by_cases hlta : m.toyota.lta = true
      · simp [toyotaTxHook, toyotaTxLka, toyotaTxLta, toyotaAngleDecode, hlta,
          steerAngleCmdChecks]
        split <;> rfl
      · simp [toyotaTxHook, toyotaTxLka, toyotaTxLta, toyotaAngleDecode, hlta]
  | tesla =>
      cases hcmd
      change (teslaTxHook m.tesla s toSend commands v.tesla).commands.desiredAngleLast = _
      simp [teslaTxHook, teslaAngleDecode, steerAngleCmdChecks]
      split <;> rfl
  | nissan =>
      cases hcmd
      change (nissanTxHook s toSend commands).commands.desiredAngleLast = _
      simp [nissanTxHook, nissanAngleDecode, steerAngleCmdChecks]
      split <;> rfl
  | ford =>
      cases hcmd
      change (fordTxHook s toSend commands).commands.desiredAngleLast = _
      by_cases hmain : getAddr toSend = fordLateralMotionControl
      · simp [fordTxHook, fordAngleDecode, steerAngleCmdChecks, hmain, fordLateralMotionControl,
          fordLateralMotionControl2]
      · by_cases hcanfd : getAddr toSend = fordLateralMotionControl2
        · simp [fordTxHook, fordAngleDecode, steerAngleCmdChecks, hcanfd,
            fordLateralMotionControl, fordLateralMotionControl2]
        · simp [fordTxHook, fordAngleDecode, hmain, hcanfd]
  | _ => cases hcmd

/-- An accepted command frame passed the check. -/
theorem tx_angle_verdict {id : HooksId} {m : ModeParams} {cmd : AngleCommand}
    (hcmd : angleCommand id m = some cmd) {c : Context} {s : Signals} {toSend : CANPacket}
    {commands : Commands} {v : ModeVars} {angle : Int} {enabled : Bool}
    (hdecode : cmd.decode toSend = some (angle, enabled))
    (htx : ((hooksOf id).tx c m s toSend commands v).tx = true) :
    (steerAngleCmdChecks s angle enabled cmd.limits commands.desiredAngleLast).1 = false := by
  cases id with
  | toyota =>
      cases hcmd
      have htx : (toyotaTxHook c m.toyota s toSend commands).tx = true := htx
      simp only [toyotaAngleDecode, Option.ite_none_right_eq_some] at hdecode
      obtain ⟨⟨hlta, hbus, haddr⟩, hvalue⟩ := hdecode
      cases hvalue
      simp [toyotaTxHook, toyotaTxLta, hlta, hbus, haddr] at htx
      exact htx.1.1.1.1.1
  | tesla =>
      cases hcmd
      have htx : (teslaTxHook m.tesla s toSend commands v.tesla).tx = true := htx
      simp only [teslaAngleDecode, Option.ite_none_right_eq_some] at hdecode
      obtain ⟨⟨hpowertrain, haddr⟩, hvalue⟩ := hdecode
      cases hvalue
      simpa [teslaTxHook, teslaDasControlAddr, hpowertrain, haddr] using htx
  | nissan =>
      cases hcmd
      have htx : (nissanTxHook s toSend commands).tx = true := htx
      simp only [nissanAngleDecode, Option.ite_none_right_eq_some] at hdecode
      obtain ⟨haddr, hvalue⟩ := hdecode
      cases hvalue
      simpa [nissanTxHook, haddr] using htx
  | ford =>
      cases hcmd
      have htx : (fordTxHook s toSend commands).tx = true := htx
      simp only [fordAngleDecode] at hdecode
      split at hdecode
      · rename_i haddr
        cases hdecode
        simp [fordTxHook, haddr, fordLateralMotionControl, fordLateralMotionControl2,
          fordAccdata, fordSteeringDataFd1, fordLaneAssistData1] at htx
        exact htx.2
      · split at hdecode
        · rename_i haddr
          cases hdecode
          simp [fordTxHook, haddr, fordLateralMotionControl, fordLateralMotionControl2,
            fordAccdata, fordSteeringDataFd1, fordLaneAssistData1] at htx
          exact htx.2
        · cases hdecode
  | _ => cases hcmd

/-- What acceptance says of an angle command: it passed the check. -/
theorem accepted_angle {id : HooksId} {s : State} (hs : Configured id s) {cmd : AngleCommand}
    (hcmd : angleCommand id s.params = some cmd) {ts : UInt32} {toSend : CANPacket}
    (haccepted : s.txAccepted ts toSend = true) {angle : Int} {enabled : Bool}
    (hdecode : cmd.decode toSend = some (angle, enabled)) :
    (steerAngleCmdChecks s.signals angle enabled cmd.limits
      s.commands.desiredAngleLast).1 = false := by
  have hnotAll : id ≠ .alloutput := by rintro rfl; cases hcmd
  have hnotElm : id ≠ .elm327 := by rintro rfl; cases hcmd
  obtain ⟨-, -, htx⟩ := hs.accepted hnotAll hnotElm haccepted
  exact tx_angle_verdict hcmd hdecode htx

theorem sending_desiredAngleLast {id : HooksId} {s : State} (hs : Configured id s)
    {cmd : AngleCommand} (hcmd : angleCommand id s.params = some cmd) (ts : UInt32)
    (toSend : CANPacket) :
    (s.sending ts toSend).commands.desiredAngleLast =
      match cmd.decode toSend with
      | some (desired, _) => desired
      | none => s.commands.desiredAngleLast := by
  have hangle := tx_desiredAngleLast hcmd (s.context ts) s.signals toSend s.commands s.vars
  rw [State.sending, State.hooks, hs.currentHooks]
  exact hangle

end Panda.Safety
