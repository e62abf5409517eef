import Panda.Safety.Session

/-!
The relay malfunction latch. The common checks set `relay_malfunction` and no
hook clears it, so it stays set for the rest of a session and with it every
message is rejected and none is forwarded.
-/

namespace Panda.Safety

open Library

@[simp] theorem hyundaiCommonCruiseButtonsCheck_relayMalfunction (p : HyundaiParams)
    (cruiseButton : Nat) (mainButton : Bool) (sv : Signals × HyundaiVars) :
    (hyundaiCommonCruiseButtonsCheck p cruiseButton mainButton sv).1.relayMalfunction =
      sv.1.relayMalfunction := by
  simp [hyundaiCommonCruiseButtonsCheck, hyundaiLongButtons]

@[simp] theorem hyundaiCanfdRxButtons_relayMalfunction (p : HyundaiParams) (toPush : CANPacket)
    (sv : Signals × HyundaiVars) :
    (hyundaiCanfdRxButtons p toPush sv).1.relayMalfunction = sv.1.relayMalfunction := by
  unfold hyundaiCanfdRxButtons
  split
  · exact hyundaiCommonCruiseButtonsCheck_relayMalfunction _ _ _ _
  · exact hyundaiCommonCruiseButtonsCheck_relayMalfunction _ _ _ _

/-- A receive hook does not clear the latch. -/
theorem rx_relayMalfunction {id : HooksId} {s : Signals} (h : s.relayMalfunction = true)
    (c : Context) (m : ModeParams) (toPush : CANPacket) (v : ModeVars) :
    ((hooksOf id).rx c m toPush (s, v)).1.relayMalfunction = true := by
  cases id with
  | nooutput | elm327 | alloutput => exact h
  | hondaNidec | hondaBosch =>
      change (hondaRxHook c m.honda toPush (s, v.honda)).1.relayMalfunction = true
      simp [hondaRxHook, hondaRxBrake, hondaRxButtons, hondaRxPcmCruise, genericRxChecks, h]
  | toyota =>
      change (toyotaRxHook c m.toyota toPush s).relayMalfunction = true
      simp [toyotaRxHook, toyotaRxSteering, updateVehicleSpeed, pcmCruiseCheck,
        genericRxChecks, h]
  | gm =>
      change (gmRxHook c m.gm toPush s).relayMalfunction = true
      simp [gmRxHook, gmRxButtons, pcmCruiseCheck, genericRxChecks, h]
  | ford =>
      change (fordRxHook c m.ford toPush s).relayMalfunction = true
      simp [fordRxHook, fordRxBrakeCruise, fordRxYawRate, fordRxSecondSpeed, updateVehicleSpeed,
        pcmCruiseCheck, genericRxChecks, h]
  | tesla =>
      change (teslaRxHook c m.tesla toPush (s, v.tesla)).1.relayMalfunction = true
      simp [teslaRxHook, updateVehicleSpeed, pcmCruiseCheck, genericRxChecks, h]
  | hyundai | hyundaiLegacy =>
      change (hyundaiRxHook c m.hyundai toPush (s, v.hyundai)).1.relayMalfunction = true
      simp [hyundaiRxHook, hyundaiCommonCruiseStateCheck, hyundaiRxGas, genericRxChecks, h]
  | hyundaiCanfd =>
      change (hyundaiCanfdRxHook c (m.hyundai, m.hyundaiCanfd) toPush
        (s, v.hyundai)).1.relayMalfunction = true
      simp [hyundaiCanfdRxHook, hyundaiCommonCruiseStateCheck, hyundaiCanfdRxGas,
        genericRxChecks, h]
  | chrysler =>
      change (chryslerRxHook c m.chrysler toPush s).relayMalfunction = true
      simp [chryslerRxHook, pcmCruiseCheck, genericRxChecks, h]
  | subaru =>
      change (subaruRxHook c m.subaru toPush s).relayMalfunction = true
      simp [subaruRxHook, genericRxChecks, subaruRxSteeringTorque, subaruRxWheelSpeeds,
        updateVehicleSpeed, pcmCruiseCheck, h]
  | subaruPreglobal =>
      change (subaruPreglobalRxHook c m.subaruPreglobal toPush s).relayMalfunction = true
      simp [subaruPreglobalRxHook, pcmCruiseCheck, genericRxChecks, h]
  | mazda =>
      change (mazdaRxHook c toPush s).relayMalfunction = true
      simp [mazdaRxHook, pcmCruiseCheck, genericRxChecks, h]
  | nissan =>
      change (nissanRxHook c m.nissan toPush s).relayMalfunction = true
      simp [nissanRxHook, genericRxChecks, nissanRxGas, nissanRxBrake, updateVehicleSpeed,
        pcmCruiseCheck, h]
  | volkswagenMqb =>
      change (volkswagenMqbRxHook c m.volkswagen toPush
        (s, v.volkswagen, v.volkswagenMqb)).1.relayMalfunction = true
      simp [volkswagenMqbRxHook, volkswagenMqbRxAccStatus, volkswagenMqbRxButtons,
        volkswagenMqbRxBrake, volkswagenButtons, pcmCruiseCheck, genericRxChecks, h]
  | volkswagenPq =>
      change (volkswagenPqRxHook c m.volkswagen toPush (s, v.volkswagen)).1.relayMalfunction = true
      simp [volkswagenPqRxHook, volkswagenPqRxMainSwitch, volkswagenPqRxButtons,
        volkswagenButtons, pcmCruiseCheck, genericRxChecks, h]
  | body =>
      change (bodyRxHook toPush s).relayMalfunction = true
      simp [bodyRxHook, h]

theorem step_relayMalfunction {s : State} (h : s.signals.relayMalfunction = true) (e : Event) :
    (step s e).signals.relayMalfunction = true := by
  cases e with
  | rx ts toPush =>
      change (s.rxSignals ts toPush).1.relayMalfunction = true
      unfold State.rxSignals
      split
      · exact rx_relayMalfunction h (s.context ts) s.params toPush s.vars
      · exact h
  | _ => exact h

/-- With the latch set, every message is rejected. -/
theorem txAccepted_of_relayMalfunction {s : State} (h : s.signals.relayMalfunction = true)
    (ts : UInt32) (toSend : CANPacket) : s.txAccepted ts toSend = false := by
  simp [State.txAccepted, h]

end Panda.Safety
