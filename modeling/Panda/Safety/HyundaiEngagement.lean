import Panda.Library.Recent
import Panda.Safety.Session

/-!
Engagement of Hyundai with the stock cruise control. Cruise messages and button
messages come in any order. The counter of button messages since a press lets a rising
edge of cruise engage only if one of the last eight button messages carried a press.
-/

namespace Panda.Safety

open Library

inductive HyundaiCall where
  | buttons (cruiseButton : Nat) (mainButton : Bool)
  | cruiseState (cruiseEngaged : Bool)

def hyundaiCall (p : HyundaiParams) (sv : Signals × HyundaiVars) :
    HyundaiCall → Signals × HyundaiVars
  | .buttons cruiseButton mainButton =>
      hyundaiCommonCruiseButtonsCheck p cruiseButton mainButton sv
  | .cruiseState cruiseEngaged => hyundaiCommonCruiseStateCheck p cruiseEngaged sv

/-- The message carries resume, set, cancel or the main button. -/
def hyundaiPress (cruiseButton : Nat) (mainButton : Bool) : Bool :=
  cruiseButton == hyundaiBtnResume || cruiseButton == hyundaiBtnSet ||
    cruiseButton == hyundaiBtnCancel || mainButton

/-- Whether a button message carries a press. -/
def HyundaiCall.press? : HyundaiCall → Option Bool
  | .buttons cruiseButton mainButton => some (hyundaiPress cruiseButton mainButton)
  | .cruiseState _ => none

def HyundaiCall.engaged? : HyundaiCall → Option Bool
  | .buttons _ _ => none
  | .cruiseState cruiseEngaged => some cruiseEngaged

/-- Cruise was engaged at the last cruise message. -/
def engagedBefore (calls : List HyundaiCall) : Bool :=
  (calls.filterMap HyundaiCall.engaged?).getLastD false

/-- One of the last eight button messages carried a press. -/
def RecentPress (calls : List HyundaiCall) : Prop :=
  true ∈ (calls.filterMap HyundaiCall.press?).rtake 8

instance RecentPress.decidable (calls : List HyundaiCall) : Decidable (RecentPress calls) :=
  inferInstanceAs (Decidable (true ∈ _))

section

variable {p : HyundaiParams} (hstock : p.longitudinal = false)

include hstock

theorem hyundaiCall_cruiseEngagedPrev (sv : Signals × HyundaiVars) (call : HyundaiCall) :
    (hyundaiCall p sv call).1.cruiseEngagedPrev =
      call.engaged?.elim sv.1.cruiseEngagedPrev fun cruiseEngaged => cruiseEngaged := by
  cases call with
  | buttons cruiseButton mainButton =>
      simp [hyundaiCall, hyundaiCommonCruiseButtonsCheck, HyundaiCall.engaged?, hstock]
  | cruiseState cruiseEngaged =>
      simp [hyundaiCall, hyundaiCommonCruiseStateCheck, HyundaiCall.engaged?, hstock]

omit hstock in
theorem hyundaiCall_lastButtonInteraction (sv : Signals × HyundaiVars) (call : HyundaiCall) :
    (hyundaiCall p sv call).2.lastButtonInteraction =
      call.press?.elim sv.2.lastButtonInteraction
        (sinceMark hyundaiPrevButtonSamples sv.2.lastButtonInteraction) := by
  cases call with
  | buttons cruiseButton mainButton => rfl
  | cruiseState cruiseEngaged =>
      simp [hyundaiCall, hyundaiCommonCruiseStateCheck, HyundaiCall.press?]

theorem hyundaiCall_buttons (sv : Signals × HyundaiVars) (cruiseButton : Nat)
    (mainButton : Bool) :
    (hyundaiCall p sv (.buttons cruiseButton mainButton)).1.controlsAllowed =
      sv.1.controlsAllowed := by
  simp [hyundaiCall, hyundaiCommonCruiseButtonsCheck, hstock]

/-- What a cruise message does to the controls, from what the state remembers. -/
theorem hyundaiCall_cruiseState (sv : Signals × HyundaiVars) (cruiseEngaged : Bool) :
    (hyundaiCall p sv (.cruiseState cruiseEngaged)).1.controlsAllowed =
      if cruiseEngaged = false then false
      else if sv.1.cruiseEngagedPrev = false ∧
          sv.2.lastButtonInteraction < hyundaiPrevButtonSamples then true
      else sv.1.controlsAllowed := by
  cases cruiseEngaged with
  | false => simp [hyundaiCall, hyundaiCommonCruiseStateCheck, hstock]
  | true =>
      simp only [hyundaiCall, hyundaiCommonCruiseStateCheck, hstock]
      cases sv.1.cruiseEngagedPrev with
      | true => simp [Bool.false_eq_true]
      | false =>
          rcases lt_or_ge sv.2.lastButtonInteraction hyundaiPrevButtonSamples with h | h
          · simp [h]
          · simp [not_lt.mpr h]

end

/-! ### Since the mode was set -/

/-- The modes whose `init` runs `hyundai_common_init`. -/
def HyundaiHooks (id : HooksId) : Prop :=
  id = .hyundai ∨ id = .hyundaiLegacy ∨ id = .hyundaiCanfd

/-- The state that the calls share, after some of them. -/
def State.hyundaiAfter (s : State) (calls : List HyundaiCall) : Signals × HyundaiVars :=
  run (hyundaiCall s.params.hyundai) (s.signals, s.vars.hyundai) calls

theorem State.hyundaiAfter_snoc (s : State) (calls : List HyundaiCall) (call : HyundaiCall) :
    s.hyundaiAfter (calls ++ [call]) =
      hyundaiCall s.params.hyundai (s.hyundaiAfter calls) call := by
  rw [State.hyundaiAfter, run_append]
  rfl

theorem setSafetyHooks_hyundai {mode : UInt16} {id : HooksId} (hmode : registered mode = some id)
    (hid : HyundaiHooks id) (param : UInt16) (s : State) :
    (setSafetyHooks mode param s).signals.cruiseEngagedPrev = false ∧
      (setSafetyHooks mode param s).vars.hyundai.lastButtonInteraction =
        hyundaiPrevButtonSamples := by
  rw [setSafetyHooks, hmode]
  rcases hid with rfl | rfl | rfl <;> exact ⟨rfl, rfl⟩

theorem hyundaiAfter_remembers {mode : UInt16} {id : HooksId} (hmode : registered mode = some id)
    (hid : HyundaiHooks id) {param : UInt16} {s : State}
    (hstock : (setSafetyHooks mode param s).params.hyundai.longitudinal = false)
    (calls : List HyundaiCall) :
    ((setSafetyHooks mode param s).hyundaiAfter calls).1.cruiseEngagedPrev =
        engagedBefore calls ∧
      (((setSafetyHooks mode param s).hyundaiAfter calls).2.lastButtonInteraction <
        hyundaiPrevButtonSamples ↔ RecentPress calls) := by
  obtain ⟨hprev, hinteraction⟩ := setSafetyHooks_hyundai hmode hid param s
  constructor
  · have hproject := run_project (fun _ cruiseEngaged => cruiseEngaged)
      (fun sv : Signals × HyundaiVars => sv.1.cruiseEngagedPrev) HyundaiCall.engaged?
      (hyundaiCall_cruiseEngagedPrev hstock)
    rw [State.hyundaiAfter, hproject, hprev, run_replace, engagedBefore]
  · have hproject := run_project (sinceMark hyundaiPrevButtonSamples)
      (fun sv : Signals × HyundaiVars => sv.2.lastButtonInteraction) HyundaiCall.press?
      (hyundaiCall_lastButtonInteraction (p := (setSafetyHooks mode param s).params.hyundai))
    rw [State.hyundaiAfter, hproject, hinteraction]
    exact run_sinceMark_lt_iff le_rfl _

/-- With the stock cruise control a cruise message sets the controls on a rising edge
soon after a press, clears them without cruise, and keeps them otherwise; button
messages keep them. -/
theorem hyundai_stock_engagement {mode : UInt16} {id : HooksId} (hmode : registered mode = some id)
    (hid : HyundaiHooks id) {param : UInt16} {s : State}
    (hstock : (setSafetyHooks mode param s).params.hyundai.longitudinal = false)
    (calls : List HyundaiCall) :
    (∀ cruiseEngaged, ((setSafetyHooks mode param s).hyundaiAfter
        (calls ++ [.cruiseState cruiseEngaged])).1.controlsAllowed =
      if cruiseEngaged = false then false
      else if engagedBefore calls = false ∧ RecentPress calls then true
      else ((setSafetyHooks mode param s).hyundaiAfter calls).1.controlsAllowed) ∧
    ∀ cruiseButton mainButton, ((setSafetyHooks mode param s).hyundaiAfter
        (calls ++ [.buttons cruiseButton mainButton])).1.controlsAllowed =
      ((setSafetyHooks mode param s).hyundaiAfter calls).1.controlsAllowed := by
  obtain ⟨hengaged, hrecent⟩ := hyundaiAfter_remembers hmode hid hstock calls
  constructor
  · intro cruiseEngaged
    rw [State.hyundaiAfter_snoc, hyundaiCall_cruiseState hstock, hengaged]
    simp only [hrecent]
  · intro cruiseButton mainButton
    rw [State.hyundaiAfter_snoc, hyundaiCall_buttons hstock]

/-- A press, seven more button messages and a rising edge of cruise. -/
def pressedInTime : List HyundaiCall :=
  .buttons hyundaiBtnSet false :: List.replicate 7 (.buttons 0 false)

theorem hyundai_stock_engagement_pressed :
    (∀ cruiseEngaged, ((setSafetyHooks safetyHyundai 0 bootState).hyundaiAfter
        (pressedInTime ++ [.cruiseState cruiseEngaged])).1.controlsAllowed =
      if cruiseEngaged = false then false
      else if engagedBefore pressedInTime = false ∧ RecentPress pressedInTime then true
      else ((setSafetyHooks safetyHyundai 0 bootState).hyundaiAfter
        pressedInTime).1.controlsAllowed) ∧
    ∀ cruiseButton mainButton, ((setSafetyHooks safetyHyundai 0 bootState).hyundaiAfter
        (pressedInTime ++ [.buttons cruiseButton mainButton])).1.controlsAllowed =
      ((setSafetyHooks safetyHyundai 0 bootState).hyundaiAfter
        pressedInTime).1.controlsAllowed := by
  have hmode : registered safetyHyundai = some .hyundai := by decide
  have hstock : (setSafetyHooks safetyHyundai 0 bootState).params.hyundai.longitudinal = false := by
    decide
  exact hyundai_stock_engagement hmode (.inl rfl) hstock pressedInTime

end Panda.Safety
