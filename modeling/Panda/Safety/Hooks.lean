import Panda.Safety.Modes.Defaults
import Panda.Safety.Modes.Honda
import Panda.Safety.Modes.Toyota
import Panda.Safety.Modes.Tesla
import Panda.Safety.Modes.Gm
import Panda.Safety.Modes.Ford
import Panda.Safety.Modes.HyundaiCanfd
import Panda.Safety.Modes.Chrysler
import Panda.Safety.Modes.Subaru
import Panda.Safety.Modes.Mazda
import Panda.Safety.Modes.Volkswagen

/-!
The hooks of all safety modes over one memory. The static variables of the
modes outlive a mode change, and some are shared between modes, so they form
one record of the variables that only `init` writes and one of the others. A
mode owns a part of each.

The model is of the full build, with `CANFD` and `ALLOW_DEBUG` defined.
-/

namespace Panda.Safety

open Library

/-- The static variables that only the `init` hooks write. -/
structure ModeParams where
  alloutput : AlloutputParams := {}
  honda : HondaParams := {}
  toyota : ToyotaParams := {}
  tesla : TeslaParams := {}
  gm : GmParams := {}
  ford : FordParams := {}
  hyundai : HyundaiParams := {}
  hyundaiCanfd : HyundaiCanfdParams := {}
  chrysler : ChryslerParams := {}
  subaru : SubaruParams := {}
  subaruPreglobal : SubaruPreglobalParams := {}
  nissan : NissanParams := {}
  volkswagen : VolkswagenParams := {}
  volkswagenMqb : VolkswagenMqbParams := {}

/-- The static variables that the receive and transmit hooks write. -/
structure ModeVars where
  honda : HondaVars := {}
  tesla : TeslaVars := {}
  hyundai : HyundaiVars := {}
  volkswagen : VolkswagenVars := {}
  volkswagenMqb : VolkswagenMqbVars := {}

inductive HooksId where
  | nooutput
  | hondaNidec
  | toyota
  | elm327
  | gm
  | hondaBosch
  | hyundai
  | chrysler
  | subaru
  | volkswagenMqb
  | nissan
  | hyundaiLegacy
  | mazda
  | body
  | ford
  | hyundaiCanfd
  | tesla
  | subaruPreglobal
  | volkswagenPq
  | alloutput
deriving DecidableEq

structure Mode where
  P : Type
  D : Type
  params : Lens ModeParams P
  vars : Lens ModeVars D
  hooks : SafetyHooks P D

/-! ### Ownership -/

def hondaParamsLens : Lens ModeParams HondaParams where
  get m := m.honda
  set m p := { m with honda := p }
  get_set _ _ := rfl

def hondaVarsLens : Lens ModeVars HondaVars where
  get m := m.honda
  set m v := { m with honda := v }
  get_set _ _ := rfl

def hyundaiParamsLens : Lens ModeParams HyundaiParams where
  get m := m.hyundai
  set m p := { m with hyundai := p }
  get_set _ _ := rfl

/-- The CAN-FD mode shares the common Hyundai variables. -/
def hyundaiCanfdParamsLens : Lens ModeParams (HyundaiParams × HyundaiCanfdParams) where
  get m := (m.hyundai, m.hyundaiCanfd)
  set m p := { m with hyundai := p.1, hyundaiCanfd := p.2 }
  get_set _ _ := rfl

def hyundaiVarsLens : Lens ModeVars HyundaiVars where
  get m := m.hyundai
  set m v := { m with hyundai := v }
  get_set _ _ := rfl

/-- MQB shares the common Volkswagen variables with PQ. -/
def volkswagenMqbParamsLens : Lens ModeParams (VolkswagenParams × VolkswagenMqbParams) where
  get m := (m.volkswagen, m.volkswagenMqb)
  set m p := { m with volkswagen := p.1, volkswagenMqb := p.2 }
  get_set _ _ := rfl

def volkswagenMqbVarsLens : Lens ModeVars (VolkswagenVars × VolkswagenMqbVars) where
  get m := (m.volkswagen, m.volkswagenMqb)
  set m v := { m with volkswagen := v.1, volkswagenMqb := v.2 }
  get_set _ _ := rfl

def hondaMode (hooks : SafetyHooks HondaParams HondaVars) : Mode where
  P := HondaParams
  D := HondaVars
  params := hondaParamsLens
  vars := hondaVarsLens
  hooks

def hyundaiMode (hooks : SafetyHooks HyundaiParams HyundaiVars) : Mode where
  P := HyundaiParams
  D := HyundaiVars
  params := hyundaiParamsLens
  vars := hyundaiVarsLens
  hooks

/-- A mode without variables that its receive and transmit hooks write. -/
def stockMode {P : Type} (params : Lens ModeParams P) (hooks : SafetyHooks P Unit) : Mode where
  P := P
  D := Unit
  params
  vars := Lens.unit
  hooks

def modeOf : HooksId → Mode
  | .nooutput => stockMode Lens.unit nooutputHooks
  | .elm327 => stockMode Lens.unit elm327Hooks
  | .mazda => stockMode Lens.unit mazdaHooks
  | .body => stockMode Lens.unit bodyHooks
  | .alloutput => stockMode
      ⟨fun m => m.alloutput, fun m p => { m with alloutput := p }, fun _ _ => rfl⟩ alloutputHooks
  | .hondaNidec => hondaMode hondaNidecHooks
  | .hondaBosch => hondaMode hondaBoschHooks
  | .toyota => stockMode
      ⟨fun m => m.toyota, fun m p => { m with toyota := p }, fun _ _ => rfl⟩ toyotaHooks
  | .gm => stockMode ⟨fun m => m.gm, fun m p => { m with gm := p }, fun _ _ => rfl⟩ gmHooks
  | .ford => stockMode
      ⟨fun m => m.ford, fun m p => { m with ford := p }, fun _ _ => rfl⟩ fordHooks
  | .chrysler => stockMode
      ⟨fun m => m.chrysler, fun m p => { m with chrysler := p }, fun _ _ => rfl⟩ chryslerHooks
  | .subaru => stockMode
      ⟨fun m => m.subaru, fun m p => { m with subaru := p }, fun _ _ => rfl⟩ subaruHooks
  | .subaruPreglobal => stockMode
      ⟨fun m => m.subaruPreglobal, fun m p => { m with subaruPreglobal := p }, fun _ _ => rfl⟩
      subaruPreglobalHooks
  | .nissan => stockMode
      ⟨fun m => m.nissan, fun m p => { m with nissan := p }, fun _ _ => rfl⟩ nissanHooks
  | .hyundai => hyundaiMode hyundaiHooks
  | .hyundaiLegacy => hyundaiMode hyundaiLegacyHooks
  | .hyundaiCanfd => ⟨_, _, hyundaiCanfdParamsLens, hyundaiVarsLens, hyundaiCanfdHooks⟩
  | .tesla => ⟨_, _,
      ⟨fun m => m.tesla, fun m p => { m with tesla := p }, fun _ _ => rfl⟩,
      ⟨fun m => m.tesla, fun m v => { m with tesla := v }, fun _ _ => rfl⟩, teslaHooks⟩
  | .volkswagenMqb => ⟨_, _, volkswagenMqbParamsLens, volkswagenMqbVarsLens, volkswagenMqbHooks⟩
  | .volkswagenPq => ⟨_, _,
      ⟨fun m => m.volkswagen, fun m p => { m with volkswagen := p }, fun _ _ => rfl⟩,
      ⟨fun m => m.volkswagen, fun m v => { m with volkswagen := v }, fun _ _ => rfl⟩,
      volkswagenPqHooks⟩

/-- The hooks of a mode on the memory of all modes. -/
def Mode.embed (mode : Mode) : SafetyHooks ModeParams ModeVars where
  init param m v :=
    let r := mode.hooks.init param (mode.params.get m) (mode.vars.get v)
    { cfg := r.cfg
      params := mode.params.set m r.params
      vars := mode.vars.set v r.vars
      controlsAllowed := r.controlsAllowed }
  rx c m toPush sv :=
    let r := mode.hooks.rx c (mode.params.get m) toPush (sv.1, mode.vars.get sv.2)
    (r.1, mode.vars.set sv.2 r.2)
  tx c m s toSend commands v :=
    let r := mode.hooks.tx c (mode.params.get m) s toSend commands (mode.vars.get v)
    ⟨r.tx, r.commands, mode.vars.set v r.vars⟩
  fwd m v := mode.hooks.fwd (mode.params.get m) (mode.vars.get v)
  getChecksum := mode.hooks.getChecksum
  computeChecksum := mode.hooks.computeChecksum.map fun f m => f (mode.params.get m)
  getCounter := mode.hooks.getCounter
  getQualityFlagValid := mode.hooks.getQualityFlagValid

def hooksOf (id : HooksId) : SafetyHooks ModeParams ModeVars := (modeOf id).embed

/-! ### Registry -/

def safetySilent : UInt16 := 0
def safetyHondaNidec : UInt16 := 1
def safetyToyota : UInt16 := 2
def safetyElm327 : UInt16 := 3
def safetyGm : UInt16 := 4
def safetyFord : UInt16 := 6
def safetyHyundai : UInt16 := 8
def safetyChrysler : UInt16 := 9
def safetyTesla : UInt16 := 10
def safetySubaru : UInt16 := 11
def safetyMazda : UInt16 := 13
def safetyNissan : UInt16 := 14
def safetyVolkswagenMqb : UInt16 := 15
def safetyAlloutput : UInt16 := 17
def safetyNooutput : UInt16 := 19
def safetyHondaBosch : UInt16 := 20
def safetyVolkswagenPq : UInt16 := 21
def safetySubaruPreglobal : UInt16 := 22
def safetyHyundaiLegacy : UInt16 := 23
def safetyBody : UInt16 := 27
def safetyHyundaiCanfd : UInt16 := 28

def safetyHookRegistry : List (UInt16 × HooksId) :=
  [(safetySilent, .nooutput), (safetyHondaNidec, .hondaNidec), (safetyToyota, .toyota),
   (safetyElm327, .elm327), (safetyGm, .gm), (safetyHondaBosch, .hondaBosch),
   (safetyHyundai, .hyundai), (safetyChrysler, .chrysler), (safetySubaru, .subaru),
   (safetyVolkswagenMqb, .volkswagenMqb), (safetyNissan, .nissan), (safetyNooutput, .nooutput),
   (safetyHyundaiLegacy, .hyundaiLegacy), (safetyMazda, .mazda), (safetyBody, .body),
   (safetyFord, .ford), (safetyHyundaiCanfd, .hyundaiCanfd), (safetyTesla, .tesla),
   (safetySubaruPreglobal, .subaruPreglobal), (safetyVolkswagenPq, .volkswagenPq),
   (safetyAlloutput, .alloutput)]

/-- The loop over the registry: the last entry with the mode's id wins. -/
def registered (mode : UInt16) : Option HooksId :=
  safetyHookRegistry.foldl (fun found entry => if entry.1 = mode then some entry.2 else found) none

theorem registered_mem {mode : UInt16} {id : HooksId} (h : registered mode = some id) :
    (mode, id) ∈ safetyHookRegistry := by
  have hloop : ∀ (entries : List (UInt16 × HooksId)) (found : Option HooksId),
      entries.foldl (fun found entry => if entry.1 = mode then some entry.2 else found) found =
        some id → found = some id ∨ (mode, id) ∈ entries := by
    intro entries
    induction entries with
    | nil =>
        intro found hfound
        exact .inl hfound
    | cons entry entries ih =>
        intro found hfound
        rw [List.foldl_cons] at hfound
        rcases ih _ hfound with hnow | hlater
        · split at hnow
          · rename_i hmode
            apply Or.inr
            rw [← hmode, ← Option.some.inj hnow]
            exact List.mem_cons_self
          · exact .inl hnow
        · exact .inr (List.mem_cons_of_mem _ hlater)
  rcases hloop safetyHookRegistry none h with hnone | hmem
  · cases hnone
  · exact hmem

/-- `is_car_safety_mode` of `main.c`. -/
def isCarSafetyMode (mode : UInt16) : Bool :=
  mode != safetySilent && mode != safetyNooutput && mode != safetyAlloutput &&
    mode != safetyElm327

end Panda.Safety
