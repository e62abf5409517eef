import Panda.Safety.Entries
import Panda.Safety.Inputs

/-!
Which inputs the check list supervises. The entries name the messages that the
tick expects, and the hooks read the inputs by addresses of their own. Most
sources are named by an entry. Some are by one alternative of an entry only, and
the entry supervises the alternative that was seen first. A few are named by
none.
-/

namespace Panda.Safety

open Library

/-- The messages of the variant carry the source, with their quality flag
checked where the source needs it. -/
def Source.coveredBy (source : Source) (variant : CanMsgCheck) : Bool :=
  source.sentAs variant.addr variant.bus && (!source.quality || variant.qualityFlag)

/-- Every alternative of the entry carries the source. -/
def Source.supervisedBy (source : Source) (check : RxCheck) : Bool :=
  source.coveredBy (check.variant 0) && [1, 2].all fun j : Fin 3 =>
    (check.variant j).addr == 0 || source.coveredBy (check.variant j)

inductive Supervision where
  | always
  | byAlternative
  | never
deriving DecidableEq

/-- How the mode's check list supervises the sources of an input. -/
def supervision (id : HooksId) (m : ModeParams) (input : Input) : Supervision :=
  match id, input with
  | .gm, .regenBraking => .never
  | .hyundai, .torqueDriver | .hyundaiLegacy, .torqueDriver => .never
  | .subaruPreglobal, .brakePressed | .subaruPreglobal, .vehicleMoving => .never
  | .toyota, .angleMeas => if m.toyota.lta then .always else .never
  | .toyota, .brakePressed => .byAlternative
  | .hyundai, .gasPressed | .hyundaiLegacy, .gasPressed | .hyundaiCanfd, .gasPressed =>
      .byAlternative
  | .nissan, _ => .byAlternative
  | _, _ => .always

/-- The sources of the input, with an entry of the list for each. -/
def SourcesSupervised (srcs : List Source) (rxChecks : List RxCheck) : Prop :=
  ∀ source ∈ srcs, ∃ check ∈ rxChecks, source.supervisedBy check = true

/-- The decidable form, for the lists of one mode. -/
def allSupervised (srcs : List Source) (rxChecks : List RxCheck) : Bool :=
  srcs.all fun source => rxChecks.any source.supervisedBy

theorem SourcesSupervised.of_common {srcs : List Source} {common rxChecks : List RxCheck}
    (h : allSupervised srcs common = true) (hcommon : common <+: rxChecks) :
    SourcesSupervised srcs rxChecks := by
  intro source hsource
  obtain ⟨check, hcheck, hsupervised⟩ := List.any_eq_true.mp (List.all_eq_true.mp h source hsource)
  exact ⟨check, hcommon.subset hcheck, hsupervised⟩

theorem SourcesSupervised.of_all {srcs : List Source} {rxChecks : List RxCheck}
    (h : allSupervised srcs rxChecks = true) : SourcesSupervised srcs rxChecks :=
  .of_common h (List.prefix_refl rxChecks)

/-! ### Every mode -/

theorem hondaNidec_supervised (param : UInt16) (p : HondaParams) (v : HondaVars)
    (input : Input) :
    allSupervised (hondaSources (hondaNidecInit param p v).params input)
      (hondaNidecInit param p v).cfg.rxChecks = true := by
  unfold hondaNidecInit
  generalize getFlag param.toNat 4 = alt
  cases alt <;> cases input <;> rfl

theorem hondaBosch_supervised (param : UInt16) (p : HondaParams) (v : HondaVars)
    (input : Input) :
    allSupervised (hondaSources (hondaBoschInit param p v).params input)
      (hondaBoschInit param p v).cfg.rxChecks = true := by
  unfold hondaBoschInit
  generalize getFlag param.toNat 8 = radarless
  generalize getFlag param.toNat 1 = alt
  cases radarless <;> cases alt <;> cases input <;> rfl

theorem toyota_supervised (p : ToyotaParams) {input : Input} (hbrake : input ≠ .brakePressed)
    (hangle : input = .angleMeas → p.lta = true) :
    allSupervised (toyotaSources p input) (toyotaCommonRxChecks p.lta) = true := by
  obtain ⟨altBrake, stockLongitudinal, lta, dbcEpsTorqueFactor⟩ := p
  cases input with
  | brakePressed => exact absurd rfl hbrake
  | angleMeas =>
      have hlta : lta = true := hangle rfl
      subst hlta
      rfl
  | _ => cases lta <;> rfl

theorem gm_supervised (p : GmParams) {input : Input} (hregen : input ≠ .regenBraking) :
    allSupervised (gmSources p input) gmRxChecks = true := by
  obtain ⟨longLimits, hw, camLong, pcmCruise⟩ := p
  cases input with
  | regenBraking => exact absurd rfl hregen
  | _ => cases hw <;> rfl

theorem ford_supervised (input : Input) :
    allSupervised (fordSources input) fordRxChecks = true := by
  cases input <;> rfl

theorem tesla_supervised (param : UInt16) (input : Input) :
    allSupervised (teslaSources (teslaParams param) input)
      (teslaInit param).cfg.rxChecks = true := by
  unfold teslaInit
  generalize teslaParams param = p
  obtain ⟨longitudinal, powertrain, raven⟩ := p
  cases powertrain <;> cases raven <;> cases input <;> rfl

theorem hyundai_supervised (p : HyundaiParams) (legacy : Bool) {input : Input}
    (hgas : input ≠ .gasPressed) (htorque : input ≠ .torqueDriver) :
    allSupervised (hyundaiSources p input) (hyundaiCommonRxChecks legacy) = true := by
  cases input with
  | gasPressed => exact absurd rfl hgas
  | torqueDriver => exact absurd rfl htorque
  | _ => cases legacy <;> rfl

theorem hyundaiCanfd_supervised (p : HyundaiParams) {input : Input}
    (hgas : input ≠ .gasPressed) :
    allSupervised (hyundaiCanfdSources p input)
      (hyundaiCanfdCommonRxChecks (hyundaiCanfdPtBus p)) = true := by
  obtain ⟨evGasSignal, hybridGasSignal, longitudinal, cameraScc, canfdHda2, altLimits⟩ := p
  cases input with
  | gasPressed => exact absurd rfl hgas
  | _ => cases canfdHda2 <;> rfl

theorem hyundaiInit_common (param : UInt16) :
    hyundaiCommonRxChecks false <+: (hyundaiInit param).cfg.rxChecks := by
  unfold hyundaiInit
  dsimp only
  split
  · exact List.prefix_append _ _
  · split
    · exact List.prefix_append _ _
    · exact List.prefix_append _ _

theorem hyundaiCanfdConfig_common (p : HyundaiParams) (q : HyundaiCanfdParams) :
    hyundaiCanfdCommonRxChecks (hyundaiCanfdPtBus p) <+:
      (hyundaiCanfdConfig p q).rxChecks := by
  unfold hyundaiCanfdConfig hyundaiCanfdPtBus
  dsimp only
  split_ifs <;> exact List.prefix_append _ _

theorem chrysler_supervised (param : UInt16) (input : Input) :
    allSupervised (chryslerSources (chryslerInit param).params input)
      (chryslerInit param).cfg.rxChecks = true := by
  unfold chryslerInit
  split
  · cases input <;> rfl
  · split
    · cases input <;> rfl
    · cases input <;> rfl

theorem subaru_supervised (param : UInt16) (input : Input) :
    allSupervised (subaruSources (subaruInit param).params input)
      (subaruInit param).cfg.rxChecks = true := by
  unfold subaruInit
  generalize getFlag param.toNat 1 = gen2
  cases gen2 <;> cases input <;> rfl

theorem subaruPreglobal_supervised {input : Input} (hbrake : input ≠ .brakePressed)
    (hmoving : input ≠ .vehicleMoving) :
    allSupervised (subaruPreglobalSources input) subaruPreglobalRxChecks = true := by
  cases input with
  | brakePressed => exact absurd rfl hbrake
  | vehicleMoving => exact absurd rfl hmoving
  | _ => rfl

theorem mazda_supervised (input : Input) :
    allSupervised (mazdaSources input) mazdaRxChecks = true := by
  cases input <;> rfl

theorem volkswagenMqb_supervised (input : Input) :
    allSupervised (volkswagenMqbSources input) volkswagenMqbRxChecks = true := by
  cases input <;> rfl

theorem volkswagenPq_supervised (input : Input) :
    allSupervised (volkswagenPqSources input) volkswagenPqRxChecks = true := by
  cases input <;> rfl

/-- The entries supervise the sources of every input that has `always`. -/
theorem init_supervised {id : HooksId} {param : UInt16} {m : ModeParams} {v : ModeVars}
    {input : Input} (h : supervision id ((hooksOf id).init param m v).params input = .always) :
    SourcesSupervised (sources id ((hooksOf id).init param m v).params input)
      ((hooksOf id).init param m v).cfg.rxChecks := by
  cases id with
  | nooutput | elm327 | alloutput | body => rintro _ ⟨⟩
  | hondaNidec => exact .of_all (hondaNidec_supervised param m.honda v.honda input)
  | hondaBosch => exact .of_all (hondaBosch_supervised param m.honda v.honda input)
  | toyota =>
      have hbrake : input ≠ .brakePressed := by
        rintro rfl
        cases h
      have hangle : input = .angleMeas → (toyotaParams param).lta = true := by
        rintro rfl
        change (if (toyotaParams param).lta then Supervision.always else .never) = .always at h
        simpa using h
      exact .of_all (toyota_supervised (toyotaParams param) hbrake hangle)
  | gm =>
      have hregen : input ≠ .regenBraking := by
        rintro rfl
        cases h
      exact .of_all (gm_supervised (gmParams param) hregen)
  | ford => exact .of_all (ford_supervised input)
  | tesla => exact .of_all (tesla_supervised param input)
  | hyundai =>
      have hgas : input ≠ .gasPressed := by
        rintro rfl
        cases h
      have htorque : input ≠ .torqueDriver := by
        rintro rfl
        cases h
      exact .of_common (hyundai_supervised (hyundaiParams param) false hgas htorque)
        (hyundaiInit_common param)
  | hyundaiLegacy =>
      have hgas : input ≠ .gasPressed := by
        rintro rfl
        cases h
      have htorque : input ≠ .torqueDriver := by
        rintro rfl
        cases h
      exact .of_common (hyundai_supervised (hyundaiLegacyInit param).params true hgas htorque)
        (List.prefix_append _ _)
  | hyundaiCanfd =>
      have hgas : input ≠ .gasPressed := by
        rintro rfl
        cases h
      exact .of_common (hyundaiCanfd_supervised (hyundaiCanfdCommonParams param) hgas)
        (hyundaiCanfdConfig_common _ _)
  | chrysler => exact .of_all (chrysler_supervised param input)
  | subaru => exact .of_all (subaru_supervised param input)
  | subaruPreglobal =>
      have hbrake : input ≠ .brakePressed := by
        rintro rfl
        cases h
      have hmoving : input ≠ .vehicleMoving := by
        rintro rfl
        cases h
      exact .of_all (subaruPreglobal_supervised hbrake hmoving)
  | mazda => exact .of_all (mazda_supervised input)
  | nissan => cases h
  | volkswagenMqb => exact .of_all (volkswagenMqb_supervised input)
  | volkswagenPq => exact .of_all (volkswagenPq_supervised input)

/-- No alternative of an entry carries the source. -/
def Source.unknownTo (source : Source) (check : RxCheck) : Bool :=
  [0, 1, 2].all fun j : Fin 3 => !source.coveredBy (check.variant j)

/-- No entry supervises the sources of an input that has `never`. -/
theorem init_unsupervised {id : HooksId} {param : UInt16} {m : ModeParams} {v : ModeVars}
    {input : Input} (h : supervision id ((hooksOf id).init param m v).params input = .never) :
    ∀ source ∈ sources id ((hooksOf id).init param m v).params input,
      ∀ check ∈ ((hooksOf id).init param m v).cfg.rxChecks, source.unknownTo check = true := by
  suffices hall : ((sources id ((hooksOf id).init param m v).params input).all fun source =>
      ((hooksOf id).init param m v).cfg.rxChecks.all source.unknownTo) = true by
    intro source hsource check hcheck
    exact List.all_eq_true.mp (List.all_eq_true.mp hall source hsource) check hcheck
  cases id with
  | toyota =>
      change ((toyotaSources (toyotaParams param) input).all fun source =>
        (toyotaCommonRxChecks (toyotaParams param).lta).all source.unknownTo) = true
      cases input with
      | angleMeas =>
          change (if (toyotaParams param).lta then Supervision.always else .never) = .never at h
          have hlta : (toyotaParams param).lta = false := by simpa using h
          rw [hlta]
          rfl
      | _ => cases h
  | gm => cases input <;> first | rfl | cases h
  | hyundai =>
      change ((hyundaiSources (hyundaiParams param) input).all fun source =>
        (hyundaiInit param).cfg.rxChecks.all source.unknownTo) = true
      cases input with
      | torqueDriver =>
          unfold hyundaiInit
          dsimp only
          split_ifs <;> rfl
      | _ => cases h
  | hyundaiLegacy => cases input <;> first | rfl | cases h
  | subaruPreglobal => cases input <;> first | rfl | cases h
  | _ => cases input <;> cases h

end Panda.Safety
