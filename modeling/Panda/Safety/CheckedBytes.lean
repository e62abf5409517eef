import Panda.Safety.SameFrame
import Panda.Safety.StaleInputs

/-!
The validation of a monitored message. The checksum, the counter and the
quality flag are read from fixed places of the message, and the list of checks
names its length: the places lie within it. So validation takes two frames that
agree in their header and in the bytes of their length for the same message.
-/

namespace Panda.Safety

open Library

variable {msg msg' : CANPacket}

/-! ### The checks of a message -/

/-- The checks that are made of a monitored message, each with the number of
leading bytes in which a message has its part. A sum over the whole message
needs one byte, the one that holds the checksum. -/
def checkBranches (id : HooksId) (check : CanMsgCheck) : List (Bool × Nat) :=
  match id with
  | .hondaNidec | .hondaBosch => [(check.checkChecksum, 1), (check.maxCounter != 0, 1)]
  | .toyota => [(check.checkChecksum, 1), (check.qualityFlag, 1)]
  | .ford => [(check.checkChecksum, 7), (check.maxCounter != 0, 6), (check.qualityFlag, 7)]
  | .hyundai | .hyundaiLegacy =>
      [(check.checkChecksum, 8), (check.maxCounter != 0, if check.addr = 0x4F1 then 4 else 8)]
  | .hyundaiCanfd => [(check.checkChecksum, 2), (check.maxCounter != 0, 3)]
  | .chrysler => [(check.checkChecksum, 1), (check.maxCounter != 0, 7)]
  | .subaru => [(check.checkChecksum, 1), (check.maxCounter != 0, 2)]
  | .volkswagenMqb => [(check.checkChecksum, 2), (check.maxCounter != 0, 2)]
  | .volkswagenPq =>
      [(check.checkChecksum, if check.addr = msgMotor5 then 8 else 1), (check.maxCounter != 0, 3)]
  | _ => []

/-! ### Checksums, counters and quality flags -/

theorem foldl_range_congr {β : Type*} {n : Nat} {f g : β → Nat → β}
    (h : ∀ b, ∀ i < n, f b i = g b i) (b : β) :
    (List.range n).foldl f b = (List.range n).foldl g b := by
  apply List.foldl_ext
  intro b i hi
  exact h b i (List.mem_range.mp hi)

theorem hondaChecksum_congr (h : SameFrame msg msg') (hlen : 1 ≤ getLen msg) :
    hondaComputeChecksum msg' = hondaComputeChecksum msg ∧
      hondaGetChecksum msg' = hondaGetChecksum msg := by
  constructor
  · dsimp only [hondaComputeChecksum]
    rw [h.addr_eq, h.len_eq]
    rw [foldl_range_congr (n := getLen msg)]
    intro checksum i hi
    rw [h.data i hi]
  · unfold hondaGetChecksum
    rw [h.len_eq, h.data _ (by omega)]

theorem hondaGetCounter_congr (h : SameFrame msg msg') (hlen : 1 ≤ getLen msg) :
    hondaGetCounter msg' = hondaGetCounter msg := by
  unfold hondaGetCounter
  rw [h.len_eq, h.data _ (by omega)]

theorem toyotaChecksum_congr (h : SameFrame msg msg') (hlen : 1 ≤ getLen msg) :
    toyotaComputeChecksum msg' = toyotaComputeChecksum msg ∧
      toyotaGetChecksum msg' = toyotaGetChecksum msg := by
  constructor
  · dsimp only [toyotaComputeChecksum]
    rw [h.addr_eq, h.len_eq, foldl_range_congr (n := getLen msg - 1)]
    intro checksum i hi
    rw [h.data i (by omega)]
  · unfold toyotaGetChecksum
    rw [h.len_eq, h.data _ (by omega)]

theorem toyotaQualityFlag_congr (h : SameFrame msg msg') (hlen : 1 ≤ getLen msg) :
    toyotaGetQualityFlagValid msg' = toyotaGetQualityFlagValid msg := by
  unfold toyotaGetQualityFlagValid
  rw [h.addr_eq, h.bit_eq (by omega)]

theorem fordChecksum_congr (h : SameFrame msg msg') (hlen : 7 ≤ getLen msg) :
    fordComputeChecksum msg' = fordComputeChecksum msg ∧
      fordGetChecksum msg' = fordGetChecksum msg := by
  simp (disch := omega) only [fordComputeChecksum, fordGetChecksum, h.addr_eq, h.data, and_self]

theorem fordGetCounter_congr (h : SameFrame msg msg') (hlen : 6 ≤ getLen msg) :
    fordGetCounter msg' = fordGetCounter msg := by
  simp (disch := omega) only [fordGetCounter, h.addr_eq, h.data]

theorem fordQualityFlag_congr (h : SameFrame msg msg') (hlen : 7 ≤ getLen msg) :
    fordGetQualityFlagValid msg' = fordGetQualityFlagValid msg := by
  simp (disch := omega) only [fordGetQualityFlagValid, h.addr_eq, h.byte_eq]

theorem hyundaiChecksum_congr (h : SameFrame msg msg') (hlen : 8 ≤ getLen msg) :
    hyundaiComputeChecksum msg' = hyundaiComputeChecksum msg ∧
      hyundaiGetChecksum msg' = hyundaiGetChecksum msg := by
  have hbyte : ∀ i ∈ List.range 8, getByte msg' i = getByte msg i := by
    intro i hi
    have hi := List.mem_range.mp hi
    exact h.byte_eq (by omega)
  constructor
  · have hbits : hyundaiCountBits msg' = hyundaiCountBits msg := by
      unfold hyundaiCountBits
      congr 1
      apply List.map_congr_left
      intro i hi
      rw [hbyte i hi]
    have hnibbles : ∀ addr, (List.range 8).map (fun i => hyundaiNibbles addr i (getByte msg' i)) =
        (List.range 8).map fun i => hyundaiNibbles addr i (getByte msg i) := by
      intro addr
      apply List.map_congr_left
      intro i hi
      rw [hbyte i hi]
    dsimp only [hyundaiComputeChecksum]
    rw [h.addr_eq, hbits, hnibbles]
  · simp (disch := omega) only [hyundaiGetChecksum, h.addr_eq, h.data]

theorem hyundaiGetCounter_congr (h : SameFrame msg msg')
    (hlen : (if getAddr msg = 0x4F1 then 4 else 8) ≤ getLen msg) :
    hyundaiGetCounter msg' = hyundaiGetCounter msg := by
  dsimp only [hyundaiGetCounter]
  rw [h.addr_eq]
  by_cases haddr : getAddr msg = 0x4F1
  · rw [if_pos haddr] at hlen
    simp (disch := omega) only [haddr, h.data]
  · rw [if_neg haddr] at hlen
    simp (disch := omega) only [h.data]

theorem hyundaiCanfdChecksum_congr (h : SameFrame msg msg') (hlen : 2 ≤ getLen msg)
    (lut : UInt8 → UInt16) :
    hyundaiCommonCanfdComputeChecksum lut msg' = hyundaiCommonCanfdComputeChecksum lut msg ∧
      hyundaiCanfdGetChecksum msg' = hyundaiCanfdGetChecksum msg := by
  constructor
  · dsimp only [hyundaiCommonCanfdComputeChecksum]
    rw [h.addr_eq, h.len_eq, foldl_range_congr (n := getLen msg - 2)]
    intro crc i hi
    rw [h.data (i + 2) (by omega)]
  · simp (disch := omega) only [hyundaiCanfdGetChecksum, h.byte_eq]

theorem hyundaiCanfdGetCounter_congr (h : SameFrame msg msg') (hlen : 3 ≤ getLen msg) :
    hyundaiCanfdGetCounter msg' = hyundaiCanfdGetCounter msg := by
  simp (disch := omega) only [hyundaiCanfdGetCounter, h.len_eq, h.data]

theorem chryslerChecksum_congr (h : SameFrame msg msg') (hlen : 1 ≤ getLen msg) :
    chryslerComputeChecksum msg' = chryslerComputeChecksum msg ∧
      chryslerGetChecksum msg' = chryslerGetChecksum msg := by
  constructor
  · dsimp only [chryslerComputeChecksum]
    rw [h.len_eq, foldl_range_congr (n := getLen msg - 1)]
    intro checksum i hi
    rw [h.data i (by omega)]
  · unfold chryslerGetChecksum
    rw [h.len_eq, h.data _ (by omega)]

theorem chryslerGetCounter_congr (h : SameFrame msg msg') (hlen : 7 ≤ getLen msg) :
    chryslerGetCounter msg' = chryslerGetCounter msg := by
  unfold chryslerGetCounter
  rw [h.data 6 (by omega)]

theorem subaruChecksum_congr (h : SameFrame msg msg') (hlen : 1 ≤ getLen msg) :
    subaruComputeChecksum msg' = subaruComputeChecksum msg ∧
      subaruGetChecksum msg' = subaruGetChecksum msg := by
  constructor
  · dsimp only [subaruComputeChecksum]
    rw [h.addr_eq, h.len_eq, foldl_range_congr (n := getLen msg - 1)]
    intro checksum i hi
    rw [h.data (i + 1) (by omega)]
  · unfold subaruGetChecksum
    rw [h.data 0 (by omega)]

theorem subaruGetCounter_congr (h : SameFrame msg msg') (hlen : 2 ≤ getLen msg) :
    subaruGetCounter msg' = subaruGetCounter msg := by
  unfold subaruGetCounter
  rw [h.data 1 (by omega)]

theorem volkswagenMqbGetCounter_congr (h : SameFrame msg msg') (hlen : 2 ≤ getLen msg) :
    volkswagenMqbGetCounter msg' = volkswagenMqbGetCounter msg := by
  unfold volkswagenMqbGetCounter
  rw [h.data 1 (by omega)]

theorem volkswagenMqbChecksum_congr (h : SameFrame msg msg') (hlen : 2 ≤ getLen msg)
    (lut : UInt8 → UInt8) :
    volkswagenMqbComputeCrc lut msg' = volkswagenMqbComputeCrc lut msg ∧
      volkswagenMqbGetChecksum msg' = volkswagenMqbGetChecksum msg := by
  constructor
  · dsimp only [volkswagenMqbComputeCrc]
    rw [h.addr_eq, h.len_eq, volkswagenMqbGetCounter_congr h hlen,
      foldl_range_congr (n := getLen msg - 1)]
    intro crc i hi
    rw [h.data (i + 1) (by omega)]
  · unfold volkswagenMqbGetChecksum
    rw [h.data 0 (by omega)]

theorem volkswagenPqChecksum_congr (h : SameFrame msg msg')
    (hlen : (if getAddr msg = msgMotor5 then 8 else 1) ≤ getLen msg) :
    volkswagenPqComputeChecksum msg' = volkswagenPqComputeChecksum msg ∧
      volkswagenPqGetChecksum msg' = volkswagenPqGetChecksum msg := by
  constructor
  · dsimp only [volkswagenPqComputeChecksum]
    rw [h.addr_eq, h.len_eq, foldl_range_congr (n := getLen msg)]
    intro checksum i hi
    rw [h.data i hi]
  · have hbyte : volkswagenPqChecksumByte (getAddr msg) < getLen msg := by
      unfold volkswagenPqChecksumByte
      split_ifs at hlen ⊢ <;> omega
    unfold volkswagenPqGetChecksum
    rw [h.addr_eq, h.data _ hbyte]

theorem volkswagenPqGetCounter_congr (h : SameFrame msg msg') (hlen : 3 ≤ getLen msg) :
    volkswagenPqGetCounter msg' = volkswagenPqGetCounter msg := by
  simp (disch := omega) only [volkswagenPqGetCounter, h.addr_eq, h.data]

/-! ### Validation -/

/-- The checks read the same of both frames where they are made. -/
structure SameChecks (hooks : SafetyHooks ModeParams ModeVars) (check : CanMsgCheck)
    (msg msg' : CANPacket) : Prop where
  checksum : ∀ compute get m, hooks.computeChecksum = some compute →
    hooks.getChecksum = some get → check.checkChecksum = true →
    compute m msg' = compute m msg ∧ get msg' = get msg
  counter : ∀ get, hooks.getCounter = some get → check.maxCounter ≠ 0 → get msg' = get msg
  qualityFlag : ∀ valid, hooks.getQualityFlagValid = some valid → check.qualityFlag = true →
    valid msg' = valid msg

theorem SameChecks.checkMsg_eq {hooks : SafetyHooks ModeParams ModeVars} {check : RxCheck}
    (h : SameChecks hooks check.selected msg msg') (m : ModeParams) (ts : UInt32) :
    checkMsg hooks m ts msg' check = checkMsg hooks m ts msg check := by
  have hchecksum : ∀ check' : RxCheck, check'.selected = check.selected →
      checkChecksum hooks m msg' check' = checkChecksum hooks m msg check' := by
    intro check' hselected
    unfold checkChecksum
    rw [hselected]
    cases hget : hooks.getChecksum with
    | none => rfl
    | some get =>
        cases hcompute : hooks.computeChecksum with
        | none => rfl
        | some compute =>
            cases hflag : check.selected.checkChecksum with
            | false => rfl
            | true =>
                obtain ⟨hsum, hsent⟩ := h.checksum compute get m hcompute hget hflag
                simp only [hsum, hsent]
  have hcounter : ∀ check' : RxCheck, check'.selected = check.selected →
      checkCounter hooks msg' check' = checkCounter hooks msg check' := by
    intro check' hselected
    unfold checkCounter
    rw [hselected]
    cases hget : hooks.getCounter with
    | none => rfl
    | some get =>
        by_cases hmax : check.selected.maxCounter > 0
        · have hne : check.selected.maxCounter ≠ 0 := by
            intro hzero
            rw [hzero] at hmax
            exact absurd hmax (by decide)
          simp only [h.counter get hget hne]
        · simp only [if_neg hmax]
  have hquality : ∀ check' : RxCheck, check'.selected = check.selected →
      checkQualityFlag hooks msg' check' = checkQualityFlag hooks msg check' := by
    intro check' hselected
    unfold checkQualityFlag
    rw [hselected]
    cases hget : hooks.getQualityFlagValid with
    | none => rfl
    | some valid =>
        cases hflag : check.selected.qualityFlag with
        | false => rfl
        | true =>
            have hvalue := h.qualityFlag valid hget hflag
            simp only [hvalue]
  unfold checkMsg
  rw [hchecksum (updateAddrTimestamp ts check) rfl,
    hcounter (checkChecksum hooks m msg (updateAddrTimestamp ts check)) rfl, hquality]
  exact (checkCounter_sameMessage hooks msg _).selected

/-- A message that has the length of its check is checked within it. -/
theorem sameChecks {id : HooksId} (h : SameFrame msg msg') {check : CanMsgCheck}
    (hof : check.isOf msg = true) (hcovered : Covers check.len (checkBranches id check)) :
    SameChecks (hooksOf id) check msg msg' := by
  simp only [CanMsgCheck.isOf, Bool.and_eq_true, beq_iff_eq] at hof
  obtain ⟨⟨haddr, -⟩, hlen⟩ := hof
  rw [← hlen] at hcovered
  cases id <;> simp only [checkBranches, covers_cons, bne_iff_ne, ← haddr] at hcovered
  case nooutput | elm327 | alloutput | body | gm | tesla | mazda | nissan | subaruPreglobal =>
    constructor <;> (intros; contradiction)
  case hondaNidec | hondaBosch =>
    constructor
    · rintro _ _ m ⟨⟩ ⟨⟩ hflag
      exact hondaChecksum_congr h (hcovered.1 hflag)
    · rintro _ ⟨⟩ hmax
      exact hondaGetCounter_congr h (hcovered.2.1 hmax)
    · rintro _ ⟨⟩
  case toyota =>
    constructor
    · rintro _ _ m ⟨⟩ ⟨⟩ hflag
      exact toyotaChecksum_congr h (hcovered.1 hflag)
    · rintro _ ⟨⟩
    · rintro _ ⟨⟩ hflag
      exact toyotaQualityFlag_congr h (hcovered.2.1 hflag)
  case ford =>
    constructor
    · rintro _ _ m ⟨⟩ ⟨⟩ hflag
      exact fordChecksum_congr h (hcovered.1 hflag)
    · rintro _ ⟨⟩ hmax
      exact fordGetCounter_congr h (hcovered.2.1 hmax)
    · rintro _ ⟨⟩ hflag
      exact fordQualityFlag_congr h (hcovered.2.2.1 hflag)
  case hyundai | hyundaiLegacy =>
    constructor
    · rintro _ _ m ⟨⟩ ⟨⟩ hflag
      exact hyundaiChecksum_congr h (hcovered.1 hflag)
    · rintro _ ⟨⟩ hmax
      exact hyundaiGetCounter_congr h (hcovered.2.1 hmax)
    · rintro _ ⟨⟩
  case hyundaiCanfd =>
    constructor
    · rintro _ _ m ⟨⟩ ⟨⟩ hflag
      exact hyundaiCanfdChecksum_congr h (hcovered.1 hflag) _
    · rintro _ ⟨⟩ hmax
      exact hyundaiCanfdGetCounter_congr h (hcovered.2.1 hmax)
    · rintro _ ⟨⟩
  case chrysler =>
    constructor
    · rintro _ _ m ⟨⟩ ⟨⟩ hflag
      exact chryslerChecksum_congr h (hcovered.1 hflag)
    · rintro _ ⟨⟩ hmax
      exact chryslerGetCounter_congr h (hcovered.2.1 hmax)
    · rintro _ ⟨⟩
  case subaru =>
    constructor
    · rintro _ _ m ⟨⟩ ⟨⟩ hflag
      exact subaruChecksum_congr h (hcovered.1 hflag)
    · rintro _ ⟨⟩ hmax
      exact subaruGetCounter_congr h (hcovered.2.1 hmax)
    · rintro _ ⟨⟩
  case volkswagenMqb =>
    constructor
    · rintro _ _ m ⟨⟩ ⟨⟩ hflag
      exact volkswagenMqbChecksum_congr h (hcovered.1 hflag) _
    · rintro _ ⟨⟩ hmax
      exact volkswagenMqbGetCounter_congr h (hcovered.2.1 hmax)
    · rintro _ ⟨⟩
  case volkswagenPq =>
    constructor
    · rintro _ _ m ⟨⟩ ⟨⟩ hflag
      exact volkswagenPqChecksum_congr h (hcovered.1 hflag)
    · rintro _ ⟨⟩ hmax
      exact volkswagenPqGetCounter_congr h (hcovered.2.1 hmax)
    · rintro _ ⟨⟩

theorem SameFrame.isOf_eq (h : SameFrame msg msg') (check : CanMsgCheck) :
    check.isOf msg' = check.isOf msg := by
  unfold CanMsgCheck.isOf
  rw [h.addr_eq, h.bus_eq, h.len_eq]

theorem SameFrame.getAddrCheckIndex_eq (h : SameFrame msg msg') (rxChecks : List RxCheck) :
    getAddrCheckIndex msg' rxChecks = getAddrCheckIndex msg rxChecks := by
  have hselect : selectVariant msg' = selectVariant msg := by
    funext check
    simp only [selectVariant, presentVariant, h.isOf_eq]
  induction rxChecks with
  | nil => rfl
  | cons check rest ih => simp only [getAddrCheckIndex, hselect, h.isOf_eq, ih]

/-- The length of every message that the entry names covers the checks of it. -/
def EntryCovered (id : HooksId) (check : RxCheck) : Prop :=
  ∀ j, Covers (check.variant j).len (checkBranches id (check.variant j))

instance (id : HooksId) (check : RxCheck) : Decidable (EntryCovered id check) :=
  inferInstanceAs (Decidable
    (∀ j, Covers (check.variant j).len (checkBranches id (check.variant j))))

theorem EntryCovered.of_msg {id : HooksId} {check check' : RxCheck} (h : EntryCovered id check)
    (hmsg : check'.msg = check.msg) : EntryCovered id check' := by
  intro j
  have hvariant : check'.variant j = check.variant j := by
    unfold RxCheck.variant
    rw [hmsg]
  rw [hvariant]
  exact h j

/-- Validation makes the same of two frames that agree within their length. -/
theorem rxMsgSafetyCheck_congr {id : HooksId} (h : SameFrame msg msg') {rxChecks : List RxCheck}
    (hcovered : ∀ check ∈ rxChecks, EntryCovered id check) (m : ModeParams) (ts : UInt32) :
    rxMsgSafetyCheck (hooksOf id) m ts msg' rxChecks =
      rxMsgSafetyCheck (hooksOf id) m ts msg rxChecks := by
  unfold rxMsgSafetyCheck
  rw [h.getAddrCheckIndex_eq]
  cases hlookup : getAddrCheckIndex msg rxChecks with
  | mk index after =>
      cases index with
      | none => rfl
      | some index =>
          have hindex : (getAddrCheckIndex msg rxChecks).1 = some index :=
            congrArg Prod.fst hlookup
          obtain ⟨check, hcheck, hselected, -, hof⟩ := getAddrCheckIndex_matched hindex
          rw [hlookup] at hselected
          have hentry : EntryCovered id (selectVariant msg check) :=
            (hcovered check (List.mem_of_getElem? hcheck)).of_msg (selectVariant_msg msg check)
          have hsame := (sameChecks h hof (hentry _)).checkMsg_eq m ts
          have hafter : after.modify index (checkMsg (hooksOf id) m ts msg') =
              after.modify index (checkMsg (hooksOf id) m ts msg) := by
            apply List.ext_getElem?
            intro i
            rw [List.getElem?_modify, List.getElem?_modify]
            by_cases hi : index = i
            · subst hi
              have hselected : after[index]? = some (selectVariant msg check) := hselected
              simp only [hselected, hsame, if_true, Option.map_eq_map, Option.map_some]
            · simp only [if_neg hi]
          simp only [hafter]

/-! ### The lists of checks -/

theorem init_rxChecks_covered (id : HooksId) (param : UInt16) (before : ModeParams)
    (v : ModeVars) :
    ∀ check ∈ ((hooksOf id).init param before v).cfg.rxChecks, EntryCovered id check := by
  cases id with
  | nooutput | elm327 | alloutput =>
      intro check hcheck
      cases hcheck
  | body | gm | mazda | nissan | subaruPreglobal =>
      intro check _ j
      exact covers_nil _
  | tesla =>
      intro check _ j
      exact covers_nil _
  | hondaNidec =>
      change ∀ check ∈ (if getFlag param.toNat 4 then hondaCommonNoScmFeedbackRxChecks 0
        else hondaCommonRxChecks 0), EntryCovered .hondaNidec check
      split_ifs <;> decide
  | hondaBosch =>
      change ∀ check ∈ (hondaBoschInit param before.honda v.honda).cfg.rxChecks,
        EntryCovered .hondaBosch check
      dsimp only [hondaBoschInit]
      split_ifs <;> decide
  | toyota =>
      change ∀ check ∈ toyotaCommonRxChecks (toyotaParams param).lta, EntryCovered .toyota check
      cases (toyotaParams param).lta <;> decide
  | ford =>
      change ∀ check ∈ fordRxChecks, EntryCovered .ford check
      decide
  | hyundai =>
      change ∀ check ∈ (hyundaiInit param).cfg.rxChecks, EntryCovered .hyundai check
      dsimp only [hyundaiInit]
      split_ifs <;> decide
  | hyundaiLegacy =>
      change ∀ check ∈ hyundaiCommonRxChecks true ++ [hyundaiScc12AddrCheck 0],
        EntryCovered .hyundaiLegacy check
      decide
  | hyundaiCanfd =>
      change ∀ check ∈ (hyundaiCanfdConfig (hyundaiCanfdCommonParams param)
        (hyundaiCanfdParams param)).rxChecks, EntryCovered .hyundaiCanfd check
      dsimp only [hyundaiCanfdConfig]
      split_ifs <;> decide
  | chrysler =>
      change ∀ check ∈ (chryslerInit param).cfg.rxChecks, EntryCovered .chrysler check
      unfold chryslerInit
      split_ifs <;> decide
  | subaru =>
      change ∀ check ∈ (subaruInit param).cfg.rxChecks, EntryCovered .subaru check
      dsimp only [subaruInit]
      split_ifs <;> decide
  | volkswagenMqb =>
      change ∀ check ∈ volkswagenMqbRxChecks, EntryCovered .volkswagenMqb check
      decide
  | volkswagenPq =>
      change ∀ check ∈ volkswagenPqRxChecks, EntryCovered .volkswagenPq check
      decide

end Panda.Safety
