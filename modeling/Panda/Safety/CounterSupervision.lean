import Panda.Safety.Session
import Mathlib.Data.List.Chain

/-!
The supervision of rolling counters. A counter out of sequence raises the number of
wrong counters of its entry by one, one in sequence lowers it, between zero and five.
Only the first counter of a sender is compared with one that it did not send itself,
so a sender that never counts is found out after six messages, and one that counts is
accepted after two.
-/

namespace Panda.Safety

open Library

/-- The counter that the entry expects after `counter`. -/
def nextCounter (maxCounter counter : UInt8) : UInt8 :=
  UInt8.ofNat ((counter.toNat + 1) % (maxCounter.toNat + 1))

/-- The entry after a sequence of counters. -/
def feedCounters : RxCheck → List UInt8 → RxCheck :=
  run fun check counter => updateCounter counter check

/-- Each counter follows the one before it. -/
def InSequence (maxCounter : UInt8) : List UInt8 → Prop :=
  List.IsChain fun counter next => next = nextCounter maxCounter counter

/-- No counter follows the one before it. -/
def NeverInSequence (maxCounter : UInt8) : List UInt8 → Prop :=
  List.IsChain fun counter next => next ≠ nextCounter maxCounter counter

/-! ### One counter -/

section

variable (counter : UInt8) (check : RxCheck)

@[simp] theorem updateCounter_selected :
    (updateCounter counter check).selected = check.selected := rfl

theorem updateCounter_bounds :
    0 ≤ (updateCounter counter check).status.wrongCounters ∧
      (updateCounter counter check).status.wrongCounters ≤ maxWrongCounters := by
  simp only [updateCounter, clamp, maxWrongCounters]
  split_ifs <;> omega

theorem updateCounter_matching {counter : UInt8} {check : RxCheck}
    (h : counter = nextCounter check.selected.maxCounter check.status.lastCounter) :
    (updateCounter counter check).status.wrongCounters =
      clamp (check.status.wrongCounters - 1) 0 maxWrongCounters := by
  simp [updateCounter, h, nextCounter, sub_eq_add_neg]

theorem updateCounter_mismatch {counter : UInt8} {check : RxCheck}
    (h : counter ≠ nextCounter check.selected.maxCounter check.status.lastCounter) :
    (updateCounter counter check).status.wrongCounters =
      clamp (check.status.wrongCounters + 1) 0 maxWrongCounters := by
  have hne : ¬ UInt8.ofNat ((check.status.lastCounter.toNat + 1) %
      (check.selected.maxCounter.toNat + 1)) = counter := fun heq => h heq.symm
  simp [updateCounter, hne]

end

/-! ### Sequences of counters -/

@[simp] theorem feedCounters_cons (check : RxCheck) (counter : UInt8) (counters : List UInt8) :
    feedCounters check (counter :: counters) =
      feedCounters (updateCounter counter check) counters := rfl

/-- The counters do not touch the other verdicts on the message. -/
theorem isMsgValid_feedCounters (check : RxCheck) (counters : List UInt8) :
    isMsgValid (feedCounters check counters) =
      (check.status.validChecksum && check.status.validQualityFlag &&
        (feedCounters check counters).status.wrongCounters < maxWrongCounters) := by
  have hframe := run_frame
    (fun check : RxCheck => (check.status.validChecksum, check.status.validQualityFlag))
    (fun check counter => (rfl : ((updateCounter counter check).status.validChecksum,
      (updateCounter counter check).status.validQualityFlag) =
        (check.status.validChecksum, check.status.validQualityFlag))) check counters
  rw [Prod.mk.injEq] at hframe
  rw [isMsgValid, feedCounters, hframe.1, hframe.2]

/-- After a message the number is in its range, whatever it was before. -/
theorem feedCounters_bounds (check : RxCheck) {counters : List UInt8} (h : counters ≠ []) :
    0 ≤ (feedCounters check counters).status.wrongCounters ∧
      (feedCounters check counters).status.wrongCounters ≤ maxWrongCounters := by
  cases counters with
  | nil => exact absurd rfl h
  | cons counter counters =>
      exact run_invariant (I := fun check : RxCheck =>
        0 ≤ check.status.wrongCounters ∧ check.status.wrongCounters ≤ maxWrongCounters)
        (fun check counter _ => updateCounter_bounds counter check)
        (updateCounter_bounds counter check) counters

/-- Without a match the number of wrong counters grows with every counter. -/
theorem feedCounters_neverInSequence {check : RxCheck} {counters : List UInt8}
    (h : NeverInSequence check.selected.maxCounter (check.status.lastCounter :: counters))
    (hwrong : 0 ≤ check.status.wrongCounters)
    (hwrong' : check.status.wrongCounters ≤ maxWrongCounters) :
    (feedCounters check counters).status.wrongCounters =
      min (check.status.wrongCounters + counters.length) maxWrongCounters := by
  induction counters generalizing check with
  | nil => simpa [feedCounters] using hwrong'
  | cons counter counters ih =>
      obtain ⟨hhead, htail⟩ := List.isChain_cons_cons.mp h
      obtain ⟨hnext, hnext'⟩ := updateCounter_bounds counter check
      have hrest := @ih (updateCounter counter check) htail hnext hnext'
      rw [feedCounters_cons, hrest, updateCounter_mismatch hhead, List.length_cons]
      simp only [clamp, maxWrongCounters] at hwrong' ⊢
      split_ifs <;> omega

/-- In sequence an accepted counter stays accepted. -/
theorem feedCounters_inSequence {check : RxCheck} {counters : List UInt8}
    (h : InSequence check.selected.maxCounter (check.status.lastCounter :: counters))
    (hwrong : check.status.wrongCounters < maxWrongCounters) :
    (feedCounters check counters).status.wrongCounters < maxWrongCounters := by
  induction counters generalizing check with
  | nil => exact hwrong
  | cons counter counters ih =>
      obtain ⟨hhead, htail⟩ := List.isChain_cons_cons.mp h
      apply @ih (updateCounter counter check) htail
      rw [updateCounter_matching hhead]
      simp only [clamp, maxWrongCounters] at hwrong ⊢
      split_ifs <;> omega

/-- A sender that never counts is found out by the sixth message. -/
theorem never_invalid {check : RxCheck} {counters : List UInt8}
    (h : NeverInSequence check.selected.maxCounter counters) (hlength : 6 ≤ counters.length) :
    isMsgValid (feedCounters check counters) = false := by
  cases counters with
  | nil => cases hlength
  | cons counter counters =>
      obtain ⟨hlow, hhigh⟩ := updateCounter_bounds counter check
      have hwrong :=
        @feedCounters_neverInSequence (updateCounter counter check) counters h hlow hhigh
      have hfull : ¬ (feedCounters (updateCounter counter check) counters).status.wrongCounters <
          maxWrongCounters := by
        rw [List.length_cons] at hlength
        rw [hwrong]
        simp only [maxWrongCounters]
        omega
      rw [isMsgValid_feedCounters, feedCounters_cons]
      simp [hfull]

/-- A sender that counts is accepted from the second message on. -/
theorem counting_valid {check : RxCheck} {counters : List UInt8}
    (h : InSequence check.selected.maxCounter counters) (hlength : 2 ≤ counters.length) :
    (feedCounters check counters).status.wrongCounters < maxWrongCounters := by
  match counters, hlength with
  | first :: second :: counters, _ =>
      obtain ⟨hhead, htail⟩ := List.isChain_cons_cons.mp h
      rw [feedCounters_cons, feedCounters_cons]
      apply @feedCounters_inSequence (updateCounter second (updateCounter first check)) _ htail
      obtain ⟨-, hfirst⟩ := updateCounter_bounds first check
      rw [updateCounter_matching hhead]
      simp only [clamp, maxWrongCounters] at hfirst ⊢
      split_ifs <;> omega

/-! ### Constant strides -/

/-- The counters of a sender that adds `stride` each time. -/
def strideCounters (maxCounter : UInt8) (stride : Nat) : Nat → UInt8 → List UInt8
  | 0, _ => []
  | n + 1, counter =>
      counter :: strideCounters maxCounter stride n
        (UInt8.ofNat ((counter.toNat + stride) % (maxCounter.toNat + 1)))

theorem strideCounters_length (maxCounter : UInt8) (stride n : Nat) (counter : UInt8) :
    (strideCounters maxCounter stride n counter).length = n := by
  induction n generalizing counter with
  | zero => rfl
  | succ n ih => rw [strideCounters, List.length_cons, ih]

/-- Another stride than one never hits the expected counter. -/
theorem stride_ne_next {maxCounter : UInt8} {stride : Nat} (hmax : 0 < maxCounter)
    (hstride : stride % (maxCounter.toNat + 1) ≠ 1) (counter : UInt8) :
    UInt8.ofNat ((counter.toNat + stride) % (maxCounter.toNat + 1)) ≠
      nextCounter maxCounter counter := by
  have hpos : 0 < maxCounter.toNat := hmax
  have hlt : maxCounter.toNat < 256 := maxCounter.toNat_lt
  intro heq
  have hmod := congrArg UInt8.toNat heq
  have hsmall : ∀ n, n % (maxCounter.toNat + 1) % 256 = n % (maxCounter.toNat + 1) := by
    intro n
    have hbound : n % (maxCounter.toNat + 1) < maxCounter.toNat + 1 := Nat.mod_lt n (by omega)
    exact Nat.mod_eq_of_lt (by omega)
  simp only [nextCounter, UInt8.toNat_ofNat', Nat.reducePow, hsmall] at hmod
  have hcancel : stride ≡ 1 [MOD maxCounter.toNat + 1] := Nat.ModEq.add_left_cancel' _ hmod
  rw [Nat.ModEq, Nat.mod_eq_of_lt (by omega : 1 < maxCounter.toNat + 1)] at hcancel
  exact hstride hcancel

theorem neverInSequence_stride {maxCounter : UInt8} {stride : Nat} (hmax : 0 < maxCounter)
    (hstride : stride % (maxCounter.toNat + 1) ≠ 1) (n : Nat) (counter : UInt8) :
    NeverInSequence maxCounter (strideCounters maxCounter stride n counter) := by
  induction n generalizing counter with
  | zero => exact .nil
  | succ n ih =>
      cases n with
      | zero => exact .singleton counter
      | succ n => exact List.isChain_cons_cons.mpr ⟨stride_ne_next hmax hstride counter, ih _⟩

/-! ### Supervision -/

/-- What the supervision of an entry tells of every sender, from every state of the
entry. The verdict on the counters is combined with those on checksum and quality. -/
theorem counter_supervision {check : RxCheck} (hmax : 0 < check.selected.maxCounter) :
    (∀ counters, counters ≠ [] → 0 ≤ (feedCounters check counters).status.wrongCounters ∧
      (feedCounters check counters).status.wrongCounters ≤ maxWrongCounters) ∧
    (∀ counters, NeverInSequence check.selected.maxCounter counters → 6 ≤ counters.length →
      isMsgValid (feedCounters check counters) = false) ∧
    (∀ stride n counter, stride % (check.selected.maxCounter.toNat + 1) ≠ 1 → 6 ≤ n →
      isMsgValid (feedCounters check
        (strideCounters check.selected.maxCounter stride n counter)) = false) ∧
    (∀ counters, InSequence check.selected.maxCounter (check.status.lastCounter :: counters) →
      isMsgValid check = true → isMsgValid (feedCounters check counters) = true) ∧
    ∀ counters, InSequence check.selected.maxCounter counters → 2 ≤ counters.length →
      isMsgValid (feedCounters check counters) =
        (check.status.validChecksum && check.status.validQualityFlag) := by
  refine ⟨fun counters => feedCounters_bounds check, fun counters => never_invalid, ?_, ?_, ?_⟩
  · intro stride n counter hstride hn
    apply never_invalid (neverInSequence_stride hmax hstride n counter)
    rwa [strideCounters_length]
  · intro counters hsequence hvalid
    simp only [isMsgValid, Bool.and_eq_true, decide_eq_true_eq] at hvalid
    obtain ⟨⟨hchecksum, hquality⟩, hwrong⟩ := hvalid
    rw [isMsgValid_feedCounters, hchecksum, hquality]
    simpa using feedCounters_inSequence hsequence hwrong
  · intro counters hsequence hlength
    rw [isMsgValid_feedCounters]
    simp [counting_valid hsequence hlength]

/-- An entry with a two bit counter that was last wrong. -/
def staleEntry : RxCheck where
  msg := #v[{ addr := 0xBE, bus := 0, len := 8, maxCounter := 3, frequency := 10 }, {}, {}]
  status := { wrongCounters := 5, validChecksum := true, validQualityFlag := true }

theorem counter_supervision_stale :
    (∀ counters, counters ≠ [] → 0 ≤ (feedCounters staleEntry counters).status.wrongCounters ∧
      (feedCounters staleEntry counters).status.wrongCounters ≤ maxWrongCounters) ∧
    (∀ counters, NeverInSequence staleEntry.selected.maxCounter counters → 6 ≤ counters.length →
      isMsgValid (feedCounters staleEntry counters) = false) ∧
    (∀ stride n counter, stride % (staleEntry.selected.maxCounter.toNat + 1) ≠ 1 → 6 ≤ n →
      isMsgValid (feedCounters staleEntry
        (strideCounters staleEntry.selected.maxCounter stride n counter)) = false) ∧
    (∀ counters,
      InSequence staleEntry.selected.maxCounter (staleEntry.status.lastCounter :: counters) →
      isMsgValid staleEntry = true → isMsgValid (feedCounters staleEntry counters) = true) ∧
    ∀ counters, InSequence staleEntry.selected.maxCounter counters → 2 ≤ counters.length →
      isMsgValid (feedCounters staleEntry counters) =
        (staleEntry.status.validChecksum && staleEntry.status.validQualityFlag) :=
  counter_supervision (by decide)

end Panda.Safety
