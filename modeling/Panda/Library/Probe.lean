import Mathlib.Tactic

/-!
Open addressing: the search along a chain of cells for one that is not passed over,
with a bound on the number of steps. Since no cell that is passed over becomes free
again, a later search ends at the cell where an earlier one did.
-/

namespace Panda.Library

variable {κ : Type*}

/-- Follow the chain as long as the cells are passed over and tries are left. -/
def probe (next : κ → κ) (passed : κ → Bool) : Nat → κ → κ × Nat
  | 0, cell => (cell, 0)
  | tries + 1, cell =>
      if passed cell then probe next passed tries (next cell) else (cell, tries + 1)

/-- The cells that the search looks at. -/
def probed (next : κ → κ) (passed : κ → Bool) : Nat → κ → List κ
  | 0, cell => [cell]
  | tries + 1, cell =>
      cell :: if passed cell then probed next passed tries (next cell) else []

/-- The chain from `start` gets to the cell with less than `tries` steps, over cells that
are passed over, and goes no further. -/
def Settles (next : κ → κ) (passed : κ → Bool) (tries : Nat) (start cell : κ) : Prop :=
  ∃ n < tries, next^[n] start = cell ∧ (∀ j < n, passed (next^[j] start) = true) ∧
    passed cell = false

theorem mem_probed {next : κ → κ} {passed : κ → Bool} {tries : Nat} {start cell : κ} :
    cell ∈ probed next passed tries start ↔
      ∃ n ≤ tries, next^[n] start = cell ∧ ∀ j < n, passed (next^[j] start) = true := by
  induction tries generalizing start with
  | zero =>
      rw [probed, List.mem_singleton]
      constructor
      · rintro rfl
        exact ⟨0, Nat.le_refl 0, rfl, fun j hj => absurd hj (Nat.not_lt_zero j)⟩
      · rintro ⟨n, hn, rfl, -⟩
        rw [Nat.le_zero.mp hn]
        rfl
  | succ tries ih =>
      rw [probed, List.mem_cons]
      constructor
      · rintro (rfl | hlater)
        · exact ⟨0, Nat.zero_le _, rfl, fun j hj => absurd hj (Nat.not_lt_zero j)⟩
        · cases hpassed : passed start with
          | false =>
              rw [hpassed] at hlater
              cases hlater
          | true =>
              rw [hpassed, if_pos rfl] at hlater
              obtain ⟨n, hn, hcell, hchain⟩ := ih.mp hlater
              refine ⟨n + 1, Nat.succ_le_succ hn, hcell, ?_⟩
              exact Nat.forall_lt_succ_left.mpr ⟨hpassed, hchain⟩
      · rintro ⟨n, hn, hcell, hchain⟩
        cases n with
        | zero => exact .inl hcell.symm
        | succ n =>
            right
            obtain ⟨hpassed, hlater⟩ := Nat.forall_lt_succ_left.mp hchain
            have hpassed : passed start = true := hpassed
            rw [if_pos hpassed]
            exact ih.mpr ⟨n, Nat.le_of_succ_le_succ hn, hcell, hlater⟩

/-- A search with tries left has found the cell where the chain settles. -/
theorem settles_of_probe {next : κ → κ} {passed : κ → Bool} {tries : Nat} {start : κ}
    (h : (probe next passed tries start).2 ≠ 0) :
    Settles next passed tries start (probe next passed tries start).1 := by
  induction tries generalizing start with
  | zero => exact absurd rfl h
  | succ tries ih =>
      rw [probe] at h ⊢
      cases hpassed : passed start with
      | false =>
          rw [if_neg (by decide)]
          exact ⟨0, tries.succ_pos, rfl, fun j hj => absurd hj (Nat.not_lt_zero j), hpassed⟩
      | true =>
          rw [hpassed, if_pos rfl] at h
          obtain ⟨n, hn, hcell, hchain, hfree⟩ := ih h
          rw [if_pos rfl]
          refine ⟨n + 1, Nat.succ_lt_succ hn, hcell, ?_, hfree⟩
          exact Nat.forall_lt_succ_left.mpr ⟨hpassed, hchain⟩

/-- The search finds the cell where the chain settles. -/
theorem Settles.probe_eq {next : κ → κ} {passed : κ → Bool} {tries : Nat} {start cell : κ}
    (h : Settles next passed tries start cell) :
    (probe next passed tries start).1 = cell ∧ (probe next passed tries start).2 ≠ 0 := by
  obtain ⟨n, hn, hcell, hchain, hfree⟩ := h
  induction tries generalizing start n with
  | zero => exact absurd hn (Nat.not_lt_zero n)
  | succ tries ih =>
      rw [probe]
      cases n with
      | zero =>
          rw [show start = cell from hcell, hfree, if_neg (by decide)]
          exact ⟨rfl, tries.succ_ne_zero⟩
      | succ n =>
          obtain ⟨hpassed, hlater⟩ := Nat.forall_lt_succ_left.mp hchain
          have hpassed : passed start = true := hpassed
          rw [if_pos hpassed]
          exact ih n (Nat.lt_of_succ_lt_succ hn) hcell hlater

/-- A chain settles at one cell. -/
theorem Settles.unique {next : κ → κ} {passed : κ → Bool} {tries : Nat} {start cell cell' : κ}
    (h : Settles next passed tries start cell) (h' : Settles next passed tries start cell') :
    cell = cell' :=
  h.probe_eq.1.symm.trans h'.probe_eq.1

/-- Where more cells are passed over, but not the cell itself, the chain still settles there. -/
theorem Settles.mono {next : κ → κ} {passed passed' : κ → Bool} {tries : Nat} {start cell : κ}
    (h : Settles next passed tries start cell) (hmore : ∀ c, passed c = true → passed' c = true)
    (hcell : passed' cell = false) : Settles next passed' tries start cell := by
  obtain ⟨n, hn, hend, hchain, -⟩ := h
  exact ⟨n, hn, hend, fun j hj => hmore _ (hchain j hj), hcell⟩

/-- The search ends at one of the cells that it looks at. -/
theorem probe_mem_probed (next : κ → κ) (passed : κ → Bool) (tries : Nat) (start : κ) :
    (probe next passed tries start).1 ∈ probed next passed tries start := by
  induction tries generalizing start with
  | zero => exact List.mem_singleton_self start
  | succ tries ih =>
      rw [probe, probed]
      split
      · exact List.mem_cons_of_mem _ (ih (next start))
      · exact List.mem_cons_self

end Panda.Library
