import Mathlib.Tactic

/-!
Loops that may not end. The body of a loop gives the state of the next iteration or
the result, and a loop has a result only when enough iterations are allowed for it.
-/

namespace Panda.Library

variable {σ τ : Type*}

/-- A loop, run for less than `fuel` iterations. -/
def loop (body : σ → σ ⊕ τ) : Nat → σ → Option τ
  | 0, _ => none
  | fuel + 1, s =>
      match body s with
      | .inl next => loop body fuel next
      | .inr result => some result

theorem loop_next {body : σ → σ ⊕ τ} {s next : σ} (h : body s = .inl next) (fuel : Nat) :
    loop body (fuel + 1) s = loop body fuel next := by
  rw [loop, h]

theorem loop_exit {body : σ → σ ⊕ τ} {s : σ} {result : τ} (h : body s = .inr result) (fuel : Nat) :
    loop body (fuel + 1) s = some result := by
  rw [loop, h]

/-- A result is the same with more iterations. -/
theorem loop_mono {body : σ → σ ⊕ τ} {fuel more : Nat} {s : σ} {result : τ}
    (h : loop body fuel s = some result) (hle : fuel ≤ more) :
    loop body more s = some result := by
  induction fuel generalizing more s with
  | zero => cases h
  | succ fuel ih =>
      obtain ⟨more, rfl⟩ := Nat.exists_eq_add_of_le' (Nat.lt_of_lt_of_le fuel.succ_pos hle)
      cases hbody : body s with
      | inl next =>
          rw [loop_next hbody] at h ⊢
          exact ih h (Nat.le_of_succ_le_succ hle)
      | inr result' =>
          rw [loop_exit hbody] at h ⊢
          exact h

/-- A loop with a number that each iteration lowers ends. -/
theorem loop_ends {body : σ → σ ⊕ τ} (variant : σ → Nat)
    (hlower : ∀ s next, body s = .inl next → variant next < variant s) {fuel : Nat} {s : σ}
    (hfuel : variant s < fuel) : ∃ result, loop body fuel s = some result := by
  induction fuel generalizing s with
  | zero => exact absurd hfuel (Nat.not_lt_zero _)
  | succ fuel ih =>
      cases hbody : body s with
      | inl next =>
          have hnext := hlower s next hbody
          rw [loop_next hbody]
          exact ih (by omega)
      | inr result => exact ⟨result, loop_exit hbody fuel⟩

/-- A loop that can always go on has no result. -/
theorem loop_never {body : σ → σ ⊕ τ} {I : σ → Prop}
    (h : ∀ s, I s → ∃ next, body s = .inl next ∧ I next) {s : σ} (hs : I s) (fuel : Nat) :
    loop body fuel s = none := by
  induction fuel generalizing s with
  | zero => rfl
  | succ fuel ih =>
      obtain ⟨next, hbody, hnext⟩ := h s hs
      rw [loop_next hbody]
      exact ih hnext

end Panda.Library
