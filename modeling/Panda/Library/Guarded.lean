import Mathlib.Tactic

/-!
Guarded state updates and owned parts of a state. `guarded c f` is a statement
`if (c) { ... }` without an `else` branch. A function that is a sequence of
such statements is a composition of guarded updates, so what it leaves alone
and what it preserves is read off statement by statement. A `Lens` is the part
of a state that one component owns.
-/

namespace Panda.Library

variable {σ α : Type*}

/-- Run `f` when the condition holds and leave the state alone otherwise. -/
def guarded (c : Prop) [Decidable c] (f : σ → σ) (s : σ) : σ :=
  if c then f s else s

theorem guarded_of_pos {c : Prop} [Decidable c] (h : c) (f : σ → σ) (s : σ) :
    guarded c f s = f s := by
  simp [guarded, h]

theorem guarded_of_neg {c : Prop} [Decidable c] (h : ¬ c) (f : σ → σ) (s : σ) :
    guarded c f s = s := by
  simp [guarded, h]

/-- A predicate that the update establishes is preserved by the guarded one. -/
theorem guarded_preserves {c : Prop} [Decidable c] {f : σ → σ} {P : σ → Prop}
    {s : σ} (hf : c → P s → P (f s)) (hs : P s) : P (guarded c f s) := by
  unfold guarded
  split
  · rename_i hc
    exact hf hc hs
  · exact hs

/-- A relation that the update keeps is kept by the guarded one, which takes the
same branch in both states. -/
theorem guarded_relates {c : Prop} [Decidable c] {f : σ → σ} {R : σ → σ → Prop}
    {s t : σ} (hf : c → R s t → R (f s) (f t)) (h : R s t) :
    R (guarded c f s) (guarded c f t) := by
  unfold guarded
  split
  · rename_i hc
    exact hf hc h
  · exact h

/-- Two sequences of guarded updates under the same conditions are the same when
the updates are, each where its condition holds and in the state it runs in. -/
theorem guarded_congr_at {c : Prop} [Decidable c] {f g : σ → σ} {s t : σ} (hs : s = t)
    (hf : c → f t = g t) : guarded c f s = guarded c g t := by
  rw [hs]
  unfold guarded
  split
  · rename_i hc
    exact hf hc
  · rfl

theorem guarded_congr {c : Prop} [Decidable c] {f g : σ → σ} {s t : σ} (hs : s = t)
    (hf : c → ∀ s, f s = g s) : guarded c f s = guarded c g t :=
  guarded_congr_at hs fun hc => hf hc t

/-- The part `α` of a state `σ` that one component reads and writes. -/
structure Lens (σ α : Type*) where
  get : σ → α
  set : σ → α → σ
  get_set : ∀ s a, get (set s a) = a

attribute [simp] Lens.get_set

/-- The part of a component without variables of its own. -/
def Lens.unit : Lens σ Unit where
  get _ := ()
  set s _ := s
  get_set _ _ := rfl

end Panda.Library
