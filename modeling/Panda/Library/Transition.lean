import Mathlib.Tactic

/-!
Finite runs of a deterministic machine: a step function on states and events,
and an observation of each step. An invariant is established by what one step
preserves, a conditional invariant by what a step preserves when the event
meets a side condition in the state before it, and two runs are compared by a
relation that one step of both keeps.
-/

namespace Panda.Library

variable {σ ε ο : Type*}

/-- The state after the events of a run. -/
def run (step : σ → ε → σ) : σ → List ε → σ
  | s, [] => s
  | s, e :: es => run step (step s e) es

@[simp] theorem run_nil (step : σ → ε → σ) (s : σ) : run step s [] = s := rfl

@[simp] theorem run_cons (step : σ → ε → σ) (s : σ) (e : ε) (es : List ε) :
    run step s (e :: es) = run step (step s e) es := rfl

theorem run_append (step : σ → ε → σ) (s : σ) (first second : List ε) :
    run step s (first ++ second) = run step (run step s first) second := by
  induction first generalizing s with
  | nil => rfl
  | cons e es ih => exact ih (step s e)

/-- An observation that every step leaves alone is the same after a run. -/
theorem run_frame {α : Type*} {step : σ → ε → σ} (g : σ → α)
    (hstep : ∀ s e, g (step s e) = g s) (s : σ) (es : List ε) :
    g (run step s es) = g s := by
  induction es generalizing s with
  | nil => rfl
  | cons e es ih => rw [run_cons, ih, hstep]

/-- An observation that only some events change, each by a step of its own, is after a
run what its own run makes of these events. -/
theorem run_project {τ δ : Type*} {step : σ → ε → σ} (step' : τ → δ → τ) (g : σ → τ)
    (f : ε → Option δ) (hstep : ∀ s e, g (step s e) = (f e).elim (g s) (step' (g s))) (s : σ)
    (es : List ε) : g (run step s es) = run step' (g s) (es.filterMap f) := by
  induction es generalizing s with
  | nil => rfl
  | cons e es ih =>
      rw [run_cons, ih, hstep]
      cases hf : f e with
      | none => rw [List.filterMap_cons_none hf, Option.elim_none]
      | some d => rw [List.filterMap_cons_some hf, Option.elim_some, run_cons]

/-- A state that each event replaces is the last event. -/
theorem run_replace (s : σ) (es : List σ) : run (fun _ e => e) s es = es.getLastD s := by
  induction es generalizing s with
  | nil => rfl
  | cons e es ih => rw [run_cons, ih, List.getLastD_cons]

/-- Every step of the run meets `ok` in the state before the step. -/
def Along (step : σ → ε → σ) (ok : σ → ε → Prop) : σ → List ε → Prop
  | _, [] => True
  | s, e :: es => ok s e ∧ Along step ok (step s e) es

instance Along.decidable {step : σ → ε → σ} {ok : σ → ε → Prop} [∀ s e, Decidable (ok s e)] :
    ∀ (s : σ) (es : List ε), Decidable (Along step ok s es)
  | _, [] => .isTrue trivial
  | s, e :: es => @instDecidableAnd _ _ _ (Along.decidable (step s e) es)

theorem Along.and {step : σ → ε → σ} {ok ok' : σ → ε → Prop} {s : σ} {es : List ε}
    (h : Along step ok s es) (h' : Along step ok' s es) :
    Along step (fun s e => ok s e ∧ ok' s e) s es := by
  induction es generalizing s with
  | nil => trivial
  | cons e es ih => exact ⟨⟨h.1, h'.1⟩, ih h.2 h'.2⟩

theorem Along.of_forall {step : σ → ε → σ} {ok : ε → Prop} {es : List ε} (h : ∀ e ∈ es, ok e)
    (s : σ) : Along step (fun _ e => ok e) s es := by
  induction es generalizing s with
  | nil => trivial
  | cons e es ih =>
      obtain ⟨hhead, htail⟩ := List.forall_mem_cons.mp h
      exact ⟨hhead, ih htail (step s e)⟩

/-- Under an invariant that the admissible steps keep, two conditions that agree on
each step agree on a run. -/
theorem along_congr {step : σ → ε → σ} {ok ok' : σ → ε → Prop} {I : σ → Prop} {good : ε → Prop}
    (hinv : ∀ s e, I s → ok s e → I (step s e)) (h : ∀ s e, I s → good e → (ok s e ↔ ok' s e))
    {s : σ} {es : List ε} (hI : I s) (hes : ∀ e ∈ es, good e) :
    Along step ok s es ↔ Along step ok' s es := by
  induction es generalizing s with
  | nil => exact Iff.rfl
  | cons e es ih =>
      obtain ⟨hhead, htail⟩ := List.forall_mem_cons.mp hes
      refine Iff.trans (and_congr_right ?_) (and_congr_left' (h s e hI hhead))
      intro hok
      exact ih (hinv s e hI hok) htail

/-- Under an invariant that admissible steps keep, every step of an admissible run
meets what the invariant and admissibility imply. -/
theorem Along.imp {step : σ → ε → σ} {ok ok' : σ → ε → Prop} {I : σ → Prop}
    (hinv : ∀ s e, ok s e → I s → I (step s e)) (h : ∀ s e, ok s e → I s → ok' s e) {s : σ}
    {es : List ε} (hok : Along step ok s es) (hI : I s) : Along step ok' s es := by
  induction es generalizing s with
  | nil => trivial
  | cons e es ih =>
      obtain ⟨hhead, htail⟩ := hok
      exact ⟨h s e hhead hI, ih htail (hinv s e hhead hI)⟩

theorem along_append {step : σ → ε → σ} {ok : σ → ε → Prop} {s : σ} {first second : List ε} :
    Along step ok s (first ++ second) ↔
      Along step ok s first ∧ Along step ok (run step s first) second := by
  induction first generalizing s with
  | nil => simp [Along]
  | cons e es ih =>
      simp only [List.cons_append, Along, run_cons, ih]
      exact and_assoc.symm

/-- A predicate that every admissible step preserves holds after a run of
admissible steps. -/
theorem run_preserves {step : σ → ε → σ} {ok : σ → ε → Prop} {P : σ → Prop}
    (hstep : ∀ s e, ok s e → P s → P (step s e)) {s : σ} {es : List ε}
    (hok : Along step ok s es) (hs : P s) : P (run step s es) := by
  induction es generalizing s with
  | nil => exact hs
  | cons e es ih =>
      obtain ⟨hhead, htail⟩ := hok
      exact ih htail (hstep s e hhead hs)

/-- An invariant holds after every run. -/
theorem run_invariant {step : σ → ε → σ} {I : σ → Prop} (hinv : ∀ s e, I s → I (step s e))
    {s : σ} (hI : I s) (es : List ε) : I (run step s es) := by
  induction es generalizing s with
  | nil => exact hI
  | cons e es ih => exact ih (hinv s e hI)

/-- A predicate that holds after a run and not before it was established by one
of the steps, and since then every step kept it quietly. -/
theorem run_since {step : σ → ε → σ} {I P : σ → Prop} {establishes quiet : σ → ε → Prop}
    (hinv : ∀ s e, I s → I (step s e))
    (hstep : ∀ s e, I s → P (step s e) → establishes s e ∨ (P s ∧ quiet s e)) {s : σ}
    {es : List ε} (hI : I s) (hs : ¬ P s) (h : P (run step s es)) :
    ∃ first e rest, es = first ++ e :: rest ∧ establishes (run step s first) e ∧
      Along step quiet (step (run step s first) e) rest := by
  induction es using List.reverseRecOn with
  | nil => exact absurd h hs
  | append_singleton es e ih =>
      rw [run_append] at h
      have hmid : I (run step s es) := run_invariant hinv hI es
      rcases hstep _ e hmid h with hnow | ⟨hbefore, hquiet⟩
      · exact ⟨es, e, [], rfl, hnow, trivial⟩
      · obtain ⟨first, e', rest, rfl, hestablished, halong⟩ := ih hbefore
        rw [run_append] at hquiet
        refine ⟨first, e', rest ++ [e], by simp, hestablished, ?_⟩
        apply along_append.mpr
        exact ⟨halong, hquiet, trivial⟩

/-- The predicate holds in the first state and after every step of the run. -/
def Always (step : σ → ε → σ) (P : σ → Prop) : σ → List ε → Prop
  | s, [] => P s
  | s, e :: es => P s ∧ Always step P (step s e) es

instance Always.decidable {step : σ → ε → σ} {P : σ → Prop} [DecidablePred P] :
    ∀ (s : σ) (es : List ε), Decidable (Always step P s es)
  | s, [] => inferInstanceAs (Decidable (P s))
  | s, e :: es => @instDecidableAnd _ _ _ (Always.decidable (step s e) es)

theorem Always.head {step : σ → ε → σ} {P : σ → Prop} {s : σ} {es : List ε}
    (h : Always step P s es) : P s := by
  cases es with
  | nil => exact h
  | cons e es => exact h.1

theorem Always.last {step : σ → ε → σ} {P : σ → Prop} {s : σ} {es : List ε}
    (h : Always step P s es) : P (run step s es) := by
  induction es generalizing s with
  | nil => exact h
  | cons e es ih => exact ih h.2

/-- Along a run of admissible steps an invariant that they keep holds all the time, with
what it implies. -/
theorem Along.always {step : σ → ε → σ} {ok : σ → ε → Prop} {I P : σ → Prop}
    (hinv : ∀ s e, ok s e → I s → I (step s e)) (h : ∀ s, I s → P s) {s : σ} {es : List ε}
    (hok : Along step ok s es) (hI : I s) : Always step P s es := by
  induction es generalizing s with
  | nil => exact h s hI
  | cons e es ih =>
      obtain ⟨hhead, htail⟩ := hok
      exact ⟨h s hI, ih htail (hinv s e hhead hI)⟩

/-- An invariant that holds as long as the predicate does holds all along with it. -/
theorem always_and_iff {step : σ → ε → σ} {I P : σ → Prop}
    (hinv : ∀ s e, I s → P s → P (step s e) → I (step s e)) {s : σ} {es : List ε} (hI : I s) :
    Always step (fun s => I s ∧ P s) s es ↔ Always step P s es := by
  induction es generalizing s with
  | nil => exact and_iff_right hI
  | cons e es ih =>
      constructor
      · rintro ⟨⟨-, hs⟩, htail⟩
        exact ⟨hs, (ih htail.head.1).mp htail⟩
      · rintro ⟨hs, htail⟩
        exact ⟨⟨hI, hs⟩, (ih (hinv s e hI hs htail.head)).mpr htail⟩

/-- Under an invariant, a predicate that a step keeps exactly when the step is
admissible holds all along exactly the runs of admissible steps. -/
theorem always_iff_along {step : σ → ε → σ} {ok : σ → ε → Prop} {I P : σ → Prop}
    (hinv : ∀ s e, I s → I (step s e))
    (hstep : ∀ s e, I s → P s → (P (step s e) ↔ ok s e)) {s : σ} {es : List ε}
    (hI : I s) (hs : P s) : Always step P s es ↔ Along step ok s es := by
  induction es generalizing s with
  | nil => exact ⟨fun _ => trivial, fun _ => hs⟩
  | cons e es ih =>
      have hhead : P (step s e) ↔ ok s e := hstep s e hI hs
      constructor
      · rintro ⟨-, htail⟩
        have hnext : P (step s e) := htail.head
        exact ⟨hhead.mp hnext, (ih (hinv s e hI) hnext).mp htail⟩
      · rintro ⟨hok, htail⟩
        exact ⟨hs, (ih (hinv s e hI) (hhead.mpr hok)).mpr htail⟩

/-- Under an invariant, a predicate that holds after a step exactly if it held before
and the step is admissible holds after exactly the runs of admissible steps. -/
theorem run_iff_along {step : σ → ε → σ} {ok : σ → ε → Prop} {I P : σ → Prop}
    (hinv : ∀ s e, I s → I (step s e))
    (hstep : ∀ s e, I s → (P (step s e) ↔ P s ∧ ok s e)) {s : σ} (hI : I s) (es : List ε) :
    P (run step s es) ↔ P s ∧ Along step ok s es := by
  induction es generalizing s with
  | nil => exact (and_iff_left trivial).symm
  | cons e es ih =>
      rw [run_cons, ih (hinv s e hI), hstep s e hI, and_assoc]
      exact Iff.rfl

/-- What a run shows to an observer, one observation for each step. -/
def trace (step : σ → ε → σ) (out : σ → ε → ο) : σ → List ε → List ο
  | _, [] => []
  | s, e :: es => out s e :: trace step out (step s e) es

/-- A relation of the history and the state that one more step keeps. -/
theorem trace_preserves {step : σ → ε → σ} {out : σ → ε → ο} {P : List ο → σ → Prop}
    (hstep : ∀ history s e, P history s → P (history ++ [out s e]) (step s e))
    {history : List ο} {s : σ} (h : P history s) (es : List ε) :
    P (history ++ trace step out s es) (run step s es) := by
  induction es generalizing history s with
  | nil =>
      rw [trace, List.append_nil]
      exact h
  | cons e es ih =>
      have hrest := ih (hstep history s e h)
      rw [List.append_assoc] at hrest
      exact hrest

/-- The last report of a run in which some steps report. -/
def lastReport (step : σ → ε → σ) (out : σ → ε → Option ο) (s : σ) (es : List ε) : Option ο :=
  ((trace step out s es).filterMap id).getLast?

theorem lastReport_cons (step : σ → ε → σ) (out : σ → ε → Option ο) (s : σ) (e : ε)
    (es : List ε) :
    lastReport step out s (e :: es) = (lastReport step out (step s e) es).or (out s e) := by
  simp only [lastReport, trace]
  cases hreport : out s e with
  | none => simp
  | some report =>
      rw [List.filterMap_cons_some (by rfl), List.getLast?_cons]
      cases ((trace step out (step s e) es).filterMap id).getLast? with
      | none => rfl
      | some last => rfl

/-- An observation that each report sets, and that a step without a report
leaves alone, is what the last report set. -/
theorem run_eq_lastReport {α : Type*} {step : σ → ε → σ} {out : σ → ε → Option ο} {g : σ → α}
    {f : ο → α} (hstep : ∀ s e, g (step s e) = ((out s e).map f).getD (g s)) (s : σ)
    (es : List ε) : g (run step s es) = ((lastReport step out s es).map f).getD (g s) := by
  induction es generalizing s with
  | nil => rfl
  | cons e es ih =>
      rw [run_cons, ih, hstep, lastReport_cons]
      cases lastReport step out (step s e) es with
      | none => rfl
      | some last => rfl

/-- A value that is kept beside a run and that the steps do not read. -/
def ghost {α : Type*} (step : σ → ε → σ) (f : σ → ε → α → α) : α → σ → List ε → α
  | a, _, [] => a
  | a, s, e :: es => ghost step f (f s e a) (step s e) es

theorem ghost_append {α : Type*} (step : σ → ε → σ) (f : σ → ε → α → α) (a : α) (s : σ)
    (first second : List ε) :
    ghost step f a s (first ++ second) =
      ghost step f (ghost step f a s first) (run step s first) second := by
  induction first generalizing a s with
  | nil => rfl
  | cons e es ih => exact ih (f s e a) (step s e)

/-- A relation of the value and the state that every admissible step keeps holds
after a run of admissible steps. -/
theorem ghost_preserves {α : Type*} {step : σ → ε → σ} {f : σ → ε → α → α} {ok : σ → ε → Prop}
    {P : α → σ → Prop} (hstep : ∀ a s e, ok s e → P a s → P (f s e a) (step s e)) {a : α} {s : σ}
    {es : List ε} (hok : Along step ok s es) (h : P a s) :
    P (ghost step f a s es) (run step s es) := by
  induction es generalizing a s with
  | nil => exact h
  | cons e es ih =>
      obtain ⟨hhead, htail⟩ := hok
      exact ih htail (hstep a s e hhead h)

/-- A trace that is cut in two is the trace of two runs in sequence. -/
theorem trace_eq_append {step : σ → ε → σ} {out : σ → ε → ο} {s : σ} {es : List ε}
    {first second : List ο} (h : trace step out s es = first ++ second) :
    ∃ es₁ es₂, es = es₁ ++ es₂ ∧ trace step out s es₁ = first ∧
      trace step out (run step s es₁) es₂ = second := by
  induction first generalizing s es with
  | nil => exact ⟨[], es, rfl, rfl, h⟩
  | cons o first ih =>
      cases es with
      | nil => cases h
      | cons e es =>
          rw [trace, List.cons_append, List.cons.injEq] at h
          obtain ⟨es₁, es₂, hes, hfirst, hsecond⟩ := ih h.2
          refine ⟨e :: es₁, es₂, by rw [hes]; rfl, ?_, hsecond⟩
          rw [trace, h.1, hfirst]

/-- Two states in a relation that one step of both keeps, and that makes each
step look the same, have equal traces on the same events. -/
theorem trace_eq_of_lockstep {step : σ → ε → σ} {out : σ → ε → ο} {ok : ε → Prop}
    {R : σ → σ → Prop} (hout : ∀ s t e, ok e → R s t → out s e = out t e)
    (hstep : ∀ s t e, ok e → R s t → R (step s e) (step t e)) {s t : σ} (h : R s t)
    {es : List ε} (hes : ∀ e ∈ es, ok e) : trace step out s es = trace step out t es := by
  induction es generalizing s t with
  | nil => rfl
  | cons e es ih =>
      obtain ⟨he, hes⟩ := List.forall_mem_cons.mp hes
      simp only [trace]
      rw [hout s t e he h, ih (hstep s t e he h) hes]

/-- Two machines in a relation that one step of both keeps on paired events, and that
makes each step look the same, have equal traces and end in the relation. -/
theorem lockstep_of_pairs {τ δ : Type*} {step : σ → ε → σ} {step' : τ → δ → τ} {out : σ → ε → ο}
    {out' : τ → δ → ο} {same : ε → δ → Prop} {R : σ → τ → Prop}
    (hstep : ∀ s t e e', same e e' → R s t →
      out s e = out' t e' ∧ R (step s e) (step' t e')) {s : σ} {t : τ} (h : R s t) {es : List ε}
    {es' : List δ} (hsame : List.Forall₂ same es es') :
    trace step out s es = trace step' out' t es' ∧ R (run step s es) (run step' t es') := by
  induction hsame generalizing s t with
  | nil => exact ⟨rfl, h⟩
  | cons he _ ih =>
      obtain ⟨hout, hnext⟩ := hstep s t _ _ he h
      obtain ⟨htrace, hend⟩ := ih hnext
      refine ⟨?_, hend⟩
      rw [trace, trace, hout, htrace]

/-- A machine that simulates another one looks the same on the same events. -/
theorem trace_eq_of_simulation {τ : Type*} {step : σ → ε → σ} {step' : τ → ε → τ}
    {out : σ → ε → ο} {out' : τ → ε → ο} {R : σ → τ → Prop}
    (hstep : ∀ s t e, R s t → out s e = out' t e ∧ R (step s e) (step' t e)) {s : σ} {t : τ}
    (h : R s t) (es : List ε) : trace step out s es = trace step' out' t es := by
  have hpairs : ∀ s t e e', e = e' → R s t → out s e = out' t e' ∧ R (step s e) (step' t e') := by
    rintro s t e _ rfl hR
    exact hstep s t e hR
  exact (lockstep_of_pairs hpairs h (List.forall₂_refl es)).1

/-- Two runs from one state, over events that are paired so that a step which
meets its side condition is the same for both, have equal traces. -/
theorem trace_eq_of_pairs {step : σ → ε → σ} {out : σ → ε → ο}
    {same : ε → ε → Prop} {ok : σ → ε → Prop} {I : σ → Prop}
    (hinv : ∀ s e, I s → I (step s e))
    (h : ∀ s e e', I s → same e e' → ok s e → step s e = step s e' ∧ out s e = out s e')
    {s : σ} {es es' : List ε} (hI : I s) (hsame : List.Forall₂ same es es')
    (hok : Along step ok s es) : trace step out s es = trace step out s es' := by
  induction hsame generalizing s with
  | nil => rfl
  | cons he _ ih =>
      obtain ⟨hhead, htail⟩ := hok
      obtain ⟨hstep, hout⟩ := h s _ _ hI he hhead
      have hrest := ih (hinv s _ hI) htail
      simp only [trace]
      rw [hrest, hout, hstep]

/-- How many steps of a run are of a kind. -/
def countAlong (step : σ → ε → σ) (kind : σ → ε → Bool) : σ → List ε → Nat
  | _, [] => 0
  | s, e :: es => (if kind s e then 1 else 0) + countAlong step kind (step s e) es

/-- A budget that every useful step lowers, and that only a wasted step can raise,
by one, bounds the useful steps of a run. -/
theorem countAlong_le_budget {step : σ → ε → σ} {useful wasted : σ → ε → Bool}
    {I : Nat → σ → Prop}
    (hstep : ∀ budget s e, I budget s → ∃ lower, I lower (step s e) ∧
      lower + (if useful s e then 1 else 0) ≤ budget + if wasted s e then 1 else 0)
    {budget : Nat} {s : σ} (hI : I budget s) (es : List ε) :
    (∃ lower, I lower (run step s es)) ∧
      countAlong step useful s es ≤ budget + countAlong step wasted s es := by
  induction es generalizing budget s with
  | nil => exact ⟨⟨budget, hI⟩, Nat.zero_le _⟩
  | cons e es ih =>
      obtain ⟨lower, hnext, hhead⟩ := hstep budget s e hI
      obtain ⟨hlast, htail⟩ := ih hnext
      refine ⟨hlast, ?_⟩
      simp only [countAlong]
      omega

end Panda.Library
