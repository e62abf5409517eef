import Mathlib.Tactic

/-!
Frames in a stream of symbols, where the first symbol of a frame tells how long
the frame is. A stream is cut into its complete frames and a rest, which may be
the start of one more frame. Cutting a stream that arrives in pieces, with the
rest of each piece carried over to the next, gives the frames of the whole.
-/

namespace Panda.Library

variable {α : Type*}

/-- The length of the frame that a symbol starts. -/
structure Framing (α : Type*) where
  need : α → Nat
  need_pos : ∀ a, 0 < need a

namespace Framing

variable (F : Framing α)

/-- The complete frames at the front of the stream, and what is left. -/
def split : List α → List (List α) × List α
  | [] => ([], [])
  | a :: rest =>
      if F.need a ≤ (a :: rest).length then
        let later := split ((a :: rest).drop (F.need a))
        ((a :: rest).take (F.need a) :: later.1, later.2)
      else ([], a :: rest)
termination_by stream => stream.length
decreasing_by
  have hpos := F.need_pos a
  simp only [List.length_drop, List.length_cons]
  omega

/-- A frame of the length that its first symbol tells. -/
def IsFrame (frame : List α) : Prop :=
  ∃ a rest, frame = a :: rest ∧ frame.length = F.need a

/-- Not a frame yet. -/
def Incomplete (stream : List α) : Prop :=
  ∀ a ∈ stream.head?, stream.length < F.need a

variable {F}

theorem split_incomplete_eq {stream : List α} (h : F.Incomplete stream) :
    F.split stream = ([], stream) := by
  cases stream with
  | nil => rw [split]
  | cons a rest =>
      have hshort : ¬ F.need a ≤ (a :: rest).length := by
        have hlt := h a rfl
        omega
      rw [split, if_neg hshort]

theorem split_complete_eq {a : α} {rest : List α} (h : F.need a ≤ (a :: rest).length) :
    F.split (a :: rest) =
      ((a :: rest).take (F.need a) :: (F.split ((a :: rest).drop (F.need a))).1,
        (F.split ((a :: rest).drop (F.need a))).2) := by
  rw [split, if_pos h]

theorem split_frame_append {frame : List α} (h : F.IsFrame frame) (stream : List α) :
    F.split (frame ++ stream) = (frame :: (F.split stream).1, (F.split stream).2) := by
  obtain ⟨a, rest, rfl, hlength⟩ := h
  have henough : F.need a ≤ (a :: (rest ++ stream)).length := by
    rw [← hlength]
    simp only [List.length_cons, List.length_append]
    omega
  rw [List.cons_append, split, if_pos henough, ← hlength, ← List.cons_append]
  rw [List.take_left, List.drop_left]

theorem split_flatten_append {frames : List (List α)} (h : ∀ frame ∈ frames, F.IsFrame frame)
    (stream : List α) :
    F.split (frames.flatten ++ stream) =
      (frames ++ (F.split stream).1, (F.split stream).2) := by
  induction frames with
  | nil => rfl
  | cons frame frames ih =>
      obtain ⟨hframe, hframes⟩ := List.forall_mem_cons.mp h
      rw [List.flatten_cons, List.append_assoc, split_frame_append hframe, ih hframes]
      rfl

variable (F)

theorem split_join (stream : List α) :
    (F.split stream).1.flatten ++ (F.split stream).2 = stream := by
  induction stream using split.induct F with
  | case1 => rw [split]; rfl
  | case2 a rest henough ih =>
      rw [split, if_pos henough]
      simp only [List.flatten_cons, List.append_assoc, ih]
      exact List.take_append_drop _ _
  | case3 a rest hshort => rw [split, if_neg hshort]; rfl

theorem split_frames (stream : List α) : ∀ frame ∈ (F.split stream).1, F.IsFrame frame := by
  induction stream using split.induct F with
  | case1 =>
      rw [split]
      intro frame hframe
      cases hframe
  | case2 a rest henough ih =>
      rw [split, if_pos henough]
      intro frame hframe
      rcases List.mem_cons.mp hframe with rfl | hlater
      · obtain ⟨n, hn⟩ := Nat.exists_eq_succ_of_ne_zero (F.need_pos a).ne'
        refine ⟨a, rest.take n, ?_, ?_⟩
        · rw [hn]
          rfl
        · rw [List.length_take]
          exact Nat.min_eq_left henough
      · exact ih frame hlater
  | case3 a rest hshort =>
      rw [split, if_neg hshort]
      intro frame hframe
      cases hframe

/-- A frame of the stream is behind other frames. -/
theorem exists_split_append {frame stream : List α} (h : frame ∈ (F.split stream).1) :
    ∃ (before : List (List α)) (after : List α), (∀ earlier ∈ before, F.IsFrame earlier) ∧
      stream = before.flatten ++ (frame ++ after) := by
  obtain ⟨before, later, hframes⟩ := List.append_of_mem h
  have hjoin := F.split_join stream
  refine ⟨before, later.flatten ++ (F.split stream).2, ?_, ?_⟩
  · intro earlier hearlier
    apply F.split_frames stream
    rw [hframes]
    exact List.mem_append_left _ hearlier
  · rw [hframes, List.flatten_append, List.flatten_cons] at hjoin
    simp only [List.append_assoc] at hjoin
    exact hjoin.symm

theorem split_rest (stream : List α) : F.Incomplete (F.split stream).2 := by
  induction stream using split.induct F with
  | case1 =>
      rw [split]
      intro a ha
      cases ha
  | case2 a rest henough ih =>
      rw [split, if_pos henough]
      exact ih
  | case3 a rest hshort =>
      rw [split, if_neg hshort]
      intro b hb
      cases hb
      exact Nat.lt_of_not_le hshort

/-- The rest is carried over to what comes next. -/
theorem split_append (stream more : List α) :
    F.split (stream ++ more) =
      ((F.split stream).1 ++ (F.split ((F.split stream).2 ++ more)).1,
        (F.split ((F.split stream).2 ++ more)).2) := by
  have hjoin : stream ++ more =
      (F.split stream).1.flatten ++ ((F.split stream).2 ++ more) := by
    rw [← List.append_assoc, split_join]
  rw [congrArg F.split hjoin, split_flatten_append (F.split_frames stream)]

end Framing

end Panda.Library
