import Panda.Bootstub.Flasher
import Panda.Library.Transition

/-!
What the soft flasher writes. The pointer is null before the first unlock request of
a session, and it runs on to the end of the address space: the writes are where they
should be exactly if each comes after an unlock request and ends there at the latest.
-/

namespace Panda.Bootstub

open Comms Library

/-! ### The log -/

/-- The session was unlocked: since the last unlock request there was no reset. -/
def Unlocked (log : List FlashEntry) : Prop :=
  ∃ before after, log = before ++ .unlock :: after ∧ .reset ∉ after

/-- Each word was written to the application area, and after an unlock request of the
same session. -/
def WritesOk (mcu : Mcu) (log : List FlashEntry) : Prop :=
  ∀ before address data after, log = before ++ .write address data :: after →
    appStartAddress mcu ≤ address ∧ Unlocked before

theorem unlocked_unlock (log : List FlashEntry) : Unlocked (log ++ [.unlock]) :=
  ⟨log, [], rfl, List.not_mem_nil⟩

/-- A list that ends with another entry is split in front of that entry. -/
theorem append_singleton_split {log before after : List FlashEntry} {entry last : FlashEntry}
    (hne : last ≠ entry) (h : log ++ [last] = before ++ entry :: after) :
    ∃ rest, after = rest ++ [last] ∧ log = before ++ entry :: rest := by
  rcases List.eq_nil_or_concat after with rfl | ⟨rest, final, rfl⟩
  · obtain ⟨-, hlast⟩ := List.append_inj' h rfl
    exact absurd (List.cons.inj hlast).1 hne
  · rw [List.concat_eq_append] at h ⊢
    rw [← List.cons_append, ← List.append_assoc] at h
    obtain ⟨hlog, hlast⟩ := List.append_inj' h rfl
    exact ⟨rest, by rw [(List.cons.inj hlast).1], hlog⟩

theorem unlocked_append {log : List FlashEntry} {entry : FlashEntry} (hunlock : entry ≠ .unlock)
    (hreset : entry ≠ .reset) : Unlocked (log ++ [entry]) ↔ Unlocked log := by
  constructor
  · rintro ⟨before, after, hlog, hafter⟩
    obtain ⟨rest, rfl, hsplit⟩ := append_singleton_split hunlock hlog
    exact ⟨before, rest, hsplit, fun hin => hafter (List.mem_append_left _ hin)⟩
  · rintro ⟨before, after, rfl, hafter⟩
    refine ⟨before, after ++ [entry], List.append_assoc _ _ _, ?_⟩
    intro hin
    rcases List.mem_append.mp hin with hold | hnew
    · exact hafter hold
    · exact hreset (List.mem_singleton.mp hnew).symm

theorem not_unlocked_reset (log : List FlashEntry) : ¬ Unlocked (log ++ [.reset]) := by
  rintro ⟨before, after, hlog, hafter⟩
  obtain ⟨rest, rfl, -⟩ := append_singleton_split (fun heq => FlashEntry.noConfusion heq) hlog
  exact hafter (List.mem_append_right _ (List.mem_singleton_self _))

theorem writesOk_append {mcu : Mcu} {log : List FlashEntry} {entry : FlashEntry}
    (hwrite : ∀ address data, entry ≠ .write address data) :
    WritesOk mcu (log ++ [entry]) ↔ WritesOk mcu log := by
  constructor
  · rintro h before address data after rfl
    exact h before address data (after ++ [entry]) (List.append_assoc _ _ _)
  · intro h before address data after hlog
    obtain ⟨rest, -, hsplit⟩ := append_singleton_split (hwrite address data) hlog
    exact h before address data rest hsplit

theorem writesOk_write {mcu : Mcu} {log : List FlashEntry} {address : Nat} {data : UInt32} :
    WritesOk mcu (log ++ [.write address data]) ↔
      WritesOk mcu log ∧ appStartAddress mcu ≤ address ∧ Unlocked log := by
  constructor
  · intro h
    refine ⟨?_, h log address data [] rfl⟩
    rintro before address' data' after rfl
    exact h before address' data' _ (List.append_assoc _ _ _)
  · rintro ⟨h, hlast⟩ before address' data' after hlog
    rcases List.eq_nil_or_concat after with rfl | ⟨rest, final, rfl⟩
    · obtain ⟨rfl, hentry⟩ := List.append_inj' hlog rfl
      cases hentry
      exact hlast
    · rw [List.concat_eq_append, ← List.cons_append, ← List.append_assoc] at hlog
      obtain ⟨hsplit, -⟩ := List.append_inj' hlog rfl
      exact h before address' data' rest hsplit

/-! ### Steps -/

namespace Flasher

/-- What every session keeps: the pointer is that of a word, and the flag is up
exactly if the session was unlocked. -/
structure Tracked (f : Flasher) : Prop where
  aligned : f.progPtr % 4 = 0
  lt : f.progPtr < 2 ^ 32
  unlocked : f.unlocked = true ↔ Unlocked f.log

/-- The words go behind an unlock request, and end in the address space. -/
def Fits (mcu : Mcu) (count : Nat) (f : Flasher) : Prop :=
  count = 0 ∨ (f.unlocked = true ∧ appStartAddress mcu ≤ f.progPtr ∧ f.progPtr + 4 * count ≤ 2 ^ 32)

def Permits (mcu : Mcu) (f : Flasher) : Request → Prop
  | .control _ => True
  | .endpoint2 data => f.Fits mcu (data.length / 4)

variable {f : Flasher} {mcu : Mcu}

/-- Data that does not start with a word is shorter than one. -/
theorem length_lt_word {data : List UInt8}
    (hshort : ∀ b0 b1 b2 b3 later, data = b0 :: b1 :: b2 :: b3 :: later → False) :
    data.length < 4 := by
  match data, hshort with
  | [], _ => exact Nat.zero_lt_succ _
  | [_], _ => exact Nat.lt_of_sub_eq_succ rfl
  | [_, _], _ => exact Nat.lt_of_sub_eq_succ rfl
  | [_, _, _], _ => exact Nat.lt_succ_self _
  | b0 :: b1 :: b2 :: b3 :: later, hshort => exact absurd rfl (hshort b0 b1 b2 b3 later)

theorem words_length (data : List UInt8) : (words data).length = data.length / 4 := by
  fun_induction words data with
  | case1 b0 b1 b2 b3 data ih =>
      rw [List.length_cons, ih]
      simp only [List.length_cons]
      omega
  | case2 data hshort => exact (Nat.div_eq_of_lt (length_lt_word hshort)).symm

theorem Tracked.note {entry : FlashEntry} (h : f.Tracked) (hunlock : entry ≠ .unlock)
    (hreset : entry ≠ .reset) : (f.note entry).Tracked :=
  ⟨h.aligned, h.lt, h.unlocked.trans (unlocked_append hunlock hreset).symm⟩

theorem Tracked.next (address : Nat) (data : UInt32) (h : f.Tracked) :
    ({ f.flashWriteWord address data with progPtr := (f.progPtr + 4) % 2 ^ 32 } :
      Flasher).Tracked where
  aligned := by
    have haligned := h.aligned
    dsimp only
    omega
  lt := Nat.mod_lt _ (by decide)
  unlocked := (h.note (fun heq => FlashEntry.noConfusion heq)
    (fun heq => FlashEntry.noConfusion heq)).unlocked

theorem appStartAddress_pos (mcu : Mcu) : 0 < appStartAddress mcu := by
  cases mcu with
  | stm32f4 => decide
  | stm32h7 => decide

theorem appStartAddress_mod (mcu : Mcu) : appStartAddress mcu % 4 = 0 := by
  cases mcu with
  | stm32f4 => rfl
  | stm32h7 => rfl

theorem appStartAddress_lt (mcu : Mcu) : appStartAddress mcu < 2 ^ 32 := by
  cases mcu with
  | stm32f4 => decide
  | stm32h7 => decide

/-- The writes of a loop are fine exactly if those before were, and the loop fits. -/
theorem endpoint2Loop_writes (h : f.Tracked) (ws : List UInt32) :
    (endpoint2Loop ws f).Tracked ∧
      (WritesOk mcu (endpoint2Loop ws f).log ↔ WritesOk mcu f.log ∧ f.Fits mcu ws.length) := by
  induction ws generalizing f with
  | nil => exact ⟨h, (and_iff_left (.inl rfl)).symm⟩
  | cons word ws ih =>
      obtain ⟨htracked, hwrites⟩ := ih (h.next f.progPtr word)
      refine ⟨htracked, hwrites.trans ?_⟩
      have hpos := appStartAddress_pos mcu
      have haligned := h.aligned
      have hlt := h.lt
      simp only [flashWriteWord, note, writesOk_write, ← h.unlocked, Fits, List.length_cons]
      constructor
      · rintro ⟨⟨hbefore, hstart, hunlocked⟩, hrest⟩
        refine ⟨hbefore, .inr ⟨hunlocked, hstart, ?_⟩⟩
        rcases hrest with hnone | ⟨-, hnext, hend⟩
        · omega
        · omega
      · rintro ⟨hbefore, hnone | ⟨hunlocked, hstart, hend⟩⟩
        · exact absurd hnone (Nat.succ_ne_zero _)
        · refine ⟨⟨hbefore, hstart, hunlocked⟩, ?_⟩
          rcases Nat.eq_zero_or_pos ws.length with hnone | hsome
          · exact .inl hnone
          · exact .inr ⟨hunlocked, by omega, by omega⟩

/-- What a request does to the flasher: nothing, or it unlocks the session, erases a
sector or ends the session. -/
inductive ControlEffect (mcu : Mcu) (f : Flasher) : Flasher → Prop where
  | stays : ControlEffect mcu f f
  | unlocks {g : Flasher} (hlog : g.log = f.log) : ControlEffect mcu f
      ({ g with unlocked := true, progPtr := appStartAddress mcu }.note .unlock)
  | erases (sector : UInt8) : ControlEffect mcu f (f.note (.erase sector))
  | resets {g : Flasher} (hlog : g.log = f.log) : ControlEffect mcu f g.nvicSystemReset

theorem ControlEffect.ite {α : Type} {c : Prop} [Decidable c] {a b : α × Flasher}
    (ha : ControlEffect mcu f a.2) (hb : ControlEffect mcu f b.2) :
    ControlEffect mcu f (if c then a else b).2 := by
  split
  · exact ha
  · exact hb

theorem control_effect (d : Device) (req : ControlPacket) (f : Flasher) :
    ControlEffect d.mcu f (f.commsControlHandler d req).2 := by
  have hunlock : (if f.flashLocked then f.flashUnlock else f).log = f.log := by
    split
    · rfl
    · rfl
  have herase (sector : UInt8) :
      ControlEffect d.mcu f (f.flashEraseSector d.mcu sector f.unlocked).2 := by
    unfold flashEraseSector
    apply ControlEffect.ite
    · exact .erases sector
    · exact .stays
  unfold commsControlHandler
  dsimp only
  -- the requests in the order of the handler
  apply ControlEffect.ite
  · exact .stays
  apply ControlEffect.ite
  · exact .unlocks hunlock
  apply ControlEffect.ite
  · exact herase _
  apply ControlEffect.ite
  · exact .stays
  apply ControlEffect.ite
  · exact .stays
  apply ControlEffect.ite
  · exact .stays
  apply ControlEffect.ite
  · apply ControlEffect.ite
    · exact .resets rfl
    apply ControlEffect.ite
    · exact .resets rfl
    · exact .stays
  apply ControlEffect.ite
  · exact .stays
  apply ControlEffect.ite
  · exact .resets rfl
  · exact .stays

/-- A request writes no word. -/
theorem control_tracked (d : Device) (req : ControlPacket) (h : f.Tracked) :
    (f.commsControlHandler d req).2.Tracked ∧
      (WritesOk d.mcu (f.commsControlHandler d req).2.log ↔ WritesOk d.mcu f.log) := by
  have hwrites (entry : FlashEntry) (hwrite : ∀ address data, entry ≠ .write address data)
      {g : Flasher} (hlog : g.log = f.log) :
      WritesOk d.mcu (g.log ++ [entry]) ↔ WritesOk d.mcu f.log := by
    rw [hlog]
    exact writesOk_append hwrite
  have heffect := control_effect d req f
  generalize (f.commsControlHandler d req).2 = f' at heffect ⊢
  cases heffect with
  | stays => exact ⟨h, Iff.rfl⟩
  | unlocks hlog =>
      refine ⟨⟨appStartAddress_mod d.mcu, appStartAddress_lt d.mcu, ?_⟩,
        hwrites _ (fun _ _ heq => FlashEntry.noConfusion heq) hlog⟩
      exact iff_of_true rfl (unlocked_unlock _)
  | erases sector =>
      exact ⟨h.note (fun heq => FlashEntry.noConfusion heq) (fun heq => FlashEntry.noConfusion heq),
        hwrites _ (fun _ _ heq => FlashEntry.noConfusion heq) rfl⟩
  | resets hlog =>
      refine ⟨⟨rfl, Nat.two_pow_pos 32, ?_⟩,
        hwrites _ (fun _ _ heq => FlashEntry.noConfusion heq) hlog⟩
      exact iff_of_false Bool.false_ne_true (not_unlocked_reset _)

theorem step_tracked (d : Device) (f : Flasher) (req : Request) (h : f.Tracked) :
    (step d f req).Tracked ∧
      (WritesOk d.mcu (step d f req).log ↔ WritesOk d.mcu f.log ∧ f.Permits d.mcu req) := by
  cases req with
  | control req =>
      obtain ⟨htracked, hwrites⟩ := control_tracked d req h
      exact ⟨htracked, hwrites.trans (and_iff_left trivial).symm⟩
  | endpoint2 data =>
      rw [Permits, ← words_length]
      exact endpoint2Loop_writes h (words data)

theorem tracked_start : ({} : Flasher).Tracked where
  aligned := rfl
  lt := Nat.two_pow_pos 32
  unlocked := by
    refine iff_of_false Bool.false_ne_true ?_
    rintro ⟨before, after, hlog, -⟩
    exact absurd hlog.symm (List.append_ne_nil_of_right_ne_nil _ (List.cons_ne_nil _ _))

/-- From its start the flasher writes words only to the application area, and only
after an unlock request of the same session, in exactly the runs in which each write of
a word comes after an unlock request and does not go past the address space. -/
theorem writesOk_iff (d : Device) (reqs : List Request) :
    WritesOk d.mcu (run (step d) {} reqs).log ↔
      Along (step d) (fun f req => f.Permits d.mcu req) {} reqs := by
  have hrun := run_iff_along (I := Tracked) (P := fun f => WritesOk d.mcu f.log)
    (fun f req h => (step_tracked d f req h).1) (fun f req h => (step_tracked d f req h).2)
    tracked_start reqs
  refine hrun.trans (and_iff_right ?_)
  intro before address data after hlog
  exact absurd hlog.symm (List.append_ne_nil_of_right_ne_nil _ (List.cons_ne_nil _ _))

/-- A word that is sent before any unlock request is written at the null pointer. -/
theorem not_writesOk_locked :
    ¬ WritesOk .stm32h7
      (run (step ⟨.stm32h7, 0x07, [], [], [], []⟩) {} [.endpoint2 [1, 2, 3, 4]]).log := by
  intro h
  exact absurd (h [] 0 0x04030201 [] rfl).1 (by decide)

end Flasher

end Panda.Bootstub
