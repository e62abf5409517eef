import Panda.Main.Machine

/-!
`drivers/bootkick.h`: the lines that boot and reset the SOM. A boot that is kicked
from standby and stays silent for twenty ticks ends in one reset of five ticks, once
for each power on.
-/

namespace Panda.Main

inductive BootState where
  | standby
  | bootkick
  | reset
deriving DecidableEq

/-- What one tick reads: its arguments, the harness, the write pointer of the serial
port to the SOM and `read_som_gpio`. -/
structure BootkickInput where
  ignition : Bool
  recentHeartbeat : Bool
  harnessStatus : HarnessStatus
  wPtrTx : UInt16
  somGpio : Bool

/-- The static variables of `bootkick_tick`, and `bootkick_reset_triggered`. -/
structure Bootkick where
  lastSerialPtr : UInt16 := 0
  waitingToBootCountdown : Nat := 0
  bootResetCountdown : Nat := 0
  harnessStatusPrev : HarnessStatus := .nc
  ignPrev : Bool := false
  bootState : BootState := .bootkick
  resetTriggered : Bool := false

/-- The state before the reset logic: bootkick on a rising edge of ignition or harness
insertion, standby once openpilot is up. -/
def requestedState (input : BootkickInput) (s : Bootkick) : BootState :=
  let harnessInserted := input.harnessStatus != s.harnessStatusPrev && input.harnessStatus != .nc
  if (input.ignition && !s.ignPrev) || harnessInserted then .bootkick
  else if input.recentHeartbeat then .standby
  else s.bootState

def somActive (input : BootkickInput) (s : Bootkick) : Bool :=
  input.wPtrTx != s.lastSerialPtr || input.somGpio

/-- `waiting_to_boot_countdown`, started by a bootkick from standby. -/
def startedCountdown (input : BootkickInput) (s : Bootkick) : Nat :=
  if !s.resetTriggered && requestedState input s == .bootkick && s.bootState == .standby then 20
  else s.waitingToBootCountdown

/-- `bootkick_tick`; the state that it leaves is what `set_bootkick` receives. -/
def bootkickTick (s : Bootkick) (input : BootkickInput) : Bootkick :=
  let requested := requestedState input s
  let waiting := startedCountdown input s
  let stopped := somActive input s || requested != .bootkick
  -- a countdown that is not stopped at one triggers the reset
  let resetting := if waiting == 1 && !stopped then 5 else s.bootResetCountdown
  let waiting := if waiting > 0 && stopped then 0 else waiting
  { lastSerialPtr := input.wPtrTx
    waitingToBootCountdown := waiting - 1
    bootResetCountdown := resetting - 1
    harnessStatusPrev := input.harnessStatus
    ignPrev := input.ignition
    bootState :=
      if resetting > 0 then .reset else if requested = .reset then .bootkick else requested
    resetTriggered := s.resetTriggered || resetting > 0 }

/-! ### Phases -/

/-- A bootkick is requested, and the SOM shows no activity. -/
def Silent (s : Bootkick) (input : BootkickInput) : Prop :=
  requestedState input s = .bootkick ∧ somActive input s = false

namespace Bootkick

structure Idle (s : Bootkick) : Prop where
  waiting : s.waitingToBootCountdown = 0
  resetting : s.bootResetCountdown = 0
  triggered : s.resetTriggered = false
  state : s.bootState ≠ .reset

structure Waiting (n : Nat) (s : Bootkick) : Prop where
  waiting : s.waitingToBootCountdown = n
  resetting : s.bootResetCountdown = 0
  triggered : s.resetTriggered = false
  state : s.bootState = .bootkick

structure Resetting (n : Nat) (s : Bootkick) : Prop where
  waiting : s.waitingToBootCountdown = 0
  resetting : s.bootResetCountdown = n
  triggered : s.resetTriggered = true
  state : s.bootState = .reset

structure Done (s : Bootkick) : Prop where
  waiting : s.waitingToBootCountdown = 0
  resetting : s.bootResetCountdown = 0
  triggered : s.resetTriggered = true
  state : s.bootState ≠ .reset

theorem requestedState_ne_reset {s : Bootkick} (hs : s.bootState ≠ .reset)
    (input : BootkickInput) : requestedState input s ≠ .reset := by
  simp only [requestedState]
  split
  · simp
  · split
    · simp
    · exact hs

/-- From idle, a silent bootkick out of standby starts the countdown. -/
theorem Idle.tick {s : Bootkick} (hs : s.Idle) (input : BootkickInput) :
    (bootkickTick s input).Idle ∨
      (s.bootState = .standby ∧ Silent s input ∧ (bootkickTick s input).Waiting 19) := by
  obtain ⟨hwaiting, hresetting, htriggered, hstate⟩ := hs
  cases hrequested : requestedState input s with
  | reset => exact absurd hrequested (requestedState_ne_reset hstate input)
  | standby =>
      left
      constructor <;>
        simp [bootkickTick, startedCountdown, hrequested, hwaiting, hresetting, htriggered]
  | bootkick =>
      cases hboot : s.bootState with
      | reset => exact absurd hboot hstate
      | bootkick =>
          left
          constructor <;>
            simp [bootkickTick, startedCountdown, hrequested, hboot, hwaiting, hresetting,
              htriggered]
      | standby =>
          cases hactive : somActive input s with
          | true =>
              left
              constructor <;>
                simp [bootkickTick, startedCountdown, hrequested, hboot, hactive, hresetting,
                  htriggered]
          | false =>
              right
              refine ⟨rfl, ⟨hrequested, hactive⟩, ?_⟩
              constructor <;>
                simp [bootkickTick, startedCountdown, hrequested, hboot, hactive, hresetting,
                  htriggered]

/-- Activity or another request than bootkick stops the countdown. -/
theorem Waiting.stopped {n : Nat} {s : Bootkick} (hs : s.Waiting (n + 1)) (input : BootkickInput) :
    (bootkickTick s input).Idle ∨ Silent s input := by
  obtain ⟨hwaiting, hresetting, htriggered, hstate⟩ := hs
  have hne : s.bootState ≠ .reset := by simp [hstate]
  cases hrequested : requestedState input s with
  | reset => exact absurd hrequested (requestedState_ne_reset hne input)
  | standby =>
      left
      constructor <;>
        simp [bootkickTick, startedCountdown, hrequested, hstate, hwaiting, hresetting, htriggered]
  | bootkick =>
      cases hactive : somActive input s with
      | false => exact .inr ⟨hrequested, hactive⟩
      | true =>
          left
          constructor <;>
            simp [bootkickTick, startedCountdown, hrequested, hactive, hstate, hwaiting,
              hresetting, htriggered]

theorem Waiting.tick {n : Nat} {s : Bootkick} (hs : s.Waiting (n + 2)) {input : BootkickInput}
    (hsilent : Silent s input) : (bootkickTick s input).Waiting (n + 1) := by
  obtain ⟨hwaiting, hresetting, htriggered, hstate⟩ := hs
  obtain ⟨hrequested, hactive⟩ := hsilent
  constructor <;>
    simp [bootkickTick, startedCountdown, hrequested, hactive, hstate, hwaiting, hresetting,
      htriggered]

theorem Waiting.last {s : Bootkick} (hs : s.Waiting 1) {input : BootkickInput}
    (hsilent : Silent s input) : (bootkickTick s input).Resetting 4 := by
  obtain ⟨hwaiting, hresetting, htriggered, hstate⟩ := hs
  obtain ⟨hrequested, hactive⟩ := hsilent
  constructor <;>
    simp [bootkickTick, startedCountdown, hrequested, hactive, hstate, hwaiting]

/-- While it is reset, the SOM is not watched. -/
theorem Resetting.tick {n : Nat} {s : Bootkick} (hs : s.Resetting (n + 1))
    (input : BootkickInput) : (bootkickTick s input).Resetting n := by
  obtain ⟨hwaiting, hresetting, htriggered, hstate⟩ := hs
  constructor <;> simp [bootkickTick, startedCountdown, hwaiting, hresetting, htriggered]

theorem Resetting.last {s : Bootkick} (hs : s.Resetting 0) (input : BootkickInput) :
    (bootkickTick s input).Done := by
  obtain ⟨hwaiting, hresetting, htriggered, hstate⟩ := hs
  cases hrequested : requestedState input s with
  | _ =>
      constructor <;>
        simp [bootkickTick, startedCountdown, hrequested, hwaiting, hresetting, htriggered]

theorem Done.tick {s : Bootkick} (hs : s.Done) (input : BootkickInput) :
    (bootkickTick s input).Done := by
  obtain ⟨hwaiting, hresetting, htriggered, hstate⟩ := hs
  have hne : requestedState input s ≠ .reset := requestedState_ne_reset hstate input
  constructor <;> simp [bootkickTick, startedCountdown, hwaiting, hresetting, htriggered, hne]

end Bootkick

/-! ### Since power on -/

def bootkickAt (inputs : Nat → BootkickInput) : Nat → Bootkick
  | 0 => {}
  | n + 1 => bootkickTick (bootkickAt inputs n) (inputs n)

def setBootkick (inputs : Nat → BootkickInput) (n : Nat) : BootState :=
  (bootkickAt inputs (n + 1)).bootState

def SilentAt (inputs : Nat → BootkickInput) (n : Nat) : Prop :=
  Silent (bootkickAt inputs n) (inputs n)

/-- A bootkick after standby at tick `k`, silent for `count` ticks. -/
structure SilentSince (inputs : Nat → BootkickInput) (k count : Nat) : Prop where
  standby : setBootkick inputs k = .standby
  silent : ∀ i < count, SilentAt inputs (k + 1 + i)
  bootkick : ∀ i < count, i < 19 → setBootkick inputs (k + 1 + i) = .bootkick

/-- No reset before tick `n`; a countdown that goes on counts the silent ticks. -/
structure BeforeReset (inputs : Nat → BootkickInput) (n : Nat) : Prop where
  never : ∀ m < n, setBootkick inputs m ≠ .reset
  phase : (bootkickAt inputs n).Idle ∨ ∃ k count, n = k + 1 + (count + 1) ∧ count < 19 ∧
    (bootkickAt inputs n).Waiting (19 - count) ∧ SilentSince inputs k (count + 1)

/-- The reset that followed the standby of tick `k`. -/
structure SinceReset (inputs : Nat → BootkickInput) (k n : Nat) : Prop where
  silent : SilentSince inputs k 20
  later : k + 20 < n
  block : ∀ m < n, setBootkick inputs m = .reset ↔ k + 20 ≤ m ∧ m < k + 25
  phase : (n ≤ k + 25 ∧ (bootkickAt inputs n).Resetting (k + 25 - n)) ∨
    (k + 25 < n ∧ (bootkickAt inputs n).Done)

section

variable {inputs : Nat → BootkickInput} {n : Nat}

theorem BeforeReset.snoc (h : BeforeReset inputs n) (hnext : setBootkick inputs n ≠ .reset) :
    ∀ m < n + 1, setBootkick inputs m ≠ .reset :=
  Nat.forall_lt_succ_right.mpr ⟨h.never, hnext⟩

theorem SilentSince.snoc {k count : Nat} (h : SilentSince inputs k count)
    (hsilent : SilentAt inputs (k + 1 + count))
    (hnext : count < 19 → setBootkick inputs (k + 1 + count) = .bootkick) :
    SilentSince inputs k (count + 1) := by
  constructor
  · exact h.standby
  · exact Nat.forall_lt_succ_right.mpr ⟨h.silent, hsilent⟩
  · exact Nat.forall_lt_succ_right.mpr ⟨h.bootkick, hnext⟩

/-- Before the reset, a tick idles, counts one silent tick more, or starts it. -/
theorem BeforeReset.tick (h : BeforeReset inputs n) :
    BeforeReset inputs (n + 1) ∨ ∃ k, SinceReset inputs k (n + 1) := by
  have hidle : (bootkickAt inputs (n + 1)).Idle → BeforeReset inputs (n + 1) :=
    fun hnext => ⟨h.snoc hnext.state, .inl hnext⟩
  rcases h.phase with hphase | ⟨k, count, rfl, hcount, hphase, hsince⟩
  · rcases hphase.tick (inputs n) with hnext | ⟨hstandby, hsilent, hnext⟩
    · exact .inl (hidle hnext)
    · left
      have hkick : setBootkick inputs n = .bootkick := hnext.state
      refine ⟨h.snoc (by simp [hkick]), .inr ?_⟩
      cases n with
      | zero => cases hstandby
      | succ k =>
          refine ⟨k, 0, rfl, by omega, hnext, ?_⟩
          refine SilentSince.snoc ⟨hstandby, ?_, ?_⟩ hsilent fun _ => hkick
          · intro i hi
            omega
          · intro i hi
            omega
  · obtain ⟨left, hleft⟩ : ∃ left, 19 - count = left + 1 := ⟨18 - count, by omega⟩
    rw [hleft] at hphase
    rcases hphase.stopped (inputs _) with hnext | hsilent
    · exact .inl (hidle hnext)
    · cases left with
      | succ left =>
          left
          have hnext := hphase.tick hsilent
          have hkick : setBootkick inputs (k + 1 + (count + 1)) = .bootkick := hnext.state
          refine ⟨h.snoc (by simp [hkick]), .inr ⟨k, count + 1, rfl, by omega, ?_, ?_⟩⟩
          · rw [show 19 - (count + 1) = left + 1 by omega]
            exact hnext
          · exact hsince.snoc hsilent fun _ => hkick
      | zero =>
          right
          have hcount : count = 18 := by omega
          subst hcount
          have hnext := hphase.last hsilent
          have hreset : setBootkick inputs (k + 1 + 19) = .reset := hnext.state
          refine ⟨k, hsince.snoc hsilent (by omega), by omega, ?_, .inl ⟨by omega, ?_⟩⟩
          · refine Nat.forall_lt_succ_right.mpr ⟨?_, ?_⟩
            · intro m hm
              exact iff_of_false (h.never m hm) (by omega)
            · exact iff_of_true hreset (by omega)
          · rw [show k + 25 - (k + 1 + (18 + 1) + 1) = 4 by omega]
            exact hnext

theorem SinceReset.tick {k : Nat} (h : SinceReset inputs k n) : SinceReset inputs k (n + 1) := by
  have hlater := h.later
  have hblock : (setBootkick inputs n = .reset ↔ k + 20 ≤ n ∧ n < k + 25) →
      ∀ m < n + 1, setBootkick inputs m = .reset ↔ k + 20 ≤ m ∧ m < k + 25 :=
    fun hnow => Nat.forall_lt_succ_right.mpr ⟨h.block, hnow⟩
  rcases h.phase with ⟨hn, hphase⟩ | ⟨hn, hphase⟩
  · rcases Nat.lt_or_eq_of_le hn with hlt | rfl
    · rw [show k + 25 - n = (k + 25 - (n + 1)) + 1 by omega] at hphase
      have hnext := hphase.tick (inputs n)
      have hreset : setBootkick inputs n = .reset := hnext.state
      exact ⟨h.silent, by omega, hblock (iff_of_true hreset (by omega)), .inl ⟨hlt, hnext⟩⟩
    · rw [Nat.sub_self] at hphase
      have hnext := hphase.last (inputs (k + 25))
      have hstate : setBootkick inputs (k + 25) ≠ .reset := hnext.state
      exact ⟨h.silent, by omega, hblock (iff_of_false hstate (by omega)), .inr ⟨by omega, hnext⟩⟩
  · have hnext := hphase.tick (inputs n)
    have hstate : setBootkick inputs n ≠ .reset := hnext.state
    exact ⟨h.silent, by omega, hblock (iff_of_false hstate (by omega)), .inr ⟨by omega, hnext⟩⟩

theorem before_or_since (inputs : Nat → BootkickInput) (n : Nat) :
    BeforeReset inputs n ∨ ∃ k, SinceReset inputs k n := by
  induction n with
  | zero =>
      left
      refine ⟨?_, .inl ⟨rfl, rfl, rfl, by simp [bootkickAt]⟩⟩
      intro m hm
      cases hm
  | succ n ih =>
      rcases ih with h | ⟨k, h⟩
      · exact h.tick
      · exact .inr ⟨k, h.tick⟩

theorem SinceReset.ticks {k : Nat} (h : SinceReset inputs k n) (m : Nat) :
    SinceReset inputs k (n + m) := by
  induction m with
  | zero => exact h
  | succ m ih => exact ih.tick

end

/-- The SOM is reset at most once, for five ticks that end a silent boot of twenty ticks
after standby, and the reset ends in bootkick or standby. -/
theorem bootkick_resets_once (inputs : Nat → BootkickInput) :
    (∀ n, setBootkick inputs n ≠ .reset) ∨
      ∃ k, SilentSince inputs k 20 ∧
        (∀ n, setBootkick inputs n = .reset ↔ k + 20 ≤ n ∧ n < k + 25) ∧
        (setBootkick inputs (k + 25) = .bootkick ∨ setBootkick inputs (k + 25) = .standby) := by
  rcases em (∀ n, BeforeReset inputs n) with hnever | hreset
  · left
    intro n
    exact (hnever (n + 1)).never n n.lt_succ_self
  · right
    obtain ⟨n, hn⟩ := not_forall.mp hreset
    obtain ⟨k, h⟩ := (before_or_since inputs n).resolve_left hn
    have hblock : ∀ m, setBootkick inputs m = .reset ↔ k + 20 ≤ m ∧ m < k + 25 := by
      intro m
      exact (h.ticks (m + 1)).block m (by omega)
    refine ⟨k, h.silent, hblock, ?_⟩
    have hafter : setBootkick inputs (k + 25) ≠ .reset := by
      rw [ne_eq, hblock]
      omega
    cases hstate : setBootkick inputs (k + 25) with
    | standby => exact .inr rfl
    | bootkick => exact .inl rfl
    | reset => exact absurd hstate hafter

end Panda.Main
