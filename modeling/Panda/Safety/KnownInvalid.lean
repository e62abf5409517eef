import Panda.Safety.Entries

/-!
Controls and entries that are known to be invalid. The validity of an entry is
tested when its own message is received and by the tick. Between two ticks a
message of another entry can turn controls on, and they stay on until the next
tick or the next message of the invalid entry.
-/

namespace Panda.Safety

open Library

/-- The entry has matched a message, and its last one left it invalid. -/
def KnownInvalid (i : Nat) (s : State) : Prop :=
  ∃ check, s.cfg.rxChecks[i]? = some check ∧ check.status.msgSeen = true ∧
    isMsgValid check = false

/-- The call tests the validity of the entry: it receives a message of the
entry, or it is a tick. -/
def TestsEntry (i : Nat) (s : State) : Event → Prop
  | .rx _ toPush => matchedIndex toPush s = some i
  | .tick _ => True
  | _ => False

/-- A received message of another entry, or of none, turns controls on while
the entry is known to be invalid. -/
structure EnabledByOther (i : Nat) (s : State) (e : Event) : Prop where
  invalid : KnownInvalid i s
  off : s.signals.controlsAllowed = false
  on : (step s e).signals.controlsAllowed = true
  other : ¬ TestsEntry i s e
  received : ∃ ts toPush, e = .rx ts toPush ∧ s.rxValid ts toPush = true

/-- The call leaves controls on without testing the entry. -/
structure LeavesOn (i : Nat) (s : State) (e : Event) : Prop where
  before : s.signals.controlsAllowed = true
  untested : ¬ TestsEntry i s e

/-- Controls were turned on while the entry was known to be invalid, and no
call has tested the entry since. -/
def EnabledWhileInvalid (i : Nat) (start : State) (events : List Event) : Prop :=
  ∃ first e rest, events = first ++ e :: rest ∧ EnabledByOther i (run step start first) e ∧
    Along step (LeavesOn i) (step (run step start first) e) rest

/-! ### One call -/

/-- After a call that tests the entry, controls are off or the entry is valid. -/
theorem tested_of_controls {i : Nat} {s : State} {e : Event} (htest : TestsEntry i s e)
    (hon : (step s e).signals.controlsAllowed = true) : ¬ KnownInvalid i (step s e) := by
  rintro ⟨check, hcheck, -, hinvalid⟩
  cases e with
  | rx ts toPush =>
      obtain ⟨entry, -, hentry, -, hverdict⟩ := rx_entry_matched ts htest
      have hsame : some (checkedEntry ts toPush s entry) = some check := hentry.symm.trans hcheck
      rw [Option.some.inj hsame, hinvalid] at hverdict
      have hsignals : (step s (.rx ts toPush)).signals = (s.rxSignals ts toPush).1 := rfl
      rw [hsignals, State.rxSignals, hverdict] at hon
      cases hon
  | tick ts =>
      have hvalid := (tick_controls hon check (List.mem_of_getElem? hcheck)).1
      rw [hinvalid] at hvalid
      cases hvalid
  | tx | fwd | modeSecond | exitUnused => exact htest

/-- A call that does not test the entry leaves it alone. -/
theorem untested_entry {i : Nat} {s : State} {e : Event} (htest : ¬ TestsEntry i s e) :
    (step s e).cfg.rxChecks[i]? = s.cfg.rxChecks[i]? := by
  cases e with
  | rx ts toPush => exact rx_entry_frame ts htest
  | tick ts => exact absurd trivial htest
  | tx | fwd | modeSecond | exitUnused => rfl

/-- Only a valid received message turns controls on. -/
theorem received_of_turned_on {s : State} {e : Event}
    (hoff : s.signals.controlsAllowed = false)
    (hon : (step s e).signals.controlsAllowed = true) :
    ∃ ts toPush, e = .rx ts toPush ∧ s.rxValid ts toPush = true := by
  cases e with
  | rx ts toPush =>
      refine ⟨ts, toPush, rfl, ?_⟩
      by_contra hinvalid
      have hsignals : (step s (.rx ts toPush)).signals = (s.rxSignals ts toPush).1 := rfl
      rw [hsignals, State.rxSignals, if_neg hinvalid] at hon
      cases hon
  | tx | fwd | modeSecond =>
      have hbefore : s.signals.controlsAllowed = true := hon
      rw [hoff] at hbefore
      cases hbefore
  | tick | exitUnused =>
      have hbefore := (Bool.and_eq_true_iff.mp hon).1
      rw [hoff] at hbefore
      cases hbefore

/-- If controls are on after a call with the entry known to be invalid, then
the entry was so before the call, and controls were on or the call turned them
on. -/
theorem step_knownInvalid {i : Nat} {s : State} {e : Event}
    (h : (step s e).signals.controlsAllowed = true ∧ KnownInvalid i (step s e)) :
    EnabledByOther i s e ∨
      ((s.signals.controlsAllowed = true ∧ KnownInvalid i s) ∧ LeavesOn i s e) := by
  obtain ⟨hon, hinvalid⟩ := h
  have htest : ¬ TestsEntry i s e := fun htest => tested_of_controls htest hon hinvalid
  have hbefore : KnownInvalid i s := by
    obtain ⟨check, hcheck, hseen⟩ := hinvalid
    rw [untested_entry htest] at hcheck
    exact ⟨check, hcheck, hseen⟩
  cases hcontrols : s.signals.controlsAllowed with
  | true => exact Or.inr ⟨⟨rfl, hbefore⟩, hcontrols, htest⟩
  | false =>
      exact Or.inl ⟨hbefore, hcontrols, hon, htest, received_of_turned_on hcontrols hon⟩

/-! ### Sessions -/

theorem setSafetyHooks_not_knownInvalid (mode param : UInt16) (before : State) (i : Nat) :
    ¬ KnownInvalid i (setSafetyHooks mode param before) := by
  rintro ⟨check, hcheck, hseen, -⟩
  rw [setSafetyHooks_reset mode param before check (List.mem_of_getElem? hcheck)] at hseen
  cases hseen

/-- In every session: a tick leaves controls on only with every entry valid,
and after any call controls are on beside an entry that is known to be invalid
only if they were turned on while it already was, and no call has tested the
entry since. -/
theorem controls_beside_known_invalid (mode param : UInt16) (before : State)
    (events : List Event) :
    (∀ ts, (safetyTick ts (session mode param before events)).signals.controlsAllowed = true →
        ∀ check ∈ (safetyTick ts (session mode param before events)).cfg.rxChecks,
          isMsgValid check = true) ∧
      ∀ i, (session mode param before events).signals.controlsAllowed = true →
        KnownInvalid i (session mode param before events) →
        EnabledWhileInvalid i (setSafetyHooks mode param before) events := by
  constructor
  · intro ts hon check hcheck
    exact (tick_controls hon check hcheck).1
  · intro i hon hinvalid
    have hstart : ¬ ((setSafetyHooks mode param before).signals.controlsAllowed = true ∧
        KnownInvalid i (setSafetyHooks mode param before)) :=
      fun h => setSafetyHooks_not_knownInvalid mode param before i h.2
    exact run_since (I := fun _ => True)
      (P := fun s : State => s.signals.controlsAllowed = true ∧ KnownInvalid i s)
      (fun _ _ _ => trivial) (fun _ _ _ h => step_knownInvalid h) trivial hstart ⟨hon, hinvalid⟩

/-- A Toyota sends its steering torque with a bad checksum, and then reports
cruise engaged with the gas pedal released. -/
def engagedAfterBadTorque : List Event :=
  [.rx 0 (.ofBytes 0x260 0 8 []),
   .rx 0 (.ofBytes 0x1D2 0 8 [0x30, 0, 0, 0, 0, 0, 0, 0x0B])]

theorem badTorque_known :
    KnownInvalid 1 (session safetyToyota 0 bootState engagedAfterBadTorque) := by
  have hentry : ((session safetyToyota 0 bootState engagedAfterBadTorque).cfg.rxChecks[1]?.map
      fun check => (check.status.msgSeen, isMsgValid check)) = some (true, false) := by decide
  obtain ⟨check, hcheck, hstatus⟩ := Option.map_eq_some_iff.mp hentry
  exact ⟨check, hcheck, congrArg Prod.fst hstatus, congrArg Prod.snd hstatus⟩

theorem controls_beside_known_invalid_toyota :
    EnabledWhileInvalid 1 (setSafetyHooks safetyToyota 0 bootState) engagedAfterBadTorque := by
  have hon : (session safetyToyota 0 bootState
      engagedAfterBadTorque).signals.controlsAllowed = true := by decide
  exact (controls_beside_known_invalid safetyToyota 0 bootState engagedAfterBadTorque).2 1 hon
    badTorque_known

theorem controls_on_with_bad_torque :
    ¬ ∀ mode param before events,
      (session mode param before events).signals.controlsAllowed = true →
      ∀ check ∈ (session mode param before events).cfg.rxChecks,
        check.status.msgSeen = true → isMsgValid check = true := by
  intro hall
  have hon : (session safetyToyota 0 bootState
      engagedAfterBadTorque).signals.controlsAllowed = true := by decide
  obtain ⟨check, hcheck, hseen, hinvalid⟩ := badTorque_known
  have hvalid := hall safetyToyota 0 bootState engagedAfterBadTorque hon check
    (List.mem_of_getElem? hcheck) hseen
  rw [hinvalid] at hvalid
  cases hvalid

end Panda.Safety
