import Panda.Host.CanClient
import Panda.Library.Transition

/-!
Which frames a `CanClient` accepts. The filter changes the addresses of the
client while it runs: a functional address is given up for the first address to
respond. For 11-bit addresses it does so without a look at the bus.
-/

namespace Panda.Host

open Library

/-! ### Calls -/

inductive ClientCall where
  | next (gen : CanClient.Generator) (rx : List (List CanMessage))
  | send (msgs : List (List UInt8)) (rx : List (List CanMessage))

def clientStep (c : CanClient) : ClientCall → CanClient
  | .next gen rx => ({ c with port := { c.port with rx } }.next gen).2
  | .send msgs rx => ({ c with port := { c.port with rx } }.send msgs).2

namespace CanClient

variable {c : CanClient}

/-! ### One message -/

/-- The addresses that respond to a functional address. -/
def isResponse (txAddr addr : Nat) : Bool :=
  (txAddr == 0x7DF && addr ≥ 0x7E8 && addr ≤ 0x7EF) ||
    (txAddr == 0x18DB33F1 && addr ≥ 0x18DAF100 && addr ≤ 0x18DAF1FF)

def requestAddr (txAddr addr : Nat) : Nat :=
  if txAddr = 0x7DF then addr - 8 else 0x18DA00F1 + (addr <<< 8 &&& 0xFF00)

theorem recvFilter_response (bus : Nat) {addr : Nat} (h : isResponse c.txAddr addr = true) :
    c.recvFilter bus addr =
      (c.txAddr == 0x7DF || bus == c.bus,
        { c with txAddr := requestAddr c.txAddr addr, rxAddr := some addr }) := by
  unfold recvFilter requestAddr
  simp only [isResponse, Bool.or_eq_true, Bool.and_eq_true, beq_iff_eq, decide_eq_true_eq] at h
  rcases h with ⟨⟨htx, hlow⟩, hhigh⟩ | ⟨⟨htx, hlow⟩, hhigh⟩
  · simp [htx, hlow, hhigh]
  · simp [htx, hlow, hhigh]

theorem recvFilter_other (bus : Nat) {addr : Nat} (h : isResponse c.txAddr addr = false) :
    c.recvFilter bus addr =
      (c.txAddr != 0x7DF && (bus == c.bus && some addr == c.rxAddr), c) := by
  unfold recvFilter
  simp only [isResponse, Bool.or_eq_false_iff, Bool.and_eq_false_iff, beq_eq_false_iff_ne,
    decide_eq_false_iff_not, ne_eq] at h
  obtain ⟨hshort, hlong⟩ := h
  by_cases htx : c.txAddr = 0x7DF
  · have hnone : ¬ (addr ≥ 0x7E8 ∧ addr ≤ 0x7EF) := by omega
    simp [htx, hnone]
  · have hnone : ¬ (c.txAddr = 0x18DB33F1 ∧ addr ≥ 0x18DAF100 ∧ addr ≤ 0x18DAF1FF) := by omega
    simp [htx, hnone]

/-- Once switched, an address has no responses: it is physical. -/
theorem isResponse_requestAddr {txAddr first : Nat} (h : isResponse txAddr first = true)
    (addr : Nat) : isResponse (requestAddr txAddr first) addr = false ∧
      requestAddr txAddr first ≠ 0x7DF := by
  simp only [isResponse, Bool.or_eq_true, Bool.and_eq_true, beq_iff_eq, decide_eq_true_eq] at h
  have hmask : first <<< 8 &&& 0xFF00 ≤ 0xFF00 := Nat.and_le_right
  have hphysical : requestAddr txAddr first ≠ 0x7DF ∧ requestAddr txAddr first ≠ 0x18DB33F1 := by
    unfold requestAddr
    split <;> omega
  refine ⟨?_, hphysical.1⟩
  simp [isResponse, hphysical]

def carriesData (subAddr : Option UInt8) (msg : CanMessage) : Bool :=
  match msg.dat, subAddr with
  | [], _ => false
  | _ :: _, none => true
  | first :: _, some subAddr => first == subAddr

/-- What the loop does with one message after the filter gave `ours` and `c'`. -/
structure Buffered (ours : Bool) (c' after : CanClient) (msg : CanMessage) : Prop where
  txAddr : after.txAddr = c'.txAddr
  rxAddr : after.rxAddr = c'.rxAddr
  bus : after.bus = c'.bus
  subAddr : after.subAddr = c'.subAddr
  seen : after.seen = c'.seen
  accepted : after.accepted = c'.accepted ++
    if ours && carriesData c'.subAddr msg then [msg] else []

theorem bufferMsg_buffered {msg : CanMessage} {ours : Bool} {c' : CanClient}
    (h : { c with seen := c.seen ++ [msg] }.recvFilter msg.bus msg.address = (ours, c')) :
    Buffered ours c' (c.bufferMsg msg).2 msg := by
  unfold bufferMsg
  rw [h]
  obtain ⟨address, dat, bus⟩ := msg
  obtain ⟨txAddr, rxAddr, cbus, subAddr, rxBuff, port, seen, accepted⟩ := c'
  cases ours with
  | false => constructor <;> simp
  | true =>
      cases dat with
      | nil => constructor <;> simp [carriesData]
      | cons first rxData =>
          cases subAddr with
          | none => constructor <;> simp [carriesData, push]
          | some subAddr =>
              by_cases hsub : first = subAddr
              · constructor <;> simp [carriesData, push, hsub]
              · constructor <;> simp [carriesData, hsub]

/-! ### What a client has accepted -/

/-- A message that the client takes before any response to its functional
address: it comes from the address given to the constructor. -/
def takesEarly (c0 : CanClient) (msg : CanMessage) : Bool :=
  (c0.txAddr != 0x7DF && (msg.bus == c0.bus && some msg.address == c0.rxAddr)) &&
    carriesData c0.subAddr msg

/-- The first response is taken: on any bus for the 11-bit address. -/
def takesFirst (c0 : CanClient) (msg : CanMessage) : Bool :=
  (c0.txAddr == 0x7DF || msg.bus == c0.bus) && carriesData c0.subAddr msg

/-- No response came yet, and the addresses are those of the constructor. -/
structure Unswitched (c0 c : CanClient) : Prop where
  txAddr : c.txAddr = c0.txAddr
  rxAddr : c.rxAddr = c0.rxAddr
  none : ∀ msg ∈ c.seen, isResponse c0.txAddr msg.address = false
  accepted : c.accepted = c.seen.filter c0.takesEarly

/-- The client went over to the address of the first response. -/
structure Switched (c0 c : CanClient) (before : List CanMessage) (first : CanMessage)
    (after rest : List CanMessage) : Prop where
  txAddr : c.txAddr = requestAddr c0.txAddr first.address
  rxAddr : c.rxAddr = some first.address
  seen : c.seen = before ++ first :: after
  none : ∀ msg ∈ before, isResponse c0.txAddr msg.address = false
  response : isResponse c0.txAddr first.address = true
  accepted : c.accepted =
    before.filter c0.takesEarly ++ (if c0.takesFirst first then [first] else []) ++ rest
  rest : ∀ msg ∈ rest, msg.bus = c0.bus ∧ msg.address = first.address

structure History (c0 c : CanClient) : Prop where
  bus : c.bus = c0.bus
  subAddr : c.subAddr = c0.subAddr
  addresses : Unswitched c0 c ∨ ∃ before first after rest, Switched c0 c before first after rest

theorem Unswitched.msg {c0 : CanClient} (h : Unswitched c0 c) (hbus : c.bus = c0.bus)
    (hsub : c.subAddr = c0.subAddr) (msg : CanMessage) : History c0 (c.bufferMsg msg).2 := by
  by_cases hresponse : isResponse c0.txAddr msg.address = true
  · have hfilter := recvFilter_response (c := { c with seen := c.seen ++ [msg] })
      msg.bus (by rw [← h.txAddr] at hresponse; exact hresponse)
    have hmsg := bufferMsg_buffered hfilter
    refine ⟨hmsg.bus.trans hbus, hmsg.subAddr.trans hsub, .inr ⟨c.seen, msg, [], [], ?_⟩⟩
    constructor
    · rw [hmsg.txAddr, ← h.txAddr]
    · exact hmsg.rxAddr
    · exact hmsg.seen
    · exact h.none
    · exact hresponse
    · rw [hmsg.accepted, List.append_nil, ← h.accepted, takesFirst, ← h.txAddr, ← hbus, ← hsub]
    · intro m hm
      exact absurd hm List.not_mem_nil
  · rw [Bool.not_eq_true] at hresponse
    have hfilter := recvFilter_other (c := { c with seen := c.seen ++ [msg] })
      msg.bus (by rw [← h.txAddr] at hresponse; exact hresponse)
    have hmsg := bufferMsg_buffered hfilter
    refine ⟨hmsg.bus.trans hbus, hmsg.subAddr.trans hsub, .inl ?_⟩
    constructor
    · rw [hmsg.txAddr, ← h.txAddr]
    · exact hmsg.rxAddr.trans h.rxAddr
    · intro m hm
      rw [hmsg.seen] at hm
      rcases List.mem_append.mp hm with hold | hnew
      · exact h.none m hold
      · rw [List.mem_singleton.mp hnew]
        exact hresponse
    · rw [hmsg.accepted, hmsg.seen, List.filter_append, List.filter_singleton, ← h.accepted,
        takesEarly, ← h.txAddr, ← h.rxAddr, ← hbus, ← hsub, cond_eq_ite]

theorem Switched.msg {c0 : CanClient} {before after rest : List CanMessage} {first : CanMessage}
    (h : Switched c0 c before first after rest) (hbus : c.bus = c0.bus)
    (hsub : c.subAddr = c0.subAddr) (msg : CanMessage) : History c0 (c.bufferMsg msg).2 := by
  obtain ⟨hnone, hphysical⟩ := isResponse_requestAddr h.response msg.address
  rw [← h.txAddr] at hnone hphysical
  have hfilter := recvFilter_other (c := { c with seen := c.seen ++ [msg] }) msg.bus hnone
  have hmsg := bufferMsg_buffered hfilter
  refine ⟨hmsg.bus.trans hbus, hmsg.subAddr.trans hsub, .inr ⟨before, first, after ++ [msg],
    rest ++ if (msg.bus == c0.bus && some msg.address == some first.address) &&
      carriesData c0.subAddr msg then [msg] else [], ?_⟩⟩
  constructor
  · rw [hmsg.txAddr, ← h.txAddr]
  · exact hmsg.rxAddr.trans h.rxAddr
  · rw [hmsg.seen, h.seen, List.append_assoc, List.cons_append]
  · exact h.none
  · exact h.response
  · rw [hmsg.accepted, h.accepted, List.append_assoc (List.filter _ _ ++ _)]
    simp [hphysical, hbus, hsub, h.rxAddr]
  · intro m hm
    rcases List.mem_append.mp hm with hold | hnew
    · exact h.rest m hold
    · split at hnew
      · rename_i htaken
        rw [List.mem_singleton.mp hnew]
        simp only [Bool.and_eq_true, beq_iff_eq, Option.some.injEq] at htaken
        exact htaken.1
      · exact absurd hnew List.not_mem_nil

/-- The history is about the addresses and the logs only. -/
theorem History.frame {c0 : CanClient} (h : History c0 c) (rxBuff : List (List UInt8))
    (port : CanPort) : History c0 { c with rxBuff, port } := by
  refine ⟨h.bus, h.subAddr, ?_⟩
  rcases h.addresses with hunswitched | ⟨before, first, after, rest, hswitched⟩
  · exact .inl { hunswitched with }
  · exact .inr ⟨before, first, after, rest, { hswitched with }⟩

theorem History.keeps (c0 : CanClient) : Keeps (History c0) where
  msg c msg h := by
    rcases h.addresses with hunswitched | ⟨before, first, after, rest, hswitched⟩
    · exact hunswitched.msg h.bus h.subAddr msg
    · exact hswitched.msg h.bus h.subAddr msg
  rest c rxBuff rx h := h.frame rxBuff _

theorem History.step {c0 : CanClient} (h : History c0 c) (call : ClientCall) :
    History c0 (clientStep c call) := by
  cases call with
  | next gen rx => exact (History.keeps c0).next gen (h.frame c.rxBuff _)
  | send msgs rx =>
      apply (History.keeps c0).sendLoop
      · intro c dat hc
        exact hc.frame c.rxBuff _
      · exact h.frame c.rxBuff _

/-! ### Isolation -/

def functional (c0 : CanClient) : Prop := c0.txAddr = 0x7DF ∨ c0.txAddr = 0x18DB33F1

/-- All frames that were appended came on the bus of the client. With a
functional address they all came from one responder, and the client sends to
that responder since. -/
def Isolated (c0 c : CanClient) : Prop :=
  (∀ msg ∈ c.accepted, msg.bus = c0.bus) ∧
    (c0.functional → c.accepted ≠ [] → ∃ addr, c.rxAddr = some addr ∧
      c.txAddr = requestAddr c0.txAddr addr ∧ ∀ msg ∈ c.accepted, msg.address = addr)

def beforeResponse (c0 : CanClient) (msgs : List CanMessage) : List CanMessage :=
  msgs.takeWhile fun msg => !isResponse c0.txAddr msg.address

def firstResponse (c0 : CanClient) (msgs : List CanMessage) : Option CanMessage :=
  msgs.find? fun msg => isResponse c0.txAddr msg.address

/-- With the 11-bit address, the first response has no data or comes on the bus of
the client. With the 29-bit address, no frame comes before the first response from
a response address that was given to the constructor. -/
def FirstResponseFits (c0 : CanClient) (msgs : List CanMessage) : Prop :=
  (c0.txAddr = 0x7DF → ∀ first ∈ c0.firstResponse msgs,
    carriesData c0.subAddr first = true → first.bus = c0.bus) ∧
  (c0.txAddr = 0x18DB33F1 → ∀ msg ∈ c0.beforeResponse msgs, c0.takesEarly msg = false)

theorem takesEarly_bus {c0 : CanClient} {msg : CanMessage} (h : c0.takesEarly msg = true) :
    msg.bus = c0.bus := by
  simp only [takesEarly, Bool.and_eq_true, beq_iff_eq] at h
  exact h.1.2.1

theorem takesEarly_short {c0 : CanClient} (h : c0.txAddr = 0x7DF) (msg : CanMessage) :
    c0.takesEarly msg = false := by
  simp [takesEarly, h]

/-- Where the condition holds, a functional client takes nothing before the
response. -/
theorem FirstResponseFits.early {c0 : CanClient} {msgs : List CanMessage}
    (h : FirstResponseFits c0 msgs) (hfunctional : c0.functional) {msg : CanMessage}
    (hmsg : msg ∈ c0.beforeResponse msgs) : c0.takesEarly msg = false := by
  rcases hfunctional with hshort | hlong
  · exact takesEarly_short hshort msg
  · exact h.2 hlong msg hmsg

theorem Unswitched.isolated_iff {c0 : CanClient} (h : Unswitched c0 c) :
    Isolated c0 c ↔ FirstResponseFits c0 c.seen := by
  have hbefore : c0.beforeResponse c.seen = c.seen := by
    rw [beforeResponse, ← List.append_nil c.seen, List.takeWhile_append_of_pos, List.takeWhile_nil]
    intro msg hmsg
    rw [h.none msg hmsg, Bool.not_false]
  constructor
  · intro ⟨_, hresponder⟩
    refine ⟨?_, ?_⟩
    · intro _ first hfirst
      have hresponse := List.find?_some hfirst
      have hmem := List.mem_of_find?_eq_some hfirst
      rw [h.none first hmem] at hresponse
      exact absurd hresponse Bool.false_ne_true
    · intro hlong msg hmsg
      rw [hbefore] at hmsg
      by_contra htaken
      rw [Bool.not_eq_false] at htaken
      have hmem : msg ∈ c.accepted := by
        rw [h.accepted]
        exact List.mem_filter.mpr ⟨hmsg, htaken⟩
      obtain ⟨addr, _, htx, _⟩ := hresponder (.inr hlong) (List.ne_nil_of_mem hmem)
      have hmask : addr <<< 8 &&& 0xFF00 ≤ 0xFF00 := Nat.and_le_right
      rw [h.txAddr, hlong, requestAddr, if_neg (by omega)] at htx
      omega
  · intro hfits
    refine ⟨?_, ?_⟩
    · intro msg hmsg
      rw [h.accepted] at hmsg
      exact takesEarly_bus (List.mem_filter.mp hmsg).2
    · intro hfunctional hne
      obtain ⟨msg, hmsg⟩ := List.exists_mem_of_ne_nil _ hne
      rw [h.accepted] at hmsg
      obtain ⟨hseen, htaken⟩ := List.mem_filter.mp hmsg
      rw [hfits.early hfunctional (hbefore.symm ▸ hseen)] at htaken
      exact absurd htaken Bool.false_ne_true

theorem Switched.isolated_iff {c0 : CanClient} {before after rest : List CanMessage}
    {first : CanMessage} (h : Switched c0 c before first after rest) :
    Isolated c0 c ↔ FirstResponseFits c0 c.seen := by
  have hbefore : c0.beforeResponse c.seen = before := by
    rw [h.seen, beforeResponse, List.takeWhile_append_of_pos, List.takeWhile_cons_of_neg,
      List.append_nil]
    · rw [h.response]
      decide
    · intro msg hmsg
      rw [h.none msg hmsg, Bool.not_false]
  have hfirst : c0.firstResponse c.seen = some first := by
    rw [h.seen, firstResponse, List.find?_append, List.find?_eq_none.mpr, Option.none_or,
      List.find?_cons_of_pos]
    · exact h.response
    intro msg hmsg
    rw [h.none msg hmsg]
    exact Bool.false_ne_true
  constructor
  · intro ⟨hbus, hresponder⟩
    refine ⟨?_, ?_⟩
    · intro hshort msg hmsg hdata
      rw [hfirst, Option.mem_some_iff] at hmsg
      subst hmsg
      apply hbus
      have htaken : c0.takesFirst first = true := by simp [takesFirst, hshort, hdata]
      simp [h.accepted, htaken]
    · intro hlong msg hmsg
      rw [hbefore] at hmsg
      by_contra htaken
      rw [Bool.not_eq_false] at htaken
      have hmem : msg ∈ c.accepted := by
        rw [h.accepted, List.append_assoc]
        exact List.mem_append_left _ (List.mem_filter.mpr ⟨hmsg, htaken⟩)
      obtain ⟨addr, hrx, _, hall⟩ := hresponder (.inr hlong) (List.ne_nil_of_mem hmem)
      have haddr : msg.address = first.address := by
        rw [hall msg hmem]
        exact Option.some.inj (hrx.symm.trans h.rxAddr)
      have hother := h.none msg hmsg
      rw [haddr, h.response] at hother
      exact absurd hother.symm Bool.false_ne_true
  · intro hfits
    refine ⟨?_, ?_⟩
    · intro msg hmsg
      rw [h.accepted, List.append_assoc] at hmsg
      rcases List.mem_append.mp hmsg with hearly | hlater
      · exact takesEarly_bus (List.mem_filter.mp hearly).2
      rcases List.mem_append.mp hlater with hnow | hrest
      · split at hnow
        · rename_i htaken
          rw [List.mem_singleton.mp hnow]
          simp only [takesFirst, Bool.and_eq_true, Bool.or_eq_true, beq_iff_eq] at htaken
          obtain ⟨hshort | hown, hdata⟩ := htaken
          · exact hfits.1 hshort first hfirst hdata
          · exact hown
        · exact absurd hnow List.not_mem_nil
      · exact (h.rest msg hrest).1
    · intro hfunctional _
      refine ⟨first.address, h.rxAddr, h.txAddr, ?_⟩
      intro msg hmsg
      rw [h.accepted, List.append_assoc] at hmsg
      rcases List.mem_append.mp hmsg with hearly | hlater
      · obtain ⟨hmem, htaken⟩ := List.mem_filter.mp hearly
        rw [hfits.early hfunctional (hbefore.symm ▸ hmem)] at htaken
        exact absurd htaken Bool.false_ne_true
      rcases List.mem_append.mp hlater with hnow | hrest
      · split at hnow
        · rw [List.mem_singleton.mp hnow]
        · exact absurd hnow List.not_mem_nil
      · exact (h.rest msg hrest).2

theorem history_run (txAddr : Nat) (rxAddr : Option Nat) (bus : Nat) (subAddr : Option UInt8)
    (calls : List ClientCall) :
    History { txAddr, rxAddr, bus, subAddr }
      (run clientStep { txAddr, rxAddr, bus, subAddr } calls) := by
  apply run_invariant fun _ call hc => hc.step call
  refine ⟨rfl, rfl, .inl ⟨rfl, rfl, ?_, rfl⟩⟩
  intro msg hmsg
  exact absurd hmsg List.not_mem_nil

/-- After any calls of a client and any frames, the client is isolated exactly if
the first response fits. -/
theorem isolated_iff_firstResponseFits (txAddr : Nat) (rxAddr : Option Nat) (bus : Nat)
    (subAddr : Option UInt8) (calls : List ClientCall) :
    let c0 : CanClient := { txAddr, rxAddr, bus, subAddr }
    let c := run clientStep c0 calls
    Isolated c0 c ↔ FirstResponseFits c0 c.seen := by
  intro c0 c
  rcases (history_run txAddr rxAddr bus subAddr calls).addresses with
    hunswitched | ⟨before, first, after, rest, hswitched⟩
  · exact hunswitched.isolated_iff
  · exact hswitched.isolated_iff

/-- A client for 0x7DF on bus 0 appends the response that comes on bus 1. -/
theorem not_isolated_other_bus :
    ¬ ∀ (txAddr : Nat) (rxAddr : Option Nat) (bus : Nat) (subAddr : Option UInt8)
      (calls : List ClientCall),
      let c0 : CanClient := { txAddr, rxAddr, bus, subAddr }
      Isolated c0 (run clientStep c0 calls) := by
  intro h
  have hbus := (h 0x7DF none 0 none [.next (.created false) [[⟨0x7E8, [0x02, 0x50, 0x01], 1⟩]]]).1
    ⟨0x7E8, [0x02, 0x50, 0x01], 1⟩ (by decide)
  exact absurd hbus (by decide)

end CanClient

end Panda.Host
