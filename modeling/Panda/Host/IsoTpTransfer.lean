import Panda.Host.Line
import Panda.Host.Segmentation

/-!
Two messages of `python/uds.py` on one line: a sender, and a receiver that is
only set up. What is in flight between them is one of a few phases, and each
frame that is taken leads from one phase to the next.
-/

namespace Panda.Host

/-! ### Phases of a transfer -/

/-- What is in flight: the single frame, the first frame, flow control after `idx`
consecutive frames, the consecutive frames from `next` up to `upto`, or nothing. -/
inductive TransferPhase where
  | single
  | first
  | asked (idx : Nat)
  | sent (next upto : Nat)
  | done

def singleFrame (maxLen : Nat) (dat : List UInt8) : List UInt8 :=
  ljust maxLen (.ofNat dat.length :: dat)

def firstFrame (maxLen : Nat) (dat : List UInt8) : List UInt8 :=
  ljust (maxLen - 2) ([.ofNat ((0x1000 ||| dat.length) >>> 8),
    .ofNat ((0x1000 ||| dat.length) &&& 0xFF)] ++ dat.take (maxLen - 2))

/-- Both sides agree on the frame length, which leaves room for the sub-address,
and the payload fits the length field. -/
structure IsoTpTransfer where
  line : Line
  maxLen : Nat
  dat : List UInt8
  oneByOne : Bool
  separationTime : UInt8
  physical : line.Physical
  lower : 3 ≤ maxLen
  upper : line.subAddr.toList.length + maxLen ≤ 8
  short : dat.length ≤ 4095

namespace IsoTpTransfer

variable (t : IsoTpTransfer)

def count : Nat := frameCount t.maxLen t.dat.length

def flowControl : List UInt8 :=
  ljust t.maxLen [0x30, if t.oneByOne then 0x01 else 0x00, t.separationTime]

def Occurs : TransferPhase → Prop
  | .single => t.dat.length < t.maxLen
  | .first => t.maxLen ≤ t.dat.length
  | .asked idx => t.maxLen ≤ t.dat.length ∧ idx < t.count
  | .sent next upto => t.maxLen ≤ t.dat.length ∧ next < upto ∧ upto ≤ t.count ∧
      upto = if t.oneByOne then next + 1 else t.count
  | .done => True

def toReceiver : TransferPhase → List (List UInt8)
  | .single => [singleFrame t.maxLen t.dat]
  | .first => [firstFrame t.maxLen t.dat]
  | .sent next upto => consecutiveFrames t.maxLen t.dat next (upto - next)
  | .asked _ | .done => []

def toSender : TransferPhase → List (List UInt8)
  | .asked _ => [t.flowControl]
  | .single | .first | .sent _ _ | .done => []

def unsent : TransferPhase → Nat
  | .first => 2 * t.count
  | .asked idx => 2 * (t.count - idx) - 1
  | .sent _ upto => 2 * (t.count - upto)
  | .single | .done => 0

def Sender (m : IsoTpMessage) : TransferPhase → Prop
  | .single | .done => m.txDone = true
  | .first => m.Sending t.maxLen t.dat 0 ∧ m.txDone = false
  | .asked idx => m.Sending t.maxLen t.dat idx ∧ m.txDone = false
  | .sent _ upto => m.Sending t.maxLen t.dat upto ∧ m.txDone = decide (t.count ≤ upto)

structure Receiving (idx : Nat) (m : IsoTpMessage) : Prop where
  rxDone : m.rxDone = false
  rxLen : m.rxLen = t.dat.length
  rxIdx : m.rxIdx = idx
  rxDat : m.rxDat = t.dat.take (t.maxLen - 2 + idx * (t.maxLen - 1))

def Receiver (m : IsoTpMessage) : TransferPhase → Prop
  | .single | .first => m.rxDone = false ∧ m.rxDat = []
  | .asked idx => t.Receiving idx m
  | .sent next _ => t.Receiving next m
  | .done => m.rxDone = true ∧ m.rxDat = t.dat

end IsoTpTransfer

/-! ### Frames -/

/-- A first byte carries the type of the frame and four bits of a number. -/
theorem frameByte : ∀ frameType < 4, ∀ number < 16,
    (UInt8.ofNat (16 * frameType + number)) >>> 4 = .ofNat frameType ∧
      (UInt8.ofNat (16 * frameType + number) &&& 0x0F).toNat = number := by
  decide

namespace IsoTpTransfer

variable {t : IsoTpTransfer} {m : IsoTpMessage}

theorem lt_count_iff (hlong : t.maxLen ≤ t.dat.length) (idx : Nat) :
    idx < t.count ↔ t.maxLen - 2 + idx * (t.maxLen - 1) < t.dat.length :=
  lt_frameCount_iff (Nat.le_of_succ_le t.lower) hlong idx

/-- The single frame ends the transfer. -/
theorem receive_single (hshort : t.dat.length < t.maxLen) (hmax : m.maxLen = t.maxLen)
    (hm : t.Receiver m .single) :
    m.isotpRxNext (singleFrame t.maxLen t.dat) = (.ok .single,
      { m with rxLen := t.dat.length, rxDat := t.dat, rxIdx := 0, rxDone := true }) := by
  have hlen : t.dat.length < 16 := by
    have hupper := t.upper
    omega
  obtain ⟨htype, hnumber⟩ := frameByte 0 (by decide) t.dat.length hlen
  rw [Nat.mul_zero, Nat.zero_add] at htype hnumber
  have hdat : (t.dat ++ List.replicate (t.maxLen - (t.dat.length + 1)) 0).take t.dat.length =
      t.dat := List.take_left
  simp only [IsoTpMessage.isotpRxNext, singleFrame, ljust, List.cons_append, List.length_cons,
    htype]
  rw [if_pos (by decide), IsoTpMessage.rxSingle, if_neg (not_not_intro (.inl hm.2))]
  simp only [hnumber, hmax, hshort, not_true_eq_false, if_false, List.drop_succ_cons,
    List.drop_zero, hdat]

theorem firstFrame_eq {maxLen : Nat} {dat : List UInt8} (hlower : 3 ≤ maxLen)
    (hlong : maxLen ≤ dat.length) (hshort : dat.length ≤ 4095) :
    firstFrame maxLen dat = .ofNat (16 * 1 + dat.length / 256) :: .ofNat (dat.length % 256) ::
      dat.take (maxLen - 2) := by
  have hhead : 0x1000 ||| dat.length = 0x1000 + dat.length :=
    (Nat.two_pow_add_eq_or_of_lt (i := 12) (by omega) 1).symm
  have hmask : 0x1000 + dat.length &&& 0xFF = (0x1000 + dat.length) % 256 :=
    Nat.and_two_pow_sub_one_eq_mod _ 8
  have hfirst : (0x1000 + dat.length) / 2 ^ 8 = 16 * 1 + dat.length / 256 := by omega
  have hsecond : (0x1000 + dat.length) % 256 = dat.length % 256 := by omega
  have hpad : maxLen - 2 - ((dat.take (maxLen - 2)).length + 1 + 1) = 0 := by
    rw [List.length_take]
    omega
  simp only [firstFrame, ljust, hhead, hmask, Nat.shiftRight_eq_div_pow, List.cons_append,
    List.nil_append, List.length_cons, hfirst, hsecond, hpad, List.replicate_zero,
    List.append_nil]

/-- The first frame is answered with flow control. -/
theorem receive_first (hlong : t.maxLen ≤ t.dat.length) (hmax : m.maxLen = t.maxLen)
    (hm : t.Receiver m .first) :
    m.isotpRxNext (firstFrame t.maxLen t.dat) = { m with
        rxLen := t.dat.length
        rxDat := t.dat.take (t.maxLen - 2)
        rxIdx := 0
        rxDone := false }.answer .first := by
  obtain ⟨htype, hnumber⟩ := frameByte 1 (by decide) (t.dat.length / 256)
    (by have hshort := t.short; omega)
  have hsecond : (UInt8.ofNat (t.dat.length % 256)).toNat = t.dat.length % 256 := by
    rw [UInt8.toNat_ofNat', Nat.mod_mod]
  have hlen : (t.dat.length / 256) <<< 8 + t.dat.length % 256 = t.dat.length := by
    rw [Nat.shiftLeft_eq]
    omega
  have hframe : (t.dat.take (t.maxLen - 2)).length + 1 + 1 = t.maxLen := by
    have hlower := t.lower
    rw [List.length_take]
    omega
  rw [firstFrame_eq t.lower hlong t.short]
  simp only [IsoTpMessage.isotpRxNext, htype]
  rw [if_neg (by decide), if_pos (by decide), IsoTpMessage.rxFirst,
    if_neg (not_not_intro (.inl hm.2))]
  simp only [List.getElem?_cons_succ, List.getElem?_cons_zero, hnumber, hsecond, hlen, hmax,
    ge_iff_le, hlong, not_true_eq_false, if_false, List.length_cons, hframe, ne_eq,
    List.drop_succ_cons, List.drop_zero]

/-- Consecutive frame `idx` carries the bytes that the receiver waits for. -/
theorem consecutiveFrame_take (hlong : t.maxLen ≤ t.dat.length) {idx : Nat} (hidx : idx < t.count) :
    t.dat.take (t.maxLen - 2 + idx * (t.maxLen - 1)) ++
        ((consecutiveFrame t.maxLen t.dat idx).drop 1).take
          (t.dat.length - (t.maxLen - 2 + idx * (t.maxLen - 1))) =
      t.dat.take (t.maxLen - 2 + (idx + 1) * (t.maxLen - 1)) := by
  have hstart := (lt_count_iff hlong _).mp hidx
  have hnext : t.maxLen - 2 + (idx + 1) * (t.maxLen - 1) =
      t.maxLen - 2 + idx * (t.maxLen - 1) + (t.maxLen - 1) := by
    rw [Nat.add_mul, Nat.one_mul, Nat.add_assoc]
  rw [consecutiveFrame_data, hnext, ← List.length_drop]
  generalize t.maxLen - 2 + idx * (t.maxLen - 1) = start
  rw [List.take_add]
  congr 1
  generalize t.dat.drop start = rest
  rcases Nat.le_total (t.maxLen - 1) rest.length with hfull | hlast
  · rw [ljust, List.length_take, Nat.min_eq_left hfull, Nat.sub_self, List.replicate_zero,
      List.append_nil, List.take_take, Nat.min_eq_right hfull]
  · rw [ljust, List.take_of_length_le hlast, List.take_left]

/-- A consecutive frame is put behind the data, and the last one ends the transfer. -/
theorem receive_consecutive (hlong : t.maxLen ≤ t.dat.length) {idx : Nat} (hidx : idx < t.count)
    (hm : t.Receiving idx m) :
    let after := { m with
      rxLen := t.dat.length
      rxDone := false
      rxIdx := idx + 1
      rxDat := t.dat.take (t.maxLen - 2 + (idx + 1) * (t.maxLen - 1)) }
    m.isotpRxNext (consecutiveFrame t.maxLen t.dat idx) =
      if t.count ≤ idx + 1 then (.ok .consecutive, { after with rxDone := true })
      else if m.singleFrameMode then after.answer .consecutive
      else (.ok .consecutive, after) := by
  have hmask : idx + 1 &&& 0xF = (idx + 1) % 16 := Nat.and_two_pow_sub_one_eq_mod _ 4
  have hbyte : 0x20 ||| (idx + 1) % 16 = 16 * 2 + (idx + 1) % 16 :=
    (Nat.two_pow_add_eq_or_of_lt (i := 5) (by omega) 1).symm
  obtain ⟨htype, hnumber⟩ := frameByte 2 (by decide) ((idx + 1) % 16) (by omega)
  have hdat := consecutiveFrame_take hlong hidx
  have hstart := (lt_count_iff hlong _).mp hidx
  have hend := (lt_count_iff hlong (idx + 1)).not
  have hhave : (t.dat.take (t.maxLen - 2 + idx * (t.maxLen - 1))).length =
      t.maxLen - 2 + idx * (t.maxLen - 1) := by
    rw [List.length_take, Nat.min_eq_left (Nat.le_of_lt hstart)]
  have hover : t.dat.length =
      (t.dat.take (t.maxLen - 2 + (idx + 1) * (t.maxLen - 1))).length ↔ t.count ≤ idx + 1 := by
    rw [List.length_take]
    omega
  intro after
  rw [consecutiveFrame, hmask, hbyte] at hdat ⊢
  simp only [ljust, List.cons_append, List.drop_succ_cons, List.drop_zero] at hdat ⊢
  simp only [IsoTpMessage.isotpRxNext, htype]
  rw [if_neg (by decide), if_neg (by decide), if_pos (by decide), IsoTpMessage.rxConsecutive,
    hm.rxDone, if_neg Bool.false_ne_true]
  simp only [hm.rxIdx, hmask, hnumber, ne_eq, not_true_eq_false, if_false, hm.rxLen, hm.rxDat,
    hhave, List.drop_succ_cons, List.drop_zero, hdat, hover]
  rfl

/-! ### Both sides -/

structure SetUp (t : IsoTpTransfer) (r : IsoTpMessage) : Prop where
  txDone : r.txDone = true
  maxLen : r.maxLen = t.maxLen
  singleFrameMode : r.singleFrameMode = t.oneByOne
  separationTime : r.separationTime = t.separationTime

/-- The sender `s` and the receiver `r` in a phase, with the frames that each has
still to take and those that it gave to its port. -/
structure Link (t : IsoTpTransfer) (phase : TransferPhase)
    (heardS sentS heardR sentR : List (List UInt8))
    (s r : IsoTpMessage) : Prop where
  occurs : t.Occurs phase
  sender : t.Sender s phase
  senderRx : s.rxDone = false
  senderOn : t.line.On heardS sentS s.canClient
  receiver : t.Receiver r phase
  setUp : t.SetUp r
  receiverOn : t.line.peer.On heardR sentR r.canClient
  toReceiver : heardR ++ sentS = t.toReceiver phase
  toSender : heardS ++ sentR = t.toSender phase

/-- A frame costs three while it is not sent or in the port of its side, and one
when it was delivered. A batch costs one. -/
def cost (t : IsoTpTransfer) (phase : TransferPhase) (heardS sentS heardR sentR : List (List UInt8))
    (s r : IsoTpMessage) : Nat :=
  3 * (t.unsent phase + sentS.length + sentR.length) + heardS.length + heardR.length +
    s.canClient.port.rx.length + r.canClient.port.rx.length

def Linked (t : IsoTpTransfer) (budget : Nat) (s r : IsoTpMessage) : Prop :=
  ∃ phase heardS sentS heardR sentR, t.Link phase heardS sentS heardR sentR s r ∧
    t.cost phase heardS sentS heardR sentR s r = budget

variable {s r : IsoTpMessage} {heardS sentS heardR sentR : List (List UInt8)}

theorem canSend_on {l : Line} (hl : l.Physical) {heard sent : List (List UInt8)}
    (msgs : List (List UInt8)) (hon : l.On heard sent m.canClient)
    (hmsgs : ∀ msg ∈ msgs, l.subAddr.toList.length + msg.length ≤ 8) :
    ∃ after, m.canSend msgs = (none, { m with canClient := after }) ∧
      l.On heard (sent ++ msgs) after ∧
      after.port.rx.length ≤ m.canClient.port.rx.length := by
  obtain ⟨after, hsend, hafter⟩ := hon.sendLoop hl 0 hmsgs
  refine ⟨after, ?_, hafter⟩
  rw [IsoTpMessage.canSend, CanClient.send, hsend]

/-- The receiver asks for the next frames. -/
theorem SetUp.answer (h : t.SetUp r) (hon : t.line.peer.On heardR sentR r.canClient)
    (frameType : IsoTpFrameType) :
    ∃ after, r.answer frameType = (.ok frameType, { r with canClient := after }) ∧
      t.line.peer.On heardR (sentR ++ [t.flowControl]) after ∧
      after.port.rx.length ≤ r.canClient.port.rx.length := by
  have hflow : r.flowControlMsg = t.flowControl := by
    rw [IsoTpMessage.flowControlMsg, h.maxLen, h.singleFrameMode, h.separationTime, flowControl]
  have hlen : t.flowControl.length = t.maxLen := by
    have hlower := t.lower
    simp only [flowControl, ljust, List.length_append, List.length_replicate, List.length_cons,
      List.length_nil]
    omega
  obtain ⟨after, hsend, hafter⟩ := canSend_on t.physical.peer
    [r.flowControlMsg] hon (by
      intro msg hmsg
      rw [List.mem_singleton.mp hmsg, hflow, hlen]
      exact t.upper)
  rw [hflow] at hafter
  refine ⟨after, ?_, hafter⟩
  rw [IsoTpMessage.answer, hsend]

/-- The receiver takes a frame: it raises nothing, both sides are in a phase again at
a lower cost, and if that ends the transfer, the payload is complete. -/
def Takes (t : IsoTpTransfer) (frame : List UInt8) (s r : IsoTpMessage) (budget heard : Nat) :
    Prop :=
  ∃ frameType after lower, r.isotpRxNext frame = (.ok frameType, after) ∧
    t.Linked lower s after ∧ lower < budget ∧ after.pending < heard ∧
    (after.rxDone = true → after.rxDat = t.dat)

variable {frame : List UInt8} {later : List (List UInt8)} {popped : CanClient}

theorem Link.takes_single (h : t.Link .single heardS sentS (frame :: later) sentR s r)
    (hon : t.line.peer.On later sentR popped) (hrx : popped.port.rx = r.canClient.port.rx) :
    t.Takes frame s { r with canClient := popped }
      (t.cost .single heardS sentS (frame :: later) sentR s r) (later.length + 1) := by
  obtain ⟨rfl, hrest⟩ := List.cons.inj h.toReceiver
  obtain ⟨rfl, rfl⟩ := List.append_eq_nil_iff.mp hrest
  have htaken := receive_single (m := { r with canClient := popped }) h.occurs h.setUp.maxLen
    h.receiver
  refine ⟨_, _, _, htaken, ⟨.done, heardS, [], [], sentR, ?_, rfl⟩, ?_, ?_, fun _ => rfl⟩
  · exact { h with
      occurs := trivial
      sender := h.sender
      receiver := ⟨rfl, rfl⟩
      setUp := { h.setUp with }
      receiverOn := hon
      toReceiver := rfl
      toSender := h.toSender }
  · simp only [cost, hrx, unsent, List.length_cons]
    omega
  · rw [IsoTpMessage.pending, hon.length]
    exact Nat.lt_succ_self _

theorem Link.takes_first (h : t.Link .first heardS sentS (frame :: later) sentR s r)
    (hon : t.line.peer.On later sentR popped) (hrx : popped.port.rx = r.canClient.port.rx) :
    t.Takes frame s { r with canClient := popped }
      (t.cost .first heardS sentS (frame :: later) sentR s r) (later.length + 1) := by
  obtain ⟨rfl, hrest⟩ := List.cons.inj h.toReceiver
  obtain ⟨rfl, rfl⟩ := List.append_eq_nil_iff.mp hrest
  obtain ⟨rfl, rfl⟩ := List.append_eq_nil_iff.mp h.toSender
  have hlong : t.maxLen ≤ t.dat.length := h.occurs
  have hsome : 0 < t.count := by
    have hlower := t.lower
    rw [lt_count_iff hlong]
    omega
  have htaken := receive_first (m := { r with canClient := popped }) hlong h.setUp.maxLen h.receiver
  obtain ⟨after, hanswer, hafter, hle⟩ := SetUp.answer (r := { r with
    canClient := popped, rxLen := t.dat.length, rxDat := t.dat.take (t.maxLen - 2), rxIdx := 0,
    rxDone := false }) { h.setUp with } hon .first
  rw [hanswer] at htaken
  refine ⟨_, _, _, htaken, ⟨.asked 0, [], [], [], [t.flowControl], ?_, rfl⟩, ?_, ?_,
    fun hdone => absurd hdone Bool.false_ne_true⟩
  · exact { h with
      occurs := ⟨hlong, hsome⟩
      sender := h.sender
      receiver := ⟨rfl, rfl, rfl, by rw [Nat.zero_mul, Nat.add_zero]⟩
      setUp := { h.setUp with }
      receiverOn := hafter
      toReceiver := rfl
      toSender := rfl }
  · rw [hrx] at hle
    simp only [cost, unsent, List.length_cons, List.length_nil]
    omega
  · rw [IsoTpMessage.pending, hafter.length]
    exact Nat.lt_succ_self _

theorem Link.takes_consecutive {next upto : Nat}
    (h : t.Link (.sent next upto) heardS sentS (frame :: later) sentR s r)
    (hon : t.line.peer.On later sentR popped) (hrx : popped.port.rx = r.canClient.port.rx) :
    t.Takes frame s { r with canClient := popped }
      (t.cost (.sent next upto) heardS sentS (frame :: later) sentR s r) (later.length + 1) := by
  obtain ⟨hlong, hlt, hle, hupto⟩ := h.occurs
  have hstream : frame :: (later ++ sentS) =
      consecutiveFrame t.maxLen t.dat next ::
        consecutiveFrames t.maxLen t.dat (next + 1) (upto - (next + 1)) := by
    refine h.toReceiver.trans ?_
    rw [IsoTpTransfer.toReceiver, consecutiveFrames, consecutiveFrames,
      show upto - next = upto - (next + 1) + 1 by omega, List.range'_succ, List.map_cons]
  obtain ⟨rfl, hrest⟩ := List.cons.inj hstream
  obtain ⟨rfl, rfl⟩ := List.append_eq_nil_iff.mp h.toSender
  have htaken := receive_consecutive (m := { r with canClient := popped }) hlong
    (Nat.lt_of_lt_of_le hlt hle) { (h.receiver : t.Receiving next r) with }
  dsimp only at htaken
  have hpending : ({ r with canClient := popped } : IsoTpMessage).pending < later.length + 1 := by
    rw [IsoTpMessage.pending, hon.length]
    exact Nat.lt_succ_self _
  by_cases hlast : t.count ≤ next + 1
  · rw [if_pos hlast] at htaken
    obtain rfl : upto = next + 1 := by omega
    rw [Nat.sub_self] at hrest
    obtain ⟨rfl, rfl⟩ := List.append_eq_nil_iff.mp hrest
    have hover := (lt_count_iff hlong (next + 1)).not.mp (Nat.not_lt.mpr hlast)
    have hdat := List.take_of_length_le (Nat.not_lt.mp hover)
    refine ⟨_, _, _, htaken, ⟨.done, [], [], [], [], ?_, rfl⟩, ?_, hpending, fun _ => hdat⟩
    · exact { h with
        occurs := trivial
        sender := h.sender.2.trans (decide_eq_true hlast)
        receiver := ⟨rfl, hdat⟩
        setUp := { h.setUp with }
        receiverOn := hon
        toReceiver := rfl
        toSender := rfl }
    · simp only [cost, hrx, unsent, List.length_cons]
      omega
  rw [if_neg hlast] at htaken
  by_cases hmode : t.oneByOne = true
  · rw [if_pos hmode] at hupto
    subst hupto
    rw [Nat.sub_self] at hrest
    obtain ⟨rfl, rfl⟩ := List.append_eq_nil_iff.mp hrest
    obtain ⟨after, hanswer, hafter, hrxle⟩ := SetUp.answer (r := { r with
      canClient := popped, rxLen := t.dat.length, rxDone := false, rxIdx := next + 1,
      rxDat := t.dat.take (t.maxLen - 2 + (next + 1) * (t.maxLen - 1)) }) { h.setUp with } hon
      .consecutive
    rw [if_pos (h.setUp.singleFrameMode.trans hmode), hanswer] at htaken
    refine ⟨_, _, _, htaken, ⟨.asked (next + 1), [], [], [], [t.flowControl], ?_, rfl⟩, ?_, ?_,
      fun hdone => absurd hdone Bool.false_ne_true⟩
    · exact { h with
        occurs := ⟨hlong, by omega⟩
        sender := ⟨h.sender.1, h.sender.2.trans (decide_eq_false hlast)⟩
        receiver := ⟨rfl, rfl, rfl, rfl⟩
        setUp := { h.setUp with }
        receiverOn := hafter
        toReceiver := rfl
        toSender := rfl }
    · rw [hrx] at hrxle
      simp only [cost, unsent, List.length_cons, List.length_nil]
      omega
    · rw [IsoTpMessage.pending, hafter.length]
      exact Nat.lt_succ_self _
  · rw [if_neg hmode] at hupto
    subst hupto
    rw [if_neg (h.setUp.singleFrameMode.symm ▸ hmode)] at htaken
    refine ⟨_, _, _, htaken, ⟨.sent (next + 1) t.count, [], sentS, later, [], ?_, rfl⟩, ?_,
      hpending, fun hdone => absurd hdone Bool.false_ne_true⟩
    · exact { h with
        occurs := ⟨hlong, by omega, Nat.le_refl _, by rw [if_neg hmode]⟩
        sender := h.sender
        receiver := ⟨rfl, rfl, rfl, rfl⟩
        setUp := { h.setUp with }
        receiverOn := hon
        toReceiver := hrest
        toSender := rfl }
    · simp only [cost, hrx, unsent, List.length_cons]
      omega

/-- The next frame on the way to the receiver is taken. -/
theorem Linked.takes {budget : Nat} (h : t.Linked budget s r) {rest : List (List UInt8)}
    (hbuff : r.canClient.rxBuff = frame :: rest) :
    t.Takes frame s { r with canClient.rxBuff := rest } budget r.pending := by
  obtain ⟨phase, heardS, sentS, heardR, sentR, hlink, rfl⟩ := h
  obtain ⟨later, rfl, hon⟩ := hlink.receiverOn.popleft hbuff
  rw [IsoTpMessage.pending, hlink.receiverOn.length]
  cases phase with
  | single => exact hlink.takes_single hon rfl
  | first => exact hlink.takes_first hon rfl
  | sent next upto => exact hlink.takes_consecutive hon rfl
  | asked idx => exact absurd hlink.toReceiver (List.cons_ne_nil _ _)
  | done => exact absurd hlink.toReceiver (List.cons_ne_nil _ _)

/-- The sender takes a frame: it raises nothing, both sides are in a phase again at a
lower cost, and the sender waits for a response still. -/
def Continues (t : IsoTpTransfer) (frame : List UInt8) (s r : IsoTpMessage) (budget heard : Nat) :
    Prop :=
  ∃ frameType after lower, s.isotpRxNext frame = (.ok frameType, after) ∧
    t.Linked lower after r ∧ lower < budget ∧ after.pending < heard ∧ after.rxDone = false

/-- On flow control, the sender sends a block of consecutive frames. -/
theorem rxContinue_on {idx : Nat} {heard sent : List (List UInt8)}
    (hlong : t.maxLen ≤ t.dat.length) (hidx : idx < t.count)
    (hm : m.Sending t.maxLen t.dat idx) (hon : t.line.On heard sent m.canClient) (count : Nat) :
    let block := consecutiveFrames t.maxLen t.dat idx
      (blockFrames t.maxLen t.dat.length idx count)
    ∃ after, m.rxContinue count = (.ok .flow, after) ∧
      t.line.On heard (sent ++ block) after.canClient ∧
      after.canClient.port.rx.length ≤ m.canClient.port.rx.length ∧ after.rxDone = m.rxDone := by
  intro block
  have hmax : 2 ≤ t.maxLen := Nat.le_of_succ_le t.lower
  have hblock : ∀ msg ∈ block, t.line.subAddr.toList.length + msg.length ≤ 8 := by
    intro msg hmsg
    obtain ⟨k, _, rfl⟩ := List.mem_map.mp hmsg
    rw [consecutiveFrame_length hmax]
    exact t.upper
  obtain ⟨client, hsend, hclient, hle⟩ := canSend_on t.physical _
    (m := { m with txIdx := idx + blockFrames t.maxLen t.dat.length idx count }) hon hblock
  rw [IsoTpMessage.rxContinue_eq hmax hlong hm hidx, hsend, IsoTpMessage.blockSent]
  refine ⟨_, rfl, ?_⟩
  split
  · exact ⟨hclient, hle, rfl⟩
  · exact ⟨hclient, hle, rfl⟩

theorem Link.continues {idx : Nat} (h : t.Link (.asked idx) (frame :: later) sentS heardR sentR s r)
    (hon : t.line.On later sentS popped) (hrx : popped.port.rx = s.canClient.port.rx) :
    t.Continues frame { s with canClient := popped } r
      (t.cost (.asked idx) (frame :: later) sentS heardR sentR s r) (later.length + 1) := by
  obtain ⟨hlong, hidx⟩ := h.occurs
  obtain ⟨hsending, hopen⟩ := h.sender
  obtain ⟨rfl, hrest⟩ := List.cons.inj h.toSender
  obtain ⟨rfl, rfl⟩ := List.append_eq_nil_iff.mp hrest
  obtain ⟨rfl, rfl⟩ := List.append_eq_nil_iff.mp h.toReceiver
  have hmax : 2 ≤ t.maxLen := Nat.le_of_succ_le t.lower
  have hpopped : ({ s with canClient := popped } : IsoTpMessage).Sending t.maxLen t.dat idx :=
    { hsending with }
  obtain ⟨after, hcontinue, hafter, hle, hrxDone⟩ := rxContinue_on hlong hidx hpopped hon
    (if t.oneByOne then 0x01 else 0x00 : UInt8).toNat
  obtain ⟨hsent, hdone, -⟩ := IsoTpMessage.rxContinue_sending hmax hlong hpopped hidx hopen
    hcontinue
  have htaken := (IsoTpMessage.isotpRxNext_continue (m := { s with canClient := popped }) hopen
    (if t.oneByOne then 0x01 else 0x00) t.separationTime
    (List.replicate (t.maxLen - 3) 0)).trans hcontinue
  have hblock : blockFrames t.maxLen t.dat.length idx
      (if t.oneByOne then 0x01 else 0x00 : UInt8).toNat =
        if t.oneByOne then 1 else t.count - idx := by
    cases t.oneByOne with
    | true => rfl
    | false => rfl
  rw [hblock] at hafter hsent hdone
  have hoccurs : t.Occurs (.sent idx (idx + if t.oneByOne then 1 else t.count - idx)) := by
    refine ⟨hlong, ?_⟩
    split
    · exact ⟨Nat.lt_succ_self idx, hidx, rfl⟩
    · rw [Nat.add_sub_cancel' (Nat.le_of_lt hidx)]
      exact ⟨hidx, Nat.le_refl _, rfl⟩
  have ⟨_, hlt, hle', _⟩ := hoccurs
  generalize (if t.oneByOne then 1 else t.count - idx) = block at *
  refine ⟨_, after, _, htaken, ⟨.sent idx (idx + block), [],
    consecutiveFrames t.maxLen t.dat idx block, [], [], ?_, rfl⟩, ?_, ?_, ?_⟩
  · exact { h with
      occurs := hoccurs
      sender := ⟨hsent, hdone⟩
      senderRx := hrxDone.trans h.senderRx
      senderOn := hafter
      receiver := { (h.receiver : t.Receiving idx r) with }
      toReceiver := by
        rw [IsoTpTransfer.toReceiver, Nat.add_sub_cancel_left, List.nil_append]
      toSender := rfl }
  · rw [hrx] at hle
    simp only [cost, unsent, consecutiveFrames, List.length_map, List.length_range',
      List.length_cons, List.length_nil]
    omega
  · rw [IsoTpMessage.pending, hafter.length]
    exact Nat.lt_succ_self _
  · exact hrxDone.trans h.senderRx

/-- The next frame on the way to the sender is taken. -/
theorem Linked.continues {budget : Nat} (h : t.Linked budget s r) {rest : List (List UInt8)}
    (hbuff : s.canClient.rxBuff = frame :: rest) :
    t.Continues frame { s with canClient.rxBuff := rest } r budget s.pending := by
  obtain ⟨phase, heardS, sentS, heardR, sentR, hlink, rfl⟩ := h
  obtain ⟨later, rfl, hon⟩ := hlink.senderOn.popleft hbuff
  rw [IsoTpMessage.pending, hlink.senderOn.length]
  cases phase with
  | asked idx => exact hlink.continues hon rfl
  | single => exact absurd hlink.toSender (List.cons_ne_nil _ _)
  | first => exact absurd hlink.toSender (List.cons_ne_nil _ _)
  | sent next upto => exact absurd hlink.toSender (List.cons_ne_nil _ _)
  | done => exact absurd hlink.toSender (List.cons_ne_nil _ _)

end IsoTpTransfer

end Panda.Host
