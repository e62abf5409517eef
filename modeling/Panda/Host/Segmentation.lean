import Panda.Host.IsoTp

/-!
The sender of `IsoTpMessage` against any sequence of flow control. The start of
the next consecutive frame is computed again at each flow control, but the end
of a block is not cut at the end of the payload.
-/

namespace Panda.Host

/-! ### Frames of a payload -/

/-- How many consecutive frames carry the bytes from `start` up to `endIdx`: the
quotient by the bytes of one frame, rounded up. -/
def framesBetween (maxLen start endIdx : Nat) : Nat :=
  (endIdx - start + (maxLen - 2)) / (maxLen - 1)

def frameCount (maxLen len : Nat) : Nat := framesBetween maxLen (maxLen - 2) len

def consecutiveFrame (maxLen : Nat) (dat : List UInt8) (idx : Nat) : List UInt8 :=
  ljust maxLen (.ofNat (0x20 ||| (idx + 1 &&& 0xF)) ::
    (dat.drop (maxLen - 2 + idx * (maxLen - 1))).take (maxLen - 1))

def consecutiveFrames (maxLen : Nat) (dat : List UInt8) (idx count : Nat) :
    List (List UInt8) :=
  (List.range' idx count).map (consecutiveFrame maxLen dat)

theorem lt_frameCount_iff {maxLen len : Nat} (hmax : 2 ≤ maxLen) (hlen : maxLen ≤ len)
    (idx : Nat) :
    idx < frameCount maxLen len ↔ maxLen - 2 + idx * (maxLen - 1) < len := by
  unfold frameCount framesBetween
  rw [Nat.lt_iff_add_one_le, Nat.le_div_iff_mul_le (by omega), Nat.add_mul]
  omega

theorem consecutiveFrame_length {maxLen : Nat} (hmax : 2 ≤ maxLen) (dat : List UInt8)
    (idx : Nat) : (consecutiveFrame maxLen dat idx).length = maxLen := by
  simp only [consecutiveFrame, ljust, List.length_append, List.length_replicate,
    List.length_cons, List.length_take]
  omega

theorem consecutiveFrames_append (maxLen : Nat) (dat : List UInt8) (idx first second : Nat) :
    consecutiveFrames maxLen dat idx first ++
        consecutiveFrames maxLen dat (idx + first) second =
      consecutiveFrames maxLen dat idx (first + second) := by
  rw [consecutiveFrames, consecutiveFrames, ← List.map_append, List.range'_append_1]
  rfl

theorem consecutiveFrame_data (maxLen : Nat) (dat : List UInt8) (idx : Nat) :
    (consecutiveFrame maxLen dat idx).drop 1 =
      ljust (maxLen - 1) ((dat.drop (maxLen - 2 + idx * (maxLen - 1))).take (maxLen - 1)) := by
  simp only [consecutiveFrame, ljust, List.cons_append, List.drop_succ_cons, List.drop_zero,
    List.length_cons, Nat.sub_add_eq, Nat.sub_right_comm]

/-- The data of the frames from `idx` on. Only the last frame is padded. -/
theorem consecutiveFrames_data {maxLen : Nat} (dat : List UInt8) (idx count : Nat)
    (hidx : maxLen - 2 + (idx + count - 1) * (maxLen - 1) ≤ dat.length) :
    ((consecutiveFrames maxLen dat idx count).map (List.drop 1)).flatten =
      ljust (count * (maxLen - 1))
        ((dat.drop (maxLen - 2 + idx * (maxLen - 1))).take (count * (maxLen - 1))) := by
  induction count generalizing idx with
  | zero => simp [consecutiveFrames, ljust]
  | succ count ih =>
      have hnext : maxLen - 2 + (idx + 1) * (maxLen - 1) =
          maxLen - 2 + idx * (maxLen - 1) + (maxLen - 1) := by
        rw [Nat.add_mul, Nat.one_mul, Nat.add_assoc]
      rw [consecutiveFrames, List.range'_succ, List.map_cons, List.map_cons, List.flatten_cons,
        consecutiveFrame_data, ← consecutiveFrames]
      rcases Nat.eq_zero_or_pos count with hlast | hmore
      · subst hlast
        simp [consecutiveFrames]
      · have hrest : maxLen - 2 + (idx + 1 + count - 1) * (maxLen - 1) ≤ dat.length := by
          rwa [show idx + 1 + count - 1 = idx + (count + 1) - 1 by omega]
        have hfull : maxLen - 1 ≤ (dat.drop (maxLen - 2 + idx * (maxLen - 1))).length := by
          have hstart : (idx + 1) * (maxLen - 1) ≤ (idx + 1 + count - 1) * (maxLen - 1) :=
            Nat.mul_le_mul_right _ (by omega)
          rw [List.length_drop]
          omega
        have hdrop : dat.drop (maxLen - 2 + idx * (maxLen - 1) + (maxLen - 1)) =
            (dat.drop (maxLen - 2 + idx * (maxLen - 1))).drop (maxLen - 1) := by
          rw [List.drop_drop]
        rw [ih (idx + 1) hrest, hnext, hdrop, Nat.succ_mul, Nat.add_comm (count * _),
          List.take_add, ljust_append, List.length_take, Nat.min_eq_left hfull,
          Nat.add_sub_cancel_left]
        congr 1
        rw [ljust, List.length_take, Nat.min_eq_left hfull, Nat.sub_self, List.replicate_zero,
          List.append_nil]

theorem framesBetween_over {maxLen start endIdx : Nat} (hmax : 2 ≤ maxLen)
    (h : endIdx ≤ start) : framesBetween maxLen start endIdx = 0 := by
  apply Nat.div_eq_of_lt
  omega

theorem framesBetween_next {maxLen start endIdx : Nat} (hmax : 2 ≤ maxLen)
    (h : start < endIdx) :
    framesBetween maxLen start endIdx = framesBetween maxLen (start + (maxLen - 1)) endIdx + 1 := by
  unfold framesBetween
  rcases Nat.le_total endIdx (start + (maxLen - 1)) with hlast | hmore
  · rw [Nat.sub_eq_zero_of_le hlast, Nat.zero_add, Nat.div_eq_of_lt (by omega : maxLen - 2 < _)]
    apply Nat.div_eq_of_lt_le
    · omega
    · omega
  · have hsplit : endIdx - start + (maxLen - 2) =
        endIdx - (start + (maxLen - 1)) + (maxLen - 2) + (maxLen - 1) := by omega
    rw [hsplit, Nat.add_div_right _ (by omega)]

theorem framesBetween_left {maxLen len idx : Nat}
    (hidx : maxLen - 2 + idx * (maxLen - 1) ≤ len) :
    framesBetween maxLen (maxLen - 2 + idx * (maxLen - 1)) len = frameCount maxLen len - idx := by
  unfold frameCount framesBetween
  have hshift : len - (maxLen - 2 + idx * (maxLen - 1)) + (maxLen - 2) =
      len - (maxLen - 2) + (maxLen - 2) - idx * (maxLen - 1) := by omega
  rw [hshift, Nat.mul_comm, Nat.sub_mul_div]

theorem framesBetween_blocks {maxLen start : Nat} (hmax : 2 ≤ maxLen) (count : Nat) :
    framesBetween maxLen start (start + count * (maxLen - 1)) = count := by
  rw [framesBetween, Nat.add_sub_cancel_left, Nat.add_comm, Nat.add_mul_div_right _ _ (by omega),
    Nat.div_eq_of_lt (by omega), Nat.zero_add]

/-- On a continue, the frames that are left, or as many as the block size says. -/
def blockFrames (maxLen len idx count : Nat) : Nat :=
  if count = 0 then frameCount maxLen len - idx else count

/-- The index at which a block ends, as the sender computes it. -/
def blockEnd (maxLen len idx count : Nat) : Nat :=
  if count > 0 then maxLen - 2 + idx * (maxLen - 1) + count * (maxLen - 1) else len

theorem framesBetween_blockEnd {maxLen len idx : Nat} (hmax : 2 ≤ maxLen)
    (hidx : maxLen - 2 + idx * (maxLen - 1) ≤ len) (count : Nat) :
    framesBetween maxLen (maxLen - 2 + idx * (maxLen - 1)) (blockEnd maxLen len idx count) =
      blockFrames maxLen len idx count := by
  unfold blockEnd blockFrames
  rcases Nat.eq_zero_or_pos count with hzero | hpos
  · rw [if_neg (by omega), if_pos hzero, framesBetween_left hidx]
  · rw [if_pos hpos, if_neg (by omega), framesBetween_blocks hmax]

/-- The block reaches the end of the payload when no frame is left. -/
theorem le_blockEnd_iff {maxLen len idx : Nat} (hmax : 2 ≤ maxLen) (hlen : maxLen ≤ len)
    (hidx : idx < frameCount maxLen len) (count : Nat) :
    len ≤ blockEnd maxLen len idx count ↔
      frameCount maxLen len ≤ idx + blockFrames maxLen len idx count := by
  unfold blockEnd blockFrames
  rcases Nat.eq_zero_or_pos count with hzero | hpos
  · rw [if_neg (by omega), if_pos hzero]
    omega
  · rw [if_pos hpos, if_neg (by omega), ← Nat.not_lt (a := idx + count),
      lt_frameCount_iff hmax hlen _, Nat.add_mul]
    omega

namespace IsoTpMessage

variable {m : IsoTpMessage}

/-! ### One flow control -/

/-- The loop sends whole frames until the end index is reached. -/
theorem txLoop_frames (hmax : 2 ≤ m.maxLen) {endIdx fuel start : Nat}
    (hfuel : endIdx - start ≤ fuel)
    (hstart : start = m.maxLen - 2 + m.txIdx * (m.maxLen - 1)) :
    txLoop endIdx fuel start m =
      (consecutiveFrames m.maxLen m.txDat m.txIdx (framesBetween m.maxLen start endIdx),
       { m with txIdx := m.txIdx + framesBetween m.maxLen start endIdx }) := by
  induction fuel generalizing start m with
  | zero =>
      rw [framesBetween_over hmax (by omega)]
      rfl
  | succ fuel ih =>
      unfold txLoop
      split
      · rename_i hin
        have hnext : start + (m.maxLen - 1) =
            m.maxLen - 2 + (m.txIdx + 1) * (m.maxLen - 1) := by
          rw [hstart, Nat.add_mul, Nat.one_mul, Nat.add_assoc]
        have hrest := ih (m := { m with txIdx := m.txIdx + 1 }) hmax (by omega) hnext
        dsimp only at hrest ⊢
        rw [hrest, framesBetween_next hmax hin, consecutiveFrames, consecutiveFrames,
          List.range'_succ, List.map_cons, Nat.add_assoc m.txIdx, Nat.add_comm 1]
        simp only [txConsecutive, consecutiveFrame, hstart]
      · rw [framesBetween_over hmax (by omega)]
        rfl

/-- Flow control as the receiver sends it: continue with a block size and a
separation time, or wait. What follows in the frame is arbitrary. -/
inductive FlowControl where
  | continueWith (blockSize separationTime : UInt8) (padding : List UInt8)
  | wait (padding : List UInt8)

namespace FlowControl

def frame : FlowControl → List UInt8
  | continueWith blockSize separationTime padding => 0x30 :: blockSize :: separationTime :: padding
  | wait padding => 0x31 :: padding

/-- How many frames may follow. A block size of zero means all of them. -/
def Allows : FlowControl → Nat → Prop
  | continueWith blockSize _ _, count => blockSize = 0 ∨ count ≤ blockSize.toNat
  | wait _, count => count = 0

end FlowControl

def framesSince (before after : IsoTpMessage) : List (List UInt8) :=
  (after.canClient.port.tx.drop before.canClient.port.tx.length).map fun msg =>
    msg.dat.drop before.canClient.subAddr.toList.length

/-- One flow control frame, with what `can_recv` returns meanwhile, and the frames
that are sent on it. -/
def flow (fc : FlowControl) (rx : List (List CanMessage)) (m : IsoTpMessage) :
    Except UdsException (List (List UInt8) × IsoTpMessage) :=
  match (m.hearing rx).isotpRxNext fc.frame with
  | (.error exc, _) => .error exc
  | (.ok _, after) => .ok (m.framesSince after, after)

/-- Flow control frame by frame, with the block of frames sent on each. -/
def flows : List (FlowControl × List (List CanMessage)) → IsoTpMessage →
    Except UdsException (List (List (List UInt8)) × IsoTpMessage)
  | [], m => .ok ([], m)
  | (fc, rx) :: fcs, m =>
      match m.flow fc rx with
      | .error exc => .error exc
      | .ok (block, m) =>
          match flows fcs m with
          | .error exc => .error exc
          | .ok (blocks, m) => .ok (block :: blocks, m)

structure Sending (maxLen : Nat) (dat : List UInt8) (idx : Nat) (m : IsoTpMessage) : Prop where
  maxLen : m.maxLen = maxLen
  txDat : m.txDat = dat
  txLen : m.txLen = dat.length
  txIdx : m.txIdx = idx

variable {maxLen idx : Nat} {dat : List UInt8} {rx : List (List CanMessage)}

theorem canSend_sending {msgs : List (List UInt8)} {after : IsoTpMessage}
    (hm : Sending maxLen dat idx m) (h : m.canSend msgs = (none, after)) :
    Sending maxLen dat idx after ∧ after.txDone = m.txDone ∧ m.framesSince after = msgs := by
  unfold canSend at h
  obtain ⟨hexc, rfl⟩ := Prod.mk.inj h
  have hclient : m.canClient.send msgs = (none, (m.canClient.send msgs).2) := Prod.ext hexc rfl
  obtain ⟨-, htx⟩ := CanClient.sendLoop_sent hclient
  refine ⟨⟨hm.maxLen, hm.txDat, hm.txLen, hm.txIdx⟩, rfl, ?_⟩
  have hsent := congrArg (List.drop (m.canClient.port.tx.map CanMessage.dat).length) htx
  rw [List.drop_left, ← List.map_drop, List.length_map] at hsent
  have hframes : m.framesSince { m with canClient := (m.canClient.send msgs).2 } =
      (msgs.map m.canClient.addressed).map (List.drop m.canClient.subAddr.toList.length) := by
    rw [← hsent, List.map_map]
    rfl
  refine hframes.trans ?_
  rw [List.map_map]
  refine (List.map_congr_left ?_).trans (List.map_id msgs)
  intro msg _
  exact List.drop_left

theorem rxContinue_eq (hmax : 2 ≤ maxLen) (hlen : maxLen ≤ dat.length)
    (hm : Sending maxLen dat idx m) (hidx : idx < frameCount maxLen dat.length) (count : Nat) :
    m.rxContinue count =
      blockSent (blockEnd maxLen dat.length idx count)
        ({ m with txIdx := idx + blockFrames maxLen dat.length idx count }.canSend
          (consecutiveFrames maxLen dat idx (blockFrames maxLen dat.length idx count))) := by
  obtain ⟨rfl, rfl, htxLen, rfl⟩ := hm
  have hstart := (lt_frameCount_iff hmax hlen _).mp hidx
  have hblock := framesBetween_blockEnd hmax (Nat.le_of_lt hstart) count
  have hend : (if count > 0 then
      m.maxLen - 2 + m.txIdx * (m.maxLen - 1) + count * (m.maxLen - 1) else m.txLen) =
        blockEnd m.maxLen m.txDat.length m.txIdx count := by rw [blockEnd, htxLen]
  unfold rxContinue
  dsimp only
  rw [txLoop_frames hmax (Nat.le_refl _) rfl, hend, hblock]

theorem rxContinue_sending (hmax : 2 ≤ maxLen) (hlen : maxLen ≤ dat.length)
    (hm : Sending maxLen dat idx m) (hidx : idx < frameCount maxLen dat.length)
    (hopen : m.txDone = false) {count : Nat} {frameType : IsoTpFrameType} {after : IsoTpMessage}
    (h : m.rxContinue count = (.ok frameType, after)) :
    let sent := blockFrames maxLen dat.length idx count
    Sending maxLen dat (idx + sent) after ∧
      after.txDone = decide (frameCount maxLen dat.length ≤ idx + sent) ∧
      m.framesSince after = consecutiveFrames maxLen dat idx sent := by
  intro sent
  have hend := le_blockEnd_iff hmax hlen hidx count
  rw [rxContinue_eq hmax hlen hm hidx] at h
  change blockSent _ ({ m with txIdx := idx + sent }.canSend _) = _ at h
  cases hsent : { m with txIdx := idx + sent }.canSend (consecutiveFrames maxLen dat idx sent) with
  | mk exc sender =>
      rw [hsent] at h
      cases exc with
      | some exc => cases h
      | none =>
          obtain ⟨hsending, hdone, hframes⟩ := canSend_sending
            (m := { m with txIdx := idx + sent }) ⟨hm.maxLen, hm.txDat, hm.txLen, rfl⟩ hsent
          obtain ⟨-, rfl⟩ := Prod.mk.inj h
          simp only [ge_iff_le, hsending.txLen]
          by_cases hover : frameCount maxLen dat.length ≤ idx + sent
          · rw [if_pos (hend.mpr hover)]
            refine ⟨⟨hsending.maxLen, hsending.txDat, rfl, hsending.txIdx⟩, ?_, hframes⟩
            exact (decide_eq_true hover).symm
          · rw [if_neg (hend.not.mpr hover)]
            refine ⟨hsending, ?_, hframes⟩
            rw [hdone, decide_eq_false hover]
            exact hopen

/-- After the first frame of a long request, no consecutive frame was sent. -/
theorem send_sending (hlen : m.maxLen ≤ dat.length) {first : IsoTpMessage}
    (h : m.send dat false = (none, first)) :
    Sending m.maxLen dat 0 first ∧ first.txDone = false := by
  unfold send CanClient.recv txFirstFrame at h
  dsimp only at h
  rw [if_neg (Nat.not_lt.mpr hlen)] at h
  split at h
  · cases h
  rw [if_neg Bool.false_ne_true] at h
  obtain ⟨hsending, hdone, -⟩ := canSend_sending (⟨rfl, rfl, rfl, rfl⟩ : Sending _ _ 0 _) h
  exact ⟨hsending, hdone⟩

/-! ### Runs of flow control -/

theorem Sending.hearing (hm : Sending maxLen dat idx m) (rx : List (List CanMessage)) :
    Sending maxLen dat idx (m.hearing rx) :=
  ⟨hm.maxLen, hm.txDat, hm.txLen, hm.txIdx⟩

theorem isotpRxNext_flow (fc : FlowControl) (m : IsoTpMessage) :
    m.isotpRxNext fc.frame = m.rxFlow fc.frame (fc.frame.headD 0) := by
  cases fc with
  | continueWith blockSize separationTime padding => rfl
  | wait padding => rfl

theorem isotpRxNext_continue (hopen : m.txDone = false) (blockSize separationTime : UInt8)
    (padding : List UInt8) :
    m.isotpRxNext (FlowControl.continueWith blockSize separationTime padding).frame =
      m.rxContinue blockSize.toNat := by
  have hflow : m.rxFlow (0x30 :: blockSize :: separationTime :: padding) 0x30 =
      if m.txDone then
        (.error (.assertionError "isotp - rx: flow control with no active frame"), m)
      else m.rxContinue blockSize.toNat := rfl
  rw [isotpRxNext_flow, FlowControl.frame, List.headD_cons, hflow, hopen,
    if_neg Bool.false_ne_true]

/-- Flow control is refused once the transfer is over. -/
theorem flow_open {fc : FlowControl} {block : List (List UInt8)} {after : IsoTpMessage}
    (h : m.flow fc rx = .ok (block, after)) : m.txDone = false := by
  by_contra hdone
  have hover : (m.hearing rx).txDone = true := Bool.not_eq_false _ ▸ hdone
  rw [flow, isotpRxNext_flow, rxFlow, if_pos hover] at h
  cases h

theorem flow_wait {padding : List UInt8} (hm : Sending maxLen dat idx m)
    {block : List (List UInt8)} {after : IsoTpMessage}
    (h : m.flow (.wait padding) rx = .ok (block, after)) :
    block = [] ∧ Sending maxLen dat idx after ∧ after.txDone = false := by
  have hopen : (m.hearing rx).txDone = false := flow_open h
  have hnext : (m.hearing rx).rxFlow (FlowControl.wait padding).frame 0x31 =
      if (m.hearing rx).txDone then
        (.error (.assertionError "isotp - rx: flow control with no active frame"), m.hearing rx)
      else (.ok .flow, m.hearing rx) := rfl
  rw [flow, isotpRxNext_flow, FlowControl.frame, List.headD_cons] at h
  rw [FlowControl.frame] at hnext
  rw [hnext, hopen, if_neg Bool.false_ne_true] at h
  obtain ⟨rfl, rfl⟩ := Prod.mk.inj (Except.ok.inj h)
  refine ⟨?_, hm.hearing rx, hopen⟩
  rw [framesSince, hearing, List.drop_length, List.map_nil]

theorem flow_continue {blockSize separationTime : UInt8} {padding : List UInt8}
    (hmax : 2 ≤ maxLen) (hlen : maxLen ≤ dat.length) (hm : Sending maxLen dat idx m)
    (hidx : idx < frameCount maxLen dat.length) {block : List (List UInt8)} {after : IsoTpMessage}
    (h : m.flow (.continueWith blockSize separationTime padding) rx = .ok (block, after)) :
    let sent := blockFrames maxLen dat.length idx blockSize.toNat
    block = consecutiveFrames maxLen dat idx sent ∧ Sending maxLen dat (idx + sent) after ∧
      after.txDone = decide (frameCount maxLen dat.length ≤ idx + sent) := by
  have hopen : (m.hearing rx).txDone = false := flow_open h
  rw [flow, isotpRxNext_continue hopen] at h
  split at h
  · cases h
  · rename_i after' hcontinue
    obtain ⟨rfl, rfl⟩ := Prod.mk.inj (Except.ok.inj h)
    obtain ⟨hsending, hdone, hframes⟩ :=
      rxContinue_sending hmax hlen (hm.hearing rx) hidx hopen hcontinue
    exact ⟨hframes, hsending, hdone⟩

/-- A flow control sequence keeps to the payload: with `left` frames to send, no
block size is larger than what is left at its turn. -/
def BlocksFit : Nat → List FlowControl → Prop
  | _, [] => True
  | left, .wait _ :: fcs => BlocksFit left fcs
  | left, .continueWith blockSize _ _ :: fcs =>
      blockSize.toNat ≤ left ∧ BlocksFit (left - blockSize.toNat) fcs

theorem blockFrames_allows (maxLen : Nat) (dat : List UInt8) (idx : Nat)
    (blockSize separationTime : UInt8) (padding : List UInt8) :
    (FlowControl.continueWith blockSize separationTime padding).Allows
      (consecutiveFrames maxLen dat idx
        (blockFrames maxLen dat.length idx blockSize.toNat)).length := by
  rw [consecutiveFrames, List.length_map, List.length_range', FlowControl.Allows, blockFrames]
  rcases Nat.eq_zero_or_pos blockSize.toNat with hzero | hpos
  · exact .inl (UInt8.toNat_inj.mp hzero)
  · rw [if_neg (by omega)]
    exact .inr (Nat.le_refl _)

theorem flows_frames (hmax : 2 ≤ maxLen) (hlen : maxLen ≤ dat.length)
    (hm : Sending maxLen dat idx m) (hidx : idx < frameCount maxLen dat.length)
    {fcs : List (FlowControl × List (List CanMessage))} {blocks : List (List (List UInt8))}
    {after : IsoTpMessage} (h : m.flows fcs = .ok (blocks, after)) (hopen : m.txDone = false)
    (hdone : after.txDone = true) :
    ∃ total, blocks.flatten = consecutiveFrames maxLen dat idx total ∧
      (idx + total = frameCount maxLen dat.length ↔
        BlocksFit (frameCount maxLen dat.length - idx) (fcs.map Prod.fst)) ∧
      List.Forall₂ (fun fc block => fc.Allows (List.length block)) (fcs.map Prod.fst) blocks := by
  induction fcs generalizing m idx blocks with
  | nil =>
      obtain ⟨-, rfl⟩ := Prod.mk.inj (Except.ok.inj h)
      rw [hopen] at hdone
      exact absurd hdone Bool.false_ne_true
  | cons head fcs ih =>
      obtain ⟨fc, rx⟩ := head
      unfold flows at h
      split at h
      · cases h
      rename_i block next hflow
      split at h
      · cases h
      rename_i rest last hflows
      obtain ⟨rfl, rfl⟩ := Prod.mk.inj (Except.ok.inj h)
      cases fc with
      | wait padding =>
          obtain ⟨rfl, hnext, hopen'⟩ := flow_wait hm hflow
          obtain ⟨total, hframes, hfit, hallows⟩ := ih hnext hidx hflows hopen'
          exact ⟨total, hframes, hfit, .cons rfl hallows⟩
      | continueWith blockSize separationTime padding =>
          obtain ⟨rfl, hnext, hdone'⟩ := flow_continue hmax hlen hm hidx hflow
          have hallow := blockFrames_allows maxLen dat idx blockSize
            separationTime padding
          have hsent : blockFrames maxLen dat.length idx blockSize.toNat =
              if blockSize.toNat = 0 then frameCount maxLen dat.length - idx
              else blockSize.toNat := rfl
          generalize blockFrames maxLen dat.length idx blockSize.toNat = sent at *
          by_cases hover : frameCount maxLen dat.length ≤ idx + sent
          · rw [decide_eq_true hover] at hdone'
            cases fcs with
            | nil =>
                obtain ⟨rfl, -⟩ := Prod.mk.inj (Except.ok.inj hflows)
                refine ⟨sent, List.append_nil _, ?_, .cons hallow .nil⟩
                simp only [List.map_cons, List.map_nil, BlocksFit, and_true]
                split at hsent
                · omega
                · omega
            | cons head fcs =>
                unfold flows at hflows
                split at hflows
                · cases hflows
                rename_i hflow'
                rw [flow_open hflow'] at hdone'
                exact absurd hdone' Bool.false_ne_true
          · rw [decide_eq_false hover] at hdone'
            obtain ⟨total, hframes, hfit, hallows⟩ := ih hnext (by omega) hflows hdone'
            have hpos : blockSize.toNat ≠ 0 := by
              intro hzero
              rw [if_pos hzero] at hsent
              omega
            rw [if_neg hpos] at hsent
            subst hsent
            refine ⟨blockSize.toNat + total, ?_, ?_, .cons hallow hallows⟩
            · rw [List.flatten_cons, hframes, consecutiveFrames_append]
            · rw [← Nat.add_assoc, hfit, Nat.sub_add_eq]
              simp only [List.map_cons, BlocksFit]
              exact (and_iff_right (by omega)).symm

/-- The consecutive frames of a transfer: as many as the payload needs, numbered
modulo 16, with the rest of the payload as their data, padded in the last frame
only, and no more of them on one flow control than its block size. -/
structure Segmented (maxLen : Nat) (dat : List UInt8) (fcs : List FlowControl)
    (blocks : List (List (List UInt8))) : Prop where
  count : blocks.flatten.length = frameCount maxLen dat.length
  number : ∀ k (hk : k < blocks.flatten.length),
    blocks.flatten[k].head? = some (.ofNat (0x20 ||| (k + 1) % 16))
  whole : ∀ frame ∈ blocks.flatten, frame.length = maxLen
  data : ∃ padding < maxLen - 1, (blocks.flatten.map (List.drop 1)).flatten =
    dat.drop (maxLen - 2) ++ List.replicate padding 0
  blockSize : List.Forall₂ (fun fc block => fc.Allows (List.length block)) fcs blocks

theorem consecutiveFrame_head (maxLen : Nat) (dat : List UInt8) (idx : Nat) :
    (consecutiveFrame maxLen dat idx).head? = some (.ofNat (0x20 ||| (idx + 1) % 16)) := by
  have hmask : idx + 1 &&& 0xF = (idx + 1) % 16 := Nat.and_two_pow_sub_one_eq_mod _ 4
  rw [consecutiveFrame, ljust, List.cons_append, List.head?_cons, hmask]

/-- All frames of a payload carry what the first frame left. -/
theorem frames_data (hmax : 2 ≤ maxLen) (hlen : maxLen ≤ dat.length) :
    ∃ padding < maxLen - 1,
      ((consecutiveFrames maxLen dat 0 (frameCount maxLen dat.length)).map (List.drop 1)).flatten =
        dat.drop (maxLen - 2) ++ List.replicate padding 0 := by
  have hover := (lt_frameCount_iff hmax hlen (frameCount maxLen dat.length)).not.mp
    (Nat.lt_irrefl _)
  have hsome := (lt_frameCount_iff hmax hlen 0).mpr (by omega)
  have hlast := (lt_frameCount_iff hmax hlen (frameCount maxLen dat.length - 1)).mp
    (by omega)
  generalize frameCount maxLen dat.length = count at *
  refine ⟨count * (maxLen - 1) - (dat.length - (maxLen - 2)), ?_, ?_⟩
  · rw [Nat.sub_mul, Nat.one_mul] at hlast
    have hframe : maxLen - 1 ≤ count * (maxLen - 1) := Nat.le_mul_of_pos_left _ hsome
    omega
  · rw [consecutiveFrames_data _ _ _ (by rw [Nat.zero_add]; omega), Nat.zero_mul, Nat.add_zero,
      List.take_of_length_le, ljust, List.length_drop]
    rw [List.length_drop]
    omega

/-- A long request is split up right exactly if the block sizes never ask for more
frames than are left. -/
theorem segmented_iff_blocksFit (m : IsoTpMessage) (hmax : 2 ≤ m.maxLen) (dat : List UInt8)
    (hlen : m.maxLen ≤ dat.length) {first : IsoTpMessage}
    (hsend : m.send dat false = (none, first))
    (fcs : List (FlowControl × List (List CanMessage))) {blocks : List (List (List UInt8))}
    {last : IsoTpMessage} (hrun : first.flows fcs = .ok (blocks, last))
    (hdone : last.txDone = true) :
    Segmented m.maxLen dat (fcs.map Prod.fst) blocks ↔
      BlocksFit (frameCount m.maxLen dat.length) (fcs.map Prod.fst) := by
  have hstart := send_sending hlen hsend
  have hsome := (lt_frameCount_iff hmax hlen 0).mpr (by omega)
  obtain ⟨total, hframes, hfit, hallows⟩ :=
    flows_frames hmax hlen hstart.1 hsome hrun hstart.2 hdone
  rw [Nat.zero_add, Nat.sub_zero] at hfit
  rw [← hfit]
  constructor
  · intro h
    rw [← h.count, hframes, consecutiveFrames, List.length_map, List.length_range']
  · intro htotal
    subst htotal
    refine ⟨?_, ?_, ?_, ?_, hallows⟩
    · rw [hframes, consecutiveFrames, List.length_map, List.length_range']
    · intro k hk
      simp only [hframes, consecutiveFrames, List.getElem_map, List.getElem_range',
        Nat.zero_add, Nat.one_mul]
      exact consecutiveFrame_head _ _ _
    · intro frame hframe
      rw [hframes] at hframe
      obtain ⟨idx, _, rfl⟩ := List.mem_map.mp hframe
      exact consecutiveFrame_length hmax dat idx
    · rw [hframes]
      exact frames_data hmax hlen

/-- A request of eight bytes to an ECU that takes one frame at a time. -/
theorem segmented_eight :
    Segmented 8 [1, 2, 3, 4, 5, 6, 7, 8] [.wait [], .continueWith 1 0 []]
      [[], [[0x21, 7, 8, 0, 0, 0, 0, 0]]] :=
  (segmented_iff_blocksFit { canClient := { txAddr := 0x7E0, rxAddr := some 0x7E8, bus := 0 } }
    (by decide) [1, 2, 3, 4, 5, 6, 7, 8] (by decide) rfl
    [(.wait [], []), (.continueWith 1 0 [], [])] rfl rfl).mpr ⟨by decide, trivial⟩

/-- With a block size of two there, an empty frame follows the last one. -/
theorem not_segmented_large_block :
    ¬ ∀ (m : IsoTpMessage) (dat : List UInt8) (first last : IsoTpMessage)
      (fcs : List (FlowControl × List (List CanMessage))) (blocks : List (List (List UInt8))),
      2 ≤ m.maxLen → m.maxLen ≤ dat.length → dat.length ≤ 4095 →
      m.send dat false = (none, first) → first.flows fcs = .ok (blocks, last) →
      last.txDone = true → Segmented m.maxLen dat (fcs.map Prod.fst) blocks := by
  intro h
  have hcount := (h { canClient := { txAddr := 0x7E0, rxAddr := some 0x7E8, bus := 0 } }
    [1, 2, 3, 4, 5, 6, 7, 8] _ _ [(.continueWith 2 0 [], [])]
    [[[0x21, 7, 8, 0, 0, 0, 0, 0], [0x22, 0, 0, 0, 0, 0, 0, 0]]]
    (by decide) (by decide) (by decide) rfl rfl rfl).count
  exact absurd hcount (by decide)

end IsoTpMessage

end Panda.Host
