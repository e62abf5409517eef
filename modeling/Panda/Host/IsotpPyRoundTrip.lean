import Panda.Host.IsotpPy
import Panda.Library.Transition

/-!
`isotp_send` and `isotp_recv` on one bus. A payload of more than one frame under the
sub-address zero is sent without it, and with a block size of one the consecutive
frames go to bus 0. Otherwise the receiver returns the payload, in whatever batches
the frames are delivered.
-/

namespace Panda.Host.Isotp

open Library

/-! ### Both calls -/

inductive Side where
  | sender
  | receiver
deriving DecidableEq

structure Calls where
  sender : Sender
  receiver : Receiver
deriving DecidableEq

/-- The next messages of one side are delivered to the other as one batch, or a side
goes on to its next `can_recv`. -/
inductive CallEvent where
  | deliver (source : Side) (k : Nat)
  | step (side : Side)

namespace Calls

def step (p : Calls) : CallEvent → Calls
  | .deliver .sender k =>
      let (src, dst) := p.sender.port.deliver k p.receiver.port
      { p with
        sender.port := src
        receiver.port := dst }
  | .deliver .receiver k =>
      let (src, dst) := p.receiver.port.deliver k p.sender.port
      { p with
        receiver.port := src
        sender.port := dst }
  | .step .sender => { p with sender := p.sender.step }
  | .step .receiver => { p with receiver := p.receiver.step }

def port (p : Calls) : Side → CanPort
  | .sender => p.sender.port
  | .receiver => p.receiver.port

def waits (p : Calls) : Side → Bool
  | .sender => p.sender.waits
  | .receiver => p.receiver.waits

/-- The event moves a message or a batch. -/
def useful (p : Calls) : CallEvent → Bool
  | .deliver source k => k ≠ 0 && (p.port source).tx ≠ []
  | .step side => p.waits side && (p.port side).rx ≠ []

/-- The event delivers an empty batch. -/
def idle (p : Calls) : CallEvent → Bool
  | .deliver source k => k = 0 || (p.port source).tx = []
  | .step _ => false

/-- No event moves anything any more. -/
def Quiet (p : Calls) : Prop :=
  ∀ side, (p.port side).tx = [] ∧ (p.waits side = false ∨ (p.port side).rx = [])

/-- Neither call has raised. -/
def Clean (p : Calls) : Prop :=
  (∀ exc, p.sender.phase ≠ .raised exc) ∧ ∀ exc, p.receiver.phase ≠ .raised exc

end Calls

/-- The two calls at their start. -/
def calls (addr recvaddr bus : Nat) (subaddr : Option UInt8) (x : List UInt8) : Calls :=
  { sender := isotpSend x addr bus recvaddr subaddr
    receiver := isotpRecv addr bus recvaddr subaddr }

/-- In every run nothing raises and only the payload is returned, only so many events
can move anything, and when nothing is left to move, both calls have returned. -/
def RoundTrips (addr recvaddr bus : Nat) (subaddr : Option UInt8) (x : List UInt8) : Prop :=
  ∀ es, let start := calls addr recvaddr bus subaddr x
    let last := run Calls.step start es
    last.Clean ∧ (∀ dat, last.receiver.phase = .returned dat → dat = x) ∧
      countAlong Calls.step Calls.useful start es ≤
        2 * (x.length + 2) + countAlong Calls.step Calls.idle start es ∧
      (last.Quiet → last.sender.phase = .returned ∧ last.receiver.phase = .returned x)

/-- Whatever is received, in particular if the first answer asks for a block size of
one, all frames go to the bus of the call. -/
def StaysOnBus (addr recvaddr bus : Nat) (subaddr : Option UInt8) (x : List UInt8) : Prop :=
  ∀ received : List (List CanMessage),
    ∀ m ∈ (run (fun p batch => ({ p with port.rx := [batch] } : Sender).step)
      (isotpSend x addr bus recvaddr subaddr) received).port.tx, m.bus = bus

/-! ### Frames -/

section Frames

variable {subaddr : Option UInt8} {x : List UInt8}

/-- The four bits behind the type of a frame are read back. -/
theorem typeBits : ∀ number < 16,
    (UInt8.ofNat number &&& 0xF0 = 0x00 ∧ (UInt8.ofNat number &&& 0xF).toNat = number) ∧
    (UInt8.ofNat (0x10 + number) &&& 0xF0 = 0x10 ∧
      (UInt8.ofNat (0x10 + number) &&& 0xF).toNat = number) ∧
    (UInt8.ofNat (0x20 + number)).toNat = 0x20 ||| number := by
  decide

theorem truthy_eq (hnamed : subaddr ≠ some 0) : truthy subaddr = subaddr := by
  cases subaddr with
  | none => rfl
  | some subaddr => exact if_pos fun hzero => hnamed (congrArg some hzero)

/-- How many bytes of data a consecutive frame has room for. -/
def room (subaddr : Option UInt8) : Nat := 7 - subaddr.toList.length

theorem sendsLoop_cons (hnamed : subaddr ≠ some 0) (fuel idx : Nat) (hx : x ≠ []) :
    sendsLoop subaddr (fuel + 1) idx x =
      ljust 8 (subaddr.toList ++ .ofNat (0x20 + (idx &&& 0xF)) :: x.take (room subaddr)) ::
        sendsLoop subaddr fuel (idx + 1) (x.drop (room subaddr)) := by
  rw [sendsLoop, if_pos (List.length_pos_iff.mpr hx), truthy_eq hnamed]
  cases subaddr with
  | none => rfl
  | some subaddr => rfl

theorem sendsLoop_nil (fuel idx : Nat) : sendsLoop subaddr fuel idx [] = [] := by
  cases fuel with
  | zero => rfl
  | succ fuel => rfl

theorem gather_cons (idx : Nat) (data : List UInt8) (frames : List (List UInt8))
    (dat : List UInt8) :
    Receiver.gather subaddr idx
        ((subaddr.toList ++ .ofNat (0x20 + (idx &&& 0xF)) :: data) :: frames) dat =
      Receiver.gather subaddr (idx + 1) frames (dat ++ data) := by
  have hidx : idx &&& 0xF < 16 := Nat.lt_succ_of_le Nat.and_le_right
  obtain ⟨-, -, hbyte⟩ := typeBits (idx &&& 0xF) hidx
  cases subaddr with
  | none =>
      simp only [Option.toList_none, List.nil_append, Receiver.gather]
      rw [if_neg (not_not_intro hbyte)]
  | some subaddr =>
      simp only [Option.toList_some, List.cons_append, List.nil_append, Receiver.gather]
      rw [if_neg (not_not_intro rfl), if_neg (not_not_intro hbyte)]

/-- Putting the consecutive frames together gives the data back, with the padding of
the last one. -/
theorem gather_sends (hnamed : subaddr ≠ some 0) {fuel : Nat} (idx : Nat)
    (hfuel : x.length ≤ fuel) (dat : List UInt8) :
    ∃ padding, Receiver.gather subaddr idx (sendsLoop subaddr fuel idx x) dat =
      .ok (dat ++ x ++ padding) := by
  induction fuel generalizing idx x dat with
  | zero =>
      obtain rfl := List.length_eq_zero_iff.mp (Nat.le_zero.mp hfuel)
      exact ⟨[], by rw [List.append_nil, List.append_nil]; rfl⟩
  | succ fuel ih =>
      rcases eq_or_ne x [] with rfl | hx
      · rw [sendsLoop_nil]
        exact ⟨[], by rw [List.append_nil, List.append_nil]; rfl⟩
      have hroom : 0 < room subaddr := by
        cases subaddr with
        | none => exact Nat.succ_pos 6
        | some subaddr => exact Nat.succ_pos 5
      rw [sendsLoop_cons hnamed fuel idx hx, ljust, List.append_assoc, List.cons_append,
        gather_cons]
      obtain ⟨padding, hrest⟩ := ih (x := x.drop (room subaddr)) (idx + 1)
        (by rw [List.length_drop]; omega)
        (dat ++ (x.take (room subaddr) ++ List.replicate (8 - (subaddr.toList ++
          .ofNat (0x20 + (idx &&& 0xF)) :: x.take (room subaddr)).length) 0))
      rw [hrest]
      rcases Nat.le_total x.length (room subaddr) with hlast | hfull
      · rw [List.take_of_length_le hlast, List.drop_of_length_le hlast, List.append_nil]
        exact ⟨_, by rw [← List.append_assoc dat, List.append_assoc]⟩
      · have hpad : 8 - (subaddr.toList ++
            .ofNat (0x20 + (idx &&& 0xF)) :: x.take (room subaddr)).length = 0 := by
          rw [List.length_append, List.length_cons, List.length_take_of_le hfull, room]
          cases subaddr <;> rfl
        rw [hpad, List.replicate_zero, List.append_nil, List.append_assoc dat,
          List.take_append_drop]
        exact ⟨padding, rfl⟩

theorem sendsLoop_length (hnamed : subaddr ≠ some 0) {fuel : Nat} (idx : Nat)
    (hfuel : x.length ≤ fuel) :
    (sendsLoop subaddr fuel idx x).length =
      (x.length + room subaddr - 1) / room subaddr := by
  have hroom : room subaddr = 6 ∨ room subaddr = 7 := by
    cases subaddr with
    | none => exact .inr rfl
    | some subaddr => exact .inl rfl
  induction fuel generalizing idx x with
  | zero =>
      rw [Nat.le_zero.mp hfuel]
      rcases hroom with h | h <;> rw [h] <;> rfl
  | succ fuel ih =>
      cases x with
      | nil => rcases hroom with h | h <;> rw [h, sendsLoop_nil] <;> rfl
      | cons byte x =>
          rw [sendsLoop_cons hnamed fuel idx (List.cons_ne_nil _ _), List.length_cons,
            ih (idx + 1) (by rw [List.length_drop]; simp only [List.length_cons] at *; omega),
            List.length_drop, List.length_cons]
          rcases hroom with h | h
          · rw [h]
            omega
          · rw [h]
            omega

end Frames

/-! ### A call of `recv` -/

/-- Frames as messages on a line. -/
def wire (addr bus : Nat) (frames : List (List UInt8)) : List CanMessage :=
  frames.map fun dat => ⟨addr, dat, bus⟩

/-- Frames for which there is room are all taken. -/
theorem takeFrames_wire {cnt addr bus : Nat} (frames ret : List (List UInt8))
    (hroom : ret.length + frames.length ≤ cnt) :
    takeFrames cnt addr bus (wire addr bus frames) ret = (ret ++ frames, []) := by
  induction frames generalizing ret with
  | nil => rw [List.append_nil]; rfl
  | cons dat frames ih =>
      rw [List.length_cons] at hroom
      have htake : ret.length < cnt := by omega
      have hrest : (ret ++ [dat]).length + frames.length ≤ cnt := by
        rw [List.length_append, List.length_singleton]
        omega
      have hnext := ih (ret ++ [dat]) hrest
      rw [List.append_assoc] at hnext
      rw [wire, List.map_cons, takeFrames, if_pos ⟨rfl, rfl, htake⟩]
      exact hnext

theorem recvBody_wire {cnt addr bus : Nat} (frames ret : List (List UInt8))
    (hroom : ret.length + frames.length ≤ cnt) :
    recvBody cnt addr bus (wire addr bus frames) [] ret = (ret ++ frames, []) := by
  rw [recvBody, List.nil_append, takeFrames_wire frames ret hroom]
  rfl

/-! ### A call of `isotp_send` -/

/-- A longer payload starts with its first frame, under any sub-address. -/
theorem isotpSend_long {x : List UInt8} {subaddr : Option UInt8} (addr bus recvaddr : Nat)
    (hshort : x.length ≤ 4095) (hlong : ¬ x.length ≤ if subaddr.isSome then 6 else 7) :
    isotpSend x addr bus recvaddr subaddr =
      { addr, bus, recvaddr
        port := ⟨[], wire addr bus [(firstFrame x subaddr).1]⟩
        phase := .waiting (sendsLoop subaddr (firstFrame x subaddr).2.length 1
          (firstFrame x subaddr).2) } := by
  have hhigh : ¬ 0x10 + (x.length >>> 8) > 0xFF := by
    rw [Nat.shiftRight_eq_div_pow]
    omega
  unfold isotpSend
  cases subaddr with
  | none =>
      dsimp only
      rw [if_neg (by exact hlong), if_neg hhigh]
      rfl
  | some subaddr =>
      dsimp only
      rw [if_neg (by exact hlong), if_neg hhigh]
      rfl

theorem sendAll_wire (p : Sender) (frames : List (List UInt8)) :
    frames.foldl (fun p s => p.canSend s p.bus) p =
      { p with
        port.tx := p.port.tx ++ wire p.addr p.bus frames } := by
  induction frames generalizing p with
  | nil => simp only [List.foldl_nil, wire, List.map_nil, List.append_nil]
  | cons frame frames ih =>
      rw [List.foldl_cons, ih]
      simp only [Sender.canSend, CanPort.canSend, wire, List.map_cons, List.append_assoc,
        List.singleton_append]

/-! ### The exchange -/

/-- A payload of at most 4095 bytes. If it takes more than one frame, the sub-address
is not zero. -/
structure Exchange where
  addr : Nat
  recvaddr : Nat
  bus : Nat
  subaddr : Option UInt8
  x : List UInt8
  short : x.length ≤ 4095
  named : x.length + subaddr.toList.length ≤ 7 ∨ subaddr ≠ some 0

/-- Where both calls are: the first message is on its way, flow control is, or the
consecutive frames are of which the receiver has some. -/
inductive Stage where
  | first
  | asked
  | sent (taken : Nat)
  | done

namespace Exchange

/-- The payload fits into a single frame. -/
def Single (t : Exchange) : Prop := t.x.length + t.subaddr.toList.length ≤ 7

instance (t : Exchange) : Decidable t.Single := inferInstanceAs (Decidable (_ ≤ _))

/-- The first message of the sender. -/
def opening (t : Exchange) : List UInt8 :=
  if t.Single then t.subaddr.toList ++ (msg t.x).take (8 - t.subaddr.toList.length)
  else (firstFrame t.x t.subaddr).1

/-- The consecutive frames. -/
def sends (t : Exchange) : List (List UInt8) :=
  sendsLoop t.subaddr (firstFrame t.x t.subaddr).2.length 1 (firstFrame t.x t.subaddr).2

/-- Flow control. -/
def proceed (t : Exchange) : List UInt8 := ljust 8 (t.subaddr.toList ++ [0x30])

/-- The data of the first frame. -/
def head (t : Exchange) : List UInt8 := t.x.take (6 - t.subaddr.toList.length)

def Occurs (t : Exchange) : Stage → Prop
  | .first | .done => True
  | .asked => ¬ t.Single
  | .sent taken => ¬ t.Single ∧ taken < t.sends.length

def toReceiver (t : Exchange) : Stage → List (List UInt8)
  | .first => [t.opening]
  | .sent taken => t.sends.drop taken
  | .asked | .done => []

def toSender (t : Exchange) : Stage → List (List UInt8)
  | .asked => [t.proceed]
  | .first | .sent _ | .done => []

def sendPhase (t : Exchange) : Stage → SendPhase
  | .first => if t.Single then .returned else .waiting t.sends
  | .asked => .waiting t.sends
  | .sent _ | .done => .returned

def recvPhase (t : Exchange) : Stage → RecvPhase
  | .first => .first
  | .asked => .rest t.x.length t.head []
  | .sent taken => .rest t.x.length t.head (t.sends.take taken)
  | .done => .returned t.x

/-- How many messages will still be sent. -/
def unsent (t : Exchange) : Stage → Nat
  | .first => if t.Single then 0 else t.sends.length + 1
  | .asked => t.sends.length
  | .sent _ | .done => 0

/-- Both calls in a stage: the batches that were delivered to each and the frames that
it has sent. -/
def inStage (t : Exchange) (stage : Stage) (heardS : List (List (List UInt8)))
    (sentS : List (List UInt8)) (heardR : List (List (List UInt8)))
    (sentR : List (List UInt8)) : Calls where
  sender :=
    { addr := t.addr
      bus := t.bus
      recvaddr := t.recvaddr
      port := ⟨heardS.map (wire t.recvaddr t.bus), wire t.addr t.bus sentS⟩
      phase := t.sendPhase stage }
  receiver :=
    { addr := t.addr
      bus := t.bus
      sendaddr := t.recvaddr
      subaddr := t.subaddr
      port := ⟨heardR.map (wire t.addr t.bus), wire t.recvaddr t.bus sentR⟩
      phase := t.recvPhase stage }

/-- The calls are in a stage, and the budget covers what is still to move: two for
each message that was not delivered, one for each batch. -/
def Keeps (t : Exchange) (budget : Nat) (p : Calls) : Prop :=
  ∃ stage heardS sentS heardR sentR, t.Occurs stage ∧
    p = t.inStage stage heardS sentS heardR sentR ∧
    heardR.flatten ++ sentS = t.toReceiver stage ∧
    heardS.flatten ++ sentR = t.toSender stage ∧
    budget = 2 * (sentS.length + sentR.length + t.unsent stage) + heardS.length + heardR.length

variable {t : Exchange}

theorem subaddr_named (hlong : ¬ t.Single) : t.subaddr ≠ some 0 :=
  t.named.resolve_left hlong

theorem firstFrame_eq (hlong : ¬ t.Single) :
    firstFrame t.x t.subaddr =
      (t.subaddr.toList ++ .ofNat (0x10 + (t.x.length >>> 8)) ::
        .ofNat (t.x.length &&& 0xFF) :: t.head, t.x.drop (6 - t.subaddr.toList.length)) := by
  rw [firstFrame, truthy_eq (subaddr_named hlong), head]
  cases t.subaddr with
  | none => rfl
  | some subaddr => rfl

/-- The receiver waits for as many consecutive frames as the sender cuts. -/
theorem cnt_eq (hlong : ¬ t.Single) {r : Receiver} (hr : r.subaddr = t.subaddr) :
    r.cnt t.x.length t.head = t.sends.length := by
  have hsub := subaddr_named hlong
  rw [sends, firstFrame_eq hlong, sendsLoop_length hsub 1 (Nat.le_refl _), Receiver.cnt, hr,
    List.length_drop, head, List.length_take]
  unfold Single at hlong
  unfold room
  generalize t.subaddr = subaddr at hlong ⊢
  cases subaddr with
  | none =>
      simp only [Option.toList_none, List.length_nil] at hlong ⊢
      omega
  | some subaddr =>
      simp only [Option.toList_some, List.length_singleton] at hlong ⊢
      omega

theorem sends_pos (hlong : ¬ t.Single) : 0 < t.sends.length := by
  rw [← cnt_eq hlong (r := isotpRecv t.addr t.bus t.recvaddr t.subaddr) rfl, Receiver.cnt, head,
    List.length_take, isotpRecv]
  unfold Single at hlong
  generalize t.subaddr = subaddr at hlong ⊢
  cases subaddr with
  | none =>
      simp only [Option.toList_none, List.length_nil] at hlong ⊢
      omega
  | some subaddr =>
      simp only [Option.toList_some, List.length_singleton] at hlong ⊢
      omega

/-- The frames are fewer than the bytes. -/
theorem sends_lt (hlong : ¬ t.Single) : t.sends.length < t.x.length := by
  rw [← cnt_eq hlong (r := isotpRecv t.addr t.bus t.recvaddr t.subaddr) rfl, Receiver.cnt, head,
    List.length_take, isotpRecv]
  unfold Single at hlong
  generalize t.subaddr = subaddr at hlong ⊢
  cases subaddr with
  | none =>
      simp only [Option.toList_none, List.length_nil] at hlong ⊢
      omega
  | some subaddr =>
      simp only [Option.toList_some, List.length_singleton] at hlong ⊢
      omega

/-! ### The receiver -/

theorem received_named {r : Receiver} (hr : r.subaddr = t.subaddr) (m : List UInt8) :
    r.received (t.subaddr.toList ++ m) = r.start m := by
  unfold Receiver.received
  rw [hr]
  cases t.subaddr with
  | none => rfl
  | some subaddr => exact if_neg (not_not_intro rfl)

theorem received_single (hsingle : t.Single) {r : Receiver} (hr : r.subaddr = t.subaddr) :
    r.received t.opening = { r with phase := .returned t.x } := by
  have hfits : t.x.length ≤ 7 - t.subaddr.toList.length := by
    unfold Single at hsingle
    omega
  have htag : 8 - t.subaddr.toList.length = 7 - t.subaddr.toList.length + 1 := by
    cases t.subaddr with
    | none => rfl
    | some subaddr => rfl
  obtain ⟨⟨htype, hnumber⟩, -, -⟩ := typeBits t.x.length (by omega)
  have hdat : ((t.x ++ List.replicate (8 - (t.x.length + 1)) 0).take
      (7 - t.subaddr.toList.length)).take t.x.length = t.x := by
    rw [List.take_take, Nat.min_eq_left hfits, List.take_left]
  rw [opening, if_pos hsingle, received_named hr, htag, msg, ljust, List.cons_append,
    List.take_succ_cons, List.length_cons]
  unfold Receiver.start
  dsimp only
  rw [htype, hnumber, if_neg (by decide), if_pos rfl, hdat]

theorem received_first (hlong : ¬ t.Single) {r : Receiver} (hr : r.subaddr = t.subaddr) :
    r.received t.opening =
      { r with
        port := r.port.canSend r.sendaddr t.proceed r.bus
        phase := .rest t.x.length t.head [] } := by
  have hshort := t.short
  have hhigh : t.x.length >>> 8 < 16 := by
    rw [Nat.shiftRight_eq_div_pow]
    omega
  obtain ⟨-, ⟨htype, hnumber⟩, -⟩ := typeBits (t.x.length >>> 8) hhigh
  have hlow : (UInt8.ofNat (t.x.length &&& 0xFF)).toNat = t.x.length % 2 ^ 8 := by
    rw [UInt8.toNat_ofNat', Nat.and_two_pow_sub_one_eq_mod t.x.length 8, Nat.mod_mod]
  have hlen : (t.x.length >>> 8) <<< 8 ||| t.x.length % 2 ^ 8 = t.x.length := by
    rw [← Nat.shiftLeft_add_eq_or_of_lt (Nat.mod_lt _ (Nat.two_pow_pos 8)), Nat.shiftLeft_eq,
      Nat.shiftRight_eq_div_pow]
    omega
  have hcnt : ¬ ([] : List (List UInt8)).length ≥ _ := Nat.not_le.mpr (sends_pos hlong)
  rw [opening, if_neg hlong, firstFrame_eq hlong, received_named hr, Receiver.start, htype,
    if_pos rfl]
  dsimp only
  rw [hnumber, hlow, hlen, Receiver.await, cnt_eq hlong (by exact hr),
    if_pos (Nat.not_le.mp hcnt), hr]
  rfl

/-- With some of the consecutive frames the receiver waits, with all of them it has the
payload. -/
theorem await_eq (hlong : ¬ t.Single) {r : Receiver} (hr : r.subaddr = t.subaddr)
    {taken : Nat} (htaken : taken ≤ t.sends.length) :
    r.await t.x.length t.head (t.sends.take taken) =
      { r with phase :=
        if taken < t.sends.length then .rest t.x.length t.head (t.sends.take taken)
        else .returned t.x } := by
  rw [Receiver.await, cnt_eq hlong hr, List.length_take_of_le htaken]
  split
  · rfl
  · rename_i hmissing
    have hdat : t.head ++ (firstFrame t.x t.subaddr).2 = t.x := by
      rw [firstFrame_eq hlong, head, List.take_append_drop]
    obtain ⟨padding, hgather⟩ := gather_sends (x := (firstFrame t.x t.subaddr).2)
      (subaddr_named hlong) 1 (Nat.le_refl _) t.head
    have hall : Receiver.gather r.subaddr 1 t.sends t.head = .ok (t.x ++ padding) := by
      rw [hr, sends, hgather, hdat]
    rw [List.take_of_length_le (Nat.not_lt.mp hmissing), hall]
    dsimp only
    rw [List.take_left]

/-! ### Steps -/

variable {stage : Stage} {heardS heardR : List (List (List UInt8))}
  {sentS sentR : List (List UInt8)}

theorem deliver_wire (addr bus k : Nat) (heard : List (List (List UInt8)))
    (sent : List (List UInt8)) (rx : List (List CanMessage)) (tx : List CanMessage) :
    CanPort.deliver k ⟨rx, wire addr bus sent⟩ ⟨heard.map (wire addr bus), tx⟩ =
      (⟨rx, wire addr bus (sent.drop k)⟩,
        ⟨(heard ++ [sent.take k]).map (wire addr bus), tx⟩) := by
  simp only [CanPort.deliver, wire, List.map_append, List.map_cons, List.map_nil, List.map_take,
    List.map_drop]

theorem wire_eq_nil {addr bus : Nat} {frames : List (List UInt8)} :
    wire addr bus frames = [] ↔ frames = [] := List.map_eq_nil_iff

/-- What a delivery costs and saves. -/
theorem delivery_budget (k : Nat) (sent : List (List UInt8)) :
    2 * (sent.drop k).length + 1 + (if k ≠ 0 ∧ sent ≠ [] then 1 else 0) ≤
      2 * sent.length + if k = 0 ∨ sent = [] then 1 else 0 := by
  have hnil : sent = [] ↔ sent.length = 0 := List.length_eq_zero_iff.symm
  simp only [ne_eq, hnil, List.length_drop]
  split
  · omega
  · split
    · omega
    · omega

theorem Keeps.deliver_sender {budget : Nat} {p : Calls} (h : t.Keeps budget p) (k : Nat) :
    ∃ lower, t.Keeps lower (p.step (.deliver .sender k)) ∧
      lower + (if p.useful (.deliver .sender k) then 1 else 0) ≤
        budget + if p.idle (.deliver .sender k) then 1 else 0 := by
  obtain ⟨stage, heardS, sentS, heardR, sentR, hoccurs, rfl, hreceiver, hsender, rfl⟩ := h
  refine ⟨_, ⟨stage, heardS, sentS.drop k, heardR ++ [sentS.take k], sentR, hoccurs, ?_, ?_,
    hsender, rfl⟩, ?_⟩
  · simp only [Calls.step, inStage, deliver_wire]
  · rw [List.flatten_append, List.flatten_singleton, List.append_assoc,
      List.take_append_drop]
    exact hreceiver
  · have hbudget := delivery_budget k sentS
    simp only [Calls.useful, Calls.idle, Calls.port, inStage, wire_eq_nil, List.length_append,
      List.length_singleton, Bool.and_eq_true, Bool.or_eq_true, decide_eq_true_eq, ne_eq]
      at hbudget ⊢
    omega

theorem Keeps.deliver_receiver {budget : Nat} {p : Calls} (h : t.Keeps budget p) (k : Nat) :
    ∃ lower, t.Keeps lower (p.step (.deliver .receiver k)) ∧
      lower + (if p.useful (.deliver .receiver k) then 1 else 0) ≤
        budget + if p.idle (.deliver .receiver k) then 1 else 0 := by
  obtain ⟨stage, heardS, sentS, heardR, sentR, hoccurs, rfl, hreceiver, hsender, rfl⟩ := h
  refine ⟨_, ⟨stage, heardS ++ [sentR.take k], sentS, heardR, sentR.drop k, hoccurs, ?_,
    hreceiver, ?_, rfl⟩, ?_⟩
  · simp only [Calls.step, inStage, deliver_wire]
  · rw [List.flatten_append, List.flatten_singleton, List.append_assoc,
      List.take_append_drop]
    exact hsender
  · have hbudget := delivery_budget k sentR
    simp only [Calls.useful, Calls.idle, Calls.port, inStage, wire_eq_nil, List.length_append,
      List.length_singleton, Bool.and_eq_true, Bool.or_eq_true, decide_eq_true_eq, ne_eq]
      at hbudget ⊢
    omega

theorem canRecv_wire (addr bus : Nat) (heard : List (List (List UInt8)))
    (tx : List CanMessage) :
    CanPort.canRecv ⟨heard.map (wire addr bus), tx⟩ =
      (wire addr bus (heard.headD []), ⟨heard.tail.map (wire addr bus), tx⟩) := by
  cases heard with
  | nil => rfl
  | cons batch heard => rfl

theorem flatten_headD (heard : List (List (List UInt8))) :
    heard.flatten = heard.headD [] ++ heard.tail.flatten := by
  cases heard with
  | nil => rfl
  | cons batch heard => rfl

/-- A side that takes the next batch saves it. -/
theorem taken_budget (heard : List (List (List UInt8))) :
    heard.tail.length + (if heard ≠ [] then 1 else 0) = heard.length := by
  cases heard with
  | nil => rfl
  | cons batch heard => rfl

/-- A step of the receiver that takes a batch and leads to a stage that costs no more. -/
theorem Keeps.of_receiver (next : Stage) (replies : List (List UInt8))
    (hstep : (t.inStage stage heardS sentS heardR sentR).receiver.step =
      (t.inStage next heardS sentS heardR.tail replies).receiver)
    (hphase : t.sendPhase next = t.sendPhase stage) (hoccurs : t.Occurs next)
    (hreceiver : heardR.tail.flatten ++ sentS = t.toReceiver next)
    (hsender : heardS.flatten ++ replies = t.toSender next)
    (hcost : replies.length + t.unsent next ≤ sentR.length + t.unsent stage) :
    ∃ lower, t.Keeps lower ((t.inStage stage heardS sentS heardR sentR).step (.step .receiver)) ∧
      lower + (if (t.inStage stage heardS sentS heardR sentR).useful (.step .receiver)
        then 1 else 0) ≤
        2 * (sentS.length + sentR.length + t.unsent stage) + heardS.length + heardR.length := by
  have hnext : (t.inStage stage heardS sentS heardR sentR).step (.step .receiver) =
      t.inStage next heardS sentS heardR.tail replies := by
    rw [Calls.step, hstep]
    simp only [inStage, hphase]
  refine ⟨_, ⟨next, heardS, sentS, heardR.tail, replies, hoccurs, hnext, hreceiver, hsender,
    rfl⟩, ?_⟩
  have htaken := taken_budget heardR
  have huseful : (t.inStage stage heardS sentS heardR sentR).useful (.step .receiver) = true →
      heardR ≠ [] := by
    intro huseful hnone
    rw [hnone, Calls.useful] at huseful
    exact Bool.false_ne_true ((Bool.and_false _).symm.trans huseful)
  split
  · rename_i hmoves
    rw [if_pos (huseful hmoves)] at htaken
    omega
  · omega

/-- A step of the sender that takes a batch and leads to a stage that costs no more. -/
theorem Keeps.of_sender (next : Stage) (frames : List (List UInt8))
    (hstep : (t.inStage stage heardS sentS heardR sentR).sender.step =
      (t.inStage next heardS.tail frames heardR sentR).sender)
    (hphase : t.recvPhase next = t.recvPhase stage) (hoccurs : t.Occurs next)
    (hreceiver : heardR.flatten ++ frames = t.toReceiver next)
    (hsender : heardS.tail.flatten ++ sentR = t.toSender next)
    (hcost : frames.length + t.unsent next ≤ sentS.length + t.unsent stage) :
    ∃ lower, t.Keeps lower ((t.inStage stage heardS sentS heardR sentR).step (.step .sender)) ∧
      lower + (if (t.inStage stage heardS sentS heardR sentR).useful (.step .sender)
        then 1 else 0) ≤
        2 * (sentS.length + sentR.length + t.unsent stage) + heardS.length + heardR.length := by
  have hnext : (t.inStage stage heardS sentS heardR sentR).step (.step .sender) =
      t.inStage next heardS.tail frames heardR sentR := by
    rw [Calls.step, hstep]
    simp only [inStage, hphase]
  refine ⟨_, ⟨next, heardS.tail, frames, heardR, sentR, hoccurs, hnext, hreceiver, hsender,
    rfl⟩, ?_⟩
  have htaken := taken_budget heardS
  have huseful : (t.inStage stage heardS sentS heardR sentR).useful (.step .sender) = true →
      heardS ≠ [] := by
    intro huseful hnone
    rw [hnone, Calls.useful] at huseful
    exact Bool.false_ne_true ((Bool.and_false _).symm.trans huseful)
  split
  · rename_i hmoves
    rw [if_pos (huseful hmoves)] at htaken
    omega
  · omega

/-- The receiver with an empty batch, while it waits for the first message. -/
theorem receiver_step_none (hbatch : heardR.headD [] = []) :
    (t.inStage .first heardS sentS heardR sentR).receiver.step =
      (t.inStage .first heardS sentS heardR.tail sentR).receiver := by
  simp only [inStage, recvPhase, Receiver.step, canRecv_wire, hbatch]
  rw [recvBody_wire [] [] (Nat.zero_le 1)]
  rfl

/-- The receiver with the first message. -/
theorem receiver_step_first {m : List UInt8} (hbatch : heardR.headD [] = [m]) :
    (t.inStage .first heardS sentS heardR sentR).receiver.step =
      (t.inStage .first heardS sentS heardR.tail sentR).receiver.received m := by
  simp only [inStage, recvPhase, Receiver.step, canRecv_wire, hbatch]
  rw [recvBody_wire [m] [] (Nat.le_refl 1)]
  rfl

/-- The receiver with the next batch of consecutive frames. -/
theorem receiver_step_rest (stage : Stage) (hlong : ¬ t.Single) {taken : Nat}
    (hphase : t.recvPhase stage = .rest t.x.length t.head (t.sends.take taken))
    (htaken : taken + (heardR.headD []).length ≤ t.sends.length)
    (hbatch : t.sends.take taken ++ heardR.headD [] =
      t.sends.take (taken + (heardR.headD []).length)) :
    (t.inStage stage heardS sentS heardR sentR).receiver.step =
      { (t.inStage stage heardS sentS heardR.tail sentR).receiver with
        phase :=
          if taken + (heardR.headD []).length < t.sends.length then
            .rest t.x.length t.head (t.sends.take (taken + (heardR.headD []).length))
          else .returned t.x } := by
  simp only [inStage, hphase, Receiver.step, canRecv_wire]
  rw [recvBody_wire, hbatch]
  · exact await_eq hlong rfl htaken
  · rw [cnt_eq hlong rfl, List.length_take]
    omega

theorem Keeps.step_receiver {budget : Nat} {p : Calls} (h : t.Keeps budget p) :
    ∃ lower, t.Keeps lower (p.step (.step .receiver)) ∧
      lower + (if p.useful (.step .receiver) then 1 else 0) ≤ budget := by
  have hkeeps := h
  obtain ⟨stage, heardS, sentS, heardR, sentR, hoccurs, rfl, hreceiver, hsender, rfl⟩ := h
  rw [flatten_headD, List.append_assoc] at hreceiver
  cases stage with
  | first =>
      rcases List.append_eq_singleton_iff.mp hreceiver with ⟨hbatch, hrest⟩ | ⟨hbatch, hrest⟩
      · refine Keeps.of_receiver .first sentR ?_ rfl hoccurs hrest hsender
          (Nat.le_refl _)
        exact receiver_step_none hbatch
      · have hstep : (t.inStage .first heardS sentS heardR sentR).receiver.step =
            (t.inStage .first heardS sentS heardR.tail sentR).receiver.received t.opening :=
          receiver_step_first hbatch
        by_cases hsingle : t.Single
        · refine Keeps.of_receiver .done sentR ?_
            (if_pos hsingle).symm trivial hrest hsender (Nat.add_le_add_left (Nat.zero_le _) _)
          rw [hstep, received_single hsingle rfl]
          rfl
        · obtain ⟨hheard, rfl⟩ := List.append_eq_nil_iff.mp hsender
          have hphase : t.sendPhase .first = .waiting t.sends := if_neg hsingle
          refine Keeps.of_receiver .asked [t.proceed] ?_ hphase.symm hsingle hrest
            (by rw [hheard]; rfl) ?_
          · rw [hstep, received_first hsingle rfl]
            rfl
          · rw [unsent, unsent, if_neg hsingle, List.length_singleton, List.length_nil]
            omega
  | asked =>
      obtain ⟨hbatch, hrest⟩ := List.append_eq_nil_iff.mp hreceiver
      refine Keeps.of_receiver .asked sentR ?_ rfl hoccurs hrest hsender
        (Nat.le_refl _)
      have hwaits : 0 + (heardR.headD []).length < t.sends.length := by
        rw [hbatch]
        exact sends_pos hoccurs
      rw [receiver_step_rest .asked hoccurs rfl (Nat.le_of_lt hwaits)
        (by rw [hbatch]; rfl), if_pos hwaits, hbatch]
      rfl
  | sent taken =>
      obtain ⟨hlong, htaken⟩ := hoccurs
      have hlength := congrArg List.length hreceiver
      simp only [toReceiver, List.length_append, List.length_drop] at hlength
      have hbatch : t.sends.take taken ++ heardR.headD [] =
          t.sends.take (taken + (heardR.headD []).length) := by
        rw [List.take_add, ← show _ = t.sends.drop taken from hreceiver, List.take_left]
      have hrest : heardR.tail.flatten ++ sentS =
          t.sends.drop (taken + (heardR.headD []).length) := by
        rw [← List.drop_drop, ← show _ = t.sends.drop taken from hreceiver, List.drop_left]
      have hfits : taken + (heardR.headD []).length ≤ t.sends.length := by omega
      have hstep : (t.inStage (.sent taken) heardS sentS heardR sentR).receiver.step = _ :=
        receiver_step_rest (.sent taken) hlong rfl hfits hbatch
      by_cases hall : taken + (heardR.headD []).length < t.sends.length
      · rw [if_pos hall] at hstep
        exact Keeps.of_receiver (.sent _) sentR hstep rfl ⟨hlong, hall⟩ hrest hsender
          (Nat.le_refl _)
      · rw [if_neg hall] at hstep
        rw [List.drop_of_length_le (Nat.not_lt.mp hall)] at hrest
        exact Keeps.of_receiver .done sentR hstep rfl trivial hrest hsender (Nat.le_refl _)
  | done => exact ⟨_, hkeeps, Nat.le_refl _⟩

/-- Flow control does not ask for a block size of one. -/
theorem proceed_asks (t : Exchange) : Sender.asksOneByOne t.proceed = false := by
  rw [proceed]
  cases t.subaddr with
  | none => rfl
  | some subaddr =>
      have hpair := Bool.and_false (subaddr == 0x30)
      exact congrArg (· || false) hpair

/-- The sender with an empty batch, while it waits for flow control. -/
theorem sender_step_none (hphase : t.sendPhase stage = .waiting t.sends)
    (hbatch : heardS.headD [] = []) :
    (t.inStage stage heardS sentS heardR sentR).sender.step =
      (t.inStage stage heardS.tail sentS heardR sentR).sender := by
  have hwaits : (t.inStage stage heardS sentS heardR sentR).sender.waits = true := by
    rw [Sender.waits, inStage, hphase]
  rw [Sender.step, if_pos hwaits]
  simp only [inStage, canRecv_wire, hbatch]
  rw [recvBody_wire [] [] (Nat.zero_le 1)]
  rfl

/-- The sender with an answer. -/
theorem sender_step_answered {rr : List UInt8} (hphase : t.sendPhase stage = .waiting t.sends)
    (hbatch : heardS.headD [] = [rr]) :
    (t.inStage stage heardS sentS heardR sentR).sender.step =
      (t.inStage stage heardS.tail sentS heardR sentR).sender.answered rr := by
  have hwaits : (t.inStage stage heardS sentS heardR sentR).sender.waits = true := by
    rw [Sender.waits, inStage, hphase]
  rw [Sender.step, if_pos hwaits]
  simp only [inStage, canRecv_wire, hbatch]
  rw [recvBody_wire [rr] [] (Nat.le_refl 1)]
  rfl

theorem Keeps.step_sender {budget : Nat} {p : Calls} (h : t.Keeps budget p) :
    ∃ lower, t.Keeps lower (p.step (.step .sender)) ∧
      lower + (if p.useful (.step .sender) then 1 else 0) ≤ budget := by
  have hkeeps := h
  obtain ⟨stage, heardS, sentS, heardR, sentR, hoccurs, rfl, hreceiver, hsender, rfl⟩ := h
  rw [flatten_headD, List.append_assoc] at hsender
  cases stage with
  | first =>
      by_cases hsingle : t.Single
      · have hphase : t.sendPhase .first = .returned := if_pos hsingle
        have hwaits : (t.inStage .first heardS sentS heardR sentR).sender.waits = false := by
          rw [Sender.waits, inStage, hphase]
        have hstep : (t.inStage .first heardS sentS heardR sentR).sender.step =
            (t.inStage .first heardS sentS heardR sentR).sender := by
          rw [Sender.step, hwaits]
          exact if_neg Bool.false_ne_true
        rw [Calls.step, hstep, Calls.useful, Calls.waits, hwaits]
        exact ⟨_, hkeeps, Nat.le_refl _⟩
      · obtain ⟨hbatch, hrest⟩ := List.append_eq_nil_iff.mp hsender
        refine Keeps.of_sender .first sentS ?_ rfl hoccurs hreceiver hrest
          (Nat.le_refl _)
        have hphase : t.sendPhase .first = .waiting t.sends := if_neg hsingle
        exact sender_step_none hphase hbatch
  | asked =>
      rcases List.append_eq_singleton_iff.mp hsender with ⟨hbatch, hrest⟩ | ⟨hbatch, hrest⟩
      · refine Keeps.of_sender .asked sentS ?_ rfl hoccurs hreceiver hrest
          (Nat.le_refl _)
        exact sender_step_none rfl hbatch
      · obtain ⟨hheard, rfl⟩ := List.append_eq_nil_iff.mp hreceiver
        refine Keeps.of_sender (.sent 0) t.sends ?_ rfl ⟨hoccurs, sends_pos hoccurs⟩
          (by rw [hheard]; rfl) hrest ?_
        · rw [sender_step_answered rfl hbatch]
          simp only [Sender.answered, inStage, sendPhase, proceed_asks t,
            Bool.false_eq_true, if_false, Sender.sendAll, sendAll_wire]
          rfl
        · rw [unsent, unsent, List.length_nil]
          omega
  | sent taken => exact ⟨_, hkeeps, Nat.le_refl _⟩
  | done => exact ⟨_, hkeeps, Nat.le_refl _⟩

theorem Keeps.step {budget : Nat} {p : Calls} (h : t.Keeps budget p) (e : CallEvent) :
    ∃ lower, t.Keeps lower (p.step e) ∧
      lower + (if p.useful e then 1 else 0) ≤ budget + if p.idle e then 1 else 0 := by
  cases e with
  | deliver source k =>
      cases source with
      | sender => exact h.deliver_sender k
      | receiver => exact h.deliver_receiver k
  | step side =>
      cases side with
      | sender => exact h.step_sender
      | receiver => exact h.step_receiver

/-! ### The calls from their start -/

/-- A call that waits for nothing or for flow control, and one that waits for frames
or has the payload. -/
theorem Keeps.clean {budget : Nat} {p : Calls} (h : t.Keeps budget p) : p.Clean := by
  obtain ⟨stage, heardS, sentS, heardR, sentR, hoccurs, rfl, -⟩ := h
  refine ⟨?_, ?_⟩
  · intro exc hraised
    cases stage with
    | first =>
        rw [inStage, sendPhase] at hraised
        split at hraised
        · cases hraised
        · cases hraised
    | asked => cases hraised
    | sent taken => cases hraised
    | done => cases hraised
  · intro exc hraised
    cases stage with
    | first => cases hraised
    | asked => cases hraised
    | sent taken => cases hraised
    | done => cases hraised

theorem Keeps.returned {budget : Nat} {p : Calls} (h : t.Keeps budget p) {dat : List UInt8}
    (hdat : p.receiver.phase = .returned dat) : dat = t.x := by
  obtain ⟨stage, heardS, sentS, heardR, sentR, hoccurs, rfl, -⟩ := h
  cases stage with
  | first => cases hdat
  | asked => cases hdat
  | sent taken => cases hdat
  | done => exact (RecvPhase.returned.inj hdat).symm

/-- With nothing left to move, both calls have returned. -/
theorem Keeps.quiet {budget : Nat} {p : Calls} (h : t.Keeps budget p) (hquiet : p.Quiet) :
    p.sender.phase = .returned ∧ p.receiver.phase = .returned t.x := by
  obtain ⟨stage, heardS, sentS, heardR, sentR, hoccurs, rfl, hreceiver, hsender, -⟩ := h
  obtain ⟨hstx, hsrx⟩ := hquiet .sender
  obtain ⟨hrtx, hrrx⟩ := hquiet .receiver
  obtain rfl := wire_eq_nil.mp hstx
  obtain rfl := wire_eq_nil.mp hrtx
  have hheardR (hwaits : (t.inStage stage heardS [] heardR []).receiver.waits = true) :
      t.toReceiver stage = [] := by
    obtain rfl := List.map_eq_nil_iff.mp
      (hrrx.resolve_left (ne_false_of_eq_true hwaits))
    exact hreceiver.symm
  cases stage with
  | first => exact absurd (hheardR rfl) (List.cons_ne_nil _ _)
  | asked =>
      obtain rfl := List.map_eq_nil_iff.mp
        (hsrx.resolve_left (ne_false_of_eq_true rfl))
      exact absurd hsender.symm (List.cons_ne_nil _ _)
  | sent taken =>
      exact absurd (List.drop_eq_nil_iff.mp (hheardR rfl)) (Nat.not_le.mpr hoccurs.2)
  | done => exact ⟨rfl, rfl⟩

theorem single_iff (t : Exchange) :
    t.Single ↔ t.x.length ≤ if t.subaddr.isSome then 6 else 7 := by
  unfold Single
  cases t.subaddr with
  | none => exact Iff.rfl
  | some subaddr => exact Nat.add_le_add_iff_right (k := 6) (n := 1)

theorem isotpSend_single (hsingle : t.Single) :
    isotpSend t.x t.addr t.bus t.recvaddr t.subaddr =
      (t.inStage .first [] [t.opening] [] []).sender := by
  have hshort := t.single_iff.mp hsingle
  simp only [inStage, opening, sendPhase, if_pos hsingle]
  unfold isotpSend
  generalize t.subaddr = subaddr at hshort ⊢
  cases subaddr with
  | none =>
      have hwhole : (msg t.x).take 8 = msg t.x := by
        apply List.take_of_length_le
        simp only [msg, ljust, List.length_append, List.length_cons, List.length_replicate]
        have hle : t.x.length ≤ 7 := hshort
        omega
      dsimp only
      rw [if_pos (by exact hshort), Option.toList_none, List.nil_append, List.length_nil,
        Nat.sub_zero, hwhole]
      rfl
  | some subaddr =>
      dsimp only
      rw [if_pos (by exact hshort)]
      rfl

theorem start_eq (t : Exchange) :
    calls t.addr t.recvaddr t.bus t.subaddr t.x = t.inStage .first [] [t.opening] [] [] := by
  have hsender : isotpSend t.x t.addr t.bus t.recvaddr t.subaddr =
      (t.inStage .first [] [t.opening] [] []).sender := by
    by_cases hsingle : t.Single
    · exact isotpSend_single hsingle
    · rw [isotpSend_long t.addr t.bus t.recvaddr t.short (mt t.single_iff.mpr hsingle)]
      simp only [inStage, opening, sendPhase, if_neg hsingle]
      rfl
  rw [calls, hsender]
  rfl

theorem keeps_start (t : Exchange) :
    ∃ budget ≤ 2 * (t.x.length + 2),
      t.Keeps budget (calls t.addr t.recvaddr t.bus t.subaddr t.x) := by
  rw [start_eq]
  refine ⟨_, ?_, .first, [], [t.opening], [], [], trivial, rfl, rfl, rfl, rfl⟩
  rw [unsent]
  split
  · simp only [List.length_nil, List.length_singleton]
    omega
  · rename_i hlong
    have hlt := sends_lt hlong
    simp only [List.length_nil, List.length_singleton]
    omega

/-- The payload is returned in every run. -/
theorem roundTrips (t : Exchange) : RoundTrips t.addr t.recvaddr t.bus t.subaddr t.x := by
  intro es
  obtain ⟨budget, hbudget, hstart⟩ := t.keeps_start
  obtain ⟨⟨lower, hlast⟩, hcount⟩ := countAlong_le_budget (I := t.Keeps)
    (fun budget p e h => h.step e) hstart es
  refine ⟨hlast.clean, fun dat hdat => hlast.returned hdat, ?_, hlast.quiet⟩
  exact Nat.le_trans hcount (Nat.add_le_add_right hbudget _)

end Exchange

/-! ### Where it fails -/

/-- A longer payload under the sub-address zero is sent without it, and the receiver
takes the type of the frame for the sub-address. -/
theorem not_roundTrips (addr recvaddr bus : Nat) {x : List UInt8} (hshort : x.length ≤ 4095)
    (hlong : ¬ x.length ≤ 6) : ¬ RoundTrips addr recvaddr bus (some 0) x := by
  intro htrips
  obtain ⟨⟨-, hclean⟩, -⟩ := htrips [.deliver .sender 1, .step .receiver]
  apply hclean .assertionError
  have htype : UInt8.ofNat (0x10 + (x.length >>> 8)) ≠ 0 := by
    have hhigh : x.length >>> 8 < 16 := by
      rw [Nat.shiftRight_eq_div_pow]
      omega
    obtain ⟨-, ⟨hfirst, -⟩, -⟩ := typeBits (x.length >>> 8) hhigh
    intro hzero
    rw [hzero] at hfirst
    cases hfirst
  have hframe : (firstFrame x (some 0)).1 = .ofNat (0x10 + (x.length >>> 8)) ::
      .ofNat (x.length &&& 0xFF) :: x.take 6 := rfl
  have hbody : recvBody 1 addr bus (wire addr bus [(firstFrame x (some 0)).1]) [] [] =
      ([(firstFrame x (some 0)).1], []) := recvBody_wire _ [] (Nat.le_refl 1)
  have hsend : isotpSend x addr bus recvaddr (some 0) = _ :=
    isotpSend_long addr bus recvaddr hshort hlong
  simp only [run, calls, hsend]
  have hstep : ({ isotpRecv addr bus recvaddr (some 0) with
      port := ⟨[wire addr bus [(firstFrame x (some 0)).1]], []⟩ } : Receiver).step =
      (isotpRecv addr bus recvaddr (some 0)).received (firstFrame x (some 0)).1 := by
    simp only [isotpRecv, Receiver.step, CanPort.canRecv, hbody]
  refine (congrArg Receiver.phase hstep).trans ?_
  rw [hframe]
  unfold Receiver.received isotpRecv
  dsimp only
  rw [if_pos htype]

theorem sendsLoop_pos (subaddr : Option UInt8) {x : List UInt8} (hx : 0 < x.length)
    (idx : Nat) : sendsLoop subaddr x.length idx x ≠ [] := by
  obtain ⟨fuel, hfuel⟩ := Nat.exists_eq_add_of_lt hx
  rw [hfuel, sendsLoop, if_pos hx]
  cases truthy subaddr with
  | none => exact List.cons_ne_nil _ _
  | some subaddr => exact List.cons_ne_nil _ _

/-- After the answer with a block size of one, the next frame is on bus 0. -/
theorem not_staysOnBus (addr recvaddr : Nat) {bus : Nat} (hbus : bus ≠ 0)
    {subaddr : Option UInt8} {x : List UInt8} (hshort : x.length ≤ 4095)
    (hlong : ¬ x.length ≤ if subaddr.isSome then 6 else 7) :
    ¬ StaysOnBus addr recvaddr bus subaddr x := by
  intro hstays
  have hall := hstays [[⟨recvaddr, [0x30, 0x01], bus⟩]]
  rw [isotpSend_long addr bus recvaddr hshort hlong] at hall
  have hrest : 0 < (firstFrame x subaddr).2.length := by
    have hlower : 6 < x.length := by
      split at hlong
      · omega
      · omega
    unfold firstFrame
    split
    · rw [List.length_drop]
      omega
    · rw [List.length_drop]
      omega
  have hsends := sendsLoop_pos subaddr hrest 1
  generalize sendsLoop subaddr (firstFrame x subaddr).2.length 1 (firstFrame x subaddr).2 =
    sends at hall hsends
  have hbody : recvBody 1 recvaddr bus (wire recvaddr bus [[0x30, 0x01]]) [] [] =
      ([[0x30, 0x01]], []) := recvBody_wire _ [] (Nat.le_refl 1)
  obtain ⟨s, hs⟩ : ∃ s, (⟨addr, s, 0⟩ : CanMessage) ∈
      ((⟨addr, bus, recvaddr, ⟨[wire recvaddr bus [[0x30, 0x01]]],
        wire addr bus [(firstFrame x subaddr).1]⟩, [], .waiting sends⟩ : Sender).step).port.tx := by
    simp only [Sender.step, Sender.waits, if_true, CanPort.canRecv, hbody, Sender.answered]
    have hasks : Sender.asksOneByOne [0x30, 0x01] = true := rfl
    rw [if_pos hasks]
    cases sends with
    | nil => exact absurd rfl hsends
    | cons s sends =>
        refine ⟨s, ?_⟩
        cases sends with
        | nil => exact List.mem_append_right _ (List.mem_singleton_self _)
        | cons next sends => exact List.mem_append_right _ (List.mem_singleton_self _)
  exact hbus (hall _ hs).symm

/-- What is sent stays on the bus of the call, because it is bus 0 or because the call
has returned. -/
structure Sender.OnBus (nbus : Nat) (p : Sender) : Prop where
  bus : p.bus = nbus
  tx : ∀ m ∈ p.port.tx, m.bus = nbus
  returned : nbus = 0 ∨ p.phase = .returned

namespace Sender

variable {p : Sender}

theorem OnBus.canSend (h : p.OnBus 0) (dat : List UInt8) : (p.canSend dat 0).OnBus 0 where
  bus := h.bus
  tx m hm := by
    rcases List.mem_append.mp hm with hold | hnew
    · exact h.tx m hold
    · rw [List.mem_singleton.mp hnew]
  returned := .inl rfl

theorem OnBus.sendNext (h : p.OnBus 0) (sends : List (List UInt8)) :
    (p.sendNext sends).OnBus 0 := by
  cases sends with
  | nil => exact { h with returned := .inl rfl }
  | cons s sends =>
      cases sends with
      | nil => exact { h.canSend s with returned := .inl rfl }
      | cons next sends => exact { h.canSend s with returned := .inl rfl }

theorem OnBus.sendAll (h : p.OnBus 0) (sends : List (List UInt8)) :
    (p.sendAll sends).OnBus 0 := by
  rw [Sender.sendAll, sendAll_wire]
  refine ⟨h.bus, ?_, .inl rfl⟩
  intro m hm
  rcases List.mem_append.mp hm with hold | hnew
  · exact h.tx m hold
  · obtain ⟨dat, -, rfl⟩ := List.mem_map.mp hnew
    exact h.bus

theorem OnBus.answered (h : p.OnBus 0) (rr : List UInt8) : (p.answered rr).OnBus 0 := by
  unfold Sender.answered
  split
  · split
    · exact h.sendNext _
    · exact h.sendAll _
  · exact h.sendNext _
  · exact h
  · exact h

/-- Taking a batch sends nothing. -/
theorem canRecv_tx (port : CanPort) : port.canRecv.2.tx = port.tx := by
  unfold CanPort.canRecv
  split
  · rfl
  · rfl

theorem OnBus.step {nbus : Nat} (h : p.OnBus nbus) : p.step.OnBus nbus := by
  unfold Sender.step
  split
  · rename_i hwaits
    have hzero : nbus = 0 := by
      apply h.returned.resolve_right
      intro hreturned
      rw [waits, hreturned] at hwaits
      exact Bool.false_ne_true hwaits
    subst hzero
    have htaken (kmsgs : List CanMessage) :
        ({ p with port := p.port.canRecv.2, kmsgs } : Sender).OnBus 0 :=
      ⟨h.bus, canRecv_tx p.port ▸ h.tx, .inl rfl⟩
    dsimp only
    split
    · exact htaken _
    · exact (htaken _).answered _
  · exact h

end Sender

theorem staysOnBus (addr recvaddr : Nat) {bus : Nat} {subaddr : Option UInt8}
    {x : List UInt8} (hshort : x.length ≤ 4095)
    (h : bus = 0 ∨ x.length ≤ if subaddr.isSome then 6 else 7) :
    StaysOnBus addr recvaddr bus subaddr x := by
  intro received
  have hstart : (isotpSend x addr bus recvaddr subaddr).OnBus bus := by
    by_cases hlong : x.length ≤ if subaddr.isSome then 6 else 7
    · have hsingle : x.length + subaddr.toList.length ≤ 7 := by
        cases subaddr with
        | none => exact hlong
        | some subaddr => exact Nat.add_le_add_right hlong 1
      have hsend : isotpSend x addr bus recvaddr subaddr = _ :=
        Exchange.isotpSend_single (t := ⟨addr, recvaddr, bus, subaddr, x, hshort, .inl hsingle⟩)
          hsingle
      rw [hsend]
      refine ⟨rfl, ?_, .inr (if_pos hsingle)⟩
      intro m hm
      rw [List.mem_singleton.mp hm]
    · rw [isotpSend_long addr bus recvaddr hshort hlong]
      refine ⟨rfl, ?_, .inl (h.resolve_right hlong)⟩
      intro m hm
      rw [List.mem_singleton.mp hm]
  have hstep : ∀ p (batch : List CanMessage), Sender.OnBus bus p →
      Sender.OnBus bus (Sender.step { p with
        port.rx := [batch] }) := by
    intro p batch hp
    exact Sender.OnBus.step ⟨hp.bus, hp.tx, hp.returned⟩
  exact (run_invariant hstep hstart received).tx

/-! ### When both hold -/

theorem roundTrips_iff (addr recvaddr bus : Nat) (subaddr : Option UInt8) {x : List UInt8}
    (hshort : x.length ≤ 4095) :
    RoundTrips addr recvaddr bus subaddr x ↔
      (x.length ≤ if subaddr.isSome then 6 else 7) ∨ subaddr ≠ some 0 := by
  constructor
  · intro htrips
    by_contra hfail
    rw [not_or, not_not] at hfail
    obtain ⟨hlong, rfl⟩ := hfail
    exact not_roundTrips addr recvaddr bus hshort hlong htrips
  · intro h
    have hnamed : x.length + subaddr.toList.length ≤ 7 ∨ subaddr ≠ some 0 := by
      cases subaddr with
      | none => exact h
      | some subaddr => exact h.imp_left fun hsingle => Nat.add_le_add_right hsingle 1
    exact Exchange.roundTrips ⟨addr, recvaddr, bus, subaddr, x, hshort, hnamed⟩

theorem staysOnBus_iff (addr recvaddr bus : Nat) (subaddr : Option UInt8) {x : List UInt8}
    (hshort : x.length ≤ 4095) :
    StaysOnBus addr recvaddr bus subaddr x ↔
      (x.length ≤ if subaddr.isSome then 6 else 7) ∨ bus = 0 := by
  constructor
  · intro hstays
    by_contra hfail
    rw [not_or] at hfail
    exact not_staysOnBus addr recvaddr hfail.2 hshort hfail.1 hstays
  · intro h
    exact staysOnBus addr recvaddr hshort h.symm

/-- Both hold for a payload in a single frame, and for a longer one if the sub-address
is not zero and the bus is. -/
theorem roundTrips_staysOnBus_iff (addr recvaddr bus : Nat) (subaddr : Option UInt8)
    (x : List UInt8) (hshort : x.length ≤ 4095) :
    (RoundTrips addr recvaddr bus subaddr x ∧ StaysOnBus addr recvaddr bus subaddr x) ↔
      (x.length ≤ if subaddr.isSome then 6 else 7) ∨ (subaddr ≠ some 0 ∧ bus = 0) := by
  rw [roundTrips_iff addr recvaddr bus subaddr hshort,
    staysOnBus_iff addr recvaddr bus subaddr hshort, or_and_left]

theorem roundTrips_staysOnBus_ten :
    RoundTrips 0x7E8 0x7E0 0 (some 0x0F) (List.replicate 10 1) ∧
      StaysOnBus 0x7E8 0x7E0 0 (some 0x0F) (List.replicate 10 1) :=
  (roundTrips_staysOnBus_iff 0x7E8 0x7E0 0 (some 0x0F) (List.replicate 10 1) (by decide)).mpr
    (.inr ⟨by decide, rfl⟩)

/-- Ten bytes under the sub-address zero do not arrive. -/
theorem not_roundTrips_staysOnBus_zero :
    ¬ (RoundTrips 0x7E8 0x7E0 0 (some 0) (List.replicate 10 1) ∧
      StaysOnBus 0x7E8 0x7E0 0 (some 0) (List.replicate 10 1)) := by
  rintro ⟨htrips, -⟩
  exact not_roundTrips 0x7E8 0x7E0 0 (by decide) (by decide) htrips

end Panda.Host.Isotp
