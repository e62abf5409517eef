import Panda.Host.Xcp

/-!
`python/ccp.py`: `CcpClient` with `_send_cro` and `_recv_dto`. `_recv_dto` returns the
data of the first message for the client that does not ask it to wait: of a command
return message with the counter of the command, but also of an event or of a DAQ
message.
-/

namespace Panda.Host

def commandReturnCodes : List (UInt8 × String) :=
  [(0x00, "acknowledge / no error"),
   (0x01, "DAQ processor overload"),
   (0x10, "command processor busy"),
   (0x11, "DAQ processor busy"),
   (0x12, "internal timeout"),
   (0x18, "key request"),
   (0x19, "session status request"),
   (0x20, "cold start request"),
   (0x21, "cal. data init. request"),
   (0x22, "DAQ list init. request"),
   (0x23, "code update request"),
   (0x30, "unknown command"),
   (0x31, "command syntax"),
   (0x32, "parameter(s) out of range"),
   (0x33, "access denied"),
   (0x34, "overload"),
   (0x35, "access locked"),
   (0x36, "resource/function not available")]

inductive CcpException where
  | commandTimeoutError (message : String)
  | commandCounterError (message : String)
  | commandResponseError (message : String) (returnCode : UInt8)
  | assertionError (message : String)
deriving DecidableEq

def hex (n : Nat) : String := "0x" ++ String.ofList (Nat.toDigits 16 n)

/-- `CcpClient`. As in `XcpClient`, `polls` holds for each test of the time what
`can_recv` returns, or nothing if the time is up. -/
structure CcpClient where
  txAddr : Nat
  rxAddr : Nat
  canBus : Nat := 0
  commandCounter : Int := -1
  polls : List (Option (List CanMessage)) := []
  sent : List PandaCall := []
deriving DecidableEq

namespace CcpClient

def cro (cmd counter : UInt8) (dat : List UInt8) : List UInt8 :=
  let txData := cmd :: counter :: dat
  txData ++ List.replicate (8 - txData.length) 0

def sendCro (cmd : UInt8) (dat : List UInt8) (c : CcpClient) :
    Except CcpException Unit × CcpClient :=
  let commandCounter := (c.commandCounter + 1) % 256
  let txData := cro cmd (.ofNat commandCounter.toNat) dat
  let c := { c with commandCounter }
  if txData.length = 8 then
    (.ok (), { c with
      sent := c.sent ++
        [.canClear c.canBus, .canClear 0xFFFF, .canSend c.txAddr txData c.canBus] })
  else (.error (.assertionError "data is not 8 bytes"), c)

def addressed (c : CcpClient) (msg : CanMessage) : Bool :=
  msg.bus == c.canBus && msg.address == c.rxAddr

/-- What `_recv_dto` makes of the data of a message for this client. There is nothing
if it goes on to the next message. -/
def dto (c : CcpClient) (rxData : List UInt8) : Option (Except CcpException (List UInt8)) :=
  if rxData.length ≠ 8 then
    some (.error (.assertionError ("message length not 8: " ++ toString rxData.length)))
  else
    let pid := rxData.getD 0 0
    if pid = 0xFF ∨ pid = 0xFE then
      let err := rxData.getD 1 0
      let errDesc := ((commandReturnCodes.find? (·.1 == err)).map Prod.snd).getD "unknown error"
      let ctr := rxData.getD 2 0
      let dat := rxData.drop 3
      if pid = 0xFF ∧ c.commandCounter ≠ ctr.toNat then
        some (.error (.commandCounterError
          ("counter invalid: " ++ toString ctr.toNat ++ " != " ++ toString c.commandCounter)))
      else if err ≥ 0x10 ∧ err ≤ 0x12 then none
      else if err ≥ 0x30 then
        some (.error (.commandResponseError (hex err.toNat ++ " - " ++ errDesc) err))
      else some (.ok dat)
    else some (.ok (rxData.drop 1))

def recvDtoLoop (c : CcpClient) : List (Option (List CanMessage)) →
    Except CcpException (List UInt8) × List (Option (List CanMessage))
  | [] => (.error (.commandTimeoutError "timeout waiting for response"), [])
  | none :: polls => (.error (.commandTimeoutError "timeout waiting for response"), polls)
  | some msgs :: polls =>
      match (msgs.filter c.addressed).findSome? fun msg => c.dto msg.dat with
      | some resp => (resp, polls)
      | none => c.recvDtoLoop polls

def recvDto (c : CcpClient) : Except CcpException (List UInt8) × CcpClient :=
  let (resp, polls) := c.recvDtoLoop c.polls
  (resp, { c with polls })

/-! ### Messages of a slave -/

def received (c : CcpClient) : List (Option (List CanMessage)) → List (List UInt8)
  | [] => []
  | none :: _ => []
  | some msgs :: polls => (msgs.filter c.addressed).map CanMessage.dat ++ c.received polls

def WaitCode (err : UInt8) : Prop := 0x10 ≤ err ∧ err ≤ 0x12

instance waitCodeDecidable : DecidablePred WaitCode := fun err =>
  inferInstanceAs (Decidable (0x10 ≤ err ∧ err ≤ 0x12))

/-- Messages that ask to wait for the answer to the command with this counter. -/
inductive Waits (counter : UInt8) : List UInt8 → Prop where
  | commandReturn (err : UInt8) (dat : List UInt8) :
      dat.length = 5 → WaitCode err → Waits counter (0xFF :: err :: counter :: dat)
  | event (err ctr : UInt8) (dat : List UInt8) :
      dat.length = 5 → WaitCode err → Waits counter (0xFE :: err :: ctr :: dat)

/-- Messages whose data becomes the result of the command with this counter. -/
inductive Answers (counter : UInt8) : List UInt8 → List UInt8 → Prop where
  | commandReturn (err : UInt8) (dat : List UInt8) :
      dat.length = 5 → err < 0x30 → ¬ WaitCode err →
        Answers counter (0xFF :: err :: counter :: dat) dat
  | event (err ctr : UInt8) (dat : List UInt8) :
      dat.length = 5 → err < 0x30 → ¬ WaitCode err →
        Answers counter (0xFE :: err :: ctr :: dat) dat
  | daq (pid : UInt8) (dat : List UInt8) :
      dat.length = 7 → pid ≠ 0xFF → pid ≠ 0xFE → Answers counter (pid :: dat) dat

variable {c : CcpClient} {counter : UInt8} {rxData dat : List UInt8}

theorem exists_cons_of_length {n : Nat} (h : rxData.length = n + 1) :
    ∃ b later, rxData = b :: later ∧ later.length = n := by
  obtain ⟨b, later, rfl⟩ := List.exists_cons_of_length_eq_add_one h
  exact ⟨b, later, rfl, Nat.succ.inj h⟩

/-- A message has its id, the two bytes behind it and the rest. -/
theorem exists_head_of_length (h : rxData.length = 8) :
    ∃ pid err ctr later, rxData = pid :: err :: ctr :: later ∧ later.length = 5 := by
  obtain ⟨pid, tail, rfl, htail⟩ := exists_cons_of_length h
  obtain ⟨err, rest, rfl, hrest⟩ := exists_cons_of_length htail
  obtain ⟨ctr, later, rfl, hlater⟩ := exists_cons_of_length hrest
  exact ⟨pid, err, ctr, later, rfl, hlater⟩

/-! ### What becomes of a message -/

theorem dto_wrong_length (h : rxData.length ≠ 8) :
    c.dto rxData =
      some (.error (.assertionError ("message length not 8: " ++ toString rxData.length))) :=
  if_pos h

/-- A DAQ message is returned whole. -/
theorem dto_daq {pid : UInt8} (hlen : dat.length = 7) (hcrm : pid ≠ 0xFF) (hevent : pid ≠ 0xFE) :
    c.dto (pid :: dat) = some (.ok dat) := by
  have hlength : ¬ (pid :: dat).length ≠ 8 := by
    rw [List.length_cons, hlen]
    exact fun h => h rfl
  rw [dto, if_neg hlength]
  exact if_neg (not_or.mpr ⟨hcrm, hevent⟩)

theorem dto_mismatch (err : UInt8) {ctr : UInt8} (hlen : dat.length = 5)
    (hctr : c.commandCounter ≠ ctr.toNat) :
    c.dto (0xFF :: err :: ctr :: dat) = some (.error (.commandCounterError
      ("counter invalid: " ++ toString ctr.toNat ++ " != " ++ toString c.commandCounter))) := by
  have hlength : ¬ (0xFF :: err :: ctr :: dat).length ≠ 8 := by
    simp only [List.length_cons, hlen]
    exact fun h => h rfl
  rw [dto, if_neg hlength]
  exact (if_pos (Or.inl rfl)).trans (if_pos ⟨rfl, hctr⟩)

/-- Events are handled like command return messages whose counter is right. -/
theorem dto_code {pid err ctr : UInt8} (hlen : dat.length = 5)
    (hpid : pid = 0xFF ∧ c.commandCounter = ctr.toNat ∨ pid = 0xFE) :
    c.dto (pid :: err :: ctr :: dat) =
      if WaitCode err then none
      else if err ≥ 0x30 then
        some (.error (.commandResponseError (hex err.toNat ++ " - " ++
          ((commandReturnCodes.find? (·.1 == err)).map Prod.snd).getD "unknown error") err))
      else some (.ok dat) := by
  have hlength : ¬ (pid :: err :: ctr :: dat).length ≠ 8 := by
    simp only [List.length_cons, hlen]
    exact fun h => h rfl
  have hboth : pid = 0xFF ∨ pid = 0xFE := hpid.imp_left And.left
  have hmatch : ¬ (pid = 0xFF ∧ c.commandCounter ≠ ctr.toNat) := by
    rintro ⟨hcrm, hctr⟩
    rcases hpid with ⟨-, heq⟩ | hevent
    · exact hctr heq
    · exact absurd (hcrm.symm.trans hevent) (by decide)
  rw [dto, if_neg hlength]
  exact (if_pos hboth).trans (if_neg hmatch)

theorem dto_waits {pid err ctr : UInt8} (hlen : dat.length = 5)
    (hpid : pid = 0xFF ∧ c.commandCounter = ctr.toNat ∨ pid = 0xFE) (hwait : WaitCode err) :
    c.dto (pid :: err :: ctr :: dat) = none := by
  rw [dto_code hlen hpid, if_pos hwait]

theorem dto_answers {pid err ctr : UInt8} (hlen : dat.length = 5)
    (hpid : pid = 0xFF ∧ c.commandCounter = ctr.toNat ∨ pid = 0xFE) (hlow : err < 0x30)
    (hcode : ¬ WaitCode err) :
    c.dto (pid :: err :: ctr :: dat) = some (.ok dat) := by
  rw [dto_code hlen hpid, if_neg hcode, if_neg (UInt8.not_le.mpr hlow)]

theorem dto_refuses {pid err ctr : UInt8} (hlen : dat.length = 5)
    (hpid : pid = 0xFF ∧ c.commandCounter = ctr.toNat ∨ pid = 0xFE) (hhigh : 0x30 ≤ err)
    (hcode : ¬ WaitCode err) :
    ∃ exc, c.dto (pid :: err :: ctr :: dat) = some (.error exc) := by
  rw [dto_code hlen hpid, if_neg hcode, if_pos hhigh]
  exact ⟨_, rfl⟩

theorem dto_of_waits (hcounter : c.commandCounter = counter.toNat) (h : Waits counter rxData) :
    c.dto rxData = none := by
  cases h with
  | commandReturn err dat hlen hwait => exact dto_waits hlen (.inl ⟨rfl, hcounter⟩) hwait
  | event err ctr dat hlen hwait => exact dto_waits hlen (.inr rfl) hwait

theorem dto_of_answers (hcounter : c.commandCounter = counter.toNat)
    (h : Answers counter rxData dat) : c.dto rxData = some (.ok dat) := by
  cases h with
  | commandReturn err dat hlen hlow hcode =>
      exact dto_answers hlen (.inl ⟨rfl, hcounter⟩) hlow hcode
  | event err ctr dat hlen hlow hcode => exact dto_answers hlen (.inr rfl) hlow hcode
  | daq pid dat hlen hcrm hevent => exact dto_daq hlen hcrm hevent

theorem code_cases (err : UInt8) :
    WaitCode err ∨ 0x30 ≤ err ∧ ¬ WaitCode err ∨ err < 0x30 ∧ ¬ WaitCode err := by
  rcases Decidable.em (WaitCode err) with hwait | hcode
  · exact .inl hwait
  · rcases UInt8.le_or_lt 0x30 err with hhigh | hlow
    · exact .inr (.inl ⟨hhigh, hcode⟩)
    · exact .inr (.inr ⟨hlow, hcode⟩)

/-- Any message of the slave waits, raises or answers. -/
theorem dto_cases (hcounter : c.commandCounter = counter.toNat) (rxData : List UInt8) :
    Waits counter rxData ∨ (∃ exc, c.dto rxData = some (.error exc)) ∨
      ∃ dat, Answers counter rxData dat := by
  by_cases hlen : rxData.length = 8
  · obtain ⟨pid, err, ctr, later, rfl, hlater⟩ := exists_head_of_length hlen
    by_cases hevent : pid = 0xFE
    · subst hevent
      rcases code_cases err with hwait | ⟨hhigh, hcode⟩ | ⟨hlow, hcode⟩
      · exact .inl (.event err ctr later hlater hwait)
      · exact .inr (.inl (dto_refuses hlater (.inr rfl) hhigh hcode))
      · exact .inr (.inr ⟨later, .event err ctr later hlater hlow hcode⟩)
    by_cases hcrm : pid = 0xFF
    · subst hcrm
      by_cases hctr : c.commandCounter = ctr.toNat
      · obtain rfl : counter = ctr := UInt8.toNat_inj.mp (by omega)
        rcases code_cases err with hwait | ⟨hhigh, hcode⟩ | ⟨hlow, hcode⟩
        · exact .inl (.commandReturn err later hlater hwait)
        · exact .inr (.inl (dto_refuses hlater (.inl ⟨rfl, hctr⟩) hhigh hcode))
        · exact .inr (.inr ⟨later, .commandReturn err later hlater hlow hcode⟩)
      · exact .inr (.inl ⟨_, dto_mismatch err hlater hctr⟩)
    · exact .inr (.inr ⟨_, .daq pid _ (Nat.succ.inj hlen) hcrm hevent⟩)
  · exact .inr (.inl ⟨_, dto_wrong_length hlen⟩)

theorem dto_eq_none_iff (hcounter : c.commandCounter = counter.toNat) :
    c.dto rxData = none ↔ Waits counter rxData := by
  constructor
  · intro hdto
    rcases dto_cases hcounter rxData with hwaits | ⟨exc, herror⟩ | ⟨dat, hanswers⟩
    · exact hwaits
    · cases hdto.symm.trans herror
    · cases hdto.symm.trans (dto_of_answers hcounter hanswers)
  · exact dto_of_waits hcounter

theorem dto_eq_ok_iff (hcounter : c.commandCounter = counter.toNat) :
    c.dto rxData = some (.ok dat) ↔ Answers counter rxData dat := by
  constructor
  · intro hdto
    rcases dto_cases hcounter rxData with hwaits | ⟨exc, herror⟩ | ⟨dat', hanswers⟩
    · cases hdto.symm.trans (dto_of_waits hcounter hwaits)
    · cases hdto.symm.trans herror
    · obtain rfl := Except.ok.inj (Option.some.inj
        (hdto.symm.trans (dto_of_answers hcounter hanswers)))
      exact hanswers
  · exact dto_of_answers hcounter

/-! ### `_recv_dto` after `_send_cro` -/

/-- However the messages come in batches, the first that does not wait decides. -/
theorem recvDtoLoop_received (c : CcpClient) (polls : List (Option (List CanMessage))) :
    (c.recvDtoLoop polls).1 = ((c.received polls).findSome? c.dto).getD
      (.error (.commandTimeoutError "timeout waiting for response")) := by
  induction polls with
  | nil => rfl
  | cons poll polls ih =>
      cases poll with
      | none => rfl
      | some msgs =>
          have hmap : ((msgs.filter c.addressed).map CanMessage.dat).findSome? c.dto =
              (msgs.filter c.addressed).findSome? fun msg => c.dto msg.dat :=
            List.findSome?_map
          rw [recvDtoLoop, received, List.findSome?_append, hmap]
          cases (msgs.filter c.addressed).findSome? fun msg => c.dto msg.dat with
          | none => exact ih
          | some resp => rfl

theorem recvDto_eq_ok_iff (hcounter : c.commandCounter = counter.toNat) :
    c.recvDto.1 = .ok dat ↔ ∃ waits rxData later,
      c.received c.polls = waits ++ rxData :: later ∧ (∀ w ∈ waits, Waits counter w) ∧
        Answers counter rxData dat := by
  have hresp : c.recvDto.1 = (c.recvDtoLoop c.polls).1 := rfl
  have hfirst : (c.recvDtoLoop c.polls).1 = .ok dat ↔
      (c.received c.polls).findSome? c.dto = some (.ok dat) := by
    rw [recvDtoLoop_received]
    cases (c.received c.polls).findSome? c.dto with
    | none =>
        constructor
        · intro htimeout
          cases htimeout
        · intro hdto
          cases hdto
    | some resp => exact Option.some_inj.symm
  rw [hresp, hfirst, List.findSome?_eq_some_iff]
  constructor
  · rintro ⟨waits, rxData, later, hreceived, hdto, hwaits⟩
    exact ⟨waits, rxData, later, hreceived,
      fun w hw => (dto_eq_none_iff hcounter).mp (hwaits w hw), (dto_eq_ok_iff hcounter).mp hdto⟩
  · rintro ⟨waits, rxData, later, hreceived, hwaits, hanswers⟩
    exact ⟨waits, rxData, later, hreceived, dto_of_answers hcounter hanswers,
      fun w hw => dto_of_waits hcounter (hwaits w hw)⟩

/-- A command that was sent has the counter that the client then waits for. -/
theorem sendCro_counter {c' : CcpClient} {cmd : UInt8}
    (hsend : c.sendCro cmd dat = (.ok (), c')) :
    ∃ counter : UInt8, c'.commandCounter = counter.toNat ∧ c'.sent = c.sent ++
      [.canClear c.canBus, .canClear 0xFFFF,
        .canSend c.txAddr (cro cmd counter dat) c.canBus] := by
  unfold sendCro at hsend
  dsimp only at hsend
  split at hsend
  · obtain ⟨-, rfl⟩ := Prod.mk.inj hsend
    refine ⟨.ofNat ((c.commandCounter + 1) % 256).toNat, ?_, rfl⟩
    have hlow : ((c.commandCounter + 1) % 256).toNat < 256 := by omega
    have hnonneg : 0 ≤ (c.commandCounter + 1) % 256 := by omega
    rw [UInt8.toNat_ofNat_of_lt' hlow, Int.toNat_of_nonneg hnonneg]
  · cases (Prod.mk.inj hsend).1

/-- After a command, and for any messages in any batches, `_recv_dto` returns data
exactly if the first message for the client that does not ask to wait is a command
return message with the counter of the command, or an event, with a code below 0x30, or
a DAQ message: then its data. -/
theorem recvDto_after_sendCro (c c' : CcpClient) (cmd : UInt8) (dat : List UInt8)
    (hsend : c.sendCro cmd dat = (.ok (), c')) :
    ∃ counter : UInt8,
      c'.sent = c.sent ++ [.canClear c.canBus, .canClear 0xFFFF,
        .canSend c.txAddr (cro cmd counter dat) c.canBus] ∧
      ∀ resp, c'.recvDto.1 = .ok resp ↔ ∃ waits rxData later,
        c'.received c'.polls = waits ++ rxData :: later ∧ (∀ w ∈ waits, Waits counter w) ∧
          Answers counter rxData resp := by
  obtain ⟨counter, hcounter, hsent⟩ := sendCro_counter hsend
  exact ⟨counter, hsent, fun resp => recvDto_eq_ok_iff hcounter⟩

/-- A client that has sent nothing, and what it receives. -/
def listening (polls : List (Option (List CanMessage))) : CcpClient where
  txAddr := 0x700
  rxAddr := 0x701
  polls := polls

/-- Other traffic, a slave that is busy, and its answer in the next batch. -/
theorem recvDto_after_sendCro_busy :
    let polls : List (Option (List CanMessage)) :=
      [some [⟨0x123, [0xFF], 0⟩, ⟨0x701, [0xFF, 0x10, 0, 0, 0, 0, 0, 0], 0⟩], some [],
        some [⟨0x701, [0xFF, 0x00, 0, 1, 2, 3, 4, 5], 0⟩]]
    ((listening polls).sendCro 0x04 [5]).2.recvDto.1 = .ok [1, 2, 3, 4, 5] := by
  intro polls
  have hsend : (listening polls).sendCro 0x04 [5] =
      (.ok (), ((listening polls).sendCro 0x04 [5]).2) := rfl
  obtain ⟨counter, hsent, hrecv⟩ := recvDto_after_sendCro _ _ 0x04 [5] hsend
  obtain rfl : counter = 0 := by
    have hframe := congrArg List.getLast? hsent
    obtain ⟨-, hcro, -⟩ := PandaCall.canSend.inj (Option.some.inj hframe)
    exact (List.cons.inj (List.cons.inj hcro).2).1.symm
  exact (hrecv [1, 2, 3, 4, 5]).mpr ⟨[[0xFF, 0x10, 0, 0, 0, 0, 0, 0]],
    [0xFF, 0x00, 0, 1, 2, 3, 4, 5], [], rfl,
    List.forall_mem_singleton.mpr (.commandReturn 0x10 _ rfl ⟨by decide, by decide⟩),
    .commandReturn 0x00 _ rfl (by decide) (by decide)⟩

/-- The only message that comes is an event, or a DAQ message, and the client takes it for
the result of its command. -/
theorem recvDto_event_or_daq :
    let event := ((listening [some [⟨0x701, [0xFE, 0x18, 7, 1, 2, 3, 4, 5], 0⟩]]).sendCro
      0x04 [5]).2
    let daq := ((listening [some [⟨0x701, [0x05, 1, 2, 3, 4, 5, 6, 7], 0⟩]]).sendCro
      0x04 [5]).2
    (event.recvDto.1 = .ok [1, 2, 3, 4, 5] ∧
      ∀ rxData ∈ event.received event.polls, rxData.head? ≠ some 0xFF) ∧
    (daq.recvDto.1 = .ok [1, 2, 3, 4, 5, 6, 7] ∧
      ∀ rxData ∈ daq.received daq.polls, rxData.head? ≠ some 0xFF) := by
  decide

end CcpClient

end Panda.Host
