import Panda.Host.IsoTpRoundTrip

/-!
`UdsClient._uds_request` of `python/uds.py`: one request and the response to it, over
`IsoTpMessage`. An ECU that needs more time answers with a response pending first, as
often as it likes, and all responses may be in the buffer of the client at once.
-/

namespace Panda.Host

open IsoTpMessage (FlowControl)

/-! ### Services and response codes -/

inductive ServiceType where
  | diagnosticSessionControl
  | ecuReset
  | securityAccess
  | communicationControl
  | testerPresent
  | accessTimingParameter
  | securedDataTransmission
  | controlDtcSetting
  | responseOnEvent
  | linkControl
  | readDataByIdentifier
  | readMemoryByAddress
  | readScalingDataByIdentifier
  | readDataByPeriodicIdentifier
  | dynamicallyDefineDataIdentifier
  | writeDataByIdentifier
  | writeMemoryByAddress
  | clearDiagnosticInformation
  | readDtcInformation
  | inputOutputControlByIdentifier
  | routineControl
  | requestDownload
  | requestUpload
  | transferData
  | requestTransferExit
deriving DecidableEq

namespace ServiceType

def members : List (ServiceType × UInt8 × String) :=
  [(diagnosticSessionControl, 0x10, "DIAGNOSTIC_SESSION_CONTROL"),
   (ecuReset, 0x11, "ECU_RESET"),
   (securityAccess, 0x27, "SECURITY_ACCESS"),
   (communicationControl, 0x28, "COMMUNICATION_CONTROL"),
   (testerPresent, 0x3E, "TESTER_PRESENT"),
   (accessTimingParameter, 0x83, "ACCESS_TIMING_PARAMETER"),
   (securedDataTransmission, 0x84, "SECURED_DATA_TRANSMISSION"),
   (controlDtcSetting, 0x85, "CONTROL_DTC_SETTING"),
   (responseOnEvent, 0x86, "RESPONSE_ON_EVENT"),
   (linkControl, 0x87, "LINK_CONTROL"),
   (readDataByIdentifier, 0x22, "READ_DATA_BY_IDENTIFIER"),
   (readMemoryByAddress, 0x23, "READ_MEMORY_BY_ADDRESS"),
   (readScalingDataByIdentifier, 0x24, "READ_SCALING_DATA_BY_IDENTIFIER"),
   (readDataByPeriodicIdentifier, 0x2A, "READ_DATA_BY_PERIODIC_IDENTIFIER"),
   (dynamicallyDefineDataIdentifier, 0x2C, "DYNAMICALLY_DEFINE_DATA_IDENTIFIER"),
   (writeDataByIdentifier, 0x2E, "WRITE_DATA_BY_IDENTIFIER"),
   (writeMemoryByAddress, 0x3D, "WRITE_MEMORY_BY_ADDRESS"),
   (clearDiagnosticInformation, 0x14, "CLEAR_DIAGNOSTIC_INFORMATION"),
   (readDtcInformation, 0x19, "READ_DTC_INFORMATION"),
   (inputOutputControlByIdentifier, 0x2F, "INPUT_OUTPUT_CONTROL_BY_IDENTIFIER"),
   (routineControl, 0x31, "ROUTINE_CONTROL"),
   (requestDownload, 0x34, "REQUEST_DOWNLOAD"),
   (requestUpload, 0x35, "REQUEST_UPLOAD"),
   (transferData, 0x36, "TRANSFER_DATA"),
   (requestTransferExit, 0x37, "REQUEST_TRANSFER_EXIT")]

def value (service : ServiceType) : UInt8 :=
  ((members.find? fun member => member.1 = service).map fun member => member.2.1).getD 0

/-- `SERVICE_TYPE(service_id).name`, or the name of what is none. -/
def nameOf (serviceId : Option UInt8) : String :=
  ((members.find? fun member => some member.2.1 = serviceId).map fun member =>
    member.2.2).getD "NON_STANDARD_SERVICE"

end ServiceType

def negativeResponseCodes : List (UInt8 × String) :=
  [(0x00, "positive response"),
   (0x10, "general reject"),
   (0x11, "service not supported"),
   (0x12, "sub-function not supported"),
   (0x13, "incorrect message length or invalid format"),
   (0x14, "response too long"),
   (0x21, "busy repeat request"),
   (0x22, "conditions not correct"),
   (0x24, "request sequence error"),
   (0x25, "no response from subnet component"),
   (0x26, "failure prevents execution of requested action"),
   (0x31, "request out of range"),
   (0x33, "security access denied"),
   (0x35, "invalid key"),
   (0x36, "exceed number of attempts"),
   (0x37, "required time delay not expired"),
   (0x70, "upload download not accepted"),
   (0x71, "transfer data suspended"),
   (0x72, "general programming failure"),
   (0x73, "wrong block sequence counter"),
   (0x78, "request correctly received - response pending"),
   (0x7e, "sub-function not supported in active session"),
   (0x7f, "service not supported in active session"),
   (0x81, "rpm too high"),
   (0x82, "rpm too low"),
   (0x83, "engine is running"),
   (0x84, "engine is not running"),
   (0x85, "engine run time too low"),
   (0x86, "temperature too high"),
   (0x87, "temperature too low"),
   (0x88, "vehicle speed too high"),
   (0x89, "vehicle speed too low"),
   (0x8a, "throttle/pedal too high"),
   (0x8b, "throttle/pedal too low"),
   (0x8c, "transmission not in neutral"),
   (0x8d, "transmission not in gear"),
   (0x8f, "brake switch(es) not closed"),
   (0x90, "shifter lever not in park"),
   (0x91, "torque converter clutch locked"),
   (0x92, "voltage too high"),
   (0x93, "voltage too low")]

def hexOf (n : UInt8) : String := "0x" ++ String.ofList (Nat.toDigits 16 n.toNat)

def hexOrNone (byte : Option UInt8) : String := (byte.map hexOf).getD "None"

def bytesHex (bytes : List UInt8) : String :=
  String.join <| bytes.map fun byte =>
    String.ofList [Nat.digitChar (byte.toNat / 16), Nat.digitChar (byte.toNat % 16)]

def errorDesc (errorCode : Option UInt8) (resp : List UInt8) : String :=
  ((negativeResponseCodes.find? fun entry => some entry.1 = errorCode).map Prod.snd).getD
    (bytesHex (resp.drop 3))

/-! ### One response -/

inductive UdsRequestException where
  | isoTp (exc : UdsException)
  | negativeResponseError (message : String) (serviceId errorCode : Option UInt8)
  | invalidServiceIdError (text : String)
  | invalidSubFunctionError (text : String)
deriving DecidableEq

inductive Reply where
  | pending
  | raised (exc : UdsRequestException)
  | returned (data : List UInt8)
deriving DecidableEq

/-- The part of `_uds_request` after `recv`. What Python gives as -1 is missing here. -/
def interpret (service : ServiceType) (subfunction : Option UInt8) (resp : List UInt8) : Reply :=
  let respSid := resp[0]?
  -- negative response
  if respSid = some 0x7F then
    let serviceId := resp[1]?
    let errorCode := resp[2]?
    -- wait for another message if response pending
    if errorCode = some 0x78 then .pending
    else .raised (.negativeResponseError
      (ServiceType.nameOf serviceId ++ " - " ++ errorDesc errorCode resp) serviceId errorCode)
  -- positive response
  else if respSid.map UInt8.toNat ≠ some (service.value.toNat + 0x40) then
    .raised (.invalidServiceIdError ("invalid response service id: " ++ hexOrNone respSid))
  else
    match subfunction with
    | none => .returned (resp.drop 1)
    | some subfunction =>
        let respSfn := resp[1]?
        if respSfn ≠ some subfunction then
          .raised (.invalidSubFunctionError
            ("invalid response subfunction: " ++ hexOrNone respSfn))
        -- return data (exclude service id and sub-function id)
        else .returned (resp.drop 2)

/-! ### The request -/

/-- `UdsClient`. Its times are in whole milliseconds. -/
structure UdsClient where
  canClient : CanClient
  timeout : Nat := 1000
  responsePendingTimeout : Nat := 10000

/-- What `_uds_request` came to: it is still waiting when the readings of the clock are
used up. -/
inductive UdsResult where
  | returned (data : List UInt8)
  | raised (exc : UdsRequestException)
  | waiting
deriving DecidableEq

def Reply.result : Reply → UdsResult
  | .pending => .waiting
  | .raised exc => .raised exc
  | .returned data => .returned data

namespace UdsClient

def limit (responsePending : Bool) (u : UdsClient) : Nat :=
  if responsePending then u.responsePendingTimeout else u.timeout

/-- The loop of `_uds_request`. Each call of `recv` reads the clock of its own, which
shows the time since the last message. -/
def requestLoop (service : ServiceType) (subfunction : Option UInt8) (u : UdsClient) :
    List (List Nat) → Bool → IsoTpMessage → UdsResult × IsoTpMessage
  | [], _, m => (.waiting, m)
  | clock :: clocks, responsePending, m =>
      let timeout := u.limit responsePending
      match m.recv (timeout ≠ 0) (clock.map fun elapsed => elapsed > timeout) with
      | (.waiting, m) => (.waiting, m)
      | (.raised exc, m) => (.raised (.isoTp exc), m)
      | (.result none _, m) => requestLoop service subfunction u clocks responsePending m
      | (.result (some resp) _, m) =>
          match interpret service subfunction resp with
          | .pending => requestLoop service subfunction u clocks true m
          | .raised exc => (.raised exc, m)
          | .returned data => (.returned data, m)

/-- No reading of the clock is late, and in each call there is one for every batch. -/
def InTime (batches : Nat) (u : UdsClient) : Bool → List (List Nat) → Prop
  | _, [] => True
  | responsePending, clock :: clocks =>
      batches ≤ clock.length ∧ (∀ elapsed ∈ clock, elapsed ≤ u.limit responsePending) ∧
        InTime batches u true clocks

def requestBytes (service : ServiceType) (subfunction : Option UInt8)
    (data : Option (List UInt8)) : List UInt8 :=
  service.value :: (subfunction.toList ++ data.getD [])

def maxLen (subAddr : Option UInt8) : Nat := if subAddr.isNone then 8 else 7

def udsRequest (service : ServiceType) (subfunction : Option UInt8) (data : Option (List UInt8))
    (clocks : List (List Nat)) (u : UdsClient) : UdsResult × UdsClient :=
  let isotpMsg : IsoTpMessage :=
    { canClient := u.canClient, maxLen := maxLen u.canClient.subAddr }
  match isotpMsg.send (requestBytes service subfunction data) false with
  | (some exc, m) => (.raised (.isoTp exc), { u with canClient := m.canClient })
  | (none, m) =>
      let (result, m) := requestLoop service subfunction u clocks false m
      (result, { u with canClient := m.canClient })

end UdsClient

/-! ### The frames of an exchange -/

def responseFrames (maxLen : Nat) (dat : List UInt8) : List (List UInt8) :=
  if dat.length < maxLen then [singleFrame maxLen dat]
  else firstFrame maxLen dat :: consecutiveFrames maxLen dat 0 (frameCount maxLen dat.length)

/-- The flow control takes all that is left of a request and no more flow control
follows. -/
def TakesRequest : Nat → List FlowControl → Prop
  | left, [] => left = 0
  | left, .wait _ :: fcs => 0 < left ∧ TakesRequest left fcs
  | left, .continueWith blockSize _ _ :: fcs =>
      0 < left ∧ TakesRequest (if blockSize = 0 then 0 else left - blockSize.toNat) fcs

instance TakesRequest.decidable : ∀ left fcs, Decidable (TakesRequest left fcs)
  | left, [] => inferInstanceAs (Decidable (left = 0))
  | left, .wait _ :: fcs => @instDecidableAnd _ _ _ (TakesRequest.decidable left fcs)
  | left, .continueWith blockSize _ _ :: fcs =>
      @instDecidableAnd _ _ _
        (TakesRequest.decidable (if blockSize = 0 then 0 else left - blockSize.toNat) fcs)

def framesLeft (maxLen : Nat) (request : List UInt8) : Nat :=
  if request.length < maxLen then 0 else frameCount maxLen request.length

structure Exchange where
  line : Line
  physical : line.Physical

namespace Exchange

variable (x : Exchange)

def maxLen : Nat := UdsClient.maxLen x.line.subAddr

theorem maxLen_bounds : 3 ≤ x.maxLen ∧ x.line.subAddr.toList.length + x.maxLen ≤ 8 := by
  unfold maxLen UdsClient.maxLen
  cases x.line.subAddr with
  | none => decide
  | some subAddr =>
    simp only [Option.isNone_some, Bool.false_eq_true, if_false, Option.toList_some,
      List.length_singleton]
    decide

def response (dat : List UInt8) (hshort : dat.length ≤ 4095) : IsoTpTransfer where
  line := x.line.peer
  maxLen := x.maxLen
  dat
  oneByOne := false
  separationTime := 0
  physical := x.physical.peer
  lower := x.maxLen_bounds.1
  upper := x.maxLen_bounds.2
  short := hshort

structure Made (m : IsoTpMessage) : Prop where
  maxLen : m.maxLen = x.maxLen
  singleFrameMode : m.singleFrameMode = false
  separationTime : m.separationTime = 0

/-- The client reads a response, with `frames` to come: the flow control on its request
before it, or the whole response, or the rest of it. -/
inductive Reads (request : List UInt8) {dat : List UInt8} (hshort : dat.length ≤ 4095)
    (m : IsoTpMessage) : List (List UInt8) → Prop
  | asked (idx : Nat) {fcs : List FlowControl} (hlong : x.maxLen ≤ request.length)
      (hsending : m.Sending x.maxLen request idx)
      (hidx : idx < frameCount x.maxLen request.length) (htx : m.txDone = false)
      (hrx : m.rxDone = false) (hdat : m.rxDat = [])
      (htakes : TakesRequest (frameCount x.maxLen request.length - idx) fcs) :
      Reads request hshort m (fcs.map FlowControl.frame ++ responseFrames x.maxLen dat)
  | next (htx : m.txDone = true) (hrx : m.rxDone = true ∨ m.rxDone = false ∧ m.rxDat = []) :
      Reads request hshort m (responseFrames x.maxLen dat)
  | within (idx : Nat) (hlong : x.maxLen ≤ dat.length) (htx : m.txDone = true)
      (hm : (x.response dat hshort).Receiving idx m) (hidx : idx < frameCount x.maxLen dat.length) :
      Reads request hshort m
        (consecutiveFrames x.maxLen dat idx (frameCount x.maxLen dat.length - idx))

structure Answered (dat : List UInt8) (m : IsoTpMessage) : Prop where
  txDone : m.txDone = true
  rxDone : m.rxDone = true
  rxDat : m.rxDat = dat

/-! ### One frame -/

variable {x : Exchange} {request dat : List UInt8} {hshort : dat.length ≤ 4095}
  {m : IsoTpMessage} {popped : CanClient} {later sent : List (List UInt8)}

theorem Reads.ne_nil {frames : List (List UInt8)} (h : x.Reads request hshort m frames) :
    frames ≠ [] := by
  have hresponse : responseFrames x.maxLen dat ≠ [] := by
    unfold responseFrames
    split
    · exact List.cons_ne_nil _ _
    · exact List.cons_ne_nil _ _
  cases h with
  | asked idx hlong hsending hidx htx hrx hdat htakes =>
    exact List.append_ne_nil_of_right_ne_nil _ hresponse
  | next htx hrx => exact hresponse
  | within idx hlong htx hm hidx =>
    intro hnil
    have hlen := congrArg List.length hnil
    rw [consecutiveFrames, List.length_map, List.length_range', List.length_nil] at hlen
    omega

theorem Reads.withClient {frames : List (List UInt8)} (h : x.Reads request hshort m frames)
    (canClient : CanClient) : x.Reads request hshort { m with canClient } frames := by
  cases h with
  | asked idx hlong hsending hidx htx hrx hdat htakes =>
    have hsending' : ({ m with canClient } : IsoTpMessage).Sending x.maxLen request _ :=
      ⟨hsending.maxLen, hsending.txDat, hsending.txLen, hsending.txIdx⟩
    exact .asked _ hlong hsending' hidx htx hrx hdat htakes
  | next htx hrx => exact .next htx hrx
  | within idx hlong htx hm hidx =>
    exact .within _ hlong htx ⟨hm.rxDone, hm.rxLen, hm.rxIdx, hm.rxDat⟩ hidx

/-- A frame was taken: the response is complete, or the client reads on with fewer
frames to come. -/
def Stepped (x : Exchange) (request : List UInt8) {dat : List UInt8} (hshort : dat.length ≤ 4095)
    (later : List (List UInt8)) (coming batches : Nat)
    (r : Except UdsException IsoTpFrameType × IsoTpMessage) : Prop :=
  ∃ frameType after frames sent, r = (.ok frameType, after) ∧ x.Made after ∧
    x.line.On (frames ++ later) sent after.canClient ∧ frames.length ≤ coming ∧
    after.canClient.port.rx.length ≤ batches ∧
    ((frames = [] ∧ Answered dat after) ∨
      ((after.txDone && after.rxDone) = false ∧ x.Reads request hshort after frames))

theorem takesRequest_pos {left : Nat} {fc : FlowControl} {fcs : List FlowControl}
    (h : TakesRequest left (fc :: fcs)) : 0 < left := by
  cases fc with
  | continueWith blockSize separationTime padding => exact h.1
  | wait padding => exact h.1

/-- A block of the request is sent. -/
theorem continues {idx : Nat} {heard : List (List UInt8)} (count : Nat) (hmade : x.Made m)
    (hlong : x.maxLen ≤ request.length) (hsending : m.Sending x.maxLen request idx)
    (hidx : idx < frameCount x.maxLen request.length) (hon : x.line.On heard sent m.canClient) :
    ∃ after, m.rxContinue count = (.ok .flow, after) ∧ x.Made after ∧ after.rxDone = m.rxDone ∧
      after.rxDat = m.rxDat ∧
      x.line.On heard (sent ++ consecutiveFrames x.maxLen request idx
        (blockFrames x.maxLen request.length idx count)) after.canClient ∧
      after.canClient.port.rx.length ≤ m.canClient.port.rx.length := by
  have hmax : 2 ≤ x.maxLen := Nat.le_of_succ_le x.maxLen_bounds.1
  obtain ⟨client, hsend, hclient, hbatches⟩ := IsoTpTransfer.canSend_on
    (m := { m with txIdx := idx + blockFrames x.maxLen request.length idx count }) x.physical
    (consecutiveFrames x.maxLen request idx (blockFrames x.maxLen request.length idx count)) hon (by
      intro msg hmsg
      obtain ⟨k, -, rfl⟩ := List.mem_map.mp hmsg
      rw [consecutiveFrame_length hmax]
      exact x.maxLen_bounds.2)
  rw [IsoTpMessage.rxContinue_eq hmax hlong hsending hidx, hsend, IsoTpMessage.blockSent]
  split
  · exact ⟨_, rfl, ⟨hmade.maxLen, hmade.singleFrameMode, hmade.separationTime⟩, rfl, rfl, hclient,
      hbatches⟩
  · exact ⟨_, rfl, ⟨hmade.maxLen, hmade.singleFrameMode, hmade.separationTime⟩, rfl, rfl, hclient,
      hbatches⟩

/-- Flow control on a request. -/
theorem stepped_asked {idx : Nat} {fc : FlowControl} {fcs : List FlowControl} (hmade : x.Made m)
    (hlong : x.maxLen ≤ request.length) (hsending : m.Sending x.maxLen request idx)
    (hidx : idx < frameCount x.maxLen request.length) (htx : m.txDone = false)
    (hrx : m.rxDone = false) (hdat : m.rxDat = [])
    (htakes : TakesRequest (frameCount x.maxLen request.length - idx) (fc :: fcs))
    (hon : x.line.On ((fcs.map FlowControl.frame ++ responseFrames x.maxLen dat) ++ later) sent
      m.canClient) :
    x.Stepped request hshort later (fcs.length + (responseFrames x.maxLen dat).length)
      m.canClient.port.rx.length (m.isotpRxNext fc.frame) := by
  have hcoming : (fcs.map FlowControl.frame ++ responseFrames x.maxLen dat).length ≤
      fcs.length + (responseFrames x.maxLen dat).length := by
    rw [List.length_append, List.length_map]
  cases fc with
  | wait padding =>
    obtain ⟨-, hrest⟩ := htakes
    have hwait : m.isotpRxNext (FlowControl.wait padding).frame = (.ok .flow, m) := by
      have hflow : m.rxFlow (0x31 :: padding) 0x31 =
          if m.txDone then
            (.error (.assertionError "isotp - rx: flow control with no active frame"), m)
          else (.ok .flow, m) := rfl
      rw [IsoTpMessage.isotpRxNext_flow, FlowControl.frame, List.headD_cons, hflow, htx,
        if_neg Bool.false_ne_true]
    refine ⟨_, _, _, _, hwait, hmade, hon, hcoming, Nat.le_refl _, .inr ⟨?_, ?_⟩⟩
    · rw [htx, Bool.false_and]
    · exact .asked _ hlong hsending hidx htx hrx hdat hrest
  | continueWith blockSize separationTime padding =>
    obtain ⟨-, hrest⟩ := htakes
    have hmax : 2 ≤ x.maxLen := Nat.le_of_succ_le x.maxLen_bounds.1
    have hcontinue : m.isotpRxNext (FlowControl.continueWith blockSize separationTime
        padding).frame = m.rxContinue blockSize.toNat := IsoTpMessage.isotpRxNext_continue htx _ _ _
    obtain ⟨after, hnext, hmadeAfter, hrxAfter, hdatAfter, honAfter, hbatches⟩ :=
      continues blockSize.toNat hmade hlong hsending hidx hon
    rw [← hcontinue] at hnext
    obtain ⟨hsendingAfter, htxAfter, -⟩ := IsoTpMessage.rxContinue_sending hmax hlong hsending
      hidx htx (hcontinue.symm.trans hnext)
    rw [hrx] at hrxAfter
    rw [hdat] at hdatAfter
    refine ⟨_, _, _, _, hnext, hmadeAfter, honAfter, hcoming, hbatches, .inr ⟨?_, ?_⟩⟩
    · rw [hrxAfter, Bool.and_false]
    · have hleft : (if blockSize = 0 then 0
          else frameCount x.maxLen request.length - idx - blockSize.toNat) =
          frameCount x.maxLen request.length -
            (idx + blockFrames x.maxLen request.length idx blockSize.toNat) := by
        unfold blockFrames
        by_cases hzero : blockSize = 0
        · have hnone : blockSize.toNat = 0 := congrArg UInt8.toNat hzero
          rw [if_pos hzero, if_pos hnone]
          omega
        · have hpos : blockSize.toNat ≠ 0 := fun h => hzero (UInt8.toNat_inj.mp h)
          rw [if_neg hzero, if_neg hpos]
          omega
      rw [hleft] at hrest
      cases fcs with
      | nil =>
        have hdone : frameCount x.maxLen request.length -
            (idx + blockFrames x.maxLen request.length idx blockSize.toNat) = 0 := hrest
        rw [decide_eq_true (Nat.le_of_sub_eq_zero hdone)] at htxAfter
        exact .next htxAfter (.inr ⟨hrxAfter, hdatAfter⟩)
      | cons fc fcs =>
        have hsome := takesRequest_pos hrest
        have hnotDone : ¬ frameCount x.maxLen request.length ≤
            idx + blockFrames x.maxLen request.length idx blockSize.toNat := by omega
        rw [decide_eq_false hnotDone] at htxAfter
        exact .asked _ hlong hsendingAfter (Nat.not_le.mp hnotDone) htxAfter hrxAfter hdatAfter
          hrest

/-- A message that is complete takes the start of the next one as a new message does. -/
theorem isotpRxNext_complete (hdone : m.rxDone = true) {first : UInt8} {rest : List UInt8}
    (hfirst : first >>> 4 = 0 ∨ first >>> 4 = 1) {frameType : IsoTpFrameType}
    {after : IsoTpMessage}
    (h : ({ m with rxDone := false, rxDat := [] } : IsoTpMessage).isotpRxNext (first :: rest) =
      (.ok frameType, after)) :
    m.isotpRxNext (first :: rest) = (.ok frameType, after) := by
  rcases hfirst with hsingle | hfirst
  · simp only [IsoTpMessage.isotpRxNext, hsingle, if_true] at h ⊢
    simp only [IsoTpMessage.rxSingle, hdone, or_true, true_or, not_true_eq_false, if_false] at h ⊢
    split at h
    · cases h
    · rename_i hlen
      rw [if_neg hlen]
      exact h
  · have hone : ¬ (1 : UInt8) = 0 := by decide
    simp only [IsoTpMessage.isotpRxNext, hfirst, if_true, if_neg hone] at h ⊢
    simp only [IsoTpMessage.rxFirst, hdone, or_true, true_or, not_true_eq_false, if_false] at h ⊢
    cases hsecond : (first :: rest)[1]? with
    | none =>
      rw [hsecond] at h
      cases h
    | some second =>
      rw [hsecond] at h
      simp only at h ⊢
      split at h
      · cases h
      · rename_i hlen
        rw [if_neg hlen]
        split at h
        · cases h
        · rename_i hframe
          rw [if_neg hframe]
          exact h

theorem isotpRxNext_starts (hrx : m.rxDone = true ∨ m.rxDone = false ∧ m.rxDat = [])
    {first : UInt8} {rest : List UInt8} (hfirst : first >>> 4 = 0 ∨ first >>> 4 = 1)
    {frameType : IsoTpFrameType} {after : IsoTpMessage}
    (h : ({ m with rxDone := false, rxDat := [] } : IsoTpMessage).isotpRxNext (first :: rest) =
      (.ok frameType, after)) :
    m.isotpRxNext (first :: rest) = (.ok frameType, after) := by
  rcases hrx with hdone | ⟨hopen, hempty⟩
  · exact isotpRxNext_complete hdone hfirst h
  · cases m
    dsimp only at hopen hempty
    subst hopen hempty
    exact h

/-- The single frame of a short response. -/
theorem stepped_single (hmade : x.Made m) (htx : m.txDone = true)
    (hrx : m.rxDone = true ∨ m.rxDone = false ∧ m.rxDat = []) (hlen : dat.length < x.maxLen)
    (hon : x.line.On later sent m.canClient) :
    x.Stepped request hshort later 0 m.canClient.port.rx.length
      (m.isotpRxNext (singleFrame x.maxLen dat)) := by
  have hbyte : (UInt8.ofNat dat.length) >>> 4 = 0 := by
    have hupper := x.maxLen_bounds.2
    have hnumber := (frameByte 0 (by decide) dat.length (by omega)).1
    rw [Nat.mul_zero, Nat.zero_add] at hnumber
    exact hnumber
  have hsingle := IsoTpTransfer.receive_single (t := x.response dat hshort)
    (m := { m with rxDone := false, rxDat := [] }) hlen hmade.maxLen ⟨rfl, rfl⟩
  have hnext := isotpRxNext_starts hrx (.inl hbyte) hsingle
  refine ⟨_, _, [], sent, hnext, ?_, hon, Nat.le_refl _, Nat.le_refl _, .inl ⟨rfl, ?_⟩⟩
  · exact ⟨hmade.maxLen, hmade.singleFrameMode, hmade.separationTime⟩
  · exact ⟨htx, rfl, rfl⟩

/-- The first frame of a long response is answered. -/
theorem stepped_first (hmade : x.Made m) (htx : m.txDone = true)
    (hrx : m.rxDone = true ∨ m.rxDone = false ∧ m.rxDat = []) (hlong : x.maxLen ≤ dat.length)
    (hon : x.line.On (consecutiveFrames x.maxLen dat 0 (frameCount x.maxLen dat.length) ++ later)
      sent m.canClient) :
    x.Stepped request hshort later (frameCount x.maxLen dat.length) m.canClient.port.rx.length
      (m.isotpRxNext (firstFrame x.maxLen dat)) := by
  have hlower := x.maxLen_bounds.1
  have hbyte : (UInt8.ofNat (16 * 1 + dat.length / 256)) >>> 4 = 1 :=
    (frameByte 1 (by decide) (dat.length / 256) (by omega)).1
  have hfirst := IsoTpTransfer.receive_first (t := x.response dat hshort)
    (m := { m with rxDone := false, rxDat := [] }) hlong hmade.maxLen ⟨rfl, rfl⟩
  have hsetUp : (x.response dat hshort).SetUp { m with
      rxLen := dat.length
      rxDat := dat.take (x.maxLen - 2)
      rxIdx := 0
      rxDone := false } := ⟨htx, hmade.maxLen, hmade.singleFrameMode, hmade.separationTime⟩
  obtain ⟨client, hanswer, hclient, hbatches⟩ := hsetUp.answer hon .first
  have hframe : firstFrame x.maxLen dat = .ofNat (16 * 1 + dat.length / 256) ::
      .ofNat (dat.length % 256) :: dat.take (x.maxLen - 2) :=
    IsoTpTransfer.firstFrame_eq hlower hlong hshort
  have hstarts : ({ m with rxDone := false, rxDat := [] } : IsoTpMessage).isotpRxNext
      (firstFrame x.maxLen dat) = (.ok .first, _) := hfirst.trans hanswer
  rw [hframe] at hstarts ⊢
  have hnext := isotpRxNext_starts hrx (.inr hbyte) hstarts
  have hsome : 0 < frameCount x.maxLen dat.length := by
    rw [lt_frameCount_iff (Nat.le_of_succ_le hlower) hlong]
    omega
  refine ⟨_, _, consecutiveFrames x.maxLen dat 0 (frameCount x.maxLen dat.length), _, hnext, ?_,
    hclient, ?_, hbatches, .inr ⟨?_, ?_⟩⟩
  · exact ⟨hmade.maxLen, hmade.singleFrameMode, hmade.separationTime⟩
  · rw [consecutiveFrames, List.length_map, List.length_range']
  · exact Bool.and_false _
  · refine .within 0 hlong htx ⟨rfl, rfl, rfl, ?_⟩ hsome
    rw [Nat.zero_mul, Nat.add_zero]
    rfl

/-- A consecutive frame of a long response. -/
theorem stepped_consecutive {idx : Nat} (hmade : x.Made m) (hlong : x.maxLen ≤ dat.length)
    (htx : m.txDone = true) (hm : (x.response dat hshort).Receiving idx m)
    (hidx : idx < frameCount x.maxLen dat.length)
    (hon : x.line.On (consecutiveFrames x.maxLen dat (idx + 1)
      (frameCount x.maxLen dat.length - (idx + 1)) ++ later) sent m.canClient) :
    x.Stepped request hshort later (frameCount x.maxLen dat.length - (idx + 1))
      m.canClient.port.rx.length (m.isotpRxNext (consecutiveFrame x.maxLen dat idx)) := by
  have htaken := IsoTpTransfer.receive_consecutive (t := x.response dat hshort) hlong hidx hm
  dsimp only at htaken
  change m.isotpRxNext (consecutiveFrame x.maxLen dat idx) = _ at htaken
  rw [hmade.singleFrameMode, if_neg Bool.false_ne_true] at htaken
  by_cases hlast : (x.response dat hshort).count ≤ idx + 1
  · rw [if_pos hlast] at htaken
    have hlast' : frameCount x.maxLen dat.length ≤ idx + 1 := hlast
    rw [Nat.sub_eq_zero_of_le hlast'] at hon ⊢
    have hover := (IsoTpTransfer.lt_count_iff (t := x.response dat hshort) hlong
      (idx + 1)).not.mp (Nat.not_lt.mpr hlast)
    have hdat := List.take_of_length_le (Nat.not_lt.mp hover)
    refine ⟨_, _, [], sent, htaken, ?_, hon, Nat.le_refl _, Nat.le_refl _, .inl ⟨rfl, ?_⟩⟩
    · exact ⟨hmade.maxLen, rfl, hmade.separationTime⟩
    · exact ⟨htx, rfl, hdat⟩
  · rw [if_neg hlast] at htaken
    refine ⟨_, _, _, sent, htaken, ?_, hon, ?_, Nat.le_refl _, .inr ⟨?_, ?_⟩⟩
    · exact ⟨hmade.maxLen, rfl, hmade.separationTime⟩
    · rw [consecutiveFrames, List.length_map, List.length_range']
    · exact Bool.and_false _
    · exact .within (idx + 1) hlong htx ⟨rfl, rfl, rfl, rfl⟩ (Nat.not_le.mp hlast)

/-- Each frame of the exchange is taken. -/
theorem Reads.step {frame : List UInt8} {frames rest : List (List UInt8)} (hmade : x.Made m)
    (hreads : x.Reads request hshort m frames) (hon : x.line.On (frames ++ later) sent m.canClient)
    (hbuff : m.canClient.rxBuff = frame :: rest) :
    x.Stepped request hshort later (frames.length - 1) m.canClient.port.rx.length
      (({ m with canClient.rxBuff := rest } : IsoTpMessage).isotpRxNext frame) := by
  obtain ⟨coming, hheard, hpopped⟩ := hon.popleft hbuff
  have hmade' : x.Made { m with canClient.rxBuff := rest } :=
    ⟨hmade.maxLen, hmade.singleFrameMode, hmade.separationTime⟩
  have hnext : ∀ htx : m.txDone = true, (m.rxDone = true ∨ m.rxDone = false ∧ m.rxDat = []) →
      responseFrames x.maxLen dat ++ later = frame :: coming →
      x.Stepped request hshort later ((responseFrames x.maxLen dat).length - 1)
        m.canClient.port.rx.length
        (({ m with canClient.rxBuff := rest } : IsoTpMessage).isotpRxNext frame) := by
    intro htx hrx hresponse
    unfold responseFrames at hresponse ⊢
    split at hresponse
    next hlen =>
      obtain ⟨rfl, rfl⟩ := List.cons.inj hresponse
      rw [if_pos hlen]
      exact stepped_single hmade' htx hrx hlen hpopped
    next hlen =>
      obtain ⟨rfl, rfl⟩ := List.cons.inj hresponse
      rw [if_neg hlen, List.length_cons, consecutiveFrames, List.length_map, List.length_range']
      exact stepped_first hmade' htx hrx (Nat.not_lt.mp hlen) hpopped
  cases hreads with
  | asked idx hlong hsending hidx htx hrx hdat htakes =>
    rename_i fcs
    cases fcs with
    | nil =>
      have hnone : frameCount x.maxLen request.length - idx = 0 := htakes
      omega
    | cons fc fcs =>
      obtain ⟨rfl, rfl⟩ := List.cons.inj hheard
      rw [List.length_append, List.length_map, List.length_cons, Nat.add_right_comm,
        Nat.add_sub_cancel]
      exact stepped_asked hmade' hlong
        ⟨hsending.maxLen, hsending.txDat, hsending.txLen, hsending.txIdx⟩ hidx htx hrx hdat htakes
        hpopped
  | next htx hrx => exact hnext htx hrx hheard
  | within idx hlong htx hm hidx =>
    have hsplit : consecutiveFrames x.maxLen dat idx (frameCount x.maxLen dat.length - idx) =
        consecutiveFrame x.maxLen dat idx :: consecutiveFrames x.maxLen dat (idx + 1)
          (frameCount x.maxLen dat.length - (idx + 1)) := by
      rw [consecutiveFrames, consecutiveFrames,
        show frameCount x.maxLen dat.length - idx =
          frameCount x.maxLen dat.length - (idx + 1) + 1 by omega, List.range'_succ, List.map_cons]
    rw [hsplit, List.cons_append] at hheard
    obtain ⟨rfl, rfl⟩ := List.cons.inj hheard
    rw [consecutiveFrames, List.length_map, List.length_range', Nat.sub_sub]
    exact stepped_consecutive hmade' hlong htx ⟨hm.rxDone, hm.rxLen, hm.rxIdx, hm.rxDat⟩ hidx
      hpopped

/-! ### One call of `recv` -/

def Waits (x : Exchange) (request : List UInt8) {dat : List UInt8} (hshort : dat.length ≤ 4095)
    (later : List (List UInt8)) (batches : Nat) (m : IsoTpMessage) : Prop :=
  ∃ frames sent, x.Made m ∧ x.Reads request hshort m frames ∧
    x.line.On (frames ++ later) sent m.canClient ∧ m.canClient.port.rx.length ≤ batches

def Has (x : Exchange) (dat : List UInt8) (later : List (List UInt8)) (batches : Nat)
    (m : IsoTpMessage) : Prop :=
  ∃ sent, x.Made m ∧ Answered dat m ∧ x.line.On later sent m.canClient ∧
    m.canClient.port.rx.length ≤ batches

/-- A pass ends with an empty buffer in the response, or returns it. -/
def PassOf (x : Exchange) (request : List UInt8) {dat : List UInt8} (hshort : dat.length ≤ 4095)
    (later : List (List UInt8)) (batches : Nat) (r : IsoTpMessage.Pass × IsoTpMessage) : Prop :=
  (∃ rxInProgress, r.1 = .ended rxInProgress ∧ r.2.canClient.rxBuff = [] ∧
    x.Waits request hshort later batches r.2) ∨
  (r.1 = .returned dat ∧ x.Has dat later batches r.2)

theorem recvPass_reads {fuel batches : Nat} {frames : List (List UInt8)} (hmade : x.Made m)
    (hreads : x.Reads request hshort m frames) (hon : x.line.On (frames ++ later) sent m.canClient)
    (hbatches : m.canClient.port.rx.length ≤ batches) (hfuel : frames.length < fuel)
    (rxInProgress : Bool) :
    x.PassOf request hshort later batches (IsoTpMessage.recvPass fuel .yielded rxInProgress m) := by
  induction fuel generalizing m frames sent batches rxInProgress with
  | zero => exact absurd hfuel (Nat.not_lt_zero _)
  | succ fuel ih =>
    unfold IsoTpMessage.recvPass
    cases hbuff : m.canClient.rxBuff with
    | nil =>
      have hnext : m.canClient.next .yielded = (.ok none, m.canClient) :=
        CanClient.popleft_empty hbuff
      rw [hnext]
      exact .inl ⟨rxInProgress, rfl, hbuff, frames, sent, hmade, hreads, hon, hbatches⟩
    | cons frame rest =>
      have hnext : m.canClient.next .yielded =
          (.ok (some frame), { m.canClient with rxBuff := rest }) := CanClient.popleft_cons hbuff
      obtain ⟨frameType, after, coming, sentAfter, htaken, hmadeAfter, honAfter, hcoming, hfewer,
        hend⟩ := hreads.step hmade hon hbuff
      rw [hnext]
      dsimp only
      rw [htaken]
      dsimp only
      rcases hend with ⟨rfl, hanswered⟩ | ⟨hopen, hreadsAfter⟩
      · rw [hanswered.txDone, hanswered.rxDone, Bool.and_self, if_pos rfl]
        refine .inr ⟨?_, sentAfter, hmadeAfter, hanswered, honAfter, hfewer.trans hbatches⟩
        rw [hanswered.rxDat]
      · rw [hopen, if_neg Bool.false_ne_true]
        apply ih hmadeAfter hreadsAfter honAfter (hfewer.trans hbatches)
        have hsome := List.length_pos_iff.mpr hreads.ne_nil
        omega

/-- With nothing to hear, the response cannot be incomplete. -/
theorem Reads.hears {frames : List (List UInt8)} (hreads : x.Reads request hshort m frames)
    (hon : x.line.On (frames ++ later) sent m.canClient) (hbuff : m.canClient.rxBuff = []) :
    m.canClient.port.rx ≠ [] := by
  intro hrx
  obtain ⟨pending, hflat, -, hheard⟩ := hon.rx
  rw [hrx, List.flatten_nil] at hflat
  rw [hbuff, List.map_eq_nil_iff.mp hflat.symm, List.append_nil] at hheard
  exact hreads.ne_nil (List.append_eq_nil_iff.mp hheard).1

/-- One pass takes a batch if there is one. -/
theorem poll_reads {batches : Nat} (h : x.Waits request hshort later batches m)
    (rxInProgress : Bool) :
    x.PassOf request hshort later (batches - 1) (m.poll rxInProgress) := by
  obtain ⟨frames, sent, hmade, hreads, hon, hbatches⟩ := h
  obtain ⟨after, hfill, hafter, hle, hlt, -⟩ := hon.recvBufferLoop x.physical rfl
  have hnext : m.canClient.next (.created false) = after.next .yielded := by
    have hfill' : m.canClient.recvBuffer false = (none, after) := hfill
    rw [CanClient.next, hfill']
    rfl
  have hpoll : m.poll rxInProgress = IsoTpMessage.recvPass (m.pending + 1) .yielded rxInProgress
      { m with canClient := after } := by
    unfold IsoTpMessage.poll CanClient.recv IsoTpMessage.recvPass
    dsimp only
    rw [hnext]
  have hfewer : after.port.rx.length ≤ batches - 1 := by
    by_cases hrx : m.canClient.port.rx = []
    · rw [hrx, List.length_nil] at hle
      omega
    · have hless := hlt hrx
      omega
  have hfuel : frames.length < m.pending + 1 := by
    rw [IsoTpMessage.pending, hon.length, List.length_append]
    omega
  have hmade' : x.Made { m with canClient := after } :=
    ⟨hmade.maxLen, hmade.singleFrameMode, hmade.separationTime⟩
  rw [hpoll]
  exact recvPass_reads hmade' (hreads.withClient after) hafter hfewer hfuel rxInProgress

theorem Has.mono {batches batches' : Nat} (hle : batches ≤ batches')
    (h : x.Has dat later batches m) : x.Has dat later batches' m := by
  obtain ⟨sent, hmade, hanswered, hon, hfewer⟩ := h
  exact ⟨sent, hmade, hanswered, hon, hfewer.trans hle⟩

/-- The pass that returns the response ends the loop, whatever the clock says. -/
theorem recvLoop_returned {batches : Nat} {rxInProgress : Bool}
    (hreturned : (m.poll rxInProgress).1 = .returned dat)
    (hhas : x.Has dat later (batches - 1) (m.poll rxInProgress).2) (clock : List Bool) :
    ∃ after, IsoTpMessage.recvLoop true clock rxInProgress m = (.result (some dat) false, after) ∧
      x.Has dat later batches after := by
  have hpoll : m.poll rxInProgress = (.returned dat, (m.poll rxInProgress).2) :=
    Prod.ext hreturned rfl
  refine ⟨(m.poll rxInProgress).2, ?_, hhas.mono (Nat.sub_le _ _)⟩
  cases clock with
  | nil => rw [IsoTpMessage.recvLoop, hpoll]
  | cons late clock => rw [IsoTpMessage.recvLoop, hpoll]

/-- A call of `recv` returns the response when no reading of the clock is late. -/
theorem recvLoop_reads {batches : Nat} {clock : List Bool}
    (h : x.Waits request hshort later batches m) (hbatches : batches ≤ clock.length)
    (hclock : ∀ late ∈ clock, late = false) (rxInProgress : Bool) :
    ∃ after, IsoTpMessage.recvLoop true clock rxInProgress m = (.result (some dat) false, after) ∧
      x.Has dat later batches after := by
  induction clock generalizing m batches rxInProgress with
  | nil =>
    rcases poll_reads h rxInProgress with ⟨_, -, hempty, hwaits⟩ | ⟨hreturned, hhas⟩
    · obtain ⟨frames, sent, -, hreads, hon, hfewer⟩ := hwaits
      rw [Nat.le_zero.mp hbatches] at hfewer
      exact absurd (List.length_eq_zero_iff.mp (Nat.le_zero.mp hfewer)) (hreads.hears hon hempty)
    · exact recvLoop_returned hreturned hhas []
  | cons late clock ih =>
    obtain ⟨hlate, hlater⟩ := List.forall_mem_cons.mp hclock
    rcases poll_reads h rxInProgress with ⟨inProgress, hended, -, hwaits⟩ | ⟨hreturned, hhas⟩
    · have hpoll : m.poll rxInProgress = (.ended inProgress, (m.poll rxInProgress).2) :=
        Prod.ext hended rfl
      have hrest : batches - 1 ≤ clock.length := by
        rw [List.length_cons] at hbatches
        omega
      obtain ⟨after, hloop, hhas⟩ := ih hwaits hrest hlater inProgress
      refine ⟨after, ?_, hhas.mono (Nat.sub_le _ _)⟩
      rw [IsoTpMessage.recvLoop, hpoll, hlate]
      exact hloop
    · exact recvLoop_returned hreturned hhas (late :: clock)

/-! ### The whole exchange -/

theorem Has.next {later : List (List UInt8)} {batches : Nat} {next : List UInt8}
    (hnext : next.length ≤ 4095)
    (h : x.Has dat (responseFrames x.maxLen next ++ later) batches m) :
    x.Waits request hnext later batches m := by
  obtain ⟨sent, hmade, hanswered, hon, hbatches⟩ := h
  refine ⟨_, sent, hmade, ?_, hon, hbatches⟩
  exact .next hanswered.txDone (.inl hanswered.rxDone)

/-- A call of `recv` in time returns the response. -/
theorem recv_reads {u : UdsClient} {batches : Nat} {responsePending : Bool} {clock : List Nat}
    {clocks : List (List Nat)} (hblocking : 0 < u.timeout ∧ 0 < u.responsePendingTimeout)
    (htime : u.InTime batches responsePending (clock :: clocks))
    (h : x.Waits request hshort later batches m) :
    ∃ after, m.recv (u.limit responsePending ≠ 0)
        (clock.map fun elapsed => elapsed > u.limit responsePending) =
          (.result (some dat) false, after) ∧
      x.Has dat later batches after := by
  obtain ⟨hbatches, hclock, -⟩ := htime
  have hlimit : u.limit responsePending ≠ 0 := by
    cases responsePending with
    | true => exact Nat.ne_of_gt hblocking.2
    | false => exact Nat.ne_of_gt hblocking.1
  unfold IsoTpMessage.recv
  rw [decide_eq_true hlimit]
  apply recvLoop_reads h
  · rwa [List.length_map]
  · intro late hlate
    obtain ⟨elapsed, helapsed, rfl⟩ := List.mem_map.mp hlate
    exact decide_eq_false (Nat.not_lt.mpr (hclock elapsed helapsed))

/-- After the send of the request the client reads the first response. -/
theorem send_waits {x : Exchange} {request dat : List UInt8} {fcs : List FlowControl}
    {later sent : List (List UInt8)} {c : CanClient} (hshort : dat.length ≤ 4095)
    (hrequest : request.length ≤ 4095)
    (htakes : TakesRequest (framesLeft x.maxLen request) fcs)
    (hon : x.line.On (fcs.map FlowControl.frame ++ responseFrames x.maxLen dat ++ later) sent c) :
    ∃ m, ({ canClient := c, maxLen := x.maxLen } : IsoTpMessage).send request false = (none, m) ∧
      x.Waits request hshort later c.port.rx.length m := by
  obtain ⟨hlower, hupper⟩ := x.maxLen_bounds
  have hsent {frame : List UInt8} (hframe : frame.length = x.maxLen) (m : IsoTpMessage)
      (hm : m.canClient = c) := IsoTpTransfer.canSend_on x.physical [frame] (m := m) (hm ▸ hon) (by
        intro msg hmsg
        rw [List.mem_singleton.mp hmsg, hframe]
        exact hupper)
  unfold IsoTpMessage.send CanClient.recv IsoTpMessage.txFirstFrame
  dsimp only
  unfold framesLeft at htakes
  by_cases hlen : request.length < x.maxLen
  · have hframe : (ljust x.maxLen (.ofNat request.length :: request)).length = x.maxLen := by
      simp only [ljust, List.length_append, List.length_cons, List.length_replicate]
      omega
    rw [if_pos hlen] at htakes
    rw [if_pos hlen, if_neg Bool.false_ne_true]
    obtain ⟨after, hsend, hafter, hbatches⟩ := hsent hframe
      { canClient := c, maxLen := x.maxLen, txDat := request, txLen := request.length,
        txDone := true } rfl
    cases fcs with
    | nil =>
      refine ⟨_, hsend, _, _, ⟨rfl, rfl, rfl⟩, ?_, hafter, hbatches⟩
      exact .next rfl (.inr ⟨rfl, rfl⟩)
    | cons fc fcs => exact absurd (takesRequest_pos htakes) (Nat.lt_irrefl 0)
  · have hlong := Nat.not_lt.mp hlen
    have hframe : (firstFrame x.maxLen request).length = x.maxLen := by
      rw [IsoTpTransfer.firstFrame_eq hlower hlong hrequest]
      simp only [List.length_cons, List.length_take]
      omega
    have hhead : ¬ 0x1000 ||| request.length ≥ 2 ^ 16 :=
      Nat.not_le.mpr (Nat.or_lt_two_pow (by decide) (by omega))
    have hsome : 0 < frameCount x.maxLen request.length := by
      rw [lt_frameCount_iff (Nat.le_of_succ_le hlower) hlong]
      omega
    rw [if_neg hlen] at htakes
    rw [if_neg hlen, if_neg hhead, if_neg Bool.false_ne_true]
    obtain ⟨after, hsend, hafter, hbatches⟩ := hsent hframe
      { canClient := c, maxLen := x.maxLen, txDat := request, txLen := request.length } rfl
    refine ⟨_, hsend, _, _, ⟨rfl, rfl, rfl⟩, ?_, hafter, hbatches⟩
    exact .asked 0 hlong ⟨rfl, rfl, rfl, rfl⟩ hsome rfl rfl rfl htakes

/-- The first response that is not pending answers the request. -/
theorem requestLoop_reads {service : ServiceType} {subfunction : Option UInt8} {u : UdsClient}
    {pendings rest : List (List UInt8)} {final : List UInt8} {batches : Nat}
    {responsePending : Bool} {clocks : List (List Nat)}
    (hblocking : 0 < u.timeout ∧ 0 < u.responsePendingTimeout)
    (hresponses : dat :: rest = pendings ++ [final])
    (hlengths : ∀ resp ∈ rest, resp.length ≤ 4095)
    (hpending : ∀ resp ∈ pendings, interpret service subfunction resp = .pending)
    (hfinal : interpret service subfunction final ≠ .pending)
    (hcalls : pendings.length < clocks.length) (htime : u.InTime batches responsePending clocks)
    (h : x.Waits request hshort (rest.flatMap (responseFrames x.maxLen)) batches m) :
    ∃ after, u.requestLoop service subfunction clocks responsePending m =
        ((interpret service subfunction final).result, after) ∧
      x.Has final [] batches after := by
  induction pendings generalizing dat rest batches responsePending clocks m with
  | nil =>
    obtain ⟨rfl, rfl⟩ := List.cons.inj hresponses
    obtain ⟨clock, clocks, rfl⟩ := List.exists_cons_of_length_pos hcalls
    obtain ⟨after, hrecv, hhas⟩ := recv_reads hblocking htime h
    refine ⟨after, ?_, hhas⟩
    unfold UdsClient.requestLoop
    dsimp only
    rw [hrecv]
    dsimp only
    cases hreply : interpret service subfunction dat with
    | pending => exact absurd hreply hfinal
    | raised exc => rfl
    | returned data => rfl
  | cons resp pendings ih =>
    obtain ⟨rfl, hrest⟩ := List.cons.inj hresponses
    obtain ⟨clock, clocks, rfl⟩ := List.exists_cons_of_length_pos (Nat.zero_lt_of_lt hcalls)
    obtain ⟨hnow, hothers⟩ := List.forall_mem_cons.mp hpending
    obtain ⟨next, rest, rfl⟩ : ∃ next rest', rest = next :: rest' := by
      apply List.exists_cons_of_ne_nil
      rw [hrest]
      exact List.append_ne_nil_of_right_ne_nil _ (List.cons_ne_nil _ _)
    obtain ⟨hnext, hlater⟩ := List.forall_mem_cons.mp hlengths
    obtain ⟨after, hrecv, hhas⟩ := recv_reads hblocking htime h
    rw [List.flatMap_cons] at hhas
    obtain ⟨last, hloop, hlast⟩ := ih hrest hlater hothers
      (Nat.lt_of_succ_lt_succ hcalls) htime.2.2 (hhas.next hnext)
    refine ⟨last, ?_, hlast⟩
    unfold UdsClient.requestLoop
    dsimp only
    rw [hrecv]
    dsimp only
    rw [hnow]
    exact hloop

end Exchange

/-- A request of any length and the responses to it, in any batches: with time for them,
`_uds_request` comes to what the first response that is not pending says, and leaves
nothing behind for the next request. -/
theorem uds_request_answered (x : Exchange) (u : UdsClient) (service : ServiceType)
    (subfunction : Option UInt8) (data : Option (List UInt8)) (fcs : List FlowControl)
    (pendings : List (List UInt8)) (final : List UInt8) (clocks : List (List Nat))
    {sent : List (List UInt8)}
    (hon : x.line.On (fcs.map FlowControl.frame ++
      (pendings ++ [final]).flatMap (responseFrames x.maxLen)) sent u.canClient)
    (hblocking : 0 < u.timeout ∧ 0 < u.responsePendingTimeout)
    (hrequest : (UdsClient.requestBytes service subfunction data).length ≤ 4095)
    (htakes : TakesRequest
      (framesLeft x.maxLen (UdsClient.requestBytes service subfunction data)) fcs)
    (hlengths : ∀ resp ∈ pendings ++ [final], resp.length ≤ 4095)
    (hpending : ∀ resp ∈ pendings, interpret service subfunction resp = .pending)
    (hfinal : interpret service subfunction final ≠ .pending)
    (hcalls : pendings.length < clocks.length)
    (htime : u.InTime u.canClient.port.rx.length false clocks) :
    ∃ after sent', u.udsRequest service subfunction data clocks =
        ((interpret service subfunction final).result, after) ∧
      x.line.On [] sent' after.canClient := by
  have hsub : u.canClient.subAddr = x.line.subAddr := hon.subAddr
  obtain ⟨resp, rest, hresponses⟩ : ∃ resp rest, pendings ++ [final] = resp :: rest :=
    List.exists_cons_of_ne_nil (List.append_ne_nil_of_right_ne_nil _ (List.cons_ne_nil _ _))
  rw [hresponses] at hlengths hon
  obtain ⟨hshort, hrest⟩ := List.forall_mem_cons.mp hlengths
  rw [List.flatMap_cons, ← List.append_assoc] at hon
  obtain ⟨m, hsend, hwaits⟩ := Exchange.send_waits hshort hrequest htakes hon
  obtain ⟨after, hloop, sent', -, -, hafter, -⟩ :=
    Exchange.requestLoop_reads hblocking hresponses.symm hrest hpending hfinal hcalls htime hwaits
  refine ⟨{ u with canClient := after.canClient }, sent', ?_, hafter⟩
  unfold UdsClient.udsRequest
  rw [hsub]
  dsimp only
  rw [show UdsClient.maxLen x.line.subAddr = x.maxLen from rfl, hsend]
  dsimp only
  rw [hloop]

def engine : Exchange where
  line := ⟨0x7E0, 0x7E8, 0, none⟩
  physical := by decide

def vinRecord : List UInt8 := [0xF1, 0x90] ++ List.replicate 17 0x57

/-- The identifiers that the client asks for: with the service 17 bytes, in three frames. -/
def vinIdentifiers : List UInt8 :=
  [0xF1, 0x90, 0xF1, 0x8C, 0xF1, 0x87, 0xF1, 0x89, 0xF1, 0x91, 0xF1, 0x93, 0xF1, 0x95, 0xF1, 0x97]

/-- One frame, a wait, and one more frame. -/
def vinFlowControl : List FlowControl := [.continueWith 1 0 [], .wait [], .continueWith 1 10 []]

def vinPendings : List (List UInt8) := [[0x7F, 0x22, 0x78], [0x7F, 0x22, 0x78]]

/-- The flow control, two response pending and the vehicle identification number. -/
def vinFrames : List (List UInt8) :=
  vinFlowControl.map FlowControl.frame ++
    (vinPendings ++ [0x62 :: vinRecord]).flatMap (responseFrames engine.maxLen)

/-- The frames come in four batches; one of them ends within the response. -/
def vinBatches : List (List CanMessage) :=
  let frames := vinFrames.map engine.line.peer.wire
  [frames.take 1, (frames.drop 1).take 3, (frames.drop 4).take 2, frames.drop 6]

def vinClient : UdsClient where
  canClient := { engine.line.client with port.rx := vinBatches }

theorem uds_request_answered_vin :
    ∃ after sent', vinClient.udsRequest .readDataByIdentifier none (some vinIdentifiers)
        (List.replicate 3 [0, 0, 0, 0]) = (.returned vinRecord, after) ∧
      engine.line.On [] sent' after.canClient := by
  have hon : engine.line.On vinFrames [] vinClient.canClient :=
    ⟨⟨rfl, rfl, rfl, rfl⟩, rfl, vinFrames, by decide, by decide, rfl⟩
  have htime : vinClient.InTime 4 false (List.replicate 3 [0, 0, 0, 0]) :=
    ⟨by decide, by decide, by decide, by decide, by decide, by decide, trivial⟩
  exact uds_request_answered engine vinClient .readDataByIdentifier none (some vinIdentifiers)
    vinFlowControl vinPendings (0x62 :: vinRecord) (List.replicate 3 [0, 0, 0, 0]) hon (by decide)
    (by decide) (by decide) (by decide) (by decide) (by decide) (by decide) htime

end Panda.Host
