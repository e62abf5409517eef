import Panda.Host.CanClient

/-!
`IsoTpMessage` of `python/uds.py`: one request over ISO-TP and its response. The
two directions share the state of the message, and what is left of the time
limit is given from outside.
-/

namespace Panda.Host

inductive IsoTpFrameType where
  | single
  | first
  | consecutive
  | flow
deriving DecidableEq

/-- `IsoTpMessage`. The constructor encodes the separation time in one byte, up
to 0x7F or from 0xF1 to 0xF9. -/
structure IsoTpMessage where
  canClient : CanClient
  singleFrameMode : Bool := false
  separationTime : UInt8 := 0
  maxLen : Nat := 8
  txDat : List UInt8 := []
  txLen : Nat := 0
  txIdx : Nat := 0
  txDone : Bool := false
  rxDat : List UInt8 := []
  rxLen : Nat := 0
  rxIdx : Nat := 0
  rxDone : Bool := false
deriving DecidableEq

def ljust (n : Nat) (bytes : List UInt8) : List UInt8 :=
  bytes ++ List.replicate (n - bytes.length) 0

theorem ljust_append (n : Nat) (first second : List UInt8) :
    ljust n (first ++ second) = first ++ ljust (n - first.length) second := by
  simp only [ljust, List.append_assoc, List.length_append, Nat.sub_add_eq]

namespace IsoTpMessage

def flowControlMsg (m : IsoTpMessage) : List UInt8 :=
  ljust m.maxLen [0x30, if m.singleFrameMode then 0x01 else 0x00, m.separationTime]

def hearing (rx : List (List CanMessage)) (m : IsoTpMessage) : IsoTpMessage :=
  { m with canClient.port.rx := rx }

def canSend (msgs : List (List UInt8)) (m : IsoTpMessage) : Option UdsException × IsoTpMessage :=
  let (exc, canClient) := m.canClient.send msgs
  (exc, { m with canClient })

/-! ### Sending -/

/-- `_tx_first_frame`. A message that is only set up sends nothing. -/
def txFirstFrame (setupOnly : Bool) (m : IsoTpMessage) : Option UdsException × IsoTpMessage :=
  if m.txLen < m.maxLen then
    -- single frame (send all bytes)
    let m := { m with txDone := true }
    if setupOnly then (none, m)
    else m.canSend [ljust m.maxLen (.ofNat m.txLen :: m.txDat)]
  else
    -- first frame (send first 6 bytes)
    let head := 0x1000 ||| m.txLen
    if head ≥ 2 ^ 16 then (some .structError, m)
    else if setupOnly then (none, m)
    else m.canSend [ljust (m.maxLen - 2)
      ([.ofNat (head >>> 8), .ofNat (head &&& 0xFF)] ++ m.txDat.take (m.maxLen - 2))]

/-- `send`. The generator of `recv` is dropped as soon as it is made. -/
def send (dat : List UInt8) (setupOnly : Bool) (m : IsoTpMessage) :
    Option UdsException × IsoTpMessage :=
  let (_, canClient) := m.canClient.recv true
  { m with
    canClient
    txDat := dat
    txLen := dat.length
    txIdx := 0
    txDone := false
    rxDat := []
    rxLen := 0
    rxIdx := 0
    rxDone := false } |>.txFirstFrame setupOnly

/-! ### Frames that are received -/

def rxSingle (rxData : List UInt8) (first : UInt8) (m : IsoTpMessage) :
    Except UdsException IsoTpFrameType × IsoTpMessage :=
  if ¬ (m.rxDat = [] ∨ m.rxDone) then
    (.error (.assertionError "isotp - rx: single frame with active frame"), m)
  else
    let m := { m with rxLen := (first &&& 0x0F).toNat }
    if ¬ m.rxLen < m.maxLen then
      (.error (.assertionError s!"isotp - rx: invalid single frame length: {m.rxLen}"), m)
    else
      (.ok .single, { m with rxDat := (rxData.drop 1).take m.rxLen, rxIdx := 0, rxDone := true })

/-- The answer to a frame that was received, and the type of that frame. -/
def answer (frameType : IsoTpFrameType) (m : IsoTpMessage) :
    Except UdsException IsoTpFrameType × IsoTpMessage :=
  match m.canSend [m.flowControlMsg] with
  | (some exc, m) => (.error exc, m)
  | (none, m) => (.ok frameType, m)

def rxFirst (rxData : List UInt8) (first : UInt8) (m : IsoTpMessage) :
    Except UdsException IsoTpFrameType × IsoTpMessage :=
  if ¬ (m.rxDat = [] ∨ m.rxDone) then
    (.error (.assertionError "isotp - rx: first frame with active frame"), m)
  else
    match rxData[1]? with
    | none => (.error .indexError, m)
    | some second =>
        let m := { m with rxLen := ((first &&& 0x0F).toNat <<< 8) + second.toNat }
        if ¬ m.rxLen ≥ m.maxLen then
          (.error (.assertionError s!"isotp - rx: invalid first frame length: {m.rxLen}"), m)
        else if rxData.length ≠ m.maxLen then
          (.error (.assertionError
            s!"isotp - rx: invalid CAN frame length: {rxData.length}"), m)
        else
          -- send flow control message
          { m with rxDat := rxData.drop 2, rxIdx := 0, rxDone := false } |>.answer .first

def rxConsecutive (rxData : List UInt8) (first : UInt8) (m : IsoTpMessage) :
    Except UdsException IsoTpFrameType × IsoTpMessage :=
  if m.rxDone then
    (.error (.assertionError "isotp - rx: consecutive frame with no active frame"), m)
  else
    let m := { m with rxIdx := m.rxIdx + 1 }
    if m.rxIdx &&& 0xF ≠ (first &&& 0xF).toNat then
      (.error (.assertionError "isotp - rx: invalid consecutive frame index"), m)
    else
      let m := { m with
        rxDat := m.rxDat ++ (rxData.drop 1).take (m.rxLen - m.rxDat.length) }
      if m.rxLen = m.rxDat.length then (.ok .consecutive, { m with rxDone := true })
      -- notify ECU to send next frame
      else if m.singleFrameMode then m.answer .consecutive
      else (.ok .consecutive, m)

def txConsecutive (i : Nat) (m : IsoTpMessage) : List UInt8 :=
  ljust m.maxLen (.ofNat (0x20 ||| (m.txIdx &&& 0xF)) :: (m.txDat.drop i).take (m.maxLen - 1))

def txLoop (endIdx : Nat) : Nat → Nat → IsoTpMessage → List (List UInt8) × IsoTpMessage
  | 0, _, m => ([], m)
  | fuel + 1, i, m =>
      if i < endIdx then
        let m := { m with txIdx := m.txIdx + 1 }
        let (txMsgs, after) := txLoop endIdx fuel (i + (m.maxLen - 1)) m
        (m.txConsecutive i :: txMsgs, after)
      else ([], m)

def blockSent (endIdx : Nat) : Option UdsException × IsoTpMessage →
    Except UdsException IsoTpFrameType × IsoTpMessage
  | (some exc, m) => (.error exc, m)
  | (none, m) => (.ok .flow, if endIdx ≥ m.txLen then { m with txDone := true } else m)

def rxContinue (count : Nat) (m : IsoTpMessage) :
    Except UdsException IsoTpFrameType × IsoTpMessage :=
  -- first frame = 6 bytes, each consecutive frame = 7 bytes
  let numBytes := m.maxLen - 1
  let start := m.maxLen - 2 + m.txIdx * numBytes
  let endIdx := if count > 0 then start + count * numBytes else m.txLen
  let (txMsgs, m) := txLoop endIdx (endIdx - start) start m
  -- send consecutive tx messages
  blockSent endIdx (m.canSend txMsgs)

def rxFlow (rxData : List UInt8) (first : UInt8) (m : IsoTpMessage) :
    Except UdsException IsoTpFrameType × IsoTpMessage :=
  if m.txDone then
    (.error (.assertionError "isotp - rx: flow control with no active frame"), m)
  else if first = 0x32 then
    (.error (.assertionError "isotp - rx: flow-control overflow/abort"), m)
  else if first = 0x30 then
    match rxData[1]?, rxData[2]? with
    | some count, some _ => m.rxContinue count.toNat
    | _, _ => (.error .indexError, m)
  -- wait (do nothing until next flow control message)
  else if first = 0x31 then (.ok .flow, m)
  else
    (.error (.assertionError "isotp - rx: flow-control transfer state indicator invalid"), m)

def isotpRxNext (rxData : List UInt8) (m : IsoTpMessage) :
    Except UdsException IsoTpFrameType × IsoTpMessage :=
  match rxData with
  | [] => (.error .indexError, m)
  | first :: _ =>
      if first >>> 4 = 0 then m.rxSingle rxData first
      else if first >>> 4 = 1 then m.rxFirst rxData first
      else if first >>> 4 = 2 then m.rxConsecutive rxData first
      else if first >>> 4 = 3 then m.rxFlow rxData first
      else (.error (.invalidFrameType s!"isotp - rx: invalid frame type: {first >>> 4}"), m)

/-! ### Waiting for the response -/

/-- How a pass of the loop in `recv` over the buffered frames ends. -/
inductive Pass where
  | returned (rxDat : List UInt8)
  | raised (exc : UdsException)
  | ended (rxInProgress : Bool)
deriving DecidableEq

def pending (m : IsoTpMessage) : Nat :=
  m.canClient.rxBuff.length + (m.canClient.port.rx.map List.length).sum

def recvPass : Nat → CanClient.Generator → Bool → IsoTpMessage → Pass × IsoTpMessage
  | 0, _, rxInProgress, m => (.ended rxInProgress, m)
  | fuel + 1, gen, rxInProgress, m =>
      let (item, canClient) := m.canClient.next gen
      let m := { m with canClient }
      match item with
      | .error exc => (.raised exc, m)
      | .ok none => (.ended rxInProgress, m)
      | .ok (some msg) =>
          match m.isotpRxNext msg with
          | (.error exc, m) => (.raised exc, m)
          | (.ok frameType, m) =>
              -- anything that signifies we're building a response
              let rxInProgress := frameType = .first ∨ frameType = .consecutive
              if m.txDone && m.rxDone then (.returned m.rxDat, m)
              else recvPass fuel .yielded rxInProgress m

def poll (rxInProgress : Bool) (m : IsoTpMessage) : Pass × IsoTpMessage :=
  let (gen, canClient) := m.canClient.recv false
  recvPass (m.pending + 1) gen rxInProgress { m with canClient }

/-- What a call of `recv` has come to: a result, an exception, or still waiting
when the readings of the clock are used up. -/
inductive Received where
  | result (rxDat : Option (List UInt8)) (rxInProgress : Bool)
  | raised (exc : UdsException)
  | waiting
deriving DecidableEq

/-- The loop of `recv`. Each reading of the clock says whether the time is up. -/
def recvLoop (blocking : Bool) : List Bool → Bool → IsoTpMessage → Received × IsoTpMessage
  | clock, rxInProgress, m =>
      match m.poll rxInProgress with
      | (.returned rxDat, m) => (.result rxDat false, m)
      | (.raised exc, m) => (.raised exc, m)
      | (.ended rxInProgress, m) =>
          -- no timeout indicates non-blocking
          if !blocking then (.result none rxInProgress, m)
          else
            match clock with
            | [] => (.waiting, m)
            | true :: _ => (.raised (.messageTimeoutError "timeout waiting for response"), m)
            | false :: clock => recvLoop blocking clock rxInProgress m

def recv (blocking : Bool) (clock : List Bool) (m : IsoTpMessage) : Received × IsoTpMessage :=
  recvLoop blocking clock false m

end IsoTpMessage

end Panda.Host
