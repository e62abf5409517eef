import Panda.Host.IsoTp

/-!
`python/isotp.py`: the functions `isotp_send` and `isotp_recv`. A call runs in a
process of its own with its own `kmsgs`. It is stopped at each `can_recv`, and goes
on with the messages that `can_recv` returns.
-/

namespace Panda.Host.Isotp

inductive IsotpException where
  | assertionError
  | indexError
  | valueError
deriving DecidableEq

def msg (x : List UInt8) : List UInt8 := ljust 8 (.ofNat x.length :: x)

/-! ### `recv` -/

/-- The loop of `recv` over `kmsgs`: the frames that were taken, and the messages to
leave around. -/
def takeFrames (cnt addr nbus : Nat) : List CanMessage → List (List UInt8) →
    List (List UInt8) × List CanMessage
  | [], ret => (ret, [])
  | m :: kmsgs, ret =>
      if m.address = addr ∧ m.bus = nbus ∧ ret.length < cnt then
        takeFrames cnt addr nbus kmsgs (ret ++ [m.dat])
      else
        let (ret, nmsgs) := takeFrames cnt addr nbus kmsgs ret
        (ret, m :: nmsgs)

/-- The loop body of `recv` with what `can_recv` returned. -/
def recvBody (cnt addr nbus : Nat) (received kmsgs : List CanMessage) (ret : List (List UInt8)) :
    List (List UInt8) × List CanMessage :=
  let (ret, nmsgs) := takeFrames cnt addr nbus (kmsgs ++ received) ret
  (ret, nmsgs.drop (nmsgs.length - 256))

/-! ### `isotp_send` -/

/-- Where a call of `isotp_send` is: it waits for flow control, before the frames or
between them, or it has ended. -/
inductive SendPhase where
  | waiting (sends : List (List UInt8))
  | stepping (sends : List (List UInt8))
  | returned
  | raised (exc : IsotpException)
deriving DecidableEq

structure Sender where
  addr : Nat
  bus : Nat
  recvaddr : Nat
  port : CanPort := {}
  kmsgs : List CanMessage := []
  phase : SendPhase := .returned
deriving DecidableEq

/-- `if subaddr`: zero counts as no sub-address. -/
def truthy : Option UInt8 → Option UInt8
  | some subaddr => if subaddr ≠ 0 then some subaddr else none
  | none => none

def sendsLoop (subaddr : Option UInt8) : Nat → Nat → List UInt8 → List (List UInt8)
  | 0, _, _ => []
  | fuel + 1, idx, x =>
      if x.length > 0 then
        match truthy subaddr with
        | some subaddr =>
            ljust 8 ([subaddr, .ofNat (0x20 + (idx &&& 0xF))] ++ x.take 6) ::
              sendsLoop (some subaddr) fuel (idx + 1) (x.drop 6)
        | none =>
            ljust 8 ([.ofNat (0x20 + (idx &&& 0xF))] ++ x.take 7) ::
              sendsLoop none fuel (idx + 1) (x.drop 7)
      else []

def firstFrame (x : List UInt8) (subaddr : Option UInt8) : List UInt8 × List UInt8 :=
  match truthy subaddr with
  | some subaddr =>
      ([subaddr, .ofNat (0x10 + (x.length >>> 8)), .ofNat (x.length &&& 0xFF)] ++ x.take 5,
        x.drop 5)
  | none =>
      ([.ofNat (0x10 + (x.length >>> 8)), .ofNat (x.length &&& 0xFF)] ++ x.take 6, x.drop 6)

namespace Sender

def canSend (dat : List UInt8) (bus : Nat) (p : Sender) : Sender :=
  { p with port := p.port.canSend p.addr dat bus }

/-- The frames one by one, each after the last flow control. -/
def sendNext : List (List UInt8) → Sender → Sender
  | [], p => { p with phase := .raised .indexError }
  | [s], p => { p.canSend s 0 with phase := .returned }
  | s :: sends, p => { p.canSend s 0 with phase := .stepping sends }

/-- All frames at once, with or without a rate. -/
def sendAll (sends : List (List UInt8)) (p : Sender) : Sender :=
  { sends.foldl (fun p s => p.canSend s p.bus) p with phase := .returned }

/-- `rr.find(b"\x30\x01") != -1`. -/
def asksOneByOne : List UInt8 → Bool
  | first :: second :: rr => (first == 0x30 && second == 0x01) || asksOneByOne (second :: rr)
  | _ => false

def answered (rr : List UInt8) (p : Sender) : Sender :=
  match p.phase with
  | .waiting sends => if asksOneByOne rr then p.sendNext sends else p.sendAll sends
  | .stepping sends => p.sendNext sends
  | .returned | .raised _ => p

def waits (p : Sender) : Bool :=
  match p.phase with
  | .waiting _ | .stepping _ => true
  | .returned | .raised _ => false

def step (p : Sender) : Sender :=
  if p.waits then
    let (received, port) := p.port.canRecv
    let (ret, kmsgs) := recvBody 1 p.recvaddr p.bus received p.kmsgs []
    let p := { p with port, kmsgs }
    match ret with
    | [] => p
    | rr :: _ => p.answered rr
  else p

end Sender

def isotpSend (x : List UInt8) (addr bus recvaddr : Nat) (subaddr : Option UInt8) : Sender :=
  let p : Sender := { addr, bus, recvaddr }
  let long (p : Sender) : Sender :=
    if 0x10 + (x.length >>> 8) > 0xFF then { p with phase := .raised .valueError }
    else
      let (ss, rest) := firstFrame x subaddr
      let sends := sendsLoop subaddr rest.length 1 rest
      -- actually send
      { p.canSend ss bus with phase := .waiting sends }
  match subaddr with
  | none => if x.length ≤ 7 then p.canSend (msg x) bus else long p
  | some subaddr =>
      if x.length ≤ 6 then p.canSend ([subaddr] ++ (msg x).take 7) bus else long p

/-! ### `isotp_recv` -/

/-- Where a call of `isotp_recv` is: it waits for the first message, or for the
consecutive frames of which it has some, or it has ended. -/
inductive RecvPhase where
  | first
  | rest (tlen : Nat) (dat : List UInt8) (ret : List (List UInt8))
  | returned (dat : List UInt8)
  | raised (exc : IsotpException)
deriving DecidableEq

structure Receiver where
  addr : Nat
  bus : Nat
  sendaddr : Nat
  subaddr : Option UInt8
  port : CanPort := {}
  kmsgs : List CanMessage := []
  phase : RecvPhase := .first
deriving DecidableEq

namespace Receiver

def cnt (tlen : Nat) (dat : List UInt8) (p : Receiver) : Nat :=
  match p.subaddr with
  | some _ => (tlen + 5 - dat.length) / 6
  | none => (tlen + 6 - dat.length) / 7

def gather (subaddr : Option UInt8) : Nat → List (List UInt8) → List UInt8 →
    Except IsotpException (List UInt8)
  | _, [], dat => .ok dat
  | idx, mm :: frames, dat =>
      match subaddr, mm with
      | some subaddr, first :: second :: rest =>
          if first ≠ subaddr then .error .assertionError
          else if second.toNat ≠ 0x20 ||| (idx &&& 0xF) then .error .assertionError
          else gather (some subaddr) (idx + 1) frames (dat ++ rest)
      | some subaddr, [first] =>
          if first ≠ subaddr then .error .assertionError else .error .indexError
      | none, first :: rest =>
          if first.toNat ≠ 0x20 ||| (idx &&& 0xF) then .error .assertionError
          else gather none (idx + 1) frames (dat ++ rest)
      | _, [] => .error .indexError

def await (tlen : Nat) (dat : List UInt8) (ret : List (List UInt8)) (p : Receiver) : Receiver :=
  if ret.length < p.cnt tlen dat then { p with phase := .rest tlen dat ret }
  else
    match gather p.subaddr 1 ret dat with
    | .ok dat => { p with phase := .returned (dat.take tlen) }
    | .error exc => { p with phase := .raised exc }

/-- What follows on the first message, behind the sub-address. -/
def start (m : List UInt8) (p : Receiver) : Receiver :=
  match m with
  | [] => { p with phase := .raised .indexError }
  | first :: rest =>
      if first &&& 0xF0 = 0x10 then
        match rest with
        | [] => { p with phase := .raised .indexError }
        | second :: dat =>
            let tlen := (first &&& 0xF).toNat <<< 8 ||| second.toNat
            -- 0 block size?
            let proceed := ljust 8 (p.subaddr.toList ++ [0x30])
            { p with port := p.port.canSend p.sendaddr proceed p.bus }.await tlen dat []
      else if first &&& 0xF0 = 0x00 then
        { p with phase := .returned (rest.take (first &&& 0xF).toNat) }
      else { p with phase := .raised .assertionError }

def received (m : List UInt8) (p : Receiver) : Receiver :=
  match p.subaddr, m with
  | none, m => p.start m
  | some _, [] => { p with phase := .raised .indexError }
  | some subaddr, first :: m =>
      if first ≠ subaddr then { p with phase := .raised .assertionError } else p.start m

def waits (p : Receiver) : Bool :=
  match p.phase with
  | .first | .rest _ _ _ => true
  | .returned _ | .raised _ => false

def step (p : Receiver) : Receiver :=
  match p.phase with
  | .first =>
      let (received, port) := p.port.canRecv
      let (ret, kmsgs) := recvBody 1 p.addr p.bus received p.kmsgs []
      let p := { p with port, kmsgs }
      match ret with
      | [] => p
      | m :: _ => p.received m
  | .rest tlen dat ret =>
      let (received, port) := p.port.canRecv
      let (ret, kmsgs) := recvBody (p.cnt tlen dat) p.addr p.bus received p.kmsgs ret
      { p with port, kmsgs }.await tlen dat ret
  | .returned _ | .raised _ => p

end Receiver

def isotpRecv (addr bus sendaddr : Nat) (subaddr : Option UInt8) : Receiver :=
  { addr, bus, sendaddr, subaddr }

end Panda.Host.Isotp
