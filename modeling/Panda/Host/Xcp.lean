import Panda.Host.CanBuffer

/-!
`python/xcp.py`: `XcpClient` with `connect` and `upload`. Of the panda there are the
calls that the client makes, and what its `can_recv` returns.
-/

namespace Panda.Host

def errorCodes : List (UInt8 × String) :=
  [(0x00, "Command processor synchronization"),
   (0x10, "Command was not executed"),
   (0x11, "Command rejected because DAQ is running"),
   (0x12, "Command rejected because PGM is running"),
   (0x20, "Unknown command or not implemented optional command"),
   (0x21, "Command syntax invalid"),
   (0x22, "Command syntax valid but command parameter(s) out of range"),
   (0x23, "The memory location is write protected"),
   (0x24, "The memory location is not accessible"),
   (0x25, "Access denied, Seed & Key is required"),
   (0x26, "Selected page not available"),
   (0x27, "Selected page mode not available"),
   (0x28, "Selected segment not valid"),
   (0x29, "Sequence error"),
   (0x2A, "DAQ configuration not valid"),
   (0x30, "Memory overflow error"),
   (0x31, "Generic error"),
   (0x32, "The slave internal program verify routine detects an error")]

/-- What the client raises. The message of a response error is put together from the
code, its description and the rest of the frame. -/
inductive XcpException where
  | commandTimeoutError (message : String)
  | commandResponseError (returnCode : UInt8) (errDesc : String) (dat : List UInt8)
  | valueError (message : String)
  | assertionError (message : String)
  | attributeError
  | indexError
deriving DecidableEq

inductive PandaCall where
  | canClear (bus : Nat)
  | canSend (address : Nat) (dat : List UInt8) (bus : Nat)
deriving DecidableEq

inductive ByteOrder where
  | big
  | little
deriving DecidableEq

/-- `XcpClient`. `polls` holds for each test of the time what `can_recv` returns, or
nothing if the time is up. `connect` sets whether the slave has block mode. -/
structure XcpClient where
  txAddr : Nat
  rxAddr : Nat
  canBus : Nat
  pad : Bool := true
  byteOrder : ByteOrder := .big
  maxCto : Nat := 8
  maxDto : Nat := 8
  slaveBlockMode : Option Bool := none
  polls : List (Option (List CanMessage)) := []
  sent : List PandaCall := []
deriving DecidableEq

structure ConnectInfo where
  calSupport : Bool
  daqSupport : Bool
  stimSupport : Bool
  pgmSupport : Bool
  byteOrder : ByteOrder
  addressGranularity : Nat
  slaveBlockMode : Bool
  optional : Bool
  maxCto : Nat
  maxDto : Nat
  protocolVersion : UInt8
  transportVersion : UInt8
deriving DecidableEq

namespace XcpClient

def sendCto (cmd : UInt8) (dat : List UInt8) (c : XcpClient) : XcpClient :=
  let txData := cmd :: dat
  -- Some ECUs don't respond if the packets are not padded to 8 bytes
  let txData := if c.pad then txData ++ List.replicate (8 - txData.length) 0 else txData
  { c with
    sent := c.sent ++
      [.canClear c.canBus, .canClear 0xFFFF, .canSend c.txAddr txData c.canBus] }

def addressed (c : XcpClient) (msg : CanMessage) : Bool :=
  msg.bus == c.canBus && msg.address == c.rxAddr

def dto : List UInt8 → Except XcpException (List UInt8)
  | [] => .error .indexError
  | pid :: rxData =>
      if pid = 0xFE then
        match rxData with
        | [] => .error .indexError
        | err :: dat =>
            let errDesc := ((errorCodes.find? (·.1 == err)).map Prod.snd).getD "unknown error"
            .error (.commandResponseError err errDesc dat)
      else .ok rxData

/-- The loop of `_recv_dto`: what it came to, and the polls that are left. -/
def recvDtoLoop (c : XcpClient) : List (Option (List CanMessage)) →
    Except XcpException (List UInt8) × List (Option (List CanMessage))
  | [] => (.error (.commandTimeoutError "timeout waiting for response"), [])
  | none :: polls => (.error (.commandTimeoutError "timeout waiting for response"), polls)
  | some msgs :: polls =>
      match msgs.find? c.addressed with
      | some msg => (dto msg.dat, polls)
      | none => c.recvDtoLoop polls

def recvDto (c : XcpClient) : Except XcpException (List UInt8) × XcpClient :=
  let (resp, polls) := c.recvDtoLoop c.polls
  (resp, { c with polls })

def connect (connectMode : UInt8) (c : XcpClient) : Except XcpException ConnectInfo × XcpClient :=
  match (c.sendCto 0xFF [connectMode]).recvDto with
  | (.error exc, c) => (.error exc, c)
  | (.ok [resources, mode, maxCto, first, second, protocolVersion, transportVersion], c) =>
      let byteOrder := if mode &&& 0x01 ≠ 0 then ByteOrder.big else ByteOrder.little
      let slaveBlockMode : Bool := mode &&& 0x40 ≠ 0
      let maxDto :=
        match byteOrder with
        | .big => first.toNat * 256 + second.toNat
        | .little => second.toNat * 256 + first.toNat
      let c := { c with
        byteOrder
        slaveBlockMode := some slaveBlockMode
        maxCto := maxCto.toNat
        maxDto }
      (.ok
        { calSupport := resources &&& 0x01 ≠ 0
          daqSupport := resources &&& 0x04 ≠ 0
          stimSupport := resources &&& 0x08 ≠ 0
          pgmSupport := resources &&& 0x10 ≠ 0
          byteOrder
          addressGranularity := 2 ^ ((mode &&& 0x06) >>> 1).toNat
          slaveBlockMode
          optional := mode &&& 0x80 ≠ 0
          maxCto := maxCto.toNat
          maxDto
          protocolVersion
          transportVersion }, c)
  | (.ok resp, c) =>
      (.error (.assertionError ("incorrect data length: " ++ toString resp.length)), c)

/-- The loop of `upload`. Each response takes at least one poll. -/
def uploadLoop (size : Nat) : Nat → List UInt8 → XcpClient →
    Except XcpException (List UInt8) × XcpClient
  | 0, resp, c => (.ok resp, c)
  | fuel + 1, resp, c =>
      if resp.length < size then
        match c.recvDto with
        | (.error exc, c) => (.error exc, c)
        | (.ok dat, c) => uploadLoop size fuel (resp ++ dat.take (size - resp.length + 1)) c
      else (.ok resp, c)

def upload (size : Nat) (c : XcpClient) : Except XcpException (List UInt8) × XcpClient :=
  if size > 255 then (.error (.valueError "size must be less than 256"), c)
  else
    match c.slaveBlockMode with
    | none => (.error .attributeError, c)
    | some slaveBlockMode =>
        if !slaveBlockMode && size + 1 > c.maxDto then
          (.error (.valueError "block mode not supported"), c)
        else
          let c := c.sendCto 0xF5 [.ofNat size]
          let (resp, c) := uploadLoop size (c.polls.length + 1) [] c
          -- trim off bytes with undefined values
          (resp.map (List.take size), c)

end XcpClient

end Panda.Host
