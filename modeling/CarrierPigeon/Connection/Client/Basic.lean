import CarrierPigeon.Connection.AckSystem.Basic
import CarrierPigeon.Net.Header
/-
  CarrierPigeon.Connection.Client.Basic
  ─────────────────────────────────────
  **THE CLIENT CONNECTION AS A STATE MACHINE.**

  `ClientConnection` wraps a transport with the reliability layer and the connection status.
  Every public method is a function of the state here: `connect`, `disconnect`, `send`,
  `send_ack_msg`, `send_ping`, `resend_reliable`, `get_msgs` (with its loop `get_msgs_err`),
  `tick` and `handle_status`.  A panic of the source (an index out of bounds, an `expect` on a
  downcast) is `none`.

  The file `client_connection.rs` is in the sources; the components it calls are not
  (its `MsgTable<C, A, R, D>`, `ReliableSystem`, `ClientPingSystem`, `ClientTransport` and the
  generic `Status`).  They enter as follows:
    * the transport is its behaviour: the results of its coming `send` calls, and, per call of
      `get_msgs`, the datagrams (or errors) `recv` returns, `WouldBlock` once they run out;
    * the reliability and ping systems are `Collaborators`, a record of the calls the client
      makes on them, with the results left open: every result about the client holds for every
      choice of them;
    * the message table is the data the client reads from it (§4.2 of the spec).
  Messages are values of `AnyMsg`, the `Box<dyn Any>` of the source, and a downcast is a
  match on its constructor.

  Beside the source's fields the state keeps one ghost field, `statusLog`: every write of
  `status`, with the place in the code that made it, the status before and the status after.
  No step reads it.

  Main results: the operations and their runs (`ClientOp.apply`, `runClient`), and a concrete
  instance to run them on (`unitTable`, `idle`).
-/

namespace CarrierPigeon

namespace Client

/-! ## §1. Errors, statuses, messages. -/

/-- The `io::ErrorKind`s the client produces or tests for. -/
inductive ErrorKind where
  | WouldBlock
  | NotConnected
  | InvalidData
  | Other
  deriving DecidableEq, Repr

/-- An `io::Error`: its kind and its text. -/
structure IoError where
  kind : ErrorKind
  text : String
  deriving DecidableEq, Repr

/-- The status of the connection (`Status<A, R, D>`, with the payloads the client code puts in
its variants). -/
inductive Status (A R D : Type) where
  /-- Not connected to any peer. -/
  | NotConnected
  /-- We have sent a connection message, but have yet to hear a response. -/
  | Connecting
  /-- We just got accepted. -/
  | Accepted (a : A)
  /-- We just got rejected. -/
  | Rejected (r : R)
  /-- The connection failed. -/
  | ConnectionFailed (err : IoError)
  /-- The connection is established. -/
  | Connected
  /-- The peer disconnected by sending a disconnection message. -/
  | Disconnected (d : D)
  /-- The connection was dropped without sending a disconnection message. -/
  | Dropped (err : IoError)
  /-- Disconnecting from the peer; the `AckNum` of our disconnection message. -/
  | Disconnecting (ackNum : AckNum)
  deriving DecidableEq, Repr

namespace Status

variable {A R D : Type}

/-- `is_not_connected`. -/
def isNotConnected : Status A R D → Bool
  | .NotConnected => true
  | _ => false

/-- `is_connecting`. -/
def isConnecting : Status A R D → Bool
  | .Connecting => true
  | _ => false

/-- `is_accepted`. -/
def isAccepted : Status A R D → Bool
  | .Accepted _ => true
  | _ => false

/-- `is_rejected`. -/
def isRejected : Status A R D → Bool
  | .Rejected _ => true
  | _ => false

/-- `is_connected`. -/
def isConnected : Status A R D → Bool
  | .Connected => true
  | _ => false

/-- `is_disconnected`. -/
def isDisconnected : Status A R D → Bool
  | .Disconnected _ => true
  | _ => false

@[simp] theorem isNotConnected_eq_true {s : Status A R D} :
    s.isNotConnected = true ↔ s = .NotConnected := by
  cases s <;> simp [isNotConnected]

@[simp] theorem isConnecting_eq_true {s : Status A R D} :
    s.isConnecting = true ↔ s = .Connecting := by
  cases s <;> simp [isConnecting]

@[simp] theorem isConnected_eq_true {s : Status A R D} :
    s.isConnected = true ↔ s = .Connected := by
  cases s <;> simp [isConnected]

/-- The status `handle_status` moves to. -/
def handled : Status A R D → Status A R D
  | .NotConnected => .NotConnected
  | .Connecting => .Connecting
  | .Accepted _ => .Connected
  | .Rejected _ => .NotConnected
  | .ConnectionFailed _ => .NotConnected
  | .Connected => .Connected
  | .Disconnected _ => .NotConnected
  | .Dropped _ => .NotConnected
  | .Disconnecting ackNum => .Disconnecting ackNum

end Status

/-- `Response<A, R>`: the server's answer to a connection message. -/
inductive Response (A R : Type) where
  | Accepted (a : A)
  | Rejected (r : R)
  deriving DecidableEq, Repr

/-- `PingType`. -/
inductive PingType where
  | Req
  | Res
  deriving DecidableEq, Repr

/-- `PingMsg`. -/
structure PingMsg where
  pingType : PingType
  pingNum : UInt32
  deriving DecidableEq, Repr

/-- Gets the corresponding response message type. -/
def PingMsg.response (m : PingMsg) : PingMsg := ⟨.Res, m.pingNum⟩

/-- `AckMsg`. -/
structure AckMsg where
  ackOffset : AckNum
  bitfields : List UInt32
  deriving DecidableEq, Repr

/-- The `TypeId`s of the messages the client handles; `user n` stands for the `n`-th type the
application registers. -/
inductive TypeId where
  | connection
  | response
  | disconnect
  | ping
  | ack
  | user (n : Nat)
  deriving DecidableEq, Repr

/-- A `Box<dyn Any + Send + Sync>` holding a message: the value, tagged with its Rust type. -/
inductive AnyMsg (C A R D : Type) where
  | connection (c : C)
  | response (r : Response A R)
  | disconnect (d : D)
  | ping (p : PingMsg)
  | ack (a : AckMsg)
  | user (n : Nat) (body : Bytes)

/-- `TypeId::of` the boxed value's type. -/
def AnyMsg.typeId {C A R D : Type} : AnyMsg C A R D → TypeId
  | .connection _ => .connection
  | .response _ => .response
  | .disconnect _ => .disconnect
  | .ping _ => .ping
  | .ack _ => .ack
  | .user n _ => .user n

/-- `ErasedNetMsg`: a received message with its metadata. -/
structure ErasedNetMsg (C A R D : Type) where
  cid : CId
  ackNum : AckNum
  orderNum : OrderNum
  msg : AnyMsg C A R D

/-! ## §2. The components the client calls. -/

/-- Modelled from the spec: the client's `MsgTable<C, A, R, D>` (§4.2; the table in the
sources is an older version without it).  Per `MType` the serializer, the deserializer and
the guarantees; the `MType` of each registered `TypeId`; the reserved `MType`s of the control
messages the client dispatches on. -/
structure MsgTable (C A R D : Type) where
  tidMap : TypeId → Option MType
  ser : List (AnyMsg C A R D → Except IoError Bytes)
  deser : List (Bytes → Except IoError (AnyMsg C A R D))
  guarantees : List Guarantees
  pingMType : MType
  disconnectMType : MType
  responseMType : MType
  ser_length : ser.length = deser.length
  guarantees_length : guarantees.length = deser.length
  tidMap_lt : ∀ tid m, tidMap tid = some m → m < deser.length

namespace MsgTable

variable {C A R D : Type}

/-- Modelled from the spec: `mtype_count`, the number of registered `MType`s. -/
def mtypeCount (t : MsgTable C A R D) : Nat := t.deser.length

/-- Modelled from the spec: `check_type::<M>()` followed by `tid_map[&tid]` — the `MType` of a
registered type, or the `UnregisteredType` error of §7. -/
def checkType (t : MsgTable C A R D) (tid : TypeId) : Except IoError MType :=
  match t.tidMap tid with
  | some m => .ok m
  | none => .error ⟨.Other, "UnregisteredType"⟩

end MsgTable

/-- A `ClientTransport`, as its behaviour: the results of its coming `send` calls (`Ok` once
the list is used up), and what it has sent. -/
structure ClientTransport where
  sendResults : List (Option IoError)
  sent : List (MType × Bytes)

namespace ClientTransport

/-- `send(m_type, payload)`. -/
def send (t : ClientTransport) (mType : MType) (payload : Bytes) :
    ClientTransport × Except IoError Unit :=
  match t.sendResults with
  | [] => (⟨[], t.sent ++ [(mType, payload)]⟩, .ok ())
  | none :: rest => (⟨rest, t.sent ++ [(mType, payload)]⟩, .ok ())
  | some err :: rest => (⟨rest, t.sent⟩, .error err)

/-- What `recv` returns once no datagram is queued. -/
def wouldBlock : IoError := ⟨.WouldBlock, "WouldBlock"⟩

end ClientTransport

/-- The calls the client makes on its `ReliableSystem` and `ClientPingSystem`, which are not in
the sources.  `none` is a panic inside the call.  `getReceived` is the whole
`while let Some(..) = get_received()` loop: everything it yields, in order. -/
structure Collaborators (RS PS C A R D : Type) where
  reliableNew : RS
  getSendHeader : MType → RS → Option (RS × MsgHeader)
  save : MsgHeader → Guarantees → Bytes → RS → Option RS
  getAckMsg : RS → Option (RS × Option AckMsg)
  pushReceived : MsgHeader → AnyMsg C A R D → RS → Option RS
  getReceived : RS → Option (RS × List (MsgHeader × AnyMsg C A R D))
  getResend : RS → Option (RS × List (MsgHeader × Bytes))
  pingNew : PS
  getPingMsg : PS → Option (PS × Option PingMsg)
  recvPingMsg : UInt32 → PS → Option PS

/-! ## §3. The state. -/

/-- The place in the code that writes `status`.  `datagram m` is the dispatch of a received
datagram whose header has `MType` `m`. -/
inductive StatusSite where
  | connect
  | disconnect
  | statusErr
  | datagram (mType : MType)
  | handleStatus
  deriving DecidableEq, Repr

/-- One write of `status`. -/
structure StatusWrite (A R D : Type) where
  site : StatusSite
  old : Status A R D
  new : Status A R D
  deriving DecidableEq, Repr

/-- `ClientConnection` (its `config`, an empty struct, left out). -/
structure ClientConnection (RS PS C A R D : Type) where
  msgTable : MsgTable C A R D
  status : Status A R D
  transport : Option ClientTransport
  pingSys : PS
  reliableSys : RS
  /-- One buffer per `MType`. -/
  msgBuf : List (List (ErasedNetMsg C A R D))
  /-- Ghost: every write of `status`, in order. -/
  statusLog : List (StatusWrite A R D)

namespace ClientConnection

variable {RS PS C A R D : Type} (co : Collaborators RS PS C A R D)

/-- `self.status = new`, logged. -/
def setStatus (site : StatusSite) (new : Status A R D) (c : ClientConnection RS PS C A R D) :
    ClientConnection RS PS C A R D :=
  { c with status := new, statusLog := c.statusLog ++ [⟨site, c.status, new⟩] }

@[simp] theorem setStatus_status (site : StatusSite) (new : Status A R D)
    (c : ClientConnection RS PS C A R D) : (c.setStatus site new).status = new := rfl

@[simp] theorem setStatus_msgTable (site : StatusSite) (new : Status A R D)
    (c : ClientConnection RS PS C A R D) : (c.setStatus site new).msgTable = c.msgTable := rfl

@[simp] theorem setStatus_transport (site : StatusSite) (new : Status A R D)
    (c : ClientConnection RS PS C A R D) : (c.setStatus site new).transport = c.transport := rfl

/-- `ClientConnection::new`. -/
def new (msgTable : MsgTable C A R D) : ClientConnection RS PS C A R D :=
  ⟨msgTable, .NotConnected, none, co.pingNew, co.reliableNew,
    List.replicate msgTable.mtypeCount [], []⟩

/-! ## §4. Errors update the status. -/

/-- Updates the status of the connection based on the error. -/
def statusErr (err : IoError) (c : ClientConnection RS PS C A R D) :
    ClientConnection RS PS C A R D :=
  let c := match c.status with
    | .Connected => c.setStatus .statusErr (.Dropped err)
    | .Connecting | .Accepted _ | .Rejected _ => c.setStatus .statusErr (.ConnectionFailed err)
    | .Disconnecting _ => c.setStatus .statusErr .NotConnected
    | _ => c
  { c with transport := none }

/-- Updates the status of the connection if there is an error. -/
def statusResult (result : Except IoError Unit) (c : ClientConnection RS PS C A R D) :
    ClientConnection RS PS C A R D :=
  match result with
  | .ok () => c
  | .error err => c.statusErr err

/-! ## §5. Sending. -/

/-- `send::<M>(msg)`: header from the reliable system, payload from the serializer, saved by
the reliable system, handed to the transport; the `AckNum` of the message. -/
def send (msg : AnyMsg C A R D) (c : ClientConnection RS PS C A R D) :
    Option (ClientConnection RS PS C A R D × Except IoError AckNum) :=
  match c.transport with
  | none => some (c, .error ⟨.NotConnected, "Client is not connected"⟩)
  | some transport =>
    match c.msgTable.checkType msg.typeId with
    | .error err => some (c, .error err)
    | .ok mType => do
      let (rs, header) ← co.getSendHeader mType c.reliableSys
      let serFn ← c.msgTable.ser[mType]?
      match serFn msg with
      | .error err => some ({ c with reliableSys := rs }, .error err)
      | .ok body =>
        let payload := header.toBeBytes ++ body
        let guarantees ← c.msgTable.guarantees[mType]?
        let rs ← co.save header guarantees payload rs
        let (transport, result) := transport.send mType payload
        some (statusResult result { c with reliableSys := rs, transport := some transport },
          .ok header.senderAckNum)

/-- `connect(local, peer, con_msg)`, with the result of `T::new(local, peer)`. -/
def connect (newTransport : Except IoError ClientTransport) (conMsg : C)
    (c : ClientConnection RS PS C A R D) :
    Option (ClientConnection RS PS C A R D × Except IoError Unit) :=
  if !c.status.isNotConnected then
    some (c, .error ⟨.Other,
      "the client needs to be in the NotConnected status in order to call connect()"⟩)
  else
    match newTransport with
    | .error err => some (c, .error err)
    | .ok transport => do
      -- clean up from last connection
      let c := { c with pingSys := co.pingNew, reliableSys := co.reliableNew,
                        msgBuf := c.msgBuf.map fun _ => [] }
      let c := { (c.setStatus .connect .Connecting) with transport := some transport }
      let (c, result) ← send co (.connection conMsg) c
      match result with
      | .error err => some (c, .error err)
      | .ok _ => some (c, .ok ())

/-- `disconnect(discon_msg)`. -/
def disconnect (disconMsg : D) (c : ClientConnection RS PS C A R D) :
    Option (ClientConnection RS PS C A R D × Except IoError Unit) :=
  if !c.status.isConnected then
    some (c, .error ⟨.NotConnected, "Client is not connected."⟩)
  else do
    let (c, result) ← send co (.disconnect disconMsg) c
    match result with
    | .ok ackNum => some (c.setStatus .disconnect (.Disconnecting ackNum), .ok ())
    | .error err => some (c.statusErr err, .ok ())

/-- Sends an `AckMsg` to acknowledge all received messages; a send error is only logged. -/
def sendAckMsg (c : ClientConnection RS PS C A R D) : Option (ClientConnection RS PS C A R D) := do
  let (rs, ackMsg) ← co.getAckMsg c.reliableSys
  let c := { c with reliableSys := rs }
  match ackMsg with
  | none => some c
  | some ackMsg => (send co (.ack ackMsg) c).map (·.1)

/-- Sends a ping message to the server if necessary. -/
def sendPing (c : ClientConnection RS PS C A R D) : Option (ClientConnection RS PS C A R D) := do
  let (ps, msg) ← co.getPingMsg c.pingSys
  let c := { c with pingSys := ps }
  match msg with
  | none => some c
  | some msg => (send co (.ping msg) c).map (·.1)

/-- One due resend: handed to the transport if there is one. -/
def resendOne (c : ClientConnection RS PS C A R D) (hp : MsgHeader × Bytes) :
    ClientConnection RS PS C A R D :=
  match c.transport with
  | some transport =>
    let (transport, result) := transport.send hp.1.mType hp.2
    statusResult result { c with transport := some transport }
  | none => c

/-- Resends any messages that it needs to for the reliability system to work. -/
def resendReliable (c : ClientConnection RS PS C A R D) :
    Option (ClientConnection RS PS C A R D) := do
  let (rs, resends) ← co.getResend c.reliableSys
  some (resends.foldl resendOne { c with reliableSys := rs })

/-! ## §6. Receiving. -/

/-- `msg_buf[m_type].push(ErasedNetMsg::new(0, ack_num, order_num, msg))`. -/
def bufferMsg (header : MsgHeader) (msg : AnyMsg C A R D) (c : ClientConnection RS PS C A R D) :
    Option (ClientConnection RS PS C A R D) := do
  let buf ← c.msgBuf[header.mType]?
  let buf := buf ++ [⟨0, header.senderAckNum, header.orderNum, msg⟩]
  some { c with msgBuf := c.msgBuf.set header.mType buf }

/-- The `match header.m_type` of `get_msgs_err`: control messages and the message buffer. -/
def dispatch (header : MsgHeader) (msg : AnyMsg C A R D) (c : ClientConnection RS PS C A R D) :
    Option (ClientConnection RS PS C A R D) :=
  if header.mType = c.msgTable.pingMType then
    match msg with
    | .ping p =>
      match p.pingType with
      | .Req => (send co (.ping p.response) c).map (·.1)
      | .Res => do
        let ps ← co.recvPingMsg p.pingNum c.pingSys
        some { c with pingSys := ps }
    | _ => none
  else if header.mType = c.msgTable.disconnectMType then
    if c.status.isConnected then
      match msg with
      | .disconnect d => some (c.setStatus (.datagram header.mType) (.Disconnected d))
      | _ => none
    else some c
  else if header.mType = c.msgTable.responseMType then
    if c.status.isConnecting then
      match msg with
      | .response (.Accepted a) => some (c.setStatus (.datagram header.mType) (.Accepted a))
      | .response (.Rejected r) => some (c.setStatus (.datagram header.mType) (.Rejected r))
      | _ => none
    else some c
  else bufferMsg header msg c

/-- One turn of `get_msgs_err`'s loop, on a datagram `recv` returned.  The check of the
`MType` only logs a warning; `deser[m_type]` is indexed whatever it said.

As written the source does not compile: every arm of the `match` moves `msg`, a
`Box<dyn Any + Send + Sync>` that is not `Clone` (the control arms by `downcast`, the `_` arm
into `msg_buf`), and `push_received(header, msg)` then uses it again (E0382).  The model takes
the reading in which the arm and `push_received` each get the message, as if the arm worked
on a copy of it. -/
def handleDatagram (buf : Bytes) (c : ClientConnection RS PS C A R D) :
    Option (ClientConnection RS PS C A R D) :=
  if buf.length < headerSize then some c
  else do
    let header ← MsgHeader.fromBeBytes (buf.take headerSize)
    let deserFn ← c.msgTable.deser[header.mType]?
    match deserFn (buf.drop headerSize) with
    | .error _ => some c
    | .ok msg => do
      let c ← dispatch co header msg c
      -- handle reliability and ordering
      let rs ← co.pushReceived header msg c.reliableSys
      let (rs, ready) ← co.getReceived rs
      ready.foldlM (fun c hm => bufferMsg hm.1 hm.2 c) { c with reliableSys := rs }

/-- `get_msgs_err`: `recv` until it fails; `incoming` is what it returns, in order. -/
def getMsgsErr : List (Except IoError Bytes) → ClientConnection RS PS C A R D →
    Option (ClientConnection RS PS C A R D × Except IoError Unit)
  | incoming, c =>
    match c.transport, incoming with
    | none, _ => some (c, .ok ())
    | some _, [] => some (c, .error ClientTransport.wouldBlock)
    | some _, .error err :: _ => some (c, .error err)
    | some _, .ok buf :: rest => do
      let c ← handleDatagram co buf c
      getMsgsErr rest c

/-- `get_msgs`: a `WouldBlock` ends the loop quietly, any other error goes to `status_err`. -/
def getMsgs (incoming : List (Except IoError Bytes)) (c : ClientConnection RS PS C A R D) :
    Option (ClientConnection RS PS C A R D) := do
  let (c, result) ← getMsgsErr co incoming c
  match result with
  | .ok () => some c
  | .error err => if err.kind = .WouldBlock then some c else some (c.statusErr err)

/-! ## §7. The frame. -/

/-- `handle_status`: moves on and returns the status it replaced. -/
def handleStatus (c : ClientConnection RS PS C A R D) :
    ClientConnection RS PS C A R D × Status A R D :=
  (c.setStatus .handleStatus c.status.handled, c.status)

/-- `update_status`: the source leaves the `Disconnecting` case as a TODO, so it changes
nothing. -/
def updateStatus (c : ClientConnection RS PS C A R D) : ClientConnection RS PS C A R D := c

/-- Clears messages from the buffer. -/
def clearMsgs (c : ClientConnection RS PS C A R D) : ClientConnection RS PS C A R D :=
  { c with msgBuf := c.msgBuf.map fun _ => [] }

/-- `tick`: everything the client does each frame. -/
def tick (incoming : List (Except IoError Bytes)) (c : ClientConnection RS PS C A R D) :
    Option (ClientConnection RS PS C A R D) := do
  let c ← sendAckMsg co c.clearMsgs
  let c ← sendPing co c
  let c ← resendReliable co c
  let c ← getMsgs co incoming c
  some c.updateStatus

end ClientConnection

/-! ## §8. Runs. -/

/-- A call of a public method, with what the environment answers in it. -/
inductive ClientOp (C A R D : Type) where
  | connect (newTransport : Except IoError ClientTransport) (conMsg : C)
  | disconnect (disconMsg : D)
  | send (msg : AnyMsg C A R D)
  | sendAckMsg
  | sendPing
  | resendReliable
  | getMsgs (incoming : List (Except IoError Bytes))
  | tick (incoming : List (Except IoError Bytes))
  | handleStatus

/-- The call on `c`; the values it returns are dropped. -/
def ClientOp.apply {RS PS C A R D : Type} (co : Collaborators RS PS C A R D)
    (c : ClientConnection RS PS C A R D) : ClientOp C A R D → Option (ClientConnection RS PS C A R D)
  | .connect newTransport conMsg => (ClientConnection.connect co newTransport conMsg c).map (·.1)
  | .disconnect disconMsg => (ClientConnection.disconnect co disconMsg c).map (·.1)
  | .send msg => (ClientConnection.send co msg c).map (·.1)
  | .sendAckMsg => ClientConnection.sendAckMsg co c
  | .sendPing => ClientConnection.sendPing co c
  | .resendReliable => ClientConnection.resendReliable co c
  | .getMsgs incoming => ClientConnection.getMsgs co incoming c
  | .tick incoming => ClientConnection.tick co incoming c
  | .handleStatus => some c.handleStatus.1

/-- The calls in turn from `ClientConnection::new`, stopping at a panic. -/
def runClient {RS PS C A R D : Type} (co : Collaborators RS PS C A R D) (table : MsgTable C A R D)
    (ops : List (ClientOp C A R D)) : Option (ClientConnection RS PS C A R D) :=
  ops.foldlM (fun c op => op.apply co c) (ClientConnection.new co table)

/-! ## §9. A concrete instance. -/

/-- A table of the five control types, all with unit payloads: connection `0`, response `1`,
disconnection `2`, ping `3`, ack `4`.  The serializers write nothing; each deserializer yields
the value of its type (the response one: an acceptance). -/
def unitTable : MsgTable Unit Unit Unit Unit where
  tidMap
    | .connection => some 0
    | .response => some 1
    | .disconnect => some 2
    | .ping => some 3
    | .ack => some 4
    | .user _ => none
  ser := List.replicate 5 fun _ => .ok []
  deser := [fun _ => .ok (.connection ()), fun _ => .ok (.response (.Accepted ())),
    fun _ => .ok (.disconnect ()), fun _ => .ok (.ping ⟨.Res, 0⟩), fun _ => .ok (.ack ⟨0, []⟩)]
  guarantees := List.replicate 5 .Reliable
  pingMType := 3
  disconnectMType := 2
  responseMType := 1
  ser_length := rfl
  guarantees_length := rfl
  tidMap_lt tid m h := by
    cases tid <;> simp only [Option.some.injEq, reduceCtorEq] at h <;> subst h <;> decide

/-- Reliability and ping systems that keep no state: every header is `AckNum` 0 with an empty
ack window, nothing is ever due, acknowledged or pinged. -/
def idle : Collaborators Unit Unit Unit Unit Unit Unit where
  reliableNew := ()
  getSendHeader m _ := some ((), ⟨m, 0, 0, 0, 0⟩)
  save _ _ _ _ := some ()
  getAckMsg _ := some ((), none)
  pushReceived _ _ _ := some ()
  getReceived _ := some ((), [])
  getResend _ := some ((), [])
  pingNew := ()
  getPingMsg _ := some ((), none)
  recvPingMsg _ _ := some ()

end Client

end CarrierPigeon
