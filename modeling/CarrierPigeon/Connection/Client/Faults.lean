import CarrierPigeon.Connection.Client.Basic
import CarrierPigeon.MessageTable
/-
  CarrierPigeon.Connection.Client.Faults
  ──────────────────────────────────────
  **WHERE THE CLIENT PANICS ON A DATAGRAM, AND WHERE IT LOSES A TRANSPORT ERROR.**

  `get_msgs_err` checks a received header's `MType` with `valid_m_type`, but on failure it
  only logs a warning and goes on to index `deser[m_type]`.  Any datagram of twelve bytes or
  more whose `MType` is not registered therefore panics the client, from any state with a
  transport.  The check itself would not have helped in the sources' table: `valid_mid` tests
  `mid ≤ mid_count`.

  `disconnect` sends the disconnection message with `send`, which catches a transport error
  through `status_result`: the status becomes `Dropped(err)` and the transport `None`, and
  `send` still returns `Ok(ack_num)`.  `disconnect` then writes `Disconnecting(ack_num)` over
  `Dropped(err)`.

  `send` asks the reliable system for the header before it serializes the message, and a
  serializer error returns through `?` with the reliable system already advanced: the
  `AckNum`, the `OrderNum` and the ack window's send count are spent on a message that is never
  sent.  `connect` moves to `Connecting` and installs the transport before it sends the
  connection message, so a `connect` whose send fails returns `Err` in `Connecting`.

  Main results:
    * `handleDatagram_unregistered`, `getMsgs_unregistered` — the panic, for every state,
      header and body.
    * `get_msgs_panics_on_unregistered_mtype` — a reachable state and a datagram that panic it.
    * `disconnect_failed_send` — the overwrite, for every state and every reliability system.
    * `disconnect_masks_transport_error` — a run from `new` that ends in `Disconnecting` with
      no transport.
    * `send_eq_error`, `connect_eq_error` — what a failed `send` or `connect` leaves, for every
      state and every reliability system.
    * `failed_send_spends_header` — with the spec's header allocation, a failed `connect` from
      `new` ends in `Connecting`, and a failed `send` from there spends a second header.
-/

namespace CarrierPigeon

namespace Client

namespace ClientConnection

variable {RS PS C A R D : Type} (co : Collaborators RS PS C A R D)

/-! ## §1. A datagram of an unregistered `MType`. -/

/-- **A datagram of an unregistered `MType` panics**, whatever the state and the body. -/
theorem handleDatagram_unregistered (c : ClientConnection RS PS C A R D) (h : MsgHeader)
    (body : Bytes) (hm : c.msgTable.mtypeCount ≤ h.mType) (hw : h.mType < 2 ^ 16) :
    handleDatagram co (h.toBeBytes ++ body) c = none := by
  have hlen : ¬ (h.toBeBytes ++ body).length < headerSize := by
    simp [MsgHeader.toBeBytes_length]
  rw [handleDatagram, if_neg hlen, List.take_left' (MsgHeader.toBeBytes_length h),
    fromBeBytes_toBeBytes h hw, Option.bind_eq_bind, Option.some_bind,
    List.getElem?_eq_none hm]
  rfl

/-- The loop of `get_msgs` meets it first: the whole call panics. -/
theorem getMsgs_unregistered (c : ClientConnection RS PS C A R D) (t : ClientTransport)
    (ht : c.transport = some t) (h : MsgHeader) (body : Bytes)
    (hm : c.msgTable.mtypeCount ≤ h.mType) (hw : h.mType < 2 ^ 16)
    (incoming : List (Except IoError Bytes)) :
    getMsgs co (.ok (h.toBeBytes ++ body) :: incoming) c = none := by
  rw [getMsgs, getMsgsErr.eq_def]
  simp only [ht, handleDatagram_unregistered co c h body hm hw, Option.bind_eq_bind,
    Option.none_bind]

end ClientConnection

/-- `connect` on a transport that sends, then a datagram whose header has `MType` 5, one past
the table's `MType`s. -/
def crashRun : List (ClientOp Unit Unit Unit Unit) :=
  [.connect (.ok ⟨[], []⟩) (), .getMsgs [.ok (MsgHeader.toBeBytes ⟨5, 0, 0, 0, 0⟩)]]

/-- **An unregistered `MType` crashes a connecting client.**  After `connect` the client has a
transport; the next datagram, a bare header of `MType` 5 in a table of 5 types, makes
`get_msgs` panic on `deser[5]`.  And in a built table `valid_mid` accepts `mid_count`, which
indexes none of the vectors. -/
theorem get_msgs_panics_on_unregistered_mtype :
    (∃ c, runClient idle unitTable [.connect (.ok ⟨[], []⟩) ()] = some c ∧ c.transport.isSome) ∧
      unitTable.mtypeCount = 5 ∧ runClient idle unitTable crashRun = none ∧
      ∀ es : List (Entry Nat Nat Nat),
        (MsgTableParts.collect es).validMid (MsgTableParts.collect es).midCount = true ∧
          (MsgTableParts.collect es).deser[(MsgTableParts.collect es).midCount]? = none :=
  ⟨⟨_, rfl, rfl⟩, rfl, rfl, fun es =>
    ⟨(MsgTableParts.validMid_midCount es).1, (MsgTableParts.validMid_midCount es).2.2.2⟩⟩

/-! ## §2. `disconnect` on a failing transport. -/

namespace ClientConnection

variable {RS PS C A R D : Type} (co : Collaborators RS PS C A R D)

/-- **`disconnect` overwrites the error status.**  From `Connected`, if the reliability system
hands out a header and saves the message, and the transport fails the send with `err`, then
`disconnect` returns `Ok`, the transport is gone, and the status is `Disconnecting`: the
`Dropped(err)` that `status_err` wrote is overwritten. -/
theorem disconnect_failed_send {d : D} {c : ClientConnection RS PS C A R D} {t : ClientTransport}
    {err : IoError} {rest : List (Option IoError)} {m : MType} {rs rs' : RS} {header : MsgHeader}
    {serFn : AnyMsg C A R D → Except IoError Bytes} {body : Bytes} {g : Guarantees}
    (hst : c.status = .Connected) (ht : c.transport = some t)
    (hfail : t.sendResults = some err :: rest)
    (hm : c.msgTable.tidMap .disconnect = some m)
    (hh : co.getSendHeader m c.reliableSys = some (rs, header))
    (hser : c.msgTable.ser[m]? = some serFn) (hbody : serFn (.disconnect d) = .ok body)
    (hg : c.msgTable.guarantees[m]? = some g)
    (hsave : co.save header g (header.toBeBytes ++ body) rs = some rs') :
    ∃ c', disconnect co d c = some (c', .ok ()) ∧ c'.transport = none ∧
      c'.status = .Disconnecting header.senderAckNum ∧
      c'.statusLog = c.statusLog ++ [⟨.statusErr, .Connected, .Dropped err⟩,
        ⟨.disconnect, .Dropped err, .Disconnecting header.senderAckNum⟩] := by
  have hd : disconnect co d c = some ((statusErr err
      { c with reliableSys := rs', transport := some ⟨rest, t.sent⟩ }).setStatus .disconnect
        (.Disconnecting header.senderAckNum), .ok ()) := by
    simp only [disconnect, hst, Status.isConnected, Bool.not_true, send, ht, MsgTable.checkType,
      hm, AnyMsg.typeId, hh, hser, hbody, hg, hsave, ClientTransport.send, hfail,
      Option.bind_eq_bind, Option.some_bind]
    rfl
  exact ⟨_, hd, rfl, rfl, by simp [statusErr, setStatus, hst]⟩

end ClientConnection

/-- `connect` on a transport whose second send fails with `err`; the server's acceptance;
`handle_status`; `disconnect`. -/
def dropRun (err : IoError) : List (ClientOp Unit Unit Unit Unit) :=
  [.connect (.ok ⟨[none, some err], []⟩) (), .getMsgs [.ok (MsgHeader.toBeBytes ⟨1, 0, 0, 0, 0⟩)],
    .handleStatus, .disconnect ()]

/-- **A transport error in `disconnect` is masked.**  The client connects, is accepted and
connected; the transport fails the disconnection message with `err`.  The run ends with no
transport and status `Disconnecting(0)`; its history shows `Dropped(err)` written by
`status_err` and overwritten by `disconnect`. -/
theorem disconnect_masks_transport_error (err : IoError) :
    ∃ c, runClient idle unitTable (dropRun err) = some c ∧ c.transport = none ∧
      c.status = .Disconnecting 0 ∧
      c.statusLog = [⟨.connect, .NotConnected, .Connecting⟩, ⟨.datagram 1, .Connecting, .Accepted ()⟩,
        ⟨.handleStatus, .Accepted (), .Connected⟩, ⟨.statusErr, .Connected, .Dropped err⟩,
        ⟨.disconnect, .Dropped err, .Disconnecting 0⟩] :=
  ⟨_, rfl, rfl, rfl, rfl⟩

/-! ## §3. A failed `send` or `connect`. -/

namespace ClientConnection

variable {RS PS C A R D : Type} (co : Collaborators RS PS C A R D)

/-- **What a failed `send` leaves.**  Without a transport, or for an unregistered type, it
fails before touching anything; a serializer error comes after `get_send_header`, and the
state keeps the reliable system that call returned. -/
theorem send_eq_error {msg : AnyMsg C A R D} {c c' : ClientConnection RS PS C A R D}
    {err : IoError} (h : send co msg c = some (c', .error err)) :
    c' = c ∨ ∃ mType rs header serFn, c.msgTable.checkType msg.typeId = .ok mType ∧
      co.getSendHeader mType c.reliableSys = some (rs, header) ∧
      c.msgTable.ser[mType]? = some serFn ∧ serFn msg = .error err ∧
      c' = { c with reliableSys := rs } := by
  unfold send at h
  split at h
  · cases h; exact .inl rfl
  · split at h
    · cases h; exact .inl rfl
    · rename_i mType hm
      simp only [Option.bind_eq_bind, Option.bind_eq_some] at h
      obtain ⟨⟨rs, header⟩, hh, serFn, hs, h⟩ := h
      split at h
      · rename_i err' hser
        cases h; exact .inr ⟨mType, rs, header, serFn, hm, hh, hs, hser, rfl⟩
      · simp only [Option.bind_eq_some, Option.some.injEq, Prod.mk.injEq] at h
        obtain ⟨_, -, _, -, -, h⟩ := h
        cases h

/-- **What a failed `connect` leaves.**  It is the state it started from, unless the status
check and `T::new` passed and the send of the connection message failed: then the status is
`Connecting` and the new transport is installed. -/
theorem connect_eq_error {newTransport : Except IoError ClientTransport} {conMsg : C}
    {c c' : ClientConnection RS PS C A R D} {err : IoError}
    (h : connect co newTransport conMsg c = some (c', .error err)) :
    c' = c ∨ ∃ transport, newTransport = .ok transport ∧ c.status = .NotConnected ∧
      c'.status = .Connecting ∧ c'.transport = some transport := by
  unfold connect at h
  split at h
  · cases h; exact .inl rfl
  · rename_i hnc
    simp only [Bool.not_eq_true', Bool.not_eq_false, Status.isNotConnected_eq_true] at hnc
    split at h
    · cases h; exact .inl rfl
    · rename_i transport
      simp only [Option.bind_eq_bind, Option.bind_eq_some] at h
      obtain ⟨⟨c₂, result⟩, hs, h⟩ := h
      cases result with
      | error e =>
        cases h
        refine .inr ⟨transport, rfl, hnc, ?_⟩
        rcases send_eq_error co hs with rfl | ⟨_, _, _, _, -, -, -, -, rfl⟩ <;> exact ⟨rfl, rfl⟩
      | ok a => cases h

end ClientConnection

/-- Modelled from the spec: the state of a reliable system that hands out headers (§4.5) —
its ack system and the next `OrderNum` of each `MType`. -/
abbrev HeaderAlloc := AckSystem Bytes × (MType → OrderNum)

/-- Modelled from the spec: `next_send_header(m_type)` (§4.5) takes the `sender_ack_num` from
`outgoing_ack_num`, the `order_num` from the `MType`'s counter, and the acking offset and
bitfield from `next_header`. -/
def nextSendHeader (mType : MType) (rs : HeaderAlloc) : Option (HeaderAlloc × MsgHeader) := do
  let (ack, ackNum) := rs.1.outgoingAckNum
  let (ack, (offset, bits)) ← ack.nextHeader
  let orderNum := rs.2 mType
  some ((ack, Function.update rs.2 mType (orderNum + 1)), ⟨mType, orderNum, ackNum, offset, bits⟩)

/-- `idle`, but with the spec's header allocation. -/
def allocating : Collaborators HeaderAlloc Unit Unit Unit Unit Unit where
  reliableNew := (AckSystem.new, fun _ => 0)
  getSendHeader := nextSendHeader
  save _ _ _ rs := some rs
  getAckMsg rs := some (rs, none)
  pushReceived _ _ rs := some rs
  getReceived rs := some (rs, [])
  getResend rs := some (rs, [])
  pingNew := ()
  getPingMsg _ := some ((), none)
  recvPingMsg _ _ := some ()

/-- The error of the failing serializer below. -/
def serError : IoError := ⟨.InvalidData, "Ser Error"⟩

/-- `unitTable`, with a serializer of the connection message that fails. -/
def serFailTable : MsgTable Unit Unit Unit Unit :=
  { unitTable with
    ser := (fun _ => .error serError) :: List.replicate 4 fun _ => .ok []
    ser_length := rfl }

/-- **A failed `send` spends a header, and a failed `connect` stays `Connecting`.**  From
`new`, `connect` takes `AckNum` 0 for the connection message, whose serializer fails: it
returns `Err` with the status `Connecting` and the transport installed.  From that state a
`send` that fails the same way leaves status and transport alone but takes `AckNum` 1,
`OrderNum` 1 of `MType` 0 and a second send count of the ack window's bitfield. -/
theorem failed_send_spends_header :
    ∃ c₁ c₂, ClientConnection.connect allocating (.ok ⟨[], []⟩) ()
        (ClientConnection.new allocating serFailTable) = some (c₁, .error serError) ∧
      c₁.status = .Connecting ∧ c₁.transport.isSome ∧
      c₁.reliableSys.1.outgoingCounter = 1 ∧
      ClientConnection.send allocating (.connection ()) c₁ = some (c₂, .error serError) ∧
      c₂.status = c₁.status ∧ c₂.transport = c₁.transport ∧
      c₂.reliableSys.1.outgoingCounter = 2 ∧ c₂.reliableSys.2 0 = 2 ∧
      c₂.reliableSys.1.ackBitfields = [⟨0, 2⟩] :=
  ⟨_, _, rfl, rfl, rfl, rfl, rfl, rfl, rfl, rfl, rfl, rfl⟩

end Client

end CarrierPigeon
