import CarrierPigeon.Connection.Client.Handshake
/-
  CarrierPigeon.Connection.Client.Delivery
  ────────────────────────────────────────
  **WHAT `get_msgs` PUTS IN THE MESSAGE BUFFERS.**

  `get_msgs_err` pushes a user message into `msg_buf` along two paths.  The `_` arm of its
  `match header.m_type` pushes the message straight from the datagram; then, after
  `push_received`, the loop pushes every message that the reliable system's `get_received`
  yields.  Nothing else touches the buffers while the loop runs, so each buffer only grows at
  its end.

  So, whatever the reliable system and its ordering buffers do, every user message the client
  reads is in its buffer as soon as it is read, in the order the datagrams came in, after what
  the buffer held before: an early message of an ordered `MType` is not held back, and a
  duplicate is not dropped.

  Main results:
    * `Grows` — what any call inside `get_msgs` does to the buffers, one lemma per function.
    * `handleDatagram_user` — the loop's turn on a user datagram.
    * `getMsgs_delivers_every_datagram` — every user datagram read, in arrival order.
-/

namespace CarrierPigeon

namespace Client

variable {RS PS C A R D : Type}

/-! ## §1. User datagrams. -/

/-- A datagram of a user message: the header, the body after it, and the message the body
deserializes to. -/
structure UserDatagram (C A R D : Type) where
  header : MsgHeader
  body : Bytes
  msg : AnyMsg C A R D

namespace UserDatagram

/-- The datagram's bytes, as `recv` returns them. -/
def bytes (d : UserDatagram C A R D) : Bytes := d.header.toBeBytes ++ d.body

/-- `ErasedNetMsg::new(0, sender_ack_num, order_num, msg)`, what `get_msgs_err` pushes. -/
def entry (d : UserDatagram C A R D) : ErasedNetMsg C A R D :=
  ⟨0, d.header.senderAckNum, d.header.orderNum, d.msg⟩

/-- The entries of the datagrams of `MType` `m`, in order. -/
def entriesOf (m : MType) (ds : List (UserDatagram C A R D)) : List (ErasedNetMsg C A R D) :=
  (ds.filter fun d => d.header.mType = m).map entry

theorem entriesOf_cons (m : MType) (d : UserDatagram C A R D) (ds : List (UserDatagram C A R D)) :
    entriesOf m (d :: ds) = (if d.header.mType = m then [d.entry] else []) ++ entriesOf m ds := by
  unfold entriesOf
  split <;> simp [List.filter_cons, *]

end UserDatagram

/-- `t` reads `d` as a user message: its `MType` survives the header's `u16`, it is none of
the three control types the loop dispatches on, and `deser[m_type]` accepts the body. -/
structure MsgTable.ReadsUser (t : MsgTable C A R D) (d : UserDatagram C A R D) : Prop where
  mType_lt : d.header.mType < 2 ^ 16
  deser : ∃ f, t.deser[d.header.mType]? = some f ∧ f d.body = .ok d.msg
  ne_ping : d.header.mType ≠ t.pingMType
  ne_disconnect : d.header.mType ≠ t.disconnectMType
  ne_response : d.header.mType ≠ t.responseMType

/-! ## §2. Buffers that only grow. -/

/-- Appending `xs` to buffer `m₀` appends it there and nowhere else. -/
theorem getElem?_set_append {E : Type} {bs : List (List E)} {m₀ : Nat} {b₀ : List E}
    (h : bs[m₀]? = some b₀) (xs : List E) (m : Nat) :
    (bs.set m₀ (b₀ ++ xs))[m]? = bs[m]?.map (· ++ if m₀ = m then xs else []) := by
  by_cases hm : m₀ = m
  · subst hm
    simp [(List.getElem?_eq_some_iff.mp h).1, h]
  · simp [hm]

/-- What a call inside `get_msgs` does to the buffers: there are as many as before, and each
extends the one it was. -/
structure Grows (c c' : ClientConnection RS PS C A R D) : Prop where
  length : c'.msgBuf.length = c.msgBuf.length
  appends : ∀ (m : MType) (b : List (ErasedNetMsg C A R D)), c.msgBuf[m]? = some b →
    ∃ b', c'.msgBuf[m]? = some b' ∧ b <+: b'

namespace Grows

theorem refl (c : ClientConnection RS PS C A R D) : Grows c c :=
  ⟨rfl, fun _ b h => ⟨b, h, List.prefix_refl b⟩⟩

theorem trans {c₁ c₂ c₃ : ClientConnection RS PS C A R D} (h₁ : Grows c₁ c₂)
    (h₂ : Grows c₂ c₃) : Grows c₁ c₃ := by
  refine ⟨h₂.length.trans h₁.length, fun m b hb => ?_⟩
  obtain ⟨b₂, hb₂, hp₂⟩ := h₁.appends m b hb
  obtain ⟨b₃, hb₃, hp₃⟩ := h₂.appends m b₂ hb₂
  exact ⟨b₃, hb₃, hp₂.trans hp₃⟩

/-- A change of other fields only. -/
theorem of_msgBuf {c c' : ClientConnection RS PS C A R D} (h : c'.msgBuf = c.msgBuf) :
    Grows c c' :=
  ⟨by rw [h], fun _ b hb => ⟨b, h ▸ hb, List.prefix_refl b⟩⟩

/-- Entries appended to one buffer. -/
theorem of_set_append {c c' : ClientConnection RS PS C A R D} {m₀ : MType}
    {b₀ xs : List (ErasedNetMsg C A R D)} (hb : c.msgBuf[m₀]? = some b₀)
    (h : c'.msgBuf = c.msgBuf.set m₀ (b₀ ++ xs)) : Grows c c' := by
  refine ⟨by rw [h, List.length_set], fun m b hm => ⟨b ++ if m₀ = m then xs else [], ?_, ?_⟩⟩
  · rw [h, getElem?_set_append hb, hm]; rfl
  · exact List.prefix_append _ _

end Grows

namespace ClientConnection

variable (co : Collaborators RS PS C A R D)

/-! ## §3. Sending leaves the buffers alone. -/

@[simp] theorem statusErr_msgBuf (err : IoError) (c : ClientConnection RS PS C A R D) :
    (c.statusErr err).msgBuf = c.msgBuf := by
  unfold statusErr; split <;> rfl

@[simp] theorem statusResult_msgBuf (result : Except IoError Unit)
    (c : ClientConnection RS PS C A R D) : (statusResult result c).msgBuf = c.msgBuf := by
  cases result with
  | ok => rfl
  | error err => exact statusErr_msgBuf err c

theorem send_msgBuf {msg : AnyMsg C A R D} {c c' : ClientConnection RS PS C A R D}
    {r : Except IoError AckNum} (h : send co msg c = some (c', r)) : c'.msgBuf = c.msgBuf := by
  unfold send at h
  split at h
  · cases h; rfl
  split at h
  · cases h; rfl
  simp only [Option.bind_eq_bind, Option.bind_eq_some] at h
  obtain ⟨⟨rs, header⟩, -, serFn, -, h⟩ := h
  split at h
  · cases h; rfl
  simp only [Option.bind_eq_bind, Option.bind_eq_some] at h
  obtain ⟨g, -, rs', -, h⟩ := h
  cases h
  exact statusResult_msgBuf _ _

/-- `send` with its result dropped. -/
theorem send_map_msgBuf {msg : AnyMsg C A R D} {c c' : ClientConnection RS PS C A R D}
    (h : (send co msg c).map (·.1) = some c') : c'.msgBuf = c.msgBuf := by
  obtain ⟨⟨c₁, r⟩, hs, rfl⟩ := Option.map_eq_some'.mp h
  exact send_msgBuf co hs

/-! ## §4. Receiving only appends. -/

/-- `msg_buf[m_type].push(..)`, as a specification. -/
theorem bufferMsg_eq_some {header : MsgHeader} {msg : AnyMsg C A R D}
    {c c' : ClientConnection RS PS C A R D} :
    bufferMsg header msg c = some c' ↔ ∃ b, c.msgBuf[header.mType]? = some b ∧
      c' = { c with msgBuf := c.msgBuf.set header.mType (b ++ [⟨0, header.senderAckNum, header.orderNum, msg⟩]) } := by
  simp only [bufferMsg, Option.bind_eq_bind, Option.bind_eq_some, Option.some.injEq]
  exact exists_congr fun _ => and_congr_right fun _ => eq_comm

theorem bufferMsg_grows {header : MsgHeader} {msg : AnyMsg C A R D}
    {c c' : ClientConnection RS PS C A R D} (h : bufferMsg header msg c = some c') :
    c'.transport = c.transport ∧ Grows c c' := by
  obtain ⟨b, hb, rfl⟩ := bufferMsg_eq_some.mp h
  exact ⟨rfl, .of_set_append hb rfl⟩

/-- The `while let Some(..) = get_received()` loop. -/
theorem foldlM_bufferMsg {ready : List (MsgHeader × AnyMsg C A R D)}
    {c c' : ClientConnection RS PS C A R D}
    (h : ready.foldlM (fun c hm => bufferMsg hm.1 hm.2 c) c = some c') :
    c'.transport = c.transport ∧ Grows c c' :=
  foldlM_rel (P := fun c c' => c'.transport = c.transport ∧ Grows c c')
    (fun c => ⟨rfl, .refl c⟩) (fun h₁ h₂ => by exact ⟨h₂.1.trans h₁.1, h₁.2.trans h₂.2⟩)
    (fun _ _ _ hb => bufferMsg_grows hb) ready c c' h

theorem dispatch_grows {header : MsgHeader} {msg : AnyMsg C A R D}
    {c c' : ClientConnection RS PS C A R D} (h : dispatch co header msg c = some c') :
    Grows c c' := by
  unfold dispatch at h
  split_ifs at h
  · -- a ping: answered by a send, or handed to the ping system
    split at h
    · split at h
      · exact .of_msgBuf (send_map_msgBuf co h)
      · simp only [Option.bind_eq_bind, Option.bind_eq_some, Option.some.injEq] at h
        obtain ⟨ps, -, rfl⟩ := h
        exact .of_msgBuf rfl
    · cases h
  · split at h <;> cases h
    exact .of_msgBuf rfl
  · cases h; exact .refl c
  · split at h <;> cases h <;> exact .of_msgBuf rfl
  · cases h; exact .refl c
  · exact (bufferMsg_grows h).2

theorem handleDatagram_grows {buf : Bytes} {c c' : ClientConnection RS PS C A R D}
    (h : handleDatagram co buf c = some c') : Grows c c' := by
  unfold handleDatagram at h
  split_ifs at h
  · cases h; exact .refl c
  simp only [Option.bind_eq_bind, Option.bind_eq_some] at h
  obtain ⟨header, -, deserFn, -, h⟩ := h
  split at h
  · cases h; exact .refl c
  simp only [Option.bind_eq_bind, Option.bind_eq_some] at h
  obtain ⟨c₁, hd, rs, -, ⟨rs', ready⟩, -, h⟩ := h
  exact (dispatch_grows co hd).trans ((Grows.of_msgBuf (by rfl)).trans (foldlM_bufferMsg h).2)

/-- The loop of `get_msgs_err`: every turn only appends. -/
theorem getMsgsErr_grows {incoming : List (Except IoError Bytes)}
    {c c' : ClientConnection RS PS C A R D} {r : Except IoError Unit}
    (h : getMsgsErr co incoming c = some (c', r)) : Grows c c' := by
  induction incoming, c using getMsgsErr.induct co with
  | case1 incoming c ht | case2 c t ht | case3 c t _ _ ht =>
    rw [getMsgsErr.eq_def] at h
    simp only [ht, Option.some.injEq, Prod.mk.injEq] at h
    obtain ⟨rfl, -⟩ := h
    exact .refl _
  | case4 c t buf rest ht ih =>
    rw [getMsgsErr.eq_def] at h
    simp only [ht, Option.bind_eq_bind, Option.bind_eq_some] at h
    obtain ⟨c₁, hd, h⟩ := h
    exact (handleDatagram_grows co hd).trans (ih c₁ h)

/-- `get_msgs` is its loop, then at most a `status_err`, which leaves the buffers alone. -/
theorem getMsgs_msgBuf {incoming : List (Except IoError Bytes)}
    {c c' : ClientConnection RS PS C A R D} (h : getMsgs co incoming c = some c') :
    ∃ c₁ r, getMsgsErr co incoming c = some (c₁, r) ∧ c'.msgBuf = c₁.msgBuf := by
  simp only [getMsgs, Option.bind_eq_bind, Option.bind_eq_some] at h
  obtain ⟨⟨c₁, r⟩, he, h⟩ := h
  refine ⟨c₁, r, he, ?_⟩
  split at h
  · cases h; rfl
  · split_ifs at h <;> cases h
    · rfl
    · exact statusErr_msgBuf _ _

/-! ## §5. The turn on a user datagram. -/

/-- **The loop's turn on a user datagram**: the `_` arm pushes the message, then the reliable
system gets it and whatever it yields is pushed too. -/
theorem handleDatagram_user {c : ClientConnection RS PS C A R D} {d : UserDatagram C A R D}
    (hd : c.msgTable.ReadsUser d) :
    handleDatagram co d.bytes c = (bufferMsg d.header d.msg c).bind fun c₁ => (do
      let rs ← co.pushReceived d.header d.msg c₁.reliableSys
      let (rs, ready) ← co.getReceived rs
      ready.foldlM (fun c hm => bufferMsg hm.1 hm.2 c) { c₁ with reliableSys := rs }) := by
  obtain ⟨f, hf, hbody⟩ := hd.deser
  have hlen : ¬ d.bytes.length < headerSize := by simp [UserDatagram.bytes]
  rw [handleDatagram, if_neg hlen, UserDatagram.bytes,
    List.take_left' (MsgHeader.toBeBytes_length _), fromBeBytes_toBeBytes _ hd.mType_lt,
    List.drop_left' (MsgHeader.toBeBytes_length _)]
  simp only [Option.bind_eq_bind, Option.some_bind, hf, hbody, dispatch, if_neg hd.ne_ping,
    if_neg hd.ne_disconnect, if_neg hd.ne_response]

/-- The turn on a user datagram puts its entry at the end of its buffer, after which the
buffers only grow; the transport stays. -/
theorem handleDatagram_user_grows {c c' : ClientConnection RS PS C A R D}
    {d : UserDatagram C A R D} (hd : c.msgTable.ReadsUser d)
    (h : handleDatagram co d.bytes c = some c') :
    c'.transport = c.transport ∧ ∃ b, c.msgBuf[d.header.mType]? = some b ∧
      Grows { c with msgBuf := c.msgBuf.set d.header.mType (b ++ [d.entry]) } c' := by
  rw [handleDatagram_user co hd, Option.bind_eq_some] at h
  obtain ⟨c₁, hbuf, h⟩ := h
  obtain ⟨b, hb, rfl⟩ := bufferMsg_eq_some.mp hbuf
  simp only [Option.bind_eq_bind, Option.bind_eq_some] at h
  obtain ⟨rs, -, ⟨rs', ready⟩, -, h⟩ := h
  obtain ⟨ht, hg⟩ := foldlM_bufferMsg h
  exact ⟨ht, b, hb, (Grows.of_msgBuf (by rfl)).trans hg⟩

/-- The loop over user datagrams, then anything: each buffer keeps what it held and ends with
the entries of its datagrams, in order, possibly with other entries between them. -/
theorem getMsgsErr_delivers (rest : List (Except IoError Bytes)) (ds : List (UserDatagram C A R D)) :
    ∀ {c c' : ClientConnection RS PS C A R D} {r : Except IoError Unit}, c.transport.isSome →
      (∀ d ∈ ds, c.msgTable.ReadsUser d) →
      getMsgsErr co (ds.map (fun d => .ok d.bytes) ++ rest) c = some (c', r) →
      ∀ m b, c.msgBuf[m]? = some b →
        ∃ added, c'.msgBuf[m]? = some (b ++ added) ∧
          List.Sublist (UserDatagram.entriesOf m ds) added := by
  induction ds with
  | nil =>
    intro c c' r _ _ h m b hb
    obtain ⟨_, hb', added, rfl⟩ := (getMsgsErr_grows co h).appends m b hb
    exact ⟨added, hb', List.nil_sublist _⟩
  | cons d ds ih =>
    intro c c' r ht hds h m b hb
    obtain ⟨t, ht'⟩ := Option.isSome_iff_exists.mp ht
    rw [List.map_cons, List.cons_append, getMsgsErr.eq_def] at h
    simp only [ht', Option.bind_eq_bind, Option.bind_eq_some] at h
    obtain ⟨c₁, h₁, h⟩ := h
    have hd := hds d (List.mem_cons_self _ _)
    obtain ⟨htr, b₀, hb₀, hg⟩ := handleDatagram_user_grows co hd h₁
    have htab := (handleDatagram_evolves co h₁).msgTable
    -- after the turn, buffer `m` is `b`, the datagram's entry if it is of type `m`, and more
    obtain ⟨_, hb₁, t₁, rfl⟩ := hg.appends m (b ++ if d.header.mType = m then [d.entry] else [])
      (by rw [getElem?_set_append hb₀, hb]; rfl)
    obtain ⟨added, hb', hs⟩ := ih (by rw [htr]; exact ht)
      (fun d' hd' => htab ▸ hds d' (List.mem_cons_of_mem _ hd')) h m _ hb₁
    refine ⟨(if d.header.mType = m then [d.entry] else []) ++ (t₁ ++ added),
      by rw [hb']; simp only [List.append_assoc], ?_⟩
    rw [UserDatagram.entriesOf_cons]
    exact (hs.trans (List.sublist_append_right _ _)).append_left _

end ClientConnection

/-! ## §6. Every user datagram is delivered. -/

open ClientConnection

/-- **Every user datagram read is delivered, in arrival order.**  From any state with a
transport, if `recv` returns user datagrams first and then anything, each buffer after
`get_msgs` holds what it held, followed by the entries of the datagrams of its `MType` in the
order they came, with at most other entries between them.  This holds for every reliable
system: its ordering buffers can neither hold back an early message nor drop a duplicate,
since the `_` arm pushes the message before the reliable system sees it. -/
theorem getMsgs_delivers_every_datagram (co : Collaborators RS PS C A R D)
    {c c' : ClientConnection RS PS C A R D} (ht : c.transport.isSome)
    (ds : List (UserDatagram C A R D)) (hd : ∀ d ∈ ds, c.msgTable.ReadsUser d)
    (rest : List (Except IoError Bytes))
    (h : getMsgs co (ds.map (fun d => .ok d.bytes) ++ rest) c = some c') :
    ∀ m b, c.msgBuf[m]? = some b →
      ∃ added, c'.msgBuf[m]? = some (b ++ added) ∧
        List.Sublist (UserDatagram.entriesOf m ds) added := by
  intro m b hb
  obtain ⟨c₁, r, he, hbuf⟩ := getMsgs_msgBuf co h
  obtain ⟨added, hb₁, hs⟩ := getMsgsErr_delivers co rest ds ht hd he m b hb
  exact ⟨added, hbuf ▸ hb₁, hs⟩

/-- A user datagram of `MType` 4, the ack type, which the client's `match` does not
dispatch on. -/
def ackDatagram : UserDatagram Unit Unit Unit Unit := ⟨⟨4, 0, 0, 0, 0⟩, [], .ack ⟨0, []⟩⟩

/-- After `connect`, the same datagram twice: both copies are delivered. -/
theorem getMsgs_delivers_every_datagram_twoCopies :
    ∃ c, runClient idle unitTable [.connect (.ok ⟨[], []⟩) ()] = some c ∧ c.transport.isSome ∧
      ∃ c', getMsgs idle ((List.replicate 2 ackDatagram).map (fun d => .ok d.bytes) ++ []) c = some c' ∧
        ∀ m b, c.msgBuf[m]? = some b → ∃ added, c'.msgBuf[m]? = some (b ++ added) ∧
          List.Sublist (UserDatagram.entriesOf m (List.replicate 2 ackDatagram)) added := by
  refine ⟨_, rfl, rfl, _, rfl, getMsgs_delivers_every_datagram idle (by rfl)
    (List.replicate 2 ackDatagram) (fun _ h => ?_) [] (by rfl)⟩
  obtain rfl := List.eq_of_mem_replicate h
  exact ⟨by decide, ⟨_, rfl, rfl⟩, by decide, by decide, by decide⟩

end Client

end CarrierPigeon
