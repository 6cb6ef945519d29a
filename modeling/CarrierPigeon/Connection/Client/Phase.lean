import CarrierPigeon.Connection.Client.Handshake
import Mathlib.Logic.Relation
/-
  CarrierPigeon.Connection.Client.Phase
  ─────────────────────────────────────
  **THE CONNECTION AS A STATE MACHINE.**

  Seen from outside, a client is in a phase: its status, and whether it holds a transport.
  `PhaseStep` is the machine the phases follow, with its seven moves: `connect` installs a
  transport and starts the handshake from `NotConnected`; `status_err` drops the transport
  and moves the status on, on an error of the transport (so only while there is one) or of
  `disconnect`'s own send while `Connected`; the server's answer moves `Connecting` to
  `Accepted` or `Rejected`; the peer's disconnection moves `Connected` to `Disconnected`;
  `disconnect` writes `Disconnecting`, over `Connected` or over the `Dropped` its failed send
  left; `handle_status` moves every status to its handled one.

  Every call of the client moves its phase along the machine, over any run, from any state,
  under any transport behaviour, datagrams, reliability and ping systems.  Two facts of the
  machine then hold of the client:
    * a live status (`Connecting`, `Accepted`, `Rejected`, `Connected`) has a transport;
    * `Disconnecting` without a transport is a trap: no move leaves it.  `update_status` is a
      TODO in the source, so only a transport error ends a `Disconnecting`, and once the
      transport is gone — as after a `disconnect` whose send failed — every call leaves the
      client in `Disconnecting` without a transport.

  Main results:
    * `send_phase`, `getMsgsErr_moves`, `dispatch_moves`, … — one lemma per function.
    * `apply_moves` — every public call follows the machine.
    * `phase_refinement` — every run follows the machine.
    * `live_has_transport`, `disconnecting_trap` — the two facts, over every run.
-/

namespace CarrierPigeon

namespace Client

variable {RS PS C A R D : Type}

/-! ## §1. The machine. -/

/-- The statuses of a handshake in progress or of a connection. -/
def Status.isLive : Status A R D → Bool
  | .Connecting | .Accepted _ | .Rejected _ | .Connected => true
  | _ => false

/-- Whether the status is `Dropped`. -/
def Status.isDropped : Status A R D → Bool
  | .Dropped _ => true
  | _ => false

/-- The status `status_err` writes over `s`. -/
def Status.afterErr (err : IoError) : Status A R D → Status A R D
  | .Connected => .Dropped err
  | .Connecting | .Accepted _ | .Rejected _ => .ConnectionFailed err
  | .Disconnecting _ => .NotConnected
  | s => s

/-- The phase of a client: its status, and whether it holds a transport. -/
def ClientConnection.phase (c : ClientConnection RS PS C A R D) : Status A R D × Bool :=
  (c.status, c.transport.isSome)

/-- The moves of a connection's phase. -/
inductive PhaseStep : Status A R D × Bool → Status A R D × Bool → Prop
  /-- On `connect`: a transport, and the handshake starts. -/
  | connect (b : Bool) : PhaseStep (.NotConnected, b) (.Connecting, true)
  /-- On `status_err`: an error of the transport, or of `disconnect`'s send. -/
  | fail (s : Status A R D) (b : Bool) (err : IoError) (h : b = true ∨ s = .Connected) :
      PhaseStep (s, b) (s.afterErr err, false)
  /-- On the server's acceptance. -/
  | accept (a : A) (b : Bool) : PhaseStep (.Connecting, b) (.Accepted a, b)
  /-- On the server's rejection. -/
  | reject (r : R) (b : Bool) : PhaseStep (.Connecting, b) (.Rejected r, b)
  /-- On the peer's disconnection. -/
  | peerDisconnect (d : D) (b : Bool) : PhaseStep (.Connected, b) (.Disconnected d, b)
  /-- On `disconnect`, over `Connected` or the `Dropped` of its failed send. -/
  | disconnect (s : Status A R D) (ackNum : AckNum) (b : Bool)
      (h : s = .Connected ∨ s.isDropped = true) : PhaseStep (s, b) (.Disconnecting ackNum, b)
  /-- On `handle_status`. -/
  | handle (s : Status A R D) (b : Bool) : PhaseStep (s, b) (s.handled, b)

/-- A live status holds a transport. -/
def LivePhase (p : Status A R D × Bool) : Prop := p.1.isLive = true → p.2 = true

theorem phaseStep_live {p q : Status A R D × Bool} (h : PhaseStep p q) (hp : LivePhase p) :
    LivePhase q := by
  cases h with
  | connect => exact fun _ => rfl
  | fail s b err => intro hq; cases s <;> simp [Status.afterErr, Status.isLive] at hq
  | accept | reject => exact fun _ => hp rfl
  | peerDisconnect | disconnect => intro hq; simp [Status.isLive] at hq
  | handle s b => exact fun hq => hp (by cases s <;> simp_all [Status.handled, Status.isLive])

theorem reaches_live {p q : Status A R D × Bool} (h : Relation.ReflTransGen PhaseStep p q)
    (hp : LivePhase p) : LivePhase q := by
  induction h with
  | refl => exact hp
  | tail _ hs ih => exact phaseStep_live hs ih

/-- No move leaves `Disconnecting` without a transport. -/
theorem phaseStep_trap {a : AckNum} {q : Status A R D × Bool}
    (h : PhaseStep (.Disconnecting a, false) q) : q = (.Disconnecting a, false) := by
  cases h with
  | fail _ _ _ h => simp at h
  | disconnect _ _ _ h => simp [Status.isDropped] at h
  | handle => rfl

theorem reaches_trap {a : AckNum} {q : Status A R D × Bool}
    (h : Relation.ReflTransGen PhaseStep (.Disconnecting a, false) q) :
    q = (.Disconnecting a, false) := by
  induction h with
  | refl => rfl
  | tail _ hs ih => subst ih; exact phaseStep_trap hs

/-! ## §2. Each function follows the machine. -/

/-- The phase of `c'` is reached from that of `c`. -/
def Moves (c c' : ClientConnection RS PS C A R D) : Prop :=
  Relation.ReflTransGen PhaseStep c.phase c'.phase

theorem Moves.of_phase {c c' : ClientConnection RS PS C A R D} (h : c'.phase = c.phase) :
    Moves c c' := by
  rw [Moves, h]

theorem Moves.trans {c₁ c₂ c₃ : ClientConnection RS PS C A R D} (h₁ : Moves c₁ c₂)
    (h₂ : Moves c₂ c₃) : Moves c₁ c₃ :=
  Relation.ReflTransGen.trans h₁ h₂

namespace ClientConnection

variable (co : Collaborators RS PS C A R D)

theorem statusErr_phase (err : IoError) (c : ClientConnection RS PS C A R D) :
    (c.statusErr err).phase = (c.status.afterErr err, false) := by
  cases hs : c.status <;> simp [statusErr, phase, setStatus, hs, Status.afterErr]

/-- `status_err` is the machine's `fail`, while there is a transport or the status is
`Connected`. -/
theorem statusErr_moves (err : IoError) {c : ClientConnection RS PS C A R D}
    (h : c.transport.isSome = true ∨ c.status = .Connected) : Moves c (c.statusErr err) :=
  .single (statusErr_phase err c ▸ .fail _ _ err h)

theorem statusResult_moves (result : Except IoError Unit) {c : ClientConnection RS PS C A R D}
    (h : c.transport.isSome = true) : Moves c (statusResult result c) := by
  cases result with
  | ok => exact .refl
  | error err => exact statusErr_moves err (.inl h)

/-- **`send`.**  It keeps the phase, or, once it has handed the message to the transport and
the transport failed, moves by `status_err`; a send that returns an error keeps the phase. -/
theorem send_phase {msg : AnyMsg C A R D} {c c' : ClientConnection RS PS C A R D}
    {r : Except IoError AckNum} (h : send co msg c = some (c', r)) :
    c'.phase = c.phase ∨
      ((∃ n, r = .ok n) ∧ c.transport.isSome = true ∧
        ∃ err, c'.phase = (c.status.afterErr err, false)) := by
  unfold send at h
  split at h
  · cases h; exact .inl rfl
  rename_i t ht
  split at h
  · cases h; exact .inl rfl
  simp only [Option.bind_eq_bind, Option.bind_eq_some] at h
  obtain ⟨⟨rs, header⟩, -, serFn, -, h⟩ := h
  split at h
  · cases h; exact .inl rfl
  simp only [Option.bind_eq_bind, Option.bind_eq_some, Option.some.injEq, Prod.mk.injEq] at h
  obtain ⟨g, -, rs', -, rfl, rfl⟩ := h
  unfold statusResult
  split
  · exact .inl (by simp [phase, ht])
  · exact .inr ⟨⟨_, rfl⟩, by simp [ht], _, statusErr_phase _ _⟩

theorem send_moves {msg : AnyMsg C A R D} {c c' : ClientConnection RS PS C A R D}
    {r : Except IoError AckNum} (h : send co msg c = some (c', r)) : Moves c c' := by
  rcases send_phase co h with hp | ⟨-, ht, err, hp⟩
  · exact .of_phase hp
  · exact .single (hp ▸ .fail _ _ err (.inl ht))

/-- `connect` starts the handshake from `NotConnected`, then sends. -/
theorem connect_moves {newTransport : Except IoError ClientTransport} {conMsg : C}
    {c c' : ClientConnection RS PS C A R D} {r : Except IoError Unit}
    (h : connect co newTransport conMsg c = some (c', r)) : Moves c c' := by
  unfold connect at h
  split at h
  · cases h; exact .refl
  rename_i hnc
  split at h
  · cases h; exact .refl
  simp only [Option.bind_eq_bind, Option.bind_eq_some] at h
  obtain ⟨⟨c₁, r₁⟩, hs, h⟩ := h
  have hc₁ : c₁ = c' := by split at h <;> cases h <;> rfl
  subst hc₁
  have hst : c.status = .NotConnected := by simpa using hnc
  refine Relation.ReflTransGen.head ?_ (send_moves co hs)
  exact (show c.phase = (.NotConnected, c.transport.isSome) by rw [phase, hst]) ▸ .connect _

/-- `disconnect` writes `Disconnecting` over what its send left, or fails by `status_err`. -/
theorem disconnect_moves {disconMsg : D} {c c' : ClientConnection RS PS C A R D}
    {r : Except IoError Unit} (h : disconnect co disconMsg c = some (c', r)) : Moves c c' := by
  unfold disconnect at h
  split at h
  · cases h; exact .refl
  rename_i hcon
  have hst : c.status = .Connected := by simpa using hcon
  simp only [Option.bind_eq_bind, Option.bind_eq_some] at h
  obtain ⟨⟨c₁, r₁⟩, hs, h⟩ := h
  refine (send_moves co hs).trans ?_
  cases r₁ with
  | ok n =>
    -- the send went out: `Connected`, or `Dropped` if the transport failed it
    cases h
    have hw : c₁.status = .Connected ∨ c₁.status.isDropped = true := by
      rcases send_phase co hs with hp | ⟨-, -, err, hp⟩
      · exact .inl ((congrArg Prod.fst hp).trans hst)
      · exact .inr (by rw [show c₁.status = _ from congrArg Prod.fst hp, hst]; rfl)
    exact .single (.disconnect _ _ _ hw)
  | error err =>
    -- the send failed before the transport, still `Connected`
    cases h
    rcases send_phase co hs with hp | ⟨⟨_, hok⟩, -⟩
    · exact statusErr_moves _ (.inr ((congrArg Prod.fst hp).trans hst))
    · cases hok

theorem send_map_moves {msg : AnyMsg C A R D} {c c' : ClientConnection RS PS C A R D}
    (h : (send co msg c).map (·.1) = some c') : Moves c c' := by
  obtain ⟨⟨c₁, r⟩, hs, rfl⟩ := Option.map_eq_some'.mp h
  exact send_moves co hs

theorem sendAckMsg_moves {c c' : ClientConnection RS PS C A R D}
    (h : sendAckMsg co c = some c') : Moves c c' := by
  simp only [sendAckMsg, Option.bind_eq_bind, Option.bind_eq_some] at h
  obtain ⟨⟨rs, m⟩, -, h⟩ := h
  split at h
  · cases h; exact .refl
  · exact (send_map_moves co h :)

theorem sendPing_moves {c c' : ClientConnection RS PS C A R D}
    (h : sendPing co c = some c') : Moves c c' := by
  simp only [sendPing, Option.bind_eq_bind, Option.bind_eq_some] at h
  obtain ⟨⟨ps, m⟩, -, h⟩ := h
  split at h
  · cases h; exact .refl
  · exact (send_map_moves co h :)

theorem resendOne_moves (c : ClientConnection RS PS C A R D) (hp : MsgHeader × Bytes) :
    Moves c (resendOne c hp) := by
  unfold resendOne
  split
  · rename_i t ht
    exact (Moves.of_phase (by simp [phase, ht])).trans (statusResult_moves _ rfl)
  · exact .refl

theorem foldl_resendOne_moves (resends : List (MsgHeader × Bytes))
    (c : ClientConnection RS PS C A R D) : Moves c (resends.foldl resendOne c) := by
  induction resends generalizing c with
  | nil => exact .refl
  | cons hp resends ih => exact (resendOne_moves c hp).trans (ih _)

theorem resendReliable_moves {c c' : ClientConnection RS PS C A R D}
    (h : resendReliable co c = some c') : Moves c c' := by
  simp only [resendReliable, Option.bind_eq_bind, Option.bind_eq_some, Option.some.injEq] at h
  obtain ⟨⟨rs, resends⟩, -, rfl⟩ := h
  exact (foldl_resendOne_moves resends { c with reliableSys := rs } :)

theorem bufferMsg_phase {header : MsgHeader} {msg : AnyMsg C A R D}
    {c c' : ClientConnection RS PS C A R D} (h : bufferMsg header msg c = some c') :
    c'.phase = c.phase := by
  simp only [bufferMsg, Option.bind_eq_bind, Option.bind_eq_some, Option.some.injEq] at h
  obtain ⟨buf, -, rfl⟩ := h
  rfl

/-- The dispatch of a received message: a ping's answer is a send, the server's answer moves
`Connecting` on, the peer's disconnection moves `Connected` on. -/
theorem dispatch_moves {header : MsgHeader} {msg : AnyMsg C A R D}
    {c c' : ClientConnection RS PS C A R D} (h : dispatch co header msg c = some c') :
    Moves c c' := by
  unfold dispatch at h
  split_ifs at h with hping hdis hcon hresp hcing
  · split at h
    · split at h
      · exact send_map_moves co h
      · simp only [Option.bind_eq_bind, Option.bind_eq_some, Option.some.injEq] at h
        obtain ⟨ps, -, rfl⟩ := h
        exact .refl
    · cases h
  · have hst : c.status = .Connected := by simpa using hcon
    split at h <;> cases h
    exact .single (show PhaseStep (c.status, _) _ from hst ▸ .peerDisconnect _ _)
  · cases h; exact .refl
  · have hst : c.status = .Connecting := by simpa using hcing
    split at h <;> cases h
    · exact .single (show PhaseStep (c.status, _) _ from hst ▸ .accept _ _)
    · exact .single (show PhaseStep (c.status, _) _ from hst ▸ .reject _ _)
  · cases h; exact .refl
  · exact .of_phase (bufferMsg_phase h)

theorem handleDatagram_moves {buf : Bytes} {c c' : ClientConnection RS PS C A R D}
    (h : handleDatagram co buf c = some c') : Moves c c' := by
  unfold handleDatagram at h
  split_ifs at h
  · cases h; exact .refl
  simp only [Option.bind_eq_bind, Option.bind_eq_some] at h
  obtain ⟨header, -, deserFn, -, h⟩ := h
  split at h
  · cases h; exact .refl
  simp only [Option.bind_eq_bind, Option.bind_eq_some] at h
  obtain ⟨c₁, hd, rs, -, ⟨rs', ready⟩, -, h⟩ := h
  have hb := foldlM_rel (P := Moves) (fun _ => .refl) Moves.trans
    (fun _ _ _ hb => .of_phase (bufferMsg_phase hb)) _ _ _ h
  exact (dispatch_moves co hd).trans hb

/-- The loop of `get_msgs_err`; it stops with an error only while there is a transport. -/
theorem getMsgsErr_moves {incoming : List (Except IoError Bytes)}
    {c c' : ClientConnection RS PS C A R D} {r : Except IoError Unit}
    (h : getMsgsErr co incoming c = some (c', r)) :
    Moves c c' ∧ ∀ err, r = .error err → c'.transport.isSome = true := by
  induction incoming, c using getMsgsErr.induct co with
  | case1 incoming c ht =>
    rw [getMsgsErr.eq_def] at h
    simp only [ht, Option.some.injEq, Prod.mk.injEq] at h
    obtain ⟨rfl, rfl⟩ := h
    exact ⟨.refl, fun _ h => nomatch h⟩
  | case2 c t ht | case3 c t _ _ ht =>
    rw [getMsgsErr.eq_def] at h
    simp only [ht, Option.some.injEq, Prod.mk.injEq] at h
    obtain ⟨rfl, rfl⟩ := h
    exact ⟨.refl, fun _ _ => by simp [ht]⟩
  | case4 c t buf rest ht ih =>
    rw [getMsgsErr.eq_def] at h
    simp only [ht, Option.bind_eq_bind, Option.bind_eq_some] at h
    obtain ⟨c₁, hd, h⟩ := h
    obtain ⟨hm, he⟩ := ih c₁ h
    exact ⟨(handleDatagram_moves co hd).trans hm, he⟩

theorem getMsgs_moves {incoming : List (Except IoError Bytes)}
    {c c' : ClientConnection RS PS C A R D} (h : getMsgs co incoming c = some c') : Moves c c' := by
  simp only [getMsgs, Option.bind_eq_bind, Option.bind_eq_some] at h
  obtain ⟨⟨c₁, r⟩, he, h⟩ := h
  obtain ⟨hm, ht⟩ := getMsgsErr_moves co he
  cases r with
  | ok => cases h; exact hm
  | error err =>
    simp only at h
    split_ifs at h <;> cases h
    · exact hm
    · exact hm.trans (statusErr_moves _ (.inl (ht err rfl)))

theorem tick_moves {incoming : List (Except IoError Bytes)} {c c' : ClientConnection RS PS C A R D}
    (h : tick co incoming c = some c') : Moves c c' := by
  simp only [tick, Option.bind_eq_bind, Option.bind_eq_some, Option.some.injEq] at h
  obtain ⟨c₁, h₁, c₂, h₂, c₃, h₃, c₄, h₄, rfl⟩ := h
  exact (show Moves c c.clearMsgs from .of_phase rfl).trans <| (sendAckMsg_moves co h₁).trans <|
    (sendPing_moves co h₂).trans <| (resendReliable_moves co h₃).trans (getMsgs_moves co h₄)

end ClientConnection

/-! ## §3. Runs. -/

open ClientConnection in
/-- **Every public call follows the machine.** -/
theorem apply_moves (co : Collaborators RS PS C A R D) {c c' : ClientConnection RS PS C A R D}
    {op : ClientOp C A R D} (h : op.apply co c = some c') : Moves c c' := by
  cases op with
  | connect newTransport conMsg =>
    obtain ⟨⟨c₁, r⟩, hc, rfl⟩ := Option.map_eq_some'.mp h
    exact connect_moves co hc
  | disconnect disconMsg =>
    obtain ⟨⟨c₁, r⟩, hc, rfl⟩ := Option.map_eq_some'.mp h
    exact disconnect_moves co hc
  | send msg => exact send_map_moves co h
  | sendAckMsg => exact sendAckMsg_moves co h
  | sendPing => exact sendPing_moves co h
  | resendReliable => exact resendReliable_moves co h
  | getMsgs incoming => exact getMsgs_moves co h
  | tick incoming => exact tick_moves co h
  | handleStatus => cases h; exact .single (.handle _ _)

theorem runFrom_moves (co : Collaborators RS PS C A R D) (ops : List (ClientOp C A R D))
    (c c' : ClientConnection RS PS C A R D) (h : ops.foldlM (fun c op => op.apply co c) c = some c') :
    Moves c c' :=
  foldlM_rel (P := Moves) (fun _ => .refl) Moves.trans (fun _ _ _ hs => apply_moves co hs) ops c c' h

/-- **The client refines the machine.**  Over every run of calls from any state, under any
transport behaviour, datagrams, reliability and ping systems, the phase — status, and whether
there is a transport — moves along `PhaseStep`. -/
theorem phase_refinement (co : Collaborators RS PS C A R D) (ops : List (ClientOp C A R D))
    (c c' : ClientConnection RS PS C A R D) (h : ops.foldlM (fun c op => op.apply co c) c = some c') :
    Relation.ReflTransGen PhaseStep c.phase c'.phase :=
  runFrom_moves co ops c c' h

theorem phase_refinement_acceptRun :
    ∃ c', acceptRun.foldlM (fun c op => op.apply idle c) (ClientConnection.new idle unitTable) = some c' ∧
      Relation.ReflTransGen PhaseStep (ClientConnection.new idle unitTable).phase c'.phase :=
  ⟨_, rfl, phase_refinement idle acceptRun _ _ rfl⟩

/-- **A live connection has a transport.**  After any run from `new`, a client whose status is
`Connecting`, `Accepted`, `Rejected` or `Connected` holds a transport, so `send` gets past its
`NotConnected` check. -/
theorem live_has_transport (co : Collaborators RS PS C A R D) (table : MsgTable C A R D)
    (ops : List (ClientOp C A R D)) (c : ClientConnection RS PS C A R D)
    (h : runClient co table ops = some c) (hlive : c.status.isLive = true) :
    c.transport.isSome = true :=
  reaches_live (runFrom_moves co ops _ c h) (fun h => nomatch h) hlive

/-- The live status of `handshake_integrity`'s run that connects. -/
theorem live_has_transport_acceptRun :
    ∃ c, runClient idle unitTable acceptRun = some c ∧ c.status.isLive = true ∧
      c.transport.isSome = true :=
  ⟨_, rfl, rfl, live_has_transport idle unitTable acceptRun _ rfl rfl⟩

/-- From `Disconnecting` without a transport, every run of calls stays there. -/
theorem foldlM_apply_trap (co : Collaborators RS PS C A R D) (c : ClientConnection RS PS C A R D)
    (a : AckNum) (hs : c.status = .Disconnecting a) (ht : c.transport = none)
    (ops : List (ClientOp C A R D)) (c' : ClientConnection RS PS C A R D)
    (h : ops.foldlM (fun c op => op.apply co c) c = some c') :
    c'.status = .Disconnecting a ∧ c'.transport = none := by
  have hm := runFrom_moves co ops c c' h
  rw [Moves, show c.phase = (.Disconnecting a, false) by simp [ClientConnection.phase, hs, ht]]
    at hm
  have hq := reaches_trap hm
  simp only [ClientConnection.phase, Prod.mk.injEq] at hq
  exact ⟨hq.1, Option.not_isSome_iff_eq_none.mp (by simp [hq.2])⟩

/-- **`Disconnecting` without a transport is a trap.**  Once a run from `new` leaves the
client in `Disconnecting` with no transport, every continuation of the run — `connect`,
`disconnect`, `send`, `tick`, `get_msgs`, `handle_status`, … — ends in the same
`Disconnecting`, still without a transport. -/
theorem disconnecting_trap (co : Collaborators RS PS C A R D) (table : MsgTable C A R D)
    (ops₁ ops₂ : List (ClientOp C A R D)) (c₁ c₂ : ClientConnection RS PS C A R D) (a : AckNum)
    (h₁ : runClient co table ops₁ = some c₁) (hs : c₁.status = .Disconnecting a)
    (ht : c₁.transport = none) (h₂ : runClient co table (ops₁ ++ ops₂) = some c₂) :
    c₂.status = .Disconnecting a ∧ c₂.transport = none := by
  simp only [runClient, List.foldlM_append] at h₁ h₂
  rw [h₁] at h₂
  exact foldlM_apply_trap co c₁ a hs ht ops₂ c₂ h₂

/-- `connect`; the server's acceptance; `handle_status`; a `disconnect` whose send the
transport fails. -/
def stuckRun : List (ClientOp Unit Unit Unit Unit) :=
  [.connect (.ok ⟨[none, some ClientTransport.wouldBlock], []⟩) (),
    .getMsgs [.ok (MsgHeader.toBeBytes ⟨1, 0, 0, 0, 0⟩)], .handleStatus, .disconnect ()]

/-- A new `connect`, the server's acceptance, a `tick`, `handle_status` and `disconnect`. -/
def retryRun : List (ClientOp Unit Unit Unit Unit) :=
  [.connect (.ok ⟨[], []⟩) (), .getMsgs [.ok (MsgHeader.toBeBytes ⟨1, 0, 0, 0, 0⟩)], .tick [],
    .handleStatus, .disconnect ()]

theorem disconnecting_trap_stuckRun :
    ∃ c₁ c₂, runClient idle unitTable stuckRun = some c₁ ∧ c₁.status = .Disconnecting 0 ∧
      c₁.transport = none ∧ runClient idle unitTable (stuckRun ++ retryRun) = some c₂ ∧
      (c₂.status = .Disconnecting 0 ∧ c₂.transport = none) :=
  ⟨_, _, rfl, rfl, rfl, rfl,
    disconnecting_trap idle unitTable stuckRun retryRun _ _ 0 rfl rfl rfl rfl⟩

end Client

end CarrierPigeon
