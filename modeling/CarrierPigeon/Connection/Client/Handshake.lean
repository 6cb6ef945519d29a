import CarrierPigeon.Connection.Client.Basic
/-
  CarrierPigeon.Connection.Client.Handshake
  ─────────────────────────────────────────
  **THE HANDSHAKE DISCIPLINE OF THE STATUS.**

  Over every run of a client from `new` — any calls, any transport behaviour, any datagrams,
  any reliability and ping systems — the ghost log `statusLog` is the whole history of the
  status (it replays from `NotConnected` to the current status), and every write in it obeys
  the handshake:
    * `Connected` is entered only by `handle_status`, from `Accepted`;
    * `Accepted` and `Rejected` are entered only by the dispatch of a datagram of `MType`
      `RESPONSE_M_TYPE`, from `Connecting`;
    * `Disconnected` is entered only by the dispatch of a datagram of `MType`
      `DISCONNECT_M_TYPE`, from `Connected`.

  The proof says once what each function may do to the status — `Evolves c c'`: the table is
  the same and `c'` logs on top of `c` a chain of guarded writes — and shows it for each
  function from the ones it calls.

  Main results:
    * `send_evolves`, `getMsgs_evolves`, `tick_evolves`, … — one lemma per function.
    * `apply_evolves` — every public call evolves the state.
    * `handshake_integrity` — the discipline over every run.
-/

namespace CarrierPigeon

namespace Client

variable {RS PS C A R D : Type}

/-! ## §1. Status histories. -/

/-- The writes `ws` lead from status `s` to status `s'`, each starting where the last ended. -/
def Replays : Status A R D → List (StatusWrite A R D) → Status A R D → Prop
  | s, [], s' => s = s'
  | s, w :: ws, s' => w.old = s ∧ Replays w.new ws s'

theorem replays_append {s s' s'' : Status A R D} {ws ws' : List (StatusWrite A R D)}
    (h : Replays s ws s') (h' : Replays s' ws' s'') : Replays s (ws ++ ws') s'' := by
  induction ws generalizing s with
  | nil => cases h; exact h'
  | cons w ws ih => exact ⟨h.1, ih h.2⟩

/-- The handshake discipline of one write, for the reserved `MType`s of table `t`. -/
def StatusWrite.Guarded (t : MsgTable C A R D) (w : StatusWrite A R D) : Prop :=
  (w.new = .Connected → w.old ≠ .Connected →
      w.site = .handleStatus ∧ w.old.isAccepted = true) ∧
    (w.new.isAccepted = true ∨ w.new.isRejected = true →
      w.site = .datagram t.responseMType ∧ w.old = .Connecting) ∧
    (w.new.isDisconnected = true → w.site = .datagram t.disconnectMType ∧ w.old = .Connected)

/-- A write to a status outside the handshake obeys it. -/
theorem StatusWrite.Guarded.of_quiet {t : MsgTable C A R D} {w : StatusWrite A R D}
    (hc : w.new ≠ .Connected) (ha : w.new.isAccepted = false) (hr : w.new.isRejected = false)
    (hd : w.new.isDisconnected = false) : w.Guarded t :=
  ⟨fun h => absurd h hc, fun h => by simp [ha, hr] at h, fun h => by simp [hd] at h⟩

/-- The write of a server's response. -/
theorem StatusWrite.Guarded.of_response {t : MsgTable C A R D} {site : StatusSite}
    {old new : Status A R D} (hsite : site = .datagram t.responseMType) (hold : old = .Connecting)
    (hnew : new.isAccepted = true ∨ new.isRejected = true) :
    StatusWrite.Guarded t ⟨site, old, new⟩ := by
  refine ⟨fun h => ?_, fun _ => ⟨hsite, hold⟩, fun h => ?_⟩ <;>
    cases new <;> simp_all [Status.isAccepted, Status.isRejected, Status.isDisconnected]

/-- The write of a peer's disconnection. -/
theorem StatusWrite.Guarded.of_disconnect {t : MsgTable C A R D} {site : StatusSite}
    {old : Status A R D} {d : D} (hsite : site = .datagram t.disconnectMType)
    (hold : old = .Connected) : StatusWrite.Guarded t ⟨site, old, .Disconnected d⟩ :=
  ⟨(fun h => nomatch h), by simp [Status.isAccepted, Status.isRejected], fun _ => ⟨hsite, hold⟩⟩

/-- What any function may do to the status: `c'` has `c`'s table, and its log is `c`'s with a
chain of guarded writes on top, ending in `c'`'s status. -/
structure Evolves (c c' : ClientConnection RS PS C A R D) : Prop where
  msgTable : c'.msgTable = c.msgTable
  log : ∃ ws, c'.statusLog = c.statusLog ++ ws ∧ Replays c.status ws c'.status ∧
    ∀ w ∈ ws, w.Guarded c.msgTable

namespace Evolves

theorem refl (c : ClientConnection RS PS C A R D) : Evolves c c :=
  ⟨rfl, [], by simp, rfl, by simp⟩

theorem trans {c₁ c₂ c₃ : ClientConnection RS PS C A R D} (h₁ : Evolves c₁ c₂)
    (h₂ : Evolves c₂ c₃) : Evolves c₁ c₃ := by
  obtain ⟨ht₁, ws₁, hl₁, hr₁, hg₁⟩ := h₁
  obtain ⟨ht₂, ws₂, hl₂, hr₂, hg₂⟩ := h₂
  refine ⟨ht₂.trans ht₁, ws₁ ++ ws₂, by simp [hl₂, hl₁], replays_append hr₁ hr₂, ?_⟩
  rintro w hw
  rcases List.mem_append.mp hw with hw | hw
  · exact hg₁ w hw
  · exact ht₁ ▸ hg₂ w hw

/-- A change of other fields only. -/
theorem of_frame {c c' : ClientConnection RS PS C A R D} (ht : c'.msgTable = c.msgTable)
    (hs : c'.status = c.status) (hl : c'.statusLog = c.statusLog) : Evolves c c' :=
  ⟨ht, [], by simp [hl], hs.symm, by simp⟩

/-- A change of other fields, then `h`. -/
theorem frame_trans {c₁ c₂ c₃ : ClientConnection RS PS C A R D} (h : Evolves c₂ c₃)
    (ht : c₂.msgTable = c₁.msgTable) (hs : c₂.status = c₁.status)
    (hl : c₂.statusLog = c₁.statusLog) : Evolves c₁ c₃ :=
  (of_frame ht hs hl).trans h

/-- A guarded write. -/
theorem setStatus {c : ClientConnection RS PS C A R D} {site : StatusSite} {new : Status A R D}
    (hg : StatusWrite.Guarded c.msgTable ⟨site, c.status, new⟩) :
    Evolves c (c.setStatus site new) :=
  ⟨rfl, [⟨site, c.status, new⟩], rfl, ⟨rfl, rfl⟩, by simpa using hg⟩

/-- A guarded write, and a new transport. -/
theorem setStatus_withTransport {c : ClientConnection RS PS C A R D} {site : StatusSite}
    {new : Status A R D} (t : Option ClientTransport)
    (hg : StatusWrite.Guarded c.msgTable ⟨site, c.status, new⟩) :
    Evolves c { c.setStatus site new with transport := t } :=
  (setStatus hg).trans (of_frame rfl rfl rfl)

end Evolves

/-- A relation that every step extends, reflexive and transitive, holds along a run. -/
theorem foldlM_rel {α β : Type} {f : α → β → Option α} {P : α → α → Prop}
    (hrefl : ∀ a, P a a) (htrans : ∀ {a b c}, P a b → P b c → P a c)
    (hstep : ∀ a b a', f a b = some a' → P a a') :
    ∀ (l : List β) (a a' : α), l.foldlM f a = some a' → P a a'
  | [], a, _, h => by cases h; exact hrefl a
  | b :: l, a, a', h => by
    simp only [List.foldlM_cons, Option.bind_eq_bind, Option.bind_eq_some] at h
    obtain ⟨a₁, h₁, h₂⟩ := h
    exact htrans (hstep a b a₁ h₁) (foldlM_rel hrefl htrans hstep l a₁ a' h₂)

/-! ## §2. Each function evolves the state. -/

namespace ClientConnection

variable (co : Collaborators RS PS C A R D)

theorem statusErr_evolves (err : IoError) (c : ClientConnection RS PS C A R D) :
    Evolves c (c.statusErr err) := by
  unfold statusErr
  split <;>
    first
    | exact .of_frame rfl rfl rfl
    | exact Evolves.setStatus_withTransport none (.of_quiet (by simp) rfl rfl rfl)

theorem statusResult_evolves (result : Except IoError Unit) (c : ClientConnection RS PS C A R D) :
    Evolves c (statusResult result c) := by
  cases result with
  | ok => exact .refl c
  | error err => exact statusErr_evolves err c

theorem send_evolves {msg : AnyMsg C A R D} {c c' : ClientConnection RS PS C A R D}
    {r : Except IoError AckNum} (h : send co msg c = some (c', r)) : Evolves c c' := by
  unfold send at h
  split at h
  · cases h; exact .refl c
  split at h
  · cases h; exact .refl c
  simp only [Option.bind_eq_bind, Option.bind_eq_some] at h
  obtain ⟨⟨rs, header⟩, -, serFn, -, h⟩ := h
  split at h
  · cases h; exact .of_frame rfl rfl rfl
  simp only [Option.bind_eq_bind, Option.bind_eq_some] at h
  obtain ⟨g, -, rs', -, h⟩ := h
  cases h
  exact (statusResult_evolves _ _).frame_trans rfl rfl rfl

theorem connect_evolves {newTransport : Except IoError ClientTransport} {conMsg : C}
    {c c' : ClientConnection RS PS C A R D} {r : Except IoError Unit}
    (h : connect co newTransport conMsg c = some (c', r)) : Evolves c c' := by
  unfold connect at h
  split at h
  · cases h; exact .refl c
  split at h
  · cases h; exact .refl c
  simp only [Option.bind_eq_bind, Option.bind_eq_some] at h
  obtain ⟨⟨c₁, r₁⟩, hs, h⟩ := h
  have hc₁ : c₁ = c' := by split at h <;> cases h <;> rfl
  subst hc₁
  refine Evolves.trans ?_ (send_evolves co hs)
  refine (Evolves.setStatus_withTransport _ ?_).frame_trans rfl rfl rfl
  exact .of_quiet (by simp) rfl rfl rfl

theorem disconnect_evolves {disconMsg : D} {c c' : ClientConnection RS PS C A R D}
    {r : Except IoError Unit} (h : disconnect co disconMsg c = some (c', r)) : Evolves c c' := by
  unfold disconnect at h
  split at h
  · cases h; exact .refl c
  simp only [Option.bind_eq_bind, Option.bind_eq_some] at h
  obtain ⟨⟨c₁, r₁⟩, hs, h⟩ := h
  refine (send_evolves co hs).trans ?_
  split at h <;> cases h
  · exact Evolves.setStatus (.of_quiet (by simp) rfl rfl rfl)
  · exact statusErr_evolves _ _

/-- `send` with its result dropped. -/
theorem send_map_evolves {msg : AnyMsg C A R D} {c c' : ClientConnection RS PS C A R D}
    (h : (send co msg c).map (·.1) = some c') : Evolves c c' := by
  obtain ⟨⟨c₁, r⟩, hs, rfl⟩ := Option.map_eq_some'.mp h
  exact send_evolves co hs

theorem sendAckMsg_evolves {c c' : ClientConnection RS PS C A R D}
    (h : sendAckMsg co c = some c') : Evolves c c' := by
  simp only [sendAckMsg, Option.bind_eq_bind, Option.bind_eq_some] at h
  obtain ⟨⟨rs, m⟩, -, h⟩ := h
  split at h
  · cases h; exact .of_frame rfl rfl rfl
  · exact (send_map_evolves co h).frame_trans rfl rfl rfl

theorem sendPing_evolves {c c' : ClientConnection RS PS C A R D}
    (h : sendPing co c = some c') : Evolves c c' := by
  simp only [sendPing, Option.bind_eq_bind, Option.bind_eq_some] at h
  obtain ⟨⟨ps, m⟩, -, h⟩ := h
  split at h
  · cases h; exact .of_frame rfl rfl rfl
  · exact (send_map_evolves co h).frame_trans rfl rfl rfl

theorem resendOne_evolves (c : ClientConnection RS PS C A R D) (hp : MsgHeader × Bytes) :
    Evolves c (resendOne c hp) := by
  unfold resendOne
  split
  · exact (statusResult_evolves _ _).frame_trans rfl rfl rfl
  · exact .refl c

theorem foldl_resendOne_evolves (resends : List (MsgHeader × Bytes))
    (c : ClientConnection RS PS C A R D) : Evolves c (resends.foldl resendOne c) := by
  induction resends generalizing c with
  | nil => exact .refl c
  | cons hp resends ih => exact (resendOne_evolves c hp).trans (ih _)

theorem resendReliable_evolves {c c' : ClientConnection RS PS C A R D}
    (h : resendReliable co c = some c') : Evolves c c' := by
  simp only [resendReliable, Option.bind_eq_bind, Option.bind_eq_some, Option.some.injEq] at h
  obtain ⟨⟨rs, resends⟩, -, rfl⟩ := h
  exact (foldl_resendOne_evolves _ _).frame_trans rfl rfl rfl

theorem bufferMsg_evolves {header : MsgHeader} {msg : AnyMsg C A R D}
    {c c' : ClientConnection RS PS C A R D} (h : bufferMsg header msg c = some c') :
    Evolves c c' := by
  simp only [bufferMsg, Option.bind_eq_bind, Option.bind_eq_some, Option.some.injEq] at h
  obtain ⟨buf, -, rfl⟩ := h
  exact .of_frame rfl rfl rfl

/-- The dispatch writes only the two guarded transitions of the control messages. -/
theorem dispatch_evolves {header : MsgHeader} {msg : AnyMsg C A R D}
    {c c' : ClientConnection RS PS C A R D} (h : dispatch co header msg c = some c') :
    Evolves c c' := by
  unfold dispatch at h
  split_ifs at h with hping hdis hcon hresp hcing
  · -- a ping: answered by a send, or handed to the ping system
    split at h
    · split at h
      · exact send_map_evolves co h
      · simp only [Option.bind_eq_bind, Option.bind_eq_some, Option.some.injEq] at h
        obtain ⟨ps, -, rfl⟩ := h
        exact .of_frame rfl rfl rfl
    · cases h
  · -- a disconnection while connected
    split at h <;> cases h
    exact Evolves.setStatus (.of_disconnect (congrArg _ hdis) (Status.isConnected_eq_true.mp hcon))
  · cases h; exact .refl c
  · -- a response while connecting
    split at h <;> cases h <;>
      exact Evolves.setStatus (.of_response (congrArg _ hresp)
        (Status.isConnecting_eq_true.mp hcing) (by simp [Status.isAccepted, Status.isRejected]))
  · cases h; exact .refl c
  · exact bufferMsg_evolves h

theorem handleDatagram_evolves {buf : Bytes} {c c' : ClientConnection RS PS C A R D}
    (h : handleDatagram co buf c = some c') : Evolves c c' := by
  unfold handleDatagram at h
  split_ifs at h
  · cases h; exact .refl c
  simp only [Option.bind_eq_bind, Option.bind_eq_some] at h
  obtain ⟨header, -, deserFn, -, h⟩ := h
  split at h
  · cases h; exact .refl c
  simp only [Option.bind_eq_bind, Option.bind_eq_some] at h
  obtain ⟨c₁, hd, rs, -, ⟨rs', ready⟩, -, h⟩ := h
  refine (dispatch_evolves co hd).trans ?_
  exact (foldlM_rel Evolves.refl Evolves.trans (fun _ _ _ hb => bufferMsg_evolves hb) _ _ _
    h).frame_trans rfl rfl rfl

theorem getMsgsErr_evolves {incoming : List (Except IoError Bytes)}
    {c c' : ClientConnection RS PS C A R D} {r : Except IoError Unit}
    (h : getMsgsErr co incoming c = some (c', r)) : Evolves c c' := by
  induction incoming generalizing c with
  | nil =>
    rw [getMsgsErr.eq_def] at h
    cases ht : c.transport <;> simp only [ht, Option.some.injEq, Prod.mk.injEq] at h <;>
      obtain ⟨rfl, -⟩ := h <;> exact .refl _
  | cons d incoming ih =>
    rw [getMsgsErr.eq_def] at h
    cases ht : c.transport with
    | none =>
      simp only [ht, Option.some.injEq, Prod.mk.injEq] at h
      obtain ⟨rfl, -⟩ := h
      exact .refl _
    | some t =>
      cases d with
      | error err =>
        simp only [ht, Option.some.injEq, Prod.mk.injEq] at h
        obtain ⟨rfl, -⟩ := h
        exact .refl _
      | ok buf =>
        simp only [ht, Option.bind_eq_bind, Option.bind_eq_some] at h
        obtain ⟨c₁, hd, h⟩ := h
        exact (handleDatagram_evolves co hd).trans (ih h)

theorem getMsgs_evolves {incoming : List (Except IoError Bytes)}
    {c c' : ClientConnection RS PS C A R D} (h : getMsgs co incoming c = some c') :
    Evolves c c' := by
  simp only [getMsgs, Option.bind_eq_bind, Option.bind_eq_some] at h
  obtain ⟨⟨c₁, r⟩, he, h⟩ := h
  refine (getMsgsErr_evolves co he).trans ?_
  split at h
  · cases h; exact .refl _
  · split_ifs at h <;> cases h
    · exact .refl _
    · exact statusErr_evolves _ _

/-- `handle_status` enters `Connected` only from `Accepted`. -/
theorem handleStatus_evolves (c : ClientConnection RS PS C A R D) :
    Evolves c c.handleStatus.1 := by
  refine Evolves.setStatus ⟨fun hnew hold => ⟨rfl, ?_⟩, fun h => ?_, fun h => ?_⟩ <;>
    cases hs : c.status <;> simp_all [Status.handled, Status.isAccepted, Status.isRejected,
      Status.isDisconnected]

theorem tick_evolves {incoming : List (Except IoError Bytes)}
    {c c' : ClientConnection RS PS C A R D} (h : tick co incoming c = some c') :
    Evolves c c' := by
  simp only [tick, Option.bind_eq_bind, Option.bind_eq_some, Option.some.injEq] at h
  obtain ⟨c₁, h₁, c₂, h₂, c₃, h₃, c₄, h₄, rfl⟩ := h
  have h₀ : Evolves c c.clearMsgs := .of_frame rfl rfl rfl
  exact h₀.trans ((sendAckMsg_evolves co h₁).trans ((sendPing_evolves co h₂).trans
    ((resendReliable_evolves co h₃).trans (getMsgs_evolves co h₄))))

end ClientConnection

/-! ## §3. Runs. -/

open ClientConnection in
/-- **Every public call evolves the state.** -/
theorem apply_evolves (co : Collaborators RS PS C A R D) {c c' : ClientConnection RS PS C A R D}
    {op : ClientOp C A R D} (h : op.apply co c = some c') : Evolves c c' := by
  cases op with
  | connect newTransport conMsg =>
    obtain ⟨⟨c₁, r⟩, hc, rfl⟩ := Option.map_eq_some'.mp h
    exact connect_evolves co hc
  | disconnect disconMsg =>
    obtain ⟨⟨c₁, r⟩, hc, rfl⟩ := Option.map_eq_some'.mp h
    exact disconnect_evolves co hc
  | send msg => exact send_map_evolves co h
  | sendAckMsg => exact sendAckMsg_evolves co h
  | sendPing => exact sendPing_evolves co h
  | resendReliable => exact resendReliable_evolves co h
  | getMsgs incoming => exact getMsgs_evolves co h
  | tick incoming => exact tick_evolves co h
  | handleStatus => cases h; exact handleStatus_evolves c

/-- **Handshake integrity.**  After any run from `new`, the log is the history of the status
from `NotConnected` to the current one, and in it `Connected` is entered only by
`handle_status` from `Accepted`, `Accepted`/`Rejected` only by a `RESPONSE_M_TYPE` datagram
while `Connecting`, and `Disconnected` only by a `DISCONNECT_M_TYPE` datagram while
`Connected`. -/
theorem handshake_integrity (co : Collaborators RS PS C A R D) (table : MsgTable C A R D)
    (ops : List (ClientOp C A R D)) (c : ClientConnection RS PS C A R D)
    (h : runClient co table ops = some c) :
    Replays .NotConnected c.statusLog c.status ∧ ∀ w ∈ c.statusLog, w.Guarded table := by
  obtain ⟨-, ws, hl, hr, hg⟩ :=
    foldlM_rel Evolves.refl Evolves.trans (fun _ _ _ hs => apply_evolves co hs) ops _ c h
  simp only [ClientConnection.new, List.nil_append] at hl hr hg
  exact ⟨hl ▸ hr, hl ▸ hg⟩

/-- `connect`, the server's acceptance (a bare header of `MType` 1), `handle_status`. -/
def acceptRun : List (ClientOp Unit Unit Unit Unit) :=
  [.connect (.ok ⟨[], []⟩) (), .getMsgs [.ok (MsgHeader.toBeBytes ⟨1, 0, 0, 0, 0⟩)], .handleStatus]

/-- The discipline on a run that connects. -/
theorem handshake_integrity_acceptRun :
    ∃ c, runClient idle unitTable acceptRun = some c ∧ c.status = .Connected ∧
      Replays .NotConnected c.statusLog c.status ∧ ∀ w ∈ c.statusLog, w.Guarded unitTable :=
  ⟨_, rfl, rfl, handshake_integrity idle unitTable acceptRun _ rfl⟩

end Client

end CarrierPigeon
