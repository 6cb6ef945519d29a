import CarrierPigeon.Connection.AckSystem.Window
import Mathlib.Tactic.IntervalCases
import Mathlib.Data.Nat.Bitwise
/-
  CarrierPigeon.Connection.AckSystem.Saved
  ────────────────────────────────────────
  **THE SAVED RELIABLE MESSAGES: HOW ONE GETS IN, HOW ONE GETS OUT.**

  A reliable send takes a fresh `AckNum` from `outgoing_ack_num` and saves the message under
  it; an acknowledgement removes it again, either alone (`mark_outgoing`) or as one of the 32
  numbers `offset + i` of a bitfield (`mark_bitfield`).  `mark_bitfield` computes
  `offset + i` with the plain `u16` `+`, which panics when the peer's offset lies within 31
  of `2^16`; below that it removes exactly the acknowledged keys and is idempotent.

  `outgoing_ack_num` wraps: after `2^16` numbers it hands out `0` again, and `save_msg`
  then `insert`s over whatever is still saved under that number.  Each operation moves the
  counter on by the numbers it draws, so a save lands on a live key only when the counter came
  back to it, `2^16` numbers after that key's own save.  Until then a saved message leaves the
  map only by an acknowledgement or by a `ReliableNewest` save of its own `MType`.

  Main results:
    * `markBitfield_eq` — `mark_bitfield` panics exactly when a set bit overflows
      `offset + i`, and otherwise retains the keys it does not acknowledge.
    * `markBitfield_wrap_panics`, `markBitfield_idem`.
    * `apply_counter`, `runOps_counter` — the counter moves on by the numbers drawn.
    * `save_replaces_after_wrap` — the `2^16 + 1`-st send replaces the first one, which was
      never acknowledged.
    * `saved_msg_leaves_only_by_ack` — with fewer than `2^16` numbers drawn since its save, a
      message leaves only by `mark_outgoing`, `mark_bitfield` or a `ReliableNewest` save.
-/

namespace CarrierPigeon

namespace AckSystem

variable {SD : Type}

/-! ## §1. The bit test of `mark_bitfield`. -/

theorem mask_toNat {i : Nat} (hi : i < 32) :
    ((1 : UInt32) <<< (UInt16.ofNat i).toUInt32).toNat = 2 ^ i := by
  interval_cases i <;> rfl

/-- For the 32 loop indices, the code's test reads bit `i` of the bitfield. -/
theorem bitIsSet_eq_testBit {bitfield : UInt32} {i : Nat} (hi : i < 32) :
    bitIsSet bitfield i = bitfield.toNat.testBit i := by
  rw [bitIsSet, Bool.eq_iff_iff, bne_iff_ne, ne_eq, UInt32.ext_iff,
    show ∀ a b : UInt32, (a &&& b).toNat = a.toNat &&& b.toNat from
      fun a b => BitVec.toNat_and a.toBitVec b.toBitVec,
    mask_toNat hi, Nat.and_two_pow]
  cases bitfield.toNat.testBit i <;> simp

/-! ## §2. `mark_bitfield`. -/

/-- Whether `(offset, bitfield)` acknowledges `k` through one of the bit indices `is`: some
set bit `i` with `offset + i = k` (in `u16`, that is modulo `2^16`). -/
def acks (offset : AckNum) (bitfield : UInt32) (is : List Nat) (k : AckNum) : Bool :=
  is.any fun i => bitIsSet bitfield i && k == offset + UInt16.ofNat i

/-- Whether no set bit among `is` makes `offset + i` overflow. -/
def fits (offset : AckNum) (bitfield : UInt32) (is : List Nat) : Bool :=
  is.all fun i => !bitIsSet bitfield i || decide (offset.toNat + i < 2 ^ 16)

theorem foldlM_markBit (offset : AckNum) (bitfield : UInt32) (is : List Nat)
    (his : ∀ i ∈ is, i < 2 ^ 16) (s : AckSystem SD) :
    is.foldlM (markBit offset bitfield) s =
      if fits offset bitfield is then
        some { s with savedMsgs := s.savedMsgs.retain fun k => !acks offset bitfield is k }
      else none := by
  induction is generalizing s with
  | nil => simp [fits, acks, HashMap.retain_true]
  | cons i is ih =>
    have hi : (UInt16.ofNat i).toNat = i := Nat.mod_eq_of_lt (his i (List.mem_cons_self _ _))
    have ih := ih fun j hj => his j (List.mem_cons_of_mem _ hj)
    rw [List.foldlM_cons]
    by_cases hset : bitIsSet bitfield i
    · by_cases hov : offset.toNat + i < 2 ^ 16
      · have hadd : u16Add offset (UInt16.ofNat i) = some (offset + UInt16.ofNat i) :=
          u16Add_eq_some.mpr ⟨by omega, by rw [UInt16.toNat_add, hi, UInt16.size]; omega⟩
        simp only [markBit, hset, ite_true, hadd, Option.bind_eq_bind, Option.some_bind, ih,
          HashMap.remove, HashMap.retain_retain, fits, acks, List.all_cons, List.any_cons, hov]
        simp only [decide_True, Bool.not_true, Bool.false_or, Bool.true_and, Bool.not_or]
        rfl
      · have hadd : u16Add offset (UInt16.ofNat i) = none := u16Add_eq_none.mpr (by omega)
        have hov' : ¬offset.toNat + i < 65536 := hov
        simp only [markBit, hset, ite_true, hadd, Option.bind_eq_bind, Option.some_bind]
        simp [fits, hset, hov']
    · simp only [markBit, hset, Bool.false_eq_true, ite_false, Option.bind_eq_bind,
        Option.some_bind, ih, fits, acks, List.all_cons, List.any_cons]
      simp

/-- **`mark_bitfield`, exactly.**  It panics iff some set bit `i` has `offset + i ≥ 2^16`;
otherwise it removes precisely the acknowledged keys and changes nothing else. -/
theorem markBitfield_eq (offset : AckNum) (bitfield : UInt32) (s : AckSystem SD) :
    markBitfield offset bitfield s =
      if fits offset bitfield (List.range 32) then
        some { s with
          savedMsgs := s.savedMsgs.retain fun k => !acks offset bitfield (List.range 32) k }
      else none :=
  foldlM_markBit offset bitfield _ (fun i hi => by simp at hi; omega) s

/-- **A wrapping offset panics.**  The peer's `(65535, 0b10)` acknowledges `65535 + 1`,
which is `0` modulo `2^16`; the `u16` `+` of the source overflows instead, whatever is
saved. -/
theorem markBitfield_wrap_panics (s : AckSystem SD) : markBitfield 65535 2 s = none := by
  rw [markBitfield_eq, if_neg (by decide)]

/-- Applying the same `mark_bitfield` twice is applying it once. -/
theorem markBitfield_idem (offset : AckNum) (bitfield : UInt32) (s : AckSystem SD) :
    (markBitfield offset bitfield s).bind (markBitfield offset bitfield) =
      markBitfield offset bitfield s := by
  rw [markBitfield_eq]
  split
  · rw [Option.some_bind, markBitfield_eq, if_pos ‹_›]
    simp [HashMap.retain_retain]
  · rfl

/-- The membership view: an entry survives iff no set bit acknowledges its key. -/
theorem mem_markBitfield {offset : AckNum} {bitfield : UInt32} {s s' : AckSystem SD}
    (h : markBitfield offset bitfield s = some s') {e : AckNum × Saved SD} :
    e ∈ s'.savedMsgs.entries ↔
      e ∈ s.savedMsgs.entries ∧ acks offset bitfield (List.range 32) e.1 = false := by
  rw [markBitfield_eq] at h
  split at h
  · cases h; simp
  · cases h

theorem markBitfield_frame {offset : AckNum} {bitfield : UInt32} {s s' : AckSystem SD}
    (h : markBitfield offset bitfield s = some s') : s'.outgoingCounter = s.outgoingCounter := by
  rw [markBitfield_eq] at h
  split at h
  · cases h; rfl
  · cases h

/-! ## §3. `save_msg`. -/

theorem existingAck_spec {m : HashMap AckNum (Saved SD)} {t : MType} {a : AckNum}
    (h : existingAck m t = some a) : ∃ v, (a, v) ∈ m.entries ∧ v.header.mType = t := by
  obtain ⟨⟨a', v⟩, hfind, rfl⟩ := Option.map_eq_some'.mp h
  exact ⟨v, List.mem_of_find?_eq_some hfind, by simpa using List.find?_some hfind⟩

/-- **What `save_msg` keeps**: every entry not under the new key, except the
`ReliableNewest` predecessor of the same `MType`. -/
theorem mem_saveMsg_of_mem {h : MsgHeader} {g : Guarantees} {d : SD} {now : Nat}
    {s : AckSystem SD} {e : AckNum × Saved SD} (he : e ∈ s.savedMsgs.entries)
    (hk : e.1 ≠ h.senderAckNum) (hn : g = .ReliableNewest → e.2.header.mType ≠ h.mType) :
    e ∈ (saveMsg h g d now s).savedMsgs.entries := by
  unfold saveMsg
  split
  · exact he
  · refine HashMap.mem_insert.mpr (.inl ⟨?_, hk⟩)
    split
    · rename_i hg
      split
      · rename_i a ha
        obtain ⟨v, hv, hm⟩ := existingAck_spec ha
        refine HashMap.mem_remove.mpr ⟨he, fun hea => hn hg ?_⟩
        obtain ⟨k, w⟩ := e
        simp only at hea; subst hea
        rw [HashMap.eq_of_mem_of_mem he hv, hm]
      · exact he
    · exact he

/-- `save_msg` adds at most the message it saves. -/
theorem mem_saveMsg {h : MsgHeader} {g : Guarantees} {d : SD} {now : Nat} {s : AckSystem SD}
    {e : AckNum × Saved SD} (he : e ∈ (saveMsg h g d now s).savedMsgs.entries) :
    e ∈ s.savedMsgs.entries ∨ e = (h.senderAckNum, ⟨now, h, d⟩) := by
  unfold saveMsg at he
  split at he
  · exact .inl he
  · rcases HashMap.mem_insert.mp he with ⟨he, -⟩ | he
    · refine .inl ?_
      split at he
      · split at he
        · exact (HashMap.mem_remove.mp he).1
        · exact he
      · exact he
    · exact .inr he

/-- `save_msg` adds at most the new key. -/
theorem keys_saveMsg {h : MsgHeader} {g : Guarantees} {d : SD} {now : Nat} {s : AckSystem SD}
    {k : AckNum} (hk : k ∈ (saveMsg h g d now s).savedMsgs.keys) :
    k ∈ s.savedMsgs.keys ∨ k = h.senderAckNum :=
  let ⟨v, hv⟩ := HashMap.mem_keys.mp hk
  (mem_saveMsg hv).imp (fun h => HashMap.mem_keys.mpr ⟨v, h⟩) fun h => (Prod.mk.inj h).1

@[simp] theorem saveMsg_counter (h : MsgHeader) (g : Guarantees) (d : SD) (now : Nat)
    (s : AckSystem SD) : (saveMsg h g d now s).outgoingCounter = s.outgoingCounter := by
  unfold saveMsg; split <;> rfl

theorem ackMsgInfo_frame {s s' : AckSystem SD} {p : List AckBitfields × List AckNum}
    (h : ackMsgInfo s = some (s', p)) :
    s'.outgoingCounter = s.outgoingCounter ∧ s'.savedMsgs = s.savedMsgs := by
  simp only [ackMsgInfo, Option.bind_eq_bind, Option.bind_eq_some, Option.some.injEq,
    Prod.mk.injEq] at h
  obtain ⟨_, -, rfl, -⟩ := h
  exact ⟨rfl, rfl⟩

/-! ## §4. Runs of `AckSystem` operations. -/

/-- One call on an `AckSystem`, with its arguments.  `send` is `outgoing_ack_num` followed by
`save_msg` of a header that carries the number just obtained. -/
inductive AckOp (SD : Type) where
  | send (mType : MType) (orderNum : OrderNum) (receiverAckingOffset : AckNum) (ackBits : UInt32)
      (data : SD) (now : Nat)
  | outgoingAckNum
  | markOutgoing (num : AckNum)
  | markBitfield (offset : AckNum) (bitfield : UInt32)
  | getResend (now : Nat)
  | markReceived (num : AckNum)
  | nextHeader
  | ackMsgInfo

/-- Performs one operation; every `MType` is saved with its guarantees `gs mType`. -/
def AckOp.apply (gs : MType → Guarantees) (s : AckSystem SD) : AckOp SD → Option (AckSystem SD)
  | .send mType orderNum off bits data now =>
    let (s, ack) := s.outgoingAckNum
    some (s.saveMsg ⟨mType, orderNum, ack, off, bits⟩ (gs mType) data now)
  | .outgoingAckNum => some s.outgoingAckNum.1
  | .markOutgoing num => some (s.markOutgoing num)
  | .markBitfield offset bitfield => s.markBitfield offset bitfield
  | .getResend now => some (s.getResend now).1
  | .markReceived num => s.markReceived num
  | .nextHeader => s.nextHeader.map Prod.fst
  | .ackMsgInfo => s.ackMsgInfo.map Prod.fst

/-- How many `AckNum`s an operation hands out. -/
def AckOp.issues : AckOp SD → Nat
  | .send .. | .outgoingAckNum => 1
  | _ => 0

/-- A run: the operations one after the other, stopping at the first panic. -/
def runOps (gs : MType → Guarantees) (s : AckSystem SD) (ops : List (AckOp SD)) :
    Option (AckSystem SD) :=
  ops.foldlM (fun s op => op.apply gs s) s

/-- The number of `AckNum`s a run hands out. -/
def issued (ops : List (AckOp SD)) : Nat := (ops.map AckOp.issues).sum

/-- The saved message `(k, h, d)` is in the map, whatever its timestamp. -/
def Holds (s : AckSystem SD) (k : AckNum) (h : MsgHeader) (d : SD) : Prop :=
  ∃ t, (k, ⟨t, h, d⟩) ∈ s.savedMsgs.entries

/-- The ways the saved message `(k, h)` may leave the map: `mark_outgoing(k)`, a
`mark_bitfield` that acknowledges `k`, or a later `ReliableNewest` save of `h`'s `MType`. -/
def Retires (gs : MType → Guarantees) (k : AckNum) (h : MsgHeader) : AckOp SD → Prop
  | .markOutgoing num => num = k
  | .markBitfield offset bitfield => acks offset bitfield (List.range 32) k = true
  | .send mType .. => gs mType = .ReliableNewest ∧ mType = h.mType
  | _ => False

/-- **Each operation moves `outgoing_counter` on by the numbers it hands out**, modulo `2^16`:
the two that draw a number add one, the others leave it alone. -/
theorem apply_counter {gs : MType → Guarantees} {s s' : AckSystem SD} {op : AckOp SD}
    (hop : op.apply gs s = some s') :
    s'.outgoingCounter.toNat = (s.outgoingCounter.toNat + op.issues) % 2 ^ 16 := by
  have hlt : s.outgoingCounter.toNat < 2 ^ 16 := s.outgoingCounter.toNat_lt
  have frame (hc : s'.outgoingCounter = s.outgoingCounter) (hi : op.issues = 0) :
      s'.outgoingCounter.toNat = (s.outgoingCounter.toNat + op.issues) % 2 ^ 16 := by
    rw [hc, hi]; omega
  have draw (hc : s'.outgoingCounter = s.outgoingCounter + 1) (hi : op.issues = 1) :
      s'.outgoingCounter.toNat = (s.outgoingCounter.toNat + op.issues) % 2 ^ 16 := by
    rw [hc, hi, UInt16.toNat_add]; rfl
  cases op with
  | send mType orderNum off bits data now =>
    cases hop; exact draw (by simp) rfl
  | outgoingAckNum => cases hop; exact draw rfl rfl
  | markOutgoing num => cases hop; exact frame rfl rfl
  | markBitfield offset bitfield => exact frame (markBitfield_frame hop) rfl
  | getResend now => cases hop; exact frame rfl rfl
  | markReceived num => exact frame (markReceived_frame hop).1 rfl
  | nextHeader =>
    obtain ⟨⟨t, p⟩, hnh, rfl⟩ := Option.map_eq_some'.mp hop
    exact frame (nextHeader_frame hnh).1 rfl
  | ackMsgInfo =>
    obtain ⟨⟨t, p⟩, hnh, rfl⟩ := Option.map_eq_some'.mp hop
    exact frame (ackMsgInfo_frame hnh).1 rfl

/-- Along a run, `outgoing_counter` moves on by the numbers the run hands out. -/
theorem runOps_counter {gs : MType → Guarantees} {ops : List (AckOp SD)} {s s' : AckSystem SD}
    (hrun : runOps gs s ops = some s') :
    s'.outgoingCounter.toNat = (s.outgoingCounter.toNat + issued ops) % 2 ^ 16 := by
  induction ops generalizing s with
  | nil =>
    have hlt : s.outgoingCounter.toNat < 2 ^ 16 := s.outgoingCounter.toNat_lt
    cases hrun
    simp only [issued, List.map_nil, List.sum_nil]; omega
  | cons op ops ih =>
    simp only [runOps, List.foldlM_cons, Option.bind_eq_bind, Option.bind_eq_some] at hrun
    obtain ⟨t, ht, hrun⟩ := hrun
    rw [ih hrun, apply_counter ht]
    simp only [issued, List.map_cons, List.sum_cons]
    omega

/-- **One operation** removes a held message `(k, h)` only as `Retires` says, as long as the
counter does not stand at `k`: a send that drew `k` itself would `insert` over it. -/
theorem apply_retires {gs : MType → Guarantees} {s s' : AckSystem SD} {op : AckOp SD}
    {k : AckNum} {h : MsgHeader} {d : SD} (hk : Holds s k h d) (hne : s.outgoingCounter ≠ k)
    (hstep : op.apply gs s = some s') (hgone : ¬ Holds s' k h d) : Retires gs k h op := by
  obtain ⟨t, ht⟩ := hk
  cases op with
  | send mType orderNum off bits data now =>
    cases hstep
    by_contra hr
    exact hgone ⟨t, mem_saveMsg_of_mem ht (Ne.symm hne) fun hg hm => hr ⟨hg, hm.symm⟩⟩
  | markOutgoing num =>
    cases hstep
    by_contra hr
    exact hgone ⟨t, HashMap.mem_remove.mpr ⟨ht, Ne.symm hr⟩⟩
  | markBitfield offset bitfield =>
    by_contra hr
    exact hgone ⟨t, (mem_markBitfield hstep).mpr ⟨ht, by simpa [Retires] using hr⟩⟩
  | getResend now =>
    cases hstep
    refine (hgone ⟨if due now t then now else t, HashMap.mem_mapVal.mpr ⟨_, ht, ?_⟩⟩).elim
    simp only; split <;> rfl
  | outgoingAckNum => cases hstep; exact (hgone ⟨t, ht⟩).elim
  | markReceived num =>
    exact (hgone ⟨t, (markReceived_frame hstep).2.1 ▸ ht⟩).elim
  | nextHeader =>
    obtain ⟨⟨u, p⟩, hnh, rfl⟩ := Option.map_eq_some'.mp hstep
    exact (hgone ⟨t, (nextHeader_frame hnh).2.1 ▸ ht⟩).elim
  | ackMsgInfo =>
    obtain ⟨⟨u, p⟩, hnh, rfl⟩ := Option.map_eq_some'.mp hstep
    exact (hgone ⟨t, (ackMsgInfo_frame hnh).2 ▸ ht⟩).elim

/-! ## §5. The counter wraps. -/

theorem runOps_outgoingAckNum (gs : MType → Guarantees) (n : Nat) (s : AckSystem SD) :
    runOps gs s (List.replicate n .outgoingAckNum) =
      some { s with outgoingCounter := s.outgoingCounter + UInt16.ofNat n } := by
  induction n generalizing s with
  | zero =>
    have hc : s.outgoingCounter + UInt16.ofNat 0 = s.outgoingCounter :=
      UInt16.ext (by simp [UInt16.toNat_add, Nat.mod_eq_of_lt s.outgoingCounter.toNat_lt])
    rw [hc]; rfl
  | succ n ih =>
    have hc : s.outgoingCounter + 1 + UInt16.ofNat n = s.outgoingCounter + UInt16.ofNat (n + 1) :=
      UInt16.ext (by
        simp only [UInt16.toNat_add, uint16_toNat_ofNat, UInt16.toNat_ofNat, UInt16.size]; omega)
    simp only [runOps] at ih ⊢
    rw [List.replicate_succ, List.foldlM_cons, show AckOp.apply gs s .outgoingAckNum =
      some { s with outgoingCounter := s.outgoingCounter + 1 } from rfl, Option.bind_eq_bind,
      Option.some_bind, ih]
    simp only [hc]

/-- The state after the first send of `save_replaces_after_wrap`, once the counter wrapped. -/
def wrappedOnce : AckSystem Unit :=
  { (new : AckSystem Unit) with savedMsgs := HashMap.empty.insert 0 ⟨0, ⟨7, 0, 0, 0, 0⟩, ()⟩ }

/-- **After `2^16` numbers, a save replaces an unacknowledged message.**  Save a `Reliable`
message under `AckNum` 0, draw the other `65535` numbers, and send again: the counter is back
at 0 and `save_msg` inserts over the first message, which was never acknowledged. -/
theorem save_replaces_after_wrap :
    ∃ s s', runOps (fun _ => .Reliable) new
        (.send 7 0 0 0 () 0 :: List.replicate 65535 .outgoingAckNum) = some s ∧
      (AckOp.send 7 1 0 0 () 0).apply (fun _ => .Reliable) s = some s' ∧
      Holds s 0 ⟨7, 0, 0, 0, 0⟩ () ∧ ¬ Holds s' 0 ⟨7, 0, 0, 0, 0⟩ () ∧
      ¬ Retires (fun _ => .Reliable) 0 ⟨7, 0, 0, 0, 0⟩ (AckOp.send 7 1 0 0 () 0) := by
  refine ⟨wrappedOnce, { wrappedOnce with
    outgoingCounter := 1
    savedMsgs := wrappedOnce.savedMsgs.insert 0 ⟨0, ⟨7, 1, 0, 0, 0⟩, ()⟩ }, ?_, rfl, ?_, ?_, ?_⟩
  · simp only [runOps, List.foldlM_cons]
    rw [show AckOp.apply (fun _ => .Reliable) new (.send 7 0 0 0 () 0) =
      some { wrappedOnce with outgoingCounter := 1 } from rfl, Option.bind_eq_bind,
      Option.some_bind]
    rw [← runOps, runOps_outgoingAckNum]
    rfl
  · exact ⟨0, by simp [wrappedOnce, HashMap.insert, HashMap.remove, HashMap.retain]⟩
  · rintro ⟨t, ht⟩
    simp [wrappedOnce, HashMap.insert, HashMap.remove, HashMap.retain] at ht
  · simp [Retires]

/-! ## §6. Within `2^16` numbers of its save, a message leaves only by an acknowledgement. -/

/-- **A saved message leaves only by an acknowledgement or by supersession**, as long as fewer
than `2^16` `AckNum`s were handed out since its save.  From any state, a send draws `k` and
saves its message under it; after any run that follows, an operation that removes the message
is `mark_outgoing(k)`, a `mark_bitfield` that acknowledges `k`, or a `ReliableNewest` save of
the same `MType`.  The bound counts from the save, its own number included: the counter is back
at `k` after `2^16` numbers, and a save under it replaces the message. -/
theorem saved_msg_leaves_only_by_ack (gs : MType → Guarantees) (s₀ : AckSystem SD)
    (mType : MType) (orderNum : OrderNum) (off : AckNum) (bits : UInt32) (d : SD) (now : Nat)
    (ops : List (AckOp SD)) (op : AckOp SD) (s s' : AckSystem SD)
    (hrun : runOps gs s₀ (.send mType orderNum off bits d now :: ops) = some s)
    (hstep : op.apply gs s = some s')
    (hfew : issued (AckOp.send mType orderNum off bits d now :: ops) < 2 ^ 16)
    (hk : Holds s s₀.outgoingCounter ⟨mType, orderNum, s₀.outgoingCounter, off, bits⟩ d)
    (hgone : ¬ Holds s' s₀.outgoingCounter ⟨mType, orderNum, s₀.outgoingCounter, off, bits⟩ d) :
    Retires gs s₀.outgoingCounter ⟨mType, orderNum, s₀.outgoingCounter, off, bits⟩ op := by
  -- since the save the counter moved on by `1 ≤ n < 2^16` numbers, so it is not back at `k`
  refine apply_retires hk (fun heq => ?_) hstep hgone
  have hc := runOps_counter hrun
  have hlt : s₀.outgoingCounter.toNat < 2 ^ 16 := s₀.outgoingCounter.toNat_lt
  have hpos : 1 ≤ issued (AckOp.send mType orderNum off bits d now :: ops) := by
    simp [issued, AckOp.issues]
  rw [heq] at hc
  omega

/-- The law at a run of one send acknowledged by `mark_outgoing(0)`. -/
theorem saved_msg_leaves_only_by_ack_instance :
    runOps (fun _ => .Reliable) new [.send 7 0 0 0 () 0] =
        some { wrappedOnce with outgoingCounter := 1 } ∧
      (AckOp.markOutgoing 0).apply (fun _ => .Reliable) { wrappedOnce with outgoingCounter := 1 } =
        some (markOutgoing 0 { wrappedOnce with outgoingCounter := 1 }) ∧
      issued [AckOp.send 7 0 0 0 () 0] < 2 ^ 16 ∧
      Holds { wrappedOnce with outgoingCounter := 1 } 0 ⟨7, 0, 0, 0, 0⟩ () ∧
      ¬ Holds (markOutgoing 0 { wrappedOnce with outgoingCounter := 1 }) 0 ⟨7, 0, 0, 0, 0⟩ () ∧
      Retires (fun _ => .Reliable) 0 ⟨7, 0, 0, 0, 0⟩ (AckOp.markOutgoing 0 : AckOp Unit) := by
  have hrun : runOps (fun _ => .Reliable) new [.send 7 0 0 0 () 0] =
      some { wrappedOnce with outgoingCounter := 1 } := rfl
  have hk : Holds { wrappedOnce with outgoingCounter := 1 } 0 ⟨7, 0, 0, 0, 0⟩ () :=
    ⟨0, by simp [wrappedOnce, HashMap.insert, HashMap.remove, HashMap.retain]⟩
  have hgone : ¬ Holds (markOutgoing 0 { wrappedOnce with outgoingCounter := 1 }) 0
      ⟨7, 0, 0, 0, 0⟩ () := by
    rintro ⟨t, ht⟩
    simp [markOutgoing, wrappedOnce, HashMap.insert, HashMap.remove, HashMap.retain] at ht
  exact ⟨hrun, rfl, by decide, hk, hgone,
    saved_msg_leaves_only_by_ack _ new 7 0 0 0 () 0 [] (.markOutgoing 0) _ _ hrun rfl
      (by decide) hk hgone⟩

end AckSystem

end CarrierPigeon
