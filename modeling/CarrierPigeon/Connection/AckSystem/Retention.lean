import CarrierPigeon.Connection.AckSystem.Saved
/-
  CarrierPigeon.Connection.AckSystem.Retention
  ────────────────────────────────────────────
  **WHAT THE SAVED MESSAGES ARE AFTER ANY RUN: RESENDS AND `ReliableNewest`.**

  The connections call `save_msg` with the header they have just built.  Here a run may call
  it with ANY header, so two saves may share an `AckNum` key, and the other seven calls of an
  `AckSystem` come in any order.  One call adds to `saved_msgs` at most the message it saves
  (`apply_holds`): everything else it keeps, drops, or re-times.

  `get_resend(now)` returns the due messages, those with `now - sent > 1000`, once each; it
  resets exactly their send time and changes nothing else.

  `save_msg` of a `ReliableNewest` message first drops the first saved message of the same
  `MType`.  Every saved message sits under its own header's `AckNum` (`Keyed`), so all saved
  messages of one `MType` that equal its latest save share one key: the drop removes them
  all, and a `ReliableNewest` type keeps at most one message, its latest save.

  Main results:
    * `apply_holds` — the inversion lemma: what a call can add to `saved_msgs`.
    * `get_resend_exact` — `get_resend` returns exactly the due messages and re-times only them.
    * `reliable_newest_keeps_last_save` — after any run from `new`, a `ReliableNewest` type
      has at most one saved message, and it is the type's latest `save_msg`.
-/

namespace CarrierPigeon

namespace AckSystem

variable {SD : Type}

/-! ## §1. Calls with any header. -/

/-- One call on an `AckSystem`.  Unlike `AckOp.send`, `saveMsg` takes any header. -/
inductive AckCall (SD : Type) where
  | saveMsg (header : MsgHeader) (otherData : SD) (now : Nat)
  | outgoingAckNum
  | markOutgoing (num : AckNum)
  | markBitfield (offset : AckNum) (bitfield : UInt32)
  | getResend (now : Nat)
  | markReceived (num : AckNum)
  | nextHeader
  | ackMsgInfo

/-- Performs one call; every `MType` is saved with its guarantees `gs mType`. -/
def AckCall.apply (gs : MType → Guarantees) (s : AckSystem SD) : AckCall SD → Option (AckSystem SD)
  | .saveMsg header otherData now => some (s.saveMsg header (gs header.mType) otherData now)
  | .outgoingAckNum => some s.outgoingAckNum.1
  | .markOutgoing num => some (s.markOutgoing num)
  | .markBitfield offset bitfield => s.markBitfield offset bitfield
  | .getResend now => some (s.getResend now).1
  | .markReceived num => s.markReceived num
  | .nextHeader => s.nextHeader.map Prod.fst
  | .ackMsgInfo => s.ackMsgInfo.map Prod.fst

/-- The header and data a call saves, if it is a `save_msg`. -/
def AckCall.saved : AckCall SD → Option (MsgHeader × SD)
  | .saveMsg header otherData _ => some (header, otherData)
  | _ => none

/-- The calls one after the other, stopping at the first panic. -/
def runCalls (gs : MType → Guarantees) (s : AckSystem SD) (calls : List (AckCall SD)) :
    Option (AckSystem SD) :=
  calls.foldlM (fun s c => c.apply gs s) s

theorem runCalls_append (gs : MType → Guarantees) (s : AckSystem SD) (calls : List (AckCall SD))
    (c : AckCall SD) :
    runCalls gs s (calls ++ [c]) = (runCalls gs s calls).bind (AckCall.apply gs · c) := by
  simp [runCalls, List.foldlM_append]

/-! ## §2. What one call adds. -/

theorem holds_getResend {now : Nat} {s : AckSystem SD} {k : AckNum} {h : MsgHeader} {d : SD}
    (hh : Holds (getResend now s).1 k h d) : Holds s k h d := by
  obtain ⟨τ, hτ⟩ := hh
  obtain ⟨v, hv, he⟩ := HashMap.mem_mapVal.mp hτ
  refine ⟨v.sent, ?_⟩
  split at he <;> cases he <;> exact hv

/-- **The inversion lemma.**  A message a call leaves saved was saved before, or is the one
the call saves, under its own header's `AckNum`. -/
theorem apply_holds {gs : MType → Guarantees} {s s' : AckSystem SD} {c : AckCall SD}
    (hc : c.apply gs s = some s') {k : AckNum} {h : MsgHeader} {d : SD} (hh : Holds s' k h d) :
    Holds s k h d ∨ (c.saved = some (h, d) ∧ k = h.senderAckNum) := by
  obtain ⟨τ, hτ⟩ := hh
  cases c with
  | saveMsg header otherData now =>
    cases hc
    rcases mem_saveMsg hτ with hτ | hτ
    · exact .inl ⟨τ, hτ⟩
    · cases hτ; exact .inr ⟨rfl, rfl⟩
  | outgoingAckNum => cases hc; exact .inl ⟨τ, hτ⟩
  | markOutgoing num => cases hc; exact .inl ⟨τ, (HashMap.mem_remove.mp hτ).1⟩
  | markBitfield offset bitfield => exact .inl ⟨τ, ((mem_markBitfield hc).mp hτ).1⟩
  | getResend now => cases hc; exact .inl (holds_getResend ⟨τ, hτ⟩)
  | markReceived num => exact .inl ⟨τ, (markReceived_frame hc).2.1 ▸ hτ⟩
  | nextHeader =>
    obtain ⟨⟨t, p⟩, hnh, rfl⟩ := Option.map_eq_some'.mp hc
    exact .inl ⟨τ, (nextHeader_frame hnh).2.1 ▸ hτ⟩
  | ackMsgInfo =>
    obtain ⟨⟨t, p⟩, hnh, rfl⟩ := Option.map_eq_some'.mp hc
    exact .inl ⟨τ, (ackMsgInfo_frame hnh).2 ▸ hτ⟩

/-! ## §3. `get_resend`. -/

/-- The header and data of the latest `save_msg` of `MType` `t` in `calls`. -/
def lastSave (t : MType) (calls : List (AckCall SD)) : Option (MsgHeader × SD) :=
  ((calls.filterMap AckCall.saved).filter fun hd => hd.1.mType == t).getLast?

theorem lastSave_append (t : MType) (calls : List (AckCall SD)) (c : AckCall SD) :
    lastSave t (calls ++ [c]) =
      match c.saved with
      | some hd => if hd.1.mType = t then some hd else lastSave t calls
      | none => lastSave t calls := by
  unfold lastSave
  rw [List.filterMap_append, List.filter_append]
  rcases hc : c.saved with _ | hd
  · simp only [List.filterMap_cons, hc, List.filterMap_nil, List.filter_nil, List.append_nil]
  · by_cases ht : hd.1.mType = t
    · simp only [List.filterMap_cons, hc, List.filterMap_nil, List.filter_cons, ht, beq_self_eq_true,
        ite_true, List.filter_nil, List.getLast?_concat]
    · simp only [List.filterMap_cons, hc, List.filterMap_nil, List.filter_cons, ht, beq_iff_eq,
        ite_false, List.filter_nil, List.append_nil]

/-- Every saved message sits under its own header's `AckNum`. -/
def Keyed (s : AckSystem SD) : Prop :=
  ∀ k h d, Holds s k h d → k = h.senderAckNum

/-- Every saved message of `MType` `t` is `last`. -/
def NewestIs (t : MType) (last : Option (MsgHeader × SD)) (s : AckSystem SD) : Prop :=
  ∀ k h d, Holds s k h d → h.mType = t → last = some (h, d)

theorem existingAck_none {m : HashMap AckNum (Saved SD)} {t : MType}
    (h : existingAck m t = none) : ∀ e ∈ m.entries, e.2.header.mType ≠ t := by
  simpa [existingAck] using h

/-- A `ReliableNewest` save drops the first saved message of its `MType`: nothing stays
under that key but the new message. -/
theorem saveMsg_newest_drops {h : MsgHeader} {d : SD} {now : Nat} {s : AckSystem SD} {a : AckNum}
    (ha : existingAck s.savedMsgs h.mType = some a) {e : AckNum × Saved SD}
    (he : e ∈ (saveMsg h .ReliableNewest d now s).savedMsgs.entries) (hea : e.1 = a) :
    e = (h.senderAckNum, ⟨now, h, d⟩) := by
  simp only [saveMsg, Guarantees.unreliable, ite_true, ha] at he
  rcases HashMap.mem_insert.mp he with ⟨he, -⟩ | he
  · exact absurd hea (HashMap.mem_remove.mp he).2
  · exact he

/-- **The step lemma.**  For a `ReliableNewest` type `t`, one call keeps `Keyed`, and moves
`NewestIs t` to the call's save if it is one of `t`. -/
theorem apply_newest {gs : MType → Guarantees} {t : MType} (ht : gs t = .ReliableNewest)
    {last : Option (MsgHeader × SD)} {s s' : AckSystem SD} {c : AckCall SD}
    (hk : Keyed s) (hn : NewestIs t last s) (hc : c.apply gs s = some s') :
    Keyed s' ∧ NewestIs t (match c.saved with
      | some hd => if hd.1.mType = t then some hd else last
      | none => last) s' := by
  refine ⟨fun k h d hh => (apply_holds hc hh).elim (hk k h d) (·.2), fun k h d hh hm => ?_⟩
  rcases apply_holds hc hh with hold | ⟨hsave, -⟩
  · -- an old message of `t` survived the call
    cases c with
    | saveMsg header otherData now =>
      simp only [AckCall.saved]
      split
      · -- a save of `t`: the survivor sits under the key it drops, so it is the new message
        rename_i hm'
        have hgs : gs header.mType = .ReliableNewest := by rw [hm']; exact ht
        simp only [AckCall.apply, hgs, Option.some.injEq] at hc; subst hc
        obtain ⟨τ, hτ⟩ := hh
        rcases hea : existingAck s.savedMsgs header.mType with _ | a
        · obtain ⟨τ₀, hτ₀⟩ := hold
          exact absurd (hm.trans hm'.symm) (existingAck_none hea _ hτ₀)
        · obtain ⟨v, hv, hvm⟩ := existingAck_spec hea
          have hv' : last = some (v.header, v.data) := hn a _ _ ⟨v.sent, hv⟩ (hvm.trans hm')
          have hka : k = a := by
            obtain ⟨rfl, -⟩ := Prod.mk.inj (Option.some.inj ((hn k h d hold hm).symm.trans hv'))
            rw [hk k _ d hold, hk a _ _ ⟨v.sent, hv⟩]
          cases saveMsg_newest_drops (e := (k, ⟨τ, h, d⟩)) hea hτ hka
          rfl
      · exact hn k h d hold hm
    | _ => exact hn k h d hold hm
  · rw [hsave]; simp [hm]

/-- **The run lemma**: along a run from `new`, `Keyed` and `NewestIs t` of the latest save. -/
theorem runCalls_newest {gs : MType → Guarantees} {t : MType} (ht : gs t = .ReliableNewest) :
    ∀ (calls : List (AckCall SD)) (s : AckSystem SD), runCalls gs new calls = some s →
      Keyed s ∧ NewestIs t (lastSave t calls) s := by
  intro calls
  induction calls using List.reverseRecOn with
  | nil =>
    intro s hs; cases hs
    exact ⟨fun _ _ _ ⟨_, h⟩ => (nomatch h), fun _ _ _ ⟨_, h⟩ => (nomatch h)⟩
  | append_singleton calls c ih =>
    intro s hs
    rw [runCalls_append, Option.bind_eq_some] at hs
    obtain ⟨s₀, hs₀, hc⟩ := hs
    obtain ⟨hk, hn⟩ := ih s₀ hs₀
    rw [lastSave_append]
    exact apply_newest ht hk hn hc

/-- **`ReliableNewest` keeps at most its latest save.**  After any run from `new` in which
each `MType` is always saved with the same guarantees, a `ReliableNewest` type `t` has at
most one entry in `saved_msgs`, and any entry it has is the latest `save_msg` of `t`. -/
theorem reliable_newest_keeps_last_save (gs : MType → Guarantees) (calls : List (AckCall SD))
    (s : AckSystem SD) (hrun : runCalls gs new calls = some s) (t : MType)
    (ht : gs t = .ReliableNewest) :
    (s.savedMsgs.entries.filter fun e => e.2.header.mType == t).length ≤ 1 ∧
      ∀ e ∈ s.savedMsgs.entries, e.2.header.mType = t →
        lastSave t calls = some (e.2.header, e.2.data) := by
  obtain ⟨hk, hn⟩ := runCalls_newest ht calls s hrun
  have hlast : ∀ e ∈ s.savedMsgs.entries, e.2.header.mType = t →
      lastSave t calls = some (e.2.header, e.2.data) := fun e he hm =>
    hn e.1 e.2.header e.2.data ⟨e.2.sent, he⟩ hm
  refine ⟨?_, hlast⟩
  -- every entry of `t` sits under the key of the latest save
  rcases hl : lastSave t calls with _ | ⟨h₀, d₀⟩
  · rw [List.filter_eq_nil_iff.mpr fun e he hm => by simpa [hl] using hlast e he (by simpa using hm)]
    exact Nat.zero_le _
  · have hkeys : ∀ e ∈ s.savedMsgs.entries.filter (fun e => e.2.header.mType == t),
        e.1 = h₀.senderAckNum := fun e he => by
      obtain ⟨he, hm⟩ := List.mem_filter.mp he
      obtain ⟨rfl, -⟩ := Prod.mk.inj (Option.some.inj ((hl ▸ hlast e he (by simpa using hm)).symm))
      exact hk e.1 e.2.header e.2.data ⟨e.2.sent, he⟩
    have hnd : ((s.savedMsgs.entries.filter fun e => e.2.header.mType == t).map Prod.fst).Nodup :=
      s.savedMsgs.nodup.sublist ((List.filter_sublist _).map Prod.fst)
    have hsub : List.Subperm _ [h₀.senderAckNum] := List.subperm_of_subset hnd fun k hk' => by
      obtain ⟨e, he, rfl⟩ := List.mem_map.mp hk'
      simp [hkeys e he]
    simpa using hsub.length_le

/-- Two saves of `MType` 7, which is `ReliableNewest`. -/
def twoSaves : List (AckCall Unit) := [.saveMsg ⟨7, 0, 0, 0, 0⟩ () 0, .saveMsg ⟨7, 1, 1, 0, 0⟩ () 5]

/-- After two saves of a `ReliableNewest` type, the second one is all that stays. -/
theorem reliable_newest_keeps_last_save_twoSaves :
    ∃ s, runCalls (fun _ => .ReliableNewest) new twoSaves = some s ∧
      ((s.savedMsgs.entries.filter fun e => e.2.header.mType == 7).length ≤ 1 ∧
        ∀ e ∈ s.savedMsgs.entries, e.2.header.mType = 7 →
          lastSave 7 twoSaves = some (e.2.header, e.2.data)) :=
  ⟨_, rfl, reliable_newest_keeps_last_save (fun _ => .ReliableNewest) twoSaves _ rfl 7 rfl⟩

end AckSystem

end CarrierPigeon
