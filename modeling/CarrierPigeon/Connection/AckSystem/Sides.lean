import CarrierPigeon.Connection.AckSystem.Shape
/-
  CarrierPigeon.Connection.AckSystem.Sides
  ────────────────────────────────────────
  **THE SENDING AND THE RECEIVING SIDE ARE INDEPENDENT.**

  `AckSystem` holds two machines in one struct.  The sending side is `outgoing_counter` and
  `saved_msgs`: `save_msg`, `outgoing_ack_num`, `mark_outgoing`, `mark_bitfield` and
  `get_resend` read and write only these.  The receiving side is `ack_offset`, `current_idx`,
  `ack_bitfields` and `residual`: `mark_received`, `next_header` and `ack_msg_info` read and
  write only those.  So a sending call commutes with a receiving call, panics included, and
  every run of calls gives what its sending calls give, followed by its receiving calls: the
  order in which a connection interleaves the traffic of the two sides never changes the
  result.

  Main results:
    * `mix_sending`, `mix_receiving` — each call on a state spliced from two.
    * `apply_comm` — a sending call and a receiving call commute.
    * `runCalls_sides` — every run is its sending calls, then its receiving calls.
-/

namespace CarrierPigeon

namespace AckSystem

variable {SD : Type}

/-! ## §1. The two halves of the state. -/

/-- The state with the sending side of `snd` and the receiving side of `rcv`. -/
def mix (snd rcv : AckSystem SD) : AckSystem SD :=
  { snd with ackOffset := rcv.ackOffset, currentIdx := rcv.currentIdx, ackBitfields := rcv.ackBitfields, residual := rcv.residual }

@[simp] theorem mix_self (s : AckSystem SD) : mix s s = s := rfl

/-- Whether a call belongs to the sending side. -/
def AckCall.sending : AckCall SD → Bool
  | .saveMsg .. | .outgoingAckNum | .markOutgoing _ | .markBitfield .. | .getResend _ => true
  | .markReceived _ | .nextHeader | .ackMsgInfo => false

/-- A `foldlM` whose step commutes with `g` commutes with `g`. -/
theorem foldlM_map_comm {α β : Type} {f : α → β → Option α} {g : α → α}
    (hf : ∀ a b, f (g a) b = (f a b).map g) :
    ∀ (l : List β) (a : α), l.foldlM f (g a) = (l.foldlM f a).map g
  | [], _ => rfl
  | b :: l, a => by
    simp only [List.foldlM_cons, hf, Option.bind_eq_bind, Option.bind_map, Option.map_bind]
    exact congrArg _ (funext fun a' => foldlM_map_comm hf l a')

/-! ## §2. The sending side reads and writes only its half. -/

theorem markBitfield_mix (offset : AckNum) (bitfield : UInt32) (s t : AckSystem SD) :
    markBitfield offset bitfield (mix s t) = (markBitfield offset bitfield s).map (mix · t) := by
  unfold markBitfield
  refine foldlM_map_comm (g := fun x => mix x t) (fun a i => ?_) _ s
  unfold markBit
  split
  · simp only [Option.bind_eq_bind, Option.map_bind, Function.comp_def, Option.map_some']; rfl
  · rfl

theorem saveMsg_mix (header : MsgHeader) (g : Guarantees) (d : SD) (now : Nat)
    (s t : AckSystem SD) : (mix s t).saveMsg header g d now = mix (s.saveMsg header g d now) t := by
  unfold saveMsg
  split <;> rfl

theorem mix_sending (gs : MType → Guarantees) {c : AckCall SD} (hc : c.sending = true)
    (s t : AckSystem SD) : c.apply gs (mix s t) = (c.apply gs s).map (mix · t) := by
  cases c <;> simp only [AckCall.sending, reduceCtorEq] at hc <;>
    simp only [AckCall.apply, saveMsg_mix, markBitfield_mix, Option.map_some'] <;> rfl

/-! ## §3. The receiving side reads and writes only its half. -/

theorem shiftWindow_mix (s t : AckSystem SD) (top : AckNum) :
    shiftWindow (mix t s) top = (shiftWindow s top).map (mix t ·) := by
  simp only [shiftWindow, Option.bind_eq_bind, Option.map_bind, Function.comp_def, Option.map_some']
  rfl

theorem slide_mix (num : AckNum) (s t : AckSystem SD) :
    slide num (mix t s) = (slide num s).map (mix t ·) := by
  induction s using slide.induct num with
  | case1 s hov => rw [slide_of_overflow hov, slide_of_overflow (s := mix t s) hov]; rfl
  | case2 s top hov hle hs =>
    rw [slide_of_le hov hle, slide_of_le (s := mix t s) hov hle, shiftWindow_mix, hs]; rfl
  | case3 s top hov hle s' hs ih =>
    rw [slide_of_le hov hle, slide_of_le (s := mix t s) hov hle, shiftWindow_mix, hs]
    exact ih
  | case4 s top hov hlt =>
    have hlt' := UInt16.not_le.mp hlt
    rw [slide_of_lt hov hlt', slide_of_lt (s := mix t s) hov hlt']; rfl

theorem markReceived_mix (num : AckNum) (s t : AckSystem SD) :
    markReceived num (mix t s) = (markReceived num s).map (mix t ·) := by
  rw [markReceived_eq, markReceived_eq, slide_mix, Option.bind_map, Option.map_bind]
  refine congrArg _ (funext fun s₁ => ?_)
  simp only [Function.comp, Option.map_bind]
  refine congrArg _ (funext fun lb => ?_)
  unfold markInWindow
  split
  · rfl
  · simp only [Option.bind_eq_bind, Option.map_bind, Function.comp_def, Option.map_some']; rfl

theorem mix_receiving (gs : MType → Guarantees) {c : AckCall SD} (hc : c.sending = false)
    (s t : AckSystem SD) : c.apply gs (mix t s) = (c.apply gs s).map (mix t ·) := by
  cases c <;> simp only [AckCall.sending, reduceCtorEq] at hc
  · exact markReceived_mix _ s t
  · simp only [AckCall.apply, nextHeader, Option.bind_eq_bind, Option.map_bind, Function.comp_def, Option.map_some']
    rfl
  · simp only [AckCall.apply, ackMsgInfo, Option.bind_eq_bind, Option.map_bind, Function.comp_def, Option.map_some']
    rfl

/-! ## §4. The two sides commute. -/

/-- A sending call and a receiving call give the same result in either order. -/
theorem apply_comm (gs : MType → Guarantees) {c r : AckCall SD} (hc : c.sending = true)
    (hr : r.sending = false) (s : AckSystem SD) :
    (r.apply gs s).bind (c.apply gs) = (c.apply gs s).bind (r.apply gs) := by
  have hC := mix_sending gs hc
  have hR := mix_receiving gs hr
  -- the receiving call keeps the sending half, and the other way round
  have hkeepR : ∀ s₁, r.apply gs s = some s₁ → mix s s₁ = s₁ := fun s₁ h => by
    simpa [h] using (hR s s).symm
  have hkeepC : ∀ s₂, c.apply gs s = some s₂ → mix s₂ s = s₂ := fun s₂ h => by
    simpa [h] using (hC s s).symm
  cases h₁ : r.apply gs s with
  | none =>
    cases h₂ : c.apply gs s with
    | none => rfl
    | some s₂ =>
      show none = r.apply gs s₂
      rw [← hkeepC s₂ h₂, hR, h₁]; rfl
  | some s₁ =>
    cases h₂ : c.apply gs s with
    | none =>
      show c.apply gs s₁ = none
      rw [← hkeepR s₁ h₁, hC, h₂]; rfl
    | some s₂ =>
      show c.apply gs s₁ = r.apply gs s₂
      rw [← hkeepR s₁ h₁, ← hkeepC s₂ h₂, hC, hR, h₁, h₂]; rfl

theorem runCalls_cons (gs : MType → Guarantees) (s : AckSystem SD) (c : AckCall SD)
    (calls : List (AckCall SD)) :
    runCalls gs s (c :: calls) = (c.apply gs s).bind (runCalls gs · calls) := rfl

/-- A receiving call commutes with a run of sending calls. -/
theorem apply_comm_runCalls (gs : MType → Guarantees) {r : AckCall SD} (hr : r.sending = false) :
    ∀ (calls : List (AckCall SD)), (∀ c ∈ calls, c.sending = true) → ∀ s : AckSystem SD,
      (r.apply gs s).bind (runCalls gs · calls) = (runCalls gs s calls).bind (r.apply gs)
  | [], _, s => by simp [runCalls]
  | c :: calls, hcs, s => by
    simp only [runCalls_cons, ← Option.bind_assoc,
      apply_comm gs (hcs c (List.mem_cons_self _ _)) hr s]
    simp only [Option.bind_assoc,
      apply_comm_runCalls gs hr calls (fun c' h => hcs c' (List.mem_cons_of_mem _ h))]

/-- Every run of calls gives what its sending calls give, followed by its receiving calls,
panics included: no interleaving of the two sides' traffic changes the result. -/
theorem runCalls_sides (gs : MType → Guarantees) :
    ∀ (s : AckSystem SD) (calls : List (AckCall SD)), runCalls gs s calls =
      (runCalls gs s (calls.filter AckCall.sending)).bind
        (runCalls gs · (calls.filter fun c => !c.sending))
  | s, [] => rfl
  | s, c :: calls => by
    cases hc : c.sending
    · simp only [List.filter_cons, hc, Bool.not_false, Bool.false_eq_true, reduceIte, runCalls_cons,
        runCalls_sides gs _ calls, ← Option.bind_assoc]
      rw [apply_comm_runCalls gs hc _ (fun c' h => by simpa using (List.mem_filter.mp h).2) s,
        Option.bind_assoc]
    · simp only [List.filter_cons, hc, Bool.not_true, Bool.false_eq_true, reduceIte, runCalls_cons,
        runCalls_sides gs _ calls, Option.bind_assoc]

end AckSystem

end CarrierPigeon
