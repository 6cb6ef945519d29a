import CarrierPigeon.Connection.AckSystem.Retention
import CarrierPigeon.Connection.AckSystem.Window
/-
  CarrierPigeon.Connection.AckSystem.Shape
  ────────────────────────────────────────
  **THE SHAPE OF THE RECEIVING WINDOW.**

  `ack_bitfields` holds at least one bitfield and `current_idx` points into it; `ack_offset` is
  a multiple of 32, and the window's `32·(len - 1)` numbers below `ack_offset` never reach
  below 0.  Every call keeps this shape (`WindowShape`), and `ack_bitfields` never gets
  shorter: a turn of `mark_received`'s loop drops at most the back bitfield and always pushes a
  fresh one at the front, while `ack_offset` grows by 32; `next_header` moves `current_idx` on
  modulo the length.  In every reachable state the lower bound `ack_offset - 32·(len - 1)`
  of `mark_received` is computed without a panic, `len as AckNum` is `len`, and `next_header`
  reads inside the window.

  Main results:
    * `slide_shape` — `mark_received`'s loop keeps the shape and never shortens the window.
    * `apply_shape` — the step lemma, for each of the eight calls.
    * `WindowShape.lowerBound_eq` — the lower bound computes, to `ack_offset - 32·(len - 1)`.
    * `window_shape_invariant` — the invariant and its consequences over every run from `new`.
-/

namespace CarrierPigeon

namespace AckSystem

variable {SD : Type}

/-! ## §1. The shape. -/

/-- The shape of the receiving window. -/
structure WindowShape (s : AckSystem SD) : Prop where
  /-- `current_idx < ack_bitfields.len()`; in particular the window is not empty. -/
  idx_lt : s.currentIdx < s.ackBitfields.length
  /-- `ack_offset` is a multiple of 32. -/
  aligned : s.ackOffset.toNat % 32 = 0
  /-- The window's bitfields below the front one fit below `ack_offset`. -/
  span_le : 32 * (s.ackBitfields.length - 1) ≤ s.ackOffset.toNat

theorem WindowShape.nonempty {s : AckSystem SD} (h : WindowShape s) : 0 < s.ackBitfields.length :=
  Nat.lt_of_le_of_lt (Nat.zero_le _) h.idx_lt

theorem windowShape_new : WindowShape (new : AckSystem SD) := ⟨Nat.zero_lt_one, rfl, Nat.le_refl _⟩

/-- A call that keeps `ack_offset`, `current_idx` and the window's length keeps its shape. -/
theorem WindowShape.of_window {s s' : AckSystem SD} (h : WindowShape s)
    (ho : s'.ackOffset = s.ackOffset) (hl : s'.ackBitfields.length = s.ackBitfields.length)
    (hi : s'.currentIdx = s.currentIdx) : WindowShape s' :=
  ⟨by rw [hi, hl]; exact h.idx_lt, by rw [ho]; exact h.aligned, by rw [ho, hl]; exact h.span_le⟩

/-! ## §2. The loop of `mark_received`. -/

/-- One turn of the loop moves `ack_offset` to `top` and grows the window by at most one
bitfield: it pushes one and drops at most one. -/
theorem shiftWindow_length {s s' : AckSystem SD} {top : AckNum} (hs : shiftWindow s top = some s') :
    s'.ackOffset = top ∧ s'.currentIdx = s.currentIdx ∧
      s.ackBitfields.length ≤ s'.ackBitfields.length ∧
      s'.ackBitfields.length ≤ s.ackBitfields.length + 1 := by
  obtain ⟨back, -, rfl⟩ := shiftWindow_eq_some.mp hs
  refine ⟨rfl, rfl, ?_⟩
  split <;> simp only [List.length_cons, List.length_dropLast] <;> omega

/-- One turn of the loop keeps the shape and never shortens the window. -/
theorem shiftWindow_shape {s s' : AckSystem SD} {top : AckNum} (h : WindowShape s)
    (hadd : u16Add s.ackOffset 32 = some top) (hs : shiftWindow s top = some s') :
    WindowShape s' ∧ s.ackBitfields.length ≤ s'.ackBitfields.length := by
  obtain ⟨ho, hi, hge, hle⟩ := shiftWindow_length hs
  have htop := (u16Add_eq_some.mp hadd).2
  rw [← ho] at htop
  simp only [UInt16.toNat_ofNat, UInt16.size] at htop
  have := h.idx_lt; have := h.aligned; have := h.span_le
  exact ⟨⟨by omega, by omega, by omega⟩, hge⟩

/-- **`mark_received`'s loop keeps the shape and never shortens the window**; when it stops,
`num < ack_offset + 32`. -/
theorem slide_shape {num : AckNum} {s s' : AckSystem SD} (h : WindowShape s)
    (hs : slide num s = some s') :
    WindowShape s' ∧ s.ackBitfields.length ≤ s'.ackBitfields.length ∧
      num.toNat < s'.ackOffset.toNat + 32 := by
  induction s using slide.induct num with
  | case1 s hov => rw [slide_of_overflow hov] at hs; cases hs
  | case2 s top hov hle hsh => rw [slide_of_le hov hle, hsh] at hs; cases hs
  | case3 s top hov hle t hsh ih =>
    rw [slide_of_le hov hle, hsh, Option.some_bind] at hs
    obtain ⟨ht, hlen⟩ := shiftWindow_shape h hov hsh
    obtain ⟨h', hlen', hnum⟩ := ih ht hs
    exact ⟨h', hlen.trans hlen', hnum⟩
  | case4 s top hov hlt =>
    rw [slide_of_lt hov (UInt16.not_le.mp hlt)] at hs
    cases hs
    have htop := (u16Add_eq_some.mp hov).2
    have hnum := u16_lt_iff.mp (UInt16.not_le.mp hlt)
    simp only [UInt16.toNat_ofNat, UInt16.size] at htop
    exact ⟨h, Nat.le_refl _, by omega⟩

/-! ## §3. The lower bound of `mark_received`. -/

/-- The lowest number that fits in the bitfield: `mark_received`'s
`ack_offset - (32 * (ack_bitfields.len() as AckNum - 1))`. -/
def lowerBound (s : AckSystem SD) : Option AckNum := do
  let lenM1 ← u16Sub (UInt16.ofNat s.ackBitfields.length) 1
  let span ← u16Mul 32 lenM1
  u16Sub s.ackOffset span

/-- The rest of `mark_received`, once the loop has stopped and the lower bound is known. -/
def markInWindow (num : AckNum) (s : AckSystem SD) (lowerBound : AckNum) :
    Option (AckSystem SD) :=
  if num < lowerBound then
    some { s with residual := s.residual ++ [num] }
  else do
    let dif ← u16Sub num s.ackOffset
    let fieldIdx := dif / 32
    let bitFlag : UInt32 := 1 <<< (dif % 32).toUInt32
    let bf ← s.ackBitfields[fieldIdx.toNat]?
    let marked := { bf with bitfield := bf.bitfield ||| bitFlag }
    some { s with ackBitfields := s.ackBitfields.set fieldIdx.toNat marked }

/-- `mark_received` is its loop, its lower bound, and the rest. -/
theorem markReceived_eq (num : AckNum) (s : AckSystem SD) :
    markReceived num s = (slide num s).bind fun s => (lowerBound s).bind (markInWindow num s) := by
  simp only [markReceived, lowerBound, markInWindow, Option.bind_eq_bind, Option.bind_assoc]

/-- The window is shorter than `2^16` bitfields (2048 at most), so `len as AckNum` is `len`. -/
theorem WindowShape.length_lt {s : AckSystem SD} (h : WindowShape s) :
    s.ackBitfields.length < 2 ^ 16 := by
  have := h.span_le; have := s.ackOffset.toNat_lt_size; simp only [UInt16.size] at this; omega

/-- **In a window of this shape the lower bound computes**, to `ack_offset - 32·(len - 1)`:
none of its three operations overflows. -/
theorem WindowShape.lowerBound_eq {s : AckSystem SD} (h : WindowShape s) :
    lowerBound s = some (UInt16.ofNat (s.ackOffset.toNat - 32 * (s.ackBitfields.length - 1))) := by
  have hpos := h.nonempty
  have hlen := h.length_lt
  have hspan := h.span_le
  have hoff := s.ackOffset.toNat_lt_size
  simp only [UInt16.size] at hoff
  have h1 : u16Sub (UInt16.ofNat s.ackBitfields.length) 1 =
      some (UInt16.ofNat (s.ackBitfields.length - 1)) :=
    u16Sub_eq_some.mpr (by simp only [uint16_toNat_ofNat, UInt16.toNat_ofNat, UInt16.size]; omega)
  have h2 : u16Mul 32 (UInt16.ofNat (s.ackBitfields.length - 1)) =
      some (UInt16.ofNat (32 * (s.ackBitfields.length - 1))) :=
    u16Mul_eq_some.mpr (by simp only [uint16_toNat_ofNat, UInt16.toNat_ofNat, UInt16.size]; omega)
  have h3 : u16Sub s.ackOffset (UInt16.ofNat (32 * (s.ackBitfields.length - 1))) =
      some (UInt16.ofNat (s.ackOffset.toNat - 32 * (s.ackBitfields.length - 1))) :=
    u16Sub_eq_some.mpr (by simp only [uint16_toNat_ofNat]; omega)
  simp only [lowerBound, h1, h2, h3, Option.bind_eq_bind, Option.some_bind]

/-- The rest of `mark_received` keeps the shape and the length. -/
theorem markInWindow_shape {num lb : AckNum} {s s' : AckSystem SD} (h : WindowShape s)
    (hm : markInWindow num s lb = some s') :
    WindowShape s' ∧ s'.ackBitfields.length = s.ackBitfields.length := by
  unfold markInWindow at hm
  split at hm
  · cases hm; exact ⟨h.of_window rfl rfl rfl, rfl⟩
  · simp only [Option.bind_eq_bind, Option.bind_eq_some, Option.some.injEq] at hm
    obtain ⟨_, -, _, -, rfl⟩ := hm
    exact ⟨h.of_window rfl (List.length_set ..) rfl, List.length_set ..⟩

theorem markReceived_shape {num : AckNum} {s s' : AckSystem SD} (h : WindowShape s)
    (hm : markReceived num s = some s') :
    WindowShape s' ∧ s.ackBitfields.length ≤ s'.ackBitfields.length := by
  rw [markReceived_eq, Option.bind_eq_some] at hm
  obtain ⟨s₁, hs₁, hm⟩ := hm
  obtain ⟨h₁, hlen, -⟩ := slide_shape h hs₁
  rw [h₁.lowerBound_eq, Option.some_bind] at hm
  obtain ⟨h', hlen'⟩ := markInWindow_shape h₁ hm
  exact ⟨h', hlen'.symm ▸ hlen⟩

/-! ## §4. The other calls. -/

/-- `next_header` moves `current_idx` on modulo the length. -/
theorem nextHeader_shape {s s' : AckSystem SD} {p : AckNum × UInt32} (h : WindowShape s)
    (hn : nextHeader s = some (s', p)) :
    WindowShape s' ∧ s'.ackBitfields.length = s.ackBitfields.length := by
  simp only [nextHeader, Option.bind_eq_bind, Option.bind_eq_some, Option.some.injEq,
    Prod.mk.injEq] at hn
  obtain ⟨_, -, _, -, rfl, -⟩ := hn
  exact ⟨⟨Nat.mod_lt _ (by simpa using h.nonempty), h.aligned, by simpa using h.span_le⟩,
    List.length_set ..⟩

theorem length_mapM_some {α β : Type} {f : α → Option β} :
    ∀ {l : List α} {l' : List β}, l.mapM f = some l' → l'.length = l.length
  | [], l', h => by simp only [List.mapM_nil] at h; cases h; rfl
  | a :: l, l', h => by
    simp only [List.mapM_cons, Option.bind_eq_bind, Option.bind_eq_some] at h
    obtain ⟨_, -, _, hl, h⟩ := h
    cases h
    simp [length_mapM_some hl]

theorem ackMsgInfo_shape {s s' : AckSystem SD} {p : List AckBitfields × List AckNum}
    (h : WindowShape s) (ha : ackMsgInfo s = some (s', p)) :
    WindowShape s' ∧ s'.ackBitfields.length = s.ackBitfields.length := by
  simp only [ackMsgInfo, Option.bind_eq_bind, Option.bind_eq_some, Option.some.injEq,
    Prod.mk.injEq] at ha
  obtain ⟨bfs, hbfs, rfl, -⟩ := ha
  have hl := length_mapM_some hbfs
  exact ⟨h.of_window rfl hl rfl, hl⟩

/-- The sending side never touches the window. -/
theorem saveMsg_window (header : MsgHeader) (g : Guarantees) (d : SD) (now : Nat)
    (s : AckSystem SD) : (saveMsg header g d now s).ackOffset = s.ackOffset ∧
      (saveMsg header g d now s).ackBitfields = s.ackBitfields ∧
      (saveMsg header g d now s).currentIdx = s.currentIdx := by
  unfold saveMsg; split <;> exact ⟨rfl, rfl, rfl⟩

theorem markBitfield_window {offset : AckNum} {bitfield : UInt32} {s s' : AckSystem SD}
    (h : markBitfield offset bitfield s = some s') :
    s'.ackOffset = s.ackOffset ∧ s'.ackBitfields = s.ackBitfields ∧ s'.currentIdx = s.currentIdx := by
  rw [markBitfield_eq] at h
  split at h
  · cases h; exact ⟨rfl, rfl, rfl⟩
  · cases h

/-- **The step lemma**: every call keeps the shape and never shortens the window. -/
theorem apply_shape {gs : MType → Guarantees} {s s' : AckSystem SD} {c : AckCall SD}
    (h : WindowShape s) (hc : c.apply gs s = some s') :
    WindowShape s' ∧ s.ackBitfields.length ≤ s'.ackBitfields.length := by
  cases c with
  | saveMsg header otherData now =>
    cases hc
    obtain ⟨ho, hb, hi⟩ := saveMsg_window header (gs header.mType) otherData now s
    exact ⟨h.of_window ho (congrArg _ hb) hi, (congrArg List.length hb).ge⟩
  | markBitfield offset bitfield =>
    obtain ⟨ho, hb, hi⟩ := markBitfield_window hc
    exact ⟨h.of_window ho (congrArg _ hb) hi, (congrArg List.length hb).ge⟩
  | markReceived num => exact markReceived_shape h hc
  | nextHeader =>
    obtain ⟨⟨t, p⟩, hn, rfl⟩ := Option.map_eq_some'.mp hc
    obtain ⟨h', hl⟩ := nextHeader_shape h hn
    exact ⟨h', hl.ge⟩
  | ackMsgInfo =>
    obtain ⟨⟨t, p⟩, ha, rfl⟩ := Option.map_eq_some'.mp hc
    obtain ⟨h', hl⟩ := ackMsgInfo_shape h ha
    exact ⟨h', hl.ge⟩
  | _ => cases hc; exact ⟨h.of_window rfl rfl rfl, Nat.le_refl _⟩

/-- The run lemma: every state a run from `new` reaches has the shape. -/
theorem runCalls_shape {gs : MType → Guarantees} :
    ∀ (calls : List (AckCall SD)) (s : AckSystem SD), runCalls gs new calls = some s →
      WindowShape s := by
  intro calls
  induction calls using List.reverseRecOn with
  | nil => intro s hs; cases hs; exact windowShape_new
  | append_singleton calls c ih =>
    intro s hs
    rw [runCalls_append, Option.bind_eq_some] at hs
    obtain ⟨s₀, hs₀, hc⟩ := hs
    exact (apply_shape (ih s₀ hs₀) hc).1

/-! ## §5. Over every run. -/

/-- **The window shape invariant.**  Every state a run of calls from `new` reaches has a
non-empty window with `current_idx` inside it, an `ack_offset` that is a multiple of 32 and at
least `32·(len - 1)`; no call from it shortens the window; after `mark_received`'s loop the
lower bound `ack_offset - 32·(len - 1)` computes without a panic; `len as AckNum` is `len`; and
`next_header` reads a bitfield of the window. -/
theorem window_shape_invariant (gs : MType → Guarantees) (calls : List (AckCall SD))
    (s : AckSystem SD) (hrun : runCalls gs new calls = some s) :
    0 < s.ackBitfields.length ∧ s.currentIdx < s.ackBitfields.length ∧
      s.ackOffset.toNat % 32 = 0 ∧ 32 * (s.ackBitfields.length - 1) ≤ s.ackOffset.toNat ∧
      (∀ (c : AckCall SD) s', c.apply gs s = some s' → s.ackBitfields.length ≤ s'.ackBitfields.length) ∧
      (∀ num s₁, slide num s = some s₁ →
        lowerBound s₁ =
          some (UInt16.ofNat (s₁.ackOffset.toNat - 32 * (s₁.ackBitfields.length - 1)))) ∧
      (UInt16.ofNat s.ackBitfields.length).toNat = s.ackBitfields.length ∧
      s.ackBitfields[s.currentIdx]?.isSome := by
  have h := runCalls_shape calls s hrun
  refine ⟨h.nonempty, h.idx_lt, h.aligned, h.span_le, fun c s' hc => (apply_shape h hc).2,
    fun num s₁ hs => (slide_shape h hs).1.lowerBound_eq, ?_, ?_⟩
  · simp only [uint16_toNat_ofNat]; exact Nat.mod_eq_of_lt h.length_lt
  · simp [h.idx_lt]

/-- `mark_received(33)` on `new`, then a header. -/
def markThenHeader : List (AckCall Unit) := [.markReceived 33, .nextHeader]

/-- The invariant after `mark_received(33)` and one header. -/
theorem window_shape_invariant_markThenHeader :
    ∃ s, runCalls (fun _ => .Reliable) new markThenHeader = some s ∧
      (0 < s.ackBitfields.length ∧ s.currentIdx < s.ackBitfields.length ∧
        s.ackOffset.toNat % 32 = 0 ∧ 32 * (s.ackBitfields.length - 1) ≤ s.ackOffset.toNat ∧
        (∀ (c : AckCall Unit) s', c.apply (fun _ => .Reliable) s = some s' →
          s.ackBitfields.length ≤ s'.ackBitfields.length) ∧
        (∀ num s₁, slide num s = some s₁ →
          lowerBound s₁ =
            some (UInt16.ofNat (s₁.ackOffset.toNat - 32 * (s₁.ackBitfields.length - 1)))) ∧
        (UInt16.ofNat s.ackBitfields.length).toNat = s.ackBitfields.length ∧
        s.ackBitfields[s.currentIdx]?.isSome) := by
  have hrun : runCalls (fun _ => .Reliable) new markThenHeader =
      afterMark33.nextHeader.map Prod.fst := by
    simp only [runCalls, markThenHeader, List.foldlM_cons, List.foldlM_nil, AckCall.apply,
      markReceived_33_new, Option.bind_eq_bind, Option.some_bind]
    rfl
  obtain ⟨s, hs⟩ : ∃ s, afterMark33.nextHeader.map Prod.fst = some s := ⟨_, rfl⟩
  exact ⟨s, hrun.trans hs, window_shape_invariant (fun _ => .Reliable) markThenHeader s (hrun.trans hs)⟩

end AckSystem

end CarrierPigeon
