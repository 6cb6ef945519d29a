import CarrierPigeon.Connection.AckSystem.Shape
import CarrierPigeon.Connection.AckSystem.Saved
/-
  CarrierPigeon.Connection.AckSystem.Received
  ───────────────────────────────────────────
  **WHAT THE RECEIVING WINDOW ACKNOWLEDGES.**

  Read as a set, the window holds a number `n` when the bitfield `ack_offset/32 - n/32` has
  bit `n % 32` set (`windowAcks`): with a 32-aligned `ack_offset`, bitfield `j` holds the 32
  numbers from `ack_offset - 32·j`, as `mark_received` lays them out.  Over every run from
  `new`, the window holds exactly the numbers `mark_received` was given that lie at or above
  its low end `ack_offset - 32·(len - 1)`, and `residual` holds only numbers it was given,
  each below that low end; no call lowers the low end.  A turn of `mark_received`'s loop keeps
  every number but those of the bitfield it drops, the bit it sets adds exactly its number,
  and `next_header` and `ack_msg_info` change send counts only.

  Main results:
    * `readWindow_push`, `readWindow_dropLast`, `readWindow_set_or` — the window as a set,
      under each change of the bitfields.
    * `apply_records` — the step lemma, for each of the eight calls.
    * `window_acks_exactly_received` — the window and `residual` over every run from `new`.
-/

namespace CarrierPigeon

namespace AckSystem

variable {SD : Type}

/-! ## §1. The window as a set. -/

/-- The window on its raw data, `top = ack_offset / 32` and the bitfields `bs`: bitfield `j`
holds the block `top - j` of 32 numbers, bit `i` the number `32·(top - j) + i`. -/
def readWindow (top : Nat) (bs : List UInt32) (n : Nat) : Bool :=
  n / 32 ≤ top && (bs[top - n / 32]?.any fun b => b.toNat.testBit (n % 32))

/-- The numbers the window acknowledges. -/
def windowAcks (s : AckSystem SD) (n : Nat) : Bool :=
  readWindow (s.ackOffset.toNat / 32) (s.ackBitfields.map AckBitfields.bitfield) n

/-- The low end of the window, `ack_offset - 32·(len - 1)`: `mark_received`'s lower bound. -/
def lowEnd (s : AckSystem SD) : Nat := s.ackOffset.toNat - 32 * (s.ackBitfields.length - 1)

/-- The low end fits in an `AckNum`. -/
theorem lowEnd_toNat (s : AckSystem SD) : (UInt16.ofNat (lowEnd s)).toNat = lowEnd s := by
  rw [uint16_toNat_ofNat]
  exact Nat.mod_eq_of_lt (Nat.lt_of_le_of_lt (Nat.sub_le _ _) s.ackOffset.toNat_lt_size)

/-- Pushing an empty bitfield at the front as the block moves up keeps every number. -/
theorem readWindow_push (top : Nat) (bs : List UInt32) (n : Nat) :
    readWindow (top + 1) (0 :: bs) n = readWindow top bs n := by
  unfold readWindow
  by_cases h : n / 32 ≤ top
  · rw [show top + 1 - n / 32 = top - n / 32 + 1 by omega, List.getElem?_cons_succ]
    simp [h, Nat.le_succ_of_le h]
  · by_cases h' : n / 32 = top + 1
    · simp [h, h']
    · simp [h, show ¬n / 32 ≤ top + 1 by omega]

/-- Dropping the back bitfield forgets exactly its block. -/
theorem readWindow_dropLast (top : Nat) (bs : List UInt32) (n : Nat) :
    readWindow top bs.dropLast n = (readWindow top bs n && decide (top - n / 32 < bs.length - 1)) := by
  unfold readWindow
  rw [List.getElem?_dropLast]
  split <;> simp [*]

/-- Setting the bits of `m` in the front bitfield adds exactly the numbers of the front block
whose bit `m` has. -/
theorem readWindow_set_or {top : Nat} {bs : List UInt32} {b : UInt32} (hb : bs[0]? = some b)
    (m : UInt32) (n : Nat) :
    readWindow top (bs.set 0 (b ||| m)) n =
      (readWindow top bs n || (n / 32 == top && m.toNat.testBit (n % 32))) := by
  have hor : (b ||| m).toNat = b.toNat ||| m.toNat := BitVec.toNat_or b.toBitVec m.toBitVec
  unfold readWindow
  by_cases h : n / 32 = top
  · have hlen : 0 < bs.length := by
      rcases bs with _ | _ <;> simp_all
    subst h
    simp [hb, List.getElem?_set, hlen, hor]
  · by_cases h' : n / 32 ≤ top
    · rw [List.getElem?_set_ne (by omega)]
      simp [h, h']
    · simp [h, h']

/-- In a window of this shape, every number it acknowledges is at or above its low end and in a
block at or below the front one. -/
theorem WindowShape.low_le_of_windowAcks {s : AckSystem SD} (h : WindowShape s) {n : Nat}
    (hw : windowAcks s n = true) :
    lowEnd s ≤ n ∧ n / 32 ≤ s.ackOffset.toNat / 32 := by
  unfold windowAcks readWindow at hw
  rw [Bool.and_eq_true, decide_eq_true_eq] at hw
  obtain ⟨hn, hany⟩ := hw
  have hk : s.ackOffset.toNat / 32 - n / 32 < s.ackBitfields.length := by
    rcases hi : (s.ackBitfields.map AckBitfields.bitfield)[s.ackOffset.toNat / 32 - n / 32]?
      with _ | b
    · simp [hi] at hany
    · simpa using (List.getElem?_eq_some_iff.mp hi).1
  have := h.aligned; have := h.span_le
  exact ⟨by unfold lowEnd; omega, hn⟩

/-! ## §2. The invariant and the changes of the window. -/

/-- The window and `residual` record the numbers `ns` given to `mark_received`: the window
holds exactly those at or above its low end, `residual` only some of those below it. -/
structure Records (ns : List AckNum) (s : AckSystem SD) : Prop where
  window : ∀ n : AckNum, windowAcks s n.toNat = true ↔ n ∈ ns ∧ lowEnd s ≤ n.toNat
  residual : ∀ n ∈ s.residual, n ∈ ns ∧ n.toNat < lowEnd s

theorem records_new : Records [] (new : AckSystem SD) :=
  ⟨fun n => by simp [windowAcks, readWindow, new], fun n h => nomatch h⟩

/-- A call that keeps `ack_offset`, `residual` and the bits of the window keeps the record. -/
theorem Records.of_frame {ns : List AckNum} {s s' : AckSystem SD} (hr : Records ns s)
    (ho : s'.ackOffset = s.ackOffset) (hres : s'.residual = s.residual)
    (hb : s'.ackBitfields.map AckBitfields.bitfield = s.ackBitfields.map AckBitfields.bitfield) :
    Records ns s' := by
  have hw : windowAcks s' = windowAcks s := by unfold windowAcks; rw [ho, hb]
  have hl : lowEnd s' = lowEnd s := by
    unfold lowEnd; rw [ho, ← List.length_map s'.ackBitfields AckBitfields.bitfield, hb,
      List.length_map]
  exact ⟨hw ▸ hl ▸ hr.window, hres ▸ hl ▸ hr.residual⟩

/-- **A turn of `mark_received`'s loop** keeps the record and does not lower the low end: the
window moves up a block and keeps every number of the bitfields it keeps. -/
theorem shiftWindow_records {ns : List AckNum} {s s' : AckSystem SD} {top : AckNum}
    (h : WindowShape s) (hr : Records ns s) (hadd : u16Add s.ackOffset 32 = some top)
    (hs : shiftWindow s top = some s') : Records ns s' ∧ lowEnd s ≤ lowEnd s' := by
  obtain ⟨back, -, hs'⟩ := shiftWindow_eq_some.mp hs
  have hres : s'.residual = s.residual := by rw [hs']
  have htop := (u16Add_eq_some.mp hadd).2
  simp only [UInt16.toNat_ofNat, UInt16.size] at htop
  have hal := h.aligned; have hspan := h.span_le; have hpos := h.nonempty
  have ho : s'.ackOffset = top := by rw [hs']
  have hoff : s'.ackOffset.toNat = s.ackOffset.toNat + 32 := by rw [ho]; omega
  have hblock : s'.ackOffset.toNat / 32 = s.ackOffset.toNat / 32 + 1 := by omega
  have hbf : s'.ackBitfields = default ::
      if sendAckThreshold ≤ back.sendCount then s.ackBitfields.dropLast else s.ackBitfields := by
    rw [hs']
  split at hbf
  · -- the back bitfield was sent often enough, and goes
    have hw : ∀ n, windowAcks s' n = (windowAcks s n &&
        decide (s.ackOffset.toNat / 32 - n / 32 < s.ackBitfields.length - 1)) := fun n => by
      simp only [windowAcks, hbf, List.map_cons, AckBitfields.default_bitfield, hblock,
        readWindow_push, List.map_dropLast, readWindow_dropLast, List.length_map]
    have hl : lowEnd s' = lowEnd s + 32 := by
      simp only [lowEnd, hbf, hoff, List.length_cons, List.length_dropLast]; omega
    refine ⟨⟨fun n => ?_, fun n hn => ?_⟩, by omega⟩
    · rw [hw, hl, Bool.and_eq_true, decide_eq_true_eq]
      constructor
      · rintro ⟨hwn, hk⟩
        have := h.low_le_of_windowAcks hwn
        exact ⟨((hr.window n).mp hwn).1, by unfold lowEnd at *; omega⟩
      · rintro ⟨hm, hle⟩
        have hwn := (hr.window n).mpr ⟨hm, by omega⟩
        have := h.low_le_of_windowAcks hwn
        exact ⟨hwn, by unfold lowEnd at *; omega⟩
    · obtain ⟨hm, hlt⟩ := hr.residual n (hres ▸ hn)
      exact ⟨hm, by rw [hl]; omega⟩
  · -- the window grows by one bitfield, and its low end stays
    have hw : windowAcks s' = windowAcks s := by
      funext n
      simp only [windowAcks, hbf, List.map_cons, AckBitfields.default_bitfield, hblock,
        readWindow_push]
    have hl : lowEnd s' = lowEnd s := by
      simp only [lowEnd, hbf, hoff, List.length_cons]; omega
    exact ⟨⟨hw ▸ hl ▸ hr.window, hres ▸ hl ▸ hr.residual⟩, hl.ge⟩

/-- `mark_received`'s loop keeps the record and does not lower the low end. -/
theorem slide_records {ns : List AckNum} {num : AckNum} {s s' : AckSystem SD} (h : WindowShape s)
    (hr : Records ns s) (hs : slide num s = some s') : Records ns s' ∧ lowEnd s ≤ lowEnd s' := by
  induction s using slide.induct num with
  | case1 s hov => rw [slide_of_overflow hov] at hs; cases hs
  | case2 s top hov hle hsh => rw [slide_of_le hov hle, hsh] at hs; cases hs
  | case3 s top hov hle t hsh ih =>
    rw [slide_of_le hov hle, hsh, Option.some_bind] at hs
    obtain ⟨hrt, hlt⟩ := shiftWindow_records h hr hov hsh
    obtain ⟨hr', hl'⟩ := ih (shiftWindow_shape h hov hsh).1 hrt hs
    exact ⟨hr', hlt.trans hl'⟩
  | case4 s top hov hlt =>
    rw [slide_of_lt hov (UInt16.not_le.mp hlt)] at hs
    cases hs; exact ⟨hr, Nat.le_refl _⟩

/-- The flag `1 << (dif % 32)` of `mark_received` is `2 ^ (dif % 32)`. -/
theorem bitFlag_toNat (dif : UInt16) :
    ((1 : UInt32) <<< (dif % 32).toUInt32).toNat = 2 ^ (dif.toNat % 32) := by
  have : dif % 32 = UInt16.ofNat (dif.toNat % 32) :=
    UInt16.ext (by
      simp only [UInt16.toNat_mod, uint16_toNat_ofNat, UInt16.toNat_ofNat, UInt16.size,
        Nat.reduceMod]; omega)
  rw [this, mask_toNat (Nat.mod_lt _ (by decide))]

/-- A number below the low end, added to `residual`, is recorded. -/
theorem Records.add_residual {ns : List AckNum} {num : AckNum} {s : AckSystem SD}
    (hr : Records ns s) (hlt : num.toNat < lowEnd s) :
    Records (ns ++ [num]) { s with residual := s.residual ++ [num] } := by
  refine ⟨fun n => ?_, fun n hn => ?_⟩
  · show windowAcks s n.toNat = true ↔ n ∈ ns ++ [num] ∧ lowEnd s ≤ n.toNat
    rw [hr.window n, List.mem_append, List.mem_singleton]
    constructor
    · exact fun ⟨hm, hle⟩ => ⟨.inl hm, hle⟩
    · rintro ⟨hm | rfl, hle⟩
      · exact ⟨hm, hle⟩
      · omega
  · rcases List.mem_append.mp hn with hn | hn
    · obtain ⟨hm, hl⟩ := hr.residual n hn
      exact ⟨List.mem_append_left _ hm, hl⟩
    · rw [List.mem_singleton.mp hn]
      exact ⟨List.mem_append_right _ (List.mem_singleton_self _), hlt⟩

/-- A number at or above the low end, added to the window, is recorded. -/
theorem Records.add_window {ns : List AckNum} {num : AckNum} {s s' : AckSystem SD}
    (hr : Records ns s)
    (hw : ∀ n : AckNum, windowAcks s' n.toNat = (windowAcks s n.toNat || decide (n = num)))
    (hl : lowEnd s' = lowEnd s) (hres : s'.residual = s.residual) (hge : lowEnd s ≤ num.toNat) :
    Records (ns ++ [num]) s' := by
  refine ⟨fun n => ?_, fun n hn => ?_⟩
  · rw [hw, Bool.or_eq_true, hr.window n, decide_eq_true_eq, hl, List.mem_append,
      List.mem_singleton]
    constructor
    · rintro (⟨hm, hle⟩ | rfl)
      · exact ⟨.inl hm, hle⟩
      · exact ⟨.inr rfl, hge⟩
    · rintro ⟨hm | rfl, hle⟩
      · exact .inl ⟨hm, hle⟩
      · exact .inr rfl
  · obtain ⟨hm, hlt⟩ := hr.residual n (hres ▸ hn)
    exact ⟨List.mem_append_left _ hm, hl ▸ hlt⟩

/-- **The rest of `mark_received` records its number**, for a number below the front block's
end: below the lower bound in `residual`, otherwise by the bit it sets in the front bitfield,
which adds exactly that number to the window. -/
theorem markInWindow_records {ns : List AckNum} {num : AckNum} {s s' : AckSystem SD}
    (h : WindowShape s) (hr : Records ns s) (hnum : num.toNat < s.ackOffset.toNat + 32)
    (hm : markInWindow num s (UInt16.ofNat (lowEnd s)) = some s') :
    Records (ns ++ [num]) s' ∧ lowEnd s' = lowEnd s := by
  have hlb := lowEnd_toNat s
  unfold markInWindow at hm
  split at hm
  · -- below the window: `residual`
    rename_i hlt
    cases hm
    exact ⟨hr.add_residual (hlb ▸ u16_lt_iff.mp hlt), rfl⟩
  · -- in the front block: bit `num - ack_offset` of the front bitfield
    rename_i hge
    simp only [Option.bind_eq_bind, Option.bind_eq_some, Option.some.injEq] at hm
    obtain ⟨dif, hdif, bf, hbf, hs'⟩ := hm
    obtain ⟨hle, hdifv⟩ := u16Sub_eq_some.mp hdif
    have hidx : (dif / 32).toNat = 0 := by
      simp only [UInt16.toNat_div, UInt16.toNat_ofNat, UInt16.size, Nat.reduceMod]; omega
    rw [hidx] at hbf hs'
    have hal := h.aligned
    have hbits : s'.ackBitfields.map AckBitfields.bitfield =
        (s.ackBitfields.map AckBitfields.bitfield).set 0
          (bf.bitfield ||| (1 : UInt32) <<< (dif % 32).toUInt32) := by
      rw [← hs', List.map_set]
    have hw : ∀ n : AckNum, windowAcks s' n.toNat = (windowAcks s n.toNat || decide (n = num)) := by
      intro n
      have hb0 : (s.ackBitfields.map AckBitfields.bitfield)[0]? = some bf.bitfield := by
        simp [hbf]
      have hnew : (n.toNat / 32 = s.ackOffset.toNat / 32 ∧ dif.toNat % 32 = n.toNat % 32) ↔
          n = num :=
        ⟨fun ⟨h1, h2⟩ => UInt16.ext (by omega), by rintro rfl; omega⟩
      have ho : s'.ackOffset = s.ackOffset := by rw [← hs']
      simp only [windowAcks, hbits, ho, readWindow_set_or hb0, bitFlag_toNat, Nat.testBit_two_pow]
      rw [Bool.eq_iff_iff]
      simp only [Bool.or_eq_true, Bool.and_eq_true, beq_iff_eq, decide_eq_true_eq]
      exact or_congr_right hnew
    have hl : lowEnd s' = lowEnd s := by
      unfold lowEnd
      rw [← List.length_map s'.ackBitfields AckBitfields.bitfield, hbits, List.length_set,
        List.length_map, ← hs']
    have hres : s'.residual = s.residual := by rw [← hs']
    exact ⟨hr.add_window hw hl hres (hlb ▸ u16_le_iff.mp (UInt16.not_lt.mp hge)), hl⟩

/-- **`mark_received` records its number** and does not lower the low end. -/
theorem markReceived_records {ns : List AckNum} {num : AckNum} {s s' : AckSystem SD}
    (h : WindowShape s) (hr : Records ns s) (hm : markReceived num s = some s') :
    Records (ns ++ [num]) s' ∧ lowEnd s ≤ lowEnd s' := by
  rw [markReceived_eq, Option.bind_eq_some] at hm
  obtain ⟨s₁, hs₁, hm⟩ := hm
  obtain ⟨h₁, -, hnum⟩ := slide_shape h hs₁
  obtain ⟨hr₁, hl₁⟩ := slide_records h hr hs₁
  rw [h₁.lowerBound_eq, Option.some_bind] at hm
  obtain ⟨hr', hl'⟩ := markInWindow_records h₁ hr₁ hnum hm
  exact ⟨hr', hl' ▸ hl₁⟩

/-! ## §3. The other calls, and runs. -/

theorem map_set_of_getElem? {α β : Type} {f : α → β} {l : List α} {i : Nat} {a b : α}
    (hb : l[i]? = some b) (h : f a = f b) : (l.set i a).map f = l.map f := by
  apply List.ext_getElem?
  intro j
  rw [List.getElem?_map, List.getElem?_map, List.getElem?_set]
  split
  · subst_vars
    simp [(List.getElem?_eq_some_iff.mp hb).1, hb, h]
  · rfl

theorem map_mapM_some {α β γ : Type} {f : α → Option β} {g : β → γ} {g' : α → γ}
    (hf : ∀ a b, f a = some b → g b = g' a) :
    ∀ {l : List α} {l' : List β}, l.mapM f = some l' → l'.map g = l.map g'
  | [], l', h => by simp only [List.mapM_nil] at h; cases h; rfl
  | a :: l, l', h => by
    simp only [List.mapM_cons, Option.bind_eq_bind, Option.bind_eq_some] at h
    obtain ⟨b, hb, _, hl, h⟩ := h
    cases h
    simp [hf a b hb, map_mapM_some hf hl]

theorem saveMsg_residual (header : MsgHeader) (g : Guarantees) (d : SD) (now : Nat)
    (s : AckSystem SD) : (saveMsg header g d now s).residual = s.residual := by
  unfold saveMsg; split <;> rfl

/-- `next_header` only counts a send of the current bitfield. -/
theorem nextHeader_bits {s s' : AckSystem SD} {p : AckNum × UInt32} (hn : nextHeader s = some (s', p)) :
    s'.ackBitfields.map AckBitfields.bitfield = s.ackBitfields.map AckBitfields.bitfield := by
  simp only [nextHeader, Option.bind_eq_bind, Option.bind_eq_some, Option.some.injEq,
    Prod.mk.injEq] at hn
  obtain ⟨_, hf, _, -, rfl, -⟩ := hn
  exact map_set_of_getElem? hf rfl

/-- `ack_msg_info` only counts a send of every bitfield. -/
theorem ackMsgInfo_bits {s s' : AckSystem SD} {p : List AckBitfields × List AckNum}
    (ha : ackMsgInfo s = some (s', p)) :
    s'.ackOffset = s.ackOffset ∧ s'.residual = s.residual ∧
      s'.ackBitfields.map AckBitfields.bitfield = s.ackBitfields.map AckBitfields.bitfield := by
  simp only [ackMsgInfo, Option.bind_eq_bind, Option.bind_eq_some, Option.some.injEq,
    Prod.mk.injEq] at ha
  obtain ⟨bfs, hbfs, rfl, -⟩ := ha
  refine ⟨rfl, rfl, map_mapM_some (fun a b hab => ?_) hbfs⟩
  simp only [Option.bind_eq_bind, Option.bind_eq_some, Option.some.injEq] at hab
  obtain ⟨_, -, rfl⟩ := hab
  rfl

/-- The number a call marks received, if it is a `mark_received`. -/
def AckCall.marked : AckCall SD → Option AckNum
  | .markReceived num => some num
  | _ => none

/-- The numbers the calls mark received, in order. -/
def received (calls : List (AckCall SD)) : List AckNum := calls.filterMap AckCall.marked

theorem received_append (calls : List (AckCall SD)) (c : AckCall SD) :
    received (calls ++ [c]) = received calls ++ c.marked.toList := by
  cases h : c.marked <;> simp [received, h]

/-- **What a call does to the receiving side**: it is a `mark_received`, or it keeps
`ack_offset`, `residual` and every bit of the window. -/
theorem apply_receiving {gs : MType → Guarantees} {s s' : AckSystem SD} {c : AckCall SD}
    (hc : c.apply gs s = some s') :
    (∃ num, c = .markReceived num ∧ markReceived num s = some s') ∨
      (c.marked = none ∧ s'.ackOffset = s.ackOffset ∧ s'.residual = s.residual ∧
        s'.ackBitfields.map AckBitfields.bitfield = s.ackBitfields.map AckBitfields.bitfield) := by
  cases c with
  | markReceived num => exact .inl ⟨num, rfl, hc⟩
  | saveMsg header otherData now =>
    cases hc
    obtain ⟨ho, hb, -⟩ := saveMsg_window header (gs header.mType) otherData now s
    exact .inr ⟨rfl, ho, saveMsg_residual .., by rw [hb]⟩
  | markBitfield offset bitfield =>
    rw [AckCall.apply, markBitfield_eq] at hc
    split at hc
    · cases hc; exact .inr ⟨rfl, rfl, rfl, rfl⟩
    · cases hc
  | nextHeader =>
    obtain ⟨⟨t, p⟩, hn, rfl⟩ := Option.map_eq_some'.mp hc
    obtain ⟨-, -, ho, hres⟩ := nextHeader_frame hn
    exact .inr ⟨rfl, ho, hres, nextHeader_bits hn⟩
  | ackMsgInfo =>
    obtain ⟨⟨t, p⟩, ha, rfl⟩ := Option.map_eq_some'.mp hc
    exact .inr ⟨rfl, ackMsgInfo_bits ha⟩
  | _ => cases hc; exact .inr ⟨rfl, rfl, rfl, rfl⟩

/-- **The step lemma**: every call keeps the record of the numbers marked so far, with its own
number added, and none lowers the low end. -/
theorem apply_records {gs : MType → Guarantees} {ns : List AckNum} {s s' : AckSystem SD}
    {c : AckCall SD} (h : WindowShape s) (hr : Records ns s) (hc : c.apply gs s = some s') :
    Records (ns ++ c.marked.toList) s' ∧ lowEnd s ≤ lowEnd s' := by
  rcases apply_receiving hc with ⟨num, rfl, hm⟩ | ⟨hn, ho, hres, hb⟩
  · exact markReceived_records h hr hm
  · refine ⟨by simpa [hn] using hr.of_frame ho hres hb, Nat.le_of_eq ?_⟩
    unfold lowEnd
    rw [ho, ← List.length_map s'.ackBitfields AckBitfields.bitfield, hb, List.length_map]

/-- The run lemma: a run from `new` records the numbers its calls marked. -/
theorem runCalls_records {gs : MType → Guarantees} :
    ∀ (calls : List (AckCall SD)) (s : AckSystem SD), runCalls gs new calls = some s →
      Records (received calls) s := by
  intro calls
  induction calls using List.reverseRecOn with
  | nil => intro s hs; cases hs; exact records_new
  | append_singleton calls c ih =>
    intro s hs
    rw [runCalls_append, Option.bind_eq_some] at hs
    obtain ⟨s₀, hs₀, hc⟩ := hs
    rw [received_append]
    exact (apply_records (runCalls_shape calls s₀ hs₀) (ih s₀ hs₀) hc).1

/-! ## §4. Over every run. -/

/-- **The window acknowledges exactly the numbers received at or above its low end.**  After any
run of calls from `new`, a number is in the window exactly when `mark_received` was given it and
it lies at or above `ack_offset - 32·(len - 1)`; every number in `residual` was given to
`mark_received` and lies below that low end; and no further call lowers the low end, so a
number that has fallen below it is never acknowledged by the window again. -/
theorem window_acks_exactly_received (gs : MType → Guarantees) (calls : List (AckCall SD))
    (s : AckSystem SD) (hrun : runCalls gs new calls = some s) :
    (∀ n : AckNum, windowAcks s n.toNat = true ↔ n ∈ received calls ∧ lowEnd s ≤ n.toNat) ∧
      (∀ n ∈ s.residual, n ∈ received calls ∧ n.toNat < lowEnd s) ∧
      ∀ (c : AckCall SD) s', c.apply gs s = some s' → lowEnd s ≤ lowEnd s' := by
  have hr := runCalls_records calls s hrun
  exact ⟨hr.window, hr.residual,
    fun c s' hc => (apply_records (runCalls_shape calls s hrun) hr hc).2⟩

/-- The record after `mark_received(33)` on `new` and a header. -/
theorem window_acks_exactly_received_markThenHeader :
    ∃ s, runCalls (fun _ => .Reliable) new markThenHeader = some s ∧
      ((∀ n : AckNum, windowAcks s n.toNat = true ↔
          n ∈ received markThenHeader ∧ lowEnd s ≤ n.toNat) ∧
        (∀ n ∈ s.residual, n ∈ received markThenHeader ∧ n.toNat < lowEnd s) ∧
        ∀ (c : AckCall Unit) s', c.apply (fun _ => .Reliable) s = some s' →
          lowEnd s ≤ lowEnd s') := by
  have hrun : runCalls (fun _ => .Reliable) new markThenHeader =
      afterMark33.nextHeader.map Prod.fst := by
    simp only [runCalls, markThenHeader, List.foldlM_cons, List.foldlM_nil, AckCall.apply,
      markReceived_33_new, Option.bind_eq_bind, Option.some_bind]
    rfl
  obtain ⟨s, hs⟩ : ∃ s, afterMark33.nextHeader.map Prod.fst = some s := ⟨_, rfl⟩
  exact ⟨s, hrun.trans hs,
    window_acks_exactly_received (fun _ => .Reliable) markThenHeader s (hrun.trans hs)⟩

end AckSystem

end CarrierPigeon
