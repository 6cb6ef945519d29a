import CarrierPigeon.Connection.AckSystem.Received
/-
  CarrierPigeon.Connection.AckSystem.Reachable
  ────────────────────────────────────────────
  **THE RECEIVING SIDE FROM EVERY REACHABLE STATE.**

  Every state a run of calls from `new` reaches has the window's shape, room above
  `ack_offset` (`ack_offset + 32` does not overflow), and the record of what `mark_received`
  was given.  From there:
    * `mark_received(num)` panics exactly for the top 32 numbers and for the numbers inside
      the window below `ack_offset`;
    * nothing ever removes an entry of `residual`, and a number below the window is appended
      again each time it arrives, so retransmissions of an old message grow it without bound;
    * a header taken from the front bitfield (`current_idx = 0`) acknowledges exactly the
      numbers received in `[ack_offset, ack_offset + 32)`.

  Main results:
    * `markReceived_panics_iff` — when `mark_received` panics.
    * `residual_grows_on_replay` — `residual` is append-only and grows with every replay.
    * `front_header_exact` — what a header from the front bitfield acknowledges.
-/

namespace CarrierPigeon

namespace AckSystem

variable {SD : Type}

/-! ## §1. When `mark_received` panics. -/

/-- A loop that returns stops where `ack_offset + 32` does not overflow. -/
theorem slide_headroom {num : AckNum} {s s' : AckSystem SD} (hs : slide num s = some s') :
    s'.ackOffset.toNat + 32 < 2 ^ 16 := by
  induction s using slide.induct num with
  | case1 s hov => rw [slide_of_overflow hov] at hs; cases hs
  | case2 s top hov hle hsh => rw [slide_of_le hov hle, hsh] at hs; cases hs
  | case3 s top hov hle t hsh ih =>
    rw [slide_of_le hov hle, hsh, Option.some_bind] at hs
    exact ih hs
  | case4 s top hov hlt =>
    rw [slide_of_lt hov (UInt16.not_le.mp hlt)] at hs
    cases hs
    simpa only [UInt16.toNat_ofNat, UInt16.size, Nat.reduceMod] using (u16Add_eq_some.mp hov).1

theorem markInWindow_ackOffset {num lb : AckNum} {s s' : AckSystem SD}
    (hm : markInWindow num s lb = some s') : s'.ackOffset = s.ackOffset := by
  unfold markInWindow at hm
  split at hm
  · cases hm; rfl
  · simp only [Option.bind_eq_bind, Option.bind_eq_some, Option.some.injEq] at hm
    obtain ⟨_, -, _, -, rfl⟩ := hm; rfl

/-- In every reachable state `ack_offset + 32` does not overflow: only the loop moves
`ack_offset`, and a loop that returns has checked it. -/
theorem runCalls_headroom {gs : MType → Guarantees} :
    ∀ (calls : List (AckCall SD)) (s : AckSystem SD), runCalls gs new calls = some s →
      s.ackOffset.toNat + 32 < 2 ^ 16 := by
  intro calls
  induction calls using List.reverseRecOn with
  | nil => intro s hs; cases hs; exact (show (0 : Nat) + 32 < 2 ^ 16 by decide)
  | append_singleton calls c ih =>
    intro s hs
    rw [runCalls_append, Option.bind_eq_some] at hs
    obtain ⟨s₀, hs₀, hc⟩ := hs
    rcases apply_receiving hc with ⟨num, -, hm⟩ | ⟨-, ho, -⟩
    · rw [markReceived_eq, Option.bind_eq_some] at hm
      obtain ⟨s₁, hs₁, hm⟩ := hm
      obtain ⟨lb, -, hm⟩ := Option.bind_eq_some.mp hm
      rw [markInWindow_ackOffset hm]
      exact slide_headroom hs₁
    · rw [ho]; exact ih s₀ hs₀

/-- For a number at or above `ack_offset` and below the top 32, the loop returns, and stops
with `ack_offset` at most the number. -/
theorem slide_isSome_of_le {num : AckNum} {s : AckSystem SD} (h : WindowShape s)
    (hoff : s.ackOffset.toNat ≤ num.toNat) (hnum : num.toNat < 65504) :
    ∃ s', slide num s = some s' ∧ s'.ackOffset.toNat ≤ num.toNat := by
  induction s using slide.induct num with
  | case1 s hov =>
    have := u16Add_eq_none.mp hov
    simp only [UInt16.toNat_ofNat, UInt16.size, Nat.reduceMod] at this
    omega
  | case2 s top hov hle hsh =>
    obtain ⟨back, hback⟩ := Option.isSome_iff_exists.mp
      (List.getLast?_isSome.mpr (List.ne_nil_of_length_pos h.nonempty))
    have : shiftWindow s top = some _ := shiftWindow_eq_some.mpr ⟨back, hback, rfl⟩
    rw [hsh] at this; cases this
  | case3 s top hov hle t hsh ih =>
    rw [slide_of_le hov hle, hsh, Option.some_bind]
    exact ih (shiftWindow_shape h hov hsh).1
      (by rw [(shiftWindow_length hsh).1]; exact u16_le_iff.mp hle)
  | case4 s top hov hlt => exact ⟨s, slide_of_lt hov (UInt16.not_le.mp hlt), hoff⟩

/-- The rest of `mark_received` returns for a number of the front block. -/
theorem markInWindow_isSome {num lb : AckNum} {s : AckSystem SD} (h : WindowShape s)
    (hoff : s.ackOffset.toNat ≤ num.toNat) (hnum : num.toNat < s.ackOffset.toNat + 32) :
    ∃ s', markInWindow num s lb = some s' := by
  unfold markInWindow
  split
  · exact ⟨_, rfl⟩
  · have hlt := num.toNat_lt_size
    have hdif : u16Sub num s.ackOffset = some (UInt16.ofNat (num.toNat - s.ackOffset.toNat)) :=
      u16Sub_eq_some.mpr ⟨hoff, by rw [uint16_toNat_ofNat]; simp only [UInt16.size] at hlt; omega⟩
    have hidx : (UInt16.ofNat (num.toNat - s.ackOffset.toNat) / 32).toNat = 0 := by
      simp only [UInt16.toNat_div, uint16_toNat_ofNat, UInt16.toNat_ofNat, UInt16.size,
        Nat.reduceMod]
      omega
    simp only [hdif, Option.bind_eq_bind, Option.some_bind, hidx,
      List.getElem?_eq_getElem h.nonempty]
    exact ⟨_, rfl⟩

/-- With room above `ack_offset`, the loop's `ack_offset + 32` computes. -/
theorem u16Add_of_headroom {s : AckSystem SD} (hh : s.ackOffset.toNat + 32 < 2 ^ 16) :
    ∃ top, u16Add s.ackOffset 32 = some top ∧ top.toNat = s.ackOffset.toNat + 32 := by
  obtain ⟨top, hadd⟩ : ∃ top, u16Add s.ackOffset 32 = some top :=
    Option.ne_none_iff_exists'.mp fun hn => by
      have := u16Add_eq_none.mp hn
      simp only [UInt16.toNat_ofNat, UInt16.size, Nat.reduceMod] at this
      omega
  have htop := (u16Add_eq_some.mp hadd).2
  simp only [UInt16.toNat_ofNat, UInt16.size, Nat.reduceMod] at htop
  exact ⟨top, hadd, htop⟩

/-- From a shaped state with room above `ack_offset`, `mark_received` of a number below the
window appends it to `residual` and changes nothing else. -/
theorem markReceived_below {num : AckNum} {s : AckSystem SD} (h : WindowShape s)
    (hh : s.ackOffset.toNat + 32 < 2 ^ 16) (hlt : num.toNat < lowEnd s) :
    markReceived num s = some { s with residual := s.residual ++ [num] } := by
  obtain ⟨top, hadd, htop⟩ := u16Add_of_headroom hh
  have hlb : (UInt16.ofNat (s.ackOffset.toNat - 32 * (s.ackBitfields.length - 1))).toNat =
      lowEnd s := lowEnd_toNat s
  rw [markReceived_eq, slide_of_lt hadd (u16_lt_iff.mpr (by unfold lowEnd at hlt; omega)),
    Option.some_bind, h.lowerBound_eq, Option.some_bind]
  unfold markInWindow
  rw [if_pos (u16_lt_iff.mpr (hlb.symm ▸ hlt))]

/-- From a shaped state with room above `ack_offset`, `mark_received` returns for a number
below the top 32 that lies below the window or at or above `ack_offset`. -/
theorem markReceived_isSome_of_shape {num : AckNum} {s : AckSystem SD} (h : WindowShape s)
    (hh : s.ackOffset.toNat + 32 < 2 ^ 16) (hnum : num.toNat < 65504)
    (hout : num.toNat < lowEnd s ∨ s.ackOffset.toNat ≤ num.toNat) :
    ∃ s', markReceived num s = some s' := by
  rcases hout with hlt | hoff
  · -- below the window: `residual`
    exact ⟨_, markReceived_below h hh hlt⟩
  · -- the front block after the loop
    obtain ⟨s₁, hs₁, ho₁⟩ := slide_isSome_of_le h hoff hnum
    obtain ⟨h₁, -, hnum₁⟩ := slide_shape h hs₁
    obtain ⟨s', hs'⟩ : ∃ s', markInWindow num s₁ (UInt16.ofNat (lowEnd s₁)) = some s' :=
      markInWindow_isSome h₁ ho₁ hnum₁
    rw [markReceived_eq, hs₁, Option.some_bind, h₁.lowerBound_eq, Option.some_bind]
    exact ⟨s', hs'⟩

/-- From a shaped state with room above `ack_offset`, `mark_received` panics for the top 32
numbers and for the numbers of the window below `ack_offset`. -/
theorem markReceived_none_of_shape {num : AckNum} {s : AckSystem SD} (h : WindowShape s)
    (hh : s.ackOffset.toNat + 32 < 2 ^ 16)
    (hin : 65504 ≤ num.toNat ∨ (lowEnd s ≤ num.toNat ∧ num.toNat < s.ackOffset.toNat)) :
    markReceived num s = none := by
  obtain ⟨top, hadd, htop⟩ := u16Add_of_headroom hh
  rw [markReceived_eq]
  rcases hin with hhigh | ⟨hlo, hhi⟩
  · rw [slide_overflow_of_high h.aligned hhigh]; rfl
  · have hlb : (UInt16.ofNat (s.ackOffset.toNat - 32 * (s.ackBitfields.length - 1))).toNat =
        lowEnd s := lowEnd_toNat s
    rw [slide_of_lt hadd (u16_lt_iff.mpr (by omega)), Option.some_bind, h.lowerBound_eq,
      Option.some_bind]
    unfold markInWindow
    rw [if_neg (fun hc => absurd (u16_lt_iff.mp hc) (by rw [hlb]; omega)),
      u16Sub_eq_none.mpr hhi]
    rfl

/-- From a shaped state with room above `ack_offset`, `mark_received` panics exactly for the
top 32 numbers and for the numbers of the window below `ack_offset`. -/
theorem markReceived_none_iff_of_shape {num : AckNum} {s : AckSystem SD} (h : WindowShape s)
    (hh : s.ackOffset.toNat + 32 < 2 ^ 16) :
    markReceived num s = none ↔
      65504 ≤ num.toNat ∨ (lowEnd s ≤ num.toNat ∧ num.toNat < s.ackOffset.toNat) := by
  refine ⟨fun hnone => ?_, markReceived_none_of_shape h hh⟩
  by_contra hc
  simp only [not_or, not_and, not_lt] at hc
  have hnum : num.toNat < 65504 := by omega
  have hout : num.toNat < lowEnd s ∨ s.ackOffset.toNat ≤ num.toNat := by omega
  obtain ⟨s', hs'⟩ := markReceived_isSome_of_shape h hh hnum hout
  rw [hs'] at hnone
  cases hnone

/-- **When `mark_received` panics.**  From every state a run of calls from `new` reaches,
`mark_received(num)` panics exactly when `num` is one of the top 32 numbers (the loop's
`ack_offset + 32` overflows before the window reaches it) or lies in the window below
`ack_offset` (`num - ack_offset` underflows); for every other number it returns. -/
theorem markReceived_panics_iff (gs : MType → Guarantees) (calls : List (AckCall SD))
    (s : AckSystem SD) (hrun : runCalls gs new calls = some s) (num : AckNum) :
    markReceived num s = none ↔
      65504 ≤ num.toNat ∨ (lowEnd s ≤ num.toNat ∧ num.toNat < s.ackOffset.toNat) :=
  markReceived_none_iff_of_shape (runCalls_shape calls s hrun) (runCalls_headroom calls s hrun)

/-- After `mark_received(33)` and a header, `mark_received(0)` is inside the window below
`ack_offset`. -/
theorem markReceived_panics_iff_markThenHeader :
    ∃ s, runCalls (fun _ => .Reliable) new markThenHeader = some s ∧
      (markReceived 0 s = none ↔
        65504 ≤ (0 : AckNum).toNat ∨ (lowEnd s ≤ (0 : AckNum).toNat ∧
          (0 : AckNum).toNat < s.ackOffset.toNat)) := by
  have hrun : runCalls (fun _ => .Reliable) new markThenHeader =
      afterMark33.nextHeader.map Prod.fst := by
    simp only [runCalls, markThenHeader, List.foldlM_cons, List.foldlM_nil, AckCall.apply,
      markReceived_33_new, Option.bind_eq_bind, Option.some_bind]
    rfl
  obtain ⟨s, hs⟩ : ∃ s, afterMark33.nextHeader.map Prod.fst = some s := ⟨_, rfl⟩
  exact ⟨s, hrun.trans hs,
    markReceived_panics_iff (fun _ => .Reliable) markThenHeader s (hrun.trans hs) 0⟩

/-! ## §2. `residual` only grows. -/

/-- `mark_received` keeps `residual` or appends its number to it. -/
theorem markReceived_residual {num : AckNum} {s s' : AckSystem SD}
    (hm : markReceived num s = some s') : s.residual <+: s'.residual := by
  rw [markReceived_eq, Option.bind_eq_some] at hm
  obtain ⟨s₁, hs₁, hm⟩ := hm
  obtain ⟨lb, -, hm⟩ := Option.bind_eq_some.mp hm
  rw [← (slide_frame hs₁).2.1]
  unfold markInWindow at hm
  split at hm
  · cases hm; exact List.prefix_append _ _
  · simp only [Option.bind_eq_bind, Option.bind_eq_some, Option.some.injEq] at hm
    obtain ⟨_, -, _, -, rfl⟩ := hm
    exact List.prefix_refl _

/-- Every call keeps `residual` as a prefix: nothing ever removes an entry. -/
theorem runCalls_residual {gs : MType → Guarantees} :
    ∀ (calls : List (AckCall SD)) (s s' : AckSystem SD), runCalls gs s calls = some s' →
      s.residual <+: s'.residual
  | [], _, _, h => by cases h; exact List.prefix_refl _
  | c :: calls, s, s', h => by
    simp only [runCalls, List.foldlM_cons, Option.bind_eq_bind, Option.bind_eq_some] at h
    obtain ⟨s₁, hc, h⟩ := h
    refine List.IsPrefix.trans ?_ (runCalls_residual calls s₁ s' h)
    rcases apply_receiving hc with ⟨num, -, hm⟩ | ⟨-, -, hres, -⟩
    · exact markReceived_residual hm
    · rw [hres]

/-- `k` copies of a number below the window append `k` copies to `residual`. -/
theorem runCalls_replicate_below (gs : MType → Guarantees) {num : AckNum} :
    ∀ (k : Nat) (s : AckSystem SD), WindowShape s → s.ackOffset.toNat + 32 < 2 ^ 16 →
      num.toNat < lowEnd s →
        runCalls gs s (List.replicate k (.markReceived num)) =
          some { s with residual := s.residual ++ List.replicate k num }
  | 0, s, _, _, _ => by simp [runCalls]
  | k + 1, s, h, hh, hlt => by
    simp only [List.replicate_succ, runCalls, List.foldlM_cons, AckCall.apply,
      markReceived_below h hh hlt, Option.bind_eq_bind, Option.some_bind]
    exact (runCalls_replicate_below gs k { s with residual := s.residual ++ [num] }
      ⟨h.1, h.2, h.3⟩ hh hlt).trans
      (by rw [List.append_assoc, List.singleton_append])

/-- **`residual` is append-only and grows without bound.**  From every state a run of calls
from `new` reaches, no further run removes an entry of `residual`; and every number below the
window's low end that arrives again is appended again: `k` copies of it add `k` entries. -/
theorem residual_grows_on_replay (gs : MType → Guarantees) (calls : List (AckCall SD))
    (s : AckSystem SD) (hrun : runCalls gs new calls = some s) :
    (∀ (more : List (AckCall SD)) s', runCalls gs s more = some s' → s.residual <+: s'.residual) ∧
      ∀ (num : AckNum), num.toNat < lowEnd s → ∀ k : Nat,
        runCalls gs s (List.replicate k (.markReceived num)) =
          some { s with residual := s.residual ++ List.replicate k num } :=
  ⟨fun more s' h => runCalls_residual more s s' h,
    fun _ hlt k => runCalls_replicate_below gs k s (runCalls_shape calls s hrun)
      (runCalls_headroom calls s hrun) hlt⟩

/-- Two headers send the first bitfield twice, so `mark_received(33)` drops it and the low end
rises to 32: every number below 32 then lands in `residual`. -/
def twoHeadersThenMark : List (AckCall Unit) := [.nextHeader, .nextHeader, .markReceived 33]

/-- The state `twoHeadersThenMark` leaves: one bitfield, for `[32, 64)`, with bit 1 set. -/
def afterDrop : AckSystem Unit := { new with ackOffset := 32, ackBitfields := [⟨2, 0⟩] }

theorem runCalls_twoHeadersThenMark :
    runCalls (fun _ => .Reliable) new twoHeadersThenMark = some afterDrop := by
  have hsent : runCalls (fun _ => .Reliable) new [.nextHeader, .nextHeader] =
      some ({ new with ackBitfields := [⟨0, 2⟩] } : AckSystem Unit) := rfl
  rw [show twoHeadersThenMark = [.nextHeader, .nextHeader] ++ [.markReceived 33] from rfl,
    runCalls_append, hsent, Option.some_bind, AckCall.apply, markReceived,
    slide_of_le (s := ({ new with ackBitfields := [⟨0, 2⟩] } : AckSystem Unit)) (t := 32) rfl
      (by decide)]
  rw [show shiftWindow ({ new with ackBitfields := [⟨0, 2⟩] } : AckSystem Unit) 32 =
    some { new with ackOffset := 32, ackBitfields := [default] } from rfl]
  rw [Option.some_bind, slide_of_lt (t := 64) ?_ (by decide)] <;> rfl

theorem residual_grows_on_replay_twoHeaders :
    ∃ s, runCalls (fun _ => .Reliable) new twoHeadersThenMark = some s ∧ lowEnd s = 32 ∧
      ((∀ (more : List (AckCall Unit)) s', runCalls (fun _ => .Reliable) s more = some s' →
        s.residual <+: s'.residual) ∧
      ∀ (num : AckNum), num.toNat < lowEnd s → ∀ k : Nat,
        runCalls (fun _ => .Reliable) s (List.replicate k (.markReceived num)) =
          some { s with residual := s.residual ++ List.replicate k num }) :=
  ⟨afterDrop, runCalls_twoHeadersThenMark, rfl,
    residual_grows_on_replay (fun _ => .Reliable) twoHeadersThenMark _ runCalls_twoHeadersThenMark⟩

/-! ## §3. A header from the front bitfield is exact. -/

/-- The front bitfield holds the 32 numbers from `ack_offset`, bit `i` for `ack_offset + i`. -/
theorem windowAcks_front {s : AckSystem SD} (h : WindowShape s) {bf : AckBitfields}
    (hbf : s.ackBitfields[0]? = some bf) {i : Nat} (hi : i < 32) :
    windowAcks s (s.ackOffset.toNat + i) = bf.bitfield.toNat.testBit i := by
  have hal := h.aligned
  have hdiv : (s.ackOffset.toNat + i) / 32 = s.ackOffset.toNat / 32 := by omega
  have hmod : (s.ackOffset.toNat + i) % 32 = i := by omega
  simp [windowAcks, readWindow, hdiv, hmod, hbf]

/-- `next_header` at `current_idx = 0` sends the front bitfield with `ack_offset`. -/
theorem nextHeader_front {s s' : AckSystem SD} {off : AckNum} {bits : UInt32}
    (hidx : s.currentIdx = 0) (hn : nextHeader s = some (s', (off, bits))) :
    off = s.ackOffset ∧ ∃ bf, s.ackBitfields[0]? = some bf ∧ bits = bf.bitfield := by
  simp only [nextHeader, hidx, Option.bind_eq_bind, Option.bind_eq_some, Option.some.injEq,
    Prod.mk.injEq] at hn
  obtain ⟨bf, hbf, _, -, -, rfl, rfl⟩ := hn
  exact ⟨rfl, bf, hbf, rfl⟩

/-- **A header from the front bitfield acknowledges exactly the front block.**  From every
state a run of calls from `new` reaches, when `current_idx` is 0 the pair `next_header`
returns acknowledges, through `mark_bitfield`'s reading, exactly the numbers of
`[ack_offset, ack_offset + 32)` that `mark_received` was given. -/
theorem front_header_exact (gs : MType → Guarantees) (calls : List (AckCall SD))
    (s : AckSystem SD) (hrun : runCalls gs new calls = some s) (hidx : s.currentIdx = 0)
    (s' : AckSystem SD) (off : AckNum) (bits : UInt32) (hn : nextHeader s = some (s', (off, bits)))
    (k : AckNum) :
    acks off bits (List.range 32) k = true ↔
      k ∈ received calls ∧ off.toNat ≤ k.toNat ∧ k.toNat < off.toNat + 32 := by
  have h := runCalls_shape calls s hrun
  have hh := runCalls_headroom calls s hrun
  have hr := runCalls_records calls s hrun
  obtain ⟨rfl, bf, hbf, rfl⟩ := nextHeader_front hidx hn
  have hle : lowEnd s ≤ s.ackOffset.toNat := Nat.sub_le _ _
  -- the number `ack_offset + i` of bit `i`
  have hk : ∀ i < 32, (k == s.ackOffset + UInt16.ofNat i) = decide (k.toNat = s.ackOffset.toNat + i) :=
    fun i hi => by
      rw [Bool.eq_iff_iff, beq_iff_eq, decide_eq_true_eq, UInt16.ext_iff, UInt16.toNat_add,
        uint16_toNat_ofNat, UInt16.size]
      rw [Nat.mod_eq_of_lt (show i < 2 ^ 16 by omega), Nat.mod_eq_of_lt (by omega)]
  simp only [acks, List.any_eq_true, List.mem_range, Bool.and_eq_true]
  constructor
  · rintro ⟨i, hi, hset, hki⟩
    rw [hk i hi, decide_eq_true_eq] at hki
    rw [bitIsSet_eq_testBit hi, ← windowAcks_front h hbf hi, ← hki] at hset
    exact ⟨((hr.window k).mp hset).1, by omega, by omega⟩
  · rintro ⟨hrec, hlo, hhi⟩
    have hw := (hr.window k).mpr ⟨hrec, by omega⟩
    refine ⟨k.toNat - s.ackOffset.toNat, by omega, ?_, ?_⟩
    · rw [bitIsSet_eq_testBit (by omega), ← windowAcks_front h hbf (by omega),
        Nat.add_sub_cancel' hlo]
      exact hw
    · rw [hk _ (by omega), decide_eq_true_eq]; omega

theorem front_header_exact_markThenHeader :
    ∃ (s s' : AckSystem Unit) (off : AckNum) (bits : UInt32),
      runCalls (fun _ => .Reliable) new [.markReceived 33] = some s ∧
      s.currentIdx = 0 ∧ nextHeader s = some (s', (off, bits)) ∧
      (acks off bits (List.range 32) 33 = true ↔
        (33 : AckNum) ∈ received [(.markReceived 33 : AckCall Unit)] ∧ off.toNat ≤ (33 : AckNum).toNat ∧
          (33 : AckNum).toNat < off.toNat + 32) := by
  have hrun : runCalls (fun _ => .Reliable) new [(.markReceived 33 : AckCall Unit)] =
      some afterMark33 := by
    simp only [runCalls, List.foldlM_cons, List.foldlM_nil, AckCall.apply, markReceived_33_new,
      Option.bind_eq_bind, Option.some_bind]
    rfl
  obtain ⟨s', hs'⟩ : ∃ s', afterMark33.nextHeader = some (s', (32, 2)) := ⟨_, rfl⟩
  exact ⟨afterMark33, s', 32, 2, hrun, rfl, hs',
    front_header_exact (fun _ => .Reliable) [.markReceived 33] afterMark33 hrun rfl s' 32 2 hs' 33⟩

end AckSystem

end CarrierPigeon
