import CarrierPigeon.Connection.AckSystem.Basic
/-
  CarrierPigeon.Connection.AckSystem.Window
  ─────────────────────────────────────────
  **WHERE `mark_received` PANICS.**

  `mark_received` slides the window until `num < ack_offset + 32`, computes the lowest
  number the window still holds, `ack_offset - 32·(len - 1)`, sends anything below it to the
  residual list, and sets the bit of anything else in `ack_bitfields[(num - ack_offset) / 32]`.
  The last step only works for `num ≥ ack_offset`: a number that is inside the window but
  below `ack_offset` — a packet that arrives after the window slid past it — makes
  `num - ack_offset` underflow.  And once `ack_offset` reaches `65504` the loop test
  `ack_offset + 32` itself overflows, so no number of the top 32 can ever be marked.

  Main results:
    * `markReceived_late_underflow` — from the state `new → mark_received(33)`,
      `mark_received(0)` panics in `num - ack_offset`.
    * `markAll_late_panics` — the sequence `[33, 0]` on `new` never finishes.
    * `slide_overflow_of_high` — from any 32-aligned offset, the loop panics for every
      `num ≥ 65504`.
-/

namespace CarrierPigeon

namespace AckSystem

variable {SD : Type}

/-- `mark_received` applied to `n₁, …, n_k` in turn, nothing in between. -/
def markAll (ns : List AckNum) (s : AckSystem SD) : Option (AckSystem SD) :=
  ns.foldlM (fun s n => markReceived n s) s

/-! ## §1. A late packet: `mark_received(33); mark_received(0)`. -/

/-- The state after `mark_received(33)` on `new` (the source's tests use `AckSystem<()>`):
one slide, bit 1 of the front bitfield set. -/
def afterMark33 : AckSystem Unit :=
  { new with ackOffset := 32, ackBitfields := [⟨2, 0⟩, default] }

theorem markReceived_33_new : markReceived 33 new = some afterMark33 := by
  rw [markReceived, slide_of_le (s := new) (t := 32) rfl (by decide)]
  rw [show shiftWindow (new : AckSystem Unit) 32 =
    some { new with ackOffset := 32, ackBitfields := [default, default] } from rfl]
  rw [Option.some_bind, slide_of_lt (t := 64) ?_ (by decide)] <;> rfl

/-- **A late number panics.**  After `mark_received(33)` the window is `[0, 64)`, with lower
bound `0`; `mark_received(0)` passes the residual test and then computes `0 - 32` on `u16`. -/
theorem markReceived_late_underflow :
    markReceived 33 new = some afterMark33 ∧ markReceived 0 afterMark33 = none ∧
      u16Sub 0 32 = none := by
  refine ⟨markReceived_33_new, ?_, rfl⟩
  rw [markReceived, slide_of_lt (s := afterMark33) (t := 64) rfl (by decide)]
  rfl

/-- **The sequence `[33, 0]` never gets past its second mark.** -/
theorem markAll_late_panics : markAll [33, 0] (new : AckSystem Unit) = none := by
  simp only [markAll, List.foldlM_cons, List.foldlM_nil, markReceived_33_new, Option.bind_eq_bind,
    Option.some_bind]
  rw [markReceived, slide_of_lt (s := afterMark33) (t := 64) rfl (by decide)]
  rfl

/-! ## §2. The top of the `AckNum` range. -/

/-- **No number of the top 32 can be marked.**  From an offset that is a multiple of 32, the
loop never stops for `num ≥ 65504`: it stops only when `num < ack_offset + 32`, and every
offset it reaches is a multiple of 32 below `2^16`, so it runs into the overflow of
`ack_offset + 32` at `ack_offset = 65504`. -/
theorem slide_overflow_of_high {num : AckNum} {s : AckSystem SD}
    (hal : s.ackOffset.toNat % 32 = 0) (hnum : 65504 ≤ num.toNat) : slide num s = none := by
  induction s using slide.induct num with
  | case1 s hov => exact slide_of_overflow hov
  | case2 s top hov hle hs => rw [slide_of_le hov hle, hs]; rfl
  | case3 s top hov hle t hs ih =>
    rw [slide_of_le hov hle, hs, Option.some_bind]
    obtain ⟨_, -, rfl⟩ := shiftWindow_eq_some.mp hs
    have := (u16Add_eq_some.mp hov).2
    exact ih (by simp only [UInt16.toNat_ofNat, UInt16.size] at *; omega)
  | case4 s top hov hlt =>
    have := u16Add_eq_some.mp hov
    have := s.ackOffset.toNat_lt
    have := u16_lt_iff.mp (UInt16.not_le.mp hlt)
    simp only [UInt16.toNat_ofNat, UInt16.size] at *
    omega

end AckSystem

end CarrierPigeon
