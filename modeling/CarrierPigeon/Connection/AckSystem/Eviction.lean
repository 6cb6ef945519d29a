import CarrierPigeon.Connection.AckSystem.Received
import Mathlib.Data.List.Basic
/-
  CarrierPigeon.Connection.AckSystem.Eviction
  ───────────────────────────────────────────
  **A BITFIELD LEAVES THE WINDOW ONLY AFTER IT WAS SENT TWICE.**

  Each turn of `mark_received`'s loop pushes a fresh bitfield at the front, and drops the back
  one only if its `send_count` has reached `SEND_ACK_THRESHOLD`.  Over the whole loop, from
  any state, the window after it is some fresh bitfields followed by a prefix of the window
  before it.  Every bitfield of the dropped suffix was sent at least `SEND_ACK_THRESHOLD` times:
  the loop never drops a bitfield it pushed itself, whose count is still 0.  The rest of
  `mark_received` only sets a bit.  So a number the window acknowledged stops being
  acknowledged only together with a bitfield that went out, in headers or ack messages, at
  least twice.

  Main results:
    * `Slid` — what the loop may do to the window, with `shiftWindow_slid` and `Slid.trans`.
    * `slide_slid` — the whole loop.
    * `markReceived_evicts_only_sent_twice` — no acknowledged number is forgotten before its
      bitfield was sent `SEND_ACK_THRESHOLD` times.
-/

namespace CarrierPigeon

namespace AckSystem

variable {SD : Type}

/-! ## §1. What the loop does to the window. -/

/-- `s'` is `s` after turns of `mark_received`'s loop: `j` fresh bitfields pushed at the front
as `ack_offset` moved up `j` blocks, and only bitfields sent at least `SEND_ACK_THRESHOLD` times
dropped from the back. -/
def Slid (s s' : AckSystem SD) : Prop :=
  ∃ j kept dropped, s.ackBitfields = kept ++ dropped ∧
    s'.ackBitfields = List.replicate j default ++ kept ∧
    s'.ackOffset.toNat = s.ackOffset.toNat + 32 * j ∧
    ∀ bf ∈ dropped, sendAckThreshold ≤ bf.sendCount

/-- A fresh bitfield was never sent. -/
theorem not_threshold_le_default : ¬ sendAckThreshold ≤ (default : AckBitfields).sendCount := by
  decide

theorem Slid.refl (s : AckSystem SD) : Slid s s :=
  ⟨0, s.ackBitfields, [], by simp, by simp, by simp, by simp⟩

theorem Slid.trans {s₁ s₂ s₃ : AckSystem SD} (h₁ : Slid s₁ s₂) (h₂ : Slid s₂ s₃) : Slid s₁ s₃ := by
  obtain ⟨j₁, k₁, d₁, hs₁, hs₂, ho₂, hd₁⟩ := h₁
  obtain ⟨j₂, k₂, d₂, hs₂', hs₃, ho₃, hd₂⟩ := h₂
  -- the second part drops none of the fresh bitfields of the first: it drops a suffix of `k₁`
  obtain ⟨k, hk₂, hk₁⟩ : ∃ k, k₂ = List.replicate j₁ default ++ k ∧ k₁ = k ++ d₂ := by
    rcases List.append_eq_append_iff.mp (hs₂.symm.trans hs₂') with ⟨a, hk₂, hk₁⟩ | ⟨c, hr, hd⟩
    · exact ⟨a, hk₂, hk₁⟩
    · cases c with
      | nil => exact ⟨[], by simpa using hr.symm, by simpa using hd.symm⟩
      | cons x c =>
        have hx : x = default :=
          List.eq_of_mem_replicate (hr ▸ List.mem_append_right _ (List.mem_cons_self _ _))
        exact absurd (hd₂ x (hd ▸ List.mem_cons_self _ _)) (hx ▸ not_threshold_le_default)
  refine ⟨j₂ + j₁, k, d₂ ++ d₁, by rw [hs₁, hk₁, List.append_assoc], ?_, by omega, ?_⟩
  · rw [hs₃, hk₂, ← List.append_assoc, List.replicate_add]
  · intro bf hbf
    rcases List.mem_append.mp hbf with h | h
    exacts [hd₂ bf h, hd₁ bf h]

/-- **One turn of the loop** pushes one fresh bitfield, and drops the back one only when it was
sent often enough. -/
theorem shiftWindow_slid {s s' : AckSystem SD} {top : AckNum}
    (hadd : u16Add s.ackOffset 32 = some top) (hs : shiftWindow s top = some s') : Slid s s' := by
  obtain ⟨back, hb, rfl⟩ := shiftWindow_eq_some.mp hs
  have htop : top.toNat = s.ackOffset.toNat + 32 * 1 := (u16Add_eq_some.mp hadd).2
  split_ifs with hc
  · exact ⟨1, s.ackBitfields.dropLast, [back], (List.dropLast_append_getLast? back hb).symm, rfl,
      htop, by simpa using hc⟩
  · exact ⟨1, s.ackBitfields, [], by simp, rfl, htop, by simp⟩

/-- **The whole loop.** -/
theorem slide_slid {num : AckNum} {s s' : AckSystem SD} (h : slide num s = some s') : Slid s s' := by
  induction s using slide.induct num with
  | case1 s hov => rw [slide_of_overflow hov] at h; cases h
  | case2 s top hov hle hs => rw [slide_of_le hov hle, hs] at h; cases h
  | case3 s top hov hle t hs ih =>
    rw [slide_of_le hov hle, hs, Option.some_bind] at h
    exact (shiftWindow_slid hov hs).trans (ih h)
  | case4 s top hov hlt =>
    rw [slide_of_lt hov (UInt16.not_le.mp hlt)] at h
    cases h
    exact .refl _

/-! ## §2. The rest of `mark_received` only sets a bit. -/

/-- Or-ing bits into one bitfield keeps every number. -/
theorem readWindow_set_or_mono {top : Nat} {bs : List UInt32} {i : Nat} {b : UInt32}
    (hb : bs[i]? = some b) (m : UInt32) {n : Nat} (hn : readWindow top bs n = true) :
    readWindow top (bs.set i (b ||| m)) n = true := by
  have hor : (b ||| m).toNat = b.toNat ||| m.toNat := BitVec.toNat_or b.toBitVec m.toBitVec
  unfold readWindow at *
  by_cases hi : i = top - n / 32
  · subst hi
    have hlt : top - n / 32 < bs.length := (List.getElem?_eq_some_iff.mp hb).1
    simp_all [List.getElem?_set_self hlt, Nat.testBit_or]
  · rwa [List.getElem?_set_ne hi]

theorem markInWindow_windowAcks {num lb : AckNum} {s s' : AckSystem SD}
    (hm : markInWindow num s lb = some s') {n : Nat} (hn : windowAcks s n = true) :
    windowAcks s' n = true := by
  unfold markInWindow at hm
  split at hm
  · cases hm; exact hn
  · simp only [Option.bind_eq_bind, Option.bind_eq_some, Option.some.injEq] at hm
    obtain ⟨dif, -, bf, hbf, rfl⟩ := hm
    unfold windowAcks at *
    rw [List.map_set]
    exact readWindow_set_or_mono (by rw [List.getElem?_map, hbf]; rfl) _ hn

/-! ## §3. No acknowledged number is forgotten early. -/

/-- **No acknowledged number is forgotten before its bitfield was sent twice.**  From every
state, if `mark_received` returns and its window no longer acknowledges a number that the
window before acknowledged, then the bitfield that held the number was sent, in headers or ack
messages, at least `SEND_ACK_THRESHOLD` times. -/
theorem markReceived_evicts_only_sent_twice {num : AckNum} {s s' : AckSystem SD}
    (h : markReceived num s = some s') {k : Nat} (hk : windowAcks s k = true)
    (hk' : windowAcks s' k = false) :
    ∃ bf, s.ackBitfields[s.ackOffset.toNat / 32 - k / 32]? = some bf ∧
      sendAckThreshold ≤ bf.sendCount ∧ bf.bitfield.toNat.testBit (k % 32) = true := by
  rw [markReceived_eq, Option.bind_eq_some] at h
  obtain ⟨s₁, hs₁, h⟩ := h
  obtain ⟨lb, -, hm⟩ := Option.bind_eq_some.mp h
  obtain ⟨j, kept, dropped, hbs, hbs₁, ho₁, hd⟩ := slide_slid hs₁
  -- the bitfield of `s` that holds `k`
  have hk₀ := hk
  unfold windowAcks readWindow at hk₀
  rw [Bool.and_eq_true, decide_eq_true_eq, List.getElem?_map] at hk₀
  obtain ⟨hle, hany⟩ := hk₀
  cases hbf : s.ackBitfields[s.ackOffset.toNat / 32 - k / 32]? with
  | none => simp [hbf] at hany
  | some bf =>
    simp only [hbf, Option.map_some', Option.any_some] at hany
    refine ⟨bf, rfl, ?_, hany⟩
    -- were it kept, the window after the loop, and so after the call, would still hold `k`
    by_contra hlt
    have hidx : s.ackOffset.toNat / 32 - k / 32 < kept.length := by
      by_contra hge
      rw [hbs, List.getElem?_append_right (by omega)] at hbf
      exact hlt (hd bf (List.getElem?_mem hbf))
    rw [hbs, List.getElem?_append_left hidx] at hbf
    have hk₁ : windowAcks s₁ k = true := by
      have htop : s₁.ackOffset.toNat / 32 = s.ackOffset.toNat / 32 + j := by omega
      unfold windowAcks readWindow
      rw [htop, hbs₁, show s.ackOffset.toNat / 32 + j - k / 32 =
        j + (s.ackOffset.toNat / 32 - k / 32) by omega, List.getElem?_map,
        List.getElem?_append_right (by simp), List.length_replicate, Nat.add_sub_cancel_left, hbf]
      simp [hany, hle, Nat.le_add_right_of_le hle]
    rw [markInWindow_windowAcks hm hk₁] at hk'
    cases hk'

/-- `0` received and its bitfield sent twice. -/
def sentTwice : AckSystem Unit := { new with ackBitfields := [⟨1, 2⟩] }

/-- `mark_received(32)` moves the window past `0`, whose bitfield was sent twice. -/
theorem markReceived_evicts_only_sent_twice_sentTwice :
    ∃ s', markReceived 32 sentTwice = some s' ∧ windowAcks sentTwice 0 = true ∧
      windowAcks s' 0 = false ∧
      ∃ bf, sentTwice.ackBitfields[sentTwice.ackOffset.toNat / 32 - 0 / 32]? = some bf ∧
        sendAckThreshold ≤ bf.sendCount ∧ bf.bitfield.toNat.testBit (0 % 32) = true := by
  have hm : markReceived 32 sentTwice =
      some { new with ackOffset := 32, ackBitfields := [⟨1, 0⟩] } := by
    rw [markReceived, slide_of_le (s := sentTwice) (t := 32) rfl (by decide)]
    rw [show shiftWindow sentTwice 32 =
      some { new with ackOffset := 32, ackBitfields := [default] } from rfl]
    rw [Option.some_bind, slide_of_lt (t := 64) ?_ (by decide)] <;> rfl
  exact ⟨_, hm, by decide, by decide, markReceived_evicts_only_sent_twice hm (by decide) (by decide)⟩

end AckSystem

end CarrierPigeon
