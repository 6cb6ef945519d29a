import CarrierPigeon.Connection.AckSystem.Window
import Mathlib.Data.List.Rotate
import Mathlib.Data.Nat.ModEq
/-
  CarrierPigeon.Connection.AckSystem.RoundRobin
  ─────────────────────────────────────────────
  **`next_header` TAKES THE BITFIELDS IN TURN.**

  A message header carries one bitfield of the window: `next_header` sends the one at
  `current_idx`, counts the send, and moves `current_idx` on by one, modulo the number of
  bitfields.  Read in the window rotated to start at `current_idx`, `k` calls in a row send
  the first `k` bitfields of that rotation, in order, and count one send of each.  So over
  `len` calls from any state whose `current_idx` is in range and whose send counts have room,
  every bitfield goes out exactly once, every header carries the same `ack_offset`, every
  send count goes up by one, and `current_idx` comes back where it started.

  Main results:
    * `rotate_set_mod` — writing at `current_idx + k` is writing at `k` of the rotation.
    * `nextHeaders_rotate` — `k ≤ len` calls in a row, in the rotated window.
    * `nextHeader_round_robin` — a full round of `len` calls.
-/

namespace CarrierPigeon

/-- The bitfield after one more send is counted (`send_count += 1`). -/
def AckBitfields.sent (bf : AckBitfields) : AckBitfields :=
  { bf with sendCount := bf.sendCount + 1 }

namespace AckSystem

variable {SD : Type}

/-! ## §1. Calls in a row. -/

/-- `k` calls of `next_header` in a row, with the headers they return in order. -/
def nextHeaders : Nat → AckSystem SD → Option (AckSystem SD × List (AckNum × UInt32))
  | 0, s => some (s, [])
  | k + 1, s => do
    let (s, ps) ← nextHeaders k s
    let (s, p) ← nextHeader s
    some (s, ps ++ [p])

/-- `next_header` on a bitfield whose send count has room. -/
theorem nextHeader_of_getElem? {s : AckSystem SD} {bf : AckBitfields}
    (hf : s.ackBitfields[s.currentIdx]? = some bf) (hc : bf.sendCount.toNat + 1 < 2 ^ 32) :
    nextHeader s = some ({ s with ackBitfields := s.ackBitfields.set s.currentIdx bf.sent, currentIdx := (s.currentIdx + 1) % s.ackBitfields.length }, (s.ackOffset, bf.bitfield)) := by
  have hadd : u32Add bf.sendCount 1 = some (bf.sendCount + 1) :=
    u32Add_eq_some.mpr ⟨hc, by rw [UInt32.toNat_add]; exact Nat.mod_eq_of_lt hc⟩
  simp only [nextHeader, hf, hadd, Option.bind_eq_bind, Option.some_bind, List.length_set]
  rfl

/-! ## §2. The rotated window. -/

/-- Writing at `(k + n) % len` is writing at `k` of the list rotated by `n`. -/
theorem rotate_set_mod {α : Type} (l : List α) (n k : Nat) (hk : k < l.length) (x : α) :
    (l.set ((k + n) % l.length) x).rotate n = (l.rotate n).set k x := by
  refine List.ext_getElem (by simp) fun i h₁ _ => ?_
  have hi : i < l.length := by simpa using h₁
  by_cases hki : k = i
  · subst hki
    simp [List.getElem_rotate]
  · have hne : (k + n) % l.length ≠ (i + n) % l.length := fun he =>
      hki (by simpa [Nat.ModEq, Nat.mod_eq_of_lt hk, Nat.mod_eq_of_lt hi] using
        Nat.ModEq.add_right_cancel' n he)
    simp [List.getElem_rotate, List.getElem_set, hki, hne]

theorem getElem?_map_take_append_drop {α : Type} (f : α → α) (r : List α) (k : Nat)
    (hk : k < r.length) : ((r.take k).map f ++ r.drop k)[k]? = some r[k] := by
  rw [List.getElem?_append_right (by simp)]
  simp [hk.le]

theorem set_map_take_append_drop {α : Type} (f : α → α) (r : List α) (k : Nat)
    (hk : k < r.length) :
    ((r.take k).map f ++ r.drop k).set k (f r[k]) = (r.take (k + 1)).map f ++ r.drop (k + 1) := by
  rw [List.set_append_right _ _ (by simp), List.drop_eq_getElem_cons hk,
    ← List.take_concat_get _ _ hk]
  simp only [List.length_map, List.length_take, min_eq_left hk.le, Nat.sub_self,
    List.set_cons_zero, List.concat_eq_append, List.map_append, List.map_cons, List.map_nil,
    List.append_assoc, List.singleton_append]

/-- `k ≤ len` calls in a row send the first `k` bitfields of the window rotated to
`current_idx`, with the front `ack_offset`, and count one send of each. -/
theorem nextHeaders_rotate (s : AckSystem SD) (h : s.currentIdx < s.ackBitfields.length)
    (hc : ∀ bf ∈ s.ackBitfields, bf.sendCount.toNat + 1 < 2 ^ 32) :
    ∀ k ≤ s.ackBitfields.length, ∃ bfs : List AckBitfields,
      bfs.rotate s.currentIdx = ((s.ackBitfields.rotate s.currentIdx).take k).map AckBitfields.sent ++ (s.ackBitfields.rotate s.currentIdx).drop k ∧
      nextHeaders k s = some ({ s with ackBitfields := bfs, currentIdx := (s.currentIdx + k) % s.ackBitfields.length }, ((s.ackBitfields.rotate s.currentIdx).take k).map fun bf => (s.ackOffset, bf.bitfield))
  | 0, _ => ⟨s.ackBitfields, by simp, by simp [nextHeaders, Nat.mod_eq_of_lt h]⟩
  | k + 1, hk => by
    obtain ⟨bfs, hr, hn⟩ := nextHeaders_rotate s h hc k (by omega)
    set r := s.ackBitfields.rotate s.currentIdx
    have hkr : k < r.length := by simpa [r] using hk
    have hlen : bfs.length = s.ackBitfields.length := by
      have := congrArg List.length hr
      simp only [List.length_rotate, List.length_append, List.length_map, List.length_take,
        List.length_drop, r] at this
      omega
    have hkb : k < bfs.length := by omega
    -- the call reads bitfield `k` of the rotation, still uncounted
    have hf : bfs[(s.currentIdx + k) % s.ackBitfields.length]? = some r[k] := by
      rw [← hlen, Nat.add_comm s.currentIdx k, ← List.getElem?_rotate hkb, hr,
        getElem?_map_take_append_drop _ _ _ hkr]
    have hck := hc _ (List.mem_rotate.mp (List.getElem_mem hkr))
    refine ⟨bfs.set ((s.currentIdx + k) % s.ackBitfields.length) r[k].sent, ?_, ?_⟩
    · rw [← hlen, Nat.add_comm s.currentIdx k, rotate_set_mod _ _ _ hkb, hr,
        set_map_take_append_drop _ _ _ hkr]
    · rw [nextHeaders, hn]
      simp only [Option.bind_eq_bind, Option.some_bind]
      rw [nextHeader_of_getElem? hf hck]
      simp only [Option.some_bind, hlen, Nat.mod_add_mod, ← List.take_concat_get _ _ hkr, List.concat_eq_append, List.map_append,
        List.map_cons, List.map_nil, Nat.add_assoc]

/-! ## §3. A full round. -/

/-- Over `len` calls of `next_header` in a row, every bitfield of the window goes out exactly
once, starting at `current_idx` and in the window's order, every header carries the same
`ack_offset`, every send count goes up by one, and `current_idx` comes back where it
started; nothing else changes. -/
theorem nextHeader_round_robin (s : AckSystem SD) (h : s.currentIdx < s.ackBitfields.length)
    (hc : ∀ bf ∈ s.ackBitfields, bf.sendCount.toNat + 1 < 2 ^ 32) :
    nextHeaders s.ackBitfields.length s =
      some ({ s with ackBitfields := s.ackBitfields.map AckBitfields.sent },
        (s.ackBitfields.rotate s.currentIdx).map fun bf => (s.ackOffset, bf.bitfield)) := by
  obtain ⟨bfs, hr, hn⟩ := nextHeaders_rotate s h hc _ le_rfl
  have hall : (s.ackBitfields.rotate s.currentIdx).take s.ackBitfields.length =
      s.ackBitfields.rotate s.currentIdx := List.take_of_length_le (by simp)
  rw [hall, List.drop_of_length_le (by simp), List.append_nil, List.map_rotate,
    List.rotate_eq_rotate] at hr
  rw [hn, hr, hall, Nat.add_mod_right, Nat.mod_eq_of_lt h]

theorem nextHeader_round_robin_afterMark33 :
    ({ afterMark33 with currentIdx := 1 }).currentIdx < afterMark33.ackBitfields.length ∧
      (∀ bf ∈ afterMark33.ackBitfields, bf.sendCount.toNat + 1 < 2 ^ 32) ∧
      nextHeaders 2 { afterMark33 with currentIdx := 1 } =
        some ({ afterMark33 with currentIdx := 1, ackBitfields := [⟨2, 1⟩, ⟨0, 1⟩] }, [(32, 0), (32, 2)]) :=
  ⟨by decide, by decide, nextHeader_round_robin { afterMark33 with currentIdx := 1 } (by decide) (by decide)⟩

end AckSystem

end CarrierPigeon
