import CarrierPigeon.Net.Header
/-
  CarrierPigeon.Net.CIdSpec
  ─────────────────────────
  **WHICH CONNECTIONS AN OPERATION ADDRESSES: `CIdSpec`** (`src/net.rs`).

  A `CIdSpec` is a set of `CId`s given by a pattern: all of them, none, all but one, or just
  one.  `matches` is membership; `overlaps` decides whether two patterns share a `CId` by a
  table on the pair of patterns, without naming one.  The table is right: it answers `true`
  exactly when some `CId` matches both.  For two `Except`s that needs a third `CId`, which
  `u32` has.

  Main results:
    * `exists_ne_ne` — two `CId`s leave a third.
    * `overlaps_iff_common_cid` — `a.overlaps(b)` iff some `CId` matches `a` and `b`.
-/

namespace CarrierPigeon

/-- A way to specify the valid `CId`s for an operation. -/
inductive CIdSpec where
  /-- Matches all `CId`s. -/
  | All
  /-- Matches no `CId`s. -/
  | None
  /-- Matches all except the inner `CId`. -/
  | Except (cid : CId)
  /-- Matches only the inner `CId`. -/
  | Only (cid : CId)
  deriving DecidableEq, Repr

/-- Whether the given cid matches the pattern. -/
def CIdSpec.matches : CIdSpec → CId → Bool
  | .All, _ => true
  | .None, _ => false
  | .Except o, cid => cid != o
  | .Only o, cid => cid == o

/-- Checks if the `other` `CIdSpec` overlaps (shares at least one common `CId`). -/
def CIdSpec.overlaps : CIdSpec → CIdSpec → Bool
  | .None, _ => false
  | _, .None => false
  | .All, _ => true
  | _, .All => true
  | .Except _, .Except _ => true
  | .Only o1, .Only o2 => o1 == o2
  | .Only only, .Except except => only != except
  | .Except except, .Only only => only != except

namespace CIdSpec

/-- Two `CId`s leave a third: one of `0`, `1`, `2` differs from both. -/
theorem exists_ne_ne (x y : CId) : ∃ c : CId, c ≠ x ∧ c ≠ y := by
  by_cases h0 : (0 : CId) ≠ x ∧ (0 : CId) ≠ y
  · exact ⟨0, h0⟩
  by_cases h1 : (1 : CId) ≠ x ∧ (1 : CId) ≠ y
  · exact ⟨1, h1⟩
  -- else `x` and `y` are `0` and `1`
  refine ⟨2, ?_, ?_⟩ <;> rintro rfl <;> simp_all +decide <;>
    exact absurd (h0.trans h1.symm) (by decide)

/-- **`overlaps` agrees with `matches`**: two patterns overlap exactly when some `CId` matches
both. -/
theorem overlaps_iff_common_cid (a b : CIdSpec) :
    a.overlaps b = true ↔ ∃ c : CId, a.matches c = true ∧ b.matches c = true := by
  cases a <;> cases b <;> simp [overlaps, CIdSpec.matches]
  case All.Except x => exact (exists_ne_ne x x).imp fun _ h => h.1
  case Except.All x => exact (exists_ne_ne x x).imp fun _ h => h.1
  case Except.Except x y => exact exists_ne_ne x y

end CIdSpec

end CarrierPigeon
