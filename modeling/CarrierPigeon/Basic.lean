import Mathlib.Data.List.Basic
import Mathlib.Data.String.Basic
/-
  CarrierPigeon.Basic
  ───────────────────
  **RUST ARITHMETIC AS A DEBUG BUILD RUNS IT.**

  The crate does its window arithmetic with the plain `+`, `-`, `*` of `u16`, `u32` and
  `usize`.  A debug build panics when one of them leaves its type's range, and so does an
  out-of-range `v[i]`.  Throughout the development a computation that can panic returns
  `Option`: `none` IS the panic.  Wrapping arithmetic (`wrapping_add`) is the plain
  `UInt16` `+` of Lean, which is already taken modulo `2^16`.

  Each checked operation comes with one spec lemma (`…_eq_some`) stating when it succeeds
  and what it returns, in `toNat` form, so that later proofs close with `omega` and never
  unfold the operation.
-/

namespace CarrierPigeon

/-- The bytes of a datagram or of a serialized message (`Vec<u8>`, `&[u8]`). -/
abbrev Bytes := List UInt8

/-! ## §1. The `toNat` view of the casts `as u8`, `as u16`, `as u32`. -/

@[simp] theorem uint8_toNat_ofNat (n : Nat) : (UInt8.ofNat n).toNat = n % 2 ^ 8 := rfl

@[simp] theorem uint16_toNat_ofNat (n : Nat) : (UInt16.ofNat n).toNat = n % 2 ^ 16 := rfl

@[simp] theorem uint32_toNat_ofNat (n : Nat) : (UInt32.ofNat n).toNat = n % 2 ^ 32 := rfl

theorem u16_lt_iff {a b : UInt16} : a < b ↔ a.toNat < b.toNat := BitVec.lt_def

theorem u16_le_iff {a b : UInt16} : a ≤ b ↔ a.toNat ≤ b.toNat := BitVec.le_def

/-! ## §2. Checked arithmetic. -/

/-- `a + b` on `u16`; `none` is the "attempt to add with overflow" panic. -/
def u16Add (a b : UInt16) : Option UInt16 :=
  if a.toNat + b.toNat < 2 ^ 16 then some (a + b) else none

/-- `a - b` on `u16`; `none` is the "attempt to subtract with overflow" panic. -/
def u16Sub (a b : UInt16) : Option UInt16 :=
  if b.toNat ≤ a.toNat then some (a - b) else none

/-- `a * b` on `u16`; `none` is the "attempt to multiply with overflow" panic. -/
def u16Mul (a b : UInt16) : Option UInt16 :=
  if a.toNat * b.toNat < 2 ^ 16 then some (a * b) else none

/-- `a + b` on `u32`. -/
def u32Add (a b : UInt32) : Option UInt32 :=
  if a.toNat + b.toNat < 2 ^ 32 then some (a + b) else none

/-- `a - b` on `usize` (lengths and indices are `Nat` in the model). -/
def usizeSub (a b : Nat) : Option Nat :=
  if b ≤ a then some (a - b) else none

theorem u16Add_eq_some {a b c : UInt16} :
    u16Add a b = some c ↔ a.toNat + b.toNat < 2 ^ 16 ∧ c.toNat = a.toNat + b.toNat := by
  unfold u16Add
  split <;> simp only [Option.some.injEq, UInt16.ext_iff, UInt16.toNat_add, UInt16.size,
    reduceCtorEq, false_iff] <;> omega

theorem u16Add_eq_none {a b : UInt16} : u16Add a b = none ↔ 2 ^ 16 ≤ a.toNat + b.toNat := by
  unfold u16Add; split <;> simp_all

theorem u16Sub_eq_some {a b c : UInt16} :
    u16Sub a b = some c ↔ b.toNat ≤ a.toNat ∧ c.toNat = a.toNat - b.toNat := by
  unfold u16Sub
  split
  · rw [Option.some.injEq, UInt16.ext_iff, UInt16.toNat_sub_of_le a b ‹_›]; omega
  · simp only [reduceCtorEq, false_iff]; omega

theorem u16Sub_eq_none {a b : UInt16} : u16Sub a b = none ↔ a.toNat < b.toNat := by
  unfold u16Sub; split <;> simp_all

theorem u16Mul_eq_some {a b c : UInt16} :
    u16Mul a b = some c ↔ a.toNat * b.toNat < 2 ^ 16 ∧ c.toNat = a.toNat * b.toNat := by
  unfold u16Mul
  split <;> simp only [Option.some.injEq, UInt16.ext_iff, UInt16.toNat_mul, UInt16.size,
    reduceCtorEq, false_iff] <;> omega

theorem u32Add_eq_some {a b c : UInt32} :
    u32Add a b = some c ↔ a.toNat + b.toNat < 2 ^ 32 ∧ c.toNat = a.toNat + b.toNat := by
  unfold u32Add
  split <;> simp only [Option.some.injEq, UInt32.ext_iff, UInt32.toNat_add, UInt32.size,
    reduceCtorEq, false_iff] <;> omega

@[simp] theorem usizeSub_eq_some {a b c : Nat} : usizeSub a b = some c ↔ b ≤ a ∧ c = a - b := by
  unfold usizeSub; split <;> simp_all [eq_comm]

end CarrierPigeon
