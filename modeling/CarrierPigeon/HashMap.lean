import CarrierPigeon.Basic
import Mathlib.Data.List.Nodup
/-
  CarrierPigeon.HashMap
  ─────────────────────
  **`hashbrown::HashMap` AS A LIST OF ENTRIES WITH DISTINCT KEYS.**

  The crate keeps its saved reliable messages in a `HashMap<AckNum, (Instant, MsgHeader, SD)>`
  and walks it with `iter`/`iter_mut`.  The model is the list of entries in iteration order;
  the structure carries the distinctness of the keys, so no map with two values for one key
  can be built.  `remove` drops the key's entry, `insert` replaces it (the new entry goes
  last: `hashbrown` promises no iteration order, and no result below depends on one).

  Main results: the membership lemmas `mem_remove`, `mem_insert`, `mem_mapVal`,
  `eq_of_mem_of_mem` (one key, one value), and `get?_eq_some`.
-/

namespace CarrierPigeon

/-- A `HashMap<K, V>`: its entries in iteration order, keys pairwise distinct. -/
structure HashMap (K V : Type) where
  entries : List (K × V)
  nodup : (entries.map Prod.fst).Nodup
  deriving DecidableEq

namespace HashMap

variable {K V : Type}

/-- `HashMap::new`. -/
def empty : HashMap K V := ⟨[], List.nodup_nil⟩

/-- `HashMap::get`. -/
def get? [DecidableEq K] (m : HashMap K V) (k : K) : Option V := m.entries.lookup k

/-- `HashMap::len`. -/
def len (m : HashMap K V) : Nat := m.entries.length

/-- The keys, in iteration order. -/
def keys (m : HashMap K V) : List K := m.entries.map Prod.fst

/-- `HashMap::retain` on keys: keep the entries whose key satisfies `p`. -/
def retain (m : HashMap K V) (p : K → Bool) : HashMap K V :=
  ⟨m.entries.filter (fun e => p e.1), m.nodup.sublist ((List.filter_sublist _).map _)⟩

/-- `HashMap::remove`. -/
def remove [DecidableEq K] (m : HashMap K V) (k : K) : HashMap K V :=
  m.retain (· != k)

/-- `HashMap::insert`: the entry of `k`, if any, is replaced. -/
def insert [DecidableEq K] (m : HashMap K V) (k : K) (v : V) : HashMap K V :=
  ⟨(m.remove k).entries ++ [(k, v)], by
    rw [List.map_append, List.nodup_append]
    refine ⟨(m.remove k).nodup, List.nodup_singleton _, ?_⟩
    simp [remove, retain, List.Disjoint]⟩

/-- `iter_mut` writing `f k v` into every entry. -/
def mapVal (f : K → V → V) (m : HashMap K V) : HashMap K V :=
  ⟨m.entries.map (fun e => (e.1, f e.1 e.2)), by simpa [Function.comp_def] using m.nodup⟩

@[simp] theorem entries_empty : (empty : HashMap K V).entries = [] := rfl

@[simp] theorem mem_retain {m : HashMap K V} {p : K → Bool} {e : K × V} :
    e ∈ (m.retain p).entries ↔ e ∈ m.entries ∧ p e.1 = true := by
  simp [retain]

@[simp] theorem mem_remove [DecidableEq K] {m : HashMap K V} {k : K} {e : K × V} :
    e ∈ (m.remove k).entries ↔ e ∈ m.entries ∧ e.1 ≠ k := by
  simp [remove]

theorem retain_retain (m : HashMap K V) (p q : K → Bool) :
    (m.retain p).retain q = m.retain fun k => p k && q k := by
  simp [retain, List.filter_filter, Bool.and_comm]

theorem retain_true (m : HashMap K V) : m.retain (fun _ => true) = m := by
  simp [retain]

@[simp] theorem mem_insert [DecidableEq K] {m : HashMap K V} {k : K} {v : V} {e : K × V} :
    e ∈ (m.insert k v).entries ↔ (e ∈ m.entries ∧ e.1 ≠ k) ∨ e = (k, v) := by
  simp [insert]

@[simp] theorem mem_mapVal {f : K → V → V} {m : HashMap K V} {e : K × V} :
    e ∈ (m.mapVal f).entries ↔ ∃ v, (e.1, v) ∈ m.entries ∧ e.2 = f e.1 v := by
  obtain ⟨k, w⟩ := e
  simp only [mapVal, List.mem_map, Prod.mk.injEq]
  constructor
  · rintro ⟨⟨k', v⟩, hm, rfl, rfl⟩; exact ⟨v, hm, rfl⟩
  · rintro ⟨v, hm, rfl⟩; exact ⟨(k, v), hm, rfl, rfl⟩

@[simp] theorem keys_mapVal (f : K → V → V) (m : HashMap K V) : (m.mapVal f).keys = m.keys := by
  simp [keys, mapVal, Function.comp_def]

/-- One key, one value. -/
theorem eq_of_mem_of_mem {m : HashMap K V} {k : K} {v w : V}
    (hv : (k, v) ∈ m.entries) (hw : (k, w) ∈ m.entries) : v = w := by
  have := List.inj_on_of_nodup_map m.nodup hv hw rfl
  simp_all

theorem mem_keys {m : HashMap K V} {k : K} : k ∈ m.keys ↔ ∃ v, (k, v) ∈ m.entries := by
  simp [keys]

/-- `get` returns the value of the key's entry. -/
theorem get?_eq_some [DecidableEq K] {m : HashMap K V} {k : K} {v : V} (h : (k, v) ∈ m.entries) :
    m.get? k = some v := by
  obtain ⟨w, hw⟩ := Option.isSome_iff_exists.mp
    (List.lookup_isSome_iff.mpr ⟨(k, v), h, beq_self_eq_true k⟩)
  obtain ⟨l₁, l₂, hl, -⟩ := List.lookup_eq_some_iff.mp hw
  have hmem : (k, w) ∈ m.entries := hl ▸ List.mem_append_right _ (List.mem_cons_self _ _)
  rw [get?, hw, eq_of_mem_of_mem h hmem]

end HashMap

end CarrierPigeon
