import CarrierPigeon.MessageTable
/-
  CarrierPigeon.MessageTable.Build
  ────────────────────────────────
  **THE `tid_map` THAT `build` NUMBERS, AND A CONTROL TYPE GIVEN TWICE.**

  `build`'s loop inserts `(tid, idx)` for every entry in turn, so a type ends up at the index
  of its LAST entry.  When the entries' types are distinct, `tid_map` is the numbering of the
  entries: entry `i`'s type maps to `i` and to nothing else.

  Registration refuses a type twice, and `build::<C, R, D>` checks `C`, `R` and `D` against the
  registered table; so when the three control types differ, every type's `MId` holds the
  transport and the serde functions it was registered with.

  But `build::<C, R, D>` checks `C`, `R` and `D` against the registered table only, never against
  each other.  `build::<C, C, D>` passes every check and numbers `C` twice; the second insert
  overwrites the first, so `C` maps to `RESPONSE_TYPE_MID`, no type maps to
  `CONNECTION_TYPE_MID`, and `mid_count` still counts both slots.

  Main results:
    * `mem_collect_tidMap` — with distinct types, `(tid, i)` is in the built `tid_map` iff
      entry `i` has type `tid`.
    * `MsgTable.build_eq_ok`, `SortedMsgTable.build_eq_ok` — when `build` succeeds, and what
      it builds.
    * `MsgTable.mem_build_tidMap` — with distinct `C`, `R`, `D` and registered types, the
      built `tid_map` numbers every type by its slot.
    * `build_accepts_repeated_control_type` — `build::<C, C, D>` succeeds with a `tid_map` in
      which no type has `CONNECTION_TYPE_MID`; `SortedMsgTable.build_repeated` likewise.
    * `build_routes_every_type` — after a registration run that succeeds and a `build` with
      distinct control types, every type's `MId` holds its own transport and serde functions.
-/

namespace CarrierPigeon

variable {Tid Ser Deser : Type} [DecidableEq Tid]

namespace MsgTableParts

/-! ## §1. The loop of `build`. -/

/-- Every pair of the built `tid_map` comes from the start or from a turn of the loop. -/
theorem mem_foldl_push {l : List (MId × Entry Tid Ser Deser)} {p : MsgTableParts Tid Ser Deser}
    {k : Tid} {v : MId} (h : (k, v) ∈ (l.foldl (fun p ie => p.push ie.1 ie.2) p).tidMap.entries) :
    (k, v) ∈ p.tidMap.entries ∨ (v, k) ∈ l.map fun ie => (ie.1, ie.2.1) := by
  induction l generalizing p with
  | nil => exact .inl h
  | cons ie l ih =>
    rcases ih h with h | h
    · rcases HashMap.mem_insert.mp h with ⟨h, -⟩ | h
      · exact .inl h
      · cases h; exact .inr (List.mem_cons_self _ _)
    · exact .inr (List.mem_cons_of_mem _ h)

/-- A pair of the start survives the loop when no turn inserts its type again. -/
theorem mem_foldl_push_of_mem {l : List (MId × Entry Tid Ser Deser)}
    {p : MsgTableParts Tid Ser Deser} {k : Tid} {v : MId} (h : (k, v) ∈ p.tidMap.entries)
    (hk : k ∉ l.map (·.2.1)) :
    (k, v) ∈ (l.foldl (fun p ie => p.push ie.1 ie.2) p).tidMap.entries := by
  induction l generalizing p with
  | nil => exact h
  | cons ie l ih =>
    simp only [List.map_cons, List.mem_cons, not_or] at hk
    exact ih (HashMap.mem_insert.mpr (.inl ⟨h, hk.1⟩)) hk.2

/-- With distinct types, the loop adds exactly the pairs `(type, index)` of its turns. -/
theorem mem_foldl_push_iff {l : List (MId × Entry Tid Ser Deser)} {p : MsgTableParts Tid Ser Deser}
    (hnd : (l.map (·.2.1)).Nodup) (hp : ∀ k v, (k, v) ∈ p.tidMap.entries → k ∉ l.map (·.2.1))
    {k : Tid} {v : MId} :
    (k, v) ∈ (l.foldl (fun p ie => p.push ie.1 ie.2) p).tidMap.entries ↔
      (k, v) ∈ p.tidMap.entries ∨ (v, k) ∈ l.map fun ie => (ie.1, ie.2.1) := by
  refine ⟨mem_foldl_push, ?_⟩
  rintro (h | h)
  · exact mem_foldl_push_of_mem h (hp k v h)
  · obtain ⟨⟨i, e⟩, hie, he⟩ := List.mem_map.mp h
    obtain ⟨rfl, rfl⟩ := Prod.mk.inj he
    obtain ⟨s, t, rfl⟩ := List.append_of_mem hie
    simp only [List.map_append, List.map_cons, List.nodup_append, List.nodup_cons] at hnd
    rw [List.foldl_append, List.foldl_cons]
    exact mem_foldl_push_of_mem (HashMap.mem_insert.mpr (.inr rfl)) hnd.2.1.1

/-- **The numbering.**  When the entries' types are distinct, `(tid, i)` is in the built
`tid_map` exactly when entry `i` has type `tid`. -/
theorem mem_collect_tidMap {es : List (Entry Tid Ser Deser)} (hnd : (es.map (·.1)).Nodup)
    {k : Tid} {i : MId} :
    (k, i) ∈ (collect es).tidMap.entries ↔ ∃ e, es[i]? = some e ∧ e.1 = k := by
  have hmap : es.enum.map (·.2.1) = es.map (·.1) := by
    rw [← List.enum_map_snd es, List.map_map, List.enum_map_snd]; rfl
  rw [collect, mem_foldl_push_iff (hmap ▸ hnd) fun _ _ h => by simp [empty] at h]
  simp [empty, List.mem_enum_iff_getElem?]

/-- Two entries of one type in slots 0 and 1, another type in slot 2, and the rest without the
first type: the second insert overwrites the first, and no type keeps slot 0. -/
theorem collect_repeated {c c' d : Entry Tid Ser Deser} {rest : List (Entry Tid Ser Deser)}
    (hc' : c'.1 = c.1) (hd : d.1 ≠ c.1) (hrest : c.1 ∉ rest.map (·.1)) :
    (collect ([c, c', d] ++ rest)).midCount = rest.length + 3 ∧
      (c.1, 1) ∈ (collect ([c, c', d] ++ rest)).tidMap.entries ∧
      ∀ k, (k, 0) ∉ (collect ([c, c', d] ++ rest)).tidMap.entries := by
  -- after the three slots, `tid_map` is `{c ↦ 1, d ↦ 2}`; the rest is numbered from 3
  have hp : ((empty.push 0 c).push 1 c' |>.push 2 d).tidMap.entries = [(c.1, 1), (d.1, 2)] := by
    simp [push, empty, HashMap.insert, HashMap.remove, HashMap.retain, hc', Ne.symm hd]
  have hsnd : (rest.enumFrom 3).map (·.2.1) = rest.map (·.1) := by
    rw [← List.enumFrom_map_snd 3 rest, List.map_map, List.enumFrom_map_snd]; rfl
  refine ⟨by simp [midCount, (collect_vectors _).1], ?_, fun k hk => ?_⟩
  · exact mem_foldl_push_of_mem (l := rest.enumFrom 3) (by simp [hp]) (hsnd ▸ hrest)
  · rcases mem_foldl_push (l := rest.enumFrom 3) hk with h | h
    · simp [hp] at h
    · obtain ⟨⟨i, e⟩, hie, he⟩ := List.mem_map.mp h
      have := List.le_fst_of_mem_enumFrom hie
      simp only [Prod.mk.injEq] at this he
      exact absurd he.1 (Nat.ne_of_gt (Nat.lt_of_lt_of_le (by decide) this))

end MsgTableParts

/-! ## §2. When `build` succeeds. -/

theorem except_bind_eq_ok {ε α β : Type} {x : Except ε α} {f : α → Except ε β} {b : β} :
    (x >>= f) = .ok b ↔ ∃ a, x = .ok a ∧ f a = .ok b := by
  cases x <;> simp [bind, Except.bind]

namespace MsgTable

theorem getCustomRegistration_eq_ok {t : MsgTable Tid Ser Deser} {T : MsgType Tid Ser Deser}
    {transport : Transport} {ser : Ser} {deser : Deser} {e : Entry Tid Ser Deser} :
    t.getCustomRegistration T transport ser deser = .ok e ↔
      T.tid ∉ t.table.map (·.1) ∧ e = (T.tid, transport, ser, deser) := by
  unfold getCustomRegistration
  simp only [List.any_eq_true, beq_iff_eq, List.mem_map]
  split_ifs with h
  · simp only [reduceCtorEq, false_iff, not_and]; exact fun h' => absurd h h'
  · simp only [Except.ok.injEq]; exact ⟨fun he => ⟨h, he.symm⟩, fun he => he.2.symm⟩

/-- **`build` succeeds exactly when none of `C`, `R`, `D` is registered**, each checked
against the table alone; it then numbers `C`, `R`, `D` and the table in order. -/
theorem build_eq_ok {t : MsgTable Tid Ser Deser} {C R D : MsgType Tid Ser Deser}
    {parts : MsgTableParts Tid Ser Deser} :
    t.build C R D = .ok parts ↔
      C.tid ∉ t.table.map (·.1) ∧ R.tid ∉ t.table.map (·.1) ∧ D.tid ∉ t.table.map (·.1) ∧
        parts = MsgTableParts.collect ([(C.tid, .TCP, C.ser, C.deser), (R.tid, .TCP, R.ser, R.deser),
          (D.tid, .TCP, D.ser, D.deser)] ++ t.table) := by
  simp only [build, getRegistration, except_bind_eq_ok, getCustomRegistration_eq_ok, pure,
    Except.pure, Except.ok.injEq]
  constructor
  · rintro ⟨_, ⟨hC, rfl⟩, _, ⟨hR, rfl⟩, _, ⟨hD, rfl⟩, rfl⟩; exact ⟨hC, hR, hD, rfl⟩
  · rintro ⟨hC, hR, hD, rfl⟩; exact ⟨_, ⟨hC, rfl⟩, _, ⟨hR, rfl⟩, _, ⟨hD, rfl⟩, rfl⟩

/-- **With distinct types, `build` numbers every type by its slot**: `C` at
`CONNECTION_TYPE_MID`, `R` at `RESPONSE_TYPE_MID`, `D` at `DISCONNECT_TYPE_MID`, the `i`-th
registered type at `i + 3`, and nothing else. -/
theorem mem_build_tidMap {t : MsgTable Tid Ser Deser} {C R D : MsgType Tid Ser Deser}
    {parts : MsgTableParts Tid Ser Deser} (h : t.build C R D = .ok parts)
    (hnd : ([C.tid, R.tid, D.tid] ++ t.table.map (·.1)).Nodup) {k : Tid} {i : MId} :
    (k, i) ∈ parts.tidMap.entries ↔
      ∃ e, ([(C.tid, .TCP, C.ser, C.deser), (R.tid, .TCP, R.ser, R.deser),
        (D.tid, .TCP, D.ser, D.deser)] ++ t.table)[i]? = some e ∧ e.1 = k := by
  obtain ⟨-, -, -, rfl⟩ := build_eq_ok.mp h
  exact MsgTableParts.mem_collect_tidMap (by simpa using hnd)

end MsgTable

namespace SortedMsgTable

/-- **`build` of a `SortedMsgTable` succeeds exactly when the reserved identifiers are unused
and none of `C`, `R`, `D` is registered**, each checked against the table alone. -/
theorem build_eq_ok {t : SortedMsgTable Tid Ser Deser} {C R D : MsgType Tid Ser Deser}
    {parts : MsgTableParts Tid Ser Deser} :
    t.build C R D = .ok parts ↔
      "carrier-pigeon::connection" ∉ t.table.map SortedEntry.identifier ∧
      "carrier-pigeon::response" ∉ t.table.map SortedEntry.identifier ∧
      "carrier-pigeon::disconnect" ∉ t.table.map SortedEntry.identifier ∧
      C.tid ∉ t.table.map SortedEntry.tid ∧ R.tid ∉ t.table.map SortedEntry.tid ∧
      D.tid ∉ t.table.map SortedEntry.tid ∧
      parts = MsgTableParts.collect ([(C.tid, .TCP, C.ser, C.deser), (R.tid, .TCP, R.ser, R.deser),
        (D.tid, .TCP, D.ser, D.deser)] ++ (sortByIdentifier t.table).map SortedEntry.erase) := by
  simp only [build, getRegistration, except_bind_eq_ok, getCustomRegistration_eq_ok, pure,
    Except.pure, Except.ok.injEq]
  constructor
  · rintro ⟨_, ⟨hc, hC, rfl⟩, _, ⟨hr, hR, rfl⟩, _, ⟨hd, hD, rfl⟩, rfl⟩
    exact ⟨hc, hr, hd, hC, hR, hD, rfl⟩
  · rintro ⟨hc, hr, hd, hC, hR, hD, rfl⟩
    exact ⟨_, ⟨hc, hC, rfl⟩, _, ⟨hr, hR, rfl⟩, _, ⟨hd, hD, rfl⟩, rfl⟩

/-- `build::<C, C, D>` of a `SortedMsgTable` numbers `C` twice as well. -/
theorem build_repeated {t : SortedMsgTable Tid Ser Deser} {C D : MsgType Tid Ser Deser}
    {parts : MsgTableParts Tid Ser Deser} (h : t.build C C D = .ok parts) (hCD : C.tid ≠ D.tid) :
    parts.midCount = t.table.length + 3 ∧ (C.tid, responseTypeMid) ∈ parts.tidMap.entries ∧
      ∀ tid, (tid, connectionTypeMid) ∉ parts.tidMap.entries := by
  obtain ⟨-, -, -, hC, -, -, rfl⟩ := build_eq_ok.mp h
  have hrest : C.tid ∉ ((sortByIdentifier t.table).map SortedEntry.erase).map (·.1) := by
    simpa [sortByIdentifier, SortedEntry.erase, Function.comp_def,
      (List.mergeSort_perm t.table _).mem_iff] using hC
  have := MsgTableParts.collect_repeated (c := (C.tid, .TCP, C.ser, C.deser))
    (d := (D.tid, .TCP, D.ser, D.deser)) rfl (Ne.symm hCD) hrest
  simpa [sortByIdentifier, List.length_mergeSort] using this

end SortedMsgTable

/-! ## §3. A control type given twice. -/

/-- **`build::<C, C, D>` succeeds with a broken numbering.**  For every table in which `C` and
`D` are not registered, `build` with `C` as both connection and response type returns `Ok`:
`mid_count` counts `C`'s two slots, but `tid_map` sends `C` to `RESPONSE_TYPE_MID` and no type
to `CONNECTION_TYPE_MID`. -/
theorem build_accepts_repeated_control_type (t : MsgTable Tid Ser Deser)
    (C D : MsgType Tid Ser Deser) (hCD : C.tid ≠ D.tid) (hC : C.tid ∉ t.table.map (·.1))
    (hD : D.tid ∉ t.table.map (·.1)) :
    ∃ parts, t.build C C D = .ok parts ∧ parts.midCount = t.table.length + 3 ∧
      (C.tid, responseTypeMid) ∈ parts.tidMap.entries ∧
      ∀ tid, (tid, connectionTypeMid) ∉ parts.tidMap.entries :=
  ⟨_, MsgTable.build_eq_ok.mpr ⟨hC, hC, hD, rfl⟩,
    MsgTableParts.collect_repeated rfl (Ne.symm hCD) hC⟩

/-- On an empty table, with `C` of type 0 and `D` of type 1. -/
theorem build_accepts_repeated_control_type_new :
    ∃ parts, (MsgTable.new : MsgTable Nat Nat Nat).build ⟨0, 0, 0⟩ ⟨0, 0, 0⟩ ⟨1, 1, 1⟩ = .ok parts ∧
      parts.midCount = 3 ∧ (0, responseTypeMid) ∈ parts.tidMap.entries ∧
      ∀ tid, (tid, connectionTypeMid) ∉ parts.tidMap.entries :=
  build_accepts_repeated_control_type MsgTable.new ⟨0, 0, 0⟩ ⟨1, 1, 1⟩ (by decide)
    (by simp [MsgTable.new]) (by simp [MsgTable.new])

/-! ## §4. Every type is routed to its own registration. -/

namespace MsgTableParts

/-- **Routing.**  When the entries' types are distinct, each entry's type maps to a slot whose
transport and serde functions are the entry's own. -/
theorem collect_routes {es : List (Entry Tid Ser Deser)} (hnd : (es.map (·.1)).Nodup)
    {e : Entry Tid Ser Deser} (he : e ∈ es) :
    ∃ mid, (collect es).tidMap.get? e.1 = some mid ∧ (collect es).transports[mid]? = some e.2.1 ∧
      (collect es).ser[mid]? = some e.2.2.1 ∧ (collect es).deser[mid]? = some e.2.2.2 := by
  obtain ⟨mid, hmid⟩ := List.mem_iff_getElem?.mp he
  obtain ⟨ht, hs, hd⟩ := collect_vectors es
  refine ⟨mid, HashMap.get?_eq_some ((mem_collect_tidMap hnd).mpr ⟨e, hmid, rfl⟩), ?_, ?_, ?_⟩ <;>
    simp [ht, hs, hd, hmid]

end MsgTableParts

namespace SortedMsgTable

/-- A call that succeeds registers a type the table does not have. -/
theorem apply_tid_fresh {t t' : SortedMsgTable Tid Ser Deser} {r : SortedRegistration Tid Ser Deser}
    (h : r.apply t = .ok t') : r.entry.tid ∉ t.table.map SortedEntry.tid := by
  cases r <;> obtain ⟨e, he, -⟩ := except_bind_eq_ok.mp h <;>
    exact (getCustomRegistration_eq_ok.mp he).2.1

/-- A successful registration run from `new` registers no type twice. -/
theorem registerAll_tids {regs : List (SortedRegistration Tid Ser Deser)}
    {t : SortedMsgTable Tid Ser Deser} (h : registerAll regs = .ok t) :
    (t.table.map SortedEntry.tid).Nodup := by
  suffices ∀ t₀ : SortedMsgTable Tid Ser Deser, (t₀.table.map SortedEntry.tid).Nodup →
      regs.foldlM (fun t r => r.apply t) t₀ = .ok t → (t.table.map SortedEntry.tid).Nodup from
    this .new List.nodup_nil h
  clear h
  induction regs with
  | nil => intro t₀ hnd h; cases h; exact hnd
  | cons r regs ih =>
    intro t₀ hnd h
    obtain ⟨t₁, h₁, h⟩ := except_bind_eq_ok.mp h
    refine ih t₁ ?_ h
    rw [(apply_eq_ok h₁).2, List.map_append, List.map_singleton, List.nodup_append_comm]
    exact List.nodup_cons.mpr ⟨apply_tid_fresh h₁, hnd⟩

end SortedMsgTable

/-- **`build` routes every type to its own registration.**  After a registration run from
`new` that succeeds, and a `build` with three distinct control types that succeeds, every type
of the table — `C`, `R`, `D` and each registered one — has an `MId` in `tid_map`, and that
slot of `transports`, `ser` and `deser` holds the transport and the serde functions the type
was registered with.  So a message sent under a type's `MId` is read back by that type's own
deserializer. -/
theorem build_routes_every_type {regs : List (SortedRegistration Tid Ser Deser)}
    {t : SortedMsgTable Tid Ser Deser} (ht : registerAll regs = .ok t)
    {C R D : MsgType Tid Ser Deser} {parts : MsgTableParts Tid Ser Deser}
    (hb : t.build C R D = .ok parts) (hcrd : [C.tid, R.tid, D.tid].Nodup)
    {e : Entry Tid Ser Deser}
    (he : e ∈ [(C.tid, .TCP, C.ser, C.deser), (R.tid, .TCP, R.ser, R.deser),
      (D.tid, .TCP, D.ser, D.deser)] ++ regs.map fun r => r.entry.erase) :
    ∃ mid, parts.tidMap.get? e.1 = some mid ∧ parts.transports[mid]? = some e.2.1 ∧
      parts.ser[mid]? = some e.2.2.1 ∧ parts.deser[mid]? = some e.2.2.2 := by
  obtain ⟨-, -, -, hC, hR, hD, rfl⟩ := SortedMsgTable.build_eq_ok.mp hb
  have hperm : (SortedMsgTable.sortByIdentifier t.table).Perm t.table := List.mergeSort_perm _ _
  have hregs : regs.map (fun r => r.entry.erase) = t.table.map SortedEntry.erase := by
    rw [(registerAll_table ht).1, List.map_map]; rfl
  refine MsgTableParts.collect_routes ?_ ?_
  · -- the control types, then the registered types, all distinct
    have htids := (hperm.map SortedEntry.tid).nodup_iff.mpr (SortedMsgTable.registerAll_tids ht)
    have hmem : ∀ x, x ∈ (SortedMsgTable.sortByIdentifier t.table).map SortedEntry.tid ↔
        x ∈ t.table.map SortedEntry.tid := fun x => (hperm.map _).mem_iff
    simp only [List.map_append, List.map_cons, List.map_nil, List.map_map, List.nodup_append]
    refine ⟨hcrd, htids, ?_⟩
    intro x hx hy
    simp only [List.mem_cons, List.not_mem_nil, or_false] at hx
    have hy' : x ∈ t.table.map SortedEntry.tid := (hmem x).mp (by simpa [SortedEntry.erase] using hy)
    rcases hx with rfl | rfl | rfl
    exacts [hC hy', hR hy', hD hy']
  · rw [hregs] at he
    rcases List.mem_append.mp he with he | he
    · exact List.mem_append_left _ he
    · exact List.mem_append_right _ ((hperm.map _).mem_iff.mpr he)

/-- Types 1 (`a`) and 2 (`b`) registered, control types 3, 4, 5: `b`, the last one
registered, is routed to its own UDP transport and serde functions. -/
theorem build_routes_every_type_ab :
    registerAll regsAB = .ok ⟨regsAB.map SortedRegistration.entry⟩ ∧
      ∃ parts, SortedMsgTable.build ⟨regsAB.map SortedRegistration.entry⟩ ⟨3, 3, 3⟩ ⟨4, 4, 4⟩
          ⟨5, 5, 5⟩ = .ok parts ∧
        ∃ mid, parts.tidMap.get? 2 = some mid ∧ parts.transports[mid]? = some .UDP ∧
          parts.ser[mid]? = some 2 ∧ parts.deser[mid]? = some 2 := by
  have ht : registerAll regsAB = .ok ⟨regsAB.map SortedRegistration.entry⟩ := rfl
  refine ⟨ht, _, rfl, ?_⟩
  exact build_routes_every_type ht (C := ⟨3, 3, 3⟩) (R := ⟨4, 4, 4⟩) (D := ⟨5, 5, 5⟩)
    (e := (2, .UDP, 2, 2)) (by rfl) (by decide) (by decide)

end CarrierPigeon
