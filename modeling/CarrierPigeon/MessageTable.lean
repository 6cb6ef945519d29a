import CarrierPigeon.HashMap
import Mathlib.Data.List.Sort
import Mathlib.Data.String.Basic
/-
  CarrierPigeon.MessageTable
  ──────────────────────────
  **THE MESSAGE TABLES AND THEIR BUILD.**

  `MsgTable` and `SortedMsgTable` collect one entry per registered message type.  `build`
  puts the connection, response and disconnection types `C`, `R`, `D` in the first three
  slots, then the registered entries, and numbers them: slot `i` is `MId` `i`.  A plain
  `MsgTable` keeps registration order; a `SortedMsgTable` registers each type under a unique
  string and sorts on it before numbering, so that peers that register the same types in
  different orders agree on every `MId`.

  A Rust type `T` appears here as a `MsgType`: its `TypeId` and the serde function pointers
  that `get_registration::<T>` builds for it.  `TypeId`, `SerFn` and `DeserFn` are type
  parameters, compared only for equality, as the code compares them.

  Main results:
    * `registerAll_table` — a run of registrations that succeeds holds exactly the entries it
      registered, in order, with pairwise distinct identifiers.
    * `collect_vectors` — slot `i` of the built vectors holds entry `i`.
    * `validMid_midCount` — `valid_mid` accepts `mid_count`, which indexes no vector.
    * `build_eq_of_perm` — `build` sees the table only up to permutation.
    * `build_registration_order_independent` — two successful registration runs of one set
      of entries build the same parts, or fail with the same error.
-/

namespace CarrierPigeon

/-- `net::Transport`: how messages of a type travel. -/
inductive Transport where
  | TCP
  | UDP
  deriving DecidableEq, Repr

/-- Message id: a slot of the built table (`usize`). -/
abbrev MId := Nat

/-- `CONNECTION_TYPE_MID`. -/
def connectionTypeMid : MId := 0
/-- `RESPONSE_TYPE_MID`. -/
def responseTypeMid : MId := 1
/-- `DISCONNECT_TYPE_MID`. -/
def disconnectTypeMid : MId := 2

/-- `MsgRegError`. -/
inductive MsgRegError where
  /-- The type was already registered. -/
  | TypeAlreadyRegistered
  /-- The identifier string was already used. -/
  | NonUniqueIdentifier
  deriving DecidableEq, Repr

variable {Tid Ser Deser : Type} [DecidableEq Tid]

/-- A Rust type `T` as registration sees it: `TypeId::of::<T>()` and the bincode `SerFn` and
`DeserFn` that `get_registration::<T>` builds. -/
structure MsgType (Tid Ser Deser : Type) where
  tid : Tid
  ser : Ser
  deser : Deser
  deriving DecidableEq, Repr

/-! ## §1. The built parts. -/

/-- `MsgTableParts`: the `MId` of each type, and per `MId` its transport and serde functions. -/
structure MsgTableParts (Tid Ser Deser : Type) where
  tidMap : HashMap Tid MId
  transports : List Transport
  ser : List Ser
  deser : List Deser
  deriving DecidableEq

/-- An entry of a `MsgTable`: `(TypeId, Transport, SerFn, DeserFn)`. -/
abbrev Entry (Tid Ser Deser : Type) := Tid × Transport × Ser × Deser

namespace MsgTableParts

/-- The empty vectors and map `build` starts from. -/
def empty : MsgTableParts Tid Ser Deser := ⟨HashMap.empty, [], [], []⟩

/-- One turn of `build`'s loop: `tid_map.insert(tid, idx)` and a push onto each vector. -/
def push (p : MsgTableParts Tid Ser Deser) (idx : MId) (e : Entry Tid Ser Deser) :
    MsgTableParts Tid Ser Deser :=
  ⟨p.tidMap.insert e.1 idx, p.transports ++ [e.2.1], p.ser ++ [e.2.2.1], p.deser ++ [e.2.2.2]⟩

/-- `build`'s loop over the enumerated entries. -/
def collect (es : List (Entry Tid Ser Deser)) : MsgTableParts Tid Ser Deser :=
  es.enum.foldl (fun p ie => p.push ie.1 ie.2) empty

/-- `mid_count`: the number of registered `MId`s. -/
def midCount (p : MsgTableParts Tid Ser Deser) : Nat := p.transports.length

/-- `valid_mid`. -/
def validMid (p : MsgTableParts Tid Ser Deser) (mid : MId) : Bool := mid ≤ p.midCount

/-- `valid_tid`. -/
def validTid (p : MsgTableParts Tid Ser Deser) (tid : Tid) : Bool := tid ∈ p.tidMap.keys

/-- `build`'s loop appends one entry per turn to each vector. -/
theorem foldl_push_vectors (l : List (MId × Entry Tid Ser Deser)) (p : MsgTableParts Tid Ser Deser) :
    (l.foldl (fun p ie => p.push ie.1 ie.2) p).transports = p.transports ++ l.map (·.2.2.1) ∧
      (l.foldl (fun p ie => p.push ie.1 ie.2) p).ser = p.ser ++ l.map (·.2.2.2.1) ∧
      (l.foldl (fun p ie => p.push ie.1 ie.2) p).deser = p.deser ++ l.map (·.2.2.2.2) := by
  induction l generalizing p with
  | nil => simp
  | cons ie l ih => simpa [push] using ih (p.push ie.1 ie.2)

/-- Slot `i` of each vector is entry `i`'s. -/
theorem collect_vectors (es : List (Entry Tid Ser Deser)) :
    (collect es).transports = es.map (·.2.1) ∧ (collect es).ser = es.map (·.2.2.1) ∧
      (collect es).deser = es.map (·.2.2.2) := by
  obtain ⟨ht, hs, hd⟩ := foldl_push_vectors es.enum empty
  have hmap : ∀ {β : Type} (f : Entry Tid Ser Deser → β), es.enum.map (fun ie => f ie.2) = es.map f :=
    fun f => by
      conv_rhs => rw [← List.enum_map_snd es, List.map_map]
      rfl
  rw [collect, ht, hs, hd]
  exact ⟨hmap (·.2.1), hmap (·.2.2.1), hmap (·.2.2.2)⟩

/-- **`valid_mid` accepts one `MId` too many.**  It tests `mid ≤ mid_count`, and `mid_count`
itself indexes none of the vectors. -/
theorem validMid_midCount (es : List (Entry Tid Ser Deser)) :
    (collect es).validMid (collect es).midCount = true ∧
      (collect es).transports[(collect es).midCount]? = none ∧
      (collect es).ser[(collect es).midCount]? = none ∧
      (collect es).deser[(collect es).midCount]? = none := by
  obtain ⟨ht, hs, hd⟩ := collect_vectors es
  simp [validMid, midCount, ht, hs, hd]

end MsgTableParts

/-! ## §2. `MsgTable`: registration order is the `MId` order. -/

/-- `MsgTable`. -/
structure MsgTable (Tid Ser Deser : Type) where
  table : List (Entry Tid Ser Deser)

namespace MsgTable

/-- `MsgTable::new`. -/
def new : MsgTable Tid Ser Deser := ⟨[]⟩

/-- `get_custom_registration::<T>`: refuses a type that is already in the table. -/
def getCustomRegistration (t : MsgTable Tid Ser Deser) (T : MsgType Tid Ser Deser)
    (transport : Transport) (ser : Ser) (deser : Deser) :
    Except MsgRegError (Entry Tid Ser Deser) :=
  if t.table.any (fun e => e.1 == T.tid) then .error .TypeAlreadyRegistered
  else .ok (T.tid, transport, ser, deser)

/-- `get_registration::<T>`: `get_custom_registration` with `T`'s own serde functions. -/
def getRegistration (t : MsgTable Tid Ser Deser) (T : MsgType Tid Ser Deser)
    (transport : Transport) : Except MsgRegError (Entry Tid Ser Deser) :=
  t.getCustomRegistration T transport T.ser T.deser

/-- `register::<T>`. -/
def register (t : MsgTable Tid Ser Deser) (T : MsgType Tid Ser Deser) (transport : Transport) :
    Except MsgRegError (MsgTable Tid Ser Deser) := do
  let e ← t.getRegistration T transport
  pure ⟨t.table ++ [e]⟩

/-- `register_custom::<T>`. -/
def registerCustom (t : MsgTable Tid Ser Deser) (T : MsgType Tid Ser Deser)
    (transport : Transport) (ser : Ser) (deser : Deser) :
    Except MsgRegError (MsgTable Tid Ser Deser) := do
  let e ← t.getCustomRegistration T transport ser deser
  pure ⟨t.table ++ [e]⟩

/-- `build::<C, R, D>`: the three control types first, all over TCP, then the table. -/
def build (t : MsgTable Tid Ser Deser) (C R D : MsgType Tid Ser Deser) :
    Except MsgRegError (MsgTableParts Tid Ser Deser) := do
  let c ← t.getRegistration C .TCP
  let r ← t.getRegistration R .TCP
  let d ← t.getRegistration D .TCP
  pure (MsgTableParts.collect ([c, r, d] ++ t.table))

end MsgTable

/-! ## §3. `SortedMsgTable`: the identifier order is the `MId` order. -/

/-- An entry of a `SortedMsgTable`: `(String, TypeId, Transport, SerFn, DeserFn)`. -/
structure SortedEntry (Tid Ser Deser : Type) where
  identifier : String
  tid : Tid
  transport : Transport
  ser : Ser
  deser : Deser
  deriving DecidableEq, Repr

/-- The entry without its identifier, as `build`'s loop reads it. -/
def SortedEntry.erase (e : SortedEntry Tid Ser Deser) : Entry Tid Ser Deser :=
  (e.tid, e.transport, e.ser, e.deser)

/-- `SortedMsgTable`. -/
structure SortedMsgTable (Tid Ser Deser : Type) where
  table : List (SortedEntry Tid Ser Deser)

namespace SortedMsgTable

/-- `SortedMsgTable::new`. -/
def new : SortedMsgTable Tid Ser Deser := ⟨[]⟩

/-- `get_custom_registration::<T>`: refuses a used identifier first, then a registered type. -/
def getCustomRegistration (t : SortedMsgTable Tid Ser Deser) (T : MsgType Tid Ser Deser)
    (identifier : String) (transport : Transport) (ser : Ser) (deser : Deser) :
    Except MsgRegError (SortedEntry Tid Ser Deser) :=
  if t.table.any (fun e => e.identifier == identifier) then .error .NonUniqueIdentifier
  else if t.table.any (fun e => e.tid == T.tid) then .error .TypeAlreadyRegistered
  else .ok ⟨identifier, T.tid, transport, ser, deser⟩

/-- `get_registration::<T>`. -/
def getRegistration (t : SortedMsgTable Tid Ser Deser) (T : MsgType Tid Ser Deser)
    (identifier : String) (transport : Transport) : Except MsgRegError (SortedEntry Tid Ser Deser) :=
  t.getCustomRegistration T identifier transport T.ser T.deser

/-- `register::<T>(transport, identifier)`. -/
def register (t : SortedMsgTable Tid Ser Deser) (T : MsgType Tid Ser Deser) (transport : Transport)
    (identifier : String) : Except MsgRegError (SortedMsgTable Tid Ser Deser) := do
  let e ← t.getRegistration T identifier transport
  pure ⟨t.table ++ [e]⟩

/-- `register_custom::<T>(identifier, transport, ser, deser)`.  The source writes the two
checks of `get_custom_registration` inline, in the same order. -/
def registerCustom (t : SortedMsgTable Tid Ser Deser) (T : MsgType Tid Ser Deser)
    (identifier : String) (transport : Transport) (ser : Ser) (deser : Deser) :
    Except MsgRegError (SortedMsgTable Tid Ser Deser) := do
  let e ← t.getCustomRegistration T identifier transport ser deser
  pure ⟨t.table ++ [e]⟩

/-- `sort_by(|a, b| a.0.cmp(&b.0))`: a stable sort on the identifier.  Rust orders `String`s
by their UTF-8 bytes, which is the order of their code points, Lean's `String` order. -/
def sortByIdentifier (es : List (SortedEntry Tid Ser Deser)) : List (SortedEntry Tid Ser Deser) :=
  es.mergeSort fun a b => decide (a.identifier ≤ b.identifier)

/-- `build::<C, R, D>`: the control types under their reserved identifiers, then the table
sorted by identifier. -/
def build (t : SortedMsgTable Tid Ser Deser) (C R D : MsgType Tid Ser Deser) :
    Except MsgRegError (MsgTableParts Tid Ser Deser) := do
  let c ← t.getRegistration C "carrier-pigeon::connection" .TCP
  let r ← t.getRegistration R "carrier-pigeon::response" .TCP
  let d ← t.getRegistration D "carrier-pigeon::disconnect" .TCP
  pure (MsgTableParts.collect (([c, r, d] ++ sortByIdentifier t.table).map SortedEntry.erase))

end SortedMsgTable

/-- One call on a `SortedMsgTable`. -/
inductive SortedRegistration (Tid Ser Deser : Type) where
  | register (T : MsgType Tid Ser Deser) (transport : Transport) (identifier : String)
  | registerCustom (T : MsgType Tid Ser Deser) (identifier : String) (transport : Transport)
      (ser : Ser) (deser : Deser)

namespace SortedRegistration

/-- The call, made on `t`. -/
def apply (t : SortedMsgTable Tid Ser Deser) :
    SortedRegistration Tid Ser Deser → Except MsgRegError (SortedMsgTable Tid Ser Deser)
  | .register T transport identifier => t.register T transport identifier
  | .registerCustom T identifier transport ser deser =>
    t.registerCustom T identifier transport ser deser

/-- The entry the call registers. -/
def entry : SortedRegistration Tid Ser Deser → SortedEntry Tid Ser Deser
  | .register T transport identifier => ⟨identifier, T.tid, transport, T.ser, T.deser⟩
  | .registerCustom T identifier transport ser deser => ⟨identifier, T.tid, transport, ser, deser⟩

end SortedRegistration

/-- The calls in turn on `SortedMsgTable::new`, stopping at the first error. -/
def registerAll (regs : List (SortedRegistration Tid Ser Deser)) :
    Except MsgRegError (SortedMsgTable Tid Ser Deser) :=
  regs.foldlM (fun t r => r.apply t) SortedMsgTable.new

/-! ## §4. What a successful registration run holds. -/

namespace SortedMsgTable

theorem getCustomRegistration_eq_ok {t : SortedMsgTable Tid Ser Deser} {T : MsgType Tid Ser Deser}
    {identifier : String} {transport : Transport} {ser : Ser} {deser : Deser}
    {e : SortedEntry Tid Ser Deser} :
    t.getCustomRegistration T identifier transport ser deser = .ok e ↔
      identifier ∉ t.table.map SortedEntry.identifier ∧ T.tid ∉ t.table.map SortedEntry.tid ∧
        e = ⟨identifier, T.tid, transport, ser, deser⟩ := by
  unfold getCustomRegistration
  simp only [List.any_eq_true, beq_iff_eq, List.mem_map]
  split_ifs with hid htid
  · simp only [reduceCtorEq, false_iff]; exact fun h => h.1 hid
  · simp only [reduceCtorEq, false_iff]; exact fun h => h.2.1 htid
  · simp only [Except.ok.injEq]; exact ⟨fun h => ⟨hid, htid, h.symm⟩, fun h => h.2.2.symm⟩

/-- The step lemma: a call that succeeds appends its entry, under an identifier not yet used. -/
theorem apply_eq_ok {t t' : SortedMsgTable Tid Ser Deser} {r : SortedRegistration Tid Ser Deser}
    (h : r.apply t = .ok t') :
    r.entry.identifier ∉ t.table.map SortedEntry.identifier ∧ t'.table = t.table ++ [r.entry] := by
  -- both calls push the entry `get_custom_registration` returns
  have push : ∀ {x : Except MsgRegError (SortedEntry Tid Ser Deser)},
      (do let e ← x; pure ⟨t.table ++ [e]⟩ : Except MsgRegError (SortedMsgTable Tid Ser Deser)) =
        .ok t' → ∃ e, x = .ok e ∧ t'.table = t.table ++ [e] := by
    intro x hx; cases x <;> cases hx; exact ⟨_, rfl, rfl⟩
  cases r <;> obtain ⟨e, he, htab⟩ := push h <;>
    obtain ⟨hid, -, rfl⟩ := getCustomRegistration_eq_ok.mp he <;> exact ⟨hid, htab⟩

/-- The run lemma, from any start whose identifiers are distinct. -/
theorem foldlM_apply_eq_ok (regs : List (SortedRegistration Tid Ser Deser))
    {t t' : SortedMsgTable Tid Ser Deser} (hnd : (t.table.map SortedEntry.identifier).Nodup)
    (h : regs.foldlM (fun t r => r.apply t) t = .ok t') :
    t'.table = t.table ++ regs.map SortedRegistration.entry ∧
      (t'.table.map SortedEntry.identifier).Nodup := by
  induction regs generalizing t with
  | nil => cases h; simpa using hnd
  | cons r regs ih =>
    simp only [List.foldlM_cons, bind, Except.bind] at h
    split at h
    · cases h
    · rename_i t₁ h₁
      obtain ⟨hfresh, htab⟩ := apply_eq_ok h₁
      have hnd₁ : (t₁.table.map SortedEntry.identifier).Nodup := by
        rw [htab, List.map_append, List.map_singleton, List.nodup_append_comm]
        exact List.nodup_cons.mpr ⟨hfresh, hnd⟩
      obtain ⟨htab', hnd'⟩ := ih hnd₁ h
      exact ⟨by simp [htab', htab], hnd'⟩

end SortedMsgTable

/-- **A successful registration run holds exactly what it registered**, in call order, and no
identifier twice. -/
theorem registerAll_table {regs : List (SortedRegistration Tid Ser Deser)}
    {t : SortedMsgTable Tid Ser Deser} (h : registerAll regs = .ok t) :
    t.table = regs.map SortedRegistration.entry ∧ (t.table.map SortedEntry.identifier).Nodup := by
  simpa [SortedMsgTable.new] using
    SortedMsgTable.foldlM_apply_eq_ok (t := .new) regs List.nodup_nil h

/-! ## §5. `build` sees the table up to permutation. -/

namespace SortedMsgTable

theorem getCustomRegistration_perm {t₁ t₂ : SortedMsgTable Tid Ser Deser}
    (hp : t₁.table.Perm t₂.table) (T : MsgType Tid Ser Deser) (identifier : String)
    (transport : Transport) (ser : Ser) (deser : Deser) :
    t₁.getCustomRegistration T identifier transport ser deser =
      t₂.getCustomRegistration T identifier transport ser deser := by
  simp only [getCustomRegistration, List.any_eq, hp.mem_iff]

omit [DecidableEq Tid] in
/-- Sorting two orderings of one table with distinct identifiers gives one list. -/
theorem sortByIdentifier_eq_of_perm {l₁ l₂ : List (SortedEntry Tid Ser Deser)}
    (hnd : (l₁.map SortedEntry.identifier).Nodup) (hp : l₁.Perm l₂) :
    sortByIdentifier l₁ = sortByIdentifier l₂ := by
  let lt : SortedEntry Tid Ser Deser → SortedEntry Tid Ser Deser → Prop :=
    fun a b => a.identifier < b.identifier
  haveI : IsAntisymm _ lt := ⟨fun _ _ h₁ h₂ => absurd (h₁.trans h₂) (lt_irrefl _)⟩
  have hsorted : ∀ l : List (SortedEntry Tid Ser Deser), l.Perm l₁ →
      (sortByIdentifier l).Sorted lt := fun l hl => by
    have hle : (sortByIdentifier l).Pairwise fun a b => decide (a.identifier ≤ b.identifier) :=
      List.sorted_mergeSort
        (fun _ _ _ h₁ h₂ => by simp only [decide_eq_true_eq] at *; exact h₁.trans h₂)
        (fun a b => by simpa using le_total a.identifier b.identifier) l
    have hne : (sortByIdentifier l).Pairwise fun a b => a.identifier ≠ b.identifier :=
      List.pairwise_map.mp (((List.mergeSort_perm l _).trans hl).map _ |>.nodup_iff.mpr hnd)
    exact (hle.and hne).imp fun ⟨h₁, h₂⟩ => lt_of_le_of_ne (by simpa using h₁) h₂
  exact List.eq_of_perm_of_sorted
    (((List.mergeSort_perm l₁ _).trans hp).trans (List.mergeSort_perm l₂ _).symm)
    (hsorted l₁ (List.Perm.refl _)) (hsorted l₂ hp.symm)

/-- **`build` reads the table only up to permutation** (identifiers distinct). -/
theorem build_eq_of_perm {t₁ t₂ : SortedMsgTable Tid Ser Deser}
    (hnd : (t₁.table.map SortedEntry.identifier).Nodup) (hp : t₁.table.Perm t₂.table)
    (C R D : MsgType Tid Ser Deser) : t₁.build C R D = t₂.build C R D := by
  simp only [build, getRegistration, getCustomRegistration_perm hp,
    sortByIdentifier_eq_of_perm hnd hp]

end SortedMsgTable

/-- **Registration order does not matter.**  Two registration runs that both succeed and
register the same set of entries build equal parts for every `C`, `R`, `D`, or fail on both
with the same error. -/
theorem build_registration_order_independent (regs₁ regs₂ : List (SortedRegistration Tid Ser Deser))
    (t₁ t₂ : SortedMsgTable Tid Ser Deser) (h₁ : registerAll regs₁ = .ok t₁)
    (h₂ : registerAll regs₂ = .ok t₂)
    (hsame : ∀ e, e ∈ regs₁.map SortedRegistration.entry ↔ e ∈ regs₂.map SortedRegistration.entry)
    (C R D : MsgType Tid Ser Deser) : t₁.build C R D = t₂.build C R D := by
  obtain ⟨htab₁, hnd₁⟩ := registerAll_table h₁
  obtain ⟨htab₂, hnd₂⟩ := registerAll_table h₂
  refine SortedMsgTable.build_eq_of_perm hnd₁ ?_ C R D
  rw [htab₁, htab₂]
  rw [htab₁] at hnd₁
  rw [htab₂] at hnd₂
  exact (List.perm_ext_iff_of_nodup hnd₁.of_map hnd₂.of_map).mpr hsame

/-- `a` (type 1, TCP) registered before `b` (type 2, UDP). -/
def regsAB : List (SortedRegistration Nat Nat Nat) :=
  [.register ⟨1, 1, 1⟩ .TCP "a", .register ⟨2, 2, 2⟩ .UDP "b"]

/-- `b` registered before `a`. -/
def regsBA : List (SortedRegistration Nat Nat Nat) :=
  [.register ⟨2, 2, 2⟩ .UDP "b", .register ⟨1, 1, 1⟩ .TCP "a"]

/-- The two orders, built with control types 3, 4, 5. -/
theorem build_registration_order_independent_ab :
    registerAll regsAB = .ok ⟨regsAB.map SortedRegistration.entry⟩ ∧
      registerAll regsBA = .ok ⟨regsBA.map SortedRegistration.entry⟩ ∧
      (∀ e, e ∈ regsAB.map SortedRegistration.entry ↔ e ∈ regsBA.map SortedRegistration.entry) ∧
      SortedMsgTable.build ⟨regsAB.map SortedRegistration.entry⟩ ⟨3, 3, 3⟩ ⟨4, 4, 4⟩ ⟨5, 5, 5⟩ =
        SortedMsgTable.build ⟨regsBA.map SortedRegistration.entry⟩ ⟨3, 3, 3⟩ ⟨4, 4, 4⟩ ⟨5, 5, 5⟩ := by
  have hsame : ∀ e, e ∈ regsAB.map SortedRegistration.entry ↔
      e ∈ regsBA.map SortedRegistration.entry := fun _ => (List.Perm.swap _ _ _).mem_iff
  have h₁ : registerAll regsAB = .ok ⟨regsAB.map SortedRegistration.entry⟩ := rfl
  have h₂ : registerAll regsBA = .ok ⟨regsBA.map SortedRegistration.entry⟩ := rfl
  exact ⟨h₁, h₂, hsame, build_registration_order_independent _ _ _ _ h₁ h₂ hsame _ _ _⟩

end CarrierPigeon
