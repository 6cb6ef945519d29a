import CarrierPigeon.Net.Header
import Mathlib.Data.List.Nodup
/-
  CarrierPigeon.Connection.ConnectionList
  ───────────────────────────────────────
  **THE SERVER'S CONNECTION DIRECTORY AND ITS `CId` COUNTER** (`src/connection/mod.rs`).

  `ConnectionList` hands out a `CId` to every new pending connection from `current_cid`,
  which starts at 1 and is incremented after each use; it also keeps the queue of pending
  connections and the `CId`–address map of the connected ones.  The map is a `DoubleHashMap`
  of `crate::util`, which is not in the sources: it is modelled from its uses here, as a
  one-to-one map whose `insert` refuses a key or a value that is already present.

  `current_cid += 1` is a `u32` addition: as everywhere in the development it runs as a debug
  build does, so the call that would wrap the counter panics (`none`).  Only `new_pending`
  touches the counter, so the `CId`s it returns over any run are `1, 2, 3, …` in order: no
  `CId` is handed out twice, and every run with fewer than `2^32 - 1` calls of `new_pending`
  finishes.

  Main results:
    * `apply_handed` — the step lemma: one call keeps "the `CId`s so far are `1, …, n`".
    * `runConnListFrom_handed` — the same over a whole run.
    * `cids_never_reused` — the `CId`s `new_pending` returns over any run are pairwise
      distinct, and the run finishes while fewer than `2^32 - 1` of them are asked for.
    * `apply_pending`, `pending_fifo` — the pending queue is first in, first out: what
      `get_pending` handed out, then what is still queued, is what `new_pending` was given.
-/

namespace CarrierPigeon

/-! ## §1. The `CId`–address map. -/

/-- Modelled from its uses in `connection/mod.rs`: `DoubleHashMap<K, V>`, a map that is
one-to-one both ways. -/
structure DoubleHashMap (K V : Type) where
  pairs : List (K × V)
  keys_nodup : (pairs.map Prod.fst).Nodup
  values_nodup : (pairs.map Prod.snd).Nodup

namespace DoubleHashMap

variable {K V : Type} [DecidableEq K]

/-- `DoubleHashMap::new`. -/
def new : DoubleHashMap K V := ⟨[], List.nodup_nil, List.nodup_nil⟩

/-- `insert(k, v)`: refused when `k` or `v` is already present. -/
def insert [DecidableEq V] (m : DoubleHashMap K V) (k : K) (v : V) : Except Unit (DoubleHashMap K V) :=
  if h : k ∈ m.pairs.map Prod.fst ∨ v ∈ m.pairs.map Prod.snd then .error ()
  else
    .ok ⟨m.pairs ++ [(k, v)],
      by simpa [List.nodup_append] using And.intro m.keys_nodup (not_or.mp h).1,
      by simpa [List.nodup_append] using And.intro m.values_nodup (not_or.mp h).2⟩

/-- `remove(&k)`: the map without `k`, and the value `k` had. -/
def remove (m : DoubleHashMap K V) (k : K) : DoubleHashMap K V × Option V :=
  (⟨m.pairs.filter (·.1 != k), m.keys_nodup.sublist ((List.filter_sublist _).map _),
    m.values_nodup.sublist ((List.filter_sublist _).map _)⟩,
    (m.pairs.find? (·.1 == k)).map Prod.snd)

/-- `contains_key(&k)`. -/
def containsKey (m : DoubleHashMap K V) (k : K) : Bool := k ∈ m.pairs.map Prod.fst

/-- A key the map contains has a value to remove. -/
theorem remove_isSome {m : DoubleHashMap K V} {k : K} (h : m.containsKey k = true) :
    (m.remove k).2.isSome := by
  simp only [containsKey, decide_eq_true_eq, List.mem_map] at h
  obtain ⟨⟨k', v⟩, hm, rfl⟩ := h
  simp only [remove, Option.isSome_map']
  exact (List.find?_isSome (p := fun x => x.1 == k')).mpr ⟨_, hm, beq_self_eq_true k'⟩

end DoubleHashMap

/-! ## §2. `ConnectionList`. -/

/-- `ConnectionListError`. -/
inductive ConnectionListError where
  /-- The `SocketAddress` was already connected. -/
  | AlreadyConnected
  /-- The `CId` was not connected. -/
  | NotConnected
  deriving DecidableEq, Repr

/-- `ConnectionList`: `Addr` is `SocketAddr`, `Msg` the `Box<dyn NetMsg>` of a connection
message. -/
structure ConnectionList (Addr Msg : Type) where
  /-- The current `CId`. The id to assign to new connections (then increment). -/
  currentCid : CId
  /-- The mapping of `CId`s to `SocketAddr`s and back. -/
  cidAddr : DoubleHashMap CId Addr
  /-- A queue that keeps track of new unhandled connections. -/
  pendingConnections : List (CId × Addr × Msg)

namespace ConnectionList

variable {Addr Msg : Type} [DecidableEq Addr]

/-- `ConnectionList::new`. -/
def new : ConnectionList Addr Msg := ⟨1, .new, []⟩

/-- Adds a new pending connection, and returns the `CId` that was assigned. -/
def newPending (addr : Addr) (connectionMsg : Msg) (s : ConnectionList Addr Msg) :
    Option (ConnectionList Addr Msg × Except ConnectionListError CId) := do
  let cid := s.currentCid
  let currentCid ← u32Add s.currentCid 1
  let pendingConnections := s.pendingConnections ++ [(cid, addr, connectionMsg)]
  some ({ s with currentCid, pendingConnections }, .ok cid)

/-- Gets the next pending connection if there is one. -/
def getPending (s : ConnectionList Addr Msg) : ConnectionList Addr Msg × Option (CId × Addr × Msg) :=
  match s.pendingConnections with
  | [] => (s, none)
  | p :: rest => ({ s with pendingConnections := rest }, some p)

/-- Handles adding a new connection. -/
def newConnection (cid : CId) (addr : Addr) (s : ConnectionList Addr Msg) :
    ConnectionList Addr Msg × Except ConnectionListError Unit :=
  match s.cidAddr.insert cid addr with
  | .error _ => (s, .error .AlreadyConnected)
  | .ok m => ({ s with cidAddr := m }, .ok ())

/-- `cid_connected`. -/
def cidConnected (cid : CId) (s : ConnectionList Addr Msg) : Bool := s.cidAddr.containsKey cid

/-- `remove_connection`; the `expect` on the removed address is a panic. -/
def removeConnection (cid : CId) (s : ConnectionList Addr Msg) :
    Option (ConnectionList Addr Msg × Except ConnectionListError Unit) :=
  if !s.cidConnected cid then some (s, .error .NotConnected)
  else
    match s.cidAddr.remove cid with
    | (_, none) => none
    | (m, some _) => some ({ s with cidAddr := m }, .ok ())

/-- `disconnect`: whether `cid` was connected. -/
def disconnect (cid : CId) (s : ConnectionList Addr Msg) : ConnectionList Addr Msg × Bool :=
  ({ s with cidAddr := (s.cidAddr.remove cid).1 }, (s.cidAddr.remove cid).2.isSome)

end ConnectionList

/-! ## §3. Runs. -/

/-- A call on a `ConnectionList`, with its arguments. -/
inductive ConnOp (Addr Msg : Type) where
  | newPending (addr : Addr) (connectionMsg : Msg)
  | getPending
  | newConnection (cid : CId) (addr : Addr)
  | removeConnection (cid : CId)
  | disconnect (cid : CId)

namespace ConnOp

variable {Addr Msg : Type} [DecidableEq Addr]

/-- Whether the call is a `new_pending`. -/
def isNewPending : ConnOp Addr Msg → Bool
  | .newPending .. => true
  | _ => false

/-- Performs the call; with the new state, the `CId`s it returned (`new_pending`'s). -/
def apply (s : ConnectionList Addr Msg) : ConnOp Addr Msg → Option (ConnectionList Addr Msg × List CId)
  | .newPending addr msg =>
    (s.newPending addr msg).map fun (s, r) => (s, match r with | .ok cid => [cid] | .error _ => [])
  | .getPending => some (s.getPending.1, [])
  | .newConnection cid addr => some ((s.newConnection cid addr).1, [])
  | .removeConnection cid => (s.removeConnection cid).map fun (s, _) => (s, [])
  | .disconnect cid => some ((s.disconnect cid).1, [])

end ConnOp

variable {Addr Msg : Type} [DecidableEq Addr]

/-- The calls in turn from `acc`, collecting the `CId`s `new_pending` returns; `none` at a
panic. -/
def runConnListFrom (acc : ConnectionList Addr Msg × List CId) (ops : List (ConnOp Addr Msg)) :
    Option (ConnectionList Addr Msg × List CId) :=
  ops.foldlM (fun acc op => (op.apply acc.1).map fun r => (r.1, acc.2 ++ r.2)) acc

/-- A run from `ConnectionList::new`. -/
def runConnList (ops : List (ConnOp Addr Msg)) : Option (ConnectionList Addr Msg × List CId) :=
  runConnListFrom (ConnectionList.new, []) ops

/-! ## §4. The `CId`s are `1, 2, 3, …`. -/

/-- The `CId`s handed out so far are `1, …, n`, and `current_cid` is `n + 1`. -/
def Handed (s : ConnectionList Addr Msg) (cids : List CId) : Prop :=
  cids = (List.range cids.length).map (fun i => UInt32.ofNat (i + 1)) ∧
    s.currentCid.toNat = cids.length + 1

omit [DecidableEq Addr] in
theorem handed_new : Handed (ConnectionList.new : ConnectionList Addr Msg) [] := ⟨rfl, rfl⟩

/-- Every call but `new_pending` leaves the counter and returns no `CId`. -/
theorem apply_of_not_newPending {s s' : ConnectionList Addr Msg} {op : ConnOp Addr Msg}
    {new : List CId} (hop : op.isNewPending = false) (h : op.apply s = some (s', new)) :
    s'.currentCid = s.currentCid ∧ new = [] := by
  cases op with
  | newPending => cases hop
  | getPending | newConnection cid addr =>
    simp only [ConnOp.apply, ConnectionList.getPending, ConnectionList.newConnection,
      Option.some.injEq, Prod.mk.injEq] at h
    obtain ⟨rfl, rfl⟩ := h
    split <;> exact ⟨rfl, rfl⟩
  | removeConnection cid =>
    obtain ⟨⟨t, r⟩, ht, he⟩ := Option.map_eq_some'.mp h
    cases he
    unfold ConnectionList.removeConnection at ht
    split at ht
    · cases ht; exact ⟨rfl, rfl⟩
    · split at ht
      · cases ht
      · cases ht; exact ⟨rfl, rfl⟩
  | disconnect cid => cases h; exact ⟨rfl, rfl⟩

/-- `new_pending` returns `current_cid` and moves the counter up by one. -/
theorem apply_of_newPending {s s' : ConnectionList Addr Msg} {op : ConnOp Addr Msg}
    {new : List CId} (hop : op.isNewPending = true) (h : op.apply s = some (s', new)) :
    u32Add s.currentCid 1 = some s'.currentCid ∧ new = [s.currentCid] := by
  obtain ⟨addr, msg, rfl⟩ : ∃ addr msg, op = .newPending addr msg := by
    cases op <;> first | exact ⟨_, _, rfl⟩ | cases hop
  simp only [ConnOp.apply, ConnectionList.newPending, Option.bind_eq_bind, Option.bind_eq_some,
    Option.map_eq_some', Option.some.injEq] at h
  obtain ⟨_, ⟨next, hnext, rfl⟩, he⟩ := h
  cases he
  exact ⟨hnext, rfl⟩

/-- **The step lemma.**  One call keeps `Handed`: `new_pending` returns `n + 1` and moves the
counter to `n + 2`, every other call returns nothing and leaves the counter. -/
theorem apply_handed {s s' : ConnectionList Addr Msg} {cids new : List CId} {op : ConnOp Addr Msg}
    (hh : Handed s cids) (h : op.apply s = some (s', new)) : Handed s' (cids ++ new) := by
  cases hop : op.isNewPending
  · obtain ⟨hc, rfl⟩ := apply_of_not_newPending hop h
    rw [List.append_nil, Handed, hc]; exact hh
  · obtain ⟨hnext, rfl⟩ := apply_of_newPending hop h
    obtain ⟨hcids, hcur⟩ := hh
    have hn := u32Add_eq_some.mp hnext
    rw [show (1 : UInt32).toNat = 1 from rfl] at hn
    have hcid : s.currentCid = UInt32.ofNat (cids.length + 1) := by
      apply UInt32.ext; simp only [uint32_toNat_ofNat, hcur]; omega
    refine ⟨?_, by simp only [List.length_append, List.length_singleton]; omega⟩
    rw [List.length_append, List.length_singleton, List.range_succ, List.map_append, ← hcids,
      hcid]
    rfl

/-- **The run lemma**: `Handed` along a whole run. -/
theorem runConnListFrom_handed :
    ∀ {ops : List (ConnOp Addr Msg)} {s s' : ConnectionList Addr Msg} {cids cids' : List CId},
      Handed s cids → runConnListFrom (s, cids) ops = some (s', cids') → Handed s' cids'
  | [], _, _, _, _, hh, h => by cases h; exact hh
  | op :: ops, s, s', cids, cids', hh, h => by
    simp only [runConnListFrom, List.foldlM_cons, Option.bind_eq_bind, Option.bind_eq_some,
      Option.map_eq_some'] at h
    obtain ⟨_, ⟨⟨t, new⟩, ht, rfl⟩, h⟩ := h
    exact runConnListFrom_handed (apply_handed hh ht) h

/-- A call returns one `CId` if it is a `new_pending`, none otherwise. -/
theorem apply_length {s s' : ConnectionList Addr Msg} {new : List CId} {op : ConnOp Addr Msg}
    (h : op.apply s = some (s', new)) : new.length = if op.isNewPending then 1 else 0 := by
  cases hop : op.isNewPending
  · simp [(apply_of_not_newPending hop h).2]
  · simp [(apply_of_newPending hop h).2]

/-- Below the counter's limit, a call returns. -/
theorem apply_isSome {s : ConnectionList Addr Msg} {op : ConnOp Addr Msg}
    (hc : op.isNewPending = true → s.currentCid.toNat + 1 < 2 ^ 32) : ∃ r, op.apply s = some r := by
  cases op with
  | newPending addr msg =>
    have : u32Add s.currentCid 1 = some (s.currentCid + 1) := if_pos (hc rfl)
    simp [ConnOp.apply, ConnectionList.newPending, this]
  | removeConnection cid =>
    simp only [ConnOp.apply]
    unfold ConnectionList.removeConnection
    split
    · exact ⟨_, rfl⟩
    · rename_i hcon
      have := DoubleHashMap.remove_isSome (by simpa [ConnectionList.cidConnected] using hcon)
      split
      · rename_i m hm; simp [hm] at this
      · exact ⟨_, rfl⟩
  | _ => exact ⟨_, rfl⟩

/-- A run whose `new_pending` calls stay below the counter's limit finishes. -/
theorem runConnListFrom_isSome :
    ∀ {ops : List (ConnOp Addr Msg)} {s : ConnectionList Addr Msg} {cids : List CId},
      Handed s cids → cids.length + ops.countP ConnOp.isNewPending < 2 ^ 32 - 1 →
        ∃ r, runConnListFrom (s, cids) ops = some r
  | [], s, cids, _, _ => ⟨(s, cids), rfl⟩
  | op :: ops, s, cids, hh, hn => by
    rw [List.countP_cons] at hn
    obtain ⟨⟨t, new⟩, ht⟩ : ∃ r, op.apply s = some r :=
      apply_isSome fun hop => by rw [hh.2]; simp [hop] at hn; omega
    have hlen : (cids ++ new).length + ops.countP ConnOp.isNewPending < 2 ^ 32 - 1 := by
      rw [List.length_append, apply_length ht]; split at hn <;> simp_all; omega
    obtain ⟨r, hr⟩ := runConnListFrom_isSome (apply_handed hh ht) hlen
    exact ⟨r, by simp only [runConnListFrom, List.foldlM_cons, ht]; exact hr⟩

/-- **`CId`s are never reused.**  Over every run of `ConnectionList` calls from `new`, in any
order, the `CId`s `new_pending` returns are pairwise distinct; and a run that asks for fewer
than `2^32 - 1` of them finishes (only the call that would wrap `current_cid` panics). -/
theorem cids_never_reused (ops : List (ConnOp Addr Msg)) :
    (∀ s cids, runConnList ops = some (s, cids) → cids.Nodup) ∧
      (ops.countP ConnOp.isNewPending < 2 ^ 32 - 1 → ∃ r, runConnList ops = some r) := by
  refine ⟨fun s cids h => ?_, fun hn => runConnListFrom_isSome handed_new (by simpa using hn)⟩
  obtain ⟨hcids, hcur⟩ := runConnListFrom_handed handed_new h
  have hlt := s.currentCid.toNat_lt
  rw [hcids]
  refine (List.nodup_range _).map_on fun x hx y hy hxy => ?_
  simp only [List.mem_range] at hx hy
  have := congrArg UInt32.toNat hxy
  simp only [uint32_toNat_ofNat] at this
  rw [Nat.mod_eq_of_lt (by omega), Nat.mod_eq_of_lt (by omega)] at this
  omega

/-! ## §5. The pending queue is first in, first out. -/

namespace ConnOp

/-- The connections a call queues, given the `CId`s it returned: `new_pending`'s, under its
`CId`. -/
def queued : ConnOp Addr Msg → List CId → List (CId × Addr × Msg)
  | .newPending addr msg, cids => cids.map fun cid => (cid, addr, msg)
  | _, _ => []

/-- The connection a call hands out: `get_pending`'s. -/
def handedOut (s : ConnectionList Addr Msg) : ConnOp Addr Msg → List (CId × Addr × Msg)
  | .getPending => s.getPending.2.toList
  | _ => []

end ConnOp

/-- The calls in turn, collecting the connections queued and those handed out. -/
def runQueueFrom (acc : ConnectionList Addr Msg × List (CId × Addr × Msg) × List (CId × Addr × Msg))
    (ops : List (ConnOp Addr Msg)) :
    Option (ConnectionList Addr Msg × List (CId × Addr × Msg) × List (CId × Addr × Msg)) :=
  ops.foldlM (fun acc op => (op.apply acc.1).map fun r =>
    (r.1, acc.2.1 ++ op.queued r.2, acc.2.2 ++ op.handedOut acc.1)) acc

/-- **The step lemma.**  `new_pending` pushes its connection at the back under the `CId` it
returns, `get_pending` hands out the front one, and no other call touches the queue. -/
theorem apply_pending {s s' : ConnectionList Addr Msg} {op : ConnOp Addr Msg} {new : List CId}
    (h : op.apply s = some (s', new)) :
    op.handedOut s ++ s'.pendingConnections = s.pendingConnections ++ op.queued new := by
  cases op with
  | newPending addr msg =>
    simp only [ConnOp.apply, ConnectionList.newPending, Option.bind_eq_bind, Option.bind_eq_some,
      Option.map_eq_some', Option.some.injEq] at h
    obtain ⟨_, ⟨_, -, rfl⟩, he⟩ := h
    cases he
    rfl
  | getPending =>
    cases h
    rcases hp : s.pendingConnections with _ | ⟨p, rest⟩ <;>
      simp [ConnOp.handedOut, ConnOp.queued, ConnectionList.getPending, hp]
  | newConnection cid addr =>
    cases h
    unfold ConnectionList.newConnection
    split <;> simp [ConnOp.handedOut, ConnOp.queued]
  | removeConnection cid =>
    obtain ⟨⟨t, r⟩, ht, he⟩ := Option.map_eq_some'.mp h
    cases he
    unfold ConnectionList.removeConnection at ht
    split at ht
    · cases ht; simp [ConnOp.handedOut, ConnOp.queued]
    · split at ht
      · cases ht
      · cases ht; simp [ConnOp.handedOut, ConnOp.queued]
  | disconnect cid => cases h; simp [ConnOp.handedOut, ConnOp.queued, ConnectionList.disconnect]

/-- **The run lemma.** -/
theorem runQueueFrom_pending :
    ∀ {ops : List (ConnOp Addr Msg)} {s s' : ConnectionList Addr Msg}
      {q h q' h' : List (CId × Addr × Msg)},
      h ++ s.pendingConnections = q → runQueueFrom (s, q, h) ops = some (s', q', h') →
        h' ++ s'.pendingConnections = q'
  | [], _, _, _, _, _, _, hq, hr => by cases hr; exact hq
  | op :: ops, s, s', q, h, q', h', hq, hr => by
    simp only [runQueueFrom, List.foldlM_cons, Option.bind_eq_bind, Option.bind_eq_some,
      Option.map_eq_some'] at hr
    obtain ⟨_, ⟨⟨t, new⟩, ht, rfl⟩, hr⟩ := hr
    refine runQueueFrom_pending ?_ hr
    rw [List.append_assoc, apply_pending ht, ← List.append_assoc, hq]

/-- **No pending connection is lost, duplicated or reordered.**  Over every run of
`ConnectionList` calls from `new`, the connections `get_pending` handed out, in order,
followed by those still pending, are exactly the connections `new_pending` was given, in
order, each under the `CId` it returned. -/
theorem pending_fifo (ops : List (ConnOp Addr Msg)) (s : ConnectionList Addr Msg)
    (q h : List (CId × Addr × Msg)) (hr : runQueueFrom (ConnectionList.new, [], []) ops = some (s, q, h)) :
    h ++ s.pendingConnections = q :=
  runQueueFrom_pending (by rfl) hr

/-- Two clients ask to connect; the server takes the first. -/
def twoPending : List (ConnOp Nat Unit) := [.newPending 7 (), .newPending 9 (), .getPending]

theorem pending_fifo_twoPending :
    ∃ s q h, runQueueFrom (ConnectionList.new, [], []) twoPending = some (s, q, h) ∧
      h = [(1, 7, ())] ∧ h ++ s.pendingConnections = q :=
  ⟨_, _, _, rfl, rfl, pending_fifo twoPending _ _ _ rfl⟩

end CarrierPigeon
