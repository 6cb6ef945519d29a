import CarrierPigeon.HashMap
import CarrierPigeon.Net.Header
/-
  CarrierPigeon.Connection.AckSystem.Basic
  ────────────────────────────────────────
  **THE ACKNOWLEDGEMENT SYSTEM** (`src/connection/ack_system.rs`), operation by operation.

  An `AckSystem` plays two roles at once.  As a SENDER it hands out `AckNum`s
  (`outgoingAckNum`), keeps the reliable messages it sent (`saveMsg`), offers the overdue ones
  for a resend (`getResend`) and forgets them when the peer acknowledges them (`markOutgoing`,
  `markBitfield`).  As a RECEIVER it records the `AckNum`s it received in a window of 32-bit
  bitfields (`markReceived`) and advertises that window, one bitfield per outgoing header
  (`nextHeader`) or all at once (`ackMsgInfo`).

  The window: `ackBitfields[0]` is the FRONT bitfield, for the `AckNum`s
  `ackOffset, …, ackOffset + 31`; bitfield `j` is meant for the 32 numbers from
  `ackOffset - 32·j`.  The `u16` arithmetic runs as in a debug build (`CarrierPigeon.Basic`):
  an operation that can overflow or index out of range returns `Option`, and `none` is its
  panic.  `Instant`s are a clock value `now : Nat` in milliseconds, passed in explicitly.

  Each operation is followed by the lemmas that say what it does to each field, so that
  later modules never unfold it.
-/

namespace CarrierPigeon

/-! ## §1. The data. -/

/-- Modelled from the spec: the delivery guarantee of a registered `MType` (§3; the
`Guarantees` enum lives in the crate root, which is not in the sources). -/
inductive Guarantees where
  | Unreliable
  | UnreliableNewest
  | Reliable
  | ReliableOrdered
  | ReliableNewest
  deriving DecidableEq, Repr

/-- Modelled from the spec: `Guarantees::unreliable` — the two guarantees that are never
saved for a resend. -/
def Guarantees.unreliable : Guarantees → Bool
  | .Unreliable | .UnreliableNewest => true
  | _ => false

/-- The number of times we need to ack something, to consider it acknowledged enough. -/
def sendAckThreshold : UInt32 := 2

/-- Saves the bitfield next to a counter for how many times this was acked. -/
structure AckBitfields where
  bitfield : UInt32
  sendCount : UInt32
  deriving DecidableEq, Repr

/-- `AckBitfields::default()`. -/
instance : Inhabited AckBitfields := ⟨⟨0, 0⟩⟩

@[simp] theorem AckBitfields.default_bitfield : (default : AckBitfields).bitfield = 0 := rfl

@[simp] theorem AckBitfields.default_sendCount : (default : AckBitfields).sendCount = 0 := rfl

/-- A saved reliable message: the value `(Instant, MsgHeader, SD)` of `saved_msgs`. -/
structure Saved (SD : Type) where
  sent : Nat
  header : MsgHeader
  data : SD
  deriving DecidableEq, Repr

/-- The Acknowledgement System.  `SD` ("Send Data") is what is sent besides the header. -/
structure AckSystem (SD : Type) where
  /-- The current `AckNum` for outgoing messages. -/
  outgoingCounter : AckNum
  /-- The current ack_offset value. -/
  ackOffset : AckNum
  /-- The current index of the ack_bitfields that we are on. -/
  currentIdx : Nat
  /-- The ack bitfields; the front (index 0) is the newest. -/
  ackBitfields : List AckBitfields
  /-- Additional acks that are too old to fit in the bitfield. -/
  residual : List AckNum
  /-- The saved reliable messages. -/
  savedMsgs : HashMap AckNum (Saved SD)
  deriving DecidableEq

namespace AckSystem

variable {SD : Type}

/-- Creates a new `AckSystem`. -/
def new : AckSystem SD :=
  { outgoingCounter := 0, ackOffset := 0, currentIdx := 0, ackBitfields := [default],
    residual := [], savedMsgs := HashMap.empty }

/-! ## §2. The receiving side: `mark_received`, `next_header`, `ack_msg_info`. -/

/-- One turn of the `while` loop of `mark_received`, with `top = ack_offset + 32`: drop the
back bitfield if it was advertised at least `SEND_ACK_THRESHOLD` times, push a fresh one at
the front, and move `ack_offset` up to `top`. -/
def shiftWindow (s : AckSystem SD) (top : AckNum) : Option (AckSystem SD) := do
  let last ← usizeSub s.ackBitfields.length 1
  let back ← s.ackBitfields[last]?
  let kept := if sendAckThreshold ≤ back.sendCount then s.ackBitfields.dropLast
    else s.ackBitfields
  some { s with ackBitfields := default :: kept, ackOffset := top }

theorem shiftWindow_eq_some {s s' : AckSystem SD} {top : AckNum} :
    shiftWindow s top = some s' ↔ ∃ back, s.ackBitfields.getLast? = some back ∧
      s' = { s with ackOffset := top, ackBitfields := default ::
        if sendAckThreshold ≤ back.sendCount then s.ackBitfields.dropLast else s.ackBitfields } := by
  simp only [shiftWindow, Option.bind_eq_bind, Option.bind_eq_some, usizeSub_eq_some,
    Option.some.injEq, List.getLast?_eq_getElem?]
  constructor
  · rintro ⟨_, ⟨-, rfl⟩, back, hb, rfl⟩; exact ⟨back, hb, rfl⟩
  · rintro ⟨back, hb, rfl⟩
    have : 0 < s.ackBitfields.length := by
      rcases hl : s.ackBitfields with _ | _ <;> simp_all
    exact ⟨_, ⟨by omega, rfl⟩, back, hb, rfl⟩

/-- The `while num >= ack_offset + 32` loop of `mark_received`.  It ends because every turn
moves `ack_offset` up by 32 and `ack_offset + 32` is checked. -/
def slide (num : AckNum) (s : AckSystem SD) : Option (AckSystem SD) :=
  match hadd : u16Add s.ackOffset 32 with
  | none => none
  | some top =>
    if top ≤ num then
      match hs : shiftWindow s top with
      | none => none
      | some s' => slide num s'
    else some s
termination_by 2 ^ 16 - s.ackOffset.toNat
decreasing_by
  obtain ⟨_, -, rfl⟩ := shiftWindow_eq_some.mp hs
  have := (u16Add_eq_some.mp hadd).2
  have := s.ackOffset.toNat_lt
  simp only [UInt16.toNat_ofNat, UInt16.size] at *
  omega

theorem slide_of_overflow {num : AckNum} {s : AckSystem SD} (h : u16Add s.ackOffset 32 = none) :
    slide num s = none := by
  rw [slide]; split <;> simp_all

theorem slide_of_lt {num t : AckNum} {s : AckSystem SD} (h : u16Add s.ackOffset 32 = some t)
    (hlt : num < t) : slide num s = some s := by
  rw [slide]; split
  · simp_all
  · rename_i top' h'
    have : top' = t := Option.some.inj (h'.symm.trans h)
    subst this
    simp [UInt16.not_le.mpr hlt]

theorem slide_of_le {num t : AckNum} {s : AckSystem SD} (h : u16Add s.ackOffset 32 = some t)
    (hle : t ≤ num) : slide num s = (shiftWindow s t).bind (slide num) := by
  rw [slide]; split
  · simp_all
  · rename_i top' h'
    have : top' = t := Option.some.inj (h'.symm.trans h)
    subst this
    simp only [hle, ite_true]
    split <;> simp_all

/-- Marks a `AckNum` as received, so it gets acknowledged in the next message we send. -/
def markReceived (num : AckNum) (s : AckSystem SD) : Option (AckSystem SD) := do
  let s ← slide num s
  -- The lowest number that fits in the bitfield
  let lenM1 ← u16Sub (UInt16.ofNat s.ackBitfields.length) 1
  let span ← u16Mul 32 lenM1
  let lowerBound ← u16Sub s.ackOffset span
  if num < lowerBound then
    -- num is outside the window. Add it to the residual to catch it.
    some { s with residual := s.residual ++ [num] }
  else do
    let dif ← u16Sub num s.ackOffset
    let fieldIdx := dif / 32
    let bitFlag : UInt32 := 1 <<< (dif % 32).toUInt32
    let bf ← s.ackBitfields[fieldIdx.toNat]?
    let marked := { bf with bitfield := bf.bitfield ||| bitFlag }
    some { s with ackBitfields := s.ackBitfields.set fieldIdx.toNat marked }

/-- Gets the next ack_offset and bitflags associated with it to be sent in the header. -/
def nextHeader (s : AckSystem SD) : Option (AckSystem SD × (AckNum × UInt32)) := do
  let field ← s.ackBitfields[s.currentIdx]?
  let count ← u32Add field.sendCount 1
  let bfs := s.ackBitfields.set s.currentIdx { field with sendCount := count }
  some ({ s with ackBitfields := bfs, currentIdx := (s.currentIdx + 1) % bfs.length },
    (s.ackOffset, field.bitfield))

/-- Gets all the information needed for an ack message, increasing the send count of every
bitfield. -/
def ackMsgInfo (s : AckSystem SD) : Option (AckSystem SD × (List AckBitfields × List AckNum)) :=
  do
  let bfs ← s.ackBitfields.mapM fun bf => do
    let count ← u32Add bf.sendCount 1
    some { bf with sendCount := count }
  some ({ s with ackBitfields := bfs }, (bfs, s.residual))

/-! ## §3. The sending side. -/

/-- Gets the next outgoing `AckNum` (`wrapping_add`). -/
def outgoingAckNum (s : AckSystem SD) : AckSystem SD × AckNum :=
  ({ s with outgoingCounter := s.outgoingCounter + 1 }, s.outgoingCounter)

/-- Marks one of the outgoing messages as acknowledged. -/
def markOutgoing (num : AckNum) (s : AckSystem SD) : AckSystem SD :=
  { s with savedMsgs := s.savedMsgs.remove num }

/-- The test `bitfield & (1 << i) != 0` of `mark_bitfield`, for the loop index `i : u16`. -/
def bitIsSet (bitfield : UInt32) (i : Nat) : Bool :=
  bitfield &&& (1 <<< (UInt16.ofNat i).toUInt32) != 0

/-- The body of `mark_bitfield`'s loop at index `i`. -/
def markBit (offset : AckNum) (bitfield : UInt32) (s : AckSystem SD) (i : Nat) :
    Option (AckSystem SD) :=
  if bitIsSet bitfield i then do
    let num ← u16Add offset (UInt16.ofNat i)
    some { s with savedMsgs := s.savedMsgs.remove num }
  else some s

/-- Marks an incoming `ack_offset` and `ack_bitfield` pair: `for i in 0..32`. -/
def markBitfield (offset : AckNum) (bitfield : UInt32) (s : AckSystem SD) :
    Option (AckSystem SD) :=
  (List.range 32).foldlM (markBit offset bitfield) s

/-- The entry a `ReliableNewest` save drops: the first saved message of the same `MType` in
iteration order. -/
def existingAck (saved : HashMap AckNum (Saved SD)) (mType : MType) : Option AckNum :=
  (saved.entries.find? fun e => e.2.header.mType == mType).map Prod.fst

/-- Saves a reliable message so that it can be sent again later if the message gets lost. -/
def saveMsg (header : MsgHeader) (guarantees : Guarantees) (otherData : SD) (now : Nat)
    (s : AckSystem SD) : AckSystem SD :=
  if guarantees.unreliable then s
  else
    let saved := if guarantees = .ReliableNewest then
        match existingAck s.savedMsgs header.mType with
        | some ack => s.savedMsgs.remove ack
        | none => s.savedMsgs
      else s.savedMsgs
    { s with savedMsgs := saved.insert header.senderAckNum ⟨now, header, otherData⟩ }

/-- Whether a message sent at `sent` is due for a resend at `now` (`elapsed() > 1000 ms`). -/
def due (now sent : Nat) : Bool := now - sent > 1000

/-- Gets messages that are due for a resend. This resets the time sent. -/
def getResend (now : Nat) (s : AckSystem SD) : AckSystem SD × List (MsgHeader × SD) :=
  ({ s with savedMsgs := s.savedMsgs.mapVal fun _ v => if due now v.sent then { v with sent := now }
      else v },
    (s.savedMsgs.entries.filter fun e => due now e.2.sent).map fun e => (e.2.header, e.2.data))

/-! ## §4. What each operation leaves alone. -/

@[simp] theorem outgoingAckNum_snd (s : AckSystem SD) : (outgoingAckNum s).2 = s.outgoingCounter :=
  rfl

@[simp] theorem outgoingAckNum_savedMsgs (s : AckSystem SD) :
    (outgoingAckNum s).1.savedMsgs = s.savedMsgs := rfl

@[simp] theorem outgoingAckNum_counter (s : AckSystem SD) :
    (outgoingAckNum s).1.outgoingCounter = s.outgoingCounter + 1 := rfl

@[simp] theorem markOutgoing_savedMsgs (num : AckNum) (s : AckSystem SD) :
    (markOutgoing num s).savedMsgs = s.savedMsgs.remove num := rfl

@[simp] theorem markOutgoing_counter (num : AckNum) (s : AckSystem SD) :
    (markOutgoing num s).outgoingCounter = s.outgoingCounter := rfl

@[simp] theorem getResend_counter (now : Nat) (s : AckSystem SD) :
    (getResend now s).1.outgoingCounter = s.outgoingCounter := rfl

@[simp] theorem getResend_keys (now : Nat) (s : AckSystem SD) :
    (getResend now s).1.savedMsgs.keys = s.savedMsgs.keys := HashMap.keys_mapVal _ _

/-- `slide` only rewrites the window: the counter, residual and saved messages stay. -/
theorem slide_frame {num : AckNum} {s s' : AckSystem SD} (h : slide num s = some s') :
    s'.outgoingCounter = s.outgoingCounter ∧ s'.residual = s.residual ∧
      s'.savedMsgs = s.savedMsgs ∧ s'.currentIdx = s.currentIdx := by
  revert h
  induction s using slide.induct num with
  | case1 s hov => intro h; rw [slide_of_overflow hov] at h; cases h
  | case2 s top hov hle hs => intro h; rw [slide_of_le hov hle, hs] at h; cases h
  | case3 s top hov hle t hs ih =>
    intro h
    rw [slide_of_le hov hle, hs] at h
    obtain ⟨_, -, rfl⟩ := shiftWindow_eq_some.mp hs
    exact ih h
  | case4 s top hov hlt =>
    intro h
    rw [slide_of_lt hov (UInt16.not_le.mp hlt)] at h
    cases h; exact ⟨rfl, rfl, rfl, rfl⟩

/-- `mark_received` touches neither the sending side nor the round-robin index. -/
theorem markReceived_frame {num : AckNum} {s s' : AckSystem SD}
    (h : markReceived num s = some s') :
    s'.outgoingCounter = s.outgoingCounter ∧ s'.savedMsgs = s.savedMsgs ∧
      s'.currentIdx = s.currentIdx := by
  simp only [markReceived, Option.bind_eq_bind, Option.bind_eq_some] at h
  obtain ⟨t, ht, _, -, _, -, _, -, h⟩ := h
  obtain ⟨h1, -, h3, h4⟩ := slide_frame ht
  split at h
  · cases h; exact ⟨h1, h3, h4⟩
  · simp only [Option.bind_eq_some, Option.some.injEq] at h
    obtain ⟨_, -, _, -, rfl⟩ := h; exact ⟨h1, h3, h4⟩

theorem nextHeader_frame {s s' : AckSystem SD} {p : AckNum × UInt32}
    (h : nextHeader s = some (s', p)) :
    s'.outgoingCounter = s.outgoingCounter ∧ s'.savedMsgs = s.savedMsgs ∧
      s'.ackOffset = s.ackOffset ∧ s'.residual = s.residual := by
  simp only [nextHeader, Option.bind_eq_bind, Option.bind_eq_some, Option.some.injEq,
    Prod.mk.injEq] at h
  obtain ⟨_, -, _, -, rfl, -⟩ := h
  exact ⟨rfl, rfl, rfl, rfl⟩

end AckSystem

end CarrierPigeon
