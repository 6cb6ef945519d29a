import CarrierPigeon.Connection.AckSystem.Saved
/-
  CarrierPigeon.Connection.AckSystem.TwoPeer
  ──────────────────────────────────────────
  **TWO PEERS AND A LOSSY NETWORK: WHAT AN ADVERTISED ACK ACKNOWLEDGES.**

  A sender `S` and a receiver `R`, both `AckSystem`s.  `S` sends reliable messages (a fresh
  `AckNum`, then `save_msg`) and resends them; the network delivers any issued number to `R`
  any number of times or never (`mark_received`); `R` advertises its window one bitfield per
  header (`next_header`); and any advertised pair reaches `S`'s `mark_bitfield` any number of
  times or never.  The history (numbers issued, numbers received, pairs advertised) is kept
  next to the two states, as ghost fields that no step reads except to guard the network.

  `next_header` walks the window round-robin, but it always pairs the bitfield it reads with
  the FRONT offset `ack_offset`.  Bitfield `j ≥ 1` describes the numbers from
  `ack_offset - 32·j`; advertised with `ack_offset`, its bits name numbers 32·j higher, which
  the receiver may never have seen.

  Main results:
    * `next_header_pairs_front_offset` — the receiver run `0, 33, next_header, next_header`
      advertises `(32, 0b1)`, a pair that acknowledges 32, which it never received.
    * `ack_safety_fails` — so the two-peer safety law fails: `S` drops its saved message 32.
-/

namespace CarrierPigeon

namespace AckSystem

variable {SD : Type}

/-! ## §1. The two-peer system. -/

/-- The sender, the receiver, and the history the safety law reads. -/
structure Peers (SD : Type) where
  sender : AckSystem SD
  receiver : AckSystem SD
  /-- The `AckNum`s `S.outgoing_ack_num` returned. -/
  issued : List AckNum
  /-- The arguments of `R.mark_received`. -/
  received : List AckNum
  /-- The pairs `R.next_header` returned. -/
  advertised : List (AckNum × UInt32)
  deriving DecidableEq

/-- Both peers fresh, nothing happened yet. -/
def Peers.init : Peers SD := ⟨new, new, [], [], []⟩

/-- What can happen next. -/
inductive PeerEvent (SD : Type) where
  /-- `S.outgoing_ack_num`, then `S.save_msg` of a reliable header carrying that number. -/
  | send (mType : MType) (orderNum : OrderNum) (receiverAckingOffset : AckNum) (ackBits : UInt32)
      (g : Guarantees) (data : SD) (now : Nat)
  /-- `S.get_resend`. -/
  | resend (now : Nat)
  /-- The network delivers an issued number: `R.mark_received`. -/
  | deliver (num : AckNum)
  /-- `R.next_header`. -/
  | advertise
  /-- The network delivers an advertised pair: `S.mark_bitfield`. -/
  | acknowledge (offset : AckNum) (bitfield : UInt32)

/-- One event; `none` when the network cannot deliver it or the code panics. -/
def PeerEvent.step (P : Peers SD) : PeerEvent SD → Option (Peers SD)
  | .send mType orderNum off bits g data now =>
    if g = .Reliable ∨ g = .ReliableOrdered then
      let (S, ack) := P.sender.outgoingAckNum
      some { P with sender := S.saveMsg ⟨mType, orderNum, ack, off, bits⟩ g data now,
                    issued := P.issued ++ [ack] }
    else none
  | .resend now => some { P with sender := (P.sender.getResend now).1 }
  | .deliver num =>
    if num ∈ P.issued then
      (P.receiver.markReceived num).map fun R => { P with receiver := R, received := P.received ++ [num] }
    else none
  | .advertise =>
    P.receiver.nextHeader.map fun (R, adv) => { P with receiver := R, advertised := P.advertised ++ [adv] }
  | .acknowledge offset bitfield =>
    if (offset, bitfield) ∈ P.advertised then
      (P.sender.markBitfield offset bitfield).map fun S => { P with sender := S }
    else none

/-- A run of events from `P`, stopping at the first event that cannot happen. -/
def runPeers (P : Peers SD) (evs : List (PeerEvent SD)) : Option (Peers SD) :=
  evs.foldlM PeerEvent.step P

/-- The safety law: in every run issuing fewer than `2^16` numbers, a key leaves `S`'s saved
messages only once `R.mark_received` was called on it. -/
def AckSafety (SD : Type) : Prop :=
  ∀ (evs : List (PeerEvent SD)) (e : PeerEvent SD) (P P' : Peers SD),
    runPeers Peers.init evs = some P → e.step P = some P' → P'.issued.length < 2 ^ 16 →
      ∀ k ∈ P.sender.savedMsgs.keys, k ∉ P'.sender.savedMsgs.keys → k ∈ P.received

/-! ## §2. The receiver's run `0, 33, next_header, next_header`. -/

/-- The receiver after `mark_received(0)`, `mark_received(33)`. -/
def recv0and33 : AckSystem Unit :=
  { new with ackOffset := 32, ackBitfields := [⟨2, 0⟩, ⟨1, 0⟩] }

theorem markReceived_0_new : markReceived 0 new = some { (new : AckSystem Unit) with
    ackBitfields := [⟨1, 0⟩] } := by
  rw [markReceived, slide_of_lt (s := new) (t := 32) rfl (by decide)]
  rfl

theorem markReceived_33_after_0 :
    markReceived 33 { (new : AckSystem Unit) with ackBitfields := [⟨1, 0⟩] } = some recv0and33 := by
  rw [markReceived, slide_of_le (s := { (new : AckSystem Unit) with ackBitfields := [⟨1, 0⟩] })
    (t := 32) rfl (by decide)]
  rw [show shiftWindow { (new : AckSystem Unit) with ackBitfields := [⟨1, 0⟩] } 32 =
    some { new with ackOffset := 32, ackBitfields := [default, ⟨1, 0⟩] } from rfl]
  rw [Option.some_bind, slide_of_lt (t := 64) ?_ (by decide)] <;> rfl

/-- **`next_header` pairs an old bitfield with the front offset.**  After receiving 0 and 33
the window is `[⟨0b10⟩, ⟨0b1⟩]` at offset 32.  The first header says `(32, 0b10)`: 33,
right.  The second reads bitfield 1, whose bit 0 stands for AckNum 0, and says `(32, 0b1)`:
AckNum 32, which never arrived. -/
theorem next_header_pairs_front_offset :
    ∃ R R', recv0and33.nextHeader = some (R, (32, 2)) ∧ R.nextHeader = some (R', (32, 1)) ∧
      acks 32 1 (List.range 32) 32 = true :=
  ⟨_, _, rfl, rfl, by decide⟩

/-! ## §3. The sender drops an unreceived message. -/

/-- Thirty-four reliable sends of `MType` 7. -/
def sends34 : List (PeerEvent Unit) := List.replicate 34 (.send 7 0 0 0 .Reliable () 0)

/-- The saved messages after `sends34`: `AckNum`s 0 to 33. -/
def saved34 : HashMap AckNum (Saved Unit) :=
  (List.range 34).foldl (fun m i => m.insert (UInt16.ofNat i) ⟨0, ⟨7, 0, UInt16.ofNat i, 0, 0⟩, ()⟩)
    HashMap.empty

/-- The peers after `sends34`. -/
def afterSends : Peers Unit :=
  ⟨{ (new : AckSystem Unit) with outgoingCounter := 34, savedMsgs := saved34 }, new,
    (List.range 34).map UInt16.ofNat, [], []⟩

set_option maxRecDepth 4000 in
theorem runPeers_sends34 : runPeers Peers.init sends34 = some afterSends := rfl

theorem runPeers_append (P : Peers SD) (evs evs' : List (PeerEvent SD)) :
    runPeers P (evs ++ evs') = (runPeers P evs).bind (runPeers · evs') := by
  simp [runPeers, List.foldlM_append]

/-- **The two-peer safety law fails.**  `S` sends `0, …, 33`; the network delivers 0 and 33;
`R` advertises twice; the second pair `(32, 0b1)` reaches `S`, which drops its saved message
32 — a number `R` never received. -/
theorem ack_safety_fails : ¬ AckSafety Unit := by
  intro hsafe
  let P : Peers Unit := ⟨afterSends.sender, { recv0and33 with
      ackBitfields := [⟨2, 1⟩, ⟨1, 1⟩] }, afterSends.issued, [0, 33], [(32, 2), (32, 1)]⟩
  have hrun : runPeers Peers.init (sends34 ++ [.deliver 0, .deliver 33, .advertise, .advertise]) =
      some P := by
    rw [runPeers_append, runPeers_sends34, Option.some_bind]
    simp only [runPeers, List.foldlM_cons, List.foldlM_nil, PeerEvent.step, afterSends,
      Option.bind_eq_bind]
    rw [if_pos (by decide), markReceived_0_new, Option.map_some', Option.some_bind,
      if_pos (by decide), markReceived_33_after_0]
    rfl
  have hstep : (PeerEvent.acknowledge 32 1).step P = some { P with sender := { P.sender with
      savedMsgs := P.sender.savedMsgs.retain fun k => !acks 32 1 (List.range 32) k } } := by
    rw [PeerEvent.step, if_pos (by decide), markBitfield_eq, if_pos (by decide)]
    rfl
  have := hsafe _ _ _ _ hrun hstep (by decide) 32 (by decide) (by decide)
  exact absurd this (by decide)

end AckSystem

end CarrierPigeon
