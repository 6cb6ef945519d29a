import CarrierPigeon.Basic
/-
  CarrierPigeon.Net.Header
  ────────────────────────
  **THE 12-BYTE WIRE HEADER AND ITS BIG-ENDIAN CODEC** (`src/net.rs`).

  Every datagram starts with `m_type:u16`, `order_num:u16`, `sender_ack_num:u16`,
  `receiver_acking_offset:u16`, `ack_bits:u32`, big-endian.  `MType` is a `usize` in the
  source and is cast `as u16` on the way out, so only headers whose `m_type` fits in 16 bits
  survive the trip.  Fields and functions keep the source's names in camelCase.

  Main results:
    * `fromBeBytes_toBeBytes` — decoding an encoded header gives it back (`mType < 2^16`).
    * `toBeBytes_fromBeBytes` — every 12-byte buffer decodes, and re-encodes to itself.
    * `header_codec_round_trip` — both directions together.
-/

namespace CarrierPigeon

/-- Message Type: an integer unique to each type of message (`usize`). -/
abbrev MType := Nat

/-- Acknowledgement Number: incremented (wrapping) for every message sent. -/
abbrev AckNum := UInt16

/-- Ordering Number: incremented for every message sent, per `MType`. -/
abbrev OrderNum := UInt16

/-- Connection ID. -/
abbrev CId := UInt32

/-- The size of carrier-pigeon's header (`HEADER_SIZE`). -/
def headerSize : Nat := 12

/-- A header to be sent before the message contents of a message. -/
structure MsgHeader where
  mType : MType
  orderNum : OrderNum
  senderAckNum : AckNum
  receiverAckingOffset : AckNum
  ackBits : UInt32
  deriving DecidableEq, Repr

/-! ## §1. Big-endian bytes of the fixed-width fields (`u16::to_be_bytes` and friends). -/

/-- `u16::to_be_bytes`. -/
def u16ToBeBytes (x : UInt16) : Bytes :=
  [UInt8.ofNat (x.toNat / 2 ^ 8), UInt8.ofNat x.toNat]

/-- `u16::from_be_bytes`. -/
def u16FromBeBytes (b0 b1 : UInt8) : UInt16 :=
  UInt16.ofNat (b0.toNat * 2 ^ 8 + b1.toNat)

/-- `u32::to_be_bytes`. -/
def u32ToBeBytes (x : UInt32) : Bytes :=
  [UInt8.ofNat (x.toNat / 2 ^ 24), UInt8.ofNat (x.toNat / 2 ^ 16),
    UInt8.ofNat (x.toNat / 2 ^ 8), UInt8.ofNat x.toNat]

/-- `u32::from_be_bytes`. -/
def u32FromBeBytes (b0 b1 b2 b3 : UInt8) : UInt32 :=
  UInt32.ofNat (((b0.toNat * 2 ^ 8 + b1.toNat) * 2 ^ 8 + b2.toNat) * 2 ^ 8 + b3.toNat)

theorem u16FromBeBytes_toBeBytes (x : UInt16) :
    u16FromBeBytes (UInt8.ofNat (x.toNat / 2 ^ 8)) (UInt8.ofNat x.toNat) = x := by
  have := x.toNat_lt
  ext
  simp only [u16FromBeBytes, uint16_toNat_ofNat, uint8_toNat_ofNat]
  omega

theorem u32FromBeBytes_toBeBytes (x : UInt32) :
    u32FromBeBytes (UInt8.ofNat (x.toNat / 2 ^ 24)) (UInt8.ofNat (x.toNat / 2 ^ 16))
      (UInt8.ofNat (x.toNat / 2 ^ 8)) (UInt8.ofNat x.toNat) = x := by
  have := x.toNat_lt
  ext
  simp only [u32FromBeBytes, uint32_toNat_ofNat, uint8_toNat_ofNat]
  omega

/-- The two bytes of a decoded `u16` are the bytes it was decoded from. -/
theorem u16ToBeBytes_fromBeBytes (b0 b1 : UInt8) :
    u16ToBeBytes (u16FromBeBytes b0 b1) = [b0, b1] := by
  have := b0.toNat_lt; have := b1.toNat_lt
  simp only [u16ToBeBytes, u16FromBeBytes, uint16_toNat_ofNat, List.cons.injEq, and_true]
  constructor <;> ext <;> simp only [uint8_toNat_ofNat] <;> omega

theorem u32ToBeBytes_fromBeBytes (b0 b1 b2 b3 : UInt8) :
    u32ToBeBytes (u32FromBeBytes b0 b1 b2 b3) = [b0, b1, b2, b3] := by
  have := b0.toNat_lt; have := b1.toNat_lt; have := b2.toNat_lt; have := b3.toNat_lt
  simp only [u32ToBeBytes, u32FromBeBytes, uint32_toNat_ofNat, List.cons.injEq, and_true]
  refine ⟨?_, ?_, ?_, ?_⟩ <;> ext <;> simp only [uint8_toNat_ofNat] <;> omega

/-! ## §2. The header codec (`MsgHeader::to_be_bytes`, `MsgHeader::from_be_bytes`). -/

/-- Converts the `MsgHeader` to big endian bytes to be sent over the internet. -/
def MsgHeader.toBeBytes (h : MsgHeader) : Bytes :=
  u16ToBeBytes (UInt16.ofNat h.mType) ++ u16ToBeBytes h.orderNum ++
    u16ToBeBytes h.senderAckNum ++ u16ToBeBytes h.receiverAckingOffset ++
    u32ToBeBytes h.ackBits

/-- Converts the big endian bytes back into a `MsgHeader`.  The source asserts that the
slice is `headerSize` long; any other length is that assertion's panic, `none`. -/
def MsgHeader.fromBeBytes : Bytes → Option MsgHeader
  | [b0, b1, b2, b3, b4, b5, b6, b7, b8, b9, b10, b11] =>
    some { mType := (u16FromBeBytes b0 b1).toNat
           orderNum := u16FromBeBytes b2 b3
           senderAckNum := u16FromBeBytes b4 b5
           receiverAckingOffset := u16FromBeBytes b6 b7
           ackBits := u32FromBeBytes b8 b9 b10 b11 }
  | _ => none

@[simp] theorem MsgHeader.toBeBytes_length (h : MsgHeader) : h.toBeBytes.length = headerSize :=
  rfl

/-- **Decoding inverts encoding** for every header whose `mType` fits the `u16` cast. -/
theorem fromBeBytes_toBeBytes (h : MsgHeader) (hm : h.mType < 2 ^ 16) :
    MsgHeader.fromBeBytes h.toBeBytes = some h := by
  have hm' : (UInt16.ofNat h.mType).toNat = h.mType := Nat.mod_eq_of_lt hm
  simp only [MsgHeader.toBeBytes, u16ToBeBytes, u32ToBeBytes, List.append_assoc,
    List.cons_append, List.nil_append, MsgHeader.fromBeBytes, u16FromBeBytes_toBeBytes,
    u32FromBeBytes_toBeBytes]
  rw [hm']

/-- **Encoding inverts decoding**: a buffer of `headerSize` bytes always decodes, and its
header re-encodes to the very same bytes. -/
theorem toBeBytes_fromBeBytes (b : Bytes) (hb : b.length = headerSize) :
    (MsgHeader.fromBeBytes b).map MsgHeader.toBeBytes = some b := by
  match b, hb with
  | [b0, b1, b2, b3, b4, b5, b6, b7, b8, b9, b10, b11], _ =>
    have hcast : UInt16.ofNat (u16FromBeBytes b0 b1).toNat = u16FromBeBytes b0 b1 := by
      ext; exact Nat.mod_eq_of_lt (UInt16.toNat_lt _)
    simp only [MsgHeader.fromBeBytes, Option.map_some', MsgHeader.toBeBytes, hcast,
      u16ToBeBytes_fromBeBytes, u32ToBeBytes_fromBeBytes, List.append_assoc,
      List.cons_append, List.nil_append]

/-- **Header codec round trip**, both directions. -/
theorem header_codec_round_trip :
    (∀ h : MsgHeader, h.mType < 2 ^ 16 → MsgHeader.fromBeBytes h.toBeBytes = some h) ∧
    (∀ b : Bytes, b.length = headerSize →
      (MsgHeader.fromBeBytes b).map MsgHeader.toBeBytes = some b) :=
  ⟨fromBeBytes_toBeBytes, toBeBytes_fromBeBytes⟩

/-- The round trip at the header of the source's `test_save_ack` and at a buffer of twelve
`0xff` bytes. -/
theorem header_codec_round_trip_instance :
    MsgHeader.fromBeBytes (MsgHeader.mk 1 0 10 0 0).toBeBytes = some (MsgHeader.mk 1 0 10 0 0) ∧
    (MsgHeader.fromBeBytes (List.replicate 12 255)).map MsgHeader.toBeBytes =
      some (List.replicate 12 255) :=
  ⟨header_codec_round_trip.1 _ (by decide), header_codec_round_trip.2 _ rfl⟩

end CarrierPigeon
