import Werift.Common.Binary

/-! # RTCP headers (`rtp/src/rtcp/header.ts`) -/

namespace Werift.Rtcp

/-- The bytes of a buffer. -/
abbrev Bytes := List UInt8

/-- `RTCP_HEADER_SIZE`. -/
def RTCP_HEADER_SIZE : ℕ := 4

/-- The fields of an `RtcpHeader`. -/
structure RtcpHeader where
  version : ℕ := 2
  padding : Bool := false
  count : ℕ := 0
  type : ℕ := 0
  length : ℕ := 0
deriving DecidableEq

namespace RtcpHeader

/-- `RtcpHeader.deSerialize(buf)`; `none` is the error of a read beyond the end. -/
def deSerialize (buf : Bytes) : Option RtcpHeader :=
  if buf.length < RTCP_HEADER_SIZE then none
  else
    let v_p_rc := buf.getD 0 0
    some
      { version := getBit v_p_rc 0 2
        padding := 0 < getBit v_p_rc 2 1
        count := getBit v_p_rc 3 5
        type := readNat 1 buf 1
        length := readNat 2 buf 2 }

/-- `serialize()` of a header. -/
def serializeHeader (h : RtcpHeader) : Option Bytes := do
  let v_p_rc ← Js.writeUInt8
    (bitWriter 8 [(2, 0, h.version), (1, 2, h.padding.toNat), (5, 3, h.count)] : ℕ)
  let type ← Js.writeUInt8 h.type
  let length ← Js.writeUInt16BE h.length
  return v_p_rc ++ type ++ length

/-- `RtcpHeader.serialize(type, count, payload, length)`. -/
def serialize (type count : ℕ) (payload : Bytes) (length : ℕ) : Option Bytes :=
  (serializeHeader { type, count, length }).map (· ++ payload)

lemma isSome_deSerialize {buf : Bytes} (h : RTCP_HEADER_SIZE ≤ buf.length) :
    ∃ header, deSerialize buf = some header := by
  rw [deSerialize, if_neg (Nat.not_lt.mpr h)]
  exact ⟨_, rfl⟩

/-- The first byte of a header, whose count is cut to its field. -/
lemma bitWriter_first_lt (h : RtcpHeader) :
    bitWriter 8 [(2, 0, h.version), (1, 2, h.padding.toNat), (5, 3, h.count)] < 256 ^ 1 := by
  have hversion : (h.version % 4) <<< 6 < 2 ^ 8 := by
    rw [Nat.shiftLeft_eq]
    omega
  have hpadding : (h.padding.toNat % 2) <<< 5 < 2 ^ 8 := by
    rw [Nat.shiftLeft_eq]
    omega
  have hcount : (h.count % 32) <<< 0 < 2 ^ 8 := by
    rw [Nat.shiftLeft_zero]
    omega
  change (0 ||| (h.version % 4) <<< 6 ||| (h.padding.toNat % 2) <<< 5 ||| (h.count % 32) <<< 0) < 2 ^ 8
  rw [Nat.zero_or]
  exact Nat.or_lt_two_pow (Nat.or_lt_two_pow hversion hpadding) hcount

variable {type count length : ℕ} {payload bytes : Bytes}

/-- **Writing** a header: it fails if the length does not fit its field. -/
lemma serializeHeader_of_fields {h : RtcpHeader} {first type : Bytes}
    (hfirst : Js.writeUInt8
      (bitWriter 8 [(2, 0, h.version), (1, 2, h.padding.toNat), (5, 3, h.count)] : ℕ) = some first)
    (htype : Js.writeUInt8 h.type = some type) :
    h.serializeHeader = (Js.writeUInt16BE h.length).map fun field => first ++ type ++ field := by
  rw [serializeHeader, hfirst, htype]
  cases Js.writeUInt16BE h.length <;> rfl

lemma serialize_isSome_iff (htype : type < 256) :
    (serialize type count payload length).isSome ↔ length < 2 ^ 16 := by
  have hheader := serializeHeader_of_fields (h := { type, count, length })
    (Js.writeUIntBE_natCast (bitWriter_first_lt _)) (Js.writeUIntBE_natCast (k := 1) htype)
  rw [serialize, Option.isSome_map, hheader, Option.isSome_map, Js.writeUInt16BE, Js.isSome_writeUIntBE]
  dsimp only
  omega

/-- The payload stands behind the header. -/
lemma drop_of_serialize (htype : type < 256) (h : serialize type count payload length = some bytes) :
    bytes.drop RTCP_HEADER_SIZE = payload := by
  have hheader := serializeHeader_of_fields (h := { type, count, length })
    (Js.writeUIntBE_natCast (bitWriter_first_lt _)) (Js.writeUIntBE_natCast (k := 1) htype)
  rw [serialize, hheader, Option.map_map] at h
  obtain ⟨field, hfield, rfl⟩ := Option.map_eq_some_iff.mp h
  have hlength := Js.length_of_writeUIntBE hfield
  rw [Function.comp_apply, List.drop_left']
  rw [List.length_append, List.length_append, hlength, BigEndian.length_encode, BigEndian.length_encode]
  rfl

end RtcpHeader

end Werift.Rtcp
