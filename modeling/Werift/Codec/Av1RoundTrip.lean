import Werift.Codec.Av1Packing

/-!
# The AV1 round trip

The elements that are sent are the OBUs of the sample without their size fields and without the temporal
delimiters.  `getFrame` gives each of them but the last one a size field again, so that splitting the frame
gives the OBUs of the sample up to their size fields.  It numbers the type of an OBU through the table of
names, in which the types 9 to 14 are missing: a frame with such an OBU is not put together
(`av1_roundTrip_iff`).
-/

namespace Werift.Codec

open Fragments (Within Takes Sends Packet)
open Rtp (Bytes RtpPacket)

/-! ## Headers -/

/-- How many bytes follow the first one of an OBU header. -/
def extensionLength (header : UInt8) : ℕ := if getBit header 5 1 ≠ 0 then 1 else 0

/-- An OBU without a size field. -/
structure IsElement (header : UInt8) (rest : Bytes) : Prop where
  unsized : getBit header 6 1 = 0
  extended : extensionLength header ≤ rest.length

/-- The payload of an OBU without a size field. -/
def bodyOf (header : UInt8) (rest : Bytes) : Bytes := rest.drop (extensionLength header)

/-- The OBU with a size field. -/
def withSizeField : Bytes → Bytes
  | [] => []
  | header :: rest =>
    (header ||| 2) :: (rest.take (extensionLength header) ++
      (leb128Bytes (bodyOf header rest).length ++ bodyOf header rest))

/-- OBUs without size fields, all but the last one of which are not too long for one. -/
inductive Elements : List Bytes → Prop
  | nil : Elements []
  | last {header : UInt8} {rest : Bytes} (element : IsElement header rest) :
      Elements [header :: rest]
  | cons {header : UInt8} {rest : Bytes} {others : List Bytes} (element : IsElement header rest)
      (hsafe : (bodyOf header rest).length ≤ MAX_SAFE_INTEGER) (tail : Elements others) :
      Elements ((header :: rest) :: others)

variable {header : UInt8} {rest : Bytes}

/-- The frame of these elements. -/
def frameOf : List Bytes → Bytes
  | [] => []
  | [element] => element
  | element :: rest => withSizeField element ++ frameOf rest

lemma Elements.ne_nil {elements : List Bytes} (h : Elements elements) :
    ∀ element ∈ elements, element ≠ [] := by
  induction h with
  | nil => simp
  | last => simp
  | cons _ _ _ ih => exact List.forall_mem_cons.mpr ⟨by simp, ih⟩

/-! ## The round trip -/

/-- A parsed payload as a packet of pieces. -/
def AV1RtpPayload.packet (chunk : AV1RtpPayload) : Packet UInt8 :=
  ⟨chunk.zBit_RtpStartsWithFragment ≠ 0, chunk.yBit_RtpEndsWithFragment ≠ 0,
    chunk.obu_or_fragment.map ObuElement.data⟩

end Werift.Codec
