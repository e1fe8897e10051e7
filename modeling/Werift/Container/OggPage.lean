import Werift.Js.Buffer
import Werift.Rtp.Header

/-!
# Ogg pages (`rtp/src/extra/container/ogg/writer.ts`)

A page has a header with the sizes of its segments, and the segments.
-/

namespace Werift.Container

open Rtp (Bytes)
open Js

def OggHeaderTypeContinued : ℕ := 0x01
def OggHeaderTypeBos : ℕ := 0x02
def OggHeaderTypeEos : ℕ := 0x04

/-- The granule position of a page on which no packet ends. -/
def OggNoGranulePosition : ℤ := -1

/-- The maximum number of lacing values in one page. -/
def OggMaxSegments : ℕ := 255

/-- `oggCrcTable[i]`. -/
def oggCrcTable (i : UInt32) : UInt32 :=
  (fun r : UInt32 => if r &&& 0x80000000 = 0 then r <<< 1 else (r <<< 1) ^^^ 0x04c11db7)^[8] (i <<< 24)

/-- The CRC of Ogg pages. -/
def oggCrc32 (buf : Bytes) : UInt32 :=
  buf.foldl (fun crc b => (crc <<< 8) ^^^ oggCrcTable (((crc >>> 24) ^^^ b.toUInt32) &&& 0xff)) 0

/-- `value >>> 0`. -/
def toUint32 (value : ℤ) : ℕ := (value % 2 ^ 32).toNat

/-- `writeBigInt64LE`. -/
def writeBigInt64LE (value : ℤ) : Option Bytes :=
  if -2 ^ 63 ≤ value ∧ value < 2 ^ 63 then some (BigEndian.encode 8 (value % 2 ^ 64).toNat).reverse else none

structure OggPageProps where
  headerType : ℕ
  granulePosition : ℤ
  serialNumber : ℤ
  pageSequence : ℕ
  segmentTable : List ℕ
  data : Bytes

/-- The header of a page with a checksum. -/
def oggPageHeader (props : OggPageProps) (checksum : ℕ) : Option Bytes := do
  let headerType ← writeUInt8 props.headerType
  let granulePosition ← writeBigInt64LE props.granulePosition
  let serialNumber ← writeUInt32LE (toUint32 props.serialNumber)
  let pageSequence ← writeUInt32LE (toUint32 props.pageSequence)
  let checksum ← writeUInt32LE checksum
  let segments ← writeUInt8 props.segmentTable.length
  let segmentTable ← props.segmentTable.mapM fun size : ℕ => writeUInt8 size
  return [0x4f, 0x67, 0x67, 0x53] ++ ([0] ++ headerType ++ granulePosition ++ serialNumber ++ pageSequence ++
    checksum) ++ segments ++ segmentTable.flatten

/-- Serialize one Ogg page including its CRC. -/
def createOggPage (props : OggPageProps) : Except String Bytes :=
  if OggMaxSegments < props.segmentTable.length then
    .error ("too many ogg segments: " ++ toString props.segmentTable.length)
  else if props.segmentTable.sum ≠ props.data.length then
    .error ("ogg segment table (" ++ toString props.segmentTable.sum ++ ") does not match data (" ++
      toString props.data.length ++ ")")
  else
    match oggPageHeader props 0 with
    | none => .error "ERR_OUT_OF_RANGE"
    | some header =>
      match oggPageHeader props (oggCrc32 (header ++ props.data)).toNat with
      | none => .error "ERR_OUT_OF_RANGE"
      | some header => .ok (header ++ props.data)

/-- A page: the fields between its magic number and its segments, and these. -/
structure OggPage where
  fields : Bytes
  segments : List Bytes
  length_fields : fields.length = 22
  length_segments : segments.length ≤ OggMaxSegments
  length_segment : ∀ segment ∈ segments, segment.length ≤ 255

/-- The header of a page. -/
def OggPage.header (page : OggPage) : Bytes :=
  [0x4f, 0x67, 0x67, 0x53] ++ page.fields ++ [UInt8.ofNat page.segments.length] ++
    page.segments.map fun segment => UInt8.ofNat segment.length

/-- The bytes of a page. -/
def OggPage.bytes (page : OggPage) : Bytes := page.header ++ page.segments.flatten

/-! ## What is written -/

lemma writeUInt8_natCast {n : ℕ} (h : n < 256) : writeUInt8 n = some [UInt8.ofNat n] := by
  rw [writeUInt8, writeUIntBE_eq_some]
  refine ⟨⟨Int.natCast_nonneg n, by exact_mod_cast h⟩, ?_⟩
  rw [Int.toNat_natCast, BigEndian.encode, BigEndian.encode, List.nil_append, Nat.mod_eq_of_lt h]

lemma mapM_writeUInt8 {sizes : List ℕ} (h : ∀ size ∈ sizes, size < 256) :
    (sizes.mapM fun size : ℕ => writeUInt8 size) = some (sizes.map fun size => [UInt8.ofNat size]) := by
  induction sizes with
  | nil => rfl
  | cons size sizes ih =>
    obtain ⟨hsize, hsizes⟩ := List.forall_mem_cons.mp h
    simp [List.mapM_cons, writeUInt8_natCast hsize, ih hsizes]

lemma exists_writeUInt32LE {n : ℕ} (h : n < 2 ^ 32) :
    ∃ field : Bytes, writeUInt32LE n = some field ∧ field.length = 4 := by
  obtain ⟨field, hfield⟩ := Option.isSome_iff_exists.mp (isSome_writeUIntBE (k := 4) (v := (n : ℤ)) |>.mpr
    ⟨Int.natCast_nonneg n, by exact_mod_cast h⟩)
  refine ⟨field.reverse, by rw [writeUInt32LE, hfield, Option.map_some], ?_⟩
  rw [List.length_reverse, length_of_writeUIntBE hfield]

lemma toUint32_lt (value : ℤ) : toUint32 value < 2 ^ 32 := by
  rw [toUint32]
  omega

/-- What the pager writes is a page. -/
lemma exists_createOggPage {headerType : ℕ} {granulePosition : ℤ} (serialNumber : ℤ) (pageSequence : ℕ)
    {segments : List Bytes} (htype : headerType < 256)
    (hgranule : -2 ^ 63 ≤ granulePosition ∧ granulePosition < 2 ^ 63) (hlength : segments.length ≤ OggMaxSegments)
    (hsegment : ∀ segment ∈ segments, segment.length ≤ 255) :
    ∃ page : OggPage, createOggPage ⟨headerType, granulePosition, serialNumber, pageSequence,
      segments.map List.length, segments.flatten⟩ = .ok page.bytes ∧ page.segments = segments := by
  set props : OggPageProps := ⟨headerType, granulePosition, serialNumber, pageSequence, segments.map List.length,
    segments.flatten⟩ with hprops
  have hheader : ∀ checksum : ℕ, checksum < 2 ^ 32 → ∃ fields : Bytes, fields.length = 22 ∧
      oggPageHeader props checksum = some ([0x4f, 0x67, 0x67, 0x53] ++ fields ++
        [UInt8.ofNat segments.length] ++ segments.map fun segment => UInt8.ofNat segment.length) := by
    intro checksum hchecksum
    obtain ⟨serial, hserial, hserialLength⟩ := exists_writeUInt32LE (toUint32_lt serialNumber)
    obtain ⟨sequence, hsequence, hsequenceLength⟩ := exists_writeUInt32LE (toUint32_lt pageSequence)
    obtain ⟨sum, hsum, hsumLength⟩ := exists_writeUInt32LE hchecksum
    have hsizes : ∀ size ∈ segments.map List.length, size < 256 := by
      intro size hsize
      obtain ⟨segment, hmem, rfl⟩ := List.mem_map.mp hsize
      exact Nat.lt_succ_of_le (hsegment segment hmem)
    have htable : ((segments.map List.length).map fun size => [UInt8.ofNat size]).flatten =
        segments.map fun segment => UInt8.ofNat segment.length := by
      rw [← List.flatMap_def, ← List.map_eq_flatMap, List.map_map]
      rfl
    refine ⟨[0] ++ [UInt8.ofNat headerType] ++ (BigEndian.encode 8 (granulePosition % 2 ^ 64).toNat).reverse ++
      serial ++ sequence ++ sum, ?_, ?_⟩
    · simp [hserialLength, hsequenceLength, hsumLength]
    · simp only [oggPageHeader, hprops, writeUInt8_natCast htype, writeBigInt64LE, if_pos hgranule, hserial,
        hsequence, hsum, List.length_map, writeUInt8_natCast (Nat.lt_succ_of_le hlength), mapM_writeUInt8 hsizes,
        htable, Option.bind_eq_bind, Option.bind_some, Option.pure_def]
  obtain ⟨fields, -, hfirst⟩ := hheader 0 (by norm_num)
  obtain ⟨fields', hfields, hsecond⟩ := hheader (oggCrc32 ([0x4f, 0x67, 0x67, 0x53] ++ fields ++
    [UInt8.ofNat segments.length] ++ (segments.map fun segment => UInt8.ofNat segment.length) ++
      segments.flatten)).toNat (UInt32.toNat_lt _)
  refine ⟨⟨fields', segments, hfields, hlength, hsegment⟩, ?_, rfl⟩
  have hcount : ¬ OggMaxSegments < props.segmentTable.length := by
    rw [hprops]
    simpa using hlength
  have hsum : ¬ props.segmentTable.sum ≠ props.data.length := by
    rw [hprops, List.length_flatten, not_not]
  rw [createOggPage, if_neg hcount, if_neg hsum, hfirst]
  dsimp only
  rw [hsecond]
  rfl

end Werift.Container
