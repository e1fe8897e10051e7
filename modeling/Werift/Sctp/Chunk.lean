import Werift.Js.Buffer

/-!
# SCTP chunks (`sctp/src/chunk.ts`)

A `DataChunk` carries the fields of the wire and the bookkeeping of the sender.  A `SackChunk` is
modelled down to its bytes: `SackChunk.bytes` throws (is `none`) as soon as one of its numbers does
not fit its field, and `SackChunk.ofBytes` is what `parsePacket` makes of the bytes.
`SackChunk.ofBytes_bytes` is the round trip.
-/

namespace Werift.Sctp

open Js

def SCTP_DATA_LAST_FRAG : ℕ := 0x01
def SCTP_DATA_FIRST_FRAG : ℕ := 0x02
def SCTP_DATA_UNORDERED : ℕ := 0x04

/-- A DATA chunk.  `expiry` is a time in seconds and, like `maxRetransmits`, may be undefined. -/
structure DataChunk where
  flags : ℕ := 0
  tsn : ℤ := 0
  streamId : ℕ := 0
  streamSeqNum : ℤ := 0
  protocol : ℕ := 0
  userData : List UInt8 := []
  abandoned : Bool := false
  acked : Bool := false
  misses : ℕ := 0
  retransmit : Bool := false
  sentCount : ℕ := 0
  bookSize : ℕ := 0
  expiry : Option ℚ := none
  maxRetransmits : Option ℕ := none
deriving DecidableEq

namespace DataChunk

/-- `chunk.flags & SCTP_DATA_LAST_FRAG`. -/
def lastFrag (c : DataChunk) : Bool := c.flags &&& SCTP_DATA_LAST_FRAG != 0

/-- `chunk.flags & SCTP_DATA_FIRST_FRAG`. -/
def firstFrag (c : DataChunk) : Bool := c.flags &&& SCTP_DATA_FIRST_FRAG != 0

/-- `chunk.flags & SCTP_DATA_UNORDERED`. -/
def unordered (c : DataChunk) : Bool := c.flags &&& SCTP_DATA_UNORDERED != 0

/-- The chunk that the peer parses: the fields of the wire, and the bookkeeping of a new chunk. -/
def onWire (c : DataChunk) : DataChunk where
  flags := c.flags
  tsn := c.tsn
  streamId := c.streamId
  streamSeqNum := c.streamSeqNum
  protocol := c.protocol
  userData := c.userData

@[simp] lemma onWire_tsn (c : DataChunk) : c.onWire.tsn = c.tsn := rfl
@[simp] lemma onWire_streamId (c : DataChunk) : c.onWire.streamId = c.streamId := rfl
@[simp] lemma onWire_streamSeqNum (c : DataChunk) : c.onWire.streamSeqNum = c.streamSeqNum := rfl
@[simp] lemma onWire_protocol (c : DataChunk) : c.onWire.protocol = c.protocol := rfl
@[simp] lemma onWire_userData (c : DataChunk) : c.onWire.userData = c.userData := rfl
@[simp] lemma onWire_lastFrag (c : DataChunk) : c.onWire.lastFrag = c.lastFrag := rfl
@[simp] lemma onWire_firstFrag (c : DataChunk) : c.onWire.firstFrag = c.firstFrag := rfl
@[simp] lemma onWire_unordered (c : DataChunk) : c.onWire.unordered = c.unordered := rfl

end DataChunk

/-- A FORWARD TSN chunk. -/
structure ForwardTsnChunk where
  cumulativeTsn : ℤ
  streams : List (ℕ × ℤ)
deriving DecidableEq

/-- A SACK chunk. -/
structure SackChunk where
  flags : ℤ := 0
  gaps : List (ℤ × ℤ) := []
  duplicates : List ℤ := []
  cumulativeTsn : ℤ := 0
  advertisedRwnd : ℤ := 0
deriving DecidableEq

namespace SackChunk

/-- `SackChunk.type`. -/
def type : ℤ := 3

/-- `16 + 4 * (gaps.length + duplicates.length)`. -/
def length (c : SackChunk) : ℕ := 16 + 4 * (c.gaps.length + c.duplicates.length)

/-- The four bytes of a gap block. -/
def gapBuffer (gap : ℤ × ℤ) : Option (List UInt8) := do
  let start ← writeUInt16BE gap.1
  let stop ← writeUInt16BE gap.2
  return start ++ stop

/-- The bytes of a list of equally coded fields. -/
def concatMap {α : Type*} (write : α → Option (List UInt8)) : List α → Option (List UInt8)
  | [] => some []
  | a :: l => do
    let field ← write a
    let rest ← concatMap write l
    return field ++ rest

/-- `get bytes()`. -/
def bytes (c : SackChunk) : Option (List UInt8) := do
  let type ← writeUInt8 type
  let flags ← writeUInt8 c.flags
  let length ← writeUInt16BE c.length
  let cumulativeTsn ← writeUInt32BE c.cumulativeTsn
  let advertisedRwnd ← writeUInt32BE c.advertisedRwnd
  let nbGaps ← writeUInt16BE c.gaps.length
  let nbDuplicates ← writeUInt16BE c.duplicates.length
  let gaps ← concatMap gapBuffer c.gaps
  let duplicates ← concatMap writeUInt32BE c.duplicates
  return type ++ flags ++ length ++ cumulativeTsn ++ advertisedRwnd ++ nbGaps ++ nbDuplicates ++
    gaps ++ duplicates

/-- The gap block at a position. -/
def readGap (body : List UInt8) (pos : ℕ) : Option (ℤ × ℤ) := do
  let start ← readUInt16BE body pos
  let stop ← readUInt16BE body (pos + 2)
  return (start, stop)

/-- Read `n` fields of four bytes from a position on. -/
def readAll {α : Type*} (read : List UInt8 → ℕ → Option α) (body : List UInt8) :
    ℕ → ℕ → Option (List α)
  | 0, _ => some []
  | n + 1, pos => do
    let a ← read body pos
    let rest ← readAll read body n (pos + 4)
    return a :: rest

/-- `new SackChunk(flags, body)`. -/
def ofBody (flags : ℤ) (body : List UInt8) : Option SackChunk := do
  let cumulativeTsn ← readUInt32BE body 0
  let advertisedRwnd ← readUInt32BE body 4
  let nbGaps ← readUInt16BE body 8
  let nbDuplicates ← readUInt16BE body 10
  let gaps ← readAll readGap body nbGaps.toNat 12
  let duplicates ← readAll readUInt32BE body nbDuplicates.toNat (12 + 4 * nbGaps.toNat)
  return { flags, gaps, duplicates, cumulativeTsn, advertisedRwnd }

/-- The part of `parsePacket` that reads the chunk at the start of `data`, for a SACK. -/
def ofBytes (data : List UInt8) : Option SackChunk := do
  let chunkType ← readUInt8 data 0
  let chunkFlags ← readUInt8 data 1
  let chunkLength ← readUInt16BE data 2
  guard (chunkType = type)
  ofBody chunkFlags (slice data 4 chunkLength.toNat)

/-! ### Serialising -/

lemma length_gapBuffer {gap : ℤ × ℤ} {field : List UInt8} (h : gapBuffer gap = some field) :
    field.length = 4 := by
  simp only [gapBuffer, Option.bind_eq_bind, Option.bind_eq_some_iff, Option.pure_def,
    Option.some.injEq] at h
  obtain ⟨start, hstart, stop, hstop, rfl⟩ := h
  rw [List.length_append, length_of_writeUIntBE hstart, length_of_writeUIntBE hstop]

lemma concatMap_cons_eq_some {α : Type*} {write : α → Option (List UInt8)} {a : α} {l : List α}
    {out : List UInt8} : concatMap write (a :: l) = some out ↔
      ∃ field, write a = some field ∧ ∃ rest, concatMap write l = some rest ∧ field ++ rest = out := by
  simp [concatMap, Option.bind_eq_some_iff]

lemma length_concatMap {α : Type*} {write : α → Option (List UInt8)}
    (hwrite : ∀ a field, write a = some field → field.length = 4) {l : List α} {out : List UInt8}
    (h : concatMap write l = some out) : out.length = 4 * l.length := by
  induction l generalizing out with
  | nil =>
    obtain rfl : [] = out := by simpa [concatMap] using h
    rfl
  | cons a l ih =>
    obtain ⟨field, hfield, rest, hrest, rfl⟩ := concatMap_cons_eq_some.mp h
    rw [List.length_append, hwrite a field hfield, ih hrest, List.length_cons]
    ring

/-- A list of fields can be written exactly when each of them can. -/
lemma concatMap_isSome {α : Type*} {write : α → Option (List UInt8)} {l : List α} :
    (concatMap write l).isSome ↔ ∀ a ∈ l, (write a).isSome := by
  induction l with
  | nil => simp [concatMap]
  | cons a l ih =>
    rw [List.forall_mem_cons, ← ih]
    cases ha : write a with
    | none => simp [concatMap, ha]
    | some field => cases hl : concatMap write l <;> simp [concatMap, ha, hl]

/-- Fields of four bytes each that can be written and read back one by one can be read back when
they are written one after another. -/
lemma readAll_concatMap {α : Type*} {write : α → Option (List UInt8)}
    {read : List UInt8 → ℕ → Option α}
    (hlen : ∀ a field, write a = some field → field.length = 4)
    (hread : ∀ a field, write a = some field → ∀ pre post,
      read (pre ++ field ++ post) pre.length = some a)
    {l : List α} {out : List UInt8} (h : concatMap write l = some out) (pre post : List UInt8) :
    readAll read (pre ++ out ++ post) l.length pre.length = some l := by
  induction l generalizing out pre with
  | nil => rfl
  | cons a l ih =>
    obtain ⟨field, hfield, rest, hrest, rfl⟩ := concatMap_cons_eq_some.mp h
    have hfirst : read (pre ++ (field ++ rest) ++ post) pre.length = some a := by
      have := hread a field hfield pre (rest ++ post)
      simpa using this
    have hnext : readAll read (pre ++ (field ++ rest) ++ post) l.length (pre.length + 4) =
        some l := by
      have := ih hrest (pre ++ field)
      rw [List.length_append, hlen a field hfield] at this
      simpa using this
    rw [List.length_cons, readAll, hfirst, hnext]
    rfl

lemma readGap_append {gap : ℤ × ℤ} {field : List UInt8} (h : gapBuffer gap = some field)
    (pre post : List UInt8) : readGap (pre ++ field ++ post) pre.length = some gap := by
  simp only [gapBuffer, Option.bind_eq_bind, Option.bind_eq_some_iff, Option.pure_def,
    Option.some.injEq] at h
  obtain ⟨start, hstart, stop, hstop, rfl⟩ := h
  have h1 : readUInt16BE (pre ++ (start ++ stop) ++ post) pre.length = some gap.1 := by
    have := readUIntBE_append hstart pre (stop ++ post)
    simpa [readUInt16BE] using this
  have h2 : readUInt16BE (pre ++ (start ++ stop) ++ post) (pre.length + 2) = some gap.2 := by
    have := readUIntBE_append hstop (pre ++ start) post
    rw [List.length_append, length_of_writeUIntBE hstart] at this
    simpa [readUInt16BE] using this
  rw [readGap, h1, h2]
  rfl

/-- The fields that the serialised SACK consists of. -/
structure Fields (c : SackChunk) (type flags length cumulativeTsn advertisedRwnd nbGaps nbDuplicates
    gaps duplicates : List UInt8) : Prop where
  type : writeUInt8 SackChunk.type = some type
  flags : writeUInt8 c.flags = some flags
  length : writeUInt16BE c.length = some length
  cumulativeTsn : writeUInt32BE c.cumulativeTsn = some cumulativeTsn
  advertisedRwnd : writeUInt32BE c.advertisedRwnd = some advertisedRwnd
  nbGaps : writeUInt16BE c.gaps.length = some nbGaps
  nbDuplicates : writeUInt16BE c.duplicates.length = some nbDuplicates
  gaps : concatMap gapBuffer c.gaps = some gaps
  duplicates : concatMap writeUInt32BE c.duplicates = some duplicates

lemma bytes_eq_some {c : SackChunk} {out : List UInt8} (h : c.bytes = some out) :
    ∃ type flags length tsn rwnd ng nd gaps dups,
      Fields c type flags length tsn rwnd ng nd gaps dups ∧
      out = type ++ flags ++ length ++ (tsn ++ rwnd ++ ng ++ nd ++ gaps ++ dups) := by
  simp only [bytes, Option.bind_eq_bind, Option.bind_eq_some_iff, Option.pure_def,
    Option.some.injEq] at h
  obtain ⟨type, h0, flags, h1, length, h2, tsn, h3, rwnd, h4, ng, h5, nd, h6, gaps, h7, dups, h8,
    rfl⟩ := h
  refine ⟨type, flags, length, tsn, rwnd, ng, nd, gaps, dups,
    ⟨h0, h1, h2, h3, h4, h5, h6, h7, h8⟩, ?_⟩
  simp only [List.append_assoc]

/-- **When a SACK can be serialised**: every number has to fit into its field. -/
lemma isSome_bytes_iff {c : SackChunk} : c.bytes.isSome ↔
    (writeUInt8 c.flags).isSome ∧ (writeUInt16BE c.length).isSome ∧
      (writeUInt32BE c.cumulativeTsn).isSome ∧ (writeUInt32BE c.advertisedRwnd).isSome ∧
      (∀ gap ∈ c.gaps, (gapBuffer gap).isSome) ∧
      ∀ tsn ∈ c.duplicates, (writeUInt32BE tsn).isSome := by
  constructor
  · intro h
    obtain ⟨out, hout⟩ := Option.isSome_iff_exists.mp h
    obtain ⟨type, flags, length, tsn, rwnd, ng, nd, gaps, dups, f, -⟩ := bytes_eq_some hout
    refine ⟨Option.isSome_of_eq_some f.flags, Option.isSome_of_eq_some f.length,
      Option.isSome_of_eq_some f.cumulativeTsn, Option.isSome_of_eq_some f.advertisedRwnd, ?_, ?_⟩
    · exact concatMap_isSome.mp (Option.isSome_of_eq_some f.gaps)
    · exact concatMap_isSome.mp (Option.isSome_of_eq_some f.duplicates)
  · rintro ⟨hflags, hlength, htsn, hrwnd, hgaps, hdups⟩
    have hfit : c.length < 65536 := by
      rw [writeUInt16BE, isSome_writeUIntBE] at hlength
      omega
    have hcounts : c.gaps.length < 65536 ∧ c.duplicates.length < 65536 := by
      rw [SackChunk.length] at hfit
      omega
    have hng : (writeUInt16BE c.gaps.length).isSome := by
      rw [writeUInt16BE, isSome_writeUIntBE]
      omega
    have hnd : (writeUInt16BE c.duplicates.length).isSome := by
      rw [writeUInt16BE, isSome_writeUIntBE]
      omega
    have htype : (writeUInt8 SackChunk.type).isSome := by decide
    obtain ⟨_, h0⟩ := Option.isSome_iff_exists.mp htype
    obtain ⟨_, h1⟩ := Option.isSome_iff_exists.mp hflags
    obtain ⟨_, h2⟩ := Option.isSome_iff_exists.mp hlength
    obtain ⟨_, h3⟩ := Option.isSome_iff_exists.mp htsn
    obtain ⟨_, h4⟩ := Option.isSome_iff_exists.mp hrwnd
    obtain ⟨_, h5⟩ := Option.isSome_iff_exists.mp hng
    obtain ⟨_, h6⟩ := Option.isSome_iff_exists.mp hnd
    obtain ⟨_, h7⟩ := Option.isSome_iff_exists.mp (concatMap_isSome.mpr hgaps)
    obtain ⟨_, h8⟩ := Option.isSome_iff_exists.mp (concatMap_isSome.mpr hdups)
    simp [bytes, h0, h1, h2, h3, h4, h5, h6, h7, h8]

/-- A gap block fits if both of its ends do. -/
lemma isSome_gapBuffer {gap : ℤ × ℤ} : (gapBuffer gap).isSome ↔
    (0 ≤ gap.1 ∧ gap.1 < 65536) ∧ 0 ≤ gap.2 ∧ gap.2 < 65536 := by
  have h1 := isSome_writeUIntBE (k := 2) (v := gap.1)
  have h2 := isSome_writeUIntBE (k := 2) (v := gap.2)
  norm_num at h1 h2
  rw [← h1, ← h2]
  cases hs : writeUIntBE 2 gap.1 <;> cases ht : writeUIntBE 2 gap.2 <;>
    simp [gapBuffer, writeUInt16BE, hs, ht]

namespace Fields

variable {c : SackChunk} {type flags length tsn rwnd ng nd gaps dups : List UInt8}

/-- The body of the serialised chunk is what `parsePacket` cuts out of it. -/
lemma slice_body (f : Fields c type flags length tsn rwnd ng nd gaps dups) :
    slice (type ++ flags ++ length ++ (tsn ++ rwnd ++ ng ++ nd ++ gaps ++ dups)) 4 c.length =
      tsn ++ rwnd ++ ng ++ nd ++ gaps ++ dups := by
  have hhead : (type ++ flags ++ length).length = 4 := by
    simp [length_of_writeUIntBE f.type, length_of_writeUIntBE f.flags,
      length_of_writeUIntBE f.length]
  have hlen : (tsn ++ rwnd ++ ng ++ nd ++ gaps ++ dups).length = c.length - 4 := by
    simp only [List.length_append, length_of_writeUIntBE f.cumulativeTsn,
      length_of_writeUIntBE f.advertisedRwnd, length_of_writeUIntBE f.nbGaps,
      length_of_writeUIntBE f.nbDuplicates,
      length_concatMap (fun _ _ => length_gapBuffer) f.gaps,
      length_concatMap (fun _ _ => length_of_writeUIntBE) f.duplicates, SackChunk.length]
    omega
  have hdrop : (type ++ flags ++ length ++ (tsn ++ rwnd ++ ng ++ nd ++ gaps ++ dups)).drop 4 =
      tsn ++ rwnd ++ ng ++ nd ++ gaps ++ dups := by
    rw [← hhead, List.drop_left]
  rw [slice, hdrop, ← hlen, List.take_length]

/-- Parsing the body of the serialised chunk gives the chunk back. -/
lemma ofBody_body (f : Fields c type flags length tsn rwnd ng nd gaps dups) :
    ofBody c.flags (tsn ++ rwnd ++ ng ++ nd ++ gaps ++ dups) = some c := by
  have l3 := length_of_writeUIntBE f.cumulativeTsn
  have l4 := length_of_writeUIntBE f.advertisedRwnd
  have l5 := length_of_writeUIntBE f.nbGaps
  have l6 := length_of_writeUIntBE f.nbDuplicates
  have l7 := length_concatMap (fun _ _ => length_gapBuffer) f.gaps
  set body := tsn ++ rwnd ++ ng ++ nd ++ gaps ++ dups with hbody
  have r3 : readUInt32BE body 0 = some c.cumulativeTsn := by
    have := readUIntBE_append f.cumulativeTsn [] (rwnd ++ ng ++ nd ++ gaps ++ dups)
    simpa [readUInt32BE, hbody] using this
  have r4 : readUInt32BE body 4 = some c.advertisedRwnd := by
    have := readUIntBE_append f.advertisedRwnd tsn (ng ++ nd ++ gaps ++ dups)
    simpa [readUInt32BE, hbody, l3] using this
  have r5 : readUInt16BE body 8 = some (c.gaps.length : ℤ) := by
    have := readUIntBE_append f.nbGaps (tsn ++ rwnd) (nd ++ gaps ++ dups)
    simpa [readUInt16BE, hbody, l3, l4] using this
  have r6 : readUInt16BE body 10 = some (c.duplicates.length : ℤ) := by
    have := readUIntBE_append f.nbDuplicates (tsn ++ rwnd ++ ng) (gaps ++ dups)
    simpa [readUInt16BE, hbody, l3, l4, l5] using this
  have r7 : readAll readGap body c.gaps.length 12 = some c.gaps := by
    have := readAll_concatMap (fun _ _ => length_gapBuffer) (fun _ _ => readGap_append) f.gaps
      (tsn ++ rwnd ++ ng ++ nd) dups
    simpa [hbody, l3, l4, l5, l6] using this
  have r8 : readAll readUInt32BE body c.duplicates.length (12 + 4 * c.gaps.length) =
      some c.duplicates := by
    have hpos : (tsn ++ rwnd ++ ng ++ nd ++ gaps).length = 12 + 4 * c.gaps.length := by
      simp only [List.length_append, l3, l4, l5, l6, l7]
    have := readAll_concatMap (fun _ _ => length_of_writeUIntBE)
      (fun _ _ hf pre post => (readUIntBE_append hf pre post : readUInt32BE _ _ = _)) f.duplicates
      (tsn ++ rwnd ++ ng ++ nd ++ gaps) []
    rwa [hpos, List.append_nil] at this
  simp [ofBody, r3, r4, r5, r6, r7, r8]

end Fields

/-- **Round trip.**  The peer parses exactly the SACK that was serialised. -/
theorem ofBytes_bytes {c : SackChunk} {out : List UInt8} (h : c.bytes = some out) :
    ofBytes out = some c := by
  obtain ⟨type, flags, length, tsn, rwnd, ng, nd, gaps, dups, f, rfl⟩ := bytes_eq_some h
  have l0 := length_of_writeUIntBE f.type
  have l1 := length_of_writeUIntBE f.flags
  have hslice := f.slice_body
  have hbody := f.ofBody_body
  set body := tsn ++ rwnd ++ ng ++ nd ++ gaps ++ dups
  have r0 : readUInt8 (type ++ flags ++ length ++ body) 0 = some SackChunk.type := by
    have := readUIntBE_append f.type [] (flags ++ length ++ body)
    simpa [readUInt8] using this
  have r1 : readUInt8 (type ++ flags ++ length ++ body) 1 = some c.flags := by
    have := readUIntBE_append f.flags type (length ++ body)
    simpa [readUInt8, l0] using this
  have r2 : readUInt16BE (type ++ flags ++ length ++ body) 2 = some (c.length : ℤ) := by
    have := readUIntBE_append f.length (type ++ flags) body
    simpa [readUInt16BE, l0, l1] using this
  simp only [ofBytes, r0, r1, r2, Option.bind_eq_bind, Option.bind_some, guard_true, Int.toNat_natCast,
    hslice, hbody]
  rfl

end SackChunk

end Werift.Sctp
