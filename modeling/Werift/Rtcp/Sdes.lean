import Werift.Js.Text
import Werift.Lib.MapM
import Werift.Rtcp.Header

/-!
# Source descriptions (`rtp/src/rtcp/sdes.ts`)

The items of a chunk end with a zero byte.  `serialize` pads a chunk to a multiple of four bytes and writes no
zero byte when its length is one already, while the getter `length`, by which the parser moves on, always
counts one.  So a packet comes back iff no chunk but the last has such a length (`sdes_iff`).
-/

namespace Werift.Rtcp

/-- A `SourceDescriptionItem`. -/
structure SourceDescriptionItem where
  type : ℕ
  text : String
deriving DecidableEq

/-- A `SourceDescriptionChunk`. -/
structure SourceDescriptionChunk where
  source : ℕ
  items : List SourceDescriptionItem := []
deriving DecidableEq

/-- A `RtcpSourceDescriptionPacket`. -/
structure RtcpSourceDescriptionPacket where
  chunks : List SourceDescriptionChunk := []
deriving DecidableEq

/-- `getPadding(len)`. -/
def getPadding (len : ℕ) : ℕ := if len % 4 = 0 then 0 else 4 - len % 4

namespace SourceDescriptionItem

variable (item : SourceDescriptionItem)

/-- The getter `length`. -/
def length : ℕ := 1 + 1 + (Js.encodeUtf8 item.text).length

/-- `serialize()`. -/
def serialize : Option Bytes := do
  let text := Js.encodeUtf8 item.text
  let type ← Js.writeUInt8 item.type
  let octetCount ← Js.writeUInt8 text.length
  return type ++ octetCount ++ text

/-- `SourceDescriptionItem.deSerialize(data)` where `data` is not empty. -/
def deSerialize (data : Bytes) : SourceDescriptionItem where
  type := (data.getD 0 0).toNat
  text := Js.decodeUtf8 (Js.slice data 2 (2 + (data.getD 1 0).toNat))

lemma two_le_length : 2 ≤ item.length := by
  rw [length]
  omega

end SourceDescriptionItem

namespace SourceDescriptionChunk

variable (chunk : SourceDescriptionChunk)

/-- The length of a chunk before the zero byte. -/
def dataLength : ℕ := 4 + (chunk.items.map SourceDescriptionItem.length).sum

/-- The getter `length`. -/
def length : ℕ := chunk.dataLength + 1 + getPadding (chunk.dataLength + 1)

/-- `serialize()`. -/
def serialize : Option Bytes := do
  let source ← Js.writeUInt32BE chunk.source
  let items ← chunk.items.mapM SourceDescriptionItem.serialize
  let data := source ++ items.flatten
  return data ++ List.replicate (getPadding data.length) 0

/-- The loop of `deSerialize` over the items. -/
def readItems (data : Bytes) : List SourceDescriptionItem :=
  if data = [] then []
  else if data.getD 0 0 = 0 then []
  else
    let item := SourceDescriptionItem.deSerialize data
    item :: readItems (data.drop item.length)
termination_by data.length
decreasing_by
  have hitem := SourceDescriptionItem.two_le_length (SourceDescriptionItem.deSerialize data)
  have hdata : 0 < data.length := List.length_pos_of_ne_nil ‹_›
  rw [List.length_drop]
  omega

/-- `SourceDescriptionChunk.deSerialize(data)`. -/
def deSerialize (data : Bytes) : Option SourceDescriptionChunk := do
  let source ← Js.readUInt32BE data 0
  return { source := source.toNat, items := readItems (data.drop 4) }

end SourceDescriptionChunk

namespace RtcpSourceDescriptionPacket

/-- `RtcpSourceDescriptionPacket.type`. -/
def type : ℕ := 202

/-- `serialize()`.  The loop pads the payload to a multiple of four bytes. -/
def serialize (packet : RtcpSourceDescriptionPacket) : Option Bytes := do
  let chunks ← packet.chunks.mapM SourceDescriptionChunk.serialize
  let payload := chunks.flatten
  let payload := payload ++ List.replicate (getPadding payload.length) 0
  RtcpHeader.serialize type packet.chunks.length payload (payload.length / 4)

/-- The loop of `deSerialize` over the chunks. -/
def readChunks (payload : Bytes) : Option (List SourceDescriptionChunk) :=
  if payload = [] then some []
  else do
    let chunk ← SourceDescriptionChunk.deSerialize payload
    let chunks ← readChunks (payload.drop chunk.length)
    return chunk :: chunks
termination_by payload.length
decreasing_by
  have hpayload : 0 < payload.length := List.length_pos_of_ne_nil ‹_›
  rw [List.length_drop, SourceDescriptionChunk.length, SourceDescriptionChunk.dataLength]
  omega

/-- `RtcpSourceDescriptionPacket.deSerialize(payload, header)`. -/
def deSerialize (payload : Bytes) : Option RtcpSourceDescriptionPacket :=
  (readChunks payload).map fun chunks => { chunks }

/-- **Round trip**: what is written is read back from the body. -/
def RoundTrips (packet : RtcpSourceDescriptionPacket) : Prop :=
  ∃ bytes, packet.serialize = some bytes ∧ deSerialize (bytes.drop RTCP_HEADER_SIZE) = some packet

end RtcpSourceDescriptionPacket

/-! ## Written bytes -/

/-- An item that can be written: its type is a byte other than the one that ends the items. -/
structure SourceDescriptionItem.Valid (item : SourceDescriptionItem) : Prop where
  type_pos : 0 < item.type
  type_lt : item.type < 256
  text : (Js.encodeUtf8 item.text).length < 256

/-- A chunk that can be written. -/
structure SourceDescriptionChunk.Valid (chunk : SourceDescriptionChunk) : Prop where
  source : chunk.source < 2 ^ 32
  items : ∀ item ∈ chunk.items, item.Valid

lemma add_getPadding_mod (len : ℕ) : (len + getPadding len) % 4 = 0 := by
  rw [getPadding]
  split_ifs with h
  · exact h
  · omega

lemma getPadding_eq_zero {len : ℕ} : getPadding len = 0 ↔ len % 4 = 0 := by
  rw [getPadding]
  split_ifs with h
  · simp only [h]
  · simp only [h, iff_false]
    omega

namespace SourceDescriptionItem

/-- The bytes of an item. -/
def bytes (item : SourceDescriptionItem) : Bytes :=
  BigEndian.encode 1 item.type ++ BigEndian.encode 1 (Js.encodeUtf8 item.text).length ++
    Js.encodeUtf8 item.text

variable {item : SourceDescriptionItem}

lemma length_bytes : item.bytes.length = item.length := by
  simp only [bytes, length, List.length_append, BigEndian.length_encode]

lemma Valid.serialize (h : item.Valid) : item.serialize = some item.bytes := by
  have htype := Js.writeUIntBE_natCast (k := 1) (n := item.type) h.type_lt
  have htext := Js.writeUIntBE_natCast (k := 1) (n := (Js.encodeUtf8 item.text).length) h.text
  simp only [SourceDescriptionItem.serialize, Js.writeUInt8, htype, htext]
  rfl

lemma encode_one (n : ℕ) : BigEndian.encode 1 n = [UInt8.ofNat n] := by
  have hmod : UInt8.ofNat (n % 256) = UInt8.ofNat n := by
    rw [← UInt8.toNat_inj, UInt8.toNat_ofNat', UInt8.toNat_ofNat', Nat.mod_mod]
  rw [BigEndian.encode, BigEndian.encode, List.nil_append, hmod]

/-- The first byte of an item is its type. -/
lemma bytes_eq_cons (item : SourceDescriptionItem) : item.bytes =
    UInt8.ofNat item.type :: UInt8.ofNat (Js.encodeUtf8 item.text).length ::
      Js.encodeUtf8 item.text := by
  rw [bytes, encode_one, encode_one]
  rfl

lemma Valid.type_ne_zero (h : item.Valid) : UInt8.ofNat item.type ≠ 0 := by
  intro hzero
  have hnat := congrArg UInt8.toNat hzero
  rw [UInt8.toNat_ofNat_of_lt' h.type_lt] at hnat
  exact absurd hnat h.type_pos.ne'

/-- **Reading an item** in front of more bytes. -/
lemma Valid.deSerialize_append (h : item.Valid) (more : Bytes) :
    deSerialize (item.bytes ++ more) = item := by
  have htype : (UInt8.ofNat item.type).toNat = item.type :=
    UInt8.toNat_ofNat_of_lt' h.type_lt
  have htext : (UInt8.ofNat (Js.encodeUtf8 item.text).length).toNat = (Js.encodeUtf8 item.text).length :=
    UInt8.toNat_ofNat_of_lt' h.text
  rw [bytes_eq_cons, deSerialize]
  simp only [List.cons_append, List.getD_cons_zero, List.getD_cons_succ, htype, htext, Js.slice,
    List.drop_succ_cons, List.drop_zero, Nat.add_sub_cancel_left, List.take_left,
    Js.decodeUtf8_encodeUtf8]

end SourceDescriptionItem

namespace SourceDescriptionChunk

/-- The bytes of a chunk before the padding. -/
def data (chunk : SourceDescriptionChunk) : Bytes :=
  BigEndian.encode 4 chunk.source ++ (chunk.items.map SourceDescriptionItem.bytes).flatten

/-- The bytes of a chunk. -/
def bytes (chunk : SourceDescriptionChunk) : Bytes :=
  chunk.data ++ List.replicate (getPadding chunk.dataLength) 0

variable {chunk : SourceDescriptionChunk}

lemma length_items (items : List SourceDescriptionItem) :
    (items.map SourceDescriptionItem.bytes).flatten.length =
      (items.map SourceDescriptionItem.length).sum := by
  rw [List.length_flatten, List.map_map]
  congr 1
  exact List.map_congr_left fun item _ => SourceDescriptionItem.length_bytes

lemma length_data (chunk : SourceDescriptionChunk) : chunk.data.length = chunk.dataLength := by
  rw [data, List.length_append, BigEndian.length_encode, length_items, dataLength]

lemma length_bytes (chunk : SourceDescriptionChunk) :
    chunk.bytes.length = chunk.dataLength + getPadding chunk.dataLength := by
  rw [bytes, List.length_append, length_data, List.length_replicate]

lemma length_bytes_mod (chunk : SourceDescriptionChunk) : chunk.bytes.length % 4 = 0 := by
  rw [length_bytes, add_getPadding_mod]

lemma Valid.serialize (h : chunk.Valid) : chunk.serialize = some chunk.bytes := by
  have hsource := Js.writeUIntBE_natCast (k := 4) (n := chunk.source) h.source
  have hitems : chunk.items.mapM SourceDescriptionItem.serialize =
      some (chunk.items.map SourceDescriptionItem.bytes) := by
    rw [OptionList.mapM_eq_some, List.forall₂_map_right_iff]
    exact List.forall₂_same.mpr fun item hmem => (h.items item hmem).serialize
  have hlength := length_data chunk
  rw [data] at hlength
  simp only [SourceDescriptionChunk.serialize, Js.writeUInt32BE, hsource, hitems, Option.bind_eq_bind,
    Option.bind_some, Option.pure_def, hlength, bytes, data]

lemma readItems_nil : readItems [] = [] := by
  rw [readItems, if_pos rfl]

/-- A zero byte ends the items. -/
lemma readItems_zero (more : Bytes) : readItems (0 :: more) = [] := by
  rw [readItems, if_neg (List.cons_ne_nil _ _), List.getD_cons_zero, if_pos rfl]

/-- Any other byte starts an item. -/
lemma readItems_ne_nil {b : UInt8} (hb : b ≠ 0) (more : Bytes) : readItems (b :: more) ≠ [] := by
  rw [readItems, if_neg (List.cons_ne_nil _ _), List.getD_cons_zero, if_neg hb]
  exact List.cons_ne_nil _ _

/-- **Reading items** in front of more bytes. -/
lemma readItems_append {items : List SourceDescriptionItem} (h : ∀ item ∈ items, item.Valid)
    (more : Bytes) : readItems ((items.map SourceDescriptionItem.bytes).flatten ++ more) =
      items ++ readItems more := by
  induction items with
  | nil => rfl
  | cons item items ih =>
    obtain ⟨hitem, hitems⟩ := List.forall_mem_cons.mp h
    have hread := hitem.deSerialize_append ((items.map SourceDescriptionItem.bytes).flatten ++ more)
    rw [List.map_cons, List.flatten_cons, List.append_assoc, readItems, hread]
    have hfirst : (item.bytes ++ ((items.map SourceDescriptionItem.bytes).flatten ++ more)).getD 0 0 =
        UInt8.ofNat item.type := by
      rw [item.bytes_eq_cons]
      rfl
    have hne : item.bytes ++ ((items.map SourceDescriptionItem.bytes).flatten ++ more) ≠ [] := by
      rw [item.bytes_eq_cons]
      exact List.cons_ne_nil _ _
    rw [hfirst, if_neg hne, if_neg hitem.type_ne_zero]
    dsimp only
    rw [← SourceDescriptionItem.length_bytes, List.drop_left, ih hitems, List.cons_append]

/-- **Reading a chunk** in front of more bytes: without padding its items go on behind its end. -/
lemma Valid.deSerialize_append (h : chunk.Valid) (more : Bytes) :
    deSerialize (chunk.bytes ++ more) = some { chunk with
      items := chunk.items ++ readItems (List.replicate (getPadding chunk.dataLength) 0 ++ more) } := by
  have hsource := Js.readUIntBE_append (Js.writeUIntBE_natCast (k := 4) (n := chunk.source) h.source) []
    ((chunk.items.map SourceDescriptionItem.bytes).flatten ++
      (List.replicate (getPadding chunk.dataLength) 0 ++ more))
  have hdrop : (chunk.bytes ++ more).drop 4 = (chunk.items.map SourceDescriptionItem.bytes).flatten ++
      (List.replicate (getPadding chunk.dataLength) 0 ++ more) := by
    have hfour := BigEndian.length_encode 4 chunk.source
    rw [bytes, data, List.append_assoc, List.append_assoc, List.drop_left' hfour]
  have hassoc : chunk.bytes ++ more = [] ++ BigEndian.encode 4 chunk.source ++
      ((chunk.items.map SourceDescriptionItem.bytes).flatten ++
        (List.replicate (getPadding chunk.dataLength) 0 ++ more)) := by
    simp only [bytes, data, List.nil_append, List.append_assoc]
  rw [deSerialize, hdrop, readItems_append h.items, hassoc, Js.readUInt32BE]
  rw [List.length_nil] at hsource
  rw [hsource]
  rfl

end SourceDescriptionChunk

/-! ## Packets -/

namespace RtcpSourceDescriptionPacket

open SourceDescriptionChunk (readItems readItems_nil readItems_zero readItems_ne_nil)

/-- A chunk whose items are ended by a zero byte. -/
def Terminated (chunk : SourceDescriptionChunk) : Prop := chunk.dataLength % 4 ≠ 0

instance : DecidablePred Terminated := fun _ => inferInstanceAs (Decidable (_ ≠ _))

/-- The bytes of chunks. -/
def payload (chunks : List SourceDescriptionChunk) : Bytes :=
  (chunks.map SourceDescriptionChunk.bytes).flatten

variable {chunk : SourceDescriptionChunk} {chunks : List SourceDescriptionChunk} {more : Bytes}

lemma payload_cons : payload (chunk :: chunks) = chunk.bytes ++ payload chunks := by
  rw [payload, List.map_cons, List.flatten_cons, payload]

lemma length_payload_mod (chunks : List SourceDescriptionChunk) : (payload chunks).length % 4 = 0 := by
  induction chunks with
  | nil => rfl
  | cons chunk chunks ih =>
    have hchunk := chunk.length_bytes_mod
    rw [payload_cons, List.length_append]
    omega

/-- The getter `length` counts four bytes too many for a chunk without a zero byte. -/
lemma length_eq (chunk : SourceDescriptionChunk) :
    chunk.length = chunk.bytes.length + if Terminated chunk then 0 else 4 := by
  rw [chunk.length_bytes, SourceDescriptionChunk.length, getPadding, getPadding]
  by_cases h : Terminated chunk
  · have hmod : chunk.dataLength % 4 ≠ 0 := h
    rw [if_pos h, if_neg hmod]
    split_ifs <;> omega
  · have hmod : chunk.dataLength % 4 = 0 := not_not.mp h
    rw [if_neg h, if_pos hmod, if_neg (by omega)]
    omega

lemma bytes_ne_nil (chunk : SourceDescriptionChunk) : chunk.bytes ≠ [] := by
  apply List.ne_nil_of_length_pos
  rw [chunk.length_bytes, SourceDescriptionChunk.dataLength]
  omega

lemma readChunks_nil : readChunks [] = some [] := by
  rw [readChunks, if_pos rfl]

lemma readChunks_of_ne_nil {data : Bytes} (h : data ≠ []) : readChunks data =
    (SourceDescriptionChunk.deSerialize data).bind fun chunk =>
      (readChunks (data.drop chunk.length)).map fun chunks => chunk :: chunks := by
  rw [readChunks, if_neg h]
  simp only [Option.map_eq_bind]
  rfl

/-- **Reading chunks** behind a chunk that has been written, if its items end where they should. -/
lemma readChunks_append (h : chunk.Valid)
    (hitems : readItems (List.replicate (getPadding chunk.dataLength) 0 ++ more) = []) :
    readChunks (chunk.bytes ++ more) =
      (readChunks (more.drop (if Terminated chunk then 0 else 4))).map fun chunks => chunk :: chunks := by
  have hne : chunk.bytes ++ more ≠ [] := List.append_ne_nil_of_left_ne_nil (bytes_ne_nil chunk) more
  rw [readChunks_of_ne_nil hne, h.deSerialize_append, hitems, List.append_nil, Option.bind_some,
    length_eq, List.drop_append, List.drop_eq_nil_of_le (Nat.le_add_right _ _), List.nil_append,
    Nat.add_sub_cancel_left]

lemma readItems_of_terminated (h : Terminated chunk) (more : Bytes) :
    readItems (List.replicate (getPadding chunk.dataLength) 0 ++ more) = [] := by
  obtain ⟨k, hk⟩ := Nat.exists_eq_succ_of_ne_zero (mt getPadding_eq_zero.mp h)
  rw [hk, List.replicate_succ, List.cons_append, readItems_zero]

/-- **Chunks that end with a zero byte** are read back. -/
lemma readChunks_payload (hvalid : ∀ chunk ∈ chunks, chunk.Valid)
    (hterminated : ∀ chunk ∈ chunks.dropLast, Terminated chunk) :
    readChunks (payload chunks) = some chunks := by
  induction chunks with
  | nil => exact readChunks_nil
  | cons chunk chunks ih =>
    obtain ⟨hchunk, hchunks⟩ := List.forall_mem_cons.mp hvalid
    rw [payload_cons]
    cases chunks with
    | nil =>
      have hitems : readItems (List.replicate (getPadding chunk.dataLength) 0 ++ payload []) = [] := by
        by_cases h : Terminated chunk
        · exact readItems_of_terminated h _
        · have hzero : getPadding chunk.dataLength = 0 := getPadding_eq_zero.mpr (not_not.mp h)
          rw [hzero]
          exact readItems_nil
      rw [readChunks_append hchunk hitems, payload, List.map_nil, List.flatten_nil, List.drop_nil,
        readChunks_nil]
      rfl
    | cons next chunks =>
      rw [List.dropLast_cons_cons] at hterminated
      obtain ⟨hfirst, hlater⟩ := List.forall_mem_cons.mp hterminated
      rw [readChunks_append hchunk (readItems_of_terminated hfirst _), if_pos hfirst, List.drop_zero,
        ih hchunks hlater]
      rfl

/-- **What is read of a chunk** that has been written, if it is read as a chunk without more items. -/
lemma readChunks_cons (h : chunk.Valid) {first : SourceDescriptionChunk}
    (hread : readChunks (chunk.bytes ++ more) = some (first :: chunks)) :
    first.source = chunk.source ∧
      first.items = chunk.items ++ readItems (List.replicate (getPadding chunk.dataLength) 0 ++ more) := by
  have hne : chunk.bytes ++ more ≠ [] := List.append_ne_nil_of_left_ne_nil (bytes_ne_nil chunk) more
  rw [readChunks_of_ne_nil hne, h.deSerialize_append, Option.bind_some] at hread
  obtain ⟨later, -, hcons⟩ := Option.map_eq_some_iff.mp hread
  obtain ⟨rfl, -⟩ := List.cons.inj hcons
  exact ⟨rfl, rfl⟩

/-- **Behind a chunk without a zero byte** four bytes are skipped, and the first of them is zero. -/
lemma readChunks_unterminated (h : chunk.Valid) (hunterminated : ¬Terminated chunk)
    (hread : readChunks (chunk.bytes ++ more) = some (chunk :: chunks)) :
    more.getD 0 0 = 0 ∧ readChunks (more.drop 4) = some chunks := by
  have hnone : readItems (List.replicate (getPadding chunk.dataLength) 0 ++ more) = [] :=
    List.self_eq_append_right.mp (readChunks_cons h hread).2
  rw [readChunks_append h hnone, if_neg hunterminated] at hread
  obtain ⟨later, hlater, hcons⟩ := Option.map_eq_some_iff.mp hread
  obtain ⟨-, rfl⟩ := List.cons.inj hcons
  refine ⟨?_, hlater⟩
  have hzero : getPadding chunk.dataLength = 0 := getPadding_eq_zero.mpr (not_not.mp hunterminated)
  rw [hzero, List.replicate_zero, List.nil_append] at hnone
  cases more with
  | nil => rfl
  | cons b more => exact not_not.mp fun hb => readItems_ne_nil hb more hnone

/-- A chunk that is read where the first byte is not zero has a large source. -/
lemma le_source_of_readChunks {b : UInt8} (hb : b ≠ 0) {first : SourceDescriptionChunk}
    (hread : readChunks (b :: more) = some (first :: chunks)) : 2 ^ 24 ≤ first.source := by
  rw [readChunks_of_ne_nil (List.cons_ne_nil _ _)] at hread
  obtain ⟨chunk, hchunk, hread⟩ := Option.bind_eq_some_iff.mp hread
  obtain ⟨later, -, hcons⟩ := Option.map_eq_some_iff.mp hread
  obtain ⟨rfl, -⟩ := List.cons.inj hcons
  obtain ⟨source, hsource, hfirst⟩ := Option.bind_eq_some_iff.mp hchunk
  obtain rfl := Option.some.inj hfirst
  rw [Js.readUInt32BE, Js.readUIntBE] at hsource
  split_ifs at hsource with hlength
  obtain rfl := Option.some.inj hsource
  have htake : (more.take 3).length = 3 := by
    rw [List.length_take]
    rw [List.length_cons] at hlength
    omega
  have hpos : 0 < b.toNat := Nat.pos_of_ne_zero fun hzero => hb (UInt8.toNat_inj.mp hzero)
  have hdecode := BigEndian.decode_cons b (more.take 3)
  rw [htake] at hdecode
  change 2 ^ 24 ≤ (BigEndian.decode (b :: more.take 3) : ℤ).toNat
  rw [Int.toNat_natCast, hdecode]
  omega

/-- A chunk whose first byte is zero has a small source. -/
lemma source_lt_of_bytes (h : chunk.Valid) (hzero : (chunk.bytes ++ more).getD 0 0 = 0) :
    chunk.source < 2 ^ 24 := by
  obtain ⟨b, bs, hbytes⟩ := List.exists_cons_of_ne_nil
    (List.ne_nil_of_length_pos (by rw [BigEndian.length_encode]; norm_num :
      0 < (BigEndian.encode 4 chunk.source).length))
  have hlength := congrArg List.length hbytes
  rw [BigEndian.length_encode, List.length_cons] at hlength
  have hfirst : (chunk.bytes ++ more).getD 0 0 = b := by
    rw [SourceDescriptionChunk.bytes, SourceDescriptionChunk.data, hbytes]
    rfl
  have hdecode := BigEndian.decode_encode (k := 4) (n := chunk.source) h.source
  have hlt := BigEndian.decode_lt bs
  rw [hbytes, BigEndian.decode_cons, ← hfirst, hzero] at hdecode
  rw [← hdecode, UInt8.toNat_zero, Nat.zero_mul, Nat.zero_add]
  rwa [show bs.length = 3 by omega] at hlt

/-- A chunk without items whose first byte is zero. -/
def Bare (chunk : SourceDescriptionChunk) : Prop := chunk.items = [] ∧ chunk.source < 2 ^ 24

variable {next : SourceDescriptionChunk} {rest before : List SourceDescriptionChunk}

lemma Bare.not_terminated (h : Bare chunk) : ¬Terminated chunk := by
  rw [Terminated, SourceDescriptionChunk.dataLength, h.1]
  decide

/-- If four bytes are skipped and the chunks are read nevertheless, the next one is without items. -/
lemma bare_of_skipped (hnext : next.Valid) (hbefore : ∀ chunk ∈ before, Bare chunk)
    (hzero : (payload (next :: rest)).getD 0 0 = 0)
    (hread : readChunks ((payload (next :: rest)).drop 4) = some (before ++ next :: rest)) :
    Bare next ∧ readChunks (payload rest) = some (before ++ next :: rest) := by
  rw [payload_cons] at hzero hread
  have hsmall := source_lt_of_bytes hnext hzero
  have hfour := BigEndian.length_encode 4 next.source
  rw [SourceDescriptionChunk.bytes, SourceDescriptionChunk.data, List.append_assoc, List.append_assoc,
    List.drop_left' hfour] at hread
  cases hitems : next.items with
  | nil =>
    have hpadding : getPadding next.dataLength = 0 := by
      rw [SourceDescriptionChunk.dataLength, hitems]
      rfl
    rw [hitems, hpadding] at hread
    exact ⟨⟨hitems, hsmall⟩, hread⟩
  | cons item items =>
    have hitem := hnext.items item (by rw [hitems]; exact List.mem_cons_self)
    rw [hitems, List.map_cons, List.flatten_cons, item.bytes_eq_cons] at hread
    cases before with
    | nil => exact absurd (le_source_of_readChunks hitem.type_ne_zero hread) (Nat.not_le.mpr hsmall)
    | cons first before =>
      have hfirst := (hbefore first List.mem_cons_self).2
      exact absurd (le_source_of_readChunks hitem.type_ne_zero hread) (Nat.not_le.mpr hfirst)

/-- **Once four bytes are skipped** the chunks that follow are never read as they were written: the next one
has to be without items, so that the one behind it is read in its place. -/
lemma readChunks_skipped (hvalid : ∀ chunk ∈ next :: rest, chunk.Valid)
    (hbefore : ∀ chunk ∈ before, Bare chunk) (hzero : (payload (next :: rest)).getD 0 0 = 0) :
    readChunks ((payload (next :: rest)).drop 4) ≠ some (before ++ next :: rest) := by
  induction hlength : rest.length using Nat.strong_induction_on generalizing next rest before with
  | _ k ih =>
    intro hread
    obtain ⟨hnext, hrest⟩ := List.forall_mem_cons.mp hvalid
    obtain ⟨hbare, hread⟩ := bare_of_skipped hnext hbefore hzero hread
    obtain ⟨first, later, hsplit⟩ := List.exists_cons_of_ne_nil
      (List.append_ne_nil_of_right_ne_nil before (List.cons_ne_nil next []))
    have hall : ∀ chunk ∈ first :: later, Bare chunk := by
      rw [← hsplit]
      exact List.forall_mem_append.mpr ⟨hbefore, List.forall_mem_singleton.mpr hbare⟩
    obtain ⟨hfirst, hlater⟩ := List.forall_mem_cons.mp hall
    have hmove : before ++ next :: rest = first :: (later ++ rest) := by
      rw [← List.cons_append, ← hsplit, List.append_assoc, List.singleton_append]
    rw [hmove] at hread
    -- the chunk behind `next` is the first one that is read
    cases rest with
    | nil =>
      rw [payload, List.map_nil, List.flatten_nil, readChunks_nil] at hread
      exact absurd (Option.some.inj hread) (List.cons_ne_nil _ _).symm
    | cons second rest =>
      obtain ⟨hsecond, hbehindValid⟩ := List.forall_mem_cons.mp hrest
      rw [payload_cons] at hread
      obtain ⟨hsource, hitems⟩ := readChunks_cons hsecond hread
      rw [hfirst.1] at hitems
      obtain ⟨hnone, -⟩ := List.append_eq_nil_iff.mp hitems.symm
      obtain rfl : first = second :=
        (SourceDescriptionChunk.mk.injEq ..).mpr ⟨hsource, hfirst.1.trans hnone.symm⟩
      obtain ⟨hbehind, hread⟩ := readChunks_unterminated hsecond hfirst.not_terminated hread
      cases rest with
      | nil =>
        rw [payload, List.map_nil, List.flatten_nil, List.drop_nil, readChunks_nil] at hread
        exact absurd (Option.some.inj hread).symm 
          (List.append_ne_nil_of_right_ne_nil _ (List.cons_ne_nil _ _))
      | cons next' rest =>
        have hbefore' : ∀ chunk ∈ later ++ [first], Bare chunk :=
          List.forall_mem_append.mpr ⟨hlater, List.forall_mem_singleton.mpr hfirst⟩
        have hassoc : later ++ first :: next' :: rest = (later ++ [first]) ++ next' :: rest := by
          rw [List.append_assoc, List.singleton_append]
        rw [hassoc] at hread
        refine ih rest.length ?_ hbehindValid hbefore' hbehind rfl hread
        rw [← hlength, List.length_cons, List.length_cons]
        omega

/-- **Chunks that are read back** all end with a zero byte but the last. -/
lemma terminated_of_readChunks (hvalid : ∀ chunk ∈ chunks, chunk.Valid)
    (hread : readChunks (payload chunks) = some chunks) : ∀ chunk ∈ chunks.dropLast, Terminated chunk := by
  induction chunks with
  | nil => exact fun chunk hmem => absurd hmem List.not_mem_nil
  | cons chunk chunks ih =>
    obtain ⟨hchunk, hchunks⟩ := List.forall_mem_cons.mp hvalid
    rw [payload_cons] at hread
    cases chunks with
    | nil => exact fun chunk hmem => absurd hmem List.not_mem_nil
    | cons next rest =>
      have hterminated : Terminated chunk := by
        by_contra h
        obtain ⟨hzero, hskipped⟩ := readChunks_unterminated hchunk h hread
        refine readChunks_skipped hchunks (?_ : ∀ c ∈ [], Bare c) hzero hskipped
        exact fun c hmem => absurd hmem List.not_mem_nil
      rw [readChunks_append hchunk (readItems_of_terminated hterminated _), if_pos hterminated,
        List.drop_zero] at hread
      obtain ⟨later, hlater, hcons⟩ := Option.map_eq_some_iff.mp hread
      obtain ⟨-, rfl⟩ := List.cons.inj hcons
      rw [List.dropLast_cons_cons]
      exact List.forall_mem_cons.mpr ⟨hterminated, ih hchunks hlater⟩

lemma readChunks_payload_iff (hvalid : ∀ chunk ∈ chunks, chunk.Valid) :
    readChunks (payload chunks) = some chunks ↔ ∀ chunk ∈ chunks.dropLast, Terminated chunk :=
  ⟨terminated_of_readChunks hvalid, readChunks_payload hvalid⟩

lemma serialize_eq {packet : RtcpSourceDescriptionPacket} (hvalid : ∀ chunk ∈ packet.chunks, chunk.Valid) :
    packet.serialize = RtcpHeader.serialize type packet.chunks.length (payload packet.chunks)
      ((payload packet.chunks).length / 4) := by
  have hchunks : packet.chunks.mapM SourceDescriptionChunk.serialize =
      some (packet.chunks.map SourceDescriptionChunk.bytes) := by
    rw [OptionList.mapM_eq_some, List.forall₂_map_right_iff]
    exact List.forall₂_same.mpr fun chunk hmem => (hvalid chunk hmem).serialize
  have hpadding := getPadding_eq_zero.mpr (length_payload_mod packet.chunks)
  simp only [serialize, hchunks, Option.bind_eq_bind, Option.bind_some]
  rw [← payload, hpadding, List.replicate_zero, List.append_nil]

variable {packet : RtcpSourceDescriptionPacket} {bytes : Bytes}

lemma type_lt : type < 256 := by decide

/-- **What has been written** is read back iff every chunk but the last ends with a zero byte. -/
lemma deSerialize_serialize_iff (hvalid : ∀ chunk ∈ packet.chunks, chunk.Valid)
    (hbytes : packet.serialize = some bytes) :
    deSerialize (bytes.drop RTCP_HEADER_SIZE) = some packet ↔
      ∀ chunk ∈ packet.chunks.dropLast, Terminated chunk := by
  rw [serialize_eq hvalid] at hbytes
  rw [RtcpHeader.drop_of_serialize type_lt hbytes, deSerialize, ← readChunks_payload_iff hvalid,
    Option.map_eq_some_iff]
  constructor
  · rintro ⟨chunks, hchunks, rfl⟩
    exact hchunks
  · exact fun h => ⟨_, h, rfl⟩

lemma length_payload (chunks : List SourceDescriptionChunk) : (payload chunks).length =
    (chunks.map fun chunk => chunk.dataLength + getPadding chunk.dataLength).sum := by
  rw [payload, List.length_flatten, List.map_map]
  congr 1
  exact List.map_congr_left fun chunk _ => chunk.length_bytes

/-- A packet is written if its length fits the field. -/
lemma isSome_serialize_iff (hvalid : ∀ chunk ∈ packet.chunks, chunk.Valid) : packet.serialize.isSome ↔
    (packet.chunks.map fun chunk => chunk.dataLength + getPadding chunk.dataLength).sum ≤ 4 * 65535 := by
  have hmod := length_payload_mod packet.chunks
  rw [serialize_eq hvalid, RtcpHeader.serialize_isSome_iff type_lt, ← length_payload]
  omega

/-- **Source descriptions** come back iff the length fits its field and every chunk but the last has a length
that is no multiple of four before its zero byte. -/
theorem sdes_iff (packet : RtcpSourceDescriptionPacket) (hvalid : ∀ chunk ∈ packet.chunks, chunk.Valid) :
    packet.RoundTrips ↔
      (packet.chunks.map fun chunk => chunk.dataLength + getPadding chunk.dataLength).sum ≤ 4 * 65535 ∧
        ∀ chunk ∈ packet.chunks.dropLast, chunk.dataLength % 4 ≠ 0 := by
  rw [← isSome_serialize_iff hvalid, Option.isSome_iff_exists]
  constructor
  · rintro ⟨bytes, hbytes, hpacket⟩
    exact ⟨⟨bytes, hbytes⟩, (deSerialize_serialize_iff hvalid hbytes).mp hpacket⟩
  · rintro ⟨⟨bytes, hbytes⟩, hterminated⟩
    exact ⟨bytes, hbytes, (deSerialize_serialize_iff hvalid hbytes).mpr hterminated⟩

/-- Two chunks of which the first ends with a zero byte. -/
theorem sdes_twoChunks : RoundTrips { chunks :=
    [{ source := 0x01020304, items := [⟨1, "A"⟩] }, { source := 0x05060708, items := [⟨1, "BC"⟩] }] } := by
  refine (sdes_iff _ ?_).mpr ⟨by decide, by decide⟩
  intro chunk hchunk
  fin_cases hchunk
  · exact ⟨by norm_num, List.forall_mem_singleton.mpr ⟨by norm_num, by norm_num, by decide⟩⟩
  · exact ⟨by norm_num, List.forall_mem_singleton.mpr ⟨by norm_num, by norm_num, by decide⟩⟩

/-- The first chunk has eight bytes and no zero byte; so the source of the second is read as an item. -/
theorem not_sdes_twoChunks : ¬RoundTrips { chunks :=
    [{ source := 0x01020304, items := [⟨1, "AB"⟩] }, { source := 0x05060708 }] } := by
  rintro ⟨bytes, hbytes, hread⟩
  refine (deSerialize_serialize_iff ?_ hbytes).mp hread _ List.mem_cons_self (by decide)
  intro chunk hchunk
  fin_cases hchunk
  · exact ⟨by norm_num, List.forall_mem_singleton.mpr ⟨by norm_num, by norm_num, by decide⟩⟩
  · exact ⟨by norm_num, fun item hmem => absurd hmem List.not_mem_nil⟩

end RtcpSourceDescriptionPacket

end Werift.Rtcp
