import Werift.Sctp.Wire

/-!
# When parsing ends

`decodeParams` moves on by the length of a parameter and `parsePacket` by the length of a chunk.  A length
from 1 to 3 is rounded up to 4, but a length of 0 leaves the position where it is.  So `decodeParams` ends
unless it comes to a parameter with the length 0, and `parsePacket` ends unless it comes to a chunk of the
length 0 of a class that accepts an empty body, or to a chunk with such a parameter
(`parsePacket_ends_iff`).
-/

namespace Werift.Sctp

open Js Walk

variable {data body : Bytes} {pos : ℕ}

/-- `decodeParams` comes from the position to a parameter with the length 0. -/
inductive ZeroParam (body : Bytes) : ℕ → Prop
  | here {pos : ℕ} (zero : readUInt16BE body (pos + 2) = some 0) : ZeroParam body pos
  | later {pos : ℕ} {length : ℤ} (read : readUInt16BE body (pos + 2) = some length)
      (zero : ZeroParam body (pos + length.toNat + padL length.toNat)) : ZeroParam body pos

/-- The parameters of a chunk of the class `chunkType`, where it has some. -/
def paramArea (chunkType : ℤ) (body : Bytes) : Option Bytes :=
  if chunkType ∈ [1, 2] then if 16 ≤ body.length then some (body.drop 16) else none
  else if chunkType ∈ [4, 5, 6, 9, 130] then some body
  else none

/-- A class that makes a chunk of an empty body. -/
def AcceptsEmpty (chunkType : ℤ) : Prop := chunkType ∈ [4, 5, 6, 8, 9, 10, 11, 14, 130]

instance (chunkType : ℤ) : Decidable (AcceptsEmpty chunkType) := inferInstanceAs (Decidable (_ ∈ _))

/-- `parsePacket` comes from the position to a chunk without a length, of a class that accepts that, or to
a chunk with a parameter without a length. -/
inductive ZeroLength (data : Bytes) : ℕ → Prop
  | chunk {pos : ℕ} {chunkType flags : ℤ} (header : readChunkHeader data pos = some (chunkType, flags, 0))
      (accepts : AcceptsEmpty chunkType) : ZeroLength data pos
  | param {pos length : ℕ} {chunkType flags : ℤ} {area : Bytes}
      (header : readChunkHeader data pos = some (chunkType, flags, length))
      (params : paramArea chunkType (slice data (pos + 4) (pos + length)) = some area)
      (zero : ZeroParam area 0) : ZeroLength data pos
  | later {pos length fuel : ℕ} {chunkType flags : ℤ} {chunk : Chunk}
      (header : readChunkHeader data pos = some (chunkType, flags, length))
      (made : Chunk.ofBody fuel chunkType flags (slice data (pos + 4) (pos + length)) = some (.ok chunk))
      (zero : ZeroLength data (pos + length + padL length)) : ZeroLength data pos

/-! ## Parameters -/

lemma readUIntBE_isSome_iff {k : ℕ} : (readUIntBE k body pos).isSome ↔ pos + k ≤ body.length := by
  rw [readUIntBE]
  split_ifs with h <;> simp [h]

lemma readUIntBE_eq_none_iff {k : ℕ} : readUIntBE k body pos = none ↔ body.length < pos + k := by
  rw [← Option.not_isSome_iff_eq_none, readUIntBE_isSome_iff, not_le]

/-- A number that has been read is not negative. -/
lemma readUIntBE_nonneg {k : ℕ} {v : ℤ} (h : readUIntBE k body pos = some v) : 0 ≤ v := by
  rw [readUIntBE] at h
  split_ifs at h
  obtain rfl := Option.some.inj h
  exact Int.natCast_nonneg _

/-- A parameter is read if its header is there. -/
lemma visitParam_of_some {length : ℤ} (h : readUInt16BE body (pos + 2) = some length) :
    ∃ type, visitParam body pos = .item (type, slice body (pos + 4) (pos + length.toNat))
      (pos + length.toNat + padL length.toNat) := by
  have hin : pos + 2 + 2 ≤ body.length := readUIntBE_isSome_iff.mp (Option.isSome_of_eq_some h)
  have htype : (readUInt16BE body pos).isSome := readUIntBE_isSome_iff.mpr (by omega)
  obtain ⟨type, htype⟩ := Option.isSome_iff_exists.mp htype
  exact ⟨type, by rw [visitParam, htype, h]⟩

lemma visitParam_of_none (h : readUInt16BE body (pos + 2) = none) : visitParam body pos = .stop := by
  rw [visitParam, h]
  cases readUInt16BE body pos <;> rfl

lemma padL_zero_iff {l : ℕ} : l + padL l = 0 ↔ l = 0 := by
  rw [padL, SCTP_PADDING_MULTIPLE]
  split_ifs with h <;> omega

lemma monotone_visitParam (body : Bytes) : Monotone fun _ pos => some (visitParam body pos) := by
  intro fuel fuel' pos v _ h
  exact h

/-- `decodeParams` gets stuck exactly at a parameter with the length 0. -/
lemma stuck_visitParam_iff :
    Stuck (fun _ pos => some (visitParam body pos)) pos ↔ ZeroParam body pos := by
  constructor
  · intro h
    induction h with
    | hang h => exact absurd (h 0) (by simp)
    | @still pos _ a h =>
      cases hlen : readUInt16BE body (pos + 2) with
      | none =>
        rw [visitParam_of_none hlen] at h
        cases h
      | some length =>
        obtain ⟨type, hvisit⟩ := visitParam_of_some hlen
        rw [hvisit] at h
        have hnext : pos + length.toNat + padL length.toNat = pos := by
          simpa using (Visit.item.inj (Option.some.inj h)).2
        have hzero : length.toNat = 0 := padL_zero_iff.mp (by omega)
        have hnonneg := readUIntBE_nonneg hlen
        exact .here (hlen.trans (congrArg some (by omega)))
    | @later pos next _ a h _ ih =>
      cases hlen : readUInt16BE body (pos + 2) with
      | none =>
        rw [visitParam_of_none hlen] at h
        cases h
      | some length =>
        obtain ⟨type, hvisit⟩ := visitParam_of_some hlen
        rw [hvisit] at h
        obtain ⟨-, rfl⟩ := Visit.item.inj (Option.some.inj h)
        exact .later hlen ih
  · intro h
    induction h with
    | here h =>
      obtain ⟨type, hvisit⟩ := visitParam_of_some h
      exact .still 0 (congrArg some hvisit)
    | later h _ ih =>
      obtain ⟨type, hvisit⟩ := visitParam_of_some h
      exact .later 0 (congrArg some hvisit) ih

/-- **When `decodeParams` ends.** -/
theorem decodeParams_ends_iff (body : Bytes) :
    (∃ fuel, (decodeParams fuel body).isSome) ↔ ¬ ZeroParam body 0 := by
  rw [← stuck_visitParam_iff]
  apply halts_iff (monotone_visitParam body) body.length
  · intro pos hpos
    refine ⟨0, congrArg some (visitParam_of_none ?_)⟩
    exact readUIntBE_eq_none_iff.mpr (by omega)
  · intro fuel pos next a h
    cases hlen : readUInt16BE body (pos + 2) with
    | none =>
      rw [visitParam_of_none hlen] at h
      cases h
    | some length =>
      obtain ⟨type, hvisit⟩ := visitParam_of_some hlen
      rw [hvisit] at h
      obtain ⟨-, rfl⟩ := Visit.item.inj (Option.some.inj h)
      omega

/-! ## Chunks -/

lemma baseInit_isSome_iff {flags : ℤ} :
    (BaseInitChunk.ofFields flags body).isSome ↔ 16 ≤ body.length := by
  constructor
  · intro h
    obtain ⟨c, hc⟩ := Option.isSome_iff_exists.mp h
    simp only [BaseInitChunk.ofFields, Option.bind_eq_bind, Option.bind_eq_some_iff] at hc
    obtain ⟨_, _, _, _, _, _, _, _, initialTsn, hlast, _⟩ := hc
    exact readUIntBE_isSome_iff.mp (Option.isSome_of_eq_some hlast)
  · intro h
    have hread (k pos : ℕ) (hin : pos + k ≤ 16) : ∃ v, readUIntBE k body pos = some v :=
      Option.isSome_iff_exists.mp (readUIntBE_isSome_iff.mpr (by omega))
    obtain ⟨_, h0⟩ := hread 4 0 (by omega)
    obtain ⟨_, h4⟩ := hread 4 4 (by omega)
    obtain ⟨_, h8⟩ := hread 2 8 (by omega)
    obtain ⟨_, h10⟩ := hread 2 10 (by omega)
    obtain ⟨_, h12⟩ := hread 4 12 (by omega)
    simp [BaseInitChunk.ofFields, readUInt32BE, readUInt16BE, h0, h4, h8, h10, h12]

/-- A constructor either ends whatever the fuel is, or it goes through an area of parameters. -/
def Constructs (area : Option Bytes) (construct : ℕ → Option (Except WireError Chunk)) : Prop :=
  match area with
  | none => ∃ r, ∀ fuel, construct fuel = some r
  | some area => ∃ make : List Param → Chunk, ∀ fuel,
      construct fuel = (decodeParams fuel area).map fun r => r.map make

lemma constructs_baseParams (flags : ℤ) (body : Bytes) (make : BaseParamsChunk → Chunk) :
    Constructs (some body) fun fuel =>
      (BaseParamsChunk.ofBody fuel flags body).map fun r => r.map make := by
  refine ⟨fun params => make ⟨flags, params⟩, fun fuel => ?_⟩
  dsimp only
  rw [BaseParamsChunk.ofBody, Option.map_map]
  congr 1
  funext r
  cases r <;> rfl

lemma constructs_baseInit (flags : ℤ) (body : Bytes) (make : BaseInitChunk → Chunk) :
    Constructs (if 16 ≤ body.length then some (body.drop 16) else none) fun fuel =>
      (BaseInitChunk.ofBody fuel flags body).map fun r => r.map make := by
  cases hfields : BaseInitChunk.ofFields flags body with
  | none =>
    have hshort : ¬ 16 ≤ body.length := fun h => by
      have hsome : (BaseInitChunk.ofFields flags body).isSome := baseInit_isSome_iff.mpr h
      rw [hfields] at hsome
      cases hsome
    rw [if_neg hshort]
    exact ⟨.error .rangeError, fun fuel => by simp [BaseInitChunk.ofBody, hfields, Except.map]⟩
  | some c =>
    rw [if_pos (baseInit_isSome_iff.mp (Option.isSome_of_eq_some hfields))]
    refine ⟨fun params => make { c with params }, fun fuel => ?_⟩
    dsimp only
    rw [BaseInitChunk.ofBody, hfields]
    dsimp only
    rw [Option.map_map]
    congr 1
    funext r
    cases r <;> rfl

/-- **What a constructor does**, by its class. -/
lemma constructs_ofBody (chunkType flags : ℤ) (body : Bytes) :
    Constructs (paramArea chunkType body) fun fuel => Chunk.ofBody fuel chunkType flags body := by
  unfold Chunk.ofBody
  split
  case h_1 | h_4 | h_8 | h_9 | h_11 | h_12 | h_13 | h_15 => exact ⟨_, fun _ => rfl⟩
  case h_2 | h_3 => exact constructs_baseInit flags body _
  case h_5 | h_6 | h_7 | h_10 | h_14 => exact constructs_baseParams flags body _
  case h_16 =>
    have hnone : paramArea chunkType body = none := by simp_all [paramArea]
    rw [hnone]
    exact ⟨_, fun _ => rfl⟩

lemma monotone_ofBody {fuel fuel' : ℕ} {chunkType flags : ℤ} {r : Except WireError Chunk}
    (hle : fuel ≤ fuel') (h : Chunk.ofBody fuel chunkType flags body = some r) :
    Chunk.ofBody fuel' chunkType flags body = some r := by
  have hcases := constructs_ofBody chunkType flags body
  cases harea : paramArea chunkType body with
  | none =>
    rw [harea] at hcases
    obtain ⟨r', hr'⟩ := hcases
    exact (hr' fuel').trans ((hr' fuel).symm.trans h)
  | some area =>
    rw [harea] at hcases
    obtain ⟨make, hmake⟩ := hcases
    obtain ⟨params, hparams, rfl⟩ := Option.map_eq_some_iff.mp ((hmake fuel).symm.trans h)
    exact (hmake fuel').trans (Option.map_eq_some_iff.mpr
      ⟨params, walk_mono (monotone_visitParam area) hle hparams, rfl⟩)

/-- **When a constructor does not end**: it goes through parameters one of which has the length 0. -/
lemma ofBody_hangs_iff {chunkType flags : ℤ} : (∀ fuel, Chunk.ofBody fuel chunkType flags body = none) ↔
    ∃ area, paramArea chunkType body = some area ∧ ZeroParam area 0 := by
  have hcases := constructs_ofBody chunkType flags body
  cases harea : paramArea chunkType body with
  | none =>
    rw [harea] at hcases
    obtain ⟨r, hr⟩ := hcases
    constructor
    · intro h
      exact absurd ((hr 0).symm.trans (h 0)) (by simp)
    · rintro ⟨area, h, -⟩
      cases h
  | some area =>
    rw [harea] at hcases
    obtain ⟨make, hmake⟩ := hcases
    have hends := decodeParams_ends_iff area
    constructor
    · intro h
      refine ⟨area, rfl, not_not.mp fun hzero => ?_⟩
      obtain ⟨fuel, hfuel⟩ := hends.mpr hzero
      have hnone := Option.map_eq_none_iff.mp ((hmake fuel).symm.trans (h fuel))
      rw [hnone] at hfuel
      cases hfuel
    · rintro ⟨_, h, hzero⟩ fuel
      obtain rfl := Option.some.inj h
      refine (hmake fuel).trans (Option.map_eq_none_iff.mpr ?_)
      exact Option.not_isSome_iff_eq_none.mp fun hsome => hends.mp ⟨fuel, hsome⟩ hzero

/-- The classes that make a chunk of an empty body. -/
lemma ofBody_nil_iff {chunkType flags : ℤ} :
    (∃ fuel chunk, Chunk.ofBody fuel chunkType flags [] = some (.ok chunk)) ↔ AcceptsEmpty chunkType := by
  constructor
  · rintro ⟨fuel, chunk, h⟩
    unfold Chunk.ofBody at h
    split at h
    case h_1 | h_4 | h_8 | h_15 => cases h
    case h_2 | h_3 => cases h
    case h_16 => cases h
    all_goals simp [AcceptsEmpty]
  · intro h
    simp only [AcceptsEmpty, List.mem_cons, List.not_mem_nil, or_false] at h
    rcases h with rfl | rfl | rfl | rfl | rfl | rfl | rfl | rfl | rfl <;> exact ⟨1, _, rfl⟩

/-! ## Packets -/

lemma readChunkHeader_eq_none_iff : readChunkHeader data pos = none ↔ data.length < pos + 4 := by
  constructor
  · intro h
    by_contra hin
    have hread (k pos' : ℕ) (hin : pos' + k ≤ data.length) : ∃ v, readUIntBE k data pos' = some v :=
      Option.isSome_iff_exists.mp (readUIntBE_isSome_iff.mpr hin)
    obtain ⟨_, h0⟩ := hread 1 pos (by omega)
    obtain ⟨_, h1⟩ := hread 1 (pos + 1) (by omega)
    obtain ⟨_, h2⟩ := hread 2 (pos + 2) (by omega)
    simp [readChunkHeader, readUInt8, readUInt16BE, h0, h1, h2] at h
  · intro h
    have hlength : readUInt16BE data (pos + 2) = none := readUIntBE_eq_none_iff.mpr (by omega)
    rw [readChunkHeader, hlength]
    cases readUInt8 data pos <;> cases readUInt8 data (pos + 1) <;> rfl

lemma visitChunk_of_none (h : readChunkHeader data pos = none) (fuel : ℕ) :
    visitChunk data fuel pos = some .stop := by
  rw [visitChunk, h]

/-- A chunk that has been visited, with its header. -/
lemma visitChunk_item {fuel next : ℕ} {chunk : Chunk}
    (h : visitChunk data fuel pos = some (.item chunk next)) :
    ∃ chunkType flags length, readChunkHeader data pos = some (chunkType, flags, length) ∧
      Chunk.ofBody fuel chunkType flags (slice data (pos + 4) (pos + length)) = some (.ok chunk) ∧
      next = pos + length + padL length := by
  rw [visitChunk] at h
  split at h
  · cases h
  · rename_i chunkType flags length hheader
    obtain ⟨r, hr, hvisit⟩ := Option.map_eq_some_iff.mp h
    cases r with
    | error e => cases hvisit
    | ok c =>
      obtain ⟨rfl, rfl⟩ := Visit.item.inj hvisit
      exact ⟨chunkType, flags, length, hheader, hr, rfl⟩

lemma visitChunk_of_ofBody {fuel length : ℕ} {chunkType flags : ℤ} {chunk : Chunk}
    (hheader : readChunkHeader data pos = some (chunkType, flags, length))
    (h : Chunk.ofBody fuel chunkType flags (slice data (pos + 4) (pos + length)) = some (.ok chunk)) :
    visitChunk data fuel pos = some (.item chunk (pos + length + padL length)) := by
  rw [visitChunk, hheader]
  dsimp only
  rw [h]
  rfl

lemma monotone_visitChunk (data : Bytes) : Monotone (visitChunk data) := by
  intro fuel fuel' pos v hle h
  rw [visitChunk] at h ⊢
  split at h
  · exact h
  · obtain ⟨r, hr, rfl⟩ := Option.map_eq_some_iff.mp h
    exact Option.map_eq_some_iff.mpr ⟨r, monotone_ofBody hle hr, rfl⟩

/-- A chunk without a length has an empty body. -/
lemma slice_zero (data : Bytes) (pos : ℕ) : slice data (pos + 4) (pos + 0) = [] := by
  rw [slice, Nat.sub_eq_zero_of_le (by omega), List.take_zero]

/-- `parsePacket` gets stuck exactly where a length is 0. -/
lemma stuck_visitChunk_iff : Stuck (visitChunk data) pos ↔ ZeroLength data pos := by
  constructor
  · intro h
    induction h with
    | @hang pos h =>
      cases hheader : readChunkHeader data pos with
      | none => exact absurd ((visitChunk_of_none hheader 0).symm.trans (h 0)) (by simp)
      | some header =>
        obtain ⟨chunkType, flags, length⟩ := header
        have hhangs (fuel : ℕ) : Chunk.ofBody fuel chunkType flags
            (slice data (pos + 4) (pos + length)) = none := by
          have hnone := h fuel
          rw [visitChunk, hheader] at hnone
          exact Option.map_eq_none_iff.mp hnone
        obtain ⟨area, harea, hzero⟩ := ofBody_hangs_iff.mp hhangs
        exact .param hheader harea hzero
    | @still pos fuel chunk h =>
      obtain ⟨chunkType, flags, length, hheader, hmade, hnext⟩ := visitChunk_item h
      obtain rfl : length = 0 := padL_zero_iff.mp (by omega)
      rw [slice_zero] at hmade
      exact .chunk hheader (ofBody_nil_iff.mp ⟨fuel, chunk, hmade⟩)
    | @later pos next fuel chunk h _ ih =>
      obtain ⟨chunkType, flags, length, hheader, hmade, rfl⟩ := visitChunk_item h
      exact .later hheader hmade ih
  · intro h
    induction h with
    | @chunk pos chunkType flags hheader haccepts =>
      obtain ⟨fuel, chunk, hmade⟩ := (@ofBody_nil_iff chunkType flags).mpr haccepts
      rw [← slice_zero data pos] at hmade
      exact .still fuel (visitChunk_of_ofBody hheader hmade)
    | param hheader harea hzero =>
      refine .hang fun fuel => ?_
      rw [visitChunk, hheader]
      exact Option.map_eq_none_iff.mpr (ofBody_hangs_iff.mpr ⟨_, harea, hzero⟩ fuel)
    | @later pos length fuel chunkType flags chunk hheader hmade _ ih =>
      exact .later fuel (visitChunk_of_ofBody hheader hmade) ih

/-- **When the loop of `parsePacket` ends.** -/
theorem walk_visitChunk_ends_iff (data : Bytes) (pos : ℕ) :
    (∃ fuel, (walk (visitChunk data) fuel pos).isSome) ↔ ¬ ZeroLength data pos := by
  rw [← stuck_visitChunk_iff]
  apply halts_iff (monotone_visitChunk data) data.length
  · intro pos hpos
    exact ⟨0, visitChunk_of_none (readChunkHeader_eq_none_iff.mpr (by omega)) 0⟩
  · intro fuel pos next chunk h
    obtain ⟨_, _, length, -, -, rfl⟩ := visitChunk_item h
    omega

/-- The chunk has been made of bytes of the packet behind the common header. -/
def ReadInside (data : Bytes) (chunk : Chunk) : Prop :=
  ∃ fuel chunkType flags start length, SCTP_COMMON_HEADER_SIZE ≤ start ∧ start + length ≤ data.length ∧
    Chunk.ofBody fuel chunkType flags ((data.drop start).take length) = some (.ok chunk)

lemma readInside_of_items {l : List Chunk} (h : Items (visitChunk data) pos l)
    (hpos : SCTP_COMMON_HEADER_SIZE ≤ pos) {chunk : Chunk} (hchunk : chunk ∈ l) :
    ReadInside data chunk := by
  induction h with
  | nil => cases hchunk
  | @cons pos next fuel first l h _ ih =>
    obtain ⟨chunkType, flags, length, hheader, hmade, rfl⟩ := visitChunk_item h
    have hin : pos + 4 ≤ data.length := by
      by_contra hout
      rw [readChunkHeader_eq_none_iff.mpr (by omega)] at hheader
      cases hheader
    rcases List.mem_cons.mp hchunk with rfl | hchunk
    · refine ⟨fuel, chunkType, flags, pos + 4, min (length - 4) (data.length - (pos + 4)), by omega,
        by omega, ?_⟩
      have hslice : slice data (pos + 4) (pos + length) =
          (data.drop (pos + 4)).take (min (length - 4) (data.length - (pos + 4))) := by
        rw [slice, Nat.add_sub_add_left, ← List.length_drop, List.take_eq_take_iff]
        omega
      rwa [hslice] at hmade
    · exact ih (by omega) hchunk

/-- A packet with its checksum has a common header. -/
lemma length_of_hasChecksum (h : hasChecksum data = true) : SCTP_COMMON_HEADER_SIZE ≤ data.length := by
  rw [hasChecksum, beq_iff_eq, readUInt32LE] at h
  split_ifs at h with hlen
  exact hlen

lemma parsePacket_eq (h : hasChecksum data = true) : ∃ sourcePort destinationPort verificationTag,
    ∀ fuel, parsePacket fuel data = (walk (visitChunk data) fuel SCTP_COMMON_HEADER_SIZE).map fun r =>
      r.map fun chunks => (sourcePort, destinationPort, verificationTag, chunks) := by
  have hlen := length_of_hasChecksum h
  have hread (k pos : ℕ) (hin : pos + k ≤ 12) : ∃ v, readUIntBE k data pos = some v :=
    Option.isSome_iff_exists.mp (readUIntBE_isSome_iff.mpr (hin.trans hlen))
  obtain ⟨sourcePort, h0⟩ := hread 2 0 (by omega)
  obtain ⟨destinationPort, h2⟩ := hread 2 2 (by omega)
  obtain ⟨verificationTag, h4⟩ := hread 4 4 (by omega)
  refine ⟨sourcePort, destinationPort, verificationTag, fun fuel => ?_⟩
  rw [parsePacket, if_neg (not_lt.mpr hlen), readUInt16BE, readUInt16BE, readUInt32BE, h0, h2, h4]
  dsimp only
  rw [if_pos h]

/-- **When parsing ends.**  For a packet with its checksum, `parsePacket` ends and makes each chunk of
bytes inside the packet if and only if it comes to no length that is 0; `decodeParams` of any bytes ends if
and only if it comes to no parameter with the length 0. -/
theorem parsePacket_ends_iff {data : Bytes} (h : hasChecksum data = true) :
    (((∃ fuel, (parsePacket fuel data).isSome) ∧ ∀ fuel sourcePort destinationPort tag chunks,
      parsePacket fuel data = some (.ok (sourcePort, destinationPort, tag, chunks)) →
        ∀ chunk ∈ chunks, ReadInside data chunk) ↔ ¬ ZeroLength data SCTP_COMMON_HEADER_SIZE) ∧
    ∀ body, (∃ fuel, (decodeParams fuel body).isSome) ↔ ¬ ZeroParam body 0 := by
  refine ⟨?_, decodeParams_ends_iff⟩
  obtain ⟨sourcePort, destinationPort, tag, heq⟩ := parsePacket_eq h
  have hends : (∃ fuel, (parsePacket fuel data).isSome) ↔ ¬ ZeroLength data SCTP_COMMON_HEADER_SIZE := by
    rw [← walk_visitChunk_ends_iff]
    simp only [heq, Option.isSome_map]
  constructor
  · rintro ⟨hhalts, -⟩
    exact hends.mp hhalts
  · intro hfree
    refine ⟨hends.mpr hfree, fun fuel s d t chunks hparse chunk hchunk => ?_⟩
    rw [heq] at hparse
    obtain ⟨r, hwalk, hr⟩ := Option.map_eq_some_iff.mp hparse
    cases r with
    | error e => cases hr
    | ok l =>
      have hchunks : l = chunks := (Prod.mk.inj (Prod.mk.inj (Prod.mk.inj (Except.ok.inj hr)).2).2).2
      subst hchunks
      exact readInside_of_items (items_of_walk hwalk) le_rfl hchunk

/-- A packet of one COOKIE ACK. -/
def cookieAckPacket : Bytes := [19, 136, 19, 136, 0, 0, 0, 1, 200, 249, 200, 205, 11, 0, 0, 4]

theorem parsePacket_ends_cookieAck : ∃ fuel, (parsePacket fuel cookieAckPacket).isSome := by
  have hsum : hasChecksum cookieAckPacket = true := by decide +kernel
  have hfree : ¬ ZeroLength cookieAckPacket SCTP_COMMON_HEADER_SIZE :=
    (walk_visitChunk_ends_iff _ _).mp ⟨2, by decide +kernel⟩
  exact ((parsePacket_ends_iff hsum).1.mpr hfree).1

/-- The same packet with the length 0 in its chunk. -/
def endlessPacket : Bytes := [19, 136, 19, 136, 0, 0, 0, 1, 215, 110, 82, 10, 11, 0, 0, 0]

/-- **Parsing that does not end.**  A COOKIE ACK of the length 0 stops the loop of `parsePacket` from
moving on, and a parameter of the length 0 that of `decodeParams`. -/
theorem parsePacket_endless : hasChecksum endlessPacket = true ∧
    (¬ ∃ fuel, (parsePacket fuel endlessPacket).isSome) ∧
    ¬ ∃ fuel, (decodeParams fuel [0, 1, 0, 0]).isSome := by
  have hsum : hasChecksum endlessPacket = true := by decide +kernel
  have hheader : readChunkHeader endlessPacket SCTP_COMMON_HEADER_SIZE = some (11, 0, 0) := by
    decide +kernel
  refine ⟨hsum, ?_, ?_⟩
  · rintro ⟨fuel, hfuel⟩
    obtain ⟨_, _, _, heq⟩ := parsePacket_eq hsum
    rw [heq, Option.isSome_map] at hfuel
    exact (walk_visitChunk_ends_iff _ _).mp ⟨fuel, hfuel⟩ (.chunk hheader (by decide))
  · intro h
    exact (decodeParams_ends_iff _).mp h (.here (by decide))

end Werift.Sctp
