import Werift.Sctp.Parsing

/-!
# SCTP packets are read back

A chunk is a header, a body and padding (`bytes_frame`), and its constructor makes the chunk again of the
body.  `parsePacket` therefore finds the chunks of a packet one behind the other, as `decodeParams` finds
the parameters of a chunk.
-/

namespace Werift.Sctp

open Js Walk SackChunk

variable {data body out : Bytes} {pos : ℕ}

/-! ## Parameters -/

lemma length_padding (l : ℕ) : (padding l).length = padL l := List.length_replicate

lemma padL_le (l : ℕ) : padL l ≤ 3 := by
  rw [padL, SCTP_PADDING_MULTIPLE]
  split_ifs <;> omega

lemma padL_add_four (l : ℕ) : padL (l + 4) = padL l := by
  rw [padL, padL, SCTP_PADDING_MULTIPLE, Nat.add_mod_right]

/-- **Parameters** are found one behind the other. -/
lemma items_encodeParamsFrom {params : List Param} {pre : Bytes} (hpre : pre.length ≤ 3)
    (h : encodeParamsFrom pre params = some out) (front : Bytes) :
    Items (fun _ pos => some (visitParam (front ++ out) pos)) (front.length + pre.length) params := by
  induction params generalizing pre out front with
  | nil =>
    obtain rfl : [] = out := Option.some.inj h
    have hend : readUInt16BE (front ++ []) (front.length + pre.length + 2) = none := by
      apply readUIntBE_eq_none_iff.mpr
      rw [List.append_nil]
      omega
    exact .nil 0 (congrArg some (visitParam_of_none hend))
  | cons param params ih =>
    obtain ⟨type, value⟩ := param
    simp only [encodeParamsFrom, Option.bind_eq_bind, Option.bind_eq_some_iff, Option.pure_def,
      Option.some.injEq] at h
    obtain ⟨t, ht, l, hl, rest, hrest, rfl⟩ := h
    have htlen := length_of_writeUIntBE ht
    have hllen := length_of_writeUIntBE hl
    have hrtype : readUInt16BE (front ++ (pre ++ (t ++ l ++ value) ++ rest))
        (front.length + pre.length) = some type := by
      have hread := readUIntBE_append ht (front ++ pre) (l ++ value ++ rest)
      simpa [readUInt16BE] using hread
    have hrlength : readUInt16BE (front ++ (pre ++ (t ++ l ++ value) ++ rest))
        (front.length + pre.length + 2) = some ((value.length + 4 : ℕ) : ℤ) := by
      have hread := readUIntBE_append hl (front ++ pre ++ t) (value ++ rest)
      simpa [readUInt16BE, htlen, add_assoc] using hread
    have hvalue : slice (front ++ (pre ++ (t ++ l ++ value) ++ rest)) (front.length + pre.length + 4)
        (front.length + pre.length + (value.length + 4)) = value := by
      have hfield := BigEndian.slice_append (front ++ pre ++ t ++ l) value rest
      rw [slice, Nat.add_sub_add_left, Nat.add_sub_cancel]
      simpa [htlen, hllen, add_assoc] using hfield
    have htail := ih ((length_padding _).trans_le (padL_le _)) hrest (front ++ pre ++ (t ++ l ++ value))
    have hnext : (front ++ pre ++ (t ++ l ++ value)).length + (padding (value.length + 4)).length =
        front.length + pre.length + (value.length + 4) + padL (value.length + 4) := by
      simp only [List.length_append, length_padding, htlen, hllen]
      omega
    rw [hnext] at htail
    have hassoc : front ++ pre ++ (t ++ l ++ value) ++ rest =
        front ++ (pre ++ (t ++ l ++ value) ++ rest) := by
      simp only [List.append_assoc]
    rw [hassoc] at htail
    refine .cons 0 (congrArg some ?_) htail
    rw [visitParam, hrtype, hrlength]
    dsimp only
    rw [Int.toNat_natCast, hvalue]

theorem decodeParams_encodeParams {params : List Param} (h : encodeParams params = some out) :
    ∃ fuel, decodeParams fuel out = some (.ok params) :=
  walk_eq_of_items (monotone_visitParam out) (items_encodeParamsFrom (Nat.zero_le _) h [])

/-! ## Bodies -/

lemma baseParams_ofBody (flags : ℤ) {params : List Param} (h : encodeParams params = some body) :
    ∃ fuel, BaseParamsChunk.ofBody fuel flags body = some (.ok ⟨flags, params⟩) := by
  obtain ⟨fuel, hparams⟩ := decodeParams_encodeParams h
  exact ⟨fuel, by rw [BaseParamsChunk.ofBody, hparams]; rfl⟩

lemma baseInit_ofBody {c : BaseInitChunk} (h : c.body = some body) :
    ∃ fuel, BaseInitChunk.ofBody fuel c.flags body = some (.ok c) := by
  simp only [BaseInitChunk.body, Option.bind_eq_bind, Option.bind_eq_some_iff, Option.pure_def,
    Option.some.injEq] at h
  obtain ⟨tag, htag, rwnd, hrwnd, os, hos, is, his, tsn, htsn, params, hparams, rfl⟩ := h
  have ltag := length_of_writeUIntBE htag
  have lrwnd := length_of_writeUIntBE hrwnd
  have los := length_of_writeUIntBE hos
  have lis := length_of_writeUIntBE his
  have ltsn := length_of_writeUIntBE htsn
  have r0 := readUIntBE_append htag [] (rwnd ++ os ++ is ++ tsn ++ params)
  have r4 := readUIntBE_append hrwnd tag (os ++ is ++ tsn ++ params)
  have r8 := readUIntBE_append hos (tag ++ rwnd) (is ++ tsn ++ params)
  have r10 := readUIntBE_append his (tag ++ rwnd ++ os) (tsn ++ params)
  have r12 := readUIntBE_append htsn (tag ++ rwnd ++ os ++ is) params
  simp only [List.nil_append, List.append_assoc, List.length_nil, List.length_append, ltag, lrwnd, los,
    lis] at r0 r4 r8 r10 r12
  have hfields : BaseInitChunk.ofFields c.flags (tag ++ rwnd ++ os ++ is ++ tsn ++ params) =
      some { c with params := [] } := by
    simp [BaseInitChunk.ofFields, readUInt32BE, readUInt16BE, r0, r4, r8, r10, r12]
  have hdrop : (tag ++ rwnd ++ os ++ is ++ tsn ++ params).drop 16 = params :=
    List.drop_left' (by simp only [List.length_append, ltag, lrwnd, los, lis, ltsn])
  obtain ⟨fuel, hread⟩ := decodeParams_encodeParams hparams
  refine ⟨fuel, ?_⟩
  rw [BaseInitChunk.ofBody, hfields, hdrop]
  dsimp only
  rw [hread]
  rfl

lemma shutdown_ofBody {c : ShutdownChunk} (h : writeUInt32BE c.cumulativeTsn = some body) :
    ShutdownChunk.ofBody c.flags body = some c := by
  have hread : readUInt32BE body 0 = some c.cumulativeTsn := by
    have hread := readUIntBE_append h [] []
    rwa [List.nil_append, List.append_nil] at hread
  rw [ShutdownChunk.ofBody, hread]
  rfl

lemma concatMap_map {α β : Type*} (write : β → Option Bytes) (f : α → β) (l : List α) :
    concatMap write (l.map f) = concatMap (fun a => write (f a)) l := by
  induction l with
  | nil => rfl
  | cons a l ih => rw [List.map_cons, concatMap, concatMap, ih]

lemma forwardTsn_ofBody {c : ForwardTsnChunk} (h : c.body = some body) :
    ForwardTsnChunk.ofBody body = some c := by
  simp only [ForwardTsnChunk.body, Option.bind_eq_bind, Option.bind_eq_some_iff, Option.pure_def,
    Option.some.injEq] at h
  obtain ⟨tsn, htsn, streams, hstreams, rfl⟩ := h
  have ltsn := length_of_writeUIntBE htsn
  have hconcat : concatMap gapBuffer (c.streams.map fun stream => ((stream.1 : ℤ), stream.2)) =
      some streams := (concatMap_map _ _ _).trans hstreams
  have lstreams := length_concatMap (fun _ _ => length_gapBuffer) hconcat
  have htsn0 : readUInt32BE (tsn ++ streams) 0 = some c.cumulativeTsn := by
    have hread := readUIntBE_append htsn [] streams
    rwa [List.nil_append] at hread
  have hgaps : readAll readGap (tsn ++ streams) ((streams.length + 3) / 4) 4 =
      some (c.streams.map fun stream => ((stream.1 : ℤ), stream.2)) := by
    have hread := readAll_concatMap (fun _ _ => length_gapBuffer) (fun _ _ => readGap_append) hconcat
      tsn []
    have hcount : (streams.length + 3) / 4 =
        (c.streams.map fun stream => ((stream.1 : ℤ), stream.2)).length := by omega
    rwa [List.append_nil, ltsn, ← hcount] at hread
  have hrest : (tsn ++ streams).length - 4 = streams.length := by
    rw [List.length_append, ltsn, Nat.add_sub_cancel_left]
  have hstreams : (c.streams.map fun stream => ((stream.1 : ℤ), stream.2)).map
      (fun stream => (stream.1.toNat, stream.2)) = c.streams := by
    rw [List.map_map]
    exact (List.map_congr_left fun stream _ => rfl).trans (List.map_id _)
  rw [ForwardTsnChunk.ofBody, htsn0, Option.bind_eq_bind, Option.bind_some, hrest, hgaps,
    Option.bind_eq_bind, Option.bind_some, hstreams]
  rfl

/-- A DATA chunk is the header, its fields and its data. -/
lemma data_ofBody {c : DataChunk} (h : c.bytes = some out) : ∃ body, frame 0 c.flags body = some out ∧
    DataChunk.ofBody c.flags body = some c.onWire := by
  simp only [DataChunk.bytes, Option.bind_eq_bind, Option.bind_eq_some_iff, Option.pure_def,
    Option.some.injEq] at h
  obtain ⟨type, htype, flags, hflags, size, hsize, tsn, htsn, sid, hsid, ssn, hssn, ppid, hppid, rfl⟩ := h
  have ltsn := length_of_writeUIntBE htsn
  have lsid := length_of_writeUIntBE hsid
  have lssn := length_of_writeUIntBE hssn
  have lppid := length_of_writeUIntBE hppid
  have hlength : (tsn ++ sid ++ ssn ++ ppid ++ c.userData).length + 4 =
      SCTP_DATA_CHUNK_HEADER_SIZE + c.userData.length := by
    simp only [List.length_append, ltsn, lsid, lssn, lppid, SCTP_DATA_CHUNK_HEADER_SIZE]
    omega
  refine ⟨tsn ++ sid ++ ssn ++ ppid ++ c.userData, ?_, ?_⟩
  · have hpadding : padding (tsn ++ sid ++ ssn ++ ppid ++ c.userData).length =
        if (SCTP_DATA_CHUNK_HEADER_SIZE + c.userData.length) % 4 ≠ 0 then
          padding (SCTP_DATA_CHUNK_HEADER_SIZE + c.userData.length) else [] := by
      rw [← hlength, padding, padding, padL_add_four]
      split_ifs with hmod
      · rfl
      · have hzero : padL (tsn ++ sid ++ ssn ++ ppid ++ c.userData).length = 0 := by
          rw [padL, SCTP_PADDING_MULTIPLE, if_neg (by omega)]
        rw [hzero, List.replicate_zero]
    rw [frame, hlength, hpadding]
    have htype' : writeUInt8 ((0 : ℕ) : ℤ) = some type := htype
    simp only [htype', hflags, hsize, Option.bind_eq_bind, Option.bind_some, Option.pure_def]
  · have r0 := readUIntBE_append htsn [] (sid ++ ssn ++ ppid ++ c.userData)
    have r4 := readUIntBE_append hsid tsn (ssn ++ ppid ++ c.userData)
    have r6 := readUIntBE_append hssn (tsn ++ sid) (ppid ++ c.userData)
    have r8 := readUIntBE_append hppid (tsn ++ sid ++ ssn) c.userData
    simp only [List.nil_append, List.append_assoc, List.length_nil, List.length_append, ltsn, lsid,
      lssn] at r0 r4 r6 r8
    have hdrop : (tsn ++ sid ++ ssn ++ ppid ++ c.userData).drop 12 = c.userData :=
      List.drop_left' (by simp only [List.length_append, ltsn, lsid, lssn, lppid])
    rw [DataChunk.ofBody, hdrop]
    simp [readUInt32BE, readUInt16BE, r0, r4, r6, r8, DataChunk.onWire]

lemma sack_ofBody {c : SackChunk} (h : c.bytes = some out) : ∃ body, frame 3 c.flags body = some out ∧
    SackChunk.ofBody c.flags body = some c := by
  obtain ⟨type, flags, length, tsn, rwnd, ng, nd, gaps, dups, f, rfl⟩ := bytes_eq_some h
  refine ⟨tsn ++ rwnd ++ ng ++ nd ++ gaps ++ dups, ?_, f.ofBody_body⟩
  have hlength : (tsn ++ rwnd ++ ng ++ nd ++ gaps ++ dups).length + 4 = c.length := by
    simp only [List.length_append, length_of_writeUIntBE f.cumulativeTsn,
      length_of_writeUIntBE f.advertisedRwnd, length_of_writeUIntBE f.nbGaps,
      length_of_writeUIntBE f.nbDuplicates, length_concatMap (fun _ _ => length_gapBuffer) f.gaps,
      length_concatMap (fun _ _ => length_of_writeUIntBE) f.duplicates, SackChunk.length]
    omega
  have hzero : padL (tsn ++ rwnd ++ ng ++ nd ++ gaps ++ dups).length = 0 := by
    rw [SackChunk.length] at hlength
    rw [padL, SCTP_PADDING_MULTIPLE, if_neg (by omega)]
  have htype : writeUInt8 ((3 : ℕ) : ℤ) = some type := f.type
  rw [frame, hlength, padding, hzero, List.replicate_zero]
  simp only [htype, f.flags, f.length, Option.bind_eq_bind, Option.bind_some, Option.pure_def,
    List.append_nil]

/-- **A chunk is a frame** around a body of which its constructor makes it again. -/
theorem bytes_frame {c : Chunk} (h : c.bytes = some out) : ∃ body, frame c.type c.flags body = some out ∧
    ∃ fuel, Chunk.ofBody fuel c.type c.flags body = some (.ok c.onWire) := by
  have hparams {c : BaseParamsChunk} {type : ℕ} (make : BaseParamsChunk → Chunk)
      (h : (encodeParams c.params).bind (frame type c.flags) = some out) :
      ∃ body, frame type c.flags body = some out ∧ ∃ fuel,
        ((BaseParamsChunk.ofBody fuel c.flags body).map fun r => r.map make) = some (.ok (make c)) := by
    obtain ⟨body, hbody, hframe⟩ := Option.bind_eq_some_iff.mp h
    obtain ⟨fuel, hmade⟩ := baseParams_ofBody c.flags hbody
    exact ⟨body, hframe, fuel, by rw [hmade]; rfl⟩
  have hinit {c : BaseInitChunk} {type : ℕ} (make : BaseInitChunk → Chunk)
      (h : c.body.bind (frame type c.flags) = some out) :
      ∃ body, frame type c.flags body = some out ∧ ∃ fuel,
        ((BaseInitChunk.ofBody fuel c.flags body).map fun r => r.map make) = some (.ok (make c)) := by
    obtain ⟨body, hbody, hframe⟩ := Option.bind_eq_some_iff.mp h
    obtain ⟨fuel, hmade⟩ := baseInit_ofBody hbody
    exact ⟨body, hframe, fuel, by rw [hmade]; rfl⟩
  cases c with
  | data c =>
    obtain ⟨body, hframe, hmade⟩ := data_ofBody h
    exact ⟨body, hframe, 0, congrArg (fun r => some ((orRangeError r).map Chunk.data)) hmade⟩
  | sack c =>
    obtain ⟨body, hframe, hmade⟩ := sack_ofBody h
    exact ⟨body, hframe, 0, congrArg (fun r => some ((orRangeError r).map Chunk.sack)) hmade⟩
  | init c => exact hinit .init h
  | initAck c => exact hinit .initAck h
  | heartbeat c => exact hparams .heartbeat h
  | heartbeatAck c => exact hparams .heartbeatAck h
  | abort c => exact hparams .abort h
  | error c => exact hparams .error h
  | reconfig c => exact hparams .reconfig h
  | shutdown c =>
    obtain ⟨body, hbody, hframe⟩ := Option.bind_eq_some_iff.mp h
    exact ⟨body, hframe, 0,
      congrArg (fun r => some ((orRangeError r).map Chunk.shutdown)) (shutdown_ofBody hbody)⟩
  | shutdownAck c => exact ⟨c.body, h, 0, rfl⟩
  | cookieEcho c => exact ⟨c.body, h, 0, rfl⟩
  | cookieAck c => exact ⟨c.body, h, 0, rfl⟩
  | shutdownComplete c => exact ⟨c.body, h, 0, rfl⟩
  | forwardTsn flags c =>
    obtain ⟨body, hbody, hframe⟩ := Option.bind_eq_some_iff.mp h
    exact ⟨body, hframe, 0,
      congrArg (fun r => some ((orRangeError r).map (Chunk.forwardTsn flags))) (forwardTsn_ofBody hbody)⟩

/-! ## Packets -/

/-- The header and the body of a frame are found where it stands. -/
lemma read_frame {type : ℕ} {flags : ℤ} (h : frame type flags body = some out) (pre post : Bytes) :
    readChunkHeader (pre ++ out ++ post) pre.length = some ((type : ℤ), flags, body.length + 4) ∧
      slice (pre ++ out ++ post) (pre.length + 4) (pre.length + (body.length + 4)) = body ∧
      out.length = body.length + 4 + padL (body.length + 4) := by
  simp only [frame, Option.bind_eq_bind, Option.bind_eq_some_iff, Option.pure_def,
    Option.some.injEq] at h
  obtain ⟨t, ht, f, hf, l, hl, rfl⟩ := h
  have lt := length_of_writeUIntBE ht
  have lf := length_of_writeUIntBE hf
  have ll := length_of_writeUIntBE hl
  refine ⟨?_, ?_, ?_⟩
  · have r0 := readUIntBE_append ht pre (f ++ l ++ body ++ padding body.length ++ post)
    have r1 := readUIntBE_append hf (pre ++ t) (l ++ body ++ padding body.length ++ post)
    have r2 := readUIntBE_append hl (pre ++ t ++ f) (body ++ padding body.length ++ post)
    simp only [List.append_assoc, List.length_append, lt, lf] at r0 r1 r2
    simp [readChunkHeader, readUInt8, readUInt16BE, r0, r1, r2, -Nat.cast_add]
    omega
  · have hfield := BigEndian.slice_append (pre ++ t ++ f ++ l) body (padding body.length ++ post)
    rw [slice, Nat.add_sub_add_left, Nat.add_sub_cancel]
    simpa [lt, lf, ll, add_assoc] using hfield
  · simp only [List.length_append, lt, lf, ll, length_padding, padL_add_four]
    omega

/-- **Chunks** are found one behind the other. -/
lemma items_chunks {chunks : List Chunk} (h : concatMap Chunk.bytes chunks = some out) (pre : Bytes) :
    Items (visitChunk (pre ++ out)) pre.length (chunks.map Chunk.onWire) := by
  induction chunks generalizing out pre with
  | nil =>
    obtain rfl : [] = out := Option.some.inj h
    refine .nil 0 (visitChunk_of_none (readChunkHeader_eq_none_iff.mpr ?_) 0)
    rw [List.append_nil]
    omega
  | cons c chunks ih =>
    obtain ⟨field, hfield, rest, hrest, rfl⟩ := concatMap_cons_eq_some.mp h
    obtain ⟨body, hframe, fuel, hmade⟩ := bytes_frame hfield
    obtain ⟨hheader, hslice, hlength⟩ := read_frame hframe pre rest
    rw [List.append_assoc] at hheader hslice
    rw [← hslice] at hmade
    have htail := ih hrest (pre ++ field)
    rw [List.append_assoc, List.length_append, hlength, ← add_assoc] at htail
    exact .cons fuel (visitChunk_of_ofBody hheader hmade) htail

/-- The header of a packet is read back. -/
lemma packetBytes_eq_some {sourcePort destinationPort tag : ℤ}
    (h : packetBytes sourcePort destinationPort tag body = some data) :
    ∃ header : Bytes, header.length = SCTP_COMMON_HEADER_SIZE ∧ data = header ++ body ∧
      readUInt16BE data 0 = some sourcePort ∧ readUInt16BE data 2 = some destinationPort ∧
      readUInt32BE data 4 = some tag ∧ hasChecksum data = true := by
  obtain ⟨header, hheader, hdata⟩ := Option.bind_eq_some_iff.mp h
  simp only [packetHeader, Option.bind_eq_bind, Option.bind_eq_some_iff, Option.pure_def,
    Option.some.injEq] at hheader
  obtain ⟨s, hs, d, hd, t, ht, rfl⟩ := hheader
  obtain ⟨sum, hsum, rfl⟩ := Option.map_eq_some_iff.mp hdata
  have ls := length_of_writeUIntBE hs
  have ld := length_of_writeUIntBE hd
  have lt := length_of_writeUIntBE ht
  have lsum : sum.length = 4 := by
    obtain ⟨big, hbig, rfl⟩ := Option.map_eq_some_iff.mp hsum
    rw [List.length_reverse, length_of_writeUIntBE hbig]
  have hheader : (s ++ d ++ t).length = 8 := by simp only [List.length_append, ls, ld, lt]
  refine ⟨s ++ d ++ t ++ sum, ?_, rfl, ?_, ?_, ?_, ?_⟩
  · rw [List.length_append, hheader, lsum]
    rfl
  · have hread := readUIntBE_append hs [] (d ++ t ++ sum ++ body)
    simpa [readUInt16BE] using hread
  · have hread := readUIntBE_append hd s (t ++ sum ++ body)
    simpa [readUInt16BE, ls] using hread
  · have hread := readUIntBE_append ht (s ++ d) (sum ++ body)
    simpa [readUInt32BE, ls, ld] using hread
  · have hread := readUInt32LE_append hsum (s ++ d ++ t) body
    rw [hheader] at hread
    have hfirst : slice (s ++ d ++ t ++ sum ++ body) 0 8 = s ++ d ++ t := by
      rw [slice, List.drop_zero, List.append_assoc (s ++ d ++ t)]
      exact List.take_left' hheader
    have hrest : (s ++ d ++ t ++ sum ++ body).drop SCTP_COMMON_HEADER_SIZE = body :=
      List.drop_left' (by rw [List.length_append, hheader, lsum]; rfl)
    rw [hasChecksum, hread, hfirst, hrest]
    exact beq_self_eq_true _

/-! ## Fields in their ranges -/

/-- The bytes that the parameters take behind padding of `pre` bytes. -/
def paramsLength (pre : ℕ) : List Param → ℕ
  | [] => 0
  | (_, value) :: params => pre + (value.length + 4) + paramsLength (padL (value.length + 4)) params

/-- The numbers of the parameters fit into their fields. -/
def ParamsInRange (params : List Param) : Prop :=
  ∀ param ∈ params, (0 ≤ param.1 ∧ param.1 < 0x10000) ∧ param.2.length + 4 < 0x10000

/-- The numbers of a chunk fit into their fields, its length included. -/
def Chunk.InRange : Chunk → Prop
  | .data c => c.flags < 0x100 ∧ (0 ≤ c.tsn ∧ c.tsn < 0x100000000) ∧ c.streamId < 0x10000 ∧
    (0 ≤ c.streamSeqNum ∧ c.streamSeqNum < 0x10000) ∧ c.protocol < 0x100000000 ∧
    SCTP_DATA_CHUNK_HEADER_SIZE + c.userData.length < 0x10000
  | .init c | .initAck c => (0 ≤ c.flags ∧ c.flags < 0x100) ∧
    (0 ≤ c.initiateTag ∧ c.initiateTag < 0x100000000) ∧
    (0 ≤ c.advertisedRwnd ∧ c.advertisedRwnd < 0x100000000) ∧
    (0 ≤ c.outboundStreams ∧ c.outboundStreams < 0x10000) ∧
    (0 ≤ c.inboundStreams ∧ c.inboundStreams < 0x10000) ∧
    (0 ≤ c.initialTsn ∧ c.initialTsn < 0x100000000) ∧ ParamsInRange c.params ∧
    20 + paramsLength 0 c.params < 0x10000
  | .sack c => (0 ≤ c.flags ∧ c.flags < 0x100) ∧ c.length < 0x10000 ∧
    (0 ≤ c.cumulativeTsn ∧ c.cumulativeTsn < 0x100000000) ∧
    (0 ≤ c.advertisedRwnd ∧ c.advertisedRwnd < 0x100000000) ∧
    (∀ gap ∈ c.gaps, (0 ≤ gap.1 ∧ gap.1 < 0x10000) ∧ 0 ≤ gap.2 ∧ gap.2 < 0x10000) ∧
    ∀ tsn ∈ c.duplicates, 0 ≤ tsn ∧ tsn < 0x100000000
  | .heartbeat c | .heartbeatAck c | .abort c | .error c | .reconfig c =>
    (0 ≤ c.flags ∧ c.flags < 0x100) ∧ ParamsInRange c.params ∧ 4 + paramsLength 0 c.params < 0x10000
  | .shutdown c => (0 ≤ c.flags ∧ c.flags < 0x100) ∧ 0 ≤ c.cumulativeTsn ∧ c.cumulativeTsn < 0x100000000
  | .shutdownAck c | .cookieEcho c | .cookieAck c | .shutdownComplete c =>
    (0 ≤ c.flags ∧ c.flags < 0x100) ∧ 4 + c.body.length < 0x10000
  | .forwardTsn flags c => (0 ≤ flags ∧ flags < 0x100) ∧
    (0 ≤ c.cumulativeTsn ∧ c.cumulativeTsn < 0x100000000) ∧
    (∀ stream ∈ c.streams, stream.1 < 0x10000 ∧ 0 ≤ stream.2 ∧ stream.2 < 0x10000) ∧
    8 + 4 * c.streams.length < 0x10000

lemma exists_writeUIntBE {k : ℕ} {v : ℤ} (h : 0 ≤ v ∧ v < 256 ^ k) : ∃ field, writeUIntBE k v = some field :=
  Option.isSome_iff_exists.mp (isSome_writeUIntBE.mpr h)

/-- Parameters in their ranges can be written. -/
lemma exists_encodeParamsFrom {params : List Param} (h : ParamsInRange params) (pre : Bytes) :
    ∃ out, encodeParamsFrom pre params = some out ∧ out.length = paramsLength pre.length params := by
  induction params generalizing pre with
  | nil => exact ⟨[], rfl, rfl⟩
  | cons param params ih =>
    obtain ⟨type, value⟩ := param
    obtain ⟨htype, hvalue⟩ := h _ List.mem_cons_self
    dsimp only at htype hvalue
    obtain ⟨t, ht⟩ := exists_writeUIntBE (k := 2) (v := type) (by omega)
    obtain ⟨l, hl⟩ := exists_writeUIntBE (k := 2) (v := (value.length + 4 : ℕ)) (by omega)
    obtain ⟨rest, hrest, hlength⟩ :=
      ih (fun p hp => h p (List.mem_cons_of_mem _ hp)) (padding (value.length + 4))
    refine ⟨pre ++ (t ++ l ++ value) ++ rest, ?_, ?_⟩
    · simp only [encodeParamsFrom, writeUInt16BE, ht, hl, hrest, Option.bind_eq_bind, Option.bind_some,
        Option.pure_def]
    · rw [paramsLength, ← length_padding, ← hlength]
      simp only [List.length_append, length_of_writeUIntBE ht, length_of_writeUIntBE hl]
      omega

lemma exists_frame {type : ℕ} {flags : ℤ} (htype : type < 0x100) (hflags : 0 ≤ flags ∧ flags < 0x100)
    (hbody : 4 + body.length < 0x10000) : ∃ out, frame type flags body = some out := by
  obtain ⟨t, ht⟩ := exists_writeUIntBE (k := 1) (v := (type : ℤ)) (by omega)
  obtain ⟨f, hf⟩ := exists_writeUIntBE (k := 1) (v := flags) (by omega)
  obtain ⟨l, hl⟩ := exists_writeUIntBE (k := 2) (v := (body.length + 4 : ℕ)) (by omega)
  refine ⟨t ++ f ++ l ++ body ++ padding body.length, ?_⟩
  simp only [frame, writeUInt8, writeUInt16BE, ht, hf, hl, Option.bind_eq_bind, Option.bind_some,
    Option.pure_def]

lemma exists_bind_frame {type : ℕ} {flags : ℤ} {body : Option Bytes} (htype : type < 0x100)
    (hflags : 0 ≤ flags ∧ flags < 0x100) (hbody : ∃ b, body = some b ∧ 4 + b.length < 0x10000) :
    ∃ out, body.bind (frame type flags) = some out := by
  obtain ⟨b, rfl, hlength⟩ := hbody
  obtain ⟨out, hout⟩ := exists_frame htype hflags hlength
  exact ⟨out, by rw [Option.bind_some, hout]⟩

lemma exists_initBody {c : BaseInitChunk} (htag : 0 ≤ c.initiateTag ∧ c.initiateTag < 0x100000000)
    (hrwnd : 0 ≤ c.advertisedRwnd ∧ c.advertisedRwnd < 0x100000000)
    (hout : 0 ≤ c.outboundStreams ∧ c.outboundStreams < 0x10000)
    (hin : 0 ≤ c.inboundStreams ∧ c.inboundStreams < 0x10000)
    (htsn : 0 ≤ c.initialTsn ∧ c.initialTsn < 0x100000000) (hparams : ParamsInRange c.params)
    (hlength : 20 + paramsLength 0 c.params < 0x10000) :
    ∃ b, c.body = some b ∧ 4 + b.length < 0x10000 := by
  obtain ⟨f1, h1⟩ := exists_writeUIntBE (k := 4) (v := c.initiateTag) (by omega)
  obtain ⟨f2, h2⟩ := exists_writeUIntBE (k := 4) (v := c.advertisedRwnd) (by omega)
  obtain ⟨f3, h3⟩ := exists_writeUIntBE (k := 2) (v := c.outboundStreams) (by omega)
  obtain ⟨f4, h4⟩ := exists_writeUIntBE (k := 2) (v := c.inboundStreams) (by omega)
  obtain ⟨f5, h5⟩ := exists_writeUIntBE (k := 4) (v := c.initialTsn) (by omega)
  obtain ⟨params, h6, hplen⟩ := exists_encodeParamsFrom hparams []
  refine ⟨f1 ++ f2 ++ f3 ++ f4 ++ f5 ++ params, ?_, ?_⟩
  · simp only [BaseInitChunk.body, writeUInt16BE, writeUInt32BE, encodeParams, h1, h2, h3, h4, h5, h6,
      Option.bind_eq_bind, Option.bind_some, Option.pure_def]
  · rw [List.length_nil] at hplen
    simp only [List.length_append, length_of_writeUIntBE h1, length_of_writeUIntBE h2,
      length_of_writeUIntBE h3, length_of_writeUIntBE h4, length_of_writeUIntBE h5, hplen]
    omega

/-- **Chunks in their ranges** can be written. -/
theorem exists_bytes {c : Chunk} (h : c.InRange) : ∃ out, c.bytes = some out := by
  have hparams {c : BaseParamsChunk} {type : ℕ} (htype : type < 0x100)
      (h : (0 ≤ c.flags ∧ c.flags < 0x100) ∧ ParamsInRange c.params ∧
        4 + paramsLength 0 c.params < 0x10000) :
      ∃ out, (encodeParams c.params).bind (frame type c.flags) = some out := by
    obtain ⟨hflags, hrange, hlength⟩ := h
    obtain ⟨b, hb, hblen⟩ := exists_encodeParamsFrom hrange []
    exact exists_bind_frame htype hflags ⟨b, hb, by rwa [hblen]⟩
  cases c with
  | data c =>
    obtain ⟨hflags, htsn, hsid, hssn, hppid, hlength⟩ := h
    obtain ⟨f0, h0⟩ := exists_writeUIntBE (k := 1) (v := 0) (by omega)
    obtain ⟨f1, h1⟩ := exists_writeUIntBE (k := 1) (v := (c.flags : ℤ)) (by omega)
    obtain ⟨f2, h2⟩ := exists_writeUIntBE (k := 2)
      (v := ((SCTP_DATA_CHUNK_HEADER_SIZE + c.userData.length : ℕ) : ℤ)) (by omega)
    obtain ⟨f3, h3⟩ := exists_writeUIntBE (k := 4) (v := c.tsn) (by omega)
    obtain ⟨f4, h4⟩ := exists_writeUIntBE (k := 2) (v := (c.streamId : ℤ)) (by omega)
    obtain ⟨f5, h5⟩ := exists_writeUIntBE (k := 2) (v := c.streamSeqNum) (by omega)
    obtain ⟨f6, h6⟩ := exists_writeUIntBE (k := 4) (v := (c.protocol : ℤ)) (by omega)
    refine Option.isSome_iff_exists.mp ?_
    simp only [Chunk.bytes, DataChunk.bytes, writeUInt8, writeUInt16BE, writeUInt32BE, h0, h1, h2, h3, h4,
      h5, h6, Option.bind_eq_bind, Option.bind_some, Option.pure_def, Option.isSome_some]
  | init c =>
    obtain ⟨hflags, htag, hrwnd, hout, hin, htsn, hrange, hlength⟩ := h
    exact exists_bind_frame (by decide) hflags (exists_initBody htag hrwnd hout hin htsn hrange hlength)
  | initAck c =>
    obtain ⟨hflags, htag, hrwnd, hout, hin, htsn, hrange, hlength⟩ := h
    exact exists_bind_frame (by decide) hflags (exists_initBody htag hrwnd hout hin htsn hrange hlength)
  | sack c =>
    obtain ⟨hflags, hlength, htsn, hrwnd, hgaps, hdups⟩ := h
    refine Option.isSome_iff_exists.mp (SackChunk.isSome_bytes_iff.mpr ⟨?_, ?_, ?_, ?_, ?_, ?_⟩)
    · exact isSome_writeUIntBE.mpr (by omega)
    · exact isSome_writeUIntBE.mpr (by omega)
    · exact isSome_writeUIntBE.mpr (by omega)
    · exact isSome_writeUIntBE.mpr (by omega)
    · exact fun gap hgap => isSome_gapBuffer.mpr (hgaps gap hgap)
    · intro tsn hmem
      have htsn := hdups tsn hmem
      exact isSome_writeUIntBE.mpr (by omega)
  | heartbeat c => exact hparams (by decide) h
  | heartbeatAck c => exact hparams (by decide) h
  | abort c => exact hparams (by decide) h
  | error c => exact hparams (by decide) h
  | reconfig c => exact hparams (by decide) h
  | shutdown c =>
    obtain ⟨hflags, htsn⟩ := h
    obtain ⟨b, hb⟩ := exists_writeUIntBE (k := 4) (v := c.cumulativeTsn) (by omega)
    have hlength := length_of_writeUIntBE hb
    exact exists_bind_frame (by decide) hflags ⟨b, hb, by omega⟩
  | shutdownAck c => exact exists_frame (by decide) h.1 h.2
  | cookieEcho c => exact exists_frame (by decide) h.1 h.2
  | cookieAck c => exact exists_frame (by decide) h.1 h.2
  | shutdownComplete c => exact exists_frame (by decide) h.1 h.2
  | forwardTsn flags c =>
    obtain ⟨hflags, htsn, hstreams, hlength⟩ := h
    obtain ⟨f1, h1⟩ := exists_writeUIntBE (k := 4) (v := c.cumulativeTsn) (by omega)
    have hsome : (concatMap (fun stream : ℕ × ℤ => gapBuffer (stream.1, stream.2)) c.streams).isSome := by
      refine concatMap_isSome.mpr fun stream hmem => isSome_gapBuffer.mpr ?_
      have hstream := hstreams stream hmem
      dsimp only
      omega
    obtain ⟨f2, h2⟩ := Option.isSome_iff_exists.mp hsome
    have hlen := length_concatMap (fun _ _ => length_gapBuffer) h2
    refine exists_bind_frame (by decide) hflags ⟨f1 ++ f2, ?_, ?_⟩
    · simp only [ForwardTsnChunk.body, writeUInt32BE, h1, h2, Option.bind_eq_bind, Option.bind_some,
        Option.pure_def]
    · rw [List.length_append, length_of_writeUIntBE h1, hlen]
      omega

lemma exists_writeUInt32LE (n : UInt32) : ∃ field, writeUInt32LE n.toNat = some field := by
  have hlt := n.toNat_lt
  obtain ⟨big, hbig⟩ := exists_writeUIntBE (k := 4) (v := (n.toNat : ℤ)) (by omega)
  exact ⟨big.reverse, by rw [writeUInt32LE, hbig, Option.map_some]⟩

lemma exists_packetBytes {sourcePort destinationPort tag : ℤ}
    (hs : 0 ≤ sourcePort ∧ sourcePort < 0x10000) (hd : 0 ≤ destinationPort ∧ destinationPort < 0x10000)
    (ht : 0 ≤ tag ∧ tag < 0x100000000) (body : Bytes) :
    ∃ data, packetBytes sourcePort destinationPort tag body = some data := by
  obtain ⟨f1, h1⟩ := exists_writeUIntBE (k := 2) (v := sourcePort) (by omega)
  obtain ⟨f2, h2⟩ := exists_writeUIntBE (k := 2) (v := destinationPort) (by omega)
  obtain ⟨f3, h3⟩ := exists_writeUIntBE (k := 4) (v := tag) (by omega)
  have hheader : packetHeader sourcePort destinationPort tag = some (f1 ++ f2 ++ f3) := by
    simp only [packetHeader, writeUInt16BE, writeUInt32BE, h1, h2, h3, Option.bind_eq_bind,
      Option.bind_some, Option.pure_def]
  obtain ⟨f4, h4⟩ := exists_writeUInt32LE (crc32c (f1 ++ f2 ++ f3 ++ [0, 0, 0, 0] ++ body))
  refine ⟨f1 ++ f2 ++ f3 ++ f4 ++ body, Option.bind_eq_some_iff.mpr ⟨_, hheader, ?_⟩⟩
  exact Option.map_eq_some_iff.mpr ⟨f4, h4, rfl⟩

/-- `parsePacket` of the common header with the checksum and the bytes of chunks gives the ports, the tag
and the chunks. -/
lemma parsePacket_packetBytes {sourcePort destinationPort tag : ℤ} {chunks : List Chunk}
    (hbody : concatMap Chunk.bytes chunks = some body)
    (hdata : packetBytes sourcePort destinationPort tag body = some data) :
    ∃ fuel, ∀ fuel' ≥ fuel, parsePacket fuel' data =
      some (.ok (sourcePort, destinationPort, tag, chunks.map Chunk.onWire)) := by
  obtain ⟨header, hlength, rfl, hs, hd, ht, hsum⟩ := packetBytes_eq_some hdata
  have hitems := items_chunks hbody header
  rw [hlength] at hitems
  obtain ⟨fuel, hwalk⟩ := walk_eq_of_items (monotone_visitChunk _) hitems
  refine ⟨fuel, fun fuel' hle => ?_⟩
  have hlong : ¬ (header ++ body).length < SCTP_COMMON_HEADER_SIZE := by
    rw [List.length_append, hlength]
    omega
  rw [parsePacket, if_neg hlong, hs, hd, ht]
  dsimp only
  rw [if_pos hsum, walk_mono (monotone_visitChunk _) hle hwalk]
  rfl

/-- **Packets are read back.**  Chunks with their numbers in range can be written, and `parsePacket` of the
common header with the checksum and their bytes gives the ports, the tag and the chunks. -/
theorem parsePacket_roundTrip (sourcePort destinationPort tag : ℤ) (chunks : List Chunk)
    (hs : 0 ≤ sourcePort ∧ sourcePort < 0x10000) (hd : 0 ≤ destinationPort ∧ destinationPort < 0x10000)
    (ht : 0 ≤ tag ∧ tag < 0x100000000) (hchunks : ∀ chunk ∈ chunks, chunk.InRange) :
    ∃ body data, concatMap Chunk.bytes chunks = some body ∧
      packetBytes sourcePort destinationPort tag body = some data ∧ ∃ fuel, ∀ fuel' ≥ fuel,
        parsePacket fuel' data =
          some (.ok (sourcePort, destinationPort, tag, chunks.map Chunk.onWire)) := by
  have hsome : (concatMap Chunk.bytes chunks).isSome := concatMap_isSome.mpr fun chunk hmem =>
    Option.isSome_iff_exists.mpr (exists_bytes (hchunks chunk hmem))
  obtain ⟨body, hbody⟩ := Option.isSome_iff_exists.mp hsome
  obtain ⟨data, hdata⟩ := exists_packetBytes hs hd ht body
  exact ⟨body, data, hbody, hdata, parsePacket_packetBytes hbody hdata⟩

/-- A packet of a DATA chunk and a RE-CONFIG chunk with two parameters, the first of which is padded. -/
theorem parsePacket_roundTrip_example : ∃ body data,
    concatMap Chunk.bytes [.data { flags := 3, tsn := 5, userData := [1, 2, 3] },
      .reconfig { params := [(13, [7]), (16, [1, 2])] }] = some body ∧
    packetBytes 5000 5000 1 body = some data ∧ ∃ fuel, ∀ fuel' ≥ fuel, parsePacket fuel' data =
      some (.ok (5000, 5000, 1, [.data { flags := 3, tsn := 5, userData := [1, 2, 3] },
        .reconfig { params := [(13, [7]), (16, [1, 2])] }])) := by
  refine parsePacket_roundTrip 5000 5000 1 _ (by decide) (by decide) (by decide) ?_
  intro chunk hmem
  simp only [List.mem_cons, List.not_mem_nil, or_false] at hmem
  rcases hmem with rfl | rfl
  · simp [Chunk.InRange, SCTP_DATA_CHUNK_HEADER_SIZE]
  · simp [Chunk.InRange, ParamsInRange, paramsLength, padL, SCTP_PADDING_MULTIPLE]

end Werift.Sctp
