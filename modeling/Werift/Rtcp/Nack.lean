import Werift.Lib.MapM
import Werift.Rtcp.Header

/-!
# Generic NACKs (`rtp/src/rtcp/rtpfb/nack.ts`)

Lost sequence numbers are written as pairs of a number and a mask of those that follow it.  Packing and
unpacking give the numbers back (`perm_unpack_pack`); what is unpacked from a foreign NACK is what its pairs
name unless a number runs over 65535 (`mem_unpack_iff_named`).
-/

namespace Werift.Rtcp

/-- `RtcpTransportLayerFeedbackType`. -/
def RtcpTransportLayerFeedbackType : ℕ := 205

/-- A `GenericNack`. -/
structure GenericNack where
  header : RtcpHeader := { type := RtcpTransportLayerFeedbackType, count := 1, version := 2 }
  senderSsrc : ℕ
  mediaSourceSsrc : ℕ
  lost : List ℕ := []

namespace GenericNack

/-! ## Pairs -/

/-- The loop of `serialize` over the numbers behind the first: `headPid` and `blp` are the open pair. -/
def packBehind (headPid blp : ℕ) : List ℕ → List (ℕ × ℕ)
  | [] => [(headPid, blp)]
  | pid :: lost =>
    let diff : ℤ := (pid : ℤ) - headPid - 1
    if 0 ≤ diff ∧ diff < 16 then packBehind headPid (blp ||| 1 <<< diff.toNat) lost
    else (headPid, blp) :: packBehind pid 0 lost

/-- The pairs that `serialize` writes. -/
def pack : List ℕ → List (ℕ × ℕ)
  | [] => []
  | pid :: lost => packBehind pid 0 lost

/-- The differences whose bits are set in a mask. -/
def following (blp : ℕ) : List ℕ := (List.range 16).filter fun diff => (blp >>> diff) &&& 1 ≠ 0

/-- The numbers that `deSerialize` makes of a pair. -/
def unpack (pair : ℕ × ℕ) : List ℕ := pair.1 :: (following pair.2).map fun diff => pair.1 + diff + 1

/-- `serialize()`. -/
def serialize (n : GenericNack) : Option Bytes := do
  let senderSsrc ← Js.writeUInt32BE n.senderSsrc
  let mediaSourceSsrc ← Js.writeUInt32BE n.mediaSourceSsrc
  let fci ← (pack n.lost).mapM fun pair => do
    let headPid ← Js.writeUInt16BE pair.1
    let blp ← Js.writeUInt16BE pair.2
    return headPid ++ blp
  let buf := senderSsrc ++ mediaSourceSsrc ++ fci.flatten
  let header ← { n.header with length := buf.length / 4 }.serializeHeader
  return header ++ buf

/-- The pairs that `deSerialize` reads behind the two sources. -/
def readPairs : Bytes → Option (List (ℕ × ℕ))
  | [] => some []
  | a :: b :: c :: d :: data => do
    let pairs ← readPairs data
    return (BigEndian.decode [a, b], BigEndian.decode [c, d]) :: pairs
  | _ => none

/-- `GenericNack.deSerialize(data, header)`. -/
def deSerialize (data : Bytes) (header : RtcpHeader) : Option GenericNack := do
  let senderSsrc ← Js.readUInt32BE data 0
  let mediaSourceSsrc ← Js.readUInt32BE data 4
  let pairs ← readPairs (data.drop 8)
  return { header
           senderSsrc := senderSsrc.toNat
           mediaSourceSsrc := mediaSourceSsrc.toNat
           lost := pairs.flatMap unpack }

/-- One turn of the loop of `RtcpPacketConverter.deSerialize`, for a generic NACK. -/
def parse (data : Bytes) : Option GenericNack := do
  let header ← RtcpHeader.deSerialize (data.take RTCP_HEADER_SIZE)
  let payload := Js.slice data RTCP_HEADER_SIZE (RTCP_HEADER_SIZE + header.length * 4)
  let pad := (payload.getLastD 0).toNat
  let payload := if header.padding ∧ 0 < pad ∧ pad ≤ payload.length
    then payload.take (payload.length - pad) else payload
  guard (header.type = RtcpTransportLayerFeedbackType ∧ header.count = 1)
  deSerialize payload header

/-- The numbers that a pair names. -/
def named (pair : ℕ × ℕ) : List ℕ :=
  pair.1 :: (following pair.2).map fun diff => (pair.1 + diff + 1) % 2 ^ 16

variable {pid blp m : ℕ} {lost : List ℕ} {pair : ℕ × ℕ}

lemma mem_following : m ∈ following blp ↔ m < 16 ∧ blp.testBit m = true := by
  rw [following, List.mem_filter, List.mem_range, decide_eq_true_iff, Nat.testBit, bne_iff_ne,
    Nat.land_comm]

lemma nodup_following (blp : ℕ) : (following blp).Nodup := List.nodup_range.filter _

lemma mem_unpack : m ∈ unpack (pid, blp) ↔
    m = pid ∨ ∃ diff < 16, blp.testBit diff = true ∧ pid + diff + 1 = m := by
  rw [unpack, List.mem_cons, List.mem_map]
  simp only [mem_following, and_assoc]

lemma nodup_unpack (pair : ℕ × ℕ) : (unpack pair).Nodup := by
  refine List.nodup_cons.mpr ⟨fun hmem => ?_, ?_⟩
  · obtain ⟨diff, -, hdiff⟩ := List.mem_map.mp hmem
    omega
  · refine (nodup_following pair.2).map fun a b h => ?_
    omega

lemma unpack_zero (pid : ℕ) : unpack (pid, 0) = [pid] := by
  have hnone : following 0 = [] := by decide
  rw [unpack, hnone, List.map_nil]

/-- Setting a bit of the mask adds a number. -/
lemma perm_unpack_or {diff : ℕ} (hdiff : diff < 16) (hnew : pid + diff + 1 ∉ unpack (pid, blp)) :
    (unpack (pid, blp ||| 1 <<< diff)).Perm ((pid + diff + 1) :: unpack (pid, blp)) := by
  refine (List.perm_ext_iff_of_nodup (nodup_unpack _)
    (List.nodup_cons.mpr ⟨hnew, nodup_unpack _⟩)).mpr fun m => ?_
  simp only [List.mem_cons, mem_unpack, Nat.testBit_or, Nat.one_shiftLeft, Nat.testBit_two_pow,
    Bool.or_eq_true, decide_eq_true_iff]
  constructor
  · rintro (rfl | ⟨d, hd, hbit | rfl, rfl⟩)
    · exact Or.inr (Or.inl rfl)
    · exact Or.inr (Or.inr ⟨d, hd, hbit, rfl⟩)
    · exact Or.inl rfl
  · rintro (rfl | rfl | ⟨d, hd, hbit, rfl⟩)
    · exact Or.inr ⟨diff, hdiff, Or.inr rfl, rfl⟩
    · exact Or.inl rfl
    · exact Or.inr ⟨d, hd, Or.inl hbit, rfl⟩

/-- **Packing** behind an open pair. -/
lemma perm_unpack_packBehind (hnodup : (unpack (pid, blp) ++ lost).Nodup) :
    ((packBehind pid blp lost).flatMap unpack).Perm (unpack (pid, blp) ++ lost) := by
  induction lost generalizing pid blp with
  | nil => rw [packBehind, List.flatMap_singleton, List.append_nil]
  | cons next lost ih =>
    rw [packBehind]
    split_ifs with hdiff
    · obtain ⟨diff, hlt, rfl⟩ : ∃ diff < 16, pid + diff + 1 = next :=
        ⟨((next : ℤ) - pid - 1).toNat, by omega, by omega⟩
      have htoNat : (((pid + diff + 1 : ℕ) : ℤ) - pid - 1).toNat = diff := by omega
      have hnew : pid + diff + 1 ∉ unpack (pid, blp) := fun hmem =>
        (List.disjoint_of_nodup_append hnodup) hmem List.mem_cons_self
      have hperm := (perm_unpack_or hlt hnew).append_right lost
      rw [htoNat]
      have hmove : ((pid + diff + 1) :: unpack (pid, blp) ++ lost).Perm
          (unpack (pid, blp) ++ ((pid + diff + 1) :: lost)) := List.perm_middle.symm
      exact (ih ((hperm.trans hmove).nodup_iff.mpr hnodup)).trans (hperm.trans hmove)
    · have hlater : (unpack (next, 0) ++ lost).Nodup := by
        rw [unpack_zero]
        exact (List.nodup_append.mp hnodup).2.1
      have hrest := (ih hlater).append_left (unpack (pid, blp))
      rwa [unpack_zero] at hrest

/-- **Packing and unpacking** gives the same numbers, each once. -/
lemma perm_unpack_pack (hnodup : lost.Nodup) : ((pack lost).flatMap unpack).Perm lost := by
  cases lost with
  | nil => exact List.Perm.refl _
  | cons pid lost =>
    have hperm := @perm_unpack_packBehind pid 0 lost
    rw [unpack_zero] at hperm
    exact hperm hnodup

/-! ## Bytes -/

/-- The bytes of a pair. -/
def pairBytes (pair : ℕ × ℕ) : Bytes := BigEndian.encode 2 pair.1 ++ BigEndian.encode 2 pair.2

/-- Numbers that fit in their fields. -/
def Fits (pair : ℕ × ℕ) : Prop := pair.1 < 256 ^ 2 ∧ pair.2 < 256 ^ 2

lemma fits_packBehind (hpair : Fits (pid, blp)) (hlost : ∀ m ∈ lost, m < 256 ^ 2) :
    ∀ pair ∈ packBehind pid blp lost, Fits pair := by
  induction lost generalizing pid blp with
  | nil =>
    intro pair hmem
    obtain rfl := List.mem_singleton.mp hmem
    exact hpair
  | cons next lost ih =>
    obtain ⟨hnext, hlost⟩ := List.forall_mem_cons.mp hlost
    rw [packBehind]
    split_ifs with hdiff
    · refine ih ⟨hpair.1, Nat.or_lt_two_pow (n := 16) hpair.2 ?_⟩ hlost
      rw [Nat.one_shiftLeft]
      exact Nat.pow_lt_pow_right (by decide) (by omega)
    · exact List.forall_mem_cons.mpr ⟨hpair, ih ⟨hnext, by norm_num⟩ hlost⟩

lemma fits_pack (hlost : ∀ m ∈ lost, m < 256 ^ 2) : ∀ pair ∈ pack lost, Fits pair := by
  cases lost with
  | nil => exact fun pair hmem => absurd hmem List.not_mem_nil
  | cons pid lost =>
    obtain ⟨hpid, hlost⟩ := List.forall_mem_cons.mp hlost
    exact fits_packBehind ⟨hpid, by norm_num⟩ hlost

lemma mapM_pairBytes {pairs : List (ℕ × ℕ)} (hpairs : ∀ pair ∈ pairs, Fits pair) :
    (pairs.mapM fun pair => do
      let headPid ← Js.writeUInt16BE pair.1
      let blp ← Js.writeUInt16BE pair.2
      return headPid ++ blp) = some (pairs.map pairBytes) := by
  rw [OptionList.mapM_eq_some, List.forall₂_map_right_iff]
  refine List.forall₂_same.mpr fun pair hmem => ?_
  obtain ⟨hpid, hblp⟩ := hpairs pair hmem
  rw [Js.writeUInt16BE, Js.writeUInt16BE, Js.writeUIntBE_natCast hpid, Js.writeUIntBE_natCast hblp]
  rfl

lemma length_pairs (pairs : List (ℕ × ℕ)) : (pairs.map pairBytes).flatten.length = 4 * pairs.length := by
  induction pairs with
  | nil => rfl
  | cons pair pairs ih =>
    rw [List.map_cons, List.flatten_cons, List.length_append, ih, pairBytes, List.length_append,
      BigEndian.length_encode, BigEndian.length_encode, List.length_cons]
    omega

/-- **Reading pairs** that have been written. -/
lemma readPairs_flatten {pairs : List (ℕ × ℕ)} (hpairs : ∀ pair ∈ pairs, Fits pair) :
    readPairs (pairs.map pairBytes).flatten = some pairs := by
  induction pairs with
  | nil => rfl
  | cons pair pairs ih =>
    obtain ⟨⟨hpid, hblp⟩, hpairs⟩ := List.forall_mem_cons.mp hpairs
    have hdecodePid := BigEndian.decode_encode hpid
    have hdecodeBlp := BigEndian.decode_encode hblp
    rw [List.map_cons, List.flatten_cons, pairBytes]
    change (readPairs (pairs.map pairBytes).flatten).bind
      (fun later => some ((BigEndian.decode (BigEndian.encode 2 pair.1),
        BigEndian.decode (BigEndian.encode 2 pair.2)) :: later)) = _
    rw [ih hpairs, hdecodePid, hdecodeBlp]
    rfl

/-- What a NACK needs to be written: the sources are numbers of 32 bits, the lost numbers are numbers of
16 bits and different, and the header is that of a generic NACK. -/
structure Valid (n : GenericNack) : Prop where
  header : ∃ length, n.header = { type := RtcpTransportLayerFeedbackType, count := 1, length }
  senderSsrc : n.senderSsrc < 256 ^ 4
  mediaSourceSsrc : n.mediaSourceSsrc < 256 ^ 4
  lost : ∀ m ∈ n.lost, m < 2 ^ 16
  nodup : n.lost.Nodup

/-- The first two bytes of a generic NACK. -/
def firstBytes : Bytes := BigEndian.encode 1 0x81 ++ BigEndian.encode 1 205

lemma writeUInt8_first : Js.writeUInt8 (bitWriter 8 [(2, 0, 2), (1, 2, false.toNat), (5, 3, 1)] : ℕ) =
    some (BigEndian.encode 1 0x81) := by
  have hbits : bitWriter 8 [(2, 0, 2), (1, 2, false.toNat), (5, 3, 1)] = 0x81 := by decide
  rw [hbits]
  exact Js.writeUIntBE_natCast (by norm_num)

lemma writeUInt8_type : Js.writeUInt8 (RtcpTransportLayerFeedbackType : ℕ) =
    some (BigEndian.encode 1 205) :=
  Js.writeUIntBE_natCast (by norm_num [RtcpTransportLayerFeedbackType])

/-- The header of a generic NACK. -/
lemma serializeHeader_nack (length : ℕ) :
    RtcpHeader.serializeHeader { type := RtcpTransportLayerFeedbackType, count := 1, length } =
      (Js.writeUInt16BE length).map fun field => firstBytes ++ field :=
  RtcpHeader.serializeHeader_of_fields writeUInt8_first writeUInt8_type

/-- The body of a NACK. -/
def body (n : GenericNack) : Bytes := BigEndian.encode 4 n.senderSsrc ++
  BigEndian.encode 4 n.mediaSourceSsrc ++ ((pack n.lost).map pairBytes).flatten

lemma length_body (n : GenericNack) : n.body.length = 4 * (2 + (pack n.lost).length) := by
  rw [body, List.length_append, List.length_append, BigEndian.length_encode, BigEndian.length_encode,
    length_pairs]
  omega

variable {n : GenericNack}

/-- **Writing** a NACK: it fails if the length does not fit its field. -/
lemma Valid.serialize (h : n.Valid) : n.serialize =
    (Js.writeUInt16BE (2 + (pack n.lost).length : ℕ)).map fun field =>
      firstBytes ++ field ++ n.body := by
  obtain ⟨length, hheader⟩ := h.header
  have hwords : n.body.length / 4 = 2 + (pack n.lost).length := by
    rw [length_body]
    omega
  have hserialize : n.serialize =
      (RtcpHeader.serializeHeader { n.header with length := n.body.length / 4 }).bind
        fun header => some (header ++ n.body) := by
    rw [GenericNack.serialize, Js.writeUInt32BE, Js.writeUInt32BE, Js.writeUIntBE_natCast h.senderSsrc,
      Js.writeUIntBE_natCast h.mediaSourceSsrc, mapM_pairBytes (fits_pack h.lost)]
    simp only [Option.bind_eq_bind, Option.bind_some, Option.pure_def, body]
  rw [hserialize, hheader, hwords, serializeHeader_nack]
  cases Js.writeUInt16BE (2 + (pack n.lost).length : ℕ) <;> rfl

lemma firstBytes_eq : firstBytes = [0x81, 205] := by decide

lemma deSerialize_firstBytes {length : ℕ} (hlength : length < 256 ^ 2) :
    RtcpHeader.deSerialize (firstBytes ++ BigEndian.encode 2 length) =
      some { type := RtcpTransportLayerFeedbackType, count := 1, length } := by
  have hlong : ¬(firstBytes ++ BigEndian.encode 2 length).length < RTCP_HEADER_SIZE := by
    rw [List.length_append, BigEndian.length_encode, firstBytes_eq]
    decide
  have htype : readNat 1 (firstBytes ++ BigEndian.encode 2 length) 1 = RtcpTransportLayerFeedbackType := by
    rw [firstBytes_eq]
    rfl
  have htwo : firstBytes.length = 2 := by rw [firstBytes_eq]; rfl
  have hread := readNat_append firstBytes hlength htwo []
  rw [List.append_nil] at hread
  rw [RtcpHeader.deSerialize, if_neg hlong, htype, hread]
  have hfirst : (firstBytes ++ BigEndian.encode 2 length).getD 0 0 = 0x81 := by
    rw [firstBytes_eq]
    rfl
  rw [hfirst]
  rfl

/-- **Reading** the body of a NACK. -/
lemma Valid.deSerialize_body (h : n.Valid) (header : RtcpHeader) : deSerialize n.body header =
    some { n with header, lost := (pack n.lost).flatMap unpack } := by
  have hsender := Js.readUIntBE_append (Js.writeUIntBE_natCast h.senderSsrc) []
    (BigEndian.encode 4 n.mediaSourceSsrc ++ ((pack n.lost).map pairBytes).flatten)
  have hmedia := Js.readUIntBE_append (Js.writeUIntBE_natCast h.mediaSourceSsrc)
    (BigEndian.encode 4 n.senderSsrc) ((pack n.lost).map pairBytes).flatten
  have hrest : n.body.drop 8 = ((pack n.lost).map pairBytes).flatten := by
    have hlength : (BigEndian.encode 4 n.senderSsrc ++ BigEndian.encode 4 n.mediaSourceSsrc).length = 8 := by
      rw [List.length_append, BigEndian.length_encode, BigEndian.length_encode]
    rw [body, ← hlength, List.drop_left]
  rw [List.nil_append, ← List.append_assoc] at hsender
  rw [BigEndian.length_encode] at hmedia
  rw [deSerialize, hrest, readPairs_flatten (fits_pack h.lost)]
  simp only [Js.readUInt32BE, body, List.length_nil] at hsender hmedia ⊢
  rw [hsender, hmedia]
  rfl

/-- **Parsing** what has been written. -/
lemma Valid.parse (h : n.Valid) {field : Bytes}
    (hfield : Js.writeUInt16BE (2 + (pack n.lost).length : ℕ) = some field) :
    parse (firstBytes ++ field ++ n.body) = some { n with
      header := { type := RtcpTransportLayerFeedbackType, count := 1
                  length := 2 + (pack n.lost).length }
      lost := (pack n.lost).flatMap unpack } := by
  obtain ⟨⟨-, hlt⟩, rfl⟩ := Js.writeUIntBE_eq_some.mp hfield
  rw [Int.toNat_natCast]
  have hfit : 2 + (pack n.lost).length < 256 ^ 2 := by exact_mod_cast hlt
  have hlength : (firstBytes ++ BigEndian.encode 2 (2 + (pack n.lost).length)).length = RTCP_HEADER_SIZE := by
    rw [List.length_append, BigEndian.length_encode, firstBytes_eq]
    rfl
  have hslice : Js.slice (firstBytes ++ BigEndian.encode 2 (2 + (pack n.lost).length) ++ n.body)
      RTCP_HEADER_SIZE (RTCP_HEADER_SIZE + (2 + (pack n.lost).length) * 4) = n.body := by
    rw [Js.slice, ← hlength, List.drop_left, List.take_of_length_le]
    rw [length_body]
    omega
  rw [GenericNack.parse, ← hlength, List.take_left, deSerialize_firstBytes hfit]
  simp only [Option.bind_eq_bind, Option.bind_some, hlength, hslice, Bool.false_eq_true, false_and,
    if_false, and_self, guard_true, Option.pure_def]
  exact h.deSerialize_body _

/-- **What a list of lost numbers comes to** when it is written and read back. -/
def RoundTrips (n : GenericNack) : Prop :=
  ∃ bytes received, n.serialize = some bytes ∧ parse bytes = some received ∧
    received.senderSsrc = n.senderSsrc ∧ received.mediaSourceSsrc = n.mediaSourceSsrc ∧
      received.lost.Perm n.lost

/-- A NACK comes back unless its pairs are too many for the length in the header. -/
lemma Valid.roundTrip_iff_pack (h : n.Valid) : n.RoundTrips ↔ (pack n.lost).length ≤ 65533 := by
  constructor
  · rintro ⟨bytes, received, hserialize, -⟩
    rw [h.serialize] at hserialize
    obtain ⟨field, hfield, -⟩ := Option.map_eq_some_iff.mp hserialize
    have hlt := (Js.writeUIntBE_eq_some.mp hfield).1.2
    have hnat : 2 + (pack n.lost).length < 256 ^ 2 := by exact_mod_cast hlt
    omega
  · intro hlength
    have hfield := Js.writeUIntBE_natCast (k := 2) (n := 2 + (pack n.lost).length) (by omega)
    have hserialize := h.serialize
    rw [Js.writeUInt16BE, hfield] at hserialize
    exact ⟨_, _, hserialize, h.parse hfield, rfl, rfl, perm_unpack_pack h.nodup⟩

/-! ## Received pairs -/

lemma lt_of_mem_readPairs {data : Bytes} {pairs : List (ℕ × ℕ)} (h : readPairs data = some pairs) :
    ∀ pair ∈ pairs, pair.1 < 2 ^ 16 := by
  fun_induction readPairs data generalizing pairs with
  | case1 =>
    obtain rfl := Option.some.inj h
    exact fun pair hmem => absurd hmem List.not_mem_nil
  | case2 a b c d data ih =>
    obtain ⟨later, hlater, hpairs⟩ := Option.bind_eq_some_iff.mp h
    obtain rfl := Option.some.inj hpairs
    refine List.forall_mem_cons.mpr ⟨?_, ih hlater⟩
    exact (BigEndian.decode_lt [a, b]).trans_le (by norm_num)
  | case3 => exact absurd h (by rintro ⟨⟩)

/-- What is unpacked from a pair is what it names if no number runs over. -/
lemma unpack_eq_named (h : ∀ diff ∈ following pair.2, pair.1 + diff + 1 < 2 ^ 16) :
    unpack pair = named pair := by
  rw [unpack, named]
  congr 1
  exact List.map_congr_left fun diff hmem => (Nat.mod_eq_of_lt (h diff hmem)).symm

lemma lt_of_mem_named (hpair : pair.1 < 2 ^ 16) (hmem : m ∈ named pair) : m < 2 ^ 16 := by
  rcases List.mem_cons.mp hmem with rfl | hmem
  · exact hpair
  · obtain ⟨diff, -, rfl⟩ := List.mem_map.mp hmem
    exact Nat.mod_lt _ (by norm_num)

/-- The numbers unpacked from pairs are those that the pairs name iff no number runs over. -/
lemma mem_unpack_iff_named {pairs : List (ℕ × ℕ)} (hpairs : ∀ pair ∈ pairs, pair.1 < 2 ^ 16) :
    (∀ m, m ∈ pairs.flatMap unpack ↔ ∃ pair ∈ pairs, m ∈ named pair) ↔
      ∀ pair ∈ pairs, ∀ diff ∈ following pair.2, pair.1 + diff + 1 < 2 ^ 16 := by
  constructor
  · intro hsame pair hpair diff hdiff
    have hmem : pair.1 + diff + 1 ∈ pairs.flatMap unpack :=
      List.mem_flatMap.mpr ⟨pair, hpair, List.mem_cons_of_mem _ (List.mem_map_of_mem hdiff)⟩
    obtain ⟨other, hother, hnamed⟩ := (hsame _).mp hmem
    exact lt_of_mem_named (hpairs other hother) hnamed
  · intro hbound m
    rw [List.mem_flatMap]
    refine exists_congr fun pair => and_congr_right fun hpair => ?_
    rw [unpack_eq_named (hbound pair hpair)]

end GenericNack

end Werift.Rtcp
