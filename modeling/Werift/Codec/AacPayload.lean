import Werift.Codec.AacHbr

/-!
# Payloads of access units

What `buildAuPayload` builds is read back: the sizes of the access units, and the data behind them
(`deSerialize_auPayload`).  The packets of a list of access units are those of its groups
(`payloads_packetizeAccessUnits`).
-/

namespace Werift.Codec

open Rtp (Bytes RtpPacket)

/-! ## Headers -/

lemma indexLen_eq (isFirst : Bool) :
    (if isFirst then AAC_HBR_INDEX_LENGTH else AAC_HBR_INDEX_DELTA_LENGTH) = 3 := by
  cases isFirst <;> rfl

/-- The round of `buildAuPayload` for one access unit. -/
def writeHeader (acc : Bytes × ℕ) (au : Bytes) : Bytes × ℕ :=
  (BitBuffer.write acc.1 acc.2 13 au.length, acc.2 + 16)

lemma auHeaderSection_eq (fullAus : List Bytes) :
    auHeaderSection fullAus = (fullAus.foldl writeHeader (List.replicate (2 * fullAus.length) 0, 0)).1 := by
  have hbytes : (fullAus.length * AAC_HBR_AU_HEADER_BITS + 7) / 8 = 2 * fullAus.length := by
    rw [AAC_HBR_AU_HEADER_BITS, AAC_HBR_SIZE_LENGTH, AAC_HBR_INDEX_LENGTH]
    omega
  rw [auHeaderSection, hbytes]
  congr 2
  funext acc au
  dsimp only
  rw [writeHeader, indexLen_eq, BitBuffer.write_zero, AAC_HBR_SIZE_LENGTH]

/-- **The headers** of access units in front of zero bytes. -/
lemma foldl_writeHeader {m : ℕ} (aus : List Bytes) (hroom : 2 * aus.length ≤ m) :
    let headers := aus.foldl writeHeader (List.replicate m 0, 0)
    headers.2 = 16 * aus.length ∧ headers.1.length = m ∧
      (∀ j, 16 * aus.length ≤ j → BitBuffer.bit headers.1 j = false) ∧
      ∀ i au, aus[i]? = some au → BitBuffer.number (BitBuffer.bit headers.1) (16 * i) 13 = au.length % 2 ^ 13 ∧
        BitBuffer.number (BitBuffer.bit headers.1) (16 * i + 13) 3 = 0 := by
  induction aus using List.reverseRecOn with
  | nil =>
    refine ⟨rfl, List.length_replicate, fun j _ => BitBuffer.bit_replicate_zero m j, ?_⟩
    rintro i au ⟨⟩
  | append_singleton aus au ih =>
    rw [List.length_append, List.length_singleton] at hroom
    obtain ⟨hposition, hlength, hzero, hheaders⟩ := ih (by omega)
    rw [List.foldl_append, List.foldl_cons, List.foldl_nil, writeHeader]
    dsimp only at hposition hlength hzero hheaders ⊢
    rw [hposition]
    have hfits : 16 * aus.length + 13 ≤
        8 * (aus.foldl writeHeader (List.replicate m 0, 0)).1.length := by
      rw [hlength]
      omega
    have hbit : ∀ j, BitBuffer.bit (BitBuffer.write (aus.foldl writeHeader (List.replicate m 0, 0)).1
        (16 * aus.length) 13 au.length) j = _ := BitBuffer.bit_write hfits
    refine ⟨?_, ?_, fun j hj => ?_, fun i au' hi => ?_⟩
    · rw [List.length_append, List.length_singleton]
      omega
    · rw [BitBuffer.length_write hfits, hlength]
    · rw [List.length_append, List.length_singleton] at hj
      rw [hbit, hzero j (by omega), decide_eq_false (by omega)]
      rfl
    · rcases Nat.lt_or_ge i aus.length with hold | hnew
      · -- The headers in front of it stay.
        rw [List.getElem?_append_left hold] at hi
        obtain ⟨hsize, hindex⟩ := hheaders i au' hi
        refine ⟨Eq.trans (BitBuffer.number_congr fun k hk => ?_) hsize,
          Eq.trans (BitBuffer.number_congr fun k hk => ?_) hindex⟩
        · rw [hbit, decide_eq_false (by omega), Bool.false_and, Bool.or_false]
        · rw [hbit, decide_eq_false (by omega), Bool.false_and, Bool.or_false]
      · rw [List.getElem?_append_right hnew] at hi
        obtain ⟨rfl, rfl⟩ : i = aus.length ∧ au' = au := by
          rw [List.getElem?_singleton] at hi
          split_ifs at hi with hfirst
          exact ⟨by omega, (Option.some.inj hi).symm⟩
        constructor
        · rw [← BitBuffer.number_testBit (16 * aus.length)]
          refine BitBuffer.number_congr fun k hk => ?_
          rw [hbit, hzero _ (by omega), decide_eq_true (by omega), Bool.false_or, Bool.true_and]
        · refine BitBuffer.number_eq_zero fun k hk => ?_
          rw [hbit, hzero _ (by omega), decide_eq_false (by omega)]
          rfl

lemma length_auHeaderSection (aus : List Bytes) : (auHeaderSection aus).length = 2 * aus.length := by
  rw [auHeaderSection_eq]
  exact (foldl_writeHeader aus le_rfl).2.1

/-- Bits inside a buffer are read. -/
lemma readBits_eq {buf : Bytes} {bitPos length : ℕ} (h : bitPos + length ≤ 8 * buf.length) :
    readBits buf bitPos length = .ok (BitBuffer.number (BitBuffer.bit buf) bitPos length) := by
  induction length with
  | zero => rfl
  | succ length ih =>
    rw [readBits, ih (by omega), Except.ok_bind, if_neg (by omega), BitBuffer.number]

/-- The header that is read for an access unit. -/
def auHeader (au : Bytes) : AuHeader := { size := au.length, index := 0 }

lemma readHeaders_auHeaderSection {aus : List Bytes} (hsize : ∀ au ∈ aus, au.length ≤ 8191)
    (isFirst : Bool) {fuel i : ℕ} (hfuel : aus.length ≤ fuel + i) (hi : i ≤ aus.length) :
    readHeaders (auHeaderSection aus) (16 * aus.length) fuel isFirst (16 * i) =
      .ok ((aus.drop i).map auHeader, 16 * aus.length) := by
  induction fuel generalizing isFirst i with
  | zero =>
    obtain rfl : i = aus.length := by omega
    rw [readHeaders, List.drop_length]
    rfl
  | succ fuel ih =>
    have hbits : AAC_HBR_AU_HEADER_BITS = 16 := rfl
    rcases Nat.lt_or_ge i aus.length with hlt | hge
    · have hau := List.getElem?_eq_getElem hlt
      obtain ⟨hnumber, hindex⟩ := (foldl_writeHeader aus le_rfl).2.2.2 i _ hau
      rw [← auHeaderSection_eq] at hnumber hindex
      have hlength := length_auHeaderSection aus
      have hle := hsize _ (List.getElem_mem hlt)
      rw [Nat.mod_eq_of_lt (by omega)] at hnumber
      have hnext : 16 * i + 13 + 3 = 16 * (i + 1) := by omega
      rw [readHeaders, hbits, if_pos (by omega), indexLen_eq, AAC_HBR_SIZE_LENGTH]
      dsimp only
      rw [readBits_eq (by omega), Except.ok_bind, readBits_eq (by omega), Except.ok_bind, hnumber, hindex,
        hnext, ih false (by omega) hlt, List.drop_eq_getElem_cons hlt]
      rfl
    · obtain rfl : i = aus.length := by omega
      rw [readHeaders, hbits, if_neg (by omega), List.drop_length]
      rfl

/-- **The headers are read** as they have been written. -/
lemma parseAuHeaders_auHeaderSection {aus : List Bytes} (haus : aus ≠ [])
    (hsize : ∀ au ∈ aus, au.length ≤ 8191) :
    parseAuHeaders (auHeaderSection aus) (16 * aus.length) {} = .ok (aus.map auHeader, false) := by
  have hread : readHeaders (auHeaderSection aus) (16 * aus.length) (16 * aus.length) true (16 * 0) = _ :=
    readHeaders_auHeaderSection hsize true (by omega) (Nat.zero_le _)
  rw [Nat.mul_zero, List.drop_zero] at hread
  have hcons : aus.map auHeader ≠ [] := by
    rw [Ne, List.map_eq_nil_iff]
    exact haus
  rw [parseAuHeaders]
  dsimp only
  rw [if_neg Bool.false_ne_true, hread, Except.ok_bind]
  dsimp only
  rw [Nat.sub_self, if_neg (by decide), if_neg (by decide), Except.ok_bind]
  dsimp only
  rw [if_neg hcons]

/-! ## Payloads -/

/-- A payload of access units with a section of data. -/
def auPayload (aus : List Bytes) (data : Bytes) : Bytes :=
  BigEndian.encode 2 (16 * aus.length) ++ auHeaderSection aus ++ data

lemma buildAuPayload_eq_ok {aus : List Bytes} {dataOverride : Option Bytes} {payload : Bytes}
    (h : buildAuPayload aus dataOverride = .ok payload) :
    (∀ au ∈ aus, au.length ≤ 8191) ∧ 16 * aus.length < 65536 ∧
      payload = auPayload aus (dataOverride.getD aus.flatten) := by
  have hbits : aus.length * AAC_HBR_AU_HEADER_BITS = 16 * aus.length := Nat.mul_comm _ _
  rw [buildAuPayload, hbits] at h
  generalize hfind : aus.find? exceedsMaximum = found at h
  generalize hfield : Js.writeUInt16BE (16 * aus.length : ℕ) = field at h
  cases found with
  | some au => cases h
  | none =>
    cases field with
    | none => cases h
    | some lengthField =>
      obtain ⟨⟨-, hlt⟩, rfl⟩ := Js.writeUIntBE_eq_some.mp hfield
      have hcount : 16 * aus.length < 65536 := by
        norm_num at hlt
        omega
      refine ⟨fun au hau => ?_, hcount, (Except.ok.inj h).symm⟩
      exact not_lt.mp (of_decide_eq_false (Bool.eq_false_of_not_eq_true (List.find?_eq_none.mp hfind au hau)))

lemma buildAuPayload_of_fits {aus : List Bytes} (hsize : ∀ au ∈ aus, au.length ≤ 8191)
    (hcount : 16 * aus.length < 65536) (dataOverride : Option Bytes) :
    buildAuPayload aus dataOverride = .ok (auPayload aus (dataOverride.getD aus.flatten)) := by
  have hbits : aus.length * AAC_HBR_AU_HEADER_BITS = 16 * aus.length := Nat.mul_comm _ _
  rw [buildAuPayload, hbits]
  generalize hfind : aus.find? exceedsMaximum = found
  generalize hfield : Js.writeUInt16BE (16 * aus.length : ℕ) = field
  cases found with
  | some au =>
    have hlong := List.find?_some hfind
    exact absurd (of_decide_eq_true hlong) (not_lt.mpr (hsize au (List.mem_of_find?_eq_some hfind)))
  | none =>
    have hwrite : Js.writeUInt16BE (16 * aus.length : ℕ) = some (BigEndian.encode 2 (16 * aus.length)) := by
      refine Js.writeUIntBE_eq_some.mpr ⟨⟨Int.natCast_nonneg _, ?_⟩, rfl⟩
      norm_num
      omega
    rw [hwrite] at hfield
    subst hfield
    rfl

/-- **A payload is read back**: the headers, and then the data is looked at. -/
lemma deSerialize_auPayload {aus : List Bytes} (haus : aus ≠ []) (hsize : ∀ au ∈ aus, au.length ≤ 8191)
    (hcount : 16 * aus.length < 65536) (data : Bytes) (fragment : Option Bytes) :
    AacHbrRtpPayload.deSerialize (auPayload aus data) fragment {} =
      AacHbrRtpPayload.reassemble { auHeaders := aus.map auHeader } data fragment := by
  have hpos := List.length_pos_of_ne_nil haus
  have hheaders := length_auHeaderSection aus
  have hprefix : (BigEndian.encode 2 (16 * aus.length) ++ auHeaderSection aus).length =
      2 + 2 * aus.length := by
    rw [List.length_append, BigEndian.length_encode, hheaders]
  have hlength : (auPayload aus data).length = 2 + 2 * aus.length + data.length := by
    rw [auPayload, List.length_append, hprefix]
  have hbits : readNat 2 (auPayload aus data) 0 = 16 * aus.length := by
    rw [auPayload, List.append_assoc]
    exact readNat_append [] hcount rfl _
  have hend : (16 * aus.length + 7) / 8 = 2 * aus.length := by omega
  rw [AacHbrRtpPayload.deSerialize, hbits]
  dsimp only
  rw [hend, hlength, if_neg (by omega), if_neg (by omega), if_neg (by omega), if_neg (by omega)]
  have htake : ((auPayload aus data).take (2 + 2 * aus.length)).drop 2 = auHeaderSection aus := by
    rw [auPayload, List.take_left' hprefix, List.drop_left' (BigEndian.length_encode 2 _)]
  have hdrop : (auPayload aus data).drop (2 + 2 * aus.length) = data := by
    rw [auPayload, List.drop_left' hprefix]
  rw [htake, hdrop, parseAuHeaders_auHeaderSection haus hsize, Except.ok_bind]

/-! ## Groups -/

/-- An access unit that is too long for a packet. -/
def IsFragmented (maxPayloadSize : ℕ) (au : Bytes) : Prop := maxPayloadSize < 4 + au.length

instance (maxPayloadSize : ℕ) (au : Bytes) : Decidable (IsFragmented maxPayloadSize au) :=
  inferInstanceAs (Decidable (_ < _))

/-- The group that is sent at the end. -/
def closeGroup (group : List Bytes) : List (List Bytes) := if group = [] then [] else [group]

/-- The groups that are sent when an access unit comes, and the group that is open behind it. -/
def addUnit (maxPayloadSize : ℕ) (group : List Bytes) (au : Bytes) : List (List Bytes) × List Bytes :=
  if IsFragmented maxPayloadSize au then (closeGroup group ++ [[au]], [])
  else if group ≠ [] ∧ maxPayloadSize < AacHbrPacketizer.groupSize (group ++ [au]) then ([group], [au])
  else ([], group ++ [au])

/-- The groups in which access units are sent. -/
def auGroups (maxPayloadSize : ℕ) : List Bytes → List Bytes → List (List Bytes)
  | group, [] => closeGroup group
  | group, au :: aus =>
    (addUnit maxPayloadSize group au).1 ++ auGroups maxPayloadSize (addUnit maxPayloadSize group au).2 aus

/-- The sections of data of a group. -/
def dataSections (maxPayloadSize : ℕ) : List Bytes → List Bytes
  | [au] =>
    if IsFragmented maxPayloadSize au then
      (cutPayloads (maxPayloadSize - 4) (fun _ _ => []) true au).map Prod.fst
    else [au]
  | group => [group.flatten]

/-- The payloads of a group. -/
def groupPayloads (maxPayloadSize : ℕ) (group : List Bytes) : List Bytes :=
  (dataSections maxPayloadSize group).map (auPayload group)

/-- A group that can be sent: one access unit that is cut into pieces, or some that are not too long. -/
structure Sendable (maxPayloadSize : ℕ) (group : List Bytes) : Prop where
  nonempty : group ≠ []
  units : ∀ au ∈ group, au ≠ [] ∧ au.length ≤ 8191
  count : 16 * group.length < 65536
  sections : (∃ au, group = [au] ∧ IsFragmented maxPayloadSize au ∧ 4 < maxPayloadSize) ∨
    ∀ au ∈ group, ¬IsFragmented maxPayloadSize au

variable {maxPayloadSize : ℕ} {group aus : List Bytes} {au : Bytes}

lemma dataSections_of_not_fragmented (h : ∀ au ∈ group, ¬IsFragmented maxPayloadSize au) :
    dataSections maxPayloadSize group = [group.flatten] := by
  match group with
  | [] => rfl
  | [au] => rw [dataSections, if_neg (h au List.mem_cons_self), List.flatten_singleton]
  | _ :: _ :: _ => rfl

lemma flatten_closeGroup (group : List Bytes) : (closeGroup group).flatten = group := by
  rw [closeGroup]
  split_ifs with h
  · rw [h]
    rfl
  · exact List.flatten_singleton

/-- **The groups** are the access units in their order. -/
lemma flatten_auGroups (group aus : List Bytes) :
    (auGroups maxPayloadSize group aus).flatten = group ++ aus := by
  induction aus generalizing group with
  | nil => rw [auGroups, flatten_closeGroup, List.append_nil]
  | cons au aus ih =>
    rw [auGroups, List.flatten_append, ih, ← List.append_assoc, List.append_cons]
    congr 1
    rw [addUnit]
    split_ifs
    · rw [List.flatten_append, flatten_closeGroup]
      exact List.append_nil _
    · rw [List.flatten_singleton]
    · rfl

/-- The length of the access unit that a group cuts. -/
def fragmentedSize (maxPayloadSize : ℕ) : List Bytes → Option ℕ
  | [au] => if IsFragmented maxPayloadSize au then some au.length else none
  | _ => none

lemma fragmentedSize_eq_none (h : ∀ au ∈ group, ¬IsFragmented maxPayloadSize au) :
    fragmentedSize maxPayloadSize group = none := by
  match group with
  | [] => rfl
  | [au] => exact if_neg (h au List.mem_cons_self)
  | _ :: _ :: _ => rfl

lemma filterMap_closeGroup (h : ∀ au ∈ group, ¬IsFragmented maxPayloadSize au) :
    (closeGroup group).filterMap (fragmentedSize maxPayloadSize) = [] := by
  rw [closeGroup]
  split_ifs
  · rfl
  · rw [List.filterMap_cons_none (fragmentedSize_eq_none h), List.filterMap_nil]

/-- **The cut groups** are the access units that are too long. -/
lemma filterMap_auGroups (h : ∀ au ∈ group, ¬IsFragmented maxPayloadSize au) (aus : List Bytes) :
    (auGroups maxPayloadSize group aus).filterMap (fragmentedSize maxPayloadSize) =
      (aus.filter (IsFragmented maxPayloadSize ·)).map List.length := by
  induction aus generalizing group with
  | nil => exact filterMap_closeGroup h
  | cons au aus ih =>
    rw [auGroups, addUnit, List.filterMap_append]
    split_ifs with hfragmented hfull
    · have hfilter : (au :: aus).filter (fun au => decide (IsFragmented maxPayloadSize au)) =
          au :: aus.filter fun au => decide (IsFragmented maxPayloadSize au) :=
        List.filter_cons_of_pos (decide_eq_true hfragmented)
      have hsize : fragmentedSize maxPayloadSize [au] = some au.length := if_pos hfragmented
      rw [List.filterMap_append, filterMap_closeGroup h, ih fun _ hmem => absurd hmem List.not_mem_nil,
        hfilter, List.filterMap_cons_some hsize]
      rfl
    · rw [List.filterMap_cons_none (fragmentedSize_eq_none h), ih (List.forall_mem_singleton.mpr hfragmented),
        List.filter_cons_of_neg (by simpa using hfragmented)]
      rfl
    · have hopen : ∀ au' ∈ group ++ [au], ¬IsFragmented maxPayloadSize au' :=
        List.forall_mem_append.mpr ⟨h, List.forall_mem_singleton.mpr hfragmented⟩
      rw [ih hopen, List.filter_cons_of_neg (by simpa using hfragmented)]
      rfl

/-! ## Packets -/

namespace AacHbrPacketizer

/-- **What a step sends**: the payloads of some groups. -/
structure Sends (s s' : Grouping) (groups : List (List Bytes)) : Prop where
  payloads : s'.packets.map RtpPacket.payload = s.packets.map RtpPacket.payload ++
    groups.flatMap (groupPayloads s.p.maxPayloadSize)
  maxPayloadSize : s'.p.maxPayloadSize = s.p.maxPayloadSize
  sendable : ∀ g ∈ groups, Sendable s.p.maxPayloadSize g

/-- The open group has access units that are not empty and not too long. -/
def Grouping.Open (s : Grouping) : Prop :=
  ∀ au ∈ s.group, au ≠ [] ∧ ¬IsFragmented s.p.maxPayloadSize au

variable {s s' s'' : Grouping} {groups groups' : List (List Bytes)} {rtpTimestamp timestamp i : ℕ}

lemma Sends.refl (s : Grouping) : Sends s s [] := by
  refine ⟨?_, rfl, fun _ h => absurd h List.not_mem_nil⟩
  rw [List.flatMap_nil, List.append_nil]

lemma Sends.trans (h : Sends s s' groups) (h' : Sends s' s'' groups') : Sends s s'' (groups ++ groups') := by
  refine ⟨?_, h'.maxPayloadSize.trans h.maxPayloadSize, List.forall_mem_append.mpr ⟨h.sendable, ?_⟩⟩
  · rw [h'.payloads, h.payloads, h.maxPayloadSize, List.flatMap_append, List.append_assoc]
  · rw [← h.maxPayloadSize]
    exact h'.sendable

lemma push_payloads (s : Grouping) (timestamp : ℕ) (payload : Bytes) (marker : Bool) :
    (s.push timestamp payload marker).packets.map RtpPacket.payload =
      s.packets.map RtpPacket.payload ++ [payload] := by
  rw [Grouping.push, List.map_append]
  rfl

lemma sends_flush (hopen : s.Open) (h : s.flush rtpTimestamp = .ok s') :
    Sends s s' (closeGroup s.group) ∧ s'.group = [] := by
  rw [Grouping.flush] at h
  by_cases hempty : s.group = []
  · rw [if_pos hempty] at h
    cases h
    rw [closeGroup, if_pos hempty]
    exact ⟨.refl _, hempty⟩
  · rw [if_neg hempty] at h
    obtain ⟨payload, hpayload, h⟩ := Except.bind_eq_ok.mp h
    obtain ⟨hsize, hcount, rfl⟩ := buildAuPayload_eq_ok hpayload
    cases h
    have hwhole : ∀ au ∈ s.group, ¬IsFragmented s.p.maxPayloadSize au := fun au hau => (hopen au hau).2
    rw [closeGroup, if_neg hempty]
    refine ⟨⟨?_, rfl, List.forall_mem_singleton.mpr ?_⟩, rfl⟩
    · rw [List.flatMap_singleton, groupPayloads, dataSections_of_not_fragmented hwhole]
      exact push_payloads _ _ _ _
    · exact ⟨hempty, fun au hau => ⟨(hopen au hau).1, hsize au hau⟩, hcount, .inr hwhole⟩

/-- The packets of the pieces of an access unit. -/
lemma foldlM_pieces {pieces : List (Bytes × Bool)}
    (h : pieces.foldlM (fun s chunk => do
      let payload ← buildAuPayload [au] (some chunk.1)
      .ok (s.push timestamp payload chunk.2)) s = .ok s') :
    s'.packets.map RtpPacket.payload =
        s.packets.map RtpPacket.payload ++ (pieces.map Prod.fst).map (auPayload [au]) ∧
      s'.p.maxPayloadSize = s.p.maxPayloadSize ∧ s'.group = s.group ∧
      (pieces ≠ [] → au.length ≤ 8191) := by
  induction pieces generalizing s with
  | nil =>
    cases h
    exact ⟨(List.append_nil _).symm, rfl, rfl, fun h => absurd rfl h⟩
  | cons piece pieces ih =>
    rw [List.foldlM_cons] at h
    obtain ⟨next, hfirst, h⟩ := Except.bind_eq_ok.mp h
    obtain ⟨payload, hpayload, hfirst⟩ := Except.bind_eq_ok.mp hfirst
    obtain ⟨hsize, -, rfl⟩ := buildAuPayload_eq_ok hpayload
    cases hfirst
    obtain ⟨hpayloads, hmax, hgroup, -⟩ := ih h
    refine ⟨?_, hmax, hgroup, fun _ => hsize au List.mem_cons_self⟩
    rw [hpayloads, push_payloads, List.map_cons, List.map_cons, List.append_assoc]
    rfl

lemma sends_fragmentAu (hau : au ≠ []) (hfragmented : IsFragmented s.p.maxPayloadSize au)
    (h : s.fragmentAu au timestamp = .ok s') : Sends s s' [[au]] ∧ s'.group = s.group := by
  rw [Grouping.fragmentAu] at h
  split_ifs at h with hsmall
  obtain ⟨hpayloads, hmax, hgroup, hsize⟩ := foldlM_pieces h
  have hpieces : cutPayloads (s.p.maxPayloadSize - 4) (fun _ _ => []) true au ≠ [] := by
    rw [cutPayloads_of_ne_nil (Nat.pos_of_ne_zero hsmall) hau]
    exact List.cons_ne_nil _ _
  refine ⟨⟨?_, hmax, List.forall_mem_singleton.mpr ?_⟩, hgroup⟩
  · rw [List.flatMap_singleton, groupPayloads, dataSections, if_pos hfragmented]
    exact hpayloads
  · refine ⟨List.cons_ne_nil _ _, List.forall_mem_singleton.mpr ⟨hau, hsize hpieces⟩, ?_,
      .inl ⟨au, rfl, hfragmented, by omega⟩⟩
    rw [List.length_singleton]
    norm_num

/-- `groupSize([au])`. -/
lemma groupSize_singleton (au : Bytes) : groupSize [au] = 4 + au.length := by
  rw [groupSize, AAC_HBR_AU_HEADER_BITS, AAC_HBR_SIZE_LENGTH, AAC_HBR_INDEX_LENGTH, List.map_singleton,
    List.sum_singleton, List.length_singleton]

/-- **One access unit** sends what `addUnit` says. -/
lemma sends_add (hopen : s.Open) (h : s.add rtpTimestamp i au = .ok s') :
    Sends s s' (addUnit s.p.maxPayloadSize s.group au).1 ∧
      s'.group = (addUnit s.p.maxPayloadSize s.group au).2 ∧ s'.Open := by
  rw [Grouping.add, groupSize_singleton] at h
  by_cases hempty : au.length = 0
  · rw [if_pos hempty] at h
    cases h
  rw [if_neg hempty] at h
  have hau : au ≠ [] := fun hnil => hempty (hnil ▸ rfl)
  by_cases hfragmented : IsFragmented s.p.maxPayloadSize au
  · have hlong : s.p.maxPayloadSize < 4 + au.length := hfragmented
    rw [if_pos hlong] at h
    obtain ⟨next, hflush, h⟩ := Except.bind_eq_ok.mp h
    obtain ⟨hsends, hgroup⟩ := sends_flush hopen hflush
    obtain ⟨hsends', hgroup'⟩ := sends_fragmentAu hau (hsends.maxPayloadSize.symm ▸ hfragmented) h
    rw [addUnit, if_pos hfragmented]
    refine ⟨hsends.trans hsends', hgroup'.trans hgroup, ?_⟩
    rw [Grouping.Open, hgroup', hgroup]
    exact fun _ hmem => absurd hmem List.not_mem_nil
  · have hshort : ¬s.p.maxPayloadSize < 4 + au.length := hfragmented
    rw [if_neg hshort] at h
    rw [addUnit, if_neg hfragmented]
    by_cases hfull : s.group ≠ [] ∧ s.p.maxPayloadSize < groupSize (s.group ++ [au])
    · rw [if_pos hfull] at h ⊢
      obtain ⟨next, hflush, h⟩ := Except.bind_eq_ok.mp h
      cases h
      obtain ⟨hsends, hgroup⟩ := sends_flush hopen hflush
      have hmax := hsends.maxPayloadSize
      rw [closeGroup, if_neg hfull.1] at hsends
      refine ⟨⟨hsends.payloads, hmax, hsends.sendable⟩, ?_, ?_⟩
      · rw [hgroup]
        rfl
      · intro au' hmem
        rw [hgroup, List.nil_append, List.mem_singleton] at hmem
        rw [hmem]
        exact ⟨hau, hmax.symm ▸ hfragmented⟩
    · rw [if_neg hfull] at h ⊢
      cases h
      have hsame := Sends.refl s
      refine ⟨⟨hsame.payloads, rfl, hsame.sendable⟩, rfl, ?_⟩
      exact List.forall_mem_append.mpr ⟨hopen, List.forall_mem_singleton.mpr ⟨hau, hfragmented⟩⟩

/-- **The loop and the flush behind it** send the groups. -/
lemma sends_addAll (hopen : s.Open) (h : (Grouping.addAll rtpTimestamp i s aus >>= fun s =>
    s.flush rtpTimestamp) = .ok s') : Sends s s' (auGroups s.p.maxPayloadSize s.group aus) := by
  induction aus generalizing s i with
  | nil => exact (sends_flush hopen h).1
  | cons au aus ih =>
    rw [Grouping.addAll, bind_assoc] at h
    obtain ⟨next, hnext, h⟩ := Except.bind_eq_ok.mp h
    obtain ⟨hsends, hgroup, hopen'⟩ := sends_add hopen hnext
    have hlater := ih hopen' h
    rw [hsends.maxPayloadSize, hgroup] at hlater
    exact hsends.trans hlater

/-- **The payloads of the packets** are those of the groups. -/
lemma payloads_packetizeAccessUnits {p p' : AacHbrPacketizer} {packets : List RtpPacket}
    (h : p.packetizeAccessUnits aus rtpTimestamp = .ok (packets, p')) :
    packets.map RtpPacket.payload =
        (auGroups p.maxPayloadSize [] aus).flatMap (groupPayloads p.maxPayloadSize) ∧
      ∀ g ∈ auGroups p.maxPayloadSize [] aus, Sendable p.maxPayloadSize g := by
  rw [packetizeAccessUnits, ← bind_assoc] at h
  obtain ⟨s', hs', h⟩ := Except.bind_eq_ok.mp h
  cases h
  have hopen : ({ p } : Grouping).Open := fun _ hmem => absurd hmem List.not_mem_nil
  have hsends := sends_addAll hopen hs'
  exact ⟨hsends.payloads, hsends.sendable⟩

lemma exists_flush (h : ∀ g ∈ closeGroup s.group, Sendable s.p.maxPayloadSize g) (rtpTimestamp : ℕ) :
    ∃ s', s.flush rtpTimestamp = .ok s' := by
  rw [Grouping.flush]
  by_cases hempty : s.group = []
  · rw [if_pos hempty]
    exact ⟨_, rfl⟩
  · rw [closeGroup, if_neg hempty, List.forall_mem_singleton] at h
    rw [if_neg hempty, buildAuPayload_of_fits (fun au hau => (h.units au hau).2) h.count, Except.ok_bind]
    exact ⟨_, rfl⟩

lemma exists_fragmentAu (h : Sendable s.p.maxPayloadSize [au]) (hfragmented : IsFragmented s.p.maxPayloadSize au)
    (timestamp : ℕ) : ∃ s', s.fragmentAu au timestamp = .ok s' := by
  have hmax : ¬s.p.maxPayloadSize - 4 = 0 := by
    rcases h.sections with ⟨-, -, -, hmax⟩ | hwhole
    · omega
    · exact absurd hfragmented (hwhole au List.mem_cons_self)
  have hpieces : ∀ (pieces : List (Bytes × Bool)) (s : Grouping), ∃ s', pieces.foldlM (fun s chunk => do
      let payload ← buildAuPayload [au] (some chunk.1)
      .ok (s.push timestamp payload chunk.2)) s = Except.ok (ε := String) s' := by
    intro pieces
    induction pieces with
    | nil => exact fun s => ⟨s, rfl⟩
    | cons piece pieces ih =>
      intro s
      rw [List.foldlM_cons, buildAuPayload_of_fits (fun au hau => (h.units au hau).2) h.count, Except.ok_bind,
        Except.ok_bind]
      exact ih _
  rw [Grouping.fragmentAu, if_neg hmax]
  exact hpieces _ _

lemma exists_addAll (hopen : s.Open) (h : ∀ g ∈ auGroups s.p.maxPayloadSize s.group aus,
    Sendable s.p.maxPayloadSize g) (rtpTimestamp i : ℕ) :
    ∃ s', (Grouping.addAll rtpTimestamp i s aus >>= fun s => s.flush rtpTimestamp) = .ok s' := by
  induction aus generalizing s i with
  | nil => exact exists_flush h rtpTimestamp
  | cons au aus ih =>
    have hau : au ≠ [] := by
      have hmem : au ∈ (auGroups s.p.maxPayloadSize s.group (au :: aus)).flatten := by
        rw [flatten_auGroups]
        exact List.mem_append_right _ List.mem_cons_self
      obtain ⟨g, hg, hau⟩ := List.mem_flatten.mp hmem
      exact ((h g hg).units au hau).1
    rw [auGroups, List.forall_mem_append] at h
    obtain ⟨next, hnext⟩ : ∃ next, s.add rtpTimestamp i au = .ok next := by
      have hfirst := h.1
      rw [addUnit] at hfirst
      rw [Grouping.add, groupSize_singleton, if_neg fun hzero => hau (List.length_eq_zero_iff.mp hzero)]
      by_cases hfragmented : IsFragmented s.p.maxPayloadSize au
      · have hlong : s.p.maxPayloadSize < 4 + au.length := hfragmented
        rw [if_pos hfragmented, List.forall_mem_append, List.forall_mem_singleton] at hfirst
        obtain ⟨closed, hclosed⟩ := exists_flush hfirst.1 rtpTimestamp
        have hmax := (sends_flush hopen hclosed).1.maxPayloadSize
        rw [if_pos hlong, hclosed, Except.ok_bind]
        exact exists_fragmentAu (hmax.symm ▸ hfirst.2) (hmax.symm ▸ hfragmented) _
      · have hshort : ¬s.p.maxPayloadSize < 4 + au.length := hfragmented
        rw [if_neg hfragmented] at hfirst
        rw [if_neg hshort]
        by_cases hfull : s.group ≠ [] ∧ s.p.maxPayloadSize < groupSize (s.group ++ [au])
        · rw [if_pos hfull] at hfirst ⊢
          have hclose : closeGroup s.group = [s.group] := if_neg hfull.1
          obtain ⟨closed, hclosed⟩ := exists_flush (hclose ▸ hfirst) rtpTimestamp
          rw [hclosed, Except.ok_bind]
          exact ⟨_, rfl⟩
        · rw [if_neg hfull]
          exact ⟨_, rfl⟩
    obtain ⟨hsends, hgroup, hopen'⟩ := sends_add hopen hnext
    rw [Grouping.addAll, bind_assoc, hnext, Except.ok_bind]
    refine ih hopen' ?_ (i + 1)
    rw [hsends.maxPayloadSize, hgroup]
    exact h.2

/-- **The packetizer accepts** the access units whose groups can be sent. -/
lemma isOk_packetizeAccessUnits (p : AacHbrPacketizer) (aus : List Bytes) (rtpTimestamp : ℕ) :
    (∃ sent, p.packetizeAccessUnits aus rtpTimestamp = .ok sent) ↔
      ∀ g ∈ auGroups p.maxPayloadSize [] aus, Sendable p.maxPayloadSize g := by
  constructor
  · rintro ⟨⟨packets, p'⟩, h⟩
    exact (payloads_packetizeAccessUnits h).2
  · intro h
    have hopen : ({ p } : Grouping).Open := fun _ hmem => absurd hmem List.not_mem_nil
    obtain ⟨s', hs'⟩ := exists_addAll hopen h rtpTimestamp 0
    rw [packetizeAccessUnits, ← bind_assoc, hs', Except.ok_bind]
    exact ⟨_, rfl⟩

end AacHbrPacketizer

end Werift.Codec
