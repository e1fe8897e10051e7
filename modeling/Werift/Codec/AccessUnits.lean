import Werift.Codec.AacPayload
import Werift.Codec.Depacketize

/-!
# Access units that arrive

Packets are read one after the other, with the fragments that are pending.  If all packets arrive, the access
units come back.  If some are lost, the end of an access unit is taken for the end of another one of the same
size, so that a completed payload may be put together from two access units (`accessUnits_iff`).
-/

namespace Werift.Codec

open Rtp (Bytes RtpPacket)

/-- Packets are read one after the other: what is read, and the fragments that are left. -/
def readPackets : Option Bytes → List Bytes → Except String (List AacHbrRtpPayload × Option Bytes)
  | frameFragmentBuffer, [] => .ok ([], frameFragmentBuffer)
  | frameFragmentBuffer, payload :: payloads => do
    let codec ← AacHbrRtpPayload.deSerialize payload frameFragmentBuffer {}
    let frameFragmentBuffer :=
      if codec.fragment.isSome then codec.fragment
      else if codec.payload.isSome then none
      else frameFragmentBuffer
    let (partitions, frameFragmentBuffer) ← readPackets frameFragmentBuffer payloads
    .ok (codec :: partitions, frameFragmentBuffer)

/-- This is what `dePacketizeRtpPackets` does with them. -/
lemma parsePartitions_eq_readPackets (frameFragmentBuffer : Option Bytes) (packets : List RtpPacket) :
    parsePartitions AacHbrRtpPayload.class frameFragmentBuffer packets =
      (readPackets frameFragmentBuffer (packets.map RtpPacket.payload)).map fun r =>
        (r.1.map fun p => { payload := p.payload, fragment := p.fragment }, r.2) := by
  induction packets generalizing frameFragmentBuffer with
  | nil => rfl
  | cons p packets ih =>
    rw [parsePartitions, List.map_cons, readPackets, AacHbrRtpPayload.class]
    cases AacHbrRtpPayload.deSerialize p.payload frameFragmentBuffer {} with
    | error e => rfl
    | ok codec =>
      rw [Except.ok_bind, Except.map, Except.ok_bind]
      dsimp only
      rw [ih]
      cases readPackets (if codec.fragment.isSome = true then codec.fragment
        else if codec.payload.isSome = true then none else frameFragmentBuffer)
        (packets.map RtpPacket.payload) <;> rfl

/-! ## What a payload is made of -/

/-- The access units of what has been read: its payload, split at the sizes in the headers. -/
def AacHbrRtpPayload.units (p : AacHbrRtpPayload) : List Bytes :=
  match p.payload with
  | none => []
  | some payload => slices (p.auHeaders.map AuHeader.size) payload

/-- The completed payloads, each with the groups that its packets are from. -/
def assembled : List ℕ → List (ℕ × AacHbrRtpPayload) → List (AacHbrRtpPayload × List ℕ)
  | _, [] => []
  | parts, (k, p) :: rest =>
    let parts := if p.isContinuationFragment then parts ++ [k] else [k]
    if p.payload.isSome then (p, parts) :: assembled [] rest else assembled parts rest

/-- The groups that the pending fragments are from. -/
def partsAfter : List ℕ → List (ℕ × AacHbrRtpPayload) → List ℕ
  | parts, [] => parts
  | parts, (k, p) :: rest =>
    let parts := if p.isContinuationFragment then parts ++ [k] else [k]
    if p.payload.isSome then partsAfter [] rest else partsAfter parts rest

lemma assembled_append (parts : List ℕ) (first rest : List (ℕ × AacHbrRtpPayload)) :
    assembled parts (first ++ rest) = assembled parts first ++ assembled (partsAfter parts first) rest := by
  induction first generalizing parts with
  | nil => rfl
  | cons x first ih =>
    rw [List.cons_append, assembled, assembled, partsAfter]
    split_ifs <;> rw [ih] <;> rfl

/-- Groups with numbers. -/
abbrev NumberedGroups := List (List Bytes × ℕ)

/-- The payloads of the groups, each with the number of its group. -/
def numberedPayloads (maxPayloadSize : ℕ) (groups : NumberedGroups) : List (ℕ × Bytes) :=
  groups.flatMap fun g => (groupPayloads maxPayloadSize g.1).map (Prod.mk g.2)

/-- **Access units are kept**: from all packets they come back, and from some of the packets, in their order,
every completed payload is a group of access units, and all its packets are from this group. -/
structure UnitsKept (maxPayloadSize : ℕ) (groups : NumberedGroups) : Prop where
  all : ∃ partitions frameFragmentBuffer, readPackets none ((numberedPayloads maxPayloadSize groups).map Prod.snd) =
    .ok (partitions, frameFragmentBuffer) ∧
      partitions.flatMap AacHbrRtpPayload.units = (groups.map Prod.fst).flatten
  some : ∀ arrived : List (ℕ × Bytes), arrived.Sublist (numberedPayloads maxPayloadSize groups) →
    ∃ partitions frameFragmentBuffer, readPackets none (arrived.map Prod.snd) =
      .ok (partitions, frameFragmentBuffer) ∧
      ∀ x ∈ assembled [] ((arrived.map Prod.fst).zip partitions),
        ∃ g ∈ groups, x.1.units = g.1 ∧ ∀ k ∈ x.2, k = g.2

variable {maxPayloadSize : ℕ} {groups : NumberedGroups} {au : Bytes} {group : List Bytes}

/-! ## Runs -/

/-- A run: the numbered payloads `arrived` are read from the state in front of it to the one behind it, and
`completed` are the completed payloads.  A state is the pending fragments and the groups that they are from. -/
structure Reads (before : Option Bytes × List ℕ) (arrived : List (ℕ × Bytes))
    (completed : List (AacHbrRtpPayload × List ℕ)) (partitions : List AacHbrRtpPayload)
    (after : Option Bytes × List ℕ) : Prop where
  read : readPackets before.1 (arrived.map Prod.snd) = .ok (partitions, after.1)
  completed : assembled before.2 ((arrived.map Prod.fst).zip partitions) = completed
  parts : partsAfter before.2 ((arrived.map Prod.fst).zip partitions) = after.2
  length : partitions.length = arrived.length

variable {before middle after : Option Bytes × List ℕ} {arrived arrived' : List (ℕ × Bytes)}
  {completed completed' : List (AacHbrRtpPayload × List ℕ)} {partitions partitions' : List AacHbrRtpPayload}

lemma Reads.refl (before : Option Bytes × List ℕ) : Reads before [] [] [] before := ⟨rfl, rfl, rfl, rfl⟩

lemma readPackets_append {frameFragmentBuffer frameFragmentBuffer' : Option Bytes} {payloads payloads' : List Bytes}
    (h : readPackets frameFragmentBuffer payloads = .ok (partitions, frameFragmentBuffer')) :
    readPackets frameFragmentBuffer (payloads ++ payloads') =
      (readPackets frameFragmentBuffer' payloads').map fun r => (partitions ++ r.1, r.2) := by
  induction payloads generalizing frameFragmentBuffer partitions with
  | nil =>
    cases h
    rw [List.nil_append]
    cases readPackets frameFragmentBuffer' payloads' <;> rfl
  | cons payload payloads ih =>
    obtain ⟨codec, hcodec, h⟩ := Except.bind_eq_ok.mp h
    obtain ⟨⟨rest, buffer⟩, hrest, h⟩ := Except.bind_eq_ok.mp h
    cases h
    rw [List.cons_append, readPackets, hcodec, Except.ok_bind]
    dsimp only
    rw [ih hrest]
    cases readPackets frameFragmentBuffer' payloads' <;> rfl

/-- **Runs one behind the other**. -/
lemma Reads.trans (h : Reads before arrived completed partitions middle)
    (h' : Reads middle arrived' completed' partitions' after) :
    Reads before (arrived ++ arrived') (completed ++ completed') (partitions ++ partitions') after := by
  have hzip : ((arrived ++ arrived').map Prod.fst).zip (partitions ++ partitions') =
      (arrived.map Prod.fst).zip partitions ++ (arrived'.map Prod.fst).zip partitions' := by
    rw [List.map_append, List.zip_append (by rw [List.length_map, h.length])]
  refine ⟨?_, ?_, ?_, ?_⟩
  · rw [List.map_append, readPackets_append h.read, h'.read]
    rfl
  · rw [hzip, assembled_append, h.completed, h.parts, h'.completed]
  · rw [hzip]
    have happend : ∀ parts first rest, partsAfter parts (first ++ rest) =
        partsAfter (partsAfter parts first) rest := by
      intro parts first rest
      induction first generalizing parts with
      | nil => rfl
      | cons x first ih =>
        rw [List.cons_append, partsAfter, partsAfter]
        split_ifs <;> exact ih _
    rw [happend, h.parts, h'.parts]
  · rw [List.length_append, List.length_append, h.length, h'.length]

/-- One packet that completes a payload. -/
lemma reads_payload {k : ℕ} {payload : Bytes} {p : AacHbrRtpPayload} {parts : List ℕ}
    (h : AacHbrRtpPayload.deSerialize payload before.1 {} = .ok p) (hfragment : p.fragment = none)
    (hpayload : p.payload.isSome = true)
    (hparts : (if p.isContinuationFragment then before.2 ++ [k] else [k]) = parts) :
    Reads before [(k, payload)] [(p, parts)] [p] (none, []) := by
  refine ⟨?_, ?_, ?_, rfl⟩
  · rw [List.map_singleton, readPackets, h, Except.ok_bind, hfragment]
    dsimp only [Option.isSome_none]
    rw [if_neg Bool.false_ne_true, if_pos hpayload]
    rfl
  · change assembled before.2 [(k, p)] = _
    rw [assembled, if_pos hpayload, hparts]
    rfl
  · change partsAfter before.2 [(k, p)] = _
    rw [partsAfter, if_pos hpayload]
    rfl

/-- One packet that leaves fragments. -/
lemma reads_fragment {k : ℕ} {payload fragment : Bytes} {p : AacHbrRtpPayload} {parts : List ℕ}
    (h : AacHbrRtpPayload.deSerialize payload before.1 {} = .ok p) (hfragment : p.fragment = some fragment)
    (hpayload : p.payload = none)
    (hparts : (if p.isContinuationFragment then before.2 ++ [k] else [k]) = parts) :
    Reads before [(k, payload)] [] [p] (some fragment, parts) := by
  have hnone : ¬p.payload.isSome = true := by
    rw [hpayload]
    exact Bool.false_ne_true
  refine ⟨?_, ?_, ?_, rfl⟩
  · rw [List.map_singleton, readPackets, h, Except.ok_bind, hfragment]
    rfl
  · change assembled before.2 [(k, p)] = _
    rw [assembled, if_neg hnone]
    rfl
  · change partsAfter before.2 [(k, p)] = _
    rw [partsAfter, if_neg hnone, hparts]
    rfl

/-! ## Pending fragments -/

open AacHbrRtpPayload

lemma pending_packFragment {n : ℕ} (hn : n ≤ 8191) (acc : Bytes) :
    pending (some (packFragment n acc)) = some (n, acc) := by
  have hlength : FRAG_SIZE_PREFIX ≤ (packFragment n acc).length := by
    rw [packFragment, List.length_append, BigEndian.length_encode]
    exact Nat.le_add_right _ _
  have hread : readNat FRAG_SIZE_PREFIX (packFragment n acc) 0 = n :=
    readNat_append [] (hn.trans_lt (by decide)) rfl acc
  have hdrop : (packFragment n acc).drop FRAG_SIZE_PREFIX = acc :=
    List.drop_left' (BigEndian.length_encode _ _)
  rw [pending, Option.bind_some, if_pos hlength, hread, hdrop]

/-- The pending fragments are not those of this group. -/
def Foreign (fragment : Option Bytes) (group : List Bytes) : Prop :=
  ∀ n acc, pending fragment = some (n, acc) → ∀ au, group = [au] → au.length ≠ n

/-- A packet that does not continue anything. -/
lemma reassemble_of_foreign {fragment : Option Bytes} (h : Foreign fragment group) (data : Bytes) :
    reassemble { auHeaders := group.map auHeader } data fragment =
      readData { auHeaders := group.map auHeader } data := by
  rw [reassemble]
  cases hpending : pending fragment with
  | none => rfl
  | some x =>
    obtain ⟨n, acc⟩ := x
    dsimp only
    refine if_neg ?_
    rintro ⟨hlength, hhead, -, -⟩
    rw [List.length_map] at hlength
    obtain ⟨au, rfl⟩ := List.length_eq_one_iff.mp hlength
    exact h n acc hpending au rfl (Option.some.inj hhead)

lemma slices_flatten (group : List Bytes) : slices (group.map List.length) group.flatten = group := by
  induction group with
  | nil => rfl
  | cons au group ih => rw [List.map_cons, List.flatten_cons, slices, List.take_left, List.drop_left, ih]

lemma map_size_auHeader (group : List Bytes) : (group.map auHeader).map AuHeader.size = group.map List.length := by
  rw [List.map_map]
  rfl

/-- **A packet with whole access units**. -/
lemma deSerialize_whole (hsendable : Sendable maxPayloadSize group) {fragment : Option Bytes}
    (hforeign : Foreign fragment group) : deSerialize (auPayload group group.flatten) fragment {} =
      .ok { auHeaders := group.map auHeader, payload := some group.flatten } := by
  rw [deSerialize_auPayload hsendable.nonempty (fun au hau => (hsendable.units au hau).2) hsendable.count,
    reassemble_of_foreign hforeign, readData]
  dsimp only
  rw [map_size_auHeader, ← List.length_flatten, slices_flatten,
    if_neg (fun h => absurd h.2 (lt_irrefl _)), if_neg (lt_irrefl _), if_neg (lt_irrefl _)]

/-- **The first fragment** of an access unit. -/
lemma deSerialize_first (hsize : au.length ≤ 8191) {fragment : Option Bytes} (hforeign : Foreign fragment [au])
    {piece : Bytes} (hpos : piece ≠ []) (hshort : piece.length < au.length) :
    deSerialize (auPayload [au] piece) fragment {} =
      .ok { auHeaders := [auHeader au], fragment := some (packFragment au.length piece) } := by
  have hne : ¬piece.length = 0 := fun h => hpos (List.length_eq_zero_iff.mp h)
  rw [deSerialize_auPayload (List.cons_ne_nil _ _) (List.forall_mem_singleton.mpr hsize) (by norm_num),
    reassemble_of_foreign hforeign, readData]
  dsimp only
  rw [map_size_auHeader, List.map_singleton, List.map_singleton, List.sum_singleton, List.length_singleton,
    if_pos ⟨rfl, hshort⟩, if_neg hne]

/-- **A later fragment**. -/
lemma deSerialize_later (hsize : au.length ≤ 8191) {acc piece : Bytes} (hpos : piece ≠ [])
    (hfits : acc.length + piece.length ≤ au.length) :
    deSerialize (auPayload [au] piece) (some (packFragment au.length acc)) {} =
      .ok (if (acc ++ piece).length = au.length then
          { auHeaders := [auHeader au], isContinuationFragment := true, payload := some (acc ++ piece) }
        else
          { auHeaders := [auHeader au], isContinuationFragment := true
            fragment := some (packFragment au.length (acc ++ piece)) }) := by
  have hcontinues : isContinuation ([au].map auHeader) piece au.length acc :=
    ⟨rfl, rfl, List.length_pos_of_ne_nil hpos, hfits⟩
  rw [deSerialize_auPayload (List.cons_ne_nil _ _) (List.forall_mem_singleton.mpr hsize) (by norm_num),
    reassemble, pending_packFragment hsize]
  dsimp only
  rw [if_pos hcontinues]
  split_ifs <;> rfl

/-! ## Pieces -/

/-- **The pieces** of an access unit are not empty, not too long, and together they are the access unit. -/
lemma pieces_spec {size : ℕ} (hsize : 0 < size) (isStart : Bool) (data : Bytes) :
    let pieces := (cutPayloads size (fun _ _ => []) isStart data).map Prod.fst
    pieces.flatten = data ∧ ∀ piece ∈ pieces, piece ≠ [] ∧ piece.length ≤ size := by
  induction data using cut_induction hsize generalizing isStart with
  | nil =>
    rw [cutPayloads_nil]
    exact ⟨rfl, fun _ h => absurd h List.not_mem_nil⟩
  | cons data hdata ih =>
    obtain ⟨hflatten, hpieces⟩ := ih false
    dsimp only at hflatten hpieces ⊢
    rw [cutPayloads_of_ne_nil hsize hdata, List.map_cons, List.nil_append]
    refine ⟨?_, List.forall_mem_cons.mpr ⟨⟨?_, List.length_take_le _ _⟩, hpieces⟩⟩
    · rw [List.flatten_cons, hflatten, List.take_append_drop]
    · rw [Ne, List.take_eq_nil_iff]
      exact fun h => h.elim hsize.ne' hdata

lemma length_flatten_le {ds l : List Bytes} (h : ds.Sublist l) : ds.flatten.length ≤ l.flatten.length := by
  induction h with
  | slnil => exact le_rfl
  | cons a _ ih =>
    rw [List.flatten_cons, List.length_append]
    omega
  | cons_cons a _ ih =>
    rw [List.flatten_cons, List.flatten_cons, List.length_append, List.length_append]
    omega

/-- Some of the pieces have the length of all only if they are all. -/
lemma eq_of_length_flatten {ds l : List Bytes} (h : ds.Sublist l) (hl : ∀ d ∈ l, d ≠ [])
    (hlength : ds.flatten.length = l.flatten.length) : ds = l := by
  induction h with
  | slnil => rfl
  | @cons ds l a hsub _ =>
    have hpos := List.length_pos_of_ne_nil (hl a List.mem_cons_self)
    have hle := length_flatten_le hsub
    rw [List.flatten_cons, List.length_append] at hlength
    omega
  | cons_cons a _ ih =>
    rw [List.flatten_cons, List.flatten_cons, List.length_append, List.length_append] at hlength
    rw [ih (fun d hd => hl d (List.mem_cons_of_mem _ hd)) (by omega)]

/-- **More fragments**, all of one group: they complete the payload if their lengths add up to the size. -/
lemma reads_pieces (hsize : au.length ≤ 8191) (k : ℕ) {ds : List Bytes} (hds : ∀ d ∈ ds, d ≠ []) {acc : Bytes}
    (hacc : acc.length < au.length) (hfits : acc.length + ds.flatten.length ≤ au.length) (parts : List ℕ) :
    ∃ completed partitions after, Reads (some (packFragment au.length acc), parts)
        (ds.map fun d => (k, auPayload [au] d)) completed partitions after ∧
      ((acc.length + ds.flatten.length < au.length ∧ completed = [] ∧
          after.1 = some (packFragment au.length (acc ++ ds.flatten))) ∨
        acc.length + ds.flatten.length = au.length ∧ after.1 = none ∧ ∃ p, p.units = [acc ++ ds.flatten] ∧
          completed = [(p, parts ++ List.replicate ds.length k)]) := by
  induction ds generalizing acc parts with
  | nil =>
    refine ⟨[], [], _, .refl _, .inl ⟨?_, rfl, ?_⟩⟩
    · exact hacc
    · rw [List.flatten_nil, List.append_nil]
  | cons d ds ih =>
    obtain ⟨hd, hds⟩ := List.forall_mem_cons.mp hds
    rw [List.flatten_cons, List.length_append] at hfits ⊢
    have hfirst : acc.length + d.length ≤ au.length := by omega
    have hread := deSerialize_later hsize hd hfirst
    rw [List.map_cons]
    by_cases hfull : (acc ++ d).length = au.length
    · -- There is nothing behind it.
      rw [List.length_append] at hfull
      have hnil : ds = [] := by
        cases ds with
        | nil => rfl
        | cons d' ds =>
          have hpos := List.length_pos_of_ne_nil (hds d' List.mem_cons_self)
          rw [List.flatten_cons, List.length_append] at hfits
          omega
      subst hnil
      rw [← List.length_append] at hfull
      rw [if_pos hfull] at hread
      refine ⟨_, _, _, reads_payload hread rfl rfl rfl, .inr ⟨?_, rfl, _, ?_, rfl⟩⟩
      · rw [← hfull, List.length_append]
        rfl
      · rw [List.flatten_nil, List.append_nil, AacHbrRtpPayload.units]
        dsimp only
        rw [List.map_singleton, auHeader, slices, ← hfull, List.take_length]
        rfl
    · rw [if_neg hfull] at hread
      have hone : Reads (some (packFragment au.length acc), parts) [(k, auPayload [au] d)] [] _
        (some (packFragment au.length (acc ++ d)), parts ++ [k]) := reads_fragment hread rfl rfl rfl
      rw [List.length_append] at hfull
      have hpart : (acc ++ d).length < au.length := by
        rw [List.length_append]
        omega
      have hrest : (acc ++ d).length + ds.flatten.length ≤ au.length := by
        rw [List.length_append]
        omega
      obtain ⟨completed, partitions, after, hreads, hcases⟩ := ih hds hpart hrest (parts ++ [k])
      refine ⟨completed, _, after, hone.trans hreads, ?_⟩
      rw [List.append_assoc, List.append_assoc, List.length_append, Nat.add_assoc] at hcases
      rwa [List.length_cons, List.replicate_succ]

/-! ## Groups that arrive -/

/-- **A group with whole access units** arrives in one packet. -/
lemma reads_whole (hsendable : Sendable maxPayloadSize group) (hforeign : Foreign before.1 group) (k : ℕ) :
    ∃ p partitions, Reads before [(k, auPayload group group.flatten)] [(p, [k])] partitions (none, []) ∧
      p.units = group := by
  refine ⟨_, _, reads_payload (deSerialize_whole hsendable hforeign) rfl rfl rfl, ?_⟩
  rw [AacHbrRtpPayload.units]
  dsimp only
  rw [map_size_auHeader, slices_flatten]

/-- **Some pieces of an access unit** arrive: they complete it if they are all, and else they stay pending. -/
lemma reads_some (hsize : au.length ≤ 8191) (hfragmented : IsFragmented maxPayloadSize au)
    (hmax : 4 < maxPayloadSize) (hforeign : Foreign before.1 [au]) (k : ℕ) {ds : List Bytes} (hne : ds ≠ [])
    (hds : ds.Sublist ((cutPayloads (maxPayloadSize - 4) (fun _ _ => []) true au).map Prod.fst)) :
    ∃ completed partitions after, Reads before (ds.map fun d => (k, auPayload [au] d)) completed partitions after ∧
      ((∃ acc, after.1 = some (packFragment au.length acc) ∧ completed = [] ∧
          ds.flatten.length < au.length) ∨
        after.1 = none ∧ ∃ p, p.units = [au] ∧ completed = [(p, List.replicate ds.length k)]) := by
  obtain ⟨hflatten, hpieces⟩ := pieces_spec (Nat.sub_pos_of_lt hmax) true au
  have hle := length_flatten_le hds
  rw [hflatten] at hle
  obtain ⟨d, ds, rfl⟩ := List.exists_cons_of_ne_nil hne
  have hmem := fun x hx => hpieces x (hds.subset hx)
  obtain ⟨⟨hd, hshort⟩, hlater⟩ := List.forall_mem_cons.mp hmem
  rw [IsFragmented] at hfragmented
  have hpart : d.length < au.length := by omega
  have hone : Reads before [(k, auPayload [au] d)] [] _ (some (packFragment au.length d), [k]) :=
    reads_fragment (deSerialize_first hsize hforeign hd hpart) rfl rfl rfl
  rw [List.flatten_cons, List.length_append] at hle
  obtain ⟨completed, partitions, after, hreads, hcases⟩ :=
    reads_pieces hsize k (fun x hx => (hlater x hx).1) hpart hle [k]
  refine ⟨completed, _, after, hone.trans hreads, ?_⟩
  rcases hcases with ⟨hless, rfl, hafter⟩ | ⟨hall, hafter, p, hunits, rfl⟩
  · refine .inl ⟨_, hafter, rfl, ?_⟩
    rwa [List.flatten_cons, List.length_append]
  · refine .inr ⟨hafter, p, ?_, rfl⟩
    have heq := eq_of_length_flatten hds (fun x hx => (hpieces x hx).1)
      (by rw [hflatten, List.flatten_cons, List.length_append, hall])
    rw [hunits, ← List.flatten_cons, heq, hflatten]

/-- The payloads of a cut access unit. -/
lemma numbered_fragmented (hfragmented : IsFragmented maxPayloadSize au) (k : ℕ) :
    (groupPayloads maxPayloadSize [au]).map (Prod.mk k) =
      ((cutPayloads (maxPayloadSize - 4) (fun _ _ => []) true au).map Prod.fst).map
        fun d => (k, auPayload [au] d) := by
  rw [groupPayloads, dataSections, if_pos hfragmented, List.map_map]
  rfl

lemma numbered_whole (hwhole : ∀ au ∈ group, ¬IsFragmented maxPayloadSize au) (k : ℕ) :
    (groupPayloads maxPayloadSize group).map (Prod.mk k) = [(k, auPayload group group.flatten)] := by
  rw [groupPayloads, dataSections_of_not_fragmented hwhole]
  rfl

lemma foreign_none (group : List Bytes) : Foreign none group := by
  rintro n acc ⟨⟩

/-- The sizes of cut access units are different. -/
def SizesDiffer (maxPayloadSize : ℕ) (group group' : List Bytes) : Prop :=
  ∀ n ∈ fragmentedSize maxPayloadSize group, ∀ n' ∈ fragmentedSize maxPayloadSize group', n ≠ n'

/-- The pending fragments of a cut access unit are not those of a group of other size. -/
lemma foreign_packFragment (hsize : au.length ≤ 8191) (hfragmented : IsFragmented maxPayloadSize au)
    (hdiffer : SizesDiffer maxPayloadSize [au] group) (acc : Bytes) :
    Foreign (some (packFragment au.length acc)) group := by
  rintro n acc' hpending au' rfl heq
  rw [pending_packFragment hsize] at hpending
  obtain ⟨rfl, -⟩ := Prod.mk.inj (Option.some.inj hpending)
  have hfragmented' : IsFragmented maxPayloadSize au' := by
    rw [IsFragmented, heq]
    exact hfragmented
  exact hdiffer _ (if_pos hfragmented) _ (if_pos hfragmented') heq.symm

/-- **Some packets of the groups arrive**: every completed payload is a group. -/
lemma reads_groups (hsendable : ∀ g ∈ groups, Sendable maxPayloadSize g.1)
    (hdiffer : groups.Pairwise fun g g' => SizesDiffer maxPayloadSize g.1 g'.1)
    (hforeign : ∀ g ∈ groups, Foreign before.1 g.1)
    (harrived : arrived.Sublist (numberedPayloads maxPayloadSize groups)) :
    ∃ completed partitions after, Reads before arrived completed partitions after ∧
      ∀ x ∈ completed, ∃ g ∈ groups, x.1.units = g.1 ∧ ∀ k ∈ x.2, k = g.2 := by
  induction groups generalizing before arrived with
  | nil =>
    rw [List.sublist_nil.mp harrived]
    exact ⟨[], [], before, .refl _, fun _ h => absurd h List.not_mem_nil⟩
  | cons g groups ih =>
    obtain ⟨hfirst, hsendable⟩ := List.forall_mem_cons.mp hsendable
    obtain ⟨hdifferFirst, hdiffer⟩ := List.pairwise_cons.mp hdiffer
    obtain ⟨hforeignFirst, hforeign⟩ := List.forall_mem_cons.mp hforeign
    rw [numberedPayloads, List.flatMap_cons, List.sublist_append_iff] at harrived
    obtain ⟨ofFirst, later, rfl, hofFirst, hlater⟩ := harrived
    -- What arrives of the first group completes it or is foreign to the others.
    obtain ⟨completed, partitions, after, hreads, hcompleted, hafter⟩ :
        ∃ completed partitions after, Reads before ofFirst completed partitions after ∧
          (∀ x ∈ completed, x.1.units = g.1 ∧ ∀ k ∈ x.2, k = g.2) ∧
          ∀ g' ∈ groups, Foreign after.1 g'.1 := by
      rcases hfirst.sections with ⟨au, hau, hfragmented, hmax⟩ | hwhole
      · have hsize : au.length ≤ 8191 := (hfirst.units au (hau ▸ List.mem_cons_self)).2
        rw [hau, numbered_fragmented hfragmented, List.sublist_map_iff] at hofFirst
        obtain ⟨ds, hds, rfl⟩ := hofFirst
        by_cases hne : ds = []
        · subst hne
          exact ⟨[], [], before, .refl _, fun _ h => absurd h List.not_mem_nil, hforeign⟩
        · obtain ⟨completed, partitions, after, hreads, hcases⟩ :=
            reads_some hsize hfragmented hmax (hau ▸ hforeignFirst) g.2 hne hds
          refine ⟨completed, partitions, after, hreads, ?_, fun g' hg' => ?_⟩
          · rcases hcases with ⟨acc, -, rfl, -⟩ | ⟨-, p, hunits, rfl⟩
            · exact fun _ h => absurd h List.not_mem_nil
            · rw [List.forall_mem_singleton, hau]
              exact ⟨hunits, fun k hk => List.eq_of_mem_replicate hk⟩
          · rcases hcases with ⟨acc, hafter, -, -⟩ | ⟨hafter, -⟩
            · rw [hafter]
              exact foreign_packFragment hsize hfragmented (hau ▸ hdifferFirst g' hg') acc
            · rw [hafter]
              exact foreign_none _
      · rw [numbered_whole hwhole] at hofFirst
        rcases List.sublist_singleton.mp hofFirst with rfl | rfl
        · exact ⟨[], [], before, .refl _, fun _ h => absurd h List.not_mem_nil, hforeign⟩
        · obtain ⟨p, partitions, hreads, hunits⟩ := reads_whole hfirst hforeignFirst g.2
          refine ⟨_, partitions, _, hreads, ?_, fun g' _ => foreign_none _⟩
          rw [List.forall_mem_singleton]
          exact ⟨hunits, List.forall_mem_singleton.mpr rfl⟩
    obtain ⟨completed', partitions', after', hreads', hcompleted'⟩ := ih hsendable hdiffer hafter hlater
    refine ⟨_, _, after', hreads.trans hreads', List.forall_mem_append.mpr ⟨fun x hx => ?_, fun x hx => ?_⟩⟩
    · exact ⟨g, List.mem_cons_self, hcompleted x hx⟩
    · obtain ⟨g', hg', hx⟩ := hcompleted' x hx
      exact ⟨g', List.mem_cons_of_mem _ hg', hx⟩

/-- Units come only from completed payloads. -/
lemma Reads.flatMap_units (h : Reads before arrived completed partitions after) :
    partitions.flatMap units = completed.flatMap fun x => x.1.units := by
  have hassembled : ∀ (l : List (ℕ × AacHbrRtpPayload)) parts,
      ((assembled parts l).flatMap fun x => x.1.units) = (l.map Prod.snd).flatMap units := by
    intro l
    induction l with
    | nil => exact fun _ => rfl
    | cons x l ih =>
      intro parts
      rw [assembled, List.map_cons, List.flatMap_cons]
      cases hpayload : x.2.payload with
      | none =>
        have hnone : x.2.units = [] := by rw [units, hpayload]
        rw [if_neg (show ¬(none : Option Bytes).isSome = true from Bool.false_ne_true), ih, hnone,
          List.nil_append]
      | some payload =>
        rw [if_pos (show (some payload).isSome = true from rfl), List.flatMap_cons, ih]
  rw [← h.completed, hassembled, List.map_snd_zip]
  rw [h.length, List.length_map]

/-- **All packets arrive**: the access units come back. -/
lemma reads_all (hsendable : ∀ g ∈ groups, Sendable maxPayloadSize g.1) (hbefore : before.1 = none) :
    ∃ completed partitions after, Reads before (numberedPayloads maxPayloadSize groups) completed partitions after ∧
      after.1 = none ∧ (completed.flatMap fun x => x.1.units) = (groups.map Prod.fst).flatten := by
  induction groups generalizing before with
  | nil => exact ⟨[], [], before, .refl _, hbefore, rfl⟩
  | cons g groups ih =>
    obtain ⟨hfirst, hsendable⟩ := List.forall_mem_cons.mp hsendable
    have hforeign : Foreign before.1 g.1 := hbefore ▸ foreign_none _
    obtain ⟨x, partitions, after, hreads, hafter, hunits⟩ :
        ∃ x partitions after, Reads before ((groupPayloads maxPayloadSize g.1).map (Prod.mk g.2)) [x] partitions
          after ∧ after.1 = none ∧ x.1.units = g.1 := by
      rcases hfirst.sections with ⟨au, hau, hfragmented, hmax⟩ | hwhole
      · have hsize : au.length ≤ 8191 := (hfirst.units au (hau ▸ List.mem_cons_self)).2
        obtain ⟨hflatten, -⟩ := pieces_spec (Nat.sub_pos_of_lt hmax) true au
        have hne : (cutPayloads (maxPayloadSize - 4) (fun _ _ => []) true au).map Prod.fst ≠ [] := by
          intro hnil
          rw [hnil] at hflatten
          exact (hfirst.units au (hau ▸ List.mem_cons_self)).1 hflatten.symm
        rw [hau] at hforeign
        rw [hau, numbered_fragmented hfragmented]
        obtain ⟨completed, partitions, after, hreads, hcases⟩ :=
          reads_some hsize hfragmented hmax hforeign g.2 hne (List.Sublist.refl _)
        rcases hcases with ⟨-, -, -, hless⟩ | ⟨hafter, p, hunits, rfl⟩
        · rw [hflatten] at hless
          exact absurd hless (lt_irrefl _)
        · exact ⟨_, partitions, after, hreads, hafter, hunits⟩
      · rw [numbered_whole hwhole]
        obtain ⟨p, partitions, hreads, hunits⟩ := reads_whole hfirst hforeign g.2
        exact ⟨_, partitions, _, hreads, rfl, hunits⟩
    obtain ⟨completed', partitions', after', hreads', hafter', hunits'⟩ := ih hsendable hafter
    refine ⟨_, _, after', hreads.trans hreads', hafter', ?_⟩
    rw [List.flatMap_append, hunits', List.flatMap_singleton, hunits, List.map_cons, List.flatten_cons]

/-! ## Two access units of one size -/

/-- The first piece of an access unit, and the others. -/
lemma map_fst_pieces (hmax : 4 < maxPayloadSize) (hau : au ≠ []) :
    (cutPayloads (maxPayloadSize - 4) (fun _ _ => []) true au).map Prod.fst =
      au.take (maxPayloadSize - 4) :: (cutPayloads (maxPayloadSize - 4) (fun _ _ => []) false
        (au.drop (maxPayloadSize - 4))).map Prod.fst := by
  rw [cutPayloads_of_ne_nil (Nat.sub_pos_of_lt hmax) hau]
  rfl

/-- **The first piece of an access unit and the other pieces of another one** of the same size complete a
payload. -/
lemma reads_mixed {a b : Bytes} (hsize : a.length ≤ 8191) (hlength : a.length = b.length)
    (hfragmented : IsFragmented maxPayloadSize a) (hmax : 4 < maxPayloadSize) (i j : ℕ) {rest : List Bytes}
    (hrest : (cutPayloads (maxPayloadSize - 4) (fun _ _ => []) false (b.drop (maxPayloadSize - 4))).map Prod.fst =
      rest) : rest ≠ [] ∧ ∃ p partitions after, Reads (none, [])
        ((i, auPayload [a] (a.take (maxPayloadSize - 4))) :: rest.map fun d => (j, auPayload [b] d))
        [(p, i :: List.replicate rest.length j)] partitions after := by
  have hpos : 0 < maxPayloadSize - 4 := Nat.sub_pos_of_lt hmax
  obtain ⟨hflatten, hpieces⟩ := pieces_spec hpos false (b.drop (maxPayloadSize - 4))
  rw [hrest] at hflatten hpieces
  rw [IsFragmented] at hfragmented
  have hfirst : (a.take (maxPayloadSize - 4)).length = maxPayloadSize - 4 := by
    rw [List.length_take]
    omega
  have hlater : rest.flatten.length = a.length - (maxPayloadSize - 4) := by
    rw [hflatten, List.length_drop, hlength]
  have hnonempty : a.take (maxPayloadSize - 4) ≠ [] := by
    intro hnil
    rw [hnil] at hfirst
    exact hpos.ne hfirst
  have hshort : (a.take (maxPayloadSize - 4)).length < a.length := by omega
  have hfits : (a.take (maxPayloadSize - 4)).length + rest.flatten.length ≤ b.length := by omega
  have hone : Reads (none, []) [(i, auPayload [a] (a.take (maxPayloadSize - 4)))] [] _
      (some (packFragment a.length (a.take (maxPayloadSize - 4))), [i]) :=
    reads_fragment (deSerialize_first hsize (foreign_none _) hnonempty hshort) rfl rfl rfl
  obtain ⟨completed, partitions, after, hreads, hcases⟩ := reads_pieces (hlength ▸ hsize) j
    (fun d hd => (hpieces d hd).1) (hlength ▸ hshort) hfits [i]
  rw [← hlength] at hreads
  rcases hcases with ⟨hless, -, -⟩ | ⟨-, -, p, -, rfl⟩
  · omega
  · refine ⟨fun hnil => ?_, p, _, after, hone.trans hreads⟩
    rw [hnil] at hlater
    have hzero : 0 = a.length - (maxPayloadSize - 4) := hlater
    omega

/-- **The end of another access unit** of the same size is taken for the one that is missing. -/
lemma not_unitsKept {a b : Bytes} {i j : ℕ} (hpair : [([a], i), ([b], j)].Sublist groups) (hij : i ≠ j)
    (ha : Sendable maxPayloadSize [a]) (hb : Sendable maxPayloadSize [b])
    (hfragmented : IsFragmented maxPayloadSize a) (hmax : 4 < maxPayloadSize) (hlength : a.length = b.length) :
    ¬UnitsKept maxPayloadSize groups := by
  intro hkept
  have hfragmented' : IsFragmented maxPayloadSize b := by
    rw [IsFragmented, ← hlength]
    exact hfragmented
  obtain ⟨hne, p, partitions, after, hreads⟩ :=
    reads_mixed (ha.units a List.mem_cons_self).2 hlength hfragmented hmax i j rfl
  set rest := (cutPayloads (maxPayloadSize - 4) (fun _ _ => []) false (b.drop (maxPayloadSize - 4))).map Prod.fst
    with hrest
  have hsublist : ((i, auPayload [a] (a.take (maxPayloadSize - 4))) :: rest.map fun d =>
      (j, auPayload [b] d)).Sublist (numberedPayloads maxPayloadSize groups) := by
    refine List.Sublist.trans ?_ (hpair.flatMap _)
    rw [List.flatMap_cons, List.flatMap_singleton, numbered_fragmented hfragmented,
      numbered_fragmented hfragmented', map_fst_pieces hmax (ha.units a List.mem_cons_self).1,
      map_fst_pieces hmax (hb.units b List.mem_cons_self).1, ← hrest, List.map_cons, List.cons_append]
    refine List.Sublist.cons_cons _ (List.Sublist.trans ?_ (List.sublist_append_right _ _))
    rw [List.map_cons]
    exact List.sublist_cons_self _ _
  obtain ⟨partitions', buffer, hread, hcompleted⟩ := hkept.some _ hsublist
  rw [hreads.read] at hread
  obtain ⟨rfl, -⟩ := Prod.mk.inj (Except.ok.inj hread)
  rw [hreads.completed] at hcompleted
  obtain ⟨g, -, -, hparts⟩ := hcompleted _ List.mem_cons_self
  have hi := hparts i List.mem_cons_self
  have hj := hparts j (List.mem_cons_of_mem _ (List.mem_replicate.mpr
    ⟨(List.length_pos_of_ne_nil hne).ne', rfl⟩))
  exact hij (hi.trans hj.symm)

/-- **Access units are kept** if the cut ones have different sizes. -/
lemma unitsKept_iff (hsendable : ∀ g ∈ groups, Sendable maxPayloadSize g.1)
    (hnumbers : groups.Pairwise fun g g' => g.2 ≠ g'.2) : UnitsKept maxPayloadSize groups ↔
      groups.Pairwise fun g g' => SizesDiffer maxPayloadSize g.1 g'.1 := by
  constructor
  · intro hkept
    refine List.pairwise_iff_forall_sublist.mpr fun {g g'} hpair n hn n' hn' heq => ?_
    have hij := List.pairwise_iff_forall_sublist.mp hnumbers hpair
    have hg := hsendable g (hpair.subset List.mem_cons_self)
    have hg' := hsendable g' (hpair.subset (List.mem_cons_of_mem _ List.mem_cons_self))
    obtain ⟨a, ha, hfragmented, hmax⟩ := hg.sections.resolve_right fun hwhole => by
      rw [fragmentedSize_eq_none hwhole] at hn
      cases hn
    obtain ⟨b, hb, hfragmented', -⟩ := hg'.sections.resolve_right fun hwhole => by
      rw [fragmentedSize_eq_none hwhole] at hn'
      cases hn'
    obtain ⟨group, i⟩ := g
    obtain ⟨group', j⟩ := g'
    dsimp only at ha hb hg hg' hn hn' hij
    subst ha
    subst hb
    rw [fragmentedSize, if_pos hfragmented] at hn
    rw [fragmentedSize, if_pos hfragmented'] at hn'
    have hlength : a.length = b.length := (Option.some.inj hn).trans (heq.trans (Option.some.inj hn').symm)
    exact not_unitsKept hpair hij hg hg' hfragmented hmax hlength hkept
  · intro hdiffer
    refine ⟨?_, fun arrived harrived => ?_⟩
    · obtain ⟨completed, partitions, after, hreads, -, hunits⟩ := reads_all hsendable
        (show ((none, []) : Option Bytes × List ℕ).1 = none from rfl)
      exact ⟨partitions, _, hreads.read, hreads.flatMap_units.trans hunits⟩
    · have hforeign : ∀ g ∈ groups, Foreign ((none, []) : Option Bytes × List ℕ).1 g.1 :=
        fun _ _ => foreign_none _
      obtain ⟨completed, partitions, after, hreads, hcompleted⟩ :=
        reads_groups hsendable hdiffer hforeign harrived
      refine ⟨partitions, _, hreads.read, ?_⟩
      rw [hreads.completed]
      exact hcompleted

/-- **AAC survives the packets**: they are the payloads of groups of the access units, and these are kept. -/
def AccessUnitsKept (maxPayloadSize : ℕ) (aus : List Bytes) (packets : List RtpPacket) : Prop :=
  let groups := (auGroups maxPayloadSize [] aus).zipIdx
  packets.map RtpPacket.payload = (numberedPayloads maxPayloadSize groups).map Prod.snd ∧
    (groups.map Prod.fst).flatten = aus ∧ UnitsKept maxPayloadSize groups

/-- **Access units** survive the packets, whichever of them arrive, if those that are cut into pieces have
different sizes. -/
theorem accessUnits_iff {p p' : AacHbrPacketizer} {aus : List Bytes} {rtpTimestamp : ℕ}
    {packets : List RtpPacket} (h : p.packetizeAccessUnits aus rtpTimestamp = .ok (packets, p')) :
    AccessUnitsKept p.maxPayloadSize aus packets ↔
      ((aus.filter (IsFragmented p.maxPayloadSize ·)).map List.length).Nodup := by
  obtain ⟨hpayloads, hsendable⟩ := AacHbrPacketizer.payloads_packetizeAccessUnits h
  set groups := auGroups p.maxPayloadSize [] aus with hgroups
  have hfst : groups.zipIdx.map Prod.fst = groups := List.zipIdx_map_fst _ _
  have hnumbers : groups.zipIdx.Pairwise fun g g' => g.2 ≠ g'.2 := by
    have hsnd : (groups.zipIdx.map Prod.snd).Nodup := by
      rw [List.zipIdx_map_snd]
      exact List.nodup_range'
    exact List.pairwise_map.mp hsnd
  have hkept := unitsKept_iff (fun g hg => hsendable g.1 (hfst ▸ List.mem_map_of_mem hg)) hnumbers
  have hcut : (numberedPayloads p.maxPayloadSize groups.zipIdx).map Prod.snd =
      groups.flatMap (groupPayloads p.maxPayloadSize) := by
    have hdrop : ∀ g : List Bytes × ℕ, ((groupPayloads p.maxPayloadSize g.1).map (Prod.mk g.2)).map Prod.snd =
        groupPayloads p.maxPayloadSize g.1 := fun g => by
      rw [List.map_map]
      exact List.map_id _
    conv_rhs => rw [← hfst, List.flatMap_map]
    rw [numberedPayloads, List.map_flatMap]
    exact List.flatMap_congr fun g _ => hdrop g
  have hflatten : (groups.zipIdx.map Prod.fst).flatten = aus := by
    rw [hfst, hgroups, flatten_auGroups, List.nil_append]
  rw [AccessUnitsKept, ← filterMap_auGroups (fun _ hmem => absurd hmem List.not_mem_nil) aus, ← hgroups]
  rw [hcut, and_iff_right hpayloads, and_iff_right hflatten, hkept, List.Nodup, List.pairwise_filterMap]
  conv_rhs => rw [← hfst]
  exact List.pairwise_map.symm

/-- A packetizer that sends at most 10 bytes. -/
def tenBytes : AacHbrPacketizer := { sequenceNumber := 0, maxPayloadSize := 10 }

/-- Two small access units, and two that are cut into pieces. -/
theorem accessUnits_tenBytes :
    ∃ packets p', tenBytes.packetizeAccessUnits [[1], [2, 3], [4, 5, 6, 7, 8, 9, 10], [1, 2, 3, 4, 5, 6, 7, 8]] 0 =
      .ok (packets, p') ∧
      AccessUnitsKept 10 [[1], [2, 3], [4, 5, 6, 7, 8, 9, 10], [1, 2, 3, 4, 5, 6, 7, 8]] packets := by
  have hgroups : auGroups 10 [] [[1], [2, 3], [4, 5, 6, 7, 8, 9, 10], [1, 2, 3, 4, 5, 6, 7, 8]] =
      [[[1], [2, 3]], [[4, 5, 6, 7, 8, 9, 10]], [[1, 2, 3, 4, 5, 6, 7, 8]]] := by decide
  obtain ⟨⟨packets, p'⟩, hsent⟩ := (AacHbrPacketizer.isOk_packetizeAccessUnits tenBytes
    [[1], [2, 3], [4, 5, 6, 7, 8, 9, 10], [1, 2, 3, 4, 5, 6, 7, 8]] 0).mpr (by
      rw [show tenBytes.maxPayloadSize = 10 from rfl, hgroups]
      refine List.forall_mem_cons.mpr ⟨⟨by decide, by decide, by decide, .inr (by decide)⟩, ?_⟩
      refine List.forall_mem_cons.mpr ⟨⟨by decide, by decide, by decide, .inl ⟨_, rfl, by decide, by decide⟩⟩, ?_⟩
      refine List.forall_mem_singleton.mpr ⟨by decide, by decide, by decide, .inl ?_⟩
      exact ⟨_, rfl, by decide, by decide⟩)
  exact ⟨packets, p', hsent, (accessUnits_iff hsent).mpr (by decide)⟩

/-- Two access units of one size, each in two pieces: from the first piece of the one and the last piece of the
other a payload is completed that is neither of them. -/
theorem not_accessUnitsKept_equalSizes :
    ∃ packets p', tenBytes.packetizeAccessUnits [[1, 2, 3, 4, 5, 6, 7], [8, 9, 10, 11, 12, 13, 14]] 0 =
      .ok (packets, p') ∧
      packets.map RtpPacket.payload = [[0, 16, 0, 56, 1, 2, 3, 4, 5, 6], [0, 16, 0, 56, 7],
        [0, 16, 0, 56, 8, 9, 10, 11, 12, 13], [0, 16, 0, 56, 14]] ∧
      ¬AccessUnitsKept 10 [[1, 2, 3, 4, 5, 6, 7], [8, 9, 10, 11, 12, 13, 14]] packets ∧
      (readPackets none [[0, 16, 0, 56, 1, 2, 3, 4, 5, 6], [0, 16, 0, 56, 14]]).map
        (fun read => read.1.map AacHbrRtpPayload.units) = .ok [[], [[1, 2, 3, 4, 5, 6, 14]]] := by
  have hgroups : auGroups 10 [] [[1, 2, 3, 4, 5, 6, 7], [8, 9, 10, 11, 12, 13, 14]] =
      [[[1, 2, 3, 4, 5, 6, 7]], [[8, 9, 10, 11, 12, 13, 14]]] := by decide
  have hsendable : ∀ g ∈ [[[1, 2, 3, 4, 5, 6, 7]], [[8, 9, 10, 11, 12, 13, 14]]], Sendable 10 g :=
    List.forall_mem_cons.mpr ⟨⟨by decide, by decide, by decide, .inl ⟨_, rfl, by decide, by decide⟩⟩,
      List.forall_mem_singleton.mpr ⟨by decide, by decide, by decide, .inl ⟨_, rfl, by decide, by decide⟩⟩⟩
  obtain ⟨⟨packets, p'⟩, hsent⟩ := (AacHbrPacketizer.isOk_packetizeAccessUnits tenBytes
    [[1, 2, 3, 4, 5, 6, 7], [8, 9, 10, 11, 12, 13, 14]] 0).mpr (by
      rw [show tenBytes.maxPayloadSize = 10 from rfl, hgroups]
      exact hsendable)
  obtain ⟨hpayloads, -⟩ := AacHbrPacketizer.payloads_packetizeAccessUnits hsent
  rw [show tenBytes.maxPayloadSize = 10 from rfl, hgroups] at hpayloads
  refine ⟨packets, p', hsent, ?_, fun hkept => ?_, by decide⟩
  · have hfirst : (cutPayloads 6 (fun _ _ => []) true [1, 2, 3, 4, 5, 6, 7]).map Prod.fst =
        [[1, 2, 3, 4, 5, 6], [7]] := by simp [cutPayloads]
    have hsecond : (cutPayloads 6 (fun _ _ => []) true [8, 9, 10, 11, 12, 13, 14]).map Prod.fst =
        [[8, 9, 10, 11, 12, 13], [14]] := by simp [cutPayloads]
    rw [hpayloads, List.flatMap_cons, List.flatMap_singleton, groupPayloads, groupPayloads, dataSections,
      dataSections, if_pos (by decide), if_pos (by decide), hfirst, hsecond]
    decide
  · have hkept := hkept.2.2
    rw [hgroups] at hkept
    exact not_unitsKept (List.Sublist.refl _) (by decide) (hsendable _ List.mem_cons_self)
      (hsendable _ (List.mem_cons_of_mem _ List.mem_cons_self)) (by decide) (by decide) rfl hkept

end Werift.Codec
