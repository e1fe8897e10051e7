import Werift.Codec.Depacketize
import Werift.Lib.Except

/-!
# Frames cut into packets

The packetizers of VP8 and VP9 cut a frame into pieces of one size and put a descriptor in front of each.
If the parser gives each piece back, depacketizing gives the frame (`frameSent_of_carries`).
-/

namespace Werift.Codec

open Rtp (Bytes RtpPacket)

/-- The loop of `packetize` that cuts a frame: the payloads and their markers.  The descriptor of a piece
depends on whether it is the first one and whether it is the last one. -/
def cutPayloads (chunkSize : ℕ) (descriptor : Bool → Bool → Bytes) (isStart : Bool) (data : Bytes) :
    List (Bytes × Bool) :=
  if data = [] ∨ chunkSize = 0 then []
  else
    let chunk := data.take chunkSize
    let isLast := decide (data.length ≤ chunkSize)
    (descriptor isStart isLast ++ chunk, isLast) ::
      cutPayloads chunkSize descriptor false (data.drop chunkSize)
termination_by data.length
decreasing_by
  rw [not_or] at *
  have hdata : 0 < data.length := List.length_pos_of_ne_nil (by tauto)
  rw [List.length_drop]
  omega

variable {chunkSize size : ℕ} {descriptor : Bool → Bool → Bytes} {isStart : Bool} {data : Bytes}

lemma cutPayloads_nil : cutPayloads chunkSize descriptor isStart [] = [] := by
  rw [cutPayloads, if_pos (.inl rfl)]

lemma cutPayloads_of_ne_nil (hsize : 0 < chunkSize) (hdata : data ≠ []) :
    cutPayloads chunkSize descriptor isStart data =
      (descriptor isStart (decide (data.length ≤ chunkSize)) ++ data.take chunkSize,
        decide (data.length ≤ chunkSize)) ::
      cutPayloads chunkSize descriptor false (data.drop chunkSize) := by
  rw [cutPayloads, if_neg]
  rintro (hnil | hzero)
  · exact hdata hnil
  · exact hsize.ne' hzero

/-- **Induction over the pieces** of a frame. -/
lemma cut_induction (hsize : 0 < chunkSize) {P : Bytes → Prop} (nil : P [])
    (cons : ∀ data, data ≠ [] → P (data.drop chunkSize) → P data) (data : Bytes) : P data := by
  induction hlength : data.length using Nat.strong_induction_on generalizing data with
  | _ k ih =>
    by_cases hdata : data = []
    · rw [hdata]
      exact nil
    · have hpos := List.length_pos_of_ne_nil hdata
      refine cons data hdata (ih _ ?_ _ rfl)
      rw [List.length_drop]
      omega

/-- What holds of the first payload and of every other one. -/
lemma forall_mem_cutPayloads (hsize : 0 < chunkSize) {P : Bytes → Prop}
    (hfirst : ∀ isLast, P (descriptor isStart isLast ++ data.take chunkSize))
    (hlater : ∀ isLast chunk, chunk.length ≤ chunkSize → P (descriptor false isLast ++ chunk)) :
    ∀ x ∈ cutPayloads chunkSize descriptor isStart data, P x.1 := by
  induction data using cut_induction hsize generalizing isStart with
  | nil =>
    rw [cutPayloads_nil]
    exact fun x hx => absurd hx List.not_mem_nil
  | cons data hdata ih =>
    rw [cutPayloads_of_ne_nil hsize hdata]
    refine List.forall_mem_cons.mpr ⟨hfirst _, ih fun isLast => hlater isLast _ ?_⟩
    exact List.length_take_le _ _

/-- **The marker** is on the last packet. -/
lemma map_snd_cutPayloads (hsize : 0 < chunkSize) (hdata : data ≠ []) :
    (cutPayloads chunkSize descriptor isStart data).map Prod.snd =
      List.replicate ((cutPayloads chunkSize descriptor isStart data).length - 1) false ++ [true] := by
  induction data using cut_induction hsize generalizing isStart with
  | nil => exact absurd rfl hdata
  | cons data hdata ih =>
    rw [cutPayloads_of_ne_nil hsize hdata, List.map_cons, List.length_cons, Nat.add_sub_cancel]
    by_cases hlast : data.length ≤ chunkSize
    · rw [List.drop_eq_nil_of_le hlast, cutPayloads_nil, decide_eq_true hlast]
      rfl
    · have hrest : data.drop chunkSize ≠ [] := by
        rw [Ne, List.drop_eq_nil_iff]
        exact hlast
      have hpos : 0 < (cutPayloads chunkSize descriptor false (data.drop chunkSize)).length := by
        rw [cutPayloads_of_ne_nil hsize hrest]
        exact Nat.succ_pos _
      rw [ih hrest, decide_eq_false hlast, ← List.cons_append, ← List.replicate_succ,
        Nat.sub_add_cancel hpos]

/-! ## Packets -/

/-- A parser takes the piece out of a payload. -/
def Carries (Depacketizer : DeSerialize) (payload chunk : Bytes) : Prop :=
  ∃ codec, Depacketizer payload none = .ok codec ∧ codec.payload = some chunk ∧ codec.fragment = none

variable {Depacketizer : DeSerialize} {packets : List RtpPacket} {chunks : List Bytes}

/-- The pieces of the packets are put together. -/
lemma parsePartitions_of_carries
    (h : List.Forall₂ (fun p chunk => Carries Depacketizer (RtpPacket.payload p) chunk) packets chunks) :
    ∃ partitions, parsePartitions Depacketizer none packets = .ok (partitions, none) ∧
      partitions.filterMap DePacketizerBase.payload = chunks := by
  induction h with
  | nil => exact ⟨[], rfl, rfl⟩
  | @cons p chunk packets chunks hcarries _ ih =>
    obtain ⟨codec, hcodec, hpayload, hfragment⟩ := hcarries
    obtain ⟨partitions, hpartitions, hchunks⟩ := ih
    refine ⟨codec :: partitions, ?_, ?_⟩
    · rw [parsePartitions, hcodec, Except.ok_bind, hfragment, hpayload]
      dsimp only [Option.isSome_none, Option.isSome_some, Bool.false_eq_true, if_false, if_true]
      rw [if_neg Bool.false_ne_true, if_pos rfl, hpartitions]
      rfl
    · rw [List.filterMap_cons_some hpayload, hchunks]

/-- The pieces behind the first one. -/
lemma forall₂_cutPayloads (hsize : 0 < chunkSize)
    (hcarries : ∀ isLast chunk, Carries Depacketizer (descriptor false isLast ++ chunk) chunk) (data : Bytes) :
    ∃ chunks, List.Forall₂ (Carries Depacketizer)
      ((cutPayloads chunkSize descriptor false data).map Prod.fst) chunks ∧ chunks.flatten = data := by
  induction data using cut_induction hsize with
  | nil =>
    rw [cutPayloads_nil]
    exact ⟨[], .nil, rfl⟩
  | cons data hdata ih =>
    obtain ⟨chunks, hchunks, hflatten⟩ := ih
    rw [cutPayloads_of_ne_nil hsize hdata, List.map_cons]
    refine ⟨data.take chunkSize :: chunks, .cons (hcarries _ _) hchunks, ?_⟩
    rw [List.flatten_cons, hflatten, List.take_append_drop]

/-- What the later payloads say about themselves. -/
lemma mapM_cutPayloads (hsize : 0 < chunkSize) {isPartitionHead : Bytes → Except String Bool}
    (hhead : ∀ isLast chunk, isPartitionHead (descriptor false isLast ++ chunk) = .ok false) (data : Bytes) :
    ((cutPayloads chunkSize descriptor false data).map Prod.fst).mapM isPartitionHead =
      .ok (List.replicate (cutPayloads chunkSize descriptor false data).length false) := by
  induction data using cut_induction hsize with
  | nil =>
    rw [cutPayloads_nil]
    rfl
  | cons data hdata ih =>
    rw [cutPayloads_of_ne_nil hsize hdata, List.map_cons, List.mapM_cons, hhead, ih]
    rfl

namespace PacketizerBase

variable (p : PacketizerBase) (timestamp : ℕ)

lemma buildPackets_maxPayloadSize (payloads : List (Bytes × Bool)) :
    (p.buildPackets timestamp payloads).2.maxPayloadSize = p.maxPayloadSize := by
  induction payloads generalizing p with
  | nil => rfl
  | cons payload payloads ih => exact ih _

lemma length_buildPackets (payloads : List (Bytes × Bool)) :
    (p.buildPackets timestamp payloads).1.length = payloads.length := by
  have hpayloads := congrArg List.length (p.buildPackets_payloads timestamp payloads)
  rwa [List.length_map, List.length_map] at hpayloads

lemma forall_mem_buildPackets {payloads : List (Bytes × Bool)} {P : Bytes → Prop}
    (h : ∀ x ∈ payloads, P x.1) : ∀ packet ∈ (p.buildPackets timestamp payloads).1, P packet.payload := by
  intro packet hpacket
  have hmem := List.mem_map_of_mem (f := RtpPacket.payload) hpacket
  rw [p.buildPackets_payloads] at hmem
  obtain ⟨x, hx, hpayload⟩ := List.mem_map.mp hmem
  exact hpayload ▸ h x hx

lemma buildPackets_markers (payloads : List (Bytes × Bool)) :
    (p.buildPackets timestamp payloads).1.map (fun packet => packet.header.marker) =
      payloads.map Prod.snd := by
  induction payloads generalizing p with
  | nil => rfl
  | cons payload payloads ih =>
    rw [buildPackets, List.map_cons, List.map_cons, ih]
    rfl

/-- The packets are numbered one after the other. -/
lemma buildPackets_isChain (payloads : List (Bytes × Bool)) :
    (p.buildPackets timestamp payloads).1.IsChain fun packet next =>
      next.header.sequenceNumber = (packet.header.sequenceNumber + 1) % 2 ^ 16 := by
  induction payloads generalizing p with
  | nil => exact .nil
  | cons payload payloads ih =>
    cases payloads with
    | nil => exact .singleton _
    | cons next payloads =>
      exact .cons_cons rfl (ih (p.buildPacket timestamp payload.1 payload.2).2)

lemma buildPackets_head {payloads : List (Bytes × Bool)} :
    ∀ packet ∈ (p.buildPackets timestamp payloads).1.head?,
      packet.header.sequenceNumber = p.sequenceNumber := by
  intro packet hpacket
  cases payloads with
  | nil => cases hpacket
  | cons payload payloads =>
    cases hpacket
    rfl

/-- The next number is the one behind the last packet. -/
lemma buildPackets_getLast {payloads : List (Bytes × Bool)} :
    ∀ packet ∈ (p.buildPackets timestamp payloads).1.getLast?,
      (p.buildPackets timestamp payloads).2.sequenceNumber =
        (packet.header.sequenceNumber + 1) % 2 ^ 16 := by
  induction payloads generalizing p with
  | nil =>
    intro packet hpacket
    cases hpacket
  | cons payload payloads ih =>
    intro packet hpacket
    cases payloads with
    | nil =>
      cases hpacket
      rfl
    | cons next payloads =>
      exact ih (p.buildPacket timestamp payload.1 payload.2).2 packet hpacket

end PacketizerBase

/-- **A frame that has been sent**: depacketizing the packets gives it back, no payload is too long, the
packets are numbered one after the other, the last one has the marker, and the first one is the head. -/
structure FrameSent (Depacketizer : DeSerialize) (isPartitionHead : Bytes → Except String Bool)
    (maxPayloadSize : ℕ) (data : Bytes) (packets : List RtpPacket) : Prop where
  data : ∃ frame, dePacketizeRtpPackets (.basic Depacketizer) packets none = .ok frame ∧ frame.data = data
  length : ∀ packet ∈ packets, packet.payload.length ≤ maxPayloadSize
  sequence : packets.IsChain fun packet next =>
    next.header.sequenceNumber = (packet.header.sequenceNumber + 1) % 2 ^ 16
  marker : packets.map (fun packet => packet.header.marker) =
    List.replicate (packets.length - 1) false ++ [true]
  head : (packets.map RtpPacket.payload).mapM isPartitionHead =
    .ok (true :: List.replicate (packets.length - 1) false)

/-- **A frame is sent** if the parser gives the pieces back and knows the first one. -/
theorem frameSent_of_carries {p : PacketizerBase} {timestamp : ℕ}
    {isPartitionHead : Bytes → Except String Bool} (hsize : 0 < chunkSize) (hdata : data ≠ [])
    (hdescriptor : ∀ isStart isLast, (descriptor isStart isLast).length = size)
    (hmax : size + chunkSize ≤ p.maxPayloadSize)
    (hfirst : ∀ isLast, Carries Depacketizer (descriptor true isLast ++ data.take chunkSize)
      (data.take chunkSize))
    (hlater : ∀ isLast chunk, Carries Depacketizer (descriptor false isLast ++ chunk) chunk)
    (hheadFirst : ∀ isLast, isPartitionHead (descriptor true isLast ++ data.take chunkSize) = .ok true)
    (hheadLater : ∀ isLast chunk, isPartitionHead (descriptor false isLast ++ chunk) = .ok false) :
    FrameSent Depacketizer isPartitionHead p.maxPayloadSize data
      (p.buildPackets timestamp (cutPayloads chunkSize descriptor true data)).1 := by
  have hpayloads := p.buildPackets_payloads timestamp (cutPayloads chunkSize descriptor true data)
  have hlength := p.length_buildPackets timestamp (cutPayloads chunkSize descriptor true data)
  refine ⟨?_, ?_, p.buildPackets_isChain timestamp _, ?_, ?_⟩
  · obtain ⟨chunks, hchunks, hflatten⟩ := forall₂_cutPayloads hsize hlater (data.drop chunkSize)
    have hall : List.Forall₂ (Carries Depacketizer)
        ((cutPayloads chunkSize descriptor true data).map Prod.fst) (data.take chunkSize :: chunks) := by
      rw [cutPayloads_of_ne_nil hsize hdata, List.map_cons]
      exact .cons (hfirst _) hchunks
    rw [← hpayloads, List.forall₂_map_left_iff] at hall
    obtain ⟨partitions, hpartitions, hparts⟩ := parsePartitions_of_carries hall
    refine ⟨_, by rw [dePacketizeRtpPackets, hpartitions, Except.ok_bind], ?_⟩
    dsimp only
    rw [hparts, List.flatten_cons, hflatten, List.take_append_drop]
  · have hpiece : ∀ isStart isLast chunk, chunk.length ≤ chunkSize →
        (descriptor isStart isLast ++ chunk).length ≤ p.maxPayloadSize := by
      intro isStart isLast chunk hchunk
      rw [List.length_append, hdescriptor]
      exact (Nat.add_le_add_left hchunk _).trans hmax
    have hcut : ∀ x ∈ cutPayloads chunkSize descriptor true data, x.1.length ≤ p.maxPayloadSize :=
      forall_mem_cutPayloads hsize (P := fun payload => payload.length ≤ p.maxPayloadSize)
        (fun isLast => hpiece true isLast _ (List.length_take_le _ _)) (hpiece false)
    exact p.forall_mem_buildPackets timestamp (P := fun payload => payload.length ≤ p.maxPayloadSize) hcut
  · rw [p.buildPackets_markers, map_snd_cutPayloads hsize hdata, hlength]
  · rw [hpayloads, hlength, cutPayloads_of_ne_nil hsize hdata, List.map_cons, List.mapM_cons, hheadFirst,
      Except.ok_bind, mapM_cutPayloads hsize hheadLater]
    rfl

/-! ## Runs -/

/-- The frames are packetized one after the other. -/
def packetizeFrames {S F : Type} (packetize : S → F → Except String (List RtpPacket × S)) :
    S → List F → Except String (List (List RtpPacket) × S)
  | p, [] => .ok ([], p)
  | p, frame :: frames => do
    let (packets, p) ← packetize p frame
    let (sent, p) ← packetizeFrames packetize p frames
    .ok (packets :: sent, p)

/-- **Frames that have been sent**: each of them, and the packets of all are numbered one after the other. -/
structure FramesSent (Depacketizer : DeSerialize) (isPartitionHead : Bytes → Except String Bool)
    (maxPayloadSize : ℕ) (frames : List Bytes) (sent : List (List RtpPacket)) : Prop where
  frames : List.Forall₂ (FrameSent Depacketizer isPartitionHead maxPayloadSize) frames sent
  sequence : sent.flatten.IsChain fun packet next =>
    next.header.sequenceNumber = (packet.header.sequenceNumber + 1) % 2 ^ 16

/-- A list of pairs, each related as its first part says. -/
lemma forall₂_iff_forall {α β : Type} {R : α → β → Prop} {P : α → Prop} {l : List α} {l' : List β}
    (h : List.Forall₂ (fun a b => R a b ↔ P a) l l') : List.Forall₂ R l l' ↔ ∀ a ∈ l, P a := by
  induction h with
  | nil => exact ⟨fun _ => by simp, fun _ => .nil⟩
  | cons hab _ ih => rw [List.forall₂_cons, List.forall_mem_cons, hab, ih]

section Runs

variable {S F : Type} {packetize : S → F → Except String (List RtpPacket × S)} (base : S → PacketizerBase)
  {data : F → Bytes} {isPartitionHead : Bytes → Except String Bool} {P : F → Prop} {frames : List F}
  {p p' : S} {sent : List (List RtpPacket)} {maxPayloadSize : ℕ}

/-- A run is accepted if each of its steps is. -/
lemma exists_packetizeFrames {I : S → Prop} (hp : I p)
    (hstep : ∀ p frame, I p → ∃ packets p', packetize p frame = .ok (packets, p') ∧ I p') :
    ∃ sent p', packetizeFrames packetize p frames = .ok (sent, p') := by
  induction frames generalizing p with
  | nil => exact ⟨[], p, rfl⟩
  | cons frame frames ih =>
    obtain ⟨packets, q, hfirst, hq⟩ := hstep p frame hp
    obtain ⟨sent, p', hrest⟩ := ih hq
    refine ⟨packets :: sent, p', ?_⟩
    rw [packetizeFrames, hfirst, Except.ok_bind]
    dsimp only
    rw [hrest]
    rfl

/-- **The steps of a run**: the frames are sent if `P` holds of them, and the packets are numbered from the
number of the packetizer on. -/
lemma packetizeFrames_spec (hmax : (base p).maxPayloadSize = maxPayloadSize)
    (hstep : ∀ p frame packets p', frame ∈ frames → (base p).maxPayloadSize = maxPayloadSize →
      packetize p frame = .ok (packets, p') → packets ≠ [] ∧
        (∃ timestamp payloads, (base p).buildPackets timestamp payloads = (packets, base p')) ∧
        (FrameSent Depacketizer isPartitionHead maxPayloadSize (data frame) packets ↔ P frame))
    (h : packetizeFrames packetize p frames = .ok (sent, p')) :
    List.Forall₂ (fun frame packets =>
      FrameSent Depacketizer isPartitionHead maxPayloadSize (data frame) packets ↔ P frame) frames sent ∧
    (sent.flatten.IsChain fun packet next =>
      next.header.sequenceNumber = (packet.header.sequenceNumber + 1) % 2 ^ 16) ∧
    ∀ packet ∈ sent.flatten.head?, packet.header.sequenceNumber = (base p).sequenceNumber := by
  induction frames generalizing p sent with
  | nil =>
    cases h
    exact ⟨.nil, .nil, by rintro packet ⟨⟩⟩
  | cons frame frames ih =>
    obtain ⟨⟨packets, q⟩, hfirst, h⟩ := Except.bind_eq_ok.mp h
    obtain ⟨⟨rest, q'⟩, hrest, h⟩ := Except.bind_eq_ok.mp h
    cases h
    obtain ⟨hne, ⟨timestamp, payloads, hbuild⟩, hsent⟩ := hstep _ _ _ _ List.mem_cons_self hmax hfirst
    have hpackets := congrArg Prod.fst hbuild
    have hbase := congrArg Prod.snd hbuild
    dsimp only at hpackets hbase
    have hmaxNext : (base q).maxPayloadSize = maxPayloadSize := by
      rw [← hbase, PacketizerBase.buildPackets_maxPayloadSize, hmax]
    obtain ⟨hlater, hchain, hhead⟩ := ih hmaxNext (fun p frame packets p' hmem =>
      hstep p frame packets p' (List.mem_cons_of_mem _ hmem)) hrest
    refine ⟨.cons hsent hlater, ?_, ?_⟩
    · rw [List.flatten_cons]
      refine List.isChain_append.mpr ⟨hpackets ▸ (base p).buildPackets_isChain timestamp payloads, hchain, ?_⟩
      intro packet hpacket next hnext
      rw [hhead next hnext, ← hbase]
      exact (base p).buildPackets_getLast timestamp packet (hpackets ▸ hpacket)
    · intro packet hpacket
      rw [List.flatten_cons, List.head?_append_of_ne_nil _ hne] at hpacket
      exact (base p).buildPackets_head timestamp packet (hpackets ▸ hpacket)

/-- **A run** sends its frames if `P` holds of all of them. -/
lemma framesSent_iff_forall (hmax : (base p).maxPayloadSize = maxPayloadSize)
    (hstep : ∀ p frame packets p', frame ∈ frames → (base p).maxPayloadSize = maxPayloadSize →
      packetize p frame = .ok (packets, p') → packets ≠ [] ∧
        (∃ timestamp payloads, (base p).buildPackets timestamp payloads = (packets, base p')) ∧
        (FrameSent Depacketizer isPartitionHead maxPayloadSize (data frame) packets ↔ P frame))
    (h : packetizeFrames packetize p frames = .ok (sent, p')) :
    FramesSent Depacketizer isPartitionHead maxPayloadSize (frames.map data) sent ↔
      ∀ frame ∈ frames, P frame := by
  obtain ⟨heach, hchain, -⟩ := packetizeFrames_spec base hmax hstep h
  rw [← forall₂_iff_forall heach, ← List.forall₂_map_left_iff]
  exact ⟨fun hsent => hsent.frames, fun hframes => ⟨hframes, hchain⟩⟩

end Runs

end Werift.Codec
