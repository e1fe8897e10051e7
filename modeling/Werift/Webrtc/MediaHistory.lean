import Werift.Lib.SlotHistory
import Werift.Lib.Transition
import Werift.Webrtc.RtpSender

/-!
# Retransmissions

The sender keeps each media packet in the slot of its number, until another packet takes the slot or the
source is replaced.  What it keeps is the packet as it was before RED and the padding.  So a packet that is
sent again is the original one unless RED is in use: RED was on the wire, and the retransmission has the
media only (`retransmission_iff`).
-/

namespace Werift.Webrtc

open Rtp (Bytes RtpHeader RtpPacket isPaddingOnlyRtpPacket)
open SlotHistory (Latest)

variable {params : SendParams} {s s' : RTCRtpSender} {m : SentMedia}

/-- The fields in which a packet that is sent again has to be the original one. -/
structure SameMedia (packet original : RtpPacket) : Prop where
  payload : packet.payload = original.payload
  payloadType : packet.header.payloadType = original.header.payloadType
  marker : packet.header.marker = original.header.marker
  sequenceNumber : packet.header.sequenceNumber = original.header.sequenceNumber
  timestamp : packet.header.timestamp = original.header.timestamp

/-- What the receiver gets out of `wire` is what it would have got out of `original`. -/
def SendParams.Reproduces (params : SendParams) (wire original : RtpPacket) : Prop :=
  ∃ packet, params.restore wire.received = .ok packet ∧ SameMedia packet original.received

/-- Media is sent as it is, and RTX is for the codec that is sent. -/
def SendParams.Plain (params : SendParams) : Prop :=
  params.useRed = false ∧ ∀ rtxPayloadType, params.rtxPayloadType = some rtxPayloadType →
    params.codec = some (params.sendPrimaryCodec.getD rtxPayloadType)

/-! ## One packet -/

/-- RED puts at least one octet in front of a block. -/
lemma length_lt_serialize_build (distance : ℕ) (cache : List Rtp.RedPayload) (payload : Rtp.RedPayload) :
    payload.block.length <
      (Rtp.Red.serialize (Rtp.RedEncoder.build distance (Rtp.RedEncoder.push cache payload))).length := by
  have hlast : (Rtp.RedEncoder.push cache payload).getLast? = some payload := by
    rw [Rtp.RedEncoder.push]
    split_ifs with hfull
    · rw [List.getLast?_tail, List.getLast?_concat, if_neg]
      rw [List.length_append, List.length_singleton] at hfull ⊢
      rw [Rtp.cacheSize] at hfull
      omega
    · rw [List.getLast?_concat]
  generalize Rtp.RedEncoder.push cache payload = cache at hlast
  have hdrop : (cache.drop (cache.length - (distance + 1))).getLast? = some payload := by
    have hpos : cache ≠ [] := by
      rintro rfl
      cases hlast
    rw [List.getLast?_drop, if_neg, hlast]
    have := List.length_pos_iff.mpr hpos
    omega
  rw [Rtp.RedEncoder.build, hdrop]
  dsimp only
  have hfield : (Rtp.RedBlock.field ⟨payload.block, payload.blockPT, none⟩).serialize.length = 1 := by
    rw [Rtp.RedBlock.field]
    dsimp only
    rw [Rtp.RedHeaderField.serialize, if_neg (by simp), BitStream.length_writeBits,
      BitStream.length_writeBits]
    rfl
  simp only [Rtp.Red.serialize, List.map_append, List.map_cons, List.map_nil, List.flatten_append,
    List.flatten_cons, List.flatten_nil, List.append_nil, List.length_append, hfield]
  omega

namespace RTCRtpSender

/-- The padding that has been put behind a payload is cut off again. -/
lemma received_padPayload {header : RtpHeader} {payload wire : Bytes}
    (h : padPayload header payload = .ok wire) :
    RtpPacket.received ⟨header, wire⟩ = ⟨header, payload⟩ := by
  rw [padPayload] at h
  split_ifs at h with hpadding
  · exact Rtp.received_appendRfc3550Padding hpadding.1 h
  · obtain rfl := Except.ok.inj h
    rw [RtpPacket.received]
    split_ifs with hbit
    · have hsize : header.paddingSize = 0 := by
        by_contra hsize
        exact hpadding ⟨hbit, Nat.pos_of_ne_zero hsize⟩
      rw [hsize, Nat.sub_zero, List.take_length]
    · rfl

end RTCRtpSender

/-- A media packet: the object has the header that went out but for the extensions, and what went out is
the payload of the object unless RED has wrapped it. -/
structure SentMedia.Sound (params : SendParams) (m : SentMedia) : Prop where
  header : ∃ extensions, m.packet.header = { m.wire.header with extensions }
  number : m.wire.header.sequenceNumber < 0x10000
  notPadding : isPaddingOnlyRtpPacket m.packet = false
  padded : ∀ payload, ∃ wire, RTCRtpSender.padPayload m.wire.header payload = .ok wire
  payloadType : params.codec = some m.wire.header.payloadType
  plain : params.useRed = false → m.wire.received.payload = m.packet.payload
  red : params.useRed = true → m.packet.payload.length < m.wire.received.payload.length

@[simp] lemma received_header (wire : RtpPacket) : wire.received.header = wire.header := by
  rw [RtpPacket.received]
  split_ifs <;> rfl

/-- Padding that has been put behind a payload can be put behind each. -/
lemma RTCRtpSender.padPayload_ok {header : RtpHeader} {payload wire : Bytes}
    (h : padPayload header payload = .ok wire) (payload' : Bytes) :
    ∃ wire', padPayload header payload' = .ok wire' := by
  rw [padPayload, Rtp.appendRfc3550Padding] at h ⊢
  split_ifs at h ⊢ <;> exact ⟨_, rfl⟩

/-- **A retransmission and its original.**  A packet with the payload of the object and the numbers of the
original is what the receiver should get exactly if no RED is in use and its payload type is the one that
the original went out with. -/
lemma SentMedia.Sound.sameMedia_iff (h : m.Sound params) {packet : RtpPacket}
    (hpayload : packet.payload = m.packet.payload) (hmarker : packet.header.marker = m.wire.header.marker)
    (hnumber : packet.header.sequenceNumber = m.wire.header.sequenceNumber)
    (htimestamp : packet.header.timestamp = m.wire.header.timestamp) :
    SameMedia packet m.wire.received ↔
      params.useRed = false ∧ params.codec = some packet.header.payloadType := by
  rw [h.payloadType, Option.some_inj]
  constructor
  · intro hsame
    refine ⟨?_, ?_⟩
    · by_contra hred
      have hlong := h.red (Bool.not_eq_false _ |>.mp hred)
      rw [← hsame.payload, hpayload] at hlong
      exact lt_irrefl _ hlong
    · rw [hsame.payloadType, received_header]
  · rintro ⟨hred, htype⟩
    refine ⟨?_, ?_, ?_, ?_, ?_⟩
    · rw [hpayload, h.plain hred]
    · rw [received_header, htype]
    · rw [received_header, hmarker]
    · rw [received_header, hnumber]
    · rw [received_header, htimestamp]

namespace RTCRtpSender

/-! ## One call -/

/-- The part of a sender that retransmissions depend on has not changed. -/
structure SameHistory (s s' : RTCRtpSender) : Prop where
  media : s'.media = s.media
  rtpCache : s'.rtpCache = s.rtpCache
  cleared : s'.cleared = s.cleared
  pending : s'.pending = s.pending
  resent : s'.resent = s.resent

lemma sameHistory_assignNumbers (kind : SendKind) (sequenceNumber timestamp : ℕ) (header : RtpHeader) :
    s.SameHistory (s.assignNumbers kind sequenceNumber timestamp header).1 := by
  cases kind <;> exact ⟨rfl, rfl, rfl, rfl, rfl⟩

variable (params) in
lemma sameHistory_encodePayload (kind : SendKind) (header : RtpHeader) (payload : Bytes) :
    s.SameHistory (s.encodePayload params kind header payload).1 := by
  rw [encodePayload]
  split_ifs <;> exact ⟨rfl, rfl, rfl, rfl, rfl⟩

lemma SameHistory.trans {s'' : RTCRtpSender} (h : s.SameHistory s') (h' : s'.SameHistory s'') :
    s.SameHistory s'' :=
  ⟨h'.media.trans h.media, h'.rtpCache.trans h.rtpCache, h'.cleared.trans h.cleared,
    h'.pending.trans h.pending, h'.resent.trans h.resent⟩

/-- The packet with its numbers, and the sender behind that. -/
def numbered (params : SendParams) (s : RTCRtpSender) (kind : SendKind) (codec : ℕ) (rtp : RtpPacket) :
    RTCRtpSender × RtpHeader :=
  s.assignNumbers kind rtp.header.sequenceNumber rtp.header.timestamp
    (s.prepareHeader params kind codec rtp.header)

/-- The payload that is padded, and the sender behind that. -/
def encoded (params : SendParams) (s : RTCRtpSender) (kind : SendKind) (codec : ℕ) (rtp : RtpPacket) :
    RTCRtpSender × Bytes :=
  (s.numbered params kind codec rtp).1.encodePayload params kind (s.numbered params kind codec rtp).2
    rtp.payload

variable (params) in
/-- **A call of `sendRtpInternal`** either sends nothing and leaves the history as it is, or sends the
packet with its numbers and remembers it. -/
theorem sendRtpInternal_cases (kind : SendKind) (rtp : RtpPacket) (ntpTime : ℕ) :
    (s.SameHistory (s.sendRtpInternal params kind rtp ntpTime).1 ∧
      (s.sendRtpInternal params kind rtp ntpTime).2 = none ∧
      ∀ codec, params.codec = some codec → (kind = .probePadding ∧ params.rtxPayloadType = none) ∨
        ∃ e, padPayload (s.numbered params kind codec rtp).2 (s.encoded params kind codec rtp).2 =
          .error e) ∨
    ∃ codec t wirePayload extensions, params.codec = some codec ∧ s.SameHistory t ∧
      padPayload (s.numbered params kind codec rtp).2 (s.encoded params kind codec rtp).2 =
        .ok wirePayload ∧
      s.sendRtpInternal params kind rtp ntpTime =
        (t.remember kind ⟨{ (s.numbered params kind codec rtp).2 with extensions }, rtp.payload⟩
          ⟨{ (s.numbered params kind codec rtp).2 with extensions }, wirePayload⟩,
          some ⟨{ (s.numbered params kind codec rtp).2 with extensions }, wirePayload⟩) := by
  have hsame : s.SameHistory s := ⟨rfl, rfl, rfl, rfl, rfl⟩
  cases hcodec : params.codec with
  | none =>
    left
    rw [sendRtpInternal, hcodec]
    exact ⟨hsame, rfl, fun codec h => nomatch h⟩
  | some codec =>
    by_cases hpadding : kind = .probePadding ∧ params.rtxPayloadType = none
    · left
      simp only [sendRtpInternal, hcodec, if_pos hpadding]
      exact ⟨hsame, trivial, fun _ _ => .inl hpadding⟩
    · have hhistory : s.SameHistory (s.encoded params kind codec rtp).1 :=
        (sameHistory_assignNumbers ..).trans (sameHistory_encodePayload ..)
      cases hpadded : padPayload (s.numbered params kind codec rtp).2
          (s.encoded params kind codec rtp).2 with
      | error e =>
        left
        have hcall : s.sendRtpInternal params kind rtp ntpTime =
            ((s.encoded params kind codec rtp).1, none) := by
          rw [encoded, numbered] at hpadded
          simp only [sendRtpInternal, hcodec, if_neg hpadding, hpadded, encoded, numbered]
        rw [hcall]
        refine ⟨hhistory, rfl, fun codec' h => .inr ?_⟩
        obtain rfl := Option.some.inj h
        exact ⟨e, hpadded⟩
      | ok wirePayload =>
        right
        refine ⟨codec, { (s.encoded params kind codec rtp).1 with
          transport := (Rtp.stampHopByHopExtensions params.headerExtensions ntpTime
            (s.encoded params kind codec rtp).1.transport
            (s.numbered params kind codec rtp).2.extensions).1 }, wirePayload,
          (Rtp.stampHopByHopExtensions params.headerExtensions ntpTime
            (s.encoded params kind codec rtp).1.transport
            (s.numbered params kind codec rtp).2.extensions).2, rfl,
          hhistory.trans ⟨rfl, rfl, rfl, rfl, rfl⟩, hpadded, ?_⟩
        rw [encoded, numbered] at hpadded
        simp only [sendRtpInternal, hcodec, if_neg hpadding, hpadded, encoded, numbered]

/-- A sender that has sent one media packet more. -/
structure Appended (params : SendParams) (s s' : RTCRtpSender) (m : SentMedia) : Prop where
  sound : m.Sound params
  media : s'.media = s.media ++ [m]
  rtpCache : s'.rtpCache =
    s.rtpCache.set (m.wire.header.sequenceNumber % RTP_HISTORY_SIZE : ℕ) s.media.length
  cleared : s'.cleared = s.cleared
  pending : s'.pending = s.pending
  resent : s'.resent = s.resent

variable (params) in
/-- **A media packet** is appended to the history unless it is padding only. -/
theorem sendRtpInternal_media (rtp : RtpPacket) (ntpTime : ℕ) :
    s.SameHistory (s.sendRtpInternal params .media rtp ntpTime).1 ∨
      ∃ m, s.Appended params (s.sendRtpInternal params .media rtp ntpTime).1 m := by
  obtain ⟨hsame, -⟩ | ⟨codec, t, wirePayload, extensions, hcodec, hsame, hpadded, hcall⟩ :=
    s.sendRtpInternal_cases params .media rtp ntpTime
  · exact .inl hsame
  · rw [hcall]
    dsimp only [remember]
    split_ifs with hmedia
    · right
      let header : RtpHeader := { (s.numbered params .media codec rtp).2 with extensions }
      have hpadded' : padPayload header (s.encoded params .media codec rtp).2 = .ok wirePayload := hpadded
      have hreceived := received_padPayload hpadded'
      refine ⟨⟨⟨header, rtp.payload⟩, ⟨header, wirePayload⟩⟩, ⟨⟨extensions, rfl⟩, ?_, hmedia.2,
        padPayload_ok hpadded', ?_, ?_, ?_⟩, ?_, ?_, hsame.cleared, hsame.pending, hsame.resent⟩
      · exact s.continuity.assign_lt (s.prepareHeader params .media codec rtp.header) _ _
      · exact hcodec
      · intro hred
        rw [hreceived, encoded, encodePayload, if_neg (by simp [hred])]
      · intro hred
        rw [hreceived, encoded, encodePayload, if_pos ⟨hred, rfl⟩]
        exact length_lt_serialize_build params.redDistance _ (Rtp.RedPayload.mk rtp.payload _ _)
      · rw [hsame.media]
      · rw [hsame.rtpCache, hsame.media]
    · exact .inl hsame

variable (params) in
/-- Other packets leave the history as it is. -/
lemma sendRtpInternal_other {kind : SendKind} (hkind : kind ≠ .media) (rtp : RtpPacket) (ntpTime : ℕ) :
    s.SameHistory (s.sendRtpInternal params kind rtp ntpTime).1 := by
  obtain ⟨hsame, -⟩ | ⟨codec, t, wirePayload, extensions, -, hsame, -, hcall⟩ :=
    s.sendRtpInternal_cases params kind rtp ntpTime
  · exact hsame
  · rw [hcall]
    dsimp only [remember]
    rw [if_neg fun h => hkind h.1]
    exact hsame

/-- **A retransmission** goes out with its payload and its numbers. -/
theorem sendRtpInternal_retransmission {rtp : RtpPacket} (hcodec : params.codec ≠ none)
    (hpadded : ∃ wire, padPayload rtp.header rtp.payload = .ok wire) (ntpTime : ℕ) :
    ∃ wire, (s.sendRtpInternal params .retransmission rtp ntpTime).2 = some wire ∧
      wire.received.payload = rtp.payload ∧
      ∃ extensions, wire.header = { rtp.header with extensions } := by
  have hencoded (codec : ℕ) : (s.encoded params .retransmission codec rtp).2 = rtp.payload := by
    rw [encoded, encodePayload, if_neg (fun h => nomatch h.2)]
  obtain ⟨-, -, hnone⟩ | ⟨codec, t, wirePayload, extensions, -, -, hpadded', hcall⟩ :=
    s.sendRtpInternal_cases params .retransmission rtp ntpTime
  · obtain ⟨codec, hcodec⟩ := Option.ne_none_iff_exists'.mp hcodec
    obtain ⟨hkind, -⟩ | ⟨e, herror⟩ := hnone codec hcodec
    · cases hkind
    · obtain ⟨wire, hwire⟩ := hpadded
      rw [hencoded] at herror
      exact absurd (hwire.symm.trans herror) (by simp)
  · refine ⟨_, by rw [hcall], ?_, extensions, rfl⟩
    let header : RtpHeader := { (s.numbered params .retransmission codec rtp).2 with extensions }
    have hpadded'' : padPayload header (s.encoded params .retransmission codec rtp).2 =
        .ok wirePayload := hpadded'
    rw [received_padPayload hpadded'', hencoded]

/-! ## Runs -/

/-- The numbers of the media packets that have been sent. -/
def numbers (s : RTCRtpSender) : List ℕ := s.media.map fun m => m.wire.header.sequenceNumber

/-- The packet with the index `i` has the number, and can still be sent again: no other packet has taken
its slot, and the source has not been replaced since. -/
def InHistory (s : RTCRtpSender) (seqNum i : ℕ) : Prop :=
  s.numbers[i]? = some seqNum ∧
    Latest s.numbers s.cleared RTP_HISTORY_SIZE (seqNum % RTP_HISTORY_SIZE) i

/-- What has been asked for is one of the media packets that have been sent. -/
def Asked (params : SendParams) (s : RTCRtpSender) (r : Retransmission) : Prop :=
  ∃ m, s.media[r.index]? = some m ∧ m.wire.header.sequenceNumber = r.seqNum ∧
    match r.rtx with
    | none => params.rtxPayloadType = none
    | some rtx => params.rtxPayloadType ≠ none ∧ rtx.header.padding = false ∧
        rtx.header.marker = m.wire.header.marker ∧ rtx.header.timestamp = m.wire.header.timestamp ∧
        rtx.payload = BigEndian.encode 2 r.seqNum ++ m.packet.payload

/-- What has been sent again is the original exactly if media is sent as it is. -/
def Answered (params : SendParams) (s : RTCRtpSender) (r : Resent) : Prop :=
  ∃ m, s.media[r.index]? = some m ∧ m.wire.header.sequenceNumber = r.seqNum ∧
    (params.Reproduces r.wire m.wire ↔ params.Plain)

/-- The history is the one that the packets have left. -/
structure Consistent (params : SendParams) (s : RTCRtpSender) : Prop where
  cleared_le : s.cleared ≤ s.media.length
  cache (slot i : ℕ) :
    s.rtpCache.get? slot = some i ↔ Latest s.numbers s.cleared RTP_HISTORY_SIZE slot i
  sound : ∀ m ∈ s.media, m.Sound params
  asked : ∀ r ∈ s.pending, s.Asked params r
  answered : ∀ r ∈ s.resent, s.Answered params r

/-- Media packets are only appended, and keep what went out and the payload. -/
def Continues (s s' : RTCRtpSender) : Prop :=
  ∀ (i : ℕ) (m : SentMedia), s.media[i]? = some m → ∃ m' : SentMedia, s'.media[i]? = some m' ∧
    m'.wire = m.wire ∧ m'.packet.payload = m.packet.payload

lemma Continues.of_media_eq (h : s'.media = s.media) : s.Continues s' := by
  intro i m hm
  exact ⟨m, by rw [h, hm], rfl, rfl⟩

lemma Appended.continues (h : s.Appended params s' m) : s.Continues s' := by
  intro i m' hm'
  refine ⟨m', ?_, rfl, rfl⟩
  rw [h.media, List.getElem?_append_left (List.getElem?_eq_some_iff.mp hm').1, hm']

lemma Asked.mono (hcontinues : s.Continues s') {r : Retransmission} (h : s.Asked params r) :
    s'.Asked params r := by
  obtain ⟨m, hm, hnumber, hrtx⟩ := h
  obtain ⟨m', hm', hwire, hpayload⟩ := hcontinues r.index m hm
  exact ⟨m', hm', by rw [hwire, hnumber], by rwa [hwire, hpayload]⟩

lemma Answered.mono (hcontinues : s.Continues s') {r : Resent} (h : s.Answered params r) :
    s'.Answered params r := by
  obtain ⟨m, hm, hnumber, hiff⟩ := h
  obtain ⟨m', hm', hwire, -⟩ := hcontinues r.index m hm
  exact ⟨m', hm', by rw [hwire, hnumber], by rwa [hwire]⟩

/-- A sender with the same history is as consistent. -/
lemma Consistent.of_sameHistory (h : s.Consistent params) (hsame : s.SameHistory s') :
    s'.Consistent params := by
  have hcontinues : s.Continues s' := .of_media_eq hsame.media
  have hnumbers : s'.numbers = s.numbers := by rw [numbers, numbers, hsame.media]
  refine ⟨?_, fun slot i => ?_, ?_, fun r hr => ?_, fun r hr => ?_⟩
  · rw [hsame.cleared, hsame.media]
    exact h.cleared_le
  · rw [hsame.rtpCache, hnumbers, hsame.cleared]
    exact h.cache slot i
  · rw [hsame.media]
    exact h.sound
  · rw [hsame.pending] at hr
    exact (h.asked r hr).mono hcontinues
  · rw [hsame.resent] at hr
    exact (h.answered r hr).mono hcontinues

/-- A media packet takes its slot. -/
lemma Consistent.appended (h : s.Consistent params) (happended : s.Appended params s' m) :
    s'.Consistent params := by
  have hnumbers : s'.numbers = s.numbers ++ [m.wire.header.sequenceNumber] := by
    rw [numbers, numbers, happended.media, List.map_append]
    rfl
  have hlength : s.numbers.length = s.media.length := List.length_map _
  refine ⟨?_, fun slot i => ?_, fun m' hm' => ?_, fun r hr => ?_, fun r hr => ?_⟩
  · rw [happended.cleared, happended.media, List.length_append]
    exact Nat.le_add_right_of_le h.cleared_le
  · rw [happended.rtpCache, happended.cleared, hnumbers,
      SlotHistory.latest_concat (hlength ▸ h.cleared_le), Js.IndexObject.get?_set, hlength, ← h.cache]
    by_cases hslot : m.wire.header.sequenceNumber % RTP_HISTORY_SIZE = slot
    · rw [if_pos hslot, if_pos (by rw [hslot]), Option.some_inj, eq_comm]
    · rw [if_neg hslot, if_neg (by
        intro heq
        exact hslot (Nat.cast_injective heq).symm)]
  · rw [happended.media] at hm'
    obtain hm' | hm' := List.mem_append.mp hm'
    · exact h.sound m' hm'
    · rw [List.mem_singleton.mp hm']
      exact happended.sound
  · rw [happended.pending] at hr
    exact (h.asked r hr).mono happended.continues
  · rw [happended.resent] at hr
    exact (h.answered r hr).mono happended.continues

/-- Replacing the source empties the history. -/
lemma Consistent.scheduleRtpContinuity (h : s.Consistent params) (timestampStep : ℤ) :
    (s.scheduleRtpContinuity timestampStep).Consistent params := by
  refine ⟨le_rfl, fun slot i => ?_, h.sound, h.asked, h.answered⟩
  have hlength : s.media.length = s.numbers.length := (List.length_map _).symm
  have hnone : ¬ Latest s.numbers s.numbers.length RTP_HISTORY_SIZE slot i :=
    SlotHistory.not_latest_length
  rw [← hlength] at hnone
  exact ⟨fun hsome => (nomatch hsome), fun hlatest => absurd hlatest hnone⟩

/-- A number in the history is found. -/
lemma Consistent.inHistory_iff (h : s.Consistent params) {seqNum i : ℕ} : s.InHistory seqNum i ↔
    s.rtpCache.get? (seqNum % RTP_HISTORY_SIZE : ℕ) = some i ∧
      ∃ m, s.media[i]? = some m ∧ m.wire.header.sequenceNumber = seqNum := by
  rw [InHistory, ← h.cache, and_comm, numbers, List.getElem?_map, Option.map_eq_some_iff]

/-- What a NACK does with the packet in the slot of its number. -/
lemma handleNack_eq {seqNum i : ℕ} (hcache : s.rtpCache.get? (seqNum % RTP_HISTORY_SIZE : ℕ) = some i)
    (hm : s.media[i]? = some m) : s.handleNack params seqNum =
      if m.packet.header.sequenceNumber ≠ seqNum then s
      else if isPaddingOnlyRtpPacket m.packet then s
      else s.queue params seqNum i m.packet := by
  rw [handleNack, hcache]
  simp only [hm]

variable (params) in
/-- A packet whose number has 16 bits is queued. -/
lemma queue_eq {packet : RtpPacket} (hlow : packet.header.sequenceNumber < 0x10000) (seqNum i : ℕ) :
    ∃ r n, s.queue params seqNum i packet =
        { s with pending := s.pending ++ [r], rtxSequenceNumber := n } ∧
      r.seqNum = seqNum ∧ r.index = i ∧
      match r.rtx with
      | none => params.rtxPayloadType = none
      | some rtx => params.rtxPayloadType ≠ none ∧ rtx.header.padding = false ∧
          rtx.header.marker = packet.header.marker ∧ rtx.header.timestamp = packet.header.timestamp ∧
          rtx.payload = BigEndian.encode 2 packet.header.sequenceNumber ++ packet.payload := by
  simp only [queue, Rtp.wrapRtx_eq hlow]
  cases hrtx : params.rtxPayloadType with
  | none => exact ⟨⟨seqNum, i, none⟩, s.rtxSequenceNumber, rfl, rfl, rfl, rfl⟩
  | some rtxPayloadType =>
    exact ⟨⟨seqNum, i, some _⟩, _, rfl, rfl, rfl, by simp, rfl, rfl, rfl, rfl⟩

/-- **A NACK for a packet in the history** is answered. -/
theorem Consistent.handleNack_of_inHistory (h : s.Consistent params) {seqNum i : ℕ}
    (hin : s.InHistory seqNum i) : ∃ r n, r.seqNum = seqNum ∧ r.index = i ∧ s.Asked params r ∧
      s.handleNack params seqNum = { s with pending := s.pending ++ [r], rtxSequenceNumber := n } := by
  obtain ⟨hcache, m, hm, hnumber⟩ := h.inHistory_iff.mp hin
  have hsound := h.sound m (List.mem_of_getElem? hm)
  obtain ⟨extensions, hheader⟩ := hsound.header
  have hpacket : m.packet.header.sequenceNumber = seqNum := by rw [hheader, ← hnumber]
  have hlow : m.packet.header.sequenceNumber < 0x10000 := by
    rw [hpacket, ← hnumber]
    exact hsound.number
  have hnotPadding : ¬ isPaddingOnlyRtpPacket m.packet = true := by
    rw [hsound.notPadding]
    exact Bool.false_ne_true
  obtain ⟨r, n, hqueue, hr, hi, hrtx⟩ := s.queue_eq params hlow seqNum i
  refine ⟨r, n, hr, hi, ⟨m, by rw [hi, hm], by rw [hr, hnumber], ?_⟩, ?_⟩
  · cases hwrapped : r.rtx with
    | none =>
      rw [hwrapped] at hrtx
      exact hrtx
    | some rtx =>
      rw [hwrapped, hpacket, hheader] at hrtx
      rw [hr]
      exact hrtx
  · rw [handleNack_eq hcache hm, if_neg (not_not.mpr hpacket), if_neg hnotPadding, hqueue]

/-- A NACK for any other number changes nothing. -/
theorem Consistent.handleNack_of_not_inHistory (h : s.Consistent params) {seqNum : ℕ}
    (hnot : ∀ i, ¬ s.InHistory seqNum i) : s.handleNack params seqNum = s := by
  cases hcache : s.rtpCache.get? (seqNum % RTP_HISTORY_SIZE : ℕ) with
  | none => rw [RTCRtpSender.handleNack, hcache]
  | some i =>
    cases hm : s.media[i]? with
    | none =>
      rw [RTCRtpSender.handleNack, hcache]
      simp only [hm]
    | some m =>
      have hne : m.packet.header.sequenceNumber ≠ seqNum := by
        intro hnumber
        obtain ⟨extensions, hheader⟩ := (h.sound m (List.mem_of_getElem? hm)).header
        rw [hheader] at hnumber
        exact hnot i (h.inHistory_iff.mpr ⟨hcache, m, hm, hnumber⟩)
      rw [handleNack_eq hcache hm, if_pos hne]

lemma Consistent.handleNack (h : s.Consistent params) (seqNum : ℕ) :
    (s.handleNack params seqNum).Consistent params := by
  by_cases hin : ∃ i, s.InHistory seqNum i
  · obtain ⟨i, hin⟩ := hin
    obtain ⟨r, n, -, -, hasked, heq⟩ := h.handleNack_of_inHistory hin
    rw [heq]
    refine ⟨h.cleared_le, h.cache, h.sound, fun r' hr' => ?_, h.answered⟩
    obtain hr' | hr' := List.mem_append.mp hr'
    · exact h.asked r' hr'
    · rw [List.mem_singleton.mp hr']
      exact hasked
  · rw [h.handleNack_of_not_inHistory (not_exists.mp hin)]
    exact h

/-- The object of a packet that has been sent again has the header of the retransmission. -/
lemma Consistent.setHeader (h : s.Consistent params) {i : ℕ} (hm : s.media[i]? = some m)
    (extensions : List Rtp.Extension) :
    (s.setHeader i { m.packet.header with extensions }).Consistent params ∧
      s.Continues (s.setHeader i { m.packet.header with extensions }) := by
  have hi := (List.getElem?_eq_some_iff.mp hm).1
  have hget (j : ℕ) : (s.setHeader i { m.packet.header with extensions }).media[j]? =
      if i = j then (s.media[j]?).map fun m' => { m' with
        packet := ⟨{ m.packet.header with extensions }, m'.packet.payload⟩ } else s.media[j]? := by
    rw [RTCRtpSender.setHeader, List.getElem?_modify]
    split_ifs <;> simp
  have hcontinues : s.Continues (s.setHeader i { m.packet.header with extensions }) := by
    intro j m' hm'
    rw [hget, hm']
    split_ifs
    · exact ⟨_, rfl, rfl, rfl⟩
    · exact ⟨m', rfl, rfl, rfl⟩
  have hnumbers : (s.setHeader i { m.packet.header with extensions }).numbers = s.numbers := by
    apply List.ext_getElem?
    intro j
    rw [numbers, numbers, List.getElem?_map, List.getElem?_map, hget]
    split_ifs
    · rw [Option.map_map]
      rfl
    · rfl
  refine ⟨⟨?_, ?_, fun m' hm' => ?_, fun r hr => (h.asked r hr).mono hcontinues,
    fun r hr => (h.answered r hr).mono hcontinues⟩, hcontinues⟩
  · rw [RTCRtpSender.setHeader, List.length_modify]
    exact h.cleared_le
  · intro slot j
    rw [hnumbers]
    exact h.cache slot j
  · obtain ⟨j, hj⟩ := List.mem_iff_getElem?.mp hm'
    rw [hget] at hj
    split_ifs at hj with hij
    · subst hij
      rw [hm] at hj
      obtain rfl := Option.some.inj hj
      have hsound := h.sound m (List.mem_of_getElem? hm)
      obtain ⟨extensions', hheader⟩ := hsound.header
      refine ⟨⟨extensions, by rw [hheader]⟩, hsound.number, ?_, hsound.padded, hsound.payloadType,
        hsound.plain, hsound.red⟩
      exact hsound.notPadding
    · exact h.sound m' (List.mem_of_getElem? hj)

/-- Sending RTX again leaves the media to the receiver. -/
lemma reproduces_rtx {rtx wire : RtpPacket} (hsound : m.Sound params)
    (hrtx : params.rtxPayloadType ≠ none) (hmarker : rtx.header.marker = m.wire.header.marker)
    (htimestamp : rtx.header.timestamp = m.wire.header.timestamp)
    (hpayload : rtx.payload = BigEndian.encode 2 m.wire.header.sequenceNumber ++ m.packet.payload)
    (hreceived : wire.received.payload = rtx.payload)
    (hheader : ∃ extensions, wire.header = { rtx.header with extensions }) :
    params.Reproduces wire m.wire ↔ params.Plain := by
  obtain ⟨rtxPayloadType, hrtx⟩ := Option.ne_none_iff_exists'.mp hrtx
  obtain ⟨extensions, hheader⟩ := hheader
  have hrestore := Rtp.unwrapRtx_eq hsound.number (hreceived.trans hpayload)
    (params.sendPrimaryCodec.getD rtxPayloadType) params.ssrc
  let packet : RtpPacket := ⟨{
    payloadType := params.sendPrimaryCodec.getD rtxPayloadType
    marker := wire.received.header.marker
    sequenceNumber := m.wire.header.sequenceNumber
    timestamp := wire.received.header.timestamp
    ssrc := params.ssrc }, m.packet.payload⟩
  have hmarker' : packet.header.marker = m.wire.header.marker := by
    have hwire : wire.received.header.marker = rtx.header.marker := by rw [received_header, hheader]
    exact hwire.trans hmarker
  have htimestamp' : packet.header.timestamp = m.wire.header.timestamp := by
    have hwire : wire.received.header.timestamp = rtx.header.timestamp := by rw [received_header, hheader]
    exact hwire.trans htimestamp
  have hsame : SameMedia packet m.wire.received ↔ _ := hsound.sameMedia_iff rfl hmarker' rfl htimestamp'
  rw [SendParams.Reproduces, SendParams.restore, hrtx]
  dsimp only
  rw [hrestore]
  constructor
  · rintro ⟨packet, hpacket, hpacketSame⟩
    obtain rfl := Except.ok.inj hpacket
    obtain ⟨hred, hcodec⟩ := hsame.mp hpacketSame
    refine ⟨hred, fun rtxPayloadType' hrtx' => ?_⟩
    rw [hrtx] at hrtx'
    obtain rfl := Option.some.inj hrtx'
    exact hcodec
  · rintro ⟨hred, hcodec⟩
    exact ⟨_, rfl, hsame.mpr ⟨hred, hcodec rtxPayloadType hrtx⟩⟩

/-- Without RTX the object is sent again. -/
lemma reproduces_object {wire : RtpPacket} (hsound : m.Sound params)
    (hrtx : params.rtxPayloadType = none) (hreceived : wire.received.payload = m.packet.payload)
    (hheader : ∃ extensions, wire.header = { m.packet.header with extensions }) :
    params.Reproduces wire m.wire ↔ params.Plain := by
  obtain ⟨extensions, hheader⟩ := hheader
  obtain ⟨extensions', hobject⟩ := hsound.header
  rw [hobject] at hheader
  have hsame := hsound.sameMedia_iff hreceived (by rw [received_header, hheader])
    (by rw [received_header, hheader]) (by rw [received_header, hheader])
  have hcodec : params.codec = some wire.received.header.payloadType := by
    rw [received_header, hheader]
    exact hsound.payloadType
  rw [SendParams.Reproduces, SendParams.restore, hrtx, SendParams.Plain, hrtx]
  constructor
  · rintro ⟨packet, hpacket, hpacketSame⟩
    obtain rfl := Except.ok.inj hpacket
    exact ⟨(hsame.mp hpacketSame).1, fun rtxPayloadType h => (nomatch h)⟩
  · rintro ⟨hred, -⟩
    exact ⟨_, rfl, hsame.mpr ⟨hred, hcodec⟩⟩

lemma resend_rtx {r : Retransmission} {rtx wire : RtpPacket} {ntpTime : ℕ} (hr : r.rtx = some rtx)
    (hwire : (s.sendRtpInternal params .retransmission rtx ntpTime).2 = some wire) :
    s.resend params r ntpTime = { (s.sendRtpInternal params .retransmission rtx ntpTime).1 with
      resent := (s.sendRtpInternal params .retransmission rtx ntpTime).1.resent ++
        [Resent.mk r.seqNum r.index wire] } := by
  rw [RTCRtpSender.resend, hr]
  dsimp only
  generalize s.sendRtpInternal params .retransmission rtx ntpTime = call at hwire ⊢
  obtain ⟨t, out⟩ := call
  obtain rfl : out = some wire := hwire
  rfl

lemma resend_object {r : Retransmission} {wire : RtpPacket} {ntpTime : ℕ} (hr : r.rtx = none)
    (hm : s.media[r.index]? = some m)
    (hwire : (s.sendRtpInternal params .retransmission m.packet ntpTime).2 = some wire) :
    s.resend params r ntpTime =
      { (s.sendRtpInternal params .retransmission m.packet ntpTime).1.setHeader r.index wire.header with
        resent := (s.sendRtpInternal params .retransmission m.packet ntpTime).1.resent ++
          [Resent.mk r.seqNum r.index wire] } := by
  obtain ⟨packet, original⟩ := m
  rw [RTCRtpSender.resend, hr]
  dsimp only at hwire ⊢
  rw [hm]
  dsimp only
  generalize s.sendRtpInternal params .retransmission packet ntpTime = call at hwire ⊢
  obtain ⟨t, out⟩ := call
  obtain rfl : out = some wire := hwire
  rfl

/-- **A packet of the queue** goes out, and is what it should be exactly if media is sent as it is. -/
theorem Consistent.resend (h : s.Consistent params) {r : Retransmission} (hasked : s.Asked params r)
    (ntpTime : ℕ) : (s.resend params r ntpTime).Consistent params ∧
      ∃ wire, (s.resend params r ntpTime).resent = s.resent ++ [⟨r.seqNum, r.index, wire⟩] := by
  obtain ⟨m, hm, hnumber, hrtx⟩ := hasked
  have hsound := h.sound m (List.mem_of_getElem? hm)
  have hcodec : params.codec ≠ none := by
    rw [hsound.payloadType]
    exact Option.some_ne_none _
  have hanswered {t : RTCRtpSender} {wire : RtpPacket} (ht : t.Consistent params)
      (hcontinues : s.Continues t)
      (hiff : params.Reproduces wire m.wire ↔ params.Plain) :
      { t with resent := t.resent ++ [Resent.mk r.seqNum r.index wire] }.Consistent params := by
    refine ⟨ht.cleared_le, ht.cache, ht.sound, ht.asked, fun r' hr' => ?_⟩
    obtain hr' | hr' := List.mem_append.mp hr'
    · exact ht.answered r' hr'
    · obtain ⟨m', hm', hwire, -⟩ := hcontinues r.index m hm
      rw [List.mem_singleton.mp hr']
      exact ⟨m', hm', by rw [hwire, hnumber], by rw [hwire, hiff]⟩
  cases hwrapped : r.rtx with
  | some rtx =>
    rw [hwrapped] at hrtx
    obtain ⟨hrtx, hpadding, hmarker, htimestamp, hpayload⟩ := hrtx
    have hpadded : padPayload rtx.header rtx.payload = .ok rtx.payload := by
      rw [padPayload, if_neg (fun hpad => by rw [hpadding] at hpad; cases hpad.1)]
    obtain ⟨wire, hwire, hreceived, hheader⟩ :=
      s.sendRtpInternal_retransmission hcodec ⟨_, hpadded⟩ ntpTime
    have hsame := s.sendRtpInternal_other params
      (by decide : SendKind.retransmission ≠ .media) rtx ntpTime
    rw [resend_rtx hwrapped hwire]
    exact ⟨hanswered (h.of_sameHistory hsame) (.of_media_eq hsame.media)
      (reproduces_rtx hsound hrtx hmarker htimestamp (by rw [hnumber, hpayload]) hreceived hheader),
      wire, by rw [hsame.resent]⟩
  | none =>
    rw [hwrapped] at hrtx
    obtain ⟨extensions, hobject⟩ := hsound.header
    have hpadded : ∃ wire, padPayload m.packet.header m.packet.payload = .ok wire := by
      rw [hobject]
      exact hsound.padded m.packet.payload
    obtain ⟨wire, hwire, hreceived, hheader⟩ :=
      s.sendRtpInternal_retransmission hcodec hpadded ntpTime
    have hsame := s.sendRtpInternal_other params
      (by decide : SendKind.retransmission ≠ .media) m.packet ntpTime
    have hiff := reproduces_object hsound hrtx hreceived hheader
    obtain ⟨extensions', hheader⟩ := hheader
    have hm' : (s.sendRtpInternal params .retransmission m.packet ntpTime).1.media[r.index]? =
        some m := by rw [hsame.media, hm]
    obtain ⟨hconsistent, hcontinues⟩ := (h.of_sameHistory hsame).setHeader hm' extensions'
    rw [resend_object hwrapped hm hwire, hheader]
    have hresent : (s.sendRtpInternal params .retransmission m.packet ntpTime).1.resent = s.resent :=
      hsame.resent
    exact ⟨hanswered hconsistent (fun i m' hi => hcontinues i m' (by rw [hsame.media, hi])) hiff,
      wire, by rw [hresent]⟩

/-- A sender that has not sent anything. -/
structure Fresh (s : RTCRtpSender) : Prop where
  media : s.media = []
  rtpCache : s.rtpCache = .empty
  cleared : s.cleared = 0
  pending : s.pending = []
  resent : s.resent = []

lemma Fresh.consistent (h : s.Fresh) : s.Consistent params := by
  refine ⟨?_, fun slot i => ?_, ?_, ?_, ?_⟩
  · rw [h.cleared]
    exact Nat.zero_le _
  · have hnone : ¬ Latest s.numbers s.cleared RTP_HISTORY_SIZE slot i := by
      intro hlatest
      have hlength := hlatest.lt_length
      rw [numbers, h.media] at hlength
      exact absurd hlength (Nat.not_lt_zero _)
    rw [h.rtpCache]
    exact ⟨fun hsome => (nomatch hsome), fun hlatest => absurd hlatest hnone⟩
  · simp [h.media]
  · simp [h.pending]
  · simp [h.resent]

/-- A packet leaves the queue. -/
lemma Consistent.eraseIdx (h : s.Consistent params) (k : ℕ) :
    { s with pending := s.pending.eraseIdx k }.Consistent params :=
  ⟨h.cleared_le, h.cache, h.sound, fun r hr => h.asked r (List.mem_of_mem_eraseIdx hr), h.answered⟩

/-- **Every event** keeps the history. -/
theorem Consistent.step (h : s.Consistent params) {e : Event} (hstep : s.step params e = some s') :
    s'.Consistent params := by
  cases e with
  | sendRtp rtp ntpTime =>
    obtain rfl := Option.some.inj hstep
    obtain hsame | ⟨m, happended⟩ := s.sendRtpInternal_media params rtp ntpTime
    · exact h.of_sameHistory hsame
    · exact h.appended happended
  | sendPadding paddingSize ntpTime =>
    obtain rfl := Option.some.inj hstep
    exact h.of_sameHistory (s.sendRtpInternal_other params
      (by decide : SendKind.probePadding ≠ .media) _ ntpTime)
  | replaceRTP timestampStep =>
    obtain rfl := Option.some.inj hstep
    exact h.scheduleRtpContinuity timestampStep
  | detachTrack =>
    obtain rfl := Option.some.inj hstep
    exact h.of_sameHistory ⟨rfl, rfl, rfl, rfl, rfl⟩
  | nack seqNum =>
    obtain rfl := Option.some.inj hstep
    exact h.handleNack seqNum
  | resend k ntpTime =>
    obtain ⟨r, hr, rfl⟩ := Option.map_eq_some_iff.mp hstep
    exact ((h.eraseIdx k).resend (h.asked r (List.mem_of_getElem? hr)) ntpTime).1
  | allocate =>
    obtain rfl := Option.some.inj hstep
    exact h.of_sameHistory ⟨rfl, rfl, rfl, rfl, rfl⟩

/-- **Runs** keep the history. -/
theorem consistent_of_run {s₀ : RTCRtpSender} (h₀ : s₀.Fresh)
    (run : Transition.Reachable (RTCRtpSender.step params) s₀ s) : s.Consistent params :=
  run.invariant (Consistent params) h₀.consistent fun _ _ _ h _ hstep => h.step hstep

/-- Of packets with consecutive numbers the last `RTP_HISTORY_SIZE` are in the history. -/
theorem inHistory_of_consecutive {first i : ℕ} (hcleared : s.cleared ≤ i) (hi : i < s.numbers.length)
    (hnear : s.numbers.length ≤ i + RTP_HISTORY_SIZE)
    (hnumbers : ∀ j n, i ≤ j → s.numbers[j]? = some n → n = (first + j) % 0x10000) :
    s.InHistory ((first + i) % 0x10000) i := by
  have hlatest := SlotHistory.latest_of_consecutive hcleared hi hnear (by decide) hnumbers
  obtain ⟨n, hn⟩ : ∃ n, s.numbers[i]? = some n := ⟨s.numbers[i], List.getElem?_eq_getElem hi⟩
  refine ⟨by rw [hn, hnumbers i n le_rfl hn], ?_⟩
  rw [Nat.mod_mod_of_dvd _ (by decide)]
  exact hlatest

end RTCRtpSender

open RTCRtpSender in
/-- **Retransmissions.**  In every run, what is sent again for a number makes the receiver get what it
would have got out of the packet that went out with this number, exactly if media is sent without RED and
RTX is for the codec that is sent.  A NACK is answered exactly if the packet is in the history. -/
theorem retransmission_iff {s₀ : RTCRtpSender} (h₀ : s₀.Fresh)
    (run : Transition.Reachable (RTCRtpSender.step params) s₀ s) :
    (∀ r ∈ s.resent, ∃ m, s.media[r.index]? = some m ∧ m.wire.header.sequenceNumber = r.seqNum ∧
      (params.Reproduces r.wire m.wire ↔ params.Plain)) ∧
    (∀ seqNum i, s.InHistory seqNum i → ∃ r n, r.seqNum = seqNum ∧ r.index = i ∧
      s.handleNack params seqNum = { s with pending := s.pending ++ [r], rtxSequenceNumber := n }) ∧
    (∀ seqNum, (∀ i, ¬ s.InHistory seqNum i) → s.handleNack params seqNum = s) ∧
    ∀ k r ntpTime, s.pending[k]? = some r → ∃ s' wire,
      s.step params (.resend k ntpTime) = some s' ∧
      s'.resent = s.resent ++ [⟨r.seqNum, r.index, wire⟩] := by
  have h := consistent_of_run h₀ run
  refine ⟨h.answered, fun seqNum i hin => ?_, fun seqNum hnot => h.handleNack_of_not_inHistory hnot,
    fun k r ntpTime hr => ?_⟩
  · obtain ⟨r, n, hr, hi, -, heq⟩ := h.handleNack_of_inHistory hin
    exact ⟨r, n, hr, hi, heq⟩
  · obtain ⟨wire, hresent⟩ :=
      ((h.eraseIdx k).resend (h.asked r (List.mem_of_getElem? hr)) ntpTime).2
    exact ⟨_, wire, by rw [RTCRtpSender.step, hr, Option.map_some], hresent⟩

/-- A video sender with RTX. -/
private def videoParams : SendParams where
  ssrc := 1
  rtxSsrc := 2
  codec := some 96
  sendPrimaryCodec := some 96
  rtxPayloadType := some 97

/-- A packet of an application. -/
private def inputPacket (sequenceNumber timestamp paddingSize : ℕ) (payload : Bytes) : RtpPacket where
  header := { sequenceNumber, timestamp, padding := decide (0 < paddingSize), paddingSize }
  payload

/-- The padded packet behind a new source is sent again as it was. -/
theorem retransmission_iff_padded : ∃ s : RTCRtpSender,
    Transition.Reachable (RTCRtpSender.step videoParams) {} s ∧ s.resent.length = 1 ∧
    ∀ r ∈ s.resent, ∃ m, s.media[r.index]? = some m ∧ videoParams.Reproduces r.wire m.wire := by
  have hlength : (([.sendRtp (inputPacket 10 100 0 [9]) 0, .replaceRTP 1,
      .sendRtp (inputPacket 40 40 4 [8, 7]) 0, .sendPadding 100 0, .nack 10, .nack 11,
      .resend 0 0] : List RTCRtpSender.Event).foldlM (RTCRtpSender.step videoParams) {}).map
        (fun s => s.resent.length) = some 1 := by
    decide +kernel
  obtain ⟨s, hs, hresent⟩ := Option.map_eq_some_iff.mp hlength
  have hrun : Transition.Reachable (RTCRtpSender.step videoParams) {} s :=
    Transition.reachable_of_foldlM hs
  refine ⟨s, hrun, hresent, fun r hr => ?_⟩
  obtain ⟨m, hm, -, hiff⟩ := (retransmission_iff ⟨rfl, rfl, rfl, rfl, rfl⟩ hrun).1 r hr
  refine ⟨m, hm, hiff.mpr ⟨rfl, fun rtxPayloadType h => ?_⟩⟩
  rfl

/-- With RED the media is sent again bare: without RTX under the payload type of RED, and with RTX under
the one of the media. -/
theorem red_resent_bare :
    let sent (params : SendParams) := (([.sendRtp (inputPacket 10 100 0 [1, 2, 3]) 0, .nack 10,
        .resend 0 0] : List RTCRtpSender.Event).foldlM (RTCRtpSender.step params) {}).map
      fun s => (s.media.map fun m => (m.wire.header.payloadType, m.wire.payload),
        s.resent.map fun r => (r.wire.header.payloadType, r.wire.payload))
    let audioParams : SendParams := { ssrc := 1, rtxSsrc := 2, codec := some 63,
                                      sendPrimaryCodec := some 111, redRedundantPayloadType := some 111 }
    sent audioParams = some ([(63, [111, 1, 2, 3])], [(63, [1, 2, 3])]) ∧
    sent { audioParams with rtxPayloadType := some 112 } =
      some ([(63, [111, 1, 2, 3])], [(112, [0, 10, 1, 2, 3])]) := by
  decide +kernel

end Werift.Webrtc
