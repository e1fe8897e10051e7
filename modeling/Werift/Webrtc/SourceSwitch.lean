import Werift.Lib.Epochs
import Werift.Webrtc.MediaHistory

/-!
# Media numbers across sources

A packet is accepted under the source epoch of its time and waits for its turn; if the source has been
replaced meanwhile it is dropped.  The first packet of a new source goes on from the last packet that
went out, also where packets have gone out of order.  `numbersContinued` says what the numbers are:
within a source they keep their differences, and packets of different sources get different numbers if
each source ends with its furthest packet and begins with its first one.
-/

namespace Werift.Webrtc

open Rtp (Bytes RtpHeader RtpPacket RtpContinuity)
open Transition Epochs

/-- A packet whose numbers fit into their fields. -/
structure Fits (packet : RtpPacket) : Prop where
  sequenceNumber : packet.header.sequenceNumber < 0x10000
  paddingSize : packet.header.padding = true → packet.header.paddingSize ≤ 255

namespace RTCRtpSender

variable {params : SendParams} {s s' : RTCRtpSender}

/-! ## One packet -/

lemma continuity_encodePayload (kind : SendKind) (header : RtpHeader) (payload : Bytes) :
    (s.encodePayload params kind header payload).1.continuity = s.continuity := by
  unfold encodePayload
  split_ifs <;> rfl

lemma continuity_remember (kind : SendKind) (packet wire : RtpPacket) :
    (s.remember kind packet wire).continuity = s.continuity := by
  unfold remember
  split_ifs <;> rfl

lemma continuity_assignNumbers {kind : SendKind} (hkind : kind ≠ .media) (n t : ℕ)
    (header : RtpHeader) : (s.assignNumbers kind n t header).1.continuity = s.continuity := by
  cases kind with
  | media => exact absurd rfl hkind
  | probePadding => rfl
  | retransmission => rfl

/-- Only media packets are numbered. -/
lemma continuity_sendRtpInternal {kind : SendKind} (hkind : kind ≠ .media) (rtp : RtpPacket)
    (ntpTime : ℕ) : (s.sendRtpInternal params kind rtp ntpTime).1.continuity = s.continuity := by
  cases hcodec : params.codec with
  | none => rw [sendRtpInternal, hcodec]
  | some codec =>
    by_cases hpadding : kind = .probePadding ∧ params.rtxPayloadType = none
    · simp only [sendRtpInternal, hcodec, if_pos hpadding]
    · have hencoded : (s.encoded params kind codec rtp).1.continuity = s.continuity :=
        (continuity_encodePayload ..).trans (continuity_assignNumbers hkind ..)
      cases hpadded : padPayload (s.numbered params kind codec rtp).2
          (s.encoded params kind codec rtp).2 with
      | error e =>
        rw [encoded, numbered] at hpadded hencoded
        simp only [sendRtpInternal, hcodec, if_neg hpadding, hpadded]
        exact hencoded
      | ok payload =>
        rw [encoded, numbered] at hpadded hencoded
        simp only [sendRtpInternal, hcodec, if_neg hpadding, hpadded]
        exact (continuity_remember ..).trans hencoded

/-- **A media packet** goes out with the numbers that it has been assigned, or nothing goes out. -/
lemma sendRtpInternal_numbers {rtp : RtpPacket} (hfits : Fits rtp) (ntpTime : ℕ) :
    ((s.sendRtpInternal params .media rtp ntpTime).2 = none ∧
      (s.sendRtpInternal params .media rtp ntpTime).1.continuity = s.continuity) ∨
    ∃ header wire, (s.sendRtpInternal params .media rtp ntpTime).2 = some wire ∧
      (s.sendRtpInternal params .media rtp ntpTime).1.continuity =
        (s.continuity.assign header rtp.header.sequenceNumber rtp.header.timestamp).1 ∧
      wire.header.sequenceNumber = (s.continuity.assign header rtp.header.sequenceNumber
        rtp.header.timestamp).2.sequenceNumber ∧
      wire.header.timestamp = (s.continuity.assign header rtp.header.sequenceNumber
        rtp.header.timestamp).2.timestamp ∧
      wire.header.ssrc = params.ssrc := by
  cases hcodec : params.codec with
  | none =>
    left
    rw [sendRtpInternal, hcodec]
    exact ⟨rfl, rfl⟩
  | some codec =>
    right
    have hpadding : ¬ (SendKind.media = .probePadding ∧ params.rtxPayloadType = none) :=
      fun h => absurd h.1 (by simp)
    obtain ⟨payload, hpadded⟩ : ∃ payload, padPayload (s.numbered params .media codec rtp).2
        (s.encoded params .media codec rtp).2 = .ok payload := by
      rw [padPayload]
      split_ifs with hpad
      · have hsize := hfits.paddingSize hpad.1
        have hpos : 0 < rtp.header.paddingSize := hpad.2
        rw [Rtp.appendRfc3550Padding, if_neg]
        · exact ⟨_, rfl⟩
        · change ¬ (rtp.header.paddingSize < 1 ∨ rtp.header.paddingSize > 255)
          omega
      · exact ⟨_, rfl⟩
    have hencoded : (s.encoded params .media codec rtp).1.continuity =
        (s.numbered params .media codec rtp).1.continuity := continuity_encodePayload ..
    rw [encoded, numbered] at hpadded hencoded
    refine ⟨s.prepareHeader params .media codec rtp.header, ?_⟩
    simp only [sendRtpInternal, hcodec, if_neg hpadding, hpadded]
    refine ⟨_, rfl, ?_, rfl, rfl, rfl⟩
    exact (continuity_remember ..).trans hencoded

lemma continuity_queue (seqNum index : ℕ) (packet : RtpPacket) :
    (s.queue params seqNum index packet).continuity = s.continuity := by
  by_cases hlow : packet.header.sequenceNumber < 0x10000
  · obtain ⟨r, n, hqueue, -⟩ := @queue_eq params s packet hlow seqNum index
    rw [hqueue]
  · have hnone (payloadType n ssrc : ℕ) : Rtp.wrapRtx packet payloadType n ssrc = none := by
      rw [Rtp.wrapRtx, Js.writeUInt16BE, Js.writeUIntBE, if_neg (by omega)]
      rfl
    simp only [queue, hnone]
    cases params.rtxPayloadType <;> rfl

lemma continuity_handleNack (seqNum : ℕ) :
    (s.handleNack params seqNum).continuity = s.continuity := by
  unfold handleNack
  cases s.rtpCache.get? (seqNum % RTP_HISTORY_SIZE : ℕ) with
  | none => rfl
  | some index =>
    dsimp only
    cases s.media[index]? with
    | none => rfl
    | some m =>
      dsimp only
      rcases eq_or_ne m.packet.header.sequenceNumber seqNum with heq | hne
      · rw [if_neg (not_not.mpr heq)]
        by_cases hpadding : Rtp.isPaddingOnlyRtpPacket m.packet = true
        · rw [if_pos hpadding]
        · rw [if_neg hpadding]
          exact continuity_queue seqNum index m.packet
      · rw [if_pos hne]

lemma continuity_resend (r : Retransmission) (ntpTime : ℕ) :
    (s.resend params r ntpTime).continuity = s.continuity := by
  have hkind : SendKind.retransmission ≠ .media := by decide
  unfold resend
  split
  · rename_i rtx _
    have hsend := @continuity_sendRtpInternal params s _ hkind rtx ntpTime
    split <;> rename_i heq <;> rw [heq] at hsend <;> exact hsend
  · split
    · rfl
    · rename_i packet _ _
      have hsend := @continuity_sendRtpInternal params s _ hkind packet ntpTime
      split <;> rename_i heq <;> rw [heq] at hsend <;> exact hsend

/-- Events that are not about the media of the sender: padding, retransmissions and what other senders
do. -/
def Event.isOther : Event → Bool
  | .sendPadding _ _ | .nack _ | .resend _ _ | .allocate => true
  | .sendRtp _ _ | .replaceRTP _ | .detachTrack => false

lemma continuity_step {e : Event} (hother : e.isOther = true) (h : s.step params e = some s') :
    s'.continuity = s.continuity := by
  cases e with
  | sendRtp rtp ntpTime => cases hother
  | replaceRTP timestampStep => cases hother
  | detachTrack => cases hother
  | sendPadding paddingSize ntpTime =>
    obtain rfl := Option.some.inj h
    exact continuity_sendRtpInternal (by decide) _ ntpTime
  | nack seqNum =>
    obtain rfl := Option.some.inj h
    exact continuity_handleNack seqNum
  | resend k ntpTime =>
    obtain ⟨r, -, rfl⟩ := Option.map_eq_some_iff.mp h
    exact continuity_resend r ntpTime
  | allocate =>
    obtain rfl := Option.some.inj h
    rfl

/-- The numbers of a packet are the offsets further on, and the packet is the last one. -/
lemma assign_offset (c : RtpContinuity) (header : RtpHeader) (n t : ℕ) :
    let r := c.assign header n t
    r.1.sequenceNumber = some r.2.sequenceNumber ∧ r.1.timestamp = some r.2.timestamp ∧
      r.1.pending = false ∧ (r.2.sequenceNumber : ℤ) = uint16Add n r.1.seqOffset ∧
      (r.2.timestamp : ℤ) = uint32Add t r.1.timestampOffset := by
  have hpending : (c.rewriteOffsets n t).pending = false := by
    unfold RtpContinuity.rewriteOffsets
    by_cases h : c.pending = true
    · rw [if_pos h]
    · rw [if_neg h]
      exact Bool.eq_false_of_not_eq_true h
  refine ⟨rfl, rfl, hpending, ?_, ?_⟩
  · exact Int.toNat_of_nonneg (Int.emod_nonneg _ (by decide))
  · exact Int.toNat_of_nonneg (Int.emod_nonneg _ (by decide))

/-- Without a switch the offsets stay, and before the first packet too. -/
lemma assign_same {c : RtpContinuity} (h : c.pending = false ∨ c.sequenceNumber = none)
    (header : RtpHeader) (n t : ℕ) :
    (c.assign header n t).1.seqOffset = c.seqOffset ∧
      (c.assign header n t).1.timestampOffset = c.timestampOffset := by
  have hsame : (c.rewriteOffsets n t).seqOffset = c.seqOffset ∧
      (c.rewriteOffsets n t).timestampOffset = c.timestampOffset := by
    unfold RtpContinuity.rewriteOffsets
    rcases h with h | h
    · rw [if_neg (by rw [h]; decide)]
      exact ⟨rfl, rfl⟩
    · by_cases hpending : c.pending = true
      · rw [if_pos hpending, h]
        exact ⟨rfl, rfl⟩
      · rw [if_neg hpending]
        exact ⟨rfl, rfl⟩
  exact hsame

/-- A switch goes on from the last packet. -/
lemma assign_switched {c : RtpContinuity} (hpending : c.pending = true) {m u : ℕ}
    (hm : c.sequenceNumber = some m) (hu : c.timestamp = some u) (header : RtpHeader) (n t : ℕ) :
    ((c.assign header n t).2.sequenceNumber : ℤ) = uint16Add m 1 ∧
      ((c.assign header n t).2.timestamp : ℤ) = uint32Add u c.pendingTimestampStep := by
  obtain ⟨-, -, -, hn, ht⟩ := assign_offset c header n t
  have hoffset : (c.rewriteOffsets n t).seqOffset = uint16Add (uint16Add m 1) (-n) ∧
      (c.rewriteOffsets n t).timestampOffset =
        uint32Add (uint32Add u c.pendingTimestampStep) (-t) := by
    unfold RtpContinuity.rewriteOffsets
    rw [if_pos hpending, hm, hu]
    exact ⟨rfl, rfl⟩
  rw [hn, ht]
  change uint16Add n (c.rewriteOffsets n t).seqOffset = _ ∧
    uint32Add t (c.rewriteOffsets n t).timestampOffset = _
  rw [hoffset.1, hoffset.2]
  unfold uint16Add uint32Add
  constructor <;> omega

end RTCRtpSender

/-! ## A sender and its sources -/

/-- A media packet that has been sent. -/
structure NumberedPacket where
  /-- The source, counted by the switches. -/
  source : ℕ
  /-- The step of the last switch. -/
  timestampStep : ℤ
  /-- The packet as it was accepted. -/
  input : RtpPacket
  wire : RtpPacket
  /-- Where the packet stands by the numbers that the sources have given: it is the way from the packet
  before it, if both are of one source, and else one step. -/
  position : ℤ

/-- A packet that waits for its turn. -/
structure WaitingPacket where
  packet : RtpPacket
  sourceEpoch : ℕ

/-- A sender with the packets that wait for their turn, and what it has sent. -/
structure SwitchingSender where
  sender : RTCRtpSender
  sourceEpoch : ℕ := 0
  waiting : List WaitingPacket := []
  source : ℕ := 0
  timestampStep : ℤ := 1
  sent : List NumberedPacket := []

namespace SwitchingSender

/-- What can happen. -/
inductive Event
  /-- `sendRtp` accepts a packet. -/
  | sendRtp (rtp : RtpPacket)
  /-- The turn of a packet has come. -/
  | dispatch (k ntpTime : ℕ)
  /-- A packet that waits is dropped. -/
  | drop (k : ℕ)
  /-- `replaceTrack` with a track. -/
  | replaceTrack
  /-- `replaceRTP`; `onSourceChanged` calls it with the step `1`. -/
  | replaceRTP (timestampStep : ℤ)
  /-- `detachTrack`, also by `replaceTrack(null)`. -/
  | detachTrack
  | other (e : RTCRtpSender.Event)

/-- `scheduleRtpContinuity(timestampStep)`. -/
def scheduleRtpContinuity (s : SwitchingSender) (timestampStep : ℤ) : SwitchingSender :=
  { s with
    sender := s.sender.scheduleRtpContinuity timestampStep
    sourceEpoch := s.sourceEpoch + 1
    source := s.source + 1
    timestampStep }

/-- Where the next packet stands. -/
def nextPosition (s : SwitchingSender) (sequenceNumber : ℕ) : ℤ :=
  match s.sent.getLast? with
  | none => sequenceNumber
  | some last =>
    if last.source = s.source then
      last.position + Int.bmod (sequenceNumber - last.input.header.sequenceNumber) 0x10000
    else last.position + 1

/-- A packet whose turn has come and whose source is still the current one. -/
def sendMedia (params : SendParams) (s : SwitchingSender) (rtp : RtpPacket) (ntpTime : ℕ) :
    SwitchingSender :=
  match s.sender.sendRtpInternal params .media rtp ntpTime with
  | (sender, none) => { s with sender }
  | (sender, some wire) =>
    { s with
      sender
      sent := s.sent ++ [{ source := s.source, timestampStep := s.timestampStep, input := rtp, wire,
                           position := s.nextPosition rtp.header.sequenceNumber }] }

/-- One event. -/
def step (params : SendParams) (s : SwitchingSender) : Event → Option SwitchingSender
  | .sendRtp rtp => some { s with waiting := s.waiting ++ [⟨rtp, s.sourceEpoch⟩] }
  | .dispatch k ntpTime =>
    s.waiting[k]?.map fun w =>
      let s := { s with waiting := s.waiting.eraseIdx k }
      if w.sourceEpoch ≠ s.sourceEpoch then s else s.sendMedia params w.packet ntpTime
  | .drop k => s.waiting[k]?.map fun _ => { s with waiting := s.waiting.eraseIdx k }
  | .replaceTrack =>
    if s.sender.continuity.sequenceNumber.isSome then some (s.scheduleRtpContinuity 1)
    else some { s with sourceEpoch := s.sourceEpoch + 1, source := s.source + 1 }
  | .replaceRTP timestampStep => some (s.scheduleRtpContinuity timestampStep)
  | .detachTrack =>
    -- a switch that no packet has followed is undone
    some { s with
      sender := { s.sender with continuity := s.sender.continuity.cancel }
      sourceEpoch := s.sourceEpoch + 1
      source := (s.sent.getLast?.map fun last => last.source).getD s.source }
  | .other e =>
    if e.isOther then (s.sender.step params e).map fun sender => { s with sender } else none

/-- A sender that has sent nothing. -/
def start (rtxSequenceNumber : ℕ) (transport : Rtp.TransportWideSequence) : SwitchingSender where
  sender := { rtxSequenceNumber, transport }

/-- The packets that are accepted are well formed. -/
def WellFormed (_ : SwitchingSender) : Event → Prop
  | .sendRtp rtp => Fits rtp
  | _ => True

/-! ## The numbers -/

/-- Two packets, the first of which was sent before the second: within a source the differences stay. -/
structure Keeps (a b : NumberedPacket) : Prop where
  source : a.source ≤ b.source
  sequenceNumber : a.source = b.source →
    (b.wire.header.sequenceNumber - a.wire.header.sequenceNumber : ℤ) ≡
      b.input.header.sequenceNumber - a.input.header.sequenceNumber [ZMOD 0x10000]
  timestamp : a.source = b.source →
    (b.wire.header.timestamp - a.wire.header.timestamp : ℤ) ≡
      b.input.header.timestamp - a.input.header.timestamp [ZMOD 0x100000000]

/-- A packet and the next one: a new source goes on from the last packet. -/
structure Continues (a b : NumberedPacket) : Prop where
  position : a.source ≠ b.source → b.position = a.position + 1
  sequenceNumber : a.source ≠ b.source →
    (b.wire.header.sequenceNumber : ℤ) = uint16Add a.wire.header.sequenceNumber 1
  timestamp : a.source ≠ b.source →
    (b.wire.header.timestamp : ℤ) = uint32Add a.wire.header.timestamp b.timestampStep

/-- The number of a packet is its position. -/
structure AtPosition (ssrc : ℕ) (a : NumberedPacket) : Prop where
  sequenceNumber : (a.wire.header.sequenceNumber : ℤ) = a.position % 0x10000
  ssrc : a.wire.header.ssrc = ssrc
  input : a.input.header.sequenceNumber < 0x10000

/-- The offsets are the ones of the last packet, and a switch is pending exactly if the source is not
the one of the last packet. -/
structure LastSent (s : SwitchingSender) (last : NumberedPacket) : Prop where
  sequenceNumber : s.sender.continuity.sequenceNumber = some last.wire.header.sequenceNumber
  timestamp : s.sender.continuity.timestamp = some last.wire.header.timestamp
  source : last.source ≤ s.source
  pending : s.sender.continuity.pending = true ↔ last.source ≠ s.source
  timestampStep : s.sender.continuity.pending = true →
    s.sender.continuity.pendingTimestampStep = s.timestampStep
  seqOffset : (last.wire.header.sequenceNumber : ℤ) =
    uint16Add last.input.header.sequenceNumber s.sender.continuity.seqOffset
  timestampOffset : (last.wire.header.timestamp : ℤ) =
    uint32Add last.input.header.timestamp s.sender.continuity.timestampOffset

/-- What holds in every state of a run. -/
structure Numbered (params : SendParams) (s : SwitchingSender) : Prop where
  fits : ∀ w ∈ s.waiting, Fits w.packet
  none : s.sent = [] → s.sender.continuity.sequenceNumber = none ∧ s.sender.continuity.seqOffset = 0
  last : ∀ last, s.sent.getLast? = some last → LastSent s last
  keeps : s.sent.Pairwise Keeps
  continues : Neighbours Continues s.sent
  atPosition : ∀ a ∈ s.sent, AtPosition params.ssrc a

variable {params : SendParams} {s s' : SwitchingSender}

lemma numbered_start (rtxSequenceNumber : ℕ) (transport : Rtp.TransportWideSequence) :
    Numbered params (start rtxSequenceNumber transport) where
  fits := fun _ h => absurd h List.not_mem_nil
  none := fun _ => ⟨rfl, rfl⟩
  last := fun _ h => absurd h (by simp [start])
  keeps := List.Pairwise.nil
  continues := neighbours_nil _
  atPosition := fun _ h => absurd h List.not_mem_nil

/-- What packets keep to the last one, they keep to a next one of the same source. -/
lemma Keeps.trans {a b c : NumberedPacket} (h : Keeps a b) (h' : Keeps b c) : Keeps a c where
  source := h.source.trans h'.source
  sequenceNumber := by
    intro heq
    have hb : a.source = b.source := le_antisymm h.source (heq ▸ h'.source)
    have hsum := (h'.sequenceNumber (hb.symm.trans heq)).add (h.sequenceNumber hb)
    simpa using hsum
  timestamp := by
    intro heq
    have hb : a.source = b.source := le_antisymm h.source (heq ▸ h'.source)
    have hsum := (h'.timestamp (hb.symm.trans heq)).add (h.timestamp hb)
    simpa using hsum

/-- All packets keep to a new one what the last one keeps to it. -/
lemma pairwise_concat {sent : List NumberedPacket} (h : sent.Pairwise Keeps) {b : NumberedPacket}
    (hlast : ∀ last, sent.getLast? = some last → Keeps last b) : (sent ++ [b]).Pairwise Keeps := by
  rcases List.eq_nil_or_concat' sent with rfl | ⟨init, last, rfl⟩
  · exact List.pairwise_singleton _ _
  · have hb := hlast last (by simp)
    refine List.pairwise_append.mpr ⟨h, List.pairwise_singleton _ _, fun a ha c hc => ?_⟩
    obtain rfl := List.mem_singleton.mp hc
    rcases List.mem_append.mp ha with ha | ha
    · exact ((List.pairwise_append.mp h).2.2 a ha last (List.mem_singleton_self _)).trans hb
    · obtain rfl := List.mem_singleton.mp ha
      exact hb

/-- A packet of the source of the last one is as far from it as it was when it was accepted. -/
lemma follows_same {last b : NumberedPacket} (hlast : LastSent s last) (hat : AtPosition params.ssrc last)
    (hsame : last.source = s.source) {header : RtpHeader} (hsource : b.source = s.source)
    (hposition : b.position = last.position +
      Int.bmod (b.input.header.sequenceNumber - last.input.header.sequenceNumber) 0x10000)
    (hn : b.wire.header.sequenceNumber = (s.sender.continuity.assign header
      b.input.header.sequenceNumber b.input.header.timestamp).2.sequenceNumber)
    (ht : b.wire.header.timestamp = (s.sender.continuity.assign header
      b.input.header.sequenceNumber b.input.header.timestamp).2.timestamp) :
    Keeps last b ∧ Continues last b ∧
      (b.wire.header.sequenceNumber : ℤ) = b.position % 0x10000 := by
  have hpending : s.sender.continuity.pending = false := by
    rw [Bool.eq_false_iff]
    exact fun hp => hlast.pending.mp hp hsame
  obtain ⟨-, -, -, hseq, htime⟩ := RTCRtpSender.assign_offset s.sender.continuity header
    b.input.header.sequenceNumber b.input.header.timestamp
  obtain ⟨hseqOffset, htimestampOffset⟩ := RTCRtpSender.assign_same (Or.inl hpending) header
    b.input.header.sequenceNumber b.input.header.timestamp
  rw [hseqOffset, ← hn, uint16Add] at hseq
  rw [htimestampOffset, ← ht, uint32Add] at htime
  have hlastSeq := hlast.seqOffset
  have hlastTime := hlast.timestampOffset
  rw [uint16Add] at hlastSeq
  rw [uint32Add] at hlastTime
  have hdiff : Int.bmod (b.input.header.sequenceNumber - last.input.header.sequenceNumber) 0x10000 %
      (0x10000 : ℤ) =
        (b.input.header.sequenceNumber - last.input.header.sequenceNumber : ℤ) % 0x10000 :=
    Int.bmod_emod
  have hbefore := hat.sequenceNumber
  refine ⟨⟨(hsame.trans hsource.symm).le, fun _ => ?_, fun _ => ?_⟩, ?_, ?_⟩
  · unfold Int.ModEq
    omega
  · unfold Int.ModEq
    omega
  · have heq : last.source = b.source := hsame.trans hsource.symm
    exact ⟨fun hne => absurd heq hne, fun hne => absurd heq hne, fun hne => absurd heq hne⟩
  · omega

/-- The first packet of a source goes on from the last one. -/
lemma follows_switched {last b : NumberedPacket} (hlast : LastSent s last)
    (hat : AtPosition params.ssrc last) (hne : last.source ≠ s.source) {header : RtpHeader}
    (hsource : b.source = s.source) (hstep : b.timestampStep = s.timestampStep)
    (hposition : b.position = last.position + 1)
    (hn : b.wire.header.sequenceNumber = (s.sender.continuity.assign header
      b.input.header.sequenceNumber b.input.header.timestamp).2.sequenceNumber)
    (ht : b.wire.header.timestamp = (s.sender.continuity.assign header
      b.input.header.sequenceNumber b.input.header.timestamp).2.timestamp) :
    Keeps last b ∧ Continues last b ∧
      (b.wire.header.sequenceNumber : ℤ) = b.position % 0x10000 := by
  have hpending : s.sender.continuity.pending = true := hlast.pending.mpr hne
  have hne' : last.source ≠ b.source := hsource ▸ hne
  obtain ⟨hseq, htime⟩ := RTCRtpSender.assign_switched hpending hlast.sequenceNumber hlast.timestamp
    header b.input.header.sequenceNumber b.input.header.timestamp
  rw [← hn] at hseq
  rw [← ht, hlast.timestampStep hpending, ← hstep] at htime
  have hbefore := hat.sequenceNumber
  refine ⟨⟨hsource ▸ hlast.source, fun heq => absurd heq hne', fun heq => absurd heq hne'⟩,
    ⟨fun _ => hposition, fun _ => hseq, fun _ => htime⟩, ?_⟩
  rw [hseq, uint16Add]
  omega

/-- The packet that has just been sent is the last one. -/
lemma lastSent_assign (c : RtpContinuity) {b : NumberedPacket} {header : RtpHeader} (hsource : b.source = s.source)
    (hc : s.sender.continuity = (c.assign header b.input.header.sequenceNumber
      b.input.header.timestamp).1)
    (hn : b.wire.header.sequenceNumber = (c.assign header
      b.input.header.sequenceNumber b.input.header.timestamp).2.sequenceNumber)
    (ht : b.wire.header.timestamp = (c.assign header
      b.input.header.sequenceNumber b.input.header.timestamp).2.timestamp) : LastSent s b := by
  obtain ⟨hseq, htime, hpending, hseqOffset, htimestampOffset⟩ :=
    RTCRtpSender.assign_offset c header b.input.header.sequenceNumber
      b.input.header.timestamp
  rw [← hc] at hseq htime hpending hseqOffset htimestampOffset
  rw [← hn] at hseq hseqOffset
  rw [← ht] at htime htimestampOffset
  exact {
    sequenceNumber := hseq
    timestamp := htime
    source := hsource.le
    pending := by simp [hpending, hsource]
    timestampStep := fun h => absurd (hpending.symm.trans h) Bool.false_ne_true
    seqOffset := hseqOffset
    timestampOffset := htimestampOffset }

/-- **A packet is sent.** -/
lemma Numbered.sendMedia (h : Numbered params s) {rtp : RtpPacket} (hfits : Fits rtp) (ntpTime : ℕ) :
    Numbered params (s.sendMedia params rtp ntpTime) := by
  rcases RTCRtpSender.sendRtpInternal_numbers hfits ntpTime with ⟨hnone, hcontinuity⟩ |
    ⟨header, wire, hwire, hcontinuity, hn, ht, hssrc⟩
  · have hsend : s.sendMedia params rtp ntpTime =
        { s with sender := (s.sender.sendRtpInternal params .media rtp ntpTime).1 } := by
      unfold SwitchingSender.sendMedia
      split <;> rename_i heq
      · rw [heq]
      · rw [heq] at hnone
        cases hnone
    rw [hsend]
    exact {
      fits := h.fits
      none := fun hnil => hcontinuity ▸ h.none hnil
      last := fun last hlast => by
        obtain ⟨h1, h2, h3, h4, h5, h6, h7⟩ := h.last last hlast
        rw [← hcontinuity] at h1 h2 h4 h5 h6 h7
        exact ⟨h1, h2, h3, h4, h5, h6, h7⟩
      keeps := h.keeps
      continues := h.continues
      atPosition := h.atPosition }
  · obtain ⟨b, hb⟩ : ∃ b : NumberedPacket, b =
        ⟨s.source, s.timestampStep, rtp, wire, s.nextPosition rtp.header.sequenceNumber⟩ := ⟨_, rfl⟩
    have hsend : s.sendMedia params rtp ntpTime =
        { s with sender := (s.sender.sendRtpInternal params .media rtp ntpTime).1,
                 sent := s.sent ++ [b] } := by
      unfold SwitchingSender.sendMedia
      split <;> rename_i heq
      · rw [heq] at hwire
        cases hwire
      · rw [heq] at hwire
        obtain rfl := Option.some.inj hwire
        rw [heq, hb]
    have hsource : b.source = s.source := by rw [hb]
    have hseq : b.wire.header.sequenceNumber = (s.sender.continuity.assign header
        b.input.header.sequenceNumber b.input.header.timestamp).2.sequenceNumber := by
      rw [hb]
      exact hn
    have htime : b.wire.header.timestamp = (s.sender.continuity.assign header
        b.input.header.sequenceNumber b.input.header.timestamp).2.timestamp := by
      rw [hb]
      exact ht
    have hposition : b.position = s.nextPosition b.input.header.sequenceNumber := by rw [hb]
    -- what the new packet has to do with the one before it
    have hfollows : ∀ last, s.sent.getLast? = some last → Keeps last b ∧ Continues last b ∧
        (b.wire.header.sequenceNumber : ℤ) = b.position % 0x10000 := by
      intro last hlast
      have hat := h.atPosition last (List.mem_of_getLast? hlast)
      rw [nextPosition, hlast] at hposition
      by_cases hsame : last.source = s.source
      · exact follows_same (h.last last hlast) hat hsame hsource
          (by rw [hposition]; exact if_pos hsame) hseq htime
      · exact follows_switched (h.last last hlast) hat hsame hsource (by rw [hb])
          (by rw [hposition]; exact if_neg hsame) hseq htime
    have hat : AtPosition params.ssrc b := by
      refine ⟨?_, by rw [hb]; exact hssrc, by rw [hb]; exact hfits.sequenceNumber⟩
      rcases List.eq_nil_or_concat' s.sent with hnil | ⟨init, last, hconcat⟩
      · obtain ⟨hnone, hzero⟩ := h.none hnil
        obtain ⟨-, -, -, hnumber, -⟩ := RTCRtpSender.assign_offset s.sender.continuity header
          b.input.header.sequenceNumber b.input.header.timestamp
        have hsame := (RTCRtpSender.assign_same (Or.inr hnone) header b.input.header.sequenceNumber
          b.input.header.timestamp).1
        rw [hposition, nextPosition, hnil, hseq, hnumber, hsame, hzero, uint16Add, add_zero]
        rfl
      · exact (hfollows last (by rw [hconcat]; simp)).2.2
    rw [hsend]
    exact {
      fits := h.fits
      none := fun hnil => absurd hnil (by simp)
      last := fun last hlast => by
        have hlast' : some b = some last := by simpa using hlast
        obtain rfl := Option.some.inj hlast'
        exact lastSent_assign s.sender.continuity hsource (hb ▸ hcontinuity) hseq htime
      keeps := pairwise_concat h.keeps fun last hlast => (hfollows last hlast).1
      continues := h.continues.concat fun last hlast => (hfollows last hlast).2.1
      atPosition := fun a ha => by
        rcases List.mem_append.mp ha with ha | ha
        · exact h.atPosition a ha
        · obtain rfl := List.mem_singleton.mp ha
          exact hat }

/-- A change of what waits. -/
lemma Numbered.wait (h : Numbered params s) {waiting : List WaitingPacket}
    (hw : ∀ w ∈ waiting, Fits w.packet) : Numbered params { s with waiting } where
  fits := hw
  none := h.none
  last := fun last hlast => let l := h.last last hlast
    ⟨l.sequenceNumber, l.timestamp, l.source, l.pending, l.timestampStep, l.seqOffset, l.timestampOffset⟩
  keeps := h.keeps
  continues := h.continues
  atPosition := h.atPosition

/-- A switch is scheduled. -/
lemma Numbered.schedule (h : Numbered params s) (timestampStep : ℤ) :
    Numbered params (s.scheduleRtpContinuity timestampStep) where
  fits := h.fits
  none := h.none
  last := fun last hlast => by
    have l := h.last last hlast
    have hlt : last.source < s.source + 1 := Nat.lt_succ_of_le l.source
    exact {
      sequenceNumber := l.sequenceNumber
      timestamp := l.timestamp
      source := hlt.le
      pending := ⟨fun _ => hlt.ne, fun _ => rfl⟩
      timestampStep := fun _ => rfl
      seqOffset := l.seqOffset
      timestampOffset := l.timestampOffset }
  keeps := h.keeps
  continues := h.continues
  atPosition := h.atPosition

/-- A switch is cancelled. -/
lemma Numbered.cancel (h : Numbered params s) {sourceEpoch : ℕ} :
    Numbered params { s with
      sender := { s.sender with continuity := s.sender.continuity.cancel }
      sourceEpoch
      source := (s.sent.getLast?.map fun last => last.source).getD s.source } where
  fits := h.fits
  none := h.none
  last := fun last hlast => by
    have l := h.last last hlast
    have hsource : (s.sent.getLast?.map fun last => last.source).getD s.source = last.source := by
      rw [show s.sent.getLast? = some last from hlast]
      rfl
    exact {
      sequenceNumber := l.sequenceNumber
      timestamp := l.timestamp
      source := hsource.ge
      pending := ⟨fun hp => absurd hp Bool.false_ne_true, fun hne => absurd hsource.symm hne⟩
      timestampStep := fun hp => absurd hp Bool.false_ne_true
      seqOffset := l.seqOffset
      timestampOffset := l.timestampOffset }
  keeps := h.keeps
  continues := h.continues
  atPosition := h.atPosition

/-- **One event** keeps the numbers in order. -/
lemma Numbered.step (h : Numbered params s) {e : Event} (hok : WellFormed s e)
    (hstep : s.step params e = some s') : Numbered params s' := by
  have herase (k : ℕ) : ∀ w ∈ s.waiting.eraseIdx k, Fits w.packet :=
    fun w hw => h.fits w (List.mem_of_mem_eraseIdx hw)
  cases e with
  | sendRtp rtp =>
    obtain rfl := Option.some.inj hstep
    refine h.wait fun w hw => ?_
    rcases List.mem_append.mp hw with hw | hw
    · exact h.fits w hw
    · obtain rfl := List.mem_singleton.mp hw
      exact hok
  | dispatch k ntpTime =>
    obtain ⟨w, hw, rfl⟩ := Option.map_eq_some_iff.mp hstep
    have hfits : Fits w.packet := h.fits w (List.mem_of_getElem? hw)
    dsimp only
    split_ifs with hepoch
    · exact h.wait (herase k)
    · exact (h.wait (herase k)).sendMedia hfits ntpTime
  | drop k =>
    obtain ⟨w, -, rfl⟩ := Option.map_eq_some_iff.mp hstep
    exact h.wait (herase k)
  | replaceTrack =>
    rw [SwitchingSender.step] at hstep
    split_ifs at hstep with hsome
    · obtain rfl := Option.some.inj hstep
      exact h.schedule 1
    · obtain rfl := Option.some.inj hstep
      -- nothing has been sent yet
      exact {
        fits := h.fits
        none := h.none
        last := fun last hlast => by
          rw [(h.last last hlast).sequenceNumber] at hsome
          exact absurd rfl hsome
        keeps := h.keeps
        continues := h.continues
        atPosition := h.atPosition }
  | replaceRTP timestampStep =>
    obtain rfl := Option.some.inj hstep
    exact h.schedule timestampStep
  | detachTrack =>
    obtain rfl := Option.some.inj hstep
    exact h.cancel
  | other e =>
    rw [SwitchingSender.step] at hstep
    split_ifs at hstep with hother
    obtain ⟨sender, hsender, rfl⟩ := Option.map_eq_some_iff.mp hstep
    have hcontinuity := RTCRtpSender.continuity_step hother hsender
    exact {
      fits := h.fits
      none := fun hnil => hcontinuity ▸ h.none hnil
      last := fun last hlast => by
        obtain ⟨h1, h2, h3, h4, h5, h6, h7⟩ := h.last last hlast
        rw [← hcontinuity] at h1 h2 h4 h5 h6 h7
        exact ⟨h1, h2, h3, h4, h5, h6, h7⟩
      keeps := h.keeps
      continues := h.continues
      atPosition := h.atPosition }

/-- **Media numbers.**  A new source goes on from the last packet that was sent, and within a source the
differences stay.  Packets of one source with different numbers get different numbers, and so do packets
of different sources that stand less than `2 ^ 16` apart, if each source between them ends with its
furthest packet and begins with its first one. -/
theorem numbersContinued {rtxSequenceNumber : ℕ} {transport : Rtp.TransportWideSequence}
    (h : Run (step params) WellFormed (start rtxSequenceNumber transport) s) :
    (∀ a ∈ s.sent, a.wire.header.ssrc = params.ssrc) ∧ Neighbours Continues s.sent ∧
      s.sent.Pairwise Keeps ∧
      ∀ i j a b, i < j → s.sent[i]? = some a → s.sent[j]? = some b →
        (a.source = b.source → a.input.header.sequenceNumber ≠ b.input.header.sequenceNumber →
          a.wire.header.sequenceNumber ≠ b.wire.header.sequenceNumber) ∧
        (a.source ≠ b.source →
          InOrder NumberedPacket.source NumberedPacket.position s.sent i j →
          b.position - a.position < 0x10000 →
          a.wire.header.sequenceNumber ≠ b.wire.header.sequenceNumber) := by
  have hn : Numbered params s :=
    h.invariant (Numbered params) (numbered_start _ _) fun _ _ _ hs hok hstep => hs.step hok hstep
  refine ⟨fun a ha => (hn.atPosition a ha).ssrc, hn.continues, hn.keeps, ?_⟩
  intro i j a b hij ha hb
  have hata := hn.atPosition a (List.mem_of_getElem? ha)
  have hatb := hn.atPosition b (List.mem_of_getElem? hb)
  refine ⟨fun hsource hne heq => hne ?_, fun hsource horder hnear heq => ?_⟩
  · obtain ⟨hi, rfl⟩ := List.getElem?_eq_some_iff.mp ha
    obtain ⟨hj, rfl⟩ := List.getElem?_eq_some_iff.mp hb
    have hmod := (List.pairwise_iff_getElem.mp hn.keeps i j hi hj hij).sequenceNumber hsource
    have hlow := hata.input
    have hlow' := hatb.input
    rw [heq, sub_self] at hmod
    unfold Int.ModEq at hmod
    omega
  · have hlt := lt_of_inOrder (fun k c d hc hd hne => (hn.continues k c d hc hd).position hne)
      hij.le ha hb horder hsource
    have hwire : (a.wire.header.sequenceNumber : ℤ) = b.wire.header.sequenceNumber := by rw [heq]
    rw [hata.sequenceNumber, hatb.sequenceNumber] at hwire
    omega

private def relayParams : SendParams where
  ssrc := 1
  rtxSsrc := 2
  codec := some 96
  sendPrimaryCodec := some 96

private def relayedPacket (sequenceNumber timestamp : ℕ) : RtpPacket where
  header := { sequenceNumber, timestamp }
  payload := [9]

/-- The packets of two sources, in the order in which they are sent. -/
private def relayEvents (first second : List ℕ) : List Event :=
  first.flatMap (fun n => [.sendRtp (relayedPacket n 100), .dispatch 0 0]) ++ .replaceTrack ::
    second.flatMap fun n => [.sendRtp (relayedPacket n 7), .dispatch 0 0]

private lemma fits_relayedPacket {n t : ℕ} (h : n < 0x10000) : Fits (relayedPacket n t) :=
  ⟨h, fun hpadding => absurd hpadding Bool.false_ne_true⟩

private lemma wellFormed_relayEvents {first second : List ℕ} (h : ∀ n ∈ first ++ second, n < 0x10000)
    (s : SwitchingSender) : ∀ e ∈ relayEvents first second, WellFormed s e := by
  intro e he
  rcases List.mem_append.mp he with he | he
  · obtain ⟨n, hn, he⟩ := List.mem_flatMap.mp he
    rcases List.mem_cons.mp he with rfl | he
    · exact fits_relayedPacket (h n (List.mem_append_left _ hn))
    · obtain rfl := List.mem_singleton.mp he
      trivial
  · rcases List.mem_cons.mp he with rfl | he
    · trivial
    · obtain ⟨n, hn, he⟩ := List.mem_flatMap.mp he
      rcases List.mem_cons.mp he with rfl | he
      · exact fits_relayedPacket (h n (List.mem_append_right _ hn))
      · obtain rfl := List.mem_singleton.mp he
        trivial

private lemma run_relayEvents {first second : List ℕ} (h : ∀ n ∈ first ++ second, n < 0x10000)
    {numbers : List (ℕ × ℕ × ℕ)}
    (hsent : ((relayEvents first second).foldlM (step relayParams) (start 0 {})).map
      (fun s => s.sent.map fun a => (a.source, a.input.header.sequenceNumber,
        a.wire.header.sequenceNumber)) = some numbers) :
    ∃ s, Run (step relayParams) WellFormed (start 0 {}) s ∧
      s.sent.map (fun a => (a.source, a.input.header.sequenceNumber,
        a.wire.header.sequenceNumber)) = numbers := by
  obtain ⟨s, hs, hnumbers⟩ := Option.map_eq_some_iff.mp hsent
  exact ⟨s, Run.of_foldlM (fun s => wellFormed_relayEvents h s) hs, hnumbers⟩

/-- A source with the numbers 40, 41 goes on behind one with the numbers 10, 11. -/
theorem numbersContinued_relayed : ∃ s, Run (step relayParams) WellFormed (start 0 {}) s ∧
    s.sent.map (fun a => (a.source, a.input.header.sequenceNumber, a.wire.header.sequenceNumber)) =
      [(0, 10, 10), (0, 11, 11), (1, 40, 12), (1, 41, 13)] ∧
    Neighbours Continues s.sent ∧ s.sent.Pairwise Keeps := by
  obtain ⟨s, hrun, hnumbers⟩ := @run_relayEvents [10, 11] [40, 41] (by decide)
    [(0, 10, 10), (0, 11, 11), (1, 40, 12), (1, 41, 13)] (by decide +kernel)
  exact ⟨s, hrun, hnumbers, (numbersContinued hrun).2.1, (numbersContinued hrun).2.2.1⟩

/-- If the last packet of a source is not its furthest one, its number and the next ones have been used:
here 12 goes out twice, though the numbers of each source are different ones. -/
theorem lastNumber_reused : ∃ s, Run (step relayParams) WellFormed (start 0 {}) s ∧
    s.sent.map (fun a => (a.source, a.input.header.sequenceNumber, a.wire.header.sequenceNumber)) =
      [(0, 10, 10), (0, 12, 12), (0, 11, 11), (1, 40, 12)] :=
  @run_relayEvents [10, 12, 11] [40] (by decide) _ (by decide +kernel)

end SwitchingSender

end Werift.Webrtc
