import Werift.Rtcp.Nack
import Werift.Webrtc.RtpSender

/-!
# Received NACKs (`RTCRtpSender.handleRtcpPacket`)

The sender looks into its cache for every number of a NACK as the parser has unpacked it.  A number that
runs over 65535 is not reduced, so the packet that it stands for is never found (`handleNack_of_le`).
-/

namespace Werift.Webrtc

open Rtcp (Bytes RtcpHeader GenericNack)

/-- The numbers that the sender looks up for a NACK, in this order. -/
def lookups (feedback : GenericNack) : List ℕ := feedback.lost

/-- `handleRtcpPacket` for a `GenericNack`. -/
def handleGenericNack (params : SendParams) (s : RTCRtpSender) (feedback : GenericNack) : RTCRtpSender :=
  (lookups feedback).foldl (fun s seqNum => s.handleNack params seqNum) s

/-- The numbers of the packets that have been sent are numbers of 16 bits. -/
def Numbered (s : RTCRtpSender) : Prop :=
  ∀ m ∈ s.media, m.packet.header.sequenceNumber < 2 ^ 16

variable {params : SendParams} {s : RTCRtpSender}

/-- A number above 65535 is never found. -/
lemma handleNack_of_le (hnumbered : Numbered s) {seqNum : ℕ} (hseqNum : 2 ^ 16 ≤ seqNum) :
    s.handleNack params seqNum = s := by
  rw [RTCRtpSender.handleNack]
  cases s.rtpCache.get? (seqNum % RTP_HISTORY_SIZE : ℕ) with
  | none => rfl
  | some index =>
    dsimp only
    cases hmedia : s.media[index]? with
    | none => rfl
    | some m =>
      have hlt := hnumbered m (List.mem_of_getElem? hmedia)
      have hother : m.packet.header.sequenceNumber ≠ seqNum := by omega
      exact if_pos hother

/-- **Generic NACKs**: numbers that are written and read back are the same unless the pairs are too many for
the length in the header; a received NACK makes the sender look up what its pairs name unless a number runs
over 65535. -/
theorem lost_iff (n : GenericNack) (h : n.Valid) (data : Bytes) (header : RtcpHeader) (received : GenericNack)
    (pairs : List (ℕ × ℕ)) (hreceived : GenericNack.deSerialize data header = some received)
    (hpairs : GenericNack.readPairs (data.drop 8) = some pairs) :
    (n.RoundTrips ↔ (GenericNack.pack n.lost).length ≤ 65533) ∧
      ((∀ m, m ∈ lookups received ↔ ∃ pair ∈ pairs, m ∈ GenericNack.named pair) ↔
        ∀ pair ∈ pairs, ∀ diff ∈ GenericNack.following pair.2, pair.1 + diff + 1 < 2 ^ 16) := by
  refine ⟨h.roundTrip_iff_pack, ?_⟩
  have hlost : received.lost = pairs.flatMap GenericNack.unpack := by
    rw [GenericNack.deSerialize, hpairs] at hreceived
    obtain ⟨senderSsrc, -, hreceived⟩ := Option.bind_eq_some_iff.mp hreceived
    obtain ⟨mediaSourceSsrc, -, hreceived⟩ := Option.bind_eq_some_iff.mp hreceived
    obtain rfl := Option.some.inj hreceived
    rfl
  rw [lookups, hlost]
  exact GenericNack.mem_unpack_iff_named (GenericNack.lt_of_mem_readPairs hpairs)

/-- The numbers 65535 and 0, and a NACK about 1 and 2. -/
theorem lost_wrap :
    GenericNack.RoundTrips { senderSsrc := 1, mediaSourceSsrc := 2, lost := [65535, 0] } ∧
    ∃ received, GenericNack.deSerialize [0, 0, 0, 1, 0, 0, 0, 2, 0, 1, 0, 1] {} = some received ∧
      ∀ m, m ∈ lookups received ↔ ∃ pair ∈ [(1, 1)], m ∈ GenericNack.named pair := by
  have h := lost_iff { senderSsrc := 1, mediaSourceSsrc := 2, lost := [65535, 0] }
    ⟨⟨0, rfl⟩, by norm_num, by norm_num, by decide, by decide⟩ [0, 0, 0, 1, 0, 0, 0, 2, 0, 1, 0, 1] {} _
    [(1, 1)] rfl (by decide)
  exact ⟨h.1.mpr (by decide), _, rfl, h.2.mpr (by decide)⟩

/-- The body of a NACK for 65535 and the number behind it. -/
def wrappingNack : Bytes := [0, 0, 0, 1, 0, 0, 0, 2, 255, 255, 0, 1]

/-- For a NACK about 65535 and 0 the sender looks up 65536. -/
theorem lookups_wrappingNack :
    ∃ received, GenericNack.deSerialize wrappingNack {} = some received ∧
      GenericNack.readPairs (wrappingNack.drop 8) = some [(65535, 1)] ∧
      GenericNack.named (65535, 1) = [65535, 0] ∧ lookups received = [65535, 65536] :=
  ⟨_, rfl, by decide, by decide, by decide⟩

end Werift.Webrtc
