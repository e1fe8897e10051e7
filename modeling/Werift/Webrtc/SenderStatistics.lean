import Werift.Common.Number
import Werift.Js.Number
import Werift.Rtcp.SenderReport

/-!
# What a sender reports (`webrtc/src/media/sender/senderStats.ts`)

The counts of the packets and octets that a sender has sent grow over its life, and go out in sender reports
together with the time of the report on the clock of the media.  Times are rational numbers of milliseconds.
-/

namespace Werift.Webrtc

open Rtcp

/-- `v | 0`. -/
def toInt32 (v : ℤ) : ℤ := if v % 2 ^ 32 < 2 ^ 31 then v % 2 ^ 32 else v % 2 ^ 32 - 2 ^ 32

/-! ## NTP timestamps (`webrtc/src/utils.ts`) -/

/-- `NTP_FRACTION_SCALE`. -/
def NTP_FRACTION_SCALE : ℤ := 2 ^ 32

/-- `Date.UTC(1900, 0, 1)`. -/
def ntpEpochMs : ℤ := -2208988800000

/-- The seconds of an NTP timestamp. -/
def ntpSeconds (epochMs : ℚ) : ℤ := ⌊(epochMs - ntpEpochMs) / 1000⌋

/-- The fraction of a second of an NTP timestamp. -/
def ntpFraction (epochMs : ℚ) : ℤ :=
  min ⌊(epochMs - ntpEpochMs - ntpSeconds epochMs * 1000) / 1000 * NTP_FRACTION_SCALE⌋ (NTP_FRACTION_SCALE - 1)

/-- `ntpTime(epochMs)`. -/
def ntpTime (epochMs : ℚ) : Option ℤ := do
  let buf ← bufferWriter [(4, ntpSeconds epochMs), (4, ntpFraction epochMs)]
  Js.readUIntBE 8 buf 0

/-- `compactNtp(ntp)`. -/
def compactNtp (ntp : ℤ) : ℤ := ntp / 2 ^ 16 % 2 ^ 32

/-! ## Statistics -/

/-- `RTP_CLOCK_ANCHOR_MAX_REORDER_SEC`. -/
def RTP_CLOCK_ANCHOR_MAX_REORDER_SEC : ℤ := 3

/-- An RTP timestamp and the time at which it was sent. -/
structure ClockAnchor where
  monotonicMs : ℚ
  rtpTimestamp : ℤ
  clockRate : ℕ

/-- What `SenderStatistics` keeps for sender reports. -/
structure SenderStatistics where
  headerBytesSent : ℕ := 0
  packetCount : ℤ := 0
  octetCount : ℤ := 0
  retransmittedPacketsSent : ℕ := 0
  retransmittedBytesSent : ℕ := 0
  lastSRtimestamp : Option ℤ := none
  lastSentSRTimestamp : Option ℚ := none
  rtpClockAnchor : Option ClockAnchor := none
  rtpClockAnchorReset : Bool := false

namespace SenderStatistics

variable (s : SenderStatistics)

/-- `recordMediaSent(headerBytes, payloadOctets)`. -/
def recordMediaSent (headerBytes payloadOctets : ℕ) : SenderStatistics :=
  { s with
    headerBytesSent := s.headerBytesSent + headerBytes
    packetCount := uint32Add s.packetCount 1
    octetCount := s.octetCount + payloadOctets }

/-- `recordRetransmissionSent(headerBytes, payloadBytes)`. -/
def recordRetransmissionSent (headerBytes payloadBytes : ℕ) : SenderStatistics :=
  { s with
    retransmittedPacketsSent := s.retransmittedPacketsSent + 1
    retransmittedBytesSent := s.retransmittedBytesSent + payloadBytes
    headerBytesSent := s.headerBytesSent + headerBytes }

/-- `resetClockAnchor()`. -/
def resetClockAnchor : SenderStatistics := { s with rtpClockAnchorReset := true }

/-- The packet has the timestamp of the anchor or one that is a little older. -/
def keepsAnchor (rtpTimestamp : ℤ) (clockRate : ℕ) : Bool :=
  match s.rtpClockAnchor with
  | none => false
  | some anchor =>
    let delta := toInt32 (rtpTimestamp - anchor.rtpTimestamp)
    ¬ s.rtpClockAnchorReset ∧ anchor.clockRate = clockRate ∧ delta ≤ 0 ∧
      -delta ≤ clockRate * RTP_CLOCK_ANCHOR_MAX_REORDER_SEC

/-- `updateClockAnchor(rtpTimestamp, clockRate)` at the time `now`. -/
def updateClockAnchor (rtpTimestamp : ℤ) (clockRate : ℕ) (now : ℚ) : SenderStatistics :=
  if s.keepsAnchor rtpTimestamp clockRate then s
  else { s with rtpClockAnchorReset := false, rtpClockAnchor := some ⟨now, rtpTimestamp, clockRate⟩ }

/-- The RTP timestamp of the instant `nowMonotonicMs`. -/
def rtpTimestampAt (nowMonotonicMs : ℚ) : ℤ :=
  match s.rtpClockAnchor with
  | none => 0
  | some anchor =>
    let elapsedMs := max 0 (nowMonotonicMs - anchor.monotonicMs)
    uint32Add anchor.rtpTimestamp (Int.tmod (Js.mathRound (elapsedMs * anchor.clockRate / 1000)) 0x100000000)

/-- `buildSenderReport(ssrc, nowMonotonicMs)`, where the time began at `timeOrigin` and the clock on the wall shows
`wallSeconds`. -/
def buildSenderReport (ssrc : ℤ) (timeOrigin nowMonotonicMs wallSeconds : ℚ) :
    Option (SenderStatistics × RtcpSrPacket) := do
  let ntpTimestamp ← ntpTime (timeOrigin + nowMonotonicMs)
  return ({ s with lastSRtimestamp := compactNtp ntpTimestamp, lastSentSRTimestamp := wallSeconds },
    { ssrc
      senderInfo :=
        { ntpTimestamp
          rtpTimestamp := s.rtpTimestampAt nowMonotonicMs
          packetCount := s.packetCount
          octetCount := s.octetCount } })

/-- What happens to a sender, and when. -/
inductive Event
  | media (headerBytes payloadOctets : ℕ)
  | retransmission (headerBytes payloadBytes : ℕ)
  | resetClockAnchor
  | clockAnchor (rtpTimestamp : ℤ) (clockRate : ℕ) (now : ℚ)
  | senderReport (ssrc : ℤ) (timeOrigin now wallSeconds : ℚ)

/-- One event.  A report that cannot be built changes nothing. -/
def step : Event → SenderStatistics
  | .media headerBytes payloadOctets => s.recordMediaSent headerBytes payloadOctets
  | .retransmission headerBytes payloadBytes => s.recordRetransmissionSent headerBytes payloadBytes
  | .resetClockAnchor => s.resetClockAnchor
  | .clockAnchor rtpTimestamp clockRate now => s.updateClockAnchor rtpTimestamp clockRate now
  | .senderReport ssrc timeOrigin now wallSeconds =>
    ((s.buildSenderReport ssrc timeOrigin now wallSeconds).map Prod.fst).getD s

/-- The statistics of a sender after these events. -/
def run (events : List Event) : SenderStatistics := events.foldl step {}

/-- The media packets of an event. -/
def Event.packets : Event → ℕ
  | .media _ _ => 1
  | _ => 0

/-- The octets of media of an event. -/
def Event.octets : Event → ℕ
  | .media _ payloadOctets => payloadOctets
  | _ => 0

/-! ## What is counted -/

variable {s}

lemma step_octetCount (s : SenderStatistics) (event : Event) :
    (s.step event).octetCount = s.octetCount + event.octets := by
  cases event with
  | media => rfl
  | retransmission => exact (add_zero _).symm
  | resetClockAnchor => exact (add_zero _).symm
  | clockAnchor rtpTimestamp clockRate now =>
    rw [step, updateClockAnchor]
    split_ifs <;> exact (add_zero _).symm
  | senderReport ssrc timeOrigin now wallSeconds =>
    rw [step, buildSenderReport]
    cases ntpTime (timeOrigin + now) <;> exact (add_zero _).symm

lemma step_packetCount {s : SenderStatistics} (h : 0 ≤ s.packetCount ∧ s.packetCount < 2 ^ 32) (event : Event) :
    (s.step event).packetCount = (s.packetCount + event.packets) % 2 ^ 32 := by
  have hsame : s.packetCount = (s.packetCount + (0 : ℕ)) % 2 ^ 32 := by
    rw [Nat.cast_zero, add_zero, Int.emod_eq_of_lt h.1 h.2]
  cases event with
  | media => rfl
  | retransmission => exact hsame
  | resetClockAnchor => exact hsame
  | clockAnchor rtpTimestamp clockRate now =>
    rw [step, updateClockAnchor]
    split_ifs <;> exact hsame
  | senderReport ssrc timeOrigin now wallSeconds =>
    rw [step, buildSenderReport]
    cases ntpTime (timeOrigin + now) <;> exact hsame

lemma step_anchor {s : SenderStatistics} {event : Event} {anchor : ClockAnchor}
    (h : (s.step event).rtpClockAnchor = some anchor) :
    s.rtpClockAnchor = some anchor ∨
      event = .clockAnchor anchor.rtpTimestamp anchor.clockRate anchor.monotonicMs := by
  cases event with
  | media => exact .inl h
  | retransmission => exact .inl h
  | resetClockAnchor => exact .inl h
  | clockAnchor rtpTimestamp clockRate now =>
    rw [step, updateClockAnchor] at h
    split_ifs at h
    · exact .inl h
    · obtain rfl := Option.some.inj h
      exact .inr rfl
  | senderReport ssrc timeOrigin now wallSeconds =>
    rw [step, buildSenderReport] at h
    cases hntp : ntpTime (timeOrigin + now) with
    | none =>
      rw [hntp] at h
      exact .inl h
    | some ntp =>
      rw [hntp] at h
      exact .inl h

lemma run_concat (events : List Event) (event : Event) : run (events ++ [event]) = (run events).step event := by
  rw [run, List.foldl_append]
  rfl

/-- All octets are counted. -/
lemma run_octetCount (events : List Event) : (run events).octetCount = ((events.map Event.octets).sum : ℕ) := by
  induction events using List.reverseRecOn with
  | nil => rfl
  | append_singleton events event ih =>
    rw [run_concat, step_octetCount, ih, List.map_append, List.sum_append, List.map_singleton, List.sum_singleton,
      Nat.cast_add]

/-- The packets are counted modulo `2 ^ 32`. -/
lemma run_packetCount (events : List Event) :
    (run events).packetCount = ((events.map Event.packets).sum : ℕ) % (2 ^ 32 : ℤ) := by
  induction events using List.reverseRecOn with
  | nil => rfl
  | append_singleton events event ih =>
    have hrange : 0 ≤ (run events).packetCount ∧ (run events).packetCount < 2 ^ 32 := by
      rw [ih]
      exact ⟨Int.emod_nonneg _ (by norm_num), Int.emod_lt_of_pos _ (by norm_num)⟩
    rw [run_concat, step_packetCount hrange, ih, List.map_append, List.sum_append, List.map_singleton,
      List.sum_singleton, Nat.cast_add, Int.emod_add_emod]

/-- The anchor is a packet that has been sent. -/
lemma run_anchor {events : List Event} {anchor : ClockAnchor} (h : (run events).rtpClockAnchor = some anchor) :
    .clockAnchor anchor.rtpTimestamp anchor.clockRate anchor.monotonicMs ∈ events := by
  induction events using List.reverseRecOn with
  | nil => cases h
  | append_singleton events event ih =>
    rw [run_concat] at h
    obtain hbefore | rfl := step_anchor h
    · exact List.mem_append_left _ (ih hbefore)
    · exact List.mem_append_right _ (List.mem_singleton_self _)

/-! ## What is reported -/

/-- The fraction of a second fits its field. -/
lemma ntpFraction_range (epochMs : ℚ) : 0 ≤ ntpFraction epochMs ∧ ntpFraction epochMs < 256 ^ 4 := by
  have hfloor : (ntpSeconds epochMs : ℚ) ≤ (epochMs - ntpEpochMs) / 1000 := Int.floor_le _
  have hnonneg : 0 ≤ (epochMs - ntpEpochMs - ntpSeconds epochMs * 1000) / 1000 * (NTP_FRACTION_SCALE : ℚ) := by
    have hrest : 0 ≤ epochMs - ntpEpochMs - ntpSeconds epochMs * 1000 := by linarith
    rw [NTP_FRACTION_SCALE]
    positivity
  refine ⟨le_min (Int.floor_nonneg.mpr hnonneg) (by decide), ?_⟩
  exact (min_le_right _ _).trans_lt (by decide)

/-- An NTP timestamp fits its field as long as the seconds do. -/
lemma isSome_ntpTime (epochMs : ℚ) :
    (ntpTime epochMs).isSome ↔ 0 ≤ ntpSeconds epochMs ∧ ntpSeconds epochMs < 2 ^ 32 := by
  have hwrite : (bufferWriter [(4, ntpSeconds epochMs), (4, ntpFraction epochMs)]).isSome ↔ _ :=
    isSome_bufferWriter_iff
  simp only [List.forall_mem_cons, List.not_mem_nil, false_imp_iff, implies_true, and_true] at hwrite
  have hfraction := ntpFraction_range epochMs
  rw [ntpTime]
  cases hbuf : bufferWriter [(4, ntpSeconds epochMs), (4, ntpFraction epochMs)] with
  | none =>
    rw [hbuf] at hwrite
    exact ⟨fun h => absurd h nofun, fun h => absurd (hwrite.mpr ⟨h, hfraction⟩) nofun⟩
  | some buf =>
    rw [hbuf] at hwrite
    have hlength := length_of_bufferWriter hbuf
    have hread : Js.readUIntBE 8 buf 0 = some (BigEndian.decode ((buf.drop 0).take 8) : ℤ) :=
      if_pos (by rw [hlength]; exact Nat.le_refl 8)
    rw [Option.bind_eq_bind, Option.bind_some, hread]
    exact ⟨fun _ => (hwrite.mp rfl).1, fun _ => rfl⟩

lemma ntpTime_range {epochMs : ℚ} {ntp : ℤ} (h : ntpTime epochMs = some ntp) : 0 ≤ ntp ∧ ntp < 256 ^ 8 := by
  obtain ⟨buf, -, hread⟩ := Option.bind_eq_some_iff.mp h
  rw [Js.readUIntBE] at hread
  split_ifs at hread
  obtain rfl := Option.some.inj hread
  refine ⟨Int.natCast_nonneg _, ?_⟩
  have hlt := BigEndian.decode_lt ((buf.drop 0).take 8)
  have hlength : ((buf.drop 0).take 8).length ≤ 8 := List.length_take_le _ _
  exact_mod_cast hlt.trans_le (Nat.pow_le_pow_right (by norm_num) hlength)

lemma rtpTimestampAt_range (s : SenderStatistics) (now : ℚ) :
    0 ≤ s.rtpTimestampAt now ∧ s.rtpTimestampAt now < 256 ^ 4 := by
  rw [rtpTimestampAt]
  cases s.rtpClockAnchor with
  | none => norm_num
  | some anchor => exact ⟨Int.emod_nonneg _ (by norm_num), Int.emod_lt_of_pos _ (by norm_num)⟩

/-- The ticks since the anchor. -/
lemma rtpTimestampAt_eq {anchor : ClockAnchor} {now : ℚ} (h : s.rtpClockAnchor = some anchor)
    (hnow : anchor.monotonicMs ≤ now) : s.rtpTimestampAt now =
      (anchor.rtpTimestamp + Js.mathRound ((now - anchor.monotonicMs) * anchor.clockRate / 1000)) % 2 ^ 32 := by
  have helapsed : max 0 (now - anchor.monotonicMs) = now - anchor.monotonicMs := max_eq_right (sub_nonneg.mpr hnow)
  have hticks : 0 ≤ Js.mathRound ((now - anchor.monotonicMs) * anchor.clockRate / 1000) := by
    have : 0 ≤ (now - anchor.monotonicMs) * anchor.clockRate / 1000 := by
      have := sub_nonneg.mpr hnow
      positivity
    exact Int.floor_nonneg.mpr (by linarith)
  rw [rtpTimestampAt, h]
  dsimp only
  rw [helapsed, Int.tmod_eq_emod_of_nonneg hticks, uint32Add]
  exact Int.add_emod_emod _ _ _

/-- The report of a sender for the time `now` is written, and what is read is right. -/
def ReportValid (events : List Event) (ssrc : ℤ) (timeOrigin now wallSeconds : ℚ) : Prop :=
  ∃ (s : SenderStatistics) (report : RtcpSrPacket) (bytes : Bytes) (parsed : RtcpSrPacket),
    (run events).buildSenderReport ssrc timeOrigin now wallSeconds = some (s, report) ∧
    report.serialize = some bytes ∧ RtcpSrPacket.read bytes = some parsed ∧ parsed.ssrc = ssrc ∧
    parsed.senderInfo.packetCount = ((events.map Event.packets).sum : ℕ) % (2 ^ 32 : ℤ) ∧
    parsed.senderInfo.octetCount = ((events.map Event.octets).sum : ℕ) % (2 ^ 32 : ℤ) ∧
    ∀ anchor : ClockAnchor, (run events).rtpClockAnchor = some anchor → parsed.senderInfo.rtpTimestamp =
      (anchor.rtpTimestamp + Js.mathRound ((now - anchor.monotonicMs) * anchor.clockRate / 1000)) % 2 ^ 32

lemma ReportValid.octets_lt {events : List Event} {ssrc : ℤ} {timeOrigin now wallSeconds : ℚ}
    (h : ReportValid events ssrc timeOrigin now wallSeconds) : (events.map Event.octets).sum < 2 ^ 32 := by
  obtain ⟨s, report, bytes, parsed, hbuild, hserialize, -⟩ := h
  obtain ⟨ntp, hntp, hreport⟩ := Option.bind_eq_some_iff.mp hbuild
  obtain rfl := (Prod.mk.inj (Option.some.inj hreport)).2
  have hfields : (run events).octetCount < 2 ^ 32 :=
    (RtcpSenderInfo.isSome_serialize.mp (RtcpSrPacket.isSome_info hserialize)).2.2.2.2
  rw [run_octetCount] at hfields
  exact_mod_cast hfields

/-- **Sender reports** are valid as long as the octets fit their field, and the seconds of the time theirs. -/
theorem reportValid_iff (events : List Event) {ssrc : ℤ} (hssrc : 0 ≤ ssrc ∧ ssrc < 2 ^ 32)
    (timeOrigin wallSeconds : ℚ) {now : ℚ}
    (hnow : ∀ (rtpTimestamp : ℤ) (clockRate : ℕ) (time : ℚ),
      .clockAnchor rtpTimestamp clockRate time ∈ events → time ≤ now) :
    ReportValid events ssrc timeOrigin now wallSeconds ↔ (events.map Event.octets).sum < 2 ^ 32 ∧
      0 ≤ ntpSeconds (timeOrigin + now) ∧ ntpSeconds (timeOrigin + now) < 2 ^ 32 := by
  constructor
  · intro hvalid
    refine ⟨hvalid.octets_lt, ?_⟩
    obtain ⟨s, report, -, -, hbuild, -⟩ := hvalid
    obtain ⟨ntp, hntp, -⟩ := Option.bind_eq_some_iff.mp hbuild
    exact (isSome_ntpTime _).mp (by rw [hntp]; rfl)
  · rintro ⟨hoctets, hseconds⟩
    obtain ⟨ntp, hntp⟩ := Option.isSome_iff_exists.mp ((isSome_ntpTime _).mpr hseconds)
    have hpackets : 0 ≤ (run events).packetCount ∧ (run events).packetCount < 256 ^ 4 := by
      rw [run_packetCount]
      exact ⟨Int.emod_nonneg _ (by norm_num), Int.emod_lt_of_pos _ (by norm_num)⟩
    have hoctetRange : 0 ≤ (run events).octetCount ∧ (run events).octetCount < 256 ^ 4 := by
      rw [run_octetCount]
      exact ⟨Int.natCast_nonneg _, by exact_mod_cast hoctets⟩
    let report : RtcpSrPacket :=
      { ssrc
        senderInfo :=
          { ntpTimestamp := ntp
            rtpTimestamp := (run events).rtpTimestampAt now
            packetCount := (run events).packetCount
            octetCount := (run events).octetCount } }
    obtain ⟨bytes, hbytes, hread⟩ := RtcpSrPacket.exists_serialize (show report.reports = [] from rfl)
      hssrc (RtcpSenderInfo.isSome_serialize.mpr
        ⟨ntpTime_range hntp, rtpTimestampAt_range _ now, hpackets, hoctetRange⟩)
    have hbuild : (run events).buildSenderReport ssrc timeOrigin now wallSeconds =
        some ({ run events with
          lastSRtimestamp := compactNtp ntp
          lastSentSRTimestamp := wallSeconds }, report) := by
      rw [buildSenderReport, hntp]
      rfl
    refine ⟨_, report, bytes, report, hbuild, hbytes, hread, rfl, run_packetCount events, ?_,
      fun anchor hanchor => ?_⟩
    · rw [Int.emod_eq_of_lt (Int.natCast_nonneg _) (by exact_mod_cast hoctets)]
      exact run_octetCount events
    · exact rtpTimestampAt_eq hanchor (hnow _ _ _ (run_anchor hanchor))

/-- A packet that wraps the timestamp, and a report half a second later. -/
theorem reportValid_wrapping : ReportValid [.media 12 100, .clockAnchor 4294967295 90000 0] 1 1700000000000 500 0 :=
  (reportValid_iff [.media 12 100, .clockAnchor 4294967295 90000 0] (by norm_num) 1700000000000 0
    (by
      intro rtpTimestamp clockRate time h
      obtain h | h := List.mem_cons.mp h
      · cases h
      · cases List.mem_singleton.mp h
        norm_num)).mpr
    ⟨by decide, by norm_num [ntpSeconds, ntpEpochMs], by norm_num [ntpSeconds, ntpEpochMs]⟩

/-- After `2 ^ 32` octets no report is written. -/
theorem not_reportValid : ¬ ReportValid (List.replicate (2 ^ 22) (.media 12 1024)) 1 1700000000000 500 0 := by
  intro h
  have hlt := h.octets_lt
  rw [List.map_replicate, List.sum_replicate] at hlt
  exact absurd hlt (by decide)

end SenderStatistics

end Werift.Webrtc
