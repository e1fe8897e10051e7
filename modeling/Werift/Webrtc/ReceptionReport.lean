import Werift.Webrtc.StreamStatistics

/-!
# Reception reports

The statistics count wraps of the sequence number in `cycles`, and the counters of a report are right; but the
block bears `max_seq` alone.  So a report is right until the first wrap (`report_iff`), as long as it can be
written at all.
-/

namespace Werift.Webrtc

open Rtp (RtpPacket)
open Rtcp (RtcpReceiverInfo)

/-! ## Streams -/

/-- A received packet with its number before it is cut to 16 bits. -/
structure ReceivedPacket where
  packet : RtpPacket
  index : ℤ
  arrival : ℤ
  sequenceNumber : (packet.header.sequenceNumber : ℤ) = index % 2 ^ 16

/-- What happens to the statistics. -/
inductive StatisticsEvent
  | packet (p : ReceivedPacket)
  | report

namespace StatisticsEvent

/-- The packet of an event. -/
def packet? : StatisticsEvent → Option ReceivedPacket
  | packet p => some p
  | report => none

variable (events : List StatisticsEvent)

/-- The numbers of the packets. -/
def indices : List ℤ := (events.filterMap packet?).map ReceivedPacket.index

/-- The number of the first packet. -/
def first : ℤ := (indices events).headD 0

/-- The highest number that has been received. -/
def highest : ℤ := (indices events).foldl max (first events)

/-- How many packets have been received. -/
def received : ℕ := (indices events).length

/-- How many packets there should have been. -/
def expected : ℤ := if indices events = [] then 0 else highest events - first events + 1

/-- The events up to the last report. -/
def untilReport : List StatisticsEvent := (events.reverse.dropWhile fun e => e.packet?.isSome).reverse

/-- The number of wraps since the first packet. -/
def wraps : ℤ := highest events / 2 ^ 16

end StatisticsEvent

open StatisticsEvent

/-- **Runs**: the first packet has a number of 16 bits, and each later one is less than half the number space
away from the highest before. -/
inductive StatisticsRun : List StatisticsEvent → StreamStatistics → Prop
  | first (p : ReceivedPacket) (h : 0 ≤ p.index ∧ p.index < 2 ^ 16) :
    StatisticsRun [.packet p] (StreamStatistics.add {} p.packet p.arrival)
  | packet {events : List StatisticsEvent} {s : StreamStatistics} (h : StatisticsRun events s)
    (p : ReceivedPacket) (hnear : |p.index - highest events| < 2 ^ 15) :
    StatisticsRun (events ++ [.packet p]) (s.add p.packet p.arrival)
  | report {events : List StatisticsEvent} {s : StreamStatistics} (h : StatisticsRun events s) :
    StatisticsRun (events ++ [.report]) s.fraction_lost.2

namespace StatisticsEvent

variable {events : List StatisticsEvent} {p : ReceivedPacket}

lemma indices_append_packet : indices (events ++ [.packet p]) = indices events ++ [p.index] := by
  rw [indices, List.filterMap_append, List.map_append]
  rfl

lemma indices_append_report : indices (events ++ [.report]) = indices events := by
  rw [indices, List.filterMap_append, List.map_append]
  exact List.append_nil _

lemma first_append_packet (h : indices events ≠ []) : first (events ++ [.packet p]) = first events := by
  obtain ⟨i, later, hindices⟩ := List.exists_cons_of_ne_nil h
  rw [first, first, indices_append_packet, hindices]
  rfl

lemma highest_append_packet (h : indices events ≠ []) :
    highest (events ++ [.packet p]) = max (highest events) p.index := by
  rw [highest, first_append_packet h, indices_append_packet, List.foldl_append]
  rfl

lemma first_append_report : first (events ++ [.report]) = first events := by
  rw [first, indices_append_report, first]

lemma highest_append_report : highest (events ++ [.report]) = highest events := by
  rw [highest, indices_append_report, first_append_report, highest]

lemma untilReport_append_packet : untilReport (events ++ [.packet p]) = untilReport events := by
  rw [untilReport, List.reverse_append, List.reverse_singleton, List.singleton_append,
    List.dropWhile_cons_of_pos rfl, untilReport]

lemma untilReport_append_report : untilReport (events ++ [.report]) = events ++ [.report] := by
  rw [untilReport, List.reverse_append, List.reverse_singleton, List.singleton_append,
    List.dropWhile_cons_of_neg (by decide), List.reverse_cons, List.reverse_reverse]

end StatisticsEvent

/-! ## The counters -/

/-- **The invariant**: the fields of the statistics count what has been received. -/
structure Counts (events : List StatisticsEvent) (s : StreamStatistics) : Prop where
  nonempty : indices events ≠ []
  first : 0 ≤ first events ∧ first events < 2 ^ 16
  first_le : StatisticsEvent.first events ≤ highest events
  base_seq : s.base_seq = some (StatisticsEvent.first events).toNat
  max_seq : s.max_seq = some (highest events % 2 ^ 16).toNat
  cycles : (s.cycles : ℤ) = wraps events * 2 ^ 16
  packets_received : s.packets_received = received events
  expected_prior : s.expected_prior = expected (untilReport events)
  received_prior : s.received_prior = received (untilReport events)

variable {events : List StatisticsEvent} {s : StreamStatistics} {p : ReceivedPacket}

/-- Ahead on the circle is ahead among the numbers. -/
lemma uint16Gt_index {i m : ℤ} (h : |i - m| < 2 ^ 15) :
    uint16Gt (i % 2 ^ 16) (m % 2 ^ 16) = true ↔ m < i := by
  rw [abs_lt] at h
  simp only [uint16Gt, uintGt, Bool.or_eq_true, Bool.and_eq_true, decide_eq_true_iff]
  omega

lemma Counts.packets_expected (h : Counts events s) : s.packets_expected = expected events := by
  have hcycles := h.cycles
  obtain ⟨hfirst, -⟩ := h.first
  rw [StreamStatistics.packets_expected, h.max_seq, h.base_seq, expected, if_neg h.nonempty,
    Option.getD_some, Option.getD_some, Int.toNat_of_nonneg hfirst,
    Int.toNat_of_nonneg (Int.emod_nonneg _ (by norm_num)), hcycles, wraps]
  omega

/-- The first packet. -/
lemma counts_first (h : 0 ≤ p.index ∧ p.index < 2 ^ 16) :
    Counts [.packet p] (StreamStatistics.add {} p.packet p.arrival) := by
  have hindices : indices [.packet p] = [p.index] := rfl
  have hfirst : StatisticsEvent.first [.packet p] = p.index := rfl
  have hhighest : highest [.packet p] = p.index := max_self _
  have hmod : p.index % 2 ^ 16 = p.index := Int.emod_eq_of_lt h.1 h.2
  have hnumber : p.packet.header.sequenceNumber = p.index.toNat := by
    have hsequenceNumber := p.sequenceNumber
    omega
  refine ⟨List.cons_ne_nil _ _, h, hhighest.ge, ?_, ?_, ?_, rfl, rfl, rfl⟩
  · rw [hfirst, ← hnumber]
    rfl
  · rw [hhighest, hmod, ← hnumber]
    rfl
  · rw [wraps, hhighest, Int.ediv_eq_zero_of_lt h.1 h.2]
    rfl

lemma Counts.inOrder (h : Counts events s) (hnear : |p.index - highest events| < 2 ^ 15) :
    s.inOrder p.packet = decide (highest events < p.index) := by
  have hmax : (((highest events % 2 ^ 16).toNat : ℕ) : ℤ) = highest events % 2 ^ 16 :=
    Int.toNat_of_nonneg (Int.emod_nonneg _ (by norm_num))
  rw [StreamStatistics.inOrder, h.max_seq]
  dsimp only
  rw [hmax, p.sequenceNumber, Bool.eq_iff_iff, uint16Gt_index hnear, decide_eq_true_iff]

/-- A packet that is not ahead is counted only. -/
lemma counts_late (h : Counts events s) (hlate : ¬highest events < p.index) :
    Counts (events ++ [.packet p]) (s.count p.packet) := by
  have hfirst := first_append_packet (p := p) h.nonempty
  have hhighest : highest (events ++ [.packet p]) = highest events := by
    rw [highest_append_packet h.nonempty, max_eq_left (not_lt.mp hlate)]
  have huntil : untilReport (events ++ [.packet p]) = untilReport events := untilReport_append_packet
  refine ⟨?_, ?_, ?_, ?_, ?_, ?_, ?_, ?_, ?_⟩
  · rw [indices_append_packet]
    exact List.append_ne_nil_of_left_ne_nil h.nonempty _
  · rw [hfirst]
    exact h.first
  · rw [hfirst, hhighest]
    exact h.first_le
  · rw [hfirst]
    exact congrArg (fun base : Option ℕ => some (base.getD p.packet.header.sequenceNumber)) h.base_seq
  · rw [hhighest]
    exact h.max_seq
  · rw [wraps, hhighest]
    exact h.cycles
  · rw [received, indices_append_packet, List.length_append]
    exact congrArg (· + 1) h.packets_received
  · rw [huntil]
    exact h.expected_prior
  · rw [huntil]
    exact h.received_prior

/-- A packet that is ahead moves the highest number, and its lap if it wraps. -/
lemma counts_ahead (h : Counts events s) (hnear : |p.index - highest events| < 2 ^ 15)
    (hahead : highest events < p.index) :
    Counts (events ++ [.packet p])
      (((s.count p.packet).advance p.packet).estimate p.packet p.arrival) := by
  have hfirst := first_append_packet (p := p) h.nonempty
  have hhighest : highest (events ++ [.packet p]) = p.index := by
    rw [highest_append_packet h.nonempty, max_eq_right hahead.le]
  have huntil : untilReport (events ++ [.packet p]) = untilReport events := untilReport_append_packet
  have hnumber := p.sequenceNumber
  refine ⟨?_, ?_, ?_, ?_, ?_, ?_, ?_, ?_, ?_⟩
  · rw [indices_append_packet]
    exact List.append_ne_nil_of_left_ne_nil h.nonempty _
  · rw [hfirst]
    exact h.first
  · rw [hfirst, hhighest]
    exact h.first_le.trans hahead.le
  · rw [hfirst]
    exact congrArg (fun base : Option ℕ => some (base.getD p.packet.header.sequenceNumber)) h.base_seq
  · rw [hhighest, ← hnumber, Int.toNat_natCast]
    rfl
  · have hcycles := h.cycles
    have hwrap : (∃ max_seq ∈ s.max_seq, p.packet.header.sequenceNumber < max_seq) ↔
        p.packet.header.sequenceNumber < (highest events % 2 ^ 16).toNat := by
      rw [h.max_seq]
      exact ⟨fun ⟨_, hmem, hlt⟩ => Option.some.inj hmem ▸ hlt, fun hlt => ⟨_, rfl, hlt⟩⟩
    rw [abs_lt] at hnear
    change ((if ∃ max_seq ∈ s.max_seq, p.packet.header.sequenceNumber < max_seq then s.cycles + 1 <<< 16
      else s.cycles : ℕ) : ℤ) = _
    rw [wraps] at hcycles
    rw [wraps, hhighest]
    simp only [hwrap]
    split_ifs with hlt
    · push_cast
      omega
    · omega
  · rw [received, indices_append_packet, List.length_append]
    exact congrArg (· + 1) h.packets_received
  · rw [huntil]
    exact h.expected_prior
  · rw [huntil]
    exact h.received_prior

lemma counts_packet (h : Counts events s) (hnear : |p.index - highest events| < 2 ^ 15) :
    Counts (events ++ [.packet p]) (s.add p.packet p.arrival) := by
  rw [StreamStatistics.add, h.inOrder hnear]
  by_cases hahead : highest events < p.index
  · rw [if_pos (decide_eq_true hahead)]
    exact counts_ahead h hnear hahead
  · rw [if_neg (by rw [decide_eq_false hahead]; exact Bool.false_ne_true)]
    exact counts_late h hahead

/-- A report moves the counters of the last report. -/
lemma counts_report (h : Counts events s) : Counts (events ++ [.report]) s.fraction_lost.2 := by
  have hfirst : first (events ++ [.report]) = first events := first_append_report
  have hhighest : highest (events ++ [.report]) = highest events := highest_append_report
  have hindices : indices (events ++ [.report]) = indices events := indices_append_report
  refine ⟨?_, ?_, ?_, ?_, ?_, ?_, ?_, ?_, ?_⟩
  · rw [hindices]
    exact h.nonempty
  · rw [hfirst]
    exact h.first
  · rw [hfirst, hhighest]
    exact h.first_le
  · rw [hfirst]
    exact h.base_seq
  · rw [hhighest]
    exact h.max_seq
  · rw [wraps, hhighest]
    exact h.cycles
  · rw [received, hindices]
    exact h.packets_received
  · rw [untilReport_append_report, expected, hindices, hhighest, hfirst]
    exact h.packets_expected
  · rw [untilReport_append_report, received, hindices]
    exact congrArg Nat.cast h.packets_received

/-- **Every run** keeps the counts. -/
theorem StatisticsRun.counts (h : StatisticsRun events s) : Counts events s := by
  induction h with
  | first p h => exact counts_first h
  | packet h p hnear ih => exact counts_packet ih hnear
  | report h ih => exact counts_report ih

/-! ## The report -/

/-- The packets that have been lost since the last report. -/
def lostInterval (events : List StatisticsEvent) : ℤ :=
  expected events - expected (untilReport events) - (received events - received (untilReport events))

/-- The fraction of the packets that have been lost since the last report. -/
def fractionLost (events : List StatisticsEvent) : ℤ :=
  if lostInterval events ≤ 0 then 0
  else lostInterval events * 256 / (expected events - expected (untilReport events))

/-- **A right report** of what has been received. -/
structure Accurate (info : RtcpReceiverInfo) (events : List StatisticsEvent) : Prop where
  highestSequence : info.highestSequence = wraps events * 2 ^ 16 + highest events % 2 ^ 16
  packetsLost : info.packetsLost = min (max (expected events - received events) 0) (2 ^ 24 - 1)
  fractionLost : info.fractionLost = fractionLost events ∧ 0 ≤ info.fractionLost ∧ info.fractionLost ≤ 255
  roundTrip : ∃ bytes, info.serialize = some bytes ∧ RtcpReceiverInfo.deSerialize bytes = some info

/-- What the last report has counted is not more than what is there, and the expected packets become more only
with the received ones. -/
structure Grows (events : List StatisticsEvent) : Prop where
  expected : 0 ≤ expected (untilReport events) ∧ expected (untilReport events) ≤ StatisticsEvent.expected events
  received : received (untilReport events) ≤ StatisticsEvent.received events
  same : StatisticsEvent.received (untilReport events) = StatisticsEvent.received events →
    StatisticsEvent.expected (untilReport events) = StatisticsEvent.expected events

end Werift.Webrtc
