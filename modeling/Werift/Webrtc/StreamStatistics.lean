import Werift.Common.Number
import Werift.Rtcp.ReceiverInfo
import Werift.Rtp.Header

/-!
# Statistics of a received stream (`webrtc/src/media/receiver/statistics.ts`)

`add` counts a packet, follows the sequence numbers and estimates the jitter.  `int(now * clockRate)`, the
time of arrival in units of the RTP timestamp, is an argument here.
-/

namespace Werift.Webrtc

open Rtp (RtpPacket)
open Rtcp (RtcpReceiverInfo)

/-- The fields of a `StreamStatistics`. -/
structure StreamStatistics where
  base_seq : Option ℕ := none
  max_seq : Option ℕ := none
  cycles : ℕ := 0
  packets_received : ℕ := 0
  bytesReceived : ℕ := 0
  jitter_q4 : ℤ := 0
  last_arrival : Option ℤ := none
  last_timestamp : Option ℕ := none
  expected_prior : ℤ := 0
  received_prior : ℤ := 0

namespace StreamStatistics

variable (s : StreamStatistics) (packet : RtpPacket) (arrival : ℤ)

/-- Whether a packet is ahead of all others. -/
def inOrder : Bool :=
  match s.max_seq with
  | none => true
  | some max_seq => uint16Gt packet.header.sequenceNumber max_seq

/-- The packet is counted. -/
def count : StreamStatistics :=
  { s with packets_received := s.packets_received + 1
           bytesReceived := s.bytesReceived + packet.payload.length
           base_seq := some (s.base_seq.getD packet.header.sequenceNumber) }

/-- The sequence number of a packet in order. -/
def advance : StreamStatistics :=
  { s with cycles :=
             if ∃ max_seq ∈ s.max_seq, packet.header.sequenceNumber < max_seq then s.cycles + 1 <<< 16
             else s.cycles
           max_seq := some packet.header.sequenceNumber }

/-- The difference of the transit times of a packet and the one before. -/
def transitDifference : ℤ :=
  |arrival - s.last_arrival.getD 0 -
    ((packet.header.timestamp : ℤ) - (s.last_timestamp.getD 0 : ℕ))|

/-- The jitter behind a packet in order. -/
def estimate : StreamStatistics :=
  { s with jitter_q4 :=
             if some packet.header.timestamp ≠ s.last_timestamp ∧ 1 < s.packets_received then
               s.jitter_q4 + (s.transitDifference packet arrival - Js.shiftRight (s.jitter_q4 + 8) 4)
             else s.jitter_q4
           last_arrival := some arrival
           last_timestamp := some packet.header.timestamp }

/-- `add(packet, now)`. -/
def add : StreamStatistics :=
  let inOrder := s.inOrder packet
  let s := s.count packet
  if inOrder then (s.advance packet).estimate packet arrival else s

/-- `packets_expected`. -/
def packets_expected : ℤ := s.cycles + (s.max_seq.getD 0 : ℕ) - (s.base_seq.getD 0 : ℕ) + 1

/-- `packets_lost`. -/
def packets_lost : ℤ :=
  let lost := s.packets_expected - s.packets_received
  if lost < 0 then 0 else lost

/-- `fraction_lost`, which also moves the counters of the last report. -/
def fraction_lost : ℤ × StreamStatistics :=
  let expected_interval := s.packets_expected - s.expected_prior
  let received_interval := s.packets_received - s.received_prior
  let lost_interval := expected_interval - received_interval
  (if expected_interval = 0 ∨ lost_interval ≤ 0 then 0
    else (Js.shiftLeft lost_interval 8).fdiv expected_interval,
    { s with expected_prior := s.packets_expected, received_prior := s.packets_received })

/-- `jitter`. -/
def jitter : ℤ := Js.shiftRight s.jitter_q4 4

/-- The report block of `runRtcp` for a stream that has a packet. -/
def report (ssrc lsr dlsr : ℕ) : RtcpReceiverInfo × StreamStatistics :=
  let (fractionLost, s) := s.fraction_lost
  ({ ssrc, fractionLost, packetsLost := s.packets_lost, highestSequence := (s.max_seq.getD 0 : ℕ)
     jitter := s.jitter, lsr, dlsr }, s)

/-- The sign of the jitter. -/
lemma jitter_bounds : (0 ≤ s.jitter ∧ s.jitter < 256 ^ 4) ↔ s.jitter_q4 % 2 ^ 32 < 2 ^ 31 := by
  rw [jitter, Js.shiftRight_eq _ (by norm_num), Int.bmod_def]
  omega

end StreamStatistics

end Werift.Webrtc
