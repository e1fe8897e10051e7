import Werift.Common.BufferFields
import Werift.Rtcp.Header

/-! # Report blocks (`RtcpReceiverInfo` of `rtp/src/rtcp/rr.ts`) -/

namespace Werift.Rtcp

/-- The fields of an `RtcpReceiverInfo`. -/
structure RtcpReceiverInfo where
  ssrc : ℤ
  fractionLost : ℤ
  packetsLost : ℤ
  highestSequence : ℤ
  jitter : ℤ
  /-- last SR -/
  lsr : ℤ
  /-- delay since last SR -/
  dlsr : ℤ
deriving DecidableEq

namespace RtcpReceiverInfo

/-- `serialize()`. -/
def serialize (info : RtcpReceiverInfo) : Option Bytes :=
  bufferWriter [(4, info.ssrc), (1, info.fractionLost), (3, info.packetsLost), (4, info.highestSequence),
    (4, info.jitter), (4, info.lsr), (4, info.dlsr)]

/-- `RtcpReceiverInfo.deSerialize(data)`. -/
def deSerialize (data : Bytes) : Option RtcpReceiverInfo :=
  match bufferReader data [4, 1, 3, 4, 4, 4, 4] with
  | some [ssrc, fractionLost, packetsLost, highestSequence, jitter, lsr, dlsr] =>
    some { ssrc, fractionLost, packetsLost, highestSequence, jitter, lsr, dlsr }
  | _ => none

variable {info : RtcpReceiverInfo} {bytes : Bytes}

/-- **A report block that is written** is read back. -/
lemma deSerialize_serialize (h : info.serialize = some bytes) : deSerialize bytes = some info := by
  have happend := bufferReader_bufferWriter h []
  rw [List.append_nil] at happend
  have hread : bufferReader bytes [4, 1, 3, 4, 4, 4, 4] = some [info.ssrc, info.fractionLost,
    info.packetsLost, info.highestSequence, info.jitter, info.lsr, info.dlsr] := happend
  rw [deSerialize, hread]

lemma isSome_serialize_iff : info.serialize.isSome ↔
    (0 ≤ info.ssrc ∧ info.ssrc < 256 ^ 4) ∧ (0 ≤ info.fractionLost ∧ info.fractionLost < 256 ^ 1) ∧
      (0 ≤ info.packetsLost ∧ info.packetsLost < 256 ^ 3) ∧
      (0 ≤ info.highestSequence ∧ info.highestSequence < 256 ^ 4) ∧
      (0 ≤ info.jitter ∧ info.jitter < 256 ^ 4) ∧ (0 ≤ info.lsr ∧ info.lsr < 256 ^ 4) ∧
      0 ≤ info.dlsr ∧ info.dlsr < 256 ^ 4 := by
  rw [serialize, isSome_bufferWriter_iff]
  simp only [List.forall_mem_cons, List.not_mem_nil, false_imp_iff, implies_true, and_true]

end RtcpReceiverInfo

end Werift.Rtcp
