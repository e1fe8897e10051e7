import Werift.Rtcp.ReceiverInfo

/-! # Sender reports (`rtp/src/rtcp/sr.ts`) -/

namespace Werift.Rtcp

open Js

/-- The fields of an `RtcpSenderInfo`. -/
structure RtcpSenderInfo where
  ntpTimestamp : ℤ
  rtpTimestamp : ℤ
  packetCount : ℤ
  octetCount : ℤ
deriving DecidableEq

namespace RtcpSenderInfo

/-- `serialize()`.  The field of 8 bytes is written by `writeBigUInt64BE`. -/
def serialize (info : RtcpSenderInfo) : Option Bytes :=
  bufferWriter [(8, info.ntpTimestamp), (4, info.rtpTimestamp), (4, info.packetCount), (4, info.octetCount)]

/-- `RtcpSenderInfo.deSerialize(data)`. -/
def deSerialize (data : Bytes) : Option RtcpSenderInfo :=
  match bufferReader data [8, 4, 4, 4] with
  | some [ntpTimestamp, rtpTimestamp, packetCount, octetCount] =>
    some { ntpTimestamp, rtpTimestamp, packetCount, octetCount }
  | _ => none

variable {info : RtcpSenderInfo} {bytes : Bytes}

lemma deSerialize_of_serialize (h : info.serialize = some bytes) : deSerialize bytes = some info := by
  have happend := bufferReader_bufferWriter h []
  rw [List.append_nil] at happend
  have hread : bufferReader bytes [8, 4, 4, 4] =
      some [info.ntpTimestamp, info.rtpTimestamp, info.packetCount, info.octetCount] := happend
  rw [deSerialize, hread]

lemma isSome_serialize : info.serialize.isSome ↔
    (0 ≤ info.ntpTimestamp ∧ info.ntpTimestamp < 256 ^ 8) ∧ (0 ≤ info.rtpTimestamp ∧ info.rtpTimestamp < 256 ^ 4) ∧
      (0 ≤ info.packetCount ∧ info.packetCount < 256 ^ 4) ∧ 0 ≤ info.octetCount ∧ info.octetCount < 256 ^ 4 := by
  rw [serialize, isSome_bufferWriter_iff]
  simp only [List.forall_mem_cons, List.not_mem_nil, false_imp_iff, implies_true, and_true]

lemma length_of_serialize (h : info.serialize = some bytes) : bytes.length = 20 :=
  length_of_bufferWriter h

end RtcpSenderInfo

/-- The fields of an `RtcpSrPacket`. -/
structure RtcpSrPacket where
  ssrc : ℤ
  senderInfo : RtcpSenderInfo
  reports : List RtcpReceiverInfo := []
deriving DecidableEq

namespace RtcpSrPacket

/-- `RtcpSrPacket.type`. -/
def type : ℕ := 200

/-- The payload that `serialize()` writes. -/
def payload (packet : RtcpSrPacket) : Option Bytes := do
  let ssrc ← writeUInt32BE packet.ssrc
  let senderInfo ← packet.senderInfo.serialize
  let reports ← packet.reports.mapM RtcpReceiverInfo.serialize
  return ssrc ++ senderInfo ++ reports.flatten

/-- `serialize()`. -/
def serialize (packet : RtcpSrPacket) : Option Bytes :=
  packet.payload.bind fun payload =>
    RtcpHeader.serialize type packet.reports.length payload (payload.length / 4)

/-- `RtcpSrPacket.deSerialize(payload, count)`. -/
def deSerialize (payload : Bytes) (count : ℕ) : Option RtcpSrPacket := do
  let ssrc ← readUInt32BE payload 0
  let senderInfo ← RtcpSenderInfo.deSerialize (slice payload 4 24)
  let reports ← (List.range count).mapM fun i : ℕ =>
    RtcpReceiverInfo.deSerialize (slice payload (24 + 24 * i) (48 + 24 * i))
  return { ssrc, senderInfo, reports }

/-- A sender report as `RtcpPacketConverter.deSerialize(data)` reads it, where nothing comes behind it. -/
def read (data : Bytes) : Option RtcpSrPacket := do
  let header ← RtcpHeader.deSerialize (slice data 0 RTCP_HEADER_SIZE)
  let payload := slice data RTCP_HEADER_SIZE (RTCP_HEADER_SIZE + header.length * 4)
  let pad := (payload.getLastD 0).toNat
  let payload :=
    if header.padding ∧ 0 < payload.length ∧ 0 < pad ∧ pad ≤ payload.length then
      payload.take (payload.length - pad)
    else payload
  if header.type = type then deSerialize payload header.count else none

variable {packet : RtcpSrPacket} {bytes : Bytes}

lemma serializeHeader_six : RtcpHeader.serializeHeader { type := type, count := 0, length := 6 } =
    some [0x80, 0xc8, 0, 6] := by decide +kernel

lemma payload_of_nil {ssrc info : Bytes} (hreports : packet.reports = [])
    (hssrc : writeUInt32BE packet.ssrc = some ssrc) (hinfo : packet.senderInfo.serialize = some info) :
    packet.payload = some (ssrc ++ info) := by
  simp [payload, hssrc, hinfo, hreports]

/-- A report without blocks. -/
lemma serialize_of_nil {ssrc info : Bytes} (hreports : packet.reports = [])
    (hssrc : writeUInt32BE packet.ssrc = some ssrc) (hinfo : packet.senderInfo.serialize = some info) :
    packet.serialize = some ([0x80, 0xc8, 0, 6] ++ (ssrc ++ info)) := by
  have hlength : (ssrc ++ info).length / 4 = 6 := by
    rw [List.length_append, length_of_writeUIntBE hssrc, RtcpSenderInfo.length_of_serialize hinfo]
  rw [serialize, payload_of_nil hreports hssrc hinfo, Option.bind_some, hreports, hlength, List.length_nil,
    RtcpHeader.serialize, serializeHeader_six, Option.map_some]

/-- **A report without blocks** is read back. -/
lemma exists_serialize (hreports : packet.reports = []) (hssrc : 0 ≤ packet.ssrc ∧ packet.ssrc < 256 ^ 4)
    (hinfo : packet.senderInfo.serialize.isSome) :
    ∃ bytes : Bytes, packet.serialize = some bytes ∧ read bytes = some packet := by
  obtain ⟨ssrc, hssrc⟩ := Option.isSome_iff_exists.mp (isSome_writeUIntBE.mpr hssrc)
  obtain ⟨info, hinfo⟩ := Option.isSome_iff_exists.mp hinfo
  refine ⟨_, serialize_of_nil hreports hssrc hinfo, ?_⟩
  have hssrcLength : ssrc.length = 4 := length_of_writeUIntBE hssrc
  have hinfoLength := RtcpSenderInfo.length_of_serialize hinfo
  have hheader : RtcpHeader.deSerialize (slice ([0x80, 0xc8, 0, 6] ++ (ssrc ++ info)) 0 RTCP_HEADER_SIZE) =
      some { version := 2, padding := false, count := 0, type := type, length := 6 } := by
    have hslice : slice ([0x80, 0xc8, 0, 6] ++ (ssrc ++ info)) 0 RTCP_HEADER_SIZE = [0x80, 0xc8, 0, 6] := rfl
    rw [hslice]
    decide
  have hpayload : slice ([0x80, 0xc8, 0, 6] ++ (ssrc ++ info)) RTCP_HEADER_SIZE (RTCP_HEADER_SIZE + 6 * 4) =
      ssrc ++ info := by
    rw [slice, Nat.add_sub_cancel_left, RTCP_HEADER_SIZE, List.drop_left' (by rfl), List.take_of_length_le]
    rw [List.length_append, hssrcLength, hinfoLength]
  have hreadSsrc : readUInt32BE (ssrc ++ info) 0 = some packet.ssrc := by
    have h := readUIntBE_append hssrc [] info
    rwa [List.nil_append] at h
  have hreadInfo : RtcpSenderInfo.deSerialize (slice (ssrc ++ info) 4 24) = some packet.senderInfo := by
    rw [slice, List.drop_left' hssrcLength, List.take_of_length_le hinfoLength.le]
    exact RtcpSenderInfo.deSerialize_of_serialize hinfo
  rw [read, hheader]
  simp only [Option.bind_eq_bind, Option.bind_some, hpayload, Bool.false_eq_true, false_and, if_false, if_true]
  rw [deSerialize, hreadSsrc, hreadInfo]
  obtain ⟨_, _, reports⟩ := packet
  obtain rfl : reports = [] := hreports
  rfl

/-- A report is not written where its sender information is not. -/
lemma isSome_info (h : packet.serialize = some bytes) : packet.senderInfo.serialize.isSome := by
  obtain ⟨payload, hpayload, -⟩ := Option.bind_eq_some_iff.mp h
  obtain ⟨_, -, hpayload⟩ := Option.bind_eq_some_iff.mp hpayload
  obtain ⟨info, hinfo, -⟩ := Option.bind_eq_some_iff.mp hpayload
  rw [hinfo]
  rfl

end RtcpSrPacket

end Werift.Rtcp
