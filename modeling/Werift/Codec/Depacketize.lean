import Werift.Codec.Av1

/-!
# Depacketizing the packets of a frame (`rtp/src/codec/index.ts`)

The codecs but AV1 have a class each, whose parser is used for one packet after the other.
-/

namespace Werift.Codec

open Rtp (Bytes RtpPacket)

/-- `DepacketizerCodec`: AV1, or a codec with this class. -/
inductive DepacketizerCodec
  | av1
  | basic (Depacketizer : DeSerialize)

/-- What `dePacketizeRtpPackets` returns. -/
structure Depacketized where
  isKeyframe : Bool
  data : Bytes
  sequence : ℕ
  timestamp : ℕ
  frameFragmentBuffer : Option Bytes := none
deriving DecidableEq

/-- The loop of `basicCodecParser`: the parsed payloads, and the fragment that is left. -/
def parsePartitions (Depacketizer : DeSerialize) :
    Option Bytes → List RtpPacket → Except String (List DePacketizerBase × Option Bytes)
  | frameFragmentBuffer, [] => .ok ([], frameFragmentBuffer)
  | frameFragmentBuffer, p :: packets => do
    let codec ← Depacketizer p.payload frameFragmentBuffer
    let frameFragmentBuffer :=
      if codec.fragment.isSome then codec.fragment
      else if codec.payload.isSome then none
      else frameFragmentBuffer
    let (partitions, frameFragmentBuffer) ← parsePartitions Depacketizer frameFragmentBuffer packets
    .ok (codec :: partitions, frameFragmentBuffer)

/-- The header of the last packet. -/
def lastHeader (packets : List RtpPacket) : ℕ × ℕ :=
  match packets.getLast? with
  | none => (0, 0)
  | some p => (p.header.sequenceNumber, p.header.timestamp)

/-- `dePacketizeRtpPackets(codec, packets, frameFragmentBuffer)`. -/
def dePacketizeRtpPackets (codec : DepacketizerCodec) (packets : List RtpPacket)
    (frameFragmentBuffer : Option Bytes) : Except String Depacketized :=
  match codec with
  | .av1 => do
    let chunks ← packets.mapM fun p => AV1RtpPayload.deSerialize p.payload
    let data ← AV1RtpPayload.getFrame chunks
    .ok
      { isKeyframe := chunks.any fun f => f.nBit_RtpStartsNewCodedVideoSequence = 1
        data := data
        sequence := (lastHeader packets).1
        timestamp := (lastHeader packets).2 }
  | .basic Depacketizer => do
    let (partitions, frameFragmentBuffer) ← parsePartitions Depacketizer frameFragmentBuffer packets
    .ok
      { isKeyframe := partitions.any DePacketizerBase.isKeyframe
        data := (partitions.filterMap DePacketizerBase.payload).flatten
        sequence := (lastHeader packets).1
        timestamp := (lastHeader packets).2
        frameFragmentBuffer := frameFragmentBuffer }

end Werift.Codec
