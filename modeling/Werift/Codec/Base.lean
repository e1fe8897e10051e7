import Werift.Rtp.Header

/-!
# Payload parsers and packetizers (`rtp/src/codec/base.ts`)

A codec class has a parser of payloads, and a packetizer that numbers what it builds.  The sequence
number of a packetizer is part of what `packetize` returns here.
-/

namespace Werift.Codec

open Rtp (Bytes RtpHeader RtpPacket)

/-- A parsed payload. -/
structure DePacketizerBase where
  payload : Option Bytes := none
  fragment : Option Bytes := none
  isKeyframe : Bool := true
deriving DecidableEq

/-- `deSerialize(buf, fragment)` of a codec class. -/
abbrev DeSerialize := Bytes → Option Bytes → Except String DePacketizerBase

/-- The fields of a `PacketizerBase`. -/
structure PacketizerBase where
  sequenceNumber : ℕ
  maxPayloadSize : ℕ := 1200
  payloadType : ℕ := 96
  ssrc : ℕ := 0
deriving DecidableEq

/-- `buildPacket(payload, timestamp, marker)`. -/
def PacketizerBase.buildPacket (p : PacketizerBase) (timestamp : ℕ) (payload : Bytes)
    (marker : Bool) : RtpPacket × PacketizerBase :=
  (⟨{ payloadType := p.payloadType, sequenceNumber := p.sequenceNumber, timestamp := timestamp,
      marker := marker, ssrc := p.ssrc }, payload⟩,
    { p with sequenceNumber := (p.sequenceNumber + 1) % 0x10000 })

/-- The packets of these payloads, one after the other, each with its marker. -/
def PacketizerBase.buildPackets (timestamp : ℕ) :
    PacketizerBase → List (Bytes × Bool) → List RtpPacket × PacketizerBase
  | p, [] => ([], p)
  | p, (payload, marker) :: rest =>
    let built := p.buildPacket timestamp payload marker
    let others := built.2.buildPackets timestamp rest
    (built.1 :: others.1, others.2)

/-- `packets.at(-1).header.marker = true`. -/
def markLast : List Bytes → List (Bytes × Bool)
  | [] => []
  | [payload] => [(payload, true)]
  | payload :: rest => (payload, false) :: markLast rest

/-- The packets carry the payloads. -/
lemma PacketizerBase.buildPackets_payloads (p : PacketizerBase) (timestamp : ℕ)
    (payloads : List (Bytes × Bool)) :
    (p.buildPackets timestamp payloads).1.map RtpPacket.payload = payloads.map Prod.fst := by
  induction payloads generalizing p with
  | nil => rfl
  | cons payload rest ih =>
    rw [buildPackets, List.map_cons, List.map_cons, ih]
    rfl

end Werift.Codec
