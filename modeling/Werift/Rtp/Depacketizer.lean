import Werift.Codec.Depacketize
import Werift.Common.Number

/-!
# The depacketizer (`rtp/src/extra/processor/depacketizer.ts`)

`DepacketizeBase` collects the packets of a frame until the last one of them comes, and depacketizes them
together.  Without a test for the last packet it depacketizes each packet for itself.  The statistics and
the event that asks for a keyframe are left out.
-/

namespace Werift.Rtp

open Codec (DepacketizerCodec Depacketized dePacketizeRtpPackets)

/-- `DepacketizerInput`. -/
structure DepacketizerInput where
  rtp : Option RtpPacket := none
  /-- In milliseconds. -/
  time : Option ℕ := none
  eol : Bool := false

/-- `CodecFrame`. -/
structure CodecFrame where
  data : Bytes
  isKeyframe : Bool
  time : Option ℕ
  sequence : ℕ
  rtpSeq : ℕ
  timestamp : ℕ
deriving DecidableEq

/-- `DepacketizerOutput`. -/
inductive DepacketizerOutput
  | frame (frame : CodecFrame)
  | eol
deriving DecidableEq

/-- `DepacketizerOptions`. -/
structure DepacketizerOptions where
  isFinalPacketInSequence : Option (RtpHeader → Bool) := none
  waitForKeyframe : Bool := false

/-- The fields of a `DepacketizeBase` that change. -/
structure DepacketizeBase where
  rtpBuffer : List (RtpPacket × Option ℕ) := []
  frameFragmentBuffer : Option Bytes := none
  lastSeqNum : Option ℤ := none
  frameBroken : Bool := false
  keyframeReceived : Bool := false
  count : ℕ := 0
deriving DecidableEq

/-- `rtp.header.sequenceNumber`. -/
def RtpPacket.sequenceNumber (rtp : RtpPacket) : ℤ := rtp.header.sequenceNumber

namespace DepacketizeBase

variable (codec : DepacketizerCodec) (options : DepacketizerOptions) (b : DepacketizeBase)

/-- `clearBuffer()`. -/
def clearBuffer : DepacketizeBase := { b with rtpBuffer := [], frameFragmentBuffer := none }

/-- How a sequence number compares with the next one. -/
inductive Arrival
  | next
  | unexpected
  | lost
deriving DecidableEq

/-- The comparison in `notePaddingOnlySequence` and `checkFinalPacket`. -/
def arrival (sequenceNumber : ℤ) : Arrival :=
  match b.lastSeqNum with
  | none => .next
  | some lastSeqNum =>
    let expect := uint16Add lastSeqNum 1
    if uint16Gt expect sequenceNumber then .unexpected
    else if uint16Gt sequenceNumber expect then .lost
    else .next

/-- What a gap does: the frame is broken, and what has been collected is dropped. -/
def noteLoss : DepacketizeBase := { b with frameBroken := true }.clearBuffer

/-- `notePaddingOnlySequence(rtp)`. -/
def notePaddingOnlySequence (rtp : RtpPacket) : DepacketizeBase :=
  match b.arrival rtp.sequenceNumber with
  | .unexpected => b
  | .lost => { b.noteLoss with lastSeqNum := some rtp.sequenceNumber }
  | .next => { b with lastSeqNum := some rtp.sequenceNumber }

/-- The packet is collected. -/
def push (rtp : RtpPacket) (time : Option ℕ) : DepacketizeBase :=
  { b with rtpBuffer := b.rtpBuffer ++ [(rtp, time)], lastSeqNum := some rtp.sequenceNumber }

/-- Whether a last packet has been collected. -/
def hasFinal (isFinal : RtpHeader → Bool) : Bool := b.rtpBuffer.any fun i => isFinal i.1.header

/-- `checkFinalPacket({ rtp, time })`. -/
def checkFinalPacket (isFinal : RtpHeader → Bool) (rtp : RtpPacket) (time : Option ℕ) :
    DepacketizeBase × Bool :=
  match b.arrival rtp.sequenceNumber with
  | .unexpected => (b, false)
  | .lost => (b.noteLoss.push rtp time, (b.noteLoss.push rtp time).hasFinal isFinal)
  | .next => (b.push rtp time, (b.push rtp time).hasFinal isFinal)

/-- The packets that have been collected. -/
def packets : List RtpPacket := b.rtpBuffer.map Prod.fst

/-- The frame that is put out. -/
def frameOf (d : Depacketized) (time : Option ℕ) : CodecFrame :=
  { data := d.data, isKeyframe := d.isKeyframe, time := time, sequence := b.count,
    rtpSeq := d.sequence, timestamp := d.timestamp }

/-- The end of a frame whose packets have been depacketized. -/
def finishFrame (d : Depacketized) : DepacketizeBase × List DepacketizerOutput :=
  let b := { b with frameFragmentBuffer := d.frameFragmentBuffer,
                    keyframeReceived := b.keyframeReceived || d.isKeyframe }
  if options.waitForKeyframe ∧ b.keyframeReceived = false then (b, [])
  else if b.frameBroken = false ∧ d.data ≠ [] then
    let time := some ((b.rtpBuffer.getLast?.bind Prod.snd).getD 0)
    ({ b with count := b.count + 1 }.clearBuffer, [.frame (b.frameOf d time)])
  else ({ b with frameBroken := false }.clearBuffer, [])

/-- The branch of `processInput` for a packet with media, with a test for the last packet. -/
def processFinal (isFinal : RtpHeader → Bool) (rtp : RtpPacket) (time : Option ℕ) :
    DepacketizeBase × List DepacketizerOutput :=
  let (b, final) := b.checkFinalPacket isFinal rtp time
  if final then
    match dePacketizeRtpPackets codec b.packets b.frameFragmentBuffer with
    | .error _ => (b.clearBuffer, [])
    | .ok d => b.finishFrame options d
  else (b, [])

/-- The branch of `processInput` for a packet with media, without a test for the last packet. -/
def processSingle (rtp : RtpPacket) (time : Option ℕ) :
    DepacketizeBase × List DepacketizerOutput :=
  match dePacketizeRtpPackets codec [rtp] b.frameFragmentBuffer with
  | .error _ => (b, [])
  | .ok d =>
    ({ b with frameFragmentBuffer := d.frameFragmentBuffer, count := b.count + 1 },
      [.frame (b.frameOf d time)])

/-- `processInput(input)`. -/
def processInput (input : DepacketizerInput) : DepacketizeBase × List DepacketizerOutput :=
  match input.rtp with
  | none => if input.eol then (b.clearBuffer, [.eol]) else (b, [])
  | some rtp =>
    if isPaddingOnlyRtpPacket rtp then (b.notePaddingOnlySequence rtp, [])
    else
      match options.isFinalPacketInSequence with
      | some isFinal => b.processFinal codec options isFinal rtp input.time
      | none => b.processSingle codec rtp input.time

end DepacketizeBase

end Werift.Rtp
