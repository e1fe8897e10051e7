import Werift.Common.Number
import Werift.Js.IndexObject
import Werift.Rtp.Header

/-!
# The jitter buffer (`rtp/src/extra/processor/jitterBuffer.ts`)

`JitterBufferBase` holds back packets that arrive ahead of a missing one.  The functions of the class
that move the output position push what they put out to an array of the caller; here they return it.
The quotient in the comparison with the latency is exact here.
-/

namespace Werift.Rtp

open Js (IndexObject)

/-- `JitterBufferInput`. -/
structure JitterBufferInput where
  rtp : Option RtpPacket := none
  eol : Bool := false

/-- `JitterBufferOutput`. -/
inductive JitterBufferOutput
  | rtp (packet : RtpPacket)
  | isPacketLost (first last : ℤ)
  | eol
deriving DecidableEq

/-- `JitterBufferOptions`. -/
structure JitterBufferOptions where
  /-- In milliseconds. -/
  latency : ℚ := 200
  bufferSize : ℕ := 10000

/-- The output position of a jitter buffer, and the packets that it holds back. -/
structure Playout where
  /-- The number of the last packet that has been put out. -/
  presentSeqNum : ℤ
  rtpBuffer : IndexObject RtpPacket
deriving DecidableEq

/-- The fields of a `JitterBufferBase`. -/
structure JitterBufferBase where
  clockRate : ℕ
  options : JitterBufferOptions := {}
  presentSeqNum : Option ℤ := none
  rtpBuffer : IndexObject RtpPacket := .empty

/-- The number of a packet. -/
def RtpPacket.seq (rtp : RtpPacket) : ℤ := rtp.header.sequenceNumber

namespace Playout

variable (o : Playout)

/-- `expectNextSeqNum`. -/
def expectNextSeqNum : ℤ := uint16Add o.presentSeqNum 1

/-- `distance(sequenceNumber)`. -/
def distance (sequenceNumber : ℤ) : ℤ := uint16Add sequenceNumber (-o.presentSeqNum)

/-- `sortedBuffer()`. -/
def sortedBuffer : List RtpPacket :=
  o.rtpBuffer.values.insertionSort fun a b => o.distance a.seq ≤ o.distance b.seq

/-- `delete this.rtpBuffer[seq]; this.presentSeqNum = seq`. -/
def moveTo (seq : ℤ) : Playout := ⟨seq, o.rtpBuffer.delete seq⟩

/-- At most this many rounds of the loop of `releaseContinuous(output)`. -/
def releaseRounds : ℕ → Playout → Playout × List JitterBufferOutput
  | 0, o => (o, [])
  | rounds + 1, o =>
    match o.rtpBuffer.get? o.expectNextSeqNum with
    | none => (o, [])
    | some rtp =>
      let released := releaseRounds rounds (o.moveTo o.expectNextSeqNum)
      (released.1, .rtp rtp :: released.2)

/-- `releaseContinuous(output)`.  Each round takes a packet out of the buffer. -/
def releaseContinuous : Playout × List JitterBufferOutput :=
  o.releaseRounds o.rtpBuffer.entries.length

/-- The loop of `releaseUntil(sequenceNumber, output)` over the sorted buffer. -/
def releaseSorted (base limit : ℤ) : List RtpPacket → Playout → Playout × List JitterBufferOutput
  | [], o => (o, [])
  | rtp :: rest, o =>
    if uint16Add rtp.seq (-base) > limit then (o, [])
    else
      let released := releaseSorted base limit rest (o.moveTo rtp.seq)
      if rtp.seq ≠ o.expectNextSeqNum then
        (released.1,
          .isPacketLost o.expectNextSeqNum (uint16Add rtp.seq (-1)) :: .rtp rtp :: released.2)
      else (released.1, .rtp rtp :: released.2)

/-- `releaseUntil(sequenceNumber, output)`. -/
def releaseUntil (sequenceNumber : ℤ) : Playout × List JitterBufferOutput :=
  let sorted := releaseSorted o.presentSeqNum (o.distance sequenceNumber) o.sortedBuffer o
  let continued := sorted.1.releaseContinuous
  (continued.1, sorted.2 ++ continued.2)

end Playout

namespace JitterBufferBase

variable (b : JitterBufferBase)

/-- Whether a packet with this timestamp has waited longer than the latency.  A quotient by a clock
rate of zero exceeds every latency, also if the dividend is zero. -/
def Overdue (timestamp baseTimestamp : ℤ) : Prop :=
  uint32Gt timestamp baseTimestamp = false ∧
    (b.clockRate = 0 ∨ b.options.latency * b.clockRate < uint32Add baseTimestamp (-timestamp) * 1000)

instance (timestamp baseTimestamp : ℤ) : Decidable (b.Overdue timestamp baseTimestamp) :=
  inferInstanceAs (Decidable (_ ∧ _))

/-- A round of the loop of `findLatestTimeoutSeqNum(baseTimestamp)`. -/
def laterTimeout (o : Playout) (baseTimestamp : ℤ) (latestTimeoutSeqNum : Option ℤ)
    (rtp : RtpPacket) : Option ℤ :=
  if b.Overdue rtp.header.timestamp baseTimestamp then
    match latestTimeoutSeqNum with
    | none => some rtp.seq
    | some latest => if o.distance rtp.seq > o.distance latest then some rtp.seq else some latest
  else latestTimeoutSeqNum

/-- `findLatestTimeoutSeqNum(baseTimestamp)`. -/
def findLatestTimeoutSeqNum (o : Playout) (baseTimestamp : ℤ) : Option ℤ :=
  o.rtpBuffer.values.foldl (b.laterTimeout o baseTimestamp) none

/-- What a packet with this timestamp releases as overdue. -/
def releaseTimeout (o : Playout) (timestamp : ℤ) : Playout × List JitterBufferOutput :=
  match b.findLatestTimeoutSeqNum o timestamp with
  | none => (o, [])
  | some timeoutSeqNum => o.releaseUntil timeoutSeqNum

/-- What is released because the buffer is over its size. -/
def releaseOverflow (o : Playout) : Playout × List JitterBufferOutput :=
  if o.sortedBuffer.length > b.options.bufferSize then
    match o.sortedBuffer[o.sortedBuffer.length - b.options.bufferSize - 1]? with
    | none => (o, [])
    | some overflow => o.releaseUntil overflow.seq
  else (o, [])

/-- The end of `processInput(input)` for a packet that is new and ahead of the output position. -/
def insert (o : Playout) (rtp : RtpPacket) : Playout × List JitterBufferOutput :=
  let inserted : Playout := ⟨o.presentSeqNum, o.rtpBuffer.set rtp.seq rtp⟩
  let continued := inserted.releaseContinuous
  let timedOut := b.releaseTimeout continued.1 rtp.header.timestamp
  let fitting := b.releaseOverflow timedOut.1
  (fitting.1, continued.2 ++ timedOut.2 ++ fitting.2)

/-- `releaseUntil(buffered.at(-1)!.header.sequenceNumber, output)`, if anything is buffered. -/
def flush (o : Playout) : Playout × List JitterBufferOutput :=
  match o.sortedBuffer.getLast? with
  | none => (o, [])
  | some last => o.releaseUntil last.seq

/-- The buffer with this output position. -/
def withPlayout (o : Playout) : JitterBufferBase :=
  { b with presentSeqNum := some o.presentSeqNum, rtpBuffer := o.rtpBuffer }

/-- `processInput(input)`. -/
def processInput (input : JitterBufferInput) : JitterBufferBase × List JitterBufferOutput :=
  match input.rtp with
  | none =>
    if input.eol then
      match b.presentSeqNum with
      | none => ({ b with rtpBuffer := .empty }, [.eol])
      | some present =>
        let flushed := flush ⟨present, b.rtpBuffer⟩
        (b.withPlayout ⟨flushed.1.presentSeqNum, .empty⟩, flushed.2 ++ [.eol])
    else (b, [])
  | some rtp =>
    match b.presentSeqNum with
    | none => ({ b with presentSeqNum := some rtp.seq }, [.rtp rtp])
    | some present =>
      if uint16Gte present rtp.seq ∨ (b.rtpBuffer.get? rtp.seq).isSome then (b, [])
      else
        let inserted := b.insert ⟨present, b.rtpBuffer⟩ rtp
        (b.withPlayout inserted.1, inserted.2)

end JitterBufferBase

end Werift.Rtp
