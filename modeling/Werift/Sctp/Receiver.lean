import Werift.Lib.Queue
import Werift.Sctp.InboundStream
import Werift.Sctp.Received

/-!
# The receiving half of an association

A `Receiver` is what an association keeps of the chunks that arrive: the record of their TSNs, the
inbound streams, the window that is left, and the flags that ask for a SACK.  A handler returns a
`Receipt`: the state afterwards, the messages that have been handed to `onReceive`, and whether it
has thrown.
-/

namespace Werift.Sctp

/-- The values of the two-byte field `streamId`. -/
def streamIds : Finset ℕ := Finset.range 0x10000

/-- The fields of `SCTP` that the receiving half reads and writes. -/
structure Receiver where
  received : ReceivedTsns
  inboundStreams : ℕ → Option InboundStream := fun _ => none
  advertisedRwnd : ℤ := 1024 * 1024
  sackNeeded : Bool := false
  sackHasNewDataInPacket : Bool := false
  sackImmediate : Bool := false

/-- What a handler of a chunk leaves behind. -/
structure Receipt where
  receiver : Receiver
  messages : List (List DataChunk) := []
  thrown : Bool := false

/-- The bytes that a list of chunks carries. -/
def userDataLength : List DataChunk → ℕ := Queue.total fun c => c.userData.length

/-- The bytes of several messages. -/
def messagesLength : List (List DataChunk) → ℕ := Queue.total userDataLength

@[simp] lemma userDataLength_nil : userDataLength [] = 0 := rfl

@[simp] lemma userDataLength_cons (c : DataChunk) (l : List DataChunk) :
    userDataLength (c :: l) = c.userData.length + userDataLength l := Queue.total_cons _ _ _

@[simp] lemma userDataLength_append (l l' : List DataChunk) :
    userDataLength (l ++ l') = userDataLength l + userDataLength l' := Queue.total_append _ _ _

@[simp] lemma messagesLength_nil : messagesLength [] = 0 := rfl

@[simp] lemma messagesLength_cons (m : List DataChunk) (l : List (List DataChunk)) :
    messagesLength (m :: l) = userDataLength m + messagesLength l := Queue.total_cons _ _ _

/-- `pruneChunks(tsn)`: the bytes that are given up, and the stream without the chunks up to the
TSN. -/
def InboundStream.pruneChunks (s : InboundStream) (tsn : ℤ) : ℕ × InboundStream :=
  (userDataLength (s.reassembly.takeWhile fun c => uint32Gte tsn c.tsn),
    { s with reassembly := s.reassembly.dropWhile fun c => uint32Gte tsn c.tsn })

/-- The record after a FORWARD TSN that is ahead of it. -/
def ReceivedTsns.forward (s : ReceivedTsns) (cumulativeTsn : ℤ) : ReceivedTsns :=
  let misOrdered := s.sackMisOrdered.filter fun x => uint32Gt x cumulativeTsn
  let last := advanceTsn cumulativeTsn (Js.defaultSort misOrdered)
  { lastReceivedTsn := last
    sackDuplicates := s.sackDuplicates.filter fun x => uint32Gt x last
    sackMisOrdered := misOrdered.filter fun x => uint32Gt x last }

namespace Receiver

/-- `getInboundStream(streamId)`. -/
def getInboundStream (s : Receiver) (streamId : ℕ) : InboundStream :=
  (s.inboundStreams streamId).getD {}

/-- Store a stream that has been changed. -/
def setInboundStream (s : Receiver) (streamId : ℕ) (stream : InboundStream) : Receiver :=
  { s with inboundStreams := Function.update s.inboundStreams streamId (some stream) }

/-- `advertisedRwnd -= length`. -/
def takeWindow (s : Receiver) (length : ℕ) : Receiver :=
  { s with advertisedRwnd := s.advertisedRwnd - length }

/-- Take the messages that are complete out of a stream, and hand them over. -/
def deliver (s : Receiver) (streamId : ℕ) (stream : InboundStream) : Receipt :=
  let popped := stream.popMessages
  { receiver :=
      { s.setInboundStream streamId popped.2 with
        advertisedRwnd := s.advertisedRwnd + messagesLength popped.1 }
    messages := popped.1 }

/-- `receiveDataChunk` up to the reassembly, for a chunk that is not a duplicate. -/
def recordNewChunk (s : Receiver) (chunk : DataChunk) : Receiver :=
  { s with
    received := (markReceived s.received chunk.tsn).2
    sackNeeded := true
    sackHasNewDataInPacket := true
    sackImmediate := true }

/-- `receiveDataChunk(chunk)`. -/
def receiveDataChunk (s : Receiver) (chunk : DataChunk) : Receipt :=
  if (markReceived s.received chunk.tsn).1 then
    { receiver :=
        { s with
          received := (markReceived s.received chunk.tsn).2
          sackNeeded := true
          sackImmediate := true } }
  else
    let s := s.recordNewChunk chunk
    match (s.getInboundStream chunk.streamId).addChunk chunk with
    | none =>
      { receiver := s.setInboundStream chunk.streamId (s.getInboundStream chunk.streamId)
        thrown := true }
    | some stream =>
      (s.takeWindow chunk.userData.length).deliver chunk.streamId stream

/-- One stream of a FORWARD TSN. -/
def forwardStream (r : Receipt) (stream : ℕ × ℤ) : Receipt :=
  let delivered := r.receiver.deliver stream.1
    { r.receiver.getInboundStream stream.1 with
      streamSequenceNumber := uint16Add stream.2 1 }
  { delivered with messages := r.messages ++ delivered.messages }

/-- `pruneChunks` of the stream under an id. -/
def prunedStream (s : Receiver) (id : ℕ) : Option (ℕ × InboundStream) :=
  (s.inboundStreams id).map fun stream => stream.pruneChunks s.received.lastReceivedTsn

/-- The bytes that `pruneChunks` of the stream under an id gives up. -/
def prunedBytes (s : Receiver) (id : ℕ) : ℕ := (s.prunedStream id).elim 0 Prod.fst

/-- Prune the chunks up to the cumulative TSN from every stream. -/
def prune (s : Receiver) : Receiver :=
  { s with
    inboundStreams := fun id => (s.prunedStream id).map Prod.snd
    advertisedRwnd := s.advertisedRwnd + ∑ id ∈ streamIds, (s.prunedBytes id : ℤ) }

/-- `receiveForwardTsnChunk(chunk)`. -/
def receiveForwardTsnChunk (s : Receiver) (chunk : ForwardTsnChunk) : Receipt :=
  let s := { s with sackNeeded := true, sackImmediate := true }
  if uint32Gte s.received.lastReceivedTsn chunk.cumulativeTsn then { receiver := s }
  else
    let s := { s with received := s.received.forward chunk.cumulativeTsn }
    let delivered := chunk.streams.foldl forwardStream { receiver := s }
    { delivered with receiver := delivered.receiver.prune }

/-- The streams of a reset request are deleted. -/
def deleteStreams (s : Receiver) (streams : List ℕ) : Receiver :=
  { s with inboundStreams := fun id => if id ∈ streams then none else s.inboundStreams id }

end Receiver

end Werift.Sctp
