import Werift.Sctp.Chunk
import Werift.Sctp.Tsn

/-!
# Reassembling the messages of a stream

An `InboundStream` keeps the DATA chunks of a stream in the order of their TSNs and hands out the
messages that are complete.  `popMessages` is one scan of the list.  Its loop carries a `Scan` from
chunk to chunk; the scan also survives the end of a message, so that the next TSN is taken for a
continuation and neither its flags nor its SSN are looked at.
-/

namespace Werift.Sctp

/-- The fields of `InboundStream`. -/
structure InboundStream where
  reassembly : List DataChunk := []
  streamSequenceNumber : ℤ := 0
deriving DecidableEq

/-- The loop of `addChunk`: insert the chunk before the first one that is ahead of it.  A second
chunk with the same TSN is an exception. -/
def insertChunk (chunk : DataChunk) : List DataChunk → Option (List DataChunk)
  | [] => some []
  | v :: rest =>
    if v.tsn = chunk.tsn then none
    else if uint32Gt v.tsn chunk.tsn then some (chunk :: v :: rest)
    else (insertChunk chunk rest).map (v :: ·)

/-- `addChunk(chunk)`. -/
def InboundStream.addChunk (s : InboundStream) (chunk : DataChunk) : Option InboundStream :=
  match s.reassembly.getLast? with
  | none => some { s with reassembly := s.reassembly ++ [chunk] }
  | some last =>
    if uint32Gt chunk.tsn last.tsn then some { s with reassembly := s.reassembly ++ [chunk] }
    else (insertChunk chunk s.reassembly).map fun l => { s with reassembly := l }

/-- The variables `expectedTsn` and `ordered` of `popMessages` while `startPos` is defined. -/
structure Scan where
  expectedTsn : ℤ
  ordered : Bool
deriving DecidableEq

/-- What `popMessages` does with the chunk at `pos`: end the scan, step over the chunk, or take it
as a part of the message. -/
inductive Verdict
  | stop
  | skip
  | take (scan : Scan)
deriving DecidableEq

/-- The tests at the start of the loop body of `popMessages`. -/
def verdict (scan : Option Scan) (streamSequenceNumber : ℤ) (chunk : DataChunk) : Verdict :=
  match scan with
  | none =>
    let ordered := !chunk.unordered
    if !chunk.firstFrag then
      if ordered then .stop else .skip
    else if ordered && uint16Gt chunk.streamSeqNum streamSequenceNumber then .stop
    else .take ⟨chunk.tsn, ordered⟩
  | some s =>
    if chunk.tsn ≠ s.expectedTsn then
      if s.ordered then .stop else .skip
    else .take s

/-- The sequence number after a message that ends with `chunk`. -/
def nextStreamSequenceNumber (scan : Scan) (streamSequenceNumber : ℤ) (chunk : DataChunk) : ℤ :=
  if scan.ordered && chunk.streamSeqNum == streamSequenceNumber then
    uint16Add streamSequenceNumber 1
  else streamSequenceNumber

/-- The loop of `popMessages`.  The list `reassembly` is split into the chunks `before` the start
of the message, its chunks so far, and the chunks from `pos` on; the messages are the lists of their
chunks. -/
def popLoop (before message : List DataChunk) (scan : Option Scan) (streamSequenceNumber : ℤ) :
    List DataChunk → List (List DataChunk) × InboundStream
  | [] => ([], ⟨before ++ message, streamSequenceNumber⟩)
  | chunk :: rest =>
    match verdict scan streamSequenceNumber chunk with
    | .stop => ([], ⟨before ++ message ++ chunk :: rest, streamSequenceNumber⟩)
    | .skip => popLoop (before ++ message ++ [chunk]) [] none streamSequenceNumber rest
    | .take s =>
      let next : Scan := { s with expectedTsn := tsnPlusOne s.expectedTsn }
      if chunk.lastFrag then
        let popped := popLoop before [] (some next)
          (nextStreamSequenceNumber s streamSequenceNumber chunk) rest
        ((message ++ [chunk]) :: popped.1, popped.2)
      else popLoop before (message ++ [chunk]) (some next) streamSequenceNumber rest

/-- `popMessages()`: the messages, as lists of their chunks, and the stream afterwards. -/
def InboundStream.popMessages (s : InboundStream) : List (List DataChunk) × InboundStream :=
  popLoop [] [] none s.streamSequenceNumber s.reassembly

end Werift.Sctp
