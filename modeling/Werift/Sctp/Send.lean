import Werift.Sctp.Chunk
import Werift.Sctp.Tsn

/-!
# Fragments of a message

`send` cuts a message into DATA chunks of at most `maxPayloadSize` bytes.  The chunks have
consecutive TSNs and the same SSN; the first one and the last one are flagged.  An empty message has
no chunks.
-/

namespace Werift.Sctp

def SCTP_COMMON_HEADER_SIZE : ℕ := 12
def SCTP_DATA_CHUNK_HEADER_SIZE : ℕ := 16
def SCTP_PADDING_MULTIPLE : ℕ := 4
def DEFAULT_SCTP_MTU : ℕ := 1191

/-- `maxPayloadSizeForMtu`: what the common header and the header of a DATA chunk leave, a multiple
of 4. -/
def maxPayloadSizeForMtu (mtu : ℕ) : ℕ :=
  let payloadBudget := mtu - (SCTP_COMMON_HEADER_SIZE + SCTP_DATA_CHUNK_HEADER_SIZE)
  payloadBudget - payloadBudget % SCTP_PADDING_MULTIPLE

/-- The arguments of `send`. -/
structure SendArgs where
  streamId : ℕ
  ppId : ℕ
  userData : List UInt8
  expiry : Option ℚ := none
  maxRetransmits : Option ℕ := none
  ordered : Bool := true
deriving DecidableEq

namespace SendArgs

/-- `Math.ceil(userData.length / maxPayloadSize)`. -/
def fragments (a : SendArgs) (maxPayloadSize : ℕ) : ℕ :=
  (a.userData.length + maxPayloadSize - 1) / maxPayloadSize

/-- `streamSeqNum`, where `outboundSeq` is `this.outboundStreamSeq[streamId] || 0`. -/
def streamSeqNum (a : SendArgs) (outboundSeq : ℤ) : ℤ := if a.ordered then outboundSeq else 0

/-- The flags of a fragment. -/
def fragmentFlags (a : SendArgs) (maxPayloadSize fragment : ℕ) : ℕ :=
  (if a.ordered then 0 else SCTP_DATA_UNORDERED) |||
    (if fragment = 0 then SCTP_DATA_FIRST_FRAG else 0) |||
    (if fragment + 1 = a.fragments maxPayloadSize then SCTP_DATA_LAST_FRAG else 0)

/-- The chunk of a fragment of the message. -/
def fragmentChunk (a : SendArgs) (maxPayloadSize : ℕ) (localTsn outboundSeq : ℤ) (fragment : ℕ) :
    DataChunk where
  flags := a.fragmentFlags maxPayloadSize fragment
  tsn := tsnPlusOne^[fragment] localTsn
  streamId := a.streamId
  streamSeqNum := a.streamSeqNum outboundSeq
  protocol := a.ppId
  userData := (a.userData.drop (fragment * maxPayloadSize)).take maxPayloadSize
  bookSize := ((a.userData.drop (fragment * maxPayloadSize)).take maxPayloadSize).length
  expiry := a.expiry
  maxRetransmits := a.maxRetransmits

/-- The loop of `send` over the fragments: their chunks. -/
def chunks (a : SendArgs) (maxPayloadSize : ℕ) (localTsn outboundSeq : ℤ) : List DataChunk :=
  (List.range (a.fragments maxPayloadSize)).map (a.fragmentChunk maxPayloadSize localTsn outboundSeq)

/-- The next value of `localTsn`. -/
def nextTsn (a : SendArgs) (maxPayloadSize : ℕ) (localTsn : ℤ) : ℤ :=
  tsnPlusOne^[a.fragments maxPayloadSize] localTsn

/-- The next value of `outboundStreamSeq`. -/
def nextOutboundSeq (a : SendArgs) (outboundStreamSeq : ℕ → ℤ) : ℕ → ℤ :=
  if a.ordered then
    Function.update outboundStreamSeq a.streamId
      (uint16Add (a.streamSeqNum (outboundStreamSeq a.streamId)) 1)
  else outboundStreamSeq

@[simp] lemma length_chunks (a : SendArgs) (mps : ℕ) (tsn seq : ℤ) :
    (a.chunks mps tsn seq).length = a.fragments mps := by
  simp [chunks]

lemma mem_chunks {a : SendArgs} {mps : ℕ} {tsn seq : ℤ} {c : DataChunk} :
    c ∈ a.chunks mps tsn seq ↔ ∃ i < a.fragments mps, a.fragmentChunk mps tsn seq i = c := by
  simp [chunks]

end SendArgs

end Werift.Sctp
