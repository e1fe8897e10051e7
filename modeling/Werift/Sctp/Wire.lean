import Werift.Common.Crc
import Werift.Lib.Walk
import Werift.Sctp.Chunk
import Werift.Sctp.Send

/-!
# SCTP packets (`sctp/src/chunk.ts`)

The classes of chunks, and how packets of them are written and parsed.  `parsePacket` and `decodeParams`
are loops that move on by a length that they have read; both are walks, which are given fuel and are
`none` as long as the fuel is not enough.
-/

namespace Werift.Sctp

open Js Walk

abbrev Bytes := List UInt8

/-- What a parser throws. -/
inductive WireError
  | error (message : String)
  | rangeError
deriving DecidableEq

/-- A read that throws a `RangeError`. -/
def orRangeError {α : Type*} (read : Option α) : Except WireError α :=
  match read with
  | some a => .ok a
  | none => .error .rangeError

/-- `padL(l)`. -/
def padL (l : ℕ) : ℕ :=
  let m := l % SCTP_PADDING_MULTIPLE
  if m ≠ 0 then SCTP_PADDING_MULTIPLE - m else 0

/-- `padL(l)` bytes of padding. -/
def padding (l : ℕ) : Bytes := List.replicate (padL l) 0

/-! ## Parameters -/

/-- A parameter: its type and its value. -/
abbrev Param := ℤ × Bytes

/-- The loop of `encodeParams`, where `pre` is the padding of the parameter in front. -/
def encodeParamsFrom (pre : Bytes) : List Param → Option Bytes
  | [] => some []
  | (type, value) :: params => do
    let type ← writeUInt16BE type
    let length ← writeUInt16BE (value.length + 4 : ℕ)
    let rest ← encodeParamsFrom (padding (value.length + 4)) params
    return pre ++ (type ++ length ++ value) ++ rest

/-- `encodeParams(params)`. -/
def encodeParams (params : List Param) : Option Bytes := encodeParamsFrom [] params

/-- The loop body of `decodeParams`. -/
def visitParam (body : Bytes) (pos : ℕ) : Visit WireError Param :=
  match readUInt16BE body pos, readUInt16BE body (pos + 2) with
  | some type, some length =>
    .item (type, slice body (pos + 4) (pos + length.toNat)) (pos + length.toNat + padL length.toNat)
  | _, _ => .stop

/-- `decodeParams(body)`. -/
def decodeParams (fuel : ℕ) (body : Bytes) : Option (Except WireError (List Param)) :=
  walk (fun _ pos => some (visitParam body pos)) fuel 0

/-! ## Chunks -/

/-- `BaseInitChunk`. -/
structure BaseInitChunk where
  flags : ℤ := 0
  initiateTag : ℤ := 0
  advertisedRwnd : ℤ := 0
  outboundStreams : ℤ := 0
  inboundStreams : ℤ := 0
  initialTsn : ℤ := 0
  params : List Param := []
deriving DecidableEq

/-- `BaseParamsChunk`. -/
structure BaseParamsChunk where
  flags : ℤ := 0
  params : List Param := []
deriving DecidableEq

/-- A chunk of a class that adds nothing to `Chunk`. -/
structure BaseChunk where
  flags : ℤ := 0
  body : Bytes := []
deriving DecidableEq

structure ShutdownChunk where
  flags : ℤ := 0
  cumulativeTsn : ℤ := 0
deriving DecidableEq

/-- A chunk of one of the classes of `CHUNK_BY_TYPE`. -/
inductive Chunk
  | data (c : DataChunk)
  | init (c : BaseInitChunk)
  | initAck (c : BaseInitChunk)
  | sack (c : SackChunk)
  | heartbeat (c : BaseParamsChunk)
  | heartbeatAck (c : BaseParamsChunk)
  | abort (c : BaseParamsChunk)
  | shutdown (c : ShutdownChunk)
  | shutdownAck (c : BaseChunk)
  | error (c : BaseParamsChunk)
  | cookieEcho (c : BaseChunk)
  | cookieAck (c : BaseChunk)
  | shutdownComplete (c : BaseChunk)
  | reconfig (c : BaseParamsChunk)
  | forwardTsn (flags : ℤ) (c : ForwardTsnChunk)
deriving DecidableEq

namespace Chunk

/-- `chunk.type`. -/
def type : Chunk → ℕ
  | data _ => 0
  | init _ => 1
  | initAck _ => 2
  | sack _ => 3
  | heartbeat _ => 4
  | heartbeatAck _ => 5
  | abort _ => 6
  | shutdown _ => 7
  | shutdownAck _ => 8
  | error _ => 9
  | cookieEcho _ => 10
  | cookieAck _ => 11
  | shutdownComplete _ => 14
  | reconfig _ => 130
  | forwardTsn _ _ => 192

/-- `chunk.flags`. -/
def flags : Chunk → ℤ
  | data c => c.flags
  | init c | initAck c => c.flags
  | sack c => c.flags
  | heartbeat c | heartbeatAck c | abort c | error c | reconfig c => c.flags
  | shutdown c => c.flags
  | shutdownAck c | cookieEcho c | cookieAck c | shutdownComplete c => c.flags
  | forwardTsn flags _ => flags

/-- The chunk that the peer parses. -/
def onWire : Chunk → Chunk
  | data c => data c.onWire
  | c => c

end Chunk

/-! ## Writing -/

/-- `get body()` of a `BaseInitChunk`. -/
def BaseInitChunk.body (c : BaseInitChunk) : Option Bytes := do
  let initiateTag ← writeUInt32BE c.initiateTag
  let advertisedRwnd ← writeUInt32BE c.advertisedRwnd
  let outboundStreams ← writeUInt16BE c.outboundStreams
  let inboundStreams ← writeUInt16BE c.inboundStreams
  let initialTsn ← writeUInt32BE c.initialTsn
  let params ← encodeParams c.params
  return initiateTag ++ advertisedRwnd ++ outboundStreams ++ inboundStreams ++ initialTsn ++ params

/-- `get body()` of a `ForwardTsnChunk`. -/
def ForwardTsnChunk.body (c : ForwardTsnChunk) : Option Bytes := do
  let cumulativeTsn ← writeUInt32BE c.cumulativeTsn
  let streams ← SackChunk.concatMap (fun stream : ℕ × ℤ => SackChunk.gapBuffer (stream.1, stream.2))
    c.streams
  return cumulativeTsn ++ streams

/-- `get bytes()` of a `Chunk` with a body. -/
def frame (type : ℕ) (flags : ℤ) (body : Bytes) : Option Bytes := do
  let type ← writeUInt8 type
  let flags ← writeUInt8 flags
  let length ← writeUInt16BE (body.length + 4 : ℕ)
  return type ++ flags ++ length ++ body ++ padding body.length

/-- `get bytes()` of a `DataChunk`. -/
def DataChunk.bytes (c : DataChunk) : Option Bytes := do
  let length := SCTP_DATA_CHUNK_HEADER_SIZE + c.userData.length
  let type ← writeUInt8 0
  let flags ← writeUInt8 c.flags
  let size ← writeUInt16BE length
  let tsn ← writeUInt32BE c.tsn
  let streamId ← writeUInt16BE c.streamId
  let streamSeqNum ← writeUInt16BE c.streamSeqNum
  let protocol ← writeUInt32BE c.protocol
  return type ++ flags ++ size ++ (tsn ++ streamId ++ streamSeqNum ++ protocol ++ c.userData) ++
    if length % 4 ≠ 0 then padding length else []

/-- `chunk.bytes`. -/
def Chunk.bytes : Chunk → Option Bytes
  | data c => c.bytes
  | sack c => c.bytes
  | init c => c.body.bind (frame 1 c.flags)
  | initAck c => c.body.bind (frame 2 c.flags)
  | heartbeat c => (encodeParams c.params).bind (frame 4 c.flags)
  | heartbeatAck c => (encodeParams c.params).bind (frame 5 c.flags)
  | abort c => (encodeParams c.params).bind (frame 6 c.flags)
  | shutdown c => (writeUInt32BE c.cumulativeTsn).bind (frame 7 c.flags)
  | shutdownAck c => frame 8 c.flags c.body
  | error c => (encodeParams c.params).bind (frame 9 c.flags)
  | cookieEcho c => frame 10 c.flags c.body
  | cookieAck c => frame 11 c.flags c.body
  | shutdownComplete c => frame 14 c.flags c.body
  | reconfig c => (encodeParams c.params).bind (frame 130 c.flags)
  | forwardTsn flags c => c.body.bind (frame 192 flags)

/-- The ports and the tag of a packet. -/
def packetHeader (sourcePort destinationPort verificationTag : ℤ) : Option Bytes := do
  let sourcePort ← writeUInt16BE sourcePort
  let destinationPort ← writeUInt16BE destinationPort
  let verificationTag ← writeUInt32BE verificationTag
  return sourcePort ++ destinationPort ++ verificationTag

/-- The checksum behind the ports and the tag. -/
def withChecksum (header body : Bytes) : Option Bytes :=
  (writeUInt32LE (crc32c (header ++ [0, 0, 0, 0] ++ body)).toNat).map fun checkSumBuf =>
    header ++ checkSumBuf ++ body

/-- The common header with the checksum, and the bytes of chunks. -/
def packetBytes (sourcePort destinationPort verificationTag : ℤ) (body : Bytes) : Option Bytes := do
  withChecksum (← packetHeader sourcePort destinationPort verificationTag) body

/-- `serializePacket(sourcePort, destinationPort, verificationTag, chunk)`. -/
def serializePacket (sourcePort destinationPort verificationTag : ℤ) (chunk : Chunk) : Option Bytes := do
  packetBytes sourcePort destinationPort verificationTag (← chunk.bytes)

/-! ## Parsing -/

/-- `new DataChunk(flags, body)`. -/
def DataChunk.ofBody (flags : ℤ) (body : Bytes) : Option DataChunk := do
  let tsn ← readUInt32BE body 0
  let streamId ← readUInt16BE body 4
  let streamSeqNum ← readUInt16BE body 6
  let protocol ← readUInt32BE body 8
  return { flags := flags.toNat, tsn, streamId := streamId.toNat, streamSeqNum,
           protocol := protocol.toNat, userData := body.drop 12 }

/-- The fields of a `BaseInitChunk` in front of its parameters. -/
def BaseInitChunk.ofFields (flags : ℤ) (body : Bytes) : Option BaseInitChunk := do
  let initiateTag ← readUInt32BE body 0
  let advertisedRwnd ← readUInt32BE body 4
  let outboundStreams ← readUInt16BE body 8
  let inboundStreams ← readUInt16BE body 10
  let initialTsn ← readUInt32BE body 12
  return { flags, initiateTag, advertisedRwnd, outboundStreams, inboundStreams, initialTsn }

/-- `new BaseInitChunk(flags, body)`. -/
def BaseInitChunk.ofBody (fuel : ℕ) (flags : ℤ) (body : Bytes) :
    Option (Except WireError BaseInitChunk) :=
  match BaseInitChunk.ofFields flags body with
  | none => some (.error .rangeError)
  | some c => (decodeParams fuel (body.drop 16)).map fun r => r.map fun params => { c with params }

/-- `new BaseParamsChunk(flags, body)`. -/
def BaseParamsChunk.ofBody (fuel : ℕ) (flags : ℤ) (body : Bytes) :
    Option (Except WireError BaseParamsChunk) :=
  (decodeParams fuel body).map fun r => r.map fun params => { flags, params }

/-- `new ForwardTsnChunk(flags, body)`.  The loop reads a stream for each four bytes that have been
started. -/
def ForwardTsnChunk.ofBody (body : Bytes) : Option ForwardTsnChunk := do
  let cumulativeTsn ← readUInt32BE body 0
  let streams ← SackChunk.readAll SackChunk.readGap body ((body.length - 4 + 3) / 4) 4
  return ⟨cumulativeTsn, streams.map fun stream => (stream.1.toNat, stream.2)⟩

/-- `new ShutdownChunk(flags, body)`. -/
def ShutdownChunk.ofBody (flags : ℤ) (body : Bytes) : Option ShutdownChunk :=
  (readUInt32BE body 0).map fun cumulativeTsn => ⟨flags, cumulativeTsn⟩

/-- `new ChunkClass(flags, body)` for `ChunkClass = CHUNK_BY_TYPE[chunkType]`. -/
def Chunk.ofBody (fuel : ℕ) (chunkType : ℤ) (flags : ℤ) (body : Bytes) :
    Option (Except WireError Chunk) :=
  match chunkType with
  | 0 => some ((orRangeError (DataChunk.ofBody flags body)).map data)
  | 1 => (BaseInitChunk.ofBody fuel flags body).map fun r => r.map init
  | 2 => (BaseInitChunk.ofBody fuel flags body).map fun r => r.map initAck
  | 3 => some ((orRangeError (SackChunk.ofBody flags body)).map sack)
  | 4 => (BaseParamsChunk.ofBody fuel flags body).map fun r => r.map heartbeat
  | 5 => (BaseParamsChunk.ofBody fuel flags body).map fun r => r.map heartbeatAck
  | 6 => (BaseParamsChunk.ofBody fuel flags body).map fun r => r.map abort
  | 7 => some ((orRangeError (ShutdownChunk.ofBody flags body)).map shutdown)
  | 8 => some (.ok (shutdownAck ⟨flags, body⟩))
  | 9 => (BaseParamsChunk.ofBody fuel flags body).map fun r => r.map error
  | 10 => some (.ok (cookieEcho ⟨flags, body⟩))
  | 11 => some (.ok (cookieAck ⟨flags, body⟩))
  | 14 => some (.ok (shutdownComplete ⟨flags, body⟩))
  | 130 => (BaseParamsChunk.ofBody fuel flags body).map fun r => r.map reconfig
  | 192 => some ((orRangeError (ForwardTsnChunk.ofBody body)).map (forwardTsn flags))
  | _ => some (.error (.error "unknown"))

/-- The header of a chunk: its type, its flags and its length. -/
def readChunkHeader (data : Bytes) (pos : ℕ) : Option (ℤ × ℤ × ℕ) := do
  let chunkType ← readUInt8 data pos
  let chunkFlags ← readUInt8 data (pos + 1)
  let chunkLength ← readUInt16BE data (pos + 2)
  return (chunkType, chunkFlags, chunkLength.toNat)

/-- The loop body of `parsePacket`. -/
def visitChunk (data : Bytes) (fuel pos : ℕ) : Option (Visit WireError Chunk) :=
  match readChunkHeader data pos with
  | none => some .stop
  | some (chunkType, chunkFlags, chunkLength) =>
    (Chunk.ofBody fuel chunkType chunkFlags (slice data (pos + 4) (pos + chunkLength))).map fun r =>
      match r with
      | .ok chunk => .item chunk (pos + chunkLength + padL chunkLength)
      | .error e => .fail e

/-- The checksum of a packet is the one that is in it. -/
def hasChecksum (data : Bytes) : Bool :=
  readUInt32LE data 8 ==
    some ((crc32c (slice data 0 8 ++ [0, 0, 0, 0] ++ data.drop SCTP_COMMON_HEADER_SIZE)).toNat : ℤ)

/-- `parsePacket(data)`. -/
def parsePacket (fuel : ℕ) (data : Bytes) : Option (Except WireError (ℤ × ℤ × ℤ × List Chunk)) :=
  if data.length < SCTP_COMMON_HEADER_SIZE then
    some (.error (.error "SCTP packet length is less than 12 bytes"))
  else
    match readUInt16BE data 0, readUInt16BE data 2, readUInt32BE data 4 with
    | some sourcePort, some destinationPort, some verificationTag =>
      if hasChecksum data then
        (walk (visitChunk data) fuel SCTP_COMMON_HEADER_SIZE).map fun r =>
          r.map fun chunks => (sourcePort, destinationPort, verificationTag, chunks)
      else some (.error (.error "SCTP packet has invalid checksum"))
    | _, _, _ => some (.error .rangeError)

end Werift.Sctp
