import Werift.Common.BitStream
import Werift.Common.Number
import Werift.Lib.Redundancy
import Werift.Rtp.Header

/-!
# Redundant audio data (`rtp/src/rtp/red/*.ts`)

`RedEncoder` puts the last blocks in front of each new one, `Red` is the packet of these blocks, and
`RedHandler` makes packets of the blocks again.  A block does not bear its sequence number: it is told
from its place in front of the last block.
-/

namespace Werift.Rtp

/-- A block of a `Red`. -/
structure RedBlock where
  block : Bytes
  blockPT : ℕ
  timestampOffset : Option ℕ := none
deriving DecidableEq

/-- `RedHeaderField`. -/
structure RedHeaderField where
  fBit : ℕ
  blockPT : ℕ
  timestampOffset : Option ℕ := none
  blockLength : Option ℕ := none
deriving DecidableEq

/-! ## The packet -/

/-- One round of `RedHeader.serialize()`. -/
def RedHeaderField.serialize (field : RedHeaderField) : Bytes :=
  if field.fBit = 1 ∨ field.blockLength ≠ none then
    ((((BitStream.mk [0, 0, 0, 0] 0 0).writeBits 1 field.fBit).writeBits 7 field.blockPT).writeBits 14
      (field.timestampOffset.getD 0)).writeBits 10 (field.blockLength.getD 0) |>.uint8Array
  else (((BitStream.mk [0] 0 0).writeBits 1 0).writeBits 7 field.blockPT).uint8Array

/-- The loop of `RedHeader.deSerialize(buf)`: the fields and the bytes behind them. -/
def RedHeader.deSerializeFields : Bytes → Except String (List RedHeaderField × Bytes)
  | [] => .error "RED header truncated"
  | b :: rest =>
    let bitStream : BitStream := ⟨b :: rest, 0, 0⟩
    let (fBit, bitStream) := bitStream.readBits 1 0
    let (blockPT, bitStream) := bitStream.readBits 7 0
    if fBit = 0 then .ok ([{ fBit, blockPT }], rest)
    else if rest.length < 3 then .error "RED header truncated"
    else
      let (timestampOffset, bitStream) := bitStream.readBits 14 0
      let (blockLength, _) := bitStream.readBits 10 0
      match deSerializeFields (rest.drop 3) with
      | .error e => .error e
      | .ok (fields, rest) =>
        .ok ({ fBit, blockPT, timestampOffset, blockLength } :: fields, rest)
termination_by buf => buf.length
decreasing_by simp only [List.length_drop, List.length_cons]; omega

/-- `RedHeader.deSerialize(buf)`. -/
def RedHeader.deSerialize (buf : Bytes) : Except String (List RedHeaderField × Bytes) :=
  if buf.length < 1 then .error "RED payload truncated: need 1 byte, got 0"
  else deSerializeFields buf

/-- The blocks of `Red.deSerialize`, field by field. -/
def Red.readBlocks : List RedHeaderField → Bytes → Except String (List RedBlock)
  | [], _ => .ok []
  | field :: fields, buf =>
    if field.fBit = 1 then
      let length := field.blockLength.getD 0
      if buf.length < length then .error "RED block truncated"
      else
        (readBlocks fields (buf.drop length)).map
          (⟨buf.take length, field.blockPT, field.timestampOffset⟩ :: ·)
    else (readBlocks fields buf).map (⟨buf, field.blockPT, none⟩ :: ·)

/-- `Red.deSerialize(buf)`: the blocks. -/
def Red.deSerialize (buf : Bytes) : Except String (List RedBlock) :=
  match RedHeader.deSerialize buf with
  | .error e => .error e
  | .ok (fields, rest) => readBlocks fields rest

/-- The header field of a block. -/
def RedBlock.field (b : RedBlock) : RedHeaderField :=
  match b.timestampOffset with
  | some timestampOffset =>
    { fBit := 1, blockPT := b.blockPT, timestampOffset, blockLength := b.block.length }
  | none => { fBit := 0, blockPT := b.blockPT }

/-- `serialize()` of a `Red` with these blocks. -/
def Red.serialize (blocks : List RedBlock) : Bytes :=
  (blocks.map fun b => b.field.serialize).flatten ++ (blocks.map (·.block)).flatten

/-! ## The encoder -/

/-- What is pushed into the encoder. -/
structure RedPayload where
  block : Bytes
  timestamp : ℕ
  blockPT : ℕ
deriving DecidableEq

/-- `cacheSize`. -/
def cacheSize : ℕ := 10

/-- `Max14Uint`. -/
def Max14Uint : ℤ := 1 <<< 14 - 1

/-- `push(payload)`: the cache of the encoder behind it. -/
def RedEncoder.push (cache : List RedPayload) (payload : RedPayload) : List RedPayload :=
  let cache := cache ++ [payload]
  if cache.length > cacheSize then cache.tail else cache

/-- `build()`: the blocks of the packet. -/
def RedEncoder.build (distance : ℕ) (cache : List RedPayload) : List RedBlock :=
  let redundantPayloads := cache.drop (cache.length - (distance + 1))
  match redundantPayloads.getLast? with
  | none => []
  | some presentPayload =>
    (redundantPayloads.dropLast.filterMap fun redundant =>
      let timestampOffset := uint32Add presentPayload.timestamp (-redundant.timestamp)
      if timestampOffset > Max14Uint then none
      else some ⟨redundant.block, redundant.blockPT, some timestampOffset.toNat⟩) ++
    [⟨presentPayload.block, presentPayload.blockPT, none⟩]

/-! ## The handler -/

/-- `size`. -/
def RedHandler.size : ℕ := 150

/-- The packet of the block `i` of these blocks. -/
def RedHandler.packet (blocks : List RedBlock) (base : RtpPacket) (b : RedBlock) (i : ℕ) : RtpPacket :=
  let sequenceNumber :=
    (uint16Add base.header.sequenceNumber (-(blocks.length - (i + 1) : ℤ))).toNat
  match b.timestampOffset with
  | some (timestampOffset + 1) =>
    { header := { timestamp := (uint32Add base.header.timestamp (-(timestampOffset + 1 : ℤ))).toNat
                  payloadType := b.blockPT, ssrc := base.header.ssrc, sequenceNumber, marker := true }
      payload := b.block }
  | _ =>
    { header := { timestamp := base.header.timestamp
                  payloadType := b.blockPT, ssrc := base.header.ssrc, sequenceNumber, marker := true }
      payload := b.block }

/-- `push(red, base)`: the history of the handler behind it, and what it returns. -/
def RedHandler.push (sequenceNumbers : List ℕ) (blocks : List RedBlock) (base : RtpPacket) :
    List ℕ × List RtpPacket :=
  let packets := blocks.zipIdx.map fun b => packet blocks base b.1 b.2
  BoundedHistory.filterAll (fun p : RtpPacket => p.header.sequenceNumber) size (sequenceNumbers, [])
    packets

end Werift.Rtp
