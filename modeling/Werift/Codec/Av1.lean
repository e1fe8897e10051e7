import Werift.Codec.Base
import Werift.Codec.Leb128

/-!
# AV1 (`rtp/src/codec/av1.ts`)

An AV1 sample is a sequence of OBUs.  `Av1Packetizer` takes the size fields out of them and distributes
what is left over the packets; `AV1RtpPayload` takes a packet apart into OBUs and fragments of OBUs, and
`getFrame` puts them together again.
-/

namespace Werift.Codec

open Rtp (Bytes RtpPacket)

/-! ## Payloads -/

/-- An OBU or a fragment of one. -/
structure ObuElement where
  data : Bytes
  isFragment : Bool
  /-- The fragment goes on in the next packet. -/
  continues : Bool
  /-- The fragment goes on with an OBU of the packet before. -/
  isContinuation : Bool
deriving DecidableEq

/-- The fields of an `AV1RtpPayload`. -/
structure AV1RtpPayload where
  zBit_RtpStartsWithFragment : ℕ
  yBit_RtpEndsWithFragment : ℕ
  w_RtpNumObus : ℕ
  nBit_RtpStartsNewCodedVideoSequence : ℕ
  obu_or_fragment : List ObuElement
deriving DecidableEq

/-- The elements of a payload each of which has a length in front of it. -/
def sizedElements (z y isFirst : Bool) (buf : Bytes) : Except String (List ObuElement) :=
  if buf = [] then .ok []
  else
    match _hsize : leb128decode buf with
    | .error e => .error e
    | .ok (elementSize, bytes) =>
      if buf.length < bytes + elementSize then .error "AV1 OBU element length exceeds payload"
      else
        let isLast := buf.length ≤ bytes + elementSize
        match sizedElements z y false (buf.drop (bytes + elementSize)) with
        | .error e => .error e
        | .ok elements =>
          .ok
            (⟨(buf.drop bytes).take elementSize, (isFirst && z) || (isLast && y), isLast && y,
              isFirst && z⟩ :: elements)
termination_by buf.length
decreasing_by
  have := leb128decode_ok _hsize
  simp only [List.length_drop]
  omega

/-- The first `count` elements of a payload whose last element has no length, and what is left. -/
def countedElements (z : Bool) : ℕ → Bool → Bytes → Except String (List ObuElement × Bytes)
  | 0, _, buf => .ok ([], buf)
  | count + 1, isFirst, buf =>
    match leb128decode buf with
    | .error e => .error e
    | .ok (elementSize, bytes) =>
      match countedElements z count false (buf.drop (bytes + elementSize)) with
      | .error e => .error e
      | .ok (elements, left) =>
        .ok (⟨(buf.drop bytes).take elementSize, z && isFirst, false, z && isFirst⟩ :: elements, left)

/-- `AV1RtpPayload.deSerialize(buf)`. -/
def AV1RtpPayload.deSerialize : Bytes → Except String AV1RtpPayload
  | [] => .error "AV1 RTP payload truncated: need 1 bytes, got 0"
  | header :: buf =>
    let z := getBit header 0 1
    let y := getBit header 1 1
    let w := getBit header 2 2
    let n := getBit header 4 1
    if n ≠ 0 ∧ z ≠ 0 then .error ""
    else if w = 0 then
      match sizedElements (z ≠ 0) (y ≠ 0) true buf with
      | .error e => .error e
      | .ok elements => .ok ⟨z, y, w, n, elements⟩
    else
      match countedElements (z ≠ 0) (w - 1) true buf with
      | .error e => .error e
      | .ok (elements, left) =>
        .ok ⟨z, y, w, n, elements ++ [⟨left, y ≠ 0 ∨ (w = 1 ∧ z ≠ 0), y ≠ 0, z ≠ 0 ∧ w = 1⟩]⟩

/-! ## OBUs -/

/-- The names of `OBU_TYPES`. -/
inductive ObuType
  | Reserved
  | OBU_SEQUENCE_HEADER
  | OBU_TEMPORAL_DELIMITER
  | OBU_FRAME_HEADER
  | OBU_TILE_GROUP
  | OBU_METADATA
  | OBU_FRAME
  | OBU_REDUNDANT_FRAME_HEADER
  | OBU_TILE_LIST
  | OBU_PADDING
deriving DecidableEq

/-- `OBU_TYPES`. -/
def OBU_TYPES : ℕ → Option ObuType
  | 0 => some .Reserved
  | 1 => some .OBU_SEQUENCE_HEADER
  | 2 => some .OBU_TEMPORAL_DELIMITER
  | 3 => some .OBU_FRAME_HEADER
  | 4 => some .OBU_TILE_GROUP
  | 5 => some .OBU_METADATA
  | 6 => some .OBU_FRAME
  | 7 => some .OBU_REDUNDANT_FRAME_HEADER
  | 8 => some .OBU_TILE_LIST
  | 15 => some .OBU_PADDING
  | _ => none

/-- `OBU_TYPE_IDS`. -/
def OBU_TYPE_IDS : ObuType → ℕ
  | .Reserved => 0
  | .OBU_SEQUENCE_HEADER => 1
  | .OBU_TEMPORAL_DELIMITER => 2
  | .OBU_FRAME_HEADER => 3
  | .OBU_TILE_GROUP => 4
  | .OBU_METADATA => 5
  | .OBU_FRAME => 6
  | .OBU_REDUNDANT_FRAME_HEADER => 7
  | .OBU_TILE_LIST => 8
  | .OBU_PADDING => 15

/-- The fields of an `AV1Obu`. -/
structure AV1Obu where
  obu_forbidden_bit : ℕ
  obu_type : Option ObuType
  obu_extension_flag : ℕ
  obu_has_size_field : ℕ
  obu_reserved_1bit : ℕ
  extension_header : Option UInt8
  payload : Bytes
deriving DecidableEq

/-- The end of `AV1Obu.deSerialize(buf)`: the size field and the payload. -/
def AV1Obu.readPayload (buf : Bytes) (hasSizeField : ℕ) : Except String Bytes :=
  if hasSizeField ≠ 0 then
    match leb128decode buf with
    | .error e => .error e
    | .ok (obuSize, leb128Length) =>
      if buf.length < leb128Length + obuSize then 
        .error s!"AV1 OBU size field {obuSize} exceeds remaining buffer {buf.length - leb128Length}"
      else .ok ((buf.drop leb128Length).take obuSize)
  else .ok buf

/-- `AV1Obu.deSerialize(buf)`. -/
def AV1Obu.deSerialize : Bytes → Except String AV1Obu
  | [] => .error "AV1 OBU too short: expected at least 1 header byte"
  | header :: buf =>
    let hasSizeField := getBit header 6 1
    if getBit header 5 1 ≠ 0 then
      match buf with
      | [] => .error "AV1 OBU: extension flag set but extension byte missing"
      | extension :: buf =>
        match AV1Obu.readPayload buf hasSizeField with
        | .error e => .error e
        | .ok payload =>
          .ok ⟨getBit header 0 1, OBU_TYPES (getBit header 1 4), getBit header 5 1, hasSizeField,
            getBit header 7 1, some extension, payload⟩
    else
      match AV1Obu.readPayload buf hasSizeField with
      | .error e => .error e
      | .ok payload =>
        .ok ⟨getBit header 0 1, OBU_TYPES (getBit header 1 4), getBit header 5 1, hasSizeField,
          getBit header 7 1, none, payload⟩

/-- `serialize()`.  A type without a name has no number. -/
def AV1Obu.serialize (o : AV1Obu) : Except String Bytes :=
  match o.obu_type with
  | none => .error "Cannot convert undefined to a BigInt"
  | some type =>
    let header := UInt8.ofNat (bitWriter2 8 [(o.obu_forbidden_bit, 1), (OBU_TYPE_IDS type, 4),
      (o.obu_extension_flag, 1), (o.obu_has_size_field, 1), (o.obu_reserved_1bit, 1)])
    let ext : Bytes := if o.obu_extension_flag ≠ 0 then o.extension_header.toList else []
    if o.obu_has_size_field ≠ 0 then
      match leb128encode o.payload.length with
      | .error e => .error e
      | .ok obuSize => .ok (header :: ext ++ obuSize ++ o.payload)
    else .ok (header :: ext ++ o.payload)

/-! ## Frames -/

/-- The loop of `getFrame(payloads)`, with the fragments of an OBU whose end has not come yet. -/
def assemble : List Bytes → List ObuElement → List Bytes
  | _, [] => []
  | pending, element :: rest =>
    if element.isFragment = false then element.data :: assemble [] rest
    else if element.isContinuation = true ∧ pending = [] then assemble pending rest
    else
      let pending := if element.isContinuation then pending ++ [element.data] else [element.data]
      if element.continues then assemble pending rest
      else if pending.length > 1 then pending.flatten :: assemble [] rest
      else assemble [] rest

/-- The OBUs of a frame one behind the other.  Each but the last one gets a size field. -/
def serializeObus (obus : List AV1Obu) : Except String Bytes :=
  match obus.getLast? with
  | none => .ok []
  | some lastObu => do
    let sized ← obus.dropLast.mapM fun o => AV1Obu.serialize { o with obu_has_size_field := 1 }
    let last ← lastObu.serialize
    .ok (sized.flatten ++ last)

/-- `getFrame(payloads)`. -/
def AV1RtpPayload.getFrame (payloads : List AV1RtpPayload) : Except String Bytes := do
  let obus ← (assemble [] (payloads.flatMap AV1RtpPayload.obu_or_fragment)).mapM AV1Obu.deSerialize
  serializeObus obus

/-! ## Packetizing -/

/-- `createAv1AggregationHeader(..)`. -/
def createAv1AggregationHeader (startsWithFragment endsWithFragment startsNewCodedVideoSequence : Bool)
    (obuCount : ℕ) : Except String UInt8 :=
  if startsWithFragment ∧ startsNewCodedVideoSequence then
    .error "AV1 aggregation header: N=1 and Z=1 must not both be set (AV1 RTP §4.4)"
  else if obuCount < 1 ∨ obuCount > 3 then .error s!"AV1 aggregation header: invalid W={obuCount}"
  else
    .ok (UInt8.ofNat (bitWriter 8 [(1, 0, startsWithFragment.toNat), (1, 1, endsWithFragment.toNat),
      (2, 2, obuCount), (1, 4, startsNewCodedVideoSequence.toNat), (3, 5, 0)]))

/-- `splitAv1Obus(sample)`. -/
def splitAv1Obus (sample : Bytes) : Except String (List Bytes) :=
  match sample with
  | [] => .ok []
  | header :: rest =>
    if getBit header 5 1 ≠ 0 ∧ rest = [] then
      .error "invalid AV1 OBU: extension flag set but buffer ends"
    else
      let headerLength := if getBit header 5 1 ≠ 0 then 2 else 1
      if getBit header 6 1 = 0 then .ok [header :: rest]
      else
        match leb128decode ((header :: rest).drop headerLength) with
        | .error e => .error e
        | .ok (obuSize, leb128Length) =>
          if (header :: rest).length < headerLength + leb128Length + obuSize then
            .error "invalid AV1 OBU size"
          else
            match splitAv1Obus ((header :: rest).drop (headerLength + leb128Length + obuSize)) with
            | .error e => .error e
            | .ok obus => .ok ((header :: rest).take (headerLength + leb128Length + obuSize) :: obus)
termination_by sample.length
decreasing_by
  simp only [List.length_drop, List.length_cons]
  split <;> omega

/-- `toRtpObuElement(obu)`. -/
def toRtpObuElement : Bytes → Except String Bytes
  | [] => .error "Cannot read properties of undefined (reading 'toString')"
  | header :: rest =>
    if getBit header 6 1 = 0 then .ok (header :: rest)
    else
      let headerLength := if getBit header 5 1 ≠ 0 then 2 else 1
      match leb128decode ((header :: rest).drop headerLength) with
      | .error e => .error e
      | .ok (_, sizeBytes) =>
        .ok ((header &&& 0xfd) :: rest.take (headerLength - 1) ++
          (header :: rest).drop (headerLength + sizeBytes))

/-- `getAv1ObuLayerId(obu)`. -/
def getAv1ObuLayerId : Bytes → Option ℕ
  | header :: extension :: _ =>
    if getBit header 5 1 = 0 then none else some (extension &&& 0xf8).toNat
  | _ => none

/-- `(o[0] >> 3) & 0x0f`. -/
def obuTypeOf (obu : Bytes) : ℕ := (obu.headD 0).toNat / 8 % 16

/-- The length that the last element gets in front of it when another one follows. -/
def prefixLength (elements : List Bytes) : Except String ℕ :=
  match elements.getLast? with
  | none => .ok 0
  | some element => (leb128encode element.length).map List.length

/-- The elements of a packet, the OBUs that are left, how much of the first one of them has been
sent, and `endsWithFragment`. -/
structure PacketElements where
  elements : List Bytes
  obus : List Bytes
  obuOffset : ℕ
  endsWithFragment : Bool

/-- The inner loop of `packetize`. -/
def packElements (capacity : ℕ) :
    List Bytes → ℕ → List Bytes → ℕ → Option ℕ → Except String PacketElements
  | [], obuOffset, elements, _, _ => .ok ⟨elements, [], obuOffset, false⟩
  | obu :: obus, obuOffset, elements, used, packetLayerId =>
    let layerId := getAv1ObuLayerId obu
    if elements.length ≥ 3 then .ok ⟨elements, obu :: obus, obuOffset, false⟩
    else if layerId.isSome ∧ packetLayerId.isSome ∧ layerId ≠ packetLayerId then
      .ok ⟨elements, obu :: obus, obuOffset, false⟩
    else
      match prefixLength elements with
      | .error e => .error e
      | .ok prefixed =>
        if capacity ≤ used + prefixed then .ok ⟨elements, obu :: obus, obuOffset, false⟩
        else
          let rest := obu.drop obuOffset
          let available := capacity - used - prefixed
          if rest.length ≤ available then
            packElements capacity obus 0 (elements ++ [rest]) (used + prefixed + rest.length)
              (layerId <|> packetLayerId)
          else
            .ok ⟨elements ++ [rest.take available], obu :: obus, obuOffset + available, true⟩

/-- The elements of a packet, all but the last one with their lengths. -/
def packetBody : List Bytes → Except String Bytes
  | [] => .ok []
  | [element] => .ok element
  | element :: rest =>
    match leb128encode element.length with
    | .error e => .error e
    | .ok size =>
      match packetBody rest with
      | .error e => .error e
      | .ok body => .ok (size ++ element ++ body)

/-- The outer loop of `packetize`.  Each round takes at least one byte of the OBUs. -/
def packPayloads (capacity : ℕ) :
    ℕ → Bool → List Bytes → ℕ → Except String (List Bytes)
  | _, _, [], _ => .ok []
  | 0, _, _ :: _, _ => .error ""
  | rounds + 1, startsNewSequence, obu :: obus, obuOffset => do
    let packed ← packElements capacity (obu :: obus) obuOffset [] 0 none
    let aggregationHeader ← createAv1AggregationHeader (0 < obuOffset) packed.endsWithFragment
      startsNewSequence packed.elements.length
    let body ← packetBody packed.elements
    let payloads ← packPayloads capacity rounds false packed.obus packed.obuOffset
    .ok ((aggregationHeader :: body) :: payloads)

/-- The values of `frameType`. -/
inductive FrameType
  | key
  | delta

/-- `Av1PacketizeOptions`. -/
structure Av1PacketizeOptions where
  isKeyframe : Option Bool := none
  frameType : Option FrameType := none
  startsNewCodedVideoSequence : Option Bool := none

/-- The fields of an `Av1Packetizer`. -/
structure Av1Packetizer extends PacketizerBase where
  defaultIsKeyframe : Bool := false

/-- Whether the options make the sample a keyframe. -/
def Av1Packetizer.isKeyframe (p : Av1Packetizer) (options : Av1PacketizeOptions) : Bool :=
  match options.frameType with
  | some .key => true
  | some .delta => false
  | none => options.isKeyframe.getD p.defaultIsKeyframe

/-- The elements of the OBUs of a sample that are sent. -/
def sentElements (allObus : List Bytes) : Except String (List Bytes) :=
  (allObus.filter fun o => obuTypeOf o ≠ 2).mapM toRtpObuElement

/-- `packetize(data, rtpTimestamp, options)`. -/
def Av1Packetizer.packetize (p : Av1Packetizer) (data : Bytes) (rtpTimestamp : ℕ)
    (options : Av1PacketizeOptions) : Except String (List RtpPacket × PacketizerBase) :=
  if data = [] then .ok ([], p.toPacketizerBase)
  else do
    let allObus ← splitAv1Obus data
    if allObus = [] then .error "AV1 sample did not contain any OBU data"
    else
      let startsNewSequence := options.startsNewCodedVideoSequence.getD
        (p.isKeyframe options && allObus.any fun o => obuTypeOf o = 1)
      let obus ← sentElements allObus
      if obus = [] then .ok ([], p.toPacketizerBase)
      else if p.maxPayloadSize ≤ 1 then
        .error s!"Av1Packetizer: maxPayloadSize {p.maxPayloadSize} too small for aggregation header"
      else do
        let payloads ← packPayloads (p.maxPayloadSize - 1) obus.flatten.length startsNewSequence obus 0
        .ok (p.toPacketizerBase.buildPackets rtpTimestamp (markLast payloads))

end Werift.Codec
