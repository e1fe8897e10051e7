import Werift.Codec.FramePackets
import Werift.Common.Binary
import Werift.Lib.BitBuffer

/-!
# AAC in high bit rate mode (`rtp/src/codec/mp4a.ts`)

A payload has a section of headers, each with the size of an access unit, and a section of data.  An access
unit that is too long for a packet is cut into fragments, each behind a header with the size of the whole unit.
Whether a packet continues the fragments before it is guessed from the sizes.
-/

namespace Werift.Codec

open Rtp (Bytes RtpHeader RtpPacket)

/-! ## The parser -/

/-- `AAC_HBR_SIZE_LENGTH`. -/
def AAC_HBR_SIZE_LENGTH : ℕ := 13

/-- `AAC_HBR_INDEX_LENGTH`. -/
def AAC_HBR_INDEX_LENGTH : ℕ := 3

/-- `AAC_HBR_INDEX_DELTA_LENGTH`. -/
def AAC_HBR_INDEX_DELTA_LENGTH : ℕ := 3

/-- `AAC_HBR_AU_HEADER_BITS`. -/
def AAC_HBR_AU_HEADER_BITS : ℕ := AAC_HBR_SIZE_LENGTH + AAC_HBR_INDEX_LENGTH

/-- `FRAG_SIZE_PREFIX`. -/
def FRAG_SIZE_PREFIX : ℕ := 4

/-- `AacHbrDepacketizerOptions`. -/
structure AacHbrDepacketizerOptions where
  ctsDtsPresent : Bool := false
  ctsDeltaLength : ℕ := 14
  dtsDeltaLength : ℕ := 14

/-- `AuHeader`. -/
structure AuHeader where
  /-- Access Unit size in octets -/
  size : ℕ
  /-- AU-Index (first) or AU-Index-delta (subsequent) -/
  index : ℕ
  hasCts : Option Bool := none
  ctsDelta : Option ℕ := none
  hasDts : Option Bool := none
  dtsDelta : Option ℕ := none
deriving DecidableEq

/-- The fields of an `AacHbrRtpPayload`. -/
structure AacHbrRtpPayload where
  payload : Option Bytes := none
  fragment : Option Bytes := none
  auHeaders : List AuHeader := []
  isContinuationFragment : Bool := false
  optionalAuHeaderFieldsDetected : Bool := false
deriving DecidableEq

/-- `readBits(buf, bitPos, length)`, of at most 31 bits. -/
def readBits (buf : Bytes) (bitPos : ℕ) : ℕ → Except String ℕ
  | 0 => .ok 0
  | length + 1 => do
    let value ← readBits buf bitPos length
    if buf.length ≤ (bitPos + length) / 8 then .error "AAC AU-header bit read past end of buffer"
    else .ok (2 * value + (BitBuffer.bit buf (bitPos + length)).toNat)

/-- A flag and the delta behind it, and the position behind them. -/
def readDelta (headerBytes : Bytes) (lengthBits bitPos deltaLength : ℕ) (name : String) :
    Except String (Bool × Option ℕ × ℕ) := do
  let flag ← readBits headerBytes bitPos 1
  if flag = 1 then
    if lengthBits < bitPos + 1 + deltaLength then
      .error s!"AAC AU-header {name}-delta exceeds AU-headers-length"
    else do
      let delta ← readBits headerBytes (bitPos + 1) deltaLength
      .ok (true, some delta, bitPos + 1 + deltaLength)
  else .ok (false, none, bitPos + 1)

/-- A header with `CTS` and `DTS`, and the position behind it. -/
def readExtendedHeader (headerBytes : Bytes) (lengthBits : ℕ) (options : AacHbrDepacketizerOptions)
    (indexLen bitPos : ℕ) : Except String (AuHeader × ℕ) := do
  let size ← readBits headerBytes bitPos AAC_HBR_SIZE_LENGTH
  let index ← readBits headerBytes (bitPos + AAC_HBR_SIZE_LENGTH) indexLen
  let (hasCts, ctsDelta, bitPos) ←
    readDelta headerBytes lengthBits (bitPos + AAC_HBR_SIZE_LENGTH + indexLen) options.ctsDeltaLength "CTS"
  if lengthBits ≤ bitPos then .error "AAC AU-header missing DTS-flag after CTS fields"
  else do
    let (hasDts, dtsDelta, bitPos) ← readDelta headerBytes lengthBits bitPos options.dtsDeltaLength "DTS"
    .ok (⟨size, index, some hasCts, ctsDelta, some hasDts, dtsDelta⟩, bitPos)

/-- The loop of `parseAuHeaders` over headers with `CTS` and `DTS`; each of them has at least one bit. -/
def readExtendedHeaders (headerBytes : Bytes) (lengthBits : ℕ) (options : AacHbrDepacketizerOptions) :
    ℕ → Bool → ℕ → Except String (List AuHeader × ℕ)
  | 0, _, bitPos => .ok ([], bitPos)
  | fuel + 1, isFirst, bitPos =>
    if bitPos + AAC_HBR_AU_HEADER_BITS + 2 ≤ lengthBits then do
      let (header, bitPos) ← readExtendedHeader headerBytes lengthBits options
        (if isFirst then AAC_HBR_INDEX_LENGTH else AAC_HBR_INDEX_DELTA_LENGTH) bitPos
      let (headers, bitPos) ← readExtendedHeaders headerBytes lengthBits options fuel false bitPos
      .ok (header :: headers, bitPos)
    else .ok ([], bitPos)

/-- The loop of `parseAuHeaders` over the headers of 16 bits. -/
def readHeaders (headerBytes : Bytes) (lengthBits : ℕ) :
    ℕ → Bool → ℕ → Except String (List AuHeader × ℕ)
  | 0, _, bitPos => .ok ([], bitPos)
  | fuel + 1, isFirst, bitPos =>
    if bitPos + AAC_HBR_AU_HEADER_BITS ≤ lengthBits then do
      let indexLen := if isFirst then AAC_HBR_INDEX_LENGTH else AAC_HBR_INDEX_DELTA_LENGTH
      let size ← readBits headerBytes bitPos AAC_HBR_SIZE_LENGTH
      let index ← readBits headerBytes (bitPos + AAC_HBR_SIZE_LENGTH) indexLen
      let (headers, bitPos) ←
        readHeaders headerBytes lengthBits fuel false (bitPos + AAC_HBR_SIZE_LENGTH + indexLen)
      .ok ({ size, index } :: headers, bitPos)
    else .ok ([], bitPos)

/-- `parseAuHeaders(headerBytes, lengthBits, options)`.  A header takes at least one bit, so the loops end
before their fuel does. -/
def parseAuHeaders (headerBytes : Bytes) (lengthBits : ℕ) (options : AacHbrDepacketizerOptions) :
    Except String (List AuHeader × Bool) := do
  let (headers, optionalFieldsDetected) ←
    if options.ctsDtsPresent then do
      let (headers, bitPos) ← readExtendedHeaders headerBytes lengthBits options lengthBits true 0
      if bitPos ≠ lengthBits then
        .error s!"AAC AU-headers-length {lengthBits} does not match parsed AU-headers ({bitPos} bits)"
      else .ok (headers, !headers.isEmpty)
    else do
      let (headers, bitPos) ← readHeaders headerBytes lengthBits lengthBits true 0
      let remaining := lengthBits - bitPos
      if 7 < remaining then .ok (headers, true)
      else if 0 < remaining then do
        let pad ← readBits headerBytes bitPos remaining
        .ok (headers, decide (pad ≠ 0))
      else .ok (headers, false)
  if headers = [] then .error "AAC AU Header Section contained no AU-headers"
  else .ok (headers, optionalFieldsDetected)

/-- `packFragment(expectedSize, data)`. -/
def packFragment (expectedSize : ℕ) (data : Bytes) : Bytes :=
  BigEndian.encode FRAG_SIZE_PREFIX expectedSize ++ data

/-- The slices of `data` of these sizes. -/
def slices : List ℕ → Bytes → List Bytes
  | [], _ => []
  | size :: sizes, data => data.take size :: slices sizes (data.drop size)

namespace AacHbrRtpPayload

/-- `pendingExpected`, and the data of the fragments. -/
def pending (fragment : Option Bytes) : Option (ℕ × Bytes) :=
  fragment.bind fun fragment =>
    if FRAG_SIZE_PREFIX ≤ fragment.length then
      some (readNat FRAG_SIZE_PREFIX fragment 0, fragment.drop FRAG_SIZE_PREFIX)
    else none

/-- `isContinuation`, for the data of the fragments `acc`. -/
def isContinuation (headers : List AuHeader) (dataSection : Bytes) (pendingExpected : ℕ) (acc : Bytes) : Prop :=
  headers.length = 1 ∧ headers.head?.map AuHeader.size = some pendingExpected ∧ 0 < dataSection.length ∧
    acc.length + dataSection.length ≤ pendingExpected

instance (headers : List AuHeader) (dataSection : Bytes) (pendingExpected : ℕ) (acc : Bytes) :
    Decidable (isContinuation headers dataSection pendingExpected acc) :=
  inferInstanceAs (Decidable (_ ∧ _ ∧ _ ∧ _))

/-- A packet that does not continue anything. -/
def readData (result : AacHbrRtpPayload) (dataSection : Bytes) : Except String AacHbrRtpPayload :=
  let totalSize := (result.auHeaders.map AuHeader.size).sum
  if result.auHeaders.length = 1 ∧ dataSection.length < totalSize then
    if dataSection.length = 0 then .error "AAC fragmented AU with empty data section"
    else .ok { result with fragment := some (packFragment totalSize dataSection) }
  else if dataSection.length < totalSize then
    .error s!"AAC AU sizes exceed data section: headers sum {totalSize}, data {dataSection.length}"
  else if totalSize < dataSection.length then
    .error s!"AAC data section has surplus bytes: headers sum {totalSize}, data {dataSection.length}"
  else
    .ok { result with payload := some (slices (result.auHeaders.map AuHeader.size) dataSection).flatten }

/-- What is done with the data behind the headers. -/
def reassemble (result : AacHbrRtpPayload) (dataSection : Bytes) (fragment : Option Bytes) :
    Except String AacHbrRtpPayload :=
  match pending fragment with
  | none => result.readData dataSection
  | some (pendingExpected, acc) =>
    if isContinuation result.auHeaders dataSection pendingExpected acc then
      let result := { result with isContinuationFragment := true }
      let acc := acc ++ dataSection
      if acc.length = pendingExpected then .ok { result with payload := some acc }
      else .ok { result with fragment := some (packFragment pendingExpected acc) }
    else result.readData dataSection

/-- `AacHbrRtpPayload.deSerialize(buf, fragment, options)`. -/
def deSerialize (buf : Bytes) (fragment : Option Bytes) (options : AacHbrDepacketizerOptions) :
    Except String AacHbrRtpPayload := do
  if buf.length < 2 then
    .error s!"AAC AU Header Section too short: expected at least 2 bytes, got {buf.length}"
  else
    let auHeadersLengthBits := readNat 2 buf 0
    if auHeadersLengthBits < 16 then
      .error s!"AAC AU-headers-length too small: {auHeadersLengthBits} bits (minimum 16 for hbr)"
    else if ¬options.ctsDtsPresent ∧ auHeadersLengthBits % 16 ≠ 0 then
      .error s!"AAC AU-headers-length must be a multiple of 16, got {auHeadersLengthBits}"
    else
      let headerSectionEnd := 2 + (auHeadersLengthBits + 7) / 8
      if buf.length < headerSectionEnd then
        .error s!"AAC AU Header Section exceeds buffer: need {headerSectionEnd}, have {buf.length}"
      else do
        let headerBytes := (buf.take headerSectionEnd).drop 2
        let (headers, optionalFieldsDetected) ← parseAuHeaders headerBytes auHeadersLengthBits options
        reassemble { auHeaders := headers, optionalAuHeaderFieldsDetected := optionalFieldsDetected }
          (buf.drop headerSectionEnd) fragment

end AacHbrRtpPayload

/-- The class `AacHbrRtpPayload`. -/
def AacHbrRtpPayload.class : DeSerialize := fun buf fragment =>
  (AacHbrRtpPayload.deSerialize buf fragment {}).map fun p =>
    { payload := p.payload, fragment := p.fragment }

/-! ## The packetizer -/

/-- The headers of `buildAuPayload`. -/
def auHeaderSection (fullAus : List Bytes) : Bytes :=
  (fullAus.foldl
    (fun acc au =>
      let bitPos := acc.2
      let isFirst := decide (bitPos = 0)
      let indexLen := if isFirst then AAC_HBR_INDEX_LENGTH else AAC_HBR_INDEX_DELTA_LENGTH
      let headers := BitBuffer.write acc.1 bitPos AAC_HBR_SIZE_LENGTH au.length
      let bitPos := bitPos + AAC_HBR_SIZE_LENGTH
      (BitBuffer.write headers bitPos indexLen 0, bitPos + indexLen))
    (List.replicate ((fullAus.length * AAC_HBR_AU_HEADER_BITS + 7) / 8) 0, 0)).1

/-- An access unit whose size does not fit into a header. -/
def exceedsMaximum (au : Bytes) : Bool := decide (8191 < au.length)

/-- `buildAuPayload(fullAus, dataOverride)`. -/
def buildAuPayload (fullAus : List Bytes) (dataOverride : Option Bytes) : Except String Bytes :=
  match fullAus.find? exceedsMaximum with
  | some au => .error s!"AAC AU size {au.length} exceeds AAC-hbr maximum 8191 octets (RFC 3640 §3.3.6)"
  | none =>
    match Js.writeUInt16BE (fullAus.length * AAC_HBR_AU_HEADER_BITS : ℕ) with
    | none => .error "ERR_OUT_OF_RANGE"
    | some lengthField => .ok (lengthField ++ auHeaderSection fullAus ++ dataOverride.getD fullAus.flatten)

/-- The fields of an `AacHbrPacketizer`. -/
structure AacHbrPacketizer extends PacketizerBase where
  auDurationInSamples : ℕ := 1024
  auDurationInSamples_pos : 0 < auDurationInSamples := by decide

namespace AacHbrPacketizer

/-- The variables of `packetizeAccessUnits`. -/
structure Grouping where
  p : AacHbrPacketizer
  packets : List RtpPacket := []
  group : List Bytes := []
  groupStart : ℕ := 0

variable (s : Grouping)

/-- `groupSize(list)`. -/
def groupSize (list : List Bytes) : ℕ :=
  2 + (list.length * AAC_HBR_AU_HEADER_BITS + 7) / 8 + (list.map List.length).sum

/-- `tsOf(base, auIndex)`. -/
def tsOf (p : AacHbrPacketizer) (base auIndex : ℕ) : ℕ :=
  (base % 2 ^ 32 + auIndex * p.auDurationInSamples) % 2 ^ 32

/-- Push a packet with this payload. -/
def Grouping.push (timestamp : ℕ) (payload : Bytes) (marker : Bool) : Grouping :=
  let built := s.p.toPacketizerBase.buildPacket timestamp payload marker
  { s with packets := s.packets ++ [built.1], p := { s.p with toPacketizerBase := built.2 } }

/-- `flush`. -/
def Grouping.flush (rtpTimestamp : ℕ) : Except String Grouping :=
  if s.group = [] then .ok s
  else do
    let payload ← buildAuPayload s.group none
    .ok { s.push (s.p.tsOf rtpTimestamp s.groupStart) payload true with group := [] }

/-- `fragmentAu(au, timestamp)`: a packet for each piece of the access unit, with its marker. -/
def Grouping.fragmentAu (au : Bytes) (timestamp : ℕ) : Except String Grouping :=
  let maxData := s.p.maxPayloadSize - 4
  if maxData = 0 then .error "invalid AAC RTP maxPayloadSize for fragmentation"
  else
    (cutPayloads maxData (fun _ _ => []) true au).foldlM (fun s chunk => do
      let payload ← buildAuPayload [au] (some chunk.1)
      .ok (s.push timestamp payload chunk.2)) s

/-- One round of the loop over the access units. -/
def Grouping.add (rtpTimestamp i : ℕ) (au : Bytes) : Except String Grouping :=
  if au.length = 0 then .error "AAC AU must not be empty"
  else if s.p.maxPayloadSize < groupSize [au] then do
    let s ← s.flush rtpTimestamp
    s.fragmentAu au (s.p.tsOf rtpTimestamp i)
  else do
    let s ← if s.group ≠ [] ∧ s.p.maxPayloadSize < groupSize (s.group ++ [au]) then s.flush rtpTimestamp
      else .ok s
    .ok { s with groupStart := if s.group = [] then i else s.groupStart, group := s.group ++ [au] }

/-- The loop over the access units from the `i`th on. -/
def Grouping.addAll (rtpTimestamp : ℕ) : ℕ → Grouping → List Bytes → Except String Grouping
  | _, s, [] => .ok s
  | i, s, au :: aus => do
    let s ← s.add rtpTimestamp i au
    Grouping.addAll rtpTimestamp (i + 1) s aus

/-- `packetizeAccessUnits(aus, rtpTimestamp)`. -/
def packetizeAccessUnits (p : AacHbrPacketizer) (aus : List Bytes) (rtpTimestamp : ℕ) :
    Except String (List RtpPacket × AacHbrPacketizer) := do
  let s ← Grouping.addAll rtpTimestamp 0 { p } aus
  let s ← s.flush rtpTimestamp
  .ok (s.packets, s.p)

end AacHbrPacketizer

end Werift.Codec
