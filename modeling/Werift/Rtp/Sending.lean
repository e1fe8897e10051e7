import Werift.Common.Number
import Werift.Js.Text
import Werift.Rtp.Header

/-!
# Outgoing packets (`rtp/src/rtp/{continuity,padding,rtx,sendHeaderExtensions}.ts`)

A number that does not fit into its field throws; this is `none` here.
-/

namespace Werift.Rtp

/-! ## Numbering -/

/-- `RtpContinuity`. -/
structure RtpContinuity where
  sequenceNumber : Option ℕ := none
  timestamp : Option ℕ := none
  timestampOffset : ℤ := 0
  seqOffset : ℤ := 0
  pending : Bool := false
  pendingTimestampStep : ℤ := 1
deriving DecidableEq

namespace RtpContinuity

variable (c : RtpContinuity)

/-- `schedule(timestampStep)`. -/
def schedule (timestampStep : ℤ) : RtpContinuity :=
  { c with pending := true, pendingTimestampStep := timestampStep }

/-- `cancel()`. -/
def cancel : RtpContinuity := { c with pending := false }

/-- `mapTimestamp(inputTimestamp)`. -/
def mapTimestamp (inputTimestamp : ℕ) : ℕ := (uint32Add inputTimestamp c.timestampOffset).toNat

/-- The scheduled rewrite of the offsets. -/
def rewriteOffsets (inputSequenceNumber inputTimestamp : ℕ) : RtpContinuity :=
  if c.pending then
    let c := match c.sequenceNumber, c.timestamp with
      | some sequenceNumber, some timestamp =>
        { c with
          seqOffset := uint16Add (uint16Add sequenceNumber 1) (-inputSequenceNumber)
          timestampOffset :=
            uint32Add (uint32Add timestamp c.pendingTimestampStep) (-inputTimestamp) }
      | _, _ => c
    { c with pending := false, pendingTimestampStep := 1 }
  else c

/-- `assign(header, inputSequenceNumber, inputTimestamp)`: the numbering behind it, and the header. -/
def assign (header : RtpHeader) (inputSequenceNumber inputTimestamp : ℕ) :
    RtpContinuity × RtpHeader :=
  let c := c.rewriteOffsets inputSequenceNumber inputTimestamp
  let timestamp := (uint32Add inputTimestamp c.timestampOffset).toNat
  let sequenceNumber := (uint16Add inputSequenceNumber c.seqOffset).toNat
  ({ c with timestamp, sequenceNumber }, { header with timestamp, sequenceNumber })

lemma assign_lt (header : RtpHeader) (inputSequenceNumber inputTimestamp : ℕ) :
    (c.assign header inputSequenceNumber inputTimestamp).2.sequenceNumber < 0x10000 := by
  dsimp only [assign, uint16Add]
  omega

end RtpContinuity

/-! ## Padding -/

/-- `appendRfc3550Padding(payload, paddingSize)`. -/
def appendRfc3550Padding (payload : Bytes) (paddingSize : ℕ) : Except String Bytes :=
  if paddingSize < 1 ∨ paddingSize > 255 then
    .error ("invalid RTP padding size: " ++ toString paddingSize)
  else .ok (payload ++ (List.replicate (paddingSize - 1) 0 ++ [UInt8.ofNat paddingSize]))

/-- `createRtxPaddingPacket({ paddingSize, timestamp, payloadType, ssrc })`. -/
def createRtxPaddingPacket (paddingSize timestamp payloadType ssrc : ℕ) : RtpPacket where
  header := { timestamp, payloadType, ssrc, extension := true, padding := true, paddingSize,
              payloadOffset := 12 }
  payload := []

/-- A packet as it is read from the wire: the payload is what stands in front of the padding. -/
def RtpPacket.received (wire : RtpPacket) : RtpPacket :=
  if wire.header.padding then
    { wire with payload := wire.payload.take (wire.payload.length - wire.header.paddingSize) }
  else wire

/-- The padding is not part of the payload. -/
lemma received_appendRfc3550Padding {header : RtpHeader} {payload wire : Bytes}
    (hpadding : header.padding = true) (h : appendRfc3550Padding payload header.paddingSize = .ok wire) :
    RtpPacket.received ⟨header, wire⟩ = ⟨header, payload⟩ := by
  rw [appendRfc3550Padding] at h
  split_ifs at h with hsize
  rw [not_or, not_lt, not_lt] at hsize
  obtain rfl := Except.ok.inj h
  have hlength : (payload ++ (List.replicate (header.paddingSize - 1) (0 : UInt8) ++
      [UInt8.ofNat header.paddingSize])).length - header.paddingSize = payload.length := by
    simp only [List.length_append, List.length_replicate, List.length_singleton]
    omega
  rw [RtpPacket.received, if_pos hpadding]
  dsimp only
  rw [hlength, List.take_left]

/-! ## Retransmission -/

/-- `wrapRtx(packet, payloadType, sequenceNumber, ssrc)`. -/
def wrapRtx (packet : RtpPacket) (payloadType sequenceNumber ssrc : ℕ) : Option RtpPacket := do
  let originalSequence ← Js.writeUInt16BE packet.header.sequenceNumber
  return {
    header := { payloadType, marker := packet.header.marker, sequenceNumber,
                timestamp := packet.header.timestamp, ssrc, csrc := packet.header.csrc,
                extensions := packet.header.extensions }
    payload := originalSequence ++ packet.payload }

/-- `unwrapRtx(rtx, payloadType, ssrc)`. -/
def unwrapRtx (rtx : RtpPacket) (payloadType ssrc : ℕ) : Except String RtpPacket :=
  if rtx.payload.length < 2 then .error "RTX payload too short"
  else .ok {
    header := { payloadType, marker := rtx.header.marker, sequenceNumber := readNat 2 rtx.payload 0,
                timestamp := rtx.header.timestamp, ssrc }
    payload := rtx.payload.drop 2 }

/-- A number of 16 bits can be wrapped. -/
lemma wrapRtx_eq {packet : RtpPacket} (h : packet.header.sequenceNumber < 0x10000)
    (payloadType sequenceNumber ssrc : ℕ) :
    wrapRtx packet payloadType sequenceNumber ssrc = some {
      header := { payloadType, marker := packet.header.marker, sequenceNumber,
                  timestamp := packet.header.timestamp, ssrc, csrc := packet.header.csrc,
                  extensions := packet.header.extensions }
      payload := BigEndian.encode 2 packet.header.sequenceNumber ++ packet.payload } := by
  rw [wrapRtx, Js.writeUInt16BE, Js.writeUIntBE_natCast (by omega)]
  rfl

/-- The number in front of the payload is the original one. -/
lemma unwrapRtx_eq {rtx : RtpPacket} {n : ℕ} {payload : Bytes} (hn : n < 0x10000)
    (h : rtx.payload = BigEndian.encode 2 n ++ payload) (payloadType ssrc : ℕ) :
    unwrapRtx rtx payloadType ssrc = .ok {
      header := { payloadType, marker := rtx.header.marker, sequenceNumber := n,
                  timestamp := rtx.header.timestamp, ssrc }
      payload } := by
  have hread : readNat 2 rtx.payload 0 = n := by
    rw [h]
    exact readNat_append [] (by omega) List.length_nil payload
  have hlong : ¬ rtx.payload.length < 2 := by
    rw [h, List.length_append, BigEndian.length_encode]
    omega
  have hrest : rtx.payload.drop 2 = payload := by
    rw [h]
    exact List.drop_left' (BigEndian.length_encode 2 n)
  rw [unwrapRtx, if_neg hlong, hread, hrest]

/-! ## Header extensions -/

/-- The members of `RTP_EXTENSION_URI` that a sender writes, and all other identifiers. -/
inductive ExtensionUri
  | sdesMid
  | sdesRTPStreamID
  | repairedRtpStreamId
  | transportWideCC
  | absSendTime
  | other (uri : String)
deriving DecidableEq

/-- `NegotiatedHeaderExtension`. -/
structure NegotiatedHeaderExtension where
  id : ℕ
  uri : ExtensionUri
deriving DecidableEq

/-- `SendStreamIds`. -/
structure SendStreamIds where
  mid : Option String := none
  rtpStreamId : Option String := none
  repairedRtpStreamId : Option String := none

/-- `serializeTransportWideCC(transportSequenceNumber)` for a number of 16 bits. -/
def serializeTransportWideCC (transportSequenceNumber : ℕ) : Bytes :=
  BigEndian.encode 2 transportSequenceNumber

/-- `serializeAbsSendTime(ntpTime)`. -/
def serializeAbsSendTime (ntpTime : ℕ) : Bytes := BigEndian.encode 3 ((ntpTime >>> 14) % 0x1000000)

/-- A text that is there and not empty. -/
def truthy (text : Option String) : Option String := text.filter (· ≠ "")

/-- What a sender writes into a negotiated extension. -/
def NegotiatedHeaderExtension.payload (extension : NegotiatedHeaderExtension) (ids : SendStreamIds) :
    Option Bytes :=
  match extension.uri with
  | .sdesMid => (truthy ids.mid).map Js.encodeUtf8
  | .sdesRTPStreamID => (truthy ids.rtpStreamId).map Js.encodeUtf8
  | .repairedRtpStreamId => (truthy ids.repairedRtpStreamId).map Js.encodeUtf8
  | .transportWideCC => some (serializeTransportWideCC 0)
  | .absSendTime => some (serializeAbsSendTime 0)
  | .other _ => none

/-- One round of the loop of `buildSendHeaderExtensions`. -/
def mergeExtension (hopByHopIds : List ℕ) (extensions : List Extension) (ext : Extension) :
    List Extension :=
  if ext.id ∈ hopByHopIds then extensions
  else
    match extensions.findIdx? fun v => v.id == ext.id with
    | some i => extensions.modify i ({ · with payload := ext.payload })
    | none => extensions ++ [ext]

/-- `buildSendHeaderExtensions(original, negotiated, ids)`. -/
def buildSendHeaderExtensions (original : List Extension) (negotiated : List NegotiatedHeaderExtension)
    (ids : SendStreamIds) : List Extension :=
  let extensions := negotiated.filterMap fun extension =>
    (extension.payload ids).map fun payload => { id := extension.id, payload }
  let hopByHopIds := (negotiated.filter fun e => e.uri = .transportWideCC ∨ e.uri = .absSendTime).map (·.id)
  (original.foldl (mergeExtension hopByHopIds) extensions).mergeSort fun a b => a.id ≤ b.id

/-- The numbers that a transport gives to its packets. -/
structure TransportWideSequence where
  transportSequenceNumber : ℕ := 0
  transportSequenceNumberExtended : ℕ := 0
deriving DecidableEq

/-- `allocateTransportWideSequence()`. -/
def TransportWideSequence.allocate (t : TransportWideSequence) : TransportWideSequence :=
  let wireNow := t.transportSequenceNumber % 0x10000
  let extended :=
    if t.transportSequenceNumberExtended % 0x10000 ≠ wireNow then
      t.transportSequenceNumberExtended / 0x10000 * 0x10000 + wireNow
    else t.transportSequenceNumberExtended
  { transportSequenceNumberExtended := extended + 1
    transportSequenceNumber := (extended + 1) % 0x10000 }

/-- One round of the loop of `stampHopByHopExtensions`, with `twccOn` where the extension is
negotiated. -/
def stampExtension (negotiated : List NegotiatedHeaderExtension) (ntpTimestamp : ℕ)
    (t : TransportWideSequence) (ext : Extension) : TransportWideSequence × Extension :=
  match negotiated.find? fun e => e.id = ext.id with
  | none => (t, ext)
  | some extension =>
    if extension.uri = .transportWideCC then
      (t.allocate, { ext with payload := serializeTransportWideCC t.allocate.transportSequenceNumber })
    else if extension.uri = .absSendTime then
      (t, { ext with payload := serializeAbsSendTime ntpTimestamp })
    else (t, ext)

/-- `stampHopByHopExtensions(header, negotiated, ..)`: the extensions, and the numbers behind it. -/
def stampHopByHopExtensions (negotiated : List NegotiatedHeaderExtension) (ntpTimestamp : ℕ)
    (t : TransportWideSequence) : List Extension → TransportWideSequence × List Extension
  | [] => (t, [])
  | ext :: extensions =>
    let (t, ext) := stampExtension negotiated ntpTimestamp t ext
    let (t, extensions) := stampHopByHopExtensions negotiated ntpTimestamp t extensions
    (t, ext :: extensions)

end Werift.Rtp
