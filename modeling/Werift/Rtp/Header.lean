import Werift.Common.Binary

/-!
# RTP headers and packets (`rtp/src/rtp/rtp.ts`)

`RtpHeader.deSerialize` walks through the elements of a header extension with a cursor.  Here the
elements are read from the bytes of the extension area, and what the cursor has not reached is the
number of bytes that are left.
-/

namespace Werift.Rtp

open BigEndian

/-- The bytes of a buffer. -/
abbrev Bytes := List UInt8

/-- A header extension. -/
structure Extension where
  id : ℕ
  payload : Bytes
deriving DecidableEq

/-- `ExtensionProfiles.OneByte`. -/
def oneByteProfile : ℕ := 0xbede

/-- `ExtensionProfiles.TwoByte`. -/
def twoByteProfile : ℕ := 0x1000

/-- The fields of an `RtpHeader`. -/
structure RtpHeader where
  version : ℕ := 2
  padding : Bool := false
  paddingSize : ℕ := 0
  extension : Bool := false
  marker : Bool := false
  payloadOffset : ℕ := 0
  payloadType : ℕ := 0
  sequenceNumber : ℕ := 0
  timestamp : ℕ := 0
  ssrc : ℕ := 0
  csrcLength : ℕ := 0
  csrc : List ℕ := []
  extensionProfile : ℕ := oneByteProfile
  extensionLength : Option ℕ := none
  extensions : List Extension := []
deriving DecidableEq

/-- An `RtpPacket`. -/
structure RtpPacket where
  header : RtpHeader
  payload : Bytes
deriving DecidableEq

/-- `isPaddingOnlyRtpPacket(packet)`. -/
def isPaddingOnlyRtpPacket (packet : RtpPacket) : Bool :=
  packet.header.padding && packet.payload.isEmpty

/-! ## Reading -/

/-- The elements of an extension area of the one-byte profile, and how many bytes are left when an
element with the id 15 has been met. -/
def oneByteElements : Bytes → Except String (List Extension × ℕ)
  | [] => .ok ([], 0)
  | b :: rest =>
    if b = 0x00 then oneByteElements rest
    else
      let extId := b.toNat >>> 4
      let len := (b &&& (b ^^^ 0xf0)).toNat + 1
      if extId = 0xf then .ok ([], rest.length)
      else if rest.length < len then .error "RTP header extension truncated"
      else
        match oneByteElements (rest.drop len) with
        | .error e => .error e
        | .ok (extensions, left) => .ok (⟨extId, rest.take len⟩ :: extensions, left)
termination_by area => area.length
decreasing_by
  all_goals simp only [List.length_drop, List.length_cons]; omega

/-- The elements of an extension area of the two-byte profile. -/
def twoByteElements : Bytes → Except String (List Extension)
  | [] => .ok []
  | b :: rest =>
    if b = 0x00 then twoByteElements rest
    else
      match rest with
      | [] => .error "RTP header extension truncated"
      | l :: rest =>
        let len := l.toNat
        if rest.length < len then .error "RTP header extension truncated"
        else
          match twoByteElements (rest.drop len) with
          | .error e => .error e
          | .ok extensions => .ok (⟨b.toNat, rest.take len⟩ :: extensions)
termination_by area => area.length
decreasing_by
  all_goals simp only [List.length_drop, List.length_cons]; omega

/-- The `switch` over the profile: the extensions of an area, and the number of bytes left. -/
def readExtensions (extensionProfile : ℕ) (area : Bytes) : Except String (List Extension × ℕ) :=
  if extensionProfile = oneByteProfile then oneByteElements area
  else if extensionProfile = twoByteProfile then (twoByteElements area).map fun l => (l, 0)
  else .ok ([⟨0, area⟩], 0)

namespace RtpHeader

/-- The fixed part of a header and its contributing sources. -/
def fixedPart (rawPacket : Bytes) : RtpHeader :=
  let v_p_x_cc := rawPacket.getD 0 0
  let m_pt := rawPacket.getD 1 0
  let csrcLength := getBit v_p_x_cc 4 4
  { version := getBit v_p_x_cc 0 2
    padding := 0 < getBit v_p_x_cc 2 1
    extension := 0 < getBit v_p_x_cc 3 1
    csrcLength
    marker := 0 < getBit m_pt 0 1
    payloadType := getBit m_pt 1 7
    sequenceNumber := readNat 2 rawPacket 2
    timestamp := readNat 4 rawPacket 4
    ssrc := readNat 4 rawPacket 8
    csrc := (List.range csrcLength).map fun i => readNat 4 rawPacket (12 + i * 4)
    payloadOffset := 12 + csrcLength * 4 }

/-- The extension of a header, which begins at `h.payloadOffset`. -/
def readExtension (h : RtpHeader) (rawPacket : Bytes) : Except String RtpHeader :=
  let currOffset := h.payloadOffset
  if rawPacket.length < currOffset + 4 then .error "RTP packet too short"
  else
    let extensionProfile := readNat 2 rawPacket currOffset
    let extensionLength := readNat 2 rawPacket (currOffset + 2) * 4
    let area := Js.slice rawPacket (currOffset + 4) (currOffset + 4 + extensionLength)
    if rawPacket.length < currOffset + 4 + extensionLength then .error "RTP packet too short"
    else
      match readExtensions extensionProfile area with
      | .error e => .error e
      | .ok (extensions, left) => .ok { h with
          extensionProfile
          extensionLength := some extensionLength
          extensions
          payloadOffset := currOffset + 4 + extensionLength - left }

/-- `applyRtpPaddingSize(header, rawPacket, validatePadding)`. -/
def applyRtpPaddingSize (h : RtpHeader) (rawPacket : Bytes) (validatePadding : Bool) :
    Except String RtpHeader :=
  if !h.padding then .ok { h with paddingSize := 0 }
  else
    let paddingSize := (rawPacket.getD (rawPacket.length - 1) 0).toNat
    let remaining := rawPacket.length - h.payloadOffset
    if validatePadding && (decide (paddingSize < 1) || decide (remaining < paddingSize)) then
      .error "invalid RTP padding size"
    else .ok { h with paddingSize }

/-- `RtpHeader.deSerialize(rawPacket, { validatePadding })`. -/
def deSerialize (rawPacket : Bytes) (validatePadding : Bool) : Except String RtpHeader := do
  if rawPacket.length < 12 then throw "RTP packet too short"
  let h := fixedPart rawPacket
  if rawPacket.length < 12 + h.csrcLength * 4 then throw "RTP packet too short"
  let h ← if h.extension then h.readExtension rawPacket else pure h
  if rawPacket.length < h.payloadOffset then throw "RTP packet too short"
  h.applyRtpPaddingSize rawPacket validatePadding

end RtpHeader

/-- `RtpPacket.deSerialize(buf)`. -/
def RtpPacket.deSerialize (buf : Bytes) : Except String RtpPacket := do
  let header ← RtpHeader.deSerialize buf true
  return { header, payload := Js.slice buf header.payloadOffset (buf.length - header.paddingSize) }

/-! ## Writing -/

namespace RtpHeader

/-- Whether `serialize` writes an extension. -/
def writesExtension (h : RtpHeader) : Bool := h.extension || !h.extensions.isEmpty

/-- The octet in front of the payload of a one-byte element. -/
def oneByteOctet (extension : Extension) : ℤ :=
  Js.bitOr (Js.shiftLeft extension.id 4) (extension.payload.length - 1)

/-- An element of the one-byte profile. -/
def oneByteElement (extension : Extension) : Option Bytes :=
  if extension.payload.length < 1 then none
  else (Js.writeUInt8 (oneByteOctet extension)).map (· ++ extension.payload)

/-- An element of the two-byte profile. -/
def twoByteElement (extension : Extension) : Option Bytes := do
  let id ← Js.writeUInt8 extension.id
  let length ← Js.writeUInt8 extension.payload.length
  return id ++ length ++ extension.payload

/-- The elements of an extension, without the zeros behind them. -/
def elements (h : RtpHeader) : Option Bytes :=
  if h.extensionProfile = oneByteProfile then
    (h.extensions.mapM oneByteElement).map List.flatten
  else if h.extensionProfile = twoByteProfile then
    (h.extensions.mapM twoByteElement).map List.flatten
  else
    match h.extensions with
    | [] => none
    | extension :: _ =>
      if extension.payload.length % 4 ≠ 0 then none else some extension.payload

/-- `roundedExtSize`. -/
def roundedExtSize (extSize : ℕ) : ℕ := (extSize + 3) / 4 * 4

/-- The extension of a header. -/
def extensionBytes (h : RtpHeader) : Option Bytes := do
  let profile ← Js.writeUInt16BE h.extensionProfile
  let elements ← h.elements
  let length ← Js.writeUInt16BE (roundedExtSize elements.length / 4 : ℕ)
  return profile ++ length ++ elements ++
    List.replicate (roundedExtSize elements.length - elements.length) 0

/-- `serialize(size)` without the zeros behind the header: `size` is never smaller than it. -/
def serialize (h : RtpHeader) : Option Bytes := do
  let v_p_x_cc ← Js.writeUInt8 (bitWriter 8 [(2, 0, h.version), (1, 2, h.padding.toNat),
    (1, 3, h.writesExtension.toNat), (4, 4, h.csrc.length)] : ℕ)
  let m_pt ← Js.writeUInt8 (bitWriter 8 [(1, 0, h.marker.toNat), (7, 1, h.payloadType)] : ℕ)
  let sequenceNumber ← Js.writeUInt16BE h.sequenceNumber
  let timestamp ← Js.writeUInt32BE h.timestamp
  let ssrc ← Js.writeUInt32BE h.ssrc
  let csrc ← h.csrc.mapM fun (csrc : ℕ) => Js.writeUInt32BE csrc
  let extension ← if h.writesExtension then h.extensionBytes else some []
  return v_p_x_cc ++ m_pt ++ sequenceNumber ++ timestamp ++ ssrc ++ csrc.flatten ++ extension

end RtpHeader

/-- `serialize()`.  The padding is zeros and its own length. -/
def RtpPacket.serialize (packet : RtpPacket) : Option Bytes :=
  let h := packet.header
  if h.padding && (decide (h.paddingSize < 1) || decide (255 < h.paddingSize)) then none
  else do
    let header ← h.serialize
    let padding ← if h.padding then
        (Js.writeUInt8 h.paddingSize).map (List.replicate (h.paddingSize - 1) 0 ++ ·)
      else some []
    return header ++ packet.payload ++ padding

end Werift.Rtp
