import Werift.Codec.Base

/-!
# VP8 payloads (`rtp/src/codec/vp8.ts`)

The parser of payload descriptors.  A field that the descriptor does not have is missing.
-/

namespace Werift.Codec

open Rtp (Bytes)

/-- `assertRtpCodecPayloadLength(buf, minLength, codec, offset)`. -/
def assertRtpCodecPayloadLength (buf : Bytes) (minLength : ℕ) (codec : String) (offset : ℕ) :
    Except String Unit :=
  if buf.length < offset + minLength then
    .error s!"{codec} RTP payload truncated: need {offset + minLength} bytes, got {buf.length}"
  else .ok ()

/-- The fields of a `Vp8RtpPayload`. -/
structure Vp8RtpPayload where
  xBit : ℕ
  nBit : ℕ
  sBit : ℕ
  pid : ℕ
  iBit : Option ℕ := none
  lBit : Option ℕ := none
  tBit : Option ℕ := none
  kBit : Option ℕ := none
  mBit : Option ℕ := none
  pictureId : Option ℕ := none
  payload : Bytes := []
  size0 : ℕ := 0
  hBit : Option ℕ := none
  ver : Option ℕ := none
  pBit : Option ℕ := none
  size1 : ℕ := 0
  size2 : ℕ := 0
deriving DecidableEq

namespace Vp8RtpPayload

/-- Whether a bit has been read and is set. -/
def isSet (bit : Option ℕ) : Bool := bit.any (· ≠ 0)

variable (p : Vp8RtpPayload) (buf : Bytes)

/-- The octet of the bits `I`, `L`, `T` and `K`, and the offset behind it. -/
def readExtension (offset : ℕ) : Except String (Vp8RtpPayload × ℕ) :=
  if p.xBit ≠ 0 then do
    assertRtpCodecPayloadLength buf 1 "VP8" offset
    let octet := buf.getD offset 0
    .ok ({ p with iBit := some (getBit octet 0 1), lBit := some (getBit octet 1 1),
                  tBit := some (getBit octet 2 1), kBit := some (getBit octet 3 1) }, offset + 1)
  else .ok (p, offset)

/-- The picture id of 7 or 15 bits. -/
def readPictureId (offset : ℕ) : Except String (Vp8RtpPayload × ℕ) :=
  if isSet p.iBit then do
    assertRtpCodecPayloadLength buf 1 "VP8" offset
    let octet := buf.getD offset 0
    let p := { p with mBit := some (getBit octet 0 1) }
    if getBit octet 0 1 ≠ 0 then do
      assertRtpCodecPayloadLength buf 2 "VP8" offset
      let low := buf.getD (offset + 1) 0
      .ok ({ p with pictureId := some (getBit octet 1 7 * 256 + low.toNat) }, offset + 2)
    else .ok ({ p with pictureId := some (getBit octet 1 7) }, offset + 1)
  else .ok (p, offset)

/-- The octets of `TL0PICIDX` and of `TID` and `KEYIDX`, which are skipped. -/
def skipIndices (offset : ℕ) : Except String ℕ := do
  let offset ←
    if isSet p.lBit then do
      assertRtpCodecPayloadLength buf 1 "VP8" offset
      .ok (offset + 1)
    else .ok offset
  if isSet p.lBit ∨ isSet p.kBit then do
    assertRtpCodecPayloadLength buf 1 "VP8" offset
    .ok (offset + 1)
  else .ok offset

/-- `payloadHeaderExist`. -/
def payloadHeaderExist : Bool := p.sBit = 1 ∧ p.pid = 0

/-- The header of the VP8 payload. -/
def readPayloadHeader (offset : ℕ) : Except String Vp8RtpPayload :=
  if p.payloadHeaderExist then do
    assertRtpCodecPayloadLength buf 3 "VP8" offset
    let octet := buf.getD offset 0
    .ok { p with size0 := getBit octet 0 3, hBit := some (getBit octet 3 1),
                 ver := some (getBit octet 4 3), pBit := some (getBit octet 7 1),
                 size1 := (buf.getD (offset + 1) 0).toNat, size2 := (buf.getD (offset + 2) 0).toNat }
  else .ok p

/-- `Vp8RtpPayload.deSerialize(buf)`. -/
def deSerialize (buf : Bytes) : Except String Vp8RtpPayload := do
  assertRtpCodecPayloadLength buf 1 "VP8" 0
  let octet := buf.getD 0 0
  let p : Vp8RtpPayload :=
    { xBit := getBit octet 0 1, nBit := getBit octet 2 1, sBit := getBit octet 3 1,
      pid := getBit octet 5 3 }
  let (p, offset) ← p.readExtension buf 1
  let (p, offset) ← p.readPictureId buf offset
  let offset ← p.skipIndices buf offset
  readPayloadHeader { p with payload := buf.drop offset } buf offset

/-- `isKeyframe`. -/
def isKeyframe : Bool := p.pBit = some 0

end Vp8RtpPayload

/-- The class `Vp8RtpPayload`. -/
def Vp8RtpPayload.class : DeSerialize := fun buf _ =>
  (Vp8RtpPayload.deSerialize buf).map fun p =>
    { payload := some p.payload, isKeyframe := p.isKeyframe }

end Werift.Codec
