import Werift.Lib.CounterMode
import Werift.Lib.Except
import Werift.Rtcp.Header
import Werift.Rtp.Header
import Werift.Srtp.Rollover

/-!
# The SRTP ciphers (`rtp/src/srtp/packet.ts`, `rtp/src/srtp/cipher/*.ts`)

The functions of `node:crypto` are parameters: the block cipher AES-128, the HMAC and the tag of GCM.
Counter mode and the stream of GCM are built from the block cipher.
-/

namespace Werift.Srtp

open BigEndian
open Rtp (RtpHeader)
open Rtcp (RtcpHeader RTCP_HEADER_SIZE)

/-- The bytes of a buffer. -/
abbrev Bytes := List UInt8

/-- The functions of `node:crypto`; a digest of SHA-1 has 20 bytes and a tag of GCM has 16. -/
structure Crypto where
  aes128 : (key block : Bytes) → Bytes
  hmacSha1 : (key data : Bytes) → Bytes
  gcmTag : (key iv aad cipherText : Bytes) → Bytes
  length_hmacSha1 : ∀ key data, (hmacSha1 key data).length = 20
  length_gcmTag : ∀ key iv aad cipherText, (gcmTag key iv aad cipherText).length = 16

/-- `createCipheriv("aes-128-ctr", key, counter).update(data)`, and the same of the decipher. -/
def Crypto.aes128Ctr (C : Crypto) (key counter data : Bytes) : Bytes :=
  CounterMode.crypt (fun j => C.aes128 key (CounterMode.counterBlock counter j)) data

/-- `createCipheriv("aes-128-gcm", key, iv).update(data)`, and the same of the decipher. -/
def Crypto.aes128Gcm (C : Crypto) (key iv data : Bytes) : Bytes :=
  CounterMode.crypt (fun j => C.aes128 key (iv ++ encode 4 (j + 2))) data

/-- Errors that are no errors of SRTP. -/
def orThrow {α : Type} : Option α → Except SrtpError α
  | some a => .ok a
  | none => .error .error

/-! ## Headers -/

/-- `assertAuthenticatedPacketLength(condition, message)`, and the check of a tag. -/
def assertAuthenticated (condition : Prop) [Decidable condition] (message : String) :
    Except SrtpError Unit :=
  if condition then .ok () else .error (.authentication message)

/-- The message of a packet that is not authentic. -/
def failedSrtp : String := "Failed to authenticate SRTP packet"

/-- The message of a control packet that is not authentic. -/
def failedSrtcp : String := "Failed to authenticate SRTCP packet"

/-- `parseSrtpRtpHeader(packet, authTagLength)`. -/
def parseSrtpRtpHeader (packet : Bytes) (authTagLength : ℕ) : Except SrtpError RtpHeader := do
  let authTagOffset := packet.length - authTagLength
  assertAuthenticated (12 + authTagLength ≤ packet.length) failedSrtp
  match RtpHeader.deSerialize (packet.take authTagOffset) false with
  | .error _ => throw (.authentication failedSrtp)
  | .ok header =>
    assertAuthenticated (12 ≤ header.payloadOffset ∧ header.payloadOffset ≤ authTagOffset) failedSrtp
    return { header with paddingSize := 0 }

/-- `parseSrtcpHeader(packet, authTagLength, srtcpIndexSize)`. -/
def parseSrtcpHeader (packet : Bytes) (authTagLength srtcpIndexSize : ℕ) :
    Except SrtpError RtcpHeader := do
  assertAuthenticated (8 + authTagLength + srtcpIndexSize ≤ packet.length) failedSrtcp
  match RtcpHeader.deSerialize (packet.take RTCP_HEADER_SIZE) with
  | none => throw (.authentication failedSrtcp)
  | some header => return header

/-- `finalizeSrtpRtpHeader(header, packet)`. -/
def finalizeSrtpRtpHeader (header : RtpHeader) (packet : Bytes) : Except SrtpError RtpHeader := do
  if !header.padding then return { header with paddingSize := 0 }
  else
    assertAuthenticated (header.payloadOffset < packet.length) failedSrtp
    let paddingSize := (packet.getD (packet.length - 1) 0).toNat
    assertAuthenticated (0 < paddingSize ∧ paddingSize ≤ packet.length - header.payloadOffset)
      failedSrtp
    return { header with paddingSize }

/-! ## Keys -/

/-- The session keys of a `Context`. -/
structure SessionKeys where
  srtpSessionKey : Bytes
  srtpSessionSalt : Bytes
  srtpSessionAuthTag : Bytes
  srtcpSessionKey : Bytes
  srtcpSessionSalt : Bytes
  srtcpSessionAuthTag : Bytes
deriving DecidableEq

/-- The block that a session key of this label is derived from. -/
def derivationBlock (masterSalt : Bytes) (label : UInt8) (counter : UInt8) : Bytes :=
  masterSalt.modify (masterSalt.length - 7) (· ^^^ label) ++ [0x00, counter]

/-- `generateSessionKey(label)`. -/
def generateSessionKey (C : Crypto) (masterKey masterSalt : Bytes) (label : UInt8) : Bytes :=
  C.aes128 masterKey (derivationBlock masterSalt label 0x00)

/-- `generateSessionSalt(label)`. -/
def generateSessionSalt (C : Crypto) (masterKey masterSalt : Bytes) (label : UInt8) : Bytes :=
  (C.aes128 masterKey (derivationBlock masterSalt label 0x00)).take 14

/-- `generateSessionAuthTag(label)`. -/
def generateSessionAuthTag (C : Crypto) (masterKey masterSalt : Bytes) (label : UInt8) : Bytes :=
  C.aes128 masterKey (derivationBlock masterSalt label 0x00) ++
    (C.aes128 masterKey (derivationBlock masterSalt label 0x01)).take 4

/-- The session keys that the constructor of a `Context` derives. -/
def sessionKeys (C : Crypto) (masterKey masterSalt : Bytes) : SessionKeys :=
  let masterSalt := masterSalt ++ List.replicate (14 - masterSalt.length) 0
  { srtpSessionKey := generateSessionKey C masterKey masterSalt 0
    srtpSessionSalt := generateSessionSalt C masterKey masterSalt 2
    srtpSessionAuthTag := generateSessionAuthTag C masterKey masterSalt 1
    srtcpSessionKey := generateSessionKey C masterKey masterSalt 3
    srtcpSessionSalt := generateSessionSalt C masterKey masterSalt 5
    srtcpSessionAuthTag := generateSessionAuthTag C masterKey masterSalt 4 }

/-! ## AES in counter mode with HMAC-SHA1 -/

namespace CipherAesCtr

variable (C : Crypto) (k : SessionKeys)

/-- `authTagLength`. -/
def authTagLength : ℕ := 10

/-- `srtcpIndexSize`. -/
def srtcpIndexSize : ℕ := 4

/-- `generateSrtpAuthTag(roc, ...buffers)`. -/
def generateSrtpAuthTag (roc : ℕ) (buffers : List Bytes) : Except SrtpError Bytes := do
  let rocRaw ← orThrow (Js.writeUInt32BE roc)
  return (C.hmacSha1 k.srtpSessionAuthTag (buffers.flatten ++ rocRaw)).take authTagLength

/-- `generateSrtcpAuthTag(buf)`. -/
def generateSrtcpAuthTag (buf : Bytes) : Bytes :=
  (C.hmacSha1 k.srtcpSessionAuthTag buf).take authTagLength

/-- `generateCounter(sequenceNumber, rolloverCounter, ssrc, sessionSalt)`. -/
def generateCounter (sequenceNumber rolloverCounter : ℤ) (ssrc : ℕ) (sessionSalt : Bytes) :
    Except SrtpError Bytes := do
  let ssrc ← orThrow (Js.writeUInt32BE ssrc)
  let rolloverCounter ← orThrow (Js.writeUInt32BE rolloverCounter)
  let sequenceNumber ← orThrow (Js.writeUInt32BE (sequenceNumber * 65536))
  return CounterMode.mask sessionSalt
    (List.replicate 4 0 ++ ssrc ++ rolloverCounter ++ sequenceNumber)

/-- `encryptRtp(header, payload, rolloverCounter)`. -/
def encryptRtp (header : RtpHeader) (payload : Bytes) (rolloverCounter : ℕ) :
    Except SrtpError Bytes := do
  let headerBuffer ← orThrow header.serialize
  let counter ← generateCounter header.sequenceNumber rolloverCounter header.ssrc k.srtpSessionSalt
  let enc := C.aes128Ctr k.srtpSessionKey counter payload
  let authTag ← generateSrtpAuthTag C k rolloverCounter [headerBuffer, enc]
  return headerBuffer ++ enc ++ authTag

/-- `decryptRtp(cipherText, rolloverCounter, header)`. -/
def decryptRtp (cipherText : Bytes) (rolloverCounter : ℕ) (header : RtpHeader) :
    Except SrtpError (Bytes × RtpHeader) := do
  let authTagOffset := cipherText.length - authTagLength
  let encryptedPacket := cipherText.take authTagOffset
  let actualAuthTag := cipherText.drop authTagOffset
  let expectedAuthTag ← generateSrtpAuthTag C k rolloverCounter
    [encryptedPacket.take header.payloadOffset, encryptedPacket.drop header.payloadOffset]
  assertAuthenticated (actualAuthTag = expectedAuthTag) failedSrtp
  let counter ← generateCounter header.sequenceNumber rolloverCounter header.ssrc k.srtpSessionSalt
  let payload := encryptedPacket.drop header.payloadOffset
  let dst := encryptedPacket.take header.payloadOffset ++
    C.aes128Ctr k.srtpSessionKey counter payload
  let header ← finalizeSrtpRtpHeader header dst
  return (dst, header)

/-- `encryptRTCP(rtcpPacket, srtcpIndex)`. -/
def encryptRTCP (rtcpPacket : Bytes) (srtcpIndex : ℕ) : Except SrtpError Bytes := do
  let ssrc ← orThrow (Js.readUInt32BE rtcpPacket 4)
  let counter ← generateCounter (Js.bitAnd srtcpIndex 0xffff) (Js.shiftRight srtcpIndex 16)
    ssrc.toNat k.srtcpSessionSalt
  let buf := C.aes128Ctr k.srtcpSessionKey counter (rtcpPacket.drop 8)
  let index ← orThrow (Js.writeUInt32BE srtcpIndex)
  let out := rtcpPacket.take 8 ++ buf ++ index.modify 0 (· ||| 0x80)
  return out ++ generateSrtcpAuthTag C k out

/-- `decryptRTCP(encrypted)`. -/
def decryptRTCP (encrypted : Bytes) : Except SrtpError (Bytes × RtcpHeader) := do
  let header ← parseSrtcpHeader encrypted authTagLength srtcpIndexSize
  let tailOffset := encrypted.length - (authTagLength + srtcpIndexSize)
  let authenticatedPortion := encrypted.take (encrypted.length - authTagLength)
  let actualTag := encrypted.drop (encrypted.length - authTagLength)
  assertAuthenticated (actualTag = generateSrtcpAuthTag C k authenticatedPortion) failedSrtcp
  let out := encrypted.take tailOffset
  if encrypted.getD tailOffset 0 >>> 7 = 0 then return (out, header)
  else
    let srtcpIndex ← orThrow (Js.readUInt32BE encrypted tailOffset)
    let srtcpIndex := Js.bitAnd srtcpIndex (Js.bitNot (Js.shiftLeft 1 31))
    let ssrc ← orThrow (Js.readUInt32BE encrypted 4)
    let counter ← generateCounter (Js.bitAnd srtcpIndex 0xffff) (Js.shiftRight srtcpIndex 16)
      ssrc.toNat k.srtcpSessionSalt
    return (out.take 8 ++ C.aes128Ctr k.srtcpSessionKey counter (out.drop 8), header)

end CipherAesCtr

/-! ## AES in Galois counter mode -/

namespace CipherAesGcm

variable (C : Crypto) (k : SessionKeys)

/-- `aeadAuthTagLen`. -/
def aeadAuthTagLen : ℕ := 16

/-- `srtcpIndexSize`. -/
def srtcpIndexSize : ℕ := 4

/-- `decipher.setAuthTag(authTag)` and `finalizeAuthenticatedDecryption(decipher, …)`: a tag of the
wrong length is an error of another kind. -/
def checkAuthTag (key iv aad cipherText authTag : Bytes) (message : String) :
    Except SrtpError Unit := do
  if authTag.length ≠ aeadAuthTagLen then throw .error
  assertAuthenticated (authTag = C.gcmTag key iv aad cipherText) message

/-- `rtpInitializationVector(header, rolloverCounter)`. -/
def rtpInitializationVector (header : RtpHeader) (rolloverCounter : ℕ) : Except SrtpError Bytes := do
  let ssrc ← orThrow (Js.writeUInt32BE header.ssrc)
  let rolloverCounter ← orThrow (Js.writeUInt32BE rolloverCounter)
  let sequenceNumber ← orThrow (Js.writeUInt16BE header.sequenceNumber)
  return CounterMode.mask k.srtpSessionSalt
    (List.replicate 2 0 ++ ssrc ++ rolloverCounter ++ sequenceNumber)

/-- `rtcpInitializationVector(ssrc, srtcpIndex)`. -/
def rtcpInitializationVector (ssrc : ℕ) (srtcpIndex : ℤ) : Except SrtpError Bytes := do
  let ssrc ← orThrow (Js.writeUInt32BE ssrc)
  let index ← orThrow (Js.writeUInt32BE srtcpIndex)
  return CounterMode.mask k.srtcpSessionSalt
    (List.replicate 2 0 ++ ssrc ++ List.replicate 2 0 ++ index)

/-- `rtcpAdditionalAuthenticatedData(rtcpPacket, srtcpIndex)`. -/
def rtcpAdditionalAuthenticatedData (rtcpPacket : Bytes) (srtcpIndex : ℕ) :
    Except SrtpError Bytes := do
  let index ← orThrow (Js.writeUInt32BE srtcpIndex)
  return (rtcpPacket.take 8 ++ index).modify 8 (· ||| 0x80)

/-- `encryptRtp(header, payload, rolloverCounter)`. -/
def encryptRtp (header : RtpHeader) (payload : Bytes) (rolloverCounter : ℕ) :
    Except SrtpError Bytes := do
  let hdr ← orThrow header.serialize
  let iv ← rtpInitializationVector k header rolloverCounter
  let enc := C.aes128Gcm k.srtpSessionKey iv payload
  return hdr ++ enc ++ C.gcmTag k.srtpSessionKey iv hdr enc

/-- `decryptRtp(cipherText, rolloverCounter, header)`. -/
def decryptRtp (cipherText : Bytes) (rolloverCounter : ℕ) (header : RtpHeader) :
    Except SrtpError (Bytes × RtpHeader) := do
  let headerBuffer := cipherText.take header.payloadOffset
  let authTagOffset := cipherText.length - aeadAuthTagLen
  let authTag := cipherText.drop authTagOffset
  let iv ← rtpInitializationVector k header rolloverCounter
  let enc := Js.slice cipherText header.payloadOffset authTagOffset
  checkAuthTag C k.srtpSessionKey iv headerBuffer enc authTag failedSrtp
  let dst := headerBuffer ++ C.aes128Gcm k.srtpSessionKey iv enc
  let header ← finalizeSrtpRtpHeader header dst
  return (dst, header)

/-- `encryptRTCP(rtcpPacket, srtcpIndex)`. -/
def encryptRTCP (rtcpPacket : Bytes) (srtcpIndex : ℕ) : Except SrtpError Bytes := do
  let ssrc ← orThrow (Js.readUInt32BE rtcpPacket 4)
  let iv ← rtcpInitializationVector k ssrc.toNat srtcpIndex
  let aad ← rtcpAdditionalAuthenticatedData rtcpPacket srtcpIndex
  let enc := C.aes128Gcm k.srtcpSessionKey iv (rtcpPacket.drop 8)
  return rtcpPacket.take 8 ++ enc ++ C.gcmTag k.srtcpSessionKey iv aad enc ++ Js.slice aad 8 12

/-- `decryptRTCP(encrypted)`. -/
def decryptRTCP (encrypted : Bytes) : Except SrtpError (Bytes × RtcpHeader) := do
  let header ← parseSrtcpHeader encrypted aeadAuthTagLen srtcpIndexSize
  let srtcpIndexOffset := encrypted.length - srtcpIndexSize
  let authTagOffset := srtcpIndexOffset - aeadAuthTagLen
  let ssrc ← orThrow (Js.readUInt32BE encrypted 4)
  let encodedSrtcpIndex ← orThrow (Js.readUInt32BE encrypted srtcpIndexOffset)
  let isEncrypted := decide (encodedSrtcpIndex.toNat >>> 31 = 1)
  let srtcpIndex := Js.bitAnd encodedSrtcpIndex (Js.bitNot (Js.shiftLeft 0x80 24))
  let iv ← rtcpInitializationVector k ssrc.toNat srtcpIndex
  let aad := if isEncrypted then encrypted.take 8 ++ encrypted.drop srtcpIndexOffset
    else encrypted.take authTagOffset ++ encrypted.drop srtcpIndexOffset
  let cipherText := if isEncrypted then Js.slice encrypted 8 authTagOffset else []
  checkAuthTag C k.srtcpSessionKey iv aad cipherText
    (Js.slice encrypted authTagOffset srtcpIndexOffset) failedSrtcp
  let dst := if isEncrypted then
      encrypted.take 8 ++ C.aes128Gcm k.srtcpSessionKey iv cipherText
    else encrypted.take authTagOffset
  return (dst, header)

end CipherAesGcm

end Werift.Srtp
