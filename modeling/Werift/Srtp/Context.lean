import Werift.Srtp.Cipher

/-!
# SRTP contexts (`rtp/src/srtp/context/*.ts`)

A context keeps one state for each source.  `encryptRtp` and `decryptRtp` estimate the rollover
counter of a packet from it and commit the packet only when the cipher has succeeded.
-/

namespace Werift.Srtp

open Rtp (RtpHeader)
open Rtcp (RtcpHeader)
open Function (update)

/-- `SrtpProfile`. -/
inductive SrtpProfile
  /-- `ProtectionProfileAes128CmHmacSha1_80` -/
  | aes128CmHmacSha1_80
  /-- `ProtectionProfileAeadAes128Gcm` -/
  | aeadAes128Gcm
deriving DecidableEq

/-- `SrtcpSSRCState`. -/
structure SrtcpSSRCState where
  srtcpIndex : ℕ := 0
  ssrc : ℕ
deriving DecidableEq

/-- The fields of a `Context`. -/
structure Context where
  profile : SrtpProfile
  keys : SessionKeys
  srtpSSRCStates : ℕ → Option SrtpSsrcState := fun _ => none
  srtcpSSRCStates : ℕ → Option SrtcpSSRCState := fun _ => none

namespace Context

/-- `new Context(masterKey, masterSalt, profile)`. -/
def new (C : Crypto) (masterKey masterSalt : Bytes) (profile : SrtpProfile) : Context :=
  { profile, keys := sessionKeys C masterKey masterSalt }

variable (C : Crypto) (ctx : Context)

/-- `rtpAuthTagLength`. -/
def rtpAuthTagLength : ℕ :=
  match ctx.profile with
  | .aeadAes128Gcm => 16
  | .aes128CmHmacSha1_80 => 10

/-- `cipher.encryptRtp(header, payload, roc)`. -/
def cipherEncryptRtp (header : RtpHeader) (payload : Bytes) (roc : ℕ) : Except SrtpError Bytes :=
  match ctx.profile with
  | .aes128CmHmacSha1_80 => CipherAesCtr.encryptRtp C ctx.keys header payload roc
  | .aeadAes128Gcm => CipherAesGcm.encryptRtp C ctx.keys header payload roc

/-- `cipher.decryptRtp(cipherText, roc, header)`. -/
def cipherDecryptRtp (cipherText : Bytes) (roc : ℕ) (header : RtpHeader) :
    Except SrtpError (Bytes × RtpHeader) :=
  match ctx.profile with
  | .aes128CmHmacSha1_80 => CipherAesCtr.decryptRtp C ctx.keys cipherText roc header
  | .aeadAes128Gcm => CipherAesGcm.decryptRtp C ctx.keys cipherText roc header

/-- `cipher.encryptRTCP(rawRtcp, srtcpIndex)`. -/
def cipherEncryptRTCP (rawRtcp : Bytes) (srtcpIndex : ℕ) : Except SrtpError Bytes :=
  match ctx.profile with
  | .aes128CmHmacSha1_80 => CipherAesCtr.encryptRTCP C ctx.keys rawRtcp srtcpIndex
  | .aeadAes128Gcm => CipherAesGcm.encryptRTCP C ctx.keys rawRtcp srtcpIndex

/-- The state of a source, or the one that it begins with. -/
def srtpSsrcState (ssrc : ℕ) : SrtpSsrcState := (ctx.srtpSSRCStates ssrc).getD { ssrc }

/-- The state of a source of control packets, or the one that it begins with. -/
def srtcpSsrcState (ssrc : ℕ) : SrtcpSSRCState := (ctx.srtcpSSRCStates ssrc).getD { ssrc }

/-- The context with this state of a source. -/
def setSrtp (s : SrtpSsrcState) (ssrc : ℕ) : Context :=
  { ctx with srtpSSRCStates := update ctx.srtpSSRCStates ssrc (some s) }

/-- The context with this state of a source of control packets. -/
def setSrtcp (s : SrtcpSSRCState) (ssrc : ℕ) : Context :=
  { ctx with srtcpSSRCStates := update ctx.srtcpSSRCStates ssrc (some s) }

/-- `encryptRtp(payload, header)` of an `SrtpContext`, and the context behind it. -/
def encryptRtp (payload : Bytes) (header : RtpHeader) : Except SrtpError Bytes × Context :=
  let s := ctx.srtpSsrcState header.ssrc
  let ctx := ctx.setSrtp s header.ssrc
  match estimateRolloverCounter header.sequenceNumber s with
  | .error e => (.error e, ctx)
  | .ok roc =>
    match ctx.cipherEncryptRtp C header payload roc with
    | .error e => (.error e, ctx)
    | .ok enc => (.ok enc, ctx.setSrtp (commitPacketIndex header.sequenceNumber roc s) header.ssrc)

/-- The counter that `decryptRtp` uses for a packet: an overflow is an authentication error. -/
def decryptRolloverCounter (header : RtpHeader) : Except SrtpError ℕ :=
  match estimateRolloverCounter header.sequenceNumber (ctx.srtpSsrcState header.ssrc) with
  | .error (.rolloverCounterOverflow message) => .error (.authentication message)
  | result => result

/-- The packet that `decryptRtp` returns, with the counter that it has estimated. -/
def openRtp (cipherText : Bytes) : Except SrtpError (RtpHeader × ℕ × Bytes × RtpHeader) := do
  let header ← parseSrtpRtpHeader cipherText ctx.rtpAuthTagLength
  let roc ← ctx.decryptRolloverCounter header
  let dec ← ctx.cipherDecryptRtp C cipherText roc header
  return (header, roc, dec)

/-- `decryptRtp(cipherText)` of an `SrtpContext`, and the context behind it. -/
def decryptRtp (cipherText : Bytes) : Except SrtpError (Bytes × RtpHeader) × Context :=
  match ctx.openRtp C cipherText with
  | .error e => (.error e, ctx)
  | .ok (header, roc, dec) =>
    let s := ctx.srtpSsrcState header.ssrc
    (.ok dec, ctx.setSrtp (commitPacketIndex header.sequenceNumber roc s) header.ssrc)

/-- `index(ssrc)`. -/
def index (ssrc : ℕ) : ℕ := (ctx.srtcpSsrcState ssrc).srtcpIndex

/-- `setIndex(ssrc, index)`. -/
def setIndex (ssrc index : ℕ) : Context :=
  ctx.setSrtcp { ctx.srtcpSsrcState ssrc with srtcpIndex := index % 0x7fffffff } ssrc

/-- The index behind this one: `s.srtcpIndex++`, and zero when `s.srtcpIndex >> 0x7fffffff`. -/
def nextSrtcpIndex (srtcpIndex : ℕ) : ℕ :=
  if Js.shiftRight (srtcpIndex + 1 : ℕ) 0x7fffffff ≠ 0 then 0 else srtcpIndex + 1

/-- `encryptRTCP(rawRtcp)` of an `SrtcpContext`, and the context behind it. -/
def encryptRTCP (rawRtcp : Bytes) : Except SrtpError Bytes × Context :=
  match orThrow (Js.readUInt32BE rawRtcp 4) with
  | .error e => (.error e, ctx)
  | .ok ssrc =>
    let s := ctx.srtcpSsrcState ssrc.toNat
    let srtcpIndex := nextSrtcpIndex s.srtcpIndex
    (ctx.cipherEncryptRTCP C rawRtcp srtcpIndex, ctx.setSrtcp { s with srtcpIndex } ssrc.toNat)

/-- `decryptRTCP(encrypted)` of an `SrtcpContext`. -/
def decryptRTCP (encrypted : Bytes) : Except SrtpError (Bytes × RtcpHeader) :=
  match ctx.profile with
  | .aes128CmHmacSha1_80 => CipherAesCtr.decryptRTCP C ctx.keys encrypted
  | .aeadAes128Gcm => CipherAesGcm.decryptRTCP C ctx.keys encrypted

end Context

end Werift.Srtp
