import Werift.Rtp.RoundTrip
import Werift.Srtp.Context

/-!
# Sealed packets

A packet that `encryptRtp` returns is the header, the ciphertext and the tag.  Opened with the same
counter it gives the header and the payload back; only a wrong padding is refused then.
-/

namespace Werift.Srtp

open BigEndian
open Rtp (RtpHeader SameFields)

variable {C : Crypto} {k : SessionKeys} {h h' : RtpHeader} {hdr body tag payload : Bytes} {roc : ℕ}

/-! ## Counters and initialization vectors -/

lemma orThrow_some {α : Type} (a : α) : orThrow (some a) = .ok a := by
  simp [orThrow]

lemma assertAuthenticated_of {condition : Prop} [Decidable condition] {message : String}
    (hcondition : condition) : assertAuthenticated condition message = .ok () := by
  rw [assertAuthenticated, if_pos hcondition]

lemma assertAuthenticated_not {condition : Prop} [Decidable condition] {message : String}
    (hcondition : ¬ condition) :
    assertAuthenticated condition message = .error (.authentication message) := by
  rw [assertAuthenticated, if_neg hcondition]

lemma orThrow_writeUIntBE {n : ℕ} {width : ℕ} (hn : n < 256 ^ width) :
    orThrow (Js.writeUIntBE width n) = .ok (encode width n) := by
  rw [Js.writeUIntBE_natCast hn]
  rfl

/-- The counter block of a packet. -/
def CipherAesCtr.counter (sequenceNumber rolloverCounter ssrc : ℕ) (sessionSalt : Bytes) : Bytes :=
  CounterMode.mask sessionSalt (List.replicate 4 0 ++ encode 4 ssrc ++ encode 4 rolloverCounter ++
    encode 4 (sequenceNumber * 65536))

lemma CipherAesCtr.generateCounter_eq {sequenceNumber rolloverCounter ssrc : ℕ}
    (hseq : sequenceNumber < 2 ^ 16) (hroc : rolloverCounter < 2 ^ 32) (hssrc : ssrc < 2 ^ 32)
    (sessionSalt : Bytes) :
    generateCounter sequenceNumber rolloverCounter ssrc sessionSalt =
      .ok (counter sequenceNumber rolloverCounter ssrc sessionSalt) := by
  have hshift : ((sequenceNumber : ℤ) * 65536) = (sequenceNumber * 65536 : ℕ) := by push_cast; rfl
  rw [generateCounter, hshift, Js.writeUInt32BE, Js.writeUInt32BE, Js.writeUInt32BE,
    orThrow_writeUIntBE (by omega), orThrow_writeUIntBE (by omega), orThrow_writeUIntBE (by omega)]
  rfl

lemma CipherAesCtr.generateSrtpAuthTag_eq (hroc : roc < 2 ^ 32) (buffers : List Bytes) :
    generateSrtpAuthTag C k roc buffers =
      .ok ((C.hmacSha1 k.srtpSessionAuthTag (buffers.flatten ++ encode 4 roc)).take 10) := by
  rw [generateSrtpAuthTag, Js.writeUInt32BE, orThrow_writeUIntBE (by omega)]
  rfl

/-- The initialization vector of a packet. -/
def CipherAesGcm.rtpIv (k : SessionKeys) (sequenceNumber rolloverCounter ssrc : ℕ) : Bytes :=
  CounterMode.mask k.srtpSessionSalt (List.replicate 2 0 ++ encode 4 ssrc ++
    encode 4 rolloverCounter ++ encode 2 sequenceNumber)

lemma CipherAesGcm.rtpInitializationVector_eq (hseq : h.sequenceNumber < 2 ^ 16)
    (hroc : roc < 2 ^ 32) (hssrc : h.ssrc < 2 ^ 32) :
    rtpInitializationVector k h roc = .ok (rtpIv k h.sequenceNumber roc h.ssrc) := by
  rw [rtpInitializationVector, Js.writeUInt32BE, Js.writeUInt32BE, Js.writeUInt16BE,
    orThrow_writeUIntBE (by omega), orThrow_writeUIntBE (by omega), orThrow_writeUIntBE (by omega)]
  rfl

/-! ## The header of a sealed packet -/

/-- **The header of a sealed packet is parsed**, although its payload is not readable yet. -/
lemma parse_sealed (hin : h.InRange) (hfits : h.Representable) (hhdr : h.serialize = some hdr)
    (body tag : Bytes) : ∃ h', parseSrtpRtpHeader (hdr ++ (body ++ tag)) tag.length = .ok h' ∧
      h'.payloadOffset = hdr.length ∧ SameFields h { h' with paddingSize := h.paddingSize } := by
  obtain ⟨-, h₁, hreads, hoffset, hsame⟩ := Rtp.readsTo_written hin hfits hhdr body
  have hlength : 12 ≤ hdr.length := by
    rw [RtpHeader.serialize_eq hin] at hhdr
    obtain ⟨ext, -, rfl⟩ := Option.map_eq_some_iff.mp hhdr
    rw [List.length_append, List.length_append, h.length_fixedBytes]
    omega
  have htake : (hdr ++ (body ++ tag)).take ((hdr ++ (body ++ tag)).length - tag.length) =
      hdr ++ body := by
    rw [← List.append_assoc, List.length_append, Nat.add_sub_cancel]
    exact List.take_left
  have hpad : ∃ paddingSize, h₁.applyRtpPaddingSize (hdr ++ body) false =
      .ok { h₁ with paddingSize } := by
    simp only [RtpHeader.applyRtpPaddingSize, Bool.false_and, Bool.false_eq_true, if_false]
    split_ifs
    · exact ⟨_, rfl⟩
    · exact ⟨_, rfl⟩
  obtain ⟨paddingSize, hpadding⟩ := hpad
  have hinside : h₁.payloadOffset ≤ (hdr ++ body).length := by
    rw [hoffset, List.length_append]
    exact Nat.le_add_right _ _
  have hread : RtpHeader.deSerialize (hdr ++ body) false = .ok { h₁ with paddingSize } :=
    Rtp.deSerialize_eq_ok.mpr ⟨hreads.fixed, hreads.csrc, h₁, hreads.read, hinside, hpadding⟩
  refine ⟨{ h₁ with paddingSize := 0 }, ?_, hoffset, hsame⟩
  have hbounds : (hdr ++ (body ++ tag)).length - tag.length = hdr.length + body.length := by
    simp only [List.length_append]
    omega
  have hlong : 12 + tag.length ≤ (hdr ++ (body ++ tag)).length := by
    simp only [List.length_append]
    omega
  have hoffsets : 12 ≤ h₁.payloadOffset ∧ h₁.payloadOffset ≤ hdr.length + body.length := by
    omega
  rw [parseSrtpRtpHeader, assertAuthenticated_of hlong, Except.ok_bind, htake, hread, hbounds]
  dsimp only
  rw [assertAuthenticated_of hoffsets]
  rfl

/-! ## The padding of an opened packet -/

/-- A padding count that is at least one and not larger than what follows the header. -/
def PaddingAccepted (header : RtpHeader) (packet : Bytes) : Prop :=
  header.padding = true → 1 ≤ (packet.getD (packet.length - 1) 0).toNat ∧
    (packet.getD (packet.length - 1) 0).toNat ≤ packet.length - header.payloadOffset

instance (header : RtpHeader) (packet : Bytes) : Decidable (PaddingAccepted header packet) :=
  inferInstanceAs (Decidable (_ → _))

lemma finalize_accepted {header : RtpHeader} {packet : Bytes}
    (haccepted : PaddingAccepted header packet) :
    ∃ paddingSize, finalizeSrtpRtpHeader header packet = .ok { header with paddingSize } := by
  rw [finalizeSrtpRtpHeader]
  by_cases hpad : header.padding = true
  · obtain ⟨hpos, hle⟩ := haccepted hpad
    have hinside : header.payloadOffset < packet.length := by omega
    rw [hpad, Bool.not_true, if_neg Bool.false_ne_true, assertAuthenticated_of hinside,
      Except.ok_bind]
    dsimp only
    rw [assertAuthenticated_of ⟨hpos, hle⟩, Except.ok_bind]
    exact ⟨_, rfl⟩
  · rw [Bool.not_eq_true] at hpad
    rw [hpad, Bool.not_false, if_pos rfl]
    exact ⟨_, rfl⟩

lemma finalize_refused {header : RtpHeader} {packet : Bytes}
    (hrefused : ¬ PaddingAccepted header packet) :
    finalizeSrtpRtpHeader header packet = .error (.authentication failedSrtp) := by
  have hpad : header.padding = true := by
    by_contra hpad
    exact hrefused fun h => absurd h hpad
  rw [finalizeSrtpRtpHeader, hpad, Bool.not_true, if_neg Bool.false_ne_true]
  by_cases hinside : header.payloadOffset < packet.length
  · have hcount : ¬ (0 < (packet.getD (packet.length - 1) 0).toNat ∧
        (packet.getD (packet.length - 1) 0).toNat ≤ packet.length - header.payloadOffset) := by
      intro hcount
      exact hrefused fun _ => hcount
    rw [assertAuthenticated_of hinside, Except.ok_bind]
    dsimp only
    rw [assertAuthenticated_not hcount, Except.error_bind]
  · rw [assertAuthenticated_not hinside, Except.error_bind]

/-! ## Opening a sealed packet -/

/-- What is left when the payload has been deciphered. -/
def finalized (h : RtpHeader) (plain : Bytes) : Except SrtpError (Bytes × RtpHeader) :=
  (finalizeSrtpRtpHeader h plain).map fun header => (plain, header)

/-- The packet that the counter-mode cipher makes. -/
lemma CipherAesCtr.encryptRtp_eq (hin : h.InRange) (hhdr : h.serialize = some hdr)
    (hroc : roc < 2 ^ 32) (payload : Bytes) : ∃ enc tag,
      encryptRtp C k h payload roc = .ok (hdr ++ (enc ++ tag)) ∧
      enc = C.aes128Ctr k.srtpSessionKey
        (counter h.sequenceNumber roc h.ssrc k.srtpSessionSalt) payload ∧
      tag = (C.hmacSha1 k.srtpSessionAuthTag (hdr ++ (enc ++ encode 4 roc))).take 10 := by
  refine ⟨_, _, ?_, rfl, rfl⟩
  rw [encryptRtp, hhdr, orThrow_some, Except.ok_bind,
    generateCounter_eq hin.sequenceNumber hroc hin.ssrc, Except.ok_bind]
  dsimp only
  rw [generateSrtpAuthTag_eq hroc, Except.ok_bind, List.append_assoc, List.flatten_cons, List.flatten_cons, List.flatten_nil,
    List.append_nil, List.append_assoc]
  rfl

/-- **Opening with the same counter** undoes the counter-mode cipher. -/
theorem CipherAesCtr.decryptRtp_encryptRtp (hin : h.InRange) (hhdr : h.serialize = some hdr)
    (hroc : roc < 2 ^ 32) {wire : Bytes} (hwire : encryptRtp C k h payload roc = .ok wire)
    (hoffset : h'.payloadOffset = hdr.length) (hseq : h'.sequenceNumber = h.sequenceNumber)
    (hssrc : h'.ssrc = h.ssrc) :
    decryptRtp C k wire roc h' = finalized h' (hdr ++ payload) := by
  obtain ⟨enc, tag, hwire', henc, htag⟩ := encryptRtp_eq (C := C) (k := k) hin hhdr hroc payload
  obtain rfl := Except.ok.inj (hwire'.symm.trans hwire)
  have htaglen : tag.length = authTagLength := by
    rw [htag, List.length_take, C.length_hmacSha1]
    rfl
  have hcut : (hdr ++ (enc ++ tag)).length - authTagLength = (hdr ++ enc).length := by
    rw [← List.append_assoc, List.length_append, htaglen, Nat.add_sub_cancel]
  have htake : (hdr ++ (enc ++ tag)).take (hdr ++ enc).length = hdr ++ enc := by
    rw [← List.append_assoc]
    exact List.take_left
  have hdrop : (hdr ++ (enc ++ tag)).drop (hdr ++ enc).length = tag := by
    rw [← List.append_assoc]
    exact List.drop_left
  have hplain : C.aes128Ctr k.srtpSessionKey
      (counter h.sequenceNumber roc h.ssrc k.srtpSessionSalt) enc = payload := by
    rw [henc]
    exact CounterMode.crypt_crypt _
  rw [decryptRtp, hcut, htake, hdrop, hoffset, hseq, hssrc, List.take_left, List.drop_left,
    generateSrtpAuthTag_eq hroc, Except.ok_bind, List.flatten_cons, List.flatten_cons,
    List.flatten_nil, List.append_nil, List.append_assoc, ← htag, assertAuthenticated_of rfl,
    Except.ok_bind, generateCounter_eq hin.sequenceNumber hroc hin.ssrc, Except.ok_bind]
  dsimp only
  rw [hplain, finalized]
  cases finalizeSrtpRtpHeader h' (hdr ++ payload) <;> rfl

/-- The packet that the cipher in Galois counter mode makes. -/
lemma CipherAesGcm.encryptRtp_eq (hin : h.InRange) (hhdr : h.serialize = some hdr)
    (hroc : roc < 2 ^ 32) (payload : Bytes) : ∃ enc tag,
      encryptRtp C k h payload roc = .ok (hdr ++ (enc ++ tag)) ∧
      enc = C.aes128Gcm k.srtpSessionKey (rtpIv k h.sequenceNumber roc h.ssrc) payload ∧
      tag = C.gcmTag k.srtpSessionKey (rtpIv k h.sequenceNumber roc h.ssrc) hdr enc := by
  refine ⟨_, _, ?_, rfl, rfl⟩
  rw [encryptRtp, hhdr, orThrow_some, Except.ok_bind,
    rtpInitializationVector_eq hin.sequenceNumber hroc hin.ssrc, Except.ok_bind]
  dsimp only
  rw [List.append_assoc]
  rfl

lemma CipherAesGcm.checkAuthTag_eq (key iv aad cipherText : Bytes) (message : String) :
    checkAuthTag C key iv aad cipherText (C.gcmTag key iv aad cipherText) message = .ok () := by
  have hlength : (C.gcmTag key iv aad cipherText).length = aeadAuthTagLen :=
    C.length_gcmTag key iv aad cipherText
  rw [checkAuthTag, if_neg (not_not.mpr hlength)]
  exact assertAuthenticated_of rfl

/-- **Opening with the same counter** undoes the cipher in Galois counter mode. -/
theorem CipherAesGcm.decryptRtp_encryptRtp (hin : h.InRange) (hhdr : h.serialize = some hdr)
    (hroc : roc < 2 ^ 32) {wire : Bytes} (hwire : encryptRtp C k h payload roc = .ok wire)
    (hoffset : h'.payloadOffset = hdr.length) (hseq : h'.sequenceNumber = h.sequenceNumber)
    (hssrc : h'.ssrc = h.ssrc) :
    decryptRtp C k wire roc h' = finalized h' (hdr ++ payload) := by
  obtain ⟨enc, tag, hwire', henc, htag⟩ := encryptRtp_eq (C := C) (k := k) hin hhdr hroc payload
  obtain rfl := Except.ok.inj (hwire'.symm.trans hwire)
  have htaglen : tag.length = aeadAuthTagLen := by
    rw [htag, C.length_gcmTag]
    rfl
  have hcut : (hdr ++ (enc ++ tag)).length - aeadAuthTagLen = (hdr ++ enc).length := by
    rw [← List.append_assoc, List.length_append, htaglen, Nat.add_sub_cancel]
  have hdrop : (hdr ++ (enc ++ tag)).drop (hdr ++ enc).length = tag := by
    rw [← List.append_assoc]
    exact List.drop_left
  have hslice : Js.slice (hdr ++ (enc ++ tag)) hdr.length (hdr ++ enc).length = enc := by
    rw [Js.slice, List.drop_left, List.length_append, Nat.add_sub_cancel_left]
    exact List.take_left
  have hplain : C.aes128Gcm k.srtpSessionKey (rtpIv k h.sequenceNumber roc h.ssrc) enc =
      payload := by
    rw [henc]
    exact CounterMode.crypt_crypt _
  have hseq' : h'.sequenceNumber < 2 ^ 16 := hseq ▸ hin.sequenceNumber
  have hssrc' : h'.ssrc < 2 ^ 32 := hssrc ▸ hin.ssrc
  rw [decryptRtp, hcut, hdrop, hoffset, rtpInitializationVector_eq hseq' hroc hssrc', hseq, hssrc,
    Except.ok_bind, hslice, List.take_left, htag]
  dsimp only
  rw [checkAuthTag_eq, Except.ok_bind, hplain, finalized]
  cases finalizeSrtpRtpHeader h' (hdr ++ payload) <;> rfl

/-! ## Opening in a context -/

namespace Context

variable {ctx receiver : Context}

/-- **Opening a sealed packet in a context with the same keys.** -/
theorem cipherDecryptRtp_sealed (hin : h.InRange) (hhdr : h.serialize = some hdr)
    (hroc : roc < 2 ^ 32) {wire : Bytes} (hprofile : receiver.profile = ctx.profile)
    (hkeys : receiver.keys = ctx.keys) (hwire : ctx.cipherEncryptRtp C h payload roc = .ok wire)
    (hoffset : h'.payloadOffset = hdr.length) (hseq : h'.sequenceNumber = h.sequenceNumber)
    (hssrc : h'.ssrc = h.ssrc) :
    receiver.cipherDecryptRtp C wire roc h' = finalized h' (hdr ++ payload) := by
  rw [cipherEncryptRtp] at hwire
  rw [cipherDecryptRtp, hprofile, hkeys]
  cases hp : ctx.profile with
  | aes128CmHmacSha1_80 =>
    rw [hp] at hwire
    exact CipherAesCtr.decryptRtp_encryptRtp hin hhdr hroc hwire hoffset hseq hssrc
  | aeadAes128Gcm =>
    rw [hp] at hwire
    exact CipherAesGcm.decryptRtp_encryptRtp hin hhdr hroc hwire hoffset hseq hssrc

/-- A sealed packet is its header, a body and a tag of the length of the profile. -/
lemma cipherEncryptRtp_eq (hin : h.InRange) (hroc : roc < 2 ^ 32)
    {wire : Bytes} (hwire : ctx.cipherEncryptRtp C h payload roc = .ok wire) :
    ∃ hdr body tag, h.serialize = some hdr ∧ wire = hdr ++ (body ++ tag) ∧
      tag.length = ctx.rtpAuthTagLength := by
  have hserialize : ∃ hdr, h.serialize = some hdr := by
    cases hnone : h.serialize with
    | some hdr => exact ⟨hdr, rfl⟩
    | none =>
      rw [cipherEncryptRtp, CipherAesCtr.encryptRtp, CipherAesGcm.encryptRtp, hnone] at hwire
      cases hp : ctx.profile <;> rw [hp] at hwire <;> cases hwire
  obtain ⟨hdr, hhdr⟩ := hserialize
  rw [cipherEncryptRtp] at hwire
  cases hp : ctx.profile with
  | aes128CmHmacSha1_80 =>
    rw [hp] at hwire
    obtain ⟨enc, tag, hwire', -, htag⟩ :=
      CipherAesCtr.encryptRtp_eq (C := C) (k := ctx.keys) hin hhdr hroc payload
    refine ⟨hdr, enc, tag, hhdr, Except.ok.inj (hwire.symm.trans hwire'), ?_⟩
    rw [htag, List.length_take, C.length_hmacSha1, rtpAuthTagLength, hp]
    rfl
  | aeadAes128Gcm =>
    rw [hp] at hwire
    obtain ⟨enc, tag, hwire', -, htag⟩ :=
      CipherAesGcm.encryptRtp_eq (C := C) (k := ctx.keys) hin hhdr hroc payload
    refine ⟨hdr, enc, tag, hhdr, Except.ok.inj (hwire.symm.trans hwire'), ?_⟩
    rw [htag, C.length_gcmTag, rtpAuthTagLength, hp]

end Context

/-! ## Keys of RFC 3711 -/

/-- The master key of the test vectors of RFC 3711. -/
def vectorKey : Bytes := encode 16 0xe1f97a0d3e018be0d64fa32c06de4139

/-- The master salt of the test vectors of RFC 3711. -/
def vectorSalt : Bytes := encode 14 0x0ec675ad498afeebb6960b3aabe6

/-- Values of AES-128: a key, a block and its image. -/
def aes128Values : List (ℕ × ℕ × ℕ) :=
  [(0xe1f97a0d3e018be0d64fa32c06de4139, 0x0ec675ad498afeebb6960b3aabe60000,
      0xc61e7a93744f39ee10734afe3ff7a087),
    (0xe1f97a0d3e018be0d64fa32c06de4139, 0x0ec675ad498afee9b6960b3aabe60000,
      0x30cbbc08863d8c85d49db34a9ae17ac6),
    (0xe1f97a0d3e018be0d64fa32c06de4139, 0x0ec675ad498afeeab6960b3aabe60000,
      0xcebe321f6ff7716b6fd4ab49af256a15),
    (0xe1f97a0d3e018be0d64fa32c06de4139, 0x0ec675ad498afeeab6960b3aabe60001,
      0x6d38baa48f0a0acf3c34e2359e6cdbce),
    (0xe1f97a0d3e018be0d64fa32c06de4139, 0x0ec675ad498afee8b6960b3aabe60000,
      0x4c1aa45a81f73d61c800bbb00fbb1eaa),
    (0xe1f97a0d3e018be0d64fa32c06de4139, 0x0ec675ad498afeeeb6960b3aabe60000,
      0x9581c7ad87b3e530bf3e4454a8b3814a),
    (0xe1f97a0d3e018be0d64fa32c06de4139, 0x0ec675ad498afeefb6960b3aabe60000,
      0x8d54534feb49ae8e7993a6bd0b844fc3),
    (0xe1f97a0d3e018be0d64fa32c06de4139, 0x0ec675ad498afeefb6960b3aabe60001,
      0x23a93dfdc289ecce2f6f28d92b9b102a),
    (0xc61e7a93744f39ee10734afe3ff7a087, 0x30cbbc08863d8c84d49db34a651e0000,
      0x590694d168a46161742ade8879730657),
    (0xc61e7a93744f39ee10734afe3ff7a087, 0x30cbbc08863d8c84d49db34b9ae10000,
      0x39011627e66441e75b716004fd46cc74),
    (0x4c1aa45a81f73d61c800bbb00fbb1eaa, 0x9581c7ad87b3e531bf3e4454a8b20000,
      0xc1d1cff32c5ac7728a76f91ef3be9230)]

/-- Values of HMAC-SHA1: a key, the data and their digest. -/
def hmacSha1Values : List (ℕ × ℕ × ℕ) :=
  [(0xcebe321f6ff7716b6fd4ab49af256a156d38baa4,
      0x8060ffff00000000000000015e00000000,
      0x15271c06f7d0b2d77703f82ebb9d4af2e08e77d0),
    (0xcebe321f6ff7716b6fd4ab49af256a156d38baa4,
      0x8060000000000000000000013100000001,
      0x500747f349680e9b02131587d2e993ba72f117e9),
    (0xcebe321f6ff7716b6fd4ab49af256a156d38baa4,
      0xa060ffff00000000000000015900000000,
      0x60a0d31ee412d797c8811d82d636f0dc89a7089d),
    (0x8d54534feb49ae8e7993a6bd0b844fc323a93dfd,
      0x80c8000100000001c880000001,
      0x5679a11496100a3fd0f174375ac6e59391622349)]

/-- The image of a key and of an argument. -/
def valueOf (values : List (ℕ × ℕ × ℕ)) (key argument : Bytes) : ℕ :=
  ((values.find? fun row => row.1 = decode key ∧ row.2.1 = decode argument).map (·.2.2)).getD 0

/-- The functions of `node:crypto` at these values. -/
def vectorCrypto : Crypto where
  aes128 key block := encode 16 (valueOf aes128Values key block)
  hmacSha1 key data := encode 20 (valueOf hmacSha1Values key data)
  gcmTag _ _ _ _ := encode 16 0
  length_hmacSha1 _ _ := length_encode _ _
  length_gcmTag _ _ _ _ := length_encode _ _

/-- A context with the keys of RFC 3711. -/
def vectorContext : Context := .new vectorCrypto vectorKey vectorSalt .aes128CmHmacSha1_80

/-- The session key and the session salt of RFC 3711. -/
example : vectorContext.keys.srtpSessionKey = encode 16 0xc61e7a93744f39ee10734afe3ff7a087 ∧
    vectorContext.keys.srtpSessionSalt = encode 14 0x30cbbc08863d8c85d49db34a9ae1 := by
  decide +kernel

end Werift.Srtp
