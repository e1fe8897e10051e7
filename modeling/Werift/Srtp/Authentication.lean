import Werift.Srtp.Agreement
import Werift.Srtp.RtcpIndex

/-!
# Forged packets

A packet is read before it is known to be authentic: its header, the place of its tag and its counter
come from whoever has sent it.  Whatever these say, a packet without a valid tag ends in an
authentication error and leaves the context as it is.  A run with forged packets in it then gives the
authentic ones the same results as the run without them (`forgeries_dropped`).
-/

namespace Werift.Srtp

open BigEndian
open Rtp (RtpHeader)
open Rtcp (RtcpHeader)

variable {C : Crypto} {k : SessionKeys} {ctx : Context} {wire : Bytes} {header : RtpHeader}
  {tagLength roc : ℕ}

/-! ## Reading before the tag is known -/

lemma assertAuthenticated_cases (condition : Prop) [Decidable condition] (message : String) :
    assertAuthenticated condition message = .ok () ∧ condition ∨
      assertAuthenticated condition message = .error (.authentication message) ∧ ¬ condition := by
  by_cases hcondition : condition
  · exact .inl ⟨assertAuthenticated_of hcondition, hcondition⟩
  · exact .inr ⟨assertAuthenticated_not hcondition, hcondition⟩

/-- **The header of any byte string** is refused with an authentication error or lies in front of the
tag, with its fields in range. -/
lemma parse_cases (wire : Bytes) (tagLength : ℕ) :
    parseSrtpRtpHeader wire tagLength = .error (.authentication failedSrtp) ∨
      ∃ header, parseSrtpRtpHeader wire tagLength = .ok header ∧
        12 + tagLength ≤ wire.length ∧ header.payloadOffset ≤ wire.length - tagLength ∧
        header.sequenceNumber < 2 ^ 16 ∧ header.ssrc < 2 ^ 32 := by
  rw [parseSrtpRtpHeader]
  obtain ⟨hlong, hlength⟩ | ⟨hshort, -⟩ :=
    assertAuthenticated_cases (12 + tagLength ≤ wire.length) failedSrtp
  · rw [hlong, Except.ok_bind]
    cases hread : RtpHeader.deSerialize (wire.take (wire.length - tagLength)) false with
    | error e => exact .inl rfl
    | ok header =>
      obtain ⟨hseq, hssrc⟩ := Rtp.deSerialize_fixed hread
      dsimp only
      obtain ⟨hbounds, -, hoffset⟩ | ⟨houtside, -⟩ := assertAuthenticated_cases
        (12 ≤ header.payloadOffset ∧ header.payloadOffset ≤ wire.length - tagLength) failedSrtp
      · rw [hbounds, Except.ok_bind]
        refine .inr ⟨_, rfl, hlength, hoffset, ?_, ?_⟩
        · rw [hseq]
          exact readNat_lt 2 _ _
        · rw [hssrc]
          exact readNat_lt 4 _ _
      · rw [houtside, Except.error_bind]
        exact .inl rfl
  · rw [hshort, Except.error_bind]
    exact .inl rfl

/-- A counter that has been estimated fits into its field. -/
lemma estimate_lt {sequenceNumber : ℕ} {s : SrtpSsrcState}
    (hroc : estimateRolloverCounter sequenceNumber s = .ok roc) : roc < 2 ^ 32 := by
  simp only [estimateRolloverCounter] at hroc
  split_ifs at hroc with hneg hmax
  · obtain rfl := Except.ok.inj hroc
    decide
  · obtain rfl := Except.ok.inj hroc
    simp only [maxRolloverCounter] at hmax
    omega

/-- **A counter is estimated** or the error is one of authentication. -/
lemma decryptRolloverCounter_cases (ctx : Context) (header : RtpHeader) :
    (∃ roc, estimateRolloverCounter header.sequenceNumber (ctx.srtpSsrcState header.ssrc) = .ok roc ∧
      ctx.decryptRolloverCounter header = .ok roc) ∨
    (∀ roc, estimateRolloverCounter header.sequenceNumber (ctx.srtpSsrcState header.ssrc) ≠ .ok roc) ∧
      ∃ message, ctx.decryptRolloverCounter header = .error (.authentication message) := by
  cases hroc : estimateRolloverCounter header.sequenceNumber (ctx.srtpSsrcState header.ssrc) with
  | ok roc => exact .inl ⟨roc, rfl, Context.decryptRolloverCounter_eq hroc⟩
  | error e =>
    refine .inr ⟨fun roc heq => (nomatch heq), ?_⟩
    rw [Context.decryptRolloverCounter, hroc]
    simp only [estimateRolloverCounter] at hroc
    split_ifs at hroc
    obtain rfl := Except.error.inj hroc
    exact ⟨_, rfl⟩

/-! ## Tags -/

namespace Context

variable (C ctx)

/-- The octets of a packet between its header and its tag. -/
def rtpBody (wire : Bytes) (header : RtpHeader) : Bytes :=
  Js.slice wire header.payloadOffset (wire.length - ctx.rtpAuthTagLength)

/-- The tag of a packet with this header under the counter `roc`. -/
def rtpTag (wire : Bytes) (header : RtpHeader) (roc : ℕ) : Bytes :=
  match ctx.profile with
  | .aes128CmHmacSha1_80 => (C.hmacSha1 ctx.keys.srtpSessionAuthTag
      (wire.take (wire.length - ctx.rtpAuthTagLength) ++ encode 4 roc)).take 10
  | .aeadAes128Gcm => C.gcmTag ctx.keys.srtpSessionKey
      (CipherAesGcm.rtpIv ctx.keys header.sequenceNumber roc header.ssrc)
      (wire.take header.payloadOffset) (ctx.rtpBody wire header)

/-- The packet with its payload deciphered under the counter `roc`. -/
def rtpPlain (wire : Bytes) (header : RtpHeader) (roc : ℕ) : Bytes :=
  wire.take header.payloadOffset ++ match ctx.profile with
    | .aes128CmHmacSha1_80 => C.aes128Ctr ctx.keys.srtpSessionKey
        (CipherAesCtr.counter header.sequenceNumber roc header.ssrc ctx.keys.srtpSessionSalt)
        (ctx.rtpBody wire header)
    | .aeadAes128Gcm => C.aes128Gcm ctx.keys.srtpSessionKey
        (CipherAesGcm.rtpIv ctx.keys header.sequenceNumber roc header.ssrc)
        (ctx.rtpBody wire header)

/-- **The packet carries a valid tag**: it has a header, its counter can be estimated, and its last
octets are the tag of the rest under this counter. -/
structure CarriesRtpTag (wire : Bytes) (header : RtpHeader) (roc : ℕ) : Prop where
  parsed : parseSrtpRtpHeader wire ctx.rtpAuthTagLength = .ok header
  counter : estimateRolloverCounter header.sequenceNumber (ctx.srtpSsrcState header.ssrc) = .ok roc
  tag : wire.drop (wire.length - ctx.rtpAuthTagLength) = ctx.rtpTag C wire header roc

variable {C ctx}

/-- **The ciphers** compare the tag and decipher the rest. -/
lemma cipherDecryptRtp_eq (hparse : parseSrtpRtpHeader wire ctx.rtpAuthTagLength = .ok header)
    (hroc : roc < 2 ^ 32) : ctx.cipherDecryptRtp C wire roc header =
      if wire.drop (wire.length - ctx.rtpAuthTagLength) = ctx.rtpTag C wire header roc then
        finalized header (ctx.rtpPlain C wire header roc)
      else .error (.authentication failedSrtp) := by
  obtain hrefused | ⟨_, hparse', hlength, hoffset, hseq, hssrc⟩ :=
    parse_cases wire ctx.rtpAuthTagLength
  · rw [hparse] at hrefused
    cases hrefused
  obtain rfl := Except.ok.inj (hparse.symm.trans hparse')
  have hfront : (wire.take (wire.length - ctx.rtpAuthTagLength)).take header.payloadOffset =
      wire.take header.payloadOffset := by
    rw [List.take_take, min_eq_left hoffset]
  have hbody : (wire.take (wire.length - ctx.rtpAuthTagLength)).drop header.payloadOffset =
      ctx.rtpBody wire header := by
    rw [List.drop_take]
    rfl
  rw [cipherDecryptRtp, rtpTag, rtpPlain]
  cases hp : ctx.profile with
  | aes128CmHmacSha1_80 =>
    have htaglen : ctx.rtpAuthTagLength = CipherAesCtr.authTagLength := by
      rw [rtpAuthTagLength, hp]
      rfl
    rw [htaglen] at hfront hbody ⊢
    dsimp only
    rw [CipherAesCtr.decryptRtp]
    dsimp only
    rw [CipherAesCtr.generateSrtpAuthTag_eq hroc, Except.ok_bind, List.flatten_cons,
      List.flatten_cons, List.flatten_nil, List.append_nil, List.take_append_drop]
    obtain ⟨htag, hvalid⟩ | ⟨htag, hinvalid⟩ := assertAuthenticated_cases
      (wire.drop (wire.length - CipherAesCtr.authTagLength) =
        (C.hmacSha1 ctx.keys.srtpSessionAuthTag
          (wire.take (wire.length - CipherAesCtr.authTagLength) ++ encode 4 roc)).take 10) failedSrtp
    · rw [htag, Except.ok_bind, CipherAesCtr.generateCounter_eq hseq hroc hssrc, Except.ok_bind,
        if_pos hvalid, hfront, hbody, finalized]
      cases finalizeSrtpRtpHeader header _ <;> rfl
    · rw [htag, Except.error_bind, if_neg hinvalid]
  | aeadAes128Gcm =>
    have htaglen : ctx.rtpAuthTagLength = CipherAesGcm.aeadAuthTagLen := by
      rw [rtpAuthTagLength, hp]
      rfl
    have hactual : (wire.drop (wire.length - CipherAesGcm.aeadAuthTagLen)).length =
        CipherAesGcm.aeadAuthTagLen := by
      rw [List.length_drop]
      omega
    have hslice : Js.slice wire header.payloadOffset (wire.length - CipherAesGcm.aeadAuthTagLen) =
        ctx.rtpBody wire header := by
      rw [rtpBody, htaglen]
    rw [htaglen]
    dsimp only
    rw [CipherAesGcm.decryptRtp]
    dsimp only
    rw [CipherAesGcm.rtpInitializationVector_eq hseq hroc hssrc, Except.ok_bind, hslice,
      CipherAesGcm.checkAuthTag, if_neg (not_not.mpr hactual)]
    obtain ⟨htag, hvalid⟩ | ⟨htag, hinvalid⟩ := assertAuthenticated_cases
      (wire.drop (wire.length - CipherAesGcm.aeadAuthTagLen) = C.gcmTag ctx.keys.srtpSessionKey
        (CipherAesGcm.rtpIv ctx.keys header.sequenceNumber roc header.ssrc)
        (wire.take header.payloadOffset) (ctx.rtpBody wire header)) failedSrtp
    · rw [if_pos hvalid]
      simp only [htag, Except.ok_bind, finalized]
      cases finalizeSrtpRtpHeader header _ <;> rfl
    · rw [if_neg hinvalid]
      simp only [htag, Except.error_bind]

/-- **A packet with a valid tag** is deciphered, and only its padding can still be refused. -/
lemma openRtp_tagged (htag : CarriesRtpTag C ctx wire header roc) :
    ctx.openRtp C wire = (finalized header (ctx.rtpPlain C wire header roc)).map
      fun dec => (header, roc, dec) := by
  rw [openRtp, htag.parsed, Except.ok_bind, decryptRolloverCounter_eq htag.counter, Except.ok_bind,
    cipherDecryptRtp_eq htag.parsed (estimate_lt htag.counter), if_pos htag.tag]
  cases finalized header (ctx.rtpPlain C wire header roc) <;> rfl

/-- **Any other byte string** is an authentication error. -/
lemma openRtp_untagged (htag : ∀ header roc, ¬ CarriesRtpTag C ctx wire header roc) :
    ∃ message, ctx.openRtp C wire = .error (.authentication message) := by
  rw [openRtp]
  obtain hrefused | ⟨header, hparse, -⟩ := parse_cases wire ctx.rtpAuthTagLength
  · rw [hrefused, Except.error_bind]
    exact ⟨_, rfl⟩
  · rw [hparse, Except.ok_bind]
    obtain ⟨roc, hroc, hcounter⟩ | ⟨-, message, hoverflow⟩ := decryptRolloverCounter_cases ctx header
    · have hinvalid : ¬ wire.drop (wire.length - ctx.rtpAuthTagLength) =
          ctx.rtpTag C wire header roc := by
        intro hvalid
        exact htag header roc ⟨hparse, hroc, hvalid⟩
      rw [hcounter, Except.ok_bind, cipherDecryptRtp_eq hparse (estimate_lt hroc), if_neg hinvalid,
        Except.error_bind]
      exact ⟨_, rfl⟩
    · rw [hoverflow, Except.error_bind]
      exact ⟨_, rfl⟩

/-- An error leaves the context as it is. -/
lemma decryptRtp_error {e : SrtpError} (herror : (ctx.decryptRtp C wire).1 = .error e) :
    (ctx.decryptRtp C wire).2 = ctx ∧ ctx.openRtp C wire = .error e := by
  rw [decryptRtp] at herror ⊢
  cases hopen : ctx.openRtp C wire with
  | error e' =>
    rw [hopen] at herror
    exact ⟨rfl, congrArg _ (Except.error.inj herror)⟩
  | ok dec =>
    rw [hopen] at herror
    cases herror

/-- The packet has a valid tag, but its deciphered padding is refused. -/
def RefusesPadding (C : Crypto) (ctx : Context) (wire : Bytes) : Prop :=
  ∃ header roc, CarriesRtpTag C ctx wire header roc ∧
    ¬ PaddingAccepted header (ctx.rtpPlain C wire header roc)

/-- **When `decryptRtp` throws.** -/
lemma decryptRtp_throws_iff : (∃ e, (ctx.decryptRtp C wire).1 = .error e) ↔
    (∀ header roc, ¬ CarriesRtpTag C ctx wire header roc) ∨ RefusesPadding C ctx wire := by
  constructor
  · rintro ⟨e, herror⟩
    by_contra hnone
    rw [not_or] at hnone
    obtain ⟨htagged, haccepted⟩ := hnone
    push Not at htagged
    obtain ⟨header, roc, htag⟩ := htagged
    have hpadding : PaddingAccepted header (ctx.rtpPlain C wire header roc) := by
      by_contra hrefused
      exact haccepted ⟨header, roc, htag, hrefused⟩
    obtain ⟨paddingSize, hfinal⟩ := finalize_accepted hpadding
    have hopen := (decryptRtp_error herror).2
    rw [openRtp_tagged htag, finalized, hfinal] at hopen
    cases hopen
  · rintro (huntagged | ⟨header, roc, htag, hrefused⟩)
    · obtain ⟨message, hopen⟩ := openRtp_untagged huntagged
      rw [decryptRtp, hopen]
      exact ⟨_, rfl⟩
    · rw [decryptRtp, openRtp_tagged htag, finalized, finalize_refused hrefused]
      exact ⟨_, rfl⟩

/-- **Whatever `decryptRtp` throws** is an authentication error. -/
lemma decryptRtp_error_class {e : SrtpError} (herror : (ctx.decryptRtp C wire).1 = .error e) :
    ∃ message, e = .authentication message := by
  have hopen := (decryptRtp_error herror).2
  obtain huntagged | ⟨header, roc, htag, hrefused⟩ := decryptRtp_throws_iff.mp ⟨e, herror⟩
  · obtain ⟨message, hopen'⟩ := openRtp_untagged huntagged
    exact ⟨message, Except.error.inj (hopen.symm.trans hopen')⟩
  · rw [openRtp_tagged htag, finalized, finalize_refused hrefused] at hopen
    exact ⟨failedSrtp, (Except.error.inj hopen).symm⟩

end Context

/-! ## Control packets -/

/-- The word in front of the tag (counter mode) or at the end (Galois counter mode). -/
def trailerAt (wire : Bytes) (offset : ℕ) : ℕ := readNat 4 wire offset

lemma readUInt32BE_trailer {offset : ℕ} (hoffset : offset + 4 ≤ wire.length) :
    Js.readUInt32BE wire offset = some (trailerAt wire offset : ℤ) := by
  rw [Js.readUInt32BE, Js.readUIntBE, if_pos hoffset]
  rfl

/-- The last octets are the tag of the rest. -/
def CipherAesCtr.CarriesRtcpTag (C : Crypto) (k : SessionKeys) (wire : Bytes) : Prop :=
  8 + 10 + 4 ≤ wire.length ∧ wire.drop (wire.length - 10) =
    (C.hmacSha1 k.srtcpSessionAuthTag (wire.take (wire.length - 10))).take 10

/-- The octets in front of the index are the tag of the rest; without the E flag all of it is
authenticated and nothing is encrypted. -/
def CipherAesGcm.CarriesRtcpTag (C : Crypto) (k : SessionKeys) (wire : Bytes) : Prop :=
  let indexOffset := wire.length - 4
  let tagOffset := wire.length - 4 - 16
  let index := trailerAt wire indexOffset
  8 + 16 + 4 ≤ wire.length ∧ Js.slice wire tagOffset indexOffset =
    C.gcmTag k.srtcpSessionKey (rtcpIv k (ssrcOf wire) (index % 2 ^ 31))
      (if index >>> 31 = 1 then wire.take 8 ++ wire.drop indexOffset
        else wire.take tagOffset ++ wire.drop indexOffset)
      (if index >>> 31 = 1 then Js.slice wire 8 tagOffset else [])

/-- **The header of any control packet** is refused with an authentication error or read. -/
lemma parseSrtcp_cases (wire : Bytes) (tagLength indexSize : ℕ) :
    parseSrtcpHeader wire tagLength indexSize = .error (.authentication failedSrtcp) ∧
        ¬ 8 + tagLength + indexSize ≤ wire.length ∨
      ∃ header, parseSrtcpHeader wire tagLength indexSize = .ok header ∧
        8 + tagLength + indexSize ≤ wire.length := by
  rw [parseSrtcpHeader]
  obtain ⟨hlong, hlength⟩ | ⟨hshort, hlength⟩ :=
    assertAuthenticated_cases (8 + tagLength + indexSize ≤ wire.length) failedSrtcp
  · have hfour : Rtcp.RTCP_HEADER_SIZE ≤ (wire.take Rtcp.RTCP_HEADER_SIZE).length := by
      have : Rtcp.RTCP_HEADER_SIZE = 4 := rfl
      rw [List.length_take]
      omega
    obtain ⟨header, hheader⟩ := Rtcp.RtcpHeader.isSome_deSerialize hfour
    rw [hlong, Except.ok_bind, hheader]
    exact .inr ⟨header, rfl, hlength⟩
  · rw [hshort, Except.error_bind]
    exact .inl ⟨rfl, hlength⟩

/-- **The counter-mode cipher** throws nothing but authentication errors. -/
lemma CipherAesCtr.decryptRTCP_cases (C : Crypto) (k : SessionKeys) (wire : Bytes) :
    ¬ CarriesRtcpTag C k wire ∧ decryptRTCP C k wire = .error (.authentication failedSrtcp) ∨
      CarriesRtcpTag C k wire ∧ ∃ dec, decryptRTCP C k wire = .ok dec := by
  rw [decryptRTCP]
  obtain ⟨hrefused, hshort⟩ | ⟨header, hparse, hlong⟩ :=
    parseSrtcp_cases wire authTagLength srtcpIndexSize
  · rw [hrefused, Except.error_bind]
    exact .inl ⟨fun h => hshort h.1, rfl⟩
  · rw [hparse, Except.ok_bind]
    dsimp only
    obtain ⟨htag, hvalid⟩ | ⟨htag, hinvalid⟩ := assertAuthenticated_cases
      (wire.drop (wire.length - authTagLength) =
        generateSrtcpAuthTag C k (wire.take (wire.length - authTagLength))) failedSrtcp
    · rw [htag, Except.ok_bind]
      refine .inr ⟨⟨hlong, hvalid⟩, ?_⟩
      split_ifs with hflag
      · exact ⟨_, rfl⟩
      · have hsizes : authTagLength = 10 ∧ srtcpIndexSize = 4 := ⟨rfl, rfl⟩
        have htrailer : wire.length - (authTagLength + srtcpIndexSize) + 4 ≤ wire.length := by
          omega
        have hssrc : 8 ≤ wire.length := by omega
        rw [readUInt32BE_trailer htrailer, orThrow_some, Except.ok_bind, readUInt32BE_ssrc hssrc,
          orThrow_some, Except.ok_bind, (bitAnd_unflag _).1,
          generateCounter_index (Nat.mod_lt _ (by decide)) (ssrcOf_lt wire), Except.ok_bind]
        exact ⟨_, rfl⟩
    · rw [htag, Except.error_bind]
      exact .inl ⟨fun h => hinvalid h.2, rfl⟩

/-- **The cipher in Galois counter mode** throws nothing but authentication errors. -/
lemma CipherAesGcm.decryptRTCP_cases (C : Crypto) (k : SessionKeys) (wire : Bytes) :
    ¬ CarriesRtcpTag C k wire ∧ decryptRTCP C k wire = .error (.authentication failedSrtcp) ∨
      CarriesRtcpTag C k wire ∧ ∃ dec, decryptRTCP C k wire = .ok dec := by
  rw [decryptRTCP]
  obtain ⟨hrefused, hshort⟩ | ⟨header, hparse, hlong⟩ :=
    parseSrtcp_cases wire aeadAuthTagLen srtcpIndexSize
  · rw [hrefused, Except.error_bind]
    exact .inl ⟨fun h => hshort h.1, rfl⟩
  · have hsizes : aeadAuthTagLen = 16 ∧ srtcpIndexSize = 4 := ⟨rfl, rfl⟩
    have htrailer : wire.length - srtcpIndexSize + 4 ≤ wire.length := by omega
    have hssrc : 8 ≤ wire.length := by omega
    have hactual : (Js.slice wire (wire.length - srtcpIndexSize - aeadAuthTagLen)
        (wire.length - srtcpIndexSize)).length = aeadAuthTagLen := by
      rw [Js.slice, List.length_take, List.length_drop]
      omega
    rw [hparse, Except.ok_bind]
    dsimp only
    rw [readUInt32BE_ssrc hssrc, orThrow_some, Except.ok_bind, readUInt32BE_trailer htrailer,
      orThrow_some, Except.ok_bind, (bitAnd_unflag _).2,
      rtcpInitializationVector_eq (ssrcOf_lt wire) (Nat.mod_lt _ (by decide)), Except.ok_bind,
      checkAuthTag, if_neg (not_not.mpr hactual)]
    simp only [decide_eq_true_eq, Int.toNat_natCast]
    obtain ⟨htag, hvalid⟩ | ⟨htag, hinvalid⟩ := assertAuthenticated_cases
      (Js.slice wire (wire.length - srtcpIndexSize - aeadAuthTagLen)
          (wire.length - srtcpIndexSize) =
        C.gcmTag k.srtcpSessionKey
          (rtcpIv k (ssrcOf wire) (trailerAt wire (wire.length - srtcpIndexSize) % 2 ^ 31))
          (if trailerAt wire (wire.length - srtcpIndexSize) >>> 31 = 1 then
            wire.take 8 ++ wire.drop (wire.length - srtcpIndexSize)
          else wire.take (wire.length - srtcpIndexSize - aeadAuthTagLen) ++
            wire.drop (wire.length - srtcpIndexSize))
          (if trailerAt wire (wire.length - srtcpIndexSize) >>> 31 = 1 then
            Js.slice wire 8 (wire.length - srtcpIndexSize - aeadAuthTagLen) else [])) failedSrtcp
    · rw [htag]
      exact .inr ⟨⟨hlong, hvalid⟩, _, rfl⟩
    · rw [htag]
      exact .inl ⟨fun h => hinvalid h.2, rfl⟩

/-! ## Runs with forged packets -/

/-- The control packet carries a valid tag. -/
def Context.CarriesRtcpTag (C : Crypto) (ctx : Context) (wire : Bytes) : Prop :=
  match ctx.profile with
  | .aes128CmHmacSha1_80 => CipherAesCtr.CarriesRtcpTag C ctx.keys wire
  | .aeadAes128Gcm => CipherAesGcm.CarriesRtcpTag C ctx.keys wire

/-- **`decryptRTCP`** throws on a packet without a valid tag, and on no other. -/
lemma Context.decryptRTCP_cases (C : Crypto) (ctx : Context) (wire : Bytes) :
    ¬ ctx.CarriesRtcpTag C wire ∧ ctx.decryptRTCP C wire = .error (.authentication failedSrtcp) ∨
      ctx.CarriesRtcpTag C wire ∧ ∃ dec, ctx.decryptRTCP C wire = .ok dec := by
  rw [decryptRTCP, CarriesRtcpTag]
  cases ctx.profile with
  | aes128CmHmacSha1_80 => exact CipherAesCtr.decryptRTCP_cases C ctx.keys wire
  | aeadAes128Gcm => exact CipherAesGcm.decryptRTCP_cases C ctx.keys wire

/-- What arrives at a transport. -/
inductive Datagram
  | rtp (wire : Bytes)
  | rtcp (wire : Bytes)

/-- What it is opened to. -/
inductive Opened
  | rtp (packet : Bytes) (header : RtpHeader)
  | rtcp (packet : Bytes) (header : RtcpHeader)

/-- The remote contexts of the two sessions of a transport. -/
structure Sessions where
  srtp : Context
  srtcp : Context

namespace Sessions

variable (C : Crypto) (r : Sessions)

/-- A valid tag in the contexts that the datagram finds. -/
def CarriesTag : Datagram → Prop
  | .rtp wire => ∃ header roc, r.srtp.CarriesRtpTag C wire header roc
  | .rtcp wire => r.srtcp.CarriesRtcpTag C wire

/-- `decrypt` of the session that the datagram is for. -/
def decrypt : Datagram → Except SrtpError Opened × Sessions
  | .rtp wire => ((r.srtp.decryptRtp C wire).1.map fun dec => .rtp dec.1 dec.2,
      { r with srtp := (r.srtp.decryptRtp C wire).2 })
  | .rtcp wire => ((r.srtcp.decryptRTCP C wire).map fun dec => .rtcp dec.1 dec.2, r)

/-- A valid tag on a packet whose deciphered padding is refused. -/
def RefusesPadding : Datagram → Prop
  | .rtp wire => r.srtp.RefusesPadding C wire
  | .rtcp _ => False

variable {C r} {d : Datagram} {e : SrtpError}

lemma map_eq_error {α β : Type} {x : Except SrtpError α} {f : α → β} :
    x.map f = .error e ↔ x = .error e := by
  cases x <;> simp [Except.map]

/-- **When a session throws.** -/
lemma decrypt_throws_iff : (∃ e, (r.decrypt C d).1 = .error e) ↔
    ¬ r.CarriesTag C d ∨ r.RefusesPadding C d := by
  cases d with
  | rtp wire =>
    simp only [decrypt, map_eq_error, Context.decryptRtp_throws_iff, CarriesTag, RefusesPadding,
      not_exists]
  | rtcp wire =>
    simp only [decrypt, map_eq_error, CarriesTag, RefusesPadding, or_false]
    obtain ⟨huntagged, herror⟩ | ⟨htagged, dec, hdec⟩ := r.srtcp.decryptRTCP_cases C wire
    · rw [herror]
      exact iff_of_true ⟨_, rfl⟩ huntagged
    · rw [hdec]
      exact iff_of_false (fun ⟨_, h⟩ => nomatch h) (not_not.mpr htagged)

/-- **What a session throws** is an authentication error, and the contexts stay as they are. -/
lemma decrypt_error (herror : (r.decrypt C d).1 = .error e) :
    (∃ message, e = .authentication message) ∧ (r.decrypt C d).2 = r := by
  cases d with
  | rtp wire =>
    have hrtp : (r.srtp.decryptRtp C wire).1 = .error e := map_eq_error.mp herror
    have hkept := (Context.decryptRtp_error hrtp).1
    refine ⟨Context.decryptRtp_error_class hrtp, ?_⟩
    rw [decrypt, hkept]
  | rtcp wire =>
    have hrtcp : r.srtcp.decryptRTCP C wire = .error e := map_eq_error.mp herror
    refine ⟨?_, rfl⟩
    obtain ⟨-, herror'⟩ | ⟨-, dec, hdec⟩ := r.srtcp.decryptRTCP_cases C wire
    · exact ⟨failedSrtcp, Except.error.inj (hrtcp.symm.trans herror')⟩
    · rw [hdec] at hrtcp
      cases hrtcp

/-- A datagram without a valid tag changes nothing. -/
lemma decrypt_untagged (huntagged : ¬ r.CarriesTag C d) :
    (∃ message, (r.decrypt C d).1 = .error (.authentication message)) ∧ (r.decrypt C d).2 = r := by
  obtain ⟨e, herror⟩ := decrypt_throws_iff.mpr (.inl huntagged)
  obtain ⟨⟨message, rfl⟩, hkept⟩ := decrypt_error herror
  exact ⟨⟨message, herror⟩, hkept⟩

end Sessions

/-- `isMedia(buf)`. -/
def isMedia (buf : Bytes) : Bool := buf.head?.any fun firstByte => 127 < firstByte ∧ firstByte < 192

/-- `isRtcp(buf)`. -/
def isRtcp (buf : Bytes) : Bool :=
  2 ≤ buf.length ∧ 192 ≤ buf.getD 1 0 ∧ buf.getD 1 0 ≤ 208

/-- The handler that `startSrtp` subscribes: it drops authentication errors and no others. -/
def Sessions.onData (C : Crypto) (r : Sessions) (data : Bytes) :
    Except SrtpError (Option Opened) × Sessions :=
  if isMedia data then
    match r.decrypt C (if isRtcp data then .rtcp data else .rtp data) with
    | (.ok dec, r) => (.ok (some dec), r)
    | (.error (.authentication _), r) => (.ok none, r)
    | (.error e, r) => (.error e, r)
  else (.ok none, r)

/-- **No error escapes the handler.** -/
theorem Sessions.onData_never_throws (C : Crypto) (r : Sessions) (data : Bytes) :
    ∃ opened, (r.onData C data).1 = .ok opened := by
  rw [onData]
  by_cases hmedia : isMedia data
  · rw [if_pos hmedia]
    rcases hdec : r.decrypt C (if isRtcp data then .rtcp data else .rtp data) with ⟨result, r'⟩
    cases result with
    | ok dec => exact ⟨some dec, rfl⟩
    | error e =>
      have herror := congrArg Prod.fst hdec
      obtain ⟨⟨message, rfl⟩, -⟩ := Sessions.decrypt_error herror
      exact ⟨none, rfl⟩
  · rw [if_neg hmedia]
    exact ⟨none, rfl⟩

/-- Who has sent a datagram. -/
inductive Origin
  | authentic
  | forged
deriving DecidableEq

variable (C) in
/-- The results of a run, and the contexts behind it. -/
def decryptAll : Sessions → List (Origin × Datagram) →
    List (Origin × Except SrtpError Opened) × Sessions
  | r, [] => ([], r)
  | r, (origin, d) :: arrivals =>
    let rest := decryptAll (r.decrypt C d).2 arrivals
    ((origin, (r.decrypt C d).1) :: rest.1, rest.2)

variable (C) in
/-- No forged datagram carries a valid tag in the contexts that it finds. -/
def ForgedUntagged : Sessions → List (Origin × Datagram) → Prop
  | _, [] => True
  | r, (origin, d) :: arrivals =>
    (origin = .forged → ¬ r.CarriesTag C d) ∧ ForgedUntagged (r.decrypt C d).2 arrivals

/-- What comes from the authentic sender. -/
def authenticOnly {α : Type} (arrivals : List (Origin × α)) : List (Origin × α) :=
  arrivals.filter fun arrival => arrival.1 = .authentic

/-- **Two runs**, with the forged datagrams and without them. -/
lemma decryptAll_authenticOnly {r : Sessions} {arrivals : List (Origin × Datagram)}
    (hforged : ForgedUntagged C r arrivals) :
    authenticOnly (decryptAll C r arrivals).1 = (decryptAll C r (authenticOnly arrivals)).1 ∧
      (decryptAll C r arrivals).2 = (decryptAll C r (authenticOnly arrivals)).2 ∧
      ∀ result, (.forged, result) ∈ (decryptAll C r arrivals).1 →
        ∃ message, result = .error (.authentication message) := by
  induction arrivals generalizing r with
  | nil => exact ⟨rfl, rfl, fun result hmem => absurd hmem List.not_mem_nil⟩
  | cons arrival arrivals ih =>
    obtain ⟨origin, d⟩ := arrival
    obtain ⟨hfirst, hrest⟩ := hforged
    obtain ⟨hresults, hstate, hdropped⟩ := ih hrest
    cases origin with
    | authentic =>
      refine ⟨?_, hstate, fun result hmem => ?_⟩
      · exact congrArg ((Origin.authentic, (r.decrypt C d).1) :: ·) hresults
      · obtain hhead | htail := List.mem_cons.mp hmem
        · cases hhead
        · exact hdropped result htail
    | forged =>
      obtain ⟨⟨message, herror⟩, hkept⟩ := Sessions.decrypt_untagged (hfirst rfl)
      rw [hkept] at hresults hstate hdropped
      simp only [decryptAll, hkept]
      refine ⟨hresults, hstate, fun result hmem => ?_⟩
      obtain hhead | htail := List.mem_cons.mp hmem
      · exact ⟨message, (congrArg Prod.snd hhead).trans herror⟩
      · exact hdropped result htail

/-- **Forged packets cannot disturb the sessions.**  A datagram without a valid tag ends in an
authentication error and changes no context.  The only other errors are those of packets with a valid
tag whose P bit is set and whose deciphered padding is refused; they are authentication errors and
change no context either.  In a run with forged datagrams the authentic ones have the results, and the
contexts the final states, of the run without them. -/
theorem forgeries_dropped :
    (∀ (r : Sessions) (d : Datagram), ¬ r.CarriesTag C d →
      (∃ message, (r.decrypt C d).1 = .error (.authentication message)) ∧ (r.decrypt C d).2 = r) ∧
    (∀ (r : Sessions) (d : Datagram),
      ((∃ e, (r.decrypt C d).1 = .error e) ↔ ¬ r.CarriesTag C d ∨ r.RefusesPadding C d) ∧
      ∀ e, (r.decrypt C d).1 = .error e →
        (∃ message, e = .authentication message) ∧ (r.decrypt C d).2 = r) ∧
    ∀ (r : Sessions) (arrivals : List (Origin × Datagram)), ForgedUntagged C r arrivals →
      authenticOnly (decryptAll C r arrivals).1 = (decryptAll C r (authenticOnly arrivals)).1 ∧
        (decryptAll C r arrivals).2 = (decryptAll C r (authenticOnly arrivals)).2 ∧
        ∀ result, (.forged, result) ∈ (decryptAll C r arrivals).1 →
          ∃ message, result = .error (.authentication message) :=
  ⟨fun _ _ huntagged => Sessions.decrypt_untagged huntagged,
    fun _ _ => ⟨Sessions.decrypt_throws_iff, fun _ herror => Sessions.decrypt_error herror⟩,
    fun _ _ hforged => decryptAll_authenticOnly hforged⟩

/-- The empty datagram, a truncated header and a packet of the sender. -/
def disturbedRun : List (Origin × Datagram) :=
  [(.forged, .rtp []), (.forged, .rtcp [0x80, 200]),
    (.authentic, .rtp [128, 96, 255, 255, 0, 0, 0, 0, 0, 0, 0, 1, 94, 21, 39, 28, 6, 247, 208, 178,
      215, 119, 3])]

/-- The packet of the sender is opened as if it had come alone. -/
theorem forgeries_dropped_run :
    authenticOnly (decryptAll vectorCrypto ⟨vectorContext, vectorContext⟩ disturbedRun).1 =
      (decryptAll vectorCrypto ⟨vectorContext, vectorContext⟩ (authenticOnly disturbedRun)).1 := by
  have hshort : ∀ header roc, ¬ vectorContext.CarriesRtpTag vectorCrypto [] header roc := by
    intro header roc htag
    have hparsed := htag.parsed
    rw [show parseSrtpRtpHeader [] vectorContext.rtpAuthTagLength =
      .error (.authentication failedSrtp) from rfl] at hparsed
    cases hparsed
  have hforged : ForgedUntagged vectorCrypto ⟨vectorContext, vectorContext⟩ disturbedRun := by
    refine ⟨fun _ ⟨header, roc, htag⟩ => hshort header roc htag, ?_, fun h => (nomatch h), trivial⟩
    exact fun _ htag => absurd htag.1 (by decide)
  exact (forgeries_dropped.2.2 _ _ hforged).1

/-- The header of a packet that says that it is padded. -/
def paddedHeader : RtpHeader :=
  { padding := true, payloadType := 96, sequenceNumber := 65535, ssrc := 1 }

/-- The sender has sealed a packet whose last octet, the zero of its payload, is no padding count. -/
theorem padding_refused_with_valid_tag :
    let wire := [160, 96, 255, 255, 0, 0, 0, 0, 0, 0, 0, 1, 89, 96, 160, 211, 30, 228, 18, 215, 151,
      200, 129]
    (vectorContext.encryptRtp vectorCrypto [0] paddedHeader).1 = .ok wire ∧
      Sessions.CarriesTag vectorCrypto ⟨vectorContext, vectorContext⟩ (.rtp wire) ∧
      (vectorContext.decryptRtp vectorCrypto wire).1 = .error (.authentication failedSrtp) := by
  refine ⟨by decide +kernel, ⟨{ paddedHeader with payloadOffset := 12 }, 0, ?_, ?_, ?_⟩, ?_⟩
  · decide +kernel
  · decide +kernel
  · decide +kernel
  · decide +kernel

end Werift.Srtp
