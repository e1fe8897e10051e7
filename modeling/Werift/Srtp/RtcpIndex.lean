import Werift.Lib.Transition
import Werift.Srtp.Sealing

/-!
# The index of a control packet

`encryptRTCP` counts the packets of a source and puts the count, with the E flag in front, behind the
packet.  The count starts again where its sign digit would be set, so that no index comes twice in
`2 ^ 31` packets, and with it no block of the counter mode and no initialization vector of GCM.
-/

namespace Werift.Srtp

open BigEndian
open Rtcp (RtcpHeader)

/-! ## Numbers in words -/

lemma encode_four (n : ℕ) : encode 4 n = [UInt8.ofNat (n / 16777216 % 256),
    UInt8.ofNat (n / 65536 % 256), UInt8.ofNat (n / 256 % 256), UInt8.ofNat (n % 256)] := by
  simp only [encode, List.nil_append, List.cons_append, Nat.div_div_eq_div_mul]

/-- **The E flag** is the sign digit of the index. -/
lemma modify_encode {index : ℕ} (hindex : index < 2 ^ 31) :
    (encode 4 index).modify 0 (· ||| 0x80) = encode 4 (2 ^ 31 + index) := by
  have hflag : ∀ m : Fin 128, UInt8.ofNat m ||| 0x80 = UInt8.ofNat (m + 128) := by decide +kernel
  have hfirst : UInt8.ofNat (index / 16777216 % 256) ||| 0x80 =
      UInt8.ofNat ((2 ^ 31 + index) / 16777216 % 256) := by
    have hlt : index / 16777216 % 256 < 128 := by omega
    rw [hflag ⟨index / 16777216 % 256, hlt⟩]
    congr 1
    simp only
    omega
  have hsecond : index / 65536 % 256 = (2 ^ 31 + index) / 65536 % 256 := by omega
  have hthird : index / 256 % 256 = (2 ^ 31 + index) / 256 % 256 := by omega
  have hlast : index % 256 = (2 ^ 31 + index) % 256 := by omega
  rw [encode_four, encode_four, List.modify_zero_cons, hfirst, hsecond, hthird, hlast]

/-- The octet with the E flag. -/
lemma getD_flagged {index : ℕ} (hindex : index < 2 ^ 31) (pre post : Bytes) :
    (pre ++ (encode 4 (2 ^ 31 + index) ++ post)).getD pre.length 0 >>> 7 = 1 := by
  have hflag : ∀ m : Fin 128, UInt8.ofNat (m + 128) >>> 7 = 1 := by decide +kernel
  have hlt : index / 16777216 < 128 := by omega
  have hfirst : (2 ^ 31 + index) / 16777216 % 256 = index / 16777216 + 128 := by omega
  rw [List.getD_append_right _ _ _ _ le_rfl, Nat.sub_self, encode_four, List.cons_append,
    List.getD_cons_zero, hfirst]
  exact hflag ⟨_, hlt⟩

/-- The next index: it starts again at zero behind `2 ^ 31 - 1`. -/
lemma nextSrtcpIndex_eq {index : ℕ} (hindex : index < 2 ^ 31) :
    Context.nextSrtcpIndex index = (index + 1) % 2 ^ 31 := by
  have hdistance : Js.shiftRight (index + 1 : ℕ) 0x7fffffff = Js.shiftRight (index + 1 : ℕ) 31 := rfl
  rw [Context.nextSrtcpIndex, hdistance]
  by_cases hlast : index + 1 < 2 ^ 31
  · have hzero : Js.shiftRight (index + 1 : ℕ) 31 = 0 := by
      rw [Js.shiftRight_natCast hlast (by decide), Nat.div_eq_of_lt hlast]
      rfl
    rw [hzero, if_neg (not_not.mpr rfl), Nat.mod_eq_of_lt hlast]
  · obtain rfl : index = 2 ^ 31 - 1 := by omega
    rw [if_pos (by decide)]
    rfl

/-- The two masks that take the E flag away. -/
lemma bitAnd_unflag (word : ℕ) : Js.bitAnd word (Js.bitNot (Js.shiftLeft 1 31)) =
    (word % 2 ^ 31 : ℕ) ∧
    Js.bitAnd word (Js.bitNot (Js.shiftLeft 0x80 24)) = (word % 2 ^ 31 : ℕ) := by
  have hmask : Js.bitNot (Js.shiftLeft 1 31) = ((2 ^ 31 - 1 : ℕ) : ℤ) := by decide
  have hmask' : Js.bitNot (Js.shiftLeft 0x80 24) = ((2 ^ 31 - 1 : ℕ) : ℤ) := by decide
  rw [hmask, hmask', Js.bitAnd_mask _ (by decide)]
  exact ⟨rfl, rfl⟩

/-! ## The ciphers of control packets -/

/-- The source of a control packet. -/
def ssrcOf (rtcpPacket : Bytes) : ℕ := readNat 4 rtcpPacket 4

variable {C : Crypto} {k : SessionKeys} {p rest : Bytes} {index : ℕ}

lemma ssrcOf_lt (p : Bytes) : ssrcOf p < 2 ^ 32 := readNat_lt 4 p 4

lemma readUInt32BE_ssrc (hp : 8 ≤ p.length) : Js.readUInt32BE p 4 = some (ssrcOf p : ℤ) := by
  rw [Js.readUInt32BE, Js.readUIntBE, if_pos hp]
  rfl

/-- The source stands in the part that is not encrypted. -/
lemma readUInt32BE_ssrc_append (hp : 8 ≤ p.length) (rest : Bytes) :
    Js.readUInt32BE (p.take 8 ++ rest) 4 = some (ssrcOf p : ℤ) := by
  have hlength : 8 ≤ (p.take 8 ++ rest).length := by
    rw [List.length_append, List.length_take]
    omega
  rw [readUInt32BE_ssrc hlength, ssrcOf, ssrcOf, readNat, readNat]
  have htake : (p.take 8).length = 8 := List.length_take_of_le hp
  rw [List.drop_append_of_le_length (by omega), List.take_append_of_le_length (by
    rw [List.length_drop]; omega), List.drop_take, List.take_take]
  rfl

/-- The counter block of a control packet. -/
def CipherAesCtr.rtcpCounter (k : SessionKeys) (ssrc index : ℕ) : Bytes :=
  counter (index % 65536) (index / 65536) ssrc k.srtcpSessionSalt

lemma CipherAesCtr.generateCounter_index (hindex : index < 2 ^ 31) {ssrc : ℕ}
    (hssrc : ssrc < 2 ^ 32) :
    generateCounter (Js.bitAnd index 0xffff) (Js.shiftRight index 16) (ssrc : ℤ).toNat
      k.srtcpSessionSalt = .ok (rtcpCounter k ssrc index) := by
  have hmask : (0xffff : ℤ) = ((2 ^ 16 - 1 : ℕ) : ℤ) := by norm_num
  have hlow : Js.bitAnd index 0xffff = (index % 65536 : ℕ) := by
    rw [hmask, Js.bitAnd_mask index (by decide)]
    norm_num
  have hhigh : Js.shiftRight index 16 = (index / 65536 : ℕ) := by
    rw [Js.shiftRight_natCast hindex (by decide)]
    norm_num
  rw [hlow, hhigh, Int.toNat_natCast]
  exact generateCounter_eq (by omega) (by omega) hssrc _

/-- The control packet that the counter-mode cipher makes. -/
lemma CipherAesCtr.encryptRTCP_eq (hp : 8 ≤ p.length) (hindex : index < 2 ^ 31) : ∃ enc tag,
    encryptRTCP C k p index = .ok (p.take 8 ++ (enc ++ (encode 4 (2 ^ 31 + index) ++ tag))) ∧
      enc = C.aes128Ctr k.srtcpSessionKey (rtcpCounter k (ssrcOf p) index) (p.drop 8) ∧
      tag = generateSrtcpAuthTag C k (p.take 8 ++ (enc ++ encode 4 (2 ^ 31 + index))) := by
  refine ⟨_, _, ?_, rfl, rfl⟩
  rw [encryptRTCP, readUInt32BE_ssrc hp, orThrow_some, Except.ok_bind,
    generateCounter_index hindex (ssrcOf_lt p), Except.ok_bind, Js.writeUInt32BE, orThrow_writeUIntBE (by omega), Except.ok_bind]
  dsimp only
  rw [modify_encode hindex]
  simp only [List.append_assoc]
  rfl

lemma length_generateSrtcpAuthTag (buf : Bytes) :
    (CipherAesCtr.generateSrtcpAuthTag C k buf).length = 10 := by
  rw [CipherAesCtr.generateSrtcpAuthTag, List.length_take, C.length_hmacSha1]
  rfl

/-- The header of a control packet is not encrypted. -/
lemma parseSrtcpHeader_eq {tagLength indexSize : ℕ} (hp : 8 ≤ p.length)
    (hrest : tagLength + indexSize ≤ rest.length) :
    ∃ header, parseSrtcpHeader (p.take 8 ++ rest) tagLength indexSize = .ok header := by
  have htake : (p.take 8).length = 8 := List.length_take_of_le hp
  have hlong : 8 + tagLength + indexSize ≤ (p.take 8 ++ rest).length := by
    rw [List.length_append, htake]
    omega
  have hfour : Rtcp.RTCP_HEADER_SIZE ≤
      ((p.take 8 ++ rest).take Rtcp.RTCP_HEADER_SIZE).length := by
    have : Rtcp.RTCP_HEADER_SIZE = 4 := rfl
    rw [List.length_take]
    omega
  obtain ⟨header, hheader⟩ := Rtcp.RtcpHeader.isSome_deSerialize hfour
  refine ⟨header, ?_⟩
  rw [parseSrtcpHeader, assertAuthenticated_of hlong, Except.ok_bind, hheader]
  rfl

/-- Where the parts of a sealed control packet end. -/
lemma sealed_parts {pre body trailer tag wire : Bytes} {trailerLength tagLength : ℕ}
    (hwire : wire = pre ++ (body ++ (trailer ++ tag))) (htrailer : trailer.length = trailerLength)
    (htag : tag.length = tagLength) :
    wire.take (wire.length - tagLength) = pre ++ (body ++ trailer) ∧
      wire.drop (wire.length - tagLength) = tag ∧
      wire.length - (tagLength + trailerLength) = (pre ++ body).length ∧
      wire.take (pre ++ body).length = pre ++ body := by
  have hfront : wire = (pre ++ (body ++ trailer)) ++ tag := by
    rw [hwire]
    simp only [List.append_assoc]
  have hlength : wire.length - tagLength = (pre ++ (body ++ trailer)).length := by
    rw [hfront, List.length_append, htag, Nat.add_sub_cancel]
  refine ⟨?_, ?_, ?_, ?_⟩
  · rw [hlength, hfront]
    exact List.take_left
  · rw [hlength, hfront]
    exact List.drop_left
  · rw [← Nat.sub_sub, hlength]
    simp only [List.length_append, htrailer]
    omega
  · rw [hwire, ← List.append_assoc]
    exact List.take_left

/-- **Round trip** of the counter-mode cipher. -/
theorem CipherAesCtr.decryptRTCP_encryptRTCP (hp : 8 ≤ p.length) (hindex : index < 2 ^ 31)
    {wire : Bytes} (hwire : encryptRTCP C k p index = .ok wire) :
    ∃ header, decryptRTCP C k wire = .ok (p, header) := by
  obtain ⟨enc, tag, hwire', henc, htag⟩ := encryptRTCP_eq (C := C) (k := k) hp hindex
  obtain hparts := Except.ok.inj (hwire.symm.trans hwire')
  have htake : (p.take 8).length = 8 := List.length_take_of_le hp
  have htaglen : tag.length = authTagLength := htag ▸ length_generateSrtcpAuthTag _
  have htrailerlen : (encode 4 (2 ^ 31 + index)).length = srtcpIndexSize := length_encode 4 _
  obtain ⟨hauthenticated, hactual, htail, hout⟩ := sealed_parts hparts htrailerlen htaglen
  have hrest : authTagLength + srtcpIndexSize ≤
      (enc ++ (encode 4 (2 ^ 31 + index) ++ tag)).length := by
    simp only [List.length_append, htaglen, htrailerlen]
    omega
  obtain ⟨header, hheader⟩ := parseSrtcpHeader_eq hp hrest
  rw [← hparts] at hheader
  have hflag : wire.getD (p.take 8 ++ enc).length 0 >>> 7 ≠ 0 := by
    rw [hparts, ← List.append_assoc, getD_flagged hindex]
    decide
  have hread : Js.readUInt32BE wire (p.take 8 ++ enc).length = some ((2 ^ 31 + index : ℕ) : ℤ) := by
    have hwrite : Js.writeUIntBE 4 ((2 ^ 31 + index : ℕ) : ℤ) = some (encode 4 (2 ^ 31 + index)) :=
      Js.writeUIntBE_natCast (by omega)
    have happend := Js.readUIntBE_append hwrite (p.take 8 ++ enc) tag
    rw [hparts, Js.readUInt32BE]
    simpa only [List.append_assoc] using happend
  have hssrc : Js.readUInt32BE wire 4 = some (ssrcOf p : ℤ) := by
    rw [hparts]
    exact readUInt32BE_ssrc_append hp _
  have hplain : C.aes128Ctr k.srtcpSessionKey (rtcpCounter k (ssrcOf p) index) enc = p.drop 8 := by
    rw [henc]
    exact CounterMode.crypt_crypt _
  refine ⟨header, ?_⟩
  rw [decryptRTCP, hheader, Except.ok_bind]
  dsimp only
  rw [hauthenticated, hactual, htail, hout, ← htag, assertAuthenticated_of rfl, Except.ok_bind,
    if_neg hflag, hread, orThrow_some, Except.ok_bind, hssrc, orThrow_some, Except.ok_bind, (bitAnd_unflag _).1, Nat.add_mod_left,
    Nat.mod_eq_of_lt hindex,
    generateCounter_index hindex (ssrcOf_lt p), Except.ok_bind, List.take_left' htake,
    List.drop_left' htake, hplain, List.take_append_drop]
  rfl

/-- The initialization vector of a control packet. -/
def CipherAesGcm.rtcpIv (k : SessionKeys) (ssrc index : ℕ) : Bytes :=
  CounterMode.mask k.srtcpSessionSalt
    (List.replicate 2 0 ++ encode 4 ssrc ++ List.replicate 2 0 ++ encode 4 index)

lemma CipherAesGcm.rtcpInitializationVector_eq {ssrc : ℕ} (hssrc : ssrc < 2 ^ 32)
    (hindex : index < 2 ^ 31) :
    rtcpInitializationVector k (ssrc : ℤ).toNat (index : ℕ) = .ok (rtcpIv k ssrc index) := by
  rw [rtcpInitializationVector, Int.toNat_natCast, Js.writeUInt32BE, Js.writeUInt32BE,
    orThrow_writeUIntBE (by omega), orThrow_writeUIntBE (by omega)]
  rfl

/-- The control packet that the cipher in Galois counter mode makes. -/
lemma CipherAesGcm.encryptRTCP_eq (hp : 8 ≤ p.length) (hindex : index < 2 ^ 31) : ∃ enc tag,
    encryptRTCP C k p index = .ok (p.take 8 ++ (enc ++ (tag ++ encode 4 (2 ^ 31 + index)))) ∧
      enc = C.aes128Gcm k.srtcpSessionKey (rtcpIv k (ssrcOf p) index) (p.drop 8) ∧
      tag = C.gcmTag k.srtcpSessionKey (rtcpIv k (ssrcOf p) index)
        (p.take 8 ++ encode 4 (2 ^ 31 + index)) enc := by
  have htake : (p.take 8).length = 8 := List.length_take_of_le hp
  have haad : rtcpAdditionalAuthenticatedData p index =
      .ok (p.take 8 ++ encode 4 (2 ^ 31 + index)) := by
    rw [rtcpAdditionalAuthenticatedData, Js.writeUInt32BE, orThrow_writeUIntBE (by omega),
      Except.ok_bind]
    have hmodify : (p.take 8 ++ encode 4 index).modify 8 (· ||| 0x80) =
        p.take 8 ++ (encode 4 index).modify 0 (· ||| 0x80) := by
      have htail := List.modifyTailIdx_add (List.modifyHead (· ||| (0x80 : UInt8))) 0 (p.take 8)
        (encode 4 index)
      rwa [htake] at htail
    rw [hmodify, modify_encode hindex]
    rfl
  have hslice : Js.slice (p.take 8 ++ encode 4 (2 ^ 31 + index)) 8 12 =
      encode 4 (2 ^ 31 + index) := by
    rw [Js.slice, List.drop_left' htake]
    exact List.take_of_length_le (by rw [length_encode])
  refine ⟨_, _, ?_, rfl, rfl⟩
  rw [encryptRTCP, readUInt32BE_ssrc hp, orThrow_some, Except.ok_bind,
    rtcpInitializationVector_eq (ssrcOf_lt p) hindex, Except.ok_bind, haad, Except.ok_bind, hslice]
  simp only [List.append_assoc]
  rfl

/-- **Round trip** of the cipher in Galois counter mode. -/
theorem CipherAesGcm.decryptRTCP_encryptRTCP (hp : 8 ≤ p.length) (hindex : index < 2 ^ 31)
    {wire : Bytes} (hwire : encryptRTCP C k p index = .ok wire) :
    ∃ header, decryptRTCP C k wire = .ok (p, header) := by
  obtain ⟨enc, tag, hwire', henc, htag⟩ := encryptRTCP_eq (C := C) (k := k) hp hindex
  obtain hparts := Except.ok.inj (hwire.symm.trans hwire')
  have htake : (p.take 8).length = 8 := List.length_take_of_le hp
  have htaglen : tag.length = aeadAuthTagLen := htag ▸ C.length_gcmTag _ _ _ _
  set trailer := encode 4 (2 ^ 31 + index) with htrailer
  have htrailerlen : trailer.length = srtcpIndexSize := length_encode 4 _
  obtain ⟨hfront, hback, -, -⟩ := sealed_parts hparts htaglen htrailerlen
  have hrest : aeadAuthTagLen + srtcpIndexSize ≤ (enc ++ (tag ++ trailer)).length := by
    simp only [List.length_append, htaglen, htrailerlen]
    omega
  obtain ⟨header, hheader⟩ := parseSrtcpHeader_eq hp hrest
  rw [← hparts] at hheader
  have hindexOffset : wire.length - srtcpIndexSize = (p.take 8 ++ enc ++ tag).length := by
    rw [hparts]
    simp only [List.length_append, htrailerlen]
    omega
  have htagOffset : wire.length - srtcpIndexSize - aeadAuthTagLen = (p.take 8 ++ enc).length := by
    rw [hindexOffset]
    simp only [List.length_append, htaglen]
    omega
  have hread : Js.readUInt32BE wire (wire.length - srtcpIndexSize) =
      some ((2 ^ 31 + index : ℕ) : ℤ) := by
    have hwrite : Js.writeUIntBE 4 ((2 ^ 31 + index : ℕ) : ℤ) = some trailer :=
      Js.writeUIntBE_natCast (by omega)
    have happend := Js.readUIntBE_append hwrite (p.take 8 ++ enc ++ tag) []
    rw [hindexOffset, hparts, Js.readUInt32BE]
    simpa only [List.append_assoc, List.append_nil] using happend
  have hssrc : Js.readUInt32BE wire 4 = some (ssrcOf p : ℤ) := by
    rw [hparts]
    exact readUInt32BE_ssrc_append hp _
  have hencrypted : decide (((2 ^ 31 + index : ℕ) : ℤ).toNat >>> 31 = 1) = true := by
    rw [Int.toNat_natCast, Nat.shiftRight_eq_div_pow, decide_eq_true_eq]
    omega
  have hfirst : wire.take 8 = p.take 8 := by
    rw [hparts]
    exact List.take_left' htake
  have hcipherText : Js.slice wire 8 (wire.length - srtcpIndexSize - aeadAuthTagLen) = enc := by
    rw [htagOffset, hparts, Js.slice, List.drop_left' htake, List.length_append, htake,
      Nat.add_sub_cancel_left]
    exact List.take_left
  have hactual : Js.slice wire (wire.length - srtcpIndexSize - aeadAuthTagLen)
      (wire.length - srtcpIndexSize) = tag := by
    have hparts' : wire = (p.take 8 ++ enc) ++ (tag ++ trailer) := by
      rw [hparts, List.append_assoc]
    rw [htagOffset, hindexOffset, hparts', Js.slice, List.drop_left, List.length_append,
      Nat.add_sub_cancel_left]
    exact List.take_left
  have hplain : C.aes128Gcm k.srtcpSessionKey (rtcpIv k (ssrcOf p) index) enc = p.drop 8 := by
    rw [henc]
    exact CounterMode.crypt_crypt _
  refine ⟨header, ?_⟩
  rw [decryptRTCP, hheader, Except.ok_bind]
  dsimp only
  rw [hssrc, orThrow_some, Except.ok_bind, hread, orThrow_some, Except.ok_bind,
    (bitAnd_unflag _).2, Nat.add_mod_left, Nat.mod_eq_of_lt hindex,
    rtcpInitializationVector_eq (ssrcOf_lt p) hindex, Except.ok_bind, hencrypted, if_pos rfl,
    if_pos rfl, if_pos rfl, hcipherText, hactual, hfirst, hback, htag, checkAuthTag_eq,
    Except.ok_bind, hplain, List.take_append_drop]
  rfl

/-! ## Blocks and vectors -/

lemma encode_injective {width m n : ℕ} (hm : m < 256 ^ width) (hn : n < 256 ^ width)
    (heq : encode width m = encode width n) : m = n := by
  rw [← decode_encode hm, heq, decode_encode hn]

/-- The part of a counter in front of its count of blocks. -/
def CipherAesCtr.counterFront (ssrc index : ℕ) : Bytes :=
  List.replicate 4 0 ++ encode 4 ssrc ++ (encode 4 (index / 65536) ++ encode 2 (index % 65536))

lemma CipherAesCtr.length_counterFront (ssrc index : ℕ) : (counterFront ssrc index).length = 14 := by
  simp [counterFront]

/-- The last two octets of a counter are zero: the salt has fourteen octets. -/
lemma CipherAesCtr.rtcpCounter_eq {ssrc : ℕ} (hsalt : k.srtcpSessionSalt.length ≤ 14) :
    rtcpCounter k ssrc index =
      CounterMode.mask k.srtcpSessionSalt (counterFront ssrc index) ++ [0, 0] := by
  have hword : ∀ n, encode 4 (n * 65536) = encode 2 n ++ [0, 0] := by
    intro n
    have h1 : n * 65536 / 16777216 % 256 = n / 256 % 256 := by omega
    have h2 : n * 65536 / 65536 % 256 = n % 256 := by omega
    have h3 : n * 65536 / 256 % 256 = 0 := by omega
    have h4 : n * 65536 % 256 = 0 := by omega
    rw [encode_four, h1, h2, h3, h4]
    rfl
  have h14 : k.srtcpSessionSalt[14]?.getD 0 = 0 := by
    rw [List.getElem?_eq_none hsalt]
    rfl
  have h15 : k.srtcpSessionSalt[15]?.getD 0 = 0 := by
    rw [List.getElem?_eq_none (by omega)]
    rfl
  have hlist : List.replicate 4 0 ++ encode 4 ssrc ++ encode 4 (index / 65536) ++
      encode 4 (index % 65536 * 65536) = counterFront ssrc index ++ [0, 0] := by
    rw [hword, counterFront]
    simp only [List.append_assoc]
  rw [rtcpCounter, counter, hlist]
  simp [CounterMode.mask, List.mapIdx_append, length_counterFront, h14, h15]

lemma CipherAesCtr.decode_rtcpCounter {ssrc : ℕ} (hsalt : k.srtcpSessionSalt.length ≤ 14) :
    decode (rtcpCounter k ssrc index) =
      decode (CounterMode.mask k.srtcpSessionSalt (counterFront ssrc index)) * 65536 := by
  have hlist : ∀ front : Bytes, front ++ [0, 0] = (front ++ [0]) ++ [0] := by simp
  have hzero : (0 : UInt8).toNat = 0 := rfl
  rw [rtcpCounter_eq hsalt, hlist, decode_append_singleton, decode_append_singleton, hzero]
  ring

/-- Two indices have different counters. -/
lemma CipherAesCtr.index_of_counterFront {ssrc index' : ℕ} (hindex : index < 2 ^ 31)
    (hindex' : index' < 2 ^ 31)
    (heq : counterFront ssrc index = counterFront ssrc index') : index = index' := by
  have hback := List.append_cancel_left heq
  obtain ⟨hhigh, hlow⟩ := List.append_inj hback (by simp)
  have := encode_injective (by omega) (by omega) hhigh
  have := encode_injective (by omega) (by omega) hlow
  omega

/-- **The blocks of two indices** are different, in the first `2 ^ 16` blocks of a packet. -/
theorem CipherAesCtr.counterBlock_ne {ssrc index' j j' : ℕ} (hsalt : k.srtcpSessionSalt.length ≤ 14)
    (hindex : index < 2 ^ 31) (hindex' : index' < 2 ^ 31) (hne : index ≠ index')
    (hj : j < 2 ^ 16) (hj' : j' < 2 ^ 16) :
    CounterMode.counterBlock (rtcpCounter k ssrc index) j ≠
      CounterMode.counterBlock (rtcpCounter k ssrc index') j' := by
  have hlt : ∀ n, decode (CounterMode.mask k.srtcpSessionSalt (counterFront ssrc n)) < 256 ^ 14 := by
    intro n
    have := decode_lt (CounterMode.mask k.srtcpSessionSalt (counterFront ssrc n))
    rwa [CounterMode.length_mask, length_counterFront] at this
  intro heq
  have hblocks := encode_injective (by rw [decode_rtcpCounter hsalt]; have := hlt index; omega)
    (by rw [decode_rtcpCounter hsalt]; have := hlt index'; omega) heq
  rw [decode_rtcpCounter hsalt, decode_rtcpCounter hsalt] at hblocks
  have hfront : decode (CounterMode.mask k.srtcpSessionSalt (counterFront ssrc index)) =
      decode (CounterMode.mask k.srtcpSessionSalt (counterFront ssrc index')) := by omega
  have hbytes := congrArg (encode 14) hfront
  have hlength : ∀ n, (CounterMode.mask k.srtcpSessionSalt (counterFront ssrc n)).length = 14 := by
    intro n
    rw [CounterMode.length_mask, length_counterFront]
  have hmask := encode_decode (CounterMode.mask k.srtcpSessionSalt (counterFront ssrc index))
  have hmask' := encode_decode (CounterMode.mask k.srtcpSessionSalt (counterFront ssrc index'))
  rw [hlength] at hmask hmask'
  rw [hmask, hmask'] at hbytes
  exact hne (index_of_counterFront hindex hindex' (CounterMode.mask_injective hbytes))

/-- **The vectors of two indices** are different. -/
theorem CipherAesGcm.rtcpIv_ne {ssrc index' : ℕ} (hindex : index < 2 ^ 31)
    (hindex' : index' < 2 ^ 31) (hne : index ≠ index') :
    rtcpIv k ssrc index ≠ rtcpIv k ssrc index' := by
  intro heq
  have hback := List.append_cancel_left (CounterMode.mask_injective heq)
  exact hne (encode_injective (by omega) (by omega) hback)

/-! ## Contexts -/

namespace Context

variable {ctx : Context} {ssrc : ℕ}

/-- The indices of a context are numbers of 31 digits. -/
def IndicesInRange (ctx : Context) : Prop := ∀ ssrc, ctx.index ssrc < 2 ^ 31

lemma index_setSrtcp (s : SrtcpSSRCState) (ssrc' : ℕ) :
    (ctx.setSrtcp s ssrc').index ssrc = if ssrc = ssrc' then s.srtcpIndex else ctx.index ssrc := by
  by_cases heq : ssrc = ssrc'
  · subst heq
    simp [index, srtcpSsrcState, setSrtcp]
  · simp [index, srtcpSsrcState, setSrtcp, heq]

/-- **What `encryptRTCP` does to the indices**: it advances the one of the source of the packet. -/
lemma index_encryptRTCP (hctx : ctx.IndicesInRange) (hp : 8 ≤ p.length) :
    (ctx.encryptRTCP C p).2.index ssrc =
      if ssrc = ssrcOf p then (ctx.index ssrc + 1) % 2 ^ 31 else ctx.index ssrc := by
  rw [encryptRTCP, readUInt32BE_ssrc hp, orThrow_some]
  dsimp only
  rw [index_setSrtcp, Int.toNat_natCast]
  split_ifs with heq
  · subst heq
    exact nextSrtcpIndex_eq (hctx _)
  · rfl

/-- What happens to the sending context. -/
inductive SrtcpEvent
  | encrypt (rawRtcp : Bytes)
  | setIndex (ssrc index : ℕ)

/-- One event. -/
def srtcpStep (C : Crypto) (ctx : Context) : SrtcpEvent → Context
  | .encrypt rawRtcp => (ctx.encryptRTCP C rawRtcp).2
  | .setIndex ssrc index => ctx.setIndex ssrc index

lemma encryptRTCP_keeps (ctx : Context) (p : Bytes) : (ctx.encryptRTCP C p).2.profile = ctx.profile ∧
    (ctx.encryptRTCP C p).2.keys = ctx.keys := by
  rw [encryptRTCP]
  split
  · exact ⟨rfl, rfl⟩
  · exact ⟨rfl, rfl⟩

lemma srtcpStep_keeps (ctx : Context) (e : SrtcpEvent) :
    (ctx.srtcpStep C e).profile = ctx.profile ∧ (ctx.srtcpStep C e).keys = ctx.keys := by
  cases e with
  | encrypt p => exact encryptRTCP_keeps ctx p
  | setIndex ssrc index => exact ⟨rfl, rfl⟩

/-- **One event keeps the indices in range.** -/
lemma IndicesInRange.step (hctx : ctx.IndicesInRange) (e : SrtcpEvent) :
    (ctx.srtcpStep C e).IndicesInRange := by
  intro ssrc
  cases e with
  | encrypt p =>
    rw [srtcpStep]
    by_cases hp : 8 ≤ p.length
    · rw [index_encryptRTCP hctx hp]
      split_ifs
      · exact Nat.mod_lt _ (by decide)
      · exact hctx ssrc
    · have hshort : Js.readUInt32BE p 4 = none := if_neg hp
      rw [encryptRTCP, hshort]
      exact hctx ssrc
  | setIndex ssrc' index =>
    rw [srtcpStep, setIndex, index_setSrtcp]
    split_ifs
    · have : index % 0x7fffffff < 0x7fffffff := Nat.mod_lt _ (by decide)
      dsimp only
      omega
    · exact hctx ssrc

/-- **The indices stay in range over every run**, and the keys stay the same. -/
theorem indicesInRange_of_reachable {ctx₀ : Context} (hctx₀ : ctx₀.IndicesInRange)
    (hreach : Transition.Reachable (fun ctx e => some (ctx.srtcpStep C e)) ctx₀ ctx) :
    ctx.IndicesInRange ∧ ctx.profile = ctx₀.profile ∧ ctx.keys = ctx₀.keys := by
  induction hreach with
  | start => exact ⟨hctx₀, rfl, rfl⟩
  | @next s s' e _ _ hstep ih =>
    obtain rfl := Option.some.inj hstep
    obtain ⟨hprofile, hkeys⟩ := srtcpStep_keeps (C := C) s e
    exact ⟨ih.1.step e, hprofile.trans ih.2.1, hkeys.trans ih.2.2⟩

/-- The word that holds the E flag and the index. -/
def trailerOf (profile : SrtpProfile) (wire : Bytes) : Bytes :=
  match profile with
  | .aes128CmHmacSha1_80 => Js.slice wire (wire.length - 14) (wire.length - 10)
  | .aeadAes128Gcm => wire.drop (wire.length - 4)

/-- **A control packet is opened again**, and carries its index behind the E flag. -/
lemma decryptRTCP_encryptRTCP (receiver : Context) (hctx : ctx.IndicesInRange)
    (hp : 8 ≤ p.length) (hprofile : receiver.profile = ctx.profile) (hkeys : receiver.keys = ctx.keys) :
    ∃ wire header, (ctx.encryptRTCP C p).1 = .ok wire ∧
      receiver.decryptRTCP C wire = .ok (p, header) ∧
      decode (trailerOf ctx.profile wire) = 2 ^ 31 + (ctx.encryptRTCP C p).2.index (ssrcOf p) := by
  have hlt : nextSrtcpIndex (ctx.index (ssrcOf p)) < 2 ^ 31 := by
    rw [nextSrtcpIndex_eq (hctx _)]
    exact Nat.mod_lt _ (by decide)
  have hindex : (ctx.encryptRTCP C p).2.index (ssrcOf p) =
      nextSrtcpIndex (ctx.index (ssrcOf p)) := by
    rw [index_encryptRTCP hctx hp, if_pos rfl, nextSrtcpIndex_eq (hctx _)]
  have hcipher : (ctx.encryptRTCP C p).1 =
      ctx.cipherEncryptRTCP C p (nextSrtcpIndex (ctx.index (ssrcOf p))) := by
    rw [encryptRTCP, readUInt32BE_ssrc hp, orThrow_some]
    rfl
  rw [hindex, hcipher]
  set index := nextSrtcpIndex (ctx.index (ssrcOf p))
  simp only [cipherEncryptRTCP, decryptRTCP, hprofile, hkeys]
  cases hcase : ctx.profile with
  | aes128CmHmacSha1_80 =>
    obtain ⟨enc, tag, hwire, -, htag⟩ :=
      CipherAesCtr.encryptRTCP_eq (C := C) (k := ctx.keys) hp hlt
    obtain ⟨header, hopen⟩ := CipherAesCtr.decryptRTCP_encryptRTCP hp hlt hwire
    refine ⟨_, header, hwire, hopen, ?_⟩
    have htaglen : tag.length = 10 := htag ▸ length_generateSrtcpAuthTag _
    set trailer := encode 4 (2 ^ 31 + index) with htrailer
    have htrailerlen : trailer.length = 4 := length_encode 4 _
    set wire := p.take 8 ++ (enc ++ (trailer ++ tag)) with hparts
    obtain ⟨-, -, htail, -⟩ := sealed_parts hparts htrailerlen htaglen
    have hlong : 14 ≤ wire.length := by
      rw [hparts]
      simp only [List.length_append, htrailerlen, htaglen]
      omega
    have hwidth : wire.length - 10 - (wire.length - 14) = 4 := by omega
    have hfront : wire = (p.take 8 ++ enc) ++ (trailer ++ tag) := by
      rw [hparts, List.append_assoc]
    have hdrop : wire.drop (wire.length - 14) = trailer ++ tag := by
      rw [show wire.length - 14 = (p.take 8 ++ enc).length from htail, hfront]
      exact List.drop_left
    rw [trailerOf, Js.slice, hdrop, hwidth, List.take_left' htrailerlen, htrailer,
      decode_encode (by omega)]
  | aeadAes128Gcm =>
    obtain ⟨enc, tag, hwire, -, htag⟩ :=
      CipherAesGcm.encryptRTCP_eq (C := C) (k := ctx.keys) hp hlt
    obtain ⟨header, hopen⟩ := CipherAesGcm.decryptRTCP_encryptRTCP hp hlt hwire
    refine ⟨_, header, hwire, hopen, ?_⟩
    set wire := p.take 8 ++ (enc ++ (tag ++ encode 4 (2 ^ 31 + index))) with hparts
    obtain ⟨-, hback, -, -⟩ := sealed_parts hparts rfl (length_encode 4 (2 ^ 31 + index))
    rw [trailerOf, hback, decode_encode (by omega)]

/-! ## Runs -/

variable (C) in
/-- The sending context before the control packet `i`. -/
def srtcpBefore (ctx : Context) (packets : ℕ → Bytes) : ℕ → Context
  | 0 => ctx
  | i + 1 => ((srtcpBefore ctx packets i).encryptRTCP C (packets i)).2

variable (C) in
/-- The index of the control packet `i`. -/
def srtcpIndexOf (ctx : Context) (packets : ℕ → Bytes) (i : ℕ) : ℕ :=
  (srtcpBefore C ctx packets (i + 1)).index (ssrcOf (packets i))

variable {packets : ℕ → Bytes}

/-- **The index of a source counts its packets.** -/
lemma index_srtcpBefore (hctx : ctx.IndicesInRange) (hpackets : ∀ i, 8 ≤ (packets i).length)
    (ssrc n : ℕ) :
    (srtcpBefore C ctx packets n).IndicesInRange ∧
      (srtcpBefore C ctx packets n).profile = ctx.profile ∧
      (srtcpBefore C ctx packets n).keys = ctx.keys ∧
      (srtcpBefore C ctx packets n).index ssrc =
        (ctx.index ssrc + Nat.count (fun i => ssrcOf (packets i) = ssrc) n) % 2 ^ 31 := by
  induction n with
  | zero => exact ⟨hctx, rfl, rfl, (Nat.mod_eq_of_lt (hctx ssrc)).symm⟩
  | succ n ih =>
    obtain ⟨hrange, hprofile, hkeys, hindex⟩ := ih
    obtain ⟨hprofile', hkeys'⟩ := encryptRTCP_keeps (C := C)
      (srtcpBefore C ctx packets n) (packets n)
    refine ⟨hrange.step (.encrypt (packets n)), hprofile'.trans hprofile, hkeys'.trans hkeys, ?_⟩
    rw [srtcpBefore, index_encryptRTCP hrange (hpackets n), hindex, Nat.count_succ]
    by_cases hssrc : ssrcOf (packets n) = ssrc
    · rw [if_pos hssrc.symm, if_pos hssrc, Nat.mod_add_mod]
      rfl
    · rw [if_neg (Ne.symm hssrc), if_neg hssrc, Nat.add_zero]

/-- **Indices in a window** of fewer than `2 ^ 31` packets of one source are different. -/
lemma srtcpIndexOf_ne (hctx : ctx.IndicesInRange) (hpackets : ∀ i, 8 ≤ (packets i).length)
    {i j : ℕ} (hij : i < j) (hssrc : ssrcOf (packets j) = ssrcOf (packets i))
    (hwindow : Nat.count (fun n => ssrcOf (packets n) = ssrcOf (packets i)) (j + 1) <
      Nat.count (fun n => ssrcOf (packets n) = ssrcOf (packets i)) i + 2 ^ 31) :
    srtcpIndexOf C ctx packets i ≠ srtcpIndexOf C ctx packets j := by
  have hi := (index_srtcpBefore (C := C) hctx hpackets (ssrcOf (packets i)) (i + 1)).2.2.2
  have hj := (index_srtcpBefore (C := C) hctx hpackets (ssrcOf (packets i)) (j + 1)).2.2.2
  rw [srtcpIndexOf, srtcpIndexOf, hssrc, hi, hj]
  have hcount := Nat.count_succ (fun n => ssrcOf (packets n) = ssrcOf (packets i)) i
  rw [if_pos rfl] at hcount
  have hcount' := Nat.count_succ (fun n => ssrcOf (packets n) = ssrcOf (packets i)) j
  rw [if_pos hssrc] at hcount'
  have hmono : Nat.count (fun n => ssrcOf (packets n) = ssrcOf (packets i)) (i + 1) ≤
      Nat.count (fun n => ssrcOf (packets n) = ssrcOf (packets i)) j :=
    Nat.count_monotone _ hij
  omega

end Context

variable {masterKey masterSalt : Bytes} {profile : SrtpProfile} {ctx : Context} {packets : ℕ → Bytes}

/-- **Control packets.**  From every state that the sending context reaches, each control packet is
opened to what it was, its index is a number of 31 digits that the trailer carries behind the E flag,
and in a window of `2 ^ 31 - 1` packets of its source no other packet has its index, a block of its
counter or its initialization vector. -/
theorem srtcp_roundTrip
    (hreach : Transition.Reachable (fun ctx e => some (Context.srtcpStep C ctx e))
      (.new C masterKey masterSalt profile) ctx)
    (hpackets : ∀ i, 8 ≤ (packets i).length) (i : ℕ) :
    (∃ wire header,
      ((Context.srtcpBefore C ctx packets i).encryptRTCP C (packets i)).1 = .ok wire ∧
      (Context.new C masterKey masterSalt profile).decryptRTCP C wire = .ok (packets i, header) ∧
      decode (Context.trailerOf profile wire) = 2 ^ 31 + Context.srtcpIndexOf C ctx packets i) ∧
    Context.srtcpIndexOf C ctx packets i < 2 ^ 31 ∧
    ∀ j, i < j → ssrcOf (packets j) = ssrcOf (packets i) →
      Nat.count (fun n => ssrcOf (packets n) = ssrcOf (packets i)) (j + 1) ≤
        Nat.count (fun n => ssrcOf (packets n) = ssrcOf (packets i)) i + (2 ^ 31 - 1) →
      Context.srtcpIndexOf C ctx packets i ≠ Context.srtcpIndexOf C ctx packets j ∧
      (∀ b < 2 ^ 16, ∀ b' < 2 ^ 16,
        CounterMode.counterBlock (CipherAesCtr.rtcpCounter ctx.keys (ssrcOf (packets i))
          (Context.srtcpIndexOf C ctx packets i)) b ≠
        CounterMode.counterBlock (CipherAesCtr.rtcpCounter ctx.keys (ssrcOf (packets j))
          (Context.srtcpIndexOf C ctx packets j)) b') ∧
      CipherAesGcm.rtcpIv ctx.keys (ssrcOf (packets i)) (Context.srtcpIndexOf C ctx packets i) ≠
        CipherAesGcm.rtcpIv ctx.keys (ssrcOf (packets j))
          (Context.srtcpIndexOf C ctx packets j) := by
  have hfresh : (Context.new C masterKey masterSalt profile).IndicesInRange := by
    intro ssrc
    exact (by decide : 0 < 2 ^ 31)
  obtain ⟨hctx, hprofile, hkeys⟩ := Context.indicesInRange_of_reachable hfresh hreach
  have hsalt : ctx.keys.srtcpSessionSalt.length ≤ 14 := by
    rw [hkeys]
    exact List.length_take_le _ _
  have hrange : ∀ n, Context.srtcpIndexOf C ctx packets n < 2 ^ 31 := by
    intro n
    exact (Context.index_srtcpBefore hctx hpackets 0 (n + 1)).1 _
  obtain ⟨hbefore, hprofile', hkeys', -⟩ :=
    Context.index_srtcpBefore (C := C) hctx hpackets 0 i
  refine ⟨?_, hrange i, fun j hij hssrc hwindow => ?_⟩
  · obtain ⟨wire, header, hwire, hopen, htrailer⟩ := Context.decryptRTCP_encryptRTCP (C := C)
      (.new C masterKey masterSalt profile) hbefore (hpackets i)
      (hprofile'.trans hprofile).symm (hkeys'.trans hkeys).symm
    rw [hprofile'.trans hprofile] at htrailer
    exact ⟨wire, header, hwire, hopen, htrailer⟩
  · have hne := Context.srtcpIndexOf_ne (C := C) hctx hpackets hij hssrc (by omega)
    rw [hssrc]
    exact ⟨hne, fun b hb b' hb' => CipherAesCtr.counterBlock_ne hsalt (hrange i) (hrange j) hne hb hb',
      CipherAesGcm.rtcpIv_ne (hrange i) (hrange j) hne⟩

/-- A receiver report of one more octet, sealed with the keys of RFC 3711. -/
theorem srtcp_roundTrip_first : ∃ wire header,
    (vectorContext.encryptRTCP vectorCrypto [0x80, 200, 0, 1, 0, 0, 0, 1, 9]).1 = .ok wire ∧
      vectorContext.decryptRTCP vectorCrypto wire =
        .ok ([0x80, 200, 0, 1, 0, 0, 0, 1, 9], header) := by
  have hstart : Transition.Reachable (fun ctx e => some (Context.srtcpStep vectorCrypto ctx e))
      (.new vectorCrypto vectorKey vectorSalt .aes128CmHmacSha1_80) vectorContext := .start
  have hlong : ∀ i : ℕ, 8 ≤ ((fun _ => [0x80, 200, 0, 1, 0, 0, 0, 1, 9] : ℕ → Bytes) i).length := by
    intro i
    exact (by decide : 8 ≤ 9)
  obtain ⟨wire, header, hwire, hopen, -⟩ := (srtcp_roundTrip hstart hlong 0).1
  exact ⟨wire, header, hwire, hopen⟩

end Werift.Srtp
