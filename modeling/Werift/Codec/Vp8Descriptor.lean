import Werift.Codec.Vp8
import Werift.Lib.Except

/-!
# Payload descriptors of VP8 (RFC 7741, section 4.2)

The octet of `TID`, `Y` and `KEYIDX` is there if the bit `T` or `K` is set.  The parser skips it if `L` or `K`
is set; so it takes this octet for payload where `T` alone is set (`descriptor_iff`).
-/

namespace Werift.Codec

open Rtp (Bytes)

namespace Vp8

/-! ## The format -/

/-- The `PictureID` behind its bit `M`. -/
inductive PictureIdField
  | short (octet : UInt8) (mBit : getBit octet 0 1 = 0)
  | long (octet low : UInt8) (mBit : getBit octet 0 1 = 1)

namespace PictureIdField

/-- The octets of the field. -/
def bytes : PictureIdField → Bytes
  | short octet _ => [octet]
  | long octet low _ => [octet, low]

/-- The bit `M`. -/
def mBit : PictureIdField → ℕ
  | short .. => 0
  | long .. => 1

/-- The 7 or 15 bits of the `PictureID`. -/
def pictureId : PictureIdField → ℕ
  | short octet _ => getBit octet 1 7
  | long octet low _ => getBit octet 1 7 * 256 + low.toNat

end PictureIdField

/-- The octet of the bits `I`, `L`, `T` and `K`, and the fields that they announce. -/
structure Extension where
  octet : UInt8
  pictureId : Option PictureIdField
  tl0PicIdx : Option UInt8
  tidKeyIdx : Option UInt8
  iBit : getBit octet 0 1 = pictureId.isSome.toNat
  lBit : getBit octet 1 1 = tl0PicIdx.isSome.toNat
  tkBit : tidKeyIdx.isSome = true ↔ getBit octet 2 1 = 1 ∨ getBit octet 3 1 = 1
  tBit_of_lBit : getBit octet 1 1 = 1 → getBit octet 2 1 = 1

/-- The octets of an extension. -/
def Extension.bytes (e : Extension) : Bytes :=
  e.octet :: ((e.pictureId.elim [] PictureIdField.bytes) ++ e.tl0PicIdx.toList ++ e.tidKeyIdx.toList)

/-- A payload descriptor. -/
structure PayloadDescriptor where
  octet : UInt8
  extension : Option Extension
  xBit : getBit octet 0 1 = extension.isSome.toNat

namespace PayloadDescriptor

variable (d : PayloadDescriptor)

/-- The octets of a descriptor. -/
def bytes : Bytes := d.octet :: d.extension.elim [] Extension.bytes

/-- The `PictureID`, if there is one. -/
def pictureIdField : Option PictureIdField := d.extension.bind Extension.pictureId

/-- Whether the packet begins the first partition, where the header of the VP8 payload stands. -/
def StartsFrame : Prop := getBit d.octet 3 1 = 1 ∧ getBit d.octet 5 3 = 0

instance : Decidable d.StartsFrame := inferInstanceAs (Decidable (_ ∧ _))

/-- The fields of the descriptor. -/
def head : Vp8RtpPayload where
  xBit := getBit d.octet 0 1
  nBit := getBit d.octet 2 1
  sBit := getBit d.octet 3 1
  pid := getBit d.octet 5 3
  iBit := d.extension.map fun e => getBit e.octet 0 1
  lBit := d.extension.map fun e => getBit e.octet 1 1
  tBit := d.extension.map fun e => getBit e.octet 2 1
  kBit := d.extension.map fun e => getBit e.octet 3 1
  mBit := d.pictureIdField.map PictureIdField.mBit
  pictureId := d.pictureIdField.map PictureIdField.pictureId

/-- The fields of a packet: those of the descriptor, and the header of the VP8 payload behind it. -/
def fields (payload : Bytes) : Vp8RtpPayload :=
  let p := { d.head with payload }
  if d.StartsFrame then
    { p with size0 := getBit (payload.getD 0 0) 0 3
             hBit := some (getBit (payload.getD 0 0) 3 1)
             ver := some (getBit (payload.getD 0 0) 4 3)
             pBit := some (getBit (payload.getD 0 0) 7 1)
             size1 := (payload.getD 1 0).toNat
             size2 := (payload.getD 2 0).toNat }
  else p

/-- The bit `T` is set, but neither `L` nor `K`. -/
def TidOnly : Prop :=
  ∃ e ∈ d.extension, getBit e.octet 1 1 = 0 ∧ getBit e.octet 2 1 = 1 ∧ getBit e.octet 3 1 = 0

instance : Decidable d.TidOnly :=
  match h : d.extension with
  | none => .isFalse fun ⟨e, he, _⟩ => by simp [h] at he
  | some e => decidable_of_iff
      (getBit e.octet 1 1 = 0 ∧ getBit e.octet 2 1 = 1 ∧ getBit e.octet 3 1 = 0) (by simp [TidOnly, h])

end PayloadDescriptor

end Vp8

namespace Vp8RtpPayload

open Vp8

/-! ## The parser -/

/-- The descriptor as the parser reads it, and the offset behind it. -/
def readDescriptor (buf : Bytes) : Except String (Vp8RtpPayload × ℕ) := do
  assertRtpCodecPayloadLength buf 1 "VP8" 0
  let octet := buf.getD 0 0
  let p : Vp8RtpPayload :=
    { xBit := getBit octet 0 1, nBit := getBit octet 2 1, sBit := getBit octet 3 1,
      pid := getBit octet 5 3 }
  let (p, offset) ← p.readExtension buf 1
  let (p, offset) ← p.readPictureId buf offset
  let offset ← p.skipIndices buf offset
  .ok (p, offset)

lemma deSerialize_eq (buf : Bytes) : deSerialize buf = readDescriptor buf >>= fun r =>
    readPayloadHeader { r.1 with payload := buf.drop r.2 } buf r.2 := by
  simp only [deSerialize, readDescriptor, bind_assoc]
  rfl

lemma assert_eq_ok {buf : Bytes} {n offset : ℕ} (h : offset + n ≤ buf.length) (codec : String) :
    assertRtpCodecPayloadLength buf n codec offset = .ok () := if_neg (Nat.not_lt.mpr h)

lemma getBit_one (b : UInt8) (i : ℕ) : getBit b i 1 = 0 ∨ getBit b i 1 = 1 := by
  have hlt := getBit_lt b i 1
  omega

variable {p : Vp8RtpPayload} {buf : Bytes} {offset : ℕ}

lemma readPictureId_append {field : Option PictureIdField} (hiBit : p.iBit = some field.isSome.toNat)
    (hmBit : p.mBit = none) (hpictureId : p.pictureId = none) (pre rest : Bytes) :
    p.readPictureId (pre ++ (field.elim [] PictureIdField.bytes ++ rest)) pre.length =
      .ok ({ p with mBit := field.map PictureIdField.mBit
                    pictureId := field.map PictureIdField.pictureId },
        pre.length + (field.elim [] PictureIdField.bytes).length) := by
  rw [readPictureId, hiBit]
  cases field with
  | none =>
    have hset : ¬isSet (some (none : Option PictureIdField).isSome.toNat) = true := by decide
    rw [if_neg hset]
    cases p
    cases hmBit
    cases hpictureId
    cases hiBit
    rfl
  | some field =>
    have hset : isSet (some (some field).isSome.toNat) = true := rfl
    have hoctet : ∀ octet more, (pre ++ (octet :: more)).getD pre.length 0 = octet := fun octet more => by
      rw [List.getD_append_right _ _ _ _ le_rfl, Nat.sub_self, List.getD_cons_zero]
    rw [if_pos hset, Option.elim_some]
    cases field with
    | short octet h =>
      have hlength : pre.length + 1 ≤ (pre ++ ([octet] ++ rest)).length := by
        simp only [List.length_append, List.length_singleton]
        omega
      have hone := assert_eq_ok hlength "VP8"
      rw [PictureIdField.bytes, hone]
      dsimp only [bind, Except.bind]
      rw [List.singleton_append, hoctet, h, if_neg (by decide)]
      rfl
    | long octet low h =>
      have hlength : pre.length + 2 ≤ (pre ++ ([octet, low] ++ rest)).length := by
        simp only [List.length_append, List.length_cons]
        omega
      have hone := assert_eq_ok (Nat.le_of_succ_le hlength) "VP8"
      have htwo := assert_eq_ok hlength "VP8"
      have hlow : (pre ++ ([octet, low] ++ rest)).getD (pre.length + 1) 0 = low := by
        rw [List.getD_append_right _ _ _ _ (Nat.le_add_right _ _), Nat.add_sub_cancel_left]
        rfl
      rw [PictureIdField.bytes, hone]
      dsimp only [bind, Except.bind]
      rw [htwo, hlow, List.cons_append, hoctet, h, if_pos (by decide)]
      rfl

/-- The octets that the parser skips behind the picture id. -/
def indices (p : Vp8RtpPayload) : ℕ :=
  (isSet p.lBit).toNat + (isSet p.lBit || isSet p.kBit).toNat

lemma skipIndices_eq (h : offset + p.indices ≤ buf.length) :
    p.skipIndices buf offset = .ok (offset + p.indices) := by
  have hassert : ∀ o, o + 1 ≤ buf.length → assertRtpCodecPayloadLength buf 1 "VP8" o = .ok () :=
    fun o ho => assert_eq_ok ho "VP8"
  rw [indices] at h ⊢
  rw [skipIndices]
  cases hl : isSet p.lBit <;> cases hk : isSet p.kBit <;>
    simp only [hl, hk, Bool.or_self, Bool.or_true, Bool.or_false, Bool.toNat_false, Bool.toNat_true] at h
  · rfl
  · change (assertRtpCodecPayloadLength buf 1 "VP8" offset >>= fun _ => _) = _
    rw [hassert offset (by omega)]
    rfl
  · change (assertRtpCodecPayloadLength buf 1 "VP8" offset >>= fun _ =>
      assertRtpCodecPayloadLength buf 1 "VP8" (offset + 1) >>= fun _ => _) = _
    rw [hassert offset (by omega), hassert (offset + 1) (by omega)]
    rfl
  · change (assertRtpCodecPayloadLength buf 1 "VP8" offset >>= fun _ =>
      assertRtpCodecPayloadLength buf 1 "VP8" (offset + 1) >>= fun _ => _) = _
    rw [hassert offset (by omega), hassert (offset + 1) (by omega)]
    rfl

/-! ### More bytes -/

lemma of_assert {α : Type} {n : ℕ} {codec : String} {next : Unit → Except String α} {a : α}
    (h : (assertRtpCodecPayloadLength buf n codec offset >>= next) = .ok a) :
    offset + n ≤ buf.length ∧ next () = .ok a := by
  rw [assertRtpCodecPayloadLength] at h
  split_ifs at h with hlength
  · cases h
  · exact ⟨Nat.not_lt.mp hlength, h⟩

lemma getD_append_of_lt (more : Bytes) (h : offset < buf.length) :
    (buf ++ more).getD offset 0 = buf.getD offset 0 := List.getD_append _ _ _ _ h

/-- What has been read of an extension is read in front of more bytes. -/
lemma readExtension_more {r : Vp8RtpPayload × ℕ} (h : p.readExtension buf offset = .ok r) (more : Bytes) :
    p.readExtension (buf ++ more) offset = .ok r := by
  rw [readExtension] at h ⊢
  by_cases hx : p.xBit ≠ 0
  · rw [if_pos hx] at h ⊢
    obtain ⟨hlength, hnext⟩ := of_assert h
    rw [assert_eq_ok (by rw [List.length_append]; omega), getD_append_of_lt more hlength]
    exact hnext
  · rw [if_neg hx] at h ⊢
    exact h

lemma readPictureId_more {r : Vp8RtpPayload × ℕ} (h : p.readPictureId buf offset = .ok r) (more : Bytes) :
    p.readPictureId (buf ++ more) offset = .ok r := by
  rw [readPictureId] at h ⊢
  by_cases hi : isSet p.iBit = true
  · rw [if_pos hi] at h ⊢
    obtain ⟨hlength, hnext⟩ := of_assert h
    rw [assert_eq_ok (by rw [List.length_append]; omega), getD_append_of_lt more hlength]
    dsimp only [bind, Except.bind] at hnext ⊢
    by_cases hm : getBit (buf.getD offset 0) 0 1 ≠ 0
    · rw [if_pos hm] at hnext ⊢
      obtain ⟨hlow, hnext⟩ := of_assert hnext
      rw [assert_eq_ok (by rw [List.length_append]; omega), getD_append_of_lt more hlow]
      exact hnext
    · rw [if_neg hm] at hnext ⊢
      exact hnext
  · rw [if_neg hi] at h ⊢
    exact h

lemma skipOctet_more {c : Prop} [Decidable c] {o : ℕ}
    (h : (if c then assertRtpCodecPayloadLength buf 1 "VP8" offset >>= fun _ => .ok (offset + 1)
      else .ok offset) = Except.ok o) (more : Bytes) :
    (if c then assertRtpCodecPayloadLength (buf ++ more) 1 "VP8" offset >>= fun _ => .ok (offset + 1)
      else .ok offset) = Except.ok o := by
  by_cases hc : c
  · rw [if_pos hc] at h ⊢
    obtain ⟨hlength, hnext⟩ := of_assert h
    rw [assert_eq_ok (by rw [List.length_append]; omega)]
    exact hnext
  · rw [if_neg hc] at h ⊢
    exact h

/-- One octet is skipped behind the other. -/
lemma skipIndices_bind : p.skipIndices buf offset =
    (if isSet p.lBit = true then assertRtpCodecPayloadLength buf 1 "VP8" offset >>= fun _ => .ok (offset + 1)
      else .ok offset) >>= fun offset =>
    if isSet p.lBit = true ∨ isSet p.kBit = true then
      assertRtpCodecPayloadLength buf 1 "VP8" offset >>= fun _ => .ok (offset + 1)
    else .ok offset := by
  rw [skipIndices]
  by_cases h : isSet p.lBit = true
  · rw [if_pos h, if_pos h, bind_assoc]
  · rw [if_neg h, if_neg h]

lemma skipIndices_more {o : ℕ} (h : p.skipIndices buf offset = .ok o) (more : Bytes) :
    p.skipIndices (buf ++ more) offset = .ok o := by
  rw [skipIndices_bind] at h ⊢
  obtain ⟨middle, hfirst, hsecond⟩ := Except.bind_eq_ok.mp h
  exact Except.bind_eq_ok.mpr ⟨middle, skipOctet_more hfirst more, skipOctet_more hsecond more⟩

/-- What has been read of a descriptor is read in front of more bytes. -/
lemma readDescriptor_more {r : Vp8RtpPayload × ℕ} (h : readDescriptor buf = .ok r) (more : Bytes) :
    readDescriptor (buf ++ more) = .ok r := by
  obtain ⟨hlength, h⟩ := of_assert h
  obtain ⟨⟨p, offset⟩, hextension, h⟩ := Except.bind_eq_ok.mp h
  obtain ⟨⟨p', offset'⟩, hpictureId, h⟩ := Except.bind_eq_ok.mp h
  obtain ⟨offset'', hindices, h⟩ := Except.bind_eq_ok.mp h
  rw [readDescriptor, assert_eq_ok (by rw [List.length_append]; omega), Except.ok_bind,
    getD_append_of_lt more hlength]
  refine Except.bind_eq_ok.mpr ⟨_, readExtension_more hextension more, ?_⟩
  refine Except.bind_eq_ok.mpr ⟨_, readPictureId_more hpictureId more, ?_⟩
  exact Except.bind_eq_ok.mpr ⟨_, skipIndices_more hindices more, h⟩

/-- The octets that are skipped, and the one that is not. -/
lemma indices_add_tidOnly {d : PayloadDescriptor} {e : Extension} (hextension : d.extension = some e) :
    indices d.head + (if d.TidOnly then 1 else 0) = (e.tl0PicIdx.toList ++ e.tidKeyIdx.toList).length := by
  have htid : d.TidOnly ↔ getBit e.octet 1 1 = 0 ∧ getBit e.octet 2 1 = 1 ∧ getBit e.octet 3 1 = 0 := by
    rw [PayloadDescriptor.TidOnly, hextension]
    exact ⟨fun ⟨_, he, h⟩ => Option.some.inj he ▸ h, fun h => ⟨e, rfl, h⟩⟩
  have hset : ∀ i, isSet (some (getBit e.octet i 1)) = decide (getBit e.octet i 1 = 1) := by
    intro i
    rcases getBit_one e.octet i with h | h <;> rw [h] <;> rfl
  have hl : d.head.lBit = some (getBit e.octet 1 1) := by
    rw [PayloadDescriptor.head, hextension]
    rfl
  have hk : d.head.kBit = some (getBit e.octet 3 1) := by
    rw [PayloadDescriptor.head, hextension]
    rfl
  have htk := e.tkBit
  have hlBit := e.lBit
  have htBit := e.tBit_of_lBit
  rw [indices, hl, hk, hset, hset, List.length_append]
  simp only [htid]
  cases htl0 : e.tl0PicIdx <;> cases htidKeyIdx : e.tidKeyIdx <;>
    rw [htl0] at hlBit <;> rw [htidKeyIdx] at htk <;>
    rcases getBit_one e.octet 2 with h2 | h2 <;> rcases getBit_one e.octet 3 with h3 | h3 <;>
    simp_all

/-- **Reading a descriptor** in front of more bytes: of a descriptor with the bit `T` alone the last octet is
left. -/
lemma readDescriptor_append (d : PayloadDescriptor) (rest : Bytes) : readDescriptor (d.bytes ++ rest) =
    .ok (d.head, d.bytes.length - if d.TidOnly then 1 else 0) := by
  have hone : assertRtpCodecPayloadLength (d.bytes ++ rest) 1 "VP8" 0 = .ok () :=
    assert_eq_ok (by rw [PayloadDescriptor.bytes, List.cons_append, List.length_cons]; omega) "VP8"
  have hoctet : (d.bytes ++ rest).getD 0 0 = d.octet := rfl
  rw [readDescriptor, hone, Except.ok_bind, hoctet]
  dsimp only
  cases hextension : d.extension with
  | none =>
    have hxBit : ¬getBit d.octet 0 1 ≠ 0 := by
      rw [d.xBit, hextension]
      decide
    have htid : ¬d.TidOnly := by
      rintro ⟨e, he, -⟩
      rw [hextension] at he
      cases he
    rw [readExtension, if_neg hxBit, Except.ok_bind]
    dsimp only
    rw [readPictureId, if_neg (show ¬isSet none = true from Bool.false_ne_true), Except.ok_bind]
    dsimp only
    rw [skipIndices_eq (by rw [PayloadDescriptor.bytes]; exact Nat.le_add_left _ _), Except.ok_bind,
      if_neg htid]
    simp only [PayloadDescriptor.head, PayloadDescriptor.pictureIdField, PayloadDescriptor.bytes, hextension]
    rfl
  | some e =>
    have hxBit : getBit d.octet 0 1 ≠ 0 := by
      rw [d.xBit, hextension]
      exact Nat.one_ne_zero
    have hbytes : d.bytes ++ rest = [d.octet, e.octet] ++ (e.pictureId.elim [] PictureIdField.bytes ++
        (e.tl0PicIdx.toList ++ e.tidKeyIdx.toList ++ rest)) := by
      simp only [PayloadDescriptor.bytes, hextension, Option.elim_some, Extension.bytes, List.cons_append,
        List.append_assoc, List.nil_append]
    have hassert : assertRtpCodecPayloadLength (d.bytes ++ rest) 1 "VP8" 1 = .ok () := by
      refine assert_eq_ok ?_ "VP8"
      rw [hbytes, List.length_append]
      exact Nat.le_add_right _ _
    have hsecond : (d.bytes ++ rest).getD 1 0 = e.octet := by
      rw [hbytes]
      rfl
    have hindices := indices_add_tidOnly hextension
    have hlength : d.bytes.length =
        2 + (e.pictureId.elim [] PictureIdField.bytes).length + (e.tl0PicIdx.toList ++ e.tidKeyIdx.toList).length := by
      simp only [PayloadDescriptor.bytes, hextension, Option.elim_some, Extension.bytes, List.length_cons,
        List.length_append]
      omega
    rw [readExtension, if_pos hxBit, hassert, Except.ok_bind, Except.ok_bind, hsecond, hbytes]
    refine Except.bind_eq_ok.mpr
      ⟨_, readPictureId_append (congrArg some e.iBit) rfl rfl [d.octet, e.octet] _, ?_⟩
    have hsame : ∀ p : Vp8RtpPayload, p.lBit = some (getBit e.octet 1 1) →
        p.kBit = some (getBit e.octet 3 1) → p.indices = indices d.head := by
      intro p hl hk
      rw [indices, indices, hl, hk, PayloadDescriptor.head, hextension]
      rfl
    refine Except.bind_eq_ok.mpr ⟨_, skipIndices_eq ?_, ?_⟩
    · rw [hsame _ rfl rfl, ← hbytes, List.length_append, hlength]
      change 2 + (e.pictureId.elim [] PictureIdField.bytes).length + _ ≤ _
      omega
    · rw [hsame _ rfl rfl, hlength, ← hindices, ← Nat.add_assoc, Nat.add_sub_cancel_right]
      simp only [PayloadDescriptor.head, PayloadDescriptor.pictureIdField, hextension]
      rfl

/-! ### The header of the VP8 payload -/

lemma payload_of_readPayloadHeader {q : Vp8RtpPayload} (h : p.readPayloadHeader buf offset = .ok q) :
    q.payload = p.payload := by
  rw [readPayloadHeader] at h
  by_cases hexist : p.payloadHeaderExist = true
  · rw [if_pos hexist] at h
    obtain ⟨-, hnext⟩ := of_assert h
    cases hnext
    rfl
  · rw [if_neg hexist] at h
    cases h
    rfl

/-- The header is read if it is there. -/
lemma readPayloadHeader_eq_ok_iff (d : PayloadDescriptor) (payload : Bytes) :
    readPayloadHeader { d.head with payload } (d.bytes ++ payload) d.bytes.length = .ok (d.fields payload) ↔
      (d.StartsFrame → 3 ≤ payload.length) := by
  have hexist : payloadHeaderExist { d.head with payload } = decide d.StartsFrame := rfl
  have hoctet : ∀ i, (d.bytes ++ payload).getD (d.bytes.length + i) 0 = payload.getD i 0 := fun i => by
    rw [List.getD_append_right _ _ _ _ (Nat.le_add_right _ _), Nat.add_sub_cancel_left]
  rw [readPayloadHeader, hexist, PayloadDescriptor.fields]
  by_cases hstart : d.StartsFrame
  · rw [if_pos (decide_eq_true hstart), if_pos hstart]
    constructor
    · intro h _
      have hlength := (of_assert h).1
      rw [List.length_append] at hlength
      omega
    · intro h
      have hthree := h hstart
      rw [assert_eq_ok (by rw [List.length_append]; omega), Except.ok_bind, hoctet 1, hoctet 2]
      have hzero := hoctet 0
      rw [Nat.add_zero] at hzero
      rw [hzero]
  · rw [if_neg (by rw [decide_eq_false hstart]; exact Bool.false_ne_true), if_neg hstart]
    exact ⟨fun _ h => absurd h hstart, fun _ => rfl⟩

lemma isKeyframe_fields {d : PayloadDescriptor} {payload : Bytes}
    (h : (d.fields payload).isKeyframe = true) :
    d.StartsFrame ∧ getBit (payload.getD 0 0) 7 1 = 0 := by
  have hpBit := of_decide_eq_true h
  by_cases hstart : d.StartsFrame
  · rw [PayloadDescriptor.fields, if_pos hstart] at hpBit
    exact ⟨hstart, Option.some.inj hpBit⟩
  · rw [PayloadDescriptor.fields, if_neg hstart] at hpBit
    cases hpBit

/-! ### Descriptors -/

/-- A descriptor with the bit `T` alone makes the parser return one octet too many. -/
lemma length_of_tidOnly {d : PayloadDescriptor} (htid : d.TidOnly) {payload : Bytes} {q : Vp8RtpPayload}
    (h : deSerialize (d.bytes ++ payload) = .ok q) : q.payload.length = payload.length + 1 := by
  rw [deSerialize_eq, readDescriptor_append, if_pos htid, Except.ok_bind] at h
  have hpos : 0 < d.bytes.length := Nat.zero_lt_succ _
  rw [payload_of_readPayloadHeader h, List.length_drop, List.length_append]
  omega

/-- **A truncated descriptor** has no payload. -/
lemma payload_of_truncated {d : PayloadDescriptor} {n : ℕ} (hn : n < d.bytes.length) {q : Vp8RtpPayload}
    (h : deSerialize (d.bytes.take n) = .ok q) : q.payload = [] := by
  rw [deSerialize_eq] at h
  obtain ⟨⟨p, offset⟩, hread, h⟩ := Except.bind_eq_ok.mp h
  have hmore := readDescriptor_more hread (d.bytes.drop n)
  rw [List.take_append_drop, ← List.append_nil d.bytes, readDescriptor_append] at hmore
  have hoffset := (Prod.mk.inj (Except.ok.inj hmore)).2
  rw [payload_of_readPayloadHeader h]
  refine List.drop_eq_nil_of_le ?_
  rw [List.length_take]
  split_ifs at hoffset <;> omega

/-- **A descriptor is understood**: the parser returns its fields and what stands behind it, and calls the
packet a key frame only if it begins the first partition with the bit `P` of the payload clear; of a truncated
descriptor it returns no octet. -/
def Understood (d : PayloadDescriptor) (payload : Bytes) : Prop :=
  (∃ p, deSerialize (d.bytes ++ payload) = .ok p ∧ p = d.fields payload ∧
    (p.isKeyframe = true → d.StartsFrame ∧ getBit (payload.getD 0 0) 7 1 = 0)) ∧
  ∀ n < d.bytes.length, ∀ p, deSerialize (d.bytes.take n) = .ok p → p.payload = []

/-- **Descriptors** are understood unless the bit `T` is set without `L` and `K`, or a frame begins with less
than the header of its payload. -/
theorem descriptor_iff (d : PayloadDescriptor) (payload : Bytes) :
    Understood d payload ↔ ¬d.TidOnly ∧ (d.StartsFrame → 3 ≤ payload.length) := by
  constructor
  · rintro ⟨⟨p, hread, rfl, -⟩, -⟩
    have htid : ¬d.TidOnly := by
      intro htid
      have hlength := length_of_tidOnly htid hread
      have hpayload : (d.fields payload).payload = payload := by
        rw [PayloadDescriptor.fields]
        split_ifs <;> rfl
      rw [hpayload] at hlength
      omega
    refine ⟨htid, (readPayloadHeader_eq_ok_iff d payload).mp ?_⟩
    rw [deSerialize_eq, readDescriptor_append, if_neg htid, Except.ok_bind] at hread
    rwa [Nat.sub_zero, List.drop_left] at hread
  · rintro ⟨htid, hheader⟩
    refine ⟨⟨_, ?_, rfl, isKeyframe_fields⟩, fun n hn p hread => payload_of_truncated hn hread⟩
    rw [deSerialize_eq, readDescriptor_append, if_neg htid, Except.ok_bind, Nat.sub_zero, List.drop_left]
    exact (readPayloadHeader_eq_ok_iff d payload).mpr hheader

/-- A descriptor with the bit `T` alone, for the temporal layer 1. -/
def tidDescriptor : PayloadDescriptor where
  octet := 0x80
  extension := some
    { octet := 0x20, pictureId := none, tl0PicIdx := none, tidKeyIdx := some 0x40
      iBit := by decide, lBit := by decide, tkBit := by decide, tBit_of_lBit := by decide }
  xBit := by decide

/-- The octet of the temporal layer is returned as payload. -/
theorem not_understood_tidDescriptor : ¬Understood tidDescriptor [1, 2, 3] ∧
    tidDescriptor.bytes = [0x80, 0x20, 0x40] ∧
    ∃ p, deSerialize [0x80, 0x20, 0x40, 1, 2, 3] = .ok p ∧ p.payload = [0x40, 1, 2, 3] := by
  refine ⟨?_, rfl, _, rfl, rfl⟩
  rintro ⟨⟨p, hread, rfl, -⟩, -⟩
  have hlength := length_of_tidOnly (by decide) hread
  exact absurd hlength (by decide)

end Vp8RtpPayload

end Werift.Codec
