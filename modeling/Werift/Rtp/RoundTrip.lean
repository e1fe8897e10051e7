import Werift.Lib.MapM
import Werift.Rtp.Parsing

/-!
# Writing and reading packets

The CSRC count has four digits and a one-byte element has four digits for its id and four for its
length, and the writer checks neither: a packet that does not fit comes back as another one.
`packet_roundTrips_iff` says which packets are written wrongly.
-/

namespace Werift.Rtp

open BigEndian

/-! ## The fixed part -/

/-- The first octet of a header. -/
def firstOctet (version : ℕ) (padding extension : Bool) (csrcLength : ℕ) : ℕ :=
  bitWriter 8 [(2, 0, version), (1, 2, padding.toNat), (1, 3, extension.toNat), (4, 4, csrcLength)]

/-- The second octet of a header. -/
def secondOctet (marker : Bool) (payloadType : ℕ) : ℕ :=
  bitWriter 8 [(1, 0, marker.toNat), (7, 1, payloadType)]

lemma firstOctet_mod (version csrcLength : ℕ) (padding extension : Bool) :
    firstOctet version padding extension csrcLength =
      firstOctet version padding extension (csrcLength % 16) := by
  simp [firstOctet, bitWriter]

lemma getBit_firstOctet {version : ℕ} (hversion : version < 4) (padding extension : Bool)
    (csrcLength : ℕ) :
    firstOctet version padding extension csrcLength < 256 ∧
      getBit (UInt8.ofNat (firstOctet version padding extension csrcLength)) 0 2 = version ∧
      getBit (UInt8.ofNat (firstOctet version padding extension csrcLength)) 2 1 = padding.toNat ∧
      getBit (UInt8.ofNat (firstOctet version padding extension csrcLength)) 3 1 =
        extension.toNat ∧
      getBit (UInt8.ofNat (firstOctet version padding extension csrcLength)) 4 4 =
        csrcLength % 16 := by
  have hall : ∀ (v : Fin 4) (p x : Bool) (c : Fin 16), firstOctet v p x c < 256 ∧
      getBit (UInt8.ofNat (firstOctet v p x c)) 0 2 = v ∧
      getBit (UInt8.ofNat (firstOctet v p x c)) 2 1 = p.toNat ∧
      getBit (UInt8.ofNat (firstOctet v p x c)) 3 1 = x.toNat ∧
      getBit (UInt8.ofNat (firstOctet v p x c)) 4 4 = c := by
    decide +kernel
  rw [firstOctet_mod]
  exact hall ⟨version, hversion⟩ padding extension ⟨csrcLength % 16, Nat.mod_lt _ (by decide)⟩

lemma getBit_secondOctet (marker : Bool) {payloadType : ℕ} (htype : payloadType < 128) :
    secondOctet marker payloadType < 256 ∧
      getBit (UInt8.ofNat (secondOctet marker payloadType)) 0 1 = marker.toNat ∧
      getBit (UInt8.ofNat (secondOctet marker payloadType)) 1 7 = payloadType := by
  have hall : ∀ (m : Bool) (t : Fin 128), secondOctet m t < 256 ∧
      getBit (UInt8.ofNat (secondOctet m t)) 0 1 = m.toNat ∧
      getBit (UInt8.ofNat (secondOctet m t)) 1 7 = t := by
    decide +kernel
  exact hall marker ⟨payloadType, htype⟩

namespace RtpHeader

/-- The fields of a header are in the range of their types. -/
structure InRange (h : RtpHeader) : Prop where
  version : h.version < 4
  paddingSize : h.padding = true → 1 ≤ h.paddingSize ∧ h.paddingSize ≤ 255
  payloadType : h.payloadType < 128
  sequenceNumber : h.sequenceNumber < 2 ^ 16
  timestamp : h.timestamp < 2 ^ 32
  ssrc : h.ssrc < 2 ^ 32
  csrc : ∀ csrc ∈ h.csrc, csrc < 2 ^ 32
  extensionProfile : h.extensionProfile < 2 ^ 16

/-- The first twelve octets. -/
def fixedBytes (h : RtpHeader) : Bytes :=
  UInt8.ofNat (firstOctet h.version h.padding h.writesExtension h.csrc.length) ::
    UInt8.ofNat (secondOctet h.marker h.payloadType) ::
      (encode 2 h.sequenceNumber ++ (encode 4 h.timestamp ++ encode 4 h.ssrc))

lemma length_fixedBytes (h : RtpHeader) : h.fixedBytes.length = 12 := by
  simp [fixedBytes]

/-- The contributing sources. -/
def csrcBytes (h : RtpHeader) : Bytes := (h.csrc.map (encode 4)).flatten

lemma length_csrcBytes (h : RtpHeader) : h.csrcBytes.length = 4 * h.csrc.length := by
  rw [csrcBytes, List.length_flatten, List.map_map]
  induction h.csrc with
  | nil => rfl
  | cons csrc l ih =>
    rw [List.map_cons, List.sum_cons, ih, Function.comp_apply, length_encode, List.length_cons]
    omega

variable {h : RtpHeader}

/-- **Writing a header** with fields in range fails only at the extension. -/
lemma serialize_eq (hin : h.InRange) : h.serialize =
    (if h.writesExtension then h.extensionBytes else some []).map
      (h.fixedBytes ++ h.csrcBytes ++ ·) := by
  have hcsrc : (h.csrc.mapM fun (csrc : ℕ) => Js.writeUInt32BE csrc) = some (h.csrc.map (encode 4)) := by
    rw [OptionList.mapM_eq_some, List.forall₂_map_right_iff, List.forall₂_same]
    intro csrc hmem
    exact Js.writeUIntBE_natCast (hin.csrc csrc hmem)
  have hfirst := (getBit_firstOctet hin.version h.padding h.writesExtension h.csrc.length).1
  have hsecond := (getBit_secondOctet h.marker hin.payloadType).1
  rw [serialize, ← firstOctet, ← secondOctet, hcsrc, Js.writeUInt8, Js.writeUInt8, Js.writeUInt16BE,
    Js.writeUInt32BE, Js.writeUInt32BE, Js.writeUIntBE_natCast (by simpa using hfirst),
    Js.writeUIntBE_natCast (by simpa using hsecond),
    Js.writeUIntBE_natCast (by simpa using hin.sequenceNumber),
    Js.writeUIntBE_natCast (by simpa using hin.timestamp),
    Js.writeUIntBE_natCast (by simpa using hin.ssrc)]
  have hbyte : ∀ n, n < 256 → encode 1 n = [UInt8.ofNat n] := by
    intro n hn
    rw [encode, encode, Nat.mod_eq_of_lt hn, List.nil_append]
  simp only [hbyte _ hfirst, hbyte _ hsecond, Option.bind_eq_bind, Option.bind_some]
  by_cases hX : h.writesExtension = true
  · rw [if_pos hX, if_pos hX]
    cases h.extensionBytes with
    | none => rfl
    | some extension => simp [fixedBytes, csrcBytes]
  · rw [if_neg hX, if_neg hX]
    simp [fixedBytes, csrcBytes]

end RtpHeader

/-! ## The elements of an extension -/

/-- An element that its profile can hold. -/
def Extension.Fits (profile : ℕ) (extension : Extension) : Prop :=
  if profile = oneByteProfile then
    extension.id ≤ 14 ∧ 1 ≤ extension.payload.length ∧ extension.payload.length ≤ 16 ∧
      ¬ (extension.id = 0 ∧ extension.payload.length = 1)
  else 1 ≤ extension.id ∧ extension.id ≤ 255 ∧ extension.payload.length ≤ 255

instance (profile : ℕ) (extension : Extension) : Decidable (extension.Fits profile) :=
  inferInstanceAs (Decidable (if profile = oneByteProfile then
      extension.id ≤ 14 ∧ 1 ≤ extension.payload.length ∧ extension.payload.length ≤ 16 ∧
        ¬ (extension.id = 0 ∧ extension.payload.length = 1)
    else 1 ≤ extension.id ∧ extension.id ≤ 255 ∧ extension.payload.length ≤ 255))

/-- An element that makes the writer throw. -/
def Extension.Rejected (profile : ℕ) (extension : Extension) : Prop :=
  if profile = oneByteProfile then
    extension.payload = [] ∨
      ¬ (0 ≤ RtpHeader.oneByteOctet extension ∧ RtpHeader.oneByteOctet extension < 256)
  else 255 < extension.id ∨ 255 < extension.payload.length

instance (profile : ℕ) (extension : Extension) : Decidable (extension.Rejected profile) :=
  inferInstanceAs (Decidable (if profile = oneByteProfile then
      extension.payload = [] ∨
        ¬ (0 ≤ RtpHeader.oneByteOctet extension ∧ RtpHeader.oneByteOctet extension < 256)
    else 255 < extension.id ∨ 255 < extension.payload.length))

namespace RtpHeader

/-- The number of octets of the elements. -/
def extensionSize (h : RtpHeader) : ℕ :=
  if h.extensionProfile = oneByteProfile then
    (h.extensions.map fun extension => 1 + extension.payload.length).sum
  else if h.extensionProfile = twoByteProfile then
    (h.extensions.map fun extension => 2 + extension.payload.length).sum
  else (h.extensions.head?.map fun extension => extension.payload.length).getD 0

/-- A header that makes the writer throw: an element is out of range, a raw extension is missing or
not a number of words, or the number of words does not fit into its field. -/
def Rejected (h : RtpHeader) : Prop :=
  h.writesExtension = true ∧
    ((if h.extensionProfile = oneByteProfile ∨ h.extensionProfile = twoByteProfile then
        ∃ extension ∈ h.extensions, extension.Rejected h.extensionProfile
      else h.extensions = [] ∨ h.extensionSize % 4 ≠ 0) ∨
    262140 < h.extensionSize)

/-- A header that the format can hold. -/
structure Representable (h : RtpHeader) : Prop where
  csrc : h.csrc.length ≤ 15
  extensions : h.writesExtension = true →
    if h.extensionProfile = oneByteProfile ∨ h.extensionProfile = twoByteProfile then
      ∀ extension ∈ h.extensions, extension.Fits h.extensionProfile
    else ∃ payload, h.extensions = [⟨0, payload⟩]

lemma oneByteElement_eq_none {extension : Extension} :
    oneByteElement extension = none ↔ extension.Rejected oneByteProfile := by
  rw [oneByteElement, Extension.Rejected, if_pos rfl]
  split_ifs with hempty
  · have : extension.payload = [] := List.eq_nil_of_length_eq_zero (by omega)
    simp [this]
  · have hne : extension.payload ≠ [] := by
      intro h
      exact hempty (by rw [h]; decide)
    rw [Option.map_eq_none_iff, ← Option.not_isSome_iff_eq_none, Js.writeUInt8,
      Js.isSome_writeUIntBE]
    simp [hne]

lemma length_oneByteElement {extension : Extension} {bytes : Bytes}
    (h : oneByteElement extension = some bytes) : bytes.length = 1 + extension.payload.length := by
  rw [oneByteElement] at h
  split_ifs at h
  obtain ⟨octet, hoctet, rfl⟩ := Option.map_eq_some_iff.mp h
  rw [List.length_append, Js.length_of_writeUIntBE hoctet]

lemma twoByteElement_eq (extension : Extension) :
    twoByteElement extension =
      if extension.Rejected twoByteProfile then none
      else some (UInt8.ofNat extension.id :: UInt8.ofNat extension.payload.length ::
        extension.payload) := by
  have hprofile : ¬ twoByteProfile = oneByteProfile := by decide
  have hwrite : ∀ n : ℕ, Js.writeUInt8 n = if 255 < n then none else some [UInt8.ofNat n] := by
    intro n
    split_ifs with hn
    · rw [Js.writeUInt8, Js.writeUIntBE, if_neg (by omega)]
    · rw [Js.writeUInt8, Js.writeUIntBE_natCast (by omega), encode, encode, List.nil_append,
        Nat.mod_eq_of_lt (by omega)]
  simp only [twoByteElement, Extension.Rejected, if_neg hprofile, hwrite]
  by_cases hid : 255 < extension.id
  · simp [hid]
  · by_cases hlength : 255 < extension.payload.length
    · simp [hid, hlength]
    · simp [hid, hlength]

lemma length_flatten_of_mapM {element : Extension → Option Bytes} {size : Extension → ℕ}
    (hsize : ∀ extension bytes, element extension = some bytes → bytes.length = size extension)
    {extensions : List Extension} {elements : List Bytes}
    (h : extensions.mapM element = some elements) :
    elements.flatten.length = (extensions.map size).sum := by
  rw [OptionList.mapM_eq_some] at h
  induction h with
  | nil => rfl
  | cons hfirst _ ih =>
    rw [List.flatten_cons, List.length_append, ih, List.map_cons, List.sum_cons, hsize _ _ hfirst]

variable {h : RtpHeader} {bytes : Bytes}

/-- **When the elements are not written.** -/
lemma elements_eq_none : h.elements = none ↔
    if h.extensionProfile = oneByteProfile ∨ h.extensionProfile = twoByteProfile then
      ∃ extension ∈ h.extensions, extension.Rejected h.extensionProfile
    else h.extensions = [] ∨ h.extensionSize % 4 ≠ 0 := by
  by_cases hone : h.extensionProfile = oneByteProfile
  · rw [elements, if_pos hone, if_pos (Or.inl hone), Option.map_eq_none_iff,
      OptionList.mapM_eq_none, hone]
    simp only [oneByteElement_eq_none]
  by_cases htwo : h.extensionProfile = twoByteProfile
  · rw [elements, if_neg hone, if_pos htwo, if_pos (Or.inr htwo), Option.map_eq_none_iff,
      OptionList.mapM_eq_none, htwo]
    simp only [twoByteElement_eq, ite_eq_left_iff, reduceCtorEq, imp_false, not_not]
  · rw [elements, if_neg hone, if_neg htwo, if_neg (not_or.mpr ⟨hone, htwo⟩), extensionSize,
      if_neg hone, if_neg htwo]
    cases h.extensions <;> simp

lemma length_elements (helements : h.elements = some bytes) : bytes.length = h.extensionSize := by
  rw [elements] at helements
  rw [extensionSize]
  split_ifs at helements ⊢ with hone htwo
  · obtain ⟨elements, hmap, rfl⟩ := Option.map_eq_some_iff.mp helements
    exact length_flatten_of_mapM (fun _ _ => length_oneByteElement) hmap
  · obtain ⟨elements, hmap, rfl⟩ := Option.map_eq_some_iff.mp helements
    refine length_flatten_of_mapM (fun extension bytes hbytes => ?_) hmap
    rw [twoByteElement_eq] at hbytes
    split_ifs at hbytes
    obtain rfl := Option.some.inj hbytes
    simp only [List.length_cons]
    omega
  · cases hextensions : h.extensions with
    | nil => rw [hextensions] at helements; cases helements
    | cons extension _ =>
      rw [hextensions] at helements
      simp only at helements
      split_ifs at helements
      obtain rfl := Option.some.inj helements
      rfl

/-- The area behind the length of an extension: the elements, and zeros up to a word. -/
def area (elements : Bytes) : Bytes :=
  elements ++ List.replicate (roundedExtSize elements.length - elements.length) 0

lemma length_area (elements : Bytes) :
    (area elements).length = 4 * ((elements.length + 3) / 4) := by
  rw [area, List.length_append, List.length_replicate, roundedExtSize]
  omega

/-- **Writing an extension.** -/
lemma extensionBytes_eq_some (hprofile : h.extensionProfile < 2 ^ 16) :
    h.extensionBytes = some bytes ↔ ∃ elements, h.elements = some elements ∧
      h.extensionSize ≤ 262140 ∧
      bytes = encode 2 h.extensionProfile ++ (encode 2 ((elements.length + 3) / 4) ++
        area elements) := by
  have hwrite : Js.writeUInt16BE h.extensionProfile = some (encode 2 h.extensionProfile) :=
    Js.writeUIntBE_natCast hprofile
  rw [extensionBytes, hwrite, Option.bind_eq_bind, Option.bind_some, Option.bind_eq_some_iff]
  refine exists_congr fun elements => and_congr_right fun helements => ?_
  have hlength := length_elements helements
  have hwords : roundedExtSize elements.length / 4 = (elements.length + 3) / 4 := by
    rw [roundedExtSize, Nat.mul_div_cancel _ (by decide)]
  rw [hwords, Option.bind_eq_some_iff]
  simp only [Option.pure_def, Option.some.injEq]
  constructor
  · rintro ⟨length, hwrite, rfl⟩
    obtain ⟨⟨-, hlt⟩, rfl⟩ := Js.writeUIntBE_eq_some.mp hwrite
    have hfits : (elements.length + 3) / 4 < 256 ^ 2 := by exact_mod_cast hlt
    refine ⟨by omega, ?_⟩
    rw [Int.toNat_natCast, area, List.append_assoc, List.append_assoc]
  · rintro ⟨hsize, rfl⟩
    refine ⟨_, Js.writeUIntBE_natCast (by omega), ?_⟩
    rw [area, List.append_assoc, List.append_assoc]

/-- **When a header is not written.** -/
lemma serialize_eq_none (hin : h.InRange) : h.serialize = none ↔ h.Rejected := by
  rw [serialize_eq hin, Option.map_eq_none_iff, Rejected]
  by_cases hX : h.writesExtension = true
  · rw [if_pos hX, ← elements_eq_none, eq_true hX, true_and]
    cases helements : h.elements with
    | none =>
      simp only [true_or, iff_true]
      rw [extensionBytes, helements]
      cases Js.writeUInt16BE h.extensionProfile <;> rfl
    | some elements =>
      simp only [reduceCtorEq, false_or]
      rw [Option.eq_none_iff_forall_not_mem]
      simp only [Option.mem_def, extensionBytes_eq_some hin.extensionProfile, helements]
      constructor
      · intro hnone
        by_contra hsize
        exact hnone _ ⟨elements, rfl, Nat.le_of_not_lt hsize, rfl⟩
      · rintro hsize bytes ⟨-, -, hle, -⟩
        omega
  · rw [if_neg hX]
    simp [hX]

/-! ## Reading a written header -/

/-- The header that the fixed part of a written header is read as. -/
def readBack (h : RtpHeader) : RtpHeader where
  version := h.version
  padding := h.padding
  extension := h.writesExtension
  marker := h.marker
  payloadOffset := 12 + h.csrc.length * 4
  payloadType := h.payloadType
  sequenceNumber := h.sequenceNumber
  timestamp := h.timestamp
  ssrc := h.ssrc
  csrcLength := h.csrc.length
  csrc := h.csrc

lemma sequenceNumber_written (hin : h.InRange) (rest : Bytes) :
    readNat 2 (h.fixedBytes ++ rest) 2 = h.sequenceNumber := by
  rw [fixedBytes, List.cons_append, List.cons_append, List.append_assoc]
  exact readNat_append [_, _] hin.sequenceNumber rfl _

lemma timestamp_written (hin : h.InRange) (rest : Bytes) :
    readNat 4 (h.fixedBytes ++ rest) 4 = h.timestamp := by
  rw [fixedBytes, List.cons_append, List.cons_append, List.append_assoc, List.append_assoc]
  exact readNat_append (_ :: _ :: encode 2 _) hin.timestamp (by simp) _

lemma ssrc_written (hin : h.InRange) (rest : Bytes) :
    readNat 4 (h.fixedBytes ++ rest) 8 = h.ssrc := by
  rw [fixedBytes, List.cons_append, List.cons_append, List.append_assoc, List.append_assoc,
    ← List.append_assoc (encode 2 _)]
  exact readNat_append (_ :: _ :: (encode 2 _ ++ encode 4 _)) hin.ssrc (by simp) _

lemma fixedPart_eq (hin : h.InRange) (hcsrc : h.csrc.length ≤ 15) (rest : Bytes) :
    fixedPart (h.fixedBytes ++ (h.csrcBytes ++ rest)) = h.readBack := by
  obtain ⟨-, hv, hp, hx, hc⟩ :=
    getBit_firstOctet hin.version h.padding h.writesExtension h.csrc.length
  obtain ⟨-, hm, ht⟩ := getBit_secondOctet h.marker hin.payloadType
  rw [Nat.mod_eq_of_lt (by omega)] at hc
  have hfirst : (h.fixedBytes ++ (h.csrcBytes ++ rest)).getD 0 0 =
    UInt8.ofNat (firstOctet h.version h.padding h.writesExtension h.csrc.length) := rfl
  have hsecond : (h.fixedBytes ++ (h.csrcBytes ++ rest)).getD 1 0 =
    UInt8.ofNat (secondOctet h.marker h.payloadType) := rfl
  have hseq := sequenceNumber_written hin (h.csrcBytes ++ rest)
  have hts := timestamp_written hin (h.csrcBytes ++ rest)
  have hssrc := ssrc_written hin (h.csrcBytes ++ rest)
  have hwords := readNat_words (k := 4) (by simpa using hin.csrc) h.fixedBytes rest
  rw [length_fixedBytes] at hwords
  have hbool : ∀ b : Bool, decide (0 < b.toNat) = b := by decide
  rw [fixedPart, readBack]
  simp only [hfirst, hsecond, hv, hp, hx, hc, hm, ht, hseq, hts, hssrc, hbool]
  rw [csrcBytes, hwords]

end RtpHeader

section Written

variable {h : RtpHeader} (hin : h.InRange) (hcsrc : h.csrc.length ≤ 15)

include hin hcsrc

lemma csrcEnd_written (rest : Bytes) :
    csrcEnd (h.fixedBytes ++ (h.csrcBytes ++ rest)) = 12 + 4 * h.csrc.length := by
  have hoffset := payloadOffset_fixedPart (h.fixedBytes ++ (h.csrcBytes ++ rest))
  rw [RtpHeader.fixedPart_eq hin hcsrc] at hoffset
  rw [← hoffset, RtpHeader.readBack, Nat.mul_comm]

lemma hasExtension_written (rest : Bytes) :
    hasExtension (h.fixedBytes ++ (h.csrcBytes ++ rest)) ↔ h.writesExtension = true := by
  rw [← extension_fixedPart, RtpHeader.fixedPart_eq hin hcsrc]
  rfl

lemma hasPadding_written (rest : Bytes) :
    hasPadding (h.fixedBytes ++ (h.csrcBytes ++ rest)) ↔ h.padding = true := by
  rw [← padding_fixedPart, RtpHeader.fixedPart_eq hin hcsrc]
  rfl

/-- **Where the parts of a written extension are found.** -/
lemma extension_written (hX : h.writesExtension = true) {words : ℕ} (hwords : words < 65536)
    {area : Bytes} (harea : area.length = 4 * words) (post : Bytes) :
    let buf := h.fixedBytes ++ (h.csrcBytes ++
      (encode 2 h.extensionProfile ++ (encode 2 words ++ (area ++ post))))
    profileOf buf = h.extensionProfile ∧ readNat 2 buf (csrcEnd buf + 2) = words ∧
      headerEnd buf = 12 + 4 * h.csrc.length + 4 + 4 * words ∧ extensionArea buf = area := by
  intro buf
  have hend : csrcEnd buf = 12 + 4 * h.csrc.length := csrcEnd_written hin hcsrc _
  have hlength : (h.fixedBytes ++ h.csrcBytes).length = 12 + 4 * h.csrc.length := by
    rw [List.length_append, h.length_fixedBytes, h.length_csrcBytes]
  have hprofile : profileOf buf = h.extensionProfile := by
    rw [profileOf, hend]
    simp only [buf]
    rw [← List.append_assoc]
    exact readNat_append _ hin.extensionProfile hlength _
  have hlen : readNat 2 buf (csrcEnd buf + 2) = words := by
    rw [hend]
    simp only [buf]
    rw [← List.append_assoc, ← List.append_assoc]
    refine readNat_append _ hwords ?_ _
    rw [List.length_append, hlength, length_encode]
  have hheader : headerEnd buf = 12 + 4 * h.csrc.length + 4 + 4 * words := by
    rw [headerEnd, if_pos ((hasExtension_written hin hcsrc _).mpr hX), hlen, hend]
    omega
  refine ⟨hprofile, hlen, hheader, ?_⟩
  have hbuf : buf = (h.fixedBytes ++ h.csrcBytes ++ encode 2 h.extensionProfile ++ encode 2 words) ++
      (area ++ post) := by
    simp only [buf, List.append_assoc]
  have hpre : (h.fixedBytes ++ h.csrcBytes ++ encode 2 h.extensionProfile ++
      encode 2 words).length = csrcEnd buf + 4 := by
    simp only [List.length_append, length_encode] at hlength ⊢
    omega
  rw [extensionArea, Js.slice, hbuf, List.drop_left' (by rw [← hbuf, hpre]), ← hbuf]
  exact List.take_left' (by omega)

end Written

/-! ## Reading written elements -/

lemma OneByteArea.zeros (n : ℕ) : OneByteArea (List.replicate n 0) [] 0 := by
  induction n with
  | zero => exact .done
  | succ n ih => exact .skip ih

lemma TwoByteArea.zeros (n : ℕ) : TwoByteArea (List.replicate n 0) [] := by
  induction n with
  | zero => exact .done
  | succ n ih => exact .skip ih

/-- The octet in front of an element that fits is not a padding octet and not a stop octet. -/
lemma oneByteOctet_fits {extension : Extension} (hfits : extension.Fits oneByteProfile) :
    ∃ b, RtpHeader.oneByteElement extension = some (b :: extension.payload) ∧ b ≠ 0x00 ∧
      b.toNat >>> 4 ≠ 0xf ∧ b.toNat >>> 4 = extension.id ∧
      extension.payload.length = oneByteLength b := by
  have hall : ∀ (i : Fin 15) (l : Fin 16), ¬ ((i : ℕ) = 0 ∧ (l : ℕ) = 0) →
      Js.writeUInt8 (Js.bitOr (Js.shiftLeft (i : ℕ) 4) (l : ℕ)) =
        some [UInt8.ofNat (16 * i + l)] ∧
      UInt8.ofNat (16 * i + l) ≠ 0 ∧ (UInt8.ofNat (16 * i + l)).toNat >>> 4 = i ∧
      (l : ℕ) + 1 = oneByteLength (UInt8.ofNat (16 * i + l)) := by
    decide +kernel
  rw [Extension.Fits, if_pos rfl] at hfits
  obtain ⟨hid, hpos, hle, hne⟩ := hfits
  obtain ⟨hwrite, hzero, hshift, hlength⟩ :=
    hall ⟨extension.id, by omega⟩ ⟨extension.payload.length - 1, by omega⟩ fun hboth =>
      hne ⟨hboth.1, by have := hboth.2; simp only at this; omega⟩
  simp only at hwrite hzero hshift hlength
  refine ⟨_, ?_, hzero, by omega, hshift, by omega⟩
  have hoctet : RtpHeader.oneByteOctet extension =
      Js.bitOr (Js.shiftLeft extension.id 4) (extension.payload.length - 1 : ℕ) := by
    rw [RtpHeader.oneByteOctet, Nat.cast_sub hpos, Nat.cast_one]
  rw [RtpHeader.oneByteElement, if_neg (by omega), hoctet, hwrite]
  rfl

lemma oneByteArea_written {extensions : List Extension} {elements : List Bytes}
    (hfits : ∀ extension ∈ extensions, extension.Fits oneByteProfile)
    (hwrite : extensions.mapM RtpHeader.oneByteElement = some elements) (n : ℕ) :
    OneByteArea (elements.flatten ++ List.replicate n 0) extensions 0 := by
  rw [OptionList.mapM_eq_some] at hwrite
  induction hwrite with
  | nil => exact .zeros n
  | @cons extension element extensions elements hfirst _ ih =>
    obtain ⟨b, hb, hzero, hstop, hid, hlength⟩ :=
      oneByteOctet_fits (hfits extension List.mem_cons_self)
    rw [hb] at hfirst
    obtain rfl := Option.some.inj hfirst
    have hrest := ih fun e he => hfits e (List.mem_cons_of_mem _ he)
    have harea := OneByteArea.element hzero hstop hlength hrest
    rw [hid] at harea
    rwa [List.flatten_cons, List.cons_append, List.cons_append, List.append_assoc]

lemma twoByteArea_written {extensions : List Extension} {elements : List Bytes}
    (hfits : ∀ extension ∈ extensions, extension.Fits twoByteProfile)
    (hwrite : extensions.mapM RtpHeader.twoByteElement = some elements) (n : ℕ) :
    TwoByteArea (elements.flatten ++ List.replicate n 0) extensions := by
  rw [OptionList.mapM_eq_some] at hwrite
  induction hwrite with
  | nil => exact .zeros n
  | @cons extension element extensions elements hfirst _ ih =>
    have hextension := hfits extension List.mem_cons_self
    have hprofile : ¬ twoByteProfile = oneByteProfile := by decide
    rw [Extension.Fits, if_neg hprofile] at hextension
    obtain ⟨hpos, hid, hlength⟩ := hextension
    have haccepted : ¬ extension.Rejected twoByteProfile := by
      rw [Extension.Rejected, if_neg hprofile]
      omega
    rw [RtpHeader.twoByteElement_eq, if_neg haccepted] at hfirst
    obtain rfl := Option.some.inj hfirst
    have hbyte : (UInt8.ofNat extension.id).toNat = extension.id := by
      rw [UInt8.toNat_ofNat', Nat.mod_eq_of_lt (by omega)]
    have hzero : UInt8.ofNat extension.id ≠ 0x00 := by
      intro h
      rw [h] at hbyte
      have : (0x00 : UInt8).toNat = 0 := rfl
      omega
    have hlen : extension.payload.length = (UInt8.ofNat extension.payload.length).toNat := by
      rw [UInt8.toNat_ofNat', Nat.mod_eq_of_lt (by omega)]
    have hrest := ih fun e he => hfits e (List.mem_cons_of_mem _ he)
    have harea := TwoByteArea.element hzero hlen hrest
    rw [hbyte] at harea
    rwa [List.flatten_cons, List.cons_append, List.cons_append, List.cons_append,
      List.cons_append, List.append_assoc]

/-- The elements that are read from an area fit their profile. -/
lemma OneByteArea.fits {area : Bytes} {extensions : List Extension} {left : ℕ}
    (harea : OneByteArea area extensions left) :
    ∀ extension ∈ extensions, extension.Fits oneByteProfile := by
  induction harea with
  | done => intro _ hmem; cases hmem
  | skip _ ih => exact ih
  | stop => intro _ hmem; cases hmem
  | @element b payload rest extensions left hzero hstop hlength _ ih =>
    intro extension hmem
    rcases List.mem_cons.mp hmem with rfl | hmem
    · have hall : ∀ b : UInt8, b ≠ 0x00 → b.toNat >>> 4 ≠ 0xf → b.toNat >>> 4 ≤ 14 ∧
          1 ≤ oneByteLength b ∧ oneByteLength b ≤ 16 ∧
          ¬ (b.toNat >>> 4 = 0 ∧ oneByteLength b = 1) := by
        decide +kernel
      rw [Extension.Fits, if_pos rfl, hlength]
      exact hall b hzero hstop
    · exact ih extension hmem

lemma TwoByteArea.fits {area : Bytes} {extensions : List Extension}
    (harea : TwoByteArea area extensions) :
    ∀ extension ∈ extensions, extension.Fits twoByteProfile := by
  induction harea with
  | done => intro _ hmem; cases hmem
  | skip _ ih => exact ih
  | @element b l payload rest extensions hzero hlength _ ih =>
    intro extension hmem
    rcases List.mem_cons.mp hmem with rfl | hmem
    · rw [Extension.Fits, if_neg (by decide), hlength]
      have hpos : b.toNat ≠ 0 := fun h => hzero (UInt8.toNat_inj.mp h)
      have hb := b.toNat_lt
      have hl := l.toNat_lt
      simp only
      omega
    · exact ih extension hmem

/-! ## The round trip -/

/-- The fields of a header that has been read back.  `serialize` sets `extension` when there are
extensions, a profile belongs to an extension, and a padding size to a padding. -/
structure SameFields (h h' : RtpHeader) : Prop where
  version : h'.version = h.version
  padding : h'.padding = h.padding
  paddingSize : h.padding = true → h'.paddingSize = h.paddingSize
  extension : h'.extension = h.writesExtension
  marker : h'.marker = h.marker
  payloadType : h'.payloadType = h.payloadType
  sequenceNumber : h'.sequenceNumber = h.sequenceNumber
  timestamp : h'.timestamp = h.timestamp
  ssrc : h'.ssrc = h.ssrc
  csrc : h'.csrc = h.csrc
  extensionProfile : h.writesExtension = true → h'.extensionProfile = h.extensionProfile
  extensions : h'.extensions = h.extensions

/-- The bytes of a packet, if there are any, are read as the same packet. -/
def RoundTrips (packet : RtpPacket) : Prop :=
  ∀ buf, packet.serialize = some buf → ∃ packet', RtpPacket.deSerialize buf = .ok packet' ∧
    SameFields packet.header packet'.header ∧ packet'.payload = packet.payload

/-- The padding of a packet. -/
def paddingBytes (h : RtpHeader) : Bytes :=
  if h.padding then List.replicate (h.paddingSize - 1) 0 ++ [UInt8.ofNat h.paddingSize] else []

variable {packet : RtpPacket} {h : RtpHeader} {buf bytes : Bytes}

lemma packet_serialize_eq (hin : packet.header.InRange) : packet.serialize =
    packet.header.serialize.map (· ++ (packet.payload ++ paddingBytes packet.header)) := by
  rw [RtpPacket.serialize, paddingBytes]
  by_cases hpad : packet.header.padding = true
  · obtain ⟨hpos, hle⟩ := hin.paddingSize hpad
    have hwrite : Js.writeUInt8 packet.header.paddingSize =
        some [UInt8.ofNat packet.header.paddingSize] := by
      rw [Js.writeUInt8, Js.writeUIntBE_natCast (by omega), encode, encode, List.nil_append,
        Nat.mod_eq_of_lt (by omega)]
    have hvalid : ¬ (packet.header.padding && (decide (packet.header.paddingSize < 1) ||
        decide (255 < packet.header.paddingSize))) = true := by
      simp only [Bool.and_eq_true, Bool.or_eq_true, decide_eq_true_eq]
      omega
    simp only [if_neg hvalid, if_pos hpad, hwrite, Option.map_some]
    cases packet.header.serialize <;> simp
  · simp only [Bool.not_eq_true] at hpad
    simp only [hpad, Bool.false_and, Bool.false_eq_true, if_false]
    cases packet.header.serialize <;> simp

lemma length_paddingBytes (hin : h.InRange) :
    (paddingBytes h).length = if h.padding = true then h.paddingSize else 0 := by
  rw [paddingBytes]
  split_ifs with hpad
  · have := hin.paddingSize hpad
    rw [List.length_append, List.length_replicate, List.length_singleton]
    omega
  · rfl

/-- The last octet of a padded packet is its padding count. -/
lemma paddingCount_written (hin : h.InRange) (hP : hasPadding (bytes ++ paddingBytes h) ↔
    h.padding = true) :
    paddingCount (bytes ++ paddingBytes h) = (paddingBytes h).length := by
  rw [length_paddingBytes hin, paddingCount]
  by_cases hpad : h.padding = true
  · have hsize := hin.paddingSize hpad
    have hlast : bytes ++ paddingBytes h =
        (bytes ++ List.replicate (h.paddingSize - 1) 0) ++ [UInt8.ofNat h.paddingSize] := by
      rw [paddingBytes, if_pos hpad, List.append_assoc]
    rw [if_pos (hP.mpr hpad), if_pos hpad, hlast, List.length_append, List.length_singleton,
      Nat.add_sub_cancel, List.getD_append_right _ _ _ _ le_rfl, Nat.sub_self]
    rw [List.getD_cons_zero, UInt8.toNat_ofNat', Nat.mod_eq_of_lt (by omega)]
  · rw [if_neg fun h => hpad (hP.mp h), if_neg hpad]

lemma slice_middle (pre mid post : Bytes) :
    Js.slice (pre ++ (mid ++ post)) pre.length ((pre ++ (mid ++ post)).length - post.length) =
      mid := by
  rw [Js.slice, List.drop_left]
  refine List.take_left' ?_
  simp only [List.length_append]
  omega

/-- **Reading the elements that have been written**, when they fit. -/
lemma readExtensions_written (hX : h.writesExtension = true) (hfits : h.Representable)
    (helements : h.elements = some bytes) :
    readExtensions h.extensionProfile (RtpHeader.area bytes) = .ok (h.extensions, 0) := by
  have hextensions := hfits.extensions hX
  rw [RtpHeader.elements] at helements
  by_cases hone : h.extensionProfile = oneByteProfile
  · rw [if_pos (Or.inl hone), hone] at hextensions
    rw [if_pos hone] at helements
    obtain ⟨elements, hwrite, rfl⟩ := Option.map_eq_some_iff.mp helements
    rw [hone, readExtensions, if_pos rfl, oneByteElements_eq_ok]
    exact oneByteArea_written hextensions hwrite _
  by_cases htwo : h.extensionProfile = twoByteProfile
  · rw [if_pos (Or.inr htwo), htwo] at hextensions
    rw [if_neg hone, if_pos htwo] at helements
    obtain ⟨elements, hwrite, rfl⟩ := Option.map_eq_some_iff.mp helements
    rw [htwo, readExtensions, if_neg (by decide), if_pos rfl, RtpHeader.area,
      (twoByteArea_written hextensions hwrite _).elements]
    rfl
  · rw [if_neg (not_or.mpr ⟨hone, htwo⟩)] at hextensions
    obtain ⟨payload, hpayload⟩ := hextensions
    rw [if_neg hone, if_neg htwo, hpayload] at helements
    simp only at helements
    split_ifs at helements with hwords
    obtain rfl := Option.some.inj helements
    have hround : RtpHeader.roundedExtSize payload.length - payload.length = 0 := by
      rw [RtpHeader.roundedExtSize]
      omega
    rw [readExtensions, if_neg hone, if_neg htwo, hpayload, RtpHeader.area, hround,
      List.replicate_zero, List.append_nil]

/-- A header that has been read up to its padding. -/
structure ReadsTo (buf : Bytes) (h₁ : RtpHeader) : Prop where
  fixed : 12 ≤ buf.length
  csrc : csrcEnd buf ≤ buf.length
  read : if hasExtension buf then (RtpHeader.fixedPart buf).readExtension buf = .ok h₁
    else h₁ = RtpHeader.fixedPart buf

/-- **A written header is read back**, whatever stands behind it. -/
lemma readsTo_written (hin : h.InRange) (hfits : h.Representable)
    (hserialize : h.serialize = some bytes) (rest : Bytes) :
    (hasPadding (bytes ++ rest) ↔ h.padding = true) ∧ ∃ h₁, ReadsTo (bytes ++ rest) h₁ ∧
      h₁.payloadOffset = bytes.length ∧ SameFields h { h₁ with paddingSize := h.paddingSize } := by
  rw [RtpHeader.serialize_eq hin] at hserialize
  obtain ⟨ext, hext, rfl⟩ := Option.map_eq_some_iff.mp hserialize
  clear hserialize
  set buf := h.fixedBytes ++ h.csrcBytes ++ ext ++ rest with hbuf
  have hassoc : buf = h.fixedBytes ++ (h.csrcBytes ++ (ext ++ rest)) := by
    rw [hbuf, List.append_assoc, List.append_assoc]
  have hcsrcEnd : csrcEnd buf = 12 + 4 * h.csrc.length := by
    rw [hassoc]
    exact csrcEnd_written hin hfits.csrc _
  have hP : hasPadding buf ↔ h.padding = true := by
    rw [hassoc]
    exact hasPadding_written hin hfits.csrc _
  have hX : hasExtension buf ↔ h.writesExtension = true := by
    rw [hassoc]
    exact hasExtension_written hin hfits.csrc _
  have hfixedPart : RtpHeader.fixedPart buf = h.readBack := by
    rw [hassoc]
    exact RtpHeader.fixedPart_eq hin hfits.csrc _
  have hpre : (h.fixedBytes ++ h.csrcBytes).length = 12 + 4 * h.csrc.length := by
    rw [List.length_append, h.length_fixedBytes, h.length_csrcBytes]
  have hlength : 12 + 4 * h.csrc.length ≤ buf.length := by
    rw [hbuf, List.append_assoc, List.length_append, hpre]
    exact Nat.le_add_right _ _
  refine ⟨hP, ?_⟩
  by_cases hwrites : h.writesExtension = true
  · rw [if_pos hwrites, RtpHeader.extensionBytes_eq_some hin.extensionProfile] at hext
    obtain ⟨elements, helements, hle, rfl⟩ := hext
    have hsizes := RtpHeader.length_elements helements
    obtain ⟨hprofile, -, hend, harea⟩ := extension_written hin hfits.csrc hwrites
      (by omega : (elements.length + 3) / 4 < 65536) (RtpHeader.length_area elements) rest
    simp only [List.append_assoc] at hassoc
    rw [← hassoc] at hprofile hend harea
    have hbytes : (h.fixedBytes ++ h.csrcBytes ++ (encode 2 h.extensionProfile ++
        (encode 2 ((elements.length + 3) / 4) ++ RtpHeader.area elements))).length =
        headerEnd buf := by
      rw [List.length_append, hpre, hend]
      simp only [List.length_append, length_encode, RtpHeader.length_area]
      omega
    have hinside : headerEnd buf ≤ buf.length := by
      rw [← hbytes, hbuf]
      simp only [List.length_append]
      omega
    have hextension := hX.mpr hwrites
    have helementsRead := readExtensions_written hwrites hfits helements
    rw [← harea, ← hprofile] at helementsRead
    refine ⟨RtpHeader.withExtension buf h.extensions 0, ⟨by omega, by omega, ?_⟩, by rw [hbytes]; rfl,
      ?_⟩
    · rw [if_pos hextension, readExtension_eq_ok hextension]
      exact ⟨hinside, h.extensions, 0, helementsRead, rfl⟩
    · have hfields : RtpHeader.withExtension buf h.extensions 0 = { h.readBack with
          extensionProfile := h.extensionProfile
          extensionLength := some (readNat 2 buf (csrcEnd buf + 2) * 4)
          extensions := h.extensions
          payloadOffset := headerEnd buf - 0 } := by
        rw [RtpHeader.withExtension, hfixedPart, hprofile]
      rw [hfields]
      exact ⟨rfl, rfl, fun _ => rfl, rfl, rfl, rfl, rfl, rfl, rfl, rfl, fun _ => rfl, rfl⟩
  · have hplain := hX.not.mpr hwrites
    rw [if_neg hwrites] at hext
    obtain rfl := Option.some.inj hext
    have hnone : h.extension = false ∧ h.extensions = [] := by
      simpa [RtpHeader.writesExtension] using hwrites
    refine ⟨h.readBack, ⟨by omega, by omega, ?_⟩, ?_, ?_⟩
    · rw [if_neg hplain, hfixedPart]
    · rw [List.append_nil, hpre, Nat.mul_comm]
      rfl
    · exact ⟨rfl, rfl, fun _ => rfl, rfl, rfl, rfl, rfl, rfl, rfl, rfl,
        fun hX => absurd hX hwrites, hnone.2.symm⟩

/-- **A representable packet is read back.** -/
lemma roundTrips_of_representable (hin : packet.header.InRange)
    (hfits : packet.header.Representable) : RoundTrips packet := by
  intro buf hserialize
  rw [packet_serialize_eq hin] at hserialize
  obtain ⟨bytes, hheader, rfl⟩ := Option.map_eq_some_iff.mp hserialize
  set h := packet.header
  obtain ⟨hP, h₁, hreads, hoffset, hsame⟩ :=
    readsTo_written hin hfits hheader (packet.payload ++ paddingBytes h)
  set buf := bytes ++ (packet.payload ++ paddingBytes h) with hbuf
  have hcount : paddingCount buf = (paddingBytes h).length := by
    rw [hbuf, ← List.append_assoc] at hP ⊢
    exact paddingCount_written hin hP
  have hsize := length_paddingBytes hin
  have hlength : buf.length = bytes.length + (packet.payload.length + (paddingBytes h).length) := by
    rw [hbuf, List.length_append, List.length_append]
  have hP₁ : h₁.padding = true ↔ hasPadding buf := by
    rw [hP, ← hsame.padding]
  have hok : RtpHeader.deSerialize buf true =
      .ok { h₁ with paddingSize := (paddingBytes h).length } := by
    refine deSerialize_eq_ok.mpr ⟨hreads.fixed, hreads.csrc, h₁, hreads.read, by omega, ?_⟩
    refine (applyRtpPaddingSize_eq_ok hP₁).mpr ⟨fun hpad => ?_, by rw [hcount]⟩
    have hrange := hin.paddingSize (hP.mp hpad)
    rw [if_pos (hP.mp hpad)] at hsize
    omega
  rw [packet_deSerialize hok]
  refine ⟨_, rfl, ⟨hsame.version, hsame.padding, fun hpad => ?_, hsame.extension, hsame.marker,
    hsame.payloadType, hsame.sequenceNumber, hsame.timestamp, hsame.ssrc, hsame.csrc,
    hsame.extensionProfile, hsame.extensions⟩, ?_⟩
  · rw [hsize, if_pos hpad]
  · simp only [hoffset]
    rw [hbuf, slice_middle]

lemma length_csrc_fixedPart (buf : Bytes) : (RtpHeader.fixedPart buf).csrc.length ≤ 15 := by
  have hlt := getBit_lt (buf.getD 0 0) 4 4
  simp only [RtpHeader.fixedPart, List.length_map, List.length_range]
  omega

/-- What an accepted header has from its fixed part and from its extension. -/
lemma accepted_fields (hok : RtpHeader.deSerialize buf true = .ok h) :
    h.csrc.length ≤ 15 ∧ (hasExtension buf → h.extensionProfile = profileOf buf) := by
  obtain ⟨-, -, h₁, hread, -, hpad⟩ := deSerialize_eq_ok.mp hok
  by_cases hX : hasExtension buf
  · rw [if_pos hX] at hread
    obtain ⟨-, extensions, left, -, rfl⟩ := (readExtension_eq_ok hX).mp hread
    have hP : (RtpHeader.withExtension buf extensions left).padding = true ↔ hasPadding buf :=
      padding_fixedPart
    obtain ⟨-, rfl⟩ := (applyRtpPaddingSize_eq_ok hP).mp hpad
    exact ⟨length_csrc_fixedPart buf, fun _ => rfl⟩
  · rw [if_neg hX] at hread
    subst hread
    obtain ⟨-, rfl⟩ := (applyRtpPaddingSize_eq_ok padding_fixedPart).mp hpad
    exact ⟨length_csrc_fixedPart buf, fun h => absurd h hX⟩

/-- **What comes back is representable**: the parser returns at most 15 contributing sources, and
only extensions that fit their profile. -/
lemma representable_of_roundTrips (hin : packet.header.InRange) (htrip : RoundTrips packet)
    (hserialize : packet.serialize = some buf) : packet.header.Representable := by
  obtain ⟨packet', hread, hsame, -⟩ := htrip buf hserialize
  obtain ⟨h', hok⟩ : ∃ h', RtpHeader.deSerialize buf true = .ok h' := by
    cases hok : RtpHeader.deSerialize buf true with
    | ok h' => exact ⟨h', rfl⟩
    | error e =>
      rw [packet_deSerialize_error hok] at hread
      cases hread
  rw [packet_deSerialize hok] at hread
  obtain rfl := Except.ok.inj hread
  obtain ⟨hcsrc, hprofile⟩ := accepted_fields hok
  rw [hsame.csrc] at hcsrc
  refine ⟨hcsrc, fun hwrites => ?_⟩
  have hX : hasExtension buf := by
    rw [packet_serialize_eq hin, RtpHeader.serialize_eq hin] at hserialize
    obtain ⟨bytes, hheader, rfl⟩ := Option.map_eq_some_iff.mp hserialize
    obtain ⟨ext, -, rfl⟩ := Option.map_eq_some_iff.mp hheader
    rw [List.append_assoc, List.append_assoc]
    exact (hasExtension_written hin hcsrc _).mpr hwrites
  obtain ⟨-, -, -, -, -, helements, -⟩ := accepted_bounds hok
  rw [if_pos hX, ← hprofile hX, hsame.extensionProfile hwrites, hsame.extensions,
    AreaReads] at helements
  by_cases hone : packet.header.extensionProfile = oneByteProfile
  · rw [if_pos hone] at helements
    rw [if_pos (Or.inl hone), hone]
    obtain ⟨left, harea⟩ := helements
    exact harea.fits
  by_cases htwo : packet.header.extensionProfile = twoByteProfile
  · rw [if_neg hone, if_pos htwo] at helements
    rw [if_pos (Or.inr htwo), htwo]
    exact helements.fits
  · rw [if_neg hone, if_neg htwo] at helements
    rw [if_neg (not_or.mpr ⟨hone, htwo⟩)]
    exact ⟨_, helements⟩

/-- **Round trip or error**, for the headers that the writer refuses and for those that the format
can hold, and for no other. -/
theorem packet_roundTrips_iff (hin : packet.header.InRange) :
    RoundTrips packet ↔ packet.header.Rejected ∨ packet.header.Representable := by
  constructor
  · intro htrip
    cases hserialize : packet.serialize with
    | none =>
      rw [packet_serialize_eq hin, Option.map_eq_none_iff, RtpHeader.serialize_eq_none hin]
        at hserialize
      exact Or.inl hserialize
    | some buf => exact Or.inr (representable_of_roundTrips hin htrip hserialize)
  · rintro (hrejected | hfits)
    · intro buf hserialize
      rw [packet_serialize_eq hin, (RtpHeader.serialize_eq_none hin).mpr hrejected] at hserialize
      cases hserialize
    · exact roundTrips_of_representable hin hfits

/-- A header with one extension of each of three sizes. -/
theorem packet_roundTrips_one_byte : RoundTrips ⟨{ extensions := [⟨1, [1]⟩, ⟨2, [1, 2]⟩] }, [7]⟩ := by
  refine (packet_roundTrips_iff ⟨by decide, by decide, by decide, by decide, by decide, by decide,
    by decide, by decide⟩).mpr (Or.inr ⟨by decide, fun _ => ?_⟩)
  rw [if_pos (by decide)]
  decide

/-- A payload of 17 octets in a one-byte element: its length runs into the id. -/
theorem long_element_changes_id :
    ¬ RoundTrips ⟨{ extensions := [⟨2, List.replicate 17 1⟩] }, []⟩ := by
  intro htrip
  have hserialize : RtpPacket.serialize ⟨{ extensions := [⟨2, List.replicate 17 1⟩] }, []⟩ =
      some ([0x90, 0, 0, 0, 0, 0, 0, 0, 0, 0, 0, 0, 0xbe, 0xde, 0, 5, 0x30] ++
        (List.replicate 17 1 ++ [0, 0])) := by
    decide +kernel
  have hfits := representable_of_roundTrips ⟨by decide, by decide, by decide, by decide, by decide,
    by decide, by decide, by decide⟩ htrip hserialize
  have hextension := hfits.extensions (by decide)
  rw [if_pos (by decide)] at hextension
  exact absurd (hextension _ List.mem_cons_self) (by decide)

end Werift.Rtp
