import Werift.Codec.Vp8Descriptor
import Werift.Codec.Vp9
import Werift.Lib.OffsetReader

/-!
# Payload descriptors of VP9 (RFC 9628, section 4.2)

Every part of a descriptor is read octet by octet, and is there or not by the flags in front of it.  The octets
of a descriptor are read as its fields, whatever stands behind them, and less than them is refused.
-/

namespace Werift.Codec

open Rtp (Bytes)
open OffsetReader

namespace Vp9

/-! ## The format -/

/-- `WIDTH` and `HEIGHT` of a layer. -/
structure Resolution where
  width : UInt16
  height : UInt16

def Resolution.bytes (r : Resolution) : Bytes :=
  BigEndian.encode 2 r.width.toNat ++ BigEndian.encode 2 r.height.toNat

/-- A picture of a picture group: the octet of `TID`, `U` and `R`, and `R` reference indices. -/
structure Picture where
  octet : UInt8
  differences : List UInt8
  rBits : getBit octet 4 2 = differences.length

def Picture.bytes (picture : Picture) : Bytes := picture.octet :: picture.differences

/-- The octet of `N_S`, `Y` and `G`, and what they announce. -/
structure ScalabilityStructure where
  octet : UInt8
  resolutions : List Resolution
  pictures : Option (List Picture)
  yBit : resolutions.length = if getBit octet 3 1 = 0 then 0 else getBit octet 0 3 + 1
  gBit : getBit octet 4 1 = pictures.isSome.toNat
  n_g : ∀ group ∈ pictures, group.length < 256

/-- The octet `N_G` and the pictures behind it. -/
def groupBytes (group : List Picture) : Bytes := UInt8.ofNat group.length :: group.flatMap Picture.bytes

def ScalabilityStructure.bytes (s : ScalabilityStructure) : Bytes :=
  s.octet :: (s.resolutions.flatMap Resolution.bytes ++ s.pictures.elim [] groupBytes)

/-- The octet of the layer indices, and `TL0PICIDX`. -/
structure LayerIndices where
  octet : UInt8
  tl0PicIdx : Option UInt8

def LayerIndices.bytes (l : LayerIndices) : Bytes := l.octet :: l.tl0PicIdx.toList

/-- The reference indices, each with a bit `N` that says whether another one follows. -/
structure References where
  others : List UInt8
  last : UInt8
  nBits : ∀ octet ∈ others, getBit octet 7 1 = 1
  nBit : getBit last 7 1 = 0

def References.bytes (r : References) : Bytes := r.others ++ [r.last]

/-- A payload descriptor.  Neither the number of reference indices nor the flag `F` of a descriptor without a
picture id is restricted here. -/
structure PayloadDescriptor where
  octet : UInt8
  pictureId : Option Vp8.PictureIdField
  layers : Option LayerIndices
  references : Option References
  scalability : Option ScalabilityStructure
  iBit : getBit octet 0 1 = pictureId.isSome.toNat
  lBit : getBit octet 2 1 = layers.isSome.toNat
  fBit : ∀ l ∈ layers, l.tl0PicIdx.isSome = true ↔ getBit octet 3 1 = 0
  fpBits : references.isSome = true ↔ getBit octet 3 1 = 1 ∧ getBit octet 1 1 = 1
  vBit : getBit octet 6 1 = scalability.isSome.toNat

namespace PayloadDescriptor

variable (d : PayloadDescriptor)

/-- The octets of a descriptor. -/
def bytes : Bytes :=
  d.octet :: (d.pictureId.elim [] Vp8.PictureIdField.bytes ++ (d.layers.elim [] LayerIndices.bytes ++
    (d.references.elim [] References.bytes ++ d.scalability.elim [] ScalabilityStructure.bytes)))

/-- The pictures of its picture group. -/
def pictures : List Picture := (d.scalability.bind ScalabilityStructure.pictures).getD []

/-- The resolutions of its layers. -/
def resolutions : List Resolution := d.scalability.elim [] ScalabilityStructure.resolutions

/-- The fields of a descriptor. -/
def fields : Vp9RtpPayload where
  iBit := getBit d.octet 0 1
  pBit := getBit d.octet 1 1
  lBit := getBit d.octet 2 1
  fBit := getBit d.octet 3 1
  bBit := getBit d.octet 4 1
  eBit := getBit d.octet 5 1
  vBit := getBit d.octet 6 1
  zBit := getBit d.octet 7 1
  m := d.pictureId.map Vp8.PictureIdField.mBit
  pictureId := d.pictureId.map Vp8.PictureIdField.pictureId
  tid := d.layers.map fun l => getBit l.octet 0 3
  u := d.layers.map fun l => getBit l.octet 3 1
  sid := d.layers.map fun l => getBit l.octet 4 3
  d := d.layers.map fun l => getBit l.octet 7 1
  tl0PicIdx := d.layers.bind fun l => l.tl0PicIdx.map UInt8.toNat
  pDiff := (d.references.elim [] References.bytes).map fun octet => getBit octet 0 7
  n_s := d.scalability.map fun s => getBit s.octet 0 3
  y := d.scalability.map fun s => getBit s.octet 3 1
  g := d.scalability.map fun s => getBit s.octet 4 1
  width := d.resolutions.map fun r => r.width.toNat
  height := d.resolutions.map fun r => r.height.toNat
  n_g := d.pictures.length
  pgT := d.pictures.map fun picture => getBit picture.octet 0 3
  pgU := d.pictures.map fun picture => getBit picture.octet 3 1
  pgP_Diff := d.pictures.map fun picture => picture.differences.map UInt8.toNat

end PayloadDescriptor

end Vp9

namespace Vp9RtpPayload

open Vp9

variable (p : Vp9RtpPayload)

/-! ## The readers, octet by octet -/

/-- The next `n` octets, or the error of `assertRtpCodecPayloadLength`. -/
def octets (n : ℕ) : Bytes → ℕ → Except String (Bytes × ℕ) :=
  OffsetReader.octets (fun need got => s!"VP9 RTP payload truncated: need {need} bytes, got {got}") n

/-- The next octet. -/
def octet : Bytes → ℕ → Except String (UInt8 × ℕ) := andThen (octets 1) fun field => return' (field.headD 0)

lemma octets_eq (n : ℕ) (buf : Bytes) (offset : ℕ) : octets n buf offset =
    assertRtpCodecPayloadLength buf n "VP9" offset >>= fun _ => .ok ((buf.drop offset).take n, offset + n) := by
  rw [octets, OffsetReader.octets, assertRtpCodecPayloadLength]
  split_ifs <;> rfl

lemma octet_eq (buf : Bytes) (offset : ℕ) : octet buf offset =
    assertRtpCodecPayloadLength buf 1 "VP9" offset >>= fun _ => .ok (buf.getD offset 0, offset + 1) := by
  rw [octet, andThen, octets_eq, assertRtpCodecPayloadLength]
  split_ifs with h
  · rfl
  · have hhead : ((buf.drop offset).take 1).headD 0 = buf.getD offset 0 := by
      rw [List.headD_eq_head?_getD, List.head?_take, if_neg Nat.one_ne_zero, List.head?_drop,
        List.getD_eq_getElem?_getD]
    rw [Except.ok_bind, Except.ok_bind, Except.ok_bind, return', hhead]

lemma local_octet : Local octet := (local_octets _ 1).andThen fun _ => local_return _

lemma reads_octet (o : UInt8) : ReadsAs octet [o] o := (reads_octets _ [o]).andThen (reads_return o)

/-- One octet in front of the rest of a field. -/
lemma reads_octet_andThen {α : Type} {next : UInt8 → Bytes → ℕ → Except String (α × ℕ)} {o : UInt8}
    {field : Bytes} {a : α} (h : ReadsAs (next o) field a) : ReadsAs (andThen octet next) (o :: field) a :=
  (reads_octet o).andThen h

lemma readPictureId_eq : p.readPictureId =
    if p.iBit ≠ 0 then andThen octet fun first =>
      if getBit first 0 1 ≠ 0 then andThen octet fun low =>
        return' { p with m := some (getBit first 0 1), pictureId := some (getBit first 1 7 * 256 + low.toNat) }
      else return' { p with m := some (getBit first 0 1), pictureId := some (getBit first 1 7) }
    else return' p := by
  funext buf offset
  rw [readPictureId]
  split_ifs with hi
  · simp only [andThen, octet_eq, bind_assoc, Except.ok_bind]
    refine congrArg _ (funext fun _ => ?_)
    split_ifs with hm
    · simp only [andThen, octet_eq, bind_assoc, Except.ok_bind]
      rfl
    · rfl
  · rfl

lemma readLayerIndices_eq : p.readLayerIndices =
    if p.lBit ≠ 0 then andThen octet fun first =>
      let p := { p with tid := some (getBit first 0 3), u := some (getBit first 3 1),
                        sid := some (getBit first 4 3), d := some (getBit first 7 1) }
      if p.fBit = 0 then andThen octet fun tl0PicIdx => return' { p with tl0PicIdx := some tl0PicIdx.toNat }
      else return' p
    else return' p := by
  funext buf offset
  rw [readLayerIndices]
  split_ifs with hl
  · simp only [andThen, octet_eq, bind_assoc, Except.ok_bind]
    refine congrArg _ (funext fun _ => ?_)
    split_ifs with hf
    · simp only [andThen, octet_eq, bind_assoc, Except.ok_bind]
      rfl
    · rfl
  · rfl

lemma readPDiff_eq : readPDiff = andThen octet fun first =>
    if getBit first 7 1 = 0 then return' [getBit first 0 7]
    else andThen readPDiff fun pDiff => return' (getBit first 0 7 :: pDiff) := by
  funext buf offset
  rw [readPDiff, andThen, octet_eq, assertRtpCodecPayloadLength]
  split_ifs with hlength
  · rfl
  · rw [Except.ok_bind, Except.ok_bind]
    dsimp only
    by_cases hlast : getBit (buf.getD offset 0) 7 1 = 0
    · rw [if_pos hlast, if_pos hlast]
      rfl
    · rw [if_neg hlast, if_neg hlast, andThen]
      cases readPDiff buf (offset + 1) <;> rfl

lemma readReferences_eq : p.readReferences =
    if p.fBit ≠ 0 ∧ p.pBit ≠ 0 then andThen readPDiff fun pDiff => return' { p with pDiff } else return' p := by
  funext buf offset
  rw [readReferences]
  split_ifs <;> rfl

lemma readResolutions_succ (n : ℕ) : (fun buf => readResolutions buf (n + 1)) = andThen (octets 4) fun field =>
    andThen (fun buf => readResolutions buf n) fun resolutions =>
      return' ((BigEndian.decode (field.take 2), BigEndian.decode (field.drop 2)) :: resolutions) := by
  funext buf offset
  simp only [readResolutions, andThen, octets_eq, bind_assoc, Except.ok_bind]
  have hfirst : readNat 2 buf offset = BigEndian.decode (((buf.drop offset).take 4).take 2) := by
    rw [readNat, List.take_take]
    rfl
  have hsecond : readNat 2 buf (offset + 2) = BigEndian.decode (((buf.drop offset).take 4).drop 2) := by
    rw [readNat, List.drop_take, List.drop_drop]
  rw [hfirst, hsecond]
  rfl

lemma readDifferences_succ (r : ℕ) : (fun buf => readDifferences buf (r + 1)) = andThen octet fun first =>
    andThen (fun buf => readDifferences buf r) fun differences => return' (first.toNat :: differences) := by
  funext buf offset
  simp only [readDifferences, andThen, octet_eq, bind_assoc, Except.ok_bind]
  rfl

lemma readPictureGroup_succ (n : ℕ) : (fun buf => readPictureGroup buf (n + 1)) = andThen octet fun first =>
    andThen (fun buf => readDifferences buf (getBit first 4 2)) fun differences =>
      andThen (fun buf => readPictureGroup buf n) fun pictures =>
        return' ((getBit first 0 3, getBit first 3 1, differences) :: pictures) := by
  funext buf offset
  simp only [readPictureGroup, andThen, octet_eq, bind_assoc, Except.ok_bind]
  rfl

lemma readScalabilityStructure_eq : p.readScalabilityStructure =
    if p.vBit ≠ 0 then andThen octet fun first =>
      andThen (if getBit first 3 1 ≠ 0 then fun buf => readResolutions buf (getBit first 0 3 + 1)
        else return' []) fun resolutions =>
      andThen (if getBit first 4 1 ≠ 0 then andThen octet fun n_g => return' n_g.toNat else return' 0) fun n_g =>
      andThen (fun buf => readPictureGroup buf n_g) fun pictures =>
      return'
        { p with n_s := some (getBit first 0 3), y := some (getBit first 3 1), g := some (getBit first 4 1)
                 width := resolutions.map Prod.fst, height := resolutions.map Prod.snd, n_g
                 pgT := pictures.map fun picture => picture.1
                 pgU := pictures.map fun picture => picture.2.1
                 pgP_Diff := pictures.map fun picture => picture.2.2 }
    else return' p := by
  funext buf offset
  rw [readScalabilityStructure]
  split_ifs with hv
  · simp only [andThen, octet_eq, bind_assoc, Except.ok_bind]
    refine congrArg _ (funext fun _ => ?_)
    split_ifs
    · simp only [andThen, octet_eq, bind_assoc, Except.ok_bind]
      rfl
    · rfl
    · simp only [andThen, octet_eq, bind_assoc, Except.ok_bind]
      rfl
    · rfl
  · rfl

/-! ## What is read lies within the bytes -/

lemma local_ite {α : Type} {c : Prop} [Decidable c] {read read' : Bytes → ℕ → Except String (α × ℕ)}
    (h : Local read) (h' : Local read') : Local (if c then read else read') := by
  split_ifs
  · exact h
  · exact h'

lemma local_readPictureId : Local p.readPictureId := by
  rw [readPictureId_eq]
  refine local_ite (local_octet.andThen fun first => ?_) (local_return _)
  exact local_ite (local_octet.andThen fun _ => local_return _) (local_return _)

lemma local_readLayerIndices : Local p.readLayerIndices := by
  rw [readLayerIndices_eq]
  refine local_ite (local_octet.andThen fun first => ?_) (local_return _)
  exact local_ite (local_octet.andThen fun _ => local_return _) (local_return _)

lemma local_readPDiff : Local readPDiff := by
  intro bytes offset
  -- By induction on the bytes that are left.
  induction hleft : bytes.length - offset using Nat.strong_induction_on generalizing offset with
  | _ left ih =>
    intro pDiff offset' _ h
    by_cases hshort : bytes.length < offset + 1
    · rw [readPDiff, if_pos hshort] at h
      cases h
    have hlong := Nat.not_lt.mp hshort
    have hmore : ∀ more, (bytes ++ more).getD offset 0 = bytes.getD offset 0 := fun more =>
      Vp8RtpPayload.getD_append_of_lt more hlong
    have hlength : ∀ more, ¬(bytes ++ more).length < offset + 1 := fun more => by
      rw [List.length_append]
      omega
    by_cases hlast : getBit (bytes.getD offset 0) 7 1 = 0
    · rw [readPDiff, if_neg hshort, if_pos hlast] at h
      cases h
      refine ⟨hlong, fun more => ?_⟩
      rw [readPDiff, if_neg (hlength more), hmore, if_pos hlast]
    · rw [readPDiff, if_neg hshort, if_neg hlast] at h
      obtain ⟨⟨others, offset''⟩, hothers, heq⟩ := Except.map_eq_ok.mp h
      cases heq
      obtain ⟨hle, hothers'⟩ := ih (bytes.length - (offset + 1)) (by omega) rfl hlong hothers
      refine ⟨hle, fun more => ?_⟩
      rw [readPDiff, if_neg (hlength more), hmore, if_neg hlast, hothers' more]
      rfl

lemma local_readReferences : Local p.readReferences := by
  rw [readReferences_eq]
  exact local_ite (local_readPDiff.andThen fun _ => local_return _) (local_return _)

lemma local_readResolutions (n : ℕ) : Local fun buf => readResolutions buf n := by
  induction n with
  | zero => exact local_return _
  | succ n ih =>
    rw [readResolutions_succ]
    exact (local_octets _ 4).andThen fun _ => ih.andThen fun _ => local_return _

lemma local_readDifferences (r : ℕ) : Local fun buf => readDifferences buf r := by
  induction r with
  | zero => exact local_return _
  | succ r ih =>
    rw [readDifferences_succ]
    exact local_octet.andThen fun _ => ih.andThen fun _ => local_return _

lemma local_readPictureGroup (n : ℕ) : Local fun buf => readPictureGroup buf n := by
  induction n with
  | zero => exact local_return _
  | succ n ih =>
    rw [readPictureGroup_succ]
    exact local_octet.andThen fun _ => (local_readDifferences _).andThen fun _ => ih.andThen fun _ => local_return _

lemma local_readScalabilityStructure : Local p.readScalabilityStructure := by
  rw [readScalabilityStructure_eq]
  refine local_ite (local_octet.andThen fun first => ?_) (local_return _)
  refine (local_ite (local_readResolutions _) (local_return _)).andThen fun _ => ?_
  refine (local_ite (local_octet.andThen fun _ => local_return _) (local_return _)).andThen fun _ => ?_
  exact (local_readPictureGroup _).andThen fun _ => local_return _

/-! ## Reading the fields -/

lemma reads_readPictureId {field : Option Vp8.PictureIdField} (hiBit : p.iBit = field.isSome.toNat)
    (hm : p.m = none) (hpictureId : p.pictureId = none) : ReadsAs p.readPictureId (field.elim [] Vp8.PictureIdField.bytes)
      { p with m := field.map Vp8.PictureIdField.mBit, pictureId := field.map Vp8.PictureIdField.pictureId } := by
  rw [readPictureId_eq]
  cases field with
  | none =>
    rw [if_neg (by rw [hiBit]; decide)]
    cases p
    cases hm
    cases hpictureId
    exact reads_return _
  | some field =>
    rw [if_pos (by rw [hiBit]; exact Nat.one_ne_zero)]
    cases field with
    | short first h =>
      refine reads_octet_andThen ?_
      rw [h, if_neg (by decide)]
      exact reads_return _
    | long first low h =>
      refine reads_octet_andThen ?_
      rw [h, if_pos (by decide)]
      exact reads_octet_andThen (reads_return _)

lemma reads_readLayerIndices {layers : Option LayerIndices} (hlBit : p.lBit = layers.isSome.toNat)
    (hfBit : ∀ l ∈ layers, l.tl0PicIdx.isSome = true ↔ p.fBit = 0) (htid : p.tid = none) (hu : p.u = none)
    (hsid : p.sid = none) (hd : p.d = none) (htl0PicIdx : p.tl0PicIdx = none) :
    ReadsAs p.readLayerIndices (layers.elim [] LayerIndices.bytes)
      { p with tid := layers.map fun l => getBit l.octet 0 3
               u := layers.map fun l => getBit l.octet 3 1
               sid := layers.map fun l => getBit l.octet 4 3
               d := layers.map fun l => getBit l.octet 7 1
               tl0PicIdx := layers.bind fun l => l.tl0PicIdx.map UInt8.toNat } := by
  rw [readLayerIndices_eq]
  cases layers with
  | none =>
    rw [if_neg (by rw [hlBit]; decide)]
    cases p
    cases htid
    cases hu
    cases hsid
    cases hd
    cases htl0PicIdx
    exact reads_return _
  | some l =>
    rw [if_pos (by rw [hlBit]; exact Nat.one_ne_zero)]
    obtain ⟨first, tl0PicIdx⟩ := l
    have hfBit' := hfBit _ rfl
    refine reads_octet_andThen ?_
    cases tl0PicIdx with
    | none =>
      rw [if_neg fun hf => Bool.false_ne_true (hfBit'.mpr hf)]
      cases p
      cases htl0PicIdx
      exact reads_return _
    | some tl0PicIdx =>
      rw [if_pos (hfBit'.mp rfl)]
      exact reads_octet_andThen (reads_return _)

lemma reads_readPDiff (r : References) : ReadsAs readPDiff r.bytes (r.bytes.map fun octet => getBit octet 0 7) := by
  obtain ⟨others, last, hothers, hlast⟩ := r
  rw [References.bytes]
  dsimp only
  induction others with
  | nil =>
    rw [readPDiff_eq]
    refine reads_octet_andThen ?_
    rw [if_pos hlast]
    exact reads_return _
  | cons first others ih =>
    have hfirst := hothers first List.mem_cons_self
    rw [readPDiff_eq]
    refine reads_octet_andThen ?_
    rw [hfirst, if_neg Nat.one_ne_zero]
    exact (ih fun octet hoctet => hothers octet (List.mem_cons_of_mem _ hoctet)).map rfl

lemma reads_readReferences {references : Option References}
    (hfpBits : references.isSome = true ↔ p.fBit = 1 ∧ p.pBit = 1) (hfBit : p.fBit < 2) (hpBit : p.pBit < 2)
    (hpDiff : p.pDiff = []) : ReadsAs p.readReferences (references.elim [] References.bytes)
      { p with pDiff := (references.elim [] References.bytes).map fun octet => getBit octet 0 7 } := by
  rw [readReferences_eq]
  cases references with
  | none =>
    rw [if_neg fun h => Bool.false_ne_true (hfpBits.mpr ⟨by omega, by omega⟩)]
    cases p
    cases hpDiff
    exact reads_return _
  | some references =>
    obtain ⟨hf, hp⟩ := hfpBits.mp rfl
    rw [if_pos ⟨by omega, by omega⟩]
    exact (reads_readPDiff references).map rfl

lemma reads_readResolutions (resolutions : List Resolution) :
    ReadsAs (fun buf => readResolutions buf resolutions.length) (resolutions.flatMap Resolution.bytes)
      (resolutions.map fun r => (r.width.toNat, r.height.toNat)) := by
  induction resolutions with
  | nil => exact reads_return _
  | cons r resolutions ih =>
    have hlength : r.bytes.length = 4 := by
      rw [Resolution.bytes, List.length_append, BigEndian.length_encode, BigEndian.length_encode]
    have hwidth : BigEndian.decode (r.bytes.take 2) = r.width.toNat := by
      rw [Resolution.bytes, List.take_left' (BigEndian.length_encode _ _)]
      exact BigEndian.decode_encode r.width.toNat_lt
    have hheight : BigEndian.decode (r.bytes.drop 2) = r.height.toNat := by
      rw [Resolution.bytes, List.drop_left' (BigEndian.length_encode _ _)]
      exact BigEndian.decode_encode r.height.toNat_lt
    have hfirst : ReadsAs (octets 4) r.bytes r.bytes := hlength ▸ reads_octets _ r.bytes
    rw [List.length_cons, readResolutions_succ, List.flatMap_cons, List.map_cons]
    refine hfirst.andThen ?_
    rw [hwidth, hheight]
    exact ih.map rfl

lemma reads_readDifferences (differences : List UInt8) :
    ReadsAs (fun buf => readDifferences buf differences.length) differences (differences.map UInt8.toNat) := by
  induction differences with
  | nil => exact reads_return _
  | cons first differences ih =>
    rw [List.length_cons, readDifferences_succ, List.map_cons]
    refine reads_octet_andThen ?_
    exact ih.map rfl

lemma reads_readPictureGroup (pictures : List Picture) :
    ReadsAs (fun buf => readPictureGroup buf pictures.length) (pictures.flatMap Picture.bytes)
      (pictures.map fun picture =>
        (getBit picture.octet 0 3, getBit picture.octet 3 1, picture.differences.map UInt8.toNat)) := by
  induction pictures with
  | nil => exact reads_return _
  | cons picture pictures ih =>
    rw [List.length_cons, readPictureGroup_succ, List.flatMap_cons, List.map_cons, Picture.bytes, List.cons_append]
    refine reads_octet_andThen ?_
    rw [picture.rBits]
    refine (reads_readDifferences picture.differences).andThen ?_
    exact ih.map rfl

lemma reads_readScalabilityStructure {scalability : Option ScalabilityStructure}
    (hvBit : p.vBit = scalability.isSome.toNat) (hn_s : p.n_s = none) (hy : p.y = none) (hg : p.g = none)
    (hwidth : p.width = []) (hheight : p.height = []) (hn_g : p.n_g = 0) (hpgT : p.pgT = []) (hpgU : p.pgU = [])
    (hpgP_Diff : p.pgP_Diff = []) :
    ReadsAs p.readScalabilityStructure (scalability.elim [] ScalabilityStructure.bytes)
      { p with n_s := scalability.map fun s => getBit s.octet 0 3
               y := scalability.map fun s => getBit s.octet 3 1
               g := scalability.map fun s => getBit s.octet 4 1
               width := (scalability.elim [] ScalabilityStructure.resolutions).map fun r => r.width.toNat
               height := (scalability.elim [] ScalabilityStructure.resolutions).map fun r => r.height.toNat
               n_g := ((scalability.bind ScalabilityStructure.pictures).getD []).length
               pgT := ((scalability.bind ScalabilityStructure.pictures).getD []).map fun picture =>
                 getBit picture.octet 0 3
               pgU := ((scalability.bind ScalabilityStructure.pictures).getD []).map fun picture =>
                 getBit picture.octet 3 1
               pgP_Diff := ((scalability.bind ScalabilityStructure.pictures).getD []).map fun picture =>
                 picture.differences.map UInt8.toNat } := by
  rw [readScalabilityStructure_eq]
  cases scalability with
  | none =>
    rw [if_neg (by rw [hvBit]; decide)]
    cases p
    cases hn_s
    cases hy
    cases hg
    cases hwidth
    cases hheight
    cases hn_g
    cases hpgT
    cases hpgU
    cases hpgP_Diff
    exact reads_return _
  | some s =>
    rw [if_pos (by rw [hvBit]; exact Nat.one_ne_zero)]
    obtain ⟨first, resolutions, pictures, hyBit, hgBit, hgroup⟩ := s
    refine reads_octet_andThen ?_
    have hresolutions : ReadsAs (if getBit first 3 1 ≠ 0 then fun buf => readResolutions buf (getBit first 0 3 + 1)
        else return' []) (resolutions.flatMap Resolution.bytes)
        (resolutions.map fun r => (r.width.toNat, r.height.toNat)) := by
      by_cases hset : getBit first 3 1 = 0
      · rw [if_pos hset] at hyBit
        rw [if_neg (not_not.mpr hset), List.eq_nil_of_length_eq_zero hyBit]
        exact reads_return _
      · rw [if_neg hset] at hyBit
        rw [if_pos hset, ← hyBit]
        exact reads_readResolutions resolutions
    refine hresolutions.andThen ?_
    cases pictures with
    | none =>
      rw [if_neg (by rw [hgBit]; decide)]
      change ReadsAs _ ([] ++ ([] : List Picture).flatMap Picture.bytes) _
      refine (reads_return 0).andThen ((reads_readPictureGroup []).map ?_)
      simp only [List.map_map]
      rfl
    | some group =>
      rw [if_pos (by rw [hgBit]; exact Nat.one_ne_zero)]
      have hn_g' : (UInt8.ofNat group.length).toNat = group.length := by
        rw [UInt8.toNat_ofNat', Nat.mod_eq_of_lt (hgroup group rfl)]
      change ReadsAs _ ([UInt8.ofNat group.length] ++ group.flatMap Picture.bytes) _
      refine ((reads_octet _).map hn_g').andThen ((reads_readPictureGroup group).map ?_)
      simp only [List.map_map]
      rfl

/-! ## Descriptors -/

/-- The flags of the first octet. -/
def flags (first : UInt8) : Vp9RtpPayload where
  iBit := getBit first 0 1
  pBit := getBit first 1 1
  lBit := getBit first 2 1
  fBit := getBit first 3 1
  bBit := getBit first 4 1
  eBit := getBit first 5 1
  vBit := getBit first 6 1
  zBit := getBit first 7 1

/-- The parser as a reader. -/
def readDescriptor : Bytes → ℕ → Except String (Vp9RtpPayload × ℕ) :=
  andThen octet fun first => andThen (flags first).readPictureId fun p => andThen p.readLayerIndices fun p =>
    andThen p.readReferences fun p => p.readScalabilityStructure

lemma parseRtpPayload_eq (buf : Bytes) : parseRtpPayload buf = readDescriptor buf 0 := by
  simp only [readDescriptor, andThen, octet_eq, bind_assoc, Except.ok_bind]
  rfl

lemma local_readDescriptor : Local readDescriptor :=
  local_octet.andThen fun _ => (local_readPictureId _).andThen fun _ => (local_readLayerIndices _).andThen
    fun _ => (local_readReferences _).andThen fun _ => local_readScalabilityStructure _

lemma reads_readDescriptor (d : PayloadDescriptor) : ReadsAs readDescriptor d.bytes d.fields := by
  refine reads_octet_andThen ?_
  refine (reads_readPictureId _ d.iBit rfl rfl).andThen ?_
  refine (reads_readLayerIndices _ d.lBit d.fBit rfl rfl rfl rfl rfl).andThen ?_
  refine (reads_readReferences _ d.fpBits (getBit_lt _ _ _) (getBit_lt _ _ _) rfl).andThen ?_
  exact reads_readScalabilityStructure _ d.vBit rfl rfl rfl rfl rfl rfl rfl rfl rfl

/-- **Payload descriptors**: the parser finds the fields of a descriptor and the offset behind it, whatever
stands there, and throws on each proper part of its front. -/
theorem parseRtpPayload_descriptor (d : PayloadDescriptor) :
    (∀ rest, parseRtpPayload (d.bytes ++ rest) = .ok (d.fields, d.bytes.length)) ∧
      ∀ front back, d.bytes = front ++ back → back ≠ [] → ∃ e, parseRtpPayload front = .error e := by
  constructor
  · intro rest
    have h := reads_readDescriptor d [] rest
    rwa [List.nil_append, List.length_nil, Nat.zero_add, ← parseRtpPayload_eq] at h
  · intro front back hbytes hback
    obtain ⟨e, he⟩ := (reads_readDescriptor d).throws local_readDescriptor hbytes hback
    exact ⟨e, (parseRtpPayload_eq front).trans he⟩

/-- A descriptor in flexible mode with a picture id of 15 bits, two reference indices and a scalability
structure of one layer and one picture. -/
def scalableDescriptor : PayloadDescriptor where
  octet := 0xfa
  pictureId := some (.long 0x81 0x02 rfl)
  layers := some { octet := 0x32, tl0PicIdx := none }
  references := some { others := [0x07], last := 0x04, nBits := List.forall_mem_singleton.mpr rfl, nBit := rfl }
  scalability := some
    { octet := 0x18
      resolutions := [{ width := 640, height := 480 }]
      pictures := some [{ octet := 0x04, differences := [1], rBits := rfl }]
      yBit := rfl
      gBit := rfl
      n_g := by
        rintro _ ⟨⟩
        decide }
  iBit := rfl
  lBit := rfl
  fBit := by
    rintro _ ⟨⟩
    decide
  fpBits := by decide
  vBit := rfl

theorem parseRtpPayload_scalableDescriptor :
    parseRtpPayload (scalableDescriptor.bytes ++ [9]) = .ok (scalableDescriptor.fields, 14) ∧
      ∃ e, parseRtpPayload [0xfa, 0x81] = .error e := by
  obtain ⟨hfields, hthrows⟩ := parseRtpPayload_descriptor scalableDescriptor
  have hlength : scalableDescriptor.bytes.length = 14 := rfl
  have hsplit : scalableDescriptor.bytes = [0xfa, 0x81] ++ scalableDescriptor.bytes.drop 2 := rfl
  have hrest : scalableDescriptor.bytes.drop 2 ≠ [] := List.cons_ne_nil _ _
  have h := hfields [9]
  rw [hlength] at h
  exact ⟨h, hthrows [0xfa, 0x81] _ hsplit hrest⟩

end Vp9RtpPayload

end Werift.Codec
