import Werift.Lib.Except
import Werift.Rtp.Header

/-!
# The bounds of a parsed packet

`RtpHeader.deSerialize` keeps one cursor for the header and for the elements of its extension.  The
cursor has passed the extension area when the walk through the elements is over, unless the walk has
met an element with the id 15: there the loop is left with the cursor behind that octet.
`parsesInside_iff` says that this is the only way to a payload that does not begin behind the header.
-/

namespace Werift.Rtp

/-! ## The grammar of an extension area -/

/-- The octet in front of a one-byte element holds `payload.length - 1` in its low digit. -/
def oneByteLength (b : UInt8) : ℕ := (b &&& (b ^^^ 0xf0)).toNat + 1

/-- `OneByteArea area extensions left`: the area is read as these elements, and `left` bytes stand
behind an octet with the id 15. -/
inductive OneByteArea : Bytes → List Extension → ℕ → Prop
  | done : OneByteArea [] [] 0
  | skip {rest extensions left} : OneByteArea rest extensions left →
      OneByteArea (0x00 :: rest) extensions left
  | stop {b rest} : b ≠ 0x00 → b.toNat >>> 4 = 0xf → OneByteArea (b :: rest) [] rest.length
  | element {b payload rest extensions left} : b ≠ 0x00 → b.toNat >>> 4 ≠ 0xf →
      payload.length = oneByteLength b → OneByteArea rest extensions left →
      OneByteArea (b :: (payload ++ rest)) (⟨b.toNat >>> 4, payload⟩ :: extensions) left

/-- `TwoByteArea area extensions`: the area is read as these elements. -/
inductive TwoByteArea : Bytes → List Extension → Prop
  | done : TwoByteArea [] []
  | skip {rest extensions} : TwoByteArea rest extensions → TwoByteArea (0x00 :: rest) extensions
  | element {b l payload rest extensions} : b ≠ 0x00 → payload.length = l.toNat →
      TwoByteArea rest extensions →
      TwoByteArea (b :: l :: (payload ++ rest)) (⟨b.toNat, payload⟩ :: extensions)

variable {area rest payload : Bytes} {extensions : List Extension} {left : ℕ} {b l : UInt8}

lemma oneByteElements_skip (rest : Bytes) :
    oneByteElements (0x00 :: rest) = oneByteElements rest := by
  rw [oneByteElements, if_pos rfl]

lemma oneByteElements_stop (hb : b ≠ 0x00) (hid : b.toNat >>> 4 = 0xf) :
    oneByteElements (b :: rest) = .ok ([], rest.length) := by
  rw [oneByteElements, if_neg hb]
  simp only [hid, if_true]

lemma oneByteElements_element (hb : b ≠ 0x00) (hid : b.toNat >>> 4 ≠ 0xf)
    (hlen : payload.length = oneByteLength b) (rest : Bytes) :
    oneByteElements (b :: (payload ++ rest)) = (oneByteElements rest).map fun read =>
      (⟨b.toNat >>> 4, payload⟩ :: read.1, read.2) := by
  have hfits : ¬ (payload ++ rest).length < oneByteLength b := by
    rw [List.length_append, hlen]
    exact Nat.not_lt.mpr (Nat.le_add_right _ _)
  rw [oneByteElements, if_neg hb]
  simp only [if_neg hid]
  rw [← oneByteLength, if_neg hfits, List.drop_left' hlen, List.take_left' hlen]
  cases oneByteElements rest <;> rfl

lemma OneByteArea.elements (h : OneByteArea area extensions left) :
    oneByteElements area = .ok (extensions, left) := by
  induction h with
  | done => rw [oneByteElements]
  | skip _ ih => rw [oneByteElements_skip, ih]
  | stop hb hid => exact oneByteElements_stop hb hid
  | element hb hid hlen _ ih => rw [oneByteElements_element hb hid hlen, ih]; rfl

/-- The loop of the one-byte profile accepts the areas of the grammar. -/
theorem oneByteElements_eq_ok :
    oneByteElements area = .ok (extensions, left) ↔ OneByteArea area extensions left := by
  refine ⟨fun h => ?_, OneByteArea.elements⟩
  fun_induction oneByteElements area generalizing extensions left
  case case1 =>
    cases h
    exact .done
  case case2 rest ih => exact .skip (ih h)
  case case3 b rest hb extId hid =>
    cases h
    exact .stop hb hid
  case case4 => cases h
  case case5 => cases h
  case case6 b rest hb extId len hid hlen extensions' left' he ih =>
    cases h
    have htake : (rest.take len).length = oneByteLength b :=
      List.length_take_of_le (Nat.le_of_not_lt hlen)
    have harea := OneByteArea.element hb hid htake (ih he)
    rwa [List.take_append_drop] at harea

lemma twoByteElements_skip (rest : Bytes) :
    twoByteElements (0x00 :: rest) = twoByteElements rest := by
  rw [twoByteElements.eq_def]
  simp only [if_true]

lemma twoByteElements_element (hb : b ≠ 0x00) (hlen : payload.length = l.toNat) (rest : Bytes) :
    twoByteElements (b :: l :: (payload ++ rest)) =
      (twoByteElements rest).map (⟨b.toNat, payload⟩ :: ·) := by
  have hfits : ¬ (payload ++ rest).length < l.toNat := by
    rw [List.length_append, hlen]
    exact Nat.not_lt.mpr (Nat.le_add_right _ _)
  rw [twoByteElements.eq_def]
  simp only [if_neg hb, if_neg hfits, List.drop_left' hlen, List.take_left' hlen]
  cases twoByteElements rest <;> rfl

lemma TwoByteArea.elements (h : TwoByteArea area extensions) :
    twoByteElements area = .ok extensions := by
  induction h with
  | done => rw [twoByteElements]
  | skip _ ih => rw [twoByteElements_skip, ih]
  | element hb hlen _ ih => rw [twoByteElements_element hb hlen, ih]; rfl

/-- The loop of the two-byte profile accepts the areas of the grammar. -/
theorem twoByteElements_eq_ok :
    twoByteElements area = .ok extensions ↔ TwoByteArea area extensions := by
  refine ⟨fun h => ?_, TwoByteArea.elements⟩
  fun_induction twoByteElements area generalizing extensions
  case case1 =>
    cases h
    exact .done
  case case2 rest ih => exact .skip (ih h)
  case case3 => cases h
  case case4 => cases h
  case case5 => cases h
  case case6 b hb l rest len hlen extensions' he ih =>
    cases h
    have htake : (rest.take len).length = l.toNat :=
      List.length_take_of_le (Nat.le_of_not_lt hlen)
    have harea := TwoByteArea.element hb htake (ih he)
    rwa [List.take_append_drop] at harea

lemma OneByteArea.isInfix (h : OneByteArea area extensions left) {extension : Extension}
    (hmem : extension ∈ extensions) : extension.payload <:+: area := by
  induction h with
  | done => cases hmem
  | skip _ ih => exact (ih hmem).trans (List.suffix_cons _ _).isInfix
  | stop => cases hmem
  | @element b payload rest extensions left _ _ _ _ ih =>
    rcases List.mem_cons.mp hmem with rfl | hmem
    · exact ⟨[b], rest, by simp⟩
    · exact (ih hmem).trans ⟨b :: payload, [], by simp⟩

lemma TwoByteArea.isInfix (h : TwoByteArea area extensions) {extension : Extension}
    (hmem : extension ∈ extensions) : extension.payload <:+: area := by
  induction h with
  | done => cases hmem
  | skip _ ih => exact (ih hmem).trans (List.suffix_cons _ _).isInfix
  | @element b l payload rest extensions _ _ _ ih =>
    rcases List.mem_cons.mp hmem with rfl | hmem
    · exact ⟨[b, l], rest, by simp⟩
    · exact (ih hmem).trans ⟨b :: l :: payload, [], by simp⟩

/-! ## The octet that ends the walk -/

/-- The number of bytes behind the octet with the id 15 that ends the walk through an area of the
one-byte profile, if there is one. -/
def oneByteStop : Bytes → Option ℕ
  | [] => none
  | b :: rest =>
    if b = 0x00 then oneByteStop rest
    else if b.toNat >>> 4 = 0xf then some rest.length
    else if rest.length < oneByteLength b then none
    else oneByteStop (rest.drop (oneByteLength b))
termination_by area => area.length
decreasing_by
  all_goals simp only [List.length_drop, List.length_cons]; omega

lemma OneByteArea.left_eq (h : OneByteArea area extensions left) :
    left = (oneByteStop area).getD 0 := by
  induction h with
  | done =>
    rw [oneByteStop]
    rfl
  | skip _ ih => rwa [oneByteStop, if_pos rfl]
  | stop hb hid =>
    rw [oneByteStop, if_neg hb, if_pos hid]
    rfl
  | @element b payload rest extensions left hb hid hlen _ ih =>
    have hfits : ¬ (payload ++ rest).length < oneByteLength b := by
      rw [List.length_append, hlen]
      exact Nat.not_lt.mpr (Nat.le_add_right _ _)
    rwa [oneByteStop, if_neg hb, if_neg hid, if_neg hfits, List.drop_left' hlen]

lemma OneByteArea.left_le (h : OneByteArea area extensions left) : left ≤ area.length := by
  induction h with
  | done => exact le_rfl
  | skip _ ih => exact ih.trans (Nat.le_succ _)
  | stop => exact Nat.le_succ _
  | element _ _ _ _ ih =>
    simp only [List.length_cons, List.length_append]
    omega

lemma exists_oneByteArea (h : oneByteStop area = some left) :
    ∃ extensions, OneByteArea area extensions left := by
  fun_induction oneByteStop area
  case case1 => cases h
  case case2 rest ih =>
    obtain ⟨extensions, harea⟩ := ih h
    exact ⟨extensions, .skip harea⟩
  case case3 b rest hb hid =>
    cases h
    exact ⟨[], .stop hb hid⟩
  case case4 => cases h
  case case5 b rest hb hid hlen ih =>
    obtain ⟨extensions, harea⟩ := ih h
    have htake : (rest.take (oneByteLength b)).length = oneByteLength b :=
      List.length_take_of_le (Nat.le_of_not_lt hlen)
    have helement := OneByteArea.element hb hid htake harea
    rw [List.take_append_drop] at helement
    exact ⟨_, helement⟩

/-! ## The layout of a packet -/

/-- The CSRC count of a packet. -/
def csrcCount (buf : Bytes) : ℕ := getBit (buf.getD 0 0) 4 4

/-- Whether the X bit is set. -/
def hasExtension (buf : Bytes) : Prop := getBit (buf.getD 0 0) 3 1 = 1

/-- Whether the P bit is set. -/
def hasPadding (buf : Bytes) : Prop := getBit (buf.getD 0 0) 2 1 = 1

instance (buf : Bytes) : Decidable (hasExtension buf) := inferInstanceAs (Decidable (_ = _))

instance (buf : Bytes) : Decidable (hasPadding buf) := inferInstanceAs (Decidable (_ = _))

/-- Where the contributing sources end. -/
def csrcEnd (buf : Bytes) : ℕ := 12 + 4 * csrcCount buf

/-- Where the header ends: `12 + 4 * CC`, and `4 + 4 * length` more for an extension. -/
def headerEnd (buf : Bytes) : ℕ :=
  csrcEnd buf + if hasExtension buf then 4 + 4 * readNat 2 buf (csrcEnd buf + 2) else 0

/-- The profile of the extension. -/
def profileOf (buf : Bytes) : ℕ := readNat 2 buf (csrcEnd buf)

/-- The words behind the length of the extension. -/
def extensionArea (buf : Bytes) : Bytes := Js.slice buf (csrcEnd buf + 4) (headerEnd buf)

/-- The padding count: the last octet of a packet with the P bit. -/
def paddingCount (buf : Bytes) : ℕ :=
  if hasPadding buf then (buf.getD (buf.length - 1) 0).toNat else 0

/-- The elements of an area of this profile. -/
def AreaReads (profile : ℕ) (area : Bytes) (extensions : List Extension) : Prop :=
  if profile = oneByteProfile then ∃ left, OneByteArea area extensions left
  else if profile = twoByteProfile then TwoByteArea area extensions
  else extensions = [⟨0, area⟩]

/-- What the parser says about a packet that it accepts: the payload begins behind the header and
ends before the padding, and the extensions are the elements of the extension area. -/
structure StaysInside (buf : Bytes) (h : RtpHeader) : Prop where
  payloadOffset : h.payloadOffset = headerEnd buf
  fits : headerEnd buf + paddingCount buf ≤ buf.length
  elements : if hasExtension buf then AreaReads (profileOf buf) (extensionArea buf) h.extensions
    else h.extensions = []
  inside : ∀ extension ∈ h.extensions, extension.payload <:+: extensionArea buf
  payload : RtpPacket.deSerialize buf =
    .ok ⟨h, Js.slice buf (headerEnd buf) (buf.length - paddingCount buf)⟩

/-- **Parsing inside the header.**  An accepted packet is read within its bounds, and for every other
one the packet is refused with the error of its header. -/
def ParsesInside (buf : Bytes) : Prop :=
  match RtpHeader.deSerialize buf true with
  | .ok h => StaysInside buf h
  | .error e => RtpPacket.deSerialize buf = .error e

/-- A header of the one-byte profile whose walk ends at an id 15 with more bytes of the area behind
it, and whose padding count, if there is one, is not larger than what follows that octet. -/
def StopsEarly (buf : Bytes) : Prop :=
  12 ≤ buf.length ∧ hasExtension buf ∧ headerEnd buf ≤ buf.length ∧
    profileOf buf = oneByteProfile ∧
    ∃ left, 0 < left ∧ oneByteStop (extensionArea buf) = some left ∧
      (hasPadding buf → 1 ≤ paddingCount buf ∧
        paddingCount buf + headerEnd buf ≤ buf.length + left)

variable {buf : Bytes} {h h₁ : RtpHeader} {validatePadding : Bool} {e : String}

lemma extension_fixedPart : (RtpHeader.fixedPart buf).extension = true ↔ hasExtension buf := by
  have hlt := getBit_lt (buf.getD 0 0) 3 1
  simp only [RtpHeader.fixedPart, hasExtension, decide_eq_true_eq]
  omega

lemma padding_fixedPart : (RtpHeader.fixedPart buf).padding = true ↔ hasPadding buf := by
  have hlt := getBit_lt (buf.getD 0 0) 2 1
  simp only [RtpHeader.fixedPart, hasPadding, decide_eq_true_eq]
  omega

lemma payloadOffset_fixedPart (buf : Bytes) : (RtpHeader.fixedPart buf).payloadOffset = csrcEnd buf := by
  simp only [RtpHeader.fixedPart, csrcEnd, csrcCount]
  omega

/-- The header with the extension that has been read, and with `left` bytes of its area unread. -/
def RtpHeader.withExtension (buf : Bytes) (extensions : List Extension) (left : ℕ) : RtpHeader :=
  { RtpHeader.fixedPart buf with
    extensionProfile := profileOf buf
    extensionLength := some (readNat 2 buf (csrcEnd buf + 2) * 4)
    extensions
    payloadOffset := headerEnd buf - left }

lemma readExtensions_eq_ok {profile : ℕ} {area : Bytes} {extensions : List Extension} {left : ℕ} :
    readExtensions profile area = .ok (extensions, left) ↔
      if profile = oneByteProfile then OneByteArea area extensions left
      else if profile = twoByteProfile then TwoByteArea area extensions ∧ left = 0
      else extensions = [⟨0, area⟩] ∧ left = 0 := by
  unfold readExtensions
  split_ifs with hone htwo
  · exact oneByteElements_eq_ok
  · rw [← twoByteElements_eq_ok]
    cases twoByteElements area with
    | error e => simp [Except.map]
    | ok extensions' => simp [Except.map, eq_comm]
  · simp [eq_comm]

/-- **Reading an extension.**  It succeeds when the area is inside the packet and its elements are
complete. -/
lemma readExtension_eq_ok (hX : hasExtension buf) :
    (RtpHeader.fixedPart buf).readExtension buf = .ok h ↔ headerEnd buf ≤ buf.length ∧
      ∃ extensions left, readExtensions (profileOf buf) (extensionArea buf) =
        .ok (extensions, left) ∧ h = RtpHeader.withExtension buf extensions left := by
  have hend : csrcEnd buf + 4 + readNat 2 buf (csrcEnd buf + 2) * 4 = headerEnd buf := by
    rw [headerEnd, if_pos hX]
    omega
  have harea : Js.slice buf (csrcEnd buf + 4) (csrcEnd buf + 4 +
      readNat 2 buf (csrcEnd buf + 2) * 4) = extensionArea buf := by
    rw [hend, extensionArea]
  rw [RtpHeader.readExtension]
  simp only [payloadOffset_fixedPart]
  rw [harea, hend]
  split_ifs with hshort hcut
  · have : ¬ headerEnd buf ≤ buf.length := by omega
    simp [this]
  · simp [Nat.not_le.mpr hcut]
  · rw [← profileOf]
    cases readExtensions (profileOf buf) (extensionArea buf) with
    | error e => simp
    | ok read =>
      obtain ⟨extensions, left⟩ := read
      simp only [Except.ok.injEq, Prod.mk.injEq, Nat.not_lt.mp hcut, true_and]
      constructor
      · rintro rfl
        exact ⟨extensions, left, ⟨rfl, rfl⟩, rfl⟩
      · rintro ⟨_, _, ⟨rfl, rfl⟩, rfl⟩
        rfl

/-- **Reading a header**, one check after the other. -/
lemma deSerialize_eq_ok : RtpHeader.deSerialize buf validatePadding = .ok h ↔
    12 ≤ buf.length ∧ csrcEnd buf ≤ buf.length ∧ ∃ h₁,
      (if hasExtension buf then (RtpHeader.fixedPart buf).readExtension buf = .ok h₁
        else h₁ = RtpHeader.fixedPart buf) ∧
      h₁.payloadOffset ≤ buf.length ∧ h₁.applyRtpPaddingSize buf validatePadding = .ok h := by
  have hcsrc : 12 + (RtpHeader.fixedPart buf).csrcLength * 4 = csrcEnd buf := by
    simp only [RtpHeader.fixedPart, csrcEnd, csrcCount]
    omega
  rw [RtpHeader.deSerialize]
  simp only [hcsrc, Except.throw_bind, pure_bind, Except.ite_error_eq_ok, not_lt]
  refine and_congr_right fun _ => and_congr_right fun _ => ?_
  by_cases hX : hasExtension buf
  · simp only [extension_fixedPart.mpr hX, hX, if_true, Except.bind_eq_ok, Except.ite_error_eq_ok,
      not_lt]
  · simp only [mt extension_fixedPart.mp hX, hX, Bool.false_eq_true, if_false, exists_eq_left,
      Except.ite_error_eq_ok, not_lt]

/-- The padding count of an accepted packet is its last octet. -/
lemma applyRtpPaddingSize_eq_ok (hP : h₁.padding = true ↔ hasPadding buf) :
    h₁.applyRtpPaddingSize buf true = .ok h ↔
      (hasPadding buf → 1 ≤ paddingCount buf ∧
        paddingCount buf ≤ buf.length - h₁.payloadOffset) ∧
      { h₁ with paddingSize := paddingCount buf } = h := by
  rw [RtpHeader.applyRtpPaddingSize, paddingCount]
  by_cases hpad : hasPadding buf
  · simp only [hP.mpr hpad, Bool.not_true, Bool.false_eq_true, if_false, Bool.true_and,
      Bool.or_eq_true, decide_eq_true_eq, Except.ite_error_eq_ok, hpad, if_true, true_imp_iff,
      not_or, not_lt, Except.ok.injEq]
  · have hfalse : h₁.padding = false := Bool.eq_false_iff.mpr (mt hP.mp hpad)
    simp only [hfalse, Bool.not_false, if_true, hpad, if_false, false_imp_iff, true_and,
      Except.ok.injEq]

lemma exists_of_applyRtpPaddingSize (hok : h₁.applyRtpPaddingSize buf validatePadding = .ok h) :
    ∃ paddingSize, h = { h₁ with paddingSize } := by
  simp only [RtpHeader.applyRtpPaddingSize] at hok
  split_ifs at hok
  · exact ⟨_, (Except.ok.inj hok).symm⟩
  · exact ⟨_, (Except.ok.inj hok).symm⟩

/-- The sequence number and the source of a header are fields of its fixed part. -/
lemma deSerialize_fixed (hok : RtpHeader.deSerialize buf validatePadding = .ok h) :
    h.sequenceNumber = readNat 2 buf 2 ∧ h.ssrc = readNat 4 buf 8 := by
  obtain ⟨-, -, h₁, hread, -, hpad⟩ := deSerialize_eq_ok.mp hok
  obtain ⟨paddingSize, rfl⟩ := exists_of_applyRtpPaddingSize hpad
  by_cases hX : hasExtension buf
  · rw [if_pos hX] at hread
    obtain ⟨-, extensions, left, -, rfl⟩ := (readExtension_eq_ok hX).mp hread
    exact ⟨rfl, rfl⟩
  · rw [if_neg hX] at hread
    subst hread
    exact ⟨rfl, rfl⟩

/-! ## The bounds -/

/-- How much of the extension area an accepted packet leaves unread. -/
def unread (buf : Bytes) : ℕ :=
  if hasExtension buf ∧ profileOf buf = oneByteProfile then
    (oneByteStop (extensionArea buf)).getD 0
  else 0

lemma readExtensions_inside {profile : ℕ} {area : Bytes} {extensions : List Extension} {left : ℕ}
    (hread : readExtensions profile area = .ok (extensions, left)) {extension : Extension}
    (hmem : extension ∈ extensions) : extension.payload <:+: area := by
  rw [readExtensions_eq_ok] at hread
  split_ifs at hread with hone htwo
  · exact hread.isInfix hmem
  · exact hread.1.isInfix hmem
  · obtain ⟨rfl, -⟩ := hread
    obtain rfl := List.mem_singleton.mp hmem
    exact List.infix_refl _

lemma readExtensions_areaReads {profile : ℕ} {area : Bytes} {extensions : List Extension} {left : ℕ}
    (hread : readExtensions profile area = .ok (extensions, left)) :
    AreaReads profile area extensions := by
  rw [readExtensions_eq_ok] at hread
  unfold AreaReads
  split_ifs at hread ⊢ with hone htwo
  · exact ⟨left, hread⟩
  · exact hread.1
  · exact hread.1

lemma readExtensions_left (hX : hasExtension buf) {extensions : List Extension} {left : ℕ}
    (hread : readExtensions (profileOf buf) (extensionArea buf) = .ok (extensions, left)) :
    left = unread buf := by
  rw [readExtensions_eq_ok] at hread
  unfold unread
  by_cases hone : profileOf buf = oneByteProfile
  · rw [if_pos hone] at hread
    rw [if_pos ⟨hX, hone⟩]
    exact hread.left_eq
  · rw [if_neg hone] at hread
    rw [if_neg fun h => hone h.2]
    split_ifs at hread
    · exact hread.2
    · exact hread.2

/-- **What an accepted packet is read as.** -/
theorem accepted_bounds (hok : RtpHeader.deSerialize buf true = .ok h) :
    12 ≤ buf.length ∧ headerEnd buf ≤ buf.length ∧ h.payloadOffset = headerEnd buf - unread buf ∧
      h.paddingSize = paddingCount buf ∧
      (hasPadding buf → 1 ≤ paddingCount buf ∧
        paddingCount buf ≤ buf.length - (headerEnd buf - unread buf)) ∧
      (if hasExtension buf then AreaReads (profileOf buf) (extensionArea buf) h.extensions
        else h.extensions = []) ∧
      ∀ extension ∈ h.extensions, extension.payload <:+: extensionArea buf := by
  obtain ⟨hfixed, hcsrc, h₁, hread, -, hpad⟩ := deSerialize_eq_ok.mp hok
  by_cases hX : hasExtension buf
  · rw [if_pos hX] at hread ⊢
    obtain ⟨hend, extensions, left, helements, rfl⟩ := (readExtension_eq_ok hX).mp hread
    have hP : (RtpHeader.withExtension buf extensions left).padding = true ↔ hasPadding buf :=
      padding_fixedPart
    obtain ⟨hcount, rfl⟩ := (applyRtpPaddingSize_eq_ok hP).mp hpad
    obtain rfl := readExtensions_left hX helements
    exact ⟨hfixed, hend, rfl, rfl, hcount, readExtensions_areaReads helements,
      fun _ hmem => readExtensions_inside helements hmem⟩
  · rw [if_neg hX] at hread ⊢
    subst hread
    obtain ⟨hcount, rfl⟩ := (applyRtpPaddingSize_eq_ok padding_fixedPart).mp hpad
    have hunread : unread buf = 0 := if_neg fun h => hX h.1
    have hend : headerEnd buf = csrcEnd buf := by rw [headerEnd, if_neg hX, Nat.add_zero]
    rw [hunread, hend, Nat.sub_zero]
    rw [payloadOffset_fixedPart] at hcount
    exact ⟨hfixed, hcsrc, payloadOffset_fixedPart buf, rfl, hcount, rfl, fun _ hmem => nomatch hmem⟩

lemma packet_deSerialize (hok : RtpHeader.deSerialize buf true = .ok h) :
    RtpPacket.deSerialize buf =
      .ok ⟨h, Js.slice buf h.payloadOffset (buf.length - h.paddingSize)⟩ := by
  rw [RtpPacket.deSerialize, hok]
  rfl

lemma packet_deSerialize_error (herror : RtpHeader.deSerialize buf true = .error e) :
    RtpPacket.deSerialize buf = .error e := by
  rw [RtpPacket.deSerialize, herror]
  rfl

lemma unread_le (buf : Bytes) : unread buf ≤ headerEnd buf := by
  unfold unread
  split_ifs
  · cases hstop : oneByteStop (extensionArea buf) with
    | none => exact Nat.zero_le _
    | some left =>
      obtain ⟨extensions, harea⟩ := exists_oneByteArea hstop
      have hlength : (extensionArea buf).length ≤ headerEnd buf := by
        simp only [extensionArea, Js.slice, List.length_take, List.length_drop]
        omega
      exact harea.left_le.trans hlength
  · exact Nat.zero_le _

/-- A packet that leaves nothing of its extension area unread stays inside its bounds. -/
lemma staysInside_iff (hok : RtpHeader.deSerialize buf true = .ok h) :
    StaysInside buf h ↔ unread buf = 0 := by
  obtain ⟨-, hend, hoffset, hsize, hcount, helements, hinside⟩ := accepted_bounds hok
  constructor
  · intro hstays
    have hle := unread_le buf
    have := hstays.payloadOffset
    omega
  · intro hzero
    rw [hzero, Nat.sub_zero] at hoffset hcount
    have hpadding : headerEnd buf + paddingCount buf ≤ buf.length := by
      by_cases hP : hasPadding buf
      · have := hcount hP
        omega
      · rw [paddingCount, if_neg hP]
        exact hend
    refine ⟨hoffset, hpadding, helements, hinside, ?_⟩
    rw [packet_deSerialize hok, hoffset, hsize]

lemma StopsEarly.accepted (hstops : StopsEarly buf) :
    ∃ h, RtpHeader.deSerialize buf true = .ok h ∧ unread buf ≠ 0 := by
  obtain ⟨hfixed, hX, hend, hprofile, left, hpos, hstop, hcount⟩ := hstops
  obtain ⟨extensions, harea⟩ := exists_oneByteArea hstop
  have hunread : unread buf = left := by
    rw [unread, if_pos ⟨hX, hprofile⟩, hstop]
    rfl
  have hread : readExtensions (profileOf buf) (extensionArea buf) = .ok (extensions, left) := by
    rw [readExtensions_eq_ok, if_pos hprofile]
    exact harea
  have hcsrc : csrcEnd buf ≤ buf.length := (Nat.le_add_right _ _).trans hend
  have hle := unread_le buf
  refine ⟨{ RtpHeader.withExtension buf extensions left with paddingSize := paddingCount buf },
    deSerialize_eq_ok.mpr ⟨hfixed, hcsrc, RtpHeader.withExtension buf extensions left, ?_, ?_, ?_⟩,
    by omega⟩
  · rw [if_pos hX, readExtension_eq_ok hX]
    exact ⟨hend, extensions, left, hread, rfl⟩
  · exact (Nat.sub_le _ _).trans hend
  · have hP : (RtpHeader.withExtension buf extensions left).padding = true ↔ hasPadding buf :=
      padding_fixedPart
    refine (applyRtpPaddingSize_eq_ok hP).mpr ⟨fun hpad => ?_, rfl⟩
    have hbounds := hcount hpad
    simp only [RtpHeader.withExtension]
    omega

lemma StopsEarly.not_parsesInside (hstops : StopsEarly buf) : ¬ ParsesInside buf := by
  obtain ⟨h, hok, hne⟩ := hstops.accepted
  intro hinside
  rw [ParsesInside, hok] at hinside
  exact hne ((staysInside_iff hok).mp hinside)

/-- **The payload begins behind the header** and every extension lies in its area, for every byte
string but those whose walk through the elements stops early. -/
theorem parsesInside_iff (buf : Bytes) : ParsesInside buf ↔ ¬ StopsEarly buf := by
  refine ⟨fun hinside hstops => hstops.not_parsesInside hinside, fun hstops => ?_⟩
  unfold ParsesInside
  cases hread : RtpHeader.deSerialize buf true with
  | error e => exact packet_deSerialize_error hread
  | ok h =>
    refine (staysInside_iff hread).mpr ?_
    by_contra hne
    obtain ⟨hfixed, hend, -, -, hcount, -, -⟩ := accepted_bounds hread
    have hle := unread_le buf
    have hX : hasExtension buf ∧ profileOf buf = oneByteProfile := by
      by_contra hX
      exact hne (if_neg hX)
    have hstop : unread buf = (oneByteStop (extensionArea buf)).getD 0 := if_pos hX
    cases hwalk : oneByteStop (extensionArea buf) with
    | none => exact hne (by rw [hstop, hwalk]; rfl)
    | some left =>
      obtain rfl : unread buf = left := by rw [hstop, hwalk]; rfl
      refine hstops ⟨hfixed, hX.1, hend, hX.2, _, Nat.pos_of_ne_zero hne, hwalk, fun hP => ?_⟩
      have := hcount hP
      omega

/-- A packet whose extension is the octets `f0 00 00 00`: its payload begins with their zeros. -/
theorem stop_byte_shifts_payload : ¬ ParsesInside [0x90, 96, 0, 1, 0, 0, 0, 0, 0, 0, 0, 1,
    0xbe, 0xde, 0, 1, 0xf0, 0, 0, 0, 1, 2, 3] := by
  apply StopsEarly.not_parsesInside
  refine ⟨by decide, by decide, by decide, by decide, 3, by decide, ?_, by decide⟩
  have harea : extensionArea [0x90, 96, 0, 1, 0, 0, 0, 0, 0, 0, 0, 1,
      0xbe, 0xde, 0, 1, 0xf0, 0, 0, 0, 1, 2, 3] = [0xf0, 0, 0, 0] := by decide
  rw [harea, oneByteStop]
  decide

end Werift.Rtp
