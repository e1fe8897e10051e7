import Werift.Webrtc.CodecCompatibility

/-!
# Codecs negotiated with a remote section (`webrtc/src/transceiverManager.ts`)

`resolveRemoteCodecSet` gives each local primary codec a remote one of the same MIME type, and each local RTX and
RED codec a remote one that refers to what the codecs that it refers to have been given.
-/

namespace Werift.Webrtc

open Js

/-- The pairs found so far, and the remote codecs that are taken. -/
structure PrimaryPairs where
  remoteByLocal : Map RTCRtpCodecParameters RTCRtpCodecParameters := {}
  usedRemote : List RTCRtpCodecParameters := []

variable (localCodecs remote : List RTCRtpCodecParameters) (source : Option (List RTCRtpCodecParameters))

/-- The remote codec for a local primary one. -/
def findPrimary (usedRemote : List RTCRtpCodecParameters) (localCodec : RTCRtpCodecParameters) :
    Option RTCRtpCodecParameters :=
  remote.find? fun codec =>
    !usedRemote.contains codec &&
      (normalizeCodecMimeType codec.mimeType = normalizeCodecMimeType localCodec.mimeType &&
        source.elim true fun source => source.any (isCodecCompatible · codec))

/-- The first loop of `resolveRemoteCodecSet`. -/
def pairPrimary (pairs : PrimaryPairs) (localCodec : RTCRtpCodecParameters) : PrimaryPairs :=
  if localCodec.isAuxiliary then pairs
  else
    match findPrimary remote source pairs.usedRemote localCodec with
    | none => pairs
    | some remoteCodec =>
      { remoteByLocal := pairs.remoteByLocal.set localCodec remoteCodec
        usedRemote := remoteCodec :: pairs.usedRemote }

variable (remoteByLocal : Map RTCRtpCodecParameters RTCRtpCodecParameters)

/-- The remote RED codec that refers to the same codecs, as far as these have been given remote ones. -/
def findRed (usedRemote : List RTCRtpCodecParameters) (localCodec : RTCRtpCodecParameters) :
    Option RTCRtpCodecParameters :=
  let remotePrimaryPayloadTypes := (redPayloadTypes localCodec).filterMap fun payloadType =>
    ((localCodecs.find? (·.number = payloadType)).bind remoteByLocal.get?).map (·.number)
  remote.find? fun codec =>
    codec.codecName = "red" && (!usedRemote.contains codec && redPayloadTypes codec = remotePrimaryPayloadTypes)

/-- The `apt` of a codec. -/
def apt (codec : RTCRtpCodecParameters) : FmtpValue := codecParameterOf (codec.parameters.getD "") "apt"

/-- The remote RTX codec for what has been given to the codec that the local one is for. -/
def findRtx (usedRemote : List RTCRtpCodecParameters) (localCodec : RTCRtpCodecParameters) :
    Option RTCRtpCodecParameters := do
  let localPrimary ← localCodecs.find? fun codec => (apt localCodec).strictEquals (.number codec.number)
  let remotePrimary ← remoteByLocal.get? localPrimary
  remote.find? fun codec =>
    codec.codecName = "rtx" &&
      (!usedRemote.contains codec && (apt codec).strictEquals (.number remotePrimary.number))

/-- The remote codec for a local RTX or RED codec. -/
def findAuxiliary (usedRemote : List RTCRtpCodecParameters) (localCodec : RTCRtpCodecParameters) :
    Option RTCRtpCodecParameters :=
  if localCodec.codecName = "red" then findRed localCodecs remote remoteByLocal usedRemote localCodec
  else findRtx localCodecs remote remoteByLocal usedRemote localCodec

/-- The second loop: what is found for an RTX or RED codec is taken. -/
def negotiate : List RTCRtpCodecParameters → List RTCRtpCodecParameters → List RTCRtpCodecParameters
  | _, [] => []
  | usedRemote, localCodec :: rest =>
    if localCodec.isAuxiliary then
      match findAuxiliary localCodecs remote remoteByLocal usedRemote localCodec with
      | none => negotiate usedRemote rest
      | some codec => codec :: negotiate (codec :: usedRemote) rest
    else (remoteByLocal.get? localCodec).toList ++ negotiate usedRemote rest

/-- `a` does not stand behind `b` in the remote section, whose codecs are different objects. -/
def RemoteLE (a b : RTCRtpCodecParameters) : Prop := remote.idxOf a ≤ remote.idxOf b

instance : DecidableRel (RemoteLE remote) := fun _ _ => inferInstanceAs (Decidable (_ ≤ _))

instance : Std.Total (RemoteLE remote) := ⟨fun _ _ => le_total _ _⟩

instance : IsTrans RTCRtpCodecParameters (RemoteLE remote) := ⟨fun _ _ _ => le_trans⟩

/-- The order of the result. -/
inductive CodecOrder
  | byLocal
  | byRemote
deriving DecidableEq

/-- The name and the text of the exception where no codec is left. -/
def resolveRemoteCodecSet (order : CodecOrder) : Except (String × String) (List RTCRtpCodecParameters) :=
  let pairs := localCodecs.foldl (pairPrimary remote source) {}
  let negotiated := negotiate localCodecs remote pairs.remoteByLocal pairs.usedRemote localCodecs
  let negotiated := if order = .byRemote then negotiated.insertionSort (RemoteLE remote) else negotiated
  if negotiated = [] then
    .error ("NotSupportedError", "No compatible codec remains after remote negotiation.")
  else .ok negotiated

/-! ## Names and MIME types -/

lemma toLower_beq_slash (c : Char) : (c.toLower == '/') = (c == '/') := by
  rw [Char.toLower]
  split_ifs with h
  · have hlow : 65 ≤ c.val.toNat := UInt32.le_iff_toNat_le.mp h.1
    have hhigh : c.val.toNat ≤ 90 := UInt32.le_iff_toNat_le.mp h.2
    rw [beq_eq_false_iff_ne.mpr, beq_eq_false_iff_ne.mpr]
    · rintro rfl
      exact absurd hlow (by decide)
    · intro heq
      have hval : (c.val.toNat + 32) % 2 ^ 32 = 47 := congrArg (fun d : Char => d.val.toNat) heq
      omega
  · rfl

lemma map_toLower_splitOn (cs : List Char) :
    (cs.map Char.toLower).splitOn '/' = (cs.splitOn '/').map (·.map Char.toLower) := by
  induction cs with
  | nil => rfl
  | cons c cs ih =>
    rw [List.map_cons, List.splitOn_cons_eq_if_modifyHead, List.splitOn_cons_eq_if_modifyHead, toLower_beq_slash,
      ih]
    split_ifs
    · rfl
    · cases cs.splitOn '/' with
      | nil => rfl
      | cons part parts => rfl

/-- The part of a MIME type behind the slash. -/
def subtype (mimeType : String) : String := String.ofList ((mimeType.toList.splitOn '/').getD 1 [])

lemma codecName_eq (codec : RTCRtpCodecParameters) : codec.codecName = subtype (lowerCase codec.mimeType) := by
  rw [RTCRtpCodecParameters.codecName, subtype, lowerCase, lowerCase, String.toList_ofList, String.toList_ofList,
    map_toLower_splitOn, ← List.map_nil (f := Char.toLower), List.getD_map, List.map_nil]

/-- Codecs of the same MIME type are RTX and RED codecs together or not at all. -/
lemma isAuxiliary_eq_of_mimeType {a b : RTCRtpCodecParameters}
    (h : normalizeCodecMimeType a.mimeType = normalizeCodecMimeType b.mimeType) :
    a.isAuxiliary = b.isAuxiliary := by
  have hname : ∀ codec : RTCRtpCodecParameters,
      codec.isAuxiliary = (subtype (normalizeCodecMimeType codec.mimeType) = "rtx" ||
        subtype (normalizeCodecMimeType codec.mimeType) = "red" : Bool) := by
    intro codec
    rw [RTCRtpCodecParameters.isAuxiliary, codecName_eq, normalizeCodecMimeType]
    split_ifs with hav1
    · rw [hav1]
      decide
    · rfl
  rw [hname, hname, h]

lemma isAuxiliary_of_codecName {codec : RTCRtpCodecParameters}
    (h : codec.codecName = "rtx" ∨ codec.codecName = "red") : codec.isAuxiliary = true := by
  rw [RTCRtpCodecParameters.isAuxiliary, Bool.or_eq_true, decide_eq_true_eq, decide_eq_true_eq]
  exact h

/-! ## The pairs -/

variable {localCodecs remote source} {processed : List RTCRtpCodecParameters}
  {l l' r codec : RTCRtpCodecParameters} {usedRemote : List RTCRtpCodecParameters}

lemma findPrimary_spec (h : findPrimary remote source usedRemote l = some r) : r ∈ remote ∧ r ∉ usedRemote ∧
    normalizeCodecMimeType r.mimeType = normalizeCodecMimeType l.mimeType := by
  have htest := List.find?_some h
  rw [Bool.and_eq_true, Bool.and_eq_true, Bool.not_eq_true', decide_eq_true_eq] at htest
  refine ⟨List.mem_of_find?_eq_some h, fun hmem => ?_, htest.2.1⟩
  exact absurd ((List.contains_iff_mem.mpr hmem).symm.trans htest.1) nofun

/-- Different local primary codecs have got different remote ones, of their own MIME types. -/
structure Paired (remote processed : List RTCRtpCodecParameters) (pairs : PrimaryPairs) : Prop where
  key : ∀ l r, pairs.remoteByLocal.get? l = some r → l ∈ processed ∧ l.isAuxiliary = false
  value : ∀ l r, pairs.remoteByLocal.get? l = some r → r ∈ remote ∧ r ∈ pairs.usedRemote ∧
    normalizeCodecMimeType r.mimeType = normalizeCodecMimeType l.mimeType
  injective : ∀ l l' r, pairs.remoteByLocal.get? l = some r → pairs.remoteByLocal.get? l' = some r → l = l'

lemma paired_nil (remote : List RTCRtpCodecParameters) : Paired remote [] {} := by
  have hnone : ∀ {l r : RTCRtpCodecParameters} {P : Prop},
      ({} : PrimaryPairs).remoteByLocal.get? l = some r → P := by
    intro l r P h
    change ({} : Map RTCRtpCodecParameters RTCRtpCodecParameters).get? l = some r at h
    rw [Map.get?_empty] at h
    exact nomatch h
  exact ⟨fun _ _ => hnone, fun _ _ => hnone, fun _ _ _ => hnone⟩

lemma Paired.weaken {pairs : PrimaryPairs} (h : Paired remote processed pairs) (l : RTCRtpCodecParameters) :
    Paired remote (processed ++ [l]) pairs :=
  ⟨fun l r hr => (h.key l r hr).imp_left (List.mem_append_left _), h.value, h.injective⟩

lemma Paired.pairPrimary {pairs : PrimaryPairs} (h : Paired remote processed pairs) :
    Paired remote (processed ++ [l]) (pairPrimary remote source pairs l) := by
  rw [Webrtc.pairPrimary]
  cases haux : l.isAuxiliary with
  | true => exact h.weaken l
  | false =>
    rw [if_neg Bool.false_ne_true]
    cases hfind : findPrimary remote source pairs.usedRemote l with
    | none => exact h.weaken l
    | some r =>
      obtain ⟨hremote, hunused, hmime⟩ := findPrimary_spec hfind
      refine ⟨fun k v hv => ?_, fun k v hv => ?_, fun k k' v hk hk' => ?_⟩
      · rw [Map.get?_set] at hv
        split_ifs at hv with heq
        · rw [heq]
          exact ⟨List.mem_append_right _ (List.mem_singleton_self l), haux⟩
        · exact (h.key k v hv).imp_left (List.mem_append_left _)
      · rw [Map.get?_set] at hv
        split_ifs at hv with heq
        · obtain rfl := Option.some.inj hv
          rw [heq]
          exact ⟨hremote, List.mem_cons_self, hmime⟩
        · obtain ⟨hmem, hused, hnorm⟩ := h.value k v hv
          exact ⟨hmem, List.mem_cons_of_mem _ hused, hnorm⟩
      · -- the new remote codec has not been given to another local one
        rw [Map.get?_set] at hk hk'
        split_ifs at hk hk' with heq heq' heq'
        · exact heq.trans heq'.symm
        · obtain rfl := Option.some.inj hk
          exact absurd (h.value k' r hk').2.1 hunused
        · obtain rfl := Option.some.inj hk'
          exact absurd (h.value k r hk).2.1 hunused
        · exact h.injective k k' v hk hk'

/-- **The first loop.** -/
theorem paired_foldl (source : Option (List RTCRtpCodecParameters)) (localCodecs : List RTCRtpCodecParameters) :
    Paired remote localCodecs (localCodecs.foldl (pairPrimary remote source) {}) := by
  induction localCodecs using List.reverseRecOn with
  | nil => exact paired_nil remote
  | append_singleton localCodecs l ih =>
    rw [List.foldl_append, List.foldl_cons, List.foldl_nil]
    exact ih.pairPrimary

/-! ## What is negotiated -/

variable {remoteByLocal : Map RTCRtpCodecParameters RTCRtpCodecParameters} {locals : List RTCRtpCodecParameters}

/-- A RED codec that is found refers to codecs that have been given for what the local one refers to. -/
lemma findRed_spec (h : findRed localCodecs remote remoteByLocal usedRemote l = some r) :
    r ∈ remote ∧ r ∉ usedRemote ∧ r.codecName = "red" ∧ ∀ n ∈ redPayloadTypes r, ∃ p ∈ localCodecs,
      p.number ∈ redPayloadTypes l ∧ ∃ given, remoteByLocal.get? p = some given ∧ given.number = n := by
  have htest := List.find?_some h
  rw [Bool.and_eq_true, Bool.and_eq_true, Bool.not_eq_true', decide_eq_true_eq, decide_eq_true_eq] at htest
  refine ⟨List.mem_of_find?_eq_some h, fun hmem => ?_, htest.1, fun n hn => ?_⟩
  · exact absurd ((List.contains_iff_mem.mpr hmem).symm.trans htest.2.1) nofun
  · rw [htest.2.2, List.mem_filterMap] at hn
    obtain ⟨payloadType, hpayloadType, hnumber⟩ := hn
    obtain ⟨given, hbind, rfl⟩ := Option.map_eq_some_iff.mp hnumber
    obtain ⟨p, hfind, hgiven⟩ := Option.bind_eq_some_iff.mp hbind
    have hp : p.number = payloadType :=
      of_decide_eq_true (List.find?_some
        (p := fun codec : RTCRtpCodecParameters => decide (codec.number = payloadType)) hfind)
    exact ⟨p, List.mem_of_find?_eq_some hfind, hp ▸ hpayloadType, given, hgiven, rfl⟩

/-- An RTX codec that is found is for the codec given for what the local one is for. -/
lemma findRtx_spec (h : findRtx localCodecs remote remoteByLocal usedRemote l = some r) :
    r ∈ remote ∧ r ∉ usedRemote ∧ r.codecName = "rtx" ∧ ∃ p ∈ localCodecs,
      (apt l).strictEquals (.number p.number) = true ∧ ∃ given, remoteByLocal.get? p = some given ∧
        (apt r).strictEquals (.number given.number) = true := by
  obtain ⟨p, hp, h⟩ := Option.bind_eq_some_iff.mp h
  obtain ⟨given, hgiven, h⟩ := Option.bind_eq_some_iff.mp h
  have htest := List.find?_some h
  rw [Bool.and_eq_true, Bool.and_eq_true, Bool.not_eq_true', decide_eq_true_eq] at htest
  refine ⟨List.mem_of_find?_eq_some h, fun hmem => ?_, htest.1, p, List.mem_of_find?_eq_some hp, ?_, given, hgiven,
    htest.2.2⟩
  · exact absurd ((List.contains_iff_mem.mpr hmem).symm.trans htest.2.1) nofun
  · exact List.find?_some (p := fun codec : RTCRtpCodecParameters => (apt l).strictEquals (.number codec.number)) hp

lemma findAuxiliary_spec (h : findAuxiliary localCodecs remote remoteByLocal usedRemote l = some r) :
    r ∈ remote ∧ r ∉ usedRemote := by
  rw [findAuxiliary] at h
  split_ifs at h
  · exact ⟨(findRed_spec h).1, (findRed_spec h).2.1⟩
  · exact ⟨(findRtx_spec h).1, (findRtx_spec h).2.1⟩

lemma negotiate_auxiliary (haux : l.isAuxiliary = true) :
    negotiate localCodecs remote remoteByLocal usedRemote (l :: locals) =
      (findAuxiliary localCodecs remote remoteByLocal usedRemote l).elim
        (negotiate localCodecs remote remoteByLocal usedRemote locals)
        fun r => r :: negotiate localCodecs remote remoteByLocal (r :: usedRemote) locals := by
  rw [negotiate, if_pos haux]
  cases findAuxiliary localCodecs remote remoteByLocal usedRemote l <;> rfl

lemma negotiate_primary (haux : l.isAuxiliary = false) :
    negotiate localCodecs remote remoteByLocal usedRemote (l :: locals) =
      (remoteByLocal.get? l).toList ++ negotiate localCodecs remote remoteByLocal usedRemote locals := by
  rw [negotiate, haux, if_neg Bool.false_ne_true]

/-- Where a codec of the result comes from. -/
lemma mem_negotiate (h : r ∈ negotiate localCodecs remote remoteByLocal usedRemote locals) :
    ∃ l ∈ locals, l.isAuxiliary = false ∧ remoteByLocal.get? l = some r ∨
      l.isAuxiliary = true ∧ ∃ used, usedRemote ⊆ used ∧
        findAuxiliary localCodecs remote remoteByLocal used l = some r := by
  induction locals generalizing usedRemote with
  | nil => exact absurd h List.not_mem_nil
  | cons l locals ih =>
    cases haux : l.isAuxiliary with
    | false =>
      rw [negotiate_primary haux, List.mem_append, Option.mem_toList] at h
      rcases h with h | h
      · exact ⟨l, List.mem_cons_self, .inl ⟨haux, h⟩⟩
      · exact (ih h).imp fun _ hl => hl.imp_left (List.mem_cons_of_mem _)
    | true =>
      rw [negotiate_auxiliary haux] at h
      cases hfind : findAuxiliary localCodecs remote remoteByLocal usedRemote l with
      | none =>
        rw [hfind] at h
        exact (ih h).imp fun _ hl => hl.imp_left (List.mem_cons_of_mem _)
      | some found =>
        rw [hfind, Option.elim_some, List.mem_cons] at h
        rcases h with rfl | h
        · exact ⟨l, List.mem_cons_self, .inr ⟨haux, usedRemote, List.Subset.refl _, hfind⟩⟩
        · obtain ⟨l', hl', hcase⟩ := ih h
          refine ⟨l', List.mem_cons_of_mem _ hl', hcase.imp_right ?_⟩
          exact fun ⟨haux', used, hsub, hused⟩ =>
            ⟨haux', used, List.Subset.trans (List.subset_cons_self _ _) hsub, hused⟩

/-- The codecs of the result are different, as different local codecs have got different ones. -/
lemma nodup_negotiate (hlocals : locals.Nodup)
    (hinjective : ∀ l l' r, remoteByLocal.get? l = some r → remoteByLocal.get? l' = some r → l = l')
    (hused : ∀ l r, remoteByLocal.get? l = some r → r ∈ usedRemote) :
    (negotiate localCodecs remote remoteByLocal usedRemote locals).Nodup := by
  induction locals generalizing usedRemote with
  | nil => exact List.nodup_nil
  | cons l locals ih =>
    obtain ⟨hl, hlocals⟩ := List.nodup_cons.mp hlocals
    cases haux : l.isAuxiliary with
    | false =>
      rw [negotiate_primary haux]
      cases hget : remoteByLocal.get? l with
      | none => exact ih hlocals hused
      | some r =>
        refine List.nodup_cons.mpr ⟨fun hmem => ?_, ih hlocals hused⟩
        obtain ⟨l', hl', ⟨-, hget'⟩ | ⟨-, used, hsub, hfind⟩⟩ := mem_negotiate hmem
        · exact hl (hinjective l l' r hget hget' ▸ hl')
        · exact (findAuxiliary_spec hfind).2 (hsub (hused l r hget))
    | true =>
      rw [negotiate_auxiliary haux]
      cases hfind : findAuxiliary localCodecs remote remoteByLocal usedRemote l with
      | none => exact ih hlocals hused
      | some r =>
        refine List.nodup_cons.mpr ⟨fun hmem => ?_, ih hlocals fun l r h => List.mem_cons_of_mem _ (hused l r h)⟩
        obtain ⟨l', hl', ⟨-, hget'⟩ | ⟨-, used, hsub, hfind'⟩⟩ := mem_negotiate hmem
        · exact (findAuxiliary_spec hfind).2 (hused l' r hget')
        · exact (findAuxiliary_spec hfind').2 (hsub List.mem_cons_self)

lemma mem_negotiate_of_get? (hl : l ∈ locals) (haux : l.isAuxiliary = false)
    (hget : remoteByLocal.get? l = some r) :
    r ∈ negotiate localCodecs remote remoteByLocal usedRemote locals := by
  induction locals generalizing usedRemote with
  | nil => exact absurd hl List.not_mem_nil
  | cons l' locals ih =>
    cases haux' : l'.isAuxiliary with
    | false =>
      rw [negotiate_primary haux', List.mem_append, Option.mem_toList]
      rcases List.mem_cons.mp hl with rfl | hl
      · exact .inl hget
      · exact .inr (ih hl)
    | true =>
      have hl : l ∈ locals := by
        rcases List.mem_cons.mp hl with rfl | hl
        · exact absurd (haux.symm.trans haux') nofun
        · exact hl
      rw [negotiate_auxiliary haux']
      cases findAuxiliary localCodecs remote remoteByLocal usedRemote l' with
      | none => exact ih hl
      | some found => exact List.mem_cons_of_mem _ (ih hl)

/-- The local codec to which a remote one has been given. -/
def localOf (localCodecs : List RTCRtpCodecParameters)
    (remoteByLocal : Map RTCRtpCodecParameters RTCRtpCodecParameters) (r : RTCRtpCodecParameters) :
    RTCRtpCodecParameters :=
  (localCodecs.find? fun l => remoteByLocal.get? l = some r).getD r

lemma Paired.localOf_eq {pairs : PrimaryPairs} (h : Paired remote localCodecs pairs)
    (hget : pairs.remoteByLocal.get? l = some r) : localOf localCodecs pairs.remoteByLocal r = l := by
  cases hfind : localCodecs.find? fun l => pairs.remoteByLocal.get? l = some r with
  | none =>
    exact absurd (decide_eq_true hget) (List.find?_eq_none.mp hfind l (h.key l r hget).1)
  | some l' =>
    have hget' : pairs.remoteByLocal.get? l' = some r :=
      of_decide_eq_true (List.find?_some (p := fun l => decide (pairs.remoteByLocal.get? l = some r)) hfind)
    rw [localOf, hfind]
    exact h.injective l' l r hget' hget

/-- What is negotiated with a remote section: remote codecs, each primary one for a local primary codec of its MIME
type, and RTX and RED codecs for what has been negotiated for the codecs of the local ones. -/
structure Negotiated (localCodecs remote : List RTCRtpCodecParameters) (order : CodecOrder)
    (result : List RTCRtpCodecParameters) (localOf : RTCRtpCodecParameters → RTCRtpCodecParameters) : Prop where
  subset : ∀ r ∈ result, r ∈ remote
  nodup : result.Nodup
  primary : ∀ r ∈ result, r.isAuxiliary = false → localOf r ∈ localCodecs ∧ (localOf r).isAuxiliary = false ∧
    normalizeCodecMimeType r.mimeType = normalizeCodecMimeType (localOf r).mimeType
  different : ∀ r ∈ result, ∀ r' ∈ result, r.isAuxiliary = false → r'.isAuxiliary = false →
    localOf r = localOf r' → r = r'
  rtx : ∀ r ∈ result, r.codecName = "rtx" → ∃ l ∈ localCodecs, l.codecName = "rtx" ∧
    ∃ p ∈ result, p.isAuxiliary = false ∧ (apt l).strictEquals (.number (localOf p).number) = true ∧
      ∀ codec ∈ remote, (apt r).strictEquals (.number codec.number) = true ↔ codec = p
  red : ∀ r ∈ result, r.codecName = "red" → ∃ l ∈ localCodecs, l.codecName = "red" ∧
    ∀ n ∈ redPayloadTypes r, ∃ p ∈ result, p.isAuxiliary = false ∧ (localOf p).number ∈ redPayloadTypes l ∧
      ∀ codec ∈ remote, codec.number = n ↔ codec = p
  order : order = .byRemote → result.Pairwise fun a b => remote.idxOf a < remote.idxOf b

lemma number_inj (hremote : (remote.map (·.payloadType)).Nodup) {a b : RTCRtpCodecParameters} (ha : a ∈ remote)
    (hb : b ∈ remote) : a.number = b.number ↔ a = b := by
  refine ⟨fun h => ?_, fun h => h ▸ rfl⟩
  have hpayloadType : a.payloadType = b.payloadType := by
    simpa [RTCRtpCodecParameters.number] using h
  exact List.inj_on_of_nodup_map hremote ha hb hpayloadType

lemma strictEquals_number {value : FmtpValue} {p : RTCRtpCodecParameters} :
    value.strictEquals (.number p.number) = true ↔ value = .number p.number := by
  cases value with
  | number n =>
    simp only [FmtpValue.strictEquals, Numeric.strictEquals, Bool.and_eq_true, decide_eq_true_eq,
      FmtpValue.number.injEq]
    refine ⟨And.right, fun h => ⟨?_, h⟩⟩
    rw [h]
    exact nofun
  | text s => simp [FmtpValue.strictEquals]
  | undefined => simp [FmtpValue.strictEquals]

/-- What the two loops give, in the order of the local codecs. -/
theorem negotiated_negotiate (hlocal : localCodecs.Nodup) (hremote : (remote.map (·.payloadType)).Nodup)
    {pairs : PrimaryPairs} (hpairs : Paired remote localCodecs pairs) :
    Negotiated localCodecs remote .byLocal
      (negotiate localCodecs remote pairs.remoteByLocal pairs.usedRemote localCodecs)
      (localOf localCodecs pairs.remoteByLocal) := by
  -- a codec of the result has been given to a primary codec, or found for an RTX or RED codec
  have hcases : ∀ r ∈ negotiate localCodecs remote pairs.remoteByLocal pairs.usedRemote localCodecs,
      (r.isAuxiliary = false ∧ pairs.remoteByLocal.get? (localOf localCodecs pairs.remoteByLocal r) = some r) ∨
      ∃ l ∈ localCodecs, ∃ used, l.codecName = "red" ∧
          findRed localCodecs remote pairs.remoteByLocal used l = some r ∨
        l.codecName = "rtx" ∧ findRtx localCodecs remote pairs.remoteByLocal used l = some r := by
    intro r hr
    obtain ⟨l, hl, ⟨haux, hget⟩ | ⟨haux, used, -, hfind⟩⟩ := mem_negotiate hr
    · refine .inl ⟨?_, by rw [hpairs.localOf_eq hget, hget]⟩
      rw [isAuxiliary_eq_of_mimeType (hpairs.value l r hget).2.2, haux]
    · refine .inr ⟨l, hl, used, ?_⟩
      rw [findAuxiliary] at hfind
      split_ifs at hfind with hred
      · exact .inl ⟨hred, hfind⟩
      · rw [RTCRtpCodecParameters.isAuxiliary, Bool.or_eq_true, decide_eq_true_eq, decide_eq_true_eq] at haux
        exact .inr ⟨haux.resolve_right hred, hfind⟩
  have hgiven : ∀ {p given}, p ∈ localCodecs → pairs.remoteByLocal.get? p = some given →
      given ∈ negotiate localCodecs remote pairs.remoteByLocal pairs.usedRemote localCodecs ∧
        given.isAuxiliary = false ∧ given ∈ remote := fun {p given} hp hget =>
    ⟨mem_negotiate_of_get? hp (hpairs.key p given hget).2 hget,
      (isAuxiliary_eq_of_mimeType (hpairs.value p given hget).2.2).trans (hpairs.key p given hget).2,
      (hpairs.value p given hget).1⟩
  have hprimary : ∀ r ∈ negotiate localCodecs remote pairs.remoteByLocal pairs.usedRemote localCodecs,
      r.isAuxiliary = false →
        pairs.remoteByLocal.get? (localOf localCodecs pairs.remoteByLocal r) = some r := by
    intro r hr haux
    rcases hcases r hr with ⟨-, hget⟩ | ⟨l, -, used, ⟨-, hfind⟩ | ⟨-, hfind⟩⟩
    · exact hget
    · exact absurd ((isAuxiliary_of_codecName (.inr (findRed_spec hfind).2.2.1)).symm.trans haux) nofun
    · exact absurd ((isAuxiliary_of_codecName (.inl (findRtx_spec hfind).2.2.1)).symm.trans haux) nofun
  have hdiffer : {P : Prop} → ("rtx" : String) = "red" → P := fun h => absurd h (by decide)
  refine ⟨fun r hr => ?_, ?_, fun r hr haux => ?_, fun r hr r' hr' haux haux' heq => ?_, fun r hr hname => ?_,
    fun r hr hname => ?_, nofun⟩
  · obtain ⟨l, -, ⟨-, hget⟩ | ⟨-, used, -, hfind⟩⟩ := mem_negotiate hr
    · exact (hpairs.value l r hget).1
    · exact (findAuxiliary_spec hfind).1
  · exact nodup_negotiate hlocal hpairs.injective fun l r h => (hpairs.value l r h).2.1
  · have hget := hprimary r hr haux
    exact ⟨(hpairs.key _ r hget).1, (hpairs.key _ r hget).2, (hpairs.value _ r hget).2.2⟩
  · have hget := hprimary r hr haux
    exact Option.some.inj (hget.symm.trans ((congrArg _ heq).trans (hprimary r' hr' haux')))
  · rcases hcases r hr with ⟨haux, -⟩ | ⟨l, hl, used, ⟨-, hfind⟩ | ⟨hrtx, hfind⟩⟩
    · exact absurd ((isAuxiliary_of_codecName (.inl hname)).symm.trans haux) nofun
    · exact hdiffer (hname.symm.trans (findRed_spec hfind).2.2.1)
    · obtain ⟨-, -, -, p, hp, hlp, given, hget, hrp⟩ := findRtx_spec hfind
      obtain ⟨hmem, haux, hremotemem⟩ := hgiven hp hget
      refine ⟨l, hl, hrtx, given, hmem, haux, ?_, fun codec hcodec => ?_⟩
      · rw [hpairs.localOf_eq hget]
        exact hlp
      · rw [strictEquals_number] at hrp ⊢
        rw [hrp, FmtpValue.number.injEq, number_inj hremote hremotemem hcodec, eq_comm]
  · rcases hcases r hr with ⟨haux, -⟩ | ⟨l, hl, used, ⟨hred, hfind⟩ | ⟨-, hfind⟩⟩
    · exact absurd ((isAuxiliary_of_codecName (.inr hname)).symm.trans haux) nofun
    · refine ⟨l, hl, hred, fun n hn => ?_⟩
      obtain ⟨p, hp, hlp, given, hget, rfl⟩ := (findRed_spec hfind).2.2.2 n hn
      obtain ⟨hmem, haux, hremotemem⟩ := hgiven hp hget
      refine ⟨given, hmem, haux, ?_, fun codec hcodec => number_inj hremote hcodec hremotemem⟩
      rw [hpairs.localOf_eq hget]
      exact hlp
    · exact hdiffer ((findRtx_spec hfind).2.2.1.symm.trans hname)

/-- Only the last clause depends on the order of the result. -/
lemma Negotiated.of_perm {result result' : List RTCRtpCodecParameters} {order : CodecOrder}
    {f : RTCRtpCodecParameters → RTCRtpCodecParameters}
    (h : Negotiated localCodecs remote .byLocal result f) (hperm : result'.Perm result)
    (horder : order = .byRemote → result'.Pairwise fun a b => remote.idxOf a < remote.idxOf b) :
    Negotiated localCodecs remote order result' f := by
  refine ⟨fun r hr => h.subset r (hperm.mem_iff.mp hr), hperm.nodup_iff.mpr h.nodup,
    fun r hr => h.primary r (hperm.mem_iff.mp hr), fun r hr r' hr' =>
      h.different r (hperm.mem_iff.mp hr) r' (hperm.mem_iff.mp hr'), fun r hr hname => ?_, fun r hr hname => ?_,
    horder⟩
  · obtain ⟨l, hl, hrtx, p, hp, hrefers⟩ := h.rtx r (hperm.mem_iff.mp hr) hname
    exact ⟨l, hl, hrtx, p, hperm.mem_iff.mpr hp, hrefers⟩
  · obtain ⟨l, hl, hred, hall⟩ := h.red r (hperm.mem_iff.mp hr) hname
    refine ⟨l, hl, hred, fun n hn => ?_⟩
    obtain ⟨p, hp, hrefers⟩ := hall n hn
    exact ⟨p, hperm.mem_iff.mpr hp, hrefers⟩

/-- Sorted by their places, different codecs of the section stand in its order. -/
lemma pairwise_insertionSort_remote {result : List RTCRtpCodecParameters} (hnodup : result.Nodup)
    (hsubset : ∀ r ∈ result, r ∈ remote) :
    (result.insertionSort (RemoteLE remote)).Pairwise fun a b => remote.idxOf a < remote.idxOf b := by
  have hperm := List.perm_insertionSort (RemoteLE remote) result
  have hsorted : (result.insertionSort (RemoteLE remote)).Pairwise (RemoteLE remote) :=
    List.pairwise_insertionSort (RemoteLE remote) result
  have hne : (result.insertionSort (RemoteLE remote)).Pairwise (· ≠ ·) := hperm.nodup_iff.mpr hnodup
  refine (hsorted.and hne).imp_of_mem fun {a b} ha _ hab => lt_of_le_of_ne hab.1 fun heq => hab.2 ?_
  exact (List.idxOf_inj (hsubset a (hperm.mem_iff.mp ha))).mp heq

/-- **Negotiation with a remote section.** -/
theorem exists_negotiated {order : CodecOrder} {result : List RTCRtpCodecParameters} (hlocal : localCodecs.Nodup)
    (hremote : (remote.map (·.payloadType)).Nodup)
    (hresult : resolveRemoteCodecSet localCodecs remote source order = .ok result) :
    ∃ localOf, Negotiated localCodecs remote order result localOf := by
  rw [resolveRemoteCodecSet] at hresult
  split_ifs at hresult with horder hnil hnil
  · obtain rfl := Except.ok.inj hresult
    have h := negotiated_negotiate hlocal hremote (paired_foldl source localCodecs)
    exact ⟨_, h.of_perm (List.perm_insertionSort _ _) fun _ => pairwise_insertionSort_remote h.nodup h.subset⟩
  · obtain rfl := Except.ok.inj hresult
    have h := negotiated_negotiate hlocal hremote (paired_foldl source localCodecs)
    exact ⟨_, h.of_perm (List.Perm.refl _) fun heq => absurd heq horder⟩

/-! ## Both resolutions -/

/-- The RTX and RED codecs of a list refer to codecs of it. -/
def RefersWithin (codecs : List RTCRtpCodecParameters) : Prop :=
  ∀ codec ∈ codecs, codec.isAuxiliary = true → referencedPayloadTypes codec ≠ [] ∧
    ∀ n ∈ referencedPayloadTypes codec, ∃ p ∈ codecs, p.number = n

/-- What a source and preferences leave of a list of codecs. -/
structure Resolved (configured : List RTCRtpCodecParameters)
    (source preferences : Option (List RTCRtpCodecParameters)) (result : List RTCRtpCodecParameters) : Prop where
  subset : ∀ codec ∈ result, codec ∈ configured
  nodup : result.Nodup
  refers : RefersWithin result
  preferred : ∀ chosen, preferences = some chosen →
    let front := preferredCodecs (sourceCodecs configured source) chosen
    result = front.filter (· ∈ result) ++ result.filter (· ∉ front)
  idem : source ≠ none ∨ preferences = none ∨ (∀ codec ∈ configured, Grounded configured codec) →
    resolveCodecs result source preferences = result

theorem resolved_resolveCodecs {configured : List RTCRtpCodecParameters} (hnodup : configured.Nodup)
    (hrefers : RefersWithin configured) (source preferences : Option (List RTCRtpCodecParameters)) :
    Resolved configured source preferences (resolveCodecs configured source preferences) := by
  refine ⟨fun _ => mem_of_mem_resolveCodecs, nodup_resolveCodecs hnodup _ _, ?_, ?_, resolveCodecs_idem⟩
  · by_cases h : source ≠ none ∨ preferences ≠ none
    · intro codec hcodec haux
      obtain ⟨hne, hall⟩ := grounded_resolveCodecs h codec hcodec haux
      refine ⟨hne, fun n hn => ?_⟩
      obtain ⟨p, hp, -, heq⟩ := hall n hn
      exact ⟨p, hp, heq⟩
    · push Not at h
      rw [h.1, h.2]
      exact hrefers
  · rintro chosen rfl
    exact (moveToFront_resolveCodecs source).symm

/-- **Codec resolution.**  What is negotiated with a remote section, and what a source and preferences leave. -/
theorem codecs_resolved (localCodecs remote : List RTCRtpCodecParameters)
    (source : Option (List RTCRtpCodecParameters)) (order : CodecOrder) (result : List RTCRtpCodecParameters)
    (hlocal : localCodecs.Nodup) (hremote : (remote.map (·.payloadType)).Nodup)
    (hresult : resolveRemoteCodecSet localCodecs remote source order = .ok result)
    (configured : List RTCRtpCodecParameters) (trackSource preferences : Option (List RTCRtpCodecParameters))
    (hnodup : configured.Nodup) (hrefers : RefersWithin configured) :
    (∃ localOf, Negotiated localCodecs remote order result localOf) ∧
      Resolved configured trackSource preferences (resolveCodecs configured trackSource preferences) :=
  ⟨exists_negotiated hlocal hremote hresult, resolved_resolveCodecs hnodup hrefers _ _⟩

/-- VP8 with RTX, and the same in a remote section with other payload types. -/
def localVideo : List RTCRtpCodecParameters :=
  [⟨0, 96, "video/VP8", 90000, none, none⟩, ⟨1, 97, "video/rtx", 90000, none, some "apt=96"⟩]

def remoteVideo : List RTCRtpCodecParameters :=
  [⟨2, 121, "video/rtx", 90000, none, some "apt=120"⟩, ⟨3, 120, "video/vp8", 90000, none, none⟩]

theorem codecs_resolved_vp8 : (∃ localOf, Negotiated localVideo remoteVideo .byRemote remoteVideo localOf) ∧
    Resolved localVideo none (some localVideo.reverse) (resolveCodecs localVideo none (some localVideo.reverse)) :=
  codecs_resolved localVideo remoteVideo none .byRemote remoteVideo (by decide) (by decide) (by decide +kernel)
    localVideo none (some localVideo.reverse) (by decide) (by unfold RefersWithin; decide +kernel)

/-- A local codec that is twice in the list is negotiated twice.  And where the first RTX codec that preferences
find is for RED, it is left out, and preferences find another one the next time. -/
theorem not_codecs_resolved :
    (¬ ∀ (localCodecs remote : List RTCRtpCodecParameters) (source : Option (List RTCRtpCodecParameters))
      (order : CodecOrder) (result : List RTCRtpCodecParameters), (remote.map (·.payloadType)).Nodup →
      resolveRemoteCodecSet localCodecs remote source order = .ok result → result.Nodup) ∧
    ¬ ∀ (configured : List RTCRtpCodecParameters) (source preferences : Option (List RTCRtpCodecParameters)),
      configured.Nodup → RefersWithin configured →
      resolveCodecs (resolveCodecs configured source preferences) source preferences =
        resolveCodecs configured source preferences := by
  constructor
  · intro h
    have hnodup := h [⟨0, 96, "video/VP8", 90000, none, none⟩, ⟨0, 96, "video/VP8", 90000, none, none⟩]
      [⟨3, 120, "video/VP8", 90000, none, none⟩] none .byLocal
      [⟨3, 120, "video/VP8", 90000, none, none⟩, ⟨3, 120, "video/VP8", 90000, none, none⟩] (by decide)
      (by decide +kernel)
    exact absurd hnodup (by decide)
  · intro h
    have hidem := h
      [⟨0, 96, "video/VP8", 90000, none, none⟩, ⟨1, 97, "video/red", 90000, none, some "96"⟩,
        ⟨2, 98, "video/rtx", 90000, none, some "apt=97"⟩, ⟨3, 99, "video/rtx", 90000, none, some "apt=96"⟩]
      none (some [⟨4, 0, "video/VP8", 90000, none, none⟩, ⟨5, 0, "video/rtx", 90000, none, none⟩])
      (by decide) (by unfold RefersWithin; decide +kernel)
    exact absurd hidem (by decide +kernel)

end Werift.Webrtc
