import Werift.Js.Map
import Werift.Js.NumberText
import Werift.Lib.FrontOrder

/-!
# Codecs that fit one another (`webrtc/src/media/codecCompatibility.ts`)

The codecs of a section are objects, and the program tells them apart by identity: a codec carries the number of
its object.  MIME types are texts of ASCII.
-/

namespace Werift.Webrtc

open Js FrontOrder

/-- The part of a codec that negotiation reads. -/
structure RTCRtpCodecParameters where
  object : ℕ
  payloadType : ℤ
  mimeType : String
  clockRate : ℤ
  channels : Option ℤ := none
  parameters : Option String := none
deriving DecidableEq

/-- The value of a format parameter. -/
inductive FmtpValue
  | number (n : Numeric)
  | text (s : String)
  | undefined
deriving DecidableEq

/-- `text.toLowerCase()`. -/
def lowerCase (text : String) : String := String.ofList (text.toList.map Char.toLower)

/-- The format parameters whose values are numbers. -/
def FMTP_INT_PARAMETERS : List String :=
  ["apt", "max-fr", "max-fs", "maxplaybackrate", "minptime", "packetization-mode", "level-asymmetry-allowed",
    "stereo", "useinbandfec"]

/-- One format parameter, `k=v`, `k:v` or `k`. -/
def codecParameter (param : List Char) : String × FmtpValue :=
  match Numeric.splitFirst (· = '=') param with
  | (k, some v) =>
    let k := String.ofList k
    (k, if k ∈ FMTP_INT_PARAMETERS then .number (Numeric.ofText (String.ofList v)) else .text (String.ofList v))
  | (_, none) =>
    match param.splitOn ':' with
    | k :: v :: _ =>
      let v := String.ofList v
      (String.ofList k, if Numeric.ofText v = .nan then .text v else .number (Numeric.ofText v))
    | _ => (String.ofList param, .undefined)

/-- `codecParametersFromString(str)`. -/
def codecParametersFromString (str : String) : Map String FmtpValue :=
  ((str.toList.splitOn ';').filter (· ≠ [])).foldl
    (fun parameters param => parameters.set (codecParameter param).1 (codecParameter param).2) {}

/-- `codecParametersFromString(str)[key]`. -/
def codecParameterOf (str key : String) : FmtpValue :=
  ((codecParametersFromString str).get? key).getD .undefined

/-- The MIME type in lower case, with the former name of AV1 replaced. -/
def normalizeCodecMimeType (mimeType : String) : String :=
  let lower := lowerCase mimeType
  if lower = "video/av1x" then "video/av1" else lower

/-- `left == undefined || right == undefined || left === right`. -/
def optionalEqual {α : Type} (equals : α → α → Bool) : Option α → Option α → Bool
  | some left, some right => equals left right
  | _, _ => true

namespace RTCRtpCodecParameters

/-- `codec.name.toLowerCase()`. -/
def codecName (codec : RTCRtpCodecParameters) : String :=
  lowerCase (String.ofList ((codec.mimeType.toList.splitOn '/').getD 1 []))

def isAuxiliary (codec : RTCRtpCodecParameters) : Bool :=
  codec.codecName = "rtx" || codec.codecName = "red"

/-- The `packetization-mode` of a codec. -/
def packetizationMode (codec : RTCRtpCodecParameters) : Option FmtpValue :=
  match codecParameterOf (codec.parameters.getD "") "packetization-mode" with
  | .undefined => none
  | value => some value

/-- The `profile-level-id` of a codec, as a text in lower case. -/
def profileLevelId (codec : RTCRtpCodecParameters) : Option String :=
  match codecParameterOf (codec.parameters.getD "") "profile-level-id" with
  | .undefined => none
  | .number n => some (lowerCase n.text)
  | .text s => some (lowerCase s)

end RTCRtpCodecParameters

/-- `left === right` for values of format parameters. -/
def FmtpValue.strictEquals : FmtpValue → FmtpValue → Bool
  | .number m, .number n => m.strictEquals n
  | .text s, .text t => s = t
  | .undefined, .undefined => true
  | _, _ => false

def isCodecCompatible (source configured : RTCRtpCodecParameters) : Bool :=
  if normalizeCodecMimeType source.mimeType ≠ normalizeCodecMimeType configured.mimeType then false
  else if source.clockRate ≠ configured.clockRate then false
  else if !optionalEqual (· = ·) source.channels configured.channels then false
  else if source.codecName ≠ "h264" then true
  else if !optionalEqual FmtpValue.strictEquals source.packetizationMode configured.packetizationMode then false
  else optionalEqual (· = ·) source.profileLevelId configured.profileLevelId

/-- The numbers of a RED parameter, `96/97`. -/
def redPayloadTypes (codec : RTCRtpCodecParameters) : List Numeric :=
  ((((codec.parameters.getD "").toList.splitOn '/').map fun part => Numeric.ofText (String.ofList part))).filter
    (· ≠ .nan)

/-- `Number(value)`. -/
def FmtpValue.toNumeric : FmtpValue → Numeric
  | .number n => n
  | .text s => Numeric.ofText s
  | .undefined => .nan

/-- The payload types that RTX and RED refer to. -/
def referencedPayloadTypes (codec : RTCRtpCodecParameters) : List Numeric :=
  if codec.codecName = "rtx" then
    let apt := (codecParameterOf (codec.parameters.getD "") "apt").toNumeric
    if apt = .nan then [] else [apt]
  else if codec.codecName = "red" then redPayloadTypes codec
  else []

/-- The payload type of a codec, as a number. -/
def RTCRtpCodecParameters.number (codec : RTCRtpCodecParameters) : Numeric := .finite codec.payloadType

/-- The primary codecs, and the RTX and RED codecs that refer to these only. -/
def withAuxiliaryCodecs (configured primary : List RTCRtpCodecParameters) : List RTCRtpCodecParameters :=
  let keptPayloadTypes := primary.map (·.number)
  let auxiliary := configured.filter fun codec =>
    codec.isAuxiliary && (referencedPayloadTypes codec ≠ [] &&
      (referencedPayloadTypes codec).all (keptPayloadTypes.contains ·))
  configured.filter fun codec => primary.contains codec || auxiliary.contains codec

def intersectCodecs (configured source : List RTCRtpCodecParameters) : List RTCRtpCodecParameters :=
  withAuxiliaryCodecs configured
    (configured.filter fun codec => !codec.isAuxiliary && source.any (isCodecCompatible · codec))

def matchesPreference (candidate preference : RTCRtpCodecParameters) : Bool :=
  normalizeCodecMimeType candidate.mimeType = normalizeCodecMimeType preference.mimeType &&
    candidate.clockRate = preference.clockRate

/-- The codecs that preferences find, each at the first preference that finds it. -/
def preferredCodecs (configured preferences : List RTCRtpCodecParameters) : List RTCRtpCodecParameters :=
  distinct (preferences.filterMap fun preference => configured.find? (matchesPreference · preference))

/-- The primary codecs that are preferred, or that preferred RTX and RED codecs refer to. -/
def preferredPrimaries (configured uniquePreferred : List RTCRtpCodecParameters) : List RTCRtpCodecParameters :=
  let referencedByPreferredAuxiliary :=
    (uniquePreferred.filter (·.isAuxiliary)).flatMap referencedPayloadTypes
  configured.filter fun codec =>
    !codec.isAuxiliary && (uniquePreferred.contains codec || referencedByPreferredAuxiliary.contains codec.number)

/-- `configured` where there are no preferences. -/
def applyCodecPreferences (configured : List RTCRtpCodecParameters)
    (preferences : Option (List RTCRtpCodecParameters)) : List RTCRtpCodecParameters :=
  preferences.elim configured fun preferences =>
    let uniquePreferred := preferredCodecs configured preferences
    moveToFront uniquePreferred (withAuxiliaryCodecs configured (preferredPrimaries configured uniquePreferred))

def resolveCodecs (configured : List RTCRtpCodecParameters)
    (source preferences : Option (List RTCRtpCodecParameters)) : List RTCRtpCodecParameters :=
  applyCodecPreferences (source.elim configured (intersectCodecs configured)) preferences

/-! ## The codecs kept -/

/-- A codec is primary, or refers to payload types of primary codecs of a list only. -/
def Grounded (codecs : List RTCRtpCodecParameters) (codec : RTCRtpCodecParameters) : Prop :=
  codec.isAuxiliary = true → referencedPayloadTypes codec ≠ [] ∧
    ∀ n ∈ referencedPayloadTypes codec, ∃ p ∈ codecs, p.isAuxiliary = false ∧ p.number = n

variable {configured primary source preferences codecs : List RTCRtpCodecParameters}
  {codec : RTCRtpCodecParameters}

lemma mem_withAuxiliaryCodecs (hprimary : ∀ p ∈ primary, p ∈ configured ∧ p.isAuxiliary = false) :
    codec ∈ withAuxiliaryCodecs configured primary ↔
      codec ∈ primary ∨ codec ∈ configured ∧ codec.isAuxiliary = true ∧ Grounded primary codec := by
  have hgrounded : codec.isAuxiliary = true → ((referencedPayloadTypes codec ≠ [] &&
      (referencedPayloadTypes codec).all ((primary.map (·.number)).contains ·)) = true ↔
      Grounded primary codec) := by
    intro haux
    rw [Bool.and_eq_true, decide_eq_true_eq, List.all_eq_true]
    constructor
    · rintro ⟨hne, hall⟩ -
      refine ⟨hne, fun n hn => ?_⟩
      obtain ⟨p, hp, heq⟩ := List.mem_map.mp (List.contains_iff_mem.mp (hall n hn))
      exact ⟨p, hp, (hprimary p hp).2, heq⟩
    · intro h
      refine ⟨(h haux).1, fun n hn => List.contains_iff_mem.mpr ?_⟩
      obtain ⟨p, hp, -, heq⟩ := (h haux).2 n hn
      exact List.mem_map.mpr ⟨p, hp, heq⟩
  rw [withAuxiliaryCodecs, List.mem_filter, Bool.or_eq_true, List.contains_iff_mem, List.contains_iff_mem,
    List.mem_filter, Bool.and_eq_true]
  constructor
  · rintro ⟨hmem, hp | ⟨-, haux, hrefs⟩⟩
    · exact .inl hp
    · exact .inr ⟨hmem, haux, (hgrounded haux).mp hrefs⟩
  · rintro (hp | ⟨hmem, haux, h⟩)
    · exact ⟨(hprimary codec hp).1, .inl hp⟩
    · exact ⟨hmem, .inr ⟨hmem, haux, (hgrounded haux).mpr h⟩⟩

lemma withAuxiliaryCodecs_sublist : (withAuxiliaryCodecs configured primary).Sublist configured :=
  List.filter_sublist

/-- What is kept refers to what is kept. -/
lemma grounded_withAuxiliaryCodecs (hprimary : ∀ p ∈ primary, p ∈ configured ∧ p.isAuxiliary = false) :
    ∀ codec ∈ withAuxiliaryCodecs configured primary, Grounded (withAuxiliaryCodecs configured primary) codec := by
  intro codec hcodec haux
  rcases (mem_withAuxiliaryCodecs hprimary).mp hcodec with hp | ⟨-, -, hgrounded⟩
  · exact absurd (haux.symm.trans (hprimary codec hp).2) nofun
  · refine ⟨(hgrounded haux).1, fun n hn => ?_⟩
    obtain ⟨p, hp, hpaux, heq⟩ := (hgrounded haux).2 n hn
    exact ⟨p, (mem_withAuxiliaryCodecs hprimary).mpr (.inl hp), hpaux, heq⟩

/-- A list all of whose codecs refer to primary codecs of it is kept as it is. -/
lemma withAuxiliaryCodecs_eq_self (hprimary : ∀ p ∈ primary, p ∈ configured ∧ p.isAuxiliary = false)
    (hall : ∀ p ∈ configured, p.isAuxiliary = false → p ∈ primary)
    (hgrounded : ∀ codec ∈ configured, Grounded configured codec) :
    withAuxiliaryCodecs configured primary = configured := by
  refine List.filter_eq_self.mpr fun codec hcodec => ?_
  have hmem : codec ∈ withAuxiliaryCodecs configured primary := by
    refine (mem_withAuxiliaryCodecs hprimary).mpr ?_
    cases haux : codec.isAuxiliary with
    | false => exact .inl (hall codec hcodec haux)
    | true =>
      refine .inr ⟨hcodec, rfl, fun _ => ⟨(hgrounded codec hcodec haux).1, fun n hn => ?_⟩⟩
      obtain ⟨p, hp, hpaux, heq⟩ := (hgrounded codec hcodec haux).2 n hn
      exact ⟨p, hall p hp hpaux, hpaux, heq⟩
  exact (List.mem_filter.mp hmem).2

lemma mem_preferredPrimaries {chosen : List RTCRtpCodecParameters} :
    codec ∈ preferredPrimaries configured chosen ↔ codec ∈ configured ∧ codec.isAuxiliary = false ∧
      (codec ∈ chosen ∨ ∃ a ∈ chosen, a.isAuxiliary = true ∧ codec.number ∈ referencedPayloadTypes a) := by
  simp only [preferredPrimaries, List.mem_filter, Bool.and_eq_true, Bool.not_eq_true', Bool.or_eq_true,
    List.contains_iff_mem, List.mem_flatMap, and_assoc]

lemma preferredPrimaries_spec (configured chosen : List RTCRtpCodecParameters) :
    ∀ p ∈ preferredPrimaries configured chosen, p ∈ configured ∧ p.isAuxiliary = false := fun _ hp =>
  ⟨(mem_preferredPrimaries.mp hp).1, (mem_preferredPrimaries.mp hp).2.1⟩

lemma mem_preferredCodecs : codec ∈ preferredCodecs configured preferences ↔
    ∃ preference ∈ preferences, configured.find? (matchesPreference · preference) = some codec := by
  rw [preferredCodecs, mem_distinct, List.mem_filterMap]

lemma mem_of_mem_preferredCodecs (h : codec ∈ preferredCodecs configured preferences) : codec ∈ configured := by
  obtain ⟨preference, -, hfind⟩ := mem_preferredCodecs.mp h
  exact List.mem_of_find?_eq_some hfind

/-- The codecs that the preferences leave. -/
abbrev allowedCodecs (configured preferences : List RTCRtpCodecParameters) : List RTCRtpCodecParameters :=
  withAuxiliaryCodecs configured (preferredPrimaries configured (preferredCodecs configured preferences))

lemma mem_applyCodecPreferences : codec ∈ applyCodecPreferences configured (some preferences) ↔
    codec ∈ allowedCodecs configured preferences := mem_moveToFront

/-- A list of which all codecs refer to primary ones loses no preferred codec. -/
lemma mem_allowedCodecs_of_mem_preferredCodecs (hgrounded : ∀ codec ∈ configured, Grounded configured codec)
    (h : codec ∈ preferredCodecs configured preferences) : codec ∈ allowedCodecs configured preferences := by
  have hmem : codec ∈ configured := mem_of_mem_preferredCodecs h
  refine (mem_withAuxiliaryCodecs (preferredPrimaries_spec _ _)).mpr ?_
  cases haux : codec.isAuxiliary with
  | false => exact .inl (mem_preferredPrimaries.mpr ⟨hmem, haux, .inl h⟩)
  | true =>
    refine .inr ⟨hmem, rfl, fun _ => ⟨(hgrounded codec hmem haux).1, fun n hn => ?_⟩⟩
    obtain ⟨p, hp, hpaux, rfl⟩ := (hgrounded codec hmem haux).2 n hn
    exact ⟨p, mem_preferredPrimaries.mpr ⟨hp, hpaux, .inr ⟨codec, h, haux, hn⟩⟩, hpaux, rfl⟩

lemma matchesPreference_of_find? {preference : RTCRtpCodecParameters}
    (h : codecs.find? (matchesPreference · preference) = some codec) : matchesPreference codec preference = true :=
  List.find?_some (p := (matchesPreference · preference)) h

/-- Preferences that find one codec find the same codecs. -/
lemma matchesPreference_congr {p q : RTCRtpCodecParameters} (hp : matchesPreference codec p = true)
    (hq : matchesPreference codec q = true) : (matchesPreference · p) = (matchesPreference · q) := by
  simp only [matchesPreference, Bool.and_eq_true, decide_eq_true_eq] at hp hq
  funext candidate
  simp only [matchesPreference, ← hp.1, ← hp.2, ← hq.1, ← hq.2]

/-- A preference finds in the result what it has found in the list. -/
lemma find?_applyCodecPreferences (hgrounded : ∀ codec ∈ configured, Grounded configured codec)
    {preference : RTCRtpCodecParameters} (hpreference : preference ∈ preferences) :
    (applyCodecPreferences configured (some preferences)).find? (matchesPreference · preference) =
      configured.find? (matchesPreference · preference) := by
  cases hfind : configured.find? (matchesPreference · preference) with
  | none =>
    rw [List.find?_eq_none] at hfind ⊢
    exact fun codec hcodec => hfind codec (withAuxiliaryCodecs_sublist.mem (mem_applyCodecPreferences.mp hcodec))
  | some m =>
    apply find?_moveToFront
    have hm : m ∈ preferredCodecs configured preferences := mem_preferredCodecs.mpr ⟨preference, hpreference, hfind⟩
    have hsome : ((preferredCodecs configured preferences).filter
        (· ∈ allowedCodecs configured preferences)).find? (matchesPreference · preference) ≠ none := by
      intro hnone
      have hallowed := mem_allowedCodecs_of_mem_preferredCodecs hgrounded hm
      exact List.find?_eq_none.mp hnone m (List.mem_filter.mpr ⟨hm, decide_eq_true hallowed⟩)
        (matchesPreference_of_find? hfind)
    -- whatever is found in front has been found by a preference that finds the same codecs
    obtain ⟨u, hu⟩ := Option.ne_none_iff_exists'.mp hsome
    obtain ⟨other, -, hother⟩ := mem_preferredCodecs.mp (List.mem_filter.mp (List.mem_of_find?_eq_some hu)).1
    have hsame := matchesPreference_congr (matchesPreference_of_find? hother) (matchesPreference_of_find? hu)
    rw [hsame, hfind] at hother
    rwa [Option.some.inj hother]

lemma preferredCodecs_applyCodecPreferences (hgrounded : ∀ codec ∈ configured, Grounded configured codec) :
    preferredCodecs (applyCodecPreferences configured (some preferences)) preferences =
      preferredCodecs configured preferences := by
  rw [preferredCodecs, preferredCodecs]
  exact congrArg distinct (List.filterMap_congr fun preference h => find?_applyCodecPreferences hgrounded h)

/-- **Applying preferences twice.**  Where all codecs refer to primary ones, it changes nothing. -/
theorem applyCodecPreferences_idem (hgrounded : ∀ codec ∈ configured, Grounded configured codec) :
    applyCodecPreferences (applyCodecPreferences configured (some preferences)) (some preferences) =
      applyCodecPreferences configured (some preferences) := by
  have hsame : preferredCodecs (applyCodecPreferences configured (some preferences)) preferences = _ :=
    preferredCodecs_applyCodecPreferences hgrounded
  have hkept : allowedCodecs (applyCodecPreferences configured (some preferences)) preferences =
      applyCodecPreferences configured (some preferences) := by
    refine withAuxiliaryCodecs_eq_self (preferredPrimaries_spec _ _) (fun _ hp hpaux => ?_)
      fun codec hcodec haux => ?_
    · rcases (mem_withAuxiliaryCodecs (preferredPrimaries_spec _ _)).mp (mem_applyCodecPreferences.mp hp) with
        hprimary | ⟨-, haux, -⟩
      · rw [hsame]
        exact mem_preferredPrimaries.mpr ⟨hp, hpaux, (mem_preferredPrimaries.mp hprimary).2.2⟩
      · exact absurd (haux.symm.trans hpaux) nofun
    · have hall := grounded_withAuxiliaryCodecs (preferredPrimaries_spec configured _) codec
        (mem_applyCodecPreferences.mp hcodec) haux
      refine ⟨hall.1, fun n hn => ?_⟩
      obtain ⟨p, hp, h⟩ := hall.2 n hn
      exact ⟨p, mem_applyCodecPreferences.mpr hp, h⟩
  calc applyCodecPreferences (applyCodecPreferences configured (some preferences)) (some preferences)
      = moveToFront (preferredCodecs configured preferences)
          (applyCodecPreferences configured (some preferences)) := by
        rw [← hsame]
        exact congrArg (moveToFront _) hkept
    _ = applyCodecPreferences configured (some preferences) := moveToFront_idem _ _

/-! ## The codecs of a transceiver -/

/-- The codecs to which preferences are applied. -/
abbrev sourceCodecs (configured : List RTCRtpCodecParameters) (source : Option (List RTCRtpCodecParameters)) :
    List RTCRtpCodecParameters :=
  source.elim configured (intersectCodecs configured)

lemma intersectCodecs_primary : ∀ p ∈ configured.filter
    (fun codec => !codec.isAuxiliary && source.any (isCodecCompatible · codec)),
    p ∈ configured ∧ p.isAuxiliary = false := by
  intro p hp
  obtain ⟨hmem, htest⟩ := List.mem_filter.mp hp
  exact ⟨hmem, Bool.not_eq_true' _ ▸ (Bool.and_eq_true _ _ ▸ htest).1⟩

lemma grounded_intersectCodecs :
    ∀ codec ∈ intersectCodecs configured source, Grounded (intersectCodecs configured source) codec :=
  grounded_withAuxiliaryCodecs intersectCodecs_primary

/-- Codecs that have been intersected with a source are not changed by it. -/
lemma intersectCodecs_eq_self (hsub : ∀ codec ∈ codecs, codec ∈ intersectCodecs configured source)
    (hgrounded : ∀ codec ∈ codecs, Grounded codecs codec) : intersectCodecs codecs source = codecs := by
  refine withAuxiliaryCodecs_eq_self intersectCodecs_primary (fun p hp hpaux => ?_) hgrounded
  rcases (mem_withAuxiliaryCodecs intersectCodecs_primary).mp (hsub p hp) with hprimary | ⟨-, haux, -⟩
  · exact List.mem_filter.mpr ⟨hp, (List.mem_filter.mp hprimary).2⟩
  · exact absurd (haux.symm.trans hpaux) nofun

lemma sourceCodecs_sublist (configured : List RTCRtpCodecParameters)
    (source : Option (List RTCRtpCodecParameters)) : (sourceCodecs configured source).Sublist configured := by
  cases source with
  | none => exact List.Sublist.refl _
  | some source => exact withAuxiliaryCodecs_sublist

lemma mem_of_mem_resolveCodecs {source preferences : Option (List RTCRtpCodecParameters)}
    (h : codec ∈ resolveCodecs configured source preferences) : codec ∈ configured := by
  have hsource : codec ∈ sourceCodecs configured source := by
    cases preferences with
    | none => exact h
    | some preferences => exact withAuxiliaryCodecs_sublist.mem (mem_applyCodecPreferences.mp h)
  exact (sourceCodecs_sublist configured source).mem hsource

lemma nodup_resolveCodecs (hnodup : configured.Nodup) (source preferences : Option (List RTCRtpCodecParameters)) :
    (resolveCodecs configured source preferences).Nodup := by
  have hsource : (sourceCodecs configured source).Nodup := hnodup.sublist (sourceCodecs_sublist _ _)
  cases preferences with
  | none => exact hsource
  | some preferences => exact nodup_moveToFront (nodup_distinct _) (hsource.sublist withAuxiliaryCodecs_sublist)

/-- What a source or preferences leave refers to primary codecs that they leave. -/
lemma grounded_resolveCodecs {source preferences : Option (List RTCRtpCodecParameters)}
    (h : source ≠ none ∨ preferences ≠ none) :
    ∀ codec ∈ resolveCodecs configured source preferences,
      Grounded (resolveCodecs configured source preferences) codec := by
  cases preferences with
  | none =>
    obtain ⟨source, rfl⟩ := Option.ne_none_iff_exists'.mp (h.resolve_right fun hne => hne rfl)
    exact grounded_intersectCodecs
  | some preferences =>
    intro codec hcodec haux
    have hall := grounded_withAuxiliaryCodecs (preferredPrimaries_spec _ _) codec
      (mem_applyCodecPreferences.mp hcodec) haux
    refine ⟨hall.1, fun n hn => ?_⟩
    obtain ⟨p, hp, hprimary⟩ := hall.2 n hn
    exact ⟨p, mem_applyCodecPreferences.mpr hp, hprimary⟩

/-- Preferred codecs come first, in the order of preference. -/
lemma moveToFront_resolveCodecs (source : Option (List RTCRtpCodecParameters)) :
    moveToFront (preferredCodecs (sourceCodecs configured source) preferences)
        (resolveCodecs configured source (some preferences)) =
      resolveCodecs configured source (some preferences) :=
  moveToFront_idem _ _

/-- **Resolving twice.**  It changes nothing where a source is given, or all codecs refer to primary ones. -/
theorem resolveCodecs_idem {source preferences : Option (List RTCRtpCodecParameters)}
    (h : source ≠ none ∨ preferences = none ∨ ∀ codec ∈ configured, Grounded configured codec) :
    resolveCodecs (resolveCodecs configured source preferences) source preferences =
      resolveCodecs configured source preferences := by
  cases source with
  | none =>
    cases preferences with
    | none => rfl
    | some preferences =>
      exact applyCodecPreferences_idem ((h.resolve_left fun hne => hne rfl).resolve_left nofun)
  | some source =>
    have hself : intersectCodecs (resolveCodecs configured (some source) preferences) source =
        resolveCodecs configured (some source) preferences := by
      have hsub : ∀ codec ∈ resolveCodecs configured (some source) preferences,
          codec ∈ intersectCodecs configured source := by
        intro codec hcodec
        cases preferences with
        | none => exact hcodec
        | some preferences => exact withAuxiliaryCodecs_sublist.mem (mem_applyCodecPreferences.mp hcodec)
      exact intersectCodecs_eq_self hsub (grounded_resolveCodecs (.inl nofun))
    have hunfold : ∀ codecs, intersectCodecs codecs source = codecs →
        resolveCodecs codecs (some source) preferences = applyCodecPreferences codecs preferences :=
      fun codecs heq => congrArg (applyCodecPreferences · preferences) heq
    rw [hunfold _ hself]
    cases preferences with
    | none => rfl
    | some preferences => exact applyCodecPreferences_idem grounded_intersectCodecs

end Werift.Webrtc
