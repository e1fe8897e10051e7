import Werift.Lib.Upsert
import Werift.Rtp.Sending

/-!
# The extensions of an outgoing packet (`rtp/src/rtp/sendHeaderExtensions.ts`)

The sender writes its own extensions and keeps those of the packet that it was given, with one extension for each
id.  What is written anew for each hop takes its place where it has been negotiated, whatever the packet had there.
-/

namespace Werift.Rtp

open Upsert

variable {original : List Extension} {negotiated : List NegotiatedHeaderExtension} {ids : SendStreamIds}

/-- The identifier of a sender that belongs into an extension. -/
def SendStreamIds.text (ids : SendStreamIds) : ExtensionUri → Option String
  | .sdesMid => ids.mid
  | .sdesRTPStreamID => ids.rtpStreamId
  | .repairedRtpStreamId => ids.repairedRtpStreamId
  | _ => none

/-- An extension that is written anew for each hop. -/
def NegotiatedHeaderExtension.hopByHop (e : NegotiatedHeaderExtension) : Bool :=
  e.uri = .transportWideCC ∨ e.uri = .absSendTime

/-- What the sender writes itself. -/
def ownExtensions (negotiated : List NegotiatedHeaderExtension) (ids : SendStreamIds) : List Extension :=
  negotiated.filterMap fun extension =>
    (extension.payload ids).map fun payload => { id := extension.id, payload }

/-- The ids that are written anew for each hop. -/
def hopByHopIds (negotiated : List NegotiatedHeaderExtension) : List ℕ :=
  (negotiated.filter NegotiatedHeaderExtension.hopByHop).map (·.id)

lemma mergeExtension_eq (hopByHopIds : List ℕ) (extensions : List Extension) (ext : Extension) :
    mergeExtension hopByHopIds extensions ext =
      if ext.id ∉ hopByHopIds then upsert Extension.id ext extensions else extensions := by
  rw [mergeExtension]
  by_cases hhop : ext.id ∈ hopByHopIds
  · rw [if_pos hhop, if_neg (not_not.mpr hhop)]
  · rw [if_neg hhop, if_pos hhop]
    induction extensions with
    | nil => rfl
    | cons v extensions ih =>
      rw [List.findIdx?_cons, upsert]
      by_cases hid : v.id = ext.id
      · rw [if_pos hid, if_pos (beq_iff_eq.mpr hid)]
        exact congrArg (· :: extensions) (by dsimp only; rw [hid])
      · rw [if_neg hid, if_neg (fun h => hid (beq_iff_eq.mp h)), ← ih]
        cases extensions.findIdx? fun v => v.id == ext.id <;> rfl

/-- The extensions, before they are sorted. -/
lemma buildSendHeaderExtensions_perm (original : List Extension) (negotiated : List NegotiatedHeaderExtension)
    (ids : SendStreamIds) : (buildSendHeaderExtensions original negotiated ids).Perm
      (insertAll Extension.id (ownExtensions negotiated ids)
        (original.filter fun ext => ext.id ∉ hopByHopIds negotiated)) := by
  have hmerge : original.foldl (mergeExtension (hopByHopIds negotiated)) (ownExtensions negotiated ids) =
      insertAll Extension.id (ownExtensions negotiated ids)
        (original.filter fun ext => ext.id ∉ hopByHopIds negotiated) := by
    rw [insertAll, List.foldl_filter]
    congr 1
    funext extensions ext
    rw [mergeExtension_eq]
    simp only [decide_eq_true_eq]
  rw [← hmerge]
  exact List.mergeSort_perm _ _

lemma map_id_ownExtensions (negotiated : List NegotiatedHeaderExtension) (ids : SendStreamIds) :
    (ownExtensions negotiated ids).map Extension.id =
      (negotiated.filter fun extension => (extension.payload ids).isSome).map (·.id) := by
  induction negotiated with
  | nil => rfl
  | cons extension negotiated ih =>
    rw [ownExtensions] at ih
    rw [ownExtensions, List.filterMap_cons, List.filter_cons]
    cases extension.payload ids with
    | none => exact ih
    | some payload => exact congrArg (extension.id :: ·) ih

lemma mem_ownExtensions {extension : NegotiatedHeaderExtension} {payload : Bytes} (h : extension ∈ negotiated)
    (hpayload : extension.payload ids = some payload) : ⟨extension.id, payload⟩ ∈ ownExtensions negotiated ids :=
  List.mem_filterMap.mpr ⟨extension, h, by rw [hpayload, Option.map_some]⟩

/-- A text that is not empty is written. -/
lemma payload_of_text {extension : NegotiatedHeaderExtension} {text : String}
    (h : ids.text extension.uri = some text) (hne : text ≠ "") :
    extension.payload ids = some (Js.encodeUtf8 text) := by
  have htruthy : truthy (some text) = some text := by
    rw [truthy, Option.filter_some, if_pos (decide_eq_true hne)]
  obtain ⟨id, uri⟩ := extension
  cases uri <;> simp only [SendStreamIds.text, reduceCtorEq] at h <;>
    simp only [NegotiatedHeaderExtension.payload, h, htruthy, Option.map_some]

lemma not_hopByHop_of_text {extension : NegotiatedHeaderExtension} {text : String}
    (h : ids.text extension.uri = some text) : extension.hopByHop = false := by
  obtain ⟨id, uri⟩ := extension
  cases uri <;> first | rfl | cases h

lemma mem_hopByHopIds {extension : NegotiatedHeaderExtension} (h : extension ∈ negotiated)
    (hhop : extension.hopByHop = true) : extension.id ∈ hopByHopIds negotiated :=
  List.mem_map.mpr ⟨extension, List.mem_filter.mpr ⟨h, hhop⟩, rfl⟩

/-- The last extension of the packet with its id, unless it is written anew. -/
lemma mem_build_last {front back : List Extension} {ext : Extension} (hext : original = front ++ ext :: back)
    (hback : ext.id ∉ back.map Extension.id) (hhop : ∀ e ∈ negotiated, e.id = ext.id → e.hopByHop = false) :
    ext ∈ buildSendHeaderExtensions original negotiated ids := by
  have hnot : ext.id ∉ hopByHopIds negotiated := by
    intro hmem
    obtain ⟨e, he, hid⟩ := List.mem_map.mp hmem
    obtain ⟨he, htrue⟩ := List.mem_filter.mp he
    exact absurd htrue (Bool.eq_false_iff.mp (hhop e he hid))
  rw [(buildSendHeaderExtensions_perm original negotiated ids).mem_iff, hext, List.filter_append,
    List.filter_cons, if_pos (decide_eq_true hnot)]
  exact mem_insertAll_last _ _ fun h => hback ((List.filter_sublist.map _).subset h)

/-- What the sender writes, where the packet has nothing. -/
lemma mem_build_own {e : NegotiatedHeaderExtension} {payload : Bytes} (he : e ∈ negotiated)
    (hpayload : e.payload ids = some payload)
    (hnot : e.id ∈ hopByHopIds negotiated ∨ e.id ∉ original.map Extension.id) :
    ⟨e.id, payload⟩ ∈ buildSendHeaderExtensions original negotiated ids := by
  rw [(buildSendHeaderExtensions_perm original negotiated ids).mem_iff]
  refine mem_insertAll_of_notMem (mem_ownExtensions he hpayload) fun hmem => ?_
  obtain ⟨ext, hext, hid⟩ := List.mem_map.mp hmem
  obtain ⟨hext, hfilter⟩ := List.mem_filter.mp hext
  obtain hhop | horiginal := hnot
  · exact of_decide_eq_true hfilter (by rw [hid]; exact hhop)
  · exact horiginal (List.mem_map.mpr ⟨ext, hext, hid⟩)

section Negotiated

variable (hids : (negotiated.map (·.id)).Nodup)

include hids

lemma eq_of_id {e e' : NegotiatedHeaderExtension} (he : e ∈ negotiated) (he' : e' ∈ negotiated) (h : e.id = e'.id) :
    e = e' := List.inj_on_of_nodup_map hids he he' h

lemma find?_id {e : NegotiatedHeaderExtension} (he : e ∈ negotiated) :
    negotiated.find? (fun e' => e'.id = e.id) = some e := by
  cases hfind : negotiated.find? fun e' => e'.id = e.id with
  | none => exact absurd (List.find?_eq_none.mp hfind e he) (by simp)
  | some e' =>
    have hid : e'.id = e.id := by simpa using List.find?_some hfind
    rw [eq_of_id hids (List.mem_of_find?_eq_some hfind) he hid]

lemma nodup_build (original : List Extension) (ids : SendStreamIds) :
    ((buildSendHeaderExtensions original negotiated ids).map Extension.id).Nodup := by
  rw [((buildSendHeaderExtensions_perm original negotiated ids).map Extension.id).nodup_iff]
  refine nodup_insertAll ?_ _
  rw [map_id_ownExtensions]
  exact (List.filter_sublist.map _).nodup hids

/-- The ids of the extensions go up. -/
lemma pairwise_build (original : List Extension) (ids : SendStreamIds) :
    ((buildSendHeaderExtensions original negotiated ids).map Extension.id).Pairwise (· < ·) := by
  have hsorted : ((buildSendHeaderExtensions original negotiated ids).map Extension.id).Pairwise (· ≤ ·) := by
    rw [List.pairwise_map]
    refine (List.pairwise_mergeSort ?_ ?_ _).imp of_decide_eq_true
    · intro a b c hab hbc
      exact decide_eq_true ((of_decide_eq_true hab).trans (of_decide_eq_true hbc))
    · intro a b
      rw [Bool.or_eq_true, decide_eq_true_eq, decide_eq_true_eq]
      exact le_total a.id b.id
  exact (hsorted.and (nodup_build hids original ids)).imp fun h => lt_of_le_of_ne h.1 h.2

end Negotiated

/-! ## Stamping -/

/-- An extension that gets a transport-wide number. -/
def isTransportWide (negotiated : List NegotiatedHeaderExtension) (ext : Extension) : Bool :=
  (negotiated.find? fun e => e.id = ext.id).any fun e => e.uri = .transportWideCC

variable {ntpTimestamp : ℕ} {t : TransportWideSequence}

lemma stampExtension_id (negotiated : List NegotiatedHeaderExtension) (ntpTimestamp : ℕ)
    (t : TransportWideSequence) (ext : Extension) :
    (stampExtension negotiated ntpTimestamp t ext).2.id = ext.id := by
  rw [stampExtension]
  cases negotiated.find? fun e => e.id = ext.id with
  | none => rfl
  | some e =>
    dsimp only
    split_ifs <;> rfl

lemma map_id_stamp (negotiated : List NegotiatedHeaderExtension) (ntpTimestamp : ℕ) (t : TransportWideSequence)
    (l : List Extension) :
    (stampHopByHopExtensions negotiated ntpTimestamp t l).2.map Extension.id = l.map Extension.id := by
  induction l generalizing t with
  | nil => rfl
  | cons ext l ih =>
    rw [stampHopByHopExtensions]
    dsimp only
    rw [List.map_cons, List.map_cons, ih, stampExtension_id]

/-- An extension on its own. -/
lemma mem_stamp {l : List Extension} {ext ext' : Extension} (h : ext ∈ l)
    (hstamp : ∀ t : TransportWideSequence, (stampExtension negotiated ntpTimestamp t ext).2 = ext') :
    ext' ∈ (stampHopByHopExtensions negotiated ntpTimestamp t l).2 := by
  induction l generalizing t with
  | nil => cases h
  | cons first l ih =>
    rw [stampHopByHopExtensions]
    dsimp only
    obtain rfl | hl := List.mem_cons.mp h
    · rw [hstamp]
      exact List.mem_cons_self
    · exact List.mem_cons_of_mem _ (ih hl)

/-- The numbers are allocated one after the other. -/
lemma stamp_transportWide (negotiated : List NegotiatedHeaderExtension) (ntpTimestamp : ℕ)
    (t : TransportWideSequence) (l : List Extension) :
    (stampHopByHopExtensions negotiated ntpTimestamp t l).1 =
        TransportWideSequence.allocate^[l.countP (isTransportWide negotiated)] t ∧
      ((stampHopByHopExtensions negotiated ntpTimestamp t l).2.filter (isTransportWide negotiated)).map
          Extension.payload =
        (List.range (l.countP (isTransportWide negotiated))).map fun i =>
          serializeTransportWideCC (TransportWideSequence.allocate^[i + 1] t).transportSequenceNumber := by
  induction l generalizing t with
  | nil => exact ⟨rfl, rfl⟩
  | cons ext l ih =>
    have hkind : isTransportWide negotiated (stampExtension negotiated ntpTimestamp t ext).2 =
        isTransportWide negotiated ext := by
      rw [isTransportWide, stampExtension_id, isTransportWide]
    rw [stampHopByHopExtensions]
    dsimp only
    cases hwide : isTransportWide negotiated ext with
    | false =>
      have hsame : (stampExtension negotiated ntpTimestamp t ext).1 = t := by
        rw [isTransportWide] at hwide
        rw [stampExtension]
        cases hfind : negotiated.find? fun e => e.id = ext.id with
        | none => rfl
        | some e =>
          rw [hfind, Option.any_some, decide_eq_false_iff_not] at hwide
          dsimp only
          rw [if_neg hwide]
          split_ifs <;> rfl
      rw [hsame, List.countP_cons_of_neg (by rw [hwide]; exact nofun), List.filter_cons_of_neg
        (by rw [hkind, hwide]; exact nofun)]
      exact ih t
    | true =>
      have hstamp : stampExtension negotiated ntpTimestamp t ext =
          (t.allocate, ⟨ext.id, serializeTransportWideCC t.allocate.transportSequenceNumber⟩) := by
        rw [isTransportWide] at hwide
        rw [stampExtension]
        cases hfind : negotiated.find? fun e => e.id = ext.id with
        | none =>
          rw [hfind] at hwide
          cases hwide
        | some e =>
          rw [hfind, Option.any_some, decide_eq_true_eq] at hwide
          dsimp only
          rw [if_pos hwide]
      obtain ⟨hfirst, hsecond⟩ := ih t.allocate
      rw [List.countP_cons_of_pos hwide, List.filter_cons_of_pos (hkind.trans hwide), List.map_cons,
        List.range_succ_eq_map, List.map_cons, List.map_map, hstamp]
      dsimp only
      rw [hfirst, hsecond]
      exact ⟨(Function.iterate_succ_apply _ _ _).symm, rfl⟩

lemma transportWide_of_mem (hids : (negotiated.map (·.id)).Nodup) {e : NegotiatedHeaderExtension}
    (he : e ∈ negotiated) (huri : e.uri = .transportWideCC) (payload : Bytes) :
    isTransportWide negotiated ⟨e.id, payload⟩ = true := by
  rw [isTransportWide, find?_id hids he]
  exact decide_eq_true huri

lemma placeholder_mem_build (original : List Extension) (ids : SendStreamIds) {e : NegotiatedHeaderExtension}
    (he : e ∈ negotiated) (huri : e.uri = .transportWideCC) :
    ⟨e.id, serializeTransportWideCC 0⟩ ∈ buildSendHeaderExtensions original negotiated ids := by
  refine mem_build_own he (by rw [NegotiatedHeaderExtension.payload, huri]) (.inl (mem_hopByHopIds he ?_))
  exact decide_eq_true (.inl huri)

/-- One number for each extension that has been negotiated for them. -/
lemma countP_build (hids : (negotiated.map (·.id)).Nodup) (original : List Extension) (ids : SendStreamIds) :
    (buildSendHeaderExtensions original negotiated ids).countP (isTransportWide negotiated) =
      negotiated.countP fun e => e.uri = .transportWideCC := by
  have hperm : (((buildSendHeaderExtensions original negotiated ids).filter
      (isTransportWide negotiated)).map Extension.id).Perm
        ((negotiated.filter fun e => e.uri = .transportWideCC).map (·.id)) := by
    refine (List.perm_ext_iff_of_nodup ((List.filter_sublist.map _).nodup (nodup_build hids original ids))
      ((List.filter_sublist.map _).nodup hids)).mpr fun id => ?_
    constructor
    · intro hid
      obtain ⟨ext, hext, rfl⟩ := List.mem_map.mp hid
      obtain ⟨-, hwide⟩ := List.mem_filter.mp hext
      rw [isTransportWide] at hwide
      cases hfind : negotiated.find? fun e => e.id = ext.id with
      | none =>
        rw [hfind] at hwide
        cases hwide
      | some e =>
        rw [hfind] at hwide
        have hid : e.id = ext.id := by simpa using List.find?_some hfind
        exact List.mem_map.mpr ⟨e, List.mem_filter.mpr ⟨List.mem_of_find?_eq_some hfind, hwide⟩, hid⟩
    · intro hid
      obtain ⟨e, he, rfl⟩ := List.mem_map.mp hid
      obtain ⟨he, huri⟩ := List.mem_filter.mp he
      have huri' : e.uri = .transportWideCC := of_decide_eq_true huri
      exact List.mem_map.mpr ⟨_, List.mem_filter.mpr ⟨placeholder_mem_build original ids he huri',
        transportWide_of_mem hids he huri' _⟩, rfl⟩
  have hlength := hperm.length_eq
  rw [List.length_map, List.length_map] at hlength
  rw [List.countP_eq_length_filter, List.countP_eq_length_filter, hlength]

/-! ## What goes out -/

/-- **The extensions that go out**, and the numbers of the transport behind them. -/
structure SentExtensions (original : List Extension) (negotiated : List NegotiatedHeaderExtension)
    (ids : SendStreamIds) (ntpTimestamp : ℕ) (t : TransportWideSequence)
    (result : TransportWideSequence × List Extension) : Prop where
  /-- Each id is there at most once, and they go up. -/
  ascending : (result.2.map Extension.id).Pairwise (· < ·)
  /-- The identifiers of the sender, where the packet had nothing. -/
  own : ∀ e ∈ negotiated, ∀ text : String, ids.text e.uri = some text → text ≠ "" →
    e.id ∉ original.map Extension.id → ⟨e.id, Js.encodeUtf8 text⟩ ∈ result.2
  /-- The time of sending, whatever the packet had. -/
  sendTime : ∀ e ∈ negotiated, e.uri = .absSendTime → ⟨e.id, serializeAbsSendTime ntpTimestamp⟩ ∈ result.2
  /-- A number of the transport, whatever the packet had. -/
  transportWide : ∀ e ∈ negotiated, e.uri = .transportWideCC →
    ∃ payload : Bytes, ⟨e.id, payload⟩ ∈ result.2.filter (isTransportWide negotiated)
  /-- These are the numbers that come next. -/
  numbers : (result.2.filter (isTransportWide negotiated)).map Extension.payload =
    (List.range (negotiated.countP fun e => e.uri = .transportWideCC)).map fun i =>
      serializeTransportWideCC (TransportWideSequence.allocate^[i + 1] t).transportSequenceNumber
  /-- No other number is used up. -/
  allocated : result.1 =
    TransportWideSequence.allocate^[negotiated.countP fun e => e.uri = .transportWideCC] t
  /-- The last extension of the packet under an id at which the sender writes nothing. -/
  kept : ∀ (front back : List Extension) (ext : Extension), original = front ++ ext :: back →
    ext.id ∉ back.map Extension.id → (∀ e ∈ negotiated, e.id = ext.id → e.payload ids = none) → ext ∈ result.2

lemma stampExtension_of_not_hopByHop {ext : Extension}
    (h : ∀ e ∈ negotiated, e.id = ext.id → e.hopByHop = false) (t : TransportWideSequence) :
    (stampExtension negotiated ntpTimestamp t ext).2 = ext := by
  rw [stampExtension]
  cases hfind : negotiated.find? fun e => e.id = ext.id with
  | none => rfl
  | some e =>
    have hid : e.id = ext.id := by simpa using List.find?_some hfind
    have hhop := of_decide_eq_false (h e (List.mem_of_find?_eq_some hfind) hid)
    rw [not_or] at hhop
    dsimp only
    rw [if_neg hhop.1, if_neg hhop.2]

theorem stamp_build (original : List Extension) (negotiated : List NegotiatedHeaderExtension) (ids : SendStreamIds)
    (ntpTimestamp : ℕ) (t : TransportWideSequence) (hids : (negotiated.map (·.id)).Nodup) :
    SentExtensions original negotiated ids ntpTimestamp t (stampHopByHopExtensions negotiated ntpTimestamp t
      (buildSendHeaderExtensions original negotiated ids)) := by
  obtain ⟨hallocated, hnumbers⟩ := stamp_transportWide negotiated ntpTimestamp t
    (buildSendHeaderExtensions original negotiated ids)
  rw [countP_build hids] at hallocated hnumbers
  refine ⟨?_, ?_, ?_, ?_, hnumbers, hallocated, ?_⟩
  · rw [map_id_stamp]
    exact pairwise_build hids original ids
  · intro e he text htext hne hnot
    refine mem_stamp (mem_build_own he (payload_of_text htext hne) (.inr hnot))
      (stampExtension_of_not_hopByHop fun e' he' hid => ?_)
    rw [eq_of_id hids he' he hid]
    exact not_hopByHop_of_text htext
  · intro e he huri
    have hown : e.payload ids = some (serializeAbsSendTime 0) := by rw [NegotiatedHeaderExtension.payload, huri]
    refine mem_stamp (mem_build_own he hown (.inl (mem_hopByHopIds he (decide_eq_true (.inr huri))))) fun t => ?_
    rw [stampExtension, find?_id hids he]
    dsimp only
    rw [if_neg (by rw [huri]; exact nofun), if_pos huri]
  · intro e he huri
    have hmem : e.id ∈ ((stampHopByHopExtensions negotiated ntpTimestamp t
        (buildSendHeaderExtensions original negotiated ids)).2).map Extension.id := by
      rw [map_id_stamp]
      exact List.mem_map.mpr ⟨_, placeholder_mem_build original ids he huri, rfl⟩
    obtain ⟨⟨id, payload⟩, hext, rfl⟩ := List.mem_map.mp hmem
    exact ⟨payload, List.mem_filter.mpr ⟨hext, transportWide_of_mem hids he huri payload⟩⟩
  · intro front back ext hext hback hnone
    have hhop : ∀ e ∈ negotiated, e.id = ext.id → e.hopByHop = false := by
      intro e he hid
      have hpayload := hnone e he hid
      obtain ⟨id, uri⟩ := e
      cases uri <;> first | rfl | cases hpayload
    exact mem_stamp (mem_build_last hext hback hhop) (stampExtension_of_not_hopByHop hhop)

/-- A packet that comes from another connection, with a number of its own. -/
theorem stamp_build_forwarded : SentExtensions [⟨3, [7, 7]⟩, ⟨9, [1]⟩]
    [⟨1, .sdesMid⟩, ⟨3, .transportWideCC⟩] { mid := some "0" } 0 {}
    (stampHopByHopExtensions [⟨1, .sdesMid⟩, ⟨3, .transportWideCC⟩] 0 {} (buildSendHeaderExtensions
      [⟨3, [7, 7]⟩, ⟨9, [1]⟩] [⟨1, .sdesMid⟩, ⟨3, .transportWideCC⟩] { mid := some "0" })) :=
  stamp_build _ _ _ _ _ (by decide)

/-- A packet with the id of the sender's MID and two extensions with one id, where two ids have been negotiated for
the numbers of the transport. -/
theorem not_own_not_kept_not_one :
    let original : List Extension := [⟨1, [7]⟩, ⟨9, [1]⟩, ⟨9, [2]⟩]
    let negotiated : List NegotiatedHeaderExtension := [⟨1, .sdesMid⟩, ⟨3, .transportWideCC⟩, ⟨4, .transportWideCC⟩]
    let result := stampHopByHopExtensions negotiated 0 {}
      (buildSendHeaderExtensions original negotiated { mid := some "0" })
    (negotiated.map (·.id)).Nodup ∧ ⟨1, Js.encodeUtf8 "0"⟩ ∉ result.2 ∧ ⟨9, [1]⟩ ∉ result.2 ∧
      result.1 ≠ TransportWideSequence.allocate {} := by
  intro original negotiated result
  have hids : (negotiated.map (·.id)).Nodup := by decide
  have hnodup : (result.2.map Extension.id).Nodup := by
    rw [map_id_stamp]
    exact nodup_build hids original _
  have hmid : ⟨1, [7]⟩ ∈ result.2 :=
    mem_stamp (mem_build_last (show original = [] ++ ⟨1, [7]⟩ :: [⟨9, [1]⟩, ⟨9, [2]⟩] from rfl)
      (by decide) (by decide)) (stampExtension_of_not_hopByHop (by decide))
  have hlast : ⟨9, [2]⟩ ∈ result.2 :=
    mem_stamp (mem_build_last (show original = [⟨1, [7]⟩, ⟨9, [1]⟩] ++ ⟨9, [2]⟩ :: [] from rfl)
      (by decide) (by decide)) (stampExtension_of_not_hopByHop (by decide))
  have hcount := (stamp_transportWide negotiated 0 {}
    (buildSendHeaderExtensions original negotiated { mid := some "0" })).1
  rw [countP_build hids] at hcount
  refine ⟨hids, fun h => ?_, fun h => ?_, ?_⟩
  · exact absurd (List.inj_on_of_nodup_map hnodup h hmid rfl) (by decide +kernel)
  · exact absurd (List.inj_on_of_nodup_map hnodup h hlast rfl) (by decide)
  · rw [show result.1 = _ from hcount]
    decide

end Werift.Rtp
