import Werift.Lib.Blocks
import Werift.Lib.Queue
import Werift.Sctp.Outbound
import Werift.Sctp.Received

/-!
# SACKs: what the receiver reports and what the sender reads

`sendSack` compresses `sackMisOrdered` into gap blocks.  It goes through the set in the order of the
default sort, and the offset of a TSN is its signed difference from `lastReceivedTsn`.  The sender
expands the blocks with `expandGaps`, and takes the last TSN that it reads for the highest one.

Without a wrap between `lastReceivedTsn` and the set, the blocks are the `Blocks.compress` of the
offsets (`sackGaps_eq_compress`); with one, an offset is negative and the SACK cannot be serialised
(`lt_of_gaps_nonneg`).  `sendSack_agrees_iff` puts the two together.
-/

namespace Werift.Sctp

open Js Blocks Queue Sender

/-- The offset `pos` of a TSN in `sendSack`. -/
def gapOffset (lastReceivedTsn tsn : ℤ) : ℤ := Js.rem (tsn - lastReceivedTsn) SCTP_TSN_MODULO

/-- The callback of `sendSack` for one TSN: `gaps` and `gapNext` after it. -/
def addToGaps (lastReceivedTsn : ℤ) (st : List (ℤ × ℤ) × Option ℤ) (tsn : ℤ) :
    List (ℤ × ℤ) × Option ℤ :=
  let pos := gapOffset lastReceivedTsn tsn
  (if st.2 = some tsn then
      st.1.dropLast ++ (st.1.getLast?.map fun gap => (gap.1, pos)).toList
    else st.1 ++ [(pos, pos)],
    some (tsnPlusOne tsn))

/-- The variables `gaps` and `gapNext` after some TSNs. -/
def gapsOf (lastReceivedTsn : ℤ) (tsns : List ℤ) : List (ℤ × ℤ) × Option ℤ :=
  tsns.foldl (addToGaps lastReceivedTsn) ([], none)

/-- The SACK that `sendSack` builds. -/
def sackOf (s : ReceivedTsns) (advertisedRwnd : ℤ) : SackChunk where
  gaps := (gapsOf s.lastReceivedTsn (defaultSort s.sackMisOrdered)).1
  duplicates := s.sackDuplicates
  cumulativeTsn := s.lastReceivedTsn
  advertisedRwnd := max 0 advertisedRwnd

/-- `sendSack()` when a SACK is needed: the bytes of the chunk that is sent.  If they cannot be
written, the exception is caught and nothing is sent. -/
def sendSack (s : ReceivedTsns) (advertisedRwnd : ℤ) : Option (List UInt8) :=
  (sackOf s advertisedRwnd).bytes

/-! ## The gap blocks -/

lemma gapsOf_append_singleton (last : ℤ) (tsns : List ℤ) (tsn : ℤ) :
    gapsOf last (tsns ++ [tsn]) = addToGaps last (gapsOf last tsns) tsn := by
  rw [gapsOf, List.foldl_append]
  rfl

lemma gapOffset_eq {last tsn : ℤ} (h0 : 0 ≤ last) (hl : last < 4294967296) (ht0 : 0 ≤ tsn)
    (ht : tsn < 4294967296) : gapOffset last tsn = tsn - last := by
  unfold gapOffset Js.rem SCTP_TSN_MODULO
  rcases le_or_gt 0 (tsn - last) with h | h
  · rw [Int.tmod_eq_emod_of_nonneg h, Int.emod_eq_of_lt h (by omega)]
  · have hneg : tsn - last = -(last - tsn) := by ring
    rw [hneg, Int.neg_tmod, Int.tmod_eq_emod_of_nonneg (by omega),
      Int.emod_eq_of_lt (by omega) (by omega)]

/-- Without a wrap the TSN that `gapNext` announces is the next number. -/
lemma tsnPlusOne_eq_iff {tsn prev : ℤ} (hp0 : 0 ≤ prev) (hp : prev < 4294967296) (ht0 : 0 < tsn)
    (ht : tsn < 4294967296) : tsnPlusOne prev = tsn ↔ tsn = prev + 1 := by
  unfold tsnPlusOne Js.rem SCTP_TSN_MODULO
  rw [Int.tmod_eq_emod_of_nonneg (by omega)]
  omega

/-- **Without a wrap** the gap blocks are the blocks of the offsets. -/
lemma gapsOf_eq_compress {last : ℤ} {tsns : List ℤ} (h0 : 0 ≤ last)
    (h : ∀ tsn ∈ tsns, last < tsn ∧ tsn < 4294967296) :
    gapsOf last tsns = (compress (tsns.map (· - last)), tsns.getLast?.map tsnPlusOne) := by
  induction tsns using List.reverseRecOn with
  | nil => rfl
  | append_singleton tsns tsn ih =>
    obtain ⟨hlt, htop⟩ := h tsn (by simp)
    have hih := ih fun t ht => h t (List.mem_append_left _ ht)
    have hpos := gapOffset_eq h0 (by omega) (by omega) htop
    rw [gapsOf_append_singleton, hih, addToGaps, List.map_append, List.map_singleton,
      compress_append_singleton, extend]
    simp only [List.getLast?_append, List.getLast?_singleton, Option.some_or, Option.map_some, hpos,
      Prod.mk.injEq, and_true]
    cases tsns using List.reverseRecOn with
    | nil => simp [compress]
    | append_singleton tsns prev =>
      obtain ⟨hplt, hptop⟩ := h prev (by simp)
      obtain ⟨init, a, heq⟩ := compress_eq_append (l := tsns.map (· - last)) (p := prev - last)
      rw [List.map_append, List.map_singleton, heq]
      have hnext : tsnPlusOne prev = tsn ↔ tsn = prev + 1 :=
        tsnPlusOne_eq_iff (by omega) hptop (by omega) htop
      by_cases hcont : tsn = prev + 1
      · simp [hcont, hnext.mpr hcont, sub_add_eq_add_sub]
      · have : tsn - last ≠ prev - last + 1 := by omega
        simp [hnext, hcont, this]

/-- `gapNext` follows the last TSN, and the last gap block ends with its offset. -/
lemma gapsOf_last (last : ℤ) (tsns : List ℤ) (tsn : ℤ) :
    (gapsOf last (tsns ++ [tsn])).2 = some (tsnPlusOne tsn) ∧
      ∃ init a, (gapsOf last (tsns ++ [tsn])).1 = init ++ [(a, gapOffset last tsn)] := by
  refine ⟨by rw [gapsOf_append_singleton]; rfl, ?_⟩
  induction tsns using List.reverseRecOn generalizing tsn with
  | nil => exact ⟨[], gapOffset last tsn, rfl⟩
  | append_singleton tsns prev ih =>
    obtain ⟨init, a, heq⟩ := ih prev
    rw [gapsOf_append_singleton, addToGaps]
    split_ifs
    · exact ⟨init, a, by simp [heq]⟩
    · exact ⟨_, _, rfl⟩

/-- **With a wrap** an end of some gap block is negative. -/
lemma lt_of_gaps_nonneg {last : ℤ} {tsns : List ℤ} (h0 : 0 ≤ last) (hl : last < 4294967296)
    (h : ∀ tsn ∈ tsns, 0 ≤ tsn ∧ tsn < 4294967296 ∧ tsn ≠ last)
    (hgaps : ∀ gap ∈ (gapsOf last tsns).1, 0 ≤ gap.1 ∧ 0 ≤ gap.2) :
    ∀ tsn ∈ tsns, last < tsn := by
  induction tsns using List.reverseRecOn with
  | nil => exact fun tsn ht => absurd ht List.not_mem_nil
  | append_singleton tsns tsn ih =>
    obtain ⟨ht0, ht, hne⟩ := h tsn (by simp)
    obtain ⟨init, a, heq⟩ := (gapsOf_last last tsns tsn).2
    have hlast : (a, gapOffset last tsn) ∈ (gapsOf last (tsns ++ [tsn])).1 := by
      rw [heq]
      exact List.mem_append_right _ (List.mem_singleton_self _)
    have hpos : 0 ≤ gapOffset last tsn := (hgaps _ hlast).2
    rw [gapOffset_eq h0 hl ht0 ht] at hpos
    have hold : ∀ gap ∈ (gapsOf last tsns).1, 0 ≤ gap.1 ∧ 0 ≤ gap.2 := by
      intro gap hgap
      rw [gapsOf_append_singleton, addToGaps] at hgaps
      split_ifs at hgaps with hnext
      · cases tsns using List.reverseRecOn with
        | nil => exact absurd hgap List.not_mem_nil
        | append_singleton tsns prev =>
          obtain ⟨hnext', init', a', heq'⟩ := gapsOf_last last tsns prev
          obtain ⟨hp0, hp, hpne⟩ := h prev (by simp)
          rw [heq'] at hgaps hgap
          simp only [List.dropLast_concat, List.getLast?_concat, Option.map_some,
            Option.toList_some] at hgaps
          rcases List.mem_append.mp hgap with hin | hin
          · exact hgaps gap (List.mem_append_left _ hin)
          · -- the end that has been overwritten belongs to the TSN before
            rw [List.mem_singleton.mp hin]
            refine ⟨(hgaps _ (List.mem_append_right _ (List.mem_singleton_self _))).1, ?_⟩
            dsimp only
            rw [gapOffset_eq h0 hl hp0 hp]
            rw [hnext', Option.some.injEq] at hnext
            rw [(tsnPlusOne_eq_iff hp0 hp (by omega) ht)] at hnext
            omega
      · exact hgaps gap (List.mem_append_left _ hgap)
    intro t hmem
    rcases List.mem_append.mp hmem with hin | hin
    · exact ih (fun t ht => h t (List.mem_append_left _ ht)) hold t hin
    · rw [List.mem_singleton.mp hin]
      omega

/-- Expanding the blocks of TSNs beyond `last` gives the TSNs back. -/
lemma expandGaps_gapsOf {last : ℤ} {tsns : List ℤ} (h0 : 0 ≤ last)
    (h : ∀ tsn ∈ tsns, last < tsn ∧ tsn < 4294967296) :
    expandGaps last (gapsOf last tsns).1 = tsns := by
  have hexpand : ∀ gaps : List (ℤ × ℤ), expandGaps last gaps =
      (expand gaps).map fun p => Js.rem (last + p) SCTP_TSN_MODULO := by
    intro gaps
    simp only [expandGaps, expand, elements, List.map_flatMap, List.map_map, Function.comp_def]
  rw [hexpand, gapsOf_eq_compress h0 h, expand_compress, List.map_map]
  refine (List.map_congr_left fun tsn ht => ?_).trans (List.map_id tsns)
  obtain ⟨hlt, htop⟩ := h tsn ht
  have hsum : last + (tsn - last) = tsn := by ring
  simp only [Function.comp_apply, id_eq, hsum]
  unfold Js.rem SCTP_TSN_MODULO
  rw [Int.tmod_eq_emod_of_nonneg (by omega), Int.emod_eq_of_lt (by omega) htop]

/-! ## When a SACK says what the receiver holds -/

/-- A receiver whose misordered TSNs are within 65535 of `lastReceivedTsn`.  The duplicates come
from 32-bit fields, and the window does not exceed its field. -/
structure SackState (s : ReceivedTsns) (advertisedRwnd L : ℤ) (beyond : List ℤ) : Prop where
  tracks : Tracks s L beyond
  near : ∀ u ∈ beyond, u ≤ L + 65535
  duplicates : ∀ tsn ∈ s.sackDuplicates, 0 ≤ tsn ∧ tsn < 4294967296
  window : advertisedRwnd < 4294967296

/-- The chunk leaves the queue or is marked as acknowledged by a SACK. -/
def MarkedBy (sack : SackChunk) (queue : List DataChunk) (c : DataChunk) : Prop :=
  c ∈ cumulativelyAcked sack.cumulativeTsn queue ∨
    ∃ d ∈ ackGaps (expandGaps sack.cumulativeTsn sack.gaps)
      (beyondCumulative sack.cumulativeTsn queue), d.tsn = c.tsn ∧ d.acked = true

/-- A queue of chunks with the numbers `num`, in their order and not too far from `L`. -/
structure SentInOrder (queue : List DataChunk) (num : DataChunk → ℤ) (L : ℤ) : Prop where
  tsn : ∀ c ∈ queue, c.tsn = tsnOf (num c)
  nonneg : ∀ c ∈ queue, 0 ≤ num c
  near : ∀ c ∈ queue, |num c - L| < 0x80000000 - 0x10000
  ascending : queue.Pairwise fun c d => num c < num d

/-- A SACK is sent and parsed; its gap blocks are proper and expand to `sackMisOrdered`; and in
every queue of the sender it acknowledges exactly the chunks that the receiver holds. -/
def SackAgrees (s : ReceivedTsns) (advertisedRwnd L : ℤ) (beyond : List ℤ) : Prop :=
  ∃ out sack, sendSack s advertisedRwnd = some out ∧ SackChunk.ofBytes out = some sack ∧
    IsProper sack.gaps ∧
    (∀ tsn, tsn ∈ expandGaps sack.cumulativeTsn sack.gaps ↔ tsn ∈ s.sackMisOrdered) ∧
    ∀ queue num, SentInOrder queue num L → ∀ c ∈ queue, c.acked = false →
      (MarkedBy sack queue c ↔ num c ≤ L ∨ num c ∈ beyond)

/-- No TSN of the set has wrapped, their decimal texts are in the order of the numbers, and the
chunk with its gap blocks is not too long. -/
structure SackFits (s : ReceivedTsns) : Prop where
  started : 0 ≤ s.lastReceivedTsn
  noWrap : ∀ tsn ∈ s.sackMisOrdered, s.lastReceivedTsn < tsn
  inOrder : ∀ x ∈ s.sackMisOrdered, ∀ y ∈ s.sackMisOrdered, x < y → decimalText x < decimalText y
  length : 16 + 4 * ((s.sackMisOrdered.filter fun tsn =>
    tsnMinusOne tsn ∉ s.sackMisOrdered).length + s.sackDuplicates.length) < 65536

namespace SackState

variable {s : ReceivedTsns} {advertisedRwnd L : ℤ} {beyond : List ℤ}

/-- The numbers of TSNs that have not wrapped differ as the TSNs do. -/
lemma sub_eq (h : SackState s advertisedRwnd L beyond) (h0 : 0 ≤ s.lastReceivedTsn)
    (hw : ∀ tsn ∈ s.sackMisOrdered, s.lastReceivedTsn < tsn) {u : ℤ} (hu : u ∈ beyond) :
    tsnOf u - s.lastReceivedTsn = u - L := by
  have hmem : tsnOf u ∈ s.sackMisOrdered := by
    rw [h.tracks.misOrdered]
    exact List.mem_map_of_mem hu
  have hlt := hw _ hmem
  have hnear := h.near u hu
  have hgt := (h.tracks.window u hu).1
  have hbase := h.tracks.base
  have hlast := h.tracks.last
  have hL : L ≠ -1 := by
    rintro rfl
    rw [hlast] at h0
    exact absurd h0 (by decide)
  rw [hlast] at hlt ⊢
  unfold tsnOf SerialNumber.wire at *
  rw [Int.tmod_eq_emod_of_nonneg (by omega), Int.tmod_eq_emod_of_nonneg (by omega)] at *
  omega

/-- The default sort of TSNs is their order exactly if the texts of the TSNs are in order. -/
lemma pairwise_defaultSort_iff (h : SackState s advertisedRwnd L beyond) :
    (defaultSort s.sackMisOrdered).Pairwise (· < ·) ↔ ∀ x ∈ s.sackMisOrdered,
      ∀ y ∈ s.sackMisOrdered, x < y → decimalText x < decimalText y := by
  have hnd : s.sackMisOrdered.Nodup := by
    rw [h.tracks.misOrdered]
    exact h.tracks.nodup.map_on fun u hu v hv =>
      tsnOf_injOn h.tracks.base (h.tracks.window u hu) (h.tracks.window v hv)
  have htexts := pairwise_defaultSort hnd
  constructor
  · intro hlt x hx y hy hxy
    by_contra hge
    -- both orders put the elements of the sorted list in the same places
    have hboth := hlt.and htexts
    have hsymm : ∀ a ∈ defaultSort s.sackMisOrdered, ∀ b ∈ defaultSort s.sackMisOrdered,
        a ≠ b → (a < b ↔ decimalText a < decimalText b) := by
      refine List.Pairwise.forall_of_forall_of_flip (fun a _ hne => absurd rfl hne) ?_ ?_
      · exact hboth.imp fun {a b} hab _ => iff_of_true hab.1 hab.2
      · exact hboth.imp fun {a b} hab _ => iff_of_false (by omega) (lt_asymm hab.2)
    exact hge ((hsymm x (mem_defaultSort.mpr hx) y (mem_defaultSort.mpr hy) (by omega)).mp hxy)
  · intro hord
    refine htexts.imp_of_mem fun {a b} ha hb hab => ?_
    have ha' := mem_defaultSort.mp ha
    have hb' := mem_defaultSort.mp hb
    rcases lt_trichotomy a b with hlt | heq | hgt
    · exact hlt
    · rw [heq] at hab
      exact absurd hab (lt_irrefl _)
    · exact absurd (hord b hb' a ha' hgt) (lt_asymm hab)

end SackState

/-! ## The queue of the sender -/

namespace SentInOrder

variable {queue : List DataChunk} {num : DataChunk → ℤ} {L : ℤ}

/-- The chunks of the queue have different TSNs. -/
lemma eq_of_tsn_eq (h : SentInOrder queue num L) {c d : DataChunk} (hc : c ∈ queue) (hd : d ∈ queue)
    (htsn : c.tsn = d.tsn) : c = d := by
  have hnum : num c = num d := by
    rw [h.tsn c hc, h.tsn d hd] at htsn
    have hc0 := h.nonneg c hc
    have hd0 := h.nonneg d hd
    have hcL := abs_lt.mp (h.near c hc)
    have hdL := abs_lt.mp (h.near d hd)
    exact (tsnOf_inj (by omega) (by omega) (by rw [abs_lt]; omega)).mp htsn
  by_contra hne
  have hlt : ∀ a ∈ queue, ∀ b ∈ queue, a ≠ b → num a ≠ num b := by
    refine List.Pairwise.forall_of_forall_of_flip (fun a _ hne => absurd rfl hne) ?_ ?_
    · exact h.ascending.imp fun {a b} hab _ => by omega
    · exact h.ascending.imp fun {a b} hab _ => by omega
  exact hlt c hc d hd hne hnum

/-- A part of the queue, in the same order. -/
lemma sublist (h : SentInOrder queue num L) {part : List DataChunk} (hp : part.Sublist queue) :
    SentInOrder part num L :=
  ⟨fun c hc => h.tsn c (hp.subset hc), fun c hc => h.nonneg c (hp.subset hc),
    fun c hc => h.near c (hp.subset hc), h.ascending.sublist hp⟩

/-- The SACK acknowledges the chunks up to `L` cumulatively. -/
lemma cumulative_iff (h : SentInOrder queue num L) (hL : -1 ≤ L) {c : DataChunk} (hc : c ∈ queue) :
    uint32Gte (tsnOf L) c.tsn = true ↔ num c ≤ L := by
  have hc0 := h.nonneg c hc
  have hcL := abs_lt.mp (h.near c hc)
  rw [h.tsn c hc]
  exact uint32Gte_tsnOf hL (by omega) (by rw [abs_lt]; omega)

lemma cumulative_pairwise (h : SentInOrder queue num L) (hL : -1 ≤ L) :
    queue.Pairwise fun c d =>
      uint32Gte (tsnOf L) d.tsn = true → uint32Gte (tsnOf L) c.tsn = true := by
  refine h.ascending.imp_of_mem fun {c d} hc hd hlt hgte => ?_
  rw [h.cumulative_iff hL hd] at hgte
  exact (h.cumulative_iff hL hc).mpr (by omega)

lemma mem_cumulativelyAcked (h : SentInOrder queue num L) (hL : -1 ≤ L) {c : DataChunk}
    (hc : c ∈ queue) : c ∈ cumulativelyAcked (tsnOf L) queue ↔ num c ≤ L := by
  rw [cumulativelyAcked, takeWhile_eq_filter (h.cumulative_pairwise hL), List.mem_filter,
    h.cumulative_iff hL hc]
  exact and_iff_right hc

lemma mem_beyondCumulative (h : SentInOrder queue num L) (hL : -1 ≤ L) {c : DataChunk}
    (hc : c ∈ queue) : c ∈ beyondCumulative (tsnOf L) queue ↔ L < num c := by
  rw [beyondCumulative, dropWhile_eq_filter (h.cumulative_pairwise hL), List.mem_filter,
    Bool.not_eq_true', ← Bool.not_eq_true, h.cumulative_iff hL hc, not_le]
  exact and_iff_right hc

/-- The loop over the gap blocks reaches the chunks up to the highest number `m`. -/
lemma mem_takeWhile_notPast (h : SentInOrder queue num L) {m : ℤ} (hm : L ≤ m)
    (hmL : m ≤ L + 65535) (hL : -1 ≤ L) {c : DataChunk} (hc : c ∈ queue) (hcm : num c ≤ m) :
    c ∈ queue.takeWhile (notPast (some (tsnOf m))) := by
  have hpast : ∀ d ∈ queue, notPast (some (tsnOf m)) d = true ↔ num d ≤ m := by
    intro d hd
    have hd0 := h.nonneg d hd
    have hdL := abs_lt.mp (h.near d hd)
    rw [notPast, Bool.not_eq_true', ← Bool.not_eq_true, h.tsn d hd,
      uint32Gt_tsnOf (by omega) (by omega) (by rw [abs_lt]; omega), not_lt]
  have hpair : queue.Pairwise fun c d =>
      notPast (some (tsnOf m)) d = true → notPast (some (tsnOf m)) c = true := by
    refine h.ascending.imp_of_mem fun {c d} hc hd hlt hgte => ?_
    rw [hpast d hd] at hgte
    exact (hpast c hc).mpr (by omega)
  rw [takeWhile_eq_filter hpair, List.mem_filter]
  exact ⟨hc, (hpast c hc).mpr hcm⟩

end SentInOrder

/-- Marking a chunk does not change its TSN. -/
lemma mem_ackGaps {seen : List ℤ} {queue : List DataChunk} {d : DataChunk}
    (h : d ∈ ackGaps seen queue) : ∃ c ∈ queue, c.tsn = d.tsn ∧
      (d.acked = true → c.acked = true ∨ c.tsn ∈ seen) := by
  rcases List.mem_append.mp h with hd | hd
  · obtain ⟨c, hc, rfl⟩ := List.mem_map.mp hd
    refine ⟨c, (List.takeWhile_sublist _).subset hc, ?_⟩
    by_cases hseen : (seen.contains c.tsn && !c.acked) = true
    · rw [if_pos hseen]
      rw [Bool.and_eq_true, List.contains_iff_mem] at hseen
      exact ⟨rfl, fun _ => Or.inr hseen.1⟩
    · rw [if_neg hseen]
      exact ⟨rfl, Or.inl⟩
  · exact ⟨d, (List.dropWhile_sublist _).subset hd, rfl, Or.inl⟩

/-- **What a SACK acknowledges.**  If the gap blocks expand to the misordered TSNs in their order, a
chunk is acknowledged exactly if the receiver holds it. -/
lemma SackState.markedBy_iff {s : ReceivedTsns} {advertisedRwnd L : ℤ} {beyond : List ℤ}
    (h : SackState s advertisedRwnd L beyond) {sack : SackChunk}
    (hcum : sack.cumulativeTsn = tsnOf L)
    (hmem : ∀ tsn, tsn ∈ expandGaps sack.cumulativeTsn sack.gaps ↔ tsn ∈ s.sackMisOrdered)
    (hlast : ∀ u ∈ beyond, ∃ m ∈ beyond, u ≤ m ∧
      (expandGaps sack.cumulativeTsn sack.gaps).getLast? = some (tsnOf m))
    {queue : List DataChunk} {num : DataChunk → ℤ} (hq : SentInOrder queue num L) {c : DataChunk}
    (hc : c ∈ queue) (hack : c.acked = false) :
    MarkedBy sack queue c ↔ num c ≤ L ∨ num c ∈ beyond := by
  have hL := h.tracks.base
  rw [MarkedBy, hcum]
  rw [hcum] at hmem hlast
  set seen := expandGaps (tsnOf L) sack.gaps
  have hsub := List.dropWhile_sublist (fun c : DataChunk => uint32Gte (tsnOf L) c.tsn) (l := queue)
  have hin : L < num c → (c.tsn ∈ seen ↔ num c ∈ beyond) := by
    intro hlt
    rw [hmem, h.tracks.misOrdered, hq.tsn c hc]
    have hcL := abs_lt.mp (hq.near c hc)
    exact mem_map_tsnOf hL (by omega) h.tracks.window
  constructor
  · rintro (hcu | ⟨d, hd, htsn, hdack⟩)
    · exact Or.inl ((hq.mem_cumulativelyAcked hL hc).mp hcu)
    · obtain ⟨e, he, hetsn, heack⟩ := mem_ackGaps hd
      have heq : e = c := hq.eq_of_tsn_eq (hsub.subset he) hc (hetsn.trans htsn)
      subst heq
      have hlt := (hq.mem_beyondCumulative hL hc).mp he
      refine Or.inr ((hin hlt).mp ?_)
      rcases heack hdack with h1 | h1
      · rw [hack] at h1
        exact absurd h1 Bool.false_ne_true
      · exact h1
  · intro hheld
    by_cases hle : num c ≤ L
    · exact Or.inl ((hq.mem_cumulativelyAcked hL hc).mpr hle)
    · have hlt : L < num c := by omega
      have hbeyond : num c ∈ beyond := hheld.resolve_left hle
      obtain ⟨m, hm, hcm, hget⟩ := hlast _ hbeyond
      have hmL := h.near m hm
      have hrest := (hq.mem_beyondCumulative hL hc).mpr hlt
      have htake : c ∈ (beyondCumulative (tsnOf L) queue).takeWhile (notPast seen.getLast?) := by
        rw [hget]
        exact (hq.sublist hsub).mem_takeWhile_notPast (by omega) hmL hL hrest hcm
      refine Or.inr ⟨{ c with acked := true }, List.mem_append_left _ ?_, rfl, rfl⟩
      refine List.mem_map.mpr ⟨c, htake, ?_⟩
      rw [if_pos]
      rw [Bool.and_eq_true, List.contains_iff_mem]
      exact ⟨(hin hlt).mpr hbeyond, by rw [hack]; rfl⟩

/-! ## The condition -/

/-- The fields of the SACK fit exactly if its length and the offsets do. -/
lemma SackState.isSome_sendSack_iff {s : ReceivedTsns} {advertisedRwnd L : ℤ} {beyond : List ℤ}
    (h : SackState s advertisedRwnd L beyond) : (sendSack s advertisedRwnd).isSome ↔
      0 ≤ s.lastReceivedTsn ∧ (sackOf s advertisedRwnd).length < 65536 ∧
        ∀ gap ∈ (sackOf s advertisedRwnd).gaps,
          (0 ≤ gap.1 ∧ gap.1 < 65536) ∧ 0 ≤ gap.2 ∧ gap.2 < 65536 := by
  have hL := h.tracks.base
  have hlast : s.lastReceivedTsn < 4294967296 := by
    rw [h.tracks.last]
    rcases hL.eq_or_lt with rfl | hL
    · decide
    · exact (tsnOf_mem (by omega)).2
  have hwindow := h.window
  rw [sendSack, SackChunk.isSome_bytes_iff]
  simp only [writeUInt8, writeUInt16BE, writeUInt32BE, isSome_writeUIntBE, SackChunk.isSome_gapBuffer]
  constructor
  · rintro ⟨-, hlen, ⟨hcum, -⟩, -, hgaps, -⟩
    refine ⟨hcum, ?_, hgaps⟩
    have := hlen.2
    norm_num at this
    exact_mod_cast this
  · rintro ⟨hcum, hlen, hgaps⟩
    refine ⟨⟨le_rfl, by norm_num [sackOf]⟩, ⟨by omega, ?_⟩, ⟨hcum, ?_⟩, ⟨le_max_left _ _, ?_⟩, hgaps, fun tsn ht => ?_⟩
    · norm_num
      exact_mod_cast hlen
    · norm_num
      exact hlast
    · norm_num
      change max 0 advertisedRwnd < 4294967296
      exact max_lt (by decide) hwindow
    · have := h.duplicates tsn ht
      norm_num
      exact this

namespace SackState

variable {s : ReceivedTsns} {advertisedRwnd L : ℤ} {beyond : List ℤ}

/-- The TSNs of the set are 32-bit numbers other than `lastReceivedTsn`. -/
lemma mem_bounds (h : SackState s advertisedRwnd L beyond) {tsn : ℤ}
    (ht : tsn ∈ s.sackMisOrdered) :
    0 ≤ tsn ∧ tsn < 4294967296 ∧ tsn ≠ s.lastReceivedTsn := by
  rw [h.tracks.misOrdered] at ht
  obtain ⟨u, hu, rfl⟩ := List.mem_map.mp ht
  have hbase := h.tracks.base
  have hwin := h.tracks.window u hu
  obtain ⟨h0, hlt⟩ := tsnOf_mem (u := u) (by omega)
  refine ⟨h0, hlt, fun heq => ?_⟩
  rw [h.tracks.last, tsnOf_inj (by omega) hbase (by rw [abs_lt]; omega)] at heq
  omega

/-- Without a wrap the offsets of an ascending set have as many blocks as the set. -/
lemma length_gaps (h : SackState s advertisedRwnd L beyond) (h0 : 0 ≤ s.lastReceivedTsn)
    (hw : ∀ tsn ∈ s.sackMisOrdered, s.lastReceivedTsn < tsn)
    (hasc : (defaultSort s.sackMisOrdered).Pairwise (· < ·)) :
    (sackOf s advertisedRwnd).gaps.length =
      (s.sackMisOrdered.filter fun tsn => tsnMinusOne tsn ∉ s.sackMisOrdered).length := by
  set tsns := defaultSort s.sackMisOrdered with htsns
  have hbounds : ∀ tsn ∈ tsns, s.lastReceivedTsn < tsn ∧ tsn < 4294967296 := fun tsn ht =>
    ⟨hw tsn (mem_defaultSort.mp ht), (h.mem_bounds (mem_defaultSort.mp ht)).2.1⟩
  have hasc' : (tsns.map (· - s.lastReceivedTsn)).Pairwise (· < ·) := by
    rw [List.pairwise_map]
    exact hasc.imp fun hab => by omega
  have hgaps : (sackOf s advertisedRwnd).gaps = compress (tsns.map (· - s.lastReceivedTsn)) := by
    change (gapsOf s.lastReceivedTsn tsns).1 = _
    rw [gapsOf_eq_compress h0 hbounds]
  rw [hgaps, length_compress hasc', List.filter_map, List.length_map]
  have hperm := (defaultSort_perm s.sackMisOrdered).filter fun tsn =>
    tsnMinusOne tsn ∉ s.sackMisOrdered
  rw [← hperm.length_eq]
  congr 1
  refine List.filter_congr fun tsn ht => ?_
  obtain ⟨hlt, htop⟩ := hbounds tsn ht
  simp only [Function.comp_apply, List.mem_map, decide_eq_decide]
  rw [tsnMinusOne_of_mem (by omega) htop, not_iff_not]
  constructor
  · rintro ⟨t, htin, heq⟩
    have : t = tsn - 1 := by omega
    exact mem_defaultSort.mp (this ▸ htin)
  · intro hin
    exact ⟨tsn - 1, mem_defaultSort.mpr hin, by omega⟩

/-- What the receiver needs for its SACK to agree. -/
lemma fits_of_agrees (h : SackState s advertisedRwnd L beyond)
    (hagree : SackAgrees s advertisedRwnd L beyond) : SackFits s := by
  obtain ⟨out, sack, hsend, hparse, hproper, -, -⟩ := hagree
  have hsack : sackOf s advertisedRwnd = sack :=
    Option.some.inj ((SackChunk.ofBytes_bytes hsend).symm.trans hparse)
  rw [← hsack] at hproper
  obtain ⟨h0, hlen, hends⟩ := h.isSome_sendSack_iff.mp (Option.isSome_of_eq_some hsend)
  have hlast : s.lastReceivedTsn < 4294967296 := by
    rw [h.tracks.last]
    rcases h.tracks.base.eq_or_lt with rfl | hL
    · decide
    · exact (tsnOf_mem (by omega)).2
  have hw : ∀ tsn ∈ s.sackMisOrdered, s.lastReceivedTsn < tsn := fun tsn ht =>
    lt_of_gaps_nonneg h0 hlast (fun t ht => h.mem_bounds (mem_defaultSort.mp ht))
      (fun gap hgap => ⟨(hends gap hgap).1.1, (hends gap hgap).2.1⟩) tsn (mem_defaultSort.mpr ht)
  have hasc : (defaultSort s.sackMisOrdered).Pairwise (· < ·) := by
    change IsProper (gapsOf s.lastReceivedTsn (defaultSort s.sackMisOrdered)).1 at hproper
    rw [gapsOf_eq_compress h0 fun tsn ht => ⟨hw tsn (mem_defaultSort.mp ht),
      (h.mem_bounds (mem_defaultSort.mp ht)).2.1⟩, isProper_compress_iff, List.pairwise_map] at hproper
    exact hproper.imp fun hab => by omega
  refine ⟨h0, hw, h.pairwise_defaultSort_iff.mp hasc, ?_⟩
  rw [SackChunk.length, h.length_gaps h0 hw hasc] at hlen
  exact hlen

/-- What the receiver needs is enough. -/
lemma agrees_of_fits (h : SackState s advertisedRwnd L beyond) (hfits : SackFits s) :
    SackAgrees s advertisedRwnd L beyond := by
  obtain ⟨h0, hw, hord, hlen⟩ := hfits
  have hasc := h.pairwise_defaultSort_iff.mpr hord
  have hbounds : ∀ tsn ∈ defaultSort s.sackMisOrdered,
      s.lastReceivedTsn < tsn ∧ tsn < 4294967296 := fun tsn ht =>
    ⟨hw tsn (mem_defaultSort.mp ht), (h.mem_bounds (mem_defaultSort.mp ht)).2.1⟩
  have hgaps : (sackOf s advertisedRwnd).gaps =
      compress ((defaultSort s.sackMisOrdered).map (· - s.lastReceivedTsn)) := by
    change (gapsOf s.lastReceivedTsn (defaultSort s.sackMisOrdered)).1 = _
    rw [gapsOf_eq_compress h0 hbounds]
  -- every offset is the distance of a misordered number
  have hoffset : ∀ p ∈ (defaultSort s.sackMisOrdered).map (· - s.lastReceivedTsn),
      0 < p ∧ p < 65536 := by
    intro p hp
    obtain ⟨tsn, ht, rfl⟩ := List.mem_map.mp hp
    have ht' := mem_defaultSort.mp ht
    rw [h.tracks.misOrdered] at ht'
    obtain ⟨u, hu, rfl⟩ := List.mem_map.mp ht'
    have hwin := h.tracks.window u hu
    have hnear := h.near u hu
    rw [h.sub_eq h0 hw hu]
    omega
  have hsome : (sendSack s advertisedRwnd).isSome := by
    refine h.isSome_sendSack_iff.mpr ⟨h0, ?_, fun gap hgap => ?_⟩
    · rw [SackChunk.length, h.length_gaps h0 hw hasc]
      exact hlen
    · rw [hgaps] at hgap
      have h1 := hoffset _ (fst_mem_of_mem_compress hgap)
      have h2 := hoffset _ (snd_mem_of_mem_compress hgap)
      omega
  obtain ⟨out, hout⟩ := Option.isSome_iff_exists.mp hsome
  have hexpand : expandGaps s.lastReceivedTsn (sackOf s advertisedRwnd).gaps =
      defaultSort s.sackMisOrdered := expandGaps_gapsOf h0 hbounds
  have hmem : ∀ tsn, tsn ∈ expandGaps (sackOf s advertisedRwnd).cumulativeTsn
      (sackOf s advertisedRwnd).gaps ↔ tsn ∈ s.sackMisOrdered := by
    intro tsn
    change tsn ∈ expandGaps s.lastReceivedTsn _ ↔ _
    rw [hexpand, mem_defaultSort]
  refine ⟨out, sackOf s advertisedRwnd, hout, SackChunk.ofBytes_bytes hout, ?_, hmem, ?_⟩
  · rw [hgaps, isProper_compress_iff, List.pairwise_map]
    exact hasc.imp fun hab => by omega
  · intro queue num hq c hc hack
    refine h.markedBy_iff h.tracks.last hmem (fun u hu => ?_) hq hc hack
    change ∃ m ∈ beyond, u ≤ m ∧ (expandGaps s.lastReceivedTsn _).getLast? = _
    rw [hexpand]
    -- the last TSN of the ascending list belongs to the highest number
    have htu : tsnOf u ∈ defaultSort s.sackMisOrdered := by
      rw [mem_defaultSort, h.tracks.misOrdered]
      exact List.mem_map_of_mem hu
    obtain ⟨t, ht⟩ : ∃ t, (defaultSort s.sackMisOrdered).getLast? = some t :=
      ⟨_, List.getLast?_eq_some_getLast (List.ne_nil_of_mem htu)⟩
    have htmem := mem_defaultSort.mp (List.mem_of_getLast? ht)
    rw [h.tracks.misOrdered] at htmem
    obtain ⟨m, hm, rfl⟩ := List.mem_map.mp htmem
    refine ⟨m, hm, ?_, ht⟩
    have hle : tsnOf u ≤ tsnOf m := by
      rw [← List.dropLast_append_getLast? _ ht] at hasc htu
      rcases List.mem_append.mp htu with hin | hin
      · exact le_of_lt ((List.pairwise_append.mp hasc).2.2 _ hin _ (List.mem_singleton_self _))
      · rw [List.mem_singleton.mp hin]
    have hu' := h.sub_eq h0 hw hu
    have hm' := h.sub_eq h0 hw hm
    omega

end SackState

/-- **SACK agreement.**  From a receiver whose misordered TSNs are within 65535 of
`lastReceivedTsn`, the SACK says exactly what the receiver holds if and only if it fits. -/
theorem sendSack_agrees_iff {s : ReceivedTsns} {advertisedRwnd L : ℤ} {beyond : List ℤ}
    (h : SackState s advertisedRwnd L beyond) :
    SackAgrees s advertisedRwnd L beyond ↔ SackFits s :=
  ⟨h.fits_of_agrees, h.agrees_of_fits⟩

/-- A receiver that misses `4` and holds `5`, `6` and `8` beyond `3`. -/
theorem sendSack_two_blocks :
    SackAgrees { lastReceivedTsn := 3, sackMisOrdered := [5, 6, 8] } 1000 3 [5, 6, 8] := by
  have h : SackState { lastReceivedTsn := 3, sackMisOrdered := [5, 6, 8] } 1000 3 [5, 6, 8] :=
    ⟨⟨by decide, by decide, by decide, by decide, by decide⟩, by decide, by simp, by decide⟩
  exact (sendSack_agrees_iff h).mpr ⟨by decide, by decide, by decide, by decide⟩

/-- **The blocks are in the order of the texts.**  A receiver that holds `9` and `11` beyond `7`
reports `11` first. -/
theorem sendSack_eleven_before_nine :
    SackState { lastReceivedTsn := 7, sackMisOrdered := [9, 11] } 1000 7 [9, 11] ∧
      ¬ SackAgrees { lastReceivedTsn := 7, sackMisOrdered := [9, 11] } 1000 7 [9, 11] := by
  have h : SackState { lastReceivedTsn := 7, sackMisOrdered := [9, 11] } 1000 7 [9, 11] :=
    ⟨⟨by decide, by decide, by decide, by decide, by decide⟩, by decide, by simp, by decide⟩
  refine ⟨h, ?_⟩
  rintro ⟨out, sack, hsend, hparse, hproper, -, -⟩
  have hsack := Option.some.inj ((SackChunk.ofBytes_bytes hsend).symm.trans hparse)
  have hgaps : sack.gaps = [(4, 4), (2, 2)] := by
    rw [← hsack]
    decide
  have hasc := hproper.ascending
  rw [hgaps] at hasc
  exact absurd hasc (by decide)

end Werift.Sctp
