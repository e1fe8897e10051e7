import Werift.Common.Number
import Werift.Lib.Compaction

/-!
# Probe padding on the receiving side (`webrtc/src/media/rtpReceiver.ts`)

`compactProbePaddingSequence` leaves out the padding packets of an SSRC and numbers its media packets anew.
The packets of a stream have positions, of which a packet carries the lower 16 bits.
-/

namespace Werift.Webrtc

open Compaction

/-- What a received packet is. -/
inductive RtpReceivePacketType
  | media
  | retransmission
  | padding
deriving DecidableEq

/-- The state of one SSRC.  `onTimePaddingExt` is a `Set`: its entries are different. -/
structure ProbePaddingCompactState where
  lastExt : Option ℤ := none
  maxDeliveredMediaExt : Option ℤ := none
  onTimePaddingExt : List ℤ := []
  prunedOnTimeCount : ℕ := 0

/-- The position of the number `seq` that is closest to the last one. -/
def extendRtpSequence (seq : ℤ) (lastExt : Option ℤ) : ℤ :=
  let seq16 := seq % 0x10000
  match lastExt with
  | none => seq16
  | some lastExt =>
    let lastSeq := lastExt % 0x10000
    let roc := (lastExt - lastSeq) / 0x10000
    let delta := seq16 - lastSeq
    let roc := if delta < -0x8000 then roc + 1 else if delta > 0x8000 then roc - 1 else roc
    roc * 0x10000 + seq16

namespace ProbePaddingCompactState

variable (s : ProbePaddingCompactState)

/-- Padding more than `0x10000` below the last packet is counted only. -/
def pruneProbePaddingCompact : ProbePaddingCompactState :=
  match s.lastExt with
  | none => s
  | some lastExt =>
    let horizon := lastExt - 0x10000
    if horizon ≤ 0 then s
    else
      { s with
        onTimePaddingExt := s.onTimePaddingExt.filter (¬ · < horizon)
        prunedOnTimeCount := s.prunedOnTimeCount + s.onTimePaddingExt.countP (· < horizon) }

/-- The number with which a packet is delivered; padding is not. -/
def compactProbePaddingSequence (sequenceNumber : ℤ) (type : RtpReceivePacketType) :
    ProbePaddingCompactState × Option ℤ :=
  let ext := extendRtpSequence sequenceNumber s.lastExt
  let s : ProbePaddingCompactState := { s with lastExt := some ext }
  if type = .padding then
    let late := s.maxDeliveredMediaExt.any (ext ≤ ·)
    let s : ProbePaddingCompactState :=
      if late then s else { s with onTimePaddingExt := s.onTimePaddingExt.insert ext }
    (s.pruneProbePaddingCompact, none)
  else
    let skip := s.prunedOnTimeCount + s.onTimePaddingExt.countP (· < ext)
    let s : ProbePaddingCompactState :=
      { s with maxDeliveredMediaExt := some (s.maxDeliveredMediaExt.elim ext (max · ext)) }
    (s.pruneProbePaddingCompact, some ((ext - skip) % 0x10000))

end ProbePaddingCompactState

/-- A packet that arrives: its position in the stream, and what it is. -/
abbrev ProbeArrival := ℤ × RtpReceivePacketType

/-- The numbers with which the packets of a list are delivered. -/
def deliveredNumbers (s : ProbePaddingCompactState) : List ProbeArrival → List (Option ℤ)
  | [] => []
  | (position, type) :: rest =>
    let (s, number) := s.compactProbePaddingSequence (position % 0x10000) type
    number :: deliveredNumbers s rest

/-- The packets are those of one stream, some of whose positions are padding, and neither reordering nor loss
moves the position by half of the number space. -/
structure WithinHalf (isPadding : ℤ → Bool) (arrivals : List ProbeArrival) : Prop where
  type : ∀ a ∈ arrivals, a.2 = .padding ↔ isPadding a.1 = true
  near : arrivals.IsChain fun a b => |b.1 - a.1| < 0x8000
  behind : arrivals.Pairwise fun a b => a.1 - b.1 < 0x8000

/-! ## The state after some packets -/

variable {isPadding : ℤ → Bool} {c : ℤ} {before after : List ℤ} {s : ProbePaddingCompactState} {x : ℤ}

/-- A position less than half of the number space away from the last one is found. -/
lemma extendRtpSequence_eq {last : ℤ} (hc : 0x10000 ∣ c) (hnear : |x - last| < 0x8000) :
    extendRtpSequence (x % 0x10000) (some (last - c)) = x - c := by
  obtain ⟨hlow, hhigh⟩ := abs_lt.mp hnear
  obtain ⟨k, rfl⟩ := hc
  rw [extendRtpSequence]
  split_ifs <;> omega

/-- The positions are known up to whole laps, and the holes are those kept and those pruned, which lie far below
all packets to come. -/
structure Tracks (isPadding : ℤ → Bool) (c : ℤ) (before : List ℤ) (s : ProbePaddingCompactState) : Prop where
  last : s.lastExt = before.getLast?.map (· - c)
  highest : s.maxDeliveredMediaExt = (Gaps.run isPadding before).highest.map (· - c)
  nodup : s.onTimePaddingExt.Nodup
  holes : ∃ pruned : Finset ℤ, pruned.card = s.prunedOnTimeCount ∧
    (∀ t ∈ pruned, t - c ∉ s.onTimePaddingExt ∧ ∃ y ∈ before, t < y - 0x10000) ∧
    ∀ t, t ∈ (Gaps.run isPadding before).holes ↔ t - c ∈ s.onTimePaddingExt ∨ t ∈ pruned

lemma tracks_nil (isPadding : ℤ → Bool) (c : ℤ) : Tracks isPadding c [] {} :=
  ⟨rfl, rfl, List.nodup_nil, ∅, rfl, nofun, fun _ => ⟨fun ht => absurd ht (Finset.notMem_empty _), nofun⟩⟩

/-- The entries of a set below a bound, moved by whole laps. -/
lemma exists_shift {paddings : List ℤ} (hnodup : paddings.Nodup) (bound : ℤ) :
    ∃ T : Finset ℤ, T.card = paddings.countP (· < bound) ∧ ∀ t, t ∈ T ↔ t - c ∈ paddings ∧ t - c < bound := by
  refine ⟨((paddings.filter (· < bound)).map (· + c)).toFinset, ?_, fun t => ?_⟩
  · rw [List.toFinset_card_of_nodup ((hnodup.filter _).map (add_left_injective c)), List.length_map,
      List.countP_eq_length_filter]
  · simp only [List.mem_toFinset, List.mem_map, List.mem_filter, decide_eq_true_eq]
    constructor
    · rintro ⟨p, hp, rfl⟩
      rwa [add_sub_cancel_right]
    · exact fun ht => ⟨t - c, ht, sub_add_cancel t c⟩

/-- Pruning counts the padding that it takes out. -/
lemma Tracks.prune (h : Tracks isPadding c before s) : Tracks isPadding c before s.pruneProbePaddingCompact := by
  rw [ProbePaddingCompactState.pruneProbePaddingCompact]
  cases hlast : s.lastExt with
  | none => exact h
  | some lastExt =>
    dsimp only
    split_ifs
    · exact h
    obtain ⟨y, hy, rfl⟩ := Option.map_eq_some_iff.mp (h.last.symm.trans hlast)
    obtain ⟨pruned, hcard, hpruned, hholes⟩ := h.holes
    obtain ⟨taken, htakencard, htaken⟩ := exists_shift (c := c) h.nodup (y - c - 0x10000)
    refine ⟨hlast ▸ h.last, h.highest, h.nodup.filter _, pruned ∪ taken, ?_, ?_, ?_⟩
    · rw [Finset.card_union_of_disjoint, hcard, htakencard]
      exact Finset.disjoint_left.mpr fun t ht ht' => (hpruned t ht).1 ((htaken t).mp ht').1
    · intro t ht
      rcases Finset.mem_union.mp ht with ht | ht
      · exact (hpruned t ht).imp_left fun hnot hmem => hnot (List.mem_of_mem_filter hmem)
      · obtain ⟨-, hlt⟩ := (htaken t).mp ht
        refine ⟨fun hmem => ?_, y, List.mem_of_getLast? hy, by omega⟩
        exact of_decide_eq_true (List.mem_filter.mp hmem).2 hlt
    · intro t
      rw [hholes t, Finset.mem_union, htaken t, List.mem_filter, decide_eq_true_eq]
      tauto

/-- The padding skipped for a packet are the holes below it. -/
lemma Tracks.skip (h : Tracks isPadding c before s) (hbehind : ∀ y ∈ before, y - x < 0x8000) :
    ((Gaps.run isPadding before).holes.filter (· < x)).card =
      s.prunedOnTimeCount + s.onTimePaddingExt.countP (· < x - c) := by
  obtain ⟨pruned, hcard, hpruned, hholes⟩ := h.holes
  obtain ⟨below, hbelowcard, hbelow⟩ := exists_shift (c := c) h.nodup (x - c)
  have hunion : (Gaps.run isPadding before).holes.filter (· < x) = pruned ∪ below := by
    ext t
    rw [Finset.mem_filter, hholes t, Finset.mem_union, hbelow t, sub_lt_sub_iff_right]
    have hfar : t ∈ pruned → t < x := by
      intro ht
      obtain ⟨-, y, hy, hlt⟩ := hpruned t ht
      have := hbehind y hy
      omega
    tauto
  rw [hunion, Finset.card_union_of_disjoint, hcard, hbelowcard]
  exact Finset.disjoint_left.mpr fun t ht ht' => (hpruned t ht).1 ((hbelow t).mp ht').1

lemma Tracks.late_iff (h : Tracks isPadding c before s) :
    s.maxDeliveredMediaExt.any (x - c ≤ ·) = true ↔
      ∃ highest ∈ (Gaps.run isPadding before).highest, x ≤ highest := by
  rw [h.highest]
  cases (Gaps.run isPadding before).highest with
  | none => simp
  | some highest => simp

/-- Padding that arrives is a hole if it is on time. -/
lemma Tracks.padding (h : Tracks isPadding c before s) (hx : isPadding x = true)
    (hbehind : ∀ y ∈ before, y - x < 0x8000) :
    Tracks isPadding c (before ++ [x])
      (if s.maxDeliveredMediaExt.any (x - c ≤ ·) then { s with lastExt := some (x - c) }
      else { s with lastExt := some (x - c), onTimePaddingExt := s.onTimePaddingExt.insert (x - c) }) := by
  obtain ⟨pruned, hcard, hpruned, hholes⟩ := h.holes
  have hpruned' : ∀ t ∈ pruned, ∃ y ∈ before ++ [x], t < y - 0x10000 := fun t ht =>
    (hpruned t ht).2.imp fun y hy => hy.imp_left (List.mem_append_left _)
  split_ifs with hlate
  · obtain ⟨highest, hhighest, hle⟩ := h.late_iff.mp hlate
    have hrun : Gaps.run isPadding (before ++ [x]) = Gaps.run isPadding before := by
      rw [Gaps.run_concat, Gaps.receive_late hx hhighest hle]
    refine ⟨by rw [List.getLast?_concat, Option.map_some], hrun ▸ h.highest, h.nodup, pruned, hcard, ?_,
      hrun ▸ hholes⟩
    exact fun t ht => ⟨(hpruned t ht).1, hpruned' t ht⟩
  · have hrun : Gaps.run isPadding (before ++ [x]) =
        { Gaps.run isPadding before with holes := insert x (Gaps.run isPadding before).holes } := by
      rw [Gaps.run_concat, Gaps.receive_hole hx]
      intro highest hhighest
      by_contra hle
      exact hlate (h.late_iff.mpr ⟨highest, hhighest, not_lt.mp hle⟩)
    refine ⟨by rw [List.getLast?_concat, Option.map_some], by rw [hrun]; exact h.highest, h.nodup.insert, pruned,
      hcard, ?_, ?_⟩
    · intro t ht
      refine ⟨fun hmem => ?_, hpruned' t ht⟩
      rcases List.mem_insert_iff.mp hmem with heq | hmem
      · obtain ⟨-, y, hy, hlt⟩ := hpruned t ht
        have := hbehind y hy
        omega
      · exact (hpruned t ht).1 hmem
    · intro t
      rw [hrun, Finset.mem_insert, hholes t, List.mem_insert_iff, sub_left_inj, or_assoc]

/-- A media packet that arrives is delivered with its place. -/
lemma Tracks.media (h : Tracks isPadding c before s) (hx : isPadding x = false) :
    Tracks isPadding c (before ++ [x])
      { s with
        lastExt := some (x - c)
        maxDeliveredMediaExt := some (s.maxDeliveredMediaExt.elim (x - c) (max · (x - c))) } := by
  obtain ⟨pruned, hcard, hpruned, hholes⟩ := h.holes
  have hrun : Gaps.run isPadding (before ++ [x]) = _ := Gaps.run_concat before x
  rw [Gaps.receive_number hx] at hrun
  refine ⟨by rw [List.getLast?_concat, Option.map_some], ?_, h.nodup, pruned, hcard, ?_, by rwa [hrun]⟩
  · rw [hrun, h.highest]
    cases (Gaps.run isPadding before).highest with
    | none => rfl
    | some highest =>
      refine congrArg some ?_
      exact (max_sub_sub_right highest x c).trans rfl
  · exact fun t ht => ⟨(hpruned t ht).1, (hpruned t ht).2.imp fun y hy => hy.imp_left (List.mem_append_left _)⟩

/-- **One packet.**  A packet whose position is found keeps the state, and a media packet is delivered with its
place. -/
theorem Tracks.compact (h : Tracks isPadding c before s) {type : RtpReceivePacketType} (hc : 0x10000 ∣ c)
    (hext : extendRtpSequence (x % 0x10000) s.lastExt = x - c) (htype : type = .padding ↔ isPadding x = true)
    (hbehind : ∀ y ∈ before, y - x < 0x8000) :
    Tracks isPadding c (before ++ [x]) (s.compactProbePaddingSequence (x % 0x10000) type).1 ∧
      (s.compactProbePaddingSequence (x % 0x10000) type).2 =
        if isPadding x then none else some (place (Gaps.run isPadding before).holes x % 0x10000) := by
  rw [ProbePaddingCompactState.compactProbePaddingSequence, hext]
  cases hx : isPadding x with
  | true =>
    rw [if_pos (htype.mpr hx)]
    exact ⟨(h.padding hx hbehind).prune, rfl⟩
  | false =>
    rw [if_neg fun heq => absurd (hx.symm.trans (htype.mp heq)) nofun]
    refine ⟨(h.media hx).prune, congrArg some ?_⟩
    obtain ⟨k, rfl⟩ := hc
    rw [place, h.skip hbehind]
    dsimp only
    push_cast
    omega

/-- **All packets.**  Every media packet is delivered with its place among the padding found in the end. -/
theorem Tracks.deliveredNumbers (hc : 0x10000 ∣ c) {arrivals : List ProbeArrival}
    (h : Tracks isPadding c before s)
    (hfirst : ∀ a ∈ arrivals.head?, extendRtpSequence (a.1 % 0x10000) s.lastExt = a.1 - c)
    (htype : ∀ a ∈ arrivals, a.2 = .padding ↔ isPadding a.1 = true)
    (hnear : arrivals.IsChain fun a b => |b.1 - a.1| < 0x8000)
    (hbehind : (before ++ arrivals.map Prod.fst).Pairwise fun x y => x - y < 0x8000) :
    deliveredNumbers s arrivals = arrivals.map fun a =>
      if isPadding a.1 then none
      else some (place (Gaps.run isPadding (before ++ arrivals.map Prod.fst)).holes a.1 % 0x10000) := by
  induction arrivals generalizing before s with
  | nil => rfl
  | cons a arrivals ih =>
    obtain ⟨x, type⟩ := a
    have hx : ∀ y ∈ before, y - x < 0x8000 := fun y hy =>
      (List.pairwise_append.mp hbehind).2.2 y hy x List.mem_cons_self
    obtain ⟨hstep, hnumber⟩ := h.compact hc (hfirst _ rfl) (htype _ List.mem_cons_self) hx
    have hassoc : before ++ ((x, type) :: arrivals).map Prod.fst = before ++ [x] ++ arrivals.map Prod.fst := by
      rw [List.map_cons, List.append_cons]
    rw [Webrtc.deliveredNumbers, List.map_cons, hassoc]
    dsimp only
    congr 1
    · rw [hnumber]
      cases hpadding : isPadding x with
      | true => rfl
      | false =>
        have hmem : x ∈ before ++ [x] := List.mem_append_right _ (List.mem_singleton_self x)
        have hhere : Gaps.run isPadding (before ++ [x]) =
            { Gaps.run isPadding before with
              highest := some ((Gaps.run isPadding before).highest.elim x (max · x)) } := by
          rw [Gaps.run_concat, Gaps.receive_number hpadding]
        rw [Gaps.place_run _ _ hmem hpadding, hhere]
    · refine ih hstep ?_ (fun a ha => htype a (List.mem_cons_of_mem _ ha)) hnear.of_cons (hassoc ▸ hbehind)
      intro b hb
      rw [hstep.last, List.getLast?_concat, Option.map_some]
      exact extendRtpSequence_eq hc (hnear.rel_head? hb)

/-! ## The numbers of the media packets -/

/-- The padding at `t` arrived, and no media packet above it arrived before. -/
def OnTime (isPadding : ℤ → Bool) (arrivals : List ProbeArrival) (t : ℤ) : Prop :=
  ∃ before after, arrivals.map Prod.fst = before ++ t :: after ∧ ∀ y ∈ before, isPadding y = false → y < t

/-- The media packets of a stream are delivered with the lower 16 bits of new numbers, which keep their order and
leave out padding that arrived on time. -/
structure Renumbers (isPadding : ℤ → Bool) (arrivals : List ProbeArrival) (number : ℤ → ℤ) : Prop where
  delivered : deliveredNumbers {} arrivals =
    arrivals.map fun a => if isPadding a.1 then none else some (number a.1 % 0x10000)
  lt : ∀ m m', isPadding m = false → m < m' → number m < number m' ∧ number m' - number m ≤ m' - m
  different : ∀ m m', isPadding m = false → m < m' → m' - m < 0x10000 →
    number m % 0x10000 ≠ number m' % 0x10000
  ahead : ∀ m m', isPadding m = false → m < m' → m' - m < 0x8000 →
    uint16Gt (number m' % 0x10000) (number m % 0x10000) = true
  consecutive : ∀ m m', isPadding m = false → m < m' →
    (∀ t, m < t → t < m' → isPadding t = true ∧ OnTime isPadding arrivals t) → number m' = number m + 1

/-- Numbers less than half of the number space apart keep their order on 16 bits. -/
lemma uint16Gt_emod {a b : ℤ} (hlt : a < b) (hnear : b - a < 0x8000) :
    uint16Gt (b % 0x10000) (a % 0x10000) = true := by
  simp only [uint16Gt, uintGt, Bool.or_eq_true, Bool.and_eq_true, decide_eq_true_eq]
  omega

/-- The first packet stands at its own number. -/
lemma deliveredNumbers_eq {arrivals : List ProbeArrival} (h : WithinHalf isPadding arrivals) :
    deliveredNumbers {} arrivals = arrivals.map fun a =>
      if isPadding a.1 then none
      else some (place (Gaps.run isPadding (arrivals.map Prod.fst)).holes a.1 % 0x10000) := by
  cases arrivals with
  | nil => rfl
  | cons a arrivals =>
    have hc : (0x10000 : ℤ) ∣ a.1 - a.1 % 0x10000 := Int.dvd_self_sub_emod
    refine (tracks_nil isPadding (a.1 - a.1 % 0x10000)).deliveredNumbers hc ?_ h.type h.near ?_
    · intro b hb
      obtain rfl := Option.some.inj hb
      change a.1 % 0x10000 % 0x10000 = _
      rw [Int.emod_emod_of_dvd _ (dvd_refl _), sub_sub_cancel]
    · exact List.pairwise_map.mpr h.behind

/-- **Compaction.**  There are new numbers for the media packets of a stream with which all of them are delivered,
whenever and however often they arrive. -/
theorem exists_renumbers (isPadding : ℤ → Bool) (arrivals : List ProbeArrival) (h : WithinHalf isPadding arrivals) :
    ∃ number, Renumbers isPadding arrivals number := by
  let holes := (Gaps.run isPadding (arrivals.map Prod.fst)).holes
  have hholes : ∀ {m}, isPadding m = false → m ∉ holes := by
    intro m hm hmem
    have := ((Gaps.ranked_run isPadding (arrivals.map Prod.fst)).isHole_of_mem m hmem).1
    exact absurd (this.symm.trans hm) nofun
  have hlt : ∀ m m', isPadding m = false → m < m' → place holes m < place holes m' :=
    fun m m' hm hmm' => place_lt (hholes hm) hmm'
  have hle : ∀ m m', m < m' → place holes m' - place holes m ≤ m' - m :=
    fun m m' hmm' => place_sub_le holes hmm'.le
  refine ⟨place holes, deliveredNumbers_eq h, fun m m' hm hmm' => ⟨hlt m m' hm hmm', hle m m' hmm'⟩, ?_, ?_, ?_⟩
  · intro m m' hm hmm' hnear
    have := hlt m m' hm hmm'
    have := hle m m' hmm'
    omega
  · intro m m' hm hmm' hnear
    exact uint16Gt_emod (hlt m m' hm hmm') ((hle m m' hmm').trans_lt hnear)
  · intro m m' hm hmm' hgap
    refine place_succ (hholes hm) hmm' fun t hmt htm' => ?_
    obtain ⟨ht, before, after, hsplit, hbefore⟩ := hgap t hmt htm'
    change t ∈ (Gaps.run isPadding (arrivals.map Prod.fst)).holes
    rw [hsplit]
    exact Gaps.mem_holes_run before after ht hbefore

/-- Four packets the second of which, padding, comes in time. -/
def probeArrivals : List ProbeArrival := [(10, .media), (11, .padding), (12, .media), (12, .retransmission)]

theorem exists_renumbers_probe : ∃ number, Renumbers (· == 11) probeArrivals number :=
  exists_renumbers (· == 11) probeArrivals ⟨by decide, by decide, by decide⟩

example : deliveredNumbers {} probeArrivals = [some 10, none, some 11, some 11] := by decide

/-! ## What the numbers do not do -/

/-- The media packets that arrived, with the numbers with which they are delivered. -/
def delivered (arrivals : List ProbeArrival) : List (ℤ × ℤ) :=
  (arrivals.zip (deliveredNumbers {} arrivals)).filterMap fun p => p.2.map (p.1.1, ·)

/-- `m'` is the next media packet after `m`. -/
def Follows (isPadding : ℤ → Bool) (m m' : ℤ) : Prop :=
  m < m' ∧ isPadding m' = false ∧ ∀ t, m < t → t < m' → isPadding t = true

/-- All media packets between two that arrived have arrived as well. -/
def NoneLost (isPadding : ℤ → Bool) (arrivals : List ProbeArrival) : Prop :=
  ∀ a ∈ arrivals, ∀ b ∈ arrivals, ∀ m, a.1 ≤ m → m ≤ b.1 → isPadding m = false → m ∈ arrivals.map Prod.fst

/-- All padding between two packets that arrived has arrived, before the next media packet did. -/
def BeforeNext (isPadding : ℤ → Bool) (arrivals : List ProbeArrival) : Prop :=
  ∀ a ∈ arrivals, ∀ b ∈ arrivals, ∀ t, a.1 ≤ t → t ≤ b.1 → isPadding t = true →
    ∃ before after, arrivals.map Prod.fst = before ++ t :: after ∧ ∀ m', Follows isPadding t m' → m' ∉ before

/-- Media packets with different numbers may be delivered with the same one when they are more than a lap apart.
And padding that comes before the next media packet, but after the one behind that, leaves a gap. -/
theorem not_renumbered :
    (¬ ∀ isPadding arrivals, WithinHalf isPadding arrivals → ∀ p ∈ delivered arrivals, ∀ q ∈ delivered arrivals,
      p.1 % 0x10000 ≠ q.1 % 0x10000 → p.2 ≠ q.2) ∧
    ¬ ∀ isPadding arrivals, WithinHalf isPadding arrivals → NoneLost isPadding arrivals →
      BeforeNext isPadding arrivals → ∀ p ∈ delivered arrivals, ∀ q ∈ delivered arrivals,
        Follows isPadding p.1 q.1 → q.2 = (p.2 + 1) % 0x10000 := by
  constructor
  · intro h
    exact h (· == 1) [(0, .media), (1, .padding), (30000, .media), (60000, .media), (65537, .media)]
      ⟨by decide, by decide, by decide⟩ (0, 0) (by decide) (65537, 0) (by decide) (by decide) rfl
  · intro h
    have hrange : ∀ a ∈ [((10 : ℤ), RtpReceivePacketType.media), (13, .media), (11, .padding), (12, .media)],
        10 ≤ a.1 ∧ a.1 ≤ 13 := by decide
    have hgap := h (· == 11) [(10, .media), (13, .media), (11, .padding), (12, .media)]
      ⟨by decide, by decide, by decide⟩ ?_ ?_ (10, 10) (by decide) (12, 12) (by decide) ⟨by decide, by decide, ?_⟩
    · exact absurd hgap (by decide)
    · intro a ha b hb m ham hmb hm
      have hlow : 10 ≤ m := (hrange a ha).1.trans ham
      have hhigh : m ≤ 13 := hmb.trans (hrange b hb).2
      interval_cases m
      · decide
      · exact absurd hm (by decide)
      · decide
      · decide
    · intro a ha b hb t hat htb ht
      obtain rfl : t = 11 := beq_iff_eq.mp ht
      refine ⟨[10, 13], [12], rfl, fun m' hfollows hmem => ?_⟩
      obtain ⟨hlt, -, hbetween⟩ := hfollows
      rcases List.mem_cons.mp hmem with rfl | hmem
      · exact absurd hlt (by decide)
      · obtain rfl := List.mem_singleton.mp hmem
        exact absurd (hbetween 12 (by decide) (by decide)) (by decide)
    · intro t hlt hlt'
      obtain rfl : t = 11 := by omega
      rfl

end Werift.Webrtc
