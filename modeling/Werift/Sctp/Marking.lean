import Werift.Lib.Queue
import Werift.Sctp.Outbound

/-!
# What is marked in the queue of sent chunks

Chunks of `sentQueue` are marked when the T3 timer expires, when they are missing in a SACK, and
when a message is given up.  Messages are only given up at the head of the queue, so the chunks
that are given up are a front of the queue (`AbandonedFirst`), which
`updateAdvancedPeerAckPoint` removes.
-/

namespace Werift.Sctp

open Queue Sender

/-- A chunk without its marks. -/
def DataChunk.unmarked (c : DataChunk) : DataChunk :=
  { c with abandoned := false, acked := false, misses := 0, retransmit := false }

/-- What depends on the chunks but not on their marks is the same in queues that differ in the marks
only. -/
lemma map_eq_of_unmarked {β : Type*} {f : DataChunk → β} (hf : ∀ c, f c.unmarked = f c)
    {q q' : List DataChunk} (h : q'.map DataChunk.unmarked = q.map DataChunk.unmarked) :
    q'.map f = q.map f := by
  have hcomp : ∀ l : List DataChunk, l.map f = (l.map DataChunk.unmarked).map f := fun l => by
    rw [List.map_map]
    exact List.map_congr_left fun c _ => (hf c).symm
  rw [hcomp, hcomp q, h]

/-- The chunks that are given up stand before all others. -/
def AbandonedFirst (q : List DataChunk) : Prop :=
  q.Pairwise fun a b => b.abandoned = true → a.abandoned = true

lemma abandonedFirst_of_none {q : List DataChunk} (h : ∀ c ∈ q, c.abandoned = false) :
    AbandonedFirst q :=
  List.pairwise_of_forall_mem_list fun a _ b hb hab => by
    rw [h b hb] at hab
    exact absurd hab Bool.false_ne_true

/-- Only the marks matter. -/
lemma abandonedFirst_congr {q q' : List DataChunk}
    (h : q.map DataChunk.abandoned = q'.map DataChunk.abandoned) :
    AbandonedFirst q ↔ AbandonedFirst q' := by
  have hmap : ∀ l : List DataChunk, AbandonedFirst l ↔
      (l.map DataChunk.abandoned).Pairwise fun a b => b = true → a = true := fun l => by
    rw [AbandonedFirst, List.pairwise_map]
  rw [hmap, hmap, h]

/-- Without the ones that are given up no such chunk is left. -/
lemma abandonedFirst_dropWhile {q : List DataChunk} (h : AbandonedFirst q) :
    ∀ c ∈ q.dropWhile DataChunk.abandoned, c.abandoned = false := by
  intro c hc
  rw [dropWhile_eq_filter h, List.mem_filter] at hc
  simpa using hc.2

/-! ## Giving up the message at the head -/

@[simp] lemma length_abandonUntilLast (q : List DataChunk) :
    (abandonUntilLast q).length = q.length := by
  induction q with
  | nil => rfl
  | cons c q ih =>
    rw [abandonUntilLast]
    split_ifs <;> simp [ih]

/-- Fields that `abandon` does not change stay the same. -/
lemma map_abandonUntilLast {β : Type*} {f : DataChunk → β} (hf : ∀ c, f c.abandon = f c)
    (q : List DataChunk) : (abandonUntilLast q).map f = q.map f := by
  induction q with
  | nil => rfl
  | cons c q ih =>
    rw [abandonUntilLast]
    split_ifs <;> simp [ih, hf]

lemma abandonedFirst_abandonUntilLast {q : List DataChunk} (h : AbandonedFirst q) :
    AbandonedFirst (abandonUntilLast q) := by
  induction q with
  | nil => exact h
  | cons c q ih =>
    obtain ⟨-, hq⟩ := List.pairwise_cons.mp h
    rw [abandonUntilLast]
    refine List.pairwise_cons.mpr ⟨fun _ _ _ => rfl, ?_⟩
    split_ifs
    · exact hq
    · exact ih hq

/-- After a message has been given up the head of the queue is given up. -/
lemma takeWhile_abandonUntilLast_ne_nil {q : List DataChunk} (h : q ≠ []) :
    (abandonUntilLast q).takeWhile DataChunk.abandoned ≠ [] := by
  cases q with
  | nil => exact absurd rfl h
  | cons c q =>
    rw [abandonUntilLast, List.takeWhile_cons_of_pos rfl]
    exact List.cons_ne_nil _ _

/-- Messages end at the same places. -/
lemma sameMessage_congr {q q' : List DataChunk}
    (h : q.map DataChunk.lastFrag = q'.map DataChunk.lastFrag) {i j : ℕ} :
    SameMessage q i j ↔ SameMessage q' i j := by
  have hget : ∀ k : ℕ, (q[k]?.map DataChunk.lastFrag) = q'[k]?.map DataChunk.lastFrag := by
    intro k
    rw [← List.getElem?_map, ← List.getElem?_map, h]
  constructor
  · intro hs k h1 h2 c hc
    have := hget k
    rw [hc, Option.map_some, Option.map_eq_some_iff] at this
    obtain ⟨d, hd, heq⟩ := this
    rw [← heq]
    exact hs k h1 h2 d hd
  · intro hs k h1 h2 c hc
    have := (hget k).symm
    rw [hc, Option.map_some, Option.map_eq_some_iff] at this
    obtain ⟨d, hd, heq⟩ := this
    rw [← heq]
    exact hs k h1 h2 d hd

/-! ## The T3 timer -/

/-- The limits of one of the first `k` chunks are exceeded. -/
def OverLimit (now : ℚ) (q : List DataChunk) (k : ℕ) : Prop :=
  ∃ j < k, ∃ c, q[j]? = some c ∧ c.shouldAbandon now = true

/-- A chunk after `timer3Expired` has come to it: marked for retransmission within its limits. -/
def expiredChunk (now : ℚ) (c : DataChunk) : DataChunk :=
  if c.shouldAbandon now then c else { c with retransmit := true }

/-- What `timer3Expired` has done to the queue when it has come to the position `k`: if the limits of
some chunk before are exceeded the message at the head is given up; of the other chunks the ones
before `k` are marked. -/
structure ExpiredTo (now : ℚ) (q q' : List DataChunk) (k : ℕ) : Prop where
  length : q'.length = q.length
  given : ∀ i c, q[i]? = some c → OverLimit now q k → SameMessage q 0 i → q'[i]? = some c.abandon
  kept : ∀ i c, q[i]? = some c → ¬ (OverLimit now q k ∧ SameMessage q 0 i) →
    q'[i]? = some (if i < k then expiredChunk now c else c)

namespace ExpiredTo

variable {now : ℚ} {q q' : List DataChunk} {k : ℕ}

lemma expiredChunk_fields (now : ℚ) (c : DataChunk) : (expiredChunk now c).abandon = c.abandon ∧
    (expiredChunk now c).abandoned = c.abandoned ∧ (expiredChunk now c).lastFrag = c.lastFrag ∧
      (expiredChunk now c).tsn = c.tsn := by
  unfold expiredChunk
  split_ifs <;> exact ⟨rfl, rfl, rfl, rfl⟩

/-- What a chunk of the queue was before, and what it has become. -/
lemma cases (h : ExpiredTo now q q' k) {i : ℕ} {c : DataChunk} (hc : q[i]? = some c) :
    q'[i]? = some c.abandon ∧ OverLimit now q k ∧ SameMessage q 0 i ∨
      q'[i]? = some (expiredChunk now c) ∧ i < k ∧ ¬ (OverLimit now q k ∧ SameMessage q 0 i) ∨
      q'[i]? = some c ∧ k ≤ i ∧ ¬ (OverLimit now q k ∧ SameMessage q 0 i) := by
  by_cases hg : OverLimit now q k ∧ SameMessage q 0 i
  · exact Or.inl ⟨h.given i c hc hg.1 hg.2, hg⟩
  · have := h.kept i c hc hg
    by_cases hi : i < k
    · rw [if_pos hi] at this
      exact Or.inr (Or.inl ⟨this, hi, hg⟩)
    · rw [if_neg hi] at this
      exact Or.inr (Or.inr ⟨this, by omega, hg⟩)

/-- Fields that neither mark touches stay the same. -/
lemma map_eq {β : Type*} {f : DataChunk → β} (h : ExpiredTo now q q' k)
    (ha : ∀ c, f c.abandon = f c) (hr : ∀ c, f (expiredChunk now c) = f c) :
    q'.map f = q.map f := by
  refine List.ext_getElem? fun i => ?_
  rw [List.getElem?_map, List.getElem?_map]
  cases hc : q[i]? with
  | none =>
    have : q'[i]? = none := by
      rw [List.getElem?_eq_none_iff, h.length]
      exact List.getElem?_eq_none_iff.mp hc
    rw [this]
  | some c =>
    obtain ⟨hd, -⟩ | ⟨hd, -⟩ | ⟨hd, -⟩ := h.cases hc
    · rw [hd, Option.map_some, Option.map_some, ha]
    · rw [hd, Option.map_some, Option.map_some, hr]
    · rw [hd]

lemma zero (now : ℚ) (q : List DataChunk) : ExpiredTo now q q 0 := by
  refine ⟨rfl, ?_, fun i c hc _ => by rw [if_neg (by omega)]; exact hc⟩
  rintro i c - ⟨j, hj, -⟩
  omega

/-- One round of the loop. -/
lemma succ (h : ExpiredTo now q q' k) (hnone : ∀ c ∈ q, c.abandoned = false) (hk : k < q.length) :
    ExpiredTo now q (expireAt now q' k) (k + 1) := by
  obtain ⟨c, hc⟩ : ∃ c, q[k]? = some c := ⟨q[k], List.getElem?_eq_getElem hk⟩
  have hca : c.abandoned = false := hnone c (List.mem_of_getElem? hc)
  have hlast : q'.map DataChunk.lastFrag = q.map DataChunk.lastFrag :=
    h.map_eq (fun _ => rfl) fun c => (expiredChunk_fields now c).2.2.1
  have hover : OverLimit now q (k + 1) ↔ OverLimit now q k ∨ c.shouldAbandon now = true := by
    constructor
    · rintro ⟨j, hj, d, hd, hs⟩
      rcases Nat.lt_succ_iff_lt_or_eq.mp hj with hj | rfl
      · exact Or.inl ⟨j, hj, d, hd, hs⟩
      · obtain rfl := Option.some.inj (hc.symm.trans hd)
        exact Or.inr hs
    · rintro (⟨j, hj, d, hd, hs⟩ | hs)
      · exact ⟨j, by omega, d, hd, hs⟩
      · exact ⟨k, by omega, c, hc, hs⟩
  obtain ⟨hd, ho, hs⟩ | ⟨-, hlt, -⟩ | ⟨hd, -, hg⟩ := h.cases hc
  · -- the chunk has been given up with the head
    have hexp : expireAt now q' k = q' := by
      simp only [expireAt, hd, maybeAbandon_of_abandoned (c := c.abandon) rfl, if_true]
    rw [hexp]
    refine ⟨h.length, fun i d hi _ hsame => h.given i d hi ho hsame, fun i d hi hno => ?_⟩
    have hno' : ¬ (OverLimit now q k ∧ SameMessage q 0 i) :=
      fun hin => hno ⟨hover.mpr (Or.inl hin.1), hin.2⟩
    have hik : i ≠ k := fun heq => hno' ⟨ho, heq ▸ hs⟩
    rw [h.kept i d hi hno']
    by_cases hi : i < k
    · rw [if_pos hi, if_pos (by omega)]
    · rw [if_neg hi, if_neg (by omega)]
  · omega
  · cases hshould : c.shouldAbandon now with
    | true =>
      -- the chunk is over its limits, and the message at the head is given up
      have hexp : expireAt now q' k = abandonUntilLast q' := by
        simp only [expireAt, hd, maybeAbandon_eq hca hshould, if_true]
      rw [hexp]
      refine ⟨by rw [length_abandonUntilLast, h.length], fun i d hi _ hsame => ?_,
        fun i d hi hno => ?_⟩
      · rw [getElem?_abandonUntilLast_of_same ((sameMessage_congr hlast).mpr hsame)]
        obtain ⟨hd', -⟩ | ⟨hd', -⟩ | ⟨hd', -⟩ := h.cases hi
        · rw [hd', Option.map_some, DataChunk.abandon_abandon]
        · rw [hd', Option.map_some, (expiredChunk_fields now d).1]
        · rw [hd', Option.map_some]
      · have hsame : ¬ SameMessage q 0 i := fun hin => hno ⟨hover.mpr (Or.inr hshould), hin⟩
        rw [getElem?_abandonUntilLast_of_not (fun hin => hsame ((sameMessage_congr hlast).mp hin)),
          h.kept i d hi fun hin => hsame hin.2]
        by_cases hik : i = k
        · subst hik
          obtain rfl := Option.some.inj (hc.symm.trans hi)
          rw [if_neg (by omega), if_pos (by omega), expiredChunk, if_pos hshould]
        · by_cases hlt : i < k
          · rw [if_pos hlt, if_pos (by omega)]
          · rw [if_neg hlt, if_neg (by omega)]
    | false =>
      -- the chunk is marked for retransmission
      have hexp : expireAt now q' k = q'.modify k fun c => { c with retransmit := true } := by
        simp only [expireAt, hd, maybeAbandon_of_not hca hshould, Bool.false_eq_true, if_false]
      have hover' : OverLimit now q (k + 1) ↔ OverLimit now q k := by
        rw [hover, hshould]
        simp
      rw [hexp]
      refine ⟨by rw [List.length_modify, h.length], fun i d hi ho hsame => ?_, fun i d hi hno => ?_⟩
      · have hik : i ≠ k := fun heq => hg ⟨hover'.mp ho, heq ▸ hsame⟩
        rw [List.getElem?_modify_ne _ _ (Ne.symm hik)]
        exact h.given i d hi (hover'.mp ho) hsame
      · rw [hover'] at hno
        rw [List.getElem?_modify, h.kept i d hi hno]
        by_cases hik : i = k
        · subst hik
          obtain rfl := Option.some.inj (hc.symm.trans hi)
          simp [expiredChunk, hshould]
        · by_cases hlt : i < k
          · simp [hlt, Ne.symm hik, Nat.lt_succ_of_lt hlt]
          · have : ¬ i < k + 1 := by omega
            simp [hlt, Ne.symm hik, this]

end ExpiredTo

/-- **What the T3 timer does to the queue** if none of its chunks has been given up. -/
theorem expireChunks_spec {now : ℚ} {q : List DataChunk} (hnone : ∀ c ∈ q, c.abandoned = false) :
    ExpiredTo now q (expireChunks now q) q.length := by
  have h : ∀ k ≤ q.length, ExpiredTo now q ((List.range k).foldl (expireAt now) q) k := by
    intro k
    induction k with
    | zero => exact fun _ => ExpiredTo.zero now q
    | succ k ih =>
      intro hk
      rw [List.range_succ, List.foldl_append]
      exact (ih (by omega)).succ hnone (by omega)
  exact h q.length le_rfl

/-- The chunks that the T3 timer gives up stand at the head. -/
lemma abandonedFirst_expireChunks {now : ℚ} {q : List DataChunk}
    (hnone : ∀ c ∈ q, c.abandoned = false) : AbandonedFirst (expireChunks now q) := by
  have h := @expireChunks_spec now _ hnone
  rw [AbandonedFirst, List.pairwise_iff_getElem]
  intro i j hi hj hij hb
  rw [h.length] at hi hj
  have hci : q[i]? = some q[i] := List.getElem?_eq_getElem hi
  have hcj : q[j]? = some q[j] := List.getElem?_eq_getElem hj
  have hgeti : (expireChunks now q)[i]? = some (expireChunks now q)[i] :=
    List.getElem?_eq_getElem (by rw [h.length]; exact hi)
  have hgetj : (expireChunks now q)[j]? = some (expireChunks now q)[j] :=
    List.getElem?_eq_getElem (by rw [h.length]; exact hj)
  obtain ⟨hd, ho, hs⟩ | ⟨hd, -⟩ | ⟨-, hle, -⟩ := h.cases hcj
  · have hsi : SameMessage q 0 i := fun k h1 h2 => hs k (by omega) (by omega)
    have := h.given i _ hci ho hsi
    rw [hgeti, Option.some.injEq] at this
    rw [this]
    rfl
  · rw [hgetj, Option.some.injEq] at hd
    rw [hd, (ExpiredTo.expiredChunk_fields now _).2.1, hnone _ (List.mem_of_getElem? hcj)] at hb
    exact absurd hb Bool.false_ne_true
  · omega

/-! ## Gap blocks -/

/-- A chunk after the marking is as it was, or it is newly marked. -/
lemma mem_ackGaps_cases {seen : List ℤ} {q : List DataChunk} {d : DataChunk}
    (h : d ∈ ackGaps seen q) :
    d ∈ q ∨ ∃ c ∈ newlyAcked seen q, c ∈ q ∧ d = { c with acked := true } := by
  rcases List.mem_append.mp h with hd | hd
  · obtain ⟨c, hc, rfl⟩ := List.mem_map.mp hd
    have hin : c ∈ q := (List.takeWhile_sublist _).subset hc
    split_ifs with hseen
    · exact Or.inr ⟨c, List.mem_filter.mpr ⟨hc, hseen⟩, hin, rfl⟩
    · exact Or.inl hin
  · exact Or.inl ((List.dropWhile_sublist _).subset hd)


/-- Fields other than `acked` stay the same. -/
lemma map_ackGaps {β : Type*} {f : DataChunk → β} (hf : ∀ c, f { c with acked := true } = f c)
    (seen : List ℤ) (q : List DataChunk) : (ackGaps seen q).map f = q.map f := by
  have h : ∀ c : DataChunk, f (if seen.contains c.tsn && !c.acked then { c with acked := true } else c)
      = f c := fun c => by
    split_ifs
    · exact hf c
    · rfl
  rw [ackGaps, List.map_append, List.map_map, Function.comp_def]
  simp only [h]
  rw [← List.map_append, List.takeWhile_append_dropWhile]

/-- What the loop over the missing chunks does with the chunk at one index: nothing; it counts a
miss; it marks the chunk for retransmission, unless the chunk has been given up; or it gives up the
message at the head. -/
inductive StrikeCase (now : ℚ) (seen : List ℤ) (st : Strikes) (i : ℕ) : Strikes → Prop
  | same : StrikeCase now seen st i st
  | miss {c : DataChunk} (hc : st.queue[i]? = some c) :
      StrikeCase now seen st i { st with queue := st.queue.set i (missed c) }
  | lost {c : DataChunk} (hc : st.queue[i]? = some c) (hseen : c.tsn ∉ seen)
      (hmisses : c.misses = 2) (hkeep : c.abandoned = true ∨ c.shouldAbandon now = false) :
      StrikeCase now seen st i
        { queue := st.queue.set i (lost c.abandoned (struck c))
          flightSize := st.flightSize - c.bookSize
          loss := true }
  | given {c : DataChunk} (hc : st.queue[i]? = some c) (hseen : c.tsn ∉ seen)
      (hmisses : c.misses = 2) (hab : c.abandoned = false) (hs : c.shouldAbandon now = true) :
      StrikeCase now seen st i
        { queue := (abandonUntilLast (st.queue.set i (struck c))).modify i (lost true)
          flightSize := st.flightSize - c.bookSize
          loss := true }

/-- Replacing an element twice. -/
lemma modify_set {α : Type*} (l : List α) (i : ℕ) (a : α) (f : α → α) :
    (l.set i a).modify i f = l.set i (f a) := by
  induction l generalizing i with
  | nil => simp
  | cons b l ih =>
    cases i with
    | zero => rfl
    | succ i => simp [ih]

lemma strikeAt_case (now : ℚ) (seen : List ℤ) (st : Strikes) (i : ℕ) :
    StrikeCase now seen st i (strikeAt now seen st i) := by
  unfold strikeAt
  split
  · exact StrikeCase.same
  · rename_i c hc
    dsimp only
    split_ifs with hseen hmisses
    · exact StrikeCase.same
    · exact StrikeCase.miss hc
    · have hseen' : c.tsn ∉ seen := fun hin => hseen (List.contains_iff_mem.mpr hin)
      have hmisses' : c.misses = 2 := by omega
      cases hab : c.abandoned with
      | true =>
        have h : maybeAbandon now (st.queue.set i (struck c)) (struck c) = (true, _) :=
          maybeAbandon_of_abandoned hab
        have hcase : StrikeCase now seen st i _ := .lost hc hseen' hmisses' (Or.inl hab)
        rw [hab] at hcase
        rw [h, modify_set]
        exact hcase
      | false =>
        cases hs : c.shouldAbandon now with
        | false =>
          have h : maybeAbandon now (st.queue.set i (struck c)) (struck c) = (false, _) :=
            maybeAbandon_of_not hab hs
          have hcase : StrikeCase now seen st i _ := .lost hc hseen' hmisses' (Or.inr hs)
          rw [hab] at hcase
          rw [h, modify_set]
          exact hcase
        | true =>
          have h : maybeAbandon now (st.queue.set i (struck c)) (struck c) = (true, _) :=
            maybeAbandon_eq hab hs
          rw [h]
          exact StrikeCase.given hc hseen' hmisses' hab hs

/-- The loop over the missing chunks leaves the chunks that are given up at the head. -/
lemma StrikeCase.abandonedFirst {now : ℚ} {seen : List ℤ} {st st' : Strikes} {i : ℕ}
    (h : StrikeCase now seen st i st') (hq : AbandonedFirst st.queue) : AbandonedFirst st'.queue := by
  cases h with
  | same => exact hq
  | miss hc =>
    refine (abandonedFirst_congr ?_).mpr hq
    exact map_set_eq hc rfl
  | lost hc =>
    refine (abandonedFirst_congr ?_).mpr hq
    exact map_set_eq hc rfl
  | @given c hc =>
    have hset : AbandonedFirst (st.queue.set i (struck c)) := by
      refine (abandonedFirst_congr ?_).mpr hq
      exact map_set_eq hc rfl
    refine (abandonedFirst_congr ?_).mpr (abandonedFirst_abandonUntilLast hset)
    exact map_modify_eq (g := Sender.lost true) (fun _ => rfl) _ _

lemma abandonedFirst_strikeMissing {now : ℚ} {chunk : SackChunk} {st : Strikes}
    (h : AbandonedFirst st.queue) (n : ℕ) : AbandonedFirst (strikeMissing now chunk st n).queue := by
  induction n with
  | zero => exact h
  | succ n ih =>
    rw [strikeMissing, List.range_succ, List.foldl_append]
    exact (strikeAt_case _ _ _ _).abandonedFirst ih

/-- A struck chunk is no longer acknowledged, so a chunk that waits for retransmission is not. -/
lemma StrikeCase.pending {now : ℚ} {seen : List ℤ} {st st' : Strikes} {i : ℕ}
    (hcase : StrikeCase now seen st i st')
    (h : ∀ c ∈ st.queue, c.retransmit = true → c.acked = false) :
    ∀ c ∈ st'.queue, c.retransmit = true → c.acked = false := by
  intro d hd hretransmit
  cases hcase with
  | same => exact h d hd hretransmit
  | @miss c hc =>
    rcases List.mem_or_eq_of_mem_set hd with hd | rfl
    · exact h d hd hretransmit
    · exact h c (List.mem_of_getElem? hc) hretransmit
  | @lost c hc =>
    rcases List.mem_or_eq_of_mem_set hd with hd | rfl
    · exact h d hd hretransmit
    · rfl
  | @given c hc =>
    obtain ⟨j, hj⟩ := List.mem_iff_getElem?.mp hd
    rw [List.getElem?_modify] at hj
    obtain ⟨e, he, hed⟩ := Option.map_eq_some_iff.mp hj
    split_ifs at hed with hij
    · rw [← hed]
      rfl
    · subst hed
      -- a chunk that is not given up was in the queue before
      by_cases hsame : SameMessage (st.queue.set i (struck c)) 0 j
      · rw [getElem?_abandonUntilLast_of_same hsame] at he
        obtain ⟨f, -, rfl⟩ := Option.map_eq_some_iff.mp he
        exact absurd hretransmit Bool.false_ne_true
      · rw [getElem?_abandonUntilLast_of_not hsame,
          List.getElem?_set_ne (fun heq => hij heq)] at he
        exact h e (List.mem_of_getElem? he) hretransmit

lemma pending_strikeMissing {now : ℚ} {chunk : SackChunk} {st : Strikes}
    (h : ∀ c ∈ st.queue, c.retransmit = true → c.acked = false) (n : ℕ) :
    ∀ c ∈ (strikeMissing now chunk st n).queue, c.retransmit = true → c.acked = false := by
  induction n with
  | zero => exact h
  | succ n ih =>
    rw [strikeMissing, List.range_succ, List.foldl_append]
    exact (strikeAt_case _ _ _ _).pending ih

/-- Striking changes nothing but marks. -/
lemma StrikeCase.unmarked {now : ℚ} {seen : List ℤ} {st st' : Strikes} {i : ℕ}
    (hcase : StrikeCase now seen st i st') :
    st'.queue.map DataChunk.unmarked = st.queue.map DataChunk.unmarked := by
  cases hcase with
  | same => rfl
  | miss hc => exact map_set_eq hc rfl
  | lost hc => exact map_set_eq hc rfl
  | given hc =>
    rw [map_modify_eq (g := Sender.lost true) fun _ => rfl, map_abandonUntilLast fun _ => rfl]
    exact map_set_eq hc rfl

/-- Acknowledging changes nothing but marks of the chunks that stay. -/
lemma unmarked_acknowledge (s : Sender) (chunk : SackChunk) :
    (s.acknowledge chunk).queue.map DataChunk.unmarked =
      (beyondCumulative chunk.cumulativeTsn s.sentQueue).map DataChunk.unmarked := by
  have hstrikes : ∀ (st : Strikes) (n : ℕ), (strikeMissing s.time chunk st n).queue.map
      DataChunk.unmarked = st.queue.map DataChunk.unmarked := by
    intro st n
    induction n with
    | zero => rfl
    | succ n ih =>
      rw [strikeMissing, List.range_succ, List.foldl_append]
      exact (strikeAt_case _ _ _ _).unmarked.trans ih
  unfold acknowledge handleGaps
  split_ifs
  · rfl
  · exact (hstrikes _ _).trans (map_ackGaps (fun _ => rfl) _ _)

/-- T3 changes nothing but marks. -/
lemma unmarked_expireChunks {now : ℚ} {q : List DataChunk} (hnone : ∀ c ∈ q, c.abandoned = false) :
    (expireChunks now q).map DataChunk.unmarked = q.map DataChunk.unmarked := by
  refine (expireChunks_spec hnone).map_eq (fun _ => rfl) fun c => ?_
  unfold expiredChunk
  split_ifs <;> rfl

/-! ## The marks of the queue -/

/-- What every step preserves: no chunk that is given up stays in the queue. -/
structure KeptInv (s : Sender) : Prop where
  kept : ∀ c ∈ s.sentQueue, c.abandoned = false
  fresh : ∀ c ∈ s.outboundQueue, c.acked = false ∧ c.abandoned = false ∧ c.retransmit = false

namespace KeptInv

variable {s s' : Sender}

/-- Nothing has been sent yet. -/
lemma initial (maxPayloadSize : ℕ) (localTsn : ℤ) (rwnd : ℕ) :
    KeptInv (Sender.initial maxPayloadSize localTsn rwnd) :=
  ⟨fun _ hc => absurd hc List.not_mem_nil, fun _ hc => absurd hc List.not_mem_nil⟩

lemma moves (h : KeptInv s) (hm : Moves s s') : KeptInv s' := by
  cases hm with
  | quiet hsent hout => exact ⟨hsent ▸ h.kept, hout ▸ h.fresh⟩
  | @data chunk rest hqueue hsent hout =>
    obtain ⟨hacked, hab, hre⟩ := h.fresh chunk (by rw [hqueue]; exact List.mem_cons_self)
    refine ⟨?_, ?_⟩
    · rw [hsent, List.forall_mem_append]
      exact ⟨h.kept, fun c hc => List.mem_singleton.mp hc ▸ hab⟩
    · rw [hout]
      exact fun c hc => h.fresh c (by rw [hqueue]; exact List.mem_cons_of_mem _ hc)
  | @again i chunk hchunk hre hsent hout =>
    refine ⟨fun c hc => ?_, hout ▸ h.fresh⟩
    rw [hsent] at hc
    rcases List.mem_or_eq_of_mem_set hc with hc | rfl
    · exact h.kept c hc
    · exact h.kept chunk (List.mem_of_getElem? hchunk)

lemma enqueue (h : KeptInv s) (a : SendArgs) : KeptInv (s.enqueue a) := by
  refine ⟨h.kept, fun c hc => ?_⟩
  rcases List.mem_append.mp hc with hc | hc
  · exact h.fresh c hc
  · obtain ⟨i, -, rfl⟩ := SendArgs.mem_chunks.mp hc
    exact ⟨rfl, rfl, rfl⟩

/-- The chunks at the head that are given up leave the queue. -/
lemma updateAdvancedPeerAckPoint (hfirst : AbandonedFirst s.sentQueue)
    (hfresh : ∀ c ∈ s.outboundQueue, c.acked = false ∧ c.abandoned = false ∧ c.retransmit = false) :
    KeptInv s.updateAdvancedPeerAckPoint := by
  refine ⟨?_, ?_⟩
  · rw [s.updateAdvancedPeerAckPoint_sentQueue]
    exact abandonedFirst_dropWhile hfirst
  · rw [s.updateAdvancedPeerAckPoint_same.outboundQueue]
    exact hfresh

lemma expire (h : KeptInv s) : KeptInv s.expire := by
  have hmarked : KeptInv
      { s with timer3 := false, sentQueue := expireChunks s.time s.sentQueue
        }.updateAdvancedPeerAckPoint :=
    KeptInv.updateAdvancedPeerAckPoint (abandonedFirst_expireChunks h.kept) h.fresh
  exact ⟨hmarked.kept, hmarked.fresh⟩

/-- What a SACK leaves in the queue. -/
lemma acknowledge (h : KeptInv s) (chunk : SackChunk) :
    AbandonedFirst (s.acknowledge chunk).queue := by
  have hrest : ∀ c ∈ beyondCumulative chunk.cumulativeTsn s.sentQueue, c.abandoned = false :=
    fun c hc => h.kept c ((List.dropWhile_sublist _).subset hc)
  unfold Sender.acknowledge handleGaps
  split_ifs with hnil
  · exact abandonedFirst_of_none hrest
  · refine abandonedFirst_strikeMissing (abandonedFirst_of_none fun d hd => ?_) _
    rcases mem_ackGaps_cases hd with hd | ⟨c, -, hc, rfl⟩
    · exact hrest d hd
    · exact hrest c hc

lemma step (h : KeptInv s) {e : Event} (hs : s.step e = some s') : KeptInv s' := by
  cases e with
  | send a =>
    obtain rfl := Option.some.inj hs
    exact (h.enqueue a).moves (startTransmit_moves _)
  | receiveSack chunk =>
    obtain rfl := Option.some.inj hs
    unfold receiveSackChunk
    split_ifs
    · exact h
    · exact KeptInv.updateAdvancedPeerAckPoint (h.acknowledge chunk) h.fresh
  | sackHandled =>
    obtain ⟨-, hs⟩ := Option.ite_none_right_eq_some.mp hs
    obtain rfl := Option.some.inj hs
    exact h.moves ((startTransmit_moves _).congr rfl rfl rfl)
  | resume => exact h.moves (resume_moves hs)
  | timer3Expired =>
    obtain ⟨-, hs⟩ := Option.ite_none_right_eq_some.mp hs
    obtain rfl := Option.some.inj hs
    exact h.expire.moves (startTransmit_moves _)
  | receiveInit advertisedRwnd =>
    obtain rfl := Option.some.inj hs
    exact ⟨h.kept, h.fresh⟩
  | tick now =>
    obtain ⟨-, hs⟩ := Option.ite_none_right_eq_some.mp hs
    obtain rfl := Option.some.inj hs
    exact ⟨h.kept, h.fresh⟩

end KeptInv

/-! ## Chunks that wait for retransmission -/

/-- The T3 timer expires: an acknowledged chunk is over its limits or belongs to the message that is
given up, so it is not marked for retransmission. -/
def AckedExpired (now : ℚ) (q : List DataChunk) : Prop :=
  ∀ i c, q[i]? = some c → c.acked = true →
    c.shouldAbandon now = true ∨ SameMessage q 0 i ∧ OverLimit now q q.length

/-- No chunk that waits for retransmission is acknowledged in a gap block, and no acknowledged chunk
is marked for retransmission. -/
def MarksOk (s : Sender) : Event → Prop
  | .timer3Expired => AckedExpired s.time s.sentQueue
  | .receiveSack chunk => uint32Gt s.lastSackedTsn chunk.cumulativeTsn = false → chunk.gaps ≠ [] →
      ∀ c ∈ newlyAcked (expandGaps chunk.cumulativeTsn chunk.gaps)
        (beyondCumulative chunk.cumulativeTsn s.sentQueue), c.retransmit = false
  | _ => True

/-- What such steps preserve besides: a chunk that waits for retransmission is not acknowledged. -/
structure MarkInv (s : Sender) : Prop extends KeptInv s where
  pending : ∀ c ∈ s.sentQueue, c.retransmit = true → c.acked = false

/-- Nothing has been sent yet. -/
lemma markInv_initial (maxPayloadSize : ℕ) (localTsn : ℤ) (rwnd : ℕ) :
    MarkInv (Sender.initial maxPayloadSize localTsn rwnd) :=
  ⟨KeptInv.initial _ _ _, fun _ hc => absurd hc List.not_mem_nil⟩

namespace MarkInv

variable {s s' : Sender}

lemma moves (h : MarkInv s) (hm : Moves s s') : MarkInv s' := by
  refine ⟨h.toKeptInv.moves hm, ?_⟩
  cases hm with
  | quiet hsent hout => exact hsent ▸ h.pending
  | @data chunk rest hqueue hsent hout =>
    have hacked := (h.fresh chunk (by rw [hqueue]; exact List.mem_cons_self)).1
    rw [hsent, List.forall_mem_append]
    exact ⟨h.pending, fun c hc => List.mem_singleton.mp hc ▸ fun _ => hacked⟩
  | @again i chunk hchunk hre hsent hout =>
    intro c hc
    rw [hsent] at hc
    rcases List.mem_or_eq_of_mem_set hc with hc | rfl
    · exact h.pending c hc
    · exact fun hr => absurd hr Bool.false_ne_true

/-- The chunks at the head that are given up leave the queue. -/
lemma pending_updateAdvancedPeerAckPoint
    (h : ∀ c ∈ s.sentQueue, c.retransmit = true → c.acked = false) :
    ∀ c ∈ s.updateAdvancedPeerAckPoint.sentQueue, c.retransmit = true → c.acked = false := by
  rw [s.updateAdvancedPeerAckPoint_sentQueue]
  exact fun c hc => h c ((List.dropWhile_sublist _).subset hc)

lemma expire (h : MarkInv s) (hok : AckedExpired s.time s.sentQueue) : MarkInv s.expire := by
  refine ⟨h.toKeptInv.expire, ?_⟩
  have hspec := @expireChunks_spec s.time _ h.kept
  have hpending : ∀ d ∈ expireChunks s.time s.sentQueue, d.retransmit = true → d.acked = false := by
    intro d hd hretransmit
    obtain ⟨i, hi⟩ := List.mem_iff_getElem?.mp hd
    have hlt : i < s.sentQueue.length := by
      rw [← hspec.length]
      exact (List.getElem?_eq_some_iff.mp hi).1
    have hc : s.sentQueue[i]? = some s.sentQueue[i] := List.getElem?_eq_getElem hlt
    obtain ⟨hd', -⟩ | ⟨hd', -, hno⟩ | ⟨-, hle, -⟩ := hspec.cases hc
    · obtain rfl := Option.some.inj (hi.symm.trans hd')
      exact absurd hretransmit Bool.false_ne_true
    · obtain rfl := Option.some.inj (hi.symm.trans hd')
      unfold expiredChunk at hretransmit ⊢
      split_ifs at hretransmit ⊢ with hs
      · exact h.pending _ (List.mem_of_getElem? hc) hretransmit
      · rw [← Bool.not_eq_true]
        intro hacked
        rcases hok i _ hc hacked with h1 | h1
        · exact hs h1
        · exact hno ⟨h1.2, h1.1⟩
    · omega
  exact pending_updateAdvancedPeerAckPoint
    (s := { s with timer3 := false, sentQueue := expireChunks s.time s.sentQueue }) hpending

lemma acknowledge (h : MarkInv s) {chunk : SackChunk}
    (hold : uint32Gt s.lastSackedTsn chunk.cumulativeTsn = false)
    (hok : MarksOk s (.receiveSack chunk)) :
    ∀ c ∈ (s.acknowledge chunk).queue, c.retransmit = true → c.acked = false := by
  have hrest : ∀ c ∈ beyondCumulative chunk.cumulativeTsn s.sentQueue,
      c.retransmit = true → c.acked = false :=
    fun c hc => h.pending c ((List.dropWhile_sublist _).subset hc)
  unfold Sender.acknowledge handleGaps
  split_ifs with hnil
  · exact hrest
  · refine pending_strikeMissing (fun d hd hretransmit => ?_) _
    rcases mem_ackGaps_cases hd with hd | ⟨c, hc, -, rfl⟩
    · exact hrest d hd hretransmit
    · exact absurd (hretransmit.symm.trans (hok hold hnil c hc)) Bool.false_ne_true.symm

/-- What a step that meets the condition preserves. -/
lemma step (h : MarkInv s) {e : Event} (hok : MarksOk s e) (hs : s.step e = some s') :
    MarkInv s' := by
  have hkept := h.toKeptInv.step hs
  cases e with
  | send a =>
    obtain rfl := Option.some.inj hs
    exact MarkInv.moves ⟨h.enqueue a, h.pending⟩ (startTransmit_moves _)
  | receiveSack chunk =>
    obtain rfl := Option.some.inj hs
    refine ⟨hkept, ?_⟩
    unfold receiveSackChunk
    split_ifs with hold
    · exact h.pending
    · exact pending_updateAdvancedPeerAckPoint (h.acknowledge (by simpa using hold) hok)
  | sackHandled =>
    obtain ⟨-, hs⟩ := Option.ite_none_right_eq_some.mp hs
    obtain rfl := Option.some.inj hs
    exact h.moves ((startTransmit_moves _).congr rfl rfl rfl)
  | resume => exact h.moves (resume_moves hs)
  | timer3Expired =>
    obtain ⟨-, hs⟩ := Option.ite_none_right_eq_some.mp hs
    obtain rfl := Option.some.inj hs
    exact (h.expire hok).moves (startTransmit_moves _)
  | receiveInit advertisedRwnd =>
    obtain rfl := Option.some.inj hs
    exact ⟨hkept, h.pending⟩
  | tick now =>
    obtain ⟨-, hs⟩ := Option.ite_none_right_eq_some.mp hs
    obtain rfl := Option.some.inj hs
    exact ⟨hkept, h.pending⟩

end MarkInv

end Werift.Sctp
