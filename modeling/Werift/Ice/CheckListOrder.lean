import Werift.Lib.ReversedSort

/-!
# The order of a check list (`ice/src/iceBase.ts`)

`sortCandidatePairs` sorts by `candidatePairPriority` and reverses.  The priority of a pair is the formula
of RFC 8445 with `1 << 32` for `2 ** 32`; the shift operator of the language takes its count modulo 32, so
that this is `1`.  `Ordered` is what an order of the check list is for, and `ordered_iff` says for which
lists the code provides it.
-/

namespace Werift.Ice

open ReversedSort

/-- `a << n`: the operands are 32-bit numbers, and the count is taken modulo 32. -/
def shiftLeft (a : ℤ) (n : ℕ) : ℤ := (BitVec.ofInt 32 a <<< (n % 32)).toInt

/-- A candidate pair with the priorities of its candidates; `id` tells pairs apart. -/
structure PrioritizedPair where
  id : ℕ
  localPriority : ℕ
  remotePriority : ℕ
deriving DecidableEq

/-- `(iceControlling && a) || b`. -/
def orElse (iceControlling : Bool) (a b : ℕ) : ℕ := if iceControlling ∧ a ≠ 0 then a else b

/-- `candidatePairPriority(local, remote, iceControlling)`. -/
def candidatePairPriority (localPriority remotePriority : ℕ) (iceControlling : Bool) : ℤ :=
  let G := orElse iceControlling localPriority remotePriority
  let D := orElse iceControlling remotePriority localPriority
  shiftLeft 1 32 * min G D + 2 * max G D + if G > D then 1 else 0

namespace PrioritizedPair

/-- The priority by which the code sorts. -/
def priority (p : PrioritizedPair) (iceControlling : Bool) : ℤ :=
  candidatePairPriority p.localPriority p.remotePriority iceControlling

/-- The priority of RFC 8445, where `G` belongs to the controlling and `D` to the controlled agent. -/
def pairPriority (p : PrioritizedPair) (iceControlling : Bool) : ℕ :=
  let G := if iceControlling then p.localPriority else p.remotePriority
  let D := if iceControlling then p.remotePriority else p.localPriority
  2 ^ 32 * min G D + 2 * max G D + if G > D then 1 else 0

/-- The pair as the peer has it. -/
def mirror (p : PrioritizedPair) : PrioritizedPair := ⟨p.id, p.remotePriority, p.localPriority⟩

/-- Priorities that RFC 8445 allows. -/
def Valid (p : PrioritizedPair) : Prop :=
  (0 < p.localPriority ∧ p.localPriority < 2 ^ 31) ∧ 0 < p.remotePriority ∧ p.remotePriority < 2 ^ 31

end PrioritizedPair

/-- `sortCandidatePairs(pairs, iceControlling)`. -/
def sortCandidatePairs (pairs : List PrioritizedPair) (iceControlling : Bool) : List PrioritizedPair :=
  sortReversed (fun p => p.priority iceControlling) pairs

/-- **What the order is for.**  The pairs come in the order of their priorities, the peer has the same
order up to ties, and sorting again, with or without a new pair, does not change it. -/
structure Ordered (pairs : List PrioritizedPair) (iceControlling : Bool) : Prop where
  sorted : (sortCandidatePairs pairs iceControlling).Pairwise fun p q =>
    q.pairPriority iceControlling ≤ p.pairPriority iceControlling
  agreed : ∀ pairs' : List PrioritizedPair, pairs'.Perm (pairs.map PrioritizedPair.mirror) →
    (sortCandidatePairs pairs' (!iceControlling)).map (fun p => p.pairPriority (!iceControlling)) =
      (sortCandidatePairs pairs iceControlling).map fun p => p.pairPriority iceControlling
  kept : sortCandidatePairs (sortCandidatePairs pairs iceControlling) iceControlling =
    sortCandidatePairs pairs iceControlling
  keptWith : ∀ added, (sortCandidatePairs pairs iceControlling).Sublist
    (sortCandidatePairs (sortCandidatePairs pairs iceControlling ++ [added]) iceControlling)

/-- The priorities of the code tell any two pairs apart, and never in the wrong order. -/
def TellsApart (pairs : List PrioritizedPair) (iceControlling : Bool) : Prop :=
  ∀ p ∈ pairs, ∀ q ∈ pairs, p ≠ q → p.priority iceControlling ≠ q.priority iceControlling ∧
    (p.priority iceControlling < q.priority iceControlling →
      p.pairPriority iceControlling ≤ q.pairPriority iceControlling)

section

variable {pairs : List PrioritizedPair} {iceControlling : Bool} {p q : PrioritizedPair}

/-- With the shift of the language the weight of the minimum is `1`. -/
lemma shiftLeft_one : shiftLeft 1 32 = 1 := by decide

/-- Both agents see the same priority of the code. -/
lemma priority_mirror (h : p.Valid) (iceControlling : Bool) :
    p.mirror.priority (!iceControlling) = p.priority iceControlling := by
  obtain ⟨⟨h1, -⟩, h2, -⟩ := h
  cases iceControlling <;>
    simp [PrioritizedPair.priority, PrioritizedPair.mirror, candidatePairPriority, orElse, h1.ne', h2.ne']

lemma pairPriority_mirror (p : PrioritizedPair) (iceControlling : Bool) :
    p.mirror.pairPriority (!iceControlling) = p.pairPriority iceControlling := by
  cases iceControlling <;> rfl

/-- Pairs that are told apart come in the right order. -/
lemma TellsApart.sorted (h : TellsApart pairs iceControlling) :
    (sortCandidatePairs pairs iceControlling).Pairwise fun p q =>
      q.pairPriority iceControlling ≤ p.pairPriority iceControlling := by
  refine (pairwise_sortReversed _ pairs).imp_of_mem fun {p q} hp hq hle => ?_
  rcases eq_or_ne q p with rfl | hne
  · exact le_rfl
  · obtain ⟨hkey, hlt⟩ := h q (mem_sortReversed.mp hq) p (mem_sortReversed.mp hp) hne
    exact hlt (lt_of_le_of_ne hle hkey)

/-- The peer tells its pairs apart as well. -/
lemma TellsApart.mirror (h : TellsApart pairs iceControlling) (hvalid : ∀ p ∈ pairs, p.Valid)
    {pairs' : List PrioritizedPair} (hperm : pairs'.Perm (pairs.map PrioritizedPair.mirror)) :
    TellsApart pairs' (!iceControlling) := by
  intro p' hp' q' hq' hne
  obtain ⟨p, hp, rfl⟩ := List.mem_map.mp (hperm.mem_iff.mp hp')
  obtain ⟨q, hq, rfl⟩ := List.mem_map.mp (hperm.mem_iff.mp hq')
  rw [priority_mirror (hvalid p hp), priority_mirror (hvalid q hq), pairPriority_mirror,
    pairPriority_mirror]
  exact h p hp q hq fun heq => hne (heq ▸ rfl)

/-- A right order tells the pairs apart. -/
lemma Ordered.tellsApart (h : Ordered pairs iceControlling) (hnodup : pairs.Nodup) :
    TellsApart pairs iceControlling := by
  intro p hp q hq hne
  have hinj := (sortReversed_fixed_iff hnodup).mp h.kept
  refine ⟨fun heq => hne (hinj p hp q hq heq), fun hlt => ?_⟩
  have hp' : p ∈ sortCandidatePairs pairs iceControlling := mem_sortReversed.mpr hp
  have hq' : q ∈ sortCandidatePairs pairs iceControlling := mem_sortReversed.mpr hq
  rcases pair_sublist_or hp' hq' hne with hsub | hsub
  · have hle := List.pairwise_pair.mp ((pairwise_sortReversed _ pairs).sublist hsub)
    exact absurd hlt (not_lt.mpr hle)
  · have hsorted := h.sorted.sublist hsub
    exact (List.pairwise_cons.mp hsorted).1 p List.mem_cons_self

/-- Pairs that are told apart are in order. -/
lemma TellsApart.ordered (h : TellsApart pairs iceControlling) (hvalid : ∀ p ∈ pairs, p.Valid)
    (hnodup : pairs.Nodup) : Ordered pairs iceControlling := by
  have hinj : ∀ p ∈ pairs, ∀ q ∈ pairs,
      p.priority iceControlling = q.priority iceControlling → p = q := by
    intro p hp q hq heq
    by_contra hne
    exact (h p hp q hq hne).1 heq
  refine ⟨h.sorted, fun pairs' hperm => ?_, (sortReversed_fixed_iff hnodup).mpr hinj,
    sublist_sortReversed_append hinj⟩
  have hanti : ∀ a b : ℕ, b ≤ a → a ≤ b → a = b := fun a b h1 h2 => le_antisymm h2 h1
  have hpeer := (h.mirror hvalid hperm).sorted.map _ (S := fun a b : ℕ => b ≤ a) fun _ _ hle => hle
  have hown := h.sorted.map _ (S := fun a b : ℕ => b ≤ a) fun _ _ hle => hle
  refine List.Perm.eq_of_pairwise (fun a b _ _ => hanti a b) hpeer hown ?_
  have hkeys : (pairs.map PrioritizedPair.mirror).map (fun p => p.pairPriority (!iceControlling)) =
      pairs.map fun p => p.pairPriority iceControlling := by
    rw [List.map_map]
    exact List.map_congr_left fun p _ => pairPriority_mirror p iceControlling
  refine ((sortReversed_perm _ pairs').map _).trans ((hperm.map _).trans ?_)
  rw [hkeys]
  exact ((sortReversed_perm _ pairs).map _).symm

/-- **The order of the check list** is what it should be exactly for the lists whose pairs the priorities of
the code tell apart in the right order. -/
theorem ordered_iff (hvalid : ∀ p ∈ pairs, p.Valid) (hnodup : pairs.Nodup) (iceControlling : Bool) :
    Ordered pairs iceControlling ↔ TellsApart pairs iceControlling :=
  ⟨fun h => h.tellsApart hnodup, fun h => h.ordered hvalid hnodup⟩

end

/-- A host candidate pair and a pair of server reflexive candidates. -/
def twoPairs : List PrioritizedPair := [⟨0, 2130706431, 2130706431⟩, ⟨1, 1694498815, 1694498815⟩]

/-- Two pairs of candidates with equal priorities come in the right order. -/
theorem ordered_twoPairs : Ordered twoPairs true := by
  refine (ordered_iff ?_ ?_ true).mpr ?_
  · unfold PrioritizedPair.Valid
    decide
  · decide
  · unfold TellsApart
    decide

/-- **The defect.**  A host candidate with a relayed one comes before two candidates of a middle priority,
although its smaller priority is smaller. -/
theorem not_ordered_mixed :
    ¬ Ordered [⟨0, 2130706431, 16777215⟩, ⟨1, 1000000000, 1000000000⟩] true := by
  intro h
  have happart := h.tellsApart (by decide) ⟨1, 1000000000, 1000000000⟩ (by simp)
    ⟨0, 2130706431, 16777215⟩ (by simp) (by decide)
  exact absurd (happart.2 (by decide)) (by decide)

end Werift.Ice
