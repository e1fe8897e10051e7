import Mathlib

/-!
# Sorting and reversing

A descending order is often made by a stable ascending sort and a reversal.  The result is sorted, but the
reversal turns elements with the same key around: each time the list is sorted again they change their
order.  So sorting again keeps the list exactly if no two elements have the same key
(`sortReversed_fixed_iff`), and then the order also survives a new element (`sublist_sortReversed_append`).
-/

namespace ReversedSort

variable {α κ : Type*} [LinearOrder κ] {key : α → κ} {l : List α}

/-- The list in descending order of the keys. -/
def sortReversed (key : α → κ) (l : List α) : List α :=
  (l.mergeSort fun a b => key a ≤ key b).reverse

lemma le_trans_key (key : α → κ) (a b c : α) :
    decide (key a ≤ key b) = true → decide (key b ≤ key c) = true → decide (key a ≤ key c) = true := by
  simp only [decide_eq_true_eq]
  exact le_trans

lemma le_total_key (key : α → κ) (a b : α) :
    (decide (key a ≤ key b) || decide (key b ≤ key a)) = true := by
  simpa using le_total (key a) (key b)

lemma sortReversed_perm (key : α → κ) (l : List α) : (sortReversed key l).Perm l :=
  (List.reverse_perm _).trans (List.mergeSort_perm l _)

lemma mem_sortReversed {a : α} : a ∈ sortReversed key l ↔ a ∈ l := (sortReversed_perm key l).mem_iff

/-- The keys do not increase. -/
lemma pairwise_sortReversed (key : α → κ) (l : List α) :
    (sortReversed key l).Pairwise fun a b => key b ≤ key a := by
  rw [sortReversed, List.pairwise_reverse]
  exact (List.pairwise_mergeSort (le_trans_key key) (le_total_key key) l).imp fun h => by simpa using h

/-- **The reversal turns ties around.** -/
lemma pair_sublist_sortReversed {a b : α} (h : [a, b].Sublist l) (heq : key a = key b) :
    [b, a].Sublist (sortReversed key l) := by
  have hle : decide (key a ≤ key b) = true := by simp [heq]
  have hsub := List.pair_sublist_mergeSort (le_trans_key key) (le_total_key key) hle h
  exact hsub.reverse

/-- Two different elements stand in one of the two orders. -/
lemma pair_sublist_or {a b : α} (ha : a ∈ l) (hb : b ∈ l) (hne : a ≠ b) :
    [a, b].Sublist l ∨ [b, a].Sublist l := by
  induction l with
  | nil => cases ha
  | cons x l ih =>
    rcases List.mem_cons.mp ha with rfl | ha'
    · refine Or.inl (List.Sublist.cons_cons a (List.singleton_sublist.mpr ?_))
      exact (List.mem_cons.mp hb).resolve_left fun h => hne h.symm
    · rcases List.mem_cons.mp hb with rfl | hb'
      · exact Or.inr (List.Sublist.cons_cons b (List.singleton_sublist.mpr ha'))
      · exact (ih ha' hb').imp (fun h => h.cons x) fun h => h.cons x

/-- In a list without repetitions two elements have one order. -/
lemma not_pair_sublist {a b : α} (hl : l.Nodup) (h : [a, b].Sublist l) : ¬ [b, a].Sublist l := by
  induction l with
  | nil => cases h
  | cons x l ih =>
    intro h'
    obtain ⟨hx, hl⟩ := List.nodup_cons.mp hl
    cases h with
    | cons _ h =>
      cases h' with
      | cons _ h' => exact ih hl h h'
      | cons_cons _ h' => exact hx (h.subset (List.mem_cons_of_mem _ List.mem_cons_self))
    | cons_cons _ h =>
      cases h' with
      | cons _ h' => exact hx (h'.subset (List.mem_cons_of_mem _ List.mem_cons_self))
      | cons_cons _ h' => exact hx (List.singleton_sublist.mp h)

/-- **Sorting again** keeps the list if and only if no two elements have the same key. -/
theorem sortReversed_fixed_iff (hl : l.Nodup) :
    sortReversed key (sortReversed key l) = sortReversed key l ↔
      ∀ a ∈ l, ∀ b ∈ l, key a = key b → a = b := by
  have hnodup : (sortReversed key l).Nodup := (sortReversed_perm key l).nodup_iff.mpr hl
  constructor
  · intro hfix a ha b hb heq
    by_contra hne
    have hturn : ∀ {a b : α}, [a, b].Sublist (sortReversed key l) → key a ≠ key b := by
      intro a b hsub heq
      have hback := pair_sublist_sortReversed hsub heq
      rw [hfix] at hback
      exact not_pair_sublist hnodup hsub hback
    have ha' : a ∈ sortReversed key l := mem_sortReversed.mpr ha
    rcases pair_sublist_or ha' (mem_sortReversed.mpr hb) hne with h | h
    · exact hturn h heq
    · exact hturn h heq.symm
  · intro hinj
    refine List.Perm.eq_of_pairwise ?_ (pairwise_sortReversed key _) (pairwise_sortReversed key l)
      (sortReversed_perm key _)
    intro a b ha hb h h'
    rw [mem_sortReversed, mem_sortReversed] at ha
    exact hinj a ha b (mem_sortReversed.mp hb) (le_antisymm h' h)

/-- **A new element** goes to its place, and leaves the order of the other ones. -/
theorem sublist_sortReversed_append [DecidableEq α] (hinj : ∀ a ∈ l, ∀ b ∈ l, key a = key b → a = b)
    (added : α) : (sortReversed key l).Sublist (sortReversed key (sortReversed key l ++ [added])) := by
  have hperm : ((sortReversed key (sortReversed key l ++ [added])).erase added).Perm
      (sortReversed key l) := by
    have hnew : (sortReversed key (sortReversed key l ++ [added])).Perm
        (added :: sortReversed key l) :=
      (sortReversed_perm key _).trans (List.perm_append_singleton added _)
    have herase := List.Perm.erase added hnew
    rwa [List.erase_cons_head] at herase
  have hsorted : ((sortReversed key (sortReversed key l ++ [added])).erase added).Pairwise
      fun a b => key b ≤ key a :=
    (pairwise_sortReversed key _).sublist List.erase_sublist
  have heq : (sortReversed key (sortReversed key l ++ [added])).erase added = sortReversed key l := by
    refine List.Perm.eq_of_pairwise ?_ hsorted (pairwise_sortReversed key l) hperm
    intro a b ha hb h h'
    rw [hperm.mem_iff, mem_sortReversed] at ha
    exact hinj a ha b (mem_sortReversed.mp hb) (le_antisymm h' h)
  have hsub := List.erase_sublist (a := added) (l := sortReversed key (sortReversed key l ++ [added]))
  rwa [heq] at hsub

end ReversedSort
