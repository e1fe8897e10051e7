import Mathlib

/-!
# Moving chosen elements to the front

`distinct l` are the elements of `l` in the order in which they first occur, and `moveToFront chosen l` is `l` with
those of its elements that are chosen moved to the front, in the order of choice.  Choosing twice is choosing once.
-/

namespace FrontOrder

variable {α β : Type} [DecidableEq α] {a : α} {l chosen : List α}

/-- The elements in the order in which they first occur. -/
def distinct : List α → List α
  | [] => []
  | a :: l => a :: (distinct l).filter (· ≠ a)

@[simp] lemma mem_distinct : a ∈ distinct l ↔ a ∈ l := by
  induction l with
  | nil => rfl
  | cons b l ih =>
    rw [distinct, List.mem_cons, List.mem_cons, List.mem_filter, ih, decide_eq_true_eq]
    by_cases h : a = b
    · simp [h]
    · simp [h]

lemma nodup_distinct (l : List α) : (distinct l).Nodup := by
  induction l with
  | nil => exact List.nodup_nil
  | cons a l ih =>
    rw [distinct, List.nodup_cons]
    exact ⟨fun h => of_decide_eq_true (List.mem_filter.mp h).2 rfl, ih.filter _⟩

/-- The elements of a list with the chosen ones in front. -/
def moveToFront (chosen l : List α) : List α := chosen.filter (· ∈ l) ++ l.filter (· ∉ chosen)

@[simp] lemma mem_moveToFront : a ∈ moveToFront chosen l ↔ a ∈ l := by
  rw [moveToFront, List.mem_append, List.mem_filter, List.mem_filter, decide_eq_true_eq, decide_eq_true_eq]
  by_cases h : a ∈ chosen
  · simp [h]
  · simp [h]

lemma nodup_moveToFront (hchosen : chosen.Nodup) (hl : l.Nodup) : (moveToFront chosen l).Nodup := by
  refine List.nodup_append.mpr ⟨hchosen.filter _, hl.filter _, ?_⟩
  rintro a ha b hb rfl
  exact of_decide_eq_true (List.mem_filter.mp hb).2 (List.mem_filter.mp ha).1

/-- Choosing the same elements once more changes nothing. -/
theorem moveToFront_idem (chosen l : List α) :
    moveToFront chosen (moveToFront chosen l) = moveToFront chosen l := by
  have hfront : chosen.filter (· ∈ moveToFront chosen l) = chosen.filter (· ∈ l) := by
    simp only [mem_moveToFront]
  have hrest : (moveToFront chosen l).filter (· ∉ chosen) = l.filter (· ∉ chosen) := by
    rw [moveToFront, List.filter_append, List.filter_filter, List.filter_filter]
    have hnone : chosen.filter (fun a => decide (a ∉ chosen) && decide (a ∈ l)) = [] := by
      refine List.filter_eq_nil_iff.mpr fun a ha => ?_
      simp [ha]
    rw [hnone, List.nil_append]
    exact List.filter_congr fun a _ => Bool.and_self _
  rw [moveToFront, hfront, hrest, ← moveToFront]

/-- What is found first among the chosen elements is found first when they have been moved to the front. -/
lemma find?_moveToFront {p : α → Bool} (h : (chosen.filter (· ∈ l)).find? p = some a) :
    (moveToFront chosen l).find? p = some a := by
  rw [moveToFront, List.find?_append, h, Option.some_or]

end FrontOrder
