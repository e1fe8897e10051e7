import Mathlib

/-!
# Intervals one behind the other

A list of intervals of integers tiles the numbers behind `p` up to `q` if the first one starts right
behind `p`, each other one right behind the one in front of it, and the last one ends in `q`.  Every
number from `p + 1` to `q` then lies in one interval of the list, and every other number in none.
-/

/-- The intervals, each given by its first and its last number, fill the numbers behind `p` up to
`q` in this order. -/
inductive Tiling : ℤ → List (ℤ × ℤ) → ℤ → Prop
  | nil (p : ℤ) : Tiling p [] p
  | cons {p last q : ℤ} {rest : List (ℤ × ℤ)} (nonempty : p < last) (tail : Tiling last rest q) :
      Tiling p ((p + 1, last) :: rest) q

namespace Tiling

variable {p q r x : ℤ} {l l' : List (ℤ × ℤ)}

lemma le (h : Tiling p l q) : p ≤ q := by
  induction h with
  | nil => exact le_rfl
  | cons hne _ ih => exact hne.le.trans ih

/-- Tilings are put together. -/
theorem append (h : Tiling p l q) (h' : Tiling q l' r) : Tiling p (l ++ l') r := by
  induction h with
  | nil => exact h'
  | cons hne _ ih => exact .cons hne (ih h')

/-- **One interval for each number.** -/
theorem countP_eq (h : Tiling p l q) :
    (l.countP fun i => decide (i.1 ≤ x ∧ x ≤ i.2)) = if p < x ∧ x ≤ q then 1 else 0 := by
  induction h with
  | nil => rw [List.countP_nil, if_neg (by omega)]
  | cons hne htail ih =>
    have hle := htail.le
    rw [List.countP_cons, ih]
    split_ifs <;> simp_all <;> omega

end Tiling
