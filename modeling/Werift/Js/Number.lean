import Mathlib

/-!
# Numbers of the source language

The integers of the program are JavaScript numbers.  They are modelled by `ℤ`: the remainder `%`
truncates towards zero, so that `-1 % n` is `-1`.  `Array.prototype.sort` without a comparator
orders numbers by their decimal texts, so that `10` comes before `9`.
-/

namespace Werift.Js

/-- `a % b`: the remainder has the sign of `a`. -/
def rem (a b : ℤ) : ℤ := a.tmod b

/-- `String(n)` for an integer `n`, as a list of characters. -/
def decimalText (n : ℤ) : List Char :=
  if n < 0 then '-' :: Nat.toDigits 10 n.natAbs else Nat.toDigits 10 n.natAbs

/-- Different natural numbers have different decimal texts. -/
private lemma toDigits_injective {m n : ℕ} (h : Nat.toDigits 10 m = Nat.toDigits 10 n) : m = n := by
  rw [← Nat.ofDigitChars_ten_toDigits (n := m), h, Nat.ofDigitChars_ten_toDigits]

/-- A minus sign is not a digit. -/
private lemma minus_cons_ne_toDigits (l : List Char) (n : ℕ) : '-' :: l ≠ Nat.toDigits 10 n := by
  intro h
  have hmem : '-' ∈ Nat.toDigits 10 n := h ▸ List.mem_cons_self
  exact absurd (Nat.isDigit_of_mem_toDigits (by decide) (by decide) hmem) (by decide)

/-- Different integers have different decimal texts. -/
theorem decimalText_injective : Function.Injective decimalText := by
  intro a b h
  unfold decimalText at h
  split_ifs at h with ha hb hb
  · have := toDigits_injective (List.cons.inj h).2
    omega
  · exact absurd h (minus_cons_ne_toDigits _ _)
  · exact absurd h.symm (minus_cons_ne_toDigits _ _)
  · have := toDigits_injective h
    omega

/-- The order of `Array.prototype.sort` without a comparator. -/
def textLE (a b : ℤ) : Prop := decimalText a ≤ decimalText b

instance : DecidableRel textLE := fun a b =>
  inferInstanceAs (Decidable (decimalText a ≤ decimalText b))

instance : Std.Total textLE := ⟨fun a b => le_total (decimalText a) (decimalText b)⟩

instance : IsTrans ℤ textLE := ⟨fun _ _ _ => le_trans⟩

/-- `[...numbers].sort()`. -/
def defaultSort (l : List ℤ) : List ℤ := l.insertionSort textLE

@[simp] lemma mem_defaultSort {l : List ℤ} {a : ℤ} : a ∈ defaultSort l ↔ a ∈ l :=
  List.mem_insertionSort _

/-- Sorting permutes the list. -/
lemma defaultSort_perm (l : List ℤ) : (defaultSort l).Perm l := List.perm_insertionSort _ l

/-- A sorted list without repetitions has strictly increasing decimal texts. -/
theorem pairwise_defaultSort {l : List ℤ} (hl : l.Nodup) :
    (defaultSort l).Pairwise (fun a b => decimalText a < decimalText b) := by
  have hsorted : (defaultSort l).Pairwise textLE := List.pairwise_insertionSort textLE l
  have hnodup : (defaultSort l).Pairwise (· ≠ ·) := (defaultSort_perm l).nodup_iff.mpr hl
  refine (hsorted.and hnodup).imp fun {a b} hab => ?_
  exact lt_of_le_of_ne hab.1 fun heq => hab.2 (decimalText_injective heq)

/-- A list whose decimal texts already increase is left alone. -/
lemma defaultSort_eq_self {l : List ℤ}
    (hl : l.Pairwise (fun a b => decimalText a < decimalText b)) : defaultSort l = l :=
  List.Pairwise.insertionSort_eq (hl.imp fun h => le_of_lt h)

/-- Ten sorts before nine. -/
example : defaultSort [8, 9, 10] = [10, 8, 9] := by decide

/-! ### Rounding (`Math.round`) -/

/-- `Math.round(x)`: the nearest integer, and the upper one of two. -/
def mathRound (x : ℚ) : ℤ := ⌊x + 1 / 2⌋

lemma mathRound_zero : mathRound 0 = 0 := by
  rw [mathRound]
  norm_num

lemma mathRound_nonneg {x : ℚ} (h : 0 ≤ x) : 0 ≤ mathRound x := Int.floor_nonneg.mpr (by linarith)

end Werift.Js
