import Mathlib

/-!
# Bits of a list of words

A list of words of `w` bits is read as one sequence of bits, the least significant bit of the first word
first.  `bit` reads a bit, and beyond the end it reads `false`.  Setting a bit, dropping the first word
and shifting all words by less than a word do to this sequence what their names say.
-/

namespace Bitmap

variable {w : ℕ} {l : List (BitVec w)} {i j n : ℕ}

/-- The word at an index; a missing one reads as zero. -/
def word (l : List (BitVec w)) (i : ℕ) : BitVec w := l[i]?.getD 0

/-- The bit at an index. -/
def bit (l : List (BitVec w)) (i : ℕ) : Bool := (word l (i / w)).getLsbD (i % w)

@[simp] lemma word_replicate_zero (n i : ℕ) : word (List.replicate n (0 : BitVec w)) i = 0 := by
  unfold word
  rw [List.getElem?_replicate]
  split_ifs <;> rfl

/-- Zero words have no bits. -/
@[simp] lemma bit_replicate_zero (n i : ℕ) : bit (List.replicate n (0 : BitVec w)) i = false := by
  rw [bit, word_replicate_zero]
  exact BitVec.getLsbD_zero

/-- Beyond the words there are no bits. -/
lemma bit_eq_false_of_length_le (h : l.length * w ≤ i) (hw : 0 < w) : bit l i = false := by
  have hnone : l.length ≤ i / w := (Nat.le_div_iff_mul_le hw).mpr h
  rw [bit, word, List.getElem?_eq_none hnone]
  exact BitVec.getLsbD_zero

/-! ## Setting a bit -/

/-- Set the bit at the position `n` of the word at the index `k`. -/
def setBit (l : List (BitVec w)) (k n : ℕ) : List (BitVec w) := l.modify k (· ||| BitVec.twoPow w n)

@[simp] lemma length_setBit (l : List (BitVec w)) (k n : ℕ) : (setBit l k n).length = l.length :=
  by
  simp [setBit]

lemma word_setBit {k : ℕ} (hk : k < l.length) (n i : ℕ) :
    word (setBit l k n) i = if i = k then word l i ||| BitVec.twoPow w n else word l i := by
  unfold word setBit
  rw [List.getElem?_modify]
  by_cases h : i = k
  · subst h
    simp [List.getElem?_eq_getElem hk]
  · simp [h, Ne.symm h]

/-- **Setting a bit** sets this bit. -/
theorem bit_setBit {i j : ℕ} (hw : 0 < w) (hj : j < l.length * w) :
    bit (setBit l (j / w) (j % w)) i = (decide (i = j) || bit l i) := by
  have hk : j / w < l.length := (Nat.div_lt_iff_lt_mul hw).mpr hj
  have hi := Nat.div_add_mod i w
  have hj' := Nat.div_add_mod j w
  have hlt := Nat.mod_lt i hw
  rw [bit, word_setBit hk, bit]
  by_cases hword : i / w = j / w
  · rw [if_pos hword, BitVec.getLsbD_or, BitVec.getLsbD_twoPow, Bool.or_comm]
    congr 1
    by_cases hbit : i % w = j % w
    · have heq : i = j := by rw [← hi, ← hj', hword, hbit]
      simp [heq, Nat.mod_lt j hw]
    · have hne : i ≠ j := fun h => hbit (h ▸ rfl)
      simp [hne, Ne.symm hbit]
  · have hne : i ≠ j := fun h => hword (h ▸ rfl)
    rw [if_neg hword]
    simp [hne]

/-! ## Shifting -/

/-- **Dropping the first word** moves every bit by one word. -/
theorem bit_tail_append (hw : 0 < w) (l : List (BitVec w)) (i : ℕ) :
    bit (l.tail ++ [0]) i = bit l (i + w) := by
  have hword : ∀ k, word (l.tail ++ [0]) k = word l (k + 1) := by
    intro k
    unfold word
    rcases lt_or_ge k l.tail.length with hk | hk
    · rw [List.getElem?_append_left hk, List.getElem?_tail]
    · have hnone : l[k + 1]? = none := List.getElem?_eq_none (by rw [List.length_tail] at hk; omega)
      rw [List.getElem?_append_right hk, hnone]
      cases k - l.tail.length with
      | zero => rfl
      | succ d => rfl
  rw [bit, bit, hword, Nat.add_div_right i hw, Nat.add_mod_right]

/-- **Shifting by less than a word**: a bit comes from its own word or from the next one. -/
theorem bit_of_shifted {l' : List (BitVec w)} (hn : 0 < n) (hnw : n < w)
    (h : ∀ k, word l' k = word l k >>> n ||| word l (k + 1) <<< (w - n)) (i : ℕ) :
    bit l' i = bit l (i + n) := by
  have hw : 0 < w := hn.trans hnw
  obtain ⟨q, r, hr, rfl⟩ : ∃ q r, r < w ∧ i = w * q + r :=
    ⟨i / w, i % w, Nat.mod_lt i hw, (Nat.div_add_mod i w).symm⟩
  have hplace : ∀ q r, r < w → (w * q + r) / w = q ∧ (w * q + r) % w = r := by
    intro q r hr
    rw [Nat.mul_add_div hw, Nat.div_eq_of_lt hr, Nat.mul_add_mod, Nat.mod_eq_of_lt hr]
    exact ⟨rfl, rfl⟩
  rw [bit, h, BitVec.getLsbD_or, BitVec.getLsbD_ushiftRight, BitVec.getLsbD_shiftLeft, bit,
    (hplace q r hr).1, (hplace q r hr).2]
  rcases lt_or_ge (n + r) w with hin | hout
  · have heq : w * q + r + n = w * q + (n + r) := by omega
    have hless : r < w - n := by omega
    rw [heq, (hplace q (n + r) hin).1, (hplace q (n + r) hin).2]
    simp [hless]
  · have hnext : r - (w - n) < w := by omega
    have heq : w * q + r + n = w * (q + 1) + (r - (w - n)) := by
      rw [Nat.mul_succ]
      omega
    have hzero : (word l q).getLsbD (n + r) = false := BitVec.getLsbD_of_ge _ _ hout
    have hless : ¬ r < w - n := by omega
    rw [heq, (hplace (q + 1) _ hnext).1, (hplace (q + 1) _ hnext).2, hzero]
    simp [hr, hless]

end Bitmap
