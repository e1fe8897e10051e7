import Werift.Lib.Queue

/-!
# Segments of the natural numbers

The elements of a list have sizes, and each of them takes the next numbers: the element at the index
`j` takes the `w a` numbers from `offset w l j` on.  `At w l k j i a` says that the number `k` is the
one at the position `i` of the element `a` at the index `j`.  Every number below the total size has
exactly one such place.
-/

namespace Segments

open Queue

variable {α : Type*} {w : α → ℕ} {l l' : List α} {k k' j j' i i' : ℕ} {a a' : α}

/-- The first number of the element at the index `j`. -/
def offset (w : α → ℕ) (l : List α) (j : ℕ) : ℕ := total w (l.take j)

/-- The number `k` has the position `i` in the element `a` at the index `j`. -/
structure At (w : α → ℕ) (l : List α) (k j i : ℕ) (a : α) : Prop where
  elem : l[j]? = some a
  lt : i < w a
  eq : k = offset w l j + i

@[simp] lemma offset_zero : offset w l 0 = 0 := by
  simp [offset]

lemma offset_succ (h : l[j]? = some a) : offset w l (j + 1) = offset w l j + w a := by
  rw [offset, offset, List.take_add_one, h, Option.toList_some, total_append, total_cons, total_nil,
    Nat.add_zero]

lemma offset_length (w : α → ℕ) (l : List α) : offset w l l.length = total w l := by
  rw [offset, List.take_length]

lemma offset_mono (h : j ≤ j') : offset w l j ≤ offset w l j' := by
  obtain ⟨d, rfl⟩ := Nat.exists_eq_add_of_le h
  rw [offset, offset, List.take_add, total_append]
  exact Nat.le_add_right _ _

lemma offset_le_total (w : α → ℕ) (l : List α) (j : ℕ) : offset w l j ≤ total w l := by
  have h := congrArg (total w) (List.take_append_drop j l)
  rw [total_append] at h
  unfold offset
  omega

lemma offset_append (h : j ≤ l.length) : offset w (l ++ l') j = offset w l j := by
  rw [offset, offset, List.take_append_of_le_length h]

namespace At

lemma lt_length (h : At w l k j i a) : j < l.length := (List.getElem?_eq_some_iff.mp h.elem).1

/-- Places stay when elements are appended. -/
lemma append (h : At w l k j i a) (l' : List α) : At w (l ++ l') k j i a where
  elem := by rw [List.getElem?_append_left h.lt_length, h.elem]
  lt := h.lt
  eq := by rw [offset_append h.lt_length.le, h.eq]

lemma lt_total (h : At w l k j i a) : k < total w l := by
  have hle := offset_le_total w l (j + 1)
  rw [offset_succ h.elem] at hle
  have := h.lt
  have := h.eq
  omega

/-- A later element has larger numbers. -/
lemma lt_of_lt (h : At w l k j i a) (h' : At w l k' j' i' a') (hj : j < j') : k < k' := by
  have hle : offset w l (j + 1) ≤ offset w l j' := offset_mono hj
  rw [offset_succ h.elem] at hle
  have := h.lt
  have := h.eq
  have := h'.eq
  omega

/-- **A number has one place.** -/
theorem unique (h : At w l k j i a) (h' : At w l k j' i' a') : j = j' ∧ i = i' ∧ a = a' := by
  have hj : j = j' := by
    rcases lt_trichotomy j j' with hlt | heq | hlt
    · exact absurd (h.lt_of_lt h' hlt) (lt_irrefl _)
    · exact heq
    · exact absurd (h'.lt_of_lt h hlt) (lt_irrefl _)
  subst hj
  refine ⟨rfl, ?_, Option.some.inj (h.elem.symm.trans h'.elem)⟩
  have := h.eq
  have := h'.eq
  omega

/-- Where an element starts, the number is the first one of an element. -/
lemma eq_zero_of_offset (h : At w l (offset w l j') j i a) : i = 0 := by
  have heq := h.eq
  have hlt := h.lt
  rcases Nat.lt_or_ge j j' with hj | hj
  · have hle : offset w l (j + 1) ≤ offset w l j' := offset_mono hj
    rw [offset_succ h.elem] at hle
    omega
  · have := offset_mono (w := w) (l := l) hj
    omega

/-- The next number of the same element. -/
lemma next (h : At w l k j i a) (hi : i + 1 < w a) : At w l (k + 1) j (i + 1) a :=
  ⟨h.elem, hi, by rw [h.eq, Nat.add_assoc]⟩

end At

/-- **Every number below the total size has a place.** -/
theorem exists_at (h : k < total w l) : ∃ j i a, At w l k j i a := by
  induction l using List.reverseRecOn with
  | nil => simp at h
  | append_singleton l a ih =>
    by_cases hk : k < total w l
    · obtain ⟨j, i, b, hb⟩ := ih hk
      exact ⟨j, i, b, hb.append _⟩
    · rw [total_append, total_cons, total_nil, Nat.add_zero] at h
      refine ⟨l.length, k - total w l, a, by simp, by omega, ?_⟩
      rw [offset_append le_rfl, offset_length]
      omega

/-- The numbers of the element at the index `j`. -/
def numbers (w : α → ℕ) (l : List α) (j : ℕ) : List ℕ :=
  match l[j]? with
  | none => []
  | some a => (List.range (w a)).map (offset w l j + ·)

lemma numbers_append (h : j < l.length) : numbers w (l ++ l') j = numbers w l j := by
  rw [numbers, numbers, List.getElem?_append_left h, offset_append h.le]

end Segments
