import Mathlib

/-!
# Pieces filled one after the other

Pieces of known sizes are filled with elements that arrive in parts.  What they hold depends on what has arrived,
and not on where it was parted (`fill_cut`).
-/

namespace Filling

variable {α : Type*}

/-- A piece of a known size, and what has arrived of it. -/
structure Piece (α : Type*) where
  size : ℕ
  data : List α
  length_le : data.length ≤ size
  deriving DecidableEq

variable {sizes : List ℕ} {l : List α} {pieces : List (Piece α)}

/-- The number of elements that have not arrived. -/
def Piece.missing (piece : Piece α) : ℕ := piece.size - piece.data.length

/-- A piece with what it takes of the elements that follow. -/
def Piece.append (piece : Piece α) (more : List α) : Piece α where
  size := piece.size
  data := piece.data ++ more.take piece.missing
  length_le := by
    have := piece.length_le
    rw [List.length_append, List.length_take, missing]
    omega

/-- Pieces of these sizes, filled in order. -/
def cut : List ℕ → List α → List (Piece α)
  | [], _ => []
  | size :: sizes, l => ⟨size, l.take size, List.length_take_le size l⟩ :: cut sizes (l.drop size)

/-- Pieces filled further in order. -/
def fill : List (Piece α) → List α → List (Piece α)
  | [], _ => []
  | piece :: pieces, more => piece.append more :: fill pieces (more.drop piece.missing)

/-- The number of elements that have not arrived, in all. -/
def missing (pieces : List (Piece α)) : ℕ := (pieces.map Piece.missing).sum

/-- The first piece that is not full. -/
def firstShort : List (Piece α) → Option ℕ
  | [] => none
  | piece :: pieces => if piece.data.length ≠ piece.size then some 0 else (firstShort pieces).map (· + 1)

@[simp] lemma missing_cons (piece : Piece α) (pieces : List (Piece α)) :
    missing (piece :: pieces) = piece.missing + missing pieces := List.sum_cons

lemma missing_mk_take (size : ℕ) (l : List α) :
    Piece.missing ⟨size, l.take size, List.length_take_le size l⟩ = size - l.length := by
  rw [Piece.missing, List.length_take]
  dsimp only
  omega

/-- **Filling in two steps** is filling in one. -/
theorem fill_cut (sizes : List ℕ) (l more : List α) : fill (cut sizes l) more = cut sizes (l ++ more) := by
  induction sizes generalizing l more with
  | nil => rfl
  | cons size sizes ih =>
    have hmissing := missing_mk_take size l
    rw [cut, fill, hmissing, ih, cut, List.drop_append]
    congr 1
    simp only [Piece.append, hmissing, List.take_append]

lemma missing_cut (sizes : List ℕ) (l : List α) : missing (cut sizes l) = sizes.sum - l.length := by
  induction sizes generalizing l with
  | nil => simp [cut, missing]
  | cons size sizes ih =>
    rw [cut, missing_cons, ih, missing_mk_take, List.sum_cons, List.length_drop]
    omega

/-- Pieces that are full stay as they are. -/
lemma take_append_fill {i : ℕ} (h : firstShort pieces = some i) (more : List α) :
    pieces.take i ++ fill (pieces.drop i) more = fill pieces more := by
  induction pieces generalizing i with
  | nil => cases h
  | cons piece pieces ih =>
    rw [firstShort] at h
    split_ifs at h with hshort
    · cases h
      rfl
    · obtain ⟨j, hj, rfl⟩ := Option.map_eq_some_iff.mp h
      have hfull : piece.data.length = piece.size := of_not_not hshort
      have hmissing : piece.missing = 0 := by rw [Piece.missing, hfull, Nat.sub_self]
      have happend : piece.append more = piece := by
        rw [Piece.append]
        simp only [hmissing, List.take_zero, List.append_nil]
      rw [List.take_succ_cons, List.drop_succ_cons, List.cons_append, ih hj, fill, hmissing, List.drop_zero,
        happend]

lemma missing_drop {i : ℕ} (h : firstShort pieces = some i) : missing (pieces.drop i) = missing pieces := by
  induction pieces generalizing i with
  | nil => cases h
  | cons piece pieces ih =>
    rw [firstShort] at h
    split_ifs at h with hshort
    · cases h
      rfl
    · obtain ⟨j, hj, rfl⟩ := Option.map_eq_some_iff.mp h
      have hfull : piece.data.length = piece.size := of_not_not hshort
      rw [List.drop_succ_cons, ih hj, missing_cons, Piece.missing, hfull, Nat.sub_self, Nat.zero_add]

lemma missing_pos {i : ℕ} (h : firstShort pieces = some i) : 0 < missing pieces := by
  induction pieces generalizing i with
  | nil => cases h
  | cons piece pieces ih =>
    rw [firstShort] at h
    rw [missing_cons]
    split_ifs at h with hshort
    · have := piece.length_le
      rw [Piece.missing]
      omega
    · obtain ⟨j, hj, rfl⟩ := Option.map_eq_some_iff.mp h
      have := ih hj
      omega

lemma missing_eq_zero (h : firstShort pieces = none) : missing pieces = 0 := by
  induction pieces with
  | nil => rfl
  | cons piece pieces ih =>
    rw [firstShort] at h
    split_ifs at h with hshort
    rw [missing_cons, ih (Option.map_eq_none_iff.mp h), Piece.missing, of_not_not hshort, Nat.sub_self]

/-- Pieces are full when everything has arrived. -/
lemma firstShort_cut_of_le (h : sizes.sum ≤ l.length) : firstShort (cut sizes l) = none := by
  induction sizes generalizing l with
  | nil => rfl
  | cons size sizes ih =>
    rw [List.sum_cons] at h
    have hfull : (l.take size).length = size := by
      rw [List.length_take]
      omega
    rw [cut, firstShort, if_neg (not_not.mpr hfull), ih (by rw [List.length_drop]; omega), Option.map_none]

/-- Something is missing, but not of the first piece. -/
lemma firstShort_cut_of_lt {size : ℕ} (hfirst : size ≤ l.length) (h : l.length < (size :: sizes).sum) :
    ∃ i : ℕ, firstShort (cut (size :: sizes) l) = some (i + 1) := by
  have hfull : (l.take size).length = size := List.length_take_of_le hfirst
  rw [cut, firstShort, if_neg (not_not.mpr hfull)]
  cases hrest : firstShort (cut sizes (l.drop size)) with
  | none =>
    have hmissing := missing_eq_zero hrest
    rw [missing_cut, List.length_drop] at hmissing
    rw [List.sum_cons] at h
    omega
  | some i => exact ⟨i, rfl⟩

lemma cut_append (h : sizes.sum ≤ l.length) (more : List α) : cut sizes (l ++ more) = cut sizes l := by
  induction sizes generalizing l with
  | nil => rfl
  | cons size sizes ih =>
    rw [List.sum_cons] at h
    have htake : (l ++ more).take size = l.take size := List.take_append_of_le_length (by omega)
    have hdrop : (l ++ more).drop size = l.drop size ++ more := List.drop_append_of_le_length (by omega)
    rw [cut, cut, hdrop, ih (by rw [List.length_drop]; omega)]
    congr 2

/-- The pieces of a list in pieces. -/
lemma data_cut (parts : List (List α)) : (cut (parts.map List.length) parts.flatten).map Piece.data = parts := by
  induction parts with
  | nil => rfl
  | cons part parts ih =>
    rw [List.map_cons, List.flatten_cons, cut, List.map_cons, List.drop_left, ih]
    exact congrArg (· :: parts) List.take_left

end Filling
