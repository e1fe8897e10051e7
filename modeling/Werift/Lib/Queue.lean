import Mathlib

/-!
# Lists as queues

A queue is often split where a test fails for the first time.  If the test cannot become true again
further back, the split is the one into the elements that pass the test and the others.  The last
part is about the sum of a weight over a queue of which one element is replaced.
-/

namespace Queue

variable {α : Type*}

/-- **The tested front** of a queue on which the test does not become true again. -/
theorem takeWhile_eq_filter {p : α → Bool} {l : List α}
    (h : l.Pairwise fun a b => p b = true → p a = true) : l.takeWhile p = l.filter p := by
  induction l with
  | nil => rfl
  | cons a l ih =>
    obtain ⟨ha, hl⟩ := List.pairwise_cons.mp h
    by_cases hp : p a = true
    · rw [List.takeWhile_cons_of_pos hp, List.filter_cons_of_pos hp, ih hl]
    · rw [List.takeWhile_cons_of_neg hp, List.filter_cons_of_neg hp, eq_comm,
        List.filter_eq_nil_iff]
      exact fun b hb hpb => hp (ha b hb hpb)

/-- **The rest** of a queue on which the test does not become true again. -/
theorem dropWhile_eq_filter {p : α → Bool} {l : List α}
    (h : l.Pairwise fun a b => p b = true → p a = true) : l.dropWhile p = l.filter (!p ·) := by
  induction l with
  | nil => rfl
  | cons a l ih =>
    obtain ⟨ha, hl⟩ := List.pairwise_cons.mp h
    by_cases hp : p a = true
    · rw [List.dropWhile_cons_of_pos hp, List.filter_cons_of_neg (by simp [hp]), ih hl]
    · rw [List.dropWhile_cons_of_neg hp, List.filter_cons_of_pos (by simp [hp]), eq_comm,
        List.cons.injEq]
      exact ⟨rfl, List.filter_eq_self.mpr fun b hb => by
        simpa using fun hpb => hp (ha b hb hpb)⟩

/-- **The length of the tested front.** -/
theorem length_takeWhile_eq {p : α → Bool} {l : List α} {k : ℕ} (hk : k ≤ l.length)
    (hfront : ∀ i a, i < k → l[i]? = some a → p a = true)
    (hnext : ∀ a, l[k]? = some a → p a = false) : (l.takeWhile p).length = k := by
  induction l generalizing k with
  | nil =>
    rw [List.length_nil, Nat.le_zero] at hk
    rw [hk, List.takeWhile_nil, List.length_nil]
  | cons b l ih =>
    cases k with
    | zero => rw [List.takeWhile_cons_of_neg (by simp [hnext b rfl]), List.length_nil]
    | succ k =>
      have hb : p b = true := hfront 0 b (by omega) rfl
      rw [List.takeWhile_cons_of_pos hb, List.length_cons, ih (by simpa using hk)
        (fun i a hi ha => hfront (i + 1) a (by omega) (by simpa using ha))
        fun a ha => hnext a (by simpa using ha)]

/-- What is left is the queue without its tested front. -/
lemma dropWhile_eq_drop (p : α → Bool) (l : List α) :
    l.dropWhile p = l.drop (l.takeWhile p).length := by
  have h : (l.takeWhile p ++ l.dropWhile p).drop (l.takeWhile p).length = l.dropWhile p :=
    List.drop_left
  rwa [List.takeWhile_append_dropWhile, eq_comm] at h

/-- A field that the new element has in common with the old one is the same in the whole queue. -/
lemma map_set_eq {β : Type*} {f : α → β} {l : List α} {i : ℕ} {a b : α} (h : l[i]? = some a)
    (hf : f b = f a) : (l.set i b).map f = l.map f := by
  induction l generalizing i with
  | nil => rfl
  | cons c l ih =>
    cases i with
    | zero =>
      obtain rfl : c = a := by simpa using h
      simp [hf]
    | succ i =>
      have := ih (i := i) (by simpa using h)
      simp [this]

lemma map_modify_eq {β : Type*} {f : α → β} {g : α → α} (hf : ∀ a, f (g a) = f a) (l : List α)
    (i : ℕ) : (l.modify i g).map f = l.map f := by
  induction l generalizing i with
  | nil => simp
  | cons a l ih =>
    cases i with
    | zero => simp [hf]
    | succ i => simp [ih]

/-! ## Weights -/

/-- The total weight of a queue. -/
def total (w : α → ℕ) (l : List α) : ℕ := (l.map w).sum

@[simp] lemma total_nil (w : α → ℕ) : total w [] = 0 := rfl

@[simp] lemma total_cons (w : α → ℕ) (a : α) (l : List α) : total w (a :: l) = w a + total w l := by
  simp [total]

@[simp] lemma total_append (w : α → ℕ) (l l' : List α) :
    total w (l ++ l') = total w l + total w l' := by
  simp [total]

lemma total_takeWhile_add (w : α → ℕ) (p : α → Bool) (l : List α) :
    total w (l.takeWhile p) + total w (l.dropWhile p) = total w l := by
  rw [← total_append, List.takeWhile_append_dropWhile]

lemma total_eq_zero {w : α → ℕ} {l : List α} (h : ∀ a ∈ l, w a = 0) : total w l = 0 := by
  induction l with
  | nil => rfl
  | cons a l ih => rw [total_cons, h a List.mem_cons_self, ih fun b hb => h b (List.mem_cons_of_mem _ hb)]

lemma total_congr {w w' : α → ℕ} {l : List α} (h : ∀ a ∈ l, w a = w' a) : total w l = total w' l := by
  rw [total, total, List.map_congr_left h]

lemma total_le_total {w w' : α → ℕ} {l : List α} (h : ∀ a ∈ l, w a ≤ w' a) :
    total w l ≤ total w' l := by
  induction l with
  | nil => exact le_rfl
  | cons a l ih =>
    rw [total_cons, total_cons]
    exact Nat.add_le_add (h a List.mem_cons_self) (ih fun b hb => h b (List.mem_cons_of_mem _ hb))

/-- An element weighs no more than its queue. -/
lemma le_total {w : α → ℕ} {l : List α} {a : α} (h : a ∈ l) : w a ≤ total w l :=
  List.single_le_sum (fun _ _ => Nat.zero_le _) _ (List.mem_map_of_mem h)

/-- A shorter rest of a queue weighs less. -/
lemma total_drop_le (w : α → ℕ) (l : List α) {m n : ℕ} (h : m ≤ n) :
    total w (l.drop n) ≤ total w (l.drop m) := by
  have hsplit := congrArg (total w) (List.take_append_drop (n - m) (l.drop m))
  rw [List.drop_drop, total_append, Nat.add_sub_cancel' h] at hsplit
  omega

lemma total_drop_succ_le {w : α → ℕ} {l : List α} {i m : ℕ} {a : α} (ha : l[i]? = some a)
    (h : m ≤ i) : w a + total w (l.drop (i + 1)) ≤ total w (l.drop m) := by
  obtain ⟨hlt, rfl⟩ := List.getElem?_eq_some_iff.mp ha
  have hcons := congrArg (total w) (List.drop_eq_getElem_cons hlt)
  rw [total_cons] at hcons
  rw [← hcons]
  exact total_drop_le w l h

/-- **Replacing one element.** -/
theorem total_set {w : α → ℕ} {l : List α} {i : ℕ} {a : α} (h : l[i]? = some a) (b : α) :
    total w (l.set i b) + w a = total w l + w b := by
  induction l generalizing i with
  | nil => simp at h
  | cons c l ih =>
    cases i with
    | zero =>
      obtain rfl : c = a := by simpa using h
      simp only [List.set_cons_zero, total_cons]
      omega
    | succ i =>
      have := ih (i := i) (by simpa using h)
      simp only [List.set_cons_succ, total_cons]
      omega

end Queue
