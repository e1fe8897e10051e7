import Mathlib

/-!
# Dropping duplicates with a bounded history

A filter that remembers the keys of the last `size + 1` elements it has let through drops an element
whose key it remembers.  As long as its history can tell (`Distinguishes`) whether an element has come
before, it lets through what a filter with an unbounded history lets through (`filterAll_eq`).
-/

namespace BoundedHistory

variable {α β : Type*} [DecidableEq α] [DecidableEq β]

/-- The history with one more key. -/
def remember (size : ℕ) (history : List β) (k : β) : List β :=
  (if history.length > size then history.tail else history) ++ [k]

/-- One element: the history and what has been let through. -/
def filterStep (key : α → β) (size : ℕ) (s : List β × List α) (x : α) : List β × List α :=
  if key x ∈ s.1 then s else (remember size s.1 (key x), s.2 ++ [x])

/-- A list of elements. -/
def filterAll (key : α → β) (size : ℕ) (s : List β × List α) (xs : List α) : List β × List α :=
  xs.foldl (filterStep key size) s

/-- The filter with an unbounded history: everything it has let through. -/
def collect (delivered xs : List α) : List α :=
  xs.foldl (fun delivered x => if x ∈ delivered then delivered else delivered ++ [x]) delivered

/-- The last `n` elements. -/
def recent {γ : Type*} (n : ℕ) (l : List γ) : List γ := l.drop (l.length - n)

/-- A history of this length can tell whether the element has come before. -/
def Distinguishes (key : α → β) (n : ℕ) (delivered : List α) (x : α) : Prop :=
  (x ∈ delivered → x ∈ recent n delivered) ∧ ∀ y ∈ recent n delivered, key y = key x → y = x

variable {key : α → β} {size n : ℕ} {delivered xs : List α} {x y : α}

lemma length_recent {γ : Type*} (n : ℕ) (l : List γ) : (recent n l).length = min n l.length := by
  rw [recent, List.length_drop]
  omega

omit [DecidableEq β] in
lemma remember_recent (size : ℕ) (l : List β) (k : β) :
    remember size (recent (size + 1) l) k = recent (size + 1) (l ++ [k]) := by
  have hlength := length_recent (size + 1) l
  rw [remember, recent, recent, List.length_append, List.length_singleton]
  by_cases hfull : size < l.length
  · rw [if_pos (by rw [← recent, hlength]; omega), List.tail_drop,
      List.drop_append_of_le_length (by omega)]
    congr 2
    omega
  · rw [if_neg (by rw [← recent, hlength]; omega), Nat.sub_eq_zero_of_le (by omega),
      Nat.sub_eq_zero_of_le (by omega), List.drop_zero, List.drop_zero]

/-- **One element**: the bounded filter does what the unbounded one does. -/
lemma filterStep_eq {out : List α} (hx : Distinguishes key (size + 1) delivered x) :
    filterStep key size (recent (size + 1) (delivered.map key), out) x =
      if x ∈ delivered then (recent (size + 1) (delivered.map key), out)
      else (recent (size + 1) ((delivered ++ [x]).map key), out ++ [x]) := by
  have hmap : recent (size + 1) (delivered.map key) = (recent (size + 1) delivered).map key := by
    rw [recent, recent, List.length_map, List.map_drop]
  have hmem : key x ∈ recent (size + 1) (delivered.map key) ↔ x ∈ delivered := by
    rw [hmap, List.mem_map]
    constructor
    · rintro ⟨y, hy, heq⟩
      obtain rfl := hx.2 y hy heq
      exact List.mem_of_mem_drop hy
    · intro h
      exact ⟨x, hx.1 h, rfl⟩
  rw [filterStep]
  simp only [hmem, remember_recent, List.map_append, List.map_cons, List.map_nil]

lemma collect_cons : collect delivered (x :: xs) =
    collect (if x ∈ delivered then delivered else delivered ++ [x]) xs := rfl

/-- **What is new** comes behind what has been delivered. -/
lemma collect_eq_append (delivered xs : List α) : ∃ new, collect delivered xs = delivered ++ new ∧
    (∀ x ∈ new, x ∈ xs ∧ x ∉ delivered) ∧ new.Nodup := by
  induction xs generalizing delivered with
  | nil => exact ⟨[], (List.append_nil _).symm, fun x hx => absurd hx List.not_mem_nil, .nil⟩
  | cons x xs ih =>
    rw [collect_cons]
    split_ifs with hx
    · obtain ⟨new, heq, hnew, hnodup⟩ := ih delivered
      exact ⟨new, heq, fun y hy => ⟨List.mem_cons_of_mem _ (hnew y hy).1, (hnew y hy).2⟩, hnodup⟩
    · obtain ⟨new, heq, hnew, hnodup⟩ := ih (delivered ++ [x])
      refine ⟨x :: new, ?_, fun y hy => ?_, List.nodup_cons.mpr ⟨fun hmem => ?_, hnodup⟩⟩
      · rw [heq, List.append_assoc, List.singleton_append]
      · obtain rfl | hmem := List.mem_cons.mp hy
        · exact ⟨List.mem_cons_self, hx⟩
        · have hold := (hnew y hmem).2
          rw [List.mem_append, not_or] at hold
          exact ⟨List.mem_cons_of_mem _ (hnew y hmem).1, hold.1⟩
      · exact (hnew x hmem).2 (List.mem_append_right _ (List.mem_singleton_self x))

lemma mem_collect : y ∈ collect delivered xs ↔ y ∈ delivered ∨ y ∈ xs := by
  induction xs generalizing delivered with
  | nil => simp [collect]
  | cons x xs ih =>
    rw [collect_cons, ih, List.mem_cons]
    split_ifs with hx
    · constructor
      · rintro (h | h)
        · exact .inl h
        · exact .inr (.inr h)
      · rintro (h | rfl | h)
        · exact .inl h
        · exact .inl hx
        · exact .inr h
    · rw [List.mem_append, List.mem_singleton, or_assoc]

lemma nodup_collect (hdelivered : delivered.Nodup) : (collect delivered xs).Nodup := by
  obtain ⟨new, heq, hnew, hnodup⟩ := collect_eq_append delivered xs
  rw [heq, List.nodup_append']
  exact ⟨hdelivered, hnodup, fun x hx hx' => (hnew x hx').2 hx⟩

lemma collect_append (ys : List α) :
    collect delivered (xs ++ ys) = collect (collect delivered xs) ys := List.foldl_append

/-- **The bounded filter lets through what is new**, if its history can tell at each element. -/
theorem filterAll_eq {out : List α}
    (hxs : ∀ pre x post, xs = pre ++ x :: post →
      Distinguishes key (size + 1) (collect delivered pre) x) :
    filterAll key size (recent (size + 1) (delivered.map key), out) xs =
      (recent (size + 1) ((collect delivered xs).map key),
        out ++ (collect delivered xs).drop delivered.length) := by
  induction xs generalizing delivered out with
  | nil => simp [filterAll, collect]
  | cons x xs ih =>
    have hfirst : Distinguishes key (size + 1) delivered x := hxs [] x xs rfl
    have hrest : ∀ pre y post, xs = pre ++ y :: post → Distinguishes key (size + 1)
        (collect (if x ∈ delivered then delivered else delivered ++ [x]) pre) y := by
      intro pre y post heq
      exact hxs (x :: pre) y post (by rw [heq, List.cons_append])
    rw [filterAll, List.foldl_cons, filterStep_eq hfirst, collect_cons]
    split_ifs at hrest ⊢ with hx
    · exact ih hrest
    · obtain ⟨new, heq, -⟩ := collect_eq_append (delivered ++ [x]) xs
      have hstep : filterAll key size (recent (size + 1) ((delivered ++ [x]).map key), out ++ [x])
          xs = _ := ih hrest
      rw [filterAll] at hstep
      rw [hstep, heq, List.drop_left, List.append_assoc, List.append_assoc, List.drop_left]

omit [DecidableEq α] in
/-- Filtering the images of elements. -/
lemma filterAll_map {γ : Type*} [DecidableEq γ] {f : γ → α} {history : List β} {out xs : List γ} :
    filterAll key size (history, out.map f) (xs.map f) =
      ((filterAll (key ∘ f) size (history, out) xs).1,
        (filterAll (key ∘ f) size (history, out) xs).2.map f) := by
  induction xs generalizing history out with
  | nil => rfl
  | cons x xs ih =>
    simp only [filterAll, List.map_cons, List.foldl_cons, filterStep, Function.comp_apply]
    split_ifs with hx
    · exact ih
    · rw [← List.map_singleton, ← List.map_append]
      exact ih

end BoundedHistory
