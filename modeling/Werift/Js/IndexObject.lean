import Mathlib

/-!
# Objects with integer keys

An object whose keys are array indices enumerates them in ascending order, whatever the order of the
assignments.  It is the list of its entries, which ascends.
-/

namespace Werift.Js

/-- An object `{ [index: number]: β }`. -/
structure IndexObject (β : Type) where
  entries : List (ℤ × β)
  ascending : entries.Pairwise fun a b => a.1 < b.1
deriving DecidableEq

namespace IndexObject

variable {β : Type}

/-- `{}`. -/
def empty : IndexObject β := ⟨[], .nil⟩

variable (o : IndexObject β)

/-- `Object.keys(o).map(Number)`. -/
def keys : List ℤ := o.entries.map Prod.fst

/-- `Object.values(o)`. -/
def values : List β := o.entries.map Prod.snd

/-- `o[k]`. -/
def get? (k : ℤ) : Option β := (o.entries.find? fun entry => entry.1 = k).map Prod.snd

/-- `o[k] = v`. -/
def set (k : ℤ) (v : β) : IndexObject β where
  entries := o.entries.filter (fun entry => entry.1 < k) ++
    (k, v) :: o.entries.filter fun entry => k < entry.1
  ascending := by
    rw [List.pairwise_append, List.pairwise_cons]
    refine ⟨o.ascending.filter _, ⟨fun entry hentry => ?_, o.ascending.filter _⟩, ?_⟩
    · exact of_decide_eq_true (List.mem_filter.mp hentry).2
    · intro entry hentry entry' hentry'
      have hlow : entry.1 < k := of_decide_eq_true (List.mem_filter.mp hentry).2
      obtain rfl | hmem := List.mem_cons.mp hentry'
      · exact hlow
      · have hhigh : k < entry'.1 := of_decide_eq_true (List.mem_filter.mp hmem).2
        exact hlow.trans hhigh

/-- `delete o[k]`. -/
def delete (k : ℤ) : IndexObject β :=
  ⟨o.entries.filter fun entry => entry.1 ≠ k, o.ascending.filter _⟩

/-- The object of the entries behind the first `n`. -/
def dropEntries (n : ℕ) : IndexObject β :=
  ⟨o.entries.drop n, o.ascending.sublist (List.drop_sublist _ _)⟩

variable {o} {k k' : ℤ} {v v' : β}

lemma find_eq_some {entries : List (ℤ × β)} (h : entries.Pairwise fun a b => a.1 < b.1) :
    (entries.find? fun entry => entry.1 = k).map Prod.snd = some v ↔ (k, v) ∈ entries := by
  induction entries with
  | nil => simp
  | cons entry entries ih =>
    obtain ⟨hfirst, hrest⟩ := List.pairwise_cons.mp h
    by_cases hk : entry.1 = k
    · subst hk
      rw [List.find?_cons_of_pos (by simp), Option.map_some, Option.some_inj, List.mem_cons]
      constructor
      · rintro rfl
        exact .inl rfl
      · rintro (heq | hmem)
        · rw [← heq]
        · exact absurd (hfirst _ hmem) (lt_irrefl _)
    · rw [List.find?_cons_of_neg (by simpa using hk), ih hrest, List.mem_cons]
      refine ⟨.inr, fun h => h.resolve_left ?_⟩
      rintro rfl
      exact hk rfl

/-- **The entries** are what the keys lead to. -/
theorem get?_eq_some : o.get? k = some v ↔ (k, v) ∈ o.entries := find_eq_some o.ascending

@[simp] lemma get?_empty : (empty : IndexObject β).get? k = none := rfl

/-- Reading behind an assignment. -/
theorem get?_set : (o.set k v).get? k' = if k' = k then some v else o.get? k' := by
  ext v'
  rw [get?_eq_some]
  simp only [set, List.mem_append, List.mem_filter, List.mem_cons, decide_eq_true_eq]
  split_ifs with hk
  · subst hk
    simp only [lt_irrefl, and_false, false_or, or_false, Prod.mk.injEq, true_and, Option.some.injEq]
    exact eq_comm
  · rw [get?_eq_some]
    constructor
    · rintro (⟨hmem, -⟩ | heq | ⟨hmem, -⟩)
      · exact hmem
      · exact absurd (Prod.mk.inj heq).1 hk
      · exact hmem
    · intro hmem
      obtain hlt | hgt := lt_or_gt_of_ne hk
      · exact .inl ⟨hmem, hlt⟩
      · exact .inr (.inr ⟨hmem, hgt⟩)

/-- Reading behind a deletion. -/
theorem get?_delete : (o.delete k).get? k' = if k' = k then none else o.get? k' := by
  ext v'
  rw [get?_eq_some]
  simp only [delete, List.mem_filter, decide_eq_true_eq]
  split_ifs with hk
  · simp [hk]
  · rw [get?_eq_some]
    exact ⟨fun h => h.1, fun h => ⟨h, hk⟩⟩

lemma mem_keys : k ∈ o.keys ↔ ∃ v, o.get? k = some v := by
  simp only [keys, List.mem_map, get?_eq_some]
  constructor
  · rintro ⟨⟨k', v⟩, hmem, rfl⟩
    exact ⟨v, hmem⟩
  · rintro ⟨v, hmem⟩
    exact ⟨(k, v), hmem, rfl⟩

lemma get?_eq_none : o.get? k = none ↔ k ∉ o.keys := by
  rw [mem_keys, Option.eq_none_iff_forall_ne_some, not_exists]

@[simp] lemma mem_keys_set : k' ∈ (o.set k v).keys ↔ k' = k ∨ k' ∈ o.keys := by
  rw [mem_keys, mem_keys]
  simp only [get?_set]
  split_ifs with hk <;> simp [hk]

@[simp] lemma mem_keys_delete : k' ∈ (o.delete k).keys ↔ k' ≠ k ∧ k' ∈ o.keys := by
  rw [mem_keys, mem_keys]
  simp only [get?_delete]
  split_ifs with hk <;> simp [hk]

lemma pairwise_keys (o : IndexObject β) : o.keys.Pairwise (· < ·) := by
  rw [keys, List.pairwise_map]
  exact o.ascending

lemma nodup_keys (o : IndexObject β) : o.keys.Nodup := o.pairwise_keys.imp ne_of_lt

/-- The keys behind the first ones are the others. -/
lemma mem_keys_dropEntries {n : ℕ} :
    k ∈ (o.dropEntries n).keys ↔ k ∈ o.keys ∧ k ∉ o.keys.take n := by
  have hnodup := o.nodup_keys
  rw [← List.take_append_drop n o.keys, List.nodup_append'] at hnodup
  have hdrop : (o.dropEntries n).keys = o.keys.drop n := List.map_drop
  rw [hdrop]
  constructor
  · intro hmem
    exact ⟨List.mem_of_mem_drop hmem, fun htake => hnodup.2.2 htake hmem⟩
  · rintro ⟨hmem, htake⟩
    rw [← List.take_append_drop n o.keys, List.mem_append] at hmem
    exact hmem.resolve_left htake

lemma mem_values : v ∈ o.values ↔ ∃ k, o.get? k = some v := by
  simp only [values, List.mem_map, get?_eq_some]
  constructor
  · rintro ⟨⟨k, v'⟩, hmem, rfl⟩
    exact ⟨k, hmem⟩
  · rintro ⟨k, hmem⟩
    exact ⟨(k, v), hmem, rfl⟩

lemma length_delete_le : (o.delete k).entries.length ≤ o.entries.length := List.length_filter_le _ _

lemma length_delete_lt (h : o.get? k = some v) :
    (o.delete k).entries.length < o.entries.length :=
  List.length_filter_lt_length_iff_exists.mpr ⟨(k, v), get?_eq_some.mp h, by simp⟩

lemma length_set_le : (o.set k v).entries.length ≤ o.entries.length + 1 := by
  have hdisjoint : o.entries.countP (fun entry => decide (entry.1 < k)) +
      o.entries.countP (fun entry => decide (k < entry.1)) ≤ o.entries.length := by
    rw [List.length_eq_countP_add_countP (fun entry : ℤ × β => decide (entry.1 < k))]
    refine Nat.add_le_add_left (List.countP_mono_left fun entry _ hlt => ?_) _
    simp only [decide_eq_true_eq, not_lt] at hlt ⊢
    exact hlt.le
  simp only [set, List.length_append, List.length_cons, ← List.countP_eq_length_filter]
  omega

end IndexObject

end Werift.Js
