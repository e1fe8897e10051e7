import Mathlib

/-!
# Entries replaced by key

A list with one entry for each key.  A new entry takes the place of the one with its key, or comes behind all of
them, so of entries with one key the last one stays (`mem_foldl_last`).
-/

namespace Upsert

variable {α κ : Type*} [DecidableEq κ] {key : α → κ} {x y : α} {l xs : List α}

/-- The list with `x` for its key. -/
def upsert (key : α → κ) (x : α) : List α → List α
  | [] => [x]
  | y :: l => if key y = key x then x :: l else y :: upsert key x l

/-- The entries, one after the other. -/
def insertAll (key : α → κ) (l xs : List α) : List α := xs.foldl (fun l x => upsert key x l) l

lemma mem_upsert_self (key : α → κ) (x : α) (l : List α) : x ∈ upsert key x l := by
  induction l with
  | nil => exact List.mem_singleton_self x
  | cons y l ih =>
    rw [upsert]
    split_ifs
    · exact List.mem_cons_self
    · exact List.mem_cons_of_mem y ih

lemma mem_upsert_of_ne (hy : y ∈ l) (hne : key y ≠ key x) : y ∈ upsert key x l := by
  induction l with
  | nil => cases hy
  | cons z l ih =>
    rw [upsert]
    obtain rfl | hl := List.mem_cons.mp hy
    · rw [if_neg hne]
      exact List.mem_cons_self
    · split_ifs
      · exact List.mem_cons_of_mem x hl
      · exact List.mem_cons_of_mem z (ih hl)

lemma key_mem_upsert {k : κ} : k ∈ (upsert key x l).map key ↔ k = key x ∨ k ∈ l.map key := by
  induction l with
  | nil => simp [upsert]
  | cons y l ih =>
    rw [upsert]
    split_ifs with h
    · simp [h]
    · simp only [List.map_cons, List.mem_cons, ih]
      exact or_left_comm

lemma nodup_upsert (h : (l.map key).Nodup) (x : α) : ((upsert key x l).map key).Nodup := by
  induction l with
  | nil => exact List.nodup_singleton _
  | cons y l ih =>
    obtain ⟨hy, hl⟩ := List.nodup_cons.mp h
    rw [upsert]
    split_ifs with hkey
    · rw [List.map_cons, ← hkey]
      exact List.nodup_cons.mpr ⟨hy, hl⟩
    · refine List.nodup_cons.mpr ⟨fun hmem => ?_, ih hl⟩
      obtain heq | hmem' := key_mem_upsert.mp hmem
      · exact hkey heq
      · exact hy hmem'

lemma nodup_insertAll (h : (l.map key).Nodup) (xs : List α) : ((insertAll key l xs).map key).Nodup := by
  induction xs generalizing l with
  | nil => exact h
  | cons x xs ih => exact ih (nodup_upsert h x)

/-- An entry stays when nothing comes under its key. -/
lemma mem_insertAll_of_notMem (hy : y ∈ l) (hxs : key y ∉ xs.map key) : y ∈ insertAll key l xs := by
  induction xs generalizing l with
  | nil => exact hy
  | cons x xs ih =>
    rw [List.map_cons, List.mem_cons, not_or] at hxs
    exact ih (mem_upsert_of_ne hy hxs.1) hxs.2

/-- **The last entry under a key stays.** -/
lemma mem_insertAll_last (l front : List α) {back : List α} (hback : key x ∉ back.map key) :
    x ∈ insertAll key l (front ++ x :: back) := by
  rw [insertAll, List.foldl_append, List.foldl_cons]
  exact mem_insertAll_of_notMem (mem_upsert_self key x _) hback

lemma key_mem_insertAll {k : κ} : k ∈ (insertAll key l xs).map key ↔ k ∈ l.map key ∨ k ∈ xs.map key := by
  induction xs generalizing l with
  | nil => simp [insertAll]
  | cons x xs ih =>
    rw [show insertAll key l (x :: xs) = insertAll key (upsert key x l) xs from rfl, ih, key_mem_upsert,
      List.map_cons, List.mem_cons, or_comm (a := k = key x), or_assoc]

end Upsert
