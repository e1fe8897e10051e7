import Mathlib

/-!
# The maps of the language

A `Map` keeps its entries in the order in which their keys were set first.
-/

namespace Werift.Js

/-- A `Map`: the keys of its entries are different. -/
structure Map (K V : Type) where
  entries : List (K × V) := []
  nodup : (entries.map Prod.fst).Nodup := by exact List.nodup_nil

namespace Map

variable {K V : Type} [DecidableEq K]

/-- The value of a key in a list of entries. -/
def lookup : List (K × V) → K → Option V
  | [], _ => none
  | entry :: rest, key => if entry.1 = key then some entry.2 else lookup rest key

/-- Give a key that is there a new value. -/
def replace (entries : List (K × V)) (key : K) (value : V) : List (K × V) :=
  entries.map fun entry => if entry.1 = key then (key, value) else entry

lemma keys_replace (entries : List (K × V)) (key : K) (value : V) :
    (replace entries key value).map Prod.fst = entries.map Prod.fst := by
  rw [replace, List.map_map]
  refine List.map_congr_left fun entry _ => ?_
  rw [Function.comp_apply]
  split_ifs with h
  · exact h.symm
  · rfl

omit [DecidableEq K] in
lemma nodup_keys_concat {entries : List (K × V)} (hnodup : (entries.map Prod.fst).Nodup) {key : K}
    (hkey : key ∉ entries.map Prod.fst) (value : V) :
    ((entries ++ [(key, value)]).map Prod.fst).Nodup := by
  rw [List.map_append, List.map_singleton]
  refine List.nodup_append.mpr ⟨hnodup, List.nodup_singleton key, ?_⟩
  rintro a ha b hb rfl
  obtain rfl := List.mem_singleton.mp hb
  exact hkey ha

/-- `map.get(key)`. -/
def get? (m : Map K V) (key : K) : Option V := lookup m.entries key

/-- `map.size`. -/
def size (m : Map K V) : ℕ := m.entries.length

/-- `map.values()`. -/
def values (m : Map K V) : List V := m.entries.map Prod.snd

/-- `map.set(key, value)`: a key that is there keeps its place. -/
def set (m : Map K V) (key : K) (value : V) : Map K V :=
  if h : key ∈ m.entries.map Prod.fst then
    ⟨replace m.entries key value, (keys_replace m.entries key value).symm ▸ m.nodup⟩
  else ⟨m.entries ++ [(key, value)], nodup_keys_concat m.nodup h value⟩

/-- Delete the entries that do not pass a test. -/
def filter (m : Map K V) (p : K → V → Bool) : Map K V :=
  ⟨m.entries.filter fun entry => p entry.1 entry.2,
    m.nodup.sublist (List.filter_sublist.map Prod.fst)⟩

/-- `map.delete(key)`. -/
def delete (m : Map K V) (key : K) : Map K V := m.filter fun key' _ => decide (key' ≠ key)

instance : Inhabited (Map K V) := ⟨{}⟩

/-! ## Lookups -/

variable {m : Map K V} {key key' : K} {value : V}

lemma lookup_eq_none {entries : List (K × V)} :
    lookup entries key = none ↔ key ∉ entries.map Prod.fst := by
  induction entries with
  | nil => simp [lookup]
  | cons entry entries ih =>
    rw [lookup, List.map_cons, List.mem_cons, not_or]
    split_ifs with h
    · simp [h]
    · simp [ih, eq_comm (a := key), h]

lemma lookup_append {entries entries' : List (K × V)} :
    lookup (entries ++ entries') key = (lookup entries key).or (lookup entries' key) := by
  induction entries with
  | nil => rfl
  | cons entry entries ih =>
    rw [List.cons_append, lookup, lookup]
    split_ifs
    · rfl
    · exact ih

lemma lookup_replace {entries : List (K × V)} :
    lookup (replace entries key value) key' =
      if key' = key then (lookup entries key).map fun _ => value else lookup entries key' := by
  induction entries with
  | nil => simp [replace, lookup]
  | cons entry entries ih =>
    rw [replace, List.map_cons, ← replace, lookup, lookup, lookup, ih]
    by_cases h : entry.1 = key
    · by_cases h' : key' = key <;> simp [h, h', eq_comm (a := key)]
    · by_cases h' : key' = key <;> simp [h, h']

lemma lookup_eq_some {entries : List (K × V)} (hnodup : (entries.map Prod.fst).Nodup) :
    lookup entries key = some value ↔ (key, value) ∈ entries := by
  induction entries with
  | nil => simp [lookup]
  | cons entry entries ih =>
    rw [List.map_cons, List.nodup_cons] at hnodup
    rw [lookup, List.mem_cons]
    split_ifs with h
    · subst h
      have hnot : (entry.1, value) ∉ entries := fun hmem =>
        hnodup.1 (List.mem_map.mpr ⟨_, hmem, rfl⟩)
      simp [hnot, Prod.ext_iff, eq_comm]
    · rw [ih hnodup.2]
      simp [Prod.ext_iff, Ne.symm h]

/-- An entry is what `get` returns. -/
lemma get?_eq_some : m.get? key = some value ↔ (key, value) ∈ m.entries := lookup_eq_some m.nodup

lemma mem_values : value ∈ m.values ↔ ∃ key, m.get? key = some value := by
  simp [values, get?_eq_some]

@[simp] lemma get?_empty (key : K) : ({} : Map K V).get? key = none := rfl

lemma get?_set : (m.set key value).get? key' = if key' = key then some value else m.get? key' := by
  unfold set get?
  split_ifs with hmem heq heq
  · obtain ⟨v, hv⟩ := Option.ne_none_iff_exists'.mp fun h => lookup_eq_none.mp h hmem
    rw [lookup_replace, if_pos heq, hv, Option.map_some]
  · rw [lookup_replace, if_neg heq]
  · rw [heq, lookup_append, lookup_eq_none.mpr hmem]
    simp [lookup]
  · rw [lookup_append]
    simp [lookup, Ne.symm heq]

@[simp] lemma get?_set_self : (m.set key value).get? key = some value := by rw [get?_set, if_pos rfl]

lemma get?_filter {p : K → V → Bool} :
    (m.filter p).get? key = some value ↔ m.get? key = some value ∧ p key value = true := by
  rw [get?_eq_some, get?_eq_some, filter, List.mem_filter]

lemma get?_delete : (m.delete key).get? key' = if key' = key then none else m.get? key' := by
  have h : ∀ v, (m.delete key).get? key' = some v ↔ m.get? key' = some v ∧ key' ≠ key := by
    intro v
    rw [delete, get?_filter, decide_eq_true_iff]
  split_ifs with heq
  · exact Option.eq_none_iff_forall_ne_some.mpr fun v hv => ((h v).mp hv).2 heq
  · exact Option.ext fun v => by rw [h, and_iff_left heq]

/-! ## Entries -/

lemma entries_set_of_none (h : m.get? key = none) :
    (m.set key value).entries = m.entries ++ [(key, value)] := by
  rw [set, dif_neg (lookup_eq_none.mp h)]

/-- What a new value has in common with the old one is unchanged, in the same order. -/
lemma map_entries_set {γ : Type*} {g : K × V → γ} {value' : V} (h : m.get? key = some value)
    (hg : g (key, value') = g (key, value)) :
    (m.set key value').entries.map g = m.entries.map g := by
  have hmem : (key, value) ∈ m.entries := get?_eq_some.mp h
  rw [set, dif_pos (List.mem_map_of_mem (f := Prod.fst) hmem)]
  change List.map g (List.map _ m.entries) = _
  rw [List.map_map]
  refine List.map_congr_left fun entry hentry => ?_
  rw [Function.comp_apply]
  split_ifs with heq
  · have : m.get? key = some entry.2 := get?_eq_some.mpr (heq ▸ hentry)
    obtain rfl : value = entry.2 := Option.some.inj (h.symm.trans this)
    rw [hg, ← heq]
  · rfl

/-- Deleting a key takes its entry away. -/
lemma perm_entries_delete (h : m.get? key = some value) :
    m.entries.Perm ((key, value) :: (m.delete key).entries) := by
  have hmem : (key, value) ∈ m.entries := get?_eq_some.mp h
  have hfilter : m.entries.filter (fun entry => decide (entry.1 = key)) = [(key, value)] := by
    refine List.perm_singleton.mp ((List.perm_ext_iff_of_nodup
      (m.nodup.of_map.filter _) (List.nodup_singleton _)).mpr fun entry => ?_)
    rw [List.mem_filter, List.mem_singleton, decide_eq_true_eq]
    constructor
    · rintro ⟨hentry, heq⟩
      exact Prod.ext heq (Option.some.inj ((get?_eq_some.mpr (heq ▸ hentry)).symm.trans h))
    · rintro rfl
      exact ⟨hmem, rfl⟩
  have hperm := List.filter_append_perm (fun entry : K × V => decide (entry.1 = key)) m.entries
  rw [hfilter] at hperm
  refine hperm.symm.trans (List.Perm.cons _ (List.Perm.of_eq ?_))
  exact List.filter_congr fun entry _ => by simp

end Map

end Werift.Js
