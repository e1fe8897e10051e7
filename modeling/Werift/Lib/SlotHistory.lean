import Mathlib

/-!
# The last element of each residue class

A ring of `size` slots keeps each element of a sequence in the slot of its key modulo `size`, until
another element takes the slot or the ring is emptied.  `Latest keys base size slot i` says that the slot
holds the `i`-th element if the ring has been emptied in front of the element `base`.
-/

namespace SlotHistory

/-- The `i`-th element is the last one of its slot, and is not in front of `base`. -/
structure Latest (keys : List ℕ) (base size slot i : ℕ) : Prop where
  base_le : base ≤ i
  slot_eq : ∃ key, keys[i]? = some key ∧ key % size = slot
  last : ∀ j key, i < j → keys[j]? = some key → key % size ≠ slot

variable {keys : List ℕ} {base size slot i : ℕ}

lemma Latest.lt_length (h : Latest keys base size slot i) : i < keys.length := by
  obtain ⟨key, hkey, -⟩ := h.slot_eq
  exact (List.getElem?_eq_some_iff.mp hkey).1

/-- A ring that has been emptied holds nothing. -/
lemma not_latest_length : ¬ Latest keys keys.length size slot i := fun h =>
  absurd h.lt_length (not_lt.mpr h.base_le)

/-- **One more element** takes its slot, and leaves the other slots. -/
theorem latest_concat {key : ℕ} (hbase : base ≤ keys.length) :
    Latest (keys ++ [key]) base size slot i ↔
      if key % size = slot then i = keys.length else Latest keys base size slot i := by
  have hnew : (keys ++ [key])[keys.length]? = some key := List.getElem?_concat_length
  have hold (j : ℕ) (hj : j < keys.length) : (keys ++ [key])[j]? = keys[j]? :=
    List.getElem?_append_left hj
  split_ifs with hslot
  · constructor
    · intro h
      by_contra hne
      have hlt := h.lt_length
      rw [List.length_append, List.length_singleton] at hlt
      exact h.last keys.length key (by omega) hnew hslot
    · rintro rfl
      refine ⟨hbase, ⟨key, hnew, hslot⟩, fun j key' hj hkey' => ?_⟩
      have hlt := (List.getElem?_eq_some_iff.mp hkey').1
      rw [List.length_append, List.length_singleton] at hlt
      omega
  · constructor
    · intro h
      have hlt := h.lt_length
      rw [List.length_append, List.length_singleton] at hlt
      obtain ⟨key', hkey', hslot'⟩ := h.slot_eq
      have hi : i < keys.length := by
        refine lt_of_le_of_ne (by omega) fun heq => hslot ?_
        rw [heq, hnew] at hkey'
        rw [Option.some.inj hkey', hslot']
      refine ⟨h.base_le, ⟨key', by rw [← hold i hi, hkey'], hslot'⟩, fun j key'' hj hkey'' => ?_⟩
      have hj' := (List.getElem?_eq_some_iff.mp hkey'').1
      exact h.last j key'' hj (by rw [hold j hj', hkey''])
    · intro h
      obtain ⟨key', hkey', hslot'⟩ := h.slot_eq
      refine ⟨h.base_le, ⟨key', by rw [hold i h.lt_length, hkey'], hslot'⟩,
        fun j key'' hj hkey'' => ?_⟩
      have hlt := (List.getElem?_eq_some_iff.mp hkey'').1
      rw [List.length_append, List.length_singleton] at hlt
      obtain hj' | rfl : j < keys.length ∨ j = keys.length := by omega
      · exact h.last j key'' hj (by rw [← hold j hj', hkey''])
      · rw [hnew] at hkey''
        rw [← Option.some.inj hkey'']
        exact hslot

/-- **Consecutive keys** fill the ring: it holds each of the last `size` elements. -/
theorem latest_of_consecutive {first modulus : ℕ} (hbase : base ≤ i) (hi : i < keys.length)
    (hnear : keys.length ≤ i + size) (hmodulus : size ∣ modulus)
    (hkeys : ∀ j key, i ≤ j → keys[j]? = some key → key = (first + j) % modulus) :
    Latest keys base size ((first + i) % size) i := by
  obtain ⟨key, hkey⟩ : ∃ key, keys[i]? = some key := ⟨keys[i], List.getElem?_eq_getElem hi⟩
  refine ⟨hbase, ⟨key, hkey, ?_⟩, fun j key' hj hkey' hslot => ?_⟩
  · rw [hkeys i key le_rfl hkey, Nat.mod_mod_of_dvd _ hmodulus]
  · have hlt := (List.getElem?_eq_some_iff.mp hkey').1
    rw [hkeys j key' hj.le hkey', Nat.mod_mod_of_dvd _ hmodulus] at hslot
    have hdvd := (Nat.modEq_iff_dvd' (by omega)).mp (show first + i ≡ first + j [MOD size] from hslot.symm)
    have := Nat.le_of_dvd (by omega) hdvd
    omega

end SlotHistory
