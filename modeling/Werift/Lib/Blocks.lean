import Mathlib

/-!
# Sets of integers as blocks

A list of integers is compressed by joining each integer to the last block if it continues that
block.  `expand_compress` says that nothing is lost whatever the order of the list, and
`isProper_compress_iff` that the blocks are in order exactly if the list is.
-/

namespace Blocks

/-- Join an integer to the last block, or start a new block with it. -/
def extend (blocks : List (ℤ × ℤ)) (p : ℤ) : List (ℤ × ℤ) :=
  match blocks.getLast? with
  | none => [(p, p)]
  | some b => if p = b.2 + 1 then blocks.dropLast ++ [(b.1, p)] else blocks ++ [(p, p)]

/-- The blocks of a list. -/
def compress (l : List ℤ) : List (ℤ × ℤ) := l.foldl extend []

/-- The integers of a block. -/
def elements (b : ℤ × ℤ) : List ℤ := (List.range (b.2 + 1 - b.1).toNat).map fun k => b.1 + (k : ℕ)

/-- The integers of a list of blocks. -/
def expand (blocks : List (ℤ × ℤ)) : List ℤ := blocks.flatMap elements

/-- The blocks are not empty, ascending, disjoint and not adjacent. -/
structure IsProper (blocks : List (ℤ × ℤ)) : Prop where
  nonempty : ∀ b ∈ blocks, b.1 ≤ b.2
  ascending : blocks.Pairwise fun a b => a.2 + 1 < b.1

lemma mem_elements {b : ℤ × ℤ} {p : ℤ} : p ∈ elements b ↔ b.1 ≤ p ∧ p ≤ b.2 := by
  simp only [elements, List.mem_map, List.mem_range]
  constructor
  · rintro ⟨k, hk, rfl⟩
    omega
  · rintro ⟨h1, h2⟩
    exact ⟨(p - b.1).toNat, by omega, by omega⟩

lemma elements_self (p : ℤ) : elements (p, p) = [p] := by
  simp [elements]

lemma elements_succ {a p : ℤ} (h : a ≤ p) : elements (a, p + 1) = elements (a, p) ++ [p + 1] := by
  have hlen : (p + 1 + 1 - a).toNat = (p + 1 - a).toNat + 1 := by omega
  have hlast : a + ((p + 1 - a).toNat : ℤ) = p + 1 := by omega
  simp only [elements, hlen, List.range_succ, List.map_append, List.map_singleton, hlast]

lemma pairwise_elements (b : ℤ × ℤ) : (elements b).Pairwise (· < ·) := by
  rw [elements, List.pairwise_map]
  exact List.pairwise_lt_range.imp fun h => by omega

lemma compress_append_singleton (l : List ℤ) (p : ℤ) :
    compress (l ++ [p]) = extend (compress l) p := by
  rw [compress, List.foldl_append]
  rfl

/-- The last block ends with the last integer. -/
lemma compress_eq_append {l : List ℤ} {p : ℤ} :
    ∃ init a, compress (l ++ [p]) = init ++ [(a, p)] := by
  rw [compress_append_singleton, extend]
  split
  · exact ⟨[], p, rfl⟩
  · split_ifs
    · exact ⟨_, _, rfl⟩
    · exact ⟨_, _, rfl⟩

lemma le_of_mem_compress {l : List ℤ} {b : ℤ × ℤ} (h : b ∈ compress l) : b.1 ≤ b.2 := by
  induction l using List.reverseRecOn generalizing b with
  | nil => exact absurd h List.not_mem_nil
  | append_singleton l p ih =>
    rw [compress_append_singleton, extend] at h
    split at h
    · rw [List.mem_singleton.mp h]
    · rename_i last hlast
      have hl := ih (List.mem_of_getLast? hlast)
      split_ifs at h with hp
      · rcases List.mem_append.mp h with h | h
        · exact ih (List.mem_of_mem_dropLast h)
        · rw [List.mem_singleton.mp h]
          dsimp only
          omega
      · rcases List.mem_append.mp h with h | h
        · exact ih h
        · rw [List.mem_singleton.mp h]

/-- Joining an integer adds it at the end. -/
lemma expand_extend {blocks : List (ℤ × ℤ)} (h : ∀ b ∈ blocks, b.1 ≤ b.2) (p : ℤ) :
    expand (extend blocks p) = expand blocks ++ [p] := by
  rw [extend]
  split
  · rename_i hnone
    rw [List.getLast?_eq_none_iff.mp hnone]
    simp [expand, elements_self]
  · rename_i b hb
    have hsplit : blocks = blocks.dropLast ++ [b] := (List.dropLast_append_getLast? b hb).symm
    split_ifs with hp
    · have hle := h b (List.mem_of_getLast? hb)
      conv_rhs => rw [hsplit]
      rw [hp, expand, expand, List.flatMap_append, List.flatMap_append]
      simp [elements_succ hle]
    · simp [expand, elements_self]

/-- **Nothing is lost.**  The blocks of a list expand to the list. -/
theorem expand_compress (l : List ℤ) : expand (compress l) = l := by
  induction l using List.reverseRecOn with
  | nil => rfl
  | append_singleton l p ih =>
    rw [compress_append_singleton, expand_extend (fun b hb => le_of_mem_compress hb), ih]

lemma IsProper.pairwise_expand {blocks : List (ℤ × ℤ)} (h : IsProper blocks) :
    (expand blocks).Pairwise (· < ·) := by
  refine List.pairwise_flatMap.mpr ⟨fun b _ => pairwise_elements b, h.ascending.imp ?_⟩
  intro a b hab p hp q hq
  have := mem_elements.mp hp
  have := mem_elements.mp hq
  omega

/-- Joining an integer beyond all blocks keeps them in order. -/
lemma IsProper.extend {blocks : List (ℤ × ℤ)} (h : IsProper blocks) {p : ℤ}
    (hp : ∀ b ∈ blocks, b.2 < p) : IsProper (Blocks.extend blocks p) := by
  unfold Blocks.extend
  split
  · exact ⟨by simp, List.pairwise_singleton _ _⟩
  · rename_i b hb
    have hlast := hp b (List.mem_of_getLast? hb)
    have hmem := h.nonempty b (List.mem_of_getLast? hb)
    have hsplit : blocks = blocks.dropLast ++ [b] := (List.dropLast_append_getLast? b hb).symm
    have hasc := h.ascending
    rw [hsplit, List.pairwise_append] at hasc
    split_ifs with hnext
    · refine ⟨fun c hc => ?_, List.pairwise_append.mpr ⟨hasc.1, List.pairwise_singleton _ _, ?_⟩⟩
      · rcases List.mem_append.mp hc with hc | hc
        · exact h.nonempty c (List.mem_of_mem_dropLast hc)
        · rw [List.mem_singleton.mp hc]
          dsimp only
          omega
      · intro c hc d hd
        rw [List.mem_singleton.mp hd]
        exact hasc.2.2 c hc b (List.mem_singleton_self b)
    · refine ⟨fun c hc => ?_, List.pairwise_append.mpr ⟨h.ascending, List.pairwise_singleton _ _, ?_⟩⟩
      · rcases List.mem_append.mp hc with hc | hc
        · exact h.nonempty c hc
        · rw [List.mem_singleton.mp hc]
      · intro c hc d hd
        rw [List.mem_singleton.mp hd]
        -- an earlier block ends before the last one
        have hcb : c.2 ≤ b.2 := by
          rw [hsplit] at hc
          rcases List.mem_append.mp hc with hc | hc
          · have := hasc.2.2 c hc b (List.mem_singleton_self b)
            omega
          · rw [List.mem_singleton.mp hc]
        dsimp only
        omega

/-- All blocks end inside the list. -/
lemma snd_mem_of_mem_compress {l : List ℤ} {b : ℤ × ℤ} (h : b ∈ compress l) : b.2 ∈ l := by
  rw [← expand_compress l]
  exact List.mem_flatMap.mpr ⟨b, h, mem_elements.mpr ⟨le_of_mem_compress h, le_rfl⟩⟩

lemma fst_mem_of_mem_compress {l : List ℤ} {b : ℤ × ℤ} (h : b ∈ compress l) : b.1 ∈ l := by
  rw [← expand_compress l]
  exact List.mem_flatMap.mpr ⟨b, h, mem_elements.mpr ⟨le_rfl, le_of_mem_compress h⟩⟩

/-- **The blocks are in order exactly if the list is.** -/
theorem isProper_compress_iff {l : List ℤ} : IsProper (compress l) ↔ l.Pairwise (· < ·) := by
  constructor
  · intro h
    have := h.pairwise_expand
    rwa [expand_compress] at this
  · intro h
    induction l using List.reverseRecOn with
    | nil => exact ⟨by simp [compress], List.Pairwise.nil⟩
    | append_singleton l p ih =>
      obtain ⟨hl, -, hlp⟩ := List.pairwise_append.mp h
      rw [compress_append_singleton]
      exact (ih hl).extend fun b hb =>
        hlp b.2 (snd_mem_of_mem_compress hb) p (List.mem_singleton_self p)

/-- An ascending list has as many blocks as integers whose predecessor is missing. -/
theorem length_compress {l : List ℤ} (h : l.Pairwise (· < ·)) :
    (compress l).length = (l.filter fun p => p - 1 ∉ l).length := by
  induction l using List.reverseRecOn with
  | nil => rfl
  | append_singleton l p ih =>
    obtain ⟨hl, -, hlp⟩ := List.pairwise_append.mp h
    have hlt : ∀ q ∈ l, q < p := fun q hq => hlp q hq p (List.mem_singleton_self p)
    have hold : l.filter (fun q => q - 1 ∉ l ++ [p]) = l.filter fun q => q - 1 ∉ l := by
      refine List.filter_congr fun q hq => ?_
      have : q - 1 ≠ p := by have := hlt q hq; omega
      simp [this]
    rw [compress_append_singleton, List.filter_append, List.length_append, hold, ← ih hl, extend]
    cases l using List.reverseRecOn with
    | nil => simp [compress]
    | append_singleton l q =>
      obtain ⟨init, a, heq⟩ := compress_eq_append (l := l) (p := q)
      have hmem : p - 1 ∈ l ++ [q] ↔ p = q + 1 := by
        constructor
        · intro hin
          have hqp := hlt q (by simp)
          rcases List.mem_append.mp hin with hin | hin
          · have hlq := (List.pairwise_append.mp hl).2.2 _ hin q (List.mem_singleton_self q)
            omega
          · rw [List.mem_singleton] at hin
            omega
        · rintro rfl
          simp
      rw [heq]
      by_cases hp : p = q + 1
      · simp [hp]
      · have hnot : p - 1 ∉ (l ++ [q]) ++ [p] := by
          rw [List.mem_append, hmem]
          simp [hp]
        have hfilter : [p].filter (fun r => r - 1 ∉ l ++ [q] ++ [p]) = [p] :=
          List.filter_eq_self.mpr fun r hr => by
            rw [List.mem_singleton.mp hr]
            exact decide_eq_true hnot
        rw [hfilter]
        simp [hp]

end Blocks
