import Mathlib

/-!
# Numbering without holes

Some numbers of a sequence are holes, and the others are numbered anew without them: the `place` of a number
is the number less the holes below it.  Places keep the order of the numbers and bring them closer together,
numbers with nothing but holes between them get successive places, and a hole that is found later changes the
places of the numbers above it only.  `Gaps` finds holes in the order in which numbers arrive, and disregards
those below a number that has been placed; so no place ever changes (`place_run`).
-/

namespace Compaction

/-- The number less the holes below it. -/
def place (holes : Finset ℤ) (x : ℤ) : ℤ := x - (holes.filter (· < x)).card

variable {holes holes' : Finset ℤ} {m m' x : ℤ}

/-- Only the holes below a number count for its place. -/
lemma place_congr (h : ∀ t < x, t ∈ holes ↔ t ∈ holes') : place holes x = place holes' x := by
  have hfilter : holes.filter (· < x) = holes'.filter (· < x) := by
    ext t
    rw [Finset.mem_filter, Finset.mem_filter]
    exact and_congr_left fun ht => h t ht
  rw [place, place, hfilter]

/-- What lies between two places is what lies between the numbers, less the holes there. -/
lemma place_sub (holes : Finset ℤ) (h : m ≤ m') :
    place holes m' - place holes m = m' - m - (holes.filter fun t => m ≤ t ∧ t < m').card := by
  have hsplit : (holes.filter (· < m')).card =
      (holes.filter (· < m)).card + (holes.filter fun t => m ≤ t ∧ t < m').card := by
    rw [← Finset.card_union_of_disjoint]
    · congr 1
      ext t
      simp only [Finset.mem_union, Finset.mem_filter]
      constructor
      · rintro ⟨ht, hlt⟩
        exact (lt_or_ge t m).imp (⟨ht, ·⟩) (⟨ht, ·, hlt⟩)
      · rintro (⟨ht, hlt⟩ | ⟨ht, -, hlt⟩)
        · exact ⟨ht, hlt.trans_le h⟩
        · exact ⟨ht, hlt⟩
    · refine Finset.disjoint_left.mpr fun t hbelow habove => ?_
      exact ((Finset.mem_filter.mp hbelow).2.trans_le (Finset.mem_filter.mp habove).2.1).false
  rw [place, place, hsplit, Nat.cast_add]
  ring

lemma place_sub_le (holes : Finset ℤ) (h : m ≤ m') : place holes m' - place holes m ≤ m' - m := by
  rw [place_sub holes h]
  exact sub_le_self _ (Nat.cast_nonneg _)

/-- The holes between two numbers the lower of which is none lie strictly between them. -/
lemma filter_subset_Ioo (hm : m ∉ holes) : (holes.filter fun t => m ≤ t ∧ t < m') ⊆ Finset.Ioo m m' := by
  intro t ht
  obtain ⟨ht, hle, hlt⟩ := Finset.mem_filter.mp ht
  exact Finset.mem_Ioo.mpr ⟨hle.lt_of_ne fun heq => hm (heq ▸ ht), hlt⟩

/-- Places keep the order of the numbers that are no holes. -/
theorem place_lt (hm : m ∉ holes) (h : m < m') : place holes m < place holes m' := by
  have hcard : (holes.filter fun t => m ≤ t ∧ t < m').card ≤ (Finset.Ioo m m').card :=
    Finset.card_le_card (filter_subset_Ioo hm)
  rw [Int.card_Ioo] at hcard
  have hsub := place_sub holes h.le
  omega

/-- Numbers with nothing but holes between them get successive places. -/
theorem place_succ (hm : m ∉ holes) (h : m < m') (hgap : ∀ t, m < t → t < m' → t ∈ holes) :
    place holes m' = place holes m + 1 := by
  have hfilter : (holes.filter fun t => m ≤ t ∧ t < m') = Finset.Ioo m m' := by
    refine (filter_subset_Ioo hm).antisymm fun t ht => ?_
    obtain ⟨hlt, hlt'⟩ := Finset.mem_Ioo.mp ht
    exact Finset.mem_filter.mpr ⟨hgap t hlt hlt', hlt.le, hlt'⟩
  have hsub := place_sub holes h.le
  rw [hfilter, Int.card_Ioo] at hsub
  omega

/-! ## Holes in the order of arrival -/

/-- The holes found so far, and the highest number placed. -/
structure Gaps where
  holes : Finset ℤ := ∅
  highest : Option ℤ := none

namespace Gaps

/-- A number arrives.  A hole below a number that has been placed is disregarded. -/
def receive (isHole : ℤ → Bool) (g : Gaps) (x : ℤ) : Gaps :=
  if isHole x then if g.highest.all (· < x) then { g with holes := insert x g.holes } else g
  else { g with highest := some (g.highest.elim x (max · x)) }

/-- The numbers of a list arrive. -/
def run (isHole : ℤ → Bool) (arrivals : List ℤ) : Gaps := arrivals.foldl (receive isHole) {}

variable {isHole : ℤ → Bool} {arrivals before after : List ℤ} {g : Gaps}

lemma run_concat (arrivals : List ℤ) (x : ℤ) :
    run isHole (arrivals ++ [x]) = receive isHole (run isHole arrivals) x := by
  rw [run, run, List.foldl_append, List.foldl_cons, List.foldl_nil]

lemma receive_hole (hx : isHole x = true) (hhighest : ∀ h ∈ g.highest, h < x) :
    receive isHole g x = { g with holes := insert x g.holes } := by
  rw [receive, if_pos hx, if_pos]
  cases hg : g.highest with
  | none => rfl
  | some h => exact decide_eq_true (hhighest h hg)

lemma receive_late (hx : isHole x = true) {h : ℤ} (hh : h ∈ g.highest) (hle : x ≤ h) :
    receive isHole g x = g := by
  rw [receive, if_pos hx, if_neg]
  rw [Option.mem_def.mp hh]
  exact fun hall => hle.not_gt (of_decide_eq_true hall)

lemma receive_number (hx : isHole x = false) :
    receive isHole g x = { g with highest := some (g.highest.elim x (max · x)) } := by
  rw [receive, hx, if_neg Bool.false_ne_true]

/-- The highest number is one that has been placed, and bounds all of them. -/
structure Ranked (isHole : ℤ → Bool) (arrivals : List ℤ) (g : Gaps) : Prop where
  isHole_of_mem : ∀ t ∈ g.holes, isHole t = true ∧ t ∈ arrivals
  le_highest : ∀ x ∈ arrivals, isHole x = false → ∃ h ∈ g.highest, x ≤ h
  highest_mem : ∀ h ∈ g.highest, h ∈ arrivals ∧ isHole h = false

/-- What a number does: a hole above the highest number comes in, or the highest number rises. -/
lemma receive_cases (isHole : ℤ → Bool) (g : Gaps) (x : ℤ) :
    (isHole x = true ∧ (∀ h ∈ g.highest, h < x) ∧ receive isHole g x = { g with holes := insert x g.holes }) ∨
    (isHole x = true ∧ (∃ h ∈ g.highest, x ≤ h) ∧ receive isHole g x = g) ∨
    (isHole x = false ∧ receive isHole g x = { g with highest := some (g.highest.elim x (max · x)) }) := by
  cases hx : isHole x with
  | false => exact .inr (.inr ⟨rfl, receive_number hx⟩)
  | true =>
    by_cases hhighest : ∀ h ∈ g.highest, h < x
    · exact .inl ⟨rfl, hhighest, receive_hole hx hhighest⟩
    · push Not at hhighest
      obtain ⟨h, hh, hle⟩ := hhighest
      exact .inr (.inl ⟨rfl, ⟨h, hh, hle⟩, receive_late hx hh hle⟩)

lemma Ranked.receive (hg : Ranked isHole arrivals g) (x : ℤ) :
    Ranked isHole (arrivals ++ [x]) (receive isHole g x) := by
  have hmem : ∀ {t}, t ∈ arrivals → t ∈ arrivals ++ [x] := fun ht => List.mem_append_left _ ht
  have hlast : x ∈ arrivals ++ [x] := List.mem_append_right _ (List.mem_singleton_self x)
  have hcases : ∀ {t}, t ∈ arrivals ++ [x] → t ∈ arrivals ∨ t = x := fun ht =>
    (List.mem_append.mp ht).imp_right List.mem_singleton.mp
  obtain ⟨hhole, hle, hhighest⟩ := hg
  rcases receive_cases isHole g x with ⟨hx, -, heq⟩ | ⟨hx, -, heq⟩ | ⟨hx, heq⟩
  · rw [heq]
    refine ⟨fun t ht => ?_, fun y hy hyhole => ?_, fun h hh => (hhighest h hh).imp_left hmem⟩
    · rcases Finset.mem_insert.mp ht with rfl | ht
      · exact ⟨hx, hlast⟩
      · exact (hhole t ht).imp_right hmem
    · rcases hcases hy with hy | rfl
      · exact hle y hy hyhole
      · exact absurd (hx.symm.trans hyhole) nofun
  · rw [heq]
    refine ⟨fun t ht => (hhole t ht).imp_right hmem, fun y hy hyhole => ?_,
      fun h hh => (hhighest h hh).imp_left hmem⟩
    rcases hcases hy with hy | rfl
    · exact hle y hy hyhole
    · exact absurd (hx.symm.trans hyhole) nofun
  · rw [heq]
    refine ⟨fun t ht => (hhole t ht).imp_right hmem, fun y hy hyhole => ⟨_, rfl, ?_⟩, fun h hh => ?_⟩
    · cases hg : g.highest with
      | none =>
        rcases hcases hy with hy | rfl
        · obtain ⟨h, hh, -⟩ := hle y hy hyhole
          rw [hg] at hh
          exact absurd hh nofun
        · exact le_rfl
      | some highest =>
        rcases hcases hy with hy | rfl
        · obtain ⟨h, hh, hyh⟩ := hle y hy hyhole
          rw [hg] at hh
          obtain rfl := Option.some.inj hh
          exact hyh.trans (le_max_left _ _)
        · exact le_max_right _ _
    · obtain rfl := Option.some.inj hh
      cases hg : g.highest with
      | none => exact ⟨hlast, hx⟩
      | some highest =>
        rw [Option.elim_some]
        rcases max_choice highest x with hmax | hmax
        · rw [hmax]
          exact (hhighest highest hg).imp_left hmem
        · rw [hmax]
          exact ⟨hlast, hx⟩

/-- The holes of a run are holes that have arrived, and its highest number is the highest one placed. -/
theorem ranked_run (isHole : ℤ → Bool) (arrivals : List ℤ) : Ranked isHole arrivals (run isHole arrivals) := by
  induction arrivals using List.reverseRecOn with
  | nil => exact ⟨fun _ ht => absurd ht (Finset.notMem_empty _), nofun, nofun⟩
  | append_singleton arrivals x ih =>
    rw [run_concat]
    exact ih.receive x

/-- What is found later lies above all numbers placed. -/
lemma mem_holes_run_append (before after : List ℤ) (hx : x ∈ before) (hxhole : isHole x = false) :
    ∀ t < x, t ∈ (run isHole (before ++ after)).holes ↔ t ∈ (run isHole before).holes := by
  induction after using List.reverseRecOn with
  | nil => exact fun t _ => by rw [List.append_nil]
  | append_singleton after y ih =>
    intro t ht
    rw [← ih t ht, ← List.append_assoc, run_concat]
    rcases receive_cases isHole (run isHole (before ++ after)) y with ⟨-, hhighest, heq⟩ | ⟨-, -, heq⟩ | ⟨-, heq⟩
    · obtain ⟨h, hh, hle⟩ :=
        (ranked_run isHole (before ++ after)).le_highest x (List.mem_append_left _ hx) hxhole
      have hne : t ≠ y := (ht.trans_le (hle.trans (hhighest h hh).le)).ne
      rw [heq, Finset.mem_insert, or_iff_right hne]
    · rw [heq]
    · rw [heq]

/-- **Stability.**  A number that has been placed keeps its place. -/
theorem place_run (before after : List ℤ) (hx : x ∈ before) (hxhole : isHole x = false) :
    place (run isHole (before ++ after)).holes x = place (run isHole before).holes x :=
  place_congr (mem_holes_run_append before after hx hxhole)

lemma holes_run_subset (before after : List ℤ) :
    (run isHole before).holes ⊆ (run isHole (before ++ after)).holes := by
  induction after using List.reverseRecOn with
  | nil => rw [List.append_nil]
  | append_singleton after y ih =>
    rw [← List.append_assoc, run_concat]
    rcases receive_cases isHole (run isHole (before ++ after)) y with ⟨-, -, heq⟩ | ⟨-, -, heq⟩ | ⟨-, heq⟩
    · rw [heq]
      exact ih.trans (Finset.subset_insert _ _)
    · rwa [heq]
    · rwa [heq]

/-- A hole that arrives before all numbers above it is found. -/
theorem mem_holes_run {t : ℤ} (before after : List ℤ) (ht : isHole t = true)
    (hbefore : ∀ y ∈ before, isHole y = false → y < t) : t ∈ (run isHole (before ++ t :: after)).holes := by
  have hhere : t ∈ (run isHole (before ++ [t])).holes := by
    rw [run_concat, receive_hole ht]
    · exact Finset.mem_insert_self _ _
    · intro h hh
      obtain ⟨hmem, hhole⟩ := (ranked_run isHole before).highest_mem h hh
      exact hbefore h hmem hhole
  rw [List.append_cons]
  exact holes_run_subset (before ++ [t]) after hhere

end Gaps

end Compaction
