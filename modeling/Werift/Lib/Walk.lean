import Mathlib

/-!
# Walks through a buffer

A parser that reads one item after the other visits a position, takes an item from it and goes on where
the item ends.  What it does at a position is a `Visit`; a visit may itself be a computation that does not
end, so it is given fuel, and `none` says that the fuel was not enough.  `walk` is the loop.

The walk ends if and only if no position is `Stuck`: a visit that ends moves on, and no visit goes on for
ever (`halts_iff`).  What the walk collects is described by `Items` without any fuel
(`walk_eq_of_items`).
-/

namespace Walk

variable {ε α : Type*}

/-- What is found at a position. -/
inductive Visit (ε α : Type*)
  /-- Nothing, the walk is over. -/
  | stop
  | fail (e : ε)
  /-- An item, and where it ends. -/
  | item (a : α) (next : ℕ)

/-- The items from a position on. -/
def walk (visit : ℕ → ℕ → Option (Visit ε α)) : ℕ → ℕ → Option (Except ε (List α))
  | 0, _ => none
  | fuel + 1, pos =>
    match visit fuel pos with
    | none => none
    | some .stop => some (.ok [])
    | some (.fail e) => some (.error e)
    | some (.item a next) => (walk visit fuel next).map fun r => r.map (a :: ·)

/-- More fuel does not change what has been found. -/
def Monotone (visit : ℕ → ℕ → Option (Visit ε α)) : Prop :=
  ∀ fuel fuel' pos v, fuel ≤ fuel' → visit fuel pos = some v → visit fuel' pos = some v

/-- The walk does not get away from the position. -/
inductive Stuck (visit : ℕ → ℕ → Option (Visit ε α)) : ℕ → Prop
  | hang {pos : ℕ} (h : ∀ fuel, visit fuel pos = none) : Stuck visit pos
  | still {pos : ℕ} (fuel : ℕ) {a : α} (h : visit fuel pos = some (.item a pos)) : Stuck visit pos
  | later {pos next : ℕ} (fuel : ℕ) {a : α} (h : visit fuel pos = some (.item a next))
      (stuck : Stuck visit next) : Stuck visit pos

/-- The items that are found from a position to the end. -/
inductive Items (visit : ℕ → ℕ → Option (Visit ε α)) : ℕ → List α → Prop
  | nil {pos : ℕ} (fuel : ℕ) (h : visit fuel pos = some .stop) : Items visit pos []
  | cons {pos next : ℕ} (fuel : ℕ) {a : α} {l : List α} (h : visit fuel pos = some (.item a next))
      (rest : Items visit next l) : Items visit pos (a :: l)

variable {visit : ℕ → ℕ → Option (Visit ε α)} {pos : ℕ}

lemma walk_mono (hmono : Monotone visit) {fuel fuel' : ℕ} {r : Except ε (List α)}
    (hle : fuel ≤ fuel') (h : walk visit fuel pos = some r) : walk visit fuel' pos = some r := by
  induction fuel generalizing fuel' pos r with
  | zero => cases h
  | succ fuel ih =>
    obtain ⟨fuel', rfl⟩ : ∃ f, fuel' = f + 1 := ⟨fuel' - 1, by omega⟩
    have hle : fuel ≤ fuel' := Nat.le_of_succ_le_succ hle
    rw [walk] at h ⊢
    cases hv : visit fuel pos with
    | none =>
      rw [hv] at h
      cases h
    | some v =>
      rw [hv] at h
      rw [hmono _ _ _ _ hle hv]
      cases v with
      | stop => exact h
      | fail e => exact h
      | item a next =>
        obtain ⟨r', hr', rfl⟩ := Option.map_eq_some_iff.mp h
        exact Option.map_eq_some_iff.mpr ⟨r', ih hle hr', rfl⟩

/-- **The walk collects the items.** -/
theorem walk_eq_of_items (hmono : Monotone visit) {l : List α} (h : Items visit pos l) :
    ∃ fuel, walk visit fuel pos = some (.ok l) := by
  induction h with
  | @nil pos fuel h => exact ⟨fuel + 1, by rw [walk, h]⟩
  | @cons pos next fuel a l h _ ih =>
    obtain ⟨fuel', hrest⟩ := ih
    refine ⟨max fuel fuel' + 1, ?_⟩
    rw [walk, hmono _ _ _ _ (le_max_left fuel fuel') h]
    dsimp only
    rw [walk_mono hmono (le_max_right fuel fuel') hrest]
    rfl

/-- What the walk has collected are the items. -/
theorem items_of_walk {fuel : ℕ} {l : List α} (h : walk visit fuel pos = some (.ok l)) :
    Items visit pos l := by
  induction fuel generalizing pos l with
  | zero => cases h
  | succ fuel ih =>
    rw [walk] at h
    cases hv : visit fuel pos with
    | none =>
      rw [hv] at h
      cases h
    | some v =>
      rw [hv] at h
      cases v with
      | stop =>
        obtain rfl : [] = l := by simpa using h
        exact .nil fuel hv
      | fail e => cases h
      | item a next =>
        obtain ⟨r, hr, hl⟩ := Option.map_eq_some_iff.mp h
        cases r with
        | error e => cases hl
        | ok rest =>
          obtain rfl : a :: rest = l := Except.ok.inj hl
          exact .cons fuel hv (ih hr)

/-- Every item has been found at some position. -/
theorem Items.exists_visit {l : List α} (h : Items visit pos l) {a : α} (ha : a ∈ l) :
    ∃ fuel pos next, visit fuel pos = some (.item a next) := by
  induction h with
  | nil => cases ha
  | @cons pos next fuel b l h _ ih =>
    rcases List.mem_cons.mp ha with rfl | ha
    · exact ⟨fuel, pos, next, h⟩
    · exact ih ha

/-- The walk is not over as long as it is stuck. -/
theorem walk_eq_none_of_stuck (hmono : Monotone visit) (h : Stuck visit pos) (fuel : ℕ) :
    walk visit fuel pos = none := by
  induction fuel generalizing pos with
  | zero => rfl
  | succ fuel ih =>
    rw [walk]
    cases hv : visit fuel pos with
    | none => rfl
    | some v =>
      have hsame {fuel' : ℕ} {v' : Visit ε α} (h : visit fuel' pos = some v') : v = v' :=
        Option.some.inj ((hmono _ _ _ _ (le_max_left fuel fuel') hv).symm.trans
          (hmono _ _ _ _ (le_max_right fuel fuel') h))
      cases h with
      | hang hnone => exact absurd (hv.symm.trans (hnone fuel)) (by simp)
      | still fuel' hitem =>
        obtain rfl := hsame hitem
        exact Option.map_eq_none_iff.mpr (ih (.still fuel' hitem))
      | later fuel' hitem hstuck =>
        obtain rfl := hsame hitem
        exact Option.map_eq_none_iff.mpr (ih hstuck)

/-- **When a walk ends.**  Where positions from `bound` on end the walk and no visit moves back, the walk
ends if and only if it does not get stuck. -/
theorem halts_iff (hmono : Monotone visit) (bound : ℕ)
    (hstop : ∀ pos, bound ≤ pos → ∃ fuel, visit fuel pos = some .stop)
    (hforward : ∀ {fuel pos next a}, visit fuel pos = some (.item a next) → pos ≤ next) :
    (∃ fuel, (walk visit fuel pos).isSome) ↔ ¬ Stuck visit pos := by
  constructor
  · rintro ⟨fuel, h⟩ hstuck
    rw [walk_eq_none_of_stuck hmono hstuck] at h
    cases h
  · intro hfree
    -- the rest of the buffer becomes shorter with each visit
    induction hrest : bound - pos using Nat.strong_induction_on generalizing pos with
    | _ n ih =>
      have hvisit : ∃ fuel v, visit fuel pos = some v := by
        by_contra hnone
        push Not at hnone
        exact hfree (.hang fun fuel => Option.eq_none_iff_forall_ne_some.mpr (hnone fuel))
      obtain ⟨fuel, v, hv⟩ := hvisit
      cases v with
      | stop => exact ⟨fuel + 1, by rw [walk, hv]; rfl⟩
      | fail e => exact ⟨fuel + 1, by rw [walk, hv]; rfl⟩
      | item a next =>
        have hne : pos ≠ next := by
          rintro rfl
          exact hfree (.still fuel hv)
        have hle := hforward hv
        have hbound : pos < bound := by
          by_contra hge
          obtain ⟨fuel', hend⟩ := hstop pos (Nat.le_of_not_lt hge)
          have heq := (hmono _ _ _ _ (le_max_left fuel fuel') hv).symm.trans
            (hmono _ _ _ _ (le_max_right fuel fuel') hend)
          cases heq
        obtain ⟨fuel', hwalk⟩ := ih (bound - next) (by omega) (fun h => hfree (.later fuel hv h)) rfl
        obtain ⟨r, hr⟩ := Option.isSome_iff_exists.mp hwalk
        refine ⟨max fuel fuel' + 1, ?_⟩
        rw [walk, hmono _ _ _ _ (le_max_left fuel fuel') hv]
        dsimp only
        rw [walk_mono hmono (le_max_right fuel fuel') hr]
        rfl

end Walk
