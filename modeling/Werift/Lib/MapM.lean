import Mathlib

/-!
# Lists of values that may be missing

`List.mapM` over `Option` has a value if every element has one.
-/

namespace OptionList

variable {α β : Type*} {f : α → Option β}

/-- The values of a list are the values of its elements, in order. -/
theorem mapM_eq_some {l : List α} {l' : List β} :
    l.mapM f = some l' ↔ List.Forall₂ (fun a b => f a = some b) l l' := by
  induction l generalizing l' with
  | nil => simp [eq_comm]
  | cons a l ih =>
    simp only [List.mapM_cons, Option.bind_eq_bind, Option.bind_eq_some_iff, Option.pure_def,
      Option.some.injEq, List.forall₂_cons_left_iff, ih]
    constructor
    · rintro ⟨b, hb, bs, hbs, rfl⟩
      exact ⟨b, bs, hb, hbs, rfl⟩
    · rintro ⟨b, bs, hb, hbs, rfl⟩
      exact ⟨b, hb, bs, hbs, rfl⟩

theorem mapM_append_eq_some {l₁ l₂ : List α} {l' : List β} :
    (l₁ ++ l₂).mapM f = some l' ↔
      ∃ bs₁ bs₂, l₁.mapM f = some bs₁ ∧ l₂.mapM f = some bs₂ ∧ bs₁ ++ bs₂ = l' := by
  simp only [List.mapM_append, Option.bind_eq_bind, Option.bind_eq_some_iff, Option.pure_def,
    Option.some.injEq]
  constructor
  · rintro ⟨bs₁, h₁, bs₂, h₂, rfl⟩
    exact ⟨bs₁, bs₂, h₁, h₂, rfl⟩
  · rintro ⟨bs₁, bs₂, h₁, h₂, rfl⟩
    exact ⟨bs₁, h₁, bs₂, h₂, rfl⟩

theorem mapM_cons_eq_some {a : α} {l : List α} {l' : List β} :
    (a :: l).mapM f = some l' ↔ ∃ b bs, f a = some b ∧ l.mapM f = some bs ∧ b :: bs = l' := by
  simp only [List.mapM_cons, Option.bind_eq_bind, Option.bind_eq_some_iff, Option.pure_def,
    Option.some.injEq]
  constructor
  · rintro ⟨b, hb, bs, hbs, rfl⟩
    exact ⟨b, bs, hb, hbs, rfl⟩
  · rintro ⟨b, bs, hb, hbs, rfl⟩
    exact ⟨b, hb, bs, hbs, rfl⟩

/-- A value is missing if the value of an element is. -/
theorem mapM_eq_none {l : List α} : l.mapM f = none ↔ ∃ a ∈ l, f a = none := by
  induction l with
  | nil => simp
  | cons a l ih =>
    rw [List.mapM_cons, List.exists_mem_cons_iff, ← ih]
    cases f a <;> cases l.mapM f <;> simp

theorem mapM_congr {g : α → Option β} {l : List α} (h : ∀ a ∈ l, f a = g a) :
    l.mapM f = l.mapM g := by
  induction l with
  | nil => rfl
  | cons a l ih =>
    rw [List.mapM_cons, List.mapM_cons, h a List.mem_cons_self,
      ih fun b hb => h b (List.mem_cons_of_mem _ hb)]

/-- Every value is the value of an element. -/
theorem exists_of_mem_mapM {l : List α} {l' : List β} (h : l.mapM f = some l') {b : β}
    (hb : b ∈ l') : ∃ a ∈ l, f a = some b := by
  have hforall := mapM_eq_some.mp h
  clear h
  induction hforall with
  | nil => exact absurd hb List.not_mem_nil
  | cons hfirst _ ih =>
    rcases List.mem_cons.mp hb with rfl | hmem
    · exact ⟨_, List.mem_cons_self, hfirst⟩
    · obtain ⟨a, ha, hvalue⟩ := ih hmem
      exact ⟨a, List.mem_cons_of_mem _ ha, hvalue⟩

/-- The value of an element is among the values. -/
theorem mem_of_mem_mapM {l : List α} {l' : List β} (h : l.mapM f = some l') {a : α} {b : β}
    (ha : a ∈ l) (hb : f a = some b) : b ∈ l' := by
  have hforall := mapM_eq_some.mp h
  clear h
  induction hforall with
  | nil => exact absurd ha List.not_mem_nil
  | cons hfirst _ ih =>
    rcases List.mem_cons.mp ha with rfl | hmem
    · obtain rfl := Option.some.inj (hfirst.symm.trans hb)
      exact List.mem_cons_self
    · exact List.mem_cons_of_mem _ (ih hmem)

end OptionList
