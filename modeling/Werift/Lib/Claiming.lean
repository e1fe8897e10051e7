import Mathlib

/-!
# Claiming resources

Keys claim resources one after the other.  A key takes the resource that it holds, unless a key before it has taken
it; any other key is given a new one.  `assign` claims and makes in one pass, `plan` only claims, and `realize`
makes what a plan leaves open.
-/

namespace Claiming

variable {κ τ : Type*} [DecidableEq τ] {held : κ → Option τ} {make : ℕ → τ} {n m : ℕ} {used used' : List τ}
  {key key' : κ} {keys : List κ} {r r' : τ}

/-- The resource that a key holds, if it has not been taken. -/
def claim (held : κ → Option τ) (used : List τ) (key : κ) : Option τ := (held key).filter (· ∉ used)

lemma claim_eq_some : claim held used key = some r ↔ held key = some r ∧ r ∉ used := by
  rw [claim, Option.filter_eq_some_iff, decide_eq_true_eq]

lemma claim_eq_none : claim held used key = none ↔ ∀ r : τ, held key = some r → r ∈ used := by
  rw [Option.eq_none_iff_forall_ne_some]
  constructor
  · intro h r hr
    by_contra hused
    exact h r (claim_eq_some.mpr ⟨hr, hused⟩)
  · intro h r hr
    exact (claim_eq_some.mp hr).2 (h r (claim_eq_some.mp hr).1)

/-- Claim or make a resource for each key; `n` is the number of the next one that is made. -/
def assign (held : κ → Option τ) (make : ℕ → τ) : ℕ → List τ → List κ → List (κ × τ × Bool)
  | _, _, [] => []
  | n, used, key :: keys =>
    match claim held used key with
    | some r => (key, r, false) :: assign held make n (r :: used) keys
    | none => (key, make n, true) :: assign held make (n + 1) (make n :: used) keys

/-- Claim a resource for each key. -/
def plan (held : κ → Option τ) : List τ → List κ → List (κ × Option τ)
  | _, [] => []
  | used, key :: keys =>
    match claim held used key with
    | some r => (key, some r) :: plan held (r :: used) keys
    | none => (key, none) :: plan held used keys

/-- Make a resource for each key that has not claimed one. -/
def realize (make : ℕ → τ) : ℕ → List (κ × Option τ) → List (κ × τ × Bool)
  | _, [] => []
  | n, (key, some r) :: rest => (key, r, false) :: realize make n rest
  | n, (key, none) :: rest => (key, make n, true) :: realize make (n + 1) rest

@[simp] lemma map_fst_plan : (plan held used keys).map Prod.fst = keys := by
  induction keys generalizing used with
  | nil => rfl
  | cons key keys ih =>
    rw [plan]
    split
    · rw [List.map_cons, ih]
    · rw [List.map_cons, ih]

@[simp] lemma map_fst_assign : (assign held make n used keys).map Prod.fst = keys := by
  induction keys generalizing n used with
  | nil => rfl
  | cons key keys ih =>
    rw [assign]
    split
    · rw [List.map_cons, ih]
    · rw [List.map_cons, ih]

/-- Which of the held resources have been taken is all that matters. -/
lemma claim_congr (h : ∀ (key : κ) (r : τ), held key = some r → (r ∈ used ↔ r ∈ used')) (key : κ) :
    claim held used key = claim held used' key := by
  refine Option.ext fun r => ?_
  rw [claim_eq_some, claim_eq_some]
  exact and_congr_right fun hr => not_congr (h key r hr)

/-- Planning first and making afterwards is the same, when nothing that is made is held. -/
theorem realize_plan (h : ∀ (key : κ) (m : ℕ), n ≤ m → held key ≠ some (make m))
    (hused : ∀ (key : κ) (r : τ), held key = some r → (r ∈ used ↔ r ∈ used')) :
    realize make n (plan held used keys) = assign held make n used' keys := by
  induction keys generalizing n used used' with
  | nil => rfl
  | cons key keys ih =>
    rw [plan, assign, claim_congr hused key]
    split
    · rename_i r _
      rw [realize, ih h]
      intro key' r' hr'
      rw [List.mem_cons, List.mem_cons, hused key' r' hr']
    · rw [realize, ih fun key' m hm => h key' m (by omega)]
      intro key' r' hr'
      have hne : r' ≠ make n := fun heq => h key' n le_rfl (heq ▸ hr')
      rw [List.mem_cons, or_iff_right hne, hused key' r' hr']

/-- What is made is neither taken nor held, and never made twice. -/
structure Fresh (held : κ → Option τ) (make : ℕ → τ) (n : ℕ) (used : List τ) : Prop where
  used : ∀ m : ℕ, n ≤ m → make m ∉ used
  held : ∀ (key : κ) (m : ℕ), n ≤ m → held key ≠ some (make m)
  injective : Function.Injective make

lemma Fresh.claim (h : Fresh held make n used) (hclaim : claim held used key = some r) :
    Fresh held make n (r :: used) := by
  refine ⟨fun m hm hmem => ?_, h.held, h.injective⟩
  obtain heq | hmem := List.mem_cons.mp hmem
  · exact h.held key m hm (heq ▸ (claim_eq_some.mp hclaim).1)
  · exact h.used m hm hmem

omit [DecidableEq τ] in
lemma Fresh.next (h : Fresh held make n used) : Fresh held make (n + 1) (make n :: used) := by
  refine ⟨fun m hm hmem => ?_, fun key m hm => h.held key m (by omega), h.injective⟩
  obtain heq | hmem := List.mem_cons.mp hmem
  · exact absurd (h.injective heq) (by omega)
  · exact h.used m (by omega) hmem

/-- What has been taken is not given to a key. -/
lemma not_mem_assign (h : Fresh held make n used) (hr : r ∈ used) :
    r ∉ (assign held make n used keys).map fun entry => entry.2.1 := by
  induction keys generalizing n used with
  | nil => exact List.not_mem_nil
  | cons key keys ih =>
    rw [assign]
    split
    · rename_i r' hclaim
      rw [List.map_cons, List.mem_cons, not_or]
      refine ⟨?_, ih (h.claim hclaim) (List.mem_cons_of_mem _ hr)⟩
      rintro rfl
      exact (claim_eq_some.mp hclaim).2 hr
    · rw [List.map_cons, List.mem_cons, not_or]
      refine ⟨?_, ih h.next (List.mem_cons_of_mem _ hr)⟩
      rintro rfl
      exact h.used n le_rfl hr

/-- No resource is given to two keys. -/
theorem nodup_assign (h : Fresh held make n used) :
    ((assign held make n used keys).map fun entry => entry.2.1).Nodup := by
  induction keys generalizing n used with
  | nil => exact List.nodup_nil
  | cons key keys ih =>
    rw [assign]
    split
    · rename_i r hclaim
      rw [List.map_cons, List.nodup_cons]
      exact ⟨not_mem_assign (h.claim hclaim) List.mem_cons_self, ih (h.claim hclaim)⟩
    · rw [List.map_cons, List.nodup_cons]
      exact ⟨not_mem_assign h.next List.mem_cons_self, ih h.next⟩

/-- Only a key that holds it claims a resource. -/
theorem held_of_mem_assign (h : (key, r, false) ∈ assign held make n used keys) : held key = some r := by
  induction keys generalizing n used with
  | nil => exact absurd h List.not_mem_nil
  | cons key' keys ih =>
    rw [assign] at h
    split at h
    · rename_i r' hclaim
      obtain heq | h := List.mem_cons.mp h
      · rw [Prod.mk.injEq, Prod.mk.injEq] at heq
        rw [heq.1, heq.2.1]
        exact (claim_eq_some.mp hclaim).1
      · exact ih h
    · obtain heq | h := List.mem_cons.mp h
      · simp at heq
      · exact ih h

/-- A resource is made only for a key whose own one has been taken, if it holds any. -/
theorem taken_of_mem_assign (h : (key, r, true) ∈ assign held make n used keys) :
    (∃ m : ℕ, n ≤ m ∧ r = make m) ∧ ∀ r' : τ, held key = some r' →
      r' ∈ used ∨ r' ∈ (assign held make n used keys).map fun entry => entry.2.1 := by
  induction keys generalizing n used with
  | nil => exact absurd h List.not_mem_nil
  | cons key' keys ih =>
    rw [assign] at h ⊢
    split at h
    · obtain heq | h := List.mem_cons.mp h
      · simp at heq
      · obtain ⟨hmade, htaken⟩ := ih h
        refine ⟨hmade, fun r' hr' => ?_⟩
        rw [List.map_cons, List.mem_cons, ← or_assoc, or_comm (a := r' ∈ used), ← List.mem_cons]
        exact htaken r' hr'
    · rename_i hclaim
      obtain heq | h := List.mem_cons.mp h
      · rw [Prod.mk.injEq, Prod.mk.injEq] at heq
        exact ⟨⟨n, le_rfl, heq.2.1⟩, fun r' hr' => .inl (claim_eq_none.mp hclaim r' (heq.1 ▸ hr'))⟩
      · obtain ⟨⟨m, hm, hmade⟩, htaken⟩ := ih h
        refine ⟨⟨m, by omega, hmade⟩, fun r' hr' => ?_⟩
        rw [List.map_cons, List.mem_cons, ← or_assoc, or_comm (a := r' ∈ used), ← List.mem_cons]
        exact htaken r' hr'

end Claiming
