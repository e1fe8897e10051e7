import Mathlib

/-!
# Contracts of stateful methods

A method is a computation in `EStateM`: it reads and changes a state, and the changes stay where it
throws.  A contract has an invariant `I` of the state and a preorder `R` that says how the state may
develop; both hold however the method ends.  `Keeps I R P m Q` says that `m` respects them in every
state with the precondition `P`, and that a result `a` and the state at the end satisfy `Q a`.
-/

namespace Contract

universe u

variable {ε σ α β : Type u} {I : σ → Prop} {R : σ → σ → Prop}

/-- A method keeps the invariant and the order, from every state that satisfies the precondition. -/
def Keeps (I : σ → Prop) (R : σ → σ → Prop) (P : σ → Prop) (m : EStateM ε σ α)
    (Q : α → σ → Prop) : Prop :=
  ∀ s, I s → P s → match m.run s with
    | .ok a s' => I s' ∧ R s s' ∧ Q a s'
    | .error _ s' => I s' ∧ R s s'

/-- Run a method on every element and collect the results. -/
def concatMapM {γ : Type*} (f : γ → EStateM ε σ (List β)) : List γ → EStateM ε σ (List β)
  | [] => pure []
  | a :: l => do
    let first ← f a
    let rest ← concatMapM f l
    return first ++ rest

section

variable {P P' F : σ → Prop} {m : EStateM ε σ α} {f : α → EStateM ε σ β} {Q Q' : α → σ → Prop}
  {S : β → σ → Prop}

theorem Keeps.ok (h : Keeps I R P m Q) {s s' : σ} {a : α} (hI : I s) (hP : P s)
    (hm : m.run s = .ok a s') : I s' ∧ R s s' ∧ Q a s' := by
  have := h s hI hP
  rwa [hm] at this

theorem Keeps.error (h : Keeps I R P m Q) {s s' : σ} {e : ε} (hI : I s) (hP : P s)
    (hm : m.run s = .error e s') : I s' ∧ R s s' := by
  have := h s hI hP
  rwa [hm] at this

/-- A stronger precondition and a weaker postcondition. -/
theorem Keeps.conseq (h : Keeps I R P m Q) (hP : ∀ s, I s → P' s → P s)
    (hQ : ∀ a s, I s → Q a s → Q' a s) : Keeps I R P' m Q' := by
  intro s hI hP'
  have hspec := h s hI (hP s hI hP')
  cases hm : m.run s with
  | ok a s' =>
    rw [hm] at hspec
    exact ⟨hspec.1, hspec.2.1, hQ a s' hspec.1 hspec.2.2⟩
  | error e s' =>
    rw [hm] at hspec
    exact hspec

theorem Keeps.weaken (h : Keeps I R P m Q) (hQ : ∀ a s, I s → Q a s → Q' a s) :
    Keeps I R P m Q' :=
  h.conseq (fun _ _ hP => hP) hQ

theorem Keeps.strengthen (h : Keeps I R P m Q) (hP : ∀ s, I s → P' s → P s) : Keeps I R P' m Q :=
  h.conseq hP fun _ _ _ hQ => hQ

/-- Two contracts of one method. -/
theorem Keeps.and (h : Keeps I R P m Q) (h' : Keeps I R P' m Q') :
    Keeps I R (fun s => P s ∧ P' s) m (fun a s => Q a s ∧ Q' a s) := by
  intro s hI hs
  have hspec := h s hI hs.1
  have hspec' := h' s hI hs.2
  cases hm : m.run s with
  | ok a s' =>
    rw [hm] at hspec hspec'
    exact ⟨hspec.1, hspec.2.1, hspec.2.2, hspec'.2.2⟩
  | error e s' =>
    rw [hm] at hspec
    exact hspec

/-- What the order preserves survives a method. -/
theorem Keeps.frame (h : Keeps I R P m Q) (hF : ∀ s s', R s s' → F s → F s') :
    Keeps I R (fun s => P s ∧ F s) m (fun a s => Q a s ∧ F s) := by
  intro s hI hPF
  have hspec := h s hI hPF.1
  cases hm : m.run s with
  | ok a s' =>
    rw [hm] at hspec
    exact ⟨hspec.1, hspec.2.1, hspec.2.2, hF s s' hspec.2.1 hPF.2⟩
  | error e s' =>
    rw [hm] at hspec
    exact hspec

/-- A precondition that the order preserves still holds at the end. -/
theorem Keeps.retain (h : Keeps I R P m Q) (hP : ∀ s s', R s s' → P s → P s') :
    Keeps I R P m fun a s => P s ∧ Q a s :=
  (h.frame hP).conseq (fun _ _ hs => ⟨hs, hs⟩) fun _ _ _ hs => hs.symm

theorem keeps_pure [Std.Refl R] (a : α) : Keeps I R (Q a) (pure a : EStateM ε σ α) Q :=
  fun s hI hQ => ⟨hI, refl_of R s, hQ⟩

theorem keeps_throw [Std.Refl R] (e : ε) : Keeps I R P (throw e : EStateM ε σ α) Q :=
  fun s hI _ => ⟨hI, refl_of R s⟩

theorem keeps_get [Std.Refl R] : Keeps I R P (get : EStateM ε σ σ) fun a s => a = s ∧ P s :=
  fun s hI hP => ⟨hI, refl_of R s, rfl, hP⟩

theorem keeps_modify {g : σ → σ} {Q : PUnit → σ → Prop}
    (h : ∀ s, I s → P s → I (g s) ∧ R s (g s) ∧ Q ⟨⟩ (g s)) :
    Keeps I R P (modify g : EStateM ε σ PUnit) Q := h

theorem keeps_bind [IsTrans σ R] (hm : Keeps I R P m Q) (hf : ∀ a, Keeps I R (Q a) (f a) S) :
    Keeps I R P (m >>= f) S := by
  intro s hI hP
  have hspec := hm s hI hP
  cases hs : m.run s with
  | error e s' =>
    rw [hs] at hspec
    have hrun : (m >>= f).run s = .error e s' := by
      change EStateM.bind m f s = _
      rw [EStateM.bind, show m s = _ from hs]
    rw [hrun]
    exact hspec
  | ok a s₁ =>
    rw [hs] at hspec
    obtain ⟨hI₁, hR₁, hQ₁⟩ := hspec
    have hrun : (m >>= f).run s = (f a).run s₁ := by
      change EStateM.bind m f s = _
      rw [EStateM.bind, show m s = _ from hs]
      rfl
    have hnext := hf a s₁ hI₁ hQ₁
    rw [hrun]
    cases hfa : (f a).run s₁ with
    | error e s' =>
      rw [hfa] at hnext
      exact ⟨hnext.1, trans_of R hR₁ hnext.2⟩
    | ok b s' =>
      rw [hfa] at hnext
      exact ⟨hnext.1, trans_of R hR₁ hnext.2.1, hnext.2.2⟩

theorem keeps_ite {c : Prop} [Decidable c] {m' : EStateM ε σ α}
    (h : c → Keeps I R P m Q) (h' : ¬ c → Keeps I R P m' Q) :
    Keeps I R P (if c then m else m') Q := by
  split_ifs with hc
  · exact h hc
  · exact h' hc

/-- A fact that the precondition implies may be assumed. -/
theorem keeps_of_pre {c : Prop} (hc : ∀ s, I s → P s → c) (h : c → Keeps I R P m Q) :
    Keeps I R P m Q :=
  fun s hI hP => h (hc s hI hP) s hI hP

end

/-! ## Runs that return -/

section

variable {m : EStateM ε σ α} {f : α → EStateM ε σ β} {s s' : σ} {a a' : α} {b : β}

theorem run_bind_eq_ok : (m >>= f).run s = .ok b s' ↔
    ∃ a s₁, m.run s = .ok a s₁ ∧ (f a).run s₁ = .ok b s' := by
  change EStateM.bind m f s = _ ↔ ∃ a s₁, m s = _ ∧ f a s₁ = _
  rw [EStateM.bind]
  cases m s with
  | error e s₁ => simp
  | ok a s₁ => simp

theorem run_bind_of_ok {s₁ : σ} (hm : m.run s = .ok a s₁) : (m >>= f).run s = (f a).run s₁ := by
  change EStateM.bind m f s = f a s₁
  rw [EStateM.bind, show m s = _ from hm]

/-- What follows a method matters only behind its results. -/
theorem run_bind_congr {g : α → EStateM ε σ β}
    (h : ∀ a s₁, m.run s = .ok a s₁ → (f a).run s₁ = (g a).run s₁) :
    (m >>= f).run s = (m >>= g).run s := by
  change EStateM.bind m f s = EStateM.bind m g s
  rw [EStateM.bind, EStateM.bind]
  cases hm : m s with
  | error e s₁ => rfl
  | ok a s₁ => exact h a s₁ hm

theorem run_pure_eq_ok : (pure a : EStateM ε σ α).run s = .ok a' s' ↔ a = a' ∧ s = s' := by
  change EStateM.Result.ok a s = _ ↔ _
  rw [EStateM.Result.ok.injEq]

theorem run_get_eq_ok {t : σ} : (get : EStateM ε σ σ).run s = .ok t s' ↔ s = t ∧ s = s' := by
  change EStateM.Result.ok s s = _ ↔ _
  rw [EStateM.Result.ok.injEq]

theorem run_modify_eq_ok {g : σ → σ} {u : PUnit} :
    (modify g : EStateM ε σ PUnit).run s = .ok u s' ↔ g s = s' := by
  change EStateM.Result.ok PUnit.unit (g s) = _ ↔ _
  rw [EStateM.Result.ok.injEq]
  exact and_iff_right rfl

/-- A method that does not throw. -/
def Returns (m : EStateM ε σ α) : Prop := ∀ s, ∃ a s', m.run s = .ok a s'

theorem returns_pure (a : α) : Returns (pure a : EStateM ε σ α) := fun s => ⟨a, s, rfl⟩

theorem returns_bind (hm : Returns m) (hf : ∀ a, Returns (f a)) : Returns (m >>= f) := by
  intro s
  obtain ⟨a, s₁, hm⟩ := hm s
  obtain ⟨b, s', hf⟩ := hf a s₁
  exact ⟨b, s', run_bind_eq_ok.mpr ⟨a, s₁, hm, hf⟩⟩

theorem returns_concatMapM {γ : Type*} {g : γ → EStateM ε σ (List β)} (hg : ∀ c, Returns (g c))
    (l : List γ) : Returns (concatMapM g l) := by
  induction l with
  | nil => exact returns_pure []
  | cons c l ih => exact returns_bind (hg c) fun _ => returns_bind ih fun _ => returns_pure _

theorem concatMapM_map {γ δ : Type*} (g : δ → EStateM ε σ (List β)) (h : γ → δ) (l : List γ) :
    concatMapM g (l.map h) = concatMapM (fun c => g (h c)) l := by
  induction l with
  | nil => rfl
  | cons c l ih => rw [List.map_cons, concatMapM, concatMapM, ih]

theorem run_throw_eq_ok {e : ε} : ¬ (throw e : EStateM ε σ α).run s = .ok a s' := nofun

end

section

variable {m : EStateM ε σ α} {f : α → EStateM ε σ β} {Q Q' : α → Prop} {S : β → Prop}

/-- Every result of a method has a property. -/
def Yields (m : EStateM ε σ α) (Q : α → Prop) : Prop := ∀ s a s', m.run s = .ok a s' → Q a

theorem Yields.weaken (h : Yields m Q) (hQ : ∀ a, Q a → Q' a) : Yields m Q' :=
  fun s a s' hm => hQ a (h s a s' hm)

theorem yields_true : Yields m fun _ => True := fun _ _ _ _ => trivial

theorem yields_pure {a : α} (h : Q a) : Yields (pure a : EStateM ε σ α) Q := by
  intro s b s' hm
  cases hm
  exact h

theorem yields_throw (e : ε) : Yields (throw e : EStateM ε σ α) Q := by
  intro s b s' hm
  cases hm

theorem yields_bind (hm : Yields m Q) (hf : ∀ a, Q a → Yields (f a) S) : Yields (m >>= f) S := by
  intro s b s' hrun
  change EStateM.bind m f s = _ at hrun
  rw [EStateM.bind] at hrun
  cases hs : m s with
  | error e s₁ =>
    rw [hs] at hrun
    cases hrun
  | ok a s₁ =>
    rw [hs] at hrun
    exact hf a (hm s a s₁ hs) s₁ b s' hrun

theorem yields_ite {c : Prop} [Decidable c] {m' : EStateM ε σ α} (h : Yields m Q)
    (h' : Yields m' Q) : Yields (if c then m else m') Q := by
  split_ifs
  · exact h
  · exact h'

end

/-- **Loops.**  If the order preserves what is said of the results of one turn, it can be said of
the results of all turns.  The precondition may speak of the elements that are left. -/
theorem keeps_concatMapM [Std.Refl R] [IsTrans σ R] {γ : Type*} {P : List γ → σ → Prop}
    {Q : β → σ → Prop} {f : γ → EStateM ε σ (List β)} (hQ : ∀ b s s', R s s' → Q b s → Q b s')
    (hf : ∀ a l, Keeps I R (P (a :: l)) (f a) fun bs s => (∀ b ∈ bs, Q b s) ∧ P l s) (l : List γ) :
    Keeps I R (P l) (concatMapM f l) fun bs s => ∀ b ∈ bs, Q b s := by
  induction l with
  | nil => exact (keeps_pure []).strengthen fun _ _ _ _ hb => absurd hb List.not_mem_nil
  | cons a l ih =>
    refine keeps_bind (hf a l) fun first => ?_
    have hrest := ih.frame (F := fun s => ∀ b ∈ first, Q b s)
      fun s s' hR h b hb => hQ b s s' hR (h b hb)
    refine keeps_bind (hrest.strengthen fun _ _ h => h.symm) fun rest => ?_
    refine (keeps_pure (first ++ rest)).strengthen fun s _ h b hb => ?_
    exact (List.mem_append.mp hb).elim (h.2 b) (h.1 b)

/-- **Loops that accumulate.**  The condition may speak of the elements that are left and of all
results so far. -/
theorem keeps_concatMapM_append [Std.Refl R] [IsTrans σ R] {γ : Type*}
    {P : List γ → List β → σ → Prop} {f : γ → EStateM ε σ (List β)}
    (hf : ∀ a l acc, Keeps I R (P (a :: l) acc) (f a) fun bs s => P l (acc ++ bs) s)
    (l : List γ) (acc : List β) :
    Keeps I R (P l acc) (concatMapM f l) fun bs s => P [] (acc ++ bs) s := by
  induction l generalizing acc with
  | nil =>
    refine (keeps_pure []).strengthen fun s _ hP => ?_
    rwa [List.append_nil]
  | cons a l ih =>
    refine keeps_bind (hf a l acc) fun first => ?_
    refine keeps_bind (ih (acc ++ first)) fun rest => ?_
    refine (keeps_pure (first ++ rest)).strengthen fun s _ hP => ?_
    rwa [← List.append_assoc]

end Contract
