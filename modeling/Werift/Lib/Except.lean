import Mathlib

/-!
# Computations that succeed

A computation that may throw succeeds when each of its steps does.
-/

namespace Except

variable {ε : Type*} {α β : Type} {e : ε} {c : Prop} [Decidable c]

lemma bind_eq_ok {x : Except ε α} {f : α → Except ε β} {b : β} :
    x >>= f = .ok b ↔ ∃ a, x = .ok a ∧ f a = .ok b := by
  cases x <;> simp [bind, Except.bind]

lemma map_eq_ok {x : Except ε α} {f : α → β} {b : β} :
    x.map f = .ok b ↔ ∃ a, x = .ok a ∧ f a = b := by
  cases x <;> simp [Except.map]

lemma toOption_eq_some {x : Except ε α} {a : α} : x.toOption = some a ↔ x = .ok a := by
  cases x <;> simp [Except.toOption]

lemma throw_bind {f : α → Except ε β} : (throw e : Except ε α) >>= f = .error e := rfl

/-- A step that succeeds, as an equation that `simp` rewrites with. -/
lemma ok_bind {a : α} {f : α → Except ε β} : (.ok a : Except ε α) >>= f = f a := by
  simp [bind, Except.bind]

lemma error_bind {f : α → Except ε β} : (.error e : Except ε α) >>= f = .error e := by
  simp [bind, Except.bind]

/-- A check in front of the rest of a computation. -/
lemma ite_error_eq_ok {x : Except ε α} {a : α} :
    (if c then .error e else x) = .ok a ↔ ¬ c ∧ x = .ok a := by
  split_ifs with hc <;> simp [hc]

/-- A check that lets the computation go on. -/
lemma ite_error_pure_eq_ok : (if c then .error e else pure () : Except ε Unit) = .ok () ↔ ¬ c := by
  rw [ite_error_eq_ok]
  exact and_iff_left rfl

/-- A loop that may throw succeeds when each of its rounds does. -/
lemma forM_eq_ok {l : List α} {f : α → Except ε Unit} : l.forM f = .ok () ↔ ∀ a ∈ l, f a = .ok () := by
  induction l with
  | nil => simp [List.forM, pure, Except.pure]
  | cons a l ih =>
    change f a >>= (fun _ => l.forM f) = .ok () ↔ _
    rw [bind_eq_ok, List.forall_mem_cons, ← ih]
    exact ⟨fun ⟨_, ha, hl⟩ => ⟨ha, hl⟩, fun ⟨ha, hl⟩ => ⟨(), ha, hl⟩⟩

end Except
