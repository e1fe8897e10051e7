import Mathlib
import Werift.Lib.Transition

/-!
# Infinite runs

A `Path` is an infinite run, in which nothing may happen at a time (so that finite runs are paths as well).
`Path.Eventually P n` says that `P` holds at some time from `n` on, and a property that all events keep holds
from then on.  What is fair is said about single paths: `Path.Answers` is the form of all such assumptions.
-/

namespace Transition

variable {σ ε : Type*} {step : σ → ε → Option σ} {s₀ : σ}

/-- An infinite run from `s₀`. -/
structure Path (step : σ → ε → Option σ) (s₀ : σ) where
  state : ℕ → σ
  event : ℕ → Option ε
  start : state 0 = s₀
  next : ∀ n, (event n).elim (some (state n)) (step (state n)) = some (state (n + 1))

namespace Path

variable {path : Path step s₀} {P Q : σ → Prop} {m n : ℕ}

/-- `P` holds at some time from `n` on. -/
def Eventually (path : Path step s₀) (P : σ → Prop) (n : ℕ) : Prop := ∃ m, n ≤ m ∧ P (path.state m)

/-- Whenever `P` holds, one of the events `answer` happens later. -/
def Answers (path : Path step s₀) (P : σ → Prop) (answer : ε → Prop) : Prop :=
  ∀ n, P (path.state n) → ∃ m e, n ≤ m ∧ path.event m = some e ∧ answer e

/-- What happens at a time. -/
lemma next_cases (path : Path step s₀) (n : ℕ) : path.event n = none ∧ path.state (n + 1) = path.state n ∨
    ∃ e, path.event n = some e ∧ step (path.state n) e = some (path.state (n + 1)) := by
  have hnext := path.next n
  cases he : path.event n with
  | none =>
    rw [he] at hnext
    exact .inl ⟨rfl, (Option.some.inj hnext).symm⟩
  | some e =>
    rw [he] at hnext
    exact .inr ⟨e, rfl, hnext⟩

lemma step_of_event {e : ε} (he : path.event n = some e) :
    step (path.state n) e = some (path.state (n + 1)) := by
  have hnext := path.next n
  rwa [he] at hnext

/-- All states of a path are reachable. -/
lemma reachable (path : Path step s₀) (n : ℕ) : Reachable step s₀ (path.state n) := by
  induction n with
  | zero =>
    rw [path.start]
    exact Run.start
  | succ n ih =>
    rcases path.next_cases n with ⟨-, hsame⟩ | ⟨e, -, hstep⟩
    · rwa [hsame]
    · exact ih.next trivial hstep

/-- **Stability.**  What every event keeps in reachable states holds for good. -/
lemma stable (hstep : ∀ s e s', Reachable step s₀ s → P s → step s e = some s' → P s') (h : P (path.state n))
    (hle : n ≤ m) : P (path.state m) := by
  induction m, hle using Nat.le_induction with
  | base => exact h
  | succ m _ ih =>
    rcases path.next_cases m with ⟨-, hsame⟩ | ⟨e, -, hstate⟩
    · rwa [hsame]
    · exact hstep _ _ _ (path.reachable m) ih hstate

/-- What leads to something eventual leads to what that leads to. -/
lemma Eventually.trans (h : path.Eventually P n)
    (hnext : ∀ m, n ≤ m → P (path.state m) → path.Eventually Q m) : path.Eventually Q n := by
  obtain ⟨m, hle, hP⟩ := h
  obtain ⟨l, hle', hQ⟩ := hnext m hle hP
  exact ⟨l, hle.trans hle', hQ⟩

/-- **Progress.**  If `P` holds until an event that leads to `Q`, and such an event is bound to come, then `Q`
holds eventually. -/
lemma Answers.eventually {answer : ε → Prop} (hanswers : path.Answers P answer) (h : P (path.state n))
    (hkeep : ∀ s e s', Reachable step s₀ s → P s → step s e = some s' → P s' ∨ Q s')
    (hanswer : ∀ s e s', Reachable step s₀ s → P s → answer e → step s e = some s' → Q s') :
    path.Eventually Q n := by
  obtain ⟨m, e, hle, he, hans⟩ := hanswers n h
  by_contra hnever
  have hholds : ∀ l, n ≤ l → P (path.state l) := by
    intro l hl
    induction l, hl using Nat.le_induction with
    | base => exact h
    | succ l hl ih =>
      rcases path.next_cases l with ⟨-, hsame⟩ | ⟨e', -, hstate⟩
      · rwa [hsame]
      · rcases hkeep _ _ _ (path.reachable l) ih hstate with hP | hQ
        · exact hP
        · exact absurd ⟨l + 1, Nat.le_succ_of_le hl, hQ⟩ hnever
  exact hnever ⟨m + 1, Nat.le_succ_of_le hle,
    hanswer _ _ _ (path.reachable m) (hholds m hle) hans (step_of_event he)⟩

/-- Stable properties that hold eventually hold together at some time. -/
lemma Eventually.forall_lt {R : ℕ → σ → Prop} (k : ℕ) (h : ∀ i < k, path.Eventually (R i) n)
    (hstep : ∀ i s e s', Reachable step s₀ s → R i s → step s e = some s' → R i s') :
    path.Eventually (fun s => ∀ i < k, R i s) n := by
  induction k with
  | zero => exact ⟨n, le_rfl, fun i hi => absurd hi (Nat.not_lt_zero i)⟩
  | succ k ih =>
    obtain ⟨m, hm, hall⟩ := ih fun i hi => h i (Nat.lt_succ_of_lt hi)
    obtain ⟨l, hl, hlast⟩ := h k (Nat.lt_succ_self k)
    refine ⟨max m l, hm.trans (le_max_left m l), fun i hi => ?_⟩
    rcases Nat.lt_succ_iff_lt_or_eq.mp hi with hlt | rfl
    · exact stable (hstep i) (hall i hlt) (le_max_left m l)
    · exact stable (hstep i) hlast (le_max_right m l)

end Path

end Transition
