import Mathlib

/-!
# Runs of a labelled transition system

A system is a partial function `step : σ → ε → Option σ`: `step s e = some s'` says that the event
`e` can happen in the state `s` and leads to `s'`.  `Run step ok s₀ s` says that `s` is reached from
`s₀` by events each of which satisfies the condition `ok` in the state in which it happens; the
condition `fun _ _ => True` gives all reachable states.  `Run.invariant` is the induction rule that
every safety property of such a system is an instance of.
-/

namespace Transition

variable {σ ε : Type*} {step : σ → ε → Option σ} {ok ok' : σ → ε → Prop} {s₀ s s' : σ}

/-- The states reached from `s₀` by events that satisfy `ok` in the state they happen in. -/
inductive Run (step : σ → ε → Option σ) (ok : σ → ε → Prop) (s₀ : σ) : σ → Prop
  | start : Run step ok s₀ s₀
  | next {s s' : σ} {e : ε} (run : Run step ok s₀ s) (good : ok s e) (h : step s e = some s') :
      Run step ok s₀ s'

/-- All states that some sequence of events reaches from `s₀`. -/
abbrev Reachable (step : σ → ε → Option σ) (s₀ : σ) : σ → Prop := Run step (fun _ _ => True) s₀

/-- **Invariance.**  A property of the first state that every good event preserves holds in every
state reached by good events. -/
theorem Run.invariant (I : σ → Prop) (h0 : I s₀)
    (hstep : ∀ s e s', I s → ok s e → step s e = some s' → I s') (h : Run step ok s₀ s) : I s := by
  induction h with
  | start => exact h0
  | next _ good hs ih => exact hstep _ _ _ ih good hs

/-- A weaker condition on the events admits more runs. -/
theorem Run.mono (hok : ∀ s e, ok s e → ok' s e) (h : Run step ok s₀ s) : Run step ok' s₀ s := by
  induction h with
  | start => exact Run.start
  | next _ good hs ih => exact ih.next (hok _ _ good) hs

/-- Runs can be continued by runs. -/
theorem Run.trans {t : σ} (h : Run step ok s₀ s) (h' : Run step ok s t) : Run step ok s₀ t := by
  induction h' with
  | start => exact h
  | next _ good hs ih => exact ih.next good hs

/-- Executing a list of events gives a run, provided each of them is good where it happens. -/
theorem Run.of_foldlM {events : List ε} (hok : ∀ s, ∀ e ∈ events, ok s e)
    (h : events.foldlM step s₀ = some s) : Run step ok s₀ s := by
  induction events generalizing s₀ with
  | nil =>
    obtain rfl : s₀ = s := by simpa using h
    exact Run.start
  | cons e events ih =>
    rw [List.foldlM_cons, Option.bind_eq_bind, Option.bind_eq_some_iff] at h
    obtain ⟨s₁, hs₁, hrest⟩ := h
    have hfirst : Run step ok s₀ s₁ := Run.start.next (hok _ e List.mem_cons_self) hs₁
    exact hfirst.trans (ih (fun s e' he' => hok s e' (List.mem_cons_of_mem _ he')) hrest)

/-- The events of a run that a test admits are good if the test says so. -/
theorem Run.of_check {check : σ → ε → Bool} (hok : ∀ s e, check s e = true → ok s e)
    (h : Run (fun s e => if check s e then step s e else none) ok' s₀ s) : Run step ok s₀ s := by
  induction h with
  | start => exact Run.start
  | next _ _ hs ih =>
    obtain ⟨hcheck, hs⟩ := Option.ite_none_right_eq_some.mp hs
    exact ih.next (hok _ _ hcheck) hs

/-- Executing a list of events reaches its final state. -/
theorem reachable_of_foldlM {events : List ε} (h : events.foldlM step s₀ = some s) :
    Reachable step s₀ s :=
  Run.of_foldlM (fun _ _ _ => trivial) h

/-- Executing a list of events gives a run of good events if a test admits each of them. -/
theorem Run.of_checked {check : σ → ε → Bool} (hok : ∀ s e, check s e = true → ok s e)
    {events : List ε}
    (h : events.foldlM (fun s e => if check s e then step s e else none) s₀ = some s) :
    Run step ok s₀ s :=
  Run.of_check hok (reachable_of_foldlM h)

/-- **Exactness.**  Where each event of a list keeps `I` if and only if it satisfies `ok`, all states on the
way satisfy `I` if and only if all events satisfy `ok`; states and events are given by the events so far. -/
theorem forall_prefix_iff {I : List ε → Prop} {ok : List ε → ε → Prop} (h0 : I []) {events : List ε}
    (hstep : ∀ before e, before ++ [e] <+: events → I before → (I (before ++ [e]) ↔ ok before e)) :
    (∀ before, before <+: events → I before) ↔ ∀ before e, before ++ [e] <+: events → ok before e := by
  constructor
  · intro h before e hfront
    exact (hstep before e hfront (h before ((List.prefix_append _ _).trans hfront))).mp (h _ hfront)
  · intro h before
    induction before using List.reverseRecOn with
    | nil => exact fun _ => h0
    | append_singleton before e ih =>
      intro hfront
      have hbefore : I before := ih ((List.prefix_append _ _).trans hfront)
      exact (hstep before e hfront hbefore).mpr (h before e hfront)

end Transition
