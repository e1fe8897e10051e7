import Mathlib

/-!
# Promises and the queue of their continuations

A promise is pending until it is settled, once.  What waits for it is called in the order in which it
has been registered: as long as the promise is pending its reactions are kept with it, and afterwards
they are jobs in one queue, which is served from the front.  `waiting s p` is what still waits for
`p`, wherever it is kept; settling a promise does not change it, and a job is always its front.

A continuation that registers itself where nothing waits yet owns the promise: it runs before
everything that `Promise.allSettled` waits for there.  `owner s p` is this continuation.
-/

/-- How a promise has been settled.  `results` stands for the array of `Promise.allSettled`. -/
inductive Promises.Outcome (ν : Type*)
  | fulfilled (value : ν)
  | rejected
  | results
deriving DecidableEq

/-- What waits for a promise: the rest of an async function, or the element function of a
`Promise.allSettled` whose own promise is `q`. -/
inductive Promises.Reaction (κ : Type*)
  | resume (k : κ)
  | element (q : ℕ)

/-- The promises `0, …, next - 1`, and the jobs that are ready to run.  `remaining q` are the promises
that the `Promise.allSettled` behind `q` still waits for. -/
structure Promises (κ ν : Type*) where
  next : ℕ := 0
  outcome : ℕ → Option (Promises.Outcome ν) := fun _ => none
  reactions : ℕ → List (Promises.Reaction κ) := fun _ => []
  jobs : List (ℕ × Promises.Reaction κ) := []
  remaining : ℕ → List ℕ := fun _ => []

namespace Promises

open Function

variable {κ ν : Type*} {s s' : Promises κ ν} {p q : ℕ} {k : κ} {r : Reaction κ} {o : Outcome ν}
  {ps : List ℕ}

/-- `new Promise(..)`. -/
def create (s : Promises κ ν) : ℕ × Promises κ ν := (s.next, { s with next := s.next + 1 })

/-- `await p`, `p.then(..)`. -/
def await (s : Promises κ ν) (p : ℕ) (r : Reaction κ) : Promises κ ν :=
  if (s.outcome p).isSome then { s with jobs := s.jobs ++ [(p, r)] }
  else { s with reactions := update s.reactions p (s.reactions p ++ [r]) }

/-- The call of `resolve` or `reject`. -/
def settle (s : Promises κ ν) (p : ℕ) (o : Outcome ν) : Promises κ ν :=
  if (s.outcome p).isSome then s
  else { s with
    outcome := update s.outcome p (some o)
    reactions := update s.reactions p []
    jobs := s.jobs ++ (s.reactions p).map fun r => (p, r) }

/-- `Promise.allSettled(ps)`. -/
def allSettled (s : Promises κ ν) (ps : List ℕ) : ℕ × Promises κ ν :=
  let (q, s) := s.create
  let s := { s with remaining := update s.remaining q ps }
  let s := ps.foldl (fun s p => s.await p (.element q)) s
  (q, if ps.isEmpty then s.settle q .results else s)

/-- A new promise that is awaited at once. -/
def call (s : Promises κ ν) (k : κ) : ℕ × Promises κ ν :=
  let (p, s) := s.create
  (p, s.await p (.resume k))

/-- `await Promise.allSettled(ps)`. -/
def awaitAllSettled (s : Promises κ ν) (ps : List ℕ) (k : κ) : Promises κ ν :=
  let (q, s) := s.allSettled ps
  s.await q (.resume k)

/-- The element function that `Promise.allSettled` has registered with `p` works once: the promise `q`
is settled by the last one. -/
def element (s : Promises κ ν) (p q : ℕ) : Promises κ ν :=
  if p ∈ s.remaining q then
    let s := { s with remaining := update s.remaining q ((s.remaining q).erase p) }
    if (s.remaining q).isEmpty then s.settle q .results else s
  else s

/-- The first job of the queue.  The rest of an async function is left to the caller. -/
def run (s : Promises κ ν) : Promises κ ν × Option (ℕ × κ) :=
  match s.jobs with
  | [] => (s, none)
  | (p, .resume k) :: jobs => ({ s with jobs }, some (p, k))
  | (p, .element q) :: jobs => ({ s with jobs }.element p q, none)

/-! ## What waits for a promise -/

/-- What still waits for a promise, in the order in which it runs. -/
def waiting (s : Promises κ ν) (p : ℕ) : List (Reaction κ) :=
  (s.jobs.filter (·.1 = p)).map (·.2) ++ s.reactions p

/-- Reactions of pending promises only, jobs of settled promises only, nothing for a promise that does
not exist yet; a promise of `Promise.allSettled` is settled when nothing remains; and what is not
first in line is an element function. -/
structure Wf (s : Promises κ ν) : Prop where
  pending : ∀ p, s.outcome p ≠ none → s.reactions p = []
  ready : ∀ p r, (p, r) ∈ s.jobs → s.outcome p ≠ none
  fresh : ∀ p, s.next ≤ p → s.outcome p = none ∧ s.reactions p = [] ∧ s.remaining p = []
  results : ∀ q, s.outcome q ≠ none → s.remaining q = []
  tail : ∀ p, ∀ r ∈ (s.waiting p).tail, ∃ q, r = .element q

/-- The async function that is first in line. -/
def owner (s : Promises κ ν) (p : ℕ) : Option κ :=
  match s.waiting p with
  | .resume k :: _ => some k
  | _ => none

lemma wf_empty : Wf ({} : Promises κ ν) where
  pending := fun _ _ => rfl
  ready := by simp
  fresh := fun _ _ => ⟨rfl, rfl, rfl⟩
  results := fun _ _ => rfl
  tail := by simp [waiting]

lemma Wf.filter_eq_nil (wf : s.Wf) (hp : s.outcome p = none) : s.jobs.filter (·.1 = p) = [] := by
  rw [List.filter_eq_nil_iff]
  rintro ⟨p', r⟩ hmem hp'
  obtain rfl : p' = p := by simpa using hp'
  exact wf.ready _ _ hmem hp

lemma Wf.waiting_fresh (wf : s.Wf) (hp : s.next ≤ p) : s.waiting p = [] := by
  obtain ⟨ho, hr, -⟩ := wf.fresh p hp
  rw [waiting, hr, wf.filter_eq_nil ho, List.map_nil, List.append_nil]

lemma waiting_await_of_ne (h : q ≠ p) : (s.await p r).waiting q = s.waiting q := by
  unfold await waiting
  split
  · simp [h.symm]
  · simp [h]

/-- **The order of reactions.**  What is registered comes last. -/
lemma Wf.waiting_await (wf : s.Wf) : (s.await p r).waiting p = s.waiting p ++ [r] := by
  unfold await waiting
  split
  case isTrue h =>
    rw [wf.pending p (Option.isSome_iff_ne_none.mp h)]
    simp
  case isFalse h => simp

/-- Settling a promise only moves what waits for it. -/
lemma Wf.waiting_settle (wf : s.Wf) : (s.settle p o).waiting q = s.waiting q := by
  unfold settle
  split
  case isTrue h => rfl
  case isFalse h =>
    have hp : s.outcome p = none := by simpa using h
    unfold waiting
    by_cases hq : q = p
    · rw [hq, List.filter_append, wf.filter_eq_nil hp]
      simp [List.filter_map, Function.comp_def]
    · simp [List.filter_map, Function.comp_def, hq, Ne.symm hq]

@[simp] lemma outcome_await : (s.await p r).outcome = s.outcome := by unfold await; split <;> rfl
@[simp] lemma remaining_await : (s.await p r).remaining = s.remaining := by
  unfold await; split <;> rfl
@[simp] lemma next_await : (s.await p r).next = s.next := by unfold await; split <;> rfl
@[simp] lemma remaining_settle : (s.settle p o).remaining = s.remaining := by
  unfold settle; split <;> rfl
@[simp] lemma next_settle : (s.settle p o).next = s.next := by unfold settle; split <;> rfl

/-- A settled promise keeps its outcome. -/
lemma outcome_settle_of_ne_none (h : s.outcome q ≠ none) :
    (s.settle p o).outcome q = s.outcome q := by
  unfold settle
  split
  case isTrue => rfl
  case isFalse hp =>
    have hne : q ≠ p := by rintro rfl; simp at hp; exact h hp
    simp [hne]

lemma outcome_settle_ne_none : (s.settle p o).outcome p ≠ none := by
  unfold settle
  split
  case isTrue hp => exact Option.isSome_iff_ne_none.mp hp
  case isFalse => simp

lemma outcome_settle_of_ne (h : q ≠ p) : (s.settle p o).outcome q = s.outcome q := by
  unfold settle
  split
  · rfl
  · simp [h]

/-! ## The operations keep the promises well formed -/

lemma Wf.create (wf : s.Wf) : s.create.2.Wf where
  pending := wf.pending
  ready := wf.ready
  fresh := fun p hp => wf.fresh p (Nat.le_of_succ_le hp)
  results := wf.results
  tail := wf.tail

/-- A continuation may be registered where nothing waits, an element function everywhere. -/
lemma Wf.await (wf : s.Wf) (hp : p < s.next)
    (hr : s.waiting p = [] ∨ ∃ q, r = .element q) : (s.await p r).Wf where
  pending := by
    intro p' hp'
    rw [outcome_await] at hp'
    unfold Promises.await
    split
    case isTrue => exact wf.pending p' hp'
    case isFalse h =>
      have hne : p' ≠ p := by rintro rfl; simp at h; exact hp' h
      simpa [hne] using wf.pending p' hp'
  ready := by
    intro p' r' hmem
    rw [outcome_await]
    unfold Promises.await at hmem
    split at hmem
    case isTrue h =>
      rcases List.mem_append.mp hmem with hmem | hmem
      · exact wf.ready p' r' hmem
      · obtain ⟨rfl, rfl⟩ : p' = p ∧ r' = r := by simpa using hmem
        exact Option.isSome_iff_ne_none.mp h
    case isFalse => exact wf.ready p' r' hmem
  fresh := by
    intro p' hp'
    rw [next_await] at hp'
    obtain ⟨ho, hre, hrem⟩ := wf.fresh p' hp'
    refine ⟨by rw [outcome_await, ho], ?_, by rw [remaining_await, hrem]⟩
    have hne : p' ≠ p := by omega
    unfold Promises.await
    split
    · exact hre
    · simpa [hne] using hre
  results := by simpa using wf.results
  tail := by
    intro p' r' hr'
    by_cases hne : p' = p
    · subst hne
      rw [wf.waiting_await] at hr'
      rcases hr with hr | ⟨q, rfl⟩
      · simp [hr] at hr'
      · cases hw : s.waiting p' with
        | nil => simp [hw] at hr'
        | cons first rest =>
          have hrest := wf.tail p'
          rw [hw] at hr' hrest
          rcases List.mem_append.mp hr' with hmem | hmem
          · exact hrest r' hmem
          · exact ⟨q, List.mem_singleton.mp hmem⟩
    · rw [waiting_await_of_ne hne] at hr'
      exact wf.tail p' r' hr'

lemma Wf.settle (wf : s.Wf) (hp : p < s.next) (hrem : s.remaining p = []) :
    (s.settle p o).Wf where
  pending := by
    intro p' hp'
    by_cases hne : p' = p
    · subst hne
      unfold Promises.settle
      split
      case isTrue h => exact wf.pending _ (Option.isSome_iff_ne_none.mp h)
      case isFalse => simp
    · rw [outcome_settle_of_ne hne] at hp'
      unfold Promises.settle
      split
      · exact wf.pending _ hp'
      · simpa [hne] using wf.pending _ hp'
  ready := by
    intro p' r' hmem
    by_cases hne : p' = p
    · rw [hne]
      exact outcome_settle_ne_none
    · rw [outcome_settle_of_ne hne]
      unfold Promises.settle at hmem
      split at hmem
      · exact wf.ready _ _ hmem
      · refine wf.ready _ r' ?_
        simpa [hne, Ne.symm hne] using hmem
  fresh := by
    intro p' hp'
    rw [next_settle] at hp'
    obtain ⟨ho, hre, hr⟩ := wf.fresh p' hp'
    have hne : p' ≠ p := by omega
    refine ⟨by rw [outcome_settle_of_ne hne, ho], ?_, by rw [remaining_settle, hr]⟩
    unfold Promises.settle
    split
    · exact hre
    · simpa [hne] using hre
  results := by
    intro q hq
    rw [remaining_settle]
    by_cases hne : q = p
    · rw [hne, hrem]
    · rw [outcome_settle_of_ne hne] at hq
      exact wf.results q hq
  tail := by
    intro p' r' hr'
    rw [wf.waiting_settle] at hr'
    exact wf.tail p' r' hr'

/-! ## Owners -/

/-- An async function that waits for a promise is first in line. -/
lemma Wf.resume_mem_waiting (wf : s.Wf) : .resume k ∈ s.waiting p ↔ s.owner p = some k := by
  unfold owner
  constructor
  · intro hmem
    have htail := wf.tail p
    cases hw : s.waiting p with
    | nil => simp [hw] at hmem
    | cons first rest =>
      rw [hw] at hmem htail
      rcases List.mem_cons.mp hmem with hfirst | hrest
      · rw [← hfirst]
      · obtain ⟨q, hq⟩ := htail _ hrest
        cases hq
  · intro howner
    split at howner
    case h_1 k' rest hw =>
      rw [hw, Option.some.inj howner]
      exact List.mem_cons_self
    case h_2 => cases howner

lemma owner_congr (h : s.waiting p = s'.waiting p) : s.owner p = s'.owner p := by
  unfold owner
  rw [h]

lemma Wf.lt_next_of_owner (wf : s.Wf) (h : s.owner p = some k) : p < s.next := by
  by_contra hp
  have hw := wf.waiting_fresh (p := p) (by omega)
  simp [owner, hw] at h

lemma Wf.owner_settle (wf : s.Wf) : (s.settle p o).owner q = s.owner q :=
  owner_congr wf.waiting_settle

lemma owner_await_of_ne (h : q ≠ p) : (s.await p r).owner q = s.owner q :=
  owner_congr (waiting_await_of_ne h)

lemma Wf.owner_await_resume (wf : s.Wf) (h : s.waiting p = []) :
    (s.await p (.resume k)).owner p = some k := by
  rw [owner, wf.waiting_await, h]
  rfl

/-- An element function never comes first where an async function waits. -/
lemma Wf.owner_await_element (wf : s.Wf) : (s.await p (.element q)).owner p = s.owner p := by
  unfold owner
  rw [wf.waiting_await]
  cases hw : s.waiting p with
  | nil => rfl
  | cons first rest => cases first <;> rfl

/-! ### A new promise that is awaited at once -/

lemma call_fst : (s.call k).1 = s.next := rfl

lemma next_call : (s.call k).2.next = s.next + 1 := by simp [call, create]

lemma outcome_call : (s.call k).2.outcome = s.outcome := by simp [call, create]

lemma remaining_call : (s.call k).2.remaining = s.remaining := by simp [call, create]

lemma Wf.call (wf : s.Wf) : (s.call k).2.Wf := by
  refine wf.create.await (Nat.lt_succ_self _) (Or.inl ?_)
  exact wf.waiting_fresh le_rfl

lemma Wf.owner_call_self (wf : s.Wf) : (s.call k).2.owner s.next = some k :=
  wf.create.owner_await_resume (wf.waiting_fresh le_rfl)

lemma owner_call_of_ne (h : q ≠ s.next) : (s.call k).2.owner q = s.owner q :=
  owner_await_of_ne h

/-! ### Waiting for several promises -/

/-- The promises with the element functions of `q` registered. -/
lemma Wf.foldl_await (wf : s.Wf) (hps : ∀ p ∈ ps, p < s.next) :
    let s' := ps.foldl (fun s p => s.await p (.element q)) s
    s'.Wf ∧ s'.next = s.next ∧ s'.outcome = s.outcome ∧ s'.remaining = s.remaining ∧
      (∀ p, p ∉ ps → s'.waiting p = s.waiting p) ∧ ∀ p, s'.owner p = s.owner p := by
  induction ps generalizing s with
  | nil => exact ⟨wf, rfl, rfl, rfl, fun _ _ => rfl, fun _ => rfl⟩
  | cons p₀ ps ih =>
    have hwf : (s.await p₀ (.element q)).Wf :=
      wf.await (hps p₀ List.mem_cons_self) (Or.inr ⟨q, rfl⟩)
    obtain ⟨hwf', hnext, ho, hrem, hwaiting, howner⟩ := ih hwf fun p hp => by
      rw [next_await]
      exact hps p (List.mem_cons_of_mem _ hp)
    refine ⟨hwf', hnext.trans next_await, ho.trans outcome_await, hrem.trans remaining_await, ?_, ?_⟩
    · intro p hp
      rw [List.mem_cons, not_or] at hp
      exact (hwaiting p hp.2).trans (waiting_await_of_ne hp.1)
    · intro p
      refine (howner p).trans ?_
      by_cases hp : p = p₀
      · rw [hp]
        exact wf.owner_await_element
      · exact owner_await_of_ne hp

/-- What waiting for several promises does: a new promise, owned by the continuation, behind which
they remain. -/
structure WaitsFor (s : Promises κ ν) (ps : List ℕ) (k : κ) (s' : Promises κ ν) : Prop where
  wf : s'.Wf
  next : s'.next = s.next + 1
  outcome : ∀ p, p ≠ s.next → s'.outcome p = s.outcome p
  remaining_self : s'.remaining s.next = ps
  remaining : ∀ p, p ≠ s.next → s'.remaining p = s.remaining p
  owner_self : s'.owner s.next = some k
  owner : ∀ p, p ≠ s.next → s'.owner p = s.owner p

lemma Wf.awaitAllSettled (wf : s.Wf) (hps : ∀ p ∈ ps, p < s.next) :
    WaitsFor s ps k (s.awaitAllSettled ps k) := by
  let s₁ : Promises κ ν :=
    { s with next := s.next + 1, remaining := update s.remaining s.next ps }
  have hwf₁ : s₁.Wf :=
    { pending := wf.pending
      ready := wf.ready
      fresh := by
        intro p hp
        obtain ⟨ho, hr, hrem⟩ := wf.fresh p (Nat.le_of_succ_le hp)
        have hne : p ≠ s.next := by rintro rfl; exact Nat.lt_irrefl _ hp
        exact ⟨ho, hr, by simpa [s₁, hne] using hrem⟩
      results := by
        intro q hq
        have hne : q ≠ s.next := by
          rintro rfl
          exact hq (wf.fresh _ le_rfl).1
        simpa [s₁, hne] using wf.results q hq
      tail := wf.tail }
  have hps₁ : ∀ p ∈ ps, p < s₁.next := by
    intro p hp
    exact Nat.lt_succ_of_lt (hps p hp)
  obtain ⟨hwf₂, hnext₂, ho₂, hrem₂, hwaiting₂, howner₂⟩ := hwf₁.foldl_await (q := s.next) hps₁
  set s₂ := ps.foldl (fun t p => t.await p (.element s.next)) s₁
  have hself : s.next ∉ ps := fun h => Nat.lt_irrefl _ (hps _ h)
  -- nothing waits for the new promise before the caller does
  have hnil : s₂.waiting s.next = [] := (hwaiting₂ _ hself).trans (wf.waiting_fresh le_rfl)
  have hremaining : s₂.remaining = update s.remaining s.next ps := hrem₂
  set s₃ := if ps.isEmpty then s₂.settle s.next .results else s₂ with hs₃
  have hs : s.awaitAllSettled ps k = s₃.await s.next (.resume k) := rfl
  have hwf₃ : s₃.Wf := by
    rw [hs₃]
    split
    case isTrue hempty =>
      refine hwf₂.settle (hnext₂ ▸ Nat.lt_succ_self _) ?_
      rw [hremaining, update_self]
      exact List.isEmpty_iff.mp hempty
    case isFalse => exact hwf₂
  have hw₃ (p : ℕ) : s₃.waiting p = s₂.waiting p := by
    rw [hs₃]
    split
    · exact hwf₂.waiting_settle
    · rfl
  have hnext₃ : s₃.next = s.next + 1 := by
    rw [hs₃]
    split
    · rw [next_settle, hnext₂]
    · exact hnext₂
  have ho₃ (p : ℕ) (hp : p ≠ s.next) : s₃.outcome p = s.outcome p := by
    rw [hs₃]
    split
    · rw [outcome_settle_of_ne hp, ho₂]
    · rw [ho₂]
  have hrem₃ : s₃.remaining = update s.remaining s.next ps := by
    rw [hs₃]
    split
    · rw [remaining_settle, hremaining]
    · exact hremaining
  rw [hs]
  exact
    { wf := hwf₃.await (by omega) (Or.inl ((hw₃ _).trans hnil))
      next := next_await.trans hnext₃
      outcome := fun p hp => by rw [outcome_await, ho₃ p hp]
      remaining_self := by rw [remaining_await, hrem₃, update_self]
      remaining := fun p hp => by rw [remaining_await, hrem₃, update_of_ne hp]
      owner_self := hwf₃.owner_await_resume ((hw₃ _).trans hnil)
      owner := fun p hp => by
        rw [owner_await_of_ne hp, owner_congr (hw₃ p), howner₂ p]
        rfl }

/-! ### Steps that resume nothing -/

/-- No async function has been called or resumed in between, and no promise that one waits for has been
crossed out. -/
structure Quiet (s s' : Promises κ ν) : Prop where
  wf : s'.Wf
  next : s'.next = s.next
  outcome : ∀ p, s.outcome p ≠ none → s'.outcome p = s.outcome p
  owner : ∀ p, s'.owner p = s.owner p
  remaining : ∀ p q, s.owner p ≠ none → p ∈ s.remaining q → p ∈ s'.remaining q
  remaining_nil : ∀ q, s.remaining q = [] → s'.remaining q = []

lemma Wf.quiet (wf : s.Wf) : Quiet s s where
  wf := wf
  next := rfl
  outcome := fun _ _ => rfl
  owner := fun _ => rfl
  remaining := fun _ _ _ h => h
  remaining_nil := fun _ h => h

lemma Quiet.trans {s'' : Promises κ ν} (h : Quiet s s') (h' : Quiet s' s'') : Quiet s s'' where
  wf := h'.wf
  next := h'.next.trans h.next
  outcome := fun p hp => (h'.outcome p (by rwa [h.outcome p hp])).trans (h.outcome p hp)
  owner := fun p => (h'.owner p).trans (h.owner p)
  remaining := fun p q hp hmem => h'.remaining p q (by rwa [h.owner p]) (h.remaining p q hp hmem)
  remaining_nil := fun q hq => h'.remaining_nil q (h.remaining_nil q hq)

lemma Wf.quiet_settle (wf : s.Wf) (hp : p < s.next) (hrem : s.remaining p = []) :
    Quiet s (s.settle p o) where
  wf := wf.settle hp hrem
  next := next_settle
  outcome := fun _ h => outcome_settle_of_ne_none h
  owner := fun _ => wf.owner_settle
  remaining := fun _ _ _ h => by rwa [remaining_settle]
  remaining_nil := fun _ h => by rwa [remaining_settle]

lemma Wf.quiet_foldl_settle (wf : s.Wf) (hps : ∀ p ∈ ps, p < s.next ∧ s.remaining p = []) :
    Quiet s (ps.foldl (fun s p => s.settle p o) s) := by
  induction ps generalizing s with
  | nil => exact wf.quiet
  | cons p ps ih =>
    obtain ⟨hp, hrem⟩ := hps p List.mem_cons_self
    have hfirst : Quiet s (s.settle p o) := wf.quiet_settle hp hrem
    refine hfirst.trans (ih hfirst.wf fun p' hp' => ?_)
    obtain ⟨hlt, hnil⟩ := hps p' (List.mem_cons_of_mem _ hp')
    exact ⟨by rwa [next_settle], by rwa [remaining_settle]⟩

/-! ### Running a job -/

/-- What a job does: no async function is resumed, or the owner of a settled promise. -/
inductive RunSpec (s : Promises κ ν) : Promises κ ν × Option (ℕ × κ) → Prop
  | quiet {s' : Promises κ ν} (quiet : Quiet s s') : RunSpec s (s', none)
  | resume {s' : Promises κ ν} {p : ℕ} {k : κ} (wf : s'.Wf) (next : s'.next = s.next)
      (outcome : s'.outcome = s.outcome) (remaining : s'.remaining = s.remaining)
      (owner : s.owner p = some k) (settled : s.outcome p ≠ none) (gone : s'.owner p = none)
      (others : ∀ q, q ≠ p → s'.owner q = s.owner q) : RunSpec s (s', some (p, k))

/-- The queue without its first job. -/
lemma Wf.pop (wf : s.Wf) {jobs : List (ℕ × Reaction κ)} (hjobs : s.jobs = (p, r) :: jobs) :
    ({ s with jobs } : Promises κ ν).Wf ∧
      s.waiting p = r :: ({ s with jobs } : Promises κ ν).waiting p ∧
      ({ s with jobs } : Promises κ ν).owner p = none ∧
      ∀ q, q ≠ p → ({ s with jobs } : Promises κ ν).waiting q = s.waiting q := by
  have hself : s.waiting p = r :: ({ s with jobs } : Promises κ ν).waiting p := by
    simp [waiting, hjobs]
  have hothers : ∀ q, q ≠ p → ({ s with jobs } : Promises κ ν).waiting q = s.waiting q := by
    intro q hq
    simp [waiting, hjobs, hq.symm]
  have htail := wf.tail p
  rw [hself, List.tail_cons] at htail
  refine ⟨?_, hself, ?_, hothers⟩
  · exact
    { pending := wf.pending
      ready := fun p' r' h => wf.ready p' r' (by rw [hjobs]; exact List.mem_cons_of_mem _ h)
      fresh := wf.fresh
      results := wf.results
      tail := by
        intro q r' hr
        by_cases hq : q = p
        · rw [hq] at hr
          exact htail r' (List.mem_of_mem_tail hr)
        · rw [hothers q hq] at hr
          exact wf.tail q r' hr }
  · unfold owner
    split
    case h_1 k' rest hw =>
      obtain ⟨q, hq⟩ := htail (.resume k') (by rw [hw]; exact List.mem_cons_self)
      cases hq
    case h_2 => rfl

lemma Wf.element (wf : s.Wf) : (s.element p q).Wf ∧ (s.element p q).next = s.next ∧
    (∀ p', s.outcome p' ≠ none → (s.element p q).outcome p' = s.outcome p') ∧
    (∀ p', (s.element p q).owner p' = s.owner p') ∧
    (s.element p q).remaining = update s.remaining q ((s.remaining q).erase p) := by
  by_cases hmem : p ∈ s.remaining q
  case pos =>
    have hq : q < s.next := by
      by_contra hq
      simp [(wf.fresh q (by omega)).2.2] at hmem
    let s₁ : Promises κ ν :=
      { s with remaining := update s.remaining q ((s.remaining q).erase p) }
    have hwf₁ : s₁.Wf :=
      { pending := wf.pending
        ready := wf.ready
        fresh := by
          intro p' hp'
          have hne : p' ≠ q := by rintro rfl; exact Nat.not_lt.mpr hp' hq
          simpa [s₁, hne] using wf.fresh p' hp'
        results := by
          intro q' hq'
          by_cases hne : q' = q
          · have hnil := wf.results q' hq'
            rw [hne] at hnil
            simp [s₁, hne, hnil]
          · simpa [s₁, hne] using wf.results q' hq'
        tail := wf.tail }
    have hs : s.element p q = if (s₁.remaining q).isEmpty then s₁.settle q .results else s₁ :=
      if_pos hmem
    rw [hs]
    split
    case isTrue hempty =>
      refine ⟨hwf₁.settle hq (List.isEmpty_iff.mp hempty), next_settle, ?_, ?_, remaining_settle⟩
      · intro p' hp'
        exact outcome_settle_of_ne_none hp'
      · intro p'
        exact hwf₁.owner_settle
    case isFalse => exact ⟨hwf₁, rfl, fun _ _ => rfl, fun _ => rfl, rfl⟩
  case neg =>
    have hs : s.element p q = s := if_neg hmem
    rw [hs]
    refine ⟨wf, rfl, fun _ _ => rfl, fun _ => rfl, ?_⟩
    rw [List.erase_of_not_mem hmem, update_eq_self]

lemma Wf.run (wf : s.Wf) : RunSpec s s.run := by
  unfold Promises.run
  split
  case h_1 => exact .quiet wf.quiet
  case h_2 p k jobs hjobs =>
    obtain ⟨hwf, hself, hgone, hothers⟩ := wf.pop hjobs
    have howner : s.owner p = some k := by rw [owner, hself]
    have hsettled : s.outcome p ≠ none := wf.ready p (.resume k) (by simp [hjobs])
    exact .resume hwf rfl rfl rfl howner hsettled hgone fun q hq => owner_congr (hothers q hq)
  case h_3 p q jobs hjobs =>
    obtain ⟨hwf, hself, hgone, hothers⟩ := wf.pop hjobs
    obtain ⟨hwf', hnext, ho, howner, hrem⟩ := hwf.element (p := p) (q := q)
    have hnone : s.owner p = none := by rw [owner, hself]
    exact .quiet
      { wf := hwf'
        next := hnext
        outcome := ho
        owner := by
          intro q'
          refine (howner q').trans ?_
          by_cases hq' : q' = p
          · rw [hq', hnone, hgone]
          · exact owner_congr (hothers q' hq')
        remaining := by
          intro p' q' hp' hmem
          have hne : p' ≠ p := by rintro rfl; exact hp' hnone
          rw [hrem]
          by_cases hq' : q' = q
          · rw [hq', update_self]
            rw [hq'] at hmem
            exact (List.mem_erase_of_ne hne).mpr hmem
          · rwa [update_of_ne hq']
        remaining_nil := by
          intro q' hq'
          rw [hrem]
          by_cases hne : q' = q
          · rw [hne] at hq'
            rw [hne, update_self]
            change (s.remaining q).erase p = []
            rw [hq', List.erase_nil]
          · rwa [update_of_ne hne] }

end Promises
