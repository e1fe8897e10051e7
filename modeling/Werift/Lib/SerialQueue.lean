import Mathlib

/-!
# Operations that run one after the other

An operation is enqueued behind the others, and runs when they have settled.  There is at most one operation
of a key in flight, from the time when it is enqueued until some time after it has settled: meanwhile a caller
shares it.  `Ordered` says what holds in every state.
-/

/-- An operation waits for the ones in front of it, runs, and settles. -/
inductive SerialQueue.Status
  | waiting
  | running
  | settled
deriving DecidableEq

/-- The operations, each with its key, in the order in which they have been enqueued.  `inFlight key` is the
operation of this key that callers share. -/
structure SerialQueue (K : Type*) where
  operations : List (K × SerialQueue.Status) := []
  inFlight : K → Option ℕ := fun _ => none

namespace SerialQueue

open Function

variable {K : Type*} [DecidableEq K] {s s' : SerialQueue K} {key : K} {i : ℕ}

/-- Enqueue an operation. -/
def enqueue (s : SerialQueue K) (key : K) : SerialQueue K :=
  { operations := s.operations ++ [(key, .waiting)]
    inFlight := update s.inFlight key (some s.operations.length) }

/-- The key of an operation with this status. -/
def keyOf (s : SerialQueue K) (i : ℕ) (status : Status) : Option K :=
  (s.operations[i]?).bind fun operation => if operation.2 = status then some operation.1 else none

/-- Change the status of an operation. -/
def setStatus (s : SerialQueue K) (i : ℕ) (status : Status) : SerialQueue K :=
  { s with operations := s.operations.modify i fun operation => (operation.1, status) }

/-- Run a waiting operation, if all operations in front of it have settled. -/
def start (s : SerialQueue K) (i : ℕ) : Option (K × SerialQueue K) :=
  if ∀ operation ∈ s.operations.take i, operation.2 = .settled then
    (s.keyOf i .waiting).map fun key => (key, s.setStatus i .running)
  else none

/-- Settle a running operation. -/
def settle (s : SerialQueue K) (i : ℕ) : Option (K × SerialQueue K) :=
  (s.keyOf i .running).map fun key => (key, s.setStatus i .settled)

/-- Stop sharing an operation that has settled. -/
def cleanUp (s : SerialQueue K) (i : ℕ) : Option (SerialQueue K) :=
  (s.keyOf i .settled).map fun key =>
    if s.inFlight key = some i then { s with inFlight := update s.inFlight key none } else s

/-- **What holds in every state**: an operation that has not settled is the one of its key in flight, what is
in flight is an operation, and in front of a running operation all have settled. -/
structure Ordered (s : SerialQueue K) : Prop where
  inFlight : ∀ (i : ℕ) (key : K) (status : Status), s.operations[i]? = some (key, status) →
    status ≠ .settled → s.inFlight key = some i
  operation : ∀ (i : ℕ) (key : K), s.inFlight key = some i →
    ∃ status : Status, s.operations[i]? = some (key, status)
  settled : ∀ (i j : ℕ) (key key' : K) (status : Status), s.operations[i]? = some (key, .running) → j < i →
    s.operations[j]? = some (key', status) → status = .settled

omit [DecidableEq K] in
lemma keyOf_eq_some {status : Status} : s.keyOf i status = some key ↔ s.operations[i]? = some (key, status) := by
  rw [keyOf, Option.bind_eq_some_iff]
  constructor
  · rintro ⟨⟨key', status'⟩, hget, hkey⟩
    split_ifs at hkey with hstatus
    rw [hget, ← Option.some.inj hkey, ← hstatus]
  · intro hget
    exact ⟨_, hget, if_pos rfl⟩

omit [DecidableEq K] in
lemma getElem?_setStatus (j : ℕ) (status : Status) : (s.setStatus i status).operations[j]? =
    (s.operations[j]?).map fun operation => if i = j then (operation.1, status) else operation := by
  rw [setStatus, List.getElem?_modify]
  rfl

omit [DecidableEq K] in
/-- An operation after a change of status. -/
lemma getElem?_setStatus_eq_some {j : ℕ} {status status' : Status} :
    (s.setStatus i status).operations[j]? = some (key, status') ↔
      if i = j then status' = status ∧ ∃ old, s.operations[j]? = some (key, old)
      else s.operations[j]? = some (key, status') := by
  rw [getElem?_setStatus, Option.map_eq_some_iff]
  split_ifs with hij
  · constructor
    · rintro ⟨⟨key', old⟩, hget, heq⟩
      cases heq
      exact ⟨rfl, old, hget⟩
    · rintro ⟨rfl, old, hget⟩
      exact ⟨_, hget, rfl⟩
  · exact ⟨fun ⟨_, hget, heq⟩ => heq ▸ hget, fun hget => ⟨_, hget, rfl⟩⟩

omit [DecidableEq K] in
lemma ordered_empty : Ordered ({} : SerialQueue K) := by
  refine ⟨?_, ?_, ?_⟩
  · rintro i key status ⟨⟩
  · rintro i key ⟨⟩
  · rintro i j key key' status ⟨⟩

/-- **Enqueueing** an operation of a key that is not in flight. -/
lemma Ordered.enqueue (h : s.Ordered) (hkey : s.inFlight key = none) : (s.enqueue key).Ordered := by
  have hget : ∀ i key' status, (s.enqueue key).operations[i]? = some (key', status) →
      s.operations[i]? = some (key', status) ∨ i = s.operations.length ∧ key' = key ∧ status = .waiting := by
    intro i key' status hi
    rw [SerialQueue.enqueue, List.getElem?_append] at hi
    split_ifs at hi with hlt
    · exact .inl hi
    · rw [List.getElem?_singleton] at hi
      split_ifs at hi with hzero
      cases hi
      exact .inr ⟨by omega, rfl, rfl⟩
  refine ⟨?_, ?_, ?_⟩
  · intro i key' status hi hstatus
    rw [SerialQueue.enqueue]
    rcases hget i key' status hi with hold | ⟨rfl, rfl, rfl⟩
    · have hflight := h.inFlight i key' status hold hstatus
      have hother : key' ≠ key := by
        rintro rfl
        rw [hkey] at hflight
        cases hflight
      exact (update_of_ne hother _ _).trans hflight
    · exact update_self ..
  · intro i key' hflight
    rw [SerialQueue.enqueue] at hflight ⊢
    dsimp only at hflight ⊢
    by_cases hsame : key' = key
    · subst hsame
      rw [update_self] at hflight
      obtain rfl := Option.some.inj hflight
      exact ⟨.waiting, List.getElem?_concat_length ..⟩
    · rw [update_of_ne hsame] at hflight
      obtain ⟨status, hstatus⟩ := h.operation i key' hflight
      obtain ⟨hlt, -⟩ := List.getElem?_eq_some_iff.mp hstatus
      exact ⟨status, (List.getElem?_append_left hlt).trans hstatus⟩
  · intro i j key' key'' status hi hji hj
    rcases hget i key' .running hi with hold | ⟨-, -, hwaiting⟩
    · rcases hget j key'' status hj with hold' | ⟨rfl, -, -⟩
      · exact h.settled i j key' key'' status hold hji hold'
      · obtain ⟨hlt, -⟩ := List.getElem?_eq_some_iff.mp hold
        omega
    · cases hwaiting

omit [DecidableEq K] in
/-- **Running** an operation. -/
lemma Ordered.start (h : s.Ordered) (hstart : s.start i = some (key, s')) :
    s'.Ordered ∧ s.operations[i]? = some (key, .waiting) ∧ s' = s.setStatus i .running := by
  rw [SerialQueue.start] at hstart
  split_ifs at hstart with hbefore
  obtain ⟨key', hkey, heq⟩ := Option.map_eq_some_iff.mp hstart
  cases heq
  have hwaiting := keyOf_eq_some.mp hkey
  refine ⟨⟨?_, ?_, ?_⟩, hwaiting, rfl⟩
  · intro j key' status hj hstatus
    rw [getElem?_setStatus_eq_some] at hj
    split_ifs at hj with hij
    · obtain ⟨-, old, hold⟩ := hj
      subst hij
      rw [hwaiting] at hold
      cases hold
      exact h.inFlight i key .waiting hwaiting (by decide)
    · exact h.inFlight j key' status hj hstatus
  · intro j key' hflight
    obtain ⟨status, hstatus⟩ := h.operation j key' hflight
    by_cases hij : i = j
    · exact ⟨.running, getElem?_setStatus_eq_some.mpr (by rw [if_pos hij]; exact ⟨rfl, status, hstatus⟩)⟩
    · exact ⟨status, getElem?_setStatus_eq_some.mpr (by rw [if_neg hij]; exact hstatus)⟩
  · intro j l key' key'' status hj hlj hl
    rw [getElem?_setStatus_eq_some] at hj hl
    split_ifs at hj with hij
    · subst hij
      rw [if_neg (by omega)] at hl
      refine hbefore (key'', status) (List.mem_of_getElem? (i := l) ?_)
      rw [List.getElem?_take_of_lt hlj]
      exact hl
    · split_ifs at hl with hil
      · -- The operation that is run waits, so that nothing behind it runs.
        subst hil
        exact absurd (h.settled j i key' key .waiting hj hlj hwaiting) (by decide)
      · exact h.settled j l key' key'' status hj hlj hl

omit [DecidableEq K] in
/-- **Settling** an operation. -/
lemma Ordered.settle (h : s.Ordered) (hsettle : s.settle i = some (key, s')) :
    s'.Ordered ∧ s.operations[i]? = some (key, .running) ∧ s' = s.setStatus i .settled := by
  obtain ⟨key', hkey, heq⟩ := Option.map_eq_some_iff.mp hsettle
  cases heq
  have hrunning := keyOf_eq_some.mp hkey
  refine ⟨⟨?_, ?_, ?_⟩, hrunning, rfl⟩
  · intro j key' status hj hstatus
    rw [getElem?_setStatus_eq_some] at hj
    split_ifs at hj with hij
    · exact absurd hj.1 hstatus
    · exact h.inFlight j key' status hj hstatus
  · intro j key' hflight
    obtain ⟨status, hstatus⟩ := h.operation j key' hflight
    by_cases hij : i = j
    · exact ⟨.settled, getElem?_setStatus_eq_some.mpr (by rw [if_pos hij]; exact ⟨rfl, status, hstatus⟩)⟩
    · exact ⟨status, getElem?_setStatus_eq_some.mpr (by rw [if_neg hij]; exact hstatus)⟩
  · intro j l key' key'' status hj hlj hl
    rw [getElem?_setStatus_eq_some] at hj hl
    split_ifs at hj with hij
    · cases hj.1
    · split_ifs at hl with hil
      · exact hl.1
      · exact h.settled j l key' key'' status hj hlj hl

/-- **Cleaning up** an operation. -/
lemma Ordered.cleanUp (h : s.Ordered) (hclean : s.cleanUp i = some s') :
    s'.Ordered ∧ s'.operations = s.operations := by
  obtain ⟨key, hkey, rfl⟩ := Option.map_eq_some_iff.mp hclean
  have hsettled := keyOf_eq_some.mp hkey
  split_ifs with hflight
  · refine ⟨⟨?_, ?_, h.settled⟩, rfl⟩
    · intro j key' status hj hstatus
      have hother := h.inFlight j key' status hj hstatus
      have hne : key' ≠ key := by
        rintro rfl
        rw [hflight] at hother
        cases hother
        rw [hsettled] at hj
        cases hj
        exact hstatus rfl
      exact (update_of_ne hne _ _).trans hother
    · intro j key' hj
      dsimp only at hj
      by_cases hsame : key' = key
      · rw [hsame, update_self] at hj
        cases hj
      · rw [update_of_ne hsame] at hj
        exact h.operation j key' hj
  · exact ⟨h, rfl⟩

omit [DecidableEq K] in
/-- **At most one operation runs.** -/
lemma Ordered.running_unique (h : s.Ordered) {j : ℕ} {key' : K} (hi : s.operations[i]? = some (key, .running))
    (hj : s.operations[j]? = some (key', .running)) : i = j := by
  rcases lt_trichotomy i j with hlt | heq | hgt
  · exact absurd (h.settled j i key' key .running hj hlt hi) (by decide)
  · exact heq
  · exact absurd (h.settled i j key key' .running hi hgt hj) (by decide)

end SerialQueue
