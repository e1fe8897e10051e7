import Werift.Lib.Cursor

/-!
# A queue with a head index (`common/src/queue.ts`)

`FifoQueue` keeps its elements behind a head index in an array, and now and then drops what is in front of it.  Its
operations are those of a list, and a walk along it is one along a list that changes.
-/

namespace Werift.Common

/-- `FifoQueue`: `removed` is the number of elements that have been taken from the front.  A slot in front of the
head holds the default value for `undefined`. -/
structure FifoQueue (T : Type) where
  items : List T := []
  head : ℕ := 0
  removed : ℤ := 0
  head_le : head ≤ items.length := by simp

namespace FifoQueue

variable {T : Type} (q : FifoQueue T)

section Operations

variable [Inhabited T]

/-- The constructor. -/
def ofList (items : List T) : FifoQueue T := { items }

def length : ℕ := q.items.length - q.head

def push (items : List T) : FifoQueue T × ℕ :=
  let q : FifoQueue T :=
    { q with
      items := q.items ++ items
      head_le := q.head_le.trans (List.length_append ▸ Nat.le_add_right _ _) }
  (q, q.length)

def reset : FifoQueue T := { q with items := [], head := 0, head_le := le_rfl }

def compact : FifoQueue T :=
  if q.head = q.items.length then q.reset
  else if 1024 ≤ q.head ∧ q.items.length ≤ q.head * 2 then
    { q with items := q.items.drop q.head, head := 0, head_le := Nat.zero_le _ }
  else q

def shift : FifoQueue T × Option T :=
  if h : q.items.length ≤ q.head then (q, none)
  else
    (compact
      { items := q.items.set q.head default
        head := q.head + 1
        removed := q.removed + 1
        head_le := (Nat.lt_of_not_le h).trans_eq List.length_set.symm },
      some (q.items.getD q.head default))

def unshift (item : T) : FifoQueue T × ℕ :=
  let q : FifoQueue T :=
    if 0 < q.head then
      { items := q.items.set (q.head - 1) item
        head := q.head - 1
        removed := q.removed - 1
        head_le := (Nat.sub_le _ _).trans (q.head_le.trans_eq List.length_set.symm) }
    else { items := item :: q.items, head := 0, removed := q.removed - 1, head_le := Nat.zero_le _ }
  (q, q.length)

def peek : Option T := if q.head < q.items.length then some (q.items.getD q.head default) else none

def last : Option T := if 0 < q.length then some (q.items.getD (q.items.length - 1) default) else none

def atIndex (index : ℤ) : Option T :=
  let i := if index < 0 then q.length + index else index
  if i < 0 ∨ q.length ≤ i then none else some (q.items.getD (q.head + i.toNat) default)

/-- The values of `i` in a loop over the elements. -/
def indices : List ℕ := List.range' q.head (q.items.length - q.head)

def findIndex (predicate : T → ℕ → Bool) : ℤ :=
  match q.indices.find? fun i => predicate (q.items.getD i default) (i - q.head) with
  | some i => (i - q.head : ℕ)
  | none => -1

def filter (predicate : T → ℕ → Bool) : FifoQueue T :=
  q.indices.foldl (fun queue i =>
    let item := q.items.getD i default
    if predicate item (i - q.head) then (queue.push [item]).1 else queue) {}

/-- The calls of the callback. -/
def forEach : List (T × ℕ) := q.indices.map fun i => (q.items.getD i default, i - q.head)

def clear : FifoQueue T := reset { q with removed := q.removed + q.length }

def toArray : List T := q.items.drop q.head

end Operations

/-! ## What a queue holds -/

@[simp] lemma length_toArray : q.toArray.length = q.length := List.length_drop

lemma toArray_ofList (items : List T) : (ofList items).toArray = items := rfl

@[simp] lemma toArray_reset : q.reset.toArray = [] := rfl

@[simp] lemma toArray_clear : q.clear.toArray = [] := rfl

@[simp] lemma toArray_compact : q.compact.toArray = q.toArray := by
  rw [compact]
  split_ifs with hend hdrop
  · rw [toArray_reset, toArray, hend, List.drop_length]
  · rfl
  · rfl

@[simp] lemma removed_compact : q.compact.removed = q.removed := by
  rw [compact]
  split_ifs <;> rfl

lemma toArray_push (items : List T) : (q.push items).1.toArray = q.toArray ++ items :=
  List.drop_append_of_le_length q.head_le

lemma toArray_unshift (item : T) : (q.unshift item).1.toArray = item :: q.toArray := by
  rw [unshift]
  split_ifs with hpos
  · have hlt : q.head - 1 < (q.items.set (q.head - 1) item).length := by
      rw [List.length_set]
      have := q.head_le
      omega
    rw [toArray, List.drop_eq_getElem_cons hlt, List.getElem_set_self, Nat.sub_add_cancel hpos,
      List.drop_set_of_lt (Nat.sub_lt hpos Nat.one_pos), toArray]
  · have hzero : q.head = 0 := by omega
    simp [toArray, hzero]

variable [Inhabited T]

lemma toArray_cons (h : q.head < q.items.length) :
    q.toArray = q.items.getD q.head default :: q.items.drop (q.head + 1) := by
  rw [toArray, List.drop_eq_getElem_cons h, List.getD_eq_getElem _ _ h]

lemma shift_eq : q.shift.1.toArray = q.toArray.tail ∧ q.shift.2 = q.toArray.head? ∧
    q.shift.1.removed = if q.toArray = [] then q.removed else q.removed + 1 := by
  rw [shift]
  split_ifs with hle hnil hnil
  · rw [hnil]
    exact ⟨rfl, rfl, rfl⟩
  · exact absurd (List.drop_eq_nil_iff.mpr hle) hnil
  · exact absurd (List.drop_eq_nil_iff.mp hnil) hle
  · have hcons := q.toArray_cons (Nat.lt_of_not_le hle)
    refine ⟨?_, ?_, ?_⟩
    · rw [toArray_compact, hcons, List.tail_cons, toArray, List.drop_set_of_lt (Nat.lt_succ_self _)]
    · rw [hcons, List.head?_cons]
    · rw [removed_compact]

lemma peek_eq : q.peek = q.toArray.head? := by
  rw [peek]
  split_ifs with h
  · rw [q.toArray_cons h, List.head?_cons]
  · rw [toArray, List.drop_eq_nil_iff.mpr (Nat.le_of_not_lt h), List.head?_nil]

lemma getElem?_toArray {i : ℕ} (h : i < q.length) :
    q.toArray[i]? = some (q.items.getD (q.head + i) default) := by
  have hlt : q.head + i < q.items.length := by
    rw [length] at h
    omega
  rw [toArray, List.getElem?_drop, List.getElem?_eq_getElem hlt, List.getD_eq_getElem _ _ hlt]

lemma last_eq : q.last = q.toArray.getLast? := by
  rw [last, List.getLast?_eq_getElem?, length_toArray]
  split_ifs with h
  · have hlast : q.head + (q.length - 1) = q.items.length - 1 := by
      rw [length] at h ⊢
      omega
    rw [q.getElem?_toArray (Nat.sub_lt h Nat.one_pos), hlast]
  · rw [eq_comm, List.getElem?_eq_none_iff, length_toArray]
    omega

/-- `array.at(index)`. -/
def arrayAt (l : List T) (index : ℤ) : Option T :=
  if 0 ≤ index then l[index.toNat]? else if 0 ≤ l.length + index then l[(l.length + index).toNat]? else none

lemma atIndex_eq (index : ℤ) : q.atIndex index = arrayAt q.toArray index := by
  have hget : ∀ i : ℤ, 0 ≤ i → (if i < 0 ∨ q.length ≤ i then none else
      some (q.items.getD (q.head + i.toNat) default)) = q.toArray[i.toNat]? := by
    intro i hi
    split_ifs with h
    · rw [eq_comm, List.getElem?_eq_none_iff, length_toArray]
      omega
    · rw [q.getElem?_toArray (by omega)]
  rw [atIndex, arrayAt, length_toArray]
  by_cases hindex : 0 ≤ index
  · rw [if_neg (not_lt.mpr hindex), if_pos hindex]
    exact hget index hindex
  · rw [if_pos (lt_of_not_ge hindex), if_neg hindex]
    by_cases hback : 0 ≤ q.length + index
    · rw [if_pos hback]
      exact hget _ hback
    · rw [if_neg hback]
      exact if_pos (Or.inl (lt_of_not_ge hback))

/-- A loop over the elements comes to each of them with its index. -/
lemma map_indices : q.indices.map (fun i => (q.items.getD i default, i - q.head)) = q.toArray.zipIdx := by
  refine List.ext_getElem? fun i => ?_
  rw [indices, List.getElem?_map, List.getElem?_zipIdx]
  by_cases h : i < q.length
  · have hlt : i < q.items.length - q.head := h
    rw [List.getElem?_range' hlt, q.getElem?_toArray h]
    simp
  · have hlength : q.toArray.length ≤ i := by
      rw [length_toArray]
      omega
    rw [List.getElem?_eq_none_iff.mpr hlength, List.getElem?_eq_none_iff.mpr (by
      rw [List.length_range']
      rw [length] at h
      omega)]
    rfl

lemma forEach_eq : q.forEach = q.toArray.zipIdx := q.map_indices

lemma findIndex_eq (predicate : T → ℕ → Bool) : q.findIndex predicate =
    match q.toArray.zipIdx.find? fun entry => predicate entry.1 entry.2 with
    | some entry => (entry.2 : ℤ)
    | none => -1 := by
  rw [findIndex, ← map_indices, List.find?_map]
  have hsame : ((fun entry : T × ℕ => predicate entry.1 entry.2) ∘ fun i => (q.items.getD i default, i - q.head)) =
      fun i => predicate (q.items.getD i default) (i - q.head) := rfl
  rw [hsame]
  cases q.indices.find? fun i => predicate (q.items.getD i default) (i - q.head) with
  | none => rfl
  | some i => rfl

lemma filter_eq (predicate : T → ℕ → Bool) : (q.filter predicate).toArray =
    (q.toArray.zipIdx.filter fun entry => predicate entry.1 entry.2).map Prod.fst := by
  have hfold : ∀ (l : List ℕ) (queue : FifoQueue T),
      (l.foldl (fun queue i =>
        let item := q.items.getD i default
        if predicate item (i - q.head) then (queue.push [item]).1 else queue) queue).toArray =
      queue.toArray ++ ((l.map fun i => (q.items.getD i default, i - q.head)).filter
        fun entry => predicate entry.1 entry.2).map Prod.fst := by
    intro l
    induction l with
    | nil => exact fun queue => (List.append_nil _).symm
    | cons i l ih =>
      intro queue
      rw [List.foldl_cons, ih, List.map_cons, List.filter_cons]
      dsimp only
      split_ifs with h
      · rw [toArray_push, List.map_cons, List.append_assoc, List.singleton_append]
      · rfl
  rw [filter, hfold, map_indices]
  rfl

/-! ## Operations on a list -/

/-- The operations. -/
inductive Operation (T : Type)
  | push (items : List T)
  | shift
  | unshift (item : T)
  | peek
  | last
  | atIndex (index : ℤ)
  | findIndex (predicate : T → ℕ → Bool)
  | filter (predicate : T → ℕ → Bool)
  | forEach
  | clear
  | toArray

/-- What they return: for `filter` what the new queue holds, for `forEach` the calls of the callback. -/
inductive Outcome (T : Type)
  | length (n : ℕ)
  | element (item : Option T)
  | index (i : ℤ)
  | elements (items : List T)
  | calls (entries : List (T × ℕ))
  | nothing

def perform : Operation T → FifoQueue T × Outcome T
  | .push items => ((q.push items).1, .length (q.push items).2)
  | .shift => (q.shift.1, .element q.shift.2)
  | .unshift item => ((q.unshift item).1, .length (q.unshift item).2)
  | .peek => (q, .element q.peek)
  | .last => (q, .element q.last)
  | .atIndex index => (q, .element (q.atIndex index))
  | .findIndex predicate => (q, .index (q.findIndex predicate))
  | .filter predicate => (q, .elements (q.filter predicate).toArray)
  | .forEach => (q, .calls q.forEach)
  | .clear => (q.clear, .nothing)
  | .toArray => (q, .elements q.toArray)

omit [Inhabited T] in
/-- The same operations on a list. -/
def performList (l : List T) : Operation T → List T × Outcome T
  | .push items => (l ++ items, .length (l ++ items).length)
  | .shift => (l.tail, .element l.head?)
  | .unshift item => (item :: l, .length (item :: l).length)
  | .peek => (l, .element l.head?)
  | .last => (l, .element l.getLast?)
  | .atIndex index => (l, .element (arrayAt l index))
  | .findIndex predicate => (l, .index
      (match l.zipIdx.find? fun entry => predicate entry.1 entry.2 with
      | some entry => (entry.2 : ℤ)
      | none => -1))
  | .filter predicate => (l, .elements ((l.zipIdx.filter fun entry => predicate entry.1 entry.2).map Prod.fst))
  | .forEach => (l, .calls l.zipIdx)
  | .clear => ([], .nothing)
  | .toArray => (l, .elements l)

/-- One operation on a queue is the same one on the list that it holds. -/
lemma perform_eq (operation : Operation T) :
    ((q.perform operation).1.toArray, (q.perform operation).2) = performList q.toArray operation := by
  cases operation with
  | push items =>
    have hlength : (q.push items).2 = (q.push items).1.length := rfl
    rw [perform, performList, hlength, ← length_toArray, toArray_push]
  | shift =>
    obtain ⟨htail, hhead, -⟩ := q.shift_eq
    rw [perform, performList, htail, hhead]
  | unshift item =>
    have hlength : (q.unshift item).2 = (q.unshift item).1.length := rfl
    rw [perform, performList, hlength, ← length_toArray, toArray_unshift]
  | peek => rw [perform, performList, peek_eq]
  | last => rw [perform, performList, last_eq]
  | atIndex index => rw [perform, performList, atIndex_eq]
  | findIndex predicate => rw [perform, performList, findIndex_eq]
  | filter predicate => rw [perform, performList, filter_eq]
  | forEach => rw [perform, performList, forEach_eq]
  | clear => rfl
  | toArray => rfl

/-- The outcomes of operations on a queue. -/
def performAll (q : FifoQueue T) : List (Operation T) → List (Outcome T)
  | [] => []
  | operation :: operations => (q.perform operation).2 :: performAll (q.perform operation).1 operations

omit [Inhabited T] in
/-- The outcomes of operations on a list. -/
def performAllList (l : List T) : List (Operation T) → List (Outcome T)
  | [] => []
  | operation :: operations => (performList l operation).2 :: performAllList (performList l operation).1 operations

theorem performAll_eq (operations : List (Operation T)) :
    q.performAll operations = performAllList q.toArray operations := by
  induction operations generalizing q with
  | nil => rfl
  | cons operation operations ih => rw [performAll, performAllList, ih, ← perform_eq]

/-! ## Iterations -/

/-- A queue and an iteration over it: `position` is `none` when the iteration has returned. -/
structure Iteration (T : Type) where
  queue : FifoQueue T
  position : Option ℤ
  yielded : List T := []
  shifted : List T := []

/-- The step of the iterator from a position. -/
def next (position : ℤ) : Option (T × ℤ) :=
  let index := max 0 (position - q.removed)
  if q.length ≤ index then none
  else some (q.items.getD (q.head + index.toNat) default, q.removed + index + 1)

/-- A step of the iteration, or a change of the queue. -/
def Iteration.step (it : Iteration T) : Cursor.Event T → Iteration T
  | .next =>
    match it.position with
    | none => it
    | some position =>
      match it.queue.next position with
      | none => { it with position := none }
      | some (item, position) => { it with position := some position, yielded := it.yielded ++ [item] }
  | .push items => { it with queue := (it.queue.push items).1 }
  | .shift => { it with queue := it.queue.shift.1, shifted := it.shifted ++ it.queue.shift.2.toList }
  | .unshift item => { it with queue := (it.queue.unshift item).1 }

/-- An iteration that starts now. -/
def iterate (events : List (Cursor.Event T)) : Iteration T :=
  events.foldl Iteration.step { queue := q, position := some q.removed }

omit [Inhabited T] in
/-- The walk that an iteration is. -/
def Iteration.walk (it : Iteration T) : Cursor.State T where
  elements := it.queue.toArray
  offset := it.position.map (· - it.queue.removed)
  yielded := it.yielded
  shifted := it.shifted

lemma walk_next (it : Iteration T) : (it.step .next).walk = Cursor.step it.walk .next := by
  obtain ⟨queue, _ | position, yielded, shifted⟩ := it
  · rfl
  · have hnat : (max 0 (position - queue.removed)).toNat = (position - queue.removed).toNat := by omega
    by_cases h : queue.length ≤ max 0 (position - queue.removed)
    · have hnone : queue.toArray[(position - queue.removed).toNat]? = none := by
        rw [List.getElem?_eq_none_iff, length_toArray]
        omega
      have hnext : queue.next position = none := if_pos h
      simp only [Iteration.step, hnext, Iteration.walk, Cursor.step, Option.map_some, Option.map_none, hnone]
    · have hsome := queue.getElem?_toArray (i := (position - queue.removed).toNat) (by omega)
      have hnext : queue.next position =
          some (queue.items.getD (queue.head + (position - queue.removed).toNat) default,
            queue.removed + max 0 (position - queue.removed) + 1) := by
        rw [← hnat]
        exact if_neg h
      have hoffset : queue.removed + max 0 (position - queue.removed) + 1 - queue.removed =
          ((position - queue.removed).toNat : ℤ) + 1 := by omega
      simp only [Iteration.step, hnext, Iteration.walk, Cursor.step, Option.map_some, hsome, hoffset]

lemma walk_shift (it : Iteration T) : (it.step .shift).walk = Cursor.step it.walk .shift := by
  obtain ⟨queue, position, yielded, shifted⟩ := it
  obtain ⟨htail, hhead, hremoved⟩ := queue.shift_eq
  have hoffset : ∀ p : ℤ, p - (queue.removed + 1) = p - queue.removed - 1 := fun p => by omega
  cases h : queue.toArray with
  | nil =>
    rw [h] at htail hhead hremoved
    simp only [Iteration.step, Iteration.walk, Cursor.step, htail, hhead, hremoved, h, List.tail_nil,
      List.head?_nil, Option.toList_none, List.append_nil, if_true]
  | cons a rest =>
    rw [h] at htail hhead hremoved
    rw [if_neg (List.cons_ne_nil a rest)] at hremoved
    simp only [Iteration.step, Iteration.walk, Cursor.step, htail, hhead, hremoved, h, List.tail_cons,
      List.head?_cons, Option.toList_some, Option.map_map, Function.comp_def, hoffset]

omit [Inhabited T] in
lemma removed_push (items : List T) : (q.push items).1.removed = q.removed := rfl

omit [Inhabited T] in
lemma removed_unshift (item : T) : (q.unshift item).1.removed = q.removed - 1 := by
  rw [unshift]
  split_ifs <;> rfl

/-- An iteration is a walk along the list that the queue holds. -/
lemma walk_step (it : Iteration T) (event : Cursor.Event T) : (it.step event).walk = Cursor.step it.walk event := by
  cases event with
  | next => exact walk_next it
  | push items => simp only [Iteration.step, Iteration.walk, Cursor.step, toArray_push, removed_push]
  | shift => exact walk_shift it
  | unshift item =>
    have hoffset : ∀ p : ℤ, p - (it.queue.removed - 1) = p - it.queue.removed + 1 := fun p => by omega
    simp only [Iteration.step, Iteration.walk, Cursor.step, toArray_unshift, removed_unshift, Option.map_map,
      Function.comp_def, hoffset]

theorem walk_iterate (events : List (Cursor.Event T)) :
    (q.iterate events).walk = Cursor.run q.toArray events := by
  induction events using List.reverseRecOn with
  | nil =>
    simp only [iterate, Cursor.run, List.foldl_nil, Iteration.walk, Option.map_some, sub_self]
  | append_singleton events event ih =>
    rw [Cursor.run_concat, ← ih, ← walk_step, iterate, List.foldl_append, List.foldl_cons, List.foldl_nil,
      ← iterate]

variable [DecidableEq T]

/-- **A queue is a list.**  Operations on it have the outcomes of the same operations on a list, across every
compaction.  And an iteration over it is a walk along a list that changes: with the numbers of their occurrences its
elements are different, and the walk yields each of them once, in order, while it is there. -/
theorem fifoQueue_refines_list (items : List T) (operations : List (Operation T)) (events : List (Cursor.Event T)) :
    (ofList items).performAll operations = performAllList items operations ∧
      ∀ q : FifoQueue T, ∃ (start : List (T × ℕ)) (numbered : List (Cursor.Event (T × ℕ))),
        start.map Prod.fst = q.toArray ∧ numbered.map (Cursor.Event.map Prod.fst) = events ∧
        (start ++ numbered.flatMap Cursor.Event.inserted).Nodup ∧
        (∀ n : ℕ, (q.iterate (events.take n)).walk = (Cursor.run start (numbered.take n)).map Prod.fst) ∧
        Cursor.Walks start numbered := by
  refine ⟨(ofList items).performAll_eq operations, fun q => ?_⟩
  obtain ⟨start, numbered, hstart, rfl, hnodup, hwalks⟩ := Cursor.exists_walks q.toArray events
  refine ⟨start, numbered, hstart, rfl, hnodup, fun n => ?_, hwalks⟩
  rw [walk_iterate, ← hstart, ← List.map_take, Cursor.run_map]

omit [DecidableEq T] in
/-- An element that is put back at another place is yielded once more. -/
theorem not_yielded_once : ¬ ∀ (q : FifoQueue ℕ) (events : List (Cursor.Event ℕ)), q.toArray.Nodup →
    (∀ event ∈ events, event.appended = []) → (q.iterate events).yielded.Nodup := by
  intro h
  have hnodup := h (ofList [0, 1, 2]) [.next, .shift, .shift, .unshift 0, .next] (by decide)
    (by simp [Cursor.Event.appended])
  exact absurd hnodup (by decide)

end FifoQueue

end Werift.Common
