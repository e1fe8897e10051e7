import Mathlib

/-!
# Walking along a queue that changes

A walk yields the elements of a queue one after the other, while elements are taken from its front, put back there
and appended.  `offset` is the place of the walk behind the front; it is negative when more elements have been taken
than the walk has yielded.  `ahead` are the elements that it would yield, and `course` all those that it has yielded
or would.
-/

namespace Cursor

variable {α β : Type}

/-- The walk takes a step, or the queue changes. -/
inductive Event (α : Type)
  | next
  | push (items : List α)
  | shift
  | unshift (item : α)

/-- A queue and a walk along it: `offset` is `none` when the walk has ended, `yielded` are the elements it has
yielded, and `shifted` those that have been taken from the front. -/
structure State (α : Type) where
  elements : List α
  offset : Option ℤ := some 0
  yielded : List α := []
  shifted : List α := []

namespace State

/-- What the walk would yield. -/
def ahead (s : State α) : List α := s.offset.elim [] fun d => s.elements.drop d.toNat

/-- What the walk has yielded and would yield. -/
def course (s : State α) : List α := s.yielded ++ s.ahead

def map (f : α → β) (s : State α) : State β :=
  ⟨s.elements.map f, s.offset, s.yielded.map f, s.shifted.map f⟩

end State

/-- One step of the walk, or one change. -/
def step (s : State α) : Event α → State α
  | .next =>
    match s.offset with
    | none => s
    | some d =>
      match s.elements[d.toNat]? with
      | none => { s with offset := none }
      | some a => { s with offset := some (d.toNat + 1), yielded := s.yielded ++ [a] }
  | .push items => { s with elements := s.elements ++ items }
  | .shift =>
    match s.elements with
    | [] => s
    | a :: rest => { s with elements := rest, offset := s.offset.map (· - 1), shifted := s.shifted ++ [a] }
  | .unshift a => { s with elements := a :: s.elements, offset := s.offset.map (· + 1) }

/-- A walk that starts at the front. -/
def run (start : List α) (events : List (Event α)) : State α := events.foldl step { elements := start }

/-- The elements that an event appends. -/
def Event.appended : Event α → List α
  | .next => []
  | .push items => items
  | .shift => []
  | .unshift _ => []

/-- The elements that an event puts into the queue. -/
def Event.inserted : Event α → List α
  | .next => []
  | .push items => items
  | .shift => []
  | .unshift a => [a]

variable {s : State α} {start : List α} {events : List (Event α)} {a : α} {d : ℤ}

lemma run_concat (start : List α) (events : List (Event α)) (event : Event α) :
    run start (events ++ [event]) = step (run start events) event := by
  rw [run, List.foldl_append, List.foldl_cons, List.foldl_nil, ← run]

/-! ## The course of a walk -/

lemma course_next : (step s .next).course = s.course := by
  obtain ⟨elements, _ | d, yielded, shifted⟩ := s
  · rfl
  · cases h : elements[d.toNat]? with
    | none =>
      have hdrop : elements.drop d.toNat = [] := List.drop_eq_nil_iff.mpr (List.getElem?_eq_none_iff.mp h)
      simp [step, h, State.course, State.ahead, hdrop]
    | some a =>
      obtain ⟨hlt, hget⟩ := List.getElem?_eq_some_iff.mp h
      have hdrop : elements.drop d.toNat = a :: elements.drop (d.toNat + 1) := by
        rw [List.drop_eq_getElem_cons hlt, hget]
      have hnat : ((d.toNat : ℤ) + 1).toNat = d.toNat + 1 := by omega
      simp only [step, h, State.course, State.ahead, Option.elim_some, hdrop, hnat, List.append_assoc,
        List.singleton_append]

/-- The walk is not beyond the end of the queue. -/
def InRange (s : State α) : Prop := ∀ d : ℤ, s.offset = some d → d ≤ s.elements.length

lemma inRange_step (h : InRange s) (event : Event α) : InRange (step s event) := by
  obtain ⟨elements, _ | d, yielded, shifted⟩ := s
  · cases event with
    | next => exact h
    | push items => exact fun _ h => absurd h nofun
    | shift => cases elements <;> exact fun _ h => absurd h nofun
    | unshift a => exact fun _ h => absurd h nofun
  · have hd : d ≤ elements.length := h d rfl
    cases event with
    | next =>
      intro d' hd'
      cases hget : elements[d.toNat]? with
      | none => simp [step, hget] at hd'
      | some a =>
        have hlt := (List.getElem?_eq_some_iff.mp hget).1
        simp only [step, hget, Option.some.injEq] at hd' ⊢
        omega
    | push items =>
      rintro d' ⟨⟩
      simp only [step, List.length_append, Nat.cast_add]
      omega
    | shift =>
      cases elements with
      | nil => exact h
      | cons a rest =>
        rintro d' ⟨⟩
        rw [List.length_cons, Nat.cast_succ] at hd
        simp only [step]
        omega
    | unshift a =>
      rintro d' ⟨⟩
      simp only [step, List.length_cons, Nat.cast_succ]
      omega

lemma inRange_run (start : List α) (events : List (Event α)) : InRange (run start events) := by
  induction events using List.reverseRecOn with
  | nil =>
    rintro d ⟨⟩
    exact Int.natCast_nonneg _
  | append_singleton events event ih =>
    rw [run_concat]
    exact inRange_step ih event

lemma course_push (h : InRange s) (items : List α) :
    (step s (.push items)).course = if s.offset = none then s.course else s.course ++ items := by
  obtain ⟨elements, _ | d, yielded, shifted⟩ := s
  · rfl
  · have hd : d ≤ elements.length := h d rfl
    have hdrop : (elements ++ items).drop d.toNat = elements.drop d.toNat ++ items :=
      List.drop_append_of_le_length (by omega)
    simp [step, State.course, State.ahead, hdrop]

/-- What is taken from the front may be what the walk would have yielded next. -/
lemma course_shift : (step s .shift).course.Sublist s.course ∧
    ∀ a ∈ s.course, a ∈ (step s .shift).course ∨ a ∈ (step s .shift).shifted := by
  obtain ⟨_ | ⟨b, rest⟩, _ | d, yielded, shifted⟩ := s
  · exact ⟨List.Sublist.refl _, fun a ha => .inl ha⟩
  · exact ⟨List.Sublist.refl _, fun a ha => .inl ha⟩
  · exact ⟨List.Sublist.refl _, fun a ha => .inl ha⟩
  · by_cases hd : 0 < d
    · have hnat : d.toNat = (d - 1).toNat + 1 := by omega
      have hsame : (step ⟨b :: rest, some d, yielded, shifted⟩ .shift).course =
          State.course ⟨b :: rest, some d, yielded, shifted⟩ := by
        simp only [step, State.course, State.ahead, Option.map_some, Option.elim_some, hnat, List.drop_succ_cons]
      rw [hsame]
      exact ⟨List.Sublist.refl _, fun a ha => .inl ha⟩
    · have hnat : d.toNat = 0 := by omega
      have hnat' : (d - 1).toNat = 0 := by omega
      simp only [step, State.course, State.ahead, Option.map_some, Option.elim_some, hnat, hnat', List.drop_zero]
      refine ⟨(List.sublist_cons_self b rest).append_left yielded, fun a ha => ?_⟩
      rw [List.mem_append, List.mem_cons] at ha
      rw [List.mem_append, List.mem_append, List.mem_singleton]
      tauto

/-- What is put to the front may be what the walk yields next. -/
lemma course_unshift (a : α) : (step s (.unshift a)).course = s.course ∨
    s.ahead = s.elements ∧ (step s (.unshift a)).course = s.yielded ++ a :: s.elements := by
  obtain ⟨elements, _ | d, yielded, shifted⟩ := s
  · exact .inl rfl
  · by_cases hd : 0 ≤ d
    · have hnat : (d + 1).toNat = d.toNat + 1 := by omega
      exact .inl (by simp [step, State.course, State.ahead, hnat])
    · have hnat : d.toNat = 0 := by omega
      have hnat' : (d + 1).toNat = 0 := by omega
      exact .inr (by simp [step, State.course, State.ahead, hnat, hnat'])

@[simp] lemma elements_next : (step s .next).elements = s.elements := by
  obtain ⟨elements, _ | d, yielded, shifted⟩ := s
  · rfl
  · cases h : elements[d.toNat]? <;> simp [step, h]

@[simp] lemma shifted_next : (step s .next).shifted = s.shifted := by
  obtain ⟨elements, _ | d, yielded, shifted⟩ := s
  · rfl
  · cases h : elements[d.toNat]? <;> simp [step, h]

/-- A step yields the next element, or ends the walk. -/
lemma yielded_next (h : s.offset ≠ none) : (step s .next).yielded = s.yielded ++ s.ahead.head?.toList ∧
    ((step s .next).offset = none ↔ s.ahead = []) := by
  obtain ⟨elements, _ | d, yielded, shifted⟩ := s
  · exact absurd rfl h
  · have hhead : (elements.drop d.toNat).head? = elements[d.toNat]? := List.head?_drop
    cases hget : elements[d.toNat]? with
    | none =>
      have hdrop : elements.drop d.toNat = [] := List.drop_eq_nil_iff.mpr (List.getElem?_eq_none_iff.mp hget)
      simp [step, hget, State.ahead, hdrop]
    | some a =>
      rw [hget] at hhead
      have hdrop : elements.drop d.toNat ≠ [] := fun hnil => by simp [hnil] at hhead
      simp only [step, hget, State.ahead, Option.elim_some, hhead, Option.toList_some, reduceCtorEq, hdrop,
        and_self]

/-- A walk that has ended does not go on. -/
lemma offset_step_eq_none (h : s.offset = none) (event : Event α) : (step s event).offset = none := by
  obtain ⟨elements, offset, yielded, shifted⟩ := s
  obtain rfl : offset = none := h
  cases event with
  | next => rfl
  | push items => rfl
  | shift => cases elements <;> rfl
  | unshift a => rfl

/-! ## Different elements -/

variable [DecidableEq α]

/-- What holds when all elements that have been in the queue are different: `known` are these, and `due` those that
were in it at the start or have been appended. -/
structure Sound (known due : List α) (s : State α) : Prop where
  elements : ∀ a ∈ s.elements, a ∈ known
  course : ∀ a ∈ s.course, a ∈ known
  nodup_elements : s.elements.Nodup
  nodup_course : s.course.Nodup
  order : (s.course.filter (· ∈ s.elements)).Sublist s.elements
  due : s.offset ≠ none → ∀ a ∈ due, a ∈ s.course ∨ a ∈ s.shifted

lemma filter_mem_append {l l' course : List α} (h : l'.Disjoint course) :
    course.filter (· ∈ l ++ l') = course.filter (· ∈ l) := by
  refine List.filter_congr fun a ha => ?_
  have hnot : a ∉ l' := fun ha' => h ha' ha
  simp [hnot]

lemma filter_mem_cons {l course : List α} (h : a ∉ course) :
    course.filter (· ∈ a :: l) = course.filter (· ∈ l) := by
  refine List.filter_congr fun b hb => ?_
  have hne : b ≠ a := fun heq => h (heq ▸ hb)
  simp [hne]

lemma filter_mem_self (l : List α) : l.filter (· ∈ l) = l :=
  List.filter_eq_self.mpr fun _ ha => decide_eq_true ha

lemma sound_start (h : start.Nodup) : Sound start start { elements := start } := by
  have hcourse : State.course { elements := start } = start := rfl
  refine ⟨fun _ ha => ha, fun _ ha => ha, h, h, ?_, fun _ a ha => .inl ha⟩
  rw [hcourse, filter_mem_self]

variable {known due : List α}

lemma Sound.next (h : Sound known due s) : Sound known due (step s .next) := by
  refine ⟨?_, ?_, ?_, ?_, ?_, fun hoffset => ?_⟩
  · rw [elements_next]
    exact h.elements
  · rw [course_next]
    exact h.course
  · rw [elements_next]
    exact h.nodup_elements
  · rw [course_next]
    exact h.nodup_course
  · rw [course_next, elements_next]
    exact h.order
  · rw [course_next, shifted_next]
    exact h.due fun hnone => hoffset (offset_step_eq_none hnone .next)

lemma Sound.push (h : Sound known due s) (hrange : InRange s) {items : List α} (hnodup : items.Nodup)
    (hnew : items.Disjoint known) : Sound (known ++ items) (due ++ items) (step s (.push items)) := by
  have helements : items.Disjoint s.elements := fun a ha hmem => hnew ha (h.elements a hmem)
  have hcourse : items.Disjoint s.course := fun a ha hmem => hnew ha (h.course a hmem)
  have hsame : (step s (.push items)).elements = s.elements ++ items := rfl
  have hpush := course_push hrange items
  refine ⟨?_, ?_, ?_, ?_, ?_, fun hoffset a ha => ?_⟩
  · rw [hsame]
    exact fun a ha => List.mem_append.mpr ((List.mem_append.mp ha).imp_left (h.elements a))
  · rw [hpush]
    split_ifs
    · exact fun a ha => List.mem_append_left _ (h.course a ha)
    · exact fun a ha => List.mem_append.mpr ((List.mem_append.mp ha).imp_left (h.course a))
  · rw [hsame]
    exact h.nodup_elements.append hnodup helements.symm
  · rw [hpush]
    split_ifs
    · exact h.nodup_course
    · exact h.nodup_course.append hnodup hcourse.symm
  · rw [hpush, hsame]
    split_ifs
    · rw [filter_mem_append hcourse]
      exact h.order.trans (List.sublist_append_left _ _)
    · have hitems : items.filter (· ∈ s.elements ++ items) = items :=
        List.filter_eq_self.mpr fun a ha => decide_eq_true (List.mem_append_right _ ha)
      rw [List.filter_append, filter_mem_append hcourse, hitems]
      exact h.order.append (List.Sublist.refl items)
  · have hoffset' : s.offset ≠ none := hoffset
    rw [hpush, if_neg hoffset', List.mem_append]
    obtain ha | ha := List.mem_append.mp ha
    · exact (h.due hoffset' a ha).imp_left .inl
    · exact .inl (.inr ha)

lemma Sound.shift (h : Sound known due s) : Sound known due (step s .shift) := by
  obtain ⟨hsub, hlost⟩ := course_shift (s := s)
  have hmono : ∀ a ∈ s.shifted, a ∈ (step s .shift).shifted := by
    obtain ⟨_ | ⟨b, rest⟩, offset, yielded, shifted⟩ := s
    · exact fun a ha => ha
    · exact fun a ha => List.mem_append_left _ ha
  have htail : (step s .shift).elements = s.elements.tail := by
    obtain ⟨_ | ⟨b, rest⟩, offset, yielded, shifted⟩ := s <;> rfl
  refine ⟨?_, fun a ha => h.course a (hsub.subset ha), ?_, h.nodup_course.sublist hsub, ?_, fun hoffset a ha => ?_⟩
  · rw [htail]
    exact fun a ha => h.elements a (List.mem_of_mem_tail ha)
  · rw [htail]
    exact h.nodup_elements.sublist (List.tail_sublist _)
  · rw [htail]
    -- what is left of the order is the order of what is left
    have hfilter : (step s .shift).course.filter (· ∈ s.elements.tail) =
        ((step s .shift).course.filter (· ∈ s.elements)).filter (· ∈ s.elements.tail) := by
      rw [List.filter_filter]
      refine List.filter_congr fun a _ => ?_
      have himp : a ∈ s.elements.tail → a ∈ s.elements := fun hmem => List.mem_of_mem_tail hmem
      by_cases hmem : a ∈ s.elements.tail
      · simp [hmem, himp hmem]
      · simp [hmem]
    have htailed : s.elements.filter (· ∈ s.elements.tail) = s.elements.tail := by
      have hnodup := h.nodup_elements
      cases hcons : s.elements with
      | nil => rfl
      | cons b rest =>
        rw [hcons, List.nodup_cons] at hnodup
        rw [List.tail_cons, List.filter_cons_of_neg (by simpa using hnodup.1), filter_mem_self]
    have hrest := ((hsub.filter _).trans h.order).filter (· ∈ s.elements.tail)
    rw [htailed] at hrest
    rw [hfilter]
    exact hrest
  · have hoffset' : s.offset ≠ none := fun hnone => hoffset (offset_step_eq_none hnone .shift)
    obtain hmem | hmem := h.due hoffset' a ha
    · exact hlost a hmem
    · exact .inr (hmono a hmem)

lemma Sound.unshift (h : Sound known due s) (hnew : a ∉ known) :
    Sound (known ++ [a]) due (step s (.unshift a)) := by
  have helements : a ∉ s.elements := fun hmem => hnew (h.elements a hmem)
  have hcourse : a ∉ s.course := fun hmem => hnew (h.course a hmem)
  have hsame : (step s (.unshift a)).elements = a :: s.elements := rfl
  -- in front of the walk, the new element comes next
  have hfront : s.ahead = s.elements → (s.yielded ++ a :: s.elements).Perm (a :: s.course) ∧
      ((s.yielded ++ a :: s.elements).filter (· ∈ a :: s.elements)).Sublist (a :: s.elements) := by
    intro hahead
    refine ⟨?_, ?_⟩
    · rw [State.course, hahead]
      exact List.perm_middle
    · have hyielded : s.yielded.filter (· ∈ s.elements) = [] := by
        have horder := h.order
        rw [State.course, hahead, List.filter_append, filter_mem_self] at horder
        have hlength := horder.length_le
        rw [List.length_append] at hlength
        exact List.eq_nil_of_length_eq_zero (by omega)
      have hnot : a ∉ s.yielded := fun hmem => hcourse (List.mem_append_left _ hmem)
      rw [List.filter_append, filter_mem_cons hnot, hyielded, List.nil_append, filter_mem_self]
  refine ⟨?_, ?_, ?_, ?_, ?_, fun hoffset b hb => ?_⟩
  · rw [hsame]
    intro b hb
    rw [List.mem_append, List.mem_singleton]
    exact (List.mem_cons.mp hb).symm.imp_left (h.elements b)
  · intro b hb
    rw [List.mem_append, List.mem_singleton]
    obtain heq | ⟨hahead, heq⟩ := course_unshift (s := s) a
    · exact .inl (h.course b (heq ▸ hb))
    · rw [heq, (hfront hahead).1.mem_iff, List.mem_cons] at hb
      exact hb.symm.imp_left (h.course b)
  · rw [hsame]
    exact List.nodup_cons.mpr ⟨helements, h.nodup_elements⟩
  · obtain heq | ⟨hahead, heq⟩ := course_unshift (s := s) a
    · rw [heq]
      exact h.nodup_course
    · rw [heq, (hfront hahead).1.nodup_iff]
      exact List.nodup_cons.mpr ⟨hcourse, h.nodup_course⟩
  · obtain heq | ⟨hahead, heq⟩ := course_unshift (s := s) a
    · rw [heq, hsame, filter_mem_cons hcourse]
      exact h.order.trans (List.sublist_cons_self _ _)
    · rw [heq, hsame]
      exact (hfront hahead).2
  · have hoffset' : s.offset ≠ none := fun hnone => hoffset (offset_step_eq_none hnone (.unshift a))
    obtain hmem | hmem := h.due hoffset' b hb
    · refine .inl ?_
      obtain heq | ⟨hahead, heq⟩ := course_unshift (s := s) a
      · rw [heq]
        exact hmem
      · rw [heq, (hfront hahead).1.mem_iff]
        exact List.mem_cons_of_mem _ hmem
    · exact .inr hmem

lemma sound_step (h : Sound known due s) (hrange : InRange s) (event : Event α) (hnodup : event.inserted.Nodup)
    (hnew : event.inserted.Disjoint known) :
    Sound (known ++ event.inserted) (due ++ event.appended) (step s event) := by
  cases event with
  | next =>
    rw [Event.inserted, Event.appended, List.append_nil, List.append_nil]
    exact h.next
  | push items => exact h.push hrange hnodup hnew
  | shift =>
    rw [Event.inserted, Event.appended, List.append_nil, List.append_nil]
    exact h.shift
  | unshift a =>
    rw [Event.appended, List.append_nil]
    exact h.unshift fun ha => hnew List.mem_cons_self ha

/-- What holds after a run in which all elements are different. -/
theorem sound_run (start : List α) (events : List (Event α))
    (h : (start ++ events.flatMap Event.inserted).Nodup) :
    Sound (start ++ events.flatMap Event.inserted) (start ++ events.flatMap Event.appended) (run start events) := by
  induction events using List.reverseRecOn with
  | nil =>
    rw [List.flatMap_nil, List.flatMap_nil, List.append_nil]
    exact sound_start (List.nodup_append.mp h).1
  | append_singleton events event ih =>
    rw [List.flatMap_append, List.flatMap_singleton, ← List.append_assoc] at h ⊢
    rw [List.flatMap_append, List.flatMap_singleton, ← List.append_assoc, run_concat]
    obtain ⟨hbefore, hnodup, hnew⟩ := List.nodup_append'.mp h
    exact sound_step (ih hbefore) (inRange_run start events) event hnodup hnew.symm

/-! ## Relative to an earlier moment -/

/-- What has been and would be yielded of the elements that were in the queue at some moment is in their order. -/
lemma order_step {elements : List α} (h : (s.course.filter (· ∈ elements)).Sublist elements) (hrange : InRange s)
    (event : Event α) (hnew : event.inserted.Disjoint elements) :
    ((step s event).course.filter (· ∈ elements)).Sublist elements := by
  cases event with
  | next =>
    rw [course_next]
    exact h
  | push items =>
    rw [course_push hrange]
    split_ifs
    · exact h
    · have hnone : items.filter (· ∈ elements) = [] :=
        List.filter_eq_nil_iff.mpr fun a ha => by simpa using fun hmem => hnew ha hmem
      rw [List.filter_append, hnone, List.append_nil]
      exact h
  | shift => exact (course_shift.1.filter _).trans h
  | unshift a =>
    obtain heq | ⟨hahead, heq⟩ := course_unshift (s := s) a
    · rw [heq]
      exact h
    · have hnot : a ∉ elements := fun hmem => hnew List.mem_cons_self hmem
      rw [State.course, hahead, List.filter_append] at h
      rw [heq, List.filter_append, List.filter_cons_of_neg (by simpa using hnot)]
      exact h

/-- **A walk along a queue that changes.**  Nothing is yielded twice, and only what is in the queue.  What was in
the queue at the start or has been appended has been yielded, has been taken out, or is ahead, as long as the walk
lasts.  A step yields the first element ahead, and ends the walk when there is none.  What is yielded of the elements in the
queue at any moment is in their order. -/
structure Walks (start : List α) (events : List (Event α)) : Prop where
  once : (run start events).yielded.Nodup
  present : ∀ before after : List (Event α), events = before ++ .next :: after →
    ∀ a ∈ (run start before).ahead, a ∈ (run start before).elements
  due : ∀ before after : List (Event α), events = before ++ after → (run start before).offset ≠ none →
    ∀ a ∈ start ++ before.flatMap Event.appended,
      a ∈ (run start before).yielded ∨ a ∈ (run start before).shifted ∨ a ∈ (run start before).ahead
  turn : ∀ before after : List (Event α), events = before ++ .next :: after → (run start before).offset ≠ none →
    (run start (before ++ [.next])).yielded = (run start before).yielded ++ (run start before).ahead.head?.toList ∧
      ((run start (before ++ [.next])).offset = none ↔ (run start before).ahead = [])
  order : ∀ before after : List (Event α), events = before ++ after →
    ((run start events).yielded.filter (· ∈ (run start before).elements)).Sublist (run start before).elements

theorem walks (start : List α) (events : List (Event α)) (h : (start ++ events.flatMap Event.inserted).Nodup) :
    Walks start events := by
  have hfront : ∀ before after : List (Event α), events = before ++ after →
      (start ++ before.flatMap Event.inserted).Nodup := by
    rintro before after rfl
    rw [List.flatMap_append, ← List.append_assoc] at h
    exact (List.nodup_append.mp h).1
  refine ⟨?_, fun before _ _ a ha => ?_, fun before after heq hoffset a ha => ?_,
    fun before after _ hoffset => ?_, ?_⟩
  · exact (List.nodup_append.mp (sound_run start events h).nodup_course).1
  · rw [State.ahead] at ha
    cases hoffset : (run start before).offset with
    | none => exact absurd (hoffset ▸ ha) List.not_mem_nil
    | some d => exact List.mem_of_mem_drop (hoffset ▸ ha)
  · obtain hmem | hmem := (sound_run start before (hfront before after heq)).due hoffset a ha
    · exact (List.mem_append.mp hmem).imp_right .inr
    · exact .inr (.inl hmem)
  · rw [run_concat]
    exact yielded_next hoffset
  · rintro before after rfl
    -- by induction on what comes after the moment
    have hcourse : (((run start (before ++ after)).course).filter (· ∈ (run start before).elements)).Sublist
        (run start before).elements := by
      induction after using List.reverseRecOn with
      | nil =>
        rw [List.append_nil]
        exact (sound_run start before (hfront before [] rfl)).order
      | append_singleton after event ih =>
        rw [← List.append_assoc] at h hfront ⊢
        rw [run_concat]
        have hbefore := hfront before (after ++ [event]) (by rw [List.append_assoc])
        refine order_step (ih ?_ ?_) (inRange_run _ _) event fun a ha hmem => ?_
        · exact hfront (before ++ after) [event] rfl
        · rintro before' after' heq
          exact hfront before' (after' ++ [event]) (by rw [heq, List.append_assoc])
        · rw [List.flatMap_append, List.flatMap_append, List.flatMap_singleton, ← List.append_assoc,
            ← List.append_assoc] at h
          refine (List.nodup_append'.mp h).2.2 ?_ ha
          exact List.mem_append_left _ ((sound_run start before hbefore).elements a hmem)
    rw [State.course, List.filter_append] at hcourse
    exact (List.sublist_append_left _ _).trans hcourse

/-! ## Occurrences -/

/-- An event with other elements. -/
def Event.map (f : α → β) : Event α → Event β
  | .next => .next
  | .push items => .push (items.map f)
  | .shift => .shift
  | .unshift a => .unshift (f a)

omit [DecidableEq α] in
lemma step_map (f : α → β) (event : Event α) : step (s.map f) (event.map f) = (step s event).map f := by
  obtain ⟨elements, offset, yielded, shifted⟩ := s
  cases event with
  | next =>
    cases offset with
    | none => rfl
    | some d =>
      cases h : elements[d.toNat]? <;> simp [step, State.map, Event.map, h]
  | push items => simp [step, State.map, Event.map]
  | shift => cases elements <;> simp [step, State.map, Event.map]
  | unshift a => simp [step, State.map, Event.map]

omit [DecidableEq α] in
theorem run_map (f : α → β) (start : List α) (events : List (Event α)) :
    run (start.map f) (events.map (Event.map f)) = (run start events).map f := by
  induction events using List.reverseRecOn with
  | nil => rfl
  | append_singleton events event ih =>
    rw [List.map_append, List.map_singleton, run_concat, run_concat, ih, step_map]

omit [DecidableEq α] in
lemma nodup_zipIdx (items : List α) (n : ℕ) : (items.zipIdx n).Nodup := by
  refine List.Nodup.of_map Prod.snd ?_
  rw [List.zipIdx_map_snd]
  exact List.nodup_range'

omit [DecidableEq α] in
/-- The elements that an event puts into the queue can be numbered. -/
lemma Event.exists_numbered (event : Event α) (n : ℕ) :
    ∃ event' : Event (α × ℕ), event'.map Prod.fst = event ∧ event'.inserted.Nodup ∧
      ∀ a ∈ event'.inserted, n ≤ a.2 ∧ a.2 < n + event.inserted.length := by
  cases event with
  | next => exact ⟨.next, rfl, List.nodup_nil, fun _ h => absurd h List.not_mem_nil⟩
  | push items =>
    refine ⟨.push (items.zipIdx n), ?_, nodup_zipIdx items n, fun a ha => ?_⟩
    · rw [Event.map, List.zipIdx_map_fst]
    · have hbounds := List.mem_zipIdx ha
      exact ⟨hbounds.1, hbounds.2.1⟩
  | shift => exact ⟨.shift, rfl, List.nodup_nil, fun _ h => absurd h List.not_mem_nil⟩
  | unshift a =>
    refine ⟨.unshift (a, n), rfl, List.nodup_singleton _, fun b hb => ?_⟩
    obtain rfl := List.mem_singleton.mp hb
    exact ⟨le_rfl, Nat.lt_succ_self n⟩

omit [DecidableEq α] in
/-- Each element that is put into the queue can be numbered, so that all are different. -/
lemma exists_numbered (events : List (Event α)) (n : ℕ) :
    ∃ events' : List (Event (α × ℕ)), events'.map (Event.map Prod.fst) = events ∧
      (events'.flatMap Event.inserted).Nodup ∧ ∀ a ∈ events'.flatMap Event.inserted, n ≤ a.2 := by
  induction events generalizing n with
  | nil => exact ⟨[], rfl, List.nodup_nil, fun _ h => absurd h List.not_mem_nil⟩
  | cons event events ih =>
    obtain ⟨event', hmap, hnodup, hbounds⟩ := event.exists_numbered n
    obtain ⟨events', hmaps, hnodups, hlow⟩ := ih (n + event.inserted.length)
    refine ⟨event' :: events', by rw [List.map_cons, hmap, hmaps], ?_, fun a ha => ?_⟩
    · rw [List.flatMap_cons]
      refine hnodup.append hnodups fun a ha ha' => ?_
      have := (hbounds a ha).2
      have := hlow a ha'
      omega
    · rw [List.flatMap_cons] at ha
      obtain ha | ha := List.mem_append.mp ha
      · exact (hbounds a ha).1
      · exact le_trans (Nat.le_add_right _ _) (hlow a ha)

/-- Every run is one of different elements of which the numbers have been forgotten. -/
theorem exists_walks (start : List α) (events : List (Event α)) :
    ∃ (start' : List (α × ℕ)) (events' : List (Event (α × ℕ))), start'.map Prod.fst = start ∧
      events'.map (Event.map Prod.fst) = events ∧ (start' ++ events'.flatMap Event.inserted).Nodup ∧
      Walks start' events' := by
  obtain ⟨events', hmap, hnodup, hlow⟩ := exists_numbered events start.length
  have hall : (start.zipIdx ++ events'.flatMap Event.inserted).Nodup := by
    refine (nodup_zipIdx start 0).append hnodup fun a ha ha' => ?_
    have := (List.mem_zipIdx ha).2.1
    have := hlow a ha'
    omega
  exact ⟨start.zipIdx, events', List.zipIdx_map_fst 0 start, hmap, hall, walks _ _ hall⟩

end Cursor
