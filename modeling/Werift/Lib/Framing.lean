import Mathlib

/-!
# Frames in a stream

A stream carries frames one after another, and its receiver gets it in chunks.  A framer looks at the
front of what has been buffered: there stands a whole frame, or one that is not whole yet, or something
that no frame begins with.  What it says must not change when more arrives.

Splitting a buffer takes frames off its front as long as there is a whole one.  It does not matter how a
stream is cut (`Splits.append`), and of a stream of frames exactly the whole ones come out
(`Splits.of_prefix`).
-/

namespace Framing

variable {α : Type*}

/-- What stands at the front of a buffer. -/
inductive Front
  | incomplete
  | frame (length : ℕ)
  | malformed
deriving DecidableEq

/-- A framer. -/
structure Framer (α : Type*) where
  front : List α → Front
  front_nil : front [] = .incomplete
  /-- A frame is not empty and stands in the buffer. -/
  frame_bounds : ∀ {buffer length}, front buffer = .frame length →
    0 < length ∧ length ≤ buffer.length
  /-- What follows a frame does not matter. -/
  frame_append : ∀ {buffer length} more, front buffer = .frame length →
    front (buffer ++ more) = .frame length
  malformed_append : ∀ {buffer} more, front buffer = .malformed →
    front (buffer ++ more) = .malformed

/-- A framer takes frames off the front of a buffer and leaves a rest. -/
inductive Splits (F : Framer α) : List α → List (List α) → List α → Prop
  | done {buffer : List α} (h : ∀ length, F.front buffer ≠ .frame length) : Splits F buffer [] buffer
  | frame {buffer rest : List α} {length : ℕ} {frames : List (List α)}
      (h : F.front buffer = .frame length) (hlater : Splits F (buffer.drop length) frames rest) :
      Splits F buffer (buffer.take length :: frames) rest

/-- A list that is one whole frame. -/
def Framer.Whole (F : Framer α) (w : List α) : Prop := F.front w = .frame w.length

variable {F : Framer α} {buffer buffer' more rest rest' w : List α} {frames frames' : List (List α)}

/-- The frames and the rest are the buffer. -/
theorem Splits.flatten (h : Splits F buffer frames rest) : frames.flatten ++ rest = buffer := by
  induction h with
  | done => rfl
  | frame h hlater ih => rw [List.flatten_cons, List.append_assoc, ih, List.take_append_drop]

/-- There is only one way to split a buffer. -/
theorem Splits.unique (h : Splits F buffer frames rest) (h' : Splits F buffer frames' rest') :
    frames = frames' ∧ rest = rest' := by
  induction h generalizing frames' rest' with
  | done hdone =>
    cases h' with
    | done => exact ⟨rfl, rfl⟩
    | frame hframe => exact absurd hframe (hdone _)
  | frame hframe hlater ih =>
    cases h' with
    | done hdone => exact absurd hframe (hdone _)
    | frame hframe' hlater' =>
      obtain rfl : _ = _ := Front.frame.inj (hframe.symm.trans hframe')
      obtain ⟨rfl, rfl⟩ := ih hlater'
      exact ⟨rfl, rfl⟩

/-- At the front of the rest there is no frame. -/
theorem Splits.front_rest (h : Splits F buffer frames rest) (length : ℕ) :
    F.front rest ≠ .frame length := by
  induction h with
  | done h => exact h length
  | frame _ _ ih => exact ih

/-- A whole frame and what follows. -/
theorem Splits.cons (hw : F.Whole w) (h : Splits F buffer frames rest) :
    Splits F (w ++ buffer) (w :: frames) rest := by
  have hlater : Splits F ((w ++ buffer).drop w.length) frames rest := by rwa [List.drop_left]
  have hframe := Splits.frame (F.frame_append buffer hw) hlater
  rwa [List.take_left] at hframe

/-- **Chunks.**  Splitting what is there, and then the rest with what comes next, is splitting all. -/
theorem Splits.append (h : Splits F buffer frames rest) (h' : Splits F (rest ++ more) frames' rest') :
    Splits F (buffer ++ more) (frames ++ frames') rest' := by
  induction h with
  | done => exact h'
  | @frame buffer rest length frames hframe hlater ih =>
    have hle := (F.frame_bounds hframe).2
    have htake : (buffer ++ more).take length = buffer.take length :=
      List.take_append_of_le_length hle
    have hdrop : (buffer ++ more).drop length = buffer.drop length ++ more :=
      List.drop_append_of_le_length hle
    rw [List.cons_append, ← htake]
    refine Splits.frame (F.frame_append more hframe) ?_
    rw [hdrop]
    exact ih h'

/-- A proper prefix of a frame is not whole yet. -/
theorem Framer.Whole.front_prefix (hw : F.Whole w) (hinitial : buffer <+: w) (hne : buffer ≠ w) :
    F.front buffer = .incomplete := by
  obtain ⟨more, rfl⟩ := hinitial
  have hmore : 0 < more.length := by
    rw [List.length_pos_iff]
    rintro rfl
    exact hne (List.append_nil _).symm
  cases hfront : F.front buffer with
  | incomplete => rfl
  | frame length =>
    have hall := (F.frame_append more hfront).symm.trans hw
    have hle := (F.frame_bounds hfront).2
    rw [Front.frame.injEq, List.length_append] at hall
    omega
  | malformed => exact absurd ((F.malformed_append more hfront).symm.trans hw) nofun

/-! ## A stream of frames -/

/-- How many lists stand whole in the first elements of their concatenation. -/
def completed : List (List α) → ℕ → ℕ
  | [], _ => 0
  | w :: wires, received =>
    if w.length ≤ received then completed wires (received - w.length) + 1 else 0

/-- What has been received behind the whole lists. -/
def tail (wires : List (List α)) (received : List α) : List α :=
  received.drop (wires.take (completed wires received.length)).flatten.length

/-- A list of which some, but not all, has been received. -/
def Incomplete (wires : List (List α)) (received : List α) : Prop :=
  tail wires received = [] ∨ ∃ w, wires[completed wires received.length]? = some w ∧
    tail wires received <+: w ∧ tail wires received ≠ w

variable {wires : List (List α)}

/-- The first list has been received. -/
lemma received_cons (w later : List α) :
    completed (w :: wires) (w ++ later).length = completed wires later.length + 1 ∧
      tail (w :: wires) (w ++ later) = tail wires later := by
  have hcompleted : completed (w :: wires) (w ++ later).length =
      completed wires later.length + 1 := by
    rw [completed, List.length_append, if_pos (Nat.le_add_right _ _), Nat.add_sub_cancel_left]
  refine ⟨hcompleted, ?_⟩
  rw [tail, hcompleted, List.take_succ_cons, List.flatten_cons, List.length_append, ← List.drop_drop,
    List.drop_left, ← tail]

/-- Not even one list has been received. -/
lemma received_part (hlength : buffer.length < w.length) :
    completed (w :: wires) buffer.length = 0 ∧ tail (w :: wires) buffer = buffer := by
  have hcompleted : completed (w :: wires) buffer.length = 0 := if_neg (Nat.not_le.mpr hlength)
  refine ⟨hcompleted, ?_⟩
  rw [tail, hcompleted]
  rfl

/-- A part of a concatenation ends in the first list or behind it. -/
lemma prefix_append_cases (h : buffer <+: w ++ more) :
    (∃ later, buffer = w ++ later ∧ later <+: more) ∨
      (buffer <+: w ∧ buffer ≠ w ∧ buffer.length < w.length) := by
  by_cases hwhole : w <+: buffer
  · obtain ⟨later, rfl⟩ := hwhole
    exact Or.inl ⟨later, rfl, (List.prefix_append_right_inj w).mp h⟩
  · have hbegin : buffer <+: w :=
      (List.prefix_or_prefix_of_prefix h (List.prefix_append w more)).resolve_right hwhole
    have hne : buffer ≠ w := by
      rintro rfl
      exact hwhole List.prefix_rfl
    exact Or.inr ⟨hbegin, hne, lt_of_le_of_ne hbegin.length_le fun h => hne (hbegin.eq_of_length h)⟩

/-- **A part of a stream of frames.**  The whole frames come out of it, and what is left is the
beginning of the next one. -/
theorem splits_of_prefix_flatten (hwires : ∀ w ∈ wires, F.Whole w)
    (hinitial : buffer <+: wires.flatten) :
    Splits F buffer (wires.take (completed wires buffer.length)) (tail wires buffer) ∧
      F.front (tail wires buffer) = .incomplete ∧ Incomplete wires buffer := by
  induction wires generalizing buffer with
  | nil =>
    obtain rfl := List.prefix_nil.mp hinitial
    exact ⟨Splits.done fun length h => absurd (F.front_nil.symm.trans h) nofun, F.front_nil,
      Or.inl rfl⟩
  | cons w wires ih =>
    obtain ⟨hw, hwires⟩ := List.forall_mem_cons.mp hwires
    rcases prefix_append_cases hinitial with ⟨later, rfl, hlater⟩ | ⟨hbegin, hne, hlength⟩
    · obtain ⟨hcompleted, htail⟩ := @received_cons α wires w later
      obtain ⟨hsplits, hfront, hincomplete⟩ := ih hwires hlater
      rw [Incomplete, hcompleted, htail, List.take_succ_cons]
      exact ⟨hsplits.cons hw, hfront, hincomplete⟩
    · obtain ⟨hcompleted, htail⟩ := @received_part α buffer w wires hlength
      have hfront := hw.front_prefix hbegin hne
      rw [Incomplete, hcompleted, htail]
      exact ⟨Splits.done fun length h => absurd (hfront.symm.trans h) nofun, hfront,
        Or.inr ⟨w, rfl, hbegin, hne⟩⟩

/-- **The next chunk** of a stream brings out the frames that it completes. -/
theorem Splits.next (hwires : ∀ w ∈ wires, F.Whole w)
    (hinitial : buffer ++ more <+: wires.flatten)
    (h : Splits F (tail wires buffer ++ more) frames rest) :
    wires.take (completed wires buffer.length) ++ frames =
        wires.take (completed wires (buffer ++ more).length) ∧
      rest = tail wires (buffer ++ more) := by
  obtain ⟨hbefore, -, -⟩ := splits_of_prefix_flatten hwires ((List.prefix_append _ _).trans hinitial)
  obtain ⟨hafter, -, -⟩ := splits_of_prefix_flatten hwires hinitial
  exact (hbefore.append h).unique hafter

/-- At the beginning of the stream nothing has come out. -/
theorem completed_nil (hwires : ∀ w ∈ wires, F.Whole w) : completed wires 0 = 0 := by
  cases wires with
  | nil => rfl
  | cons w wires =>
    have hpos := (F.frame_bounds (hwires w List.mem_cons_self)).1
    exact if_neg (by omega)

/-- At the end of the stream all frames have come out, and nothing is left. -/
theorem completed_flatten (wires : List (List α)) :
    completed wires wires.flatten.length = wires.length ∧ tail wires wires.flatten = [] := by
  induction wires with
  | nil => exact ⟨rfl, rfl⟩
  | cons w wires ih =>
    obtain ⟨hcompleted, htail⟩ := @received_cons α wires w wires.flatten
    rw [List.flatten_cons, hcompleted, htail, List.length_cons, ih.1]
    exact ⟨rfl, ih.2⟩

end Framing
