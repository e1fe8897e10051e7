import Mathlib
import Werift.Lib.Except

/-!
# Readers that move an offset

A reader takes a value from a byte string at an offset, and says where it ends, or fails.  It is `Local` if
what it has read lies within the string and does not depend on what stands behind the string, and it reads a
field as a value (`ReadsAs`) if it does so wherever the field stands.  Both are kept when readers are put one
behind the other; and a local reader that reads a field fails on each proper part of its front
(`ReadsAs.throws`).
-/

namespace OffsetReader

variable {ε : Type*} {α β σ : Type}

/-- What has been read lies within the bytes, and more bytes behind them change nothing. -/
def Local (read : List σ → ℕ → Except ε (α × ℕ)) : Prop :=
  ∀ ⦃bytes offset a offset'⦄, offset ≤ bytes.length → read bytes offset = .ok (a, offset') →
    offset' ≤ bytes.length ∧ ∀ more, read (bytes ++ more) offset = .ok (a, offset')

/-- The field is read as `a`, wherever it stands. -/
def ReadsAs (read : List σ → ℕ → Except ε (α × ℕ)) (field : List σ) (a : α) : Prop :=
  ∀ pre rest, read (pre ++ (field ++ rest)) pre.length = .ok (a, pre.length + field.length)

/-- Nothing is read. -/
def return' (a : α) : List σ → ℕ → Except ε (α × ℕ) := fun _ offset => .ok (a, offset)

/-- One reader behind the other. -/
def andThen (read : List σ → ℕ → Except ε (α × ℕ)) (next : α → List σ → ℕ → Except ε (β × ℕ)) :
    List σ → ℕ → Except ε (β × ℕ) :=
  fun bytes offset => read bytes offset >>= fun r => next r.1 bytes r.2

/-- The next `n` bytes, if they are there. -/
def octets (fail : ℕ → ℕ → ε) (n : ℕ) : List σ → ℕ → Except ε (List σ × ℕ) := fun bytes offset =>
  if bytes.length < offset + n then .error (fail (offset + n) bytes.length)
  else .ok ((bytes.drop offset).take n, offset + n)

variable {read : List σ → ℕ → Except ε (α × ℕ)} {next : α → List σ → ℕ → Except ε (β × ℕ)}

lemma local_return (a : α) : Local (return' a : List σ → ℕ → Except ε (α × ℕ)) := by
  intro bytes offset a' offset' hle h
  cases h
  exact ⟨hle, fun _ => rfl⟩

lemma Local.andThen (hread : Local read) (hnext : ∀ a, Local (next a)) : Local (andThen read next) := by
  intro bytes offset b offset'' hle h
  rw [OffsetReader.andThen] at h
  obtain ⟨⟨a, offset'⟩, hfirst, hsecond⟩ := Except.bind_eq_ok.mp h
  obtain ⟨hle', hmore⟩ := hread hle hfirst
  obtain ⟨hle'', hmore'⟩ := hnext a hle' hsecond
  exact ⟨hle'', fun more => Except.bind_eq_ok.mpr ⟨_, hmore more, hmore' more⟩⟩

lemma local_octets (fail : ℕ → ℕ → ε) (n : ℕ) : Local (octets (σ := σ) fail n) := by
  intro bytes offset field offset' hle h
  rw [octets] at h
  split_ifs at h with hlength
  cases h
  refine ⟨Nat.not_lt.mp hlength, fun more => ?_⟩
  have hlength' : offset + n ≤ bytes.length := Nat.not_lt.mp hlength
  rw [octets, if_neg (by rw [List.length_append]; omega), List.drop_append_of_le_length hle,
    List.take_append_of_le_length (by rw [List.length_drop]; omega)]

lemma reads_return (a : α) : ReadsAs (return' a : List σ → ℕ → Except ε (α × ℕ)) [] a :=
  fun _ _ => rfl

lemma ReadsAs.andThen {a : α} {b : β} {field field' : List σ} (hread : ReadsAs read field a)
    (hnext : ReadsAs (next a) field' b) : ReadsAs (andThen read next) (field ++ field') b := by
  intro pre rest
  have hsecond := hnext (pre ++ field) rest
  rw [List.append_assoc, List.length_append] at hsecond
  rw [OffsetReader.andThen, List.append_assoc, hread pre (field' ++ rest), Except.ok_bind, hsecond,
    List.length_append, Nat.add_assoc]

/-- What has been read, in another form. -/
lemma ReadsAs.map {a : α} {b : β} {f : α → β} {field : List σ} (hread : ReadsAs read field a) (heq : f a = b) :
    ReadsAs (OffsetReader.andThen read fun a => return' (f a)) field b := by
  have h : ReadsAs (OffsetReader.andThen read fun a => return' (f a)) (field ++ []) (f a) :=
    hread.andThen (reads_return (f a))
  rwa [List.append_nil, heq] at h

lemma reads_octets (fail : ℕ → ℕ → ε) (field : List σ) : ReadsAs (octets fail field.length) field field := by
  intro pre rest
  rw [octets, if_neg (by simp only [List.length_append]; omega), List.drop_left, List.take_left]

/-- **Proper parts of the front.** -/
lemma ReadsAs.throws {a : α} {field pre post : List σ} (hreads : ReadsAs read field a) (hlocal : Local read)
    (hfield : field = pre ++ post) (hpost : post ≠ []) : ∃ e, read pre 0 = .error e := by
  cases h : read pre 0 with
  | error e => exact ⟨e, rfl⟩
  | ok r =>
    obtain ⟨hle, hmore⟩ := hlocal (Nat.zero_le _) h
    have hfull := hreads [] []
    rw [List.nil_append, List.append_nil, List.length_nil, hfield, hmore post] at hfull
    have hoffset : r.2 = 0 + (pre ++ post).length := congrArg Prod.snd (Except.ok.inj hfull)
    have hpos := List.length_pos_iff.mpr hpost
    rw [List.length_append] at hoffset
    omega

end OffsetReader
