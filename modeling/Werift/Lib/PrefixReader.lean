import Mathlib

/-!
# Readers of byte strings

A reader takes a value from the front of a byte string and leaves the rest, or fails.  It is `Stable` if
bytes behind those that it has been given change nothing but the rest: either it has failed for want of
bytes, or it does the same with more of them.  Every reader that is put together from stable readers is
stable, and a stable reader that needs all bytes of a string fails for want of bytes on each proper prefix
(`Stable.short_of_split`).
-/

namespace PrefixReader

universe u

variable {ε : Type*} {α β σ : Type u} (short : ε → Prop)

/-- What becomes of the outcome `r` when the bytes `post` are put behind the input. -/
inductive Continues (post : List σ) : Except ε (α × List σ) → Except ε (α × List σ) → Prop
  | short {e : ε} {r : Except ε (α × List σ)} (h : short e) : Continues post (.error e) r
  | error (e : ε) : Continues post (.error e) (.error e)
  | ok (a : α) (rest : List σ) : Continues post (.ok (a, rest)) (.ok (a, rest ++ post))

/-- More bytes behind the input change nothing but the rest. -/
def Stable (read : List σ → Except ε (α × List σ)) : Prop :=
  ∀ bytes post, Continues short post (read bytes) (read (bytes ++ post))

variable {short}

/-- One reader behind another. -/
theorem Continues.bind {post : List σ} {r r' : Except ε (α × List σ)} (h : Continues short post r r')
    {next next' : α × List σ → Except ε (β × List σ)}
    (hnext : ∀ a rest, Continues short post (next (a, rest)) (next' (a, rest ++ post))) :
    Continues short post (r >>= next) (r' >>= next') := by
  cases h with
  | short h => exact .short h
  | error e => exact .error e
  | ok a rest => exact hnext a rest

/-- **Proper prefixes.**  A stable reader that leaves nothing of a string fails for want of bytes on each
proper prefix of it. -/
theorem Stable.short_of_split {read : List σ → Except ε (α × List σ)} (h : Stable short read) {a : α}
    {pre post : List σ} (hread : read (pre ++ post) = .ok (a, [])) (hpost : post ≠ []) :
    ∃ e, short e ∧ read pre = .error e := by
  have hcontinues := h pre post
  rw [hread] at hcontinues
  generalize hpre : read pre = r at hcontinues
  generalize hfull : (Except.ok (a, []) : Except ε (α × List σ)) = r' at hcontinues
  cases hcontinues with
  | short h => exact ⟨_, h, rfl⟩
  | error e => cases hfull
  | ok b rest =>
    have hrest := (Prod.mk.inj (Except.ok.inj hfull)).2
    exact absurd (List.append_eq_nil_iff.mp hrest.symm).2 hpost

end PrefixReader
