import Mathlib

/-!
# A component with one timer

A scheduler hands out handles of timers, each with a delay.  A component that sets a timer only when it holds none,
and forgets the handle of one that fires or that it clears, never has more than one pending (`Holds`).
-/

namespace OneTimer

variable {δ : Type*}

/-- A scheduler: the number of handles that it has handed out, and the timers that have not fired. -/
structure Timers (δ : Type*) where
  count : ℕ := 0
  pending : List (ℕ × δ) := []

/-- A new timer. -/
def Timers.setTimeout (timers : Timers δ) (delay : δ) : ℕ × Timers δ :=
  (timers.count, ⟨timers.count + 1, timers.pending ++ [(timers.count, delay)]⟩)

/-- A timer that fires, or that is cleared. -/
def Timers.clearTimeout (timers : Timers δ) (handle : ℕ) : Timers δ :=
  { timers with pending := timers.pending.filter fun timer => timer.1 ≠ handle }

/-- The timer that the component holds is the only one pending. -/
def Holds (handle : Option ℕ) (timers : Timers δ) : Prop := timers.pending.map Prod.fst = handle.toList

variable {timers : Timers δ} {handle : ℕ}

lemma holds_empty : Holds none ({} : Timers δ) := rfl

lemma Holds.setTimeout (h : Holds none timers) (delay : δ) :
    Holds (some (timers.setTimeout delay).1) (timers.setTimeout delay).2 := by
  have hnil : timers.pending = [] := List.map_eq_nil_iff.mp h
  rw [Timers.setTimeout, Holds, hnil]
  rfl

lemma Holds.clearTimeout (h : Holds (some handle) timers) : Holds none (timers.clearTimeout handle) := by
  have hfilter : timers.pending.filter (fun timer => timer.1 ≠ handle) = [] := by
    refine List.filter_eq_nil_iff.mpr fun timer htimer => ?_
    have hmem : timer.1 ∈ timers.pending.map Prod.fst := List.mem_map_of_mem htimer
    rw [h, Option.toList_some, List.mem_singleton] at hmem
    simp [hmem]
  rw [Timers.clearTimeout, Holds, hfilter]
  rfl

/-- The timer that fires is the one that the component holds. -/
lemma Holds.eq_of_mem {held : Option ℕ} (h : Holds held timers) (hmem : handle ∈ timers.pending.map Prod.fst) :
    held = some handle := by
  rw [h, Option.mem_toList] at hmem
  exact hmem

lemma Holds.length (h : Holds (some handle) timers) : timers.pending.length = 1 := by
  rw [← List.length_map (f := Prod.fst), h]
  rfl

end OneTimer
