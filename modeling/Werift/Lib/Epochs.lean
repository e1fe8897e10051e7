import Mathlib

/-!
# Logs of several epochs

A log whose entries belong to epochs, one epoch after the other, and have a position on the line.  Where
an epoch begins, the position goes on from the last entry, which need not be the furthest one.  If it is
the furthest of its epoch, and the first entry of an epoch is the first on the line as well, then later
epochs lie behind earlier ones.
-/

namespace Epochs

variable {α : Type*} {epoch : α → ℕ} {position : α → ℤ} {log : List α}

/-- The entry `i` of a log that is one entry longer. -/
lemma getElem?_concat {x y : α} {i : ℕ} (h : (log ++ [x])[i]? = some y) :
    (i < log.length ∧ log[i]? = some y) ∨ (i = log.length ∧ y = x) := by
  rcases Nat.lt_or_ge i log.length with hlt | hge
  · rw [List.getElem?_append_left hlt] at h
    exact Or.inl ⟨hlt, h⟩
  · rw [List.getElem?_append_right hge] at h
    have hzero : i - log.length < 1 := (List.getElem?_eq_some_iff.mp h).1
    obtain rfl := List.mem_singleton.mp (List.mem_of_getElem? h)
    exact Or.inr ⟨by omega, rfl⟩

/-- Something holds of each two neighbours of a log. -/
def Neighbours (r : α → α → Prop) (log : List α) : Prop :=
  ∀ i a b, log[i]? = some a → log[i + 1]? = some b → r a b

lemma neighbours_nil (r : α → α → Prop) : Neighbours r ([] : List α) :=
  fun _ _ _ h => absurd h (by simp)

/-- A new entry has one neighbour. -/
lemma Neighbours.concat {r : α → α → Prop} (h : Neighbours r log) {x : α}
    (hlast : ∀ a, log.getLast? = some a → r a x) : Neighbours r (log ++ [x]) := by
  intro i a b ha hb
  rcases getElem?_concat hb with ⟨hi, hb⟩ | ⟨hi, rfl⟩
  · rw [List.getElem?_append_left (by omega)] at ha
    exact h i a b ha hb
  · rw [List.getElem?_append_left (by omega)] at ha
    refine hlast a ?_
    rw [List.getLast?_eq_getElem?, ← hi, Nat.add_sub_cancel]
    exact ha

/-- Where an epoch begins between the entries `i` and `j`, the entry before it is the furthest of its
epoch so far, and the first entry of the new epoch is not behind a later one. -/
def InOrder (epoch : α → ℕ) (position : α → ℤ) (log : List α) (i j : ℕ) : Prop :=
  ∀ k a b, i ≤ k → k < j → log[k]? = some a → log[k + 1]? = some b → epoch a ≠ epoch b →
    (∀ m c, i ≤ m → m ≤ k → log[m]? = some c → epoch c = epoch a → position c ≤ position a) ∧
    ∀ m c, k < m → m ≤ j → log[m]? = some c → epoch c = epoch b → position b ≤ position c

/-- Behind the entry `i`, an entry is of its epoch, or of one whose first entry is further. -/
lemma first_of_epoch (hstep : Neighbours (fun a b => epoch a ≠ epoch b →
      position b = position a + 1) log) {i j : ℕ} {a : α} (hi : log[i]? = some a)
    (horder : InOrder epoch position log i j) {m : ℕ} {c : α} (him : i ≤ m) (hmj : m ≤ j)
    (hm : log[m]? = some c) :
    epoch c = epoch a ∨ ∃ k b d, i ≤ k ∧ k < m ∧ log[k]? = some d ∧ log[k + 1]? = some b ∧
      epoch d ≠ epoch b ∧ epoch b = epoch c ∧ position a < position b := by
  induction m, him using Nat.le_induction generalizing c with
  | base =>
    obtain rfl := Option.some.inj (hi.symm.trans hm)
    exact Or.inl rfl
  | succ m him ih =>
    obtain ⟨d, hd⟩ : ∃ d, log[m]? = some d :=
      ⟨_, List.getElem?_eq_getElem (Nat.lt_of_succ_lt (List.getElem?_eq_some_iff.mp hm).1)⟩
    have hbefore := ih (by omega) hd
    by_cases hsame : epoch d = epoch c
    · rcases hbefore with heq | ⟨k, b, e, hik, hkm, hk, hk', hne, hb, hlt⟩
      · exact Or.inl (hsame ▸ heq)
      · exact Or.inr ⟨k, b, e, hik, by omega, hk, hk', hne, hb.trans hsame, hlt⟩
    · -- the entry `m` is the last one of its epoch, and not behind the entry `i`
      have hnext := hstep m d c hd hm hsame
      have hle : position a ≤ position d := by
        rcases hbefore with heq | ⟨k, b, e, hik, hkm, hk, hk', hne, hb, hlt⟩
        · exact (horder m d c him (by omega) hd hm hsame).1 i a le_rfl him hi heq.symm
        · have hfirst := (horder k e b hik (by omega) hk hk' hne).2 m d hkm (by omega) hd hb.symm
          omega
      exact Or.inr ⟨m, c, d, him, by omega, hd, hm, hsame, rfl, by omega⟩

/-- **Later epochs lie behind earlier ones.** -/
theorem lt_of_inOrder (hstep : Neighbours (fun a b => epoch a ≠ epoch b →
      position b = position a + 1) log) {i j : ℕ} {a b : α} (hij : i ≤ j) (hi : log[i]? = some a)
    (hj : log[j]? = some b) (horder : InOrder epoch position log i j) (hne : epoch a ≠ epoch b) :
    position a < position b := by
  rcases first_of_epoch hstep hi horder hij le_rfl hj with heq | ⟨k, f, d, hik, hkj, hk, hk', hnew, hf, hlt⟩
  · exact absurd heq.symm hne
  · have hfirst := (horder k d f hik hkj hk hk' hnew).2 j b hkj le_rfl hj hf.symm
    omega

end Epochs
