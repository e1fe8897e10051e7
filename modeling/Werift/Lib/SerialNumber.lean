import Mathlib

/-!
# Serial-number arithmetic

A counter that only ever grows is often sent in a field of finite width: the number `u` is sent as
its remainder modulo `2 * h`, and the receiver compares two such remainders on the circle.  This
file relates the two views.  `wire h u` is the remainder of `u`, `gt h a b` is the comparison on
the circle, and `gt_wire_iff` says that the comparison is exact as long as the two numbers are less
than half the circle apart.

Numbers start at `-1` (the predecessor of the first one): the truncated remainder leaves `-1` alone,
so that `-1` stands for the number before `0` although no field can hold it.
-/

namespace SerialNumber

/-- The value of the number `u` on a circle of `2 * h` values. -/
def wire (h u : ℤ) : ℤ := u.tmod (2 * h)

/-- `a` lies ahead of `b` on a circle of `2 * h` values. -/
def gt (h a b : ℤ) : Prop := (a < b ∧ h < b - a) ∨ (b < a ∧ a - b < h)

instance (h a b : ℤ) : Decidable (gt h a b) := inferInstanceAs (Decidable (_ ∨ _))

/-- Being ahead on the circle is irreflexive. -/
lemma not_gt_self (h a : ℤ) : ¬ gt h a a := by
  unfold gt
  omega

/-- A nonnegative number is sent as its remainder. -/
lemma wire_of_nonneg {h u : ℤ} (hu : 0 ≤ u) : wire h u = u % (2 * h) :=
  Int.tmod_eq_emod_of_nonneg hu

/-- The predecessor of the first number is left alone. -/
lemma wire_neg_one {h : ℤ} (hh : 0 < h) : wire h (-1) = -1 := by
  unfold wire
  rw [Int.neg_tmod, Int.tmod_eq_emod_of_nonneg (by decide), Int.emod_eq_of_lt (by decide) (by omega)]

/-- Numbers of the first lap are sent as they are. -/
lemma wire_of_lt {h u : ℤ} (hu : -1 ≤ u) (hlt : u < 2 * h) (hh : 0 < h) : wire h u = u := by
  rcases hu.eq_or_lt with rfl | hu
  · exact wire_neg_one hh
  · rw [wire_of_nonneg (by omega), Int.emod_eq_of_lt (by omega) hlt]

/-- The value of a nonnegative number is a value of the field. -/
lemma wire_mem {h u : ℤ} (hh : 0 < h) (hu : 0 ≤ u) : 0 ≤ wire h u ∧ wire h u < 2 * h := by
  rw [wire_of_nonneg hu]
  exact ⟨Int.emod_nonneg _ (by omega), Int.emod_lt_of_pos _ (by omega)⟩

/-- Every number is its value plus a whole number of laps. -/
lemma exists_lap (h : ℤ) (u : ℤ) : ∃ q, u = 2 * h * q + wire h u :=
  ⟨u.tdiv (2 * h), (Int.mul_tdiv_add_tmod u (2 * h)).symm⟩

/-- Values are at least `-1`, and `-1` is the value of no number but `-1`. -/
lemma wire_bounds {h u : ℤ} (hh : 0 < h) (hu : -1 ≤ u) :
    -1 ≤ wire h u ∧ wire h u < 2 * h ∧ (wire h u = -1 ↔ u = -1) := by
  rcases hu.eq_or_lt with rfl | hu
  · rw [wire_neg_one hh]
    omega
  · have := wire_mem hh (show 0 ≤ u by omega)
    omega

/-- Two numbers less than `2 * h` apart lie on the same lap or on neighbouring ones. -/
lemma lap_cases {h q q' r r' : ℤ} (hh : 0 < h) (hr : -1 ≤ r) (hr' : -1 ≤ r') (hlt : r < 2 * h)
    (hlt' : r' < 2 * h) (hd : |(2 * h * q + r) - (2 * h * q' + r')| < 2 * h) :
    q = q' ∨ 2 * h * q = 2 * h * q' + 2 * h ∨ 2 * h * q' = 2 * h * q + 2 * h ∨
      2 * h * q = 2 * h * q' + 4 * h ∨ 2 * h * q' = 2 * h * q + 4 * h := by
  rw [abs_lt] at hd
  have hlow : 2 * h * (q - q') < 2 * h * 3 := by linarith
  have hhigh : 2 * h * (q' - q) < 2 * h * 3 := by linarith
  have h2 : (0 : ℤ) < 2 * h := by omega
  have h3 : q - q' < 3 := lt_of_mul_lt_mul_left hlow h2.le
  have h4 : q' - q < 3 := lt_of_mul_lt_mul_left hhigh h2.le
  obtain hq | hq | hq | hq | hq : q = q' ∨ q = q' + 1 ∨ q' = q + 1 ∨ q = q' + 2 ∨ q' = q + 2 := by
    omega
  · exact Or.inl hq
  · exact Or.inr (Or.inl (by subst hq; ring))
  · exact Or.inr (Or.inr (Or.inl (by subst hq; ring)))
  · exact Or.inr (Or.inr (Or.inr (Or.inl (by subst hq; ring))))
  · exact Or.inr (Or.inr (Or.inr (Or.inr (by subst hq; ring))))

/-- **Comparison on the circle is exact.**  For numbers less than half the circle apart the one
sent ahead is the larger one. -/
theorem gt_wire_iff {h u v : ℤ} (hh : 1 < h) (hu : -1 ≤ u) (hv : -1 ≤ v) (hd : |u - v| < h) :
    gt h (wire h u) (wire h v) ↔ v < u := by
  obtain ⟨q, hq⟩ := exists_lap h u
  obtain ⟨q', hq'⟩ := exists_lap h v
  have hpos : 0 < h := by omega
  obtain ⟨hu1, hu2, hu3⟩ := wire_bounds hpos hu
  obtain ⟨hv1, hv2, hv3⟩ := wire_bounds hpos hv
  have hd' : |u - v| < 2 * h := by omega
  have hcases : q = q' ∨ 2 * h * q = 2 * h * q' + 2 * h ∨ 2 * h * q' = 2 * h * q + 2 * h ∨
      2 * h * q = 2 * h * q' + 4 * h ∨ 2 * h * q' = 2 * h * q + 4 * h :=
    lap_cases hpos hu1 hv1 hu2 hv2 (by rwa [← hq, ← hq'])
  rw [abs_lt] at hd
  unfold gt
  rcases hcases with rfl | hlap | hlap | hlap | hlap <;> constructor <;> intro hlt <;> omega

/-- Numbers less than a whole circle apart are told apart by their values. -/
theorem wire_inj {h u v : ℤ} (hh : 0 < h) (hu : -1 ≤ u) (hv : -1 ≤ v) (hd : |u - v| < 2 * h) :
    wire h u = wire h v ↔ u = v := by
  refine ⟨fun heq => ?_, fun heq => by rw [heq]⟩
  obtain ⟨q, hq⟩ := exists_lap h u
  obtain ⟨q', hq'⟩ := exists_lap h v
  obtain ⟨hu1, hu2, hu3⟩ := wire_bounds hh hu
  obtain ⟨hv1, hv2, hv3⟩ := wire_bounds hh hv
  have hcases : q = q' ∨ 2 * h * q = 2 * h * q' + 2 * h ∨ 2 * h * q' = 2 * h * q + 2 * h ∨
      2 * h * q = 2 * h * q' + 4 * h ∨ 2 * h * q' = 2 * h * q + 4 * h :=
    lap_cases hh hu1 hv1 hu2 hv2 (by rwa [← hq, ← hq'])
  rw [abs_lt] at hd
  rcases hcases with rfl | hlap | hlap | hlap | hlap <;> omega

/-- The value of the next number is the successor of the value on the circle. -/
theorem wire_succ {h u : ℤ} (hh : 0 < h) (hu : -1 ≤ u) :
    wire h (u + 1) = (wire h u + 1).tmod (2 * h) := by
  rcases hu.eq_or_lt with rfl | hu
  · rw [wire_neg_one hh]
    rfl
  · have hmem := wire_mem hh (show 0 ≤ u by omega)
    rw [wire_of_nonneg (by omega), Int.tmod_eq_emod_of_nonneg (by omega),
      wire_of_nonneg (show 0 ≤ u by omega), Int.emod_add_emod]

end SerialNumber
