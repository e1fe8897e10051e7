import Werift.Lib.BoundedHistory

/-!
# Redundant transmission

Packet `p` carries the elements `p - d, …, p`.  Packets are lost, never more than `d` in a row, and
come out of order, never `R` places or more.  Whoever takes each element from the first packet that
carries it gets every element once.  A bounded history of the keys of what has been taken is enough
for that if it is long enough for `d` and `R` and if the keys come again late enough.
-/

namespace Redundancy

open BoundedHistory

variable {σ : ℕ → ℕ} {d R n M : ℕ} {i b x y p : ℕ}

/-- The packets `σ 0, σ 1, …` arrive in this order. -/
structure Arrivals (σ : ℕ → ℕ) (d R : ℕ) : Prop where
  positive : 0 < R
  injective : Function.Injective σ
  /-- A packet comes less than `R` places after its time. -/
  bounded : ∀ i j, i < j → σ i < σ j + R
  /-- Of `d + 1` packets in a row one arrives. -/
  noGap : ∀ b, ∃ i, b ≤ σ i ∧ σ i ≤ b + d

/-- The packet that arrives as number `i` carries the element `b`. -/
def Carries (σ : ℕ → ℕ) (d i b : ℕ) : Prop := b ≤ σ i ∧ σ i ≤ b + d

/-- The elements that the packet `p` carries. -/
def carried (d p : ℕ) : List ℕ := List.range' (p - d) (p + 1 - (p - d))

lemma mem_carried : b ∈ carried d p ↔ b ≤ p ∧ p ≤ b + d := by
  rw [carried, List.mem_range'_1]
  omega

/-- What has been taken before the arrival `i`, in the order of taking. -/
def deliveredBefore (σ : ℕ → ℕ) (d : ℕ) : ℕ → List ℕ
  | 0 => []
  | i + 1 => collect (deliveredBefore σ d i) (carried d (σ i))

/-- What is taken from the arrival `i`. -/
def delivered (σ : ℕ → ℕ) (d i : ℕ) : List ℕ :=
  (deliveredBefore σ d (i + 1)).drop (deliveredBefore σ d i).length

lemma mem_deliveredBefore : b ∈ deliveredBefore σ d i ↔ ∃ j < i, Carries σ d j b := by
  induction i with
  | zero => simp [deliveredBefore]
  | succ i ih =>
    rw [deliveredBefore, mem_collect, ih, mem_carried]
    constructor
    · rintro (⟨j, hj, hb⟩ | hb)
      · exact ⟨j, by omega, hb⟩
      · exact ⟨i, by omega, hb⟩
    · rintro ⟨j, hj, hb⟩
      obtain hlt | rfl := Nat.lt_succ_iff_lt_or_eq.mp hj
      · exact .inl ⟨j, hlt, hb⟩
      · exact .inr hb

lemma nodup_deliveredBefore : (deliveredBefore σ d i).Nodup := by
  induction i with
  | zero => exact .nil
  | succ i ih => exact nodup_collect ih

/-- Elements in the order in which they have been taken, the last ones from the arrival `i`. -/
def Ordered (σ : ℕ → ℕ) (d i : ℕ) (l : List ℕ) : Prop :=
  l.Pairwise fun a b => ∃ j k, j ≤ k ∧ k ≤ i ∧ Carries σ d j a ∧ Carries σ d k b

/-- Elements of one arrival come behind those of the arrivals before it. -/
lemma ordered_collect {pre : List ℕ} (hpre : ∀ b ∈ pre, Carries σ d i b)
    (hold : Ordered σ d i (deliveredBefore σ d i)) :
    Ordered σ d i (collect (deliveredBefore σ d i) pre) := by
  obtain ⟨new, heq, hnew, -⟩ := collect_eq_append (deliveredBefore σ d i) pre
  rw [Ordered, heq, List.pairwise_append]
  refine ⟨hold, List.pairwise_of_forall_mem_list fun a ha b hb => ?_, fun a ha b hb => ?_⟩
  · exact ⟨i, i, le_rfl, le_rfl, hpre a (hnew a ha).1, hpre b (hnew b hb).1⟩
  · obtain ⟨j, hj, hcarries⟩ := mem_deliveredBefore.mp ha
    exact ⟨j, i, hj.le, le_rfl, hcarries, hpre b (hnew b hb).1⟩

lemma ordered_deliveredBefore : Ordered σ d i (deliveredBefore σ d i) := by
  induction i with
  | zero => exact .nil
  | succ i ih =>
    have hstep : Ordered σ d i (collect (deliveredBefore σ d i) (carried d (σ i))) :=
      ordered_collect (fun b hb => mem_carried.mp hb) ih
    exact hstep.imp fun ⟨j, k, hjk, hk, ha, hb⟩ => ⟨j, k, hjk, by omega, ha, hb⟩

/-- An element is among the last ones if few elements come behind it. -/
lemma mem_recent_iff {l : List ℕ} : x ∈ recent n l ↔
    ∃ l₁ l₂, l = l₁ ++ x :: l₂ ∧ l₂.length < n := by
  constructor
  · intro hx
    obtain ⟨l₁, l₂, heq⟩ := List.append_of_mem hx
    refine ⟨l.take (l.length - n) ++ l₁, l₂, ?_, ?_⟩
    · rw [List.append_assoc, ← heq]
      exact (List.take_append_drop _ _).symm
    · have hlength := length_recent n l
      rw [heq, List.length_append, List.length_cons] at hlength
      omega
  · rintro ⟨l₁, l₂, rfl, hlength⟩
    have hdrop : (l₁ ++ x :: l₂).length - n ≤ l₁.length := by
      rw [List.length_append, List.length_cons]
      omega
    rw [recent, List.drop_append_of_le_length hdrop]
    exact List.mem_append_right _ List.mem_cons_self

section

variable (harrivals : Arrivals σ d R) {l pre : List ℕ} (hl : l = collect (deliveredBefore σ d i) pre)
  (hpre : ∀ b ∈ pre, Carries σ d i b) (hx : Carries σ d i x)
include harrivals hl hpre hx

/-- **Few elements come between** an element and its next appearance. -/
lemma mem_recent_of_mem (hn : 2 * (R + d) ≤ n + 1) (hmem : x ∈ l) : x ∈ recent n l := by
  obtain ⟨l₁, l₂, heq⟩ := List.append_of_mem hmem
  have hordered : Ordered σ d i l := hl ▸ ordered_collect hpre ordered_deliveredBefore
  have hnodup : l.Nodup := hl ▸ nodup_collect nodup_deliveredBefore
  rw [Ordered, heq, List.pairwise_append, List.pairwise_cons] at hordered
  rw [heq, List.nodup_append', List.nodup_cons] at hnodup
  obtain ⟨-, ⟨hnotin, hnodup₂⟩, -⟩ := hnodup
  refine mem_recent_iff.mpr ⟨l₁, l₂, heq, ?_⟩
  have hsubset : l₂.toFinset ⊆ (Finset.Ico (x + 1 - (R + d)) (x + (R + d))).erase x := by
    intro y hy
    rw [List.mem_toFinset] at hy
    obtain ⟨j, k, hjk, hk, hxj, hyk⟩ := hordered.2.1.1 y hy
    have hne : y ≠ x := by
      rintro rfl
      exact hnotin hy
    have hpositive := harrivals.positive
    have hlow : x < y + (R + d) := by
      obtain ⟨h1, h2⟩ := hxj
      obtain ⟨h3, h4⟩ := hyk
      obtain hlt | rfl := lt_or_eq_of_le hjk
      · have := harrivals.bounded j k hlt
        omega
      · omega
    have hhigh : y < x + (R + d) := by
      obtain ⟨h1, h2⟩ := hx
      obtain ⟨h3, h4⟩ := hyk
      obtain hlt | rfl := lt_or_eq_of_le hk
      · have := harrivals.bounded k i hlt
        omega
      · omega
    rw [Finset.mem_erase, Finset.mem_Ico]
    exact ⟨hne, by omega, hhigh⟩
  have hcard := Finset.card_le_card hsubset
  have hpositive := harrivals.positive
  have hself : x ∈ Finset.Ico (x + 1 - (R + d)) (x + (R + d)) := by
    rw [Finset.mem_Ico]
    omega
  rw [List.toFinset_card_of_nodup hnodup₂, Finset.card_erase_of_mem hself, Nat.card_Ico] at hcard
  omega

/-- **What is recent is near**: of everything a lap behind, much has been taken since. -/
lemma lt_add_of_mem_recent (hM : n + 2 * (R + d) ≤ M) (hy : y ∈ recent n l) : x < y + M := by
  by_contra hfar
  obtain ⟨l₁, l₂, heq, hlength⟩ := mem_recent_iff.mp hy
  have hordered : Ordered σ d i l := hl ▸ ordered_collect hpre ordered_deliveredBefore
  rw [Ordered, heq, List.pairwise_append] at hordered
  have hpositive := harrivals.positive
  obtain ⟨hx1, hx2⟩ := hx
  have hsubset : Finset.Icc (y + (R + d)) (x - (R + d)) ⊆ l₂.toFinset := by
    intro b hb
    rw [Finset.mem_Icc] at hb
    obtain ⟨m, hm1, hm2⟩ := harrivals.noGap b
    have hm : m < i := by
      by_contra hge
      obtain hlt | rfl := lt_or_eq_of_le (not_lt.mp hge)
      · have := harrivals.bounded i m hlt
        omega
      · omega
    have hmem : b ∈ l₁ ++ y :: l₂ := by
      rw [← heq, hl, mem_collect]
      exact .inl (mem_deliveredBefore.mpr ⟨m, hm, hm1, hm2⟩)
    rw [List.mem_toFinset]
    rw [List.mem_append, List.mem_cons] at hmem
    obtain hfront | rfl | hback := hmem
    · obtain ⟨j, k, hjk, -, ⟨h1, h2⟩, h3, h4⟩ :=
        hordered.2.2 b hfront y List.mem_cons_self
      obtain hlt | rfl := lt_or_eq_of_le hjk
      · have := harrivals.bounded j k hlt
        omega
      · omega
    · omega
    · exact hback
  have hcard := (Finset.card_le_card hsubset).trans (List.toFinset_card_le l₂)
  rw [Nat.card_Icc] at hcard
  omega

/-- **The history can tell** whether an element has been taken. -/
lemma distinguishes {β : Type*} {key : ℕ → β} (hn : 2 * (R + d) ≤ n + 1)
    (hM : n + 2 * (R + d) ≤ M)
    (hkey : ∀ a b, key a = key b → a ≤ b → b < a + M → a = b) : Distinguishes key n l x := by
  refine ⟨mem_recent_of_mem harrivals hl hpre hx hn, fun y hy heq => ?_⟩
  have hlow : x < y + M := lt_add_of_mem_recent harrivals hl hpre hx hM hy
  have hhigh : y < x + M := by
    have hmem : y ∈ l := List.mem_of_mem_drop hy
    rw [hl, mem_collect, mem_deliveredBefore] at hmem
    have hpositive := harrivals.positive
    obtain ⟨h1, h2⟩ := hx
    obtain ⟨k, hk, h3, h4⟩ | hpremem := hmem
    · have := harrivals.bounded k i hk
      omega
    · obtain ⟨h3, h4⟩ := hpre y hpremem
      omega
  obtain hle | hle := le_total x y
  · exact (hkey x y heq.symm hle hhigh).symm
  · exact hkey y x heq hle hlow

end

/-- **A bounded history is enough** for one arrival. -/
theorem filterAll_carried {β : Type*} [DecidableEq β] {key : ℕ → β} {size : ℕ} {out : List ℕ}
    (harrivals : Arrivals σ d R) (hn : 2 * (R + d) ≤ size + 2) (hM : size + 1 + 2 * (R + d) ≤ M)
    (hkey : ∀ a b, key a = key b → a ≤ b → b < a + M → a = b) (i : ℕ) :
    filterAll key size (recent (size + 1) ((deliveredBefore σ d i).map key), out)
        (carried d (σ i)) =
      (recent (size + 1) ((deliveredBefore σ d (i + 1)).map key), out ++ delivered σ d i) := by
  refine filterAll_eq fun pre x post heq => ?_
  have hmem : ∀ b ∈ pre ++ x :: post, Carries σ d i b := by
    intro b hb
    rw [← heq] at hb
    exact mem_carried.mp hb
  exact distinguishes harrivals rfl (fun b hb => hmem b (List.mem_append_left _ hb))
    (hmem x (List.mem_append_right _ List.mem_cons_self)) hn hM hkey

lemma deliveredBefore_succ :
    deliveredBefore σ d (i + 1) = deliveredBefore σ d i ++ delivered σ d i := by
  obtain ⟨new, heq, -⟩ := collect_eq_append (deliveredBefore σ d i) (carried d (σ i))
  rw [delivered, deliveredBefore, heq, List.drop_left]

lemma mem_deliveredBefore_of_delivered {j : ℕ} (hij : i < j) (hb : b ∈ delivered σ d i) :
    b ∈ deliveredBefore σ d j := by
  induction j with
  | zero => exact absurd hij (Nat.not_lt_zero _)
  | succ j ih =>
    rw [deliveredBefore_succ, List.mem_append]
    obtain hlt | rfl := Nat.lt_succ_iff_lt_or_eq.mp hij
    · exact .inl (ih hlt)
    · exact .inr hb

/-- What is taken from an arrival is new, and its packet carries it. -/
lemma delivered_spec : (delivered σ d i).Nodup ∧
    ∀ b ∈ delivered σ d i, b ∉ deliveredBefore σ d i ∧ Carries σ d i b := by
  obtain ⟨new, heq, hnew, hnodup⟩ := collect_eq_append (deliveredBefore σ d i) (carried d (σ i))
  have hdelivered : delivered σ d i = new := by
    rw [delivered, deliveredBefore, heq, List.drop_left]
  rw [hdelivered]
  exact ⟨hnodup, fun b hb => ⟨(hnew b hb).2, mem_carried.mp (hnew b hb).1⟩⟩

/-- **Every element is taken exactly once.** -/
theorem existsUnique_delivered (harrivals : Arrivals σ d R) (b : ℕ) :
    ∃! i, b ∈ delivered σ d i := by
  obtain ⟨m, hm⟩ := harrivals.noGap b
  have hsome : ∃ i, b ∈ delivered σ d i := by
    have hmem : b ∈ deliveredBefore σ d (m + 1) :=
      mem_deliveredBefore.mpr ⟨m, Nat.lt_succ_self m, hm⟩
    generalize m + 1 = j at hmem
    induction j with
    | zero => exact absurd hmem List.not_mem_nil
    | succ j ih =>
      rw [deliveredBefore_succ, List.mem_append] at hmem
      obtain hold | hnew := hmem
      · exact ih hold
      · exact ⟨j, hnew⟩
  obtain ⟨i, hi⟩ := hsome
  refine ⟨i, hi, fun j hj => ?_⟩
  obtain hlt | rfl | hgt := lt_trichotomy i j
  · exact absurd (mem_deliveredBefore_of_delivered hlt hi) (delivered_spec.2 b hj).1
  · rfl
  · exact absurd (mem_deliveredBefore_of_delivered hgt hj) (delivered_spec.2 b hi).1

end Redundancy
