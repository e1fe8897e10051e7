import Mathlib

/-!
# Token buckets

Tokens drip into a bucket, at most `rate` of them per unit of time, and there are never more than `cap` in it.
What is taken out of it during an interval is then at most what has been in it and what drips into it
(`Bounded.window`).
-/

/-- A bucket: the tokens in it, the time up to which they have been counted, and what has been taken out, with
the times. -/
structure TokenBucket (K : Type*) where
  level : K
  time : K
  taken : List (K × K)

namespace TokenBucket

variable {K : Type*} [Field K] [LinearOrder K] [IsStrictOrderedRing K] {s : TokenBucket K} {rate cap : K}

/-- What has been taken out between two times. -/
def between (a b : K) (taken : List (K × K)) : K :=
  ((taken.filter fun x => a ≤ x.1 ∧ x.1 ≤ b).map Prod.snd).sum

/-- Another level at a later time. -/
def advance (s : TokenBucket K) (t level : K) : TokenBucket K := { s with level, time := t }

/-- Take some tokens out. -/
def take (s : TokenBucket K) (amount : K) : TokenBucket K :=
  { s with level := s.level - amount, taken := s.taken ++ [(s.time, amount)] }

/-- **What holds of a bucket** that at most `rate` tokens per unit of time drip into, and that holds `cap`
tokens. -/
structure Bounded (rate cap : K) (s : TokenBucket K) : Prop where
  nonneg : 0 ≤ s.level
  le_cap : s.level ≤ cap
  times : ∀ x ∈ s.taken, x.1 ≤ s.time
  since : ∀ a ≤ s.time, between a s.time s.taken + s.level ≤ cap + rate * (s.time - a)
  window : ∀ a b, a ≤ b → between a b s.taken ≤ cap + rate * (b - a)

omit [Field K] [IsStrictOrderedRing K] in
/-- A later end makes no difference for what has been taken before. -/
lemma filter_between_of_le {a b t : K} {taken : List (K × K)} (htimes : ∀ x ∈ taken, x.1 ≤ t) (hb : t ≤ b) :
    (taken.filter fun x => a ≤ x.1 ∧ x.1 ≤ b) = taken.filter fun x => a ≤ x.1 ∧ x.1 ≤ t := by
  refine List.filter_congr fun x hx => ?_
  have hle := htimes x hx
  exact decide_eq_decide.mpr (and_congr_right fun _ => iff_of_true (hle.trans hb) hle)

omit [IsStrictOrderedRing K] in
lemma between_of_le {a b t : K} {taken : List (K × K)} (htimes : ∀ x ∈ taken, x.1 ≤ t) (hb : t ≤ b) :
    between a b taken = between a t taken := by
  rw [between, between, filter_between_of_le htimes hb]

omit [IsStrictOrderedRing K] in
/-- After the last time nothing has been taken out. -/
lemma between_eq_zero {a b t : K} {taken : List (K × K)} (htimes : ∀ x ∈ taken, x.1 ≤ t) (ha : t < a) :
    between a b taken = 0 := by
  have hnone : (taken.filter fun x => a ≤ x.1 ∧ x.1 ≤ b) = [] := by
    refine List.filter_eq_nil_iff.mpr fun x hx => ?_
    rw [decide_eq_true_eq, not_and_or]
    exact .inl (not_le.mpr ((htimes x hx).trans_lt ha))
  rw [between, hnone, List.map_nil, List.sum_nil]

omit [IsStrictOrderedRing K] in
lemma between_append_singleton (a b t amount : K) (taken : List (K × K)) :
    between a b (taken ++ [(t, amount)]) =
      between a b taken + if a ≤ t ∧ t ≤ b then amount else 0 := by
  rw [between, between, List.filter_append, List.map_append, List.sum_append]
  congr 1
  by_cases h : a ≤ t ∧ t ≤ b
  · rw [List.filter_singleton, decide_eq_true h, cond_true, List.map_singleton, List.sum_singleton, if_pos h]
  · rw [List.filter_singleton, decide_eq_false h, cond_false, List.map_nil, List.sum_nil, if_neg h]

/-- An empty bucket. -/
lemma bounded_empty (hrate : 0 ≤ rate) (hcap : 0 ≤ cap) (t : K) :
    Bounded rate cap { level := 0, time := t, taken := [] } := by
  refine ⟨le_rfl, hcap, fun x hx => absurd hx List.not_mem_nil, fun a ha => ?_, fun a b hab => ?_⟩
  · have hdrip := mul_nonneg hrate (sub_nonneg.mpr ha)
    change (0 : K) + 0 ≤ _
    dsimp only at hdrip ⊢
    linarith
  · have hdrip := mul_nonneg hrate (sub_nonneg.mpr hab)
    change (0 : K) ≤ _
    linarith

/-- **Dripping**: the level grows by what the rate allows, or less. -/
lemma Bounded.advance (h : Bounded rate cap s) (hrate : 0 ≤ rate) {t level : K} (htime : s.time ≤ t)
    (hnonneg : 0 ≤ level) (hcap : level ≤ cap) (hlevel : level ≤ s.level + rate * (t - s.time)) :
    Bounded rate cap (s.advance t level) := by
  refine ⟨hnonneg, hcap, fun x hx => (h.times x hx).trans htime, fun a ha => ?_, h.window⟩
  change between a t s.taken + level ≤ cap + rate * (t - a)
  rcases le_or_gt a s.time with hbefore | hafter
  · have hsince := h.since a hbefore
    rw [between_of_le h.times htime]
    linarith
  · have hdrip := mul_nonneg hrate (sub_nonneg.mpr ha)
    rw [between_eq_zero h.times hafter]
    change 0 ≤ rate * (t - a) at hdrip
    linarith

/-- **Taking** tokens that are there. -/
lemma Bounded.take (h : Bounded rate cap s) (hrate : 0 ≤ rate) {amount : K} (hamount : 0 ≤ amount)
    (hlevel : amount ≤ s.level) : Bounded rate cap (s.take amount) := by
  refine ⟨sub_nonneg.mpr hlevel, ?_, ?_, fun a ha => ?_, fun a b hab => ?_⟩
  · exact (sub_le_self _ hamount).trans h.le_cap
  · intro x hx
    rcases List.mem_append.mp hx with hx | hx
    · exact h.times x hx
    · rw [List.mem_singleton.mp hx]
      exact le_rfl
  · have hsince := h.since a ha
    change between a s.time (s.taken ++ [(s.time, amount)]) + (s.level - amount) ≤ cap + rate * (s.time - a)
    rw [between_append_singleton, if_pos ⟨ha, le_rfl⟩]
    linarith
  · change between a b (s.taken ++ [(s.time, amount)]) ≤ _
    rw [between_append_singleton]
    split_ifs with hin
    · -- It is the last one, so that nothing has been taken between it and the end.
      have hsince := h.since a hin.1
      have hdrip := mul_nonneg hrate (sub_nonneg.mpr hin.2)
      rw [between_of_le h.times hin.2]
      linarith
    · rw [add_zero]
      exact h.window a b hab

end TokenBucket
