import Mathlib

/-!
# Bits of a buffer

The bits of a buffer are counted from the most significant bit of the first byte on.  A number of some bits
is written and read bit by bit, the most significant one first.
-/

namespace BitBuffer

variable {buf : List UInt8} {i j k position length value : ℕ}

/-- The bit at a position; beyond the end it reads `false`. -/
def bit (buf : List UInt8) (k : ℕ) : Bool := (buf.getD (k / 8) 0).toNat.testBit (7 - k % 8)

/-- Set the bit at a position. -/
def setBit (buf : List UInt8) (k : ℕ) : List UInt8 :=
  buf.modify (k / 8) (· ||| UInt8.ofNat (2 ^ (7 - k % 8)))

@[simp] lemma length_setBit (buf : List UInt8) (k : ℕ) : (setBit buf k).length = buf.length :=
  List.length_modify ..

@[simp] lemma bit_replicate_zero (n k : ℕ) : bit (List.replicate n 0) k = false := by
  have hzero : (List.replicate n (0 : UInt8)).getD (k / 8) 0 = 0 := by
    rw [List.getD_eq_getElem?_getD, List.getElem?_replicate]
    split_ifs <;> rfl
  rw [bit, hzero]
  exact Nat.zero_testBit _

/-- A bit behind a first buffer. -/
lemma bit_append_right (first rest : List UInt8) (k : ℕ) :
    bit (first ++ rest) (8 * first.length + k) = bit rest k := by
  have hdiv : (8 * first.length + k) / 8 = first.length + k / 8 := by omega
  have hmod : (8 * first.length + k) % 8 = k % 8 := by omega
  rw [bit, bit, hdiv, hmod, List.getD_append_right _ _ _ _ (Nat.le_add_right _ _), Nat.add_sub_cancel_left]

/-- A byte with one bit more. -/
lemma testBit_or_twoPow (b : UInt8) {n m : ℕ} (hn : n < 8) :
    (b ||| UInt8.ofNat (2 ^ n)).toNat.testBit m = (decide (m = n) || b.toNat.testBit m) := by
  have hfits : 2 ^ n < 256 := Nat.pow_lt_pow_right (n := 8) (by decide) hn
  have hpow : (UInt8.ofNat (2 ^ n)).toNat = 2 ^ n := by
    rw [UInt8.toNat_ofNat']
    exact Nat.mod_eq_of_lt hfits
  rw [UInt8.toNat_or, hpow, Nat.testBit_or, Nat.testBit_two_pow, Bool.or_comm]
  congr 1
  exact decide_eq_decide.mpr eq_comm

/-- **Setting a bit** sets this bit. -/
lemma bit_setBit (hk : k < 8 * buf.length) : bit (setBit buf k) j = (decide (j = k) || bit buf j) := by
  have hbyte : k / 8 < buf.length := by omega
  rw [bit, bit, setBit, List.getD_eq_getElem?_getD, List.getElem?_modify]
  by_cases hsame : k / 8 = j / 8
  · rw [← hsame, List.getElem?_eq_getElem hbyte, Option.map_eq_map, Option.map_some, if_pos rfl,
      Option.getD_some, testBit_or_twoPow _ (by omega), List.getD_eq_getElem _ _ hbyte]
    congr 1
    exact decide_eq_decide.mpr (by omega)
  · have hother : j ≠ k := fun h => hsame (by rw [h])
    simp only [if_neg hsame, Option.map_eq_map, Option.map_id_fun']
    rw [decide_eq_false hother, Bool.false_or, List.getD_eq_getElem?_getD]
    rfl

/-! ## Numbers -/

/-- Write a number bit by bit. -/
def write (buf : List UInt8) (position length value : ℕ) : List UInt8 :=
  (List.range length).foldl
    (fun buf i => if value.testBit (length - 1 - i) then setBit buf (position + i) else buf) buf

/-- The number of the bits of `f` at a position. -/
def number (f : ℕ → Bool) (position : ℕ) : ℕ → ℕ
  | 0 => 0
  | length + 1 => 2 * number f position length + (f (position + length)).toNat

/-- Setting some bits one after the other. -/
lemma bit_foldl_setBit (f : ℕ → Bool) (hroom : position + length ≤ 8 * buf.length) :
    ((List.range length).foldl (fun buf i => if f i then setBit buf (position + i) else buf) buf).length =
      buf.length ∧
    ∀ j, bit ((List.range length).foldl (fun buf i => if f i then setBit buf (position + i) else buf) buf) j =
      (bit buf j || decide (position ≤ j ∧ j < position + length) && f (j - position)) := by
  induction length with
  | zero =>
    refine ⟨rfl, fun j => ?_⟩
    rw [decide_eq_false (by omega), Bool.false_and, Bool.or_false]
    rfl
  | succ length ih =>
    obtain ⟨hlength, hbits⟩ := ih (by omega)
    rw [List.range_succ, List.foldl_append, List.foldl_cons, List.foldl_nil]
    by_cases hf : f length = true
    · rw [if_pos hf, length_setBit]
      refine ⟨hlength, fun j => ?_⟩
      rw [bit_setBit (by rw [hlength]; omega), hbits]
      by_cases hj : j = position + length
      · rw [hj, Nat.add_sub_cancel_left, hf, decide_eq_true rfl, Bool.true_or,
          decide_eq_true (show position ≤ position + length ∧ position + length < position + (length + 1) by omega),
          Bool.true_and, Bool.or_true]
      · rw [decide_eq_false hj, Bool.false_or]
        congr 2
        exact decide_eq_decide.mpr (by omega)
    · rw [if_neg hf]
      refine ⟨hlength, fun j => ?_⟩
      rw [hbits]
      by_cases hj : j = position + length
      · rw [hj, Nat.add_sub_cancel_left, Bool.eq_false_of_not_eq_true hf, Bool.and_false, Bool.and_false]
      · congr 2
        exact decide_eq_decide.mpr (by omega)

lemma length_write (hroom : position + length ≤ 8 * buf.length) :
    (write buf position length value).length = buf.length := (bit_foldl_setBit _ hroom).1

/-- **Writing** sets the bits of the number. -/
lemma bit_write (hroom : position + length ≤ 8 * buf.length) (j : ℕ) :
    bit (write buf position length value) j = (bit buf j ||
      decide (position ≤ j ∧ j < position + length) && value.testBit (length - 1 - (j - position))) :=
  (bit_foldl_setBit (fun i => value.testBit (length - 1 - i)) hroom).2 j

/-- Writing zero does nothing. -/
lemma write_zero (buf : List UInt8) (position length : ℕ) : write buf position length 0 = buf := by
  have hbits : ∀ i, ¬(0 : ℕ).testBit i = true := fun i => by
    rw [Nat.zero_testBit]
    exact Bool.false_ne_true
  rw [write]
  induction List.range length with
  | nil => rfl
  | cons i l ih => rw [List.foldl_cons, if_neg (hbits _), ih]

/-- Numbers of equal bits are equal. -/
lemma number_congr {f g : ℕ → Bool} {position' : ℕ}
    (h : ∀ i < length, f (position + i) = g (position' + i)) :
    number f position length = number g position' length := by
  induction length with
  | zero => rfl
  | succ length ih => rw [number, number, ih fun i hi => h i (by omega), h length (Nat.lt_succ_self _)]

/-- **The number of the bits of a value** is the value. -/
lemma number_testBit (position length value : ℕ) :
    number (fun j => value.testBit (length - 1 - (j - position))) position length = value % 2 ^ length := by
  induction length generalizing value with
  | zero => rw [number, pow_zero, Nat.mod_one]
  | succ length ih =>
    have hhigh : number (fun j => value.testBit (length + 1 - 1 - (j - position))) position length =
        value / 2 % 2 ^ length := by
      rw [← ih (value / 2)]
      refine number_congr fun i hi => ?_
      have hindex : length + 1 - 1 - (position + i - position) =
          length - 1 - (position + i - position) + 1 := by omega
      rw [hindex, Nat.testBit_succ]
    have hlow : (value.testBit (length + 1 - 1 - (position + length - position))).toNat = value % 2 := by
      have hindex : length + 1 - 1 - (position + length - position) = 0 := by omega
      rw [hindex, Nat.testBit_zero]
      rcases Nat.mod_two_eq_zero_or_one value with h | h <;> rw [h] <;> rfl
    rw [number, hhigh, hlow, pow_succ', Nat.mod_mul, Nat.add_comm]

/-- No bits, no number. -/
lemma number_eq_zero {f : ℕ → Bool} (h : ∀ i < length, f (position + i) = false) :
    number f position length = 0 := by
  induction length with
  | zero => rfl
  | succ length ih => rw [number, ih fun i hi => h i (by omega), h length (Nat.lt_succ_self _)]; rfl

end BitBuffer
