import Werift.Lib.Bitmap
import Werift.Lib.Transition

/-!
# The anti-replay window (`dtls/src/record/antiReplayWindow.ts`)

The window remembers which of the 64 numbers up to `ceiling` have been received, in two words of 32 bits.
A number ahead of the window shifts it: first by whole words, as long as more than 32 bits are left, then
by bits.  When exactly 32 bits are left the second shift has a count of 32, and the shift operators of the
language take counts modulo 32.

`Sliding` says that the window is the set of the numbers that have been marked.  `sliding_iff` says which
marks keep it so.
-/

namespace Werift.Dtls

open Bitmap Transition

namespace AntiReplayWindow

/-- `width`. -/
def width : ℕ := 64

/-- `INT_SIZE`. -/
def INT_SIZE : ℕ := 32

end AntiReplayWindow

/-- An `AntiReplayWindow` as `reset` leaves it. -/
structure AntiReplayWindow where
  window : List (BitVec 32) := List.replicate (AntiReplayWindow.width / AntiReplayWindow.INT_SIZE) 0
  ceiling : ℤ := AntiReplayWindow.width - 1
deriving DecidableEq

namespace AntiReplayWindow

/-- `w << n`. -/
def shl (w : BitVec 32) (n : ℕ) : BitVec 32 := w <<< (n % 32)

/-- `w >>> n`. -/
def shr (w : BitVec 32) (n : ℕ) : BitVec 32 := w >>> (n % 32)

/-- `seq_num - lowerBound`. -/
def bitIndex (s : AntiReplayWindow) (seq_num : ℤ) : ℤ := seq_num - (s.ceiling - width + 1)

/-- `hasReceived(seq_num)`.  There is no word at a negative index, nor behind the last one. -/
def hasReceived (s : AntiReplayWindow) (seq_num : ℤ) : Bool :=
  if s.bitIndex seq_num < 0 then false
  else
    let i := (s.bitIndex seq_num).toNat
    let flag := shl 1 (i % INT_SIZE)
    match s.window[i / INT_SIZE]? with
    | none => false
    | some w => w &&& flag == flag

/-- `mayReceive(seq_num)`. -/
def mayReceive (s : AntiReplayWindow) (seq_num : ℤ) : Bool :=
  if seq_num > s.ceiling + width then false
  else if seq_num > s.ceiling then true
  else if seq_num ≥ s.ceiling - width + 1 ∧ seq_num ≤ s.ceiling then !s.hasReceived seq_num
  else false

/-- One turn of the loop over whole blocks. -/
def shiftBlock (window : List (BitVec 32)) : List (BitVec 32) := window.tail ++ [0]

/-- The loop that shifts bitwise: each word gets the overflow of the next one. -/
def shiftBits (amount : ℕ) : List (BitVec 32) → List (BitVec 32)
  | [] => []
  | [w] => [shr w amount]
  | w :: v :: rest => (shr w amount ||| shl v (INT_SIZE - amount)) :: shiftBits amount (v :: rest)

/-- The shift of the window by `amount` bits. -/
def shift (window : List (BitVec 32)) (amount : ℕ) : List (BitVec 32) :=
  if _h : INT_SIZE < amount then shift (shiftBlock window) (amount - INT_SIZE)
  else shiftBits amount window
termination_by amount
decreasing_by
  have : 0 < INT_SIZE := by decide
  omega

/-- `markAsReceived(seq_num)`.  A number below the window would set a property of the array that is no
word of it. -/
def markAsReceived (s : AntiReplayWindow) (seq_num : ℤ) : AntiReplayWindow :=
  let s : AntiReplayWindow :=
    if seq_num > s.ceiling then ⟨shift s.window (seq_num - s.ceiling).toNat, seq_num⟩ else s
  if s.bitIndex seq_num < 0 then s
  else
    let i := (s.bitIndex seq_num).toNat
    { s with window := s.window.modify (i / INT_SIZE) (· ||| shl 1 (i % INT_SIZE)) }

/-! ## The words -/

lemma shl_one {n : ℕ} (h : n < 32) : shl 1 n = BitVec.twoPow 32 n := by
  rw [shl, Nat.mod_eq_of_lt h, BitVec.twoPow_eq]
  rfl

/-- `hasReceived` reads a bit. -/
lemma hasReceived_eq (s : AntiReplayWindow) {n : ℤ} (h : 0 ≤ s.bitIndex n) :
    s.hasReceived n = bit s.window (s.bitIndex n).toNat := by
  have hmod : (s.bitIndex n).toNat % 32 < 32 := Nat.mod_lt _ (by decide)
  rw [hasReceived, if_neg (not_lt.mpr h)]
  dsimp only [INT_SIZE]
  rw [shl_one hmod, bit, word]
  cases s.window[(s.bitIndex n).toNat / 32]? with
  | none => exact BitVec.getLsbD_zero.symm
  | some w =>
    dsimp only [Option.getD_some]
    rw [BitVec.and_twoPow]
    have hne : BitVec.twoPow 32 ((s.bitIndex n).toNat % 32) ≠ 0 := by
      intro hzero
      have := congrArg (fun v => v.getLsbD ((s.bitIndex n).toNat % 32)) hzero
      simp [hmod] at this
    cases hbit : w.getLsbD ((s.bitIndex n).toNat % 32) with
    | true => simp
    | false => simpa using hne.symm

lemma length_shiftBits (amount : ℕ) (l : List (BitVec 32)) : (shiftBits amount l).length = l.length := by
  fun_induction shiftBits amount l with
  | case1 => rfl
  | case2 w => rfl
  | case3 w v rest ih => rw [List.length_cons, ih]; rfl

/-- What the shift by bits makes of the words. -/
lemma word_shiftBits (amount : ℕ) (l : List (BitVec 32)) (k : ℕ) :
    word (shiftBits amount l) k = shr (word l k) amount ||| shl (word l (k + 1)) (INT_SIZE - amount) := by
  fun_induction shiftBits amount l generalizing k with
  | case1 => simp [word, shr, shl]
  | case2 w =>
    cases k with
    | zero => simp [word, shl]
    | succ k => simp [word, shr, shl]
  | case3 w v rest ih =>
    cases k with
    | zero => rfl
    | succ k => exact ih k

/-- The shift by bits, for a count from 1 to 32. -/
lemma bit_shiftBits {amount : ℕ} (h : 0 < amount ∧ amount ≤ 32) (l : List (BitVec 32)) (i : ℕ) :
    bit (shiftBits amount l) i = (bit l (i + amount) || decide (amount = 32) && bit l i) := by
  rcases h.2.eq_or_lt with rfl | hlt
  · have hword := word_shiftBits 32 l (i / 32)
    rw [bit, hword, bit, bit, Nat.add_div_right i (by decide), Nat.add_mod_right]
    simp [shr, shl, INT_SIZE, Bool.or_comm]
  · have hne : amount ≠ 32 := hlt.ne
    have hword : ∀ k, word (shiftBits amount l) k =
        word l k >>> amount ||| word l (k + 1) <<< (32 - amount) := by
      intro k
      rw [word_shiftBits, shr, shl, Nat.mod_eq_of_lt hlt, INT_SIZE, Nat.mod_eq_of_lt (by omega)]
    rw [bit_of_shifted h.1 hlt hword]
    simp [hne]

/-- **The shift**: a bit comes from its place, and when the count is a multiple of 32 also from one word
before it. -/
lemma bit_shift (l : List (BitVec 32)) {amount : ℕ} (h : 0 < amount) (i : ℕ) :
    bit (shift l amount) i =
      (bit l (i + amount) || decide (32 ∣ amount) && bit l (i + (amount - 32))) := by
  fun_induction shift l amount with
  | case1 l amount hlt ih =>
    have hlt : 32 < amount := hlt
    have hdvd : 32 ∣ amount - 32 ↔ 32 ∣ amount := by omega
    have hrest : 0 < amount - INT_SIZE := Nat.sub_pos_of_lt hlt
    have h1 : i + (amount - INT_SIZE) + 32 = i + amount := by rw [INT_SIZE]; omega
    rw [ih hrest, shiftBlock, bit_tail_append (by decide), bit_tail_append (by decide), h1]
    by_cases hmul : 32 ∣ amount
    · have h2 : i + (amount - INT_SIZE - 32) + 32 = i + (amount - 32) := by
        have := Nat.le_of_dvd h hmul
        rw [INT_SIZE]
        omega
      have h3 : 32 ∣ amount - INT_SIZE := hdvd.mpr hmul
      simp [h2, h3, hmul]
    · have h3 : ¬ 32 ∣ amount - INT_SIZE := fun hd => hmul (hdvd.mp hd)
      simp [h3, hmul]
  | case2 l amount hle =>
    have hle : amount ≤ 32 := Nat.le_of_not_lt hle
    rw [bit_shiftBits ⟨h, hle⟩]
    by_cases heq : amount = 32
    · simp [heq]
    · have hmul : ¬ 32 ∣ amount := fun hdvd => heq (Nat.le_antisymm hle (Nat.le_of_dvd h hdvd))
      simp [heq, hmul]

lemma length_shift (l : List (BitVec 32)) (hl : l ≠ []) (amount : ℕ) :
    (shift l amount).length = l.length := by
  fun_induction shift l amount with
  | case1 l amount _ ih =>
    have hlen : (shiftBlock l).length = l.length := by
      have := List.length_pos_of_ne_nil hl
      rw [shiftBlock, List.length_append, List.length_tail, List.length_singleton]
      omega
    rw [ih (List.ne_nil_of_length_pos (by rw [hlen]; exact List.length_pos_of_ne_nil hl)), hlen]
  | case2 l amount _ => exact length_shiftBits amount l

/-! ## Marking a number -/

variable {s : AntiReplayWindow} {n k : ℤ} {marked : List ℤ}

lemma bitIndex_eq (s : AntiReplayWindow) (n : ℤ) : s.bitIndex n = n - s.ceiling + 63 := by
  rw [bitIndex, width]
  push_cast
  omega

/-- Behind the window nothing has been received. -/
lemma hasReceived_of_gt (hlen : s.window.length = 2) (h : s.ceiling < n) : s.hasReceived n = false := by
  have hindex : 64 ≤ s.bitIndex n := by
    rw [bitIndex_eq]
    omega
  rw [hasReceived_eq s (by omega)]
  exact bit_eq_false_of_length_le (by rw [hlen]; omega) (by decide)

/-- What `markAsReceived` does when `mayReceive` has accepted the number. -/
lemma ceiling_markAsReceived (s : AntiReplayWindow) (n : ℤ) :
    (s.markAsReceived n).ceiling = max s.ceiling n := by
  unfold markAsReceived
  dsimp only
  by_cases h : n > s.ceiling
  · rw [if_pos h, max_eq_right h.le]
    split_ifs <;> rfl
  · rw [if_neg h, max_eq_left (not_lt.mp h)]
    split_ifs <;> rfl

lemma length_markAsReceived (hlen : s.window.length = 2) (n : ℤ) :
    (s.markAsReceived n).window.length = 2 := by
  have hne : s.window ≠ [] := List.ne_nil_of_length_pos (by omega)
  unfold markAsReceived
  dsimp only
  by_cases h : n > s.ceiling
  · rw [if_pos h]
    split_ifs
    · exact (length_shift s.window hne _).trans hlen
    · exact (List.length_modify ..).trans ((length_shift s.window hne _).trans hlen)
  · rw [if_neg h]
    split_ifs
    · exact hlen
    · exact (List.length_modify ..).trans hlen

/-- A number that is accepted lies in the window or at most 64 ahead of it. -/
lemma mayReceive_range (h : s.mayReceive n = true) :
    s.ceiling - 63 ≤ n ∧ n ≤ s.ceiling + 64 ∧ (n ≤ s.ceiling → s.hasReceived n = false) := by
  unfold mayReceive at h
  have hwidth : (width : ℤ) = 64 := rfl
  by_cases h1 : n > s.ceiling + width
  · rw [if_pos h1] at h
    cases h
  by_cases h2 : n > s.ceiling
  · exact ⟨by omega, by omega, fun hle => absurd hle (not_le.mpr h2)⟩
  rw [if_neg h1, if_neg h2] at h
  by_cases h3 : n ≥ s.ceiling - width + 1 ∧ n ≤ s.ceiling
  · rw [if_pos h3] at h
    exact ⟨by omega, by omega, fun _ => by simpa using h⟩
  · rw [if_neg h3] at h
    cases h

/-- **One mark.**  The numbers of the new window that count as received afterwards are the marked one, the
ones that have been received before, and, after a shift by a multiple of 32, the ones that come 32 behind
one of these. -/
theorem hasReceived_markAsReceived (hlen : s.window.length = 2) (hn : s.ceiling - 63 ≤ n)
    (hk : max s.ceiling n - 63 ≤ k) (hk' : k ≤ max s.ceiling n) :
    (s.markAsReceived n).hasReceived k = (decide (k = n) || (s.hasReceived k ||
      decide (s.ceiling < n ∧ 32 ∣ n - s.ceiling) && s.hasReceived (k - 32))) := by
  have hne : s.window ≠ [] := List.ne_nil_of_length_pos (by omega)
  by_cases h : s.ceiling < n
  · rw [max_eq_right h.le] at hk hk'
    have hamount : 0 < (n - s.ceiling).toNat := by omega
    have hlen' := length_shift s.window hne (n - s.ceiling).toNat
    have hmark : s.markAsReceived n =
        ⟨setBit (shift s.window (n - s.ceiling).toNat) (63 / 32) (63 % 32), n⟩ := by
      have hindex : bitIndex ⟨shift s.window (n - s.ceiling).toNat, n⟩ n = 63 := by
        rw [bitIndex_eq]
        dsimp only
        omega
      unfold markAsReceived
      dsimp only
      rw [if_pos h, hindex, if_neg (by decide)]
      rfl
    have hindex : bitIndex (s.markAsReceived n) k = k - n + 63 := by
      rw [hmark, bitIndex_eq]
    have hold : (k - n + 63).toNat + (n - s.ceiling).toNat = (s.bitIndex k).toNat := by
      rw [bitIndex_eq]
      omega
    have hnonneg : 0 ≤ s.bitIndex k := by
      rw [bitIndex_eq]
      omega
    rw [hasReceived_eq _ (by omega), hindex, hmark]
    dsimp only
    rw [bit_setBit (by decide) (by rw [hlen', hlen]; decide), bit_shift _ hamount, hold,
      ← hasReceived_eq s hnonneg]
    have hthis : (k - n + 63).toNat = 63 ↔ k = n := by omega
    simp only [hthis]
    by_cases hdvd : (32 : ℤ) ∣ n - s.ceiling
    · have hdvd' : 32 ∣ (n - s.ceiling).toNat := by omega
      have hback : (k - n + 63).toNat + ((n - s.ceiling).toNat - 32) = (s.bitIndex (k - 32)).toNat := by
        rw [bitIndex_eq]
        omega
      have hnonneg' : 0 ≤ s.bitIndex (k - 32) := by
        rw [bitIndex_eq]
        omega
      rw [hback, ← hasReceived_eq s hnonneg']
      simp [hdvd', hdvd, h]
    · have hdvd' : ¬ 32 ∣ (n - s.ceiling).toNat := by omega
      simp [hdvd', hdvd]
  · rw [max_eq_left (not_lt.mp h)] at hk hk'
    have hindex : 0 ≤ s.bitIndex n ∧ s.bitIndex n < 64 := by
      rw [bitIndex_eq]
      omega
    have hmod : (s.bitIndex n).toNat % 32 < 32 := Nat.mod_lt _ (by decide)
    have hmark : s.markAsReceived n = ⟨setBit s.window ((s.bitIndex n).toNat / 32)
        ((s.bitIndex n).toNat % 32), s.ceiling⟩ := by
      unfold markAsReceived
      dsimp only
      rw [if_neg h, if_neg (not_lt.mpr hindex.1)]
      dsimp only [INT_SIZE]
      rw [shl_one hmod]
      rfl
    have hsame : bitIndex (s.markAsReceived n) k = s.bitIndex k := by
      rw [hmark]
      rfl
    have hnonneg : 0 ≤ s.bitIndex k := by
      rw [bitIndex_eq]
      omega
    rw [hasReceived_eq _ (by omega), hsame, hmark]
    dsimp only
    rw [bit_setBit (by decide) (by rw [hlen]; omega), ← hasReceived_eq s hnonneg]
    have hthis : (s.bitIndex k).toNat = (s.bitIndex n).toNat ↔ k = n := by
      rw [bitIndex_eq, bitIndex_eq]
      omega
    simp [hthis, h]

/-- `mayReceive` in terms of the window. -/
lemma mayReceive_iff (s : AntiReplayWindow) (n : ℤ) : s.mayReceive n = true ↔
    (s.ceiling - 63 ≤ n ∧ n ≤ s.ceiling ∧ s.hasReceived n = false) ∨
      (s.ceiling < n ∧ n ≤ s.ceiling + 64) := by
  constructor
  · intro h
    obtain ⟨h1, h2, h3⟩ := mayReceive_range h
    rcases le_or_gt n s.ceiling with hle | hlt
    · exact Or.inl ⟨h1, hle, h3 hle⟩
    · exact Or.inr ⟨hlt, h2⟩
  · have hwidth : (width : ℤ) = 64 := rfl
    unfold mayReceive
    rintro (⟨h1, h2, h3⟩ | ⟨h1, h2⟩)
    · rw [if_neg (by omega), if_neg (not_lt.mpr h2), if_pos (by omega), h3]
      rfl
    · rw [if_neg (by omega), if_pos h1]

end AntiReplayWindow

/-! ## The window over a run -/

/-- A window and the numbers that have been marked. -/
structure Marked where
  window : AntiReplayWindow := {}
  marked : List ℤ := []

namespace Marked

/-- A number is marked if `mayReceive` accepts it. -/
def step (s : Marked) (n : ℤ) : Option Marked :=
  if s.window.mayReceive n then some ⟨s.window.markAsReceived n, n :: s.marked⟩ else none

/-- The window ends at the highest number that has been marked, and at first at 63. -/
structure Bounded (s : Marked) : Prop where
  words : s.window.window.length = 2
  top : s.window.ceiling = 63 ∨ s.window.ceiling ∈ s.marked
  initial_le : 63 ≤ s.window.ceiling
  le : ∀ n ∈ s.marked, n ≤ s.window.ceiling

/-- **The window is a set**: it knows the numbers that have been marked, and accepts the other ones of
the window and the ones that come at most 64 behind it. -/
structure Sliding (s : Marked) : Prop where
  received : ∀ n, s.window.ceiling - 63 ≤ n → n ≤ s.window.ceiling →
    (s.window.hasReceived n = true ↔ n ∈ s.marked)
  rejects : ∀ n ∈ s.marked, s.window.mayReceive n = false
  accepts : ∀ n, s.window.ceiling - 63 ≤ n → n ≤ s.window.ceiling → n ∉ s.marked →
    s.window.mayReceive n = true
  ahead : ∀ n, s.window.ceiling < n → n ≤ s.window.ceiling + 64 → s.window.mayReceive n = true

/-- The shift of the window copies no number: it is not by 32 or 64, or the numbers that have been
received in its reach have the ones 32 ahead of them, which have been received as well. -/
def Clean (s : Marked) (n : ℤ) : Prop :=
  s.window.ceiling < n → 32 ∣ n - s.window.ceiling → ∀ k, n - 63 ≤ k → k < n →
    s.window.hasReceived (k - 32) = true → s.window.hasReceived k = true

variable {s s' : Marked} {n : ℤ}

lemma bounded_initial : Bounded {} := ⟨rfl, Or.inl rfl, le_rfl, fun _ h => nomatch h⟩

/-- The rest follows from what has been received. -/
lemma Bounded.sliding_iff (h : s.Bounded) : s.Sliding ↔
    ∀ n, s.window.ceiling - 63 ≤ n → n ≤ s.window.ceiling →
      (s.window.hasReceived n = true ↔ n ∈ s.marked) := by
  refine ⟨Sliding.received, fun hreceived => ⟨hreceived, fun n hn => ?_, fun n h1 h2 hnot => ?_,
    fun n h1 h2 => ?_⟩⟩
  · rw [← Bool.not_eq_true, AntiReplayWindow.mayReceive_iff]
    have hle := h.le n hn
    rintro (⟨h1, h2, h3⟩ | ⟨h1, -⟩)
    · rw [(hreceived n h1 h2).mpr hn] at h3
      cases h3
    · omega
  · refine (AntiReplayWindow.mayReceive_iff _ n).mpr (Or.inl ⟨h1, h2, ?_⟩)
    rw [← Bool.not_eq_true, hreceived n h1 h2]
    exact hnot
  · exact (AntiReplayWindow.mayReceive_iff _ n).mpr (Or.inr ⟨h1, h2⟩)

lemma sliding_initial : Sliding {} := by
  refine bounded_initial.sliding_iff.mpr fun n h1 _ => ?_
  have hnonneg : 0 ≤ AntiReplayWindow.bitIndex {} n := by
    rw [AntiReplayWindow.bitIndex_eq]
    have hceiling : (({} : AntiReplayWindow).ceiling) = 63 := rfl
    rw [hceiling] at h1 ⊢
    omega
  have hbit : bit (List.replicate (AntiReplayWindow.width / AntiReplayWindow.INT_SIZE) (0 : BitVec 32))
      (AntiReplayWindow.bitIndex {} n).toNat = false := bit_replicate_zero _ _
  rw [AntiReplayWindow.hasReceived_eq _ hnonneg, hbit]
  simp

lemma step_eq_some : s.step n = some s' ↔
    s.window.mayReceive n = true ∧ s' = ⟨s.window.markAsReceived n, n :: s.marked⟩ := by
  rw [step, Option.ite_none_right_eq_some, Option.some_inj, eq_comm (a := s')]

/-- The window keeps its bounds. -/
lemma Bounded.step (h : s.Bounded) (hs : s.step n = some s') : s'.Bounded := by
  obtain ⟨hmay, rfl⟩ := step_eq_some.mp hs
  have hceiling := AntiReplayWindow.ceiling_markAsReceived s.window n
  refine ⟨?_, ?_, ?_, ?_⟩
  · exact AntiReplayWindow.length_markAsReceived h.words n
  · dsimp only
    rw [hceiling]
    rcases le_total n s.window.ceiling with hle | hle
    · rw [max_eq_left hle]
      exact h.top.imp_right (List.mem_cons_of_mem _)
    · rw [max_eq_right hle]
      exact Or.inr List.mem_cons_self
  · dsimp only
    rw [hceiling]
    exact h.initial_le.trans (le_max_left _ _)
  · intro k hk
    dsimp only
    rw [hceiling]
    rcases List.mem_cons.mp hk with rfl | hk
    · exact le_max_right _ _
    · exact (h.le k hk).trans (le_max_left _ _)

/-- **One step** keeps the window a set if and only if the shift copies no number. -/
theorem sliding_step_iff (hb : s.Bounded) (h : s.Sliding) (hs : s.step n = some s') :
    s'.Sliding ↔ s.Clean n := by
  rw [(hb.step hs).sliding_iff]
  obtain ⟨hmay, rfl⟩ := step_eq_some.mp hs
  obtain ⟨hlow, -, -⟩ := AntiReplayWindow.mayReceive_range hmay
  have hceiling := AntiReplayWindow.ceiling_markAsReceived s.window n
  have hmark := fun k => AntiReplayWindow.hasReceived_markAsReceived (k := k) hb.words hlow
  have hold : ∀ k, s.window.ceiling - 63 ≤ k → (s.window.hasReceived k = true ↔ k ∈ s.marked) := by
    intro k hk
    rcases le_or_gt k s.window.ceiling with hle | hlt
    · exact h.received k hk hle
    · rw [AntiReplayWindow.hasReceived_of_gt hb.words hlt]
      exact iff_of_false (by decide) fun hin => absurd (hb.le k hin) (not_le.mpr hlt)
  dsimp only
  rw [hceiling]
  constructor
  · intro hset hlt hdvd k hk hkn hback
    have hthis := hset k (by omega) (by omega)
    rw [hmark k (by omega) (by omega), hback] at hthis
    have hin := hthis.mp (by simp [hlt, hdvd])
    rw [hold k (by omega)]
    exact (List.mem_cons.mp hin).resolve_left hkn.ne
  · intro hclean k hk hk'
    rw [hmark k hk hk', List.mem_cons, ← hold k (by omega)]
    by_cases hback : s.window.ceiling < n ∧ 32 ∣ n - s.window.ceiling
    · rcases eq_or_ne k n with rfl | hne
      · simp
      · have hcopy := hclean hback.1 hback.2 k (by omega) (by omega)
        cases hr : s.window.hasReceived (k - 32) with
        | false => simp
        | true => simp [hcopy hr]
    · simp [hback]

/-- **The window is a sliding set** in every run in which no shift copies a number, and the next mark keeps
it one exactly if it copies no number either. -/
theorem antiReplayWindow_sliding {s : Marked} (run : Run step Clean {} s) :
    s.Bounded ∧ s.Sliding ∧ ∀ n s', s.step n = some s' → (s'.Sliding ↔ s.Clean n) := by
  have hinv : s.Bounded ∧ s.Sliding := by
    refine run.invariant (fun s => s.Bounded ∧ s.Sliding) ⟨bounded_initial, sliding_initial⟩ ?_
    rintro s n s' ⟨hb, h⟩ hclean hs
    exact ⟨hb.step hs, (sliding_step_iff hb h hs).mpr hclean⟩
  exact ⟨hinv.1, hinv.2, fun n s' hs => sliding_step_iff hinv.1 hinv.2 hs⟩

/-- A shift that is not by a multiple of 32 copies nothing. -/
lemma clean_of_not_dvd (h : ¬ 32 ∣ n - s.window.ceiling) : s.Clean n := fun _ hdvd => absurd hdvd h

/-- The two numbers behind the first window. -/
theorem antiReplayWindow_sliding_two : ∃ s : Marked, s.marked = [65, 64] ∧ s.Sliding := by
  have h64 : step {} 64 = some ⟨AntiReplayWindow.markAsReceived {} 64, [64]⟩ :=
    step_eq_some.mpr ⟨by decide, rfl⟩
  have h65 : step ⟨AntiReplayWindow.markAsReceived {} 64, [64]⟩ 65 =
      some ⟨(AntiReplayWindow.markAsReceived {} 64).markAsReceived 65, [65, 64]⟩ :=
    step_eq_some.mpr ⟨rfl, rfl⟩
  refine ⟨_, rfl, (antiReplayWindow_sliding ((Run.start.next (clean_of_not_dvd ?_) h64).next
    (clean_of_not_dvd ?_) h65)).2.1⟩
  · decide
  · rw [AntiReplayWindow.ceiling_markAsReceived]
    decide

/-- **The defect.**  After `64` and `65` the number `97` is marked, which is 32 ahead.  Then the window
takes `96` for received, too. -/
theorem antiReplayWindow_copies : ¬ ∀ s : Marked, Reachable step {} s → s.Sliding := by
  intro h
  have h64 : step {} 64 = some ⟨AntiReplayWindow.markAsReceived {} 64, [64]⟩ :=
    step_eq_some.mpr ⟨by decide, rfl⟩
  have h65 : step ⟨AntiReplayWindow.markAsReceived {} 64, [64]⟩ 65 =
      some ⟨(AntiReplayWindow.markAsReceived {} 64).markAsReceived 65, [65, 64]⟩ :=
    step_eq_some.mpr ⟨rfl, rfl⟩
  have run : Reachable step {} _ := (Run.start.next trivial h64).next trivial h65
  have hb := (bounded_initial.step h64).step h65
  have hs := h _ run
  have hceiling : ((AntiReplayWindow.markAsReceived {} 64).markAsReceived 65).ceiling = 65 := by
    rw [AntiReplayWindow.ceiling_markAsReceived, AntiReplayWindow.ceiling_markAsReceived]
    rfl
  have h97 : step _ 97 = some _ := step_eq_some.mpr
    ⟨hs.ahead 97 (by rw [hceiling]; decide) (by rw [hceiling]; decide), rfl⟩
  have hclean := (sliding_step_iff hb hs h97).mp (h _ (run.next trivial h97))
  have hreceived := hs.received 64 (by rw [hceiling]; decide) (by rw [hceiling]; decide)
  have hcopy := hclean (by rw [hceiling]; decide) (by rw [hceiling]; decide) 96 (by decide) (by decide)
    (hreceived.mpr (by decide))
  rw [AntiReplayWindow.hasReceived_of_gt hb.words (by rw [hceiling]; decide)] at hcopy
  cases hcopy

end Marked

end Werift.Dtls
