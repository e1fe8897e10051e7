import Werift.Common.Number
import Werift.Js.Number
import Werift.Lib.SerialNumber

/-!
# Transmission and stream sequence numbers

A TSN is a 32-bit number and a stream sequence number (SSN) a 16-bit one; both count up without
bound and wrap.  `tsnOf u` and `ssnOf n` are the values that the numbers `u` and `n` have on the
wire.  The comparisons of the source are exact on numbers less than half the space apart, and
`tsnPlusOne` follows the count for ever.  `tsnMinusOne` does so only away from `0`: its value at `0`
is `-1`, because the remainder of the language is signed.
-/

namespace Werift.Sctp

open SerialNumber

/-- `2 ** 32`. -/
def SCTP_TSN_MODULO : ℤ := 4294967296

/-- `(a - 1) % SCTP_TSN_MODULO`. -/
def tsnMinusOne (a : ℤ) : ℤ := Js.rem (a - 1) SCTP_TSN_MODULO

/-- `(a + 1) % SCTP_TSN_MODULO`. -/
def tsnPlusOne (a : ℤ) : ℤ := Js.rem (a + 1) SCTP_TSN_MODULO

/-- The TSN that the unbounded number `u` has on the wire. -/
def tsnOf (u : ℤ) : ℤ := wire 0x80000000 u

/-- The SSN that the unbounded number `n` has on the wire. -/
def ssnOf (n : ℕ) : ℤ := wire 0x8000 n

/-- The comparison of the source is the comparison on the circle. -/
lemma uintGt_iff (halfMod a b : ℤ) : uintGt halfMod a b = true ↔ gt halfMod a b := by
  simp [uintGt, gt]

/-- No TSN is ahead of itself. -/
@[simp] lemma uint32Gt_self (a : ℤ) : uint32Gt a a = false := by
  simp [uint32Gt, uintGt]

/-- Every TSN is at or ahead of itself. -/
@[simp] lemma uint32Gte_self (a : ℤ) : uint32Gte a a = true := by
  simp [uint32Gte]

/-- Comparing TSNs of numbers less than `2 ^ 31` apart compares the numbers. -/
theorem uint32Gt_tsnOf {u v : ℤ} (hu : -1 ≤ u) (hv : -1 ≤ v) (hd : |u - v| < 0x80000000) :
    uint32Gt (tsnOf u) (tsnOf v) = true ↔ v < u := by
  rw [uint32Gt, uintGt_iff]
  exact gt_wire_iff (by decide) hu hv hd

/-- TSNs tell numbers less than `2 ^ 32` apart apart. -/
theorem tsnOf_inj {u v : ℤ} (hu : -1 ≤ u) (hv : -1 ≤ v) (hd : |u - v| < 0x100000000) :
    tsnOf u = tsnOf v ↔ u = v :=
  wire_inj (by decide) hu hv hd

/-- The non-strict comparison of TSNs of numbers less than `2 ^ 31` apart. -/
theorem uint32Gte_tsnOf {u v : ℤ} (hu : -1 ≤ u) (hv : -1 ≤ v) (hd : |u - v| < 0x80000000) :
    uint32Gte (tsnOf u) (tsnOf v) = true ↔ v ≤ u := by
  have hd' : |u - v| < 0x100000000 := by omega
  rw [uint32Gte, Bool.or_eq_true, beq_iff_eq, uint32Gt_tsnOf hu hv hd, tsnOf_inj hu hv hd']
  omega

/-- The successor of a TSN is the TSN of the successor, across the wrap as well. -/
theorem tsnPlusOne_tsnOf {u : ℤ} (hu : -1 ≤ u) : tsnPlusOne (tsnOf u) = tsnOf (u + 1) :=
  (wire_succ (by decide) hu).symm

/-- TSNs of the first lap are the numbers themselves. -/
lemma tsnOf_of_lt {u : ℤ} (hu : -1 ≤ u) (hlt : u < 0x100000000) : tsnOf u = u :=
  wire_of_lt hu (by omega) (by decide)

/-- The TSN of a nonnegative number is a 32-bit number. -/
lemma tsnOf_mem {u : ℤ} (hu : 0 ≤ u) : 0 ≤ tsnOf u ∧ tsnOf u < 0x100000000 :=
  wire_mem (by decide) hu

/-- The predecessor of a 32-bit number: `-1` for `0`. -/
lemma tsnMinusOne_of_mem {a : ℤ} (h0 : 0 ≤ a) (hlt : a < 0x100000000) : tsnMinusOne a = a - 1 :=
  tsnOf_of_lt (u := a - 1) (by omega) (by omega)

/-- One TSN is ahead of another if it comes less than half a lap after it. -/
theorem uint32Gt_iff_emod {a b : ℤ} (ha : 0 ≤ a ∧ a < 0x100000000)
    (hb : -1 ≤ b ∧ b < 0x100000000) : uint32Gt a b = true ↔
      0 < (a - b) % 0x100000000 ∧ (a - b) % 0x100000000 < 0x80000000 := by
  rw [uint32Gt, uintGt_iff, gt]
  omega

/-- With `-1` one direction is left. -/
lemma uint32Gt_of_emod {a b : ℤ} (ha : -1 ≤ a ∧ a < 0x100000000) (hb : -1 ≤ b ∧ b < 0x100000000)
    (h : uint32Gt a b = false) :
    (a - b) % 0x100000000 = 0 ∨ 0x80000000 ≤ (a - b) % 0x100000000 := by
  rw [← Bool.not_eq_true, uint32Gt, uintGt_iff, gt] at h
  omega

/-- A TSN that is at or ahead of another comes less than half a lap after it. -/
lemma emod_lt_of_uint32Gte {a b : ℤ} (ha : -1 ≤ a ∧ a < 0x100000000)
    (hb : -1 ≤ b ∧ b < 0x100000000) (h : uint32Gte a b = true) :
    (a - b) % 0x100000000 < 0x80000000 := by
  rw [uint32Gte, Bool.or_eq_true, beq_iff_eq, uint32Gt, uintGt_iff, gt] at h
  omega

/-- Comparing SSNs of numbers less than `2 ^ 15` apart compares the numbers. -/
theorem uint16Gt_ssnOf {m n : ℕ} (hd : |(m : ℤ) - n| < 0x8000) :
    uint16Gt (ssnOf m) (ssnOf n) = true ↔ n < m := by
  rw [uint16Gt, uintGt_iff]
  exact (gt_wire_iff (by decide) (by omega) (by omega) hd).trans (by omega)

/-- SSNs tell numbers less than `2 ^ 16` apart apart. -/
theorem ssnOf_inj {m n : ℕ} (hd : |(m : ℤ) - n| < 0x10000) : ssnOf m = ssnOf n ↔ m = n :=
  (wire_inj (by decide) (by omega) (by omega) hd).trans (by omega)

end Werift.Sctp
