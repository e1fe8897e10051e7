import Mathlib

/-!
# Big-endian integers in byte strings

`encode k n` are the `k` bytes of `n`, the most significant one first, and `decode` reads such a
byte string back.  `decode_encode` is the round trip; `slice_append` reads a field that stands
between other bytes.
-/

namespace BigEndian

/-- The `k` lowest bytes of `n`, most significant first. -/
def encode : ℕ → ℕ → List UInt8
  | 0, _ => []
  | k + 1, n => encode k (n / 256) ++ [UInt8.ofNat (n % 256)]

/-- The number whose bytes, most significant first, are `bs`. -/
def decode (bs : List UInt8) : ℕ := bs.foldl (fun acc b => acc * 256 + b.toNat) 0

@[simp] lemma length_encode (k n : ℕ) : (encode k n).length = k := by
  induction k generalizing n with
  | zero => rfl
  | succ k ih => simp [encode, ih]

/-- The last byte is the lowest one. -/
lemma decode_append_singleton (bs : List UInt8) (b : UInt8) :
    decode (bs ++ [b]) = decode bs * 256 + b.toNat := by
  simp [decode]

/-- The first byte is the highest one. -/
lemma decode_cons (b : UInt8) (bs : List UInt8) :
    decode (b :: bs) = b.toNat * 256 ^ bs.length + decode bs := by
  induction bs using List.reverseRecOn with
  | nil => simp [decode]
  | append_singleton bs last ih =>
    rw [← List.cons_append, decode_append_singleton, ih, decode_append_singleton, List.length_append,
      List.length_singleton, pow_succ]
    ring

/-- **Round trip.**  A number that fits into `k` bytes is read back from them. -/
theorem decode_encode {k n : ℕ} (hn : n < 256 ^ k) : decode (encode k n) = n := by
  induction k generalizing n with
  | zero =>
    obtain rfl : n = 0 := by simpa using hn
    rfl
  | succ k ih =>
    have hdiv : n / 256 < 256 ^ k := by
      rw [Nat.div_lt_iff_lt_mul (by decide)]
      rwa [pow_succ] at hn
    have hbyte : (UInt8.ofNat (n % 256)).toNat = n % 256 := by simp
    rw [encode, decode_append_singleton, ih hdiv, hbyte]
    omega

/-- A number that has been read is smaller than what its bytes can hold. -/
lemma decode_lt (bytes : List UInt8) : decode bytes < 256 ^ bytes.length := by
  induction bytes using List.reverseRecOn with
  | nil => exact Nat.one_pos
  | append_singleton bytes b ih =>
    have hb := b.toNat_lt
    rw [decode_append_singleton, List.length_append, List.length_singleton, pow_succ]
    omega

/-- Byte strings of one length are told apart by their numbers. -/
lemma encode_decode (bytes : List UInt8) :
    encode bytes.length (decode bytes) = bytes := by
  induction bytes using List.reverseRecOn with
  | nil => rfl
  | append_singleton bytes b ih =>
    have hb := b.toNat_lt
    have hdiv : (decode bytes * 256 + b.toNat) / 256 = decode bytes := by omega
    have hmod : (decode bytes * 256 + b.toNat) % 256 = b.toNat := by omega
    rw [decode_append_singleton, List.length_append, List.length_singleton,
      encode, hdiv, hmod, ih, UInt8.ofNat_toNat]

/-- A field in the middle of a byte string. -/
lemma slice_append (pre field post : List UInt8) :
    ((pre ++ field ++ post).drop pre.length).take field.length = field := by
  simp

end BigEndian
