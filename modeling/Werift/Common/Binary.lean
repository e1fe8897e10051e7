import Werift.Js.Buffer

/-!
# Bits of `common/src/binary.ts`

Positions count from the most significant bit.  The bitwise operators of the language work on signed
words of 32 bits, and a shift uses its distance modulo 32.
-/

namespace Werift

/-- `(a << k) | 0`. -/
def Js.shiftLeft (a : ℤ) (k : ℕ) : ℤ := (BitVec.ofInt 32 a <<< (k % 32)).toInt

/-- `a >> k`. -/
def Js.shiftRight (a : ℤ) (k : ℕ) : ℤ := ((BitVec.ofInt 32 a).sshiftRight (k % 32)).toInt

/-- `a | b`. -/
def Js.bitOr (a b : ℤ) : ℤ := (BitVec.ofInt 32 a ||| BitVec.ofInt 32 b).toInt

/-- `a & b`. -/
def Js.bitAnd (a b : ℤ) : ℤ := (BitVec.ofInt 32 a &&& BitVec.ofInt 32 b).toInt

/-- `~a`. -/
def Js.bitNot (a : ℤ) : ℤ := (~~~BitVec.ofInt 32 a).toInt

/-- `getBit(bits, startIndex, length)`: the digits of an octet that begin at `startIndex`. -/
def getBit (bits : UInt8) (startIndex length : ℕ) : ℕ :=
  bits.toNat / 2 ^ (8 - startIndex - length) % 2 ^ length

/-- `new BitWriter(bitLength)` with the fields `(size, startIndex, value)` set one after the other. -/
def bitWriter (bitLength : ℕ) (fields : List (ℕ × ℕ × ℕ)) : ℕ :=
  fields.foldl
    (fun acc field => acc ||| (field.2.2 % 2 ^ field.1) <<< (bitLength - field.1 - field.2.1)) 0

/-- `new BitWriter2(bitLength)` with the fields `(value, size)` set one behind the other. -/
def bitWriter2 (bitLength : ℕ) (fields : List (ℕ × ℕ)) : ℕ :=
  (fields.foldl
    (fun acc field =>
      (acc.1 ||| (field.1 % 2 ^ field.2) <<< (bitLength - field.2 - acc.2), acc.2 + field.2))
    (0, 0)).1

/-- The buffer of `bufferReader(buf, [.., k, ..])` at a position inside the buffer. -/
def readNat (k : ℕ) (buf : List UInt8) (pos : ℕ) : ℕ := BigEndian.decode ((buf.drop pos).take k)

lemma getBit_lt (bits : UInt8) (startIndex length : ℕ) :
    getBit bits startIndex length < 2 ^ length := Nat.mod_lt _ (by positivity)

lemma readNat_lt (k : ℕ) (buf : List UInt8) (pos : ℕ) : readNat k buf pos < 256 ^ k := by
  refine (BigEndian.decode_lt _).trans_le (Nat.pow_le_pow_right (by decide) ?_)
  exact List.length_take_le _ _

/-- **Reading a field** that has been written at its position. -/
lemma readNat_append {k n pos : ℕ} (pre : List UInt8) (hn : n < 256 ^ k) (hpos : pre.length = pos)
    (post : List UInt8) : readNat k (pre ++ (BigEndian.encode k n ++ post)) pos = n := by
  have hslice : ((pre ++ (BigEndian.encode k n ++ post)).drop pos).take k = BigEndian.encode k n := by
    rw [List.drop_left' hpos, List.take_left' (BigEndian.length_encode k n)]
  rw [readNat, hslice, BigEndian.decode_encode hn]

/-- **Reading a list of words** that have been written one after the other. -/
lemma readNat_words {k : ℕ} {words : List ℕ} (hwords : ∀ word ∈ words, word < 256 ^ k)
    (pre post : List UInt8) :
    (List.range words.length).map (fun i => readNat k
      (pre ++ ((words.map (BigEndian.encode k)).flatten ++ post)) (pre.length + i * k)) = words := by
  induction words generalizing pre with
  | nil => rfl
  | cons word words ih =>
    have hfirst : readNat k (pre ++ (((word :: words).map (BigEndian.encode k)).flatten ++ post))
        (pre.length + 0 * k) = word := by
      rw [Nat.zero_mul, List.map_cons, List.flatten_cons, List.append_assoc]
      exact readNat_append _ (hwords word List.mem_cons_self) (Nat.add_zero _).symm _
    have hrest := ih (fun w hw => hwords w (List.mem_cons_of_mem _ hw))
      (pre ++ BigEndian.encode k word)
    rw [List.length_cons, List.range_succ_eq_map, List.map_cons, hfirst, List.map_map]
    refine congrArg (word :: ·) (Eq.trans ?_ hrest)
    refine List.map_congr_left fun i _ => ?_
    have hpos : pre.length + (i + 1) * k = (pre ++ BigEndian.encode k word).length + i * k := by
      rw [List.length_append, BigEndian.length_encode]
      ring
    simp only [Function.comp_apply, Nat.succ_eq_add_one, hpos, List.map_cons, List.flatten_cons,
      List.append_assoc]

lemma Js.writeUIntBE_natCast {k n : ℕ} (hn : n < 256 ^ k) :
    Js.writeUIntBE k n = some (BigEndian.encode k n) := by
  rw [Js.writeUIntBE_eq_some, Int.toNat_natCast]
  exact ⟨⟨Int.natCast_nonneg n, by exact_mod_cast hn⟩, rfl⟩

/-- `n & (2^k - 1)` for a mask without the sign digit. -/
lemma Js.bitAnd_mask (n : ℕ) {k : ℕ} (hk : k ≤ 31) :
    Js.bitAnd n ((2 ^ k - 1 : ℕ) : ℤ) = (n % 2 ^ k : ℕ) := by
  have hmask : 2 ^ k - 1 < 2 ^ 32 := by
    have : 2 ^ k ≤ 2 ^ 31 := Nat.pow_le_pow_right (by decide) hk
    omega
  have hnat : (BitVec.ofNat 32 n &&& BitVec.ofNat 32 (2 ^ k - 1)).toNat = n % 2 ^ k := by
    rw [BitVec.toNat_and, BitVec.toNat_ofNat, BitVec.toNat_ofNat, Nat.mod_eq_of_lt hmask,
      Nat.and_two_pow_sub_one_eq_mod, Nat.mod_mod_of_dvd _ (pow_dvd_pow 2 (by omega))]
  have hlt : n % 2 ^ k < 2 ^ 31 :=
    (Nat.mod_lt _ (by positivity)).trans_le (Nat.pow_le_pow_right (by decide) hk)
  rw [Js.bitAnd, BitVec.ofInt_natCast, BitVec.ofInt_natCast, BitVec.toInt_eq_toNat_of_lt, hnat]
  rw [hnat]
  omega

/-- `n >> k` of a number without the sign digit. -/
lemma Js.shiftRight_natCast {n : ℕ} (hn : n < 2 ^ 31) {k : ℕ} (hk : k < 32) :
    Js.shiftRight n k = (n / 2 ^ k : ℕ) := by
  rw [Js.shiftRight, Nat.mod_eq_of_lt hk, BitVec.toInt_sshiftRight, BitVec.ofInt_natCast,
    BitVec.toInt_eq_toNat_of_lt, BitVec.toNat_ofNat, Nat.mod_eq_of_lt (by omega)]
  · rw [Int.shiftRight_eq_div_pow]
    norm_cast
  · rw [BitVec.toNat_ofNat, Nat.mod_eq_of_lt (by omega)]
    omega

/-- `a >> k` of the signed word of `a`. -/
lemma Js.shiftRight_eq (a : ℤ) {k : ℕ} (hk : k < 32) :
    Js.shiftRight a k = a.bmod (2 ^ 32) / 2 ^ k := by
  rw [Js.shiftRight, Nat.mod_eq_of_lt hk, BitVec.toInt_sshiftRight, BitVec.toInt_ofInt,
    Int.shiftRight_eq_div_pow]
  norm_cast

end Werift
