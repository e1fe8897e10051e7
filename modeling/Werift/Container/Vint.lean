import Werift.Lib.Except
import Werift.Rtp.Header

/-!
# Variable-size integers of EBML (`rtp/src/extra/container/webm/ebml/{ebml,typedArrayUtils}.ts`)

The first byte tells the length by its leading zeros.  The value with all bits set is reserved for an unknown size.
-/

namespace Werift.Container

open Rtp (Bytes)

/-- `getEBMLByteLength(num)`. -/
def getEBMLByteLength (num : ℕ) : Except String ℕ :=
  if num < 0x7f then .ok 1
  else if num < 0x3fff then .ok 2
  else if num < 0x1fffff then .ok 3
  else if num < 0xfffffff then .ok 4
  else if num < 0x7ffffffff then .ok 5
  else if num < 0x3ffffffffff then .ok 6
  else if num < 0x1ffffffffffff then .ok 7
  else if num < 0x20000000000000 then .ok 8
  else if num < 0xffffffffffffff then
    .error "EBMLgetEBMLByteLength: number exceeds Number.MAX_SAFE_INTEGER"
  else
    .error ("EBMLgetEBMLByteLength: data size must be less than or equal to " ++ toString (2 ^ 56 - 2))

/-- `setUint8`, `setUint16` and `setUint32` of a `DataView`: the lowest `k` bytes. -/
def setUint (k num : ℕ) : Bytes := BigEndian.encode k num

/-- `numberToByteArray(num, byteLength)`. -/
def numberToByteArray (num byteLength : ℕ) : Except String Bytes :=
  if byteLength = 1 then .ok (setUint 1 num)
  else if byteLength = 2 then .ok (setUint 2 num)
  else if byteLength = 3 then .ok (setUint 1 (num >>> 16) ++ setUint 2 (num &&& 0xffff))
  else if byteLength = 4 then .ok (setUint 4 num)
  else if num < 0xffffffff then .ok ([0] ++ setUint 4 num)
  else if byteLength = 5 then .ok (setUint 1 (num / 0x100000000) ++ setUint 4 (num % 0x100000000))
  else if byteLength = 6 then .ok (setUint 2 (num / 0x100000000) ++ setUint 4 (num % 0x100000000))
  else if byteLength = 7 then
    .ok (setUint 1 (num / 0x1000000000000) ++ setUint 2 (num / 0x100000000 &&& 0xffff) ++
      setUint 4 (num % 0x100000000))
  else if byteLength = 8 then .ok (setUint 4 (num / 0x100000000) ++ setUint 4 (num % 0x100000000))
  else .error "EBML.typedArrayUtils.numberToByteArray: byte length must be less than or equal to 8"

/-- `getSizeMask(byteLength)`. -/
def getSizeMask (byteLength : ℕ) : UInt8 := UInt8.ofNat (0x80 >>> (byteLength - 1))

/-- `vintEncode(byteArray)`. -/
def vintEncode : Bytes → Bytes
  | [] => []
  | first :: bytes => (getSizeMask (bytes.length + 1) ||| first) :: bytes

/-- `vintEncodedNumber(num)`. -/
def vintEncodedNumber (num : ℕ) : Except String Bytes := do
  let byteLength ← getEBMLByteLength num
  let byteArray ← numberToByteArray num byteLength
  return vintEncode byteArray

/-- `vintEncodeFixed(num, byteLength)`. -/
def vintEncodeFixed (num : ℤ) (byteLength : ℕ) : Except String Bytes :=
  if 2 ^ 53 - 1 < |num| ∨ num < 0 ∨ 2 ^ (7 * byteLength) - 1 ≤ num then
    .error ("vintEncodeFixed: " ++ toString num ++ " does not fit in a " ++ toString byteLength ++ " byte VINT")
  else .ok (vintEncode (BigEndian.encode byteLength num.toNat))

/-- `VIntDecodeResult`. -/
structure VIntDecodeResult where
  value : Option ℕ
  length : ℕ
  unknown : Bool
deriving DecidableEq

/-- The length that the first byte tells, 0 if it has no bit set. -/
def vintLength (first : UInt8) : ℕ :=
  match (List.range 8).find? fun i => first &&& UInt8.ofNat (0x80 >>> i) ≠ 0 with
  | some i => i + 1
  | none => 0

/-- `vintDecode(buf, offset)`. -/
def vintDecode (buf : Bytes) (offset : ℕ) : Except String VIntDecodeResult :=
  if buf.length ≤ offset then .error "vintDecode: offset out of range"
  else
    let first := buf.getD offset 0
    if first = 0 then .error "vintDecode: invalid first byte 0x00 (no leading 1 bit)"
    else
      let length := vintLength first
      if length = 0 then .error "vintDecode: could not determine length"
      else if buf.length < offset + length then
        .error "vintDecode: insufficient bytes for declared length"
      else
        let lengthMarker := getSizeMask length
        let value := ((buf.drop (offset + 1)).take (length - 1)).foldl (fun value b => value * 256 + b.toNat)
          (first &&& ~~~lengthMarker).toNat
        let unknown := decide (value = 2 ^ (7 * length) - 1)
        .ok ⟨if unknown then none else some value, length, unknown⟩

/-- `decodeVintEncodedNumber(buf, offset)`. -/
def decodeVintEncodedNumber (buf : Bytes) (offset : ℕ) : Except String (ℕ × ℕ) := do
  let result ← vintDecode buf offset
  match result.value with
  | none => .error "decodeVintEncodedNumber: value is unknown size sentinel"
  | some value => .ok (value, result.length)

/-! ## Numbers as bytes -/

/-- The upper bytes and the lower ones. -/
lemma encode_add (j k n : ℕ) :
    BigEndian.encode (j + k) n = BigEndian.encode j (n / 256 ^ k) ++ BigEndian.encode k n := by
  induction k generalizing n with
  | zero => simp [BigEndian.encode]
  | succ k ih =>
    rw [← Nat.add_assoc, BigEndian.encode, ih, BigEndian.encode, List.append_assoc, Nat.div_div_eq_div_mul,
      ← pow_succ']

/-- Only the lowest bytes are written. -/
lemma encode_mod (k n m : ℕ) : BigEndian.encode k (n % (256 ^ k * m)) = BigEndian.encode k n := by
  induction k generalizing n with
  | zero => rfl
  | succ k ih =>
    have hlow : n % (256 ^ (k + 1) * m) % 256 = n % 256 :=
      Nat.mod_mod_of_dvd n ⟨256 ^ k * m, by rw [pow_succ]; ring⟩
    have hhigh : n % (256 ^ (k + 1) * m) / 256 = n / 256 % (256 ^ k * m) := by
      rw [show 256 ^ (k + 1) * m = 256 * (256 ^ k * m) by rw [pow_succ]; ring, Nat.mod_mul_right_div_self]
    rw [BigEndian.encode, BigEndian.encode, hlow, hhigh, ih]

lemma setUint_and (n : ℕ) : setUint 2 (n &&& 0xffff) = BigEndian.encode 2 n := by
  rw [setUint, show 0xffff = 2 ^ 16 - 1 from rfl, Nat.and_two_pow_sub_one_eq_mod]
  exact encode_mod 2 n 1

lemma setUint_mod (n : ℕ) : setUint 4 (n % 0x100000000) = BigEndian.encode 4 n := encode_mod 4 n 1

/-- A chain of tests, each with its result. -/
lemma exists_ok_ite {ε α : Type*} {P : α → Prop} {c : Prop} [Decidable c] {a : α} {x : Except ε α} (ha : c → P a)
    (hx : ¬ c → ∃ b, x = .ok b ∧ P b) : ∃ b, (if c then .ok a else x) = .ok b ∧ P b := by
  by_cases hc : c
  · exact ⟨a, if_pos hc, ha hc⟩
  · rw [if_neg hc]
    exact hx hc

/-- The length is enough, and the reserved value is not reached. -/
lemma getEBMLByteLength_spec {num : ℕ} (h : num < 2 ^ 53) : ∃ byteLength : ℕ,
    getEBMLByteLength num = .ok byteLength ∧ 1 ≤ byteLength ∧ byteLength ≤ 8 ∧ num < 2 ^ (7 * byteLength) - 1 ∧
      (6 ≤ byteLength → 0xffffffff ≤ num) := by
  unfold getEBMLByteLength
  iterate 7 refine exists_ok_ite (fun _ => by omega) fun _ => ?_
  exact ⟨8, if_pos h, by omega⟩

lemma lt_of_getEBMLByteLength {num byteLength : ℕ} (h : getEBMLByteLength num = .ok byteLength) : num < 2 ^ 53 := by
  by_contra hge
  rw [getEBMLByteLength, if_neg (by omega), if_neg (by omega), if_neg (by omega), if_neg (by omega),
    if_neg (by omega), if_neg (by omega), if_neg (by omega), if_neg (by omega), ite_eq_iff] at h
  obtain ⟨-, h⟩ | ⟨-, h⟩ := h <;> cases h

/-- The bytes of a number are written whole. -/
lemma numberToByteArray_eq {num byteLength : ℕ} (h : getEBMLByteLength num = .ok byteLength) :
    numberToByteArray num byteLength = .ok (BigEndian.encode byteLength num) := by
  have h3 : setUint 1 (num >>> 16) ++ setUint 2 (num &&& 0xffff) = BigEndian.encode 3 num := by
    rw [setUint_and, Nat.shiftRight_eq_div_pow]
    exact (encode_add 1 2 num).symm
  have hlow (k : ℕ) : setUint k (num / 0x100000000) ++ setUint 4 (num % 0x100000000) =
      BigEndian.encode (k + 4) num := by
    rw [setUint_mod]
    exact (encode_add k 4 num).symm
  have h5 (hlt : num < 0xffffffff) : [0] ++ setUint 4 num = BigEndian.encode 5 num := by
    rw [show (5 : ℕ) = 1 + 4 from rfl, encode_add, Nat.div_eq_of_lt (by omega)]
    rfl
  have h7 : setUint 1 (num / 0x1000000000000) ++ setUint 2 (num / 0x100000000 &&& 0xffff) ++
      setUint 4 (num % 0x100000000) = BigEndian.encode 7 num := by
    rw [setUint_and, setUint_mod, show (7 : ℕ) = 3 + 4 from rfl, encode_add 3 4, show (3 : ℕ) = 1 + 2 from rfl,
      encode_add 1 2, Nat.div_div_eq_div_mul]
    rfl
  obtain ⟨length, hlength, hlow1, hhigh8, -, hsix⟩ := getEBMLByteLength_spec (lt_of_getEBMLByteLength h)
  obtain rfl := Except.ok.inj (hlength.symm.trans h)
  unfold numberToByteArray
  interval_cases length
  · rfl
  · rfl
  · exact congrArg Except.ok h3
  · rfl
  · by_cases hlt : num < 0xffffffff
    · rw [if_neg (by decide), if_neg (by decide), if_neg (by decide), if_neg (by decide), if_pos hlt]
      exact congrArg Except.ok (h5 hlt)
    · rw [if_neg (by decide), if_neg (by decide), if_neg (by decide), if_neg (by decide), if_neg hlt, if_pos rfl]
      exact congrArg Except.ok (hlow 1)
  · rw [if_neg (by decide), if_neg (by decide), if_neg (by decide), if_neg (by decide),
      if_neg (not_lt.mpr (hsix (by decide))), if_neg (by decide), if_pos rfl]
    exact congrArg Except.ok (hlow 2)
  · rw [if_neg (by decide), if_neg (by decide), if_neg (by decide), if_neg (by decide),
      if_neg (not_lt.mpr (hsix (by decide))), if_neg (by decide), if_neg (by decide), if_pos rfl]
    exact congrArg Except.ok h7
  · rw [if_neg (by decide), if_neg (by decide), if_neg (by decide), if_neg (by decide),
      if_neg (not_lt.mpr (hsix (by decide))), if_neg (by decide), if_neg (by decide), if_neg (by decide), if_pos rfl]
    exact congrArg Except.ok (hlow 4)

/-! ## Reading -/

/-- The marker of a length, and the bits of the value behind it. -/
lemma marker_spec : ∀ byteLength < 9, 1 ≤ byteLength → ∀ high < 128, high < 2 ^ (8 - byteLength) →
    getSizeMask byteLength ||| UInt8.ofNat high ≠ 0 ∧
      vintLength (getSizeMask byteLength ||| UInt8.ofNat high) = byteLength ∧
      ((getSizeMask byteLength ||| UInt8.ofNat high) &&& ~~~getSizeMask byteLength).toNat = high := by
  decide +kernel

/-- The first byte of a number, and the others. -/
lemma encode_succ_eq_cons (k n : ℕ) :
    BigEndian.encode (k + 1) n = UInt8.ofNat (n / 256 ^ k % 256) :: BigEndian.encode k n := by
  rw [Nat.add_comm, encode_add]
  rfl

lemma foldl_bytes (v : ℕ) (bytes : Bytes) : bytes.foldl (fun value b => value * 256 + b.toNat) v =
    v * 256 ^ bytes.length + BigEndian.decode bytes := by
  induction bytes using List.reverseRecOn with
  | nil => simp [BigEndian.decode]
  | append_singleton bytes b ih =>
    rw [List.foldl_append, ih, List.foldl_cons, List.foldl_nil, BigEndian.decode_append_singleton,
      List.length_append, List.length_singleton, pow_succ]
    ring

/-- A number in `byteLength` bytes. -/
def vint (byteLength n : ℕ) : Bytes := vintEncode (BigEndian.encode byteLength n)

variable {byteLength n : ℕ}

lemma length_vint (byteLength n : ℕ) : (vint byteLength n).length = byteLength := by
  rw [vint]
  cases h : BigEndian.encode byteLength n with
  | nil => rw [vintEncode, ← h, BigEndian.length_encode]
  | cons first bytes =>
    have hlength := BigEndian.length_encode byteLength n
    rw [h, List.length_cons] at hlength
    rw [vintEncode, List.length_cons, hlength]

/-- **A number is read back**, wherever it stands. -/
lemma vintDecode_vint (hlow : 1 ≤ byteLength) (hhigh : byteLength ≤ 8) (hn : n < 2 ^ (7 * byteLength) - 1)
    (pre rest : Bytes) :
    vintDecode (pre ++ (vint byteLength n ++ rest)) pre.length = .ok ⟨some n, byteLength, false⟩ := by
  obtain ⟨k, rfl⟩ := Nat.exists_eq_add_of_le' hlow
  have hpow : 2 ^ (7 * (k + 1)) ≤ 256 ^ (k + 1) := by
    rw [show 256 = 2 ^ 8 from rfl, ← pow_mul]
    exact Nat.pow_le_pow_right (by norm_num) (by omega)
  have hfirst : n / 256 ^ k < 2 ^ (8 - (k + 1)) := by
    rw [Nat.div_lt_iff_lt_mul (by positivity), show 256 = 2 ^ 8 from rfl, ← pow_mul, ← pow_add]
    exact lt_of_lt_of_le (by omega : n < 2 ^ (7 * (k + 1))) (Nat.pow_le_pow_right (by norm_num) (by omega))
  have hsmall : n / 256 ^ k < 128 :=
    hfirst.trans_le (Nat.pow_le_pow_right (by norm_num) (by omega : 8 - (k + 1) ≤ 7))
  obtain ⟨hne, hlength, hbits⟩ := marker_spec (k + 1) (by omega) (by omega) (n / 256 ^ k) hsmall hfirst
  set first := getSizeMask (k + 1) ||| UInt8.ofNat (n / 256 ^ k) with hfirstDef
  have hvint : vint (k + 1) n = first :: BigEndian.encode k n := by
    rw [vint, encode_succ_eq_cons, Nat.mod_eq_of_lt (by omega), vintEncode, BigEndian.length_encode]
  have hget : (pre ++ (vint (k + 1) n ++ rest)).getD pre.length 0 = first := by
    rw [hvint, List.getD_append_right _ _ _ _ le_rfl, Nat.sub_self]
    rfl
  have htail : ((pre ++ (vint (k + 1) n ++ rest)).drop (pre.length + 1)).take (k + 1 - 1) =
      BigEndian.encode k n := by
    rw [hvint, ← List.drop_drop, List.drop_left, Nat.add_sub_cancel]
    exact List.take_left' (BigEndian.length_encode k n)
  have hvalue : (BigEndian.encode k n).foldl (fun value b => value * 256 + b.toNat)
      (first &&& ~~~getSizeMask (k + 1)).toNat = n := by
    have hmod : BigEndian.decode (BigEndian.encode k n) = n % 256 ^ k := by
      rw [← encode_mod k n 1, Nat.mul_one, BigEndian.decode_encode (Nat.mod_lt _ (by positivity))]
    rw [foldl_bytes, hbits, BigEndian.length_encode, hmod, Nat.div_add_mod']
  have hlong : (pre ++ (vint (k + 1) n ++ rest)).length = pre.length + (k + 1 + rest.length) := by
    rw [List.length_append, List.length_append, length_vint]
  rw [vintDecode, if_neg (by omega), hget]
  dsimp only
  rw [if_neg hne, hlength, if_neg (Nat.succ_ne_zero k), if_neg (by omega), htail, hvalue, decide_eq_false hn.ne]
  rfl

/-- A number below `2 ^ 53` as it is written. -/
lemma vintEncodedNumber_eq (h : n < 2 ^ 53) : ∃ byteLength : ℕ, vintEncodedNumber n = .ok (vint byteLength n) ∧
    1 ≤ byteLength ∧ byteLength ≤ 8 ∧ n < 2 ^ (7 * byteLength) - 1 := by
  obtain ⟨byteLength, hlength, hlow, hhigh, hbound, -⟩ := getEBMLByteLength_spec h
  exact ⟨byteLength, by rw [vintEncodedNumber, hlength, Except.ok_bind, numberToByteArray_eq hlength]; rfl, hlow, hhigh,
    hbound⟩

lemma lt_of_vintEncodedNumber {bytes : Bytes} (h : vintEncodedNumber n = .ok bytes) : n < 2 ^ 53 := by
  obtain ⟨byteLength, hlength, -⟩ := Except.bind_eq_ok.mp h
  exact lt_of_getEBMLByteLength hlength

lemma decodeVintEncodedNumber_vint (hlow : 1 ≤ byteLength) (hhigh : byteLength ≤ 8)
    (hn : n < 2 ^ (7 * byteLength) - 1) (pre rest : Bytes) :
    decodeVintEncodedNumber (pre ++ (vint byteLength n ++ rest)) pre.length = .ok (n, byteLength) := by
  rw [decodeVintEncodedNumber, vintDecode_vint hlow hhigh hn, Except.ok_bind]

/-- The fixed length is kept. -/
lemma vintEncodedFixed_eq {num : ℤ} {bytes : Bytes} (h : vintEncodeFixed num byteLength = .ok bytes) :
    0 ≤ num ∧ num.toNat < 2 ^ (7 * byteLength) - 1 ∧ bytes = vint byteLength num.toNat := by
  rw [vintEncodeFixed] at h
  split_ifs at h with hrange
  rw [not_or, not_or, not_lt, not_lt, not_le] at hrange
  refine ⟨hrange.2.1, ?_, (Except.ok.inj h).symm⟩
  have hcast : ((2 ^ (7 * byteLength) - 1 : ℕ) : ℤ) = 2 ^ (7 * byteLength) - 1 := by
    rw [Nat.cast_sub Nat.one_le_two_pow]
    norm_num
  zify
  rw [hcast, Int.toNat_of_nonneg hrange.2.1]
  exact hrange.2.2

end Werift.Container
