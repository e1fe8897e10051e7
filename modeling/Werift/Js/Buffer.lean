import Werift.Lib.BigEndian

/-!
# Buffers

A `Buffer` is a list of bytes.  Writing an integer out of the range of its field, or reading beyond
the end, throws a `RangeError`; both are `none` here.
-/

namespace Werift.Js

open BigEndian

/-- `buf.writeUIntBE(v, …)` for a field of `k` bytes. -/
def writeUIntBE (k : ℕ) (v : ℤ) : Option (List UInt8) :=
  if 0 ≤ v ∧ v < 256 ^ k then some (encode k v.toNat) else none

/-- `buf.writeUInt8(v, …)`. -/
def writeUInt8 (v : ℤ) : Option (List UInt8) := writeUIntBE 1 v

/-- `buf.writeUInt16BE(v, …)`. -/
def writeUInt16BE (v : ℤ) : Option (List UInt8) := writeUIntBE 2 v

/-- `buf.writeUInt32BE(v, …)`. -/
def writeUInt32BE (v : ℤ) : Option (List UInt8) := writeUIntBE 4 v

/-- `buf.readUIntBE(pos, k)`. -/
def readUIntBE (k : ℕ) (buf : List UInt8) (pos : ℕ) : Option ℤ :=
  if pos + k ≤ buf.length then some (decode ((buf.drop pos).take k)) else none

/-- `buf.readUInt8(pos)`. -/
def readUInt8 (buf : List UInt8) (pos : ℕ) : Option ℤ := readUIntBE 1 buf pos

/-- `buf.readUInt16BE(pos)`. -/
def readUInt16BE (buf : List UInt8) (pos : ℕ) : Option ℤ := readUIntBE 2 buf pos

/-- `buf.readUInt32BE(pos)`. -/
def readUInt32BE (buf : List UInt8) (pos : ℕ) : Option ℤ := readUIntBE 4 buf pos

/-- `buf.writeUInt32LE(v, …)`. -/
def writeUInt32LE (v : ℤ) : Option (List UInt8) := (writeUIntBE 4 v).map List.reverse

/-- `buf.readUInt32LE(pos)`. -/
def readUInt32LE (buf : List UInt8) (pos : ℕ) : Option ℤ :=
  if pos + 4 ≤ buf.length then some (decode ((buf.drop pos).take 4).reverse) else none

/-- `buf.slice(start, end)` for positions that are not negative. -/
def slice (buf : List UInt8) (start stop : ℕ) : List UInt8 := (buf.drop start).take (stop - start)

lemma writeUIntBE_eq_some {k : ℕ} {v : ℤ} {field : List UInt8} :
    writeUIntBE k v = some field ↔ (0 ≤ v ∧ v < 256 ^ k) ∧ encode k v.toNat = field := by
  unfold writeUIntBE
  split_ifs with h <;> simp [h]

lemma isSome_writeUIntBE {k : ℕ} {v : ℤ} : (writeUIntBE k v).isSome ↔ 0 ≤ v ∧ v < 256 ^ k := by
  unfold writeUIntBE
  split_ifs with h <;> simp [h]

lemma length_of_writeUIntBE {k : ℕ} {v : ℤ} {field : List UInt8}
    (h : writeUIntBE k v = some field) : field.length = k := by
  rw [writeUIntBE_eq_some] at h
  rw [← h.2, length_encode]

/-- **A written field is read back**, wherever it stands in the buffer. -/
theorem readUIntBE_append {k : ℕ} {v : ℤ} {field : List UInt8} (h : writeUIntBE k v = some field)
    (pre post : List UInt8) : readUIntBE k (pre ++ field ++ post) pre.length = some v := by
  have hlen : field.length = k := length_of_writeUIntBE h
  obtain ⟨⟨h0, hlt⟩, hfield⟩ := writeUIntBE_eq_some.mp h
  have hin : pre.length + k ≤ (pre ++ field ++ post).length := by
    simp only [List.length_append]
    omega
  have hslice : ((pre ++ field ++ post).drop pre.length).take k = field := by
    rw [← hlen]
    exact slice_append pre field post
  have hfit : v.toNat < 256 ^ k := by
    zify
    rwa [Int.toNat_of_nonneg h0]
  rw [readUIntBE, if_pos hin, hslice, ← hfield, decode_encode hfit, Int.toNat_of_nonneg h0]

/-- Reading within a buffer does not depend on what follows. -/
lemma readUIntBE_append_left {k pos : ℕ} {buf : List UInt8} (h : pos + k ≤ buf.length)
    (more : List UInt8) : readUIntBE k (buf ++ more) pos = readUIntBE k buf pos := by
  have hlength : pos + k ≤ (buf ++ more).length := by
    rw [List.length_append]
    omega
  rw [readUIntBE, readUIntBE, if_pos h, if_pos hlength, List.drop_append_of_le_length (by omega),
    List.take_append_of_le_length (by rw [List.length_drop]; omega)]

lemma readUInt32LE_append {v : ℤ} {field : List UInt8} (h : writeUInt32LE v = some field)
    (pre post : List UInt8) : readUInt32LE (pre ++ field ++ post) pre.length = some v := by
  obtain ⟨big, hbig, rfl⟩ := Option.map_eq_some_iff.mp h
  have hlen : big.reverse.length = 4 := by rw [List.length_reverse, length_of_writeUIntBE hbig]
  have hin : pre.length + 4 ≤ (pre ++ big.reverse ++ post).length := by
    simp only [List.length_append, hlen]
    omega
  have hslice : ((pre ++ big.reverse ++ post).drop pre.length).take 4 = big.reverse := by
    have := slice_append pre big.reverse post
    rwa [hlen] at this
  have hread := readUIntBE_append hbig [] []
  rw [List.nil_append, List.append_nil, List.length_nil, readUIntBE, if_pos
    (by rw [length_of_writeUIntBE hbig]), List.drop_zero, List.take_of_length_le
    (length_of_writeUIntBE hbig).le] at hread
  rw [readUInt32LE, if_pos hin, hslice, List.reverse_reverse, hread]

end Werift.Js
