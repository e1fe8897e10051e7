import Werift.Rtp.Header

/-!
# LEB128 (`rtp/src/codec/leb128.ts` and `leb128decode` of `rtp/src/codec/av1.ts`)

A number is written in groups of seven bits, the lowest group first, and the top bit of a byte says
that another one follows.
-/

namespace Werift.Codec

open Rtp (Bytes)

/-- `Number.MAX_SAFE_INTEGER`. -/
def MAX_SAFE_INTEGER : ℕ := 2 ^ 53 - 1

/-- The loop of `leb128encode`. -/
def leb128Bytes (remaining : ℕ) : Bytes :=
  if remaining < 128 then [UInt8.ofNat remaining]
  else UInt8.ofNat (remaining % 128 + 0x80) :: leb128Bytes (remaining / 128)
termination_by remaining
decreasing_by omega

/-- `leb128encode(value)`. -/
def leb128encode (value : ℕ) : Except String Bytes :=
  if value ≤ MAX_SAFE_INTEGER then .ok (leb128Bytes value)
  else .error "LEB128 encode requires a non-negative safe integer"

/-- The loop of `leb128decode(buf)` from the byte `i` on, with this many rounds left. -/
def leb128Rounds : ℕ → ℕ → ℕ → Bytes → Except String (ℕ × ℕ)
  | 0, _, _, _ => .error "LEB128 decode incomplete"
  | _ + 1, _, _, [] => .error "LEB128 decode incomplete"
  | rounds + 1, i, value, leb128byte :: rest =>
    let value := value + leb128byte.toNat % 128 * 128 ^ i
    if leb128byte.toNat < 0x80 then
      if value ≤ MAX_SAFE_INTEGER then .ok (value, i + 1)
      else .error "LEB128 value exceeds safe integer"
    else leb128Rounds rounds (i + 1) value rest

/-- `leb128decode(buf)`: the number and how many bytes it takes. -/
def leb128decode (buf : Bytes) : Except String (ℕ × ℕ) := leb128Rounds 8 0 0 buf

lemma length_leb128Bytes_pos (n : ℕ) : 0 < (leb128Bytes n).length := by
  rw [leb128Bytes]
  split_ifs <;> simp

/-- What the rounds read is a safe integer, and the bytes it takes are there. -/
lemma leb128Rounds_ok {rounds i value result bytes : ℕ} {buf : Bytes}
    (h : leb128Rounds rounds i value buf = .ok (result, bytes)) :
    result ≤ MAX_SAFE_INTEGER ∧ i < bytes ∧ bytes ≤ i + buf.length := by
  induction rounds generalizing i value buf with
  | zero => simp [leb128Rounds] at h
  | succ rounds ih =>
    cases buf with
    | nil => simp [leb128Rounds] at h
    | cons byte rest =>
      rw [leb128Rounds] at h
      split_ifs at h with hlast hsafe
      · obtain ⟨rfl, rfl⟩ := Prod.mk.inj (Except.ok.inj h)
        exact ⟨hsafe, by omega, by rw [List.length_cons]; omega⟩
      · obtain ⟨hresult, hlow, hhigh⟩ := ih h
        rw [List.length_cons]
        exact ⟨hresult, by omega, by omega⟩

/-- What is read is a safe integer, and the bytes it takes are there. -/
theorem leb128decode_ok {buf : Bytes} {result bytes : ℕ} (h : leb128decode buf = .ok (result, bytes)) :
    result ≤ MAX_SAFE_INTEGER ∧ 0 < bytes ∧ bytes ≤ buf.length := by
  have hok := leb128Rounds_ok h
  rw [zero_add] at hok
  exact hok

end Werift.Codec
