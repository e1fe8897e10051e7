import Mathlib

/-!
# Bit streams (`BitStream` of `common/src/binary.ts`)

A field is written and read octet by octet, the most significant digits first.  A field may begin in
the middle of an octet.
-/

namespace Werift

/-- The fields of a `BitStream`. -/
structure BitStream where
  uint8Array : List UInt8
  position : ℕ := 0
  bitsPending : ℕ := 0
deriving DecidableEq

namespace BitStream

/-- `this.uint8Array[this.position - 1] |= value`. -/
def orLast (s : BitStream) (value : ℕ) : BitStream :=
  { s with uint8Array := s.uint8Array.modify (s.position - 1) (· ||| UInt8.ofNat value) }

/-- `writeBits(bits, value)` for less than 32 bits. -/
def writeBits (s : BitStream) (bits value : ℕ) : BitStream :=
  if bits = 0 then s
  else
    let value := value % 2 ^ bits
    if 0 < s.bitsPending then
      if bits < s.bitsPending then
        { s.orLast (value <<< (s.bitsPending - bits)) with bitsPending := s.bitsPending - bits }
      else if bits = s.bitsPending then { s.orLast value with bitsPending := 0 }
      else
        writeBits { s.orLast (value >>> (bits - s.bitsPending)) with bitsPending := 0 }
          (bits - s.bitsPending) value
    else
      let bitsConsumed := min 8 bits
      writeBits
        { uint8Array := s.uint8Array.set s.position
            (UInt8.ofNat ((value >>> (bits - bitsConsumed)) <<< (8 - bitsConsumed)))
          position := s.position + 1
          bitsPending := 8 - bitsConsumed } (bits - bitsConsumed) value
termination_by bits
decreasing_by all_goals omega

/-- `_readBits(bits, bitBuffer)`, and the stream behind it. -/
def readBits (s : BitStream) (bits bitBuffer : ℕ) : ℕ × BitStream :=
  if bits = 0 then (bitBuffer, s)
  else if 0 < s.bitsPending then
    let byte := (s.uint8Array.getD (s.position - 1) 0).toNat % 2 ^ s.bitsPending
    let bitsConsumed := min s.bitsPending bits
    let bitsPending := s.bitsPending - bitsConsumed
    readBits { s with bitsPending } (bits - bitsConsumed)
      (bitBuffer <<< bitsConsumed ||| byte >>> bitsPending)
  else
    let bitsConsumed := min 8 bits
    let bitsPending := 8 - bitsConsumed
    readBits { s with position := s.position + 1, bitsPending } (bits - bitsConsumed)
      (bitBuffer <<< bitsConsumed ||| (s.uint8Array.getD s.position 0).toNat >>> bitsPending)
termination_by bits
decreasing_by all_goals omega

/-- Writing does not move the end of the stream. -/
lemma length_writeBits (s : BitStream) (bits value : ℕ) :
    (s.writeBits bits value).uint8Array.length = s.uint8Array.length := by
  fun_induction writeBits s bits value with
  | case1 => rfl
  | case2 => exact List.length_modify ..
  | case3 => exact List.length_modify ..
  | case4 _ _ _ _ _ _ _ _ ih => rw [ih]; exact List.length_modify ..
  | case5 _ _ _ _ _ _ _ ih => rw [ih]; exact List.length_set ..

end BitStream

end Werift
