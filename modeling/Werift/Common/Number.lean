import Mathlib

/-!
# Modular arithmetic of `common/src/number.ts`

The comparison functions of the source differ in the width of their numbers only: `uintGt` has the
half of the number space as a parameter, and `uint16Gt` and `uint32Gt` are its two uses.
-/

namespace Werift

/-- `(a + b) & 0xffff`. -/
def uint16Add (a b : ℤ) : ℤ := (a + b) % 0x10000

/-- `(a + b) & 0xffffffff`. -/
def uint32Add (a b : ℤ) : ℤ := (a + b) % 0x100000000

/-- Whether `a` is ahead of `b`, where `halfMod` is half of the number space. -/
def uintGt (halfMod a b : ℤ) : Bool :=
  (a < b && b - a > halfMod) || (a > b && a - b < halfMod)

/-- Whether `a` is ahead of `b` among 16-bit numbers. -/
def uint16Gt (a b : ℤ) : Bool := uintGt 0x8000 a b

/-- Whether `a` is `b` or ahead of it among 16-bit numbers. -/
def uint16Gte (a b : ℤ) : Bool := a == b || uint16Gt a b

/-- Whether `a` is ahead of `b` among 32-bit numbers. -/
def uint32Gt (a b : ℤ) : Bool := uintGt 0x80000000 a b

/-- Whether `a` is `b` or ahead of it among 32-bit numbers. -/
def uint32Gte (a b : ℤ) : Bool := a == b || uint32Gt a b

end Werift
