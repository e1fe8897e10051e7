import Werift.Lib.BigEndian

/-!
# Schemas of byte strings

A schema says how the values of a type are written and how they are read from the front of a byte
string.  Writing fails for a value that does not fit, reading fails when bytes are missing.  Bytes
behind the value are left over.
-/

/-- How values are written, and read from the front of a byte string. -/
structure Schema (α : Type*) where
  encode : α → Option (List UInt8)
  decode : List UInt8 → Option (α × List UInt8)

namespace Schema

variable {α β γ : Type*}

/-- Read a value from a byte string and ignore what follows. -/
def read (s : Schema α) (bytes : List UInt8) : Option α := (s.decode bytes).map Prod.fst

/-! ## Numbers and buffers -/

/-- The first `k` bytes, and the rest. -/
def takeBytes (k : ℕ) (bytes : List UInt8) : Option (List UInt8 × List UInt8) :=
  if k ≤ bytes.length then some (bytes.take k, bytes.drop k) else none

/-- A number of `k` bytes. -/
def uintBE (k : ℕ) : Schema ℕ where
  encode n := if n < 256 ^ k then some (BigEndian.encode k n) else none
  decode bytes := (takeBytes k bytes).map fun p => (BigEndian.decode p.1, p.2)

/-! ## Sequences -/

/-- One value after the other. -/
def prod (s : Schema α) (t : Schema β) : Schema (α × β) where
  encode p := (s.encode p.1).bind fun x => (t.encode p.2).map (x ++ ·)
  decode bytes := (s.decode bytes).bind fun p => (t.decode p.2).map fun q => ((p.1, q.1), q.2)

/-- A schema for the values of another type. -/
def map (s : Schema α) (f : α → β) (g : β → α) : Schema β where
  encode b := s.encode (g b)
  decode bytes := (s.decode bytes).map fun p => (f p.1, p.2)

/-! ## Length prefixes -/

/-- A byte string behind its length. -/
def prefixed (k : ℕ) : Schema (List UInt8) where
  encode b := ((uintBE k).encode b.length).map (· ++ b)
  decode bytes := ((uintBE k).decode bytes).bind fun p => takeBytes p.1 p.2

end Schema
