import Werift.Lib.BigEndian

/-!
# Key streams

A stream cipher adds a key stream to the data, octet by octet and modulo two.  The stream is cut
from blocks of sixteen octets, and in counter mode the blocks are the images of consecutive counters.
Applying the stream twice gives the data back (`crypt_crypt`), and so does a mask (`mask_injective`).
-/

namespace CounterMode

/-- An octet of the stream of these blocks. -/
def keystream (blocks : ℕ → List UInt8) (i : ℕ) : UInt8 := (blocks (i / 16)).getD (i % 16) 0

/-- The data with the stream of these blocks added to it. -/
def crypt (blocks : ℕ → List UInt8) (data : List UInt8) : List UInt8 :=
  data.mapIdx fun i b => b ^^^ keystream blocks i

/-- The octets with a mask added to them. -/
def mask (pad bytes : List UInt8) : List UInt8 := bytes.mapIdx fun i b => b ^^^ pad.getD i 0

/-- The counter `j` places behind this one, as a block. -/
def counterBlock (counter : List UInt8) (j : ℕ) : List UInt8 :=
  BigEndian.encode 16 (BigEndian.decode counter + j)

variable {blocks : ℕ → List UInt8} {pad bytes bytes' : List UInt8}

@[simp] lemma length_crypt (data : List UInt8) : (crypt blocks data).length = data.length := by
  simp [crypt]

@[simp] lemma length_mask : (mask pad bytes).length = bytes.length := by
  simp [mask]

/-- An addition modulo two is undone by itself. -/
lemma xor_xor_self (b c : UInt8) : b ^^^ c ^^^ c = b := by
  rw [UInt8.xor_assoc, UInt8.xor_self, UInt8.xor_zero]

/-- **The stream is its own inverse.** -/
theorem crypt_crypt (data : List UInt8) : crypt blocks (crypt blocks data) = data := by
  apply List.ext_getElem (by simp)
  intro i h h'
  simp only [crypt, List.getElem_mapIdx, xor_xor_self]

lemma mask_mask (bytes : List UInt8) : mask pad (mask pad bytes) = bytes := by
  apply List.ext_getElem (by simp)
  intro i h h'
  simp only [mask, List.getElem_mapIdx, xor_xor_self]

/-- Different octets stay different behind a mask. -/
theorem mask_injective (h : mask pad bytes = mask pad bytes') : bytes = bytes' := by
  have hback : mask pad (mask pad bytes) = bytes := mask_mask bytes
  rw [← hback, h, mask_mask]

end CounterMode
