import Mathlib

/-!
# Checksums (`common/src/crc.ts`)

`crc32` of a buffer, which takes sixteen bytes a turn and the rest byte by byte.  `crc32_concat_inj`
says that the last byte of a buffer can be told from the checksum and the bytes before it.
-/

namespace Werift

/-- `POLY_CRC32`. -/
def POLY_CRC32 : UInt32 := 0xedb88320

/-- One of the eight steps by which `generateCRCTable` makes an entry. -/
def crcShift (polynomial c : UInt32) : UInt32 :=
  if c &&& 1 ≠ 0 then polynomial ^^^ (c >>> 1) else c >>> 1

/-- The `n`-th entry of `generateCRCTable(polynomial)`. -/
def generateCRCTable (polynomial n : UInt32) : UInt32 := (crcShift polynomial)^[8] n

/-- `table32`. -/
def table32 (n : UInt32) : UInt32 := generateCRCTable POLY_CRC32 n

/-- The tables of `generateSliceBy16Tables(table32)`: the `k`-th entry of the list is the table
`k`, and the table `0` is `table32`. -/
def tables32By16 : ℕ → UInt32 → UInt32
  | 0, n => table32 n
  | k + 1, n => (tables32By16 k n >>> 8) ^^^ table32 (tables32By16 k n &&& 0xff)

/-- A turn of the second loop of `crcBuffer`. -/
def crcByte (crc : UInt32) (b : UInt8) : UInt32 :=
  (crc >>> 8) ^^^ table32 ((crc ^^^ b.toUInt32) &&& 0xff)

/-- The two loops of `crcBuffer`. -/
def crcLoop : UInt32 → List UInt8 → UInt32
  | crc, b0 :: b1 :: b2 :: b3 :: b4 :: b5 :: b6 :: b7 :: b8 :: b9 :: b10 :: b11 :: b12 :: b13 ::
      b14 :: b15 :: rest =>
    crcLoop
      (tables32By16 15 (b0.toUInt32 ^^^ (crc &&& 255)) ^^^
        tables32By16 14 (b1.toUInt32 ^^^ ((crc >>> 8) &&& 255)) ^^^
        tables32By16 13 (b2.toUInt32 ^^^ ((crc >>> 16) &&& 255)) ^^^
        tables32By16 12 (b3.toUInt32 ^^^ (crc >>> 24)) ^^^
        tables32By16 11 b4.toUInt32 ^^^ tables32By16 10 b5.toUInt32 ^^^
        tables32By16 9 b6.toUInt32 ^^^ tables32By16 8 b7.toUInt32 ^^^
        tables32By16 7 b8.toUInt32 ^^^ tables32By16 6 b9.toUInt32 ^^^
        tables32By16 5 b10.toUInt32 ^^^ tables32By16 4 b11.toUInt32 ^^^
        tables32By16 3 b12.toUInt32 ^^^ tables32By16 2 b13.toUInt32 ^^^
        tables32By16 1 b14.toUInt32 ^^^ table32 b15.toUInt32) rest
  | crc, rest => rest.foldl crcByte crc

/-- `crc32(input)`. -/
def crc32 (input : List UInt8) : UInt32 := ~~~crcLoop (~~~0) input

/-- The checksum of the nine digits. -/
example : crc32 [0x31, 0x32, 0x33, 0x34, 0x35, 0x36, 0x37, 0x38, 0x39] = 0xcbf43926 := by
  decide +kernel

/-! ## The last byte -/

/-- A step moves the low bit to the top, so that it can be undone. -/
lemma crcShift_injective : Function.Injective (crcShift POLY_CRC32) := by
  have hcross : ∀ c d : UInt32, POLY_CRC32 ^^^ (c >>> 1) ≠ d >>> 1 := by
    intro c d h
    have hpoly : POLY_CRC32 = (d >>> 1) ^^^ (c >>> 1) := by
      rw [← h, UInt32.xor_assoc, UInt32.xor_self, UInt32.xor_zero]
    have hhalf : ∀ e : UInt32, (e >>> 1).toNat < 2 ^ 31 := by
      intro e
      have := e.toNat_lt
      simp [UInt32.toNat_shiftRight, Nat.shiftRight_eq_div_pow]
      omega
    have hlt := Nat.xor_lt_two_pow (hhalf d) (hhalf c)
    rw [← UInt32.toNat_xor, ← hpoly] at hlt
    exact absurd hlt (by decide)
  intro c d h
  have hparity : ∀ e : UInt32, e &&& 1 ≠ 0 ↔ e.toNat % 2 = 1 := by
    intro e
    rw [Ne, ← UInt32.toNat_inj, UInt32.toNat_and]
    have : e.toNat &&& 1 = e.toNat % 2 := Nat.and_one_is_mod _
    simp only [UInt32.reduceToNat, this]
    omega
  have hlow : ∀ c d : UInt32, c >>> 1 = d >>> 1 → c.toNat % 2 = d.toNat % 2 → c = d := by
    intro c d hshift hbit
    have := congrArg UInt32.toNat hshift
    simp only [UInt32.toNat_shiftRight, UInt32.reduceToNat, Nat.reduceMod,
      Nat.shiftRight_eq_div_pow, pow_one] at this
    exact UInt32.toNat_inj.mp (by omega)
  unfold crcShift at h
  simp only [hparity] at h
  split_ifs at h with hc hd hd
  · exact hlow c d ((UInt32.xor_right_inj _).mp h) (by omega)
  · exact absurd h (hcross c d)
  · exact absurd h.symm (hcross d c)
  · exact hlow c d h (by omega)

lemma table32_injective : Function.Injective table32 := crcShift_injective.iterate 8

lemma toUInt32_injective : Function.Injective UInt8.toUInt32 := by
  intro a b h
  have := congrArg UInt32.toNat h
  exact UInt8.toNat_inj.mp (by simpa using this)

lemma crcByte_injective (crc : UInt32) : Function.Injective (crcByte crc) := by
  intro a b h
  have hindex := table32_injective ((UInt32.xor_right_inj _).mp h)
  have hlow := congrArg UInt32.toUInt8 hindex
  have hmask : ∀ e : UInt8, e &&& 255 = e := fun _ => UInt8.and_neg_one
  simpa [hmask] using hlow

lemma crcLoop_of_length_lt {x : List UInt8} (h : x.length < 16) (crc : UInt32) :
    crcLoop crc x = x.foldl crcByte crc := by
  unfold crcLoop
  split
  · simp at h
    omega
  · rfl

/-- A list that is long enough has a first element. -/
lemma exists_cons_of_succ_le {x : List UInt8} {n : ℕ} (h : n + 1 ≤ x.length) :
    ∃ b rest, x = b :: rest ∧ n ≤ rest.length := by
  cases x with
  | nil => exact absurd h (by simp)
  | cons b rest => exact ⟨b, rest, rfl, Nat.le_of_succ_le_succ h⟩

/-- The last byte of a buffer can be told from the state of the loops behind it. -/
lemma crcLoop_concat_injective (crc : UInt32) (x : List UInt8) :
    Function.Injective fun b => crcLoop crc (x ++ [b]) := by
  induction hn : x.length using Nat.strong_induction_on generalizing crc x with
  | _ n ih =>
    intro a b hab
    dsimp only at hab
    by_cases hshort : x.length < 15
    · have hlen : ∀ e, (x ++ [e]).length < 16 := by
        intro e
        rw [List.length_append, List.length_singleton]
        omega
      rw [crcLoop_of_length_lt (hlen a), crcLoop_of_length_lt (hlen b), List.foldl_concat,
        List.foldl_concat] at hab
      exact crcByte_injective _ hab
    · -- fifteen bytes are there, and then it matters whether there is a sixteenth
      have h15 : 15 ≤ x.length := Nat.le_of_not_lt hshort
      obtain ⟨b0, x, rfl, h14⟩ := exists_cons_of_succ_le h15
      obtain ⟨b1, x, rfl, h13⟩ := exists_cons_of_succ_le h14
      obtain ⟨b2, x, rfl, h12⟩ := exists_cons_of_succ_le h13
      obtain ⟨b3, x, rfl, h11⟩ := exists_cons_of_succ_le h12
      obtain ⟨b4, x, rfl, h10⟩ := exists_cons_of_succ_le h11
      obtain ⟨b5, x, rfl, h9⟩ := exists_cons_of_succ_le h10
      obtain ⟨b6, x, rfl, h8⟩ := exists_cons_of_succ_le h9
      obtain ⟨b7, x, rfl, h7⟩ := exists_cons_of_succ_le h8
      obtain ⟨b8, x, rfl, h6⟩ := exists_cons_of_succ_le h7
      obtain ⟨b9, x, rfl, h5⟩ := exists_cons_of_succ_le h6
      obtain ⟨b10, x, rfl, h4⟩ := exists_cons_of_succ_le h5
      obtain ⟨b11, x, rfl, h3⟩ := exists_cons_of_succ_le h4
      obtain ⟨b12, x, rfl, h2⟩ := exists_cons_of_succ_le h3
      obtain ⟨b13, x, rfl, h1⟩ := exists_cons_of_succ_le h2
      obtain ⟨b14, x, rfl, -⟩ := exists_cons_of_succ_le h1
      cases x with
      | nil =>
        simp only [List.cons_append, List.nil_append, crcLoop, List.foldl_nil] at hab
        exact toUInt32_injective (table32_injective ((UInt32.xor_right_inj _).mp hab))
      | cons b15 rest =>
        simp only [List.cons_append, crcLoop] at hab
        exact ih rest.length (by simp at hn; omega) _ rest rfl hab

/-- The checksums of buffers that differ in the last byte are different. -/
theorem crc32_concat_inj {x : List UInt8} {a b : UInt8} (h : crc32 (x ++ [a]) = crc32 (x ++ [b])) :
    a = b := by
  have hnot := congrArg (~~~ ·) h
  simp only [crc32, UInt32.not_not] at hnot
  exact crcLoop_concat_injective _ x hnot

/-! ## Castagnoli's polynomial -/

/-- `POLY_CRC32C`. -/
def POLY_CRC32C : UInt32 := 0x82f63b78

/-- `generateSliceBy16Tables(table0)`. -/
def generateSliceBy16Tables (table0 : UInt32 → UInt32) : ℕ → UInt32 → UInt32
  | 0, n => table0 n
  | k + 1, n =>
    (generateSliceBy16Tables table0 k n >>> 8) ^^^ table0 (generateSliceBy16Tables table0 k n &&& 0xff)

/-- The two loops of `crcBuffer` for the tables that belong to `table0`. -/
def crcBuffer (table0 : UInt32 → UInt32) : UInt32 → List UInt8 → UInt32
  | crc, b0 :: b1 :: b2 :: b3 :: b4 :: b5 :: b6 :: b7 :: b8 :: b9 :: b10 :: b11 :: b12 :: b13 ::
      b14 :: b15 :: rest =>
    let t := generateSliceBy16Tables table0
    crcBuffer table0
      (t 15 (b0.toUInt32 ^^^ (crc &&& 255)) ^^^ t 14 (b1.toUInt32 ^^^ ((crc >>> 8) &&& 255)) ^^^
        t 13 (b2.toUInt32 ^^^ ((crc >>> 16) &&& 255)) ^^^ t 12 (b3.toUInt32 ^^^ (crc >>> 24)) ^^^
        t 11 b4.toUInt32 ^^^ t 10 b5.toUInt32 ^^^ t 9 b6.toUInt32 ^^^ t 8 b7.toUInt32 ^^^
        t 7 b8.toUInt32 ^^^ t 6 b9.toUInt32 ^^^ t 5 b10.toUInt32 ^^^ t 4 b11.toUInt32 ^^^
        t 3 b12.toUInt32 ^^^ t 2 b13.toUInt32 ^^^ t 1 b14.toUInt32 ^^^ table0 b15.toUInt32) rest
  | crc, rest =>
    rest.foldl (fun crc b => (crc >>> 8) ^^^ table0 ((crc ^^^ b.toUInt32) &&& 0xff)) crc

/-- `crc32c(input)`. -/
def crc32c (input : List UInt8) : UInt32 :=
  ~~~crcBuffer (generateCRCTable POLY_CRC32C) (~~~0) input

/-- The checksum of the nine digits. -/
example : crc32c [0x31, 0x32, 0x33, 0x34, 0x35, 0x36, 0x37, 0x38, 0x39] = 0xe3069283 := by
  decide +kernel

end Werift
