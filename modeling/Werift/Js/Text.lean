import Mathlib

/-!
# Texts

A text without lone surrogates is a `String`.  `Buffer.from(text, "utf8")` are its bytes in UTF-8, and
`buf.toString("utf8")` reads them back; where the bytes are not UTF-8 it puts replacement characters.
-/

namespace Werift.Js

/-- `Buffer.from(text, "utf8")`. -/
def encodeUtf8 (text : String) : List UInt8 := text.toUTF8.data.toList

/-- The state of the decoder inside a character: how many bytes are missing, the bits so far, and
the range of the next byte. -/
structure Utf8State where
  needed : ℕ
  codePoint : ℕ
  lower : ℕ
  upper : ℕ

/-- What the decoder does with the first byte of a character: it is one, or is not the start of any,
or begins one of several bytes. -/
def utf8Start (b : ℕ) : Option Char × Option Utf8State :=
  if b < 0x80 then (some (Char.ofNat b), none)
  else if 0xc2 ≤ b ∧ b ≤ 0xdf then (none, some ⟨1, b % 0x20, 0x80, 0xbf⟩)
  else if 0xe0 ≤ b ∧ b ≤ 0xef then
    (none, some ⟨2, b % 0x10, if b = 0xe0 then 0xa0 else 0x80, if b = 0xed then 0x9f else 0xbf⟩)
  else if 0xf0 ≤ b ∧ b ≤ 0xf4 then
    (none, some ⟨3, b % 8, if b = 0xf0 then 0x90 else 0x80, if b = 0xf4 then 0x8f else 0xbf⟩)
  else (some (Char.ofNat 0xfffd), none)

/-- The decoder of UTF-8 that replaces what is not UTF-8.  A byte that does not continue a character
is looked at again as the first one of the next. -/
def decodeReplacing : Option Utf8State → List UInt8 → List Char
  | none, [] => []
  | some _, [] => [Char.ofNat 0xfffd]
  | none, b :: rest =>
    let (char, state) := utf8Start b.toNat
    char.toList ++ decodeReplacing state rest
  | some s, b :: rest =>
    if s.lower ≤ b.toNat ∧ b.toNat ≤ s.upper then
      let codePoint := s.codePoint * 0x40 + b.toNat % 0x40
      if s.needed = 1 then Char.ofNat codePoint :: decodeReplacing none rest
      else decodeReplacing (some ⟨s.needed - 1, codePoint, 0x80, 0xbf⟩) rest
    else
      let (char, state) := utf8Start b.toNat
      Char.ofNat 0xfffd :: (char.toList ++ decodeReplacing state rest)

/-- `buf.toString("utf8")`. -/
def decodeUtf8 (buf : List UInt8) : String :=
  (String.fromUTF8? ⟨buf.toArray⟩).getD (String.ofList (decodeReplacing none buf))

/-- `buf.toString("hex")`. -/
def toHex (buf : List UInt8) : String :=
  String.ofList (buf.flatMap fun b => [Nat.digitChar (b.toNat / 16), Nat.digitChar (b.toNat % 16)])

lemma digitChar_injOn : Set.InjOn Nat.digitChar (Set.Iio 16) := by
  intro a ha b hb
  rw [Set.mem_Iio] at ha hb
  interval_cases a <;> interval_cases b <;> decide

/-- Different buffers have different texts. -/
theorem toHex_injective : Function.Injective toHex := by
  intro buf buf' h
  replace h := String.ofList_injective h
  induction buf generalizing buf' with
  | nil =>
    cases buf' with
    | nil => rfl
    | cons b' buf' => simp at h
  | cons b buf ih =>
    cases buf' with
    | nil => simp at h
    | cons b' buf' =>
      simp only [List.flatMap_cons, List.cons_append, List.nil_append, List.cons.injEq] at h
      obtain ⟨hhigh, hlow, hrest⟩ := h
      have hb := b.toNat_lt
      have hb' := b'.toNat_lt
      have hdiv := digitChar_injOn (Set.mem_Iio.mpr (by omega)) (Set.mem_Iio.mpr (by omega)) hhigh
      have hmod := digitChar_injOn (Set.mem_Iio.mpr (by omega)) (Set.mem_Iio.mpr (by omega)) hlow
      rw [ih hrest, UInt8.toNat_inj.mp (by omega : b.toNat = b'.toNat)]

/-- **Round trip.**  A text is read back from its bytes. -/
theorem decodeUtf8_encodeUtf8 (text : String) : decodeUtf8 (encodeUtf8 text) = text := by
  have hbytes : (⟨(encodeUtf8 text).toArray⟩ : ByteArray) = text.toUTF8 := by simp [encodeUtf8]
  have hvalid : text.toUTF8.IsValidUTF8 := text.isValidUTF8
  rw [decodeUtf8, hbytes, String.fromUTF8?, dif_pos hvalid]
  rfl

/-- A cut character is replaced once, and the byte after it starts a new one. -/
example : decodeReplacing none [0xe2, 0x82, 0x41] = [Char.ofNat 0xfffd, 'A'] := by decide

end Werift.Js
