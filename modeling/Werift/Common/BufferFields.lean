import Werift.Common.Binary

/-!
# Fields of a buffer (`bufferWriter` and `bufferReader` of `common/src/binary.ts`)

The fields stand one behind the other.  What is written is read back (`bufferReader_bufferWriter`), and a
value that does not fit its field throws (`isSome_bufferWriter_iff`).
-/

namespace Werift

/-- `bufferWriter(bytes, values)` for pairs of a size, which is not 8, and a value. -/
def bufferWriter : List (ℕ × ℤ) → Option (List UInt8)
  | [] => some []
  | (size, v) :: fields => do
    let field ← Js.writeUIntBE size v
    let buf ← bufferWriter fields
    return field ++ buf

/-- `bufferReader(buf, bytes)` for sizes other than 8. -/
def bufferReader (buf : List UInt8) : List ℕ → Option (List ℤ)
  | [] => some []
  | size :: bytes => do
    let read ← Js.readUIntBE size buf 0
    let values ← bufferReader (buf.drop size) bytes
    return read :: values

/-- **Written fields are read back** in front of more bytes. -/
theorem bufferReader_bufferWriter {fields : List (ℕ × ℤ)} {buf : List UInt8}
    (h : bufferWriter fields = some buf) (more : List UInt8) :
    bufferReader (buf ++ more) (fields.map Prod.fst) = some (fields.map Prod.snd) := by
  induction fields generalizing buf with
  | nil => rfl
  | cons field fields ih =>
    obtain ⟨bytes, hbytes, h⟩ := Option.bind_eq_some_iff.mp h
    obtain ⟨later, hlater, h⟩ := Option.bind_eq_some_iff.mp h
    obtain rfl := Option.some.inj h
    have hlength := Js.length_of_writeUIntBE hbytes
    have hread := Js.readUIntBE_append hbytes [] (later ++ more)
    rw [List.nil_append, List.length_nil] at hread
    rw [List.map_cons, List.map_cons, bufferReader, List.append_assoc, hread, List.drop_left' hlength,
      ih hlater]
    rfl

/-- Fields are written if each value fits. -/
lemma isSome_bufferWriter_iff {fields : List (ℕ × ℤ)} :
    (bufferWriter fields).isSome ↔ ∀ field ∈ fields, 0 ≤ field.2 ∧ field.2 < 256 ^ field.1 := by
  induction fields with
  | nil => exact ⟨fun _ field hmem => absurd hmem List.not_mem_nil, fun _ => rfl⟩
  | cons field fields ih =>
    rw [List.forall_mem_cons, ← ih, ← Js.isSome_writeUIntBE, bufferWriter]
    cases Js.writeUIntBE field.1 field.2 <;> cases bufferWriter fields <;> simp

lemma length_of_bufferWriter {fields : List (ℕ × ℤ)} {buf : List UInt8} (h : bufferWriter fields = some buf) :
    buf.length = (fields.map Prod.fst).sum := by
  induction fields generalizing buf with
  | nil =>
    obtain rfl := Option.some.inj h
    rfl
  | cons field fields ih =>
    obtain ⟨bytes, hbytes, h⟩ := Option.bind_eq_some_iff.mp h
    obtain ⟨later, hlater, h⟩ := Option.bind_eq_some_iff.mp h
    obtain rfl := Option.some.inj h
    rw [List.length_append, Js.length_of_writeUIntBE hbytes, ih hlater, List.map_cons, List.sum_cons]

end Werift
