import Werift.Lib.Except
import Werift.Rtp.RedRecovery

/-!
# Fields that are too narrow

`BitStream.writeBits` cuts a value to its field.  So a redundant block of more than 1023 octets, or with an
offset above 16383, is announced with another length or offset, and the packet does not come back
(`red_iff`).
-/

namespace Werift

lemma BitStream.writeBits_mod (s : BitStream) (bits value : ℕ) :
    s.writeBits bits (value % 2 ^ bits) = s.writeBits bits value := by
  rw [writeBits, writeBits, Nat.mod_mod]

namespace Rtp

/-- The field of a redundant block as it is written. -/
def RedBlock.written (b : RedBlock) : RedHeaderField :=
  match b.timestampOffset with
  | some timestampOffset =>
    { fBit := 1, blockPT := b.blockPT, timestampOffset := some (timestampOffset % 2 ^ 14)
      blockLength := some (b.block.length % 2 ^ 10) }
  | none => { fBit := 0, blockPT := b.blockPT }

variable {b : RedBlock} {redundant : List RedBlock} {primary : RedBlock}

/-- The values are cut to their fields. -/
lemma RedBlock.serialize_written (b : RedBlock) : b.field.serialize = b.written.serialize := by
  rw [RedBlock.field, RedBlock.written]
  cases b.timestampOffset with
  | none => rfl
  | some timestampOffset =>
    rw [RedHeaderField.serialize, RedHeaderField.serialize, if_pos (.inl rfl), if_pos (.inl rfl)]
    dsimp only [Option.getD_some]
    rw [← BitStream.writeBits_mod _ 14 timestampOffset, ← BitStream.writeBits_mod _ 10 b.block.length]

/-- **The fields of a packet** are read as they have been written. -/
lemma deSerializeFields_written (hPT : ∀ b ∈ redundant ++ [primary], b.blockPT < 128)
    (hredundant : ∀ b ∈ redundant, b.timestampOffset.isSome) (hprimary : primary.timestampOffset = none)
    (buf : Bytes) : RedHeader.deSerializeFields
      (((redundant ++ [primary]).map fun b => b.field.serialize).flatten ++ buf) =
        .ok ((redundant ++ [primary]).map RedBlock.written, buf) := by
  induction redundant with
  | nil =>
    have hwritten : primary.written = { fBit := 0, blockPT := primary.blockPT } := by
      rw [RedBlock.written, hprimary]
    rw [List.nil_append, List.map_singleton, List.map_singleton, List.flatten_singleton,
      RedBlock.serialize_written, hwritten]
    exact deSerializeFields_primary (hPT primary List.mem_cons_self) buf
  | cons b redundant ih =>
    obtain ⟨hb, hlater⟩ := List.forall_mem_cons.mp hPT
    obtain ⟨hsome, hredundant⟩ := List.forall_mem_cons.mp hredundant
    obtain ⟨timestampOffset, hoffset⟩ := Option.isSome_iff_exists.mp hsome
    have hwritten : b.written = ⟨1, b.blockPT, some (timestampOffset % 2 ^ 14),
        some (b.block.length % 2 ^ 10)⟩ := by
      rw [RedBlock.written, hoffset]
    have hoffsetFits : timestampOffset % 2 ^ 14 < 16384 := Nat.mod_lt _ (by norm_num)
    have hlengthFits : b.block.length % 2 ^ 10 < 1024 := Nat.mod_lt _ (by norm_num)
    rw [List.cons_append, List.map_cons, List.map_cons, List.flatten_cons, List.append_assoc,
      RedBlock.serialize_written, hwritten, deSerializeFields_redundant hb hoffsetFits hlengthFits,
      ih hlater hredundant]
    rfl

/-- **What is read back**: the blocks as the written fields divide them. -/
lemma deSerialize_serialize (hPT : ∀ b ∈ redundant ++ [primary], b.blockPT < 128)
    (hredundant : ∀ b ∈ redundant, b.timestampOffset.isSome) (hprimary : primary.timestampOffset = none) :
    Red.deSerialize (Red.serialize (redundant ++ [primary])) =
      Red.readBlocks ((redundant ++ [primary]).map RedBlock.written)
        ((redundant ++ [primary]).map (·.block)).flatten := by
  have hfields := deSerializeFields_written hPT hredundant hprimary
    ((redundant ++ [primary]).map (·.block)).flatten
  have hnonempty : ¬(Red.serialize (redundant ++ [primary])).length < 1 := by
    intro hempty
    have hnil := List.length_eq_zero_iff.mp (Nat.lt_one_iff.mp hempty)
    rw [Red.serialize] at hnil
    rw [hnil, RedHeader.deSerializeFields] at hfields
    cases hfields
  rw [Red.deSerialize, RedHeader.deSerialize, if_neg hnonempty, Red.serialize, hfields]

/-- A block has the offset and the length of its field. -/
def Announced (field : RedHeaderField) (b : RedBlock) : Prop :=
  field.fBit = 1 → b.timestampOffset = field.timestampOffset ∧
    b.block.length = field.blockLength.getD 0

/-- **Blocks that are read** are as long as their fields say. -/
lemma announced_of_readBlocks {fields : List RedHeaderField} {buf : Bytes} {blocks : List RedBlock}
    (h : Red.readBlocks fields buf = .ok blocks) : List.Forall₂ Announced fields blocks := by
  induction fields generalizing buf blocks with
  | nil =>
    cases h
    exact .nil
  | cons field fields ih =>
    rw [Red.readBlocks] at h
    by_cases hfBit : field.fBit = 1
    · rw [if_pos hfBit] at h
      dsimp only at h
      split_ifs at h with hlength
      obtain ⟨later, hlater, rfl⟩ := Except.map_eq_ok.mp h
      refine .cons (fun _ => ⟨rfl, ?_⟩) (ih hlater)
      exact List.length_take_of_le (Nat.not_lt.mp hlength)
    · rw [if_neg hfBit] at h
      obtain ⟨later, hlater, rfl⟩ := Except.map_eq_ok.mp h
      exact .cons (fun hone => absurd hone hfBit) (ih hlater)

/-- **RED packets** come back iff the lengths and the offsets of their redundant blocks fit the fields. -/
theorem red_iff (redundant : List RedBlock) (primary : RedBlock)
    (hPT : ∀ b ∈ redundant ++ [primary], b.blockPT < 128)
    (hredundant : ∀ b ∈ redundant, b.timestampOffset.isSome) (hprimary : primary.timestampOffset = none) :
    Red.deSerialize (Red.serialize (redundant ++ [primary])) = .ok (redundant ++ [primary]) ↔
      ∀ b ∈ redundant, b.block.length ≤ 1023 ∧ ∀ offset ∈ b.timestampOffset, offset ≤ 16383 := by
  constructor
  · intro h
    rw [deSerialize_serialize hPT hredundant hprimary] at h
    have hannounced := List.forall₂_map_left_iff.mp (announced_of_readBlocks h)
    intro b hb
    have hsame := List.forall₂_same.mp hannounced b (List.mem_append_left _ hb)
    obtain ⟨timestampOffset, hoffset⟩ := Option.isSome_iff_exists.mp (hredundant b hb)
    have hwritten : b.written = ⟨1, b.blockPT, some (timestampOffset % 2 ^ 14),
        some (b.block.length % 2 ^ 10)⟩ := by
      rw [RedBlock.written, hoffset]
    rw [Announced, hwritten, hoffset] at hsame
    obtain ⟨hkept, hlength⟩ := hsame rfl
    have hoffsetKept := Option.some.inj hkept
    rw [Option.getD_some] at hlength
    rw [hoffset]
    refine ⟨by omega, fun offset hmem => ?_⟩
    obtain rfl := Option.some.inj hmem
    omega
  · intro h
    have hfits : ∀ b ∈ redundant, b.Fits := by
      intro b hb
      obtain ⟨offset, hoffset⟩ := Option.isSome_iff_exists.mp (hredundant b hb)
      obtain ⟨hlength, hle⟩ := h b hb
      exact ⟨hPT b (List.mem_append_left _ hb), by omega, offset, hoffset,
        Nat.lt_succ_of_le (hle offset hoffset)⟩
    exact red_roundTrip hfits (hPT primary (List.mem_append_right _ List.mem_cons_self)) hprimary

/-- A redundant block of two octets and the last block. -/
theorem red_twoBlocks :
    Red.deSerialize (Red.serialize ([⟨[1, 2], 96, some 960⟩] ++ [⟨[3], 96, none⟩])) =
      .ok ([⟨[1, 2], 96, some 960⟩] ++ [⟨[3], 96, none⟩]) :=
  (red_iff [⟨[1, 2], 96, some 960⟩] ⟨[3], 96, none⟩ (by decide) (by decide) rfl).mpr (by decide)

lemma deSerialize_of_length {block : Bytes} (h : block.length = 1024) :
    Red.deSerialize (Red.serialize ([⟨block, 96, some 960⟩] ++ [⟨[3], 96, none⟩])) =
      .ok [⟨[], 96, some 960⟩, ⟨block ++ [3], 96, none⟩] := by
  have hPT : ∀ b ∈ [⟨block, 96, some 960⟩] ++ [(⟨[3], 96, none⟩ : RedBlock)], b.blockPT < 128 := by
    simp
  rw [deSerialize_serialize hPT (by simp) rfl]
  simp [RedBlock.written, Red.readBlocks, Except.map, h]

/-- A redundant block of 1024 octets is announced as empty: its octets become those of the last block. -/
theorem red_shifted :
    Red.deSerialize (Red.serialize ([⟨List.replicate 1024 7, 96, some 960⟩] ++ [⟨[3], 96, none⟩])) =
      .ok [⟨[], 96, some 960⟩, ⟨List.replicate 1024 7 ++ [3], 96, none⟩] :=
  deSerialize_of_length List.length_replicate

end Rtp

end Werift
