import Werift.Rtp.Red

/-!
# Recovery of lost packets

The last blocks in front of each new one make up for lost packets: as long as no more packets in a row
are lost than there are redundant blocks, `RedHandler` returns every block once, as it has been sent
(`red_recovers`).
-/

namespace Werift.Rtp

open BoundedHistory (filterAll recent)
open Redundancy (Arrivals carried delivered deliveredBefore)

/-! ## The wire -/

variable {blocks : List RedBlock} {fields : List RedHeaderField} {rest : Bytes}

lemma ofNat_shiftLeft_or {a b k : ℕ} (hk : k < 8) (hb : b < 2 ^ k) (ha : a * 2 ^ k < 256) :
    UInt8.ofNat a <<< UInt8.ofNat k ||| UInt8.ofNat b = UInt8.ofNat (a * 2 ^ k + b) := by
  have hpow : 2 ^ k ≤ 128 := Nat.pow_le_pow_right (by decide) (by omega : k ≤ 7)
  have hpos : 0 < 2 ^ k := by positivity
  have ha' : a < 256 := by nlinarith
  have hsum : a * 2 ^ k + b < 256 := by
    have hdvd : (a * 2 ^ k) + 2 ^ k ≤ 256 := by
      have h256 : 256 = 2 ^ (8 - k) * 2 ^ k := by
        rw [← pow_add, Nat.sub_add_cancel hk.le]
        rfl
      have hlt : a < 2 ^ (8 - k) := by
        by_contra hge
        have := Nat.mul_le_mul_right (2 ^ k) (not_lt.mp hge)
        omega
      have := Nat.mul_le_mul_right (2 ^ k) (Nat.succ_le_of_lt hlt)
      rw [Nat.succ_mul] at this
      omega
    omega
  apply UInt8.toNat_inj.mp
  rw [UInt8.toNat_or, UInt8.toNat_shiftLeft, UInt8.toNat_ofNat', UInt8.toNat_ofNat',
    UInt8.toNat_ofNat', UInt8.toNat_ofNat', Nat.mod_eq_of_lt ha', Nat.mod_eq_of_lt (by omega : k < 2 ^ 8),
    Nat.mod_eq_of_lt (by omega : b < 2 ^ 8), Nat.mod_eq_of_lt hk, Nat.mod_eq_of_lt hsum,
    Nat.shiftLeft_eq, Nat.mod_eq_of_lt ha, ← Nat.shiftLeft_eq, Nat.shiftLeft_add_eq_or_of_lt hb]

/-- The header field of a redundant block has four octets. -/
lemma serialize_redundant {blockPT timestampOffset length : ℕ} (hPT : blockPT < 128)
    (hoffset : timestampOffset < 16384) (hlength : length < 1024) :
    RedHeaderField.serialize { fBit := 1, blockPT, timestampOffset, blockLength := some length } =
      [UInt8.ofNat (128 + blockPT), UInt8.ofNat (timestampOffset / 64),
        UInt8.ofNat (timestampOffset % 64 * 4 + length / 256), UInt8.ofNat (length % 256)] := by
  have hfirst : UInt8.ofNat 1 <<< UInt8.ofNat 7 ||| UInt8.ofNat blockPT =
      UInt8.ofNat (1 * 2 ^ 7 + blockPT) := ofNat_shiftLeft_or (by decide) hPT (by decide)
  have hthird : UInt8.ofNat (timestampOffset % 64) <<< UInt8.ofNat 2 ||| UInt8.ofNat (length / 256) =
      UInt8.ofNat (timestampOffset % 64 * 2 ^ 2 + length / 256) :=
    ofNat_shiftLeft_or (by decide) (by omega) (by omega)
  have hsecond : timestampOffset >>> 6 = timestampOffset / 64 := Nat.shiftRight_eq_div_pow _ 6
  have hhigh : length >>> 8 = length / 256 := Nat.shiftRight_eq_div_pow _ 8
  rw [RedHeaderField.serialize, if_pos (.inl rfl)]
  simp [BitStream.writeBits, BitStream.orLast, Nat.mod_eq_of_lt hPT, Nat.mod_eq_of_lt hoffset,
    Nat.mod_eq_of_lt hlength, hsecond, hhigh]
  simp at hfirst hthird
  exact ⟨hfirst, hthird⟩

/-- The header field of the last block has one octet. -/
lemma serialize_primary {blockPT : ℕ} (hPT : blockPT < 128) :
    RedHeaderField.serialize { fBit := 0, blockPT } = [UInt8.ofNat blockPT] := by
  have hnone : ¬ ((0 : ℕ) = 1 ∨ (none : Option ℕ) ≠ none) := by simp
  rw [RedHeaderField.serialize, if_neg hnone]
  simp [BitStream.writeBits, BitStream.orLast, Nat.mod_eq_of_lt hPT]

/-- The F bit and the payload type share the first octet. -/
lemma readBits_first (b : UInt8) (rest : Bytes) :
    BitStream.readBits ⟨b :: rest, 0, 0⟩ 1 0 = (b.toNat >>> 7, ⟨b :: rest, 1, 7⟩) ∧
      BitStream.readBits ⟨b :: rest, 1, 7⟩ 7 0 = (b.toNat % 128, ⟨b :: rest, 1, 0⟩) := by
  constructor <;> simp [BitStream.readBits]

/-- The offset and the length share the third octet. -/
lemma readBits_rest (b₀ b₁ b₂ b₃ : UInt8) (rest : Bytes) :
    BitStream.readBits ⟨b₀ :: b₁ :: b₂ :: b₃ :: rest, 1, 0⟩ 14 0 =
        (b₁.toNat <<< 6 ||| b₂.toNat >>> 2, ⟨b₀ :: b₁ :: b₂ :: b₃ :: rest, 3, 2⟩) ∧
      (BitStream.readBits ⟨b₀ :: b₁ :: b₂ :: b₃ :: rest, 3, 2⟩ 10 0).1 =
        (b₂.toNat % 4) <<< 8 ||| b₃.toNat := by
  constructor <;> simp [BitStream.readBits]

/-- **Reading the field of a redundant block.** -/
lemma deSerializeFields_redundant {blockPT timestampOffset length : ℕ} (hPT : blockPT < 128)
    (hoffset : timestampOffset < 16384) (hlength : length < 1024) (buf : Bytes) :
    RedHeader.deSerializeFields
        (RedHeaderField.serialize { fBit := 1, blockPT, timestampOffset, blockLength := some length } ++
          buf) =
      (RedHeader.deSerializeFields buf).map fun result =>
        ({ fBit := 1, blockPT, timestampOffset, blockLength := some length } :: result.1,
          result.2) := by
  have hb0 : (UInt8.ofNat (128 + blockPT)).toNat = 128 + blockPT := by
    rw [UInt8.toNat_ofNat']
    omega
  have hb1 : (UInt8.ofNat (timestampOffset / 64)).toNat = timestampOffset / 64 := by
    rw [UInt8.toNat_ofNat']
    omega
  have hb2 : (UInt8.ofNat (timestampOffset % 64 * 4 + length / 256)).toNat =
      timestampOffset % 64 * 4 + length / 256 := by
    rw [UInt8.toNat_ofNat']
    omega
  have hb3 : (UInt8.ofNat (length % 256)).toNat = length % 256 := by
    rw [UInt8.toNat_ofNat']
    omega
  have hfirst : (128 + blockPT) >>> 7 = 1 := by
    rw [Nat.shiftRight_eq_div_pow]
    omega
  have hlast : (128 + blockPT) % 128 = blockPT := by omega
  have hoffset' : (timestampOffset / 64) <<< 6 ||| (timestampOffset % 64 * 4 + length / 256) >>> 2 =
      timestampOffset := by
    have hlow : (timestampOffset % 64 * 4 + length / 256) >>> 2 = timestampOffset % 64 := by
      rw [Nat.shiftRight_eq_div_pow]
      omega
    rw [hlow, ← Nat.shiftLeft_add_eq_or_of_lt (by omega), Nat.shiftLeft_eq]
    omega
  have hlength' : ((timestampOffset % 64 * 4 + length / 256) % 4) <<< 8 ||| length % 256 =
      length := by
    rw [← Nat.shiftLeft_add_eq_or_of_lt (by omega), Nat.shiftLeft_eq]
    omega
  rw [serialize_redundant hPT hoffset hlength, List.cons_append, List.cons_append, List.cons_append,
    List.singleton_append, RedHeader.deSerializeFields]
  simp only [readBits_first, readBits_rest, hb0, hb1, hb2, hb3, hfirst, hlast, hoffset', hlength']
  have hlong : ¬ buf.length + 1 + 1 + 1 < 3 := by omega
  simp only [one_ne_zero, if_false, List.length_cons, hlong, List.drop_succ_cons, List.drop_zero]
  cases RedHeader.deSerializeFields buf <;> rfl

/-- Reading the field of the last block. -/
lemma deSerializeFields_primary {blockPT : ℕ} (hPT : blockPT < 128) (buf : Bytes) :
    RedHeader.deSerializeFields (RedHeaderField.serialize { fBit := 0, blockPT } ++ buf) =
      .ok ([{ fBit := 0, blockPT }], buf) := by
  have hb : (UInt8.ofNat blockPT).toNat = blockPT := by
    rw [UInt8.toNat_ofNat']
    omega
  have hfirst : blockPT >>> 7 = 0 := by
    rw [Nat.shiftRight_eq_div_pow]
    omega
  rw [serialize_primary hPT, List.singleton_append, RedHeader.deSerializeFields]
  simp only [readBits_first, hb, hfirst, Nat.mod_eq_of_lt hPT, if_true]

lemma RedBlock.field_redundant {b : RedBlock} {timestampOffset : ℕ}
    (hsome : b.timestampOffset = some timestampOffset) :
    b.field = ⟨1, b.blockPT, some timestampOffset, some b.block.length⟩ := by
  rw [RedBlock.field, hsome]

lemma RedBlock.field_primary {b : RedBlock} (hnone : b.timestampOffset = none) :
    b.field = ⟨0, b.blockPT, none, none⟩ := by
  rw [RedBlock.field, hnone]

/-- A redundant block that the header can hold. -/
def RedBlock.Fits (b : RedBlock) : Prop :=
  b.blockPT < 128 ∧ b.block.length < 1024 ∧ ∃ offset, b.timestampOffset = some offset ∧ offset < 16384

/-- The fields of a packet are read back. -/
lemma deSerializeFields_blocks {redundant : List RedBlock} {primary : RedBlock}
    (hredundant : ∀ b ∈ redundant, b.Fits) (hPT : primary.blockPT < 128)
    (hprimary : primary.timestampOffset = none) (buf : Bytes) :
    RedHeader.deSerializeFields
        (((redundant ++ [primary]).map fun b => b.field.serialize).flatten ++ buf) =
      .ok ((redundant ++ [primary]).map RedBlock.field, buf) := by
  induction redundant with
  | nil =>
    simp only [List.nil_append, List.map_cons, List.map_nil, List.flatten_cons, List.flatten_nil,
      List.append_nil, RedBlock.field_primary hprimary]
    exact deSerializeFields_primary hPT buf
  | cons b redundant ih =>
    obtain ⟨hbPT, hblock, offset, hsome, hoffset⟩ := hredundant b List.mem_cons_self
    have hrest := ih fun b' hb' => hredundant b' (List.mem_cons_of_mem _ hb')
    rw [List.cons_append, List.map_cons, List.map_cons, List.flatten_cons, List.append_assoc,
      RedBlock.field_redundant hsome, deSerializeFields_redundant hbPT hoffset hblock, hrest]
    rfl

/-- The blocks behind the fields are read back. -/
lemma readBlocks_blocks {redundant : List RedBlock} {primary : RedBlock}
    (hredundant : ∀ b ∈ redundant, b.Fits) (hprimary : primary.timestampOffset = none) :
    Red.readBlocks ((redundant ++ [primary]).map RedBlock.field)
        ((redundant ++ [primary]).map (·.block)).flatten = .ok (redundant ++ [primary]) := by
  induction redundant with
  | nil =>
    have hsame : (⟨primary.block, primary.blockPT, none⟩ : RedBlock) = primary := by
      rw [← hprimary]
    simp only [List.nil_append, List.map_cons, List.map_nil, List.flatten_cons, List.flatten_nil,
      List.append_nil, RedBlock.field_primary hprimary, Red.readBlocks, Nat.zero_ne_one, if_false,
      Except.map, hsame]
  | cons b redundant ih =>
    obtain ⟨hbPT, hblock, offset, hsome, hoffset⟩ := hredundant b List.mem_cons_self
    have hrest := ih fun b' hb' => hredundant b' (List.mem_cons_of_mem _ hb')
    have hlong : ¬ (b.block ++ ((redundant ++ [primary]).map (·.block)).flatten).length <
        b.block.length := by
      rw [List.length_append]
      omega
    have hsame : (⟨b.block, b.blockPT, some offset⟩ : RedBlock) = b := by
      rw [← hsome]
    rw [List.cons_append, List.map_cons, List.map_cons, List.flatten_cons,
      RedBlock.field_redundant hsome, Red.readBlocks, if_pos rfl]
    simp only [Option.getD_some, if_neg hlong, List.drop_left, List.take_left, hrest, Except.map,
      hsame]

/-- **Round trip of the packet.** -/
theorem red_roundTrip {redundant : List RedBlock} {primary : RedBlock}
    (hredundant : ∀ b ∈ redundant, b.Fits) (hPT : primary.blockPT < 128)
    (hprimary : primary.timestampOffset = none) :
    Red.deSerialize (Red.serialize (redundant ++ [primary])) = .ok (redundant ++ [primary]) := by
  have hfields := deSerializeFields_blocks hredundant hPT hprimary
    ((redundant ++ [primary]).map (·.block)).flatten
  have hnonempty : ¬ (Red.serialize (redundant ++ [primary])).length < 1 := by
    intro hempty
    have hnil := List.length_eq_zero_iff.mp (Nat.lt_one_iff.mp hempty)
    rw [Red.serialize] at hnil
    rw [hnil, RedHeader.deSerializeFields] at hfields
    cases hfields
  rw [Red.deSerialize, RedHeader.deSerialize, if_neg hnonempty, Red.serialize, hfields]
  exact readBlocks_blocks hredundant hprimary

/-! ## A stream -/

/-- The blocks that are sent, the sequence number of the first of them and their source. -/
structure RedStream where
  payload : ℕ → RedPayload
  first : ℕ
  ssrc : ℕ

namespace RedStream

variable (stream : RedStream) (distance : ℕ) (σ : ℕ → ℕ)

/-- The cache of the encoder when `n` blocks have been pushed. -/
def cacheAt : ℕ → List RedPayload
  | 0 => []
  | n + 1 => RedEncoder.push (cacheAt n) (stream.payload n)

/-- The sequence number of the block `b`, which is that of the packet `b`. -/
def sequenceNumber (b : ℕ) : ℕ := (stream.first + b) % 0x10000

/-- The packet that is sent with the block `p`. -/
def packet (p : ℕ) : RtpPacket :=
  { header :=
      { timestamp := (stream.payload p).timestamp
        ssrc := stream.ssrc
        sequenceNumber := stream.sequenceNumber p }
    payload := Red.serialize (RedEncoder.build distance (stream.cacheAt (p + 1))) }

/-- The packet of the block `b` alone. -/
def original (b : ℕ) : RtpPacket :=
  { header :=
      { timestamp := (stream.payload b).timestamp
        payloadType := (stream.payload b).blockPT
        ssrc := stream.ssrc
        sequenceNumber := stream.sequenceNumber b
        marker := true }
    payload := (stream.payload b).block }

/-- What the receiver does with a packet. -/
def receive (sequenceNumbers : List ℕ) (packet : RtpPacket) : List ℕ × List RtpPacket :=
  match Red.deSerialize packet.payload with
  | .error _ => (sequenceNumbers, [])
  | .ok blocks => RedHandler.push sequenceNumbers blocks packet

/-- The history of the handler before the arrival `i`, when the packets `σ 0, σ 1, …` arrive. -/
def historyBefore : ℕ → List ℕ
  | 0 => []
  | i + 1 => (receive (historyBefore i) (stream.packet distance (σ i))).1

/-- What the handler returns for the arrival `i`. -/
def output (i : ℕ) : List RtpPacket :=
  (receive (stream.historyBefore distance σ i) (stream.packet distance (σ i))).2

/-- **Every block is returned exactly once**, from a packet that is at most `distance` places behind
it, with its sequence number, its timestamp and its payload. -/
def Recovers : Prop := ∃ L : ℕ → List ℕ, (∀ i, stream.output distance σ i = (L i).map stream.original) ∧
  (∀ i, (L i).Nodup ∧ ∀ b ∈ L i, b ≤ σ i ∧ σ i ≤ b + distance) ∧ ∀ b, ∃! i, b ∈ L i

/-- Blocks of 1 to 1023 bytes, and fields in their ranges. -/
structure InRange : Prop where
  block : ∀ b, 1 ≤ (stream.payload b).block.length ∧ (stream.payload b).block.length ≤ 1023
  blockPT : ∀ b, (stream.payload b).blockPT < 128
  timestamp : ∀ b, (stream.payload b).timestamp < 2 ^ 32

/-- How far the timestamp of `p` is ahead of that of `b`, on the circle. -/
def ahead (p b : ℕ) : ℤ :=
  uint32Add (stream.payload p).timestamp (-(stream.payload b).timestamp)

/-- Timestamps inside the redundancy distance are within 16383 of each other. -/
def TimestampsNear : Prop := ∀ b p, b ≤ p → p ≤ b + distance →
  stream.ahead p b ≤ 16383 ∨ stream.ahead b p ≤ 16383

/-- Timestamps inside the redundancy distance are not behind those before them. -/
def TimestampsForward : Prop := ∀ b p, b ≤ p → p ≤ b + distance → stream.ahead p b ≤ 16383

variable {stream distance σ}

/-- The cache holds the last blocks. -/
lemma cacheAt_eq (n : ℕ) :
    stream.cacheAt n = recent cacheSize ((List.range n).map stream.payload) := by
  induction n with
  | zero => rfl
  | succ n ih =>
    have hpush : ∀ l : List RedPayload, ∀ x, RedEncoder.push (recent cacheSize l) x =
        recent cacheSize (l ++ [x]) := by
      intro l x
      have hsize : cacheSize = 9 + 1 := rfl
      have hlength := BoundedHistory.length_recent cacheSize l
      rw [RedEncoder.push, List.length_append, List.length_singleton]
      by_cases hfull : cacheSize ≤ l.length
      · have hnonempty : recent cacheSize l ≠ [] := by
          intro hnil
          rw [hnil, List.length_nil] at hlength
          omega
        rw [if_pos (by omega), List.tail_append_of_ne_nil hnonempty, recent, recent, List.tail_drop,
          List.length_append, List.length_singleton, List.drop_append_of_le_length (by omega)]
        congr 2
        omega
      · rw [if_neg (by omega), recent, recent, List.length_append, List.length_singleton,
          Nat.sub_eq_zero_of_le (by omega), Nat.sub_eq_zero_of_le (by omega), List.drop_zero,
          List.drop_zero]
    rw [cacheAt, ih, hpush, List.range_succ, List.map_append, List.map_singleton]

/-- The payloads that `build` takes. -/
lemma redundantPayloads_eq (hdistance : distance ≤ 9) (p : ℕ) :
    (stream.cacheAt (p + 1)).drop ((stream.cacheAt (p + 1)).length - (distance + 1)) =
      (carried distance p).map stream.payload := by
  have hsize : cacheSize = 10 := rfl
  have hlength := BoundedHistory.length_recent cacheSize ((List.range (p + 1)).map stream.payload)
  rw [List.length_map, List.length_range, hsize] at hlength
  rw [cacheAt_eq, hsize, hlength, recent, List.drop_drop, List.length_map, List.length_range,
    ← List.map_drop, carried, List.range_eq_range', List.drop_range']
  congr 2
  · omega
  · omega

/-- The redundant block `b` of the packet `p`. -/
def redundant (stream : RedStream) (p b : ℕ) : RedBlock :=
  ⟨(stream.payload b).block, (stream.payload b).blockPT, some (stream.ahead p b).toNat⟩

/-- The last block of the packet `p`. -/
def primary (stream : RedStream) (p : ℕ) : RedBlock :=
  ⟨(stream.payload p).block, (stream.payload p).blockPT, none⟩

/-- The elements in front of the last one. -/
lemma carried_eq_append (d p : ℕ) :
    carried d p = List.range' (p - d) (p - (p - d)) ++ [p] := by
  have hlength : p + 1 - (p - d) = p - (p - d) + 1 := by omega
  have hlast : p - d + (p - (p - d)) = p := by omega
  rw [carried, hlength, List.range'_concat, Nat.one_mul, hlast]

/-- **The blocks of a packet.** -/
lemma build_eq (hdistance : distance ≤ 9) (hforward : stream.TimestampsForward distance) (p : ℕ) :
    RedEncoder.build distance (stream.cacheAt (p + 1)) =
      (List.range' (p - distance) (p - (p - distance))).map (stream.redundant p) ++
        [stream.primary p] := by
  rw [RedEncoder.build, redundantPayloads_eq hdistance, carried_eq_append, List.map_append,
    List.map_singleton, List.getLast?_append, List.getLast?_singleton, Option.some_or]
  dsimp only
  rw [List.dropLast_concat, List.filterMap_map]
  refine congrArg (· ++ [stream.primary p]) ?_
  rw [← List.filterMap_eq_map]
  refine List.filterMap_congr fun b hb => ?_
  rw [List.mem_range'_1] at hb
  have hnear : ¬ uint32Add (stream.payload p).timestamp (-(stream.payload b).timestamp) >
      Max14Uint := by
    have hle := hforward b p (by omega) (by omega)
    exact not_lt.mpr hle
  simp only [Function.comp_apply, if_neg hnear]
  rfl

/-- The sequence number of a block is told from its place. -/
lemma sequenceNumber_eq (b p : ℕ) :
    (uint16Add (stream.sequenceNumber p) (-((p : ℤ) - b))).toNat = stream.sequenceNumber b := by
  simp only [uint16Add, sequenceNumber]
  omega

/-- **A redundant block becomes the packet that it was sent in.** -/
lemma packet_redundant {b p i : ℕ} {blocks : List RedBlock} (hin : stream.InRange)
    (hplace : (blocks.length : ℤ) - (i + 1) = p - b) :
    RedHandler.packet blocks (stream.packet distance p) (stream.redundant p b) i =
      stream.original b := by
  have hts := hin.timestamp p
  have htsb := hin.timestamp b
  have hahead : 0 ≤ stream.ahead p b := Int.emod_nonneg _ (by decide)
  have hseq : (uint16Add (stream.packet distance p).header.sequenceNumber
      (-(blocks.length - (i + 1) : ℤ))).toNat = stream.sequenceNumber b := by
    rw [hplace]
    exact sequenceNumber_eq b p
  rw [RedHandler.packet, hseq]
  simp only [redundant]
  cases hoffset : (stream.ahead p b).toNat with
  | zero =>
    have hsame : (stream.payload p).timestamp = (stream.payload b).timestamp := by
      simp only [ahead, uint32Add] at hoffset hahead
      omega
    simp only [packet, original, hsame]
  | succ offset =>
    have hback : (uint32Add (stream.payload p).timestamp (-((offset : ℤ) + 1))).toNat =
        (stream.payload b).timestamp := by
      simp only [ahead, uint32Add] at hoffset hahead ⊢
      omega
    simp only [packet, original, hback]

/-- The last block becomes the packet that it is sent in. -/
lemma packet_primary {p i : ℕ} {blocks : List RedBlock}
    (hplace : (blocks.length : ℤ) - (i + 1) = 0) :
    RedHandler.packet blocks (stream.packet distance p) (stream.primary p) i = stream.original p := by
  have hseq : (uint16Add (stream.packet distance p).header.sequenceNumber
      (-(blocks.length - (i + 1) : ℤ))).toNat = stream.sequenceNumber p := by
    have hzero : (0 : ℤ) = (p : ℤ) - p := (sub_self _).symm
    rw [hplace, hzero]
    exact sequenceNumber_eq p p
  rw [RedHandler.packet, hseq]
  rfl

/-- The packets of all blocks. -/
lemma packets_eq (hin : stream.InRange) (p : ℕ) {blocks : List RedBlock}
    (hblocks : blocks = (List.range' (p - distance) (p - (p - distance))).map (stream.redundant p) ++
      [stream.primary p]) :
    (blocks.zipIdx.map fun b => RedHandler.packet blocks (stream.packet distance p) b.1 b.2) =
      (carried distance p).map stream.original := by
  have hlength : blocks.length = p - (p - distance) + 1 := by
    rw [hblocks, List.length_append, List.length_map, List.length_range', List.length_singleton]
  have hcarried : (carried distance p).length = p - (p - distance) + 1 := by
    rw [carried, List.length_range']
    omega
  apply List.ext_getElem
  · rw [List.length_map, List.length_zipIdx, List.length_map, hlength, hcarried]
  · intro i hi _
    rw [List.length_map, List.length_zipIdx, hlength] at hi
    have hcarriedAt (h : i < (carried distance p).length) :
        (carried distance p)[i] = p - distance + i := by
      simp only [carried, List.getElem_range', Nat.one_mul]
    rw [List.getElem_map, List.getElem_map, List.getElem_zipIdx, hcarriedAt, Nat.zero_add]
    by_cases hlast : i < p - (p - distance)
    · have hblock (h : i < blocks.length) :
          blocks[i] = stream.redundant p (p - distance + i) := by
        simp only [hblocks]
        rw [List.getElem_append_left (by rw [List.length_map, List.length_range']; exact hlast),
          List.getElem_map, List.getElem_range', Nat.one_mul]
      rw [hblock]
      refine packet_redundant hin ?_
      rw [hlength]
      omega
    · have hblock (h : i < blocks.length) : blocks[i] = stream.primary p := by
        simp only [hblocks]
        rw [List.getElem_append_right (by rw [List.length_map, List.length_range']; omega),
          List.getElem_singleton]
      have hp : p - distance + i = p := by omega
      rw [hblock, hp]
      refine packet_primary ?_
      rw [hlength]
      omega

/-- **What the receiver gets from a packet**: the blocks that it carries, less those that its history
knows. -/
lemma receive_packet (hin : stream.InRange) (hdistance : distance ≤ 9)
    (hforward : stream.TimestampsForward distance) (history : List ℕ) (p : ℕ) :
    receive history (stream.packet distance p) =
      ((filterAll stream.sequenceNumber RedHandler.size (history, []) (carried distance p)).1,
        (filterAll stream.sequenceNumber RedHandler.size (history, [])
          (carried distance p)).2.map stream.original) := by
  have hfits : ∀ b ∈ (List.range' (p - distance) (p - (p - distance))).map (stream.redundant p),
      b.Fits := by
    intro block hblock
    obtain ⟨b, hb, rfl⟩ := List.mem_map.mp hblock
    rw [List.mem_range'_1] at hb
    have hlength := (hin.block b).2
    have hnear := hforward b p (by omega) (by omega)
    have hahead : 0 ≤ stream.ahead p b := Int.emod_nonneg _ (by decide)
    exact ⟨hin.blockPT b, Nat.lt_succ_of_le hlength, _, rfl, by omega⟩
  have hread := red_roundTrip hfits (hin.blockPT p) (rfl : (stream.primary p).timestampOffset = none)
  rw [receive, packet, build_eq hdistance hforward]
  dsimp only
  rw [hread]
  have hpackets : ((List.map (stream.redundant p) (List.range' (p - distance) (p - (p - distance))) ++
      [stream.primary p]).zipIdx.map fun b => RedHandler.packet _ (stream.packet distance p) b.1 b.2) =
      (carried distance p).map stream.original := packets_eq hin p rfl
  rw [packet, build_eq hdistance hforward] at hpackets
  simp only [RedHandler.push]
  rw [hpackets]
  rw [← List.map_nil (f := stream.original), BoundedHistory.filterAll_map]
  rfl

end RedStream

/-- **Redundancy recovers losses.**  With at most nine redundant blocks, timestamps that do not go
back, never more losses in a row than redundant blocks, and packets fewer than `R` places out of order,
every block is returned exactly once. -/
theorem red_recovers {stream : RedStream} {distance R : ℕ} {σ : ℕ → ℕ} (hin : stream.InRange)
    (hforward : stream.TimestampsForward distance) (hdistance : distance ≤ 9)
    (harrivals : Arrivals σ distance R) (hR : R + distance ≤ 76) : stream.Recovers distance σ := by
  have hsize : RedHandler.size = 150 := rfl
  have hkey : ∀ a b, stream.sequenceNumber a = stream.sequenceNumber b → a ≤ b → b < a + 0x10000 →
      a = b := by
    intro a b heq hle hlt
    simp only [RedStream.sequenceNumber] at heq
    omega
  have hstep : ∀ i out, filterAll stream.sequenceNumber RedHandler.size
      (recent (RedHandler.size + 1) ((deliveredBefore σ distance i).map stream.sequenceNumber), out)
      (carried distance (σ i)) =
      (recent (RedHandler.size + 1)
        ((deliveredBefore σ distance (i + 1)).map stream.sequenceNumber),
        out ++ delivered σ distance i) := by
    intro i out
    exact Redundancy.filterAll_carried (M := 0x10000) harrivals (by omega) (by omega) hkey i
  have hhistory : ∀ i, stream.historyBefore distance σ i =
      recent (RedHandler.size + 1) ((deliveredBefore σ distance i).map stream.sequenceNumber) := by
    intro i
    induction i with
    | zero => rw [RedStream.historyBefore, deliveredBefore, List.map_nil, recent, List.drop_nil]
    | succ i ih =>
      rw [RedStream.historyBefore, ih, RedStream.receive_packet hin hdistance hforward, hstep]
  refine ⟨delivered σ distance, fun i => ?_, fun i => ?_,
    fun b => Redundancy.existsUnique_delivered harrivals b⟩
  · rw [RedStream.output, hhistory, RedStream.receive_packet hin hdistance hforward, hstep,
      List.nil_append]
  · exact ⟨Redundancy.delivered_spec.1, fun b hb => (Redundancy.delivered_spec.2 b hb).2⟩

/-- Blocks of one byte with the timestamps that are given. -/
def toneStream (timestamp : ℕ → ℕ) : RedStream :=
  { payload := fun b => ⟨[0], timestamp b, 96⟩, first := 0, ssrc := 1 }

lemma inRange_toneStream {timestamp : ℕ → ℕ} (h : ∀ b, timestamp b < 2 ^ 32) :
    (toneStream timestamp).InRange :=
  ⟨fun _ => (by decide : 1 ≤ 1 ∧ 1 ≤ 1023), fun _ => (by decide : 96 < 128), h⟩

/-- Every second packet is lost, and one redundant block makes up for it. -/
theorem red_recovers_alternate : (toneStream fun _ => 0).Recovers 1 fun i => 2 * i := by
  have harrivals : Arrivals (fun i => 2 * i) 1 1 := by
    refine ⟨one_pos, fun i j h => by omega, fun i j h => by omega,
      fun b => ⟨(b + 1) / 2, ?_⟩⟩
    omega
  refine red_recovers (inRange_toneStream fun _ => by decide) ?_ (by decide) harrivals (by decide)
  intro b p _ _
  exact (by decide : uint32Add 0 (-0) ≤ 16383)

/-- With ten redundant blocks, ten losses in a row, those of the packets 0 to 9, lose the block 0: the
encoder keeps no more than ten blocks.  And with one redundant block and timestamps that go back from
100 to 50 the loss of the packet 0 loses its block: the encoder leaves it out of the next packet. -/
theorem red_loses :
    ((toneStream fun _ => 0).InRange ∧ (toneStream fun _ => 0).TimestampsNear 10 ∧
      Arrivals (fun i => i + 10) 10 1 ∧ ¬ (toneStream fun _ => 0).Recovers 10 fun i => i + 10) ∧
    ((toneStream fun b => if b = 0 then 100 else 50).InRange ∧
      (toneStream fun b => if b = 0 then 100 else 50).TimestampsNear 1 ∧
      Arrivals (fun i => i + 1) 1 1 ∧
      ¬ (toneStream fun b => if b = 0 then 100 else 50).Recovers 1 fun i => i + 1) := by
  have hshift : ∀ d, Arrivals (fun i => i + d) d 1 := by
    intro d
    refine ⟨one_pos, fun i j h => by omega, fun i j h => by omega,
      fun b => ⟨b, ?_⟩⟩
    omega
  refine ⟨⟨inRange_toneStream fun _ => by decide, ?_, hshift 10, ?_⟩,
    inRange_toneStream fun b => by split_ifs <;> decide, ?_, hshift 1, ?_⟩
  · intro b p _ _
    exact .inl (by decide : uint32Add 0 (-0) ≤ 16383)
  · rintro ⟨L, houtput, hcarried, hunique⟩
    obtain ⟨i, hi, -⟩ := hunique 0
    have hbound := ((hcarried i).2 0 hi).2
    obtain rfl : i = 0 := by
      dsimp only at hbound
      omega
    have hmem : (toneStream fun _ => 0).original 0 ∈
        (toneStream fun _ => 0).output 10 (fun i => i + 10) 0 := by
      rw [houtput]
      exact List.mem_map_of_mem hi
    revert hmem
    decide +kernel
  · intro b p _ _
    simp only [RedStream.ahead, toneStream]
    split_ifs <;> decide
  · rintro ⟨L, houtput, hcarried, hunique⟩
    obtain ⟨i, hi, -⟩ := hunique 0
    have hbound := ((hcarried i).2 0 hi).2
    obtain rfl : i = 0 := by
      dsimp only at hbound
      omega
    have hmem : (toneStream fun b => if b = 0 then 100 else 50).original 0 ∈
        (toneStream fun b => if b = 0 then 100 else 50).output 1 (fun i => i + 1) 0 := by
      rw [houtput]
      exact List.mem_map_of_mem hi
    revert hmem
    decide +kernel

end Werift.Rtp
