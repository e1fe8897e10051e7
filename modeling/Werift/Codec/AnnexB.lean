import Werift.Js.Buffer
import Werift.Rtp.Header

/-!
# Annex B (`rtp/src/codec/h265.ts`)

`H265AnnexBParser` cuts a byte stream at its start codes.  A loop runs as long as it has fuel, and is `none`
without.
-/

namespace Werift.Codec

open Rtp (Bytes)

/-- `(data[i] << 24) | (data[i + 1] << 16) | (data[i + 2] << 8) | data[i + 3]`, of which the sign does not matter
here. -/
def u32At (data : Bytes) (i : ℕ) : ℕ :=
  (data.getD i 0).toNat <<< 24 ||| (data.getD (i + 1) 0).toNat <<< 16 ||| (data.getD (i + 2) 0).toNat <<< 8 |||
    (data.getD (i + 3) 0).toNat

/-- `(data[i] << 16) | (data[i + 1] << 8) | data[i + 2]`. -/
def u24At (data : Bytes) (i : ℕ) : ℕ :=
  (data.getD i 0).toNat <<< 16 ||| (data.getD (i + 1) 0).toNat <<< 8 ||| (data.getD (i + 2) 0).toNat

/-- The offset of the next start code, or the end of the data: then `eof` is set. -/
def findNextStartCodeOffset (data : Bytes) : ℕ → ℕ → Option (ℕ × Bool)
  | 0, _ => none
  | fuel + 1, i =>
    if data.length ≤ i + 3 then some (data.length, true)
    else if u32At data i = 1 ∨ u24At data i = 1 then some (i, false)
    else findNextStartCodeOffset data fuel (i + 1)

structure H265AnnexBParser where
  data : Bytes
  currentStartcodeOffset : ℕ
  eof : Bool

namespace H265AnnexBParser

/-- The constructor. -/
def new (fuel : ℕ) (data : Bytes) : Option H265AnnexBParser := do
  let (next, eof) ← findNextStartCodeOffset data fuel 0
  return { data, currentStartcodeOffset := next, eof }

/-- The offset behind the start code. -/
def payloadOffset (p : H265AnnexBParser) : ℕ :=
  p.currentStartcodeOffset + if u32At p.data p.currentStartcodeOffset = 1 then 4 else 3

def readNextNalu (fuel : ℕ) : ℕ → H265AnnexBParser → Option (Option Bytes × H265AnnexBParser)
  | 0, _ => none
  | depth + 1, p =>
    if p.eof then some (none, p)
    else do
      let offset := p.payloadOffset
      let (next, eof) ← findNextStartCodeOffset p.data fuel offset
      let p := { p with currentStartcodeOffset := next, eof }
      if next ≤ offset then if eof then some (none, p) else readNextNalu fuel depth p
      else return (some (Js.slice p.data offset next), p)

/-- The loop of `readAll`. -/
def readRest (fuel : ℕ) : ℕ → H265AnnexBParser → List Bytes → Option (List Bytes)
  | 0, _, _ => none
  | rounds + 1, p, nalus => do
    match ← readNextNalu fuel fuel p with
    | (none, _) => return nalus
    | (some nalu, p) => readRest fuel rounds p (nalus ++ [nalu])

/-- `new H265AnnexBParser(data).readAll()`. -/
def readAll (fuel : ℕ) (data : Bytes) : Option (List Bytes) := do
  readRest fuel fuel (← new fuel data) []

end H265AnnexBParser

/-! ## Start codes -/

variable {data pre nalu rest : Bytes} {i j k fuel : ℕ}

lemma or_shiftLeft_eq_one {a b s : ℕ} (hs : 1 ≤ s) : a <<< s ||| b = 1 ↔ a = 0 ∧ b = 1 := by
  constructor
  · intro h
    have hle : a <<< s ≤ 1 := Nat.left_le_or.trans_eq h
    have hpow : 2 ≤ 2 ^ s := Nat.pow_le_pow_right Nat.two_pos hs
    obtain rfl : a = 0 := by
      rw [Nat.shiftLeft_eq] at hle
      by_contra ha
      have := Nat.mul_le_mul (Nat.one_le_iff_ne_zero.mpr ha) hpow
      omega
    rw [Nat.zero_shiftLeft, Nat.zero_or] at h
    exact ⟨rfl, h⟩
  · rintro ⟨rfl, rfl⟩
    rw [Nat.zero_shiftLeft, Nat.zero_or]

lemma toNat_eq_iff {b : UInt8} {n : ℕ} (hn : n < 256) : b.toNat = n ↔ b = UInt8.ofNat n := by
  rw [← UInt8.toNat_inj, UInt8.toNat_ofNat_of_lt' hn]

/-- A start code of four bytes stands at an offset. -/
lemma u32At_eq_one : u32At data i = 1 ↔ data.getD i 0 = 0 ∧ data.getD (i + 1) 0 = 0 ∧ data.getD (i + 2) 0 = 0 ∧
    data.getD (i + 3) 0 = 1 := by
  rw [u32At, Nat.or_assoc, Nat.or_assoc, or_shiftLeft_eq_one (by omega), or_shiftLeft_eq_one (by omega),
    or_shiftLeft_eq_one (by omega), toNat_eq_iff (by omega), toNat_eq_iff (by omega), toNat_eq_iff (by omega),
    toNat_eq_iff (by omega)]
  rfl

/-- A start code of three bytes stands at an offset. -/
lemma u24At_eq_one : u24At data i = 1 ↔ data.getD i 0 = 0 ∧ data.getD (i + 1) 0 = 0 ∧ data.getD (i + 2) 0 = 1 := by
  rw [u24At, Nat.or_assoc, or_shiftLeft_eq_one (by omega), or_shiftLeft_eq_one (by omega), toNat_eq_iff (by omega),
    toNat_eq_iff (by omega), toNat_eq_iff (by omega)]
  rfl

/-- A start code stands at an offset. -/
def StartCodeAt (data : Bytes) (i : ℕ) : Prop := u32At data i = 1 ∨ u24At data i = 1

/-! ## Termination -/

lemma isSome_findNextStartCodeOffset (hpos : 0 < fuel) (h : data.length < i + fuel) :
    (findNextStartCodeOffset data fuel i).isSome := by
  induction fuel generalizing i with
  | zero => exact absurd hpos (lt_irrefl 0)
  | succ fuel ih =>
    rw [findNextStartCodeOffset]
    split_ifs
    · rfl
    · rfl
    · exact ih (by omega) (by omega)

/-- The offset that is found is the end, or that of a start code. -/
lemma findNextStartCodeOffset_cases {next : ℕ} {eof : Bool}
    (h : findNextStartCodeOffset data fuel i = some (next, eof)) :
    eof = true ∧ next = data.length ∨ eof = false ∧ i ≤ next ∧ next + 3 < data.length := by
  induction fuel generalizing i with
  | zero => exact absurd h nofun
  | succ fuel ih =>
    rw [findNextStartCodeOffset] at h
    split_ifs at h with hend hcode
    · obtain ⟨rfl, rfl⟩ := Prod.mk.inj (Option.some.inj h)
      exact .inl ⟨rfl, rfl⟩
    · obtain ⟨rfl, rfl⟩ := Prod.mk.inj (Option.some.inj h)
      exact .inr ⟨rfl, le_rfl, by omega⟩
    · exact (ih h).imp_right fun ⟨h₁, h₂, h₃⟩ => ⟨h₁, by omega, h₃⟩

namespace H265AnnexBParser

variable {p p' : H265AnnexBParser} {depth rounds : ℕ} {nalus : List Bytes}

/-- The parser is done, or it stands at a start code less than `n` bytes before the end. -/
def Within (p : H265AnnexBParser) (n : ℕ) : Prop :=
  0 < n ∧ (p.eof = true ∨
    p.currentStartcodeOffset + 3 < p.data.length ∧ p.data.length < p.currentStartcodeOffset + n)

lemma currentStartcodeOffset_lt_payloadOffset (p : H265AnnexBParser) :
    p.currentStartcodeOffset + 3 ≤ p.payloadOffset := by
  rw [payloadOffset]
  split_ifs <;> omega

/-- Reading a NAL unit ends, and leaves less to read. -/
lemma exists_readNextNalu (hfuel : p.data.length < fuel) (h : p.Within depth) :
    ∃ (result : Option Bytes) (p' : H265AnnexBParser), readNextNalu fuel depth p = some (result, p') ∧
      p'.data = p.data ∧ (result ≠ none → ∀ n : ℕ, p.Within (n + 1) → p'.Within n) := by
  induction depth generalizing p with
  | zero => exact absurd h.1 (lt_irrefl 0)
  | succ depth ih =>
    rw [readNextNalu]
    by_cases heof : p.eof = true
    · exact ⟨none, p, if_pos heof, rfl, fun h => absurd rfl h⟩
    · rw [if_neg heof]
      have hle := p.currentStartcodeOffset_lt_payloadOffset
      have hsome : (findNextStartCodeOffset p.data fuel p.payloadOffset).isSome :=
        isSome_findNextStartCodeOffset (by omega) (by omega)
      obtain ⟨⟨next, eof⟩, hnext⟩ := Option.isSome_iff_exists.mp hsome
      have hcases := findNextStartCodeOffset_cases hnext
      simp only [hnext, Option.bind_eq_bind, Option.bind_some]
      -- what is left to read is less, as the parser has passed a start code
      have hless : ∀ n : ℕ, p.Within (n + 1) → Within { p with currentStartcodeOffset := next, eof } n := by
        rintro n ⟨-, hn⟩
        obtain ⟨hstart, hlt⟩ := hn.resolve_left heof
        refine ⟨by omega, ?_⟩
        obtain ⟨rfl, -⟩ | ⟨-, hnext, hroom⟩ := hcases
        · exact .inl rfl
        · exact .inr ⟨hroom, by dsimp only; omega⟩
      split_ifs with hempty hend
      · exact ⟨none, _, rfl, rfl, fun h => absurd rfl h⟩
      · obtain ⟨result, p', hread, hdata, hwithin⟩ := ih (p := { p with currentStartcodeOffset := next, eof })
          hfuel (hless depth h)
        refine ⟨result, p', hread, hdata, fun hresult n hn => hwithin hresult n ?_⟩
        exact ⟨Nat.succ_pos n, (hless n hn).2.imp_right fun ⟨h₁, h₂⟩ => ⟨h₁, by omega⟩⟩
      · exact ⟨some _, _, rfl, rfl, fun _ => hless⟩

lemma isSome_readRest (hfuel : p.data.length < fuel) (hdepth : p.Within fuel) (h : p.Within rounds) :
    (readRest fuel rounds p nalus).isSome := by
  induction rounds generalizing p nalus with
  | zero => exact absurd h.1 (lt_irrefl 0)
  | succ rounds ih =>
    obtain ⟨result, p', hread, hdata, hwithin⟩ := exists_readNextNalu hfuel hdepth
    rw [readRest, hread, Option.bind_eq_bind, Option.bind_some]
    cases result with
    | none => rfl
    | some nalu =>
      have hrest := hwithin (Option.some_ne_none nalu)
      obtain ⟨fuel, rfl⟩ : ∃ fuel', fuel = fuel' + 1 := ⟨fuel - 1, by omega⟩
      have hbefore := hrest fuel hdepth
      refine ih (hdata ▸ hfuel) ⟨Nat.succ_pos fuel, hbefore.2.imp_right fun ⟨h₁, h₂⟩ => ⟨h₁, by omega⟩⟩
        (hrest rounds h)

/-- **Reading ends** on every data. -/
theorem isSome_readAll (h : data.length + 1 < fuel) : (readAll fuel data).isSome := by
  have hsome : (findNextStartCodeOffset data fuel 0).isSome := isSome_findNextStartCodeOffset (by omega) (by omega)
  obtain ⟨⟨next, eof⟩, hnext⟩ := Option.isSome_iff_exists.mp hsome
  have hwithin : Within { data, currentStartcodeOffset := next, eof } fuel := by
    refine ⟨by omega, (findNextStartCodeOffset_cases hnext).imp And.left fun ⟨_, h₁, h₂⟩ => ⟨h₂, ?_⟩⟩
    dsimp only
    omega
  simp only [readAll, new, hnext, Option.bind_eq_bind, Option.bind_some, Option.pure_def]
  exact isSome_readRest (by dsimp only; omega) hwithin hwithin

end H265AnnexBParser

/-! ## Splitting what has been joined -/

/-- A NAL unit: it is not empty, does not end in a zero byte, and no start code could begin in it. -/
structure IsNalUnit (nalu : Bytes) : Prop where
  ne_nil : nalu ≠ []
  last : nalu.getLast? ≠ some 0
  noPattern : ∀ b : UInt8, b = 0 ∨ b = 1 ∨ b = 2 → ¬ [0, 0, b] <:+: nalu

/-- The start code of four bytes, or that of three bytes. -/
def startCode (long : Bool) : Bytes := if long then [0, 0, 0, 1] else [0, 0, 1]

/-- NAL units, each behind a start code. -/
def joinUnits (units : List (Bool × Bytes)) : Bytes := units.flatMap fun unit => startCode unit.1 ++ unit.2

lemma getD_append_length (pre data : Bytes) (m : ℕ) : (pre ++ data).getD (pre.length + m) 0 = data.getD m 0 := by
  rw [List.getD_append_right _ _ _ _ (Nat.le_add_right _ _), Nat.add_sub_cancel_left]

lemma startCodeAt_append (pre data : Bytes) (m : ℕ) :
    StartCodeAt (pre ++ data) (pre.length + m) ↔ StartCodeAt data m := by
  simp only [StartCodeAt, u32At_eq_one, u24At_eq_one, Nat.add_assoc, getD_append_length]

/-- No start code begins within a NAL unit. -/
lemma IsNalUnit.not_startCodeAt (h : IsNalUnit nalu) {m : ℕ} (hm : m < nalu.length) :
    ¬ StartCodeAt (nalu ++ rest) m := by
  intro hcode
  have hzero : ∀ k : ℕ, k < nalu.length → (nalu ++ rest).getD k 0 = nalu.getD k 0 := fun k hk =>
    List.getD_append _ _ _ _ hk
  obtain ⟨h₀, h₁, h₂⟩ : (nalu ++ rest).getD m 0 = 0 ∧ (nalu ++ rest).getD (m + 1) 0 = 0 ∧
      ((nalu ++ rest).getD (m + 2) 0 = 0 ∨ (nalu ++ rest).getD (m + 2) 0 = 1) := by
    obtain hcode | hcode := hcode
    · obtain ⟨h₀, h₁, h₂, -⟩ := u32At_eq_one.mp hcode
      exact ⟨h₀, h₁, .inl h₂⟩
    · obtain ⟨h₀, h₁, h₂⟩ := u24At_eq_one.mp hcode
      exact ⟨h₀, h₁, .inr h₂⟩
  have hlast : ∀ k : ℕ, k + 1 = nalu.length → nalu.getD k 0 ≠ 0 := by
    intro k hk hget
    apply h.last
    have hlt : k < nalu.length := by omega
    have hindex : nalu.length - 1 = k := by omega
    rw [List.getLast?_eq_getElem?, hindex, List.getElem?_eq_getElem hlt, ← List.getD_eq_getElem _ 0 hlt, hget]
  rw [hzero m hm] at h₀
  by_cases hm₁ : m + 1 < nalu.length
  · rw [hzero (m + 1) hm₁] at h₁
    by_cases hm₂ : m + 2 < nalu.length
    · -- the three bytes stand in the unit
      rw [hzero (m + 2) hm₂] at h₂
      refine h.noPattern (nalu.getD (m + 2) 0) (by tauto) ?_
      have hthree : (nalu.drop m).take 3 = [0, 0, nalu.getD (m + 2) 0] := by
        rw [List.drop_eq_getElem_cons hm, List.drop_eq_getElem_cons hm₁, List.drop_eq_getElem_cons hm₂,
          ← List.getD_eq_getElem _ 0 hm, ← List.getD_eq_getElem _ 0 hm₁, ← List.getD_eq_getElem _ 0 hm₂, h₀, h₁]
        rfl
      rw [← hthree]
      exact (List.take_prefix _ _).isInfix.trans (List.drop_suffix _ _).isInfix
    · exact hlast (m + 1) (by omega) h₁
  · exact hlast m (by omega) h₀

/-- The first start code is found. -/
lemma findNextStartCodeOffset_eq (hpos : 0 < fuel) (hfuel : data.length < i + fuel) (hle : i ≤ j)
    (hnone : ∀ k : ℕ, i ≤ k → k < j → ¬ StartCodeAt data k) (hroom : j + 3 < data.length)
    (hj : StartCodeAt data j) :
    findNextStartCodeOffset data fuel i = some (j, false) := by
  induction fuel generalizing i with
  | zero => exact absurd hpos (lt_irrefl 0)
  | succ fuel ih =>
    rw [findNextStartCodeOffset, if_neg (by omega)]
    obtain rfl | hlt := hle.eq_or_lt
    · exact if_pos hj
    · exact (if_neg (hnone i le_rfl hlt)).trans (ih (by omega) (by omega) hlt fun k hk => hnone k (by omega))

/-- Without a start code the end is found. -/
lemma findNextStartCodeOffset_eq_end (hpos : 0 < fuel) (hfuel : data.length < i + fuel)
    (hnone : ∀ k : ℕ, i ≤ k → k < data.length → ¬ StartCodeAt data k) :
    findNextStartCodeOffset data fuel i = some (data.length, true) := by
  induction fuel generalizing i with
  | zero => exact absurd hpos (lt_irrefl 0)
  | succ fuel ih =>
    rw [findNextStartCodeOffset]
    split_ifs with hend hcode
    · rfl
    · exact absurd hcode (hnone i le_rfl (by omega))
    · exact ih (by omega) (by omega) fun k hk => hnone k (by omega)

lemma u32At_append (pre data : Bytes) : u32At (pre ++ data) pre.length = u32At data 0 := by
  simp only [u32At, ← getD_append_length pre data, Nat.add_zero]

lemma u32At_startCode (long : Bool) (rest : Bytes) : u32At (startCode long ++ rest) 0 = 1 ↔ long = true := by
  rw [u32At_eq_one]
  cases long <;> simp [startCode]

lemma startCodeAt_startCode (long : Bool) (rest : Bytes) : StartCodeAt (startCode long ++ rest) 0 := by
  cases long with
  | true => exact .inl ((u32At_startCode true rest).mpr rfl)
  | false => exact .inr (u24At_eq_one.mpr ⟨rfl, rfl, rfl⟩)

lemma length_startCode (long : Bool) : (startCode long).length = if long then 4 else 3 := by
  cases long <;> rfl

variable {long : Bool} {units : List (Bool × Bytes)}

/-- The first unit among joined ones ends where the next start code or the end is. -/
lemma findNextStartCodeOffset_joinUnits (hnalu : IsNalUnit nalu) (hunits : ∀ unit ∈ units, IsNalUnit unit.2)
    (hdata : data = pre ++ (nalu ++ joinUnits units)) (hfuel : data.length < fuel) :
    findNextStartCodeOffset data fuel pre.length = some (pre.length + nalu.length, units.isEmpty) := by
  have hnone : ∀ k : ℕ, pre.length ≤ k → k < pre.length + nalu.length → ¬ StartCodeAt data k := by
    intro k hk hlt
    obtain ⟨m, rfl⟩ := Nat.exists_eq_add_of_le hk
    rw [hdata, startCodeAt_append]
    exact hnalu.not_startCodeAt (by omega)
  cases units with
  | nil =>
    have hlength : data.length = pre.length + nalu.length := by simp [hdata, joinUnits]
    rw [findNextStartCodeOffset_eq_end (by omega) (by omega) fun k hk hlt => hnone k hk (by omega), hlength]
    rfl
  | cons unit units =>
    have hjoin : joinUnits (unit :: units) = startCode unit.1 ++ (unit.2 ++ joinUnits units) := by
      rw [joinUnits, List.flatMap_cons, List.append_assoc, ← joinUnits]
    have hcode : StartCodeAt data (pre.length + nalu.length) := by
      have hfront : StartCodeAt (nalu ++ joinUnits (unit :: units)) (nalu.length + 0) := by
        rw [startCodeAt_append, hjoin]
        exact startCodeAt_startCode _ _
      rw [hdata, startCodeAt_append]
      exact hfront
    have hroom : pre.length + nalu.length + 3 < data.length := by
      have hne := List.length_pos_iff.mpr (hunits unit List.mem_cons_self).ne_nil
      have hcodeLength := length_startCode unit.1
      rw [hdata, hjoin]
      simp only [List.length_append]
      split_ifs at hcodeLength <;> omega
    exact findNextStartCodeOffset_eq (by omega) (by omega) (Nat.le_add_right _ _) hnone hroom hcode

lemma length_le_length_joinUnits (units : List (Bool × Bytes)) : units.length ≤ (joinUnits units).length := by
  induction units with
  | nil => exact le_rfl
  | cons unit units ih =>
    have hcode := length_startCode unit.1
    rw [joinUnits, List.flatMap_cons, ← joinUnits]
    simp only [List.length_cons, List.length_append]
    split_ifs at hcode <;> omega

namespace H265AnnexBParser

/-- Reading the first of joined units. -/
lemma readNextNalu_joinUnits (hnalu : IsNalUnit nalu) (hunits : ∀ unit ∈ units, IsNalUnit unit.2)
    (hdata : data = pre ++ (startCode long ++ (nalu ++ joinUnits units))) (hfuel : data.length < fuel) :
    readNextNalu fuel fuel ⟨data, pre.length, false⟩ =
      some (some nalu, ⟨data, (pre ++ (startCode long ++ nalu)).length, units.isEmpty⟩) := by
  obtain ⟨depth, rfl⟩ : ∃ depth, fuel = depth + 1 := ⟨fuel - 1, by omega⟩
  have hoffset : payloadOffset ⟨data, pre.length, false⟩ = (pre ++ startCode long).length := by
    rw [payloadOffset, List.length_append, length_startCode]
    dsimp only
    rw [hdata, u32At_append]
    simp only [u32At_startCode]
  have hdata' : data = (pre ++ startCode long) ++ (nalu ++ joinUnits units) := by rw [hdata, List.append_assoc]
  have hnext := findNextStartCodeOffset_joinUnits hnalu hunits hdata' hfuel
  have hpos := List.length_pos_iff.mpr hnalu.ne_nil
  have hslice : Js.slice data (pre ++ startCode long).length
      ((pre ++ startCode long).length + nalu.length) = nalu := by
    rw [Js.slice, hdata', List.drop_left, Nat.add_sub_cancel_left, List.take_left]
  rw [readNextNalu]
  simp only [Bool.false_eq_true, if_false, hoffset, hnext, Option.bind_eq_bind, Option.bind_some, Option.pure_def]
  rw [if_neg (by omega), hslice]
  simp only [List.length_append, Nat.add_assoc]

lemma readRest_joinUnits {rounds : ℕ} {nalus : List Bytes} (hnalu : IsNalUnit nalu)
    (hunits : ∀ unit ∈ units, IsNalUnit unit.2)
    (hdata : data = pre ++ (startCode long ++ (nalu ++ joinUnits units))) (hfuel : data.length < fuel)
    (hrounds : units.length + 1 < rounds) :
    readRest fuel rounds ⟨data, pre.length, false⟩ nalus = some (nalus ++ nalu :: units.map Prod.snd) := by
  induction units generalizing pre nalu long rounds nalus with
  | nil =>
    obtain ⟨rounds, rfl⟩ : ∃ n, rounds = n + 2 := ⟨rounds - 2, by simp at hrounds; omega⟩
    obtain ⟨fuel, rfl⟩ : ∃ n, fuel = n + 1 := ⟨fuel - 1, by omega⟩
    rw [readRest, readNextNalu_joinUnits hnalu hunits hdata hfuel, Option.bind_eq_bind, Option.bind_some]
    rfl
  | cons unit units ih =>
    obtain ⟨rounds, rfl⟩ : ∃ n, rounds = n + 1 := ⟨rounds - 1, by omega⟩
    obtain ⟨hunit, hunits⟩ := List.forall_mem_cons.mp hunits
    rw [readRest, readNextNalu_joinUnits hnalu (List.forall_mem_cons.mpr ⟨hunit, hunits⟩) hdata hfuel,
      Option.bind_eq_bind, Option.bind_some]
    dsimp only
    have hnext : data = (pre ++ (startCode long ++ nalu)) ++ (startCode unit.1 ++ (unit.2 ++ joinUnits units)) := by
      rw [hdata, joinUnits, List.flatMap_cons, ← joinUnits]
      simp only [List.append_assoc]
    have hfewer : units.length + 1 < rounds := by
      rw [List.length_cons] at hrounds
      omega
    rw [List.isEmpty_cons, ih hunit hunits hnext hfewer, List.map_cons, List.append_assoc, List.singleton_append]

/-- **Splitting inverts joining**, and reading ends on every data. -/
theorem readAll_joinUnits (units : List (Bool × Bytes)) (hunits : ∀ unit ∈ units, IsNalUnit unit.2) (data : Bytes) :
    (∀ fuel : ℕ, (joinUnits units).length + 1 < fuel → readAll fuel (joinUnits units) = some (units.map Prod.snd)) ∧
      ∀ fuel : ℕ, data.length + 1 < fuel → (readAll fuel data).isSome := by
  refine ⟨fun fuel hfuel => ?_, fun fuel hfuel => isSome_readAll hfuel⟩
  cases units with
  | nil =>
    obtain ⟨fuel, rfl⟩ : ∃ n, fuel = n + 1 := ⟨fuel - 1, by omega⟩
    rfl
  | cons unit units =>
    obtain ⟨hunit, hrest⟩ := List.forall_mem_cons.mp hunits
    have hdata : joinUnits (unit :: units) = startCode unit.1 ++ (unit.2 ++ joinUnits units) := by
      rw [joinUnits, List.flatMap_cons, List.append_assoc, ← joinUnits]
    have hpos := List.length_pos_iff.mpr hunit.ne_nil
    have hcode := length_startCode unit.1
    have hlength : (joinUnits (unit :: units)).length =
        (startCode unit.1).length + (unit.2.length + (joinUnits units).length) := by
      rw [hdata, List.length_append, List.length_append]
    have hroom : 3 < (joinUnits (unit :: units)).length := by split_ifs at hcode <;> omega
    have hrounds : units.length + 1 < fuel := by
      have := length_le_length_joinUnits units
      omega
    have hnew : new fuel (joinUnits (unit :: units)) = some ⟨joinUnits (unit :: units), 0, false⟩ := by
      rw [new, findNextStartCodeOffset_eq (by omega) (by omega) le_rfl (fun k _ hk => absurd hk (Nat.not_lt_zero k))
        (by omega) (hdata ▸ startCodeAt_startCode _ _)]
      rfl
    rw [readAll, hnew, Option.bind_eq_bind, Option.bind_some, List.map_cons]
    have hfuel' : (joinUnits (unit :: units)).length < fuel := by omega
    have hread : readRest fuel fuel ⟨joinUnits (unit :: units), ([] : Bytes).length, false⟩ [] =
        some ([] ++ unit.2 :: units.map Prod.snd) := readRest_joinUnits hunit hrest hdata hfuel' hrounds
    exact hread

/-- Units of one byte behind start codes of both kinds. -/
theorem readAll_joinUnits_short :
    (∀ fuel : ℕ, (joinUnits [(true, [0x67]), (false, [0x68])]).length + 1 < fuel →
      readAll fuel (joinUnits [(true, [0x67]), (false, [0x68])]) = some [[0x67], [0x68]]) ∧
      ∀ fuel : ℕ, ([] : Bytes).length + 1 < fuel → (readAll fuel []).isSome :=
  readAll_joinUnits [(true, [0x67]), (false, [0x68])] (by
    have hunit : ∀ b : UInt8, b ≠ 0 → IsNalUnit [b] := by
      refine fun b hb => ⟨List.cons_ne_nil _ _, by simpa using hb, fun b' _ h => ?_⟩
      exact absurd h.length_le (by simp)
    simp only [List.forall_mem_cons, List.not_mem_nil, false_implies, implies_true, and_true]
    exact ⟨hunit 0x67 (by decide), hunit 0x68 (by decide)⟩) []

end H265AnnexBParser

end Werift.Codec
