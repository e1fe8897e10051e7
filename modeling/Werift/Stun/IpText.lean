import Werift.Stun.Ip

/-!
# What the texts of IP addresses denote

An address is written in groups of hexadecimal digits, of which `::` stands for one or more, and the last two may be
written as an IPv4 address.  `ipAddressToBuffer` reads all of these texts but those in which a `::` at the front
stands for one group.
-/

namespace Werift.Stun

/-- One to four hexadecimal digits. -/
structure HexGroup where
  text : List Char
  isV6Seg_text : isV6Seg text

/-- Four numbers up to 255. -/
structure DottedQuad where
  parts : List (List Char)
  length_parts : parts.length = 4
  isV4Seg_parts : ∀ part ∈ parts, isV4Seg part

/-- An IPv6 address. -/
inductive Ipv6Text
  | full (groups : List HexGroup) (quad : Option DottedQuad) (h : groups.length + 2 * quad.toList.length = 8)
  | compressed (front back : List HexGroup) (quad : Option DottedQuad)
    (h : front.length + back.length + 2 * quad.toList.length ≤ 7)

/-- Texts with a character between them. -/
def join (c : Char) (texts : List (List Char)) : List Char := [c].intercalate texts

/-- The text of an IPv4 address. -/
def DottedQuad.text (quad : DottedQuad) : List Char := join '.' quad.parts

/-- The bytes of an IPv4 address. -/
def DottedQuad.bytes (quad : DottedQuad) : Bytes :=
  quad.parts.map fun part => UInt8.ofNat (Nat.ofDigitChars 10 part 0)

/-- The number of a group. -/
def hexValue (s : List Char) : ℕ := s.foldl (fun acc c => acc * 16 + (hexDigit c).getD 0) 0

/-- The bytes of a group. -/
def word (n : ℕ) : Bytes := [UInt8.ofNat (n / 256), UInt8.ofNat n]

/-- The texts of groups and of an IPv4 address behind them. -/
def sections (groups : List HexGroup) (quad : Option DottedQuad) : List (List Char) :=
  groups.map HexGroup.text ++ quad.toList.map DottedQuad.text

/-- The bytes of groups and of an IPv4 address behind them. -/
def wordsOf (groups : List HexGroup) (quad : Option DottedQuad) : Bytes :=
  (groups.flatMap fun g => word (hexValue g.text)) ++ quad.toList.flatMap DottedQuad.bytes

namespace Ipv6Text

/-- The text of an address. -/
def text : Ipv6Text → List Char
  | full groups quad _ => join ':' (sections groups quad)
  | compressed front back quad _ =>
    join ':' (front.map HexGroup.text) ++ ':' :: ':' :: join ':' (sections back quad)

/-- The bytes that an address denotes. -/
def bytes : Ipv6Text → Bytes
  | full groups quad _ => wordsOf groups quad
  | compressed front back quad _ => wordsOf front none ++
    List.replicate (2 * (8 - (front.length + back.length + 2 * quad.toList.length))) 0 ++ wordsOf back quad

/-- A `::` at the front stands for one group. -/
def LeadingSingle : Ipv6Text → Prop
  | full _ _ _ => False
  | compressed front back quad _ => front = [] ∧ back.length + 2 * quad.toList.length = 7

end Ipv6Text

variable {s : List Char} {groups front back : List HexGroup} {quad : Option DottedQuad}

/-! ## Segments -/

lemma hexDigit_colon : hexDigit ':' = none := by decide

lemma hexDigit_dot : hexDigit '.' = none := by decide

lemma isSome_of_mem {c : Char} (h : isV6Seg s) (hc : c ∈ s) : (hexDigit c).isSome := by
  simp only [isV6Seg, Bool.and_eq_true] at h
  exact List.all_eq_true.mp h.2 c hc

lemma ne_nil_of_isV6Seg (h : isV6Seg s) : s ≠ [] := by
  rintro rfl
  exact absurd h (by decide)

lemma colon_notMem_of_isV6Seg (h : isV6Seg s) : ':' ∉ s := fun hc => by
  have := isSome_of_mem h hc
  rw [hexDigit_colon] at this
  cases this

lemma dot_notMem_of_isV6Seg (h : isV6Seg s) : '.' ∉ s := fun hc => by
  have := isSome_of_mem h hc
  rw [hexDigit_dot] at this
  cases this

lemma not_isV4Text_of_isV6Seg (h : isV6Seg s) : isV4Text s = false := by
  rw [isV4Text, List.splitOn_eq_singleton (dot_notMem_of_isV6Seg h)]
  rfl

lemma isDigit_of_isV4Seg {c : Char} (h : isV4Seg s) (hc : c ∈ s) : c.isDigit := by
  simp only [isV4Seg, Bool.and_eq_true] at h
  exact List.all_eq_true.mp h.1.1 c hc

lemma notMem_of_isV4Seg {c : Char} (hdigit : c.isDigit = false) (h : isV4Seg s) : c ∉ s := fun hc => by
  have := isDigit_of_isV4Seg h hc
  rw [hdigit] at this
  cases this

lemma splitOn_join {c : Char} {texts : List (List Char)} (h : ∀ text ∈ texts, c ∉ text) (hne : texts ≠ []) :
    (join c texts).splitOn c = texts := List.splitOn_intercalate c h hne

lemma mem_join {c x : Char} {texts : List (List Char)} (h : x ∈ join c texts) :
    x = c ∨ ∃ text ∈ texts, x ∈ text := by
  rw [join, List.intercalate, List.mem_flatten] at h
  obtain ⟨piece, hpiece, hx⟩ := h
  induction texts with
  | nil => exact absurd hpiece List.not_mem_nil
  | cons text texts ih =>
    cases texts with
    | nil =>
      obtain rfl := List.mem_singleton.mp hpiece
      exact .inr ⟨piece, List.mem_cons_self, hx⟩
    | cons text' texts =>
      rw [List.intersperse_cons_cons, List.mem_cons, List.mem_cons] at hpiece
      obtain rfl | rfl | hpiece := hpiece
      · exact .inr ⟨piece, List.mem_cons_self, hx⟩
      · exact .inl (List.mem_singleton.mp hx)
      · obtain heq | ⟨later, hlater, hmem⟩ := ih hpiece
        · exact .inl heq
        · exact .inr ⟨later, List.mem_cons_of_mem text hlater, hmem⟩

namespace DottedQuad

variable (quad : DottedQuad)

lemma splitOn_text : quad.text.splitOn '.' = quad.parts := by
  refine splitOn_join (fun part hpart => notMem_of_isV4Seg (by decide) (quad.isV4Seg_parts part hpart))
    fun hnil => ?_
  have hlength := quad.length_parts
  rw [hnil] at hlength
  cases hlength

lemma isV4Text_text : isV4Text quad.text := by
  rw [isV4Text, splitOn_text, quad.length_parts, beq_self_eq_true, Bool.true_and]
  exact List.all_eq_true.mpr quad.isV4Seg_parts

lemma v4Bytes_text : v4Bytes quad.text = quad.bytes := by
  rw [v4Bytes, splitOn_text, bytes]

lemma notMem_text {c : Char} (hdigit : c.isDigit = false) (hdot : c ≠ '.') : c ∉ quad.text := fun hc => by
  obtain heq | ⟨part, hpart, hmem⟩ := mem_join hc
  · exact hdot heq
  · exact notMem_of_isV4Seg hdigit (quad.isV4Seg_parts part hpart) hmem

lemma not_isV6Seg_text : isV6Seg quad.text = false := by
  refine Bool.eq_false_iff.mpr fun h => ?_
  have hsplit := List.splitOn_eq_singleton (dot_notMem_of_isV6Seg h)
  have hlength := quad.length_parts
  rw [← quad.splitOn_text, hsplit] at hlength
  cases hlength

end DottedQuad

lemma colon_notMem_sections (groups : List HexGroup) (quad : Option DottedQuad) :
    ∀ text ∈ sections groups quad, ':' ∉ text := by
  intro text htext
  obtain htext | htext := List.mem_append.mp htext
  · obtain ⟨g, -, rfl⟩ := List.mem_map.mp htext
    exact colon_notMem_of_isV6Seg g.isV6Seg_text
  · obtain ⟨quad, -, rfl⟩ := List.mem_map.mp htext
    exact quad.notMem_text (by decide) (by decide)

/-! ## Splitting at the colons -/

/-- What splitting the text of sections gives: no section is written as an empty one. -/
def orEmpty (texts : List (List Char)) : List (List Char) := if texts = [] then [[]] else texts

lemma orEmpty_nil : orEmpty [] = [[]] := rfl

lemma orEmpty_of_ne_nil {texts : List (List Char)} (h : texts ≠ []) : orEmpty texts = texts := if_neg h

lemma splitOn_join_orEmpty {c : Char} {texts : List (List Char)} (h : ∀ text ∈ texts, c ∉ text) :
    (join c texts).splitOn c = orEmpty texts := by
  unfold orEmpty
  split_ifs with hnil
  · rw [hnil]
    rfl
  · exact splitOn_join h hnil

lemma sections_none : sections groups none = groups.map HexGroup.text := List.append_nil _

/-- The sections of a text with `::`. -/
lemma splitOn_compressed :
    (join ':' (front.map HexGroup.text) ++ ':' :: ':' :: join ':' (sections back quad)).splitOn ':' =
      orEmpty (front.map HexGroup.text) ++ [] :: orEmpty (sections back quad) := by
  have hfront := splitOn_join_orEmpty (colon_notMem_sections front none)
  rw [sections_none] at hfront
  rw [List.splitOn_append_cons_self, hfront, List.splitOn_cons_eq_if_modifyHead, if_pos (beq_self_eq_true _),
    splitOn_join_orEmpty (colon_notMem_sections back quad)]

lemma length_sections (groups : List HexGroup) (quad : Option DottedQuad) :
    (sections groups quad).length = groups.length + quad.toList.length := by
  rw [sections, List.length_append, List.length_map, List.length_map]

lemma length_toList_le (o : Option DottedQuad) : o.toList.length ≤ 1 := by
  cases o <;> simp

lemma sections_ne_empty : ∀ text ∈ sections groups quad, text ≠ [] := by
  intro text htext
  obtain htext | htext := List.mem_append.mp htext
  · obtain ⟨g, -, rfl⟩ := List.mem_map.mp htext
    exact ne_nil_of_isV6Seg g.isV6Seg_text
  · obtain ⟨quad, -, rfl⟩ := List.mem_map.mp htext
    intro hnil
    have hsplit := quad.splitOn_text
    have hlength := quad.length_parts
    rw [← hsplit, hnil] at hlength
    cases hlength

namespace Ipv6Text

/-- The sections between the colons of an address. -/
def segments : Ipv6Text → List (List Char)
  | full groups quad _ => sections groups quad
  | compressed front back quad _ => orEmpty (front.map HexGroup.text) ++ [] :: orEmpty (sections back quad)

lemma splitOn_text (t : Ipv6Text) : t.text.splitOn ':' = t.segments := by
  cases t with
  | full groups quad h =>
    refine splitOn_join (colon_notMem_sections groups quad) fun hnil => ?_
    have hlength := length_sections groups quad
    rw [hnil, List.length_nil] at hlength
    omega
  | compressed front back quad h => exact splitOn_compressed

lemma length_orEmpty_pos (texts : List (List Char)) : 0 < (orEmpty texts).length := by
  unfold orEmpty
  split_ifs with hnil
  · exact Nat.one_pos
  · exact List.length_pos_of_ne_nil hnil

lemma two_le_length_segments (t : Ipv6Text) : 2 ≤ t.segments.length := by
  cases t with
  | full groups quad h =>
    rw [segments, length_sections]
    have := length_toList_le quad
    omega
  | compressed front back quad h =>
    rw [segments, List.length_append, List.length_cons]
    have := length_orEmpty_pos (front.map HexGroup.text)
    omega

lemma colon_mem_text (t : Ipv6Text) : ':' ∈ t.text := by
  by_contra hnot
  have hlength := t.two_le_length_segments
  rw [← splitOn_text, List.splitOn_eq_singleton hnot] at hlength
  simp at hlength

end Ipv6Text

/-! ## The tests accept the texts -/

lemma colon_notMem_of_isV4Text (h : isV4Text s) : ':' ∉ s := by
  simp only [isV4Text, Bool.and_eq_true, List.all_eq_true] at h
  have hjoin : join '.' (s.splitOn '.') = s := List.intercalate_splitOn '.'
  rw [← hjoin]
  intro hc
  obtain heq | ⟨part, hpart, hmem⟩ := mem_join hc
  · exact absurd heq (by decide)
  · exact notMem_of_isV4Seg (by decide) (h.2 part hpart) hmem

namespace Ipv6Text

lemma not_isIPv4 (t : Ipv6Text) : isIPv4 (String.ofList t.text) = false := by
  rw [isIPv4, String.toList_ofList]
  exact Bool.eq_false_iff.mpr fun h => colon_notMem_of_isV4Text h t.colon_mem_text

end Ipv6Text

lemma percent_notMem_sections : ∀ text ∈ sections groups quad, '%' ∉ text := by
  intro text htext
  obtain htext | htext := List.mem_append.mp htext
  · obtain ⟨g, -, rfl⟩ := List.mem_map.mp htext
    intro hc
    have := isSome_of_mem g.isV6Seg_text hc
    rw [show hexDigit '%' = none by decide] at this
    cases this
  · obtain ⟨quad, -, rfl⟩ := List.mem_map.mp htext
    exact quad.notMem_text (by decide) (by decide)

lemma percent_notMem_join (groups : List HexGroup) (quad : Option DottedQuad) :
    '%' ∉ join ':' (sections groups quad) := fun hc => by
  obtain heq | ⟨text, htext, hmem⟩ := mem_join hc
  · exact absurd heq (by decide)
  · exact percent_notMem_sections text htext hmem

lemma Ipv6Text.percent_notMem_text (t : Ipv6Text) : '%' ∉ t.text := by
  cases t with
  | full groups quad h => exact percent_notMem_join groups quad
  | compressed front back quad h =>
    have hfront := percent_notMem_join front none
    rw [sections_none] at hfront
    simp only [text, List.mem_append, List.mem_cons, not_or]
    exact ⟨hfront, by decide, by decide, percent_notMem_join back quad⟩

/-- An IPv4 address at the end counts as two groups. -/
lemma v6Groups_sections (groups : List HexGroup) (quad : Option DottedQuad) :
    v6Groups (sections groups quad) = some (groups.length + 2 * quad.toList.length) := by
  induction groups with
  | nil =>
    cases quad with
    | none => rfl
    | some quad =>
      change v6Groups [quad.text] = some 2
      rw [v6Groups, if_neg (by rw [quad.not_isV6Seg_text]; decide), if_pos quad.isV4Text_text]
  | cons g groups ih =>
    change v6Groups (g.text :: sections groups quad) = _
    cases hrest : sections groups quad with
    | nil =>
      rw [hrest] at ih
      rw [v6Groups, if_pos g.isV6Seg_text]
      simp only [v6Groups, Option.some.injEq] at ih ⊢
      rw [List.length_cons]
      omega
    | cons text texts =>
      rw [hrest] at ih
      rw [v6Groups, if_pos g.isV6Seg_text, ih, Option.map_some, List.length_cons]
      · congr 1
        omega
      · simp

lemma all_isV6Seg (groups : List HexGroup) : (groups.map HexGroup.text).all isV6Seg := by
  rw [List.all_map, List.all_eq_true]
  exact fun g _ => g.isV6Seg_text

lemma orEmpty_undo {texts : List (List Char)} (h : ∀ text ∈ texts, text ≠ []) :
    (if orEmpty texts == [[]] then [] else orEmpty texts) = texts := by
  unfold orEmpty
  by_cases hnil : texts = []
  · rw [if_pos hnil, if_pos (beq_self_eq_true _), hnil]
  · rw [if_neg hnil, if_neg]
    intro heq
    rw [beq_iff_eq] at heq
    exact h [] (heq ▸ List.mem_singleton_self []) rfl

lemma isV6Body_full (h : groups.length + 2 * quad.toList.length = 8)
    (hs : s.splitOn ':' = sections groups quad) : isV6Body s := by
  have hnone : (sections groups quad).dropLast.tail.findIdx? (· == []) = none := by
    rw [List.findIdx?_eq_none_iff]
    intro text htext
    exact beq_eq_false_iff_ne.mpr
      (sections_ne_empty text (List.dropLast_subset _ (List.mem_of_mem_tail htext)))
  unfold isV6Body
  rw [hs]
  simp only [hnone]
  rw [v6Groups_sections, h, beq_self_eq_true]

/-- The `::` is found at the first empty section behind the first section. -/
lemma findIdx?_segments {first rear : List (List Char)} (hfirst : first ≠ []) (hrear : rear ≠ [])
    (h : ∀ text ∈ first.tail, text ≠ []) :
    (first ++ [] :: rear).dropLast.tail.findIdx? (· == []) = some (first.length - 1) := by
  rw [List.dropLast_append_cons, List.dropLast_cons_of_ne_nil hrear, List.tail_append_of_ne_nil hfirst,
    List.findIdx?_append, List.findIdx?_eq_none_iff.mpr, List.findIdx?_cons]
  · simp
  · exact fun text htext => beq_eq_false_iff_ne.mpr (h text htext)

lemma orEmpty_ne_nil (texts : List (List Char)) : orEmpty texts ≠ [] :=
  List.ne_nil_of_length_pos (Ipv6Text.length_orEmpty_pos texts)

lemma tail_orEmpty_ne_empty {texts : List (List Char)} (h : ∀ text ∈ texts, text ≠ []) :
    ∀ text ∈ (orEmpty texts).tail, text ≠ [] := by
  intro text htext
  unfold orEmpty at htext
  split_ifs at htext with hnil
  · exact absurd htext List.not_mem_nil
  · exact h text (List.mem_of_mem_tail htext)

lemma groups_ne_empty (groups : List HexGroup) : ∀ text ∈ groups.map HexGroup.text, text ≠ [] := by
  intro text htext
  obtain ⟨g, -, rfl⟩ := List.mem_map.mp htext
  exact ne_nil_of_isV6Seg g.isV6Seg_text

lemma isV6Body_compressed (h : front.length + back.length + 2 * quad.toList.length ≤ 7)
    (hs : s.splitOn ':' = orEmpty (front.map HexGroup.text) ++ [] :: orEmpty (sections back quad)) :
    isV6Body s := by
  have hindex := findIdx?_segments (orEmpty_ne_nil (front.map HexGroup.text)) (orEmpty_ne_nil (sections back quad))
    (tail_orEmpty_ne_empty (groups_ne_empty front))
  have hpos := Ipv6Text.length_orEmpty_pos (front.map HexGroup.text)
  have hi : (orEmpty (front.map HexGroup.text)).length - 1 + 1 = (orEmpty (front.map HexGroup.text)).length := by
    omega
  unfold isV6Body
  rw [hs]
  simp only [hindex]
  rw [hi, List.take_left, show (orEmpty (front.map HexGroup.text)).length - 1 + 2 =
    (orEmpty (front.map HexGroup.text)).length + 1 by omega, List.drop_length_add_append, List.drop_one,
    List.tail_cons, orEmpty_undo (groups_ne_empty front), orEmpty_undo sections_ne_empty, all_isV6Seg,
    v6Groups_sections]
  simp only [Bool.true_and, Option.any_some, decide_eq_true_eq, List.length_map]
  omega

lemma Ipv6Text.isIPv6_text (t : Ipv6Text) : isIPv6 (String.ofList t.text) := by
  rw [isIPv6, String.toList_ofList, List.splitOn_eq_singleton t.percent_notMem_text]
  cases t with
  | full groups quad h => exact isV6Body_full h (splitOn_text (full groups quad h))
  | compressed front back quad h => exact isV6Body_compressed h (splitOn_text (compressed front back quad h))

/-! ## The numbers of the sections -/

lemma hexDigit_digitChar : ∀ n < 16, hexDigit (Nat.digitChar n) = some n := by decide

/-- The digits of a section are all read. -/
lemma foldl_digits (s : List Char) (h : ∀ c ∈ s, (hexDigit c).isSome) (acc : ℕ) :
    (((s.map hexDigit).takeWhile Option.isSome).foldl (fun (acc : ℤ) d => acc * 16 + (d.getD 0 : ℕ)) acc) =
      ((s.foldl (fun acc c => acc * 16 + (hexDigit c).getD 0) acc : ℕ) : ℤ) := by
  induction s generalizing acc with
  | nil => rfl
  | cons c s ih =>
    rw [List.map_cons, List.takeWhile_cons_of_pos (h c List.mem_cons_self), List.foldl_cons, List.foldl_cons]
    have hcast : (acc : ℤ) * 16 + ((hexDigit c).getD 0 : ℕ) = ((acc * 16 + (hexDigit c).getD 0 : ℕ) : ℤ) := by
      push_cast
      rfl
    rw [hcast]
    exact ih (fun x hx => h x (List.mem_cons_of_mem c hx)) _

lemma parseInt16_eq (h : ∀ c ∈ s, (hexDigit c).isSome) : parseInt16 s = hexValue s := by
  have hne (c : Char) (hc : hexDigit c = none) : c ∉ s := fun hmem => by
    have := h c hmem
    rw [hc] at this
    cases this
  have hminus := hne '-' (by decide)
  have hplus := hne '+' (by decide)
  have hx := hne 'x' (by decide)
  have hX := hne 'X' (by decide)
  unfold parseInt16
  split
  next _ sign rest hsign =>
  have hrest : sign = 1 ∧ rest = s := by
    split at hsign
    · exact absurd List.mem_cons_self hminus
    · exact absurd List.mem_cons_self hplus
    · exact ⟨(Prod.mk.inj hsign).1.symm, (Prod.mk.inj hsign).2.symm⟩
  obtain ⟨rfl, rfl⟩ := hrest
  split
  · exact absurd (List.mem_cons_of_mem _ List.mem_cons_self) hx
  · exact absurd (List.mem_cons_of_mem _ List.mem_cons_self) hX
  · rw [one_mul]
    exact foldl_digits rest h 0

lemma ofInt_natCast (n : ℕ) : UInt8.ofInt (n : ℤ) = UInt8.ofNat n := by
  rw [UInt8.ofInt, show (2 : ℤ) ^ 8 = ((256 : ℕ) : ℤ) from rfl, ← Int.natCast_mod, Int.toNat_natCast]
  exact UInt8.ofNat_mod_size

/-- The two bytes that are written for a section. -/
def sectionBytes (s : List Char) : Bytes := [UInt8.ofInt (parseInt16 s / 256), UInt8.ofInt (parseInt16 s)]

lemma sectionBytes_eq (h : ∀ c ∈ s, (hexDigit c).isSome) : sectionBytes s = word (hexValue s) := by
  rw [sectionBytes, parseInt16_eq h, word]
  have hdiv : (hexValue s : ℤ) / 256 = ((hexValue s / 256 : ℕ) : ℤ) := by
    push_cast
    rfl
  rw [hdiv, ofInt_natCast, ofInt_natCast]

lemma sectionBytes_nil : sectionBytes [] = [0, 0] := rfl

lemma sectionBytes_zero : sectionBytes ['0'] = [0, 0] := by decide +kernel

lemma HexGroup.sectionBytes_text (g : HexGroup) : sectionBytes g.text = word (hexValue g.text) :=
  sectionBytes_eq fun _ hc => isSome_of_mem g.isV6Seg_text hc

lemma flatMap_groups (groups : List HexGroup) :
    (groups.map HexGroup.text).flatMap sectionBytes = groups.flatMap fun g => word (hexValue g.text) := by
  rw [List.flatMap_map]
  exact List.flatMap_congr fun g _ => g.sectionBytes_text

lemma flatMap_replicate_zero (n : ℕ) :
    (List.replicate n ['0']).flatMap sectionBytes = List.replicate (2 * n) 0 := by
  induction n with
  | zero => rfl
  | succ n ih =>
    rw [List.replicate_succ, List.flatMap_cons, ih, sectionBytes_zero, Nat.mul_succ, Nat.add_comm,
      ← List.replicate_append_replicate]
    rfl

/-- The two bytes of half an IPv4 address. -/
lemma sectionBytes_hexText (x y : UInt8) : sectionBytes (hexText [x, y]) = [x, y] := by
  have hx := x.toNat_lt
  have hy := y.toNat_lt
  have h₁ := hexDigit_digitChar (x.toNat / 16) (by omega)
  have h₂ := hexDigit_digitChar (x.toNat % 16) (by omega)
  have h₃ := hexDigit_digitChar (y.toNat / 16) (by omega)
  have h₄ := hexDigit_digitChar (y.toNat % 16) (by omega)
  have htext : hexText [x, y] = [Nat.digitChar (x.toNat / 16), Nat.digitChar (x.toNat % 16),
    Nat.digitChar (y.toNat / 16), Nat.digitChar (y.toNat % 16)] := rfl
  rw [sectionBytes_eq, htext]
  · have hvalue : hexValue [Nat.digitChar (x.toNat / 16), Nat.digitChar (x.toNat % 16),
        Nat.digitChar (y.toNat / 16), Nat.digitChar (y.toNat % 16)] = x.toNat * 256 + y.toNat := by
      simp only [hexValue, List.foldl_cons, List.foldl_nil, h₁, h₂, h₃, h₄, Option.getD_some]
      omega
    rw [hvalue, word, show (x.toNat * 256 + y.toNat) / 256 = x.toNat by omega]
    refine List.cons_eq_cons.mpr ⟨UInt8.ofNat_toNat, List.cons_eq_cons.mpr ⟨?_, rfl⟩⟩
    apply UInt8.toNat_inj.mp
    rw [UInt8.toNat_ofNat']
    omega
  · intro c hc
    rw [htext] at hc
    simp only [List.mem_cons, List.not_mem_nil, or_false] at hc
    obtain rfl | rfl | rfl | rfl := hc
    · rw [h₁]; rfl
    · rw [h₂]; rfl
    · rw [h₃]; rfl
    · rw [h₄]; rfl

/-! ## The two loops -/

/-- The sections of groups and of an IPv4 address behind them, the address as two hexadecimal ones. -/
def hexSections (groups : List HexGroup) (quad : Option DottedQuad) : List (List Char) :=
  groups.map HexGroup.text ++
    quad.toList.flatMap fun quad => [hexText (quad.bytes.take 2), hexText (quad.bytes.drop 2)]

lemma length_hexSections (groups : List HexGroup) (quad : Option DottedQuad) :
    (hexSections groups quad).length = groups.length + 2 * quad.toList.length := by
  cases quad <;> simp [hexSections]

lemma expandV4_append {i : ℕ} {texts rest : List (List Char)} (h : ∀ text ∈ texts, isV4Text text = false) :
    expandV4 i (texts ++ rest) = texts ++ expandV4 (i + texts.length) rest := by
  induction texts generalizing i with
  | nil => rfl
  | cons text texts ih =>
    rw [List.cons_append, expandV4, if_neg (by rw [h text List.mem_cons_self]; decide),
      ih fun text' h' => h text' (List.mem_cons_of_mem text h'), List.length_cons, List.cons_append]
    congr 3
    omega

lemma expandV4_groups {i : ℕ} (groups : List HexGroup) (rest : List (List Char)) :
    expandV4 i (groups.map HexGroup.text ++ rest) =
      groups.map HexGroup.text ++ expandV4 (i + groups.length) rest := by
  rw [expandV4_append, List.length_map]
  intro text htext
  obtain ⟨g, -, rfl⟩ := List.mem_map.mp htext
  exact not_isV4Text_of_isV6Seg g.isV6Seg_text

lemma expandV4_empty (i : ℕ) (rest : List (List Char)) : expandV4 i ([] :: rest) = [] :: expandV4 (i + 1) rest := by
  rw [expandV4, if_neg (by decide)]

/-- Both halves of an IPv4 address have room. -/
lemma expandV4_sections {i : ℕ} (h : i + groups.length + 2 * quad.toList.length ≤ 8) :
    expandV4 i (sections groups quad) = hexSections groups quad := by
  rw [sections, expandV4_groups, hexSections]
  congr 1
  cases quad with
  | none => rfl
  | some quad =>
    change expandV4 (i + groups.length) [quad.text] = _
    have hroom : i + groups.length + 1 < 8 := by
      simp only [Option.toList_some, List.length_singleton] at h
      omega
    rw [expandV4, if_pos quad.isV4Text_text]
    simp only [if_pos hroom, quad.v4Bytes_text]
    rfl

lemma DottedQuad.exists_bytes (quad : DottedQuad) : ∃ a b c d, quad.bytes = [a, b, c, d] := by
  have hlength : quad.bytes.length = 4 := by rw [bytes, List.length_map, quad.length_parts]
  obtain ⟨a, t, ht⟩ := List.exists_cons_of_length_eq_add_one hlength
  rw [ht, List.length_cons, Nat.succ_inj] at hlength
  obtain ⟨b, t', rfl⟩ := List.exists_cons_of_length_eq_add_one hlength
  rw [List.length_cons, Nat.succ_inj] at hlength
  obtain ⟨c, t'', rfl⟩ := List.exists_cons_of_length_eq_add_one hlength
  rw [List.length_cons, Nat.succ_inj] at hlength
  obtain ⟨d, rfl⟩ := List.length_eq_one_iff.mp hlength
  exact ⟨a, b, c, d, ht⟩

lemma flatMap_hexSections (groups : List HexGroup) (quad : Option DottedQuad) :
    (hexSections groups quad).flatMap sectionBytes = wordsOf groups quad := by
  rw [hexSections, List.flatMap_append, flatMap_groups, wordsOf]
  congr 1
  cases quad with
  | none => rfl
  | some quad =>
    obtain ⟨a, b, c, d, hbytes⟩ := quad.exists_bytes
    simp only [Option.toList_some, List.flatMap_cons, List.flatMap_nil, List.append_nil, hbytes,
      List.take_succ_cons, List.take_zero, List.drop_succ_cons, List.drop_zero, sectionBytes_hexText]
    rfl

lemma hexSections_ne_empty : ∀ text ∈ hexSections groups quad, text ≠ [] := by
  intro text htext
  obtain htext | htext := List.mem_append.mp htext
  · exact groups_ne_empty groups text htext
  · obtain ⟨quad, -, htext⟩ := List.mem_flatMap.mp htext
    obtain ⟨a, b, c, d, hbytes⟩ := quad.exists_bytes
    rw [hbytes] at htext
    obtain rfl | htext := List.mem_cons.mp htext
    · exact List.cons_ne_nil _ _
    · obtain rfl := List.mem_singleton.mp htext
      exact List.cons_ne_nil _ _

lemma head?_ne_empty {l : List (List Char)} (h : ∀ text ∈ l, text ≠ []) : l.head? ≠ some [] :=
  fun heq => h [] (List.mem_of_mem_head? heq) rfl

lemma getLast?_ne_empty {l : List (List Char)} (h : ∀ text ∈ l, text ≠ []) : l.getLast? ≠ some [] :=
  fun heq => h [] (List.mem_of_getLast? heq) rfl

lemma fillZeros_front {l : List (List Char)} (h : l.head? = some []) :
    fillZeros l = List.replicate (8 - l.length) ['0'] ++ l := if_pos h

lemma fillZeros_back {l : List (List Char)} (hhead : l.head? ≠ some []) (h : l.getLast? = some []) :
    fillZeros l = l ++ List.replicate (8 - l.length) ['0'] := by
  unfold fillZeros
  rw [if_neg hhead, if_pos h]

lemma fillZeros_full {l : List (List Char)} (h : ∀ text ∈ l, text ≠ []) (hlength : 8 ≤ l.length) :
    fillZeros l = l := by
  unfold fillZeros
  rw [if_neg (head?_ne_empty h), if_neg (getLast?_ne_empty h), if_neg (not_lt.mpr hlength)]

lemma fillZeros_between {first rear : List (List Char)} (hfirst : ∀ text ∈ first, text ≠ [])
    (hrear : ∀ text ∈ rear, text ≠ []) (hf : first ≠ []) (hr : rear ≠ []) :
    fillZeros (first ++ [] :: rear) =
      if first.length + rear.length < 7 then
        first ++ List.replicate (8 - (first.length + rear.length)) ['0'] ++ rear
      else first ++ [] :: rear := by
  have hhead : (first ++ [] :: rear).head? ≠ some [] := by
    rw [List.head?_append_of_ne_nil first hf]
    exact head?_ne_empty hfirst
  have hlast : (first ++ [] :: rear).getLast? ≠ some [] := by
    rw [← List.singleton_append, ← List.append_assoc, List.getLast?_append_of_ne_nil _ hr]
    exact getLast?_ne_empty hrear
  have hindex : (first ++ [] :: rear).findIdx (· == []) = first.length := by
    have hnone := List.findIdx_eq_length_of_false fun text htext => beq_eq_false_iff_ne.mpr (hfirst text htext)
    rw [List.findIdx_append, hnone, if_neg (lt_irrefl _), List.findIdx_cons, beq_self_eq_true, cond_true,
      Nat.zero_add]
  unfold fillZeros
  rw [if_neg hhead, if_neg hlast, hindex]
  simp only [List.length_append, List.length_cons]
  split_ifs with h₁ h₂ h₂
  · rw [List.take_left, List.drop_length_add_append]
    congr 3
    omega
  · omega
  · omega
  · rfl

lemma length_flatMap_sectionBytes (l : List (List Char)) : (l.flatMap sectionBytes).length = 2 * l.length := by
  induction l with
  | nil => rfl
  | cons s l ih =>
    rw [List.flatMap_cons, List.length_append, ih, List.length_cons, Nat.mul_succ, Nat.add_comm]
    rfl

namespace Ipv6Text

/-- The sections that are written for an address. -/
def filled (t : Ipv6Text) : List (List Char) := fillZeros (expandV4 0 (t.segments.take 8))

lemma ipAddressToBuffer_text (t : Ipv6Text) (h : t.filled.length = 8) :
    ipAddressToBuffer (String.ofList t.text) = some (t.filled.flatMap sectionBytes) := by
  have hlength := length_flatMap_sectionBytes t.filled
  rw [h] at hlength
  unfold ipAddressToBuffer
  rw [if_neg (by rw [t.not_isIPv4]; decide), if_neg (by rw [t.isIPv6_text]; decide), String.toList_ofList,
    splitOn_text]
  change some ((t.filled.flatMap sectionBytes).take 16 ++
    List.replicate (16 - (t.filled.flatMap sectionBytes).length) 0) = _
  rw [hlength, List.take_of_length_le hlength.le]
  exact congrArg some (List.append_nil _)

lemma filled_compressed (h : front.length + back.length + 2 * quad.toList.length ≤ 7) :
    (compressed front back quad h).filled =
      fillZeros (expandV4 0
        ((orEmpty (front.map HexGroup.text) ++ [] :: orEmpty (sections back quad)).take 8)) := rfl

lemma filled_full (h : groups.length + 2 * quad.toList.length = 8) :
    (full groups quad h).filled = hexSections groups quad := by
  have hlength : (hexSections groups quad).length = 8 := (length_hexSections groups quad).trans h
  unfold filled segments
  rw [List.take_of_length_le, expandV4_sections (by omega), fillZeros_full hexSections_ne_empty hlength.ge]
  rw [length_sections]
  omega

/-- Groups in front of the `::` and behind it. -/
lemma filled_between (h : front.length + back.length + 2 * quad.toList.length ≤ 7) (hfront : front ≠ [])
    (hrear : sections back quad ≠ []) :
    (compressed front back quad h).filled =
      if front.length + (hexSections back quad).length < 7 then
        front.map HexGroup.text ++ List.replicate (8 - (front.length + (hexSections back quad).length)) ['0'] ++
          hexSections back quad
      else front.map HexGroup.text ++ [] :: hexSections back quad := by
  have hf : front.map HexGroup.text ≠ [] := fun heq => hfront (List.map_eq_nil_iff.mp heq)
  have hpos := List.length_pos_of_ne_nil hfront
  have hrear' : hexSections back quad ≠ [] := by
    intro heq
    have hzero := length_hexSections back quad
    have hsections := length_sections back quad
    rw [heq, List.length_nil] at hzero
    exact hrear (List.eq_nil_of_length_eq_zero (by omega))
  rw [filled_compressed, orEmpty_of_ne_nil hf, orEmpty_of_ne_nil hrear, List.take_of_length_le, expandV4_groups,
    expandV4_empty, expandV4_sections (by omega), fillZeros_between (groups_ne_empty front) hexSections_ne_empty hf
    hrear',
    List.length_map]
  rw [List.length_append, List.length_cons, List.length_map, length_sections]
  omega

/-- The `::` at the end. -/
lemma filled_back (h : front.length + back.length + 2 * quad.toList.length ≤ 7) (hfront : front ≠ [])
    (hrear : sections back quad = []) :
    ∃ k, k ≤ 8 - front.length ∧ (compressed front back quad h).filled =
      front.map HexGroup.text ++ List.replicate k [] ++ List.replicate (8 - (front.length + k)) ['0'] := by
  have hf : front.map HexGroup.text ≠ [] := fun heq => hfront (List.map_eq_nil_iff.mp heq)
  have hhead (rest : List (List Char)) : (front.map HexGroup.text ++ rest).head? ≠ some [] := by
    rw [List.head?_append_of_ne_nil _ hf]
    exact head?_ne_empty (groups_ne_empty front)
  have hlength : (front.map HexGroup.text).length = front.length := List.length_map _
  rw [filled_compressed, orEmpty_of_ne_nil hf, hrear, orEmpty_nil]
  by_cases hseven : front.length = 7
  · refine ⟨1, by omega, ?_⟩
    have htake : (front.map HexGroup.text ++ [[], []]).take 8 = front.map HexGroup.text ++ [[]] := by
      rw [List.take_append, hlength, hseven, List.take_of_length_le (by omega)]
      rfl
    rw [htake, expandV4_groups, expandV4_empty, fillZeros_back (hhead _) (by rw [expandV4]; simp)]
    rw [expandV4, List.length_append, hlength]
    rfl
  · refine ⟨2, by omega, ?_⟩
    have hle : (front.map HexGroup.text ++ [[], []]).length ≤ 8 := by
      rw [List.length_append, hlength]
      change front.length + 2 ≤ 8
      omega
    rw [List.take_of_length_le hle, expandV4_groups, expandV4_empty, expandV4_empty,
      fillZeros_back (hhead _) (by rw [expandV4]; simp)]
    rw [expandV4, List.length_append, hlength]
    rfl

/-- The `::` at the front, for more than one group. -/
lemma filled_front (h : back.length + 2 * quad.toList.length ≤ 6)
    (h' : ([] : List HexGroup).length + back.length + 2 * quad.toList.length ≤ 7) :
    ∃ k, k ≤ 8 - (hexSections back quad).length ∧ (compressed [] back quad h').filled =
      List.replicate (8 - (k + (hexSections back quad).length)) ['0'] ++ List.replicate k [] ++
        hexSections back quad := by
  have hlength := length_hexSections back quad
  rw [filled_compressed, List.map_nil, orEmpty_nil]
  by_cases hrear : sections back quad = []
  · have hzero : hexSections back quad = [] := by
      have hsections := length_sections back quad
      rw [hrear, List.length_nil] at hsections
      exact List.eq_nil_of_length_eq_zero (by omega)
    refine ⟨3, by rw [hzero]; decide, ?_⟩
    rw [hrear, orEmpty_nil, hzero]
    decide
  · refine ⟨2, by omega, ?_⟩
    rw [orEmpty_of_ne_nil hrear, List.take_of_length_le, List.singleton_append, expandV4_empty, expandV4_empty,
      expandV4_sections (by omega), fillZeros_front rfl, List.append_assoc]
    · congr 2
      simp only [List.length_cons]
      omega
    · rw [List.singleton_append, List.length_cons, List.length_cons, length_sections]
      omega

/-- The `::` at the front, for one group: the last section, or the second half of the IPv4 address, is cut off. -/
lemma filled_leadingSingle (h : back.length + 2 * quad.toList.length = 7)
    (h' : ([] : List HexGroup).length + back.length + 2 * quad.toList.length ≤ 7) :
    (compressed [] back quad h').filled = [] :: [] :: (hexSections back quad).take 6 := by
  have hrear : sections back quad ≠ [] := by
    intro heq
    have hlength := length_sections back quad
    rw [heq, List.length_nil] at hlength
    omega
  rw [filled_compressed, List.map_nil, orEmpty_nil, orEmpty_of_ne_nil hrear]
  cases quad with
  | none =>
    have hseven : back.length = 7 := h
    have htake : ([[]] ++ [] :: sections back none).take 8 = [] :: [] :: (back.take 6).map HexGroup.text ++ [] := by
      rw [sections_none, List.append_nil, List.map_take]
      rfl
    have hhex : hexSections back none = back.map HexGroup.text := List.append_nil _
    rw [htake, List.cons_append, List.cons_append, expandV4_empty, expandV4_empty, expandV4_groups,
      fillZeros_front rfl, hhex, List.map_take]
    simp only [expandV4, List.append_nil, List.length_cons, List.length_take, List.length_map, hseven]
    rfl
  | some quad =>
    have hfive : back.length = 5 := by
      simp only [Option.toList_some, List.length_singleton] at h
      omega
    have htake : ([[]] ++ [] :: sections back (some quad)).take 8 =
        [] :: [] :: (back.map HexGroup.text ++ [quad.text]) := by
      refine List.take_of_length_le ?_
      rw [List.singleton_append, List.length_cons, List.length_cons, length_sections, hfive]
      exact le_rfl
    have hlast : expandV4 (0 + 1 + 1 + back.length) [quad.text] = [hexText (quad.bytes.take 2)] := by
      rw [hfive, expandV4, if_pos quad.isV4Text_text]
      simp only [quad.v4Bytes_text]
      rfl
    have hle : (back.map HexGroup.text).length ≤ 6 := by
      rw [List.length_map, hfive]
      decide
    have hcut : (hexSections back (some quad)).take 6 =
        back.map HexGroup.text ++ [hexText (quad.bytes.take 2)] := by
      rw [hexSections, List.take_append, List.length_map, hfive, List.take_of_length_le hle]
      rfl
    rw [htake, expandV4_empty, expandV4_empty, expandV4_groups, hlast, fillZeros_front rfl, hcut]
    simp only [List.length_cons, List.length_append, List.length_map, hfive, List.length_nil]
    rfl

lemma length_filled (t : Ipv6Text) : t.filled.length = 8 := by
  cases t with
  | full groups quad h => rw [filled_full, length_hexSections, h]
  | compressed front back quad h =>
    have hhex := length_hexSections back quad
    have hsections := length_sections back quad
    by_cases hfront : front = []
    · subst hfront
      by_cases hseven : back.length + 2 * quad.toList.length = 7
      · rw [filled_leadingSingle hseven, List.length_cons, List.length_cons, List.length_take, hhex, hseven]
        rfl
      · rw [List.length_nil] at h
        obtain ⟨k, hk, hfilled⟩ := filled_front (by omega) h
        rw [hfilled]
        simp only [List.length_append, List.length_replicate]
        omega
    · have hpos := List.length_pos_of_ne_nil hfront
      by_cases hrear : sections back quad = []
      · obtain ⟨k, hk, hfilled⟩ := filled_back h hfront hrear
        rw [hfilled]
        simp only [List.length_append, List.length_replicate, List.length_map]
        omega
      · rw [filled_between h hfront hrear]
        split_ifs with hlt
        · simp only [List.length_append, List.length_replicate, List.length_map]
          omega
        · simp only [List.length_append, List.length_cons, List.length_map]
          omega

lemma flatMap_replicate_nil (k : ℕ) : (List.replicate k []).flatMap sectionBytes = List.replicate (2 * k) 0 := by
  induction k with
  | zero => rfl
  | succ k ih =>
    rw [List.replicate_succ, List.flatMap_cons, ih, sectionBytes_nil, Nat.mul_succ, Nat.add_comm,
      ← List.replicate_append_replicate]
    rfl

lemma wordsOf_none (groups : List HexGroup) :
    wordsOf groups none = groups.flatMap fun g => word (hexValue g.text) :=
  List.append_nil _

/-- Apart from a `::` at the front for one group, what is written is what the text denotes. -/
lemma flatMap_filled {t : Ipv6Text} (h : ¬t.LeadingSingle) : t.filled.flatMap sectionBytes = t.bytes := by
  cases t with
  | full groups quad hlength => rw [filled_full, flatMap_hexSections, bytes]
  | compressed front back quad hle =>
    have hhex := length_hexSections back quad
    have hsections := length_sections back quad
    rw [bytes, wordsOf_none]
    by_cases hfront : front = []
    · subst hfront
      rw [LeadingSingle, not_and] at h
      have hne := h rfl
      rw [List.length_nil] at hle
      obtain ⟨k, hk, hfilled⟩ := filled_front (by omega) hle
      rw [hfilled, List.flatMap_append, List.flatMap_append, flatMap_replicate_zero, flatMap_replicate_nil,
        flatMap_hexSections, List.replicate_append_replicate, List.flatMap_nil, List.nil_append]
      congr 2
      rw [List.length_nil]
      omega
    · have hpos := List.length_pos_of_ne_nil hfront
      by_cases hrear : sections back quad = []
      · obtain ⟨k, hk, hfilled⟩ := filled_back hle hfront hrear
        rw [hrear, List.length_nil] at hsections
        obtain rfl : back = [] := List.eq_nil_of_length_eq_zero (by omega)
        have hquad : quad = none := by
          cases quad with
          | none => rfl
          | some quad => exact absurd hsections (by simp)
        subst hquad
        rw [hfilled, List.flatMap_append, List.flatMap_append, flatMap_replicate_zero, flatMap_replicate_nil,
          flatMap_groups, List.append_assoc, List.replicate_append_replicate, wordsOf_none,
          List.flatMap_nil, List.append_nil]
        congr 2
        simp only [List.length_nil, Option.toList_none]
        omega
      · rw [filled_between hle hfront hrear]
        split_ifs with hlt
        · rw [List.flatMap_append, List.flatMap_append, flatMap_replicate_zero, flatMap_groups,
            flatMap_hexSections, hhex, Nat.add_assoc]
        · have hone : 8 - (front.length + back.length + 2 * quad.toList.length) = 1 := by omega
          rw [List.flatMap_append, List.flatMap_cons, flatMap_groups, flatMap_hexSections, sectionBytes_nil,
            hone, List.append_assoc]
          rfl

lemma length_wordsOf (groups : List HexGroup) (quad : Option DottedQuad) :
    (wordsOf groups quad).length = 2 * (groups.length + 2 * quad.toList.length) := by
  rw [← flatMap_hexSections, length_flatMap_sectionBytes, length_hexSections]

lemma take_flatMap_sectionBytes (l : List (List Char)) (n : ℕ) :
    (l.take n).flatMap sectionBytes = (l.flatMap sectionBytes).take (2 * n) := by
  induction l generalizing n with
  | nil => simp
  | cons s l ih =>
    cases n with
    | zero => rfl
    | succ n =>
      rw [List.take_succ_cons, List.flatMap_cons, ih, List.flatMap_cons, Nat.mul_succ, Nat.add_comm]
      have htake : (sectionBytes s ++ l.flatMap sectionBytes).take ((sectionBytes s).length + 2 * n) =
          sectionBytes s ++ (l.flatMap sectionBytes).take (2 * n) := List.take_length_add_append _
      exact htake.symm

/-- A list is all the same if it goes on with itself behind two elements. -/
lemma shifted_eq_self_iff {α : Type*} {a : α} {n : ℕ} {l : List α} (h : l.length = n + 2) :
    a :: a :: l.take n = l ↔ ∀ x ∈ l, x = a := by
  induction n using Nat.twoStepInduction generalizing l with
  | zero =>
    obtain ⟨x, y, rfl⟩ := List.length_eq_two.mp h
    simp only [List.take_zero, List.cons.injEq, and_true, List.mem_cons, List.not_mem_nil, or_false,
      forall_eq_or_imp, forall_eq]
    exact ⟨fun ⟨hx, hy⟩ => ⟨hx.symm, hy.symm⟩, fun ⟨hx, hy⟩ => ⟨hx.symm, hy.symm⟩⟩
  | one =>
    obtain ⟨x, y, z, rfl⟩ := List.length_eq_three.mp h
    simp only [List.take_succ_cons, List.take_zero, List.cons.injEq, and_true, List.mem_cons, List.not_mem_nil,
      or_false, forall_eq_or_imp, forall_eq]
    exact ⟨fun ⟨hx, hy, hz⟩ => ⟨hx.symm, hy.symm, hz.symm.trans hx.symm⟩,
      fun ⟨hx, hy, hz⟩ => ⟨hx.symm, hy.symm, hx.trans hz.symm⟩⟩
  | more n ih _ =>
    obtain ⟨x, l, rfl⟩ := List.exists_cons_of_length_eq_add_one h
    obtain ⟨y, l, rfl⟩ := List.exists_cons_of_length_eq_add_one (Nat.succ_inj.mp h)
    have hlength : l.length = n + 2 := Nat.succ_inj.mp (Nat.succ_inj.mp h)
    rw [List.take_succ_cons, List.take_succ_cons, List.cons.injEq, List.cons.injEq, List.forall_mem_cons,
      List.forall_mem_cons, ← ih hlength]
    constructor
    · rintro ⟨rfl, rfl, hl⟩
      exact ⟨rfl, rfl, hl⟩
    · rintro ⟨rfl, rfl, hl⟩
      exact ⟨rfl, rfl, hl⟩

/-- With a `::` at the front for one group, there is no difference in zeros only. -/
lemma flatMap_filled_iff (t : Ipv6Text) :
    t.filled.flatMap sectionBytes = t.bytes ↔ (t.LeadingSingle → ∀ b ∈ t.bytes, b = 0) := by
  by_cases h : t.LeadingSingle
  · cases t with
    | full groups quad hlength => exact h.elim
    | compressed front back quad hle =>
      obtain ⟨rfl, hseven⟩ := h
      have hlength := length_wordsOf back quad
      rw [hseven] at hlength
      have hsixteen : (0 :: 0 :: wordsOf back quad).length = 14 + 2 := by
        rw [List.length_cons, List.length_cons, hlength]
      have hbytes : (compressed [] back quad hle).bytes = 0 :: 0 :: wordsOf back quad := by
        rw [bytes, wordsOf_none, List.length_nil, Nat.zero_add, hseven]
        rfl
      rw [filled_leadingSingle hseven, hbytes, List.flatMap_cons, List.flatMap_cons, sectionBytes_nil,
        take_flatMap_sectionBytes, flatMap_hexSections, ← shifted_eq_self_iff (n := 14) hsixteen]
      exact ⟨fun heq _ => heq, fun himp => himp ⟨rfl, hseven⟩⟩
  · exact ⟨fun _ hsingle => absurd hsingle h, fun _ => flatMap_filled h⟩

end Ipv6Text

/-! ## What is written is read back -/

lemma hexValue_append (s : List Char) (c : Char) : hexValue (s ++ [c]) = hexValue s * 16 + (hexDigit c).getD 0 := by
  rw [hexValue, List.foldl_append]
  rfl

/-- The digits of a hexadecimal number, and their value. -/
lemma hextetText_spec (n : ℕ) : (∀ c ∈ hextetText n, (hexDigit c).isSome) ∧ hexValue (hextetText n) = n := by
  induction n using Nat.strongRecOn with
  | ind n ih =>
    by_cases hlt : n < 16
    · have hdigit := hexDigit_digitChar n hlt
      rw [hextetText, Nat.toDigits_of_lt_base hlt]
      refine ⟨fun c hc => ?_, ?_⟩
      · rw [List.mem_singleton.mp hc, hdigit]
        rfl
      · simp only [hexValue, List.foldl_cons, List.foldl_nil, hdigit, Option.getD_some]
        omega
    · obtain ⟨hdigits, hvalue⟩ := ih (n / 16) (by omega)
      have hdigit := hexDigit_digitChar (n % 16) (by omega)
      rw [hextetText] at hdigits hvalue
      rw [hextetText, Nat.toDigits_of_base_le (by decide) (by omega)]
      refine ⟨fun c hc => ?_, ?_⟩
      · obtain hc | hc := List.mem_append.mp hc
        · exact hdigits c hc
        · rw [List.mem_singleton.mp hc, hdigit]
          rfl
      · rw [hexValue_append, hvalue, hdigit, Option.getD_some]
        omega

lemma isV6Seg_hextetText {n : ℕ} (h : n < 16 ^ 4) : isV6Seg (hextetText n) := by
  have hlow : 1 ≤ (hextetText n).length := Nat.length_toDigits_pos
  have hhigh : (hextetText n).length ≤ 4 := (Nat.length_toDigits_le_iff (by decide) (by decide)).mpr h
  simp only [isV6Seg, Bool.and_eq_true, decide_eq_true_eq, List.all_eq_true]
  exact ⟨⟨hlow, hhigh⟩, (hextetText_spec n).1⟩

/-- The group of a number. -/
def HexGroup.ofNat (n : ℕ) : HexGroup where
  text := hextetText (n % 16 ^ 4)
  isV6Seg_text := isV6Seg_hextetText (Nat.mod_lt n (by decide))

lemma HexGroup.text_ofNat {n : ℕ} (h : n < 16 ^ 4) : (HexGroup.ofNat n).text = hextetText n :=
  congrArg hextetText (Nat.mod_eq_of_lt h)

lemma map_text_ofNat {hextets : List ℕ} (h : ∀ n ∈ hextets, n < 16 ^ 4) :
    (hextets.map HexGroup.ofNat).map HexGroup.text = hextets.map hextetText := by
  rw [List.map_map]
  exact List.map_congr_left fun n hn => HexGroup.text_ofNat (h n hn)

lemma flatMap_ofNat {hextets : List ℕ} (h : ∀ n ∈ hextets, n < 16 ^ 4) :
    ((hextets.map HexGroup.ofNat).flatMap fun g => word (hexValue g.text)) = hextets.flatMap word := by
  rw [List.flatMap_map]
  refine List.flatMap_congr fun n hn => ?_
  rw [HexGroup.text_ofNat (h n hn), (hextetText_spec n).2]

/-- The run of zeros that `::` stands for has at least two. -/
lemma splitZeros_eq_some {l before after : List ℕ} (h : splitZeros l = some (before, after)) :
    ∃ k, l = before ++ List.replicate (k + 2) 0 ++ after := by
  induction l generalizing before with
  | nil => cases h
  | cons n l ih =>
    by_cases hzeros : ∃ rest, n :: l = 0 :: 0 :: rest
    · obtain ⟨rest, heq⟩ := hzeros
      rw [heq] at h ⊢
      obtain ⟨rfl, rfl⟩ := Prod.mk.inj (Option.some.inj h)
      refine ⟨(rest.takeWhile (· == 0)).length, ?_⟩
      have hrun : rest.takeWhile (· == 0) = List.replicate (rest.takeWhile (· == 0)).length 0 :=
        List.eq_replicate_iff.mpr ⟨rfl, fun x hx => beq_iff_eq.mp (List.mem_takeWhile_imp (p := (· == 0)) hx)⟩
      rw [List.nil_append, List.replicate_succ, List.replicate_succ, ← hrun, List.cons_append, List.cons_append,
        List.takeWhile_append_dropWhile]
    · have hstep : splitZeros (n :: l) = (splitZeros l).map fun p => (n :: p.1, p.2) := by
        rw [splitZeros]
        intro rest hn hrest
        exact hzeros ⟨rest, by rw [hn, hrest]⟩
      rw [hstep] at h
      obtain ⟨⟨before', after'⟩, hsplit, heq⟩ := Option.map_eq_some_iff.mp h
      obtain ⟨rfl, rfl⟩ := Prod.mk.inj heq
      obtain ⟨k, hl⟩ := ih hsplit
      exact ⟨k, by rw [hl]; rfl⟩

lemma flatMap_pairs (k : ℕ) (buf : Bytes) (h : buf.length = 2 * k) :
    ((List.range k).flatMap fun i => (buf.drop (2 * i)).take 2) = buf := by
  induction k generalizing buf with
  | zero => exact (List.eq_nil_of_length_eq_zero h).symm
  | succ k ih =>
    have hrest := ih (buf.drop 2) (by rw [List.length_drop]; omega)
    simp only [List.drop_drop] at hrest
    rw [List.range_succ_eq_map, List.flatMap_cons, List.flatMap_map]
    have hshift : (fun i => (buf.drop (2 * Nat.succ i)).take 2) = fun i => (buf.drop (2 + 2 * i)).take 2 := by
      funext i
      rw [Nat.mul_succ, Nat.add_comm]
    rw [hshift, hrest]
    exact List.take_append_drop 2 buf

lemma word_decode (x y : UInt8) : word (BigEndian.decode [x, y]) = [x, y] := by
  have hx := x.toNat_lt
  have hy := y.toNat_lt
  have hvalue : BigEndian.decode [x, y] = x.toNat * 256 + y.toNat := by
    simp [BigEndian.decode]
  rw [hvalue, word, show (x.toNat * 256 + y.toNat) / 256 = x.toNat by omega]
  refine List.cons_eq_cons.mpr ⟨UInt8.ofNat_toNat, List.cons_eq_cons.mpr ⟨?_, rfl⟩⟩
  apply UInt8.toNat_inj.mp
  rw [UInt8.toNat_ofNat']
  omega

/-- The groups of a buffer. -/
def hextets (buf : Bytes) : List ℕ := (List.range 8).map fun i => BigEndian.decode ((buf.drop (2 * i)).take 2)

lemma hextets_spec {buf : Bytes} (h : buf.length = 16) :
    (hextets buf).length = 8 ∧ (∀ n ∈ hextets buf, n < 16 ^ 4) ∧ (hextets buf).flatMap word = buf := by
  have hpair (i : ℕ) (hi : i < 8) : ∃ x y, (buf.drop (2 * i)).take 2 = [x, y] := by
    refine List.length_eq_two.mp ?_
    rw [List.length_take, List.length_drop, h]
    omega
  refine ⟨by rw [hextets, List.length_map, List.length_range], fun n hn => ?_, ?_⟩
  · obtain ⟨i, hi, rfl⟩ := List.mem_map.mp hn
    obtain ⟨x, y, hxy⟩ := hpair i (List.mem_range.mp hi)
    have hlt : BigEndian.decode [x, y] < 256 ^ 2 := BigEndian.decode_lt [x, y]
    rw [hxy]
    exact hlt.trans_eq (by norm_num)
  · rw [hextets, List.flatMap_map]
    refine Eq.trans (List.flatMap_congr fun i hi => ?_) (flatMap_pairs 8 buf h)
    obtain ⟨x, y, hxy⟩ := hpair i (List.mem_range.mp hi)
    rw [hxy, word_decode]

lemma isV4Seg_toDigits : ∀ n < 256, isV4Seg (Nat.toDigits 10 n) := by decide +kernel

/-- The IPv4 address of four bytes. -/
def DottedQuad.ofBytes (buf : Bytes) (h : buf.length = 4) : DottedQuad where
  parts := buf.map fun b => Nat.toDigits 10 b.toNat
  length_parts := by rw [List.length_map, h]
  isV4Seg_parts part hpart := by
    obtain ⟨b, -, rfl⟩ := List.mem_map.mp hpart
    exact isV4Seg_toDigits b.toNat b.toNat_lt

lemma DottedQuad.bytes_ofBytes {buf : Bytes} (h : buf.length = 4) : (DottedQuad.ofBytes buf h).bytes = buf := by
  rw [DottedQuad.bytes, DottedQuad.ofBytes, List.map_map]
  refine (List.map_congr_left fun b _ => ?_).trans (List.map_id buf)
  rw [Function.comp_apply, Nat.ofDigitChars_ten_toDigits]
  exact UInt8.ofNat_toNat

lemma ipAddressToBuffer_quad (quad : DottedQuad) :
    ipAddressToBuffer (String.ofList quad.text) = some quad.bytes := by
  unfold ipAddressToBuffer
  rw [isIPv4, String.toList_ofList, if_pos quad.isV4Text_text, quad.v4Bytes_text]

/-- The text of four bytes. -/
lemma bufferToIpAddress_quad {buf : Bytes} (h : buf.length = 4) :
    bufferToIpAddress buf = some (String.ofList (DottedQuad.ofBytes buf h).text) := if_pos h

/-- The text of sixteen bytes: a `::` stands for two groups at least. -/
lemma bufferToIpAddress_hextets {buf : Bytes} (h : buf.length = 16) :
    ∃ t : Ipv6Text, ¬t.LeadingSingle ∧ t.bytes = buf ∧ bufferToIpAddress buf = some (String.ofList t.text) := by
  obtain ⟨hlength, hlt, hbytes⟩ := hextets_spec h
  unfold bufferToIpAddress
  rw [if_neg (by omega), if_neg (not_not.mpr h)]
  have hwords : ((List.range 8).map fun i => BigEndian.decode ((buf.drop (2 * i)).take 2)) = hextets buf := rfl
  dsimp only
  rw [hwords]
  cases hsplit : splitZeros (hextets buf) with
  | none =>
    have htext := map_text_ofNat hlt
    refine ⟨.full ((hextets buf).map HexGroup.ofNat) none (by rw [List.length_map, hlength]; rfl), id, ?_, ?_⟩
    · rw [Ipv6Text.bytes, Ipv6Text.wordsOf_none, flatMap_ofNat hlt, hbytes]
    · rw [Ipv6Text.text, sections_none, htext]
      rfl
  | some split =>
    obtain ⟨before, after⟩ := split
    obtain ⟨k, hl⟩ := splitZeros_eq_some hsplit
    have hcount : before.length + (k + 2) + after.length = 8 := by
      rw [← hlength, hl, List.length_append, List.length_append, List.length_replicate]
    have hbefore : ∀ n ∈ before, n < 16 ^ 4 := fun n hn =>
      hlt n (by rw [hl]; exact List.mem_append_left _ (List.mem_append_left _ hn))
    have hafter : ∀ n ∈ after, n < 16 ^ 4 := fun n hn => hlt n (by rw [hl]; exact List.mem_append_right _ hn)
    have hle : (before.map HexGroup.ofNat).length + (after.map HexGroup.ofNat).length +
        2 * (none : Option DottedQuad).toList.length ≤ 7 := by
      simp only [List.length_map, Option.toList_none, List.length_nil]
      omega
    refine ⟨.compressed (before.map HexGroup.ofNat) (after.map HexGroup.ofNat) none hle, ?_, ?_, ?_⟩
    · rintro ⟨-, hseven⟩
      simp only [List.length_map, Option.toList_none, List.length_nil] at hseven
      omega
    · have hzeros : (List.replicate (k + 2) 0).flatMap word = List.replicate (2 * (k + 2)) 0 := by
        induction k + 2 with
        | zero => rfl
        | succ k ih =>
          rw [List.replicate_succ, List.flatMap_cons, ih, Nat.mul_succ, Nat.add_comm,
            ← List.replicate_append_replicate]
          rfl
      rw [Ipv6Text.bytes, Ipv6Text.wordsOf_none, Ipv6Text.wordsOf_none, flatMap_ofNat hbefore, flatMap_ofNat hafter,
        ← hbytes, hl, List.flatMap_append, List.flatMap_append, hzeros]
      congr 3
      simp only [List.length_map, Option.toList_none, List.length_nil]
      omega
    · rw [Ipv6Text.text, sections_none, map_text_ofNat hbefore, map_text_ofNat hafter]
      exact congrArg (fun text => some (String.ofList text)) (List.append_assoc _ _ _)

/-- **Texts of IP addresses.**  What is written for four or sixteen bytes is read back as these bytes, a text of
an IPv4 address is read as it is, and one of an IPv6 address also, but for a `::` at the front that stands for one
group: that is read as the address only if all its groups are zero. -/
theorem ipAddressToBuffer_reads (buf : Bytes) (quad : DottedQuad) (t : Ipv6Text) :
    (buf.length = 4 ∨ buf.length = 16 → (bufferToIpAddress buf).bind ipAddressToBuffer = some buf) ∧
      ipAddressToBuffer (String.ofList quad.text) = some quad.bytes ∧
      (ipAddressToBuffer (String.ofList t.text) = some t.bytes ↔ (t.LeadingSingle → ∀ b ∈ t.bytes, b = 0)) := by
  refine ⟨?_, ipAddressToBuffer_quad quad, ?_⟩
  · rintro (h | h)
    · rw [bufferToIpAddress_quad h, Option.bind_some, ipAddressToBuffer_quad, DottedQuad.bytes_ofBytes]
    · obtain ⟨t, hsingle, hbytes, hwritten⟩ := bufferToIpAddress_hextets h
      rw [hwritten, Option.bind_some, t.ipAddressToBuffer_text t.length_filled, Ipv6Text.flatMap_filled hsingle,
        hbytes]
  · rw [t.ipAddressToBuffer_text t.length_filled, Option.some.injEq, t.flatMap_filled_iff]

/-- Seven groups behind a `::`. -/
def sevenGroups : Ipv6Text :=
  .compressed [] ([2, 3, 4, 5, 6, 7, 8].map HexGroup.ofNat) none (by decide)

/-- What is read for the round trip of the address `::1`. -/
theorem ipAddressToBuffer_reads_loopback :
    (bufferToIpAddress [0, 0, 0, 0, 0, 0, 0, 0, 0, 0, 0, 0, 0, 0, 0, 1]).bind ipAddressToBuffer =
      some [0, 0, 0, 0, 0, 0, 0, 0, 0, 0, 0, 0, 0, 0, 0, 1] :=
  (ipAddressToBuffer_reads [0, 0, 0, 0, 0, 0, 0, 0, 0, 0, 0, 0, 0, 0, 0, 1] (.ofBytes [10, 0, 0, 1] rfl)
    sevenGroups).1 (.inr rfl)

/-- The last group of `::2:3:4:5:6:7:8` is lost, and the others move by one. -/
theorem not_ipAddressToBuffer_reads : sevenGroups.text = "::2:3:4:5:6:7:8".toList ∧
    ¬∀ t : Ipv6Text, ipAddressToBuffer (String.ofList t.text) = some t.bytes := by
  refine ⟨by decide +kernel, fun h => ?_⟩
  have hread := h sevenGroups
  revert hread
  decide +kernel

end Werift.Stun
