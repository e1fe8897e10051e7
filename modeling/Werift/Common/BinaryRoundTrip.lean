import Werift.Common.BinaryData
import Werift.Lib.Except
import Werift.Lib.PrefixReader

/-!
# Binary data is read back

`decode` reads back what `encode` has written, and leaves what follows (`decodeCommon_encodeCommon`).  This
is so for values that it can read back at all (`Admits`): an encoding must be able to represent the
strings, items of an array that is counted in bytes must not be empty, and a callback must see the length
in what has been read before.  Of each object the fields of its schema are read back, in its order
(`restrict`).  On a proper prefix `decode` throws (`decode_prefix`).
-/

namespace Werift.BinaryData

open PrefixReader (Continues Stable)

/-! ## Induction -/

/-- **Induction over schemas.** -/
theorem TypeOrSchema.induct {P : TypeOrSchema → Prop} (uintBE : ∀ size, P (.uintBE size))
    (buffer : ∀ length, P (.buffer length))
    (array : ∀ type length lengthType, P type → P (.array type length lengthType))
    (string : ∀ length encoding, P (.string length encoding))
    (schema : ∀ fields : List (String × TypeOrSchema), (∀ field ∈ fields, P field.2) →
      P (.schema fields)) (t : TypeOrSchema) : P t := by
  refine @TypeOrSchema.rec P (fun fields => ∀ field ∈ fields, P field.2) (fun field => P field.2)
    uintBE buffer array string schema ?_ ?_ ?_ t
  · exact fun field hfield => absurd hfield List.not_mem_nil
  · intro first fields hfirst hfields field hfield
    obtain rfl | hfield := List.mem_cons.mp hfield
    · exact hfirst
    · exact hfields field hfield
  · exact fun _ _ hfield => hfield

/-! ## What is read back -/

mutual

/-- A value with the fields of its schema only. -/
def restrict : TypeOrSchema → Value → Value
  | .array type _ _, .array items => .array (items.map (restrict type))
  | .schema fields, obj => .object (restrictFields fields obj)
  | _, value => value

/-- The fields of an object, in the order of the schema. -/
def restrictFields : List (String × TypeOrSchema) → Value → List (String × Value)
  | [], _ => []
  | (key, type) :: fields, obj => (key, restrict type (obj.get key)) :: restrictFields fields obj

end

lemma restrict_array (type : TypeOrSchema) (length : LengthSpec) (lengthType : LengthType)
    (items : List Value) :
    restrict (.array type length lengthType) (.array items) = .array (items.map (restrict type)) := by
  rw [restrict]

/-- A callback gives the same length for what is written and for what has been read. -/
def LengthSpec.Agrees (length : LengthSpec) (encoding decoding : Context) : Prop :=
  match length with
  | .callback f => f decoding = f encoding
  | _ => True

/-- The items can be read back, each in the contexts behind the ones in front of it. -/
def AdmitsItems (type : TypeOrSchema) (admits : Context → Context → Value → Prop) :
    Context → Context → List Value → Prop
  | _, _, [] => True
  | encoding, decoding, item :: items =>
    admits encoding decoding item ∧
      AdmitsItems type admits (type.after encoding item) (type.after decoding (restrict type item)) items

mutual

/-- The value can be read back, in the contexts in which it is written and read. -/
def Admits : TypeOrSchema → Context → Context → Value → Prop
  | .buffer length, encoding, decoding, _ => length.Agrees encoding decoding
  | .string length enc, encoding, decoding, .string s =>
    length.Agrees encoding decoding ∧ enc.decode (enc.encode s) = s
  | .array type length lengthType, encoding, decoding, .array items =>
    length.Agrees encoding decoding ∧ AdmitsItems type
      (fun encoding decoding item => Admits type encoding decoding item ∧
        (lengthType = .bytes → encodeCommon type encoding item ≠ .ok [])) encoding decoding items
  | .schema fields, encoding, decoding, obj =>
    AdmitsFields fields { node := some (encoding.node.getD obj), current := some obj } decoding.node []
      obj
  | _, _, _, _ => True

/-- The fields of an object can be read back behind the fields `node`. -/
def AdmitsFields : List (String × TypeOrSchema) → Context → Option Value → List (String × Value) →
    Value → Prop
  | [], _, _, _, _ => True
  | (key, type) :: fields, encoding, root, node, obj =>
    Admits type encoding { node := some (root.getD (.object node)), current := some (.object node) }
        (obj.get key) ∧
      AdmitsFields fields encoding root (node ++ [(key, restrict type (obj.get key))]) obj

end

/-! ## Numbers and lengths -/

variable {bytes pre : Bytes} {fuel : ℕ}

lemma readBuffer_append {size : ℕ} (h : bytes.length = size) (rest : Bytes) :
    readBuffer size (bytes ++ rest) = .ok (bytes, rest) := by
  have hlong : ¬ size > (bytes ++ rest).length := by
    rw [List.length_append]
    omega
  rw [readBuffer, if_neg hlong, List.take_left' h, List.drop_left' h]

/-- A number that has been written is a natural number. -/
lemma writeUIntBE_eq_ok {value : ℤ} {size : ℕ} : writeUIntBE value size = .ok bytes ↔
    ∃ n : ℕ, value = n ∧ n < 256 ^ size ∧ bytes = BigEndian.encode size n := by
  rw [writeUIntBE]
  cases h : Js.writeUIntBE size value with
  | none =>
    constructor
    · intro hbytes
      cases hbytes
    · rintro ⟨n, rfl, hn, -⟩
      have hsome := (Js.isSome_writeUIntBE (k := size) (v := n)).mpr
        ⟨Int.natCast_nonneg n, by exact_mod_cast hn⟩
      rw [h] at hsome
      cases hsome
  | some field =>
    obtain ⟨⟨hpos, hlt⟩, rfl⟩ := Js.writeUIntBE_eq_some.mp h
    constructor
    · intro hbytes
      obtain rfl := Except.ok.inj hbytes
      refine ⟨value.toNat, (Int.toNat_of_nonneg hpos).symm, ?_, rfl⟩
      zify
      rwa [Int.toNat_of_nonneg hpos]
    · rintro ⟨n, rfl, -, rfl⟩
      rw [Int.toNat_natCast]

lemma readUIntBE_append {n size : ℕ} (hn : n < 256 ^ size) (rest : Bytes) :
    readUIntBE size (BigEndian.encode size n ++ rest) = .ok (n, rest) := by
  rw [readUIntBE, readBuffer_append (BigEndian.length_encode size n)]
  exact congrArg (fun m => Except.ok (m, rest)) (BigEndian.decode_encode hn)

lemma readUIntBE_of_writeUIntBE {n : ℕ} {size : ℕ} (h : writeUIntBE n size = .ok bytes) (rest : Bytes) :
    readUIntBE size (bytes ++ rest) = .ok (n, rest) := by
  obtain ⟨m, hm, hlt, rfl⟩ := writeUIntBE_eq_ok.mp h
  obtain rfl : n = m := by exact_mod_cast hm
  exact readUIntBE_append hlt rest

lemma checkLength_eq_ok {required having : ℕ} {name : String} {u : Unit} :
    checkLength required having name = .ok u ↔ required = having := by
  rw [checkLength]
  split_ifs with h <;> simp [h]

/-- **A length** that has been written is read back. -/
lemma LengthSpec.decode_encode {length : LengthSpec} {encoding decoding : Context} {having : ℕ}
    {checkFixed : ℕ → Except BinaryError Unit} (hfixed : ∀ n u, checkFixed n = .ok u → n = having)
    (hagrees : length.Agrees encoding decoding)
    (h : length.encode encoding having checkFixed = .ok pre) (message : String) (rest : Bytes) :
    length.decode decoding message (pre ++ rest) = .ok (having, rest) := by
  cases length with
  | fixed n =>
    obtain ⟨u, hu, rfl⟩ := Except.map_eq_ok.mp h
    rw [LengthSpec.decode, hfixed n u hu]
    rfl
  | number size => exact readUIntBE_of_writeUIntBE h rest
  | callback f =>
    rw [LengthSpec.encode] at h
    rw [LengthSpec.decode, show f decoding = f encoding from hagrees]
    cases hf : f encoding with
    | none =>
      rw [hf] at h
      cases h
    | some expected =>
      rw [hf] at h
      obtain ⟨u, hu, rfl⟩ := Except.map_eq_ok.mp h
      rw [checkLength_eq_ok.mp hu]
      rfl

/-- What the length of an array counts. -/
def LengthType.measure (lengthType : LengthType) (size count : ℕ) : ℕ :=
  match lengthType with
  | .bytes => size
  | .count => count

lemma LengthSpec.decode_encodeArray {length : LengthSpec} {lengthType : LengthType}
    {encoding decoding : Context} {expectedSize size count : ℕ}
    (hagrees : length.Agrees encoding decoding)
    (hexpected : length.expectedSize encoding count = .ok expectedSize)
    (h : length.encodeArray lengthType expectedSize size count = .ok pre) (message : String)
    (rest : Bytes) : length.decode decoding message (pre ++ rest) =
      .ok (lengthType.measure size count, rest) := by
  have hcheck (h : (match lengthType with
      | .bytes => (checkLength size expectedSize "Argument #1").map fun _ => ([] : Bytes)
      | .count => (checkLength expectedSize count "Argument #1").map fun _ => []) = .ok pre) :
      pre = [] ∧ expectedSize = lengthType.measure size count := by
    cases lengthType with
    | bytes =>
      obtain ⟨u, hu, rfl⟩ := Except.map_eq_ok.mp h
      exact ⟨rfl, (checkLength_eq_ok.mp hu).symm⟩
    | count =>
      obtain ⟨u, hu, rfl⟩ := Except.map_eq_ok.mp h
      exact ⟨rfl, checkLength_eq_ok.mp hu⟩
  cases length with
  | fixed n =>
    obtain rfl : n = expectedSize := Except.ok.inj hexpected
    obtain ⟨rfl, rfl⟩ := hcheck (by cases lengthType <;> exact h)
    rfl
  | number k =>
    cases lengthType <;> exact readUIntBE_of_writeUIntBE h rest
  | callback f =>
    obtain ⟨rfl, hmeasure⟩ := hcheck (by cases lengthType <;> exact h)
    rw [LengthSpec.expectedSize] at hexpected
    rw [LengthSpec.decode, show f decoding = f encoding from hagrees]
    cases hf : f encoding with
    | none =>
      rw [hf] at hexpected
      cases hexpected
    | some n =>
      rw [hf] at hexpected
      obtain rfl : n = expectedSize := Except.ok.inj hexpected
      rw [hmeasure]
      rfl

/-! ## Round trip -/

/-- The type reads back what it has written. -/
def ReadsBack (fuel : ℕ) (t : TypeOrSchema) : Prop :=
  ∀ (encoding decoding : Context) (value : Value) (bytes rest : Bytes),
    Admits t encoding decoding value → encodeCommon t encoding value = .ok bytes →
    bytes.length ≤ fuel → decodeCommon fuel t decoding (bytes ++ rest) = .ok (restrict t value, rest)

/-- A counted list of items is read back. -/
lemma decodeCount_encodeItems {type : TypeOrSchema} (ih : ReadsBack fuel type)
    {admits : Context → Context → Value → Prop}
    (hadmits : ∀ encoding decoding item, admits encoding decoding item →
      Admits type encoding decoding item) {encoding decoding : Context} {items : List Value}
    {body : Bytes} (h : AdmitsItems type admits encoding decoding items)
    (hbody : encodeItems type (encodeCommon type) encoding items = .ok body)
    (hfuel : body.length ≤ fuel) (rest : Bytes) :
    decodeCount type (decodeCommon fuel type) items.length decoding (body ++ rest) =
      .ok (items.map (restrict type), rest) := by
  induction items generalizing encoding decoding body with
  | nil =>
    obtain rfl : [] = body := Except.ok.inj hbody
    rfl
  | cons item items ih' =>
    obtain ⟨hitem, hitems⟩ := h
    obtain ⟨bytes, hbytes, hbody⟩ := Except.bind_eq_ok.mp hbody
    obtain ⟨tail, htail, hbody⟩ := Except.bind_eq_ok.mp hbody
    obtain rfl : bytes ++ tail = body := Except.ok.inj hbody
    rw [List.length_append] at hfuel
    have hfirst := ih _ _ item bytes (tail ++ rest) (hadmits _ _ _ hitem) hbytes (by omega)
    have hrest := ih' hitems htail (by omega)
    rw [List.length_cons, decodeCount, List.append_assoc, hfirst]
    change (decodeCount type (decodeCommon fuel type) items.length
      (type.after decoding (restrict type item)) (tail ++ rest) >>= _) = _
    rw [hrest]
    rfl

/-- **The loop over bytes** stops behind the last item: each item takes at least one byte. -/
lemma decodeBytes_encodeItems {type : TypeOrSchema} (ih : ReadsBack fuel type)
    {admits : Context → Context → Value → Prop}
    (hadmits : ∀ encoding decoding item, admits encoding decoding item →
      Admits type encoding decoding item ∧ encodeCommon type encoding item ≠ .ok [])
    {encoding decoding : Context} {items : List Value} {body : Bytes}
    (h : AdmitsItems type admits encoding decoding items)
    (hbody : encodeItems type (encodeCommon type) encoding items = .ok body)
    (hfuel : body.length ≤ fuel) {fuel' : ℕ} (hfuel' : body.length ≤ fuel') (rest : Bytes) :
    decodeBytes type (decodeCommon fuel type) fuel' decoding body.length (body ++ rest) =
      .ok (items.map (restrict type), rest) := by
  induction items generalizing encoding decoding body fuel' with
  | nil =>
    obtain rfl : [] = body := Except.ok.inj hbody
    cases fuel' <;> rfl
  | cons item items ih' =>
    obtain ⟨hitem, hitems⟩ := h
    obtain ⟨bytes, hbytes, hbody⟩ := Except.bind_eq_ok.mp hbody
    obtain ⟨tail, htail, hbody⟩ := Except.bind_eq_ok.mp hbody
    obtain rfl : bytes ++ tail = body := Except.ok.inj hbody
    obtain ⟨hitem, hnonempty⟩ := hadmits _ _ _ hitem
    have hpos : 0 < bytes.length := by
      apply List.length_pos_iff.mpr
      rintro rfl
      exact hnonempty hbytes
    rw [List.length_append] at hfuel hfuel' ⊢
    obtain ⟨fuel', rfl⟩ : ∃ f, fuel' = f + 1 := ⟨fuel' - 1, by omega⟩
    obtain ⟨size, hsize⟩ : ∃ n, bytes.length + tail.length = n + 1 :=
      ⟨bytes.length + tail.length - 1, by omega⟩
    have hfirst := ih _ _ item bytes (tail ++ rest) hitem hbytes (by omega)
    have hrest := ih' hitems htail (by omega) (by omega : tail.length ≤ fuel')
    have hused : (bytes ++ (tail ++ rest)).length - (tail ++ rest).length = bytes.length := by
      rw [List.length_append, Nat.add_sub_cancel_right]
    have hleft : size + 1 - bytes.length = tail.length := by omega
    have hfits : ¬ size + 1 < bytes.length := by omega
    rw [hsize, decodeBytes, List.append_assoc, hfirst, Except.ok_bind]
    dsimp only
    rw [hused, if_neg hfits, hleft, hrest]
    rfl

/-- The fields of an object are read back, provided that each of them is. -/
lemma decodeFields_encodeFields {fields : List (String × TypeOrSchema)}
    (ih : ∀ field ∈ fields, ReadsBack fuel field.2) {encoding : Context} {root : Option Value}
    {node : List (String × Value)} {obj : Value} {body : Bytes}
    (h : AdmitsFields fields encoding root node obj)
    (hbody : encodeFields fields encoding obj = .ok body) (hfuel : body.length ≤ fuel)
    (rest : Bytes) : decodeFields fuel fields root node (body ++ rest) =
      .ok (node ++ restrictFields fields obj, rest) := by
  induction fields generalizing node body with
  | nil =>
    obtain rfl : [] = body := Except.ok.inj hbody
    rw [decodeFields, restrictFields, List.append_nil]
    rfl
  | cons field fields ih' =>
    obtain ⟨key, type⟩ := field
    obtain ⟨hfield, hfields⟩ := h
    obtain ⟨bytes, hbytes, hbody⟩ := Except.bind_eq_ok.mp hbody
    obtain ⟨tail, htail, hbody⟩ := Except.bind_eq_ok.mp hbody
    obtain rfl : bytes ++ tail = body := Except.ok.inj hbody
    rw [List.length_append] at hfuel
    have hfirst := ih _ List.mem_cons_self _ _ _ bytes (tail ++ rest) hfield hbytes (by omega)
    have hrest := ih' (fun f hf => ih f (List.mem_cons_of_mem _ hf)) hfields htail (by omega)
    rw [decodeFields, List.append_assoc, hfirst, Except.ok_bind]
    dsimp only
    rw [hrest, restrictFields, List.append_assoc]
    rfl

/-- **Round trip.**  Whatever the contexts are, a value that can be read back is read back, and what
follows is left. -/
theorem decodeCommon_encodeCommon (fuel : ℕ) (t : TypeOrSchema) : ReadsBack fuel t := by
  induction t using TypeOrSchema.induct with
  | uintBE size =>
    intro encoding decoding value bytes rest hadmits hbytes hfuel
    cases value with
    | number n =>
      obtain ⟨m, rfl, hlt, rfl⟩ := writeUIntBE_eq_ok.mp hbytes
      rw [decodeCommon, readUIntBE_append hlt, Except.ok_bind]
      rfl
    | _ => cases hbytes
  | buffer length =>
    intro encoding decoding value bytes rest hadmits hbytes hfuel
    cases value with
    | buffer buf =>
      obtain ⟨pre, hpre, hbytes⟩ := Except.bind_eq_ok.mp hbytes
      obtain rfl : pre ++ buf = bytes := Except.ok.inj hbytes
      have hlength := LengthSpec.decode_encode (fun n u h => checkLength_eq_ok.mp h) hadmits hpre
        "Length of a buffer should be a number." (buf ++ rest)
      rw [decodeCommon, List.append_assoc, hlength, Except.ok_bind]
      dsimp only
      rw [readBuffer_append rfl, Except.ok_bind]
      rfl
    | _ => cases hbytes
  | string length enc =>
    intro encoding decoding value bytes rest hadmits hbytes hfuel
    cases value with
    | string text =>
      obtain ⟨hagrees, htext⟩ := hadmits
      obtain ⟨pre, hpre, hbytes⟩ := Except.bind_eq_ok.mp hbytes
      obtain rfl : pre ++ enc.encode text = bytes := Except.ok.inj hbytes
      have hlength := LengthSpec.decode_encode (fun n u h => by
        split_ifs at h with hne
        exact (not_not.mp hne).symm) hagrees hpre
        "Length of a buffer should be a number." (enc.encode text ++ rest)
      rw [decodeCommon, List.append_assoc, hlength, Except.ok_bind]
      dsimp only
      rw [readBuffer_append rfl, Except.ok_bind]
      dsimp only
      rw [htext]
      rfl
    | _ => cases hbytes
  | array type length lengthType ih =>
    intro encoding decoding value bytes rest hadmits hbytes hfuel
    cases value with
    | array items =>
      obtain ⟨hagrees, hitems⟩ := hadmits
      obtain ⟨expectedSize, hexpected, hbytes⟩ := Except.bind_eq_ok.mp hbytes
      obtain ⟨body, hbody, hbytes⟩ := Except.bind_eq_ok.mp hbytes
      obtain ⟨pre, hpre, hbytes⟩ := Except.bind_eq_ok.mp hbytes
      obtain rfl : pre ++ body = bytes := Except.ok.inj hbytes
      rw [List.length_append] at hfuel
      have hlength := LengthSpec.decode_encodeArray hagrees hexpected hpre
        "Length of an array should be a number." (body ++ rest)
      rw [decodeCommon, List.append_assoc, hlength, Except.ok_bind]
      cases lengthType with
      | bytes =>
        have hread := decodeBytes_encodeItems ih (fun _ _ _ h => ⟨h.1, h.2 rfl⟩) hitems hbody
          (by omega) (by omega : body.length ≤ fuel) rest
        dsimp only [LengthType.measure]
        rw [hread, Except.ok_bind]
        rfl
      | count =>
        have hread := decodeCount_encodeItems ih (fun _ _ _ h => h.1) hitems hbody (by omega) rest
        dsimp only [LengthType.measure]
        rw [hread, Except.ok_bind]
        rfl
    | _ => cases hbytes
  | schema fields ih =>
    intro encoding decoding value bytes rest hadmits hbytes hfuel
    have hread := decodeFields_encodeFields ih hadmits hbytes hfuel rest
    rw [decodeCommon, hread, Except.ok_bind]
    rfl

/-! ## Schemas whose values can all be read back -/

/-- The number of bytes that a length gives at least. -/
def LengthSpec.minSize (length : LengthSpec) : ℕ :=
  match length with
  | .fixed n => n
  | .number size => size
  | .callback _ => 0

mutual

/-- The number of bytes that a value takes at least. -/
def TypeOrSchema.minSize : TypeOrSchema → ℕ
  | .uintBE size => size
  | .buffer length => length.minSize
  | .array _ (.number size) _ => size
  | .array _ _ _ => 0
  | .string length _ => length.minSize
  | .schema fields => minSizeFields fields

/-- The number of bytes that the fields take at least. -/
def TypeOrSchema.minSizeFields : List (String × TypeOrSchema) → ℕ
  | [] => 0
  | (_, type) :: fields => type.minSize + minSizeFields fields

end

/-- The length does not depend on the context. -/
def LengthSpec.isStatic (length : LengthSpec) : Bool :=
  match length with
  | .callback _ => false
  | _ => true

mutual

/-- No strings, no callbacks, and items of a list that is counted in bytes are never empty. -/
def TypeOrSchema.isRegular : TypeOrSchema → Bool
  | .uintBE _ => true
  | .buffer length => length.isStatic
  | .array type length lengthType =>
    type.isRegular && length.isStatic && (lengthType == .count || decide (0 < type.minSize))
  | .string _ _ => false
  | .schema fields => areRegular fields

/-- All fields are regular. -/
def TypeOrSchema.areRegular : List (String × TypeOrSchema) → Bool
  | [] => true
  | (_, type) :: fields => type.isRegular && areRegular fields

end

lemma LengthSpec.minSize_le {length : LengthSpec} {context : Context} {having : ℕ}
    {checkFixed : ℕ → Except BinaryError Unit} (hfixed : ∀ n u, checkFixed n = .ok u → n = having)
    (h : length.encode context having checkFixed = .ok pre) : length.minSize ≤ pre.length + having := by
  cases length with
  | fixed n =>
    obtain ⟨u, hu, rfl⟩ := Except.map_eq_ok.mp h
    rw [LengthSpec.minSize, hfixed n u hu]
    exact Nat.le_add_left _ _
  | number size =>
    obtain ⟨m, -, -, rfl⟩ := writeUIntBE_eq_ok.mp h
    rw [LengthSpec.minSize, BigEndian.length_encode]
    exact Nat.le_add_right _ _
  | callback f => exact Nat.zero_le _

/-- **What is written** has at least this size. -/
theorem TypeOrSchema.minSize_le {t : TypeOrSchema} {context : Context} {value : Value}
    (h : encodeCommon t context value = .ok bytes) : t.minSize ≤ bytes.length := by
  induction t using TypeOrSchema.induct generalizing context value bytes with
  | uintBE size =>
    cases value with
    | number n =>
      obtain ⟨m, -, -, rfl⟩ := writeUIntBE_eq_ok.mp h
      rw [TypeOrSchema.minSize, BigEndian.length_encode]
    | _ => cases h
  | buffer length =>
    cases value with
    | buffer buf =>
      obtain ⟨pre, hpre, h⟩ := Except.bind_eq_ok.mp h
      obtain rfl : pre ++ buf = bytes := Except.ok.inj h
      rw [TypeOrSchema.minSize, List.length_append]
      exact LengthSpec.minSize_le (fun n u h => checkLength_eq_ok.mp h) hpre
    | _ => cases h
  | string length enc =>
    cases value with
    | string text =>
      obtain ⟨pre, hpre, h⟩ := Except.bind_eq_ok.mp h
      obtain rfl : pre ++ enc.encode text = bytes := Except.ok.inj h
      rw [TypeOrSchema.minSize, List.length_append]
      refine LengthSpec.minSize_le (fun n u h => ?_) hpre
      split_ifs at h with hne
      exact (not_not.mp hne).symm
    | _ => cases h
  | array type length lengthType ih =>
    cases value with
    | array items =>
      obtain ⟨expectedSize, -, h⟩ := Except.bind_eq_ok.mp h
      obtain ⟨body, -, h⟩ := Except.bind_eq_ok.mp h
      obtain ⟨pre, hpre, h⟩ := Except.bind_eq_ok.mp h
      obtain rfl : pre ++ body = bytes := Except.ok.inj h
      cases length with
      | number k =>
        have hlength : pre.length = k := by
          cases lengthType <;>
          · obtain ⟨m, -, -, rfl⟩ := writeUIntBE_eq_ok.mp hpre
            exact BigEndian.length_encode k m
        rw [TypeOrSchema.minSize, List.length_append, hlength]
        exact Nat.le_add_right _ _
      | _ => exact Nat.zero_le _
    | _ => cases h
  | schema fields ih =>
    rw [TypeOrSchema.minSize]
    rw [encodeCommon] at h
    generalize ({ node := some (context.node.getD value), current := some value } : Context) =
      context at h
    induction fields generalizing bytes with
    | nil => exact Nat.zero_le _
    | cons field fields ih' =>
      obtain ⟨key, type⟩ := field
      obtain ⟨first, hfirst, h⟩ := Except.bind_eq_ok.mp h
      obtain ⟨rest, hrest, h⟩ := Except.bind_eq_ok.mp h
      obtain rfl : first ++ rest = bytes := Except.ok.inj h
      have hsize := ih _ List.mem_cons_self hfirst
      have hsizes := ih' (fun f hf => ih f (List.mem_cons_of_mem _ hf)) hrest
      rw [TypeOrSchema.minSizeFields, List.length_append]
      exact Nat.add_le_add hsize hsizes

/-- Items that can be read back in any contexts. -/
lemma admitsItems_of_forall {type : TypeOrSchema} {admits : Context → Context → Value → Prop}
    {items : List Value} (h : ∀ encoding decoding, ∀ item ∈ items, admits encoding decoding item)
    (encoding decoding : Context) : AdmitsItems type admits encoding decoding items := by
  induction items generalizing encoding decoding with
  | nil => trivial
  | cons item items ih =>
    exact ⟨h _ _ item List.mem_cons_self,
      ih (fun e d i hi => h e d i (List.mem_cons_of_mem _ hi)) _ _⟩

lemma LengthSpec.agrees_of_isStatic {length : LengthSpec} (h : length.isStatic = true)
    (encoding decoding : Context) : length.Agrees encoding decoding := by
  cases length with
  | callback f => cases h
  | _ => trivial

/-- **Every value of a regular schema** can be read back. -/
theorem admits_of_isRegular {t : TypeOrSchema} (h : t.isRegular = true) (encoding decoding : Context)
    (value : Value) : Admits t encoding decoding value := by
  induction t using TypeOrSchema.induct generalizing encoding decoding value with
  | uintBE size => cases value <;> trivial
  | buffer length => exact LengthSpec.agrees_of_isStatic h encoding decoding
  | string length enc => cases h
  | array type length lengthType ih =>
    rw [TypeOrSchema.isRegular, Bool.and_eq_true, Bool.and_eq_true, Bool.or_eq_true, beq_iff_eq,
      decide_eq_true_eq] at h
    obtain ⟨⟨htype, hlength⟩, hsize⟩ := h
    cases value with
    | array items =>
      refine ⟨LengthSpec.agrees_of_isStatic hlength _ _, admitsItems_of_forall ?_ _ _⟩
      intro encoding decoding item _
      refine ⟨ih htype encoding decoding item, fun hbytes hempty => ?_⟩
      have hmin := TypeOrSchema.minSize_le hempty
      obtain hcount | hpos := hsize
      · rw [hbytes] at hcount
        cases hcount
      · rw [List.length_nil] at hmin
        omega
    | _ => trivial
  | schema fields ih =>
    rw [TypeOrSchema.isRegular] at h
    rw [Admits]
    generalize ({ node := some (encoding.node.getD value), current := some value } : Context) = encoding
    generalize ([] : List (String × Value)) = node
    induction fields generalizing node with
    | nil => trivial
    | cons field fields ih' =>
      obtain ⟨key, type⟩ := field
      rw [TypeOrSchema.areRegular, Bool.and_eq_true] at h
      exact ⟨ih _ List.mem_cons_self h.1 _ _ _,
        ih' (fun f hf => ih f (List.mem_cons_of_mem _ hf)) h.2 _⟩

/-- The fields of two lists are written one behind the other. -/
lemma encodeFields_append (fields fields' : List (String × TypeOrSchema)) (context : Context)
    (obj : Value) : encodeFields (fields ++ fields') context obj = (do
      let bytes ← encodeFields fields context obj
      let rest ← encodeFields fields' context obj
      return bytes ++ rest) := by
  induction fields with
  | nil =>
    rw [List.nil_append, encodeFields, Except.ok_bind]
    cases encodeFields fields' context obj <;> rfl
  | cons field fields ih =>
    rw [List.cons_append, encodeFields, encodeFields, ih]
    simp only [bind_assoc, pure_bind, List.append_assoc]

/-- What is written in front of static lengths does not depend on the context. -/
lemma LengthSpec.encode_of_isStatic {length : LengthSpec} (h : length.isStatic = true)
    (context context' : Context) :
    length.encode context = length.encode context' ∧
      length.expectedSize context = length.expectedSize context' := by
  cases length with
  | callback f => cases h
  | _ => exact ⟨rfl, rfl⟩

/-- **What is written for a regular type** depends on the value only. -/
theorem encodeCommon_of_isRegular {t : TypeOrSchema} (h : t.isRegular = true)
    (context context' : Context) (value : Value) :
    encodeCommon t context value = encodeCommon t context' value := by
  induction t using TypeOrSchema.induct generalizing context context' value with
  | uintBE size => cases value <;> rfl
  | buffer length =>
    cases value with
    | buffer buf =>
      rw [encodeCommon, encodeCommon, (LengthSpec.encode_of_isStatic h context context').1]
    | _ => rfl
  | string length enc => cases h
  | array type length lengthType ih =>
    rw [TypeOrSchema.isRegular, Bool.and_eq_true, Bool.and_eq_true] at h
    obtain ⟨⟨htype, hlength⟩, -⟩ := h
    cases value with
    | array items =>
      have hitems (context context' : Context) : encodeItems type (encodeCommon type) context items =
          encodeItems type (encodeCommon type) context' items := by
        induction items generalizing context context' with
        | nil => rfl
        | cons item items ih' =>
          rw [encodeItems, encodeItems, ih htype context context' item,
            ih' (type.after context item) (type.after context' item)]
      rw [encodeCommon, encodeCommon, hitems context context',
        (LengthSpec.encode_of_isStatic hlength context context').2]
    | _ => rfl
  | schema fields ih =>
    rw [TypeOrSchema.isRegular] at h
    rw [encodeCommon, encodeCommon]
    generalize ({ node := some (context.node.getD value), current := some value } : Context) = context
    generalize ({ node := some (context'.node.getD value), current := some value } : Context) = context'
    induction fields with
    | nil => rfl
    | cons field fields ih' =>
      obtain ⟨key, type⟩ := field
      rw [TypeOrSchema.areRegular, Bool.and_eq_true] at h
      have hfields := ih' (fun f hf => ih f (List.mem_cons_of_mem _ hf)) h.2
      rw [encodeFields, encodeFields, hfields, ih _ List.mem_cons_self h.1 context context']

/-- Regular fields are written alike for objects that agree on them. -/
lemma encodeFields_of_areRegular {fields : List (String × TypeOrSchema)}
    (h : TypeOrSchema.areRegular fields = true) {context context' : Context} {obj obj' : Value}
    (hget : ∀ field ∈ fields, obj.get field.1 = obj'.get field.1) :
    encodeFields fields context obj = encodeFields fields context' obj' := by
  induction fields with
  | nil => rfl
  | cons field fields ih =>
    obtain ⟨key, type⟩ := field
    rw [TypeOrSchema.areRegular, Bool.and_eq_true] at h
    rw [encodeFields, encodeFields, hget _ List.mem_cons_self,
      encodeCommon_of_isRegular h.1 context context', ih h.2 fun f hf => hget f (List.mem_cons_of_mem _ hf)]

/-! ## Prefixes -/

/-- `NotEnoughDataError`. -/
def Short (e : BinaryError) : Prop := ∃ expected received, e = .notEnoughData expected received

lemma stable_readBuffer (size : ℕ) : Stable Short (readBuffer size) := by
  intro bytes post
  rw [readBuffer]
  split_ifs with hshort
  · exact .short ⟨_, _, rfl⟩
  · have hlong : ¬ size > (bytes ++ post).length := by
      rw [List.length_append]
      omega
    rw [readBuffer, if_neg hlong, List.take_append_of_le_length (by omega),
      List.drop_append_of_le_length (by omega)]
    exact .ok _ _

lemma stable_readUIntBE (size : ℕ) : Stable Short (readUIntBE size) := fun bytes post =>
  (stable_readBuffer size bytes post).bind fun _ rest => .ok _ rest

lemma stable_lengthSpec (length : LengthSpec) (context : Context) (message : String) :
    Stable Short (length.decode context message) := by
  intro bytes post
  cases length with
  | fixed n => exact .ok n bytes
  | number size => exact stable_readUIntBE size bytes post
  | callback f =>
    rw [LengthSpec.decode, LengthSpec.decode]
    cases f context with
    | none => exact .error _
    | some n => exact .ok n bytes

lemma stable_decodeCount {type : TypeOrSchema}
    {decode : Context → Bytes → Except BinaryError (Value × Bytes)}
    (h : ∀ context, Stable Short (decode context)) (n : ℕ) (context : Context) :
    Stable Short (decodeCount type decode n context) := by
  induction n generalizing context with
  | zero => exact fun bytes post => .ok [] bytes
  | succ n ih =>
    intro bytes post
    rw [decodeCount, decodeCount]
    refine (h context bytes post).bind fun item rest => ?_
    exact (ih _ rest post).bind fun items rest => .ok _ rest

lemma stable_decodeBytes {type : TypeOrSchema}
    {decode : Context → Bytes → Except BinaryError (Value × Bytes)}
    (h : ∀ context, Stable Short (decode context)) (fuel : ℕ) (context : Context) (size : ℕ) :
    Stable Short (decodeBytes type decode fuel context size) := by
  induction fuel generalizing context size with
  | zero =>
    cases size with
    | zero => exact fun bytes post => .ok [] bytes
    | succ size => exact fun bytes post => .error _
  | succ fuel ih =>
    cases size with
    | zero => exact fun bytes post => .ok [] bytes
    | succ size =>
      intro bytes post
      rw [decodeBytes, decodeBytes]
      refine (h context bytes post).bind fun item rest => ?_
      have hused : (bytes ++ post).length - (rest ++ post).length = bytes.length - rest.length := by
        rw [List.length_append, List.length_append, Nat.add_sub_add_right]
      dsimp only
      rw [hused]
      split_ifs with hlong
      · exact .error _
      · exact (ih _ _ rest post).bind fun items rest => .ok _ rest

lemma stable_decodeFields {fuel : ℕ} {fields : List (String × TypeOrSchema)}
    (ih : ∀ field ∈ fields, ∀ context, Stable Short (decodeCommon fuel field.2 context))
    (root : Option Value) (node : List (String × Value)) :
    Stable Short (decodeFields fuel fields root node) := by
  induction fields generalizing node with
  | nil =>
    intro bytes post
    rw [decodeFields, decodeFields]
    exact .ok node bytes
  | cons field fields ih' =>
    intro bytes post
    obtain ⟨key, type⟩ := field
    rw [decodeFields, decodeFields]
    refine (ih _ List.mem_cons_self _ bytes post).bind fun value rest => ?_
    exact ih' (fun f hf => ih f (List.mem_cons_of_mem _ hf)) _ rest post

/-- **Bytes behind a value** do not change how it is read. -/
theorem stable_decodeCommon (fuel : ℕ) (t : TypeOrSchema) (context : Context) :
    Stable Short (decodeCommon fuel t context) := by
  induction t using TypeOrSchema.induct generalizing context with
  | uintBE size =>
    intro bytes post
    rw [decodeCommon, decodeCommon]
    exact (stable_readUIntBE size bytes post).bind fun n rest => .ok _ rest
  | buffer length =>
    intro bytes post
    rw [decodeCommon, decodeCommon]
    refine (stable_lengthSpec length _ _ bytes post).bind fun size rest => ?_
    exact (stable_readBuffer size rest post).bind fun buf rest => .ok _ rest
  | string length enc =>
    intro bytes post
    rw [decodeCommon, decodeCommon]
    refine (stable_lengthSpec length _ _ bytes post).bind fun size rest => ?_
    exact (stable_readBuffer size rest post).bind fun buf rest => .ok _ rest
  | array type length lengthType ih =>
    intro bytes post
    rw [decodeCommon, decodeCommon]
    refine (stable_lengthSpec length _ _ bytes post).bind fun size rest => ?_
    cases lengthType with
    | bytes => exact (stable_decodeBytes ih fuel _ size rest post).bind fun items rest => .ok _ rest
    | count => exact (stable_decodeCount ih size _ rest post).bind fun items rest => .ok _ rest
  | schema fields ih =>
    intro bytes post
    rw [decodeCommon, decodeCommon]
    exact (stable_decodeFields ih _ _ bytes post).bind fun node rest => .ok _ rest

/-- **What `encode` has written** is read back, and `decode` throws on a proper prefix of it. -/
theorem decode_encode {s : TypeOrSchema} {value : Value} (hadmits : Admits s {} {} value)
    (hbytes : encode value s = .ok bytes) (hfuel : bytes.length ≤ fuel) :
    (∀ rest, decode fuel (bytes ++ rest) s = .ok (restrict s value, rest)) ∧
      ∀ pre post, bytes = pre ++ post → post ≠ [] →
        ∃ expected received, decode fuel pre s = .error (.notEnoughData expected received) := by
  have hread (rest : Bytes) : decode fuel (bytes ++ rest) s = .ok (restrict s value, rest) :=
    decodeCommon_encodeCommon fuel s {} {} value bytes rest hadmits hbytes hfuel
  refine ⟨hread, fun pre post heq hpost => ?_⟩
  have hfull := hread []
  rw [List.append_nil, heq] at hfull
  obtain ⟨e, ⟨expected, received, rfl⟩, hpre⟩ :=
    (stable_decodeCommon fuel s {}).short_of_split hfull hpost
  exact ⟨expected, received, hpre⟩

end Werift.BinaryData
