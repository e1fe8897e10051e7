import Werift.Stun.Message
import Werift.Lib.MapM

/-!
# Written messages

The bytes of a message are a header and the parts of its attributes, one after the other
(`Message.bytes_eq_some`), and `parseMessage` takes such a datagram apart again: its loop is
`parseFields`, which goes through the attributes and keeps the bytes before them.
-/

namespace Werift.Stun

/-! ## Parts -/

/-- Whether the type and the length of an attribute fit into their fields. -/
def Fits (field : ℕ × Bytes) : Prop := field.1 < 256 ^ 2 ∧ field.2.length < 256 ^ 2

/-- The bytes of an attribute that fits. -/
def partOf (field : ℕ × Bytes) : Bytes :=
  BigEndian.encode 2 field.1 ++ BigEndian.encode 2 field.2.length ++ field.2 ++
    List.replicate (paddingLength field.2.length) 0

/-- The bytes of several attributes. -/
def partsOf (fields : List (ℕ × Bytes)) : Bytes := fields.flatMap partOf

lemma writeUIntBE_natCast {k n : ℕ} {field : Bytes} :
    Js.writeUIntBE k n = some field ↔ n < 256 ^ k ∧ BigEndian.encode k n = field := by
  rw [Js.writeUIntBE_eq_some, Int.toNat_natCast]
  refine and_congr_left fun _ => ⟨fun h => by exact_mod_cast h.2, fun h => ⟨by simp, ?_⟩⟩
  exact_mod_cast h

lemma writeUInt16BE_eq_some {n : ℕ} {field : Bytes} :
    Js.writeUInt16BE n = some field ↔ n < 256 ^ 2 ∧ BigEndian.encode 2 n = field :=
  writeUIntBE_natCast

lemma serializeAttribute_eq_some {type : ℕ} {value part : Bytes} :
    serializeAttribute type value = some part ↔ Fits (type, value) ∧ partOf (type, value) = part := by
  simp only [serializeAttribute, Option.bind_eq_bind, Option.bind_eq_some_iff,
    writeUInt16BE_eq_some, Option.pure_def, Option.some.injEq, Fits, partOf]
  constructor
  · rintro ⟨_, ⟨htype, rfl⟩, _, ⟨hlen, rfl⟩, rfl⟩
    exact ⟨⟨htype, hlen⟩, rfl⟩
  · rintro ⟨⟨htype, hlen⟩, rfl⟩
    exact ⟨_, ⟨htype, rfl⟩, _, ⟨hlen, rfl⟩, rfl⟩

lemma mapM_serializeAttribute_eq_some {fields : List (ℕ × Bytes)} {parts : List Bytes} :
    fields.mapM (fun field => serializeAttribute field.1 field.2) = some parts ↔
      (∀ field ∈ fields, Fits field) ∧ fields.map partOf = parts := by
  induction fields generalizing parts with
  | nil => simp [eq_comm]
  | cons field fields ih =>
    simp only [OptionList.mapM_cons_eq_some, serializeAttribute_eq_some, ih, List.forall_mem_cons,
      List.map_cons]
    constructor
    · rintro ⟨_, _, ⟨hfield, rfl⟩, ⟨hfields, rfl⟩, rfl⟩
      exact ⟨⟨hfield, hfields⟩, rfl⟩
    · rintro ⟨⟨hfield, hfields⟩, rfl⟩
      exact ⟨_, _, ⟨hfield, rfl⟩, ⟨hfields, rfl⟩, rfl⟩

@[simp] lemma partsOf_nil : partsOf [] = [] := rfl

@[simp] lemma partsOf_cons (field : ℕ × Bytes) (fields : List (ℕ × Bytes)) :
    partsOf (field :: fields) = partOf field ++ partsOf fields := rfl

@[simp] lemma partsOf_append (fields fields' : List (ℕ × Bytes)) :
    partsOf (fields ++ fields') = partsOf fields ++ partsOf fields' := List.flatMap_append

lemma length_partOf (field : ℕ × Bytes) :
    (partOf field).length = 4 + field.2.length + paddingLength field.2.length := by
  simp only [partOf, List.length_append, BigEndian.length_encode, List.length_replicate]

lemma length_le_length_partsOf (fields : List (ℕ × Bytes)) :
    fields.length ≤ (partsOf fields).length := by
  induction fields with
  | nil => simp
  | cons field fields ih =>
    rw [partsOf_cons, List.length_append, length_partOf, List.length_cons]
    omega

lemma four_dvd_length_partsOf (fields : List (ℕ × Bytes)) : 4 ∣ (partsOf fields).length := by
  induction fields with
  | nil => simp
  | cons field fields ih =>
    have hpad : 4 ∣ field.2.length + paddingLength field.2.length := by
      unfold paddingLength
      split_ifs <;> omega
    rw [partsOf_cons, List.length_append, length_partOf]
    omega

/-! ## Messages -/

/-- The type and the packed value of an attribute. -/
def packPair (transactionId : Bytes) (pair : AttributePair) : Option (ℕ × Bytes) := do
  let entry ← ATTRIBUTES_BY_NAME pair.1
  return (entry.type, ← entry.codec.pack transactionId pair.2)

/-- The header of a message whose type and length fit. -/
def headerOf (m : Message) (length : ℕ) : Bytes :=
  BigEndian.encode 2 (m.messageMethod ||| m.messageClass) ++ BigEndian.encode 2 length ++
    (BigEndian.encode 4 COOKIE ++ m.transactionId)

lemma header_eq_some {m : Message} {length : ℕ} {head : Bytes} :
    m.header length = some head ↔ (m.messageMethod ||| m.messageClass) < 256 ^ 2 ∧
      length < 256 ^ 2 ∧ headerOf m length = head := by
  have hcookie : Js.writeUInt32BE COOKIE = some (BigEndian.encode 4 COOKIE) := rfl
  simp only [Message.header, Option.bind_eq_bind, Option.bind_eq_some_iff, writeUInt16BE_eq_some,
    hcookie, Option.some.injEq, Option.pure_def, headerOf]
  constructor
  · rintro ⟨_, ⟨htype, rfl⟩, _, ⟨hlen, rfl⟩, _, rfl, rfl⟩
    exact ⟨htype, hlen, by simp⟩
  · rintro ⟨htype, hlen, rfl⟩
    exact ⟨_, ⟨htype, rfl⟩, _, ⟨hlen, rfl⟩, _, rfl, by simp⟩

/-- The raw attributes as fields. -/
def rawFields (m : Message) : List (ℕ × Bytes) := m.rawAttributes.map fun raw => (raw.type, raw.value)

/-- The value of an attribute that stands in a list without repetitions. -/
lemma getAttributeValue_of_mem {l : List AttributePair} (hl : (l.map Prod.fst).Nodup)
    {pair : AttributePair} (hpair : pair ∈ l) : getAttributeValue l pair.1 = some pair.2 := by
  induction l with
  | nil => simp at hpair
  | cons first l ih =>
    rw [List.map_cons, List.nodup_cons] at hl
    rcases List.mem_cons.mp hpair with rfl | hmem
    · simp [getAttributeValue]
    · have hne : first.1 ≠ pair.1 := fun heq => hl.1 (heq ▸ List.mem_map_of_mem hmem)
      simpa [getAttributeValue, hne] using ih hl.2 hmem

/-- **Layout.**  What the bytes of a message are. -/
theorem bytes_eq_some {m : Message} (hm : (m.attributes.map Prod.fst).Nodup) {bytes : Bytes} :
    m.bytes = some bytes ↔ ∃ known, m.attributes.mapM (packPair m.transactionId) = some known ∧
      (∀ field ∈ known ++ rawFields m, Fits field) ∧
      (m.messageMethod ||| m.messageClass) < 256 ^ 2 ∧
      (partsOf (known ++ rawFields m)).length < 256 ^ 2 ∧
      headerOf m (partsOf (known ++ rawFields m)).length ++ partsOf (known ++ rawFields m) =
        bytes := by
  have hpack : m.attributes.mapM (fun pair => m.packAttribute pair.1) =
      m.attributes.mapM (packPair m.transactionId) := by
    refine OptionList.mapM_congr fun pair hpair => ?_
    rw [Message.packAttribute, Message.getAttributeValue, getAttributeValue_of_mem hm hpair]
    rfl
  simp only [Message.bytes, Message.serializedAttributes, hpack, Option.bind_eq_bind,
    Option.bind_eq_some_iff, Option.pure_def, Option.some.injEq, header_eq_some,
    mapM_serializeAttribute_eq_some]
  constructor
  · rintro ⟨_, ⟨known, hknown, rfl⟩, _, ⟨hfits, rfl⟩, _, ⟨htype, hlen, rfl⟩, rfl⟩
    exact ⟨known, hknown, hfits, htype, hlen, rfl⟩
  · rintro ⟨known, hknown, hfits, htype, hlen, rfl⟩
    exact ⟨_, ⟨known, hknown, rfl⟩, _, ⟨hfits, rfl⟩, _, ⟨htype, hlen, rfl⟩, rfl⟩

/-! ## Reading -/

section

variable (H : Hmac) (integrityKey : Option Bytes) (transactionId : Bytes)

/-- The loop of `parseMessage` over the parts of attributes behind the bytes `before`. -/
def parseFields : Bytes → List (ℕ × Bytes) → ParseState → Except Exit ParseState
  | _, [], st => .ok st
  | before, field :: rest, st => do
    let st ← parseAttribute H integrityKey transactionId before field.1 field.2 st
    parseFields (before ++ partOf field) rest st

variable {H integrityKey transactionId}

lemma parseFields_append {before : Bytes} {fields fields' : List (ℕ × Bytes)}
    {st : ParseState} :
    parseFields H integrityKey transactionId before (fields ++ fields') st =
      parseFields H integrityKey transactionId before fields st >>=
        parseFields H integrityKey transactionId (before ++ partsOf fields) fields' := by
  induction fields generalizing before st with
  | nil => simp [parseFields, bind, Except.bind]
  | cons field fields ih =>
    simp only [List.cons_append, parseFields, bind_assoc, partsOf_cons, ← List.append_assoc, ih]

/-- A field of two bytes is read where it stands. -/
lemma readUInt16BE_append {n : ℕ} (hn : n < 256 ^ 2) (pre post : Bytes) :
    Js.readUInt16BE (pre ++ BigEndian.encode 2 n ++ post) pre.length = some (n : ℤ) :=
  Js.readUIntBE_append (writeUInt16BE_eq_some.mpr ⟨hn, rfl⟩) pre post

/-- The loop takes a part as a whole. -/
lemma parseLoop_part {field : ℕ × Bytes} (hfits : Fits field) (before post : Bytes) (turns : ℕ)
    (st : ParseState) :
    parseLoop H (before ++ partOf field ++ post) integrityKey transactionId (turns + 1)
        before.length st =
      parseAttribute H integrityKey transactionId before field.1 field.2 st >>=
        parseLoop H (before ++ partOf field ++ post) integrityKey transactionId turns
          (before ++ partOf field).length := by
  obtain ⟨htypeFits, hlenFits⟩ := hfits
  have hlen := length_partOf field
  have htype : Js.readUInt16BE (before ++ partOf field ++ post) before.length =
      some (field.1 : ℤ) := by
    have := readUInt16BE_append htypeFits before (BigEndian.encode 2 field.2.length ++ field.2 ++
      List.replicate (paddingLength field.2.length) 0 ++ post)
    simpa [partOf] using this
  have hlength : Js.readUInt16BE (before ++ partOf field ++ post) (before.length + 2) =
      some (field.2.length : ℤ) := by
    have := readUInt16BE_append hlenFits (before ++ BigEndian.encode 2 field.1) (field.2 ++
      List.replicate (paddingLength field.2.length) 0 ++ post)
    simpa [partOf] using this
  have hvalue : Js.slice (before ++ partOf field ++ post) (before.length + 4)
      (before.length + 4 + field.2.length) = field.2 := by
    have := BigEndian.slice_append (before ++ BigEndian.encode 2 field.1 ++
      BigEndian.encode 2 field.2.length) field.2
      (List.replicate (paddingLength field.2.length) 0 ++ post)
    rw [Js.slice, Nat.add_sub_cancel_left]
    simpa [partOf] using this
  have hbefore : (before ++ partOf field ++ post).take before.length = before := by simp
  have hnext : before.length + 4 + field.2.length + paddingLength field.2.length =
      (before ++ partOf field).length := by
    rw [List.length_append, hlen]
    omega
  have htotal : (before ++ partOf field ++ post).length =
      before.length + (partOf field).length + post.length := by
    rw [List.length_append, List.length_append]
  rw [parseLoop, if_pos (by omega), if_neg (by omega), htype, hlength]
  simp only [orThrow, bind, Except.bind, Int.toNat_natCast, hvalue, hbefore, hnext]
  rw [if_neg (by rw [List.length_append]; omega)]

/-- **Parsing.**  The loop goes through the parts of a datagram. -/
lemma parseLoop_eq_parseFields {fields : List (ℕ × Bytes)} (hfits : ∀ field ∈ fields, Fits field)
    (before : Bytes) {turns : ℕ} (hturns : fields.length ≤ turns) (st : ParseState) :
    parseLoop H (before ++ partsOf fields) integrityKey transactionId turns before.length st =
      parseFields H integrityKey transactionId before fields st := by
  induction fields generalizing before turns st with
  | nil =>
    rw [partsOf_nil, List.append_nil, parseFields]
    cases turns with
    | zero => rfl
    | succ turns => rw [parseLoop, if_neg (lt_irrefl _)]
  | cons field fields ih =>
    rw [List.forall_mem_cons] at hfits
    obtain ⟨turns, rfl⟩ : ∃ t, turns = t + 1 := ⟨turns - 1, by simp at hturns; omega⟩
    rw [partsOf_cons, ← List.append_assoc, parseLoop_part hfits.1, parseFields]
    refine bind_congr fun st => ?_
    exact ih hfits.2 (before ++ partOf field) (by simpa using hturns) st

/-! ## Known attributes -/

/-- What is known of the field of an attribute. -/
lemma packPair_eq_some {pair : AttributePair} {field : ℕ × Bytes} :
    packPair transactionId pair = some field ↔ ∃ entry, ATTRIBUTES_BY_NAME pair.1 = some entry ∧
      entry.name = pair.1 ∧ ATTRIBUTES_BY_TYPE field.1 = some entry ∧ entry.type = field.1 ∧
      entry.codec.pack transactionId pair.2 = some field.2 := by
  obtain ⟨entry, hentry, hname, -, htype⟩ := exists_attribute pair.1
  simp only [packPair, hentry, Option.bind_eq_bind, Option.bind_eq_some_iff, Option.pure_def,
    Option.some.injEq]
  constructor
  · rintro ⟨_, rfl, value, hvalue, rfl⟩
    exact ⟨entry, rfl, hname, htype, rfl, hvalue⟩
  · rintro ⟨_, rfl, -, -, hfield, hvalue⟩
    exact ⟨entry, rfl, field.2, hvalue, by rw [hfield]⟩

/-! ## Whole messages -/

/-- A header that can be read back: the method and the class have no bits in common. -/
structure ValidHeader (m : Message) : Prop where
  messageMethod : m.messageMethod &&& 0x3eef = m.messageMethod
  messageClass : m.messageClass &&& 0x0110 = m.messageClass
  transactionId : m.transactionId.length = 12

variable {m : Message}

lemma ValidHeader.type_lt (hm : ValidHeader m) : m.messageMethod ||| m.messageClass < 2 ^ 14 := by
  refine Nat.or_lt_two_pow ?_ ?_
  · exact hm.messageMethod ▸ Nat.and_le_right.trans_lt (by decide)
  · exact hm.messageClass ▸ Nat.and_le_right.trans_lt (by decide)

lemma ValidHeader.method_of_type (hm : ValidHeader m) :
    (m.messageMethod ||| m.messageClass) &&& 0x3eef = m.messageMethod := by
  have hclass : m.messageClass &&& 0x3eef = 0 := by
    rw [← hm.messageClass, Nat.and_assoc]
    exact Nat.and_zero _
  rw [Nat.and_or_distrib_right, hm.messageMethod, hclass, Nat.or_zero]

lemma ValidHeader.class_of_type (hm : ValidHeader m) :
    (m.messageMethod ||| m.messageClass) &&& 0x0110 = m.messageClass := by
  have hmethod : m.messageMethod &&& 0x0110 = 0 := by
    rw [← hm.messageMethod, Nat.and_assoc]
    exact Nat.and_zero _
  rw [Nat.and_or_distrib_right, hm.messageClass, hmethod, Nat.zero_or]

lemma ValidHeader.length_headerOf (hm : ValidHeader m) (length : ℕ) :
    (headerOf m length).length = HEADER_LENGTH := by
  simp [headerOf, hm.transactionId, HEADER_LENGTH]

lemma ValidHeader.isStunMessage (hm : ValidHeader m) {body : Bytes} (hbody : body.length < 256 ^ 2)
    (h4 : 4 ∣ body.length) : isStunMessage (headerOf m body.length ++ body) = true := by
  have hbound : m.messageMethod ||| m.messageClass < 2 ^ 14 := hm.type_lt
  have hhead := hm.length_headerOf body.length
  have hfirst : (headerOf m body.length ++ body).getD 0 0 &&& 0xc0 = 0 := by
    have hbyte : ∀ n < 64, UInt8.ofNat (n % 256) &&& 0xc0 = 0 := by decide
    exact hbyte ((m.messageMethod ||| m.messageClass) / 256) (by omega)
  have hcookie : Js.readUInt32BE (headerOf m body.length ++ body) 4 = some (COOKIE : ℤ) := by
    have hwrite : Js.writeUIntBE 4 COOKIE = some (BigEndian.encode 4 COOKIE) := rfl
    have := Js.readUIntBE_append hwrite (BigEndian.encode 2 (m.messageMethod ||| m.messageClass) ++
      BigEndian.encode 2 body.length) (m.transactionId ++ body)
    simpa [headerOf, Js.readUInt32BE] using this
  have hlength : Js.readUInt16BE (headerOf m body.length ++ body) 2 = some (body.length : ℤ) := by
    have := readUInt16BE_append hbody (BigEndian.encode 2 (m.messageMethod ||| m.messageClass))
      (BigEndian.encode 4 COOKIE ++ m.transactionId ++ body)
    simpa [headerOf] using this
  have hmod : (body.length : ℤ) % 4 = 0 := by omega
  simp only [Stun.isStunMessage, hfirst, hcookie, hlength, List.length_append, hhead]
  simp [hmod]

/-- **Layout.**  A written message is read as its fields are. -/
theorem ValidHeader.parseMessage (hm : ValidHeader m) {fields : List (ℕ × Bytes)}
    (hfits : ∀ field ∈ fields, Fits field) (hlen : (partsOf fields).length < 256 ^ 2)
    {parsed : Message} :
    parseMessage H (headerOf m (partsOf fields).length ++ partsOf fields) integrityKey =
        .ok parsed ↔
      ∃ st, parseFields H integrityKey m.transactionId (headerOf m (partsOf fields).length) fields
          {} = .ok st ∧
        (integrityKey.isSome → st.messageIntegrityVerified = true) ∧
        parsed = { m with
          attributes := st.attributes
          rawAttributes := st.rawAttributes
          alternateServers := st.alternateServers } := by
  have hstun := hm.isStunMessage hlen (four_dvd_length_partsOf fields)
  have hhead := hm.length_headerOf (partsOf fields).length
  have htype : Js.readUInt16BE (headerOf m (partsOf fields).length ++ partsOf fields) 0 =
      some ((m.messageMethod ||| m.messageClass : ℕ) : ℤ) := by
    have := readUInt16BE_append (hm.type_lt.trans (by decide)) []
      (BigEndian.encode 2 (partsOf fields).length ++ (BigEndian.encode 4 COOKIE ++
        m.transactionId) ++ partsOf fields)
    simpa [headerOf] using this
  have htid : Js.slice (headerOf m (partsOf fields).length ++ partsOf fields) (HEADER_LENGTH - 12)
      HEADER_LENGTH = m.transactionId := by
    have := BigEndian.slice_append (BigEndian.encode 2 (m.messageMethod ||| m.messageClass) ++
      BigEndian.encode 2 (partsOf fields).length ++ BigEndian.encode 4 COOKIE) m.transactionId
      (partsOf fields)
    rw [hm.transactionId] at this
    simpa [headerOf, Js.slice, HEADER_LENGTH] using this
  have hcount : fields.length ≤ (headerOf m (partsOf fields).length ++ partsOf fields).length := by
    have := length_le_length_partsOf fields
    rw [List.length_append]
    omega
  have hloop : parseLoop H (headerOf m (partsOf fields).length ++ partsOf fields) integrityKey
      m.transactionId (headerOf m (partsOf fields).length ++ partsOf fields).length HEADER_LENGTH {} =
      parseFields H integrityKey m.transactionId (headerOf m (partsOf fields).length) fields {} := by
    rw [← parseLoop_eq_parseFields hfits (headerOf m (partsOf fields).length) hcount, hhead]
  rw [parseMessage_eq_ok, htype, htid, hloop]
  constructor
  · rintro ⟨-, messageType, st, htype', hst, hverified, rfl⟩
    obtain rfl := Option.some.inj htype'
    refine ⟨st, hst, hverified, ?_⟩
    rw [Int.toNat_natCast, hm.method_of_type, hm.class_of_type]
  · rintro ⟨st, hst, hverified, rfl⟩
    refine ⟨hstun, _, st, rfl, hst, hverified, ?_⟩
    rw [Int.toNat_natCast, hm.method_of_type, hm.class_of_type]

end

end Werift.Stun
