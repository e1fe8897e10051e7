import Werift.Common.Crc
import Werift.Stun.Attributes

/-!
# Messages (`ice-server/src/stun/message.ts`)

`Message.bytes` writes the known attributes in their order and the raw attributes behind them.
`parseMessage` goes through the attributes of a datagram; it may return nothing or throw.  Behind a
`MESSAGE-INTEGRITY` it reads two kinds of attributes only, because nothing else there is covered by
the HMAC.
-/

namespace Werift.Stun

/-- `FINGERPRINT_LENGTH`. -/
def FINGERPRINT_LENGTH : ℤ := 8

/-- `FINGERPRINT_XOR`. -/
def FINGERPRINT_XOR : UInt32 := 0x5354554e

/-- `HEADER_LENGTH`. -/
def HEADER_LENGTH : ℕ := 20

/-- `INTEGRITY_LENGTH`. -/
def INTEGRITY_LENGTH : ℤ := 24

/-- HMAC-SHA1 of `node:crypto`; a digest has twenty bytes. -/
structure Hmac where
  digest : (key data : Bytes) → Bytes
  length_digest : ∀ key data, (digest key data).length = 20

/-- An attribute that the table does not know.  Only the parser sets its `length`. -/
structure RawAttribute where
  type : ℕ
  length : Option ℕ := none
  value : Bytes
deriving DecidableEq

/-- The fields of a `Message`. -/
structure Message where
  messageMethod : ℕ
  messageClass : ℕ
  transactionId : Bytes
  attributes : List AttributePair := []
  rawAttributes : List RawAttribute := []
  alternateServers : List AttributeValue := []
deriving DecidableEq

/-! ## Writing -/

/-- `paddingLength(length)`. -/
def paddingLength (length : ℕ) : ℕ := if length % 4 = 0 then 0 else 4 - length % 4

/-- `serializeAttribute(type, value)`. -/
def serializeAttribute (type : ℕ) (value : Bytes) : Option Bytes := do
  let typeField ← Js.writeUInt16BE type
  let lengthField ← Js.writeUInt16BE value.length
  return typeField ++ lengthField ++ value ++ List.replicate (paddingLength value.length) 0

/-- `setBodyLength(data, length)`. -/
def setBodyLength (data : Bytes) (length : ℤ) : Option Bytes := do
  let field ← Js.writeUInt16BE length
  return data.take 2 ++ field ++ data.drop 4

/-- `messageFingerprint(data)`. -/
def messageFingerprint (data : Bytes) : Option ℕ := do
  let checkData ← setBodyLength data (data.length - HEADER_LENGTH + FINGERPRINT_LENGTH)
  return (crc32 checkData ^^^ FINGERPRINT_XOR).toNat

/-- `messageIntegrity(data, key)`. -/
def messageIntegrity (H : Hmac) (data key : Bytes) : Option Bytes := do
  let checkData ← setBodyLength data (data.length - HEADER_LENGTH + INTEGRITY_LENGTH)
  return H.digest key checkData

namespace Message

/-- `this.setAttribute(key, value)`. -/
def setAttribute (m : Message) (key : AttributeKey) (value : AttributeValue) : Message :=
  { m with attributes := Stun.setAttribute m.attributes key value }

/-- `this.getAttributeValue(key)`. -/
def getAttributeValue (m : Message) (key : AttributeKey) : Option AttributeValue :=
  Stun.getAttributeValue m.attributes key

/-- `appendRawAttribute(type, value)`. -/
def appendRawAttribute (m : Message) (type : ℕ) (value : Bytes) : Message :=
  { m with rawAttributes := m.rawAttributes ++ [{ type, value }] }

/-- The type and the packed value of a known attribute. -/
def packAttribute (m : Message) (key : AttributeKey) : Option (ℕ × Bytes) := do
  let value ← m.getAttributeValue key
  let entry ← ATTRIBUTES_BY_NAME key
  return (entry.type, ← entry.codec.pack m.transactionId value)

/-- `serializedAttributes`. -/
def serializedAttributes (m : Message) : Option (List (ℕ × Bytes)) := do
  let known ← m.attributes.mapM fun pair => m.packAttribute pair.1
  return known ++ m.rawAttributes.map fun raw => (raw.type, raw.value)

/-- The header of a message with a body of the given length. -/
def header (m : Message) (length : ℕ) : Option Bytes := do
  let typeField ← Js.writeUInt16BE (m.messageMethod ||| m.messageClass : ℕ)
  let lengthField ← Js.writeUInt16BE length
  let cookieField ← Js.writeUInt32BE COOKIE
  return typeField ++ lengthField ++ cookieField ++ m.transactionId

/-- `bytes`. -/
def bytes (m : Message) : Option Bytes := do
  let fields ← m.serializedAttributes
  let parts ← fields.mapM fun field => serializeAttribute field.1 field.2
  let body := parts.flatten
  return (← m.header body.length) ++ body

/-- `messageIntegrity(key)`. -/
def messageIntegrity (H : Hmac) (m : Message) (key : Bytes) : Option Bytes := do
  Stun.messageIntegrity H (← m.bytes) key

/-- `addMessageIntegrity(key)`. -/
def addMessageIntegrity (H : Hmac) (m : Message) (key : Bytes) : Option Message := do
  return m.setAttribute .messageIntegrity (.buffer (← m.messageIntegrity H key))

/-- `addFingerprint()`. -/
def addFingerprint (m : Message) : Option Message := do
  return m.setAttribute .fingerprint (.number (← messageFingerprint (← m.bytes)))

end Message

/-! ## Reading -/

/-- `isStunMessage(data)`. -/
def isStunMessage (data : Bytes) : Bool :=
  HEADER_LENGTH ≤ data.length && (data.getD 0 0 &&& 0xc0) == 0 &&
    Js.readUInt32BE data 4 == some (COOKIE : ℤ) &&
    (Js.readUInt16BE data 2).any fun length =>
      length % 4 == 0 && (data.length : ℤ) == HEADER_LENGTH + length

/-- How `parseMessage` may end without a message. -/
inductive Exit
  | undefined
  | throws
deriving DecidableEq

/-- The value of an expression that may throw. -/
def orThrow {α : Type} : Option α → Except Exit α
  | some a => .ok a
  | none => .error .throws

/-- A value that has to be there, or `parseMessage` returns nothing. -/
def orUndefined {α : Type} : Option α → Except Exit α
  | some a => .ok a
  | none => .error .undefined

/-- The variables of `parseMessage` that its loop changes. -/
structure ParseState where
  attributes : List AttributePair := []
  rawAttributes : List RawAttribute := []
  alternateServers : List AttributeValue := []
  messageIntegrityVerified : Bool := false
  sawIntegrity : Bool := false
  sawIntegritySha256 : Bool := false
deriving DecidableEq

/-- Whether an attribute is skipped because it stands behind a `MESSAGE-INTEGRITY` or a
`MESSAGE-INTEGRITY-SHA256`. -/
def ParseState.skips (st : ParseState) (name : Option AttributeKey) : Bool :=
  (st.sawIntegritySha256 && decide (name ≠ some .fingerprint)) ||
    (st.sawIntegrity && decide (name ≠ some .fingerprint) &&
      decide (name ≠ some .messageIntegritySha256))

variable (H : Hmac)

/-- What a turn of the loop does with an attribute that is not skipped: `before` is the part of the
datagram in front of it. -/
def acceptAttribute (integrityKey : Option Bytes) (transactionId before : Bytes) (attrType : ℕ)
    (payload : Bytes) (st : ParseState) : Except Exit ParseState :=
  match ATTRIBUTES_BY_TYPE attrType with
  | some entry => do
    let value ← orUndefined (entry.codec.unpack transactionId payload)
    let st := { st with
      sawIntegrity := st.sawIntegrity || decide (entry.name = .messageIntegrity)
      sawIntegritySha256 :=
        st.sawIntegritySha256 || decide (entry.name = .messageIntegritySha256)
      attributes := setAttribute st.attributes entry.name value
      alternateServers :=
        st.alternateServers ++ if entry.name = .alternateServer then [value] else [] }
    if entry.name = .fingerprint then do
      let fingerprint ← orThrow (messageFingerprint before)
      if getAttributeValue st.attributes .fingerprint = some (.number fingerprint) then .ok st
      else .error .undefined
    else match (if entry.name = .messageIntegrity then integrityKey else none) with
    | some key => do
      let integrity ← orThrow (messageIntegrity H before key)
      if getAttributeValue st.attributes .messageIntegrity = some (.buffer integrity) then
        .ok { st with messageIntegrityVerified := true }
      else .error .undefined
    | none => .ok st
  | none => .ok { st with rawAttributes :=
      st.rawAttributes ++ [{ type := attrType, length := some payload.length, value := payload }] }

/-- A turn of the loop of `parseMessage`, for an attribute that is whole. -/
def parseAttribute (integrityKey : Option Bytes) (transactionId before : Bytes) (attrType : ℕ)
    (payload : Bytes) (st : ParseState) : Except Exit ParseState :=
  if st.skips ((ATTRIBUTES_BY_TYPE attrType).map ATTRIBUTE.name) then .ok st
  else acceptAttribute H integrityKey transactionId before attrType payload st

/-- The loop of `parseMessage` from a position on.  Every turn takes at least four bytes, so that the
length of the datagram bounds the number of turns. -/
def parseLoop (data : Bytes) (integrityKey : Option Bytes) (transactionId : Bytes) :
    ℕ → ℕ → ParseState → Except Exit ParseState
  | 0, _, st => .ok st
  | turns + 1, pos, st =>
    if pos < data.length then
      if data.length < pos + 4 then .error .undefined
      else do
        let attrType ← orThrow (Js.readUInt16BE data pos)
        let attrLen ← orThrow (Js.readUInt16BE data (pos + 2))
        let valueEnd := pos + 4 + attrLen.toNat
        let next := valueEnd + paddingLength attrLen.toNat
        if data.length < next then .error .undefined
        else
          let payload := Js.slice data (pos + 4) valueEnd
          let st ← parseAttribute H integrityKey transactionId (data.take pos) attrType.toNat
            payload st
          parseLoop data integrityKey transactionId turns next st
    else .ok st

/-- `parseMessage(data, integrityKey)`. -/
def parseMessage (data : Bytes) (integrityKey : Option Bytes) : Except Exit Message :=
  if !isStunMessage data then .error .undefined
  else do
    let messageType ← orThrow (Js.readUInt16BE data 0)
    let transactionId := Js.slice data (HEADER_LENGTH - 12) HEADER_LENGTH
    let st ← parseLoop H data integrityKey transactionId data.length HEADER_LENGTH {}
    if integrityKey.isSome && !st.messageIntegrityVerified then .error .undefined
    else return {
      messageMethod := messageType.toNat &&& 0x3eef
      messageClass := messageType.toNat &&& 0x0110
      transactionId
      attributes := st.attributes
      rawAttributes := st.rawAttributes
      alternateServers := st.alternateServers }

/-! ## What the functions have done -/

section

variable {H} {integrityKey : Option Bytes} {transactionId before payload : Bytes} {attrType : ℕ}
  {st st' : ParseState}

@[simp] lemma orThrow_eq_ok {α : Type} {x : Option α} {a : α} : orThrow x = .ok a ↔ x = some a := by
  cases x <;> simp [orThrow]

@[simp] lemma orUndefined_eq_ok {α : Type} {x : Option α} {a : α} :
    orUndefined x = .ok a ↔ x = some a := by
  cases x <;> simp [orUndefined]

lemma except_bind_eq_ok {α β : Type} {x : Except Exit α} {f : α → Except Exit β} {b : β} :
    (x >>= f) = .ok b ↔ ∃ a, x = .ok a ∧ f a = .ok b := by
  cases x <;> simp [bind, Except.bind]

lemma except_ite_eq_ok {α : Type} {c : Prop} [Decidable c] {a b : α} :
    (if c then Except.ok a else .error Exit.undefined) = .ok b ↔ c ∧ a = b := by
  split_ifs with h <;> simp [h]

/-- The state after a known attribute. -/
def ParseState.afterKnown (st : ParseState) (name : AttributeKey) (value : AttributeValue)
    (checked : Bool) : ParseState where
  attributes := setAttribute st.attributes name value
  rawAttributes := st.rawAttributes
  alternateServers := st.alternateServers ++ if name = .alternateServer then [value] else []
  messageIntegrityVerified :=
    st.messageIntegrityVerified || (decide (name = .messageIntegrity) && checked)
  sawIntegrity := st.sawIntegrity || decide (name = .messageIntegrity)
  sawIntegritySha256 := st.sawIntegritySha256 || decide (name = .messageIntegritySha256)

/-- A known attribute is accepted if its value can be read and, in the case of a fingerprint or an
integrity, is the one that the bytes before it ask for. -/
lemma acceptAttribute_known {entry : ATTRIBUTE} (hentry : ATTRIBUTES_BY_TYPE attrType = some entry) :
    acceptAttribute H integrityKey transactionId before attrType payload st = .ok st' ↔
      ∃ value, entry.codec.unpack transactionId payload = some value ∧
        (entry.name = .fingerprint → ∃ n, messageFingerprint before = some n ∧ value = .number n) ∧
        (entry.name = .messageIntegrity → ∀ key, integrityKey = some key →
          ∃ buf, messageIntegrity H before key = some buf ∧ value = .buffer buf) ∧
        st' = st.afterKnown entry.name value integrityKey.isSome := by
  rw [acceptAttribute, hentry]
  simp only [except_bind_eq_ok, orUndefined_eq_ok]
  refine exists_congr fun value => and_congr_right fun _ => ?_
  obtain ⟨type, name, codec⟩ := entry
  by_cases hf : name = .fingerprint
  · subst hf
    simp only [if_true, except_bind_eq_ok, orThrow_eq_ok, getAttributeValue_setAttribute_self]
    simp [ParseState.afterKnown, except_ite_eq_ok, ← and_assoc, eq_comm (a := st')]
  · by_cases hi : name = .messageIntegrity
    · subst hi
      cases integrityKey with
      | none => simp [ParseState.afterKnown, eq_comm]
      | some key =>
        simp [except_bind_eq_ok, ParseState.afterKnown, except_ite_eq_ok, ← and_assoc,
          eq_comm (a := st')]
    · simp [hf, hi, ParseState.afterKnown, eq_comm]

/-- An unknown attribute is always accepted. -/
lemma acceptAttribute_unknown (hentry : ATTRIBUTES_BY_TYPE attrType = none) :
    acceptAttribute H integrityKey transactionId before attrType payload st =
      .ok { st with rawAttributes := st.rawAttributes ++
        [{ type := attrType, length := some payload.length, value := payload }] } := by
  rw [acceptAttribute, hentry]

/-- A message is made of the type, the transaction id and the variables at the end of the loop. -/
lemma parseMessage_eq_ok {data : Bytes} {m : Message} :
    parseMessage H data integrityKey = .ok m ↔ isStunMessage data = true ∧
      ∃ messageType st, Js.readUInt16BE data 0 = some messageType ∧
        parseLoop H data integrityKey (Js.slice data (HEADER_LENGTH - 12) HEADER_LENGTH) data.length
          HEADER_LENGTH {} = .ok st ∧
        (integrityKey.isSome → st.messageIntegrityVerified = true) ∧
        m = { messageMethod := messageType.toNat &&& 0x3eef
              messageClass := messageType.toNat &&& 0x0110
              transactionId := Js.slice data (HEADER_LENGTH - 12) HEADER_LENGTH
              attributes := st.attributes
              rawAttributes := st.rawAttributes
              alternateServers := st.alternateServers } := by
  unfold parseMessage
  by_cases hstun : isStunMessage data = true
  · simp only [hstun, Bool.not_true, Bool.false_eq_true, if_false, except_bind_eq_ok, orThrow_eq_ok,
      true_and]
    refine exists_congr fun messageType => ?_
    simp only [← exists_and_left]
    refine exists_congr fun st => and_congr_right fun _ => and_congr_right fun _ => ?_
    cases integrityKey.isSome <;> cases st.messageIntegrityVerified <;>
      simp [pure, Except.pure, eq_comm (b := m)]
  · simp [hstun]

end

end Werift.Stun
