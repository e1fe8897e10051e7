import Werift.Stun.Ip
import Werift.Js.Text

/-!
# Attributes (`ice-server/src/stun/attributes.ts`)

Every known attribute has a type, a name, and a pair of functions that write its value and read it.
A `Codec` stands for such a pair.  `unpack_pack` says that a value in the range of the codec is read
back.
-/

namespace Werift.Stun

/-- `COOKIE`. -/
def COOKIE : ℕ := 0x2112a442

/-- `IPV4_PROTOCOL`. -/
def IPV4_PROTOCOL : ℤ := 1

/-- `IPV6_PROTOCOL`. -/
def IPV6_PROTOCOL : ℤ := 2

/-- An address: the text of the IP and the port. -/
abbrev Address := String × ℕ

/-- `AttributeKeys`. -/
inductive AttributeKey
  | fingerprint
  | messageIntegrity
  | messageIntegritySha256
  | changeRequest
  | priority
  | username
  | userhash
  | iceControlling
  | sourceAddress
  | useCandidate
  | iceControlled
  | errorCode
  | unknownAttributes
  | xorMappedAddress
  | changedAddress
  | lifetime
  | requestedTransport
  | nonce
  | realm
  | requestedAddressFamily
  | evenPort
  | passwordAlgorithm
  | passwordAlgorithms
  | xorRelayedAddress
  | reservationToken
  | channelNumber
  | xorPeerAddress
  | data
  | software
  | mappedAddress
  | alternateDomain
  | alternateServer
  | responseOrigin
  | otherAddress
deriving DecidableEq

/-- The values of attributes. -/
inductive AttributeValue
  | address (value : Address)
  | number (value : ℕ)
  | string (value : String)
  | buffer (value : Bytes)
  | error (code : ℕ) (reason : String)
  | numbers (value : List ℕ)
  | null
deriving DecidableEq

/-- A pair of a `pack` and an `unpack` function. -/
inductive Codec
  | address
  | xorAddress
  | unsigned
  | unsignedShort
  | unsigned64
  | string
  | software
  | bytes
  | null
  | errorCode
  | unknownAttributes
deriving DecidableEq

/-! ## Addresses -/

/-- `packAddress(value)`. -/
def packAddress (value : Address) : Option Bytes := do
  let protocol := if isIPv4 value.1 then IPV4_PROTOCOL else IPV6_PROTOCOL
  let zero ← Js.writeUInt8 0
  let family ← Js.writeUInt8 protocol
  let port ← Js.writeUInt16BE value.2
  let ip ← ipAddressToBuffer value.1
  return zero ++ family ++ port ++ ip

/-- `unpackAddress(data)`. -/
def unpackAddress (data : Bytes) : Option Address := do
  guard (4 ≤ data.length)
  let protocol ← Js.readUInt8 data 1
  let port ← Js.readUInt16BE data 2
  let address := data.drop 4
  guard ((protocol = IPV4_PROTOCOL ∧ address.length = 4) ∨
    (protocol = IPV6_PROTOCOL ∧ address.length = 16))
  return (← bufferToIpAddress address, port.toNat)

/-- `cookieBuffer`. -/
def cookieBuffer : Bytes := BigEndian.encode 2 (COOKIE >>> 16) ++ BigEndian.encode 4 COOKIE

/-- `xorAddress(data, transactionId)`. -/
def xorAddress (data transactionId : Bytes) : Bytes :=
  let xPad := cookieBuffer ++ transactionId
  data.take 2 ++ (data.drop 2).mapIdx fun i b => b ^^^ xPad.getD i 0

/-! ## The codecs -/

/-- The function that writes the values of a codec.  Values of another type are refused. -/
def Codec.pack (transactionId : Bytes) : Codec → AttributeValue → Option Bytes
  | address, .address value => packAddress value
  | xorAddress, .address value => (packAddress value).map (Stun.xorAddress · transactionId)
  | unsigned, .number value => Js.writeUInt32BE value
  | unsignedShort, .number value => (Js.writeUInt16BE value).map (· ++ [0, 0])
  | unsigned64, .number value => Js.writeUIntBE 8 value
  | string, .string value => some (Js.encodeUtf8 value)
  | software, .string value => if value.length ≥ 128 then none else some (Js.encodeUtf8 value)
  | bytes, .buffer value => some value
  | null, _ => some []
  | errorCode, .error code reason => do
    let high ← Js.writeUInt8 (code / 100 : ℕ)
    let low ← Js.writeUInt8 (code % 100 : ℕ)
    return [0, 0] ++ high ++ low ++ Js.encodeUtf8 reason
  | unknownAttributes, .numbers value =>
    (value.mapM fun type : ℕ => Js.writeUInt16BE type).map List.flatten
  | _, _ => none

/-- The loop of `unpackUnknownAttributes`. -/
def unpackNumbers : Bytes → Option (List ℕ)
  | [] => some []
  | [_] => none
  | a :: b :: rest => (unpackNumbers rest).map (BigEndian.decode [a, b] :: ·)

/-- The function that reads the values of a codec. -/
def Codec.unpack (transactionId : Bytes) : Codec → Bytes → Option AttributeValue
  | address, data => (unpackAddress data).map .address
  | xorAddress, data => (unpackAddress (Stun.xorAddress data transactionId)).map .address
  | unsigned, data => (Js.readUInt32BE data 0).map fun n => .number n.toNat
  | unsignedShort, data => (Js.readUInt16BE data 0).map fun n => .number n.toNat
  | unsigned64, data => (Js.readUIntBE 8 data 0).map fun n => .number n.toNat
  | string, data | software, data => some (.string (Js.decodeUtf8 data))
  | bytes, data => some (.buffer data)
  | null, _ => some .null
  | errorCode, data => do
    guard (4 ≤ data.length)
    let codeHigh ← Js.readUInt8 data 2
    let codeLow ← Js.readUInt8 data 3
    return .error (codeHigh * 100 + codeLow).toNat (Js.decodeUtf8 (data.drop 4))
  | unknownAttributes, data => (unpackNumbers data).map .numbers

/-- An entry of `ATTRIBUTES`. -/
structure ATTRIBUTE where
  type : ℕ
  name : AttributeKey
  codec : Codec

/-- `ATTRIBUTES`. -/
def ATTRIBUTES : List ATTRIBUTE :=
  [⟨0x0001, .mappedAddress, .address⟩, ⟨0x0003, .changeRequest, .unsigned⟩,
   ⟨0x0004, .sourceAddress, .address⟩, ⟨0x0005, .changedAddress, .address⟩,
   ⟨0x0006, .username, .string⟩, ⟨0x0008, .messageIntegrity, .bytes⟩,
   ⟨0x0009, .errorCode, .errorCode⟩, ⟨0x000a, .unknownAttributes, .unknownAttributes⟩,
   ⟨0x000c, .channelNumber, .unsignedShort⟩, ⟨0x000d, .lifetime, .unsigned⟩,
   ⟨0x0012, .xorPeerAddress, .xorAddress⟩, ⟨0x0013, .data, .bytes⟩, ⟨0x0014, .realm, .string⟩,
   ⟨0x0015, .nonce, .bytes⟩, ⟨0x0016, .xorRelayedAddress, .xorAddress⟩,
   ⟨0x0017, .requestedAddressFamily, .unsigned⟩, ⟨0x0018, .evenPort, .bytes⟩,
   ⟨0x0019, .requestedTransport, .unsigned⟩, ⟨0x001c, .messageIntegritySha256, .bytes⟩,
   ⟨0x001d, .passwordAlgorithm, .bytes⟩, ⟨0x001e, .userhash, .bytes⟩,
   ⟨0x0020, .xorMappedAddress, .xorAddress⟩, ⟨0x0022, .reservationToken, .bytes⟩,
   ⟨0x0024, .priority, .unsigned⟩, ⟨0x0025, .useCandidate, .null⟩,
   ⟨0x8002, .passwordAlgorithms, .bytes⟩, ⟨0x8003, .alternateDomain, .string⟩,
   ⟨0x8022, .software, .software⟩, ⟨0x8023, .alternateServer, .address⟩,
   ⟨0x8028, .fingerprint, .unsigned⟩, ⟨0x8029, .iceControlled, .unsigned64⟩,
   ⟨0x802a, .iceControlling, .unsigned64⟩, ⟨0x802b, .responseOrigin, .address⟩,
   ⟨0x802c, .otherAddress, .address⟩]

/-- `ATTRIBUTES_BY_TYPE[type]`. -/
def ATTRIBUTES_BY_TYPE (type : ℕ) : Option ATTRIBUTE := ATTRIBUTES.find? fun a => a.type = type

/-- `ATTRIBUTES_BY_NAME[name]`. -/
def ATTRIBUTES_BY_NAME (name : AttributeKey) : Option ATTRIBUTE :=
  ATTRIBUTES.find? fun a => a.name = name

/-! ## The repository -/

abbrev AttributePair := AttributeKey × AttributeValue

/-- `setAttribute(key, value)`: an attribute that is there keeps its place. -/
def setAttribute : List AttributePair → AttributeKey → AttributeValue → List AttributePair
  | [], key, value => [(key, value)]
  | existing :: rest, key, value =>
    if existing.1 = key then (key, value) :: rest else existing :: setAttribute rest key value

/-- `getAttributeValue(key)`. -/
def getAttributeValue (attributes : List AttributePair) (key : AttributeKey) :
    Option AttributeValue :=
  (attributes.find? fun candidate => candidate.1 = key).map Prod.snd

@[simp] lemma getAttributeValue_setAttribute_self (l : List AttributePair) (key : AttributeKey)
    (value : AttributeValue) : getAttributeValue (setAttribute l key value) key = some value := by
  induction l with
  | nil => simp [setAttribute, getAttributeValue]
  | cons existing l ih =>
    rw [setAttribute]
    split_ifs with h
    · simp [getAttributeValue]
    · simpa [getAttributeValue, h] using ih

/-- A new attribute is appended. -/
lemma setAttribute_of_not_mem {l : List AttributePair} {key : AttributeKey}
    (h : key ∉ l.map Prod.fst) (value : AttributeValue) :
    setAttribute l key value = l ++ [(key, value)] := by
  induction l with
  | nil => rfl
  | cons existing l ih =>
    rw [List.map_cons, List.mem_cons, not_or] at h
    rw [setAttribute, if_neg fun heq => h.1 heq.symm, ih h.2, List.cons_append]

/-- An attribute that is there is set in its place. -/
lemma setAttribute_append {l : List AttributePair} {key : AttributeKey}
    (h : key ∈ l.map Prod.fst) (l' : List AttributePair) (value : AttributeValue) :
    setAttribute (l ++ l') key value = setAttribute l key value ++ l' := by
  induction l with
  | nil => simp at h
  | cons existing l ih =>
    rw [List.cons_append, setAttribute, setAttribute]
    split_ifs with heq
    · rfl
    · rw [ih (by simpa [Ne.symm heq] using h), List.cons_append]

lemma setAttribute_append_of_not_mem {l : List AttributePair} {key : AttributeKey}
    (h : key ∉ l.map Prod.fst) (l' : List AttributePair) (value : AttributeValue) :
    setAttribute (l ++ l') key value = l ++ setAttribute l' key value := by
  induction l with
  | nil => rfl
  | cons existing l ih =>
    rw [List.map_cons, List.mem_cons, not_or] at h
    rw [List.cons_append, setAttribute, if_neg fun heq => h.1 heq.symm, ih h.2, List.cons_append]

lemma keys_setAttribute {l : List AttributePair} {key : AttributeKey} (h : key ∈ l.map Prod.fst)
    (value : AttributeValue) : (setAttribute l key value).map Prod.fst = l.map Prod.fst := by
  induction l with
  | nil => simp at h
  | cons existing l ih =>
    rw [setAttribute]
    split_ifs with heq
    · rw [List.map_cons, List.map_cons, heq]
    · rw [List.map_cons, List.map_cons, ih (by simpa [Ne.symm heq] using h)]

lemma nodup_setAttribute {l : List AttributePair} (hl : (l.map Prod.fst).Nodup)
    (key : AttributeKey) (value : AttributeValue) :
    ((setAttribute l key value).map Prod.fst).Nodup := by
  by_cases h : key ∈ l.map Prod.fst
  · rwa [keys_setAttribute h]
  · rw [setAttribute_of_not_mem h, List.map_append, List.map_singleton]
    refine List.nodup_append.mpr ⟨hl, List.nodup_singleton _, ?_⟩
    rintro a ha b hb rfl
    rw [List.mem_singleton] at hb
    subst hb
    exact h ha

/-- What does not look at an attribute does not see that it is set. -/
lemma filter_setAttribute {p : AttributeKey → Bool} {key : AttributeKey} (hp : p key = false)
    (l : List AttributePair) (value : AttributeValue) :
    (setAttribute l key value).filter (fun pair => p pair.1) = l.filter fun pair => p pair.1 := by
  induction l with
  | nil => simp [setAttribute, hp]
  | cons existing l ih =>
    rw [setAttribute]
    split_ifs with h
    · simp [hp, h]
    · simp [List.filter_cons, ih]

/-! ## Reading back -/

/-- The values that a codec can write.  An address has to be written as it is read. -/
def Codec.InRange : Codec → AttributeValue → Prop
  | address, .address value | xorAddress, .address value => Canonical value.1 ∧ value.2 < 256 ^ 2
  | unsigned, .number value => value < 256 ^ 4
  | unsignedShort, .number value => value < 256 ^ 2
  | unsigned64, .number value => value < 256 ^ 8
  | string, .string _ => True
  | software, .string value => value.length < 128
  | bytes, .buffer _ => True
  | null, .null => True
  | errorCode, .error code _ => code < 25600
  | unknownAttributes, .numbers value => ∀ n ∈ value, n < 256 ^ 2
  | _, _ => False

/-- A number in the range of its field is written, and read back from the front. -/
lemma exists_writeUIntBE {k n : ℕ} (hn : n < 256 ^ k) (rest : Bytes) :
    ∃ field, Js.writeUIntBE k n = some field ∧ field.length = k ∧
      Js.readUIntBE k (field ++ rest) 0 = some (n : ℤ) := by
  obtain ⟨field, hfield⟩ := Option.isSome_iff_exists.mp <|
    Js.isSome_writeUIntBE.mpr ⟨Int.natCast_nonneg n, by exact_mod_cast hn⟩
  exact ⟨field, hfield, Js.length_of_writeUIntBE hfield,
    Js.readUIntBE_append hfield [] rest⟩

lemma xorAddress_xorAddress (data transactionId : Bytes) :
    xorAddress (xorAddress data transactionId) transactionId = data := by
  match data with
  | [] => rfl
  | [_] => rfl
  | a :: b :: rest =>
    simp only [xorAddress, List.take_succ_cons, List.take_zero, List.drop_succ_cons, List.drop_zero,
      List.cons_append, List.nil_append, List.mapIdx_mapIdx]
    have hcancel : (fun i => (fun c : UInt8 => c ^^^ (cookieBuffer ++ transactionId).getD i 0) ∘
        fun c => c ^^^ (cookieBuffer ++ transactionId).getD i 0) = fun _ => id := by
      funext i c
      simp
    rw [hcancel, List.mapIdx_eq_zipIdx_map]
    exact congrArg (a :: b :: ·) (List.zipIdx_map_fst 0 rest)

lemma exists_packAddress {value : Address} (hip : Canonical value.1) (hport : value.2 < 256 ^ 2) :
    ∃ data, packAddress value = some data ∧ unpackAddress data = some value := by
  obtain ⟨buf, hbuf, htext⟩ := Option.bind_eq_some_iff.mp hip
  have hlen := length_ipAddressToBuffer hbuf
  obtain ⟨port, hwrite, hportLen, -⟩ := exists_writeUIntBE hport []
  have hread (pre : Bytes) : Js.readUInt16BE (pre ++ port ++ buf) pre.length = some (value.2 : ℤ) :=
    Js.readUIntBE_append hwrite pre buf
  obtain ⟨p0, p1, rfl⟩ : ∃ p0 p1, port = [p0, p1] := List.length_eq_two.mp hportLen
  by_cases h4 : isIPv4 value.1
  · rw [if_pos h4] at hlen
    refine ⟨[0, 1] ++ [p0, p1] ++ buf, ?_, ?_⟩
    · rw [packAddress, if_pos h4, Js.writeUInt16BE, hwrite, hbuf]
      rfl
    · have hport := hread [0, 1]
      simp only [List.cons_append, List.nil_append, List.length_cons, List.length_nil] at hport
      simp [unpackAddress, Js.readUInt8, Js.readUIntBE, BigEndian.decode, IPV4_PROTOCOL, hlen,
        htext, hport]
  · rw [if_neg h4] at hlen
    refine ⟨[0, 2] ++ [p0, p1] ++ buf, ?_, ?_⟩
    · rw [packAddress, if_neg h4, Js.writeUInt16BE, hwrite, hbuf]
      rfl
    · have hport := hread [0, 2]
      simp only [List.cons_append, List.nil_append, List.length_cons, List.length_nil] at hport
      simp [unpackAddress, Js.readUInt8, Js.readUIntBE, BigEndian.decode, IPV4_PROTOCOL,
        IPV6_PROTOCOL, hlen, htext, hport]

lemma exists_packNumbers {value : List ℕ} (h : ∀ n ∈ value, n < 256 ^ 2) :
    ∃ fields, value.mapM (fun type : ℕ => Js.writeUInt16BE type) = some fields ∧
      unpackNumbers fields.flatten = some value := by
  induction value with
  | nil => exact ⟨[], rfl, rfl⟩
  | cons n value ih =>
    obtain ⟨fields, hfields, hread⟩ := ih fun m hm => h m (List.mem_cons_of_mem _ hm)
    have hn := h n List.mem_cons_self
    refine ⟨BigEndian.encode 2 n :: fields, ?_, ?_⟩
    · have hwrite : Js.writeUInt16BE n = some (BigEndian.encode 2 n) :=
        Js.writeUIntBE_eq_some.mpr ⟨⟨Int.natCast_nonneg n, by exact_mod_cast hn⟩, by simp⟩
      rw [List.mapM_cons, hwrite, hfields]
      rfl
    · obtain ⟨a, b, hab⟩ := List.length_eq_two.mp (BigEndian.length_encode 2 n)
      rw [List.flatten_cons, hab, List.cons_append, List.cons_append, List.nil_append,
        unpackNumbers, hread, ← hab, BigEndian.decode_encode hn]
      rfl

/-- **Round trip.**  A value in the range of its codec is written and read back. -/
theorem Codec.exists_pack {codec : Codec} {value : AttributeValue} (h : codec.InRange value)
    (transactionId : Bytes) :
    ∃ data, codec.pack transactionId value = some data ∧
      codec.unpack transactionId data = some value := by
  match codec, value, h with
  | .address, .address value, h =>
    obtain ⟨data, hpack, hunpack⟩ := exists_packAddress h.1 h.2
    exact ⟨data, hpack, by rw [unpack, hunpack, Option.map_some]⟩
  | .xorAddress, .address value, h =>
    obtain ⟨data, hpack, hunpack⟩ := exists_packAddress h.1 h.2
    refine ⟨Stun.xorAddress data transactionId, by rw [pack, hpack, Option.map_some], ?_⟩
    rw [unpack, xorAddress_xorAddress, hunpack, Option.map_some]
  | .unsigned, .number value, h =>
    obtain ⟨field, hwrite, -, hread⟩ := exists_writeUIntBE h []
    rw [List.append_nil] at hread
    refine ⟨field, hwrite, ?_⟩
    rw [unpack, Js.readUInt32BE, hread, Option.map_some, Int.toNat_natCast]
  | .unsignedShort, .number value, h =>
    obtain ⟨field, hwrite, -, hread⟩ := exists_writeUIntBE h [0, 0]
    refine ⟨field ++ [0, 0], by rw [pack, Js.writeUInt16BE, hwrite, Option.map_some], ?_⟩
    rw [unpack, Js.readUInt16BE, hread, Option.map_some, Int.toNat_natCast]
  | .unsigned64, .number value, h =>
    obtain ⟨field, hwrite, -, hread⟩ := exists_writeUIntBE h []
    rw [List.append_nil] at hread
    refine ⟨field, hwrite, ?_⟩
    rw [unpack, hread, Option.map_some, Int.toNat_natCast]
  | .string, .string value, _ => exact ⟨_, rfl, by rw [unpack, Js.decodeUtf8_encodeUtf8]⟩
  | .software, .string value, h =>
    refine ⟨_, if_neg (Nat.not_le.mpr h), by rw [unpack, Js.decodeUtf8_encodeUtf8]⟩
  | .bytes, .buffer value, _ => exact ⟨value, rfl, rfl⟩
  | .null, .null, _ => exact ⟨[], rfl, rfl⟩
  | .errorCode, .error code reason, h =>
    have hcode : code < 25600 := h
    obtain ⟨high, hhigh, hhighLen, -⟩ := exists_writeUIntBE (k := 1) (n := code / 100) (by omega) []
    obtain ⟨low, hlow, hlowLen, -⟩ := exists_writeUIntBE (k := 1) (n := code % 100) (by omega) []
    have hreadHigh := Js.readUIntBE_append hhigh [0, 0] (low ++ Js.encodeUtf8 reason)
    have hreadLow := Js.readUIntBE_append hlow ([0, 0] ++ high) (Js.encodeUtf8 reason)
    obtain ⟨a, rfl⟩ := List.length_eq_one_iff.mp hhighLen
    obtain ⟨b, rfl⟩ := List.length_eq_one_iff.mp hlowLen
    refine ⟨[0, 0] ++ [a] ++ [b] ++ Js.encodeUtf8 reason, ?_, ?_⟩
    · rw [pack, Js.writeUInt8, Js.writeUInt8, hhigh, hlow]
      rfl
    · simp only [List.cons_append, List.nil_append, List.length_cons, List.length_nil]
        at hreadHigh hreadLow
      have hsum : ((code : ℤ) / 100 * 100 + (code : ℤ) % 100).toNat = code := by omega
      simp [unpack, Js.readUInt8, hreadHigh, hreadLow, hsum, Js.decodeUtf8_encodeUtf8]
  | .unknownAttributes, .numbers value, h =>
    obtain ⟨fields, hpack, hunpack⟩ := exists_packNumbers h
    exact ⟨fields.flatten, by rw [pack, hpack, Option.map_some],
      by rw [unpack, hunpack, Option.map_some]⟩

/-! ## The table -/

/-- Every attribute has an entry, and the type of the entry leads back to it. -/
lemma exists_attribute (name : AttributeKey) : ∃ a, ATTRIBUTES_BY_NAME name = some a ∧
    a.name = name ∧ a.type < 256 ^ 2 ∧ ATTRIBUTES_BY_TYPE a.type = some a := by
  cases name <;> exact ⟨_, rfl, rfl, by decide, rfl⟩

end Werift.Stun
