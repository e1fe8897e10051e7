import Werift.Dtls.HandshakeCodec

/-!
# Binary data and handshake messages survive

What `encode` writes is read back for all schemas, and what the endpoints write is read back for all
messages.  The names of a certificate request are read back as far as they have octets of seven bits.
-/

namespace Werift.Dtls

open BinaryData (BinaryError Value TypeOrSchema Admits restrict restrictFields)
open BinaryData.types (uint8 uint16be uint32be uint24be)

variable {α : Type} {bytes : Bytes}

/-- **A message** that has been written is what the fields of its schema give. -/
lemma readMessage_encode {schema : TypeOrSchema} (ofValue : Value → Option α) {value : Value}
    (hadmits : Admits schema {} {} value) (hbytes : BinaryData.encode value schema = .ok bytes) :
    readMessage schema ofValue bytes = ofValue (restrict schema value) := by
  have hread := (BinaryData.decode_encode hadmits hbytes (Nat.le_succ bytes.length)).1 []
  rw [List.append_nil] at hread
  rw [readMessage, hread]

/-! ## Parts of messages -/

/-- The elements of an array are read back if each of them is. -/
lemma itemsOf_restrict {type : TypeOrSchema} {toValue : α → Value} {ofValue : Value → Option α}
    (length : BinaryData.LengthSpec) (lengthType : BinaryData.LengthType) {l : List α}
    (h : ∀ a ∈ l, ofValue (restrict type (toValue a)) = some a) :
    itemsOf ofValue (restrict (.array type length lengthType) (.array (l.map toValue))) = some l := by
  rw [BinaryData.restrict_array, itemsOf]
  induction l with
  | nil => rfl
  | cons a l ih =>
    have hrest := ih fun b hb => h b (List.mem_cons_of_mem _ hb)
    rw [List.map_cons, List.map_cons, List.mapM_cons, h a List.mem_cons_self, hrest]
    rfl

lemma itemsOf_numbers (size size' : ℕ) (l : List ℕ) :
    itemsOf numberOf (restrict (arrayOf (.uintBE size) size') (.array (l.map fun n : ℕ => .number n))) =
      some l := by
  apply itemsOf_restrict
  intro n _
  simp [restrict, numberOf]

@[simp] lemma Extension.ofValue_restrict (e : Extension) :
    Extension.ofValue (restrict Extension.schema e.toValue) = some e := by
  simp [Extension.schema, Extension.toValue, restrict, restrictFields, Value.get, Extension.ofValue,
    uint16be, bufferOf]

@[simp] lemma SignatureHash.ofValue_restrict (s : SignatureHash) :
    SignatureHash.ofValue (restrict SignatureHash.schema s.toValue) = some s := by
  simp [SignatureHash.schema, SignatureHash.toValue, restrict, restrictFields, Value.get,
    SignatureHash.ofValue, uint8]

@[simp] lemma ProtocolVersion.ofValue_restrict (v : Version) :
    ProtocolVersion.ofValue (restrict ProtocolVersion.schema (ProtocolVersion.toValue v)) = some v := by
  simp [ProtocolVersion.schema, ProtocolVersion.toValue, restrict, restrictFields, Value.get,
    ProtocolVersion.ofValue, uint8]

@[simp] lemma DtlsRandom.ofValue_restrict (r : DtlsRandom) :
    DtlsRandom.ofValue (restrict DtlsRandom.schema r.toValue) = some r := by
  simp [DtlsRandom.schema, DtlsRandom.toValue, restrict, restrictFields, Value.get,
    DtlsRandom.ofValue, uint32be]

lemma itemsOf_extensions (l : List Extension) :
    itemsOf Extension.ofValue (restrict (arrayOf Extension.schema 2)
      (.array (l.map Extension.toValue))) = some l := by
  apply itemsOf_restrict
  intro e _
  exact e.ofValue_restrict

lemma ClientHello.ofValue_restrict (m : ClientHello) :
    ClientHello.ofValue (restrict ClientHello.schema m.toValue) = some m := by
  simp [ClientHello.schema, ClientHello.toValue, restrict, restrictFields, Value.get, ClientHello.ofValue,
    bufferOf, itemsOf_extensions, uint8, uint16be, itemsOf_numbers, bytesOf]

lemma ServerHelloVerifyRequest.ofValue_restrict (m : ServerHelloVerifyRequest) :
    ServerHelloVerifyRequest.ofValue (restrict ServerHelloVerifyRequest.schema m.toValue) = some m := by
  simp [ServerHelloVerifyRequest.schema, ServerHelloVerifyRequest.toValue, restrict, restrictFields,
    Value.get, ServerHelloVerifyRequest.ofValue, bufferOf, bytesOf]

lemma Certificate.ofValue_restrict (m : Certificate) :
    Certificate.ofValue (restrict Certificate.schema m.toValue) = some m := by
  have hlist : itemsOf bytesOf (restrict (arrayOf (bufferOf 3) 3)
      (.array (m.certificateList.map Value.buffer))) = some m.certificateList := by
    apply itemsOf_restrict
    intro cert _
    simp [bufferOf, restrict, bytesOf]
  simp [Certificate.schema, Certificate.toValue, restrict, restrictFields, Value.get,
    Certificate.ofValue, hlist]

lemma ServerKeyExchange.ofValue_restrict (m : ServerKeyExchange) :
    ServerKeyExchange.ofValue (restrict ServerKeyExchange.schema m.toValue) = some m := by
  simp [ServerKeyExchange.schema, ServerKeyExchange.toValue, restrict, restrictFields, Value.get,
    ServerKeyExchange.ofValue, uint8, uint16be]

lemma CertificateVerify.ofValue_restrict (m : CertificateVerify) :
    CertificateVerify.ofValue (restrict CertificateVerify.schema m.toValue) = some m := by
  simp [CertificateVerify.schema, CertificateVerify.toValue, restrict, restrictFields, Value.get,
    CertificateVerify.ofValue, bufferOf, uint16be]

lemma ClientKeyExchange.ofValue_restrict (m : ClientKeyExchange) :
    ClientKeyExchange.ofValue (restrict ClientKeyExchange.schema m.toValue) = some m := by
  simp [ClientKeyExchange.schema, ClientKeyExchange.toValue, restrict, restrictFields, Value.get,
    ClientKeyExchange.ofValue, bufferOf]

lemma nameOf_nameValue (name : Bytes) : nameOf (nameValue name) = some name := by
  rw [nameValue, nameOf, String.toList_ofList, List.map_map]
  apply congrArg some
  have hoctet (b : UInt8) : UInt8.ofNat (Char.ofNat b.toNat).toNat = b := by
    have hb := b.toNat_lt
    have hvalid : b.toNat.isValidChar := .inl (by omega)
    rw [Char.toNat_ofNat, if_pos hvalid, UInt8.ofNat_toNat]
  calc name.map ((fun c : Char => UInt8.ofNat c.toNat) ∘ fun b => Char.ofNat b.toNat)
      = name.map id := List.map_congr_left fun b _ => hoctet b
    _ = name := List.map_id name

lemma ServerCertificateRequest.ofValue_restrict (m : ServerCertificateRequest) :
    ServerCertificateRequest.ofValue (restrict ServerCertificateRequest.schema m.toValue) = some m := by
  have hsignatures : itemsOf SignatureHash.ofValue (restrict (arrayOf SignatureHash.schema 2)
      (.array (m.signatures.map SignatureHash.toValue))) = some m.signatures := by
    apply itemsOf_restrict
    intro s _
    exact s.ofValue_restrict
  have hauthorities : itemsOf nameOf (restrict (arrayOf distinguishedName 2)
      (.array (m.authorities.map nameValue))) = some m.authorities := by
    apply itemsOf_restrict
    intro name _
    rw [nameValue, distinguishedName, restrict, ← nameValue, nameOf_nameValue] <;> simp
  simp [ServerCertificateRequest.schema, ServerCertificateRequest.toValue, restrict, restrictFields,
    Value.get, ServerCertificateRequest.ofValue, hsignatures, hauthorities, uint8, itemsOf_numbers]

lemma ServerHello.ofValue_restrict (m : ServerHello) (h : m.extensions = none) :
    ServerHello.ofValue (restrict ServerHello.schema m.toValue) = some m := by
  obtain ⟨v, r, s, u, c, e⟩ := m
  obtain rfl : e = none := h
  simp [ServerHello.schema, ServerHello.fields, ServerHello.toValue, restrict, restrictFields, Value.get,
    ServerHello.ofValue, bufferOf, bytesOf, uint8, uint16be]

lemma ServerHello.ofValue_restrictWithExtensions (m : ServerHello) {e : List Extension}
    (h : m.extensions = some e) :
    ServerHello.ofValue (restrict ServerHello.schemaWithExtensions m.toValue) = some m := by
  obtain ⟨v, r, s, u, c, e⟩ := m
  obtain rfl := h
  simp [ServerHello.schemaWithExtensions, ServerHello.fields, ServerHello.toValue, restrict,
    restrictFields, Value.get, ServerHello.ofValue, bufferOf, bytesOf, itemsOf_extensions, uint8, uint16be]

/-! ## Messages that are read back -/

/-- The fields of a server hello are written in front of its extensions. -/
lemma ServerHello.encode_withExtensions {m : ServerHello}
    (h : BinaryData.encode m.toValue ServerHello.schemaWithExtensions = .ok bytes) :
    ∃ x y, bytes = x ++ y ∧ y ≠ [] ∧ ServerHello.encode { m with extensions := none } = .ok x := by
  have hfields (context context' : BinaryData.Context) :
      BinaryData.encodeFields fields context m.toValue = BinaryData.encodeFields fields context'
        (ServerHello.toValue { m with extensions := none }) := by
    apply BinaryData.encodeFields_of_areRegular (by decide)
    intro field hfield
    simp only [fields, List.mem_cons, List.not_mem_nil, or_false] at hfield
    rcases hfield with rfl | rfl | rfl | rfl | rfl <;> simp [toValue, Value.get]
  rw [BinaryData.encode, schemaWithExtensions, BinaryData.encodeCommon,
    BinaryData.encodeFields_append] at h
  obtain ⟨x, hx, h⟩ := Except.bind_eq_ok.mp h
  obtain ⟨y, hy, h⟩ := Except.bind_eq_ok.mp h
  obtain ⟨extensions, hextensions, hy⟩ := Except.bind_eq_ok.mp hy
  obtain ⟨nothing, hnothing, hy⟩ := Except.bind_eq_ok.mp hy
  obtain rfl : extensions ++ nothing = y := Except.ok.inj hy
  refine ⟨x, _, (Except.ok.inj h).symm, fun hempty => ?_, (hfields _ _).symm.trans hx⟩
  have hsize := TypeOrSchema.minSize_le hextensions
  rw [(List.append_eq_nil_iff.mp hempty).1] at hsize
  exact absurd hsize (by decide)

lemma ServerHello.encode_of_none {m : ServerHello} (h : m.extensions = none) :
    m.encode = BinaryData.encode m.toValue ServerHello.schema := by
  simp only [ServerHello.encode, h]

lemma ServerHello.encode_of_some {m : ServerHello} {e : List Extension} (h : m.extensions = some e) :
    m.encode = BinaryData.encode m.toValue ServerHello.schemaWithExtensions := by
  simp only [ServerHello.encode, h]

/-- **A server hello** is read back: its extensions make it longer than its other fields. -/
theorem ServerHello.decode_encode {m : ServerHello} (hbytes : m.encode = .ok bytes) :
    ServerHello.decode bytes = some m := by
  have hregular : ServerHello.schema.isRegular = true := by decide
  have hadmits (m : ServerHello) : Admits ServerHello.schema {} {} m.toValue :=
    BinaryData.admits_of_isRegular hregular _ _ _
  cases he : m.extensions with
  | none =>
    have hwrite : BinaryData.encode m.toValue ServerHello.schema = .ok bytes :=
      (ServerHello.encode_of_none he).symm.trans hbytes
    rw [ServerHello.decode, readMessage_encode _ (hadmits m) hwrite, ServerHello.ofValue_restrict m he]
    simp [hbytes, Except.toOption]
  | some e =>
    have hwrite : BinaryData.encode m.toValue ServerHello.schemaWithExtensions = .ok bytes :=
      (ServerHello.encode_of_some he).symm.trans hbytes
    obtain ⟨x, y, rfl, hy, hx⟩ := ServerHello.encode_withExtensions hwrite
    have hread : readMessage ServerHello.schema ServerHello.ofValue (x ++ y) =
        some { m with extensions := none } := by
      have hdecode := (BinaryData.decode_encode (hadmits { m with extensions := none }) hx
        (show x.length ≤ (x ++ y).length + 1 by rw [List.length_append]; omega)).1 y
      rw [readMessage, hdecode]
      exact ServerHello.ofValue_restrict _ rfl
    have hfull : readMessage ServerHello.schemaWithExtensions ServerHello.ofValue (x ++ y) = some m := by
      have hregular : ServerHello.schemaWithExtensions.isRegular = true := by decide
      rw [readMessage_encode _ (BinaryData.admits_of_isRegular hregular _ _ _) hwrite]
      exact ServerHello.ofValue_restrictWithExtensions m he
    have hlonger : x.length < (x ++ y).length := by
      rw [List.length_append]
      exact Nat.lt_add_of_pos_right (List.length_pos_iff.mpr hy)
    rw [ServerHello.decode, hread]
    simp only [hx, Except.toOption, Option.bind_eq_bind, Option.bind_some, hlonger, if_true, hfull]

lemma ServerKeyExchange.admits (m : ServerKeyExchange) :
    Admits ServerKeyExchange.schema {} {} m.toValue := by
  simp [ServerKeyExchange.schema, ServerKeyExchange.toValue, Admits, BinaryData.AdmitsFields, Value.get,
    BinaryData.LengthSpec.Agrees, currentLength, restrict, uint8, uint16be]

/-- Names of seven bits are read back. -/
lemma ascii_decode_encode {name : Bytes} (h : ∀ b ∈ name, b.toNat < 0x80) :
    BinaryData.Encoding.ascii.decode (BinaryData.Encoding.ascii.encode
      (String.ofList (name.map fun b => Char.ofNat b.toNat))) =
      String.ofList (name.map fun b => Char.ofNat b.toNat) := by
  rw [BinaryData.Encoding.ascii]
  dsimp only
  rw [String.toList_ofList, List.flatMap_map, List.map_flatMap]
  apply congrArg String.ofList
  induction name with
  | nil => rfl
  | cons b name ih =>
    have hb := h b List.mem_cons_self
    have hvalid : b.toNat.isValidChar := .inl (by omega)
    have hchar : (Char.ofNat b.toNat).toNat = b.toNat := by rw [Char.toNat_ofNat, if_pos hvalid]
    have hunits : BinaryData.utf16Units (Char.ofNat b.toNat) = [b.toNat] := by
      rw [BinaryData.utf16Units, hchar, if_pos (by omega)]
    have hrest := ih fun b hb => h b (List.mem_cons_of_mem _ hb)
    rw [List.flatMap_cons, List.map_cons, hunits, hrest]
    simp [Nat.mod_eq_of_lt hb]

lemma ServerCertificateRequest.admits {m : ServerCertificateRequest}
    (h : ∀ name ∈ m.authorities, ∀ b ∈ name, b.toNat < 0x80) :
    Admits ServerCertificateRequest.schema {} {} m.toValue := by
  have hauthorities (encoding decoding : BinaryData.Context) :
      Admits (arrayOf distinguishedName 2) encoding decoding (.array (m.authorities.map nameValue)) := by
    refine ⟨trivial, BinaryData.admitsItems_of_forall ?_ _ _⟩
    intro encoding decoding item hitem
    obtain ⟨name, hname, rfl⟩ := List.mem_map.mp hitem
    refine ⟨⟨trivial, ascii_decode_encode (h name hname)⟩, fun _ hempty => ?_⟩
    exact absurd (TypeOrSchema.minSize_le hempty) (by decide)
  have htypes : (arrayOf uint8 1).isRegular = true := by decide
  have hsignatures : (arrayOf SignatureHash.schema 2).isRegular = true := by decide
  exact ⟨BinaryData.admits_of_isRegular htypes _ _ _,
    BinaryData.admits_of_isRegular hsignatures _ _ _, hauthorities _ _, trivial⟩

/-- The names that a certificate request has are of seven bits. -/
def Handshake.HasAsciiNames : Handshake → Prop
  | .serverCertificateRequest m => ∀ name ∈ m.authorities, ∀ b ∈ name, b.toNat < 0x80
  | _ => True

/-- **Messages of the handshake** survive being written and read. -/
theorem Handshake.decode_encode {m : Handshake} (hnames : m.HasAsciiNames)
    (hbytes : m.encode = .ok bytes) : Handshake.decode m.msgType bytes = some m := by
  cases m with
  | clientHello m =>
    have hregular : ClientHello.schema.isRegular = true := by decide
    have hread := readMessage_encode ClientHello.ofValue
      (BinaryData.admits_of_isRegular hregular {} {} m.toValue) hbytes
    exact congrArg (Option.map clientHello) (hread.trans m.ofValue_restrict)
  | serverHelloVerifyRequest m =>
    have hregular : ServerHelloVerifyRequest.schema.isRegular = true := by decide
    have hread := readMessage_encode ServerHelloVerifyRequest.ofValue
      (BinaryData.admits_of_isRegular hregular {} {} m.toValue) hbytes
    exact congrArg (Option.map serverHelloVerifyRequest) (hread.trans m.ofValue_restrict)
  | serverHello m => exact congrArg (Option.map serverHello) (ServerHello.decode_encode hbytes)
  | certificate m =>
    have hregular : Certificate.schema.isRegular = true := by decide
    have hread := readMessage_encode Certificate.ofValue
      (BinaryData.admits_of_isRegular hregular {} {} m.toValue) hbytes
    exact congrArg (Option.map certificate) (hread.trans m.ofValue_restrict)
  | serverKeyExchange m =>
    have hread := readMessage_encode ServerKeyExchange.ofValue m.admits hbytes
    exact congrArg (Option.map serverKeyExchange) (hread.trans m.ofValue_restrict)
  | serverCertificateRequest m =>
    have hread := readMessage_encode ServerCertificateRequest.ofValue
      (ServerCertificateRequest.admits hnames) hbytes
    exact congrArg (Option.map serverCertificateRequest) (hread.trans m.ofValue_restrict)
  | serverHelloDone =>
    obtain rfl : [] = bytes := Except.ok.inj hbytes
    rfl
  | certificateVerify m =>
    have hregular : CertificateVerify.schema.isRegular = true := by decide
    have hread := readMessage_encode CertificateVerify.ofValue
      (BinaryData.admits_of_isRegular hregular {} {} m.toValue) hbytes
    exact congrArg (Option.map certificateVerify) (hread.trans m.ofValue_restrict)
  | clientKeyExchange m =>
    have hregular : ClientKeyExchange.schema.isRegular = true := by decide
    have hread := readMessage_encode ClientKeyExchange.ofValue
      (BinaryData.admits_of_isRegular hregular {} {} m.toValue) hbytes
    exact congrArg (Option.map clientKeyExchange) (hread.trans m.ofValue_restrict)
  | finished verifyData =>
    obtain rfl : verifyData = bytes := Except.ok.inj hbytes
    rfl

/-! ## Values and messages survive -/

/-- **Binary data survives.**  For every schema, a value that can be read back is read back from what has
been written, and what follows is left; `decode` fails for want of bytes on a proper prefix.  All messages
of the handshake survive. -/
theorem binaryData_survives :
    (∀ (schema : TypeOrSchema) (value : Value) (bytes : Bytes) (fuel : ℕ), Admits schema {} {} value →
      BinaryData.encode value schema = .ok bytes → bytes.length ≤ fuel →
      (∀ rest, BinaryData.decode fuel (bytes ++ rest) schema = .ok (restrict schema value, rest)) ∧
      ∀ pre post, bytes = pre ++ post → post ≠ [] → ∃ expected received,
        BinaryData.decode fuel pre schema = .error (.notEnoughData expected received)) ∧
    ∀ (m : Handshake) (bytes : Bytes), m.HasAsciiNames → m.encode = .ok bytes →
      Handshake.decode m.msgType bytes = some m :=
  ⟨fun _ _ _ _ hadmits hbytes hfuel => BinaryData.decode_encode hadmits hbytes hfuel,
    fun _ _ hnames hbytes => Handshake.decode_encode hnames hbytes⟩

/-- A record with a list that is counted in bytes, a text, and a buffer with its length in front. -/
def recordSchema : TypeOrSchema := .schema [("length", uint8),
  ("numbers", arrayOf uint16be 1), ("text", .string (.number 1) .ascii),
  ("bytes", .buffer (.callback (currentLength "length")))]

def recordValue : Value := .object [("length", .number 2), ("numbers", .array [.number 1, .number 258]),
  ("text", .string "ok"), ("bytes", .buffer [7, 8])]

/-- A server hello with an extension. -/
def helloWithExtension : ServerHello :=
  ⟨(254, 253), ⟨1, List.replicate 28 0⟩, [], 0xc02b, 0, some [⟨23, []⟩]⟩

theorem binaryData_survives_record :
    (∀ rest, BinaryData.decode 20 ([2, 4, 0, 1, 1, 2, 2, 111, 107, 7, 8] ++ rest) recordSchema =
      .ok (restrict recordSchema recordValue, rest)) ∧
      ∃ bytes, helloWithExtension.encode = .ok bytes ∧
        Handshake.decode HandshakeType.server_hello_2 bytes = some (.serverHello helloWithExtension) := by
  have hadmits : Admits recordSchema {} {} recordValue := by
    have hnumbers : (arrayOf uint16be 1).isRegular = true := by decide
    refine ⟨trivial, BinaryData.admits_of_isRegular hnumbers _ _ _, ⟨trivial, ?_⟩, rfl, trivial⟩
    decide +kernel
  have hbytes : BinaryData.encode recordValue recordSchema =
      .ok [2, 4, 0, 1, 1, 2, 2, 111, 107, 7, 8] := by decide +kernel
  have hhello : (Handshake.serverHello helloWithExtension).encode = .ok ([254, 253, 0, 0, 0, 1] ++
      List.replicate 28 0 ++ [0, 192, 43, 0, 0, 4, 0, 23, 0, 0]) := by decide +kernel
  exact ⟨(binaryData_survives.1 _ _ _ 20 hadmits hbytes (by decide)).1, _, hhello,
    binaryData_survives.2 (.serverHello helloWithExtension) _ trivial hhello⟩

/-- Items without bytes and characters outside of the encoding are not read back. -/
theorem binaryData_lost :
    BinaryData.encode (.array [.buffer [], .buffer []]) (arrayOf (.buffer (.fixed 0)) 1) = .ok [0] ∧
      BinaryData.decode 2 [0] (arrayOf (.buffer (.fixed 0)) 1) = .ok (.array [], []) ∧
      BinaryData.encode (.string "é") (.string (.number 1) .ascii) = .ok [1, 0xe9] ∧
      BinaryData.decode 2 [1, 0xe9] (.string (.number 1) .ascii) = .ok (.string "i", []) := by
  refine ⟨?_, ?_, ?_, ?_⟩
  · decide +kernel
  · simp only [arrayOf, BinaryData.decode, BinaryData.decodeCommon]
    rfl
  · decide +kernel
  · simp only [BinaryData.decode, BinaryData.decodeCommon]
    rfl

end Werift.Dtls
