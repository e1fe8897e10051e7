import Werift.Stun.Integrity
import Werift.Stun.Layout

/-!
# Signing and reading a message

`addMessageIntegrity` signs all the bytes that a message has at that moment, whereas the parser hashes
what stands in front of the `MESSAGE-INTEGRITY`.  These are the same bytes if the message has no raw
attributes, which are written last, and if it carries neither integrity nor fingerprint yet:
`roundTrips_iff`.
-/

namespace Werift.Stun

/-- A message whose fields have values that can be written and read. -/
structure Message.InRange (m : Message) : Prop extends ValidHeader m where
  nodup : (m.attributes.map Prod.fst).Nodup
  known : ∀ pair ∈ m.attributes, ∃ entry, ATTRIBUTES_BY_NAME pair.1 = some entry ∧
    entry.codec.InRange pair.2
  unknown : ∀ raw ∈ m.rawAttributes, ATTRIBUTES_BY_TYPE raw.type = none

/-- The parsed message is the one that was written. -/
structure SameMessage (m parsed : Message) : Prop where
  messageMethod : parsed.messageMethod = m.messageMethod
  messageClass : parsed.messageClass = m.messageClass
  transactionId : parsed.transactionId = m.transactionId
  attributes : ∀ key, parsed.getAttributeValue key = m.getAttributeValue key
  rawAttributes : (parsed.rawAttributes.map fun raw => (raw.type, raw.value)) =
    m.rawAttributes.map fun raw => (raw.type, raw.value)

/-- After `m.addMessageIntegrity(key)` and `m.addFingerprint()` the message can be written, and
`parseMessage(m.bytes, key)` returns it. -/
def RoundTrips (H : Hmac) (m : Message) (key : Bytes) : Prop :=
  ∃ signed completed bytes parsed, m.addMessageIntegrity H key = some signed ∧
    signed.addFingerprint = some completed ∧ completed.bytes = some bytes ∧
    parseMessage H bytes (some key) = .ok parsed ∧ SameMessage completed parsed

/-- A message that carries none of the attributes that protect it. -/
structure Unsealed (m : Message) : Prop where
  messageIntegrity : .messageIntegrity ∉ m.attributes.map Prod.fst
  messageIntegritySha256 : .messageIntegritySha256 ∉ m.attributes.map Prod.fst
  fingerprint : .fingerprint ∉ m.attributes.map Prod.fst

variable {H : Hmac} {m : Message} {key before body : Bytes} {length : ℕ}

/-! ## Checksums of written messages -/

lemma setBodyLength_headerOf {n : ℕ} {data : Bytes} :
    setBodyLength (headerOf m length ++ body) n = some data ↔
      n < 256 ^ 2 ∧ headerOf m n ++ body = data := by
  have htake : (headerOf m length ++ body).take 2 =
      BigEndian.encode 2 (m.messageMethod ||| m.messageClass) := by
    rw [headerOf, List.append_assoc, List.append_assoc]
    exact List.take_left' (BigEndian.length_encode _ _)
  have hdrop : (headerOf m length ++ body).drop 4 =
      BigEndian.encode 4 COOKIE ++ m.transactionId ++ body := by
    rw [headerOf, List.append_assoc]
    exact List.drop_left' (by simp)
  simp only [setBodyLength, htake, hdrop, Option.bind_eq_bind, Option.bind_eq_some_iff,
    writeUInt16BE_eq_some, Option.pure_def, Option.some.injEq]
  constructor
  · rintro ⟨_, ⟨hn, rfl⟩, rfl⟩
    exact ⟨hn, by simp [headerOf]⟩
  · rintro ⟨hn, rfl⟩
    exact ⟨_, ⟨hn, rfl⟩, by simp [headerOf]⟩

lemma messageIntegrity_headerOf (hm : ValidHeader m) {buf : Bytes} :
    messageIntegrity H (headerOf m length ++ body) key = some buf ↔
      body.length + 24 < 256 ^ 2 ∧ H.digest key (headerOf m (body.length + 24) ++ body) = buf := by
  have hlen : ((headerOf m length ++ body).length : ℤ) - HEADER_LENGTH + INTEGRITY_LENGTH =
      (body.length + 24 : ℕ) := by
    rw [List.length_append, hm.length_headerOf, INTEGRITY_LENGTH]
    push_cast
    ring
  rw [messageIntegrity, hlen]
  simp only [Option.bind_eq_bind, Option.bind_eq_some_iff, setBodyLength_headerOf, Option.pure_def,
    Option.some.injEq]
  constructor
  · rintro ⟨_, ⟨hlt, hdata⟩, hbuf⟩
    exact ⟨hlt, hdata ▸ hbuf⟩
  · rintro ⟨hlt, hbuf⟩
    exact ⟨_, ⟨hlt, rfl⟩, hbuf⟩

lemma messageFingerprint_headerOf (hm : ValidHeader m) {n : ℕ} :
    messageFingerprint (headerOf m length ++ body) = some n ↔ body.length + 8 < 256 ^ 2 ∧
      (crc32 (headerOf m (body.length + 8) ++ body) ^^^ FINGERPRINT_XOR).toNat = n := by
  have hlen : ((headerOf m length ++ body).length : ℤ) - HEADER_LENGTH + FINGERPRINT_LENGTH =
      (body.length + 8 : ℕ) := by
    rw [List.length_append, hm.length_headerOf, FINGERPRINT_LENGTH]
    push_cast
    ring
  rw [messageFingerprint, hlen]
  simp only [Option.bind_eq_bind, Option.bind_eq_some_iff, setBodyLength_headerOf, Option.pure_def,
    Option.some.injEq]
  constructor
  · rintro ⟨_, ⟨hlt, hdata⟩, hn⟩
    exact ⟨hlt, hdata ▸ hn⟩
  · rintro ⟨hlt, hn⟩
    exact ⟨_, ⟨hlt, rfl⟩, hn⟩

/-- The fields of the two attributes that are added. -/
lemma packPair_messageIntegrity (transactionId buf : Bytes) :
    packPair transactionId (.messageIntegrity, .buffer buf) = some (0x0008, buf) := rfl

lemma packPair_fingerprint {transactionId : Bytes} {n : ℕ} {field : ℕ × Bytes} :
    packPair transactionId (.fingerprint, .number n) = some field ↔
      n < 256 ^ 4 ∧ (0x8028, BigEndian.encode 4 n) = field := by
  have hentry : ATTRIBUTES_BY_NAME .fingerprint = some ⟨0x8028, .fingerprint, .unsigned⟩ := rfl
  have hpack : packPair transactionId (.fingerprint, .number n) =
      (Js.writeUInt32BE n).bind fun value => some (0x8028, value) := by
    rw [packPair, hentry, Option.bind_eq_bind, Option.bind_some, Codec.pack]
    rfl
  rw [hpack, Option.bind_eq_some_iff]
  simp only [Js.writeUInt32BE, writeUIntBE_natCast, Option.some.injEq]
  constructor
  · rintro ⟨_, ⟨hlt, hdata⟩, hfield⟩
    exact ⟨hlt, hdata ▸ hfield⟩
  · rintro ⟨hlt, hfield⟩
    exact ⟨_, ⟨hlt, rfl⟩, hfield⟩

/-! ## A message that is not sealed yet -/

section

variable {transactionId : Bytes} {st : ParseState}

/-- Attributes that are no integrity and no fingerprint are read one after the other. -/
lemma parseFields_known {l : List AttributePair} {fields : List (ℕ × Bytes)}
    (hfields : l.mapM (packPair transactionId) = some fields)
    (hrange : ∀ pair ∈ l, ∃ entry, ATTRIBUTES_BY_NAME pair.1 = some entry ∧
      entry.codec.InRange pair.2)
    (hnodup : ((st.attributes ++ l).map Prod.fst).Nodup)
    (hintegrity : .messageIntegrity ∉ l.map Prod.fst)
    (hsha : .messageIntegritySha256 ∉ l.map Prod.fst)
    (hfingerprint : .fingerprint ∉ l.map Prod.fst)
    (hst : ¬ st.Behind) :
    ∃ st', parseFields H (some key) transactionId before fields st = .ok st' ∧
      st'.attributes = st.attributes ++ l ∧ st'.rawAttributes = st.rawAttributes ∧
      ¬ st'.Behind := by
  induction l generalizing before st fields with
  | nil =>
    obtain rfl : fields = [] := by simpa using hfields.symm
    exact ⟨st, rfl, by simp, rfl, hst⟩
  | cons pair l ih =>
    obtain ⟨field, fields, hfield, hrest, rfl⟩ := OptionList.mapM_cons_eq_some.mp hfields
    obtain ⟨⟨entry, hentry, hvalue⟩, hrange⟩ := List.forall_mem_cons.mp hrange
    simp only [List.map_cons, List.mem_cons, not_or] at hintegrity hsha hfingerprint
    obtain ⟨entry', hentry', hname, htype, -, hpack⟩ := packPair_eq_some.mp hfield
    obtain rfl : entry = entry' := Option.some.inj (hentry.symm.trans hentry')
    obtain ⟨data, hpack', hunpack⟩ := Codec.exists_pack hvalue transactionId
    obtain rfl : data = field.2 := Option.some.inj (hpack'.symm.trans hpack)
    have hbehind : ¬ (st.afterKnown entry.name pair.2 true).Behind := by
      simp only [ParseState.Behind, not_or, Bool.not_eq_true] at hst ⊢
      simp [ParseState.afterKnown, hst.1, hst.2, hname, Ne.symm hintegrity.1, Ne.symm hsha.1]
    have hattr : parseAttribute H (some key) transactionId before field.1 field.2 st =
        .ok (st.afterKnown entry.name pair.2 true) := by
      have hskip : st.skips (some entry.name) = false := by
        simp only [ParseState.Behind, not_or, Bool.not_eq_true] at hst
        simp [ParseState.skips, hst.1, hst.2]
      rw [parseAttribute, htype, Option.map_some, if_neg (by simp [hskip]),
        acceptAttribute_known htype]
      exact ⟨pair.2, hunpack, fun h => absurd (hname ▸ h.symm) hfingerprint.1,
        fun h => absurd (hname ▸ h.symm) hintegrity.1, rfl⟩
    have hnew : (st.afterKnown entry.name pair.2 true).attributes = st.attributes ++ [pair] := by
      have hnot : pair.1 ∉ st.attributes.map Prod.fst := by
        rw [List.map_append, List.map_cons] at hnodup
        intro hmem
        exact List.disjoint_of_nodup_append hnodup hmem List.mem_cons_self
      rw [ParseState.afterKnown, hname]
      exact setAttribute_of_not_mem hnot pair.2
    have hnext : ∃ st', parseFields H (some key) transactionId (before ++ partOf field) fields
        (st.afterKnown entry.name pair.2 true) = .ok st' ∧
        st'.attributes = (st.afterKnown entry.name pair.2 true).attributes ++ l ∧
        st'.rawAttributes = st.rawAttributes ∧ ¬ st'.Behind :=
      ih hrest hrange (by simpa [hnew] using hnodup) hintegrity.2 hsha.2 hfingerprint.2 hbehind
    obtain ⟨st', hst', hattrs, hraw, hbehind'⟩ := hnext
    refine ⟨st', ?_, by rw [hattrs, hnew, List.append_assoc]; rfl, hraw, hbehind'⟩
    rw [parseFields, hattr]
    exact hst'

end

/-- A message without raw attributes whose attributes have the given fields. -/
structure Written (m : Message) (known : List (ℕ × Bytes)) : Prop where
  nodup : (m.attributes.map Prod.fst).Nodup
  raw : m.rawAttributes = []
  fields : m.attributes.mapM (packPair m.transactionId) = some known
  fits : ∀ field ∈ known, Fits field
  type : (m.messageMethod ||| m.messageClass) < 256 ^ 2

variable {known : List (ℕ × Bytes)}

lemma Written.bytes (h : Written m known) (hlen : (partsOf known).length < 256 ^ 2) :
    m.bytes = some (headerOf m (partsOf known).length ++ partsOf known) := by
  have hraw : rawFields m = [] := by rw [rawFields, h.raw, List.map_nil]
  refine (bytes_eq_some h.nodup).mpr ⟨known, h.fields, ?_⟩
  rw [hraw, List.append_nil]
  exact ⟨h.fits, h.type, hlen, rfl⟩

/-- A new attribute is written last. -/
lemma Written.setAttribute (h : Written m known) {name : AttributeKey} {value : AttributeValue}
    (hname : name ∉ m.attributes.map Prod.fst) {field : ℕ × Bytes}
    (hfield : packPair m.transactionId (name, value) = some field) (hfits : Fits field) :
    Written (m.setAttribute name value) (known ++ [field]) := by
  have hattrs : (m.setAttribute name value).attributes = m.attributes ++ [(name, value)] :=
    setAttribute_of_not_mem hname value
  refine ⟨nodup_setAttribute h.nodup _ _, h.raw, ?_, ?_, h.type⟩
  · rw [hattrs]
    exact OptionList.mapM_append_eq_some.mpr ⟨known, [field], h.fields,
      OptionList.mapM_cons_eq_some.mpr ⟨field, [], hfield, rfl, rfl⟩, rfl⟩
  · exact fun f hf => (List.mem_append.mp hf).elim (h.fits f) fun hf =>
      List.mem_singleton.mp hf ▸ hfits

/-- The part of an integrity, and the part of a fingerprint. -/
lemma length_partOf_integrity {v : Bytes} (hv : v.length = 20) :
    (partOf (0x0008, v)).length = 24 := by
  rw [length_partOf, hv]
  rfl

lemma length_partOf_fingerprint (n : ℕ) :
    (partOf (0x8028, BigEndian.encode 4 n)).length = 8 := by
  rw [length_partOf, BigEndian.length_encode]
  rfl

/-- The integrity of a written message is accepted behind its parts. -/
lemma parseAttribute_integrity (hm : ValidHeader m) {st : ParseState} (hst : ¬ st.Behind)
    (hlen : (partsOf known).length + 24 < 256 ^ 2) (length : ℕ) :
    parseAttribute H (some key) m.transactionId (headerOf m length ++ partsOf known) 0x0008
      (H.digest key (headerOf m ((partsOf known).length + 24) ++ partsOf known)) st =
    .ok (st.afterKnown .messageIntegrity (.buffer
      (H.digest key (headerOf m ((partsOf known).length + 24) ++ partsOf known))) true) := by
  have hskip : st.skips (some .messageIntegrity) = false := by
    simp only [ParseState.Behind, not_or, Bool.not_eq_true] at hst
    simp [ParseState.skips, hst.1, hst.2]
  have hentry : ATTRIBUTES_BY_TYPE 0x0008 = some ⟨0x0008, .messageIntegrity, .bytes⟩ := rfl
  rw [parseAttribute, hentry, Option.map_some, if_neg (by simp [hskip]),
    acceptAttribute_known hentry]
  refine ⟨_, rfl, fun h => absurd h (by simp), fun _ key' hkey => ⟨_, ?_, rfl⟩, rfl⟩
  obtain rfl := Option.some.inj hkey
  exact (messageIntegrity_headerOf hm).mpr ⟨hlen, rfl⟩

/-- The fingerprint of a written message is accepted behind its parts. -/
lemma parseAttribute_fingerprint {before : Bytes} {n : ℕ} (hn : messageFingerprint before = some n)
    (hlt : n < 256 ^ 4) (transactionId : Bytes) (st : ParseState) :
    parseAttribute H (some key) transactionId before 0x8028 (BigEndian.encode 4 n) st =
      .ok (st.afterKnown .fingerprint (.number n) true) := by
  have hskip : st.skips (some .fingerprint) = false := by simp [ParseState.skips]
  have hentry : ATTRIBUTES_BY_TYPE 0x8028 = some ⟨0x8028, .fingerprint, .unsigned⟩ := rfl
  have hread : Js.readUInt32BE (BigEndian.encode 4 n) 0 = some (n : ℤ) := by
    have := Js.readUIntBE_append (writeUIntBE_natCast.mpr ⟨hlt, rfl⟩) [] []
    simpa [Js.readUInt32BE] using this
  rw [parseAttribute, hentry, Option.map_some, if_neg (by simp [hskip]),
    acceptAttribute_known hentry]
  refine ⟨.number n, ?_, fun _ => ⟨n, hn, rfl⟩, fun h => absurd h (by simp), rfl⟩
  rw [Codec.unpack, hread]
  rfl

/-- The two attributes that seal a written message are accepted one after the other. -/
lemma parseFields_sealed (hm : ValidHeader m) {st : ParseState} (hst : ¬ st.Behind) {v : Bytes}
    {n : ℕ} (hlen : (partsOf known).length + 24 < 256 ^ 2)
    (hv : v = H.digest key (headerOf m ((partsOf known).length + 24) ++ partsOf known))
    (hn : messageFingerprint (headerOf m length ++ partsOf (known ++ [(0x0008, v)])) = some n)
    (hlt : n < 256 ^ 4) (length' : ℕ) :
    parseFields H (some key) m.transactionId (headerOf m length' ++ partsOf known)
        [(0x0008, v), (0x8028, BigEndian.encode 4 n)] st =
      .ok ((st.afterKnown .messageIntegrity (.buffer v) true).afterKnown .fingerprint (.number n)
        true) := by
  subst hv
  have hfp : messageFingerprint (headerOf m length' ++ partsOf (known ++ [(0x0008,
      H.digest key (headerOf m ((partsOf known).length + 24) ++ partsOf known))])) = some n :=
    (messageFingerprint_headerOf hm).mpr ((messageFingerprint_headerOf hm).mp hn)
  rw [partsOf_append, partsOf_cons, partsOf_nil, List.append_nil, ← List.append_assoc] at hfp
  rw [parseFields, parseAttribute_integrity hm hst hlen]
  simp only [bind, Except.bind, parseFields]
  rw [parseAttribute_fingerprint hfp hlt]

/-- **Round trip.**  A message without raw attributes that is not sealed yet is sealed and read
back, if there is room for the two attributes. -/
lemma roundTrips_of_unsealed (hm : m.InRange) (hraw : m.rawAttributes = []) (hun : Unsealed m)
    {bytes : Bytes} (hbytes : m.bytes = some bytes) (hroom : bytes.length + 32 < 20 + 256 ^ 2) :
    RoundTrips H m key := by
  have hheader := hm.toValidHeader
  obtain ⟨known, hwritten, hlen⟩ : ∃ known, Written m known ∧
      (partsOf known).length + 32 < 256 ^ 2 := by
    obtain ⟨known, hknown, hfits, htype, -, rfl⟩ := (bytes_eq_some hm.nodup).mp hbytes
    have hno : rawFields m = [] := by rw [rawFields, hraw, List.map_nil]
    rw [hno, List.append_nil] at hroom hfits
    rw [List.length_append, hheader.length_headerOf, HEADER_LENGTH] at hroom
    exact ⟨known, ⟨hm.nodup, hraw, hknown, hfits, htype⟩, by omega⟩
  set v := H.digest key (headerOf m ((partsOf known).length + 24) ++ partsOf known) with hv
  have hvlen : v.length = 20 := H.length_digest _ _
  -- the signed message
  have hsigned : m.addMessageIntegrity H key =
      some (m.setAttribute .messageIntegrity (.buffer v)) := by
    have hintegrity : m.messageIntegrity H key = some v := by
      rw [Message.messageIntegrity, hwritten.bytes (by omega)]
      exact (messageIntegrity_headerOf hheader).mpr ⟨by omega, rfl⟩
    rw [Message.addMessageIntegrity, hintegrity]
    rfl
  have hwritten₁ := hwritten.setAttribute hun.messageIntegrity
    (packPair_messageIntegrity m.transactionId v) ⟨by norm_num, by norm_num [hvlen]⟩
  have hlen₁ : (partsOf (known ++ [(0x0008, v)])).length = (partsOf known).length + 24 := by
    rw [partsOf_append, List.length_append, partsOf_cons, partsOf_nil, List.append_nil,
      length_partOf_integrity hvlen]
  -- the completed message
  obtain ⟨n, hn⟩ : ∃ n, messageFingerprint (headerOf m (partsOf (known ++ [(0x0008, v)])).length ++
      partsOf (known ++ [(0x0008, v)])) = some n :=
    ⟨_, (messageFingerprint_headerOf hheader).mpr ⟨by omega, rfl⟩⟩
  have hlt : n < 256 ^ 4 := by
    obtain ⟨-, rfl⟩ := (messageFingerprint_headerOf hheader).mp hn
    exact UInt32.toNat_lt _
  have hcompleted : (m.setAttribute .messageIntegrity (.buffer v)).addFingerprint =
      some ((m.setAttribute .messageIntegrity (.buffer v)).setAttribute .fingerprint (.number n)) := by
    have hhead : headerOf (m.setAttribute .messageIntegrity (.buffer v)) = headerOf m := rfl
    rw [Message.addFingerprint, hwritten₁.bytes (by omega), Option.bind_eq_bind, Option.bind_some,
      hhead, hn]
    rfl
  have hnew : .fingerprint ∉ ((m.setAttribute .messageIntegrity (.buffer v)).attributes.map
      Prod.fst) := by
    rw [Message.setAttribute, setAttribute_of_not_mem hun.messageIntegrity]
    simpa using hun.fingerprint
  have hwritten₂ := hwritten₁.setAttribute hnew (packPair_fingerprint.mpr ⟨hlt, rfl⟩)
    ⟨by norm_num, by norm_num⟩
  have hlen₂ : (partsOf (known ++ [(0x0008, v)] ++ [(0x8028, BigEndian.encode 4 n)])).length =
      (partsOf known).length + 32 := by
    rw [partsOf_append, List.length_append, hlen₁, partsOf_cons, partsOf_nil, List.append_nil,
      length_partOf_fingerprint]
  -- the parsed message
  set head := headerOf m
    (partsOf (known ++ [(0x0008, v)] ++ [(0x8028, BigEndian.encode 4 n)])).length with hhead
  have hknown : ∃ st, parseFields H (some key) m.transactionId head known {} = .ok st ∧
      st.attributes = [] ++ m.attributes ∧ st.rawAttributes = [] ∧ ¬ st.Behind :=
    parseFields_known hwritten.fields hm.known (by simpa using hm.nodup) hun.messageIntegrity
      hun.messageIntegritySha256 hun.fingerprint (by simp [ParseState.Behind])
  obtain ⟨st, hst, hattrs, hraws, hbehind⟩ := hknown
  have hparse : parseFields H (some key) m.transactionId head
      (known ++ [(0x0008, v)] ++ [(0x8028, BigEndian.encode 4 n)]) {} =
      .ok ((st.afterKnown .messageIntegrity (.buffer v) true).afterKnown .fingerprint (.number n)
        true) := by
    rw [List.append_assoc, parseFields_append, hst]
    exact parseFields_sealed hheader hbehind (by omega) hv hn hlt _
  refine ⟨_, _, _, _, hsigned, hcompleted, hwritten₂.bytes (by omega),
    (ValidHeader.parseMessage ⟨hheader.messageMethod, hheader.messageClass, hheader.transactionId⟩
      hwritten₂.fits (by omega)).mpr ⟨_, hparse, fun _ => ?_, rfl⟩, ⟨rfl, rfl, rfl, ?_, ?_⟩⟩
  · simp [ParseState.afterKnown]
  · intro name
    simp only [Message.getAttributeValue, Message.setAttribute, ParseState.afterKnown, hattrs,
      List.nil_append]
  · simp [ParseState.afterKnown, hraws, hraw, Message.setAttribute]

/-! ## Unsigned messages -/

/-- A message that has been read has a header that can be written. -/
lemma validHeader_of_parseMessage {data : Bytes} {integrityKey : Option Bytes}
    (h : parseMessage H data integrityKey = .ok m) : ValidHeader m := by
  obtain ⟨hstun, messageType, st, -, -, -, rfl⟩ := parseMessage_eq_ok.mp h
  have hlength : HEADER_LENGTH ≤ data.length := by
    simp only [isStunMessage, Bool.and_eq_true, decide_eq_true_eq] at hstun
    exact hstun.1.1.1
  refine ⟨Nat.and_assoc _ _ _, Nat.and_assoc _ _ _, ?_⟩
  simp only [Js.slice, List.length_take, List.length_drop, HEADER_LENGTH] at hlength ⊢
  omega

/-- Fields among which there is no integrity do not verify a message. -/
lemma verified_parseFields {integrityKey : Option Bytes} {transactionId : Bytes}
    {fields : List (ℕ × Bytes)} {st st' : ParseState} (hfields : ∀ field ∈ fields, field.1 ≠ 0x0008)
    (h : parseFields H integrityKey transactionId before fields st = .ok st') :
    st'.messageIntegrityVerified = st.messageIntegrityVerified := by
  induction fields generalizing before st with
  | nil =>
    obtain rfl := Except.ok.inj h
    rfl
  | cons field fields ih =>
    rw [List.forall_mem_cons] at hfields
    rw [parseFields] at h
    obtain ⟨next, hnext, h⟩ := except_bind_eq_ok.mp h
    rw [ih hfields.2 h, verified_parseAttribute hfields.1 hnext]

/-- **Unsigned messages.**  A message without an integrity is not accepted with a key. -/
theorem parseMessage_unsigned (hm : ValidHeader m) (hnodup : (m.attributes.map Prod.fst).Nodup)
    (hraw : m.rawAttributes = []) (hunsigned : .messageIntegrity ∉ m.attributes.map Prod.fst)
    {data : Bytes} (hdata : m.bytes = some data) (parsed : Message) :
    parseMessage H data (some key) ≠ .ok parsed := by
  intro hparsed
  obtain ⟨known, hknown, hfits, -, hlen, rfl⟩ := (bytes_eq_some hnodup).mp hdata
  rw [rawFields, hraw, List.map_nil, List.append_nil] at hfits hlen hparsed
  obtain ⟨st, hst, hverified, -⟩ := (hm.parseMessage hfits hlen).mp hparsed
  have hfields : ∀ field ∈ known, field.1 ≠ 0x0008 := by
    intro field hfield htype
    obtain ⟨pair, hpair, hpacked⟩ := OptionList.exists_of_mem_mapM hknown hfield
    obtain ⟨entry, -, hname, hentry, -⟩ := packPair_eq_some.mp hpacked
    have hintegrity : ATTRIBUTES_BY_TYPE 0x0008 = some ⟨0x0008, .messageIntegrity, .bytes⟩ := rfl
    obtain rfl := Option.some.inj (hintegrity.symm.trans (htype ▸ hentry))
    exact hunsigned (List.mem_map.mpr ⟨pair, hpair, hname.symm⟩)
  rw [verified_parseFields hfields hst] at hverified
  exact absurd (hverified rfl) (by decide)

end Werift.Stun
