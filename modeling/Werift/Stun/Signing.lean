import Werift.Stun.RoundTrip

/-!
# Which messages survive signing

The parser reads what stands in front of the `MESSAGE-INTEGRITY`, so a message with raw attributes,
which are written behind it, is not read back.  A message that was signed before keeps the place of
its old integrity, and the new one covers bytes that the parser does not hash.
-/

namespace Werift.Stun

variable {H : Hmac} {m : Message} {key before transactionId : Bytes} {st st' : ParseState}

/-! ## In front of the integrity -/

/-- A known attribute other than `MESSAGE-INTEGRITY` does not verify and is not raw. -/
lemma front_parseAttribute {attrType : ℕ} {payload : Bytes} {entry : ATTRIBUTE}
    (hentry : ATTRIBUTES_BY_TYPE attrType = some entry) (hname : entry.name ≠ .messageIntegrity)
    (h : parseAttribute H (some key) transactionId before attrType payload st = .ok st') :
    st'.rawAttributes = st.rawAttributes ∧
      st'.messageIntegrityVerified = st.messageIntegrityVerified ∧
      (entry.name = .messageIntegritySha256 → st'.Behind) := by
  rw [parseAttribute, hentry, Option.map_some] at h
  split_ifs at h with hskip
  · obtain rfl := Except.ok.inj h
    refine ⟨rfl, rfl, fun _ => ?_⟩
    simp only [ParseState.skips, Bool.or_eq_true, Bool.and_eq_true] at hskip
    exact hskip.symm.imp (fun hsaw => hsaw.1.1) fun hsaw => hsaw.1
  · obtain ⟨value, -, -, -, rfl⟩ := (acceptAttribute_known hentry).mp h
    exact ⟨rfl, by simp [ParseState.afterKnown, hname], fun hsha =>
      Or.inr (by simp [ParseState.afterKnown, hsha])⟩

lemma kept_parseFields {fields : List (ℕ × Bytes)} (hst : st.Behind)
    (h : parseFields H (some key) transactionId before fields st = .ok st') :
    Kept st st' ∧ st'.Behind := by
  induction fields generalizing before st with
  | nil =>
    obtain rfl := Except.ok.inj h
    exact ⟨Kept.refl st, hst⟩
  | cons field fields ih =>
    obtain ⟨st₁, hattr, hrest⟩ := except_bind_eq_ok.mp h
    obtain ⟨hkept, hbehind⟩ := kept_parseAttribute hst hattr
    exact (ih hbehind hrest).imp_left hkept.trans

/-- The fields of known attributes other than `MESSAGE-INTEGRITY` do not verify and are not raw. -/
lemma front_parseFields {l : List AttributePair} {fields : List (ℕ × Bytes)}
    (hfields : l.mapM (packPair transactionId) = some fields)
    (hl : .messageIntegrity ∉ l.map Prod.fst)
    (h : parseFields H (some key) transactionId before fields st = .ok st') :
    st'.rawAttributes = st.rawAttributes ∧
      st'.messageIntegrityVerified = st.messageIntegrityVerified ∧
      (.messageIntegritySha256 ∈ l.map Prod.fst → st'.Behind) := by
  induction l generalizing before st fields with
  | nil =>
    obtain rfl : fields = [] := by simpa using hfields.symm
    obtain rfl := Except.ok.inj h
    exact ⟨rfl, rfl, by simp⟩
  | cons pair l ih =>
    obtain ⟨field, fields, hfield, hrest, rfl⟩ := OptionList.mapM_cons_eq_some.mp hfields
    obtain ⟨entry, -, hname, htype, -, -⟩ := packPair_eq_some.mp hfield
    simp only [List.map_cons, List.mem_cons, not_or] at hl
    obtain ⟨st₁, hattr, hst'⟩ := except_bind_eq_ok.mp h
    obtain ⟨hraw₁, hverified₁, hsha₁⟩ := front_parseAttribute htype
      (fun heq => hl.1 (heq.symm.trans hname)) hattr
    obtain ⟨hraw, hverified, hsha⟩ := ih hrest hl.2 hst'
    refine ⟨hraw.trans hraw₁, hverified.trans hverified₁, fun hmem => ?_⟩
    rcases List.mem_cons.mp hmem with heq | hmem
    · exact (kept_parseFields (hsha₁ (hname.trans heq.symm)) hst').2
    · exact hsha hmem

/-- **Verification.**  A parsed message whose attributes are `l₁`, the integrity `v` and `l₂` has no
raw attributes, and `v` is the HMAC of the bytes in front of it. -/
lemma verified_parseMessage (hm : ValidHeader m) {l₁ l₂ : List AttributePair} {v bytes : Bytes}
    {parsed : Message} (hattrs : m.attributes = l₁ ++ (.messageIntegrity, .buffer v) :: l₂)
    (hnodup : (m.attributes.map Prod.fst).Nodup) (hbytes : m.bytes = some bytes)
    (hparsed : parseMessage H bytes (some key) = .ok parsed) :
    parsed.rawAttributes = [] ∧ .messageIntegritySha256 ∉ l₁.map Prod.fst ∧
      ∃ front, l₁.mapM (packPair m.transactionId) = some front ∧
        H.digest key (headerOf m ((partsOf front).length + 24) ++ partsOf front) = v := by
  have hl₁ : .messageIntegrity ∉ l₁.map Prod.fst := by
    intro hmem
    rw [hattrs, List.map_append, List.map_cons] at hnodup
    exact List.disjoint_of_nodup_append hnodup hmem List.mem_cons_self
  obtain ⟨known, hknown, hfits, -, hlen, rfl⟩ := (bytes_eq_some hnodup).mp hbytes
  rw [hattrs, OptionList.mapM_append_eq_some] at hknown
  obtain ⟨front, _, hfront, hknown, rfl⟩ := hknown
  obtain ⟨_, back, hfield, -, rfl⟩ := OptionList.mapM_cons_eq_some.mp hknown
  obtain rfl := Option.some.inj (hfield.symm.trans (packPair_messageIntegrity _ v))
  obtain ⟨st, hst, hverified, rfl⟩ := (hm.parseMessage hfits hlen).mp hparsed
  rw [List.append_assoc, parseFields_append] at hst
  obtain ⟨st₁, hst₁, hst⟩ := except_bind_eq_ok.mp hst
  obtain ⟨st₂, hst₂, hst⟩ := except_bind_eq_ok.mp hst
  obtain ⟨hraw₁, hverified₁, hsha₁⟩ := front_parseFields hfront hl₁ hst₁
  have hkept := (kept_parseFields (behind_parseAttribute hst₂) hst).1
  have hverified₂ : st₂.messageIntegrityVerified = true := hkept.verified ▸ hverified rfl
  have hentry : ATTRIBUTES_BY_TYPE 0x0008 = some ⟨0x0008, .messageIntegrity, .bytes⟩ := rfl
  rw [parseAttribute, hentry, Option.map_some] at hst₂
  split_ifs at hst₂ with hskip
  · obtain rfl := Except.ok.inj hst₂
    rw [hverified₁] at hverified₂
    cases hverified₂
  · obtain ⟨value, hvalue, -, hintegrity, rfl⟩ := (acceptAttribute_known hentry).mp hst₂
    obtain rfl : AttributeValue.buffer v = value := Option.some.inj hvalue
    obtain ⟨buf, hbuf, heq⟩ := hintegrity rfl key rfl
    obtain rfl : v = buf := AttributeValue.buffer.inj heq
    refine ⟨hkept.rawAttributes.trans hraw₁, fun hmem => hskip ?_, front, hfront,
      ((messageIntegrity_headerOf hm).mp hbuf).2⟩
    rcases hsha₁ hmem with hsaw | hsaw
    · simp [ParseState.skips, hsaw]
    · simp [ParseState.skips, hsaw]

/-! ## The attributes of a sealed message -/

/-- Where `setAttribute` puts a value. -/
lemma exists_setAttribute {l : List AttributePair} (hl : (l.map Prod.fst).Nodup)
    (name : AttributeKey) : ∃ l₁ l₂, name ∉ l₁.map Prod.fst ∧
      (∀ value, setAttribute l name value = l₁ ++ (name, value) :: l₂) ∧
      (l = l₁ ∧ l₂ = [] ∨ ∃ old, l = l₁ ++ (name, old) :: l₂) := by
  by_cases hmem : name ∈ l.map Prod.fst
  · obtain ⟨⟨name', old⟩, hpair, heq⟩ := List.mem_map.mp hmem
    obtain rfl : name = name' := heq.symm
    obtain ⟨l₁, l₂, rfl⟩ := List.append_of_mem hpair
    have hl₁ : name ∉ l₁.map Prod.fst := by
      intro hmem
      rw [List.map_append, List.map_cons] at hl
      exact List.disjoint_of_nodup_append hl hmem List.mem_cons_self
    refine ⟨l₁, l₂, hl₁, fun value => ?_, Or.inr ⟨old, rfl⟩⟩
    rw [setAttribute_append_of_not_mem hl₁, setAttribute, if_pos rfl]
  · exact ⟨l, [], hmem, fun value => setAttribute_of_not_mem hmem value, Or.inl ⟨rfl, rfl⟩⟩

/-- A new fingerprint changes four bytes. -/
lemma packed_fingerprint {l : List AttributePair} {known : List (ℕ × Bytes)}
    (hl : (l.map Prod.fst).Nodup) (hknown : l.mapM (packPair transactionId) = some known)
    (hmem : .fingerprint ∈ l.map Prod.fst) : ∃ k₁ k₂ old, known = k₁ ++ (0x8028, old) :: k₂ ∧
      old.length = 4 ∧ ∀ n fields, (setAttribute l .fingerprint (.number n)).mapM
        (packPair transactionId) = some fields → n < 256 ^ 4 ∧
          fields = k₁ ++ (0x8028, BigEndian.encode 4 n) :: k₂ := by
  obtain ⟨l₁, l₂, hl₁, hset, ⟨rfl, -⟩ | ⟨old, rfl⟩⟩ := exists_setAttribute hl .fingerprint
  · exact absurd hmem hl₁
  · obtain ⟨k₁, _, hk₁, hrest, rfl⟩ := OptionList.mapM_append_eq_some.mp hknown
    obtain ⟨⟨type, value⟩, k₂, hfield, hk₂, rfl⟩ := OptionList.mapM_cons_eq_some.mp hrest
    obtain ⟨entry, hentry, -, -, rfl, hpack⟩ := packPair_eq_some.mp hfield
    obtain rfl := Option.some.inj (hentry.symm.trans
      (rfl : ATTRIBUTES_BY_NAME .fingerprint = some ⟨0x8028, .fingerprint, .unsigned⟩))
    refine ⟨k₁, k₂, value, rfl, ?_, fun n fields hfields => ?_⟩
    · obtain ⟨n, hvalue⟩ : ∃ n : ℤ, Js.writeUInt32BE n = some value := by
        cases old with
        | number n => exact ⟨n, hpack⟩
        | _ => cases hpack
      obtain ⟨-, -, rfl⟩ := Js.writeUIntBE_eq_some.mp hvalue
      exact BigEndian.length_encode _ _
    · rw [hset, OptionList.mapM_append_eq_some] at hfields
      obtain ⟨_, _, hk₁', hrest', rfl⟩ := hfields
      obtain ⟨_, _, hfield', hk₂', rfl⟩ := OptionList.mapM_cons_eq_some.mp hrest'
      obtain ⟨hlt, rfl⟩ := packPair_fingerprint.mp hfield'
      obtain rfl := Option.some.inj (hk₁.symm.trans hk₁')
      obtain rfl := Option.some.inj (hk₂.symm.trans hk₂')
      exact ⟨hlt, rfl⟩

/-! ## A message that is read back -/

/-- `m` is signed with the integrity `v` and the fingerprint `n`, and then read back. -/
structure ReadBack (H : Hmac) (m : Message) (key v : Bytes) (n : ℕ) : Prop where
  integrity : m.messageIntegrity H key = some v
  fingerprint : ∃ data, (m.setAttribute .messageIntegrity (.buffer v)).bytes = some data ∧
    messageFingerprint data = some n
  read : ∃ bytes parsed, ((m.setAttribute .messageIntegrity (.buffer v)).setAttribute .fingerprint
      (.number n)).bytes = some bytes ∧ parseMessage H bytes (some key) = .ok parsed ∧
    parsed.rawAttributes.length = m.rawAttributes.length

lemma RoundTrips.readBack (h : RoundTrips H m key) : ∃ v n, ReadBack H m key v n := by
  obtain ⟨signed, completed, bytes, parsed, hsigned, hcompleted, hbytes, hparsed, hsame⟩ := h
  simp only [Message.addMessageIntegrity, Option.bind_eq_bind, Option.bind_eq_some_iff,
    Option.pure_def, Option.some.injEq] at hsigned
  obtain ⟨v, hv, rfl⟩ := hsigned
  simp only [Message.addFingerprint, Option.bind_eq_bind, Option.bind_eq_some_iff, Option.pure_def,
    Option.some.injEq] at hcompleted
  obtain ⟨data, hdata, n, hn, rfl⟩ := hcompleted
  have hraw := congrArg List.length hsame.rawAttributes
  rw [List.length_map, List.length_map] at hraw
  exact ⟨v, n, hv, ⟨data, hdata, hn⟩, bytes, parsed, hbytes, hparsed, hraw⟩

/-- The attributes in front of the integrity, once the fingerprint has been set. -/
def frontOf (l : List AttributePair) (n : ℕ) : List AttributePair :=
  if .fingerprint ∈ l.map Prod.fst then setAttribute l .fingerprint (.number n) else l

/-- The attributes of a sealed message. -/
lemma exists_sealed (hm : (m.attributes.map Prod.fst).Nodup) (v : Bytes) (n : ℕ) :
    ∃ l₁ l₂ back, .messageIntegrity ∉ l₁.map Prod.fst ∧
      (m.attributes = l₁ ∧ l₂ = [] ∨ ∃ old, m.attributes = l₁ ++ (.messageIntegrity, old) :: l₂) ∧
      ((m.setAttribute .messageIntegrity (.buffer v)).setAttribute .fingerprint
        (.number n)).attributes = frontOf l₁ n ++ (.messageIntegrity, .buffer v) :: back := by
  obtain ⟨l₁, l₂, hl₁, hset, hl⟩ := exists_setAttribute hm .messageIntegrity
  by_cases hmem : .fingerprint ∈ l₁.map Prod.fst
  · refine ⟨l₁, l₂, l₂, hl₁, hl, ?_⟩
    rw [Message.setAttribute, Message.setAttribute, hset, setAttribute_append hmem, frontOf,
      if_pos hmem]
  · refine ⟨l₁, l₂, setAttribute l₂ .fingerprint (.number n), hl₁, hl, ?_⟩
    rw [Message.setAttribute, Message.setAttribute, hset, setAttribute_append_of_not_mem hmem,
      frontOf, if_neg hmem, setAttribute, if_neg (by simp)]

variable {v : Bytes} {n : ℕ}

/-- A message that is read back has no raw attributes, and the bytes in front of its integrity are
hashed to `v`. -/
lemma ReadBack.front (hm : m.InRange) (h : ReadBack H m key v n) : m.rawAttributes = [] ∧
    ∃ l₁ l₂ front, .messageIntegrity ∉ l₁.map Prod.fst ∧
      (m.attributes = l₁ ∧ l₂ = [] ∨ ∃ old, m.attributes = l₁ ++ (.messageIntegrity, old) :: l₂) ∧
      .messageIntegritySha256 ∉ (frontOf l₁ n).map Prod.fst ∧
      (frontOf l₁ n).mapM (packPair m.transactionId) = some front ∧
      H.digest key (headerOf m ((partsOf front).length + 24) ++ partsOf front) = v := by
  obtain ⟨bytes, parsed, hbytes, hparsed, hraw⟩ := h.read
  obtain ⟨l₁, l₂, back, hl₁, hl, hattrs⟩ := exists_sealed hm.nodup v n
  have hheader : ValidHeader ((m.setAttribute .messageIntegrity (.buffer v)).setAttribute
      .fingerprint (.number n)) := ⟨hm.messageMethod, hm.messageClass, hm.transactionId⟩
  have hnodup := nodup_setAttribute (nodup_setAttribute hm.nodup .messageIntegrity (.buffer v))
    .fingerprint (.number n)
  obtain ⟨hnil, hsha, front, hfront, hdigest⟩ :=
    verified_parseMessage hheader hattrs hnodup hbytes hparsed
  refine ⟨?_, l₁, l₂, front, hl₁, hl, hsha, hfront, hdigest⟩
  rwa [hnil, List.length_nil, eq_comm, List.length_eq_zero_iff] at hraw

/-- The message that is signed, and its integrity. -/
lemma ReadBack.written (hm : m.InRange) (h : ReadBack H m key v n) : ∃ known, Written m known ∧
    (partsOf known).length + 24 < 256 ^ 2 ∧
    H.digest key (headerOf m ((partsOf known).length + 24) ++ partsOf known) = v := by
  have hv := h.integrity
  simp only [Message.messageIntegrity, Option.bind_eq_bind, Option.bind_eq_some_iff] at hv
  obtain ⟨bytes, hbytes, hv⟩ := hv
  obtain ⟨known, hknown, hfits, htype, -, rfl⟩ := (bytes_eq_some hm.nodup).mp hbytes
  have hno : rawFields m = [] := by rw [rawFields, (h.front hm).1, List.map_nil]
  rw [hno, List.append_nil] at hfits hv
  obtain ⟨hlen, hdigest⟩ := (messageIntegrity_headerOf hm.toValidHeader).mp hv
  exact ⟨known, ⟨hm.nodup, (h.front hm).1, hknown, hfits, htype⟩, hlen, hdigest⟩

/-! ## A hash that tells one input from the others -/

/-- A hash whose last byte tells whether the input is `marked`. -/
def Hmac.marking (marked : Bytes) (b : UInt8) : Hmac where
  digest _ data := List.replicate 19 0 ++ [if data = marked then b else b + 1]
  length_digest _ _ := rfl

lemma Hmac.marking_inj {marked data : Bytes} {b : UInt8}
    (h : (Hmac.marking marked b).digest key data = (Hmac.marking marked b).digest key marked) :
    data = marked := by
  by_contra hne
  simp only [Hmac.marking, if_neg hne, if_true, List.append_cancel_left_eq, List.cons.injEq,
    and_true, add_eq_left] at h
  exact absurd h (by decide)

/-- The hash of the marked input. -/
lemma Hmac.digest_marking (marked : Bytes) (b : UInt8) :
    (Hmac.marking marked b).digest key marked = List.replicate 19 0 ++ [b] := by
  simp [Hmac.marking]

lemma keys_frontOf (l : List AttributePair) (n : ℕ) :
    (frontOf l n).map Prod.fst = l.map Prod.fst := by
  unfold frontOf
  split_ifs with hmem
  · exact keys_setAttribute hmem _
  · rfl

/-- A new fingerprint does not change how long the attributes in front of the integrity are. -/
lemma length_frontOf {l : List AttributePair} {known front : List (ℕ × Bytes)}
    (hl : (l.map Prod.fst).Nodup) (hknown : l.mapM (packPair transactionId) = some known)
    (hfront : (frontOf l n).mapM (packPair transactionId) = some front) :
    (partsOf front).length = (partsOf known).length := by
  unfold frontOf at hfront
  split_ifs at hfront with hmem
  · obtain ⟨k₁, k₂, old, rfl, hold, hset⟩ := packed_fingerprint hl hknown hmem
    obtain ⟨-, rfl⟩ := hset n front hfront
    simp only [partsOf_append, partsOf_cons, List.length_append, length_partOf, hold,
      BigEndian.length_encode]
  · rw [Option.some.inj (hknown.symm.trans hfront)]

/-- **Signed bytes.**  If the hash marks the bytes that were signed, they are the bytes in front of
the integrity, which therefore is new and last. -/
lemma ReadBack.signed (hm : m.InRange) {known : List (ℕ × Bytes)} (hknown : Written m known)
    {b : UInt8} (h : ReadBack (Hmac.marking
      (headerOf m ((partsOf known).length + 24) ++ partsOf known) b) m key v n) :
    v = List.replicate 19 0 ++ [b] ∧ .messageIntegrity ∉ m.attributes.map Prod.fst ∧
      .messageIntegritySha256 ∉ m.attributes.map Prod.fst ∧
      ∃ front, (frontOf m.attributes n).mapM (packPair m.transactionId) = some front ∧
        partsOf front = partsOf known := by
  obtain ⟨known', hknown', -, hv⟩ := h.written hm
  obtain rfl := Option.some.inj (hknown.fields.symm.trans hknown'.fields)
  obtain ⟨-, l₁, l₂, front, hl₁, hl, hsha, hfront, hdigest⟩ := h.front hm
  have hbytes : headerOf m ((partsOf front).length + 24) ++ partsOf front =
      headerOf m ((partsOf known).length + 24) ++ partsOf known :=
    Hmac.marking_inj (hdigest.trans hv.symm)
  have hparts : partsOf front = partsOf known := by
    refine (List.append_inj hbytes ?_).2
    rw [hm.length_headerOf, hm.length_headerOf]
  rw [keys_frontOf] at hsha
  have hv' : v = List.replicate 19 0 ++ [b] := hv.symm.trans (Hmac.digest_marking _ _)
  rcases hl with ⟨rfl, -⟩ | ⟨old, hattrs⟩
  · exact ⟨hv', hl₁, hsha, front, hfront, hparts⟩
  · -- the new integrity stands in front of something that was signed
    exfalso
    have hnodup := hm.nodup
    have hfields := hknown.fields
    rw [hattrs, List.map_append] at hnodup
    rw [hattrs, OptionList.mapM_append_eq_some] at hfields
    obtain ⟨k₁, _, hk₁, hrest, rfl⟩ := hfields
    obtain ⟨field, k₂, -, -, rfl⟩ := OptionList.mapM_cons_eq_some.mp hrest
    have hlen := length_frontOf hnodup.of_append_left hk₁ hfront
    rw [hparts, partsOf_append, partsOf_cons, List.length_append, List.length_append,
      length_partOf] at hlen
    omega

lemma partOf_inj {type : ℕ} {a b : Bytes} (hlen : a.length = b.length)
    (h : partOf (type, a) = partOf (type, b)) : a = b := by
  have hvalue := (List.append_inj h (by simp [hlen])).1
  exact (List.append_inj hvalue (by simp)).2

/-- The fingerprint of a message that has just been signed. -/
lemma fingerprint_signed (hm : ValidHeader m) {known : List (ℕ × Bytes)} (hknown : Written m known)
    (hnot : .messageIntegrity ∉ m.attributes.map Prod.fst) (hv : v.length = 20) {data : Bytes}
    (hdata : (m.setAttribute .messageIntegrity (.buffer v)).bytes = some data)
    (hn : messageFingerprint data = some n) :
    (crc32 (headerOf m ((partsOf known).length + 32) ++ (partsOf known ++ partOf (0x0008, v))) ^^^
      FINGERPRINT_XOR).toNat = n := by
  have hwritten := hknown.setAttribute hnot (packPair_messageIntegrity m.transactionId v)
    ⟨by norm_num, by norm_num [hv]⟩
  obtain ⟨known', hknown', -, -, -, rfl⟩ := (bytes_eq_some hwritten.nodup).mp hdata
  obtain rfl := Option.some.inj (hwritten.fields.symm.trans hknown')
  have hno : rawFields (m.setAttribute .messageIntegrity (.buffer v)) = [] := by
    rw [rawFields, hwritten.raw, List.map_nil]
  have hparts : partsOf (known ++ [(0x0008, v)]) = partsOf known ++ partOf (0x0008, v) := by
    rw [partsOf_append, partsOf_cons, partsOf_nil, List.append_nil]
  rw [hno, List.append_nil, hparts] at hn
  have hcrc := ((messageFingerprint_headerOf (m := m) hm).mp hn).2
  rwa [List.length_append, length_partOf_integrity hv] at hcrc

/-- The checksum of a message that ends with an integrity tells the last byte of it. -/
lemma crc32_integrity_inj {data : Bytes} {a b : UInt8}
    (h : crc32 (data ++ partOf (0x0008, List.replicate 19 0 ++ [a])) =
      crc32 (data ++ partOf (0x0008, List.replicate 19 0 ++ [b]))) : a = b := by
  have hdata (b : UInt8) : data ++ partOf (0x0008, List.replicate 19 0 ++ [b]) =
      data ++ (BigEndian.encode 2 0x0008 ++ BigEndian.encode 2 20 ++ List.replicate 19 0) ++
        [b] := by
    simp [partOf, paddingLength]
  rw [hdata, hdata] at h
  exact crc32_concat_inj h

/-- A message that is read back whatever the hash does carries no fingerprint. -/
lemma fingerprint_not_mem (hm : m.InRange) {known : List (ℕ × Bytes)} (hknown : Written m known)
    (h : ∀ H, RoundTrips H m key) : .fingerprint ∉ m.attributes.map Prod.fst := by
  intro hmem
  obtain ⟨k₁, k₂, old, hk, hold, hset⟩ := packed_fingerprint hm.nodup hknown.fields hmem
  -- the fingerprint that is there is the new one, whatever the last byte of the integrity is
  have hcrc (b : UInt8) : (crc32 (headerOf m ((partsOf known).length + 32) ++ (partsOf known ++
      partOf (0x0008, List.replicate 19 0 ++ [b]))) ^^^ FINGERPRINT_XOR).toNat =
      BigEndian.decode old := by
    obtain ⟨v, n, hread⟩ := (h (Hmac.marking
      (headerOf m ((partsOf known).length + 24) ++ partsOf known) b)).readBack
    obtain ⟨rfl, hnot, -, front, hfront, hparts⟩ := hread.signed hm hknown
    obtain ⟨data, hdata, hn⟩ := hread.fingerprint
    rw [frontOf, if_pos hmem] at hfront
    obtain ⟨hlt, rfl⟩ := hset n front hfront
    have hlen : (BigEndian.encode 4 n).length = old.length := by rw [hold, BigEndian.length_encode]
    have hpart : partOf (0x8028, BigEndian.encode 4 n) = partOf (0x8028, old) := by
      rw [hk, partsOf_append, partsOf_append, List.append_cancel_left_eq, partsOf_cons,
        partsOf_cons] at hparts
      refine (List.append_inj hparts ?_).1
      rw [length_partOf, length_partOf, hlen]
    rw [fingerprint_signed hm.toValidHeader hknown hnot rfl hdata hn,
      ← partOf_inj hlen hpart, BigEndian.decode_encode hlt]
  have hxor := UInt32.toNat_inj.mp ((hcrc 0).trans (hcrc 1).symm)
  have hlast := (UInt32.xor_left_inj _).mp hxor
  rw [← List.append_assoc, ← List.append_assoc] at hlast
  exact absurd (crc32_integrity_inj hlast) (by decide)

/-- The room for the two attributes of a message that had neither. -/
lemma ReadBack.room (hm : m.InRange) {known : List (ℕ × Bytes)} (hknown : Written m known)
    (hnot : .messageIntegrity ∉ m.attributes.map Prod.fst)
    (hfingerprint : .fingerprint ∉ m.attributes.map Prod.fst) (h : ReadBack H m key v n) :
    (partsOf known).length + 32 < 256 ^ 2 := by
  have hv : v.length = 20 := by
    obtain ⟨-, -, -, rfl⟩ := h.written hm
    exact H.length_digest _ _
  obtain ⟨data, hdata, hn⟩ := h.fingerprint
  obtain ⟨bytes, -, hbytes, -, -⟩ := h.read
  have hlt : n < 256 ^ 4 := by
    obtain rfl := fingerprint_signed hm.toValidHeader hknown hnot hv hdata hn
    exact UInt32.toNat_lt _
  have hnew : .fingerprint ∉ (m.setAttribute .messageIntegrity (.buffer v)).attributes.map
      Prod.fst := by
    rw [Message.setAttribute, setAttribute_of_not_mem hnot]
    simpa using hfingerprint
  have hwritten := (hknown.setAttribute hnot (packPair_messageIntegrity m.transactionId v)
    ⟨by norm_num, by norm_num [hv]⟩).setAttribute hnew (packPair_fingerprint.mpr ⟨hlt, rfl⟩)
    ⟨by norm_num, by norm_num⟩
  obtain ⟨known', hknown', -, -, hlen, -⟩ := (bytes_eq_some hwritten.nodup).mp hbytes
  obtain rfl := Option.some.inj (hwritten.fields.symm.trans hknown')
  rw [partsOf_append, partsOf_append, partsOf_append, partsOf_cons, partsOf_cons, partsOf_nil,
    List.append_nil, List.append_nil] at hlen
  simp only [List.length_append, length_partOf_integrity hv, length_partOf_fingerprint] at hlen
  omega

/-- **Signing.**  A message is read back after it has been signed, whatever the hash is, if and only
if it has no raw attributes, is not sealed yet, can be written and has room for the two attributes. -/
theorem roundTrips_iff (hm : m.InRange) (key : Bytes) : (∀ H, RoundTrips H m key) ↔
    m.rawAttributes = [] ∧ Unsealed m ∧
      ∃ bytes, m.bytes = some bytes ∧ bytes.length + 32 < 20 + 256 ^ 2 := by
  constructor
  · intro h
    obtain ⟨_, _, hread⟩ := (h (Hmac.marking [] 0)).readBack
    obtain ⟨known, hknown, -, -⟩ := hread.written hm
    obtain ⟨v, n, hread⟩ := (h (Hmac.marking
      (headerOf m ((partsOf known).length + 24) ++ partsOf known) 0)).readBack
    obtain ⟨-, hintegrity, hsha, -⟩ := hread.signed hm hknown
    have hfingerprint := fingerprint_not_mem hm hknown h
    have hroom := hread.room hm hknown hintegrity hfingerprint
    refine ⟨hknown.raw, ⟨hintegrity, hsha, hfingerprint⟩, _, hknown.bytes (by omega), ?_⟩
    rw [List.length_append, hm.length_headerOf, HEADER_LENGTH]
    omega
  · rintro ⟨hraw, hun, bytes, hbytes, hroom⟩ H
    exact roundTrips_of_unsealed hm hraw hun hbytes hroom

/-- A binding request with a user name. -/
def namedRequest : Message where
  messageMethod := 0x0001
  messageClass := 0x0000
  transactionId := List.replicate 12 7
  attributes := [(.username, .string "a:b")]

/-- The request without a user name, with an attribute that the table does not know. -/
def rawRequest : Message where
  messageMethod := 0x0001
  messageClass := 0x0000
  transactionId := List.replicate 12 7
  rawAttributes := [{ type := 0xc001, value := [1, 2, 3, 4] }]

lemma inRange_namedRequest : namedRequest.InRange where
  messageMethod := rfl
  messageClass := rfl
  transactionId := rfl
  nodup := List.nodup_singleton _
  known := by
    intro pair hpair
    obtain rfl := List.mem_singleton.mp hpair
    exact ⟨⟨0x0006, .username, .string⟩, rfl, trivial⟩
  unknown := nofun

lemma bytes_namedRequest : namedRequest.bytes = some [0x00, 0x01, 0x00, 0x08, 0x21, 0x12, 0xa4, 0x42,
    7, 7, 7, 7, 7, 7, 7, 7, 7, 7, 7, 7, 0x00, 0x06, 0x00, 0x03, 0x61, 0x3a, 0x62, 0x00] := by
  decide

/-- The request with a user name is read back. -/
theorem roundTrips_namedRequest :
    namedRequest.InRange ∧ ∀ H, RoundTrips H namedRequest [0x6b, 0x65, 0x79] :=
  ⟨inRange_namedRequest, (roundTrips_iff inRange_namedRequest _).mpr
    ⟨rfl, ⟨by decide, by decide, by decide⟩, _, bytes_namedRequest, by decide⟩⟩

lemma inRange_rawRequest : rawRequest.InRange where
  messageMethod := rfl
  messageClass := rfl
  transactionId := rfl
  nodup := List.nodup_nil
  known := nofun
  unknown := by
    intro raw hraw
    obtain rfl := List.mem_singleton.mp hraw
    decide

/-- The request with an unknown attribute is rejected: the attribute is signed, but it stands behind
the integrity. -/
theorem not_roundTrips_rawRequest :
    rawRequest.InRange ∧ ∀ H key, ¬ RoundTrips H rawRequest key := by
  refine ⟨inRange_rawRequest, fun H key h => ?_⟩
  obtain ⟨v, n, hread⟩ := h.readBack
  have hraw : rawRequest.rawAttributes ≠ [] := by decide
  exact hraw (hread.front inRange_rawRequest).1

end Werift.Stun
