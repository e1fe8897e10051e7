import Werift.Stun.Message

/-!
# What the integrity of a message covers

The attributes of a datagram stand at the positions `position data 0`, `position data 1`, …  The loop
of `parseMessage` goes through them, and after the first `MESSAGE-INTEGRITY` it changes nothing but
`FINGERPRINT` and `MESSAGE-INTEGRITY-SHA256`.  Two datagrams that agree up to there therefore give
messages that agree in everything else, and a message is returned only if the HMAC is right.
-/

namespace Werift.Stun

/-! ## The attributes of a datagram -/

/-- The type of the attribute at a position. -/
def typeAt (data : Bytes) (pos : ℕ) : ℕ := ((Js.readUInt16BE data pos).getD 0).toNat

/-- The length of the value of the attribute at a position. -/
def lengthAt (data : Bytes) (pos : ℕ) : ℕ := ((Js.readUInt16BE data (pos + 2)).getD 0).toNat

/-- The position behind the value of the attribute at a position. -/
def valueEndAt (data : Bytes) (pos : ℕ) : ℕ := pos + 4 + lengthAt data pos

/-- The value of the attribute at a position. -/
def valueAt (data : Bytes) (pos : ℕ) : Bytes := Js.slice data (pos + 4) (valueEndAt data pos)

/-- The position of the next attribute, behind the padding. -/
def nextAt (data : Bytes) (pos : ℕ) : ℕ := valueEndAt data pos + paddingLength (lengthAt data pos)

/-- The position of the `i`-th attribute. -/
def position (data : Bytes) (i : ℕ) : ℕ := (nextAt data)^[i] HEADER_LENGTH

/-- The `i`-th attribute is there and is a `MESSAGE-INTEGRITY`. -/
def IsIntegrity (data : Bytes) (i : ℕ) : Prop :=
  position data i < data.length ∧ typeAt data (position data i) = 0x0008

/-- Two datagrams have the same bytes in front of a position, the length in the header apart. -/
structure AgreeUpTo (stop : ℕ) (d₁ d₂ : Bytes) : Prop where
  left : stop ≤ d₁.length
  right : stop ≤ d₂.length
  byte : ∀ i < stop, i ≠ 2 → i ≠ 3 → d₁[i]? = d₂[i]?

/-- Whether the HMAC has to cover an attribute. -/
def isCovered (key : AttributeKey) : Bool :=
  key != .fingerprint && key != .messageIntegritySha256

/-- Two messages agree in everything that the integrity has to cover. -/
structure SameCovered (m₁ m₂ : Message) : Prop where
  messageMethod : m₁.messageMethod = m₂.messageMethod
  messageClass : m₁.messageClass = m₂.messageClass
  transactionId : m₁.transactionId = m₂.transactionId
  attributes : (m₁.attributes.filter fun pair => isCovered pair.1) =
    m₂.attributes.filter fun pair => isCovered pair.1
  rawAttributes : m₁.rawAttributes = m₂.rawAttributes
  alternateServers : m₁.alternateServers = m₂.alternateServers

lemma lt_nextAt (data : Bytes) (pos : ℕ) : pos < nextAt data pos := by
  unfold nextAt valueEndAt
  omega

@[simp] lemma position_zero (data : Bytes) : position data 0 = HEADER_LENGTH := rfl

lemma position_succ (data : Bytes) (i : ℕ) :
    position data (i + 1) = nextAt data (position data i) :=
  Function.iterate_succ_apply' _ _ _

lemma header_le_position (data : Bytes) (i : ℕ) : HEADER_LENGTH ≤ position data i := by
  induction i with
  | zero => exact le_rfl
  | succ i ih => exact ih.trans (position_succ data i ▸ (lt_nextAt data _).le)

/-! ## A turn of the loop -/

section

variable {H : Hmac} {data : Bytes} {integrityKey : Option Bytes} {transactionId before : Bytes}
  {turns pos attrType : ℕ} {payload : Bytes} {st st' last : ParseState}

/-- A loop that ends well takes its turns well. -/
lemma parseLoop_turn (h : parseLoop H data integrityKey transactionId turns pos st = .ok last)
    (hpos : pos < data.length) (hturns : data.length ≤ pos + turns) :
    ∃ turns' st', turns = turns' + 1 ∧ nextAt data pos ≤ data.length ∧
      data.length ≤ nextAt data pos + turns' ∧
      parseAttribute H integrityKey transactionId (data.take pos) (typeAt data pos)
        (valueAt data pos) st = .ok st' ∧
      parseLoop H data integrityKey transactionId turns' (nextAt data pos) st' = .ok last := by
  obtain ⟨turns', rfl⟩ : ∃ t, turns = t + 1 := ⟨turns - 1, by omega⟩
  rw [parseLoop, if_pos hpos] at h
  split_ifs at h with h4
  simp only [except_bind_eq_ok, orThrow_eq_ok] at h
  obtain ⟨attrType, htype, attrLen, hlen, h⟩ := h
  split_ifs at h with hnext
  obtain ⟨st', hst', h⟩ := except_bind_eq_ok.mp h
  have htypeAt : typeAt data pos = attrType.toNat := by rw [typeAt, htype, Option.getD_some]
  have hlengthAt : lengthAt data pos = attrLen.toNat := by rw [lengthAt, hlen, Option.getD_some]
  have hlt := lt_nextAt data pos
  rw [← hlengthAt] at hnext hst' h
  rw [← htypeAt] at hst'
  exact ⟨turns', st', rfl, Nat.le_of_not_lt hnext, by omega, hst', h⟩

/-- A loop that has come to the end has nothing more to do. -/
lemma parseLoop_end (h : parseLoop H data integrityKey transactionId turns pos st = .ok last)
    (hpos : data.length ≤ pos) : last = st := by
  cases turns with
  | zero => exact (Except.ok.inj h).symm
  | succ turns =>
    rw [parseLoop, if_neg (Nat.not_lt.mpr hpos)] at h
    exact (Except.ok.inj h).symm

/-! ## Behind the integrity -/

/-- Behind a `MESSAGE-INTEGRITY` of either kind. -/
def ParseState.Behind (st : ParseState) : Prop :=
  st.sawIntegrity = true ∨ st.sawIntegritySha256 = true

/-- A state differs from an earlier one in what the integrity need not cover only. -/
structure Kept (st st' : ParseState) : Prop where
  attributes : (st'.attributes.filter fun pair => isCovered pair.1) =
    st.attributes.filter fun pair => isCovered pair.1
  rawAttributes : st'.rawAttributes = st.rawAttributes
  alternateServers : st'.alternateServers = st.alternateServers
  verified : st'.messageIntegrityVerified = st.messageIntegrityVerified

lemma Kept.refl (st : ParseState) : Kept st st := ⟨rfl, rfl, rfl, rfl⟩

lemma Kept.trans {st₁ st₂ st₃ : ParseState} (h : Kept st₁ st₂) (h' : Kept st₂ st₃) :
    Kept st₁ st₃ :=
  ⟨h'.attributes.trans h.attributes, h'.rawAttributes.trans h.rawAttributes,
    h'.alternateServers.trans h.alternateServers, h'.verified.trans h.verified⟩

/-- Behind an integrity only two kinds of attributes are not skipped. -/
lemma not_isCovered_of_not_skips {name : Option AttributeKey} (hst : st.Behind)
    (h : st.skips name = false) : ∃ key, name = some key ∧ isCovered key = false := by
  have hcases : name = some .fingerprint ∨ name = some .messageIntegritySha256 := by
    simp only [ParseState.skips, Bool.or_eq_false_iff, Bool.and_eq_false_iff,
      decide_eq_false_iff_not, not_not] at h
    rcases hst with hsaw | hsaw
    · simpa [hsaw, or_assoc] using h.2
    · exact Or.inl (by simpa [hsaw] using h.1)
  rcases hcases with rfl | rfl
  · exact ⟨_, rfl, rfl⟩
  · exact ⟨_, rfl, rfl⟩

lemma kept_afterKnown {name : AttributeKey} (hname : isCovered name = false)
    (value : AttributeValue) (checked : Bool) : Kept st (st.afterKnown name value checked) := by
  have hcases : name = .fingerprint ∨ name = .messageIntegritySha256 := by
    simpa [isCovered, or_iff_not_imp_left] using hname
  refine ⟨filter_setAttribute hname _ _, rfl, ?_, ?_⟩
  · rcases hcases with rfl | rfl <;> simp [ParseState.afterKnown]
  · rcases hcases with rfl | rfl <;> simp [ParseState.afterKnown]

/-- **One attribute.**  Behind an integrity nothing that it covers changes. -/
lemma kept_parseAttribute (hst : st.Behind)
    (h : parseAttribute H integrityKey transactionId before attrType payload st = .ok st') :
    Kept st st' ∧ st'.Behind := by
  rw [parseAttribute] at h
  split_ifs at h with hskip
  · obtain rfl := Except.ok.inj h
    exact ⟨Kept.refl st, hst⟩
  · obtain ⟨key, hname, hkey⟩ := not_isCovered_of_not_skips hst (Bool.eq_false_of_not_eq_true hskip)
    obtain ⟨entry, hentry, rfl⟩ := Option.map_eq_some_iff.mp hname
    obtain ⟨value, -, -, -, rfl⟩ := (acceptAttribute_known hentry).mp h
    refine ⟨kept_afterKnown hkey value _, ?_⟩
    rcases hst with hsaw | hsaw
    · exact Or.inl (by simp [ParseState.afterKnown, hsaw])
    · exact Or.inr (by simp [ParseState.afterKnown, hsaw])

/-- **The rest of the loop.**  Behind an integrity nothing that it covers changes. -/
lemma kept_parseLoop (hst : st.Behind)
    (h : parseLoop H data integrityKey transactionId turns pos st = .ok last)
    (hturns : data.length ≤ pos + turns) : Kept st last := by
  induction turns generalizing pos st with
  | zero => exact parseLoop_end h (by omega) ▸ Kept.refl st
  | succ turns ih =>
    rcases Nat.lt_or_ge pos data.length with hpos | hpos
    · obtain ⟨turns', st', hsucc, -, hturns', hattr, hrest⟩ := parseLoop_turn h hpos hturns
      obtain rfl := Nat.succ_injective hsucc
      obtain ⟨hkept, hbehind⟩ := kept_parseAttribute hst hattr
      exact hkept.trans (ih hbehind hrest hturns')
    · exact parseLoop_end h hpos ▸ Kept.refl st

/-- After a `MESSAGE-INTEGRITY`, skipped or not, the loop is behind one. -/
lemma behind_parseAttribute
    (h : parseAttribute H integrityKey transactionId before 0x0008 payload st = .ok st') :
    st'.Behind := by
  rw [parseAttribute] at h
  split_ifs at h with hskip
  · obtain rfl := Except.ok.inj h
    simp only [ParseState.skips, Bool.or_eq_true, Bool.and_eq_true] at hskip
    exact hskip.symm.imp (fun hsaw => hsaw.1.1) fun hsaw => hsaw.1
  · obtain ⟨value, -, -, -, rfl⟩ := (acceptAttribute_known rfl).mp h
    exact Or.inl (by simp [ParseState.afterKnown])

/-! ## Two datagrams -/

variable {d₁ d₂ : Bytes} {stop : ℕ}

lemma AgreeUpTo.slice (hagree : AgreeUpTo stop d₁ d₂) {start last : ℕ} (hstart : 4 ≤ start)
    (hlast : last ≤ stop) : Js.slice d₁ start last = Js.slice d₂ start last := by
  refine List.ext_getElem? fun i => ?_
  simp only [Js.slice, List.getElem?_take, List.getElem?_drop]
  split_ifs with hi
  · exact hagree.byte (start + i) (by omega) (by omega) (by omega)
  · rfl

lemma AgreeUpTo.take_two (hagree : AgreeUpTo stop d₁ d₂) (hstop : 2 ≤ stop) :
    d₁.take 2 = d₂.take 2 := by
  refine List.ext_getElem? fun i => ?_
  simp only [List.getElem?_take]
  split_ifs with hi
  · exact hagree.byte i (by omega) (by omega) (by omega)
  · rfl

/-- A field behind the header length is read in both. -/
lemma AgreeUpTo.readUInt16BE (hagree : AgreeUpTo stop d₁ d₂) {at' : ℕ} (hpos : 4 ≤ at')
    (hstop : at' + 2 ≤ stop) : Js.readUInt16BE d₁ at' = Js.readUInt16BE d₂ at' := by
  have hslice := hagree.slice hpos hstop
  rw [Js.slice, Js.slice, Nat.add_sub_cancel_left] at hslice
  have hleft := hagree.left
  have hright := hagree.right
  rw [Js.readUInt16BE, Js.readUInt16BE, Js.readUIntBE, Js.readUIntBE, hslice,
    if_pos (by omega), if_pos (by omega)]

lemma AgreeUpTo.readUInt16BE_zero (hagree : AgreeUpTo stop d₁ d₂) (hstop : 2 ≤ stop) :
    Js.readUInt16BE d₁ 0 = Js.readUInt16BE d₂ 0 := by
  have hleft := hagree.left
  have hright := hagree.right
  rw [Js.readUInt16BE, Js.readUInt16BE, Js.readUIntBE, Js.readUIntBE, List.drop_zero,
    List.drop_zero, hagree.take_two hstop, if_pos (by omega), if_pos (by omega)]

/-- The length in the header does not matter for a checksum of the bytes before a position. -/
lemma AgreeUpTo.setBodyLength_take (hagree : AgreeUpTo stop d₁ d₂) {last : ℕ} (h2 : 2 ≤ last)
    (hlast : last ≤ stop) (length : ℤ) :
    setBodyLength (d₁.take last) length = setBodyLength (d₂.take last) length := by
  have hslice := hagree.slice le_rfl hlast
  rw [Js.slice, Js.slice, ← List.drop_take, ← List.drop_take] at hslice
  have htake := hagree.take_two (h2.trans hlast)
  simp only [setBodyLength, List.take_take, Nat.min_eq_left h2, htake, hslice]

lemma AgreeUpTo.parseAttribute (hagree : AgreeUpTo stop d₁ d₂) {last : ℕ} (h2 : 2 ≤ last)
    (hlast : last ≤ stop) :
    parseAttribute H integrityKey transactionId (d₁.take last) attrType payload st =
      parseAttribute H integrityKey transactionId (d₂.take last) attrType payload st := by
  have hlen : (d₁.take last).length = (d₂.take last).length := by
    have hleft := hagree.left
    have hright := hagree.right
    rw [List.length_take, List.length_take]
    omega
  have hfingerprint : messageFingerprint (d₁.take last) = messageFingerprint (d₂.take last) := by
    simp only [messageFingerprint, hlen, hagree.setBodyLength_take h2 hlast]
  have hintegrity (key : Bytes) :
      messageIntegrity H (d₁.take last) key = messageIntegrity H (d₂.take last) key := by
    simp only [messageIntegrity, hlen, hagree.setBodyLength_take h2 hlast]
  simp only [Stun.parseAttribute, acceptAttribute, hfingerprint, hintegrity]

/-- An attribute that ends in front of the position is the same in both. -/
lemma AgreeUpTo.attribute (hagree : AgreeUpTo stop d₁ d₂) (hpos : 4 ≤ pos)
    (hstop : valueEndAt d₁ pos ≤ stop) : typeAt d₁ pos = typeAt d₂ pos ∧
      lengthAt d₁ pos = lengthAt d₂ pos ∧ valueAt d₁ pos = valueAt d₂ pos := by
  have hend : pos + 4 ≤ stop := by
    unfold valueEndAt at hstop
    omega
  have htype : typeAt d₁ pos = typeAt d₂ pos := by
    rw [typeAt, typeAt, hagree.readUInt16BE hpos (by omega)]
  have hlength : lengthAt d₁ pos = lengthAt d₂ pos := by
    rw [lengthAt, lengthAt, hagree.readUInt16BE (by omega) (by omega)]
  refine ⟨htype, hlength, ?_⟩
  rw [valueAt, hagree.slice (by omega) hstop, valueAt, valueEndAt, valueEndAt, hlength]

/-- **Two runs.**  The loops come to an attribute up to which the datagrams agree with the same
variables. -/
lemma AgreeUpTo.exists_loops (hagree : AgreeUpTo stop d₁ d₂) {last₁ last₂ : ParseState}
    (h₁ : parseLoop H d₁ integrityKey transactionId d₁.length HEADER_LENGTH {} = .ok last₁)
    (h₂ : parseLoop H d₂ integrityKey transactionId d₂.length HEADER_LENGTH {} = .ok last₂)
    {i : ℕ} (hi : position d₁ i ≤ stop) :
    ∃ st turns₁ turns₂,
      (parseLoop H d₁ integrityKey transactionId turns₁ (position d₁ i) st = .ok last₁ ∧
        d₁.length ≤ position d₁ i + turns₁) ∧
      parseLoop H d₂ integrityKey transactionId turns₂ (position d₁ i) st = .ok last₂ ∧
        d₂.length ≤ position d₁ i + turns₂ := by
  induction i with
  | zero => exact ⟨{}, _, _, ⟨h₁, by omega⟩, h₂, by omega⟩
  | succ i ih =>
    rw [position_succ] at hi
    have hlt := lt_nextAt d₁ (position d₁ i)
    have hhead := header_le_position d₁ i
    have hend : valueEndAt d₁ (position d₁ i) ≤ stop := (Nat.le_add_right _ _).trans hi
    have hleft := hagree.left
    have hright := hagree.right
    obtain ⟨st, turns₁, turns₂, ⟨hrun₁, hturns₁⟩, hrun₂, hturns₂⟩ := ih (by omega)
    obtain ⟨next₁, st₁, -, -, hnext₁, hattr₁, hrest₁⟩ := parseLoop_turn hrun₁ (by omega) hturns₁
    obtain ⟨next₂, st₂, -, -, hnext₂, hattr₂, hrest₂⟩ := parseLoop_turn hrun₂ (by omega) hturns₂
    have h4 : 4 ≤ position d₁ i := le_trans (by decide) hhead
    obtain ⟨htype, hlength, hvalue⟩ := hagree.attribute h4 hend
    have hnext : nextAt d₁ (position d₁ i) = nextAt d₂ (position d₁ i) := by
      rw [nextAt, nextAt, valueEndAt, valueEndAt, hlength]
    rw [← htype, ← hvalue, ← hagree.parseAttribute (by omega) (by omega), hattr₁] at hattr₂
    obtain rfl := Except.ok.inj hattr₂
    rw [← hnext] at hrest₂ hnext₂
    rw [position_succ]
    exact ⟨st₁, next₁, next₂, ⟨hrest₁, hnext₁⟩, hrest₂, hnext₂⟩

/-! ## The HMAC -/

/-- Only the integrity is an attribute of the type `0x0008`. -/
lemma type_of_messageIntegrity {entry : ATTRIBUTE}
    (hentry : ATTRIBUTES_BY_TYPE attrType = some entry) (hname : entry.name = .messageIntegrity) :
    attrType = 0x0008 := by
  have htype : entry.type = attrType := by simpa using List.find?_some hentry
  have htable : ∀ e ∈ ATTRIBUTES, e.name = .messageIntegrity → e.type = 0x0008 := by decide
  rw [← htype, htable entry (List.mem_of_find?_eq_some hentry) hname]

/-- Other attributes do not verify the message. -/
lemma verified_parseAttribute (htype : attrType ≠ 0x0008)
    (h : parseAttribute H integrityKey transactionId before attrType payload st = .ok st') :
    st'.messageIntegrityVerified = st.messageIntegrityVerified := by
  rw [Stun.parseAttribute] at h
  split_ifs at h with hskip
  · rw [Except.ok.inj h]
  · cases hentry : ATTRIBUTES_BY_TYPE attrType with
    | none =>
      rw [acceptAttribute_unknown hentry] at h
      rw [← Except.ok.inj h]
    | some entry =>
      obtain ⟨value, -, -, -, rfl⟩ := (acceptAttribute_known hentry).mp h
      have hname : entry.name ≠ .messageIntegrity := fun hname =>
        htype (type_of_messageIntegrity hentry hname)
      simp [ParseState.afterKnown, hname]

/-- A loop that verifies the message comes to an integrity with the right HMAC, the first one. -/
lemma exists_integrity {key : Bytes} {i : ℕ} (hbefore : ∀ j < i, ¬ IsIntegrity data j)
    (hturns : data.length ≤ position data i + turns)
    (h : parseLoop H data (some key) transactionId turns (position data i) st = .ok last)
    (hst : st.messageIntegrityVerified = false) (hlast : last.messageIntegrityVerified = true) :
    ∃ i buf, IsIntegrity data i ∧ (∀ j < i, ¬ IsIntegrity data j) ∧
      messageIntegrity H (data.take (position data i)) key = some buf ∧
      valueAt data (position data i) = buf := by
  induction turns generalizing i st with
  | zero =>
    obtain rfl := parseLoop_end h (by omega)
    simp [hst] at hlast
  | succ turns ih =>
    have hpos : position data i < data.length := by
      by_contra hpos
      obtain rfl := parseLoop_end h (by omega)
      simp [hst] at hlast
    obtain ⟨turns', st', hsucc, -, hturns', hattr, hrest⟩ := parseLoop_turn h hpos hturns
    obtain rfl := Nat.succ_injective hsucc
    by_cases htype : typeAt data (position data i) = 0x0008
    · refine ⟨i, _, ⟨hpos, htype⟩, hbefore, ?_, rfl⟩
      rw [htype, Stun.parseAttribute] at hattr
      split_ifs at hattr with hskip
      · obtain rfl := Except.ok.inj hattr
        -- a skipped integrity stands behind another one, and then nothing is verified any more
        have hbehind : st.Behind := by
          simp only [ParseState.skips, Bool.or_eq_true, Bool.and_eq_true] at hskip
          exact hskip.symm.imp (fun hsaw => hsaw.1.1) fun hsaw => hsaw.1
        have hkept := (kept_parseLoop hbehind hrest hturns').verified
        simp [hst, hlast] at hkept
      · obtain ⟨value, hvalue, -, hcheck, -⟩ := (acceptAttribute_known rfl).mp hattr
        obtain ⟨buf, hbuf, rfl⟩ := hcheck rfl key rfl
        obtain rfl := AttributeValue.buffer.inj (Option.some.inj hvalue)
        exact hbuf
    · have hst' := verified_parseAttribute htype hattr
      rw [← position_succ] at hrest hturns'
      refine ih (i := i + 1) (fun j hj => ?_) hturns' hrest (hst'.trans hst)
      rcases Nat.lt_succ_iff_lt_or_eq.mp hj with hj | rfl
      · exact hbefore j hj
      · exact fun hint => htype hint.2

/-! ## Without a key -/

/-- The variables of a loop that has no key. -/
def ParseState.unverified (st : ParseState) : ParseState :=
  { st with messageIntegrityVerified := false }

lemma parseAttribute_unverified {key : Bytes}
    (h : parseAttribute H (some key) transactionId before attrType payload st = .ok st') :
    parseAttribute H none transactionId before attrType payload st.unverified =
      .ok st'.unverified := by
  have hskips (name : Option AttributeKey) : st.unverified.skips name = st.skips name := rfl
  rw [Stun.parseAttribute] at h ⊢
  rw [hskips]
  split_ifs at h ⊢ with hskip
  · rw [Except.ok.inj h]
  · cases hentry : ATTRIBUTES_BY_TYPE attrType with
    | none =>
      rw [acceptAttribute_unknown hentry] at h ⊢
      rw [← Except.ok.inj h]
      rfl
    | some entry =>
      obtain ⟨value, hvalue, hfingerprint, -, rfl⟩ := (acceptAttribute_known hentry).mp h
      refine (acceptAttribute_known hentry).mpr ⟨value, hvalue, hfingerprint, nofun, ?_⟩
      simp [ParseState.unverified, ParseState.afterKnown]

lemma parseLoop_unverified {key : Bytes}
    (h : parseLoop H data (some key) transactionId turns pos st = .ok last) :
    parseLoop H data none transactionId turns pos st.unverified = .ok last.unverified := by
  induction turns generalizing pos st with
  | zero => rw [← Except.ok.inj h, parseLoop]
  | succ turns ih =>
    rw [parseLoop] at h ⊢
    split_ifs at h ⊢ with hpos hshort
    · simp only [except_bind_eq_ok, orThrow_eq_ok] at h ⊢
      obtain ⟨attrType, htype, attrLen, hlen, h⟩ := h
      refine ⟨attrType, htype, attrLen, hlen, ?_⟩
      split_ifs at h ⊢ with hnext
      obtain ⟨st', hattr, hrest⟩ := except_bind_eq_ok.mp h
      exact except_bind_eq_ok.mpr ⟨_, parseAttribute_unverified hattr, ih hrest⟩
    · rw [← Except.ok.inj h]

/-- **Without a key.**  A message that is read with a key is read without one. -/
theorem parseMessage_none {key : Bytes} {m : Message}
    (h : parseMessage H data (some key) = .ok m) : parseMessage H data none = .ok m := by
  obtain ⟨hstun, messageType, st, htype, hloop, -, rfl⟩ := parseMessage_eq_ok.mp h
  exact parseMessage_eq_ok.mpr
    ⟨hstun, messageType, st.unverified, htype, parseLoop_unverified hloop, nofun, rfl⟩

end

/-- **Integrity covers what is used.**  Messages that are read with a key from datagrams that agree up
to a `MESSAGE-INTEGRITY` agree in all that it covers; and a message is read only if the first
`MESSAGE-INTEGRITY` is the HMAC of the bytes before it, with the length that ends behind it. -/
theorem parseMessage_covered (H : Hmac) (key d₁ d₂ : Bytes) :
    (∀ m₁ m₂ i, IsIntegrity d₁ i → AgreeUpTo (valueEndAt d₁ (position d₁ i)) d₁ d₂ →
      parseMessage H d₁ (some key) = .ok m₁ → parseMessage H d₂ (some key) = .ok m₂ →
      SameCovered m₁ m₂) ∧
    ∀ m, parseMessage H d₁ (some key) = .ok m →
      ∃ i checkData, IsIntegrity d₁ i ∧ (∀ j < i, ¬ IsIntegrity d₁ j) ∧
        setBodyLength (d₁.take (position d₁ i)) (position d₁ i - HEADER_LENGTH + INTEGRITY_LENGTH) =
          some checkData ∧
        valueAt d₁ (position d₁ i) = H.digest key checkData := by
  constructor
  · intro m₁ m₂ i hint hagree hm₁ hm₂
    obtain ⟨-, messageType₁, st₁, htype₁, hloop₁, -, rfl⟩ := parseMessage_eq_ok.mp hm₁
    obtain ⟨-, messageType₂, st₂, htype₂, hloop₂, -, rfl⟩ := parseMessage_eq_ok.mp hm₂
    have hhead := header_le_position d₁ i
    have hstop : position d₁ i + 4 ≤ valueEndAt d₁ (position d₁ i) := Nat.le_add_right _ _
    have h20 : HEADER_LENGTH ≤ valueEndAt d₁ (position d₁ i) := by omega
    have htid : Js.slice d₁ (HEADER_LENGTH - 12) HEADER_LENGTH =
        Js.slice d₂ (HEADER_LENGTH - 12) HEADER_LENGTH := hagree.slice (by decide) h20
    obtain rfl : messageType₁ = messageType₂ := by
      rw [hagree.readUInt16BE_zero (le_trans (by decide) h20), htype₂] at htype₁
      exact (Option.some.inj htype₁).symm
    rw [← htid] at hloop₂
    -- up to the integrity the loops do the same, and behind it nothing that counts
    obtain ⟨st, turns₁, turns₂, ⟨hrun₁, hturns₁⟩, hrun₂, hturns₂⟩ :=
      hagree.exists_loops (i := i) hloop₁ hloop₂ (by omega)
    have hleft := hagree.left
    have hright := hagree.right
    have h4 : 4 ≤ position d₁ i := le_trans (by decide) hhead
    obtain ⟨htype, hlength, hvalue⟩ := hagree.attribute h4 le_rfl
    obtain ⟨next₁, st', -, -, hnext₁, hattr₁, hrest₁⟩ := parseLoop_turn hrun₁ hint.1 hturns₁
    obtain ⟨next₂, st'', -, -, hnext₂, hattr₂, hrest₂⟩ := parseLoop_turn hrun₂ (by omega) hturns₂
    rw [← htype, ← hvalue, ← hagree.parseAttribute (by omega) (by omega), hattr₁] at hattr₂
    obtain rfl := Except.ok.inj hattr₂
    rw [hint.2] at hattr₁
    have hbehind := behind_parseAttribute hattr₁
    have hkept₁ := kept_parseLoop hbehind hrest₁ hnext₁
    have hkept₂ := kept_parseLoop hbehind hrest₂ hnext₂
    exact ⟨rfl, rfl, htid, hkept₁.attributes.trans hkept₂.attributes.symm,
      hkept₁.rawAttributes.trans hkept₂.rawAttributes.symm,
      hkept₁.alternateServers.trans hkept₂.alternateServers.symm⟩
  · intro m hm
    obtain ⟨-, messageType, st, -, hloop, hverified, -⟩ := parseMessage_eq_ok.mp hm
    obtain ⟨i, buf, hint, hfirst, hbuf, hvalue⟩ := exists_integrity (i := 0) (by simp) (by simp)
      hloop rfl (hverified rfl)
    simp only [messageIntegrity, Option.bind_eq_bind, Option.bind_eq_some_iff] at hbuf
    obtain ⟨checkData, hcheck, hbuf⟩ := hbuf
    rw [List.length_take, Nat.min_eq_left hint.1.le] at hcheck
    exact ⟨i, checkData, hint, hfirst, hcheck, hvalue.trans (Option.some.inj hbuf).symm⟩

/-- HMAC-SHA1 as far as the next theorem needs it: the digest of a header under the key `k`. -/
def hmacOfHeader : Hmac where
  digest _ _ :=
    [0xa7, 0x63, 0x30, 0x55, 0xf1, 0x9e, 0x4a, 0x77, 0xa9, 0xf1,
      0x88, 0x71, 0xa1, 0x39, 0xe7, 0xe5, 0xaf, 0xc8, 0x80, 0x69]
  length_digest _ _ := rfl

/-- A binding request that is signed with the key `k`. -/
def signedRequest (length : UInt8) : Bytes :=
  [0, 1, 0, length, 0x21, 0x12, 0xa4, 0x42] ++ List.replicate 12 0 ++ [0, 8, 0, 20] ++
    hmacOfHeader.digest [] []

/-- The message that is read from it. -/
def requestMessage : Message where
  messageMethod := 1
  messageClass := 0
  transactionId := List.replicate 12 0
  attributes := [(.messageIntegrity, .buffer (hmacOfHeader.digest [] []))]

/-- A signed request, and the same request with an unknown attribute behind the integrity. -/
theorem parseMessage_covered_request :
    SameCovered requestMessage requestMessage ∧ ∃ i checkData,
      IsIntegrity (signedRequest 24) i ∧ (∀ j < i, ¬ IsIntegrity (signedRequest 24) j) ∧
        setBodyLength ((signedRequest 24).take (position (signedRequest 24) i))
          (position (signedRequest 24) i - HEADER_LENGTH + INTEGRITY_LENGTH) = some checkData ∧
        valueAt (signedRequest 24) (position (signedRequest 24) i) =
          hmacOfHeader.digest [0x6b] checkData := by
  have hcovered := parseMessage_covered hmacOfHeader [0x6b] (signedRequest 24)
    (signedRequest 28 ++ [0xff, 0, 0, 0])
  have hm₁ : parseMessage hmacOfHeader (signedRequest 24) (some [0x6b]) = .ok requestMessage := by
    decide
  have hm₂ : parseMessage hmacOfHeader (signedRequest 28 ++ [0xff, 0, 0, 0]) (some [0x6b]) =
      .ok requestMessage := by decide
  exact ⟨hcovered.1 _ _ 0 ⟨by decide, by decide⟩ ⟨by decide, by decide, by decide⟩ hm₁ hm₂,
    hcovered.2 _ hm₁⟩

end Werift.Stun
