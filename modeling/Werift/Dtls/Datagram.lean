import Werift.Dtls.Socket
import Werift.Js.IndexObject

/-!
# Datagrams (`parsePacket`, `parsePlainText` and `DtlsSocket.udpOnMessage`)

A datagram is split into records, and each record is handled behind a `try`.  The splitting itself
stands in front of that `try`: it reads the length of a fragment before it looks whether the datagram
goes that far, and it takes a record that lacks its last byte for a whole one.

`robust_iff` says which datagrams survive this: the rest behind the whole records has to be empty,
or to hold a header and to lack more than one byte.
-/

namespace Werift.Dtls

open Schema

/-! ## The contents of a record -/

structure Alert where
  level : ℕ
  description : ℕ

namespace Alert

def spec : Schema Alert :=
  ((uintBE 1).prod (uintBE 1)).map (fun (l, d) => ⟨l, d⟩) fun a => (a.level, a.description)

/-- `Alert.deSerialize(buf)`. -/
def deSerialize (buf : Bytes) : Option Alert := spec.read buf

end Alert

def AlertDesc : List (String × ℕ) :=
  [("CloseNotify", 0), ("UnexpectedMessage", 10), ("BadRecordMac", 20), ("DecryptionFailed", 21),
    ("RecordOverflow", 22), ("DecompressionFailure", 30), ("HandshakeFailure", 40),
    ("NoCertificate", 41), ("BadCertificate", 42), ("UnsupportedCertificate", 43),
    ("CertificateRevoked", 44), ("CertificateExpired", 45), ("CertificateUnknown", 46),
    ("IllegalParameter", 47), ("UnknownCa", 48), ("AccessDenied", 49), ("DecodeError", 50),
    ("DecryptError", 51), ("ExportRestriction", 60), ("ProtocolVersion", 70),
    ("InsufficientSecurity", 71), ("InternalError", 80), ("UserCanceled", 90),
    ("NoRenegotiation", 100), ("UnsupportedExtension", 110)]

/-- `alertDescName(value)`. -/
def alertDescName (value : ℕ) : Option String :=
  (AlertDesc.find? fun entry => entry.2 = value).map Prod.fst

/-- What `parsePlainText` finds in a record. -/
inductive Content
  | changeCipherSpec
  | handshake (data : FragmentedHandshake)
  | applicationData (data : Bytes)
  | alert

/-- The loop of `parsePlainText` over the rest of a handshake record.  Every turn takes at least
twelve bytes, so that the length bounds the number of turns. -/
def parseHandshakes : ℕ → Bytes → Option (List FragmentedHandshake)
  | 0, _ => some []
  | turns + 1, raw =>
    if raw.isEmpty then some []
    else do
      let handshake ← FragmentedHandshake.deSerialize raw
      let handshakes ← parseHandshakes turns (raw.drop (handshake.fragment_length + 12))
      return handshake :: handshakes

section

variable (P : Primitives)

/-- `parsePlainText(dtls, cipher)(plain)`. -/
def parsePlainText (sessionType : SessionType) (cipher : CipherContext) (plain : DtlsPlaintext) :
    Option (List Content) :=
  match plain.contentType with
  | ContentType.changeCipherSpec => some [.changeCipherSpec]
  | ContentType.handshake => do
    let raw ←
      if plain.epoch > 0 then cipher.decryptPacket P sessionType plain else some plain.fragment
    let handshakes ← parseHandshakes raw.length raw
    return handshakes.map .handshake
  | ContentType.applicationData => do
    let data ← cipher.decryptPacket P sessionType plain
    return [.applicationData data]
  | ContentType.alert => do
    let alert ← Alert.deSerialize plain.fragment
    -- a description without a name is taken for the first byte of an encrypted alert
    let alert ←
      if (alertDescName alert.description).isNone then
        (cipher.decryptPacket P sessionType plain).bind Alert.deSerialize
      else some alert
    if alert.level > 1 then none else return [.alert]
  | _ => some [.alert]

/-! ## Fragments of handshake messages -/

/-- Whether the buffered fragments are given out: the last one ends its message. -/
def releasesFragments (buffer : List FragmentedHandshake) : Bool :=
  decide (1 < buffer.length) &&
    buffer.getLast?.any fun last => last.fragment_offset + last.fragment_length = last.length

/-- `handleFragmentHandshake(messages)`: what it returns, and `bufferFragmentedHandshakes`
afterwards. -/
def handleFragmentHandshake (buffer messages : List FragmentedHandshake) :
    List FragmentedHandshake × List FragmentedHandshake :=
  let buffer := buffer ++ messages.filter fun v => v.fragment_length ≠ v.length
  let handshakes := messages.filter fun v => v.fragment_length = v.length
  if releasesFragments buffer then (buffer ++ handshakes, []) else (handshakes, buffer)

/-- The `reduce` of `udpOnMessage`: the fragments by their type. -/
def groupByType (handshakes : List FragmentedHandshake) :
    Js.IndexObject (List FragmentedHandshake) :=
  handshakes.foldl (fun acc cur =>
    acc.set cur.msg_type ((acc.get? cur.msg_type).getD [] ++ [cur])) Js.IndexObject.empty

/-- The constant `assembled` of `udpOnMessage`. -/
def assembleByType (handshakes : List FragmentedHandshake) : Option (List FragmentedHandshake) := do
  let assembled ← (groupByType handshakes).values.mapM FragmentedHandshake.assemble
  return assembled.insertionSort fun a b => a.msg_type ≤ b.msg_type

/-! ## The socket -/

/-- A fragment that `udpOnMessage` has handled: the fragments that were buffered when it came, and
what was passed to `onHandleHandshakes`. -/
structure Arrival where
  buffer : List FragmentedHandshake
  fragment : FragmentedHandshake
  passed : List FragmentedHandshake
deriving DecidableEq

/-- A socket, and a record of the fragments that it has handled. -/
structure Endpoint where
  socket : Socket
  arrivals : List Arrival := []

/-- A part of `udpOnMessage`. -/
abbrev Handling (α : Type) := EStateM Unit Endpoint α

/-- The value of an expression that may throw in a handler. -/
def valueOf {α : Type} : Option α → Handling α
  | some a => pure a
  | none => throw ()

variable (onHandleHandshakes : List FragmentedHandshake → Socket → Socket)

/-- The case of a handshake message.  `onHandleHandshakes` is asynchronous, so that nothing that it
throws gets here. -/
def onHandshake (handshake : FragmentedHandshake) : Handling Unit := do
  let buffered := (← get).socket.bufferFragmentedHandshakes
  let (handshakes, buffer) := handleFragmentHandshake buffered [handshake]
  modify fun e => { e with socket := { e.socket with bufferFragmentedHandshakes := buffer } }
  let assembled ← valueOf (assembleByType handshakes)
  modify fun e => {
    socket := onHandleHandshakes assembled e.socket
    arrivals := e.arrivals ++ [⟨buffered, handshake, assembled⟩] }

/-- `onData.execute(…)` and `onClose.execute()`. -/
def fire (event : SocketEvent) : Handling Unit :=
  modify fun e => { e with socket := { e.socket with fired := e.socket.fired ++ [event] } }

/-- The `switch` of `udpOnMessage`. -/
def onContent : Content → Handling Unit
  | .changeCipherSpec => pure ()
  | .handshake data => onHandshake onHandleHandshakes data
  | .applicationData data => fire (.data data)
  | .alert => fire .close

/-- The body of the `try`. -/
def handlePacket (packet : DtlsPlaintext) : Handling Unit := do
  let s := (← get).socket
  let messages ← valueOf (parsePlainText P s.sessionType s.cipher packet)
  messages.forM (onContent onHandleHandshakes)

/-- One turn of the loop of `udpOnMessage`: what has changed before an error stays. -/
def onPacket (e : Endpoint) (packet : DtlsPlaintext) : Endpoint :=
  match (handlePacket P onHandleHandshakes packet).run e with
  | .ok _ e => e
  | .error _ e => e

/-- `udpOnMessage(data)`. -/
def udpOnMessage (data : Bytes) (e : Endpoint) : Option Endpoint := do
  let packets ← parsePacket data
  return packets.foldl (onPacket P onHandleHandshakes) e

end

/-! ## Whole records -/

/-- The length of the fragment that the header at the front of a buffer states. -/
def contentLength (buf : Bytes) : ℕ := BigEndian.decode ((buf.drop 11).take 2)

/-- The bytes of one record: a header, and a fragment of the length that it states. -/
def IsRecord (bytes : Bytes) : Prop := bytes.length = 13 + contentLength bytes

/-- No record is complete. -/
def Truncated (buf : Bytes) : Prop := buf.length < 13 + contentLength buf

/-- The record at the front of a buffer. -/
def recordAt (buf : Bytes) : DtlsPlaintext where
  contentType := BigEndian.decode (buf.take 1)
  protocolVersion :=
    (BigEndian.decode ((buf.drop 1).take 1), BigEndian.decode ((buf.drop 2).take 1))
  epoch := BigEndian.decode ((buf.drop 3).take 2)
  sequenceNumber := BigEndian.decode ((buf.drop 5).take 6)
  fragment := (buf.drop 13).take (contentLength buf)

private lemma takeBytes_drop {buf : Bytes} {n k : ℕ} (h : n + k ≤ buf.length) :
    takeBytes k (buf.drop n) = some ((buf.drop n).take k, buf.drop (n + k)) := by
  rw [takeBytes, if_pos (by rw [List.length_drop]; omega), List.drop_drop]

/-- Once the header is there, only the fragment may be missing. -/
lemma DtlsPlaintext.deSerialize_header {buf : Bytes} (h : 13 ≤ buf.length) :
    DtlsPlaintext.deSerialize buf = (takeBytes (contentLength buf) (buf.drop 13)).map fun p =>
      { recordAt buf with fragment := p.1 } := by
  have h0 : takeBytes 1 buf = some (buf.take 1, buf.drop 1) := @takeBytes_drop buf 0 1 (by omega)
  have h1 : takeBytes 1 (buf.drop 1) = some ((buf.drop 1).take 1, buf.drop 2) :=
    takeBytes_drop (by omega)
  have h2 : takeBytes 1 (buf.drop 2) = some ((buf.drop 2).take 1, buf.drop 3) :=
    takeBytes_drop (by omega)
  have h3 : takeBytes 2 (buf.drop 3) = some ((buf.drop 3).take 2, buf.drop 5) :=
    takeBytes_drop (by omega)
  have h4 : takeBytes 6 (buf.drop 5) = some ((buf.drop 5).take 6, buf.drop 11) :=
    takeBytes_drop (by omega)
  have h5 : takeBytes 2 (buf.drop 11) = some ((buf.drop 11).take 2, buf.drop 13) :=
    takeBytes_drop (by omega)
  simp only [DtlsPlaintext.deSerialize, Schema.read, DtlsPlaintext.spec, ProtocolVersion, Schema.map,
    Schema.prod, prefixed, uintBE, h0, h1, h2, h3, h4, h5, Option.map_some, Option.bind_some]
  rw [contentLength]
  cases takeBytes (BigEndian.decode ((buf.drop 11).take 2)) (buf.drop 13) <;> rfl

lemma DtlsPlaintext.deSerialize_eq {buf : Bytes} (h : 13 + contentLength buf ≤ buf.length) :
    DtlsPlaintext.deSerialize buf = some (recordAt buf) := by
  rw [DtlsPlaintext.deSerialize_header (by omega), takeBytes_drop h]
  rfl

lemma DtlsPlaintext.deSerialize_eq_none {buf : Bytes} (hheader : 13 ≤ buf.length)
    (h : buf.length < 13 + contentLength buf) : DtlsPlaintext.deSerialize buf = none := by
  rw [DtlsPlaintext.deSerialize_header hheader, takeBytes, if_neg]
  · rfl
  · rw [List.length_drop]
    omega

lemma readUInt16BE_contentLength {buf : Bytes} (h : 13 ≤ buf.length) :
    Js.readUInt16BE buf 11 = some (contentLength buf : ℤ) := if_pos h

/-- What stands in front does not depend on what follows. -/
lemma take_drop_append {part : Bytes} {k n : ℕ} (h : k + n ≤ part.length) (rest : Bytes) :
    ((part ++ rest).drop k).take n = (part.drop k).take n := by
  rw [List.drop_append_of_le_length (by omega), List.take_append_of_le_length]
  rw [List.length_drop]
  omega

lemma contentLength_take {buf : Bytes} {n : ℕ} (h : 13 ≤ n) :
    contentLength (buf.take n) = contentLength buf := by
  rw [contentLength, contentLength, List.drop_take, List.take_take, min_eq_left (by omega)]

lemma IsRecord.contentLength_append {part : Bytes} (h : IsRecord part) (rest : Bytes) :
    contentLength (part ++ rest) = contentLength part := by
  rw [IsRecord] at h
  rw [contentLength, contentLength, take_drop_append (by omega)]

lemma IsRecord.recordAt_append {part : Bytes} (h : IsRecord part) (rest : Bytes) :
    recordAt (part ++ rest) = recordAt part := by
  have hlength := h.contentLength_append rest
  rw [IsRecord] at h
  have hfirst : (part ++ rest).take 1 = part.take 1 := @take_drop_append part 0 1 (by omega) rest
  unfold recordAt
  rw [hlength, hfirst, take_drop_append (by omega), take_drop_append (by omega),
    take_drop_append (by omega), take_drop_append (by omega), take_drop_append (by omega)]

/-! ## The loops -/

/-- One turn of the loop takes one record. -/
lemma parseRecords_record {part : Bytes} (h : IsRecord part) (rest : Bytes) (turns : ℕ) :
    parseRecords (turns + 1) (part ++ rest) =
      (parseRecords turns rest).map (recordAt part :: ·) := by
  have hlength : part.length = 13 + contentLength part := h
  have hcontent := h.contentLength_append rest
  have hne : (part ++ rest).isEmpty = false := by
    rw [List.isEmpty_eq_false_iff, ← List.length_pos_iff, List.length_append]
    omega
  have hread : Js.readUInt16BE (part ++ rest) 11 = some (contentLength part : ℤ) := by
    rw [readUInt16BE_contentLength (by rw [List.length_append]; omega), hcontent]
  have hnot : ¬ (((part ++ rest).length : ℤ) < 12 + contentLength part) := by
    rw [List.length_append]
    omega
  have hparse : DtlsPlaintext.deSerialize (part ++ rest) = some (recordAt part) := by
    rw [DtlsPlaintext.deSerialize_eq (by rw [hcontent, List.length_append]; omega),
      h.recordAt_append]
  have hdrop : (part ++ rest).drop (13 + contentLength part) = rest := List.drop_left' hlength
  rw [parseRecords, hne, hread]
  simp only [Bool.false_eq_true, if_false, Option.bind_eq_bind, Option.bind_some, if_neg hnot,
    hparse, Int.toNat_natCast, hdrop]
  cases parseRecords turns rest <;> rfl

/-- The end of the loop, where no whole record is left. -/
lemma parseRecords_truncated {tail : Bytes} (h : Truncated tail) (hne : tail ≠ []) (turns : ℕ) :
    parseRecords (turns + 1) tail =
      if 13 ≤ tail.length ∧ tail.length < 12 + contentLength tail then some [] else none := by
  have hempty : tail.isEmpty = false := List.isEmpty_eq_false_iff.mpr hne
  rw [parseRecords, hempty, if_neg Bool.false_ne_true]
  by_cases hheader : 13 ≤ tail.length
  · rw [readUInt16BE_contentLength hheader]
    dsimp only [Option.bind_eq_bind, Option.bind_some]
    by_cases hshort : tail.length < 12 + contentLength tail
    · rw [if_pos (by exact_mod_cast hshort), if_pos ⟨hheader, hshort⟩]
      rfl
    · rw [if_neg (by exact_mod_cast hshort), if_neg (fun hc => hshort hc.2),
        DtlsPlaintext.deSerialize_eq_none hheader h]
      rfl
  · have hread : Js.readUInt16BE tail 11 = none := if_neg hheader
    rw [hread, if_neg (fun hc => hheader hc.1)]
    rfl

/-- A buffer begins with a whole record or is truncated. -/
lemma exists_record {buf : Bytes} (h : ¬ Truncated buf) :
    ∃ part rest, IsRecord part ∧ buf = part ++ rest ∧ rest.length < buf.length := by
  have hle : 13 + contentLength buf ≤ buf.length := not_lt.mp h
  have hsplit : buf.take (13 + contentLength buf) ++ buf.drop (13 + contentLength buf) = buf :=
    List.take_append_drop _ _
  refine ⟨_, _, ?_, hsplit.symm, by rw [List.length_drop]; omega⟩
  have hlength : (buf.take (13 + contentLength buf)).length = 13 + contentLength buf :=
    List.length_take_of_le hle
  rw [IsRecord, hlength, contentLength_take (by omega)]

/-- **A datagram** consists of whole records and a truncated rest. -/
theorem exists_records (data : Bytes) : ∃ (parts : List Bytes) (tail : Bytes),
    (∀ part ∈ parts, IsRecord part) ∧ Truncated tail ∧ data = parts.flatten ++ tail := by
  induction hn : data.length using Nat.strong_induction_on generalizing data with
  | _ n ih =>
    by_cases h : Truncated data
    · exact ⟨[], data, by simp, h, rfl⟩
    · obtain ⟨part, rest, hpart, rfl, hlt⟩ := exists_record h
      obtain ⟨parts, tail, hparts, htail, rfl⟩ := ih rest.length (by omega) rest rfl
      exact ⟨part :: parts, tail, List.forall_mem_cons.mpr ⟨hpart, hparts⟩, htail, by simp⟩

/-- The loop of `parsePacket` ends by itself. -/
theorem parseRecords_of_length_le {turns : ℕ} {data : Bytes} (h : data.length ≤ turns) :
    parseRecords turns data = parsePacket data := by
  suffices hloop : ∀ turns', data.length ≤ turns' →
      parseRecords turns data = parseRecords turns' data from hloop _ le_rfl
  induction turns generalizing data with
  | zero =>
    intro turns' _
    obtain rfl := List.length_eq_zero_iff.mp (Nat.le_zero.mp h)
    cases turns' <;> rfl
  | succ turns ih =>
    intro turns' h'
    by_cases hnil : data = []
    · subst hnil
      cases turns' <;> rfl
    · have hpos := List.length_pos_iff.mpr hnil
      obtain ⟨turns', rfl⟩ : ∃ t, turns' = t + 1 := ⟨turns' - 1, by omega⟩
      by_cases htruncated : Truncated data
      · rw [parseRecords_truncated htruncated hnil, parseRecords_truncated htruncated hnil]
      · obtain ⟨part, rest, hpart, rfl, hlt⟩ := exists_record htruncated
        rw [parseRecords_record hpart, parseRecords_record hpart,
          ih (by omega) turns' (by omega)]

/-- The loop of `parsePlainText` ends by itself. -/
theorem parseHandshakes_of_length_le {turns turns' : ℕ} {raw : Bytes} (h : raw.length ≤ turns)
    (h' : raw.length ≤ turns') : parseHandshakes turns raw = parseHandshakes turns' raw := by
  induction turns generalizing turns' raw with
  | zero =>
    obtain rfl := List.length_eq_zero_iff.mp (Nat.le_zero.mp h)
    cases turns' <;> rfl
  | succ turns ih =>
    by_cases hnil : raw = []
    · subst hnil
      cases turns' <;> rfl
    · have hpos := List.length_pos_iff.mpr hnil
      obtain ⟨turns', rfl⟩ : ∃ t, turns' = t + 1 := ⟨turns' - 1, by omega⟩
      rw [parseHandshakes, parseHandshakes]
      cases FragmentedHandshake.deSerialize raw with
      | none => rfl
      | some handshake =>
        have hdrop : (raw.drop (handshake.fragment_length + 12)).length ≤ raw.length - 12 := by
          rw [List.length_drop]
          omega
        have hrest := @ih turns' (raw.drop (handshake.fragment_length + 12)) (by omega) (by omega)
        simp only [Option.bind_eq_bind, Option.bind_some, hrest]

/-- **Records in front** are parsed whatever follows. -/
theorem parsePacket_append {parts : List Bytes} (h : ∀ part ∈ parts, IsRecord part) (tail : Bytes) :
    parsePacket (parts.flatten ++ tail) = (parsePacket tail).map (parts.map recordAt ++ ·) := by
  induction parts with
  | nil => simp
  | cons part parts ih =>
    obtain ⟨hpart, hparts⟩ := List.forall_mem_cons.mp h
    have hlength : part.length = 13 + contentLength part := hpart
    obtain ⟨turns, hturns⟩ : ∃ t, (part ++ (parts.flatten ++ tail)).length = t + 1 :=
      ⟨(part ++ (parts.flatten ++ tail)).length - 1, by rw [List.length_append]; omega⟩
    have hrest : (parts.flatten ++ tail).length ≤ turns := by
      rw [List.length_append] at hturns
      omega
    rw [List.flatten_cons, List.append_assoc, parsePacket, hturns, parseRecords_record hpart,
      parseRecords_of_length_le hrest, ih hparts, Option.map_map]
    rfl

lemma parsePacket_truncated {tail : Bytes} (h : Truncated tail) : parsePacket tail =
    if tail = [] ∨ 13 ≤ tail.length ∧ tail.length < 12 + contentLength tail then some []
    else none := by
  by_cases hnil : tail = []
  · subst hnil
    rfl
  · have hpos := List.length_pos_iff.mpr hnil
    obtain ⟨turns, hturns⟩ : ∃ t, tail.length = t + 1 := ⟨tail.length - 1, by omega⟩
    rw [← parseRecords_of_length_le hturns.le, parseRecords_truncated h hnil]
    simp [hnil]

/-! ## Which datagrams are handled -/

/-- Behind the whole records nothing is left, or a header whose fragment lacks more than one byte. -/
def CleanlyCut (data : Bytes) : Prop :=
  ∃ (parts : List Bytes) (tail : Bytes), (∀ part ∈ parts, IsRecord part) ∧
    data = parts.flatten ++ tail ∧
    (tail = [] ∨ 13 ≤ tail.length ∧ tail.length < 12 + contentLength tail)

theorem isSome_parsePacket_iff {data : Bytes} : (parsePacket data).isSome ↔ CleanlyCut data := by
  constructor
  · intro h
    obtain ⟨parts, tail, hparts, htail, rfl⟩ := exists_records data
    rw [parsePacket_append hparts, Option.isSome_map, parsePacket_truncated htail] at h
    refine ⟨parts, tail, hparts, rfl, ?_⟩
    by_contra hcut
    rw [if_neg hcut] at h
    cases h
  · rintro ⟨parts, tail, hparts, rfl, hcut⟩
    have htail : Truncated tail := by
      rcases hcut with rfl | ⟨-, hlt⟩
      · exact Nat.succ_pos _
      · exact hlt.trans (by omega)
    rw [parsePacket_append hparts, Option.isSome_map, parsePacket_truncated htail, if_pos hcut]
    rfl

section

variable (P : Primitives) (onHandleHandshakes : List FragmentedHandshake → Socket → Socket)

/-- What has to hold of a datagram that comes in, whatever its bytes are. -/
structure Robust (data : Bytes) (e : Endpoint) : Prop where
  returns : (udpOnMessage P onHandleHandshakes data e).isSome
  /-- More turns change nothing. -/
  recordLoop : ∀ turns, data.length ≤ turns → parseRecords turns data = parsePacket data
  handshakeLoop : ∀ raw turns, raw.length ≤ turns →
    parseHandshakes turns raw = parseHandshakes raw.length raw
  lengths : ∀ packets, parsePacket data = some packets → ∃ (parts : List Bytes) (tail : Bytes),
    data = parts.flatten ++ tail ∧ List.Forall₂ (fun packet bytes =>
      DtlsPlaintext.deSerialize bytes = some packet ∧ IsRecord bytes ∧
        packet.fragment.length = contentLength bytes) packets parts
  /-- Whole records are handled as if they were all, and then what follows them. -/
  records : ∀ (parts : List Bytes) (tail : Bytes), (∀ part ∈ parts, IsRecord part) →
    data = parts.flatten ++ tail →
    ∃ e', udpOnMessage P onHandleHandshakes parts.flatten e = some e' ∧
      udpOnMessage P onHandleHandshakes data e = udpOnMessage P onHandleHandshakes tail e' ∧
      (Truncated tail → udpOnMessage P onHandleHandshakes data e = some e')

variable {P onHandleHandshakes} {e : Endpoint} {data : Bytes}

lemma isSome_udpOnMessage : (udpOnMessage P onHandleHandshakes data e).isSome ↔ CleanlyCut data := by
  rw [← isSome_parsePacket_iff, udpOnMessage]
  cases parsePacket data <;> simp

lemma udpOnMessage_records {parts : List Bytes} (h : ∀ part ∈ parts, IsRecord part) (tail : Bytes) :
    udpOnMessage P onHandleHandshakes (parts.flatten ++ tail) e =
      udpOnMessage P onHandleHandshakes tail
        ((parts.map recordAt).foldl (onPacket P onHandleHandshakes) e) := by
  rw [udpOnMessage, udpOnMessage, parsePacket_append h]
  cases parsePacket tail with
  | none => rfl
  | some packets => simp

lemma udpOnMessage_flatten {parts : List Bytes} (h : ∀ part ∈ parts, IsRecord part) :
    udpOnMessage P onHandleHandshakes parts.flatten e =
      some ((parts.map recordAt).foldl (onPacket P onHandleHandshakes) e) := by
  have hrecords := @udpOnMessage_records P onHandleHandshakes e parts h []
  rwa [List.append_nil] at hrecords

/-- The records of a datagram have the lengths that their headers state. -/
lemma lengths_parsePacket {packets : List DtlsPlaintext} (h : parsePacket data = some packets) :
    ∃ (parts : List Bytes) (tail : Bytes), data = parts.flatten ++ tail ∧
      List.Forall₂ (fun packet bytes =>
      DtlsPlaintext.deSerialize bytes = some packet ∧ IsRecord bytes ∧
        packet.fragment.length = contentLength bytes) packets parts := by
  obtain ⟨parts, tail, hparts, htail, rfl⟩ := exists_records data
  rw [parsePacket_append hparts, parsePacket_truncated htail] at h
  obtain ⟨rest, hrest, rfl⟩ := Option.map_eq_some_iff.mp h
  obtain rfl : rest = [] := by
    split_ifs at hrest
    exact (Option.some.inj hrest).symm
  refine ⟨parts, tail, rfl, ?_⟩
  rw [List.append_nil, List.forall₂_map_left_iff, List.forall₂_same]
  intro part hpart
  have hrecord : part.length = 13 + contentLength part := hparts part hpart
  refine ⟨DtlsPlaintext.deSerialize_eq hrecord.ge, hrecord, ?_⟩
  rw [recordAt, List.length_take, List.length_drop]
  omega

/-- **Which datagrams are handled.**  Exactly those that are cut cleanly; of the others no record is
handled at all. -/
theorem robust_iff (P : Primitives) (onHandleHandshakes : List FragmentedHandshake → Socket → Socket)
    (data : Bytes) (e : Endpoint) : Robust P onHandleHandshakes data e ↔ CleanlyCut data := by
  refine ⟨fun h => isSome_udpOnMessage.mp h.returns, fun h => ?_⟩
  have hreturns : (udpOnMessage P onHandleHandshakes data e).isSome := isSome_udpOnMessage.mpr h
  exact {
    returns := hreturns
    recordLoop := fun turns hturns => parseRecords_of_length_le hturns
    handshakeLoop := fun raw turns hturns => parseHandshakes_of_length_le hturns le_rfl
    lengths := fun packets hpackets => lengths_parsePacket hpackets
    records := by
      rintro parts tail hparts rfl
      refine ⟨_, udpOnMessage_flatten hparts, udpOnMessage_records hparts tail, fun htail => ?_⟩
      rw [udpOnMessage_records hparts] at hreturns ⊢
      rw [udpOnMessage, parsePacket_truncated htail] at hreturns ⊢
      split_ifs at hreturns ⊢
      · rfl
      · cases hreturns }

end

/-- No cryptography. -/
def noPrimitives : Primitives where
  createHmac _ _ _ := []
  createHash _ := []
  computeSecret _ _ _ := none
  createSign _ _ _ := []
  createCipheriv _ _ _ _ := []
  createDecipheriv _ _ _ _ _ := none

/-- A client before its handshake. -/
def newEndpoint : Endpoint where
  socket := { sessionType := .client, options := {}, cipher := {} }

/-- A `close_notify`. -/
private def closeNotify : Bytes := [21, 254, 253, 0, 0, 0, 0, 0, 0, 0, 0, 0, 2, 1, 0]

/-- One byte behind an alert, or a second alert that lacks its last byte, and the alert is not handled. -/
theorem not_robust_closeNotify :
    (udpOnMessage noPrimitives (fun _ s => s) closeNotify newEndpoint).map (fun e => e.socket.fired) =
      some [.close] ∧
    ¬ Robust noPrimitives (fun _ s => s) (closeNotify ++ [0]) newEndpoint ∧
    ¬ Robust noPrimitives (fun _ s => s) (closeNotify ++ closeNotify.dropLast) newEndpoint := by
  refine ⟨by decide +kernel, fun h => ?_, fun h => ?_⟩
  · have hnone : parsePacket (closeNotify ++ [0]) = none := by decide +kernel
    have hreturns := h.returns
    rw [udpOnMessage, hnone] at hreturns
    cases hreturns
  · have hnone : parsePacket (closeNotify ++ closeNotify.dropLast) = none := by decide +kernel
    have hreturns := h.returns
    rw [udpOnMessage, hnone] at hreturns
    cases hreturns

end Werift.Dtls
