import Werift.Common.Binary
import Werift.Js.Text
import Werift.Lib.Except
import Werift.Webrtc.StreamIds

/-!
# DATA_CHANNEL_OPEN (RFC 8832, section 5.1)

A channel is announced to the peer by a message with its parameters, from which the peer makes its own channel.
The peer refuses a message that is shorter than its header, but does not compare the lengths in the header with
the length of the message (`dataChannelOpen_iff`).
-/

namespace Werift.Webrtc

namespace DataChannels

open Js (encodeUtf8 decodeUtf8)

def DATA_CHANNEL_ACK : ℕ := 2
def DATA_CHANNEL_OPEN : ℕ := 3

def DATA_CHANNEL_RELIABLE : ℕ := 0x00
def DATA_CHANNEL_PARTIAL_RELIABLE_REXMIT : ℕ := 0x01
def DATA_CHANNEL_PARTIAL_RELIABLE_TIMED : ℕ := 0x02
def DATA_CHANNEL_RELIABLE_UNORDERED : ℕ := 0x80
def DATA_CHANNEL_PARTIAL_RELIABLE_REXMIT_UNORDERED : ℕ := 0x81
def DATA_CHANNEL_PARTIAL_RELIABLE_TIMED_UNORDERED : ℕ := 0x82

def WEBRTC_STRING_EMPTY : ℕ := 56
def WEBRTC_BINARY_EMPTY : ℕ := 57

structure RTCDataChannelParameters where
  label : String := ""
  maxPacketLifeTime : Option ℕ := none
  maxRetransmits : Option ℕ := none
  ordered : Bool := true
  protocol : String := ""
  negotiated : Bool := false
  id : Option ℕ := none
deriving DecidableEq

/-- `assertDataChannelFieldLengths(fields)`, for one of the fields. -/
def assertFieldLength (name text : String) : Except String Unit :=
  let bytes := (encodeUtf8 text).length
  if bytes > 0xffff then
    .error s!"Data channel {name} is {bytes} bytes in UTF-8; the maximum is 65535"
  else .ok ()

def assertDataChannelFieldLengths (parameters : RTCDataChannelParameters) : Except String Unit := do
  assertFieldLength "label" parameters.label
  assertFieldLength "protocol" parameters.protocol

/-- `writeUInt8`, `writeUInt16BE` and `writeUInt32BE`, for a field of `k` bytes. -/
def writeUInt (k value : ℕ) : Except String Bytes :=
  if value < 256 ^ k then .ok (BigEndian.encode k value)
  else .error "ERR_OUT_OF_RANGE"

/-- The channel type and the reliability parameter of a channel. -/
def channelType (parameters : RTCDataChannelParameters) : ℕ × ℕ :=
  match parameters.maxRetransmits, parameters.maxPacketLifeTime with
  | some maxRetransmits, _ =>
    (if parameters.ordered then DATA_CHANNEL_PARTIAL_RELIABLE_REXMIT
      else DATA_CHANNEL_PARTIAL_RELIABLE_REXMIT_UNORDERED, maxRetransmits)
  | none, some maxPacketLifeTime =>
    (if parameters.ordered then DATA_CHANNEL_PARTIAL_RELIABLE_TIMED
      else DATA_CHANNEL_PARTIAL_RELIABLE_TIMED_UNORDERED, maxPacketLifeTime)
  | none, none => (if parameters.ordered then DATA_CHANNEL_RELIABLE else DATA_CHANNEL_RELIABLE_UNORDERED, 0)

/-- The message that `dataChannelOpen` sends. -/
def openMessage (parameters : RTCDataChannelParameters) : Except String Bytes := do
  let label := encodeUtf8 parameters.label
  let protocol := encodeUtf8 parameters.protocol
  let priority := 0
  let (channelType, reliability) := channelType parameters
  let messageTypeField ← writeUInt 1 DATA_CHANNEL_OPEN
  let channelTypeField ← writeUInt 1 channelType
  let priorityField ← writeUInt 2 priority
  let reliabilityField ← writeUInt 4 reliability
  let labelLengthField ← writeUInt 2 label.length
  let protocolLengthField ← writeUInt 2 protocol.length
  .ok (messageTypeField ++ (channelTypeField ++ (priorityField ++ (reliabilityField ++
    (labelLengthField ++ (protocolLengthField ++ (label ++ protocol)))))))

/-- What the peer reads in a message that is not shorter than its header. -/
def parseOpen (streamId : ℕ) (data : Bytes) : RTCDataChannelParameters :=
  let channelType := readNat 1 data 1
  let reliability := readNat 4 data 4
  let labelLength := readNat 2 data 8
  let protocolLength := readNat 2 data 10
  { label := decodeUtf8 ((data.drop 12).take labelLength)
    ordered := channelType &&& 0x80 = 0
    maxPacketLifeTime := if channelType &&& 0x03 = 2 then some reliability else none
    maxRetransmits := if channelType &&& 0x03 = 1 then some reliability else none
    protocol := decodeUtf8 ((data.drop (12 + labelLength)).take protocolLength)
    id := some streamId }

/-- An `RTCSctpTransport` with the parameters of its channels, of which there are `count`. -/
structure RTCSctpTransport where
  transport : Transport
  count : ℕ := 0
  parameters : ℕ → RTCDataChannelParameters := fun _ => {}
  stopped : Bool := false

namespace RTCSctpTransport

variable (s : RTCSctpTransport)

/-- A new channel with these parameters. -/
def add (parameters : RTCDataChannelParameters) : RTCSctpTransport :=
  { s with
    count := s.count + 1
    parameters := Function.update s.parameters s.count parameters
    transport := s.transport.modify s.count fun _ =>
      { id := parameters.id, negotiated := parameters.negotiated } }

/-- `this.dataChannels[id]`. -/
def channel? (id : ℕ) : Option ℕ := s.transport.dataChannels.get? id

/-- `dataChannelAddNegotiated(channel)` of a channel with this id. -/
def dataChannelAddNegotiated (c id : ℕ) : Except String RTCSctpTransport :=
  if (s.channel? id).isSome then .error ""
  else
    let transport := { s.transport with dataChannels := s.transport.dataChannels.set id c }
    .ok { s with transport := if transport.established then transport.setReadyState c .open else transport }

/-- `dataChannelOpen(channel)`. -/
def dataChannelOpen (c : ℕ) : Except String RTCSctpTransport :=
  let id := (s.transport.channels c).id
  if (id.bind s.channel?).isSome then .error s!"Data channel with ID {id.getD 0} already registered"
  else do
    let send ← openMessage (s.parameters c)
    .ok { s with transport := (s.transport.dataChannelOpen c send).getD s.transport }

/-- `new RTCDataChannel(sctp, parameters, sendOpen)`; the channel is the one with the number `count`. -/
def construct (parameters : RTCDataChannelParameters) (sendOpen : Bool) : Except String RTCSctpTransport := do
  assertDataChannelFieldLengths parameters
  if parameters.negotiated then
    match parameters.id with
    | some id =>
      if id > 65534 then
        .error "ID must be in range 0-65534 if data channel is negotiated out-of-band"
      else (s.add parameters).dataChannelAddNegotiated s.count id
    | none => .error "ID must be in range 0-65534 if data channel is negotiated out-of-band"
  else if sendOpen then (s.add parameters).dataChannelOpen s.count
  else .ok (s.add parameters)

/-- A channel of the peer is registered, and open. -/
def register (streamId : ℕ) (parameters : RTCDataChannelParameters) : Except String RTCSctpTransport := do
  let s' ← s.construct parameters false
  let transport := { s'.transport with dataChannels := s'.transport.dataChannels.set streamId s.count }
  .ok { s' with transport := transport.setReadyState s.count .open }

/-- The answer to an open message. -/
def acknowledge (streamId : ℕ) : RTCSctpTransport :=
  match s.channel? streamId with
  | some c =>
    let ack : QueueItem := ⟨c, WEBRTC_DCEP, [UInt8.ofNat DATA_CHANNEL_ACK]⟩
    let transport := { s.transport with dataChannelQueue := s.transport.dataChannelQueue ++ [ack] }
    { s with transport := transport.dataChannelFlush }
  | none => s

/-- `datachannelReceive(streamId, ppId, data)`, without the delivery of messages. -/
def datachannelReceive (streamId ppId : ℕ) (data : Bytes) : Except String RTCSctpTransport :=
  if s.stopped then .ok s
  else if ppId = WEBRTC_DCEP ∧ data ≠ [] then
    if (data.headD 0).toNat = DATA_CHANNEL_OPEN then
      if data.length < 12 then .ok s
      else do
        let s ← if (s.channel? streamId).isSome then .ok s else s.register streamId (parseOpen streamId data)
        .ok (s.acknowledge streamId)
    else if (data.headD 0).toNat = DATA_CHANNEL_ACK then
      match s.channel? streamId with
      | some c => .ok { s with transport := s.transport.setReadyState c .open }
      | none => .error "channel not found"
    else .ok s
  else if (s.channel? streamId).isSome ∧
      ppId ∉ [WEBRTC_STRING, WEBRTC_STRING_EMPTY, WEBRTC_BINARY, WEBRTC_BINARY_EMPTY] then .error ""
  else .ok s

end RTCSctpTransport

/-! ## The message -/

variable {parameters : RTCDataChannelParameters} {message : Bytes}

lemma writeUInt_eq_ok {k value : ℕ} {field : Bytes} :
    writeUInt k value = .ok field ↔ value < 256 ^ k ∧ BigEndian.encode k value = field := by
  rw [writeUInt]
  split_ifs with h
  · rw [Except.ok.injEq, and_iff_right h]
  · exact iff_of_false nofun fun hfield => h hfield.1

/-- The header of a message. -/
def header (channelType reliability labelLength protocolLength : ℕ) : Bytes :=
  BigEndian.encode 1 DATA_CHANNEL_OPEN ++ (BigEndian.encode 1 channelType ++ (BigEndian.encode 2 0 ++
    (BigEndian.encode 4 reliability ++ (BigEndian.encode 2 labelLength ++ BigEndian.encode 2 protocolLength))))

lemma channelType_lt (parameters : RTCDataChannelParameters) : (channelType parameters).1 < 256 := by
  rw [channelType]
  cases parameters.maxRetransmits <;> cases parameters.maxPacketLifeTime <;> cases parameters.ordered <;>
    exact Nat.le_of_ble_eq_true rfl

/-- The bits of a channel type. -/
lemma channelType_bits (parameters : RTCDataChannelParameters) :
    ((channelType parameters).1 &&& 0x80 = 0 ↔ parameters.ordered = true) ∧
      (channelType parameters).1 &&& 0x03 =
        if parameters.maxRetransmits.isSome then 1 else if parameters.maxPacketLifeTime.isSome then 2 else 0 := by
  rw [channelType]
  cases parameters.maxRetransmits <;> cases parameters.maxPacketLifeTime <;> cases parameters.ordered <;>
    simp [DATA_CHANNEL_RELIABLE, DATA_CHANNEL_PARTIAL_RELIABLE_REXMIT, DATA_CHANNEL_PARTIAL_RELIABLE_TIMED,
      DATA_CHANNEL_RELIABLE_UNORDERED, DATA_CHANNEL_PARTIAL_RELIABLE_REXMIT_UNORDERED,
      DATA_CHANNEL_PARTIAL_RELIABLE_TIMED_UNORDERED]

/-- **The message of a channel.** -/
lemma openMessage_eq_ok (h : openMessage parameters = .ok message) :
    (channelType parameters).2 < 256 ^ 4 ∧ (encodeUtf8 parameters.label).length < 256 ^ 2 ∧
      (encodeUtf8 parameters.protocol).length < 256 ^ 2 ∧
      message = header (channelType parameters).1 (channelType parameters).2 (encodeUtf8 parameters.label).length
        (encodeUtf8 parameters.protocol).length ++
          (encodeUtf8 parameters.label ++ encodeUtf8 parameters.protocol) := by
  rw [openMessage] at h
  generalize channelType parameters = fields at h ⊢
  obtain ⟨type, reliability⟩ := fields
  obtain ⟨messageTypeField, hmessageType, h⟩ := Except.bind_eq_ok.mp h
  obtain ⟨channelTypeField, hchannelType, h⟩ := Except.bind_eq_ok.mp h
  obtain ⟨priorityField, hpriority, h⟩ := Except.bind_eq_ok.mp h
  obtain ⟨reliabilityField, hreliability, h⟩ := Except.bind_eq_ok.mp h
  obtain ⟨labelLengthField, hlabelLength, h⟩ := Except.bind_eq_ok.mp h
  obtain ⟨protocolLengthField, hprotocolLength, h⟩ := Except.bind_eq_ok.mp h
  refine ⟨(writeUInt_eq_ok.mp hreliability).1, (writeUInt_eq_ok.mp hlabelLength).1,
    (writeUInt_eq_ok.mp hprotocolLength).1, ?_⟩
  rw [← Except.ok.inj h, ← (writeUInt_eq_ok.mp hmessageType).2, ← (writeUInt_eq_ok.mp hchannelType).2,
    ← (writeUInt_eq_ok.mp hpriority).2, ← (writeUInt_eq_ok.mp hreliability).2,
    ← (writeUInt_eq_ok.mp hlabelLength).2, ← (writeUInt_eq_ok.mp hprotocolLength).2]
  simp only [header, List.append_assoc]

lemma length_header (channelType reliability labelLength protocolLength : ℕ) :
    (header channelType reliability labelLength protocolLength).length = 12 := by
  simp only [header, List.length_append, BigEndian.length_encode]

/-- The fields of a header. -/
lemma readNat_header {channelType reliability labelLength protocolLength : ℕ} (hchannelType : channelType < 256)
    (hreliability : reliability < 256 ^ 4) (hlabelLength : labelLength < 256 ^ 2)
    (hprotocolLength : protocolLength < 256 ^ 2) (rest : Bytes) :
    let data := header channelType reliability labelLength protocolLength ++ rest
    readNat 1 data 1 = channelType ∧ readNat 4 data 4 = reliability ∧ readNat 2 data 8 = labelLength ∧
      readNat 2 data 10 = protocolLength := by
  have hread : ∀ k n pos (pre post : Bytes), n < 256 ^ k → pre.length = pos →
      readNat k (pre ++ (BigEndian.encode k n ++ post)) pos = n := fun k n pos pre post hn hpos =>
    readNat_append pre hn hpos post
  simp only [header, List.append_assoc]
  refine ⟨?_, ?_, ?_, ?_⟩
  · exact hread 1 channelType 1 (BigEndian.encode 1 DATA_CHANNEL_OPEN) _ (by omega) rfl
  · have h := hread 4 reliability 4 (BigEndian.encode 1 DATA_CHANNEL_OPEN ++ (BigEndian.encode 1 channelType ++
      BigEndian.encode 2 0)) (BigEndian.encode 2 labelLength ++ (BigEndian.encode 2 protocolLength ++ rest))
      hreliability (by simp only [List.length_append, BigEndian.length_encode])
    simpa only [List.append_assoc] using h
  · have h := hread 2 labelLength 8 (BigEndian.encode 1 DATA_CHANNEL_OPEN ++ (BigEndian.encode 1 channelType ++
      (BigEndian.encode 2 0 ++ BigEndian.encode 4 reliability))) (BigEndian.encode 2 protocolLength ++ rest)
      hlabelLength (by simp only [List.length_append, BigEndian.length_encode])
    simpa only [List.append_assoc] using h
  · have h := hread 2 protocolLength 10 (BigEndian.encode 1 DATA_CHANNEL_OPEN ++ (BigEndian.encode 1 channelType ++
      (BigEndian.encode 2 0 ++ (BigEndian.encode 4 reliability ++ BigEndian.encode 2 labelLength)))) rest
      hprotocolLength (by simp only [List.length_append, BigEndian.length_encode])
    simpa only [List.append_assoc] using h

/-- What two channels of an association have in common. -/
structure Announced (parameters parameters' : RTCDataChannelParameters) : Prop where
  label : parameters'.label = parameters.label
  protocol : parameters'.protocol = parameters.protocol
  ordered : parameters'.ordered = parameters.ordered
  maxRetransmits : parameters'.maxRetransmits = parameters.maxRetransmits
  maxPacketLifeTime : parameters'.maxPacketLifeTime = parameters.maxPacketLifeTime

/-- **Round trip**, of a channel that is reliable in one way at most. -/
lemma parseOpen_openMessage (h : openMessage parameters = .ok message)
    (hreliability : parameters.maxRetransmits = none ∨ parameters.maxPacketLifeTime = none) (streamId : ℕ) :
    Announced parameters (parseOpen streamId message) := by
  obtain ⟨hlt, hlabel, hprotocol, rfl⟩ := openMessage_eq_ok h
  obtain ⟨htype, hvalue, hlabelLength, hprotocolLength⟩ := readNat_header (channelType_lt parameters) hlt hlabel
    hprotocol (encodeUtf8 parameters.label ++ encodeUtf8 parameters.protocol)
  have hdrop : ∀ rest, (header (channelType parameters).1 (channelType parameters).2
      (encodeUtf8 parameters.label).length (encodeUtf8 parameters.protocol).length ++ rest).drop 12 = rest :=
    fun rest => List.drop_left' (length_header _ _ _ _)
  refine ⟨?_, ?_, ?_, ?_, ?_⟩
  · rw [parseOpen, hlabelLength, hdrop, List.take_left, Js.decodeUtf8_encodeUtf8]
  · rw [parseOpen, hlabelLength, hprotocolLength, ← List.drop_drop, hdrop, List.drop_left, List.take_length,
      Js.decodeUtf8_encodeUtf8]
  · rw [parseOpen, htype]
    simp only [(channelType_bits parameters).1, Bool.decide_eq_true]
  · rw [parseOpen, htype, hvalue, (channelType_bits parameters).2, channelType]
    cases parameters.maxRetransmits <;> cases parameters.maxPacketLifeTime <;> rfl
  · rw [parseOpen, htype, hvalue, (channelType_bits parameters).2, channelType]
    rcases hreliability with hnone | hnone <;> rw [hnone]
    · cases parameters.maxPacketLifeTime <;> rfl
    · cases parameters.maxRetransmits <;> rfl

/-! ## The peer -/

/-- The message is too short for the lengths that it states. -/
def TooShort (data : Bytes) : Prop := data.length < 12 + readNat 2 data 8 + readNat 2 data 10

instance (data : Bytes) : Decidable (TooShort data) := inferInstanceAs (Decidable (_ < _))

namespace RTCSctpTransport

variable {s s' : RTCSctpTransport} {streamId : ℕ} {data : Bytes}

/-- A channel with these parameters is made, and registered under the stream id. -/
structure Creates (s s' : RTCSctpTransport) (streamId : ℕ) (parameters : RTCDataChannelParameters) : Prop where
  fresh : s.channel? streamId = none
  registered : s'.channel? streamId = some s.count
  count : s'.count = s.count + 1
  announced : Announced parameters (s'.parameters s.count)

@[simp] lemma count_acknowledge : (s.acknowledge streamId).count = s.count := by
  rw [acknowledge]
  cases s.channel? streamId <;> rfl

@[simp] lemma parameters_acknowledge : (s.acknowledge streamId).parameters = s.parameters := by
  rw [acknowledge]
  cases s.channel? streamId <;> rfl

lemma channel?_acknowledge {id c : ℕ} (h : s.channel? id = some c) :
    (s.acknowledge streamId).channel? id = some c := by
  rw [acknowledge]
  cases s.channel? streamId with
  | none => exact h
  | some d => exact Transport.get?_dataChannelFlush h

/-- What the constructor accepts can be announced. -/
lemma openMessage_of_construct (h : s.construct parameters true = .ok s')
    (hnegotiated : parameters.negotiated = false) :
    assertDataChannelFieldLengths parameters = .ok () ∧ ∃ message, openMessage parameters = .ok message := by
  rw [construct] at h
  obtain ⟨_, hlengths, h⟩ := Except.bind_eq_ok.mp h
  rw [hnegotiated, if_neg Bool.false_ne_true, if_pos rfl, dataChannelOpen] at h
  have hparameters : (s.add parameters).parameters s.count = parameters := Function.update_self ..
  rw [hparameters] at h
  split_ifs at h
  obtain ⟨message, hmessage, -⟩ := Except.bind_eq_ok.mp h
  exact ⟨hlengths, message, hmessage⟩

/-- What is registered for an open message. -/
lemma register_eq (parameters : RTCDataChannelParameters) (hnegotiated : parameters.negotiated = false) :
    s.register streamId parameters = assertDataChannelFieldLengths parameters >>= fun _ =>
      let transport := { (s.add parameters).transport with
        dataChannels := s.transport.dataChannels.set streamId s.count }
      .ok { s.add parameters with transport := transport.setReadyState s.count .open } := by
  rw [register, construct, bind_assoc]
  refine congrArg _ (funext fun _ => ?_)
  rw [hnegotiated, if_neg Bool.false_ne_true, if_neg Bool.false_ne_true]
  rfl

/-- An open message that is not shorter than its header, for a stream without a channel. -/
lemma datachannelReceive_open (hstopped : s.stopped = false) (hfree : s.channel? streamId = none)
    (htype : (data.headD 0).toNat = DATA_CHANNEL_OPEN) (hlength : 12 ≤ data.length) :
    s.datachannelReceive streamId WEBRTC_DCEP data =
      s.register streamId (parseOpen streamId data) >>= fun s => .ok (s.acknowledge streamId) := by
  have hne : data ≠ [] := by
    rintro rfl
    exact absurd hlength (by decide)
  rw [datachannelReceive, hstopped, if_neg Bool.false_ne_true, if_pos ⟨rfl, hne⟩, if_pos htype,
    if_neg (not_lt.mpr hlength), hfree, if_neg (by decide)]

/-- **The message of a channel** makes the peer create one with the same parameters, unless it has stopped or
the stream is not free. -/
lemma creates_iff (peer : RTCSctpTransport) (streamId : ℕ) {message : Bytes}
    (hlengths : assertDataChannelFieldLengths parameters = .ok ())
    (hreliability : parameters.maxRetransmits = none ∨ parameters.maxPacketLifeTime = none)
    (hmessage : openMessage parameters = .ok message) :
    (∃ peer', peer.datachannelReceive streamId WEBRTC_DCEP message = .ok peer' ∧
      Creates peer peer' streamId parameters) ↔ peer.stopped = false ∧ peer.channel? streamId = none := by
  constructor
  · rintro ⟨peer', hreceive, hcreates⟩
    refine ⟨?_, hcreates.fresh⟩
    by_contra hstopped
    rw [datachannelReceive, if_pos (Bool.not_eq_false _ ▸ hstopped)] at hreceive
    have hcount := hcreates.count
    rw [← Except.ok.inj hreceive] at hcount
    omega
  · rintro ⟨hstopped, hfree⟩
    have hannounced := parseOpen_openMessage hmessage hreliability streamId
    obtain ⟨-, -, -, hbytes⟩ := openMessage_eq_ok hmessage
    have htype : (message.headD 0).toNat = DATA_CHANNEL_OPEN := by rw [hbytes]; rfl
    have hlength : 12 ≤ message.length := by
      rw [hbytes, List.length_append, length_header]
      exact Nat.le_add_right _ _
    have hlengths' : assertDataChannelFieldLengths (parseOpen streamId message) = .ok () := by
      rw [assertDataChannelFieldLengths, hannounced.label, hannounced.protocol]
      exact hlengths
    rw [datachannelReceive_open hstopped hfree htype hlength, register_eq _ rfl, hlengths', Except.ok_bind,
      Except.ok_bind]
    refine ⟨_, rfl, hfree, ?_, ?_, ?_⟩
    · apply channel?_acknowledge
      change (peer.transport.dataChannels.set streamId peer.count).get? streamId = some peer.count
      rw [Js.IndexObject.get?_set, if_pos rfl]
    · rw [count_acknowledge]
      rfl
    · rw [parameters_acknowledge]
      have hparameters : (peer.add (parseOpen streamId message)).parameters peer.count =
          parseOpen streamId message := Function.update_self ..
      dsimp only
      rw [hparameters]
      exact hannounced

/-- **A message that is too short** is refused if it is shorter than its header. -/
lemma refuses_iff (peer : RTCSctpTransport) (streamId : ℕ) (htype : (data.headD 0).toNat = DATA_CHANNEL_OPEN)
    (hne : data ≠ []) :
    (∃ peer', peer.datachannelReceive streamId WEBRTC_DCEP data = .ok peer' ∧ peer'.count = peer.count) ↔
      peer.stopped = true ∨ peer.channel? streamId ≠ none ∨ data.length < 12 := by
  by_cases hstopped : peer.stopped = true
  · refine iff_of_true ⟨peer, ?_, rfl⟩ (.inl hstopped)
    rw [datachannelReceive, if_pos hstopped]
  rw [or_iff_right hstopped]
  by_cases hshort : data.length < 12
  · refine iff_of_true ⟨peer, ?_, rfl⟩ (.inr hshort)
    rw [datachannelReceive, if_neg hstopped, if_pos ⟨rfl, hne⟩, if_pos htype, if_pos hshort]
  rw [or_iff_left hshort]
  by_cases hfree : peer.channel? streamId = none
  · refine iff_of_false ?_ (not_not.mpr hfree)
    rintro ⟨peer', hreceive, hcount⟩
    rw [datachannelReceive_open (Bool.eq_false_iff.mpr hstopped) hfree htype (not_lt.mp hshort), register_eq _ rfl,
      bind_assoc] at hreceive
    obtain ⟨_, -, hreceive⟩ := Except.bind_eq_ok.mp hreceive
    rw [← Except.ok.inj hreceive, count_acknowledge] at hcount
    exact absurd hcount (Nat.succ_ne_self _)
  · refine iff_of_true ⟨peer.acknowledge streamId, ?_, count_acknowledge⟩ hfree
    rw [datachannelReceive, if_neg hstopped, if_pos ⟨rfl, hne⟩, if_pos htype, if_neg hshort,
      if_pos (Option.isSome_iff_ne_none.mpr hfree)]
    rfl

/-- **DATA_CHANNEL_OPEN**: the message of a channel that the constructor accepts makes the peer create the
channel, and a message that is too short for the lengths in it is refused if it is shorter than its header.  (A
stopped transport creates nothing, and a message for a channel that is registered is a retransmission.) -/
theorem dataChannelOpen_iff (peer : RTCSctpTransport) (streamId : ℕ) :
    (∀ (s s' : RTCSctpTransport) (parameters : RTCDataChannelParameters),
      s.construct parameters true = .ok s' → parameters.negotiated = false →
      parameters.maxRetransmits = none ∨ parameters.maxPacketLifeTime = none →
      ∃ message, openMessage parameters = .ok message ∧
        ((∃ peer', peer.datachannelReceive streamId WEBRTC_DCEP message = .ok peer' ∧
          Creates peer peer' streamId parameters) ↔ peer.stopped = false ∧ peer.channel? streamId = none)) ∧
    ∀ data : Bytes, (data.headD 0).toNat = DATA_CHANNEL_OPEN → TooShort data →
      ((∃ peer', peer.datachannelReceive streamId WEBRTC_DCEP data = .ok peer' ∧ peer'.count = peer.count) ↔
        peer.stopped = true ∨ peer.channel? streamId ≠ none ∨ data.length < 12) := by
  constructor
  · intro s s' parameters hconstruct hnegotiated hreliability
    obtain ⟨hlengths, message, hmessage⟩ := openMessage_of_construct hconstruct hnegotiated
    exact ⟨message, hmessage, creates_iff peer streamId hlengths hreliability hmessage⟩
  · intro data htype hshort
    refine refuses_iff peer streamId htype ?_
    rintro rfl
    exact absurd htype (by decide)

/-- A transport without channels. -/
def noChannels : RTCSctpTransport := { transport := { channels := fun _ => {} } }

/-- A channel that is not ordered and never retransmits. -/
def unreliable : RTCDataChannelParameters := { ordered := false, maxRetransmits := some 0 }

theorem dataChannelOpen_unreliable :
    (∃ message peer', openMessage unreliable = .ok message ∧
      noChannels.datachannelReceive 1 WEBRTC_DCEP message = .ok peer' ∧ Creates noChannels peer' 1 unreliable) ∧
    ∃ peer', noChannels.datachannelReceive 1 WEBRTC_DCEP [3, 0, 0] = .ok peer' ∧ peer'.count = 0 := by
  obtain ⟨hcreates, hrefuses⟩ := dataChannelOpen_iff noChannels 1
  refine ⟨?_, (hrefuses [3, 0, 0] rfl (by decide)).mpr (.inr (.inr (by decide)))⟩
  obtain ⟨message, hmessage, hiff⟩ := hcreates noChannels _ unreliable rfl rfl (.inr rfl)
  obtain ⟨peer', hreceive, hcreated⟩ := hiff.mpr ⟨rfl, rfl⟩
  exact ⟨message, peer', hmessage, hreceive, hcreated⟩

/-- A header that states a label of five bytes, and nothing behind it. -/
def headerOnly : Bytes := [3, 0, 0, 0, 0, 0, 0, 0, 0, 5, 0, 0]

/-- It makes the peer create a channel. -/
theorem not_refuses_headerOnly : TooShort headerOnly ∧
    ¬∃ peer', noChannels.datachannelReceive 1 WEBRTC_DCEP headerOnly = .ok peer' ∧ peer'.count = 0 := by
  refine ⟨by decide, fun h => ?_⟩
  have hcases := (refuses_iff noChannels 1 rfl (List.cons_ne_nil _ _)).mp h
  revert hcases
  decide

end RTCSctpTransport

end DataChannels

end Werift.Webrtc
