import Werift.Sctp.Sendings
import Werift.Webrtc.SctpTransport

/-!
# The reliability of data channels

`datachannelSend` queues a message, and `dataChannelFlush` hands the queued messages to SCTP, with
the limits of their channels: `maxRetransmits` as it is, and `maxPacketLifeTime` (milliseconds) as
the time `expiry` after which SCTP gives the chunks up.

`Handed.Keeps` says that the chunks of a message stay within the limits of its channel.  It is not
so for every channel: SCTP takes a limit of `0` for no limit, and `expiry` is computed from the
clock in milliseconds while SCTP compares it with the clock in seconds.  `reliability_iff` says for
which channels the limits hold in every run.
-/

namespace Werift.Webrtc

open Sctp Transition

def WEBRTC_DCEP : ℕ := 50
def WEBRTC_STRING : ℕ := 51
def WEBRTC_BINARY : ℕ := 53

/-- `RTCDataChannelParameters`, as far as SCTP is told about them. -/
structure RTCDataChannelParameters where
  ordered : Bool := true
  maxPacketLifeTime : Option ℕ := none
  maxRetransmits : Option ℕ := none
deriving DecidableEq

/-- A channel as `dataChannelFlush` sees it. -/
structure OutgoingChannel where
  parameters : RTCDataChannelParameters := {}
  id : Option ℕ := none
  readyState : DCState := .connecting

/-- A message of a channel that SCTP has got: its chunks have the numbers from `first` on. -/
structure Handed where
  parameters : RTCDataChannelParameters
  time : ℚ
  first : ℕ
  fragments : ℕ

/-- The sending side of an `RTCSctpTransport`.  `channels` are all channels, `dataChannels` are the
stream ids in use, `established` tells whether the association is established, and `handed` are the
messages handed to SCTP so far. -/
structure SctpTransport where
  sctp : Traced
  isServer : Bool
  remoteMaxMessageSize : ℕ
  established : Bool := false
  dataChannelId : Option ℕ := none
  channels : ℕ → OutgoingChannel
  dataChannels : List ℕ := []
  dataChannelQueue : List (ℕ × ℕ × List UInt8) := []
  handed : List Handed := []

namespace SctpTransport

/-- The loop that looks for a free stream id; `fuel` bounds the ids that are tried. -/
def freeStreamId (used : List ℕ) : ℕ → ℕ → ℕ
  | 0, streamId => streamId
  | fuel + 1, streamId =>
    if streamId ∈ used then freeStreamId used fuel (streamId + 2) else streamId

/-- The stream id of a channel, which it gets when its first message is sent. -/
def assignStreamId (t : SctpTransport) (channel : ℕ) : ℕ × SctpTransport :=
  match (t.channels channel).id with
  | some streamId => (streamId, t)
  | none =>
    let streamId := freeStreamId t.dataChannels (t.dataChannels.length + 1) (t.dataChannelId.getD 0)
    (streamId, { t with
      dataChannels := streamId :: t.dataChannels
      channels := Function.update t.channels channel
        { t.channels channel with id := some streamId } })

/-- `expiry` at the time `now` in seconds: `Date.now() + channel.maxPacketLifeTime / 1000`. -/
def expiry (now : ℚ) (parameters : RTCDataChannelParameters) : Option ℚ :=
  parameters.maxPacketLifeTime.map fun lifeTime => 1000 * now + lifeTime / 1000

/-- The arguments of `sctp.send`. -/
def sendArgs (now : ℚ) (parameters : RTCDataChannelParameters) (streamId protocol : ℕ)
    (userData : List UInt8) : SendArgs :=
  if protocol = WEBRTC_DCEP then { streamId, ppId := protocol, userData }
  else
    { streamId
      ppId := protocol
      userData
      expiry := expiry now parameters
      maxRetransmits := parameters.maxRetransmits
      ordered := parameters.ordered }

/-- `sctp.send(...)` for a message of a channel. -/
def handOver (t : SctpTransport) (parameters : RTCDataChannelParameters) (protocol : ℕ)
    (a : SendArgs) : SctpTransport :=
  { t with
    sctp := t.sctp.record (Sender.newChunks t.sctp.sender (.send a)) (t.sctp.sender.send a)
    handed :=
      if protocol = WEBRTC_DCEP then t.handed
      else t.handed ++ [{
        parameters
        time := t.sctp.sender.time
        first := t.sctp.chunks.length
        fragments := a.fragments t.sctp.sender.maxPayloadSize }] }

/-- The loop of `dataChannelFlush` for one message.  The messages of channels that are closing or
closed are dropped. -/
def flushMessage (t : SctpTransport) (message : ℕ × ℕ × List UInt8) : SctpTransport :=
  let channel := t.channels message.1
  if channel.readyState = .closed ∨ channel.readyState = .closing then t
  else
    let assigned := t.assignStreamId message.1
    assigned.2.handOver channel.parameters message.2.1
      (sendArgs t.sctp.sender.time channel.parameters assigned.1 message.2.1 message.2.2)

/-- `dataChannelFlush()`. -/
def dataChannelFlush (t : SctpTransport) : SctpTransport :=
  if t.established then
    let ready := { t with
      dataChannelId := some (t.dataChannelId.getD (if t.isServer then 0 else 1))
      dataChannelQueue := [] }
    t.dataChannelQueue.foldl flushMessage ready
  else t

/-- `dataChannelQueue.push([channel, protocol, userData])` and `dataChannelFlush()`. -/
def push (t : SctpTransport) (channel protocol : ℕ) (userData : List UInt8) : SctpTransport :=
  { t with dataChannelQueue := t.dataChannelQueue ++ [(channel, protocol, userData)]
    }.dataChannelFlush

/-- `datachannelSend(channel, data)`; `none` if it throws. -/
def datachannelSend (t : SctpTransport) (channel : ℕ) (isString : Bool) (userData : List UInt8) :
    Option SctpTransport :=
  if t.remoteMaxMessageSize ≠ 0 ∧ t.remoteMaxMessageSize < userData.length then none
  else some (t.push channel (if isString then WEBRTC_STRING else WEBRTC_BINARY) userData)

/-- What can happen to the transport: a message is sent on a channel; a DCEP message is queued; the
state of a channel, the table of stream ids or the state of the association changes; a SACK is
followed by a flush; or something happens to the association. -/
inductive Event
  | datachannelSend (channel : ℕ) (isString : Bool) (userData : List UInt8)
  | dcep (channel : ℕ) (userData : List UInt8)
  | setReadyState (channel : ℕ) (readyState : DCState)
  | setDataChannels (ids : List ℕ)
  | setEstablished (established : Bool)
  | onSackReceived
  | sctp (event : Sender.Event)

/-- A message is sent. -/
def isSend : Sender.Event → Bool
  | .send _ => true
  | _ => false

/-- A step of the transport; `none` if the event cannot happen.  Only the transport sends messages
to the association. -/
def step (t : SctpTransport) : Event → Option SctpTransport
  | .datachannelSend channel isString userData => t.datachannelSend channel isString userData
  | .dcep channel userData => some (t.push channel WEBRTC_DCEP userData)
  | .setReadyState channel readyState =>
    some { t with channels := Function.update t.channels channel { t.channels channel with readyState } }
  | .setDataChannels ids => some { t with dataChannels := ids }
  | .setEstablished established => some { t with established }.dataChannelFlush
  | .onSackReceived => some t.dataChannelFlush
  | .sctp event =>
    if isSend event then none else (t.sctp.step event).map fun sctp => { t with sctp }

/-- A transport whose channels have not sent anything. -/
def initial (maxPayloadSize : ℕ) (localTsn : ℤ) (rwnd : ℕ) (isServer : Bool)
    (remoteMaxMessageSize : ℕ) (channels : ℕ → OutgoingChannel) : SctpTransport where
  sctp := { sender := Sender.initial maxPayloadSize localTsn rwnd }
  isServer := isServer
  remoteMaxMessageSize := remoteMaxMessageSize
  channels := channels

/-- The search for a free stream id succeeds. -/
lemma freeStreamId_not_mem {used : List ℕ} {fuel : ℕ} (h : used.length < fuel) (streamId : ℕ) :
    freeStreamId used fuel streamId ∉ used := by
  -- every id that is passed over is removed from the ones in use
  have hgen : ∀ (fuel : ℕ) (streamId : ℕ), (used.filter fun id => streamId ≤ id).length < fuel →
      freeStreamId used fuel streamId ∉ used := by
    intro fuel
    induction fuel with
    | zero => exact fun _ hlt => absurd hlt (Nat.not_lt_zero _)
    | succ fuel ih =>
      intro streamId hlt
      rw [freeStreamId]
      split_ifs with hmem
      · apply ih
        have hsub : (used.filter fun id => streamId + 2 ≤ id).Sublist
            (used.filter fun id => streamId ≤ id) :=
          List.monotone_filter_right _ fun id hid => by
            simp only [decide_eq_true_eq] at hid ⊢
            omega
        have hne : (used.filter fun id => streamId + 2 ≤ id) ≠
            used.filter fun id => streamId ≤ id := by
          intro heq
          have hin : streamId ∈ used.filter fun id => streamId ≤ id :=
            List.mem_filter.mpr ⟨hmem, by simp⟩
          rw [← heq, List.mem_filter] at hin
          simp at hin
        have hle := hsub.length_le
        have hlt' : (used.filter fun id => streamId + 2 ≤ id).length ≠
            (used.filter fun id => streamId ≤ id).length := fun hlen => hne (hsub.eq_of_length hlen)
        omega
      · exact hmem
  exact hgen fuel streamId (lt_of_le_of_lt (List.length_filter_le _ _) h)

end SctpTransport

/-! ## The limits of a message -/

/-- The chunks of the message stay within the limits of its channel: none of them is put on the wire
more than `maxRetransmits + 1` times, and none is sent again later than `maxPacketLifeTime`
milliseconds after the message has been handed to SCTP. -/
def Handed.Keeps (m : Handed) (t : Traced) : Prop :=
  ∀ k, m.first ≤ k → k < m.first + m.fragments →
    (∀ n, m.parameters.maxRetransmits = some n → (t.sentAt k).length ≤ n + 1) ∧
    ∀ lifeTime, m.parameters.maxPacketLifeTime = some lifeTime →
      ∀ time ∈ (t.sentAt k).tail, time ≤ m.time + lifeTime / 1000

/-- What every step preserves: SCTP knows the limits of the messages. -/
structure LimitsKnown (t : SctpTransport) : Prop where
  kept : KeptInv t.sctp.sender
  counted : Sctp.Counted t.sctp
  limits : ∀ m ∈ t.handed, ∀ k, m.first ≤ k → k < m.first + m.fragments →
    (t.sctp.chunks[k]?).map DataChunk.maxRetransmits = some m.parameters.maxRetransmits

namespace LimitsKnown

open SctpTransport

variable {t t' : SctpTransport}

/-- Only the association and the messages matter. -/
lemma congr (h : LimitsKnown t) (hsctp : t'.sctp = t.sctp) (hhanded : t'.handed = t.handed) :
    LimitsKnown t' := by
  refine ⟨hsctp ▸ h.kept, hsctp ▸ h.counted, ?_⟩
  rw [hsctp, hhanded]
  exact h.limits

/-- Chunks are only added. -/
lemma limits_append (h : LimitsKnown t) (new : List DataChunk) : ∀ m ∈ t.handed, ∀ k,
    m.first ≤ k → k < m.first + m.fragments →
      ((t.sctp.chunks ++ new)[k]?).map DataChunk.maxRetransmits =
        some m.parameters.maxRetransmits := by
  intro m hm k h1 h2
  have hk := h.limits m hm k h1 h2
  obtain ⟨c, hc, hlimit⟩ := Option.map_eq_some_iff.mp hk
  have hlt := (List.getElem?_eq_some_iff.mp hc).1
  rw [List.getElem?_append_left hlt, hc, Option.map_some, hlimit]

lemma handOver (h : LimitsKnown t) {parameters : RTCDataChannelParameters} {protocol : ℕ}
    {a : SendArgs} (ha : protocol ≠ WEBRTC_DCEP → a.maxRetransmits = parameters.maxRetransmits) :
    LimitsKnown (t.handOver parameters protocol a) := by
  have hstep : t.sctp.step (.send a) =
      some (t.sctp.record (Sender.newChunks t.sctp.sender (.send a)) (t.sctp.sender.send a)) := rfl
  refine ⟨h.kept.step (e := .send a) rfl, h.counted.step h.kept hstep, ?_⟩
  intro m hm k h1 h2
  unfold SctpTransport.handOver at hm
  dsimp only at hm
  split_ifs at hm with hdcep
  · exact h.limits_append _ m hm k h1 h2
  · rcases List.mem_append.mp hm with hm | hm
    · exact h.limits_append _ m hm k h1 h2
    · obtain rfl := List.mem_singleton.mp hm
      dsimp only at h1 h2 ⊢
      change ((t.sctp.chunks ++ Sender.newChunks t.sctp.sender (.send a))[k]?).map _ = _
      rw [List.getElem?_append_right h1]
      have hlt : k - t.sctp.chunks.length < a.fragments t.sctp.sender.maxPayloadSize := by omega
      have hchunk : (Sender.newChunks t.sctp.sender (.send a))[k - t.sctp.chunks.length]? =
          some (a.fragmentChunk t.sctp.sender.maxPayloadSize t.sctp.sender.localTsn
            (t.sctp.sender.outboundStreamSeq a.streamId) (k - t.sctp.chunks.length)) := by
        simp [Sender.newChunks, SendArgs.chunks, hlt]
      rw [hchunk, Option.map_some, ← ha hdcep]
      rfl

lemma assignStreamId (h : LimitsKnown t) (channel : ℕ) :
    LimitsKnown (t.assignStreamId channel).2 := by
  unfold SctpTransport.assignStreamId
  split
  · exact h
  · exact h.congr rfl rfl

lemma flushMessage (h : LimitsKnown t) (message : ℕ × ℕ × List UInt8) :
    LimitsKnown (t.flushMessage message) := by
  unfold SctpTransport.flushMessage
  dsimp only
  split_ifs
  · exact h
  · apply (h.assignStreamId message.1).handOver
    intro hdcep
    rw [sendArgs, if_neg hdcep]

lemma dataChannelFlush (h : LimitsKnown t) : LimitsKnown t.dataChannelFlush := by
  unfold SctpTransport.dataChannelFlush
  by_cases hestablished : t.established = true
  · rw [if_pos hestablished]
    have hfold : ∀ (queue : List (ℕ × ℕ × List UInt8)) (t : SctpTransport), LimitsKnown t →
        LimitsKnown (queue.foldl SctpTransport.flushMessage t) := by
      intro queue
      induction queue with
      | nil => exact fun _ h => h
      | cons message queue ih => exact fun t h => ih _ (h.flushMessage message)
    exact hfold _ _ (h.congr rfl rfl)
  · rw [if_neg hestablished]
    exact h

lemma push (h : LimitsKnown t) (channel protocol : ℕ) (userData : List UInt8) :
    LimitsKnown (t.push channel protocol userData) :=
  dataChannelFlush (t := { t with
    dataChannelQueue := t.dataChannelQueue ++ [(channel, protocol, userData)] }) (h.congr rfl rfl)

lemma sctpStep (h : LimitsKnown t) {event : Sender.Event} {sctp : Traced}
    (hs : t.sctp.step event = some sctp) : LimitsKnown { t with sctp } := by
  have hcounted := h.counted.step h.kept hs
  obtain ⟨s', hs', rfl⟩ := Traced.step_eq_some.mp hs
  exact ⟨h.kept.step hs', hcounted, h.limits_append _⟩

lemma step (h : LimitsKnown t) {e : Event} (hs : t.step e = some t') : LimitsKnown t' := by
  cases e with
  | datachannelSend channel isString userData =>
    obtain ⟨-, hs⟩ := Option.ite_none_left_eq_some.mp hs
    obtain rfl := Option.some.inj hs
    exact h.push _ _ _
  | dcep channel userData =>
    obtain rfl := Option.some.inj hs
    exact h.push _ _ _
  | setReadyState channel readyState =>
    obtain rfl := Option.some.inj hs
    exact h.congr rfl rfl
  | setDataChannels ids =>
    obtain rfl := Option.some.inj hs
    exact h.congr rfl rfl
  | setEstablished established =>
    obtain rfl := Option.some.inj hs
    exact dataChannelFlush (t := { t with established }) (h.congr rfl rfl)
  | onSackReceived =>
    obtain rfl := Option.some.inj hs
    exact h.dataChannelFlush
  | sctp event =>
    obtain ⟨-, hs⟩ := Option.ite_none_left_eq_some.mp hs
    obtain ⟨sctp, hstep, rfl⟩ := Option.map_eq_some_iff.mp hs
    exact h.sctpStep hstep

/-- A message of a channel with a limit other than `0` and without a life time keeps within it. -/
lemma keeps (h : LimitsKnown t) {m : Handed} (hm : m ∈ t.handed)
    (hretransmits : m.parameters.maxRetransmits ≠ some 0)
    (hlife : m.parameters.maxPacketLifeTime = none) : m.Keeps t.sctp := by
  intro k h1 h2
  refine ⟨fun n hn => ?_, fun lifeTime hlifeTime => ?_⟩
  · obtain ⟨c, hc, hlimit⟩ := Option.map_eq_some_iff.mp (h.limits m hm k h1 h2)
    have h0 : n ≠ 0 := fun h0 => hretransmits (h0 ▸ hn)
    exact h.counted.bounded k c n hc (hlimit.trans hn) h0
  · rw [hlife] at hlifeTime
    exact absurd hlifeTime (by simp)

end LimitsKnown

/-! ## Channels whose limits are not kept -/

/-- T3 expires for a single chunk in flight that is within the limits that SCTP knows: it is sent
again. -/
lemma timer3Expired_single {s : Sender} {c : DataChunk} (hidle : s.transmit = .idle)
    (hqueue : s.sentQueue = [c]) (hab : c.abandoned = false)
    (hkeep : c.shouldAbandon s.time = false) (hforward : s.forwardTsnChunk = none)
    (hsize : 0 < s.maxPayloadSize) :
    Sender.numberSent s s.timer3Expired = some s.removed ∧ s.timer3Expired.time = s.time := by
  have hexpired : Sender.expireChunks s.time s.sentQueue = [{ c with retransmit := true }] := by
    rw [hqueue]
    simp [Sender.expireChunks, Sender.expireAt, maybeAbandon_of_not hab hkeep]
  have hexpire : s.expire = { s.markedByTimer with
      sentQueue := [{ c with retransmit := true }], advancedPeerAckTsn := s.peerAckBase } := by
    rw [s.expire_eq, Sender.updateAdvancedPeerAckPoint, Sender.markedByTimer]
    simp only [hexpired, hab, List.takeWhile_cons, Bool.false_eq_true, if_false, List.getLast?_nil]
    rfl
  have hwindow : 0 < min ((0 : ℕ) + 4 * s.maxPayloadSize) s.maxPayloadSize := by omega
  have hstart : s.timer3Expired = Sender.retransmitAt
      { s.expire with transmitRequested := false } 0 { c with retransmit := true }
        (min ((0 : ℕ) + 4 * s.maxPayloadSize) s.maxPayloadSize) true := by
    rw [Sender.timer3Expired, hexpire, Sender.markedByTimer, Sender.startTransmit]
    simp [hidle, Sender.transmitOnce, hforward, Sender.transmitChunks, Sender.retransmitFrom,
      Sender.burstSize, hsize]
  rw [hstart, hexpire]
  exact ⟨by simp [Sender.numberSent, Sender.retransmitAt, Sender.markedByTimer], rfl⟩


/-- A transport with one channel. -/
def oneChannel (parameters : RTCDataChannelParameters) : SctpTransport :=
  SctpTransport.initial 4 0 4 false 0 fun _ =>
    { parameters, id := some 0, readyState := .open }

/-- The sender at a later time. -/
def atTime (t : Traced) (now : ℚ) : Traced := { t with sender := { t.sender with time := now } }

/-- The clock goes on. -/
lemma step_tick {t : SctpTransport} {now : ℚ} (h : t.sctp.sender.time ≤ now) :
    t.step (.sctp (.tick now)) = some { t with sctp := atTime t.sctp now } := by
  have hsender : t.sctp.sender.step (.tick now) = some { t.sctp.sender with time := now } :=
    if_pos h
  have htraced : t.sctp.step (.tick now) = some (atTime t.sctp now) := by
    refine Traced.step_eq_some.mpr ⟨_, hsender, ?_⟩
    apply Eq.symm
    apply Traced.record_of_wire_eq
    rfl
  change (t.sctp.step (.tick now)).map _ = _
  rw [htraced]
  rfl

/-- SCTP does not give up a chunk that has been sent once, whatever its `maxRetransmits` is, before
the clock in seconds has passed the clock in milliseconds. -/
lemma shouldAbandon_first {parameters : RTCDataChannelParameters} {later : ℚ}
    (h : ∀ lifeTime : ℕ, parameters.maxPacketLifeTime = some lifeTime →
      later ≤ 1000 + lifeTime / 1000) :
    DataChunk.shouldAbandon later
      { sentCount := 1, expiry := SctpTransport.expiry 1 parameters,
        maxRetransmits := parameters.maxRetransmits } = false := by
  rw [DataChunk.shouldAbandon, Bool.or_eq_false_iff]
  constructor
  · cases parameters.maxRetransmits with
    | none => rfl
    | some n => cases n <;> simp
  · cases hlife : parameters.maxPacketLifeTime with
    | none => simp [SctpTransport.expiry, hlife]
    | some lifeTime =>
      have hle := h lifeTime hlife
      simp [SctpTransport.expiry, hlife, hle]

/-- The message of one byte is one chunk. -/
lemma chunks_one {a : SendArgs} (h : a.userData = [0]) (localTsn outboundSeq : ℤ) :
    a.fragments 4 = 1 ∧
      a.chunks 4 localTsn outboundSeq = [a.fragmentChunk 4 localTsn outboundSeq 0] := by
  have hone : a.fragments 4 = 1 := by rw [SendArgs.fragments, h]; rfl
  rw [SendArgs.chunks, hone]
  exact ⟨rfl, rfl⟩

/-- The message is handed to SCTP, which sends its chunk and then waits for the T3 timer. -/
lemma handed_once (parameters : RTCDataChannelParameters) :
    ∃ t, [SctpTransport.Event.setEstablished true, .datachannelSend 0 true [0],
      .sctp .resume, .sctp .resume].foldlM SctpTransport.step
        { oneChannel parameters with sctp := atTime (oneChannel parameters).sctp 1 } = some t ∧
      t.sctp.sender.transmit = .idle ∧
      (∃ c, t.sctp.sender.sentQueue = [c] ∧ c.abandoned = false ∧
        ∀ now, c.shouldAbandon now = DataChunk.shouldAbandon now
          { sentCount := 1, expiry := SctpTransport.expiry 1 parameters,
            maxRetransmits := parameters.maxRetransmits }) ∧
      t.sctp.sender.timer3 = true ∧ t.sctp.sender.forwardTsnChunk = none ∧
      0 < t.sctp.sender.maxPayloadSize ∧ t.sctp.sender.removed = 0 ∧ t.sctp.sender.time = 1 ∧
      t.handed = [⟨parameters, 1, 0, 1⟩] ∧ t.sctp.sendings = [(0, 1)] := by
  let a := SctpTransport.sendArgs 1 parameters 0 WEBRTC_STRING [0]
  let sender := (atTime (oneChannel parameters).sctp 1).sender
  have hdata : a.userData = [0] := rfl
  have henqueue : sender.enqueue a = { sender with
      localTsn := a.nextTsn 4 0
      outboundQueue := [a.fragmentChunk 4 0 0 0]
      outboundStreamSeq := a.nextOutboundSeq fun _ => 0 } := by
    change { sender with
      localTsn := a.nextTsn 4 0
      outboundQueue := [] ++ a.chunks 4 0 0
      outboundStreamSeq := a.nextOutboundSeq fun _ => 0 } = _
    rw [(chunks_one hdata 0 0).2]
    rfl
  have hpush : SctpTransport.push { oneChannel parameters with
      sctp := atTime (oneChannel parameters).sctp 1
      established := true
      dataChannelId := some 1 } 0 WEBRTC_STRING [0] = { oneChannel parameters with
      sctp := Traced.record (atTime (oneChannel parameters).sctp 1)
        [a.fragmentChunk 4 0 0 0] (sender.enqueue a).startTransmit
      established := true
      dataChannelId := some 1
      handed := [⟨parameters, 1, 0, 1⟩] } := by
    change { oneChannel parameters with
      sctp := Traced.record (atTime (oneChannel parameters).sctp 1)
        (a.chunks 4 0 0) (sender.enqueue a).startTransmit
      established := true
      dataChannelId := some 1
      handed := [⟨parameters, 1, 0, a.fragments 4⟩] } = _
    rw [(chunks_one hdata 0 0).1, (chunks_one hdata 0 0).2]
  rw [henqueue] at hpush
  have hresume := congrArg (fun t =>
    [SctpTransport.Event.sctp .resume, .sctp .resume].foldlM SctpTransport.step t) hpush
  refine ⟨_, hresume.trans rfl, ?_⟩
  refine ⟨rfl, ⟨_, rfl, rfl, fun _ => rfl⟩, rfl, rfl, ?_, rfl, rfl, rfl, rfl⟩
  exact Nat.succ_pos 3

/-- A message of the channel is handed to SCTP at the time `1` and sent again at a later time, when
T3 expires, unless SCTP finds the chunk over its limits. -/
theorem sent_again {parameters : RTCDataChannelParameters} {later : ℚ} (hlater : 1 ≤ later)
    (hkeep : DataChunk.shouldAbandon later
      { sentCount := 1, expiry := SctpTransport.expiry 1 parameters,
        maxRetransmits := parameters.maxRetransmits } = false) :
    ∃ t, Reachable SctpTransport.step (oneChannel parameters) t ∧
      ⟨parameters, 1, 0, 1⟩ ∈ t.handed ∧ t.sctp.sentAt 0 = [1, later] := by
  have hstart := step_tick (show (oneChannel parameters).sctp.sender.time ≤ 1 from zero_le_one)
  obtain ⟨t, hrun, hidle, ⟨c, hqueue, hab, hlimits⟩, htimer, hforward, hsize, hremoved, htime, hhanded,
      hsendings⟩ := handed_once parameters
  have hwait := step_tick (t := t) (htime.symm ▸ hlater)
  have hexpire : SctpTransport.step { t with sctp := atTime t.sctp later } (.sctp .timer3Expired) =
      some { t with
        sctp := (atTime t.sctp later).record [] (atTime t.sctp later).sender.timer3Expired } := by
    have hstep : (atTime t.sctp later).sender.step .timer3Expired =
        some (atTime t.sctp later).sender.timer3Expired := if_pos htimer
    change ((atTime t.sctp later).step .timer3Expired).map _ = _
    rw [Traced.step, hstep]
    rfl
  have hsingle := timer3Expired_single (s := (atTime t.sctp later).sender) hidle hqueue hab
    ((hlimits later).trans hkeep) hforward hsize
  refine ⟨_, ((Run.start.next trivial hstart).trans (reachable_of_foldlM hrun)).next trivial hwait
    |>.next trivial hexpire, ?_, ?_⟩
  · exact hhanded ▸ List.mem_singleton_self _
  · have hremoved' : (atTime t.sctp later).sender.removed = 0 := hremoved
    have htime' : (atTime t.sctp later).sender.time = later := rfl
    have hsendings' : (atTime t.sctp later).sendings = [(0, 1)] := hsendings
    simp [Traced.sentAt, Traced.record, hsingle.1, hsingle.2, hremoved', hsendings', htime']

/-- **For which channels the limits are kept.**  In every run the messages of a channel keep within
its limits exactly if the channel has no `maxPacketLifeTime` and its `maxRetransmits` is not `0`. -/
theorem reliability_iff (parameters : RTCDataChannelParameters) :
    (∀ (maxPayloadSize : ℕ) (localTsn : ℤ) (rwnd : ℕ) (isServer : Bool) (remoteMaxMessageSize : ℕ)
        (channels : ℕ → OutgoingChannel) (t : SctpTransport),
      Reachable SctpTransport.step (SctpTransport.initial maxPayloadSize localTsn rwnd isServer
        remoteMaxMessageSize channels) t →
      ∀ m ∈ t.handed, m.parameters = parameters → m.Keeps t.sctp) ↔
    parameters.maxRetransmits ≠ some 0 ∧ parameters.maxPacketLifeTime = none := by
  constructor
  · intro h
    by_contra hnot
    -- either the second sending is one too many, or it is too late
    obtain ⟨later, hlater, hkeep, hbroken⟩ : ∃ later : ℚ, 1 ≤ later ∧
        DataChunk.shouldAbandon later
          { sentCount := 1, expiry := SctpTransport.expiry 1 parameters,
            maxRetransmits := parameters.maxRetransmits } = false ∧
        (parameters.maxRetransmits = some 0 ∨ ∃ lifeTime : ℕ,
          parameters.maxPacketLifeTime = some lifeTime ∧ (1 : ℚ) + lifeTime / 1000 < later) := by
      by_cases h0 : parameters.maxRetransmits = some 0
      · exact ⟨1, le_rfl, shouldAbandon_first fun lifeTime _ => by
          have : (0 : ℚ) ≤ lifeTime / 1000 := by positivity
          linarith, Or.inl h0⟩
      · obtain ⟨lifeTime, hlife⟩ : ∃ lifeTime, parameters.maxPacketLifeTime = some lifeTime :=
          Option.ne_none_iff_exists'.mp fun hnone => hnot ⟨h0, hnone⟩
        have hpos : (0 : ℚ) ≤ lifeTime / 1000 := by positivity
        refine ⟨2 + lifeTime / 1000, by linarith, shouldAbandon_first fun lifeTime' hlife' => ?_,
          Or.inr ⟨lifeTime, hlife, by linarith⟩⟩
        obtain rfl := Option.some.inj (hlife.symm.trans hlife')
        linarith
    obtain ⟨t, hrun, hm, hsent⟩ := sent_again hlater hkeep
    have hkeeps := h _ _ _ _ _ _ t hrun _ hm rfl 0 le_rfl Nat.one_pos
    rw [hsent] at hkeeps
    rcases hbroken with h0 | ⟨lifeTime, hlife, hlate⟩
    · exact absurd (hkeeps.1 0 h0) (Nat.lt_irrefl 1)
    · have hle := hkeeps.2 lifeTime hlife later (List.mem_singleton_self _)
      exact absurd hle (not_le.mpr hlate)
  · rintro ⟨hretransmits, hlife⟩ maxPayloadSize localTsn rwnd isServer size channels t hrun m hm rfl
    have hknown : LimitsKnown t := by
      refine hrun.invariant LimitsKnown ?_ fun s e s' hs _ hstep => hs.step hstep
      exact ⟨KeptInv.initial _ _ _, Sctp.Counted.initial _ _ _, fun _ hm => absurd hm List.not_mem_nil⟩
    exact hknown.keeps hm hretransmits hlife

/-- With `maxRetransmits = 0` a chunk is sent twice, and with `maxPacketLifeTime = 100` a chunk is
sent again after more than eight minutes. -/
theorem reliability_not_kept :
    (∃ t, Reachable SctpTransport.step (oneChannel { maxRetransmits := some 0 }) t ∧
      ⟨{ maxRetransmits := some 0 }, 1, 0, 1⟩ ∈ t.handed ∧ t.sctp.sentAt 0 = [1, 1]) ∧
    ∃ t, Reachable SctpTransport.step (oneChannel { maxPacketLifeTime := some 100 }) t ∧
      ⟨{ maxPacketLifeTime := some 100 }, 1, 0, 1⟩ ∈ t.handed ∧ t.sctp.sentAt 0 = [1, 500] := by
  constructor
  · apply sent_again le_rfl
    exact @shouldAbandon_first { maxRetransmits := some 0 } _
      fun lifeTime hlife => absurd hlife (by simp)
  · apply sent_again (by norm_num)
    apply @shouldAbandon_first { maxPacketLifeTime := some 100 }
    rintro lifeTime hlife
    obtain rfl := Option.some.inj hlife
    norm_num

end Werift.Webrtc
