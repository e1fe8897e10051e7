import Werift.Js.IndexObject
import Werift.Webrtc.SctpTransport

/-!
# The data channels of a transport (`webrtc/src/transport/sctp.ts`)

Messages wait in one queue for all channels until the association is established; then the channels without an
id get one.  Closing a channel before that removes the messages by the id of their channel, so that channels
without an id lose each other's messages (`closeFrame_iff`).
-/

namespace Werift.Webrtc

namespace DataChannels

abbrev Bytes := List UInt8

/-- `WEBRTC_DCEP`. -/
def WEBRTC_DCEP : ℕ := 50

/-- `WEBRTC_STRING`. -/
def WEBRTC_STRING : ℕ := 51

/-- `WEBRTC_BINARY`. -/
def WEBRTC_BINARY : ℕ := 53

/-- A channel; without an id it is `undefined`. -/
structure Channel where
  id : Option ℕ := none
  readyState : DCState := .connecting
  negotiated : Bool := false
  bufferedAmount : ℤ := 0
deriving DecidableEq

/-- `["closing", "closed"].includes(readyState)`. -/
def Channel.isClosing (channel : Channel) : Prop :=
  channel.readyState = .closing ∨ channel.readyState = .closed

instance (channel : Channel) : Decidable channel.isClosing := inferInstanceAs (Decidable (_ ∨ _))

/-- An entry of `dataChannelQueue`: a channel, a protocol and the data. -/
structure QueueItem where
  channel : ℕ
  protocol : ℕ
  userData : Bytes
deriving DecidableEq

/-- An `RTCSctpTransport` with the part of its `SCTP` that it uses.  Channels are numbered; `sent` are the
stream, the protocol and the data of the calls of `sctp.send`. -/
structure Transport where
  channels : ℕ → Channel
  dataChannels : Js.IndexObject ℕ := .empty
  dataChannelQueue : List QueueItem := []
  dataChannelId : Option ℕ := none
  isServer : Bool := false
  established : Bool := false
  reconfigQueue : List (Option ℕ) := []
  reconfigRequest : Option (List (Option ℕ)) := none
  sent : List (ℕ × ℕ × Bytes) := []

namespace Transport

variable (s : Transport)

/-- Change the channel `c`. -/
def modify (c : ℕ) (f : Channel → Channel) : Transport :=
  { s with channels := Function.update s.channels c (f (s.channels c)) }

/-- `channel.setReadyState(state)`. -/
def setReadyState (c : ℕ) (state : DCState) : Transport :=
  s.modify c fun channel => { channel with readyState := state }

/-- The loop that looks for a stream id that is not used. -/
def freeStreamId (dataChannels : Js.IndexObject ℕ) : ℕ → ℕ → ℕ
  | 0, streamId => streamId
  | fuel + 1, streamId =>
    if (streamId : ℤ) ∈ dataChannels.keys then freeStreamId dataChannels fuel (streamId + 2) else streamId

/-- The stream of a channel, which is looked for if the channel does not have one. -/
def assignId (c dataChannelId : ℕ) : ℕ × Transport :=
  match (s.channels c).id with
  | some streamId => (streamId, s)
  | none =>
    -- One of so many ids is free.
    let streamId := freeStreamId s.dataChannels (s.dataChannels.entries.length + 1) dataChannelId
    (streamId, { s.modify c fun channel => { channel with id := some streamId } with
      dataChannels := s.dataChannels.set streamId c })

/-- One round of the loop of `dataChannelFlush`. -/
def flushItem (dataChannelId : ℕ) (item : QueueItem) : Transport :=
  if (s.channels item.channel).isClosing then
    if item.protocol ≠ WEBRTC_DCEP then
      s.modify item.channel fun channel =>
        { channel with bufferedAmount := channel.bufferedAmount - item.userData.length }
    else s
  else
    let (streamId, s) := s.assignId item.channel dataChannelId
    { s with sent := s.sent ++ [(streamId, item.protocol, item.userData)] }

/-- `dataChannelFlush()`. -/
def dataChannelFlush : Transport :=
  if s.established then
    let dataChannelId := s.dataChannelId.getD (if s.isServer then 0 else 1)
    s.dataChannelQueue.foldl (fun s item => s.flushItem dataChannelId item)
      { s with dataChannelId := some dataChannelId, dataChannelQueue := [] }
  else s

/-- `dataChannelOpen(channel)` with the message `DATA_CHANNEL_OPEN` that it sends; `none` throws. -/
def dataChannelOpen (c : ℕ) (send : Bytes) : Option Transport :=
  let push (s : Transport) : Transport :=
    ({ s with dataChannelQueue := s.dataChannelQueue ++ [⟨c, WEBRTC_DCEP, send⟩] } : Transport).dataChannelFlush
  match (s.channels c).id with
  | none => some (push s)
  | some id =>
    if (s.dataChannels.get? id).isSome then none
    else some (push { s with dataChannels := s.dataChannels.set id c })

/-- `datachannelSend(channel, data)` of a message that is not too long. -/
def datachannelSend (c protocol : ℕ) (userData : Bytes) : Transport :=
  let s := s.modify c fun channel => { channel with bufferedAmount := channel.bufferedAmount + userData.length }
  ({ s with dataChannelQueue := s.dataChannelQueue ++ [⟨c, protocol, userData⟩] } : Transport).dataChannelFlush

/-- The subscriber of `stateChanged.connected`. -/
def connected : Transport :=
  let openNegotiated (s : Transport) (c : ℕ) : Transport :=
    if (s.channels c).negotiated = true ∧ (s.channels c).readyState ≠ .open then s.setReadyState c .open else s
  ({ s.dataChannels.values.foldl openNegotiated s with established := true } : Transport).dataChannelFlush

/-- `sctp.transmitReconfigRequest()`. -/
def transmitReconfigRequest : Transport :=
  if s.reconfigQueue ≠ [] ∧ s.established = true ∧ s.reconfigRequest = none then
    let uniqueStreams := s.reconfigQueue.eraseDups
    { s with reconfigQueue := uniqueStreams.drop Sctp.RECONFIG_MAX_STREAMS
             reconfigRequest := some (uniqueStreams.take Sctp.RECONFIG_MAX_STREAMS) }
  else s

/-- `dataChannelClose(channel)`. -/
def dataChannelClose (c : ℕ) : Transport :=
  if (s.channels c).isClosing then s
  else
    let s := s.setReadyState c .closing
    let id := (s.channels c).id
    if s.established then
      let s := if id ∈ s.reconfigQueue then s else { s with reconfigQueue := s.reconfigQueue ++ [id] }
      if s.reconfigQueue.length = 1 then s.transmitReconfigRequest else s
    else
      let s :=
        { s with
          dataChannelQueue := s.dataChannelQueue.filter fun item => (s.channels item.channel).id ≠ id
          reconfigQueue := s.reconfigQueue.filter fun streamId => streamId ≠ id
          dataChannels := match id with
            | some id => s.dataChannels.delete id
            | none => s.dataChannels }
      s.setReadyState c .closed

end Transport

/-! ## What closing a channel leaves alone -/

/-- **The other channels are left alone**: only messages of `c` are removed from the queue, and the messages,
the registration and the state of the other channels stay. -/
structure CloseFrame (s s' : Transport) (c : ℕ) : Prop where
  removed : s'.dataChannelQueue.Sublist s.dataChannelQueue
  messages : (s'.dataChannelQueue.filter fun item => item.channel ≠ c) =
    s.dataChannelQueue.filter fun item => item.channel ≠ c
  registration : ∀ id d, d ≠ c → (s'.dataChannels.get? id = some d ↔ s.dataChannels.get? id = some d)
  channels : ∀ d ≠ c, s'.channels d = s.channels d

/-- No other channel has a message in the queue and the id of `c`, or is registered under it. -/
def Unshared (s : Transport) (c : ℕ) : Prop :=
  (∀ item ∈ s.dataChannelQueue, item.channel ≠ c → (s.channels item.channel).id ≠ (s.channels c).id) ∧
    ∀ id, (s.channels c).id = some id → ∀ d, s.dataChannels.get? id = some d → d = c

variable {s : Transport} {c : ℕ}

@[simp] lemma setReadyState_id (d : ℕ) (state : DCState) :
    ((s.setReadyState c state).channels d).id = (s.channels d).id := by
  change (Function.update s.channels c _ d).id = _
  by_cases h : d = c
  · rw [h, Function.update_self]
  · rw [Function.update_of_ne h]

lemma setReadyState_channels {d : ℕ} (h : d ≠ c) (state : DCState) :
    (s.setReadyState c state).channels d = s.channels d := Function.update_of_ne h _ _

/-- What `transmitReconfigRequest` does not change. -/
lemma transmitReconfigRequest_frame (s : Transport) :
    s.transmitReconfigRequest.dataChannelQueue = s.dataChannelQueue ∧
      s.transmitReconfigRequest.dataChannels = s.dataChannels ∧
      s.transmitReconfigRequest.channels = s.channels := by
  rw [Transport.transmitReconfigRequest]
  split_ifs <;> exact ⟨rfl, rfl, rfl⟩

/-- **On an established association** closing a channel changes its state only. -/
lemma closeFrame_of_established (hestablished : s.established = true) :
    CloseFrame s (s.dataChannelClose c) c := by
  rw [Transport.dataChannelClose]
  split_ifs with hclosing
  · exact ⟨.refl _, rfl, fun _ _ _ => Iff.rfl, fun _ _ => rfl⟩
  · dsimp only
    rw [if_pos (show (s.setReadyState c .closing).established = true from hestablished)]
    have hchannels : ∀ d ≠ c, (s.setReadyState c .closing).channels d = s.channels d :=
      fun d hd => setReadyState_channels hd _
    -- Whatever the queue of streams is, it is all that changes.
    have hframe : ∀ s' : Transport, s'.dataChannelQueue = s.dataChannelQueue →
        s'.dataChannels = s.dataChannels → s'.channels = (s.setReadyState c .closing).channels →
        CloseFrame s (if s'.reconfigQueue.length = 1 then s'.transmitReconfigRequest else s') c := by
      intro s' hqueue hregistered hsame
      obtain ⟨hqueue', hregistered', hsame'⟩ := transmitReconfigRequest_frame s'
      split_ifs
      · refine ⟨?_, ?_, fun id d _ => ?_, fun d hd => ?_⟩
        · rw [hqueue', hqueue]
        · rw [hqueue', hqueue]
        · rw [hregistered', hregistered]
        · rw [hsame', hsame, hchannels d hd]
      · refine ⟨?_, ?_, fun id d _ => ?_, fun d hd => ?_⟩
        · rw [hqueue]
        · rw [hqueue]
        · rw [hregistered]
        · rw [hsame, hchannels d hd]
    refine hframe _ ?_ ?_ ?_ <;> split_ifs <;> rfl

/-- **Before that** the messages and the registration of the id go. -/
lemma dataChannelClose_of_not_established (hestablished : s.established = false)
    (hclosing : ¬(s.channels c).isClosing) :
    (s.dataChannelClose c).dataChannelQueue =
        (s.dataChannelQueue.filter fun item => (s.channels item.channel).id ≠ (s.channels c).id) ∧
      (∀ id, (s.dataChannelClose c).dataChannels.get? id =
        if (s.channels c).id.map Nat.cast = some id then none else s.dataChannels.get? id) ∧
      ∀ d ≠ c, (s.dataChannelClose c).channels d = s.channels d := by
  rw [Transport.dataChannelClose, if_neg hclosing]
  dsimp only
  rw [if_neg (show ¬(s.setReadyState c .closing).established = true by
    rw [show (s.setReadyState c .closing).established = s.established from rfl, hestablished]
    exact Bool.false_ne_true)]
  refine ⟨?_, fun id => ?_, fun d hd => ?_⟩
  · refine List.filter_congr fun item _ => ?_
    rw [setReadyState_id, setReadyState_id]
  · change (match ((s.setReadyState c .closing).channels c).id with
      | some id => s.dataChannels.delete id
      | none => s.dataChannels).get? id = _
    rw [setReadyState_id]
    cases (s.channels c).id with
    | none => rfl
    | some id' =>
      dsimp only
      rw [Js.IndexObject.get?_delete, Option.map_some]
      exact if_congr (eq_comm.trans Option.some_inj.symm) rfl rfl
  · rw [setReadyState_channels hd]
    exact setReadyState_channels hd _

/-- The messages of the others stay if none of them has the id. -/
lemma filter_filter_eq_iff (queue : List QueueItem) (id : ℕ → Option ℕ) (c : ℕ) :
    ((queue.filter fun item => id item.channel ≠ id c).filter fun item => item.channel ≠ c) =
        (queue.filter fun item => item.channel ≠ c) ↔
      ∀ item ∈ queue, item.channel ≠ c → id item.channel ≠ id c := by
  rw [List.filter_filter]
  constructor
  · intro h item hitem hother
    have hmem : item ∈ queue.filter fun item => item.channel ≠ c :=
      List.mem_filter.mpr ⟨hitem, decide_eq_true hother⟩
    rw [← h] at hmem
    exact of_decide_eq_true (Bool.and_eq_true_iff.mp (List.mem_filter.mp hmem).2).2
  · intro h
    refine List.filter_congr fun item hitem => ?_
    by_cases hother : item.channel ≠ c
    · rw [decide_eq_true hother, decide_eq_true (h item hitem hother), Bool.and_self]
    · rw [decide_eq_false hother, Bool.false_and]

/-- **Closing a channel** leaves the others alone if the association is established, or the channel has already
been closed, or it does not share its id, which may be `undefined`. -/
theorem closeFrame_iff (s : Transport) (c : ℕ) : CloseFrame s (s.dataChannelClose c) c ↔
    (s.channels c).isClosing ∨ s.established = true ∨ Unshared s c := by
  by_cases hclosing : (s.channels c).isClosing
  · refine iff_of_true ?_ (.inl hclosing)
    rw [Transport.dataChannelClose, if_pos hclosing]
    exact ⟨.refl _, rfl, fun _ _ _ => Iff.rfl, fun _ _ => rfl⟩
  · rw [or_iff_right hclosing]
    by_cases hestablished : s.established = true
    · exact iff_of_true (closeFrame_of_established hestablished) (.inl hestablished)
    · rw [or_iff_right hestablished]
      obtain ⟨hqueue, hregistered, hchannels⟩ := dataChannelClose_of_not_established
        (Bool.eq_false_of_not_eq_true hestablished) hclosing
      constructor
      · intro h
        have hmessages := h.messages
        rw [hqueue] at hmessages
        refine ⟨(filter_filter_eq_iff _ (fun d => (s.channels d).id) c).mp hmessages, fun id hid d hd => ?_⟩
        by_contra hother
        have hlost := (h.registration id d hother).mpr hd
        rw [hregistered, hid, Option.map_some, if_pos rfl] at hlost
        cases hlost
      · rintro ⟨hmessages, hregistration⟩
        refine ⟨?_, ?_, fun id d hother => ?_, hchannels⟩
        · rw [hqueue]
          exact List.filter_sublist
        · rw [hqueue]
          exact (filter_filter_eq_iff _ (fun d => (s.channels d).id) c).mpr hmessages
        · rw [hregistered]
          split_ifs with hid
          · obtain ⟨id', hid', rfl⟩ := Option.map_eq_some_iff.mp hid
            exact iff_of_false (by rintro ⟨⟩) fun hd => hother (hregistration id' hid' d hd)
          · rfl

/-- Two channels that have been opened before the association is established. -/
def twoChannels : Transport :=
  { channels := fun _ => {}
    dataChannelQueue := [⟨0, WEBRTC_DCEP, [3, 0]⟩, ⟨1, WEBRTC_DCEP, [3, 1]⟩] }

/-- Closing the first one removes the `DATA_CHANNEL_OPEN` of the other, so that it is never announced. -/
theorem not_closeFrame_twoChannels : ¬CloseFrame twoChannels (twoChannels.dataChannelClose 0) 0 ∧
    (twoChannels.dataChannelClose 0).dataChannelQueue = [] ∧
    (twoChannels.dataChannelClose 0).connected.sent = [] ∧
    twoChannels.connected.sent = [(1, WEBRTC_DCEP, [3, 0]), (3, WEBRTC_DCEP, [3, 1])] := by
  refine ⟨fun h => ?_, by decide, by decide, by decide⟩
  have hmessages := h.messages
  revert hmessages
  decide

end DataChannels

end Werift.Webrtc
