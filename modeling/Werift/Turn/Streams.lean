import Werift.Ice.TcpFrame
import Werift.Turn.Accounts
import Werift.Turn.Client

/-!
# The streams of a TURN server and its clients

The server has a buffer for the stream of every client, the client one for that of its server.  Nothing
but the data of a stream, and its end, changes its buffer (`keeps_serve`), so that the messages of a
stream are handled as they were written, in whatever chunks they come.
-/

namespace Werift.Turn

open Stun Contract Framing

/-! ## What changes the buffers -/

/-- The buffers of all streams are as they were. -/
def SameBuffers (s s' : TurnServer) : Prop := s'.tcpBuffers = s.tcpBuffers

instance : Std.Refl SameBuffers := ⟨fun _ => rfl⟩

instance : IsTrans TurnServer SameBuffers := ⟨fun _ _ _ h h' => h'.trans h⟩

/-- A method that does not touch the buffers. -/
abbrev Unbuffered {α : Type} (m : Action α) : Prop :=
  Keeps (fun _ => True) SameBuffers (fun _ => True) m fun _ _ => True

variable {T : Setting}

section

variable {α : Type} {input : TurnServerClientPacket} {message : Message} {method : ℕ} {time : ℤ}

lemma unbuffered_pure (a : α) : Unbuffered (pure a) := keeps_pure (Q := fun _ _ => True) a

lemma unbuffered_get : Unbuffered get := keeps_get.weaken fun _ _ _ _ => trivial

lemma unbuffered_modify {g : TurnServer → TurnServer} (h : ∀ s, (g s).tcpBuffers = s.tcpBuffers) :
    Unbuffered (modify g) :=
  keeps_modify fun s _ _ => ⟨trivial, h s, trivial⟩

lemma unbuffered_orThrow (x : Option α) : Unbuffered (orThrow x) := by
  cases x with
  | none => exact keeps_throw ()
  | some a => exact unbuffered_pure a

lemma unbuffered_concatMapM {f : α → Action (List TurnServerAction)} (hf : ∀ a, Unbuffered (f a))
    (l : List α) : Unbuffered (concatMapM f l) := by
  induction l with
  | nil => exact unbuffered_pure []
  | cons a l ih => exact keeps_bind (hf a) fun _ => keeps_bind ih fun _ => unbuffered_pure _

lemma unbuffered_now : Unbuffered (now T) := fun _ _ _ => ⟨trivial, rfl, trivial⟩

lemma unbuffered_randomUUID : Unbuffered (randomUUID T) := fun _ _ _ => ⟨trivial, rfl, trivial⟩

lemma unbuffered_randomBytes (size : ℕ) : Unbuffered (randomBytes T size) :=
  fun _ _ _ => ⟨trivial, rfl, trivial⟩

lemma unbuffered_updateAllocation (id : String) (f : TurnAllocation → TurnAllocation) :
    Unbuffered (updateAllocation id f) := by
  refine unbuffered_modify fun s => ?_
  unfold TurnServer.update
  split <;> rfl

lemma unbuffered_deleteAllocation (a : TurnAllocation) : Unbuffered (deleteAllocation a) :=
  keeps_bind (unbuffered_modify fun _ => rfl) fun _ => unbuffered_pure _

lemma unbuffered_emit (source : Source) (id : String) (action : TurnServerAction) :
    Unbuffered (emit source id time action) := by
  refine keeps_bind (unbuffered_modify fun s => ?_) fun _ => unbuffered_pure _
  unfold TurnServer.recordEmission
  split <;> rfl

lemma unbuffered_cleanupExpired : Unbuffered (cleanupExpired time) := by
  refine keeps_bind (unbuffered_modify fun _ => rfl) fun _ => ?_
  refine keeps_bind unbuffered_get fun s => unbuffered_concatMapM (fun a => ?_) _
  refine keeps_ite (fun _ => unbuffered_deleteAllocation a) fun _ => ?_
  exact keeps_bind (unbuffered_updateAllocation _ _) fun _ => unbuffered_pure _

lemma unbuffered_finalizeActions (actions : List TurnServerAction) :
    Unbuffered (finalizeActions actions time) := by
  refine keeps_bind unbuffered_get fun s => ?_
  cases s.computeNextTimeoutAt with
  | none => exact unbuffered_pure _
  | some _ => exact unbuffered_pure _

lemma unbuffered_issueNonce : Unbuffered (issueNonce T) := by
  refine keeps_bind (unbuffered_randomBytes 16) fun value => ?_
  refine keeps_bind unbuffered_now fun time => ?_
  exact keeps_bind (unbuffered_modify fun _ => rfl) fun _ => unbuffered_pure value

lemma unbuffered_respond (client : ClientEndpoint) (response : Option Message) :
    Unbuffered (respond client response) :=
  keeps_bind (unbuffered_orThrow response) fun message =>
    keeps_bind (unbuffered_orThrow message.bytes) fun _ => unbuffered_pure _

lemma unbuffered_authenticateRequest : Unbuffered (authenticateRequest T input message method) :=
  keeps_authenticateRequest input message method
    (fun _ _ => keeps_bind unbuffered_issueNonce fun _ => unbuffered_orThrow _) unbuffered_now
    fun _ _ => rfl

lemma unbuffered_withAuthentication
    {f : AuthenticatedRequestContext → Action (List TurnServerAction)}
    (hf : ∀ auth, Unbuffered (f auth)) : Unbuffered (withAuthentication T input message method f) := by
  refine keeps_bind unbuffered_authenticateRequest fun result => ?_
  cases result with
  | error response => exact unbuffered_respond _ _
  | ok auth => exact hf auth

lemma unbuffered_withAllocation
    {f : AuthenticatedRequestContext → TurnAllocation → Action (List TurnServerAction)}
    (hf : ∀ auth a, Unbuffered (f auth a)) :
    Unbuffered (withAllocation T input message method f) := by
  refine unbuffered_withAuthentication fun auth => keeps_bind unbuffered_get fun s => ?_
  cases s.getClientAllocation input.clientId with
  | none => exact unbuffered_respond _ _
  | some a => exact keeps_ite (fun _ => unbuffered_respond _ _) fun _ => hf auth a

lemma unbuffered_handleAllocateRequest : Unbuffered (handleAllocateRequest T input message) := by
  refine unbuffered_withAuthentication fun auth => ?_
  cases message.getNumber .requestedTransport with
  | none => exact unbuffered_respond _ _
  | some requestedTransport =>
    refine keeps_ite (fun _ => unbuffered_respond _ _) fun _ => ?_
    refine keeps_ite (fun _ => unbuffered_respond _ _) fun _ => ?_
    refine keeps_ite (fun _ => unbuffered_respond _ _) fun _ => ?_
    refine keeps_bind unbuffered_get fun s => ?_
    refine keeps_ite (fun _ => unbuffered_respond _ _) fun _ => ?_
    refine keeps_ite (fun _ => unbuffered_respond _ _) fun _ => ?_
    refine keeps_bind unbuffered_randomUUID fun allocationId => ?_
    refine keeps_bind unbuffered_randomUUID fun relayId => ?_
    exact keeps_bind (unbuffered_modify fun _ => rfl) fun _ => unbuffered_pure _

lemma unbuffered_handleRefreshRequest : Unbuffered (handleRefreshRequest T input message time) := by
  refine unbuffered_withAllocation fun auth a => keeps_ite (fun _ => ?_) fun _ => ?_
  · refine keeps_bind (unbuffered_deleteAllocation a) fun _ => ?_
    exact keeps_bind (unbuffered_respond _ _) fun _ => unbuffered_pure _
  · exact keeps_bind (unbuffered_updateAllocation _ _) fun _ => unbuffered_respond _ _

lemma unbuffered_handleCreatePermissionRequest :
    Unbuffered (handleCreatePermissionRequest T input message time) := by
  refine unbuffered_withAllocation fun auth a => ?_
  cases message.getAddress .xorPeerAddress with
  | none => exact unbuffered_respond _ _
  | some peerAddress =>
    refine keeps_ite (fun _ => unbuffered_respond _ _) fun _ => ?_
    exact keeps_bind (unbuffered_updateAllocation _ _) fun _ => unbuffered_respond _ _

lemma unbuffered_handleChannelBindRequest :
    Unbuffered (handleChannelBindRequest T input message time) := by
  refine unbuffered_withAllocation fun auth a => ?_
  split
  · refine keeps_ite (fun _ => unbuffered_respond _ _) fun _ => ?_
    refine keeps_ite (fun _ => unbuffered_respond _ _) fun _ => ?_
    refine keeps_ite (fun _ => unbuffered_respond _ _) fun _ => ?_
    refine keeps_ite (fun _ => unbuffered_respond _ _) fun _ => ?_
    refine keeps_bind (unbuffered_updateAllocation _ _) fun _ => ?_
    exact keeps_bind (unbuffered_updateAllocation _ _) fun _ => unbuffered_respond _ _
  · exact unbuffered_respond _ _

lemma unbuffered_getPermission (a : TurnAllocation) (peerAddress : Address) :
    Unbuffered (getPermission a peerAddress time) := by
  unfold getPermission
  cases a.permissions.get? (permissionKey peerAddress) with
  | none => exact unbuffered_pure none
  | some permission =>
    refine keeps_ite (fun _ => ?_) fun _ => unbuffered_pure _
    exact keeps_bind (unbuffered_updateAllocation _ _) fun _ => unbuffered_pure none

lemma unbuffered_getChannelBinding (a : TurnAllocation) (peerAddress : Address) :
    Unbuffered (getChannelBinding a peerAddress time) := by
  unfold getChannelBinding
  cases a.channelsByPeer.get? (addressKey peerAddress) with
  | none => exact unbuffered_pure none
  | some binding =>
    refine keeps_ite (fun _ => ?_) fun _ => unbuffered_pure _
    exact keeps_bind (unbuffered_updateAllocation _ _) fun _ => unbuffered_pure none

lemma unbuffered_handleSendIndication : Unbuffered (handleSendIndication input message time) := by
  refine keeps_bind unbuffered_get fun s => ?_
  cases s.getClientAllocation input.clientId with
  | none => exact unbuffered_pure _
  | some a =>
    dsimp only
    split
    · refine keeps_bind (unbuffered_getPermission a _) fun permission => ?_
      cases permission with
      | none => exact unbuffered_pure _
      | some _ => exact unbuffered_emit _ _ _
    · exact unbuffered_pure _

lemma unbuffered_handleChannelData : Unbuffered (handleChannelData input time) := by
  unfold handleChannelData
  cases decodeChannelData input.data with
  | none => exact unbuffered_pure _
  | some channelData =>
    refine keeps_bind unbuffered_get fun s => ?_
    cases s.getClientAllocation input.clientId with
    | none => exact unbuffered_pure _
    | some a =>
      dsimp only
      cases a.channelsByNumber.get? channelData.channelNumber with
      | none => exact unbuffered_pure _
      | some binding =>
        refine keeps_ite (fun _ => ?_) fun _ => unbuffered_emit _ _ _
        exact keeps_bind (unbuffered_updateAllocation _ _) fun _ => unbuffered_pure _

lemma unbuffered_handleMessage : Unbuffered (handleMessage T input message time) := by
  refine keeps_ite (fun _ => ?_) fun _ => ?_
  · refine keeps_ite (fun _ => unbuffered_pure _) fun _ => ?_
    exact keeps_ite (fun _ => unbuffered_pure _) fun _ => unbuffered_handleSendIndication
  · refine keeps_ite (fun _ => unbuffered_pure _) fun _ => ?_
    refine keeps_ite (fun _ => unbuffered_respond _ _) fun _ => ?_
    refine keeps_ite (fun _ => ?_) fun _ => ?_
    · exact keeps_bind (unbuffered_orThrow _) fun _ => unbuffered_pure _
    refine keeps_ite (fun _ => unbuffered_handleAllocateRequest) fun _ => ?_
    refine keeps_ite (fun _ => unbuffered_handleRefreshRequest) fun _ => ?_
    refine keeps_ite (fun _ => unbuffered_handleCreatePermissionRequest) fun _ => ?_
    exact keeps_ite (fun _ => unbuffered_handleChannelBindRequest) fun _ => unbuffered_respond _ _

/-- **A packet** of a client does not touch the buffers. -/
lemma unbuffered_handleClientPacket : Unbuffered (handleClientPacket T input) := by
  refine keeps_bind unbuffered_now fun time => keeps_bind unbuffered_cleanupExpired fun _ => ?_
  refine keeps_bind ?_ fun _ => unbuffered_pure _
  unfold dispatchPacket
  refine keeps_ite (fun _ => unbuffered_handleChannelData) fun _ => ?_
  refine keeps_ite (fun _ => unbuffered_pure _) fun _ => ?_
  split
  · exact keeps_throw ()
  · exact unbuffered_pure _
  · exact unbuffered_handleMessage

lemma unbuffered_forwardRelayPacket (packet : TurnServerRelayPacket) (a : TurnAllocation) :
    Unbuffered (forwardRelayPacket T packet a time) := by
  refine keeps_bind (unbuffered_getChannelBinding a packet.remoteAddress) fun channel => ?_
  refine keeps_bind (unbuffered_getPermission a packet.remoteAddress) fun permission => ?_
  refine keeps_ite (fun _ => unbuffered_pure _) fun _ => ?_
  have hdata : Unbuffered (relayedData T packet channel) := by
    unfold relayedData
    cases channel with
    | some binding => exact unbuffered_orThrow _
    | none => exact keeps_bind (unbuffered_randomBytes 12) fun _ => unbuffered_orThrow _
  exact keeps_bind hdata fun _ => unbuffered_emit _ _ _

lemma returns_cleanupExpired : Returns (cleanupExpired time) := by
  refine returns_bind (fun s => ⟨_, _, rfl⟩) fun _ => returns_bind (fun s => ⟨_, _, rfl⟩) fun s => ?_
  refine returns_concatMapM (fun a s => ?_) _
  unfold cleanupAllocation
  split
  · exact ⟨_, _, rfl⟩
  · exact ⟨_, _, rfl⟩

end

/-! ## The streams of the clients of a server -/

/-- The bytes of the stream of a client that have not made a frame yet. -/
def TurnServer.buffer (s : TurnServer) (clientId : String) : Bytes :=
  (s.tcpBuffers.get? clientId).getD []

/-- What a call brings of the stream of a client. -/
def Call.chunk (clientId : String) : Call → Bytes
  | .tcpChunk input => if input.clientId = clientId then input.data else []
  | _ => []

/-- What calls have brought of the stream of a client. -/
def received (clientId : String) (calls : List Call) : Bytes :=
  (calls.map (Call.chunk clientId)).flatten

/-- What `handleTcpChunk` does if its chunk completes some messages and leaves a rest: the messages are
handled as packets, one after the other. -/
def deliver (T : Setting) (input : TurnServerTcpChunk) (messages : List StreamMessage) (rest : Bytes) :
    Action (List TurnServerAction) := do
  let time ← now T
  let actions ← cleanupExpired time
  modify fun s => { s with tcpBuffers := s.tcpBuffers.set input.clientId rest }
  let more ← concatMapM
    (fun message : StreamMessage => handleClientPacket T (framePacket input message.data)) messages
  finalizeActions (actions ++ more) time

section

variable {s : TurnServer} {input : TurnServerTcpChunk} {messages : List StreamMessage} {before : Bytes}
  {clientId : String}

/-- A frame is handled as the message that it carries. -/
lemma handleClientPacket_wire (m : StreamMessage) :
    handleClientPacket T (framePacket input m.wire) =
      handleClientPacket T (framePacket input m.data) := by
  rcases m.received_wire with ⟨hwire, -⟩ | ⟨hwire, hdata, -, hdecode⟩
  · rw [hwire]
  · have hchannelData (time : ℤ) : handleChannelData (framePacket input m.wire) time =
        handleChannelData (framePacket input m.data) time := by
      have hdecoded : decodeChannelData (framePacket input m.wire).data =
          decodeChannelData (framePacket input m.data).data := hdecode
      unfold handleChannelData
      rw [hdecoded]
      rfl
    have hdispatch (time : ℤ) : dispatchPacket T (framePacket input m.wire) time =
        dispatchPacket T (framePacket input m.data) time := by
      have hwire : isChannelData (framePacket input m.wire).data = true := hwire
      have hdata : isChannelData (framePacket input m.data).data = true := hdata
      rw [dispatchPacket, dispatchPacket, if_pos hwire, if_pos hdata, hchannelData]
    unfold handleClientPacket
    simp only [hdispatch]

/-- **A chunk** of a stream of messages. -/
lemma run_handleTcpChunk (hbuffer : s.buffer input.clientId = StreamMessage.unfinished messages before)
    (hinitial : before ++ input.data <+: StreamMessage.stream messages) : ∃ delivered,
    StreamMessage.arrived messages before ++ delivered =
        StreamMessage.arrived messages (before ++ input.data) ∧
      (handleTcpChunk T input).run s =
        (deliver T input delivered (StreamMessage.unfinished messages (before ++ input.data))).run s := by
  obtain ⟨delivered, harrived, hsplit⟩ := StreamMessage.splitTurnTcpFrames_next hinitial
  refine ⟨delivered, harrived, ?_⟩
  unfold handleTcpChunk deliver
  refine run_bind_congr fun time s₁ hnow => run_bind_congr fun actions s₂ hcleanup => ?_
  have hsame₁ : s₁.tcpBuffers = s.tcpBuffers := (unbuffered_now.ok trivial trivial hnow).2.1
  have hsame₂ : s₂.tcpBuffers = s₁.tcpBuffers :=
    (unbuffered_cleanupExpired.ok trivial trivial hcleanup).2.1
  have hbuffer₂ : (s₂.tcpBuffers.get? input.clientId).getD [] =
      StreamMessage.unfinished messages before := by
    rw [hsame₂, hsame₁]
    exact hbuffer
  rw [run_bind_of_ok (run_get_eq_ok.mpr ⟨rfl, rfl⟩)]
  dsimp only
  rw [hbuffer₂, hsplit]
  dsimp only
  rw [if_neg Bool.false_ne_true, concatMapM_map]
  simp only [handleClientPacket_wire]

/-- The state in which a method ends. -/
def finalState {α : Type} (m : Action α) (s : TurnServer) : TurnServer :=
  match m.run s with
  | .ok _ s' => s'
  | .error _ s' => s'

lemma stateAfter_eq (call : Call) : stateAfter T s call = finalState (serve T call) s := by
  unfold stateAfter finalState
  cases (serve T call).run s with
  | ok actions s' => rfl
  | error e s' => rfl

lemma Unbuffered.finalState {α : Type} {m : Action α} (h : Unbuffered m) (s : TurnServer) :
    (finalState m s).tcpBuffers = s.tcpBuffers := by
  have hspec := h s trivial trivial
  unfold Turn.finalState
  cases hm : m.run s with
  | ok a s' =>
    rw [hm] at hspec
    exact hspec.2.1
  | error e s' =>
    rw [hm] at hspec
    exact hspec.2

lemma finalState_bind {α β : Type} {m : Action α} {f : α → Action β} {s₁ : TurnServer} {a : α}
    (hm : m.run s = .ok a s₁) : finalState (m >>= f) s = finalState (f a) s₁ := by
  rw [finalState, finalState, run_bind_of_ok hm]

/-- Every call reads the clock and cleans up first. -/
lemma exists_cleanup : ∃ time s₁ actions s₂, (now T).run s = .ok time s₁ ∧
    (cleanupExpired time).run s₁ = .ok actions s₂ ∧ s₂.tcpBuffers = s.tcpBuffers := by
  obtain ⟨time, s₁, hnow⟩ : ∃ time s₁, (now T).run s = .ok time s₁ := ⟨_, _, rfl⟩
  obtain ⟨actions, s₂, hcleanup⟩ := @returns_cleanupExpired time s₁
  have hnowSame : s₁.tcpBuffers = s.tcpBuffers := (unbuffered_now.ok trivial trivial hnow).2.1
  have hcleanupSame : s₂.tcpBuffers = s₁.tcpBuffers :=
    (unbuffered_cleanupExpired.ok trivial trivial hcleanup).2.1
  exact ⟨time, s₁, actions, s₂, hnow, hcleanup, hcleanupSame.trans hnowSame⟩

/-- The rest of a chunk is kept, whether the handling of a message throws or not. -/
lemma tcpBuffers_deliver (rest : Bytes) : (finalState (deliver T input messages rest) s).tcpBuffers =
    s.tcpBuffers.set input.clientId rest := by
  obtain ⟨time, s₁, actions, s₂, hnow, hcleanup, hsame⟩ := @exists_cleanup T s
  have hmessages : Unbuffered (do
      let more ← concatMapM (fun message : StreamMessage =>
        handleClientPacket T (framePacket input message.data)) messages
      finalizeActions (actions ++ more) time) :=
    keeps_bind (unbuffered_concatMapM (fun _ => unbuffered_handleClientPacket) messages)
      fun _ => unbuffered_finalizeActions _
  rw [deliver, finalState_bind hnow, finalState_bind hcleanup,
    finalState_bind (a := PUnit.unit) (run_modify_eq_ok.mpr rfl), hmessages.finalState, hsame]

/-- **A chunk of another client** leaves the buffer as it is. -/
lemma buffer_handleTcpChunk_of_ne (hne : input.clientId ≠ clientId) :
    (finalState (handleTcpChunk T input) s).buffer clientId = s.buffer clientId := by
  obtain ⟨time, s₁, actions, s₂, hnow, hcleanup, hsame⟩ := @exists_cleanup T s
  rw [handleTcpChunk, finalState_bind hnow, finalState_bind hcleanup,
    finalState_bind (run_get_eq_ok.mpr ⟨rfl, rfl⟩)]
  dsimp only
  split_ifs
  · rw [finalState_bind (a := PUnit.unit) (run_modify_eq_ok.mpr rfl), TurnServer.buffer, TurnServer.buffer,
      (unbuffered_finalizeActions _).finalState, Js.Map.get?_delete, if_neg hne.symm, hsame]
  · have hmessages : Unbuffered (do
        let more ← concatMapM (fun frame => handleClientPacket T (framePacket input frame))
          (splitTurnTcpFrames ((s₂.tcpBuffers.get? input.clientId).getD [] ++ input.data)).frames
        finalizeActions (actions ++ more) time) :=
      keeps_bind (unbuffered_concatMapM (fun _ => unbuffered_handleClientPacket) _)
        fun _ => unbuffered_finalizeActions _
    rw [finalState_bind (a := PUnit.unit) (run_modify_eq_ok.mpr rfl), TurnServer.buffer, TurnServer.buffer,
      hmessages.finalState, Js.Map.get?_set, if_neg hne.symm, hsame]

/-- A method that begins as every call does. -/
lemma unbuffered_call {f : ℤ → List TurnServerAction → Action (List TurnServerAction)}
    (hf : ∀ time actions, Unbuffered (f time actions)) : Unbuffered (do
      let time ← now T
      let actions ← cleanupExpired time
      f time actions) :=
  keeps_bind unbuffered_now fun time => keeps_bind unbuffered_cleanupExpired fun actions =>
    hf time actions

lemma unbuffered_handleRelayPacket (packet : TurnServerRelayPacket) :
    Unbuffered (handleRelayPacket T packet) := by
  refine unbuffered_call fun time actions => keeps_bind unbuffered_get fun s => ?_
  cases s.getRelayAllocation packet.relayId with
  | none => exact unbuffered_finalizeActions _
  | some a =>
    refine keeps_ite (fun _ => unbuffered_finalizeActions _) fun _ => ?_
    exact keeps_bind (unbuffered_forwardRelayPacket packet a) fun _ => unbuffered_finalizeActions _

lemma unbuffered_handleRelayBound (bound : TurnServerRelayBound) :
    Unbuffered (handleRelayBound T bound) := by
  refine unbuffered_call fun time actions => keeps_bind unbuffered_get fun s => ?_
  cases s.allocations.get? bound.allocationId with
  | none => exact unbuffered_finalizeActions _
  | some a =>
    dsimp only
    cases a.pendingAllocate with
    | none => exact unbuffered_finalizeActions _
    | some pending =>
      refine keeps_ite (fun _ => unbuffered_finalizeActions _) fun _ => ?_
      refine keeps_bind (unbuffered_updateAllocation _ _) fun _ => ?_
      exact keeps_bind (unbuffered_respond _ _) fun _ => unbuffered_finalizeActions _

lemma unbuffered_handleRelayBindFailure (failure : TurnServerRelayBindFailure) :
    Unbuffered (handleRelayBindFailure T failure) := by
  refine unbuffered_call fun time actions => keeps_bind unbuffered_get fun s => ?_
  cases s.allocations.get? failure.allocationId with
  | none => exact unbuffered_finalizeActions _
  | some a =>
    dsimp only
    cases a.pendingAllocate with
    | none => exact unbuffered_finalizeActions _
    | some pending =>
      refine keeps_bind (unbuffered_deleteAllocation a) fun _ => ?_
      exact keeps_bind (unbuffered_respond _ _) fun _ => unbuffered_finalizeActions _

/-- The end of another connection leaves the buffer as it is. -/
lemma buffer_handleClientClosed_of_ne {closed : String} (hne : closed ≠ clientId) :
    (finalState (handleClientClosed T closed) s).buffer clientId = s.buffer clientId := by
  obtain ⟨time, s₁, actions, s₂, hnow, hcleanup, hsame⟩ := @exists_cleanup T s
  have hbuffers : (finalState (handleClientClosed T closed) s).tcpBuffers =
      s₂.tcpBuffers.delete closed := by
    rw [handleClientClosed, finalState_bind hnow, finalState_bind hcleanup,
      finalState_bind (a := PUnit.unit) (run_modify_eq_ok.mpr rfl)]
    refine Unbuffered.finalState (keeps_bind unbuffered_get fun s => ?_) _
    cases s.getClientAllocation closed with
    | none => exact unbuffered_finalizeActions _
    | some a =>
      exact keeps_bind (unbuffered_deleteAllocation a) fun _ => unbuffered_finalizeActions _
  rw [TurnServer.buffer, TurnServer.buffer, hbuffers, Js.Map.get?_delete, if_neg hne.symm, hsame]

/-- **A call** that brings nothing of a stream, and does not end it, leaves its buffer as it is. -/
lemma buffer_stateAfter {call : Call} (hclosed : call ≠ .clientClosed clientId)
    (hchunk : ∀ input, call = .tcpChunk input → input.clientId ≠ clientId) :
    (stateAfter T s call).buffer clientId = s.buffer clientId := by
  have hkeep (h : Unbuffered (serve T call)) :
      (stateAfter T s call).buffer clientId = s.buffer clientId := by
    rw [stateAfter_eq, TurnServer.buffer, h.finalState, ← TurnServer.buffer]
  rw [stateAfter_eq] at hkeep ⊢
  cases call with
  | clientDatagram input =>
    exact hkeep (keeps_bind unbuffered_handleClientPacket fun _ =>
      keeps_bind unbuffered_now fun _ => unbuffered_finalizeActions _)
  | tcpChunk input => exact buffer_handleTcpChunk_of_ne (hchunk input rfl)
  | relayPacket packet => exact hkeep (unbuffered_handleRelayPacket packet)
  | relayBound bound => exact hkeep (unbuffered_handleRelayBound bound)
  | relayBindFailure failure => exact hkeep (unbuffered_handleRelayBindFailure failure)
  | clientClosed closed =>
    exact buffer_handleClientClosed_of_ne fun h => hclosed (congrArg Call.clientClosed h)
  | timer time =>
    cases time with
    | some time =>
      exact hkeep (keeps_bind (unbuffered_pure time) fun _ =>
        keeps_bind unbuffered_cleanupExpired fun _ => unbuffered_finalizeActions _)
    | none =>
      exact hkeep (keeps_bind unbuffered_now fun _ =>
        keeps_bind unbuffered_cleanupExpired fun _ => unbuffered_finalizeActions _)

/-- **One call** and the buffer of a stream of messages. -/
lemma buffer_step (hbuffer : s.buffer clientId = StreamMessage.unfinished messages before) {call : Call}
    (hclosed : call ≠ .clientClosed clientId)
    (hinitial : before ++ call.chunk clientId <+: StreamMessage.stream messages) :
    (stateAfter T s call).buffer clientId =
      StreamMessage.unfinished messages (before ++ call.chunk clientId) := by
  by_cases hchunk : ∃ input, call = .tcpChunk input ∧ input.clientId = clientId
  · obtain ⟨input, rfl, rfl⟩ := hchunk
    have hdata : (Call.tcpChunk input).chunk input.clientId = input.data := if_pos rfl
    rw [hdata] at hinitial ⊢
    obtain ⟨delivered, -, hrun⟩ := @run_handleTcpChunk T s input messages before hbuffer hinitial
    have hstate : stateAfter T s (.tcpChunk input) = finalState (deliver T input delivered
        (StreamMessage.unfinished messages (before ++ input.data))) s := by
      rw [stateAfter_eq, serve, finalState, hrun, finalState]
    rw [hstate, TurnServer.buffer, tcpBuffers_deliver, Js.Map.get?_set_self, Option.getD_some]
  · have hne : ∀ input, call = .tcpChunk input → input.clientId ≠ clientId :=
      fun input hcall hclient => hchunk ⟨input, hcall, hclient⟩
    have hempty : call.chunk clientId = [] := by
      cases call with
      | tcpChunk input => exact if_neg (hne input rfl)
      | _ => rfl
    rw [buffer_stateAfter hclosed hne, hbuffer, hempty, List.append_nil]

/-- **All calls** and the buffer of a stream of messages. -/
theorem buffer_calls (hbuffer : s.buffer clientId = StreamMessage.unfinished messages before)
    {calls : List Call} (hopen : ∀ call ∈ calls, call ≠ .clientClosed clientId)
    (hinitial : before ++ received clientId calls <+: StreamMessage.stream messages) :
    (calls.foldl (stateAfter T) s).buffer clientId =
      StreamMessage.unfinished messages (before ++ received clientId calls) := by
  induction calls generalizing s before with
  | nil =>
    rw [received, List.map_nil, List.flatten_nil, List.append_nil]
    exact hbuffer
  | cons call calls ih =>
    obtain ⟨hclosed, hopen⟩ := List.forall_mem_cons.mp hopen
    rw [received, List.map_cons, List.flatten_cons, ← List.append_assoc, ← received] at hinitial ⊢
    exact ih (buffer_step hbuffer hclosed ((List.prefix_append _ _).trans hinitial)) hopen hinitial

end

/-! ## The stream of a client -/

/-- A `TurnProtocol` over a stream. -/
structure StreamClient where
  protocol : TurnProtocol
  tcpBuffer : Bytes := []

/-- `handleChannelData(data)`; `addrByChannel` is the map of the same name. -/
def handleChannelDataMessage (addrByChannel : ℕ → Option Address) (data : Bytes) : List Reaction :=
  match decodeChannelData data with
  | none => []
  | some decoded =>
    match addrByChannel decoded.channelNumber with
    | none => []
    | some addr => [.onData decoded.data addr]

section

variable (T : Setting) (canonicalHost : String → String) (addrByChannel : ℕ → Option Address)
  (addr : Address)

/-- `datagramReceived(data, addr)` in `dataReceived`. -/
def datagramReceived (c : TurnProtocol) (data : Bytes) : TurnProtocol × List Reaction :=
  if isChannelData data then (c, handleChannelDataMessage addrByChannel data)
  else c.handleSTUNMessage T canonicalHost data addr

/-- The loop of `dataReceived` over frames. -/
def datagramsReceived (c : TurnProtocol) : List Bytes → TurnProtocol × List Reaction
  | [] => (c, [])
  | data :: frames =>
    let (c, reactions) := datagramReceived T canonicalHost addrByChannel addr c data
    let (c, later) := datagramsReceived c frames
    (c, reactions ++ later)

/-- `dataReceived(data, addr)` over a stream. -/
def dataReceived (c : StreamClient) (data : Bytes) : StreamClient × List Reaction :=
  let split := splitTurnTcpFrames (c.tcpBuffer ++ data)
  let (protocol, reactions) :=
    datagramsReceived T canonicalHost addrByChannel addr c.protocol split.frames
  ({ protocol, tcpBuffer := split.rest }, reactions)

/-- What happens to a client: data comes, or anything else that leaves `tcpBuffer` as it is. -/
inductive ClientEvent
  | data (addrByChannel : ℕ → Option Address) (addr : Address) (data : Bytes)
  | other (protocol : TurnProtocol)

/-- The data of an event. -/
def ClientEvent.chunk : ClientEvent → Bytes
  | .data _ _ bytes => bytes
  | .other _ => []

/-- The client after an event. -/
def StreamClient.after (c : StreamClient) : ClientEvent → StreamClient
  | .data addrByChannel addr data => (dataReceived T canonicalHost addrByChannel addr c data).1
  | .other protocol => { c with protocol }

variable {T canonicalHost addrByChannel addr} {messages : List StreamMessage} {before : Bytes}
  {c : StreamClient}

/-- A frame is handled as the message that it carries. -/
lemma datagramReceived_wire (m : StreamMessage) (c : TurnProtocol) :
    datagramReceived T canonicalHost addrByChannel addr c m.wire =
      datagramReceived T canonicalHost addrByChannel addr c m.data := by
  rcases m.received_wire with ⟨hwire, -⟩ | ⟨hwire, hdata, -, hdecode⟩
  · rw [hwire]
  · rw [datagramReceived, datagramReceived, if_pos hwire, if_pos hdata, handleChannelDataMessage,
      handleChannelDataMessage, hdecode]

lemma datagramsReceived_wire (messages : List StreamMessage) (c : TurnProtocol) :
    datagramsReceived T canonicalHost addrByChannel addr c (messages.map StreamMessage.wire) =
      datagramsReceived T canonicalHost addrByChannel addr c (messages.map StreamMessage.data) := by
  induction messages generalizing c with
  | nil => rfl
  | cons m messages ih =>
    rw [List.map_cons, List.map_cons, datagramsReceived, datagramsReceived, datagramReceived_wire]
    simp only [ih]

/-- **Data of a stream of messages** is handled as these messages would be as datagrams. -/
lemma dataReceived_stream (hbuffer : c.tcpBuffer = StreamMessage.unfinished messages before)
    {data : Bytes} (hinitial : before ++ data <+: StreamMessage.stream messages) : ∃ delivered,
    StreamMessage.arrived messages before ++ delivered =
        StreamMessage.arrived messages (before ++ data) ∧
      dataReceived T canonicalHost addrByChannel addr c data =
        ({ protocol := (datagramsReceived T canonicalHost addrByChannel addr c.protocol
              (delivered.map StreamMessage.data)).1
           tcpBuffer := StreamMessage.unfinished messages (before ++ data) },
          (datagramsReceived T canonicalHost addrByChannel addr c.protocol
            (delivered.map StreamMessage.data)).2) := by
  obtain ⟨delivered, harrived, hsplit⟩ := StreamMessage.splitTurnTcpFrames_next hinitial
  refine ⟨delivered, harrived, ?_⟩
  rw [dataReceived, hbuffer, hsplit]
  dsimp only
  rw [datagramsReceived_wire]

/-- **All events** and the buffer of a stream of messages. -/
theorem tcpBuffer_events (hbuffer : c.tcpBuffer = StreamMessage.unfinished messages before)
    {events : List ClientEvent}
    (hinitial : before ++ (events.map ClientEvent.chunk).flatten <+: StreamMessage.stream messages) :
    (events.foldl (StreamClient.after T canonicalHost) c).tcpBuffer =
      StreamMessage.unfinished messages (before ++ (events.map ClientEvent.chunk).flatten) := by
  induction events generalizing c before with
  | nil =>
    rw [List.map_nil, List.flatten_nil, List.append_nil]
    exact hbuffer
  | cons event events ih =>
    rw [List.map_cons, List.flatten_cons, ← List.append_assoc] at hinitial ⊢
    refine ih ?_ hinitial
    have hinitial := (List.prefix_append _ _).trans hinitial
    cases event with
    | data addrByChannel addr data =>
      obtain ⟨delivered, -, hreceived⟩ := @dataReceived_stream T canonicalHost addrByChannel addr
        messages before c hbuffer data hinitial
      rw [StreamClient.after, hreceived]
      rfl
    | other protocol =>
      rw [ClientEvent.chunk, List.append_nil]
      exact hbuffer

end

/-! ## Streams of messages -/

/-- **The server** hands on the messages of a stream: its buffer holds less than the next message, and
the next chunk is handled as the messages that it completes. -/
def ServerDelivers (messages : List StreamMessage) : Prop :=
  ∀ (T : Setting) (s₀ : TurnServer) (calls : List Call) (input : TurnServerTcpChunk),
    s₀.buffer input.clientId = [] → (∀ call ∈ calls, call ≠ .clientClosed input.clientId) →
    received input.clientId calls ++ input.data <+: StreamMessage.stream messages →
      let s := calls.foldl (stateAfter T) s₀
      let before := received input.clientId calls
      s.buffer input.clientId = StreamMessage.unfinished messages before ∧
        Incomplete (messages.map StreamMessage.wire) before ∧
        ∃ delivered, StreamMessage.arrived messages before ++ delivered =
            StreamMessage.arrived messages (before ++ input.data) ∧
          (handleTcpChunk T input).run s =
            (deliver T input delivered (StreamMessage.unfinished messages (before ++ input.data))).run s

/-- **The client** does so, too. -/
def ClientDelivers (messages : List StreamMessage) : Prop :=
  ∀ (T : Setting) (canonicalHost : String → String) (c₀ : StreamClient) (events : List ClientEvent)
    (addrByChannel : ℕ → Option Address) (addr : Address) (data : Bytes), c₀.tcpBuffer = [] →
    (events.map ClientEvent.chunk).flatten ++ data <+: StreamMessage.stream messages →
      let c := events.foldl (StreamClient.after T canonicalHost) c₀
      let before := (events.map ClientEvent.chunk).flatten
      c.tcpBuffer = StreamMessage.unfinished messages before ∧
        Incomplete (messages.map StreamMessage.wire) before ∧
        ∃ delivered, StreamMessage.arrived messages before ++ delivered =
            StreamMessage.arrived messages (before ++ data) ∧
          dataReceived T canonicalHost addrByChannel addr c data =
            ({ protocol := (datagramsReceived T canonicalHost addrByChannel addr c.protocol
                  (delivered.map StreamMessage.data)).1
               tcpBuffer := StreamMessage.unfinished messages (before ++ data) },
              (datagramsReceived T canonicalHost addrByChannel addr c.protocol
                (delivered.map StreamMessage.data)).2)

/-- **A socket of ICE over TCP** gives the messages of its stream to `handleFrame`; the address of the
peer of an open socket is known. -/
def SocketDelivers (messages : List StreamMessage) : Prop :=
  ∀ (wires : List Bytes) (entry : Ice.Tcp.SocketEntry) (chunks : List (Option Address × Bytes)),
    Ice.Tcp.Written (messages.map StreamMessage.data) wires → entry.buffer = [] →
    (∀ chunk ∈ chunks, (entry.remoteAddr.or chunk.1).isSome) →
    (chunks.map Prod.snd).flatten <+: wires.flatten →
      let before := (chunks.map Prod.snd).flatten
      (Ice.Tcp.onChunks entry chunks).1.buffer = tail wires before ∧ Incomplete wires before ∧
        (Ice.Tcp.onChunks entry chunks).2.map Prod.fst =
          (messages.take (completed wires before.length)).map StreamMessage.data ∧
        (before = wires.flatten → completed wires before.length = messages.length)

/-- **Framing does not depend on chunks.**  A server, a client and a socket of ICE over TCP hand on the
messages of a stream in order, each once, and hold less than the next one; at its beginning none have
arrived, and at its end all have.  On any bytes whatever the loops end by themselves. -/
theorem messages_delivered (messages : List StreamMessage) :
    ServerDelivers messages ∧ ClientDelivers messages ∧ SocketDelivers messages ∧
      StreamMessage.arrived messages [] = [] ∧
      StreamMessage.arrived messages (StreamMessage.stream messages) = messages ∧
      StreamMessage.unfinished messages (StreamMessage.stream messages) = [] ∧
      (∀ (buffer : Bytes) (turns : ℕ), buffer.length ≤ turns →
        splitFrames turns buffer = splitTurnTcpFrames buffer) ∧
      ∀ (buffer : Bytes) (turns : ℕ), buffer.length ≤ turns →
        Ice.Tcp.splitFrames turns buffer = Ice.Tcp.splitTcpFrames buffer := by
  have hstart : StreamMessage.unfinished messages [] = [] := List.drop_nil
  refine ⟨?server, ?client, ?socket, StreamMessage.arrived_nil messages,
    (StreamMessage.arrived_stream messages).1, (StreamMessage.arrived_stream messages).2, fun buffer turns h => splitFrames_of_length_le h le_rfl,
    fun buffer turns h => Ice.Tcp.splitFrames_of_length_le h⟩
  case server =>
    intro T s₀ calls input hbuffer hopen hinitial s before
    have hbefore : before <+: StreamMessage.stream messages :=
      (List.prefix_append _ _).trans hinitial
    have hcalls := @buffer_calls T s₀ messages [] input.clientId (hbuffer.trans hstart.symm) calls
      hopen hbefore
    exact ⟨hcalls, StreamMessage.unfinished_incomplete hbefore, run_handleTcpChunk hcalls hinitial⟩
  case client =>
    intro T canonicalHost c₀ events addrByChannel addr data hbuffer hinitial c before
    have hbefore : before <+: StreamMessage.stream messages :=
      (List.prefix_append _ _).trans hinitial
    have hevents := @tcpBuffer_events T canonicalHost messages [] c₀ (hbuffer.trans hstart.symm)
      events hbefore
    exact ⟨hevents, StreamMessage.unfinished_incomplete hbefore, dataReceived_stream hevents hinitial⟩
  case socket =>
    intro wires entry chunks hwritten hbuffer haddr hinitial before
    have hmessages : ∀ m ∈ messages.map StreamMessage.data, m ≠ [] := by
      intro m hm
      obtain ⟨message, -, rfl⟩ := List.mem_map.mp hm
      exact message.data_ne_nil
    have hbegin : entry.buffer = tail wires [] := hbuffer.trans List.drop_nil.symm
    obtain ⟨hrest, hhandled⟩ := Ice.Tcp.onChunks_stream hwritten hmessages hbegin haddr hinitial
    have hincomplete := (splits_of_prefix_flatten hwritten.whole hinitial).2.2
    have hnone : completed wires ([] : Bytes).length = 0 := completed_nil hwritten.whole
    refine ⟨hrest, hincomplete, ?_, fun hall => ?_⟩
    · rw [hnone] at hhandled
      exact hhandled.trans (List.map_take ..).symm
    · rw [hall, (completed_flatten wires).1, ← List.length_map StreamMessage.data]
      exact (List.Forall₂.length_eq hwritten).symm

end Werift.Turn
