import Werift.Turn.Server

/-!
# The handlers of a TURN server (`ice-server/src/turn/protocol.ts`)

One definition for each method that handles an input; `serve` is the public interface.
-/

namespace Werift.Turn

open Stun Contract

/-- `UDP_TRANSPORT`. -/
def UDP_TRANSPORT : ℕ := 17

section

variable (T : Setting)

/-- `clampLifetime(requestedLifetime)`. -/
def clampLifetime (requestedLifetime : Option ℕ) : ℕ :=
  match requestedLifetime with
  | none | some 0 => T.options.allocationLifetime
  | some lifetime => min lifetime T.options.allocationLifetime

/-- `sendClient(auth, errorResponse(message, errorCode, reason, [], auth.integrityKey).bytes)`. -/
def refuse (input : TurnServerClientPacket) (message : Message) (auth : AuthenticatedRequestContext)
    (errorCode : ℕ) (reason : String) : Action (List TurnServerAction) :=
  respond (clientEndpoint input)
    (errorResponse T message errorCode reason [] (some auth.integrityKey))

/-- A request that has to be authenticated first. -/
def withAuthentication (input : TurnServerClientPacket) (message : Message) (method : ℕ)
    (f : AuthenticatedRequestContext → Action (List TurnServerAction)) :
    Action (List TurnServerAction) := do
  match ← authenticateRequest T input message method with
  | .error response => respond (clientEndpoint input) (some response)
  | .ok auth => f auth

/-! ## Requests -/

/-- The end of `handleAllocateRequest`: a new allocation. -/
def createAllocation (input : TurnServerClientPacket) (message : Message)
    (auth : AuthenticatedRequestContext) : Action (List TurnServerAction) := do
  let allocationId ← randomUUID T
  let relayId ← randomUUID T
  let allocation : TurnAllocation :=
    { id := allocationId
      relayId
      username := auth.username
      client := clientEndpoint input
      mappedAddress := input.remoteAddress
      lifetime := clampLifetime T (message.getNumber .lifetime)
      pendingAllocate := some ⟨clientEndpoint input, auth.integrityKey, message⟩ }
  modify fun s => s.insert allocation
  return [.bindRelay allocationId relayId]

/-- `handleAllocateRequest(input, message, now)`. -/
def handleAllocateRequest (input : TurnServerClientPacket) (message : Message) :
    Action (List TurnServerAction) :=
  withAuthentication T input message methods.ALLOCATE fun auth => do
    match message.getNumber .requestedTransport with
    | none => refuse T input message auth 400 "Bad Request"
    | some requestedTransport =>
      if requestedTransport / 2 ^ 24 ≠ UDP_TRANSPORT then
        refuse T input message auth 442 "Unsupported Transport Protocol"
      else if (message.getNumber .requestedAddressFamily).any (· ≠ 0x01) then
        refuse T input message auth 440 "Address Family not Supported"
      else if (message.getAttributeValue .evenPort).isSome ||
          (message.getAttributeValue .reservationToken).isSome then
        refuse T input message auth 508 "Insufficient Capacity"
      else
        let s ← get
        if (s.getClientAllocation input.clientId).isSome then
          refuse T input message auth 437 "Allocation Mismatch"
        else if T.options.maxAllocations ≤ s.allocations.size then
          refuse T input message auth 486 "Allocation Quota Reached"
        else createAllocation T input message auth

/-- The allocation of the client of an authenticated request. -/
def withAllocation (input : TurnServerClientPacket) (message : Message) (method : ℕ)
    (f : AuthenticatedRequestContext → TurnAllocation → Action (List TurnServerAction)) :
    Action (List TurnServerAction) :=
  withAuthentication T input message method fun auth => do
    match (← get).getClientAllocation input.clientId with
    | none => refuse T input message auth 437 "Allocation Mismatch"
    | some allocation =>
      if allocation.username ≠ auth.username then
        refuse T input message auth 437 "Allocation Mismatch"
      else f auth allocation

/-- `handleRefreshRequest(input, message, now)`. -/
def handleRefreshRequest (input : TurnServerClientPacket) (message : Message) (now : ℤ) :
    Action (List TurnServerAction) :=
  withAllocation T input message methods.REFRESH fun auth allocation => do
    if message.getNumber .lifetime = some 0 then
      let actions ← deleteAllocation allocation
      let response ← respond (clientEndpoint input) (successResponse T message methods.REFRESH
        [(.lifetime, .number 0)] (some auth.integrityKey))
      return response ++ actions
    else
      let lifetime := clampLifetime T (message.getNumber .lifetime)
      let expiresAt := now + lifetime * 1000
      updateAllocation allocation.id fun a => { a with lifetime, expiresAt := some expiresAt }
      let lifetimeSeconds := ((expiresAt - now) / 1000).toNat
      respond (clientEndpoint input) (successResponse T message methods.REFRESH
        [(.lifetime, .number lifetimeSeconds)] (some auth.integrityKey))

/-- `setPermission(allocation, peerAddress, now)`. -/
def setPermission (allocation : TurnAllocation) (peerAddress : Address) (now : ℤ) : Action Unit :=
  updateAllocation allocation.id fun a =>
    a.setPermission peerAddress (now + T.options.permissionLifetime * 1000)

/-- `handleCreatePermissionRequest(input, message, now)`. -/
def handleCreatePermissionRequest (input : TurnServerClientPacket) (message : Message) (now : ℤ) :
    Action (List TurnServerAction) :=
  withAllocation T input message methods.CREATE_PERMISSION fun auth allocation => do
    match message.getAddress .xorPeerAddress with
    | none => refuse T input message auth 400 "Bad Request"
    | some peerAddress =>
      if !hasSameAddressFamily input.remoteAddress peerAddress then
        refuse T input message auth 443 "Peer Address Family Mismatch"
      else
        setPermission T allocation peerAddress now
        respond (clientEndpoint input) (successResponse T message methods.CREATE_PERMISSION []
          (some auth.integrityKey))

/-- `handleChannelBindRequest(input, message, now)`. -/
def handleChannelBindRequest (input : TurnServerClientPacket) (message : Message) (now : ℤ) :
    Action (List TurnServerAction) :=
  withAllocation T input message methods.CHANNEL_BIND fun auth allocation => do
    match message.getNumber .channelNumber, message.getAddress .xorPeerAddress with
    | some channelNumber, some peerAddress =>
      if channelNumber < 0x4000 ∨ 0x7fff < channelNumber then
        refuse T input message auth 400 "Bad Request"
      else if !hasSameAddressFamily input.remoteAddress peerAddress then
        refuse T input message auth 443 "Peer Address Family Mismatch"
      else if (allocation.channelsByNumber.get? channelNumber).any fun existing =>
          addressKey existing.peerAddress ≠ addressKey peerAddress then
        refuse T input message auth 400 "Bad Request"
      else if (allocation.channelsByPeer.get? (addressKey peerAddress)).any fun existing =>
          existing.number ≠ channelNumber then
        refuse T input message auth 400 "Bad Request"
      else
        setPermission T allocation peerAddress now
        let binding : TurnChannelBinding :=
          { peerAddress
            number := channelNumber
            expiresAt := now + T.options.channelLifetime * 1000 }
        updateAllocation allocation.id fun a => a.setChannelBinding binding
        respond (clientEndpoint input) (successResponse T message methods.CHANNEL_BIND []
          (some auth.integrityKey))
    | _, _ => refuse T input message auth 400 "Bad Request"

/-- `handleBindingRequest(input)`. -/
def handleBindingRequest (input : TurnServerClientPacket) : Action (List TurnServerAction) := do
  let bindingProtocol : StunServerProtocol :=
    { software := T.options.software, fingerprint := T.options.fingerprint }
  let stunActions ← orThrow (bindingProtocol.handleDatagram T.hmac input.toStunServerDatagram)
  return stunActions.map fun
    | .send data _ => sendClient (clientEndpoint input) data
    | .ignore reason => .ignore reason

/-! ## Data -/

/-- `getPermission(allocation, peerAddress, now)`. -/
def getPermission (allocation : TurnAllocation) (peerAddress : Address) (now : ℤ) :
    Action (Option TurnPermission) := do
  match allocation.permissions.get? (permissionKey peerAddress) with
  | none => return none
  | some permission =>
    if permission.expiresAt ≤ now then
      updateAllocation allocation.id fun a =>
        { a with permissions := a.permissions.delete (permissionKey peerAddress) }
      return none
    else return some permission

/-- `getChannelBinding(allocation, peerAddress, now)`. -/
def getChannelBinding (allocation : TurnAllocation) (peerAddress : Address) (now : ℤ) :
    Action (Option TurnChannelBinding) := do
  match allocation.channelsByPeer.get? (addressKey peerAddress) with
  | none => return none
  | some binding =>
    if binding.expiresAt ≤ now then
      updateAllocation allocation.id fun a => a.removeChannelBinding binding
      return none
    else return some binding

/-- `handleSendIndication(input, message, now)`. -/
def handleSendIndication (input : TurnServerClientPacket) (message : Message) (now : ℤ) :
    Action (List TurnServerAction) := do
  match (← get).getClientAllocation input.clientId with
  | none => return [.ignore .unknownClient]
  | some allocation =>
    match message.getAddress .xorPeerAddress, message.getBuffer .data with
    | some peerAddress, some data =>
      match ← getPermission allocation peerAddress now with
      | none => return [.ignore .unknownChannel]
      | some _ =>
        emit (.client input.clientId) allocation.id now
          (.sendRelay allocation.relayId peerAddress data)
    | _, _ => return [.ignore .malformed]

/-- The branch of `handleClientPacket` for channel data. -/
def handleChannelData (input : TurnServerClientPacket) (now : ℤ) :
    Action (List TurnServerAction) := do
  match decodeChannelData input.data with
  | none => return [.ignore .malformed]
  | some channelData =>
    match (← get).getClientAllocation input.clientId with
    | none => return [.ignore .unknownClient]
    | some allocation =>
      match allocation.channelsByNumber.get? channelData.channelNumber with
      | none => return [.ignore .unknownChannel]
      | some binding =>
        if binding.expiresAt ≤ now then
          updateAllocation allocation.id fun a => a.removeChannelBinding binding
          return [.ignore .unknownChannel]
        else
          emit (.client input.clientId) allocation.id now
            (.sendRelay allocation.relayId binding.peerAddress channelData.data)

/-- The branch of `handleClientPacket` for a STUN message. -/
def handleMessage (input : TurnServerClientPacket) (message : Message) (now : ℤ) :
    Action (List TurnServerAction) :=
  if message.messageClass = classes.INDICATION then
    if message.messageMethod = methods.BINDING then return [.ignore .bindingIndication]
    else if message.messageMethod ≠ methods.SEND then return [.ignore .unsupportedIndication]
    else handleSendIndication input message now
  else if message.messageClass ≠ classes.REQUEST then return [.ignore .nonRequest]
  else if message.unknownRequired ≠ [] then
    respond (clientEndpoint input) (errorResponse T message 420 "Unknown Attribute"
      [(.unknownAttributes, .numbers message.unknownRequired)] none)
  else if message.messageMethod = methods.BINDING then handleBindingRequest T input
  else if message.messageMethod = methods.ALLOCATE then handleAllocateRequest T input message
  else if message.messageMethod = methods.REFRESH then handleRefreshRequest T input message now
  else if message.messageMethod = methods.CREATE_PERMISSION then
    handleCreatePermissionRequest T input message now
  else if message.messageMethod = methods.CHANNEL_BIND then
    handleChannelBindRequest T input message now
  else respond (clientEndpoint input) (errorResponse T message 400 "Bad Request" [] none)

/-- The branches of `handleClientPacket`. -/
def dispatchPacket (input : TurnServerClientPacket) (time : ℤ) : Action (List TurnServerAction) :=
  if isChannelData input.data then handleChannelData input time
  else if !isStunMessage input.data then return [.ignore .nonStun]
  else match parseMessage T.hmac input.data none with
  | .error .throws => throw ()
  | .error .undefined => return [.ignore .malformed]
  | .ok message => handleMessage T input message time

/-- `handleClientPacket(input)`. -/
def handleClientPacket (input : TurnServerClientPacket) : Action (List TurnServerAction) := do
  let time ← now T
  let actions ← cleanupExpired time
  let more ← dispatchPacket T input time
  return actions ++ more

/-! ## The public interface -/

/-- `handleClientDatagram(input)`. -/
def handleClientDatagram (input : TurnServerClientPacket) : Action (List TurnServerAction) := do
  let actions ← handleClientPacket T input
  finalizeActions actions (← now T)

/-- A frame of a chunk as a packet. -/
def framePacket (input : TurnServerTcpChunk) (frame : Bytes) : TurnServerClientPacket where
  clientId := input.clientId
  data := frame
  remoteAddress := input.remoteAddress
  localAddress := input.localAddress
  transport := input.transport

/-- `handleTcpChunk(input)`. -/
def handleTcpChunk (input : TurnServerTcpChunk) : Action (List TurnServerAction) := do
  let time ← now T
  let actions ← cleanupExpired time
  let buffer := ((← get).tcpBuffers.get? input.clientId).getD [] ++ input.data
  let split := splitTurnTcpFrames buffer
  if split.malformed then
    modify fun s => { s with tcpBuffers := s.tcpBuffers.delete input.clientId }
    finalizeActions (actions ++ [.closeClient input.clientId]) time
  else
    modify fun s => { s with tcpBuffers := s.tcpBuffers.set input.clientId split.rest }
    let more ← concatMapM (fun frame => handleClientPacket T (framePacket input frame)) split.frames
    finalizeActions (actions ++ more) time

/-- The indication that carries a packet of a peer. -/
def dataIndication (input : TurnServerRelayPacket) (transactionId : Bytes) : Message :=
  let message : Message :=
    { messageMethod := methods.DATA
      messageClass := classes.INDICATION
      transactionId }
  (message.setAttribute .xorPeerAddress (.address input.remoteAddress)).setAttribute .data
    (.buffer input.data)

/-- The data that is sent to the client for a packet of a peer. -/
def relayedData (input : TurnServerRelayPacket) (channel : Option TurnChannelBinding) :
    Action Bytes :=
  match channel with
  | some binding => orThrow (encodeChannelData binding.number input.data)
  | none => do
    let transactionId ← randomBytes T 12
    orThrow (dataIndication input transactionId).bytes

/-- The part of `handleRelayPacket` behind the check of the relay. -/
def forwardRelayPacket (input : TurnServerRelayPacket) (allocation : TurnAllocation) (time : ℤ) :
    Action (List TurnServerAction) := do
  let channel ← getChannelBinding allocation input.remoteAddress time
  let permission ← getPermission allocation input.remoteAddress time
  if channel.isNone && permission.isNone then return [.ignore .unknownChannel]
  else
    let data ← relayedData T input channel
    emit (.peer input.relayId input.remoteAddress) allocation.id time
      (sendClient allocation.client data)

/-- `handleRelayPacket(input)`. -/
def handleRelayPacket (input : TurnServerRelayPacket) : Action (List TurnServerAction) := do
  let time ← now T
  let actions ← cleanupExpired time
  match (← get).getRelayAllocation input.relayId with
  | none => finalizeActions (actions ++ [.ignore .unknownRelay]) time
  | some allocation =>
    if allocation.relayedAddress.isNone then
      finalizeActions (actions ++ [.ignore .unknownRelay]) time
    else
      let more ← forwardRelayPacket T input allocation time
      finalizeActions (actions ++ more) time

/-- `handleRelayBound(input)`. -/
def handleRelayBound (input : TurnServerRelayBound) : Action (List TurnServerAction) := do
  let time ← now T
  let actions ← cleanupExpired time
  match (← get).allocations.get? input.allocationId with
  | none => finalizeActions (actions ++ [.ignore .unknownRelay]) time
  | some allocation =>
    match allocation.pendingAllocate with
    | none => finalizeActions (actions ++ [.ignore .unknownRelay]) time
    | some pending =>
      if allocation.relayId ≠ input.relayId then
        finalizeActions (actions ++ [.ignore .unknownRelay]) time
      else
        updateAllocation allocation.id fun a => { a with
          relayedAddress := some input.relayedAddress
          expiresAt := some (time + allocation.lifetime * 1000)
          pendingAllocate := none }
        let more ← respond pending.client (successResponse T pending.message methods.ALLOCATE
          [(.xorRelayedAddress, .address input.relayedAddress),
            (.xorMappedAddress, .address allocation.mappedAddress),
            (.lifetime, .number allocation.lifetime)] (some pending.integrityKey))
        finalizeActions (actions ++ more) time

/-- `handleRelayBindFailure(input)`. -/
def handleRelayBindFailure (input : TurnServerRelayBindFailure) :
    Action (List TurnServerAction) := do
  let time ← now T
  let actions ← cleanupExpired time
  match (← get).allocations.get? input.allocationId with
  | none => finalizeActions (actions ++ [.ignore .unknownRelay]) time
  | some allocation =>
    match allocation.pendingAllocate with
    | none => finalizeActions (actions ++ [.ignore .unknownRelay]) time
    | some pending =>
      let _ ← deleteAllocation allocation
      let more ← respond pending.client (errorResponse T pending.message
        (input.errorCode.getD 508) (input.reason.getD "Insufficient Capacity") []
        (some pending.integrityKey))
      finalizeActions (actions ++ more) time

/-- `handleClientClosed(input)`. -/
def handleClientClosed (clientId : String) : Action (List TurnServerAction) := do
  let time ← now T
  let actions ← cleanupExpired time
  modify fun s => { s with tcpBuffers := s.tcpBuffers.delete clientId }
  match (← get).getClientAllocation clientId with
  | none => finalizeActions actions time
  | some allocation => finalizeActions (actions ++ (← deleteAllocation allocation)) time

/-- `handleTimer(now)`; the clock is read if no time is given. -/
def handleTimer (time : Option ℤ) : Action (List TurnServerAction) := do
  let time ← match time with
    | some time => pure time
    | none => now T
  finalizeActions (← cleanupExpired time) time

end

/-- A call of a public method. -/
inductive Call
  | clientDatagram (input : TurnServerClientPacket)
  | tcpChunk (input : TurnServerTcpChunk)
  | relayPacket (input : TurnServerRelayPacket)
  | relayBound (input : TurnServerRelayBound)
  | relayBindFailure (input : TurnServerRelayBindFailure)
  | clientClosed (clientId : String)
  | timer (time : Option ℤ)

/-- The actions that a call returns. -/
def serve (T : Setting) : Call → Action (List TurnServerAction)
  | .clientDatagram input => handleClientDatagram T input
  | .tcpChunk input => handleTcpChunk T input
  | .relayPacket input => handleRelayPacket T input
  | .relayBound input => handleRelayBound T input
  | .relayBindFailure input => handleRelayBindFailure T input
  | .clientClosed clientId => handleClientClosed T clientId
  | .timer time => handleTimer T time

/-- The methods of the requests that a client sends after it has got its allocation. -/
def laterMethods : List ℕ := [methods.REFRESH, methods.CREATE_PERMISSION, methods.CHANNEL_BIND]

/-- Where the data of a call comes from. -/
def Call.source : Call → Option Source
  | .clientDatagram input => some (.client input.clientId)
  | .tcpChunk input => some (.client input.clientId)
  | .relayPacket input => some (.peer input.relayId input.remoteAddress)
  | _ => none

/-- Whether what a call sends to a client is relayed. -/
def Call.forwarding : Call → Bool
  | .relayPacket _ => true
  | _ => false

end Werift.Turn
