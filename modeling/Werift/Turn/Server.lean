import Werift.Js.Map
import Werift.Js.Number
import Werift.Lib.Contract
import Werift.Stun.Server
import Werift.Turn.Frame

/-!
# A TURN server (`ice-server/src/turn/protocol.ts`, `ice-server/src/turn/auth.ts`)

The methods of `TurnServerProtocol` change its maps and return actions.  Where they throw, because an
answer cannot be written, the changes made so far stay and no actions are returned.  An allocation
that a method has looked up is changed in the map, as a reference to it would be.

The clock and the random values are tapes: the `n`-th reading is `now n`.  The field `history` of the
state records what has happened and is never read.
-/

namespace Werift.Turn

open Stun Contract

/-! ## Data -/

/-- `ClientEndpoint`. -/
structure ClientEndpoint where
  clientId : String
  transport : StunTransport
  remoteAddress : Address
  localAddress : Option Address

/-- `TurnServerClientPacket`. -/
structure TurnServerClientPacket extends StunServerDatagram where
  clientId : String

/-- `TurnServerTcpChunk`. -/
structure TurnServerTcpChunk where
  clientId : String
  data : Bytes
  remoteAddress : Address
  localAddress : Option Address := none
  transport : StunTransport

/-- `TurnServerRelayPacket`. -/
structure TurnServerRelayPacket where
  relayId : String
  data : Bytes
  remoteAddress : Address
  localAddress : Address

/-- `TurnServerRelayBound`. -/
structure TurnServerRelayBound where
  allocationId : String
  relayId : String
  relayedAddress : Address

/-- `TurnServerRelayBindFailure`. -/
structure TurnServerRelayBindFailure where
  allocationId : String
  errorCode : Option ℕ := none
  reason : Option String := none

/-- `TurnServerAction`. -/
inductive TurnServerAction
  | sendClient (clientId : String) (transport : StunTransport) (remoteAddress : Address)
      (data : Bytes)
  | sendRelay (relayId : String) (remoteAddress : Address) (data : Bytes)
  | bindRelay (allocationId relayId : String)
  | closeRelay (relayId : String)
  | closeClient (clientId : String)
  | scheduleTimeout (time : ℤ)
  | ignore (reason : IgnoreReason)
deriving DecidableEq

/-- `PendingAllocate`. -/
structure PendingAllocate where
  client : ClientEndpoint
  integrityKey : Bytes
  message : Message

/-- `TurnPermission`. -/
structure TurnPermission where
  peerAddress : Address
  expiresAt : ℤ

/-- `TurnChannelBinding`. -/
structure TurnChannelBinding where
  peerAddress : Address
  number : ℕ
  expiresAt : ℤ

/-- `TurnAllocation`. -/
structure TurnAllocation where
  id : String
  relayId : String
  username : String
  client : ClientEndpoint
  mappedAddress : Address
  lifetime : ℕ
  expiresAt : Option ℤ := none
  relayedAddress : Option Address := none
  pendingAllocate : Option PendingAllocate := none
  permissions : Js.Map String TurnPermission := {}
  channelsByNumber : Js.Map ℕ TurnChannelBinding := {}
  channelsByPeer : Js.Map String TurnChannelBinding := {}

/-- `NonceState`. -/
structure NonceState where
  value : Bytes
  expiresAt : ℤ

/-- A request that `authenticateRequest` has accepted: the packet, the message in it, and the nonce
that was valid at the time. -/
structure AuthenticatedRequest where
  clientId : String
  data : Bytes
  message : Message
  username : String
  nonce : NonceState
  checkedAt : ℤ

/-- Where the data of an action comes from. -/
inductive Source
  | client (clientId : String)
  | peer (relayId : String) (peerAddress : Address)

/-- An action that relays data, and the allocation as it is at that time. -/
structure Emission where
  source : Source
  allocation : TurnAllocation
  now : ℤ
  action : TurnServerAction

/-- What the history of a server records. -/
inductive Event
  | nonceIssued (nonce : NonceState)
  | authenticated (request : AuthenticatedRequest)
  | emitted (emission : Emission)

/-- The maps of a `TurnServerProtocol`; `ticks` and `draws` count the readings of the tapes. -/
structure TurnServer where
  allocations : Js.Map String TurnAllocation := {}
  allocationIdByClientId : Js.Map String String := {}
  allocationIdByRelayId : Js.Map String String := {}
  nonces : Js.Map String NonceState := {}
  tcpBuffers : Js.Map String Bytes := {}
  ticks : ℕ := 0
  draws : ℕ := 0
  history : List Event := []

/-- `TurnServerProtocolOptions`, with the defaults of the constructor. -/
structure TurnServerProtocolOptions where
  realm : String := "werift-ice-server"
  software : Option String := none
  fingerprint : FingerprintMode := .ifPresent
  allocationLifetime : ℕ := 600
  permissionLifetime : ℕ := 300
  channelLifetime : ℕ := 600
  nonceLifetime : ℕ := 3600
  maxAllocations : ℕ := 256
  getPassword : String → String → Option String := fun _ _ => none

/-- A server with its surroundings.  The time does not decrease, and the universally unique
identifiers are different and not empty. -/
structure Setting where
  options : TurnServerProtocolOptions
  hmac : Hmac
  md5 : Bytes → Bytes
  now : ℕ → ℤ
  randomUUID : ℕ → String
  randomBytes : ℕ → ℕ → Bytes
  monotone_now : Monotone now
  randomUUID_injective : Function.Injective randomUUID
  randomUUID_ne_empty : ∀ n, randomUUID n ≠ ""

/-- A method of the server. -/
abbrev Action (α : Type) := EStateM Unit TurnServer α

/-- The value of an expression that may throw. -/
def orThrow {α : Type} : Option α → Action α
  | some a => pure a
  | none => throw ()

/-! ## Keys -/

/-- `addressKey(address)`. -/
def addressKey (address : Address) : String :=
  address.1 ++ ":" ++ String.ofList (Js.decimalText address.2)

/-- `permissionKey(address)`. -/
def permissionKey (address : Address) : String := address.1

/-- `isIpv6Address(address)`. -/
def isIpv6Address (address : String) : Bool := address.toList.contains ':'

/-- `hasSameAddressFamily(left, right)`. -/
def hasSameAddressFamily (left right : Address) : Bool :=
  isIpv6Address left.1 == isIpv6Address right.1

/-! ## Reading and changing the maps -/

namespace TurnAllocation

/-- `removeChannelBinding(allocation, binding)`. -/
def removeChannelBinding (a : TurnAllocation) (binding : TurnChannelBinding) : TurnAllocation :=
  { a with
    channelsByNumber := a.channelsByNumber.delete binding.number
    channelsByPeer := a.channelsByPeer.delete (addressKey binding.peerAddress) }

/-- `setPermission(allocation, peerAddress, now)`: the permission ends at the given time. -/
def setPermission (a : TurnAllocation) (peerAddress : Address) (expiresAt : ℤ) : TurnAllocation :=
  { a with permissions := a.permissions.set (permissionKey peerAddress) ⟨peerAddress, expiresAt⟩ }

/-- The end of `handleChannelBindRequest`, which puts the binding into both maps. -/
def setChannelBinding (a : TurnAllocation) (binding : TurnChannelBinding) : TurnAllocation :=
  { a with
    channelsByNumber := a.channelsByNumber.set binding.number binding
    channelsByPeer := a.channelsByPeer.set (addressKey binding.peerAddress) binding }

/-- The loop of `cleanupExpired` over the permissions. -/
def cleanupPermissions (a : TurnAllocation) (now : ℤ) : TurnAllocation :=
  { a with permissions := a.permissions.filter fun _ permission => now < permission.expiresAt }

/-- The loop of `cleanupExpired` over the channels. -/
def cleanupChannels (a : TurnAllocation) (now : ℤ) : TurnAllocation :=
  (a.channelsByNumber.values.filter fun binding => binding.expiresAt ≤ now).foldl
    removeChannelBinding a

/-- The times at which something of an allocation ends. -/
def timeouts (a : TurnAllocation) : List ℤ :=
  a.expiresAt.toList ++ a.permissions.values.map TurnPermission.expiresAt ++
    a.channelsByNumber.values.map TurnChannelBinding.expiresAt

end TurnAllocation

namespace TurnServer

/-- The allocation of an id that may be empty. -/
def allocationOf (s : TurnServer) (id : Option String) : Option TurnAllocation :=
  (truthy id).bind s.allocations.get?

/-- `getClientAllocation(clientId)`. -/
def getClientAllocation (s : TurnServer) (clientId : String) : Option TurnAllocation :=
  s.allocationOf (s.allocationIdByClientId.get? clientId)

/-- `getRelayAllocation(relayId)`. -/
def getRelayAllocation (s : TurnServer) (relayId : String) : Option TurnAllocation :=
  s.allocationOf (s.allocationIdByRelayId.get? relayId)

/-- `computeNextTimeoutAt()`. -/
def computeNextTimeoutAt (s : TurnServer) : Option ℤ :=
  (s.nonces.values.map NonceState.expiresAt ++
    s.allocations.values.flatMap TurnAllocation.timeouts).min?

/-- The state in which the allocation of an id has been changed. -/
def update (s : TurnServer) (id : String) (f : TurnAllocation → TurnAllocation) : TurnServer :=
  match s.allocations.get? id with
  | some a => { s with allocations := s.allocations.set id (f a) }
  | none => s

/-- The state in which an allocation has been deleted. -/
def delete (s : TurnServer) (a : TurnAllocation) : TurnServer :=
  { s with
    allocations := s.allocations.delete a.id
    allocationIdByClientId := s.allocationIdByClientId.delete a.client.clientId
    allocationIdByRelayId := s.allocationIdByRelayId.delete a.relayId }

/-- The state in which an allocation has been added. -/
def insert (s : TurnServer) (a : TurnAllocation) : TurnServer :=
  { s with
    allocations := s.allocations.set a.id a
    allocationIdByClientId := s.allocationIdByClientId.set a.client.clientId a.id
    allocationIdByRelayId := s.allocationIdByRelayId.set a.relayId a.id }

/-- The state in which an event has been recorded. -/
def record (s : TurnServer) (event : Event) : TurnServer :=
  { s with history := s.history ++ [event] }

/-- Record that an action relays data, with the allocation as it is now. -/
def recordEmission (s : TurnServer) (source : Source) (id : String) (now : ℤ)
    (action : TurnServerAction) : TurnServer :=
  match s.allocations.get? id with
  | some a => s.record (.emitted ⟨source, a, now, action⟩)
  | none => s

end TurnServer

/-- Change an allocation through a reference to it. -/
def updateAllocation (id : String) (f : TurnAllocation → TurnAllocation) : Action Unit :=
  modify fun s => s.update id f

/-- `deleteAllocation(allocation)`. -/
def deleteAllocation (a : TurnAllocation) : Action (List TurnServerAction) := do
  modify fun s => s.delete a
  return [.closeRelay a.relayId]

/-- An action that relays data. -/
def emit (source : Source) (id : String) (now : ℤ) (action : TurnServerAction) :
    Action (List TurnServerAction) := do
  modify fun s => s.recordEmission source id now action
  return [action]

/-- `sendClient(client, data)`. -/
def sendClient (client : ClientEndpoint) (data : Bytes) : TurnServerAction :=
  .sendClient client.clientId client.transport client.remoteAddress data

/-- `clientEndpoint(input)`. -/
def clientEndpoint (input : TurnServerClientPacket) : ClientEndpoint where
  clientId := input.clientId
  transport := input.transport
  remoteAddress := input.remoteAddress
  localAddress := input.localAddress

/-- `sendClient(client, response.bytes)`. -/
def respond (client : ClientEndpoint) (response : Option Message) :
    Action (List TurnServerAction) := do
  let data ← orThrow (← orThrow response).bytes
  return [sendClient client data]

/-- A turn of the loop of `cleanupExpired` over the allocations. -/
def cleanupAllocation (now : ℤ) (a : TurnAllocation) : Action (List TurnServerAction) :=
  if a.expiresAt.any fun time => time ≠ 0 && time ≤ now then deleteAllocation a
  else do
    updateAllocation a.id fun a => (a.cleanupPermissions now).cleanupChannels now
    return []

/-- `cleanupExpired(now)`. -/
def cleanupExpired (now : ℤ) : Action (List TurnServerAction) := do
  modify fun s => { s with nonces := s.nonces.filter fun _ nonce => now < nonce.expiresAt }
  concatMapM (cleanupAllocation now) (← get).allocations.values

/-- `finalizeActions(actions, now)`. -/
def finalizeActions (actions : List TurnServerAction) (now : ℤ) :
    Action (List TurnServerAction) := do
  match (← get).computeNextTimeoutAt with
  | some time => return actions ++ [.scheduleTimeout (max now time)]
  | none => return actions

section

variable (T : Setting)

/-- `now()`. -/
def now : Action ℤ := do
  let s ← get
  set { s with ticks := s.ticks + 1 }
  return T.now s.ticks

/-- `randomUUID()`. -/
def randomUUID : Action String := do
  let s ← get
  set { s with draws := s.draws + 1 }
  return T.randomUUID s.draws

/-- `randomBytes(size)`. -/
def randomBytes (size : ℕ) : Action Bytes := do
  let s ← get
  set { s with draws := s.draws + 1 }
  return T.randomBytes s.draws size

/-! ## Responses -/

/-- `addResponseAttributes(response, request, attributes, integrityKey)`. -/
def addResponseAttributes (response request : Message) (attributes : List AttributePair)
    (integrityKey : Option Bytes) : Option Message := do
  let response := response.setAttributes attributes
  let response := match truthy T.options.software with
    | some software => response.setAttribute .software (.string software)
    | none => response
  let response ← match integrityKey with
    | some key => response.addMessageIntegrity T.hmac key
    | none => some response
  if T.options.fingerprint.shouldAdd request then response.addFingerprint else some response

/-- `successResponse(request, method, attributes, integrityKey)`. -/
def successResponse (request : Message) (method : ℕ) (attributes : List AttributePair)
    (integrityKey : Option Bytes) : Option Message :=
  let response : Message :=
    { messageMethod := method
      messageClass := classes.RESPONSE
      transactionId := request.transactionId }
  addResponseAttributes T response request attributes integrityKey

/-- `errorResponse(request, errorCode, reason, attributes, integrityKey)`. -/
def errorResponse (request : Message) (errorCode : ℕ) (reason : String)
    (attributes : List AttributePair) (integrityKey : Option Bytes) : Option Message :=
  let response : Message :=
    { messageMethod := request.messageMethod
      messageClass := classes.ERROR
      transactionId := request.transactionId }
  addResponseAttributes T (response.setAttribute .errorCode (.error errorCode reason)) request
    attributes integrityKey

/-- `issueNonce()`. -/
def issueNonce : Action Bytes := do
  let value ← randomBytes T 16
  let time ← now T
  let nonce : NonceState := { value, expiresAt := time + T.options.nonceLifetime * 1000 }
  modify fun s =>
    { s with nonces := s.nonces.set (Js.toHex value) nonce }.record (.nonceIssued nonce)
  return value

/-- `unauthorizedResponse(request, errorCode, reason)`. -/
def unauthorizedResponse (request : Message) (errorCode : ℕ) (reason : String) :
    Action Message := do
  let nonce ← issueNonce T
  orThrow (errorResponse T request errorCode reason
    [(.realm, .string T.options.realm), (.nonce, .buffer nonce)] none)

/-! ## Authentication -/

/-- `makeTurnIntegrityKey(username, realm, password)`. -/
def makeTurnIntegrityKey (username realm password : String) : Bytes :=
  T.md5 (Js.encodeUtf8 (username ++ ":" ++ realm ++ ":" ++ password))

/-- What `authenticateRequest` adds to a packet: an `AuthenticatedRequestContext`. -/
structure AuthenticatedRequestContext where
  integrityKey : Bytes
  message : Message
  username : String

/-- `authenticateRequest(input, message, method)`: the context of the request, or the response that
refuses it. -/
def authenticateRequest (input : TurnServerClientPacket) (message : Message) (method : ℕ) :
    Action (Except Message AuthenticatedRequestContext) := do
  match truthy (message.getString .username), message.getString .realm, message.getBuffer .nonce,
    message.getBuffer .messageIntegrity with
  | some username, some realm, some nonce, some _ =>
    if realm ≠ T.options.realm then
      return .error (← unauthorizedResponse T message 401 "Unauthorized")
    else match (← get).nonces.get? (Js.toHex nonce) with
    | none => return .error (← unauthorizedResponse T message 438 "Stale Nonce")
    | some nonceState =>
      let checkedAt ← now T
      if nonceState.expiresAt ≤ checkedAt then
        return .error (← unauthorizedResponse T message 438 "Stale Nonce")
      else match truthy (T.options.getPassword username T.options.realm) with
      | none => return .error (← unauthorizedResponse T message 401 "Unauthorized")
      | some password =>
        let integrityKey := makeTurnIntegrityKey T username T.options.realm password
        match parseMessage T.hmac input.data (some integrityKey) with
        | .error .throws => throw ()
        | .error .undefined => return .error (← unauthorizedResponse T message 401 "Unauthorized")
        | .ok validated =>
          if validated.messageMethod ≠ method then
            return .error (← unauthorizedResponse T message 401 "Unauthorized")
          else do
            modify fun s => s.record (.authenticated
              ⟨input.clientId, input.data, validated, username, nonceState, checkedAt⟩)
            return .ok { integrityKey, message := validated, username }
  | _, _, _, _ => return .error (← unauthorizedResponse T message 401 "Unauthorized")

end

end Werift.Turn
