import Werift.Turn.Handlers

/-!
# The requests of a TURN client (`ice/src/turn/protocol.ts`, `ice/src/stun/transaction.ts`)

A `TurnProtocol` signs its requests, accepts the responses to them, and sends a request once more
with the nonce of a response that refuses it.  The client and the server compute integrities with the
same functions, which a `Setting` has.
-/

namespace Werift.Turn

open Stun

/-- A `Transaction` that waits for its response. -/
structure Transaction where
  expectedAddr : Address
  integrityKey : Option Bytes

/-- `realm`, `nonce` and `integrityKey`, which are set together. -/
structure TurnAuthentication where
  realm : String
  nonce : Bytes
  integrityKey : Bytes

/-- The fields of a `TurnProtocol` that its requests use.  The map `transactions` has the hexadecimal
transaction ids as its keys. -/
structure TurnProtocol where
  username : String
  password : String
  pinnedServerEndpoint : Address
  authentication : Option TurnAuthentication := none
  transactions : Js.Map String Transaction := {}

/-- How a transaction ends with a response: it completes, or it fails with `TransactionFailed`. -/
inductive Outcome
  | completed (message : Message)
  | failed (message : Message)

/-- What a datagram of the server causes: a transaction ends, or `onData` is executed. -/
inductive Reaction
  | settled (transactionId : Bytes) (outcome : Outcome)
  | onData (data : Bytes) (addr : Address)

/-- `addressEquals(a, b)`, where `canonicalHost` writes an IPv6 address as the socket does. -/
def addressEquals (canonicalHost : String → String) (a b : Address) : Bool :=
  a.2 == b.2 && canonicalHost a.1 == canonicalHost b.1

namespace TurnProtocol

variable (T : Setting) (canonicalHost : String → String)

/-- The attributes and the signature of a request whose client is authenticated. -/
def sign (c : TurnProtocol) (request : Message) : Option Message :=
  match c.authentication with
  | none => some request
  | some auth => do
    let request := request.setAttributes [(.username, .string c.username),
      (.realm, .string auth.realm), (.nonce, .buffer auth.nonce)]
    let request ← request.addMessageIntegrity T.hmac auth.integrityKey
    request.addFingerprint

/-- `request(request)`, up to the point where it waits: the request that has been sent.  It throws if
its transaction id is in use or it cannot be written. -/
def request (c : TurnProtocol) (request : Message) : Option (TurnProtocol × Message) :=
  let id := Js.toHex request.transactionId
  if (c.transactions.get? id).isSome then none
  else do
    let request ← c.sign T request
    let transaction : Transaction :=
      { expectedAddr := c.pinnedServerEndpoint
        integrityKey := c.authentication.map TurnAuthentication.integrityKey }
    return ({ c with transactions := c.transactions.set id transaction }, request)

/-- Whether a message has an integrity of either kind. -/
def hasIntegrity (message : Message) : Bool :=
  (message.getAttributeValue .messageIntegrity).isSome ||
    (message.getAttributeValue .messageIntegritySha256).isSome

/-- `transaction.responseReceived(message, addr)`: how the transaction ends, if it does. -/
def responseReceived (transaction : Transaction) (message : Message) (addr : Address) :
    Option Outcome :=
  if !addressEquals canonicalHost transaction.expectedAddr addr then none
  else if transaction.integrityKey.isSome && !hasIntegrity message then none
  else if message.messageClass = classes.RESPONSE then some (.completed message)
  else some (.failed message)

/-- The branch of `handleSTUNMessage` for a message with data. -/
def dataReactions (message : Message) (addr : Address) : List Reaction :=
  match message.getBuffer .data with
  | some buf => [.onData buf ((message.getAddress .xorPeerAddress).getD addr)]
  | none => []

/-- `handleSTUNMessage(data, addr)`.  A datagram that cannot be parsed, and a response of which
the integrity is not right, are dropped. -/
def handleSTUNMessage (c : TurnProtocol) (data : Bytes) (addr : Address) :
    TurnProtocol × List Reaction :=
  match parseMessage T.hmac data none with
  | .error _ => (c, [])
  | .ok message =>
    if message.messageClass = classes.RESPONSE ∨ message.messageClass = classes.ERROR then
      let id := Js.toHex message.transactionId
      match c.transactions.get? id with
      | none => (c, dataReactions message addr)
      | some transaction =>
        let verified := match transaction.integrityKey with
          | some key => parseMessage T.hmac data (some key)
          | none => .ok message
        match verified with
        | .error _ => (c, [])
        | .ok verified =>
          match responseReceived canonicalHost transaction verified addr with
          | none => (c, dataReactions message addr)
          | some outcome => ({ c with transactions := c.transactions.delete id },
              .settled message.transactionId outcome :: dataReactions message addr)
    else if message.messageClass = classes.REQUEST then
      (c, .onData data addr :: dataReactions message addr)
    else (c, dataReactions message addr)

/-- `error.response.getAttributeValue("ERROR-CODE")`, without the reason. -/
def errorCode (response : Message) : Option ℕ :=
  match response.getAttributeValue .errorCode with
  | some (.error errorCode _) => some errorCode
  | _ => none

/-- The realm with which `requestWithRetry` goes on after a response that refuses a request. -/
def retryRealm (c : TurnProtocol) (response : Message) : Option String :=
  match errorCode response with
  | some 401 => truthy (response.getString .realm)
  | some 438 => truthy (c.authentication.map TurnAuthentication.realm)
  | _ => none

/-- The handler of `requestWithRetry` for a request that has failed with a response: it sends the
same message again, or throws. -/
def retry (c : TurnProtocol) (message response : Message) (transactionId : Bytes) :
    Option (TurnProtocol × Message) := do
  let realm ← c.retryRealm response
  let nonce ← response.getBuffer .nonce
  let integrityKey := makeTurnIntegrityKey T c.username realm c.password
  let c := { c with authentication := some ⟨realm, nonce, integrityKey⟩ }
  c.request T { message with transactionId }

end TurnProtocol

end Werift.Turn
