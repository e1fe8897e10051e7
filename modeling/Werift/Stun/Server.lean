import Werift.Stun.Message

/-!
# A STUN server (`ice-server/src/protocol.ts`, `ice-server/src/stun/const.ts`)

`StunServerProtocol` answers a datagram without a state of its own.  Writing an answer may throw.
-/

namespace Werift.Stun

/-! ## `const.ts` -/

namespace classes

def REQUEST : ℕ := 0x000
def INDICATION : ℕ := 0x010
def RESPONSE : ℕ := 0x100
def ERROR : ℕ := 0x110

end classes

namespace methods

def BINDING : ℕ := 0x1
def ALLOCATE : ℕ := 0x3
def REFRESH : ℕ := 0x4
def SEND : ℕ := 0x6
def DATA : ℕ := 0x7
def CREATE_PERMISSION : ℕ := 0x8
def CHANNEL_BIND : ℕ := 0x9

end methods

/-- `isComprehensionRequiredAttribute(type)`. -/
def isComprehensionRequiredAttribute (type : ℕ) : Bool := type ≤ 0x7fff

/-! ## Reading values -/

namespace Message

/-- `getAttributeValue(key)` of an attribute whose values are numbers. -/
def getNumber (m : Message) (key : AttributeKey) : Option ℕ :=
  match m.getAttributeValue key with
  | some (.number value) => some value
  | _ => none

/-- `getAttributeValue(key)` of an attribute whose values are texts. -/
def getString (m : Message) (key : AttributeKey) : Option String :=
  match m.getAttributeValue key with
  | some (.string value) => some value
  | _ => none

/-- `getAttributeValue(key)` of an attribute whose values are buffers. -/
def getBuffer (m : Message) (key : AttributeKey) : Option Bytes :=
  match m.getAttributeValue key with
  | some (.buffer value) => some value
  | _ => none

/-- `getAttributeValue(key)` of an attribute whose values are addresses. -/
def getAddress (m : Message) (key : AttributeKey) : Option Address :=
  match m.getAttributeValue key with
  | some (.address value) => some value
  | _ => none

/-- `unknownAttributeTypes`. -/
def unknownAttributeTypes (m : Message) : List ℕ := m.rawAttributes.map RawAttribute.type

/-- The attributes that a server has to understand and does not: each type once, in order. -/
def unknownRequired (m : Message) : List ℕ :=
  (m.unknownAttributeTypes.filter isComprehensionRequiredAttribute).dedup.insertionSort (· ≤ ·)

/-- The loop that sets several attributes. -/
def setAttributes (m : Message) (attributes : List AttributePair) : Message :=
  attributes.foldl (fun m pair => m.setAttribute pair.1 pair.2) m

end Message

/-! ## The server -/

/-- `StunTransport`. -/
inductive StunTransport
  | udp
  | tcp
  | tls
  | dtls
deriving DecidableEq

/-- `StunServerDatagram`. -/
structure StunServerDatagram where
  data : Bytes
  remoteAddress : Address
  localAddress : Option Address := none
  transport : StunTransport

/-- The reasons of the actions that ignore a packet, for this server and the one of TURN. -/
inductive IgnoreReason
  | bindingIndication
  | malformed
  | nonRequest
  | nonStun
  | unknownChannel
  | unknownClient
  | unknownRelay
  | unsupportedIndication
  | unsupportedMethod
deriving DecidableEq

/-- `StunServerAction`. -/
inductive StunServerAction
  | send (data : Bytes) (remoteAddress : Address)
  | ignore (reason : IgnoreReason)

/-- The values of the option `fingerprint`. -/
inductive FingerprintMode
  | never
  | ifPresent
  | always
deriving DecidableEq

/-- `StunRequestAuthResult`. -/
inductive StunRequestAuthResult
  | ok (attributes : List AttributePair)
  | denied (errorCode : ℕ) (reason : String) (attributes : List AttributePair)

/-- `StunServerProtocolOptions`. -/
structure StunServerProtocol where
  software : Option String := none
  fingerprint : FingerprintMode := .ifPresent
  authenticateRequest : Option (StunServerDatagram → Message → StunRequestAuthResult) := none

/-- Whether a text that may be absent is truthy. -/
def truthy (text : Option String) : Option String := text.filter (· ≠ "")

/-- `shouldAddFingerprint(request)`. -/
def FingerprintMode.shouldAdd (mode : FingerprintMode) (request : Message) : Bool :=
  match mode with
  | .always => true
  | .ifPresent => (request.getAttributeValue .fingerprint).isSome
  | .never => false

namespace StunServerProtocol

variable (p : StunServerProtocol)

/-- `addDefaultAttributes(response, context, attributes)`. -/
def addDefaultAttributes (response request : Message) (attributes : List AttributePair) :
    Option Message :=
  let response := response.setAttributes attributes
  let response := match truthy p.software with
    | some software => response.setAttribute .software (.string software)
    | none => response
  if p.fingerprint.shouldAdd request then response.addFingerprint else some response

/-- `successResponse(context, attributes)`. -/
def successResponse (input : StunServerDatagram) (request : Message)
    (attributes : List AttributePair) : Option Message :=
  let response : Message :=
    { messageMethod := methods.BINDING
      messageClass := classes.RESPONSE
      transactionId := request.transactionId }
  p.addDefaultAttributes (response.setAttribute .xorMappedAddress (.address input.remoteAddress))
    request attributes

/-- `errorResponse(context, errorCode, reason, attributes)`. -/
def errorResponse (request : Message) (errorCode : ℕ) (reason : String)
    (attributes : List AttributePair) : Option Message :=
  let response : Message :=
    { messageMethod := request.messageMethod
      messageClass := classes.ERROR
      transactionId := request.transactionId }
  p.addDefaultAttributes (response.setAttribute .errorCode (.error errorCode reason)) request
    attributes

/-- `sendAction(message, remoteAddress)`. -/
def sendAction (message : Message) (remoteAddress : Address) : Option StunServerAction := do
  return .send (← message.bytes) remoteAddress

/-- `authenticateRequest?.(context)`. -/
def authResult (input : StunServerDatagram) (request : Message) : Option StunRequestAuthResult :=
  p.authenticateRequest.map fun f => f input request

/-- `handleDatagram(input)`. -/
def handleDatagram (H : Hmac) (input : StunServerDatagram) : Option (List StunServerAction) :=
  if !isStunMessage input.data then some [.ignore .nonStun]
  else match parseMessage H input.data none with
  | .error .throws => none
  | .error .undefined => some [.ignore .malformed]
  | .ok request =>
    if request.messageClass = classes.INDICATION then some [.ignore .bindingIndication]
    else if request.messageClass ≠ classes.REQUEST then some [.ignore .nonRequest]
    else do
      let response ←
        if request.unknownRequired ≠ [] then
          p.errorResponse request 420 "Unknown Attribute"
            [(.unknownAttributes, .numbers request.unknownRequired)]
        else if request.messageMethod ≠ methods.BINDING then
          p.errorResponse request 400 "Bad Request" []
        else match p.authResult input request with
        | some (.denied errorCode reason attributes) =>
          p.errorResponse request errorCode reason attributes
        | some (.ok attributes) => p.successResponse input request attributes
        | none => p.successResponse input request []
      return [← sendAction response input.remoteAddress]

end StunServerProtocol

end Werift.Stun
