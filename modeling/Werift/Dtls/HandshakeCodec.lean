import Werift.Common.BinaryRoundTrip
import Werift.Dtls.Message

/-!
# Handshake messages as binary data (`dtls/src/handshake`)

The schemas of the messages, as they are interpreted.  An endpoint writes the fields of a message and reads
a message from the fields of its schema; both are in the order of the constructor.  Of the fields that keep
the length of a buffer only the buffer is in the message: no other length is written.

The names of a certificate request are strings, which are written octet by octet and read with seven bits.
Here a name is its octets.
-/

namespace Werift.Dtls

open BinaryData (BinaryError Value TypeOrSchema)
open BinaryData.types (uint8 uint16be uint32be uint24be)

/-! ## Parts of messages -/

/-- `types.buffer(type)` for a number of `size` bytes. -/
def bufferOf (size : ℕ) : TypeOrSchema := .buffer (.number size)

/-- `types.array(type, length, "bytes")` for a number of `size` bytes. -/
def arrayOf (type : TypeOrSchema) (size : ℕ) : TypeOrSchema := .array type (.number size) .bytes

namespace ProtocolVersion

def schema : TypeOrSchema := .schema [("major", uint8), ("minor", uint8)]

def toValue (v : Version) : Value := .object [("major", .number v.1), ("minor", .number v.2)]

def ofValue : Value → Option Version
  | .object [(_, .number major), (_, .number minor)] => some (major.toNat, minor.toNat)
  | _ => none

end ProtocolVersion

namespace DtlsRandom

def schema : TypeOrSchema :=
  .schema [("gmt_unix_time", uint32be), ("random_bytes", .buffer (.fixed 28))]

def toValue (r : DtlsRandom) : Value :=
  .object [("gmt_unix_time", .number r.gmt_unix_time), ("random_bytes", .buffer r.random_bytes)]

def ofValue : Value → Option DtlsRandom
  | .object [(_, .number time), (_, .buffer random)] => some ⟨time.toNat, random⟩
  | _ => none

end DtlsRandom

namespace Extension

def schema : TypeOrSchema := .schema [("type", uint16be), ("data", bufferOf 2)]

def toValue (e : Extension) : Value := .object [("type", .number e.type), ("data", .buffer e.data)]

def ofValue : Value → Option Extension
  | .object [(_, .number type), (_, .buffer data)] => some ⟨type.toNat, data⟩
  | _ => none

end Extension

namespace SignatureHash

/-- `SignatureHashAlgorithm`. -/
def schema : TypeOrSchema := .schema [("hash", uint8), ("signature", uint8)]

def toValue (s : SignatureHash) : Value :=
  .object [("hash", .number s.hash), ("signature", .number s.signature)]

def ofValue : Value → Option SignatureHash
  | .object [(_, .number hash), (_, .number signature)] => some ⟨hash.toNat, signature.toNat⟩
  | _ => none

end SignatureHash

/-- The elements of an array. -/
def itemsOf {α : Type} (ofValue : Value → Option α) : Value → Option (List α)
  | .array items => items.mapM ofValue
  | _ => none

def numberOf : Value → Option ℕ
  | .number n => some n.toNat
  | _ => none

def bytesOf : Value → Option Bytes
  | .buffer bytes => some bytes
  | _ => none

/-- The string of a name. -/
def nameValue (name : Bytes) : Value := .string (String.ofList (name.map fun b => Char.ofNat b.toNat))

/-- The octets of a string. -/
def nameOf : Value → Option Bytes
  | .string s => some (s.toList.map fun c => UInt8.ofNat c.toNat)
  | _ => none

/-! ## Messages -/

/-- `decode(buf, schema)` for a message. -/
def readMessage {α : Type} (schema : TypeOrSchema) (ofValue : Value → Option α) (buf : Bytes) : Option α :=
  match BinaryData.decode (buf.length + 1) buf schema with
  | .ok (value, _) => ofValue value
  | .error _ => none

namespace ClientHello

def schema : TypeOrSchema := .schema [("clientVersion", ProtocolVersion.schema),
  ("random", DtlsRandom.schema), ("sessionId", bufferOf 1), ("cookie", bufferOf 1),
  ("cipherSuites", arrayOf uint16be 2), ("compressionMethods", arrayOf uint8 1),
  ("extensions", arrayOf Extension.schema 2)]

def toValue (m : ClientHello) : Value := .object [
  ("clientVersion", ProtocolVersion.toValue m.clientVersion), ("random", m.random.toValue),
  ("sessionId", .buffer m.sessionId), ("cookie", .buffer m.cookie),
  ("cipherSuites", .array (m.cipherSuites.map fun n : ℕ => .number n)),
  ("compressionMethods", .array (m.compressionMethods.map fun n : ℕ => .number n)),
  ("extensions", .array (m.extensions.map Extension.toValue))]

def ofValue : Value → Option ClientHello
  | .object [(_, v), (_, r), (_, s), (_, c), (_, u), (_, m), (_, e)] => do
    return ⟨← ProtocolVersion.ofValue v, ← DtlsRandom.ofValue r, ← bytesOf s, ← bytesOf c,
      ← itemsOf numberOf u, ← itemsOf numberOf m, ← itemsOf Extension.ofValue e⟩
  | _ => none

end ClientHello

namespace ServerHelloVerifyRequest

def schema : TypeOrSchema :=
  .schema [("serverVersion", ProtocolVersion.schema), ("cookie", bufferOf 1)]

def toValue (m : ServerHelloVerifyRequest) : Value :=
  .object [("serverVersion", ProtocolVersion.toValue m.serverVersion), ("cookie", .buffer m.cookie)]

def ofValue : Value → Option ServerHelloVerifyRequest
  | .object [(_, v), (_, c)] => do return ⟨← ProtocolVersion.ofValue v, ← bytesOf c⟩
  | _ => none

end ServerHelloVerifyRequest

namespace ServerHello

/-- The fields in front of the extensions. -/
def fields : List (String × TypeOrSchema) := [("serverVersion", ProtocolVersion.schema),
  ("random", DtlsRandom.schema), ("sessionId", bufferOf 1), ("cipherSuite", uint16be),
  ("compressionMethod", uint8)]

/-- `ServerHello.spec`. -/
def schema : TypeOrSchema := .schema fields

/-- `{ ...ServerHello.spec, extensions: ExtensionList }`. -/
def schemaWithExtensions : TypeOrSchema :=
  .schema (fields ++ [("extensions", arrayOf Extension.schema 2)])

def toValue (m : ServerHello) : Value := .object ([
  ("serverVersion", ProtocolVersion.toValue m.serverVersion), ("random", m.random.toValue),
  ("sessionId", .buffer m.sessionId), ("cipherSuite", .number m.cipherSuite),
  ("compressionMethod", .number m.compressionMethod)] ++
  match m.extensions with
  | some extensions => [("extensions", .array (extensions.map Extension.toValue))]
  | none => [])

def ofValue : Value → Option ServerHello
  | .object [(_, v), (_, r), (_, s), (_, .number u), (_, .number c)] => do
    return ⟨← ProtocolVersion.ofValue v, ← DtlsRandom.ofValue r, ← bytesOf s, u.toNat, c.toNat, none⟩
  | .object [(_, v), (_, r), (_, s), (_, .number u), (_, .number c), (_, e)] => do
    return ⟨← ProtocolVersion.ofValue v, ← DtlsRandom.ofValue r, ← bytesOf s, u.toNat, c.toNat,
      ← itemsOf Extension.ofValue e⟩
  | _ => none

/-- `serialize()`. -/
def encode (m : ServerHello) : Except BinaryError Bytes :=
  match m.extensions with
  | none => BinaryData.encode m.toValue schema
  | some _ => BinaryData.encode m.toValue schemaWithExtensions

/-- `ServerHello.deSerialize(buf)`. -/
def decode (buf : Bytes) : Option ServerHello := do
  let cls ← readMessage schema ofValue buf
  let expect ← cls.encode.toOption
  if expect.length < buf.length then readMessage schemaWithExtensions ofValue buf else return cls

end ServerHello

namespace Certificate

def schema : TypeOrSchema := .schema [("certificateList", arrayOf (bufferOf 3) 3)]

def toValue (m : Certificate) : Value :=
  .object [("certificateList", .array (m.certificateList.map Value.buffer))]

def ofValue : Value → Option Certificate
  | .object [(_, l)] => do return ⟨← itemsOf bytesOf l⟩
  | _ => none

end Certificate

/-- `ctx.current[key]` for a field that is a length. -/
def currentLength (key : String) : BinaryData.LengthCallback := fun context =>
  (context.current.map (·.get key)).bind numberOf

namespace ServerKeyExchange

def schema : TypeOrSchema := .schema [("ellipticCurveType", uint8), ("namedCurve", uint16be),
  ("publicKeyLength", uint8), ("publicKey", .buffer (.callback (currentLength "publicKeyLength"))),
  ("hashAlgorithm", uint8), ("signatureAlgorithm", uint8), ("signatureLength", uint16be),
  ("signature", .buffer (.callback (currentLength "signatureLength")))]

def toValue (m : ServerKeyExchange) : Value := .object [
  ("ellipticCurveType", .number m.ellipticCurveType), ("namedCurve", .number m.namedCurve),
  ("publicKeyLength", .number m.publicKey.length), ("publicKey", .buffer m.publicKey),
  ("hashAlgorithm", .number m.hashAlgorithm), ("signatureAlgorithm", .number m.signatureAlgorithm),
  ("signatureLength", .number m.signature.length), ("signature", .buffer m.signature)]

def ofValue : Value → Option ServerKeyExchange
  | .object [(_, .number t), (_, .number c), _, (_, .buffer p), (_, .number h), (_, .number a), _,
      (_, .buffer s)] => some ⟨t.toNat, c.toNat, p, h.toNat, a.toNat, s⟩
  | _ => none

end ServerKeyExchange

namespace ServerCertificateRequest

/-- `DistinguishedName`. -/
def distinguishedName : TypeOrSchema := .string (.number 2) .ascii

def schema : TypeOrSchema := .schema [("certificateTypes", arrayOf uint8 1),
  ("signatures", arrayOf SignatureHash.schema 2), ("authorities", arrayOf distinguishedName 2)]

def toValue (m : ServerCertificateRequest) : Value := .object [
  ("certificateTypes", .array (m.certificateTypes.map fun n : ℕ => .number n)),
  ("signatures", .array (m.signatures.map SignatureHash.toValue)),
  ("authorities", .array (m.authorities.map nameValue))]

def ofValue : Value → Option ServerCertificateRequest
  | .object [(_, t), (_, s), (_, a)] => do
    return ⟨← itemsOf numberOf t, ← itemsOf SignatureHash.ofValue s, ← itemsOf nameOf a⟩
  | _ => none

end ServerCertificateRequest

namespace CertificateVerify

def schema : TypeOrSchema := .schema [("algorithm", uint16be), ("signature", bufferOf 2)]

def toValue (m : CertificateVerify) : Value :=
  .object [("algorithm", .number m.algorithm), ("signature", .buffer m.signature)]

def ofValue : Value → Option CertificateVerify
  | .object [(_, .number a), (_, .buffer s)] => some ⟨a.toNat, s⟩
  | _ => none

end CertificateVerify

namespace ClientKeyExchange

def schema : TypeOrSchema := .schema [("publicKey", bufferOf 1)]

def toValue (m : ClientKeyExchange) : Value := .object [("publicKey", .buffer m.publicKey)]

def ofValue : Value → Option ClientKeyExchange
  | .object [(_, .buffer p)] => some ⟨p⟩
  | _ => none

end ClientKeyExchange

namespace Handshake

/-- `serialize()` of a message. -/
def encode : Handshake → Except BinaryError Bytes
  | clientHello m => BinaryData.encode m.toValue ClientHello.schema
  | serverHelloVerifyRequest m => BinaryData.encode m.toValue ServerHelloVerifyRequest.schema
  | serverHello m => m.encode
  | certificate m => BinaryData.encode m.toValue Certificate.schema
  | serverKeyExchange m => BinaryData.encode m.toValue ServerKeyExchange.schema
  | serverCertificateRequest m => BinaryData.encode m.toValue ServerCertificateRequest.schema
  | serverHelloDone => BinaryData.encode (.object []) (.schema [])
  | certificateVerify m => BinaryData.encode m.toValue CertificateVerify.schema
  | clientKeyExchange m => BinaryData.encode m.toValue ClientKeyExchange.schema
  | finished verifyData => .ok verifyData

/-- `deSerialize(buf)` of the message type. -/
def decode (msgType : ℕ) (buf : Bytes) : Option Handshake :=
  match msgType with
  | HandshakeType.client_hello_1 =>
    (readMessage ClientHello.schema ClientHello.ofValue buf).map clientHello
  | HandshakeType.hello_verify_request_3 =>
    (readMessage ServerHelloVerifyRequest.schema ServerHelloVerifyRequest.ofValue buf).map
      serverHelloVerifyRequest
  | HandshakeType.server_hello_2 => (ServerHello.decode buf).map serverHello
  | HandshakeType.certificate_11 =>
    (readMessage Certificate.schema Certificate.ofValue buf).map certificate
  | HandshakeType.server_key_exchange_12 =>
    (readMessage ServerKeyExchange.schema ServerKeyExchange.ofValue buf).map serverKeyExchange
  | HandshakeType.certificate_request_13 =>
    (readMessage ServerCertificateRequest.schema ServerCertificateRequest.ofValue buf).map
      serverCertificateRequest
  | HandshakeType.server_hello_done_14 =>
    (readMessage (.schema []) (fun _ => some ()) buf).map fun _ => serverHelloDone
  | HandshakeType.certificate_verify_15 =>
    (readMessage CertificateVerify.schema CertificateVerify.ofValue buf).map certificateVerify
  | HandshakeType.client_key_exchange_16 =>
    (readMessage ClientKeyExchange.schema ClientKeyExchange.ofValue buf).map clientKeyExchange
  | HandshakeType.finished_20 => some (finished buf)
  | _ => none

end Handshake

end Werift.Dtls
