import Werift.Lib.Schema

/-!
# Handshake messages (`dtls/src/handshake`)

The messages of the handshake and their parts.  A `Handshake` is a message that an endpoint sends.
Strings of bytes are lists, and a length that the source keeps beside its buffer is the length of that
buffer.
-/

namespace Werift.Dtls

open Schema

abbrev Bytes := List UInt8

namespace HandshakeType

@[match_pattern] abbrev client_hello_1 : ℕ := 1
@[match_pattern] abbrev server_hello_2 : ℕ := 2
@[match_pattern] abbrev hello_verify_request_3 : ℕ := 3
@[match_pattern] abbrev certificate_11 : ℕ := 11
@[match_pattern] abbrev server_key_exchange_12 : ℕ := 12
@[match_pattern] abbrev certificate_request_13 : ℕ := 13
@[match_pattern] abbrev server_hello_done_14 : ℕ := 14
@[match_pattern] abbrev certificate_verify_15 : ℕ := 15
@[match_pattern] abbrev client_key_exchange_16 : ℕ := 16
@[match_pattern] abbrev finished_20 : ℕ := 20

end HandshakeType

/-! ## Parts of messages -/

/-- A protocol version, major and minor. -/
abbrev Version := ℕ × ℕ

def ProtocolVersion : Schema Version := (uintBE 1).prod (uintBE 1)

/-- The fields of a `DtlsRandom`. -/
structure DtlsRandom where
  gmt_unix_time : ℕ
  random_bytes : Bytes
deriving DecidableEq

/-- An extension of a hello. -/
structure Extension where
  type : ℕ
  data : Bytes
deriving DecidableEq

/-- A pair of a hash and a signature algorithm. -/
structure SignatureHash where
  hash : ℕ
  signature : ℕ
deriving DecidableEq

/-! ## Messages -/

structure ClientHello where
  clientVersion : Version
  random : DtlsRandom
  sessionId : Bytes
  cookie : Bytes
  cipherSuites : List ℕ
  compressionMethods : List ℕ
  extensions : List Extension
deriving DecidableEq

structure ServerHelloVerifyRequest where
  serverVersion : Version
  cookie : Bytes
deriving DecidableEq

/-- A server hello; `extensions` may be undefined. -/
structure ServerHello where
  serverVersion : Version
  random : DtlsRandom
  sessionId : Bytes
  cipherSuite : ℕ
  compressionMethod : ℕ
  extensions : Option (List Extension)
deriving DecidableEq

structure Certificate where
  certificateList : List Bytes
deriving DecidableEq

structure ServerKeyExchange where
  ellipticCurveType : ℕ
  namedCurve : ℕ
  publicKey : Bytes
  hashAlgorithm : ℕ
  signatureAlgorithm : ℕ
  signature : Bytes
deriving DecidableEq

structure ServerCertificateRequest where
  certificateTypes : List ℕ
  signatures : List SignatureHash
  authorities : List Bytes
deriving DecidableEq

structure CertificateVerify where
  algorithm : ℕ
  signature : Bytes
deriving DecidableEq

structure ClientKeyExchange where
  publicKey : Bytes
deriving DecidableEq

/-- A message that an endpoint sends. -/
inductive Handshake
  | clientHello (m : ClientHello)
  | serverHelloVerifyRequest (m : ServerHelloVerifyRequest)
  | serverHello (m : ServerHello)
  | certificate (m : Certificate)
  | serverKeyExchange (m : ServerKeyExchange)
  | serverCertificateRequest (m : ServerCertificateRequest)
  | serverHelloDone
  | certificateVerify (m : CertificateVerify)
  | clientKeyExchange (m : ClientKeyExchange)
  | finished (verifyData : Bytes)
deriving DecidableEq

namespace Handshake

/-- `handshake.msgType`. -/
def msgType : Handshake → ℕ
  | clientHello _ => HandshakeType.client_hello_1
  | serverHelloVerifyRequest _ => HandshakeType.hello_verify_request_3
  | serverHello _ => HandshakeType.server_hello_2
  | certificate _ => HandshakeType.certificate_11
  | serverKeyExchange _ => HandshakeType.server_key_exchange_12
  | serverCertificateRequest _ => HandshakeType.certificate_request_13
  | serverHelloDone => HandshakeType.server_hello_done_14
  | certificateVerify _ => HandshakeType.certificate_verify_15
  | clientKeyExchange _ => HandshakeType.client_key_exchange_16
  | finished _ => HandshakeType.finished_20

end Handshake

end Werift.Dtls
