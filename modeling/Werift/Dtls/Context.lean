import Werift.Dtls.Cipher

/-!
# The contexts of a session (`dtls/src/context`)

`DtlsContext` is the state of the handshake and `CipherContext` holds the randoms and the keys.  The
handshake cache keeps for every flight the messages that were sent or received in it.
-/

namespace Werift.Dtls

/-- A certificate with its private key, and the algorithms of its signatures. -/
structure Identity where
  cert : Bytes
  key : Bytes
  signatureHash : SignatureHash

/-- `Options`.  `srtpProfiles` may be undefined, which is the same as empty. -/
structure Options where
  srtpProfiles : List ℕ := []
  identity : Option Identity := none
  certificateRequest : Bool := false
  extendedMasterSecret : Bool := false

/-- The numbers of the flights: `1` to `6`. -/
abbrev HandshakeCache := ℕ → List FragmentedHandshake

/-- The fields of `DtlsContext`. -/
structure DtlsContext where
  version : Version := (254, 253)
  lastFlight : List Handshake := []
  lastMessage : List Bytes := []
  recordSequenceNumber : ℕ := 0
  sequenceNumber : ℕ := 0
  epoch : ℕ := 0
  flight : ℕ := 0
  handshakeCache : HandshakeCache := fun _ => []
  cookie : Option Bytes := none
  requestedCertificateTypes : List ℕ := []
  requestedSignatureAlgorithms : List SignatureHash := []
  remoteExtendedMasterSecret : Bool := false

/-- A key pair of `generateKeyPair`. -/
structure NamedCurveKeyPair where
  curve : ℕ
  publicKey : Bytes
  privateKey : Bytes
deriving DecidableEq

/-- The public key of the peer. -/
structure RemoteKey where
  curve : ℕ
  publicKey : Bytes
deriving DecidableEq

/-- The fields of `CipherContext`. -/
structure CipherContext where
  localRandom : Option DtlsRandom := none
  remoteRandom : Option DtlsRandom := none
  cipherSuite : Option ℕ := none
  remoteCertificate : Option Bytes := none
  remoteKeyPair : Option RemoteKey := none
  localKeyPair : Option NamedCurveKeyPair := none
  masterSecret : Option Bytes := none
  cipher : Option AEADCipher := none
  namedCurve : Option ℕ := none
  signatureHashAlgorithm : Option SignatureHash := none
  localCert : Option Bytes := none
  localPrivateKey : Option Bytes := none
deriving DecidableEq

namespace CipherContext

variable (P : Primitives)

/-- The header of a record as the cipher sees it. -/
def header (pkt : DtlsPlaintext) : CipherHeader where
  type := pkt.contentType
  version := pkt.protocolVersion.1 <<< 8 ||| pkt.protocolVersion.2
  epoch := pkt.epoch
  sequenceNumber := pkt.sequenceNumber

/-- `decryptPacket(pkt)`. -/
def decryptPacket (c : CipherContext) (sessionType : SessionType) (pkt : DtlsPlaintext) :
    Option Bytes := do
  let cipher ← c.cipher
  cipher.decrypt P sessionType pkt.fragment (header pkt)

end CipherContext

end Werift.Dtls
