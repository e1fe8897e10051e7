import Werift.Dtls.Record

/-!
# Keys and record protection (`dtls/src/cipher`)

The primitives of `node:crypto` are a parameter; what is computed with them to protect a record is not.
`AEADCipher.encrypt` puts the epoch and the sequence number of the record behind the salt of the
session: the pair is the part of the nonce that has to be different for every record under a key.
-/

namespace Werift.Dtls

open Schema

inductive HashAlgorithm
  | sha256
  | sha384
deriving DecidableEq

/-- The functions of `node:crypto` that are used.  `createSign` takes a number that stands for the
randomness of a signature, and `createDecipheriv` fails if the tag is wrong. -/
structure Primitives where
  createHmac : HashAlgorithm → (secret data : Bytes) → Bytes
  createHash : Bytes → Bytes
  computeSecret : (curve : ℕ) → (publicKey privateKey : Bytes) → Option Bytes
  createSign : (privateKey : Bytes) → (randomness : ℕ) → (data : Bytes) → Bytes
  createCipheriv : (key iv additional data : Bytes) → Bytes
  createDecipheriv : (key iv additional encrypted authTag : Bytes) → Option Bytes

/-! ## Record protection -/

inductive SessionType
  | client
  | server
deriving DecidableEq

/-- The fields of the header that enter the encryption of a record. -/
structure CipherHeader where
  type : ℕ
  version : ℕ
  epoch : ℕ
  sequenceNumber : ℕ

/-- The keys of a session.  Of a nonce only the implicit part is kept: the explicit part is
overwritten before every use. -/
structure AEADCipher where
  clientWriteKey : Bytes
  serverWriteKey : Bytes
  clientNonce : Bytes
  serverNonce : Bytes
deriving DecidableEq

namespace AEADCipher

/-- The key and the salt with which a session writes. -/
def writeKey (c : AEADCipher) : SessionType → Bytes × Bytes
  | .client => (c.clientWriteKey, c.clientNonce)
  | .server => (c.serverWriteKey, c.serverNonce)

/-- The key and the salt with which a session reads. -/
def readKey (c : AEADCipher) : SessionType → Bytes × Bytes
  | .client => (c.serverWriteKey, c.serverNonce)
  | .server => (c.clientWriteKey, c.clientNonce)

/-- The explicit nonce of a record: its epoch and its sequence number. -/
def explicitNonce (epoch sequenceNumber : ℕ) : Option Bytes :=
  ((uintBE 2).prod (uintBE 6)).encode (epoch, sequenceNumber)

def encodeAdditionalBuffer (header : CipherHeader) (dataLength : ℕ) : Option Bytes :=
  ((uintBE 2).prod <| (uintBE 6).prod <| (uintBE 1).prod <| (uintBE 2).prod (uintBE 2)).encode
    (header.epoch, header.sequenceNumber, header.type, header.version, dataLength)

def encrypt (P : Primitives) (c : AEADCipher) (type : SessionType) (data : Bytes)
    (header : CipherHeader) : Option Bytes := do
  let explicit ← explicitNonce header.epoch header.sequenceNumber
  let additional ← encodeAdditionalBuffer header data.length
  let (key, salt) := c.writeKey type
  return explicit ++ P.createCipheriv key (salt ++ explicit) additional data

/-- `decrypt`.  A tag of less than 16 bytes is refused. -/
def decrypt (P : Primitives) (c : AEADCipher) (type : SessionType) (data : Bytes)
    (header : CipherHeader) : Option Bytes := do
  if data.length < 16 then none
  let encrypted := (data.take (data.length - 16)).drop 8
  let additional ← encodeAdditionalBuffer header encrypted.length
  let (key, salt) := c.readKey type
  P.createDecipheriv key (salt ++ data.take 8) additional encrypted (data.drop (data.length - 16))

end AEADCipher

end Werift.Dtls
