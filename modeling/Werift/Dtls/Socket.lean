import Werift.Dtls.Context

/-!
# The socket and its flights (`dtls/src/socket.ts`, `dtls/src/flight/flight.ts`)

The fields of a `Socket`.  A method that awaits something which is not there yet ends with an `Await`;
the call of `handleHandshakes` is then a `Task` of the socket.
-/

namespace Werift.Dtls

/-- What a call of `handleHandshakes` waits for: the end of a flight's retransmissions, the flight
object that takes a message, or the messages that `checkHandshakesExist` asks for. -/
inductive Await
  | transmitted (nextFlight : ℕ)
  | flight5 (handshake : FragmentedHandshake)
  | serverMessages
  | flight6 (handshake : FragmentedHandshake)
  | clientMessages
deriving DecidableEq

/-- A suspended call of `handleHandshakes`, with the messages that it has still to handle. -/
structure Task where
  await : Await
  rest : List FragmentedHandshake
deriving DecidableEq

/-- The contexts of the flight object of a server: the ones of the socket, or, after a renegotiation,
former ones, whose handshake is over and of which only the last flight is used. -/
inductive Flight6
  | current
  | former (lastMessage : List Bytes)
deriving DecidableEq

/-- An encrypted record: the key and the salt, the number of the record, and what was encrypted. -/
structure EncryptedRecord where
  key : Bytes × Bytes
  epoch : ℕ
  sequenceNumber : ℕ
  contentType : ℕ
  plaintext : Bytes
deriving DecidableEq

/-- The contexts at the moment at which `onConnect` fires. -/
structure Connection where
  dtls : DtlsContext
  cipher : CipherContext
  opened : List FragmentedHandshake
  keyExchange : Option ServerKeyExchange
  certificateVerify : Option (CertificateVerify × Option Bytes)

inductive SocketEvent
  | connect
  | data (buf : Bytes)
  | error
  | close
deriving DecidableEq

/-- A `DtlsClient` or `DtlsServer`.  The last fields record what happens and are never read:
`encrypted` the records that have been encrypted, `opened` the handshake fragments that came in
records which decrypted under the present keys, `keyExchange` and `certificateVerify` the signed
messages that were handled last, and `connections` the contexts at every `onConnect`. -/
structure Socket where
  sessionType : SessionType
  options : Options
  dtls : DtlsContext := {}
  cipher : CipherContext
  srtpProfile : Option ℕ := none
  connected : Bool := false
  extensions : List Extension := []
  bufferFragmentedHandshakes : List FragmentedHandshake := []
  flight5 : Bool := false
  flight6 : Option Flight6 := none
  tasks : List Task := []
  draws : ℕ := 0
  sent : List Bytes := []
  fired : List SocketEvent := []
  encrypted : List EncryptedRecord := []
  opened : List FragmentedHandshake := []
  keyExchange : Option ServerKeyExchange := none
  certificateVerify : Option (CertificateVerify × Option Bytes) := none
  connections : List Connection := []

end Werift.Dtls
