import Werift.Dtls.Fragment
import Werift.Js.Buffer

/-!
# Records (`dtls/src/record`)

A datagram is a sequence of records.  `parsePacket` splits it: it throws where a record is cut off,
and stops silently where more than the last byte of a fragment is missing.
-/

namespace Werift.Dtls

open Schema

namespace ContentType

@[match_pattern] abbrev changeCipherSpec : ℕ := 20
@[match_pattern] abbrev alert : ℕ := 21
@[match_pattern] abbrev handshake : ℕ := 22
@[match_pattern] abbrev applicationData : ℕ := 23

end ContentType

/-- A record with the fields of its header; `contentLen` is the length of the fragment. -/
structure DtlsPlaintext where
  contentType : ℕ
  protocolVersion : Version
  epoch : ℕ
  sequenceNumber : ℕ
  fragment : Bytes
deriving DecidableEq

namespace DtlsPlaintext

def spec : Schema DtlsPlaintext :=
  ((uintBE 1).prod <| ProtocolVersion.prod <| (uintBE 2).prod <| (uintBE 6).prod (prefixed 2)).map
    (fun (t, v, e, s, f) => ⟨t, v, e, s, f⟩)
    fun p => (p.contentType, p.protocolVersion, p.epoch, p.sequenceNumber, p.fragment)

/-- `plaintext.serialize()`. -/
def serialize (p : DtlsPlaintext) : Option Bytes := spec.encode p

/-- `DtlsPlaintext.deSerialize(buf)`. -/
def deSerialize (buf : Bytes) : Option DtlsPlaintext := spec.read buf

end DtlsPlaintext

/-- The loop of `parsePacket` over the rest of the datagram.  Every turn takes at least 13 bytes, so
that the length of the datagram bounds the number of turns. -/
def parseRecords : ℕ → Bytes → Option (List DtlsPlaintext)
  | 0, _ => some []
  | turns + 1, data =>
    if data.isEmpty then some []
    else do
      let fragmentLength ← Js.readUInt16BE data 11
      if data.length < 12 + fragmentLength then return []
      let packet ← DtlsPlaintext.deSerialize data
      let packets ← parseRecords turns (data.drop (13 + fragmentLength.toNat))
      return packet :: packets

/-- `parsePacket(data)`. -/
def parsePacket (data : Bytes) : Option (List DtlsPlaintext) := parseRecords data.length data

end Werift.Dtls
