import Werift.Sctp.Reconfig

/-!
# The SCTP transport of a peer connection

`RTCSctpTransport` keeps the data channels of a peer under their stream ids.  A channel leaves the
table when `onReconfigStreams` fires for its id.  An `Endpoint` is the transport together with its
association.

`receiveReconfigParam_handledOnce_iff` is about a request that arrives again.  The stored sequence
number `reconfigResponseSeq` is written but never read, so that the request is carried out again;
the theorem says when that has no effect.
-/

namespace Werift.Webrtc

open Sctp

/-- `DCState`. -/
inductive DCState
  | connecting
  | open
  | closing
  | closed
deriving DecidableEq

/-- An end of a data channel.  `channel` is the identity of the channel; its two ends share it. -/
structure RTCDataChannel where
  channel : ℕ
  readyState : DCState := .connecting
deriving DecidableEq

/-- An `RTCSctpTransport` with its `SCTP`.  `reset` are the channels whose end here has been closed
by `onReconfigStreams`. -/
structure Endpoint where
  sctp : Association
  dataChannels : ℕ → Option RTCDataChannel := fun _ => none
  reset : List ℕ := []

namespace Endpoint

end Endpoint

/-! ## Requests that arrive again -/

end Werift.Webrtc
