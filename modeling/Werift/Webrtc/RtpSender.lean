import Werift.Js.IndexObject
import Werift.Rtp.Red
import Werift.Rtp.Sending

/-!
# The RTP sender (`webrtc/src/media/rtpSender.ts`)

`sendRtpInternal` numbers a packet, wraps it and hands it to the transport, and `handleRtcpPacket` sends
packets again that the other side asks for.  The negotiated parameters do not change.  Pacing decides when
a packet goes out only, and a packet that does not go out (the sender has been stopped, its source has been
replaced) changes nothing; so a packet is sent in one step here, and the answer to a NACK waits in
`pending` until it goes out.  The bandwidth estimation and the statistics are left out.
-/

namespace Werift.Webrtc

open Rtp (Bytes RtpHeader RtpPacket RedPayload RtpContinuity TransportWideSequence
  NegotiatedHeaderExtension SendStreamIds isPaddingOnlyRtpPacket)

/-- `RTP_HISTORY_SIZE`. -/
def RTP_HISTORY_SIZE : ℕ := 128

/-- What has been negotiated for a sender.  The codecs are their payload types. -/
structure SendParams where
  ssrc : ℕ
  rtxSsrc : ℕ
  codec : Option ℕ
  /-- The codec of the media: the one that RED carries, else `codec`. -/
  sendPrimaryCodec : Option ℕ
  rtxPayloadType : Option ℕ := none
  redRedundantPayloadType : Option ℕ := none
  redDistance : ℕ := 2
  ids : SendStreamIds := {}
  headerExtensions : List NegotiatedHeaderExtension := []

/-- What `sendRtpInternal` is called for (`isProbePadding`, `isRetransmission`). -/
inductive SendKind
  | media
  | probePadding
  | retransmission
deriving DecidableEq

/-- A media packet that has been sent. -/
structure SentMedia where
  /-- The object, whose header later calls may change. -/
  packet : RtpPacket
  /-- What went out. -/
  wire : RtpPacket
deriving DecidableEq

/-- A packet that has been asked for: the one with the index `index` of those that have been sent. -/
structure Retransmission where
  seqNum : ℕ
  index : ℕ
  /-- The wrapped packet; without RTX the object itself is sent again. -/
  rtx : Option RtpPacket
deriving DecidableEq

/-- A packet that has been sent again. -/
structure Resent where
  seqNum : ℕ
  index : ℕ
  wire : RtpPacket
deriving DecidableEq

/-- The fields of an `RTCRtpSender` that change, and what it has sent. -/
structure RTCRtpSender where
  rtxSequenceNumber : ℕ := 0
  /-- The cache of `redEncoder`. -/
  redCache : List RedPayload := []
  continuity : RtpContinuity := {}
  /-- The indices of the media packets. -/
  rtpCache : Js.IndexObject ℕ := .empty
  transport : TransportWideSequence := {}
  /-- The media packets that have been sent. -/
  media : List SentMedia := []
  /-- How many of them had been sent when `rtpCache` was emptied. -/
  cleared : ℕ := 0
  pending : List Retransmission := []
  /-- The packets that have been sent again. -/
  resent : List Resent := []

namespace SendParams

variable (params : SendParams)

/-- `useRed` for a media packet. -/
def useRed : Bool := params.redRedundantPayloadType.getD 0 != 0

/-- What the receiver takes the RTX header off a packet with: the codec that RTX is for. -/
def restore (packet : RtpPacket) : Except String RtpPacket :=
  match params.rtxPayloadType with
  | some rtxPayloadType =>
    Rtp.unwrapRtx packet (params.sendPrimaryCodec.getD rtxPayloadType) params.ssrc
  | none => .ok packet

end SendParams

namespace RTCRtpSender

variable (params : SendParams) (s : RTCRtpSender)

/-- The header of a packet before it waits for its turn. -/
def prepareHeader (kind : SendKind) (codec : ℕ) (header : RtpHeader) : RtpHeader :=
  let header := match kind with
    | .probePadding =>
      { header with ssrc := params.rtxSsrc, payloadType := params.rtxPayloadType.getD 0 }
    | .media =>
      { header with ssrc := params.ssrc, payloadType := codec,
                    timestamp := s.continuity.mapTimestamp header.timestamp }
    | .retransmission => header
  { header with extensions :=
      Rtp.buildSendHeaderExtensions header.extensions params.headerExtensions params.ids }

/-- The numbers of a packet whose turn it is. -/
def assignNumbers (kind : SendKind) (inputSequenceNumber inputTimestamp : ℕ) (header : RtpHeader) :
    RTCRtpSender × RtpHeader :=
  match kind with
  | .probePadding =>
    ({ s with rtxSequenceNumber := (uint16Add s.rtxSequenceNumber 1).toNat },
      { header with sequenceNumber := s.rtxSequenceNumber
                    timestamp := s.continuity.timestamp.getD header.timestamp })
  | .media =>
    let (continuity, header) := s.continuity.assign header inputSequenceNumber inputTimestamp
    ({ s with continuity }, header)
  | .retransmission => (s, header)

/-- The payload on the wire, without its padding. -/
def encodePayload (kind : SendKind) (header : RtpHeader) (payload : Bytes) : RTCRtpSender × Bytes :=
  if params.useRed ∧ kind = .media then
    let redCache := Rtp.RedEncoder.push s.redCache
      { block := payload, timestamp := header.timestamp,
        blockPT := params.redRedundantPayloadType.getD 0 }
    ({ s with redCache }, Rtp.Red.serialize (Rtp.RedEncoder.build params.redDistance redCache))
  else (s, payload)

/-- The padding behind the payload. -/
def padPayload (header : RtpHeader) (payload : Bytes) : Except String Bytes :=
  if header.padding ∧ header.paddingSize > 0 then
    Rtp.appendRfc3550Padding payload header.paddingSize
  else .ok payload

/-- `rtpCache[header.sequenceNumber % RTP_HISTORY_SIZE] = rtp` for a media packet. -/
def remember (kind : SendKind) (packet wire : RtpPacket) : RTCRtpSender :=
  if kind = .media ∧ isPaddingOnlyRtpPacket packet = false then
    { s with
      media := s.media ++ [⟨packet, wire⟩]
      rtpCache := s.rtpCache.set (packet.header.sequenceNumber % RTP_HISTORY_SIZE : ℕ) s.media.length }
  else s

/-- `sendRtpInternal(rtp, opts)`: what goes out, if anything does. -/
def sendRtpInternal (kind : SendKind) (rtp : RtpPacket) (ntpTime : ℕ) :
    RTCRtpSender × Option RtpPacket :=
  match params.codec with
  | none => (s, none)
  | some codec =>
    if kind = .probePadding ∧ params.rtxPayloadType = none then (s, none)
    else
      let (s, header) := s.assignNumbers kind rtp.header.sequenceNumber rtp.header.timestamp
        (s.prepareHeader params kind codec rtp.header)
      let (s, rtpPayload) := s.encodePayload params kind header rtp.payload
      match padPayload header rtpPayload with
      | .error _ => (s, none)
      | .ok rtpPayload =>
        let (transport, extensions) :=
          Rtp.stampHopByHopExtensions params.headerExtensions ntpTime s.transport header.extensions
        let header := { header with extensions }
        let wire : RtpPacket := ⟨header, rtpPayload⟩
        ({ s with transport }.remember kind ⟨header, rtp.payload⟩ wire, some wire)

/-- `scheduleRtpContinuity(timestampStep)`. -/
def scheduleRtpContinuity (timestampStep : ℤ) : RTCRtpSender :=
  { s with continuity := s.continuity.schedule timestampStep
           rtpCache := .empty
           cleared := s.media.length }

/-- The packet with the index `index` is put in the queue, wrapped if RTX is in use. -/
def queue (seqNum index : ℕ) (packet : RtpPacket) : RTCRtpSender :=
  match params.rtxPayloadType with
  | none => { s with pending := s.pending ++ [⟨seqNum, index, none⟩] }
  | some rtxPayloadType =>
    match Rtp.wrapRtx packet rtxPayloadType s.rtxSequenceNumber params.rtxSsrc with
    | none => s
    | some rtx =>
      { s with pending := s.pending ++ [⟨seqNum, index, some rtx⟩]
               rtxSequenceNumber := (uint16Add s.rtxSequenceNumber 1).toNat }

/-- `handleRtcpPacket` with a NACK for `seqNum`. -/
def handleNack (seqNum : ℕ) : RTCRtpSender :=
  match s.rtpCache.get? (seqNum % RTP_HISTORY_SIZE : ℕ) with
  | none => s
  | some index =>
    match s.media[index]? with
    | none => s
    | some ⟨packet, _⟩ =>
      if packet.header.sequenceNumber ≠ seqNum then s
      else if isPaddingOnlyRtpPacket packet then s
      else s.queue params seqNum index packet

/-- The header of a media packet after it has been sent again. -/
def setHeader (index : ℕ) (header : RtpHeader) : RTCRtpSender :=
  { s with media := s.media.modify index fun m => { m with packet := ⟨header, m.packet.payload⟩ } }

/-- The packet `r` of the queue is sent again. -/
def resend (r : Retransmission) (ntpTime : ℕ) : RTCRtpSender :=
  match r.rtx with
  | some rtx =>
    match s.sendRtpInternal params .retransmission rtx ntpTime with
    | (s, none) => s
    | (s, some wire) => { s with resent := s.resent ++ [⟨r.seqNum, r.index, wire⟩] }
  | none =>
    match s.media[r.index]? with
    | none => s
    | some ⟨packet, _⟩ =>
      match s.sendRtpInternal params .retransmission packet ntpTime with
      | (s, none) => s
      | (s, some wire) =>
        { s.setHeader r.index wire.header with resent := s.resent ++ [⟨r.seqNum, r.index, wire⟩] }

/-- What can happen to a sender. -/
inductive Event
  | sendRtp (rtp : RtpPacket) (ntpTime : ℕ)
  /-- A packet of padding on the stream of RTX. -/
  | sendPadding (paddingSize ntpTime : ℕ)
  | replaceRTP (timestampStep : ℤ)
  | detachTrack
  | nack (seqNum : ℕ)
  /-- A packet of the queue goes out. -/
  | resend (k ntpTime : ℕ)
  /-- Another sender of the transport sends a packet. -/
  | allocate

/-- One event. -/
def step : Event → Option RTCRtpSender
  | .sendRtp rtp ntpTime => some (s.sendRtpInternal params .media rtp ntpTime).1
  | .sendPadding paddingSize ntpTime =>
    let rtp := Rtp.createRtxPaddingPacket paddingSize (s.continuity.timestamp.getD 0)
      (params.rtxPayloadType.getD 0) params.rtxSsrc
    some (s.sendRtpInternal params .probePadding rtp ntpTime).1
  | .replaceRTP timestampStep => some (s.scheduleRtpContinuity timestampStep)
  | .detachTrack => some { s with continuity := s.continuity.cancel }
  | .nack seqNum => some (s.handleNack params seqNum)
  | .resend k ntpTime =>
    s.pending[k]?.map fun r => { s with pending := s.pending.eraseIdx k }.resend params r ntpTime
  | .allocate => some { s with transport := s.transport.allocate }

end RTCRtpSender

end Werift.Webrtc
