import Werift.Sctp.Received
import Werift.Sctp.Outbound
import Werift.Webrtc.SctpTransport
import Werift.Lib.Blocks
import Werift.Sctp.Sack
import Werift.Sctp.Marking
import Werift.Sctp.FlightSize
import Werift.Sctp.Progress
import Werift.Sctp.ForwardTsn
import Werift.Lib.Segments
import Werift.Sctp.Message
import Werift.Common.Crc
import Werift.Dtls.Cipher
import Werift.Js.Map
import Werift.Js.Text
import Werift.Lib.Contract
import Werift.Lib.MapM
import Werift.Sctp.ReceiveWindow
import Werift.Sctp.SackSchedule
import Werift.Stun.Attributes
import Werift.Stun.Integrity
import Werift.Stun.Layout
import Werift.Stun.RoundTrip
import Werift.Stun.Server
import Werift.Stun.Signing
import Werift.Turn.Authorization
import Werift.Turn.Relaying
import Werift.Ice.RoleConflict
import Werift.Turn.Accounts
import Werift.Turn.Bookkeeping
import Werift.Turn.Answers
import Werift.Turn.Client
import Werift.Turn.Retransmission
import Werift.Turn.StaleNonce
import Werift.Common.Binary
import Werift.Ice.EndOfCandidates
import Werift.Rtp.Header
import Werift.Lib.CounterMode
import Werift.Lib.Except
import Werift.Rtcp.Header
import Werift.Rtp.Parsing
import Werift.Rtp.RoundTrip
import Werift.Srtp.Agreement
import Werift.Srtp.RtcpIndex
import Werift.Srtp.Authentication
import Werift.Codec.Av1
import Werift.Codec.Av1Packing
import Werift.Codec.Av1RoundTrip
import Werift.Codec.Depacketize
import Werift.Codec.Vp8
import Werift.Common.BitStream
import Werift.Js.IndexObject
import Werift.Lib.BoundedHistory
import Werift.Lib.Redundancy
import Werift.Lib.Tiling
import Werift.Rtp.Depacketizer
import Werift.Rtp.FrameIntegrity
import Werift.Rtp.JitterBuffer
import Werift.Rtp.Playout
import Werift.Rtp.Red
import Werift.Rtp.RedRecovery
import Werift.Rtp.Reordering
import Werift.Webrtc.NackHandler
import Werift.Lib.SlotHistory
import Werift.Rtp.Sending
import Werift.Webrtc.MediaHistory
import Werift.Common.BinaryData
import Werift.Common.BinaryRoundTrip
import Werift.Dtls.HandshakeCodec
import Werift.Dtls.HandshakeRoundTrip
import Werift.Lib.Walk
import Werift.Sctp.Fragmentation
import Werift.Sctp.Sendings
import Werift.Webrtc.Reliability
import Werift.Webrtc.TwccFeedback
import Werift.Webrtc.TwccMatching
import Werift.Dtls.AntiReplay
import Werift.Ice.CheckListOrder
import Werift.Lib.Epochs
import Werift.Sctp.Arrivals
import Werift.Sctp.Waiting
import Werift.Webrtc.Router
import Werift.Webrtc.Routing
import Werift.Webrtc.SourceSwitch
import Werift.Dtls.Datagram
import Werift.Dtls.Reassembly
import Werift.Codec.FramePackets
import Werift.Codec.Vp8Descriptor
import Werift.Codec.Vp8Packetizer
import Werift.Common.BufferFields
import Werift.Ice.PQueue
import Werift.Ice.TcpFrame
import Werift.Rtcp.Nack
import Werift.Rtcp.ReceiverInfo
import Werift.Rtcp.Sdes
import Werift.Rtp.RedFields
import Werift.Turn.Streams
import Werift.Webrtc.Jitter
import Werift.Webrtc.NackFeedback
import Werift.Webrtc.ReceptionReport
import Werift.Codec.AacHbr
import Werift.Codec.AacPayload
import Werift.Codec.AccessUnits
import Werift.Lib.SerialQueue
import Werift.Turn.Channels
import Werift.Webrtc.DataChannels
import Werift.Codec.Vp9Descriptor
import Werift.Lib.Path
import Werift.Lib.TokenBucket
import Werift.Webrtc.ChannelIds
import Werift.Webrtc.OutgoingQueue
import Werift.Webrtc.SendPacer
import Werift.Ice.CredentialHistory
import Werift.Lib.Compaction
import Werift.Webrtc.ProbePadding
import Werift.Codec.AnnexB
import Werift.Common.FifoQueue
import Werift.Container.Ebml
import Werift.Container.OggPage
import Werift.Container.OggPager
import Werift.Container.OggParser
import Werift.Container.Webm
import Werift.Js.NumberText
import Werift.Lib.Claiming
import Werift.Lib.FrontOrder
import Werift.Lib.OneTimer
import Werift.Lib.Upsert
import Werift.Rtcp.SenderReport
import Werift.Rtp.MediaClock
import Werift.Rtp.MediaPacer
import Werift.Rtp.SendExtensions
import Werift.Webrtc.BundlePlan
import Werift.Webrtc.CodecCompatibility
import Werift.Webrtc.RemoteCodecs
import Werift.Webrtc.SenderStatistics
import Werift.Ice.Transaction
import Werift.Stun.IpText
import Werift.Turn.Redirect
