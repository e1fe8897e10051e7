import Werift.Sctp.InboundStream

/-!
# Re-configuration of streams

An endpoint asks its peer to reset some of its outgoing streams with an outgoing SSN reset request
and repeats the request until the response arrives.  `receiveReconfigParam` handles the three kinds
of parameters.  It awaits the sending of its own parameters, so its sections between two awaits are
definitions of their own: other packets may be handled between them.
-/

namespace Werift.Sctp

def RECONFIG_MAX_STREAMS : ℕ := 135

/-- `reconfigResult.ReconfigResultSuccessPerformed`. -/
def reconfigResultSuccessPerformed : ℕ := 1

structure OutgoingSSNResetRequestParam where
  requestSequence : ℤ
  responseSequence : ℤ
  lastTsn : ℤ
  streams : List ℕ
deriving DecidableEq

structure StreamAddOutgoingParam where
  requestSequence : ℤ
  newStreams : ℕ
deriving DecidableEq

structure ReconfigResponseParam where
  responseSequence : ℤ
  result : ℕ
deriving DecidableEq

inductive StreamParam
  | outgoingSSNResetRequest (p : OutgoingSSNResetRequestParam)
  | streamAddOutgoing (p : StreamAddOutgoingParam)
  | reconfigResponse (p : ReconfigResponseParam)
deriving DecidableEq

/-- The fields of `SCTP` that re-configuration reads and writes, and `wire`, the parameters handed
to the transport that are on their way to the peer. -/
structure Association where
  established : Bool := true
  localTsn : ℤ
  inboundStreams : ℕ → Option InboundStream := fun _ => none
  inboundStreamsCount : ℕ := 0
  outboundStreamSeq : ℕ → Option ℤ := fun _ => none
  reconfigRequestSeq : ℤ
  reconfigResponseSeq : ℤ := 0
  reconfigRequest : Option OutgoingSSNResetRequestParam := none
  reconfigQueue : List ℕ := []
  wire : List StreamParam := []

namespace Association

/-- `sendReconfigParam(param)`. -/
def sendReconfigParam (s : Association) (param : StreamParam) : Association :=
  { s with wire := s.wire ++ [param] }

/-- `transmitReconfigRequest()`. -/
def transmitReconfigRequest (s : Association) : Association :=
  if s.reconfigQueue.length > 0 && s.established && s.reconfigRequest.isNone then
    let uniqueStreams := s.reconfigQueue.eraseDups
    let param : OutgoingSSNResetRequestParam :=
      { requestSequence := s.reconfigRequestSeq
        responseSequence := s.reconfigResponseSeq
        lastTsn := tsnMinusOne s.localTsn
        streams := uniqueStreams.take RECONFIG_MAX_STREAMS }
    { s with
      reconfigQueue := uniqueStreams.drop RECONFIG_MAX_STREAMS
      reconfigRequestSeq := tsnPlusOne s.reconfigRequestSeq
      reconfigRequest := some param }.sendReconfigParam (.outgoingSSNResetRequest param)
  else s

/-- Whether `this.outboundStreamSeq[streamId]` is neither undefined nor `0`. -/
def hasOutboundSeq (s : Association) (streamId : ℕ) : Bool :=
  match s.outboundStreamSeq streamId with
  | some seq => seq != 0
  | none => false

/-- The callback of `receiveReconfigParam` for one stream of a reset request. -/
def resetStream (s : Association) (streamId : ℕ) : Association :=
  { s with
    inboundStreams := Function.update s.inboundStreams streamId none
    reconfigQueue :=
      if s.hasOutboundSeq streamId && !s.reconfigQueue.contains streamId then
        s.reconfigQueue ++ [streamId]
      else s.reconfigQueue }

/-- A response that belongs to the pending request. -/
def answers (s : Association) (p : ReconfigResponseParam) :
    Option OutgoingSSNResetRequestParam :=
  s.reconfigRequest.filter fun request =>
    p.result == reconfigResultSuccessPerformed && p.responseSequence == request.requestSequence

@[simp] lemma sendReconfigParam_inboundStreams (s : Association) (param : StreamParam) :
    (s.sendReconfigParam param).inboundStreams = s.inboundStreams := rfl
@[simp] lemma sendReconfigParam_inboundStreamsCount (s : Association) (param : StreamParam) :
    (s.sendReconfigParam param).inboundStreamsCount = s.inboundStreamsCount := rfl
@[simp] lemma sendReconfigParam_reconfigQueue (s : Association) (param : StreamParam) :
    (s.sendReconfigParam param).reconfigQueue = s.reconfigQueue := rfl
@[simp] lemma sendReconfigParam_reconfigRequest (s : Association) (param : StreamParam) :
    (s.sendReconfigParam param).reconfigRequest = s.reconfigRequest := rfl

end Association

end Werift.Sctp
