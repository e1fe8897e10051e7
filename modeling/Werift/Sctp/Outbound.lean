import Werift.Lib.Transition
import Werift.Sctp.Abandon
import Werift.Sctp.Send

/-!
# The sending side of an association

A `Sender` holds the outbound fields of `SCTP`.  Chunks go from `outboundQueue` to `sentQueue` when
they are transmitted, and leave `sentQueue` when they are acknowledged or given up.

The source is single-threaded but `transmitOnce` awaits the sending of every chunk, and everything
else may happen meanwhile.  `Transmit` is the place where a running `transmit` waits, and a step of
the sender is what the source does between two waits.
-/

namespace Werift.Sctp

open Transition

/-- What the sender hands to the transport. -/
inductive Packet
  | data (chunk : DataChunk)
  | forwardTsn (chunk : ForwardTsnChunk)
deriving DecidableEq

/-- Where a running `transmit` waits: for a FORWARD TSN, for a chunk of the loop over `sentQueue`,
for a chunk of the loop over `outboundQueue`, or for `transmitOnce` to return.  `position` is the
position of the iterator of `sentQueue`; `cwnd` and `earliest` are the variables `cwnd` and
`retransmitEarliest` of `transmitOnce`. -/
inductive Transmit
  | idle
  | sendingForward
  | sendingRetransmit (position cwnd : ℕ) (earliest : Bool)
  | sendingData (cwnd : ℕ)
  | finishing
deriving DecidableEq

/-- The outbound fields of `SCTP`.  `removed` is the counter of `sentQueue` of that name, `timer3`
tells whether the T3 timer is armed, `handledSacks` counts the calls of `receiveSackChunk` that
await `onSackReceived`, `time` is the clock in seconds and `wire` is what has been handed to the
transport. -/
structure Sender where
  maxPayloadSize : ℕ
  cwnd : ℕ
  peerAdvertisedRwnd : ℕ
  fastRecoveryExit : Option ℤ := none
  fastRecoveryTransmit : Bool := false
  forwardTsnChunk : Option ForwardTsnChunk := none
  flightSize : ℕ := 0
  outboundQueue : List DataChunk := []
  outboundStreamSeq : ℕ → ℤ := fun _ => 0
  localTsn : ℤ
  lastSackedTsn : ℤ
  advancedPeerAckTsn : ℤ
  partialBytesAcked : ℕ := 0
  sentQueue : List DataChunk := []
  removed : ℕ := 0
  transmit : Transmit := .idle
  transmitRequested : Bool := false
  ssthresh : Option ℕ := none
  timer3 : Bool := false
  handledSacks : ℕ := 0
  time : ℚ := 0
  wire : List Packet := []

namespace Sender

/-- The sender of an association before its first `send`. -/
def initial (maxPayloadSize : ℕ) (localTsn : ℤ) (peerAdvertisedRwnd : ℕ) : Sender where
  maxPayloadSize := maxPayloadSize
  cwnd := 3 * maxPayloadSize
  peerAdvertisedRwnd := peerAdvertisedRwnd
  localTsn := localTsn
  lastSackedTsn := tsnMinusOne localTsn
  advancedPeerAckTsn := tsnMinusOne localTsn
  ssthresh := some peerAdvertisedRwnd

/-- `get peerRwnd()`. -/
def peerRwnd (s : Sender) : ℕ := s.peerAdvertisedRwnd - s.flightSize

/-! ## `transmit` -/

/-- The loop of `transmitOnce` over `outboundQueue`, up to the next chunk. -/
def drainOutboundQueue (s : Sender) (cwnd : ℕ) : Sender :=
  match s.outboundQueue with
  | [] => { s with transmit := .finishing }
  | chunk :: rest =>
    if s.flightSize < cwnd ∧ 0 < s.peerRwnd ∧
        ¬ (s.peerRwnd < chunk.bookSize ∧ 0 < s.flightSize) then
      let sent := { chunk with sentCount := chunk.sentCount + 1 }
      { s with
        outboundQueue := rest
        sentQueue := s.sentQueue ++ [sent]
        flightSize := s.flightSize + chunk.bookSize
        wire := s.wire ++ [.data sent]
        transmit := .sendingData cwnd }
    else { s with transmit := .finishing }

/-- A chunk as the loop over `sentQueue` sends it again. -/
def resent (c : DataChunk) : DataChunk :=
  { c with misses := 0, retransmit := false, sentCount := c.sentCount + 1 }

/-- Send the chunk at the index `i` of `sentQueue` again. -/
def retransmitAt (s : Sender) (i : ℕ) (chunk : DataChunk) (cwnd : ℕ) (earliest : Bool) : Sender :=
  { s with
    fastRecoveryTransmit := false
    flightSize := s.flightSize + chunk.bookSize
    sentQueue := s.sentQueue.set i (resent chunk)
    wire := s.wire ++ [.data (resent chunk)]
    transmit := .sendingRetransmit (s.removed + i + 1) cwnd earliest }

/-- The loop of `transmitOnce` over `sentQueue` from an iterator position on, up to the next chunk
that is sent again. -/
def retransmitFrom (s : Sender) (position cwnd : ℕ) (earliest : Bool) : Sender :=
  let index := position - s.removed
  let skipped := (s.sentQueue.drop index).findIdx DataChunk.retransmit
  match s.sentQueue[index + skipped]? with
  | none => s.drainOutboundQueue cwnd
  | some chunk =>
    if s.fastRecoveryTransmit || s.flightSize < cwnd then
      s.retransmitAt (index + skipped) chunk cwnd (earliest && skipped == 0)
    else s.drainOutboundQueue cwnd

/-- `burstSize`. -/
def burstSize (s : Sender) : ℕ :=
  if s.fastRecoveryExit.isSome then 2 * s.maxPayloadSize else 4 * s.maxPayloadSize

/-- `transmitOnce` after the FORWARD TSN. -/
def transmitChunks (s : Sender) : Sender :=
  s.retransmitFrom s.removed (min (s.flightSize + s.burstSize) s.cwnd) true

/-- One round of the loop of `transmit`: `transmitOnce` up to its first wait. -/
def transmitOnce (s : Sender) : Sender :=
  let s := { s with transmitRequested := false }
  match s.forwardTsnChunk with
  | some chunk => { s with wire := s.wire ++ [.forwardTsn chunk], transmit := .sendingForward }
  | none => s.transmitChunks

/-- `transmit()`. -/
def startTransmit (s : Sender) : Sender :=
  if s.transmit = .idle then s.transmitOnce else { s with transmitRequested := true }

/-- The running `transmit` goes on after what it has waited for. -/
def resume (s : Sender) : Option Sender :=
  match s.transmit with
  | .idle => none
  | .sendingForward => some { s with forwardTsnChunk := none, timer3 := true }.transmitChunks
  | .sendingRetransmit position cwnd earliest =>
    some ({ s with timer3 := s.timer3 || earliest }.retransmitFrom position cwnd false)
  | .sendingData cwnd => some ({ s with timer3 := true }.drainOutboundQueue cwnd)
  | .finishing =>
    some (if s.transmitRequested then s.transmitOnce else { s with transmit := .idle })

/-! ## `send` -/

/-- `send(...)` up to the call of `transmit`: the chunks are queued. -/
def enqueue (s : Sender) (a : SendArgs) : Sender :=
  { s with
    localTsn := a.nextTsn s.maxPayloadSize s.localTsn
    outboundQueue := s.outboundQueue ++
      a.chunks s.maxPayloadSize s.localTsn (s.outboundStreamSeq a.streamId)
    outboundStreamSeq := a.nextOutboundSeq s.outboundStreamSeq }

/-- `send(...)`. -/
def send (s : Sender) (a : SendArgs) : Sender := (s.enqueue a).startTransmit

/-! ## Giving chunks up -/

/-- The entry of `streams` for one chunk; the keys of an object are enumerated in increasing
order. -/
def setEntry (id : ℕ) (ssn : ℤ) : List (ℕ × ℤ) → List (ℕ × ℤ)
  | [] => [(id, ssn)]
  | e :: l =>
    if id < e.1 then (id, ssn) :: e :: l
    else if id = e.1 then (id, ssn) :: l
    else e :: setEntry id ssn l

/-- `Object.entries(streams)` for the chunks that are given up. -/
def skippedStreams (chunks : List DataChunk) : List (ℕ × ℤ) :=
  chunks.foldl (fun streams c =>
    if c.unordered then streams else setEntry c.streamId c.streamSeqNum streams) []

/-- `advancedPeerAckTsn`, at least `lastSackedTsn`. -/
def peerAckBase (s : Sender) : ℤ :=
  if uint32Gt s.lastSackedTsn s.advancedPeerAckTsn then s.lastSackedTsn else s.advancedPeerAckTsn

/-- `updateAdvancedPeerAckPoint()`. -/
def updateAdvancedPeerAckPoint (s : Sender) : Sender :=
  let done := s.sentQueue.takeWhile DataChunk.abandoned
  match done.getLast? with
  | none => { s with advancedPeerAckTsn := s.peerAckBase }
  | some chunk =>
    { s with
      advancedPeerAckTsn := chunk.tsn
      sentQueue := s.sentQueue.dropWhile DataChunk.abandoned
      removed := s.removed + done.length
      forwardTsnChunk := some ⟨chunk.tsn, skippedStreams done⟩ }

/-! ## `timer3Expired` -/

/-- The callback of `timer3Expired` for the chunk at an index of the queue. -/
def expireAt (now : ℚ) (queue : List DataChunk) (i : ℕ) : List DataChunk :=
  match queue[i]? with
  | none => queue
  | some chunk =>
    let result := maybeAbandon now queue chunk
    if result.1 then result.2 else result.2.modify i fun c => { c with retransmit := true }

/-- Mark all chunks for retransmission or as abandoned. -/
def expireChunks (now : ℚ) (queue : List DataChunk) : List DataChunk :=
  (List.range queue.length).foldl (expireAt now) queue

/-- `timer3Expired()` up to the call of `transmit`. -/
def expire (s : Sender) : Sender :=
  let s := { s with timer3 := false, sentQueue := expireChunks s.time s.sentQueue
    }.updateAdvancedPeerAckPoint
  { s with
    fastRecoveryExit := none
    flightSize := 0
    partialBytesAcked := 0
    ssthresh := some (max (s.cwnd / 2) (4 * s.maxPayloadSize))
    cwnd := s.maxPayloadSize }

/-- `timer3Expired()`. -/
def timer3Expired (s : Sender) : Sender := s.expire.startTransmit

/-! ## `receiveSackChunk` -/

/-- `flightSizeDecrease` for one chunk after another. -/
def flightSizeDecrease (flightSize : ℕ) (chunks : List DataChunk) : ℕ :=
  chunks.foldl (fun n c => n - c.bookSize) flightSize

/-- The TSNs of the gap blocks, in the order in which they are added to `seen`. -/
def expandGaps (cumulativeTsn : ℤ) (gaps : List (ℤ × ℤ)) : List ℤ :=
  gaps.flatMap fun gap => (List.range (gap.2 + 1 - gap.1).toNat).map fun k : ℕ =>
    Js.rem (cumulativeTsn + (gap.1 + k)) SCTP_TSN_MODULO

/-- Whether a loop over `sentQueue` has not yet passed a TSN, which may be undefined. -/
def notPast (limit : Option ℤ) (c : DataChunk) : Bool :=
  match limit with
  | none => true
  | some tsn => !uint32Gt c.tsn tsn

/-- The chunks of the queue that gap blocks acknowledge for the first time. -/
def newlyAcked (seen : List ℤ) (queue : List DataChunk) : List DataChunk :=
  (queue.takeWhile (notPast seen.getLast?)).filter fun c => seen.contains c.tsn && !c.acked

/-- The loop that marks the chunks in the gap blocks. -/
def ackGaps (seen : List ℤ) (queue : List DataChunk) : List DataChunk :=
  (queue.takeWhile (notPast seen.getLast?)).map (fun c =>
      if seen.contains c.tsn && !c.acked then { c with acked := true } else c) ++
    queue.dropWhile (notPast seen.getLast?)

/-- The state of the loop over the missing chunks. -/
structure Strikes where
  queue : List DataChunk
  flightSize : ℕ
  loss : Bool := false

/-- A chunk that is missing once more. -/
def missed (c : DataChunk) : DataChunk := { c with misses := c.misses + 1 }

/-- A chunk that has been missing for the third time. -/
def struck (c : DataChunk) : DataChunk := { c with misses := 0 }

/-- A struck chunk, after `maybeAbandon` has told whether it is given up. -/
def lost (givenUp : Bool) (c : DataChunk) : DataChunk :=
  { c with retransmit := c.retransmit || !givenUp, acked := false }

/-- The loop over the missing chunks, for the chunk at one index. -/
def strikeAt (now : ℚ) (seen : List ℤ) (st : Strikes) (i : ℕ) : Strikes :=
  match st.queue[i]? with
  | none => st
  | some chunk =>
    if seen.contains chunk.tsn then st
    else if chunk.misses + 1 ≠ 3 then { st with queue := st.queue.set i (missed chunk) }
    else
      let result := maybeAbandon now (st.queue.set i (struck chunk)) (struck chunk)
      { queue := result.2.modify i (lost result.1)
        flightSize := st.flightSize - chunk.bookSize
        loss := true }

/-- The state before the loop over the missing chunks: the chunks in the gap blocks are marked. -/
def afterGaps (chunk : SackChunk) (queue : List DataChunk) (flightSize : ℕ) : Strikes :=
  let seen := expandGaps chunk.cumulativeTsn chunk.gaps
  { queue := ackGaps seen queue
    flightSize := flightSizeDecrease flightSize (newlyAcked seen queue) }

/-- How many chunks the loop over the missing chunks looks at: the ones up to
`highestNewlyAcked`. -/
def strikable (chunk : SackChunk) (queue : List DataChunk) : ℕ :=
  let seen := expandGaps chunk.cumulativeTsn chunk.gaps
  let highestNewlyAcked :=
    ((newlyAcked seen queue).getLast?.map DataChunk.tsn).getD chunk.cumulativeTsn
  ((ackGaps seen queue).takeWhile (notPast (some highestNewlyAcked))).length

/-- The loop over the missing chunks, for the first `n` of them. -/
def strikeMissing (now : ℚ) (chunk : SackChunk) (st : Strikes) (n : ℕ) : Strikes :=
  (List.range n).foldl (strikeAt now (expandGaps chunk.cumulativeTsn chunk.gaps)) st

/-- The part of `receiveSackChunk` that handles the gap blocks. -/
def handleGaps (now : ℚ) (chunk : SackChunk) (queue : List DataChunk) (flightSize : ℕ) : Strikes :=
  if chunk.gaps = [] then { queue, flightSize }
  else strikeMissing now chunk (afterGaps chunk queue flightSize) (strikable chunk queue)

/-- The variables of congestion control. -/
structure Window where
  cwnd : ℕ
  ssthresh : Option ℕ
  partialBytesAcked : ℕ
  fastRecoveryExit : Option ℤ
  fastRecoveryTransmit : Bool

/-- The variables of congestion control as they are. -/
def window (s : Sender) : Window :=
  ⟨s.cwnd, s.ssthresh, s.partialBytesAcked, s.fastRecoveryExit, s.fastRecoveryTransmit⟩

/-- The growth of the window when it has been fully utilized. -/
def grownWindow (s : Sender) (doneBytes : ℕ) : Window :=
  if s.ssthresh.any fun t => s.cwnd ≤ t then
    { s.window with cwnd := s.cwnd + min doneBytes s.maxPayloadSize }
  else if s.partialBytesAcked + doneBytes ≥ s.cwnd then
    { s.window with
      partialBytesAcked := s.partialBytesAcked + doneBytes - s.cwnd
      cwnd := s.cwnd + s.maxPayloadSize }
  else { s.window with partialBytesAcked := s.partialBytesAcked + doneBytes }

/-- The congestion control of `receiveSackChunk`; `last` is the TSN of the last chunk sent. -/
def adjustedWindow (s : Sender) (cumulativeTsn : ℤ) (fullyUtilized : Bool) (doneBytes : ℕ)
    (loss : Bool) (last : Option ℤ) : Window :=
  match s.fastRecoveryExit with
  | none =>
    let w := if fullyUtilized then s.grownWindow doneBytes else s.window
    if loss then
      let ssthresh := max (w.cwnd / 2) (4 * s.maxPayloadSize)
      { cwnd := ssthresh
        ssthresh := some ssthresh
        partialBytesAcked := 0
        fastRecoveryExit := last
        fastRecoveryTransmit := true }
    else w
  | some exit =>
    if uint32Gte cumulativeTsn exit then { s.window with fastRecoveryExit := none } else s.window

/-- The chunks that a SACK acknowledges cumulatively. -/
def cumulativelyAcked (cumulativeTsn : ℤ) (queue : List DataChunk) : List DataChunk :=
  queue.takeWhile fun c => uint32Gte cumulativeTsn c.tsn

/-- The queue without them. -/
def beyondCumulative (cumulativeTsn : ℤ) (queue : List DataChunk) : List DataChunk :=
  queue.dropWhile fun c => uint32Gte cumulativeTsn c.tsn

/-- The chunks of them that gap blocks have not acknowledged before. -/
def doneChunks (cumulativeTsn : ℤ) (queue : List DataChunk) : List DataChunk :=
  (cumulativelyAcked cumulativeTsn queue).filter fun c => !c.acked

/-- `doneBytes`. -/
def doneBytes (chunk : SackChunk) (queue : List DataChunk) : ℕ :=
  ((doneChunks chunk.cumulativeTsn queue).map DataChunk.bookSize).sum +
    ((newlyAcked (expandGaps chunk.cumulativeTsn chunk.gaps)
      (beyondCumulative chunk.cumulativeTsn queue)).map DataChunk.bookSize).sum

/-- The queue and the flight size after the acknowledged chunks have been handled. -/
def acknowledge (s : Sender) (chunk : SackChunk) : Strikes :=
  handleGaps s.time chunk (beyondCumulative chunk.cumulativeTsn s.sentQueue)
    (flightSizeDecrease s.flightSize (doneChunks chunk.cumulativeTsn s.sentQueue))

/-- `receiveSackChunk(chunk)` for a SACK that is not outdated, up to the call of
`updateAdvancedPeerAckPoint`, before which the T3 timer is cancelled or restarted. -/
def accountSack (s : Sender) (chunk : SackChunk) : Sender :=
  let done := (cumulativelyAcked chunk.cumulativeTsn s.sentQueue).length
  let result := s.acknowledge chunk
  let w := s.adjustedWindow chunk.cumulativeTsn (decide (done > 0 ∧ s.flightSize ≥ s.cwnd))
    (doneBytes chunk s.sentQueue) result.loss (result.queue.getLast?.map DataChunk.tsn)
  { s with
    lastSackedTsn := chunk.cumulativeTsn
    sentQueue := result.queue
    removed := s.removed + done
    flightSize := result.flightSize
    cwnd := w.cwnd
    ssthresh := w.ssthresh
    partialBytesAcked := w.partialBytesAcked
    fastRecoveryExit := w.fastRecoveryExit
    fastRecoveryTransmit := w.fastRecoveryTransmit
    timer3 := !result.queue.isEmpty && (s.timer3 || decide (done > 0))
    peerAdvertisedRwnd := chunk.advertisedRwnd.toNat
    handledSacks := s.handledSacks + 1 }

/-- `receiveSackChunk(chunk)` up to its first wait. -/
def receiveSackChunk (s : Sender) (chunk : SackChunk) : Sender :=
  if uint32Gt s.lastSackedTsn chunk.cumulativeTsn then s
  else (s.accountSack chunk).updateAdvancedPeerAckPoint

/-! ## Steps -/

/-- What can happen to a sender. -/
inductive Event
  | send (a : SendArgs)
  | receiveSack (chunk : SackChunk)
  | sackHandled
  | resume
  | timer3Expired
  | receiveInit (advertisedRwnd : ℕ)
  | tick (now : ℚ)

/-- A step of the sender; `none` if the event cannot happen. -/
def step (s : Sender) : Event → Option Sender
  | .send a => some (s.send a)
  | .receiveSack chunk => some (s.receiveSackChunk chunk)
  | .sackHandled =>
    if s.handledSacks > 0 then
      some { s with handledSacks := s.handledSacks - 1 }.startTransmit
    else none
  | .resume => s.resume
  | .timer3Expired => if s.timer3 then some s.timer3Expired else none
  | .receiveInit advertisedRwnd =>
    some { s with ssthresh := some advertisedRwnd, peerAdvertisedRwnd := advertisedRwnd }
  | .tick now => if s.time ≤ now then some { s with time := now } else none

/-! ## What a step does -/

/-- What `transmit` does up to its next wait: it comes to an end, sends the first chunk of
`outboundQueue`, or sends a chunk of `sentQueue` again. -/
inductive Proceeds (s : Sender) : Sender → Prop
  | finish : Proceeds s { s with transmit := .finishing }
  | data {chunk : DataChunk} {rest : List DataChunk} {cwnd : ℕ}
      (hqueue : s.outboundQueue = chunk :: rest) :
      Proceeds s { s with
        outboundQueue := rest
        sentQueue := s.sentQueue ++ [{ chunk with sentCount := chunk.sentCount + 1 }]
        flightSize := s.flightSize + chunk.bookSize
        wire := s.wire ++ [.data { chunk with sentCount := chunk.sentCount + 1 }]
        transmit := .sendingData cwnd }
  | again {i : ℕ} {chunk : DataChunk} {cwnd : ℕ} {earliest : Bool}
      (hchunk : s.sentQueue[i]? = some chunk) (hretransmit : chunk.retransmit = true) :
      Proceeds s (s.retransmitAt i chunk cwnd earliest)

lemma drainOutboundQueue_proceeds (s : Sender) (cwnd : ℕ) :
    Proceeds s (s.drainOutboundQueue cwnd) := by
  unfold drainOutboundQueue
  split
  · exact Proceeds.finish
  · rename_i chunk rest hqueue
    split_ifs
    · exact Proceeds.data hqueue
    · exact Proceeds.finish

/-- The chunk that the loop over `sentQueue` comes to waits for retransmission. -/
lemma retransmit_of_findIdx {q : List DataChunk} {index : ℕ} {chunk : DataChunk}
    (h : q[index + (q.drop index).findIdx DataChunk.retransmit]? = some chunk) :
    chunk.retransmit = true := by
  rw [← List.getElem?_drop] at h
  have hlt := (List.getElem?_eq_some_iff.mp h).1
  rw [← (List.getElem?_eq_some_iff.mp h).2]
  exact List.findIdx_getElem (w := hlt)

lemma retransmitFrom_proceeds (s : Sender) (position cwnd : ℕ) (earliest : Bool) :
    Proceeds s (s.retransmitFrom position cwnd earliest) := by
  unfold retransmitFrom
  dsimp only
  split
  · exact drainOutboundQueue_proceeds s cwnd
  · rename_i chunk hchunk
    split_ifs
    · exact Proceeds.again hchunk (retransmit_of_findIdx hchunk)
    · exact drainOutboundQueue_proceeds s cwnd

lemma transmitChunks_proceeds (s : Sender) : Proceeds s s.transmitChunks :=
  retransmitFrom_proceeds _ _ _ _

/-- What a round of `transmit` starts with: a FORWARD TSN, or the chunks. -/
lemma transmitOnce_cases (s : Sender) :
    (∃ f, s.forwardTsnChunk = some f ∧ s.transmitOnce = { s with
      transmitRequested := false, wire := s.wire ++ [.forwardTsn f], transmit := .sendingForward }) ∨
    (s.forwardTsnChunk = none ∧
      s.transmitOnce = { s with transmitRequested := false }.transmitChunks) := by
  unfold transmitOnce
  dsimp only
  cases h : s.forwardTsnChunk with
  | none => exact Or.inr ⟨rfl, rfl⟩
  | some f => exact Or.inl ⟨f, rfl, rfl⟩

/-- What `transmit` can do to the queues up to its next wait: nothing, or it sends the first chunk of
`outboundQueue`, or a chunk of `sentQueue` again. -/
inductive Moves (s s' : Sender) : Prop
  | quiet (hsent : s'.sentQueue = s.sentQueue) (hout : s'.outboundQueue = s.outboundQueue)
      (hflight : s'.flightSize = s.flightSize)
  | data {chunk : DataChunk} {rest : List DataChunk} (hqueue : s.outboundQueue = chunk :: rest)
      (hsent : s'.sentQueue = s.sentQueue ++ [{ chunk with sentCount := chunk.sentCount + 1 }])
      (hout : s'.outboundQueue = rest) (hflight : s'.flightSize = s.flightSize + chunk.bookSize)
  | again {i : ℕ} {chunk : DataChunk} (hchunk : s.sentQueue[i]? = some chunk)
      (hretransmit : chunk.retransmit = true)
      (hsent : s'.sentQueue = s.sentQueue.set i (resent chunk))
      (hout : s'.outboundQueue = s.outboundQueue)
      (hflight : s'.flightSize = s.flightSize + chunk.bookSize)

lemma Proceeds.moves {s s' : Sender} (h : Proceeds s s') : Moves s s' := by
  cases h with
  | finish => exact Moves.quiet rfl rfl rfl
  | data hqueue => exact Moves.data hqueue rfl rfl rfl
  | again hchunk hretransmit => exact Moves.again hchunk hretransmit rfl rfl rfl

/-- Only the queues and the flight size matter. -/
lemma Moves.congr {s t s' : Sender} (h : Moves s s') (hsent : s.sentQueue = t.sentQueue)
    (hout : s.outboundQueue = t.outboundQueue) (hflight : s.flightSize = t.flightSize) :
    Moves t s' := by
  cases h with
  | quiet h1 h2 h3 => exact Moves.quiet (h1.trans hsent) (h2.trans hout) (h3.trans hflight)
  | data hqueue h1 h2 h3 =>
    exact Moves.data (hout ▸ hqueue) (hsent ▸ h1) h2 (hflight ▸ h3)
  | again hchunk hretransmit h1 h2 h3 =>
    exact Moves.again (hsent ▸ hchunk) hretransmit (hsent ▸ h1) (hout ▸ h2) (hflight ▸ h3)

lemma transmitOnce_moves (s : Sender) : Moves s s.transmitOnce := by
  obtain ⟨f, -, heq⟩ | ⟨-, heq⟩ := s.transmitOnce_cases
  · rw [heq]
    exact Moves.quiet rfl rfl rfl
  · rw [heq]
    exact (transmitChunks_proceeds _).moves.congr rfl rfl rfl

lemma startTransmit_moves (s : Sender) : Moves s s.startTransmit := by
  unfold startTransmit
  split_ifs
  · exact s.transmitOnce_moves
  · exact Moves.quiet rfl rfl rfl

lemma resume_moves {s s' : Sender} (h : s.resume = some s') : Moves s s' := by
  unfold resume at h
  split at h
  · exact absurd h (by simp)
  · obtain rfl := Option.some.inj h
    exact (transmitChunks_proceeds _).moves.congr rfl rfl rfl
  · obtain rfl := Option.some.inj h
    exact (retransmitFrom_proceeds _ _ _ _).moves.congr rfl rfl rfl
  · obtain rfl := Option.some.inj h
    exact (drainOutboundQueue_proceeds _ _).moves.congr rfl rfl rfl
  · obtain rfl := Option.some.inj h
    split_ifs
    · exact s.transmitOnce_moves
    · exact Moves.quiet rfl rfl rfl

/-- What `transmit` hands to the transport stays there; it does not replace the FORWARD TSN or cancel
T3. -/
structure SameOutput (s s' : Sender) : Prop where
  forward : s'.forwardTsnChunk = s.forwardTsnChunk
  timer3 : s.timer3 = true → s'.timer3 = true
  wire : s.wire ⊆ s'.wire

lemma Proceeds.output {s s' : Sender} (h : Proceeds s s') : SameOutput s s' := by
  cases h with
  | finish => exact ⟨rfl, id, List.Subset.refl _⟩
  | data => exact ⟨rfl, id, List.subset_append_left _ _⟩
  | again => exact ⟨rfl, id, List.subset_append_left _ _⟩

lemma transmitOnce_output (s : Sender) : SameOutput s s.transmitOnce := by
  obtain ⟨f, -, heq⟩ | ⟨-, heq⟩ := s.transmitOnce_cases
  · rw [heq]
    exact ⟨rfl, id, List.subset_append_left _ _⟩
  · rw [heq]
    have h := (transmitChunks_proceeds { s with transmitRequested := false }).output
    exact ⟨h.forward, h.timer3, h.wire⟩

lemma startTransmit_output (s : Sender) : SameOutput s s.startTransmit := by
  unfold startTransmit
  split_ifs
  · exact s.transmitOnce_output
  · exact ⟨rfl, id, List.Subset.refl _⟩

/-- Only after a FORWARD TSN has been sent, the pending one is cleared. -/
lemma resume_output {s s' : Sender} (h : s.resume = some s') (hpc : s.transmit ≠ .sendingForward) :
    SameOutput s s' := by
  unfold resume at h
  split at h
  · exact absurd h (by simp)
  · rename_i hforward
    exact absurd hforward hpc
  · rename_i position cwnd earliest _
    obtain rfl := Option.some.inj h
    have h := (retransmitFrom_proceeds { s with timer3 := s.timer3 || earliest } position cwnd
      false).output
    exact ⟨h.forward, fun ht => h.timer3 (by dsimp only; rw [ht, Bool.true_or]), h.wire⟩
  · rename_i cwnd _
    obtain rfl := Option.some.inj h
    have h := (drainOutboundQueue_proceeds { s with timer3 := true } cwnd).output
    exact ⟨h.forward, fun _ => h.timer3 rfl, h.wire⟩
  · obtain rfl := Option.some.inj h
    split_ifs
    · exact s.transmitOnce_output
    · exact ⟨rfl, id, List.Subset.refl _⟩

/-- What `transmit` leaves alone. -/
structure SameControl (s s' : Sender) : Prop where
  maxPayloadSize : s'.maxPayloadSize = s.maxPayloadSize
  cwnd : s'.cwnd = s.cwnd
  lastSackedTsn : s'.lastSackedTsn = s.lastSackedTsn
  advancedPeerAckTsn : s'.advancedPeerAckTsn = s.advancedPeerAckTsn
  removed : s'.removed = s.removed
  time : s'.time = s.time
  localTsn : s'.localTsn = s.localTsn

lemma Proceeds.control {s s' : Sender} (h : Proceeds s s') : SameControl s s' := by
  cases h <;> exact ⟨rfl, rfl, rfl, rfl, rfl, rfl, rfl⟩

lemma transmitOnce_control (s : Sender) : SameControl s s.transmitOnce := by
  obtain ⟨f, -, heq⟩ | ⟨-, heq⟩ := s.transmitOnce_cases
  · rw [heq]
    exact ⟨rfl, rfl, rfl, rfl, rfl, rfl, rfl⟩
  · rw [heq]
    have h := (transmitChunks_proceeds { s with transmitRequested := false }).control
    exact ⟨h.1, h.2, h.3, h.4, h.5, h.6, h.7⟩

lemma startTransmit_control (s : Sender) : SameControl s s.startTransmit := by
  unfold startTransmit
  split_ifs
  · exact s.transmitOnce_control
  · exact ⟨rfl, rfl, rfl, rfl, rfl, rfl, rfl⟩

lemma resume_control {s s' : Sender} (h : s.resume = some s') : SameControl s s' := by
  unfold resume at h
  split at h
  · exact absurd h (by simp)
  · obtain rfl := Option.some.inj h
    have h := (transmitChunks_proceeds { s with forwardTsnChunk := none, timer3 := true }).control
    exact ⟨h.1, h.2, h.3, h.4, h.5, h.6, h.7⟩
  · rename_i position cwnd earliest _
    obtain rfl := Option.some.inj h
    have h := (retransmitFrom_proceeds { s with timer3 := s.timer3 || earliest } position cwnd
      false).control
    exact ⟨h.1, h.2, h.3, h.4, h.5, h.6, h.7⟩
  · rename_i cwnd _
    obtain rfl := Option.some.inj h
    have h := (drainOutboundQueue_proceeds { s with timer3 := true } cwnd).control
    exact ⟨h.1, h.2, h.3, h.4, h.5, h.6, h.7⟩
  · obtain rfl := Option.some.inj h
    split_ifs
    · exact s.transmitOnce_control
    · exact ⟨rfl, rfl, rfl, rfl, rfl, rfl, rfl⟩

/-- `updateAdvancedPeerAckPoint` removes the chunks at the head that are given up, and only then
there is a new FORWARD TSN. -/
lemma updateAdvancedPeerAckPoint_cases (s : Sender) :
    (s.sentQueue.takeWhile DataChunk.abandoned = [] ∧
      s.updateAdvancedPeerAckPoint = { s with advancedPeerAckTsn := s.peerAckBase }) ∨
    (∃ init chunk, s.sentQueue.takeWhile DataChunk.abandoned = init ++ [chunk] ∧
      s.updateAdvancedPeerAckPoint = { s with
        advancedPeerAckTsn := chunk.tsn
        sentQueue := s.sentQueue.dropWhile DataChunk.abandoned
        removed := s.removed + (init.length + 1)
        forwardTsnChunk := some ⟨chunk.tsn, skippedStreams (init ++ [chunk])⟩ }) := by
  unfold updateAdvancedPeerAckPoint
  dsimp only
  cases h : (s.sentQueue.takeWhile DataChunk.abandoned).getLast? with
  | none => exact Or.inl ⟨List.getLast?_eq_none_iff.mp h, rfl⟩
  | some chunk =>
    obtain ⟨init, hsplit⟩ : ∃ init, s.sentQueue.takeWhile DataChunk.abandoned = init ++ [chunk] :=
      ⟨_, (List.dropLast_append_getLast? chunk h).symm⟩
    refine Or.inr ⟨init, chunk, hsplit, ?_⟩
    simp [hsplit]

/-- What `updateAdvancedPeerAckPoint` does to the queue. -/
lemma updateAdvancedPeerAckPoint_sentQueue (s : Sender) :
    s.updateAdvancedPeerAckPoint.sentQueue = s.sentQueue.dropWhile DataChunk.abandoned := by
  obtain ⟨h, heq⟩ | ⟨init, chunk, -, heq⟩ := s.updateAdvancedPeerAckPoint_cases
  · rw [heq]
    conv_lhs => rw [← List.takeWhile_append_dropWhile (p := DataChunk.abandoned) (l := s.sentQueue)]
    rw [h, List.nil_append]
  · rw [heq]

/-- What `updateAdvancedPeerAckPoint` leaves alone. -/
structure SameTransmission (s s' : Sender) : Prop where
  maxPayloadSize : s'.maxPayloadSize = s.maxPayloadSize
  cwnd : s'.cwnd = s.cwnd
  flightSize : s'.flightSize = s.flightSize
  outboundQueue : s'.outboundQueue = s.outboundQueue
  localTsn : s'.localTsn = s.localTsn
  lastSackedTsn : s'.lastSackedTsn = s.lastSackedTsn
  transmit : s'.transmit = s.transmit
  transmitRequested : s'.transmitRequested = s.transmitRequested
  timer3 : s'.timer3 = s.timer3
  time : s'.time = s.time
  wire : s'.wire = s.wire

lemma updateAdvancedPeerAckPoint_same (s : Sender) :
    SameTransmission s s.updateAdvancedPeerAckPoint := by
  obtain ⟨-, heq⟩ | ⟨init, chunk, -, heq⟩ := s.updateAdvancedPeerAckPoint_cases <;> rw [heq] <;>
    exact ⟨rfl, rfl, rfl, rfl, rfl, rfl, rfl, rfl, rfl, rfl, rfl⟩

/-- The chunks are marked and the window is closed: what `timer3Expired` does besides
`updateAdvancedPeerAckPoint`. -/
def markedByTimer (s : Sender) : Sender :=
  { s with
    timer3 := false
    sentQueue := expireChunks s.time s.sentQueue
    fastRecoveryExit := none
    flightSize := 0
    partialBytesAcked := 0
    ssthresh := some (max (s.cwnd / 2) (4 * s.maxPayloadSize))
    cwnd := s.maxPayloadSize }

/-- The order of the two does not matter. -/
lemma expire_eq (s : Sender) : s.expire = s.markedByTimer.updateAdvancedPeerAckPoint := by
  unfold expire markedByTimer updateAdvancedPeerAckPoint
  dsimp only
  cases ((expireChunks s.time s.sentQueue).takeWhile DataChunk.abandoned).getLast? <;> rfl

/-- What the T3 timer does to the queue. -/
lemma expire_sentQueue (s : Sender) :
    s.expire.sentQueue = (expireChunks s.time s.sentQueue).dropWhile DataChunk.abandoned :=
  updateAdvancedPeerAckPoint_sentQueue _

/-- The state whose chunks the T3 timer has marked. -/
lemma expire_same (s : Sender) :
    SameTransmission
      { s with timer3 := false, flightSize := 0, cwnd := s.maxPayloadSize } s.expire := by
  have h := updateAdvancedPeerAckPoint_same
    { s with timer3 := false, sentQueue := expireChunks s.time s.sentQueue }
  exact ⟨h.maxPayloadSize, h.maxPayloadSize, rfl, h.outboundQueue, h.localTsn, h.lastSackedTsn,
    h.transmit, h.transmitRequested, h.timer3, h.time, h.wire⟩

end Sender

end Werift.Sctp
