import Werift.Sctp.Receiver
import Werift.Sctp.Sack

/-!
# When a SACK is sent

`handleData` handles the chunks of a packet one after the other and awaits each of them; after the
last one it calls `scheduleSack`.  `sendSack` builds a SACK, awaits the transport, and then clears
`sackNeeded`, `sackDuplicates` and the other fields.  Other packets may be handled at every await,
so that a step of this model runs from one await to the next.

`recorded` lists the TSNs that `markReceived` has seen, and a SACK remembers how many of them there
were when it was built.  `Acknowledged` says that each of them is in the care of a SACK or of the
flags.  `sack_acknowledged` shows that this fails only where `sendSack` clears what it has not
reported, where a duplicate is filtered out before it has been reported, and where a handler throws.
-/

namespace Werift.Sctp

open Transition

/-- A chunk of a packet; `init` is an INIT that a server handles.  The handling of the `other` chunks
does not touch the receiving half. -/
inductive PacketChunk
  | data (chunk : DataChunk)
  | forwardTsn (chunk : ForwardTsnChunk)
  | init (initialTsn : ℤ)
  | other

def PacketChunk.isInit : PacketChunk → Bool
  | .init _ => true
  | _ => false

def PacketChunk.isOther : PacketChunk → Bool
  | .other => true
  | _ => false

/-- A call of `handleData` that awaits a chunk: the chunks after it, and whether the awaited handler
is one that may still throw. -/
structure Handler where
  rest : List PacketChunk
  mayThrow : Bool

/-- A call of `markReceived`. -/
structure Record where
  tsn : ℤ
  duplicate : Bool
deriving DecidableEq

/-- A SACK, and the number of the TSNs that had been recorded when it was built. -/
structure BuiltSack where
  chunk : SackChunk
  recorded : ℕ

/-- The receiving half with its packets that are being handled, and the SACKs that are being sent
and that have been sent. -/
structure AckState where
  receiver : Receiver
  sackPacketCount : ℕ := 0
  sackTimeout : Bool := false
  handlers : List Handler := []
  sending : List BuiltSack := []
  sent : List BuiltSack := []
  recorded : List Record := []

namespace AckState

/-- `sendSack()` up to the transport. -/
def sendSack (s : AckState) : AckState :=
  if s.receiver.sackNeeded then
    { s with
      sending := s.sending ++
        [⟨sackOf s.receiver.received s.receiver.advertisedRwnd, s.recorded.length⟩] }
  else s

/-- `sendSack()` after the transport. -/
def clearSack (s : AckState) : AckState :=
  { s with
    receiver :=
      { s.receiver with
        received := { s.receiver.received with sackDuplicates := [] }
        sackNeeded := false
        sackImmediate := false }
    sackPacketCount := 0 }

/-- `scheduleSack()`. -/
def scheduleSack (s : AckState) : AckState :=
  if !s.receiver.sackNeeded then s
  else if s.receiver.sackImmediate then { s with sackTimeout := false }.sendSack
  else { s with sackTimeout := true }

/-- `handleData` after the last chunk. -/
def finishPacket (s : AckState) : AckState :=
  if s.receiver.sackNeeded then
    let sackPacketCount :=
      if s.receiver.sackHasNewDataInPacket then s.sackPacketCount + 1 else s.sackPacketCount
    { s with
      sackPacketCount
      receiver :=
        { s.receiver with
          sackImmediate := if sackPacketCount ≥ 2 then true else s.receiver.sackImmediate }
      }.scheduleSack
  else s

/-- `receiveChunk(chunk)` up to its first await, and whether it throws. -/
def receiveChunk (s : AckState) : PacketChunk → AckState × Bool
  | .data chunk =>
    let receipt := s.receiver.receiveDataChunk chunk
    ({ s with
      receiver := receipt.receiver
      recorded := s.recorded ++
        [⟨chunk.tsn, (markReceived s.receiver.received chunk.tsn).1⟩] }, receipt.thrown)
  | .forwardTsn chunk =>
    ({ s with receiver := (s.receiver.receiveForwardTsnChunk chunk).receiver }, false)
  | .init initialTsn =>
    ({ s with
      receiver :=
        { s.receiver with
          received := { s.receiver.received with lastReceivedTsn := tsnMinusOne initialTsn } } },
      false)
  | .other => (s, false)

/-- The loop of `handleData` up to its next await. -/
def handleChunks (s : AckState) : List PacketChunk → AckState
  | [] => s.finishPacket
  | chunk :: rest =>
    let received := s.receiveChunk chunk
    if received.2 then received.1
    else
      { received.1 with
        handlers := s.handlers ++ [⟨rest, chunk.isOther⟩] }

end AckState

/-- An INIT that is not alone in its packet: `handleData` throws before it handles a chunk. -/
def wrongInit (chunks : List PacketChunk) : Bool :=
  chunks.any PacketChunk.isInit && chunks.length != 1

/-- A packet arrives; the chunk that a handler awaits is done, or has thrown; the SACK timer fires;
the sending of a SACK succeeds or fails. -/
inductive AckEvent
  | arrive (chunks : List PacketChunk)
  | resume (handler : ℕ)
  | throw (handler : ℕ)
  | timeout
  | sent (sack : ℕ) (ok : Bool)

/-- The step function of the receiving half.  A SACK that cannot be serialised is not sent. -/
def ackStep (s : AckState) : AckEvent → Option AckState
  | .arrive chunks =>
    some (if wrongInit chunks then s
      else { s with receiver := { s.receiver with sackHasNewDataInPacket := false }
        }.handleChunks chunks)
  | .resume i => (s.handlers[i]?).map fun handler =>
    { s with handlers := s.handlers.eraseIdx i }.handleChunks handler.rest
  | .throw i => (s.handlers[i]?).bind fun handler =>
    if handler.mayThrow then some { s with handlers := s.handlers.eraseIdx i } else none
  | .timeout =>
    if s.sackTimeout then some { s with sackTimeout := false }.sendSack else none
  | .sent i ok => (s.sending[i]?).bind fun sack =>
    if ok && sack.chunk.bytes.isNone then none
    else
      some { s with
        sending := s.sending.eraseIdx i
        sent := if ok then s.sent ++ [sack] else s.sent }.clearSack

/-! ## The obligation -/

/-- One of the SACKs was built after the `i`-th TSN was recorded, and reports it if it was a
duplicate. -/
def Reported (sacks : List BuiltSack) (i : ℕ) (r : Record) : Prop :=
  ∃ b ∈ sacks, i < b.recorded ∧ (r.duplicate = true → r.tsn ∈ b.chunk.duplicates)

/-- A SACK is still asked for, it will list the TSN if that was a duplicate, and the timer or the end
of a packet will send it. -/
def Pending (s : AckState) (r : Record) : Prop :=
  s.receiver.sackNeeded = true ∧ (s.sackTimeout = true ∨ s.handlers ≠ []) ∧
    (r.duplicate = true → r.tsn ∈ s.receiver.received.sackDuplicates)

/-- Every TSN that has been recorded is in a SACK that is being sent or has been sent, or a SACK for
it is pending. -/
def Acknowledged (s : AckState) : Prop :=
  ∀ (i : ℕ) (r : Record), s.recorded[i]? = some r →
    Reported (s.sent ++ s.sending) i r ∨ Pending s r

/-- All that has been recorded is in one of the SACKs. -/
def AllReported (sacks : List BuiltSack) (recorded : List Record) : Prop :=
  ∀ (i : ℕ) (r : Record), recorded[i]? = some r → Reported sacks i r

/-- The duplicates that no SACK has reported yet lie beyond a TSN. -/
def DuplicatesBeyond (s : AckState) (tsn : ℤ) : Prop :=
  ∀ (i : ℕ) (r : Record), s.recorded[i]? = some r → r.duplicate = true →
    Reported (s.sent ++ s.sending) i r ∨ uint32Gt r.tsn tsn = true

/-- What is asked of the state in which the loop of `handleData` goes on.  A new TSN or a FORWARD
TSN moves the cumulative TSN over no duplicate that is still to be reported, and when the reassembly
throws, something else will send the SACK. -/
def KeepsChunk (s : AckState) : List PacketChunk → Prop
  | .data chunk :: _ => (markReceived s.receiver.received chunk.tsn).1 = false →
      DuplicatesBeyond s (markReceived s.receiver.received chunk.tsn).2.lastReceivedTsn ∧
      ((s.receiver.getInboundStream chunk.streamId).addChunk chunk = none →
        s.sackTimeout = true ∨ s.handlers ≠ [])
  | .forwardTsn chunk :: _ =>
    uint32Gte s.receiver.received.lastReceivedTsn chunk.cumulativeTsn = true ∨
      DuplicatesBeyond s (s.receiver.received.forward chunk.cumulativeTsn).lastReceivedTsn
  | _ => True

/-- The steps that lose no obligation.  `sendSack` clears the flags while every TSN is in a SACK that
is not the one that could not be sent; a handler throws while every TSN is in a SACK, or the timer or
another packet will send one. -/
def KeepsObligation (s : AckState) : AckEvent → Prop
  | .arrive chunks => wrongInit chunks = false → KeepsChunk s chunks
  | .resume i => ∀ handler, s.handlers[i]? = some handler →
      KeepsChunk { s with handlers := s.handlers.eraseIdx i } handler.rest
  | .throw i => AllReported (s.sent ++ s.sending) s.recorded ∨ s.sackTimeout = true ∨
      s.handlers.eraseIdx i ≠ []
  | .timeout => True
  | .sent i ok => AllReported (s.sent ++ if ok then s.sending else s.sending.eraseIdx i) s.recorded

/-! ## What the sections preserve -/

/-- A SACK is asked for as long as something is not in a SACK, and it will list the duplicates. -/
def Noted (s : AckState) : Prop :=
  ∀ (i : ℕ) (r : Record), s.recorded[i]? = some r → Reported (s.sent ++ s.sending) i r ∨
    s.receiver.sackNeeded = true ∧
      (r.duplicate = true → r.tsn ∈ s.receiver.received.sackDuplicates)

lemma acknowledged_iff {s : AckState} : Acknowledged s ↔ Noted s ∧
    (AllReported (s.sent ++ s.sending) s.recorded ∨ s.sackTimeout = true ∨ s.handlers ≠ []) := by
  constructor
  · intro h
    refine ⟨fun i r hr => (h i r hr).imp id fun hp => ⟨hp.1, hp.2.2⟩, ?_⟩
    by_cases hall : AllReported (s.sent ++ s.sending) s.recorded
    · exact Or.inl hall
    · simp only [AllReported, not_forall] at hall
      obtain ⟨i, r, hr, hnot⟩ := hall
      exact Or.inr ((h i r hr).resolve_left hnot).2.1
  · rintro ⟨hnoted, hpending⟩ i r hr
    rcases hpending with hall | hpending
    · exact Or.inl (hall i r hr)
    · exact (hnoted i r hr).imp id fun h => ⟨h.1, hpending, h.2⟩

lemma AllReported.noted {s : AckState} (h : AllReported (s.sent ++ s.sending) s.recorded) :
    Noted s := fun i r hr => Or.inl (h i r hr)

lemma AllReported.acknowledged {s : AckState}
    (h : AllReported (s.sent ++ s.sending) s.recorded) : Acknowledged s :=
  acknowledged_iff.mpr ⟨h.noted, Or.inl h⟩

/-- What `Noted` depends on. -/
lemma Noted.congr {s s' : AckState} (h : Noted s) (hsent : s'.sent = s.sent)
    (hsending : s'.sending = s.sending) (hrecorded : s'.recorded = s.recorded)
    (hneeded : s'.receiver.sackNeeded = s.receiver.sackNeeded)
    (hdup : s'.receiver.received.sackDuplicates = s.receiver.received.sackDuplicates) :
    Noted s' := by
  unfold Noted at h ⊢
  rwa [hsent, hsending, hrecorded, hneeded, hdup]

/-- After `sendSack` has built its SACK everything is in a SACK. -/
lemma Noted.sendSack {s : AckState} (h : Noted s) :
    AllReported (s.sendSack.sent ++ s.sendSack.sending) s.sendSack.recorded := by
  unfold AckState.sendSack
  split_ifs with hneeded
  · intro i r hr
    rcases h i r hr with ⟨b, hb, hlt, hdup⟩ | ⟨-, hdup⟩
    · refine ⟨b, ?_, hlt, hdup⟩
      dsimp only
      rw [← List.append_assoc]
      exact List.mem_append_left _ hb
    · refine ⟨_, List.mem_append_right _ (List.mem_append_right _ List.mem_cons_self), ?_, hdup⟩
      exact (List.getElem?_eq_some_iff.mp hr).1
  · intro i r hr
    exact (h i r hr).resolve_right fun hp => hneeded hp.1

/-- `scheduleSack` sends a SACK or starts the timer. -/
lemma Noted.scheduleSack {s : AckState} (h : Noted s) : Acknowledged s.scheduleSack := by
  unfold AckState.scheduleSack
  split_ifs with hneeded himmediate
  · refine AllReported.acknowledged fun i r hr => (h i r hr).resolve_right fun hp => ?_
    simp [hp.1] at hneeded
  · exact AllReported.acknowledged
      (Noted.sendSack (s := { s with sackTimeout := false }) (h.congr rfl rfl rfl rfl rfl))
  · exact acknowledged_iff.mpr ⟨h.congr rfl rfl rfl rfl rfl, Or.inr (Or.inl rfl)⟩

/-- So does the end of a packet. -/
lemma Noted.finishPacket {s : AckState} (h : Noted s) : Acknowledged s.finishPacket := by
  unfold AckState.finishPacket
  by_cases hneeded : s.receiver.sackNeeded = true
  · rw [if_pos hneeded]
    exact Noted.scheduleSack (h.congr rfl rfl rfl rfl rfl)
  · rw [if_neg hneeded]
    exact AllReported.acknowledged fun i r hr => (h i r hr).resolve_right fun hp => hneeded hp.1

/-- `markReceived` adds a duplicate to the list. -/
lemma sackDuplicates_of_duplicate {s : ReceivedTsns} {tsn : ℤ} (h : (markReceived s tsn).1 = true) :
    (markReceived s tsn).2.sackDuplicates = s.sackDuplicates ++ [tsn] := by
  unfold markReceived at h ⊢
  split_ifs at h ⊢
  rfl

/-- For a new TSN `markReceived` keeps the duplicates beyond the cumulative TSN. -/
lemma sackDuplicates_of_new {s : ReceivedTsns} {tsn : ℤ} (h : (markReceived s tsn).1 = false) :
    (markReceived s tsn).2.sackDuplicates =
      s.sackDuplicates.filter fun x => uint32Gt x (markReceived s tsn).2.lastReceivedTsn := by
  unfold markReceived at h ⊢
  split_ifs at h ⊢
  rfl

/-- A handler that asks for a SACK and keeps the duplicates that are still to be reported keeps
`Noted`; so does recording one more TSN. -/
lemma Noted.receive {s s' : AckState} (h : Noted s) (hsent : s'.sent = s.sent)
    (hsending : s'.sending = s.sending) (hneeded : s'.receiver.sackNeeded = true)
    (hkept : ∀ (i : ℕ) (r : Record), s.recorded[i]? = some r → r.duplicate = true →
      r.tsn ∈ s.receiver.received.sackDuplicates → Reported (s.sent ++ s.sending) i r ∨
        r.tsn ∈ s'.receiver.received.sackDuplicates)
    (hrecorded : s'.recorded = s.recorded ∨ ∃ r, s'.recorded = s.recorded ++ [r] ∧
      (r.duplicate = true → r.tsn ∈ s'.receiver.received.sackDuplicates)) : Noted s' := by
  have hold : ∀ (i : ℕ) (r : Record), s.recorded[i]? = some r →
      Reported (s'.sent ++ s'.sending) i r ∨ s'.receiver.sackNeeded = true ∧
        (r.duplicate = true → r.tsn ∈ s'.receiver.received.sackDuplicates) := by
    intro i r hr
    rw [hsent, hsending]
    rcases h i r hr with hrep | ⟨-, hdup⟩
    · exact Or.inl hrep
    · cases hd : r.duplicate with
      | true => exact (hkept i r hr hd (hdup hd)).imp id fun hin => ⟨hneeded, fun _ => hin⟩
      | false => exact Or.inr ⟨hneeded, fun hfalse => by cases hfalse⟩
  rcases hrecorded with heq | ⟨r', heq, hr'⟩
  · unfold Noted
    rwa [heq]
  · intro i r hr
    rw [heq, List.getElem?_append] at hr
    split_ifs at hr with hlt
    · exact hold i r hr
    · obtain rfl : r' = r := by
        rw [List.getElem?_singleton] at hr
        split_ifs at hr
        exact Option.some.inj hr
      exact Or.inr ⟨hneeded, hr'⟩

lemma receiveDataChunk_received (s : Receiver) (chunk : DataChunk) :
    (s.receiveDataChunk chunk).receiver.received = (markReceived s.received chunk.tsn).2 ∧
      (s.receiveDataChunk chunk).receiver.sackNeeded = true := by
  unfold Receiver.receiveDataChunk
  split_ifs
  · exact ⟨rfl, rfl⟩
  · dsimp only
    split <;> exact ⟨rfl, rfl⟩

/-- The streams of a FORWARD TSN do not touch the record of the TSNs. -/
lemma forwardStreams_received (r : Receipt) (streams : List (ℕ × ℤ)) :
    (streams.foldl Receiver.forwardStream r).receiver.received = r.receiver.received ∧
      (streams.foldl Receiver.forwardStream r).receiver.sackNeeded = r.receiver.sackNeeded := by
  induction streams generalizing r with
  | nil => exact ⟨rfl, rfl⟩
  | cons stream streams ih => exact ih (Receiver.forwardStream r stream)

lemma receiveForwardTsnChunk_received (s : Receiver) (chunk : ForwardTsnChunk) :
    (s.receiveForwardTsnChunk chunk).receiver.sackNeeded = true ∧
      (s.receiveForwardTsnChunk chunk).receiver.received =
        if uint32Gte s.received.lastReceivedTsn chunk.cumulativeTsn then s.received
        else s.received.forward chunk.cumulativeTsn := by
  unfold Receiver.receiveForwardTsnChunk
  dsimp only
  split_ifs
  · exact ⟨rfl, rfl⟩
  · exact ⟨(forwardStreams_received _ chunk.streams).2, (forwardStreams_received _ chunk.streams).1⟩

/-- **One chunk** keeps what has been noted. -/
lemma Noted.receiveChunk {s : AckState} {chunk : PacketChunk} {rest : List PacketChunk}
    (h : Noted s) (hkeeps : KeepsChunk s (chunk :: rest)) : Noted (s.receiveChunk chunk).1 := by
  cases chunk with
  | data chunk =>
    obtain ⟨hreceived, hneeded⟩ := receiveDataChunk_received s.receiver chunk
    cases hdup : (markReceived s.receiver.received chunk.tsn).1 with
    | true =>
      have hlist := sackDuplicates_of_duplicate hdup
      refine h.receive rfl rfl hneeded (fun i r _ _ hin => Or.inr ?_)
        (Or.inr ⟨_, rfl, fun _ => ?_⟩)
      · exact hreceived ▸ hlist ▸ List.mem_append_left _ hin
      · exact hreceived ▸ hlist ▸ List.mem_append_right _ List.mem_cons_self
    | false =>
      have hlist := sackDuplicates_of_new hdup
      refine h.receive rfl rfl hneeded (fun i r hr hd hin => ?_)
        (Or.inr ⟨_, rfl, fun hfalse => by rw [hdup] at hfalse; cases hfalse⟩)
      refine ((hkeeps hdup).1 i r hr hd).imp id fun hgt => ?_
      exact hreceived ▸ hlist ▸ List.mem_filter.mpr ⟨hin, hgt⟩
  | forwardTsn chunk =>
    obtain ⟨hneeded, hreceived⟩ := receiveForwardTsnChunk_received s.receiver chunk
    refine h.receive rfl rfl hneeded (fun i r hr hd hin => ?_) (Or.inl rfl)
    have heq : (s.receiveChunk (.forwardTsn chunk)).1.receiver.received = _ := hreceived
    rw [heq]
    split_ifs with hgte
    · exact Or.inr hin
    · refine ((hkeeps.resolve_left hgte) i r hr hd).imp id fun hgt => ?_
      exact List.mem_filter.mpr ⟨hin, hgt⟩
  | init initialTsn => exact h.congr rfl rfl rfl rfl rfl
  | other => exact h

/-- Only the reassembly of a new DATA chunk throws. -/
lemma receiveChunk_thrown {s : AckState} {chunk : PacketChunk} {rest : List PacketChunk}
    (hkeeps : KeepsChunk s (chunk :: rest)) (h : (s.receiveChunk chunk).2 = true) :
    s.sackTimeout = true ∨ s.handlers ≠ [] := by
  cases chunk with
  | data chunk =>
    have hthrown : (s.receiver.receiveDataChunk chunk).thrown = true := h
    unfold Receiver.receiveDataChunk at hthrown
    split_ifs at hthrown with hdup
    · have hget : (s.receiver.recordNewChunk chunk).getInboundStream chunk.streamId =
          s.receiver.getInboundStream chunk.streamId := rfl
      dsimp only at hthrown
      rw [hget] at hthrown
      refine (hkeeps (by simpa using hdup)).2 ?_
      cases hadd : (s.receiver.getInboundStream chunk.streamId).addChunk chunk with
      | none => rfl
      | some stream =>
        rw [hadd] at hthrown
        cases hthrown
  | forwardTsn chunk => cases h
  | init initialTsn => cases h
  | other => cases h

/-- **The loop of `handleData`**, up to its next await, keeps the obligations. -/
lemma Noted.handleChunks {s : AckState} {chunks : List PacketChunk} (h : Noted s)
    (hkeeps : KeepsChunk s chunks) : Acknowledged (s.handleChunks chunks) := by
  cases chunks with
  | nil => exact h.finishPacket
  | cons chunk rest =>
    have hnoted := h.receiveChunk hkeeps
    rw [AckState.handleChunks]
    dsimp only
    split_ifs with hthrown
    · have hsame : (s.receiveChunk chunk).1.sackTimeout = s.sackTimeout ∧
          (s.receiveChunk chunk).1.handlers = s.handlers := by cases chunk <;> exact ⟨rfl, rfl⟩
      refine acknowledged_iff.mpr ⟨hnoted, Or.inr ?_⟩
      rw [hsame.1, hsame.2]
      exact receiveChunk_thrown hkeeps hthrown
    · exact acknowledged_iff.mpr ⟨hnoted.congr rfl rfl rfl rfl rfl, Or.inr (Or.inr (by simp))⟩

/-- **One step** keeps the obligations. -/
lemma acknowledged_step {s s' : AckState} {e : AckEvent} (h : Acknowledged s)
    (hkeeps : KeepsObligation s e) (hs : ackStep s e = some s') : Acknowledged s' := by
  obtain ⟨hnoted, hpending⟩ := acknowledged_iff.mp h
  cases e with
  | arrive chunks =>
    obtain rfl := Option.some.inj hs
    cases hwrong : wrongInit chunks with
    | true => exact h
    | false => exact Noted.handleChunks (hnoted.congr rfl rfl rfl rfl rfl) (hkeeps hwrong)
  | resume i =>
    obtain ⟨handler, hhandler, rfl⟩ := Option.map_eq_some_iff.mp hs
    exact Noted.handleChunks (hnoted.congr rfl rfl rfl rfl rfl) (hkeeps handler hhandler)
  | throw i =>
    obtain ⟨handler, hhandler, hs⟩ := Option.bind_eq_some_iff.mp hs
    obtain ⟨-, hs⟩ := Option.ite_none_right_eq_some.mp hs
    obtain rfl := Option.some.inj hs
    exact acknowledged_iff.mpr ⟨hnoted.congr rfl rfl rfl rfl rfl, hkeeps⟩
  | timeout =>
    obtain ⟨-, hs⟩ := Option.ite_none_right_eq_some.mp hs
    obtain rfl := Option.some.inj hs
    exact AllReported.acknowledged
      (Noted.sendSack (s := { s with sackTimeout := false }) (hnoted.congr rfl rfl rfl rfl rfl))
  | sent i ok =>
    obtain ⟨sack, hsack, hs⟩ := Option.bind_eq_some_iff.mp hs
    obtain ⟨-, hs⟩ := Option.ite_none_left_eq_some.mp hs
    obtain rfl := Option.some.inj hs
    refine AllReported.acknowledged fun k r hr => ?_
    obtain ⟨b, hb, hb'⟩ := hkeeps k r hr
    refine ⟨b, ?_, hb'⟩
    cases ok with
    | false => exact hb
    | true =>
      have hperm : (sack :: s.sending.eraseIdx i).Perm s.sending := by
        obtain ⟨hi, rfl⟩ := List.getElem?_eq_some_iff.mp hsack
        exact List.getElem_cons_eraseIdx_perm hi
      rcases List.mem_append.mp hb with hb | hb
      · exact List.mem_append_left _ (List.mem_append_left _ hb)
      · rcases List.mem_cons.mp (hperm.mem_iff.mpr hb) with rfl | hb
        · exact List.mem_append_left _ (List.mem_append_right _ List.mem_cons_self)
        · exact List.mem_append_right _ hb

/-! ## Every run -/

/-- The receiving half of a new association. -/
def initialAckState (lastReceivedTsn : ℤ) : AckState :=
  { receiver := { received := { lastReceivedTsn } } }

/-- **Every accepted DATA chunk is acknowledged**, in every run whose steps lose no obligation. -/
theorem sack_acknowledged (lastReceivedTsn : ℤ) {s : AckState}
    (hrun : Run ackStep KeepsObligation (initialAckState lastReceivedTsn) s) : Acknowledged s :=
  hrun.invariant Acknowledged (fun _ _ hr => by cases hr)
    fun _ _ _ h hkeeps hs => acknowledged_step h hkeeps hs

/-- A message in one chunk. -/
def wholeMessage (tsn : ℤ) : DataChunk where
  flags := SCTP_DATA_FIRST_FRAG ||| SCTP_DATA_LAST_FRAG
  tsn := tsn
  streamSeqNum := tsn - 1
  userData := [0]

/-- One packet arrives, and its SACK is sent. -/
def onePacket : List AckEvent := [.arrive [.data (wholeMessage 1)], .resume 0, .sent 0 true]

theorem sack_acknowledged_onePacket :
    ∃ s, onePacket.foldlM ackStep (initialAckState 0) = some s ∧ Acknowledged s := by
  refine ⟨_, rfl, sack_acknowledged 0 (((Run.start.next (e := .arrive [.data (wholeMessage 1)]) ?_
    rfl).next (e := .resume 0) ?_ rfl).next (e := .sent 0 true) ?_ rfl)⟩
  · exact fun _ _ => ⟨fun i r hr => absurd hr (by simp [initialAckState]), fun hthrown => by
      cases hthrown⟩
  · rintro handler hhandler
    obtain rfl := Option.some.inj hhandler
    trivial
  · intro i r hr
    have hi : i < 1 := (List.getElem?_eq_some_iff.mp hr).1
    obtain rfl : i = 0 := by omega
    obtain rfl := Option.some.inj hr
    exact ⟨_, List.mem_cons_self, Nat.zero_lt_one, fun hdup => by cases hdup⟩

/-- **The defect.**  While the SACK for TSN 1 is being sent, a packet with TSN 2 and a second chunk
arrives.  When the SACK has been sent, the flags are cleared, and the end of the second packet finds
nothing to do: TSN 2 is recorded, and nothing is left that would acknowledge it. -/
theorem sack_lost : ∃ s, Reachable ackStep (initialAckState 0) s ∧ ¬ Acknowledged s ∧
    s.receiver.received.lastReceivedTsn = 2 ∧ s.sent.map (fun b => b.chunk.cumulativeTsn) = [1] ∧
    s.sending.length = 0 ∧ s.handlers.length = 0 ∧ s.sackTimeout = false := by
  refine ⟨_, reachable_of_foldlM (rfl : [AckEvent.arrive [.data (wholeMessage 1)], .resume 0,
    .arrive [.data (wholeMessage 2), .other], .sent 0 true, .resume 0, .resume 0].foldlM _ _ = _),
    ?_, rfl, rfl, rfl, rfl, rfl⟩
  intro h
  rcases h 1 ⟨2, false⟩ rfl with ⟨b, hb, hlt, -⟩ | ⟨hneeded, -⟩
  · obtain rfl := List.mem_singleton.mp hb
    exact absurd hlt (lt_irrefl 1)
  · cases hneeded

end Werift.Sctp
