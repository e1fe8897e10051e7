import Werift.Lib.Transition
import Werift.Sctp.Receiver

/-!
# The receive window

`advertisedRwnd` starts at 1048576 bytes, shrinks with every chunk that is put into a reassembly
list and grows when bytes leave one.  `Accounted` says that the window and the bytes in the lists
together are the initial window.

Scanning, pruning and FORWARD TSNs keep the account.  A chunk that `addChunk` neither inserts nor
rejects is charged all the same, and the streams that a reset deletes take their bytes with them:
`accounted_iff` says that nothing else upsets the account.
-/

namespace Werift.Sctp

open Queue Transition

/-- The bytes in the reassembly list under a stream id. -/
def heldBytes (s : Receiver) (id : ℕ) : ℕ :=
  (s.inboundStreams id).elim 0 fun stream => userDataLength stream.reassembly

/-- The bytes in the reassembly lists of all inbound streams. -/
def totalHeldBytes (s : Receiver) : ℕ := ∑ id ∈ streamIds, heldBytes s id

/-- The window together with the bytes that are held. -/
def account (s : Receiver) : ℤ := s.advertisedRwnd + totalHeldBytes s

/-- The window and the bytes that are held are the initial window. -/
def Accounted (s : Receiver) : Prop := account s = 1048576

/-- What happens to the receiving half. -/
inductive ReceiverEvent
  | data (chunk : DataChunk)
  | forwardTsn (chunk : ForwardTsnChunk)
  | reset (streams : List ℕ)

/-- The stream ids that an event names. -/
def ReceiverEvent.ids : ReceiverEvent → List ℕ
  | .data chunk => [chunk.streamId]
  | .forwardTsn chunk => chunk.streams.map Prod.fst
  | .reset streams => streams

/-- The handler of an event.  The ids of a chunk are two bytes wide. -/
def receiverStep (s : Receiver) (e : ReceiverEvent) : Option Receiver :=
  if ∀ id ∈ e.ids, id < 0x10000 then
    match e with
    | .data chunk => some (s.receiveDataChunk chunk).receiver
    | .forwardTsn chunk => some (s.receiveForwardTsnChunk chunk).receiver
    | .reset streams => some (s.deleteStreams streams)
  else none

/-! ## The bytes of one stream -/

/-- The scan of `popMessages` loses no bytes. -/
lemma userDataLength_popLoop (before message : List DataChunk) (scan : Option Scan) (ssn : ℤ)
    (rest : List DataChunk) :
    messagesLength (popLoop before message scan ssn rest).1 +
        userDataLength (popLoop before message scan ssn rest).2.reassembly =
      userDataLength before + userDataLength message + userDataLength rest := by
  induction rest generalizing before message scan ssn with
  | nil => simp [popLoop]
  | cons chunk rest ih =>
    rw [popLoop]
    cases verdict scan ssn chunk with
    | stop =>
      simp
      omega
    | skip =>
      have h := ih (before ++ message ++ [chunk]) [] none ssn
      simp at h ⊢
      omega
    | take s =>
      dsimp only
      split_ifs
      · have h := ih before [] (some { s with expectedTsn := tsnPlusOne s.expectedTsn })
          (nextStreamSequenceNumber s ssn chunk)
        simp at h ⊢
        omega
      · have h := ih before (message ++ [chunk])
          (some { s with expectedTsn := tsnPlusOne s.expectedTsn }) ssn
        simp at h ⊢
        omega

lemma userDataLength_popMessages (s : InboundStream) :
    messagesLength s.popMessages.1 + userDataLength s.popMessages.2.reassembly =
      userDataLength s.reassembly := by
  have h := userDataLength_popLoop [] [] none s.streamSequenceNumber s.reassembly
  simpa [InboundStream.popMessages] using h

/-- `pruneChunks` reports what it gives up. -/
lemma userDataLength_pruneChunks (s : InboundStream) (tsn : ℤ) :
    (s.pruneChunks tsn).1 + userDataLength (s.pruneChunks tsn).2.reassembly =
      userDataLength s.reassembly := total_takeWhile_add _ _ _

/-- `addChunk` finds no place for the chunk: it is neither ahead of the last one, nor equal to one
of the list, nor behind one of them. -/
def Dropped (s : InboundStream) (chunk : DataChunk) : Prop :=
  (s.reassembly.getLast?.any fun last => !uint32Gt chunk.tsn last.tsn) = true ∧
    ∀ v ∈ s.reassembly, v.tsn ≠ chunk.tsn ∧ uint32Gt v.tsn chunk.tsn = false

instance (s : InboundStream) (chunk : DataChunk) : Decidable (Dropped s chunk) :=
  inferInstanceAs (Decidable (_ ∧ _))

/-- The loop of `addChunk` inserts the chunk or finds no place for it. -/
lemma userDataLength_insertChunk {chunk : DataChunk} {l l' : List DataChunk}
    (h : insertChunk chunk l = some l') :
    userDataLength l' = userDataLength l +
      if ∀ v ∈ l, v.tsn ≠ chunk.tsn ∧ uint32Gt v.tsn chunk.tsn = false then 0
      else chunk.userData.length := by
  induction l generalizing l' with
  | nil =>
    obtain rfl : [] = l' := Option.some.inj h
    simp
  | cons v rest ih =>
    rw [insertChunk] at h
    split_ifs at h with heq hgt
    · obtain rfl := Option.some.inj h
      simp [hgt]
      omega
    · obtain ⟨l₁, hl₁, rfl⟩ := Option.map_eq_some_iff.mp h
      have := ih hl₁
      simp [heq, hgt] at this ⊢
      omega

lemma userDataLength_addChunk {s s' : InboundStream} {chunk : DataChunk}
    (h : s.addChunk chunk = some s') :
    userDataLength s'.reassembly = userDataLength s.reassembly +
      if Dropped s chunk then 0 else chunk.userData.length := by
  unfold InboundStream.addChunk at h
  cases hlast : s.reassembly.getLast? with
  | none =>
    rw [hlast] at h
    obtain rfl := Option.some.inj h
    simp [Dropped, hlast]
  | some last =>
    rw [hlast] at h
    dsimp only at h
    split_ifs at h with hgt
    · obtain rfl := Option.some.inj h
      simp [Dropped, hlast, hgt]
    · obtain ⟨l, hl, rfl⟩ := Option.map_eq_some_iff.mp h
      rw [userDataLength_insertChunk hl]
      simp [Dropped, hlast, hgt]

/-! ## The account -/

/-- What the account depends on. -/
lemma account_congr {s s' : Receiver} (hstreams : s'.inboundStreams = s.inboundStreams)
    (hrwnd : s'.advertisedRwnd = s.advertisedRwnd) : account s' = account s := by
  unfold account totalHeldBytes heldBytes
  rw [hstreams, hrwnd]

lemma heldBytes_getInboundStream (s : Receiver) (id : ℕ) :
    userDataLength (s.getInboundStream id).reassembly = heldBytes s id := by
  unfold Receiver.getInboundStream heldBytes
  cases s.inboundStreams id <;> rfl

/-- Storing a stream exchanges its bytes for the ones that were held under its id. -/
lemma totalHeldBytes_set {s : Receiver} {id : ℕ} (hid : id ∈ streamIds) (stream : InboundStream) :
    totalHeldBytes (s.setInboundStream id stream) + heldBytes s id =
      totalHeldBytes s + userDataLength stream.reassembly := by
  have hother : ∀ i ∈ streamIds.erase id,
      heldBytes (s.setInboundStream id stream) i = heldBytes s i := by
    intro i hi
    have hne : i ≠ id := Finset.ne_of_mem_erase hi
    simp [heldBytes, Receiver.setInboundStream, hne]
  have hself : heldBytes (s.setInboundStream id stream) id = userDataLength stream.reassembly := by
    simp [heldBytes, Receiver.setInboundStream]
  unfold totalHeldBytes
  rw [← Finset.add_sum_erase _ _ hid, ← Finset.add_sum_erase _ (heldBytes s) hid,
    Finset.sum_congr rfl hother, hself]
  ring

lemma account_set {s : Receiver} {id : ℕ} (hid : id ∈ streamIds) (stream : InboundStream) :
    account (s.setInboundStream id stream) + heldBytes s id =
      account s + userDataLength stream.reassembly := by
  have hset := totalHeldBytes_set (s := s) hid stream
  have hrwnd : (s.setInboundStream id stream).advertisedRwnd = s.advertisedRwnd := rfl
  unfold account
  rw [hrwnd]
  omega

/-- Delivering messages of a stream moves bytes from its list back to the window. -/
lemma account_deliver {s : Receiver} {id : ℕ} (hid : id ∈ streamIds) (stream : InboundStream) :
    account (s.deliver id stream).receiver + heldBytes s id =
      account s + userDataLength stream.reassembly := by
  have hset := totalHeldBytes_set (s := s) hid stream.popMessages.2
  have hpop := userDataLength_popMessages stream
  have htotal : totalHeldBytes (s.deliver id stream).receiver =
      totalHeldBytes (s.setInboundStream id stream.popMessages.2) := rfl
  have hrwnd : (s.deliver id stream).receiver.advertisedRwnd =
      s.advertisedRwnd + messagesLength stream.popMessages.1 := rfl
  unfold account
  rw [htotal, hrwnd]
  omega

/-- A FORWARD TSN changes no list before it scans it. -/
lemma account_forwardStream {r : Receipt} {stream : ℕ × ℤ} (hid : stream.1 ∈ streamIds) :
    account (Receiver.forwardStream r stream).receiver = account r.receiver := by
  have h : account (Receiver.forwardStream r stream).receiver + heldBytes r.receiver stream.1 =
      account r.receiver + userDataLength (r.receiver.getInboundStream stream.1).reassembly :=
    account_deliver hid _
  rw [heldBytes_getInboundStream] at h
  exact add_right_cancel h

lemma account_forwardStreams {r : Receipt} {streams : List (ℕ × ℤ)}
    (hids : ∀ stream ∈ streams, stream.1 ∈ streamIds) :
    account (streams.foldl Receiver.forwardStream r).receiver = account r.receiver := by
  induction streams generalizing r with
  | nil => rfl
  | cons stream streams ih =>
    rw [List.foldl_cons, ih fun a ha => hids a (List.mem_cons_of_mem _ ha)]
    exact account_forwardStream (hids stream List.mem_cons_self)

/-- Pruning gives the pruned bytes back. -/
lemma account_prune (s : Receiver) : account s.prune = account s := by
  have hsum : ∀ id ∈ streamIds, heldBytes s id = s.prunedBytes id + heldBytes s.prune id := by
    intro id _
    cases h : s.inboundStreams id with
    | none => simp [heldBytes, Receiver.prunedBytes, Receiver.prune, Receiver.prunedStream, h]
    | some stream =>
      have hprune := userDataLength_pruneChunks stream s.received.lastReceivedTsn
      simpa [heldBytes, Receiver.prunedBytes, Receiver.prune, Receiver.prunedStream, h] using
        hprune.symm
  have htotal : totalHeldBytes s = ∑ id ∈ streamIds, s.prunedBytes id + totalHeldBytes s.prune := by
    rw [totalHeldBytes, totalHeldBytes, ← Finset.sum_add_distrib]
    exact Finset.sum_congr rfl hsum
  have hrwnd : s.prune.advertisedRwnd =
      s.advertisedRwnd + ∑ id ∈ streamIds, (s.prunedBytes id : ℤ) := rfl
  rw [account, account, hrwnd, htotal]
  push_cast
  ring

/-- **A FORWARD TSN** keeps the account. -/
lemma account_receiveForwardTsnChunk {s : Receiver} {chunk : ForwardTsnChunk}
    (hids : ∀ stream ∈ chunk.streams, stream.1 ∈ streamIds) :
    account (s.receiveForwardTsnChunk chunk).receiver = account s := by
  unfold Receiver.receiveForwardTsnChunk
  dsimp only
  split_ifs
  · exact account_congr rfl rfl
  · rw [account_prune, account_forwardStreams hids]
    exact account_congr rfl rfl

/-- Deleting streams takes the bytes that they hold out of the account. -/
lemma account_deleteStreams {s : Receiver} {streams : List ℕ}
    (hids : ∀ id ∈ streams, id ∈ streamIds) :
    account (s.deleteStreams streams) + ∑ id ∈ streams.toFinset, heldBytes s id = account s := by
  have hsub : streams.toFinset ⊆ streamIds := fun id hid => hids id (List.mem_toFinset.mp hid)
  have hin : ∑ id ∈ streams.toFinset, heldBytes (s.deleteStreams streams) id = 0 := by
    refine Finset.sum_eq_zero fun id hid => ?_
    simp [heldBytes, Receiver.deleteStreams, List.mem_toFinset.mp hid]
  have hout : ∀ id ∈ streamIds \ streams.toFinset,
      heldBytes (s.deleteStreams streams) id = heldBytes s id := by
    intro id hid
    have hnot : id ∉ streams := fun h => (Finset.mem_sdiff.mp hid).2 (List.mem_toFinset.mpr h)
    simp [heldBytes, Receiver.deleteStreams, hnot]
  have htotal : totalHeldBytes (s.deleteStreams streams) +
      ∑ id ∈ streams.toFinset, heldBytes s id = totalHeldBytes s := by
    unfold totalHeldBytes
    rw [← Finset.sum_sdiff hsub, ← Finset.sum_sdiff (f := heldBytes s) hsub, hin,
      Finset.sum_congr rfl hout]
    ring
  have hrwnd : (s.deleteStreams streams).advertisedRwnd = s.advertisedRwnd := rfl
  unfold account
  rw [hrwnd, ← htotal]
  push_cast
  ring

/-- The bytes that a DATA chunk is charged for without being put into a list. -/
def chargedOnly (s : Receiver) (chunk : DataChunk) : ℕ :=
  if (markReceived s.received chunk.tsn).1 = false ∧
    Dropped (s.getInboundStream chunk.streamId) chunk then chunk.userData.length else 0

/-- A chunk that is rejected is equal to one of the list. -/
lemma exists_eq_of_insertChunk {chunk : DataChunk} {l : List DataChunk}
    (h : insertChunk chunk l = none) : ∃ v ∈ l, v.tsn = chunk.tsn := by
  induction l with
  | nil => cases h
  | cons v rest ih =>
    rw [insertChunk] at h
    split_ifs at h with heq
    · exact ⟨v, List.mem_cons_self, heq⟩
    · obtain ⟨w, hw, heq⟩ := ih (Option.map_eq_none_iff.mp h)
      exact ⟨w, List.mem_cons_of_mem _ hw, heq⟩

/-- A chunk that `addChunk` rejects is not one that it drops. -/
lemma not_dropped_of_thrown {s : InboundStream} {chunk : DataChunk} (h : s.addChunk chunk = none) :
    ¬ Dropped s chunk := by
  unfold InboundStream.addChunk at h
  cases hlast : s.reassembly.getLast? with
  | none => simp [hlast] at h
  | some last =>
    rw [hlast] at h
    dsimp only at h
    split_ifs at h
    obtain ⟨v, hv, heq⟩ := exists_eq_of_insertChunk (Option.map_eq_none_iff.mp h)
    exact fun hdrop => (hdrop.2 v hv).1 heq

/-- **A DATA chunk** moves its bytes from the window to a list, unless it is dropped. -/
lemma account_receiveDataChunk {s : Receiver} {chunk : DataChunk}
    (hid : chunk.streamId ∈ streamIds) :
    account (s.receiveDataChunk chunk).receiver + chargedOnly s chunk = account s := by
  unfold Receiver.receiveDataChunk chargedOnly
  cases hdup : (markReceived s.received chunk.tsn).1 with
  | true =>
    rw [if_pos rfl, if_neg (by simp), Nat.cast_zero, add_zero]
    exact account_congr rfl rfl
  | false =>
    have hget : (s.recordNewChunk chunk).getInboundStream chunk.streamId =
        s.getInboundStream chunk.streamId := rfl
    have hheld := heldBytes_getInboundStream s chunk.streamId
    simp only [Bool.false_eq_true, if_false, hget, true_and]
    cases hadd : (s.getInboundStream chunk.streamId).addChunk chunk with
    | none =>
      have hset : account ((s.recordNewChunk chunk).setInboundStream chunk.streamId
          (s.getInboundStream chunk.streamId)) + heldBytes s chunk.streamId = account s +
            userDataLength (s.getInboundStream chunk.streamId).reassembly := account_set hid _
      rw [if_neg (not_dropped_of_thrown hadd)]
      dsimp only
      omega
    | some stream =>
      have hbytes := userDataLength_addChunk hadd
      have hcharge : account ((s.recordNewChunk chunk).takeWindow chunk.userData.length) =
          account s - chunk.userData.length := sub_add_eq_add_sub _ _ _
      have hdeliver := account_deliver
        (s := (s.recordNewChunk chunk).takeWindow chunk.userData.length) hid stream
      have hsame : heldBytes ((s.recordNewChunk chunk).takeWindow chunk.userData.length)
          chunk.streamId = heldBytes s chunk.streamId := rfl
      rw [hcharge, hsame] at hdeliver
      dsimp only
      by_cases hdrop : Dropped (s.getInboundStream chunk.streamId) chunk
      · rw [if_pos hdrop] at hbytes ⊢
        omega
      · rw [if_neg hdrop] at hbytes ⊢
        push_cast at hbytes hdeliver ⊢
        omega

/-! ## The account over a run -/

/-- A chunk is not charged without being held, and the streams that are deleted hold no bytes. -/
def KeepsAccount (s : Receiver) : ReceiverEvent → Prop
  | .data chunk => (markReceived s.received chunk.tsn).1 = true ∨
      ¬ Dropped (s.getInboundStream chunk.streamId) chunk ∨ chunk.userData = []
  | .forwardTsn _ => True
  | .reset streams => ∀ id ∈ streams, heldBytes s id = 0

instance (s : Receiver) : ∀ e, Decidable (KeepsAccount s e)
  | .data chunk => inferInstanceAs (Decidable ((markReceived s.received chunk.tsn).1 = true ∨
      ¬ Dropped (s.getInboundStream chunk.streamId) chunk ∨ chunk.userData = []))
  | .forwardTsn _ => isTrue trivial
  | .reset streams => inferInstanceAs (Decidable (∀ id ∈ streams, heldBytes s id = 0))

lemma chargedOnly_eq_zero_iff {s : Receiver} {chunk : DataChunk} :
    chargedOnly s chunk = 0 ↔ KeepsAccount s (.data chunk) := by
  unfold chargedOnly KeepsAccount
  split_ifs with h
  · simp [h]
  · simp only [true_iff]
    rw [not_and_or, Bool.not_eq_false] at h
    exact h.imp id Or.inl

/-- **One step** keeps the account exactly if no byte is charged or dropped without a counterpart. -/
lemma accounted_step_iff {s s' : Receiver} {e : ReceiverEvent} (h : Accounted s)
    (hs : receiverStep s e = some s') : Accounted s' ↔ KeepsAccount s e := by
  obtain ⟨hlt, hs⟩ := Option.ite_none_right_eq_some.mp hs
  have hids : ∀ id ∈ e.ids, id ∈ streamIds := fun id hid => Finset.mem_range.mpr (hlt id hid)
  unfold Accounted at h ⊢
  cases e with
  | data chunk =>
    obtain rfl := Option.some.inj hs
    have hacc := account_receiveDataChunk (s := s) (hids chunk.streamId List.mem_cons_self)
    rw [← chargedOnly_eq_zero_iff]
    omega
  | forwardTsn chunk =>
    obtain rfl := Option.some.inj hs
    refine iff_of_true ?_ trivial
    rw [account_receiveForwardTsnChunk fun stream hin => hids _ (List.mem_map_of_mem hin), h]
  | reset streams =>
    obtain rfl := Option.some.inj hs
    have hzero : ∑ id ∈ streams.toFinset, heldBytes s id = 0 ↔ ∀ id ∈ streams, heldBytes s id = 0 := by
      simp [Finset.sum_eq_zero_iff]
    have hdelete : account (s.deleteStreams streams) + (∑ id ∈ streams.toFinset, heldBytes s id : ℕ) =
        account s := account_deleteStreams hids
    have hacc : account (s.deleteStreams streams) = 1048576 ↔
        ∑ id ∈ streams.toFinset, heldBytes s id = 0 := by omega
    exact hacc.trans hzero

/-- The receiving half when the association is established. -/
def initialReceiver (lastReceivedTsn : ℤ) : Receiver := { received := { lastReceivedTsn } }

lemma accounted_initial (lastReceivedTsn : ℤ) : Accounted (initialReceiver lastReceivedTsn) := by
  have hzero : totalHeldBytes (initialReceiver lastReceivedTsn) = 0 :=
    Finset.sum_eq_zero fun _ _ => rfl
  rw [Accounted, account, hzero]
  rfl

/-- Without bytes in the lists the window is open. -/
lemma Accounted.window_open {s : Receiver} (h : Accounted s)
    (hempty : ∀ id ∈ streamIds, ∀ stream, s.inboundStreams id = some stream →
      stream.reassembly = []) : s.advertisedRwnd = 1048576 := by
  have hzero : totalHeldBytes s = 0 := by
    refine Finset.sum_eq_zero fun id hid => ?_
    unfold heldBytes
    cases hstream : s.inboundStreams id with
    | none => rfl
    | some stream =>
      rw [Option.elim_some, hempty id hid stream hstream, userDataLength_nil]
  have := h
  rw [Accounted, account, hzero] at this
  simpa using this

/-- **The receive window.**  In a run in which no chunk is charged without being held, and no stream
is deleted that holds bytes, the window and the held bytes are always the initial window; and any
other step breaks this. -/
theorem advertisedRwnd_accounted (lastReceivedTsn : ℤ) {s : Receiver}
    (hrun : Run receiverStep KeepsAccount (initialReceiver lastReceivedTsn) s) :
    s.advertisedRwnd + totalHeldBytes s = 1048576 ∧
      ((∀ id ∈ streamIds, ∀ stream, s.inboundStreams id = some stream → stream.reassembly = []) →
        s.advertisedRwnd = 1048576) ∧
      ∀ e s', receiverStep s e = some s' →
        (s'.advertisedRwnd + totalHeldBytes s' = 1048576 ↔ KeepsAccount s e) := by
  have h : Accounted s := hrun.invariant Accounted (accounted_initial lastReceivedTsn)
    fun _ _ _ hacc hok hs => (accounted_step_iff hacc hs).mpr hok
  exact ⟨h, h.window_open, fun e s' hs => accounted_step_iff h hs⟩

/-- The first of several fragments of a message, with three bytes. -/
def firstFragment : DataChunk where
  flags := SCTP_DATA_FIRST_FRAG
  tsn := 1
  userData := [1, 2, 3]

/-- The receiving half that holds the fragment. -/
def holdingFragment : Receiver :=
  ((initialReceiver 0).receiveDataChunk firstFragment).receiver

theorem advertisedRwnd_accounted_fragment :
    holdingFragment.advertisedRwnd + totalHeldBytes holdingFragment = 1048576 :=
  (advertisedRwnd_accounted 0 (Run.of_checked (fun _ _ => of_decide_eq_true)
    (rfl : [ReceiverEvent.data firstFragment].foldlM _ _ = some holdingFragment))).1

/-- **The defect.**  A stream that holds three bytes is reset: no bytes are held any more, and the
window stays three bytes short. -/
theorem advertisedRwnd_after_reset : ∃ s, Reachable receiverStep (initialReceiver 0) s ∧
    totalHeldBytes s = 0 ∧ s.advertisedRwnd = 1048573 := by
  refine ⟨holdingFragment.deleteStreams [0], reachable_of_foldlM
    (rfl : [ReceiverEvent.data firstFragment, .reset [0]].foldlM _ _ = _), ?_, rfl⟩
  refine Finset.sum_eq_zero fun id _ => ?_
  by_cases h : id = 0
  · simp [heldBytes, Receiver.deleteStreams, h]
  · have hnone : holdingFragment.inboundStreams id = none := by
      have hdeliver : holdingFragment.inboundStreams = Function.update (fun _ => none) 0
        (some ⟨[firstFragment], 0⟩) := rfl
      simp [hdeliver, h]
    simp [heldBytes, Receiver.deleteStreams, hnone]

end Werift.Sctp
