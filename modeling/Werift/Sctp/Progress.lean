import Werift.Sctp.FlightSize

/-!
# Queued chunks do not wait for nothing

When no `transmit` runs and a chunk waits in `outboundQueue` although the peer has room, something
must happen later: the T3 timer is armed for a chunk that has been sent, or the next `transmit`
sends a chunk.

Two things have to be right for this.  The flight size must not stay above the bytes in flight, for
else the windows may stay closed with nothing outstanding; and the timer must be armed whenever
chunks are outstanding and `transmit` has come to its end (`Watched`).
-/

namespace Werift.Sctp

open Queue Sender Transition

/-- The sender does not stall: if no `transmit` runs and a chunk could be sent, T3 is armed for what
is outstanding, or a call of `transmit` sends something. -/
def NeverStalls (s : Sender) : Prop :=
  s.transmit = .idle → s.outboundQueue ≠ [] → 0 < s.peerAdvertisedRwnd →
    (s.sentQueue ≠ [] ∧ s.timer3 = true) ∨ s.wire.length < s.startTransmit.wire.length

/-! ## The flight size is not too large -/

/-- A chunk over its limits that is missing for the third time has at least as many bytes as the
message at the head has in flight, or as are counted at all. -/
def StrikeCovers (now : ℚ) (seen : List ℤ) (st : Strikes) (i : ℕ) : Prop :=
  ∀ c, st.queue[i]? = some c → c.tsn ∉ seen → c.misses = 2 → c.abandoned = false →
    c.shouldAbandon now = true → headInFlight st.queue ≤ c.bookSize ∨ st.flightSize ≤ c.bookSize

/-- One round of the loop over the missing chunks. -/
lemma flightSize_strikeAt_le {now : ℚ} {seen : List ℤ} {st : Strikes} {i : ℕ}
    (h : st.flightSize ≤ bytesInFlight st.queue) (hok : StrikeCovers now seen st i) :
    (strikeAt now seen st i).flightSize ≤ bytesInFlight (strikeAt now seen st i).queue := by
  have hcase := strikeAt_case now seen st i
  generalize strikeAt now seen st i = st' at hcase
  cases hcase with
  | same => exact h
  | @miss c hc =>
    have := bytesInFlight_set hc (missed c)
    rw [flightWeight_missed] at this
    dsimp only
    omega
  | @lost c hc =>
    have hset := bytesInFlight_set hc (lost c.abandoned (struck c))
    have hle := flightWeight_le c
    dsimp only
    omega
  | @given c hc hseen hmisses hab hs =>
    have hle := (bytesInFlight_given hc).1
    have := hok c hc hseen hmisses hab hs
    dsimp only
    omega

lemma flightSize_strikeMissing_le {now : ℚ} {chunk : SackChunk} {st : Strikes} {n : ℕ}
    (h : st.flightSize ≤ bytesInFlight st.queue) (hok : ∀ k < n, StrikeCovers now
      (expandGaps chunk.cumulativeTsn chunk.gaps) (strikeMissing now chunk st k) k) :
    (strikeMissing now chunk st n).flightSize ≤
      bytesInFlight (strikeMissing now chunk st n).queue := by
  induction n with
  | zero => exact h
  | succ n ih =>
    rw [strikeMissing, List.range_succ, List.foldl_append]
    exact flightSize_strikeAt_le (ih fun k hk => hok k (by omega)) (hok n (by omega))

/-- A SACK is accepted: no chunk that it acknowledges in a gap block waits for retransmission, and
the third strikes cover what they take out of the flight. -/
def SackCovers (s : Sender) (chunk : SackChunk) : Prop :=
  let rest := beyondCumulative chunk.cumulativeTsn s.sentQueue
  let flightSize := flightSizeDecrease s.flightSize (doneChunks chunk.cumulativeTsn s.sentQueue)
  let seen := expandGaps chunk.cumulativeTsn chunk.gaps
  chunk.gaps ≠ [] → (∀ c ∈ newlyAcked seen rest, c.retransmit = false) ∧
    ∀ k < strikable chunk rest, StrikeCovers s.time seen
      (strikeMissing s.time chunk (afterGaps chunk rest flightSize) k) k

lemma flightSize_acknowledge_le {s : Sender} {chunk : SackChunk}
    (h : s.flightSize ≤ bytesInFlight s.sentQueue) (hok : SackCovers s chunk) :
    (s.acknowledge chunk).flightSize ≤ bytesInFlight (s.acknowledge chunk).queue := by
  have hsplit := bytesInFlight_beyondCumulative chunk.cumulativeTsn s.sentQueue
  have hcumulative : flightSizeDecrease s.flightSize (doneChunks chunk.cumulativeTsn s.sentQueue) ≤
      bytesInFlight (beyondCumulative chunk.cumulativeTsn s.sentQueue) := by
    have hw : total flightWeight (doneChunks chunk.cumulativeTsn s.sentQueue) ≤
        total DataChunk.bookSize (doneChunks chunk.cumulativeTsn s.sentQueue) :=
      total_le_total fun c _ => flightWeight_le c
    rw [flightSizeDecrease_eq]
    omega
  unfold acknowledge handleGaps
  split_ifs with hnil
  · exact hcumulative
  · refine flightSize_strikeMissing_le ?_ (hok hnil).2
    set seen := expandGaps chunk.cumulativeTsn chunk.gaps
    set rest := beyondCumulative chunk.cumulativeTsn s.sentQueue
    have hmark := bytesInFlight_ackGaps seen rest
    have hw : total flightWeight (newlyAcked seen rest) ≤
        total DataChunk.bookSize (newlyAcked seen rest) :=
      total_le_total fun c _ => flightWeight_le c
    change flightSizeDecrease _ (newlyAcked seen rest) ≤ bytesInFlight (ackGaps seen rest)
    rw [flightSizeDecrease_eq]
    omega

/-! ## The head of the queue -/

/-- The chunk at the head is marked: it waits for retransmission or is given up. -/
def HeadMarked (q : List DataChunk) : Prop :=
  ∃ c, q[0]? = some c ∧ (c.retransmit = true ∨ c.abandoned = true)

/-- What the loop over the missing chunks keeps: the mark of the head; and nothing is added to the
flight. -/
structure StrikesKeep (q : List DataChunk) (flightSize : ℕ) (st : Strikes) : Prop where
  flight : st.flightSize ≤ flightSize
  head : HeadMarked q → HeadMarked st.queue

/-- Replacing a marked chunk by a marked one. -/
lemma headMarked_set {q : List DataChunk} {i : ℕ} {c d : DataChunk} (h : HeadMarked q)
    (hc : q[i]? = some c) (hd : c.retransmit = true ∨ c.abandoned = true →
      d.retransmit = true ∨ d.abandoned = true) : HeadMarked (q.set i d) := by
  obtain ⟨e, he, hmarked⟩ := h
  cases i with
  | zero =>
    obtain rfl := Option.some.inj (hc.symm.trans he)
    exact ⟨d, List.getElem?_set_self (List.getElem?_eq_some_iff.mp hc).1, hd hmarked⟩
  | succ i => exact ⟨e, by rw [List.getElem?_set_ne (by omega), he], hmarked⟩

lemma StrikesKeep.strikeAt {now : ℚ} {seen : List ℤ} {q : List DataChunk} {flightSize : ℕ}
    {st : Strikes} (h : StrikesKeep q flightSize st) (i : ℕ) :
    StrikesKeep q flightSize (Sender.strikeAt now seen st i) := by
  have hcase := strikeAt_case now seen st i
  generalize Sender.strikeAt now seen st i = st' at hcase
  have hflight := h.flight
  cases hcase with
  | same => exact h
  | @miss c hc => exact ⟨hflight, fun hq => headMarked_set (h.head hq) hc fun hm => hm⟩
  | @lost c hc =>
    refine ⟨by dsimp only; omega, fun hq => headMarked_set (h.head hq) hc fun _ => ?_⟩
    unfold Sender.lost struck
    cases c.abandoned <;> simp
  | @given c hc =>
    refine ⟨by dsimp only; omega, fun _ => ?_⟩
    have hlen := (List.getElem?_eq_some_iff.mp hc).1
    obtain ⟨e, he⟩ : ∃ e, (st.queue.set i (struck c))[0]? = some e :=
      ⟨_, List.getElem?_eq_getElem (by rw [List.length_set]; omega)⟩
    have hab : (abandonUntilLast (st.queue.set i (struck c)))[0]? = some e.abandon := by
      rw [getElem?_abandonUntilLast_of_same (SameMessage.refl _ _), he, Option.map_some]
    rw [HeadMarked]
    simp only [List.getElem?_modify, hab, Option.map_eq_map, Option.map_some,
      Option.some.injEq, exists_eq_left']
    exact Or.inr (by split_ifs <;> rfl)

lemma StrikesKeep.strikeMissing {now : ℚ} {chunk : SackChunk} {q : List DataChunk} {flightSize : ℕ}
    {st : Strikes} (h : StrikesKeep q flightSize st) (n : ℕ) :
    StrikesKeep q flightSize (Sender.strikeMissing now chunk st n) := by
  induction n with
  | zero => exact h
  | succ n ih =>
    rw [Sender.strikeMissing, List.range_succ, List.foldl_append]
    exact ih.strikeAt n

lemma headMarked_congr {q q' : List DataChunk}
    (h : q'.map (fun c => c.retransmit || c.abandoned) = q.map fun c => c.retransmit || c.abandoned)
    (hq : HeadMarked q) : HeadMarked q' := by
  obtain ⟨c, hc, hm⟩ := hq
  have hget : (q'.map fun c => c.retransmit || c.abandoned)[0]? = some true := by
    rw [h, List.getElem?_map, hc, Option.map_some]
    simpa using hm
  rw [List.getElem?_map, Option.map_eq_some_iff] at hget
  obtain ⟨d, hd, hm'⟩ := hget
  exact ⟨d, hd, by simpa using hm'⟩

/-- What the acknowledgement of chunks keeps of the other ones. -/
lemma acknowledge_keep (s : Sender) (chunk : SackChunk) :
    StrikesKeep (beyondCumulative chunk.cumulativeTsn s.sentQueue) s.flightSize
      (s.acknowledge chunk) := by
  have hdone : flightSizeDecrease s.flightSize (doneChunks chunk.cumulativeTsn s.sentQueue) ≤
      s.flightSize := by
    rw [flightSizeDecrease_eq]
    omega
  unfold acknowledge handleGaps
  split_ifs with hnil
  · exact ⟨hdone, fun h => h⟩
  · refine StrikesKeep.strikeMissing ⟨?_, fun h => ?_⟩ _
    · change flightSizeDecrease _ _ ≤ _
      rw [flightSizeDecrease_eq]
      omega
    · exact headMarked_congr (map_ackGaps (fun _ => rfl) _ _) h

/-- The T3 timer marks the head. -/
lemma headMarked_expireChunks {now : ℚ} {q : List DataChunk}
    (hnone : ∀ c ∈ q, c.abandoned = false) (hq : q ≠ []) : HeadMarked (expireChunks now q) := by
  have hspec := @expireChunks_spec now _ hnone
  obtain ⟨c, rest, rfl⟩ := List.exists_cons_of_ne_nil hq
  have hc : (c :: rest)[0]? = some c := rfl
  obtain ⟨hd, -⟩ | ⟨hd, -, hno⟩ | ⟨-, hle, -⟩ := hspec.cases hc
  · exact ⟨_, hd, Or.inr rfl⟩
  · refine ⟨_, hd, Or.inl ?_⟩
    rw [expiredChunk, if_neg]
    exact fun hs => hno ⟨⟨0, Nat.zero_lt_succ _, c, hc, hs⟩, SameMessage.refl _ _⟩
  · simp at hle

/-! ## The timer is armed when it is needed -/

/-- The next round of `transmit` starts with a FORWARD TSN or the chunk at the head. -/
def Startable (s : Sender) : Prop := s.forwardTsnChunk.isSome = true ∨ HeadMarked s.sentQueue

/-- What is still to be sent from an iterator position on. -/
def bytesFrom (s : Sender) (position : ℕ) : ℕ :=
  total DataChunk.bookSize (s.sentQueue.drop (position - s.removed))

/-- A running round of `transmit` comes to its end with less than `maxPayloadSize` bytes in flight,
and without sending the chunk at the head. -/
inductive Passing (s : Sender) : Prop
  | finishing (hpc : s.transmit = .finishing) (hsmall : s.flightSize < s.maxPayloadSize)
  | sending {position cwnd : ℕ} (hpc : s.transmit = .sendingRetransmit position cwnd false)
      (hhead : s.forwardTsnChunk.isSome = true ∨ s.removed < position)
      (hsmall : s.flightSize + bytesFrom s position < s.maxPayloadSize)

/-- Somebody looks after the chunks that are outstanding: there are none; or T3 is armed, or will
be when the running `transmit` goes on; or `transmit` will go through the queue again and arm T3. -/
inductive Watched (s : Sender) : Prop
  | empty (h : s.sentQueue = [])
  | armed (h : s.timer3 = true)
  | forward (hpc : s.transmit = .sendingForward)
  | earliest {position cwnd : ℕ} (hpc : s.transmit = .sendingRetransmit position cwnd true)
  | data {cwnd : ℕ} (hpc : s.transmit = .sendingData cwnd)
  | again (hrequested : s.transmitRequested = true) (hpass : Passing s) (hstart : Startable s)

/-- The window takes at least one chunk of the largest size. -/
def WindowOpen (s : Sender) : Prop := 0 < s.maxPayloadSize ∧ s.maxPayloadSize ≤ s.cwnd

namespace Watched

variable {s s' : Sender}

/-- What this depends on. -/
lemma congr (h : Watched s) (hsent : s'.sentQueue = s.sentQueue) (htimer : s'.timer3 = s.timer3)
    (hpc : s'.transmit = s.transmit) (hrequested : s'.transmitRequested = s.transmitRequested)
    (hflight : s'.flightSize = s.flightSize) (hmax : s'.maxPayloadSize = s.maxPayloadSize)
    (hforward : s'.forwardTsnChunk = s.forwardTsnChunk) (hremoved : s'.removed = s.removed) :
    Watched s' := by
  cases h with
  | empty h => exact Watched.empty (hsent.trans h)
  | armed h => exact Watched.armed (htimer.trans h)
  | forward h => exact Watched.forward (hpc.trans h)
  | earliest h => exact Watched.earliest (hpc.trans h)
  | data h => exact Watched.data (hpc.trans h)
  | again h hpass hstart =>
    refine Watched.again (hrequested.trans h) ?_ ?_
    · cases hpass with
      | finishing h hsmall => exact Passing.finishing (hpc.trans h) (by rwa [hflight, hmax])
      | sending h hhead hsmall =>
        refine Passing.sending (hpc.trans h) (by rwa [hforward, hremoved]) ?_
        unfold bytesFrom at hsmall ⊢
        rwa [hsent, hremoved, hflight, hmax]
    · unfold Startable at hstart ⊢
      rwa [hforward, hsent]

/-- If nothing is outstanding or T3 is armed, `transmit` may do what it likes. -/
lemma proceeds (h : s.sentQueue = [] ∨ s.timer3 = true) (hp : Proceeds s s') : Watched s' := by
  cases hp with
  | finish => exact h.elim (fun h => Watched.empty h) fun h => Watched.armed h
  | data => exact Watched.data rfl
  | again hchunk =>
    rcases h with h | h
    · rw [h] at hchunk
      exact absurd hchunk (by simp)
    · exact Watched.armed h

/-- A marked chunk at the head is the first that `transmit` sends. -/
lemma transmitChunks_of_head {c : DataChunk} (hc : s.sentQueue[0]? = some c)
    (hr : c.retransmit = true) (hw : WindowOpen s) (hflight : s.flightSize < s.maxPayloadSize) :
    ∃ cwnd, s.transmitChunks = s.retransmitAt 0 c cwnd true := by
  obtain ⟨rest, hq⟩ : ∃ rest, s.sentQueue = c :: rest := by
    cases hq : s.sentQueue with
    | nil => rw [hq] at hc; exact absurd hc (by simp)
    | cons d rest =>
      rw [hq] at hc
      obtain rfl := Option.some.inj hc
      exact ⟨rest, rfl⟩
  have hskip : ((s.sentQueue.drop 0).findIdx DataChunk.retransmit) = 0 := by
    rw [hq, List.drop_zero, List.findIdx_cons, hr]
    rfl
  have hburst : 0 < s.burstSize := by
    have := hw.1
    unfold burstSize
    split_ifs <;> omega
  have hlt : s.flightSize < min (s.flightSize + s.burstSize) s.cwnd := by
    have := hw.2
    omega
  refine ⟨min (s.flightSize + s.burstSize) s.cwnd, ?_⟩
  unfold transmitChunks retransmitFrom
  simp only [Nat.sub_self, hskip, Nat.add_zero, hc, hlt, decide_true, Bool.or_true, if_true,
    beq_self_eq_true, Bool.and_self]

/-- A round of `transmit`. -/
lemma transmitOnce (hm : MarkInv s) (hw : WindowOpen s)
    (h : (s.sentQueue = [] ∨ s.timer3 = true) ∨ Startable s ∧ s.flightSize < s.maxPayloadSize) :
    Watched s.transmitOnce := by
  obtain ⟨f, -, heq⟩ | ⟨hnone, heq⟩ := s.transmitOnce_cases
  · rw [heq]
    exact Watched.forward rfl
  · rw [heq]
    rcases h with h | ⟨hstart | ⟨c, hc, hmark⟩, hflight⟩
    · exact Watched.proceeds (s := { s with transmitRequested := false }) h
        (transmitChunks_proceeds _)
    · rw [hnone] at hstart
      exact absurd hstart Bool.false_ne_true
    · have hr : c.retransmit = true := by
        rcases hmark with hr | hab
        · exact hr
        · rw [hm.kept c (List.mem_of_getElem? hc)] at hab
          exact absurd hab Bool.false_ne_true
      obtain ⟨cwnd, heq⟩ :=
        transmitChunks_of_head (s := { s with transmitRequested := false }) hc hr hw hflight
      rw [heq]
      exact Watched.earliest rfl

lemma startTransmit (h : Watched s) (hm : MarkInv s) (hw : WindowOpen s) :
    Watched s.startTransmit := by
  unfold Sender.startTransmit
  split_ifs with hidle
  · refine Watched.transmitOnce hm hw (Or.inl ?_)
    cases h with
    | empty h => exact Or.inl h
    | armed h => exact Or.inr h
    | again _ hpass _ => cases hpass <;> simp_all
    | _ => simp_all
  · cases h with
    | empty h => exact Watched.empty h
    | armed h => exact Watched.armed h
    | forward hpc => exact Watched.forward hpc
    | earliest hpc => exact Watched.earliest hpc
    | data hpc => exact Watched.data hpc
    | again _ hpass hstart =>
      refine Watched.again rfl ?_ hstart
      cases hpass with
      | finishing hpc hsmall => exact Passing.finishing hpc hsmall
      | sending hpc hhead hsmall => exact Passing.sending hpc hhead hsmall

/-- Without T3 the loop over `sentQueue` goes on. -/
lemma retransmitFrom {position cwnd : ℕ} (hrequested : s.transmitRequested = true)
    (hhead : s.forwardTsnChunk.isSome = true ∨ s.removed < position)
    (hsmall : s.flightSize + bytesFrom s position < s.maxPayloadSize) (hstart : Startable s) :
    Watched (s.retransmitFrom position cwnd false) := by
  have hdrain : Watched (s.drainOutboundQueue cwnd) := by
    unfold drainOutboundQueue
    have hfinish : Watched { s with transmit := .finishing } :=
      Watched.again hrequested (Passing.finishing rfl (by dsimp only; omega)) hstart
    split
    · exact hfinish
    · split_ifs
      · exact Watched.data rfl
      · exact hfinish
  unfold Sender.retransmitFrom
  dsimp only
  split
  · exact hdrain
  · rename_i chunk hchunk
    split_ifs
    · -- the chunk is sent again
      set i := position - s.removed + (s.sentQueue.drop (position - s.removed)).findIdx
        DataChunk.retransmit
      have hi : position - s.removed ≤ i := Nat.le_add_right _ _
      refine Watched.again hrequested (Passing.sending rfl ?_ ?_) ?_
      · exact Or.inr (by change s.removed < s.removed + i + 1; omega)
      · have hdrop : (s.sentQueue.set i (resent chunk)).drop (i + 1) = s.sentQueue.drop (i + 1) :=
          List.drop_set_of_lt (by omega)
        have hle : chunk.bookSize + total DataChunk.bookSize (s.sentQueue.drop (i + 1)) ≤
            bytesFrom s position := total_drop_succ_le hchunk hi
        change s.flightSize + chunk.bookSize + total DataChunk.bookSize
          ((s.sentQueue.set i (resent chunk)).drop (s.removed + i + 1 - s.removed)) <
            s.maxPayloadSize
        rw [Nat.add_assoc s.removed, Nat.add_sub_cancel_left, hdrop]
        omega
      · rcases hstart with hforward | ⟨c, hc, hmark⟩
        · exact Or.inl hforward
        · rcases hhead with hforward | hposition
          · exact Or.inl hforward
          · refine Or.inr ⟨c, ?_, hmark⟩
            change (s.sentQueue.set i (resent chunk))[0]? = some c
            rw [List.getElem?_set_ne (by omega), hc]
    · exact hdrain

lemma resume (h : Watched s) (hm : MarkInv s) (hw : WindowOpen s) (hs : s.resume = some s') :
    Watched s' := by
  unfold Sender.resume at hs
  split at hs
  · exact absurd hs (by simp)
  · obtain rfl := Option.some.inj hs
    exact Watched.proceeds (Or.inr rfl) (transmitChunks_proceeds _)
  · rename_i position cwnd earliest hpc
    obtain rfl := Option.some.inj hs
    have hproceeds : s.sentQueue = [] ∨ (s.timer3 || earliest) = true →
        Watched ({ s with timer3 := s.timer3 || earliest }.retransmitFrom position cwnd false) :=
      fun h => Watched.proceeds (s := { s with timer3 := s.timer3 || earliest }) h
        (retransmitFrom_proceeds _ _ _ _)
    cases h with
    | empty h => exact hproceeds (Or.inl h)
    | armed h => exact hproceeds (Or.inr (by rw [h, Bool.true_or]))
    | forward h => exact absurd (hpc.symm.trans h) (by simp)
    | earliest h =>
      obtain ⟨-, -, rfl⟩ : position = _ ∧ cwnd = _ ∧ earliest = true := by
        simpa using hpc.symm.trans h
      exact hproceeds (Or.inr (Bool.or_true _))
    | data h => exact absurd (hpc.symm.trans h) (by simp)
    | again hrequested hpass hstart =>
      cases hpass with
      | finishing h => exact absurd (hpc.symm.trans h) (by simp)
      | sending h hhead hsmall =>
        obtain ⟨rfl, -, -⟩ : position = _ ∧ cwnd = _ ∧ earliest = false := by
          simpa using hpc.symm.trans h
        exact Watched.retransmitFrom hrequested hhead hsmall hstart
  · obtain rfl := Option.some.inj hs
    exact Watched.proceeds (Or.inr rfl) (drainOutboundQueue_proceeds _ _)
  · rename_i hpc
    obtain rfl := Option.some.inj hs
    have hdone : (s.sentQueue = [] ∨ s.timer3 = true) ∨
        s.transmitRequested = true ∧ Startable s ∧ s.flightSize < s.maxPayloadSize := by
      cases h with
      | empty h => exact Or.inl (Or.inl h)
      | armed h => exact Or.inl (Or.inr h)
      | again hrequested hpass hstart =>
        cases hpass with
        | finishing _ hsmall => exact Or.inr ⟨hrequested, hstart, hsmall⟩
        | sending h => exact absurd (hpc.symm.trans h) (by simp)
      | forward h => exact absurd (hpc.symm.trans h) (by simp)
      | earliest h => exact absurd (hpc.symm.trans h) (by simp)
      | data h => exact absurd (hpc.symm.trans h) (by simp)
    split_ifs with hrequested
    · exact Watched.transmitOnce hm hw (hdone.imp_right And.right)
    · rcases hdone with (h | h) | ⟨h, -⟩
      · exact Watched.empty h
      · exact Watched.armed h
      · exact absurd h hrequested

/-- `updateAdvancedPeerAckPoint` may only remove chunks at the head, with a new FORWARD TSN. -/
lemma updateAdvancedPeerAckPoint (h : Watched s) : Watched s.updateAdvancedPeerAckPoint := by
  have hsame := s.updateAdvancedPeerAckPoint_same
  cases h with
  | empty h =>
    refine Watched.empty ?_
    rw [s.updateAdvancedPeerAckPoint_sentQueue, h]
    rfl
  | armed h => exact Watched.armed (hsame.timer3.trans h)
  | forward h => exact Watched.forward (hsame.transmit.trans h)
  | earliest h => exact Watched.earliest (hsame.transmit.trans h)
  | data h => exact Watched.data (hsame.transmit.trans h)
  | again hrequested hpass hstart =>
    obtain ⟨-, heq⟩ | ⟨init, chunk, hfront, heq⟩ := s.updateAdvancedPeerAckPoint_cases
    · rw [heq]
      refine Watched.again hrequested ?_ hstart
      cases hpass with
      | finishing hpc hsmall => exact Passing.finishing hpc hsmall
      | sending hpc hhead hsmall => exact Passing.sending hpc hhead hsmall
    · rw [heq]
      refine Watched.again hrequested ?_ (Or.inl rfl)
      cases hpass with
      | finishing hpc hsmall => exact Passing.finishing hpc hsmall
      | @sending position cwnd hpc hhead hsmall =>
        refine Passing.sending hpc (Or.inl rfl) (lt_of_le_of_lt ?_ hsmall)
        have hdrop : s.sentQueue.dropWhile DataChunk.abandoned =
            s.sentQueue.drop (init.length + 1) := by
          conv_rhs => rw [← List.takeWhile_append_dropWhile (p := DataChunk.abandoned)
            (l := s.sentQueue), hfront]
          rw [List.drop_left' (by simp)]
        have hle : bytesFrom { s with
              sentQueue := s.sentQueue.dropWhile DataChunk.abandoned
              removed := s.removed + (init.length + 1) } position ≤ bytesFrom s position := by
          unfold bytesFrom
          dsimp only
          rw [hdrop, List.drop_drop]
          exact total_drop_le _ _ (by omega)
        exact Nat.add_le_add_left hle _

/-- A SACK restarts T3 if it acknowledges cumulatively; otherwise the chunks keep their places. -/
lemma accountSack (h : Watched s) (chunk : SackChunk) : Watched (s.accountSack chunk) := by
  have hkeep := acknowledge_keep s chunk
  have hsizes := map_eq_of_unmarked (f := DataChunk.bookSize) (fun _ => rfl)
    (unmarked_acknowledge s chunk)
  by_cases hnil : (s.acknowledge chunk).queue = []
  · exact Watched.empty hnil
  have htimer : (s.accountSack chunk).timer3 =
      (s.timer3 || decide ((cumulativelyAcked chunk.cumulativeTsn s.sentQueue).length > 0)) := by
    change (!(s.acknowledge chunk).queue.isEmpty && _) = _
    rw [List.isEmpty_eq_false_iff.mpr hnil]
    rfl
  by_cases hdone : cumulativelyAcked chunk.cumulativeTsn s.sentQueue = []
  · have hrest : beyondCumulative chunk.cumulativeTsn s.sentQueue = s.sentQueue := by
      have h := List.takeWhile_append_dropWhile
        (p := fun c : DataChunk => uint32Gte chunk.cumulativeTsn c.tsn) (l := s.sentQueue)
      change cumulativelyAcked chunk.cumulativeTsn s.sentQueue ++
        beyondCumulative chunk.cumulativeTsn s.sentQueue = s.sentQueue at h
      rwa [hdone, List.nil_append] at h
    rw [hrest] at hkeep hsizes
    have hremoved : (s.accountSack chunk).removed = s.removed := by
      change s.removed + (cumulativelyAcked chunk.cumulativeTsn s.sentQueue).length = s.removed
      rw [hdone]
      rfl
    cases h with
    | empty h =>
      have hlen := congrArg List.length hsizes
      rw [List.length_map, List.length_map, h] at hlen
      exact absurd (List.length_eq_zero_iff.mp hlen) hnil
    | armed h => exact Watched.armed (by rw [htimer, h, Bool.true_or])
    | forward h => exact Watched.forward h
    | earliest h => exact Watched.earliest h
    | data h => exact Watched.data h
    | again hrequested hpass hstart =>
      refine Watched.again hrequested ?_ (hstart.imp_right hkeep.head)
      have hflight := hkeep.flight
      cases hpass with
      | finishing hpc hsmall => exact Passing.finishing hpc (lt_of_le_of_lt hflight hsmall)
      | @sending position cwnd hpc hhead hsmall =>
        refine Passing.sending hpc (by rw [hremoved]; exact hhead) (lt_of_le_of_lt ?_ hsmall)
        have hbytes : bytesFrom (s.accountSack chunk) position = bytesFrom s position := by
          unfold bytesFrom total
          rw [hremoved, List.map_drop, List.map_drop]
          exact congrArg List.sum (congrArg _ hsizes)
        rw [hbytes]
        exact Nat.add_le_add_right hflight _
  · refine Watched.armed ?_
    rw [htimer, decide_eq_true (List.length_pos_iff.mpr hdone), Bool.or_true]

end Watched

/-! ## The T3 timer -/

/-- T3 does not expire while the loop over `sentQueue` waits for a chunk that is not the first one
and has `maxPayloadSize` bytes or more still to look at. -/
def ExpiryInTime (s : Sender) : Prop :=
  ∀ position cwnd, s.transmit = .sendingRetransmit position cwnd false →
    s.sentQueue = [] ∨ s.removed < position ∧ bytesFrom s position < s.maxPayloadSize

namespace Watched

variable {s s' : Sender}

/-- A running `transmit` will go through the queue again. -/
lemma markedByTimer (hm : MarkInv s) (hw : WindowOpen s) (hok : ExpiryInTime s)
    (hpc : s.transmit ≠ .idle) :
    Watched { Sender.markedByTimer s with transmitRequested := true } := by
  by_cases hnil : s.sentQueue = []
  · refine Watched.empty ?_
    change expireChunks s.time s.sentQueue = []
    rw [hnil]
    rfl
  have hhead : HeadMarked (expireChunks s.time s.sentQueue) :=
    headMarked_expireChunks hm.kept hnil
  cases h : s.transmit with
  | idle => exact absurd h hpc
  | sendingForward => exact Watched.forward h
  | sendingData cwnd => exact Watched.data h
  | finishing => exact Watched.again rfl (Passing.finishing h hw.1) (Or.inr hhead)
  | sendingRetransmit position cwnd earliest =>
    cases earliest with
    | true => exact Watched.earliest h
    | false =>
      obtain ⟨hposition, hsmall⟩ := (hok position cwnd h).resolve_left hnil
      refine Watched.again rfl (Passing.sending h (Or.inr hposition) ?_) (Or.inr hhead)
      have hsizes := map_eq_of_unmarked (f := DataChunk.bookSize) (fun _ => rfl)
        (@unmarked_expireChunks s.time _ hm.kept)
      change 0 + total DataChunk.bookSize ((expireChunks s.time s.sentQueue).drop _) < _
      rw [Nat.zero_add, total, List.map_drop, hsizes, ← List.map_drop]
      exact hsmall

lemma timer3Expired (hm : MarkInv s) (hw : WindowOpen s) (hmarks : AckedExpired s.time s.sentQueue)
    (hok : ExpiryInTime s) : Watched s.timer3Expired := by
  have hexp := hm.expire hmarks
  unfold Sender.timer3Expired Sender.startTransmit
  have htransmit : s.expire.transmit = s.transmit := s.expire_same.transmit
  split_ifs with hidle
  · have hwexp : WindowOpen s.expire :=
      ⟨s.expire_same.maxPayloadSize.symm ▸ hw.1, le_of_eq rfl⟩
    refine Watched.transmitOnce hexp hwexp ?_
    by_cases hnil : s.sentQueue = []
    · refine Or.inl (Or.inl ?_)
      rw [expire_sentQueue, hnil]
      rfl
    · refine Or.inr ⟨?_, hwexp.1⟩
      have hhead : HeadMarked (expireChunks s.time s.sentQueue) :=
        headMarked_expireChunks hm.kept hnil
      rw [expire_eq]
      obtain ⟨-, heq⟩ | ⟨init, chunk, -, heq⟩ :=
        (Sender.markedByTimer s).updateAdvancedPeerAckPoint_cases <;> rw [heq]
      · exact Or.inr hhead
      · exact Or.inl rfl
  · rw [htransmit] at hidle
    have h := (Watched.markedByTimer hm hw hok hidle).updateAdvancedPeerAckPoint
    have heq : { s.expire with transmitRequested := true } =
        ({ Sender.markedByTimer s with transmitRequested := true }).updateAdvancedPeerAckPoint := by
      rw [expire_eq]
      unfold Sender.updateAdvancedPeerAckPoint
      dsimp only
      cases ((Sender.markedByTimer s).sentQueue.takeWhile DataChunk.abandoned).getLast? <;> rfl
    rw [heq]
    exact h

end Watched

/-! ## Runs -/

/-- The condition on what happens next. -/
def ProgressOk (s : Sender) : Event → Prop
  | .timer3Expired => AckedExpired s.time s.sentQueue ∧ ExpiryInTime s
  | .receiveSack chunk => uint32Gt s.lastSackedTsn chunk.cumulativeTsn = false → SackCovers s chunk
  | _ => True

lemma ProgressOk.marks {s : Sender} {e : Event} (h : ProgressOk s e) : MarksOk s e := by
  cases e with
  | timer3Expired => exact h.1
  | receiveSack chunk => exact fun hold hgaps => (h hold hgaps).1
  | _ => trivial

/-- What such steps preserve. -/
structure ProgressInv (s : Sender) : Prop where
  marks : MarkInv s
  flight : s.flightSize ≤ bytesInFlight s.sentQueue
  window : WindowOpen s
  watched : Watched s

/-- Congestion control keeps the window open. -/
lemma le_adjustedWindow {s : Sender} (h : s.maxPayloadSize ≤ s.cwnd) (cumulativeTsn : ℤ)
    (fullyUtilized : Bool) (doneBytes : ℕ) (loss : Bool) (last : Option ℤ) :
    s.maxPayloadSize ≤ (s.adjustedWindow cumulativeTsn fullyUtilized doneBytes loss last).cwnd := by
  have hgrown : s.maxPayloadSize ≤ (s.grownWindow doneBytes).cwnd := by
    unfold grownWindow
    split_ifs <;> dsimp only [window] <;> omega
  unfold adjustedWindow
  split
  · cases loss with
    | true =>
      simp only [if_true]
      omega
    | false =>
      cases fullyUtilized with
      | true => exact hgrown
      | false => exact h
  · split_ifs <;> exact h

namespace ProgressInv

variable {s s' : Sender}

/-- `transmit` keeps the bounds. -/
lemma flight_of_moves (h : MarkInv s) (hflight : s.flightSize ≤ bytesInFlight s.sentQueue)
    (hm : Moves s s') : s'.flightSize ≤ bytesInFlight s'.sentQueue := by
  have := hm.balanced h
  unfold Balanced at this
  omega

lemma window_of_control (h : WindowOpen s) (hc : SameControl s s') : WindowOpen s' := by
  unfold WindowOpen
  rw [hc.maxPayloadSize, hc.cwnd]
  exact h

lemma startTransmit (h : ProgressInv s) : ProgressInv s.startTransmit where
  marks := h.marks.moves (startTransmit_moves s)
  flight := flight_of_moves h.marks h.flight (startTransmit_moves s)
  window := window_of_control h.window (startTransmit_control s)
  watched := h.watched.startTransmit h.marks h.window

/-- Fields that the invariant does not mention may change. -/
lemma step (h : ProgressInv s) {e : Event} (hok : ProgressOk s e) (hs : s.step e = some s') :
    ProgressInv s' := by
  have hmarks := h.marks.step hok.marks hs
  cases e with
  | send a =>
    obtain rfl := Option.some.inj hs
    refine ProgressInv.startTransmit ⟨⟨h.marks.enqueue a, h.marks.pending⟩, h.flight, h.window, ?_⟩
    exact h.watched.congr rfl rfl rfl rfl rfl rfl rfl rfl
  | receiveSack chunk =>
    obtain rfl := Option.some.inj hs
    unfold receiveSackChunk at hmarks ⊢
    split_ifs at hmarks ⊢ with hold
    · exact h
    · have hsame := (s.accountSack chunk).updateAdvancedPeerAckPoint_same
      refine ⟨hmarks, ?_, ?_, (h.watched.accountSack chunk).updateAdvancedPeerAckPoint⟩
      · rw [hsame.flightSize, updateAdvancedPeerAckPoint_sentQueue,
          bytesInFlight_dropWhile_abandoned]
        exact flightSize_acknowledge_le h.flight (hok (by simpa using hold))
      · unfold WindowOpen
        rw [hsame.maxPayloadSize, hsame.cwnd]
        exact ⟨h.window.1, le_adjustedWindow h.window.2 _ _ _ _ _⟩
  | sackHandled =>
    obtain ⟨-, hs⟩ := Option.ite_none_right_eq_some.mp hs
    obtain rfl := Option.some.inj hs
    refine ProgressInv.startTransmit ⟨⟨⟨h.marks.kept, h.marks.fresh⟩, h.marks.pending⟩, h.flight,
      h.window, ?_⟩
    exact h.watched.congr rfl rfl rfl rfl rfl rfl rfl rfl
  | resume =>
    exact ⟨hmarks, flight_of_moves h.marks h.flight (resume_moves hs),
      window_of_control h.window (resume_control hs), h.watched.resume h.marks h.window hs⟩
  | timer3Expired =>
    obtain ⟨-, hs⟩ := Option.ite_none_right_eq_some.mp hs
    obtain rfl := Option.some.inj hs
    have hzero : s.expire.flightSize = 0 := rfl
    have hwexp : WindowOpen s.expire :=
      ⟨s.expire_same.maxPayloadSize.symm ▸ h.window.1, le_of_eq rfl⟩
    refine ⟨hmarks, ?_, window_of_control hwexp (startTransmit_control _),
      Watched.timer3Expired h.marks h.window hok.1 hok.2⟩
    refine flight_of_moves (h.marks.expire hok.1) ?_ (startTransmit_moves _)
    rw [hzero]
    exact Nat.zero_le _
  | receiveInit advertisedRwnd =>
    obtain rfl := Option.some.inj hs
    exact ⟨hmarks, h.flight, h.window, h.watched.congr rfl rfl rfl rfl rfl rfl rfl rfl⟩
  | tick now =>
    obtain ⟨-, hs⟩ := Option.ite_none_right_eq_some.mp hs
    obtain rfl := Option.some.inj hs
    exact ⟨hmarks, h.flight, h.window, h.watched.congr rfl rfl rfl rfl rfl rfl rfl rfl⟩

/-- With nothing outstanding the first chunk of `outboundQueue` can be sent. -/
lemma wire_transmitChunks (hnil : s.sentQueue = []) (hflight : s.flightSize = 0)
    (hw : WindowOpen s) (hqueue : s.outboundQueue ≠ []) (hrwnd : 0 < s.peerAdvertisedRwnd) :
    s.wire.length < s.transmitChunks.wire.length := by
  obtain ⟨chunk, rest, hcons⟩ := List.exists_cons_of_ne_nil hqueue
  have hdrain : s.transmitChunks =
      s.drainOutboundQueue (min (s.flightSize + s.burstSize) s.cwnd) := by
    simp [transmitChunks, retransmitFrom, hnil]
  have hburst : 0 < s.burstSize := by
    have := hw.1
    unfold burstSize
    split_ifs <;> omega
  have hopen : s.flightSize < min (s.flightSize + s.burstSize) s.cwnd ∧ 0 < s.peerRwnd ∧
      ¬ (s.peerRwnd < chunk.bookSize ∧ 0 < s.flightSize) := by
    have := hw.1
    have := hw.2
    unfold peerRwnd
    omega
  rw [hdrain, drainOutboundQueue, hcons]
  simp only [hopen, and_self, not_false_eq_true, if_true, List.length_append, List.length_singleton]
  omega

/-- The sender does not stall. -/
lemma neverStalls (h : ProgressInv s) : NeverStalls s := by
  intro hidle hqueue hrwnd
  have hdone : s.sentQueue = [] ∨ s.timer3 = true := by
    cases h.watched with
    | empty h => exact Or.inl h
    | armed h => exact Or.inr h
    | again _ hpass _ => cases hpass <;> simp_all
    | _ => simp_all
  by_cases hnil : s.sentQueue = []
  · refine Or.inr ?_
    have hflight : s.flightSize = 0 := by
      have := h.flight
      rw [hnil] at this
      exact Nat.le_zero.mp this
    unfold Sender.startTransmit
    rw [if_pos hidle]
    obtain ⟨f, -, heq⟩ | ⟨-, heq⟩ := s.transmitOnce_cases <;> rw [heq]
    · simp
    · exact wire_transmitChunks (s := { s with transmitRequested := false }) hnil hflight h.window
        hqueue hrwnd
  · exact Or.inl ⟨hnil, hdone.resolve_left hnil⟩

end ProgressInv

/-- **The sender never stalls** in a run in which the flight size does not get too large and T3 does
not expire at the wrong moment. -/
theorem neverStalls_of_run {maxPayloadSize rwnd : ℕ} {localTsn : ℤ} {s : Sender}
    (hsize : 0 < maxPayloadSize)
    (h : Run Sender.step ProgressOk (Sender.initial maxPayloadSize localTsn rwnd) s) :
    NeverStalls s := by
  refine (h.invariant ProgressInv ?_ fun s e s' hs hok hstep => hs.step hok hstep).neverStalls
  refine ⟨markInv_initial _ _ _, Nat.zero_le _, ⟨hsize, ?_⟩, Watched.empty rfl⟩
  change maxPayloadSize ≤ 3 * maxPayloadSize
  omega

/-- A message is sent, lost, and sent again when T3 expires. -/
theorem neverStalls_lost_message : ∃ s, Run Sender.step ProgressOk defaultSender s ∧
    s.wire.length = 2 ∧ NeverStalls s := by
  have hsent : Run Sender.step ProgressOk defaultSender (defaultSender.send oneByte) :=
    Run.start.next (e := .send oneByte) trivial rfl
  have harmed : Run Sender.step ProgressOk defaultSender
      (((defaultSender.send oneByte).resume).getD defaultSender) :=
    hsent.next (e := Event.resume) trivial rfl
  have hnone : ∀ c ∈ (((defaultSender.send oneByte).resume).getD defaultSender).sentQueue,
      c.acked = false := by decide
  have hexpired := (harmed.next (e := Event.timer3Expired) ⟨fun i c hc hacked =>
    absurd ((hnone c (List.mem_of_getElem? hc)).symm.trans hacked) Bool.false_ne_true,
    fun position cwnd hpc => Transmit.noConfusion hpc⟩ rfl).next (e := Event.resume) trivial rfl
  exact ⟨_, hexpired, by decide, neverStalls_of_run (by decide) hexpired⟩

/-- A message of some bytes. -/
def bytes (n : ℕ) : SendArgs := { streamId := 0, ppId := 53, userData := List.replicate n 0 }

/-- Chunks of 1, 2 and 4 bytes are sent, the first one is lost and the others are acknowledged in a
gap block.  T3 marks all of them, and they are sent again; then a SACK acknowledges them all.  The
flight size stays at 6, the window is 5, and the T3 timer is cancelled: the next message waits for
ever. -/
theorem sender_stalls : ¬ ∀ s : Sender,
    Reachable Sender.step (Sender.initial (maxPayloadSizeForMtu 32) 1 131072) s → NeverStalls s := by
  intro h
  obtain ⟨s, hs, hidle, hqueue, hrwnd, hnil, hwire⟩ : ∃ s,
      [Event.send (bytes 1), .resume, .resume, .send (bytes 2), .resume, .resume, .send (bytes 4),
        .resume, .resume,
        .receiveSack { cumulativeTsn := 0, advertisedRwnd := 131072, gaps := [(2, 3)] },
        .sackHandled, .resume, .timer3Expired, .resume, .resume, .resume, .resume,
        .receiveSack { cumulativeTsn := 3, advertisedRwnd := 131072 }, .sackHandled, .resume,
        .send (bytes 1), .resume].foldlM Sender.step
          (Sender.initial (maxPayloadSizeForMtu 32) 1 131072) = some s ∧
      s.transmit = .idle ∧ s.outboundQueue ≠ [] ∧ 0 < s.peerAdvertisedRwnd ∧ s.sentQueue = [] ∧
        s.startTransmit.wire.length = s.wire.length :=
    ⟨_, rfl, by decide, by decide, by decide, by decide, by decide⟩
  rcases h s (reachable_of_foldlM hs) hidle hqueue hrwnd with ⟨hne, -⟩ | hlt
  · exact hne hnil
  · omega

end Werift.Sctp
