import Werift.Sctp.FlightSize

/-!
# A FORWARD TSN is not lost

When chunks at the head of `sentQueue` are given up, `advancedPeerAckTsn` moves ahead of
`lastSackedTsn` and a FORWARD TSN must tell the receiver.  `forwardTsnChunk` is the pending one; it
is cleared after it has been sent, and only chunks that are given up later bring a new one.

`forwardTsn_kept` says when the receiver can still be told: at the moment at which the pending
FORWARD TSN is cleared, one with the current point must have been sent, and a chunk that is over its
limits must be left for the T3 timer.

TSNs are compared on the circle here, as numbers modulo `2 ^ 32`.
-/

namespace Werift.Sctp

open Queue Sender Transition

/-- The TSNs of the chunks that are queued, the ones that have been sent first. -/
def queuedTsns (s : Sender) : List ℤ := (s.sentQueue ++ s.outboundQueue).map DataChunk.tsn

/-- The TSN of the chunk that was sent last. -/
def lastSentTsn (s : Sender) : ℤ :=
  (s.sentQueue.getLast?.map DataChunk.tsn).getD s.advancedPeerAckTsn

/-- How many TSNs have been sent and not been acknowledged cumulatively. -/
def outstanding (s : Sender) : ℤ :=
  (s.advancedPeerAckTsn - s.lastSackedTsn) % SCTP_TSN_MODULO + s.sentQueue.length

/-- The chunks that are queued have the TSNs after `advancedPeerAckTsn`, without a hole.  The value
`-1` is the one before a first TSN `0`. -/
structure Numbered (s : Sender) : Prop where
  advanced : -1 ≤ s.advancedPeerAckTsn ∧ s.advancedPeerAckTsn < 0x100000000
  last : -1 ≤ s.lastSackedTsn ∧ s.lastSackedTsn < 0x100000000
  start : s.advancedPeerAckTsn = -1 → s.lastSackedTsn = -1
  tsns : ∀ (i : ℕ) (t : ℤ), (queuedTsns s)[i]? = some t →
    t = (s.advancedPeerAckTsn + 1 + i) % 0x100000000
  next : s.localTsn = (s.advancedPeerAckTsn + 1 + (queuedTsns s).length) % 0x100000000

/-! ## The numbers -/

/-- `tsnPlusOne` counts modulo `2 ^ 32`. -/
lemma iterate_tsnPlusOne_emod (a : ℤ) (i : ℕ) :
    tsnPlusOne^[i] (a % 0x100000000) = (a + i) % 0x100000000 := by
  induction i with
  | zero => simp
  | succ i ih =>
    rw [Function.iterate_succ_apply', ih, tsnPlusOne, Js.rem, SCTP_TSN_MODULO,
      Int.tmod_eq_emod_of_nonneg (by omega)]
    omega

/-- Moving a chunk from one queue to the other, or sending it again, changes no TSN. -/
lemma queuedTsns_moves {s s' : Sender} (hm : Moves s s') : queuedTsns s' = queuedTsns s := by
  unfold queuedTsns
  cases hm with
  | quiet hsent hout => rw [hsent, hout]
  | data hqueue hsent hout =>
    rw [hsent, hout, hqueue]
    simp
  | @again i chunk hchunk hre hsent hout =>
    have htsn : (resent chunk).tsn = chunk.tsn := rfl
    rw [hsent, hout, List.map_append, List.map_append, map_set_eq hchunk htsn]

namespace Numbered

variable {s s' : Sender}

lemma initial {maxPayloadSize rwnd : ℕ} {localTsn : ℤ} (h0 : 0 ≤ localTsn)
    (hlt : localTsn < 0x100000000) : Numbered (Sender.initial maxPayloadSize localTsn rwnd) := by
  have hfirst : (Sender.initial maxPayloadSize localTsn rwnd).advancedPeerAckTsn = localTsn - 1 :=
    tsnMinusOne_of_mem h0 hlt
  have hlast : (Sender.initial maxPayloadSize localTsn rwnd).lastSackedTsn = localTsn - 1 :=
    tsnMinusOne_of_mem h0 hlt
  have hnil : queuedTsns (Sender.initial maxPayloadSize localTsn rwnd) = [] := rfl
  have hnext : (Sender.initial maxPayloadSize localTsn rwnd).localTsn = localTsn := rfl
  refine ⟨by omega, by omega, by omega, fun i t ht => ?_, ?_⟩
  · rw [hnil] at ht
    exact absurd ht (by simp)
  · rw [hnext, hfirst, hnil, List.length_nil]
    omega

/-- What this depends on. -/
lemma congr (h : Numbered s) (htsns : queuedTsns s' = queuedTsns s)
    (hadvanced : s'.advancedPeerAckTsn = s.advancedPeerAckTsn)
    (hlast : s'.lastSackedTsn = s.lastSackedTsn) (hlocal : s'.localTsn = s.localTsn) :
    Numbered s' := by
  refine ⟨by rw [hadvanced]; exact h.advanced, by rw [hlast]; exact h.last,
    by rw [hadvanced, hlast]; exact h.start, ?_, ?_⟩
  · rw [htsns, hadvanced]
    exact h.tsns
  · rw [hlocal, htsns, hadvanced]
    exact h.next

/-- The TSN of a chunk that has been sent. -/
lemma tsn_eq (h : Numbered s) {i : ℕ} {c : DataChunk} (hc : s.sentQueue[i]? = some c) :
    c.tsn = (s.advancedPeerAckTsn + 1 + i) % 0x100000000 := by
  refine h.tsns i c.tsn ?_
  unfold queuedTsns
  rw [List.getElem?_map, List.getElem?_append_left (List.getElem?_eq_some_iff.mp hc).1, hc]
  rfl

/-- The chunks of a new message have the next TSNs. -/
lemma enqueue (h : Numbered s) (a : SendArgs) : Numbered (s.enqueue a) := by
  have htsns : queuedTsns (s.enqueue a) = queuedTsns s ++
      (a.chunks s.maxPayloadSize s.localTsn (s.outboundStreamSeq a.streamId)).map DataChunk.tsn := by
    simp [queuedTsns, Sender.enqueue]
  have hnext : (s.enqueue a).localTsn = tsnPlusOne^[a.fragments s.maxPayloadSize] s.localTsn := rfl
  have hadvanced : (s.enqueue a).advancedPeerAckTsn = s.advancedPeerAckTsn := rfl
  refine ⟨h.advanced, h.last, h.start, fun i t ht => ?_, ?_⟩
  · rw [htsns, List.getElem?_append] at ht
    split_ifs at ht with hi
    · exact h.tsns i t ht
    · obtain ⟨c, hc, rfl⟩ : ∃ c, (a.chunks s.maxPayloadSize s.localTsn
          (s.outboundStreamSeq a.streamId))[i - (queuedTsns s).length]? = some c ∧ c.tsn = t := by
        simpa using ht
      have htsn : c.tsn = tsnPlusOne^[i - (queuedTsns s).length] s.localTsn := by
        obtain ⟨hlt, rfl⟩ := List.getElem?_eq_some_iff.mp hc
        simp [SendArgs.chunks, SendArgs.fragmentChunk]
      rw [htsn, hadvanced, h.next, iterate_tsnPlusOne_emod]
      omega
  · rw [hnext, hadvanced, h.next, iterate_tsnPlusOne_emod, htsns, List.length_append,
      List.length_map, SendArgs.length_chunks]
    push_cast
    omega

/-- Chunks leave at the head, up to the new `advancedPeerAckTsn`. -/
lemma drop (h : Numbered s) {k : ℕ} (hk : k ≤ s.sentQueue.length)
    (htsns : queuedTsns s' = (queuedTsns s).drop k)
    (hadvanced : -1 ≤ s'.advancedPeerAckTsn ∧ s'.advancedPeerAckTsn < 0x100000000)
    (hstart : s'.advancedPeerAckTsn = -1 → s'.lastSackedTsn = -1)
    (hmod : (s'.advancedPeerAckTsn - (s.advancedPeerAckTsn + k)) % 0x100000000 = 0)
    (hlast : -1 ≤ s'.lastSackedTsn ∧ s'.lastSackedTsn < 0x100000000)
    (hlocal : s'.localTsn = s.localTsn) : Numbered s' := by
  refine ⟨hadvanced, hlast, hstart, fun i t ht => ?_, ?_⟩
  · rw [htsns, List.getElem?_drop] at ht
    have := h.tsns _ t ht
    push_cast at this
    omega
  · have hlen : k ≤ (queuedTsns s).length := by
      simp only [queuedTsns, List.length_map, List.length_append]
      omega
    have := h.next
    rw [hlocal, htsns, List.length_drop]
    push_cast [hlen]
    omega

/-- The chunks at the head that are given up leave the queue. -/
lemma updateAdvancedPeerAckPoint (h : Numbered { s with advancedPeerAckTsn := s.peerAckBase }) :
    Numbered s.updateAdvancedPeerAckPoint := by
  obtain ⟨-, heq⟩ | ⟨init, chunk, hfront, heq⟩ := s.updateAdvancedPeerAckPoint_cases
  · rw [heq]
    exact h
  · have hsplit : s.sentQueue =
        init ++ chunk :: s.sentQueue.dropWhile DataChunk.abandoned := by
      conv_lhs => rw [← List.takeWhile_append_dropWhile (p := DataChunk.abandoned)
        (l := s.sentQueue), hfront]
      simp
    have hlen : init.length + 1 ≤ s.sentQueue.length := by
      rw [hsplit, List.length_append, List.length_cons]
      omega
    have hdrop : s.sentQueue.dropWhile DataChunk.abandoned =
        s.sentQueue.drop (init.length + 1) := by
      rw [dropWhile_eq_drop, hfront]
      simp
    have hget : s.sentQueue[init.length]? = some chunk := by
      rw [hsplit, List.getElem?_append_right le_rfl, Nat.sub_self]
      rfl
    have htsn : chunk.tsn = (s.peerAckBase + 1 + init.length) % 0x100000000 := h.tsn_eq hget
    rw [heq]
    refine h.drop (k := init.length + 1) hlen ?_ ?_ ?_ ?_ h.last rfl
    · unfold queuedTsns
      dsimp only
      rw [hdrop, List.map_append, List.map_append, List.drop_append_of_le_length (by simpa using hlen),
        List.map_drop]
    · dsimp only
      omega
    · dsimp only
      omega
    · dsimp only
      push_cast
      omega

lemma lastSent (h : Numbered s) : (-1 ≤ lastSentTsn s ∧ lastSentTsn s < 0x100000000) ∧
    (lastSentTsn s - (s.advancedPeerAckTsn + s.sentQueue.length)) % 0x100000000 = 0 := by
  have hadvanced := h.advanced
  unfold lastSentTsn
  cases hlast : s.sentQueue.getLast? with
  | none =>
    rw [List.getLast?_eq_none_iff.mp hlast]
    simp only [Option.map_none, Option.getD_none, List.length_nil]
    omega
  | some c =>
    have hget : s.sentQueue[s.sentQueue.length - 1]? = some c := by
      rw [← hlast, List.getLast?_eq_getElem?]
    have hlt := (List.getElem?_eq_some_iff.mp hget).1
    have htsn := h.tsn_eq hget
    simp only [Option.map_some, Option.getD_some]
    omega

/-- **What a SACK acknowledges cumulatively**: `k` counts from `advancedPeerAckTsn`, and the first
`k` chunks are acknowledged. -/
lemma cumulative (h : Numbered s) {cum : ℤ} (hcum : 0 ≤ cum ∧ cum < 0x100000000)
    (hsent : uint32Gte (lastSentTsn s) cum = true) (hlen : s.sentQueue.length < 0x80000000) :
    ∃ k : ℤ, k ≤ s.sentQueue.length ∧ -0x80000000 < k ∧
      (cum - (s.advancedPeerAckTsn + k)) % 0x100000000 = 0 ∧
      (cumulativelyAcked cum s.sentQueue).length = k.toNat := by
  obtain ⟨hrange, hmod⟩ := h.lastSent
  have hd := emod_lt_of_uint32Gte hrange (by omega) hsent
  set d := (lastSentTsn s - cum) % 0x100000000 with hdef
  refine ⟨s.sentQueue.length - d, by omega, by omega, by omega, ?_⟩
  -- the chunk at the index `i` is `i + 1` after `advancedPeerAckTsn`
  have hchunk : ∀ (i : ℕ) (c : DataChunk), s.sentQueue[i]? = some c →
      (uint32Gte cum c.tsn = true ↔ (i : ℤ) + 1 ≤ s.sentQueue.length - d) := by
    intro i c hc
    have hlt := (List.getElem?_eq_some_iff.mp hc).1
    have htsn := h.tsn_eq hc
    rw [uint32Gte, Bool.or_eq_true, beq_iff_eq, uint32Gt_iff_emod hcum (by omega)]
    omega
  refine length_takeWhile_eq (by omega) (fun i c hi hc => ?_) fun c hc => ?_
  · exact (hchunk i c hc).mpr (by omega)
  · rw [← Bool.not_eq_true]
    intro hgte
    have := (hchunk _ c hc).mp hgte
    omega

end Numbered

/-! ## The FORWARD TSN -/

/-- The receiver knows the point, or can be told: it has been acknowledged; or its FORWARD TSN is
pending; or the FORWARD TSN has been sent, and T3 is armed and will give up another chunk. -/
inductive Forwarded (s : Sender) : Prop
  | acked (h : (s.advancedPeerAckTsn - s.lastSackedTsn) % 0x100000000 = 0)
  | pending {f : ForwardTsnChunk} (h : s.forwardTsnChunk = some f)
      (hf : f.cumulativeTsn = s.advancedPeerAckTsn)
  | sent {f : ForwardTsnChunk} {c : DataChunk} (h : Packet.forwardTsn f ∈ s.wire)
      (hf : f.cumulativeTsn = s.advancedPeerAckTsn) (htimer : s.timer3 = true)
      (hc : c ∈ s.sentQueue) (hover : c.shouldAbandon s.time = true)

/-- A chunk stays over its limits. -/
lemma shouldAbandon_mono {c : DataChunk} {now now' : ℚ} (h : now ≤ now')
    (hc : c.shouldAbandon now = true) : c.shouldAbandon now' = true := by
  unfold DataChunk.shouldAbandon at hc ⊢
  rw [Bool.or_eq_true] at hc ⊢
  refine hc.imp_right fun hexpiry => ?_
  cases hexp : c.expiry with
  | none => rw [hexp] at hexpiry; exact absurd hexpiry Bool.false_ne_true
  | some t =>
    rw [hexp] at hexpiry
    simp only [Bool.and_eq_true, decide_eq_true_eq] at hexpiry ⊢
    exact ⟨hexpiry.1, lt_of_lt_of_le hexpiry.2 h⟩

/-- Sending a chunk again does not bring it within its limits. -/
lemma shouldAbandon_resent {c : DataChunk} {now : ℚ} (hc : c.shouldAbandon now = true) :
    (resent c).shouldAbandon now = true := by
  unfold DataChunk.shouldAbandon at hc ⊢
  rw [Bool.or_eq_true] at hc ⊢
  refine hc.imp_left fun hcount => ?_
  have hlimit : (resent c).maxRetransmits = c.maxRetransmits := rfl
  have hcount' : (resent c).sentCount = c.sentCount + 1 := rfl
  rw [hlimit, hcount']
  cases hmax : c.maxRetransmits with
  | none => rw [hmax] at hcount; exact absurd hcount Bool.false_ne_true
  | some n =>
    rw [hmax] at hcount
    simp only [Bool.and_eq_true, decide_eq_true_eq] at hcount ⊢
    exact ⟨hcount.1, by omega⟩

/-- Chunks that are over their limits stay in the queue. -/
lemma overLimit_moves {s s' : Sender} {now : ℚ} (hm : Moves s s') {c : DataChunk}
    (hc : c ∈ s.sentQueue) (hover : c.shouldAbandon now = true) :
    ∃ d ∈ s'.sentQueue, d.shouldAbandon now = true := by
  cases hm with
  | quiet hsent => exact ⟨c, hsent ▸ hc, hover⟩
  | data _ hsent => exact ⟨c, hsent ▸ List.mem_append_left _ hc, hover⟩
  | @again i chunk hchunk _ hsent =>
    obtain ⟨j, hj⟩ := List.mem_iff_getElem?.mp hc
    by_cases hij : i = j
    · subst hij
      obtain rfl := Option.some.inj (hchunk.symm.trans hj)
      refine ⟨resent chunk, ?_, shouldAbandon_resent hover⟩
      rw [hsent]
      exact List.mem_of_getElem? (List.getElem?_set_self (List.getElem?_eq_some_iff.mp hj).1)
    · refine ⟨c, ?_, hover⟩
      rw [hsent]
      exact List.mem_of_getElem? (i := j) (by rw [List.getElem?_set_ne hij, hj])

namespace Forwarded

variable {s s' : Sender}

/-- What this depends on. -/
lemma congr (h : Forwarded s) (hadvanced : s'.advancedPeerAckTsn = s.advancedPeerAckTsn)
    (hlast : s'.lastSackedTsn = s.lastSackedTsn) (ho : SameOutput s s')
    (hsent : s'.sentQueue = s.sentQueue) (htime : s.time ≤ s'.time) : Forwarded s' := by
  cases h with
  | acked h => exact Forwarded.acked (by rw [hadvanced, hlast]; exact h)
  | pending h hf => exact Forwarded.pending (ho.forward.trans h) (hf.trans hadvanced.symm)
  | sent h hf ht hin hover =>
    exact Forwarded.sent (ho.wire h) (hf.trans hadvanced.symm) (ho.timer3 ht) (hsent ▸ hin)
      (shouldAbandon_mono htime hover)

/-- What `transmit` sends does no harm. -/
lemma transmit (h : Forwarded s) (hm : Moves s s') (hc : SameControl s s') (ho : SameOutput s s') :
    Forwarded s' := by
  cases h with
  | acked h =>
    exact Forwarded.acked (by rw [hc.advancedPeerAckTsn, hc.lastSackedTsn]; exact h)
  | pending h hf => exact Forwarded.pending (ho.forward.trans h) (hf.trans hc.advancedPeerAckTsn.symm)
  | sent h hf ht hin hover =>
    obtain ⟨d, hd, hover'⟩ := overLimit_moves hm hin hover
    exact Forwarded.sent (ho.wire h) (hf.trans hc.advancedPeerAckTsn.symm) (ho.timer3 ht) hd
      (by rw [hc.time]; exact hover')

/-- `updateAdvancedPeerAckPoint` only moves the point with a new FORWARD TSN. -/
lemma updateAdvancedPeerAckPoint (h : Forwarded { s with advancedPeerAckTsn := s.peerAckBase }) :
    Forwarded s.updateAdvancedPeerAckPoint := by
  obtain ⟨-, heq⟩ | ⟨init, chunk, hfront, heq⟩ := s.updateAdvancedPeerAckPoint_cases
  · rw [heq]
    exact h
  · rw [heq]
    exact Forwarded.pending rfl rfl

end Forwarded

/-- If a chunk is over its limits T3 gives up the head. -/
lemma takeWhile_expireChunks_ne_nil {now : ℚ} {q : List DataChunk} {c : DataChunk}
    (hnone : ∀ c ∈ q, c.abandoned = false) (hc : c ∈ q) (hover : c.shouldAbandon now = true) :
    (expireChunks now q).takeWhile DataChunk.abandoned ≠ [] := by
  obtain ⟨i, hi⟩ := List.mem_iff_getElem?.mp hc
  have hlimit : OverLimit now q q.length := ⟨i, (List.getElem?_eq_some_iff.mp hi).1, c, hi, hover⟩
  obtain ⟨d, rest, rfl⟩ := List.exists_cons_of_ne_nil (List.ne_nil_of_mem hc)
  have hhead := (@expireChunks_spec now _ hnone).given 0 d rfl hlimit (SameMessage.refl _ _)
  cases hq : expireChunks now (d :: rest) with
  | nil => rw [hq] at hhead; exact absurd hhead (by simp)
  | cons e l =>
    rw [hq] at hhead
    obtain rfl : e = d.abandon := by simpa using hhead
    rw [List.takeWhile_cons_of_pos rfl]
    exact List.cons_ne_nil _ _

/-- **T3 brings a new FORWARD TSN** if a chunk is over its limits. -/
lemma expire_pending {s : Sender} {c : DataChunk} (hk : KeptInv s) (hc : c ∈ s.sentQueue)
    (hover : c.shouldAbandon s.time = true) : ∃ f, s.expire.forwardTsnChunk = some f ∧
      f.cumulativeTsn = s.expire.advancedPeerAckTsn := by
  rw [expire_eq]
  obtain ⟨hnil, -⟩ | ⟨init, chunk, -, heq⟩ := s.markedByTimer.updateAdvancedPeerAckPoint_cases
  · exact absurd hnil (takeWhile_expireChunks_ne_nil hk.kept hc hover)
  · rw [heq]
    exact ⟨_, rfl, rfl⟩

/-- A state from which no reachable FORWARD TSN is lost. -/
structure ForwardInv (s : Sender) : Prop where
  kept : KeptInv s
  numbered : Numbered s
  forwarded : Forwarded s

/-- The condition on what happens next.  Less than `2 ^ 31` TSNs are outstanding and a SACK
acknowledges only what has been sent; and when the pending FORWARD TSN is cleared, the point has
been acknowledged, or its FORWARD TSN has been sent and a chunk is over its limits. -/
def ForwardOk (s : Sender) (e : Event) : Prop :=
  outstanding s < 0x80000000 ∧
    match e with
    | .receiveSack chunk => (0 ≤ chunk.cumulativeTsn ∧ chunk.cumulativeTsn < 0x100000000) ∧
        uint32Gte (lastSentTsn s) chunk.cumulativeTsn = true
    | .resume => s.transmit = .sendingForward →
        (s.advancedPeerAckTsn - s.lastSackedTsn) % SCTP_TSN_MODULO = 0 ∨
          (∃ f, Packet.forwardTsn f ∈ s.wire ∧ f.cumulativeTsn = s.advancedPeerAckTsn) ∧
            ∃ c ∈ s.sentQueue, c.shouldAbandon s.time = true
    | _ => True

namespace ForwardInv

variable {s s' : Sender}

lemma startTransmit (h : ForwardInv s) : ForwardInv s.startTransmit where
  kept := h.kept.moves (startTransmit_moves s)
  numbered := h.numbered.congr (queuedTsns_moves (startTransmit_moves s))
    (startTransmit_control s).advancedPeerAckTsn (startTransmit_control s).lastSackedTsn
    (startTransmit_control s).localTsn
  forwarded := h.forwarded.transmit (startTransmit_moves s) (startTransmit_control s)
    (startTransmit_output s)

/-- What is left when a SACK has been accounted for, and before `updateAdvancedPeerAckPoint`. -/
lemma accountSack (h : ForwardInv s) {chunk : SackChunk}
    (hold : uint32Gt s.lastSackedTsn chunk.cumulativeTsn = false)
    (hok : ForwardOk s (.receiveSack chunk)) :
    Numbered { s.accountSack chunk with advancedPeerAckTsn := (s.accountSack chunk).peerAckBase } ∧
      Forwarded
        { s.accountSack chunk with advancedPeerAckTsn := (s.accountSack chunk).peerAckBase } := by
  obtain ⟨hout, hcum, hsent⟩ := hok
  unfold outstanding SCTP_TSN_MODULO at hout
  have hadvanced := h.numbered.advanced
  have hlast := h.numbered.last
  have hstart := h.numbered.start
  obtain ⟨k, hkn, hk, hmod, hlen⟩ := h.numbered.cumulative hcum hsent (by omega)
  have hgt : uint32Gt chunk.cumulativeTsn s.advancedPeerAckTsn = true ↔ 0 < k := by
    rw [uint32Gt_iff_emod hcum hadvanced]
    omega
  have hbase : (s.accountSack chunk).peerAckBase =
      if uint32Gt chunk.cumulativeTsn s.advancedPeerAckTsn then chunk.cumulativeTsn
      else s.advancedPeerAckTsn := rfl
  have hbeyond : beyondCumulative chunk.cumulativeTsn s.sentQueue = s.sentQueue.drop k.toNat := by
    rw [← hlen]
    exact dropWhile_eq_drop _ _
  have htsns : queuedTsns (s.accountSack chunk) = (queuedTsns s).drop k.toNat := by
    have hqueue : (s.accountSack chunk).sentQueue.map DataChunk.tsn =
        (s.sentQueue.drop k.toNat).map DataChunk.tsn := by
      rw [← hbeyond]
      exact map_eq_of_unmarked (f := DataChunk.tsn) (fun _ => rfl) (unmarked_acknowledge s chunk)
    have hle : k.toNat ≤ (s.sentQueue.map DataChunk.tsn).length := by
      rw [List.length_map]
      omega
    unfold queuedTsns
    rw [List.map_append, hqueue, List.map_append, List.drop_append_of_le_length hle, List.map_drop]
    rfl
  have hle : k.toNat ≤ s.sentQueue.length := by omega
  by_cases hpos : 0 < k
  · -- the SACK goes beyond the point
    rw [hbase, if_pos (hgt.mpr hpos)]
    refine ⟨h.numbered.drop (k := k.toNat) hle htsns (by dsimp only; omega) (by dsimp only; omega)
      (by dsimp only; omega) ?_ rfl, Forwarded.acked ?_⟩
    · exact ⟨by change -1 ≤ chunk.cumulativeTsn; omega, hcum.2⟩
    · change (chunk.cumulativeTsn - chunk.cumulativeTsn) % 0x100000000 = 0
      omega
  · -- no chunk is acknowledged cumulatively
    rw [hbase, if_neg fun hgt' => hpos (hgt.mp hgt')]
    have hzero : k.toNat = 0 := by omega
    have hbehind := uint32Gt_of_emod hlast (by omega) hold
    have hnostart : s.advancedPeerAckTsn ≠ -1 := by
      intro hneg
      have hl := hstart hneg
      have hc : chunk.cumulativeTsn = 0xffffffff := by omega
      rw [hl, hc] at hold
      exact absurd hold (by decide)
    refine ⟨h.numbered.drop (k := k.toNat) hle htsns hadvanced (fun hneg => absurd hneg hnostart)
      (by dsimp only; omega) ?_ rfl, ?_⟩
    · exact ⟨by change -1 ≤ chunk.cumulativeTsn; omega, hcum.2⟩
    · cases h.forwarded with
      | acked hacked =>
        refine Forwarded.acked ?_
        change (s.advancedPeerAckTsn - chunk.cumulativeTsn) % 0x100000000 = 0
        omega
      | pending hf hcumf => exact Forwarded.pending hf hcumf
      | @sent f c hf hcumf htimer hc hover =>
        -- the chunk over its limits stays in the queue
        have hover' := map_eq_of_unmarked (f := DataChunk.shouldAbandon s.time) (fun _ => rfl)
          (unmarked_acknowledge s chunk)
        rw [hbeyond, hzero, List.drop_zero] at hover'
        have hmem : true ∈ (s.acknowledge chunk).queue.map (DataChunk.shouldAbandon s.time) := by
          rw [hover']
          exact List.mem_map.mpr ⟨c, hc, hover⟩
        obtain ⟨d, hd, hdover⟩ := List.mem_map.mp hmem
        refine Forwarded.sent hf hcumf ?_ hd hdover
        change (!(s.acknowledge chunk).queue.isEmpty && (s.timer3 || _)) = true
        rw [List.isEmpty_eq_false_iff.mpr (List.ne_nil_of_mem hd), htimer]
        rfl

lemma timer3Expired (h : ForwardInv s) (hout : outstanding s < 0x80000000) :
    ForwardInv s.timer3Expired := by
  unfold outstanding SCTP_TSN_MODULO at hout
  refine ForwardInv.startTransmit ?_
  have hadvanced := h.numbered.advanced
  have hlast := h.numbered.last
  have htsns : queuedTsns s.markedByTimer = queuedTsns s := by
    have hqueue := map_eq_of_unmarked (f := DataChunk.tsn) (fun _ => rfl)
      (@unmarked_expireChunks s.time _ h.kept.kept)
    change (expireChunks s.time s.sentQueue ++ s.outboundQueue).map DataChunk.tsn = queuedTsns s
    rw [List.map_append, hqueue, ← List.map_append]
    rfl
  -- with less than half a lap outstanding, the last SACK is not ahead of the point
  have hbase : s.markedByTimer.peerAckBase = s.advancedPeerAckTsn ∨
      s.markedByTimer.peerAckBase = s.lastSackedTsn ∧
        (s.advancedPeerAckTsn - s.lastSackedTsn) % 0x100000000 = 0 := by
    change (if uint32Gt s.lastSackedTsn s.advancedPeerAckTsn then s.lastSackedTsn
      else s.advancedPeerAckTsn) = _ ∨ (if uint32Gt s.lastSackedTsn s.advancedPeerAckTsn then
        s.lastSackedTsn else s.advancedPeerAckTsn) = _ ∧ _
    split_ifs with hgt
    · refine Or.inr ⟨rfl, ?_⟩
      have := emod_lt_of_uint32Gte hlast hadvanced (by rw [uint32Gte, hgt, Bool.or_true])
      omega
    · exact Or.inl rfl
  rw [expire_eq]
  refine ⟨by rw [← expire_eq]; exact h.kept.expire, ?_, ?_⟩
  · refine Numbered.updateAdvancedPeerAckPoint ?_
    rcases hbase with heq | ⟨heq, hmod⟩ <;> rw [heq]
    · exact h.numbered.congr htsns rfl rfl rfl
    · exact h.numbered.drop (k := 0) (Nat.zero_le _) htsns hlast id
        (by dsimp only; omega) hlast rfl
  · have hpending : ∀ {f : ForwardTsnChunk}, s.forwardTsnChunk = some f →
        f.cumulativeTsn = s.advancedPeerAckTsn →
          Forwarded s.markedByTimer.updateAdvancedPeerAckPoint := by
      intro f hf hcum
      refine Forwarded.updateAdvancedPeerAckPoint ?_
      rcases hbase with heq | ⟨heq, hmod⟩ <;> rw [heq]
      · exact Forwarded.pending hf hcum
      · refine Forwarded.acked ?_
        change (s.lastSackedTsn - s.lastSackedTsn) % 0x100000000 = 0
        omega
    cases h.forwarded with
    | acked hacked =>
      refine Forwarded.updateAdvancedPeerAckPoint (Forwarded.acked ?_)
      have hl : s.markedByTimer.lastSackedTsn = s.lastSackedTsn := rfl
      dsimp only
      rcases hbase with heq | ⟨heq, -⟩ <;> rw [heq, hl]
      · exact hacked
      · omega
    | pending hf hcum => exact hpending hf hcum
    | sent _ _ _ hc hover =>
      obtain ⟨f, hf, hcum⟩ := expire_pending h.kept hc hover
      rw [expire_eq] at hf hcum
      exact Forwarded.pending hf hcum

lemma resume (h : ForwardInv s) (hok : ForwardOk s .resume) (hs : s.resume = some s') :
    ForwardInv s' := by
  have hnumbered := h.numbered.congr (queuedTsns_moves (resume_moves hs))
    (resume_control hs).advancedPeerAckTsn (resume_control hs).lastSackedTsn
    (resume_control hs).localTsn
  refine ⟨h.kept.moves (resume_moves hs), hnumbered, ?_⟩
  by_cases hpc : s.transmit = .sendingForward
  · -- the pending FORWARD TSN is cleared
    have hclear : Forwarded { s with forwardTsnChunk := none, timer3 := true } := by
      rcases hok.2 hpc with hacked | ⟨⟨f, hf, hcum⟩, c, hc, hover⟩
      · exact Forwarded.acked hacked
      · exact Forwarded.sent hf hcum rfl hc hover
    unfold Sender.resume at hs
    rw [hpc] at hs
    obtain rfl := Option.some.inj hs
    have hp := transmitChunks_proceeds { s with forwardTsnChunk := none, timer3 := true }
    exact hclear.transmit hp.moves hp.control hp.output
  · exact h.forwarded.transmit (resume_moves hs) (resume_control hs) (resume_output hs hpc)

/-- What a step that meets the condition preserves. -/
lemma step (h : ForwardInv s) {e : Event} (hok : ForwardOk s e) (hs : s.step e = some s') :
    ForwardInv s' := by
  cases e with
  | send a =>
    obtain rfl := Option.some.inj hs
    refine ForwardInv.startTransmit ⟨h.kept.enqueue a, h.numbered.enqueue a, ?_⟩
    exact h.forwarded.congr rfl rfl ⟨rfl, id, List.Subset.refl _⟩ rfl le_rfl
  | receiveSack chunk =>
    have hkept := h.kept.step hs
    obtain rfl := Option.some.inj hs
    unfold receiveSackChunk at hkept ⊢
    split_ifs at hkept ⊢ with hold
    · exact h
    · obtain ⟨hnumbered, hforwarded⟩ := h.accountSack (by simpa using hold) hok
      exact ⟨hkept, hnumbered.updateAdvancedPeerAckPoint, hforwarded.updateAdvancedPeerAckPoint⟩
  | sackHandled =>
    obtain ⟨-, hs⟩ := Option.ite_none_right_eq_some.mp hs
    obtain rfl := Option.some.inj hs
    refine ForwardInv.startTransmit ⟨⟨h.kept.kept, h.kept.fresh⟩, h.numbered.congr rfl rfl rfl rfl, ?_⟩
    exact h.forwarded.congr rfl rfl ⟨rfl, id, List.Subset.refl _⟩ rfl le_rfl
  | resume => exact h.resume hok hs
  | timer3Expired =>
    obtain ⟨-, hs⟩ := Option.ite_none_right_eq_some.mp hs
    obtain rfl := Option.some.inj hs
    exact h.timer3Expired hok.1
  | receiveInit advertisedRwnd =>
    obtain rfl := Option.some.inj hs
    refine ⟨⟨h.kept.kept, h.kept.fresh⟩, h.numbered.congr rfl rfl rfl rfl, ?_⟩
    exact h.forwarded.congr rfl rfl ⟨rfl, id, List.Subset.refl _⟩ rfl le_rfl
  | tick now =>
    obtain ⟨hle, hs⟩ := Option.ite_none_right_eq_some.mp hs
    obtain rfl := Option.some.inj hs
    refine ⟨⟨h.kept.kept, h.kept.fresh⟩, h.numbered.congr rfl rfl rfl rfl, ?_⟩
    exact h.forwarded.congr rfl rfl ⟨rfl, id, List.Subset.refl _⟩ rfl hle

end ForwardInv

/-- The receiver can be told about a point that is ahead of what it has acknowledged: the FORWARD
TSN is pending; or it has been sent, T3 is armed, and whenever it expires a FORWARD TSN for the
point is pending again. -/
def ForwardTsnKept (s : Sender) : Prop :=
  uint32Gt s.advancedPeerAckTsn s.lastSackedTsn = true →
    (∃ f, s.forwardTsnChunk = some f ∧ f.cumulativeTsn = s.advancedPeerAckTsn) ∨
      ((∃ f, Packet.forwardTsn f ∈ s.wire ∧ f.cumulativeTsn = s.advancedPeerAckTsn) ∧
        s.timer3 = true ∧ ∀ now, s.time ≤ now →
          ∃ f, ({ s with time := now }.expire).forwardTsnChunk = some f ∧
            f.cumulativeTsn = ({ s with time := now }.expire).advancedPeerAckTsn)

lemma ForwardInv.forwardTsnKept {s : Sender} (h : ForwardInv s) : ForwardTsnKept s := by
  intro hahead
  cases h.forwarded with
  | acked hacked =>
    have hadvanced := h.numbered.advanced
    by_cases hneg : s.advancedPeerAckTsn = -1
    · rw [hneg, h.numbered.start hneg, uint32Gt_self] at hahead
      exact absurd hahead Bool.false_ne_true
    · rw [uint32Gt_iff_emod (by omega) h.numbered.last] at hahead
      omega
  | pending hf hcum => exact Or.inl ⟨_, hf, hcum⟩
  | sent hf hcum htimer hc hover =>
    refine Or.inr ⟨⟨_, hf, hcum⟩, htimer, fun now hnow => ?_⟩
    exact expire_pending (s := { s with time := now }) ⟨h.kept.kept, h.kept.fresh⟩ hc
      (shouldAbandon_mono hnow hover)

/-- **A FORWARD TSN is not lost** in a run in which the pending one is only cleared when T3 can bring
it back. -/
theorem forwardTsn_kept {maxPayloadSize rwnd : ℕ} {localTsn : ℤ} {s : Sender} (h0 : 0 ≤ localTsn)
    (hlt : localTsn < 0x100000000)
    (h : Run Sender.step ForwardOk (Sender.initial maxPayloadSize localTsn rwnd) s) :
    ForwardTsnKept s := by
  refine (h.invariant ForwardInv ?_ fun s e s' hs hok hstep => hs.step hok hstep).forwardTsnKept
  refine ⟨KeptInv.initial _ _ _, Numbered.initial h0 hlt, Forwarded.acked ?_⟩
  change (tsnMinusOne localTsn - tsnMinusOne localTsn) % 0x100000000 = 0
  omega

/-- A message that is sent again once at most. -/
def onceAgain (ordered : Bool) : SendArgs :=
  { streamId := 0, ppId := 53, userData := [1], maxRetransmits := some 1, ordered }

/-- A message that is sent again once at most. -/
def oneRetry : SendArgs := { streamId := 0, ppId := 53, userData := [1], maxRetransmits := some 1 }

/-- The message is sent, sent again when T3 expires, and given up when it expires again. -/
theorem forwardTsn_kept_given_up : ∃ s, Run Sender.step ForwardOk defaultSender s ∧
    uint32Gt s.advancedPeerAckTsn s.lastSackedTsn = true ∧ ForwardTsnKept s := by
  have hrun : ∀ s, [Event.send oneRetry, .resume, .resume, .timer3Expired, .resume, .resume,
      .timer3Expired].foldlM (fun s e => if decide (outstanding s < 0x80000000) && (match e with
        | .receiveSack _ => false
        | .resume => s.transmit != .sendingForward
        | _ => true) then Sender.step s e else none) defaultSender = some s →
          Run Sender.step ForwardOk defaultSender s := by
    refine fun s hs => Run.of_checked (fun s e hcheck => ?_) hs
    rw [Bool.and_eq_true, decide_eq_true_eq] at hcheck
    refine ⟨hcheck.1, ?_⟩
    have hmatch := hcheck.2
    cases e with
    | receiveSack => exact absurd hmatch Bool.false_ne_true
    | resume => exact fun hpc => absurd hpc (by simpa using hmatch)
    | _ => trivial
  refine ⟨_, hrun _ rfl, by decide, forwardTsn_kept (by decide) (by decide) (hrun _ rfl)⟩

/-- The message has been given up and its FORWARD TSN has been sent.  The packet is lost.  Nothing is
left in the queue, so T3 does not bring it back. -/
theorem forwardTsn_lost : ¬ ∀ s : Sender, Reachable Sender.step defaultSender s →
    ForwardTsnKept s := by
  intro h
  obtain ⟨s, hs, hahead, hnone, hexpire⟩ : ∃ s, [Event.send oneRetry, .resume, .resume,
      .timer3Expired, .resume, .resume, .timer3Expired, .resume].foldlM Sender.step defaultSender =
        some s ∧ uint32Gt s.advancedPeerAckTsn s.lastSackedTsn = true ∧ s.forwardTsnChunk = none ∧
          ({ s with time := s.time }.expire).forwardTsnChunk = none :=
    ⟨_, rfl, by decide, by decide, by decide⟩
  rcases h s (reachable_of_foldlM hs) hahead with ⟨f, hf, -⟩ | ⟨-, -, hkept⟩
  · rw [hnone] at hf
    exact absurd hf (by simp)
  · obtain ⟨f, hf, -⟩ := hkept s.time le_rfl
    rw [hexpire] at hf
    exact absurd hf (by simp)

end Werift.Sctp
