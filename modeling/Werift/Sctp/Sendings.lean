import Werift.Sctp.Marking

/-!
# How often a chunk is sent

The chunks of a sender are numbered in the order in which `send` queues them, so that a number, unlike
a TSN, names one chunk for ever: the chunk at the index `i` of `sentQueue` followed by
`outboundQueue` is number `removed + i`.  A `Traced` sender also remembers all its chunks and which
of them has been put on the wire at what time.

A chunk is marked for retransmission only when `maybeAbandon` has found it within its limits.  So a
chunk with a limit `n` other than `0` is put on the wire at most `n + 1` times (`Counted.bounded`);
`Counted.step` is the step from which this follows for every run.
-/

namespace Werift.Sctp

open Sender Transition

namespace Sender

/-- The chunks that have been queued and have not left the queues. -/
def pending (s : Sender) : List DataChunk := s.sentQueue ++ s.outboundQueue

/-- The number of the chunk that the step from `s` to `s'` has put on the wire. -/
def numberSent (s s' : Sender) : Option ℕ :=
  if s'.wire.length = s.wire.length then none
  else
    match s'.transmit with
    | .sendingRetransmit position _ _ => some (position - 1)
    | .sendingData _ => some (s'.removed + s'.sentQueue.length - 1)
    | _ => none

/-- The chunks that an event queues. -/
def newChunks (s : Sender) : Event → List DataChunk
  | .send a => a.chunks s.maxPayloadSize s.localTsn (s.outboundStreamSeq a.streamId)
  | _ => []

lemma numberSent_of_wire_eq {s s' : Sender} (h : s'.wire = s.wire) : numberSent s s' = none := by
  rw [numberSent, if_pos (by rw [h])]

lemma numberSent_congr {s t s' : Sender} (h : t.wire = s.wire) :
    numberSent t s' = numberSent s s' := by
  rw [numberSent, numberSent, h]

end Sender

/-- A sender with its past: `chunks` are all chunks that have been queued, and `sendings` are the
numbers of the chunks that have been put on the wire, with the times. -/
structure Traced where
  sender : Sender
  chunks : List DataChunk := []
  sendings : List (ℕ × ℚ) := []

namespace Traced

/-- The sender goes on to `s'`. -/
def record (t : Traced) (new : List DataChunk) (s' : Sender) : Traced where
  sender := s'
  chunks := t.chunks ++ new
  sendings := t.sendings ++ ((numberSent t.sender s').map fun k => (k, s'.time)).toList

/-- A step of the sender. -/
def step (t : Traced) (e : Event) : Option Traced :=
  (t.sender.step e).map (t.record (newChunks t.sender e))

/-- The times at which a chunk has been put on the wire. -/
def sentAt (t : Traced) (k : ℕ) : List ℚ := (t.sendings.filter fun p => p.1 == k).map Prod.snd

lemma step_eq_some {t t' : Traced} {e : Event} : t.step e = some t' ↔
    ∃ s', t.sender.step e = some s' ∧ t' = t.record (newChunks t.sender e) s' := by
  rw [step, Option.map_eq_some_iff]
  exact exists_congr fun s' => and_congr_right fun _ => eq_comm

/-- Nothing has been put on the wire. -/
lemma record_of_wire_eq {t : Traced} {s' : Sender} (h : s'.wire = t.sender.wire) :
    t.record [] s' = { t with sender := s' } := by
  rw [record, numberSent_of_wire_eq h, List.append_nil, Option.map_none, Option.toList_none,
    List.append_nil]

/-- What a sender does before it transmits does not matter. -/
lemma record_congr (t : Traced) {s s' : Sender} (h : s.wire = t.sender.wire) :
    { t with sender := s }.record [] s' = t.record [] s' := by
  rw [record, record, numberSent_congr h]

/-- The times of a chunk after one more sending. -/
lemma length_sentAt_append (t : Traced) (s' : Sender) (new : List DataChunk) (j k : ℕ) (time : ℚ) :
    (sentAt ⟨s', new, t.sendings ++ [(j, time)]⟩ k).length =
      (t.sentAt k).length + if j = k then 1 else 0 := by
  unfold sentAt
  rw [List.filter_append, List.map_append, List.length_append]
  by_cases hjk : j = k
  · simp [hjk]
  · simp [hjk]

end Traced

/-! ## Chunks within their limit -/

/-- The chunk has not been sent too often, and sending it again is allowed if it waits for that. -/
def WithinLimit (c : DataChunk) : Prop :=
  ∀ n, c.maxRetransmits = some n → n ≠ 0 →
    c.sentCount ≤ n + 1 ∧ (c.retransmit = true → c.sentCount ≤ n)

namespace WithinLimit

lemma congr {c d : DataChunk} (h : WithinLimit c) (hlimit : d.maxRetransmits = c.maxRetransmits)
    (hcount : d.sentCount = c.sentCount) (hretransmit : d.retransmit = true → c.retransmit = true) :
    WithinLimit d := by
  intro n hn h0
  rw [hlimit] at hn
  obtain ⟨hle, hagain⟩ := h n hn h0
  rw [hcount]
  exact ⟨hle, fun hr => hagain (hretransmit hr)⟩

/-- A chunk that is not given up may be sent again. -/
lemma marked {c d : DataChunk} {now : ℚ} (h : c.shouldAbandon now = false)
    (hlimit : d.maxRetransmits = c.maxRetransmits) (hcount : d.sentCount = c.sentCount) :
    WithinLimit d := by
  intro n hn h0
  rw [hlimit] at hn
  have hle : c.sentCount ≤ n := by
    by_contra hgt
    have htrue : c.shouldAbandon now = true := by
      simp [DataChunk.shouldAbandon, hn, h0, Nat.lt_of_not_le hgt]
    rw [htrue] at h
    exact absurd h (by decide)
  rw [hcount]
  exact ⟨by omega, fun _ => hle⟩

/-- A chunk that is sent once more. -/
lemma resent {c : DataChunk} (h : WithinLimit c) (hretransmit : c.retransmit = true) :
    WithinLimit (resent c) := by
  intro n hn h0
  have hle := (h n hn h0).2 hretransmit
  exact ⟨Nat.succ_le_succ hle, fun hr => absurd hr Bool.false_ne_true⟩

/-- A chunk that is sent for the first time. -/
lemma first {c : DataChunk} (hcount : c.sentCount = 0) (hretransmit : c.retransmit = false) :
    WithinLimit { c with sentCount := c.sentCount + 1 } := by
  intro n hn h0
  dsimp only
  rw [hcount, hretransmit]
  exact ⟨by omega, fun hr => absurd hr Bool.false_ne_true⟩

end WithinLimit

lemma within_abandonUntilLast {q : List DataChunk} (h : ∀ c ∈ q, WithinLimit c) :
    ∀ c ∈ abandonUntilLast q, WithinLimit c := by
  induction q with
  | nil => exact h
  | cons c q ih =>
    obtain ⟨hc, hq⟩ := List.forall_mem_cons.mp h
    have hhead : WithinLimit c.abandon :=
      hc.congr rfl rfl fun hr => absurd hr Bool.false_ne_true
    rw [abandonUntilLast]
    refine List.forall_mem_cons.mpr ⟨hhead, ?_⟩
    split_ifs
    · exact hq
    · exact ih hq

/-- Replacing a chunk of the queue. -/
lemma within_set {q : List DataChunk} (h : ∀ c ∈ q, WithinLimit c) {i : ℕ} {d : DataChunk}
    (hd : WithinLimit d) : ∀ c ∈ q.set i d, WithinLimit c := by
  intro c hc
  rcases List.mem_or_eq_of_mem_set hc with hc | rfl
  · exact h c hc
  · exact hd

lemma within_modify {q : List DataChunk} (h : ∀ c ∈ q, WithinLimit c) {i : ℕ}
    {f : DataChunk → DataChunk} (hf : ∀ c, q[i]? = some c → WithinLimit (f c)) :
    ∀ c ∈ q.modify i f, WithinLimit c := by
  intro c hc
  obtain ⟨j, hj⟩ := List.mem_iff_getElem?.mp hc
  rw [List.getElem?_modify] at hj
  obtain ⟨d, hd, hdc⟩ := Option.map_eq_some_iff.mp hj
  split_ifs at hdc with hij
  · subst hij
    exact hdc ▸ hf d hd
  · exact hdc ▸ h d (List.mem_of_getElem? hd)

/-- The callback of the T3 timer marks only chunks that `maybeAbandon` keeps. -/
lemma within_expireAt {now : ℚ} {q : List DataChunk} (h : ∀ c ∈ q, WithinLimit c) (i : ℕ) :
    ∀ c ∈ expireAt now q i, WithinLimit c := by
  unfold expireAt
  cases hi : q[i]? with
  | none => exact h
  | some c =>
    dsimp only
    cases hab : c.abandoned with
    | true =>
      rw [maybeAbandon_of_abandoned hab, if_pos rfl]
      exact h
    | false =>
      cases hs : c.shouldAbandon now with
      | true =>
        rw [maybeAbandon_eq hab hs, if_pos rfl]
        exact within_abandonUntilLast h
      | false =>
        rw [maybeAbandon_of_not hab hs, if_neg Bool.false_ne_true]
        apply within_modify h
        intro d hd
        obtain rfl := Option.some.inj (hi.symm.trans hd)
        exact WithinLimit.marked hs rfl rfl

lemma within_expireChunks {now : ℚ} {q : List DataChunk} (h : ∀ c ∈ q, WithinLimit c) :
    ∀ c ∈ expireChunks now q, WithinLimit c := by
  unfold expireChunks
  generalize List.range q.length = indices
  induction indices generalizing q with
  | nil => exact h
  | cons i indices ih =>
    rw [List.foldl_cons]
    exact ih (within_expireAt h i)

/-- The loop over the missing chunks marks only chunks that `maybeAbandon` keeps. -/
lemma StrikeCase.within {now : ℚ} {seen : List ℤ} {st st' : Strikes} {i : ℕ}
    (hcase : StrikeCase now seen st i st') (h : ∀ c ∈ st.queue, WithinLimit c) :
    ∀ c ∈ st'.queue, WithinLimit c := by
  cases hcase with
  | same => exact h
  | @miss c hc => exact within_set h ((h c (List.mem_of_getElem? hc)).congr rfl rfl id)
  | @lost c hc _ _ hkeep =>
    apply within_set h
    rcases hkeep with hab | hs
    · apply (h c (List.mem_of_getElem? hc)).congr (d := Sender.lost c.abandoned (struck c)) rfl rfl
      intro hr
      simpa [Sender.lost, struck, hab] using hr
    · exact WithinLimit.marked hs rfl rfl
  | @given c hc =>
    have hstruck : ∀ d ∈ st.queue.set i (struck c), WithinLimit d :=
      within_set h ((h c (List.mem_of_getElem? hc)).congr rfl rfl id)
    have hgiven := within_abandonUntilLast hstruck
    apply within_modify hgiven
    intro d hd
    apply (hgiven d (List.mem_of_getElem? hd)).congr (d := Sender.lost true d) rfl rfl
    intro hr
    simpa [Sender.lost] using hr

lemma within_acknowledge {s : Sender} (h : ∀ c ∈ s.sentQueue, WithinLimit c) (chunk : SackChunk) :
    ∀ c ∈ (s.acknowledge chunk).queue, WithinLimit c := by
  have hrest : ∀ c ∈ beyondCumulative chunk.cumulativeTsn s.sentQueue, WithinLimit c :=
    fun c hc => h c ((List.dropWhile_sublist _).subset hc)
  unfold acknowledge handleGaps
  split_ifs
  · exact hrest
  · unfold strikeMissing
    have hgaps : ∀ c ∈ (afterGaps chunk (beyondCumulative chunk.cumulativeTsn s.sentQueue)
        (flightSizeDecrease s.flightSize (doneChunks chunk.cumulativeTsn s.sentQueue))).queue,
        WithinLimit c := by
      intro d hd
      rcases mem_ackGaps_cases hd with hd | ⟨c, -, hc, rfl⟩
      · exact hrest d hd
      · exact (hrest c hc).congr rfl rfl id
    generalize List.range _ = indices
    revert hgaps
    generalize afterGaps chunk _ _ = st
    induction indices generalizing st with
    | nil => exact id
    | cons i indices ih =>
      intro hst
      rw [List.foldl_cons]
      exact ih _ ((strikeAt_case _ _ _ _).within hst)

/-! ## What every step preserves -/

/-- The record agrees with the counters of the chunks, and no chunk has been sent too often. -/
structure Counted (t : Traced) : Prop where
  length : t.chunks.length = t.sender.removed + t.sender.pending.length
  limits : t.sender.pending.map DataChunk.maxRetransmits =
    (t.chunks.drop t.sender.removed).map DataChunk.maxRetransmits
  counts : ∀ i c, t.sender.pending[i]? = some c →
    (t.sentAt (t.sender.removed + i)).length = c.sentCount
  within : ∀ c ∈ t.sender.sentQueue, WithinLimit c
  fresh : ∀ c ∈ t.sender.outboundQueue, c.sentCount = 0 ∧ c.retransmit = false
  future : ∀ k, t.chunks.length ≤ k → t.sentAt k = []
  bounded : ∀ k c n, t.chunks[k]? = some c → c.maxRetransmits = some n → n ≠ 0 →
    (t.sentAt k).length ≤ n + 1

namespace Counted

variable {t : Traced} {s' : Sender}

/-- Nothing has been queued yet. -/
lemma initial (maxPayloadSize : ℕ) (localTsn : ℤ) (rwnd : ℕ) :
    Counted { sender := Sender.initial maxPayloadSize localTsn rwnd } where
  length := rfl
  limits := rfl
  counts := fun i c hc => by simp [Sender.initial, pending] at hc
  within := fun _ hc => absurd hc List.not_mem_nil
  fresh := fun _ hc => absurd hc List.not_mem_nil
  future := fun _ _ => rfl
  bounded := fun _ _ n _ _ _ => Nat.zero_le (n + 1)

/-- The limit of a pending chunk is the one it has been queued with. -/
lemma limit (h : Counted t) {i : ℕ} {c : DataChunk} (hc : t.sender.pending[i]? = some c) :
    (t.chunks[t.sender.removed + i]?).map DataChunk.maxRetransmits = some c.maxRetransmits := by
  have hget := congrArg (fun l => l[i]?) h.limits
  rw [List.getElem?_map, List.getElem?_map, List.getElem?_drop, hc] at hget
  exact hget.symm

/-- Chunks are marked, and the first `d` of `sentQueue` leave it. -/
lemma remark (h : Counted t) {d : ℕ} (hd : d ≤ t.sender.sentQueue.length)
    (hremoved : s'.removed = t.sender.removed + d)
    (hsent : s'.sentQueue.map DataChunk.unmarked =
      (t.sender.sentQueue.drop d).map DataChunk.unmarked)
    (hout : s'.outboundQueue = t.sender.outboundQueue)
    (hwithin : ∀ c ∈ s'.sentQueue, WithinLimit c) : Counted { t with sender := s' } := by
  have hmap : s'.pending.map DataChunk.unmarked =
      (t.sender.pending.drop d).map DataChunk.unmarked := by
    rw [pending, pending, List.drop_append_of_le_length hd, List.map_append, List.map_append, hsent,
      hout]
  have hlen : s'.pending.length = t.sender.pending.length - d := by
    simpa using congrArg List.length hmap
  have hle : d ≤ t.sender.pending.length := by
    rw [pending, List.length_append]
    omega
  refine ⟨?_, ?_, ?_, hwithin, hout ▸ h.fresh, h.future, h.bounded⟩
  · have := h.length
    dsimp only
    omega
  · dsimp only
    rw [map_eq_of_unmarked (fun _ => rfl) hmap, List.map_drop, h.limits, hremoved, ← List.map_drop,
      List.drop_drop]
  · intro i c hc
    have hcount : (s'.pending.map DataChunk.sentCount)[i]? =
        ((t.sender.pending.drop d).map DataChunk.sentCount)[i]? := by
      rw [map_eq_of_unmarked (fun _ => rfl) hmap]
    rw [List.getElem?_map, List.getElem?_map, List.getElem?_drop, hc, Option.map_some] at hcount
    obtain ⟨e, he, hec⟩ := Option.map_eq_some_iff.mp hcount.symm
    have := h.counts (d + i) e he
    rw [← hec, ← this, hremoved, Nat.add_assoc]
    rfl

/-- Only the queues matter. -/
lemma congr (h : Counted t) (hremoved : s'.removed = t.sender.removed)
    (hsent : s'.sentQueue = t.sender.sentQueue) (hout : s'.outboundQueue = t.sender.outboundQueue) :
    Counted { t with sender := s' } :=
  h.remark (Nat.zero_le _) hremoved (by rw [hsent]; rfl) hout (hsent ▸ h.within)

/-- Nothing is put on the wire, and the queues stay. -/
lemma quiet (h : Counted t) (hwire : s'.wire = t.sender.wire) (hremoved : s'.removed = t.sender.removed)
    (hsent : s'.sentQueue = t.sender.sentQueue) (hout : s'.outboundQueue = t.sender.outboundQueue) :
    Counted (t.record [] s') := by
  rw [Traced.record_of_wire_eq hwire]
  exact h.congr hremoved hsent hout

/-- A message is queued. -/
lemma enqueue (h : Counted t) (a : SendArgs) :
    Counted ⟨t.sender.enqueue a, t.chunks ++ newChunks t.sender (.send a), t.sendings⟩ := by
  have hpending : (t.sender.enqueue a).pending = t.sender.pending ++ newChunks t.sender (.send a) :=
    (List.append_assoc _ _ _).symm
  have hnew : ∀ c ∈ newChunks t.sender (.send a), c.sentCount = 0 ∧ c.retransmit = false := by
    intro c hc
    obtain ⟨i, -, rfl⟩ := SendArgs.mem_chunks.mp hc
    exact ⟨rfl, rfl⟩
  have hlength := h.length
  have hremoved : t.sender.removed ≤ t.chunks.length := by omega
  refine ⟨?_, ?_, ?_, h.within, ?_, ?_, ?_⟩
  · rw [hpending, List.length_append, List.length_append, hlength]
    exact Nat.add_assoc _ _ _
  · rw [hpending, List.map_append, h.limits]
    change _ = ((t.chunks ++ _).drop t.sender.removed).map _
    rw [List.drop_append_of_le_length hremoved, List.map_append]
  · intro i c hc
    rw [hpending] at hc
    rcases Nat.lt_or_ge i t.sender.pending.length with hi | hi
    · rw [List.getElem?_append_left hi] at hc
      exact h.counts i c hc
    · rw [List.getElem?_append_right hi] at hc
      have hnone : t.sentAt (t.sender.removed + i) = [] := h.future _ (by omega)
      rw [(hnew c (List.mem_of_getElem? hc)).1]
      exact List.length_eq_zero_iff.mpr hnone
  · intro c hc
    rcases List.mem_append.mp hc with hc | hc
    · exact h.fresh c hc
    · exact hnew c hc
  · intro k hk
    rw [List.length_append] at hk
    exact h.future k (by omega)
  · intro k c n hc hn h0
    rcases Nat.lt_or_ge k t.chunks.length with hk | hk
    · rw [List.getElem?_append_left hk] at hc
      exact h.bounded k c n hc hn h0
    · have hnone : t.sentAt k = [] := h.future k hk
      exact le_of_eq_of_le (List.length_eq_zero_iff.mpr hnone) (Nat.zero_le _)

/-- A chunk of the queues is put on the wire. -/
lemma sending (h : Counted t) {i : ℕ} {c d : DataChunk} (hc : t.sender.pending[i]? = some c)
    (hpending : s'.pending = t.sender.pending.set i d) (hremoved : s'.removed = t.sender.removed)
    (hlimit : d.maxRetransmits = c.maxRetransmits) (hcount : d.sentCount = c.sentCount + 1)
    (hd : WithinLimit d) (hwithin : ∀ e ∈ s'.sentQueue, WithinLimit e)
    (hfresh : ∀ e ∈ s'.outboundQueue, e.sentCount = 0 ∧ e.retransmit = false)
    (hnumber : numberSent t.sender s' = some (t.sender.removed + i)) :
    Counted (t.record [] s') := by
  have hlt : i < t.sender.pending.length := (List.getElem?_eq_some_iff.mp hc).1
  have hrecord : t.record [] s' =
      ⟨s', t.chunks, t.sendings ++ [(t.sender.removed + i, s'.time)]⟩ := by
    rw [Traced.record, hnumber, List.append_nil]
    rfl
  have hsent : ∀ k, ((t.record [] s').sentAt k).length =
      (t.sentAt k).length + if t.sender.removed + i = k then 1 else 0 := fun k => by
    rw [hrecord]
    exact t.length_sentAt_append _ _ _ _ _
  have hlength := h.length
  refine ⟨?_, ?_, ?_, hwithin, hfresh, ?_, ?_⟩
  · rw [hrecord]
    dsimp only
    rw [hpending, hremoved, List.length_set, hlength]
  · rw [hrecord]
    dsimp only
    rw [hpending, hremoved, ← h.limits]
    exact Queue.map_set_eq hc hlimit
  · intro j e he
    have he : s'.pending[j]? = some e := he
    rw [hsent]
    change (t.sentAt (s'.removed + j)).length + _ = _
    rw [hremoved]
    change _ + (if t.sender.removed + i = s'.removed + j then 1 else 0) = _
    rw [hremoved]
    rw [hpending] at he
    by_cases hij : i = j
    · subst hij
      rw [List.getElem?_set_self hlt] at he
      obtain rfl := Option.some.inj he
      rw [if_pos rfl, hcount, h.counts i c hc]
    · rw [List.getElem?_set_ne hij] at he
      rw [if_neg (by omega), h.counts j e he, Nat.add_zero]
  · intro k hk
    rw [hrecord] at hk
    have hk : t.chunks.length ≤ k := hk
    apply List.length_eq_zero_iff.mp
    rw [hsent, h.future k hk, if_neg (by omega)]
    rfl
  · intro k e n he hn h0
    rw [hrecord] at he
    have he : t.chunks[k]? = some e := he
    rw [hsent]
    by_cases hk : t.sender.removed + i = k
    · subst hk
      have hlim := h.limit hc
      rw [he, Option.map_some, Option.some.injEq] at hlim
      have hle := (hd n (by rw [hlimit, ← hlim, hn]) h0).1
      rw [if_pos rfl, h.counts i c hc]
      omega
    · rw [if_neg hk, Nat.add_zero]
      exact h.bounded k e n he hn h0

/-- `transmit` goes on to its next wait. -/
lemma proceeds (h : Counted t) (hp : Proceeds t.sender s') : Counted (t.record [] s') := by
  cases hp with
  | finish => exact h.quiet rfl rfl rfl rfl
  | @data chunk rest cwnd hqueue =>
    have hmem : chunk ∈ t.sender.outboundQueue := by
      rw [hqueue]
      exact List.mem_cons_self
    obtain ⟨hcount, hretransmit⟩ := h.fresh chunk hmem
    have hfirst := WithinLimit.first hcount hretransmit
    refine h.sending (i := t.sender.sentQueue.length) (c := chunk)
      (d := { chunk with sentCount := chunk.sentCount + 1 }) ?_ ?_ rfl rfl rfl hfirst ?_ ?_ ?_
    · rw [pending, hqueue, List.getElem?_append_right le_rfl, Nat.sub_self]
      rfl
    · dsimp only [pending]
      rw [hqueue, List.set_append_right _ _ le_rfl, Nat.sub_self, List.append_assoc]
      rfl
    · exact List.forall_mem_append.mpr ⟨h.within, fun e he => List.mem_singleton.mp he ▸ hfirst⟩
    · exact fun e he => h.fresh e (by rw [hqueue]; exact List.mem_cons_of_mem _ he)
    · rw [numberSent, if_neg (by simp)]
      simp
  | @again i chunk cwnd earliest hchunk hretransmit =>
    have hlt : i < t.sender.sentQueue.length := (List.getElem?_eq_some_iff.mp hchunk).1
    have hresent := (h.within chunk (List.mem_of_getElem? hchunk)).resent hretransmit
    refine h.sending (i := i) (c := chunk) (d := Sender.resent chunk) ?_ ?_ rfl rfl rfl hresent ?_
      h.fresh ?_
    · rw [pending, List.getElem?_append_left hlt, hchunk]
    · dsimp only [pending, retransmitAt]
      rw [List.set_append_left _ _ hlt]
    · exact within_set h.within hresent
    · rw [numberSent, if_neg (by simp [retransmitAt])]
      rfl

lemma transmitOnce (h : Counted t) : Counted (t.record [] t.sender.transmitOnce) := by
  obtain ⟨f, -, heq⟩ | ⟨-, heq⟩ := t.sender.transmitOnce_cases
  · rw [heq]
    have hrecord : t.record [] { t.sender with
        transmitRequested := false
        wire := t.sender.wire ++ [.forwardTsn f]
        transmit := .sendingForward } = { t with sender := { t.sender with
          transmitRequested := false
          wire := t.sender.wire ++ [.forwardTsn f]
          transmit := .sendingForward } } := by
      simp [Traced.record, numberSent]
    rw [hrecord]
    exact h.congr rfl rfl rfl
  · rw [heq]
    have hready : Counted { t with sender := { t.sender with transmitRequested := false } } :=
      h.congr rfl rfl rfl
    exact hready.proceeds (transmitChunks_proceeds _)

lemma startTransmit (h : Counted t) : Counted (t.record [] t.sender.startTransmit) := by
  unfold Sender.startTransmit
  split_ifs
  · exact h.transmitOnce
  · exact h.quiet rfl rfl rfl rfl

lemma resume (h : Counted t) (hs : t.sender.resume = some s') : Counted (t.record [] s') := by
  unfold Sender.resume at hs
  split at hs
  · exact absurd hs (by simp)
  · obtain rfl := Option.some.inj hs
    have hready : Counted
        { t with sender := { t.sender with forwardTsnChunk := none, timer3 := true } } :=
      h.congr rfl rfl rfl
    exact hready.proceeds (transmitChunks_proceeds _)
  · rename_i position cwnd earliest _
    obtain rfl := Option.some.inj hs
    have hready : Counted
        { t with sender := { t.sender with timer3 := t.sender.timer3 || earliest } } :=
      h.congr rfl rfl rfl
    exact hready.proceeds (retransmitFrom_proceeds _ _ _ _)
  · obtain rfl := Option.some.inj hs
    have hready : Counted { t with sender := { t.sender with timer3 := true } } :=
      h.congr rfl rfl rfl
    exact hready.proceeds (drainOutboundQueue_proceeds _ _)
  · obtain rfl := Option.some.inj hs
    split_ifs
    · exact h.transmitOnce
    · exact h.quiet rfl rfl rfl rfl

/-- The chunks at the head that are given up leave the queue. -/
lemma updateAdvancedPeerAckPoint (h : Counted t) :
    Counted { t with sender := t.sender.updateAdvancedPeerAckPoint } := by
  have hdrop := Queue.dropWhile_eq_drop DataChunk.abandoned t.sender.sentQueue
  have hsent := t.sender.updateAdvancedPeerAckPoint_sentQueue
  refine h.remark (d := (t.sender.sentQueue.takeWhile DataChunk.abandoned).length)
    (List.takeWhile_prefix _).length_le ?_ (by rw [hsent, hdrop])
    t.sender.updateAdvancedPeerAckPoint_same.outboundQueue ?_
  · obtain ⟨hnil, heq⟩ | ⟨init, chunk, hsplit, heq⟩ := t.sender.updateAdvancedPeerAckPoint_cases
    · rw [heq, hnil]
      rfl
    · rw [heq, hsplit, List.length_append]
      rfl
  · rw [hsent]
    exact fun c hc => h.within c ((List.dropWhile_sublist _).subset hc)

lemma receiveSackChunk (h : Counted t) (chunk : SackChunk) :
    Counted { t with sender := t.sender.receiveSackChunk chunk } := by
  unfold Sender.receiveSackChunk
  split_ifs
  · exact h
  · have hacked : Counted { t with sender := t.sender.accountSack chunk } := by
      refine h.remark (d := (cumulativelyAcked chunk.cumulativeTsn t.sender.sentQueue).length)
        (List.takeWhile_prefix _).length_le rfl ?_ rfl (within_acknowledge h.within chunk)
      exact (unmarked_acknowledge t.sender chunk).trans
        (congrArg _ (Queue.dropWhile_eq_drop _ _))
    exact hacked.updateAdvancedPeerAckPoint

lemma expire (h : Counted t) (hk : KeptInv t.sender) :
    Counted { t with sender := t.sender.expire } := by
  have hmarked : Counted { t with sender := t.sender.markedByTimer } :=
    h.remark (Nat.zero_le _) rfl (unmarked_expireChunks hk.kept) rfl (within_expireChunks h.within)
  rw [t.sender.expire_eq]
  exact hmarked.updateAdvancedPeerAckPoint

lemma step (h : Counted t) (hk : KeptInv t.sender) {t' : Traced} {e : Event}
    (hs : t.step e = some t') : Counted t' := by
  obtain ⟨s', hsender, rfl⟩ := Traced.step_eq_some.mp hs
  clear hs
  cases e with
  | send a =>
    obtain rfl := Option.some.inj hsender
    have := (h.enqueue a).startTransmit
    rw [Traced.record, List.append_nil] at this
    exact this
  | receiveSack chunk =>
    obtain rfl := Option.some.inj hsender
    have hwire : (t.sender.receiveSackChunk chunk).wire = t.sender.wire := by
      unfold Sender.receiveSackChunk
      split_ifs
      · rfl
      · exact (t.sender.accountSack chunk).updateAdvancedPeerAckPoint_same.wire
    change Counted (t.record [] _)
    rw [Traced.record_of_wire_eq hwire]
    exact h.receiveSackChunk chunk
  | sackHandled =>
    obtain ⟨-, hsender⟩ := Option.ite_none_right_eq_some.mp hsender
    obtain rfl := Option.some.inj hsender
    have hready : Counted
        { t with sender := { t.sender with handledSacks := t.sender.handledSacks - 1 } } :=
      h.congr rfl rfl rfl
    exact hready.startTransmit
  | resume => exact h.resume hsender
  | timer3Expired =>
    obtain ⟨-, hsender⟩ := Option.ite_none_right_eq_some.mp hsender
    obtain rfl := Option.some.inj hsender
    have hnext := (h.expire hk).startTransmit
    rw [t.record_congr t.sender.expire_same.wire] at hnext
    exact hnext
  | receiveInit advertisedRwnd =>
    obtain rfl := Option.some.inj hsender
    exact h.quiet rfl rfl rfl rfl
  | tick now =>
    obtain ⟨-, hsender⟩ := Option.ite_none_right_eq_some.mp hsender
    obtain rfl := Option.some.inj hsender
    exact h.quiet rfl rfl rfl rfl

end Counted

end Werift.Sctp
