import Werift.Sctp.Marking

/-!
# The flight size

`flightSize` should be the number of bytes in flight: of the chunks of `sentQueue` that are neither
acknowledged nor given up nor waiting for retransmission.  It is a counter that many places add to
and subtract from, and not all of them look at the same marks.

`flightSize_eq_bytesInFlight` says that the counter is right in every run in which the T3 timer and
the SACKs avoid the places that count wrongly (`FlightOk`).
-/

namespace Werift.Sctp

open Queue Sender Transition

/-- The chunk is in flight. -/
def DataChunk.inFlight (c : DataChunk) : Bool := !c.acked && !c.abandoned && !c.retransmit

/-- The bytes that the chunk adds to the flight. -/
def flightWeight (c : DataChunk) : ℕ := if c.inFlight then c.bookSize else 0

/-- The bytes in flight. -/
def bytesInFlight (q : List DataChunk) : ℕ := total flightWeight q

lemma flightWeight_le (c : DataChunk) : flightWeight c ≤ c.bookSize := by
  unfold flightWeight
  split_ifs <;> omega

lemma flightWeight_of_not {c : DataChunk} (h : c.inFlight = false) : flightWeight c = 0 := by
  rw [flightWeight, h]
  rfl

lemma flightWeight_of_inFlight {c : DataChunk} (h : c.inFlight = true) :
    flightWeight c = c.bookSize := by
  rw [flightWeight, h]
  rfl

lemma inFlight_of_abandoned {c : DataChunk} (h : c.abandoned = true) : c.inFlight = false := by
  simp [DataChunk.inFlight, h]

lemma inFlight_of_retransmit {c : DataChunk} (h : c.retransmit = true) : c.inFlight = false := by
  simp [DataChunk.inFlight, h]

lemma inFlight_of_acked {c : DataChunk} (h : c.acked = true) : c.inFlight = false := by
  simp [DataChunk.inFlight, h]

/-! ## Chunks that are given up -/

/-- The bytes in flight of the message at the head of a queue. -/
def headInFlight : List DataChunk → ℕ
  | [] => 0
  | c :: l => flightWeight c + if c.lastFrag then 0 else headInFlight l

/-- Giving up the message at the head takes its bytes out of the flight. -/
lemma bytesInFlight_abandonUntilLast (q : List DataChunk) :
    bytesInFlight (abandonUntilLast q) + headInFlight q = bytesInFlight q := by
  induction q with
  | nil => rfl
  | cons c q ih =>
    have hc : flightWeight c.abandon = 0 := flightWeight_of_not (inFlight_of_abandoned rfl)
    rw [abandonUntilLast, headInFlight]
    unfold bytesInFlight at *
    split_ifs <;> simp only [total_cons, hc] <;> omega

/-- A chunk of the message at the head counts in the message. -/
lemma flightWeight_le_headInFlight {q : List DataChunk} {i : ℕ} {c : DataChunk}
    (hc : q[i]? = some c) (hsame : SameMessage q 0 i) : flightWeight c ≤ headInFlight q := by
  induction q generalizing i with
  | nil => simp at hc
  | cons d q ih =>
    cases i with
    | zero =>
      obtain rfl : d = c := by simpa using hc
      exact Nat.le_add_right _ _
    | succ i =>
      obtain ⟨hd, hsame⟩ := sameMessage_cons_succ.mp hsame
      have := ih (by simpa using hc) hsame
      rw [headInFlight, if_neg (by simp [hd])]
      omega

/-- Only the weights and the ends of the messages matter. -/
lemma headInFlight_set {q : List DataChunk} {i : ℕ} {c d : DataChunk} (hc : q[i]? = some c)
    (hw : flightWeight d = flightWeight c) (hl : d.lastFrag = c.lastFrag) :
    headInFlight (q.set i d) = headInFlight q := by
  induction q generalizing i with
  | nil => simp at hc
  | cons e q ih =>
    cases i with
    | zero =>
      obtain rfl : e = c := by simpa using hc
      simp [headInFlight, hw, hl]
    | succ i =>
      have := ih (i := i) (by simpa using hc)
      simp [headInFlight, this]

lemma bytesInFlight_set {q : List DataChunk} {i : ℕ} {c : DataChunk} (hc : q[i]? = some c)
    (d : DataChunk) :
    bytesInFlight (q.set i d) + flightWeight c = bytesInFlight q + flightWeight d :=
  total_set hc d

/-- What is given up is not in flight. -/
lemma bytesInFlight_dropWhile_abandoned (q : List DataChunk) :
    bytesInFlight (q.dropWhile DataChunk.abandoned) = bytesInFlight q := by
  have hfront : total flightWeight (q.takeWhile DataChunk.abandoned) = 0 :=
    total_eq_zero fun c hc =>
      flightWeight_of_not (inFlight_of_abandoned (List.mem_takeWhile_imp hc))
  have := total_takeWhile_add flightWeight DataChunk.abandoned q
  unfold bytesInFlight
  omega

/-! ## Acknowledged chunks -/

lemma flightSizeDecrease_eq (n : ℕ) (l : List DataChunk) :
    flightSizeDecrease n l = n - total DataChunk.bookSize l := by
  induction l generalizing n with
  | nil => rfl
  | cons c l ih =>
    rw [flightSizeDecrease, List.foldl_cons, ← flightSizeDecrease, ih, total_cons]
    omega

/-- Marking the chunks in the gap blocks takes them out of the flight. -/
lemma bytesInFlight_ackGaps (seen : List ℤ) (q : List DataChunk) :
    bytesInFlight (ackGaps seen q) + total flightWeight (newlyAcked seen q) = bytesInFlight q := by
  have hfront : ∀ l : List DataChunk,
      total flightWeight (l.map fun c =>
          if seen.contains c.tsn && !c.acked then { c with acked := true } else c) +
        total flightWeight (l.filter fun c => seen.contains c.tsn && !c.acked) =
      total flightWeight l := by
    intro l
    induction l with
    | nil => rfl
    | cons c l ih =>
      by_cases h : (seen.contains c.tsn && !c.acked) = true
      · have hw : flightWeight { c with acked := true } = 0 :=
          flightWeight_of_not (inFlight_of_acked rfl)
        rw [List.map_cons, if_pos h, List.filter_cons, if_pos h, total_cons, total_cons, total_cons, hw]
        omega
      · rw [List.map_cons, if_neg h, List.filter_cons, if_neg h, total_cons, total_cons]
        omega
  have hsplit := total_takeWhile_add flightWeight (notPast seen.getLast?) q
  have := hfront (q.takeWhile (notPast seen.getLast?))
  unfold bytesInFlight ackGaps newlyAcked
  rw [total_append]
  omega

/-- A cumulative acknowledgement takes the acknowledged chunks out of the flight. -/
lemma bytesInFlight_beyondCumulative (cum : ℤ) (q : List DataChunk) :
    total flightWeight (doneChunks cum q) + bytesInFlight (beyondCumulative cum q) =
      bytesInFlight q := by
  have hacked : ∀ l : List DataChunk,
      total flightWeight (l.filter fun c => !c.acked) = total flightWeight l := by
    intro l
    induction l with
    | nil => rfl
    | cons c l ih =>
      cases hc : c.acked with
      | true =>
        rw [List.filter_cons_of_neg (by simp [hc]), ih, total_cons,
          flightWeight_of_not (inFlight_of_acked hc), Nat.zero_add]
      | false => rw [List.filter_cons_of_pos (by simp [hc]), total_cons, total_cons, ih]
  rw [doneChunks, cumulativelyAcked, hacked]
  exact total_takeWhile_add _ _ _

/-- Counting a miss does not change what is in flight. -/
lemma flightWeight_missed (c : DataChunk) : flightWeight (missed c) = flightWeight c := rfl

lemma flightWeight_struck (c : DataChunk) : flightWeight (struck c) = flightWeight c := rfl

/-- A given up chunk may come back into the flight, but none leaves it. -/
lemma flightWeight_le_lost (c : DataChunk) : flightWeight c ≤ flightWeight (lost true c) := by
  unfold flightWeight DataChunk.inFlight lost
  cases c.acked <;> cases c.abandoned <;> cases c.retransmit <;> simp

/-- **Giving up the message at the head** takes no more than its bytes out of the flight; and
exactly its bytes, unless the struck chunk is acknowledged and does not belong to it. -/
lemma bytesInFlight_given {q : List DataChunk} {i : ℕ} {c : DataChunk} (hc : q[i]? = some c) :
    bytesInFlight q ≤ bytesInFlight ((abandonUntilLast (q.set i (struck c))).modify i (lost true)) +
        headInFlight q ∧
      (c.acked = false ∨ SameMessage q 0 i → bytesInFlight q =
        bytesInFlight ((abandonUntilLast (q.set i (struck c))).modify i (lost true)) +
          headInFlight q) := by
  have hlt : i < q.length := (List.getElem?_eq_some_iff.mp hc).1
  have hset := bytesInFlight_set hc (struck c)
  have hhead := headInFlight_set hc (flightWeight_struck c) rfl
  have hgiven := bytesInFlight_abandonUntilLast (q.set i (struck c))
  rw [hhead] at hgiven
  rw [flightWeight_struck] at hset
  -- the chunk is given up if it belongs to the message
  obtain ⟨d, hd, hcase⟩ : ∃ d, (abandonUntilLast (q.set i (struck c)))[i]? = some d ∧
      (SameMessage q 0 i ∧ d = (struck c).abandon ∨ ¬ SameMessage q 0 i ∧ d = struck c) := by
    have hmap : (q.set i (struck c)).map DataChunk.lastFrag = q.map DataChunk.lastFrag :=
      map_set_eq hc rfl
    by_cases hsame : SameMessage q 0 i
    · refine ⟨_, ?_, Or.inl ⟨hsame, rfl⟩⟩
      rw [getElem?_abandonUntilLast_of_same ((sameMessage_congr hmap).mpr hsame),
        List.getElem?_set_self hlt, Option.map_some]
    · refine ⟨_, ?_, Or.inr ⟨hsame, rfl⟩⟩
      rw [getElem?_abandonUntilLast_of_not fun hin => hsame ((sameMessage_congr hmap).mp hin),
        List.getElem?_set_self hlt]
  have hmod : (abandonUntilLast (q.set i (struck c))).modify i (lost true) =
      (abandonUntilLast (q.set i (struck c))).set i (lost true d) := by
    rw [List.modify_eq_set_getElem?, hd]
    rfl
  have hset' := bytesInFlight_set hd (lost true d)
  have hle := flightWeight_le_lost d
  rw [hmod]
  refine ⟨by omega, fun hkeep => ?_⟩
  have hd' : flightWeight (lost true d) = flightWeight d := by
    rcases hcase with ⟨-, rfl⟩ | ⟨hsame, rfl⟩
    · rw [flightWeight_of_not (inFlight_of_abandoned rfl),
        flightWeight_of_not (inFlight_of_abandoned rfl)]
    · have hacked : c.acked = false := hkeep.resolve_right hsame
      simp [flightWeight, DataChunk.inFlight, lost, struck, hacked]
  omega

/-! ## When the counter is right -/

/-- A chunk that is missing for the third time is in flight and, if it is over its limits, the
message at the head has exactly as many bytes in flight; or the flight size is zero already, and an
acknowledged chunk over its limits belongs to the message at the head. -/
def StrikeOk (now : ℚ) (seen : List ℤ) (st : Strikes) (i : ℕ) : Prop :=
  ∀ c, st.queue[i]? = some c → c.tsn ∉ seen → c.misses = 2 →
    (c.inFlight = true ∧ (c.shouldAbandon now = true → headInFlight st.queue = c.bookSize)) ∨
      (st.flightSize = 0 ∧
        (c.shouldAbandon now = true → c.acked = false ∨ SameMessage st.queue 0 i))

/-- The T3 timer expires: a chunk in flight that is over its limits belongs to the message at the
head. -/
def InFlightExpired (now : ℚ) (q : List DataChunk) : Prop :=
  ∀ i c, q[i]? = some c → c.inFlight = true → c.shouldAbandon now = true → SameMessage q 0 i

/-- A SACK is accepted: no chunk that it acknowledges waits for retransmission, unless it is
acknowledged cumulatively and no chunk behind is in flight; and the third strikes are counted
right. -/
def SackOk (s : Sender) (chunk : SackChunk) : Prop :=
  let rest := beyondCumulative chunk.cumulativeTsn s.sentQueue
  let flightSize := flightSizeDecrease s.flightSize (doneChunks chunk.cumulativeTsn s.sentQueue)
  let seen := expandGaps chunk.cumulativeTsn chunk.gaps
  ((∀ c ∈ doneChunks chunk.cumulativeTsn s.sentQueue, c.retransmit = false) ∨
      bytesInFlight rest = 0) ∧
    (chunk.gaps ≠ [] → (∀ c ∈ newlyAcked seen rest, c.retransmit = false) ∧
      ∀ k < strikable chunk rest, StrikeOk s.time seen
        (strikeMissing s.time chunk (afterGaps chunk rest flightSize) k) k)

/-- The condition on what happens next. -/
def FlightOk (s : Sender) : Event → Prop
  | .timer3Expired => AckedExpired s.time s.sentQueue ∧ InFlightExpired s.time s.sentQueue
  | .receiveSack chunk => uint32Gt s.lastSackedTsn chunk.cumulativeTsn = false → SackOk s chunk
  | _ => True

lemma FlightOk.marks {s : Sender} {e : Event} (h : FlightOk s e) : MarksOk s e := by
  cases e with
  | timer3Expired => exact h.1
  | receiveSack chunk => exact fun hold hgaps => ((h hold).2 hgaps).1
  | _ => trivial

/-! ## What a step does to the counter -/

/-- The counter and the bytes in flight change by the same amount. -/
def Balanced (s s' : Sender) : Prop :=
  bytesInFlight s'.sentQueue + s.flightSize = bytesInFlight s.sentQueue + s'.flightSize

/-- Sending a chunk is counted right. -/
lemma Sender.Moves.balanced {s s' : Sender} (hm : Moves s s') (h : MarkInv s) : Balanced s s' := by
  unfold Balanced
  cases hm with
  | quiet hsent _ hflight => rw [hsent, hflight]
  | @data chunk rest hqueue hsent _ hflight =>
    obtain ⟨hacked, hab, hre⟩ := h.fresh chunk (by rw [hqueue]; exact List.mem_cons_self)
    have hin : DataChunk.inFlight { chunk with sentCount := chunk.sentCount + 1 } = true := by
      simp [DataChunk.inFlight, hacked, hab, hre]
    rw [hsent, hflight, bytesInFlight, total_append, total_cons, total_nil,
      flightWeight_of_inFlight hin, bytesInFlight]
    dsimp only
    omega
  | @again i chunk hchunk hre hsent _ hflight =>
    have hmem := List.mem_of_getElem? hchunk
    have hin : (resent chunk).inFlight = true := by
      simp [DataChunk.inFlight, resent, h.pending chunk hmem hre, h.kept chunk hmem]
    have hset := bytesInFlight_set hchunk (resent chunk)
    rw [flightWeight_of_not (inFlight_of_retransmit hre), flightWeight_of_inFlight hin] at hset
    have hbook : (resent chunk).bookSize = chunk.bookSize := rfl
    rw [hsent, hflight]
    omega

/-- The T3 timer takes everything out of the flight. -/
lemma bytesInFlight_expire {s : Sender} (h : MarkInv s) (hok : InFlightExpired s.time s.sentQueue) :
    bytesInFlight s.expire.sentQueue = 0 := by
  have hspec := @expireChunks_spec s.time _ h.kept
  rw [expire_sentQueue, bytesInFlight_dropWhile_abandoned]
  refine total_eq_zero fun d hd => flightWeight_of_not ?_
  obtain ⟨i, hi⟩ := List.mem_iff_getElem?.mp hd
  have hlt : i < s.sentQueue.length := by
    rw [← hspec.length]
    exact (List.getElem?_eq_some_iff.mp hi).1
  have hc : s.sentQueue[i]? = some s.sentQueue[i] := List.getElem?_eq_getElem hlt
  obtain ⟨hd', -⟩ | ⟨hd', -, hno⟩ | ⟨-, hle, -⟩ := hspec.cases hc
  · obtain rfl := Option.some.inj (hi.symm.trans hd')
    exact inFlight_of_abandoned rfl
  · obtain rfl := Option.some.inj (hi.symm.trans hd')
    unfold expiredChunk
    split_ifs with hs
    · have hover : OverLimit s.time s.sentQueue s.sentQueue.length := ⟨i, hlt, _, hc, hs⟩
      rw [← Bool.not_eq_true]
      exact fun hin => hno ⟨hover, hok i _ hc hin hs⟩
    · exact inFlight_of_retransmit rfl
  · omega

/-- One round of the loop over the missing chunks. -/
lemma flightSize_strikeAt {now : ℚ} {seen : List ℤ} {st : Strikes} {i : ℕ}
    (h : st.flightSize = bytesInFlight st.queue) (hok : StrikeOk now seen st i) :
    (strikeAt now seen st i).flightSize = bytesInFlight (strikeAt now seen st i).queue := by
  have hcase := strikeAt_case now seen st i
  generalize strikeAt now seen st i = st' at hcase
  cases hcase with
  | same => exact h
  | @miss c hc =>
    have := bytesInFlight_set hc (missed c)
    rw [flightWeight_missed] at this
    dsimp only
    omega
  | @lost c hc hseen hmisses hkeep =>
    have hset := bytesInFlight_set hc (lost c.abandoned (struck c))
    have hnew : flightWeight (lost c.abandoned (struck c)) = 0 := by
      unfold flightWeight DataChunk.inFlight lost struck
      cases c.abandoned <;> simp
    have hle := flightWeight_le c
    dsimp only
    rcases hok c hc hseen hmisses with ⟨hin, -⟩ | ⟨hzero, -⟩
    · rw [flightWeight_of_inFlight hin] at hset
      omega
    · omega
  | @given c hc hseen hmisses hab hs =>
    dsimp only
    rcases hok c hc hseen hmisses with ⟨hin, hhead⟩ | ⟨hzero, hsame⟩
    · have hacked : c.acked = false := by
        rw [← Bool.not_eq_true]
        exact fun hack => absurd (hin.symm.trans (inFlight_of_acked hack)) Bool.false_ne_true.symm
      have heq := (bytesInFlight_given hc).2 (Or.inl hacked)
      have := hhead hs
      omega
    · have heq := (bytesInFlight_given hc).2 (hsame hs)
      omega

/-- The whole loop over the missing chunks. -/
lemma flightSize_strikeMissing {now : ℚ} {chunk : SackChunk} {st : Strikes} {n : ℕ}
    (h : st.flightSize = bytesInFlight st.queue) (hok : ∀ k < n, StrikeOk now
      (expandGaps chunk.cumulativeTsn chunk.gaps) (strikeMissing now chunk st k) k) :
    (strikeMissing now chunk st n).flightSize =
      bytesInFlight (strikeMissing now chunk st n).queue := by
  induction n with
  | zero => exact h
  | succ n ih =>
    rw [strikeMissing, List.range_succ, List.foldl_append]
    exact flightSize_strikeAt (ih fun k hk => hok k (by omega)) (hok n (by omega))

/-- What a SACK acknowledges leaves the flight. -/
lemma flightSize_acknowledge {s : Sender} {chunk : SackChunk} (h : MarkInv s)
    (hflight : s.flightSize = bytesInFlight s.sentQueue) (hok : SackOk s chunk) :
    (s.acknowledge chunk).flightSize = bytesInFlight (s.acknowledge chunk).queue := by
  obtain ⟨hcum, hgaps⟩ := hok
  have hdone : ∀ c ∈ doneChunks chunk.cumulativeTsn s.sentQueue,
      c ∈ s.sentQueue ∧ c.acked = false := by
    intro c hc
    obtain ⟨hin, hacked⟩ := List.mem_filter.mp hc
    exact ⟨(List.takeWhile_sublist _).subset hin, by simpa using hacked⟩
  have hsplit := bytesInFlight_beyondCumulative chunk.cumulativeTsn s.sentQueue
  -- after the cumulative part
  have hcumulative : flightSizeDecrease s.flightSize (doneChunks chunk.cumulativeTsn s.sentQueue) =
      bytesInFlight (beyondCumulative chunk.cumulativeTsn s.sentQueue) := by
    rw [flightSizeDecrease_eq]
    rcases hcum with hnone | hzero
    · have hw : total flightWeight (doneChunks chunk.cumulativeTsn s.sentQueue) =
          total DataChunk.bookSize (doneChunks chunk.cumulativeTsn s.sentQueue) := by
        refine total_congr fun c hc => flightWeight_of_inFlight ?_
        obtain ⟨hin, hacked⟩ := hdone c hc
        simp [DataChunk.inFlight, hacked, h.kept c hin, hnone c hc]
      omega
    · have hw : total flightWeight (doneChunks chunk.cumulativeTsn s.sentQueue) ≤
          total DataChunk.bookSize (doneChunks chunk.cumulativeTsn s.sentQueue) :=
        total_le_total fun c _ => flightWeight_le c
      omega
  unfold acknowledge handleGaps
  split_ifs with hnil
  · exact hcumulative
  · obtain ⟨hnew, hstrikes⟩ := hgaps hnil
    refine flightSize_strikeMissing ?_ hstrikes
    -- the gap blocks take the newly acknowledged chunks out of the flight
    set seen := expandGaps chunk.cumulativeTsn chunk.gaps
    set rest := beyondCumulative chunk.cumulativeTsn s.sentQueue
    have hmark := bytesInFlight_ackGaps seen rest
    have hw : total flightWeight (newlyAcked seen rest) =
        total DataChunk.bookSize (newlyAcked seen rest) := by
      refine total_congr fun c hc => flightWeight_of_inFlight ?_
      obtain ⟨hin, hc'⟩ := List.mem_filter.mp hc
      have hmem : c ∈ s.sentQueue :=
        (List.dropWhile_sublist _).subset ((List.takeWhile_sublist _).subset hin)
      have hacked : c.acked = false := by simp_all
      simp [DataChunk.inFlight, hacked, h.kept c hmem, hnew c hc]
    change flightSizeDecrease _ (newlyAcked seen rest) = bytesInFlight (ackGaps seen rest)
    rw [flightSizeDecrease_eq, hcumulative]
    omega

/-- A step that meets the condition keeps the counter right. -/
lemma flightSize_step {s s' : Sender} {e : Event} (h : MarkInv s)
    (hflight : s.flightSize = bytesInFlight s.sentQueue) (hok : FlightOk s e)
    (hs : s.step e = some s') : s'.flightSize = bytesInFlight s'.sentQueue := by
  have hmoves : ∀ {t t' : Sender}, MarkInv t → t.flightSize = bytesInFlight t.sentQueue →
      Moves t t' → t'.flightSize = bytesInFlight t'.sentQueue := by
    intro t t' ht hflight hm
    have := hm.balanced ht
    unfold Balanced at this
    omega
  cases e with
  | send a =>
    obtain rfl := Option.some.inj hs
    exact hmoves ⟨h.enqueue a, h.pending⟩ hflight (startTransmit_moves _)
  | receiveSack chunk =>
    obtain rfl := Option.some.inj hs
    unfold receiveSackChunk
    split_ifs with hold
    · exact hflight
    · rw [(updateAdvancedPeerAckPoint_same _).flightSize, updateAdvancedPeerAckPoint_sentQueue,
        bytesInFlight_dropWhile_abandoned]
      exact flightSize_acknowledge h hflight (hok (by simpa using hold))
  | sackHandled =>
    obtain ⟨-, hs⟩ := Option.ite_none_right_eq_some.mp hs
    obtain rfl := Option.some.inj hs
    exact hmoves h hflight ((startTransmit_moves _).congr rfl rfl rfl)
  | resume => exact hmoves h hflight (resume_moves hs)
  | timer3Expired =>
    obtain ⟨-, hs⟩ := Option.ite_none_right_eq_some.mp hs
    obtain rfl := Option.some.inj hs
    refine hmoves (h.expire hok.1) ?_ (startTransmit_moves _)
    rw [bytesInFlight_expire h hok.2]
    rfl
  | receiveInit advertisedRwnd =>
    obtain rfl := Option.some.inj hs
    exact hflight
  | tick now =>
    obtain ⟨-, hs⟩ := Option.ite_none_right_eq_some.mp hs
    obtain rfl := Option.some.inj hs
    exact hflight

/-- **The flight size is right** in every run whose steps avoid the places that count wrongly: it is
the number of bytes in flight, and so it is zero when nothing has been sent that is not
acknowledged. -/
theorem flightSize_eq_bytesInFlight {maxPayloadSize rwnd : ℕ} {localTsn : ℤ} {s : Sender}
    (h : Run Sender.step FlightOk (Sender.initial maxPayloadSize localTsn rwnd) s) :
    s.flightSize = bytesInFlight s.sentQueue ∧ (s.sentQueue = [] → s.flightSize = 0) := by
  have hinv : MarkInv s ∧ s.flightSize = bytesInFlight s.sentQueue := by
    refine h.invariant (fun s => MarkInv s ∧ s.flightSize = bytesInFlight s.sentQueue)
      ⟨markInv_initial _ _ _, rfl⟩ fun s e s' hs hok hstep => ?_
    exact ⟨hs.1.step hok.marks hstep, flightSize_step hs.1 hs.2 hok hstep⟩
  refine ⟨hinv.2, fun hnil => ?_⟩
  rw [hinv.2, hnil]
  rfl

/-- A message of one byte. -/
def oneByte : SendArgs := { streamId := 0, ppId := 53, userData := [1] }

/-- A sender with the default MTU, before its first `send`. -/
def defaultSender : Sender := Sender.initial (maxPayloadSizeForMtu DEFAULT_SCTP_MTU) 1 131072

/-- One message is sent and acknowledged. -/
theorem flightSize_one_message : ∃ s, Run Sender.step FlightOk defaultSender s ∧
    s.lastSackedTsn = 1 ∧ s.flightSize = bytesInFlight s.sentQueue ∧
      (s.sentQueue = [] → s.flightSize = 0) := by
  have hsent : Run Sender.step FlightOk defaultSender (defaultSender.send oneByte) :=
    Run.start.next (e := .send oneByte) trivial rfl
  have hacked := hsent.next (e := .receiveSack { cumulativeTsn := 1, advertisedRwnd := 1000 })
    (fun _ => ⟨Or.inl (by decide), fun hgaps => absurd rfl hgaps⟩) rfl
  exact ⟨_, hacked, by decide, flightSize_eq_bytesInFlight hacked⟩

/-- The second of two chunks is acknowledged in a gap block and the first one is lost.  The T3 timer
marks both for retransmission, and sending them again counts both. -/
theorem flightSize_counts_acked_chunk : ¬ ∀ s : Sender,
    Reachable Sender.step defaultSender s → s.flightSize = bytesInFlight s.sentQueue := by
  intro h
  obtain ⟨s, hs, hne⟩ : ∃ s, [Event.send oneByte, .resume, .resume, .send oneByte, .resume, .resume,
      .receiveSack { cumulativeTsn := 0, advertisedRwnd := 1000, gaps := [(2, 2)] }, .sackHandled,
      .resume, .timer3Expired, .resume, .resume, .resume].foldlM Sender.step defaultSender = some s ∧
        s.flightSize ≠ bytesInFlight s.sentQueue :=
    ⟨_, rfl, by decide⟩
  exact hne (h s (reachable_of_foldlM hs))

end Werift.Sctp
