import Werift.Sctp.InboundStream
import Werift.Sctp.Message

/-!
# The scan of a stream

A stream holds chunks of the messages that have been sent, in the order of their numbers.
`scanNumbers` is the scan of `popMessages` on the numbers.  `InMessage` is what the scan has taken of a
message: the chunk that it takes is the next one of the message (`InMessage.take`), and it goes on with a
message that it has begun if the next chunk is there (`InMessage.verdict_eq_take`).  It may step over a first
chunk, though, or stop in front of it.
-/

namespace Werift.Sctp

open Segments

/-! ## The scan on numbers -/

/-- What a scan leaves behind: the groups that have been taken out, each with the variable `ordered` of
its time, the numbers that are left, and the SSN. -/
structure Scanned where
  groups : List (List ℕ × Bool)
  left : List ℕ
  streamSequenceNumber : ℤ

/-- The loop of `popMessages` on the numbers of the chunks. -/
def scanNumbers (chunk : ℕ → DataChunk) (before message : List ℕ) (scan : Option Scan)
    (streamSequenceNumber : ℤ) : List ℕ → Scanned
  | [] => ⟨[], before ++ message, streamSequenceNumber⟩
  | k :: rest =>
    match verdict scan streamSequenceNumber (chunk k) with
    | .stop => ⟨[], before ++ message ++ k :: rest, streamSequenceNumber⟩
    | .skip => scanNumbers chunk (before ++ message ++ [k]) [] none streamSequenceNumber rest
    | .take s =>
      let next : Scan := { s with expectedTsn := tsnPlusOne s.expectedTsn }
      if (chunk k).lastFrag then
        let scanned := scanNumbers chunk before [] (some next)
          (nextStreamSequenceNumber s streamSequenceNumber (chunk k)) rest
        { scanned with groups := (message ++ [k], s.ordered) :: scanned.groups }
      else scanNumbers chunk before (message ++ [k]) (some next) streamSequenceNumber rest

section Numbers

variable {chunk : ℕ → DataChunk} {before message rest : List ℕ} {scan : Option Scan} {n : ℤ}

/-- **`popMessages` scans the numbers.** -/
theorem popLoop_map (chunk : ℕ → DataChunk) (before message : List ℕ) (scan : Option Scan) (n : ℤ)
    (rest : List ℕ) :
    popLoop (before.map chunk) (message.map chunk) scan n (rest.map chunk) =
      ((scanNumbers chunk before message scan n rest).groups.map fun g => g.1.map chunk,
        ⟨(scanNumbers chunk before message scan n rest).left.map chunk,
          (scanNumbers chunk before message scan n rest).streamSequenceNumber⟩) := by
  induction rest generalizing before message scan n with
  | nil => simp [popLoop, scanNumbers]
  | cons k rest ih =>
    rw [List.map_cons, popLoop, scanNumbers]
    cases verdict scan n (chunk k) with
    | stop => simp
    | skip =>
      have h := ih (before ++ message ++ [k]) [] none n
      simpa using h
    | take s =>
      dsimp only
      split_ifs
      · have h := ih before [] (some { s with expectedTsn := tsnPlusOne s.expectedTsn })
          (nextStreamSequenceNumber s n (chunk k))
        rw [List.map_nil] at h
        rw [h]
        simp
      · have h := ih before (message ++ [k]) (some { s with expectedTsn := tsnPlusOne s.expectedTsn }) n
        simpa using h

/-- **No number is lost**: it is left, or in one of the groups. -/
theorem perm_scanNumbers (chunk : ℕ → DataChunk) (before message : List ℕ) (scan : Option Scan) (n : ℤ)
    (rest : List ℕ) :
    ((scanNumbers chunk before message scan n rest).groups.flatMap Prod.fst ++
      (scanNumbers chunk before message scan n rest).left).Perm (before ++ message ++ rest) := by
  fun_induction scanNumbers chunk before message scan n rest with
  | case1 before message scan n => simp
  | case2 before message scan n k rest hverdict => simp
  | case3 before message scan n k rest hverdict ih => simpa using ih
  | case4 before message scan n k rest s hverdict next hlast scanned ih =>
    rw [List.append_nil] at ih
    rw [List.flatMap_cons, List.append_assoc]
    refine (ih.append_left (message ++ [k])).trans ?_
    have hswap := List.perm_append_comm_assoc (message ++ [k]) before rest
    simpa using hswap
  | case5 before message scan n k rest s hverdict next hlast ih => simpa using ih

/-- The numbers that are left stay in order. -/
lemma left_sublist (chunk : ℕ → DataChunk) (before message : List ℕ) (scan : Option Scan) (n : ℤ)
    (rest : List ℕ) :
    (scanNumbers chunk before message scan n rest).left.Sublist (before ++ message ++ rest) := by
  fun_induction scanNumbers chunk before message scan n rest with
  | case1 before message scan n => simp
  | case2 before message scan n k rest hverdict => exact List.Sublist.refl _
  | case3 before message scan n k rest hverdict ih => simpa using ih
  | case4 before message scan n k rest s hverdict next hlast scanned ih =>
    rw [List.append_nil] at ih
    refine ih.trans ?_
    rw [List.append_assoc]
    refine List.Sublist.append_left ?_ before
    exact (List.sublist_cons_self k rest).trans (List.sublist_append_right message _)
  | case5 before message scan n k rest s hverdict next hlast ih => simpa using ih

/-- Each group moves the SSN by one at most. -/
lemma streamSequenceNumber_scanNumbers (chunk : ℕ → DataChunk) (before message : List ℕ)
    (scan : Option Scan) {n : ℤ} (hn : 0 ≤ n ∧ n < 0x10000) (rest : List ℕ) :
    ∃ d ≤ rest.length,
      (scanNumbers chunk before message scan n rest).streamSequenceNumber = (n + d) % 0x10000 := by
  fun_induction scanNumbers chunk before message scan n rest with
  | case1 before message scan n => exact ⟨0, le_rfl, by simp; omega⟩
  | case2 before message scan n k rest hverdict => exact ⟨0, Nat.zero_le _, by simp; omega⟩
  | case3 before message scan n k rest hverdict ih =>
    obtain ⟨d, hd, heq⟩ := ih hn
    exact ⟨d, Nat.le_succ_of_le hd, heq⟩
  | case4 before message scan n k rest s hverdict next hlast scanned ih =>
    have hstep : nextStreamSequenceNumber s n (chunk k) = n ∨
        nextStreamSequenceNumber s n (chunk k) = (n + 1) % 0x10000 := by
      unfold nextStreamSequenceNumber
      split_ifs
      · exact Or.inr rfl
      · exact Or.inl rfl
    rcases hstep with heq | heq
    · obtain ⟨d, hd, hd'⟩ := ih (by rw [heq]; exact hn)
      exact ⟨d, Nat.le_succ_of_le hd, by rw [hd', heq]⟩
    · obtain ⟨d, hd, hd'⟩ := ih (by omega)
      refine ⟨d + 1, Nat.succ_le_succ hd, ?_⟩
      rw [hd', heq]
      push_cast
      omega
  | case5 before message scan n k rest s hverdict next hlast ih =>
    obtain ⟨d, hd, heq⟩ := ih hn
    exact ⟨d, Nat.le_succ_of_le hd, heq⟩

end Numbers

/-! ## Chunks of messages -/

/-- How many ordered messages of a stream come before the message at the index `j`. -/
def rank (sent : List Sent) (streamId j : ℕ) : ℕ :=
  (sent.take j).countP fun p => p.args.ordered && p.args.streamId == streamId

/-- The chunks with the numbers `a` and `b` can be outstanding at the same time: there are fewer than
`2 ^ 31` TSNs and fewer than `2 ^ 15` ordered messages of the stream from the one to the other. -/
structure Near (m : ℕ) (sent : List Sent) (streamId a b : ℕ) : Prop where
  tsn : |(a : ℤ) - b| < 0x80000000
  rank : ∀ {j i p j' i' p'}, At (Sent.size m) sent a j i p → At (Sent.size m) sent b j' i' p' →
    |(rank sent streamId j : ℤ) - rank sent streamId j'| < 0x7fff

/-- Numbers of chunks of a stream, in their order. -/
structure HeldNumbers (m : ℕ) (first : ℤ) (sent : List Sent) (chunk : ℕ → DataChunk) (streamId : ℕ)
    (l : List ℕ) : Prop where
  chunks : ∀ k ∈ l, IsChunk m first sent k (chunk k)
  stream : ∀ k ∈ l, (chunk k).streamId = streamId
  ascending : l.Pairwise (· < ·)
  near : ∀ a ∈ l, ∀ b ∈ l, Near m sent streamId a b

/-- The scan has taken the chunks `message` of the message at the index `j`, or it has come to the end of
the one before it. -/
structure InMessage (m : ℕ) (first : ℤ) (sent : List Sent) (message rest : List ℕ)
    (scan : Option Scan) (j : ℕ) : Prop where
  numbers : message = (List.range message.length).map (offset (Sent.size m) sent j + ·)
  unfinished : message ≠ [] → ∃ p, sent[j]? = some p ∧ message.length < p.size m
  outside : scan = none → message = []
  expected : ∀ s, scan = some s →
    s.expectedTsn = tsnOf (first + (offset (Sent.size m) sent j + message.length : ℕ))
  ahead : ∀ s, scan = some s → ∀ k ∈ rest, offset (Sent.size m) sent j + message.length ≤ k ∧
    k < offset (Sent.size m) sent j + message.length + 0x80000000

section Messages

variable {m : ℕ} {first : ℤ} {sent : List Sent} {chunk : ℕ → DataChunk} {streamId : ℕ}
  {before message rest l l' : List ℕ} {scan : Option Scan} {s : Scan} {n : ℤ} {j k : ℕ}

lemma HeldNumbers.sublist (h : HeldNumbers m first sent chunk streamId l) (hl : l'.Sublist l) :
    HeldNumbers m first sent chunk streamId l' where
  chunks := fun k hk => h.chunks k (hl.subset hk)
  stream := fun k hk => h.stream k (hl.subset hk)
  ascending := h.ascending.sublist hl
  near := fun a ha b hb => h.near a (hl.subset ha) b (hl.subset hb)

/-- The TSN of a chunk tells its number. -/
lemma HeldNumbers.eq_of_tsn (h : HeldNumbers m first sent chunk streamId l) (h0 : 0 ≤ first) {a b : ℕ}
    (ha : a ∈ l) (hb : b ∈ l) (heq : (chunk a).tsn = (chunk b).tsn) : a = b := by
  have hnear := (h.near a ha b hb).tsn
  rw [abs_lt] at hnear
  rw [(h.chunks a ha).tsn h0, (h.chunks b hb).tsn h0,
    tsnOf_inj (by omega) (by omega) (by rw [abs_lt]; omega)] at heq
  omega

/-- **The chunk that is taken** is the next one of the message, or the first one of a message. -/
lemma InMessage.take (h : InMessage m first sent message (k :: rest) scan j) (h0 : 0 ≤ first)
    (hl : HeldNumbers m first sent chunk streamId (message ++ k :: rest))
    (hverdict : verdict scan n (chunk k) = .take s) :
    ∃ j' p, At (Sent.size m) sent k j' message.length p ∧
      message = (List.range message.length).map (offset (Sent.size m) sent j' + ·) ∧
      s.expectedTsn = tsnOf (first + k) ∧ (chunk k).lastFrag = decide (message.length + 1 = p.size m) := by
  have hmem : k ∈ message ++ k :: rest := List.mem_append_right _ List.mem_cons_self
  obtain ⟨j', i, p, hf⟩ := hl.chunks k hmem
  cases scan with
  | none =>
    obtain rfl := h.outside rfl
    unfold verdict at hverdict
    dsimp only at hverdict
    rw [hf.firstFrag] at hverdict
    by_cases hi : i = 0
    · subst hi
      rw [decide_eq_true rfl, if_neg (by decide)] at hverdict
      split_ifs at hverdict
      obtain rfl := Verdict.take.inj hverdict
      exact ⟨j', p, hf.place, rfl, hf.tsn h0, hf.lastFrag⟩
    · rw [decide_eq_false hi, if_pos (by decide)] at hverdict
      split_ifs at hverdict
  | some s₀ =>
    obtain ⟨hle, hlt⟩ := h.ahead s₀ rfl k List.mem_cons_self
    unfold verdict at hverdict
    dsimp only at hverdict
    by_cases htsn : (chunk k).tsn ≠ s₀.expectedTsn
    · rw [if_pos htsn] at hverdict
      split_ifs at hverdict
    · rw [if_neg htsn] at hverdict
      obtain rfl := Verdict.take.inj hverdict
      rw [not_not, hf.tsn h0, h.expected s₀ rfl,
        tsnOf_inj (by omega) (by omega) (by rw [abs_lt]; push_cast; omega)] at htsn
      have hk : k = offset (Sent.size m) sent j + message.length := by
        push_cast at htsn
        omega
      have hexpected : s₀.expectedTsn = tsnOf (first + k) := by rw [h.expected s₀ rfl, hk]
      rcases eq_or_ne message [] with rfl | hne
      · obtain rfl : i = 0 := by
          have hplace := hf.place
          rw [hk] at hplace
          exact hplace.eq_zero_of_offset
        exact ⟨j', p, hf.place, rfl, hexpected, hf.lastFrag⟩
      · obtain ⟨p', hp', hlen⟩ := h.unfinished hne
        obtain ⟨rfl, rfl, rfl⟩ := hf.place.unique ⟨hp', hlen, hk⟩
        exact ⟨j', p, hf.place, h.numbers, hexpected, hf.lastFrag⟩

/-- The chunks behind the one that is taken. -/
lemma HeldNumbers.behind (hl : HeldNumbers m first sent chunk streamId (message ++ k :: rest)) {x : ℕ}
    (hx : x ∈ rest) : k + 1 ≤ x ∧ x < k + 1 + 0x80000000 := by
  have hasc := (List.pairwise_append.mp hl.ascending).2.1
  have hlt := (List.pairwise_cons.mp hasc).1 x hx
  have hnear := (hl.near k (List.mem_append_right _ List.mem_cons_self) x
    (List.mem_append_right _ (List.mem_cons_of_mem _ hx))).tsn
  rw [abs_lt] at hnear
  omega

/-- A chunk that is not the last one goes on with the message. -/
lemma InMessage.next {p : Sent} (h0 : 0 ≤ first)
    (hl : HeldNumbers m first sent chunk streamId (message ++ k :: rest))
    (hat : At (Sent.size m) sent k j message.length p)
    (hnumbers : message = (List.range message.length).map (offset (Sent.size m) sent j + ·))
    (hexpected : s.expectedTsn = tsnOf (first + k)) (hlast : message.length + 1 ≠ p.size m) :
    InMessage m first sent (message ++ [k]) rest
      (some { s with expectedTsn := tsnPlusOne s.expectedTsn }) j := by
  have hk := hat.eq
  have hlen : (message ++ [k]).length = message.length + 1 := by simp
  have hend : offset (Sent.size m) sent j + (message ++ [k]).length = k + 1 := by omega
  refine ⟨?_, fun _ => ⟨p, hat.elem, ?_⟩, fun h => (nomatch h), fun s' hs' => ?_,
    fun _ _ x hx => ?_⟩
  · rw [hlen, List.range_succ, List.map_append, ← hnumbers, List.map_singleton, ← hk]
  · have := hat.lt
    omega
  · obtain rfl := Option.some.inj hs'
    dsimp only
    rw [hexpected, tsnPlusOne_tsnOf (by omega), hend]
    push_cast
    rw [add_assoc]
  · rw [hend]
    exact hl.behind hx

/-- The last chunk ends the message, and the next message is expected. -/
lemma InMessage.finish {p : Sent} (h0 : 0 ≤ first)
    (hl : HeldNumbers m first sent chunk streamId (message ++ k :: rest))
    (hat : At (Sent.size m) sent k j message.length p)
    (hexpected : s.expectedTsn = tsnOf (first + k)) (hlast : message.length + 1 = p.size m) :
    InMessage m first sent [] rest (some { s with expectedTsn := tsnPlusOne s.expectedTsn })
      (j + 1) := by
  have hk := hat.eq
  have hend : offset (Sent.size m) sent (j + 1) + ([] : List ℕ).length = k + 1 := by
    rw [offset_succ hat.elem, List.length_nil]
    omega
  refine ⟨rfl, fun h => absurd rfl h, fun h => (nomatch h), fun s' hs' => ?_, fun _ _ x hx => ?_⟩
  · obtain rfl := Option.some.inj hs'
    dsimp only
    rw [hexpected, tsnPlusOne_tsnOf (by omega), hend]
    push_cast
    rw [add_assoc]
  · rw [hend]
    exact hl.behind hx

/-- The chunk is unordered, or its SSN is at `a` or comes less than `2 ^ 15` after it. -/
structure Follows (a : ℤ) (c : DataChunk) : Prop where
  mem : 0 ≤ c.streamSeqNum ∧ c.streamSeqNum < 0x10000
  ordered : c.unordered = false → (c.streamSeqNum - a) % 0x10000 < 0x7fff
  unordered : c.unordered = true → c.streamSeqNum = 0

end Messages

end Werift.Sctp
