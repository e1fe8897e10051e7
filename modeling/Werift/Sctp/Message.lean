import Werift.Lib.Segments
import Werift.Sctp.Received
import Werift.Sctp.Send

/-!
# The chunks of the messages that have been sent

The messages that `send` has accepted take consecutive TSNs: the message at the index `j` takes as
many as it has fragments, and an empty message takes none.  So a chunk is known by its number: the
chunk with the number `k` has the TSN `first + k`, where `first` is the initial TSN of the sender,
and its place among the segments of `Segments` is the fragment of a message.
-/

namespace Werift.Sctp

open Segments

/-- A message that has been accepted, with the value that `outboundStreamSeq` had for its stream. -/
structure Sent where
  args : SendArgs
  seq : ℤ
deriving DecidableEq

/-- How many chunks the message has. -/
def Sent.size (maxPayloadSize : ℕ) (p : Sent) : ℕ := p.args.fragments maxPayloadSize

/-- The chunk `c` is the fragment `i` of the message at the index `j`, and has the number `k`. -/
structure Fragment (maxPayloadSize : ℕ) (first : ℤ) (sent : List Sent) (k : ℕ) (c : DataChunk)
    (j i : ℕ) (p : Sent) : Prop where
  place : At (Sent.size maxPayloadSize) sent k j i p
  eq : c = (p.args.fragmentChunk maxPayloadSize
    (tsnOf (first + offset (Sent.size maxPayloadSize) sent j)) p.seq i).onWire

/-- The chunk with the number `k`, as the peer parses it. -/
def IsChunk (maxPayloadSize : ℕ) (first : ℤ) (sent : List Sent) (k : ℕ) (c : DataChunk) : Prop :=
  ∃ j i p, Fragment maxPayloadSize first sent k c j i p

/-! ## Flags -/

lemma lastFrag_fragmentChunk (a : SendArgs) (mps : ℕ) (tsn seq : ℤ) (i : ℕ) :
    (a.fragmentChunk mps tsn seq i).onWire.lastFrag = decide (i + 1 = a.fragments mps) := by
  simp only [DataChunk.lastFrag, DataChunk.onWire, SendArgs.fragmentChunk, SendArgs.fragmentFlags]
  split_ifs with h1 h2 h3 <;> simp_all <;> decide

lemma firstFrag_fragmentChunk (a : SendArgs) (mps : ℕ) (tsn seq : ℤ) (i : ℕ) :
    (a.fragmentChunk mps tsn seq i).onWire.firstFrag = decide (i = 0) := by
  simp only [DataChunk.firstFrag, DataChunk.onWire, SendArgs.fragmentChunk, SendArgs.fragmentFlags]
  split_ifs <;> simp_all <;> decide

lemma unordered_fragmentChunk (a : SendArgs) (mps : ℕ) (tsn seq : ℤ) (i : ℕ) :
    (a.fragmentChunk mps tsn seq i).onWire.unordered = !a.ordered := by
  simp only [DataChunk.unordered, DataChunk.onWire, SendArgs.fragmentChunk, SendArgs.fragmentFlags]
  split_ifs <;> simp_all <;> decide

namespace Fragment

variable {m : ℕ} {first : ℤ} {sent : List Sent} {k : ℕ} {c : DataChunk} {j i : ℕ} {p : Sent}

lemma tsn (h : Fragment m first sent k c j i p) (h0 : 0 ≤ first) : c.tsn = tsnOf (first + k) := by
  rw [h.eq, DataChunk.onWire_tsn, SendArgs.fragmentChunk, iterate_tsnPlusOne (by omega), h.place.eq]
  push_cast
  rw [add_assoc]

lemma streamId (h : Fragment m first sent k c j i p) : c.streamId = p.args.streamId := by
  rw [h.eq]
  rfl

lemma streamSeqNum (h : Fragment m first sent k c j i p) :
    c.streamSeqNum = p.args.streamSeqNum p.seq := by
  rw [h.eq]
  rfl

lemma unordered (h : Fragment m first sent k c j i p) : c.unordered = !p.args.ordered := by
  rw [h.eq, unordered_fragmentChunk]

lemma firstFrag (h : Fragment m first sent k c j i p) : c.firstFrag = decide (i = 0) := by
  rw [h.eq, firstFrag_fragmentChunk]

lemma lastFrag (h : Fragment m first sent k c j i p) : c.lastFrag = decide (i + 1 = p.size m) := by
  rw [h.eq, lastFrag_fragmentChunk]
  rfl

end Fragment

section Chunks

variable {m : ℕ} {first : ℤ} {sent : List Sent} {k : ℕ} {c c' : DataChunk}

/-- Chunks stay when more messages are sent. -/
lemma IsChunk.append (h : IsChunk m first sent k c) (l : List Sent) :
    IsChunk m first (sent ++ l) k c := by
  obtain ⟨j, i, p, hf⟩ := h
  refine ⟨j, i, p, hf.place.append l, ?_⟩
  rw [hf.eq, offset_append hf.place.lt_length.le]

/-- A number belongs to one chunk. -/
lemma IsChunk.unique (h : IsChunk m first sent k c) (h' : IsChunk m first sent k c') : c = c' := by
  obtain ⟨j, i, p, hf⟩ := h
  obtain ⟨j', i', p', hf'⟩ := h'
  obtain ⟨rfl, rfl, rfl⟩ := hf.place.unique hf'.place
  rw [hf.eq, hf'.eq]

lemma IsChunk.tsn (h : IsChunk m first sent k c) (h0 : 0 ≤ first) : c.tsn = tsnOf (first + k) := by
  obtain ⟨j, i, p, hf⟩ := h
  exact hf.tsn h0

lemma IsChunk.lt_total (h : IsChunk m first sent k c) : k < Queue.total (Sent.size m) sent := by
  obtain ⟨j, i, p, hf⟩ := h
  exact hf.place.lt_total

end Chunks

end Werift.Sctp
