import Mathlib

/-!
# Lacing

A packet is laced into segments of `n` elements and a last, shorter one.  Of the segments of packets in a row, one
after the other, the packets come out again.
-/

namespace Lacing

variable {α : Type*} {n : ℕ} {acc rest packet : List α} {segments : List (List α)}

/-- The segments of a packet: full ones, and one that is not. -/
def Laces (n : ℕ) (segments : List (List α)) (packet : List α) : Prop :=
  ∃ (full : List (List α)) (last : List α), segments = full ++ [last] ∧ (∀ segment ∈ full, segment.length = n) ∧
    last.length < n ∧ segments.flatten = packet

/-- The packets in a row of segments, and what is left of one that has not ended. -/
def unlace (n : ℕ) : List α → List (List α) → List (List α) × List α
  | acc, [] => ([], acc)
  | acc, segment :: segments =>
    if segment.length < n then
      let result := unlace n [] segments
      ((acc ++ segment) :: result.1, result.2)
    else unlace n (acc ++ segment) segments

lemma unlace_full {full : List (List α)} (h : ∀ segment ∈ full, segment.length = n) (acc : List α)
    (segments : List (List α)) : unlace n acc (full ++ segments) = unlace n (acc ++ full.flatten) segments := by
  induction full generalizing acc with
  | nil => rw [List.nil_append, List.flatten_nil, List.append_nil]
  | cons segment full ih =>
    obtain ⟨hsegment, hfull⟩ := List.forall_mem_cons.mp h
    rw [List.cons_append, unlace, if_neg hsegment.not_lt, ih hfull, List.flatten_cons, List.append_assoc]

lemma Laces.unlace_append (h : Laces n segments packet) (following : List (List α)) :
    unlace n [] (segments ++ following) = (packet :: (unlace n [] following).1, (unlace n [] following).2) := by
  obtain ⟨full, last, rfl, hfull, hlast, rfl⟩ := h
  rw [List.append_assoc, unlace_full hfull, List.singleton_append, unlace, if_pos hlast, List.nil_append,
    List.flatten_append, List.flatten_singleton]

/-- **Lacing is undone.** -/
theorem unlace_flatMap {ι : Type*} {packets : List ι} {segmentsOf : ι → List (List α)} {packetOf : ι → List α}
    (h : ∀ p ∈ packets, Laces n (segmentsOf p) (packetOf p)) :
    unlace n [] (packets.flatMap segmentsOf) = (packets.map packetOf, []) := by
  induction packets with
  | nil => rfl
  | cons p packets ih =>
    obtain ⟨hp, hpackets⟩ := List.forall_mem_cons.mp h
    rw [List.flatMap_cons, hp.unlace_append, ih hpackets, List.map_cons]

/-- What is cut off piece by piece, and the rest. -/
lemma flatten_pieces (n q : ℕ) (l : List α) :
    ((List.range q).map fun i => (l.drop (n * i)).take n).flatten ++ l.drop (n * q) = l := by
  induction q with
  | zero => rw [List.range_zero, List.map_nil, List.flatten_nil, List.nil_append, Nat.mul_zero, List.drop_zero]
  | succ q ih =>
    have hdrop : l.drop (n * (q + 1)) = (l.drop (n * q)).drop n := by rw [List.drop_drop, Nat.mul_succ]
    rw [List.range_succ, List.map_append, List.map_singleton, List.flatten_append, List.flatten_singleton,
      List.append_assoc, hdrop, List.take_append_drop, ih]

end Lacing
