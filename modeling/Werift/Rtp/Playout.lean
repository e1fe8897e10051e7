import Werift.Lib.Tiling
import Werift.Lib.Transition
import Werift.Rtp.JitterBuffer

/-!
# What a jitter buffer puts out

Packets are numbered without wraps here: the packet `x` bears the number `x % 0x10000`.  What the
buffer puts out moves its position from one number to a later one, packet by packet, with a lost range
wherever a number is missing (`Emits`), and a packet that is held back stays so until it is put out
(`Moves`).  From this follows for every order of arrivals what the outputs cover (`playout_ordered`).
-/

namespace Werift.Rtp

open Js (IndexObject)

/-! ## Numbers without wraps -/

/-- The next number behind `p` or at `p` that stands as `k` in a packet. -/
def unwrap (p k : ℤ) : ℤ := p + (k - p) % 0x10000

/-- An output with its numbers counted without wraps. -/
inductive Mark
  | packet (x : ℤ) (rtp : RtpPacket)
  | lost (first last : ℤ)
deriving DecidableEq

/-- The numbers that an output is about. -/
def Mark.interval : Mark → ℤ × ℤ
  | .packet x _ => (x, x)
  | .lost first last => (first, last)

/-- The outputs with their numbers, behind the position `p`. -/
def marks : ℤ → List JitterBufferOutput → List Mark
  | _, [] => []
  | p, .rtp rtp :: outputs => .packet (unwrap p rtp.seq) rtp :: marks (unwrap p rtp.seq) outputs
  | p, .isPacketLost first last :: outputs =>
    .lost (unwrap p first) (unwrap p last) :: marks (unwrap p last) outputs
  | p, .eol :: outputs => marks p outputs

/-- The number of the last output. -/
def position : ℤ → List JitterBufferOutput → ℤ
  | p, [] => p
  | p, .rtp rtp :: outputs => position (unwrap p rtp.seq) outputs
  | p, .isPacketLost _ last :: outputs => position (unwrap p last) outputs
  | p, .eol :: outputs => position p outputs

/-- The numbers of the packets among the outputs, as they stand in the packets. -/
def seqNums (outputs : List JitterBufferOutput) : List ℤ :=
  outputs.filterMap fun
    | .rtp rtp => some rtp.seq
    | _ => none

lemma marks_append (p : ℤ) (outputs outputs' : List JitterBufferOutput) :
    marks p (outputs ++ outputs') = marks p outputs ++ marks (position p outputs) outputs' := by
  induction outputs generalizing p with
  | nil => rfl
  | cons output outputs ih =>
    cases output <;> simp only [List.cons_append, marks, position, ih]

lemma position_append (p : ℤ) (outputs outputs' : List JitterBufferOutput) :
    position p (outputs ++ outputs') = position (position p outputs) outputs' := by
  induction outputs generalizing p with
  | nil => rfl
  | cons output outputs ih =>
    cases output <;> simp only [List.cons_append, position, ih]

lemma unwrap_emod {p x : ℤ} (h : p ≤ x) (h' : x < p + 0x10000) : unwrap p (x % 0x10000) = x := by
  unfold unwrap
  omega

/-! ## Outputs in order -/

/-- The outputs lead from the position `p` to the position `q`: each packet is the next one, or the
one behind a range of lost ones. -/
inductive Emits : ℤ → List JitterBufferOutput → ℤ → Prop
  | done (p : ℤ) : Emits p [] p
  | next {p q : ℤ} {rtp : RtpPacket} {outputs : List JitterBufferOutput}
      (hseq : rtp.seq = (p + 1) % 0x10000) (rest : Emits (p + 1) outputs q) :
      Emits p (.rtp rtp :: outputs) q
  | gap {p x q : ℤ} {rtp : RtpPacket} {outputs : List JitterBufferOutput} (hlow : p + 1 < x)
      (hhigh : x < p + 0x8000) (hseq : rtp.seq = x % 0x10000) (rest : Emits x outputs q) :
      Emits p (.isPacketLost ((p + 1) % 0x10000) ((x - 1) % 0x10000) :: .rtp rtp :: outputs) q
  | eol {p q : ℤ} {outputs : List JitterBufferOutput} (rest : Emits p outputs q) :
      Emits p (.eol :: outputs) q

namespace Emits

variable {p q r x : ℤ} {outputs outputs' : List JitterBufferOutput}

theorem append (h : Emits p outputs q) (h' : Emits q outputs' r) :
    Emits p (outputs ++ outputs') r := by
  induction h with
  | done => exact h'
  | next hseq _ ih => exact .next hseq (ih h')
  | gap hlow hhigh hseq _ ih => exact .gap hlow hhigh hseq (ih h')
  | eol _ ih => exact .eol (ih h')

/-- What the first output of a gap stands for. -/
lemma marks_gap {rtp : RtpPacket} (hlow : p + 1 < x) (hhigh : x < p + 0x8000)
    (hseq : rtp.seq = x % 0x10000) (outputs : List JitterBufferOutput) :
    marks p (.isPacketLost ((p + 1) % 0x10000) ((x - 1) % 0x10000) :: .rtp rtp :: outputs) =
        .lost (p + 1) (x - 1) :: .packet x rtp :: marks x outputs ∧
      position p (.isPacketLost ((p + 1) % 0x10000) ((x - 1) % 0x10000) :: .rtp rtp :: outputs) =
        position x outputs := by
  simp only [marks, position, hseq]
  rw [unwrap_emod (show p ≤ p + 1 by omega) (by omega), unwrap_emod (show p ≤ x - 1 by omega)
    (by omega), unwrap_emod (show x - 1 ≤ x by omega) (by omega)]
  exact ⟨rfl, rfl⟩

lemma marks_next {rtp : RtpPacket} (hseq : rtp.seq = (p + 1) % 0x10000)
    (outputs : List JitterBufferOutput) :
    marks p (.rtp rtp :: outputs) = .packet (p + 1) rtp :: marks (p + 1) outputs ∧
      position p (.rtp rtp :: outputs) = position (p + 1) outputs := by
  simp only [marks, position, hseq]
  rw [unwrap_emod (show p ≤ p + 1 by omega) (by omega)]
  exact ⟨rfl, rfl⟩

theorem position_eq (h : Emits p outputs q) : position p outputs = q := by
  induction h with
  | done => rfl
  | next hseq _ ih => rw [(marks_next hseq _).2, ih]
  | gap hlow hhigh hseq _ ih => rw [(marks_gap hlow hhigh hseq _).2, ih]
  | eol _ ih => exact ih

/-- **Nothing twice, nothing left out.**  The outputs tile the numbers they pass. -/
theorem tiling (h : Emits p outputs q) : Tiling p ((marks p outputs).map Mark.interval) q := by
  induction h with
  | done => exact .nil _
  | next hseq _ ih =>
    rw [(marks_next hseq _).1]
    exact .cons (by omega) ih
  | @gap p x q rtp outputs hlow hhigh hseq _ ih =>
    rw [(marks_gap hlow hhigh hseq _).1]
    refine .cons (show p < x - 1 by omega) ?_
    have hnext : (Mark.packet x rtp).interval = (x - 1 + 1, x) := by
      rw [sub_add_cancel]
      rfl
    rw [List.map_cons, hnext]
    exact .cons (by omega) ih
  | eol _ ih => exact ih

lemma le (h : Emits p outputs q) : p ≤ q := h.tiling.le

/-- A number less than half a cycle ahead is ahead on the cycle. -/
lemma uint16Gt_emod (hlow : p < x) (hhigh : x < p + 0x8000) :
    uint16Gt (x % 0x10000) (p % 0x10000) = true := by
  simp only [uint16Gt, uintGt, Bool.or_eq_true, Bool.and_eq_true, decide_eq_true_eq]
  omega

/-- **Serial order.**  Each packet is ahead of the one that is put out before it. -/
theorem isChain (h : Emits p outputs q) :
    (p % 0x10000 :: seqNums outputs).IsChain fun a b => uint16Gt b a = true := by
  induction h with
  | done => exact .singleton _
  | next hseq _ ih =>
    refine .cons_cons ?_ (hseq ▸ ih)
    rw [hseq]
    exact uint16Gt_emod (by omega) (by omega)
  | gap hlow hhigh hseq _ ih =>
    refine .cons_cons ?_ (hseq ▸ ih)
    rw [hseq]
    exact uint16Gt_emod (by omega) hhigh
  | eol _ ih => exact ih

end Emits

/-! ## Packets that are held back -/

/-- The packet `x` that the buffer holds back behind the position `p`. -/
def waiting (p : ℤ) (buffer : IndexObject RtpPacket) (x : ℤ) : Option RtpPacket :=
  if p < x ∧ x < p + 0x8000 then buffer.get? (x % 0x10000) else none

/-- The output position is `p`, and what is held back is less than half a cycle ahead of it. -/
structure At (p : ℤ) (o : Playout) : Prop where
  present : o.presentSeqNum = p % 0x10000
  ahead : ∀ k rtp, o.rtpBuffer.get? k = some rtp →
    rtp.seq = k ∧ ∃ x, p < x ∧ x < p + 0x8000 ∧ k = x % 0x10000

variable {p q r x y base limit : ℤ} {o o' o'' : Playout} {rtp rtp' : RtpPacket}
  {outputs outputs' : List JitterBufferOutput}

lemma waiting_eq_some {buffer : IndexObject RtpPacket} :
    waiting p buffer x = some rtp ↔
      (p < x ∧ x < p + 0x8000) ∧ buffer.get? (x % 0x10000) = some rtp := by
  rw [waiting, Option.ite_none_right_eq_some]

lemma At.expectNextSeqNum (h : At p o) : o.expectNextSeqNum = (p + 1) % 0x10000 := by
  rw [Playout.expectNextSeqNum, uint16Add, h.present]
  omega

lemma At.seq (h : At p o) (hx : waiting p o.rtpBuffer x = some rtp) : rtp.seq = x % 0x10000 :=
  (h.ahead _ _ (waiting_eq_some.mp hx).2).1

/-- What the buffer has under a key is the packet of a number ahead. -/
lemma At.exists_waiting (h : At p o) {k : ℤ} (hk : o.rtpBuffer.get? k = some rtp) :
    ∃ x, k = x % 0x10000 ∧ waiting p o.rtpBuffer x = some rtp := by
  obtain ⟨-, x, hlow, hhigh, rfl⟩ := h.ahead k rtp hk
  exact ⟨x, rfl, waiting_eq_some.mpr ⟨⟨hlow, hhigh⟩, hk⟩⟩

/-- The position moves from `p` to `q` and the outputs lead there; what was held back has been put
out or is still held back. -/
structure Moves (p : ℤ) (o : Playout) (outputs : List JitterBufferOutput) (q : ℤ) (o' : Playout) :
    Prop where
  emits : Emits p outputs q
  at_end : At q o'
  waiting_iff : ∀ x rtp, waiting p o.rtpBuffer x = some rtp ↔
    .packet x rtp ∈ marks p outputs ∨ waiting q o'.rtpBuffer x = some rtp
  length_le : o'.rtpBuffer.entries.length ≤ o.rtpBuffer.entries.length

namespace Moves

lemma refl (h : At p o) : Moves p o [] p o where
  emits := .done p
  at_end := h
  waiting_iff x rtp := by simp [marks]
  length_le := le_rfl

theorem trans (h : Moves p o outputs q o') (h' : Moves q o' outputs' r o'') :
    Moves p o (outputs ++ outputs') r o'' where
  emits := h.emits.append h'.emits
  at_end := h'.at_end
  waiting_iff x rtp := by
    rw [marks_append, h.emits.position_eq, List.mem_append, or_assoc, ← h'.waiting_iff,
      ← h.waiting_iff]
  length_le := h'.length_le.trans h.length_le

/-- What is still held back has been held back before. -/
lemma waiting_of_waiting (h : Moves p o outputs q o') (hx : waiting q o'.rtpBuffer x = some rtp) :
    waiting p o.rtpBuffer x = some rtp :=
  (h.waiting_iff x rtp).mpr (.inr hx)

end Moves

/-- The outputs for the packet `x` behind the position `p`. -/
def announce (p x : ℤ) (rtp : RtpPacket) : List JitterBufferOutput :=
  if x = p + 1 then [.rtp rtp]
  else [.isPacketLost ((p + 1) % 0x10000) ((x - 1) % 0x10000), .rtp rtp]

lemma announce_emits (hlow : p < x) (hhigh : x < p + 0x8000) (hseq : rtp.seq = x % 0x10000) :
    Emits p (announce p x rtp) x := by
  unfold announce
  split_ifs with hx
  · subst hx
    exact .next hseq (.done _)
  · exact .gap (by omega) hhigh hseq (.done _)

lemma marks_announce (hlow : p < x) (hhigh : x < p + 0x8000) (hseq : rtp.seq = x % 0x10000) :
    marks p (announce p x rtp) =
      if x = p + 1 then [.packet x rtp] else [.lost (p + 1) (x - 1), .packet x rtp] := by
  unfold announce
  split_ifs with hx
  · subst hx
    rw [(Emits.marks_next hseq _).1]
    rfl
  · rw [(Emits.marks_gap (by omega) hhigh hseq _).1]
    rfl

lemma mem_marks_announce (hlow : p < x) (hhigh : x < p + 0x8000) (hseq : rtp.seq = x % 0x10000) :
    .packet y rtp' ∈ marks p (announce p x rtp) ↔ y = x ∧ rtp' = rtp := by
  rw [marks_announce hlow hhigh hseq]
  split_ifs <;> simp

/-- Taking the packet `x` out, in front of which nothing is held back. -/
lemma At.moveTo (h : At p o) (hx : waiting p o.rtpBuffer x = some rtp)
    (hfirst : ∀ y, p < y → y < x → waiting p o.rtpBuffer y = none) : At x (o.moveTo rtp.seq) where
  present := h.seq hx
  ahead k rtp' hk := by
    obtain ⟨⟨hlow, hhigh⟩, -⟩ := waiting_eq_some.mp hx
    rw [Playout.moveTo, IndexObject.get?_delete, h.seq hx] at hk
    obtain ⟨hne, hget⟩ := Option.ite_none_left_eq_some.mp hk
    obtain ⟨hseq, y, hylow, hyhigh, rfl⟩ := h.ahead k rtp' hget
    refine ⟨hseq, y, ?_, by omega, rfl⟩
    by_contra hyx
    have hlt : y < x := lt_of_le_of_ne (not_lt.mp hyx) fun heq => hne (by rw [heq])
    have hnone := hfirst y hylow hlt
    rw [waiting, if_pos ⟨hylow, hyhigh⟩, hget] at hnone
    exact absurd hnone (by simp)

/-- **One release.** -/
theorem At.moves_moveTo (h : At p o) (hx : waiting p o.rtpBuffer x = some rtp)
    (hfirst : ∀ y, p < y → y < x → waiting p o.rtpBuffer y = none) :
    Moves p o (announce p x rtp) x (o.moveTo rtp.seq) := by
  obtain ⟨⟨hlow, hhigh⟩, hget⟩ := waiting_eq_some.mp hx
  refine ⟨announce_emits hlow hhigh (h.seq hx), h.moveTo hx hfirst, fun y rtp' => ?_,
    IndexObject.length_delete_le⟩
  rw [mem_marks_announce hlow hhigh (h.seq hx), waiting_eq_some (p := x), Playout.moveTo,
    IndexObject.get?_delete, h.seq hx, Option.ite_none_left_eq_some]
  constructor
  · intro hy
    obtain ⟨⟨hylow, hyhigh⟩, hyget⟩ := waiting_eq_some.mp hy
    by_cases hyx : y = x
    · subst hyx
      exact .inl ⟨rfl, Option.some.inj (hyget.symm.trans hget)⟩
    · have hle : x ≤ y := by
        by_contra hlt
        rw [hfirst y hylow (not_le.mp hlt)] at hy
        exact absurd hy (by simp)
      exact .inr ⟨⟨by omega, by omega⟩, by omega, hyget⟩
  · rintro (⟨rfl, rfl⟩ | ⟨⟨hxy, hyhigh⟩, hne, hyget⟩)
    · exact hx
    · obtain ⟨z, hz, hzwaiting⟩ := h.exists_waiting hyget
      obtain ⟨⟨hzlow, hzhigh⟩, -⟩ := waiting_eq_some.mp hzwaiting
      obtain rfl : y = z := by omega
      exact hzwaiting

/-! ## The loops -/

/-- Packets one behind the other are released without a gap, and what comes next is missing. -/
theorem releaseRounds_moves (rounds : ℕ) (h : At p o) :
    ∃ q, Moves p o (o.releaseRounds rounds).2 q (o.releaseRounds rounds).1 ∧
      (∀ first last, .lost first last ∉ marks p (o.releaseRounds rounds).2) ∧
      (o.rtpBuffer.entries.length ≤ rounds →
        waiting q (o.releaseRounds rounds).1.rtpBuffer (q + 1) = none) := by
  induction rounds generalizing p o with
  | zero =>
    refine ⟨p, Moves.refl h, fun first last => List.not_mem_nil, fun hle => ?_⟩
    have hempty : o.rtpBuffer.entries = [] := List.eq_nil_of_length_eq_zero (Nat.le_zero.mp hle)
    simp [Playout.releaseRounds, waiting, IndexObject.get?, hempty]
  | succ rounds ih =>
    rw [Playout.releaseRounds]
    cases hget : o.rtpBuffer.get? o.expectNextSeqNum with
    | none =>
      refine ⟨p, Moves.refl h, fun first last => List.not_mem_nil, fun _ => ?_⟩
      rw [waiting, if_pos ⟨by omega, by omega⟩, ← h.expectNextSeqNum, hget]
    | some rtp =>
      have hnext : waiting p o.rtpBuffer (p + 1) = some rtp := by
        rw [waiting, if_pos ⟨by omega, by omega⟩, ← h.expectNextSeqNum, hget]
      have hstep := h.moves_moveTo hnext fun y hlow hhigh => absurd hlow (by omega)
      have hseq : rtp.seq = o.expectNextSeqNum := (h.ahead _ _ hget).1
      rw [hseq, announce, if_pos rfl] at hstep
      obtain ⟨q, hmoves, hlost, hend⟩ := ih hstep.at_end
      refine ⟨q, hstep.trans hmoves, fun first last => ?_, fun hle => hend ?_⟩
      · have hmark := (Emits.marks_next (hseq.trans h.expectNextSeqNum)
          ((o.moveTo o.expectNextSeqNum).releaseRounds rounds).2).1
        rw [hmark, List.mem_cons, not_or]
        exact ⟨by simp, hlost first last⟩
      · have hlt : (o.moveTo o.expectNextSeqNum).rtpBuffer.entries.length <
            o.rtpBuffer.entries.length := IndexObject.length_delete_lt hget
        omega

/-- `releaseContinuous(output)`. -/
theorem releaseContinuous_moves (h : At p o) :
    ∃ q, Moves p o o.releaseContinuous.2 q o.releaseContinuous.1 ∧
      (∀ first last, .lost first last ∉ marks p o.releaseContinuous.2) ∧
      waiting q o.releaseContinuous.1.rtpBuffer (q + 1) = none := by
  obtain ⟨q, hmoves, hlost, hend⟩ := releaseRounds_moves o.rtpBuffer.entries.length h
  exact ⟨q, hmoves, hlost, hend le_rfl⟩

/-- The distance of a packet from a position at most half a cycle behind. -/
lemma At.uint16Add_seq (h : At p o) {start : ℤ} (hle : start ≤ p) (hlt : p < start + 0x8000)
    (hx : waiting p o.rtpBuffer x = some rtp) :
    uint16Add rtp.seq (-(start % 0x10000)) = x - start := by
  obtain ⟨⟨hlow, hhigh⟩, -⟩ := waiting_eq_some.mp hx
  rw [uint16Add, h.seq hx]
  omega

lemma At.distance_seq (h : At p o) (hx : waiting p o.rtpBuffer x = some rtp) :
    o.distance rtp.seq = x - p := by
  rw [Playout.distance, h.present]
  exact h.uint16Add_seq le_rfl (by omega) hx

lemma At.mem_values (h : At p o) :
    rtp ∈ o.rtpBuffer.values ↔ ∃ x, waiting p o.rtpBuffer x = some rtp := by
  rw [IndexObject.mem_values]
  constructor
  · rintro ⟨k, hk⟩
    obtain ⟨x, -, hx⟩ := h.exists_waiting hk
    exact ⟨x, hx⟩
  · rintro ⟨x, hx⟩
    exact ⟨_, (waiting_eq_some.mp hx).2⟩

lemma At.mem_sortedBuffer (h : At p o) :
    rtp ∈ o.sortedBuffer ↔ ∃ x, waiting p o.rtpBuffer x = some rtp := by
  rw [Playout.sortedBuffer, List.mem_insertionSort, h.mem_values]

/-- No two packets are at the same distance. -/
lemma At.pairwise_distance_ne (h : At p o) :
    o.rtpBuffer.values.Pairwise fun a b => o.distance a.seq ≠ o.distance b.seq := by
  rw [IndexObject.values, List.pairwise_map]
  refine o.rtpBuffer.ascending.imp_of_mem fun {a b} ha hb hlt heq => ?_
  obtain ⟨x, hax, hx⟩ := h.exists_waiting (IndexObject.get?_eq_some.mpr ha)
  obtain ⟨y, hby, hy⟩ := h.exists_waiting (IndexObject.get?_eq_some.mpr hb)
  rw [h.distance_seq hx, h.distance_seq hy] at heq
  obtain rfl : x = y := by omega
  omega

/-- The sorted buffer ascends. -/
lemma At.pairwise_sortedBuffer (h : At p o) :
    o.sortedBuffer.Pairwise fun a b => o.distance a.seq < o.distance b.seq := by
  have : Std.Total fun a b : RtpPacket => o.distance a.seq ≤ o.distance b.seq :=
    ⟨fun a b => le_total _ _⟩
  have : IsTrans RtpPacket fun a b => o.distance a.seq ≤ o.distance b.seq :=
    ⟨fun _ _ _ => le_trans⟩
  have hle : o.sortedBuffer.Pairwise fun a b => o.distance a.seq ≤ o.distance b.seq :=
    List.pairwise_insertionSort _ _
  have hperm : o.sortedBuffer.Perm o.rtpBuffer.values := List.perm_insertionSort _ _
  have hne : o.sortedBuffer.Pairwise fun a b => o.distance a.seq ≠ o.distance b.seq :=
    (hperm.pairwise_iff fun hab => hab.symm).mpr h.pairwise_distance_ne
  exact (hle.and hne).imp fun hab => lt_of_le_of_ne hab.1 hab.2

lemma length_sortedBuffer (o : Playout) :
    o.sortedBuffer.length = o.rtpBuffer.entries.length := by
  rw [Playout.sortedBuffer, List.length_insertionSort, IndexObject.values, List.length_map]

/-- The outputs of one round of the loop. -/
lemma releaseSorted_cons (h : At p o) (hx : waiting p o.rtpBuffer x = some rtp)
    (hlimit : uint16Add rtp.seq (-base) ≤ limit) (rest : List RtpPacket) :
    Playout.releaseSorted base limit (rtp :: rest) o =
      ((Playout.releaseSorted base limit rest (o.moveTo rtp.seq)).1,
        announce p x rtp ++ (Playout.releaseSorted base limit rest (o.moveTo rtp.seq)).2) := by
  obtain ⟨⟨hlow, hhigh⟩, -⟩ := waiting_eq_some.mp hx
  have hprevious : uint16Add rtp.seq (-1) = (x - 1) % 0x10000 := by
    rw [uint16Add, h.seq hx]
    omega
  rw [Playout.releaseSorted, if_neg (not_lt.mpr hlimit), announce, h.expectNextSeqNum, hprevious,
    h.seq hx]
  by_cases hnext : x = p + 1
  · rw [if_pos hnext, if_neg (not_not.mpr (by rw [hnext]))]
    rfl
  · rw [if_neg hnext, if_pos (by omega)]
    rfl

/-- The loop releases what is within the limit, and the ranges it gives up lie within the limit. -/
theorem releaseSorted_moves (limit : ℤ) {start : ℤ} {left : List RtpPacket} (h : At p o) (hle : start ≤ p)
    (hlt : p < start + 0x8000)
    (hsorted : left.Pairwise fun a b =>
      uint16Add a.seq (-(start % 0x10000)) < uint16Add b.seq (-(start % 0x10000)))
    (hnear : ∀ rtp ∈ left, uint16Add rtp.seq (-(start % 0x10000)) < 0x8000)
    (hmem : ∀ rtp, rtp ∈ left ↔ ∃ x, waiting p o.rtpBuffer x = some rtp) :
    ∃ q, Moves p o (Playout.releaseSorted (start % 0x10000) limit left o).2 q
        (Playout.releaseSorted (start % 0x10000) limit left o).1 ∧
      (∀ first last,
        .lost first last ∈ marks p (Playout.releaseSorted (start % 0x10000) limit left o).2 →
          last < start + limit) ∧
      ∀ x rtp, waiting q (Playout.releaseSorted (start % 0x10000) limit left o).1.rtpBuffer x =
        some rtp → start + limit < x := by
  induction left generalizing p o with
  | nil =>
    refine ⟨p, Moves.refl h, fun first last hmark => absurd hmark List.not_mem_nil, ?_⟩
    intro x rtp hx
    exact absurd ((hmem rtp).mpr ⟨x, hx⟩) List.not_mem_nil
  | cons rtp rest ih =>
    obtain ⟨hfirst, hrest⟩ := List.pairwise_cons.mp hsorted
    obtain ⟨x, hx⟩ := (hmem rtp).mp List.mem_cons_self
    have hdistance := h.uint16Add_seq hle hlt hx
    by_cases hlimit : uint16Add rtp.seq (-(start % 0x10000)) > limit
    · rw [Playout.releaseSorted, if_pos hlimit]
      refine ⟨p, Moves.refl h, fun first last hmark => absurd hmark List.not_mem_nil, ?_⟩
      intro y rtp' hy
      have hy' := h.uint16Add_seq hle hlt hy
      obtain rfl | hmem' := List.mem_cons.mp ((hmem rtp').mpr ⟨y, hy⟩)
      · omega
      · have := hfirst rtp' hmem'
        omega
    · obtain ⟨⟨hlow, hhigh⟩, -⟩ := waiting_eq_some.mp hx
      have hnone : ∀ y, p < y → y < x → waiting p o.rtpBuffer y = none := by
        intro y _ hyx
        by_contra hsome
        obtain ⟨rtp', hy⟩ := Option.ne_none_iff_exists'.mp hsome
        have hy' := h.uint16Add_seq hle hlt hy
        obtain rfl | hmem' := List.mem_cons.mp ((hmem rtp').mpr ⟨y, hy⟩)
        · omega
        · have := hfirst rtp' hmem'
          omega
      have hstep := h.moves_moveTo hx hnone
      have hxnear := hnear rtp List.mem_cons_self
      obtain ⟨q, hmoves, hlost, hend⟩ := ih hstep.at_end (by omega) (by omega) hrest
        (fun rtp' hmem' => hnear rtp' (List.mem_cons_of_mem _ hmem')) (by
          intro rtp'
          constructor
          · intro hmem'
            obtain ⟨y, hy⟩ := (hmem rtp').mp (List.mem_cons_of_mem _ hmem')
            obtain hmark | hy := (hstep.waiting_iff y rtp').mp hy
            · obtain ⟨-, rfl⟩ := (mem_marks_announce hlow hhigh (h.seq hx)).mp hmark
              exact absurd (hfirst _ hmem') (lt_irrefl _)
            · exact ⟨y, hy⟩
          · rintro ⟨y, hy⟩
            obtain rfl | hmem' := List.mem_cons.mp
              ((hmem rtp').mpr ⟨y, hstep.waiting_of_waiting hy⟩)
            · have hy' := h.uint16Add_seq hle hlt (hstep.waiting_of_waiting hy)
              have hxy := (waiting_eq_some.mp hy).1.1
              omega
            · exact hmem')
      rw [releaseSorted_cons h hx (not_lt.mp hlimit)]
      refine ⟨q, hstep.trans hmoves, fun first last hmark => ?_, hend⟩
      rw [marks_append, hstep.emits.position_eq, List.mem_append,
        marks_announce hlow hhigh (h.seq hx)] at hmark
      obtain hmark | hmark := hmark
      · split_ifs at hmark with hnext
        · simp at hmark
        · simp only [List.mem_cons, Mark.lost.injEq, reduceCtorEq, List.not_mem_nil, or_false] at hmark
          omega
      · exact hlost first last hmark

/-- `releaseUntil(sequenceNumber, output)` up to the packet `x`. -/
theorem releaseUntil_moves (h : At p o) (hx : waiting p o.rtpBuffer x = some rtp) :
    ∃ q, Moves p o (o.releaseUntil rtp.seq).2 q (o.releaseUntil rtp.seq).1 ∧
      (∀ first last, .lost first last ∈ marks p (o.releaseUntil rtp.seq).2 → last < x) ∧
      (∀ y rtp', waiting q (o.releaseUntil rtp.seq).1.rtpBuffer y = some rtp' → x < y) ∧
      waiting q (o.releaseUntil rtp.seq).1.rtpBuffer (q + 1) = none := by
  have hdistance : o.distance rtp.seq = x - p := h.distance_seq hx
  have hsorted := h.pairwise_sortedBuffer
  simp only [Playout.distance, h.present] at hsorted
  obtain ⟨q, hmoves, hlost, hend⟩ := releaseSorted_moves (o.distance rtp.seq) h le_rfl
    (by omega) hsorted (by
      intro rtp' hmem
      obtain ⟨y, hy⟩ := h.mem_sortedBuffer.mp hmem
      rw [h.uint16Add_seq le_rfl (by omega) hy]
      have := (waiting_eq_some.mp hy).1
      omega) fun rtp' => h.mem_sortedBuffer
  obtain ⟨r, hmoves', hlost', hnext⟩ := releaseContinuous_moves hmoves.at_end
  rw [Playout.releaseUntil, h.present]
  refine ⟨r, hmoves.trans hmoves', fun first last hmark => ?_, fun y rtp' hy => ?_, hnext⟩
  · rw [marks_append, hmoves.emits.position_eq, List.mem_append] at hmark
    have := hlost first last (hmark.resolve_right (hlost' first last))
    omega
  · have := hend y rtp' (hmoves'.waiting_of_waiting hy)
    omega

end Werift.Rtp
