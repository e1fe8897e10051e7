import Werift.Rtp.Playout

/-!
# Runs of a jitter buffer

Packets arrive in any order, repeated or not at all, each less than half a cycle of sequence numbers
away from the packet that has been put out last.  The outputs are then in serial order, every number
they pass is put out or reported lost once, and a packet ahead of the position when it arrives is put
out (`jitterBuffer_reorders`).  The position passes a missing number when a packet behind it has waited
too long, when the buffer is full, or at the end of the stream, and never goes back: what arrives late
behind a full buffer is dropped although nothing has waited (`jitterBuffer_full_drops`).
-/

namespace Werift.Rtp

open Js (IndexObject)

variable {p x y : ℤ} {o : Playout} {rtp rtp' : RtpPacket}

/-! ## What one packet releases -/

/-- A number that times out is the one of an overdue packet. -/
lemma exists_of_foldl_laterTimeout (b : JitterBufferBase) (o : Playout) (baseTimestamp : ℤ)
    {packets : List RtpPacket} {seq : ℤ} {latest : Option ℤ}
    (h : packets.foldl (b.laterTimeout o baseTimestamp) latest = some seq) :
    latest = some seq ∨
      ∃ rtp ∈ packets, b.Overdue rtp.header.timestamp baseTimestamp ∧ rtp.seq = seq := by
  induction packets generalizing latest with
  | nil => exact .inl h
  | cons rtp packets ih =>
    rw [List.foldl_cons] at h
    obtain hround | ⟨rtp', hmem, hoverdue, hseq⟩ := ih h
    · unfold JitterBufferBase.laterTimeout at hround
      split_ifs at hround with hoverdue
      · cases latest with
        | none =>
          exact .inr ⟨rtp, List.mem_cons_self, hoverdue, Option.some.inj hround⟩
        | some seq' =>
          dsimp only at hround
          split_ifs at hround
          · exact .inr ⟨rtp, List.mem_cons_self, hoverdue, Option.some.inj hround⟩
          · exact .inl hround
      · exact .inl hround
    · exact .inr ⟨rtp', List.mem_cons_of_mem _ hmem, hoverdue, hseq⟩

/-- What is given up for a timeout lies in front of an overdue packet. -/
theorem releaseTimeout_moves (b : JitterBufferBase) (h : At p o) (timestamp : ℤ)
    (hnext : waiting p o.rtpBuffer (p + 1) = none) :
    ∃ q, Moves p o (b.releaseTimeout o timestamp).2 q (b.releaseTimeout o timestamp).1 ∧
      (∀ first last, .lost first last ∈ marks p (b.releaseTimeout o timestamp).2 →
        ∃ y rtp, last < y ∧ waiting p o.rtpBuffer y = some rtp ∧
          b.Overdue rtp.header.timestamp timestamp) ∧
      waiting q (b.releaseTimeout o timestamp).1.rtpBuffer (q + 1) = none := by
  rw [JitterBufferBase.releaseTimeout]
  cases hfind : b.findLatestTimeoutSeqNum o timestamp with
  | none => exact ⟨p, Moves.refl h, fun first last hmark => absurd hmark List.not_mem_nil, hnext⟩
  | some seq =>
    obtain hnone | ⟨rtp, hmem, hoverdue, rfl⟩ := exists_of_foldl_laterTimeout b o timestamp hfind
    · exact absurd hnone (by simp)
    · obtain ⟨x, hx⟩ := h.mem_values.mp hmem
      obtain ⟨q, hmoves, hlost, -, hend⟩ := releaseUntil_moves h hx
      exact ⟨q, hmoves, fun first last hmark => ⟨x, rtp, hlost first last hmark, hx, hoverdue⟩, hend⟩

/-- Something is given up for the size of the buffer only if it is exceeded. -/
theorem releaseOverflow_moves (b : JitterBufferBase) (h : At p o)
    (hnext : waiting p o.rtpBuffer (p + 1) = none) :
    ∃ q, Moves p o (b.releaseOverflow o).2 q (b.releaseOverflow o).1 ∧
      (∀ first last, .lost first last ∈ marks p (b.releaseOverflow o).2 →
        b.options.bufferSize < o.rtpBuffer.entries.length) ∧
      waiting q (b.releaseOverflow o).1.rtpBuffer (q + 1) = none := by
  have hstay : ∃ q, Moves p o [] q o ∧
      (∀ first last, .lost first last ∈ marks p [] →
        b.options.bufferSize < o.rtpBuffer.entries.length) ∧
      waiting q o.rtpBuffer (q + 1) = none :=
    ⟨p, Moves.refl h, fun first last hmark => absurd hmark List.not_mem_nil, hnext⟩
  rw [JitterBufferBase.releaseOverflow]
  split_ifs with hsize
  · rw [length_sortedBuffer] at hsize
    cases hget : o.sortedBuffer[o.sortedBuffer.length - b.options.bufferSize - 1]? with
    | none => exact hstay
    | some overflow =>
      obtain ⟨x, hx⟩ := h.mem_sortedBuffer.mp (List.mem_of_getElem? hget)
      obtain ⟨q, hmoves, -, -, hend⟩ := releaseUntil_moves h hx
      exact ⟨q, hmoves, fun first last _ => hsize, hend⟩
  · exact hstay

/-- The buffer with a new packet. -/
lemma At.set (h : At p o) (hlow : p < x) (hhigh : x < p + 0x8000) (hseq : rtp.seq = x % 0x10000) :
    At p ⟨o.presentSeqNum, o.rtpBuffer.set rtp.seq rtp⟩ where
  present := h.present
  ahead k rtp' hk := by
    rw [IndexObject.get?_set] at hk
    split_ifs at hk with hkey
    · obtain rfl := Option.some.inj hk
      exact ⟨hkey.symm, x, hlow, hhigh, hkey.trans hseq⟩
    · exact h.ahead k rtp' hk

lemma waiting_set (hlow : p < x) (hhigh : x < p + 0x8000) (hseq : rtp.seq = x % 0x10000) :
    waiting p (o.rtpBuffer.set rtp.seq rtp) y =
      if y = x then some rtp else waiting p o.rtpBuffer y := by
  unfold waiting
  rw [IndexObject.get?_set, hseq]
  by_cases hyx : y = x
  · subst hyx
    rw [if_pos ⟨hlow, hhigh⟩, if_pos rfl, if_pos rfl]
  · rw [if_neg hyx]
    split_ifs with hrange hkey
    · omega
    · rfl
    · rfl

/-- **A new packet ahead of the position.** -/
theorem insert_moves (b : JitterBufferBase) (h : At p o) (hlow : p < x) (hhigh : x < p + 0x8000)
    (hseq : rtp.seq = x % 0x10000) :
    ∃ q, Moves p ⟨o.presentSeqNum, o.rtpBuffer.set rtp.seq rtp⟩ (b.insert o rtp).2 q
        (b.insert o rtp).1 ∧
      (∀ first last, .lost first last ∈ marks p (b.insert o rtp).2 →
        (∃ y rtp', last < y ∧ waiting p (o.rtpBuffer.set rtp.seq rtp) y = some rtp' ∧
          b.Overdue rtp'.header.timestamp rtp.header.timestamp) ∨
        b.options.bufferSize ≤ o.rtpBuffer.entries.length) ∧
      waiting q (b.insert o rtp).1.rtpBuffer (q + 1) = none := by
  obtain ⟨q₁, hcontinued, hnoLost, hnext₁⟩ := releaseContinuous_moves (h.set hlow hhigh hseq)
  obtain ⟨q₂, htimeout, htimeoutLost, hnext₂⟩ :=
    releaseTimeout_moves b hcontinued.at_end rtp.header.timestamp hnext₁
  obtain ⟨q₃, hoverflow, hoverflowLost, hnext₃⟩ := releaseOverflow_moves b htimeout.at_end hnext₂
  have hmoves := (hcontinued.trans htimeout).trans hoverflow
  rw [JitterBufferBase.insert]
  refine ⟨q₃, hmoves, fun first last hmark => ?_, hnext₃⟩
  rw [marks_append, marks_append, (hcontinued.emits.append htimeout.emits).position_eq,
    hcontinued.emits.position_eq, List.mem_append, List.mem_append] at hmark
  obtain (hmark | hmark) | hmark := hmark
  · exact absurd hmark (hnoLost first last)
  · obtain ⟨y, rtp', hlast, hy, hoverdue⟩ := htimeoutLost first last hmark
    exact .inl ⟨y, rtp', hlast, hcontinued.waiting_of_waiting hy, hoverdue⟩
  · have hsize := hoverflowLost first last hmark
    have hle : _ ≤ (o.rtpBuffer.set rtp.seq rtp).entries.length :=
      htimeout.length_le.trans hcontinued.length_le
    have hset : (o.rtpBuffer.set rtp.seq rtp).entries.length ≤ o.rtpBuffer.entries.length + 1 :=
      IndexObject.length_set_le
    exact .inr (by omega)

/-- The end of the stream releases everything. -/
theorem flush_moves (h : At p o) :
    ∃ q, Moves p o (JitterBufferBase.flush o).2 q (JitterBufferBase.flush o).1 ∧
      ∀ y, waiting q (JitterBufferBase.flush o).1.rtpBuffer y = none := by
  rw [JitterBufferBase.flush]
  cases hlast : o.sortedBuffer.getLast? with
  | none =>
    refine ⟨p, Moves.refl h, fun y => Option.eq_none_iff_forall_ne_some.mpr fun rtp hy => ?_⟩
    have hmem := h.mem_sortedBuffer.mpr ⟨y, hy⟩
    rw [List.getLast?_eq_none_iff.mp hlast] at hmem
    exact absurd hmem List.not_mem_nil
  | some last =>
    obtain ⟨front, hfront⟩ := List.getLast?_eq_some_iff.mp hlast
    have hmem : last ∈ o.sortedBuffer := List.mem_of_getLast? hlast
    obtain ⟨x, hx⟩ := h.mem_sortedBuffer.mp hmem
    obtain ⟨q, hmoves, -, hbehind, -⟩ := releaseUntil_moves h hx
    refine ⟨q, hmoves, fun y => Option.eq_none_iff_forall_ne_some.mpr fun rtp hy => ?_⟩
    have hxy := hbehind y rtp hy
    have hy' := hmoves.waiting_of_waiting hy
    have hsorted := h.pairwise_sortedBuffer
    have hmem' := h.mem_sortedBuffer.mpr ⟨y, hy'⟩
    rw [hfront, List.pairwise_append] at hsorted
    rw [hfront, List.mem_append, List.mem_singleton] at hmem'
    have hdistance : o.distance rtp.seq ≤ o.distance last.seq := by
      obtain hmem' | rfl := hmem'
      · exact (hsorted.2.2 rtp hmem' last List.mem_cons_self).le
      · exact le_rfl
    rw [h.distance_seq hx, h.distance_seq hy'] at hdistance
    omega

/-! ## Runs -/

/-- An input: the packet `x`, or one without a packet. -/
inductive JitterEvent
  | packet (x : ℤ) (rtp : RtpPacket) (eol : Bool)
  | noPacket (eol : Bool)

/-- The input itself. -/
def JitterEvent.input : JitterEvent → JitterBufferInput
  | .packet _ rtp eol => ⟨some rtp, eol⟩
  | .noPacket eol => ⟨none, eol⟩

/-- A jitter buffer, what it has put out, and the packets that were ahead of its position when they
arrived, with their numbers; a repetition of a packet that is held back is not counted again. -/
structure Session where
  buffer : JitterBufferBase
  log : List JitterBufferOutput := []
  ahead : List (ℤ × RtpPacket) := []

namespace Session

/-- The number of the last packet that has been put out, or the one in front of the first packet. -/
def position (first : ℤ) (s : Session) : ℤ := Rtp.position (first - 1) s.log

/-- The outputs with their numbers. -/
def marks (first : ℤ) (s : Session) : List Mark := Rtp.marks (first - 1) s.log

/-- The packet `x` that is held back. -/
def waiting (first : ℤ) (s : Session) : ℤ → Option RtpPacket :=
  Rtp.waiting (s.position first) s.buffer.rtpBuffer

/-- The numbers of the packets ahead, behind an input. -/
def aheadOf (first : ℤ) (s : Session) : JitterEvent → List (ℤ × RtpPacket)
  | .packet x rtp _ =>
    if s.position first < x ∧ s.waiting first x = none then s.ahead ++ [(x, rtp)] else s.ahead
  | .noPacket _ => s.ahead

/-- One input. -/
def step (first : ℤ) (s : Session) (e : JitterEvent) : Option Session :=
  some
    { buffer := (s.buffer.processInput e.input).1
      log := s.log ++ (s.buffer.processInput e.input).2
      ahead := s.aheadOf first e }

/-- A packet bears its number and is less than half a cycle away from the position.  The numbers are
counted from the packet that arrives first. -/
def InHalfSpace (first : ℤ) (s : Session) : JitterEvent → Prop
  | .packet x rtp _ =>
    rtp.seq = x % 0x10000 ∧ |x - s.position first| < 0x8000 ∧
      (s.buffer.presentSeqNum = none → x = first)
  | .noPacket _ => True

instance (first : ℤ) (s : Session) (e : JitterEvent) : Decidable (s.InHalfSpace first e) := by
  cases e <;> unfold InHalfSpace <;> infer_instance

/-- The state of a session in terms of numbers without wraps. -/
structure Ordered (first : ℤ) (s : Session) : Prop where
  emits : Emits (first - 1) s.log (s.position first)
  at_position : ∀ present, s.buffer.presentSeqNum = some present →
    At (s.position first) ⟨present, s.buffer.rtpBuffer⟩
  unstarted : s.buffer.presentSeqNum = none →
    s.position first = first - 1 ∧ s.buffer.rtpBuffer = .empty
  ahead_iff : ∀ x rtp, (x, rtp) ∈ s.ahead ↔
    .packet x rtp ∈ s.marks first ∨ s.waiting first x = some rtp
  next_missing : s.waiting first (s.position first + 1) = none

variable {first : ℤ} {s s' : Session} {e : JitterEvent}

/-- A session goes on with outputs that lead to a later position. -/
theorem Ordered.continue (h : s.Ordered first) {outputs : List JitterBufferOutput} {q present : ℤ}
    {buffer : JitterBufferBase} {ahead : List (ℤ × RtpPacket)}
    (hemits : Emits (s.position first) outputs q) (hpresent : buffer.presentSeqNum = some present)
    (hat : At q ⟨present, buffer.rtpBuffer⟩)
    (hahead : ∀ x rtp, (x, rtp) ∈ ahead ↔ .packet x rtp ∈ s.marks first ∨
      .packet x rtp ∈ Rtp.marks (s.position first) outputs ∨
        Rtp.waiting q buffer.rtpBuffer x = some rtp)
    (hnext : Rtp.waiting q buffer.rtpBuffer (q + 1) = none) :
    Ordered first ⟨buffer, s.log ++ outputs, ahead⟩ := by
  have hposition : position first ⟨buffer, s.log ++ outputs, ahead⟩ = q := by
    rw [position, position_append, ← position, hemits.position_eq]
  have hmarks : marks first ⟨buffer, s.log ++ outputs, ahead⟩ =
      s.marks first ++ Rtp.marks (s.position first) outputs := by
    rw [marks, marks_append, ← marks, ← position]
  refine ⟨?_, fun present' h' => ?_, fun hnone => ?_, fun x rtp => ?_, ?_⟩
  · rw [hposition]
    exact h.emits.append hemits
  · obtain rfl := Option.some.inj (hpresent.symm.trans h')
    rw [hposition]
    exact hat
  · exact absurd (hpresent.symm.trans hnone) (by simp)
  · rw [hahead, hmarks, List.mem_append, or_assoc, waiting, hposition]
  · rw [waiting, hposition]
    exact hnext

/-- A session before the first packet. -/
lemma start_ordered (first : ℤ) (clockRate : ℕ) (options : JitterBufferOptions) :
    Ordered first ⟨{ clockRate := clockRate, options := options }, [], []⟩ where
  emits := .done _
  at_position present h := absurd h (by simp)
  unstarted _ := ⟨rfl, rfl⟩
  ahead_iff x rtp := by simp [marks, Rtp.marks, waiting, Rtp.waiting]
  next_missing := by simp [waiting, Rtp.waiting]

/-- Among numbers less than half a cycle apart the comparison of the source is exact. -/
lemma uint16Gte_emod {p x : ℤ} (h : |x - p| < 0x8000) :
    uint16Gte (p % 0x10000) (x % 0x10000) = true ↔ x ≤ p := by
  rw [abs_lt] at h
  simp only [uint16Gte, uint16Gt, uintGt, Bool.or_eq_true, Bool.and_eq_true, decide_eq_true_eq,
    beq_iff_eq]
  omega

/-- A packet that is new and ahead of the position is inserted, and no other. -/
lemma processInput_packet {p present x : ℤ} {b : JitterBufferBase} {rtp : RtpPacket}
    (hpresent : b.presentSeqNum = some present) (hat : At p ⟨present, b.rtpBuffer⟩)
    (hseq : rtp.seq = x % 0x10000) (hnear : |x - p| < 0x8000) (eol : Bool) :
    b.processInput ⟨some rtp, eol⟩ =
      if p < x ∧ Rtp.waiting p b.rtpBuffer x = none then
        (b.withPlayout (b.insert ⟨present, b.rtpBuffer⟩ rtp).1,
          (b.insert ⟨present, b.rtpBuffer⟩ rtp).2)
      else (b, []) := by
  have hbehind := uint16Gte_emod hnear
  rw [abs_lt] at hnear
  have hp : present = p % 0x10000 := hat.present
  rw [← hp, ← hseq] at hbehind
  have hdropped : (uint16Gte present rtp.seq ∨ (b.rtpBuffer.get? rtp.seq).isSome) ↔
      ¬ (p < x ∧ Rtp.waiting p b.rtpBuffer x = none) := by
    by_cases hlow : p < x
    · rw [hbehind, Rtp.waiting, if_pos ⟨hlow, by omega⟩, hseq, ← Option.not_isSome_iff_eq_none]
      simp only [not_le.mpr hlow, hlow, false_or, true_and, not_not]
    · rw [hbehind]
      simp only [not_lt.mp hlow, hlow, true_or, false_and, not_false_eq_true]
  simp only [JitterBufferBase.processInput, hpresent]
  by_cases hahead : p < x ∧ Rtp.waiting p b.rtpBuffer x = none
  · rw [if_neg fun h => hdropped.mp h hahead, if_pos hahead]
  · rw [if_pos (hdropped.mpr hahead), if_neg hahead]

/-- A packet keeps a session ordered. -/
theorem Ordered.packet (h : s.Ordered first) {x : ℤ} {rtp : RtpPacket} {eol : Bool}
    (hin : s.InHalfSpace first (.packet x rtp eol)) :
    Ordered first
      ⟨(s.buffer.processInput ⟨some rtp, eol⟩).1, s.log ++ (s.buffer.processInput ⟨some rtp, eol⟩).2,
        s.aheadOf first (.packet x rtp eol)⟩ := by
  obtain ⟨hseq, hnear, hfirst⟩ := hin
  cases hpresent : s.buffer.presentSeqNum with
  | none =>
    obtain rfl := hfirst hpresent
    obtain ⟨hposition, hempty⟩ := h.unstarted hpresent
    have hwaiting : ∀ y, s.waiting x y = none := by
      intro y
      simp [waiting, hempty, Rtp.waiting]
    have hprocess : s.buffer.processInput ⟨some rtp, eol⟩ =
        ({ s.buffer with presentSeqNum := some rtp.seq }, [.rtp rtp]) := by
      simp only [JitterBufferBase.processInput, hpresent]
    have hnext : rtp.seq = (s.position x + 1) % 0x10000 := by
      rw [hposition, sub_add_cancel]
      exact hseq
    have hemits : Emits (s.position x) [.rtp rtp] x := by
      have hone := Emits.next hnext (.done _)
      rwa [hposition, sub_add_cancel, ← hposition] at hone
    have hahead : s.aheadOf x (.packet x rtp eol) = s.ahead ++ [(x, rtp)] := by
      rw [aheadOf, if_pos ⟨by rw [hposition]; omega, hwaiting x⟩]
    rw [hprocess, hahead]
    refine h.continue hemits rfl ⟨hseq, fun k rtp' hk => ?_⟩ (fun y rtp' => ?_) ?_
    · rw [hempty] at hk
      exact absurd hk (by simp)
    · rw [List.mem_append, h.ahead_iff, hwaiting, (Emits.marks_next hnext _).1, hposition,
        sub_add_cancel, hempty]
      simp [Rtp.marks, Rtp.waiting]
    · simp [hempty, Rtp.waiting]
  | some present =>
    have hat := h.at_position present hpresent
    rw [processInput_packet hpresent hat hseq hnear]
    rw [abs_lt] at hnear
    have hwaiting : s.waiting first x = Rtp.waiting (s.position first) s.buffer.rtpBuffer x := rfl
    rw [aheadOf, hwaiting]
    split_ifs with hnew
    · obtain ⟨q, hmoves, -, hnext⟩ :=
        insert_moves s.buffer hat hnew.1 (by omega) hseq
      generalize s.buffer.insert ⟨present, s.buffer.rtpBuffer⟩ rtp = inserted at hmoves hnext ⊢
      refine h.continue hmoves.emits rfl hmoves.at_end (fun y rtp' => ?_) hnext
      have hmove := hmoves.waiting_iff y rtp'
      have hset : Rtp.waiting (s.position first) (s.buffer.rtpBuffer.set rtp.seq rtp) y =
          if y = x then some rtp else Rtp.waiting (s.position first) s.buffer.rtpBuffer y :=
        waiting_set (o := ⟨present, s.buffer.rtpBuffer⟩) hnew.1 (by omega) hseq
      rw [hset] at hmove
      rw [List.mem_append, h.ahead_iff, List.mem_singleton, Prod.mk.injEq]
      refine Iff.trans ?_ (or_congr_right hmove)
      rw [or_assoc]
      refine or_congr_right ?_
      by_cases hyx : y = x
      · subst hyx
        rw [hwaiting, hnew.2, if_pos rfl, Option.some.injEq]
        simp [eq_comm]
      · rw [if_neg hyx]
        simp [hyx, waiting]
    · have hsame := h.continue (.done _) hpresent hat (fun y rtp' => by
        rw [h.ahead_iff]
        simp [Rtp.marks, waiting]) h.next_missing
      exact hsame

/-- The end of a stream without a packet. -/
lemma processInput_eol {b : JitterBufferBase} (h : b.presentSeqNum = none) :
    b.processInput ⟨none, true⟩ = ({ b with rtpBuffer := .empty }, [.eol]) := by
  obtain ⟨clockRate, options, present, buffer⟩ := b
  cases h
  rfl

/-- An input without a packet keeps a session ordered, and at the end of the stream nothing is held
back. -/
theorem Ordered.noPacket (h : s.Ordered first) (eol : Bool) :
    Ordered first
      ⟨(s.buffer.processInput ⟨none, eol⟩).1, s.log ++ (s.buffer.processInput ⟨none, eol⟩).2,
        s.ahead⟩ := by
  cases eol with
  | false =>
    have hprocess : s.buffer.processInput ⟨none, false⟩ = (s.buffer, []) := rfl
    rw [hprocess, List.append_nil]
    exact h
  | true =>
    cases hpresent : s.buffer.presentSeqNum with
    | none =>
      obtain ⟨hposition, hempty⟩ := h.unstarted hpresent
      have hprocess : s.buffer.processInput ⟨none, true⟩ = (s.buffer, [.eol]) := by
        rw [processInput_eol hpresent, ← hempty]
      rw [hprocess]
      have hsame : position first ⟨s.buffer, s.log ++ [.eol], s.ahead⟩ = s.position first := by
        simp only [position, position_append]
        rfl
      refine ⟨?_, fun present h' => absurd (hpresent.symm.trans h') (by simp), fun _ => ?_, ?_, ?_⟩
      · rw [hsame]
        exact h.emits.append (.eol (.done _))
      · rw [hsame]
        exact ⟨hposition, hempty⟩
      · intro x rtp
        rw [h.ahead_iff, marks, marks, marks_append, waiting, waiting, hsame]
        simp [Rtp.marks]
      · rw [waiting, hsame]
        exact h.next_missing
    | some present =>
      have hat := h.at_position present hpresent
      obtain ⟨q, hmoves, hnone⟩ := flush_moves hat
      have hprocess : s.buffer.processInput ⟨none, true⟩ =
          (s.buffer.withPlayout
              ⟨(JitterBufferBase.flush ⟨present, s.buffer.rtpBuffer⟩).1.presentSeqNum, .empty⟩,
            (JitterBufferBase.flush ⟨present, s.buffer.rtpBuffer⟩).2 ++ [.eol]) := by
        simp only [JitterBufferBase.processInput, hpresent, if_true]
      rw [hprocess]
      refine h.continue (hmoves.emits.append (.eol (.done q))) rfl
        ⟨hmoves.at_end.present, fun k rtp hk => absurd hk (by
          change (IndexObject.empty : IndexObject RtpPacket).get? k ≠ some rtp
          simp)⟩ (fun x rtp => ?_) ?_
      · rw [h.ahead_iff, waiting, hmoves.waiting_iff, hnone, marks_append]
        simp [Rtp.marks, Rtp.waiting, JitterBufferBase.withPlayout]
      · simp [Rtp.waiting, JitterBufferBase.withPlayout]

/-- **Runs keep order.** -/
theorem ordered_of_run {clockRate : ℕ} {options : JitterBufferOptions}
    (run : Transition.Run (step first) (InHalfSpace first)
      ⟨{ clockRate := clockRate, options := options }, [], []⟩ s) : s.Ordered first := by
  refine run.invariant (Ordered first) (start_ordered first clockRate options) ?_
  intro s e s' h hin hstep
  obtain rfl := Option.some.inj hstep
  cases e with
  | packet x rtp eol => exact h.packet hin
  | noPacket eol => exact h.noPacket eol

/-- No input changes the settings of a buffer. -/
lemma processInput_settings (b : JitterBufferBase) (input : JitterBufferInput) :
    (b.processInput input).1.clockRate = b.clockRate ∧
      (b.processInput input).1.options = b.options := by
  unfold JitterBufferBase.processInput
  split
  · split_ifs
    · split <;> exact ⟨rfl, rfl⟩
    · exact ⟨rfl, rfl⟩
  · split
    · exact ⟨rfl, rfl⟩
    · split_ifs <;> exact ⟨rfl, rfl⟩

/-- The settings of a buffer stay. -/
lemma settings_of_run {clockRate : ℕ} {options : JitterBufferOptions}
    (run : Transition.Run (step first) (InHalfSpace first)
      ⟨{ clockRate := clockRate, options := options }, [], []⟩ s) :
    s.buffer.clockRate = clockRate ∧ s.buffer.options = options := by
  refine run.invariant (fun s => s.buffer.clockRate = clockRate ∧ s.buffer.options = options)
    ⟨rfl, rfl⟩ ?_
  intro s e s' h _ hstep
  obtain rfl := Option.some.inj hstep
  have hkept := processInput_settings s.buffer e.input
  exact ⟨hkept.1.trans h.1, hkept.2.trans h.2⟩

/-- What a packet gives up lies in front of one that has waited too long, or the buffer is full. -/
lemma Ordered.lost_of_packet (h : s.Ordered first) {x : ℤ} {rtp : RtpPacket} {eol : Bool}
    (hin : s.InHalfSpace first (.packet x rtp eol)) {a b : ℤ}
    (hlost : .lost a b ∈
      Rtp.marks (s.position first) (s.buffer.processInput ⟨some rtp, eol⟩).2) :
    (∃ y rtp', b < y ∧ (s.waiting first y = some rtp' ∨ (y = x ∧ rtp' = rtp)) ∧
        s.buffer.Overdue rtp'.header.timestamp rtp.header.timestamp) ∨
      s.buffer.options.bufferSize ≤ s.buffer.rtpBuffer.entries.length := by
  obtain ⟨hseq, hnear, -⟩ := hin
  cases hpresent : s.buffer.presentSeqNum with
  | none =>
    simp only [JitterBufferBase.processInput, hpresent, Rtp.marks] at hlost
    simp at hlost
  | some present =>
    have hat := h.at_position present hpresent
    rw [processInput_packet hpresent hat hseq hnear] at hlost
    rw [abs_lt] at hnear
    split_ifs at hlost with hnew
    · obtain ⟨q, -, hreason, -⟩ := insert_moves s.buffer hat hnew.1 (by omega) hseq
      obtain ⟨y, rtp', hby, hy, hoverdue⟩ | hfull := hreason a b hlost
      · refine .inl ⟨y, rtp', hby, ?_, hoverdue⟩
        have hset : Rtp.waiting (s.position first) (s.buffer.rtpBuffer.set rtp.seq rtp) y =
            if y = x then some rtp else Rtp.waiting (s.position first) s.buffer.rtpBuffer y :=
          waiting_set (o := ⟨present, s.buffer.rtpBuffer⟩) hnew.1 (by omega) hseq
        rw [hset] at hy
        split_ifs at hy with hyx
        · exact .inr ⟨hyx, (Option.some.inj hy).symm⟩
        · exact .inl hy
      · exact .inr hfull
    · exact absurd hlost List.not_mem_nil

/-- At the end of the stream nothing is held back. -/
lemma waiting_eol (x : ℤ) :
    waiting first
      ⟨(s.buffer.processInput ⟨none, true⟩).1, s.log ++ (s.buffer.processInput ⟨none, true⟩).2,
        s.ahead⟩ x = none := by
  have hempty : (s.buffer.processInput ⟨none, true⟩).1.rtpBuffer = .empty := by
    cases hpresent : s.buffer.presentSeqNum with
    | none => rw [processInput_eol hpresent]
    | some present =>
      simp only [JitterBufferBase.processInput, hpresent, if_true]
      rfl
  simp [waiting, Rtp.waiting, hempty]

end Session

open Session in
/-- **The jitter buffer reorders.**  In every run the packets are put out in serial order.  Every
number from the first one to the position is put out or reported lost exactly once, and no other
number is.  The packets that were ahead of the position when they arrived are those that have been put
out or are held back, the one behind the position is not held back, and at the end of the stream
nothing is.  A packet that arrives gives numbers up only if one behind them has waited longer than the
latency, or if the buffer was full. -/
theorem jitterBuffer_reorders {clockRate : ℕ} {options : JitterBufferOptions} {first : ℤ}
    {s : Session}
    (run : Transition.Run (step first) (InHalfSpace first)
      ⟨{ clockRate := clockRate, options := options }, [], []⟩ s) :
    ((seqNums s.log).IsChain fun a b => uint16Gt b a = true) ∧
    (∀ x, ((s.marks first).countP fun m => decide (m.interval.1 ≤ x ∧ x ≤ m.interval.2)) =
      if first ≤ x ∧ x ≤ s.position first then 1 else 0) ∧
    (∀ x rtp, (x, rtp) ∈ s.ahead ↔ .packet x rtp ∈ s.marks first ∨ s.waiting first x = some rtp) ∧
    s.waiting first (s.position first + 1) = none ∧
    (∀ s', s.step first (.noPacket true) = some s' → ∀ x, s'.waiting first x = none) ∧
    ∀ x rtp eol, s.InHalfSpace first (.packet x rtp eol) → ∀ a b,
      .lost a b ∈ Rtp.marks (s.position first) (s.buffer.processInput ⟨some rtp, eol⟩).2 →
        (∃ y rtp', b < y ∧ (s.waiting first y = some rtp' ∨ (y = x ∧ rtp' = rtp)) ∧
          JitterBufferBase.Overdue { clockRate := clockRate, options := options }
            rtp'.header.timestamp rtp.header.timestamp) ∨
        options.bufferSize ≤ s.buffer.rtpBuffer.entries.length := by
  have h := ordered_of_run run
  obtain ⟨hrate, hoptions⟩ := settings_of_run run
  refine ⟨h.emits.isChain.tail, fun x => ?_, h.ahead_iff, h.next_missing, fun s' hstep x => ?_,
    fun x rtp eol hin a b hlost => ?_⟩
  · have hcount := h.emits.tiling.countP_eq (x := x)
    rw [List.countP_map] at hcount
    simp only [Int.sub_one_lt_iff] at hcount
    exact hcount
  · obtain rfl := Option.some.inj hstep
    exact waiting_eol x
  · have hreason := h.lost_of_packet hin hlost
    simpa only [JitterBufferBase.Overdue, hrate, hoptions] using hreason

/-- A packet with this number and this timestamp. -/
private def packetOf (sequenceNumber timestamp : ℕ) : RtpPacket :=
  ⟨{ sequenceNumber := sequenceNumber, timestamp := timestamp }, []⟩

/-- A run across both wraps: the packet 65535 comes late, and the number 1 never. -/
theorem jitterBuffer_reorders_wrap : ∃ s : Session,
    Transition.Run (Session.step 65534) (Session.InHalfSpace 65534)
      ⟨{ clockRate := 90000 }, [], []⟩ s ∧
    s.log = [.rtp (packetOf 65534 0xfffffff0), .rtp (packetOf 65535 0xfffffff1),
      .rtp (packetOf 0 4), .isPacketLost 1 1, .rtp (packetOf 2 5), .rtp (packetOf 3 18006)] ∧
    (seqNums s.log).IsChain fun a b => uint16Gt b a = true := by
  let check : Session → JitterEvent → Bool := fun s e => decide (s.InHalfSpace 65534 e)
  let events : List JitterEvent :=
    [.packet 65534 (packetOf 65534 0xfffffff0) false, .packet 65536 (packetOf 0 4) false,
      .packet 65535 (packetOf 65535 0xfffffff1) false, .packet 65538 (packetOf 2 5) false,
      .packet 65539 (packetOf 3 18006) false]
  have hlog : (events.foldlM (fun s e => if check s e then s.step 65534 e else none)
      ⟨{ clockRate := 90000 }, [], []⟩).map Session.log =
        some [.rtp (packetOf 65534 0xfffffff0), .rtp (packetOf 65535 0xfffffff1),
          .rtp (packetOf 0 4), .isPacketLost 1 1, .rtp (packetOf 2 5), .rtp (packetOf 3 18006)] := by
    decide +kernel
  obtain ⟨s, hs, hslog⟩ := Option.map_eq_some_iff.mp hlog
  have hrun : Transition.Run (Session.step 65534) (Session.InHalfSpace 65534)
      ⟨{ clockRate := 90000 }, [], []⟩ s :=
    Transition.Run.of_checked (fun s e h => of_decide_eq_true h) hs
  exact ⟨s, hrun, hslog, (jitterBuffer_reorders hrun).1⟩

/-- A full buffer gives the packet 1 up although nothing has waited, and drops it when it comes; and
what comes behind the first packet that arrives but precedes it is dropped. -/
theorem jitterBuffer_full_drops :
    ([JitterEvent.packet 0 (packetOf 0 0) false, .packet 2 (packetOf 2 0) false,
        .packet 3 (packetOf 3 0) false, .packet 1 (packetOf 1 0) false, .noPacket true].foldlM
      (Session.step 0) ⟨{ clockRate := 90000, options := { bufferSize := 1 } }, [], []⟩).map
        Session.log =
      some [.rtp (packetOf 0 0), .isPacketLost 1 1, .rtp (packetOf 2 0), .rtp (packetOf 3 0),
        .eol] ∧
    ¬ JitterBufferBase.Overdue { clockRate := 90000, options := { bufferSize := 1 } } 0 0 ∧
    ([JitterEvent.packet 1 (packetOf 1 0) false, .packet 0 (packetOf 0 0) false,
        .noPacket true].foldlM (Session.step 1) ⟨{ clockRate := 90000 }, [], []⟩).map
        Session.log = some [.rtp (packetOf 1 0), .eol] := by
  decide +kernel

end Werift.Rtp
