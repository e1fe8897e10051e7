import Werift.Sctp.Reassembly
import Werift.Sctp.Receiver

/-!
# Chunks that arrive in any order

A sender has accepted messages.  Their chunks arrive at a receiver in any order, some of them never and
some of them more than once, and FORWARD TSN chunks arrive between them.  `Arriving` is the receiver
together with the numbers of the chunks in its reassembly lists and the messages that it has handed over.

The only restriction is that chunks which are outstanding at the same time can be told apart: a chunk that
arrives is `Near` the ones that its stream holds.  Then every reassembly list is the list of the numbers
that are held, in their order (`Holds`).
-/

namespace Werift.Sctp

open Segments

/-! ## What the sender has accepted -/

/-- The messages that `send` accepts one after the other, with the numbers that they get. -/
def sentFrom (outboundStreamSeq : ℕ → ℤ) : List SendArgs → List Sent
  | [] => []
  | a :: l => ⟨a, outboundStreamSeq a.streamId⟩ :: sentFrom (a.nextOutboundSeq outboundStreamSeq) l

/-- The messages that an association accepts. -/
def accepted (l : List SendArgs) : List Sent := sentFrom (fun _ => 0) l

section Sender

variable {m : ℕ} {first : ℤ} {sent : List Sent}

end Sender

/-! ## One stream -/

/-- The stream holds the chunks with the numbers `l`. -/
structure Holds (m : ℕ) (first : ℤ) (sent : List Sent) (chunk : ℕ → DataChunk) (streamId : ℕ)
    (stream : InboundStream) (l : List ℕ) : Prop where
  numbered : HeldNumbers m first sent chunk streamId l
  reassembly : stream.reassembly = l.map chunk
  ssn : 0 ≤ stream.streamSequenceNumber ∧ stream.streamSequenceNumber < 0x10000

section Stream

variable {m : ℕ} {first : ℤ} {sent : List Sent} {chunk : ℕ → DataChunk} {streamId : ℕ}
  {stream stream' : InboundStream} {l : List ℕ} {k : ℕ}

lemma Near.symm {a b : ℕ} (h : Near m sent streamId a b) : Near m sent streamId b a where
  tsn := by
    rw [abs_sub_comm]
    exact h.tsn
  rank := fun hb ha => by
    rw [abs_sub_comm]
    exact h.rank ha hb

lemma Near.refl (m : ℕ) (sent : List Sent) (streamId a : ℕ) : Near m sent streamId a a where
  tsn := by simp
  rank := fun h h' => by
    obtain ⟨rfl, -, -⟩ := h.unique h'
    simp

/-- TSNs of chunks that are near compare as their numbers do. -/
lemma Near.uint32Gt_iff {a b : ℕ} (h : Near m sent streamId a b) (h0 : 0 ≤ first)
    (ha : IsChunk m first sent a (chunk a)) (hb : IsChunk m first sent b (chunk b)) :
    uint32Gt (chunk a).tsn (chunk b).tsn = true ↔ b < a := by
  have hd := h.tsn
  rw [ha.tsn h0, hb.tsn h0, uint32Gt_tsnOf (by omega) (by omega) (by rw [abs_lt] at hd ⊢; omega)]
  omega

lemma Near.tsn_eq_iff {a b : ℕ} (h : Near m sent streamId a b) (h0 : 0 ≤ first)
    (ha : IsChunk m first sent a (chunk a)) (hb : IsChunk m first sent b (chunk b)) :
    (chunk a).tsn = (chunk b).tsn ↔ a = b := by
  have hd := h.tsn
  rw [ha.tsn h0, hb.tsn h0, tsnOf_inj (by omega) (by omega) (by rw [abs_lt] at hd ⊢; omega)]
  omega

/-- A number that goes to its place in the list. -/
lemma HeldNumbers.orderedInsert (h : HeldNumbers m first sent chunk streamId l)
    (hk : IsChunk m first sent k (chunk k)) (hid : (chunk k).streamId = streamId)
    (hnear : ∀ a ∈ l, Near m sent streamId k a) (hnot : k ∉ l) :
    HeldNumbers m first sent chunk streamId (l.orderedInsert (· ≤ ·) k) where
  chunks := fun x hx => by
    rcases (List.mem_orderedInsert _).mp hx with rfl | hx
    · exact hk
    · exact h.chunks x hx
  stream := fun x hx => by
    rcases (List.mem_orderedInsert _).mp hx with rfl | hx
    · exact hid
    · exact h.stream x hx
  ascending := by
    have hsorted : (l.orderedInsert (· ≤ ·) k).Pairwise (· ≤ ·) :=
      (h.ascending.imp fun hlt => hlt.le).orderedInsert k l
    have hnodup : (l.orderedInsert (· ≤ ·) k).Nodup := by
      rw [(List.perm_orderedInsert (· ≤ ·) k l).nodup_iff, List.nodup_cons]
      exact ⟨hnot, h.ascending.imp fun hlt => hlt.ne⟩
    exact (hsorted.and hnodup).imp fun hle => lt_of_le_of_ne hle.1 hle.2
  near := fun a ha b hb => by
    rcases (List.mem_orderedInsert _).mp ha with heq | ha <;>
      rcases (List.mem_orderedInsert _).mp hb with heq' | hb
    · rw [heq, heq']
      exact Near.refl m sent streamId k
    · exact heq ▸ hnear b hb
    · exact heq' ▸ (hnear a ha).symm
    · exact h.near a ha b hb

/-- A number that is behind all others goes to the end. -/
lemma orderedInsert_eq_append (h : ∀ a ∈ l, a < k) : l.orderedInsert (· ≤ ·) k = l ++ [k] := by
  induction l with
  | nil => rfl
  | cons a l ih =>
    have ha := h a List.mem_cons_self
    rw [List.orderedInsert_of_not_le _ l (by omega), ih (List.forall_mem_of_forall_mem_cons h)]
    rfl

/-- The loop of `addChunk` on the numbers. -/
lemma insertChunk_map (h : HeldNumbers m first sent chunk streamId l) (h0 : 0 ≤ first)
    (hk : IsChunk m first sent k (chunk k)) (hnear : ∀ a ∈ l, Near m sent streamId k a)
    (hbehind : ∃ a ∈ l, k < a) (hnot : k ∉ l) :
    insertChunk (chunk k) (l.map chunk) = some ((l.orderedInsert (· ≤ ·) k).map chunk) := by
  induction l with
  | nil =>
    obtain ⟨a, ha, -⟩ := hbehind
    cases ha
  | cons v l ih =>
    have hv := hnear v List.mem_cons_self
    have hcv := h.chunks v List.mem_cons_self
    have hne : k ≠ v := fun heq => hnot (heq ▸ List.mem_cons_self)
    rw [List.map_cons, insertChunk, if_neg fun heq => hne ((hv.tsn_eq_iff h0 hk hcv).mp heq.symm)]
    by_cases hlt : k < v
    · rw [if_pos ((hv.symm.uint32Gt_iff h0 hcv hk).mpr hlt), List.orderedInsert_cons_of_le _ l hlt.le]
      rfl
    · rw [if_neg fun hgt => hlt ((hv.symm.uint32Gt_iff h0 hcv hk).mp hgt),
        List.orderedInsert_of_not_le _ l (by omega)]
      have hbehind' : ∃ a ∈ l, k < a := by
        obtain ⟨a, ha, hlt'⟩ := hbehind
        rcases List.mem_cons.mp ha with rfl | ha
        · exact absurd hlt' hlt
        · exact ⟨a, ha, hlt'⟩
      rw [ih (h.sublist (List.sublist_cons_self v l)) (List.forall_mem_of_forall_mem_cons hnear) hbehind'
        fun hin => hnot (List.mem_cons_of_mem _ hin)]
      rfl

/-- The loop of `addChunk` throws when it meets the chunk. -/
lemma insertChunk_map_eq_none (h : HeldNumbers m first sent chunk streamId l) (h0 : 0 ≤ first)
    (hmem : k ∈ l) : insertChunk (chunk k) (l.map chunk) = none := by
  induction l with
  | nil => cases hmem
  | cons v l ih =>
    have hnear := h.near k hmem v List.mem_cons_self
    have hk := h.chunks k hmem
    have hv := h.chunks v List.mem_cons_self
    rw [List.map_cons, insertChunk]
    by_cases heq : v = k
    · rw [if_pos (by rw [heq])]
    · have hin : k ∈ l := (List.mem_cons.mp hmem).resolve_left fun heq' => heq heq'.symm
      have hlt := (List.pairwise_cons.mp h.ascending).1 k hin
      rw [if_neg fun htsn => heq ((hnear.symm.tsn_eq_iff h0 hv hk).mp htsn),
        if_neg fun hgt => absurd ((hnear.symm.uint32Gt_iff h0 hv hk).mp hgt) (by omega),
        ih (h.sublist (List.sublist_cons_self v l)) hin]
      rfl

/-- **`addChunk`** puts a chunk to its place, unless the stream holds it. -/
theorem Holds.addChunk (h : Holds m first sent chunk streamId stream l) (h0 : 0 ≤ first)
    (hk : IsChunk m first sent k (chunk k)) (hid : (chunk k).streamId = streamId)
    (hnear : ∀ a ∈ l, Near m sent streamId k a) :
    k ∈ l ∧ stream.addChunk (chunk k) = none ∨
      k ∉ l ∧ ∃ stream', stream.addChunk (chunk k) = some stream' ∧
        Holds m first sent chunk streamId stream' (l.orderedInsert (· ≤ ·) k) := by
  obtain ⟨reassembly, ssn⟩ := stream
  obtain rfl := h.reassembly
  have hnew : k ∉ l → Holds m first sent chunk streamId
      ⟨(l.orderedInsert (· ≤ ·) k).map chunk, ssn⟩ (l.orderedInsert (· ≤ ·) k) := fun hnot =>
    ⟨h.numbered.orderedInsert hk hid hnear hnot, rfl, h.ssn⟩
  unfold InboundStream.addChunk
  rcases List.eq_nil_or_concat' l with rfl | ⟨l₀, x, rfl⟩
  · exact Or.inr ⟨List.not_mem_nil, _, rfl, hnew List.not_mem_nil⟩
  have hx : x ∈ l₀ ++ [x] := List.mem_append_right _ List.mem_cons_self
  have hle : ∀ a ∈ l₀ ++ [x], a ≤ x := by
    intro a ha
    rcases List.mem_append.mp ha with ha | ha
    · exact ((List.pairwise_append.mp h.numbered.ascending).2.2 a ha x List.mem_cons_self).le
    · exact (List.mem_singleton.mp ha).le
  have hgt := (hnear x hx).uint32Gt_iff h0 hk (h.numbered.chunks x hx)
  have hlast : ((l₀ ++ [x]).map chunk).getLast? = some (chunk x) := by simp
  simp only [hlast]
  by_cases hbehind : x < k
  · have hnot : k ∉ l₀ ++ [x] := fun hin => absurd (hle k hin) (Nat.not_le.mpr hbehind)
    refine Or.inr ⟨hnot, _, if_pos (hgt.mpr hbehind), ?_⟩
    have hend := hnew hnot
    rw [orderedInsert_eq_append fun a ha => (hle a ha).trans_lt hbehind] at hend ⊢
    rwa [List.map_append] at hend
  · rw [if_neg fun h => hbehind (hgt.mp h)]
    by_cases hmem : k ∈ l₀ ++ [x]
    · exact Or.inl ⟨hmem, by rw [insertChunk_map_eq_none h.numbered h0 hmem]; rfl⟩
    · have hlt : k < x := lt_of_le_of_ne (Nat.not_lt.mp hbehind) fun heq => hmem (heq ▸ hx)
      rw [insertChunk_map h.numbered h0 hk hnear ⟨x, hx, hlt⟩ hmem]
      exact Or.inr ⟨hmem, _, rfl, hnew hmem⟩

/-- A stream after `popMessages`. -/
lemma Holds.popMessages (h : Holds m first sent chunk streamId stream l) :
    Holds m first sent chunk streamId stream.popMessages.2
      (scanNumbers chunk [] [] none stream.streamSequenceNumber l).left := by
  have hpop := popLoop_map chunk [] [] none stream.streamSequenceNumber l
  rw [List.map_nil, ← h.reassembly] at hpop
  unfold InboundStream.popMessages
  rw [hpop]
  refine ⟨h.numbered.sublist (left_sublist chunk [] [] none _ l), rfl, ?_⟩
  obtain ⟨d, -, heq⟩ := streamSequenceNumber_scanNumbers chunk [] [] none h.ssn l
  dsimp only
  omega

/-- A stream after `pruneChunks`. -/
lemma Holds.pruneChunks (h : Holds m first sent chunk streamId stream l) (tsn : ℤ) :
    Holds m first sent chunk streamId (stream.pruneChunks tsn).2
      (l.dropWhile fun k => uint32Gte tsn (chunk k).tsn) := by
  refine ⟨h.numbered.sublist (List.dropWhile_sublist _), ?_, h.ssn⟩
  rw [InboundStream.pruneChunks, h.reassembly, List.dropWhile_map]
  rfl

end Stream

/-! ## The streams of a receiver -/

namespace Receiver

variable {s : Receiver}

end Receiver

/-! ## The system -/

/-- A receiver, the numbers of the chunks that its streams hold, and the messages that it has handed
over. -/
structure Arriving where
  receiver : Receiver
  held : ℕ → Finset ℕ := fun _ => ∅
  messages : List (List DataChunk) := []

/-- What arrives: a chunk of a message, by its number, or a FORWARD TSN. -/
inductive Arrival
  | data (k : ℕ)
  | forwardTsn (chunk : ForwardTsnChunk)

namespace Arriving

/-- After a handler has run: a number that has arrived is held if its chunk is in the list. -/
def after (s : Arriving) (chunk : ℕ → DataChunk) (arrived : ℕ → Finset ℕ) (r : Receipt) : Arriving where
  receiver := r.receiver
  held := fun id => {k ∈ arrived id | chunk k ∈ (r.receiver.getInboundStream id).reassembly}
  messages := s.messages ++ r.messages

/-- An arrival. -/
def step (chunk : ℕ → DataChunk) (s : Arriving) : Arrival → Option Arriving
  | .data k =>
    let id := (chunk k).streamId
    some (s.after chunk (Function.update s.held id (insert k (s.held id)))
      (s.receiver.receiveDataChunk (chunk k)))
  | .forwardTsn c => some (s.after chunk s.held (s.receiver.receiveForwardTsnChunk c))

/-- The receiver before the first chunk, which has the number `0`. -/
def initial (first : ℤ) : Arriving :=
  { receiver := { received := { lastReceivedTsn := tsnMinusOne first } } }

/-- **Every stream holds its numbers**, and has the property `Q` with them. -/
def Keeps (m : ℕ) (first : ℤ) (sent : List Sent) (chunk : ℕ → DataChunk) (Q : InboundStream → List ℕ → Prop)
    (s : Arriving) : Prop :=
  ∀ id, ∃ l, Holds m first sent chunk id (s.receiver.getInboundStream id) l ∧
    s.held id = l.toFinset ∧ Q (s.receiver.getInboundStream id) l

section Invariant

variable {m : ℕ} {first : ℤ} {sent : List Sent} {chunk : ℕ → DataChunk} {Q : InboundStream → List ℕ → Prop}
  {s s' : Arriving} {id : ℕ} {l : List ℕ}

lemma keeps_initial (hQ : Q {} []) : Keeps m first sent chunk Q (initial first) := fun id =>
  ⟨[], ⟨⟨by simp, by simp, List.Pairwise.nil, by simp⟩, rfl, le_rfl,
    (by decide : (0 : ℤ) < 0x10000)⟩, rfl, hQ⟩

/-- Numbers of chunks that can be outstanding at the same time. -/
structure Apart (m : ℕ) (first : ℤ) (sent : List Sent) (chunk : ℕ → DataChunk) (id : ℕ)
    (arrived : Finset ℕ) : Prop where
  chunks : ∀ k ∈ arrived, IsChunk m first sent k (chunk k)
  near : ∀ a ∈ arrived, ∀ b ∈ arrived, Near m sent id a b

lemma Apart.insert {arrived : Finset ℕ} (h : Apart m first sent chunk id arrived) {k : ℕ}
    (hk : IsChunk m first sent k (chunk k)) (hnear : ∀ a ∈ arrived, Near m sent id k a) :
    Apart m first sent chunk id (insert k arrived) where
  chunks := fun x hx => by
    rcases Finset.mem_insert.mp hx with rfl | hx
    · exact hk
    · exact h.chunks x hx
  near := fun a ha b hb => by
    rcases Finset.mem_insert.mp ha with heq | ha <;> rcases Finset.mem_insert.mp hb with heq' | hb
    · rw [heq, heq']
      exact Near.refl m sent id k
    · exact heq ▸ hnear b hb
    · exact heq' ▸ (hnear a ha).symm
    · exact h.near a ha b hb

variable {Ok : InboundStream → Prop}

end Invariant

end Arriving

end Werift.Sctp
