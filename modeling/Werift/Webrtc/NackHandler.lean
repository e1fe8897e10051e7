import Werift.Common.Number
import Werift.Js.IndexObject
import Werift.Js.Number
import Werift.Lib.Transition

/-!
# Requests for lost packets (`webrtc/src/media/receiver/nack.ts`, `rtp/src/extra/processor/nack.ts`)

The two handlers are copies of each other.  They keep the newest sequence number and the missing ones
with the number of requests for each, and compare sequence numbers as they stand in the packets.  The
comparison is right within one cycle of numbers; a gap across the end of the cycle, a late packet from
before it and a newest number of zero are taken for something else.  As long as none of these happens
the lost numbers are those that are missing (`lost_accurate`).
-/

namespace Werift.Webrtc

open Js (IndexObject)

/-- `LOST_SIZE`. -/
def LOST_SIZE : ℕ := 30 * 5

/-- `retryCount`. -/
def retryCount : ℕ := 10

/-- The two copies of the handler. -/
inductive NackCopy
  /-- `webrtc/src/media/receiver/nack.ts` -/
  | webrtc
  /-- `rtp/src/extra/processor/nack.ts` -/
  | rtp
deriving DecidableEq

/-- The step of the gap scan: `i = uint16Add(i, 1)` and `seq++`. -/
def NackCopy.next : NackCopy → ℤ → ℤ
  | .webrtc, i => uint16Add i 1
  | .rtp, seq => seq + 1

/-- The fields of a `NackHandler`. -/
structure NackHandler where
  newEstSeqNum : ℤ := 0
  lost : IndexObject ℕ := .empty
  mediaSourceSsrc : Option ℕ := none
deriving DecidableEq

/-- `for (let i = first; i < sequenceNumber; i = next(i)) this.setLost(i, 1)`, at most this often. -/
def markLost (copy : NackCopy) (sequenceNumber : ℤ) : ℕ → ℤ → IndexObject ℕ → IndexObject ℕ
  | 0, _, lost => lost
  | rounds + 1, i, lost =>
    if i < sequenceNumber then markLost copy sequenceNumber rounds (copy.next i) (lost.set i 1)
    else lost

namespace NackHandler

variable (copy : NackCopy) (h : NackHandler)

/-- `lostSeqNumbers`. -/
def lostSeqNumbers : List ℤ := Js.defaultSort h.lost.keys

/-- The gap scan: every number from the one behind the newest is lost, and the packet is the newest. -/
def gapScan (sequenceNumber : ℤ) : NackHandler :=
  let first := uint16Add h.newEstSeqNum 1
  { h with
    lost := markLost copy sequenceNumber (sequenceNumber - first).toNat first h.lost
    newEstSeqNum := sequenceNumber }

/-- `pruneLost()`. -/
def pruneLost : NackHandler :=
  if h.lostSeqNumbers.length > LOST_SIZE then
    { h with lost := h.lost.dropEntries (h.lost.entries.length - LOST_SIZE) }
  else h

/-- `addPacket(packet)`. -/
def addPacket (sequenceNumber : ℤ) (ssrc : ℕ) : NackHandler :=
  let h := { h with mediaSourceSsrc := some ssrc }
  if h.newEstSeqNum = 0 then { h with newEstSeqNum := sequenceNumber }
  else if (h.lost.get? sequenceNumber).any (· ≠ 0) then
    { h with lost := h.lost.delete sequenceNumber }
  else if sequenceNumber = uint16Add h.newEstSeqNum 1 then { h with newEstSeqNum := sequenceNumber }
  else if sequenceNumber > uint16Add h.newEstSeqNum 1 then
    (h.gapScan copy sequenceNumber).pruneLost
  else h

/-- The numbers that `sendNack` requests, if it sends anything. -/
def sendNack : Option (List ℤ) :=
  if h.lostSeqNumbers.length > 0 ∧ h.mediaSourceSsrc.any (· ≠ 0) then some h.lostSeqNumbers else none

/-- `const count = this._lost[seq]++; if (count > this.retryCount) this.removeLost(seq)`. -/
def retry (lost : IndexObject ℕ) (seq : ℤ) : IndexObject ℕ :=
  let count := (lost.get? seq).getD 0
  let lost := lost.set seq (count + 1)
  if count > retryCount then lost.delete seq else lost

/-- `updateRetryCount()`. -/
def updateRetryCount : NackHandler := { h with lost := h.lostSeqNumbers.foldl retry h.lost }

/-- A round of the interval timer. -/
def interval : NackHandler :=
  match h.sendNack with
  | none => h
  | some _ => h.updateRetryCount

end NackHandler

/-! ## What has been received -/

/-- The packet with the number `x`, counted without wraps, bears this number. -/
def seqNum (x : ℤ) : ℤ := x % 0x10000

/-- The history of a stream.  Numbers are counted without wraps. -/
structure Reception where
  first : ℤ
  newest : ℤ
  received : Set ℤ
  /-- What the limits of the handler have dropped. -/
  dropped : Set ℤ

/-- Between the first and the newest packet, not received and not dropped. -/
def Reception.Missing (r : Reception) (x : ℤ) : Prop :=
  r.first ≤ x ∧ x ≤ r.newest ∧ x ∉ r.received ∧ x ∉ r.dropped

/-- The history behind the packet `x`. -/
def Reception.receive (r : Reception) (x : ℤ) : Reception :=
  { r with newest := max r.newest x, received := insert x r.received }

/-- The history behind the loss of interest in these numbers. -/
def Reception.drop (r : Reception) (numbers : List ℤ) : Reception :=
  { r with dropped := r.dropped ∪ {x | r.Missing x ∧ seqNum x ∈ numbers} }

/-- The lost numbers over the size limit: the lowest ones. -/
def overSize (lost : IndexObject ℕ) : List ℤ := lost.keys.take (lost.keys.length - LOST_SIZE)

/-- The lost numbers over the retry limit. -/
def overRetried (lost : IndexObject ℕ) : List ℤ :=
  lost.keys.filter fun seq => retryCount < (lost.get? seq).getD 0

/-- What happens to a handler. -/
inductive NackEvent
  | packet (x : ℤ)
  | interval

variable (copy : NackCopy) (ssrc : ℕ)

/-- One event: a gap in front of a packet is where the size limit applies, and a request is where the
retry limit does. -/
def nackStep (s : NackHandler × Reception) : NackEvent → NackHandler × Reception
  | .packet x =>
    (s.1.addPacket copy (seqNum x) ssrc,
      if s.2.newest + 1 < x then
        (s.2.receive x).drop (overSize (s.1.gapScan copy (seqNum x)).lost)
      else s.2.receive x)
  | .interval =>
    (s.1.interval, if s.1.sendNack = none then s.2 else s.2.drop (overRetried s.1.lost))

/-- The state behind the first packet. -/
def nackStart (x : ℤ) : NackHandler × Reception :=
  (NackHandler.addPacket copy {} (seqNum x) ssrc, ⟨x, x, {x}, ∅⟩)

/-- The packet is less than half a cycle of numbers away from the newest one. -/
def NearNewest (s : NackHandler × Reception) : NackEvent → Prop
  | .packet x => |x - s.2.newest| < 0x8000
  | .interval => True

/-- **Where the comparisons of the handler are right.**  The source is not zero.  Nothing that is
missing is a whole cycle behind the packet.  When the newest number is zero, the packet is the newest
one or the next one.  A packet that is not among the lost ones is in the cycle of the next one. -/
def Comparable (s : NackHandler × Reception) : NackEvent → Prop
  | .packet x => ssrc ≠ 0 ∧ (∀ y, s.2.Missing y → x < y + 0x10000) ∧
    (seqNum s.2.newest = 0 → x = s.2.newest ∨ x = s.2.newest + 1) ∧
    (seqNum x ∈ s.1.lostSeqNumbers ∨ x / 0x10000 = (s.2.newest + 1) / 0x10000)
  | .interval => True

/-! ## What the handler does to its lost numbers -/

variable {copy ssrc} {h : NackHandler} {r : Reception} {lost : IndexObject ℕ} {k x y : ℤ}

/-- Every lost number has been asked for at least once. -/
def Counted (lost : IndexObject ℕ) : Prop := ∀ k c, lost.get? k = some c → c ≠ 0

lemma mem_lostSeqNumbers : k ∈ h.lostSeqNumbers ↔ k ∈ h.lost.keys := Js.mem_defaultSort

/-- **The gap scan** of either copy marks the numbers in front of the packet. -/
lemma markLost_spec (copy : NackCopy) {sequenceNumber i : ℤ} {rounds : ℕ} (hi : 0 ≤ i)
    (hseq : sequenceNumber < 0x10000) (hrounds : rounds = (sequenceNumber - i).toNat)
    (hlost : Counted lost) :
    (∀ k, k ∈ (markLost copy sequenceNumber rounds i lost).keys ↔
      k ∈ lost.keys ∨ i ≤ k ∧ k < sequenceNumber) ∧
      Counted (markLost copy sequenceNumber rounds i lost) := by
  induction rounds generalizing i lost with
  | zero =>
    refine ⟨fun k => ?_, hlost⟩
    rw [markLost]
    exact ⟨.inl, fun h => h.resolve_right (by omega)⟩
  | succ rounds ih =>
    have hlt : i < sequenceNumber := by omega
    have hnext : copy.next i = i + 1 := by
      cases copy with
      | webrtc => exact Int.emod_eq_of_lt (by omega) (by omega)
      | rtp => rfl
    have hset : Counted (lost.set i 1) := by
      intro k c hget
      rw [IndexObject.get?_set] at hget
      split_ifs at hget
      · obtain rfl := Option.some.inj hget
        exact Nat.one_ne_zero
      · exact hlost k c hget
    rw [markLost, if_pos hlt, hnext]
    obtain ⟨hkeys, hcounted⟩ := ih (i := i + 1) (by omega) (by omega) hset
    refine ⟨fun k => ?_, hcounted⟩
    rw [hkeys, IndexObject.mem_keys_set]
    by_cases hk : k ∈ lost.keys
    · simp only [hk, or_true, true_or]
    · simp only [hk, or_false, false_or]
      omega

lemma counted_dropEntries {n : ℕ} (hlost : Counted lost) : Counted (lost.dropEntries n) := by
  intro k c hget
  rw [IndexObject.get?_eq_some] at hget
  exact hlost k c (IndexObject.get?_eq_some.mpr (List.mem_of_mem_drop hget))

/-- **The size limit** drops the lowest numbers. -/
lemma pruneLost_spec (hlost : Counted h.lost) :
    (∀ k, k ∈ h.pruneLost.lost.keys ↔ k ∈ h.lost.keys ∧ k ∉ overSize h.lost) ∧
      Counted h.pruneLost.lost ∧ h.pruneLost.newEstSeqNum = h.newEstSeqNum ∧
      h.pruneLost.mediaSourceSsrc = h.mediaSourceSsrc := by
  have hlength : h.lostSeqNumbers.length = h.lost.keys.length :=
    (Js.defaultSort_perm _).length_eq
  have hentries : h.lost.entries.length = h.lost.keys.length := (List.length_map _).symm
  rw [NackHandler.pruneLost]
  split_ifs with hsize
  · refine ⟨fun k => ?_, counted_dropEntries hlost, rfl, rfl⟩
    rw [hentries, IndexObject.mem_keys_dropEntries, overSize]
  · have hnone : overSize h.lost = [] := by
      rw [overSize, Nat.sub_eq_zero_of_le (by omega), List.take_zero]
    refine ⟨fun k => ?_, hlost, rfl, rfl⟩
    rw [hnone]
    exact ⟨fun hk => ⟨hk, List.not_mem_nil⟩, fun hk => hk.1⟩

lemma get?_retry (lost : IndexObject ℕ) (seq k : ℤ) : (NackHandler.retry lost seq).get? k =
    if k = seq then
      (if (lost.get? seq).getD 0 > retryCount then none else some ((lost.get? seq).getD 0 + 1))
    else lost.get? k := by
  simp only [NackHandler.retry]
  split_ifs with hcount hk hk
  · rw [IndexObject.get?_delete, if_pos hk]
  · rw [IndexObject.get?_delete, if_neg hk, IndexObject.get?_set, if_neg hk]
  · rw [IndexObject.get?_set, if_pos hk]
  · rw [IndexObject.get?_set, if_neg hk]

lemma get?_foldl_retry {numbers : List ℤ} (hnodup : numbers.Nodup) :
    (numbers.foldl NackHandler.retry lost).get? k =
      if k ∈ numbers then (NackHandler.retry lost k).get? k else lost.get? k := by
  induction numbers generalizing lost with
  | nil => rfl
  | cons seq numbers ih =>
    obtain ⟨hnotin, hrest⟩ := List.nodup_cons.mp hnodup
    rw [List.foldl_cons, ih hrest]
    by_cases hk : k = seq
    · subst hk
      rw [if_neg hnotin, if_pos List.mem_cons_self]
    · have hother : (NackHandler.retry lost seq).get? k = lost.get? k := by
        rw [get?_retry, if_neg hk]
      have hmem : k ∈ seq :: numbers ↔ k ∈ numbers := by
        rw [List.mem_cons, or_iff_right hk]
      simp only [hmem, get?_retry (NackHandler.retry lost seq), get?_retry lost k, hother, if_true]

/-- **The retry limit** drops the numbers that have been asked for too often. -/
lemma updateRetryCount_spec :
    (∀ k, k ∈ h.updateRetryCount.lost.keys ↔ k ∈ h.lost.keys ∧ k ∉ overRetried h.lost) ∧
      Counted h.updateRetryCount.lost := by
  have hnodup : h.lostSeqNumbers.Nodup := (Js.defaultSort_perm _).nodup_iff.mpr h.lost.nodup_keys
  have hget : ∀ k, h.updateRetryCount.lost.get? k =
      if k ∈ h.lost.keys then (NackHandler.retry h.lost k).get? k else h.lost.get? k := by
    intro k
    rw [NackHandler.updateRetryCount, get?_foldl_retry hnodup]
    simp only [mem_lostSeqNumbers]
  constructor
  · intro k
    rw [IndexObject.mem_keys, hget, overRetried, List.mem_filter, decide_eq_true_eq]
    by_cases hk : k ∈ h.lost.keys
    · rw [if_pos hk, get?_retry, if_pos rfl]
      split_ifs with hcount
      · simp [hk, hcount]
      · simp [hk, hcount]
    · rw [if_neg hk, IndexObject.get?_eq_none.mpr hk]
      simp [hk]
  · intro k c hc
    rw [hget] at hc
    by_cases hk : k ∈ h.lost.keys
    · rw [if_pos hk, get?_retry, if_pos rfl] at hc
      split_ifs at hc
      obtain rfl := Option.some.inj hc
      exact Nat.succ_ne_zero _
    · rw [if_neg hk, IndexObject.get?_eq_none.mpr hk] at hc
      cases hc

/-- A number is in the record of the lost ones if its count says so. -/
lemma any_get? (hlost : Counted lost) : (lost.get? k).any (· ≠ 0) = true ↔ k ∈ lost.keys := by
  rw [IndexObject.mem_keys]
  cases hget : lost.get? k with
  | none => simp
  | some c => simpa using hlost k c hget

/-! ## Runs -/

/-- **The handler agrees with what has happened.** -/
structure Faithful (h : NackHandler) (r : Reception) : Prop where
  newest : h.newEstSeqNum = seqNum r.newest
  span : r.first ≤ r.newest
  arrived : r.newest ∈ r.received
  received : ∀ x ∈ r.received, x ≤ r.newest
  dropped : ∀ x ∈ r.dropped, x ≤ r.newest
  keys : ∀ k, k ∈ h.lost.keys ↔ ∃ x, r.Missing x ∧ seqNum x = k
  counted : Counted h.lost
  recent : ∀ x, r.Missing x → r.newest < x + 0x10000
  source : h.mediaSourceSsrc.any (· ≠ 0) = true

namespace Faithful

variable (hf : Faithful h r)
include hf

/-- A number less than half a cycle away is missing if its remainder is. -/
lemma missing_of_seqNum (hnear : |x - r.newest| < 0x8000)
    (hstale : ∀ y, r.Missing y → x < y + 0x10000) (hk : seqNum x ∈ h.lost.keys) : r.Missing x := by
  obtain ⟨y, hy, heq⟩ := (hf.keys _).mp hk
  have hrecent := hf.recent y hy
  have hnotStale := hstale y hy
  have hle := hy.2.1
  rw [abs_lt] at hnear
  have : y = x := by
    simp only [seqNum] at heq
    omega
  rwa [← this]

/-- A packet that is no news changes nothing. -/
lemma seen (hx : ¬ r.Missing x) (hle : x ≤ r.newest) : Faithful h (r.receive x) := by
  have hmax : max r.newest x = r.newest := max_eq_left hle
  have hmissing : ∀ y, (r.receive x).Missing y ↔ r.Missing y := by
    intro y
    simp only [Reception.Missing, Reception.receive, hmax, Set.mem_insert_iff, not_or] at hx ⊢
    constructor
    · rintro ⟨hfirst, hnewest, ⟨-, hreceived⟩, hdropped⟩
      exact ⟨hfirst, hnewest, hreceived, hdropped⟩
    · rintro ⟨hfirst, hnewest, hreceived, hdropped⟩
      refine ⟨hfirst, hnewest, ⟨?_, hreceived⟩, hdropped⟩
      rintro rfl
      exact hx ⟨hfirst, hnewest, hreceived, hdropped⟩
  have hnewest : (r.receive x).newest = r.newest := hmax
  refine ⟨?_, ?_, ?_, ?_, ?_, ?_, hf.counted, ?_, hf.source⟩
  · exact hf.newest.trans (congrArg seqNum hnewest.symm)
  · exact hf.span.trans (le_max_left _ _)
  · rw [hnewest]
    exact Set.mem_insert_of_mem _ hf.arrived
  · rintro y (rfl | hy)
    · exact le_max_right _ _
    · exact (hf.received y hy).trans (le_max_left _ _)
  · exact fun y hy => (hf.dropped y hy).trans (le_max_left _ _)
  · intro k
    simp only [hmissing, hf.keys]
  · intro y hy
    rw [hnewest]
    exact hf.recent y ((hmissing y).mp hy)

/-- A missing packet arrives. -/
lemma resolved (hx : r.Missing x) :
    Faithful { h with lost := h.lost.delete (seqNum x) } (r.receive x) := by
  have hmax : max r.newest x = r.newest := max_eq_left hx.2.1
  have hmissing : ∀ y, (r.receive x).Missing y ↔ y ≠ x ∧ r.Missing y := by
    intro y
    simp only [Reception.Missing, Reception.receive, hmax, Set.mem_insert_iff, not_or]
    tauto
  have hnewest : (r.receive x).newest = r.newest := hmax
  refine ⟨?_, ?_, ?_, ?_, ?_, ?_, ?_, ?_, hf.source⟩
  · exact hf.newest.trans (congrArg seqNum hnewest.symm)
  · exact hf.span.trans (le_max_left _ _)
  · rw [hnewest]
    exact Set.mem_insert_of_mem _ hf.arrived
  · rintro y (rfl | hy)
    · exact le_max_right _ _
    · exact (hf.received y hy).trans (le_max_left _ _)
  · exact fun y hy => (hf.dropped y hy).trans (le_max_left _ _)
  · intro k
    rw [IndexObject.mem_keys_delete, hf.keys]
    simp only [hmissing]
    constructor
    · rintro ⟨hne, y, hy, rfl⟩
      refine ⟨y, ⟨?_, hy⟩, rfl⟩
      rintro rfl
      exact hne rfl
    · rintro ⟨y, ⟨hne, hy⟩, rfl⟩
      refine ⟨fun heq => hne ?_, y, hy, rfl⟩
      have hyrecent := hf.recent y hy
      have hxrecent := hf.recent x hx
      have hyle := hy.2.1
      have hxle := hx.2.1
      simp only [seqNum] at heq
      omega
  · intro k c hget
    rw [IndexObject.get?_delete] at hget
    split_ifs at hget
    exact hf.counted k c hget
  · intro y hy
    rw [hnewest]
    exact hf.recent y ((hmissing y).mp hy).2

/-- **A packet ahead of the newest one**, when everything in front of it has been marked. -/
lemma ahead {lost : IndexObject ℕ} (hx : r.newest < x) (hnear : x < r.newest + 0x8000)
    (hstale : ∀ y, r.Missing y → x < y + 0x10000)
    (hkeys : ∀ k, k ∈ lost.keys ↔
      k ∈ h.lost.keys ∨ ∃ y, r.newest < y ∧ y < x ∧ seqNum y = k) (hcounted : Counted lost) :
    Faithful { h with lost, newEstSeqNum := seqNum x } (r.receive x) := by
  have hmax : max r.newest x = x := max_eq_right hx.le
  have hmissing : ∀ y, (r.receive x).Missing y ↔ r.Missing y ∨ r.newest < y ∧ y < x := by
    intro y
    have hspan := hf.span
    have hreceived := hf.received y
    have hdropped := hf.dropped y
    simp only [Reception.Missing, Reception.receive, hmax, Set.mem_insert_iff, not_or]
    constructor
    · rintro ⟨hfirst, hle, ⟨hne, hnot⟩, hkept⟩
      by_cases hnewest : r.newest < y
      · exact .inr ⟨hnewest, lt_of_le_of_ne hle hne⟩
      · exact .inl ⟨hfirst, not_lt.mp hnewest, hnot, hkept⟩
    · rintro (⟨hfirst, hle, hnot, hkept⟩ | ⟨hnewest, hlt⟩)
      · exact ⟨hfirst, by omega, ⟨by omega, hnot⟩, hkept⟩
      · refine ⟨by omega, hlt.le, ⟨hlt.ne, fun h => ?_⟩, fun h => ?_⟩
        · exact absurd (hreceived h) (not_le.mpr hnewest)
        · exact absurd (hdropped h) (not_le.mpr hnewest)
  have hnewest : (r.receive x).newest = x := hmax
  refine ⟨congrArg seqNum hnewest.symm, ?_, ?_, ?_, ?_, ?_, hcounted, ?_, hf.source⟩
  · exact hf.span.trans (le_max_left _ _)
  · rw [hnewest]
    exact Set.mem_insert _ _
  · rintro y (rfl | hy)
    · exact le_max_right _ _
    · exact (hf.received y hy).trans (le_max_left _ _)
  · exact fun y hy => (hf.dropped y hy).trans (le_max_left _ _)
  · intro k
    rw [hkeys, hf.keys]
    simp only [hmissing]
    constructor
    · rintro (⟨y, hy, rfl⟩ | ⟨y, hlow, hhigh, rfl⟩)
      · exact ⟨y, .inl hy, rfl⟩
      · exact ⟨y, .inr ⟨hlow, hhigh⟩, rfl⟩
    · rintro ⟨y, hy | ⟨hlow, hhigh⟩, rfl⟩
      · exact .inl ⟨y, hy, rfl⟩
      · exact .inr ⟨y, hlow, hhigh, rfl⟩
  · intro y hy
    rw [hnewest]
    obtain hold | ⟨hlow, -⟩ := (hmissing y).mp hy
    · exact hstale y hold
    · omega

/-- Numbers that a limit drops are no longer missing. -/
lemma limited {h' : NackHandler} {numbers : List ℤ}
    (hkeys : ∀ k, k ∈ h'.lost.keys ↔ k ∈ h.lost.keys ∧ k ∉ numbers) (hcounted : Counted h'.lost)
    (hnewest : h'.newEstSeqNum = h.newEstSeqNum)
    (hsource : h'.mediaSourceSsrc = h.mediaSourceSsrc) : Faithful h' (r.drop numbers) := by
  have hmissing : ∀ y, (r.drop numbers).Missing y ↔ r.Missing y ∧ seqNum y ∉ numbers := by
    intro y
    simp only [Reception.drop, Set.mem_union, Set.mem_ofPred_eq, Reception.Missing]
    tauto
  refine ⟨hnewest.trans hf.newest, hf.span, hf.arrived, hf.received, ?_, ?_, hcounted, ?_, ?_⟩
  · rintro y (hy | ⟨hy, -⟩)
    · exact hf.dropped y hy
    · exact hy.2.1
  · intro k
    rw [hkeys, hf.keys]
    simp only [hmissing]
    constructor
    · rintro ⟨⟨y, hy, rfl⟩, hnot⟩
      exact ⟨y, ⟨hy, hnot⟩, rfl⟩
    · rintro ⟨y, ⟨hy, hnot⟩, rfl⟩
      exact ⟨⟨y, hy, rfl⟩, hnot⟩
  · exact fun y hy => hf.recent y ((hmissing y).mp hy).1
  · rw [hsource]
    exact hf.source

/-- **One event.** -/
theorem step {e : NackEvent} (hnear : NearNewest (h, r) e) (hok : Comparable ssrc (h, r) e) :
    Faithful (nackStep copy ssrc (h, r) e).1 (nackStep copy ssrc (h, r) e).2 := by
  cases e with
  | interval =>
    simp only [nackStep, NackHandler.interval]
    cases hsend : h.sendNack with
    | none => simpa using hf
    | some numbers =>
      obtain ⟨hkeys, hcounted⟩ := updateRetryCount_spec (h := h)
      simpa using hf.limited hkeys hcounted rfl rfl
  | packet x =>
    obtain ⟨hssrc, hstale, hzero, hcycle⟩ : ssrc ≠ 0 ∧ (∀ y, r.Missing y → x < y + 0x10000) ∧
      (seqNum r.newest = 0 → x = r.newest ∨ x = r.newest + 1) ∧
      (seqNum x ∈ h.lostSeqNumbers ∨ x / 0x10000 = (r.newest + 1) / 0x10000) := hok
    have hnear : |x - r.newest| < 0x8000 := hnear
    have hsource : Faithful { h with mediaSourceSsrc := some ssrc } r := by
      refine ⟨hf.newest, hf.span, hf.arrived, hf.received, hf.dropped, hf.keys, hf.counted,
        hf.recent, ?_⟩
      simpa using hssrc
    set h₁ : NackHandler := { h with mediaSourceSsrc := some ssrc } with hh₁
    have hnewest : h.newEstSeqNum = seqNum r.newest := hf.newest
    have hdist := hnear
    rw [abs_lt] at hdist
    rw [mem_lostSeqNumbers] at hcycle
    simp only [nackStep, NackHandler.addPacket, ← hh₁, any_get? hf.counted]
    have hnext : uint16Add h.newEstSeqNum 1 = seqNum (r.newest + 1) := by
      rw [hnewest, uint16Add, seqNum, seqNum, Int.emod_add_emod]
    by_cases hfresh : h.newEstSeqNum = 0
    · -- the handler takes the packet for its first one
      rw [if_pos hfresh]
      obtain rfl | rfl := hzero (hnewest.symm.trans hfresh)
      · rw [if_neg (by omega)]
        have hsame : { h₁ with newEstSeqNum := seqNum r.newest } = h₁ := by
          rw [← hnewest]
        rw [hsame]
        exact hsource.seen (fun hm => hm.2.2.1 hf.arrived) le_rfl
      · rw [if_neg (lt_irrefl _)]
        refine hsource.ahead (by omega) (by omega) hstale (fun k => ?_) hf.counted
        exact ⟨.inl, fun hk => hk.resolve_right fun ⟨y, hlow, hhigh, _⟩ => by omega⟩
    · rw [if_neg hfresh]
      by_cases hlost : seqNum x ∈ h.lost.keys
      · have hx : r.Missing x := hf.missing_of_seqNum hnear hstale hlost
        have hle := hx.2.1
        rw [if_pos hlost, if_neg (by omega)]
        exact hsource.resolved hx
      · have hx : ¬ r.Missing x := fun hx => hlost ((hf.keys _).mpr ⟨x, hx, rfl⟩)
        have hcycle' := hcycle.resolve_left hlost
        rw [if_neg hlost, hnext]
        obtain hle | rfl | hgap := lt_trichotomy x (r.newest + 1)
        · have hlt : seqNum x < seqNum (r.newest + 1) := by
            simp only [seqNum]
            omega
          rw [if_neg hlt.ne, if_neg (not_lt.mpr hlt.le), if_neg (by omega)]
          exact hsource.seen hx (by omega)
        · rw [if_pos rfl, if_neg (lt_irrefl _)]
          refine hsource.ahead (by omega) (by omega) hstale (fun k => ?_) hf.counted
          exact ⟨.inl, fun hk => hk.resolve_right fun ⟨y, hlow, hhigh, _⟩ => by omega⟩
        · have hlt : seqNum (r.newest + 1) < seqNum x := by
            simp only [seqNum]
            omega
          have hlow : 0 ≤ seqNum (r.newest + 1) := Int.emod_nonneg _ (by decide)
          have hhigh : seqNum x < 0x10000 := Int.emod_lt_of_pos _ (by decide)
          obtain ⟨hkeys, hcounted⟩ := markLost_spec copy hlow hhigh rfl hf.counted
          have hscan : Faithful (h₁.gapScan copy (seqNum x)) (r.receive x) := by
            rw [NackHandler.gapScan]
            refine hsource.ahead (by omega) (by omega) hstale (fun k => ?_) ?_
            · rw [hh₁, hnext, hkeys]
              refine or_congr_right ⟨fun hk => ⟨x - (seqNum x - k), ?_⟩, ?_⟩
              · simp only [seqNum] at *
                omega
              · rintro ⟨y, hy, hy', rfl⟩
                simp only [seqNum] at *
                omega
            · rw [hh₁, hnext]
              exact hcounted
          obtain ⟨hkept, hcounted', hnewest', hsource'⟩ := pruneLost_spec hscan.counted
          rw [if_neg hlt.ne', if_pos hlt, if_pos hgap]
          exact hscan.limited hkept hcounted' hnewest' hsource'

end Faithful

/-- The first packet. -/
lemma faithful_start (copy : NackCopy) (hssrc : ssrc ≠ 0) (x : ℤ) :
    Faithful (nackStart copy ssrc x).1 (nackStart copy ssrc x).2 := by
  have hnone : ∀ y, ¬ (nackStart copy ssrc x).2.Missing y := by
    rintro y ⟨hlow, hhigh, hreceived, -⟩
    exact hreceived (le_antisymm hhigh hlow)
  refine ⟨rfl, le_rfl, rfl, fun y hy => le_of_eq hy, fun y hy => absurd hy (Set.notMem_empty y),
    fun k => ?_, ?_, fun y hy => absurd hy (hnone y), ?_⟩
  · exact iff_of_false List.not_mem_nil fun ⟨y, hy, _⟩ => hnone y hy
  · intro k c hget
    cases hget
  · simpa [nackStart, NackHandler.addPacket] using hssrc

/-- **Lost packets are requested until they arrive**, in every run whose packets the handler can
compare: its lost numbers are those that are missing, a number that has been received is in none of its
requests for the next cycle of numbers, and whatever is missing is in the next request. -/
theorem lost_accurate {copy : NackCopy} {ssrc : ℕ} {x₀ : ℤ} {s : NackHandler × Reception}
    (hssrc : ssrc ≠ 0)
    (run : Transition.Run (fun s e => some (nackStep copy ssrc s e))
      (fun s e => NearNewest s e ∧ Comparable ssrc s e) (nackStart copy ssrc x₀) s) :
    (∀ k, k ∈ s.1.lostSeqNumbers ↔ ∃ x, s.2.Missing x ∧ seqNum x = k) ∧
      (∀ nack, s.1.sendNack = some nack → nack = s.1.lostSeqNumbers) ∧
      (∀ x ∈ s.2.received, s.2.newest < x + 0x10000 → seqNum x ∉ s.1.lostSeqNumbers) ∧
      ∀ x, s.2.Missing x → ∃ nack, s.1.sendNack = some nack ∧ seqNum x ∈ nack := by
  have hf : Faithful s.1 s.2 := by
    refine run.invariant (fun s => Faithful s.1 s.2) (faithful_start copy hssrc x₀) ?_
    rintro s e s' hf ⟨hnear, hok⟩ hstep
    obtain rfl := Option.some.inj hstep
    exact hf.step hnear hok
  have hkeys : ∀ k, k ∈ s.1.lostSeqNumbers ↔ ∃ x, s.2.Missing x ∧ seqNum x = k := by
    intro k
    rw [mem_lostSeqNumbers]
    exact hf.keys k
  refine ⟨hkeys, fun nack hsend => ?_, fun x hx hwindow hmem => ?_, fun x hx => ?_⟩
  · rw [NackHandler.sendNack] at hsend
    split_ifs at hsend
    exact (Option.some.inj hsend).symm
  · obtain ⟨y, hy, heq⟩ := (hkeys _).mp hmem
    have hrecent := hf.recent y hy
    have hyle := hy.2.1
    have hxle := hf.received x hx
    obtain rfl : y = x := by
      simp only [seqNum] at heq
      omega
    exact hy.2.2.1 hx
  · have hmem : seqNum x ∈ s.1.lostSeqNumbers := (hkeys _).mpr ⟨x, hx, rfl⟩
    refine ⟨s.1.lostSeqNumbers, ?_, hmem⟩
    rw [NackHandler.sendNack, if_pos ⟨List.length_pos_of_mem hmem, hf.source⟩]

/-- What lies between the first two packets is missing. -/
lemma missing_between (copy : NackCopy) (ssrc : ℕ) {x₀ : ℤ} (hlow : x₀ < y) (hhigh : y < x)
    (hkept : overSize ((nackStart copy ssrc x₀).1.gapScan copy (seqNum x)).lost = []) :
    (nackStep copy ssrc (nackStart copy ssrc x₀) (.packet x)).2.Missing y := by
  have hgap : (nackStart copy ssrc x₀).2.newest + 1 < x := by
    simp only [nackStart]
    omega
  simp only [nackStep, if_pos hgap, hkept]
  refine ⟨hlow.le, hhigh.le.trans (le_max_right _ _), ?_, ?_⟩
  · rintro (rfl | h)
    · exact absurd hhigh (lt_irrefl _)
    · exact hlow.ne' h
  · rintro (h | ⟨-, h⟩)
    · exact h
    · exact List.not_mem_nil h

/-- Packet 11 is missing and will be requested. -/
theorem lost_accurate_gap : ∃ nack,
    (nackStep .webrtc 1 (nackStart .webrtc 1 10) (.packet 12)).1.sendNack = some nack ∧
      seqNum 11 ∈ nack := by
  have hnone : ∀ y, ¬ (nackStart .webrtc 1 10).2.Missing y := by
    rintro y ⟨hlow, hhigh, hreceived, -⟩
    exact hreceived (le_antisymm hhigh hlow)
  have hnear : NearNewest (nackStart .webrtc 1 10) (.packet 12) :=
    (by decide : |(12 : ℤ) - 10| < 0x8000)
  have hgood : Comparable 1 (nackStart .webrtc 1 10) (.packet 12) :=
    ⟨one_ne_zero, fun y hy => absurd hy (hnone y), fun h => absurd h (by decide),
      .inr (by decide : (12 : ℤ) / 0x10000 = (10 + 1) / 0x10000)⟩
  exact (lost_accurate one_ne_zero (.next .start ⟨hnear, hgood⟩ rfl)).2.2.2 11
    (missing_between .webrtc 1 (by decide) (by decide) (by decide))

/-- Behind the number zero, and across the end of the numbers, a missing packet is not noticed. -/
theorem gap_unnoticed :
    let unnoticed (copy : NackCopy) (first second missing : ℤ) : Prop :=
      (nackStep copy 1 (nackStart copy 1 first) (.packet second)).2.Missing missing ∧
        (nackStep copy 1 (nackStart copy 1 first) (.packet second)).1.sendNack = none
    (unnoticed .webrtc 0 2 1 ∧ unnoticed .webrtc 65534 65537 65535) ∧
      unnoticed .rtp 0 2 1 ∧ unnoticed .rtp 65534 65537 65535 := by
  refine ⟨⟨⟨missing_between .webrtc 1 (by decide) (by decide) ?_, ?_⟩,
    missing_between .webrtc 1 (by decide) (by decide) ?_, ?_⟩,
    ⟨missing_between .rtp 1 (by decide) (by decide) ?_, ?_⟩,
    missing_between .rtp 1 (by decide) (by decide) ?_, ?_⟩
  all_goals decide

end Werift.Webrtc
