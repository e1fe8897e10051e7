import Werift.Js.Map

/-!
# Matching transport-wide feedback with sent packets

The packets of a transport carry the low 16 bits of an extended sequence number.  A feedback reports
these 16 bits, and the `TwccFeedbackAdapter` has to find the packet that is meant: it unwraps the
number next to an anchor and looks it up in the history of sent packets.

Pruning bounds the history.  It deletes only entries that are out of range (`Pruned.pruneHistory`),
whatever the order of the entries is.
-/

namespace Werift.Webrtc

open Js

/-! ## Transport-wide sequence numbers and reference times -/

def TWCC_SEQ_MOD : ℤ := 0x10000
def TWCC_REFERENCE_TIME_MOD : ℤ := 0x1000000
def TWCC_REFERENCE_TIME_UNIT_MS : ℤ := 64
def kTwccFeedbackHistoryMaxSeqSpan : ℤ := 0x8000

/-- `PacketStatus`. -/
inductive PacketStatus
  | TypeTCCPacketNotReceived
  | TypeTCCPacketReceivedSmallDelta
  | TypeTCCPacketReceivedLargeDelta
  | TypeTCCPacketReceivedWithoutDelta
deriving DecidableEq

/-- `PacketResult`, as far as the adapter reads it.  Its `receivedAtMs` is finite. -/
structure PacketResult where
  sequenceNumber : ℤ := 0
  received : Bool := false
  receivedAtMs : ℚ := 0
  status : PacketStatus := .TypeTCCPacketNotReceived
deriving DecidableEq

/-- `hasTwccReceiveTiming(result)`. -/
def hasTwccReceiveTiming (result : PacketResult) : Bool :=
  result.received && result.status != .TypeTCCPacketReceivedWithoutDelta

/-- `TransportWideCC`, as far as the adapter reads it. -/
structure TransportWideCC where
  referenceTime : ℤ
  packetResults : List PacketResult

/-- The fields of `TwccReferenceTimeUnwrapper`. -/
structure TwccReferenceTimeUnwrapper where
  lastRefUnits : Option ℤ := none
  cycles : ℤ := 0

namespace TwccReferenceTimeUnwrapper

/-- The number of wraps after a reference time. -/
def nextCycles (u : TwccReferenceTimeUnwrapper) (ref : ℤ) : ℤ :=
  match u.lastRefUnits with
  | none => u.cycles
  | some last =>
    if ref - last < -(TWCC_REFERENCE_TIME_MOD / 2) then u.cycles + 1
    else if ref - last > TWCC_REFERENCE_TIME_MOD / 2 then u.cycles - 1
    else u.cycles

/-- `unwrapBaseMs(referenceTimeUnits)`. -/
def unwrapBaseMs (u : TwccReferenceTimeUnwrapper) (referenceTimeUnits : ℤ) :
    ℤ × TwccReferenceTimeUnwrapper :=
  let ref := referenceTimeUnits % TWCC_REFERENCE_TIME_MOD
  match u.lastRefUnits with
  | none => (ref * TWCC_REFERENCE_TIME_UNIT_MS, { u with lastRefUnits := some ref })
  | some _ =>
    let cycles := u.nextCycles ref
    ((cycles * TWCC_REFERENCE_TIME_MOD + ref) * TWCC_REFERENCE_TIME_UNIT_MS,
      { lastRefUnits := some ref, cycles })

/-- A result whose time is moved to the continuous timeline. -/
def shiftResult (shift : ℤ) (result : PacketResult) : PacketResult :=
  if shift = 0 then result
  else if !result.received then result
  else { result with receivedAtMs := result.receivedAtMs + shift }

/-- `rebasePacketResults(results, referenceTimeUnits)`. -/
def rebasePacketResults (u : TwccReferenceTimeUnwrapper) (results : List PacketResult)
    (referenceTimeUnits : ℤ) : List PacketResult × TwccReferenceTimeUnwrapper :=
  let wrappedBase :=
    referenceTimeUnits % TWCC_REFERENCE_TIME_MOD * TWCC_REFERENCE_TIME_UNIT_MS
  let continuousBase := u.unwrapBaseMs referenceTimeUnits
  (results.map (shiftResult (continuousBase.1 - wrappedBase)), continuousBase.2)

@[simp] lemma shiftResult_sequenceNumber (shift : ℤ) (result : PacketResult) :
    (shiftResult shift result).sequenceNumber = result.sequenceNumber := by
  unfold shiftResult
  split_ifs <;> rfl

@[simp] lemma shiftResult_received (shift : ℤ) (result : PacketResult) :
    (shiftResult shift result).received = result.received := by
  unfold shiftResult
  split_ifs <;> rfl

end TwccReferenceTimeUnwrapper

/-! ## The adapter -/

/-- `SentInfo`, as far as the adapter reads it. -/
structure SentInfo where
  wideSeq : ℤ
  sendingAtMs : ℚ
  sentAtMs : ℚ
deriving DecidableEq

/-- `TwccPacketFeedback`. -/
structure TwccPacketFeedback where
  extSeq : ℤ
  sent : SentInfo
  received : Bool
  recvMs : Option ℚ := none
deriving DecidableEq

/-- The fields of `TwccFeedbackAdapter`.  `latestSent` is the origin of `sentUnwrapper`, and
`clockMs` is `none` before the first time (`Number.NEGATIVE_INFINITY`). -/
structure TwccFeedbackAdapter where
  maxAgeMs : ℚ
  history : Map ℤ SentInfo := {}
  outOfOrderKeys : List ℤ := []
  latestSent : Option ℤ := none
  refTimeUnwrapper : TwccReferenceTimeUnwrapper := {}
  lastFeedbackSeq : Option ℤ := none
  clockMs : Option ℚ := none

namespace TwccFeedbackAdapter

/-- `advanceClock(nowMs)`. -/
def advanceClock (a : TwccFeedbackAdapter) (nowMs : ℚ) : TwccFeedbackAdapter :=
  { a with clockMs := some (a.clockMs.elim nowMs fun clock => max clock nowMs) }

/-- `isOutOfRange(extSeq, info)`. -/
def isOutOfRange (a : TwccFeedbackAdapter) (extSeq : ℤ) (info : SentInfo) : Bool :=
  (match a.clockMs with
    | none => false
    | some clock => decide (clock - info.sendingAtMs > a.maxAgeMs)) ||
  (match a.latestSent with
    | none => false
    | some latest => decide (latest - extSeq ≥ kTwccFeedbackHistoryMaxSeqSpan))

/-- `forget(extSeq)`. -/
def forget (a : TwccFeedbackAdapter) (extSeq : ℤ) : TwccFeedbackAdapter :=
  { a with
    history := a.history.delete extSeq
    outOfOrderKeys := a.outOfOrderKeys.filter fun key => key ≠ extSeq }

/-- The first loop of `pruneHistory`. -/
def pruneFront (a : TwccFeedbackAdapter) : List (ℤ × SentInfo) → TwccFeedbackAdapter
  | [] => a
  | entry :: rest =>
    if entry.1 ∈ a.outOfOrderKeys then pruneFront a rest
    else if !a.isOutOfRange entry.1 entry.2 then a
    else pruneFront { a with history := a.history.delete entry.1 } rest

/-- The body of the second loop of `pruneHistory`. -/
def pruneKey (a : TwccFeedbackAdapter) (extSeq : ℤ) : TwccFeedbackAdapter :=
  match a.history.get? extSeq with
  | none => a.forget extSeq
  | some info => if a.isOutOfRange extSeq info then a.forget extSeq else a

/-- `pruneHistory()`. -/
def pruneHistory (a : TwccFeedbackAdapter) : TwccFeedbackAdapter :=
  let a := a.pruneFront a.history.entries
  a.outOfOrderKeys.foldl pruneKey a

/-- `prune(nowMs)`. -/
def prune (a : TwccFeedbackAdapter) (nowMs : ℚ) : TwccFeedbackAdapter :=
  (a.advanceClock nowMs).pruneHistory

/-- `sentUnwrapper.advanceSent(seq)`. -/
def advanceSent (a : TwccFeedbackAdapter) (seq : ℤ) : TwccFeedbackAdapter :=
  { a with latestSent := some (a.latestSent.elim seq fun latest => max latest seq) }

/-- The entry of a packet, unless the packet is out of range. -/
def remember (a : TwccFeedbackAdapter) (extSeq : ℤ) (info : SentInfo) (outOfOrder : Bool) :
    TwccFeedbackAdapter :=
  if a.isOutOfRange extSeq info then a
  else
    { a with
      history := a.history.set extSeq info
      outOfOrderKeys :=
        if outOfOrder && !a.outOfOrderKeys.contains extSeq then a.outOfOrderKeys ++ [extSeq]
        else a.outOfOrderKeys }

/-- `onSent(info)`. -/
def onSent (a : TwccFeedbackAdapter) (info : SentInfo) : TwccFeedbackAdapter :=
  let outOfOrder := a.latestSent.any fun previousLatest => info.wideSeq ≤ previousLatest
  let ready := ((a.advanceSent info.wideSeq).advanceClock info.sentAtMs).forget info.wideSeq
  (ready.remember info.wideSeq info outOfOrder).pruneHistory

/-- The anchor of `unwrapFeedbackSeq`. -/
def feedbackAnchor (a : TwccFeedbackAdapter) : Option ℤ :=
  match a.latestSent with
  | none => a.lastFeedbackSeq
  | some latest =>
    some (max (a.lastFeedbackSeq.getD latest) (latest - kTwccFeedbackHistoryMaxSeqSpan))

/-- The extended number next to the anchor. -/
def nearest (anchor seq : ℤ) : ℤ :=
  let delta := seq % TWCC_SEQ_MOD - anchor % TWCC_SEQ_MOD
  if delta > 0x8000 then anchor + (delta - TWCC_SEQ_MOD)
  else if delta ≤ -0x8000 then anchor + (delta + TWCC_SEQ_MOD)
  else anchor + delta

/-- `lastFeedbackSeq` does not move backward. -/
def advanceFeedback (a : TwccFeedbackAdapter) (extSeq : ℤ) : TwccFeedbackAdapter :=
  { a with lastFeedbackSeq := some (a.lastFeedbackSeq.elim extSeq fun last => max last extSeq) }

/-- `unwrapFeedbackSeq(seq)`. -/
def unwrapFeedbackSeq (a : TwccFeedbackAdapter) (seq : ℤ) : ℤ × TwccFeedbackAdapter :=
  if seq > 0xffff then (seq, a.advanceFeedback seq)
  else
    match a.feedbackAnchor with
    | none => (seq % TWCC_SEQ_MOD, a)
    | some anchor => (nearest anchor seq, a.advanceFeedback (nearest anchor seq))

/-- The body of the loop of `onFeedback`, with the results so far. -/
def matchResult (state : TwccFeedbackAdapter × List TwccPacketFeedback) (result : PacketResult) :
    TwccFeedbackAdapter × List TwccPacketFeedback :=
  let unwrapped := state.1.unwrapFeedbackSeq result.sequenceNumber
  let extSeq := unwrapped.1
  let a := unwrapped.2
  match a.history.get? extSeq with
  | none => (a, state.2)
  | some sent =>
    if a.isOutOfRange extSeq sent then (a.forget extSeq, state.2)
    else if !result.received then
      (a, state.2 ++ [{ extSeq, sent, received := false }])
    else
      (a.forget extSeq, state.2 ++ [{
        extSeq
        sent
        received := true
        recvMs := if hasTwccReceiveTiming result then some result.receivedAtMs else none }])

/-- `onFeedback(feedback, nowMs)`: the results, and the adapter afterwards. -/
def onFeedback (a : TwccFeedbackAdapter) (feedback : TransportWideCC) (nowMs : ℚ) :
    List TwccPacketFeedback × TwccFeedbackAdapter :=
  let rebased :=
    a.refTimeUnwrapper.rebasePacketResults feedback.packetResults feedback.referenceTime
  let matched := rebased.1.foldl matchResult
    ({ a.advanceClock nowMs with refTimeUnwrapper := rebased.2 }, [])
  (matched.2.mergeSort fun p q => p.extSeq ≤ q.extSeq, matched.1.pruneHistory)

/-! ## What the operations leave alone -/

/-- The fields besides the history. -/
structure SameRange (a b : TwccFeedbackAdapter) : Prop where
  maxAgeMs : b.maxAgeMs = a.maxAgeMs
  latestSent : b.latestSent = a.latestSent
  clockMs : b.clockMs = a.clockMs
  lastFeedbackSeq : b.lastFeedbackSeq = a.lastFeedbackSeq

lemma SameRange.refl (a : TwccFeedbackAdapter) : SameRange a a := ⟨rfl, rfl, rfl, rfl⟩

lemma SameRange.trans {a b c : TwccFeedbackAdapter} (h : SameRange a b) (h' : SameRange b c) :
    SameRange a c :=
  ⟨h'.1.trans h.1, h'.2.trans h.2, h'.3.trans h.3, h'.4.trans h.4⟩

lemma SameRange.isOutOfRange_eq {a b : TwccFeedbackAdapter} (h : SameRange a b) (extSeq : ℤ)
    (info : SentInfo) : b.isOutOfRange extSeq info = a.isOutOfRange extSeq info := by
  rw [isOutOfRange, isOutOfRange, h.clockMs, h.latestSent, h.maxAgeMs]

lemma forget_get? {a : TwccFeedbackAdapter} {extSeq key : ℤ} :
    (a.forget extSeq).history.get? key = if key = extSeq then none else a.history.get? key :=
  Map.get?_delete

lemma remember_get? {a : TwccFeedbackAdapter} {extSeq key : ℤ} {info : SentInfo}
    {outOfOrder : Bool} : (a.remember extSeq info outOfOrder).history.get? key =
      if a.isOutOfRange extSeq info then a.history.get? key
      else if key = extSeq then some info else a.history.get? key := by
  unfold remember
  by_cases hout : a.isOutOfRange extSeq info = true
  · rw [if_pos hout, if_pos hout]
  · rw [if_neg hout, if_neg hout]
    exact Map.get?_set

lemma remember_same (a : TwccFeedbackAdapter) (extSeq : ℤ) (info : SentInfo) (outOfOrder : Bool) :
    SameRange a (a.remember extSeq info outOfOrder) := by
  unfold remember
  by_cases hout : a.isOutOfRange extSeq info = true
  · rw [if_pos hout]
    exact SameRange.refl a
  · rw [if_neg hout]
    exact ⟨rfl, rfl, rfl, rfl⟩

/-- `b` is `a` without some entries that are out of range. -/
structure Pruned (a b : TwccFeedbackAdapter) : Prop where
  same : SameRange a b
  sub : ∀ key info, b.history.get? key = some info → a.history.get? key = some info
  keep : ∀ key info, a.history.get? key = some info → a.isOutOfRange key info = false →
    b.history.get? key = some info

namespace Pruned

variable {a b c : TwccFeedbackAdapter}

lemma refl (a : TwccFeedbackAdapter) : Pruned a a :=
  ⟨SameRange.refl a, fun _ _ h => h, fun _ _ h _ => h⟩

lemma trans (h : Pruned a b) (h' : Pruned b c) : Pruned a c where
  same := h.same.trans h'.same
  sub := fun key info hc => h.sub key info (h'.sub key info hc)
  keep := fun key info ha hin => h'.keep key info (h.keep key info ha hin)
    ((h.same.isOutOfRange_eq key info).trans hin)

/-- An entry that is out of range is deleted. -/
lemma delete {info : SentInfo} {key : ℤ} (hsame : SameRange a b)
    (hget : ∀ k, b.history.get? k = if k = key then none else a.history.get? k)
    (hentry : a.history.get? key = some info) (hout : a.isOutOfRange key info = true) :
    Pruned a b := by
  refine ⟨hsame, fun k i hk => ?_, fun k i hk hin => ?_⟩
  · rw [hget] at hk
    split_ifs at hk
    exact hk
  · rw [hget, if_neg, hk]
    rintro rfl
    obtain rfl := Option.some.inj (hentry.symm.trans hk)
    rw [hout] at hin
    exact absurd hin (by decide)

lemma pruneFront (a : TwccFeedbackAdapter) {entries : List (ℤ × SentInfo)}
    (h : ∀ entry ∈ entries, a.history.get? entry.1 = some entry.2)
    (hnodup : (entries.map Prod.fst).Nodup) : Pruned a (a.pruneFront entries) := by
  induction entries generalizing a with
  | nil => exact refl a
  | cons entry rest ih =>
    obtain ⟨hentry, hrest⟩ := List.forall_mem_cons.mp h
    obtain ⟨hnot, hnodup⟩ := List.nodup_cons.mp hnodup
    rw [TwccFeedbackAdapter.pruneFront]
    split_ifs with hkey hin
    · exact ih a hrest hnodup
    · exact refl a
    · have hdelete : Pruned a { a with history := a.history.delete entry.1 } :=
        delete ⟨rfl, rfl, rfl, rfl⟩ (fun _ => Map.get?_delete) hentry (by simpa using hin)
      refine hdelete.trans (ih _ (fun e he => ?_) hnodup)
      have hne : e.1 ≠ entry.1 := fun heq => hnot (heq ▸ List.mem_map_of_mem he)
      change (a.history.delete entry.1).get? e.1 = _
      rw [Map.get?_delete, if_neg hne]
      exact hrest e he

lemma pruneKey (a : TwccFeedbackAdapter) (key : ℤ) : Pruned a (a.pruneKey key) := by
  unfold TwccFeedbackAdapter.pruneKey
  cases hget : a.history.get? key with
  | none =>
    refine ⟨⟨rfl, rfl, rfl, rfl⟩, fun k i hk => ?_, fun k i hk _ => ?_⟩
    · rw [forget_get?] at hk
      split_ifs at hk
      exact hk
    · rw [forget_get?, if_neg, hk]
      rintro rfl
      rw [hget] at hk
      exact absurd hk (by simp)
  | some info =>
    dsimp only
    split_ifs with hout
    · exact delete ⟨rfl, rfl, rfl, rfl⟩ (fun _ => forget_get?) hget hout
    · exact refl a

lemma pruneHistory (a : TwccFeedbackAdapter) : Pruned a a.pruneHistory := by
  have hfront : Pruned a (a.pruneFront a.history.entries) := by
    apply pruneFront a
    · exact fun entry hentry => Map.get?_eq_some.mpr hentry
    · exact a.history.nodup
  have hkeys : ∀ (keys : List ℤ) (b : TwccFeedbackAdapter),
      Pruned b (keys.foldl TwccFeedbackAdapter.pruneKey b) := by
    intro keys
    induction keys with
    | nil => exact refl
    | cons key keys ih => exact fun b => (pruneKey b key).trans (ih _)
  exact hfront.trans (hkeys _ _)

end Pruned

end TwccFeedbackAdapter

end Werift.Webrtc
