import Werift.Lib.Transition
import Werift.Webrtc.TwccFeedback

/-!
# Feedback is matched to the packets that it means

`expected` says what the results of a feedback should be, in terms of the packets that have been
sent and the ones that have been reported as received.  The adapter agrees with it as long as the
feedback is about packets less than `2 ^ 15` behind the latest one (`Agrees.onFeedback`);
`TwccSession.feedback_matches` is what follows for every run.
-/

namespace Werift.Webrtc

open Js Transition

/-! ## What the results should be -/

/-- A report about the packet with the extended number `ext`, of which the feedback has 16 bits. -/
structure Report where
  ext : ℤ
  result : PacketResult
  wire : result.sequenceNumber = ext % TWCC_SEQ_MOD

/-- The result for a sent packet. -/
def resultFor (info : SentInfo) (result : PacketResult) : TwccPacketFeedback where
  extSeq := info.wideSeq
  sent := info
  received := result.received
  recvMs := if hasTwccReceiveTiming result then some result.receivedAtMs else none

/-- The results that reports should have: a report about a packet that is in range and has not been
reported as received has one. -/
def expected (sent : List SentInfo) (inRange : SentInfo → Bool) :
    List ℤ → List (ℤ × PacketResult) → List TwccPacketFeedback
  | _, [] => []
  | received, report :: reports =>
    match sent.find? fun info => info.wideSeq == report.1 with
    | none => expected sent inRange received reports
    | some info =>
      if report.1 ∈ received ∨ inRange info = false then expected sent inRange received reports
      else
        resultFor info report.2 :: expected sent inRange
          (if report.2.received then received ++ [report.1] else received) reports

/-- The numbers of the packets that some results report as received. -/
def receivedNumbers (results : List TwccPacketFeedback) : List ℤ :=
  (results.filter TwccPacketFeedback.received).map TwccPacketFeedback.extSeq

/-- The adapter agrees with what has happened: `sent` are the packets that have been confirmed, and
`received` the numbers that have been reported as received. -/
structure Agrees (a : TwccFeedbackAdapter) (sent : List SentInfo) (received : List ℤ) : Prop where
  nodup : (sent.map SentInfo.wideSeq).Nodup
  latest : ∀ info ∈ sent, ∃ latest, a.latestSent = some latest ∧ info.wideSeq ≤ latest
  latest_mem : ∀ latest, a.latestSent = some latest → ∃ info ∈ sent, info.wideSeq = latest
  sound : ∀ key info, a.history.get? key = some info →
    info ∈ sent ∧ info.wideSeq = key ∧ key ∉ received
  complete : ∀ info ∈ sent, info.wideSeq ∉ received → a.isOutOfRange info.wideSeq info = false →
    a.history.get? info.wideSeq = some info
  feedback : ∀ last, a.lastFeedbackSeq = some last → ∃ latest, a.latestSent = some latest ∧
    last ≤ latest
  known : ∀ key ∈ received, ∃ info ∈ sent, info.wideSeq = key
  once : received.Nodup

namespace Agrees

open TwccFeedbackAdapter

variable {a b : TwccFeedbackAdapter} {sent : List SentInfo} {received : List ℤ}

/-- Nothing has happened yet. -/
lemma initial (maxAgeMs : ℚ) : Agrees { maxAgeMs } [] [] where
  nodup := List.nodup_nil
  latest := fun _ h => absurd h List.not_mem_nil
  latest_mem := fun _ h => absurd h (by simp)
  sound := fun _ _ h => absurd h (by simp)
  complete := fun _ h => absurd h List.not_mem_nil
  feedback := fun _ h => absurd h (by simp)
  known := fun _ h => absurd h List.not_mem_nil
  once := List.nodup_nil

/-- A packet is known by its number. -/
lemma eq_of_wideSeq (h : Agrees a sent received) {info info' : SentInfo} (hinfo : info ∈ sent)
    (hinfo' : info' ∈ sent) (heq : info.wideSeq = info'.wideSeq) : info = info' :=
  List.inj_on_of_nodup_map h.nodup hinfo hinfo' heq

/-- Deleting entries that are out of range does not matter. -/
lemma pruned (h : Agrees a sent received) (hp : Pruned a b) : Agrees b sent received where
  nodup := h.nodup
  latest := hp.same.latestSent ▸ h.latest
  latest_mem := hp.same.latestSent ▸ h.latest_mem
  sound := fun key info hget => h.sound key info (hp.sub key info hget)
  complete := fun info hinfo hnot hin => by
    rw [hp.same.isOutOfRange_eq] at hin
    exact hp.keep _ info (h.complete info hinfo hnot hin) hin
  feedback := by
    rw [hp.same.lastFeedbackSeq, hp.same.latestSent]
    exact h.feedback
  known := h.known
  once := h.once

/-- The clock goes on, so that no packet comes back into range. -/
lemma isOutOfRange_advanceClock {nowMs : ℚ} {extSeq : ℤ} {info : SentInfo}
    (h : (a.advanceClock nowMs).isOutOfRange extSeq info = false) :
    a.isOutOfRange extSeq info = false := by
  unfold isOutOfRange advanceClock at h
  unfold isOutOfRange
  rw [Bool.or_eq_false_iff] at h ⊢
  refine ⟨?_, h.2⟩
  cases hclock : a.clockMs with
  | none => rfl
  | some clock =>
    have hage := h.1
    rw [hclock] at hage
    simp only [Option.elim, decide_eq_false_iff_not, gt_iff_lt, not_lt] at hage ⊢
    exact (sub_le_sub_right (le_max_left clock nowMs) _).trans hage

lemma advanceClock (h : Agrees a sent received) (nowMs : ℚ) :
    Agrees (a.advanceClock nowMs) sent received where
  nodup := h.nodup
  latest := h.latest
  latest_mem := h.latest_mem
  sound := h.sound
  complete := fun info hinfo hnot hin =>
    h.complete info hinfo hnot (isOutOfRange_advanceClock hin)
  feedback := h.feedback
  known := h.known
  once := h.once

/-- A packet that falls behind the latest one does not come back into range. -/
lemma isOutOfRange_advanceSent {seq extSeq : ℤ} {info : SentInfo}
    (h : (a.advanceSent seq).isOutOfRange extSeq info = false) :
    a.isOutOfRange extSeq info = false := by
  unfold isOutOfRange advanceSent at h
  unfold isOutOfRange
  rw [Bool.or_eq_false_iff] at h ⊢
  refine ⟨h.1, ?_⟩
  cases hlatest : a.latestSent with
  | none => rfl
  | some latest =>
    have hspan := h.2
    rw [hlatest] at hspan
    simp only [Option.elim, decide_eq_false_iff_not, not_le, ge_iff_le] at hspan ⊢
    have := le_max_left latest seq
    omega

/-- A new packet is confirmed. -/
lemma onSent (h : Agrees a sent received) {info : SentInfo}
    (hnew : info.wideSeq ∉ sent.map SentInfo.wideSeq) :
    Agrees (a.onSent info) (sent ++ [info]) received := by
  have hne : ∀ i ∈ sent, i.wideSeq ≠ info.wideSeq := fun i hi heq =>
    hnew (heq ▸ List.mem_map_of_mem hi)
  let ready := ((a.advanceSent info.wideSeq).advanceClock info.sentAtMs).forget info.wideSeq
  have hin : ∀ extSeq i, ready.isOutOfRange extSeq i = false → a.isOutOfRange extSeq i = false :=
    fun extSeq i hi => isOutOfRange_advanceSent (isOutOfRange_advanceClock hi)
  have hget : ∀ outOfOrder key, (ready.remember info.wideSeq info outOfOrder).history.get? key =
      if key = info.wideSeq then
        if ready.isOutOfRange info.wideSeq info then none else some info
      else a.history.get? key := by
    intro outOfOrder key
    have hforget : ready.history.get? key =
        if key = info.wideSeq then none else a.history.get? key := forget_get?
    rw [remember_get?, hforget]
    split_ifs <;> rfl
  have hsame := remember_same ready info.wideSeq info
  have hlatest : ready.latestSent =
      some (a.latestSent.elim info.wideSeq fun latest => max latest info.wideSeq) := rfl
  refine Agrees.pruned ?_ (Pruned.pruneHistory _)
  refine ⟨?_, ?_, ?_, ?_, ?_, ?_, ?_, h.once⟩
  · rw [List.map_append]
    exact List.nodup_append.mpr ⟨h.nodup, List.nodup_singleton _, fun x hx y hy heq => by
      obtain rfl := List.mem_singleton.mp hy
      exact hnew (heq ▸ hx)⟩
  · rw [(hsame _).latestSent, hlatest]
    refine List.forall_mem_append.mpr ⟨fun i hi => ?_, fun i hi => ?_⟩
    · obtain ⟨latest, hl, hle⟩ := h.latest i hi
      exact ⟨_, rfl, hl ▸ hle.trans (le_max_left _ _)⟩
    · obtain rfl := List.mem_singleton.mp hi
      refine ⟨_, rfl, ?_⟩
      cases a.latestSent with
      | none => exact le_rfl
      | some latest => exact le_max_right _ _
  · rw [(hsame _).latestSent, hlatest]
    intro latest heq
    obtain rfl := Option.some.inj heq
    cases hl : a.latestSent with
    | none => exact ⟨info, by simp, rfl⟩
    | some last =>
      obtain ⟨i, hi, hlast⟩ := h.latest_mem last hl
      rcases max_choice last info.wideSeq with hmax | hmax
      · exact ⟨i, List.mem_append_left _ hi, hlast.trans hmax.symm⟩
      · exact ⟨info, by simp, hmax.symm⟩
  · intro key i hi
    rw [hget] at hi
    split_ifs at hi with hkey hout
    · obtain rfl := Option.some.inj hi
      refine ⟨by simp, hkey.symm, fun hmem => ?_⟩
      obtain ⟨j, hj, hjkey⟩ := h.known key hmem
      exact hne j hj (hjkey.trans hkey)
    · obtain ⟨hmem, hw, hnot⟩ := h.sound key i hi
      exact ⟨List.mem_append_left _ hmem, hw, hnot⟩
  · intro i hi hnot hinrange
    rw [(hsame _).isOutOfRange_eq] at hinrange
    rw [hget]
    rcases List.mem_append.mp hi with hi | hi
    · rw [if_neg (hne i hi)]
      exact h.complete i hi hnot (hin _ _ hinrange)
    · obtain rfl := List.mem_singleton.mp hi
      rw [if_pos rfl, hinrange]
      rfl
  · rw [(hsame _).lastFeedbackSeq, (hsame _).latestSent, hlatest]
    intro last hlast
    obtain ⟨latest, hl, hle⟩ := h.feedback last hlast
    exact ⟨_, rfl, hl ▸ hle.trans (le_max_left _ _)⟩
  · intro key hkey
    obtain ⟨i, hi, heq⟩ := h.known key hkey
    exact ⟨i, List.mem_append_left _ hi, heq⟩

/-! ### One report -/

/-- The nearest number is the reported one. -/
lemma nearest_eq {anchor ext : ℤ} (hlow : anchor - 0x8000 < ext) (hhigh : ext ≤ anchor + 0x8000) :
    nearest anchor (ext % TWCC_SEQ_MOD) = ext := by
  unfold nearest TWCC_SEQ_MOD
  dsimp only
  split_ifs <;> omega

/-- The 16 bits are unwrapped to the number of the packet. -/
lemma unwrapFeedbackSeq (h : Agrees a sent received) {info : SentInfo} (hinfo : info ∈ sent)
    (hnear : ∀ i ∈ sent, i.wideSeq - info.wideSeq < 0x8000) :
    a.unwrapFeedbackSeq (info.wideSeq % TWCC_SEQ_MOD) =
      (info.wideSeq, a.advanceFeedback info.wideSeq) := by
  obtain ⟨latest, hlatest, hle⟩ := h.latest info hinfo
  obtain ⟨i, hi, hlast⟩ := h.latest_mem latest hlatest
  have hspan := hnear i hi
  have hmod : ¬ info.wideSeq % TWCC_SEQ_MOD > 0xffff := by
    unfold TWCC_SEQ_MOD
    omega
  have hanchor : a.lastFeedbackSeq.getD latest ≤ latest := by
    cases hlf : a.lastFeedbackSeq with
    | none => exact le_rfl
    | some last =>
      obtain ⟨latest', hl', hle'⟩ := h.feedback last hlf
      obtain rfl := Option.some.inj (hlatest.symm.trans hl')
      exact hle'
  rw [TwccFeedbackAdapter.unwrapFeedbackSeq, if_neg hmod, feedbackAnchor, hlatest]
  dsimp only
  rw [nearest_eq]
  · unfold kTwccFeedbackHistoryMaxSeqSpan
    omega
  · unfold kTwccFeedbackHistoryMaxSeqSpan
    omega

lemma advanceFeedback (h : Agrees a sent received) {info : SentInfo} (hinfo : info ∈ sent) :
    Agrees (a.advanceFeedback info.wideSeq) sent received := by
  refine ⟨h.nodup, h.latest, h.latest_mem, h.sound, h.complete, fun last hlast => ?_, h.known,
    h.once⟩
  obtain rfl := Option.some.inj hlast
  obtain ⟨latest, hlatest, hle⟩ := h.latest info hinfo
  refine ⟨latest, hlatest, ?_⟩
  cases hlf : a.lastFeedbackSeq with
  | none => exact hle
  | some last =>
    obtain ⟨latest', hl', hle'⟩ := h.feedback last hlf
    obtain rfl := Option.some.inj (hlatest.symm.trans hl')
    exact max_le hle' hle

/-- An entry that is out of range is forgotten. -/
lemma forget (h : Agrees a sent received) {info : SentInfo} (hinfo : info ∈ sent)
    (hout : a.isOutOfRange info.wideSeq info = true) :
    Agrees (a.forget info.wideSeq) sent received := by
  refine ⟨h.nodup, h.latest, h.latest_mem, fun key i hi => ?_, fun i hi hnot hin => ?_, h.feedback,
    h.known, h.once⟩
  · rw [forget_get?] at hi
    split_ifs at hi
    exact h.sound key i hi
  · have hin : a.isOutOfRange i.wideSeq i = false := hin
    rw [forget_get?, if_neg]
    · exact h.complete i hi hnot hin
    · intro heq
      obtain rfl := h.eq_of_wideSeq hi hinfo heq
      exact absurd (hout.symm.trans hin) (by decide)

/-- A packet is reported as received. -/
lemma receive (h : Agrees a sent received) {info : SentInfo} (hinfo : info ∈ sent)
    (hnot : info.wideSeq ∉ received) :
    Agrees (a.forget info.wideSeq) sent (received ++ [info.wideSeq]) := by
  refine ⟨h.nodup, h.latest, h.latest_mem, fun key i hi => ?_, fun i hi hnot' hin => ?_, h.feedback,
    ?_, ?_⟩
  · rw [forget_get?] at hi
    split_ifs at hi with hkey
    obtain ⟨hmem, hw, hrec⟩ := h.sound key i hi
    refine ⟨hmem, hw, fun hin => ?_⟩
    rcases List.mem_append.mp hin with hin | hin
    · exact hrec hin
    · exact hkey (List.mem_singleton.mp hin)
  · rw [List.mem_append, List.mem_singleton, not_or] at hnot'
    rw [forget_get?, if_neg hnot'.2]
    exact h.complete i hi hnot'.1 hin
  · refine List.forall_mem_append.mpr ⟨h.known, fun key hkey => ?_⟩
    exact ⟨info, hinfo, (List.mem_singleton.mp hkey).symm⟩
  · refine List.nodup_append.mpr ⟨h.once, List.nodup_singleton _, fun x hx y hy heq => ?_⟩
    obtain rfl := List.mem_singleton.mp hy
    exact hnot (heq ▸ hx)

/-- The packet that a number names. -/
lemma find_eq (h : Agrees a sent received) {info : SentInfo} (hinfo : info ∈ sent) :
    (sent.find? fun i => i.wideSeq == info.wideSeq) = some info := by
  obtain ⟨i, hi⟩ : ∃ i, (sent.find? fun i => i.wideSeq == info.wideSeq) = some i := by
    rw [← Option.isSome_iff_exists, List.find?_isSome]
    exact ⟨info, hinfo, beq_self_eq_true _⟩
  have hmem := List.mem_of_find?_eq_some hi
  have heq : i.wideSeq = info.wideSeq := by simpa using List.find?_some hi
  rw [hi, h.eq_of_wideSeq hmem hinfo heq]

/-- **One report.**  The adapter adds the result that it should have. -/
lemma matchResult (h : Agrees a sent received) {info : SentInfo} (hinfo : info ∈ sent)
    (hnear : ∀ i ∈ sent, i.wideSeq - info.wideSeq < 0x8000) {result : PacketResult}
    (hwire : result.sequenceNumber = info.wideSeq % TWCC_SEQ_MOD) (out : List TwccPacketFeedback) :
    ∃ b new, TwccFeedbackAdapter.matchResult (a, out) result = (b, out ++ new) ∧
      (∀ reports, expected sent (fun i => !a.isOutOfRange i.wideSeq i) received
        ((info.wideSeq, result) :: reports) = new ++ expected sent
          (fun i => !a.isOutOfRange i.wideSeq i) (received ++ receivedNumbers new) reports) ∧
      Agrees b sent (received ++ receivedNumbers new) ∧
      ∀ extSeq i, b.isOutOfRange extSeq i = a.isOutOfRange extSeq i := by
  have hanchor := h.advanceFeedback hinfo
  have hmatch : TwccFeedbackAdapter.matchResult (a, out) result =
      match a.history.get? info.wideSeq with
      | none => (a.advanceFeedback info.wideSeq, out)
      | some sent =>
        if a.isOutOfRange info.wideSeq sent then
          ((a.advanceFeedback info.wideSeq).forget info.wideSeq, out)
        else if !result.received then
          (a.advanceFeedback info.wideSeq, out ++
            [{ extSeq := info.wideSeq, sent, received := false }])
        else
          ((a.advanceFeedback info.wideSeq).forget info.wideSeq, out ++ [{
            extSeq := info.wideSeq
            sent
            received := true
            recvMs := if hasTwccReceiveTiming result then some result.receivedAtMs else none }]) := by
    rw [TwccFeedbackAdapter.matchResult, hwire]
    dsimp only
    rw [h.unwrapFeedbackSeq hinfo hnear]
    rfl
  have hexpected : ∀ reports, expected sent (fun i => !a.isOutOfRange i.wideSeq i) received
      ((info.wideSeq, result) :: reports) =
        if info.wideSeq ∈ received ∨ (!a.isOutOfRange info.wideSeq info) = false then
          expected sent (fun i => !a.isOutOfRange i.wideSeq i) received reports
        else resultFor info result :: expected sent (fun i => !a.isOutOfRange i.wideSeq i)
          (if result.received then received ++ [info.wideSeq] else received) reports := by
    intro reports
    rw [expected, h.find_eq hinfo]
  rw [hmatch]
  cases hget : a.history.get? info.wideSeq with
  | none =>
    refine ⟨a.advanceFeedback info.wideSeq, [], ?_, fun reports => ?_, ?_, fun _ _ => rfl⟩
    · rw [List.append_nil]
    · rw [hexpected, if_pos]
      · rw [receivedNumbers, List.filter_nil, List.map_nil, List.append_nil, List.nil_append]
      · by_contra hnot
        rw [not_or, Bool.not_eq_false, Bool.not_eq_true'] at hnot
        have hentry := h.complete info hinfo hnot.1 hnot.2
        rw [hget] at hentry
        exact absurd hentry (by simp)
    · rw [receivedNumbers, List.filter_nil, List.map_nil, List.append_nil]
      exact hanchor
  | some found =>
    obtain ⟨hfound, hwide, hnot⟩ := h.sound _ _ hget
    obtain rfl : found = info := h.eq_of_wideSeq hfound hinfo hwide
    dsimp only
    cases hout : a.isOutOfRange found.wideSeq found with
    | true =>
      refine ⟨(a.advanceFeedback found.wideSeq).forget found.wideSeq, [], ?_, fun reports => ?_, ?_,
        fun _ _ => rfl⟩
      · rw [if_pos rfl, List.append_nil]
      · rw [hexpected, if_pos (Or.inr (by rw [hout]; rfl))]
        rw [receivedNumbers, List.filter_nil, List.map_nil, List.append_nil, List.nil_append]
      · rw [receivedNumbers, List.filter_nil, List.map_nil, List.append_nil]
        exact hanchor.forget hinfo hout
    | false =>
      rw [if_neg Bool.false_ne_true]
      have hin : ¬ (found.wideSeq ∈ received ∨ (!a.isOutOfRange found.wideSeq found) = false) := by
        rw [hout]
        simpa using hnot
      cases hreceived : result.received with
      | false =>
        have hresult : resultFor found result =
            { extSeq := found.wideSeq, sent := found, received := false } := by
          rw [resultFor, hasTwccReceiveTiming, hreceived]
          rfl
        refine ⟨a.advanceFeedback found.wideSeq, [resultFor found result], ?_, fun reports => ?_, ?_,
          fun _ _ => rfl⟩
        · rw [hresult]
          rfl
        · rw [hexpected, if_neg hin, hreceived, hresult]
          simp [receivedNumbers]
        · rw [hresult]
          simpa [receivedNumbers] using hanchor
      | true =>
        have hnumbers : receivedNumbers [resultFor found result] = [found.wideSeq] := by
          simp [receivedNumbers, resultFor, hreceived]
        refine ⟨(a.advanceFeedback found.wideSeq).forget found.wideSeq, [resultFor found result], ?_,
          fun reports => ?_, ?_, fun _ _ => rfl⟩
        · rw [resultFor, hreceived]
          rfl
        · rw [hexpected, if_neg hin, hreceived, hnumbers]
          rfl
        · rw [hnumbers]
          exact hanchor.receive hinfo hnot

/-- **The reports of a feedback.** -/
lemma matchResults (h : Agrees a sent received) {reports : List (ℤ × PacketResult)}
    (hreports : ∀ report ∈ reports, report.2.sequenceNumber = report.1 % TWCC_SEQ_MOD ∧
      (∃ info ∈ sent, info.wideSeq = report.1) ∧ ∀ i ∈ sent, i.wideSeq - report.1 < 0x8000)
    (out : List TwccPacketFeedback) :
    ∃ b, (reports.map Prod.snd).foldl TwccFeedbackAdapter.matchResult (a, out) =
        (b, out ++ expected sent (fun i => !a.isOutOfRange i.wideSeq i) received reports) ∧
      Agrees b sent (received ++ receivedNumbers
        (expected sent (fun i => !a.isOutOfRange i.wideSeq i) received reports)) := by
  induction reports generalizing a received out with
  | nil =>
    refine ⟨a, ?_, ?_⟩
    · rw [expected, List.append_nil]
      rfl
    · rw [expected, receivedNumbers, List.filter_nil, List.map_nil, List.append_nil]
      exact h
  | cons report reports ih =>
    obtain ⟨ext, result⟩ := report
    obtain ⟨⟨hwire, ⟨info, hinfo, hext⟩, hnear⟩, hrest⟩ := List.forall_mem_cons.mp hreports
    dsimp only at hwire hext hnear
    subst hext
    obtain ⟨b, new, hmatch, hexpected, hagrees, hrange⟩ := h.matchResult hinfo hnear hwire out
    obtain ⟨c, hfold, hfinal⟩ := ih hagrees hrest (out ++ new)
    have hfun : (fun i : SentInfo => !b.isOutOfRange i.wideSeq i) =
        fun i => !a.isOutOfRange i.wideSeq i := funext fun i => by rw [hrange]
    rw [hfun] at hfold hfinal
    refine ⟨c, ?_, ?_⟩
    · rw [List.map_cons, List.foldl_cons, hmatch, hfold, hexpected, List.append_assoc]
    · rw [hexpected, receivedNumbers, List.filter_append, List.map_append, ← List.append_assoc]
      exact hfinal

/-- The order of the received numbers does not matter. -/
lemma perm (h : Agrees a sent received) {received' : List ℤ} (hp : received.Perm received') :
    Agrees a sent received' where
  nodup := h.nodup
  latest := h.latest
  latest_mem := h.latest_mem
  sound := fun key info hget => by
    rw [← hp.mem_iff]
    exact h.sound key info hget
  complete := fun info hinfo hnot => h.complete info hinfo fun hmem => hnot (hp.mem_iff.mp hmem)
  feedback := h.feedback
  known := fun key hkey => h.known key (hp.mem_iff.mpr hkey)
  once := hp.nodup_iff.mp h.once

/-- **A feedback.**  Its results are the ones that it should have. -/
lemma onFeedback (h : Agrees a sent received) {reports : List Report}
    (hreports : ∀ report ∈ reports, (∃ info ∈ sent, info.wideSeq = report.ext) ∧
      ∀ i ∈ sent, i.wideSeq - report.ext < 0x8000) (referenceTime : ℤ) (nowMs : ℚ) :
    ∃ shift, (a.onFeedback ⟨referenceTime, reports.map Report.result⟩ nowMs).1.Perm
        (expected sent (fun i => !(a.advanceClock nowMs).isOutOfRange i.wideSeq i) received
          (reports.map fun report =>
            (report.ext, TwccReferenceTimeUnwrapper.shiftResult shift report.result))) ∧
      Agrees (a.onFeedback ⟨referenceTime, reports.map Report.result⟩ nowMs).2 sent
        (received ++ receivedNumbers
          (a.onFeedback ⟨referenceTime, reports.map Report.result⟩ nowMs).1) := by
  let shift := (a.refTimeUnwrapper.unwrapBaseMs referenceTime).1 -
    referenceTime % TWCC_REFERENCE_TIME_MOD * TWCC_REFERENCE_TIME_UNIT_MS
  let b := { a.advanceClock nowMs with
    refTimeUnwrapper := (a.refTimeUnwrapper.unwrapBaseMs referenceTime).2 }
  have hb : Agrees b sent received := by
    obtain ⟨h1, h2, h3, h4, h5, h6, h7, h8⟩ := h.advanceClock nowMs
    exact ⟨h1, h2, h3, h4, h5, h6, h7, h8⟩
  let pairs := reports.map fun report : Report =>
    (report.ext, TwccReferenceTimeUnwrapper.shiftResult shift report.result)
  have hpairs : ∀ pair ∈ pairs, pair.2.sequenceNumber = pair.1 % TWCC_SEQ_MOD ∧
      (∃ info ∈ sent, info.wideSeq = pair.1) ∧ ∀ i ∈ sent, i.wideSeq - pair.1 < 0x8000 := by
    intro pair hpair
    obtain ⟨report, hreport, rfl⟩ := List.mem_map.mp hpair
    refine ⟨?_, hreports report hreport⟩
    rw [TwccReferenceTimeUnwrapper.shiftResult_sequenceNumber]
    exact report.wire
  obtain ⟨c, hfold, hagrees⟩ := hb.matchResults hpairs []
  have hresults : (reports.map Report.result).map (TwccReferenceTimeUnwrapper.shiftResult shift) =
      pairs.map Prod.snd := by
    rw [List.map_map, List.map_map]
    rfl
  have heq : a.onFeedback ⟨referenceTime, reports.map Report.result⟩ nowMs =
      ((expected sent (fun i => !b.isOutOfRange i.wideSeq i) received pairs).mergeSort
        fun p q => p.extSeq ≤ q.extSeq, c.pruneHistory) := by
    change (((((reports.map Report.result).map
      (TwccReferenceTimeUnwrapper.shiftResult shift)).foldl TwccFeedbackAdapter.matchResult
        (b, [])).2.mergeSort _), (((reports.map Report.result).map
      (TwccReferenceTimeUnwrapper.shiftResult shift)).foldl TwccFeedbackAdapter.matchResult
        (b, [])).1.pruneHistory) = _
    rw [hresults, hfold]
    rfl
  rw [heq]
  have hsort := List.mergeSort_perm
    (expected sent (fun i => !b.isOutOfRange i.wideSeq i) received pairs)
    fun p q => p.extSeq ≤ q.extSeq
  refine ⟨shift, hsort, Agrees.pruned (hagrees.perm ?_) (Pruned.pruneHistory c)⟩
  exact List.Perm.append_left _ ((hsort.symm.filter _).map _)

end Agrees

/-! ## Properties of the results -/

/-- Every result is about a report and about a packet in range. -/
lemma mem_expected {sent : List SentInfo} {inRange : SentInfo → Bool} {received : List ℤ}
    {reports : List (ℤ × PacketResult)} {p : TwccPacketFeedback}
    (h : p ∈ expected sent inRange received reports) :
    ∃ report ∈ reports, ∃ info ∈ sent, info.wideSeq = report.1 ∧ inRange info = true ∧
      p = resultFor info report.2 := by
  induction reports generalizing received with
  | nil => exact absurd h List.not_mem_nil
  | cons report reports ih =>
    have hlater : ∀ received', p ∈ expected sent inRange received' reports →
        ∃ report' ∈ report :: reports, ∃ info ∈ sent, info.wideSeq = report'.1 ∧
          inRange info = true ∧ p = resultFor info report'.2 := by
      intro received' hp
      obtain ⟨report', hreport', hrest⟩ := ih hp
      exact ⟨report', List.mem_cons_of_mem _ hreport', hrest⟩
    rw [expected] at h
    cases hfind : sent.find? fun info => info.wideSeq == report.1 with
    | none =>
      rw [hfind] at h
      exact hlater _ h
    | some info =>
      rw [hfind] at h
      dsimp only at h
      by_cases hskip : report.1 ∈ received ∨ inRange info = false
      · rw [if_pos hskip] at h
        exact hlater _ h
      · rw [if_neg hskip] at h
        rcases List.mem_cons.mp h with rfl | h
        · rw [not_or, Bool.not_eq_false] at hskip
          refine ⟨report, List.mem_cons_self, info, List.mem_of_find?_eq_some hfind, ?_, hskip.2, rfl⟩
          simpa using List.find?_some hfind
        · exact hlater _ h

/-- A report about a packet in range has a result if the packet has not been reported as received,
also not by an earlier report of the feedback. -/
lemma expected_complete {sent : List SentInfo} {inRange : SentInfo → Bool} {received : List ℤ}
    {before rest : List (ℤ × PacketResult)} {report : ℤ × PacketResult} {info : SentInfo}
    (hfind : (sent.find? fun i => i.wideSeq == report.1) = some info) (hin : inRange info = true)
    (hnot : report.1 ∉ received)
    (hbefore : ∀ r ∈ before, r.1 = report.1 → r.2.received = false) :
    resultFor info report.2 ∈ expected sent inRange received (before ++ report :: rest) := by
  induction before generalizing received with
  | nil =>
    rw [List.nil_append, expected, hfind]
    dsimp only
    rw [if_neg]
    · exact List.mem_cons_self
    · rw [not_or, Bool.not_eq_false]
      exact ⟨hnot, hin⟩
  | cons r before ih =>
    obtain ⟨hr, hbefore⟩ := List.forall_mem_cons.mp hbefore
    rw [List.cons_append, expected]
    cases hfind' : sent.find? fun i => i.wideSeq == r.1 with
    | none => exact ih hnot hbefore
    | some i =>
      dsimp only
      split_ifs with hskip hreceived
      · exact ih hnot hbefore
      · apply List.mem_cons_of_mem
        apply ih _ hbefore
        rw [List.mem_append, List.mem_singleton, not_or]
        refine ⟨hnot, fun heq => ?_⟩
        rw [hr heq.symm] at hreceived
        exact absurd hreceived Bool.false_ne_true
      · exact List.mem_cons_of_mem _ (ih hnot hbefore)

/-! ## Runs -/

/-- An adapter with its past: the packets that have been confirmed, and the numbers of the results
that have reported a packet as received. -/
structure TwccSession where
  adapter : TwccFeedbackAdapter
  sent : List SentInfo := []
  received : List ℤ := []

namespace TwccSession

/-- What can happen to an adapter. -/
inductive Event
  | onSent (info : SentInfo)
  | prune (nowMs : ℚ)
  | onFeedback (reports : List Report) (referenceTime : ℤ) (nowMs : ℚ)

/-- The results of a feedback, and the adapter afterwards. -/
def feedback (s : TwccSession) (reports : List Report) (referenceTime : ℤ) (nowMs : ℚ) :
    List TwccPacketFeedback × TwccFeedbackAdapter :=
  s.adapter.onFeedback ⟨referenceTime, reports.map Report.result⟩ nowMs

/-- A step of the adapter. -/
def step (s : TwccSession) : Event → Option TwccSession
  | .onSent info => some { s with adapter := s.adapter.onSent info, sent := s.sent ++ [info] }
  | .prune nowMs => some { s with adapter := s.adapter.prune nowMs }
  | .onFeedback reports referenceTime nowMs =>
    let result := s.feedback reports referenceTime nowMs
    some { s with adapter := result.2, received := s.received ++ receivedNumbers result.1 }

/-- The reported packets have been sent and are less than `2 ^ 15` behind the latest one. -/
def Reportable (s : TwccSession) (reports : List Report) : Prop :=
  ∀ report ∈ reports, (∃ info ∈ s.sent, info.wideSeq = report.ext) ∧
    ∀ i ∈ s.sent, i.wideSeq - report.ext < 0x8000

/-- Packets have numbers of their own, and only such packets are reported. -/
def Ok (s : TwccSession) : Event → Prop
  | .onSent info => info.wideSeq ∉ s.sent.map SentInfo.wideSeq
  | .prune _ => True
  | .onFeedback reports _ _ => s.Reportable reports

/-- The packet is not older than `maxAgeMs` on the clock of the adapter and within the span. -/
def InRange (s : TwccSession) (a : TwccFeedbackAdapter) (info : SentInfo) : Prop :=
  (∀ clock, a.clockMs = some clock → clock - info.sendingAtMs ≤ a.maxAgeMs) ∧
    ∀ i ∈ s.sent, i.wideSeq - info.wideSeq < kTwccFeedbackHistoryMaxSeqSpan

/-- What holds of the results `out` of a feedback at the time `nowMs`. -/
structure Matches (s : TwccSession) (reports : List Report) (nowMs : ℚ)
    (out : List TwccPacketFeedback) : Prop where
  /-- Every result names the packet that the receiver reported. -/
  named : ∀ p ∈ out, ∃ report ∈ reports, p.extSeq = report.ext ∧
    p.received = report.result.received ∧ p.sent ∈ s.sent ∧ p.sent.wideSeq = report.ext
  /-- No packet is reported as received twice. -/
  once : (s.received ++ receivedNumbers out).Nodup
  /-- Every result is about a packet in range. -/
  inRange : ∀ p ∈ out, s.InRange (s.adapter.advanceClock nowMs) p.sent
  /-- A packet in range that has not been reported as received is not omitted. -/
  complete : ∀ before report rest, reports = before ++ report :: rest → ∀ info ∈ s.sent,
    info.wideSeq = report.ext → s.InRange (s.adapter.advanceClock nowMs) info →
    report.ext ∉ s.received → (∀ r ∈ before, r.ext = report.ext → r.result.received = false) →
      ∃ p ∈ out, p.extSeq = report.ext ∧ p.received = report.result.received

/-- An adapter that has not seen anything. -/
def initial (maxAgeMs : ℚ) : TwccSession := { adapter := { maxAgeMs } }

/-- The test of the adapter is the one for the packets that have been sent. -/
lemma isOutOfRange_iff {s : TwccSession} {a : TwccFeedbackAdapter} {received : List ℤ}
    (h : Agrees a s.sent received) {info : SentInfo} (hinfo : info ∈ s.sent) :
    a.isOutOfRange info.wideSeq info = false ↔ s.InRange a info := by
  obtain ⟨latest, hlatest, -⟩ := h.latest info hinfo
  have hspan : latest - info.wideSeq < kTwccFeedbackHistoryMaxSeqSpan ↔
      ∀ i ∈ s.sent, i.wideSeq - info.wideSeq < kTwccFeedbackHistoryMaxSeqSpan := by
    constructor
    · intro hlt i hi
      obtain ⟨latest', hl', hle⟩ := h.latest i hi
      obtain rfl := Option.some.inj (hlatest.symm.trans hl')
      omega
    · intro hall
      obtain ⟨i, hi, heq⟩ := h.latest_mem latest hlatest
      exact heq ▸ hall i hi
  rw [TwccFeedbackAdapter.isOutOfRange, hlatest, Bool.or_eq_false_iff, InRange, ← hspan]
  refine and_congr ?_ (by simp)
  cases a.clockMs with
  | none => simp
  | some clock => simp

/-- What every step preserves. -/
lemma agrees_step {s s' : TwccSession} {e : Event} (h : Agrees s.adapter s.sent s.received)
    (hok : s.Ok e) (hs : s.step e = some s') : Agrees s'.adapter s'.sent s'.received := by
  cases e with
  | onSent info =>
    obtain rfl := Option.some.inj hs
    exact h.onSent hok
  | prune nowMs =>
    obtain rfl := Option.some.inj hs
    exact (h.advanceClock nowMs).pruned (TwccFeedbackAdapter.Pruned.pruneHistory _)
  | onFeedback reports referenceTime nowMs =>
    obtain rfl := Option.some.inj hs
    obtain ⟨-, -, hagrees⟩ := h.onFeedback hok referenceTime nowMs
    exact hagrees

lemma agrees_of_run {maxAgeMs : ℚ} {s : TwccSession} (h : Run step Ok (initial maxAgeMs) s) :
    Agrees s.adapter s.sent s.received :=
  h.invariant (fun s => Agrees s.adapter s.sent s.received) (Agrees.initial maxAgeMs)
    fun _ _ _ hs hok hstep => agrees_step hs hok hstep

/-- **Feedback is matched to the packet that it means**, in every run in which the reported packets
have been sent and are less than `2 ^ 15` behind the latest one. -/
theorem feedback_matches {maxAgeMs : ℚ} {s : TwccSession} (h : Run step Ok (initial maxAgeMs) s)
    {reports : List Report} (hreports : s.Reportable reports) (referenceTime : ℤ) (nowMs : ℚ) :
    s.Matches reports nowMs (s.feedback reports referenceTime nowMs).1 := by
  have hagrees := agrees_of_run h
  have hclock := hagrees.advanceClock nowMs
  obtain ⟨shift, hperm, hafter⟩ := hagrees.onFeedback hreports referenceTime nowMs
  refine ⟨fun p hp => ?_, hafter.once, fun p hp => ?_, ?_⟩
  · obtain ⟨pair, hpair, info, hinfo, hwide, -, rfl⟩ := mem_expected (hperm.mem_iff.mp hp)
    obtain ⟨report, hreport, rfl⟩ := List.mem_map.mp hpair
    refine ⟨report, hreport, hwide, ?_, hinfo, hwide⟩
    exact TwccReferenceTimeUnwrapper.shiftResult_received _ _
  · obtain ⟨pair, hpair, info, hinfo, -, hin, rfl⟩ := mem_expected (hperm.mem_iff.mp hp)
    exact (isOutOfRange_iff hclock hinfo).mp (by simpa using hin)
  · intro before report rest hsplit info hinfo hwide hin hnot hbefore
    have hout := (isOutOfRange_iff hclock hinfo).mpr hin
    have hfind : (s.sent.find? fun i => i.wideSeq == report.ext) = some info := by
      rw [← hwide]
      exact hagrees.find_eq hinfo
    refine ⟨resultFor info (TwccReferenceTimeUnwrapper.shiftResult shift report.result), ?_, hwide,
      TwccReferenceTimeUnwrapper.shiftResult_received _ _⟩
    rw [feedback, hperm.mem_iff, hsplit, List.map_append, List.map_cons]
    apply expected_complete hfind
    · rw [hout]
      rfl
    · exact hnot
    · intro r hr heq
      obtain ⟨q, hq, rfl⟩ := List.mem_map.mp hr
      rw [TwccReferenceTimeUnwrapper.shiftResult_received]
      exact hbefore q hq heq

/-- The packet `65535`, the last one before the 16 bits wrap. -/
def lastBeforeWrap : SentInfo := { wideSeq := 65535, sendingAtMs := 0, sentAtMs := 1 }

/-- The packet `65536`, the first one after it. -/
def firstAfterWrap : SentInfo := { wideSeq := 65536, sendingAtMs := 1, sentAtMs := 2 }

/-- The receiver reports the later packet as received and the earlier one as not received. -/
def wrapReports : List Report :=
  [⟨65536, { sequenceNumber := 0, received := true }, rfl⟩, ⟨65535, { sequenceNumber := 65535 }, rfl⟩]

/-- Two packets around the wrap are confirmed out of order, and both are reported. -/
theorem feedback_matches_wrap : ∃ s : TwccSession, s.sent = [firstAfterWrap, lastBeforeWrap] ∧
    s.Matches wrapReports 3 (s.feedback wrapReports 0 3).1 := by
  obtain ⟨s, hrun, hsent⟩ : ∃ s : TwccSession, Run step Ok (initial 1000) s ∧
      s.sent = [firstAfterWrap, lastBeforeWrap] := by
    have hfirst : (initial 1000).Ok (.onSent firstAfterWrap) := List.not_mem_nil
    have hrun : Run step Ok (initial 1000) _ := Run.start.next hfirst rfl
    refine ⟨_, hrun.next (e := .onSent lastBeforeWrap) ?_ rfl, rfl⟩
    change (65535 : ℤ) ∉ [(65536 : ℤ)]
    decide
  refine ⟨s, hsent, feedback_matches hrun ?_ 0 3⟩
  intro report hreport
  rw [hsent]
  rcases List.mem_pair.mp hreport with rfl | rfl
  · exact ⟨⟨firstAfterWrap, by simp, rfl⟩, by decide⟩
  · exact ⟨⟨lastBeforeWrap, by simp, rfl⟩, by decide⟩

end TwccSession

end Werift.Webrtc
