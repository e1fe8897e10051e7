import Mathlib
import Werift.Lib.Path

/-!
# The send queue of a sender

`OutgoingQueue` of `sender/outgoingQueue.ts` runs the tasks of a sender one after the other.  A call of
`enqueue` is known by its number.  `settle` is the promise callback of a task, which settles the promise of the
call, and `finished` the one behind it, which starts the next task; between the two anything else may happen.
-/

namespace Werift.Webrtc

open Transition

inductive Kind
  | audio
  | video
  | application
  | unknown
deriving DecidableEq

inductive OutgoingKind
  | media
  | rtx
  | padding
deriving DecidableEq

structure OutgoingMeta where
  kind : OutgoingKind
  bytes : ℕ
  sourceEpoch : Option ℕ
deriving DecidableEq

/-- A waiting task, with the number of its call in place of the closures `start` and `drop`. -/
structure OutgoingQueued extends OutgoingMeta where
  id : ℕ
  enqueuedAtMs : ℕ
deriving DecidableEq

structure OutgoingLimits where
  maxPackets : ℕ
  maxBytes : ℕ
  maxDurationMs : ℕ

/-- How far a task is that has been started. -/
inductive OutgoingPhase
  | pending
  | settled
deriving DecidableEq

/-- The queue and what its calls have come to: `active` are the tasks that have been started and whose last
callback has not run, `started` all that have been started, `dropped` those that have been dropped, `results`
what the promises of tasks have been settled with, and `settlements` the calls of `resolve` and `reject` that
the flag `settled` lets through (`.ok none` is `undefined`). -/
structure OutgoingQueue (ε α : Type*) where
  kind : Kind
  running : Bool := false
  queue : List OutgoingQueued := []
  calls : ℕ := 0
  active : List (ℕ × OutgoingPhase) := []
  started : List ℕ := []
  dropped : List ℕ := []
  results : List (ℕ × Except ε α) := []
  settlements : List (ℕ × Except ε (Option α)) := []

namespace OutgoingQueue

def kOutgoingQueueMaxPacketsVideo : ℕ := 48
def kOutgoingQueueMaxPacketsAudio : ℕ := 250
def kOutgoingQueueMaxBytesVideo : ℕ := 512 * 1024
def kOutgoingQueueMaxBytesAudio : ℕ := 64 * 1024
def kOutgoingQueueMaxDurationMsVideo : ℕ := 500
def kOutgoingQueueMaxDurationMsAudio : ℕ := 200

variable {ε α : Type*} {s s' : OutgoingQueue ε α} {id now : ℕ}

def limits (s : OutgoingQueue ε α) : OutgoingLimits :=
  if s.kind = .audio then
    { maxPackets := kOutgoingQueueMaxPacketsAudio
      maxBytes := kOutgoingQueueMaxBytesAudio
      maxDurationMs := kOutgoingQueueMaxDurationMsAudio }
  else
    { maxPackets := kOutgoingQueueMaxPacketsVideo
      maxBytes := kOutgoingQueueMaxBytesVideo
      maxDurationMs := kOutgoingQueueMaxDurationMsVideo }

/-- `settleOk` and `settleErr`. -/
def settlePromise (s : OutgoingQueue ε α) (id : ℕ) (outcome : Except ε (Option α)) : OutgoingQueue ε α :=
  if id ∈ s.settlements.map Prod.fst then s else { s with settlements := s.settlements ++ [(id, outcome)] }

def drop (s : OutgoingQueue ε α) (queued : OutgoingQueued) : OutgoingQueue ε α :=
  { s with dropped := s.dropped ++ [queued.id] }.settlePromise queued.id (.ok none)

/-- `start`: the task is called, and its promise is pending. -/
def startTask (s : OutgoingQueue ε α) (id : ℕ) : OutgoingQueue ε α :=
  { s with active := s.active ++ [(id, .pending)], started := s.started ++ [id] }

def queueBytes (s : OutgoingQueue ε α) : ℕ := s.queue.foldl (fun sum queued => sum + queued.bytes) 0

def overLimit (s : OutgoingQueue ε α) (now : ℕ) : Bool :=
  match s.queue with
  | [] => false
  | oldest :: _ =>
    let stale := (now : ℤ) - oldest.enqueuedAtMs > s.limits.maxDurationMs
    stale || s.queue.length > s.limits.maxPackets || s.queueBytes > s.limits.maxBytes

/-- The task that `trim` drops: the first padding, else the oldest task. -/
def trimIndex (s : OutgoingQueue ε α) : ℕ :=
  let paddingIdx := s.queue.findIdx (·.kind = .padding)
  if paddingIdx < s.queue.length then paddingIdx else 0

/-- One pass of the loop of `trim`. -/
def trimOne (s : OutgoingQueue ε α) : OutgoingQueue ε α :=
  match s.queue[s.trimIndex]? with
  | none => s
  | some dropped => { s with queue := s.queue.eraseIdx s.trimIndex }.drop dropped

/-- The loop of `trim`, which takes at most as many passes as there are tasks. -/
def trimLoop (now : ℕ) : ℕ → OutgoingQueue ε α → OutgoingQueue ε α
  | 0, s => s
  | fuel + 1, s => if s.overLimit now then trimLoop now fuel s.trimOne else s

def trim (s : OutgoingQueue ε α) (isBounded : Bool) (now : ℕ) : OutgoingQueue ε α :=
  if isBounded then trimLoop now s.queue.length s else s

/-- The call of `enqueue` at `enqueuedAtMs`, with the clock at `now` when the queue is trimmed. -/
def enqueue (s : OutgoingQueue ε α) (item : OutgoingMeta) (isBounded : Bool) (enqueuedAtMs now : ℕ) :
    OutgoingQueue ε α :=
  let id := s.calls
  let s := { s with calls := s.calls + 1 }
  if s.running then
    let queued : OutgoingQueued := { toOutgoingMeta := item, id, enqueuedAtMs }
    { s with queue := s.queue ++ [queued] }.trim isBounded now
  else { s with running := true }.startTask id

def dropStaleSource (s : OutgoingQueue ε α) (sourceEpoch : ℕ) : OutgoingQueue ε α :=
  let stale := s.queue.filter fun queued => queued.sourceEpoch ≠ none ∧ queued.sourceEpoch ≠ some sourceEpoch
  let s := { s with queue := s.queue.filter fun queued => queued ∉ stale }
  stale.foldl drop s

/-- What a promise of a call is settled with when its task has been. -/
def settlement (result : Except ε α) : Except ε (Option α) := result.map some

/-- The callback of `done.then(settleOk, settleErr)`. -/
def settleTask (s : OutgoingQueue ε α) (id : ℕ) (result : Except ε α) : OutgoingQueue ε α :=
  { s with
    active := s.active.map fun task =>
      if task = (id, OutgoingPhase.pending) then (id, OutgoingPhase.settled) else task
    results := s.results ++ [(id, result)] }.settlePromise id (settlement result)

/-- The callback of `finally`. -/
def finishTask (s : OutgoingQueue ε α) (id : ℕ) : OutgoingQueue ε α :=
  let s := { s with active := s.active.erase (id, .settled) }
  match s.queue with
  | next :: queue => { s with queue }.startTask next.id
  | [] => { s with running := false }

/-- What happens to a queue. -/
inductive Event (ε α : Type*)
  | enqueue (item : OutgoingMeta) (isBounded : Bool) (enqueuedAtMs now : ℕ)
  | dropStaleSource (sourceEpoch : ℕ)
  | settle (id : ℕ) (result : Except ε α)
  | finished (id : ℕ)

def step (s : OutgoingQueue ε α) : Event ε α → Option (OutgoingQueue ε α)
  | .enqueue item isBounded enqueuedAtMs now => some (s.enqueue item isBounded enqueuedAtMs now)
  | .dropStaleSource sourceEpoch => some (s.dropStaleSource sourceEpoch)
  | .settle id result => if (id, .pending) ∈ s.active then some (s.settleTask id result) else none
  | .finished id => if (id, .settled) ∈ s.active then some (s.finishTask id) else none

/-- A new queue. -/
def new (ε α : Type*) (kind : Kind) : OutgoingQueue ε α := { kind }

/-! ## What holds in every state -/

/-- The numbers of the waiting calls. -/
def waiting (s : OutgoingQueue ε α) : List ℕ := s.queue.map fun queued => queued.id

/-- **The invariant.**  The tasks are started in the order of their calls; one task is active while the queue
runs, and none waits otherwise; a call is started, waiting or dropped; and a call is settled once, with
`undefined` if it is dropped and with what its task has come to otherwise. -/
structure Inv (s : OutgoingQueue ε α) : Prop where
  sorted : (s.started ++ s.waiting).Pairwise (· < ·)
  active : s.running = true ∧ (∃ id phase, s.active = [(id, phase)] ∧ id ∈ s.started) ∨
    s.running = false ∧ s.active = [] ∧ s.queue = []
  known : ∀ id, id < s.calls ↔ id ∈ s.started ∨ id ∈ s.waiting ∨ id ∈ s.dropped
  dropped : ∀ id ∈ s.dropped, id ∉ s.started ∧ id ∉ s.waiting
  results : ∀ id, (∃ result, (id, result) ∈ s.results) ↔ id ∈ s.started ∧ (id, .pending) ∉ s.active
  once : (s.settlements.map Prod.fst).Nodup
  settlements : ∀ id outcome, (id, outcome) ∈ s.settlements ↔
    (id ∈ s.dropped ∧ outcome = .ok none) ∨ ∃ result, (id, result) ∈ s.results ∧ outcome = settlement result

lemma inv_new (kind : Kind) : (new ε α kind).Inv where
  sorted := List.Pairwise.nil
  active := .inr ⟨rfl, rfl, rfl⟩
  known := by simp [new, waiting]
  dropped := by simp [new]
  results := by simp [new]
  once := List.nodup_nil
  settlements := by simp [new]

/-- Who is settled. -/
lemma Inv.mem_settlements_iff (h : s.Inv) :
    id ∈ s.settlements.map Prod.fst ↔ id ∈ s.dropped ∨ id ∈ s.started ∧ (id, .pending) ∉ s.active := by
  rw [← h.results, List.mem_map]
  constructor
  · rintro ⟨⟨id', outcome⟩, hmem, rfl⟩
    rcases (h.settlements _ _).mp hmem with ⟨hdropped, -⟩ | ⟨result, hresult, -⟩
    · exact .inl hdropped
    · exact .inr ⟨result, hresult⟩
  · rintro (hdropped | ⟨result, hresult⟩)
    · exact ⟨(id, .ok none), (h.settlements _ _).mpr (.inl ⟨hdropped, rfl⟩), rfl⟩
    · exact ⟨(id, settlement result), (h.settlements _ _).mpr (.inr ⟨result, hresult, rfl⟩), rfl⟩

/-- The promise of a waiting call is not settled. -/
lemma Inv.not_settled_of_waiting (h : s.Inv) (hid : id ∈ s.waiting) : id ∉ s.settlements.map Prod.fst := by
  rw [h.mem_settlements_iff]
  rintro (hdropped | ⟨hstarted, -⟩)
  · exact (h.dropped id hdropped).2 hid
  · exact absurd ((List.pairwise_append.mp h.sorted).2.2 id hstarted id hid) (lt_irrefl id)

/-! ## Dropping tasks -/

/-- Tasks whose promises are pending are dropped. -/
lemma foldl_drop (items : List OutgoingQueued)
    (hfresh : (s.settlements.map Prod.fst ++ items.map fun queued => queued.id).Nodup) :
    items.foldl drop s = { s with
      dropped := s.dropped ++ items.map fun queued => queued.id
      settlements := s.settlements ++ items.map fun queued => (queued.id, .ok none) } := by
  induction items generalizing s with
  | nil => simp
  | cons queued items ih =>
    have hnew : queued.id ∉ s.settlements.map Prod.fst := by
      intro hmem
      exact (List.nodup_append.mp hfresh).2.2 queued.id hmem queued.id List.mem_cons_self rfl
    have hdrop : s.drop queued = { s with
        dropped := s.dropped ++ [queued.id]
        settlements := s.settlements ++ [(queued.id, .ok none)] } := by
      rw [drop, settlePromise, if_neg hnew]
    rw [List.foldl_cons, hdrop, ih]
    · simp
    · simpa using hfresh

/-- **Dropping** some of the waiting tasks. -/
lemma Inv.drops (h : s.Inv) {queue : List OutgoingQueued} (items : List OutgoingQueued)
    (hsub : queue.Sublist s.queue)
    (hperm : (queue ++ items).Perm s.queue) : (items.foldl drop { s with queue }).Inv := by
  have hids : ((queue ++ items).map fun queued => queued.id).Perm s.waiting := hperm.map _
  rw [List.map_append] at hids
  have hnodup : s.waiting.Nodup := (List.pairwise_append.mp h.sorted).2.1.imp ne_of_lt
  have hsplit := List.nodup_append.mp (hids.nodup_iff.mpr hnodup)
  have hitem : ∀ id ∈ items.map fun queued => queued.id, id ∈ s.waiting := fun id hid =>
    hids.subset (List.mem_append_right _ hid)
  have hkept : (queue.map fun queued => queued.id).Sublist s.waiting := hsub.map _
  have hmem : ∀ id, id ∈ s.waiting ↔
      id ∈ (queue.map fun queued => queued.id) ∨ id ∈ items.map fun queued => queued.id := fun id => by
    rw [← hids.mem_iff, List.mem_append]
  have hfresh : (s.settlements.map Prod.fst ++ items.map fun queued => queued.id).Nodup := by
    refine List.nodup_append.mpr ⟨h.once, hsplit.2.1, ?_⟩
    rintro id hid _ hitem' rfl
    exact h.not_settled_of_waiting (hitem id hitem') hid
  rw [foldl_drop items (s := { s with queue }) hfresh]
  refine ⟨?_, ?_, ?_, ?_, h.results, ?_, ?_⟩
  · exact h.sorted.sublist ((List.Sublist.refl _).append hkept)
  · rcases h.active with ⟨hrunning, hactive⟩ | ⟨hrunning, hactive, hempty⟩
    · exact .inl ⟨hrunning, hactive⟩
    · refine .inr ⟨hrunning, hactive, ?_⟩
      rw [hempty] at hsub
      exact List.sublist_nil.mp hsub
  · intro id
    rw [h.known, hmem]
    simp only [waiting, List.mem_append]
    tauto
  · intro id hid
    rcases List.mem_append.mp hid with hold | hnew
    · obtain ⟨hstarted, hwaiting⟩ := h.dropped id hold
      exact ⟨hstarted, fun hid' => hwaiting (hkept.subset hid')⟩
    · refine ⟨fun hstarted => ?_, fun hid' => hsplit.2.2 id hid' id hnew rfl⟩
      exact absurd ((List.pairwise_append.mp h.sorted).2.2 id hstarted id (hitem id hnew)) (lt_irrefl id)
  · rw [List.map_append, List.map_map]
    exact hfresh
  · intro id outcome
    rw [List.mem_append, h.settlements, List.mem_append, List.mem_map]
    constructor
    · rintro ((⟨hdropped, rfl⟩ | hresult) | ⟨queued, hqueued, heq⟩)
      · exact .inl ⟨.inl hdropped, rfl⟩
      · exact .inr hresult
      · cases heq
        exact .inl ⟨.inr (List.mem_map.mpr ⟨queued, hqueued, rfl⟩), rfl⟩
    · rintro (⟨hdropped | hnew, rfl⟩ | hresult)
      · exact .inl (.inl ⟨hdropped, rfl⟩)
      · obtain ⟨queued, hqueued, rfl⟩ := List.mem_map.mp hnew
        exact .inr ⟨queued, hqueued, rfl⟩
      · exact .inl (.inr hresult)

lemma Inv.dropStaleSource (h : s.Inv) (sourceEpoch : ℕ) : (s.dropStaleSource sourceEpoch).Inv := by
  rw [OutgoingQueue.dropStaleSource]
  refine h.drops _ List.filter_sublist ?_
  have hkept : ∀ queued ∈ s.queue, decide (queued ∉ s.queue.filter fun queued => decide
      (queued.sourceEpoch ≠ none ∧ queued.sourceEpoch ≠ some sourceEpoch)) =
      !decide (queued.sourceEpoch ≠ none ∧ queued.sourceEpoch ≠ some sourceEpoch) := by
    intro queued hqueued
    rw [← decide_not, decide_eq_decide, List.mem_filter, decide_eq_true_iff]
    exact ⟨fun hnot hstale => hnot ⟨hqueued, hstale⟩, fun hnot hmem => hnot hmem.2⟩
  rw [List.filter_congr hkept]
  exact List.perm_append_comm.trans (List.filter_append_perm _ _)

lemma Inv.trimOne (h : s.Inv) : s.trimOne.Inv := by
  rw [OutgoingQueue.trimOne]
  cases hget : s.queue[s.trimIndex]? with
  | none => exact h
  | some dropped =>
    obtain ⟨hlt, rfl⟩ := List.getElem?_eq_some_iff.mp hget
    exact h.drops [s.queue[s.trimIndex]] (List.eraseIdx_sublist _ _)
      (List.perm_append_comm.trans (List.getElem_cons_eraseIdx_perm hlt))

lemma Inv.trimLoop (h : s.Inv) (fuel : ℕ) : (s.trimLoop now fuel).Inv := by
  induction fuel generalizing s with
  | zero => exact h
  | succ fuel ih =>
    rw [OutgoingQueue.trimLoop]
    split_ifs
    · exact ih h.trimOne
    · exact h

/-! ## Trimming -/

@[simp] lemma queue_drop (queued : OutgoingQueued) : (s.drop queued).queue = s.queue := by
  rw [drop, settlePromise]
  split_ifs <;> rfl

lemma overLimit_nil (h : s.queue = []) : s.overLimit now = false := by
  rw [overLimit, h]

lemma length_trimOne (h : s.queue ≠ []) : s.trimOne.queue.length + 1 = s.queue.length := by
  have hpos := List.length_pos_iff.mpr h
  have hlt : s.trimIndex < s.queue.length := by
    rw [trimIndex]
    split_ifs with hpadding
    · exact hpadding
    · exact hpos
  rw [OutgoingQueue.trimOne, List.getElem?_eq_getElem hlt]
  dsimp only
  rw [queue_drop, List.length_eraseIdx_of_lt hlt]
  exact Nat.sub_add_cancel hpos

/-- The loop stops within its limits. -/
lemma overLimit_trimLoop (fuel : ℕ) (h : s.queue.length ≤ fuel) :
    (trimLoop now fuel s).overLimit now = false := by
  induction fuel generalizing s with
  | zero => exact overLimit_nil (List.eq_nil_of_length_eq_zero (Nat.le_zero.mp h))
  | succ fuel ih =>
    rw [OutgoingQueue.trimLoop]
    by_cases hover : s.overLimit now = true
    · rw [if_pos hover]
      refine ih ?_
      have hne : s.queue ≠ [] := by
        intro hempty
        rw [overLimit_nil hempty] at hover
        cases hover
      have hlength := length_trimOne hne
      omega
    · rw [if_neg hover]
      exact Bool.eq_false_iff.mpr hover

/-- **The caps.** -/
structure WithinCaps (s : OutgoingQueue ε α) (now : ℕ) : Prop where
  packets : s.queue.length ≤ s.limits.maxPackets
  bytes : (s.queue.map fun queued => queued.bytes).sum ≤ s.limits.maxBytes
  duration : ∀ oldest ∈ s.queue.head?, (now : ℤ) - oldest.enqueuedAtMs ≤ s.limits.maxDurationMs

lemma queueBytes_eq : s.queueBytes = (s.queue.map fun queued => queued.bytes).sum := by
  rw [queueBytes, List.sum_eq_foldl, List.foldl_map]

lemma withinCaps_of_overLimit (h : s.overLimit now = false) : s.WithinCaps now := by
  rw [overLimit] at h
  cases hqueue : s.queue with
  | nil => exact ⟨by simp [hqueue], by simp [hqueue], by simp [hqueue]⟩
  | cons oldest rest =>
    rw [hqueue] at h
    simp only [Bool.or_eq_false_iff, decide_eq_false_iff_not, not_lt, queueBytes_eq, ← hqueue] at h
    refine ⟨h.1.2, h.2, ?_⟩
    rintro _ hhead
    rw [hqueue] at hhead
    cases hhead
    exact h.1.1

/-! ## The steps -/

/-- A task waits behind the others. -/
lemma Inv.push (h : s.Inv) (hrunning : s.running = true) (queued : OutgoingQueued) (hid : queued.id = s.calls) :
    ({ s with calls := s.calls + 1, queue := s.queue ++ [queued] } : OutgoingQueue ε α).Inv := by
  have hwaiting : waiting ({ s with calls := s.calls + 1, queue := s.queue ++ [queued] } : OutgoingQueue ε α) =
      s.waiting ++ [s.calls] := by
    rw [waiting, List.map_append, List.map_singleton, hid]
    rfl
  have hactive := h.active.resolve_right fun hidle => by rw [hrunning] at hidle; cases hidle.1
  refine ⟨?_, .inl hactive, ?_, ?_, h.results, h.once, h.settlements⟩
  · rw [hwaiting, ← List.append_assoc, List.pairwise_append]
    refine ⟨h.sorted, List.pairwise_singleton _ _, ?_⟩
    intro id hmem last hlast
    obtain rfl := List.mem_singleton.mp hlast
    refine (h.known id).mpr ?_
    rcases List.mem_append.mp hmem with hstarted | hid'
    · exact .inl hstarted
    · exact .inr (.inl hid')
  · intro id
    rw [hwaiting, List.mem_append, List.mem_singleton, Nat.lt_succ_iff_lt_or_eq, h.known]
    tauto
  · intro id hdropped
    obtain ⟨hstarted, hwait⟩ := h.dropped id hdropped
    refine ⟨hstarted, ?_⟩
    rw [hwaiting, List.mem_append, List.mem_singleton]
    rintro (hold | rfl)
    · exact hwait hold
    · exact absurd ((h.known _).mpr (.inr (.inr hdropped))) (lt_irrefl _)

/-- An idle queue runs a task at once. -/
lemma Inv.run (h : s.Inv) (hidle : s.running = false) :
    (({ s with calls := s.calls + 1, running := true } : OutgoingQueue ε α).startTask s.calls).Inv := by
  obtain ⟨-, hactive, hqueue⟩ := h.active.resolve_left fun hrunning => by rw [hidle] at hrunning; cases hrunning.1
  have hwaiting : s.waiting = [] := by rw [waiting, hqueue, List.map_nil]
  have hnew : s.calls ∉ s.started := fun hmem => absurd ((h.known _).mpr (.inl hmem)) (lt_irrefl _)
  refine ⟨?_, .inl ⟨rfl, s.calls, .pending, ?_, ?_⟩, ?_, ?_, ?_, h.once, h.settlements⟩
  · change ((s.started ++ [s.calls]) ++ s.waiting).Pairwise (· < ·)
    have hsorted := h.sorted
    rw [hwaiting, List.append_nil] at hsorted ⊢
    rw [List.pairwise_append]
    refine ⟨hsorted, List.pairwise_singleton _ _, ?_⟩
    intro id hstarted last hlast
    obtain rfl := List.mem_singleton.mp hlast
    exact (h.known id).mpr (.inl hstarted)
  · change s.active ++ [(s.calls, .pending)] = [(s.calls, .pending)]
    rw [hactive, List.nil_append]
  · exact List.mem_append_right _ List.mem_cons_self
  · intro id
    change id < s.calls + 1 ↔ id ∈ s.started ++ [s.calls] ∨ id ∈ s.waiting ∨ id ∈ s.dropped
    rw [Nat.lt_succ_iff_lt_or_eq, h.known, List.mem_append, List.mem_singleton]
    tauto
  · intro id hdropped
    obtain ⟨hstarted, hwait⟩ := h.dropped id hdropped
    refine ⟨?_, hwait⟩
    change id ∉ s.started ++ [s.calls]
    rw [List.mem_append, List.mem_singleton]
    rintro (hold | rfl)
    · exact hstarted hold
    · exact absurd ((h.known _).mpr (.inr (.inr hdropped))) (lt_irrefl _)
  · intro id
    change (∃ result, (id, result) ∈ s.results) ↔
      id ∈ s.started ++ [s.calls] ∧ (id, .pending) ∉ s.active ++ [(s.calls, .pending)]
    rw [h.results, hactive, List.mem_append, List.nil_append, List.mem_singleton, List.mem_singleton]
    constructor
    · rintro ⟨hstarted, -⟩
      refine ⟨.inl hstarted, fun heq => hnew ?_⟩
      rwa [← (Prod.mk.inj heq).1]
    · rintro ⟨hstarted | rfl, hne⟩
      · exact ⟨hstarted, List.not_mem_nil⟩
      · exact absurd rfl hne

lemma Inv.enqueue (h : s.Inv) (item : OutgoingMeta) (isBounded : Bool) (enqueuedAtMs now : ℕ) :
    (s.enqueue item isBounded enqueuedAtMs now).Inv := by
  rw [OutgoingQueue.enqueue]
  dsimp only
  split_ifs with hrunning
  · have hpush := h.push hrunning { toOutgoingMeta := item, id := s.calls, enqueuedAtMs } rfl
    rw [trim]
    split_ifs
    · exact hpush.trimLoop _
    · exact hpush
  · exact h.run (Bool.eq_false_iff.mpr hrunning)

/-- The only active task. -/
lemma Inv.active_eq (h : s.Inv) {phase : OutgoingPhase} (hmem : (id, phase) ∈ s.active) :
    s.running = true ∧ s.active = [(id, phase)] ∧ id ∈ s.started := by
  rcases h.active with ⟨hrunning, id', phase', hactive, hstarted⟩ | ⟨-, hactive, -⟩
  · rw [hactive, List.mem_singleton] at hmem
    cases hmem
    exact ⟨hrunning, hactive, hstarted⟩
  · rw [hactive] at hmem
    exact absurd hmem List.not_mem_nil

lemma active_settleTask (hactive : s.active = [(id, .pending)]) (result : Except ε α) :
    (s.settleTask id result).active = [(id, .settled)] := by
  rw [settleTask, settlePromise, apply_ite OutgoingQueue.active, ite_self]
  dsimp only
  rw [hactive, List.map_singleton, if_pos rfl]

lemma Inv.settleTask (h : s.Inv) (hmem : (id, .pending) ∈ s.active) (result : Except ε α) :
    (s.settleTask id result).Inv := by
  obtain ⟨hrunning, hactive, hstarted⟩ := h.active_eq hmem
  have hnew : id ∉ s.settlements.map Prod.fst := by
    rw [h.mem_settlements_iff]
    rintro (hdropped | ⟨-, hnot⟩)
    · exact (h.dropped id hdropped).1 hstarted
    · exact hnot hmem
  have hsettled := active_settleTask hactive result
  rw [OutgoingQueue.settleTask, settlePromise, if_neg hnew] at hsettled ⊢
  dsimp only at hsettled
  refine ⟨h.sorted, .inl ⟨hrunning, id, .settled, hsettled, hstarted⟩, h.known, h.dropped, ?_, ?_, ?_⟩
  · intro id'
    dsimp only
    rw [hsettled]
    constructor
    · rintro ⟨result', hresult⟩
      have hpending : (id', OutgoingPhase.pending) ∉ [(id, OutgoingPhase.settled)] := by simp
      rcases List.mem_append.mp hresult with hold | hlast
      · exact ⟨((h.results id').mp ⟨result', hold⟩).1, hpending⟩
      · cases List.mem_singleton.mp hlast
        exact ⟨hstarted, hpending⟩
    · rintro ⟨hstarted', -⟩
      by_cases heq : id' = id
      · exact ⟨result, List.mem_append_right _ (by rw [heq]; exact List.mem_cons_self)⟩
      · obtain ⟨result', hold⟩ := (h.results id').mpr ⟨hstarted', by simpa [hactive] using heq⟩
        exact ⟨result', List.mem_append_left _ hold⟩
  · rw [List.map_append, List.nodup_append]
    refine ⟨h.once, List.nodup_singleton _, ?_⟩
    rintro id' hold _ hlast rfl
    obtain rfl := List.mem_singleton.mp hlast
    exact hnew hold
  · intro id' outcome
    simp only [List.mem_append, List.mem_singleton, h.settlements, Prod.mk.injEq]
    constructor
    · rintro ((hdropped | ⟨result', hold, rfl⟩) | ⟨rfl, rfl⟩)
      · exact .inl hdropped
      · exact .inr ⟨result', .inl hold, rfl⟩
      · exact .inr ⟨result, .inr ⟨rfl, rfl⟩, rfl⟩
    · rintro (hdropped | ⟨result', hold | ⟨rfl, rfl⟩, rfl⟩)
      · exact .inl (.inl hdropped)
      · exact .inl (.inr ⟨result', hold, rfl⟩)
      · exact .inr ⟨rfl, rfl⟩

lemma Inv.finishTask (h : s.Inv) (hmem : (id, .settled) ∈ s.active) : (s.finishTask id).Inv := by
  obtain ⟨hrunning, hactive, hstarted⟩ := h.active_eq hmem
  have herase : s.active.erase (id, .settled) = [] := by rw [hactive, List.erase_cons_head]
  rw [OutgoingQueue.finishTask, herase]
  dsimp only
  have hnone : ∀ id', (id', OutgoingPhase.pending) ∉ s.active := fun id' => by simp [hactive]
  cases hqueue : s.queue with
  | nil =>
    refine ⟨?_, .inr ⟨rfl, rfl, rfl⟩, ?_, ?_, ?_, h.once, h.settlements⟩
    · have hsorted := h.sorted
      rwa [waiting, hqueue] at hsorted
    · intro id'
      rw [h.known, waiting, hqueue]
      rfl
    · intro id' hdropped
      exact ⟨(h.dropped id' hdropped).1, List.not_mem_nil⟩
    · intro id'
      rw [h.results, and_iff_left (hnone id'), and_iff_left List.not_mem_nil]
  | cons next queue =>
    have hsorted := h.sorted
    have hwaiting : s.waiting = next.id :: queue.map fun queued => queued.id := by
      rw [waiting, hqueue, List.map_cons]
    rw [hwaiting] at hsorted
    have hnew : next.id ∉ s.started := fun hmem' =>
      absurd ((List.pairwise_append.mp hsorted).2.2 _ hmem' _ List.mem_cons_self) (lt_irrefl _)
    refine ⟨?_, .inl ⟨hrunning, next.id, .pending, rfl, List.mem_append_right _ List.mem_cons_self⟩, ?_, ?_, ?_,
      h.once, h.settlements⟩
    · change ((s.started ++ [next.id]) ++ queue.map fun queued => queued.id).Pairwise (· < ·)
      rwa [List.append_assoc, List.singleton_append]
    · intro id'
      change id' < s.calls ↔
        id' ∈ s.started ++ [next.id] ∨ id' ∈ (queue.map fun queued => queued.id) ∨ id' ∈ s.dropped
      rw [h.known, hwaiting, List.mem_append, List.mem_singleton, List.mem_cons]
      tauto
    · intro id' hdropped
      obtain ⟨hnot, hwait⟩ := h.dropped id' hdropped
      rw [hwaiting, List.mem_cons, not_or] at hwait
      refine ⟨?_, hwait.2⟩
      change id' ∉ s.started ++ [next.id]
      rw [List.mem_append, List.mem_singleton, not_or]
      exact ⟨hnot, hwait.1⟩
    · intro id'
      change (∃ result, (id', result) ∈ s.results) ↔
        id' ∈ s.started ++ [next.id] ∧ (id', .pending) ∉ [(next.id, OutgoingPhase.pending)]
      rw [h.results, and_iff_left (hnone id'), List.mem_append, List.mem_singleton, List.mem_singleton]
      constructor
      · intro hstarted'
        refine ⟨.inl hstarted', fun heq => hnew ?_⟩
        rwa [← (Prod.mk.inj heq).1]
      · rintro ⟨hstarted' | rfl, hne⟩
        · exact hstarted'
        · exact absurd rfl hne

/-- **Every event keeps the invariant.** -/
lemma Inv.step (h : s.Inv) {event : Event ε α} (hstep : s.step event = some s') : s'.Inv := by
  cases event with
  | enqueue item isBounded enqueuedAtMs now =>
    obtain rfl := Option.some.inj hstep
    exact h.enqueue item isBounded enqueuedAtMs now
  | dropStaleSource sourceEpoch =>
    obtain rfl := Option.some.inj hstep
    exact h.dropStaleSource sourceEpoch
  | settle id result =>
    obtain ⟨hmem, hstate⟩ := Option.ite_none_right_eq_some.mp hstep
    obtain rfl := Option.some.inj hstate
    exact h.settleTask hmem result
  | finished id =>
    obtain ⟨hmem, hstate⟩ := Option.ite_none_right_eq_some.mp hstep
    obtain rfl := Option.some.inj hstate
    exact h.finishTask hmem

lemma inv_of_reachable {kind : Kind} (h : Reachable step (new ε α kind) s) : s.Inv :=
  h.invariant Inv (inv_new kind) fun _ _ _ hinv _ hstep => hinv.step hstep

/-! ## Every call is settled -/

/-- The numbers of the waiting calls after dropping tasks. -/
lemma waiting_foldl_drop (items : List OutgoingQueued) :
    (items.foldl drop s).queue = s.queue ∧ (items.foldl drop s).active = s.active ∧
      (items.foldl drop s).calls = s.calls := by
  induction items generalizing s with
  | nil => exact ⟨rfl, rfl, rfl⟩
  | cons queued items ih =>
    have hdrop : (s.drop queued).active = s.active ∧ (s.drop queued).calls = s.calls := by
      rw [drop, settlePromise]
      split_ifs <;> exact ⟨rfl, rfl⟩
    obtain ⟨hqueue, hactive, hcalls⟩ := ih (s := s.drop queued)
    exact ⟨hqueue.trans (queue_drop queued), hactive.trans hdrop.1, hcalls.trans hdrop.2⟩

/-- Trimming only takes tasks out of the queue. -/
lemma trimLoop_frame (now fuel : ℕ) (s : OutgoingQueue ε α) : (trimLoop now fuel s).queue.Sublist s.queue ∧
    (trimLoop now fuel s).active = s.active ∧ (trimLoop now fuel s).calls = s.calls := by
  induction fuel generalizing s with
  | zero => exact ⟨List.Sublist.refl _, rfl, rfl⟩
  | succ fuel ih =>
    rw [OutgoingQueue.trimLoop]
    split_ifs
    · have hone : s.trimOne.queue.Sublist s.queue ∧ s.trimOne.active = s.active ∧ s.trimOne.calls = s.calls := by
        rw [OutgoingQueue.trimOne]
        cases s.queue[s.trimIndex]? with
        | none => exact ⟨List.Sublist.refl _, rfl, rfl⟩
        | some dropped =>
          obtain ⟨hqueue, hactive, hcalls⟩ :=
            waiting_foldl_drop [dropped] (s := { s with queue := s.queue.eraseIdx s.trimIndex })
          exact ⟨hqueue ▸ List.eraseIdx_sublist _ _, hactive, hcalls⟩
      obtain ⟨hqueue, hactive, hcalls⟩ := ih s.trimOne
      exact ⟨hqueue.trans hone.1, hactive.trans hone.2.1, hcalls.trans hone.2.2⟩
    · exact ⟨List.Sublist.refl _, rfl, rfl⟩

/-- A call of the queue, and not a callback of a task. -/
def Event.isCall : Event ε α → Bool
  | .enqueue .. | .dropStaleSource _ => true
  | .settle .. | .finished _ => false

/-- What an event does to the waiting and the active calls. -/
inductive Moves (s s' : OutgoingQueue ε α) : Event ε α → Prop
  | idle (event : Event ε α) (call : event.isCall = true) (active : s'.active = s.active)
      (waiting : ∀ id ∈ s'.waiting, id ∈ s.waiting ∨ s.calls ≤ id) : Moves s s' event
  | run (event : Event ε α) (call : event.isCall = true) (idle : s.active = [])
      (active : s'.active = [(s.calls, .pending)]) (waiting : s'.waiting = []) : Moves s s' event
  | settle (id : ℕ) (result : Except ε α) (pending : s.active = [(id, .pending)])
      (settled : s'.active = [(id, .settled)]) (waiting : s'.waiting = s.waiting) : Moves s s' (.settle id result)
  | last (id : ℕ) (settled : s.active = [(id, .settled)]) (active : s'.active = [])
      (waiting : s.waiting = []) (waiting' : s'.waiting = []) : Moves s s' (.finished id)
  | next (id next : ℕ) (settled : s.active = [(id, .settled)]) (active : s'.active = [(next, .pending)])
      (waiting : s.waiting = next :: s'.waiting) : Moves s s' (.finished id)

/-- **One event.** -/
lemma Inv.moves (h : s.Inv) {event : Event ε α} (hstep : s.step event = some s') :
    s.calls ≤ s'.calls ∧ Moves s s' event := by
  cases event with
  | enqueue item isBounded enqueuedAtMs now =>
    obtain rfl := Option.some.inj hstep
    rw [OutgoingQueue.enqueue]
    dsimp only
    split_ifs with hrunning
    · rw [trim]
      have hpush : ∀ id ∈ (s.queue ++ [({ toOutgoingMeta := item, id := s.calls, enqueuedAtMs } :
          OutgoingQueued)]).map fun queued => queued.id, id ∈ s.waiting ∨ s.calls ≤ id := by
        intro id hid
        rw [List.map_append, List.map_singleton, List.mem_append, List.mem_singleton] at hid
        rcases hid with hold | rfl
        · exact .inl hold
        · exact .inr le_rfl
      split_ifs
      · obtain ⟨hqueue, hactive, hcalls⟩ := trimLoop_frame now _ { s with
          calls := s.calls + 1
          queue := s.queue ++ [{ toOutgoingMeta := item, id := s.calls, enqueuedAtMs }] }
        exact ⟨hcalls ▸ Nat.le_succ _, .idle _ rfl hactive fun id hid => hpush id ((hqueue.map _).subset hid)⟩
      · exact ⟨Nat.le_succ _, .idle _ rfl rfl hpush⟩
    · obtain ⟨-, hactive, hqueue⟩ := h.active.resolve_left fun hbusy => hrunning hbusy.1
      refine ⟨Nat.le_succ _, .run _ rfl hactive ?_ ?_⟩
      · change s.active ++ [(s.calls, .pending)] = [(s.calls, .pending)]
        rw [hactive, List.nil_append]
      · change s.queue.map (fun queued => queued.id) = []
        rw [hqueue, List.map_nil]
  | dropStaleSource sourceEpoch =>
    obtain rfl := Option.some.inj hstep
    rw [OutgoingQueue.dropStaleSource]
    obtain ⟨hqueue, hactive, hcalls⟩ := waiting_foldl_drop (s := { s with
      queue := s.queue.filter fun queued => queued ∉ s.queue.filter fun queued =>
        queued.sourceEpoch ≠ none ∧ queued.sourceEpoch ≠ some sourceEpoch })
      (s.queue.filter fun queued => queued.sourceEpoch ≠ none ∧ queued.sourceEpoch ≠ some sourceEpoch)
    refine ⟨hcalls.ge, .idle _ rfl hactive fun id hid => .inl ?_⟩
    rw [waiting, hqueue] at hid
    exact (List.filter_sublist.map _).subset hid
  | settle id result =>
    obtain ⟨hmem, hstate⟩ := Option.ite_none_right_eq_some.mp hstep
    obtain rfl := Option.some.inj hstate
    obtain ⟨-, hactive, -⟩ := h.active_eq hmem
    have hframe : (s.settleTask id result).queue = s.queue ∧ (s.settleTask id result).calls = s.calls := by
      rw [OutgoingQueue.settleTask, settlePromise]
      split_ifs <;> exact ⟨rfl, rfl⟩
    exact ⟨hframe.2.ge, .settle id result hactive (active_settleTask hactive result)
      (by rw [waiting, waiting, hframe.1])⟩
  | finished id =>
    obtain ⟨hmem, hstate⟩ := Option.ite_none_right_eq_some.mp hstep
    obtain rfl := Option.some.inj hstate
    obtain ⟨-, hactive, -⟩ := h.active_eq hmem
    have herase : s.active.erase (id, .settled) = [] := by rw [hactive, List.erase_cons_head]
    rw [OutgoingQueue.finishTask, herase]
    dsimp only
    cases hqueue : s.queue with
    | nil =>
      have hwaiting : s.waiting = [] := by rw [waiting, hqueue, List.map_nil]
      exact ⟨le_rfl, .last id hactive rfl hwaiting (by rw [← hwaiting, waiting, waiting, hqueue])⟩
    | cons next queue => exact ⟨le_rfl, .next id next.id hactive rfl (by rw [waiting, hqueue]; rfl)⟩

/-- The call is over. -/
structure Done (id : ℕ) (s : OutgoingQueue ε α) : Prop where
  known : id < s.calls
  waiting : id ∉ s.waiting
  active : ∀ phase, (id, phase) ∉ s.active

/-- The task of the call is active, in this phase. -/
def At (id : ℕ) (phase : OutgoingPhase) (s : OutgoingQueue ε α) : Prop := s.active = [(id, phase)]

/-- A call that is over is settled. -/
lemma Done.settled (hdone : Done id s) (h : s.Inv) : id ∈ s.settlements.map Prod.fst := by
  rw [h.mem_settlements_iff]
  rcases (h.known id).mp hdone.known with hstarted | hwaiting | hdropped
  · exact .inr ⟨hstarted, hdone.active .pending⟩
  · exact absurd hwaiting hdone.waiting
  · exact .inl hdropped

/-- A call that is over stays so. -/
lemma Done.step (hdone : Done id s) (h : s.Inv) {event : Event ε α} (hstep : s.step event = some s') :
    Done id s' := by
  obtain ⟨hcalls, hmoves⟩ := h.moves hstep
  have hinv := h.step hstep
  cases hmoves with
  | idle event hcall hactive hwaiting =>
    refine ⟨hdone.known.trans_le hcalls, fun hid => ?_, fun phase => hactive ▸ hdone.active phase⟩
    rcases hwaiting id hid with hold | hlate
    · exact hdone.waiting hold
    · exact absurd hdone.known (not_lt.mpr hlate)
  | run event hcall hidle hactive hwaiting =>
    refine ⟨hdone.known.trans_le hcalls, hwaiting ▸ List.not_mem_nil, fun phase hmem => ?_⟩
    rw [hactive, List.mem_singleton] at hmem
    cases hmem
    exact absurd hdone.known (lt_irrefl _)
  | settle id' result hpending hsettled hwaiting =>
    refine ⟨hdone.known.trans_le hcalls, hwaiting ▸ hdone.waiting, fun phase hmem => ?_⟩
    rw [hsettled, List.mem_singleton] at hmem
    cases hmem
    exact hdone.active .pending (hpending ▸ List.mem_cons_self)
  | last id' hsettled hactive hwaiting hwaiting' =>
    exact ⟨hdone.known.trans_le hcalls, hwaiting' ▸ List.not_mem_nil, fun phase => hactive ▸ List.not_mem_nil⟩
  | next id' next hsettled hactive hwaiting =>
    have hnot := hdone.waiting
    rw [hwaiting, List.mem_cons, not_or] at hnot
    refine ⟨hdone.known.trans_le hcalls, hnot.2, fun phase hmem => ?_⟩
    rw [hactive, List.mem_singleton] at hmem
    cases hmem
    exact hnot.1 rfl

/-- An active task stays so until its next callback has run. -/
lemma At.step {phase : OutgoingPhase} (hat : At id phase s) (h : s.Inv) {event : Event ε α}
    (hstep : s.step event = some s') : At id phase s' ∧ event.isCall = true ∨
      phase = .pending ∧ At id .settled s' ∨ phase = .settled ∧ Done id s' := by
  obtain ⟨hcalls, hmoves⟩ := h.moves hstep
  obtain ⟨-, -, hstarted⟩ := h.active_eq (hat ▸ List.mem_cons_self)
  have hknown : id < s'.calls := ((h.known id).mpr (.inl hstarted)).trans_le hcalls
  rw [At] at hat
  cases hmoves with
  | idle event hcall hactive hwaiting => exact .inl ⟨hactive.trans hat, hcall⟩
  | run event hcall hidle hactive hwaiting =>
    rw [hidle] at hat
    cases hat
  | settle id' result hpending hsettled hwaiting =>
    rw [hpending] at hat
    cases hat
    exact .inr (.inl ⟨rfl, hsettled⟩)
  | last id' hsettled hactive hwaiting hwaiting' =>
    rw [hsettled] at hat
    cases hat
    exact .inr (.inr ⟨rfl, hknown, hwaiting' ▸ List.not_mem_nil, fun phase => hactive ▸ List.not_mem_nil⟩)
  | next id' next hsettled hactive hwaiting =>
    rw [hsettled] at hat
    cases hat
    -- What waits has not been started.
    have hlater := (List.pairwise_append.mp h.sorted).2.2 id hstarted
    rw [hwaiting] at hlater
    refine .inr (.inr ⟨rfl, hknown, fun hmem => ?_, fun phase hmem => ?_⟩)
    · exact absurd (hlater id (List.mem_cons_of_mem _ hmem)) (lt_irrefl id)
    · rw [hactive, List.mem_singleton] at hmem
      cases hmem
      exact absurd (hlater _ List.mem_cons_self) (lt_irrefl _)

/-- The promises of tasks settle, and their callbacks run. -/
structure Fair {kind : Kind} (path : Path (step (ε := ε) (α := α)) (new ε α kind)) : Prop where
  settles : ∀ id, path.Answers (At id .pending) fun event => ∃ result, event = .settle id result
  finishes : ∀ id, path.Answers (At id .settled) fun event => event = .finished id

/-- **A task that has been started comes to an end.** -/
lemma Fair.eventually_done_of_at {kind : Kind} {path : Path (step (ε := ε) (α := α)) (new ε α kind)}
    (hfair : Fair path) {phase : OutgoingPhase} {n : ℕ} (hat : At id phase (path.state n)) :
    path.Eventually (Done id) n := by
  have hsettled : ∀ m, At id .settled (path.state m) → path.Eventually (Done id) m := by
    intro m hm
    refine (hfair.finishes id).eventually hm ?_ ?_
    · intro s event s' hs hs' hstep
      rcases hs'.step (inv_of_reachable hs) hstep with ⟨hsame, -⟩ | ⟨hphase, -⟩ | ⟨-, hdone⟩
      · exact .inl hsame
      · cases hphase
      · exact .inr hdone
    · rintro s _ s' hs hs' rfl hstep
      rcases hs'.step (inv_of_reachable hs) hstep with ⟨-, hcall⟩ | ⟨hphase, -⟩ | ⟨-, hdone⟩
      · cases hcall
      · cases hphase
      · exact hdone
  cases phase with
  | settled => exact hsettled n hat
  | pending =>
    have hnext : path.Eventually (At id .settled) n := by
      refine (hfair.settles id).eventually hat ?_ ?_
      · intro s event s' hs hs' hstep
        rcases hs'.step (inv_of_reachable hs) hstep with ⟨hsame, -⟩ | ⟨-, hnext⟩ | ⟨hphase, -⟩
        · exact .inl hsame
        · exact .inr hnext
        · cases hphase
      · rintro s _ s' hs hs' ⟨result, rfl⟩ hstep
        rcases hs'.step (inv_of_reachable hs) hstep with ⟨-, hcall⟩ | ⟨-, hnext⟩ | ⟨hphase, -⟩
        · cases hcall
        · exact hnext
        · cases hphase
    exact hnext.trans fun m _ hm => hsettled m hm

/-- **Every call comes to an end**: by induction on its number, since a call waits for earlier ones only. -/
lemma Fair.eventually_done {kind : Kind} {path : Path (step (ε := ε) (α := α)) (new ε α kind)}
    (hfair : Fair path) (id n : ℕ) (hknown : id < (path.state n).calls) : path.Eventually (Done id) n := by
  induction id using Nat.strong_induction_on with
  | _ id ih =>
    have hstable : ∀ i s event s', Reachable step (new ε α kind) s → Done i s → step s event = some s' →
        Done i s' := fun i s event s' hs hdone hstep => hdone.step (inv_of_reachable hs) hstep
    refine (Path.Eventually.forall_lt id (fun i hi => ih i hi (hi.trans hknown)) hstable).trans ?_
    intro m hm hearlier
    have hinv := inv_of_reachable (path.reachable m)
    have hknown' : id < (path.state m).calls := by
      refine Path.stable (P := fun s : OutgoingQueue ε α => id < s.calls) ?_ hknown hm
      intro s event s' hs hlt hstep
      exact hlt.trans_le ((inv_of_reachable hs).moves hstep).1
    by_cases hactive : ∃ phase, (id, phase) ∈ (path.state m).active
    · obtain ⟨phase, hmem⟩ := hactive
      exact hfair.eventually_done_of_at (hinv.active_eq hmem).2.1
    · refine ⟨m, le_rfl, hknown', fun hwaiting => ?_, fun phase hmem => hactive ⟨phase, hmem⟩⟩
      -- The task that is active has been called before, and is over.
      rcases hinv.active with ⟨-, first, phase, hfirst, hstarted⟩ | ⟨-, -, hqueue⟩
      · have hlt : first < id := (List.pairwise_append.mp hinv.sorted).2.2 first hstarted id hwaiting
        exact (hearlier first hlt).active phase (hfirst ▸ List.mem_cons_self)
      · rw [waiting, hqueue] at hwaiting
        cases hwaiting

/-! ## The queue is a FIFO with drops -/

/-- What the queue promises about its tasks and its calls. -/
structure Fifo (s : OutgoingQueue ε α) : Prop where
  one : s.active.length ≤ 1
  order : s.started.Pairwise (· < ·)
  once : (s.settlements.map Prod.fst).Nodup
  outcome : ∀ id outcome, (id, outcome) ∈ s.settlements ↔
    (id ∈ s.dropped ∧ outcome = .ok none) ∨ ∃ result, (id, result) ∈ s.results ∧ outcome = settlement result
  ran : ∀ id result, (id, result) ∈ s.results → id ∈ s.started
  dropped : ∀ id ∈ s.dropped, id ∉ s.started
  running : s.running = false ↔ s.active = [] ∧ s.queue = []

lemma Inv.fifo (h : s.Inv) : s.Fifo where
  one := by
    rcases h.active with ⟨-, id, phase, hactive, -⟩ | ⟨-, hactive, -⟩
    · rw [hactive, List.length_singleton]
    · rw [hactive]
      exact Nat.zero_le 1
  order := (List.pairwise_append.mp h.sorted).1
  once := h.once
  outcome := h.settlements
  ran := fun id result hresult => ((h.results id).mp ⟨result, hresult⟩).1
  dropped := fun id hid => (h.dropped id hid).1
  running := by
    rcases h.active with ⟨hrunning, id, phase, hactive, -⟩ | ⟨hrunning, hactive, hqueue⟩
    · rw [hrunning, hactive]
      exact ⟨nofun, fun hidle => nomatch hidle.1⟩
    · exact ⟨fun _ => ⟨hactive, hqueue⟩, fun _ => hrunning⟩

lemma Inv.withinCaps_enqueue (h : s.Inv) (item : OutgoingMeta) (enqueuedAtMs now : ℕ) :
    (s.enqueue item true enqueuedAtMs now).WithinCaps now := by
  rw [OutgoingQueue.enqueue]
  dsimp only
  split_ifs with hrunning
  · rw [trim, if_pos rfl]
    exact withinCaps_of_overLimit (overLimit_trimLoop _ le_rfl)
  · obtain ⟨-, -, hqueue⟩ := h.active.resolve_left fun hbusy => hrunning hbusy.1
    exact withinCaps_of_overLimit (overLimit_nil hqueue)

/-- **The queue**: in every state it is a FIFO with drops, it is within its caps after a call of `enqueue`
while it is bounded, and every call is settled if the promises of the tasks settle. -/
theorem queue_fifo (ε α : Type*) (kind : Kind) :
    (∀ s, Reachable step (new ε α kind) s →
      s.Fifo ∧ ∀ item enqueuedAtMs now, (s.enqueue item true enqueuedAtMs now).WithinCaps now) ∧
    ∀ path : Path step (new ε α kind), Fair path → ∀ id n, id < (path.state n).calls →
      path.Eventually (fun s => id ∈ s.settlements.map Prod.fst) n := by
  refine ⟨fun s hs => ?_, fun path hfair id n hknown => ?_⟩
  · have hinv := inv_of_reachable hs
    exact ⟨hinv.fifo, hinv.withinCaps_enqueue⟩
  · obtain ⟨m, hm, hdone⟩ := hfair.eventually_done id n hknown
    exact ⟨m, hm, hdone.settled (inv_of_reachable (path.reachable m))⟩

/-- A video packet of 1200 bytes. -/
def videoPacket : OutgoingMeta := { kind := .media, bytes := 1200, sourceEpoch := some 1 }

/-- The states of a queue with one call. -/
def oneCallStates : ℕ → OutgoingQueue Unit ℕ
  | 0 => new Unit ℕ .video
  | 1 => (new Unit ℕ .video).enqueue videoPacket true 0 0
  | 2 => ((new Unit ℕ .video).enqueue videoPacket true 0 0).settleTask 0 (.ok 7)
  | _ + 3 => (((new Unit ℕ .video).enqueue videoPacket true 0 0).settleTask 0 (.ok 7)).finishTask 0

/-- A task that is called, settles and is finished. -/
def oneCall : Path step (new Unit ℕ .video) where
  state := oneCallStates
  event
    | 0 => some (.enqueue videoPacket true 0 0)
    | 1 => some (.settle 0 (.ok 7))
    | 2 => some (.finished 0)
    | _ + 3 => none
  start := rfl
  next
    | 0 => rfl
    | 1 => rfl
    | 2 => rfl
    | _ + 3 => rfl

theorem queue_fifo_oneCall :
    Fifo (oneCallStates 2) ∧
      oneCall.Eventually (fun s => 0 ∈ s.settlements.map Prod.fst) 1 := by
  have h := queue_fifo Unit ℕ .video
  refine ⟨(h.1 _ (oneCall.reachable 2)).1,
    h.2 oneCall ⟨fun id n hat => ?_, fun id n hat => ?_⟩ 0 1 (by decide)⟩
  · match n, hat with
    | 0, hat => cases hat
    | 1, hat =>
      cases hat
      exact ⟨1, _, le_rfl, rfl, _, rfl⟩
    | 2, hat => cases hat
    | _ + 3, hat => cases hat
  · match n, hat with
    | 0, hat => cases hat
    | 1, hat => cases hat
    | 2, hat =>
      cases hat
      exact ⟨2, _, le_rfl, rfl, rfl⟩
    | _ + 3, hat => cases hat

/-- Between the two callbacks of its last task, no task runs and none waits, but the queue is running. -/
theorem not_running_settled :
    ¬ ∀ s, Reachable step (new Unit ℕ .video) s →
      (s.running = false ↔ (∀ id, (id, .pending) ∉ s.active) ∧ s.queue = []) := by
  intro h
  have hrunning := (h _ (oneCall.reachable 2)).mpr
    ⟨fun id hmem => (nomatch List.mem_singleton.mp hmem), rfl⟩
  cases hrunning

end OutgoingQueue

end Werift.Webrtc
