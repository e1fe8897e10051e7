import Werift.Lib.Epochs

/-!
# A queue of promises (`PQueue` in `ice/src/helper.ts`)

A `get` of an empty queue subscribes to the event `wait` and never unsubscribes.  A `put` on an empty
queue executes the event, so that every `get` that has ever waited takes an element off the queue and
resolves its promise, if it is not resolved yet.  `Fifo` says what a queue is; `fifo_iff` says which calls
keep a `PQueue` one.
-/

namespace Werift.Ice

/-- A `PQueue`.  The calls of `get` are numbered: `wait` has those that have subscribed, and `results` what
the promise of each has been resolved with.  `puts` records what has been put and is never read. -/
structure PQueue (α : Type*) where
  queue : List α := []
  wait : List ℕ := []
  results : List (Option α) := []
  puts : List α := []

/-- A call. -/
inductive PQueueCall (α : Type*)
  | put (v : α)
  | get

namespace PQueue

variable {α : Type*}

/-- The subscriber of the `n`-th `get`.  Resolving a promise again has no effect. -/
def wake (v : α) (s : PQueue α) (n : ℕ) : PQueue α :=
  { s with queue := s.queue.tail, results := s.results.modify n fun result => result.or (some v) }

/-- `put(v)`. -/
def put (s : PQueue α) (v : α) : PQueue α :=
  let s := { s with queue := s.queue ++ [v], puts := s.puts ++ [v] }
  if s.queue.length = 1 then s.wait.foldl (wake v) s else s

/-- `get()`. -/
def get (s : PQueue α) : PQueue α :=
  match s.queue with
  | v :: queue => { s with queue, results := s.results ++ [some v] }
  | [] => { s with wait := s.wait ++ [s.results.length], results := s.results ++ [none] }

/-- The state after a call. -/
def step (s : PQueue α) : PQueueCall α → PQueue α
  | .put v => s.put v
  | .get => s.get

/-- The state after some calls. -/
def run (calls : List (PQueueCall α)) : PQueue α := calls.foldl step {}

/-- **A queue.**  The `n`-th `get` is resolved with what was put `n`-th, if that has been put, and the
other things that have been put are still in the queue. -/
structure Fifo (s : PQueue α) : Prop where
  results : ∀ (n : ℕ) (result : Option α), s.results[n]? = some result → result = s.puts[n]?
  queue : s.queue = s.puts.drop s.results.length

/-- A call that does no harm: if something is put on an empty queue, and some `get` has ever waited, then
exactly one is waiting. -/
def Orderly (s : PQueue α) : PQueueCall α → Prop
  | .put _ => s.queue = [] → s.wait = [] ∨ ∃! n : ℕ, s.results[n]? = some none
  | .get => True

/-- The calls of `get` that wait have subscribed. -/
def Subscribed (s : PQueue α) : Prop := ∀ n : ℕ, s.results[n]? = some none → n ∈ s.wait

variable {s : PQueue α} {v : α}

/-! ## The subscribers -/

lemma wake_all (wait : List ℕ) : (wait.foldl (wake v) s).queue = s.queue.drop wait.length ∧
    (wait.foldl (wake v) s).wait = s.wait ∧ (wait.foldl (wake v) s).puts = s.puts := by
  induction wait generalizing s with
  | nil => exact ⟨rfl, rfl, rfl⟩
  | cons n wait ih =>
    obtain ⟨hqueue, hwait, hputs⟩ := @ih (wake v s n)
    rw [List.foldl_cons, hqueue, hwait, hputs, List.length_cons]
    exact ⟨List.drop_tail .., rfl, rfl⟩

/-- What the promises are resolved with when all subscribers have run. -/
lemma getElem?_wake_all (wait : List ℕ) (n : ℕ) : (wait.foldl (wake v) s).results[n]? =
    s.results[n]?.map fun result => if n ∈ wait then result.or (some v) else result := by
  induction wait generalizing s with
  | nil => simp
  | cons m wait ih =>
    rw [List.foldl_cons, ih]
    change ((s.results.modify m fun result => result.or (some v))[n]?).map _ = _
    rw [List.getElem?_modify, Option.map_eq_map, Option.map_map]
    congr 1
    funext result
    by_cases hm : m = n
    · subst hm
      cases result <;> simp
    · have hn : n ≠ m := fun h => hm h.symm
      simp [hm, hn]

lemma length_wake_all (wait : List ℕ) :
    (wait.foldl (wake v) s).results.length = s.results.length := by
  induction wait generalizing s with
  | nil => rfl
  | cons n wait ih =>
    rw [List.foldl_cons, ih]
    exact List.length_modify ..

/-! ## Calls -/

/-- A `get` of a queue waits if not enough has been put. -/
lemma Fifo.waiting (h : Fifo s) {n : ℕ} :
    s.results[n]? = some none ↔ s.puts.length ≤ n ∧ n < s.results.length := by
  constructor
  · intro hn
    have hputs := h.results n none hn
    exact ⟨List.getElem?_eq_none_iff.mp hputs.symm, (List.getElem?_eq_some_iff.mp hn).1⟩
  · rintro ⟨hputs, hresults⟩
    have hn := h.results n _ (List.getElem?_eq_getElem hresults)
    rw [List.getElem?_eq_getElem hresults, hn, List.getElem?_eq_none hputs]

lemma Fifo.exists_unique_waiting (h : Fifo s) :
    (∃! n : ℕ, s.results[n]? = some none) ↔ s.results.length = s.puts.length + 1 := by
  simp only [h.waiting]
  constructor
  · rintro ⟨n, ⟨hn, hlt⟩, hunique⟩
    have hfirst := hunique s.puts.length ⟨le_rfl, by omega⟩
    by_contra hne
    have hsecond := hunique (s.puts.length + 1) ⟨by omega, by omega⟩
    omega
  · intro heq
    exact ⟨s.puts.length, ⟨le_rfl, by omega⟩, fun n hn => by omega⟩

lemma fifo_get (h : Fifo s) : Fifo s.get := by
  unfold get
  cases hqueue : s.queue with
  | nil =>
    have hlength : s.puts.length ≤ s.results.length :=
      List.drop_eq_nil_iff.mp (h.queue.symm.trans hqueue)
    refine ⟨fun n result hn => ?_, ?_⟩
    · rcases Epochs.getElem?_concat hn with ⟨-, hn⟩ | ⟨rfl, rfl⟩
      · exact h.results n result hn
      · exact (List.getElem?_eq_none hlength).symm
    · change [] = s.puts.drop (s.results ++ [none]).length
      rw [List.drop_eq_nil_of_le]
      exact hlength.trans (by simp)
  | cons v queue =>
    have hdrop : s.puts.drop s.results.length = v :: queue := h.queue.symm.trans hqueue
    refine ⟨fun n result hn => ?_, ?_⟩
    · rcases Epochs.getElem?_concat hn with ⟨-, hn⟩ | ⟨rfl, rfl⟩
      · exact h.results n result hn
      · change some v = s.puts[s.results.length]?
        rw [← List.head?_drop, hdrop, List.head?_cons]
    · change queue = s.puts.drop (s.results ++ [some v]).length
      rw [List.length_append, List.length_singleton, ← List.drop_drop, hdrop, List.drop_one,
        List.tail_cons]

/-- Putting something on a queue that is not empty. -/
lemma fifo_put_of_ne_nil (h : Fifo s) (hqueue : s.queue ≠ []) : Fifo (s.put v) := by
  have hlength : s.results.length < s.puts.length := by
    rw [h.queue, Ne, List.drop_eq_nil_iff] at hqueue
    omega
  have hmore : ¬ (s.queue ++ [v]).length = 1 := by
    have hpos := List.length_pos_iff.mpr hqueue
    rw [List.length_append, List.length_singleton]
    omega
  rw [put, if_neg hmore]
  refine ⟨fun n result hn => ?_, ?_⟩
  · have hlt : n < s.results.length := (List.getElem?_eq_some_iff.mp hn).1
    rw [List.getElem?_append_left (by omega)]
    exact h.results n result hn
  · change s.queue ++ [v] = (s.puts ++ [v]).drop s.results.length
    rw [List.drop_append_of_le_length hlength.le, ← h.queue]

/-- Putting something on an empty queue: what there is afterwards. -/
lemma put_of_nil (hqueue : s.queue = []) : (s.put v).queue = [v].drop s.wait.length ∧
    (s.put v).puts = s.puts ++ [v] ∧ (s.put v).results.length = s.results.length ∧
    ∀ n : ℕ, (s.put v).results[n]? =
      s.results[n]?.map fun result => if n ∈ s.wait then result.or (some v) else result := by
  have hone : (s.queue ++ [v]).length = 1 := by rw [hqueue]; rfl
  rw [put, if_pos hone]
  have hall := @wake_all α { s with queue := s.queue ++ [v], puts := s.puts ++ [v] } v s.wait
  refine ⟨?_, hall.2.2, length_wake_all _, fun n => getElem?_wake_all _ n⟩
  rw [hall.1, hqueue]
  rfl

/-- **Putting something on an empty queue** keeps it a queue exactly if no `get` has ever waited, or one is
waiting. -/
lemma fifo_put_of_nil (h : Fifo s) (hsub : Subscribed s) (hqueue : s.queue = []) :
    Fifo (s.put v) ↔ s.wait = [] ∨ ∃! n : ℕ, s.results[n]? = some none := by
  obtain ⟨hqueue', hputs', hlength', hresults'⟩ := @put_of_nil α s v hqueue
  have hlength : s.puts.length ≤ s.results.length :=
    List.drop_eq_nil_iff.mp (h.queue.symm.trans hqueue)
  rw [h.exists_unique_waiting]
  cases hwait : s.wait with
  | nil =>
    -- nobody has ever waited, so that there have been as many calls of `get` as of `put`
    have hsame : s.results.length = s.puts.length := by
      by_contra hne
      have hwaiting := hsub s.puts.length (h.waiting.mpr ⟨le_rfl, by omega⟩)
      rw [hwait] at hwaiting
      exact List.not_mem_nil hwaiting
    refine iff_of_true ⟨fun n result hn => ?_, ?_⟩ (Or.inl rfl)
    · rw [hresults', hwait] at hn
      obtain ⟨before, hbefore, rfl⟩ := Option.map_eq_some_iff.mp hn
      have hlt : n < s.results.length := (List.getElem?_eq_some_iff.mp hbefore).1
      rw [hputs', List.getElem?_append_left (by omega), if_neg List.not_mem_nil]
      exact h.results n before hbefore
    · rw [hqueue', hputs', hlength', hsame, List.drop_left, hwait]
      rfl
  | cons m wait =>
    have hqueue' : (s.put v).queue = [] := by
      rw [hqueue', hwait]
      simp
    have hpending (n : ℕ) (hn : s.results[n]? = some none) : (s.put v).results[n]? = some (some v) := by
      rw [hresults', hn, Option.map_some, if_pos (hsub n hn)]
      rfl
    have hresolved (n : ℕ) (x : α) (hn : s.results[n]? = some (some x)) :
        (s.put v).results[n]? = some (some x) := by
      rw [hresults', hn, Option.map_some]
      split_ifs <;> rfl
    simp only [reduceCtorEq, false_or]
    constructor
    · intro hfifo
      have hall : (s.puts ++ [v]).length ≤ s.results.length := by
        have hdrop := hfifo.queue
        rw [hqueue', hputs', hlength'] at hdrop
        exact List.drop_eq_nil_iff.mp hdrop.symm
      rw [List.length_append, List.length_singleton] at hall
      by_contra hne
      have hsecond := hfifo.results (s.puts.length + 1) _
        (hpending _ (h.waiting.mpr ⟨by omega, by omega⟩))
      rw [hputs', List.getElem?_eq_none (by simp)] at hsecond
      cases hsecond
    · intro hone
      refine ⟨fun n result hn => ?_, ?_⟩
      · have hlt : n < s.results.length := hlength' ▸ (List.getElem?_eq_some_iff.mp hn).1
        rw [hputs']
        rcases Nat.lt_or_ge n s.puts.length with hold | hnew
        · have hgot := h.results n _ (List.getElem?_eq_getElem hlt)
          rw [List.getElem?_eq_getElem hold] at hgot
          rw [hresolved n _ ((List.getElem?_eq_getElem hlt).trans (congrArg some hgot))] at hn
          rw [List.getElem?_append_left hold, List.getElem?_eq_getElem hold]
          exact (Option.some.inj hn).symm
        · obtain rfl : n = s.puts.length := by omega
          rw [hpending _ (h.waiting.mpr ⟨le_rfl, hlt⟩)] at hn
          rw [List.getElem?_concat_length]
          exact (Option.some.inj hn).symm
      · rw [hqueue', hputs', hlength', hone, List.drop_eq_nil_of_le (by simp)]

lemma fifo_step (h : Fifo s) (hsub : Subscribed s) (call : PQueueCall α) :
    Fifo (s.step call) ↔ Orderly s call := by
  cases call with
  | get => exact iff_of_true (fifo_get h) trivial
  | put v =>
    by_cases hqueue : s.queue = []
    · exact (fifo_put_of_nil h hsub hqueue).trans ⟨fun h _ => h, fun h => h hqueue⟩
    · exact iff_of_true (fifo_put_of_ne_nil h hqueue) fun hnil => absurd hnil hqueue

/-- The calls of `get` that wait have always subscribed. -/
lemma Subscribed.step (hsub : Subscribed s) (call : PQueueCall α) : Subscribed (s.step call) := by
  intro n hn
  cases call with
  | get =>
    change s.get.results[n]? = some none at hn
    change n ∈ s.get.wait
    unfold get at hn ⊢
    cases hqueue : s.queue with
    | nil =>
      rw [hqueue] at hn
      rcases Epochs.getElem?_concat hn with ⟨-, hn⟩ | ⟨rfl, -⟩
      · exact List.mem_append_left _ (hsub n hn)
      · exact List.mem_append_right _ (List.mem_singleton_self _)
    | cons v queue =>
      rw [hqueue] at hn
      rcases Epochs.getElem?_concat hn with ⟨-, hn⟩ | ⟨-, hnone⟩
      · exact hsub n hn
      · cases hnone
  | put v =>
    change (s.put v).results[n]? = some none at hn
    change n ∈ (s.put v).wait
    unfold put at hn ⊢
    dsimp only at hn ⊢
    split_ifs at hn ⊢
    · rw [getElem?_wake_all] at hn
      rw [(wake_all _).2.1]
      obtain ⟨result, hresult, hn⟩ := Option.map_eq_some_iff.mp hn
      by_contra hmem
      rw [if_neg hmem] at hn
      exact hmem (hsub n (hresult.trans (congrArg some hn)))
    · exact hsub n hn

lemma subscribed_run (calls : List (PQueueCall α)) : Subscribed (run calls) := by
  induction calls using List.reverseRecOn with
  | nil => exact fun n hn => absurd hn (by simp [run])
  | append_singleton calls call ih =>
    rw [run, List.foldl_append]
    exact ih.step call

/-- **When a `PQueue` is a queue.**  After every call of a sequence it is one exactly if every call is
orderly where it happens. -/
theorem fifo_iff (calls : List (PQueueCall α)) :
    (∀ k ≤ calls.length, Fifo (run (calls.take k))) ↔
      ∀ (k : ℕ) (call : PQueueCall α), calls[k]? = some call → Orderly (run (calls.take k)) call := by
  have hnext {k : ℕ} {call : PQueueCall α} (hcall : calls[k]? = some call) :
      run (calls.take (k + 1)) = (run (calls.take k)).step call := by
    rw [List.take_add_one, hcall, run, List.foldl_append]
    rfl
  constructor
  · intro hfifo k call hcall
    have hk : k < calls.length := (List.getElem?_eq_some_iff.mp hcall).1
    have hafter := hfifo (k + 1) hk
    rw [hnext hcall] at hafter
    exact (fifo_step (hfifo k hk.le) (subscribed_run _) call).mp hafter
  · intro horderly k hk
    induction k with
    | zero => exact ⟨fun n result hn => absurd hn (by simp [run]), rfl⟩
    | succ k ih =>
      have hcall := List.getElem?_eq_getElem hk
      rw [hnext hcall]
      exact (fifo_step (ih (Nat.le_of_succ_le hk)) (subscribed_run _) _).mpr (horderly k _ hcall)

/-- Two waiting calls of `get` get the same thing, and what is put behind a `get` that has waited gets
lost. -/
theorem not_fifo : ¬ Fifo (run [.get, .get, .put 1]) ∧
    (run [.get, .get, .put 1]).results = [some 1, some 1] ∧
    ¬ Fifo (run [.get, .put 1, .put 2]) ∧
    (run [.get, .put 1, .put 2, .get, .put 3]).results = [some 1, some 3] := by
  refine ⟨fun h => ?_, rfl, fun h => ?_, rfl⟩
  · exact absurd (h.results 1 (some 1) rfl) nofun
  · exact absurd h.queue nofun

end PQueue

end Werift.Ice
