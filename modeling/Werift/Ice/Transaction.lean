import Werift.Turn.Client

/-!
# A STUN transaction (`ice/src/stun/transaction.ts`, `common/src/event.ts`)

`run` sends a request again and again, with a timer that doubles, until its promise is settled: by a response, by
the last timer, by an abort or a cancellation, or by a send that fails.  The continuations of `retry` and of `run`
are events of their own; a timer does not expire while one of `run` is queued, because microtasks run before timers.
-/

namespace Werift.Ice

open Stun Turn

/-- The fields of a `Transaction` that do not change. -/
structure TransactionSettings where
  triesMax : ℕ
  rto : ℕ
  failOnSendError : Bool
  signal : Bool
  response : Turn.Transaction
  triesMax_pos : 0 < triesMax

/-- With what the promise of `run` is resolved or rejected. -/
inductive Settlement
  | resolved (message : Message) (addr : Address)
  | nothing
  | failed (message : Message) (addr : Address)
  | timeout
  | cancelled
  | sendError

/-- A `Transaction`: `listening` and `completed` are about the event `onResponse`, `timer` is the delay of the timer
that runs, `resumed` and `finished` are about the continuations of `retry` and of `run`, and `sent`, `waits` and
`settlements` record what has been done. -/
structure Transaction where
  timeoutDelay : ℕ
  tries : ℕ := 0
  ended : Bool := false
  listening : Bool := false
  completed : Bool := false
  timer : Option ℕ := none
  resumed : Bool := false
  aborted : Bool := false
  onAbort : Bool := false
  finished : Bool := false
  pendingSends : ℕ := 0
  sent : ℕ := 0
  waits : List ℕ := []
  settlements : List Settlement := []

namespace Transaction

/-! ## The event `onResponse` -/

/-- `onResponse.execute(message, addr)`. -/
def execute (t : Transaction) (message : Message) (addr : Address) : Transaction :=
  if t.completed then t
  else if t.listening then
    { t with listening := false, settlements := t.settlements ++ [.resolved message addr] }
  else t

/-- `onResponse.complete()`. -/
def complete (t : Transaction) : Transaction :=
  if t.completed then t
  else if t.listening then
    { t with listening := false, completed := true, settlements := t.settlements ++ [.nothing] }
  else { t with completed := true }

/-- `onResponse.error(e)`. -/
def error (t : Transaction) (e : Settlement) : Transaction :=
  if t.completed then t
  else if t.listening then { t with listening := false, settlements := t.settlements ++ [e] }
  else t

/-! ## The end -/

/-- `clearWait()`. -/
def clearWait (t : Transaction) : Transaction := { t with timer := none, resumed := t.resumed || t.timer.isSome }

/-- `fail(error)`. -/
def fail (t : Transaction) (e : Settlement) : Transaction :=
  if t.ended then t
  else
    let t := { t with ended := true }.clearWait
    if t.listening then t.error e else t

/-- `cancel()`. -/
def cancel (t : Transaction) : Transaction :=
  let t := t.fail .cancelled
  let t := { t with ended := true }.clearWait
  { t with onAbort := false }

/-! ## The loop -/

/-- `wait(ms)` for the current delay. -/
def wait (t : Transaction) : Transaction :=
  if t.ended ∨ t.aborted then { t with resumed := true }
  else { t with timer := some t.timeoutDelay, waits := t.waits ++ [t.timeoutDelay] }

section

variable (settings : TransactionSettings)

/-- `retry`, from the condition of the loop to the next wait or to the end. -/
def retry (t : Transaction) : Transaction :=
  if t.tries < settings.triesMax ∧ ¬t.ended then
    { t with sent := t.sent + 1, pendingSends := t.pendingSends + 1 }.wait
  else if settings.triesMax ≤ t.tries ∧ ¬t.ended then t.fail .timeout
  else t

/-- `retry` behind the wait. -/
def continueRetry (t : Transaction) : Transaction :=
  if t.ended then t
  else { t with timeoutDelay := t.timeoutDelay * 2, tries := t.tries + 1 }.retry settings

/-- `run()` up to where it waits, and to its end if the signal has been aborted. -/
def run (aborted : Bool) : Transaction :=
  let aborted := settings.signal && aborted
  let t : Transaction := { timeoutDelay := settings.rto, aborted }
  if aborted then { t with settlements := [.timeout], finished := true }.cancel
  else { { t with onAbort := settings.signal }.retry settings with listening := true }

/-! ## What happens -/

/-- `responseReceived(message, addr)`. -/
def responseReceived (canonicalHost : String → String) (t : Transaction) (message : Message) (addr : Address) :
    Transaction :=
  if t.ended || !t.listening then t
  else
    match TurnProtocol.responseReceived canonicalHost settings.response message addr with
    | none => t
    | some (.completed message) => (t.execute message addr).complete
    | some (.failed message) => t.error (.failed message addr)

/-- What happens to a transaction. -/
inductive Event
  /-- The timer expires. -/
  | expire
  /-- `retry` goes on because `wait` has been ended. -/
  | resume
  /-- `run` goes on because its promise is settled. -/
  | finish
  | received (message : Message) (addr : Address)
  /-- The promise of a `sendStun` is settled. -/
  | sendSettled (rejected : Bool)
  | abort
  | cancel

/-- One event, if it can happen. -/
def step (canonicalHost : String → String) (t : Transaction) : Event → Option Transaction
  | .expire =>
    if t.timer.isSome ∧ (t.settlements = [] ∨ t.finished) then
      some ({ t with timer := none }.continueRetry settings)
    else none
  | .resume => if t.resumed then some ({ t with resumed := false }.continueRetry settings) else none
  | .finish => if t.settlements ≠ [] ∧ ¬t.finished then some { t.cancel with finished := true } else none
  | .received message addr => some (t.responseReceived settings canonicalHost message addr)
  | .sendSettled rejected =>
    if 0 < t.pendingSends then
      let t := { t with pendingSends := t.pendingSends - 1 }
      some (if rejected ∧ settings.failOnSendError then t.fail .sendError else t)
    else none
  | .abort =>
    if settings.signal ∧ ¬t.aborted then
      let t := { t with aborted := true }
      some (if t.onAbort then { t with onAbort := false }.fail .timeout else t)
    else none
  | .cancel => some t.cancel

end

/-! ## Reasons -/

variable {settings : TransactionSettings} {aborted : Bool} {canonicalHost : String → String} {t t' : Transaction}
  {events : List Event} {event : Event} {s e : Settlement} {message : Message} {addr : Address}

/-- How often the timer has expired. -/
def expiries (events : List Event) : ℕ :=
  events.countP fun
    | .expire => true
    | _ => false

/-- A message that is accepted: it comes from the address to which the request goes, and has an integrity if one is
required. -/
structure Accepted (settings : TransactionSettings) (canonicalHost : String → String) (message : Message)
    (addr : Address) : Prop where
  address : addressEquals canonicalHost settings.response.expectedAddr addr
  integrity : settings.response.integrityKey.isSome → TurnProtocol.hasIntegrity message

/-- **The right reason** for a settlement. -/
def Caused (settings : TransactionSettings) (canonicalHost : String → String) (aborted : Bool)
    (events : List Event) : Settlement → Prop
  | .resolved message addr => .received message addr ∈ events ∧ Accepted settings canonicalHost message addr ∧
      message.messageClass = classes.RESPONSE
  | .failed message addr => .received message addr ∈ events ∧ Accepted settings canonicalHost message addr ∧
      message.messageClass ≠ classes.RESPONSE
  | .timeout => aborted ∨ .abort ∈ events ∨ settings.triesMax ≤ expiries events
  | .cancelled => .cancel ∈ events
  | .sendError => settings.failOnSendError ∧ .sendSettled true ∈ events
  | .nothing => False

/-- The delays of the timers double. -/
def doubling (settings : TransactionSettings) (n : ℕ) : List ℕ := (List.range n).map fun i => settings.rto * 2 ^ i

/-- A transaction that waits: the timer of the last send runs. -/
structure Waiting (settings : TransactionSettings) (events : List Event) (t : Transaction) : Prop where
  settlements : t.settlements = []
  listening : t.listening = true
  completed : t.completed = false
  ended : t.ended = false
  finished : t.finished = false
  aborted : t.aborted = false
  onAbort : t.onAbort = settings.signal
  resumed : t.resumed = false
  tries : t.tries < settings.triesMax
  timeoutDelay : t.timeoutDelay = settings.rto * 2 ^ t.tries
  timer : t.timer = some t.timeoutDelay
  sent : t.sent = t.tries + 1
  waits : t.waits = doubling settings t.sent
  expiries : expiries events = t.tries

/-- A transaction whose promise is settled: nothing is sent any more. -/
structure Settled (settings : TransactionSettings) (s : Settlement) (t : Transaction) : Prop where
  settlements : t.settlements = [s]
  listening : t.listening = false
  timer : t.ended → t.timer = none
  finished : t.finished → t.ended
  resumed : t.resumed → t.ended
  sent : t.sent ≤ settings.triesMax
  waits : t.waits = doubling settings t.sent

/-- A transaction waits, or its promise is settled for a reason. -/
inductive Sound (settings : TransactionSettings) (canonicalHost : String → String) (aborted : Bool)
    (events : List Event) (t : Transaction) : Prop
  | waiting (h : Waiting settings events t)
  | settled (s : Settlement) (h : Settled settings s t) (hcaused : Caused settings canonicalHost aborted events s)

lemma expiries_append_singleton (events : List Event) (event : Event) :
    expiries (events ++ [event]) = expiries events + expiries [event] := List.countP_append

/-- A reason stays one. -/
lemma Caused.append (h : Caused settings canonicalHost aborted events s) :
    Caused settings canonicalHost aborted (events ++ [event]) s := by
  cases s with
  | resolved message addr => exact ⟨List.mem_append_left _ h.1, h.2⟩
  | failed message addr => exact ⟨List.mem_append_left _ h.1, h.2⟩
  | timeout =>
    obtain haborted | habort | hexpiries := h
    · exact .inl haborted
    · exact .inr (.inl (List.mem_append_left _ habort))
    · refine .inr (.inr (hexpiries.trans ?_))
      rw [expiries_append_singleton]
      exact Nat.le_add_right _ _
  | cancelled => exact List.mem_append_left _ h
  | sendError => exact ⟨h.1, List.mem_append_left _ h.2⟩
  | nothing => exact h

/-! ## A settled transaction stays as it is -/

lemma sent_error : (t.error e).sent = t.sent := by
  unfold error
  split_ifs <;> rfl

lemma sent_fail : (t.fail e).sent = t.sent := by
  unfold fail
  by_cases hended : t.ended
  · rw [if_pos hended]
  · rw [if_neg hended]
    dsimp only
    split_ifs
    · exact sent_error
    · rfl

lemma sent_cancel : t.cancel.sent = t.sent := sent_fail (t := t)

/-- The continuation of `retry` does nothing at the end. -/
lemma continueRetry_of_ended (h : t.ended) : t.continueRetry settings = t := if_pos h

namespace Settled

lemma fail (h : Settled settings s t) : Settled settings s (t.fail e) := by
  unfold Transaction.fail
  by_cases hended : t.ended
  · rw [if_pos hended]
    exact h
  · rw [if_neg hended]
    have hlistening : ({ t with ended := true }.clearWait).listening = false := h.listening
    simp only [hlistening]
    exact ⟨h.settlements, h.listening, fun _ => rfl, fun _ => rfl, fun _ => rfl, h.sent, h.waits⟩

/-- The last steps of `cancel`. -/
lemma stop (h : Settled settings s t) :
    Settled settings s { { t with ended := true }.clearWait with onAbort := false } :=
  ⟨h.settlements, h.listening, fun _ => rfl, fun _ => rfl, fun _ => rfl, h.sent, h.waits⟩

lemma cancel (h : Settled settings s t) : Settled settings s t.cancel := h.fail.stop

/-- **No event** settles the promise again or sends the request again. -/
lemma step (h : Settled settings s t) (hstep : step settings canonicalHost t event = some t') :
    Settled settings s t' ∧ t'.sent = t.sent := by
  cases event with
  | expire =>
    -- the timer of a transaction that goes on to its end has been cleared, and else `run` goes on first
    obtain ⟨⟨htimer, hfinished⟩, -⟩ := Option.ite_none_right_eq_some.mp hstep
    rw [h.settlements] at hfinished
    obtain hnil | hfinished := hfinished
    · exact absurd hnil (List.cons_ne_nil _ _)
    · rw [h.timer (h.finished hfinished)] at htimer
      cases htimer
  | resume =>
    obtain ⟨hresumed, hstep⟩ := Option.ite_none_right_eq_some.mp hstep
    have hended := h.resumed hresumed
    rw [continueRetry_of_ended (t := { t with resumed := false }) hended] at hstep
    obtain rfl := Option.some.inj hstep
    exact ⟨⟨h.settlements, h.listening, h.timer, h.finished, fun _ => hended, h.sent, h.waits⟩, rfl⟩
  | finish =>
    obtain ⟨-, hstep⟩ := Option.ite_none_right_eq_some.mp hstep
    obtain rfl := Option.some.inj hstep
    have hcancel := h.cancel
    exact ⟨⟨hcancel.settlements, hcancel.listening, hcancel.timer, fun _ => rfl, hcancel.resumed, hcancel.sent,
      hcancel.waits⟩, sent_cancel⟩
  | received message addr =>
    have hsame : t.responseReceived settings canonicalHost message addr = t := by
      unfold responseReceived
      rw [h.listening, Bool.not_false, Bool.or_true, if_pos rfl]
    obtain rfl := (Option.some.inj hstep).symm.trans hsame
    exact ⟨h, rfl⟩
  | sendSettled rejected =>
    obtain ⟨-, hstep⟩ := Option.ite_none_right_eq_some.mp hstep
    obtain rfl := Option.some.inj hstep
    have hless : Settled settings s { t with pendingSends := t.pendingSends - 1 } :=
      ⟨h.settlements, h.listening, h.timer, h.finished, h.resumed, h.sent, h.waits⟩
    split_ifs
    · exact ⟨hless.fail, sent_fail⟩
    · exact ⟨hless, rfl⟩
  | abort =>
    obtain ⟨-, hstep⟩ := Option.ite_none_right_eq_some.mp hstep
    obtain rfl := Option.some.inj hstep
    split_ifs
    · have hoff : Settled settings s { t with aborted := true, onAbort := false } :=
        ⟨h.settlements, h.listening, h.timer, h.finished, h.resumed, h.sent, h.waits⟩
      exact ⟨hoff.fail, sent_fail⟩
    · exact ⟨⟨h.settlements, h.listening, h.timer, h.finished, h.resumed, h.sent, h.waits⟩, rfl⟩
  | cancel =>
    obtain rfl := Option.some.inj hstep
    exact ⟨h.cancel, sent_cancel⟩

end Settled

/-! ## A waiting transaction -/

/-- A failure settles the promise while it is waited for. -/
lemma settled_fail (hended : t.ended = false) (hlistening : t.listening = true) (hcompleted : t.completed = false)
    (hsettlements : t.settlements = []) (hsent : t.sent ≤ settings.triesMax)
    (hwaits : t.waits = doubling settings t.sent) : Settled settings e (t.fail e) := by
  unfold fail
  have hlistening' : ({ t with ended := true }.clearWait).listening = true := hlistening
  have hcompleted' : ({ t with ended := true }.clearWait).completed = false := hcompleted
  rw [if_neg (by rw [hended]; decide)]
  simp only [hlistening', error, hcompleted']
  refine ⟨?_, rfl, fun _ => rfl, fun _ => rfl, fun _ => rfl, hsent, hwaits⟩
  change t.settlements ++ [e] = [e]
  rw [hsettlements]
  rfl

namespace Waiting

lemma sent_le (h : Waiting settings events t) : t.sent ≤ settings.triesMax := by
  rw [h.sent]
  exact h.tries

lemma fail (h : Waiting settings events t) : Settled settings e (t.fail e) :=
  settled_fail h.ended h.listening h.completed h.settlements h.sent_le h.waits

lemma cancel (h : Waiting settings events t) : Settled settings .cancelled t.cancel := h.fail.stop

/-- The next send, or the end behind the last one. -/
lemma expire (h : Waiting settings events t) (hstep : step settings canonicalHost t .expire = some t') :
    Sound settings canonicalHost aborted (events ++ [.expire]) t' := by
  have hcount : Transaction.expiries (events ++ [.expire]) = t.tries + 1 := by
    rw [expiries_append_singleton, h.expiries]
    rfl
  obtain ⟨-, hstep⟩ := Option.ite_none_right_eq_some.mp hstep
  obtain rfl := Option.some.inj hstep
  have hended : ¬t.ended := by
    rw [h.ended]
    decide
  unfold continueRetry retry
  rw [if_neg hended]
  by_cases hlast : t.tries + 1 < settings.triesMax
  · rw [if_pos ⟨hlast, hended⟩, Transaction.wait, if_neg]
    · refine .waiting ⟨h.settlements, h.listening, h.completed, h.ended, h.finished, h.aborted, h.onAbort,
        h.resumed, hlast, ?_, rfl, congrArg (· + 1) h.sent, ?_, hcount⟩
      · change t.timeoutDelay * 2 = _
        rw [h.timeoutDelay, pow_succ, Nat.mul_assoc]
      · change t.waits ++ [t.timeoutDelay * 2] = doubling settings (t.sent + 1)
        rw [h.waits, doubling, doubling, List.range_succ, List.map_append, h.timeoutDelay, h.sent, Nat.mul_assoc,
          ← pow_succ]
        rfl
    · rw [not_or]
      exact ⟨hended, by rw [h.aborted]; decide⟩
  · rw [if_neg fun hboth => hlast hboth.1, if_pos ⟨not_lt.mp hlast, hended⟩]
    exact .settled .timeout (settled_fail h.ended h.listening h.completed h.settlements h.sent_le h.waits)
      (.inr (.inr (hcount ▸ not_lt.mp hlast)))

/-- An event that changes nothing that is waited for. -/
lemma append (h : Waiting settings events t) (hevent : event ≠ .expire) :
    Waiting settings (events ++ [event]) t := by
  have hzero : Transaction.expiries [event] = 0 := by
    cases event with
    | expire => exact absurd rfl hevent
    | resume => rfl
    | finish => rfl
    | received message addr => rfl
    | sendSettled rejected => rfl
    | abort => rfl
    | cancel => rfl
  exact { h with expiries := by rw [expiries_append_singleton, hzero]; exact h.expiries }

lemma accepted {outcome : Outcome}
    (h : TurnProtocol.responseReceived canonicalHost settings.response message addr = some outcome) :
    Accepted settings canonicalHost message addr ∧
      ((message.messageClass = classes.RESPONSE ∧ outcome = .completed message) ∨
        (message.messageClass ≠ classes.RESPONSE ∧ outcome = .failed message)) := by
  unfold TurnProtocol.responseReceived at h
  split_ifs at h with haddress hintegrity hclass
  · refine ⟨⟨?_, fun hkey => ?_⟩, .inl ⟨hclass, (Option.some.inj h).symm⟩⟩
    · simpa using haddress
    · simpa [hkey] using hintegrity
  · refine ⟨⟨?_, fun hkey => ?_⟩, .inr ⟨hclass, (Option.some.inj h).symm⟩⟩
    · simpa using haddress
    · simpa [hkey] using hintegrity

lemma received (h : Waiting settings events t) :
    Sound settings canonicalHost aborted (events ++ [.received message addr])
      (t.responseReceived settings canonicalHost message addr) := by
  have hmem : Event.received message addr ∈ events ++ [.received message addr] :=
    List.mem_append_right _ List.mem_cons_self
  unfold responseReceived
  rw [h.ended, h.listening, Bool.not_true, Bool.or_false, if_neg (by decide)]
  cases hresponse : TurnProtocol.responseReceived canonicalHost settings.response message addr with
  | none => exact .waiting (h.append (by rintro ⟨⟩))
  | some outcome =>
    obtain ⟨haccepted, ⟨hclass, rfl⟩ | ⟨hclass, rfl⟩⟩ := accepted hresponse
    · refine .settled (.resolved message addr) ?_ ⟨hmem, haccepted, hclass⟩
      have hexecute : t.execute message addr =
          { t with listening := false, settlements := t.settlements ++ [.resolved message addr] } := by
        rw [execute, h.completed, if_neg (by decide), h.listening, if_pos rfl]
      have hcomplete : (t.execute message addr).complete =
          { t with listening := false, completed := true, settlements := [.resolved message addr] } := by
        rw [hexecute, complete, h.settlements]
        simp only [h.completed]
        rfl
      dsimp only
      rw [hcomplete]
      exact ⟨rfl, rfl, fun hended => absurd hended (by rw [h.ended]; decide),
        fun hfinished => absurd hfinished (by rw [h.finished]; decide),
        fun hresumed => absurd hresumed (by rw [h.resumed]; decide), h.sent_le, h.waits⟩
    · refine .settled (.failed message addr) ?_ ⟨hmem, haccepted, hclass⟩
      have herror : t.error (.failed message addr) =
          { t with listening := false, settlements := [.failed message addr] } := by
        rw [error, h.completed, if_neg (by decide), h.listening, if_pos rfl, h.settlements]
        rfl
      dsimp only
      rw [herror]
      exact ⟨rfl, rfl, fun hended => absurd hended (by rw [h.ended]; decide),
        fun hfinished => absurd hfinished (by rw [h.finished]; decide),
        fun hresumed => absurd hresumed (by rw [h.resumed]; decide), h.sent_le, h.waits⟩

/-- **Each event** lets the transaction wait on, or settles its promise for a reason. -/
lemma step (h : Waiting settings events t) (hstep : step settings canonicalHost t event = some t') :
    Sound settings canonicalHost aborted (events ++ [event]) t' := by
  have hmem : event ∈ events ++ [event] := List.mem_append_right _ List.mem_cons_self
  cases event with
  | expire => exact h.expire hstep
  | resume =>
    obtain ⟨hresumed, -⟩ := Option.ite_none_right_eq_some.mp hstep
    rw [h.resumed] at hresumed
    cases hresumed
  | finish =>
    obtain ⟨⟨hne, -⟩, -⟩ := Option.ite_none_right_eq_some.mp hstep
    exact absurd h.settlements hne
  | received message addr =>
    obtain rfl := Option.some.inj hstep
    exact h.received
  | sendSettled rejected =>
    obtain ⟨-, hstep⟩ := Option.ite_none_right_eq_some.mp hstep
    obtain rfl := Option.some.inj hstep
    have hless : Waiting settings events { t with pendingSends := t.pendingSends - 1 } := { h with }
    by_cases hfails : rejected = true ∧ settings.failOnSendError = true
    · obtain ⟨rfl, hfails⟩ := hfails
      rw [if_pos ⟨rfl, hfails⟩]
      exact .settled .sendError hless.fail ⟨hfails, hmem⟩
    · rw [if_neg hfails]
      exact .waiting (hless.append (by rintro ⟨⟩))
  | abort =>
    obtain ⟨⟨hsignal, -⟩, hstep⟩ := Option.ite_none_right_eq_some.mp hstep
    obtain rfl := Option.some.inj hstep
    dsimp only
    rw [h.onAbort, hsignal, if_pos rfl]
    exact .settled .timeout (settled_fail h.ended h.listening h.completed h.settlements h.sent_le h.waits)
      (.inr (.inl hmem))
  | cancel =>
    obtain rfl := Option.some.inj hstep
    exact .settled .cancelled h.cancel hmem

end Waiting

/-! ## Runs -/

lemma sound_run (settings : TransactionSettings) (canonicalHost : String → String) (aborted : Bool) :
    Sound settings canonicalHost aborted [] (run settings aborted) := by
  unfold run
  cases hsignal : settings.signal && aborted with
  | true =>
    rw [Bool.and_eq_true] at hsignal
    exact .settled .timeout ⟨rfl, rfl, fun _ => rfl, fun _ => rfl, fun _ => rfl, Nat.zero_le _, rfl⟩
      (.inl hsignal.2)
  | false =>
    have hpos : (0 : ℕ) < settings.triesMax ∧ ¬((false : Bool) = true) := ⟨settings.triesMax_pos, by decide⟩
    have hretry : ({ timeoutDelay := settings.rto, onAbort := settings.signal } : Transaction).retry settings =
        { timeoutDelay := settings.rto, onAbort := settings.signal, timer := some settings.rto, pendingSends := 1,
          sent := 1, waits := [settings.rto] } := (if_pos hpos).trans (if_neg (by simp))
    dsimp only
    rw [if_neg (by decide), hretry]
    exact .waiting ⟨rfl, rfl, rfl, rfl, rfl, rfl, rfl, rfl, settings.triesMax_pos, (Nat.mul_one _).symm, rfl, rfl,
      congrArg (fun n => [n]) (Nat.mul_one _).symm, rfl⟩

lemma Sound.step (h : Sound settings canonicalHost aborted events t)
    (hstep : step settings canonicalHost t event = some t') :
    Sound settings canonicalHost aborted (events ++ [event]) t' := by
  cases h with
  | waiting h => exact h.step hstep
  | settled s h hcaused => exact .settled s (h.step hstep).1 hcaused.append

/-- A settled transaction stays as it is in every run. -/
lemma Settled.run (h : Settled settings s t)
    (hrun : events.foldlM (Transaction.step settings canonicalHost) t = some t') :
    t'.settlements = t.settlements ∧ t'.sent = t.sent := by
  induction events generalizing t with
  | nil =>
    obtain rfl := Option.some.inj hrun
    exact ⟨rfl, rfl⟩
  | cons event events ih =>
    rw [List.foldlM_cons] at hrun
    obtain ⟨t₁, hstep, hrun⟩ := Option.bind_eq_some_iff.mp hrun
    obtain ⟨hsettled, hsent⟩ := h.step hstep
    obtain ⟨hsettlements, hsent'⟩ := ih hsettled hrun
    exact ⟨by rw [hsettlements, hsettled.settlements, h.settlements], hsent'.trans hsent⟩

end Transaction

end Werift.Ice
