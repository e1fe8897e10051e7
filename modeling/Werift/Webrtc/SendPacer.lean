import Werift.Lib.TokenBucket
import Werift.Lib.Transition

/-!
# Pacing (`webrtc/src/media/sender/sendPacer.ts`)

A `MediaPacer` is a bucket of bytes.  A call of `acquire` waits until there are enough of them for its packet.
-/

namespace Werift.Webrtc

open Transition

/-- The fields of a `MediaPacer`. -/
structure MediaPacer where
  budgetBytes : ℚ := 0
  lastMs : ℕ := 0

/-- A call of `acquire` that waits. -/
structure Acquire where
  packetBytes : ℕ
  rateBps : ℚ
  maxBudget : ℚ

namespace MediaPacer

/-- `refill(rateBps, nowMs, maxBudget)`. -/
def refill (p : MediaPacer) (rateBps : ℚ) (nowMs : ℕ) (maxBudget : ℚ) : MediaPacer :=
  let elapsedSec := max 0 (((nowMs : ℚ) - p.lastMs) / 1000)
  let budgetBytes := p.budgetBytes + elapsedSec * (rateBps / 8)
  { budgetBytes := if maxBudget < budgetBytes then maxBudget else budgetBytes, lastMs := nowMs }

/-- The budget when `acquire` is called. -/
def enter (p : MediaPacer) (rateBps : ℚ) (now : ℕ) : MediaPacer :=
  if p.lastMs = 0 then { budgetBytes := 0, lastMs := now } else p.refill rateBps now (rateBps / 8 * (1 / 10))

end MediaPacer

/-- A pacer, the call that waits, the time that has been read last, and the packets that have been granted, with
the times. -/
structure Pacing where
  pacer : MediaPacer := {}
  call : Option Acquire := none
  clock : ℕ := 0
  granted : List (ℚ × ℚ) := []

/-- What happens to a pacer: a call with the result of the first `alive()`, and the end of a sleep, which rejects
if the signal has aborted, with the results of the two calls of `alive()` behind it. -/
inductive PacerEvent
  | acquire (packetBytes : ℕ) (rateBps : ℚ) (now : ℕ) (alive : Bool)
  | wake (aborted alive : Bool) (now : ℕ) (aliveNext : Bool)

namespace Pacing

/-- The loop of `acquire` up to its next sleep: the packet is granted, or the call sleeps or returns `false`. -/
def loop (s : Pacing) (pacer : MediaPacer) (call : Acquire) (alive : Bool) : Pacing :=
  if pacer.budgetBytes < call.packetBytes then
    { s with pacer, call := if alive then some call else none, clock := pacer.lastMs }
  else
    { pacer := { pacer with budgetBytes := pacer.budgetBytes - call.packetBytes }
      call := none
      clock := pacer.lastMs
      granted := s.granted ++ [((pacer.lastMs : ℚ), (call.packetBytes : ℚ))] }

/-- One step.  The calls are made one after another, and the clock does not go back. -/
def step (s : Pacing) : PacerEvent → Option Pacing
  | .acquire packetBytes rateBps now alive =>
    if s.call.isSome ∨ now < s.clock then none
    else if rateBps ≤ 0 then some { s with granted := s.granted ++ [((now : ℚ), (packetBytes : ℚ))], clock := now }
    else some (s.loop (s.pacer.enter rateBps now)
      { packetBytes, rateBps, maxBudget := max (rateBps / 8 * (1 / 10)) packetBytes } alive)
  | .wake aborted alive now aliveNext =>
    match s.call with
    | none => none
    | some call =>
      if aborted ∨ ¬alive then some { s with call := none }
      else if now < s.clock then none
      else some (s.loop (s.pacer.refill call.rateBps now call.maxBudget) call aliveNext)

/-- The call asks for a positive rate of at most `R` bits per second and for at most `P` bytes. -/
def Limited (R : ℚ) (P : ℕ) (_ : Pacing) : PacerEvent → Prop
  | .acquire packetBytes rateBps _ _ => 0 < rateBps ∧ rateBps ≤ R ∧ packetBytes ≤ P
  | .wake .. => True

/-- The pacer as it has been refilled for an event, before anything is taken out. -/
def refilled (s : Pacing) : PacerEvent → MediaPacer
  | .acquire _ rateBps now _ => s.pacer.enter rateBps now
  | .wake aborted alive now _ =>
    match s.call with
    | some call => if aborted ∨ ¬alive then s.pacer else s.pacer.refill call.rateBps now call.maxBudget
    | none => s.pacer

/-- What a step grants: it takes the bytes that it grants and no others, and it grants at most the packet of the
call, which ends then. -/
def Takes (s : Pacing) (e : PacerEvent) (s' : Pacing) : Prop :=
  ∃ grants : List (ℚ × ℚ), s'.granted = s.granted ++ grants ∧
    s'.pacer.budgetBytes = (s.refilled e).budgetBytes - (grants.map Prod.snd).sum ∧
    (grants = [] ∨ s'.call = none ∧ ∃ packetBytes : ℕ, grants = [((s'.clock : ℚ), (packetBytes : ℚ))])

/-- Sleeps that end at these times, while `alive()` holds. -/
def wakes (clock : ℕ → ℕ) (n : ℕ) : List PacerEvent :=
  (List.range n).map fun i => .wake false true (clock i) true

/-- **Pacing**: during every interval at most the bytes of the rate and of one burst are granted, a step takes
what it grants, and a call that waits is granted when the time goes on. -/
structure Paced (R : ℚ) (P : ℕ) (s : Pacing) : Prop where
  window : ∀ a b : ℚ, a ≤ b →
    TokenBucket.between a b s.granted ≤ R * ((b - a) / 1000) / 8 + max (R / 80) P
  takes : ∀ e s', s.Limited R P e → s.step e = some s' → s.Takes e s'
  granted : ∀ call, s.call = some call → ∀ clock : ℕ → ℕ, Monotone clock → s.clock ≤ clock 0 →
    (∀ t, ∃ n, t ≤ clock n) → ∃ n s', (wakes clock (n + 1)).foldlM step s = some s' ∧ s'.call = none ∧
      s'.granted = s.granted ++ [((clock n : ℚ), (call.packetBytes : ℚ))]

/-! ## The bucket -/

/-- The pacer as a bucket, with milliseconds as the unit of time. -/
def bucket (s : Pacing) : TokenBucket ℚ :=
  { level := s.pacer.budgetBytes, time := s.pacer.lastMs, taken := s.granted }

/-- **What holds in every state.** -/
structure Inv (R : ℚ) (P : ℕ) (s : Pacing) : Prop where
  bounded : s.bucket.Bounded (R / 8000) (max (R / 80) P)
  clock : s.clock = s.pacer.lastMs
  call : ∀ call, s.call = some call → 0 < call.rateBps ∧ call.rateBps ≤ R ∧ call.packetBytes ≤ P ∧
    call.maxBudget = max (call.rateBps / 8 * (1 / 10)) call.packetBytes

variable {R : ℚ} {P : ℕ} {s s' : Pacing} {e : PacerEvent} {call : Acquire}

lemma lastMs_refill (p : MediaPacer) (rateBps maxBudget : ℚ) (now : ℕ) :
    (p.refill rateBps now maxBudget).lastMs = now := rfl

/-- **Refilling** adds the bytes of the time that has passed, up to the maximum. -/
lemma budgetBytes_refill {p : MediaPacer} {now : ℕ} (hnow : p.lastMs ≤ now) (rateBps maxBudget : ℚ) :
    (p.refill rateBps now maxBudget).budgetBytes =
      min (p.budgetBytes + rateBps / 8000 * ((now : ℚ) - p.lastMs)) maxBudget := by
  have helapsed : (0 : ℚ) ≤ ((now : ℚ) - p.lastMs) / 1000 := by
    have hcast : (p.lastMs : ℚ) ≤ now := by exact_mod_cast hnow
    exact div_nonneg (sub_nonneg.mpr hcast) (by norm_num)
  have hbytes : ((now : ℚ) - p.lastMs) / 1000 * (rateBps / 8) = rateBps / 8000 * ((now : ℚ) - p.lastMs) := by ring
  rw [MediaPacer.refill, max_eq_right helapsed, hbytes]
  dsimp only
  split_ifs with hlt
  · exact (min_eq_right hlt.le).symm
  · exact (min_eq_left (not_lt.mp hlt)).symm

/-- A refill at a rate of at most `R` keeps the bucket bounded. -/
lemma bounded_refill (hR : 0 < R) (h : s.bucket.Bounded (R / 8000) (max (R / 80) P)) {rateBps maxBudget : ℚ}
    {now : ℕ} (hrate : 0 < rateBps) (hle : rateBps ≤ R) (hnow : s.pacer.lastMs ≤ now) (hzero : 0 ≤ maxBudget)
    (hmax : maxBudget ≤ max (R / 80) P) :
    ({ s with pacer := s.pacer.refill rateBps now maxBudget } : Pacing).bucket.Bounded (R / 8000)
      (max (R / 80) P) := by
  have hcast : (s.pacer.lastMs : ℚ) ≤ now := by exact_mod_cast hnow
  have hdrip := mul_nonneg (div_nonneg hrate.le (by norm_num : (0 : ℚ) ≤ 8000)) (sub_nonneg.mpr hcast)
  have hlevel := budgetBytes_refill hnow rateBps maxBudget
  have hnonneg := h.nonneg
  refine h.advance (div_nonneg hR.le (by norm_num)) hcast ?_ ?_ ?_
  · rw [hlevel]
    exact le_min (add_nonneg hnonneg hdrip) hzero
  · rw [hlevel]
    exact (min_le_right _ _).trans hmax
  · rw [hlevel]
    refine (min_le_left _ _).trans (add_le_add_right ?_ _)
    exact mul_le_mul_of_nonneg_right (div_le_div_of_nonneg_right hle (by norm_num)) (sub_nonneg.mpr hcast)

/-- **Entering** `acquire` keeps the bucket bounded. -/
lemma bounded_enter (hR : 0 < R) (h : s.bucket.Bounded (R / 8000) (max (R / 80) P)) {rateBps : ℚ} {now : ℕ}
    (hrate : 0 < rateBps) (hle : rateBps ≤ R) (hnow : s.pacer.lastMs ≤ now) :
    ({ s with pacer := s.pacer.enter rateBps now } : Pacing).bucket.Bounded (R / 8000) (max (R / 80) P) := by
  rw [MediaPacer.enter]
  split_ifs with hfirst
  · have hcast : (s.pacer.lastMs : ℚ) ≤ now := by exact_mod_cast hnow
    have hdrip := mul_nonneg (div_nonneg hR.le (by norm_num : (0 : ℚ) ≤ 8000)) (sub_nonneg.mpr hcast)
    have hnonneg := h.nonneg
    exact h.advance (div_nonneg hR.le (by norm_num)) hcast le_rfl (hnonneg.trans h.le_cap)
      (add_nonneg hnonneg hdrip)
  · refine bounded_refill hR h hrate hle hnow (by positivity) (le_max_of_le_left ?_)
    linarith

/-- **The loop** takes what is there. -/
lemma inv_loop (hR : 0 < R) {pacer : MediaPacer} (alive : Bool)
    (h : ({ s with pacer } : Pacing).bucket.Bounded (R / 8000) (max (R / 80) P))
    (hcall : 0 < call.rateBps ∧ call.rateBps ≤ R ∧ call.packetBytes ≤ P ∧
      call.maxBudget = max (call.rateBps / 8 * (1 / 10)) call.packetBytes) :
    Inv R P (s.loop pacer call alive) := by
  rw [loop]
  split_ifs with hshort halive
  · exact ⟨h, rfl, fun c hc => Option.some.inj hc ▸ hcall⟩
  · exact ⟨h, rfl, by rintro c ⟨⟩⟩
  · refine ⟨h.take (div_nonneg hR.le (by norm_num)) (Nat.cast_nonneg _) (not_lt.mp hshort), rfl, by rintro c ⟨⟩⟩

/-- **Every step** keeps the bucket bounded. -/
lemma inv_step (hR : 0 < R) (h : Inv R P s) (hlimited : s.Limited R P e) (hstep : s.step e = some s') :
    Inv R P s' := by
  cases e with
  | acquire packetBytes rateBps now alive =>
    obtain ⟨hrate, hle, hpacket⟩ := hlimited
    rw [step] at hstep
    split_ifs at hstep with hbusy hfree
    · exact absurd hfree (not_le.mpr hrate)
    · cases hstep
      rw [not_or, not_lt, h.clock] at hbusy
      exact inv_loop hR alive (bounded_enter hR h.bounded hrate hle hbusy.2) ⟨hrate, hle, hpacket, rfl⟩
  | wake aborted alive now aliveNext =>
    cases hwaiting : s.call with
    | none =>
      rw [step, hwaiting] at hstep
      cases hstep
    | some call =>
      have hcall := h.call call hwaiting
      obtain ⟨hrate, hle, hpacket, hmax⟩ := hcall
      rw [step, hwaiting] at hstep
      dsimp only at hstep
      split_ifs at hstep with hfalse hback
      · cases hstep
        exact ⟨h.bounded, h.clock, by rintro c ⟨⟩⟩
      · cases hstep
        rw [not_lt, h.clock] at hback
        refine inv_loop hR aliveNext (bounded_refill hR h.bounded hrate hle hback ?_ ?_) ⟨hrate, hle, hpacket, hmax⟩
        · rw [hmax]
          exact le_max_of_le_right (Nat.cast_nonneg _)
        · rw [hmax]
          refine max_le_max ?_ (by exact_mod_cast hpacket)
          linarith

/-- What the loop takes is what it grants. -/
lemma takes_loop (s : Pacing) (pacer : MediaPacer) (call : Acquire) (alive : Bool) :
    ∃ grants : List (ℚ × ℚ), (s.loop pacer call alive).granted = s.granted ++ grants ∧
      (s.loop pacer call alive).pacer.budgetBytes = pacer.budgetBytes - (grants.map Prod.snd).sum ∧
      (grants = [] ∨ (s.loop pacer call alive).call = none ∧
        ∃ packetBytes : ℕ, grants = [(((s.loop pacer call alive).clock : ℚ), (packetBytes : ℚ))]) := by
  rw [loop]
  split_ifs with hshort halive
  · exact ⟨[], (List.append_nil _).symm, (sub_zero _).symm, .inl rfl⟩
  · exact ⟨[], (List.append_nil _).symm, (sub_zero _).symm, .inl rfl⟩
  · refine ⟨_, rfl, ?_, .inr ⟨rfl, call.packetBytes, rfl⟩⟩
    rw [List.map_singleton, List.sum_singleton]

/-- **A step takes what it grants.** -/
lemma takes_step (hlimited : s.Limited R P e) (hstep : s.step e = some s') : s.Takes e s' := by
  cases e with
  | acquire packetBytes rateBps now alive =>
    rw [step] at hstep
    split_ifs at hstep with hbusy hfree
    · exact absurd hfree (not_le.mpr hlimited.1)
    · cases hstep
      exact takes_loop s _ _ alive
  | wake aborted alive now aliveNext =>
    cases hwaiting : s.call with
    | none =>
      rw [step, hwaiting] at hstep
      cases hstep
    | some call =>
      rw [step, hwaiting] at hstep
      dsimp only at hstep
      split_ifs at hstep with hfalse hback
      · cases hstep
        refine ⟨[], (List.append_nil _).symm, ?_, .inl rfl⟩
        rw [refilled, hwaiting]
        dsimp only
        rw [if_pos hfalse]
        exact (sub_zero _).symm
      · cases hstep
        rw [Takes, refilled, hwaiting]
        dsimp only
        rw [if_neg hfalse]
        exact takes_loop s _ call aliveNext

/-! ## Waiting -/

/-- The time behind the first `n` sleeps. -/
def timeAfter (s : Pacing) (clock : ℕ → ℕ) : ℕ → ℕ
  | 0 => s.clock
  | n + 1 => clock n

/-- The budget of a call that waits, at a time. -/
def budgetAt (s : Pacing) (call : Acquire) (now : ℕ) : ℚ :=
  s.pacer.budgetBytes + call.rateBps / 8000 * ((now : ℚ) - s.clock)

/-- The state of a call that still waits at a time. -/
def waitingAt (s : Pacing) (call : Acquire) (now : ℕ) : Pacing :=
  { s with pacer := { budgetBytes := s.budgetAt call now, lastMs := now }, clock := now }

/-- **One sleep** of a call that waits. -/
lemma step_wake (hcall : s.call = some call) (hmax : (call.packetBytes : ℚ) ≤ call.maxBudget) {t now : ℕ}
    (hnow : t ≤ now) : (s.waitingAt call t).step (.wake false true now true) =
      some (if s.budgetAt call now < call.packetBytes then s.waitingAt call now
        else ⟨{ budgetBytes := min (s.budgetAt call now) call.maxBudget - call.packetBytes, lastMs := now }, none, now,
          s.granted ++ [((now : ℚ), (call.packetBytes : ℚ))]⟩) := by
  have hbudget : ((s.waitingAt call t).pacer.refill call.rateBps now call.maxBudget).budgetBytes =
      min (s.budgetAt call now) call.maxBudget := by
    rw [budgetBytes_refill (show (s.waitingAt call t).pacer.lastMs ≤ now from hnow)]
    congr 1
    change s.budgetAt call t + call.rateBps / 8000 * ((now : ℚ) - t) = s.budgetAt call now
    rw [budgetAt, budgetAt]
    ring
  have hwaiting : (s.waitingAt call t).call = some call := hcall
  have hclock : ¬now < (s.waitingAt call t).clock := not_lt.mpr hnow
  rw [step, hwaiting]
  dsimp only
  rw [if_neg (by decide), if_neg hclock, loop, hbudget]
  by_cases hshort : s.budgetAt call now < call.packetBytes
  · have hmin : min (s.budgetAt call now) call.maxBudget = s.budgetAt call now :=
      min_eq_left (hshort.le.trans hmax)
    rw [hmin, if_pos hshort, if_pos hshort, if_pos rfl]
    congr 1
    rw [waitingAt, ← hcall]
    congr 1
    rw [← hmin, ← hbudget]
    rfl
  · have hlarge : ¬min (s.budgetAt call now) call.maxBudget < call.packetBytes :=
      not_lt.mpr (le_min (not_lt.mp hshort) hmax)
    rw [if_neg hlarge, if_neg hshort]
    rfl

/-- One sleep more. -/
lemma foldlM_wakes_succ (s : Pacing) (clock : ℕ → ℕ) (n : ℕ) : (wakes clock (n + 1)).foldlM step s =
    (wakes clock n).foldlM step s >>= fun s => s.step (.wake false true (clock n) true) := by
  rw [wakes, List.range_succ, List.map_append, List.foldlM_append]
  congr 1
  funext s
  rw [List.map_singleton, List.foldlM_cons]
  exact bind_pure _

/-- **Sleeps** during which the budget is too small. -/
lemma foldlM_wakes (hcall : s.call = some call) (hmax : (call.packetBytes : ℚ) ≤ call.maxBudget)
    (hlast : s.clock = s.pacer.lastMs) {clock : ℕ → ℕ} (hclock : Monotone clock) (hfirst : s.clock ≤ clock 0)
    {n : ℕ}
    (hshort : ∀ i < n, s.budgetAt call (clock i) < call.packetBytes) :
    (wakes clock n).foldlM step s = some (s.waitingAt call (s.timeAfter clock n)) := by
  induction n with
  | zero =>
    have hself : s.waitingAt call s.clock = s := by
      have hzero : s.budgetAt call s.clock = s.pacer.budgetBytes := by
        rw [budgetAt, sub_self, mul_zero, add_zero]
      have hpacer : (⟨s.pacer.budgetBytes, s.clock⟩ : MediaPacer) = s.pacer := by rw [hlast]
      rw [waitingAt, hzero, hpacer]
    rw [timeAfter, hself]
    rfl
  | succ n ih =>
    have hnext : s.timeAfter clock n ≤ clock n := by
      cases n with
      | zero => exact hfirst
      | succ n => exact hclock (Nat.le_succ n)
    rw [foldlM_wakes_succ, ih fun i hi => hshort i (Nat.lt_succ_of_lt hi), Option.bind_eq_bind, Option.bind_some,
      step_wake hcall hmax hnext, if_pos (hshort n (Nat.lt_succ_self n))]
    rfl

/-- **A call that waits is granted**, when the time goes on. -/
lemma granted_of_wakes (hcall : s.call = some call) (hrate : 0 < call.rateBps)
    (hmax : (call.packetBytes : ℚ) ≤ call.maxBudget) (hlast : s.clock = s.pacer.lastMs)
    {clock : ℕ → ℕ} (hclock : Monotone clock) (hfirst : s.clock ≤ clock 0) (hgoes : ∀ t, ∃ n, t ≤ clock n) :
    ∃ n s', (wakes clock (n + 1)).foldlM step s = some s' ∧ s'.call = none ∧
      s'.granted = s.granted ++ [((clock n : ℚ), (call.packetBytes : ℚ))] := by
  have henough : ∃ n, ¬s.budgetAt call (clock n) < call.packetBytes := by
    obtain ⟨t, ht⟩ := exists_nat_ge
      (((call.packetBytes : ℚ) - s.pacer.budgetBytes) / (call.rateBps / 8000) + s.clock)
    obtain ⟨n, hn⟩ := hgoes t
    refine ⟨n, not_lt.mpr ?_⟩
    have hpos : 0 < call.rateBps / 8000 := div_pos hrate (by norm_num)
    have htime : ((call.packetBytes : ℚ) - s.pacer.budgetBytes) / (call.rateBps / 8000) ≤
        (clock n : ℚ) - s.clock := by
      have hcast : (t : ℚ) ≤ clock n := by exact_mod_cast hn
      linarith
    rw [div_le_iff₀ hpos] at htime
    rw [budgetAt]
    linarith
  classical
  -- The first sleep behind which there is enough.
  refine ⟨Nat.find henough, ?_⟩
  have hshort : ∀ i < Nat.find henough, s.budgetAt call (clock i) < call.packetBytes :=
    fun i hi => not_not.mp (Nat.find_min henough hi)
  have hwaits := foldlM_wakes hcall hmax hlast hclock hfirst hshort
  have hnext : s.timeAfter clock (Nat.find henough) ≤ clock (Nat.find henough) := by
    cases Nat.find henough with
    | zero => exact hfirst
    | succ n => exact hclock (Nat.le_succ n)
  have hgrant := step_wake hcall hmax hnext
  rw [if_neg (Nat.find_spec henough)] at hgrant
  rw [foldlM_wakes_succ, hwaits, Option.bind_eq_bind, Option.bind_some, hgrant]
  exact ⟨_, rfl, rfl, rfl⟩

/-- **The pacer bounds the rate** in every run, and grants every call whose time goes on. -/
theorem run_paced (hR : 0 < R) (h : Run step (Limited R P) {} s) : Paced R P s := by
  have hempty : Inv R P {} := by
    refine ⟨?_, rfl, by rintro c ⟨⟩⟩
    exact TokenBucket.bounded_empty (div_nonneg hR.le (by norm_num)) (le_max_of_le_right (Nat.cast_nonneg _)) _
  have hinv := h.invariant (Inv R P) hempty fun s e s' hinv hlimited hstep => inv_step hR hinv hlimited hstep
  refine ⟨fun a b hab => ?_, fun e s' => takes_step, fun call hcall clock hclock hfirst hgoes => ?_⟩
  · refine (hinv.bounded.window a b hab).trans (le_of_eq ?_)
    ring
  · obtain ⟨hrate, -, -, hmax⟩ := hinv.call call hcall
    exact granted_of_wakes hcall hrate (hmax ▸ le_max_right _ _) hinv.clock hclock hfirst hgoes

/-- A call for 10 bytes at 8000 bits per second sleeps, and is granted 10 milliseconds later. -/
theorem run_paced_tenBytes : ∃ s, Run step (Limited 8000 10) {} s ∧ s.granted = [(15, 10)] ∧ Paced 8000 10 s := by
  have hfirst : step {} (.acquire 10 8000 5 true) =
      some { pacer := ⟨0, 5⟩, call := some ⟨10, 8000, 100⟩, clock := 5, granted := [] } := by
    norm_num [step, MediaPacer.enter, loop]
  have hsecond : step { pacer := ⟨0, 5⟩, call := some ⟨10, 8000, 100⟩, clock := 5, granted := [] }
      (.wake false true 15 true) =
      some { pacer := ⟨0, 15⟩, call := none, clock := 15, granted := [(15, 10)] } := by
    norm_num [step, MediaPacer.refill, loop]
  have hlimited : Limited 8000 10 {} (.acquire 10 8000 5 true) := ⟨by norm_num, le_rfl, le_rfl⟩
  have hrun := (Run.start.next hlimited hfirst).next (show Limited 8000 10 _ (.wake false true 15 true) from trivial)
    hsecond
  exact ⟨_, hrun, rfl, run_paced (by norm_num) hrun⟩

end Pacing

end Werift.Webrtc
