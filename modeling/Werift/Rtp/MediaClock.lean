import Werift.Lib.OneTimer
import Werift.Rtp.MediaTimeline

/-!
# The media clock (`RtpMediaClock` of `rtp/src/rtp/mediaClock.ts`)

The clock emits a tick for each slot that it does not skip.  Stalls, pauses and early timers move the anchor and the
next slot, but each slot up to the last tick has been emitted or is counted as skipped (`Counted`).
-/

namespace Werift.Rtp

open OneTimer

/-- `RtpMediaClockState`. -/
inductive RtpMediaClockState
  | idle
  | running
  | paused
  | stopped
deriving DecidableEq

/-- The word for a state. -/
def RtpMediaClockState.name : RtpMediaClockState → String
  | idle => "idle"
  | running => "running"
  | paused => "paused"
  | stopped => "stopped"

/-- `RtpMediaClock`, its scheduler, and the ticks that it has emitted, with their times. -/
structure RtpMediaClock where
  state : RtpMediaClockState := .idle
  anchor : RtpMediaTimelineAnchor := ⟨0, 0⟩
  nextFrameIndex : ℤ := 0
  lastTick : Option RtpMediaClockTick := none
  timerHandle : Option ℕ := none
  timers : Timers ℚ := {}
  emitted : List (ℚ × RtpMediaClockTick) := []

namespace RtpMediaClock

/-- `schedule(delay)`. -/
def schedule (c : RtpMediaClock) (delay : ℚ) : RtpMediaClock :=
  { c with timerHandle := some (c.timers.setTimeout delay).1, timers := (c.timers.setTimeout delay).2 }

/-- `clearTimer()`. -/
def clearTimer (c : RtpMediaClock) : RtpMediaClock :=
  match c.timerHandle with
  | none => c
  | some handle => { c with timerHandle := none, timers := c.timers.clearTimeout handle }

/-- `start()` at the time `now`. -/
def start (c : RtpMediaClock) (now : ℚ) : Except String RtpMediaClock :=
  if c.state ≠ .idle then .error ("RtpMediaClock cannot start from state " ++ c.state.name)
  else .ok ({ c with state := .running, anchor := ⟨now, 0⟩, nextFrameIndex := 0 }.schedule 0)

/-- `pause()`. -/
def pause (c : RtpMediaClock) : RtpMediaClock :=
  if c.state ≠ .running then c else { c with state := .paused }.clearTimer

/-- `stop()`. -/
def stop (c : RtpMediaClock) : RtpMediaClock :=
  if c.state = .stopped then c else { c with state := .stopped }.clearTimer

section

variable (timeline : RtpMediaTimeline) (stallPolicy : RtpMediaClockStallPolicy) (c : RtpMediaClock)

/-- The slot from which the clock goes on. -/
def resumeIndex (continuous : Option Bool) (now : ℚ) : ℤ :=
  if continuous.getD (stallPolicy = .delay) then c.nextFrameIndex
  else max c.nextFrameIndex (timeline.latestFrameIndex c.anchor now)

/-- `resume({ continuous })`. -/
def resume (continuous : Option Bool) (now : ℚ) : RtpMediaClock :=
  if c.state ≠ .paused then c
  else
    let frameIndex := c.resumeIndex timeline stallPolicy continuous now
    { c with anchor := ⟨now, frameIndex⟩, nextFrameIndex := frameIndex, state := .running }.schedule 0

/-- The delay of the timer for the next slot. -/
def nextDelay (now : ℚ) : ℚ := max 0 (timeline.deadline c.anchor c.nextFrameIndex - now)

/-- A tick that is emitted, and the timer behind it. -/
def emit (tick : RtpMediaClockTick) (now : ℚ) : RtpMediaClock :=
  let c :=
    if stallPolicy = .delay ∧ timeline.frameDurationMs ≤ tick.lateness then
      { c with anchor := ⟨now, tick.frameIndex⟩ }
    else c
  let c := { c with lastTick := some tick, nextFrameIndex := tick.frameIndex + 1 }
  { c.schedule (c.nextDelay timeline now) with emitted := c.emitted ++ [(now, tick)] }

/-- `handleTimer()`. -/
def handleTimer (now : ℚ) : RtpMediaClock :=
  let c := { c with timerHandle := none }
  if c.state ≠ .running then c
  else
    match timeline.resolveTick c.anchor c.nextFrameIndex (c.lastTick.map RtpMediaClockTick.frameIndex) 0 now
      stallPolicy with
    | none => c.schedule (c.nextDelay timeline now)
    | some tick => c.emit timeline stallPolicy tick now

/-- What happens to a clock. -/
inductive Call
  | start (now : ℚ)
  | pause
  | resume (continuous : Option Bool) (now : ℚ)
  | stop
  /-- A timer fires, at any time. -/
  | timer (handle : ℕ) (now : ℚ)

/-- One call.  One that throws changes nothing, and only a timer that is pending fires. -/
def step : Call → RtpMediaClock
  | .start now => (c.start now).toOption.getD c
  | .pause => c.pause
  | .resume continuous now => c.resume timeline stallPolicy continuous now
  | .stop => c.stop
  | .timer handle now =>
    if handle ∈ c.timers.pending.map Prod.fst then
      { c with timers := c.timers.clearTimeout handle }.handleTimer timeline stallPolicy now
    else c

/-- A new clock after these calls. -/
def run (calls : List Call) : RtpMediaClock := calls.foldl (step timeline stallPolicy) {}

end

/-- The ticks that have been emitted. -/
def ticks (c : RtpMediaClock) : List RtpMediaClockTick := c.emitted.map Prod.snd

/-- The slots up to the last tick. -/
def reached (c : RtpMediaClock) : ℤ := (c.lastTick.map fun tick => tick.frameIndex + 1).getD 0

/-- A clock holds a timer while it runs, and no other one is pending. -/
structure Armed (c : RtpMediaClock) : Prop where
  timer : Holds c.timerHandle c.timers
  running : c.state = .running ↔ c.timerHandle.isSome
  fresh : c.state = .idle → c.nextFrameIndex = 0

/-- **What a clock keeps** about the ticks. -/
structure Counted (timeline : RtpMediaTimeline) (c : RtpMediaClock) : Prop where
  last : c.lastTick = c.ticks.getLast?
  ahead : c.reached ≤ c.nextFrameIndex
  below : ∀ tick ∈ c.ticks, tick.frameIndex < c.reached
  ascending : (c.ticks.map RtpMediaClockTick.frameIndex).Pairwise (· < ·)
  due : ∀ t ∈ c.emitted, t.2.deadline - SLOT_EPSILON * timeline.frameDurationMs ≤ t.1
  timestamp : ∀ tick ∈ c.ticks, tick.timestamp =
    (timeline.initialTimestamp + Js.mathRound (tick.frameIndex * timeline.frameSamples)) % 2 ^ 32
  skipped : (c.ticks.length : ℤ) + (c.ticks.map RtpMediaClockTick.skippedFrames).sum = c.reached
  elapsed : (c.ticks.map RtpMediaClockTick.elapsedSamples).sum =
    timeline.elapsedSamples ((c.lastTick.map RtpMediaClockTick.frameIndex).getD 0)

/-- With the policy to delay no slot has been skipped. -/
structure Gapless (c : RtpMediaClock) : Prop where
  next : c.nextFrameIndex = c.reached
  skipped : ∀ tick ∈ c.ticks, tick.skippedFrames = 0

/-- A call that resumes, if it does, as the policy has it. -/
def Call.isDefault : Call → Bool
  | .resume continuous _ => continuous.isNone
  | _ => true

variable {timeline : RtpMediaTimeline} {stallPolicy : RtpMediaClockStallPolicy} {c c' : RtpMediaClock}

/-! ## The timer -/

lemma armed_schedule (hheld : Holds none c.timers) (hstate : c.state = .running) (delay : ℚ) :
    Armed (c.schedule delay) where
  timer := hheld.setTimeout delay
  running := ⟨fun _ => rfl, fun _ => hstate⟩
  fresh := fun hidle => by
    change c.state = .idle at hidle
    rw [hstate] at hidle
    cases hidle

lemma armed_clearTimer (hheld : Holds c.timerHandle c.timers) (hstate : c.state ≠ .running)
    (hidle : c.state ≠ .idle) : Armed c.clearTimer := by
  rw [clearTimer]
  cases hhandle : c.timerHandle with
  | none =>
    refine ⟨hheld, ⟨fun h => absurd h hstate, fun h => ?_⟩, fun h => absurd h hidle⟩
    rw [hhandle] at h
    cases h
  | some handle =>
    rw [hhandle] at hheld
    exact ⟨hheld.clearTimeout, ⟨fun h => absurd h hstate, fun h => absurd h Bool.false_ne_true⟩,
      fun h => absurd h hidle⟩

/-- A clock that does not run holds no timer. -/
lemma Armed.holds_none (h : Armed c) (hstate : c.state ≠ .running) : Holds none c.timers := by
  have htimer := h.timer
  rw [Option.not_isSome_iff_eq_none.mp fun hsome => hstate (h.running.mpr hsome)] at htimer
  exact htimer

lemma armed_emit (hheld : Holds none c.timers) (hstate : c.state = .running) (tick : RtpMediaClockTick) (now : ℚ) :
    Armed (c.emit timeline stallPolicy tick now) := by
  have hidle : c.state ≠ .idle := by
    rw [hstate]
    exact nofun
  rw [emit]
  dsimp only
  split_ifs
  · exact ⟨hheld.setTimeout _, ⟨fun _ => rfl, fun _ => hstate⟩, fun h => absurd h hidle⟩
  · exact ⟨hheld.setTimeout _, ⟨fun _ => rfl, fun _ => hstate⟩, fun h => absurd h hidle⟩

/-- What a timer that fires finds. -/
lemma Armed.of_pending {handle : ℕ} (h : Armed c) (hpending : handle ∈ c.timers.pending.map Prod.fst) :
    c.state = .running ∧ Holds none (c.timers.clearTimeout handle) := by
  have htimer := h.timer
  have hhandle := htimer.eq_of_mem hpending
  rw [hhandle] at htimer
  refine ⟨h.running.mpr ?_, htimer.clearTimeout⟩
  rw [hhandle]
  rfl

lemma armed_handleTimer (hheld : Holds none c.timers) (hstate : c.state = .running) (now : ℚ) :
    Armed (c.handleTimer timeline stallPolicy now) := by
  rw [handleTimer]
  dsimp only
  rw [if_neg (not_not.mpr hstate)]
  cases timeline.resolveTick c.anchor c.nextFrameIndex (c.lastTick.map RtpMediaClockTick.frameIndex) 0 now
    stallPolicy with
  | none =>
    apply armed_schedule
    · exact hheld
    · exact hstate
  | some tick =>
    apply armed_emit
    · exact hheld
    · exact hstate

lemma Armed.step (h : Armed c) (call : Call) : Armed (step timeline stallPolicy c call) := by
  cases call with
  | start now =>
    rw [RtpMediaClock.step, start]
    split_ifs with hidle
    · exact h
    · apply armed_schedule
      · exact h.holds_none (by rw [not_not.mp hidle]; exact nofun)
      · rfl
  | pause =>
    rw [RtpMediaClock.step, pause]
    split_ifs with hrunning
    · exact h
    · exact armed_clearTimer h.timer nofun nofun
  | resume continuous now =>
    rw [RtpMediaClock.step, resume]
    split_ifs with hpaused
    · exact h
    · apply armed_schedule
      · exact h.holds_none (by rw [not_not.mp hpaused]; exact nofun)
      · rfl
  | stop =>
    rw [RtpMediaClock.step, stop]
    split_ifs with hstopped
    · exact h
    · exact armed_clearTimer h.timer nofun nofun
  | timer handle now =>
    rw [RtpMediaClock.step]
    split_ifs with hpending
    · obtain ⟨hstate, hheld⟩ := h.of_pending hpending
      apply armed_handleTimer
      · exact hheld
      · exact hstate
    · exact h

/-! ## The ticks -/

lemma Counted.congr (h : Counted timeline c) (hemitted : c'.emitted = c.emitted) (hlast : c'.lastTick = c.lastTick)
    (hnext : c.nextFrameIndex ≤ c'.nextFrameIndex) : Counted timeline c' := by
  have hticks : c'.ticks = c.ticks := by rw [ticks, hemitted, ticks]
  have hreached : c'.reached = c.reached := by rw [reached, hlast, reached]
  refine ⟨?_, ?_, ?_, ?_, ?_, ?_, ?_, ?_⟩
  · rw [hlast, hticks, h.last]
  · rw [hreached]
    exact h.ahead.trans hnext
  · rw [hticks, hreached]
    exact h.below
  · rw [hticks]
    exact h.ascending
  · rw [hemitted]
    exact h.due
  · rw [hticks]
    exact h.timestamp
  · rw [hticks, hreached]
    exact h.skipped
  · rw [hticks, hlast]
    exact h.elapsed

lemma emit_emitted (tick : RtpMediaClockTick) (now : ℚ) :
    (c.emit timeline stallPolicy tick now).emitted = c.emitted ++ [(now, tick)] := by
  rw [emit]
  split_ifs <;> rfl

lemma emit_lastTick (tick : RtpMediaClockTick) (now : ℚ) :
    (c.emit timeline stallPolicy tick now).lastTick = some tick := by
  rw [emit]
  split_ifs <;> rfl

lemma emit_nextFrameIndex (tick : RtpMediaClockTick) (now : ℚ) :
    (c.emit timeline stallPolicy tick now).nextFrameIndex = tick.frameIndex + 1 := by
  rw [emit]
  split_ifs <;> rfl

lemma emit_ticks (tick : RtpMediaClockTick) (now : ℚ) :
    (c.emit timeline stallPolicy tick now).ticks = c.ticks ++ [tick] := by
  rw [ticks, emit_emitted, List.map_append, List.map_singleton, ticks]

lemma emit_reached (tick : RtpMediaClockTick) (now : ℚ) :
    (c.emit timeline stallPolicy tick now).reached = tick.frameIndex + 1 := by
  rw [reached, emit_lastTick]
  rfl

/-- The slots before a tick are the ones that have been reached, and those that it skips. -/
lemma skippedFrames_eq {now : ℚ} {tick : RtpMediaClockTick}
    (hresolved : RtpMediaTimeline.Resolved timeline c.nextFrameIndex (c.lastTick.map RtpMediaClockTick.frameIndex) 0
      now stallPolicy tick) : tick.skippedFrames = tick.frameIndex - c.reached := by
  rw [hresolved.skippedFrames, Option.map_map]
  rfl

lemma Counted.emit (h : Counted timeline c) {now : ℚ} {tick : RtpMediaClockTick}
    (hresolved : RtpMediaTimeline.Resolved timeline c.nextFrameIndex (c.lastTick.map RtpMediaClockTick.frameIndex) 0
      now stallPolicy tick) : Counted timeline (c.emit timeline stallPolicy tick now) := by
  have hbelow : ∀ before ∈ c.ticks, before.frameIndex < tick.frameIndex := fun before hbefore =>
    (h.below before hbefore).trans_le (h.ahead.trans hresolved.next)
  refine ⟨?_, ?_, ?_, ?_, ?_, ?_, ?_, ?_⟩
  · rw [emit_lastTick, emit_ticks, List.getLast?_concat]
  · rw [emit_reached, emit_nextFrameIndex]
  · rw [emit_ticks, emit_reached]
    intro before hbefore
    obtain hbefore | hnew := List.mem_append.mp hbefore
    · exact (hbelow before hbefore).trans (lt_add_one _)
    · obtain rfl := List.mem_singleton.mp hnew
      exact lt_add_one _
  · rw [emit_ticks, List.map_append, List.map_singleton, List.pairwise_append]
    refine ⟨h.ascending, List.pairwise_singleton _ _, fun i hi j hj => ?_⟩
    obtain ⟨before, hbefore, rfl⟩ := List.mem_map.mp hi
    obtain rfl := List.mem_singleton.mp hj
    exact hbelow before hbefore
  · rw [emit_emitted]
    intro t ht
    obtain hbefore | hnew := List.mem_append.mp ht
    · exact h.due t hbefore
    · obtain rfl := List.mem_singleton.mp hnew
      exact hresolved.due
  · rw [emit_ticks]
    intro t ht
    obtain hbefore | hnew := List.mem_append.mp ht
    · exact h.timestamp t hbefore
    · obtain rfl := List.mem_singleton.mp hnew
      rw [hresolved.timestamp, RtpMediaTimeline.timestamp, toUint32_eq, RtpMediaTimeline.elapsedSamples]
  · have hskipped := h.skipped
    rw [emit_ticks, emit_reached, List.length_append, List.length_singleton, List.map_append, List.sum_append,
      List.map_singleton, List.sum_singleton, skippedFrames_eq hresolved, Nat.cast_add, Nat.cast_one]
    omega
  · rw [emit_ticks, emit_lastTick, List.map_append, List.sum_append, List.map_singleton, List.sum_singleton,
      h.elapsed, hresolved.elapsedSamples, Option.map_some, Option.getD_some]
    omega

lemma le_resumeIndex (continuous : Option Bool) (now : ℚ) :
    c.nextFrameIndex ≤ c.resumeIndex timeline stallPolicy continuous now := by
  rw [resumeIndex]
  split_ifs
  · exact le_rfl
  · exact le_max_left _ _

@[simp] lemma clearTimer_emitted : c.clearTimer.emitted = c.emitted := by
  rw [clearTimer]
  cases c.timerHandle <;> rfl

@[simp] lemma clearTimer_lastTick : c.clearTimer.lastTick = c.lastTick := by
  rw [clearTimer]
  cases c.timerHandle <;> rfl

@[simp] lemma clearTimer_nextFrameIndex : c.clearTimer.nextFrameIndex = c.nextFrameIndex := by
  rw [clearTimer]
  cases c.timerHandle <;> rfl

/-- **A call** leaves the ticks as they are and lets the next slot grow, or it emits a tick. -/
lemma step_cases (timeline : RtpMediaTimeline) (stallPolicy : RtpMediaClockStallPolicy) (h : Armed c)
    (call : Call) :
    ((step timeline stallPolicy c call).emitted = c.emitted ∧
      (step timeline stallPolicy c call).lastTick = c.lastTick ∧
      c.nextFrameIndex ≤ (step timeline stallPolicy c call).nextFrameIndex ∧
      (call.isDefault → stallPolicy = .delay →
        (step timeline stallPolicy c call).nextFrameIndex = c.nextFrameIndex)) ∨
    ∃ (now : ℚ) (tick : RtpMediaClockTick) (c' : RtpMediaClock), RtpMediaTimeline.Resolved timeline c.nextFrameIndex
        (c.lastTick.map RtpMediaClockTick.frameIndex) 0 now stallPolicy tick ∧
      c'.emitted = c.emitted ∧ c'.lastTick = c.lastTick ∧ c'.nextFrameIndex = c.nextFrameIndex ∧
      step timeline stallPolicy c call = c'.emit timeline stallPolicy tick now := by
  cases call with
  | start now =>
    rw [step, start]
    split_ifs with hidle
    · exact .inl ⟨rfl, rfl, le_rfl, fun _ _ => rfl⟩
    · have hzero := h.fresh (not_not.mp hidle)
      exact .inl ⟨rfl, rfl, hzero.le, fun _ _ => hzero.symm⟩
  | pause =>
    rw [step, pause]
    split_ifs with hrunning
    · exact .inl ⟨rfl, rfl, le_rfl, fun _ _ => rfl⟩
    · rw [clearTimer_emitted, clearTimer_lastTick, clearTimer_nextFrameIndex]
      exact .inl ⟨rfl, rfl, le_rfl, fun _ _ => rfl⟩
  | resume continuous now =>
    rw [step, resume]
    split_ifs with hpaused
    · exact .inl ⟨rfl, rfl, le_rfl, fun _ _ => rfl⟩
    · refine .inl ⟨rfl, rfl, le_resumeIndex continuous now, fun hdefault hdelay => ?_⟩
      cases continuous with
      | some value => cases hdefault
      | none => exact if_pos (decide_eq_true hdelay)
  | stop =>
    rw [step, stop]
    split_ifs with hstopped
    · exact .inl ⟨rfl, rfl, le_rfl, fun _ _ => rfl⟩
    · rw [clearTimer_emitted, clearTimer_lastTick, clearTimer_nextFrameIndex]
      exact .inl ⟨rfl, rfl, le_rfl, fun _ _ => rfl⟩
  | timer handle now =>
    rw [step]
    split_ifs with hpending
    · rw [handleTimer]
      dsimp only
      rw [if_neg (not_not.mpr (h.of_pending hpending).1)]
      cases htick : timeline.resolveTick c.anchor c.nextFrameIndex (c.lastTick.map RtpMediaClockTick.frameIndex) 0
        now stallPolicy with
      | none => exact .inl ⟨rfl, rfl, le_rfl, fun _ _ => rfl⟩
      | some tick =>
        exact .inr ⟨now, tick, { c with timers := c.timers.clearTimeout handle, timerHandle := none },
          RtpMediaTimeline.resolved_of_resolveTick htick, rfl, rfl, rfl, rfl⟩
    · exact .inl ⟨rfl, rfl, le_rfl, fun _ _ => rfl⟩

lemma Counted.step (h : Counted timeline c) (harmed : Armed c) (call : Call) :
    Counted timeline (step timeline stallPolicy c call) := by
  obtain ⟨hemitted, hlast, hnext, -⟩ | ⟨now, tick, c', hresolved, hemitted, hlast, hnext, hstep⟩ :=
    step_cases timeline stallPolicy harmed call
  · exact h.congr hemitted hlast hnext
  · rw [hstep]
    rw [← hnext, ← hlast] at hresolved
    exact (h.congr hemitted hlast hnext.ge).emit hresolved

/-- A tick of a clock that delays is the one of the next slot. -/
lemma Gapless.emit (h : Gapless c) (hdelay : stallPolicy = .delay) {now : ℚ} {tick : RtpMediaClockTick}
    (hresolved : RtpMediaTimeline.Resolved timeline c.nextFrameIndex (c.lastTick.map RtpMediaClockTick.frameIndex) 0
      now stallPolicy tick) : Gapless (c.emit timeline stallPolicy tick now) := by
  refine ⟨?_, ?_⟩
  · rw [emit_nextFrameIndex, emit_reached]
  · rw [emit_ticks]
    intro t ht
    obtain hbefore | hnew := List.mem_append.mp ht
    · exact h.skipped t hbefore
    · obtain rfl := List.mem_singleton.mp hnew
      rw [skippedFrames_eq hresolved, hresolved.delay hdelay, h.next, sub_self]

lemma Gapless.congr (h : Gapless c) (hemitted : c'.emitted = c.emitted) (hlast : c'.lastTick = c.lastTick)
    (hnext : c'.nextFrameIndex = c.nextFrameIndex) : Gapless c' := by
  refine ⟨?_, ?_⟩
  · rw [hnext, h.next, reached, reached, hlast]
  · rw [ticks, hemitted]
    exact h.skipped

lemma Gapless.step (h : Gapless c) (harmed : Armed c) (hdelay : stallPolicy = .delay) {call : Call}
    (hdefault : call.isDefault) : Gapless (step timeline stallPolicy c call) := by
  obtain ⟨hemitted, hlast, -, hnext⟩ | ⟨now, tick, c', hresolved, hemitted, hlast, hnext, hstep⟩ :=
    step_cases timeline stallPolicy harmed call
  · exact h.congr hemitted hlast (hnext hdefault hdelay)
  · rw [hstep]
    rw [← hnext, ← hlast] at hresolved
    exact (h.congr hemitted hlast hnext).emit hdelay hresolved

/-! ## Runs -/

lemma armed_new : Armed {} := ⟨holds_empty, ⟨nofun, nofun⟩, fun _ => rfl⟩

lemma counted_new : Counted timeline {} where
  last := rfl
  ahead := le_rfl
  below := nofun
  ascending := List.Pairwise.nil
  due := nofun
  timestamp := nofun
  skipped := rfl
  elapsed := RtpMediaTimeline.elapsedSamples_zero.symm

lemma gapless_new : Gapless {} := ⟨rfl, nofun⟩

lemma Armed.run (timeline : RtpMediaTimeline) (stallPolicy : RtpMediaClockStallPolicy) (calls : List Call) :
    Armed (run timeline stallPolicy calls) :=
  List.foldlRecOn calls _ armed_new fun _ h call _ => h.step call

lemma Counted.run (calls : List Call) : Counted timeline (run timeline stallPolicy calls) := by
  refine (List.foldlRecOn (motive := fun c => Armed c ∧ Counted timeline c) calls _ ⟨armed_new, counted_new⟩ ?_).2
  rintro c ⟨harmed, hcounted⟩ call -
  exact ⟨harmed.step call, hcounted.step harmed call⟩

lemma Gapless.run {calls : List Call} (hdelay : stallPolicy = .delay) (hdefault : ∀ call ∈ calls, call.isDefault) :
    Gapless (run timeline stallPolicy calls) := by
  refine (List.foldlRecOn (motive := fun c => Armed c ∧ Gapless c) calls _ ⟨armed_new, gapless_new⟩ ?_).2
  rintro c ⟨harmed, hgapless⟩ call hcall
  exact ⟨harmed.step call, hgapless.step harmed hdelay (hdefault call hcall)⟩

/-- **A media clock counts every slot**, whatever calls and firings it gets, at whatever times. -/
theorem counted_run (timeline : RtpMediaTimeline) (stallPolicy : RtpMediaClockStallPolicy) (calls : List Call) :
    Counted timeline (RtpMediaClock.run timeline stallPolicy calls) ∧
      (stallPolicy = .delay → (∀ call ∈ calls, call.isDefault) →
        ∀ tick ∈ (RtpMediaClock.run timeline stallPolicy calls).ticks, tick.skippedFrames = 0) ∧
      ((RtpMediaClock.run timeline stallPolicy calls).state = .running →
        (RtpMediaClock.run timeline stallPolicy calls).timers.pending.length = 1) := by
  refine ⟨Counted.run calls, fun hdelay hdefault => (Gapless.run hdelay hdefault).skipped, fun hrunning => ?_⟩
  have harmed := Armed.run timeline stallPolicy calls
  obtain ⟨handle, hhandle⟩ := Option.isSome_iff_exists.mp (harmed.running.mp hrunning)
  have htimer := harmed.timer
  rw [hhandle] at htimer
  exact htimer.length

end RtpMediaClock

end Werift.Rtp
