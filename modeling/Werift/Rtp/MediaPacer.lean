import Werift.Rtp.MediaClock

/-!
# The media pacer (`RtpMediaPacer` of `rtp/src/rtp/mediaClock.ts`)

The pacer emits the frames that are pushed, one for each timer that fires when the first frame of the queue is due.
An anchor maps the time of a frame to a deadline.  A stall or a pause moves the anchor, and the delay says by how
much it has moved so far, so that each deadline lies on one line (`OnLine`).
-/

namespace Werift.Rtp

open OneTimer

/-- The fields of `RtpMediaPacer` that do not change. -/
structure RtpMediaPacerSettings where
  clockRate : ℚ
  initialTimestamp : ℤ
  latencyMs : ℚ
  clockRate_pos : 0 < clockRate
  latencyMs_nonneg : 0 ≤ latencyMs

/-- `new RtpMediaPacer(options)`, with the random timestamp where none is given. -/
def RtpMediaPacerSettings.new (clockRate initialTimestamp : ℚ) (latencyMs : Option ℚ) :
    Except String RtpMediaPacerSettings :=
  if hrate : 0 < clockRate then
    if hlatency : 0 ≤ latencyMs.getD 0 then
      .ok ⟨clockRate, toUint32 (Js.mathRound initialTimestamp), latencyMs.getD 0, hrate, hlatency⟩
    else .error "latencyMs must be a non-negative finite number"
  else .error "clockRate must be a positive finite number"

/-- A frame that is pushed. -/
structure PacerEntry (T : Type*) where
  frame : T
  pts : ℚ
  dts : ℚ

/-- `RtpMediaPacerTick<T>`. -/
structure RtpMediaPacerTick (T : Type*) where
  frame : T
  frameIndex : ℕ
  timestamp : ℤ
  pts : ℚ
  dts : ℚ
  deadline : ℚ
  lateness : ℚ
  delay : ℚ

/-- The frame of a tick. -/
def RtpMediaPacerTick.entry {T : Type*} (tick : RtpMediaPacerTick T) : PacerEntry T :=
  ⟨tick.frame, tick.pts, tick.dts⟩

/-- A tick that is emitted at the time `time`.  Its deadline is from a timeline that is moved by `shift` in all. -/
structure Emission (T : Type*) where
  time : ℚ
  tick : RtpMediaPacerTick T
  shift : ℚ

/-- `anchor` of `RtpMediaPacer`. -/
structure PacerAnchor where
  time : ℚ
  dts : ℚ

/-- `RtpMediaPacer`, its scheduler, the frames that it has accepted and the ticks that it has emitted. -/
structure RtpMediaPacer (T : Type*) where
  state : RtpMediaClockState := .idle
  queue : List (PacerEntry T) := []
  firstPts : Option ℚ := none
  lastPushedDts : Option ℚ := none
  anchor : Option PacerAnchor := none
  frameIndex : ℕ := 0
  delay : ℚ := 0
  lastTick : Option (RtpMediaPacerTick T) := none
  timerHandle : Option ℕ := none
  timers : Timers ℚ := {}
  pushed : List (PacerEntry T) := []
  emitted : List (Emission T) := []

namespace RtpMediaPacer

variable {T : Type*}

section

variable (settings : RtpMediaPacerSettings) (c : RtpMediaPacer T)

/-- `deadline(dts)`. -/
def deadline (anchor : PacerAnchor) (dts : ℚ) : ℚ := anchor.time + (dts - anchor.dts) * 1000 / settings.clockRate

/-- `reanchor(time, dts)`. -/
def reanchor (time dts : ℚ) : RtpMediaPacer T :=
  match c.anchor with
  | none => { c with anchor := some ⟨time, dts⟩ }
  | some anchor =>
    { c with delay := c.delay + (time - deadline settings anchor dts), anchor := some ⟨time, dts⟩ }

/-- `scheduleNext(now)`. -/
def scheduleNext (now : ℚ) : RtpMediaPacer T :=
  match c.queue with
  | [] => c
  | next :: _ =>
    let anchor := c.anchor.getD ⟨now + settings.latencyMs, next.dts⟩
    let timer := c.timers.setTimeout (max 0 (deadline settings anchor next.dts - now))
    { c with anchor := some anchor, timerHandle := some timer.1, timers := timer.2 }

/-- `clearTimer()`. -/
def clearTimer : RtpMediaPacer T :=
  match c.timerHandle with
  | none => c
  | some handle => { c with timerHandle := none, timers := c.timers.clearTimeout handle }

/-- `push(frame, { pts, dts })` at the time `now`. -/
def push (frame : T) (pts : ℚ) (timingDts : Option ℚ) (now : ℚ) : Except String (RtpMediaPacer T) :=
  if c.state = .stopped then .error "RtpMediaPacer is stopped"
  else
    let dts := timingDts.getD pts
    if ∃ last ∈ c.lastPushedDts, dts < last then .error "frames must be pushed in non-decreasing dts order"
    else
      let c := { c with
        lastPushedDts := some dts
        firstPts := some (c.firstPts.getD pts)
        queue := c.queue ++ [⟨frame, pts, dts⟩]
        pushed := c.pushed ++ [⟨frame, pts, dts⟩] }
      .ok (if c.state = .running ∧ c.timerHandle = none then c.scheduleNext settings now else c)

/-- `start()` at the time `now`. -/
def start (now : ℚ) : Except String (RtpMediaPacer T) :=
  if c.state ≠ .idle then .error ("RtpMediaPacer cannot start from state " ++ c.state.name)
  else .ok ({ c with state := .running }.scheduleNext settings now)

/-- `pause()`. -/
def pause : RtpMediaPacer T := if c.state ≠ .running then c else { c with state := .paused }.clearTimer

/-- The shift when a pacer goes on whose next frame has become due. -/
def catchUp (now : ℚ) : RtpMediaPacer T :=
  match c.queue, c.anchor with
  | next :: _, some anchor =>
    if deadline settings anchor next.dts < now then c.reanchor settings now next.dts else c
  | _, _ => c

/-- `resume()` at the time `now`. -/
def resume (now : ℚ) : RtpMediaPacer T :=
  if c.state ≠ .paused then c
  else ({ c with state := .running }.catchUp settings now).scheduleNext settings now

/-- `stop()`. -/
def stop : RtpMediaPacer T :=
  if c.state = .stopped then c else { { c with state := .stopped }.clearTimer with queue := [] }

/-- The next frame is overdue as well. -/
def stalled (anchor : PacerAnchor) (rest : List (PacerEntry T)) (now : ℚ) : Bool :=
  rest.head?.any fun next => deadline settings anchor next.dts ≤ now

/-- A stall becomes latency. -/
def absorb (anchor : PacerAnchor) (entry : PacerEntry T) (now : ℚ) : RtpMediaPacer T :=
  if stalled settings anchor c.queue now then c.reanchor settings now entry.dts else c

/-- The tick of the first frame of the queue. -/
def tickOf (anchor : PacerAnchor) (entry : PacerEntry T) (now : ℚ) : RtpMediaPacerTick T where
  frame := entry.frame
  frameIndex := c.frameIndex
  timestamp := toUint32 (settings.initialTimestamp + Js.mathRound (entry.pts - c.firstPts.getD 0))
  pts := entry.pts
  dts := entry.dts
  deadline := deadline settings anchor entry.dts
  lateness := now - deadline settings anchor entry.dts
  delay := c.delay

/-- A tick is emitted, whose deadline was fixed when the timeline was moved by `shift` in all. -/
def commit (tick : RtpMediaPacerTick T) (shift now : ℚ) : RtpMediaPacer T :=
  { c with frameIndex := c.frameIndex + 1, lastTick := some tick, emitted := c.emitted ++ [⟨now, tick, shift⟩] }

/-- The first frame of the queue is emitted, and the next one scheduled. -/
def emit (anchor : PacerAnchor) (entry : PacerEntry T) (rest : List (PacerEntry T)) (now : ℚ) : RtpMediaPacer T :=
  let absorbed := { c with queue := rest }.absorb settings anchor entry now
  (absorbed.commit (absorbed.tickOf settings anchor entry now) c.delay now).scheduleNext settings now

/-- `handleTimer()`.  A timer without an anchor would be an error. -/
def handleTimer (now : ℚ) : RtpMediaPacer T :=
  let c := { c with timerHandle := none }
  match c.queue, c.anchor with
  | entry :: rest, some anchor =>
    if c.state ≠ .running then c
    else if now < deadline settings anchor entry.dts - SLOT_EPSILON then c.scheduleNext settings now
    else c.emit settings anchor entry rest now
  | _, _ => c

/-- What happens to a pacer. -/
inductive Call (T : Type*)
  | push (frame : T) (pts : ℚ) (dts : Option ℚ) (now : ℚ)
  | start (now : ℚ)
  | pause
  | resume (now : ℚ)
  | stop
  /-- A timer fires, at any time. -/
  | timer (handle : ℕ) (now : ℚ)

/-- One call, that a tick may have made as well.  One that throws changes nothing, and only a timer that is pending
fires. -/
def step : Call T → RtpMediaPacer T
  | .push frame pts dts now => (c.push settings frame pts dts now).toOption.getD c
  | .start now => (c.start settings now).toOption.getD c
  | .pause => c.pause
  | .resume now => c.resume settings now
  | .stop => c.stop
  | .timer handle now =>
    if handle ∈ c.timers.pending.map Prod.fst then
      { c with timers := c.timers.clearTimeout handle }.handleTimer settings now
    else c

/-- A new pacer after these calls. -/
def run (calls : List (Call T)) : RtpMediaPacer T := calls.foldl (step settings) {}

end

/-- A pacer holds a timer while it runs and has frames, and no other one is pending. -/
structure Armed (c : RtpMediaPacer T) : Prop where
  timer : Holds c.timerHandle c.timers
  running : c.timerHandle.isSome ↔ c.state = .running ∧ c.queue ≠ []
  anchored : c.timerHandle.isSome → c.anchor.isSome

/-- The frames that have been emitted. -/
def sent (c : RtpMediaPacer T) : List (PacerEntry T) := c.emitted.map fun e => e.tick.entry

/-- **No frame is lost** before a stop, and none is out of order. -/
structure Fifo (c : RtpMediaPacer T) : Prop where
  conserved : c.state ≠ .stopped → c.sent ++ c.queue = c.pushed
  stopped : c.state = .stopped → c.queue = [] ∧ c.sent <+: c.pushed
  sorted : c.queue.Pairwise fun entry entry' => entry.dts ≤ entry'.dts
  last : ∀ entry ∈ c.queue, ∃ last ∈ c.lastPushedDts, entry.dts ≤ last
  index : c.emitted.map (fun e => e.tick.frameIndex) = List.range c.frameIndex

variable {settings : RtpMediaPacerSettings}

/-- The deadlines lie on a line that each shift moves. -/
structure OnLine (settings : RtpMediaPacerSettings) (origin : ℚ) (c : RtpMediaPacer T) : Prop where
  fresh : c.anchor = none → c.emitted = [] ∧ c.delay = 0
  anchor : ∀ anchor ∈ c.anchor, anchor.time = origin + anchor.dts * 1000 / settings.clockRate + c.delay
  deadline : ∀ e ∈ c.emitted, e.tick.deadline = origin + e.tick.dts * 1000 / settings.clockRate + e.shift
  due : ∀ e ∈ c.emitted, e.tick.deadline - SLOT_EPSILON ≤ e.time
  shift : ∀ e ∈ c.emitted, e.shift ≤ e.tick.delay ∧ e.tick.delay ≤ c.delay

/-- The timeline stays, or a late time moves it. -/
inductive Shifted (settings : RtpMediaPacerSettings) (c : RtpMediaPacer T) : RtpMediaPacer T → Prop
  | stays : Shifted settings c c
  | late {anchor : PacerAnchor} {time dts : ℚ} (hanchor : c.anchor = some anchor)
      (hlate : RtpMediaPacer.deadline settings anchor dts ≤ time) :
      Shifted settings c { c with
        delay := c.delay + (time - RtpMediaPacer.deadline settings anchor dts)
        anchor := some ⟨time, dts⟩ }

/-- The frames are the same. -/
structure SameFrames (c c' : RtpMediaPacer T) : Prop where
  queue : c'.queue = c.queue
  pushed : c'.pushed = c.pushed
  emitted : c'.emitted = c.emitted
  lastPushedDts : c'.lastPushedDts = c.lastPushedDts
  frameIndex : c'.frameIndex = c.frameIndex

variable {c c' : RtpMediaPacer T} {origin now : ℚ} {anchor : PacerAnchor} {entry : PacerEntry T}
variable {rest : List (PacerEntry T)}

/-! ## What the parts leave alone -/

lemma sameFrames_scheduleNext (settings : RtpMediaPacerSettings) (c : RtpMediaPacer T) (now : ℚ) :
    SameFrames c (c.scheduleNext settings now) := by
  rw [scheduleNext]
  split
  · exact ⟨rfl, rfl, rfl, rfl, rfl⟩
  · exact ⟨rfl, rfl, rfl, rfl, rfl⟩

lemma sameFrames_clearTimer (c : RtpMediaPacer T) : SameFrames c c.clearTimer := by
  rw [clearTimer]
  split
  · exact ⟨rfl, rfl, rfl, rfl, rfl⟩
  · exact ⟨rfl, rfl, rfl, rfl, rfl⟩

lemma Shifted.sameFrames (h : Shifted settings c c') : SameFrames c c' := by
  cases h with
  | stays => exact ⟨rfl, rfl, rfl, rfl, rfl⟩
  | late => exact ⟨rfl, rfl, rfl, rfl, rfl⟩

@[simp] lemma scheduleNext_state : (c.scheduleNext settings now).state = c.state := by
  rw [scheduleNext]
  split <;> rfl

@[simp] lemma scheduleNext_delay : (c.scheduleNext settings now).delay = c.delay := by
  rw [scheduleNext]
  split <;> rfl

@[simp] lemma clearTimer_state : c.clearTimer.state = c.state := by
  rw [clearTimer]
  split <;> rfl

@[simp] lemma clearTimer_delay : c.clearTimer.delay = c.delay := by
  rw [clearTimer]
  split <;> rfl

@[simp] lemma clearTimer_anchor : c.clearTimer.anchor = c.anchor := by
  rw [clearTimer]
  split <;> rfl

@[simp] lemma clearTimer_timerHandle : c.clearTimer.timerHandle = none := by
  rw [clearTimer]
  split
  · assumption
  · rfl

lemma Shifted.state (h : Shifted settings c c') : c'.state = c.state := by cases h <;> rfl

lemma Shifted.timers (h : Shifted settings c c') : c'.timers = c.timers ∧ c'.timerHandle = c.timerHandle := by
  cases h with
  | stays => exact ⟨rfl, rfl⟩
  | late => exact ⟨rfl, rfl⟩

lemma Shifted.anchor_ne_none (h : Shifted settings c c') (hanchor : c.anchor = some anchor) : c'.anchor ≠ none := by
  cases h with
  | stays =>
    rw [hanchor]
    exact Option.some_ne_none anchor
  | late => exact Option.some_ne_none _

lemma Shifted.le_delay (h : Shifted settings c c') : c.delay ≤ c'.delay := by
  cases h with
  | stays => exact le_rfl
  | late _ hlate => exact le_add_of_nonneg_right (sub_nonneg.mpr hlate)

lemma shifted_reanchor (hanchor : c.anchor = some anchor) {time dts : ℚ}
    (hlate : deadline settings anchor dts ≤ time) : Shifted settings c (c.reanchor settings time dts) := by
  rw [reanchor, hanchor]
  exact .late hanchor hlate

lemma shifted_catchUp (c : RtpMediaPacer T) : Shifted settings c (c.catchUp settings now) := by
  rw [catchUp]
  split
  · rename_i hanchor
    split_ifs with hlate
    · exact shifted_reanchor hanchor hlate.le
    · exact .stays
  · exact .stays

lemma deadline_mono {dts dts' : ℚ} (h : dts ≤ dts') :
    deadline settings anchor dts ≤ deadline settings anchor dts' := by
  have hpos := settings.clockRate_pos
  rw [deadline, deadline]
  gcongr

/-- A stall is late, as the next frame is not before the one that is emitted. -/
lemma shifted_absorb (hanchor : c.anchor = some anchor) (hsorted : ∀ next ∈ c.queue, entry.dts ≤ next.dts) :
    Shifted settings c (c.absorb settings anchor entry now) := by
  rw [absorb]
  split_ifs with hstalled
  · cases hqueue : c.queue with
    | nil =>
      rw [hqueue] at hstalled
      cases hstalled
    | cons next rest =>
      rw [hqueue] at hstalled hsorted
      have hlate : deadline settings anchor next.dts ≤ now := of_decide_eq_true hstalled
      exact shifted_reanchor hanchor ((deadline_mono (hsorted next List.mem_cons_self)).trans hlate)
  · exact .stays

/-! ## The timer -/

lemma armed_new : Armed ({} : RtpMediaPacer T) := ⟨holds_empty, ⟨nofun, fun h => absurd h.1 nofun⟩, nofun⟩

lemma armed_scheduleNext (htimers : Holds none c.timers) (hhandle : c.timerHandle = none)
    (hstate : c.state = .running) : Armed (c.scheduleNext settings now) := by
  rw [scheduleNext]
  split
  · rename_i hqueue
    rw [← hhandle] at htimers
    refine ⟨htimers, ⟨fun h => ?_, fun h => absurd hqueue h.2⟩, fun h => ?_⟩
    · rw [hhandle] at h
      cases h
    · rw [hhandle] at h
      cases h
  · rename_i next rest hqueue
    refine ⟨htimers.setTimeout _, ⟨fun _ => ⟨hstate, ?_⟩, fun _ => rfl⟩, fun _ => rfl⟩
    rw [hqueue]
    exact List.cons_ne_nil next rest

lemma holds_clearTimer (h : Holds c.timerHandle c.timers) : Holds none c.clearTimer.timers := by
  rw [clearTimer]
  split
  · rename_i hhandle
    rw [hhandle] at h
    exact h
  · rename_i handle hhandle
    rw [hhandle] at h
    exact h.clearTimeout

lemma armed_of_ne_running (htimers : Holds none c.timers) (hhandle : c.timerHandle = none)
    (hstate : c.state ≠ .running) : Armed c := by
  refine ⟨?_, ⟨fun h => ?_, fun h => absurd h.1 hstate⟩, fun h => ?_⟩
  · rw [hhandle]
    exact htimers
  · rw [hhandle] at h
    cases h
  · rw [hhandle] at h
    cases h

/-- A pacer that does not run holds no timer. -/
lemma Armed.timerHandle_eq_none (h : Armed c) (hstate : c.state ≠ .running) : c.timerHandle = none :=
  Option.not_isSome_iff_eq_none.mp fun hsome => hstate (h.running.mp hsome).1

lemma Armed.holds_none (h : Armed c) (hstate : c.state ≠ .running) : Holds none c.timers := by
  have htimer := h.timer
  rw [h.timerHandle_eq_none hstate] at htimer
  exact htimer

/-- What a timer that fires finds. -/
lemma Armed.of_pending {handle : ℕ} (h : Armed c) (hpending : handle ∈ c.timers.pending.map Prod.fst) :
    c.state = .running ∧ c.queue ≠ [] ∧ c.anchor.isSome ∧ Holds none (c.timers.clearTimeout handle) := by
  have htimer := h.timer
  have hhandle := htimer.eq_of_mem hpending
  have hsome : c.timerHandle.isSome := by
    rw [hhandle]
    rfl
  rw [hhandle] at htimer
  exact ⟨(h.running.mp hsome).1, (h.running.mp hsome).2, h.anchored hsome, htimer.clearTimeout⟩

lemma armed_emit (htimers : Holds none c.timers) (hhandle : c.timerHandle = none) (hstate : c.state = .running)
    (hanchor : c.anchor = some anchor) (hsorted : ∀ next ∈ rest, entry.dts ≤ next.dts) :
    Armed (c.emit settings anchor entry rest now) := by
  have hshifted : Shifted settings { c with queue := rest }
      (absorb settings { c with queue := rest } anchor entry now) := shifted_absorb hanchor hsorted
  rw [emit]
  apply armed_scheduleNext
  · rw [← hshifted.timers.1] at htimers
    exact htimers
  · exact hshifted.timers.2.trans hhandle
  · exact hshifted.state.trans hstate

/-! ## The frames -/

lemma fifo_new : Fifo ({} : RtpMediaPacer T) := ⟨fun _ => rfl, nofun, List.Pairwise.nil, nofun, rfl⟩

lemma Fifo.congr (h : Fifo c) (hsame : SameFrames c c') (hstate : c'.state = .stopped ↔ c.state = .stopped) :
    Fifo c' := by
  refine ⟨fun hlive => ?_, fun hstopped => ?_, ?_, ?_, ?_⟩
  · rw [sent, hsame.emitted, hsame.queue, hsame.pushed]
    exact h.conserved (mt hstate.mpr hlive)
  · rw [sent, hsame.emitted, hsame.queue, hsame.pushed]
    exact h.stopped (hstate.mp hstopped)
  · rw [hsame.queue]
    exact h.sorted
  · rw [hsame.queue, hsame.lastPushedDts]
    exact h.last
  · rw [hsame.emitted, hsame.frameIndex]
    exact h.index

/-- The first frame of the queue is not after the other ones. -/
lemma Fifo.le_of_mem (h : Fifo c) (hqueue : c.queue = entry :: rest) : ∀ next ∈ rest, entry.dts ≤ next.dts := by
  have hsorted := h.sorted
  rw [hqueue] at hsorted
  exact fun next hnext => List.rel_of_pairwise_cons hsorted hnext

/-- What a pacer is after a push. -/
lemma Fifo.pushed (h : Fifo c) (entry : PacerEntry T) (hlive : c.state ≠ .stopped)
    (hlast : ¬∃ last ∈ c.lastPushedDts, entry.dts < last) (firstPts : Option ℚ) :
    Fifo { c with
      lastPushedDts := some entry.dts
      firstPts
      queue := c.queue ++ [entry]
      pushed := c.pushed ++ [entry] } := by
  have hle : ∀ before ∈ c.queue, before.dts ≤ entry.dts := by
    intro before hbefore
    obtain ⟨last, hmem, hbeforelast⟩ := h.last before hbefore
    exact hbeforelast.trans (not_lt.mp fun hlt => hlast ⟨last, hmem, hlt⟩)
  refine ⟨fun _ => ?_, fun hstopped => absurd hstopped hlive, ?_, ?_, h.index⟩
  · rw [← h.conserved hlive, List.append_assoc]
    rfl
  · refine List.pairwise_append.mpr ⟨h.sorted, List.pairwise_singleton _ _, fun before hbefore new hnew => ?_⟩
    obtain rfl := List.mem_singleton.mp hnew
    exact hle before hbefore
  · intro before hbefore
    refine ⟨entry.dts, rfl, ?_⟩
    obtain hbefore | hnew := List.mem_append.mp hbefore
    · exact hle before hbefore
    · exact (List.mem_singleton.mp hnew ▸ le_rfl)

lemma Fifo.stopped_of_live (h : Fifo c) (hlive : c.state ≠ .stopped) :
    Fifo { { c with state := .stopped }.clearTimer with queue := [] } := by
  have hsame := sameFrames_clearTimer { c with state := .stopped }
  refine ⟨fun hlive' => ?_, fun _ => ⟨rfl, ?_⟩, List.Pairwise.nil, nofun, ?_⟩
  · exact absurd (clearTimer_state (c := { c with state := .stopped })) hlive'
  · change List.map _ ({ c with state := .stopped } : RtpMediaPacer T).clearTimer.emitted <+: RtpMediaPacer.pushed _
    rw [hsame.emitted, hsame.pushed]
    exact ⟨c.queue, h.conserved hlive⟩
  · change List.map _ ({ c with state := .stopped } : RtpMediaPacer T).clearTimer.emitted =
      List.range (RtpMediaPacer.frameIndex _)
    rw [hsame.emitted, hsame.frameIndex]
    exact h.index

/-- What the emission of the first frame does. -/
structure Emits (settings : RtpMediaPacerSettings) (anchor : PacerAnchor) (entry : PacerEntry T)
    (rest : List (PacerEntry T)) (now : ℚ) (c c' : RtpMediaPacer T) (e : Emission T) : Prop where
  emitted : c'.emitted = c.emitted ++ [e]
  queue : c'.queue = rest
  pushed : c'.pushed = c.pushed
  lastPushedDts : c'.lastPushedDts = c.lastPushedDts
  frameIndex : c'.frameIndex = c.frameIndex + 1
  state : c'.state = c.state
  le_delay : c.delay ≤ c'.delay
  frame : e.tick.entry = entry
  index : e.tick.frameIndex = c.frameIndex
  deadline : e.tick.deadline = RtpMediaPacer.deadline settings anchor e.tick.dts
  time : e.time = now
  shift : e.shift = c.delay
  delay : e.tick.delay = c'.delay

lemma exists_emits (hanchor : c.anchor = some anchor) (hsorted : ∀ next ∈ rest, entry.dts ≤ next.dts) :
    ∃ e, Emits settings anchor entry rest now c (c.emit settings anchor entry rest now) e := by
  have hshifted : Shifted settings { c with queue := rest }
      (absorb settings { c with queue := rest } anchor entry now) := shifted_absorb hanchor hsorted
  have habsorbed := hshifted.sameFrames
  rw [emit]
  generalize absorb settings { c with queue := rest } anchor entry now = absorbed at hshifted habsorbed ⊢
  have hsame := sameFrames_scheduleNext settings
    (absorbed.commit (absorbed.tickOf settings anchor entry now) c.delay now) now
  exact ⟨⟨now, absorbed.tickOf settings anchor entry now, c.delay⟩, {
    emitted := hsame.emitted.trans (congrArg (· ++ _) habsorbed.emitted)
    queue := hsame.queue.trans habsorbed.queue
    pushed := hsame.pushed.trans habsorbed.pushed
    lastPushedDts := hsame.lastPushedDts.trans habsorbed.lastPushedDts
    frameIndex := hsame.frameIndex.trans (congrArg (· + 1) habsorbed.frameIndex)
    state := scheduleNext_state.trans hshifted.state
    le_delay := hshifted.le_delay.trans_eq (scheduleNext_delay (c := absorbed.commit _ _ _)).symm
    frame := rfl
    index := habsorbed.frameIndex
    deadline := rfl
    time := rfl
    shift := rfl
    delay := (scheduleNext_delay (c := absorbed.commit _ _ _)).symm }⟩

lemma Fifo.emit (h : Fifo c) (hlive : c.state ≠ .stopped) (hqueue : c.queue = entry :: rest) {e : Emission T}
    (hemits : Emits settings anchor entry rest now c c' e) : Fifo c' := by
  have hsorted := h.sorted
  have hlast := h.last
  rw [hqueue] at hsorted hlast
  refine ⟨fun _ => ?_, fun hstopped => absurd (hemits.state.symm.trans hstopped) hlive, ?_, ?_, ?_⟩
  · rw [sent, hemits.emitted, hemits.queue, hemits.pushed, ← h.conserved hlive, hqueue, List.map_append,
      List.map_singleton, hemits.frame, List.append_assoc]
    rfl
  · rw [hemits.queue]
    exact hsorted.of_cons
  · rw [hemits.queue, hemits.lastPushedDts]
    exact fun next hnext => hlast next (List.mem_cons_of_mem entry hnext)
  · rw [hemits.emitted, hemits.frameIndex, List.map_append, List.map_singleton, hemits.index, h.index,
      List.range_succ]

/-! ## The line -/

lemma onLine_new (origin : ℚ) : OnLine settings origin ({} : RtpMediaPacer T) :=
  ⟨fun _ => ⟨rfl, rfl⟩, nofun, fun _ h => absurd h List.not_mem_nil, fun _ h => absurd h List.not_mem_nil,
    fun _ h => absurd h List.not_mem_nil⟩

lemma OnLine.congr (h : OnLine settings origin c) (hanchor : c'.anchor = c.anchor)
    (hemitted : c'.emitted = c.emitted) (hdelay : c'.delay = c.delay) : OnLine settings origin c' := by
  refine ⟨?_, ?_, ?_, ?_, ?_⟩
  · rw [hanchor, hemitted, hdelay]
    exact h.fresh
  · rw [hanchor, hdelay]
    exact h.anchor
  · rw [hemitted]
    exact h.deadline
  · rw [hemitted]
    exact h.due
  · rw [hemitted, hdelay]
    exact h.shift

/-- The deadline of a frame, once the timeline is anchored. -/
lemma OnLine.deadline_eq (h : OnLine settings origin c) (hanchor : c.anchor = some anchor) (dts : ℚ) :
    RtpMediaPacer.deadline settings anchor dts = origin + dts * 1000 / settings.clockRate + c.delay := by
  rw [RtpMediaPacer.deadline, h.anchor anchor hanchor]
  ring

lemma OnLine.shifted (h : OnLine settings origin c) (hshifted : Shifted settings c c') :
    OnLine settings origin c' := by
  have hle := hshifted.le_delay
  cases hshifted with
  | stays => exact h
  | late hanchor hlate =>
    refine ⟨nofun, fun anchor' hanchor' => ?_, h.deadline, h.due, fun e he => ?_⟩
    · obtain rfl := Option.some.inj hanchor'
      rw [h.deadline_eq hanchor]
      ring
    · exact ⟨(h.shift e he).1, (h.shift e he).2.trans hle⟩

lemma OnLine.scheduleNext (h : OnLine settings origin c) :
    ∃ origin', OnLine settings origin' (c.scheduleNext settings now) := by
  rw [RtpMediaPacer.scheduleNext]
  split
  · exact ⟨origin, h⟩
  · rename_i next rest hqueue
    cases hanchor : c.anchor with
    | some anchor => exact ⟨origin, h.congr hanchor.symm rfl rfl⟩
    | none =>
      obtain ⟨hemitted, hdelay⟩ := h.fresh hanchor
      refine ⟨now + settings.latencyMs - next.dts * 1000 / settings.clockRate, nofun, fun anchor' hanchor' => ?_,
        ?_, ?_, ?_⟩
      · obtain rfl := Option.some.inj hanchor'
        change now + settings.latencyMs = _ + next.dts * 1000 / settings.clockRate + c.delay
        rw [hdelay]
        ring
      · exact fun e he => absurd (hemitted ▸ he) (List.not_mem_nil)
      · exact fun e he => absurd (hemitted ▸ he) (List.not_mem_nil)
      · exact fun e he => absurd (hemitted ▸ he) (List.not_mem_nil)

lemma OnLine.emit (h : OnLine settings origin c) (hanchor : c.anchor = some anchor)
    (hsorted : ∀ next ∈ rest, entry.dts ≤ next.dts)
    (hdue : RtpMediaPacer.deadline settings anchor entry.dts - SLOT_EPSILON ≤ now) :
    ∃ origin', OnLine settings origin' (c.emit settings anchor entry rest now) := by
  have hshifted : Shifted settings { c with queue := rest }
      (absorb settings { c with queue := rest } anchor entry now) := shifted_absorb hanchor hsorted
  have hrest : OnLine settings origin { c with queue := rest } := h.congr rfl rfl rfl
  have habsorbed := hrest.shifted hshifted
  rw [RtpMediaPacer.emit]
  refine OnLine.scheduleNext (?_ : OnLine settings origin _)
  refine ⟨fun hnone => ?_, habsorbed.anchor, fun e he => ?_, fun e he => ?_, fun e he => ?_⟩
  · exact absurd hnone (hshifted.anchor_ne_none hanchor)
  · obtain hbefore | hnew := List.mem_append.mp he
    · exact habsorbed.deadline e hbefore
    · obtain rfl := List.mem_singleton.mp hnew
      exact h.deadline_eq hanchor entry.dts
  · obtain hbefore | hnew := List.mem_append.mp he
    · exact habsorbed.due e hbefore
    · obtain rfl := List.mem_singleton.mp hnew
      exact hdue
  · obtain hbefore | hnew := List.mem_append.mp he
    · exact habsorbed.shift e hbefore
    · obtain rfl := List.mem_singleton.mp hnew
      exact ⟨hshifted.le_delay, le_rfl⟩

/-! ## Calls -/

/-- **What a pacer keeps.** -/
structure Kept (settings : RtpMediaPacerSettings) (c : RtpMediaPacer T) : Prop where
  armed : Armed c
  fifo : Fifo c
  line : ∃ origin, OnLine settings origin c

lemma kept_new : Kept settings ({} : RtpMediaPacer T) := ⟨armed_new, fifo_new, 0, onLine_new 0⟩

lemma Fifo.setState (h : Fifo c) (hlive : c.state ≠ .stopped) {state : RtpMediaClockState}
    (hlive' : state ≠ .stopped) : Fifo { c with state } :=
  h.congr ⟨rfl, rfl, rfl, rfl, rfl⟩ ⟨fun h => absurd h hlive', fun h => absurd h hlive⟩

/-- A pacer that runs without a timer sets one. -/
lemma kept_scheduleNext (htimers : Holds none c.timers) (hhandle : c.timerHandle = none)
    (hstate : c.state = .running) (hfifo : Fifo c) (hline : OnLine settings origin c) :
    Kept settings (c.scheduleNext settings now) where
  armed := armed_scheduleNext htimers hhandle hstate
  fifo := hfifo.congr (sameFrames_scheduleNext settings c _) (by rw [scheduleNext_state])
  line := hline.scheduleNext

lemma Kept.push (h : Kept settings c) {frame : T} {pts : ℚ} {timingDts : Option ℚ}
    (hpush : c.push settings frame pts timingDts now = .ok c') : Kept settings c' := by
  obtain ⟨harmed, hfifo, origin, hline⟩ := h
  rw [RtpMediaPacer.push] at hpush
  dsimp only at hpush
  split_ifs at hpush with hlive hlast hidle <;> obtain rfl := Except.ok.inj hpush
  · apply kept_scheduleNext
    · have htimer := harmed.timer
      rw [hidle.2] at htimer
      exact htimer
    · exact hidle.2
    · exact hidle.1
    · exact hfifo.pushed ⟨frame, pts, timingDts.getD pts⟩ hlive hlast _
    · exact hline.congr rfl rfl rfl
  · refine ⟨⟨harmed.timer, ⟨fun hsome => ?_, fun hrunning => ?_⟩, harmed.anchored⟩, ?_, origin, ?_⟩
    · exact ⟨(harmed.running.mp hsome).1, List.append_ne_nil_of_right_ne_nil _ (List.cons_ne_nil _ _)⟩
    · exact Option.isSome_iff_ne_none.mpr fun hnone => hidle ⟨hrunning.1, hnone⟩
    · exact hfifo.pushed ⟨frame, pts, timingDts.getD pts⟩ hlive hlast _
    · exact hline.congr rfl rfl rfl

lemma Kept.start (h : Kept settings c) (hstart : c.start settings now = .ok c') : Kept settings c' := by
  obtain ⟨harmed, hfifo, origin, hline⟩ := h
  rw [RtpMediaPacer.start] at hstart
  split_ifs at hstart with hidle
  obtain rfl := Except.ok.inj hstart
  have hstate : c.state = .idle := not_not.mp hidle
  have hne : c.state ≠ .running := by
    rw [hstate]
    exact nofun
  apply kept_scheduleNext
  · exact harmed.holds_none hne
  · exact harmed.timerHandle_eq_none hne
  · rfl
  · exact hfifo.setState (by rw [hstate]; exact nofun) nofun
  · exact hline.congr rfl rfl rfl

/-- A pacer that pauses or stops gives its timer up. -/
lemma armed_clearTimer (h : Armed c) {state : RtpMediaClockState} (hstate : state ≠ .running) :
    Armed ({ c with state }.clearTimer) := by
  apply armed_of_ne_running
  · exact holds_clearTimer h.timer
  · exact clearTimer_timerHandle
  · rw [clearTimer_state]
    exact hstate

lemma OnLine.clearTimer (h : OnLine settings origin c) (state : RtpMediaClockState) :
    OnLine settings origin ({ c with state }.clearTimer) :=
  h.congr clearTimer_anchor (sameFrames_clearTimer _).emitted clearTimer_delay

lemma Kept.pause (h : Kept settings c) : Kept settings c.pause := by
  obtain ⟨harmed, hfifo, origin, hline⟩ := h
  rw [RtpMediaPacer.pause]
  split_ifs with hrunning
  · exact ⟨harmed, hfifo, origin, hline⟩
  · have hlive : c.state ≠ .stopped := by
      rw [not_not.mp hrunning]
      exact nofun
    have hpaused : Fifo { c with state := .paused } := hfifo.setState hlive nofun
    refine ⟨armed_clearTimer harmed nofun, ?_, origin, hline.clearTimer _⟩
    apply hpaused.congr
    · exact sameFrames_clearTimer _
    · rw [clearTimer_state]

lemma Kept.stop (h : Kept settings c) : Kept settings c.stop := by
  obtain ⟨harmed, hfifo, origin, hline⟩ := h
  rw [RtpMediaPacer.stop]
  split_ifs with hstopped
  · exact ⟨harmed, hfifo, origin, hline⟩
  · refine ⟨?_, hfifo.stopped_of_live hstopped, origin, (hline.clearTimer _).congr rfl rfl rfl⟩
    have harmed' : Armed ({ c with state := .stopped }.clearTimer) := armed_clearTimer harmed nofun
    exact armed_of_ne_running (harmed'.holds_none (by rw [clearTimer_state]; exact nofun)) clearTimer_timerHandle
      (by rw [clearTimer_state]; exact nofun)

lemma Kept.resume (h : Kept settings c) : Kept settings (c.resume settings now) := by
  obtain ⟨harmed, hfifo, origin, hline⟩ := h
  rw [RtpMediaPacer.resume]
  split_ifs with hpaused
  · exact ⟨harmed, hfifo, origin, hline⟩
  · have hstate : c.state = .paused := not_not.mp hpaused
    have hne : c.state ≠ .running := by
      rw [hstate]
      exact nofun
    have hlive : c.state ≠ .stopped := by
      rw [hstate]
      exact nofun
    have hshifted : Shifted settings { c with state := .running }
        (catchUp settings { c with state := .running } now) := shifted_catchUp _
    have hfifo' : Fifo { c with state := .running } := hfifo.setState hlive nofun
    have hline' : OnLine settings origin { c with state := .running } := hline.congr rfl rfl rfl
    apply kept_scheduleNext
    · rw [hshifted.timers.1]
      exact harmed.holds_none hne
    · exact hshifted.timers.2.trans (harmed.timerHandle_eq_none hne)
    · exact hshifted.state
    · exact hfifo'.congr hshifted.sameFrames (by rw [hshifted.state])
    · exact hline'.shifted hshifted

/-- What the timer that is pending finds when it fires. -/
lemma Kept.of_pending (h : Kept settings c) {handle : ℕ} (hpending : handle ∈ c.timers.pending.map Prod.fst) :
    ∃ entry rest anchor, c.queue = entry :: rest ∧ c.anchor = some anchor ∧ c.state = .running ∧
      Holds none (c.timers.clearTimeout handle) := by
  obtain ⟨hstate, hqueue, hanchor, hheld⟩ := h.armed.of_pending hpending
  obtain ⟨entry, rest, hcons⟩ := List.exists_cons_of_ne_nil hqueue
  obtain ⟨anchor, hsome⟩ := Option.isSome_iff_exists.mp hanchor
  exact ⟨entry, rest, anchor, hcons, hsome, hstate, hheld⟩

/-- A pacer whose timer fires. -/
def fired (c : RtpMediaPacer T) (handle : ℕ) : RtpMediaPacer T :=
  { c with timers := c.timers.clearTimeout handle, timerHandle := none }

lemma handleTimer_eq (handle : ℕ) (hqueue : c.queue = entry :: rest) (hanchor : c.anchor = some anchor)
    (hstate : c.state = .running) :
    { c with timers := c.timers.clearTimeout handle }.handleTimer settings now =
      if now < deadline settings anchor entry.dts - SLOT_EPSILON then (c.fired handle).scheduleNext settings now
      else (c.fired handle).emit settings anchor entry rest now := by
  rw [handleTimer]
  dsimp only
  rw [hqueue, hanchor]
  dsimp only
  rw [if_neg (not_not.mpr hstate), fired, hqueue, hanchor]

lemma Kept.handleTimer (h : Kept settings c) {handle : ℕ} (hpending : handle ∈ c.timers.pending.map Prod.fst) :
    Kept settings ({ c with timers := c.timers.clearTimeout handle }.handleTimer settings now) := by
  obtain ⟨entry, rest, anchor, hqueue, hanchor, hstate, hheld⟩ := h.of_pending hpending
  obtain ⟨-, hfifo, origin, hline⟩ := h
  have hlive : c.state ≠ .stopped := by
    rw [hstate]
    exact nofun
  have hfifo' : Fifo (c.fired handle) := hfifo.congr ⟨rfl, rfl, rfl, rfl, rfl⟩ Iff.rfl
  have hline' : OnLine settings origin (c.fired handle) := hline.congr rfl rfl rfl
  rw [handleTimer_eq handle hqueue hanchor hstate]
  split_ifs with hearly
  · exact kept_scheduleNext hheld rfl hstate hfifo' hline'
  · have hsorted := hfifo.le_of_mem hqueue
    obtain ⟨e, hemits⟩ := exists_emits (c := c.fired handle) hanchor hsorted
    exact ⟨armed_emit hheld rfl hstate hanchor hsorted, hfifo'.emit hlive hqueue hemits,
      hline'.emit hanchor hsorted (not_lt.mp hearly)⟩

lemma Kept.step (h : Kept settings c) (call : Call T) : Kept settings (step settings c call) := by
  cases call with
  | push frame pts timingDts now =>
    rw [RtpMediaPacer.step]
    cases hpush : c.push settings frame pts timingDts now with
    | error message => exact h
    | ok c' => exact h.push hpush
  | start now =>
    rw [RtpMediaPacer.step]
    cases hstart : c.start settings now with
    | error message => exact h
    | ok c' => exact h.start hstart
  | pause => exact h.pause
  | resume now => exact h.resume
  | stop => exact h.stop
  | timer handle now =>
    rw [RtpMediaPacer.step]
    split_ifs with hpending
    · exact h.handleTimer hpending
    · exact h

lemma Kept.foldl (h : Kept settings c) (calls : List (Call T)) :
    Kept settings (calls.foldl (RtpMediaPacer.step settings) c) :=
  List.foldlRecOn calls _ h fun _ h call _ => h.step call

/-! ## The delay -/

lemma Kept.delay_le_step (h : Kept settings c) (call : Call T) :
    c.delay ≤ (RtpMediaPacer.step settings c call).delay := by
  cases call with
  | push frame pts timingDts now =>
    rw [RtpMediaPacer.step, RtpMediaPacer.push]
    dsimp only
    split_ifs
    · exact le_rfl
    · exact le_rfl
    · exact scheduleNext_delay.ge
    · exact le_rfl
  | start now =>
    rw [RtpMediaPacer.step, RtpMediaPacer.start]
    split_ifs
    · exact le_rfl
    · exact scheduleNext_delay.ge
  | pause =>
    rw [RtpMediaPacer.step, RtpMediaPacer.pause]
    split_ifs
    · exact le_rfl
    · exact clearTimer_delay.ge
  | resume now =>
    rw [RtpMediaPacer.step, RtpMediaPacer.resume]
    split_ifs
    · exact le_rfl
    · have hshifted : Shifted settings { c with state := .running }
        (catchUp settings { c with state := .running } now) := shifted_catchUp _
      exact hshifted.le_delay.trans scheduleNext_delay.ge
  | stop =>
    rw [RtpMediaPacer.step, RtpMediaPacer.stop]
    split_ifs
    · exact le_rfl
    · exact (clearTimer_delay (c := { c with state := .stopped })).ge
  | timer handle now =>
    rw [RtpMediaPacer.step]
    split_ifs with hpending
    · obtain ⟨entry, rest, anchor, hqueue, hanchor, hstate, -⟩ := h.of_pending hpending
      rw [handleTimer_eq handle hqueue hanchor hstate]
      split_ifs
      · exact scheduleNext_delay.ge
      · obtain ⟨e, hemits⟩ := exists_emits (c := c.fired handle) hanchor (h.fifo.le_of_mem hqueue)
        exact hemits.le_delay
    · exact le_rfl

lemma Kept.delay_le_foldl (h : Kept settings c) (calls : List (Call T)) :
    c.delay ≤ (calls.foldl (RtpMediaPacer.step settings) c).delay := by
  induction calls generalizing c with
  | nil => exact le_rfl
  | cons call calls ih => exact (h.delay_le_step call).trans (ih (h.step call))

/-! ## Firings in time -/

/-- The timer that is pending fires `lateness` after the deadline of the first frame. -/
def fire (settings : RtpMediaPacerSettings) (c : RtpMediaPacer T) (lateness : ℚ) : RtpMediaPacer T :=
  match c.timers.pending, c.queue, c.anchor with
  | (handle, _) :: _, entry :: _, some anchor =>
    step settings c (.timer handle (deadline settings anchor entry.dts + lateness))
  | _, _, _ => c

/-- A timer that does not fire early emits the first frame. -/
lemma Kept.fire (h : Kept settings c) (hstate : c.state = .running) (hqueue : c.queue = entry :: rest)
    {lateness : ℚ} (hlate : -SLOT_EPSILON ≤ lateness) :
    Kept settings (fire settings c lateness) ∧ (fire settings c lateness).state = .running ∧
      (fire settings c lateness).queue = rest ∧ (fire settings c lateness).pushed = c.pushed := by
  have hne : c.queue ≠ [] := by
    rw [hqueue]
    exact List.cons_ne_nil entry rest
  have hsome := h.armed.running.mpr ⟨hstate, hne⟩
  obtain ⟨handle, hhandle⟩ := Option.isSome_iff_exists.mp hsome
  obtain ⟨anchor, hanchor⟩ := Option.isSome_iff_exists.mp (h.armed.anchored hsome)
  have htimer := h.armed.timer
  rw [hhandle, Holds, Option.toList_some] at htimer
  obtain ⟨timer, hpending, htimerhandle⟩ := List.map_eq_singleton_iff.mp htimer
  have hmem : handle ∈ c.timers.pending.map Prod.fst := by
    rw [htimer]
    exact List.mem_singleton_self handle
  have hfire : RtpMediaPacer.fire settings c lateness =
      RtpMediaPacer.step settings c (.timer handle (deadline settings anchor entry.dts + lateness)) := by
    rw [RtpMediaPacer.fire, hpending, hqueue, hanchor, ← htimerhandle]
  rw [hfire]
  refine ⟨h.step _, ?_⟩
  rw [RtpMediaPacer.step, if_pos hmem, handleTimer_eq handle hqueue hanchor hstate,
    if_neg (by linarith)]
  obtain ⟨e, hemits⟩ := exists_emits (c := c.fired handle) hanchor (h.fifo.le_of_mem hqueue)
  exact ⟨hemits.state.trans hstate, hemits.queue, hemits.pushed⟩

/-- As many firings as there are frames empty the queue. -/
lemma Kept.drain (h : Kept settings c) (hstate : c.state = .running) {latenesses : List ℚ}
    (hlate : ∀ lateness ∈ latenesses, -SLOT_EPSILON ≤ lateness) (hlength : latenesses.length = c.queue.length) :
    (latenesses.foldl (RtpMediaPacer.fire settings) c).sent = c.pushed := by
  induction latenesses generalizing c with
  | nil =>
    have hnil : c.queue = [] := List.eq_nil_of_length_eq_zero hlength.symm
    have hconserved := h.fifo.conserved (by rw [hstate]; exact nofun)
    rw [hnil, List.append_nil] at hconserved
    exact hconserved
  | cons lateness latenesses ih =>
    have hpos : 0 < c.queue.length := by
      rw [← hlength, List.length_cons]
      exact Nat.succ_pos latenesses.length
    obtain ⟨entry, rest, hqueue⟩ := List.exists_cons_of_length_pos hpos
    obtain ⟨hkept, hstate', hqueue', hpushed⟩ := h.fire hstate hqueue (hlate lateness List.mem_cons_self)
    rw [List.foldl_cons, ← hpushed]
    refine ih hkept hstate' (fun l hl => hlate l (List.mem_cons_of_mem lateness hl)) ?_
    rw [hqueue, List.length_cons, List.length_cons] at hlength
    rw [hqueue']
    omega

/-- **A media pacer loses nothing**, whatever calls and firings it gets, at whatever times. -/
theorem loses_nothing (settings : RtpMediaPacerSettings) (calls : List (Call T)) :
    ((run settings calls).state ≠ .stopped →
      (run settings calls).sent ++ (run settings calls).queue = (run settings calls).pushed) ∧
    (run settings calls).sent <+: (run settings calls).pushed ∧
    ((run settings calls).state = .running → ∀ latenesses : List ℚ,
      (∀ lateness ∈ latenesses, -SLOT_EPSILON ≤ lateness) → latenesses.length = (run settings calls).queue.length →
        (latenesses.foldl (fire settings) (run settings calls)).sent = (run settings calls).pushed) ∧
    (∀ e ∈ (run settings calls).emitted, e.tick.deadline - SLOT_EPSILON ≤ e.time) ∧
    (∀ more, (run settings calls).delay ≤ (run settings (calls ++ more)).delay) ∧
    (∀ e ∈ (run settings calls).emitted, ∀ e' ∈ (run settings calls).emitted,
      e'.tick.deadline - e.tick.deadline =
        (e'.tick.dts - e.tick.dts) * 1000 / settings.clockRate + (e'.shift - e.shift)) ∧
    ((run settings calls).state = .running → (run settings calls).queue ≠ [] →
      (run settings calls).timers.pending.length = 1) := by
  have hkept : Kept settings (run settings calls) := kept_new.foldl calls
  obtain ⟨harmed, hfifo, origin, hline⟩ := id hkept
  refine ⟨hfifo.conserved, ?_, fun hstate latenesses => hkept.drain hstate, hline.due, fun more => ?_,
    fun e he e' he' => ?_, fun hstate hqueue => ?_⟩
  · by_cases hstopped : (run settings calls).state = .stopped
    · exact (hfifo.stopped hstopped).2
    · exact ⟨_, hfifo.conserved hstopped⟩
  · rw [run, run, List.foldl_append]
    exact hkept.delay_le_foldl more
  · rw [hline.deadline e he, hline.deadline e' he']
    ring
  · obtain ⟨handle, hhandle⟩ := Option.isSome_iff_exists.mp (harmed.running.mpr ⟨hstate, hqueue⟩)
    have htimer := harmed.timer
    rw [hhandle] at htimer
    exact htimer.length

end RtpMediaPacer

end Werift.Rtp
