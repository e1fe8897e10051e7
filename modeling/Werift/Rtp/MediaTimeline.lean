import Werift.Js.Number

/-!
# The timeline of media (`rtp/src/rtp/mediaClock.ts`)

The slots of a timeline have numbers, timestamps and, from an anchor on, deadlines.  All are computed from the
number of the slot.  Numbers that are not integers are rational here.
-/

namespace Werift.Rtp

open Js

/-- `SLOT_EPSILON`. -/
def SLOT_EPSILON : ℚ := 1 / 10 ^ 9

/-- `toUint32(value)`. -/
def toUint32 (value : ℤ) : ℤ :=
  let mod := Js.rem value 0x100000000
  if mod < 0 then mod + 0x100000000 else mod

lemma toUint32_eq (value : ℤ) : toUint32 value = value % 2 ^ 32 := by
  have hdiv := Int.tmod_add_mul_tdiv value 0x100000000
  have hlt : Int.tmod value 0x100000000 < 0x100000000 := Int.tmod_lt_of_pos value (by norm_num)
  have hgt : -0x100000000 < Int.tmod value 0x100000000 := by
    have := Int.lt_tmod_of_pos value (show (0 : ℤ) < 0x100000000 by norm_num)
    omega
  rw [toUint32, Js.rem]
  split_ifs <;> omega

/-- `RtpMediaTimelineOptions`, with the random timestamp where none is given. -/
structure RtpMediaTimelineOptions where
  clockRate : ℚ
  frameSamples : Option ℚ := none
  frameDurationMs : Option ℚ := none
  initialTimestamp : ℚ

/-- `RtpMediaTimelineAnchor`. -/
structure RtpMediaTimelineAnchor where
  time : ℚ
  frameIndex : ℤ

/-- `RtpMediaClockTick`. -/
structure RtpMediaClockTick where
  frameIndex : ℤ
  timestamp : ℤ
  elapsedSamples : ℤ
  skippedFrames : ℤ
  deadline : ℚ
  lateness : ℚ

/-- `RtpMediaClockStallPolicy`. -/
inductive RtpMediaClockStallPolicy
  | skip
  | delay
deriving DecidableEq

/-- `RtpMediaTimeline`. -/
structure RtpMediaTimeline where
  clockRate : ℚ
  frameSamples : ℚ
  frameDurationMs : ℚ
  initialTimestamp : ℤ
  clockRate_pos : 0 < clockRate
  frameSamples_pos : 0 < frameSamples
  frameDurationMs_pos : 0 < frameDurationMs
  frameSamples_eq : frameSamples = frameDurationMs * clockRate / 1000

namespace RtpMediaTimeline

/-- `new RtpMediaTimeline(options)`. -/
def new (options : RtpMediaTimelineOptions) : Except String RtpMediaTimeline :=
  if hrate : 0 < options.clockRate then
    match options.frameSamples, options.frameDurationMs with
    | some frameSamples, none =>
      if hsamples : 0 < frameSamples then
        .ok {
          clockRate := options.clockRate
          frameSamples
          frameDurationMs := frameSamples * 1000 / options.clockRate
          initialTimestamp := toUint32 (mathRound options.initialTimestamp)
          clockRate_pos := hrate
          frameSamples_pos := hsamples
          frameDurationMs_pos := by positivity
          frameSamples_eq := by field_simp }
      else .error "frameSamples must be a positive finite number"
    | none, some frameDurationMs =>
      if hduration : 0 < frameDurationMs then
        .ok {
          clockRate := options.clockRate
          frameSamples := frameDurationMs * options.clockRate / 1000
          frameDurationMs
          initialTimestamp := toUint32 (mathRound options.initialTimestamp)
          clockRate_pos := hrate
          frameSamples_pos := by positivity
          frameDurationMs_pos := hduration
          frameSamples_eq := rfl }
      else .error "frameDurationMs must be a positive finite number"
    | _, _ => .error "exactly one of frameSamples or frameDurationMs must be specified"
  else .error "clockRate must be a positive finite number"

variable (timeline : RtpMediaTimeline)

/-- `elapsedSamples(frameIndex)`. -/
def elapsedSamples (frameIndex : ℤ) : ℤ := mathRound (frameIndex * timeline.frameSamples)

/-- `timestamp(frameIndex)`. -/
def timestamp (frameIndex : ℤ) : ℤ := toUint32 (timeline.initialTimestamp + timeline.elapsedSamples frameIndex)

/-- `deadline(anchor, frameIndex)`. -/
def deadline (anchor : RtpMediaTimelineAnchor) (frameIndex : ℤ) : ℚ :=
  anchor.time + (frameIndex - anchor.frameIndex) * timeline.frameDurationMs

/-- `latestFrameIndex(anchor, now)`. -/
def latestFrameIndex (anchor : RtpMediaTimelineAnchor) (now : ℚ) : ℤ :=
  anchor.frameIndex + ⌊(now - anchor.time) / timeline.frameDurationMs + SLOT_EPSILON⌋

/-- `resolveTick({ anchor, nextFrameIndex, lastFrameIndex, baseFrameIndex, now, stallPolicy })`. -/
def resolveTick (anchor : RtpMediaTimelineAnchor) (nextFrameIndex : ℤ) (lastFrameIndex : Option ℤ)
    (baseFrameIndex : ℤ) (now : ℚ) (stallPolicy : RtpMediaClockStallPolicy) : Option RtpMediaClockTick :=
  let latest := timeline.latestFrameIndex anchor now
  if latest < nextFrameIndex then none
  else
    let frameIndex := if stallPolicy = .delay then nextFrameIndex else latest
    let deadline := timeline.deadline anchor frameIndex
    some {
      frameIndex
      timestamp := timeline.timestamp frameIndex
      elapsedSamples :=
        timeline.elapsedSamples frameIndex - timeline.elapsedSamples (lastFrameIndex.getD baseFrameIndex)
      skippedFrames := frameIndex - (lastFrameIndex.map (· + 1)).getD baseFrameIndex
      deadline
      lateness := now - deadline }

variable {timeline}
variable {anchor : RtpMediaTimelineAnchor} {nextFrameIndex baseFrameIndex : ℤ} {lastFrameIndex : Option ℤ} {now : ℚ}
variable {stallPolicy : RtpMediaClockStallPolicy} {tick : RtpMediaClockTick}

lemma elapsedSamples_zero : timeline.elapsedSamples 0 = 0 := by
  rw [elapsedSamples, Int.cast_zero, zero_mul, mathRound_zero]

/-- A slot that has been reached is at most `SLOT_EPSILON` frames early. -/
lemma deadline_le_of_le (h : nextFrameIndex ≤ timeline.latestFrameIndex anchor now) :
    timeline.deadline anchor nextFrameIndex - SLOT_EPSILON * timeline.frameDurationMs ≤ now := by
  have hpos := timeline.frameDurationMs_pos
  have hfloor : ((nextFrameIndex - anchor.frameIndex : ℤ) : ℚ) ≤
      (now - anchor.time) / timeline.frameDurationMs + SLOT_EPSILON := by
    refine Int.le_floor.mp ?_
    rw [latestFrameIndex] at h
    omega
  have hmul := mul_le_mul_of_nonneg_right hfloor hpos.le
  rw [add_mul, div_mul_cancel₀ _ hpos.ne', Int.cast_sub] at hmul
  rw [deadline]
  linarith

/-- What a tick says. -/
structure Resolved (timeline : RtpMediaTimeline) (nextFrameIndex : ℤ) (lastFrameIndex : Option ℤ)
    (baseFrameIndex : ℤ) (now : ℚ) (stallPolicy : RtpMediaClockStallPolicy) (tick : RtpMediaClockTick) : Prop where
  next : nextFrameIndex ≤ tick.frameIndex
  delay : stallPolicy = .delay → tick.frameIndex = nextFrameIndex
  timestamp : tick.timestamp = timeline.timestamp tick.frameIndex
  elapsedSamples : tick.elapsedSamples =
    timeline.elapsedSamples tick.frameIndex - timeline.elapsedSamples (lastFrameIndex.getD baseFrameIndex)
  skippedFrames : tick.skippedFrames = tick.frameIndex - (lastFrameIndex.map (· + 1)).getD baseFrameIndex
  due : tick.deadline - SLOT_EPSILON * timeline.frameDurationMs ≤ now

lemma resolved_of_resolveTick (h : timeline.resolveTick anchor nextFrameIndex lastFrameIndex baseFrameIndex now
    stallPolicy = some tick) :
    Resolved timeline nextFrameIndex lastFrameIndex baseFrameIndex now stallPolicy tick := by
  rw [resolveTick] at h
  dsimp only at h
  split_ifs at h with hearly hpolicy <;> obtain rfl := Option.some.inj h
  · exact ⟨le_rfl, fun _ => rfl, rfl, rfl, rfl, deadline_le_of_le (not_lt.mp hearly)⟩
  · exact ⟨not_lt.mp hearly, fun hdelay => absurd hdelay hpolicy, rfl, rfl, rfl, deadline_le_of_le le_rfl⟩

end RtpMediaTimeline

end Werift.Rtp
