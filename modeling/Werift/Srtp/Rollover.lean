import Mathlib

/-!
# Rollover counters (`rtp/src/srtp/context/context.ts`)

The index of a packet is its sequence number with the cycles before it.  Only the sequence number is
sent, and both sides guess the cycle from the highest index they have accepted.  A guess is right for
every packet less than half a cycle away from that index (`estimate_near`), and a commit keeps the
highest index (`Follows.commit`).
-/

namespace Werift.Srtp

/-- What `decryptRtp` and its siblings throw: the two errors of their own, and any other error. -/
inductive SrtpError
  | authentication (message : String)
  | rolloverCounterOverflow (message : String)
  | error
deriving DecidableEq

/-- `SequenceNumberCycle`. -/
def sequenceNumberCycle : ℕ := 0x10000

/-- `HalfSequenceNumberCycle`. -/
def halfSequenceNumberCycle : ℕ := 0x8000

/-- `MaxRolloverCounter`. -/
def maxRolloverCounter : ℕ := 0xffffffff

/-- `SrtpSsrcState`. -/
structure SrtpSsrcState where
  ssrc : ℕ
  rolloverCounter : ℕ := 0
  rolloverHasProcessed : Bool := false
  lastSequenceNumber : ℕ := 0
deriving DecidableEq

/-- `packetIndex(rolloverCounter, sequenceNumber)`. -/
def packetIndex (rolloverCounter sequenceNumber : ℕ) : ℕ :=
  rolloverCounter * sequenceNumberCycle + sequenceNumber

/-- `guessRolloverCounter(sequenceNumber, s)`. -/
def guessRolloverCounter (sequenceNumber : ℕ) (s : SrtpSsrcState) : ℤ :=
  if !s.rolloverHasProcessed then 0
  else if s.lastSequenceNumber < halfSequenceNumberCycle then
    if (sequenceNumber : ℤ) - s.lastSequenceNumber > halfSequenceNumberCycle then
      s.rolloverCounter - 1
    else s.rolloverCounter
  else if (s.lastSequenceNumber : ℤ) - halfSequenceNumberCycle > sequenceNumber then
    s.rolloverCounter + 1
  else s.rolloverCounter

/-- `estimateRolloverCounter(sequenceNumber, s)`. -/
def estimateRolloverCounter (sequenceNumber : ℕ) (s : SrtpSsrcState) : Except SrtpError ℕ :=
  let roc := guessRolloverCounter sequenceNumber s
  if roc < 0 then .ok 0
  else if roc > maxRolloverCounter then
    .error (.rolloverCounterOverflow
      ("SRTP rollover counter exhausted for ssrc " ++ toString s.ssrc ++ ", re-keying required"))
  else .ok roc.toNat

/-- `commitPacketIndex(sequenceNumber, rolloverCounter, s)`. -/
def commitPacketIndex (sequenceNumber rolloverCounter : ℕ) (s : SrtpSsrcState) : SrtpSsrcState :=
  if !s.rolloverHasProcessed then
    { s with rolloverHasProcessed := true, rolloverCounter, lastSequenceNumber := sequenceNumber }
  else
    let delta := (packetIndex rolloverCounter sequenceNumber : ℤ) -
      packetIndex s.rolloverCounter s.lastSequenceNumber
    if delta > 0 ∧ delta ≤ halfSequenceNumberCycle then
      { s with rolloverCounter, lastSequenceNumber := sequenceNumber }
    else s

/-- The state has accepted packets, and `highest` is the highest index of them. -/
structure Follows (s : SrtpSsrcState) (highest : ℕ) : Prop where
  processed : s.rolloverHasProcessed = true
  lastSequenceNumber : s.lastSequenceNumber < sequenceNumberCycle
  index : packetIndex s.rolloverCounter s.lastSequenceNumber = highest

/-- Two indices less than half a cycle apart. -/
def Near (x y : ℕ) : Prop := x < y + halfSequenceNumberCycle ∧ y < x + halfSequenceNumberCycle

instance (x y : ℕ) : Decidable (Near x y) := inferInstanceAs (Decidable (_ ∧ _))

variable {s : SrtpSsrcState} {highest x : ℕ}

/-- **The guess is the cycle of the packet**, if its index is near the highest one. -/
theorem guess_near (hs : Follows s highest) (hx : Near x highest) :
    guessRolloverCounter (x % sequenceNumberCycle) s = (x / sequenceNumberCycle : ℕ) := by
  obtain ⟨hprocessed, hlast, rfl⟩ := hs
  obtain ⟨hlow, hhigh⟩ := hx
  simp only [guessRolloverCounter, hprocessed, Bool.not_true, Bool.false_eq_true, if_false]
  simp only [packetIndex, sequenceNumberCycle, halfSequenceNumberCycle] at *
  split_ifs <;> omega

/-- An estimate is the guess, when this is a counter. -/
lemma estimate_of_guess {sequenceNumber cycle : ℕ}
    (hguess : guessRolloverCounter sequenceNumber s = cycle) (hcycle : cycle ≤ maxRolloverCounter) :
    estimateRolloverCounter sequenceNumber s = .ok cycle := by
  rw [estimateRolloverCounter, hguess, if_neg (by omega), if_neg (by omega), Int.toNat_natCast]

/-- **The estimate of a packet near the highest one.** -/
theorem estimate_near (hs : Follows s highest) (hx : Near x highest)
    (hcycle : x / sequenceNumberCycle ≤ maxRolloverCounter) :
    estimateRolloverCounter (x % sequenceNumberCycle) s = .ok (x / sequenceNumberCycle) :=
  estimate_of_guess (guess_near hs hx) hcycle

/-- Behind the last cycle there is no counter. -/
theorem estimate_overflow (hs : Follows s highest) (hx : Near x highest)
    (hcycle : maxRolloverCounter < x / sequenceNumberCycle) :
    ∃ message, estimateRolloverCounter (x % sequenceNumberCycle) s =
      .error (.rolloverCounterOverflow message) := by
  rw [estimateRolloverCounter, guess_near hs hx, if_neg (by omega), if_pos (by exact_mod_cast hcycle)]
  exact ⟨_, rfl⟩

/-- A state that has accepted nothing takes a packet to be in the first cycle. -/
theorem estimate_fresh (hs : s.rolloverHasProcessed = false) (sequenceNumber : ℕ) :
    estimateRolloverCounter sequenceNumber s = .ok 0 := by
  refine estimate_of_guess ?_ (Nat.zero_le _)
  rw [guessRolloverCounter, hs]
  rfl

lemma packetIndex_div_mod (x : ℕ) :
    packetIndex (x / sequenceNumberCycle) (x % sequenceNumberCycle) = x :=
  Nat.div_add_mod' x _

/-- The first commit. -/
lemma follows_commit_fresh (hs : s.rolloverHasProcessed = false) (x : ℕ) :
    Follows (commitPacketIndex (x % sequenceNumberCycle) (x / sequenceNumberCycle) s) x := by
  rw [commitPacketIndex, hs]
  exact ⟨rfl, Nat.mod_lt _ (by decide), packetIndex_div_mod x⟩

/-- **A commit keeps the highest index.** -/
theorem Follows.commit (hs : Follows s highest) (hx : Near x highest) :
    Follows (commitPacketIndex (x % sequenceNumberCycle) (x / sequenceNumberCycle) s)
      (max highest x) := by
  simp only [commitPacketIndex, hs.processed, Bool.not_true, Bool.false_eq_true, if_false,
    packetIndex_div_mod, hs.index]
  have hnear := hx.1
  split_ifs with hdelta
  · rw [max_eq_right (by omega)]
    exact ⟨rfl, Nat.mod_lt _ (by decide), packetIndex_div_mod x⟩
  · rw [max_eq_left (by omega)]
    exact hs

end Werift.Srtp
