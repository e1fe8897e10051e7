import Werift.Webrtc.StreamStatistics

/-!
# Interarrival jitter

The jitter is a running average of the differences of transit times.  A timestamp is a number of 32 bits, but
its difference to the one before is taken without reducing it; so a constant that is added to all timestamps
does not change the jitter as long as no difference wraps otherwise (`jitter_iff`).
-/

namespace Werift.Webrtc

open Rtp (RtpPacket)

/-- A packet and its time of arrival. -/
structure TimedPacket where
  packet : RtpPacket
  arrival : ℤ

namespace TimedPacket

/-- A constant added to the timestamp. -/
def shift (c : ℕ) (p : TimedPacket) : TimedPacket :=
  { p with packet := { p.packet with
      header := { p.packet.header with timestamp := (p.packet.header.timestamp + c) % 2 ^ 32 } } }

/-- The timestamp of a packet. -/
def timestamp (p : TimedPacket) : ℕ := p.packet.header.timestamp

end TimedPacket

/-- The statistics behind a sequence of packets. -/
def measure (s : StreamStatistics) (packets : List TimedPacket) : StreamStatistics :=
  packets.foldl (fun s p => s.add p.packet p.arrival) s

/-- The packet is in order, and its timestamp is another than that of the one before, which is `last`. -/
def Measured (s : StreamStatistics) (p : TimedPacket) (last : ℕ) : Prop :=
  s.inOrder p.packet = true ∧ s.last_timestamp = some last ∧ p.timestamp ≠ last

/-- The time between the arrivals of a packet and of the one before. -/
def arrivalStep (s : StreamStatistics) (p : TimedPacket) : ℤ := p.arrival - s.last_arrival.getD 0

/-- The transit times differ by the same modulo `2 ^ 32` when the constant is added. -/
def SameStep (c : ℕ) (s : StreamStatistics) (p : TimedPacket) : Prop :=
  ∀ last, Measured s p last →
    |arrivalStep s p - ((p.timestamp : ℤ) - last)| % 2 ^ 32 =
      |arrivalStep s p - ((((p.timestamp + c) % 2 ^ 32 : ℕ) : ℤ) - ((last + c) % 2 ^ 32 : ℕ))| % 2 ^ 32

/-- The average and the difference of the transit times stay within a signed word. -/
def SmallStep (s : StreamStatistics) (p : TimedPacket) : Prop :=
  ∀ last, Measured s p last →
    s.jitter_q4 % 2 ^ 32 + |arrivalStep s p - ((p.timestamp : ℤ) - last)| % 2 ^ 32 < 2 ^ 31 - 8

/-- Every step of a sequence. -/
def Steps (Step : StreamStatistics → TimedPacket → Prop) : StreamStatistics → List TimedPacket → Prop
  | _, [] => True
  | s, p :: packets => Step s p ∧ Steps Step (s.add p.packet p.arrival) packets

/-- What the fields of the last packet say once there is one. -/
structure Tracked (s : StreamStatistics) : Prop where
  max_seq : s.max_seq.isSome = s.last_timestamp.isSome
  packets_received : 0 < s.packets_received ↔ s.last_timestamp.isSome
  range : ∀ last ∈ s.last_timestamp, last < 2 ^ 32

/-- The statistics of a sequence and of the one with the constant added. -/
structure Shifted (c : ℕ) (s s' : StreamStatistics) : Prop where
  max_seq : s'.max_seq = s.max_seq
  packets_received : s'.packets_received = s.packets_received
  last_arrival : s'.last_arrival = s.last_arrival
  last_timestamp : s'.last_timestamp = s.last_timestamp.map fun last => (last + c) % 2 ^ 32

variable {c : ℕ} {s s' : StreamStatistics} {p : TimedPacket} {packets : List TimedPacket} {last : ℕ}

/-! ## One packet -/

/-- A packet that is not in order is counted only. -/
lemma add_of_not_inOrder (h : s.inOrder p.packet = false) :
    s.add p.packet p.arrival = s.count p.packet := by
  rw [StreamStatistics.add, h]
  rfl

lemma add_of_inOrder (h : s.inOrder p.packet = true) :
    s.add p.packet p.arrival = ((s.count p.packet).advance p.packet).estimate p.packet p.arrival := by
  rw [StreamStatistics.add, h]
  rfl

/-- A packet in order with another timestamp is measured: the difference of the transit times goes into the
average. -/
lemma jitter_q4_of_measured (hs : Tracked s) (h : Measured s p last) :
    (s.add p.packet p.arrival).jitter_q4 = s.jitter_q4 +
      (|arrivalStep s p - ((p.timestamp : ℤ) - last)| - Js.shiftRight (s.jitter_q4 + 8) 4) := by
  obtain ⟨horder, hlast, hne⟩ := h
  have hreceived : 1 < s.packets_received + 1 :=
    Nat.succ_lt_succ (hs.packets_received.mpr (by rw [hlast]; rfl))
  have htimestamp : some p.packet.header.timestamp ≠ s.last_timestamp := by
    rw [hlast]
    exact fun hsame => hne (Option.some.inj hsame)
  have hcondition : some p.packet.header.timestamp ≠
      ((s.count p.packet).advance p.packet).last_timestamp ∧
        1 < ((s.count p.packet).advance p.packet).packets_received := ⟨htimestamp, hreceived⟩
  rw [add_of_inOrder horder, StreamStatistics.estimate, if_pos hcondition]
  change s.jitter_q4 + (|p.arrival - s.last_arrival.getD 0 -
    ((p.packet.header.timestamp : ℤ) - (s.last_timestamp.getD 0 : ℕ))| - _) = _
  rw [hlast]
  rfl

/-- Any other packet leaves the average alone. -/
lemma jitter_q4_of_not_measured (hs : Tracked s) (h : ∀ last, ¬Measured s p last) :
    (s.add p.packet p.arrival).jitter_q4 = s.jitter_q4 := by
  cases horder : s.inOrder p.packet with
  | false =>
    rw [add_of_not_inOrder horder]
    rfl
  | true =>
    have hcondition : ¬(some p.packet.header.timestamp ≠
        ((s.count p.packet).advance p.packet).last_timestamp ∧
          1 < ((s.count p.packet).advance p.packet).packets_received) := by
      rintro ⟨hne, hreceived⟩
      have hpos : 0 < s.packets_received := Nat.lt_of_succ_lt_succ hreceived
      obtain ⟨last, hlast⟩ := Option.isSome_iff_exists.mp (hs.packets_received.mp hpos)
      refine h last ⟨horder, hlast, fun hsame => hne ?_⟩
      exact (congrArg some hsame).trans hlast.symm
    rw [add_of_inOrder horder, StreamStatistics.estimate, if_neg hcondition]
    rfl

/-- The fields of the last packet. -/
lemma Tracked.add (hs : Tracked s) (hp : p.timestamp < 2 ^ 32) : Tracked (s.add p.packet p.arrival) := by
  cases horder : s.inOrder p.packet with
  | false =>
    have hmax : s.max_seq.isSome = true := by
      cases hnone : s.max_seq with
      | none =>
        rw [StreamStatistics.inOrder, hnone] at horder
        cases horder
      | some => rfl
    rw [add_of_not_inOrder horder]
    refine ⟨hs.max_seq, ?_, hs.range⟩
    exact ⟨fun _ => hs.max_seq ▸ hmax, fun _ => Nat.succ_pos _⟩
  | true =>
    rw [add_of_inOrder horder]
    refine ⟨rfl, ⟨fun _ => rfl, fun _ => Nat.succ_pos _⟩, fun last hlast => ?_⟩
    obtain rfl := Option.some.inj hlast
    exact hp

/-- The two sequences go on alike. -/
lemma Shifted.add (h : Shifted c s s') :
    Shifted c (s.add p.packet p.arrival) (s'.add (p.shift c).packet (p.shift c).arrival) := by
  have horder : s'.inOrder (p.shift c).packet = s.inOrder p.packet := by
    rw [StreamStatistics.inOrder, StreamStatistics.inOrder, h.max_seq]
    rfl
  cases hold : s.inOrder p.packet with
  | false =>
    rw [add_of_not_inOrder hold, add_of_not_inOrder (horder.trans hold)]
    exact ⟨h.max_seq, congrArg (· + 1) h.packets_received, h.last_arrival, h.last_timestamp⟩
  | true =>
    rw [add_of_inOrder hold, add_of_inOrder (horder.trans hold)]
    exact ⟨rfl, congrArg (· + 1) h.packets_received, rfl, rfl⟩

/-- The same packets are measured. -/
lemma Shifted.measured_iff (h : Shifted c s s') (hs : Tracked s) (hp : p.timestamp < 2 ^ 32)
    (hlast : s.last_timestamp = some last) :
    Measured s' (p.shift c) ((last + c) % 2 ^ 32) ↔ Measured s p last := by
  have horder : s'.inOrder (p.shift c).packet = s.inOrder p.packet := by
    rw [StreamStatistics.inOrder, StreamStatistics.inOrder, h.max_seq]
    rfl
  have hrange := hs.range last hlast
  have hlast' : s'.last_timestamp = some ((last + c) % 2 ^ 32) := by
    rw [h.last_timestamp, hlast]
    rfl
  have hsame : (p.shift c).timestamp = (last + c) % 2 ^ 32 ↔ p.timestamp = last := by
    change (p.timestamp + c) % 2 ^ 32 = (last + c) % 2 ^ 32 ↔ _
    omega
  rw [Measured, Measured, horder, hlast', hlast]
  exact and_congr_right fun _ => and_congr (iff_of_true rfl rfl) (not_congr hsame)

lemma Shifted.exists_measured (h : Shifted c s s') (hs : Tracked s) (hp : p.timestamp < 2 ^ 32)
    (hnone : ∀ last, ¬Measured s p last) : ∀ last, ¬Measured s' (p.shift c) last := by
  intro last hmeasured
  have hlast' := hmeasured.2.1
  rw [h.last_timestamp] at hlast'
  obtain ⟨old, hold, rfl⟩ := Option.map_eq_some_iff.mp hlast'
  exact hnone old ((h.measured_iff hs hp hold).mp hmeasured)

/-- The shift to the right sees the signed word only. -/
lemma shiftRight_congr {a b : ℤ} (h : a % 2 ^ 32 = b % 2 ^ 32) (k : ℕ) :
    Js.shiftRight a k = Js.shiftRight b k := by
  have hword : BitVec.ofInt 32 a = BitVec.ofInt 32 b := by
    apply BitVec.eq_of_toInt_eq
    rw [BitVec.toInt_ofInt, BitVec.toInt_ofInt, Int.bmod_def, Int.bmod_def]
    exact congrArg (fun r : ℤ => if r < (2 ^ 32 + 1) / 2 then r else r - 2 ^ 32) h
  rw [Js.shiftRight, Js.shiftRight, hword]

/-- **One packet** keeps the averages alike iff it is the same step in both sequences. -/
lemma sameStep_iff (h : Shifted c s s') (hs : Tracked s) (hs' : Tracked s') (hp : p.timestamp < 2 ^ 32)
    (hjitter : s'.jitter_q4 % 2 ^ 32 = s.jitter_q4 % 2 ^ 32) :
    (s'.add (p.shift c).packet (p.shift c).arrival).jitter_q4 % 2 ^ 32 =
      (s.add p.packet p.arrival).jitter_q4 % 2 ^ 32 ↔ SameStep c s p := by
  by_cases hmeasured : ∃ last, Measured s p last
  · obtain ⟨last, hlast⟩ := hmeasured
    have hlast' := (h.measured_iff hs hp hlast.2.1).mpr hlast
    have harrival : arrivalStep s' (p.shift c) = arrivalStep s p := by
      rw [arrivalStep, arrivalStep, h.last_arrival]
      rfl
    have hround : (s'.jitter_q4 + 8) % 2 ^ 32 = (s.jitter_q4 + 8) % 2 ^ 32 := by omega
    have hstep : SameStep c s p ↔ |arrivalStep s p - ((p.timestamp : ℤ) - last)| % 2 ^ 32 =
        |arrivalStep s p - ((((p.timestamp + c) % 2 ^ 32 : ℕ) : ℤ) - ((last + c) % 2 ^ 32 : ℕ))| %
          2 ^ 32 := by
      refine ⟨fun hsame => hsame last hlast, fun hsame other hother => ?_⟩
      obtain rfl := Option.some.inj (hother.2.1.symm.trans hlast.2.1)
      exact hsame
    rw [jitter_q4_of_measured hs hlast, jitter_q4_of_measured hs' hlast', harrival,
      shiftRight_congr hround, hstep]
    change (_ + (|arrivalStep s p - ((((p.timestamp + c) % 2 ^ 32 : ℕ) : ℤ) -
      ((last + c) % 2 ^ 32 : ℕ))| - _)) % 2 ^ 32 = _ ↔ _
    omega
  · have hnone := not_exists.mp hmeasured
    rw [jitter_q4_of_not_measured hs hnone, jitter_q4_of_not_measured hs' (h.exists_measured hs hp hnone)]
    exact iff_of_true hjitter fun last hlast => absurd hlast (hnone last)

/-- A step is the same if both timestamps wrap or neither does. -/
lemma sameStep_of_laps (h : ∀ last, Measured s p last → (p.timestamp + c) / 2 ^ 32 = (last + c) / 2 ^ 32) :
    SameStep c s p := by
  intro last hmeasured
  have hlaps := h last hmeasured
  have hdifference : (p.timestamp : ℤ) - last =
      (((p.timestamp + c) % 2 ^ 32 : ℕ) : ℤ) - ((last + c) % 2 ^ 32 : ℕ) := by omega
  rw [hdifference]

/-! ## Sequences -/

/-- **The averages stay alike** iff every packet is the same step in both sequences. -/
lemma sameSteps_iff (h : Shifted c s s') (hs : Tracked s) (hs' : Tracked s')
    (hrange : ∀ p ∈ packets, p.timestamp < 2 ^ 32)
    (hjitter : s'.jitter_q4 % 2 ^ 32 = s.jitter_q4 % 2 ^ 32) :
    (∀ n, (measure s' ((packets.map (TimedPacket.shift c)).take n)).jitter_q4 % 2 ^ 32 =
      (measure s (packets.take n)).jitter_q4 % 2 ^ 32) ↔ Steps (SameStep c) s packets := by
  induction packets generalizing s s' with
  | nil =>
    refine iff_of_true (fun n => ?_) trivial
    rw [List.map_nil, List.take_nil]
    exact hjitter
  | cons p packets ih =>
    obtain ⟨hp, hrange⟩ := List.forall_mem_cons.mp hrange
    have hshift : (p.shift c).timestamp < 2 ^ 32 := Nat.mod_lt _ (by norm_num)
    have hstep := sameStep_iff h hs hs' hp hjitter
    constructor
    · intro hall
      have hone := hall 1
      have hsame := hstep.mp hone
      exact ⟨hsame, (ih h.add (hs.add hp) (hs'.add hshift) hrange hone).mp fun n => hall (n + 1)⟩
    · rintro ⟨hsame, hlater⟩ n
      cases n with
      | zero => exact hjitter
      | succ n =>
        exact (ih h.add (hs.add hp) (hs'.add hshift) hrange (hstep.mpr hsame)).mpr hlater n

/-- A small step keeps the average within a signed word. -/
lemma jitter_q4_lt_of_smallStep (hs : Tracked s) (hsmall : SmallStep s p)
    (hjitter : s.jitter_q4 % 2 ^ 32 < 2 ^ 31 - 8) :
    (s.add p.packet p.arrival).jitter_q4 % 2 ^ 32 < 2 ^ 31 - 8 := by
  by_cases hmeasured : ∃ last, Measured s p last
  · obtain ⟨last, hlast⟩ := hmeasured
    have hsum := hsmall last hlast
    have hround : (s.jitter_q4 + 8) % 2 ^ 32 = s.jitter_q4 % 2 ^ 32 + 8 := by omega
    have hshift : Js.shiftRight (s.jitter_q4 + 8) 4 = (s.jitter_q4 % 2 ^ 32 + 8) / 16 := by
      rw [Js.shiftRight_eq _ (by norm_num), Int.bmod_def]
      push_cast
      omega
    have hnonneg : 0 ≤ s.jitter_q4 % 2 ^ 32 := Int.emod_nonneg _ (by norm_num)
    have hle : (s.jitter_q4 % 2 ^ 32 + 8) / 16 ≤ s.jitter_q4 % 2 ^ 32 := by omega
    rw [jitter_q4_of_measured hs hlast, hshift]
    omega
  · rw [jitter_q4_of_not_measured hs (not_exists.mp hmeasured)]
    exact hjitter

/-- **Small steps** keep the jitter from becoming negative. -/
lemma jitter_nonneg_of_smallSteps (hs : Tracked s) (hrange : ∀ p ∈ packets, p.timestamp < 2 ^ 32)
    (hsmall : Steps SmallStep s packets) (hjitter : s.jitter_q4 % 2 ^ 32 < 2 ^ 31 - 8) (n : ℕ) :
    0 ≤ (measure s (packets.take n)).jitter := by
  induction packets generalizing s n with
  | nil =>
    rw [List.take_nil]
    exact (s.jitter_bounds.mpr (by omega)).1
  | cons p packets ih =>
    obtain ⟨hp, hrange⟩ := List.forall_mem_cons.mp hrange
    cases n with
    | zero => exact (s.jitter_bounds.mpr (by omega)).1
    | succ n =>
      exact ih (hs.add hp) hrange hsmall.2 (jitter_q4_lt_of_smallStep hs hsmall.1 hjitter) n

/-- **Adding a constant** to the timestamps: the average is the same modulo `2 ^ 32` behind every packet iff
every packet is the same step in both sequences; then the jitter is the same, and it is not negative if the
steps are small. -/
theorem jitter_iff (packets : List TimedPacket) (hrange : ∀ p ∈ packets, p.timestamp < 2 ^ 32) (c : ℕ) :
    ((∀ n, (measure {} ((packets.map (TimedPacket.shift c)).take n)).jitter_q4 % 2 ^ 32 =
      (measure {} (packets.take n)).jitter_q4 % 2 ^ 32) ↔ Steps (SameStep c) {} packets) ∧
    (Steps (SameStep c) {} packets → Steps SmallStep {} packets → ∀ n,
      (measure {} ((packets.map (TimedPacket.shift c)).take n)).jitter =
        (measure {} (packets.take n)).jitter ∧ 0 ≤ (measure {} (packets.take n)).jitter) := by
  have hs : Tracked {} := ⟨rfl, iff_of_false (Nat.lt_irrefl 0) Bool.false_ne_true, fun _ h => nomatch h⟩
  have hshifted : Shifted c {} {} := ⟨rfl, rfl, rfl, rfl⟩
  have hiff := sameSteps_iff hshifted hs hs hrange rfl
  refine ⟨hiff, fun hsame hsmall n => ⟨?_, ?_⟩⟩
  · exact shiftRight_congr (hiff.mpr hsame n) 4
  · exact jitter_nonneg_of_smallSteps hs hrange hsmall (by decide) n

/-- A packet with a number and a timestamp that arrives at the time 0. -/
def timedPacket (sequenceNumber timestamp : ℕ) : TimedPacket :=
  { packet := { header := { sequenceNumber, timestamp }, payload := [] }, arrival := 0 }

/-- Two packets whose timestamps do not wrap. -/
theorem jitter_twoPackets :
    (measure {} (([timedPacket 0 0, timedPacket 1 160].map (TimedPacket.shift 1)).take 2)).jitter =
      (measure {} ([timedPacket 0 0, timedPacket 1 160].take 2)).jitter ∧
    0 ≤ (measure {} ([timedPacket 0 0, timedPacket 1 160].take 2)).jitter := by
  refine (jitter_iff [timedPacket 0 0, timedPacket 1 160] (by decide) 1).2 ⟨?_, ?_, trivial⟩
    ⟨?_, ?_, trivial⟩ 2
  · exact fun last h => nomatch h.2.1
  · refine sameStep_of_laps fun last h => ?_
    obtain rfl := Option.some.inj (show some 0 = some last from h.2.1)
    decide
  · exact fun last h => nomatch h.2.1
  · intro last h
    obtain rfl := Option.some.inj (show some 0 = some last from h.2.1)
    decide

/-- With a constant that makes the second timestamp wrap the jitter becomes negative. -/
theorem jitter_wraps :
    (measure {} [timedPacket 0 0, timedPacket 1 160]).jitter = 10 ∧
      (measure {} ([timedPacket 0 0, timedPacket 1 160].map
        (TimedPacket.shift (2 ^ 32 - 160)))).jitter = -10 := by
  decide

end Werift.Webrtc
