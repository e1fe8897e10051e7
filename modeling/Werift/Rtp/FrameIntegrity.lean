import Werift.Codec.Vp8
import Werift.Lib.Transition
import Werift.Rtp.Depacketizer

/-!
# Whole frames only

The packets of a stream are numbered one behind the other, and a frame ends with each packet that the
test for the last one says so of.  Packets arrive in order, but some get lost.  `Collecting`, `Broken` and
`Held` are the conditions in which a depacketizer can be between two packets: it has all packets of a frame
up to here, or it has lost one of them, or it has kept a frame that it did not put out because no keyframe
has come yet.  In the first two a frame that is put out is the whole of one frame of the stream.  A frame
that has been kept is put in front of the next packets, and comes out together with the beginning of the
first keyframe (`held_frame_mixed`); runs in which this happens are left out (`frames_whole`).
-/

namespace Werift.Rtp

open Codec (DepacketizerCodec Depacketized dePacketizeRtpPackets)

/-- The packets of a stream. -/
structure PacketStream where
  packet : ℕ → RtpPacket
  first : ℤ
  numbered : ∀ k, (packet k).sequenceNumber = (first + k) % 0x10000

namespace PacketStream

variable (stream : PacketStream) (isFinal : RtpHeader → Bool)

/-- The packet carries media. -/
def Media (k : ℕ) : Prop := isPaddingOnlyRtpPacket (stream.packet k) = false

/-- The packet is the last one of a frame. -/
def Final (k : ℕ) : Prop := stream.Media k ∧ isFinal (stream.packet k).header = true

/-- A frame begins at the packet `a`. -/
def Begins (a : ℕ) : Prop := a = 0 ∨ stream.Final isFinal (a - 1)

instance (k : ℕ) : Decidable (stream.Media k) := inferInstanceAs (Decidable (_ = _))

instance (k : ℕ) : Decidable (stream.Final isFinal k) := inferInstanceAs (Decidable (_ ∧ _))

instance (a : ℕ) : Decidable (stream.Begins isFinal a) := inferInstanceAs (Decidable (_ ∨ _))

/-- A frame consists of the packets from `a` to `b`. -/
structure IsFrame (a b : ℕ) : Prop where
  begins : stream.Begins isFinal a
  le : a ≤ b
  final : stream.Final isFinal b
  inner : ∀ k, a ≤ k → k < b → ¬ stream.Final isFinal k

/-- The packets with media from `a` on, up to the one before `n`. -/
def mediaPackets (a n : ℕ) : List RtpPacket :=
  ((List.range' a (n - a)).map stream.packet).filter fun p => !isPaddingOnlyRtpPacket p

@[simp] lemma mediaPackets_self (a : ℕ) : stream.mediaPackets a a = [] := by
  rw [mediaPackets, Nat.sub_self]
  rfl

/-- The next packet. -/
lemma mediaPackets_succ {a k : ℕ} (h : a ≤ k) : stream.mediaPackets a (k + 1) =
    stream.mediaPackets a k ++ if isPaddingOnlyRtpPacket (stream.packet k) then []
      else [stream.packet k] := by
  have hcount : k + 1 - a = (k - a) + 1 := by omega
  have hlast : a + (k - a) = k := by omega
  rw [mediaPackets, hcount, List.range'_1_concat, hlast, List.map_append, List.filter_append]
  congr 1
  cases hpadding : isPaddingOnlyRtpPacket (stream.packet k) <;> simp [hpadding]

lemma mediaPackets_padding {a k : ℕ} (h : a ≤ k) (hpadding : ∀ j < k, a ≤ j → ¬ stream.Media j) :
    stream.mediaPackets a k = [] := by
  induction k, h using Nat.le_induction with
  | base => exact stream.mediaPackets_self a
  | succ k hk ih =>
    have hlast := hpadding k (Nat.lt_succ_self k) hk
    rw [Media, Bool.not_eq_false] at hlast
    rw [mediaPackets_succ _ hk, ih fun j hj => hpadding j (by omega), hlast]
    rfl

end PacketStream

/-! ## One packet -/

namespace DepacketizeBase

variable (codec : DepacketizerCodec) (options : DepacketizerOptions) (isFinal : RtpHeader → Bool)
  (b : DepacketizeBase)

/-- What happens to the packets that have been collected. -/
def complete : DepacketizeBase × List DepacketizerOutput :=
  if b.hasFinal isFinal then
    match dePacketizeRtpPackets codec b.packets b.frameFragmentBuffer with
    | .error _ => (b.clearBuffer, [])
    | .ok d => b.finishFrame options d
  else (b, [])

/-- What happens to a packet with the next number. -/
def accept (rtp : RtpPacket) (time : Option ℕ) : DepacketizeBase × List DepacketizerOutput :=
  if isPaddingOnlyRtpPacket rtp then ({ b with lastSeqNum := some rtp.sequenceNumber }, [])
  else (b.push rtp time).complete codec options isFinal

variable {codec options isFinal b} {rtp : RtpPacket} {time : Option ℕ} {eol : Bool}

lemma processInput_next (hfinal : options.isFinalPacketInSequence = some isFinal)
    (h : b.arrival rtp.sequenceNumber = .next) :
    b.processInput codec options ⟨some rtp, time, eol⟩ = b.accept codec options isFinal rtp time := by
  rw [processInput, accept]
  simp only [hfinal, notePaddingOnlySequence, processFinal, checkFinalPacket, h, complete]
  all_goals rfl

/-- A packet behind a gap is the next one for the depacketizer that has noted the loss. -/
lemma processInput_lost (hfinal : options.isFinalPacketInSequence = some isFinal)
    (h : b.arrival rtp.sequenceNumber = .lost) :
    b.processInput codec options ⟨some rtp, time, eol⟩ =
      b.noteLoss.accept codec options isFinal rtp time := by
  rw [processInput, accept]
  simp only [hfinal, notePaddingOnlySequence, processFinal, checkFinalPacket, h, complete]
  all_goals rfl

lemma packets_push (b : DepacketizeBase) (rtp : RtpPacket) (time : Option ℕ) :
    (b.push rtp time).packets = b.packets ++ [rtp] := by
  rw [packets, push, List.map_append]
  rfl

lemma hasFinal_eq (b : DepacketizeBase) (isFinal : RtpHeader → Bool) :
    b.hasFinal isFinal = b.packets.any fun p => isFinal p.header := by
  rw [hasFinal, packets, List.any_map]
  rfl

lemma hasFinal_push (b : DepacketizeBase) (isFinal : RtpHeader → Bool) (rtp : RtpPacket)
    (time : Option ℕ) :
    (b.push rtp time).hasFinal isFinal = (b.hasFinal isFinal || isFinal rtp.header) := by
  rw [hasFinal_eq, packets_push, List.any_append, ← hasFinal_eq]
  simp

/-- The end of a frame, case by case. -/
lemma finishFrame_cases (b : DepacketizeBase) (options : DepacketizerOptions) (d : Depacketized) :
    let received := b.keyframeReceived || d.isKeyframe
    (options.waitForKeyframe = true ∧ received = false ∧ b.finishFrame options d =
      ({ b with frameFragmentBuffer := d.frameFragmentBuffer, keyframeReceived := received }, [])) ∨
    (options.waitForKeyframe = true → received = true) ∧
      ((b.frameBroken = false ∧ ∃ f, f.data = d.data ∧ f.isKeyframe = d.isKeyframe ∧
          b.finishFrame options d =
            ({ b with keyframeReceived := received, count := b.count + 1 }.clearBuffer, [.frame f])) ∨
        b.finishFrame options d =
          ({ b with keyframeReceived := received, frameBroken := false }.clearBuffer, [])) := by
  intro received
  rw [finishFrame]
  dsimp only
  by_cases hwait : options.waitForKeyframe = true ∧ (b.keyframeReceived || d.isKeyframe) = false
  · rw [if_pos hwait]
    exact .inl ⟨hwait.1, hwait.2, rfl⟩
  · rw [if_neg hwait]
    refine .inr ⟨fun h => ?_, ?_⟩
    · by_contra hfalse
      exact hwait ⟨h, Bool.not_eq_true _ ▸ hfalse⟩
    · by_cases hemit : b.frameBroken = false ∧ d.data ≠ []
      · rw [if_pos hemit]
        exact .inl ⟨hemit.1, _, rfl, rfl, rfl⟩
      · rw [if_neg hemit]
        exact .inr rfl

/-- Every packet that is accepted is the last one then. -/
lemma accept_lastSeqNum (b : DepacketizeBase) (rtp : RtpPacket) (time : Option ℕ) :
    (b.accept codec options isFinal rtp time).1.lastSeqNum = some rtp.sequenceNumber := by
  rw [accept]
  split_ifs
  · rfl
  · rw [complete]
    split_ifs
    · cases dePacketizeRtpPackets codec (b.push rtp time).packets
        (b.push rtp time).frameFragmentBuffer with
      | error => rfl
      | ok d =>
        obtain ⟨-, -, h⟩ | ⟨-, ⟨-, f, -, -, h⟩ | h⟩ := finishFrame_cases (b.push rtp time) options d
        all_goals
          dsimp only
          rw [h]
          rfl
    · rfl

end DepacketizeBase

/-! ## Conditions between two packets -/

section Conditions

variable (isFinal : RtpHeader → Bool) (waitForKeyframe : Bool) (stream : PacketStream)

/-- The packets of a frame up to the one before `k` have been collected, and all have arrived. -/
def Collecting (arrived : List ℕ) (a k : ℕ) (b : DepacketizeBase) : Prop :=
  a ≤ k ∧ stream.Begins isFinal a ∧ (∀ j, a ≤ j → j < k → ¬ stream.Final isFinal j) ∧
    (∀ j, a ≤ j → j < k → stream.Media j → j ∈ arrived) ∧
    b.packets = stream.mediaPackets a k ∧ b.frameBroken = false ∧ b.frameFragmentBuffer = none

/-- A packet of the frame has got lost. -/
def Broken (b : DepacketizeBase) : Prop := b.frameBroken = true ∧ b.hasFinal isFinal = false

/-- A frame has been kept because no keyframe has come yet. -/
def Held (b : DepacketizeBase) : Prop :=
  waitForKeyframe = true ∧ b.keyframeReceived = false ∧ b.hasFinal isFinal = true

/-- One of the three conditions, where the packet `k` is expected and frames have been put out that end
before `bound`. -/
def Condition (arrived : List ℕ) (bound k : ℕ) (b : DepacketizeBase) : Prop :=
  (∃ a, bound ≤ a ∧ Collecting isFinal stream arrived a k b) ∨ Broken isFinal b ∨
    Held isFinal waitForKeyframe b

/-- The frame from `a` to `k` has arrived and been put out. -/
def WholeFrame (codec : DepacketizerCodec) (arrived : List ℕ) (f : CodecFrame) (i : ℕ × ℕ) : Prop :=
  stream.IsFrame isFinal i.1 i.2 ∧ (∀ j, i.1 ≤ j → j ≤ i.2 → stream.Media j → j ∈ arrived) ∧
    ∃ d, dePacketizeRtpPackets codec (stream.mediaPackets i.1 (i.2 + 1)) none = .ok d ∧
      f.data = d.data ∧ f.isKeyframe = d.isKeyframe

end Conditions

/-- Depacketizing has given something that is no keyframe. -/
def NotKeyframe : Except String Depacketized → Prop
  | .ok d => d.isKeyframe = false
  | .error _ => False

instance (r : Except String Depacketized) : Decidable (NotKeyframe r) := by
  cases r <;> unfold NotKeyframe <;> infer_instance

variable {codec : DepacketizerCodec} {options : DepacketizerOptions} {isFinal : RtpHeader → Bool}
  {stream : PacketStream} {arrived : List ℕ} {bound a k : ℕ} {b : DepacketizeBase} {time : Option ℕ}

open DepacketizeBase

/-- Behind the last packet of a frame a new one is collected. -/
lemma collecting_fresh (hfinal : stream.Final isFinal k) (hpackets : b.rtpBuffer = [])
    (hbroken : b.frameBroken = false) (hfragment : b.frameFragmentBuffer = none) :
    Collecting isFinal stream arrived (k + 1) (k + 1) b := by
  refine ⟨le_rfl, .inr hfinal, fun j hj hj' => ?_, fun j hj hj' => ?_, ?_, hbroken, hfragment⟩
  · omega
  · omega
  · rw [PacketStream.mediaPackets_self, packets, hpackets]
    rfl

/-- While a frame is collected its last packet has not come. -/
lemma Collecting.hasFinal (h : Collecting isFinal stream arrived a k b) :
    b.hasFinal isFinal = false := by
  obtain ⟨-, -, hinner, -, hpackets, -⟩ := h
  rw [hasFinal_eq, hpackets, List.any_eq_false]
  intro p hp
  rw [PacketStream.mediaPackets, List.mem_filter, List.mem_map] at hp
  obtain ⟨⟨j, hj, rfl⟩, hmedia⟩ := hp
  rw [List.mem_range'_1] at hj
  intro hfinal
  have hmedia' : isPaddingOnlyRtpPacket (stream.packet j) = false := by simpa using hmedia
  exact hinner j hj.1 (by omega) ⟨hmedia', hfinal⟩

/-- A packet of the frame that is not the last one, or carries no media. -/
lemma Collecting.next (h : Collecting isFinal stream arrived a k b) (hnot : ¬ stream.Final isFinal k)
    {b' : DepacketizeBase} (hpackets : b'.packets = b.packets ++
      if isPaddingOnlyRtpPacket (stream.packet k) then [] else [stream.packet k])
    (hbroken : b'.frameBroken = b.frameBroken)
    (hfragment : b'.frameFragmentBuffer = b.frameFragmentBuffer) :
    Collecting isFinal stream (arrived ++ [k]) a (k + 1) b' := by
  obtain ⟨hle, hbegins, hinner, hall, hcollected, hwhole, hnone⟩ := h
  refine ⟨by omega, hbegins, fun j hj hj' => ?_, fun j hj hj' hmedia => ?_, ?_,
    hbroken.trans hwhole, hfragment.trans hnone⟩
  · obtain hlt | rfl := Nat.lt_succ_iff_lt_or_eq.mp hj'
    · exact hinner j hj hlt
    · exact hnot
  · rw [List.mem_append, List.mem_singleton]
    obtain hlt | rfl := Nat.lt_succ_iff_lt_or_eq.mp hj'
    · exact .inl (hall j hj hlt hmedia)
    · exact .inr rfl
  · rw [hpackets, hcollected, stream.mediaPackets_succ hle]

/-- The frame whose last packet comes. -/
lemma Collecting.wholeFrame (h : Collecting isFinal stream arrived a k b)
    (hfinal : stream.Final isFinal k) {d : Depacketized}
    (hd : dePacketizeRtpPackets codec (b.packets ++ [stream.packet k]) b.frameFragmentBuffer = .ok d)
    {f : CodecFrame} (hdata : f.data = d.data) (hkeyframe : f.isKeyframe = d.isKeyframe) :
    WholeFrame isFinal stream codec (arrived ++ [k]) f (a, k) := by
  obtain ⟨hle, hbegins, hinner, hall, hcollected, -, hnone⟩ := h
  refine ⟨⟨hbegins, hle, hfinal, hinner⟩, fun j hj hj' hmedia => ?_, d, ?_, hdata, hkeyframe⟩
  · rw [List.mem_append, List.mem_singleton]
    obtain hlt | rfl := Nat.lt_or_eq_of_le hj'
    · exact .inl (hall j hj hlt hmedia)
    · exact .inr rfl
  · have hmedia : isPaddingOnlyRtpPacket (stream.packet k) = false := hfinal.1
    rw [stream.mediaPackets_succ hle, hmedia, ← hcollected, ← hnone]
    exact hd

/-- Behind a frame that has been kept, another packet is kept too, as long as no keyframe comes. -/
lemma Held.complete_push (h : Held isFinal options.waitForKeyframe b) (rtp : RtpPacket)
    (time : Option ℕ)
    (hheld : NotKeyframe (dePacketizeRtpPackets codec (b.packets ++ [rtp]) b.frameFragmentBuffer)) :
    ((b.push rtp time).complete codec options isFinal).2 = [] ∧
      Held isFinal options.waitForKeyframe ((b.push rtp time).complete codec options isFinal).1 := by
  obtain ⟨hwait, hreceived, hfinal⟩ := h
  have hpush : (b.push rtp time).hasFinal isFinal = true := by
    rw [hasFinal_push, hfinal, Bool.true_or]
  have hfragment : (b.push rtp time).frameFragmentBuffer = b.frameFragmentBuffer := rfl
  rw [complete, if_pos hpush, packets_push, hfragment]
  cases hd : dePacketizeRtpPackets codec (b.packets ++ [rtp]) b.frameFragmentBuffer with
  | error e =>
    rw [hd] at hheld
    exact hheld.elim
  | ok d =>
    rw [hd] at hheld
    have hkeyframe : d.isKeyframe = false := hheld
    have hstill : ((b.push rtp time).keyframeReceived || d.isKeyframe) = false := by
      rw [hkeyframe, Bool.or_false]
      exact hreceived
    obtain ⟨-, -, hkeep⟩ | ⟨hcome, -⟩ := finishFrame_cases (b.push rtp time) options d
    · dsimp only
      rw [hkeep]
      exact ⟨rfl, hwait, hstill, hpush⟩
    · exact absurd (hstill.symm.trans (hcome hwait)) (by decide)

/-- What the last packet of a frame leads to. -/
lemma complete_final (h : (∃ a, bound ≤ a ∧ Collecting isFinal stream arrived a k b) ∨
      Broken isFinal b) (hbound : bound ≤ k) (hlast : stream.Final isFinal k) :
    (((b.push (stream.packet k) time).complete codec options isFinal).2 = [] ∧
      Condition isFinal options.waitForKeyframe stream (arrived ++ [k]) bound (k + 1)
        ((b.push (stream.packet k) time).complete codec options isFinal).1) ∨
    ∃ f a, ((b.push (stream.packet k) time).complete codec options isFinal).2 = [.frame f] ∧
      bound ≤ a ∧ WholeFrame isFinal stream codec (arrived ++ [k]) f (a, k) ∧
      Condition isFinal options.waitForKeyframe stream (arrived ++ [k]) (k + 1) (k + 1)
        ((b.push (stream.packet k) time).complete codec options isFinal).1 := by
  have hpush : (b.push (stream.packet k) time).hasFinal isFinal = true := by
    rw [hasFinal_push, hlast.2, Bool.or_true]
  have hfragment : (b.push (stream.packet k) time).frameFragmentBuffer = b.frameFragmentBuffer := rfl
  rw [complete, if_pos hpush, packets_push, hfragment]
  cases hd : dePacketizeRtpPackets codec (b.packets ++ [stream.packet k]) b.frameFragmentBuffer with
  | error e =>
    refine .inl ⟨rfl, ?_⟩
    obtain ⟨a, -, hcollecting⟩ | hbroken := h
    · exact .inl ⟨k + 1, by omega, collecting_fresh hlast rfl hcollecting.2.2.2.2.2.1 rfl⟩
    · exact .inr (.inl ⟨hbroken.1, rfl⟩)
  | ok d =>
    dsimp only
    obtain ⟨hwait, hreceived, hkeep⟩ | ⟨-, ⟨hunbroken, f, hdata, hkeyframe, hemit⟩ | hdrop⟩ :=
      finishFrame_cases (b.push (stream.packet k) time) options d
    · rw [hkeep]
      exact .inl ⟨rfl, .inr (.inr ⟨hwait, hreceived, hpush⟩)⟩
    · rw [hemit]
      obtain ⟨a, hba, hcollecting⟩ | hbroken := h
      · exact .inr ⟨f, a, rfl, hba, hcollecting.wholeFrame hlast hd hdata hkeyframe,
          .inl ⟨k + 1, le_rfl, collecting_fresh hlast rfl hunbroken rfl⟩⟩
      · exact absurd (hbroken.1.symm.trans hunbroken) (by decide)
    · rw [hdrop]
      exact .inl ⟨rfl, .inl ⟨k + 1, by omega, collecting_fresh hlast rfl rfl rfl⟩⟩

/-- **The next packet** leads to one of the conditions again, and what it puts out is a whole frame. -/
theorem accept_condition (time : Option ℕ)
    (h : Condition isFinal options.waitForKeyframe stream arrived bound k b) (hbound : bound ≤ k)
    (hheld : b.hasFinal isFinal = true → stream.Media k →
      NotKeyframe (dePacketizeRtpPackets codec (b.packets ++ [stream.packet k])
        b.frameFragmentBuffer)) :
    ((b.accept codec options isFinal (stream.packet k) time).2 = [] ∧
      Condition isFinal options.waitForKeyframe stream (arrived ++ [k]) bound (k + 1)
        (b.accept codec options isFinal (stream.packet k) time).1) ∨
    ∃ f a, (b.accept codec options isFinal (stream.packet k) time).2 = [.frame f] ∧ bound ≤ a ∧
      WholeFrame isFinal stream codec (arrived ++ [k]) f (a, k) ∧
      Condition isFinal options.waitForKeyframe stream (arrived ++ [k]) (k + 1) (k + 1)
        (b.accept codec options isFinal (stream.packet k) time).1 := by
  rw [accept]
  by_cases hmedia : stream.Media k
  · have hpadding : ¬ isPaddingOnlyRtpPacket (stream.packet k) = true := by
      rw [Bool.not_eq_true]
      exact hmedia
    rw [if_neg hpadding]
    obtain hopen | hkept : ((∃ a, bound ≤ a ∧ Collecting isFinal stream arrived a k b) ∨
        Broken isFinal b) ∨ Held isFinal options.waitForKeyframe b := or_assoc.mpr h
    · by_cases hfinal : isFinal (stream.packet k).header = true
      · exact complete_final hopen hbound ⟨hmedia, hfinal⟩
      · have hnone : b.hasFinal isFinal = false := by
          obtain ⟨a, -, hcollecting⟩ | hbroken := hopen
          · exact hcollecting.hasFinal
          · exact hbroken.2
        have hpush : (b.push (stream.packet k) time).hasFinal isFinal = false := by
          rw [hasFinal_push, hnone, Bool.false_or]
          exact Bool.eq_false_iff.mpr hfinal
        rw [complete, hpush, if_neg Bool.false_ne_true]
        refine .inl ⟨rfl, ?_⟩
        obtain ⟨a, hba, hcollecting⟩ | hbroken := hopen
        · refine .inl ⟨a, hba, hcollecting.next (fun hlast => hfinal hlast.2) ?_ rfl rfl⟩
          rw [packets_push, if_neg hpadding]
        · exact .inr (.inl ⟨hbroken.1, hpush⟩)
    · obtain ⟨hnone, hkept'⟩ := hkept.complete_push _ time (hheld hkept.2.2 hmedia)
      exact .inl ⟨hnone, .inr (.inr hkept')⟩
  · have hpadding : isPaddingOnlyRtpPacket (stream.packet k) = true := by
      by_contra hne
      exact hmedia (Bool.eq_false_iff.mpr hne)
    rw [if_pos hpadding]
    refine .inl ⟨rfl, ?_⟩
    obtain ⟨a, hba, hcollecting⟩ | hbroken | hkept := h
    · refine .inl ⟨a, hba, hcollecting.next (fun hlast => hmedia hlast.1) ?_ rfl rfl⟩
      rw [if_pos hpadding, List.append_nil]
      rfl
    · exact .inr (.inl hbroken)
    · exact .inr (.inr hkept)

/-- A keyframe that has come is remembered, and what is put out is one or comes behind one. -/
lemma accept_keyframe (codec : DepacketizerCodec) (options : DepacketizerOptions)
    (isFinal : RtpHeader → Bool) (b : DepacketizeBase) (rtp : RtpPacket) (time : Option ℕ) :
    (b.keyframeReceived = true →
      (b.accept codec options isFinal rtp time).1.keyframeReceived = true) ∧
    ∀ f, (b.accept codec options isFinal rtp time).2 = [.frame f] → options.waitForKeyframe = true →
      (b.accept codec options isFinal rtp time).1.keyframeReceived = true ∧
        (b.keyframeReceived = true ∨ f.isKeyframe = true) := by
  rw [accept]
  split_ifs
  · exact ⟨fun h => h, by simp⟩
  · rw [complete]
    split_ifs
    · cases dePacketizeRtpPackets codec (b.push rtp time).packets
        (b.push rtp time).frameFragmentBuffer with
      | error => exact ⟨fun h => h, by simp⟩
      | ok d =>
        have hkept : (b.push rtp time).keyframeReceived = b.keyframeReceived := rfl
        dsimp only
        obtain ⟨-, hreceived, h⟩ | ⟨hwait, ⟨-, f, -, hkeyframe, h⟩ | h⟩ :=
          finishFrame_cases (b.push rtp time) options d
        · rw [h]
          refine ⟨fun hb => ?_, by simp⟩
          rw [hkept, hb, Bool.true_or] at hreceived
          cases hreceived
        · rw [h]
          refine ⟨fun hb => ?_, fun f' hf' hw => ?_⟩
          · change ((b.push rtp time).keyframeReceived || d.isKeyframe) = true
            rw [hkept, hb, Bool.true_or]
          · have hreceived := hwait hw
            refine ⟨hreceived, ?_⟩
            simp only [List.cons.injEq, DepacketizerOutput.frame.injEq, and_true] at hf'
            rw [← hf', hkeyframe]
            exact Bool.or_eq_true _ _ |>.mp hreceived
        · rw [h]
          refine ⟨fun hb => ?_, by simp⟩
          change ((b.push rtp time).keyframeReceived || d.isKeyframe) = true
          rw [hkept, hb, Bool.true_or]
    · exact ⟨fun h => h, by simp⟩

/-! ## Runs -/

/-- A depacketizer, the packets that have arrived and the frames that have been put out. -/
structure Reception where
  base : DepacketizeBase := {}
  arrived : List ℕ := []
  log : List CodecFrame := []
  /-- A first keyframe has come but has not been put out. -/
  keyframeLost : Bool := false

/-- The frames among these outputs. -/
def framesOf (outputs : List DepacketizerOutput) : List CodecFrame :=
  outputs.filterMap fun
    | .frame f => some f
    | .eol => none

lemma WholeFrame.mono {arrived' : List ℕ} (hsub : ∀ j ∈ arrived, j ∈ arrived') {f : CodecFrame}
    {i : ℕ × ℕ} (h : WholeFrame isFinal stream codec arrived f i) :
    WholeFrame isFinal stream codec arrived' f i :=
  ⟨h.1, fun j hj hj' hmedia => hsub j (h.2.1 j hj hj' hmedia), h.2.2⟩

namespace Reception

/-- A packet arrives. -/
def step (codec : DepacketizerCodec) (options : DepacketizerOptions) (stream : PacketStream)
    (s : Reception) (e : ℕ × Option ℕ) : Option Reception :=
  let r := s.base.processInput codec options ⟨some (stream.packet e.1), e.2, false⟩
  some
    { base := r.1
      arrived := s.arrived ++ [e.1]
      log := s.log ++ framesOf r.2
      keyframeLost := s.keyframeLost ||
        (!s.base.keyframeReceived && r.1.keyframeReceived && (framesOf r.2).isEmpty) }

/-- The packet arrives in order, behind fewer than `0x8000` lost ones; the first one that arrives is the
first one of a frame; and behind a frame that has been kept without a gap in front of the packet, the
packet does not make it a keyframe. -/
def InOrder (codec : DepacketizerCodec) (isFinal : RtpHeader → Bool) (stream : PacketStream)
    (s : Reception) (e : ℕ × Option ℕ) : Prop :=
  match s.arrived.getLast? with
  | none => ∃ a ≤ e.1, stream.Begins isFinal a ∧ ∀ j < e.1, a ≤ j → ¬ stream.Media j
  | some l =>
    (l < e.1 ∧ e.1 ≤ l + 0x8000) ∧
      (l + 1 = e.1 → s.base.hasFinal isFinal = true → stream.Media e.1 →
        NotKeyframe (dePacketizeRtpPackets codec (s.base.packets ++ [stream.packet e.1])
          s.base.frameFragmentBuffer))

instance (s : Reception) (e : ℕ × Option ℕ) : Decidable (s.InOrder codec isFinal stream e) := by
  unfold InOrder
  split <;> infer_instance

/-- The frames that have been put out are whole frames one behind the other, and the depacketizer is in one
of its conditions. -/
structure Intact (codec : DepacketizerCodec) (isFinal : RtpHeader → Bool) (waitForKeyframe : Bool)
    (stream : PacketStream) (s : Reception) : Prop where
  unstarted : s.arrived = [] → s.base = {} ∧ s.log = []
  lastSeqNum : ∀ l, s.arrived.getLast? = some l →
    s.base.lastSeqNum = some (stream.packet l).sequenceNumber
  condition : ∃ bound intervals,
    List.Forall₂ (WholeFrame isFinal stream codec s.arrived) s.log intervals ∧
    intervals.Pairwise (fun i j => i.2 < j.1) ∧ (∀ i ∈ intervals, i.2 < bound) ∧
    ∀ l, s.arrived.getLast? = some l → bound ≤ l + 1 ∧
      Condition isFinal waitForKeyframe stream s.arrived bound (l + 1) s.base
  keyframe : waitForKeyframe = true →
    (s.base.keyframeReceived = true → s.log = [] → s.keyframeLost = true) ∧
    (s.log ≠ [] → s.base.keyframeReceived = true) ∧
    ∀ f, s.log.head? = some f → f.isKeyframe = true ∨ s.keyframeLost = true

variable {s : Reception} {e : ℕ × Option ℕ}

/-- How the number of a later packet compares with the next one. -/
lemma uint16Gt_expected {x y : ℤ} (hlow : x < y) (hhigh : y ≤ x + 0x8000) :
    uint16Gt (uint16Add (x % 0x10000) 1) (y % 0x10000) = false ∧
      (uint16Gt (y % 0x10000) (uint16Add (x % 0x10000) 1) = true ↔ x + 1 ≠ y) := by
  rw [← Bool.not_eq_true, uint16Add]
  simp only [uint16Gt, uintGt, Bool.or_eq_true, Bool.and_eq_true, decide_eq_true_eq]
  omega

lemma arrival_eq {l : ℕ} (hlast : b.lastSeqNum = some (stream.packet l).sequenceNumber)
    (hlow : l < k) (hhigh : k ≤ l + 0x8000) :
    b.arrival (stream.packet k).sequenceNumber = if l + 1 = k then .next else .lost := by
  obtain ⟨hgap, hahead⟩ := uint16Gt_expected (x := stream.first + l) (y := stream.first + k)
    (by omega) (by omega)
  rw [arrival, hlast, stream.numbered, stream.numbered]
  dsimp only
  rw [hgap, if_neg Bool.false_ne_true]
  by_cases hnext : l + 1 = k
  · rw [if_neg fun h => hahead.mp h (by omega), if_pos hnext]
  · rw [if_pos (hahead.mpr (by omega)), if_neg hnext]

/-- A packet in order is accepted by the depacketizer, or by one that has noted a loss, in one of the
conditions. -/
lemma Intact.exists_accept (h : s.Intact codec isFinal options.waitForKeyframe stream)
    (hin : s.InOrder codec isFinal stream e) (hfinal : options.isFinalPacketInSequence = some isFinal) :
    ∃ b bound intervals,
      s.base.processInput codec options ⟨some (stream.packet e.1), e.2, false⟩ =
        b.accept codec options isFinal (stream.packet e.1) e.2 ∧
      b.keyframeReceived = s.base.keyframeReceived ∧
      Condition isFinal options.waitForKeyframe stream s.arrived bound e.1 b ∧ bound ≤ e.1 ∧
      (b.hasFinal isFinal = true → stream.Media e.1 →
        NotKeyframe (dePacketizeRtpPackets codec (b.packets ++ [stream.packet e.1])
          b.frameFragmentBuffer)) ∧
      List.Forall₂ (WholeFrame isFinal stream codec s.arrived) s.log intervals ∧
      intervals.Pairwise (fun i j => i.2 < j.1) ∧ ∀ i ∈ intervals, i.2 < bound := by
  obtain ⟨bound, intervals, hwhole, hpairwise, hbefore, hcondition⟩ := h.condition
  unfold InOrder at hin
  cases harrived : s.arrived.getLast? with
  | none =>
    rw [harrived] at hin
    obtain ⟨a, hak, hbegins, hpadding⟩ := hin
    have hnil : s.arrived = [] := List.getLast?_eq_none_iff.mp harrived
    obtain ⟨hbase, hlog⟩ := h.unstarted hnil
    have hfirst : ({} : DepacketizeBase).arrival (stream.packet e.1).sequenceNumber = .next := rfl
    rw [hbase, hlog]
    refine ⟨{}, 0, [], processInput_next hfinal hfirst, rfl, .inl ⟨a, Nat.zero_le a, hak, hbegins,
      ?_, ?_, ?_, rfl, rfl⟩, Nat.zero_le _, fun hnone => absurd hnone (by
        change ¬ (false = true)
        decide), .nil, .nil, by simp⟩
    · exact fun j hj hj' hlast => hpadding j hj' hj hlast.1
    · exact fun j hj hj' hmedia => absurd hmedia (hpadding j hj' hj)
    · rw [stream.mediaPackets_padding hak hpadding]
      rfl
  | some l =>
    rw [harrived] at hin
    obtain ⟨⟨hlow, hhigh⟩, hheld⟩ := hin
    obtain ⟨hbound, hcond⟩ := hcondition l harrived
    have harrival := arrival_eq (h.lastSeqNum l harrived) hlow hhigh
    by_cases hnext : l + 1 = e.1
    · rw [if_pos hnext] at harrival
      exact ⟨s.base, bound, intervals, processInput_next hfinal harrival, rfl, hnext ▸ hcond,
        hnext ▸ hbound, hheld hnext, hwhole, hpairwise, hbefore⟩
    · rw [if_neg hnext] at harrival
      exact ⟨s.base.noteLoss, bound, intervals, processInput_lost hfinal harrival, rfl,
        .inr (.inl ⟨rfl, rfl⟩), by omega, fun hnone => absurd hnone (by
          change ¬ (false = true)
          decide), hwhole, hpairwise, hbefore⟩

/-- A step that puts nothing out keeps what is known of the keyframes. -/
lemma keyframe_of_nil {received received' lost : Bool} {log : List CodecFrame}
    (hremember : received = true → received' = true)
    (h : (received = true → log = [] → lost = true) ∧ (log ≠ [] → received = true) ∧
      ∀ f, log.head? = some f → f.isKeyframe = true ∨ lost = true) :
    (received' = true → log = [] → (lost || (!received && received' && true)) = true) ∧
      (log ≠ [] → received' = true) ∧
      ∀ f, log.head? = some f → f.isKeyframe = true ∨ (lost || (!received && received' && true)) = true := by
  obtain ⟨hlost, hreceived, hhead⟩ := h
  refine ⟨fun hnew hnil => ?_, fun hlog => hremember (hreceived hlog), fun f hf => ?_⟩
  · cases hold : received with
    | true => rw [hlost hold hnil, Bool.true_or]
    | false => rw [hnew, Bool.not_false, Bool.and_true, Bool.and_true, Bool.or_true]
  · obtain hkey | hkey := hhead f hf
    · exact .inl hkey
    · exact .inr (by rw [hkey, Bool.true_or])

/-- **A packet in order** keeps the reception intact. -/
theorem Intact.step (h : s.Intact codec isFinal options.waitForKeyframe stream)
    (hin : s.InOrder codec isFinal stream e) (hfinal : options.isFinalPacketInSequence = some isFinal)
    {s' : Reception} (hstep : s.step codec options stream e = some s') :
    s'.Intact codec isFinal options.waitForKeyframe stream := by
  obtain rfl := Option.some.inj hstep
  obtain ⟨b, bound, intervals, hprocess, hsame, hcondition, hbound, hheld, hwhole, hpairwise,
    hbefore⟩ := h.exists_accept hin hfinal
  obtain ⟨hremember, hemitted⟩ :=
    accept_keyframe codec options isFinal b (stream.packet e.1) e.2
  rw [hsame] at hremember hemitted
  have hwhole' : List.Forall₂ (WholeFrame isFinal stream codec (s.arrived ++ [e.1])) s.log intervals :=
    hwhole.imp fun f i hf => hf.mono fun j hj => List.mem_append_left _ hj
  have hlast (l : ℕ) (hl : (s.arrived ++ [e.1]).getLast? = some l) : l = e.1 := by
    rw [List.getLast?_concat] at hl
    exact (Option.some.inj hl).symm
  have hnumber (l : ℕ) (hl : (s.arrived ++ [e.1]).getLast? = some l) :
      (b.accept codec options isFinal (stream.packet e.1) e.2).1.lastSeqNum =
        some (stream.packet l).sequenceNumber := by
    rw [hlast l hl]
    exact accept_lastSeqNum b _ _
  rw [hprocess]
  obtain ⟨hnone, hcondition'⟩ | ⟨f, a, hone, hba, hf, hcondition'⟩ :=
    accept_condition e.2 hcondition hbound hheld
  · have hlog : s.log ++ framesOf [] = s.log := List.append_nil _
    rw [hnone, hlog]
    refine ⟨by simp, hnumber, ⟨bound, intervals, hwhole', hpairwise, hbefore, fun l hl => ?_⟩,
      fun hwait => keyframe_of_nil hremember (h.keyframe hwait)⟩
    rw [hlast l hl]
    exact ⟨by omega, hcondition'⟩
  · have hframes : framesOf [.frame f] = [f] := rfl
    rw [hone, hframes]
    refine ⟨by simp, hnumber, ⟨e.1 + 1, intervals ++ [(a, e.1)],
      List.rel_append hwhole' (.cons hf .nil), ?_, ?_, fun l hl => ?_⟩, fun hwait => ?_⟩
    · rw [List.pairwise_append]
      refine ⟨hpairwise, List.pairwise_singleton _ _, fun i hi j hj => ?_⟩
      rw [List.mem_singleton.mp hj]
      exact lt_of_lt_of_le (hbefore i hi) hba
    · intro i hi
      obtain hi | hi := List.mem_append.mp hi
      · have := hbefore i hi
        omega
      · rw [List.mem_singleton.mp hi]
        exact Nat.lt_succ_self _
    · rw [hlast l hl]
      exact ⟨le_rfl, hcondition'⟩
    · obtain ⟨hlost, hreceived, hhead⟩ := h.keyframe hwait
      obtain ⟨hnow, hkey⟩ := hemitted f hone hwait
      refine ⟨fun _ hnil => absurd hnil (by simp), fun _ => hnow, fun f' hf' => ?_⟩
      cases hlog : s.log with
      | nil =>
        rw [hlog] at hf'
        obtain rfl : f = f' := Option.some.inj hf'
        obtain hbefore' | hkey := hkey
        · exact .inr (by rw [hlost hbefore' hlog, Bool.true_or])
        · exact .inl hkey
      | cons first others =>
        rw [hlog] at hf'
        obtain hkey' | hkey' := hhead f' (by rw [hlog]; exact hf')
        · exact .inl hkey'
        · exact .inr (by rw [hkey', Bool.true_or])

/-- **Runs** stay intact. -/
theorem intact_of_run (hfinal : options.isFinalPacketInSequence = some isFinal)
    (run : Transition.Run (step codec options stream) (InOrder codec isFinal stream) {} s) :
    s.Intact codec isFinal options.waitForKeyframe stream := by
  refine run.invariant (Intact codec isFinal options.waitForKeyframe stream) ?_ ?_
  · exact ⟨fun _ => ⟨rfl, rfl⟩, by simp, ⟨0, [], .nil, .nil, by simp, by simp⟩, by simp⟩
  · exact fun s e s' h hin hstep => h.step hin hfinal hstep

end Reception

open Reception in
/-- **Whole frames only.**  In every run in order the frames that are put out are whole frames of the
stream, each at most once and in order: each is what depacketizing all packets of one frame gives, and all
of them have arrived.  A depacketizer that waits for a keyframe puts out a keyframe first, unless it has
already met one that it could not put out. -/
theorem frames_whole (hfinal : options.isFinalPacketInSequence = some isFinal) {s : Reception}
    (run : Transition.Run (step codec options stream) (InOrder codec isFinal stream) {} s) :
    (∃ intervals, List.Forall₂ (WholeFrame isFinal stream codec s.arrived) s.log intervals ∧
      intervals.Pairwise fun i j => i.2 < j.1) ∧
    (options.waitForKeyframe = true →
      ∀ f, s.log.head? = some f → f.isKeyframe = true ∨ s.keyframeLost = true) := by
  have h := intact_of_run hfinal run
  obtain ⟨bound, intervals, hwhole, hpairwise, -⟩ := h.condition
  exact ⟨⟨intervals, hwhole, hpairwise⟩, fun hwait => (h.keyframe hwait).2.2⟩

/-- A stream of these payloads, the last ones of a frame with the marker. -/
private def streamOf (payloads : List (Bytes × Bool)) : PacketStream where
  packet k :=
    ⟨{ sequenceNumber := k % 0x10000, marker := (payloads.getD k ([0], true)).2 },
      (payloads.getD k ([0], true)).1⟩
  first := 0
  numbered k := by
    rw [zero_add]
    exact Int.natCast_emod k 0x10000

/-- The frames and the last sequence number of each. -/
private def logOf (waitForKeyframe : Bool) (payloads : List (Bytes × Bool)) (arrivals : List ℕ) :
    Option (List (Bytes × Bool × ℕ)) :=
  (arrivals.foldlM (fun s k => Reception.step (.basic Codec.Vp8RtpPayload.class)
    { isFinalPacketInSequence := some RtpHeader.marker, waitForKeyframe := waitForKeyframe }
    (streamOf payloads) s (k, none)) {}).map
    fun s => s.log.map fun f => (f.data, f.isKeyframe, f.rtpSeq)

/-- A keyframe of two packets and three frames of one. -/
private def fourFrames : PacketStream :=
  streamOf [([0x10, 0, 0, 0], false), ([0, 7], true), ([0x10, 1, 0, 0], true),
    ([0x10, 1, 0, 0], true), ([0x10, 1, 0, 9], true)]

/-- A keyframe, and the second frame behind a frame that has got lost. -/
theorem frames_whole_vp8 : ∃ s : Reception,
    Transition.Run (Reception.step (.basic Codec.Vp8RtpPayload.class)
      { isFinalPacketInSequence := some RtpHeader.marker, waitForKeyframe := true } fourFrames)
      (Reception.InOrder (.basic Codec.Vp8RtpPayload.class) RtpHeader.marker fourFrames) {} s ∧
    s.log.map CodecFrame.data = [[0, 0, 0, 7], [1, 0, 9]] ∧
    ∃ intervals, List.Forall₂ (WholeFrame RtpHeader.marker fourFrames
        (.basic Codec.Vp8RtpPayload.class) s.arrived) s.log intervals ∧
      intervals.Pairwise fun i j => i.2 < j.1 := by
  let options : DepacketizerOptions :=
    { isFinalPacketInSequence := some RtpHeader.marker, waitForKeyframe := true }
  let check : Reception → ℕ × Option ℕ → Bool := fun s e =>
    decide (s.InOrder (.basic Codec.Vp8RtpPayload.class) RtpHeader.marker fourFrames e)
  let arrivals : List (ℕ × Option ℕ) := [(0, none), (1, none), (3, none), (4, none)]
  have hlog : (arrivals.foldlM (fun s e => if check s e then
      s.step (.basic Codec.Vp8RtpPayload.class) options fourFrames e else none) {}).map
        (fun s => s.log.map CodecFrame.data) = some [[0, 0, 0, 7], [1, 0, 9]] := by
    decide +kernel
  obtain ⟨s, hs, hslog⟩ := Option.map_eq_some_iff.mp hlog
  have hrun : Transition.Run (Reception.step (.basic Codec.Vp8RtpPayload.class) options fourFrames)
      (Reception.InOrder (.basic Codec.Vp8RtpPayload.class) RtpHeader.marker fourFrames) {} s :=
    Transition.Run.of_checked (fun s e h => of_decide_eq_true h) hs
  exact ⟨s, hrun, hslog, (frames_whole rfl hrun).1⟩

/-- A depacketizer that waits for a keyframe puts out a frame that is none behind a loss, and one that
does not begin with the first packet of a frame puts out what is left of it. -/
theorem delta_after_loss :
    logOf true [([0x10, 0, 0, 0], true), ([0x10, 1, 0, 0], true), ([0x10, 1, 0, 0], true),
        ([0x10, 1, 0, 9], true)] [0, 2, 3] =
      some [([0, 0, 0], true, 0), ([1, 0, 9], false, 3)] ∧
    logOf false [([0x10, 0, 0, 0], false), ([0, 7], true)] [1] = some [([7], false, 1)] := by
  decide +kernel

/-- A frame that has been kept comes out together with the first packet of the keyframe behind it. -/
theorem held_frame_mixed :
    logOf true [([0x10, 1, 0, 5], true), ([0x10, 0, 0, 0], false), ([0, 7], true)] [0, 1, 2] =
      some [([1, 0, 5, 0, 0, 0], true, 1), ([7], false, 2)] := by
  decide +kernel

end Werift.Rtp
