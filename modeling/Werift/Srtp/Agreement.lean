import Werift.Srtp.Sealing

/-!
# Agreement on the rollover counter

The sender seals packets with consecutive sequence numbers.  The receiver gets them with losses,
duplicates and out of order.  Both sides keep the highest index they have seen, the sender that of its
last packet and the receiver that of the highest packet it has accepted, and from these two different
histories they estimate the same counter for a packet (`rollover_agreement`).
-/

namespace Werift.Srtp

open Rtp (RtpHeader RtpPacket SameFields)

/-! ## What a context keeps -/

namespace Context

variable {C : Crypto} {ctx : Context} {h : RtpHeader} {payload wire : Bytes}

@[simp] lemma srtpSsrcState_setSrtp (s : SrtpSsrcState) (ssrc : ℕ) :
    (ctx.setSrtp s ssrc).srtpSsrcState ssrc = s := by
  simp [setSrtp, srtpSsrcState]

@[simp] lemma profile_setSrtp (s : SrtpSsrcState) (ssrc : ℕ) :
    (ctx.setSrtp s ssrc).profile = ctx.profile := rfl

@[simp] lemma keys_setSrtp (s : SrtpSsrcState) (ssrc : ℕ) :
    (ctx.setSrtp s ssrc).keys = ctx.keys := rfl

/-- The cipher of a context does not depend on its states. -/
lemma cipherEncryptRtp_setSrtp (s : SrtpSsrcState) (ssrc roc : ℕ) :
    (ctx.setSrtp s ssrc).cipherEncryptRtp C h payload roc = ctx.cipherEncryptRtp C h payload roc :=
  rfl

lemma encryptRtp_keeps (ctx : Context) (payload : Bytes) (h : RtpHeader) :
    (ctx.encryptRtp C payload h).2.profile = ctx.profile ∧
      (ctx.encryptRtp C payload h).2.keys = ctx.keys := by
  simp only [encryptRtp]
  split
  · exact ⟨rfl, rfl⟩
  · split
    · exact ⟨rfl, rfl⟩
    · exact ⟨rfl, rfl⟩

/-- **What a packet that is sent says about its sender**: the counter has been estimated, the cipher
has used it, and the packet is committed. -/
lemma encryptRtp_eq_ok (hwire : (ctx.encryptRtp C payload h).1 = .ok wire) :
    ∃ roc, estimateRolloverCounter h.sequenceNumber (ctx.srtpSsrcState h.ssrc) = .ok roc ∧
      ctx.cipherEncryptRtp C h payload roc = .ok wire ∧
      (ctx.encryptRtp C payload h).2.srtpSsrcState h.ssrc =
        commitPacketIndex h.sequenceNumber roc (ctx.srtpSsrcState h.ssrc) := by
  simp only [encryptRtp] at hwire ⊢
  cases hroc : estimateRolloverCounter h.sequenceNumber (ctx.srtpSsrcState h.ssrc) with
  | error e =>
    rw [hroc] at hwire
    cases hwire
  | ok roc =>
    rw [hroc] at hwire
    simp only [cipherEncryptRtp_setSrtp] at hwire ⊢
    cases henc : ctx.cipherEncryptRtp C h payload roc with
    | error e =>
      rw [henc] at hwire
      cases hwire
    | ok enc =>
      rw [henc] at hwire
      exact ⟨roc, rfl, by rw [henc]; exact hwire, srtpSsrcState_setSrtp _ _⟩

/-- The counter of `decryptRtp` is the estimate, when there is one. -/
lemma decryptRolloverCounter_eq {roc : ℕ}
    (hroc : estimateRolloverCounter h.sequenceNumber (ctx.srtpSsrcState h.ssrc) = .ok roc) :
    ctx.decryptRolloverCounter h = .ok roc := by
  rw [decryptRolloverCounter, hroc]

end Context

/-! ## The sender -/

variable (C : Crypto) (ctx₀ : Context) (packets : ℕ → RtpPacket)

/-- The context of the sender before the packet `i`. -/
def senderBefore : ℕ → Context
  | 0 => ctx₀
  | i + 1 => ((senderBefore i).encryptRtp C (packets i).payload (packets i).header).2

/-- What `encryptRtp` returns for the packet `i`. -/
def sent (i : ℕ) : Except SrtpError Bytes :=
  ((senderBefore C ctx₀ packets i).encryptRtp C (packets i).payload (packets i).header).1

/-- The counter that the sender uses for the packet `i`. -/
def senderCounter (i : ℕ) : Except SrtpError ℕ :=
  estimateRolloverCounter (packets i).header.sequenceNumber
    ((senderBefore C ctx₀ packets i).srtpSsrcState (packets i).header.ssrc)

/-- All packets up to this one have been sent. -/
def SentThrough (i : ℕ) : Prop := ∀ j ≤ i, ∃ wire, sent C ctx₀ packets j = .ok wire

/-- Packets of one source with consecutive sequence numbers, the first of which is `n₀`. -/
structure Consecutive (packets : ℕ → RtpPacket) (n₀ ssrc : ℕ) : Prop where
  first : n₀ < sequenceNumberCycle
  inRange : ∀ i, (packets i).header.InRange
  ssrc : ∀ i, (packets i).header.ssrc = ssrc
  sequenceNumber : ∀ i, (packets i).header.sequenceNumber = (n₀ + i) % sequenceNumberCycle

variable {C ctx₀ packets} {n₀ ssrc : ℕ}

lemma senderBefore_keeps (i : ℕ) : (senderBefore C ctx₀ packets i).profile = ctx₀.profile ∧
    (senderBefore C ctx₀ packets i).keys = ctx₀.keys := by
  induction i with
  | zero => exact ⟨rfl, rfl⟩
  | succ i ih =>
    have hkeeps := Context.encryptRtp_keeps (C := C) (senderBefore C ctx₀ packets i)
      (packets i).payload (packets i).header
    exact ⟨hkeeps.1.trans ih.1, hkeeps.2.trans ih.2⟩

/-- **The sender counts the cycles of its packets.**  Behind the packet `i` its state follows the
index `n₀ + i`. -/
lemma sender_counts (hstream : Consecutive packets n₀ ssrc)
    (hfresh : ctx₀.srtpSSRCStates ssrc = none) {i : ℕ} (hsent : SentThrough C ctx₀ packets i) :
    Follows ((senderBefore C ctx₀ packets (i + 1)).srtpSsrcState ssrc) (n₀ + i) ∧
      senderCounter C ctx₀ packets i = .ok ((n₀ + i) / sequenceNumberCycle) ∧
      (n₀ + i) / sequenceNumberCycle ≤ maxRolloverCounter := by
  induction i with
  | zero =>
    obtain ⟨wire, hwire⟩ := hsent 0 le_rfl
    obtain ⟨roc, hroc, -, hstate⟩ := Context.encryptRtp_eq_ok hwire
    have hs : (ctx₀.srtpSsrcState ssrc).rolloverHasProcessed = false := by
      rw [Context.srtpSsrcState, hfresh]
      rfl
    have hzero : (n₀ + 0) / sequenceNumberCycle = 0 := Nat.div_eq_of_lt hstream.first
    have hestimate : senderCounter C ctx₀ packets 0 = .ok ((n₀ + 0) / sequenceNumberCycle) := by
      rw [senderCounter, senderBefore, hstream.ssrc, hzero]
      exact estimate_fresh hs _
    obtain rfl := Except.ok.inj (hroc.symm.trans hestimate)
    rw [hstream.ssrc, hstream.sequenceNumber] at hstate
    refine ⟨?_, hestimate, by rw [hzero]; exact Nat.zero_le _⟩
    rw [senderBefore, hstate, senderBefore]
    exact follows_commit_fresh hs _
  | succ i ih =>
    obtain ⟨hfollows, -, -⟩ := ih fun j hj => hsent j (Nat.le_succ_of_le hj)
    obtain ⟨wire, hwire⟩ := hsent (i + 1) le_rfl
    obtain ⟨roc, hroc, -, hstate⟩ := Context.encryptRtp_eq_ok hwire
    rw [hstream.ssrc, hstream.sequenceNumber] at hroc
    have hnear : Near (n₀ + (i + 1)) (n₀ + i) := by
      simp only [Near, halfSequenceNumberCycle]
      omega
    have hmax : (n₀ + (i + 1)) / sequenceNumberCycle ≤ maxRolloverCounter := by
      by_contra hover
      obtain ⟨message, herror⟩ := estimate_overflow hfollows hnear (Nat.lt_of_not_le hover)
      rw [herror] at hroc
      cases hroc
    have hestimate := estimate_near hfollows hnear hmax
    obtain rfl := Except.ok.inj (hroc.symm.trans hestimate)
    refine ⟨?_, ?_, hmax⟩
    · have hcommit := hfollows.commit hnear
      rw [max_eq_right (by omega)] at hcommit
      rw [hstream.ssrc, hstream.sequenceNumber] at hstate
      rw [senderBefore, hstate]
      exact hcommit
    · rw [senderCounter, hstream.ssrc, hstream.sequenceNumber]
      exact hestimate

/-! ## The receiver -/

/-- The context of the receiver, and the highest index that it has accepted. -/
structure Receiver where
  ctx : Context
  highest : Option ℕ := none

variable (C ctx₀ packets n₀) in
/-- The packet `i` arrives. -/
def Receiver.receive (r : Receiver) (i : ℕ) : Receiver :=
  match sent C ctx₀ packets i with
  | .error _ => r
  | .ok wire =>
    match r.ctx.decryptRtp C wire with
    | (.error _, ctx) => { r with ctx }
    | (.ok _, ctx) => { ctx, highest := some ((r.highest.map (max · (n₀ + i))).getD (n₀ + i)) }

variable (C ctx₀ packets n₀) in
/-- The receiver behind these arrivals. -/
def received (arrivals : List ℕ) : Receiver :=
  arrivals.foldl (Receiver.receive C ctx₀ packets n₀) { ctx := ctx₀ }

variable (n₀) in
/-- A packet in the first cycle before any is accepted, and then less than half a cycle away from the
highest index. -/
def Receiver.InWindow (r : Receiver) (i : ℕ) : Prop :=
  match r.highest with
  | none => n₀ + i < sequenceNumberCycle
  | some highest => Near (n₀ + i) highest

variable (C ctx₀ packets n₀) in
/-- Each packet that arrives has been sent and is in the window of the receiver. -/
def Arrives (arrivals : List ℕ) : Prop :=
  ∀ earlier i later, arrivals = earlier ++ i :: later →
    SentThrough C ctx₀ packets i ∧ (received C ctx₀ packets n₀ earlier).InWindow n₀ i

/-- The receiver has the keys of the sender and follows the highest index that it has accepted. -/
structure Receiver.Tracks (ctx₀ : Context) (ssrc : ℕ) (r : Receiver) : Prop where
  profile : r.ctx.profile = ctx₀.profile
  keys : r.ctx.keys = ctx₀.keys
  state : match r.highest with
    | none => (r.ctx.srtpSsrcState ssrc).rolloverHasProcessed = false
    | some highest => Follows (r.ctx.srtpSsrcState ssrc) highest

/-- **The receiver estimates the cycle of a packet in its window.** -/
lemma Receiver.Tracks.estimate {r : Receiver} (htracks : r.Tracks ctx₀ ssrc) {i : ℕ}
    (hwindow : r.InWindow n₀ i) (hmax : (n₀ + i) / sequenceNumberCycle ≤ maxRolloverCounter) :
    estimateRolloverCounter ((n₀ + i) % sequenceNumberCycle) (r.ctx.srtpSsrcState ssrc) =
      .ok ((n₀ + i) / sequenceNumberCycle) := by
  have hstate := htracks.state
  rw [InWindow] at hwindow
  cases hhighest : r.highest with
  | none =>
    rw [hhighest] at hstate hwindow
    rw [Nat.div_eq_of_lt hwindow]
    exact estimate_fresh hstate _
  | some highest =>
    rw [hhighest] at hstate hwindow
    exact estimate_near hstate hwindow hmax

/-- The source and the sequence number of a sealed packet are parsed. -/
lemma parsed_fields {h header : RtpHeader} {payload wire : Bytes} {roc : ℕ} {ctx : Context}
    (hin : h.InRange) (hroc : roc < 2 ^ 32)
    (hwire : ctx.cipherEncryptRtp C h payload roc = .ok wire)
    (hparse : parseSrtpRtpHeader wire ctx.rtpAuthTagLength = .ok header) :
    header.sequenceNumber = h.sequenceNumber ∧ header.ssrc = h.ssrc := by
  obtain ⟨hdr, body, tag, hhdr, rfl, htag⟩ := Context.cipherEncryptRtp_eq hin hroc hwire
  have htake : (hdr ++ (body ++ tag)).take ((hdr ++ (body ++ tag)).length - ctx.rtpAuthTagLength) =
      hdr ++ body := by
    rw [← htag, ← List.append_assoc, List.length_append, Nat.add_sub_cancel]
    exact List.take_left
  obtain ⟨rest, hrest⟩ : ∃ rest, hdr ++ body = h.fixedBytes ++ rest := by
    rw [RtpHeader.serialize_eq hin] at hhdr
    obtain ⟨ext, -, rfl⟩ := Option.map_eq_some_iff.mp hhdr
    exact ⟨h.csrcBytes ++ ext ++ body, by simp only [List.append_assoc]⟩
  rw [parseSrtpRtpHeader, Except.bind_eq_ok] at hparse
  obtain ⟨-, -, hparse⟩ := hparse
  rw [htake, hrest] at hparse
  cases hread : RtpHeader.deSerialize (h.fixedBytes ++ rest) false with
  | error e =>
    rw [hread] at hparse
    cases hparse
  | ok read =>
    rw [hread] at hparse
    dsimp only at hparse
    rw [Except.bind_eq_ok] at hparse
    obtain ⟨-, -, hparse⟩ := hparse
    obtain rfl := Except.ok.inj hparse
    obtain ⟨hseq, hssrc⟩ := Rtp.deSerialize_fixed hread
    rw [RtpHeader.sequenceNumber_written hin] at hseq
    rw [RtpHeader.ssrc_written hin] at hssrc
    exact ⟨hseq, hssrc⟩

/-- **What one arrival preserves.** -/
lemma Receiver.Tracks.receive {r : Receiver} (hstream : Consecutive packets n₀ ssrc)
    (hfresh : ctx₀.srtpSSRCStates ssrc = none) (htracks : r.Tracks ctx₀ ssrc) {i : ℕ}
    (hsent : SentThrough C ctx₀ packets i) (hwindow : r.InWindow n₀ i) :
    (r.receive C ctx₀ packets n₀ i).Tracks ctx₀ ssrc := by
  obtain ⟨-, hcounter, hmax⟩ := sender_counts hstream hfresh hsent
  obtain ⟨wire, hwire⟩ := hsent i le_rfl
  obtain ⟨roc, hroc, hseal, -⟩ := Context.encryptRtp_eq_ok hwire
  obtain rfl := Except.ok.inj (hroc.symm.trans hcounter)
  rw [Receiver.receive, hwire]
  dsimp only
  rw [Context.decryptRtp]
  cases hopen : r.ctx.openRtp C wire with
  | error e => exact ⟨htracks.profile, htracks.keys, htracks.state⟩
  | ok opened =>
    obtain ⟨header, used, dec⟩ := opened
    dsimp only
    rw [Context.openRtp, Except.bind_eq_ok] at hopen
    obtain ⟨header', hparse, hopen⟩ := hopen
    rw [Except.bind_eq_ok] at hopen
    obtain ⟨used', hused, hopen⟩ := hopen
    rw [Except.bind_eq_ok] at hopen
    obtain ⟨dec', -, hopen⟩ := hopen
    obtain ⟨rfl, rfl, rfl⟩ : header' = header ∧ used' = used ∧ dec' = dec := by
      simpa using Except.ok.inj hopen
    have hlt : (n₀ + i) / sequenceNumberCycle < 2 ^ 32 := by
      simp only [maxRolloverCounter] at hmax
      omega
    have hlength : r.ctx.rtpAuthTagLength =
        (senderBefore C ctx₀ packets i).rtpAuthTagLength := by
      rw [Context.rtpAuthTagLength, Context.rtpAuthTagLength, htracks.profile,
        (senderBefore_keeps i).1]
    rw [hlength] at hparse
    obtain ⟨hseq, hssrc⟩ := parsed_fields (hstream.inRange i) hlt hseal hparse
    rw [hstream.sequenceNumber] at hseq
    rw [hstream.ssrc] at hssrc
    have hestimate := htracks.estimate hwindow hmax
    rw [← hseq, ← hssrc] at hestimate
    obtain rfl := Except.ok.inj
      (hused.symm.trans (Context.decryptRolloverCounter_eq hestimate))
    refine ⟨htracks.profile, htracks.keys, ?_⟩
    rw [hssrc, Context.srtpSsrcState_setSrtp, hseq]
    have hstate := htracks.state
    rw [InWindow] at hwindow
    cases hhighest : r.highest with
    | none =>
      rw [hhighest] at hstate
      exact follows_commit_fresh hstate _
    | some highest =>
      rw [hhighest] at hstate hwindow
      exact hstate.commit hwindow

/-- **What a run of arrivals preserves.** -/
lemma received_tracks (hstream : Consecutive packets n₀ ssrc)
    (hfresh : ctx₀.srtpSSRCStates ssrc = none) {arrivals : List ℕ}
    (harrives : Arrives C ctx₀ packets n₀ arrivals) :
    (received C ctx₀ packets n₀ arrivals).Tracks ctx₀ ssrc := by
  induction arrivals using List.reverseRecOn with
  | nil =>
    refine ⟨rfl, rfl, ?_⟩
    change (ctx₀.srtpSsrcState ssrc).rolloverHasProcessed = false
    rw [Context.srtpSsrcState, hfresh]
    rfl
  | append_singleton arrivals i ih =>
    obtain ⟨hsent, hwindow⟩ := harrives arrivals i [] rfl
    have hearlier : Arrives C ctx₀ packets n₀ arrivals := by
      intro earlier j later heq
      exact harrives earlier j (later ++ [i]) (by rw [heq, List.append_assoc, List.cons_append])
    rw [received, List.foldl_append]
    exact (ih hearlier).receive hstream hfresh hsent hwindow

/-! ## Agreement -/

/-- A packet that the format can hold, with a payload that ends in its own padding. -/
structure WellFormed (packet : RtpPacket) : Prop where
  header : packet.header.Representable
  padding : packet.header.padding = true →
    1 ≤ (packet.payload.getD (packet.payload.length - 1) 0).toNat ∧
      (packet.payload.getD (packet.payload.length - 1) 0).toNat ≤ packet.payload.length

/-- The padding of a well-formed packet is accepted. -/
lemma finalized_wellFormed {h' : RtpHeader} {hdr : Bytes} {packet : RtpPacket}
    (hpacket : WellFormed packet) (hoffset : h'.payloadOffset = hdr.length)
    (hpadding : h'.padding = packet.header.padding) :
    ∃ header, finalized h' (hdr ++ packet.payload) = .ok (hdr ++ packet.payload, header) := by
  have haccepted : PaddingAccepted h' (hdr ++ packet.payload) := by
    intro hpad
    obtain ⟨hpos, hle⟩ := hpacket.padding (hpadding ▸ hpad)
    have hlast : (hdr ++ packet.payload).getD ((hdr ++ packet.payload).length - 1) 0 =
        packet.payload.getD (packet.payload.length - 1) 0 := by
      rw [List.length_append, List.getD_append_right _ _ _ _ (by omega)]
      congr 1
      omega
    rw [hlast, hoffset, List.length_append]
    omega
  obtain ⟨paddingSize, hfinal⟩ := finalize_accepted haccepted
  rw [finalized, hfinal]
  exact ⟨_, rfl⟩

/-- **The receiver agrees with the sender.**  For every packet that arrives in the window, the counter
that the receiver estimates is the one that the sender has used, and a well-formed packet is
decrypted. -/
theorem rollover_agreement (hstream : Consecutive packets n₀ ssrc)
    (hfresh : ctx₀.srtpSSRCStates ssrc = none) {arrivals : List ℕ} {i : ℕ}
    (harrives : Arrives C ctx₀ packets n₀ (arrivals ++ [i])) :
    ∃ roc wire, senderCounter C ctx₀ packets i = .ok roc ∧ sent C ctx₀ packets i = .ok wire ∧
      estimateRolloverCounter (packets i).header.sequenceNumber
        ((received C ctx₀ packets n₀ arrivals).ctx.srtpSsrcState ssrc) = .ok roc ∧
      (WellFormed (packets i) → ∃ hdr header, (packets i).header.serialize = some hdr ∧
        ((received C ctx₀ packets n₀ arrivals).ctx.decryptRtp C wire).1 =
          .ok (hdr ++ (packets i).payload, header)) := by
  obtain ⟨hsent, hwindow⟩ := harrives arrivals i [] rfl
  have hearlier : Arrives C ctx₀ packets n₀ arrivals := by
    intro earlier j later heq
    exact harrives earlier j (later ++ [i]) (by rw [heq, List.append_assoc, List.cons_append])
  have htracks := received_tracks hstream hfresh hearlier
  obtain ⟨-, hcounter, hmax⟩ := sender_counts hstream hfresh hsent
  obtain ⟨wire, hwire⟩ := hsent i le_rfl
  obtain ⟨roc, hroc, hseal, -⟩ := Context.encryptRtp_eq_ok hwire
  obtain rfl := Except.ok.inj (hroc.symm.trans hcounter)
  have hestimate := htracks.estimate hwindow hmax
  rw [← hstream.sequenceNumber] at hestimate
  refine ⟨_, wire, hcounter, hwire, hestimate, fun hpacket => ?_⟩
  set r := received C ctx₀ packets n₀ arrivals
  have hlt : (n₀ + i) / sequenceNumberCycle < 2 ^ 32 := by
    simp only [maxRolloverCounter] at hmax
    omega
  have hin := hstream.inRange i
  obtain ⟨hdr, body, tag, hhdr, hparts, htag⟩ := Context.cipherEncryptRtp_eq hin hlt hseal
  obtain ⟨header, hparse, hoffset, hsame⟩ := parse_sealed hin hpacket.header hhdr body tag
  have hkeeps : (senderBefore C ctx₀ packets i).profile = ctx₀.profile ∧
      (senderBefore C ctx₀ packets i).keys = ctx₀.keys := senderBefore_keeps i
  have hlength : r.ctx.rtpAuthTagLength = tag.length := by
    rw [htag, Context.rtpAuthTagLength, Context.rtpAuthTagLength, htracks.profile, hkeeps.1]
  rw [← hparts, ← hlength] at hparse
  have hseq : header.sequenceNumber = (packets i).header.sequenceNumber := hsame.sequenceNumber
  have hssrc : header.ssrc = (packets i).header.ssrc := hsame.ssrc
  have hused : r.ctx.decryptRolloverCounter header = .ok ((n₀ + i) / sequenceNumberCycle) := by
    apply Context.decryptRolloverCounter_eq
    rw [hseq, hssrc, hstream.ssrc]
    exact hestimate
  have hdecrypt := Context.cipherDecryptRtp_sealed hin hhdr hlt
    (htracks.profile.trans hkeeps.1.symm) (htracks.keys.trans hkeeps.2.symm) hseal hoffset hseq hssrc
  obtain ⟨final, hfinal⟩ := finalized_wellFormed hpacket hoffset hsame.padding
  refine ⟨hdr, final, hhdr, ?_⟩
  have hopen : r.ctx.openRtp C wire =
      .ok (header, (n₀ + i) / sequenceNumberCycle, hdr ++ (packets i).payload, final) := by
    rw [Context.openRtp, hparse, Except.ok_bind, hused, Except.ok_bind, hdecrypt, hfinal,
      Except.ok_bind]
    rfl
  rw [Context.decryptRtp, hopen]

/-- Packets around the first wrap. -/
def wrappingPackets (i : ℕ) : RtpPacket :=
  ⟨{ payloadType := 96, sequenceNumber := (65535 + i) % sequenceNumberCycle, ssrc := 1 },
    [UInt8.ofNat (7 + i)]⟩

/-- The packet behind the wrap arrives. -/
theorem rollover_agreement_wrap : ∃ wire header,
    sent vectorCrypto vectorContext wrappingPackets 1 = .ok wire ∧
      ((received vectorCrypto vectorContext wrappingPackets 65535 [0]).ctx.decryptRtp
        vectorCrypto wire).1 = .ok ([128, 96, 0, 0, 0, 0, 0, 0, 0, 0, 0, 1, 8], header) := by
  have hstream : Consecutive wrappingPackets 65535 1 := by
    refine ⟨by decide, fun i => ?_, fun _ => rfl, fun _ => rfl⟩
    exact ⟨(by decide : 2 < 4), fun h => absurd h Bool.false_ne_true, (by decide : 96 < 128),
      Nat.mod_lt _ (by decide), (by decide : 0 < 2 ^ 32), (by decide : 1 < 2 ^ 32),
      fun _ h => absurd h List.not_mem_nil, (by decide : 0xbede < 2 ^ 16)⟩
  have hfirst : sent vectorCrypto vectorContext wrappingPackets 0 = .ok [128, 96, 255, 255, 0, 0, 0,
      0, 0, 0, 0, 1, 94, 21, 39, 28, 6, 247, 208, 178, 215, 119, 3] := by
    decide +kernel
  have hsecond : sent vectorCrypto vectorContext wrappingPackets 1 = .ok [128, 96, 0, 0, 0, 0, 0,
      0, 0, 0, 0, 1, 49, 80, 7, 71, 243, 73, 104, 14, 155, 2, 19] := by
    decide +kernel
  have hhighest : (received vectorCrypto vectorContext wrappingPackets 65535 [0]).highest =
      some 65535 := by
    decide +kernel
  have harrives : Arrives vectorCrypto vectorContext wrappingPackets 65535 ([0] ++ [1]) := by
    intro earlier i later heq
    rcases earlier with _ | ⟨j, _ | ⟨j', earlier⟩⟩
    · obtain ⟨rfl, -⟩ : 0 = i ∧ [1] = later := by simpa using heq
      refine ⟨fun j hj => ?_, (by decide : 65535 + 0 < sequenceNumberCycle)⟩
      obtain rfl := Nat.le_zero.mp hj
      exact ⟨_, hfirst⟩
    · obtain ⟨rfl, rfl, -⟩ : 0 = j ∧ 1 = i ∧ [] = later := by simpa using heq
      refine ⟨fun j hj => ?_, ?_⟩
      · obtain rfl | rfl : j = 0 ∨ j = 1 := by omega
        · exact ⟨_, hfirst⟩
        · exact ⟨_, hsecond⟩
      · rw [Receiver.InWindow, hhighest]
        decide
    · simp at heq
  obtain ⟨-, wire, -, hwire, -, hdecrypt⟩ := rollover_agreement hstream rfl harrives
  obtain ⟨hdr, header, hhdr, hplain⟩ := hdecrypt ⟨⟨by decide, fun h => absurd h (by decide)⟩,
    fun h => absurd h (by decide)⟩
  refine ⟨wire, header, hwire, ?_⟩
  have hserialize : (wrappingPackets 1).header.serialize =
      some [128, 96, 0, 0, 0, 0, 0, 0, 0, 0, 0, 1] := by
    decide +kernel
  obtain rfl := Option.some.inj (hserialize.symm.trans hhdr)
  exact hplain

end Werift.Srtp
