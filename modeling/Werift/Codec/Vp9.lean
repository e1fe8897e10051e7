import Werift.Codec.FramePackets
import Werift.Codec.Vp8

/-!
# VP9 payloads (`rtp/src/codec/vp9.ts`)

The parser of payload descriptors, and the packetizer, whose descriptor is one octet.
-/

namespace Werift.Codec

open Rtp (Bytes RtpPacket)

/-- The fields of a `Vp9RtpPayload`. -/
structure Vp9RtpPayload where
  /-- Picture ID (PID) present -/
  iBit : ℕ
  /-- Inter-picture predicted frame -/
  pBit : ℕ
  /-- Layer indices present -/
  lBit : ℕ
  /-- Flexible mode -/
  fBit : ℕ
  /-- Start of a frame -/
  bBit : ℕ
  /-- End of a frame -/
  eBit : ℕ
  /-- Scalability structure -/
  vBit : ℕ
  zBit : ℕ
  m : Option ℕ := none
  pictureId : Option ℕ := none
  tid : Option ℕ := none
  u : Option ℕ := none
  sid : Option ℕ := none
  /-- inter_layer_predicted -/
  d : Option ℕ := none
  tl0PicIdx : Option ℕ := none
  pDiff : List ℕ := []
  n_s : Option ℕ := none
  y : Option ℕ := none
  g : Option ℕ := none
  width : List ℕ := []
  height : List ℕ := []
  n_g : ℕ := 0
  pgT : List ℕ := []
  pgU : List ℕ := []
  pgP_Diff : List (List ℕ) := []
  payload : Bytes := []
deriving DecidableEq

namespace Vp9RtpPayload

variable (p : Vp9RtpPayload) (buf : Bytes)

/-- The picture id of 7 or 15 bits. -/
def readPictureId (offset : ℕ) : Except String (Vp9RtpPayload × ℕ) :=
  if p.iBit ≠ 0 then do
    assertRtpCodecPayloadLength buf 1 "VP9" offset
    let octet := buf.getD offset 0
    let p := { p with m := some (getBit octet 0 1) }
    if getBit octet 0 1 ≠ 0 then do
      assertRtpCodecPayloadLength buf 2 "VP9" offset
      let low := buf.getD (offset + 1) 0
      .ok ({ p with pictureId := some (getBit octet 1 7 * 256 + low.toNat) }, offset + 2)
    else .ok ({ p with pictureId := some (getBit octet 1 7) }, offset + 1)
  else .ok (p, offset)

/-- The layer indices. -/
def readLayerIndices (offset : ℕ) : Except String (Vp9RtpPayload × ℕ) :=
  if p.lBit ≠ 0 then do
    assertRtpCodecPayloadLength buf 1 "VP9" offset
    let octet := buf.getD offset 0
    let p := { p with tid := some (getBit octet 0 3), u := some (getBit octet 3 1),
                      sid := some (getBit octet 4 3), d := some (getBit octet 7 1) }
    let offset := offset + 1
    if p.fBit = 0 then do
      assertRtpCodecPayloadLength buf 1 "VP9" offset
      .ok ({ p with tl0PicIdx := some (buf.getD offset 0).toNat }, offset + 1)
    else .ok (p, offset)
  else .ok (p, offset)

/-- The loop over the reference indices. -/
def readPDiff (offset : ℕ) : Except String (List ℕ × ℕ) :=
  if buf.length < offset + 1 then
    .error s!"VP9 RTP payload truncated: need {offset + 1} bytes, got {buf.length}"
  else
    let octet := buf.getD offset 0
    if getBit octet 7 1 = 0 then .ok ([getBit octet 0 7], offset + 1)
    else (readPDiff (offset + 1)).map fun r => (getBit octet 0 7 :: r.1, r.2)
termination_by buf.length - offset

/-- The reference indices. -/
def readReferences (offset : ℕ) : Except String (Vp9RtpPayload × ℕ) :=
  if p.fBit ≠ 0 ∧ p.pBit ≠ 0 then do
    let (pDiff, offset) ← readPDiff buf offset
    .ok ({ p with pDiff }, offset)
  else .ok (p, offset)

/-- The widths and heights of `n` layers. -/
def readResolutions : ℕ → ℕ → Except String (List (ℕ × ℕ) × ℕ)
  | 0, offset => .ok ([], offset)
  | n + 1, offset => do
    assertRtpCodecPayloadLength buf 4 "VP9" offset
    let (resolutions, offset') ← readResolutions n (offset + 4)
    .ok ((readNat 2 buf offset, readNat 2 buf (offset + 2)) :: resolutions, offset')

/-- The `r` differences of a picture. -/
def readDifferences : ℕ → ℕ → Except String (List ℕ × ℕ)
  | 0, offset => .ok ([], offset)
  | r + 1, offset => do
    assertRtpCodecPayloadLength buf 1 "VP9" offset
    let (differences, offset') ← readDifferences r (offset + 1)
    .ok ((buf.getD offset 0).toNat :: differences, offset')

/-- The `n` pictures of a picture group, each with its `T`, `U` and differences. -/
def readPictureGroup : ℕ → ℕ → Except String (List (ℕ × ℕ × List ℕ) × ℕ)
  | 0, offset => .ok ([], offset)
  | n + 1, offset => do
    assertRtpCodecPayloadLength buf 1 "VP9" offset
    let octet := buf.getD offset 0
    let (differences, offset) ← readDifferences buf (getBit octet 4 2) (offset + 1)
    let (pictures, offset) ← readPictureGroup n offset
    .ok ((getBit octet 0 3, getBit octet 3 1, differences) :: pictures, offset)

/-- The scalability structure. -/
def readScalabilityStructure (offset : ℕ) : Except String (Vp9RtpPayload × ℕ) :=
  if p.vBit ≠ 0 then do
    assertRtpCodecPayloadLength buf 1 "VP9" offset
    let octet := buf.getD offset 0
    let (n_s, y, g) := (getBit octet 0 3, getBit octet 3 1, getBit octet 4 1)
    let offset := offset + 1
    let (resolutions, offset) ←
      if y ≠ 0 then readResolutions buf (n_s + 1) offset else .ok ([], offset)
    let (n_g, offset) ←
      if g ≠ 0 then do
        assertRtpCodecPayloadLength buf 1 "VP9" offset
        .ok ((buf.getD offset 0).toNat, offset + 1)
      else .ok (0, offset)
    let (pictures, offset) ← readPictureGroup buf n_g offset
    .ok
      ({ p with n_s := some n_s, y := some y, g := some g
                width := resolutions.map Prod.fst, height := resolutions.map Prod.snd, n_g
                pgT := pictures.map fun picture => picture.1
                pgU := pictures.map fun picture => picture.2.1
                pgP_Diff := pictures.map fun picture => picture.2.2 }, offset)
  else .ok (p, offset)

/-- `parseRtpPayload(buf)`. -/
def parseRtpPayload (buf : Bytes) : Except String (Vp9RtpPayload × ℕ) := do
  assertRtpCodecPayloadLength buf 1 "VP9" 0
  let octet := buf.getD 0 0
  let p : Vp9RtpPayload :=
    { iBit := getBit octet 0 1, pBit := getBit octet 1 1, lBit := getBit octet 2 1
      fBit := getBit octet 3 1, bBit := getBit octet 4 1, eBit := getBit octet 5 1
      vBit := getBit octet 6 1, zBit := getBit octet 7 1 }
  let (p, offset) ← p.readPictureId buf 1
  let (p, offset) ← p.readLayerIndices buf offset
  let (p, offset) ← p.readReferences buf offset
  p.readScalabilityStructure buf offset

/-- `Vp9RtpPayload.deSerialize(buf)`. -/
def deSerialize (buf : Bytes) : Except String Vp9RtpPayload := do
  let (p, offset) ← parseRtpPayload buf
  .ok { p with payload := buf.drop offset }

/-- `isKeyframe`. -/
def isKeyframe : Bool := p.pBit = 0 ∧ p.bBit ≠ 0 ∧ (p.sid.getD 0 = 0 ∨ p.lBit = 0)

/-- `isPartitionHead`. -/
def isPartitionHead : Bool := p.bBit ≠ 0 ∧ (p.lBit = 0 ∨ p.d.getD 0 = 0)

end Vp9RtpPayload

/-- The class `Vp9RtpPayload`. -/
def Vp9RtpPayload.class : DeSerialize := fun buf _ =>
  (Vp9RtpPayload.deSerialize buf).map fun p =>
    { payload := some p.payload, isKeyframe := p.isKeyframe }

/-! ## The packetizer -/

/-- The fields of a `Vp9Packetizer`. -/
structure Vp9Packetizer extends PacketizerBase where
  defaultIsKeyframe : Bool := false

/-- `Vp9PacketizeOptions`; `frameType` says whether it is `"key"`. -/
structure Vp9PacketizeOptions where
  isKeyframe : Option Bool := none
  frameType : Option Bool := none

/-- The descriptor of `packetize`. -/
def vp9Descriptor (pBit : ℕ) (isStart isEnd : Bool) : Bytes :=
  [UInt8.ofNat (bitWriter 8 [(1, 0, 0), (1, 1, pBit), (1, 2, 0), (1, 3, 0), (1, 4, isStart.toNat),
    (1, 5, isEnd.toNat), (1, 6, 0), (1, 7, 0)])]

/-- `packetize(data, rtpTimestamp, options)`. -/
def Vp9Packetizer.packetize (p : Vp9Packetizer) (data : Bytes) (rtpTimestamp : ℕ)
    (options : Vp9PacketizeOptions) : Except String (List RtpPacket × Vp9Packetizer) :=
  if data = [] then .ok ([], p)
  else if p.maxPayloadSize - 1 = 0 then
    .error s!"Vp9Packetizer: maxPayloadSize {p.maxPayloadSize} too small for VP9 descriptor"
  else
    let isKeyframe := options.frameType.getD (options.isKeyframe.getD p.defaultIsKeyframe)
    let pBit := if isKeyframe then 0 else 1
    let built := p.toPacketizerBase.buildPackets rtpTimestamp
      (cutPayloads (p.maxPayloadSize - 1) (vp9Descriptor pBit) true data)
    .ok (built.1, { p with toPacketizerBase := built.2 })

/-! ## The round trip -/

/-- Whether a payload is the head of a partition. -/
def Vp9RtpPayload.isHead (payload : Bytes) : Except String Bool :=
  (Vp9RtpPayload.deSerialize payload).map Vp9RtpPayload.isPartitionHead

/-- The octet of the descriptor. -/
lemma exists_vp9Descriptor {pBit : ℕ} (hpBit : pBit < 2) (isStart isEnd : Bool) :
    ∃ octet, vp9Descriptor pBit isStart isEnd = [octet] ∧ getBit octet 0 1 = 0 ∧ getBit octet 1 1 = pBit ∧
      getBit octet 2 1 = 0 ∧ getBit octet 3 1 = 0 ∧ getBit octet 4 1 = isStart.toNat ∧
      getBit octet 5 1 = isEnd.toNat ∧ getBit octet 6 1 = 0 ∧ getBit octet 7 1 = 0 := by
  refine ⟨_, rfl, ?_⟩
  interval_cases pBit <;> cases isStart <;> cases isEnd <;> decide

/-- The descriptor of the packetizer is read as one octet. -/
lemma Vp9RtpPayload.deSerialize_descriptor {pBit : ℕ} (hpBit : pBit < 2) (isStart isEnd : Bool)
    (chunk : Bytes) : Vp9RtpPayload.deSerialize (vp9Descriptor pBit isStart isEnd ++ chunk) = .ok
      { iBit := 0, pBit, lBit := 0, fBit := 0, bBit := isStart.toNat, eBit := isEnd.toNat, vBit := 0
        zBit := 0, payload := chunk } := by
  obtain ⟨octet, hoctet, hi, hp, hl, hf, hb, he, hv, hz⟩ := exists_vp9Descriptor hpBit isStart isEnd
  have hassert : assertRtpCodecPayloadLength (octet :: chunk) 1 "VP9" 0 = .ok () :=
    if_neg (Nat.not_lt.mpr (Nat.succ_le_succ (Nat.zero_le _)))
  have hzero : ¬(0 : ℕ) ≠ 0 := not_not.mpr rfl
  rw [hoctet, List.singleton_append, deSerialize, parseRtpPayload, hassert, Except.ok_bind,
    List.getD_cons_zero]
  dsimp only
  rw [hi, hp, hl, hf, hb, he, hv, hz]
  rw [readPictureId, if_neg hzero, Except.ok_bind]
  dsimp only
  rw [readLayerIndices, if_neg hzero, Except.ok_bind]
  dsimp only
  rw [readReferences, if_neg (fun h => hzero h.1), Except.ok_bind]
  dsimp only
  rw [readScalabilityStructure, if_neg hzero, Except.ok_bind]
  rfl

lemma length_vp9Descriptor (pBit : ℕ) (isStart isEnd : Bool) :
    (vp9Descriptor pBit isStart isEnd).length = 1 := rfl

namespace Vp9Packetizer

variable {p p' : Vp9Packetizer} {data : Bytes} {rtpTimestamp : ℕ} {options : Vp9PacketizeOptions}
  {packets : List RtpPacket}

/-- **What one step does** with a frame that is not empty. -/
lemma packetize_cases (hdata : data ≠ []) (h : p.packetize data rtpTimestamp options = .ok (packets, p')) :
    1 < p.maxPayloadSize ∧ ∃ pBit < 2, p.toPacketizerBase.buildPackets rtpTimestamp
      (cutPayloads (p.maxPayloadSize - 1) (vp9Descriptor pBit) true data) = (packets, p'.toPacketizerBase) := by
  rw [packetize, if_neg hdata] at h
  split_ifs at h with hsmall
  cases h
  refine ⟨by omega, _, ?_, rfl⟩
  split_ifs <;> norm_num

/-- **VP9 frames** come back from their packets. -/
lemma frameSent (hdata : data ≠ []) (h : p.packetize data rtpTimestamp options = .ok (packets, p')) :
    FrameSent Vp9RtpPayload.class Vp9RtpPayload.isHead p.maxPayloadSize data packets := by
  obtain ⟨hsize, pBit, hpBit, hbuild⟩ := packetize_cases hdata h
  have hpackets := congrArg Prod.fst hbuild
  have hparse := Vp9RtpPayload.deSerialize_descriptor hpBit
  dsimp only at hpackets
  rw [← hpackets]
  refine frameSent_of_carries (by omega) hdata (length_vp9Descriptor pBit) (by omega) ?_ ?_ ?_ ?_
  · exact fun isLast => ⟨_, by rw [Vp9RtpPayload.class, hparse]; rfl, rfl, rfl⟩
  · exact fun isLast chunk => ⟨_, by rw [Vp9RtpPayload.class, hparse]; rfl, rfl, rfl⟩
  · intro isLast
    rw [Vp9RtpPayload.isHead, hparse]
    rfl
  · intro isLast chunk
    rw [Vp9RtpPayload.isHead, hparse]
    rfl

lemma packets_ne_nil (hdata : data ≠ []) (h : p.packetize data rtpTimestamp options = .ok (packets, p')) :
    packets ≠ [] := by
  obtain ⟨hsize, pBit, -, hbuild⟩ := packetize_cases hdata h
  rw [cutPayloads_of_ne_nil (by omega) hdata] at hbuild
  rintro rfl
  cases hbuild

/-- A run of the packetizer: frames with their timestamps and options. -/
def packetizeFrames : Vp9Packetizer → List (Bytes × ℕ × Vp9PacketizeOptions) →
    Except String (List (List RtpPacket) × Vp9Packetizer) :=
  Codec.packetizeFrames fun p frame => p.packetize frame.1 frame.2.1 frame.2.2

/-- With room behind the descriptor every run is accepted. -/
lemma accepts (hmax : 1 < p.maxPayloadSize) (frames : List (Bytes × ℕ × Vp9PacketizeOptions)) :
    ∃ sent p', p.packetizeFrames frames = .ok (sent, p') := by
  refine exists_packetizeFrames (I := fun p => 1 < p.maxPayloadSize) hmax fun p frame hp => ?_
  by_cases hdata : frame.1 = []
  · exact ⟨[], p, if_pos hdata, hp⟩
  · refine ⟨_, _, by rw [packetize, if_neg hdata, if_neg (by omega)], ?_⟩
    exact hp.trans_eq (PacketizerBase.buildPackets_maxPayloadSize _ _ _).symm

/-- **A run of the packetizer of VP9** sends its frames. -/
lemma framesSent {frames : List (Bytes × ℕ × Vp9PacketizeOptions)} {sent : List (List RtpPacket)}
    (hframes : ∀ frame ∈ frames, frame.1 ≠ []) (h : p.packetizeFrames frames = .ok (sent, p')) :
    FramesSent Vp9RtpPayload.class Vp9RtpPayload.isHead p.maxPayloadSize (frames.map Prod.fst) sent := by
  refine (framesSent_iff_forall Vp9Packetizer.toPacketizerBase (P := fun _ => True) rfl ?_ h).mpr
    fun _ _ => trivial
  intro q frame packets q' hmem hmax hpacketize
  have hframe := hframes frame hmem
  obtain ⟨-, pBit, -, hbuild⟩ := packetize_cases hframe hpacketize
  refine ⟨packets_ne_nil hframe hpacketize, ⟨_, _, hbuild⟩, iff_true_intro ?_⟩
  rw [← hmax]
  exact frameSent hframe hpacketize

end Vp9Packetizer

end Werift.Codec
