import Werift.Codec.Vp8Descriptor
import Werift.Codec.Vp9

/-!
# The packetizer of VP8 (`rtp/src/codec/vp8.ts`)

A descriptor is four octets long.  The parser wants three octets behind the first one of a frame, which the
packetizer does not see to (`framesSent_iff`).
-/

namespace Werift.Codec

open Rtp (Bytes RtpPacket)

/-- The fields of a `Vp8Packetizer`; the constructor cuts the picture id to 15 bits. -/
structure Vp8Packetizer extends PacketizerBase where
  pictureId : ℕ
  pictureId_lt : pictureId < 0x8000

/-- `VP8_PAYLOAD_DESCRIPTOR_LENGTH`. -/
def VP8_PAYLOAD_DESCRIPTOR_LENGTH : ℕ := 4

/-- `createVp8PayloadDescriptor({ start, pictureId })`. -/
def createVp8PayloadDescriptor (start : Bool) (pictureId : ℕ) : Bytes :=
  let pid := pictureId % 0x8000
  [0x80 ||| (if start then 0x10 else 0x00), 0x80, UInt8.ofNat (0x80 ||| pid >>> 8),
    UInt8.ofNat (pid % 0x100)]

/-- `packetize(data, rtpTimestamp)`. -/
def Vp8Packetizer.packetize (p : Vp8Packetizer) (data : Bytes) (rtpTimestamp : ℕ) :
    Except String (List RtpPacket × Vp8Packetizer) :=
  let chunkSize := p.maxPayloadSize - VP8_PAYLOAD_DESCRIPTOR_LENGTH
  if data = [] then .ok ([], p)
  else if chunkSize = 0 then
    .error s!"Vp8Packetizer: maxPayloadSize {p.maxPayloadSize} too small for VP8 descriptor"
  else
    let built := p.toPacketizerBase.buildPackets rtpTimestamp
      (cutPayloads chunkSize (fun start _ => createVp8PayloadDescriptor start p.pictureId) true data)
    .ok (built.1,
      { toPacketizerBase := built.2
        pictureId := (p.pictureId + 1) % 0x8000
        pictureId_lt := Nat.mod_lt _ (by decide) })

namespace Vp8RtpPayload

open Vp8

/-- `isPartitionHead`. -/
def isPartitionHead (p : Vp8RtpPayload) : Bool := p.sBit = 1

/-- Whether a payload is the head of a partition. -/
def isHead (payload : Bytes) : Except String Bool := (deSerialize payload).map isPartitionHead

end Vp8RtpPayload

/-! ## The descriptor -/

lemma getBit_pictureId {high : ℕ} (h : high < 128) :
    getBit (UInt8.ofNat (0x80 ||| high)) 0 1 = 1 ∧ getBit (UInt8.ofNat (0x80 ||| high)) 1 7 = high := by
  have hor : 0x80 ||| high = 128 + high := by
    have hadd := Nat.two_pow_add_eq_or_of_lt (i := 7) (b := high) h 1
    rw [Nat.mul_one] at hadd
    exact hadd.symm
  have hnat : (UInt8.ofNat (128 + high)).toNat = 128 + high := by
    rw [UInt8.toNat_ofNat']
    exact Nat.mod_eq_of_lt (by omega)
  rw [hor, getBit, getBit, hnat]
  constructor <;> omega

/-- The descriptor of a packetizer, with a picture id of 15 bits. -/
def vp8Descriptor (start : Bool) {pictureId : ℕ} (h : pictureId < 0x8000) : Vp8.PayloadDescriptor where
  octet := 0x80 ||| (if start then 0x10 else 0x00)
  extension := some
    { octet := 0x80
      pictureId := some (.long (UInt8.ofNat (0x80 ||| pictureId >>> 8)) (UInt8.ofNat (pictureId % 0x100))
        (getBit_pictureId (by rw [Nat.shiftRight_eq_div_pow]; omega)).1)
      tl0PicIdx := none
      tidKeyIdx := none
      iBit := (by decide : getBit 0x80 0 1 = 1)
      lBit := by decide
      tkBit := by decide
      tBit_of_lBit := by decide }
  xBit := (by decide :
    ∀ start, getBit (0x80 ||| (if start = true then 0x10 else 0x00)) 0 1 = 1) start

variable (start : Bool) {pictureId : ℕ}

lemma bytes_vp8Descriptor (h : pictureId < 0x8000) :
    createVp8PayloadDescriptor start pictureId = (vp8Descriptor start h).bytes := by
  rw [createVp8PayloadDescriptor, Nat.mod_eq_of_lt h]
  rfl

/-- The bit `S` and the partition index. -/
lemma octet_vp8Descriptor (h : pictureId < 0x8000) :
    getBit (vp8Descriptor start h).octet 3 1 = start.toNat ∧ getBit (vp8Descriptor start h).octet 5 3 = 0 := by
  have hoctet : ∀ start, getBit (0x80 ||| (if start = true then 0x10 else 0x00)) 3 1 = start.toNat ∧
      getBit (0x80 ||| (if start = true then 0x10 else 0x00)) 5 3 = 0 := by decide
  exact hoctet start

lemma startsFrame_vp8Descriptor (h : pictureId < 0x8000) :
    (vp8Descriptor start h).StartsFrame ↔ start = true := by
  obtain ⟨hsBit, hpid⟩ := octet_vp8Descriptor start h
  rw [Vp8.PayloadDescriptor.StartsFrame, hsBit, hpid]
  cases start <;> simp

lemma not_tidOnly_vp8Descriptor (h : pictureId < 0x8000) : ¬(vp8Descriptor start h).TidOnly := by
  rintro ⟨e, he, -, htBit, -⟩
  cases Option.some.inj he
  have hbit : ¬getBit 0x80 2 1 = 1 := by decide
  exact hbit htBit

lemma pictureId_vp8Descriptor (h : pictureId < 0x8000) :
    (vp8Descriptor start h).head.pictureId = some pictureId := by
  have hhigh : pictureId >>> 8 < 128 := by
    rw [Nat.shiftRight_eq_div_pow]
    omega
  have hlow : (UInt8.ofNat (pictureId % 0x100)).toNat = pictureId % 0x100 := by
    rw [UInt8.toNat_ofNat']
    exact Nat.mod_eq_of_lt (Nat.mod_lt _ (by decide))
  change some (getBit (UInt8.ofNat (0x80 ||| pictureId >>> 8)) 1 7 * 256 +
    (UInt8.ofNat (pictureId % 0x100)).toNat) = _
  rw [(getBit_pictureId hhigh).2, hlow, Nat.shiftRight_eq_div_pow]
  congr 1
  omega

namespace Vp8RtpPayload

open Vp8

/-- **What is behind a descriptor** is its payload, if a first packet has the three octets of a header. -/
lemma deSerialize_packetized (h : pictureId < 0x8000) {chunk : Bytes} (hchunk : start = true → 3 ≤ chunk.length) :
    deSerialize (createVp8PayloadDescriptor start pictureId ++ chunk) =
      .ok ((vp8Descriptor start h).fields chunk) := by
  have hheader := (readPayloadHeader_eq_ok_iff (vp8Descriptor start h) chunk).mpr fun hstart =>
    hchunk ((startsFrame_vp8Descriptor start h).mp hstart)
  rw [bytes_vp8Descriptor _ h, deSerialize_eq, readDescriptor_append, if_neg (not_tidOnly_vp8Descriptor _ h),
    Except.ok_bind, Nat.sub_zero, List.drop_left, hheader]

/-- A first packet with less is refused. -/
lemma three_le_of_deSerialize (h : pictureId < 0x8000) {chunk : Bytes} {p : Vp8RtpPayload}
    (hread : deSerialize (createVp8PayloadDescriptor true pictureId ++ chunk) = .ok p) : 3 ≤ chunk.length := by
  have hexist : payloadHeaderExist { (vp8Descriptor true h).head with payload := chunk } = true :=
    decide_eq_true (octet_vp8Descriptor true h)
  rw [bytes_vp8Descriptor _ h, deSerialize_eq, readDescriptor_append, if_neg (not_tidOnly_vp8Descriptor _ h),
    Except.ok_bind, Nat.sub_zero, List.drop_left, readPayloadHeader, if_pos hexist] at hread
  have hlength := (of_assert hread).1
  rw [List.length_append] at hlength
  omega

lemma fields_vp8Descriptor (h : pictureId < 0x8000) (chunk : Bytes) :
    ((vp8Descriptor start h).fields chunk).payload = chunk ∧
      ((vp8Descriptor start h).fields chunk).isPartitionHead = start ∧
      ((vp8Descriptor start h).fields chunk).pictureId = some pictureId := by
  have hpictureId := pictureId_vp8Descriptor start h
  have hsBit : decide ((vp8Descriptor start h).head.sBit = 1) = start := by
    change decide (getBit (vp8Descriptor start h).octet 3 1 = 1) = start
    rw [(octet_vp8Descriptor start h).1]
    cases start <;> rfl
  rw [PayloadDescriptor.fields]
  split_ifs <;> exact ⟨rfl, hsBit, hpictureId⟩

/-- The picture id of a payload. -/
def pictureIdOf (payload : Bytes) : Except String (Option ℕ) := (deSerialize payload).map (·.pictureId)

end Vp8RtpPayload

/-! ## Frames -/

namespace Vp8Packetizer

variable {p p' : Vp8Packetizer} {data : Bytes} {rtpTimestamp : ℕ} {packets : List RtpPacket}

/-- **What one step does** with a frame that is not empty. -/
lemma packetize_cases (hdata : data ≠ []) (h : p.packetize data rtpTimestamp = .ok (packets, p')) :
    4 < p.maxPayloadSize ∧ p'.pictureId = (p.pictureId + 1) % 0x8000 ∧
      p.toPacketizerBase.buildPackets rtpTimestamp (cutPayloads (p.maxPayloadSize - 4)
        (fun start _ => createVp8PayloadDescriptor start p.pictureId) true data) =
        (packets, p'.toPacketizerBase) := by
  rw [packetize, if_neg hdata, VP8_PAYLOAD_DESCRIPTOR_LENGTH] at h
  split_ifs at h with hsmall
  cases h
  exact ⟨by omega, rfl, rfl⟩

lemma length_descriptor (start : Bool) (pictureId : ℕ) :
    (createVp8PayloadDescriptor start pictureId).length = 4 := rfl

/-- The first packet is understood if it has three octets of the frame. -/
lemma frameSent_iff (hdata : data ≠ []) (h : p.packetize data rtpTimestamp = .ok (packets, p')) :
    FrameSent Vp8RtpPayload.class Vp8RtpPayload.isHead p.maxPayloadSize data packets ↔
      3 ≤ data.length ∧ 7 ≤ p.maxPayloadSize := by
  obtain ⟨hsize, -, hbuild⟩ := packetize_cases hdata h
  have hpos : 0 < p.maxPayloadSize - 4 := by omega
  have hpackets := congrArg Prod.fst hbuild
  have htake : (data.take (p.maxPayloadSize - 4)).length = min (p.maxPayloadSize - 4) data.length :=
    List.length_take
  dsimp only at hpackets
  constructor
  · intro hsent
    have hhead := hsent.head
    rw [← hpackets, PacketizerBase.buildPackets_payloads, cutPayloads_of_ne_nil hpos hdata, List.map_cons,
      List.mapM_cons] at hhead
    obtain ⟨isHead, hfirst, -⟩ := Except.bind_eq_ok.mp hhead
    obtain ⟨parsed, hparsed, -⟩ := Except.map_eq_ok.mp hfirst
    have hthree := Vp8RtpPayload.three_le_of_deSerialize p.pictureId_lt hparsed
    omega
  · rintro ⟨hthree, hseven⟩
    have hchunk : 3 ≤ (data.take (p.maxPayloadSize - 4)).length := by omega
    have hfirst := Vp8RtpPayload.deSerialize_packetized true p.pictureId_lt fun _ => hchunk
    have hlater := fun chunk : Bytes => Vp8RtpPayload.deSerialize_packetized false p.pictureId_lt
      (nofun : false = true → 3 ≤ chunk.length)
    have hfields := fun start => Vp8RtpPayload.fields_vp8Descriptor start p.pictureId_lt
    rw [← hpackets]
    refine frameSent_of_carries hpos hdata (fun start _ => length_descriptor start p.pictureId) (by omega)
      ?_ ?_ ?_ ?_
    · exact fun _ => ⟨_, by rw [Vp8RtpPayload.class, hfirst]; rfl, congrArg some (hfields _ _).1, rfl⟩
    · exact fun _ chunk => ⟨_, by rw [Vp8RtpPayload.class, hlater]; rfl, congrArg some (hfields _ _).1, rfl⟩
    · intro _
      rw [Vp8RtpPayload.isHead, hfirst]
      exact congrArg Except.ok (hfields true _).2.1
    · intro _ chunk
      rw [Vp8RtpPayload.isHead, hlater]
      exact congrArg Except.ok (hfields false _).2.1

lemma packets_ne_nil (hdata : data ≠ []) (h : p.packetize data rtpTimestamp = .ok (packets, p')) :
    packets ≠ [] := by
  obtain ⟨hsize, -, hbuild⟩ := packetize_cases hdata h
  rw [cutPayloads_of_ne_nil (by omega) hdata] at hbuild
  rintro rfl
  cases hbuild

/-- The picture id is in every packet of a frame. -/
lemma pictureIdOf_packetize (hdata : data ≠ []) (h : p.packetize data rtpTimestamp = .ok (packets, p'))
    (hchunk : 3 ≤ data.length ∧ 7 ≤ p.maxPayloadSize) :
    ∀ packet ∈ packets, Vp8RtpPayload.pictureIdOf packet.payload = .ok (some p.pictureId) := by
  obtain ⟨hsize, -, hbuild⟩ := packetize_cases hdata h
  have hpackets := congrArg Prod.fst hbuild
  have hread : ∀ start chunk, (start = true → 3 ≤ chunk.length) → Vp8RtpPayload.pictureIdOf
      (createVp8PayloadDescriptor start p.pictureId ++ chunk) = .ok (some p.pictureId) := by
    intro start chunk hlength
    rw [Vp8RtpPayload.pictureIdOf, Vp8RtpPayload.deSerialize_packetized start p.pictureId_lt hlength]
    exact congrArg Except.ok (Vp8RtpPayload.fields_vp8Descriptor start p.pictureId_lt chunk).2.2
  dsimp only at hpackets
  rw [← hpackets]
  have hthree : 3 ≤ (data.take (p.maxPayloadSize - 4)).length := by
    rw [List.length_take]
    omega
  have hcut : ∀ x ∈ cutPayloads (p.maxPayloadSize - 4) (fun start _ => createVp8PayloadDescriptor start p.pictureId)
      true data, Vp8RtpPayload.pictureIdOf x.1 = .ok (some p.pictureId) :=
    forall_mem_cutPayloads (by omega)
      (P := fun payload => Vp8RtpPayload.pictureIdOf payload = .ok (some p.pictureId))
      (fun _ => hread true _ fun _ => hthree) fun _ chunk _ => hread false chunk nofun
  exact p.toPacketizerBase.forall_mem_buildPackets rtpTimestamp
    (P := fun payload => Vp8RtpPayload.pictureIdOf payload = .ok (some p.pictureId)) hcut

end Vp8Packetizer

/-! ## Runs -/

/-- **Frames of VP8 that have been sent**: all packets of a frame have one picture id, and from frame to frame
it is increased by one. -/
structure Vp8FramesSent (p : Vp8Packetizer) (frames : List Bytes) (sent : List (List RtpPacket)) : Prop
    extends FramesSent Vp8RtpPayload.class Vp8RtpPayload.isHead p.maxPayloadSize frames sent where
  pictureId : ∀ k packets, sent[k]? = some packets → ∀ packet ∈ packets,
    Vp8RtpPayload.pictureIdOf packet.payload = .ok (some ((p.pictureId + k) % 0x8000))

namespace Vp8Packetizer

/-- A run of the packetizer: frames with their timestamps. -/
def packetizeFrames : Vp8Packetizer → List (Bytes × ℕ) → Except String (List (List RtpPacket) × Vp8Packetizer) :=
  Codec.packetizeFrames fun p frame => p.packetize frame.1 frame.2

variable {p p' : Vp8Packetizer} {frames : List (Bytes × ℕ)} {sent : List (List RtpPacket)}

lemma maxPayloadSize_packetize {data : Bytes} {rtpTimestamp : ℕ} {packets : List RtpPacket} (hdata : data ≠ [])
    (h : p.packetize data rtpTimestamp = .ok (packets, p')) : p'.maxPayloadSize = p.maxPayloadSize := by
  have hbuild := (packetize_cases hdata h).2.2
  exact (congrArg (·.2.maxPayloadSize) hbuild).symm.trans (PacketizerBase.buildPackets_maxPayloadSize _ _ _)

/-- With room behind the descriptor every run is accepted. -/
lemma accepts (hmax : 4 < p.maxPayloadSize) (frames : List (Bytes × ℕ)) :
    ∃ sent p', p.packetizeFrames frames = .ok (sent, p') := by
  refine exists_packetizeFrames (I := fun p => 4 < p.maxPayloadSize) hmax fun p frame hp => ?_
  by_cases hdata : frame.1 = []
  · exact ⟨[], p, if_pos hdata, hp⟩
  · have hroom : ¬p.maxPayloadSize - VP8_PAYLOAD_DESCRIPTOR_LENGTH = 0 := by
      rw [VP8_PAYLOAD_DESCRIPTOR_LENGTH]
      omega
    refine ⟨_, _, by rw [packetize, if_neg hdata, if_neg hroom], ?_⟩
    exact hp.trans_eq (PacketizerBase.buildPackets_maxPayloadSize _ _ _).symm

/-- **The picture ids of a run**. -/
lemma pictureId_packetizeFrames (hframes : ∀ frame ∈ frames, frame.1 ≠ [])
    (hthree : ∀ frame ∈ frames, 3 ≤ frame.1.length ∧ 7 ≤ p.maxPayloadSize)
    (h : p.packetizeFrames frames = .ok (sent, p')) : ∀ k packets, sent[k]? = some packets →
      ∀ packet ∈ packets,
        Vp8RtpPayload.pictureIdOf packet.payload = .ok (some ((p.pictureId + k) % 0x8000)) := by
  induction frames generalizing p sent with
  | nil =>
    cases h
    intro k packets hk
    cases hk
  | cons frame frames ih =>
    obtain ⟨⟨packets, q⟩, hfirst, h⟩ := Except.bind_eq_ok.mp h
    obtain ⟨⟨rest, q'⟩, hrest, h⟩ := Except.bind_eq_ok.mp h
    cases h
    obtain ⟨hframe, hframes⟩ := List.forall_mem_cons.mp hframes
    obtain ⟨hlength, hthree⟩ := List.forall_mem_cons.mp hthree
    have hlater := ih hframes (fun f hf => by rw [maxPayloadSize_packetize hframe hfirst]; exact hthree f hf) hrest
    rintro (_ | k) packets hk packet hpacket
    · cases hk
      rw [Nat.add_zero, Nat.mod_eq_of_lt p.pictureId_lt]
      exact pictureIdOf_packetize hframe hfirst hlength packet hpacket
    · have hid := hlater k packets hk packet hpacket
      rw [(packetize_cases hframe hfirst).2.1, Nat.mod_add_mod, Nat.add_right_comm] at hid
      exact hid

/-- **A run of the packetizer of VP8** is understood if each frame has three octets and they fit. -/
lemma framesSent_iff (hframes : ∀ frame ∈ frames, frame.1 ≠ [])
    (h : p.packetizeFrames frames = .ok (sent, p')) : Vp8FramesSent p (frames.map Prod.fst) sent ↔
      ∀ frame ∈ frames, 3 ≤ frame.1.length ∧ 7 ≤ p.maxPayloadSize := by
  have hrun : FramesSent Vp8RtpPayload.class Vp8RtpPayload.isHead p.maxPayloadSize (frames.map Prod.fst) sent ↔
      ∀ frame ∈ frames, 3 ≤ frame.1.length ∧ 7 ≤ p.maxPayloadSize := by
    refine framesSent_iff_forall Vp8Packetizer.toPacketizerBase rfl ?_ h
    intro q frame packets q' hmem hmax hpacketize
    have hframe := hframes frame hmem
    refine ⟨packets_ne_nil hframe hpacketize, ⟨_, _, (packetize_cases hframe hpacketize).2.2⟩, ?_⟩
    rw [← hmax]
    exact frameSent_iff hframe hpacketize
  constructor
  · exact fun hsent => hrun.mp hsent.toFramesSent
  · exact fun hthree => ⟨hrun.mpr hthree, pictureId_packetizeFrames hframes hthree h⟩

end Vp8Packetizer

/-- **Frames of VP8 and VP9** are sent unless a frame of VP8 has less than three octets, or there is no room
for three octets behind the descriptor of VP8. -/
theorem packetization_iff {vp8 vp8' : Vp8Packetizer} {frames : List (Bytes × ℕ)} {sent : List (List RtpPacket)}
    {vp9 vp9' : Vp9Packetizer} {frames' : List (Bytes × ℕ × Vp9PacketizeOptions)}
    {sent' : List (List RtpPacket)} (hframes : ∀ frame ∈ frames, frame.1 ≠ [])
    (h : vp8.packetizeFrames frames = .ok (sent, vp8')) (hframes' : ∀ frame ∈ frames', frame.1 ≠ [])
    (h' : vp9.packetizeFrames frames' = .ok (sent', vp9')) :
    (Vp8FramesSent vp8 (frames.map Prod.fst) sent ∧
      FramesSent Vp9RtpPayload.class Vp9RtpPayload.isHead vp9.maxPayloadSize (frames'.map Prod.fst) sent') ↔
    ∀ frame ∈ frames, 3 ≤ frame.1.length ∧ 7 ≤ vp8.maxPayloadSize :=
  (and_iff_left (Vp9Packetizer.framesSent hframes' h')).trans (Vp8Packetizer.framesSent_iff hframes h)

/-- A packetizer of VP8 with room for so many octets in a payload. -/
def vp8Packetizer (maxPayloadSize : ℕ) : Vp8Packetizer :=
  { sequenceNumber := 65535, maxPayloadSize, pictureId := 0x7fff, pictureId_lt := by decide }

/-- Two frames that are cut into two and three packets. -/
theorem packetization_twoFrames : ∃ sent vp8' sent' vp9',
    (vp8Packetizer 7).packetizeFrames [([1, 2, 3, 4], 0), ([1, 2, 3, 4, 5, 6, 7], 3000)] = .ok (sent, vp8') ∧
    Vp9Packetizer.packetizeFrames { sequenceNumber := 0, maxPayloadSize := 2 } [([1, 2], 0, {})] =
      .ok (sent', vp9') ∧
    Vp8FramesSent (vp8Packetizer 7) [[1, 2, 3, 4], [1, 2, 3, 4, 5, 6, 7]] sent ∧
    FramesSent Vp9RtpPayload.class Vp9RtpPayload.isHead 2 [[1, 2]] sent' := by
  obtain ⟨sent, vp8', h⟩ := Vp8Packetizer.accepts (p := vp8Packetizer 7) (by decide)
    [([1, 2, 3, 4], 0), ([1, 2, 3, 4, 5, 6, 7], 3000)]
  obtain ⟨sent', vp9', h'⟩ := Vp9Packetizer.accepts (p := { sequenceNumber := 0, maxPayloadSize := 2 })
    (by decide) [([1, 2], 0, {})]
  obtain ⟨hsent, hsent'⟩ := (packetization_iff (by decide) h (by decide) h').mpr (by decide)
  exact ⟨sent, vp8', sent', vp9', h, h', hsent, hsent'⟩

/-- A frame of one octet, and one of which the first packet has one octet, cannot be depacketized. -/
theorem truncated_oneOctet :
    (∃ packets vp8', (vp8Packetizer 1200).packetize [1] 0 = .ok (packets, vp8') ∧
      dePacketizeRtpPackets (.basic Vp8RtpPayload.class) packets none =
        .error "VP8 RTP payload truncated: need 7 bytes, got 5") ∧
    ∃ packets vp8', (vp8Packetizer 5).packetize [1, 2, 3] 0 = .ok (packets, vp8') ∧
      dePacketizeRtpPackets (.basic Vp8RtpPayload.class) packets none =
        .error "VP8 RTP payload truncated: need 7 bytes, got 5" := by
  refine ⟨⟨_, _, rfl, ?_⟩, ⟨_, _, rfl, ?_⟩⟩
  · rw [cutPayloads_of_ne_nil (by decide) (by decide)]
    rfl
  · rw [cutPayloads_of_ne_nil (by decide) (by decide)]
    rfl

end Werift.Codec
