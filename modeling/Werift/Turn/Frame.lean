import Werift.Lib.Framing
import Werift.Stun.Message

/-!
# Frames (`ice-server/src/turn/frame.ts`)

Over TCP the messages of a client arrive in one stream.  A frame is a STUN message or a message of
channel data; what does not make a whole frame yet is the rest.
-/

namespace Werift.Turn

open Stun (Bytes paddingLength)

/-- `ChannelDataMessage`. -/
structure ChannelDataMessage where
  channelNumber : ℕ
  data : Bytes

/-- `isChannelData(data)`. -/
def isChannelData (data : Bytes) : Bool := 4 ≤ data.length && (data.getD 0 0 &&& 0xc0) == 0x40

/-- `encodeChannelData(channelNumber, data)`. -/
def encodeChannelData (channelNumber : ℕ) (data : Bytes) : Option Bytes := do
  let number ← Js.writeUInt16BE channelNumber
  let length ← Js.writeUInt16BE data.length
  return number ++ length ++ data

/-- `decodeChannelData(data)`. -/
def decodeChannelData (data : Bytes) : Option ChannelDataMessage := do
  guard (isChannelData data)
  let channelNumber ← Js.readUInt16BE data 0
  let length ← Js.readUInt16BE data 2
  guard (4 + length.toNat ≤ data.length)
  return { channelNumber := channelNumber.toNat, data := Js.slice data 4 (4 + length.toNat) }

/-- `padTurnFrame(data)`. -/
def padTurnFrame (data : Bytes) : Bytes := data ++ List.replicate (paddingLength data.length) 0

/-- The length of the frame at the front of a buffer: `none` if it is malformed, and `some none` if
its length is not there yet. -/
def frameLength (buffer : Bytes) : Option (Option ℕ) :=
  if isChannelData buffer then
    let payloadLength := ((Js.readUInt16BE buffer 2).getD 0).toNat
    some (some (4 + payloadLength + paddingLength payloadLength))
  else if (buffer.getD 0 0 &&& 0xc0) == 0 then
    if buffer.length < 20 then some none
    else
      let stunBodyLength := ((Js.readUInt16BE buffer 2).getD 0).toNat
      some (some (20 + stunBodyLength + paddingLength stunBodyLength))
  else none

/-- `{ frames, malformed, rest }`. -/
structure TcpFrames where
  frames : List Bytes
  malformed : Bool
  rest : Bytes

/-- `splitTurnTcpFrames(buffer)`.  Every turn of the loop takes at least four bytes, so that the
length of the buffer bounds the number of turns. -/
def splitFrames : ℕ → Bytes → TcpFrames
  | 0, buffer => ⟨[], false, buffer⟩
  | turns + 1, buffer =>
    if buffer.length < 4 then ⟨[], false, buffer⟩
    else match frameLength buffer with
    | none => ⟨[], true, buffer⟩
    | some none => ⟨[], false, buffer⟩
    | some (some length) =>
      if buffer.length < length then ⟨[], false, buffer⟩
      else
        let later := splitFrames turns (buffer.drop length)
        ⟨buffer.take length :: later.frames, later.malformed, later.rest⟩

@[inherit_doc splitFrames]
def splitTurnTcpFrames (buffer : Bytes) : TcpFrames := splitFrames buffer.length buffer

/-- A frame has at least four bytes. -/
lemma four_le_frameLength {buffer : Bytes} {length : ℕ} (h : frameLength buffer = some (some length)) :
    4 ≤ length := by
  unfold frameLength at h
  split_ifs at h
  · obtain rfl := Option.some.inj (Option.some.inj h)
    omega
  · cases h
  · obtain rfl := Option.some.inj (Option.some.inj h)
    omega

/-- **Framing.**  The frames and the rest are the buffer. -/
theorem flatten_splitFrames {turns : ℕ} {buffer : Bytes} :
    (splitFrames turns buffer).frames.flatten ++ (splitFrames turns buffer).rest = buffer := by
  induction turns generalizing buffer with
  | zero => rfl
  | succ turns ih =>
    unfold splitFrames
    split_ifs with hshort
    · rfl
    · split
      · rfl
      · rfl
      · split_ifs with hlong
        · rfl
        · rw [List.flatten_cons, List.append_assoc, ih, List.take_append_drop]

/-- The loop ends by itself: with more turns it returns the same. -/
theorem splitFrames_of_length_le {turns turns' : ℕ} {buffer : Bytes} (h : buffer.length ≤ turns)
    (h' : buffer.length ≤ turns') : splitFrames turns buffer = splitFrames turns' buffer := by
  induction turns generalizing turns' buffer with
  | zero =>
    cases turns' with
    | zero => rfl
    | succ turns' => rw [splitFrames, splitFrames, if_pos (by omega)]
  | succ turns ih =>
    cases turns' with
    | zero => rw [splitFrames, splitFrames, if_pos (by omega)]
    | succ turns' =>
      rw [splitFrames, splitFrames]
      split_ifs with hshort
      · rfl
      · split
        · rfl
        · rfl
        · rename_i length hlength
          have h4 := four_le_frameLength hlength
          have hdrop : (buffer.drop length).length = buffer.length - length := List.length_drop
          split_ifs with hlong
          · rfl
          · have hrest : splitFrames turns (buffer.drop length) =
                splitFrames turns' (buffer.drop length) := ih (by omega) (by omega)
            rw [hrest]

/-! ## The framer of a TURN stream -/

open Framing

section

variable {buffer : Bytes}

lemma isChannelData_append (h : 4 ≤ buffer.length) (more : Bytes) :
    isChannelData (buffer ++ more) = isChannelData buffer := by
  have hlength : 4 ≤ (buffer ++ more).length := by
    rw [List.length_append]
    omega
  rw [isChannelData, isChannelData, List.getD_append _ _ _ _ (by omega), decide_eq_true h,
    decide_eq_true hlength]

/-- The length of a frame does not depend on what follows. -/
lemma frameLength_append (h : 4 ≤ buffer.length) (hlength : frameLength buffer ≠ some none)
    (more : Bytes) : frameLength (buffer ++ more) = frameLength buffer := by
  have hread : Js.readUInt16BE (buffer ++ more) 2 = Js.readUInt16BE buffer 2 :=
    Js.readUIntBE_append_left h more
  unfold frameLength at hlength ⊢
  rw [isChannelData_append h, hread, List.getD_append _ _ _ _ (by omega), List.length_append]
  by_cases hchannel : isChannelData buffer
  · rw [if_pos hchannel, if_pos hchannel]
  · rw [if_neg hchannel] at hlength ⊢
    rw [if_neg hchannel]
    by_cases hstun : (buffer.getD 0 0 &&& 0xc0) == 0
    · rw [if_pos hstun] at hlength ⊢
      have hheader : ¬ buffer.length < 20 := fun hshort => hlength (if_pos hshort)
      rw [if_pos hstun, if_neg hheader, if_neg (by omega)]
    · rw [if_neg hstun, if_neg hstun]

/-- What stands at the front of a buffer, as the loop of `splitTurnTcpFrames` sees it. -/
def turnFront (buffer : Bytes) : Front :=
  if buffer.length < 4 then .incomplete
  else match frameLength buffer with
  | none => .malformed
  | some none => .incomplete
  | some (some length) => if buffer.length < length then .incomplete else .frame length

lemma turnFront_eq_frame {length : ℕ} : turnFront buffer = .frame length ↔
    4 ≤ buffer.length ∧ frameLength buffer = some (some length) ∧ length ≤ buffer.length := by
  unfold turnFront
  by_cases hshort : buffer.length < 4
  · rw [if_pos hshort]
    exact ⟨nofun, fun h => absurd h.1 (by omega)⟩
  · rw [if_neg hshort]
    cases hlength : frameLength buffer with
    | none => exact ⟨nofun, nofun⟩
    | some bound =>
      cases bound with
      | none => exact ⟨nofun, nofun⟩
      | some bound =>
        dsimp only
        by_cases hlong : buffer.length < bound
        · rw [if_pos hlong]
          refine ⟨nofun, fun ⟨_, hbound, hle⟩ => ?_⟩
          obtain rfl := Option.some.inj (Option.some.inj hbound)
          omega
        · rw [if_neg hlong, Front.frame.injEq]
          refine ⟨fun heq => ⟨by omega, by rw [heq], by omega⟩, fun ⟨_, hbound, _⟩ => ?_⟩
          exact Option.some.inj (Option.some.inj hbound)

lemma turnFront_eq_malformed :
    turnFront buffer = .malformed ↔ 4 ≤ buffer.length ∧ frameLength buffer = none := by
  unfold turnFront
  by_cases hshort : buffer.length < 4
  · rw [if_pos hshort]
    exact ⟨nofun, fun h => absurd h.1 (by omega)⟩
  · rw [if_neg hshort]
    cases hlength : frameLength buffer with
    | none => exact ⟨fun _ => ⟨by omega, rfl⟩, fun _ => rfl⟩
    | some bound =>
      cases bound with
      | none => exact ⟨nofun, nofun⟩
      | some bound =>
        dsimp only
        split_ifs <;> exact ⟨nofun, nofun⟩

/-- The framer of a TURN stream. -/
def turnFramer : Framer UInt8 where
  front := turnFront
  front_nil := rfl
  frame_bounds h := by
    obtain ⟨-, hlength, hle⟩ := turnFront_eq_frame.mp h
    have hfour := four_le_frameLength hlength
    exact ⟨by omega, hle⟩
  frame_append more h := by
    obtain ⟨hfour, hlength, hle⟩ := turnFront_eq_frame.mp h
    have hsame := frameLength_append hfour (by rw [hlength]; nofun) more
    rw [turnFront_eq_frame, hsame, List.length_append]
    exact ⟨Nat.le_add_right_of_le hfour, hlength, Nat.le_add_right_of_le hle⟩
  malformed_append more h := by
    obtain ⟨hfour, hlength⟩ := turnFront_eq_malformed.mp h
    have hsame := frameLength_append hfour (by rw [hlength]; nofun) more
    rw [turnFront_eq_malformed, hsame, List.length_append]
    exact ⟨Nat.le_add_right_of_le hfour, hlength⟩

/-- **The loop of `splitTurnTcpFrames`** takes frames off the front of the buffer until there is none. -/
lemma splits_splitFrames {turns : ℕ} (h : buffer.length ≤ turns) :
    Splits turnFramer buffer (splitFrames turns buffer).frames (splitFrames turns buffer).rest ∧
      ((splitFrames turns buffer).malformed = true ↔
        turnFront (splitFrames turns buffer).rest = .malformed) := by
  induction turns generalizing buffer with
  | zero =>
    obtain rfl := List.length_eq_zero_iff.mp (Nat.le_zero.mp h)
    exact ⟨Splits.done nofun, nofun, nofun⟩
  | succ turns ih =>
    rw [splitFrames]
    by_cases hshort : buffer.length < 4
    · have hfront : turnFront buffer = .incomplete := if_pos hshort
      rw [if_pos hshort]
      exact ⟨Splits.done fun length hframe => absurd (hfront.symm.trans hframe) nofun,
        nofun, fun hmalformed => absurd (hfront.symm.trans hmalformed) nofun⟩
    · have hfront : turnFront buffer = _ := if_neg hshort
      rw [if_neg hshort]
      cases hlength : frameLength buffer with
      | none =>
        rw [hlength] at hfront
        exact ⟨Splits.done fun length hframe => absurd (hfront.symm.trans hframe) nofun,
          fun _ => hfront, fun _ => rfl⟩
      | some bound =>
        cases bound with
        | none =>
          rw [hlength] at hfront
          exact ⟨Splits.done fun length hframe => absurd (hfront.symm.trans hframe) nofun,
            nofun, fun hmalformed => absurd (hfront.symm.trans hmalformed) nofun⟩
        | some length =>
          rw [hlength] at hfront
          dsimp only at hfront ⊢
          have hfour := four_le_frameLength hlength
          by_cases hlong : buffer.length < length
          · rw [if_pos hlong] at hfront ⊢
            exact ⟨Splits.done fun length hframe => absurd (hfront.symm.trans hframe) nofun,
              nofun, fun hmalformed => absurd (hfront.symm.trans hmalformed) nofun⟩
          · rw [if_neg hlong] at hfront ⊢
            have hdrop : (buffer.drop length).length ≤ turns := by
              rw [List.length_drop]
              omega
            obtain ⟨hsplits, hmalformed⟩ := ih hdrop
            exact ⟨Splits.frame hfront hsplits, hmalformed⟩

lemma splits_splitTurnTcpFrames (buffer : Bytes) : Splits turnFramer buffer
    (splitTurnTcpFrames buffer).frames (splitTurnTcpFrames buffer).rest :=
  (splits_splitFrames le_rfl).1

/-- A stream is malformed if no frame stands at the front of the rest. -/
lemma malformed_splitTurnTcpFrames {buffer : Bytes} :
    (splitTurnTcpFrames buffer).malformed = true ↔
      turnFront (splitTurnTcpFrames buffer).rest = .malformed :=
  (splits_splitFrames le_rfl).2

end

/-! ## The messages of a stream -/

/-- A STUN message or a message of channel data, as it is written to a stream. -/
inductive StreamMessage
  | stun (data : Bytes) (h : Stun.isStunMessage data = true)
  | channelData (channelNumber : ℕ) (payload data : Bytes)
      (hnumber : 0x4000 ≤ channelNumber ∧ channelNumber ≤ 0x7fff)
      (h : encodeChannelData channelNumber payload = some data)

namespace StreamMessage

/-- The bytes of a message. -/
def data : StreamMessage → Bytes
  | stun data _ => data
  | channelData _ _ data _ _ => data

/-- The bytes that a message takes in the stream. -/
def wire (m : StreamMessage) : Bytes := padTurnFrame m.data

end StreamMessage

lemma isStunMessage_iff {data : Bytes} : Stun.isStunMessage data = true ↔
    20 ≤ data.length ∧ data.getD 0 0 &&& 0xc0 = 0 ∧
      Js.readUInt32BE data 4 = some (Stun.COOKIE : ℤ) ∧
      ∃ length, Js.readUInt16BE data 2 = some length ∧ length % 4 = 0 ∧
        (data.length : ℤ) = 20 + length := by
  simp only [Stun.isStunMessage, Option.any_eq_true, and_assoc, Bool.and_eq_true, beq_iff_eq]
  exact and_congr_left fun _ => ⟨of_decide_eq_true, decide_eq_true⟩

section

variable {data payload : Bytes} {channelNumber : ℕ}

/-- A STUN message is a frame as it is. -/
lemma frame_stun (h : Stun.isStunMessage data = true) :
    padTurnFrame data = data ∧ isChannelData data = false ∧ turnFramer.Whole data := by
  obtain ⟨hheader, hfirst, -, length, hread, hmod, hlength⟩ := isStunMessage_iff.mp h
  have hfour : data.length % 4 = 0 := by omega
  have hpad : paddingLength data.length = 0 := if_pos hfour
  have hchannel : isChannelData data = false := by
    rw [isChannelData, hfirst]
    exact Bool.and_false _
  have hbody : length.toNat % 4 = 0 := by omega
  have hbodypad : paddingLength length.toNat = 0 := if_pos hbody
  refine ⟨?_, hchannel, ?_⟩
  · rw [padTurnFrame, hpad]
    exact List.append_nil data
  · have hframe : frameLength data = some (some data.length) := by
      rw [frameLength, hchannel, hfirst, hread]
      rw [if_neg Bool.false_ne_true, if_pos (by decide), if_neg (by omega)]
      dsimp only [Option.getD_some]
      rw [hbodypad]
      congr 2
      omega
    exact turnFront_eq_frame.mpr ⟨by omega, hframe, le_rfl⟩

/-- Channel data is read as it was written, whatever stands behind it. -/
lemma decodeChannelData_append (hnumber : 0x4000 ≤ channelNumber ∧ channelNumber ≤ 0x7fff)
    (h : encodeChannelData channelNumber payload = some data) (pad : Bytes) :
    data.length = 4 + payload.length ∧ isChannelData (data ++ pad) = true ∧
      Js.readUInt16BE (data ++ pad) 2 = some (payload.length : ℤ) ∧
      decodeChannelData (data ++ pad) = some ⟨channelNumber, payload⟩ := by
  unfold encodeChannelData at h
  obtain ⟨number, hnumberField, h⟩ := Option.bind_eq_some_iff.mp h
  obtain ⟨length, hlengthField, h⟩ := Option.bind_eq_some_iff.mp h
  obtain rfl := Option.some.inj h
  have hnumberLength : number.length = 2 := Js.length_of_writeUIntBE hnumberField
  have hlengthLength : length.length = 2 := Js.length_of_writeUIntBE hlengthField
  have hall : (number ++ length ++ payload).length = 4 + payload.length := by
    simp only [List.length_append]
    omega
  have hchannel : isChannelData (number ++ length ++ payload ++ pad) = true := by
    have hbyte : ∀ n < 64, UInt8.ofNat ((64 + n) % 256) &&& 0xc0 = 0x40 := by decide +kernel
    have hfirst := hbyte (channelNumber / 256 - 64) (by omega)
    rw [Nat.add_sub_cancel' (by omega)] at hfirst
    obtain ⟨-, rfl⟩ := Js.writeUIntBE_eq_some.mp hnumberField
    rw [isChannelData, List.length_append, hall, Bool.and_eq_true, decide_eq_true_iff,
      beq_iff_eq]
    exact ⟨by omega, hfirst⟩
  have hreadNumber : Js.readUInt16BE (number ++ length ++ payload ++ pad) 0 =
      some (channelNumber : ℤ) := by
    have := Js.readUIntBE_append hnumberField [] (length ++ payload ++ pad)
    simpa [Js.readUInt16BE] using this
  have hreadLength : Js.readUInt16BE (number ++ length ++ payload ++ pad) 2 =
      some (payload.length : ℤ) := by
    have := Js.readUIntBE_append hlengthField number (payload ++ pad)
    simpa [Js.readUInt16BE, hnumberLength] using this
  refine ⟨hall, hchannel, hreadLength, ?_⟩
  have hslice : Js.slice (number ++ length ++ payload ++ pad) 4 (4 + payload.length) = payload := by
    have hheader : (number ++ length).length = 4 := by
      rw [List.length_append, hnumberLength, hlengthLength]
    rw [Js.slice, List.append_assoc (number ++ length), ← hheader, List.drop_left,
      Nat.add_sub_cancel_left, List.take_left]
  have hfits : 4 + payload.length ≤ (number ++ length ++ payload ++ pad).length := by
    rw [List.length_append, hall]
    exact Nat.le_add_right _ _
  simp only [decodeChannelData, hchannel, hreadNumber, hreadLength, Option.bind_eq_bind,
    Option.bind_some, Int.toNat_natCast, guard, if_pos hfits, if_true, Option.pure_def, hslice]

/-- Channel data is a frame when it is padded. -/
lemma frame_channelData (hnumber : 0x4000 ≤ channelNumber ∧ channelNumber ≤ 0x7fff)
    (h : encodeChannelData channelNumber payload = some data) :
    turnFramer.Whole (padTurnFrame data) := by
  obtain ⟨hlength, hchannel, hread, -⟩ :=
    decodeChannelData_append hnumber h (List.replicate (paddingLength data.length) 0)
  have hpad : paddingLength data.length = paddingLength payload.length := by
    have hmod : (4 + payload.length) % 4 = payload.length % 4 := Nat.add_mod_left 4 _
    rw [hlength, paddingLength, paddingLength, hmod]
  have hall : (padTurnFrame data).length = 4 + payload.length + paddingLength payload.length := by
    rw [padTurnFrame, List.length_append, List.length_replicate, hlength, ← hlength, hpad, hlength]
  have hframe : frameLength (padTurnFrame data) = some (some (padTurnFrame data).length) := by
    rw [hall, frameLength, padTurnFrame, if_pos hchannel, hread]
    rfl
  exact turnFront_eq_frame.mpr ⟨by omega, hframe, le_rfl⟩

end

namespace StreamMessage

/-- **A message makes one frame.** -/
lemma whole_wire (m : StreamMessage) : turnFramer.Whole m.wire := by
  cases m with
  | stun data h =>
    obtain ⟨hpad, -, hwhole⟩ := frame_stun h
    have hwire : wire (.stun data h) = data := hpad
    rwa [hwire]
  | channelData channelNumber payload data hnumber h => exact frame_channelData hnumber h

/-- A receiver that gets the frame of a message gets the message. -/
lemma received_wire (m : StreamMessage) : (m.wire = m.data ∧ isChannelData m.data = false) ∨
    (isChannelData m.wire = true ∧ isChannelData m.data = true ∧
      (decodeChannelData m.wire).isSome ∧ decodeChannelData m.wire = decodeChannelData m.data) := by
  cases m with
  | stun data h =>
    obtain ⟨hpad, hchannel, -⟩ := frame_stun h
    exact Or.inl ⟨hpad, hchannel⟩
  | channelData channelNumber payload data hnumber h =>
    obtain ⟨-, hchannel, -, hdecode⟩ := decodeChannelData_append hnumber h []
    obtain ⟨-, hchannelWire, -, hdecodeWire⟩ :=
      decodeChannelData_append hnumber h (List.replicate (paddingLength data.length) 0)
    rw [List.append_nil] at hchannel hdecode
    refine Or.inr ⟨hchannelWire, hchannel, ?_, hdecodeWire.trans hdecode.symm⟩
    exact Option.isSome_iff_exists.mpr ⟨_, hdecodeWire⟩

lemma data_ne_nil (m : StreamMessage) : m.data ≠ [] := by
  intro hnil
  cases m with
  | stun data h =>
    have hlength := (isStunMessage_iff.mp h).1
    rw [show data = [] from hnil] at hlength
    exact absurd hlength (by decide)
  | channelData channelNumber payload data hnumber h =>
    have hlength := (decodeChannelData_append hnumber h []).1
    rw [show data = [] from hnil, List.length_nil] at hlength
    omega

/-- What a stream of messages carries. -/
def stream (messages : List StreamMessage) : Bytes := (messages.map wire).flatten

/-- The messages that have arrived whole when some bytes of their stream have been received. -/
def arrived (messages : List StreamMessage) (received : Bytes) : List StreamMessage :=
  messages.take (completed (messages.map wire) received.length)

/-- The received bytes that do not make a message yet. -/
def unfinished (messages : List StreamMessage) (received : Bytes) : Bytes :=
  tail (messages.map wire) received

variable {messages : List StreamMessage} {before more : Bytes}

lemma whole_of_mem_map : ∀ w ∈ messages.map wire, turnFramer.Whole w := by
  intro w hw
  obtain ⟨m, -, rfl⟩ := List.mem_map.mp hw
  exact m.whole_wire

/-- What is left is less than the next message. -/
lemma unfinished_incomplete (h : before <+: stream messages) :
    Incomplete (messages.map wire) before :=
  (splits_of_prefix_flatten whole_of_mem_map h).2.2

/-- Nothing has arrived when nothing has been received. -/
lemma arrived_nil (messages : List StreamMessage) : arrived messages [] = [] := by
  rw [arrived, List.length_nil, completed_nil whole_of_mem_map, List.take_zero]

/-- When the stream is at its end, all messages have arrived. -/
lemma arrived_stream (messages : List StreamMessage) :
    arrived messages (stream messages) = messages ∧ unfinished messages (stream messages) = [] := by
  obtain ⟨hcompleted, htail⟩ := completed_flatten (messages.map wire)
  refine ⟨?_, htail⟩
  rw [arrived, stream, hcompleted, List.length_map, List.take_length]

/-- **The next chunk of a stream of messages** makes the frames of the messages that it completes. -/
theorem splitTurnTcpFrames_next (h : before ++ more <+: stream messages) : ∃ delivered,
    arrived messages before ++ delivered = arrived messages (before ++ more) ∧
      splitTurnTcpFrames (unfinished messages before ++ more) =
        ⟨delivered.map wire, false, unfinished messages (before ++ more)⟩ := by
  obtain ⟨hframes, hrest⟩ :=
    (splits_splitTurnTcpFrames (unfinished messages before ++ more)).next whole_of_mem_map h
  have hfront := (splits_of_prefix_flatten whole_of_mem_map h).2.1
  have hmalformed : (splitTurnTcpFrames (unfinished messages before ++ more)).malformed = false := by
    rw [Bool.eq_false_iff, Ne, malformed_splitTurnTcpFrames, hrest]
    exact fun hmalformed => absurd (hfront.symm.trans hmalformed) nofun
  rw [← List.map_take, ← List.map_take] at hframes
  obtain ⟨first, delivered, harrived, hfirst, hdelivered⟩ :=
    List.map_eq_append_iff.mp hframes.symm
  -- both are prefixes of the messages, and they are equally long
  have hinitial : first = arrived messages before := by
    have hlength := congrArg List.length hfirst
    rw [List.length_map, List.length_map] at hlength
    have hfirstMessages : first <+: messages :=
      (harrived ▸ List.prefix_append first delivered).trans (List.take_prefix _ _)
    exact (List.prefix_of_prefix_length_le hfirstMessages (List.take_prefix _ _)
      hlength.le).eq_of_length hlength
  have hrest : (splitTurnTcpFrames (unfinished messages before ++ more)).rest =
      unfinished messages (before ++ more) := hrest
  refine ⟨delivered, hinitial ▸ harrived.symm, ?_⟩
  rw [hdelivered, ← hrest, ← hmalformed]

end StreamMessage

end Werift.Turn
