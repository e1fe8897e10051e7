import Werift.Js.Buffer
import Werift.Lib.Framing
import Werift.Lib.MapM

/-!
# Frames of ICE over TCP (`ice/src/stun/tcpFrame.ts`, `ice/src/stun/tcpProtocol.ts`)

A frame is a length of two bytes and as many bytes of data.  A socket has an entry with the bytes that
have not made a frame yet; the data of a frame is handled if the address of the peer is known.
-/

namespace Werift.Ice.Tcp

open Framing

/-- A `Buffer`. -/
abbrev Bytes := List UInt8

/-- `Address`. -/
abbrev Address := String × ℕ

/-- `encodeTcpFrame(data)`, which throws if the length does not fit its field. -/
def encodeTcpFrame (data : Bytes) : Option Bytes := do
  let header ← Js.writeUInt16BE data.length
  return header ++ data

/-- `{ frames, rest }`. -/
structure TcpFrames where
  frames : List Bytes
  rest : Bytes

/-- The loop of `splitTcpFrames`.  Every turn takes at least two bytes, so that the length of the buffer
bounds the number of turns. -/
def splitFrames : ℕ → Bytes → TcpFrames
  | 0, buffer => ⟨[], buffer⟩
  | turns + 1, buffer =>
    if buffer.length < 2 then ⟨[], buffer⟩
    else
      let length := ((Js.readUInt16BE buffer 0).getD 0).toNat
      if buffer.length < length + 2 then ⟨[], buffer⟩
      else
        let later := splitFrames turns (buffer.drop (2 + length))
        ⟨Js.slice buffer 2 (2 + length) :: later.frames, later.rest⟩

/-- `splitTcpFrames(buffer)`. -/
def splitTcpFrames (buffer : Bytes) : TcpFrames := splitFrames buffer.length buffer

/-- The fields of a `SocketEntry` that the data of its socket uses. -/
structure SocketEntry where
  buffer : Bytes := []
  remoteAddr : Option Address

/-- The handler of `data` in `registerSocket`: the new entry and what is given to `handleFrame`.  The
socket says what the address of its peer is, if it knows it. -/
def onData (entry : SocketEntry) (addressFromSocket : Option Address) (data : Bytes) :
    SocketEntry × List (Bytes × Address) :=
  let split := splitTcpFrames (entry.buffer ++ data)
  let socketAddr := entry.remoteAddr.or addressFromSocket
  let entry : SocketEntry := { buffer := split.rest, remoteAddr := socketAddr }
  match socketAddr with
  | none => (entry, [])
  | some addr =>
    (entry, (split.frames.filter fun frame => frame.length ≠ 0).map fun frame => (frame, addr))

/-- What the handler of a socket does with one chunk after the other. -/
def onChunks (entry : SocketEntry) : List (Option Address × Bytes) →
    SocketEntry × List (Bytes × Address)
  | [] => (entry, [])
  | (addressFromSocket, data) :: chunks =>
    let (entry, handled) := onData entry addressFromSocket data
    let (entry, later) := onChunks entry chunks
    (entry, handled ++ later)

/-! ## The framer -/

/-- What stands at the front of a buffer, as the loop of `splitTcpFrames` sees it. -/
def tcpFront (buffer : Bytes) : Front :=
  if buffer.length < 2 then .incomplete
  else
    let length := ((Js.readUInt16BE buffer 0).getD 0).toNat
    if buffer.length < length + 2 then .incomplete else .frame (2 + length)

variable {buffer data : Bytes}

lemma tcpFront_eq_frame {length : ℕ} : tcpFront buffer = .frame length ↔
    2 ≤ buffer.length ∧ 2 + ((Js.readUInt16BE buffer 0).getD 0).toNat = length ∧
      length ≤ buffer.length := by
  unfold tcpFront
  by_cases hshort : buffer.length < 2
  · rw [if_pos hshort]
    exact ⟨nofun, fun h => absurd h.1 (by omega)⟩
  · rw [if_neg hshort]
    dsimp only
    by_cases hlong : buffer.length < ((Js.readUInt16BE buffer 0).getD 0).toNat + 2
    · rw [if_pos hlong]
      exact ⟨nofun, fun h => absurd h.2 (by omega)⟩
    · rw [if_neg hlong, Front.frame.injEq]
      exact ⟨fun h => ⟨by omega, h, by omega⟩, fun h => h.2.1⟩

lemma tcpFront_ne_malformed : tcpFront buffer ≠ .malformed := by
  unfold tcpFront
  dsimp only
  split_ifs <;> nofun

/-- The framer of a stream of ICE over TCP. -/
def tcpFramer : Framer UInt8 where
  front := tcpFront
  front_nil := rfl
  frame_bounds h := by
    obtain ⟨-, hlength, hle⟩ := tcpFront_eq_frame.mp h
    exact ⟨by omega, hle⟩
  frame_append {buffer length} more h := by
    obtain ⟨htwo, hlength, hle⟩ := tcpFront_eq_frame.mp h
    have hread : Js.readUInt16BE (buffer ++ more) 0 = Js.readUInt16BE buffer 0 :=
      Js.readUIntBE_append_left htwo more
    rw [tcpFront_eq_frame, hread, List.length_append]
    exact ⟨by omega, hlength, by omega⟩
  malformed_append _ h := absurd h tcpFront_ne_malformed

/-- **The loop of `splitTcpFrames`** takes frames off the front of the buffer until there is none. -/
lemma splits_splitFrames {turns : ℕ} (h : buffer.length ≤ turns) : ∃ frames,
    Splits tcpFramer buffer frames (splitFrames turns buffer).rest ∧
      (splitFrames turns buffer).frames = frames.map (List.drop 2) := by
  induction turns generalizing buffer with
  | zero =>
    obtain rfl := List.length_eq_zero_iff.mp (Nat.le_zero.mp h)
    exact ⟨[], Splits.done nofun, rfl⟩
  | succ turns ih =>
    rw [splitFrames]
    by_cases hshort : buffer.length < 2
    · have hfront : tcpFront buffer = .incomplete := if_pos hshort
      rw [if_pos hshort]
      exact ⟨[], Splits.done fun length hframe => absurd (hfront.symm.trans hframe) nofun, rfl⟩
    · have hfront : tcpFront buffer = _ := if_neg hshort
      rw [if_neg hshort]
      dsimp only at hfront ⊢
      by_cases hlong : buffer.length < ((Js.readUInt16BE buffer 0).getD 0).toNat + 2
      · rw [if_pos hlong] at hfront ⊢
        exact ⟨[], Splits.done fun length hframe => absurd (hfront.symm.trans hframe) nofun, rfl⟩
      · rw [if_neg hlong] at hfront ⊢
        obtain ⟨frames, hsplits, hframes⟩ := ih
          (by rw [List.length_drop]; omega :
            (buffer.drop (2 + ((Js.readUInt16BE buffer 0).getD 0).toNat)).length ≤ turns)
        refine ⟨_, Splits.frame hfront hsplits, ?_⟩
        rw [List.map_cons, hframes, Js.slice, List.drop_take]

lemma splits_splitTcpFrames (buffer : Bytes) : ∃ frames,
    Splits tcpFramer buffer frames (splitTcpFrames buffer).rest ∧
      (splitTcpFrames buffer).frames = frames.map (List.drop 2) :=
  splits_splitFrames le_rfl

/-- **What is encoded** is one frame with this data. -/
lemma whole_encodeTcpFrame {wire : Bytes} (h : encodeTcpFrame data = some wire) :
    tcpFramer.Whole wire ∧ wire.drop 2 = data := by
  unfold encodeTcpFrame at h
  obtain ⟨header, hheader, h⟩ := Option.bind_eq_some_iff.mp h
  obtain rfl := Option.some.inj h
  have htwo : header.length = 2 := Js.length_of_writeUIntBE hheader
  have hread : Js.readUInt16BE (header ++ data) 0 = some (data.length : ℤ) := by
    have := Js.readUIntBE_append hheader [] data
    simpa [Js.readUInt16BE] using this
  refine ⟨tcpFront_eq_frame.mpr ?_, by rw [← htwo, List.drop_left]⟩
  rw [hread, List.length_append, htwo]
  exact ⟨by omega, rfl, le_rfl⟩

/-- The loop ends by itself: with more turns it returns the same. -/
theorem splitFrames_of_length_le {turns : ℕ} (h : buffer.length ≤ turns) :
    splitFrames turns buffer = splitTcpFrames buffer := by
  obtain ⟨frames, hsplits, hframes⟩ := splits_splitFrames h
  obtain ⟨frames', hsplits', hframes'⟩ := splits_splitTcpFrames buffer
  obtain ⟨rfl, hrest⟩ := hsplits.unique hsplits'
  calc splitFrames turns buffer
      = ⟨(splitFrames turns buffer).frames, (splitFrames turns buffer).rest⟩ := rfl
    _ = splitTcpFrames buffer := by rw [hframes, hrest, ← hframes']

/-! ## Streams of frames -/

/-- Data is written to a stream as frames. -/
def Written (messages wires : List Bytes) : Prop :=
  List.Forall₂ (fun message wire => encodeTcpFrame message = some wire) messages wires

variable {messages wires : List Bytes} {before : Bytes} {entry : SocketEntry}

lemma Written.whole (h : Written messages wires) : ∀ w ∈ wires, tcpFramer.Whole w := by
  induction h with
  | nil => exact fun w hw => absurd hw List.not_mem_nil
  | cons hmessage hlater ih =>
    exact List.forall_mem_cons.mpr ⟨(whole_encodeTcpFrame hmessage).1, ih⟩

lemma Written.map_drop (h : Written messages wires) : wires.map (List.drop 2) = messages := by
  induction h with
  | nil => rfl
  | cons hmessage hlater ih => rw [List.map_cons, (whole_encodeTcpFrame hmessage).2, ih]

/-- **One chunk.** -/
lemma onData_stream (hwritten : Written messages wires) (hmessages : ∀ m ∈ messages, m ≠ [])
    (hentry : entry.buffer = tail wires before) {addressFromSocket : Option Address}
    (haddr : (entry.remoteAddr.or addressFromSocket).isSome)
    (hinitial : before ++ data <+: wires.flatten) :
    (onData entry addressFromSocket data).1.buffer = tail wires (before ++ data) ∧
      (onData entry addressFromSocket data).1.remoteAddr =
        entry.remoteAddr.or addressFromSocket ∧
      messages.take (completed wires before.length) ++
          (onData entry addressFromSocket data).2.map Prod.fst =
        messages.take (completed wires (before ++ data).length) := by
  obtain ⟨addr, haddr⟩ := Option.isSome_iff_exists.mp haddr
  obtain ⟨frames, hsplits, hframes⟩ := splits_splitTcpFrames (entry.buffer ++ data)
  rw [hentry] at hsplits
  obtain ⟨hcompleted, hrest⟩ := hsplits.next hwritten.whole hinitial
  have hcompleted : messages.take (completed wires before.length) ++
      (splitTcpFrames (entry.buffer ++ data)).frames =
        messages.take (completed wires (before ++ data).length) := by
    rw [hframes, ← hwritten.map_drop, ← List.map_take, ← List.map_append, hcompleted,
      List.map_take]
  have hnonempty : (splitTcpFrames (entry.buffer ++ data)).frames.filter
      (fun frame => frame.length ≠ 0) = (splitTcpFrames (entry.buffer ++ data)).frames := by
    refine List.filter_eq_self.mpr fun frame hframe => decide_eq_true ?_
    have hmem : frame ∈ messages.take (completed wires (before ++ data).length) :=
      hcompleted ▸ List.mem_append_right _ hframe
    exact fun h => hmessages frame (List.mem_of_mem_take hmem) (List.length_eq_zero_iff.mp h)
  have honData : onData entry addressFromSocket data =
      ({ buffer := (splitTcpFrames (entry.buffer ++ data)).rest, remoteAddr := some addr },
        (splitTcpFrames (entry.buffer ++ data)).frames.map fun frame => (frame, addr)) := by
    rw [onData, haddr]
    dsimp only
    rw [hnonempty]
  rw [honData, haddr, List.map_map]
  refine ⟨by rw [hentry]; exact hrest, rfl, ?_⟩
  rw [← hcompleted]
  congr 1
  exact List.map_id _

/-- **All chunks** of a stream. -/
theorem onChunks_stream (hwritten : Written messages wires) (hmessages : ∀ m ∈ messages, m ≠ [])
    (hentry : entry.buffer = tail wires before) {chunks : List (Option Address × Bytes)}
    (haddr : ∀ chunk ∈ chunks, (entry.remoteAddr.or chunk.1).isSome)
    (hinitial : before ++ (chunks.map Prod.snd).flatten <+: wires.flatten) :
    (onChunks entry chunks).1.buffer = tail wires (before ++ (chunks.map Prod.snd).flatten) ∧
      messages.take (completed wires before.length) ++ (onChunks entry chunks).2.map Prod.fst =
        messages.take (completed wires (before ++ (chunks.map Prod.snd).flatten).length) := by
  induction chunks generalizing entry before with
  | nil => exact ⟨by simpa [onChunks] using hentry, by simp [onChunks]⟩
  | cons chunk chunks ih =>
    obtain ⟨addressFromSocket, data⟩ := chunk
    rw [List.map_cons, List.flatten_cons, ← List.append_assoc] at hinitial ⊢
    obtain ⟨haddr, haddrs⟩ := List.forall_mem_cons.mp haddr
    obtain ⟨hbuffer, hremote, hhandled⟩ := onData_stream hwritten hmessages hentry haddr
      ((List.prefix_append _ _).trans hinitial)
    have hknown : ∀ later ∈ chunks,
        ((onData entry addressFromSocket data).1.remoteAddr.or later.1).isSome := by
      intro later hlater
      obtain ⟨addr, haddr⟩ := Option.isSome_iff_exists.mp haddr
      rw [hremote, haddr]
      rfl
    obtain ⟨hbuffers, hall⟩ := ih hbuffer hknown hinitial
    refine ⟨hbuffers, ?_⟩
    rw [← hall, ← hhandled, List.append_assoc, ← List.map_append]
    rfl

end Werift.Ice.Tcp
