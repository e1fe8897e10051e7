import Werift.Sctp.Message
import Werift.Sctp.Receiver
import Werift.Sctp.WireRoundTrip

/-!
# A message is cut into packets and put together again

`send` cuts a message into DATA chunks, each of which goes into a packet of at most the MTU, and a receiver
to which the chunks come in order hands the message over.  Both fail at the ends: an empty message has no
chunks at all, and with a very large MTU the length of a chunk does not fit into its field of 16 bits
(`message_survives_iff`).
-/

namespace Werift.Sctp

open Js SackChunk

/-- `validateSctpMtu(mtu)` does not throw. -/
def validateSctpMtu (mtu : ℕ) : Bool :=
  decide (mtu ≤ 9007199254740991 ∧ 0 < mtu) && maxPayloadSizeForMtu mtu != 0

namespace Receiver

/-- The DATA chunks are received one after the other. -/
def receiveDataChunks (r : Receipt) (chunks : List DataChunk) : Receipt :=
  chunks.foldl (fun r chunk =>
    let next := r.receiver.receiveDataChunk chunk
    { next with messages := r.messages ++ next.messages, thrown := r.thrown || next.thrown }) r

end Receiver

/-- None of the TSNs is a duplicate for the receiver when they come in this order. -/
def Fresh (s : ReceivedTsns) : List ℤ → Prop
  | [] => True
  | tsn :: tsns => (markReceived s tsn).1 = false ∧ Fresh (markReceived s tsn).2 tsns

/-- The data of the chunks of a message. -/
def messageData (message : List DataChunk) : Bytes := message.flatMap DataChunk.userData

/-! ## Pieces -/

/-- Pieces of one size are the front of a list. -/
lemma flatMap_pieces {α : Type*} (l : List α) (size n : ℕ) :
    ((List.range n).flatMap fun i => (l.drop (i * size)).take size) = l.take (n * size) := by
  induction n with
  | zero => simp
  | succ n ih =>
    rw [List.range_succ, List.flatMap_append, ih, List.flatMap_singleton, Nat.succ_mul, List.take_add]

namespace SendArgs

variable {a : SendArgs} {mps i : ℕ} {tsn seq : ℤ} {c : DataChunk}

lemma userData_le_fragments (hmps : 0 < mps) : a.userData.length ≤ a.fragments mps * mps := by
  have hdiv := Nat.div_add_mod (a.userData.length + mps - 1) mps
  have hmod := Nat.mod_lt (a.userData.length + mps - 1) hmps
  rw [fragments, Nat.mul_comm]
  omega

lemma fragments_pos_iff (hmps : 0 < mps) : 0 < a.fragments mps ↔ 0 < a.userData.length := by
  rw [fragments, Nat.div_pos_iff]
  omega

lemma getElem?_chunks (hi : i < a.fragments mps) :
    (a.chunks mps tsn seq)[i]? = some (a.fragmentChunk mps tsn seq i) := by
  rw [chunks, List.getElem?_map, List.getElem?_range hi]
  rfl

lemma eq_fragmentChunk (h : (a.chunks mps tsn seq)[i]? = some c) :
    i < a.fragments mps ∧ c = a.fragmentChunk mps tsn seq i := by
  have hi : i < a.fragments mps := by
    rw [← length_chunks a mps tsn seq]
    exact (List.getElem?_eq_some_iff.mp h).1
  exact ⟨hi, Option.some.inj (h.symm.trans (getElem?_chunks hi))⟩

/-- **The pieces of a message** are the message. -/
lemma messageData_chunks (hmps : 0 < mps) :
    messageData ((a.chunks mps tsn seq).map DataChunk.onWire) = a.userData := by
  rw [messageData, chunks, List.map_map, List.flatMap_map]
  exact (flatMap_pieces a.userData mps (a.fragments mps)).trans
    (List.take_of_length_le (userData_le_fragments hmps))

lemma tsn_fragmentChunk (htsn : 0 ≤ tsn ∧ tsn < 0x100000000) :
    (a.fragmentChunk mps tsn seq i).tsn = (tsn + i) % 0x100000000 := by
  have hcount := iterate_tsnPlusOne (L := tsn) (by omega) i
  rw [tsnOf_of_lt (by omega) htsn.2] at hcount
  rw [fragmentChunk]
  dsimp only
  rw [hcount, tsnOf, SerialNumber.wire_of_nonneg (by omega)]
  rfl

lemma length_fragmentChunk_le : (a.fragmentChunk mps tsn seq i).userData.length ≤ mps :=
  List.length_take_le _ _

end SendArgs

/-! ## Packets -/

lemma DataChunk.length_bytes {c : DataChunk} {out : Bytes} (h : c.bytes = some out) :
    out.length = 16 + c.userData.length + padL c.userData.length := by
  obtain ⟨body, hframe, hmade⟩ := data_ofBody h
  obtain ⟨-, -, hlength⟩ := read_frame hframe [] []
  have hbody : body.length = 12 + c.userData.length := by
    simp only [DataChunk.ofBody, Option.bind_eq_bind, Option.bind_eq_some_iff, Option.pure_def,
      Option.some.injEq] at hmade
    obtain ⟨_, _, _, _, _, _, _, hread, heq⟩ := hmade
    have hin := readUIntBE_isSome_iff.mp (Option.isSome_of_eq_some hread)
    have hdata := congrArg (fun c => c.userData.length) heq
    dsimp only at hdata
    rw [List.length_drop, DataChunk.onWire_userData] at hdata
    omega
  have hpad : padL (body.length + 4) = padL c.userData.length := by
    rw [padL, padL, SCTP_PADDING_MULTIPLE, hbody]
    split_ifs <;> omega
  rw [hlength, hpad, hbody]
  omega

lemma serializePacket_eq_some {sourcePort destinationPort tag : ℤ} {chunk : Chunk} {packet : Bytes} :
    serializePacket sourcePort destinationPort tag chunk = some packet ↔
      ∃ body, chunk.bytes = some body ∧ packetBytes sourcePort destinationPort tag body = some packet := by
  rw [serializePacket, Option.bind_eq_bind, Option.bind_eq_some_iff]

/-- A packet of one DATA chunk, its padding included. -/
lemma exists_serializePacket {sourcePort destinationPort tag : ℤ} {c : DataChunk}
    (hs : 0 ≤ sourcePort ∧ sourcePort < 0x10000) (hd : 0 ≤ destinationPort ∧ destinationPort < 0x10000)
    (ht : 0 ≤ tag ∧ tag < 0x100000000) (h : (Chunk.data c).InRange) :
    ∃ packet, serializePacket sourcePort destinationPort tag (.data c) = some packet ∧
      packet.length = 28 + c.userData.length + padL c.userData.length := by
  obtain ⟨body, hbody⟩ := exists_bytes h
  obtain ⟨packet, hpacket⟩ := exists_packetBytes hs hd ht body
  refine ⟨packet, serializePacket_eq_some.mpr ⟨body, hbody, hpacket⟩, ?_⟩
  obtain ⟨header, hheader, rfl, -⟩ := packetBytes_eq_some hpacket
  rw [List.length_append, hheader, DataChunk.length_bytes hbody, SCTP_COMMON_HEADER_SIZE]
  omega

/-- The length of a DATA chunk has 16 bits. -/
lemma serializePacket_of_long {sourcePort destinationPort tag : ℤ} {c : DataChunk}
    (h : 65519 < c.userData.length) :
    serializePacket sourcePort destinationPort tag (.data c) = none := by
  have hnone : c.bytes = none := by
    have hsize : writeUInt16BE ((SCTP_DATA_CHUNK_HEADER_SIZE + c.userData.length : ℕ) : ℤ) = none := by
      rw [← Option.not_isSome_iff_eq_none, writeUInt16BE, isSome_writeUIntBE, SCTP_DATA_CHUNK_HEADER_SIZE]
      omega
    rw [DataChunk.bytes, hsize]
    cases writeUInt8 0 <;> cases writeUInt8 (c.flags : ℤ) <;> rfl
  rw [serializePacket, Chunk.bytes, hnone]
  rfl

lemma mod_maxPayloadSizeForMtu (mtu : ℕ) : maxPayloadSizeForMtu mtu % SCTP_PADDING_MULTIPLE = 0 := by
  rw [maxPayloadSizeForMtu, SCTP_PADDING_MULTIPLE]
  omega

lemma maxPayloadSizeForMtu_pos {mtu : ℕ} (h : validateSctpMtu mtu = true) :
    0 < maxPayloadSizeForMtu mtu := by
  rw [validateSctpMtu, Bool.and_eq_true, bne_iff_ne] at h
  exact Nat.pos_of_ne_zero h.2

/-- Data that fits into the payload fits into the MTU with its padding. -/
lemma padded_le_mtu {mtu length : ℕ} (h : validateSctpMtu mtu = true)
    (hlength : length ≤ maxPayloadSizeForMtu mtu) : 28 + length + padL length ≤ mtu := by
  have hpos := maxPayloadSizeForMtu_pos h
  have hmod := mod_maxPayloadSizeForMtu mtu
  have hle : maxPayloadSizeForMtu mtu ≤ mtu - 28 := by
    rw [maxPayloadSizeForMtu, SCTP_COMMON_HEADER_SIZE, SCTP_DATA_CHUNK_HEADER_SIZE]
    exact Nat.sub_le _ _
  rw [SCTP_PADDING_MULTIPLE] at hmod
  rw [padL, SCTP_PADDING_MULTIPLE]
  split_ifs <;> omega

/-! ## Reassembly -/

/-- Chunks with the next TSNs go on with the message that is being scanned. -/
lemma popLoop_continue {before message l : List DataChunk} {scan : Scan} {ssn : ℤ}
    (htsn : ∀ i c, l[i]? = some c → c.tsn = tsnPlusOne^[i] scan.expectedTsn)
    (hlast : ∀ c ∈ l, c.lastFrag = false) (rest : List DataChunk) :
    popLoop before message (some scan) ssn (l ++ rest) =
      popLoop before (message ++ l)
        (some { scan with expectedTsn := tsnPlusOne^[l.length] scan.expectedTsn }) ssn rest := by
  induction l generalizing message scan with
  | nil => simp
  | cons c l ih =>
    have hfirst : c.tsn = scan.expectedTsn := htsn 0 c rfl
    have hverdict : verdict (some scan) ssn c = .take scan := by
      rw [verdict, if_neg (not_not.mpr hfirst)]
    have hrest := @ih (message ++ [c]) { scan with expectedTsn := tsnPlusOne scan.expectedTsn }
      (fun i d hd => htsn (i + 1) d hd) (fun d hd => hlast d (List.mem_cons_of_mem _ hd))
    rw [List.cons_append, popLoop, hverdict]
    dsimp only
    rw [hlast c List.mem_cons_self, if_neg Bool.false_ne_true, hrest]
    simp [Function.iterate_succ_apply]

/-- The chunks of a message, as the receiver parses them, up to the fragment `n`. -/
def SendArgs.wireChunks (a : SendArgs) (mps : ℕ) (tsn seq : ℤ) (n : ℕ) : List DataChunk :=
  (List.range n).map fun i => (a.fragmentChunk mps tsn seq i).onWire

section Reassembly

variable {a : SendArgs} {mps : ℕ} {tsn seq ssn : ℤ}

lemma wireChunks_succ (n : ℕ) : a.wireChunks mps tsn seq (n + 1) =
    a.wireChunks mps tsn seq n ++ [(a.fragmentChunk mps tsn seq n).onWire] := by
  rw [SendArgs.wireChunks, List.range_succ, List.map_append]
  rfl

/-- The chunks behind the first one. -/
lemma wireChunks_succ_cons (n : ℕ) : a.wireChunks mps tsn seq (n + 1) =
    (a.fragmentChunk mps tsn seq 0).onWire ::
      (List.range n).map fun i => (a.fragmentChunk mps tsn seq (i + 1)).onWire := by
  rw [SendArgs.wireChunks, List.range_succ_eq_map, List.map_cons, List.map_map]
  rfl

/-- The first chunk of a message begins a message. -/
lemma verdict_first (hssn : a.ordered = true → ssn = seq) :
    verdict none ssn (a.fragmentChunk mps tsn seq 0).onWire = .take ⟨tsn, a.ordered⟩ := by
  have hseq : a.ordered = true → (a.fragmentChunk mps tsn seq 0).onWire.streamSeqNum = ssn := by
    intro h
    rw [hssn h]
    exact if_pos h
  rw [verdict, unordered_fragmentChunk, Bool.not_not, firstFrag_fragmentChunk]
  cases hordered : a.ordered with
  | false => simp [SendArgs.fragmentChunk]
  | true =>
    rw [hseq hordered]
    simp [SendArgs.fragmentChunk, uint16Gt, uintGt]

/-- The chunks behind the first one have the TSNs that the scan expects, and all but the last one do not
end the message. -/
lemma popLoop_front {n : ℕ} (hopen : n + 1 < a.fragments mps) (hssn : a.ordered = true → ssn = seq)
    (rest : List DataChunk) :
    popLoop [] [] none ssn (a.wireChunks mps tsn seq (n + 1) ++ rest) =
      popLoop [] (a.wireChunks mps tsn seq (n + 1))
        (some ⟨tsnPlusOne^[n + 1] tsn, a.ordered⟩) ssn rest := by
  have hfirst : (a.fragmentChunk mps tsn seq 0).onWire.lastFrag = false := by
    rw [lastFrag_fragmentChunk, decide_eq_false_iff_not]
    omega
  have htsns (i : ℕ) (c : DataChunk)
      (hc : ((List.range n).map fun i => (a.fragmentChunk mps tsn seq (i + 1)).onWire)[i]? = some c) :
      c.tsn = tsnPlusOne^[i] (Scan.mk (tsnPlusOne tsn) a.ordered).expectedTsn := by
    obtain ⟨hi, rfl⟩ := List.getElem?_eq_some_iff.mp hc
    simp [SendArgs.fragmentChunk, Function.iterate_succ_apply]
  have hopens (c : DataChunk)
      (hc : c ∈ (List.range n).map fun i => (a.fragmentChunk mps tsn seq (i + 1)).onWire) :
      c.lastFrag = false := by
    obtain ⟨i, hi, rfl⟩ := List.mem_map.mp hc
    have hlt := List.mem_range.mp hi
    rw [lastFrag_fragmentChunk, decide_eq_false_iff_not]
    omega
  have hcontinue := @popLoop_continue [] [(a.fragmentChunk mps tsn seq 0).onWire] _ _ ssn htsns hopens rest
  rw [wireChunks_succ_cons, List.cons_append, popLoop, verdict_first hssn]
  dsimp only
  rw [hfirst, if_neg Bool.false_ne_true, List.nil_append, hcontinue, List.length_map, List.length_range]
  rfl

/-- **The scan of the front of a message**: nothing is taken before the last chunk is there, and then the
message. -/
lemma popLoop_wireChunks {n : ℕ} (hn : n < a.fragments mps) (hssn : a.ordered = true → ssn = seq) :
    popLoop [] [] none ssn (a.wireChunks mps tsn seq (n + 1)) =
      if n + 1 = a.fragments mps then
        ([a.wireChunks mps tsn seq (n + 1)], ⟨[], if a.ordered then uint16Add ssn 1 else ssn⟩)
      else ([], ⟨a.wireChunks mps tsn seq (n + 1), ssn⟩) := by
  have hnext (c : DataChunk) (hc : c.streamSeqNum = a.streamSeqNum seq) (expected : ℤ) :
      nextStreamSequenceNumber ⟨expected, a.ordered⟩ ssn c =
        if a.ordered then uint16Add ssn 1 else ssn := by
    rw [nextStreamSequenceNumber, hc, SendArgs.streamSeqNum]
    cases hordered : a.ordered with
    | false => rfl
    | true => simp [hssn hordered]
  by_cases hlast : n + 1 = a.fragments mps
  · rw [if_pos hlast]
    cases n with
    | zero =>
      have hend : (a.fragmentChunk mps tsn seq 0).onWire.lastFrag = true := by
        rw [lastFrag_fragmentChunk, decide_eq_true_iff]
        exact hlast
      rw [wireChunks_succ_cons, List.range_zero, List.map_nil, popLoop, verdict_first hssn]
      dsimp only
      rw [if_pos hend, hnext _ rfl]
      rfl
    | succ k =>
      have hend : (a.fragmentChunk mps tsn seq (k + 1)).onWire.lastFrag = true := by
        rw [lastFrag_fragmentChunk, decide_eq_true_iff]
        exact hlast
      have hexpected : (a.fragmentChunk mps tsn seq (k + 1)).onWire.tsn = tsnPlusOne^[k + 1] tsn := rfl
      rw [wireChunks_succ, popLoop_front (by omega) hssn, popLoop, verdict,
        if_neg (not_not.mpr hexpected)]
      dsimp only
      rw [if_pos hend, hnext _ rfl]
      rfl
  · have hopen := @popLoop_front a mps tsn seq ssn n (by omega) hssn []
    rw [List.append_nil] at hopen
    rw [if_neg hlast, hopen]
    rfl

/-! ## Receiving the chunks -/

lemma received_receiveDataChunk (r : Receiver) (c : DataChunk) :
    (r.receiveDataChunk c).receiver.received = (markReceived r.received c.tsn).2 := by
  rw [Receiver.receiveDataChunk]
  split_ifs with hdup
  · rfl
  · dsimp only
    cases (((r.recordNewChunk c).getInboundStream c.streamId).addChunk c) <;> rfl

lemma receiveDataChunks_concat (r : Receipt) (l : List DataChunk) (c : DataChunk) :
    Receiver.receiveDataChunks r (l ++ [c]) =
      let before := Receiver.receiveDataChunks r l
      let next := before.receiver.receiveDataChunk c
      { next with messages := before.messages ++ next.messages, thrown := before.thrown || next.thrown } := by
  rw [Receiver.receiveDataChunks, List.foldl_concat]
  rfl

/-- The record after the TSNs. -/
lemma received_receiveDataChunks (r : Receipt) (l : List DataChunk) :
    (Receiver.receiveDataChunks r l).receiver.received =
      (l.map DataChunk.tsn).foldl (fun s tsn => (markReceived s tsn).2) r.receiver.received := by
  induction l using List.reverseRecOn with
  | nil => rfl
  | append_singleton l c ih =>
    rw [receiveDataChunks_concat, List.map_append, List.foldl_append, ← ih]
    exact received_receiveDataChunk _ c

lemma fresh_concat {s : ReceivedTsns} {tsns : List ℤ} {t : ℤ} : Fresh s (tsns ++ [t]) ↔
    Fresh s tsns ∧ (markReceived (tsns.foldl (fun s tsn => (markReceived s tsn).2) s) t).1 = false := by
  induction tsns generalizing s with
  | nil => simp [Fresh]
  | cons tsn tsns ih =>
    rw [List.cons_append, Fresh, Fresh, ih, List.foldl_cons, and_assoc]

/-- The next chunk is put behind the ones in front of it. -/
lemma addChunk_wireChunks {n : ℕ} (htsn : 0 ≤ tsn ∧ tsn < 0x100000000) :
    (InboundStream.mk (a.wireChunks mps tsn seq n) ssn).addChunk (a.fragmentChunk mps tsn seq n).onWire =
      some ⟨a.wireChunks mps tsn seq (n + 1), ssn⟩ := by
  cases n with
  | zero => rfl
  | succ k =>
    have hahead : uint32Gt (a.fragmentChunk mps tsn seq (k + 1)).onWire.tsn
        (a.fragmentChunk mps tsn seq k).onWire.tsn = true := by
      rw [DataChunk.onWire_tsn, DataChunk.onWire_tsn, SendArgs.tsn_fragmentChunk htsn,
        SendArgs.tsn_fragmentChunk htsn, uint32Gt_iff_emod (by omega) (by omega)]
      omega
    rw [InboundStream.addChunk]
    dsimp only
    rw [wireChunks_succ k, List.getLast?_concat]
    dsimp only
    rw [if_pos hahead, wireChunks_succ, wireChunks_succ]

/-- A new chunk of a stream that takes it. -/
lemma receiveDataChunk_of_new {r : Receiver} {c : DataChunk} {stream : InboundStream}
    (hnew : (markReceived r.received c.tsn).1 = false)
    (hadd : (r.getInboundStream c.streamId).addChunk c = some stream) :
    (r.receiveDataChunk c).messages = stream.popMessages.1 ∧ (r.receiveDataChunk c).thrown = false ∧
      (r.receiveDataChunk c).receiver.getInboundStream c.streamId = stream.popMessages.2 := by
  have hstream : ((r.recordNewChunk c).getInboundStream c.streamId).addChunk c = some stream := hadd
  rw [Receiver.receiveDataChunk, if_neg (by rw [hnew]; exact Bool.false_ne_true)]
  dsimp only
  rw [hstream]
  refine ⟨rfl, rfl, ?_⟩
  simp [Receiver.deliver, Receiver.getInboundStream, Receiver.setInboundStream]

/-- **A message is received.**  While its chunks come in order the stream keeps them, and with the last one
the message is handed over. -/
theorem receiveDataChunks_wireChunks {r : Receiver} (htsn : 0 ≤ tsn ∧ tsn < 0x100000000)
    (hexpects : r.getInboundStream a.streamId = ⟨[], ssn⟩) (hssn : a.ordered = true → ssn = seq) {n : ℕ}
    (hn : n ≤ a.fragments mps)
    (hfresh : Fresh r.received ((a.wireChunks mps tsn seq n).map DataChunk.tsn)) :
    let x := Receiver.receiveDataChunks { receiver := r } (a.wireChunks mps tsn seq n)
    x.thrown = false ∧
      (n < a.fragments mps ∨ n = 0 → x.messages = [] ∧
        x.receiver.getInboundStream a.streamId = ⟨a.wireChunks mps tsn seq n, ssn⟩) ∧
      (n = a.fragments mps → 0 < n → x.messages = [a.wireChunks mps tsn seq n] ∧
        x.receiver.getInboundStream a.streamId = ⟨[], if a.ordered then uint16Add ssn 1 else ssn⟩) := by
  induction n with
  | zero => exact ⟨rfl, fun _ => ⟨rfl, hexpects⟩, fun _ h => absurd h (lt_irrefl 0)⟩
  | succ n ih =>
    rw [wireChunks_succ, List.map_append, List.map_singleton, fresh_concat] at hfresh
    obtain ⟨hfront, hnew⟩ := hfresh
    obtain ⟨hthrown, hopen, -⟩ := ih (by omega) hfront
    obtain ⟨hmessages, hstream⟩ := hopen (.inl (by omega))
    have hadd := @addChunk_wireChunks a mps tsn seq ssn n htsn
    rw [← hstream] at hadd
    rw [← received_receiveDataChunks { receiver := r }] at hnew
    obtain ⟨hnext, hok, hafter⟩ := receiveDataChunk_of_new hnew hadd
    have hpop := @popLoop_wireChunks a mps tsn seq ssn n (by omega) hssn
    have heq := receiveDataChunks_concat { receiver := r } (a.wireChunks mps tsn seq n)
      (a.fragmentChunk mps tsn seq n).onWire
    rw [← wireChunks_succ] at heq
    rw [InboundStream.popMessages] at hnext hafter
    dsimp only at hnext hafter
    rw [hpop] at hnext hafter
    dsimp only at heq ⊢
    rw [heq]
    refine ⟨?_, ?_, ?_⟩
    · rw [hthrown, hok]
      rfl
    · intro hlt
      have hne : ¬ n + 1 = a.fragments mps := by omega
      rw [if_neg hne] at hnext hafter
      exact ⟨by rw [hmessages, hnext]; rfl, hafter⟩
    · intro hlast _
      rw [if_pos hlast] at hnext hafter
      exact ⟨by rw [hmessages, hnext]; rfl, hafter⟩

end Reassembly

/-! ## Messages that survive -/

/-- The chunks of a message are numbered and flagged as they should be, each goes into a packet of at most
the MTU, and a receiver whose stream is at the number of the message hands over the message once and is then
at the next number. -/
structure Survives (mtu : ℕ) (sourcePort destinationPort tag : ℤ) (a : SendArgs) (tsn : ℤ)
    (outboundStreamSeq : ℕ → ℤ) (r : Receiver) (chunks : List DataChunk) : Prop where
  tsns : ∀ (i : ℕ) c, chunks[i]? = some c → c.tsn = (tsn + i) % 0x100000000
  first : ∀ (i : ℕ) c, chunks[i]? = some c → (c.firstFrag = true ↔ i = 0)
  last : ∀ (i : ℕ) c, chunks[i]? = some c → (c.lastFrag = true ↔ i + 1 = chunks.length)
  packets : ∀ c ∈ chunks, ∃ packet,
    serializePacket sourcePort destinationPort tag (.data c) = some packet ∧ packet.length ≤ mtu
  delivered : (Receiver.receiveDataChunks { receiver := r }
    (chunks.map DataChunk.onWire)).messages.map messageData = [a.userData]
  expects : (Receiver.receiveDataChunks { receiver := r }
    (chunks.map DataChunk.onWire)).receiver.getInboundStream a.streamId =
      ⟨[], a.nextOutboundSeq outboundStreamSeq a.streamId⟩

section Messages

variable {mtu : ℕ} {sourcePort destinationPort tag tsn seq : ℤ} {a : SendArgs}
  {outboundStreamSeq : ℕ → ℤ} {r : Receiver}

/-- The longest chunk of a message is the first one. -/
lemma length_first_chunk (mps : ℕ) :
    (a.fragmentChunk mps tsn seq 0).userData.length = min a.userData.length mps := by
  rw [SendArgs.fragmentChunk]
  dsimp only
  rw [Nat.zero_mul, List.drop_zero, List.length_take, min_comm]

/-- A message that survives is not empty, and its first chunk has a length of 16 bits. -/
lemma Survives.bounds (hmtu : validateSctpMtu mtu = true)
    (h : Survives mtu sourcePort destinationPort tag a tsn outboundStreamSeq r
      (a.chunks (maxPayloadSizeForMtu mtu) tsn seq)) :
    0 < a.userData.length ∧ min a.userData.length (maxPayloadSizeForMtu mtu) ≤ 65519 := by
  have hmps := maxPayloadSizeForMtu_pos hmtu
  have hpos : 0 < a.userData.length := by
    by_contra hempty
    have hnone : a.chunks (maxPayloadSizeForMtu mtu) tsn seq = [] := by
      have hfragments := mt (SendArgs.fragments_pos_iff hmps).mp hempty
      rw [← List.length_eq_zero_iff, SendArgs.length_chunks]
      omega
    have hdelivered := h.delivered
    rw [hnone] at hdelivered
    cases hdelivered
  refine ⟨hpos, ?_⟩
  by_contra hlong
  have hfirst := @SendArgs.getElem?_chunks a _ 0 tsn seq ((SendArgs.fragments_pos_iff hmps).mpr hpos)
  obtain ⟨packet, hpacket, -⟩ := h.packets _ (List.mem_of_getElem? hfirst)
  rw [serializePacket_of_long (by rw [length_first_chunk]; omega)] at hpacket
  cases hpacket

/-- The fields of a fragment are in their ranges. -/
lemma inRange_fragmentChunk {mps i : ℕ} (htsn : 0 ≤ tsn ∧ tsn < 0x100000000)
    (hseq : 0 ≤ seq ∧ seq < 0x10000) (hid : a.streamId < 0x10000) (hppid : a.ppId < 0x100000000)
    (hlength : min a.userData.length mps ≤ 65519) : (Chunk.data (a.fragmentChunk mps tsn seq i)).InRange := by
  have hflags : (a.fragmentChunk mps tsn seq i).flags < 0x100 := by
    simp only [SendArgs.fragmentChunk, SendArgs.fragmentFlags]
    split_ifs <;> decide
  have hssn : 0 ≤ a.streamSeqNum seq ∧ a.streamSeqNum seq < 0x10000 := by
    rw [SendArgs.streamSeqNum]
    split_ifs <;> omega
  have hdata : (a.fragmentChunk mps tsn seq i).userData.length ≤ min a.userData.length mps := by
    rw [SendArgs.fragmentChunk]
    dsimp only
    rw [List.length_take, List.length_drop]
    omega
  refine ⟨hflags, ?_, hid, hssn, hppid, ?_⟩
  · rw [SendArgs.tsn_fragmentChunk htsn]
    omega
  · rw [SCTP_DATA_CHUNK_HEADER_SIZE]
    omega

/-- **Which messages survive.**  For an MTU that is accepted, a message survives if and only if it is not
empty and its first chunk has at most 65519 bytes. -/
theorem message_survives_iff (hmtu : validateSctpMtu mtu = true)
    (hs : 0 ≤ sourcePort ∧ sourcePort < 0x10000) (hd : 0 ≤ destinationPort ∧ destinationPort < 0x10000)
    (ht : 0 ≤ tag ∧ tag < 0x100000000) (htsn : 0 ≤ tsn ∧ tsn < 0x100000000)
    (hseq : ∀ id, 0 ≤ outboundStreamSeq id ∧ outboundStreamSeq id < 0x10000)
    (hid : a.streamId < 0x10000) (hppid : a.ppId < 0x100000000)
    (hexpects : r.getInboundStream a.streamId = ⟨[], outboundStreamSeq a.streamId⟩)
    (hfresh : Fresh r.received ((a.chunks (maxPayloadSizeForMtu mtu) tsn
      (outboundStreamSeq a.streamId)).map DataChunk.tsn)) :
    Survives mtu sourcePort destinationPort tag a tsn outboundStreamSeq r
        (a.chunks (maxPayloadSizeForMtu mtu) tsn (outboundStreamSeq a.streamId)) ↔
      0 < a.userData.length ∧ min a.userData.length (maxPayloadSizeForMtu mtu) ≤ 65519 := by
  refine ⟨fun h => h.bounds hmtu, fun ⟨hpos, hlength⟩ => ?_⟩
  have hmps := maxPayloadSizeForMtu_pos hmtu
  have hfragments := (SendArgs.fragments_pos_iff (a := a) hmps).mpr hpos
  have hwire : (a.chunks (maxPayloadSizeForMtu mtu) tsn (outboundStreamSeq a.streamId)).map
      DataChunk.onWire = a.wireChunks (maxPayloadSizeForMtu mtu) tsn (outboundStreamSeq a.streamId)
        (a.fragments (maxPayloadSizeForMtu mtu)) := by
    rw [SendArgs.chunks, List.map_map]
    rfl
  have htsns : (a.chunks (maxPayloadSizeForMtu mtu) tsn (outboundStreamSeq a.streamId)).map
      DataChunk.tsn = (a.wireChunks (maxPayloadSizeForMtu mtu) tsn (outboundStreamSeq a.streamId)
        (a.fragments (maxPayloadSizeForMtu mtu))).map DataChunk.tsn := by
    rw [← hwire, List.map_map]
    rfl
  rw [htsns] at hfresh
  obtain ⟨-, -, hcomplete⟩ := receiveDataChunks_wireChunks htsn hexpects (fun _ => rfl) le_rfl hfresh
  obtain ⟨hmessages, hafter⟩ := hcomplete rfl hfragments
  refine ⟨?_, ?_, ?_, ?_, ?_, ?_⟩
  · intro i c hc
    obtain ⟨-, rfl⟩ := SendArgs.eq_fragmentChunk hc
    exact SendArgs.tsn_fragmentChunk htsn
  · intro i c hc
    obtain ⟨-, rfl⟩ := SendArgs.eq_fragmentChunk hc
    rw [← DataChunk.onWire_firstFrag, firstFrag_fragmentChunk, decide_eq_true_iff]
  · intro i c hc
    obtain ⟨-, rfl⟩ := SendArgs.eq_fragmentChunk hc
    rw [← DataChunk.onWire_lastFrag, lastFrag_fragmentChunk, decide_eq_true_iff,
      SendArgs.length_chunks]
  · intro c hc
    obtain ⟨i, hi, rfl⟩ := SendArgs.mem_chunks.mp hc
    obtain ⟨packet, hpacket, hsize⟩ := exists_serializePacket hs hd ht
      (inRange_fragmentChunk (i := i) htsn (hseq a.streamId) hid hppid hlength)
    exact ⟨packet, hpacket, hsize.trans_le (padded_le_mtu hmtu SendArgs.length_fragmentChunk_le)⟩
  · rw [hwire, hmessages, List.map_singleton, ← hwire, SendArgs.messageData_chunks hmps]
  · rw [hwire, hafter, SendArgs.nextOutboundSeq, SendArgs.streamSeqNum]
    cases a.ordered <;> simp

end Messages

/-- The receiver of an association whose first TSN is `0`. -/
def firstReceiver : Receiver := { received := { lastReceivedTsn := -1 } }

/-- A message of two chunks survives. -/
theorem message_survives_two_chunks :
    Survives 32 5000 5000 1 ⟨0, 51, [1, 2, 3, 4, 5], none, none, true⟩ 0 (fun _ => 0) firstReceiver
      ((SendArgs.mk 0 51 [1, 2, 3, 4, 5] none none true).chunks (maxPayloadSizeForMtu 32) 0 0) := by
  have hfresh : Fresh firstReceiver.received (((SendArgs.mk 0 51 [1, 2, 3, 4, 5] none none true).chunks
      (maxPayloadSizeForMtu 32) 0 0).map DataChunk.tsn) :=
    ⟨by decide +kernel, by decide +kernel, trivial⟩
  have hiff := @message_survives_iff 32 5000 5000 1 0 ⟨0, 51, [1, 2, 3, 4, 5], none, none, true⟩
    (fun _ => 0) firstReceiver (by decide) (by decide) (by decide) (by decide) (by decide)
    (fun _ => by norm_num) (by decide) (by decide) rfl hfresh
  exact hiff.mpr (by decide)

/-- **Messages that do not survive**: the empty one, which has no chunks, and with a large MTU one whose
only chunk is too long for its length field. -/
theorem message_lost :
    ¬ Survives 1191 5000 5000 1 ⟨0, 51, [], none, none, true⟩ 0 (fun _ => 0) firstReceiver
      ((SendArgs.mk 0 51 [] none none true).chunks (maxPayloadSizeForMtu 1191) 0 0) ∧
    ¬ Survives 70000 5000 5000 1 ⟨0, 51, List.replicate 65520 0, none, none, true⟩ 0 (fun _ => 0)
      firstReceiver ((SendArgs.mk 0 51 (List.replicate 65520 0) none none true).chunks
        (maxPayloadSizeForMtu 70000) 0 0) := by
  constructor
  · intro h
    exact absurd (h.bounds (by decide)).1 (by decide)
  · intro h
    have hbound := (h.bounds (by decide)).2
    rw [List.length_replicate] at hbound
    exact absurd hbound (by decide)

end Werift.Sctp
