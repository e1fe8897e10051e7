import Werift.Dtls.Datagram
import Werift.Lib.Contract
import Werift.Lib.MapM
import Werift.Lib.Transition

/-!
# Reassembling handshake messages (`DtlsSocket.handleFragmentHandshake`)

The fragments of all messages wait in one buffer.  When a fragment comes that ends its message, and it is
not the only one, all of them are taken out, put together by their types, and passed on.  That is right
if the fragments of every type are those of one message, and all of them; a fragment that does not end
its message must not be the one that completes it.  `Orderly` says this of an arrival, and `reassembled`
is what holds in every run of orderly arrivals.
-/

namespace Werift.Dtls

open Transition Contract

/-! ## Putting fragments together -/

namespace FragmentedHandshake

variable {f g : FragmentedHandshake} {max : ℕ}

/-- Copying within the bounds of the target. -/
lemma getElem?_copy {source target : Bytes} {start : ℕ}
    (hfit : start + source.length ≤ target.length) (p : ℕ) :
    (copy source target start)[p]? =
      if start ≤ p ∧ p < start + source.length then source[p - start]? else target[p]? := by
  have hsource : source.take (target.length - start) = source :=
    List.take_of_length_le (by omega)
  have hstart : (target.take start).length = start := List.length_take_of_le (by omega)
  rw [copy, hsource, List.append_assoc]
  by_cases hbefore : p < start
  · rw [List.getElem?_append_left (by omega), List.getElem?_take_of_lt hbefore, if_neg (by omega)]
  · rw [List.getElem?_append_right (by omega), hstart]
    by_cases hinside : p < start + source.length
    · rw [List.getElem?_append_left (by omega), if_pos (by omega)]
    · rw [List.getElem?_append_right (by omega), List.getElem?_drop, if_neg (by omega)]
      congr 1
      omega

/-- A fragment of a message: its fields are those of the message, and its bytes stand in it. -/
structure Part (f g : FragmentedHandshake) : Prop where
  msg_type : g.msg_type = f.msg_type
  length : g.length = f.fragment.length
  message_seq : g.message_seq = f.message_seq
  fits : g.fragment_offset + g.fragment.length ≤ f.fragment.length
  bytes : ∀ p, p < g.fragment.length → g.fragment[p]? = f.fragment[g.fragment_offset + p]?

/-- A byte of the message that a fragment carries. -/
def Carries (g : FragmentedHandshake) (p : ℕ) : Prop :=
  g.fragment_offset ≤ p ∧ p < g.fragment_offset + g.fragment.length

lemma part_piece {i : ℕ} (h : i * max ≤ f.fragment.length) : Part f (f.piece max i) where
  msg_type := rfl
  length := rfl
  message_seq := rfl
  fits := by
    simp only [piece, List.length_take, List.length_drop]
    omega
  bytes := by
    intro p hp
    simp only [piece, List.length_take, List.length_drop] at hp ⊢
    rw [List.getElem?_take_of_lt (by omega), List.getElem?_drop]

/-- The fragments of a message. -/
lemma mem_chunk (hmax : 0 < max) : g ∈ f.chunk max ↔
    ∃ i, f.piece max i = g ∧ (i = 0 ∨ i * max < f.fragment.length) := by
  unfold chunk
  split_ifs with hzero
  · rw [List.mem_singleton]
    constructor
    · rintro rfl
      exact ⟨0, rfl, Or.inl rfl⟩
    · rintro ⟨i, rfl, rfl | hi⟩
      · rfl
      · omega
  · rw [List.mem_map]
    refine exists_congr fun i => ?_
    rw [List.mem_range, and_comm, Nat.lt_iff_add_one_le, Nat.le_div_iff_mul_le hmax]
    have hsucc : (i + 1) * max = i * max + max := Nat.succ_mul i max
    rw [hsucc]
    refine and_congr_right fun _ => ⟨fun h => Or.inr (by omega), fun h => ?_⟩
    rcases h with rfl | h <;> omega

lemma part_of_mem_chunk (hmax : 0 < max) (h : g ∈ f.chunk max) : Part f g := by
  obtain ⟨i, rfl, hi⟩ := (mem_chunk hmax).mp h
  refine part_piece ?_
  rcases hi with rfl | hi
  · omega
  · exact hi.le

/-- Every byte of a message is in one of its fragments. -/
lemma exists_carries (hmax : 0 < max) {p : ℕ} (hp : p < f.fragment.length) :
    ∃ g ∈ f.chunk max, g.Carries p := by
  have hdiv := Nat.div_add_mod p max
  have hmod := Nat.mod_lt p hmax
  have hcomm : max * (p / max) = p / max * max := Nat.mul_comm _ _
  refine ⟨f.piece max (p / max), (mem_chunk hmax).mpr ⟨p / max, rfl, Or.inr (by omega)⟩, ?_, ?_⟩
  · simp only [piece]
    omega
  · simp only [piece, List.length_take, List.length_drop]
    omega

/-- Copying fragments leaves every byte right that was right or that one of them carries. -/
lemma foldl_copy {fragments : List FragmentedHandshake} (hparts : ∀ g ∈ fragments, Part f g)
    {combined : Bytes} (hlength : combined.length = f.fragment.length) {p : ℕ}
    (hp : combined[p]? = f.fragment[p]? ∨ ∃ g ∈ fragments, g.Carries p) :
    (fragments.foldl (fun combined msg => copy msg.fragment combined msg.fragment_offset)
      combined)[p]? = f.fragment[p]? := by
  induction fragments generalizing combined with
  | nil =>
    rcases hp with hp | ⟨g, hg, -⟩
    · exact hp
    · exact absurd hg List.not_mem_nil
  | cons g fragments ih =>
    obtain ⟨hg, hparts⟩ := List.forall_mem_cons.mp hparts
    have hcopy := @getElem?_copy g.fragment combined g.fragment_offset
      (hlength.symm ▸ hg.fits) p
    apply ih hparts (by rw [length_copy, hlength])
    by_cases hcarries : g.fragment_offset ≤ p ∧ p < g.fragment_offset + g.fragment.length
    · left
      rw [hcopy, if_pos hcarries, hg.bytes _ (by omega)]
      congr 1
      omega
    · rw [hcopy, if_neg hcarries]
      rcases hp with hp | ⟨g', hg', hcarries'⟩
      · exact Or.inl hp
      · rcases List.mem_cons.mp hg' with rfl | hg'
        · exact absurd hcarries' hcarries
        · exact Or.inr ⟨g', hg', hcarries'⟩

/-- **Assembling** fragments of a message that carry all its bytes gives the message, in whatever order
they come and how often. -/
theorem assemble_parts (hf : f.Whole) {fragments : List FragmentedHandshake} (hne : fragments ≠ [])
    (hparts : ∀ g ∈ fragments, Part f g)
    (hcover : ∀ p < f.fragment.length, ∃ g ∈ fragments, g.Carries p) :
    assemble fragments = some f := by
  rw [assemble]
  have hmem (g : FragmentedHandshake) :
      g ∈ fragments.insertionSort (fun a b => a.fragment_offset ≤ b.fragment_offset) ↔ g ∈ fragments :=
    List.mem_insertionSort _
  split
  · rename_i hnil
    obtain ⟨g, hg⟩ := List.exists_mem_of_ne_nil _ hne
    rw [← hmem g, hnil] at hg
    exact absurd hg List.not_mem_nil
  · rename_i first rest hsorted
    have hfirst : Part f first :=
      hparts first ((hmem first).mp (hsorted ▸ List.mem_cons_self))
    have hall : ∀ g ∈ first :: rest, Part f g :=
      fun g hg => hparts g ((hmem g).mp (hsorted ▸ hg))
    have hlength : (List.replicate first.length (0 : UInt8)).length = f.fragment.length := by
      rw [List.length_replicate, hfirst.length]
    have hbytes : (first :: rest).foldl
        (fun combined msg => copy msg.fragment combined msg.fragment_offset)
        (List.replicate first.length 0) = f.fragment := by
      refine List.ext_getElem? fun p => foldl_copy hall hlength ?_
      rcases Nat.lt_or_ge p f.fragment.length with hlt | hge
      · obtain ⟨g, hg, hcarries⟩ := hcover p hlt
        exact Or.inr ⟨g, hsorted ▸ (hmem g).mpr hg, hcarries⟩
      · left
        rw [List.getElem?_eq_none (hlength.le.trans hge), List.getElem?_eq_none hge]
    rw [hbytes, hfirst.msg_type, hfirst.length, hfirst.message_seq]
    cases f
    obtain ⟨hlen, hoff⟩ := hf
    simp_all

/-- All fragments of a message, and no others. -/
theorem assemble_fragments (hf : f.Whole) (hmax : 0 < max) {fragments : List FragmentedHandshake}
    (hpieces : ∀ g ∈ fragments, g ∈ f.chunk max) (hall : ∀ g ∈ f.chunk max, g ∈ fragments) :
    assemble fragments = some f := by
  obtain ⟨g, hg⟩ := List.exists_mem_of_ne_nil _ (chunk_ne_nil (f := f) hmax)
  refine assemble_parts hf (List.ne_nil_of_mem (hall g hg))
    (fun g hg => part_of_mem_chunk hmax (hpieces g hg)) fun p hp => ?_
  obtain ⟨g, hg, hcarries⟩ := exists_carries hmax hp
  exact ⟨g, hall g hg, hcarries⟩

end FragmentedHandshake

/-! ## By type -/

/-- The fragments of one type. -/
def ofType (fragments : List FragmentedHandshake) (t : ℕ) : List FragmentedHandshake :=
  fragments.filter fun g => g.msg_type = t

lemma get?_groupByType (fragments : List FragmentedHandshake) (t : ℤ) :
    (groupByType fragments).get? t =
      match fragments.filter fun g => (g.msg_type : ℤ) = t with
      | [] => none
      | group => some group := by
  induction fragments using List.reverseRecOn with
  | nil => rfl
  | append_singleton fragments g ih =>
    rw [groupByType, List.foldl_append, ← groupByType, List.filter_append]
    rw [List.foldl_cons, List.foldl_nil, Js.IndexObject.get?_set]
    split_ifs with ht
    · subst ht
      rw [ih, List.filter_singleton]
      simp only [decide_true, cond_true]
      cases fragments.filter fun g' => decide ((g'.msg_type : ℤ) = g.msg_type) <;> simp
    · have hdrop : List.filter (fun g => decide ((g.msg_type : ℤ) = t)) [g] = [] := by
        simp [Ne.symm ht]
      rw [ih, hdrop, List.append_nil]

/-- The groups are the fragments of the types that there are. -/
lemma mem_values_groupByType {fragments group : List FragmentedHandshake} :
    group ∈ (groupByType fragments).values ↔ ∃ g ∈ fragments, group = ofType fragments g.msg_type := by
  rw [Js.IndexObject.mem_values]
  simp only [get?_groupByType]
  constructor
  · rintro ⟨t, ht⟩
    split at ht
    · cases ht
    · rename_i hne
      obtain rfl := Option.some.inj ht
      obtain ⟨g, hg⟩ := List.exists_mem_of_ne_nil _ hne
      obtain ⟨hmem, htype⟩ := List.mem_filter.mp hg
      obtain rfl := of_decide_eq_true htype
      exact ⟨g, hmem, by simp [ofType]⟩
  · rintro ⟨g, hg, rfl⟩
    have hgroup : fragments.filter (fun g' => decide ((g'.msg_type : ℤ) = g.msg_type)) =
        ofType fragments g.msg_type := by simp [ofType]
    have hne : ofType fragments g.msg_type ≠ [] :=
      List.ne_nil_of_mem (List.mem_filter.mpr ⟨hg, by simp⟩)
    refine ⟨g.msg_type, ?_⟩
    rw [hgroup]
    split
    · rename_i hnil
      exact absurd hnil hne
    · rfl

/-- There is always something to assemble. -/
lemma isSome_assembleByType (fragments : List FragmentedHandshake) :
    (assembleByType fragments).isSome := by
  have hsome : ((groupByType fragments).values.mapM FragmentedHandshake.assemble) ≠ none := by
    rw [Ne, OptionList.mapM_eq_none]
    rintro ⟨group, hgroup, hnone⟩
    obtain ⟨g, hg, rfl⟩ := mem_values_groupByType.mp hgroup
    have hmem : g ∈ ofType fragments g.msg_type := List.mem_filter.mpr ⟨hg, by simp⟩
    rw [FragmentedHandshake.assemble] at hnone
    split at hnone
    · rename_i hnil
      rw [← List.mem_insertionSort (fun a b : FragmentedHandshake =>
        a.fragment_offset ≤ b.fragment_offset), hnil] at hmem
      exact absurd hmem List.not_mem_nil
    · cases hnone
  obtain ⟨assembled, hassembled⟩ := Option.ne_none_iff_exists'.mp hsome
  rw [assembleByType, hassembled]
  rfl

/-- What is passed on: one message for each type. -/
lemma mem_assembleByType {fragments assembled : List FragmentedHandshake}
    (h : assembleByType fragments = some assembled) {a : FragmentedHandshake} : a ∈ assembled ↔
      ∃ g ∈ fragments, FragmentedHandshake.assemble (ofType fragments g.msg_type) = some a := by
  obtain ⟨groups, hgroups, hsorted⟩ := Option.bind_eq_some_iff.mp h
  obtain rfl := Option.some.inj hsorted
  rw [List.mem_insertionSort]
  constructor
  · intro ha
    obtain ⟨group, hgroup, hassemble⟩ := OptionList.exists_of_mem_mapM hgroups ha
    obtain ⟨g, hg, rfl⟩ := mem_values_groupByType.mp hgroup
    exact ⟨g, hg, hassemble⟩
  · rintro ⟨g, hg, hassemble⟩
    exact OptionList.mem_of_mem_mapM hgroups (mem_values_groupByType.mpr ⟨g, hg, rfl⟩) hassemble

/-! ## What is recorded -/

section

variable {P : Primitives} {onHandleHandshakes : List FragmentedHandshake → Socket → Socket}

/-- The record says what has been passed on. -/
def Recorded (e : Endpoint) : Prop :=
  ∀ a ∈ e.arrivals, assembleByType (handleFragmentHandshake a.buffer [a.fragment]).1 = some a.passed

/-- Arrivals are not forgotten. -/
def Grows (e e' : Endpoint) : Prop := e.arrivals <+: e'.arrivals

instance : Std.Refl Grows := ⟨fun _ => List.prefix_rfl⟩

instance : IsTrans Endpoint Grows := ⟨fun _ _ _ h h' => List.IsPrefix.trans h h'⟩

/-- **A fragment comes in.**  It is recorded, and nothing throws. -/
lemma run_onHandshake (v : FragmentedHandshake) (e : Endpoint) : ∃ passed,
    assembleByType (handleFragmentHandshake e.socket.bufferFragmentedHandshakes [v]).1 = some passed ∧
    (onHandshake onHandleHandshakes v).run e = .ok ()
      { socket := onHandleHandshakes passed { e.socket with bufferFragmentedHandshakes :=
          (handleFragmentHandshake e.socket.bufferFragmentedHandshakes [v]).2 }
        arrivals := e.arrivals ++ [⟨e.socket.bufferFragmentedHandshakes, v, passed⟩] } := by
  obtain ⟨passed, hpassed⟩ := Option.isSome_iff_exists.mp (isSome_assembleByType
    (handleFragmentHandshake e.socket.bufferFragmentedHandshakes [v]).1)
  refine ⟨passed, hpassed, ?_⟩
  have hvalue : valueOf (assembleByType
      (handleFragmentHandshake e.socket.bufferFragmentedHandshakes [v]).1) = pure passed := by
    rw [hpassed]
    rfl
  change ((valueOf (assembleByType
    (handleFragmentHandshake e.socket.bufferFragmentedHandshakes [v]).1) : Handling _) >>= _).run _ = _
  rw [hvalue]
  rfl

lemma keeps_onHandshake (v : FragmentedHandshake) :
    Keeps Recorded Grows (fun _ => True) (onHandshake onHandleHandshakes v) fun _ _ => True := by
  intro e he _
  obtain ⟨passed, hpassed, hrun⟩ := @run_onHandshake onHandleHandshakes v e
  rw [hrun]
  refine ⟨fun a ha => ?_, List.prefix_append _ _, trivial⟩
  rcases List.mem_append.mp ha with ha | ha
  · exact he a ha
  · obtain rfl := List.mem_singleton.mp ha
    exact hpassed

lemma keeps_onContent (content : Content) :
    Keeps Recorded Grows (fun _ => True) (onContent onHandleHandshakes content) fun _ _ => True := by
  cases content with
  | changeCipherSpec => exact keeps_pure (R := Grows) (Q := fun _ _ => True) ()
  | handshake data => exact keeps_onHandshake data
  | applicationData data => exact keeps_modify fun e he _ => ⟨he, List.prefix_rfl, trivial⟩
  | alert => exact keeps_modify fun e he _ => ⟨he, List.prefix_rfl, trivial⟩

lemma keeps_onContents (contents : List Content) : Keeps Recorded Grows (fun _ => True)
    (contents.forM (onContent onHandleHandshakes)) fun _ _ => True := by
  induction contents with
  | nil => exact keeps_pure (R := Grows) (Q := fun _ _ => True) ()
  | cons content contents ih => exact keeps_bind (keeps_onContent content) fun _ => ih

lemma keeps_handlePacket (packet : DtlsPlaintext) : Keeps Recorded Grows (fun _ => True)
    (handlePacket P onHandleHandshakes packet) fun _ _ => True := by
  have hvalue (r : Option (List Content)) :
      Keeps Recorded Grows (fun _ => True) (valueOf r) fun _ _ => True := by
    cases r with
    | none => exact keeps_throw ()
    | some contents => exact keeps_pure (R := Grows) (Q := fun _ _ => True) contents
  refine keeps_bind (keeps_get.weaken fun _ _ _ _ => trivial) fun s => ?_
  exact keeps_bind (hvalue _) fun contents => keeps_onContents contents

lemma recorded_onPacket {e : Endpoint} (he : Recorded e) (packet : DtlsPlaintext) :
    Recorded (onPacket P onHandleHandshakes e packet) := by
  have hkeeps := @keeps_handlePacket P onHandleHandshakes packet e he trivial
  rw [onPacket]
  cases hrun : (handlePacket P onHandleHandshakes packet).run e with
  | ok _ e' =>
    rw [hrun] at hkeeps
    exact hkeeps.1
  | error _ e' =>
    rw [hrun] at hkeeps
    exact hkeeps.1

/-- **One datagram** keeps the record right. -/
lemma recorded_udpOnMessage {e e' : Endpoint} (he : Recorded e) {data : Bytes}
    (h : udpOnMessage P onHandleHandshakes data e = some e') : Recorded e' := by
  obtain ⟨packets, -, hpackets⟩ := Option.bind_eq_some_iff.mp h
  obtain rfl := Option.some.inj hpackets
  clear h hpackets
  induction packets generalizing e with
  | nil => exact he
  | cons packet packets ih => exact ih (recorded_onPacket he packet)

end

/-! ## The messages of a peer -/

/-- The handshake messages of a peer, and the length of the fragments into which each is cut. -/
structure PeerMessages where
  messages : List FragmentedHandshake
  maxFragmentLength : FragmentedHandshake → ℕ
  whole : ∀ m ∈ messages, m.Whole
  distinct : (messages.map fun m => m.message_seq).Nodup
  positive : ∀ m ∈ messages, 0 < maxFragmentLength m

namespace PeerMessages

variable {p : PeerMessages}

/-- The fragments of a message. -/
def fragments (p : PeerMessages) (m : FragmentedHandshake) : List FragmentedHandshake :=
  m.chunk (p.maxFragmentLength m)

/-- A fragment is one of the peer. -/
def Sends (p : PeerMessages) (g : FragmentedHandshake) : Prop := ∃ m ∈ p.messages, g ∈ p.fragments m

/-- What the claims of a reassembly are: only messages of the peer are passed on, and a message of which
all fragments have come has been. -/
structure Reassembled (p : PeerMessages) (arrivals : List Arrival) : Prop where
  sound : ∀ a ∈ arrivals, ∀ f ∈ a.passed, f ∈ p.messages
  complete : ∀ m ∈ p.messages, (∀ g ∈ p.fragments m, ∃ a ∈ arrivals, a.fragment = g) →
    ∃ a ∈ arrivals, m ∈ a.passed

/-- The fragments that there are when a fragment has come. -/
def gathered (a : Arrival) : List FragmentedHandshake := a.buffer ++ [a.fragment]

/-- The buffered fragments are given out. -/
def Released (a : Arrival) : Prop :=
  releasesFragments (a.buffer ++ [a.fragment].filter fun v => v.fragment_length ≠ v.length) = true

/-- An arrival that does no harm.  If the fragments are given out, those of each type are the fragments
of one message, and if not, no message is complete that has not been passed on already. -/
structure Orderly (p : PeerMessages) (earlier : List Arrival) (a : Arrival) : Prop where
  released : Released a → ∀ g ∈ gathered a, ∃ m ∈ p.messages,
    (∀ g' ∈ gathered a, g'.msg_type = g.msg_type → g' ∈ p.fragments m) ∧
      ∀ g' ∈ p.fragments m, g' ∈ gathered a
  kept : ¬ Released a → a.fragment.fragment_length ≠ a.fragment.length → ∀ m ∈ p.messages,
    (∀ g ∈ p.fragments m, g = a.fragment ∨ ∃ b ∈ earlier, b.fragment = g) →
      ∃ b ∈ earlier, m ∈ b.passed

instance (a : Arrival) : Decidable (Released a) := inferInstanceAs (Decidable (_ = true))

lemma part_of_mem (hm : m ∈ p.messages) {g : FragmentedHandshake} (hg : g ∈ p.fragments m) :
    FragmentedHandshake.Part m g :=
  FragmentedHandshake.part_of_mem_chunk (p.positive m hm) hg

/-- A fragment belongs to one message. -/
lemma eq_of_mem {m m' g : FragmentedHandshake} (hm : m ∈ p.messages) (hm' : m' ∈ p.messages)
    (hg : g ∈ p.fragments m) (hg' : g ∈ p.fragments m') : m = m' := by
  have hseq : m.message_seq = m'.message_seq :=
    (part_of_mem hm hg).message_seq.symm.trans (part_of_mem hm' hg').message_seq
  exact List.inj_on_of_nodup_map p.distinct hm hm' hseq

/-- What has been handled when the fragments are given out. -/
lemma handled_released {a : Arrival} (h : Released a) :
    (handleFragmentHandshake a.buffer [a.fragment]).1 = gathered a := by
  have hreleased : releasesFragments
      (a.buffer ++ [a.fragment].filter fun v => v.fragment_length ≠ v.length) = true := h
  rw [handleFragmentHandshake, if_pos hreleased, gathered]
  by_cases hwhole : a.fragment.fragment_length = a.fragment.length <;> simp [hwhole]

lemma handled_whole {a : Arrival} (h : ¬ Released a)
    (hwhole : a.fragment.fragment_length = a.fragment.length) :
    (handleFragmentHandshake a.buffer [a.fragment]).1 = [a.fragment] := by
  have hkept : ¬ releasesFragments
      (a.buffer ++ [a.fragment].filter fun v => v.fragment_length ≠ v.length) = true := h
  rw [handleFragmentHandshake, if_neg hkept]
  simp [hwhole]

lemma handled_kept {a : Arrival} (h : ¬ Released a)
    (hpart : a.fragment.fragment_length ≠ a.fragment.length) :
    (handleFragmentHandshake a.buffer [a.fragment]).1 = [] := by
  have hkept : ¬ releasesFragments
      (a.buffer ++ [a.fragment].filter fun v => v.fragment_length ≠ v.length) = true := h
  rw [handleFragmentHandshake, if_neg hkept]
  simp [hpart]

/-- A fragment that is a whole message is passed on as this message. -/
lemma assemble_whole {m g : FragmentedHandshake} (hm : m ∈ p.messages) (hg : g ∈ p.fragments m)
    (hwhole : g.fragment_length = g.length) :
    FragmentedHandshake.assemble (ofType [g] g.msg_type) = some m := by
  have hpart := part_of_mem hm hg
  have hofType : ofType [g] g.msg_type = [g] := by simp [ofType]
  have hlength : g.fragment.length = m.fragment.length := hwhole.trans hpart.length
  have hfits := hpart.fits
  rw [hofType]
  refine FragmentedHandshake.assemble_parts (p.whole m hm) (List.cons_ne_nil _ _)
    (fun g' hg' => List.mem_singleton.mp hg' ▸ hpart) fun q hq => ?_
  refine ⟨g, List.mem_singleton_self g, ?_, ?_⟩ <;> omega

/-- The fragments of one type that are given out are put together to their message. -/
lemma assemble_gathered {m g : FragmentedHandshake} {l : List FragmentedHandshake}
    (hm : m ∈ p.messages) (hg : g ∈ l)
    (hpieces : ∀ g' ∈ l, g'.msg_type = g.msg_type → g' ∈ p.fragments m)
    (hall : ∀ g' ∈ p.fragments m, g' ∈ l) :
    FragmentedHandshake.assemble (ofType l g.msg_type) = some m := by
  have htype : g.msg_type = m.msg_type := (part_of_mem hm (hpieces g hg rfl)).msg_type
  refine FragmentedHandshake.assemble_fragments (p.whole m hm) (p.positive m hm)
    (fun g' hg' => ?_) fun g' hg' => ?_
  · obtain ⟨hmem, ht⟩ := List.mem_filter.mp hg'
    exact hpieces g' hmem (of_decide_eq_true ht)
  · refine List.mem_filter.mpr ⟨hall g' hg', decide_eq_true ?_⟩
    exact (part_of_mem hm hg').msg_type.trans htype.symm

/-- **One arrival.** -/
theorem Reassembled.step {earlier : List Arrival} (h : p.Reassembled earlier) {a : Arrival}
    (hrecord : assembleByType (handleFragmentHandshake a.buffer [a.fragment]).1 = some a.passed)
    (hsends : p.Sends a.fragment) (horderly : p.Orderly earlier a) :
    p.Reassembled (earlier ++ [a]) := by
  obtain ⟨m₀, hm₀, hg₀⟩ := hsends
  -- it is enough to look at this arrival and the message whose fragment it is
  suffices hnew : (∀ f ∈ a.passed, f ∈ p.messages) ∧
      ((∀ g ∈ p.fragments m₀, g = a.fragment ∨ ∃ b ∈ earlier, b.fragment = g) →
        m₀ ∈ a.passed ∨ ∃ b ∈ earlier, m₀ ∈ b.passed) by
    obtain ⟨hsound, hcomplete⟩ := hnew
    refine ⟨fun b hb f hf => ?_, fun m hm hall => ?_⟩
    · rcases List.mem_append.mp hb with hb | hb
      · exact h.sound b hb f hf
      · obtain rfl := List.mem_singleton.mp hb
        exact hsound f hf
    · have hall' : ∀ g ∈ p.fragments m, g = a.fragment ∨ ∃ b ∈ earlier, b.fragment = g := by
        intro g hg
        obtain ⟨b, hb, hbg⟩ := hall g hg
        rcases List.mem_append.mp hb with hb | hb
        · exact Or.inr ⟨b, hb, hbg⟩
        · obtain rfl := List.mem_singleton.mp hb
          exact Or.inl hbg.symm
      have hpassed : m ∈ a.passed ∨ ∃ b ∈ earlier, m ∈ b.passed := by
        by_cases hmem : a.fragment ∈ p.fragments m
        · obtain rfl := eq_of_mem hm hm₀ hmem hg₀
          exact hcomplete hall'
        · refine Or.inr (h.complete m hm fun g hg => (hall' g hg).resolve_left ?_)
          rintro rfl
          exact hmem hg
      rcases hpassed with hmem | ⟨b, hb, hmem⟩
      · exact ⟨a, List.mem_append_right _ (List.mem_singleton_self a), hmem⟩
      · exact ⟨b, List.mem_append_left _ hb, hmem⟩
  by_cases hreleased : Released a
  · rw [handled_released hreleased] at hrecord
    have hgroup := horderly.released hreleased
    refine ⟨fun f hf => ?_, fun _ => Or.inl ?_⟩
    · obtain ⟨g, hg, hassemble⟩ := (mem_assembleByType hrecord).mp hf
      obtain ⟨m, hm, hpieces, hall⟩ := hgroup g hg
      rw [assemble_gathered hm hg hpieces hall] at hassemble
      exact Option.some.inj hassemble ▸ hm
    · have hmem : a.fragment ∈ gathered a :=
        List.mem_append_right _ (List.mem_singleton_self _)
      obtain ⟨m, hm, hpieces, hall⟩ := hgroup a.fragment hmem
      obtain rfl := eq_of_mem hm hm₀ (hpieces _ hmem rfl) hg₀
      exact (mem_assembleByType hrecord).mpr
        ⟨a.fragment, hmem, assemble_gathered hm hmem hpieces hall⟩
  · by_cases hwhole : a.fragment.fragment_length = a.fragment.length
    · rw [handled_whole hreleased hwhole] at hrecord
      have hassemble := assemble_whole hm₀ hg₀ hwhole
      refine ⟨fun f hf => ?_, fun _ => Or.inl ?_⟩
      · obtain ⟨g, hg, hf⟩ := (mem_assembleByType hrecord).mp hf
        obtain rfl := List.mem_singleton.mp hg
        rw [hassemble] at hf
        exact Option.some.inj hf ▸ hm₀
      · exact (mem_assembleByType hrecord).mpr ⟨_, List.mem_singleton_self _, hassemble⟩
    · rw [handled_kept hreleased hwhole] at hrecord
      refine ⟨fun f hf => ?_, fun hall => Or.inr (horderly.kept hreleased hwhole m₀ hm₀ hall)⟩
      obtain ⟨g, hg, -⟩ := (mem_assembleByType hrecord).mp hf
      exact absurd hg List.not_mem_nil

/-- All arrivals, one after the other. -/
theorem reassembled_arrivals {arrivals : List Arrival}
    (hrecord : ∀ a ∈ arrivals,
      assembleByType (handleFragmentHandshake a.buffer [a.fragment]).1 = some a.passed)
    (hsends : ∀ a ∈ arrivals, p.Sends a.fragment)
    (horderly : ∀ i a, arrivals[i]? = some a → p.Orderly (arrivals.take i) a) :
    p.Reassembled arrivals := by
  induction arrivals using List.reverseRecOn with
  | nil =>
    refine ⟨fun a ha => absurd ha List.not_mem_nil, fun m hm hall => ?_⟩
    obtain ⟨g, hg⟩ := List.exists_mem_of_ne_nil _
      (FragmentedHandshake.chunk_ne_nil (f := m) (p.positive m hm))
    obtain ⟨a, ha, -⟩ := hall g hg
    exact absurd ha List.not_mem_nil
  | append_singleton arrivals a ih =>
    have hmem : a ∈ arrivals ++ [a] := List.mem_append_right _ (List.mem_singleton_self a)
    have hlast : p.Orderly arrivals a := by
      have h := horderly arrivals.length a (by simp)
      rwa [List.take_left] at h
    refine (ih (fun b hb => hrecord b (List.mem_append_left _ hb))
      (fun b hb => hsends b (List.mem_append_left _ hb)) fun i b hb => ?_).step (hrecord a hmem)
        (hsends a hmem) hlast
    have hi : i < arrivals.length := (List.getElem?_eq_some_iff.mp hb).1
    have h := horderly i b (by rw [List.getElem?_append_left hi, hb])
    rwa [List.take_append_of_le_length hi.le] at h

/-- **Reassembly.**  In every run of orderly arrivals only messages of the peer are passed on, and a
message of which all fragments have come has been passed on. -/
theorem reassembled {P : Primitives}
    {onHandleHandshakes : List FragmentedHandshake → Socket → Socket} {e₀ e : Endpoint}
    (hstart : e₀.arrivals = [])
    (hrun : Reachable (fun e data => udpOnMessage P onHandleHandshakes data e) e₀ e)
    (hsends : ∀ a ∈ e.arrivals, p.Sends a.fragment)
    (horderly : ∀ i a, e.arrivals[i]? = some a → p.Orderly (e.arrivals.take i) a) :
    p.Reassembled e.arrivals := by
  have hrecorded : Recorded e := by
    refine hrun.invariant Recorded (fun a ha => ?_) fun _ _ _ he _ h => recorded_udpOnMessage he h
    rw [hstart] at ha
    exact absurd ha List.not_mem_nil
  exact reassembled_arrivals hrecorded hsends horderly

instance (earlier : List Arrival) (a : Arrival) : Decidable (p.Orderly earlier a) :=
  have : Decidable (Released a → ∀ g ∈ gathered a, ∃ m ∈ p.messages,
      (∀ g' ∈ gathered a, g'.msg_type = g.msg_type → g' ∈ p.fragments m) ∧
        ∀ g' ∈ p.fragments m, g' ∈ gathered a) := inferInstance
  have : Decidable (¬ Released a → a.fragment.fragment_length ≠ a.fragment.length →
      ∀ m ∈ p.messages, (∀ g ∈ p.fragments m, g = a.fragment ∨ ∃ b ∈ earlier, b.fragment = g) →
        ∃ b ∈ earlier, m ∈ b.passed) := inferInstance
  decidable_of_iff (_ ∧ _) ⟨fun h => ⟨h.1, h.2⟩, fun h => ⟨h.1, h.2⟩⟩

private def certificate : FragmentedHandshake := ⟨11, 3, 1, 0, [1, 2, 3]⟩

/-- One message of three bytes, cut into three fragments. -/
private def oneCertificate : PeerMessages where
  messages := [certificate]
  maxFragmentLength _ := 1
  whole m hm := by
    obtain rfl := List.mem_singleton.mp hm
    exact ⟨rfl, rfl⟩
  distinct := by decide
  positive _ _ := Nat.one_pos

/-- A datagram that carries fragments of the certificate. -/
private def datagramOf (indices : List ℕ) : Bytes :=
  ((indices.mapM fun i => (certificate.piece 1 i).serialize.bind fun fragment =>
    DtlsPlaintext.serialize ⟨22, (254, 253), 0, 0, fragment⟩).getD []).flatten

private lemma reachable_datagramOf {indices : List ℕ} {arrivals : List Arrival}
    (h : (udpOnMessage noPrimitives (fun _ s => s) (datagramOf indices) newEndpoint).map
      (fun e => e.arrivals) = some arrivals) :
    ∃ e, Reachable (fun e data => udpOnMessage noPrimitives (fun _ s => s) data e) newEndpoint e ∧
      e.arrivals = arrivals := by
  obtain ⟨e, he, harrivals⟩ := Option.map_eq_some_iff.mp h
  have hrun : Reachable (fun e data => udpOnMessage noPrimitives (fun _ s => s) data e) newEndpoint e :=
    Run.start.next trivial he
  exact ⟨e, hrun, harrivals⟩

/-- The certificate is passed on if its last fragment comes last. -/
theorem reassembled_oneCertificate : ∃ e,
    Reachable (fun e data => udpOnMessage noPrimitives (fun _ s => s) data e) newEndpoint e ∧
    e.arrivals.map (fun a => a.passed) = [[], [], [certificate]] ∧
    oneCertificate.Reassembled e.arrivals := by
  obtain ⟨e, hrun, harrivals⟩ := @reachable_datagramOf [1, 0, 2]
    [⟨[], certificate.piece 1 1, []⟩, ⟨[certificate.piece 1 1], certificate.piece 1 0, []⟩,
      ⟨[certificate.piece 1 1, certificate.piece 1 0], certificate.piece 1 2, [certificate]⟩]
    (by decide +kernel)
  refine ⟨e, hrun, by rw [harrivals]; rfl, reassembled rfl hrun ?_ ?_⟩
  · rw [harrivals]
    unfold Sends
    decide
  · rw [harrivals]
    intro i a ha
    have hi : i < 3 := (List.getElem?_eq_some_iff.mp ha).1
    interval_cases i <;> obtain rfl := Option.some.inj ha <;> decide

/-- If the middle fragment is lost, a message with a zero in its place is passed on, and if the first
fragment comes last, the message is never passed on. -/
theorem not_reassembled_oneCertificate :
    (∃ e, Reachable (fun e data => udpOnMessage noPrimitives (fun _ s => s) data e) newEndpoint e ∧
      e.arrivals.map (fun a => a.fragment) = [certificate.piece 1 0, certificate.piece 1 2] ∧
      e.arrivals.map (fun a => a.passed) = [[], [⟨11, 3, 1, 0, [1, 0, 3]⟩]] ∧
      ¬ oneCertificate.Reassembled e.arrivals) ∧
    ∃ e, Reachable (fun e data => udpOnMessage noPrimitives (fun _ s => s) data e) newEndpoint e ∧
      e.arrivals.map (fun a => a.fragment) =
        [certificate.piece 1 1, certificate.piece 1 2, certificate.piece 1 0] ∧
      ¬ oneCertificate.Reassembled e.arrivals := by
  constructor
  · obtain ⟨e, hrun, harrivals⟩ := @reachable_datagramOf [0, 2]
      [⟨[], certificate.piece 1 0, []⟩,
        ⟨[certificate.piece 1 0], certificate.piece 1 2, [⟨11, 3, 1, 0, [1, 0, 3]⟩]⟩]
      (by decide +kernel)
    refine ⟨e, hrun, by rw [harrivals]; rfl, by rw [harrivals]; rfl, fun h => ?_⟩
    rw [harrivals] at h
    have hsound := h.sound _ (List.mem_cons_of_mem _ (List.mem_singleton_self _)) _
      (List.mem_singleton_self _)
    revert hsound
    decide
  · obtain ⟨e, hrun, harrivals⟩ := @reachable_datagramOf [1, 2, 0]
      [⟨[], certificate.piece 1 1, []⟩,
        ⟨[certificate.piece 1 1], certificate.piece 1 2, [⟨11, 3, 1, 0, [0, 2, 3]⟩]⟩,
        ⟨[], certificate.piece 1 0, []⟩]
      (by decide +kernel)
    refine ⟨e, hrun, by rw [harrivals]; rfl, fun h => ?_⟩
    rw [harrivals] at h
    have hcomplete := h.complete certificate (List.mem_singleton_self _) (by decide)
    revert hcomplete
    decide

end PeerMessages

end Werift.Dtls
