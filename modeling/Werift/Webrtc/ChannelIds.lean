import Mathlib
import Werift.Lib.Transition
import Werift.Webrtc.DataChannelOpen

/-!
# The stream ids of data channels

Whatever happens to a transport, a channel that is not closed is registered under its id, and under nothing
else.  The ids that a transport assigns have the parity of its side, so that those of the two peers are different;
but nothing keeps them below 65535 when the ids of a side are used up (`peers_streamIds`).
-/

namespace Werift.Webrtc

namespace DataChannels

open Transition

namespace Transport

variable {t t' : Transport} {c d count dataChannelId : ℕ} {auto : ℕ → Prop} {items : List QueueItem}

/-- The ids up to 65534 of a side under which nothing is registered. -/
def freeIds (t : Transport) (dataChannelId : ℕ) : Finset ℕ :=
  (Finset.range 65535).filter fun k => k % 2 = dataChannelId ∧ (k : ℤ) ∉ t.dataChannels.keys

/-- The channels that get an id when these messages are sent. -/
def waiting (t : Transport) (items : List QueueItem) : Finset ℕ :=
  (items.map QueueItem.channel).toFinset.filter t.Waits

/-- **What is registered**: a channel under its id, and every channel that has an id and is not closed.  A channel
whose id has been assigned has one of the side, up to 65534. -/
structure Registered (t : Transport) (count dataChannelId : ℕ) (auto : ℕ → Prop) : Prop where
  key : ∀ (k : ℤ) (c : ℕ), t.dataChannels.get? k = some c → c < count ∧ ∃ id : ℕ, (id : ℤ) = k ∧
    (t.channels c).id = some id
  live : ∀ c < count, (t.channels c).readyState ≠ .closed → ∀ id, (t.channels c).id = some id →
    t.dataChannels.get? id = some c
  auto : ∀ c < count, auto c → ∀ id, (t.channels c).id = some id → id % 2 = dataChannelId ∧ id ≤ 65534

lemma mem_waiting : c ∈ t.waiting items ↔ (∃ item ∈ items, item.channel = c) ∧ t.Waits c := by
  rw [waiting, Finset.mem_filter, List.mem_toFinset, List.mem_map]

lemma waits_congr (hid : (t'.channels c).id = (t.channels c).id)
    (hreadyState : (t'.channels c).readyState = (t.channels c).readyState) : t'.Waits c ↔ t.Waits c := by
  rw [Waits, Waits, Channel.isClosing, Channel.isClosing, hid, hreadyState]

lemma Registered.same (h : t.Registered count dataChannelId auto) (hsame : Same t t') :
    t'.Registered count dataChannelId auto where
  key := fun k c hget => by
    rw [hsame.dataChannels] at hget
    rw [hsame.id]
    exact h.key k c hget
  live := fun c hc hopen id hid => by
    rw [hsame.readyState] at hopen
    rw [hsame.id] at hid
    rw [hsame.dataChannels]
    exact h.live c hc hopen id hid
  auto := fun c hc hauto id hid => h.auto c hc hauto id ((hsame.id c).symm.trans hid)

/-- The state of a channel may change if it is registered, was not closed, or is now. -/
lemma Registered.setReadyState (h : t.Registered count dataChannelId auto) (c : ℕ) (state : DCState)
    (hstate : state = .closed ∨ (t.channels c).readyState ≠ .closed ∨ ∃ k, t.dataChannels.get? k = some c) :
    (t.setReadyState c state).Registered count dataChannelId auto where
  key := fun k d hget => by
    rw [setReadyState_id]
    exact h.key k d hget
  live := fun d hd hopen id hid => by
    rw [setReadyState_id] at hid
    change t.dataChannels.get? id = some d
    by_cases hdc : d = c
    · subst hdc
      change (Function.update t.channels d _ d).readyState ≠ _ at hopen
      rw [Function.update_self] at hopen
      rcases hstate with hclosed | hlive | ⟨k, hget⟩
      · exact absurd hclosed hopen
      · exact h.live d hd hlive id hid
      · obtain ⟨-, id', rfl, hid'⟩ := h.key k d hget
        rw [hid] at hid'
        rwa [Option.some.inj hid']
    · rw [setReadyState_channels hdc] at hopen
      exact h.live d hd hopen id hid
  auto := fun d hd hauto id hid => by
    rw [setReadyState_id] at hid
    exact h.auto d hd hauto id hid

lemma nextId_le_of_freeIds (hdataChannelId : dataChannelId < 2) (h : 0 < (t.freeIds dataChannelId).card) :
    t.nextId dataChannelId ≤ 65534 := by
  obtain ⟨k, hk⟩ := Finset.card_pos.mp h
  obtain ⟨hrange, hmod, hfree⟩ := Finset.mem_filter.mp hk
  have hlt := Finset.mem_range.mp hrange
  exact (nextId_le hfree (by omega) (by omega)).trans (by omega)

/-- One id less is free behind an assignment. -/
lemma card_freeIds_set (hkeys : t'.dataChannels = t.dataChannels.set (t.nextId dataChannelId) c) :
    (t.freeIds dataChannelId).card ≤ (t'.freeIds dataChannelId).card + 1 := by
  have hsubset : t.freeIds dataChannelId ⊆ insert (t.nextId dataChannelId) (t'.freeIds dataChannelId) := by
    intro k hk
    obtain ⟨hrange, hmod, hfree⟩ := Finset.mem_filter.mp hk
    rw [Finset.mem_insert]
    by_cases heq : k = t.nextId dataChannelId
    · exact .inl heq
    · refine .inr (Finset.mem_filter.mpr ⟨hrange, hmod, ?_⟩)
      rw [hkeys, Js.IndexObject.mem_keys_set, not_or]
      exact ⟨fun hcast => heq (by exact_mod_cast hcast), hfree⟩
  exact (Finset.card_le_card hsubset).trans (Finset.card_insert_le _ _)

lemma flushItem_channels (dataChannelId : ℕ) {item : QueueItem} (hwaits : t.Waits item.channel) :
    ((t.flushItem dataChannelId item).channels item.channel).id = some (t.nextId dataChannelId) ∧
      ∀ d ≠ item.channel, (t.flushItem dataChannelId item).channels d = t.channels d := by
  rw [(flushItem_of_waits _ hwaits).2]
  refine ⟨?_, fun d hd => Function.update_of_ne hd _ _⟩
  change (Function.update t.channels item.channel _ item.channel).id = _
  rw [Function.update_self]

/-- **A message is sent**: its channel gets an id if it has none. -/
lemma Registered.flushItem (h : t.Registered count dataChannelId auto) (hdataChannelId : dataChannelId < 2)
    {item : QueueItem} (hitem : item.channel < count)
    (hfree : t.Waits item.channel → 0 < (t.freeIds dataChannelId).card) :
    (t.flushItem dataChannelId item).Registered count dataChannelId auto := by
  by_cases hwaits : t.Waits item.channel
  · have hkeys := (flushItem_of_waits dataChannelId hwaits).1
    have hnone := get?_nextId t dataChannelId
    obtain ⟨hself, hother⟩ := flushItem_channels dataChannelId hwaits
    refine ⟨fun k d hget => ?_, fun d hd hopen id hid => ?_, fun d hd hauto id hid => ?_⟩
    · rw [hkeys, Js.IndexObject.get?_set] at hget
      split_ifs at hget with hk
      · obtain rfl := Option.some.inj hget
        exact ⟨hitem, _, hk.symm, hself⟩
      · obtain ⟨hd, id, hcast, hid⟩ := h.key k d hget
        have hne : d ≠ item.channel := by
          rintro rfl
          rw [hwaits.2] at hid
          cases hid
        exact ⟨hd, id, hcast, (congrArg Channel.id (hother d hne)).trans hid⟩
    · rw [hkeys, Js.IndexObject.get?_set]
      by_cases hdc : d = item.channel
      · subst hdc
        rw [hself] at hid
        rw [Option.some.inj hid, if_pos rfl]
      · rw [hother d hdc] at hopen hid
        have hget := h.live d hd hopen id hid
        rw [if_neg, hget]
        rintro hcast
        rw [hcast, hnone] at hget
        cases hget
    · by_cases hdc : d = item.channel
      · subst hdc
        rw [hself] at hid
        obtain rfl := Option.some.inj hid
        exact ⟨nextId_mod.trans (Nat.mod_eq_of_lt hdataChannelId),
          nextId_le_of_freeIds hdataChannelId (hfree hwaits)⟩
      · rw [hother d hdc] at hid
        exact h.auto d hd hauto id hid
  · exact h.same (flushItem_same hwaits)

/-- **The queue is flushed.** -/
lemma Registered.foldl (h : t.Registered count dataChannelId auto) (hdataChannelId : dataChannelId < 2)
    (items : List QueueItem) (hitems : ∀ item ∈ items, item.channel < count)
    (hfree : (t.waiting items).card ≤ (t.freeIds dataChannelId).card) :
    (items.foldl (fun t item => t.flushItem dataChannelId item) t).Registered count dataChannelId auto := by
  induction items generalizing t with
  | nil => exact h
  | cons item items ih =>
    have hmem : t.Waits item.channel → item.channel ∈ t.waiting (item :: items) := fun hwaits =>
      mem_waiting.mpr ⟨⟨item, List.mem_cons_self, rfl⟩, hwaits⟩
    have hfirst := h.flushItem hdataChannelId (hitems item List.mem_cons_self)
      fun hwaits => (Finset.card_pos.mpr ⟨_, hmem hwaits⟩).trans_le hfree
    rw [List.foldl_cons]
    refine ih hfirst (fun other hother => hitems other (List.mem_cons_of_mem _ hother)) ?_
    by_cases hwaits : t.Waits item.channel
    · -- One channel less waits, and one id less is free.
      have hkeys := (flushItem_of_waits dataChannelId hwaits).1
      obtain ⟨hself, hothers⟩ := flushItem_channels dataChannelId hwaits
      have hsubset : (t.flushItem dataChannelId item).waiting items ⊆
          (t.waiting (item :: items)).erase item.channel := by
        intro d hd
        obtain ⟨⟨other, hother, rfl⟩, hd⟩ := mem_waiting.mp hd
        have hne : other.channel ≠ item.channel := by
          intro heq
          have hid := hd.2
          rw [heq, hself] at hid
          cases hid
        rw [Waits, hothers _ hne] at hd
        exact Finset.mem_erase.mpr ⟨hne, mem_waiting.mpr ⟨⟨other, List.mem_cons_of_mem _ hother, rfl⟩, hd⟩⟩
      have hcard := Finset.card_le_card hsubset
      rw [Finset.card_erase_of_mem (hmem hwaits)] at hcard
      have hless := card_freeIds_set hkeys
      omega
    · have hsame : Same t (t.flushItem dataChannelId item) := flushItem_same hwaits
      have hsubset : (t.flushItem dataChannelId item).waiting items ⊆ t.waiting (item :: items) := by
        intro d hd
        obtain ⟨⟨other, hother, rfl⟩, hd⟩ := mem_waiting.mp hd
        exact mem_waiting.mpr ⟨⟨other, List.mem_cons_of_mem _ hother, rfl⟩,
          (waits_congr (hsame.id _) (hsame.readyState _)).mp hd⟩
      refine (Finset.card_le_card hsubset).trans (hfree.trans_eq ?_)
      rw [freeIds, freeIds, hsame.dataChannels]

/-- What holds of a transport on one side, except that its queue may be full. -/
structure Ready (t : Transport) (count side : ℕ) (auto : ℕ → Prop) : Prop where
  registered : t.Registered count side auto
  isServer : (if t.isServer then 0 else 1) = side
  dataChannelId : ∀ id, t.dataChannelId = some id → id = side
  queue : ∀ item ∈ t.dataChannelQueue, item.channel < count

/-- **The invariant**: nothing waits in the queue of an established association. -/
structure Kept (t : Transport) (count side : ℕ) (auto : ℕ → Prop) : Prop extends Ready t count side auto where
  flushed : t.established = true → t.dataChannelQueue = []

variable {side : ℕ}

lemma Ready.side_lt (h : t.Ready count side auto) : side < 2 := by
  rw [← h.isServer]
  split_ifs <;> decide

/-- What a round of the flush leaves alone. -/
lemma flushItem_frame (dataChannelId : ℕ) (t : Transport) (item : QueueItem) :
    (t.flushItem dataChannelId item).isServer = t.isServer ∧
      (t.flushItem dataChannelId item).dataChannelId = t.dataChannelId ∧
      (t.flushItem dataChannelId item).dataChannelQueue = t.dataChannelQueue ∧
      (t.flushItem dataChannelId item).established = t.established := by
  rw [Transport.flushItem]
  by_cases hclosing : (t.channels item.channel).isClosing
  · rw [if_pos hclosing]
    split_ifs <;> exact ⟨rfl, rfl, rfl, rfl⟩
  · rw [if_neg hclosing]
    cases hid : (t.channels item.channel).id with
    | none =>
      rw [assignId_of_none hid]
      exact ⟨rfl, rfl, rfl, rfl⟩
    | some id =>
      rw [assignId_of_some hid]
      exact ⟨rfl, rfl, rfl, rfl⟩

lemma foldl_flushItem_frame (dataChannelId : ℕ) (items : List QueueItem) (t : Transport) :
    (items.foldl (fun t item => t.flushItem dataChannelId item) t).isServer = t.isServer ∧
      (items.foldl (fun t item => t.flushItem dataChannelId item) t).dataChannelId = t.dataChannelId ∧
      (items.foldl (fun t item => t.flushItem dataChannelId item) t).dataChannelQueue = t.dataChannelQueue := by
  induction items generalizing t with
  | nil => exact ⟨rfl, rfl, rfl⟩
  | cons item items ih =>
    obtain ⟨hserver, hid, hqueue, -⟩ := flushItem_frame dataChannelId t item
    obtain ⟨hserver', hid', hqueue'⟩ := ih (t.flushItem dataChannelId item)
    exact ⟨hserver'.trans hserver, hid'.trans hid, hqueue'.trans hqueue⟩

/-- **Flushing the queue.** -/
lemma Ready.dataChannelFlush (h : t.Ready count side auto)
    (hfree : t.established = true → (t.waiting t.dataChannelQueue).card ≤ (t.freeIds side).card) :
    t.dataChannelFlush.Kept count side auto := by
  rw [Transport.dataChannelFlush]
  by_cases hestablished : t.established = true
  · have hside : t.dataChannelId.getD (if t.isServer = true then 0 else 1) = side := by
      cases hid : t.dataChannelId with
      | none => exact h.isServer
      | some id => exact h.dataChannelId id hid
    rw [if_pos hestablished, hside]
    obtain ⟨hserver, hid, hqueue⟩ := foldl_flushItem_frame side t.dataChannelQueue
      { t with dataChannelId := some side, dataChannelQueue := [] }
    have hstart : ({ t with dataChannelId := some side, dataChannelQueue := [] } : Transport).Registered count side
        auto := ⟨h.registered.key, h.registered.live, h.registered.auto⟩
    refine ⟨⟨hstart.foldl h.side_lt _ h.queue (hfree hestablished), ?_, ?_, ?_⟩, fun _ => hqueue⟩
    · rw [hserver]
      exact h.isServer
    · intro id hsome
      rw [hid] at hsome
      exact (Option.some.inj hsome).symm
    · intro item hitem
      rw [hqueue] at hitem
      cases hitem
  · rw [if_neg hestablished]
    exact ⟨h, fun hestablished' => absurd hestablished' hestablished⟩

/-- **A message is queued.** -/
lemma Kept.push (h : t.Kept count side auto) (item : QueueItem) (hitem : item.channel < count)
    (hfree : t.established = true → t.Waits item.channel → 0 < (t.freeIds side).card) :
    ({ t with dataChannelQueue := t.dataChannelQueue ++ [item] } : Transport).dataChannelFlush.Kept count side
      auto := by
  refine Ready.dataChannelFlush ⟨⟨h.registered.key, h.registered.live, h.registered.auto⟩, h.isServer,
    h.dataChannelId, ?_⟩ fun hestablished => ?_
  · intro other hother
    rcases List.mem_append.mp hother with hold | hlast
    · exact h.queue other hold
    · rwa [List.mem_singleton.mp hlast]
  · change (t.waiting (t.dataChannelQueue ++ [item])).card ≤ (t.freeIds side).card
    rw [h.flushed hestablished, List.nil_append]
    have hsingle : t.waiting [item] ⊆ {item.channel} := by
      intro d hd
      obtain ⟨⟨other, hother, rfl⟩, -⟩ := mem_waiting.mp hd
      rw [List.mem_singleton.mp hother]
      exact Finset.mem_singleton_self _
    by_cases hwaits : t.Waits item.channel
    · exact (Finset.card_le_card hsingle).trans (hfree hestablished hwaits)
    · have hnone : t.waiting [item] = ∅ := by
        refine Finset.eq_empty_of_forall_notMem fun d hd => hwaits ?_
        obtain rfl := Finset.mem_singleton.mp (hsingle hd)
        exact (mem_waiting.mp hd).2
      rw [hnone]
      exact Nat.zero_le _

/-- A change of what does not matter here. -/
lemma Ready.of_same (h : t.Ready count side auto) (hsame : Same t t') (hserver : t'.isServer = t.isServer)
    (hid : t'.dataChannelId = t.dataChannelId) (hqueue : ∀ item ∈ t'.dataChannelQueue, item ∈ t.dataChannelQueue) :
    t'.Ready count side auto where
  registered := h.registered.same hsame
  isServer := hserver ▸ h.isServer
  dataChannelId := hid ▸ h.dataChannelId
  queue := fun item hitem => h.queue item (hqueue item hitem)

lemma Kept.setReadyState (h : t.Kept count side auto) (c : ℕ) (state : DCState)
    (hstate : state = .closed ∨ (t.channels c).readyState ≠ .closed ∨ ∃ k, t.dataChannels.get? k = some c) :
    (t.setReadyState c state).Kept count side auto :=
  ⟨⟨h.registered.setReadyState c state hstate, h.isServer, h.dataChannelId, h.queue⟩, h.flushed⟩

/-! ## The calls and the callbacks -/

/-- `datachannelSend(channel, data)`. -/
lemma Kept.datachannelSend (h : t.Kept count side auto) (hc : c < count) (protocol : ℕ) (userData : Bytes)
    (hfree : t.established = true → t.Waits c → 0 < (t.freeIds side).card) :
    (t.datachannelSend c protocol userData).Kept count side auto := by
  have hsame : Same t (t.modify c fun channel =>
      { channel with bufferedAmount := channel.bufferedAmount + userData.length }) :=
    same_modify (fun _ => rfl) fun _ => rfl
  have hkept := h.toReady.of_same hsame rfl rfl fun _ hitem => hitem
  refine Kept.push ⟨hkept, h.flushed⟩ _ hc fun hestablished hwaits => ?_
  exact hfree hestablished ((waits_congr (hsame.id c) (hsame.readyState c)).mp hwaits)

/-- The channels that are registered leave the table when the association is closed. -/
def closed (t : Transport) : Transport :=
  { t.dataChannels.values.foldl (fun t c => t.setReadyState c .closed) t with
    dataChannels := .empty, established := false }

/-- The subscriber of `onReconfigStreams`, for one id. -/
def resetStream (t : Transport) (id : ℕ) : Transport :=
  match t.dataChannels.get? id with
  | none => t
  | some c =>
    let t := (t.setReadyState c .closing).setReadyState c .closed
    { t with dataChannels := t.dataChannels.delete id }

/-- One message that has not been sent when the transport stops: it is discarded, unless it announces a channel
that lives. -/
def discardItem (t : Transport) (item : QueueItem) : Transport :=
  if item.protocol ≠ WEBRTC_DCEP then
    t.modify item.channel fun channel =>
      { channel with bufferedAmount := channel.bufferedAmount - item.userData.length }
  else if (item.userData.headD 0).toNat = DATA_CHANNEL_OPEN ∧ ¬(t.channels item.channel).isClosing then
    { t with dataChannelQueue := t.dataChannelQueue ++ [item] }
  else t

/-- `discardUnsentMessages()`. -/
def discardUnsentMessages (t : Transport) : Transport :=
  t.dataChannelQueue.foldl discardItem { t with dataChannelQueue := [] }

lemma readyState_setReadyState (t : Transport) (c : ℕ) (state : DCState) :
    ((t.setReadyState c state).channels c).readyState = state := by
  change (Function.update t.channels c _ c).readyState = state
  rw [Function.update_self]

/-- Channels are closed one after the other. -/
lemma foldl_setReadyState (channels : List ℕ) (t : Transport) (state : DCState) :
    (channels.foldl (fun t c => t.setReadyState c state) t).dataChannels = t.dataChannels ∧
      ∀ d, ((channels.foldl (fun t c => t.setReadyState c state) t).channels d).id = (t.channels d).id ∧
        ((channels.foldl (fun t c => t.setReadyState c state) t).channels d).readyState =
          if d ∈ channels then state else (t.channels d).readyState := by
  induction channels generalizing t with
  | nil => exact ⟨rfl, fun d => ⟨rfl, rfl⟩⟩
  | cons c channels ih =>
    obtain ⟨hkeys, hchannels⟩ := ih (t.setReadyState c state)
    refine ⟨hkeys, fun d => ⟨(hchannels d).1.trans (setReadyState_id d state), (hchannels d).2.trans ?_⟩⟩
    by_cases hd : d ∈ channels
    · rw [if_pos hd, if_pos (List.mem_cons_of_mem _ hd)]
    · rw [if_neg hd]
      by_cases hdc : d = c
      · subst hdc
        rw [if_pos List.mem_cons_self, readyState_setReadyState]
      · rw [setReadyState_channels hdc, if_neg (List.not_mem_cons_of_ne_of_not_mem hdc hd)]

lemma foldl_setReadyState_frame (channels : List ℕ) (t : Transport) (state : DCState) :
    (channels.foldl (fun t c => t.setReadyState c state) t).isServer = t.isServer ∧
      (channels.foldl (fun t c => t.setReadyState c state) t).dataChannelId = t.dataChannelId ∧
      (channels.foldl (fun t c => t.setReadyState c state) t).dataChannelQueue = t.dataChannelQueue := by
  induction channels generalizing t with
  | nil => exact ⟨rfl, rfl, rfl⟩
  | cons c channels ih => exact ih (t.setReadyState c state)

/-- **The association is closed**: no channel that has an id is left. -/
lemma Kept.closed (h : t.Kept count side auto) : t.closed.Kept count side auto := by
  obtain ⟨-, hchannels⟩ := foldl_setReadyState t.dataChannels.values t .closed
  obtain ⟨hserver, hid, hqueue⟩ := foldl_setReadyState_frame t.dataChannels.values t .closed
  refine ⟨⟨⟨fun k c hget => ?_, fun c hc hopen id hsome => ?_, fun c hc hauto id hsome => ?_⟩, ?_, ?_, ?_⟩, ?_⟩
  · cases hget
  · change ((t.dataChannels.values.foldl _ t).channels c).readyState ≠ .closed at hopen
    change ((t.dataChannels.values.foldl _ t).channels c).id = some id at hsome
    rw [(hchannels c).2] at hopen
    rw [(hchannels c).1] at hsome
    by_cases hmem : c ∈ t.dataChannels.values
    · rw [if_pos hmem] at hopen
      exact absurd rfl hopen
    · rw [if_neg hmem] at hopen
      exact absurd (Js.IndexObject.mem_values.mpr ⟨_, h.registered.live c hc hopen id hsome⟩) hmem
  · exact h.registered.auto c hc hauto id ((hchannels c).1.symm.trans hsome)
  · exact (congrArg (fun b : Bool => if b = true then 0 else 1) hserver).trans h.isServer
  · intro id hsome
    exact h.dataChannelId id (hid.symm.trans hsome)
  · intro item hitem
    exact h.queue item (hqueue ▸ hitem)
  · exact fun hestablished => absurd hestablished Bool.false_ne_true

/-- A channel that is closed leaves the table. -/
lemma Registered.delete (h : t.Registered count side auto) {k : ℤ}
    (hclosed : ∀ c, t.dataChannels.get? k = some c → (t.channels c).readyState = .closed) :
    ({ t with dataChannels := t.dataChannels.delete k } : Transport).Registered count side auto where
  key := fun k' c hget => by
    rw [Js.IndexObject.get?_delete] at hget
    split_ifs at hget
    exact h.key k' c hget
  live := fun c hc hopen id hid => by
    have hget := h.live c hc hopen id hid
    rw [Js.IndexObject.get?_delete, if_neg]
    · exact hget
    · rintro rfl
      exact hopen (hclosed c hget)
  auto := h.auto

/-- **A stream is reset.** -/
lemma Kept.resetStream (h : t.Kept count side auto) (id : ℕ) : (t.resetStream id).Kept count side auto := by
  rw [Transport.resetStream]
  cases hget : t.dataChannels.get? id with
  | none => exact h
  | some c =>
    dsimp only
    have hclosing := h.setReadyState c .closing (.inr (.inr ⟨_, hget⟩))
    have hclosed := hclosing.setReadyState c .closed (.inl rfl)
    refine ⟨⟨hclosed.registered.delete fun d hd => ?_, hclosed.isServer, hclosed.dataChannelId, hclosed.queue⟩,
      hclosed.flushed⟩
    change t.dataChannels.get? id = some d at hd
    rw [hget] at hd
    rw [← Option.some.inj hd]
    exact readyState_setReadyState _ _ _

lemma Kept.foldl_resetStream (h : t.Kept count side auto) (ids : List ℕ) :
    (ids.foldl Transport.resetStream t).Kept count side auto := by
  induction ids generalizing t with
  | nil => exact h
  | cons id ids ih => exact ih (h.resetStream id)

/-- Which streams are going to be reset does not matter. -/
lemma Kept.of_reconfig (h : t.Kept count side auto) (hkeys : t'.dataChannels = t.dataChannels)
    (hchannels : t'.channels = t.channels) (hserver : t'.isServer = t.isServer)
    (hid : t'.dataChannelId = t.dataChannelId) (hqueue : t'.dataChannelQueue = t.dataChannelQueue)
    (hestablished : t'.established = t.established) : t'.Kept count side auto where
  registered := h.registered.same ⟨hkeys, fun d => by rw [hchannels], fun d => by rw [hchannels]⟩
  isServer := hserver ▸ h.isServer
  dataChannelId := hid ▸ h.dataChannelId
  queue := hqueue ▸ h.queue
  flushed := fun h' => hqueue.trans (h.flushed (hestablished.symm.trans h'))

lemma Kept.transmitReconfigRequest (h : t.Kept count side auto) :
    t.transmitReconfigRequest.Kept count side auto := by
  rw [Transport.transmitReconfigRequest]
  split_ifs
  · exact h.of_reconfig rfl rfl rfl rfl rfl rfl
  · exact h

/-- **`dataChannelClose(channel)`.** -/
lemma Kept.dataChannelClose (h : t.Kept count side auto) (hc : c < count) :
    (t.dataChannelClose c).Kept count side auto := by
  rw [Transport.dataChannelClose]
  by_cases hclosing : (t.channels c).isClosing
  · rwa [if_pos hclosing]
  rw [if_neg hclosing]
  dsimp only
  have hlive : (t.channels c).readyState ≠ .closed := fun hclosed => hclosing (.inr hclosed)
  have hfirst := h.setReadyState c .closing (.inr (.inl hlive))
  by_cases hestablished : (t.setReadyState c .closing).established = true
  · rw [if_pos hestablished]
    have hqueued : ∀ t' : Transport, t'.Kept count side auto →
        (if t'.reconfigQueue.length = 1 then t'.transmitReconfigRequest else t').Kept count side auto := by
      intro t' ht'
      split_ifs
      · exact ht'.transmitReconfigRequest
      · exact ht'
    apply hqueued
    split_ifs
    · exact hfirst
    · exact hfirst.of_reconfig rfl rfl rfl rfl rfl rfl
  · rw [if_neg hestablished]
    have hclosed := hfirst.setReadyState c .closed (.inl rfl)
    have hid : ((t.setReadyState c .closing).channels c).id = (t.channels c).id := setReadyState_id c _
    have hqueue : ∀ item ∈ t.dataChannelQueue.filter fun item =>
        ((t.setReadyState c .closing).channels item.channel).id ≠ ((t.setReadyState c .closing).channels c).id,
        item.channel < count := fun item hitem => h.queue item (List.mem_filter.mp hitem).1
    cases hsome : ((t.setReadyState c .closing).channels c).id with
    | none =>
      refine ⟨⟨⟨hclosed.registered.key, hclosed.registered.live, hclosed.registered.auto⟩, h.isServer,
        h.dataChannelId, hsome ▸ hqueue⟩, fun hestablished' => absurd hestablished' hestablished⟩
    | some id =>
      have hget := h.registered.live c hc hlive id (hid.symm.trans hsome)
      have hdelete := hclosed.registered.delete (k := id) fun d hd => by
        change t.dataChannels.get? id = some d at hd
        rw [hget] at hd
        rw [← Option.some.inj hd]
        exact readyState_setReadyState _ _ _
      exact ⟨⟨⟨hdelete.key, hdelete.live, hdelete.auto⟩, h.isServer, h.dataChannelId, hsome ▸ hqueue⟩,
        fun hestablished' => absurd hestablished' hestablished⟩

/-- What the subscriber of `stateChanged.connected` does to a channel. -/
def openNegotiated (t : Transport) (c : ℕ) : Transport :=
  if (t.channels c).negotiated = true ∧ (t.channels c).readyState ≠ .open then t.setReadyState c .open else t

/-- Registered channels are opened, which have ids. -/
lemma Kept.foldl_openNegotiated (channels : List ℕ) (h : t.Kept count side auto)
    (hregistered : ∀ c ∈ channels, ∃ k, t.dataChannels.get? k = some c) :
    (channels.foldl openNegotiated t).Kept count side auto ∧
      (channels.foldl openNegotiated t).dataChannels = t.dataChannels ∧
      (channels.foldl openNegotiated t).dataChannelQueue = t.dataChannelQueue ∧
      ∀ d, (channels.foldl openNegotiated t).Waits d → t.Waits d := by
  induction channels generalizing t with
  | nil => exact ⟨h, rfl, rfl, fun _ hd => hd⟩
  | cons c channels ih =>
    obtain ⟨k, hget⟩ := hregistered c List.mem_cons_self
    have hstep : (openNegotiated t c).Kept count side auto ∧ (openNegotiated t c).dataChannels = t.dataChannels ∧
        (openNegotiated t c).dataChannelQueue = t.dataChannelQueue ∧
        ∀ d, (openNegotiated t c).Waits d → t.Waits d := by
      rw [openNegotiated]
      split_ifs
      · refine ⟨h.setReadyState c .open (.inr (.inr ⟨k, hget⟩)), rfl, rfl, fun d hd => ?_⟩
        by_cases hdc : d = c
        · obtain ⟨-, id, -, hid⟩ := h.registered.key k c hget
          have hnone := hd.2
          rw [setReadyState_id, hdc, hid] at hnone
          cases hnone
        · rwa [Waits, setReadyState_channels hdc] at hd
      · exact ⟨h, rfl, rfl, fun _ hd => hd⟩
    obtain ⟨hkept, hkeys, hqueue, hwaits⟩ := ih hstep.1 fun d hd => by
      rw [hstep.2.1]
      exact hregistered d (List.mem_cons_of_mem _ hd)
    exact ⟨hkept, hkeys.trans hstep.2.1, hqueue.trans hstep.2.2.1, fun d hd => hstep.2.2.2 d (hwaits d hd)⟩

/-- **The association is established.** -/
lemma Kept.connected (h : t.Kept count side auto)
    (hfree : (t.waiting t.dataChannelQueue).card ≤ (t.freeIds side).card) : t.connected.Kept count side auto := by
  obtain ⟨hkept, hkeys, hqueue, hwaits⟩ := h.foldl_openNegotiated t.dataChannels.values
    fun c hc => Js.IndexObject.mem_values.mp hc
  have hready := hkept.toReady
  refine Ready.dataChannelFlush (t := { t.dataChannels.values.foldl openNegotiated t with established := true })
    ⟨⟨hready.registered.key, hready.registered.live, hready.registered.auto⟩, hready.isServer,
      hready.dataChannelId, hready.queue⟩ fun _ => ?_
  refine le_trans (Finset.card_le_card fun d hd => ?_) (hfree.trans_eq ?_)
  · obtain ⟨⟨item, hitem, rfl⟩, hd⟩ := mem_waiting.mp hd
    exact mem_waiting.mpr ⟨⟨item, hqueue ▸ hitem, rfl⟩, hwaits _ hd⟩
  · rw [freeIds, freeIds, hkeys]

/-- Messages are discarded. -/
lemma Ready.foldl_discardItem (items : List QueueItem) (h : t.Ready count side auto)
    (hitems : ∀ item ∈ items, item.channel < count) :
    (items.foldl discardItem t).Ready count side auto ∧
      (items.foldl discardItem t).established = t.established := by
  induction items generalizing t with
  | nil => exact ⟨h, rfl⟩
  | cons item items ih =>
    have hstep : (discardItem t item).Ready count side auto ∧ (discardItem t item).established = t.established := by
      rw [discardItem]
      split_ifs
      · exact ⟨h.of_same (same_modify (fun _ => rfl) fun _ => rfl) rfl rfl fun _ hitem => hitem, rfl⟩
      · refine ⟨⟨⟨h.registered.key, h.registered.live, h.registered.auto⟩, h.isServer, h.dataChannelId, ?_⟩, rfl⟩
        intro other hother
        rcases List.mem_append.mp hother with hold | hlast
        · exact h.queue other hold
        · rw [List.mem_singleton.mp hlast]
          exact hitems item List.mem_cons_self
      · exact ⟨h, rfl⟩
    obtain ⟨hready, hestablished⟩ := ih hstep.1 fun other hother => hitems other (List.mem_cons_of_mem _ hother)
    exact ⟨hready, hestablished.trans hstep.2⟩

lemma Kept.discardUnsentMessages (h : t.Kept count side auto) : t.discardUnsentMessages.Kept count side auto := by
  have hstart : ({ t with dataChannelQueue := [] } : Transport).Ready count side auto :=
    h.toReady.of_same ⟨rfl, fun _ => rfl, fun _ => rfl⟩ rfl rfl fun item hitem => by cases hitem
  obtain ⟨hready, hestablished⟩ := hstart.foldl_discardItem t.dataChannelQueue h.queue
  refine ⟨hready, fun hestablished' => ?_⟩
  rw [Transport.discardUnsentMessages, h.flushed (hestablished.symm.trans hestablished')]
  rfl

/-- **A new channel**, registered under its id if it has one. -/
lemma Kept.add (h : t.Kept count side auto) (channel : Channel) {auto' : ℕ → Prop}
    (hold : ∀ c < count, auto' c → auto c) (hnew : auto' count → channel.id = none)
    (hfree : ∀ id, channel.id = some id → t.dataChannels.get? id = none) :
    ({ t.modify count fun _ => channel with
      dataChannels := channel.id.elim t.dataChannels fun id => t.dataChannels.set id count } :
        Transport).Kept (count + 1) side auto' := by
  have hself : ((t.modify count fun _ => channel).channels count) = channel := Function.update_self ..
  have hother : ∀ d < count, (t.modify count fun _ => channel).channels d = t.channels d :=
    fun d hd => Function.update_of_ne (by omega) _ _
  refine ⟨⟨⟨fun k c hget => ?_, fun c hc hopen id hid => ?_, fun c hc hauto id hid => ?_⟩, h.isServer,
    h.dataChannelId, fun item hitem => Nat.lt_succ_of_lt (h.queue item hitem)⟩, h.flushed⟩
  · have hget' : (channel.id = some k.toNat ∧ 0 ≤ k ∧ c = count) ∨ t.dataChannels.get? k = some c := by
      cases hid : channel.id with
      | none =>
        rw [hid] at hget
        exact .inr hget
      | some id =>
        rw [hid] at hget
        change (t.dataChannels.set id count).get? k = some c at hget
        rw [Js.IndexObject.get?_set] at hget
        split_ifs at hget with hk
        · rw [hk]
          exact .inl ⟨rfl, Int.natCast_nonneg id, (Option.some.inj hget).symm⟩
        · exact .inr hget
    rcases hget' with ⟨hid, hk, rfl⟩ | hget'
    · refine ⟨Nat.lt_succ_self _, k.toNat, Int.toNat_of_nonneg hk, ?_⟩
      exact (congrArg Channel.id hself).trans hid
    · obtain ⟨hc, id, hcast, hid⟩ := h.registered.key k c hget'
      exact ⟨Nat.lt_succ_of_lt hc, id, hcast, (congrArg Channel.id (hother c hc)).trans hid⟩
  · rcases Nat.lt_succ_iff_lt_or_eq.mp hc with hlt | rfl
    · change ((t.modify count fun _ => channel).channels c).readyState ≠ _ at hopen
      change ((t.modify count fun _ => channel).channels c).id = _ at hid
      rw [hother c hlt] at hopen hid
      have hget := h.registered.live c hlt hopen id hid
      cases hnew' : channel.id with
      | none => exact hget
      | some id' =>
        change (t.dataChannels.set id' count).get? id = some c
        rw [Js.IndexObject.get?_set, if_neg, hget]
        intro hcast
        rw [hcast, hfree id' hnew'] at hget
        cases hget
    · change ((t.modify c fun _ => channel).channels c).id = _ at hid
      rw [hself] at hid
      change (channel.id.elim t.dataChannels fun id => t.dataChannels.set id c).get? id = some c
      rw [hid, Option.elim_some, Js.IndexObject.get?_set, if_pos rfl]
  · rcases Nat.lt_succ_iff_lt_or_eq.mp hc with hlt | rfl
    · change ((t.modify count fun _ => channel).channels c).id = _ at hid
      rw [hother c hlt] at hid
      exact h.registered.auto c hlt (hold c hlt hauto) id hid
    · change ((t.modify c fun _ => channel).channels c).id = _ at hid
      rw [hself, hnew hauto] at hid
      cases hid

end Transport

namespace RTCSctpTransport

/-- `coerceUnsignedShortOption(value, name)`, of a natural number. -/
def coerceUnsignedShortOption (value : Option ℕ) (name : String) : Except String Unit :=
  match value with
  | some value => if value > 65535 then .error s!"{name} must be an unsigned short" else .ok ()
  | none => .ok ()

/-- `createDataChannel(label, options)` of the manager, on its transport. -/
def createDataChannel (s : RTCSctpTransport) (parameters : RTCDataChannelParameters) :
    Except String RTCSctpTransport := do
  coerceUnsignedShortOption parameters.maxPacketLifeTime "maxPacketLifeTime"
  coerceUnsignedShortOption parameters.maxRetransmits "maxRetransmits"
  if parameters.maxPacketLifeTime.isSome ∧ parameters.maxRetransmits.isSome then
    .error "maxPacketLifeTime and maxRetransmits cannot both be set"
  else s.construct parameters true

/-- What happens to a transport.  What is received may be anything. -/
inductive Event
  | createDataChannel (parameters : RTCDataChannelParameters)
  | send (c protocol : ℕ) (userData : Bytes)
  | close (c : ℕ)
  | receive (streamId ppId : ℕ) (data : Bytes)
  | reconfigStreams (ids : List ℕ)
  | connected
  | closed
  | start
  | stop
  | setDtlsTransport

/-- A call that throws changes nothing. -/
def step (s : RTCSctpTransport) : Event → Option RTCSctpTransport
  | .createDataChannel parameters => (s.createDataChannel parameters).toOption
  | .send c protocol userData =>
    if c < s.count then some { s with transport := s.transport.datachannelSend c protocol userData } else none
  | .close c => if c < s.count then some { s with transport := s.transport.dataChannelClose c } else none
  | .receive streamId ppId data => (s.datachannelReceive streamId ppId data).toOption
  | .reconfigStreams ids => some { s with transport := ids.foldl Transport.resetStream s.transport }
  | .connected => some { s with transport := s.transport.connected }
  | .closed => some { s with transport := s.transport.closed }
  | .start => some { s with transport :=
      { s.transport with dataChannelId := some (if s.transport.isServer then 0 else 1) } }
  | .stop => some { s with transport := s.transport.discardUnsentMessages, stopped := true }
  | .setDtlsTransport => some { s with
      transport := { s.transport with established := false, reconfigQueue := [], reconfigRequest := none }
      stopped := false }

variable {s s' : RTCSctpTransport} {side : ℕ} {parameters : RTCDataChannelParameters}

/-- The invariant of a transport: the ids of the channels that have been created without one are assigned. -/
def Keeps (s : RTCSctpTransport) (side : ℕ) : Prop :=
  s.transport.Kept s.count side fun c => (s.parameters c).id = none

/-- The transport with a new channel, registered under its id if it has one. -/
def withChannel (s : RTCSctpTransport) (parameters : RTCDataChannelParameters) : RTCSctpTransport :=
  { s.add parameters with transport := { (s.add parameters).transport with
      dataChannels := parameters.id.elim s.transport.dataChannels fun id =>
        s.transport.dataChannels.set id s.count } }

lemma Keeps.withChannel (h : s.Keeps side) (hfree : ∀ id, parameters.id = some id → s.channel? id = none) :
    (s.withChannel parameters).Keeps side := by
  refine Transport.Kept.add h { id := parameters.id, negotiated := parameters.negotiated }
    (fun c hc hauto => ?_) (fun hauto => ?_) hfree
  · change (Function.update s.parameters s.count parameters c).id = none at hauto
    rwa [Function.update_of_ne (by omega)] at hauto
  · change (Function.update s.parameters s.count parameters s.count).id = none at hauto
    rwa [Function.update_self] at hauto

/-- The new channel. -/
lemma channels_withChannel (s : RTCSctpTransport) (parameters : RTCDataChannelParameters) :
    (s.withChannel parameters).transport.channels s.count =
      { id := parameters.id, negotiated := parameters.negotiated } := Function.update_self ..

/-- **A new channel is announced.** -/
lemma Keeps.dataChannelOpen (h : s.Keeps side) (hopen : (s.add parameters).dataChannelOpen s.count = .ok s')
    (hroom : s.transport.established = true → parameters.id = none → 0 < (s.transport.freeIds side).card) :
    s'.Keeps side := by
  have hid : ((s.add parameters).transport.channels s.count).id = parameters.id :=
    congrArg Channel.id (channels_withChannel s parameters)
  rw [RTCSctpTransport.dataChannelOpen] at hopen
  split_ifs at hopen with hregistered
  obtain ⟨send, -, hsent⟩ := Except.bind_eq_ok.mp hopen
  have hwith : (s.withChannel parameters).Keeps side := by
    refine h.withChannel fun id hsome => ?_
    rw [hid, hsome] at hregistered
    exact Option.not_isSome_iff_eq_none.mp hregistered
  have hpush := Transport.Kept.push hwith ⟨s.count, WEBRTC_DCEP, send⟩ (Nat.lt_succ_self _)
    fun hestablished hwaits => by
      have hnone : parameters.id = none :=
        (congrArg Channel.id (channels_withChannel s parameters)).symm.trans hwaits.2
      have hsame : (s.withChannel parameters).transport.freeIds side = s.transport.freeIds side := by
        rw [Transport.freeIds, Transport.freeIds, RTCSctpTransport.withChannel, hnone]
        rfl
      rw [hsame]
      exact hroom hestablished hnone
  rw [← Except.ok.inj hsent]
  have htransport : (s.add parameters).transport.dataChannelOpen s.count send = some
      ({ (s.withChannel parameters).transport with
        dataChannelQueue := (s.withChannel parameters).transport.dataChannelQueue ++
          [⟨s.count, WEBRTC_DCEP, send⟩] } : Transport).dataChannelFlush := by
    rw [Transport.dataChannelOpen, hid, RTCSctpTransport.withChannel]
    cases hsome : parameters.id with
    | none => rfl
    | some id =>
      rw [hid, hsome] at hregistered
      exact if_neg hregistered
  rw [htransport]
  exact hpush

/-- **A new channel.** -/
lemma Keeps.construct (h : s.Keeps side) (hconstruct : s.construct parameters true = .ok s')
    (hroom : s.transport.established = true → parameters.id = none → 0 < (s.transport.freeIds side).card) :
    s'.Keeps side := by
  rw [RTCSctpTransport.construct] at hconstruct
  obtain ⟨_, -, hconstruct⟩ := Except.bind_eq_ok.mp hconstruct
  by_cases hnegotiated : parameters.negotiated = true
  · rw [if_pos hnegotiated] at hconstruct
    cases hsome : parameters.id with
    | none =>
      rw [hsome] at hconstruct
      cases hconstruct
    | some id =>
      rw [hsome] at hconstruct
      dsimp only at hconstruct
      split_ifs at hconstruct
      rw [dataChannelAddNegotiated] at hconstruct
      split_ifs at hconstruct with hregistered
      have hwith : (s.withChannel parameters).Keeps side := by
        refine h.withChannel fun id' hsome' => ?_
        obtain rfl := Option.some.inj (hsome.symm.trans hsome')
        exact Option.not_isSome_iff_eq_none.mp hregistered
      have htransport : (s.withChannel parameters).transport = { (s.add parameters).transport with
          dataChannels := (s.add parameters).transport.dataChannels.set id s.count } := by
        rw [RTCSctpTransport.withChannel, hsome]
        rfl
      rw [← Except.ok.inj hconstruct]
      rw [Keeps, htransport] at hwith
      split_ifs
      · refine Transport.Kept.setReadyState hwith _ _ (.inr (.inr ⟨(id : ℤ), ?_⟩))
        rw [Js.IndexObject.get?_set, if_pos rfl]
      · exact hwith
  · rw [if_neg hnegotiated, if_pos rfl] at hconstruct
    exact h.dataChannelOpen hconstruct hroom

/-- **A channel of the peer.** -/
lemma Keeps.register (h : s.Keeps side) {streamId : ℕ} (hfree : s.channel? streamId = none) (data : Bytes)
    (hregister : s.register streamId (parseOpen streamId data) = .ok s') : s'.Keeps side := by
  rw [register_eq _ rfl] at hregister
  obtain ⟨_, -, hregister⟩ := Except.bind_eq_ok.mp hregister
  have hwith : (s.withChannel (parseOpen streamId data)).Keeps side := by
    refine h.withChannel fun id hid => ?_
    rwa [← Option.some.inj hid]
  rw [← Except.ok.inj hregister]
  refine Transport.Kept.setReadyState hwith _ _ (.inr (.inl ?_))
  rw [channels_withChannel]
  exact nofun

lemma Keeps.acknowledge (h : s.Keeps side) (streamId : ℕ) : (s.acknowledge streamId).Keeps side := by
  rw [RTCSctpTransport.acknowledge]
  cases hget : s.channel? streamId with
  | none => exact h
  | some c =>
    obtain ⟨hc, id, -, hid⟩ := h.registered.key _ c hget
    refine Transport.Kept.push h _ hc fun _ hwaits => ?_
    have hnone := hwaits.2
    rw [hid] at hnone
    cases hnone

lemma Keeps.datachannelReceive (h : s.Keeps side) {streamId ppId : ℕ} {data : Bytes}
    (hreceive : s.datachannelReceive streamId ppId data = .ok s') : s'.Keeps side := by
  rw [RTCSctpTransport.datachannelReceive] at hreceive
  split_ifs at hreceive with hstopped hdcep hopen hlength hregistered hack hother
  · rwa [← Except.ok.inj hreceive]
  · rwa [← Except.ok.inj hreceive]
  · -- The message has come again.
    rw [← Except.ok.inj hreceive]
    exact h.acknowledge streamId
  · obtain ⟨s₁, hregister, hreceive⟩ := Except.bind_eq_ok.mp hreceive
    rw [← Except.ok.inj hreceive]
    exact (h.register (Option.not_isSome_iff_eq_none.mp hregistered) data hregister).acknowledge streamId
  · cases hget : s.channel? streamId with
    | none =>
      rw [hget] at hreceive
      cases hreceive
    | some c =>
      rw [hget] at hreceive
      rw [← Except.ok.inj hreceive]
      exact Transport.Kept.setReadyState h _ _ (.inr (.inr ⟨_, hget⟩))
  · rwa [← Except.ok.inj hreceive]
  · rwa [← Except.ok.inj hreceive]

/-- **Ids are left**: for all channels that get an id in the step, there are ids up to 65534 of the side. -/
def Room (s : RTCSctpTransport) (side : ℕ) : Event → Prop
  | .createDataChannel parameters =>
    s.transport.established = true → parameters.id = none → 0 < (s.transport.freeIds side).card
  | .send c _ _ => s.transport.established = true → s.transport.Waits c → 0 < (s.transport.freeIds side).card
  | .connected => (s.transport.waiting s.transport.dataChannelQueue).card ≤ (s.transport.freeIds side).card
  | _ => True

/-- **Every event keeps the invariant**, if ids are left. -/
lemma Keeps.step (h : s.Keeps side) {event : Event} (hroom : s.Room side event) (hstep : s.step event = some s') :
    s'.Keeps side := by
  cases event with
  | createDataChannel parameters =>
    have hcreate := Except.toOption_eq_some.mp hstep
    rw [RTCSctpTransport.createDataChannel] at hcreate
    obtain ⟨_, -, hcreate⟩ := Except.bind_eq_ok.mp hcreate
    obtain ⟨_, -, hcreate⟩ := Except.bind_eq_ok.mp hcreate
    split_ifs at hcreate
    exact h.construct hcreate hroom
  | send c protocol userData =>
    obtain ⟨hc, hstate⟩ := Option.ite_none_right_eq_some.mp hstep
    rw [← Option.some.inj hstate]
    exact Transport.Kept.datachannelSend h hc protocol userData hroom
  | close c =>
    obtain ⟨hc, hstate⟩ := Option.ite_none_right_eq_some.mp hstep
    rw [← Option.some.inj hstate]
    exact Transport.Kept.dataChannelClose h hc
  | receive streamId ppId data => exact h.datachannelReceive (Except.toOption_eq_some.mp hstep)
  | reconfigStreams ids =>
    rw [← Option.some.inj hstep]
    exact Transport.Kept.foldl_resetStream h ids
  | connected =>
    rw [← Option.some.inj hstep]
    exact Transport.Kept.connected h hroom
  | closed =>
    rw [← Option.some.inj hstep]
    exact Transport.Kept.closed h
  | start =>
    rw [← Option.some.inj hstep]
    exact ⟨⟨⟨h.registered.key, h.registered.live, h.registered.auto⟩, h.isServer, fun id hid =>
      (Option.some.inj hid).symm.trans h.isServer, h.queue⟩, h.flushed⟩
  | stop =>
    rw [← Option.some.inj hstep]
    exact Transport.Kept.discardUnsentMessages h
  | setDtlsTransport =>
    rw [← Option.some.inj hstep]
    exact ⟨⟨⟨h.registered.key, h.registered.live, h.registered.auto⟩, h.isServer, h.dataChannelId, h.queue⟩,
      fun hestablished => absurd hestablished Bool.false_ne_true⟩

/-- A transport without channels, on one side. -/
def initial (isServer : Bool) : RTCSctpTransport := { transport := { channels := fun _ => {}, isServer } }

lemma keeps_initial (isServer : Bool) : (initial isServer).Keeps (if isServer then 0 else 1) where
  registered :=
    { key := fun _ _ hget => by cases hget
      live := fun c hc => absurd hc (Nat.not_lt_zero c)
      auto := fun c hc => absurd hc (Nat.not_lt_zero c) }
  isServer := rfl
  dataChannelId := fun _ hid => by cases hid
  queue := fun _ hitem => by cases hitem
  flushed := fun _ => rfl

/-- A channel that has been created without an id has this one. -/
def Assigned (s : RTCSctpTransport) (c id : ℕ) : Prop :=
  c < s.count ∧ (s.parameters c).id = none ∧ (s.transport.channels c).id = some id

/-- **The ids of the channels of a transport.** -/
structure StreamIds (s : RTCSctpTransport) (side : ℕ) : Prop where
  key : ∀ k c, s.transport.dataChannels.get? k = some c →
    ∃ id : ℕ, (id : ℤ) = k ∧ (s.transport.channels c).id = some id
  unique : ∀ c < s.count, ∀ d < s.count, (s.transport.channels c).readyState ≠ .closed →
    (s.transport.channels d).readyState ≠ .closed → ∀ id, (s.transport.channels c).id = some id →
    (s.transport.channels d).id = some id → c = d
  assigned : ∀ c id, s.Assigned c id → id % 2 = side ∧ id ≤ 65534

lemma Keeps.streamIds (h : s.Keeps side) : s.StreamIds side where
  key := fun k c hget => (h.registered.key k c hget).2
  unique := fun c hc d hd hopen hopen' id hid hid' =>
    Option.some.inj ((h.registered.live c hc hopen id hid).symm.trans (h.registered.live d hd hopen' id hid'))
  assigned := fun c id ⟨hc, hauto, hid⟩ => h.registered.auto c hc hauto id hid

/-! ## Two peers -/

/-- The transports of two peers, of which the left one is the server. -/
structure Peers where
  left : RTCSctpTransport := initial true
  right : RTCSctpTransport := initial false

namespace Peers

/-- What happens at one of the peers.  The messages that one of them receives are not only those of the other. -/
def step (peers : Peers) : Event ⊕ Event → Option Peers
  | .inl event => (peers.left.step event).map fun left => { peers with left }
  | .inr event => (peers.right.step event).map fun right => { peers with right }

/-- Ids are left where something happens. -/
def Room (peers : Peers) : Event ⊕ Event → Prop
  | .inl event => peers.left.Room 0 event
  | .inr event => peers.right.Room 1 event

/-- **The ids of two peers**, in every run in which their ids are not used up. -/
theorem run_streamIds {peers : Peers} (h : Run step Room {} peers) :
    peers.left.StreamIds 0 ∧ peers.right.StreamIds 1 ∧
      ∀ c d id id', peers.left.Assigned c id → peers.right.Assigned d id' → id ≠ id' := by
  have hkeeps : peers.left.Keeps 0 ∧ peers.right.Keeps 1 := by
    refine h.invariant (fun peers => peers.left.Keeps 0 ∧ peers.right.Keeps 1)
      ⟨keeps_initial true, keeps_initial false⟩ ?_
    rintro peers (event | event) peers' ⟨hleft, hright⟩ hroom hstep
    · obtain ⟨left, hstate, rfl⟩ := Option.map_eq_some_iff.mp hstep
      exact ⟨hleft.step hroom hstate, hright⟩
    · obtain ⟨right, hstate, rfl⟩ := Option.map_eq_some_iff.mp hstep
      exact ⟨hleft, hright.step hroom hstate⟩
  refine ⟨hkeeps.1.streamIds, hkeeps.2.streamIds, fun c d id id' hid hid' heq => ?_⟩
  have hparity := (hkeeps.1.streamIds.assigned c id hid).1
  have hparity' := (hkeeps.2.streamIds.assigned d id' hid').1
  omega

/-- The left peer creates a channel, and its association is established. -/
theorem run_streamIds_oneChannel : ∃ peers, Run step Room {} peers ∧ peers.left.Assigned 0 0 ∧
    peers.left.StreamIds 0 := by
  obtain ⟨created, hcreated⟩ : ∃ created, ({} : Peers).step (.inl (.createDataChannel {})) = some created :=
    ⟨_, rfl⟩
  have hfirst : Run step Room {} created := by
    refine Run.start.next (e := .inl (.createDataChannel {})) ?_ hcreated
    exact fun hestablished => absurd hestablished Bool.false_ne_true
  have hsecond : Run step Room {} { created with left := { created.left with
      transport := created.left.transport.connected } } := by
    refine hfirst.next (e := .inl .connected) ?_ rfl
    cases hcreated
    refine (Finset.card_filter_le _ _).trans ((List.toFinset_card_le _).trans (Finset.card_pos.mpr ⟨0, ?_⟩))
    exact Finset.mem_filter.mpr ⟨Finset.mem_range.mpr (by decide), rfl, List.not_mem_nil⟩
  refine ⟨_, hsecond, ?_, (run_streamIds hsecond).1⟩
  cases hcreated
  exact ⟨by decide, rfl, rfl⟩

end Peers

/-- The server has created `n` channels on an established association. -/
structure Filled (s : RTCSctpTransport) (n : ℕ) : Prop where
  established : s.transport.established = true
  count : s.count = n
  queue : s.transport.dataChannelQueue = []
  dataChannelId : s.transport.dataChannelId = some 0
  keys : ∀ k : ℕ, (k : ℤ) ∈ s.transport.dataChannels.keys ↔ ∃ i < n, k = 2 * i

/-- The ids go on. -/
lemma Filled.nextId_eq {n : ℕ} (h : s.Filled n) : s.transport.nextId 0 = 2 * n := by
  have hmod : s.transport.nextId 0 % 2 = 0 := Transport.nextId_mod
  have hfree : ((2 * n : ℕ) : ℤ) ∉ s.transport.dataChannels.keys := fun hmem => by
    obtain ⟨i, hi, heq⟩ := (h.keys _).mp hmem
    omega
  refine le_antisymm (Transport.nextId_le hfree (Nat.zero_le _) (Nat.mul_mod_right 2 n)) ?_
  by_contra hlt
  have hnot : (s.transport.nextId 0 : ℤ) ∉ s.transport.dataChannels.keys :=
    Transport.freeStreamId_not_mem (Nat.lt_succ_self _)
  exact hnot ((h.keys _).mpr ⟨s.transport.nextId 0 / 2, by omega, by omega⟩)

/-- **One more channel.** -/
lemma Filled.create {n : ℕ} (h : s.Filled n) :
    ∃ s', s.step (.createDataChannel {}) = some s' ∧ s'.Filled (n + 1) ∧ s'.Assigned n (2 * n) := by
  obtain ⟨message, hmessage⟩ : ∃ message, openMessage {} = .ok message := ⟨_, rfl⟩
  have hself : ((s.add {}).transport.channels s.count) = {} := Function.update_self ..
  have hparameters : (s.add {}).parameters s.count = {} := Function.update_self ..
  let item : QueueItem := ⟨s.count, WEBRTC_DCEP, message⟩
  let queued : Transport :=
    { (s.add {}).transport with dataChannelQueue := (s.add {}).transport.dataChannelQueue ++ [item] }
  have hopen : (s.add {}).dataChannelOpen s.count = .ok { s.add {} with transport := queued.dataChannelFlush } := by
    rw [RTCSctpTransport.dataChannelOpen, hself]
    dsimp only
    rw [Option.bind_none, if_neg (by decide), hparameters, hmessage, Except.ok_bind, Transport.dataChannelOpen,
      hself]
    rfl
  have hstep : s.step (.createDataChannel {}) = some { s.add {} with transport := queued.dataChannelFlush } := by
    rw [RTCSctpTransport.step, Except.toOption_eq_some]
    exact hopen
  -- The queue holds one message, whose channel gets the next id.
  let start : Transport := { queued with dataChannelId := some 0, dataChannelQueue := [] }
  have hflush : queued.dataChannelFlush = start.flushItem 0 item := by
    have hestablished : queued.established = true := h.established
    have hid : queued.dataChannelId = some 0 := h.dataChannelId
    have hqueue : queued.dataChannelQueue = [item] := by
      change s.transport.dataChannelQueue ++ _ = _
      rw [h.queue, List.nil_append]
    rw [Transport.dataChannelFlush, if_pos hestablished, hid, hqueue]
    rfl
  have hwaits : start.Waits item.channel := by
    change Transport.Waits (s.add {}).transport s.count
    rw [Transport.Waits, hself]
    exact ⟨by decide, rfl⟩
  have hnext : start.nextId 0 = 2 * n := h.nextId_eq
  have hkeys := (Transport.flushItem_of_waits 0 hwaits).1
  have hid := (Transport.flushItem_channels 0 hwaits).1
  obtain ⟨-, hdataChannelId, hqueue, hestablished⟩ := Transport.flushItem_frame 0 start item
  rw [hnext] at hkeys hid
  rw [hflush] at hstep
  refine ⟨_, hstep, ⟨hestablished.trans h.established, congrArg (· + 1) h.count, hqueue, hdataChannelId,
    fun k => ?_⟩, ?_, ?_, ?_⟩
  · change (k : ℤ) ∈ (start.flushItem 0 item).dataChannels.keys ↔ _
    rw [hkeys, Js.IndexObject.mem_keys_set]
    change _ ∨ (k : ℤ) ∈ s.transport.dataChannels.keys ↔ _
    rw [h.keys]
    constructor
    · rintro (heq | ⟨i, hi, rfl⟩)
      · exact ⟨n, Nat.lt_succ_self n, by exact_mod_cast heq⟩
      · exact ⟨i, Nat.lt_succ_of_lt hi, rfl⟩
    · rintro ⟨i, hi, rfl⟩
      rcases Nat.lt_succ_iff_lt_or_eq.mp hi with hlt | rfl
      · exact .inr ⟨i, hlt, rfl⟩
      · exact .inl rfl
  · rw [← h.count]
    exact Nat.lt_succ_self _
  · rw [← h.count]
    exact congrArg RTCDataChannelParameters.id hparameters
  · rw [← h.count]
    rw [← h.count] at hid
    exact hid

namespace Peers

/-- The server can create as many channels as it likes. -/
lemma exists_filled (n : ℕ) : ∃ peers, Reachable step {} peers ∧ peers.left.Filled n ∧
    (n ≠ 0 → peers.left.Assigned (n - 1) (2 * (n - 1))) := by
  induction n with
  | zero =>
    have hconnected : Reachable step {}
        { left := { initial true with transport := (initial true).transport.connected } } :=
      Run.start.next (e := .inl .connected) trivial rfl
    refine ⟨_, hconnected, ⟨rfl, rfl, rfl, rfl, fun k => ?_⟩, fun h => absurd rfl h⟩
    refine iff_of_false List.not_mem_nil ?_
    rintro ⟨i, hi, -⟩
    exact absurd hi (Nat.not_lt_zero i)
  | succ n ih =>
    obtain ⟨peers, hrun, hfilled, -⟩ := ih
    obtain ⟨left, hstep, hfilled', hassigned⟩ := hfilled.create
    refine ⟨{ peers with left }, ?_, hfilled', fun _ => hassigned⟩
    refine hrun.next (e := .inl (.createDataChannel {})) trivial ?_
    rw [step, hstep]
    rfl

/-- The server's 32769th channel gets the id 65536. -/
theorem not_streamIds_exhausted : ¬∀ peers, Reachable step {} peers → peers.left.StreamIds 0 := by
  intro h
  obtain ⟨peers, hrun, -, hassigned⟩ := exists_filled 32769
  have hid := ((h peers hrun).assigned _ _ (hassigned (by decide))).2
  omega

end Peers

end RTCSctpTransport

end DataChannels

end Werift.Webrtc
