import Mathlib
import Werift.Webrtc.DataChannels

/-!
# The stream ids that a transport assigns

When the queue is flushed, a channel without an id gets the first id of the parity of its side under which no
channel is registered (`freeStreamId_not_mem`, `mem_of_lt_freeStreamId`).  Nothing that is registered is ever
overwritten by this.
-/

namespace Werift.Webrtc

namespace DataChannels

namespace Transport

variable {s : Transport} {c dataChannelId fuel streamId : ℕ} {o : Js.IndexObject ℕ}

/-! ## The first id that is free -/

lemma freeStreamId_mod (o : Js.IndexObject ℕ) (fuel streamId : ℕ) :
    freeStreamId o fuel streamId % 2 = streamId % 2 := by
  induction fuel generalizing streamId with
  | zero => rfl
  | succ fuel ih =>
    rw [freeStreamId]
    split_ifs
    · rw [ih, Nat.add_mod_right]
    · rfl

/-- The ids before it are not free. -/
lemma mem_of_lt_freeStreamId {k : ℕ} (hle : streamId ≤ k) (hmod : k % 2 = streamId % 2)
    (hlt : k < freeStreamId o fuel streamId) : (k : ℤ) ∈ o.keys := by
  induction fuel generalizing streamId with
  | zero => exact absurd hlt (not_lt.mpr hle)
  | succ fuel ih =>
    rw [freeStreamId] at hlt
    split_ifs at hlt with hmem
    · rcases Nat.eq_or_lt_of_le hle with rfl | hlt'
      · exact hmem
      · exact ih (by omega) (by omega) hlt
    · exact absurd hlt (not_lt.mpr hle)

/-- The search ends at a free id, or when no candidate is left. -/
lemma freeStreamId_cases (o : Js.IndexObject ℕ) (fuel streamId : ℕ) :
    (freeStreamId o fuel streamId : ℤ) ∉ o.keys ∨ freeStreamId o fuel streamId = streamId + 2 * fuel := by
  induction fuel generalizing streamId with
  | zero => exact .inr rfl
  | succ fuel ih =>
    rw [freeStreamId]
    split_ifs with hmem
    · exact (ih (streamId + 2)).imp_right fun heq => by omega
    · exact .inl hmem

/-- **It is free**: there are more candidates than ids that are taken. -/
lemma freeStreamId_not_mem (hfuel : o.entries.length < fuel) :
    (freeStreamId o fuel streamId : ℤ) ∉ o.keys := by
  rcases freeStreamId_cases o fuel streamId with hfree | hlast
  · exact hfree
  · -- Otherwise all candidates are taken.
    have htaken : (List.range fuel).map (fun i => ((streamId + 2 * i : ℕ) : ℤ)) ⊆ o.keys := by
      intro k hk
      obtain ⟨i, hi, rfl⟩ := List.mem_map.mp hk
      have hi' := List.mem_range.mp hi
      have hlt : streamId + 2 * i < freeStreamId o fuel streamId := by omega
      exact mem_of_lt_freeStreamId (Nat.le_add_right _ _) (Nat.add_mul_mod_self_left _ _ _) hlt
    have hnodup : ((List.range fuel).map fun i => ((streamId + 2 * i : ℕ) : ℤ)).Nodup := by
      refine List.nodup_range.map fun i j hij => ?_
      omega
    have hlength := (List.subperm_of_subset hnodup htaken).length_le
    rw [List.length_map, List.length_range, Js.IndexObject.keys, List.length_map] at hlength
    omega

/-! ## Assigning an id -/

/-- Looking for the stream of a channel. -/
lemma assignId_of_some {id : ℕ} (hid : (s.channels c).id = some id) : s.assignId c dataChannelId = (id, s) := by
  rw [assignId, hid]

/-- The id that a channel without one gets. -/
def nextId (s : Transport) (dataChannelId : ℕ) : ℕ :=
  freeStreamId s.dataChannels (s.dataChannels.entries.length + 1) dataChannelId

lemma assignId_of_none (hid : (s.channels c).id = none) : s.assignId c dataChannelId = (s.nextId dataChannelId,
    { s.modify c fun channel => { channel with id := some (s.nextId dataChannelId) } with
      dataChannels := s.dataChannels.set (s.nextId dataChannelId) c }) := by
  rw [assignId, hid]
  rfl

/-- Nothing is registered under the id. -/
lemma get?_nextId (s : Transport) (dataChannelId : ℕ) : s.dataChannels.get? (s.nextId dataChannelId) = none :=
  Js.IndexObject.get?_eq_none.mpr (freeStreamId_not_mem (Nat.lt_succ_self _))

lemma nextId_mod : s.nextId dataChannelId % 2 = dataChannelId % 2 := freeStreamId_mod _ _ _

/-- A free id of the side bounds the id. -/
lemma nextId_le {k : ℕ} (hfree : (k : ℤ) ∉ s.dataChannels.keys) (hle : dataChannelId ≤ k)
    (hmod : k % 2 = dataChannelId % 2) : s.nextId dataChannelId ≤ k := by
  by_contra hlt
  exact hfree (mem_of_lt_freeStreamId hle hmod (not_le.mp hlt))

/-! ## Flushing the queue -/

/-- The same channels are registered, with the same ids, and they are in the same state. -/
structure Same (s s' : Transport) : Prop where
  dataChannels : s'.dataChannels = s.dataChannels
  id : ∀ d, (s'.channels d).id = (s.channels d).id
  readyState : ∀ d, (s'.channels d).readyState = (s.channels d).readyState

lemma Same.refl (s : Transport) : Same s s := ⟨rfl, fun _ => rfl, fun _ => rfl⟩

lemma same_modify {f : Channel → Channel} (hid : ∀ channel, (f channel).id = channel.id)
    (hreadyState : ∀ channel, (f channel).readyState = channel.readyState) : Same s (s.modify c f) := by
  refine ⟨rfl, fun d => ?_, fun d => ?_⟩
  · change (Function.update s.channels c (f (s.channels c)) d).id = (s.channels d).id
    by_cases hd : d = c
    · rw [hd, Function.update_self, hid]
    · rw [Function.update_of_ne hd]
  · change (Function.update s.channels c (f (s.channels c)) d).readyState = (s.channels d).readyState
    by_cases hd : d = c
    · rw [hd, Function.update_self, hreadyState]
    · rw [Function.update_of_ne hd]

/-- The channel that a message is of gets an id. -/
def Waits (s : Transport) (c : ℕ) : Prop := ¬(s.channels c).isClosing ∧ (s.channels c).id = none

instance (s : Transport) (c : ℕ) : Decidable (s.Waits c) := inferInstanceAs (Decidable (_ ∧ _))

lemma flushItem_same {item : QueueItem} (h : ¬s.Waits item.channel) : Same s (s.flushItem dataChannelId item) := by
  rw [flushItem]
  by_cases hclosing : (s.channels item.channel).isClosing
  · rw [if_pos hclosing]
    split_ifs
    · exact same_modify (fun _ => rfl) fun _ => rfl
    · exact .refl s
  · obtain ⟨id, hid⟩ := Option.ne_none_iff_exists'.mp fun hnone => h ⟨hclosing, hnone⟩
    rw [if_neg hclosing, assignId_of_some hid]
    exact ⟨rfl, fun _ => rfl, fun _ => rfl⟩

lemma flushItem_of_waits (dataChannelId : ℕ) {item : QueueItem} (h : s.Waits item.channel) :
    (s.flushItem dataChannelId item).dataChannels = s.dataChannels.set (s.nextId dataChannelId) item.channel ∧
      (s.flushItem dataChannelId item).channels = (s.modify item.channel fun channel =>
        { channel with id := some (s.nextId dataChannelId) }).channels := by
  rw [flushItem, if_neg h.1, assignId_of_none h.2]
  exact ⟨rfl, rfl⟩

/-- What is registered stays so while the queue is flushed. -/
lemma get?_flushItem {item : QueueItem} {k : ℤ} (h : s.dataChannels.get? k = some c) :
    (s.flushItem dataChannelId item).dataChannels.get? k = some c := by
  by_cases hwaits : s.Waits item.channel
  · rw [(flushItem_of_waits _ hwaits).1, Js.IndexObject.get?_set, if_neg]
    · exact h
    · rintro rfl
      rw [get?_nextId] at h
      cases h
  · rw [(flushItem_same hwaits).dataChannels, h]

lemma get?_dataChannelFlush {k : ℤ} (h : s.dataChannels.get? k = some c) :
    s.dataChannelFlush.dataChannels.get? k = some c := by
  rw [dataChannelFlush]
  by_cases hestablished : s.established = true
  · rw [if_pos hestablished]
    dsimp only
    generalize hstart : ({ s with dataChannelId := _, dataChannelQueue := [] } : Transport) = start
    have hkept : start.dataChannels.get? k = some c := by rw [← hstart, h]
    clear hstart
    induction s.dataChannelQueue generalizing start with
    | nil => exact hkept
    | cons item queue ih => exact ih _ (get?_flushItem hkept)
  · rwa [if_neg hestablished]

end Transport

end DataChannels

end Werift.Webrtc
