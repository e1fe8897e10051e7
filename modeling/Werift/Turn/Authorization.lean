import Werift.Stun.Integrity
import Werift.Turn.Handlers

/-!
# What a TURN server is authorised to relay

A permission or a channel is granted by an authenticated request of the allocation's user that came
from the allocation's client.  `Consistent` says that the maps of the server belong together and that
every permission, every channel and every event of the history is authorised; the changes that the
methods make preserve it.
-/

namespace Werift.Turn

open Stun Contract

/-! ## Keys -/

/-- A list is cut at the last separator in one way. -/
lemma append_cons_inj {α : Type} {sep : α} {x y u v : List α} (hu : sep ∉ u) (hv : sep ∉ v)
    (h : x ++ sep :: u = y ++ sep :: v) : x = y ∧ u = v := by
  rcases List.append_eq_append_iff.mp h with ⟨w, rfl, hw⟩ | ⟨w, rfl, hw⟩
  · cases w with
    | nil => exact ⟨(List.append_nil x).symm, (List.cons.inj hw).2⟩
    | cons b w =>
      rw [List.cons_append, List.cons.injEq] at hw
      exact absurd (hw.2 ▸ List.mem_append_right w List.mem_cons_self) hu
  · cases w with
    | nil => exact ⟨List.append_nil y, (List.cons.inj hw).2.symm⟩
    | cons b w =>
      rw [List.cons_append, List.cons.injEq] at hw
      exact absurd (hw.2 ▸ List.mem_append_right w List.mem_cons_self) hv

/-- Different addresses have different keys. -/
theorem addressKey_injective : Function.Injective addressKey := by
  intro a b h
  have hcolon (n : ℕ) : ':' ∉ Js.decimalText n := by
    rw [Js.decimalText, if_neg (by omega)]
    intro hmem
    exact absurd (Nat.isDigit_of_mem_toDigits (by decide) (by decide) hmem) (by decide)
  have hlist : a.1.toList ++ ':' :: Js.decimalText a.2 = b.1.toList ++ ':' :: Js.decimalText b.2 := by
    simpa [addressKey] using congrArg String.toList h
  obtain ⟨hip, hport⟩ := append_cons_inj (hcolon a.2) (hcolon b.2) hlist
  exact Prod.ext (String.toList_inj.mp hip) (Int.ofNat.inj (Js.decimalText_injective hport))

variable {T : Setting}

/-! ## Authorised events -/

/-- A request that carried an unexpired nonce of this server and the integrity of its user. -/
structure AuthenticatedRequest.Valid (T : Setting) (before : List Event)
    (r : AuthenticatedRequest) : Prop where
  issued : .nonceIssued r.nonce ∈ before
  nonce : r.message.getBuffer .nonce = some r.nonce.value
  unexpired : r.checkedAt < r.nonce.expiresAt
  username : r.message.getString .username = some r.username
  integrity : ∃ password, T.options.getPassword r.username T.options.realm = some password ∧
    parseMessage T.hmac r.data
      (some (makeTurnIntegrityKey T r.username T.options.realm password)) = .ok r.message

/-- A request of the user and the client of an allocation asks for a peer address. -/
structure AuthenticatedRequest.AsksFor (r : AuthenticatedRequest) (a : TurnAllocation)
    (peerAddress : Address) : Prop where
  clientId : r.clientId = a.client.clientId
  username : r.username = a.username
  peerAddress : r.message.getAddress .xorPeerAddress = some peerAddress

/-- A permission was installed by an authenticated request. -/
def PermissionGranted (T : Setting) (before : List Event) (a : TurnAllocation)
    (p : TurnPermission) : Prop :=
  ∃ earlier r later, before = earlier ++ Event.authenticated r :: later ∧ r.Valid T earlier ∧
    r.AsksFor a p.peerAddress ∧
    (r.message.messageMethod = methods.CREATE_PERMISSION ∨
      r.message.messageMethod = methods.CHANNEL_BIND) ∧
    p.expiresAt ≤ r.checkedAt + T.options.permissionLifetime * 1000

/-- A channel was installed by an authenticated request. -/
def ChannelGranted (T : Setting) (before : List Event) (a : TurnAllocation)
    (b : TurnChannelBinding) : Prop :=
  ∃ earlier r later, before = earlier ++ Event.authenticated r :: later ∧ r.Valid T earlier ∧
    r.AsksFor a b.peerAddress ∧ r.message.messageMethod = methods.CHANNEL_BIND ∧
    r.message.getNumber .channelNumber = some b.number ∧
    b.expiresAt ≤ r.checkedAt + T.options.channelLifetime * 1000

/-- An allocation has an unexpired permission for the IP of a peer. -/
def Permits (T : Setting) (before : List Event) (a : TurnAllocation) (peer : Address)
    (now : ℤ) : Prop :=
  ∃ p, a.permissions.get? (permissionKey peer) = some p ∧ p.peerAddress.1 = peer.1 ∧
    now < p.expiresAt ∧ PermissionGranted T before a p

/-- An allocation has an unexpired channel that is bound to a peer. -/
def HasChannel (T : Setting) (before : List Event) (a : TurnAllocation) (peer : Address)
    (now : ℤ) : Prop :=
  ∃ b, a.channelsByNumber.get? b.number = some b ∧ b.peerAddress = peer ∧ now < b.expiresAt ∧
    ChannelGranted T before a b

/-- An action that relays data is authorised: data of a client goes to a peer through the relay of
the client's allocation, and data of a peer goes to the client of the relay's allocation, which in
both cases permits the peer or has a channel that is bound to it. -/
def Emission.Authorised (T : Setting) (before : List Event) (e : Emission) : Prop :=
  match e.source, e.action with
  | .client clientId, .sendRelay relayId peer _ =>
    e.allocation.client.clientId = clientId ∧ e.allocation.relayId = relayId ∧
      (Permits T before e.allocation peer e.now ∨ HasChannel T before e.allocation peer e.now)
  | .peer relayId peer, action =>
    e.allocation.relayId = relayId ∧ (∃ data, action = sendClient e.allocation.client data) ∧
      (Permits T before e.allocation peer e.now ∨ HasChannel T before e.allocation peer e.now)
  | _, _ => False

/-- What has to hold when an event is recorded. -/
def Event.Authorised (T : Setting) (before : List Event) : Event → Prop
  | .nonceIssued _ => True
  | .authenticated r => r.Valid T before
  | .emitted e => e.Authorised T before

/-! ## The invariant -/

/-- The permissions and the channels of an allocation. -/
structure AllocationOk (T : Setting) (history : List Event) (a : TurnAllocation) : Prop where
  permission : ∀ ip p, a.permissions.get? ip = some p →
    permissionKey p.peerAddress = ip ∧ PermissionGranted T history a p
  byNumber : ∀ n b, a.channelsByNumber.get? n = some b → b.number = n ∧
    a.channelsByPeer.get? (addressKey b.peerAddress) = some b ∧ ChannelGranted T history a b
  byPeer : ∀ key b, a.channelsByPeer.get? key = some b →
    addressKey b.peerAddress = key ∧ a.channelsByNumber.get? b.number = some b

/-- An identifier that has been drawn. -/
def Drawn (T : Setting) (s : TurnServer) (id : String) : Prop := ∃ n < s.draws, T.randomUUID n = id

/-- An allocation is registered under its id, its client and its relay. -/
structure Registered (T : Setting) (s : TurnServer) (id : String) (a : TurnAllocation) : Prop where
  key : a.id = id
  drawn : Drawn T s id
  client : s.allocationIdByClientId.get? a.client.clientId = some id
  relay : s.allocationIdByRelayId.get? a.relayId = some id
  ok : AllocationOk T s.history a

/-- **The invariant** of a server. -/
structure Consistent (T : Setting) (s : TurnServer) : Prop where
  allocation : ∀ id a, s.allocations.get? id = some a → Registered T s id a
  client : ∀ clientId id, s.allocationIdByClientId.get? clientId = some id →
    ∃ a, s.allocations.get? id = some a ∧ a.client.clientId = clientId
  relay : ∀ relayId id, s.allocationIdByRelayId.get? relayId = some id →
    Drawn T s relayId ∧ ∃ a, s.allocations.get? id = some a ∧ a.relayId = relayId
  nonce : ∀ key nonce, s.nonces.get? key = some nonce →
    Js.toHex nonce.value = key ∧ .nonceIssued nonce ∈ s.history
  history : ∀ before e after, s.history = before ++ e :: after → e.Authorised T before

/-- How a server may develop: events are added, the clock is read, and identifiers are drawn. -/
structure Later (s s' : TurnServer) : Prop where
  history : s.history <+: s'.history
  ticks : s.ticks ≤ s'.ticks
  draws : s.draws ≤ s'.draws

instance : Std.Refl Later := ⟨fun s => ⟨List.prefix_refl s.history, le_rfl, le_rfl⟩⟩

instance : IsTrans TurnServer Later := ⟨fun _ _ _ h h' =>
  ⟨h.history.trans h'.history, h.ticks.trans h'.ticks, h.draws.trans h'.draws⟩⟩

/-- The contract of the methods. -/
abbrev Safe {α : Type} (T : Setting) (P : TurnServer → Prop) (m : Action α)
    (Q : α → TurnServer → Prop) : Prop :=
  Keeps (Consistent T) Later P m Q

/-! ## Changes of the state -/

variable {s : TurnServer} {a a' : TurnAllocation} {before after : List Event}

lemma Drawn.later {s' : TurnServer} {id : String} (h : Drawn T s id) (hs : Later s s') :
    Drawn T s' id := by
  obtain ⟨n, hn, hid⟩ := h
  exact ⟨n, hn.trans_le hs.draws, hid⟩

lemma PermissionGranted.mono {p : TurnPermission} (h : PermissionGranted T before a p)
    (hle : before <+: after) : PermissionGranted T after a p := by
  obtain ⟨earlier, r, later, rfl, hr⟩ := h
  obtain ⟨rest, rfl⟩ := hle
  exact ⟨earlier, r, later ++ rest, by simp, hr⟩

lemma ChannelGranted.mono {b : TurnChannelBinding} (h : ChannelGranted T before a b)
    (hle : before <+: after) : ChannelGranted T after a b := by
  obtain ⟨earlier, r, later, rfl, hr⟩ := h
  obtain ⟨rest, rfl⟩ := hle
  exact ⟨earlier, r, later ++ rest, by simp, hr⟩

lemma AllocationOk.mono (h : AllocationOk T before a) (hle : before <+: after) :
    AllocationOk T after a where
  permission ip p hp := (h.permission ip p hp).imp_right fun hgranted => hgranted.mono hle
  byNumber n b hb :=
    ⟨(h.byNumber n b hb).1, (h.byNumber n b hb).2.1, (h.byNumber n b hb).2.2.mono hle⟩
  byPeer := h.byPeer

/-- Changes of fields that the invariant does not speak of, and fewer nonces. -/
lemma Consistent.congr (h : Consistent T s) {s' : TurnServer}
    (hallocations : s'.allocations = s.allocations)
    (hclient : s'.allocationIdByClientId = s.allocationIdByClientId)
    (hrelay : s'.allocationIdByRelayId = s.allocationIdByRelayId)
    (hhistory : s'.history = s.history) (hdraws : s.draws ≤ s'.draws)
    (hnonces : ∀ key nonce, s'.nonces.get? key = some nonce → s.nonces.get? key = some nonce) :
    Consistent T s' := by
  have hlater {id : String} (hid : Drawn T s id) : Drawn T s' id :=
    hid.imp fun n hn => ⟨hn.1.trans_le hdraws, hn.2⟩
  refine ⟨fun id a ha => ?_, fun clientId id hid => ?_, fun relayId id hid => ?_,
    fun key nonce hnonce => ?_, ?_⟩
  · have hreg := h.allocation id a (hallocations ▸ ha)
    exact ⟨hreg.key, hlater hreg.drawn, by rw [hclient, hreg.client], by rw [hrelay, hreg.relay],
      hhistory ▸ hreg.ok⟩
  · rw [hallocations]
    exact h.client clientId id (hclient ▸ hid)
  · rw [hallocations]
    exact (h.relay relayId id (hrelay ▸ hid)).imp_left hlater
  · rw [hhistory]
    exact h.nonce key nonce (hnonces key nonce hnonce)
  · rw [hhistory]
    exact h.history

/-- Recording an authorised event. -/
lemma Consistent.record (h : Consistent T s) {e : Event} (he : e.Authorised T s.history) :
    Consistent T (s.record e) where
  allocation id a ha := by
    have hreg := h.allocation id a ha
    exact ⟨hreg.key, hreg.drawn, hreg.client, hreg.relay, hreg.ok.mono (List.prefix_append _ _)⟩
  client := h.client
  relay := h.relay
  nonce key nonce hnonce :=
    (h.nonce key nonce hnonce).imp_right fun hmem => List.mem_append_left _ hmem
  history before e' after heq := by
    rcases List.eq_nil_or_concat after with rfl | ⟨after, last, rfl⟩
    · obtain ⟨rfl, hlast⟩ := List.append_inj' heq rfl
      obtain rfl := List.singleton_inj.mp hlast
      exact he
    · rw [List.concat_eq_append, ← List.cons_append, ← List.append_assoc] at heq
      exact h.history before e' after (List.append_inj' heq rfl).1

/-- Issuing a nonce. -/
lemma Consistent.issue (h : Consistent T s) (nonce : NonceState) :
    Consistent T ({ s with nonces := s.nonces.set (Js.toHex nonce.value) nonce }.record
      (.nonceIssued nonce)) := by
  have hrecord : Consistent T (s.record (.nonceIssued nonce)) := h.record trivial
  refine ⟨fun id a ha => ?_, hrecord.client, hrecord.relay, fun key nonce' hget => ?_,
    hrecord.history⟩
  · obtain ⟨hkey, hdrawn, hclient, hrelay, hok⟩ := hrecord.allocation id a ha
    exact ⟨hkey, hdrawn, hclient, hrelay, hok⟩
  · rw [TurnServer.record, Js.Map.get?_set] at hget
    split_ifs at hget with heq
    · obtain rfl := Option.some.inj hget
      exact ⟨heq.symm, List.mem_append_right _ List.mem_cons_self⟩
    · exact hrecord.nonce key nonce' hget

/-- The fields that do not change when an allocation is updated. -/
structure SameParty (a a' : TurnAllocation) : Prop where
  id : a'.id = a.id
  relayId : a'.relayId = a.relayId
  username : a'.username = a.username
  client : a'.client = a.client

lemma get?_update {id id' : String} {f : TurnAllocation → TurnAllocation} :
    (s.update id f).allocations.get? id' =
      if id' = id then (s.allocations.get? id).map f else s.allocations.get? id' := by
  unfold TurnServer.update
  split
  · rename_i a ha
    rw [Js.Map.get?_set, ha, Option.map_some]
  · rename_i hnone
    split_ifs with heq
    · rw [heq, hnone, Option.map_none]
    · rfl

/-- Updating an allocation. -/
lemma Consistent.update (h : Consistent T s) {id : String} {f : TurnAllocation → TurnAllocation}
    (hf : ∀ a, s.allocations.get? id = some a → SameParty a (f a) ∧ AllocationOk T s.history (f a)) :
    Consistent T (s.update id f) := by
  have hfields : (s.update id f).allocationIdByClientId = s.allocationIdByClientId ∧
      (s.update id f).allocationIdByRelayId = s.allocationIdByRelayId ∧
      (s.update id f).nonces = s.nonces ∧ (s.update id f).history = s.history ∧
      (s.update id f).draws = s.draws := by
    unfold TurnServer.update
    split <;> exact ⟨rfl, rfl, rfl, rfl, rfl⟩
  obtain ⟨hclient, hrelay, hnonces, hhistory, hdraws⟩ := hfields
  have hdrawn {id' : String} (h : Drawn T s id') : Drawn T (s.update id f) id' := by
    rwa [Drawn, hdraws]
  have hparty {id' : String} {a : TurnAllocation} (ha : s.allocations.get? id' = some a) :
      ∃ a', (s.update id f).allocations.get? id' = some a' ∧ SameParty a a' := by
    by_cases heq : id' = id
    · subst heq
      exact ⟨f a, by rw [get?_update, if_pos rfl, ha, Option.map_some], (hf a ha).1⟩
    · exact ⟨a, by rw [get?_update, if_neg heq, ha], ⟨rfl, rfl, rfl, rfl⟩⟩
  refine ⟨fun id' a' ha' => ?_, fun clientId id' hid => ?_, fun relayId id' hid => ?_, ?_, ?_⟩
  · rw [get?_update] at ha'
    split_ifs at ha' with heq
    · obtain ⟨a, ha, rfl⟩ := Option.map_eq_some_iff.mp ha'
      have hreg := h.allocation id a ha
      obtain ⟨hsame, hok⟩ := hf a ha
      subst heq
      exact ⟨hsame.id.trans hreg.key, hdrawn hreg.drawn, by rw [hclient, hsame.client, hreg.client],
        by rw [hrelay, hsame.relayId, hreg.relay], hhistory ▸ hok⟩
    · have hreg := h.allocation id' a' ha'
      exact ⟨hreg.key, hdrawn hreg.drawn, by rw [hclient, hreg.client], by rw [hrelay, hreg.relay],
        hhistory ▸ hreg.ok⟩
  · rw [hclient] at hid
    obtain ⟨a, ha, rfl⟩ := h.client clientId id' hid
    obtain ⟨a', ha', hsame⟩ := hparty ha
    exact ⟨a', ha', by rw [hsame.client]⟩
  · rw [hrelay] at hid
    obtain ⟨hid', a, ha, rfl⟩ := h.relay relayId id' hid
    obtain ⟨a', ha', hsame⟩ := hparty ha
    exact ⟨hdrawn hid', a', ha', hsame.relayId⟩
  · rw [hnonces, hhistory]
    exact h.nonce
  · rw [hhistory]
    exact h.history

/-- An allocation can be found by its client and by its relay. -/
lemma Consistent.eq_of_client (h : Consistent T s) {id id' : String}
    (ha : s.allocations.get? id = some a) (ha' : s.allocations.get? id' = some a')
    (hclient : a.client.clientId = a'.client.clientId) : id = id' :=
  Option.some.inj ((h.allocation id a ha).client.symm.trans
    (hclient ▸ (h.allocation id' a' ha').client))

lemma Consistent.eq_of_relay (h : Consistent T s) {id id' : String}
    (ha : s.allocations.get? id = some a) (ha' : s.allocations.get? id' = some a')
    (hrelay : a.relayId = a'.relayId) : id = id' :=
  Option.some.inj ((h.allocation id a ha).relay.symm.trans
    (hrelay ▸ (h.allocation id' a' ha').relay))

/-- Deleting an allocation. -/
lemma Consistent.delete (h : Consistent T s) (ha : s.allocations.get? a.id = some a')
    (hparty : SameParty a a') : Consistent T (s.delete a) where
  allocation id b hb := by
    rw [TurnServer.delete, Js.Map.get?_delete] at hb
    split_ifs at hb with hid
    have hreg := h.allocation id b hb
    refine ⟨hreg.key, hreg.drawn, ?_, ?_, hreg.ok⟩
    · rw [TurnServer.delete, Js.Map.get?_delete, if_neg, hreg.client]
      exact fun hclient => hid (h.eq_of_client hb ha (by rw [hclient, hparty.client]))
    · rw [TurnServer.delete, Js.Map.get?_delete, if_neg, hreg.relay]
      exact fun hrelay => hid (h.eq_of_relay hb ha (by rw [hrelay, hparty.relayId]))
  client clientId id hid := by
    rw [TurnServer.delete, Js.Map.get?_delete] at hid
    split_ifs at hid with hclient
    obtain ⟨b, hb, rfl⟩ := h.client clientId id hid
    refine ⟨b, ?_, rfl⟩
    rw [TurnServer.delete, Js.Map.get?_delete, if_neg, hb]
    rintro rfl
    obtain rfl := Option.some.inj (hb.symm.trans ha)
    exact hclient (by rw [hparty.client])
  relay relayId id hid := by
    rw [TurnServer.delete, Js.Map.get?_delete] at hid
    split_ifs at hid with hrelay
    obtain ⟨hdrawn, b, hb, rfl⟩ := h.relay relayId id hid
    refine ⟨hdrawn, b, ?_, rfl⟩
    rw [TurnServer.delete, Js.Map.get?_delete, if_neg, hb]
    rintro rfl
    obtain rfl := Option.some.inj (hb.symm.trans ha)
    exact hrelay hparty.relayId
  nonce := h.nonce
  history := h.history

/-- Adding an allocation with new identifiers for a client that has none. -/
lemma Consistent.insert (h : Consistent T s) (hid : Drawn T s a.id) (hrelayId : Drawn T s a.relayId)
    (hnew : s.allocations.get? a.id = none) (hrelay : s.allocationIdByRelayId.get? a.relayId = none)
    (hclient : s.allocationIdByClientId.get? a.client.clientId = none)
    (hok : AllocationOk T s.history a) : Consistent T (s.insert a) where
  allocation id b hb := by
    rw [TurnServer.insert, Js.Map.get?_set] at hb
    split_ifs at hb with heq
    · obtain rfl := Option.some.inj hb
      subst heq
      exact ⟨rfl, hid, Js.Map.get?_set_self, Js.Map.get?_set_self, hok⟩
    · have hreg := h.allocation id b hb
      refine ⟨hreg.key, hreg.drawn, ?_, ?_, hreg.ok⟩
      · rw [TurnServer.insert, Js.Map.get?_set, if_neg, hreg.client]
        intro heq
        rw [← heq, hreg.client] at hclient
        cases hclient
      · rw [TurnServer.insert, Js.Map.get?_set, if_neg, hreg.relay]
        intro heq
        rw [← heq, hreg.relay] at hrelay
        cases hrelay
  client clientId id hget := by
    rw [TurnServer.insert, Js.Map.get?_set] at hget
    split_ifs at hget with heq
    · obtain rfl := Option.some.inj hget
      exact ⟨a, Js.Map.get?_set_self, heq.symm⟩
    · obtain ⟨b, hb, rfl⟩ := h.client clientId id hget
      refine ⟨b, ?_, rfl⟩
      rw [TurnServer.insert, Js.Map.get?_set, if_neg, hb]
      rintro rfl
      rw [hb] at hnew
      cases hnew
  relay relayId id hget := by
    rw [TurnServer.insert, Js.Map.get?_set] at hget
    split_ifs at hget with heq
    · obtain rfl := Option.some.inj hget
      exact ⟨heq ▸ hrelayId, a, Js.Map.get?_set_self, heq.symm⟩
    · obtain ⟨hdrawn, b, hb, rfl⟩ := h.relay relayId id hget
      refine ⟨hdrawn, b, ?_, rfl⟩
      rw [TurnServer.insert, Js.Map.get?_set, if_neg, hb]
      rintro rfl
      rw [hb] at hnew
      cases hnew
  nonce := h.nonce
  history := h.history

/-! ## Changes of an allocation -/

/-- A change of an allocation that keeps its party and leaves it authorised. -/
structure Improves (T : Setting) (history : List Event) (a a' : TurnAllocation) : Prop where
  party : SameParty a a'
  ok : AllocationOk T history a'

lemma SameParty.refl (a : TurnAllocation) : SameParty a a := ⟨rfl, rfl, rfl, rfl⟩

lemma SameParty.symm (h : SameParty a a') : SameParty a' a :=
  ⟨h.id.symm, h.relayId.symm, h.username.symm, h.client.symm⟩

lemma SameParty.trans {a'' : TurnAllocation} (h : SameParty a a') (h' : SameParty a' a'') :
    SameParty a a'' :=
  ⟨h'.id.trans h.id, h'.relayId.trans h.relayId, h'.username.trans h.username,
    h'.client.trans h.client⟩

lemma PermissionGranted.sameParty {p : TurnPermission} (h : PermissionGranted T before a p)
    (hparty : SameParty a a') : PermissionGranted T before a' p := by
  obtain ⟨earlier, r, later, hbefore, hvalid, hasks, hrest⟩ := h
  exact ⟨earlier, r, later, hbefore, hvalid, ⟨by rw [hparty.client, hasks.clientId],
    by rw [hparty.username, hasks.username], hasks.peerAddress⟩, hrest⟩

lemma ChannelGranted.sameParty {b : TurnChannelBinding} (h : ChannelGranted T before a b)
    (hparty : SameParty a a') : ChannelGranted T before a' b := by
  obtain ⟨earlier, r, later, hbefore, hvalid, hasks, hrest⟩ := h
  exact ⟨earlier, r, later, hbefore, hvalid, ⟨by rw [hparty.client, hasks.clientId],
    by rw [hparty.username, hasks.username], hasks.peerAddress⟩, hrest⟩

variable {history : List Event}

/-- A new permission, or fewer permissions, with the same channels. -/
lemma AllocationOk.permissions (h : AllocationOk T history a) (hparty : SameParty a a')
    (hnumber : a'.channelsByNumber = a.channelsByNumber)
    (hpeer : a'.channelsByPeer = a.channelsByPeer)
    (hpermission : ∀ ip p, a'.permissions.get? ip = some p → a.permissions.get? ip = some p ∨
      permissionKey p.peerAddress = ip ∧ PermissionGranted T history a p) :
    AllocationOk T history a' where
  permission ip p hp := by
    rcases hpermission ip p hp with hold | ⟨hkey, hgranted⟩
    · exact (h.permission ip p hold).imp_right fun hgranted => hgranted.sameParty hparty
    · exact ⟨hkey, hgranted.sameParty hparty⟩
  byNumber n b hb := by
    rw [hnumber] at hb
    obtain ⟨hn, hkey, hgranted⟩ := h.byNumber n b hb
    exact ⟨hn, by rw [hpeer, hkey], hgranted.sameParty hparty⟩
  byPeer key b hb := by
    rw [hpeer] at hb
    rw [hnumber]
    exact h.byPeer key b hb

lemma AllocationOk.cleanupPermissions (h : AllocationOk T history a) (now : ℤ) :
    AllocationOk T history (a.cleanupPermissions now) :=
  h.permissions ⟨rfl, rfl, rfl, rfl⟩ rfl rfl fun _ _ hp => Or.inl (Js.Map.get?_filter.mp hp).1

lemma AllocationOk.deletePermission (h : AllocationOk T history a) (ip : String) :
    AllocationOk T history { a with permissions := a.permissions.delete ip } :=
  h.permissions ⟨rfl, rfl, rfl, rfl⟩ rfl rfl fun _ _ hp => Or.inl (Js.Map.get?_filter.mp hp).1

lemma AllocationOk.setPermission (h : AllocationOk T history a) {peerAddress : Address} {time : ℤ}
    (hgranted : PermissionGranted T history a ⟨peerAddress, time⟩) :
    AllocationOk T history (a.setPermission peerAddress time) := by
  refine h.permissions ⟨rfl, rfl, rfl, rfl⟩ rfl rfl fun ip p hp => ?_
  rw [TurnAllocation.setPermission, Js.Map.get?_set] at hp
  split_ifs at hp with heq
  · obtain rfl := Option.some.inj hp
    exact Or.inr ⟨heq.symm, hgranted⟩
  · exact Or.inl hp

/-- The bindings that are left when one is removed. -/
lemma AllocationOk.removeChannelBinding (h : AllocationOk T history a) {n : ℕ}
    {binding : TurnChannelBinding} (hbinding : a.channelsByNumber.get? n = some binding) :
    AllocationOk T history (a.removeChannelBinding binding) where
  permission ip p hp :=
    (h.permission ip p hp).imp_right fun hgranted => hgranted.sameParty ⟨rfl, rfl, rfl, rfl⟩
  byNumber n' b hb := by
    obtain ⟨hn', hnumber⟩ : n' ≠ binding.number ∧ a.channelsByNumber.get? n' = some b := by
      rw [TurnAllocation.removeChannelBinding, Js.Map.get?_delete] at hb
      split_ifs at hb with heq
      exact ⟨heq, hb⟩
    obtain ⟨rfl, hpeer, hgranted⟩ := h.byNumber n' b hnumber
    refine ⟨rfl, ?_, hgranted.sameParty ⟨rfl, rfl, rfl, rfl⟩⟩
    rw [TurnAllocation.removeChannelBinding, Js.Map.get?_delete, if_neg, hpeer]
    intro heq
    obtain ⟨-, hpeer', -⟩ := h.byNumber n binding hbinding
    rw [heq, hpeer'] at hpeer
    exact hn' (by rw [Option.some.inj hpeer])
  byPeer key b hb := by
    obtain ⟨hkey, hpeer⟩ : key ≠ addressKey binding.peerAddress ∧
        a.channelsByPeer.get? key = some b := by
      rw [TurnAllocation.removeChannelBinding, Js.Map.get?_delete] at hb
      split_ifs at hb with heq
      exact ⟨heq, hb⟩
    obtain ⟨rfl, hnumber⟩ := h.byPeer key b hpeer
    refine ⟨rfl, ?_⟩
    rw [TurnAllocation.removeChannelBinding, Js.Map.get?_delete, if_neg, hnumber]
    intro heq
    obtain ⟨hn, -, -⟩ := h.byNumber n binding hbinding
    rw [heq, hn, hbinding] at hnumber
    exact hkey (by rw [Option.some.inj hnumber])

/-- A new binding of a number and a peer that are bound to each other or to nothing. -/
lemma AllocationOk.setChannelBinding (h : AllocationOk T history a) {binding : TurnChannelBinding}
    (hnumber : ∀ b, a.channelsByNumber.get? binding.number = some b →
      addressKey b.peerAddress = addressKey binding.peerAddress)
    (hpeer : ∀ b, a.channelsByPeer.get? (addressKey binding.peerAddress) = some b →
      b.number = binding.number)
    (hgranted : ChannelGranted T history a binding) :
    AllocationOk T history (a.setChannelBinding binding) where
  permission ip p hp :=
    (h.permission ip p hp).imp_right fun hgranted => hgranted.sameParty ⟨rfl, rfl, rfl, rfl⟩
  byNumber n b hb := by
    rw [TurnAllocation.setChannelBinding, Js.Map.get?_set] at hb
    split_ifs at hb with heq
    · obtain rfl := Option.some.inj hb
      exact ⟨heq.symm, Js.Map.get?_set_self, hgranted.sameParty ⟨rfl, rfl, rfl, rfl⟩⟩
    · obtain ⟨rfl, hkey, hold⟩ := h.byNumber n b hb
      refine ⟨rfl, ?_, hold.sameParty ⟨rfl, rfl, rfl, rfl⟩⟩
      rw [TurnAllocation.setChannelBinding, Js.Map.get?_set, if_neg, hkey]
      exact fun hsame => heq (hpeer b (hsame ▸ hkey))
  byPeer key b hb := by
    rw [TurnAllocation.setChannelBinding, Js.Map.get?_set] at hb
    split_ifs at hb with heq
    · obtain rfl := Option.some.inj hb
      exact ⟨heq.symm, Js.Map.get?_set_self⟩
    · obtain ⟨rfl, hn⟩ := h.byPeer key b hb
      refine ⟨rfl, ?_⟩
      rw [TurnAllocation.setChannelBinding, Js.Map.get?_set, if_neg, hn]
      exact fun hsame => heq (hnumber b (hsame ▸ hn))

/-- Removing several bindings. -/
lemma AllocationOk.foldl_removeChannelBinding {bindings : List TurnChannelBinding}
    (h : AllocationOk T history a) (hbindings : (bindings.map TurnChannelBinding.number).Nodup)
    (hmem : ∀ b ∈ bindings, a.channelsByNumber.get? b.number = some b) :
    SameParty a (bindings.foldl TurnAllocation.removeChannelBinding a) ∧
      AllocationOk T history (bindings.foldl TurnAllocation.removeChannelBinding a) := by
  induction bindings generalizing a with
  | nil => exact ⟨SameParty.refl a, h⟩
  | cons b bindings ih =>
    rw [List.forall_mem_cons] at hmem
    rw [List.map_cons, List.nodup_cons] at hbindings
    have hrest (b' : TurnChannelBinding) (hb' : b' ∈ bindings) :
        (a.removeChannelBinding b).channelsByNumber.get? b'.number = some b' := by
      rw [TurnAllocation.removeChannelBinding, Js.Map.get?_delete, if_neg, hmem.2 b' hb']
      exact fun heq => hbindings.1 (List.mem_map.mpr ⟨b', hb', heq⟩)
    have hfirst : SameParty a (a.removeChannelBinding b) := ⟨rfl, rfl, rfl, rfl⟩
    obtain ⟨hparty, hok⟩ := ih (h.removeChannelBinding hmem.1) hbindings.2 hrest
    exact ⟨hfirst.trans hparty, hok⟩

lemma AllocationOk.cleanupChannels (h : AllocationOk T history a) (now : ℤ) :
    Improves T history a (a.cleanupChannels now) := by
  have hentry {entry : ℕ × TurnChannelBinding} (hmem : entry ∈ a.channelsByNumber.entries) :
      entry.2.number = entry.1 := (h.byNumber entry.1 entry.2 (Js.Map.get?_eq_some.mpr hmem)).1
  have hnumbers : a.channelsByNumber.values.map TurnChannelBinding.number =
      a.channelsByNumber.entries.map Prod.fst := by
    rw [Js.Map.values, List.map_map]
    exact List.map_congr_left fun entry hmem => hentry hmem
  have hnodup : ((a.channelsByNumber.values.filter fun binding => binding.expiresAt ≤ now).map
      TurnChannelBinding.number).Nodup :=
    (hnumbers ▸ a.channelsByNumber.nodup).sublist (List.filter_sublist.map _)
  obtain ⟨hparty, hok⟩ := h.foldl_removeChannelBinding hnodup fun b hb => by
    obtain ⟨n, hn⟩ := Js.Map.mem_values.mp (List.mem_filter.mp hb).1
    obtain ⟨rfl, -, -⟩ := h.byNumber n b hn
    exact hn
  exact ⟨hparty, hok⟩

end Werift.Turn
