import Werift.Turn.Relaying

/-!
# The allocations of a TURN server and their relays

A relay is bound when an allocation is made and closed when the allocation is deleted.  `Account`
balances the two: the allocations that were there and those that actions have bound are the ones that
are there now, the ones that actions have closed, and the ones whose bind failure was reported.
-/

namespace Werift.Turn

open Stun Contract

/-! ## The ledger -/

namespace TurnServerAction

/-- The allocation and the relay of a `bind-relay` action. -/
def bound? : TurnServerAction → Option (String × String)
  | .bindRelay allocationId relayId => some (allocationId, relayId)
  | _ => none

/-- The relay of a `close-relay` action. -/
def closed? : TurnServerAction → Option String
  | .closeRelay relayId => some relayId
  | _ => none

/-- An action that neither binds nor closes a relay. -/
def Silent (action : TurnServerAction) : Prop := action.bound? = none ∧ action.closed? = none

end TurnServerAction

/-- What the `bind-relay` actions of a list name. -/
def bound (actions : List TurnServerAction) : Multiset (String × String) :=
  actions.filterMap TurnServerAction.bound?

/-- What the `close-relay` actions of a list name. -/
def closed (actions : List TurnServerAction) : Multiset String :=
  actions.filterMap TurnServerAction.closed?

/-- The fields of an allocation that never change. -/
structure Party where
  id : String
  relayId : String
  username : String
  client : ClientEndpoint

/-- These fields. -/
def TurnAllocation.party (a : TurnAllocation) : Party := ⟨a.id, a.relayId, a.username, a.client⟩

/-- The keys of the allocations and what never changes of them. -/
def parties (s : TurnServer) : List (String × Party) :=
  s.allocations.entries.map fun entry => (entry.1, entry.2.party)

/-- The live allocations and their relays. -/
def live (s : TurnServer) : Multiset (String × String) :=
  (parties s).map fun entry => (entry.2.id, entry.2.relayId)

/-- The identifiers that were drawn between two numbers of draws. -/
def uuids (T : Setting) (m n : ℕ) : Multiset String := (Multiset.Ico m n).map T.randomUUID

/-- **The balance** of some actions that lead from one state to another: `reported` are the
allocations whose bind failure was reported. -/
structure Account (T : Setting) (reported : List String) (s₀ : TurnServer)
    (actions : List TurnServerAction) (s : TurnServer) : Prop where
  balance : ∃ released dropped, live s₀ + bound actions = live s + released + dropped ∧
    released.map Prod.snd = closed actions ∧ ∀ party ∈ dropped, party.1 ∈ reported
  fresh : (bound actions).map Prod.snd ≤ uuids T s₀.draws s.draws
  draws : s₀.draws ≤ s.draws

/-- The invariant: allocations are kept under their ids, which have been drawn, and there are not too
many. -/
structure Kept (T : Setting) (s : TurnServer) : Prop where
  key : ∀ entry ∈ parties s, entry.2.id = entry.1 ∧ Drawn T s entry.1
  quota : (parties s).length ≤ T.options.maxAllocations

/-- Nothing was undrawn, and an allocation that is new has an id that was drawn since. -/
structure Grown (T : Setting) (s s' : TurnServer) : Prop where
  draws : s.draws ≤ s'.draws
  parties : ∀ entry ∈ parties s', entry ∈ parties s ∨ ∃ n, s.draws ≤ n ∧ entry.1 = T.randomUUID n

/-- A change that keeps the allocations. -/
structure Steady (s s' : TurnServer) : Prop where
  parties : parties s' = parties s
  draws : s.draws ≤ s'.draws

instance (T : Setting) : Std.Refl (Grown T) := ⟨fun _ => ⟨le_rfl, fun _ hmem => Or.inl hmem⟩⟩

instance (T : Setting) : IsTrans TurnServer (Grown T) := ⟨fun _ _ _ h h' =>
  ⟨h.draws.trans h'.draws, fun entry hmem => (h'.parties entry hmem).elim (h.parties entry)
    fun ⟨n, hn, hid⟩ => Or.inr ⟨n, h.draws.trans hn, hid⟩⟩⟩

instance : Std.Refl Steady := ⟨fun _ => ⟨rfl, le_rfl⟩⟩

instance : IsTrans TurnServer Steady := ⟨fun _ _ _ h h' =>
  ⟨h'.parties.trans h.parties, h.draws.trans h'.draws⟩⟩

variable {T : Setting} {reported : List String} {s₀ s s' : TurnServer}
  {actions more : List TurnServerAction}

lemma bound_append : bound (actions ++ more) = bound actions + bound more := by
  rw [bound, List.filterMap_append, ← Multiset.coe_add, ← bound, ← bound]

lemma closed_append : closed (actions ++ more) = closed actions + closed more := by
  rw [closed, List.filterMap_append, ← Multiset.coe_add, ← closed, ← closed]

lemma bound_silent (h : ∀ action ∈ actions, action.Silent) : bound actions = 0 := by
  rw [bound, List.filterMap_eq_nil_iff.mpr fun action hmem => (h action hmem).1]
  rfl

lemma closed_silent (h : ∀ action ∈ actions, action.Silent) : closed actions = 0 := by
  rw [closed, List.filterMap_eq_nil_iff.mpr fun action hmem => (h action hmem).2]
  rfl

lemma mem_bound {party : String × String} :
    party ∈ bound actions ↔ TurnServerAction.bindRelay party.1 party.2 ∈ actions := by
  rw [bound, Multiset.mem_coe, List.mem_filterMap]
  constructor
  · rintro ⟨action, hmem, haction⟩
    cases action with
    | bindRelay allocationId relayId =>
      obtain rfl := Option.some.inj haction
      exact hmem
    | _ => cases haction
  · intro hmem
    exact ⟨_, hmem, rfl⟩

lemma uuids_add {l m n : ℕ} (hlm : l ≤ m) (hmn : m ≤ n) :
    uuids T l m + uuids T m n = uuids T l n := by
  rw [uuids, uuids, ← Multiset.map_add, Multiset.Ico_add_Ico_eq_Ico hlm hmn, ← uuids]

lemma Account.refl (s : TurnServer) : Account T reported s [] s :=
  ⟨⟨0, 0, by simp [bound], rfl, by simp⟩, bot_le, le_rfl⟩

lemma Account.trans (h : Account T reported s₀ actions s) (h' : Account T reported s more s') :
    Account T reported s₀ (actions ++ more) s' := by
  obtain ⟨released, dropped, hbalance, hreleased, hdropped⟩ := h.balance
  obtain ⟨released', dropped', hbalance', hreleased', hdropped'⟩ := h'.balance
  refine ⟨⟨released + released', dropped + dropped', ?_, ?_, ?_⟩, ?_, h.draws.trans h'.draws⟩
  · calc live s₀ + bound (actions ++ more)
        = live s₀ + bound actions + bound more := by rw [bound_append, add_assoc]
      _ = live s + bound more + (released + dropped) := by rw [hbalance]; abel
      _ = live s' + (released + released') + (dropped + dropped') := by rw [hbalance']; abel
  · rw [Multiset.map_add, hreleased, hreleased', closed_append]
  · intro party hmem
    exact (Multiset.mem_add.mp hmem).elim (hdropped party) (hdropped' party)
  · rw [bound_append, Multiset.map_add, ← uuids_add h.draws h'.draws]
    exact add_le_add h.fresh h'.fresh

/-- The order of the actions does not matter. -/
lemma Account.perm {actions' : List TurnServerAction} (h : Account T reported s₀ actions s)
    (hperm : actions.Perm actions') : Account T reported s₀ actions' s := by
  have hbound : bound actions = bound actions' := Multiset.coe_eq_coe.mpr (hperm.filterMap _)
  have hclosed : closed actions = closed actions' := Multiset.coe_eq_coe.mpr (hperm.filterMap _)
  exact ⟨hbound ▸ hclosed ▸ h.balance, hbound ▸ h.fresh, h.draws⟩

lemma Steady.live (h : Steady s s') : live s' = live s := by rw [Turn.live, h.parties, ← Turn.live]

lemma Steady.account (h : Steady s s') (hmore : ∀ action ∈ more, action.Silent) :
    Account T reported s more s' := by
  refine ⟨⟨0, 0, ?_, ?_, by simp⟩, ?_, h.draws⟩
  · rw [bound_silent hmore, h.live]
    simp
  · rw [closed_silent hmore, Multiset.map_zero]
  · rw [bound_silent hmore, Multiset.map_zero]
    exact bot_le

lemma Kept.drawn (h : Kept T s) (hdraws : s.draws ≤ s'.draws) :
    ∀ entry ∈ parties s, entry.2.id = entry.1 ∧ Drawn T s' entry.1 := by
  intro entry hmem
  obtain ⟨hkey, n, hn, hid⟩ := h.key entry hmem
  exact ⟨hkey, n, hn.trans_le hdraws, hid⟩

lemma Steady.grown (h : Steady s s') : Grown T s s' :=
  ⟨h.draws, fun _ hmem => Or.inl (h.parties ▸ hmem)⟩

lemma Steady.kept (h : Steady s s') (hs : Kept T s) : Kept T s' :=
  ⟨h.parties.symm ▸ hs.drawn h.draws, h.parties.symm ▸ hs.quota⟩

/-! ## Methods that keep the allocations -/

/-- A method that keeps the allocations. -/
abbrev Quiet {α : Type} (m : Action α) : Prop :=
  Keeps (fun _ => True) Steady (fun _ => True) m fun _ _ => True

/-- A method that keeps the allocations and returns only silent actions. -/
abbrev Mute (m : Action (List TurnServerAction)) : Prop :=
  Keeps (fun _ => True) Steady (fun _ => True) m fun actions _ => ∀ action ∈ actions, action.Silent

lemma quiet_pure {α : Type} (a : α) : Quiet (pure a) := keeps_pure (Q := fun _ _ => True) a

lemma mute_pure {actions : List TurnServerAction} (h : ∀ action ∈ actions, action.Silent) :
    Mute (pure actions) :=
  (keeps_pure actions).strengthen fun _ _ _ => h

lemma quiet_get : Quiet get := keeps_get.weaken fun _ _ _ _ => trivial

lemma quiet_modify {g : TurnServer → TurnServer}
    (h : ∀ s, parties (g s) = parties s ∧ s.draws ≤ (g s).draws) : Quiet (modify g) :=
  keeps_modify fun s _ _ => ⟨trivial, ⟨(h s).1, (h s).2⟩, trivial⟩

lemma quiet_orThrow {α : Type} (x : Option α) : Quiet (orThrow x) := by
  cases x with
  | none => exact keeps_throw ()
  | some a => exact quiet_pure a

lemma quiet_now : Quiet (now T) := fun _ _ _ => ⟨trivial, ⟨rfl, le_rfl⟩, trivial⟩

lemma quiet_randomBytes (size : ℕ) : Quiet (randomBytes T size) :=
  fun _ _ _ => ⟨trivial, ⟨rfl, Nat.le_succ _⟩, trivial⟩

lemma quiet_issueNonce : Quiet (issueNonce T) := by
  refine keeps_bind (quiet_randomBytes 16) fun value => ?_
  refine keeps_bind quiet_now fun time => ?_
  exact keeps_bind (quiet_modify fun _ => ⟨rfl, le_rfl⟩) fun _ => quiet_pure value

lemma quiet_unauthorizedResponse (request : Message) (errorCode : ℕ) (reason : String) :
    Quiet (unauthorizedResponse T request errorCode reason) :=
  keeps_bind quiet_issueNonce fun _ => quiet_orThrow _

lemma mute_respond (client : ClientEndpoint) (response : Option Message) :
    Mute (respond client response) := by
  refine keeps_bind (quiet_orThrow response) fun message => ?_
  refine keeps_bind (quiet_orThrow message.bytes) fun data => mute_pure fun action hmem => ?_
  obtain rfl := List.mem_singleton.mp hmem
  exact ⟨rfl, rfl⟩

lemma mute_ignore (reason : IgnoreReason) : Mute (pure [.ignore reason]) := by
  refine mute_pure fun action hmem => ?_
  obtain rfl := List.mem_singleton.mp hmem
  exact ⟨rfl, rfl⟩

lemma steady_update {id : String} {f : TurnAllocation → TurnAllocation}
    (hf : ∀ a, (f a).party = a.party) : Steady s (s.update id f) := by
  unfold TurnServer.update
  split
  · rename_i a ha
    exact ⟨Js.Map.map_entries_set ha (by rw [hf a]), le_rfl⟩
  · exact refl_of Steady s

lemma quiet_updateAllocation {id : String} {f : TurnAllocation → TurnAllocation}
    (hf : ∀ a, (f a).party = a.party) : Quiet (updateAllocation id f) :=
  quiet_modify fun _ => ⟨(steady_update hf).parties, (steady_update hf).draws⟩

lemma mute_emit (source : Source) (id : String) (time : ℤ) {action : TurnServerAction}
    (h : action.Silent) : Mute (emit source id time action) := by
  refine keeps_bind (quiet_modify fun s => ?_) fun _ => mute_pure fun other hmem => ?_
  · unfold TurnServer.recordEmission
    split <;> exact ⟨rfl, le_rfl⟩
  · obtain rfl := List.mem_singleton.mp hmem
    exact h

/-- What authentication keeps: it reads the clock, issues nonces and records. -/
lemma keeps_authenticateRequest {R : TurnServer → TurnServer → Prop} [Std.Refl R]
    [IsTrans TurnServer R] (input : TurnServerClientPacket) (message : Message) (method : ℕ)
    (hrefused : ∀ errorCode reason, Keeps (fun _ => True) R (fun _ => True)
      (unauthorizedResponse T message errorCode reason) fun _ _ => True)
    (hnow : Keeps (fun _ => True) R (fun _ => True) (now T) fun _ _ => True)
    (hrecord : ∀ s event, R s (s.record event)) :
    Keeps (fun _ => True) R (fun _ => True) (authenticateRequest T input message method)
      fun _ _ => True := by
  have hreturn {α : Type} (a : α) :
      Keeps (fun _ => True) R (fun _ => True) (pure a : Action α) fun _ _ => True :=
    keeps_pure (Q := fun _ _ => True) a
  have hrefuse (errorCode : ℕ) (reason : String) : Keeps (fun _ => True) R (fun _ => True) (do
      return (.error (← unauthorizedResponse T message errorCode reason) :
        Except Message AuthenticatedRequestContext)) fun _ _ => True :=
    keeps_bind (hrefused errorCode reason) fun _ => hreturn _
  unfold authenticateRequest
  split
  case h_2 => exact hrefuse 401 "Unauthorized"
  case h_1 username realm nonce _ _ _ _ _ =>
    refine keeps_ite (fun _ => hrefuse 401 "Unauthorized") fun _ => ?_
    refine keeps_bind keeps_get fun s => ?_
    cases s.nonces.get? (Js.toHex nonce) with
    | none => exact (hrefuse 438 "Stale Nonce").strengthen fun _ _ _ => trivial
    | some nonceState =>
      refine keeps_bind (hnow.strengthen fun _ _ _ => trivial) fun checkedAt => ?_
      refine keeps_ite (fun _ => hrefuse 438 "Stale Nonce") fun _ => ?_
      cases truthy (T.options.getPassword username T.options.realm) with
      | none => exact hrefuse 401 "Unauthorized"
      | some password =>
        dsimp only
        cases parseMessage T.hmac input.data
            (some (makeTurnIntegrityKey T username T.options.realm password)) with
        | error exit =>
          cases exit with
          | undefined => exact hrefuse 401 "Unauthorized"
          | throws => exact keeps_throw ()
        | ok validated =>
          refine keeps_ite (fun _ => hrefuse 401 "Unauthorized") fun _ => ?_
          exact keeps_bind (keeps_modify fun s _ _ => ⟨trivial, hrecord s _, trivial⟩)
            fun _ => hreturn _

lemma quiet_authenticateRequest (input : TurnServerClientPacket) (message : Message) (method : ℕ) :
    Quiet (authenticateRequest T input message method) :=
  keeps_authenticateRequest input message method (quiet_unauthorizedResponse message) quiet_now
    fun _ _ => ⟨rfl, le_rfl⟩

section

variable {input : TurnServerClientPacket} {message : Message} {method : ℕ} {time : ℤ}

lemma mute_withAllocation
    {f : AuthenticatedRequestContext → TurnAllocation → Action (List TurnServerAction)}
    (hf : ∀ auth a, Mute (f auth a)) : Mute (withAllocation T input message method f) := by
  refine keeps_bind (quiet_authenticateRequest input message method) fun result => ?_
  cases result with
  | error response => exact mute_respond _ _
  | ok auth =>
    refine keeps_bind quiet_get fun s => ?_
    cases s.getClientAllocation input.clientId with
    | none => exact mute_respond _ _
    | some a => exact keeps_ite (fun _ => mute_respond _ _) fun _ => hf auth a

lemma quiet_setPermission (a : TurnAllocation) (peerAddress : Address) :
    Quiet (setPermission T a peerAddress time) :=
  quiet_updateAllocation fun _ => rfl

lemma mute_handleCreatePermissionRequest :
    Mute (handleCreatePermissionRequest T input message time) := by
  refine mute_withAllocation fun auth a => ?_
  cases message.getAddress .xorPeerAddress with
  | none => exact mute_respond _ _
  | some peerAddress =>
    refine keeps_ite (fun _ => mute_respond _ _) fun _ => ?_
    exact keeps_bind (quiet_setPermission a peerAddress) fun _ => mute_respond _ _

lemma mute_handleChannelBindRequest : Mute (handleChannelBindRequest T input message time) := by
  refine mute_withAllocation fun auth a => ?_
  split
  · rename_i channelNumber peerAddress _ _
    refine keeps_ite (fun _ => mute_respond _ _) fun _ => ?_
    refine keeps_ite (fun _ => mute_respond _ _) fun _ => ?_
    refine keeps_ite (fun _ => mute_respond _ _) fun _ => ?_
    refine keeps_ite (fun _ => mute_respond _ _) fun _ => ?_
    refine keeps_bind (quiet_setPermission a peerAddress) fun _ => ?_
    exact keeps_bind (quiet_updateAllocation fun _ => rfl) fun _ => mute_respond _ _
  · exact mute_respond _ _

lemma mute_handleBindingRequest : Mute (handleBindingRequest T input) := by
  refine keeps_bind (quiet_orThrow _) fun stunActions => mute_pure fun action hmem => ?_
  obtain ⟨stunAction, -, rfl⟩ := List.mem_map.mp hmem
  cases stunAction <;> exact ⟨rfl, rfl⟩

lemma quiet_getPermission (a : TurnAllocation) (peerAddress : Address) :
    Quiet (getPermission a peerAddress time) := by
  unfold getPermission
  cases a.permissions.get? (permissionKey peerAddress) with
  | none => exact quiet_pure none
  | some permission =>
    refine keeps_ite (fun _ => ?_) fun _ => quiet_pure _
    exact keeps_bind (quiet_updateAllocation fun _ => rfl) fun _ => quiet_pure none

lemma quiet_getChannelBinding (a : TurnAllocation) (peerAddress : Address) :
    Quiet (getChannelBinding a peerAddress time) := by
  unfold getChannelBinding
  cases a.channelsByPeer.get? (addressKey peerAddress) with
  | none => exact quiet_pure none
  | some binding =>
    refine keeps_ite (fun _ => ?_) fun _ => quiet_pure _
    exact keeps_bind (quiet_updateAllocation fun _ => rfl) fun _ => quiet_pure none

lemma mute_handleSendIndication : Mute (handleSendIndication input message time) := by
  refine keeps_bind quiet_get fun s => ?_
  cases s.getClientAllocation input.clientId with
  | none => exact mute_ignore .unknownClient
  | some a =>
    dsimp only
    split
    · refine keeps_bind (quiet_getPermission a _) fun permission => ?_
      cases permission with
      | none => exact mute_ignore .unknownChannel
      | some _ => exact mute_emit _ _ _ ⟨rfl, rfl⟩
    · exact mute_ignore .malformed

lemma mute_handleChannelData : Mute (handleChannelData input time) := by
  unfold handleChannelData
  cases decodeChannelData input.data with
  | none => exact mute_ignore .malformed
  | some channelData =>
    refine keeps_bind quiet_get fun s => ?_
    cases s.getClientAllocation input.clientId with
    | none => exact mute_ignore .unknownClient
    | some a =>
      dsimp only
      cases a.channelsByNumber.get? channelData.channelNumber with
      | none => exact mute_ignore .unknownChannel
      | some binding =>
        refine keeps_ite (fun _ => ?_) fun _ => mute_emit _ _ _ ⟨rfl, rfl⟩
        exact keeps_bind (quiet_updateAllocation fun _ => rfl) fun _ =>
          mute_ignore .unknownChannel

lemma mute_forwardRelayPacket (packet : TurnServerRelayPacket) (a : TurnAllocation) :
    Mute (forwardRelayPacket T packet a time) := by
  refine keeps_bind (quiet_getChannelBinding a packet.remoteAddress) fun channel => ?_
  refine keeps_bind (quiet_getPermission a packet.remoteAddress) fun permission => ?_
  refine keeps_ite (fun _ => mute_ignore .unknownChannel) fun _ => ?_
  have hdata : Quiet (relayedData T packet channel) := by
    unfold relayedData
    cases channel with
    | some binding => exact quiet_orThrow _
    | none => exact keeps_bind (quiet_randomBytes 12) fun _ => quiet_orThrow _
  exact keeps_bind hdata fun data => mute_emit _ _ _ ⟨rfl, rfl⟩

end

/-! ## Deleting and making an allocation -/

lemma live_delete {a b : TurnAllocation} (ha : s.allocations.get? a.id = some b)
    (hid : b.id = a.id) (hrelay : b.relayId = a.relayId) :
    live s = (a.id, a.relayId) ::ₘ live (s.delete a) := by
  have hperm := (Js.Map.perm_entries_delete ha).map fun entry =>
    (entry.2.party.id, entry.2.party.relayId)
  rw [List.map_cons, TurnAllocation.party, hid, hrelay] at hperm
  rw [live, live, parties, parties, List.map_map, List.map_map, Multiset.cons_coe]
  exact Multiset.coe_eq_coe.mpr hperm

lemma Kept.delete (h : Kept T s) (a : TurnAllocation) : Kept T (s.delete a) := by
  have hsublist : (parties (s.delete a)).Sublist (parties s) := List.filter_sublist.map _
  exact ⟨fun entry hmem => h.key entry (hsublist.subset hmem), hsublist.length_le.trans h.quota⟩

lemma grown_delete (a : TurnAllocation) : Grown T s (s.delete a) :=
  ⟨le_rfl, fun _ hmem => Or.inl ((List.filter_sublist.map _).subset hmem)⟩

lemma Kept.id_eq (h : Kept T s) {id : String} {a : TurnAllocation}
    (ha : s.allocations.get? id = some a) : a.id = id ∧ Drawn T s id :=
  h.key _ (List.mem_map_of_mem (f := fun entry : String × TurnAllocation =>
    (entry.1, entry.2.party)) (Js.Map.get?_eq_some.mp ha))

/-- What the methods do to the account. -/
abbrev Accounts (T : Setting) (reported : List String) (P : TurnServer → Prop)
    (m : Action (List TurnServerAction)) : Prop :=
  ∀ s₀ actions, Keeps (Kept T) (Grown T) (fun s => P s ∧ Account T reported s₀ actions s) m
    fun more s => Account T reported s₀ (actions ++ more) s

/-- An allocation that a method has looked up. -/
def Held (a : TurnAllocation) (s : TurnServer) : Prop :=
  ∃ b, s.allocations.get? a.id = some b ∧ b.id = a.id ∧ b.relayId = a.relayId

lemma accounts_delete (a : TurnAllocation) :
    Keeps (Kept T) (Grown T) (fun s => Held a s ∧ Account T reported s₀ actions s)
      (deleteAllocation a) fun more s => more = [.closeRelay a.relayId] ∧
        Account T reported s₀ (actions ++ [.closeRelay a.relayId]) s := by
  have hmodify : Keeps (Kept T) (Grown T) (fun s => Held a s ∧ Account T reported s₀ actions s)
      (modify fun s => s.delete a : Action PUnit) fun _ s =>
        Account T reported s₀ (actions ++ [.closeRelay a.relayId]) s := by
    refine keeps_modify fun s hI hs => ⟨hI.delete a, grown_delete a, hs.2.trans ?_⟩
    obtain ⟨b, ha, hid, hrelay⟩ := hs.1
    refine ⟨⟨{(a.id, a.relayId)}, 0, ?_, rfl, by simp⟩, bot_le, le_rfl⟩
    rw [live_delete ha hid hrelay, add_zero, add_comm (live _), Multiset.singleton_add]
    exact add_zero _
  exact keeps_bind hmodify fun _ => (keeps_pure _).strengthen fun _ _ hs => ⟨rfl, hs⟩

/-- The relay of an allocation whose bind failed is not closed. -/
lemma accounts_delete_reported {a : TurnAllocation} (hreported : a.id ∈ reported) :
    Keeps (Kept T) (Grown T) (fun s => Held a s ∧ Account T reported s₀ actions s)
      (deleteAllocation a) fun _ s => Account T reported s₀ actions s := by
  have hmodify : Keeps (Kept T) (Grown T) (fun s => Held a s ∧ Account T reported s₀ actions s)
      (modify fun s => s.delete a : Action PUnit) fun _ s => Account T reported s₀ actions s := by
    refine keeps_modify fun s hI hs => ⟨hI.delete a, grown_delete a, ?_⟩
    obtain ⟨b, ha, hid, hrelay⟩ := hs.1
    rw [← List.append_nil actions]
    refine hs.2.trans ⟨⟨0, {(a.id, a.relayId)}, ?_, rfl, ?_⟩, bot_le, le_rfl⟩
    · rw [live_delete ha hid hrelay, add_zero, add_comm (live _), Multiset.singleton_add]
      exact add_zero _
    · intro party hmem
      rw [Multiset.mem_singleton.mp hmem]
      exact hreported
  exact keeps_bind hmodify fun _ => (keeps_pure _).strengthen fun _ _ hs => hs

lemma accounts_createAllocation {input : TurnServerClientPacket} {message : Message}
    (auth : AuthenticatedRequestContext) :
    Accounts T reported (fun s => s.allocations.size < T.options.maxAllocations)
      (createAllocation T input message auth) := by
  rintro s₀ actions s hI ⟨hsize, haccount⟩
  have hnone : s.allocations.get? (T.randomUUID s.draws) = none :=
    Option.eq_none_iff_forall_ne_some.mpr fun a ha => not_drawn le_rfl (hI.id_eq ha).2
  let allocation : TurnAllocation :=
    { id := T.randomUUID s.draws
      relayId := T.randomUUID (s.draws + 1)
      username := auth.username
      client := clientEndpoint input
      mappedAddress := input.remoteAddress
      lifetime := clampLifetime T (message.getNumber .lifetime)
      pendingAllocate := some ⟨clientEndpoint input, auth.integrityKey, message⟩ }
  let s' : TurnServer := { s with draws := s.draws + 1 + 1 }.insert allocation
  have hparties : parties s' = parties s ++
      [(T.randomUUID s.draws, allocation.party)] := by
    change List.map _ (s.allocations.set _ allocation).entries = _
    rw [Js.Map.entries_set_of_none hnone, List.map_append]
    rfl
  have hdraws : s.draws ≤ s'.draws := (Nat.le_succ _).trans (Nat.le_succ _)
  have hgrown : Grown T s s' := by
    refine ⟨hdraws, fun entry hmem => ?_⟩
    rw [hparties, List.mem_append, List.mem_singleton] at hmem
    exact hmem.imp_right fun hnew => ⟨s.draws, le_rfl, congrArg Prod.fst hnew⟩
  have hgoal : Kept T s' ∧ Grown T s s' ∧ Account T reported s₀ (actions ++
      [.bindRelay (T.randomUUID s.draws) (T.randomUUID (s.draws + 1))]) s' := by
    refine ⟨⟨fun entry hmem => ?_, ?_⟩, hgrown, haccount.trans ⟨⟨0, 0, ?_, rfl, by simp⟩, ?_, hdraws⟩⟩
    · rw [hparties, List.mem_append, List.mem_singleton] at hmem
      rcases hmem with hmem | rfl
      · exact hI.drawn hdraws entry hmem
      · exact ⟨rfl, s.draws, (Nat.lt_succ_self _).trans (Nat.lt_succ_self _), rfl⟩
    · rw [hparties, List.length_append, List.length_singleton, parties, List.length_map]
      exact hsize
    · rw [live, live, hparties, List.map_append, ← Multiset.coe_add, add_zero, add_zero]
      rfl
    · change {T.randomUUID (s.draws + 1)} ≤ uuids T s.draws (s.draws + 1 + 1)
      rw [Multiset.singleton_le, uuids]
      exact Multiset.mem_map_of_mem _ (Multiset.mem_Ico.mpr ⟨Nat.le_succ _, Nat.lt_succ_self _⟩)
  exact hgoal

/-! ## The accounts of the methods -/

/-- What a change that keeps the allocations leaves as it was. -/
lemma Account.extend (h : Account T reported s₀ actions s) (hs : Steady s s')
    (hmore : ∀ action ∈ more, action.Silent) : Account T reported s₀ (actions ++ more) s' :=
  h.trans (hs.account hmore)

lemma Account.silent (h : Account T reported s₀ actions s)
    (hmore : ∀ action ∈ more, action.Silent) : Account T reported s₀ (actions ++ more) s :=
  h.extend (refl_of Steady s) hmore

lemma Quiet.keeps {α : Type} {m : Action α} (h : Quiet m) {P : TurnServer → Prop}
    (hP : ∀ s s', Steady s s' → P s → P s') :
    Keeps (Kept T) (Grown T) P m fun _ s => P s := by
  intro s hI hs
  have hspec := h s trivial trivial
  cases hm : m.run s with
  | ok a s' =>
    rw [hm] at hspec
    obtain ⟨-, hsteady, -⟩ := hspec
    exact ⟨hsteady.kept hI, hsteady.grown, hP s s' hsteady hs⟩
  | error e s' =>
    rw [hm] at hspec
    exact ⟨hspec.2.kept hI, hspec.2.grown⟩

lemma Mute.accounts {m : Action (List TurnServerAction)} (h : Mute m) {P : TurnServer → Prop} :
    Accounts T reported P m := by
  rintro s₀ actions s hI ⟨-, haccount⟩
  have hspec := h s trivial trivial
  cases hm : m.run s with
  | ok more s' =>
    rw [hm] at hspec
    obtain ⟨-, hsteady, hmore⟩ := hspec
    exact ⟨hsteady.kept hI, hsteady.grown, haccount.extend hsteady hmore⟩
  | error e s' =>
    rw [hm] at hspec
    exact ⟨hspec.2.kept hI, hspec.2.grown⟩

lemma Account.steady (h : Account T reported s₀ actions s) (hs : Steady s s') :
    Account T reported s₀ actions s' := by
  rw [← List.append_nil actions]
  exact h.extend hs fun _ hmem => absurd hmem List.not_mem_nil

/-- A step that keeps the allocations may come first. -/
lemma Quiet.accounts_bind {α : Type} {m : Action α} {f : α → Action (List TurnServerAction)}
    (h : Quiet m) (hf : ∀ a, Accounts T reported (fun _ => True) (f a)) {P : TurnServer → Prop} :
    Accounts T reported P (m >>= f) := by
  intro s₀ actions
  refine keeps_bind ((h.keeps fun _ _ hs (haccount : Account T reported s₀ actions _) =>
    haccount.steady hs).strengthen fun _ _ hs => hs.2) fun a => ?_
  exact (hf a s₀ actions).strengthen fun _ _ hs => ⟨trivial, hs⟩

lemma Accounts.strengthen {m : Action (List TurnServerAction)} {P P' : TurnServer → Prop}
    (h : Accounts T reported P m) (hP : ∀ s, Kept T s → P' s → P s) : Accounts T reported P' m :=
  fun s₀ actions => (h s₀ actions).conseq (fun s hI hs => ⟨hP s hI hs.1, hs.2⟩) fun _ _ _ h => h

lemma Kept.held (h : Kept T s) {id : String} {a : TurnAllocation}
    (ha : s.allocations.get? id = some a) : Held a s :=
  have hid : a.id = id := (h.id_eq ha).1
  ⟨a, hid ▸ ha, rfl, rfl⟩

lemma Kept.held_allocationOf (h : Kept T s) {id : Option String} {a : TurnAllocation}
    (ha : s.allocationOf id = some a) : Held a s := by
  obtain ⟨id, -, hget⟩ := Option.bind_eq_some_iff.mp ha
  exact h.held hget

section

variable {input : TurnServerClientPacket} {message : Message} {method : ℕ} {time : ℤ}

lemma accounts_withAuthentication {f : AuthenticatedRequestContext → Action (List TurnServerAction)}
    (hf : ∀ auth, Accounts T reported (fun _ => True) (f auth)) :
    Accounts T reported (fun _ => True) (withAuthentication T input message method f) := by
  refine (quiet_authenticateRequest input message method).accounts_bind fun result => ?_
  cases result with
  | error response => exact (mute_respond _ _).accounts
  | ok auth => exact hf auth

lemma accounts_refuse (auth : AuthenticatedRequestContext) (errorCode : ℕ) (reason : String)
    {P : TurnServer → Prop} :
    Accounts T reported P (refuse T input message auth errorCode reason) :=
  (mute_respond _ _).accounts

lemma accounts_handleAllocateRequest :
    Accounts T reported (fun _ => True) (handleAllocateRequest T input message) := by
  refine accounts_withAuthentication fun auth s₀ actions => ?_
  cases message.getNumber .requestedTransport with
  | none => exact accounts_refuse auth 400 "Bad Request" s₀ actions
  | some requestedTransport =>
    refine keeps_ite (fun _ => accounts_refuse auth 442 _ s₀ actions) fun _ => ?_
    refine keeps_ite (fun _ => accounts_refuse auth 440 _ s₀ actions) fun _ => ?_
    refine keeps_ite (fun _ => accounts_refuse auth 508 _ s₀ actions) fun _ => ?_
    refine keeps_bind keeps_get fun s => ?_
    refine keeps_ite (fun _ => ?_) fun _ => keeps_ite (fun _ => ?_) fun hquota => ?_
    · exact (accounts_refuse auth 437 _ s₀ actions).strengthen fun _ _ hs => hs.2
    · exact (accounts_refuse auth 486 _ s₀ actions).strengthen fun _ _ hs => hs.2
    · refine (accounts_createAllocation auth s₀ actions).strengthen fun s' _ hs => ?_
      obtain ⟨rfl, -, haccount⟩ := hs
      exact ⟨not_le.mp hquota, haccount⟩

lemma accounts_withAllocation
    {f : AuthenticatedRequestContext → TurnAllocation → Action (List TurnServerAction)}
    (hf : ∀ auth a, Accounts T reported (Held a) (f auth a)) :
    Accounts T reported (fun _ => True) (withAllocation T input message method f) := by
  refine accounts_withAuthentication fun auth s₀ actions => keeps_bind keeps_get fun s => ?_
  cases ha : s.getClientAllocation input.clientId with
  | none =>
    exact (accounts_refuse auth 437 "Allocation Mismatch" s₀ actions).strengthen fun _ _ hs => hs.2
  | some a =>
    refine keeps_ite (fun _ => ?_) fun _ => ?_
    · exact (accounts_refuse auth 437 _ s₀ actions).strengthen fun _ _ hs => hs.2
    · refine (hf auth a s₀ actions).strengthen fun s' hI hs => ?_
      obtain ⟨rfl, -, haccount⟩ := hs
      exact ⟨hI.held_allocationOf ha, haccount⟩

lemma accounts_handleRefreshRequest :
    Accounts T reported (fun _ => True) (handleRefreshRequest T input message time) := by
  refine accounts_withAllocation fun auth a s₀ actions => keeps_ite (fun _ => ?_) fun _ => ?_
  · refine keeps_bind (accounts_delete a) fun deleted => ?_
    refine keeps_of_pre (fun _ _ hs => hs.1) fun hdeleted => ?_
    subst hdeleted
    refine keeps_bind (((mute_respond _ _).accounts (P := fun _ => True) s₀ _).strengthen
      fun _ _ hs => ⟨trivial, hs.2⟩) fun response => ?_
    refine (keeps_pure _).strengthen fun s _ haccount => haccount.perm ?_
    -- the response stands in front of the action that closes the relay
    rw [List.append_assoc]
    exact List.perm_append_comm.append_left actions
  · refine Mute.accounts ?_ s₀ actions
    exact keeps_bind (quiet_updateAllocation fun _ => rfl) fun _ => mute_respond _ _

lemma accounts_handleMessage :
    Accounts T reported (fun _ => True) (handleMessage T input message time) := by
  intro s₀ actions
  unfold handleMessage
  refine keeps_ite (fun _ => ?_) fun _ => ?_
  · refine keeps_ite (fun _ => (mute_ignore _).accounts s₀ actions) fun _ => ?_
    refine keeps_ite (fun _ => (mute_ignore _).accounts s₀ actions) fun _ => ?_
    exact mute_handleSendIndication.accounts s₀ actions
  refine keeps_ite (fun _ => (mute_ignore _).accounts s₀ actions) fun _ => ?_
  refine keeps_ite (fun _ => (mute_respond _ _).accounts s₀ actions) fun _ => ?_
  refine keeps_ite (fun _ => mute_handleBindingRequest.accounts s₀ actions) fun _ => ?_
  refine keeps_ite (fun _ => accounts_handleAllocateRequest s₀ actions) fun _ => ?_
  refine keeps_ite (fun _ => accounts_handleRefreshRequest s₀ actions) fun _ => ?_
  refine keeps_ite (fun _ => mute_handleCreatePermissionRequest.accounts s₀ actions) fun _ => ?_
  refine keeps_ite (fun _ => mute_handleChannelBindRequest.accounts s₀ actions) fun _ => ?_
  exact (mute_respond _ _).accounts s₀ actions

lemma accounts_dispatchPacket :
    Accounts T reported (fun _ => True) (dispatchPacket T input time) := by
  intro s₀ actions
  unfold dispatchPacket
  refine keeps_ite (fun _ => mute_handleChannelData.accounts s₀ actions) fun _ => ?_
  refine keeps_ite (fun _ => (mute_ignore _).accounts s₀ actions) fun _ => ?_
  cases parseMessage T.hmac input.data none with
  | error exit =>
    cases exit with
    | undefined => exact (mute_ignore _).accounts s₀ actions
    | throws => exact keeps_throw ()
  | ok message => exact accounts_handleMessage s₀ actions

end

/-! ## The public interface -/

section

variable {time : ℤ}

lemma party_cleanup (a : TurnAllocation) (time : ℤ) :
    ((a.cleanupPermissions time).cleanupChannels time).party = a.party := by
  have hfold (bindings : List TurnChannelBinding) (a : TurnAllocation) :
      (bindings.foldl TurnAllocation.removeChannelBinding a).party = a.party := by
    induction bindings generalizing a with
    | nil => rfl
    | cons binding bindings ih => exact ih _
  exact hfold _ _

/-- A turn of the loop of `cleanupExpired`. -/
lemma accounts_cleanupAllocation (a : TurnAllocation) (l : List TurnAllocation) :
    Keeps (Kept T) (Grown T) (fun s => Pending (a :: l) s ∧ Account T reported s₀ actions s)
      (cleanupAllocation time a) fun more s =>
        Pending l s ∧ Account T reported s₀ (actions ++ more) s := by
  refine keeps_ite (fun _ => ?_) fun _ => ?_
  · have hdelete : Keeps (Kept T) (Grown T) (fun s => Pending (a :: l) s) (deleteAllocation a)
        fun _ s => Pending l s := by
      refine keeps_bind (keeps_modify fun s hI hs => ⟨hI.delete a, grown_delete a, ?_⟩) fun _ =>
        keeps_pure _
      exact hs.tail fun id hid => Js.Map.get?_delete.trans (if_neg hid)
    refine (hdelete.and (accounts_delete a)).conseq (fun s hI hs => ⟨hs.1, ?_, hs.2⟩) ?_
    · obtain ⟨b, hb, hparty⟩ := hs.1.2 a List.mem_cons_self
      exact ⟨b, hb, hparty.id, hparty.relayId⟩
    · rintro more s - ⟨hpending, rfl, haccount⟩
      exact ⟨hpending, haccount⟩
  · have hsteady (s : TurnServer) : Steady s (s.update a.id fun a =>
        (a.cleanupPermissions time).cleanupChannels time) :=
      steady_update fun b => party_cleanup b time
    refine keeps_bind (keeps_modify fun s hI hs => ⟨(hsteady s).kept hI, (hsteady s).grown, ?_⟩)
      fun _ => keeps_pure []
    refine ⟨hs.1.tail fun id hid => ?_, ?_⟩
    · rw [get?_update, if_neg hid]
    · rw [List.append_nil]
      exact hs.2.steady (hsteady s)

lemma accounts_cleanupExpired :
    Accounts T reported (fun _ => True) (cleanupExpired time) := by
  refine Quiet.accounts_bind ?_ fun _ s₀ actions => ?_
  · exact quiet_modify fun _ => ⟨rfl, le_rfl⟩
  refine keeps_bind keeps_get fun s => ?_
  refine (keeps_concatMapM_append (P := fun l more s =>
    Pending l s ∧ Account T reported s₀ (actions ++ more) s) ?_ _ []).conseq ?_ ?_
  · intro a l more
    refine (accounts_cleanupAllocation a l).weaken fun more' s' _ hs => ?_
    rwa [← List.append_assoc]
  · rintro s' hI ⟨rfl, -, haccount⟩
    rw [List.append_nil]
    exact ⟨pending_values fun id a ha => (hI.id_eq ha).1, haccount⟩
  · exact fun _ _ _ hs => hs.2

/-- The rest of a method that has collected the actions `more` and returns them with others. -/
abbrev Continues (T : Setting) (reported : List String) (more : List TurnServerAction)
    (P : TurnServer → Prop) (m : Action (List TurnServerAction)) : Prop :=
  ∀ s₀ actions, Keeps (Kept T) (Grown T) (fun s => P s ∧ Account T reported s₀ (actions ++ more) s) m
    fun all s => Account T reported s₀ (actions ++ all) s

lemma continues_finalize {P : TurnServer → Prop} :
    Continues T reported more P (finalizeActions more time) := by
  intro s₀ actions
  refine keeps_bind keeps_get fun s => ?_
  cases s.computeNextTimeoutAt with
  | none => exact (keeps_pure _).strengthen fun _ _ hs => hs.2.2
  | some next =>
    refine (keeps_pure _).strengthen fun s' _ hs => ?_
    rw [← List.append_assoc]
    refine hs.2.2.silent fun action hmem => ?_
    obtain rfl := List.mem_singleton.mp hmem
    exact ⟨rfl, rfl⟩

/-- A method that collects more actions comes first. -/
lemma Accounts.continues_bind {m : Action (List TurnServerAction)} {P : TurnServer → Prop}
    {f : List TurnServerAction → Action (List TurnServerAction)} (h : Accounts T reported P m)
    (hf : ∀ rest, Continues T reported (more ++ rest) (fun _ => True) (f rest)) :
    Continues T reported more P (m >>= f) := by
  intro s₀ actions
  refine keeps_bind (h s₀ (actions ++ more)) fun rest => ?_
  refine (hf rest s₀ actions).strengthen fun _ _ haccount => ?_
  rw [← List.append_assoc]
  exact ⟨trivial, haccount⟩

/-- An action that is neither of the two is added. -/
lemma Continues.silent {m : Action (List TurnServerAction)} {P : TurnServer → Prop}
    {action : TurnServerAction} (h : Continues T reported (more ++ [action]) P m)
    (haction : action.Silent) : Continues T reported more P m := by
  refine fun s₀ actions => (h s₀ actions).strengthen fun _ _ hs => ⟨hs.1, ?_⟩
  rw [← List.append_assoc]
  refine hs.2.silent fun other hmem => ?_
  obtain rfl := List.mem_singleton.mp hmem
  exact haction

lemma Quiet.continues_bind {α : Type} {m : Action α} {f : α → Action (List TurnServerAction)}
    (h : Quiet m) (hf : ∀ a, Continues T reported more (fun _ => True) (f a))
    {P : TurnServer → Prop} : Continues T reported more P (m >>= f) := by
  intro s₀ actions
  refine keeps_bind ((h.keeps fun _ _ hs (haccount : Account T reported s₀ (actions ++ more) _) =>
    haccount.steady hs).strengthen fun _ _ hs => hs.2) fun a => ?_
  exact (hf a s₀ actions).strengthen fun _ _ hs => ⟨trivial, hs⟩

lemma continues_get {f : TurnServer → Action (List TurnServerAction)}
    (hf : ∀ s, Continues T reported more (fun s' => s = s') (f s)) {P : TurnServer → Prop} :
    Continues T reported more P (get >>= f) := by
  refine fun s₀ actions => keeps_bind keeps_get fun s => ?_
  exact (hf s s₀ actions).strengthen fun _ _ hs => ⟨hs.1, hs.2.2⟩

/-- Every public method starts by cleaning up. -/
lemma accounts_start {f : ℤ → List TurnServerAction → Action (List TurnServerAction)}
    (hf : ∀ time more, Continues T reported more (fun _ => True) (f time more)) :
    Accounts T reported (fun _ => True) (do
      let time ← now T
      let more ← cleanupExpired time
      f time more) := by
  refine quiet_now.accounts_bind fun time s₀ actions => ?_
  refine keeps_bind (accounts_cleanupExpired s₀ actions) fun more => ?_
  exact (hf time more s₀ actions).strengthen fun _ _ hs => ⟨trivial, hs⟩

lemma accounts_handleClientPacket (input : TurnServerClientPacket) :
    Accounts T reported (fun _ => True) (handleClientPacket T input) := by
  refine accounts_start fun time more => accounts_dispatchPacket.continues_bind fun rest => ?_
  exact fun s₀ actions => (keeps_pure _).strengthen fun _ _ hs => hs.2

lemma accounts_handleClientDatagram (input : TurnServerClientPacket) :
    Accounts T reported (fun _ => True) (handleClientDatagram T input) := by
  intro s₀ actions
  refine keeps_bind (accounts_handleClientPacket input s₀ actions) fun more => ?_
  refine (quiet_now.continues_bind (P := fun _ => True) (fun time => continues_finalize)
    s₀ actions).strengthen fun _ _ hs => ⟨trivial, hs⟩

lemma accounts_handleTcpChunk (input : TurnServerTcpChunk) :
    Accounts T reported (fun _ => True) (handleTcpChunk T input) := by
  refine accounts_start fun time more => continues_get fun s => ?_
  refine fun s₀ actions => keeps_ite (fun _ => ?_) fun _ => ?_
  · refine Quiet.continues_bind ?_ (fun _ => ?_) s₀ actions
    · exact quiet_modify fun _ => ⟨rfl, le_rfl⟩
    · exact Continues.silent continues_finalize ⟨rfl, rfl⟩
  · refine Quiet.continues_bind ?_ (fun _ => ?_) s₀ actions
    · exact quiet_modify fun _ => ⟨rfl, le_rfl⟩
    · refine Accounts.continues_bind (P := fun _ => True) (fun s₀ actions => ?_) fun rest =>
        continues_finalize
      refine (keeps_concatMapM_append (P := fun _ more s =>
        Account T reported s₀ (actions ++ more) s) (fun frame _ more => ?_) _ []).conseq ?_ ?_
      · refine (accounts_handleClientPacket (framePacket input frame) s₀ (actions ++ more)).conseq
          (fun _ _ hs => ⟨trivial, hs⟩) fun rest _ _ hs => ?_
        rwa [← List.append_assoc]
      · intro s _ hs
        rw [List.append_nil]
        exact hs.2
      · exact fun _ _ _ hs => hs

lemma accounts_handleRelayPacket (input : TurnServerRelayPacket) :
    Accounts T reported (fun _ => True) (handleRelayPacket T input) := by
  refine accounts_start fun time more => continues_get fun s => ?_
  have hunknown : Continues T reported more (fun s' => s = s')
      (finalizeActions (more ++ [.ignore .unknownRelay]) time) :=
    Continues.silent continues_finalize ⟨rfl, rfl⟩
  cases s.getRelayAllocation input.relayId with
  | none => exact hunknown
  | some a =>
    refine fun s₀ actions => keeps_ite (fun _ => hunknown s₀ actions) fun _ => ?_
    exact (mute_forwardRelayPacket input a).accounts.continues_bind
      (fun rest => continues_finalize) s₀ actions

lemma accounts_handleRelayBound (input : TurnServerRelayBound) :
    Accounts T reported (fun _ => True) (handleRelayBound T input) := by
  refine accounts_start fun time more => continues_get fun s => ?_
  have hunknown : Continues T reported more (fun s' => s = s')
      (finalizeActions (more ++ [.ignore .unknownRelay]) time) :=
    Continues.silent continues_finalize ⟨rfl, rfl⟩
  cases s.allocations.get? input.allocationId with
  | none => exact hunknown
  | some a =>
    dsimp only
    cases a.pendingAllocate with
    | none => exact hunknown
    | some pending =>
      refine fun s₀ actions => keeps_ite (fun _ => hunknown s₀ actions) fun _ => ?_
      refine Quiet.continues_bind ?_ (fun _ => ?_) s₀ actions
      · exact quiet_updateAllocation fun _ => rfl
      · exact (mute_respond _ _).accounts.continues_bind (P := fun _ => True) fun rest =>
          continues_finalize

lemma accounts_handleRelayBindFailure (input : TurnServerRelayBindFailure)
    (hreported : input.allocationId ∈ reported) :
    Accounts T reported (fun _ => True) (handleRelayBindFailure T input) := by
  refine accounts_start fun time more => continues_get fun s => ?_
  have hunknown : Continues T reported more (fun s' => s = s')
      (finalizeActions (more ++ [.ignore .unknownRelay]) time) :=
    Continues.silent continues_finalize ⟨rfl, rfl⟩
  cases ha : s.allocations.get? input.allocationId with
  | none => exact hunknown
  | some a =>
    dsimp only
    cases a.pendingAllocate with
    | none => exact hunknown
    | some pending =>
      intro s₀ actions
      refine keeps_of_pre (c := a.id = input.allocationId) (fun s' hI hs =>
        (hI.id_eq (hs.1 ▸ ha)).1) fun hid => ?_
      refine keeps_bind ((accounts_delete_reported (hid ▸ hreported)).strengthen
        fun s' hI hs => ⟨hI.held (hs.1 ▸ ha), hs.2⟩) fun _ => ?_
      refine ((mute_respond _ _).accounts.continues_bind (P := fun _ => True)
        (fun rest => continues_finalize) s₀ actions).strengthen fun _ _ hs => ⟨trivial, hs⟩

lemma accounts_handleClientClosed (clientId : String) :
    Accounts T reported (fun _ => True) (handleClientClosed T clientId) := by
  refine accounts_start fun time more => Quiet.continues_bind ?_ fun _ => ?_
  · exact quiet_modify fun _ => ⟨rfl, le_rfl⟩
  refine continues_get fun s => ?_
  cases ha : s.getClientAllocation clientId with
  | none => exact continues_finalize
  | some a =>
    refine fun s₀ actions => keeps_bind ((accounts_delete a).strengthen fun s' hI hs =>
      ⟨hI.held_allocationOf (hs.1 ▸ ha), hs.2⟩) fun deleted => ?_
    refine keeps_of_pre (fun _ _ hs => hs.1) fun hdeleted => ?_
    subst hdeleted
    refine (continues_finalize (P := fun _ => True) s₀ actions).strengthen fun _ _ hs => ?_
    rw [← List.append_assoc]
    exact ⟨trivial, hs.2⟩

lemma accounts_handleTimer (given : Option ℤ) :
    Accounts T reported (fun _ => True) (handleTimer T given) := by
  have hrest (time : ℤ) : Accounts T reported (fun _ => True) (do
      finalizeActions (← cleanupExpired time) time) := by
    refine fun s₀ actions => keeps_bind (accounts_cleanupExpired s₀ actions) fun more => ?_
    exact (continues_finalize (P := fun _ => True) s₀ actions).strengthen
      fun _ _ hs => ⟨trivial, hs⟩
  cases given with
  | some time => exact hrest time
  | none => exact quiet_now.accounts_bind hrest

end

/-- The allocation whose bind failure a call reports. -/
def Call.failedBinds : Call → List String
  | .relayBindFailure input => [input.allocationId]
  | _ => []

/-- **A call** accounts for every allocation it makes or deletes. -/
theorem accounts_serve (call : Call) (hreported : ∀ id ∈ call.failedBinds, id ∈ reported) :
    Accounts T reported (fun _ => True) (serve T call) := by
  cases call with
  | clientDatagram input => exact accounts_handleClientDatagram input
  | tcpChunk input => exact accounts_handleTcpChunk input
  | relayPacket input => exact accounts_handleRelayPacket input
  | relayBound input => exact accounts_handleRelayBound input
  | relayBindFailure input =>
    exact accounts_handleRelayBindFailure input (hreported _ List.mem_cons_self)
  | clientClosed clientId => exact accounts_handleClientClosed clientId
  | timer time => exact accounts_handleTimer time

end Werift.Turn
