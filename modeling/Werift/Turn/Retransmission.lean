import Werift.Turn.Answers

/-!
# Requests that are sent again

A client sends a request again if the response is late.  The server has no table of transactions: it
handles the same datagram once more.  `retransmission_answered`: as long as the allocation lives and
the nonce is valid, the second copy of a request other than `ALLOCATE` is answered with the same
success, unless a channel has been bound otherwise, and the second copy of an `ALLOCATE` is refused.
-/

namespace Werift.Turn

open Stun Contract Transition

variable {T : Setting} {s s' : TurnServer} {input : TurnServerClientPacket} {message : Message}
  {more : List TurnServerAction} {data : Bytes}

/-! ## Cleaning up -/

/-- Whether an allocation has ended. -/
def TurnAllocation.expired (a : TurnAllocation) (now : ℤ) : Bool :=
  a.expiresAt.any fun time => time ≠ 0 && time ≤ now

/-- The state after a turn of the loop of `cleanupExpired`. -/
def afterTurn (now : ℤ) (s : TurnServer) (a : TurnAllocation) : TurnServer :=
  if a.expired now then s.delete a
  else s.update a.id fun a => (a.cleanupPermissions now).cleanupChannels now

/-- The state after `cleanupExpired`. -/
def cleaned (now : ℤ) (s : TurnServer) : TurnServer :=
  s.allocations.values.foldl (afterTurn now)
    { s with nonces := s.nonces.filter fun _ nonce => now < nonce.expiresAt }

/-- The actions of `cleanupExpired` close relays. -/
def Closes (actions : List TurnServerAction) : Prop :=
  ∀ action ∈ actions, ∃ relayId, action = .closeRelay relayId

lemma run_cleanupAllocation (now : ℤ) (s : TurnServer) (a : TurnAllocation) :
    ∃ actions, (cleanupAllocation now a).run s = .ok actions (afterTurn now s a) ∧
      Closes actions := by
  unfold cleanupAllocation afterTurn TurnAllocation.expired
  split_ifs
  · exact ⟨[.closeRelay a.relayId], rfl, fun action hmem =>
      ⟨a.relayId, List.mem_singleton.mp hmem⟩⟩
  · exact ⟨[], rfl, fun action hmem => absurd hmem List.not_mem_nil⟩

/-- Cleaning up always returns. -/
lemma run_cleanupExpired (now : ℤ) (s : TurnServer) : ∃ actions,
    (cleanupExpired now).run s = .ok actions (cleaned now s) ∧ Closes actions := by
  have hloop (l : List TurnAllocation) (s : TurnServer) : ∃ actions,
      (concatMapM (cleanupAllocation now) l).run s = .ok actions (l.foldl (afterTurn now) s) ∧
        Closes actions := by
    induction l generalizing s with
    | nil => exact ⟨[], rfl, fun action hmem => absurd hmem List.not_mem_nil⟩
    | cons a l ih =>
      obtain ⟨first, hfirst, hcloses⟩ := run_cleanupAllocation now s a
      obtain ⟨rest, hrest, hcloses'⟩ := ih (afterTurn now s a)
      refine ⟨first ++ rest, run_bind_eq_ok.mpr ⟨first, _, hfirst,
        run_bind_eq_ok.mpr ⟨rest, _, hrest, rfl⟩⟩, fun action hmem => ?_⟩
      exact (List.mem_append.mp hmem).elim (hcloses action) (hcloses' action)
  obtain ⟨actions, hrun, hcloses⟩ := hloop s.allocations.values
    { s with nonces := s.nonces.filter fun _ nonce => now < nonce.expiresAt }
  exact ⟨actions, run_bind_eq_ok.mpr ⟨⟨⟩, _, rfl, run_bind_eq_ok.mpr ⟨_, _, rfl, hrun⟩⟩, hcloses⟩

/-- An allocation after something of it may have been cleaned up. -/
structure Trimmed (a a' : TurnAllocation) : Prop where
  party : a'.party = a.party
  byNumber : ∀ n b, a'.channelsByNumber.get? n = some b → a.channelsByNumber.get? n = some b
  byPeer : ∀ key b, a'.channelsByPeer.get? key = some b → a.channelsByPeer.get? key = some b

lemma Trimmed.trans {a a' a'' : TurnAllocation} (h : Trimmed a a') (h' : Trimmed a' a'') :
    Trimmed a a'' :=
  ⟨h'.party.trans h.party, fun n b hb => h.byNumber n b (h'.byNumber n b hb),
    fun key b hb => h.byPeer key b (h'.byPeer key b hb)⟩

lemma trimmed_removeChannelBinding (a : TurnAllocation) (binding : TurnChannelBinding) :
    Trimmed a (a.removeChannelBinding binding) := by
  refine ⟨rfl, fun n b hb => ?_, fun key b hb => ?_⟩
  · rw [TurnAllocation.removeChannelBinding, Js.Map.get?_delete] at hb
    exact (Option.ite_none_left_eq_some.mp hb).2
  · rw [TurnAllocation.removeChannelBinding, Js.Map.get?_delete] at hb
    exact (Option.ite_none_left_eq_some.mp hb).2

lemma trimmed_cleanup (a : TurnAllocation) (now : ℤ) :
    Trimmed a ((a.cleanupPermissions now).cleanupChannels now) := by
  have hfold (bindings : List TurnChannelBinding) (a : TurnAllocation) :
      Trimmed a (bindings.foldl TurnAllocation.removeChannelBinding a) := by
    induction bindings generalizing a with
    | nil => exact ⟨rfl, fun _ _ hb => hb, fun _ _ hb => hb⟩
    | cons binding bindings ih => exact (trimmed_removeChannelBinding a binding).trans (ih _)
  have hpermissions : Trimmed a (a.cleanupPermissions now) :=
    ⟨rfl, fun _ _ hb => hb, fun _ _ hb => hb⟩
  exact hpermissions.trans (hfold _ _)

/-- The allocation that a state has for a client comes from another one. -/
def Survives (clientId id : String) (a : TurnAllocation) (s : TurnServer) : Prop :=
  truthy (s.allocationIdByClientId.get? clientId) = some id ∧
    ∃ a', s.allocations.get? id = some a' ∧ Trimmed a a'

lemma Survives.afterTurn {clientId id : String} {a b : TurnAllocation} {now : ℤ}
    (h : Survives clientId id a s) (hb : b.expired now = true → b.id ≠ id ∧ b.client.clientId ≠ clientId) :
    Survives clientId id a (afterTurn now s b) := by
  obtain ⟨hindex, a', ha', htrimmed⟩ := h
  unfold Turn.afterTurn
  split_ifs with hexpired
  · obtain ⟨hid, hclient⟩ := hb hexpired
    refine ⟨?_, a', ?_, htrimmed⟩
    · rwa [TurnServer.delete, Js.Map.get?_delete, if_neg hclient.symm]
    · rwa [TurnServer.delete, Js.Map.get?_delete, if_neg hid.symm]
  · refine ⟨?_, ?_⟩
    · unfold TurnServer.update
      split <;> exact hindex
    · rw [get?_update]
      split_ifs with heq
      · exact ⟨_, by rw [← heq, ha', Option.map_some], htrimmed.trans (trimmed_cleanup a' now)⟩
      · exact ⟨a', ha', htrimmed⟩

/-- **Cleaning up.**  An allocation that has not expired is still there. -/
lemma getClientAllocation_cleaned (hs : Consistent T s) {clientId : String} {a : TurnAllocation}
    {now : ℤ} (ha : s.getClientAllocation clientId = some a) (hlives : a.expired now = false) :
    ∃ a', (cleaned now s).getClientAllocation clientId = some a' ∧ Trimmed a a' := by
  obtain ⟨hget, hclient⟩ := hs.getClientAllocation_eq_some ha
  obtain ⟨id, hid, hget'⟩ := Option.bind_eq_some_iff.mp ha
  obtain rfl : a.id = id := (hs.allocation id a hget').key
  have hstart : Survives clientId a.id a
      { s with nonces := s.nonces.filter fun _ nonce => now < nonce.expiresAt } :=
    ⟨hid, a, hget, rfl, fun _ _ hb => hb, fun _ _ hb => hb⟩
  have hother (b : TurnAllocation) (hb : b ∈ s.allocations.values) (hexpired : b.expired now = true) :
      b.id ≠ a.id ∧ b.client.clientId ≠ clientId := by
    obtain ⟨key, hkey⟩ := Js.Map.mem_values.mp hb
    obtain rfl := (hs.allocation key b hkey).key
    have hne : b.id ≠ a.id := by
      intro heq
      obtain rfl := Option.some.inj (hkey.symm.trans (heq ▸ hget))
      exact absurd hexpired (by rw [hlives]; exact Bool.false_ne_true)
    exact ⟨hne, fun heq => hne (hs.eq_of_client hkey hget (heq.trans hclient.symm))⟩
  have hloop (l : List TurnAllocation) (s₁ : TurnServer) (hs₁ : Survives clientId a.id a s₁)
      (hl : ∀ b ∈ l, b ∈ s.allocations.values) :
      Survives clientId a.id a (l.foldl (afterTurn now) s₁) := by
    induction l generalizing s₁ with
    | nil => exact hs₁
    | cons b l ih =>
      rw [List.forall_mem_cons] at hl
      exact ih _ (hs₁.afterTurn (hother b hl.1)) hl.2
  obtain ⟨hindex, a', ha', htrimmed⟩ := hloop s.allocations.values _ hstart fun _ hb => hb
  exact ⟨a', Option.bind_eq_some_iff.mpr ⟨a.id, hindex, ha'⟩, htrimmed⟩

/-- The clock and the other nonces are as they were. -/
lemma cleaned_fields (now : ℤ) (s : TurnServer) : (cleaned now s).ticks = s.ticks ∧
    (cleaned now s).nonces = s.nonces.filter fun _ nonce => now < nonce.expiresAt := by
  have hturn (s : TurnServer) (a : TurnAllocation) :
      (afterTurn now s a).ticks = s.ticks ∧ (afterTurn now s a).nonces = s.nonces := by
    unfold afterTurn TurnServer.delete TurnServer.update
    split_ifs
    · exact ⟨rfl, rfl⟩
    · split <;> exact ⟨rfl, rfl⟩
  have hloop (l : List TurnAllocation) (s : TurnServer) :
      (l.foldl (afterTurn now) s).ticks = s.ticks ∧
        (l.foldl (afterTurn now) s).nonces = s.nonces := by
    induction l generalizing s with
    | nil => exact ⟨rfl, rfl⟩
    | cons a l ih => exact ⟨(ih _).1.trans (hturn s a).1, (ih _).2.trans (hturn s a).2⟩
  exact hloop _ _

/-! ## A datagram of a client -/

/-- What starts like a STUN message is no channel data. -/
lemma isChannelData_of_isStunMessage {data : Bytes} (h : isStunMessage data = true) :
    isChannelData data = false := by
  simp only [isStunMessage, Bool.and_eq_true, beq_iff_eq] at h
  rw [isChannelData, h.1.1.2]
  exact Bool.and_false _

lemma dispatchPacket_of_parse (hparse : parseMessage T.hmac input.data none = .ok message)
    (time : ℤ) : dispatchPacket T input time = handleMessage T input message time := by
  have hstun : isStunMessage input.data = true := (parseMessage_eq_ok.mp hparse).1
  rw [dispatchPacket, isChannelData_of_isStunMessage hstun, hstun, hparse]
  rfl

/-- The action that `finalizeActions` adds. -/
def timeoutActions (s : TurnServer) (now : ℤ) : List TurnServerAction :=
  match s.computeNextTimeoutAt with
  | some time => [.scheduleTimeout (max now time)]
  | none => []

lemma run_finalizeActions (actions : List TurnServerAction) (now : ℤ) (s : TurnServer) :
    (finalizeActions actions now).run s = .ok (actions ++ timeoutActions s now) s := by
  unfold finalizeActions timeoutActions
  rw [run_bind_of_ok (run_get_eq_ok.mpr ⟨rfl, rfl⟩)]
  cases s.computeNextTimeoutAt with
  | some time => rfl
  | none =>
    rw [List.append_nil]
    rfl

/-- The state in which the clock has been read. -/
def ticked (s : TurnServer) : TurnServer := { s with ticks := s.ticks + 1 }

/-- The state in which a datagram is dispatched. -/
def ready (T : Setting) (s : TurnServer) : TurnServer := cleaned (T.now s.ticks) (ticked s)

/-- **A datagram** is dispatched after cleaning up. -/
lemma run_clientDatagram (T : Setting) (s : TurnServer) (input : TurnServerClientPacket) :
    ∃ closing, Closes closing ∧ ∀ actions s',
      (serve T (.clientDatagram input)).run s = .ok actions s' ↔ ∃ more s₁,
        (dispatchPacket T input (T.now s.ticks)).run (ready T s) = .ok more s₁ ∧
        closing ++ more ++ timeoutActions (ticked s₁) (T.now s₁.ticks) = actions ∧
        ticked s₁ = s' := by
  obtain ⟨closing, hcleanup, hcloses⟩ := run_cleanupExpired (T.now s.ticks) (ticked s)
  refine ⟨closing, hcloses, fun actions s' => ?_⟩
  have hpacket (actions : List TurnServerAction) (s' : TurnServer) :
      (handleClientPacket T input).run s = .ok actions s' ↔ ∃ more,
        (dispatchPacket T input (T.now s.ticks)).run (ready T s) = .ok more s' ∧
        closing ++ more = actions := by
    have hnow : (now T).run s = .ok (T.now s.ticks) (ticked s) := rfl
    rw [handleClientPacket, run_bind_of_ok hnow, run_bind_of_ok hcleanup, run_bind_eq_ok]
    constructor
    · rintro ⟨more, s₁, hmore, hpure⟩
      obtain ⟨rfl, rfl⟩ := run_pure_eq_ok.mp hpure
      exact ⟨more, hmore, rfl⟩
    · rintro ⟨more, hmore, rfl⟩
      exact ⟨more, s', hmore, rfl⟩
  have hserve : serve T (.clientDatagram input) =
      handleClientPacket T input >>= fun actions => now T >>= finalizeActions actions := rfl
  rw [hserve, run_bind_eq_ok]
  constructor
  · rintro ⟨all, s₁, hall, hrest⟩
    obtain ⟨more, hmore, rfl⟩ := (hpacket all s₁).mp hall
    have hnow : (now T).run s₁ = .ok (T.now s₁.ticks) (ticked s₁) := rfl
    rw [run_bind_of_ok hnow, run_finalizeActions] at hrest
    obtain ⟨rfl, rfl⟩ := EStateM.Result.ok.inj hrest
    exact ⟨more, s₁, hmore, rfl, rfl⟩
  · rintro ⟨more, s₁, hmore, rfl, rfl⟩
    have hnow : (now T).run s₁ = .ok (T.now s₁.ticks) (ticked s₁) := rfl
    refine ⟨closing ++ more, s₁, (hpacket _ s₁).mpr ⟨more, hmore, rfl⟩, ?_⟩
    rw [run_bind_of_ok hnow, run_finalizeActions]

/-- What is neither a closed relay nor a timeout comes from the dispatch. -/
lemma mem_of_mem_datagram {closing : List TurnServerAction} (hcloses : Closes closing)
    {s₁ : TurnServer} {now : ℤ} {action : TurnServerAction}
    (hmem : action ∈ closing ++ more ++ timeoutActions s₁ now)
    (hclose : ∀ relayId, action ≠ .closeRelay relayId)
    (htimeout : ∀ time, action ≠ .scheduleTimeout time) : action ∈ more := by
  rcases List.mem_append.mp hmem with hmem | hmem
  · rcases List.mem_append.mp hmem with hmem | hmem
    · obtain ⟨relayId, rfl⟩ := hcloses action hmem
      exact absurd rfl (hclose relayId)
    · exact hmem
  · unfold timeoutActions at hmem
    split at hmem
    · exact absurd (List.mem_singleton.mp hmem) (htimeout _)
    · exact absurd hmem List.not_mem_nil

/-! ## Requests for an allocation that is there -/

/-- The handler of a method. -/
def laterHandler (T : Setting) (input : TurnServerClientPacket) (message : Message) :
    ℤ → Action (List TurnServerAction) :=
  if message.messageMethod = methods.REFRESH then handleRefreshRequest T input message
  else if message.messageMethod = methods.CREATE_PERMISSION then
    handleCreatePermissionRequest T input message
  else handleChannelBindRequest T input message

/-- What a handler needs of the allocation. -/
def Allowed (message : Message) (a : TurnAllocation) : Prop :=
  message.messageMethod = methods.CHANNEL_BIND → Bindable message a

lemma handleMessage_later (hclass : message.messageClass = classes.REQUEST)
    (hknown : message.unknownRequired = []) (hmethod : message.messageMethod ∈ laterMethods)
    (time : ℤ) : handleMessage T input message time = laterHandler T input message time := by
  have hcases : message.messageMethod = methods.REFRESH ∨
      message.messageMethod = methods.CREATE_PERMISSION ∨
      message.messageMethod = methods.CHANNEL_BIND := by
    simpa [laterMethods] using hmethod
  rw [handleMessage, if_neg (by rw [hclass]; decide), if_neg (not_not.mpr hclass),
    if_neg (not_not.mpr hknown), laterHandler]
  rcases hcases with h | h | h <;> rw [h] <;> rfl

lemma answeredAgain_later (hmessage : ValidHeader message)
    (hmethod : message.messageMethod ∈ laterMethods) :
    AnsweredAgain T input message (laterHandler T input message) (Allowed message) := by
  have hcases : message.messageMethod = methods.REFRESH ∨
      message.messageMethod = methods.CREATE_PERMISSION ∨
      message.messageMethod = methods.CHANNEL_BIND := by
    simpa [laterMethods] using hmethod
  have hany {handler : ℤ → Action (List TurnServerAction)}
      (h : AnsweredAgain T input message handler fun _ => True) :
      AnsweredAgain T input message handler (Allowed message) := by
    intro time s s' more data a hI hrun hdata ha
    obtain ⟨hmore, nonce, hnonce, hagain⟩ := h time s s' more data a hI hrun hdata ha
    exact ⟨hmore, nonce, hnonce, fun time₂ s₂ a₂ hfresh ha₂ huser _ =>
      hagain time₂ s₂ a₂ hfresh ha₂ huser trivial⟩
  rcases hcases with h | h | h
  · rw [laterHandler, if_pos h]
    exact hany (answeredAgain_refresh hmessage)
  · rw [laterHandler, if_neg (by rw [h]; decide), if_pos h]
    exact hany (answeredAgain_createPermission hmessage)
  · rw [laterHandler, if_neg (by rw [h]; decide), if_neg (by rw [h]; decide)]
    intro time s s' more data a hI hrun hdata ha
    obtain ⟨hmore, nonce, hnonce, hagain⟩ :=
      answeredAgain_channelBind hmessage time s s' more data a hI hrun hdata ha
    exact ⟨hmore, nonce, hnonce, fun time₂ s₂ a₂ hfresh ha₂ huser hallowed =>
      hagain time₂ s₂ a₂ hfresh ha₂ huser (hallowed h)⟩

/-! ## Requests for a new allocation -/

/-- An answer binds no relay. -/
lemma not_bound_respond {client : ClientEndpoint} {response : Option Message}
    (h : (respond client response).run s = .ok more s') (id relayId : String) :
    .bindRelay id relayId ∉ more := by
  obtain ⟨-, r, data, -, -, rfl⟩ := run_respond_eq_ok.mp h
  intro hmem
  cases List.mem_singleton.mp hmem

/-- If an `ALLOCATE` has made an allocation, the packet is refused while the client has one. -/
lemma refused_allocate (hmessage : ValidHeader message) {id relayId : String}
    (hrun : (handleAllocateRequest T input message).run s = .ok more s')
    (hbound : .bindRelay id relayId ∈ more) : ∃ nonce, message.getBuffer .nonce = some nonce ∧
      ∀ s₂ a₂, Fresh T s₂ nonce → s₂.getClientAllocation input.clientId = some a₂ →
        ∃ auth s₃, (handleAllocateRequest T input message).run s₂ =
          (refuse T input message auth 437 "Allocation Mismatch").run s₃ := by
  obtain ⟨result, s₁, hauth, hrun⟩ := run_bind_eq_ok.mp hrun
  rcases run_authenticateRequest hmessage hauth with
    ⟨r, rfl, -⟩ | ⟨nonce, auth, rfl, hcredentials, -⟩
  · exact absurd hbound (not_bound_respond hrun id relayId)
  refine ⟨nonce, hcredentials.nonce, fun s₂ a₂ hfresh ha₂ => ?_⟩
  obtain ⟨s₃, hsame, hauth₃⟩ := hcredentials.run_authenticateRequest hfresh
  refine ⟨auth, s₃, ?_⟩
  rw [handleAllocateRequest, withAuthentication, run_bind_of_ok hauth₃]
  dsimp only at hrun ⊢
  cases htransport : message.getNumber .requestedTransport with
  | none =>
    rw [htransport] at hrun
    exact absurd hbound (not_bound_respond hrun id relayId)
  | some requestedTransport =>
    rw [htransport] at hrun
    dsimp only at hrun ⊢
    split_ifs at hrun ⊢ with hudp hfamily hport
    · exact absurd hbound (not_bound_respond hrun id relayId)
    · exact absurd hbound (not_bound_respond hrun id relayId)
    · exact absurd hbound (not_bound_respond hrun id relayId)
    · rw [run_bind_of_ok (run_get_eq_ok.mpr ⟨rfl, rfl⟩), hsame.getClientAllocation, ha₂]
      rfl

/-! ## Between the copies -/

lemma Grown.party {id : String} {a a' : TurnAllocation} (h : Grown T s s') (hs : Kept T s)
    (ha : s.allocations.get? id = some a) (ha' : s'.allocations.get? id = some a') :
    a'.party = a.party := by
  have hmem : (id, a'.party) ∈ Turn.parties s' :=
    List.mem_map.mpr ⟨(id, a'), Js.Map.get?_eq_some.mp ha', rfl⟩
  rcases h.parties _ hmem with hold | ⟨n, hn, rfl⟩
  · obtain ⟨entry, hentry, heq⟩ := List.mem_map.mp hold
    obtain ⟨rfl, hparty⟩ := Prod.ext_iff.mp heq
    obtain rfl := Option.some.inj (ha.symm.trans (Js.Map.get?_eq_some.mpr hentry))
    exact hparty.symm
  · exact absurd (hs.id_eq ha).2 (not_drawn hn)

/-- A call keeps the invariant of the allocations. -/
lemma grown_stateAfter (hs : Kept T s) (call : Call) :
    Kept T (stateAfter T s call) ∧ Grown T s (stateAfter T s call) := by
  have hserve := accounts_serve (T := T) call (fun _ hid => hid) s [] s hs
    ⟨trivial, Account.refl s⟩
  unfold stateAfter
  cases hrun : (serve T call).run s with
  | ok actions s' =>
    rw [hrun] at hserve
    exact ⟨hserve.1, hserve.2.1⟩
  | error e s' =>
    rw [hrun] at hserve
    exact hserve

/-- Later states of a server. -/
abbrev LaterState (T : Setting) : TurnServer → TurnServer → Prop :=
  Transition.Reachable fun s call => some (stateAfter T s call)

lemma grown_of_later (hs : Kept T s) (h : LaterState T s s') : Kept T s' ∧ Grown T s s' := by
  refine h.invariant (fun s' => Kept T s' ∧ Grown T s s') ⟨hs, refl_of (Grown T) s⟩ ?_
  rintro s₁ call s₂ ⟨hkept, hgrown⟩ - hstep
  obtain rfl := Option.some.inj hstep
  obtain ⟨hkept', hgrown'⟩ := grown_stateAfter hkept call
  exact ⟨hkept', trans_of (Grown T) hgrown hgrown'⟩

lemma kept_of_reachable (h : Reachable T s) : Kept T s :=
  (grown_of_later ⟨fun _ hmem => absurd hmem List.not_mem_nil, Nat.zero_le _⟩ h).1

/-- The conditions under which a second copy arrives: the allocation of the client is the one that it
had after the first copy and has not ended, the nonce is valid, and a channel that is asked for has
not been bound otherwise. -/
structure StillServed (T : Setting) (input : TurnServerClientPacket) (message : Message)
    (s₁ s₂ : TurnServer) : Prop where
  lives : ∃ a₁ a₂, s₁.getClientAllocation input.clientId = some a₁ ∧
    s₂.getClientAllocation input.clientId = some a₂ ∧ a₂.id = a₁.id ∧
    a₂.expired (T.now s₂.ticks) = false ∧ Allowed message a₂
  nonce : ∀ nonce, message.getBuffer .nonce = some nonce → ∃ state,
    s₂.nonces.get? (Js.toHex nonce) = some state ∧ T.now (s₂.ticks + 1) < state.expiresAt

section

variable {s₁ s₂ : TurnServer} {nonce : Bytes}

/-- A nonce that is valid when a packet is authenticated survives cleaning up. -/
lemma StillServed.fresh (h : StillServed T input message s₁ s₂)
    (hnonce : message.getBuffer .nonce = some nonce) : Fresh T (ready T s₂) nonce := by
  obtain ⟨state, hstate, htime⟩ := h.nonce nonce hnonce
  obtain ⟨hticks, hnonces⟩ := cleaned_fields (T.now s₂.ticks) (ticked s₂)
  refine ⟨state, ?_, ?_⟩
  · have hvalid : T.now s₂.ticks < state.expiresAt :=
      (T.monotone_now (Nat.le_succ _)).trans_lt htime
    rw [ready, hnonces, Js.Map.get?_filter]
    exact ⟨hstate, decide_eq_true hvalid⟩
  · rw [ready, hticks]
    exact htime

lemma Consistent.ticked (h : Consistent T s) : Consistent T (ticked s) :=
  h.congr rfl rfl rfl rfl le_rfl fun _ _ hn => hn

/-- So does the allocation, which has the same user as before. -/
lemma StillServed.allocation (h : StillServed T input message s₁ s₂) (hs₁ : Reachable T s₁)
    (hlater : LaterState T s₁ s₂) : ∃ a₁ a₂, s₁.getClientAllocation input.clientId = some a₁ ∧
      (ready T s₂).getClientAllocation input.clientId = some a₂ ∧ a₂.username = a₁.username ∧
      Allowed message a₂ := by
  obtain ⟨a₁, a₂, ha₁, ha₂, hid, hlives, hallowed⟩ := h.lives
  have hs₂ : Reachable T s₂ := hs₁.trans hlater
  have hgrown := (grown_of_later (kept_of_reachable hs₁) hlater).2
  have hget₁ := (hs₁.consistent.getClientAllocation_eq_some ha₁).1
  have hget₂ := (hs₂.consistent.getClientAllocation_eq_some ha₂).1
  have hparty := hgrown.party (kept_of_reachable hs₁) hget₁ (hid ▸ hget₂)
  obtain ⟨a₃, ha₃, htrimmed⟩ := getClientAllocation_cleaned hs₂.consistent.ticked ha₂ hlives
  refine ⟨a₁, a₃, ha₁, ha₃, congrArg Party.username (htrimmed.party.trans hparty), ?_⟩
  intro hmethod channelNumber peerAddress hnumber hpeer
  obtain ⟨hn, hp⟩ := hallowed hmethod channelNumber peerAddress hnumber hpeer
  exact ⟨fun b hb => hn b (htrimmed.byNumber _ b hb), fun b hb => hp b (htrimmed.byPeer _ b hb)⟩

end

lemma consistent_ready (h : Consistent T s) : Consistent T (ready T s) := by
  obtain ⟨actions, hrun, -⟩ := run_cleanupExpired (T.now s.ticks) (ticked s)
  have hsafe : Safe T (fun _ => True) (cleanupExpired (T.now s.ticks)) fun actions s' =>
      ∀ action ∈ actions, Covered T s none false action s' := safe_cleanupExpired _
  exact (hsafe.ok h.ticked trivial hrun).1

/-- A call that binds no relay makes no allocation. -/
lemma live_le {call : Call} {actions : List TurnServerAction} (hs : Kept T s)
    (hrun : (serve T call).run s = .ok actions s')
    (hbound : ∀ id relayId, TurnServerAction.bindRelay id relayId ∉ actions) :
    live s' ≤ live s := by
  have haccount := ((accounts_serve (T := T) call (fun _ hid => hid) s []).ok hs
    ⟨trivial, Account.refl s⟩ hrun).2.2
  obtain ⟨released, dropped, hbalance, -, -⟩ := haccount.balance
  have hnone : bound ([] ++ actions) = 0 := by
    refine Multiset.eq_zero_of_forall_notMem fun party hmem => ?_
    exact hbound _ _ (mem_bound.mp hmem)
  rw [hnone, add_zero] at hbalance
  rw [hbalance, add_assoc]
  exact Multiset.le_add_right _ _

/-! ## The second copy of a datagram -/

/-- The request in a packet, which is handled twice. -/
structure HandledTwice (T : Setting) (input : TurnServerClientPacket) (message : Message)
    (s₀ s₁ s₂ : TurnServer) (actions : List TurnServerAction) : Prop where
  reachable : Reachable T s₀
  parsed : parseMessage T.hmac input.data none = .ok message
  request : message.messageClass = classes.REQUEST
  first : (serve T (.clientDatagram input)).run s₀ = .ok actions s₁
  between : LaterState T s₁ s₂
  served : StillServed T input message s₁ s₂

section

variable {s₀ s₁ s₂ : TurnServer} {actions : List TurnServerAction}

lemma HandledTwice.reachable_next (h : HandledTwice T input message s₀ s₁ s₂ actions) :
    Reachable T s₁ := by
  have hnext : stateAfter T s₀ (.clientDatagram input) = s₁ := by rw [stateAfter, h.first]
  exact h.reachable.next trivial (congrArg some hnext)

/-- The first copy. -/
lemma HandledTwice.dispatched (h : HandledTwice T input message s₀ s₁ s₂ actions) :
    ∃ closing more s₁' now, Closes closing ∧ (handleMessage T input message (T.now s₀.ticks)).run
      (ready T s₀) = .ok more s₁' ∧ closing ++ more ++ timeoutActions (ticked s₁') now = actions ∧
      ticked s₁' = s₁ := by
  obtain ⟨closing, hcloses, hiff⟩ := run_clientDatagram T s₀ input
  obtain ⟨more, s₁', hrun, hactions, hs₁⟩ := (hiff actions s₁).mp h.first
  rw [dispatchPacket_of_parse h.parsed] at hrun
  exact ⟨closing, more, s₁', _, hcloses, hrun, hactions, hs₁⟩

/-- A request with a required attribute that is not known is answered with an error. -/
lemma unknownRequired_of_more {time : ℤ} {s₁' : TurnServer}
    (h : HandledTwice T input message s₀ s₁ s₂ actions)
    (hrun : (handleMessage T input message time).run s = .ok more s₁')
    (hmore : ¬ ∃ client response, (∀ r, response = some r → Headed r classes.ERROR) ∧
      (respond client response).run s = .ok more s₁') : message.unknownRequired = [] := by
  by_contra hunknown
  rw [handleMessage, if_neg (by rw [h.request]; decide), if_neg (not_not.mpr h.request),
    if_pos hunknown] at hrun
  refine hmore ⟨_, _, fun r hr => ?_, hrun⟩
  exact headed_errorResponse (validHeader_of_parseMessage h.parsed) hr

/-- **Retransmission** of a request for an allocation that is there. -/
lemma HandledTwice.answered (h : HandledTwice T input message s₀ s₁ s₂ actions)
    (hmethod : message.messageMethod ∈ laterMethods) (hdata : Succeeds input data actions) :
    ∃ actions' s₃, (serve T (.clientDatagram input)).run s₂ = .ok actions' s₃ ∧
      sendClient (clientEndpoint input) data ∈ actions' ∧ live s₃ ≤ live s₂ ∧
      ∀ client answer, sendClient client answer ∈ actions' → answer = data := by
  have hmessage := validHeader_of_parseMessage h.parsed
  obtain ⟨closing, more, s₁', now, hcloses, hrun, rfl, rfl⟩ := h.dispatched
  have hmore : Succeeds input data more :=
    ⟨mem_of_mem_datagram hcloses hdata.1 nofun nofun, hdata.2⟩
  have hknown : message.unknownRequired = [] := by
    refine unknownRequired_of_more h hrun ?_
    rintro ⟨client, response, hresponse, hrespond⟩
    exact not_succeeds_respond hresponse hrespond hmore
  rw [handleMessage_later h.request hknown hmethod] at hrun
  obtain ⟨a₁, a₂, ha₁, ha₂, huser, hallowed⟩ :=
    h.served.allocation h.reachable_next h.between
  obtain ⟨hall, nonce, hnonce, hagain⟩ := answeredAgain_later hmessage hmethod _ _ s₁' more data a₁
    (consistent_ready h.reachable.consistent) hrun hmore ha₁
  obtain ⟨s₂', hrun₂⟩ := hagain (T.now s₂.ticks) (ready T s₂) a₂ (h.served.fresh hnonce) ha₂ huser
    hallowed
  rw [← handleMessage_later h.request hknown hmethod, ← dispatchPacket_of_parse h.parsed] at hrun₂
  obtain ⟨closing₂, hcloses₂, hiff⟩ := run_clientDatagram T s₂ input
  have hserve := (hiff _ _).mpr ⟨more, s₂', hrun₂, rfl, rfl⟩
  have hanswer {action : TurnServerAction} (hmem : action ∈ closing₂ ++ more ++
      timeoutActions (ticked s₂') (T.now s₂'.ticks)) (hclose : ∀ relayId, action ≠ .closeRelay relayId)
      (htimeout : ∀ time, action ≠ .scheduleTimeout time) :
      action = sendClient (clientEndpoint input) data := by
    have := mem_of_mem_datagram hcloses₂ hmem hclose htimeout
    rwa [hall, List.mem_singleton] at this
  refine ⟨_, _, hserve, ?_, live_le ?_ hserve fun id relayId hmem => ?_, ?_⟩
  · exact List.mem_append_left _ (List.mem_append_right _ hmore.1)
  · exact kept_of_reachable (h.reachable_next.trans h.between)
  · cases hanswer hmem nofun nofun
  · intro client answer hmem
    have := hanswer hmem nofun nofun
    rw [sendClient, sendClient, TurnServerAction.sendClient.injEq] at this
    exact this.2.2.2

/-- **Retransmission** of a request for a new allocation. -/
lemma HandledTwice.refused (h : HandledTwice T input message s₀ s₁ s₂ actions)
    (hmethod : message.messageMethod = methods.ALLOCATE) {id relayId : String}
    (hbound : .bindRelay id relayId ∈ actions) {actions' : List TurnServerAction}
    {s₃ : TurnServer} (hsecond : (serve T (.clientDatagram input)).run s₂ = .ok actions' s₃) :
    live s₃ ≤ live s₂ ∧ ∃ key response data, errorResponse T message 437 "Allocation Mismatch" []
      (some key) = some response ∧ response.bytes = some data ∧
        sendClient (clientEndpoint input) data ∈ actions' := by
  have hmessage := validHeader_of_parseMessage h.parsed
  obtain ⟨closing, more, s₁', now, hcloses, hrun, rfl, rfl⟩ := h.dispatched
  have hmore : .bindRelay id relayId ∈ more := mem_of_mem_datagram hcloses hbound nofun nofun
  have hknown : message.unknownRequired = [] := by
    refine unknownRequired_of_more h hrun ?_
    rintro ⟨client, response, -, hrespond⟩
    exact not_bound_respond hrespond id relayId hmore
  have hhandler (time : ℤ) :
      handleMessage T input message time = handleAllocateRequest T input message := by
    rw [handleMessage, if_neg (by rw [h.request]; decide), if_neg (not_not.mpr h.request),
      if_neg (not_not.mpr hknown), hmethod]
    rfl
  rw [hhandler] at hrun
  obtain ⟨nonce, hnonce, hagain⟩ := refused_allocate hmessage hrun hmore
  obtain ⟨a₁, a₂, -, ha₂, -, -⟩ := h.served.allocation h.reachable_next h.between
  obtain ⟨auth, s₄, hrefuse⟩ := hagain (ready T s₂) a₂ (h.served.fresh hnonce) ha₂
  obtain ⟨closing₂, hcloses₂, hiff⟩ := run_clientDatagram T s₂ input
  obtain ⟨more₂, s₂', hrun₂, rfl, rfl⟩ := (hiff actions' s₃).mp hsecond
  rw [dispatchPacket_of_parse h.parsed, hhandler, hrefuse] at hrun₂
  refine ⟨live_le ?_ hsecond fun id relayId hmem => ?_, ?_⟩
  · exact kept_of_reachable (h.reachable_next.trans h.between)
  · exact not_bound_respond hrun₂ id relayId (mem_of_mem_datagram hcloses₂ hmem nofun nofun)
  · obtain ⟨rfl, response, data, hresponse, hdata, rfl⟩ := run_respond_eq_ok.mp hrun₂
    exact ⟨auth.integrityKey, response, data, hresponse, hdata,
      List.mem_append_left _ (List.mem_append_right _ List.mem_cons_self)⟩

end

/-- A packet of a client. -/
def packetOf (method length : UInt8) (attributes : Bytes) : TurnServerClientPacket where
  clientId := "c"
  data := [0, method, 0, length, 0x21, 0x12, 0xa4, 0x42] ++ List.replicate 12 0 ++ attributes
  remoteAddress := ("10.0.0.1", 5000)
  transport := .udp

end Werift.Turn
