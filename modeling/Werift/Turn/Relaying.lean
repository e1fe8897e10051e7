import Werift.Lib.Transition
import Werift.Turn.Authorization

/-!
# A TURN server relays only what was authorised

Every method keeps the invariant `Consistent`, and what it relays is in the history, authorised, with
the allocation and the time at which it was sent: `serve_authorised`.
-/

namespace Werift.Turn

open Stun Contract

variable {T : Setting} {s₀ : TurnServer}

/-! ## What is said of actions -/

/-- Whether an action relays data.  What is sent to a client is relayed if it answers a packet of a
peer. -/
def TurnServerAction.relays (forwarding : Bool) : TurnServerAction → Bool
  | .sendRelay _ _ _ => true
  | .sendClient _ _ _ _ => forwarding
  | _ => false

/-- A time that was read from the clock since `s₀`. -/
def Read (T : Setting) (s₀ : TurnServer) (time : ℤ) (s : TurnServer) : Prop :=
  ∃ n, s₀.ticks ≤ n ∧ n < s.ticks ∧ time = T.now n

/-- An action that has been recorded since `s₀`. -/
def Recorded (T : Setting) (s₀ : TurnServer) (source : Option Source) (action : TurnServerAction)
    (s : TurnServer) : Prop :=
  ∃ before e after, s.history = before ++ Event.emitted e :: after ∧ s₀.history <+: before ∧
    e.action = action ∧ source = some e.source ∧ Read T s₀ e.now s

/-- An action has been recorded since `s₀` if it relays data. -/
def Covered (T : Setting) (s₀ : TurnServer) (source : Option Source) (forwarding : Bool)
    (action : TurnServerAction) (s : TurnServer) : Prop :=
  action.relays forwarding = true → Recorded T s₀ source action s

variable {source : Option Source} {forwarding : Bool} {s s' : TurnServer}

lemma Read.later {time : ℤ} (h : Read T s₀ time s) (hs : Later s s') : Read T s₀ time s' := by
  obtain ⟨n, h₀, hn, htime⟩ := h
  exact ⟨n, h₀, hn.trans_le hs.ticks, htime⟩

lemma Covered.later {action : TurnServerAction} (hs : Later s s')
    (h : Covered T s₀ source forwarding action s) : Covered T s₀ source forwarding action s' := by
  intro hrelays
  obtain ⟨before, e, after, hhistory, hrest⟩ := h hrelays
  obtain ⟨later, hlater⟩ := hs.history
  refine ⟨before, e, after ++ later, ?_, hrest.1, hrest.2.1, hrest.2.2.1, hrest.2.2.2.later hs⟩
  rw [← hlater, hhistory, List.append_assoc, List.cons_append]

lemma covered_append {actions more : List TurnServerAction}
    (h : ∀ action ∈ actions, Covered T s₀ source forwarding action s)
    (hmore : ∀ action ∈ more, Covered T s₀ source forwarding action s) :
    ∀ action ∈ actions ++ more, Covered T s₀ source forwarding action s :=
  fun action hmem => (List.mem_append.mp hmem).elim (h action) (hmore action)

/-! ## Small methods -/

lemma safe_now : Safe T (Later s₀) (now T) (Read T s₀) := by
  intro s hI hs
  refine ⟨hI.congr rfl rfl rfl rfl le_rfl fun _ _ h => h, ⟨List.prefix_refl _, Nat.le_succ _, le_rfl⟩,
    s.ticks, hs.ticks, Nat.lt_succ_self _, rfl⟩

lemma safe_randomBytes {P : TurnServer → Prop} (size : ℕ) :
    Safe T P (randomBytes T size) fun _ _ => True := by
  intro s hI _
  exact ⟨hI.congr rfl rfl rfl rfl (Nat.le_succ _) fun _ _ h => h,
    ⟨List.prefix_refl _, le_rfl, Nat.le_succ _⟩, trivial⟩

lemma safe_orThrow {α : Type} {P : TurnServer → Prop} (x : Option α) :
    Safe T P (orThrow x) fun a s => x = some a ∧ P s := by
  cases x with
  | none => exact keeps_throw ()
  | some a => exact (keeps_pure a).strengthen fun s _ hP => ⟨rfl, hP⟩

lemma safe_issueNonce {P : TurnServer → Prop} : Safe T P (issueNonce T) fun _ _ => True := by
  intro s hI _
  have hdrawn : Consistent T { s with draws := s.draws + 1, ticks := s.ticks + 1 } :=
    hI.congr rfl rfl rfl rfl (Nat.le_succ _) fun _ _ h => h
  exact ⟨hdrawn.issue ⟨T.randomBytes s.draws 16, T.now s.ticks + T.options.nonceLifetime * 1000⟩,
    ⟨List.prefix_append _ _, Nat.le_succ _, Nat.le_succ _⟩, trivial⟩

lemma safe_unauthorizedResponse {P : TurnServer → Prop} (request : Message) (errorCode : ℕ)
    (reason : String) :
    Safe T P (unauthorizedResponse T request errorCode reason) fun _ _ => True :=
  keeps_bind safe_issueNonce fun _ => (safe_orThrow _).weaken fun _ _ _ _ => trivial

/-- What is sent to a client in answer to its own packet is not relayed. -/
lemma safe_respond {P : TurnServer → Prop} (client : ClientEndpoint) (response : Option Message) :
    Safe T P (respond client response) fun actions s =>
      ∀ action ∈ actions, Covered T s₀ source false action s := by
  refine keeps_bind (safe_orThrow response) fun message => ?_
  refine keeps_bind (safe_orThrow message.bytes) fun data => ?_
  refine (keeps_pure _).strengthen fun s _ _ action hmem => ?_
  obtain rfl := List.mem_singleton.mp hmem
  exact nofun

lemma later_update {id : String} {f : TurnAllocation → TurnAllocation} : Later s (s.update id f) := by
  unfold TurnServer.update
  split <;> exact ⟨List.prefix_refl _, le_rfl, le_rfl⟩

lemma safe_updateAllocation {P : TurnServer → Prop} {Q : TurnServer → Prop} {id : String}
    {f : TurnAllocation → TurnAllocation}
    (hf : ∀ s a, Consistent T s → P s → s.allocations.get? id = some a →
      Improves T s.history a (f a))
    (hQ : ∀ s, Consistent T s → P s → Q (s.update id f)) :
    Safe T P (updateAllocation id f) fun _ s => Q s := by
  refine keeps_modify fun s hI hP => ⟨hI.update fun a ha => ?_, later_update, hQ s hI hP⟩
  obtain ⟨hparty, hok⟩ := hf s a hI hP ha
  exact ⟨hparty, hok⟩

/-- What is deleted has to be registered. -/
lemma safe_deleteAllocation {P Q : TurnServer → Prop} (a : TurnAllocation)
    (hP : ∀ s, Consistent T s → P s → ∃ a', s.allocations.get? a.id = some a' ∧ SameParty a a')
    (hQ : ∀ s, Consistent T s → P s → Q (s.delete a)) :
    Safe T P (deleteAllocation a) fun actions s => actions = [.closeRelay a.relayId] ∧ Q s := by
  have hmodify : Safe T P (modify fun s => s.delete a) fun _ s => Q s := by
    refine keeps_modify fun s hI hs => ?_
    obtain ⟨a', ha', hparty⟩ := hP s hI hs
    exact ⟨hI.delete ha' hparty, ⟨List.prefix_refl _, le_rfl, le_rfl⟩, hQ s hI hs⟩
  exact keeps_bind hmodify fun _ => (keeps_pure _).strengthen fun _ _ hs => ⟨rfl, hs⟩

lemma safe_finalizeActions {P : TurnServer → Prop} (actions : List TurnServerAction) (time : ℤ) :
    Safe T (fun s => P s ∧ ∀ action ∈ actions, Covered T s₀ source forwarding action s)
      (finalizeActions actions time) fun actions s =>
        ∀ action ∈ actions, Covered T s₀ source forwarding action s := by
  refine keeps_bind keeps_get fun s => ?_
  cases s.computeNextTimeoutAt with
  | none => exact (keeps_pure _).strengthen fun _ _ h => h.2.2
  | some next =>
    refine (keeps_pure _).strengthen fun _ _ h => covered_append h.2.2 fun action hmem => ?_
    obtain rfl := List.mem_singleton.mp hmem
    exact nofun

/-! ## Cleaning up -/

/-- The allocations that the loop of `cleanupExpired` has still to look at. -/
def Pending (l : List TurnAllocation) (s : TurnServer) : Prop :=
  (l.map TurnAllocation.id).Nodup ∧
    ∀ a ∈ l, ∃ a', s.allocations.get? a.id = some a' ∧ SameParty a a'

lemma pending_values (hkey : ∀ id a, s.allocations.get? id = some a → a.id = id) :
    Pending s.allocations.values s := by
  have hids : s.allocations.values.map TurnAllocation.id = s.allocations.entries.map Prod.fst := by
    rw [Js.Map.values, List.map_map]
    exact List.map_congr_left fun entry hmem =>
      hkey entry.1 entry.2 (Js.Map.get?_eq_some.mpr hmem)
  refine ⟨hids ▸ s.allocations.nodup, fun a hmem => ?_⟩
  obtain ⟨id, ha⟩ := Js.Map.mem_values.mp hmem
  exact ⟨a, hkey id a ha ▸ ha, SameParty.refl a⟩

lemma Pending.tail {a : TurnAllocation} {l : List TurnAllocation} (h : Pending (a :: l) s)
    (hs' : ∀ id ≠ a.id, s'.allocations.get? id = s.allocations.get? id) : Pending l s' := by
  obtain ⟨hnodup, hmem⟩ := h
  rw [List.map_cons, List.nodup_cons] at hnodup
  refine ⟨hnodup.2, fun b hb => ?_⟩
  have hne : b.id ≠ a.id := fun heq => hnodup.1 (List.mem_map.mpr ⟨b, hb, heq⟩)
  rw [hs' b.id hne]
  exact hmem b (List.mem_cons_of_mem _ hb)

/-- A turn of the loop of `cleanupExpired`. -/
lemma safe_cleanupAllocation (time : ℤ) (a : TurnAllocation) (l : List TurnAllocation) :
    Safe T (Pending (a :: l)) (cleanupAllocation time a) fun actions s =>
      (∀ action ∈ actions, Covered T s₀ source forwarding action s) ∧ Pending l s := by
  refine keeps_ite (fun _ => ?_) fun _ => ?_
  · have hdelete : Safe T (Pending (a :: l)) (deleteAllocation a) fun actions s =>
        actions = [.closeRelay a.relayId] ∧ Pending l s :=
      safe_deleteAllocation a (fun s _ hs => hs.2 a List.mem_cons_self) fun s _ hs =>
        hs.tail fun id hid => Js.Map.get?_delete.trans (if_neg hid)
    refine hdelete.weaken fun actions s _ hs => ⟨?_, hs.2⟩
    obtain ⟨rfl, -⟩ := hs
    intro action hmem
    obtain rfl := List.mem_singleton.mp hmem
    exact nofun
  · refine keeps_bind (safe_updateAllocation (fun s b hI _ hb => ?_)
      fun s _ hs => hs.tail fun id hid => ?_) fun _ => (keeps_pure _).strengthen fun s _ hs => ⟨?_, hs⟩
    · have hfirst : SameParty b (b.cleanupPermissions time) := ⟨rfl, rfl, rfl, rfl⟩
      obtain ⟨hparty, hok⟩ :=
        ((hI.allocation _ b hb).ok.cleanupPermissions time).cleanupChannels time
      exact ⟨hfirst.trans hparty, hok⟩
    · rw [get?_update, if_neg hid]
    · exact fun action hmem => absurd hmem List.not_mem_nil

lemma safe_cleanupExpired {P : TurnServer → Prop} (time : ℤ) :
    Safe T P (cleanupExpired time) fun actions s =>
      ∀ action ∈ actions, Covered T s₀ source forwarding action s := by
  have hnonces : Safe T P (modify fun s : TurnServer =>
      { s with nonces := s.nonces.filter fun _ nonce => time < nonce.expiresAt }) fun _ _ => True :=
    keeps_modify fun s hI _ => ⟨hI.congr rfl rfl rfl rfl le_rfl fun _ _ h =>
      (Js.Map.get?_filter.mp h).1, ⟨List.prefix_refl _, le_rfl, le_rfl⟩, trivial⟩
  refine keeps_bind hnonces fun _ => ?_
  have hget : Safe T (fun _ => True) (get : Action TurnServer) fun s s' =>
      Pending s.allocations.values s' :=
    keeps_get.weaken fun s s' hI h => by
      rw [h.1]
      exact pending_values fun id a ha => (hI.allocation id a ha).key
  exact keeps_bind hget fun s => keeps_concatMapM (fun _ _ _ hs h => h.later hs)
    (fun a l => safe_cleanupAllocation time a l) _

/-! ## Authentication -/

/-- The request has been recorded as authenticated, not before `time`. -/
def Authenticated (T : Setting) (input : TurnServerClientPacket) (message : Message) (method : ℕ)
    (time : ℤ) (auth : AuthenticatedRequestContext) (s : TurnServer) : Prop :=
  ∃ earlier r later, s.history = earlier ++ Event.authenticated r :: later ∧ r.Valid T earlier ∧
    r.clientId = input.clientId ∧ r.username = auth.username ∧ r.message = message ∧
    message.messageMethod = method ∧ time ≤ r.checkedAt

variable {input : TurnServerClientPacket} {message : Message} {method : ℕ} {time : ℤ}

lemma Authenticated.later {auth : AuthenticatedRequestContext} (hs : Later s s')
    (h : Authenticated T input message method time auth s) :
    Authenticated T input message method time auth s' := by
  obtain ⟨earlier, r, later, hhistory, hr⟩ := h
  obtain ⟨rest, hrest⟩ := hs.history
  exact ⟨earlier, r, later ++ rest, by rw [← hrest, hhistory]; simp, hr⟩

/-- A later reading of the clock. -/
lemma safe_now_le {P : TurnServer → Prop} (hP : ∀ s s', Later s s' → P s → P s') :
    Safe T (fun s => Read T s₀ time s ∧ P s) (now T) fun checkedAt s => time ≤ checkedAt ∧ P s := by
  rintro s hI ⟨⟨n, -, hn, rfl⟩, hs⟩
  have hlater : Later s { s with ticks := s.ticks + 1 } :=
    ⟨List.prefix_refl _, Nat.le_succ _, le_rfl⟩
  exact ⟨hI.congr rfl rfl rfl rfl le_rfl fun _ _ h => h, hlater, T.monotone_now hn.le,
    hP _ _ hlater hs⟩

/-- **Authentication.**  A request that is accepted has been recorded, with a valid nonce and the
integrity of its user. -/
lemma safe_authenticateRequest (hparse : parseMessage T.hmac input.data none = .ok message) :
    Safe T (Read T s₀ time) (authenticateRequest T input message method) fun result s =>
      ∀ auth, result = .ok auth → Authenticated T input message method time auth s := by
  have hrefuse {P : TurnServer → Prop} (errorCode : ℕ) (reason : String) :
      Safe T P (do return .error (← unauthorizedResponse T message errorCode reason))
        fun (result : Except Message AuthenticatedRequestContext) s =>
          ∀ auth, result = .ok auth → Authenticated T input message method time auth s :=
    keeps_bind (safe_unauthorizedResponse message errorCode reason) fun _ =>
      (keeps_pure _).strengthen fun _ _ _ => nofun
  unfold authenticateRequest
  split
  case h_2 => exact hrefuse 401 "Unauthorized"
  case h_1 username realm nonce _ husername hrealm hnonce _ =>
    refine keeps_ite (fun _ => hrefuse 401 "Unauthorized") fun _ => ?_
    refine keeps_bind keeps_get fun s => ?_
    cases hstate : s.nonces.get? (Js.toHex nonce) with
    | none => exact hrefuse 438 "Stale Nonce"
    | some nonceState =>
      have hissued : Safe T (fun s' => Read T s₀ time s' ∧ nonceState.value = nonce ∧
          .nonceIssued nonceState ∈ s'.history) (now T) fun checkedAt s => time ≤ checkedAt ∧
          nonceState.value = nonce ∧ .nonceIssued nonceState ∈ s.history :=
        safe_now_le fun _ _ hs h => h.imp_right fun hmem => hs.history.subset hmem
      refine keeps_bind (hissued.strengthen fun s' hI hs => ?_) fun checkedAt => ?_
      · obtain ⟨rfl, hread⟩ := hs
        obtain ⟨hhex, hmem⟩ := hI.nonce _ nonceState hstate
        exact ⟨hread, Js.toHex_injective hhex, hmem⟩
      refine keeps_ite (fun _ => hrefuse 438 "Stale Nonce") fun hunexpired => ?_
      cases hpassword : truthy (T.options.getPassword username T.options.realm) with
      | none => exact hrefuse 401 "Unauthorized"
      | some password =>
        dsimp only
        cases hvalidated : parseMessage T.hmac input.data
            (some (makeTurnIntegrityKey T username T.options.realm password)) with
        | error exit =>
          cases exit with
          | undefined => exact hrefuse 401 "Unauthorized"
          | throws => exact keeps_throw ()
        | ok validated =>
          refine keeps_ite (fun _ => hrefuse 401 "Unauthorized") fun hmethod => ?_
          obtain rfl : message = validated := Except.ok.inj (hparse.symm.trans
            (parseMessage_none hvalidated))
          have hvalid : ∀ s : TurnServer, nonceState.value = nonce →
              .nonceIssued nonceState ∈ s.history →
              AuthenticatedRequest.Valid T s.history
                ⟨input.clientId, input.data, message, username, nonceState, checkedAt⟩ := by
            intro s hvalue hmem
            refine ⟨hmem, by rw [hnonce, hvalue], lt_of_not_ge hunexpired, ?_, password, ?_, hvalidated⟩
            · exact (Option.filter_eq_some_iff.mp husername).1
            · exact (Option.filter_eq_some_iff.mp hpassword).1
          have hrecord : Safe T (fun s => time ≤ checkedAt ∧ nonceState.value = nonce ∧
              .nonceIssued nonceState ∈ s.history) (modify fun s => s.record (.authenticated
                ⟨input.clientId, input.data, message, username, nonceState, checkedAt⟩)) fun _ s =>
              Authenticated T input message method time
                ⟨makeTurnIntegrityKey T username T.options.realm password, message, username⟩ s :=
            keeps_modify fun s hI ⟨htime, hvalue, hmem⟩ => ⟨hI.record (hvalid s hvalue hmem),
              ⟨List.prefix_append _ _, le_rfl, le_rfl⟩, s.history, _, [], rfl,
              hvalid s hvalue hmem, rfl, rfl, rfl, not_not.mp hmethod, htime⟩
          refine keeps_bind hrecord fun _ => (keeps_pure _).strengthen fun s _ hs auth hauth => ?_
          obtain rfl := Except.ok.inj hauth
          exact hs

/-! ## Requests -/

/-- The contract of what answers a request. -/
abbrev Answers (T : Setting) (s₀ : TurnServer) (source : Option Source) (P : TurnServer → Prop)
    (m : Action (List TurnServerAction)) : Prop :=
  Safe T P m fun actions s => ∀ action ∈ actions, Covered T s₀ source false action s

lemma answers_withAuthentication (hparse : parseMessage T.hmac input.data none = .ok message)
    {f : AuthenticatedRequestContext → Action (List TurnServerAction)}
    (hf : ∀ auth, Answers T s₀ source (Authenticated T input message method time auth) (f auth)) :
    Answers T s₀ source (Read T s₀ time) (withAuthentication T input message method f) := by
  refine keeps_bind (safe_authenticateRequest hparse) fun result => ?_
  cases result with
  | error response => exact safe_respond _ _
  | ok auth => exact (hf auth).strengthen fun s _ hs => hs auth rfl

/-- The allocation of a client. -/
lemma Consistent.getClientAllocation_eq_some (h : Consistent T s) {clientId : String}
    {a : TurnAllocation} (ha : s.getClientAllocation clientId = some a) :
    s.allocations.get? a.id = some a ∧ a.client.clientId = clientId := by
  obtain ⟨id, hid, ha⟩ := Option.bind_eq_some_iff.mp ha
  have hclient := (Option.filter_eq_some_iff.mp hid).1
  obtain ⟨b, hb, hb'⟩ := h.client clientId id hclient
  obtain rfl := Option.some.inj (ha.symm.trans hb)
  exact ⟨(h.allocation id a ha).key.symm ▸ ha, hb'⟩

/-- The allocation of a relay. -/
lemma Consistent.getRelayAllocation_eq_some (h : Consistent T s) {relayId : String}
    {a : TurnAllocation} (ha : s.getRelayAllocation relayId = some a) :
    s.allocations.get? a.id = some a ∧ a.relayId = relayId := by
  obtain ⟨id, hid, ha⟩ := Option.bind_eq_some_iff.mp ha
  have hrelay := (Option.filter_eq_some_iff.mp hid).1
  obtain ⟨-, b, hb, hb'⟩ := h.relay relayId id hrelay
  obtain rfl := Option.some.inj (ha.symm.trans hb)
  exact ⟨(h.allocation id a ha).key.symm ▸ ha, hb'⟩

lemma Consistent.getClientAllocation_eq_none (h : Consistent T s) {clientId : String}
    (hnone : s.getClientAllocation clientId = none) :
    s.allocationIdByClientId.get? clientId = none := by
  cases hid : s.allocationIdByClientId.get? clientId with
  | none => rfl
  | some id =>
    obtain ⟨a, ha, -⟩ := h.client clientId id hid
    obtain ⟨n, -, rfl⟩ := (h.allocation id a ha).drawn
    have hsome : s.getClientAllocation clientId = some a := by
      rw [TurnServer.getClientAllocation, hid, TurnServer.allocationOf, truthy,
        Option.filter_some, if_pos (by simpa using T.randomUUID_ne_empty n), Option.bind_some, ha]
    rw [hnone] at hsome
    cases hsome

/-- An identifier that has not been drawn yet is new. -/
lemma not_drawn {n : ℕ} (hn : s.draws ≤ n) : ¬ Drawn T s (T.randomUUID n) := by
  rintro ⟨k, hk, heq⟩
  have := T.randomUUID_injective heq
  omega

/-- A new allocation. -/
lemma answers_createAllocation (auth : AuthenticatedRequestContext) :
    Answers T s₀ source (fun s => s.getClientAllocation input.clientId = none)
      (createAllocation T input message auth) := by
  intro s hI hnone
  have hdrawn : Consistent T { s with draws := s.draws + 1 + 1 } :=
    hI.congr rfl rfl rfl rfl (by dsimp only; omega) fun _ _ h => h
  have hnew : s.allocations.get? (T.randomUUID s.draws) = none := by
    refine Option.eq_none_iff_forall_ne_some.mpr fun a ha => ?_
    exact not_drawn le_rfl (hI.allocation _ a ha).drawn
  have hrelay : s.allocationIdByRelayId.get? (T.randomUUID (s.draws + 1)) = none := by
    refine Option.eq_none_iff_forall_ne_some.mpr fun id hid => ?_
    exact not_drawn (Nat.le_succ _) (hI.relay _ id hid).1
  refine ⟨hdrawn.insert ⟨s.draws, by dsimp only; omega, rfl⟩ ⟨s.draws + 1, by dsimp only; omega, rfl⟩
    hnew hrelay (hI.getClientAllocation_eq_none hnone) ?_,
    ⟨List.prefix_refl _, le_rfl, by change s.draws ≤ s.draws + 1 + 1; omega⟩, ?_⟩
  · exact ⟨nofun, nofun, nofun⟩
  · intro action hmem
    obtain rfl := List.mem_singleton.mp hmem
    exact nofun

lemma answers_handleAllocateRequest (hparse : parseMessage T.hmac input.data none = .ok message) :
    Answers T s₀ source (Read T s₀ time) (handleAllocateRequest T input message) := by
  refine answers_withAuthentication hparse fun auth => ?_
  split
  · exact safe_respond _ _
  · refine keeps_ite (fun _ => safe_respond _ _) fun _ => ?_
    refine keeps_ite (fun _ => safe_respond _ _) fun _ => ?_
    refine keeps_ite (fun _ => safe_respond _ _) fun _ => ?_
    refine keeps_bind keeps_get fun s => ?_
    refine keeps_ite (fun _ => safe_respond _ _) fun hnone => ?_
    refine keeps_ite (fun _ => safe_respond _ _) fun _ => ?_
    refine (answers_createAllocation auth).strengthen fun s' _ hs => ?_
    obtain ⟨rfl, -⟩ := hs
    exact Option.not_isSome_iff_eq_none.mp hnone

/-- The handler of a request that needs the client's allocation. -/
lemma answers_withAllocation (hparse : parseMessage T.hmac input.data none = .ok message)
    {f : AuthenticatedRequestContext → TurnAllocation → Action (List TurnServerAction)}
    (hf : ∀ auth a, a.username = auth.username → Answers T s₀ source (fun s =>
      s.allocations.get? a.id = some a ∧ a.client.clientId = input.clientId ∧
        Authenticated T input message method time auth s) (f auth a)) :
    Answers T s₀ source (Read T s₀ time) (withAllocation T input message method f) := by
  refine answers_withAuthentication hparse fun auth => keeps_bind keeps_get fun s => ?_
  cases ha : s.getClientAllocation input.clientId with
  | none => exact safe_respond _ _
  | some a =>
    refine keeps_ite (fun _ => safe_respond _ _) fun husername => ?_
    refine (hf auth a (not_not.mp husername)).strengthen fun s' hI hs => ?_
    obtain ⟨rfl, hauth⟩ := hs
    obtain ⟨hget, hclient⟩ := hI.getClientAllocation_eq_some ha
    exact ⟨hget, hclient, hauth⟩

lemma answers_handleRefreshRequest (hparse : parseMessage T.hmac input.data none = .ok message) :
    Answers T s₀ source (Read T s₀ time) (handleRefreshRequest T input message time) := by
  refine answers_withAllocation hparse fun auth a _ => keeps_ite (fun _ => ?_) fun _ => ?_
  · refine keeps_bind (safe_deleteAllocation (Q := fun _ => True) a
      (fun s _ hs => ⟨a, hs.1, SameParty.refl a⟩) fun _ _ _ => trivial) fun actions => ?_
    refine keeps_of_pre (c := actions = [.closeRelay a.relayId]) (fun _ _ hs => hs.1) fun hactions => ?_
    have hrespond {P : TurnServer → Prop} (response : Option Message) :
        Answers T s₀ source P (respond (clientEndpoint input) response) := safe_respond _ _
    refine keeps_bind (hrespond _) fun response => (keeps_pure _).strengthen fun s _ hs => ?_
    refine covered_append hs fun action hmem => ?_
    obtain rfl := List.mem_singleton.mp (hactions ▸ hmem)
    exact nofun
  · refine keeps_bind (safe_updateAllocation (Q := fun _ => True) (fun s b hI _ hb => ?_)
      fun _ _ _ => trivial) fun _ => safe_respond _ _
    have hok := (hI.allocation a.id b hb).ok
    exact ⟨⟨rfl, rfl, rfl, rfl⟩, hok.permissions ⟨rfl, rfl, rfl, rfl⟩ rfl rfl fun _ _ h => Or.inl h⟩

/-- What an authenticated request may install. -/
lemma Authenticated.permissionGranted {auth : AuthenticatedRequestContext} {a : TurnAllocation}
    {peerAddress : Address} (h : Authenticated T input message method time auth s)
    (hmethod : method = methods.CREATE_PERMISSION ∨ method = methods.CHANNEL_BIND)
    (husername : a.username = auth.username) (hclient : a.client.clientId = input.clientId)
    (hpeer : message.getAddress .xorPeerAddress = some peerAddress) :
    PermissionGranted T s.history a
      ⟨peerAddress, time + T.options.permissionLifetime * 1000⟩ := by
  obtain ⟨earlier, r, later, hhistory, hvalid, hr, hrname, rfl, rfl, htime⟩ := h
  exact ⟨earlier, r, later, hhistory, hvalid,
    ⟨hr.trans hclient.symm, hrname.trans husername.symm, hpeer⟩, hmethod, by dsimp only; omega⟩

lemma Authenticated.channelGranted {auth : AuthenticatedRequestContext} {a : TurnAllocation}
    {peerAddress : Address} {channelNumber : ℕ}
    (h : Authenticated T input message methods.CHANNEL_BIND time auth s)
    (husername : a.username = auth.username) (hclient : a.client.clientId = input.clientId)
    (hnumber : message.getNumber .channelNumber = some channelNumber)
    (hpeer : message.getAddress .xorPeerAddress = some peerAddress) :
    ChannelGranted T s.history a
      ⟨peerAddress, channelNumber, time + T.options.channelLifetime * 1000⟩ := by
  obtain ⟨earlier, r, later, hhistory, hvalid, hr, hrname, rfl, hmethod, htime⟩ := h
  exact ⟨earlier, r, later, hhistory, hvalid,
    ⟨hr.trans hclient.symm, hrname.trans husername.symm, hpeer⟩, hmethod, hnumber,
    by dsimp only; omega⟩

lemma answers_handleCreatePermissionRequest
    (hparse : parseMessage T.hmac input.data none = .ok message) :
    Answers T s₀ source (Read T s₀ time) (handleCreatePermissionRequest T input message time) := by
  refine answers_withAllocation hparse fun auth a husername => ?_
  cases hpeer : message.getAddress .xorPeerAddress with
  | none => exact safe_respond _ _
  | some peerAddress =>
    refine keeps_ite (fun _ => safe_respond _ _) fun _ => ?_
    refine keeps_bind (safe_updateAllocation (Q := fun _ => True) (fun s b hI hs hb => ?_)
      fun _ _ _ => trivial) fun _ => safe_respond _ _
    obtain ⟨ha, hclient, hauth⟩ := hs
    obtain rfl := Option.some.inj (ha.symm.trans hb)
    exact ⟨⟨rfl, rfl, rfl, rfl⟩, (hI.allocation _ a ha).ok.setPermission
      (hauth.permissionGranted (Or.inl rfl) husername hclient hpeer)⟩

lemma answers_handleChannelBindRequest
    (hparse : parseMessage T.hmac input.data none = .ok message) :
    Answers T s₀ source (Read T s₀ time) (handleChannelBindRequest T input message time) := by
  refine answers_withAllocation hparse fun auth a husername => ?_
  split
  case h_2 => exact safe_respond _ _
  case h_1 channelNumber peerAddress hnumber hpeer =>
    refine keeps_ite (fun _ => safe_respond _ _) fun _ => ?_
    refine keeps_ite (fun _ => safe_respond _ _) fun _ => ?_
    refine keeps_ite (fun _ => safe_respond _ _) fun hbyNumber => ?_
    refine keeps_ite (fun _ => safe_respond _ _) fun hbyPeer => ?_
    have hpermission : Safe T (fun s => s.allocations.get? a.id = some a ∧
        a.client.clientId = input.clientId ∧
        Authenticated T input message methods.CHANNEL_BIND time auth s)
        (setPermission T a peerAddress time) fun _ s => s.allocations.get? a.id =
          some (a.setPermission peerAddress (time + T.options.permissionLifetime * 1000)) ∧
        a.client.clientId = input.clientId ∧
        Authenticated T input message methods.CHANNEL_BIND time auth s := by
      refine safe_updateAllocation (fun s b hI hs hb => ?_) fun s _ hs => ?_
      · obtain ⟨ha, hclient, hauth⟩ := hs
        obtain rfl := Option.some.inj (ha.symm.trans hb)
        exact ⟨⟨rfl, rfl, rfl, rfl⟩, (hI.allocation _ a ha).ok.setPermission
          (hauth.permissionGranted (Or.inr rfl) husername hclient hpeer)⟩
      · obtain ⟨ha, hclient, hauth⟩ := hs
        exact ⟨by rw [get?_update, if_pos rfl, ha, Option.map_some], hclient,
          hauth.later later_update⟩
    refine keeps_bind hpermission fun _ => keeps_bind (safe_updateAllocation (Q := fun _ => True)
      (fun s b hI hs hb => ?_) fun _ _ _ => trivial) fun _ => safe_respond _ _
    obtain ⟨ha, hclient, hauth⟩ := hs
    obtain rfl := Option.some.inj (ha.symm.trans hb)
    refine ⟨⟨rfl, rfl, rfl, rfl⟩, (hI.allocation _ _ ha).ok.setChannelBinding (fun b hb => ?_)
      (fun b hb => ?_) (hauth.channelGranted husername hclient hnumber hpeer)⟩
    · by_contra hne
      have hget : a.channelsByNumber.get? channelNumber = some b := hb
      rw [hget] at hbyNumber
      exact hbyNumber (decide_eq_true hne)
    · by_contra hne
      have hget : a.channelsByPeer.get? (addressKey peerAddress) = some b := hb
      rw [hget] at hbyPeer
      exact hbyPeer (decide_eq_true hne)

lemma answers_handleBindingRequest {P : TurnServer → Prop} :
    Answers T s₀ source P (handleBindingRequest T input) := by
  refine keeps_bind (safe_orThrow _) fun stunActions => (keeps_pure _).strengthen ?_
  intro s _ _ action hmem
  obtain ⟨stunAction, -, rfl⟩ := List.mem_map.mp hmem
  cases stunAction <;> exact nofun

/-! ## Data of a client -/

/-- An action that may be emitted is recorded. -/
lemma safe_emit {from' : Source} {id : String} {action : TurnServerAction} {P : TurnServer → Prop}
    (hP : ∀ s, Consistent T s → P s → Later s₀ s ∧ Read T s₀ time s ∧
      ∃ a, s.allocations.get? id = some a ∧
        Emission.Authorised T s.history ⟨from', a, time, action⟩) :
    Safe T P (emit from' id time action) fun actions s =>
      ∀ action ∈ actions, Covered T s₀ (some from') forwarding action s := by
  have hrecord : Safe T P (modify fun s => s.recordEmission from' id time action) fun _ s =>
      Recorded T s₀ (some from') action s := by
    refine keeps_modify fun s hI hs => ?_
    obtain ⟨hlater, hread, a, ha, hauthorised⟩ := hP s hI hs
    have hs' : s.recordEmission from' id time action =
        s.record (.emitted ⟨from', a, time, action⟩) := by
      rw [TurnServer.recordEmission, ha]
    rw [hs']
    exact ⟨hI.record hauthorised, ⟨List.prefix_append _ _, le_rfl, le_rfl⟩, s.history, _, [], rfl,
      hlater.history, rfl, rfl, hread⟩
  refine keeps_bind hrecord fun _ => (keeps_pure _).strengthen fun s _ hs action' hmem => ?_
  obtain rfl := List.mem_singleton.mp hmem
  exact fun _ => hs

/-- What the handlers of data need to know. -/
def Started (T : Setting) (s₀ : TurnServer) (time : ℤ) (s : TurnServer) : Prop :=
  Later s₀ s ∧ Read T s₀ time s

lemma Started.later (hs : Later s s') (h : Started T s₀ time s) : Started T s₀ time s' :=
  ⟨trans_of Later h.1 hs, h.2.later hs⟩

lemma covered_ignore (reason : IgnoreReason) :
    ∀ action ∈ [TurnServerAction.ignore reason], Covered T s₀ source forwarding action s := by
  intro action hmem
  obtain rfl := List.mem_singleton.mp hmem
  exact nofun

lemma safe_ignore {P : TurnServer → Prop} (reason : IgnoreReason) :
    Safe T P (pure [.ignore reason]) fun actions s =>
      ∀ action ∈ actions, Covered T s₀ source forwarding action s :=
  (keeps_pure _).strengthen fun _ _ _ => covered_ignore reason

/-- A permission that is found authorises. -/
lemma Registered.permits {a : TurnAllocation} {id : String} (h : Registered T s id a)
    {peerAddress : Address} {p : TurnPermission}
    (hp : a.permissions.get? (permissionKey peerAddress) = some p) (htime : time < p.expiresAt) :
    Permits T s.history a peerAddress time := by
  obtain ⟨hkey, hgranted⟩ := h.ok.permission _ p hp
  exact ⟨p, hp, hkey, htime, hgranted⟩

/-- A channel that is found authorises. -/
lemma Registered.hasChannel {a : TurnAllocation} {id : String} (h : Registered T s id a) {n : ℕ}
    {b : TurnChannelBinding} (hb : a.channelsByNumber.get? n = some b) (htime : time < b.expiresAt) :
    HasChannel T s.history a b.peerAddress time := by
  obtain ⟨rfl, -, hgranted⟩ := h.ok.byNumber n b hb
  exact ⟨b, hb, rfl, htime, hgranted⟩

/-- An allocation that was looked up as `a` is now `a'`, and has the channel that was found. -/
structure Found (a : TurnAllocation) (peerAddress : Address) (time : ℤ)
    (channel : Option TurnChannelBinding) (a' : TurnAllocation) : Prop where
  party : SameParty a a'
  channel : ∀ b, channel = some b → b.peerAddress = peerAddress ∧ time < b.expiresAt ∧
    a'.channelsByNumber.get? b.number = some b

variable (T s₀ time) in
lemma safe_getPermission (a : TurnAllocation) (peerAddress : Address)
    (channel : Option TurnChannelBinding) :
    Safe T (fun s => Started T s₀ time s ∧ ∃ a', s.allocations.get? a.id = some a' ∧
        Found a peerAddress time channel a' ∧ a'.permissions = a.permissions)
      (getPermission a peerAddress time) fun permission s =>
        Started T s₀ time s ∧ ∃ a', s.allocations.get? a.id = some a' ∧
          Found a peerAddress time channel a' ∧ ∀ p, permission = some p →
            a'.permissions.get? (permissionKey peerAddress) = some p ∧ time < p.expiresAt := by
  unfold getPermission
  cases hp : a.permissions.get? (permissionKey peerAddress) with
  | none =>
    refine (keeps_pure none).strengthen fun s _ hs => ?_
    obtain ⟨hstarted, a', ha', hfound, -⟩ := hs
    exact ⟨hstarted, a', ha', hfound, nofun⟩
  | some p =>
    refine keeps_ite (fun _ => ?_) fun htime => (keeps_pure (some p)).strengthen fun s _ hs => ?_
    · refine keeps_bind (safe_updateAllocation (Q := fun s => Started T s₀ time s ∧
        ∃ a', s.allocations.get? a.id = some a' ∧ Found a peerAddress time channel a')
        (fun s b hI _ hb => ?_) fun s _ hs => ?_) fun _ =>
          (keeps_pure none).strengthen fun s _ hs => ?_
      · exact ⟨⟨rfl, rfl, rfl, rfl⟩, (hI.allocation _ b hb).ok.deletePermission _⟩
      · obtain ⟨hstarted, a', ha', hfound, -⟩ := hs
        have hparty : SameParty a' { a' with
          permissions := a'.permissions.delete (permissionKey peerAddress) } := ⟨rfl, rfl, rfl, rfl⟩
        refine ⟨hstarted.later later_update, _, ?_, ⟨hfound.party.trans hparty, hfound.channel⟩⟩
        rw [get?_update, if_pos rfl, ha', Option.map_some]
      · obtain ⟨hstarted, a', ha', hfound⟩ := hs
        exact ⟨hstarted, a', ha', hfound, nofun⟩
    · obtain ⟨hstarted, a', ha', hfound, hpermissions⟩ := hs
      refine ⟨hstarted, a', ha', hfound, fun q hq => ?_⟩
      obtain rfl := Option.some.inj hq
      exact ⟨hpermissions ▸ hp, lt_of_not_ge htime⟩

lemma answers_handleSendIndication :
    Answers T s₀ (some (.client input.clientId)) (Started T s₀ time)
      (handleSendIndication input message time) := by
  refine keeps_bind keeps_get fun s => ?_
  cases ha : s.getClientAllocation input.clientId with
  | none => exact safe_ignore .unknownClient
  | some a =>
    dsimp only
    split
    case h_2 => exact safe_ignore .malformed
    case h_1 peerAddress data _ _ =>
      refine keeps_of_pre (c := a.client.clientId = input.clientId) (fun s' hI hs =>
        (hI.getClientAllocation_eq_some (hs.1 ▸ ha)).2) fun hclient => ?_
      refine keeps_bind ((safe_getPermission T s₀ time a peerAddress none).strengthen fun s' hI hs => ?_)
        fun permission => ?_
      · obtain ⟨rfl, hstarted⟩ := hs
        exact ⟨hstarted, a, (hI.getClientAllocation_eq_some ha).1, ⟨SameParty.refl a, nofun⟩, rfl⟩
      · cases permission with
        | none => exact safe_ignore .unknownChannel
        | some p =>
          refine safe_emit fun s' hI hs => ?_
          obtain ⟨⟨hlater, hread⟩, a', ha', hfound, hp⟩ := hs
          obtain ⟨hget, htime⟩ := hp p rfl
          exact ⟨hlater, hread, a', ha', by rw [hfound.party.client, hclient], hfound.party.relayId,
            Or.inl ((hI.allocation _ a' ha').permits hget htime)⟩

lemma answers_handleChannelData :
    Answers T s₀ (some (.client input.clientId)) (Started T s₀ time)
      (handleChannelData input time) := by
  unfold handleChannelData
  cases decodeChannelData input.data with
  | none => exact safe_ignore .malformed
  | some channelData =>
    refine keeps_bind keeps_get fun s => ?_
    cases ha : s.getClientAllocation input.clientId with
    | none => exact safe_ignore .unknownClient
    | some a =>
      dsimp only
      cases hb : a.channelsByNumber.get? channelData.channelNumber with
      | none => exact safe_ignore .unknownChannel
      | some b =>
        refine keeps_ite (fun _ => ?_) fun htime => safe_emit fun s' hI hs => ?_
        · refine keeps_bind (safe_updateAllocation (Q := fun _ => True) (fun s' a' hI hs ha' => ?_)
            fun _ _ _ => trivial) fun _ => safe_ignore .unknownChannel
          obtain ⟨rfl, -⟩ := hs
          obtain ⟨hget, -⟩ := hI.getClientAllocation_eq_some ha
          obtain rfl := Option.some.inj (hget.symm.trans ha')
          exact ⟨⟨rfl, rfl, rfl, rfl⟩, (hI.allocation _ a hget).ok.removeChannelBinding hb⟩
        · obtain ⟨rfl, hlater, hread⟩ := hs
          obtain ⟨hget, hclient⟩ := hI.getClientAllocation_eq_some ha
          have hreg := hI.allocation _ a hget
          exact ⟨hlater, hread, a, hget, hclient, rfl,
            Or.inr (hreg.hasChannel hb (lt_of_not_ge htime))⟩

lemma answers_handleMessage (hparse : parseMessage T.hmac input.data none = .ok message) :
    Answers T s₀ (some (.client input.clientId)) (Started T s₀ time)
      (handleMessage T input message time) := by
  have hstarted : ∀ s, Consistent T s → Started T s₀ time s → Read T s₀ time s :=
    fun s _ hs => hs.2
  refine keeps_ite (fun _ => ?_) fun _ => ?_
  · refine keeps_ite (fun _ => safe_ignore _) fun _ => ?_
    exact keeps_ite (fun _ => safe_ignore _) fun _ => answers_handleSendIndication
  · refine keeps_ite (fun _ => safe_ignore _) fun _ => ?_
    refine keeps_ite (fun _ => safe_respond _ _) fun _ => ?_
    refine keeps_ite (fun _ => answers_handleBindingRequest) fun _ => ?_
    refine keeps_ite (fun _ => (answers_handleAllocateRequest hparse).strengthen hstarted) fun _ => ?_
    refine keeps_ite (fun _ => (answers_handleRefreshRequest hparse).strengthen hstarted) fun _ => ?_
    refine keeps_ite (fun _ =>
      (answers_handleCreatePermissionRequest hparse).strengthen hstarted) fun _ => ?_
    exact keeps_ite (fun _ => (answers_handleChannelBindRequest hparse).strengthen hstarted)
      fun _ => safe_respond _ _

/-- What every method begins with. -/
lemma safe_start {f : ℤ → List TurnServerAction → Action (List TurnServerAction)}
    (hf : ∀ time actions, Safe T (fun s => Started T s₀ time s ∧
      ∀ action ∈ actions, Covered T s₀ source forwarding action s) (f time actions)
        fun actions s => ∀ action ∈ actions, Covered T s₀ source forwarding action s) :
    Safe T (Later s₀) (do
      let time ← now T
      let actions ← cleanupExpired time
      f time actions) fun actions s =>
        ∀ action ∈ actions, Covered T s₀ source forwarding action s := by
  refine keeps_bind (safe_now.retain fun _ _ hs h => trans_of Later h hs) fun time => ?_
  have hcleanup : Safe T (Started T s₀ time) (cleanupExpired time) fun actions s =>
      Started T s₀ time s ∧ ∀ action ∈ actions, Covered T s₀ source forwarding action s :=
    (safe_cleanupExpired time).retain fun _ _ hs h => h.later hs
  exact keeps_bind hcleanup fun actions => hf time actions

/-- More actions behind the ones that there are. -/
lemma safe_more {P : TurnServer → Prop} {actions : List TurnServerAction}
    {m : Action (List TurnServerAction)}
    {f : List TurnServerAction → Action (List TurnServerAction)}
    (hm : Safe T P m fun more s => ∀ action ∈ more, Covered T s₀ source forwarding action s)
    (hf : ∀ more, Safe T (fun s => ∀ action ∈ actions ++ more,
      Covered T s₀ source forwarding action s) (f more) fun actions s =>
        ∀ action ∈ actions, Covered T s₀ source forwarding action s) :
    Safe T (fun s => P s ∧ ∀ action ∈ actions, Covered T s₀ source forwarding action s)
      (m >>= f) fun actions s => ∀ action ∈ actions, Covered T s₀ source forwarding action s := by
  have hactions : Safe T (fun s => P s ∧ ∀ action ∈ actions,
      Covered T s₀ source forwarding action s) m fun more s =>
        (∀ action ∈ more, Covered T s₀ source forwarding action s) ∧
          ∀ action ∈ actions, Covered T s₀ source forwarding action s :=
    hm.frame fun s s' hs h action hmem => (h action hmem).later hs
  exact keeps_bind hactions fun more => (hf more).strengthen fun s _ hs => covered_append hs.2 hs.1

lemma safe_finalize (actions : List TurnServerAction) (time : ℤ) :
    Safe T (fun s => ∀ action ∈ actions, Covered T s₀ source forwarding action s)
      (finalizeActions actions time) fun actions s =>
        ∀ action ∈ actions, Covered T s₀ source forwarding action s :=
  (safe_finalizeActions (P := fun _ => True) actions time).strengthen fun _ _ hs => ⟨trivial, hs⟩

lemma answers_dispatchPacket : Answers T s₀ (some (.client input.clientId)) (Started T s₀ time)
    (dispatchPacket T input time) := by
  refine keeps_ite (fun _ => answers_handleChannelData) fun _ => ?_
  refine keeps_ite (fun _ => safe_ignore _) fun _ => ?_
  cases hparse : parseMessage T.hmac input.data none with
  | error exit =>
    cases exit with
    | undefined => exact safe_ignore _
    | throws => exact keeps_throw ()
  | ok message => exact answers_handleMessage hparse

lemma answers_handleClientPacket :
    Answers T s₀ (some (.client input.clientId)) (Later s₀) (handleClientPacket T input) :=
  safe_start fun _ _ => safe_more answers_dispatchPacket fun _ =>
    (keeps_pure _).strengthen fun _ _ hs => hs

/-! ## The public methods -/

lemma answers_handleClientDatagram :
    Answers T s₀ (some (.client input.clientId)) (Later s₀) (handleClientDatagram T input) := by
  refine keeps_bind (answers_handleClientPacket.retain fun _ _ hs h => trans_of Later h hs)
    fun actions => ?_
  have hnow : Safe T (fun s => Later s₀ s ∧ ∀ action ∈ actions,
      Covered T s₀ (some (.client input.clientId)) false action s) (now T) fun _ s =>
        ∀ action ∈ actions, Covered T s₀ (some (.client input.clientId)) false action s :=
    (safe_now.frame fun s s' hs h action hmem => (h action hmem).later hs).weaken
      fun _ _ _ hs => hs.2
  exact keeps_bind hnow fun time => safe_finalize actions time

/-- Changing the buffers. -/
lemma safe_tcpBuffers {P : TurnServer → Prop} (hP : ∀ s s', Later s s' → P s → P s')
    (f : TurnServer → Js.Map String Bytes) :
    Safe T P (modify fun s => { s with tcpBuffers := f s }) fun _ s => P s :=
  keeps_modify fun s hI hs =>
    have hlater : Later s { s with tcpBuffers := f s } := ⟨List.prefix_refl _, le_rfl, le_rfl⟩
    ⟨hI.congr rfl rfl rfl rfl le_rfl fun _ _ h => h, hlater, hP _ _ hlater hs⟩

/-- What is said at the start of a method survives. -/
lemma started_covered_later {actions : List TurnServerAction} (hs : Later s s')
    (h : Started T s₀ time s ∧ ∀ action ∈ actions, Covered T s₀ source forwarding action s) :
    Started T s₀ time s' ∧ ∀ action ∈ actions, Covered T s₀ source forwarding action s' :=
  ⟨h.1.later hs, fun action hmem => (h.2 action hmem).later hs⟩

lemma answers_handleTcpChunk {chunk : TurnServerTcpChunk} :
    Answers T s₀ (some (.client chunk.clientId)) (Later s₀) (handleTcpChunk T chunk) := by
  refine safe_start fun time actions => keeps_bind keeps_get fun s => ?_
  refine Keeps.strengthen (P := fun s => Started T s₀ time s ∧ ∀ action ∈ actions,
    Covered T s₀ (some (.client chunk.clientId)) false action s) ?_ fun _ _ hs => hs.2
  refine keeps_ite (fun _ => ?_) fun _ => ?_
  · refine keeps_bind (safe_tcpBuffers (fun _ _ => started_covered_later) _) fun _ => ?_
    refine (safe_finalize _ time).strengthen fun s _ hs => covered_append hs.2 fun action hmem => ?_
    obtain rfl := List.mem_singleton.mp hmem
    exact nofun
  · refine keeps_bind (safe_tcpBuffers (fun _ _ => started_covered_later) _) fun _ => ?_
    refine safe_more ?_ fun more => safe_finalize _ time
    refine (keeps_concatMapM (P := fun _ s => Later s₀ s) (fun _ _ _ hs h => h.later hs)
      (fun frame l => ?_) _).strengthen fun s _ hs => hs.1
    refine (answers_handleClientPacket.retain fun _ _ hs h => trans_of Later h hs).weaken
      fun more s _ hs => ⟨hs.2, hs.1⟩

/-! ## Packets of peers -/

lemma safe_getChannelBinding (a : TurnAllocation) (peerAddress : Address) :
    Safe T (fun s => Started T s₀ time s ∧ s.allocations.get? a.id = some a)
      (getChannelBinding a peerAddress time) fun channel s =>
        Started T s₀ time s ∧ ∃ a', s.allocations.get? a.id = some a' ∧
          Found a peerAddress time channel a' ∧ a'.permissions = a.permissions := by
  unfold getChannelBinding
  cases hb : a.channelsByPeer.get? (addressKey peerAddress) with
  | none =>
    exact (keeps_pure none).strengthen fun s _ hs =>
      ⟨hs.1, a, hs.2, ⟨SameParty.refl a, nofun⟩, rfl⟩
  | some b =>
    refine keeps_ite (fun _ => ?_) fun htime => (keeps_pure (some b)).strengthen fun s hI hs => ?_
    · refine keeps_bind (safe_updateAllocation (Q := fun s => Started T s₀ time s ∧
        s.allocations.get? a.id = some (a.removeChannelBinding b)) (fun s a' hI hs ha' => ?_)
        fun s _ hs => ?_) fun _ => (keeps_pure none).strengthen fun s _ hs => ?_
      · obtain rfl := Option.some.inj (hs.2.symm.trans ha')
        have hok := (hI.allocation _ a ha').ok
        exact ⟨⟨rfl, rfl, rfl, rfl⟩, hok.removeChannelBinding (hok.byPeer _ b hb).2⟩
      · exact ⟨hs.1.later later_update, by rw [get?_update, if_pos rfl, hs.2, Option.map_some]⟩
      · exact ⟨hs.1, _, hs.2, ⟨⟨rfl, rfl, rfl, rfl⟩, nofun⟩, rfl⟩
    · refine ⟨hs.1, a, hs.2, ⟨SameParty.refl a, fun b' hb' => ?_⟩, rfl⟩
      obtain rfl := Option.some.inj hb'
      obtain ⟨hkey, hnumber⟩ := (hI.allocation _ a hs.2).ok.byPeer _ b hb
      exact ⟨addressKey_injective hkey, lt_of_not_ge htime, hnumber⟩

/-- Writing the data changes nothing but the number of draws. -/
lemma safe_relayedData {P : TurnServer → Prop} (hP : ∀ s, P s → P { s with draws := s.draws + 1 })
    (packet : TurnServerRelayPacket) (channel : Option TurnChannelBinding) :
    Safe T P (relayedData T packet channel) fun _ s => P s := by
  have hwrite (bytes : Option Bytes) : Safe T P (orThrow bytes) fun _ s => P s :=
    (safe_orThrow bytes).weaken fun _ _ _ hs => hs.2
  have hdraw : Safe T P (randomBytes T 12) fun _ s => P s := by
    intro s hI hs
    exact ⟨hI.congr rfl rfl rfl rfl (Nat.le_succ _) fun _ _ h => h,
      ⟨List.prefix_refl _, le_rfl, Nat.le_succ _⟩, hP s hs⟩
  unfold relayedData
  cases channel with
  | some binding => exact hwrite _
  | none => exact keeps_bind hdraw fun transactionId => hwrite _

lemma safe_forwardRelayPacket (packet : TurnServerRelayPacket) (a : TurnAllocation)
    (ha : a.relayId = packet.relayId) :
    Safe T (fun s => Started T s₀ time s ∧ s.allocations.get? a.id = some a)
      (forwardRelayPacket T packet a time) fun actions s => ∀ action ∈ actions,
        Covered T s₀ (some (.peer packet.relayId packet.remoteAddress)) true action s := by
  refine keeps_bind (safe_getChannelBinding a packet.remoteAddress) fun channel => ?_
  refine keeps_bind (safe_getPermission T s₀ time a packet.remoteAddress channel)
    fun permission => ?_
  refine keeps_ite (fun _ => safe_ignore _) fun hfound => ?_
  have hdraw (s : TurnServer) : Later s { s with draws := s.draws + 1 } :=
    ⟨List.prefix_refl _, le_rfl, Nat.le_succ _⟩
  refine keeps_bind (safe_relayedData (fun s hs => ⟨hs.1.later (hdraw s), hs.2⟩) packet channel)
    fun data => safe_emit fun s hI hs => ?_
  obtain ⟨⟨hlater, hread⟩, a', ha', ⟨hparty, hchannel⟩, hpermission⟩ := hs
  have hreg := hI.allocation _ a' ha'
  refine ⟨hlater, hread, a', ha', hparty.relayId.trans ha, ⟨data, by rw [hparty.client]⟩, ?_⟩
  -- the channel or the permission that was found is still there when the packet is forwarded
  cases channel with
  | some b =>
    obtain ⟨hpeer, htime, hnumber⟩ := hchannel b rfl
    exact Or.inr (hpeer ▸ hreg.hasChannel hnumber htime)
  | none =>
    cases permission with
    | none => exact absurd rfl hfound
    | some p =>
      obtain ⟨hget, htime⟩ := hpermission p rfl
      exact Or.inl (hreg.permits hget htime)

lemma safe_handleRelayPacket (packet : TurnServerRelayPacket) :
    Safe T (Later s₀) (handleRelayPacket T packet) fun actions s => ∀ action ∈ actions,
      Covered T s₀ (some (.peer packet.relayId packet.remoteAddress)) true action s := by
  refine safe_start fun time actions => keeps_bind keeps_get fun s => ?_
  have hunknown : Safe T (fun s' => s = s' ∧ Started T s₀ time s' ∧ ∀ action ∈ actions,
      Covered T s₀ (some (.peer packet.relayId packet.remoteAddress)) true action s')
      (finalizeActions (actions ++ [TurnServerAction.ignore .unknownRelay]) time) fun actions s =>
        ∀ action ∈ actions,
          Covered T s₀ (some (.peer packet.relayId packet.remoteAddress)) true action s :=
    (safe_finalize _ time).strengthen fun s' _ hs => covered_append hs.2.2 (covered_ignore _)
  cases ha : s.getRelayAllocation packet.relayId with
  | none => exact hunknown
  | some a =>
    refine keeps_ite (fun _ => hunknown) fun _ => ?_
    refine keeps_of_pre (c := a.relayId = packet.relayId) (fun s' hI hs =>
      (hI.getRelayAllocation_eq_some (hs.1 ▸ ha)).2) fun hrelay => ?_
    refine (safe_more (safe_forwardRelayPacket packet a hrelay) fun more =>
      safe_finalize _ time).strengthen fun s' hI hs => ?_
    obtain ⟨rfl, hstarted, hcovered⟩ := hs
    exact ⟨⟨hstarted, (hI.getRelayAllocation_eq_some ha).1⟩, hcovered⟩

/-! ## The other methods -/

/-- The end of a method that ignores its input. -/
lemma safe_unknownRelay {P : TurnServer → Prop} (actions : List TurnServerAction) (time : ℤ) :
    Safe T (fun s => P s ∧ ∀ action ∈ actions, Covered T s₀ source false action s)
      (finalizeActions (actions ++ [TurnServerAction.ignore .unknownRelay]) time) fun actions s =>
        ∀ action ∈ actions, Covered T s₀ source false action s :=
  (safe_finalize _ time).strengthen fun _ _ hs => covered_append hs.2 (covered_ignore _)

lemma answers_handleRelayBound (bound : TurnServerRelayBound) :
    Answers T s₀ source (Later s₀) (handleRelayBound T bound) := by
  refine safe_start fun time actions => keeps_bind keeps_get fun s => ?_
  refine Keeps.strengthen (P := fun s' => Started T s₀ time s' ∧ ∀ action ∈ actions,
    Covered T s₀ source false action s') ?_ fun _ _ hs => hs.2
  cases ha : s.allocations.get? bound.allocationId with
  | none => exact safe_unknownRelay actions time
  | some a =>
    dsimp only
    cases hpending : a.pendingAllocate with
    | none => exact safe_unknownRelay actions time
    | some pending =>
      refine keeps_ite (fun _ => safe_unknownRelay actions time) fun _ => ?_
      refine keeps_bind (safe_updateAllocation (fun s b hI _ hb => ?_) fun s _ hs =>
        started_covered_later later_update hs) fun _ =>
          safe_more (safe_respond _ _) fun more => safe_finalize _ time
      have hok := (hI.allocation _ b hb).ok
      exact ⟨⟨rfl, rfl, rfl, rfl⟩, hok.permissions ⟨rfl, rfl, rfl, rfl⟩ rfl rfl fun _ _ h => Or.inl h⟩

variable (s₀ source time) in
/-- Deleting an allocation that has just been looked up. -/
lemma safe_delete_lookup (actions : List TurnServerAction) (a : TurnAllocation) :
    Safe T (fun s => s.allocations.get? a.id = some a ∧ Started T s₀ time s ∧
        ∀ action ∈ actions, Covered T s₀ source false action s) (deleteAllocation a)
      fun closed s => closed = [.closeRelay a.relayId] ∧ Started T s₀ time s ∧
        ∀ action ∈ actions, Covered T s₀ source false action s :=
  safe_deleteAllocation a (fun _ _ hs => ⟨a, hs.1, SameParty.refl a⟩) fun s _ hs =>
    have hlater : Later s (s.delete a) := ⟨List.prefix_refl _, le_rfl, le_rfl⟩
    started_covered_later hlater hs.2

lemma answers_handleRelayBindFailure (failure : TurnServerRelayBindFailure) :
    Answers T s₀ source (Later s₀) (handleRelayBindFailure T failure) := by
  refine safe_start fun time actions => keeps_bind keeps_get fun s => ?_
  cases ha : s.allocations.get? failure.allocationId with
  | none => exact (safe_unknownRelay actions time).strengthen fun _ _ hs => hs.2
  | some a =>
    dsimp only
    cases hpending : a.pendingAllocate with
    | none => exact (safe_unknownRelay actions time).strengthen fun _ _ hs => hs.2
    | some pending =>
      refine keeps_bind ((safe_delete_lookup s₀ source time actions a).strengthen
        fun s' hI hs => ?_) fun _ => ?_
      · obtain ⟨rfl, hs⟩ := hs
        exact ⟨(hI.allocation _ a ha).key ▸ ha, hs⟩
      · exact (safe_more (safe_respond _ _) fun more => safe_finalize _ time).strengthen
          fun s _ hs => hs.2

lemma answers_handleClientClosed (clientId : String) :
    Answers T s₀ source (Later s₀) (handleClientClosed T clientId) := by
  refine safe_start fun time actions => ?_
  refine keeps_bind (safe_tcpBuffers (fun _ _ => started_covered_later) _) fun _ => ?_
  refine keeps_bind keeps_get fun s => ?_
  cases ha : s.getClientAllocation clientId with
  | none => exact (safe_finalize actions time).strengthen fun _ _ hs => hs.2.2
  | some a =>
    refine keeps_bind ((safe_delete_lookup s₀ source time actions a).strengthen
      fun s' hI hs => ?_) fun more => ?_
    · obtain ⟨rfl, hs⟩ := hs
      exact ⟨(hI.getClientAllocation_eq_some ha).1, hs⟩
    · refine (safe_finalize _ time).strengthen fun s _ hs => covered_append hs.2.2 ?_
      intro action hmem
      obtain rfl := List.mem_singleton.mp (hs.1 ▸ hmem)
      exact nofun

lemma answers_handleTimer (given : Option ℤ) :
    Answers T s₀ source (Later s₀) (handleTimer T given) := by
  have hrest (time : ℤ) : Answers T s₀ source (fun _ => True) (do
      finalizeActions (← cleanupExpired time) time) :=
    keeps_bind (safe_cleanupExpired time) fun actions => safe_finalize actions time
  cases given with
  | some time => exact (hrest time).strengthen fun _ _ _ => trivial
  | none => exact keeps_bind safe_now fun time => (hrest time).strengthen fun _ _ _ => trivial

/-! ## Runs -/

variable (T s₀) in
/-- **A call** keeps the invariant, and what it relays is recorded. -/
theorem safe_serve (call : Call) :
    Safe T (Later s₀) (serve T call) fun actions s => ∀ action ∈ actions,
      Covered T s₀ call.source call.forwarding action s := by
  cases call with
  | clientDatagram input => exact answers_handleClientDatagram
  | tcpChunk input => exact answers_handleTcpChunk
  | relayPacket input => exact safe_handleRelayPacket input
  | relayBound input => exact answers_handleRelayBound input
  | relayBindFailure input => exact answers_handleRelayBindFailure input
  | clientClosed clientId => exact answers_handleClientClosed clientId
  | timer time => exact answers_handleTimer time

/-- The state after a call, whether it returns or throws. -/
def stateAfter (T : Setting) (s : TurnServer) (call : Call) : TurnServer :=
  match (serve T call).run s with
  | .ok _ s' => s'
  | .error _ s' => s'

/-- The states that calls in any order reach from the new server. -/
abbrev Reachable (T : Setting) : TurnServer → Prop :=
  Transition.Reachable (fun s call => some (stateAfter T s call)) {}

/-- A new server. -/
lemma consistent_empty : Consistent T {} :=
  ⟨fun _ _ h => absurd h.symm (Option.some_ne_none _),
    fun _ _ h => absurd h.symm (Option.some_ne_none _),
    fun _ _ h => absurd h.symm (Option.some_ne_none _),
    fun _ _ h => absurd h.symm (Option.some_ne_none _), fun _ _ _ h => absurd h (by simp)⟩

/-- **Invariance.**  A reachable server is consistent. -/
theorem Reachable.consistent (h : Reachable T s) : Consistent T s := by
  refine h.invariant (Consistent T) consistent_empty fun s call s' hI _ hs' => ?_
  obtain rfl := Option.some.inj hs'
  have hserve := safe_serve T s call s hI (refl_of Later s)
  unfold stateAfter
  cases hrun : (serve T call).run s with
  | ok actions s' =>
    rw [hrun] at hserve
    exact hserve.1
  | error e s' =>
    rw [hrun] at hserve
    exact hserve.1

/-- **Authorisation.**  Whatever a call relays is authorised by what happened before: a packet of a
client goes to a peer through the relay of that client's allocation, a packet of a peer goes to the
client of the relay's allocation, and the allocation has at that time an unexpired permission for the
IP of the peer, or an unexpired channel bound to the peer, that an authenticated request of its user
installed. -/
theorem serve_authorised (hs : Reachable T s) {call : Call} {actions : List TurnServerAction}
    (h : (serve T call).run s = .ok actions s') : ∀ action ∈ actions,
      action.relays call.forwarding = true → ∃ before e after,
        s'.history = before ++ Event.emitted e :: after ∧ s.history <+: before ∧ e.action = action ∧
          call.source = some e.source ∧ Read T s e.now s' ∧ e.Authorised T before := by
  intro action hmem hrelays
  obtain ⟨hI', -, hcovered⟩ := (safe_serve T s call).ok hs.consistent (refl_of Later s) h
  obtain ⟨before, e, after, hhistory, hbefore, haction, hsource, hread⟩ :=
    hcovered action hmem hrelays
  exact ⟨before, e, after, hhistory, hbefore, haction, hsource, hread,
    hI'.history before _ after hhistory⟩

/-- A setting in which every digest is zero, so that a request with zeros as its integrity is
accepted. -/
def zeroSetting : Setting where
  options := { realm := "r", getPassword := fun _ _ => some "p" }
  hmac := ⟨fun _ _ => List.replicate 20 0, fun _ _ => rfl⟩
  md5 _ := []
  now n := n
  randomUUID n := String.ofList (List.replicate (n + 1) 'u')
  randomBytes _ size := List.replicate size 7
  monotone_now _ _ h := Int.ofNat_le.mpr h
  randomUUID_injective m n h := by simpa using congrArg List.length (String.ofList_injective h)
  randomUUID_ne_empty n := by simp [String.ofList_eq_empty_iff]

/-- A datagram of a client with a STUN message. -/
def datagram (method length : UInt8) (attributes : Bytes) : Call :=
  .clientDatagram
    { clientId := "c"
      data := [0, method, 0, length, 0x21, 0x12, 0xa4, 0x42] ++ List.replicate 12 0 ++ attributes
      remoteAddress := ("10.0.0.1", 5000)
      transport := .udp }

/-- The attributes that authenticate a request: the user, the realm, the nonce and the integrity. -/
def credentials : Bytes :=
  [0, 6, 0, 1, 0x75, 0, 0, 0] ++ [0, 20, 0, 1, 0x72, 0, 0, 0] ++
    ([0, 21, 0, 16] ++ List.replicate 16 7) ++ ([0, 8, 0, 20] ++ List.replicate 20 0)

/-- A peer address. -/
def peerAttribute : Bytes := [0, 18, 0, 8, 0, 1, 54, 98, 43, 18, 164, 64]

/-- An allocation with a permission: the first request fetches a nonce. -/
def setupCalls : List Call :=
  [datagram 3 0 [], datagram 3 68 ([0, 25, 0, 4, 17, 0, 0, 0] ++ credentials),
    datagram 8 72 (peerAttribute ++ credentials)]

/-- The state after these requests. -/
def permittedState : TurnServer := setupCalls.foldl (stateAfter zeroSetting) {}

/-- A send indication with three bytes of data. -/
def sendIndication : Call := datagram 22 20 (peerAttribute ++ [0, 19, 0, 3, 1, 2, 3, 0])

/-- The actions of a call that returns. -/
def actionsOf (T : Setting) (s : TurnServer) (call : Call) : Option (List TurnServerAction) :=
  match (serve T call).run s with
  | .ok actions _ => some actions
  | .error _ _ => none

lemma actionsOf_eq_some {call : Call} {actions : List TurnServerAction}
    (h : actionsOf T s call = some actions) :
    (serve T call).run s = .ok actions (stateAfter T s call) := by
  unfold actionsOf at h
  unfold stateAfter
  cases hrun : (serve T call).run s with
  | ok result s' =>
    rw [hrun] at h
    obtain rfl := Option.some.inj h
    rfl
  | error e s' =>
    rw [hrun] at h
    cases h

/-- A server that has taken some calls is reachable. -/
lemma reachable_foldl (T : Setting) (calls : List Call) :
    Reachable T (calls.foldl (stateAfter T) {}) :=
  Transition.reachable_of_foldlM List.foldlM_pure

/-- The data of the indication are relayed, authorised by the permission. -/
theorem serve_authorised_sendIndication : ∃ before e after,
    (stateAfter zeroSetting permittedState sendIndication).history =
      before ++ Event.emitted e :: after ∧ permittedState.history <+: before ∧
      e.action = .sendRelay "uuu" ("10.0.0.2", 6000) [1, 2, 3] ∧
      sendIndication.source = some e.source ∧
      Read zeroSetting permittedState e.now (stateAfter zeroSetting permittedState sendIndication) ∧
      e.Authorised zeroSetting before := by
  have hactions : actionsOf zeroSetting permittedState sendIndication =
      some [.sendRelay "uuu" ("10.0.0.2", 6000) [1, 2, 3], .scheduleTimeout 300006] := by
    decide +kernel
  exact serve_authorised (reachable_foldl zeroSetting setupCalls) (actionsOf_eq_some hactions) _
    List.mem_cons_self rfl

end Werift.Turn
