import Werift.Stun.RoundTrip
import Werift.Turn.Bookkeeping

/-!
# The answers to requests

A request is answered with an error, or its credentials are right and the handler behind the
authentication gives the answer.  `AnsweredAgain`: a handler that has answered a packet with a success
answers it in the same way later on.
-/

namespace Werift.Turn

open Stun Contract

variable {T : Setting} {s s' : TurnServer} {input : TurnServerClientPacket} {message : Message}
  {more : List TurnServerAction} {data : Bytes}

/-! ## The class of an answer -/

/-- The class of the message in a datagram. -/
def datagramClass (data : Bytes) : Option ℕ :=
  (Js.readUInt16BE data 0).map fun type => type.toNat &&& 0x0110

/-- A message with a header that can be written, and of a class. -/
structure Headed (m : Message) (messageClass : ℕ) : Prop where
  header : ValidHeader m
  messageClass : m.messageClass = messageClass

section

variable {m r : Message} {messageClass : ℕ}

lemma Headed.setAttribute (h : Headed m messageClass) (key : AttributeKey)
    (value : AttributeValue) : Headed (m.setAttribute key value) messageClass :=
  ⟨⟨h.header.messageMethod, h.header.messageClass, h.header.transactionId⟩, h.messageClass⟩

lemma Headed.setAttributes (h : Headed m messageClass) (attributes : List AttributePair) :
    Headed (m.setAttributes attributes) messageClass := by
  induction attributes generalizing m with
  | nil => exact h
  | cons pair attributes ih => exact ih (h.setAttribute pair.1 pair.2)

lemma Headed.addMessageIntegrity (h : Headed m messageClass) {key : Bytes}
    (hr : m.addMessageIntegrity T.hmac key = some r) : Headed r messageClass := by
  obtain ⟨digest, -, hr⟩ := Option.bind_eq_some_iff.mp hr
  exact Option.some.inj hr ▸ h.setAttribute _ _

lemma Headed.addFingerprint (h : Headed m messageClass) (hr : m.addFingerprint = some r) :
    Headed r messageClass := by
  obtain ⟨written, -, hr⟩ := Option.bind_eq_some_iff.mp hr
  obtain ⟨checksum, -, hr⟩ := Option.bind_eq_some_iff.mp hr
  exact Option.some.inj hr ▸ h.setAttribute _ _

lemma Headed.addResponseAttributes (h : Headed m messageClass) {request : Message}
    {attributes : List AttributePair} {integrityKey : Option Bytes}
    (hr : addResponseAttributes T m request attributes integrityKey = some r) :
    Headed r messageClass := by
  have hfinish {signed : Message} (hsigned : Headed signed messageClass)
      (hr : (if T.options.fingerprint.shouldAdd request then signed.addFingerprint
        else some signed) = some r) : Headed r messageClass := by
    split_ifs at hr
    · exact hsigned.addFingerprint hr
    · exact Option.some.inj hr ▸ hsigned
  have hattributes : Headed (m.setAttributes attributes) messageClass := h.setAttributes attributes
  unfold Turn.addResponseAttributes at hr
  dsimp only at hr
  cases hsoftware : truthy T.options.software with
  | none =>
    rw [hsoftware] at hr
    cases integrityKey with
    | none => exact hfinish hattributes hr
    | some key =>
      obtain ⟨signed, hsigned, hr⟩ := Option.bind_eq_some_iff.mp hr
      exact hfinish (hattributes.addMessageIntegrity hsigned) hr
  | some software =>
    rw [hsoftware] at hr
    cases integrityKey with
    | none => exact hfinish (hattributes.setAttribute _ _) hr
    | some key =>
      obtain ⟨signed, hsigned, hr⟩ := Option.bind_eq_some_iff.mp hr
      exact hfinish ((hattributes.setAttribute _ _).addMessageIntegrity hsigned) hr

lemma headed_errorResponse (hm : ValidHeader m) {errorCode : ℕ} {reason : String}
    {attributes : List AttributePair} {integrityKey : Option Bytes}
    (hr : errorResponse T m errorCode reason attributes integrityKey = some r) :
    Headed r classes.ERROR := by
  have hclass : classes.ERROR &&& 0x0110 = classes.ERROR := by decide
  have hempty : Headed
      { messageMethod := m.messageMethod
        messageClass := classes.ERROR
        transactionId := m.transactionId } classes.ERROR :=
    ⟨⟨hm.messageMethod, hclass, hm.transactionId⟩, rfl⟩
  exact (hempty.setAttribute _ _).addResponseAttributes hr

/-- The class is written into the header. -/
lemma Headed.datagramClass (h : Headed m messageClass) (hdata : m.bytes = some data) :
    datagramClass data = some messageClass := by
  obtain ⟨fields, -, hdata⟩ := Option.bind_eq_some_iff.mp hdata
  obtain ⟨parts, -, hdata⟩ := Option.bind_eq_some_iff.mp hdata
  obtain ⟨head, hhead, hdata⟩ := Option.bind_eq_some_iff.mp hdata
  obtain ⟨htype, -, rfl⟩ := header_eq_some.mp hhead
  obtain rfl := Option.some.inj hdata
  have hread := readUInt16BE_append htype []
    (BigEndian.encode 2 parts.flatten.length ++ (BigEndian.encode 4 COOKIE ++ m.transactionId) ++
      parts.flatten)
  have hread : Js.readUInt16BE (headerOf m parts.flatten.length ++ parts.flatten) 0 =
      some ((m.messageMethod ||| m.messageClass : ℕ) : ℤ) := by
    simpa [headerOf] using hread
  rw [Turn.datagramClass, hread, Option.map_some, Int.toNat_natCast, h.header.class_of_type,
    h.messageClass]

end

/-! ## Answers -/

/-- A packet is answered with a success. -/
def Succeeds (input : TurnServerClientPacket) (data : Bytes) (actions : List TurnServerAction) :
    Prop :=
  sendClient (clientEndpoint input) data ∈ actions ∧ datagramClass data = some classes.RESPONSE

lemma run_orThrow_eq_ok {α : Type} {x : Option α} {a : α} :
    (orThrow x).run s = .ok a s' ↔ x = some a ∧ s = s' := by
  cases x with
  | none => exact ⟨fun h => absurd h run_throw_eq_ok, fun h => absurd h.1.symm (Option.some_ne_none a)⟩
  | some b => exact run_pure_eq_ok.trans (and_congr_left' Option.some_inj.symm)

lemma run_respond_eq_ok {client : ClientEndpoint} {response : Option Message} :
    (respond client response).run s = .ok more s' ↔ s = s' ∧
      ∃ r data, response = some r ∧ r.bytes = some data ∧ [sendClient client data] = more := by
  simp only [respond, run_bind_eq_ok, run_orThrow_eq_ok, run_pure_eq_ok]
  constructor
  · rintro ⟨r, s₁, ⟨hr, rfl⟩, data, s₂, ⟨hdata, rfl⟩, rfl, rfl⟩
    exact ⟨rfl, r, data, hr, hdata, rfl⟩
  · rintro ⟨rfl, r, data, hr, hdata, rfl⟩
    exact ⟨r, s, ⟨hr, rfl⟩, data, s, ⟨hdata, rfl⟩, rfl, rfl⟩

/-- An error is no success. -/
lemma not_succeeds_respond {client : ClientEndpoint} {response : Option Message}
    (hresponse : ∀ r, response = some r → Headed r classes.ERROR)
    (h : (respond client response).run s = .ok more s') : ¬ Succeeds input data more := by
  rintro ⟨hmem, hclass⟩
  obtain ⟨rfl, r, data', hr, hdata', rfl⟩ := run_respond_eq_ok.mp h
  have hsame : data = data' := by
    have := List.mem_singleton.mp hmem
    rw [sendClient, sendClient, TurnServerAction.sendClient.injEq] at this
    exact this.2.2.2
  rw [hsame, (hresponse r hr).datagramClass hdata'] at hclass
  exact absurd (Option.some.inj hclass) (by decide)

lemma not_succeeds_refuse (hmessage : ValidHeader message) {auth : AuthenticatedRequestContext}
    {errorCode : ℕ} {reason : String}
    (h : (refuse T input message auth errorCode reason).run s = .ok more s') :
    ¬ Succeeds input data more :=
  not_succeeds_respond (fun _ hr => headed_errorResponse hmessage hr) h

/-! ## Authentication -/

/-- What a packet has to say to be authenticated, while its nonce is valid. -/
structure Credentials (T : Setting) (input : TurnServerClientPacket) (message : Message)
    (method : ℕ) (nonce : Bytes) (auth : AuthenticatedRequestContext) : Prop where
  username : truthy (message.getString .username) = some auth.username
  realm : message.getString .realm = some T.options.realm
  nonce : message.getBuffer .nonce = some nonce
  integrity : (message.getBuffer .messageIntegrity).isSome
  password : ∃ password, truthy (T.options.getPassword auth.username T.options.realm) =
    some password ∧ auth.integrityKey =
      makeTurnIntegrityKey T auth.username T.options.realm password
  parsed : parseMessage T.hmac input.data (some auth.integrityKey) = .ok auth.message
  method : auth.message.messageMethod = method

/-- The server has a nonce that has not expired when the clock is read next. -/
def Fresh (T : Setting) (s : TurnServer) (nonce : Bytes) : Prop :=
  ∃ state, s.nonces.get? (Js.toHex nonce) = some state ∧ T.now s.ticks < state.expiresAt

/-- Two states with the same allocations. -/
structure SameAllocations (s s' : TurnServer) : Prop where
  allocations : s'.allocations = s.allocations
  allocationIdByClientId : s'.allocationIdByClientId = s.allocationIdByClientId

lemma SameAllocations.getClientAllocation (h : SameAllocations s s') (clientId : String) :
    s'.getClientAllocation clientId = s.getClientAllocation clientId := by
  rw [TurnServer.getClientAllocation, TurnServer.getClientAllocation, h.allocationIdByClientId,
    TurnServer.allocationOf, TurnServer.allocationOf, h.allocations]

section

variable {method : ℕ} {nonce : Bytes} {auth : AuthenticatedRequestContext}

/-- The response that refuses a request is an error. -/
lemma run_unauthorizedResponse {errorCode : ℕ} {reason : String} {r : Message}
    (hmessage : ValidHeader message)
    (h : (unauthorizedResponse T message errorCode reason).run s = .ok r s') :
    Headed r classes.ERROR := by
  obtain ⟨nonce, s₁, -, h⟩ := run_bind_eq_ok.mp h
  exact headed_errorResponse hmessage (run_orThrow_eq_ok.mp h).1

/-- **Authentication.**  A request is refused with an error, or it has credentials. -/
lemma run_authenticateRequest {result : Except Message AuthenticatedRequestContext}
    (hmessage : ValidHeader message)
    (h : (authenticateRequest T input message method).run s = .ok result s') :
    (∃ r, result = .error r ∧ Headed r classes.ERROR) ∨ ∃ nonce auth, result = .ok auth ∧
      Credentials T input message method nonce auth ∧ SameAllocations s s' := by
  have hrefuse {errorCode : ℕ} {reason : String} {s : TurnServer}
      (h : (do return (.error (← unauthorizedResponse T message errorCode reason) :
        Except Message AuthenticatedRequestContext) : Action _).run s = .ok result s') :
      ∃ r, result = .error r ∧ Headed r classes.ERROR := by
    obtain ⟨r, s₁, hr, h⟩ := run_bind_eq_ok.mp h
    exact ⟨r, (run_pure_eq_ok.mp h).1.symm, run_unauthorizedResponse hmessage hr⟩
  unfold authenticateRequest at h
  split at h
  case h_2 => exact Or.inl (hrefuse h)
  case h_1 username realm nonce integrity husername hrealm hnonce hintegrity =>
    split_ifs at h with hne
    · exact Or.inl (hrefuse h)
    obtain rfl := not_not.mp hne
    obtain ⟨s₁, s₂, hget, h⟩ := run_bind_eq_ok.mp h
    obtain ⟨rfl, rfl⟩ := run_get_eq_ok.mp hget
    cases hstate : s.nonces.get? (Js.toHex nonce) with
    | none =>
      rw [hstate] at h
      exact Or.inl (hrefuse h)
    | some state =>
      rw [hstate] at h
      obtain ⟨checkedAt, s₂, hnow, h⟩ := run_bind_eq_ok.mp h
      obtain ⟨rfl, rfl⟩ : T.now s.ticks = checkedAt ∧ { s with ticks := s.ticks + 1 } = s₂ := by
        cases hnow
        exact ⟨rfl, rfl⟩
      split_ifs at h with hexpired
      · exact Or.inl (hrefuse h)
      cases hpassword : truthy (T.options.getPassword username T.options.realm) with
      | none =>
        rw [hpassword] at h
        exact Or.inl (hrefuse h)
      | some password =>
        rw [hpassword] at h
        dsimp only at h
        cases hparsed : parseMessage T.hmac input.data
            (some (makeTurnIntegrityKey T username T.options.realm password)) with
        | error exit =>
          rw [hparsed] at h
          cases exit with
          | undefined => exact Or.inl (hrefuse h)
          | throws => exact absurd h run_throw_eq_ok
        | ok validated =>
          rw [hparsed] at h
          dsimp only at h
          split_ifs at h with hmethod
          · exact Or.inl (hrefuse h)
          obtain ⟨u, s₂, hmodify, h⟩ := run_bind_eq_ok.mp h
          obtain rfl := run_modify_eq_ok.mp hmodify
          obtain ⟨rfl, rfl⟩ := run_pure_eq_ok.mp h
          exact Or.inr ⟨nonce, _, rfl, ⟨husername, hrealm, hnonce, hintegrity ▸ rfl,
            ⟨password, hpassword, rfl⟩, hparsed, not_not.mp hmethod⟩, ⟨rfl, rfl⟩⟩

/-- A request with credentials is authenticated while its nonce is valid. -/
lemma Credentials.run_authenticateRequest (h : Credentials T input message method nonce auth)
    (hfresh : Fresh T s nonce) : ∃ s', SameAllocations s s' ∧
      (authenticateRequest T input message method).run s = .ok (.ok auth) s' := by
  obtain ⟨integrity, hintegrity⟩ := Option.isSome_iff_exists.mp h.integrity
  obtain ⟨password, hpassword, hkey⟩ := h.password
  obtain ⟨state, hstate, htime⟩ := hfresh
  obtain ⟨integrityKey, validated, username⟩ := auth
  obtain rfl : integrityKey = makeTurnIntegrityKey T username T.options.realm password := hkey
  refine ⟨{ s with ticks := s.ticks + 1 }.record (.authenticated
    ⟨input.clientId, input.data, validated, username, state, T.now s.ticks⟩), ⟨rfl, rfl⟩, ?_⟩
  unfold authenticateRequest
  rw [h.username, h.realm, h.nonce, hintegrity]
  dsimp only
  rw [if_neg (not_not.mpr rfl)]
  refine run_bind_eq_ok.mpr ⟨s, s, rfl, ?_⟩
  rw [hstate]
  refine run_bind_eq_ok.mpr ⟨T.now s.ticks, { s with ticks := s.ticks + 1 }, rfl, ?_⟩
  rw [if_neg (not_le.mpr htime), hpassword]
  dsimp only
  rw [h.parsed]
  dsimp only
  rw [if_neg (not_not.mpr h.method)]
  exact run_bind_eq_ok.mpr ⟨⟨⟩, _, rfl, rfl⟩

end

/-! ## The second copy of a request -/

/-- A response that is written once more is the same. -/
lemma run_respond_again {client : ClientEndpoint} {response : Option Message}
    (h : (respond client response).run s = .ok more s') (s₂ : TurnServer) :
    (respond client response).run s₂ = .ok more s₂ :=
  run_respond_eq_ok.mpr ⟨rfl, (run_respond_eq_ok.mp h).2⟩

/-- A response that is a success is all of the answer. -/
lemma succeeds_respond {response : Option Message}
    (h : (respond (clientEndpoint input) response).run s = .ok more s')
    (hdata : Succeeds input data more) : more = [sendClient (clientEndpoint input) data] := by
  obtain ⟨rfl, r, data', -, -, rfl⟩ := run_respond_eq_ok.mp h
  rw [List.mem_singleton.mp hdata.1]

/-- If a handler has answered a packet with a success, it answers the packet in the same way at any
later time, provided that the nonce is valid and the allocation of the client has the same user and
is allowed. -/
def AnsweredAgain (T : Setting) (input : TurnServerClientPacket) (message : Message)
    (handler : ℤ → Action (List TurnServerAction)) (allowed : TurnAllocation → Prop) : Prop :=
  ∀ time s s' more data a, Consistent T s → (handler time).run s = .ok more s' →
    Succeeds input data more → s'.getClientAllocation input.clientId = some a →
    more = [sendClient (clientEndpoint input) data] ∧
      ∃ nonce, message.getBuffer .nonce = some nonce ∧ ∀ time₂ s₂ a₂, Fresh T s₂ nonce →
        s₂.getClientAllocation input.clientId = some a₂ → a₂.username = a.username → allowed a₂ →
        ∃ s₂', (handler time₂).run s₂ = .ok more s₂'

/-- What has to be shown of the part of a handler behind the authentication. -/
lemma answeredAgain_withAllocation (hmessage : ValidHeader message) {method : ℕ}
    {f : ℤ → AuthenticatedRequestContext → TurnAllocation → Action (List TurnServerAction)}
    {allowed : TurnAllocation → Prop}
    (hf : ∀ time auth b s s' more data a, s.getClientAllocation input.clientId = some b →
      b.client.clientId = input.clientId → (f time auth b).run s = .ok more s' →
      Succeeds input data more → s'.getClientAllocation input.clientId = some a →
      a.username = b.username ∧ more = [sendClient (clientEndpoint input) data] ∧
        ∀ time₂ a₂ s₂, allowed a₂ → ∃ s₂', (f time₂ auth a₂).run s₂ = .ok more s₂') :
    AnsweredAgain T input message
      (fun time => withAllocation T input message method (f time)) allowed := by
  intro time s s' more data a hI hrun hdata ha
  obtain ⟨result, s₁, hauth, hrun⟩ := run_bind_eq_ok.mp hrun
  rcases run_authenticateRequest hmessage hauth with
    ⟨r, rfl, hr⟩ | ⟨nonce, auth, rfl, hcredentials, hsame⟩
  · exact absurd hdata (not_succeeds_respond (fun r' hr' => Option.some.inj hr' ▸ hr) hrun)
  obtain ⟨t, s₂, hget, hrun⟩ := run_bind_eq_ok.mp hrun
  obtain ⟨rfl, rfl⟩ := run_get_eq_ok.mp hget
  cases hb : s₁.getClientAllocation input.clientId with
  | none =>
    rw [hb] at hrun
    exact absurd hdata (not_succeeds_refuse hmessage hrun)
  | some b =>
    rw [hb] at hrun
    dsimp only at hrun
    split_ifs at hrun with huser
    · exact absurd hdata (not_succeeds_refuse hmessage hrun)
    have hclient : b.client.clientId = input.clientId :=
      (hI.getClientAllocation_eq_some (hsame.getClientAllocation _ ▸ hb)).2
    obtain ⟨husername, hmore, hagain⟩ := hf time auth b s₁ s' more data a hb hclient hrun hdata ha
    refine ⟨hmore, nonce, hcredentials.nonce, fun time₂ s₂ a₂ hfresh ha₂ heq hallowed => ?_⟩
    obtain ⟨s₃, hsame₃, hauth₃⟩ := hcredentials.run_authenticateRequest hfresh
    obtain ⟨s₂', hrun₂⟩ := hagain time₂ a₂ s₃ hallowed
    refine ⟨s₂', run_bind_eq_ok.mpr ⟨_, s₃, hauth₃, ?_⟩⟩
    refine run_bind_eq_ok.mpr ⟨s₃, s₃, rfl, ?_⟩
    rw [hsame₃.getClientAllocation, ha₂]
    dsimp only
    rw [if_neg (not_not.mpr (heq.trans (husername.trans (not_not.mp huser))))]
    exact hrun₂

lemma run_updateAllocation_eq_ok {id : String} {f : TurnAllocation → TurnAllocation} {u : Unit} :
    (updateAllocation id f).run s = .ok u s' ↔ s.update id f = s' :=
  run_modify_eq_ok

/-- A change of an allocation that keeps its party. -/
lemma party_update {id : String} {f : TurnAllocation → TurnAllocation}
    (hf : ∀ a, (f a).party = a.party) {clientId : String} {a : TurnAllocation}
    (ha : (s.update id f).getClientAllocation clientId = some a) :
    ∃ b, s.getClientAllocation clientId = some b ∧ a.party = b.party := by
  have hindex : (s.update id f).allocationIdByClientId = s.allocationIdByClientId := by
    unfold TurnServer.update
    split <;> rfl
  rw [TurnServer.getClientAllocation, hindex] at ha
  obtain ⟨id', hid', ha⟩ := Option.bind_eq_some_iff.mp ha
  have hb {b : TurnAllocation} (hget : s.allocations.get? id' = some b) :
      s.getClientAllocation clientId = some b :=
    Option.bind_eq_some_iff.mpr ⟨id', hid', hget⟩
  rw [get?_update] at ha
  split_ifs at ha with heq
  · obtain ⟨b, hget, rfl⟩ := Option.map_eq_some_iff.mp ha
    exact ⟨b, hb (heq ▸ hget), hf b⟩
  · exact ⟨a, hb ha, rfl⟩

lemma username_update {id : String} {f : TurnAllocation → TurnAllocation}
    (hf : ∀ a, (f a).party = a.party) {clientId : String} {a b : TurnAllocation}
    (ha : (s.update id f).getClientAllocation clientId = some a)
    (hb : s.getClientAllocation clientId = some b) : a.username = b.username := by
  obtain ⟨b', hb', hparty⟩ := party_update hf ha
  obtain rfl := Option.some.inj (hb'.symm.trans hb)
  exact congrArg Party.username hparty

/-- After its deletion the client has no allocation. -/
lemma getClientAllocation_delete {b : TurnAllocation} :
    (s.delete b).getClientAllocation b.client.clientId = none := by
  rw [TurnServer.getClientAllocation, TurnServer.delete, Js.Map.get?_delete, if_pos rfl]
  rfl

lemma answeredAgain_refresh (hmessage : ValidHeader message) :
    AnsweredAgain T input message (handleRefreshRequest T input message) fun _ => True := by
  refine answeredAgain_withAllocation hmessage ?_
  intro time auth b s s' more data a hb hclient hrun hdata ha
  split_ifs at hrun with hzero
  · obtain ⟨actions, s₁, hdelete, hrun⟩ := run_bind_eq_ok.mp hrun
    obtain ⟨u, s₂, hmodify, hdelete⟩ := run_bind_eq_ok.mp hdelete
    obtain rfl := run_modify_eq_ok.mp hmodify
    obtain ⟨-, rfl⟩ := run_pure_eq_ok.mp hdelete
    obtain ⟨response, s₃, hrespond, hrun⟩ := run_bind_eq_ok.mp hrun
    obtain ⟨rfl, -⟩ := run_respond_eq_ok.mp hrespond
    obtain ⟨-, rfl⟩ := run_pure_eq_ok.mp hrun
    rw [← hclient, getClientAllocation_delete] at ha
    cases ha
  · obtain ⟨u, s₁, hupdate, hrespond⟩ := run_bind_eq_ok.mp hrun
    obtain rfl := run_updateAllocation_eq_ok.mp hupdate
    obtain ⟨rfl, -⟩ := run_respond_eq_ok.mp hrespond
    refine ⟨username_update ?_ ha hb, succeeds_respond hrespond hdata, ?_⟩
    · exact fun _ => rfl
    intro time₂ a₂ s₂ _
    simp only [add_sub_cancel_left] at hrespond
    rw [if_neg hzero]
    simp only [add_sub_cancel_left]
    exact ⟨_, run_bind_eq_ok.mpr
      ⟨⟨⟩, _, run_updateAllocation_eq_ok.mpr rfl, run_respond_again hrespond _⟩⟩

lemma answeredAgain_createPermission (hmessage : ValidHeader message) :
    AnsweredAgain T input message (handleCreatePermissionRequest T input message)
      fun _ => True := by
  refine answeredAgain_withAllocation hmessage ?_
  intro time auth b s s' more data a hb hclient hrun hdata ha
  cases hpeer : message.getAddress .xorPeerAddress with
  | none =>
    rw [hpeer] at hrun
    exact absurd hdata (not_succeeds_refuse hmessage hrun)
  | some peerAddress =>
    rw [hpeer] at hrun
    dsimp only at hrun ⊢
    split_ifs at hrun with hfamily
    · exact absurd hdata (not_succeeds_refuse hmessage hrun)
    obtain ⟨u, s₁, hupdate, hrespond⟩ := run_bind_eq_ok.mp hrun
    obtain rfl := run_updateAllocation_eq_ok.mp hupdate
    obtain ⟨rfl, -⟩ := run_respond_eq_ok.mp hrespond
    refine ⟨username_update ?_ ha hb, succeeds_respond hrespond hdata, ?_⟩
    · exact fun _ => rfl
    intro time₂ a₂ s₂ _
    rw [if_neg hfamily]
    exact ⟨_, run_bind_eq_ok.mpr
      ⟨⟨⟩, _, run_updateAllocation_eq_ok.mpr rfl, run_respond_again hrespond _⟩⟩

/-- Neither the number nor the peer address of a request is bound otherwise. -/
def Bindable (message : Message) (a : TurnAllocation) : Prop :=
  ∀ channelNumber peerAddress, message.getNumber .channelNumber = some channelNumber →
    message.getAddress .xorPeerAddress = some peerAddress →
    (∀ b, a.channelsByNumber.get? channelNumber = some b → b.peerAddress = peerAddress) ∧
      ∀ b, a.channelsByPeer.get? (addressKey peerAddress) = some b → b.number = channelNumber

lemma answeredAgain_channelBind (hmessage : ValidHeader message) :
    AnsweredAgain T input message (handleChannelBindRequest T input message)
      (Bindable message) := by
  refine answeredAgain_withAllocation hmessage ?_
  intro time auth b s s' more data a hb hclient hrun hdata ha
  cases hnumber : message.getNumber .channelNumber with
  | none =>
    rw [hnumber] at hrun
    exact absurd hdata (not_succeeds_refuse hmessage hrun)
  | some channelNumber =>
    cases hpeer : message.getAddress .xorPeerAddress with
    | none =>
      rw [hnumber, hpeer] at hrun
      exact absurd hdata (not_succeeds_refuse hmessage hrun)
    | some peerAddress =>
      rw [hnumber, hpeer] at hrun
      dsimp only at hrun ⊢
      split_ifs at hrun with hrange hfamily hbynumber hbypeer
      · exact absurd hdata (not_succeeds_refuse hmessage hrun)
      · exact absurd hdata (not_succeeds_refuse hmessage hrun)
      · exact absurd hdata (not_succeeds_refuse hmessage hrun)
      · exact absurd hdata (not_succeeds_refuse hmessage hrun)
      obtain ⟨u, s₁, hupdate, hrun⟩ := run_bind_eq_ok.mp hrun
      obtain ⟨u', s₂, hupdate', hrespond⟩ := run_bind_eq_ok.mp hrun
      obtain rfl := run_updateAllocation_eq_ok.mp hupdate
      obtain rfl := run_updateAllocation_eq_ok.mp hupdate'
      obtain ⟨rfl, -⟩ := run_respond_eq_ok.mp hrespond
      have husername : a.username = b.username := by
        have hbound (a : TurnAllocation) : (a.setChannelBinding
            { peerAddress
              number := channelNumber
              expiresAt := time + T.options.channelLifetime * 1000 }).party = a.party := rfl
        have hpermitted (a : TurnAllocation) : (a.setPermission peerAddress
            (time + T.options.permissionLifetime * 1000)).party = a.party := rfl
        obtain ⟨a', ha', hparty⟩ := party_update hbound ha
        exact (congrArg Party.username hparty).trans (username_update hpermitted ha' hb)
      refine ⟨husername, succeeds_respond hrespond hdata, ?_⟩
      intro time₂ a₂ s₂ hbindable
      obtain ⟨hn, hp⟩ := hbindable channelNumber peerAddress hnumber hpeer
      rw [if_neg hrange, if_neg hfamily, if_neg, if_neg]
      · exact ⟨_, run_bind_eq_ok.mpr ⟨⟨⟩, _, run_updateAllocation_eq_ok.mpr rfl,
          run_bind_eq_ok.mpr ⟨⟨⟩, _, run_updateAllocation_eq_ok.mpr rfl,
            run_respond_again hrespond _⟩⟩⟩
      · rw [Option.any_eq_true]
        rintro ⟨existing, hexisting, hne⟩
        simp [hp existing hexisting] at hne
      · rw [Option.any_eq_true]
        rintro ⟨existing, hexisting, hne⟩
        simp [hn existing hexisting] at hne

end Werift.Turn
