import Werift.Stun.RoundTrip
import Werift.Turn.Client
import Werift.Turn.Relaying

/-!
# Stale nonces

`staleNonce_fails`: a client with an integrity key never gets over the answer `438`.  The server does
not sign the answer, and a transaction with a key drops what is not signed.
-/

namespace Werift.Turn

open Stun Contract

variable {T : Setting} {canonicalHost : String → String}

/-! ## What the server answers -/

/-- The response with which `authenticateRequest` refuses a packet, and the state after it. -/
def refusal (T : Setting) (s : TurnServer) (input : TurnServerClientPacket) :
    Option (Message × TurnServer) :=
  match parseMessage T.hmac input.data none with
  | .error _ => none
  | .ok message =>
    match (authenticateRequest T input message message.messageMethod).run s with
    | .ok (.error response) s' => some (response, s')
    | _ => none

/-- The server answers a packet with `438`. -/
def RefusesStale (T : Setting) (s : TurnServer) (input : TurnServerClientPacket) (answer : Bytes)
    (s' : TurnServer) : Prop :=
  ∃ response, refusal T s input = some (response, s') ∧
    TurnProtocol.errorCode response = some 438 ∧ response.bytes = some answer

/-- The server authenticates the request in a packet. -/
def Authenticates (T : Setting) (s : TurnServer) (input : TurnServerClientPacket) : Prop :=
  ∃ message auth s', parseMessage T.hmac input.data none = .ok message ∧
    (authenticateRequest T input message message.messageMethod).run s = .ok (.ok auth) s'

/-- The client gets over an answer: its transaction fails with the response in it, it sends the
request once more with the nonce of the response, and the server authenticates the request. -/
def Recovers (T : Setting) (canonicalHost : String → String) (c : TurnProtocol) (request : Message)
    (answer : Bytes) (s : TurnServer) (input : TurnServerClientPacket) : Prop :=
  ∃ response transactionId c' retried data,
    .settled request.transactionId (.failed response) ∈
      (c.handleSTUNMessage T canonicalHost answer c.pinnedServerEndpoint).2 ∧
    (c.handleSTUNMessage T canonicalHost answer c.pinnedServerEndpoint).1.retry T request response
      transactionId = some (c', retried) ∧
    retried.bytes = some data ∧ Authenticates T s { input with data }

/-- An authenticated client sends a request, which is not its first one, and the server answers
`438`. -/
structure StaleExchange (T : Setting) (c c' : TurnProtocol) (request : Message) (s s' : TurnServer)
    (input : TurnServerClientPacket) (answer : Bytes) : Prop where
  authenticated : c.authentication.isSome
  method : request.messageMethod ∈ laterMethods
  sent : ∃ sent, c.request T request = some (c', sent) ∧ sent.bytes = some input.data
  refused : RefusesStale T s input answer s'

/-- A method that needs an authentication sends the response that refuses the request. -/
lemma withAuthentication_of_refused {input : TurnServerClientPacket} {message response : Message}
    {s s' : TurnServer} {method : ℕ}
    (hrefused : (authenticateRequest T input message method).run s = .ok (.error response) s')
    {answer : Bytes} (hanswer : response.bytes = some answer)
    (f : AuthenticatedRequestContext → Action (List TurnServerAction)) :
    (withAuthentication T input message method f).run s =
      .ok [sendClient (clientEndpoint input) answer] s' := by
  have hrun : (withAuthentication T input message method f).run s =
      (respond (clientEndpoint input) (some response)).run s' := by
    change EStateM.bind _ _ s = _
    rw [EStateM.bind, show authenticateRequest T input message method s = _ from hrefused]
    rfl
  have hrespond : respond (clientEndpoint input) (some response) =
      orThrow response.bytes >>= fun data => pure [sendClient (clientEndpoint input) data] := rfl
  rw [hrun, hrespond, hanswer]
  rfl

/-- The answer of the server to a request of one of these methods. -/
lemma handleMessage_of_refused {input : TurnServerClientPacket} {message response : Message}
    {s s' : TurnServer} (hclass : message.messageClass = classes.REQUEST)
    (hknown : message.unknownRequired = []) (hmethod : message.messageMethod ∈ laterMethods)
    (hrefused : (authenticateRequest T input message message.messageMethod).run s =
      .ok (.error response) s') {answer : Bytes} (hanswer : response.bytes = some answer) (time : ℤ) :
    (handleMessage T input message time).run s =
      .ok [sendClient (clientEndpoint input) answer] s' := by
  rw [handleMessage, if_neg (by rw [hclass]; decide), if_neg (not_not.mpr hclass),
    if_neg (not_not.mpr hknown)]
  have hcases : message.messageMethod = methods.REFRESH ∨
      message.messageMethod = methods.CREATE_PERMISSION ∨
      message.messageMethod = methods.CHANNEL_BIND := by
    simpa [laterMethods] using hmethod
  rcases hcases with h | h | h <;> rw [h] at hrefused ⊢ <;>
    exact withAuthentication_of_refused hrefused hanswer _

/-! ## No response that refuses a request is signed -/

/-- A message that can be read and has no integrity. -/
structure Unsigned (m : Message) : Prop where
  header : ValidHeader m
  nodup : (m.attributes.map Prod.fst).Nodup
  raw : m.rawAttributes = []
  integrity : .messageIntegrity ∉ m.attributes.map Prod.fst

lemma Unsigned.setAttribute {m : Message} (h : Unsigned m) (key : AttributeKey)
    (hkey : key ≠ .messageIntegrity) (value : AttributeValue) :
    Unsigned (m.setAttribute key value) := by
  refine ⟨⟨h.header.messageMethod, h.header.messageClass, h.header.transactionId⟩,
    nodup_setAttribute h.nodup key value, h.raw, ?_⟩
  by_cases hmem : key ∈ m.attributes.map Prod.fst
  · rw [Message.setAttribute, keys_setAttribute hmem]
    exact h.integrity
  · rw [Message.setAttribute, setAttribute_of_not_mem hmem, List.map_append, List.mem_append]
    rintro (hold | hnew)
    · exact h.integrity hold
    · exact hkey (List.mem_singleton.mp hnew).symm

/-- Without a key, a response is not signed. -/
lemma unsigned_errorResponse {request response : Message} (hrequest : ValidHeader request)
    {errorCode : ℕ} {reason realm : String} {nonce : Bytes}
    (h : errorResponse T request errorCode reason
      [(.realm, .string realm), (.nonce, .buffer nonce)] none = some response) :
    Unsigned response := by
  have hclass : classes.ERROR &&& 0x0110 = classes.ERROR := by decide
  have hempty : Unsigned
      { messageMethod := request.messageMethod
        messageClass := classes.ERROR
        transactionId := request.transactionId } :=
    ⟨⟨hrequest.messageMethod, hclass, hrequest.transactionId⟩, List.nodup_nil, rfl,
      List.not_mem_nil⟩
  have hcode := hempty.setAttribute .errorCode (by decide) (.error errorCode reason)
  have hrealm := hcode.setAttribute .realm (by decide) (.string realm)
  have hattributes := hrealm.setAttribute .nonce (by decide) (.buffer nonce)
  simp only [errorResponse, addResponseAttributes, Message.setAttributes, List.foldl_cons,
    List.foldl_nil, Option.bind_eq_bind, Option.bind_some] at h
  have hfingerprint {m : Message} (hm : Unsigned m)
      (h : (if T.options.fingerprint.shouldAdd request then m.addFingerprint else some m) =
        some response) : Unsigned response := by
    split_ifs at h
    · obtain ⟨data, -, h⟩ := Option.bind_eq_some_iff.mp h
      obtain ⟨checksum, -, h⟩ := Option.bind_eq_some_iff.mp h
      obtain rfl := Option.some.inj h
      exact hm.setAttribute .fingerprint (by decide) _
    · obtain rfl := Option.some.inj h
      exact hm
  cases hsoftware : truthy T.options.software with
  | some software =>
    rw [hsoftware] at h
    exact hfingerprint (hattributes.setAttribute .software (by decide) _) h
  | none =>
    rw [hsoftware] at h
    exact hfingerprint hattributes h

lemma yields_orThrow {α : Type} (x : Option α) : Yields (orThrow x) fun a => x = some a := by
  cases x with
  | none => exact yields_throw ()
  | some a => exact yields_pure rfl

/-- **Refusals.**  Whatever the reason is, the response is not signed. -/
lemma yields_authenticateRequest {input : TurnServerClientPacket} {message : Message} {method : ℕ}
    (hmessage : ValidHeader message) : Yields (authenticateRequest T input message method)
      fun result => ∀ response, result = .error response → Unsigned response := by
  have hrefuse (errorCode : ℕ) (reason : String) : Yields (do
      return (.error (← unauthorizedResponse T message errorCode reason) :
        Except Message AuthenticatedRequestContext))
      fun result => ∀ response, result = .error response → Unsigned response := by
    have hresponse : Yields (unauthorizedResponse T message errorCode reason) Unsigned :=
      yields_bind yields_true fun nonce _ =>
        (yields_orThrow _).weaken fun response h => unsigned_errorResponse hmessage h
    refine yields_bind hresponse fun response h => yields_pure ?_
    intro response' heq
    exact Except.error.inj heq ▸ h
  unfold authenticateRequest
  split
  case h_2 => exact hrefuse 401 "Unauthorized"
  case h_1 username realm nonce _ _ _ _ _ =>
    refine yields_ite (hrefuse 401 "Unauthorized") ?_
    refine yields_bind (Q := fun _ => True) yields_true fun s _ => ?_
    cases s.nonces.get? (Js.toHex nonce) with
    | none => exact hrefuse 438 "Stale Nonce"
    | some nonceState =>
      refine yields_bind (Q := fun _ => True) yields_true fun checkedAt _ => ?_
      refine yields_ite (hrefuse 438 "Stale Nonce") ?_
      cases truthy (T.options.getPassword username T.options.realm) with
      | none => exact hrefuse 401 "Unauthorized"
      | some password =>
        dsimp only
        cases parseMessage T.hmac input.data
            (some (makeTurnIntegrityKey T username T.options.realm password)) with
        | error exit =>
          cases exit with
          | undefined => exact hrefuse 401 "Unauthorized"
          | throws => exact yields_throw ()
        | ok validated =>
          refine yields_ite (hrefuse 401 "Unauthorized") ?_
          refine yields_bind (Q := fun _ => True) yields_true fun _ _ => yields_pure ?_
          exact nofun

lemma unsigned_of_refusal {s s' : TurnServer} {input : TurnServerClientPacket} {response : Message}
    (h : refusal T s input = some (response, s')) : Unsigned response := by
  unfold refusal at h
  split at h
  · cases h
  · rename_i message hparse
    split at h
    · rename_i response' _ hrun
      obtain ⟨rfl, rfl⟩ := Prod.ext_iff.mp (Option.some.inj h)
      exact yields_authenticateRequest (validHeader_of_parseMessage hparse) s _ _ hrun _ rfl
    · cases h

/-! ## The client drops it -/

/-- A transaction ends only with a response that its key, if it has one, verifies. -/
lemma verified_of_settled {c : TurnProtocol} {data : Bytes} {addr : Address} {id : Bytes}
    {outcome : Outcome}
    (h : .settled id outcome ∈ (c.handleSTUNMessage T canonicalHost data addr).2) :
    ∃ transaction, c.transactions.get? (Js.toHex id) = some transaction ∧
      ∀ key, transaction.integrityKey = some key →
        ∃ verified, parseMessage T.hmac data (some key) = .ok verified := by
  have hdata {message : Message} :
      Reaction.settled id outcome ∉ TurnProtocol.dataReactions message addr := by
    unfold TurnProtocol.dataReactions
    split
    · simp
    · exact List.not_mem_nil
  unfold TurnProtocol.handleSTUNMessage at h
  split at h
  · exact absurd h List.not_mem_nil
  · rename_i message hparse
    split_ifs at h with hresponse hrequest
    · dsimp only at h
      split at h
      · exact absurd h hdata
      · rename_i transaction hget
        split at h
        · exact absurd h List.not_mem_nil
        · rename_i verified hverified
          split at h
          · exact absurd h hdata
          · rcases List.mem_cons.mp h with heq | hmem
            · obtain ⟨rfl, -⟩ := Reaction.settled.inj heq
              refine ⟨transaction, hget, fun key hkey => ⟨verified, ?_⟩⟩
              rw [hkey] at hverified
              exact hverified
            · exact absurd hmem hdata
    · rcases List.mem_cons.mp h with heq | hmem
      · cases heq
      · exact absurd hmem hdata
    · exact absurd h hdata

/-- The transaction of a request that has been sent. -/
lemma get?_request {c c' : TurnProtocol} {request sent : Message}
    (h : c.request T request = some (c', sent)) :
    c'.transactions.get? (Js.toHex request.transactionId) = some
      { expectedAddr := c.pinnedServerEndpoint
        integrityKey := c.authentication.map TurnAuthentication.integrityKey } := by
  unfold TurnProtocol.request at h
  dsimp only at h
  split_ifs at h
  obtain ⟨request', -, h⟩ := Option.bind_eq_some_iff.mp h
  obtain ⟨rfl, -⟩ := Prod.ext_iff.mp (Option.some.inj h)
  exact Js.Map.get?_set_self

/-- **Stale nonces.**  A client never gets over the answer `438`. -/
theorem staleNonce_fails {c c' : TurnProtocol} {request : Message} {answer : Bytes}
    {s s' : TurnServer} {input : TurnServerClientPacket}
    (h : StaleExchange T c c' request s s' input answer) :
    ¬ Recovers T canonicalHost c' request answer s' input := by
  rintro ⟨response, transactionId, c'', retried, data, hsettled, -⟩
  obtain ⟨auth, hauth⟩ := Option.isSome_iff_exists.mp h.authenticated
  obtain ⟨sent, hsent, -⟩ := h.sent
  obtain ⟨refused, hrefusal, -, hbytes⟩ := h.refused
  obtain ⟨transaction, htransaction, hverified⟩ := verified_of_settled hsettled
  rw [get?_request hsent, hauth] at htransaction
  obtain rfl := Option.some.inj htransaction
  obtain ⟨verified, hparse⟩ := hverified auth.integrityKey rfl
  have hunsigned := unsigned_of_refusal hrefusal
  exact parseMessage_unsigned hunsigned.header hunsigned.nodup hunsigned.raw hunsigned.integrity
    hbytes verified hparse

/-- A setting in which an hour passes between two readings of the clock. -/
def hourlySetting : Setting :=
  { zeroSetting with
    now := fun n => n * 3600000
    monotone_now := fun m n h => by dsimp only; omega }

/-- A server that has issued a nonce. -/
def noncedState : TurnServer := stateAfter hourlySetting {} (datagram 3 0 [])

/-- A client that has this nonce. -/
def authenticatedClient : TurnProtocol where
  username := "u"
  password := "p"
  pinnedServerEndpoint := ("10.0.0.9", 3478)
  authentication := some ⟨"r", List.replicate 16 7, []⟩

/-- A request that refreshes the allocation. -/
def refreshRequest : Message where
  messageMethod := methods.REFRESH
  messageClass := classes.REQUEST
  transactionId := List.replicate 12 1
  attributes := [(.lifetime, .number 600)]

/-- The packet with the request of the client. -/
def refreshPacket : TurnServerClientPacket where
  clientId := "c"
  data := (((authenticatedClient.request hourlySetting refreshRequest).bind
    fun sent => sent.2.bytes).getD [])
  remoteAddress := ("10.0.0.1", 5000)
  transport := .udp

/-- The exchange, evaluated once: the request has bytes, the answer is a `438`, and it has bytes that the
client drops. -/
private lemma refresh_evaluates :
    ((authenticatedClient.request hourlySetting refreshRequest).bind
      fun sent => sent.2.bytes).isSome = true ∧
    (refusal hourlySetting noncedState refreshPacket).map
      (fun refused => TurnProtocol.errorCode refused.1) = some (some 438) ∧
    ((refusal hourlySetting noncedState refreshPacket).bind
      fun refused => refused.1.bytes).isSome = true ∧
    ((authenticatedClient.request hourlySetting refreshRequest).bind fun sent =>
      (refusal hourlySetting noncedState refreshPacket).bind fun refused =>
        refused.1.bytes.map fun answer =>
          (sent.1.handleSTUNMessage hourlySetting id answer
            sent.1.pinnedServerEndpoint).2.isEmpty) = some true := by
  decide +kernel

/-- The request of the client is answered with `438`. -/
lemma staleExchange_refresh : ∃ c' s' answer,
    StaleExchange hourlySetting authenticatedClient c' refreshRequest noncedState s' refreshPacket
      answer := by
  obtain ⟨hsent, hrefused, hanswer, -⟩ := refresh_evaluates
  obtain ⟨data, hdata⟩ := Option.isSome_iff_exists.mp hsent
  obtain ⟨⟨c', sent⟩, hrequest, hbytes⟩ := Option.bind_eq_some_iff.mp hdata
  have hpacket : refreshPacket.data = data := by
    rw [refreshPacket, hdata, Option.getD_some]
  obtain ⟨answer, hanswer⟩ := Option.isSome_iff_exists.mp hanswer
  obtain ⟨⟨response, s'⟩, hrefusal, hresponse⟩ := Option.bind_eq_some_iff.mp hanswer
  rw [hrefusal, Option.map_some, Option.some.injEq] at hrefused
  exact ⟨c', s', answer, rfl, List.mem_cons_self, ⟨sent, hrequest, hpacket ▸ hbytes⟩, response,
    hrefusal, hrefused, hresponse⟩

/-- The client does not get over it. -/
theorem staleNonce_fails_refresh : ∃ c' s' answer,
    StaleExchange hourlySetting authenticatedClient c' refreshRequest noncedState s' refreshPacket
      answer ∧ ¬ Recovers hourlySetting id c' refreshRequest answer s' refreshPacket := by
  obtain ⟨c', s', answer, h⟩ := staleExchange_refresh
  exact ⟨c', s', answer, h, staleNonce_fails h⟩

/-- **The defect.**  An hour after the nonce has been issued, a refresh fails: the client has dropped
the answer. -/
theorem staleNonce_not_recovered : ¬ ∀ (T : Setting) (canonicalHost : String → String)
    (c c' : TurnProtocol) (request : Message) (s s' : TurnServer) (input : TurnServerClientPacket)
    (answer : Bytes), StaleExchange T c c' request s s' input answer →
      Recovers T canonicalHost c' request answer s' input := by
  intro hrecovers
  obtain ⟨c', s', answer, h⟩ := staleExchange_refresh
  obtain ⟨response, -, -, -, -, hsettled, -⟩ := hrecovers hourlySetting id _ c' _ _ s' _ answer h
  obtain ⟨sent, hsent, -⟩ := h.sent
  obtain ⟨refused, hrefusal, -, hbytes⟩ := h.refused
  -- the answer is the one that is computed here
  obtain ⟨-, -, -, hdropped⟩ := refresh_evaluates
  rw [hsent, Option.bind_some, hrefusal, Option.bind_some, hbytes, Option.map_some,
    Option.some.injEq, List.isEmpty_iff] at hdropped
  rw [hdropped] at hsettled
  exact List.not_mem_nil hsettled

end Werift.Turn
