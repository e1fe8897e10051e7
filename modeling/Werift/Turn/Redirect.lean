import Werift.Stun.IpText
import Werift.Turn.Client
import Werift.Turn.Relaying

/-!
# Redirects of an allocation (`TurnProtocol.allocate` of `ice/src/turn/protocol.ts`)

A server may answer an allocation with `300` and name others.  The client goes on with the first that it can reach,
without what the previous server has told it, until it has an allocation or an error.  A `Visit` is what has been
sent to one server.
-/

namespace Werift.Turn

open Stun

/-- `DEFAULT_MAX_ALLOCATE_REDIRECTS`. -/
def DEFAULT_MAX_ALLOCATE_REDIRECTS : ℕ := 3

/-- `isIP(host)` of `node:net`, 0 for a name. -/
def isIP (host : String) : ℕ := if isIPv4 host then 4 else if isIPv6 host then 6 else 0

/-- What is used of a `Transport`; `standard` is that it is a `TcpTransport` or a `TlsTransport`. -/
structure Transport where
  type : StunTransport
  addressFamily : Option ℕ := none
  remoteAddress : Option Address := none
  standard : Bool := true

/-- `isStreamTransport(transport)`. -/
def Transport.isStream (transport : Transport) : Bool := transport.type = .tcp || transport.type = .tls

/-- How a transaction ends: with a response, with `TransactionFailed`, or with another error. -/
inductive Ending
  | completed (message : Message)
  | failed (response : Message)
  | other

/-- What an allocation depends on: the answers to its transactions, the look-ups and connections that it makes, the
random transaction ids, and how the socket writes a host. -/
structure Surroundings where
  setting : Setting
  ending : ℕ → Ending
  transactionId : ℕ → Bytes
  lookup : String → ℕ → Option String
  reconnect : Option (Address → Option String → Option Transport)
  canonicalHost : String → String

/-- The fields of a `TurnProtocol` that an allocation uses. -/
structure AllocatingClient where
  username : String
  password : String
  lifetime : ℕ
  server : Address
  transport : Transport
  maxAllocateRedirects : Option ℕ := none
  pinnedServerEndpoint : Option Address := none
  authentication : Option TurnAuthentication := none

/-- A request that has been sent, with what it is signed with, and how its transaction has ended. -/
structure SentRequest where
  authentication : Option TurnAuthentication
  message : Message
  ending : Ending

/-- What has been sent to a server. -/
structure Visit where
  server : Address
  endpoint : Address
  requests : List SentRequest

/-- `TurnRedirectFailureReason`. -/
inductive TurnRedirectFailureReason
  | missingAlternate
  | loop
  | tooManyRedirects
  | unsupportedTransport

/-- What `allocate` throws. -/
inductive AllocateError
  | failed (response : Message)
  | redirect (reason : TurnRedirectFailureReason) (server : Address) (alternate : Option Address)
  | other

/-- The variables of `allocate`, with the number of transactions and the visits so far. -/
structure Allocating where
  client : AllocatingClient
  redirects : ℕ := 0
  tried : List Address := []
  transactions : ℕ := 0
  visits : List Visit := []

variable (env : Surroundings)

/-! ## One server -/

/-- `resolveRequestAddress(addr, family)`. -/
def resolveRequestAddress (addr : Address) (family : ℕ) : Option Address :=
  let literalFamily := isIP addr.1
  if literalFamily ≠ 0 then
    if family ≠ 0 ∧ literalFamily ≠ family then none else some addr
  else (env.lookup addr.1 family).map fun address => (address, addr.2)

namespace AllocatingClient

variable (c : AllocatingClient)

/-- `resolveServerEndpoint()`. -/
def resolveServerEndpoint : Option Address :=
  if !c.transport.isStream then resolveRequestAddress env c.server (c.transport.addressFamily.getD 0)
  else
    match c.transport.remoteAddress with
    | some remoteAddress => some remoteAddress
    | none => if c.transport.standard then none else resolveRequestAddress env c.server 0

/-- `selectServerEndpoint()`. -/
def selectServerEndpoint : Option Address :=
  match c.pinnedServerEndpoint with
  | some endpoint => some endpoint
  | none => c.resolveServerEndpoint env

/-- The request of `allocate`. -/
def allocateRequest (transactionId : Bytes) : Message :=
  { messageMethod := methods.ALLOCATE, messageClass := classes.REQUEST, transactionId : Message }.setAttributes
    [(.lifetime, .number c.lifetime), (.requestedTransport, .number 0x11000000)]

/-- The attributes and the signature of a request. -/
def sign (request : Message) : Option Message :=
  ({ username := c.username, password := c.password, pinnedServerEndpoint := c.server,
     authentication := c.authentication : TurnProtocol }).sign env.setting request

/-- The realm with which `requestWithRetry` goes on. -/
def challengeRealm (response : Message) : Option String :=
  match TurnProtocol.errorCode response with
  | some 401 => truthy (response.getString .realm)
  | some 438 => truthy (c.authentication.map TurnAuthentication.realm)
  | _ => none

/-- `realm`, `nonce` and `integrityKey` after a response that asks for them. -/
def challenge (response : Message) : Option TurnAuthentication := do
  let realm ← c.challengeRealm response
  let nonce ← response.getBuffer .nonce
  return ⟨realm, nonce, makeTurnIntegrityKey env.setting c.username realm c.password⟩

end AllocatingClient

namespace Allocating

variable (s : Allocating)

/-- A request that is sent to the endpoint of the server, and how its transaction ends. -/
def sent (endpoint : Address) (requests : List SentRequest) : Allocating :=
  { s with
    client := { s.client with pinnedServerEndpoint := some endpoint }
    transactions := s.transactions + requests.length
    visits := s.visits ++ [⟨s.client.server, endpoint, requests⟩] }

/-- `requestWithRetry(request, this.server)`: a response that asks for it is answered with a second request. -/
def requestWithRetry : Except AllocateError Message × Allocating :=
  match s.client.sign env (s.client.allocateRequest (env.transactionId s.transactions)),
    s.client.selectServerEndpoint env with
  | some message, some endpoint =>
    let first : SentRequest := ⟨s.client.authentication, message, env.ending s.transactions⟩
    match first.ending with
    | .completed response => (.ok response, s.sent endpoint [first])
    | .other => (.error .other, s.sent endpoint [first])
    | .failed response =>
      match TurnProtocol.errorCode response with
      | none => (.error .other, s.sent endpoint [first])
      | some _ =>
        match s.client.challenge env response with
        | none => (.error (.failed response), s.sent endpoint [first])
        | some authentication =>
          let s := { s with client := { s.client with authentication := some authentication } }
          let request := { message with transactionId := env.transactionId (s.transactions + 1) }
          match s.client.sign env request with
          | none => (.error .other, s.sent endpoint [first])
          | some message =>
            let second : SentRequest := ⟨some authentication, message, env.ending (s.transactions + 1)⟩
            match second.ending with
            | .completed response => (.ok response, s.sent endpoint [first, second])
            | .failed response => (.error (.failed response), s.sent endpoint [first, second])
            | .other => (.error .other, s.sent endpoint [first, second])
  | _, _ => (.error .other, s)

/-! ## Redirects -/

/-- The addresses of a message with `ALTERNATE-SERVER`. -/
def alternateServers (response : Message) : List Address :=
  response.alternateServers.filterMap fun
    | .address value => some value
    | _ => none

/-- `ipFamily(host)`. -/
def ipFamily (host : String) : ℕ := if ':' ∈ host.toList then 6 else 4

/-- `tryAlternateOf(error, addressFamily)`. -/
def tryAlternateOf (error : AllocateError) (addressFamily : Option ℕ) : Option (Option Address × Option String) :=
  match error with
  | .failed response =>
    if TurnProtocol.errorCode response = some 300 then
      let servers := alternateServers response
      let reachable := servers.find? fun server => addressFamily.all fun family => ipFamily server.1 = family
      some (reachable.or servers.head?, response.getString .alternateDomain)
    else none
  | _ => none

/-- `switchServer({ server, domain })`. -/
def switchServer (server : Address) (domain : Option String) : Option AllocatingClient :=
  if s.client.transport.isStream then do
    let reconnect ← env.reconnect
    let transport ← reconnect server domain
    return { s.client with
      transport
      server
      pinnedServerEndpoint := some (transport.remoteAddress.getD server)
      authentication := none }
  else do
    let endpoint ← resolveRequestAddress env server (s.client.transport.addressFamily.getD 0)
    return { s.client with server, pinnedServerEndpoint := some endpoint, authentication := none }

/-- One turn of the loop of `allocate`: its end, or the next turn. -/
def turn : (Except AllocateError Message × Allocating) ⊕ Allocating :=
  match s.requestWithRetry env with
  | (.ok message, s) => .inl (.ok message, s)
  | (.error error, s) =>
    match tryAlternateOf error s.client.transport.addressFamily with
    | none => .inl (.error error, s)
    | some (alternate, domain) =>
      let s := { s with tried := s.tried ++ s.client.server :: s.client.pinnedServerEndpoint.toList }
      let fail (reason : TurnRedirectFailureReason) : (Except AllocateError Message × Allocating) ⊕ Allocating :=
        .inl (.error (.redirect reason s.client.server alternate), s)
      match alternate with
      | none => fail .missingAlternate
      | some server =>
        if s.tried.any fun addr => addressEquals env.canonicalHost addr server then fail .loop
        else if s.client.maxAllocateRedirects.getD DEFAULT_MAX_ALLOCATE_REDIRECTS ≤ s.redirects then
          fail .tooManyRedirects
        else if s.client.transport.isStream && env.reconnect.isNone then fail .unsupportedTransport
        else
          match s.switchServer env server domain with
          | none => .inl (.error .other, s)
          | some client => .inr { s with client, redirects := s.redirects + 1 }

/-- The loop of `allocate`, with a bound on its turns. -/
def loop : ℕ → Allocating → Option (Except AllocateError Message × Allocating)
  | 0, _ => none
  | fuel + 1, s =>
    match s.turn env with
    | .inl result => some result
    | .inr s => loop fuel s

/-- `allocate()` of a client, with a bound on the turns. -/
def allocate (client : AllocatingClient) (fuel : ℕ) : Option (Except AllocateError Message × Allocating) :=
  loop env fuel { client }

end Allocating

/-! ## What is sent to a server -/

variable {env} {c : AllocatingClient} {s s' : Allocating} {v w : Visit} {response : Message}
  {result : Except AllocateError Message} {a b server : Address} {domain : Option String}

/-- What a call of `requestWithRetry` does that sends something. -/
structure Visits (env : Surroundings) (s : Allocating) (v : Visit) (result : Except AllocateError Message)
    (s' : Allocating) : Prop where
  server : v.server = s.client.server
  endpoint : s.client.selectServerEndpoint env = some v.endpoint
  requests : ∃ first : SentRequest, first.authentication = s.client.authentication ∧
    s.client.sign env (s.client.allocateRequest (env.transactionId s.transactions)) = some first.message ∧
    (v.requests = [first] ∨ ∃ second response, v.requests = [first, second] ∧ first.ending = .failed response ∧
      second.authentication.isSome ∧ second.authentication = s.client.challenge env response)
  ok : ∀ response, result = .ok response → ∃ r, v.requests.getLast? = some r ∧ r.ending = .completed response
  failed : ∀ response, result = .error (.failed response) → ∃ n, env.ending n = .failed response
  next : ∃ authentication transactions, s' = { s with
    client := { s.client with pinnedServerEndpoint := some v.endpoint, authentication }
    transactions
    visits := s.visits ++ [v] }

lemma requestWithRetry_cases (env : Surroundings) (s : Allocating) :
    s.requestWithRetry env = (.error .other, s) ∨
      ∃ v, Visits env s v (s.requestWithRetry env).1 (s.requestWithRetry env).2 := by
  unfold Allocating.requestWithRetry
  cases hsign : s.client.sign env (s.client.allocateRequest (env.transactionId s.transactions)) with
  | none => exact .inl rfl
  | some message =>
    cases hendpoint : s.client.selectServerEndpoint env with
    | none => exact .inl rfl
    | some endpoint =>
      right
      obtain ⟨ending, hending⟩ : ∃ ending, env.ending s.transactions = ending := ⟨_, rfl⟩
      obtain ⟨ending', hending'⟩ : ∃ ending, env.ending (s.transactions + 1) = ending := ⟨_, rfl⟩
      simp only [hending, hending']
      -- the first request is the only one unless its response asks for another
      have hone (result : Except AllocateError Message) (s₁ : Allocating)
          (hs₁ : ∃ authentication, s₁ = { s with client := { s.client with authentication } })
          (hok : ∀ response, result = .ok response → ending = .completed response)
          (hfailed : ∀ response, result = .error (.failed response) → ending = .failed response) :
          Visits env s ⟨s.client.server, endpoint, [⟨s.client.authentication, message, ending⟩]⟩ result
            (s₁.sent endpoint [⟨s.client.authentication, message, ending⟩]) := by
        obtain ⟨authentication, rfl⟩ := hs₁
        exact ⟨rfl, hendpoint, ⟨_, rfl, hsign, .inl rfl⟩, fun response h => ⟨_, rfl, hok response h⟩,
          fun response h => ⟨_, hending.trans (hfailed response h)⟩, authentication, _, rfl⟩
      cases ending with
      | completed response =>
        exact ⟨_, hone (.ok response) s ⟨_, rfl⟩ (fun _ h => by rw [Except.ok.inj h]) fun _ h => by cases h⟩
      | other => exact ⟨_, hone (.error .other) s ⟨_, rfl⟩ (fun _ h => by cases h) fun _ h => by cases h⟩
      | failed response =>
        dsimp only
        cases hcode : TurnProtocol.errorCode response with
        | none => exact ⟨_, hone (.error .other) s ⟨_, rfl⟩ (fun _ h => by cases h) fun _ h => by cases h⟩
        | some code =>
          dsimp only
          cases hchallenge : s.client.challenge env response with
          | none =>
            refine ⟨_, hone (.error (.failed response)) s ⟨_, rfl⟩ (fun _ h => by cases h) fun response' h => ?_⟩
            rw [AllocateError.failed.inj (Except.error.inj h)]
          | some authentication =>
            have htwo (result : Except AllocateError Message) (message' : Message)
                (hok : ∀ response, result = .ok response → ending' = .completed response)
                (hfailed : ∀ response, result = .error (.failed response) → ending' = .failed response) :
                Visits env s ⟨s.client.server, endpoint, [⟨s.client.authentication, message, .failed response⟩,
                  ⟨some authentication, message', ending'⟩]⟩ result
                  (({ s with client := { s.client with authentication := some authentication } } : Allocating).sent
                    endpoint [⟨s.client.authentication, message, .failed response⟩,
                      ⟨some authentication, message', ending'⟩]) :=
              ⟨rfl, hendpoint, ⟨_, rfl, hsign, .inr ⟨_, response, rfl, rfl, rfl, hchallenge.symm⟩⟩,
                fun response' h => ⟨_, rfl, hok response' h⟩,
                fun response' h => ⟨_, hending'.trans (hfailed response' h)⟩, some authentication, _, rfl⟩
            dsimp only
            split
            · exact ⟨_, hone (.error .other) _ ⟨_, rfl⟩ (fun _ h => by cases h) fun _ h => by cases h⟩
            · next message' _ =>
              cases ending' with
              | completed response' =>
                exact ⟨_, htwo (.ok response') message' (fun _ h => by rw [Except.ok.inj h]) fun _ h => by cases h⟩
              | failed response' =>
                refine ⟨_, htwo (.error (.failed response')) message' (fun _ h => by cases h) fun _ h => ?_⟩
                rw [AllocateError.failed.inj (Except.error.inj h)]
              | other =>
                exact ⟨_, htwo (.error .other) message' (fun _ h => by cases h) fun _ h => by cases h⟩

/-! ## Alternate servers are IP addresses -/

section

variable {H : Hmac} {data payload before : Bytes} {integrityKey : Option Bytes} {transactionId : Bytes}
  {turns pos attrType : ℕ} {st st' : ParseState} {host : String} {addr endpoint : Address} {family : ℕ}

lemma isIP_bufferToIpAddress {buf : Bytes} (h : bufferToIpAddress buf = some host) : isIP host ≠ 0 := by
  by_cases hfour : buf.length = 4
  · rw [bufferToIpAddress_quad hfour] at h
    obtain rfl := Option.some.inj h
    rw [isIP, if_pos (by rw [isIPv4, String.toList_ofList]; exact (DottedQuad.ofBytes buf hfour).isV4Text_text)]
    decide
  · by_cases hsixteen : buf.length = 16
    · obtain ⟨t, -, -, hwritten⟩ := bufferToIpAddress_hextets hsixteen
      rw [hwritten] at h
      obtain rfl := Option.some.inj h
      rw [isIP, t.not_isIPv4, if_neg (by decide), if_pos t.isIPv6_text]
      decide
    · rw [bufferToIpAddress, if_neg hfour, if_pos hsixteen] at h
      cases h

/-- An address that is written with an IP address. -/
def Literal (value : AttributeValue) : Prop := ∃ addr : Address, value = .address addr ∧ isIP addr.1 ≠ 0

lemma literal_unpack {value : AttributeValue} (h : Codec.address.unpack transactionId payload = some value) :
    Literal value := by
  obtain ⟨addr, hunpack, rfl⟩ := Option.map_eq_some_iff.mp h
  unfold unpackAddress at hunpack
  simp only [Option.bind_eq_bind, Option.bind_eq_some_iff] at hunpack
  obtain ⟨_, -, _, -, _, -, _, -, host, hhost, heq⟩ := hunpack
  obtain rfl := Option.some.inj heq
  exact ⟨_, rfl, isIP_bufferToIpAddress hhost⟩

lemma codec_alternateServer : ∀ entry ∈ ATTRIBUTES, entry.name = .alternateServer → entry.codec = .address := by
  decide

lemma literal_acceptAttribute (hst : ∀ value ∈ st.alternateServers, Literal value)
    (h : acceptAttribute H integrityKey transactionId before attrType payload st = .ok st') :
    ∀ value ∈ st'.alternateServers, Literal value := by
  cases hentry : ATTRIBUTES_BY_TYPE attrType with
  | none =>
    rw [acceptAttribute_unknown hentry] at h
    obtain rfl := Except.ok.inj h
    exact hst
  | some entry =>
    obtain ⟨value, hunpack, -, -, rfl⟩ := (acceptAttribute_known hentry).mp h
    intro value' hvalue'
    obtain hvalue' | hvalue' := List.mem_append.mp hvalue'
    · exact hst value' hvalue'
    · split_ifs at hvalue' with hname
      · obtain rfl := List.mem_singleton.mp hvalue'
        rw [codec_alternateServer entry (List.mem_of_find?_eq_some hentry) hname] at hunpack
        exact literal_unpack hunpack
      · exact absurd hvalue' List.not_mem_nil

lemma literal_parseLoop (hst : ∀ value ∈ st.alternateServers, Literal value)
    (h : parseLoop H data integrityKey transactionId turns pos st = .ok st') :
    ∀ value ∈ st'.alternateServers, Literal value := by
  induction turns generalizing pos st with
  | zero =>
    obtain rfl := Except.ok.inj h
    exact hst
  | succ turns ih =>
    rw [parseLoop] at h
    split_ifs at h
    · simp only [except_bind_eq_ok, orThrow_eq_ok] at h
      obtain ⟨attrType, -, attrLen, -, h⟩ := h
      split_ifs at h
      obtain ⟨st₁, hattribute, h⟩ := except_bind_eq_ok.mp h
      refine ih ?_ h
      unfold parseAttribute at hattribute
      split_ifs at hattribute
      · obtain rfl := Except.ok.inj hattribute
        exact hst
      · exact literal_acceptAttribute hst hattribute
    · obtain rfl := Except.ok.inj h
      exact hst

/-- **The alternate servers** of a message that has been parsed are written with IP addresses. -/
lemma literal_parseMessage (h : parseMessage H data integrityKey = .ok response) :
    ∀ addr ∈ Allocating.alternateServers response, isIP addr.1 ≠ 0 := by
  obtain ⟨-, _, st, -, hloop, -, rfl⟩ := parseMessage_eq_ok.mp h
  have hliteral := literal_parseLoop (fun _ hvalue => absurd hvalue List.not_mem_nil) hloop
  intro addr haddr
  obtain ⟨value, hvalue, heq⟩ := List.mem_filterMap.mp haddr
  obtain ⟨addr', rfl, hip⟩ := hliteral value hvalue
  obtain rfl := Option.some.inj heq
  exact hip

/-- Such an address needs no look-up. -/
lemma resolveRequestAddress_literal (hip : isIP addr.1 ≠ 0)
    (h : resolveRequestAddress env addr family = some endpoint) : endpoint = addr := by
  unfold resolveRequestAddress at h
  simp only [if_pos hip] at h
  split_ifs at h
  exact (Option.some.inj h).symm

end

/-! ## The invariant of the loop -/

lemma addressEquals_iff {canonicalHost : String → String} :
    addressEquals canonicalHost a b ↔ a.2 = b.2 ∧ canonicalHost a.1 = canonicalHost b.1 := by
  simp [addressEquals]

/-- **A clean start**: a first request without what another server has told the client, and a second one with what
the first has brought. -/
def StartsClean (env : Surroundings) (c : AllocatingClient) (v : Visit) : Prop :=
  ∃ first rest, v.requests = first :: rest ∧ first.authentication = none ∧
    (∃ transactionId, first.message = c.allocateRequest transactionId) ∧
    ∀ second ∈ rest, ∃ response realm nonce, first.ending = .failed response ∧
      response.getString .realm = some realm ∧ response.getBuffer .nonce = some nonce ∧
      second.authentication =
        some ⟨realm, nonce, makeTurnIntegrityKey env.setting c.username realm c.password⟩

/-- **The visits of an allocation**: to different servers, with one or two requests, and clean behind the first. -/
structure CleanVisits (env : Surroundings) (c : AllocatingClient) (visits : List Visit) : Prop where
  different : visits.Pairwise fun v w => ¬addressEquals env.canonicalHost v.server w.server ∧
    ¬addressEquals env.canonicalHost v.endpoint w.endpoint
  few : ∀ v ∈ visits, 1 ≤ v.requests.length ∧ v.requests.length ≤ 2
  clean : ∀ v ∈ visits.tail, StartsClean env c v

/-- The state in front of a turn. -/
structure Going (env : Surroundings) (c : AllocatingClient) (s : Allocating) : Prop where
  username : s.client.username = c.username
  password : s.client.password = c.password
  lifetime : s.client.lifetime = c.lifetime
  limit : s.client.maxAllocateRedirects = c.maxAllocateRedirects
  redirects : s.visits.length = s.redirects
  le : s.redirects ≤ c.maxAllocateRedirects.getD DEFAULT_MAX_ALLOCATE_REDIRECTS
  tried : ∀ v ∈ s.visits, v.server ∈ s.tried ∧ v.endpoint ∈ s.tried
  visits : CleanVisits env c s.visits
  fresh : s.redirects ≠ 0 → s.client.authentication = none ∧
    (∃ endpoint, s.client.pinnedServerEndpoint = some endpoint ∧
      addressEquals env.canonicalHost endpoint s.client.server) ∧
    ∀ addr ∈ s.tried, ¬addressEquals env.canonicalHost addr s.client.server

/-- The end of an allocation: with a response, it is the one to the last request, which the last server has got. -/
structure Finished (env : Surroundings) (c : AllocatingClient) (result : Except AllocateError Message)
    (s : Allocating) : Prop where
  le : s.visits.length ≤ c.maxAllocateRedirects.getD DEFAULT_MAX_ALLOCATE_REDIRECTS + 1
  visits : CleanVisits env c s.visits
  ok : ∀ response, result = .ok response →
    ∃ v ∈ s.visits.getLast?, ∃ r ∈ v.requests.getLast?, r.ending = .completed response

/-- What a response asks for without an earlier one. -/
lemma challenge_eq_some {authentication : TurnAuthentication} (hnone : c.authentication = none)
    (h : c.challenge env response = some authentication) :
    ∃ realm nonce, response.getString .realm = some realm ∧ response.getBuffer .nonce = some nonce ∧
      authentication = ⟨realm, nonce, makeTurnIntegrityKey env.setting c.username realm c.password⟩ := by
  obtain ⟨realm, hrealm, h⟩ := Option.bind_eq_some_iff.mp h
  obtain ⟨nonce, hnonce, h⟩ := Option.bind_eq_some_iff.mp h
  refine ⟨realm, nonce, ?_, hnonce, (Option.some.inj h).symm⟩
  unfold AllocatingClient.challengeRealm at hrealm
  split at hrealm
  · exact (Option.filter_eq_some_iff.mp hrealm).1
  · rw [hnone] at hrealm
    cases hrealm
  · cases hrealm

lemma length_requests (h : Visits env s v result s') : 1 ≤ v.requests.length ∧ v.requests.length ≤ 2 := by
  obtain ⟨first, -, -, hone | ⟨second, response, htwo, -⟩⟩ := h.requests
  · rw [hone]
    exact ⟨le_rfl, one_le_two⟩
  · rw [htwo]
    exact ⟨one_le_two, le_rfl⟩

/-- A client that has no authentication starts clean. -/
lemma Going.startsClean (h : Going env c s) (hv : Visits env s v result s')
    (hnone : s.client.authentication = none) : StartsClean env c v := by
  obtain ⟨first, hauthentication, hsign, hrequests⟩ := hv.requests
  have hmessage : s.client.sign env (s.client.allocateRequest (env.transactionId s.transactions)) =
      some (s.client.allocateRequest (env.transactionId s.transactions)) := by
    unfold AllocatingClient.sign TurnProtocol.sign
    simp only [hnone]
  have hsame (transactionId : Bytes) :
      s.client.allocateRequest transactionId = c.allocateRequest transactionId := by
    unfold AllocatingClient.allocateRequest
    rw [h.lifetime]
  rw [hmessage] at hsign
  have hfirst : ∃ transactionId, first.message = c.allocateRequest transactionId :=
    ⟨_, (Option.some.inj hsign).symm.trans (hsame _)⟩
  obtain hone | ⟨second, response, htwo, hending, hsome, hchallenge⟩ := hrequests
  · exact ⟨first, [], hone, hauthentication.trans hnone, hfirst, fun _ hmem => absurd hmem List.not_mem_nil⟩
  · refine ⟨first, [second], htwo, hauthentication.trans hnone, hfirst, fun second' hmem => ?_⟩
    obtain rfl := List.mem_singleton.mp hmem
    obtain ⟨authentication, hsecond⟩ := Option.isSome_iff_exists.mp hsome
    obtain ⟨realm, nonce, hrealm, hnonce, rfl⟩ := challenge_eq_some hnone (hchallenge.symm.trans hsecond)
    refine ⟨response, realm, nonce, hending, hrealm, hnonce, ?_⟩
    rw [hsecond, h.username, h.password]

/-- The visit of a turn is to another server than those before. -/
lemma Going.append (h : Going env c s) (hv : Visits env s v result s') : CleanVisits env c (s.visits ++ [v]) := by
  have hfresh (hne : s.visits ≠ []) := h.fresh fun hzero =>
    hne (List.eq_nil_of_length_eq_zero (h.redirects.trans hzero))
  refine ⟨List.pairwise_append.mpr ⟨h.visits.different, List.pairwise_singleton _ _, fun u hu w hw => ?_⟩, ?_, ?_⟩
  · obtain rfl := List.mem_singleton.mp hw
    obtain ⟨-, ⟨endpoint, hpinned, hendpoint⟩, htried⟩ := hfresh (List.ne_nil_of_mem hu)
    obtain ⟨hserver, hend⟩ := h.tried u hu
    refine ⟨hv.server ▸ htried u.server hserver, fun heq => htried u.endpoint hend ?_⟩
    have hselect := hv.endpoint
    rw [AllocatingClient.selectServerEndpoint, hpinned] at hselect
    obtain rfl := Option.some.inj hselect
    rw [addressEquals_iff] at heq hendpoint ⊢
    exact ⟨heq.1.trans hendpoint.1, heq.2.trans hendpoint.2⟩
  · intro u hu
    obtain hu | hu := List.mem_append.mp hu
    · exact h.visits.few u hu
    · obtain rfl := List.mem_singleton.mp hu
      exact length_requests hv
  · intro u hu
    cases hvisits : s.visits with
    | nil =>
      rw [hvisits] at hu
      exact absurd hu List.not_mem_nil
    | cons v₀ visits =>
      rw [hvisits, List.cons_append, List.tail_cons] at hu
      obtain hu | hu := List.mem_append.mp hu
      · exact h.visits.clean u (by rw [hvisits]; exact hu)
      · obtain rfl := List.mem_singleton.mp hu
        exact h.startsClean hv (hfresh (by rw [hvisits]; exact List.cons_ne_nil _ _)).1

/-! ## The turns of the loop -/

lemma tryAlternateOf_eq_some {error : AllocateError} {addressFamily : Option ℕ} {alternate : Option Address}
    (h : Allocating.tryAlternateOf error addressFamily = some (alternate, domain)) :
    ∃ response, error = .failed response ∧ ∀ server ∈ alternate, server ∈ Allocating.alternateServers response := by
  cases error with
  | redirect reason server alternate => cases h
  | other => cases h
  | failed response =>
    unfold Allocating.tryAlternateOf at h
    dsimp only at h
    split_ifs at h
    obtain ⟨rfl, -⟩ := Prod.mk.inj (Option.some.inj h)
    refine ⟨response, rfl, fun server hserver => ?_⟩
    obtain hreachable | ⟨-, hfirst⟩ := Option.or_eq_some_iff.mp hserver
    · exact List.mem_of_find?_eq_some hreachable
    · exact List.mem_of_mem_head? hfirst

/-- What `switchServer` changes. -/
structure Switched (env : Surroundings) (c c' : AllocatingClient) (alternate : Address) : Prop where
  username : c'.username = c.username
  password : c'.password = c.password
  lifetime : c'.lifetime = c.lifetime
  limit : c'.maxAllocateRedirects = c.maxAllocateRedirects
  server : c'.server = alternate
  authentication : c'.authentication = none
  endpoint : ∃ endpoint, c'.pinnedServerEndpoint = some endpoint ∧
    addressEquals env.canonicalHost endpoint alternate

/-- A connection is one to the address for which it has been made. -/
def Reconnects (env : Surroundings) : Prop :=
  ∀ reconnect ∈ env.reconnect, ∀ server domain transport, reconnect server domain = some transport →
    ∀ remoteAddress ∈ transport.remoteAddress, addressEquals env.canonicalHost remoteAddress server

lemma addressEquals_refl {canonicalHost : String → String} : addressEquals canonicalHost a a :=
  addressEquals_iff.mpr ⟨rfl, rfl⟩

lemma switched (hreconnects : Reconnects env) (hip : isIP server.1 ≠ 0) {client : AllocatingClient}
    (h : s.switchServer env server domain = some client) : Switched env s.client client server := by
  unfold Allocating.switchServer at h
  split_ifs at h
  · obtain ⟨reconnect, hreconnect, h⟩ := Option.bind_eq_some_iff.mp h
    obtain ⟨transport, htransport, h⟩ := Option.bind_eq_some_iff.mp h
    obtain rfl := Option.some.inj h
    refine ⟨rfl, rfl, rfl, rfl, rfl, rfl, _, rfl, ?_⟩
    cases hremote : transport.remoteAddress with
    | none => exact addressEquals_refl
    | some remoteAddress => exact hreconnects reconnect hreconnect server domain transport htransport _ hremote
  · obtain ⟨endpoint, hendpoint, h⟩ := Option.bind_eq_some_iff.mp h
    obtain rfl := Option.some.inj h
    obtain rfl := resolveRequestAddress_literal hip hendpoint
    exact ⟨rfl, rfl, rfl, rfl, rfl, rfl, _, rfl, addressEquals_refl⟩

/-- The messages with which transactions fail have been parsed. -/
def Parses (env : Surroundings) : Prop :=
  ∀ n response, env.ending n = .failed response →
    ∃ data integrityKey, parseMessage env.setting.hmac data integrityKey = .ok response

/-- **A turn** ends the allocation, or goes on with one redirect more. -/
lemma Going.turn (h : Going env c s) (hparses : Parses env) (hreconnects : Reconnects env) :
    (∃ result s', s.turn env = .inl (result, s') ∧ Finished env c result s') ∨
      ∃ s', s.turn env = .inr s' ∧ Going env c s' ∧ s'.redirects = s.redirects + 1 := by
  have hlimit := h.limit
  obtain hnothing | ⟨v, hv⟩ := requestWithRetry_cases env s
  · refine .inl ⟨.error .other, s, ?_, by rw [h.redirects]; exact h.le.trans (Nat.le_succ _), h.visits,
      fun _ hok => by cases hok⟩
    rw [Allocating.turn, hnothing]
    rfl
  · obtain ⟨⟨result, s₁⟩, hpair⟩ : ∃ pair, s.requestWithRetry env = pair := ⟨_, rfl⟩
    rw [hpair] at hv
    have hclean := h.append hv
    have hlength : (s.visits ++ [v]).length ≤ c.maxAllocateRedirects.getD DEFAULT_MAX_ALLOCATE_REDIRECTS + 1 := by
      rw [List.length_append, h.redirects]
      exact Nat.succ_le_succ h.le
    obtain ⟨authentication, transactions, hs₁⟩ := hv.next
    dsimp only at hs₁
    have hvisits : s₁.visits = s.visits ++ [v] := by rw [hs₁]
    unfold Allocating.turn
    rw [hpair]
    cases result with
    | ok response =>
      refine .inl ⟨.ok response, s₁, rfl, hvisits ▸ hlength, hvisits ▸ hclean, fun response' hok => ?_⟩
      obtain ⟨r, hlast, hending⟩ := hv.ok response' hok
      refine ⟨v, ?_, r, hlast, hending⟩
      rw [hvisits, List.getLast?_concat]
      rfl
    | error error =>
      -- an error ends the allocation with the visits that there are
      have hend (error : AllocateError) (s₂ : Allocating) (hs₂ : s₂.visits = s.visits ++ [v]) :
          Finished env c (.error error) s₂ := ⟨hs₂ ▸ hlength, hs₂ ▸ hclean, fun _ hok => by cases hok⟩
      dsimp only
      cases halternate : Allocating.tryAlternateOf error s₁.client.transport.addressFamily with
      | none => exact .inl ⟨.error error, s₁, rfl, hend error s₁ hvisits⟩
      | some pair =>
        obtain ⟨alternate, domain⟩ := pair
        obtain ⟨response, rfl, hmem⟩ := tryAlternateOf_eq_some halternate
        dsimp only
        cases alternate with
        | none => exact .inl ⟨_, _, rfl, hend _ _ hvisits⟩
        | some server =>
          dsimp only
          split_ifs with hloop hmany hunsupported
          · exact .inl ⟨_, _, rfl, hend _ _ hvisits⟩
          · exact .inl ⟨_, _, rfl, hend _ _ hvisits⟩
          · exact .inl ⟨_, _, rfl, hend _ _ hvisits⟩
          · have hip : isIP server.1 ≠ 0 := by
              obtain ⟨n, hn⟩ := hv.failed response rfl
              obtain ⟨data, integrityKey, hparse⟩ := hparses n response hn
              exact literal_parseMessage hparse server (hmem server rfl)
            obtain ⟨tried, htried⟩ : ∃ tried,
                s₁.tried ++ s₁.client.server :: s₁.client.pinnedServerEndpoint.toList = tried := ⟨_, rfl⟩
            rw [htried] at hloop ⊢
            cases hswitch : ({ s₁ with tried } : Allocating).switchServer env server domain with
            | none => exact .inl ⟨_, _, rfl, hend _ _ hvisits⟩
            | some client =>
              have hswitched := switched hreconnects hip hswitch
              subst hs₁
              refine .inr ⟨_, rfl, ?_, rfl⟩
              refine ⟨hswitched.username.trans h.username, hswitched.password.trans h.password,
                hswitched.lifetime.trans h.lifetime, hswitched.limit.trans h.limit, ?_, ?_, fun u hu => ?_, hclean,
                fun _ => ⟨hswitched.authentication, ?_, fun addr haddr heq => hloop ?_⟩⟩
              · change (s.visits ++ [v]).length = s.redirects + 1
                rw [List.length_append, h.redirects]
                rfl
              · rw [← hlimit]
                exact not_le.mp hmany
              · change u.server ∈ tried ∧ u.endpoint ∈ tried
                rw [← htried]
                obtain hu | hu := List.mem_append.mp hu
                · obtain ⟨hserver, hendpoint⟩ := h.tried u hu
                  exact ⟨List.mem_append_left _ hserver, List.mem_append_left _ hendpoint⟩
                · obtain rfl := List.mem_singleton.mp hu
                  refine ⟨List.mem_append_right _ ?_, List.mem_append_right _ (List.mem_cons_of_mem _ ?_)⟩
                  · rw [hv.server]
                    exact List.mem_cons_self
                  · exact List.mem_singleton_self _
              · obtain ⟨endpoint, hpinned, hendpoint⟩ := hswitched.endpoint
                exact ⟨endpoint, hpinned, hswitched.server.symm ▸ hendpoint⟩
              · rw [hswitched.server] at heq
                exact List.any_eq_true.mpr ⟨addr, haddr, heq⟩

/-- **The loop** ends after at most one turn more than there are redirects. -/
lemma Going.loop {n : ℕ} (h : Going env c s) (hparses : Parses env) (hreconnects : Reconnects env)
    (hn : s.redirects + n = c.maxAllocateRedirects.getD DEFAULT_MAX_ALLOCATE_REDIRECTS + 1) :
    ∃ result s', Finished env c result s' ∧ ∀ fuel, n ≤ fuel → s.loop env fuel = some (result, s') := by
  induction n generalizing s with
  | zero =>
    have := h.le
    omega
  | succ n ih =>
    obtain ⟨result, s', hturn, hfinished⟩ | ⟨s', hturn, hgoing, hredirects⟩ := h.turn hparses hreconnects
    · refine ⟨result, s', hfinished, fun fuel hfuel => ?_⟩
      obtain ⟨fuel, rfl⟩ := Nat.exists_eq_add_of_le' hfuel
      rw [← Nat.add_assoc, Allocating.loop, hturn]
    · obtain ⟨result, s'', hfinished, hloop⟩ := ih hgoing (by omega)
      refine ⟨result, s'', hfinished, fun fuel hfuel => ?_⟩
      obtain ⟨fuel, rfl⟩ := Nat.exists_eq_add_of_le' hfuel
      rw [← Nat.add_assoc, Allocating.loop, hturn]
      exact hloop _ (Nat.le_add_left _ _)

end Werift.Turn
