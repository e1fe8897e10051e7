import Werift.Lib.Transition

/-!
# Role conflicts of two ICE agents (`ice/src/ice.ts`)

What a request and a 487 answer do to the role of an agent, and two agents that exchange requests over
a network which may delay, duplicate, reorder and lose every packet.
-/

namespace Werift.Ice

open Transition

/-- What a request is sent for.  Only a connectivity check repairs a role conflict when it fails. -/
inductive RequestKind
  | check
  | nomination
  | consent
deriving DecidableEq

/-- The part of a binding request that `buildRequest` derives from the role: `ICE-CONTROLLING` or
`ICE-CONTROLLED`, with the tie-breaker. -/
structure RoleRequest where
  transactionId : ℕ
  iceControlling : Bool
  tieBreaker : ℕ
deriving DecidableEq

/-- A success response, or the error response `[487, "Role Conflict"]`. -/
inductive RoleAnswer
  | success
  | roleConflict
deriving DecidableEq

/-- The role of a `Connection`, and the requests that wait for an answer. -/
structure RoleAgent where
  tieBreaker : ℕ
  iceControlling : Bool
  iceLite : Bool := false
  transactions : List (RoleRequest × RequestKind) := []

namespace RoleAgent

/-- `switchRole(iceControlling)`. -/
def switchRole (a : RoleAgent) (iceControlling : Bool) : RoleAgent :=
  { a with iceControlling := if a.iceLite then false else iceControlling }

/-- `buildRequest(..)` with the transaction that is opened for it. -/
def request (a : RoleAgent) (transactionId : ℕ) (kind : RequestKind) : RoleRequest × RoleAgent :=
  let message : RoleRequest :=
    { transactionId, iceControlling := a.iceControlling, tieBreaker := a.tieBreaker }
  (message, { a with transactions := (message, kind) :: a.transactions })

/-- The subscriber of `onRequestReceived`, up to the answer: `passes` is what `filterStunResponse`
returns. -/
def onRequestReceived (a : RoleAgent) (message : RoleRequest) (passes : Bool) :
    RoleAgent × Option RoleAnswer :=
  if a.iceControlling && message.iceControlling then
    if message.tieBreaker ≤ a.tieBreaker then (a, some .roleConflict)
    else (a.switchRole false, if passes then some .success else none)
  else if !a.iceControlling && !message.iceControlling then
    if a.iceLite || a.tieBreaker < message.tieBreaker then (a, some .roleConflict)
    -- the role is switched here without an answer
    else (a.switchRole true, none)
  else (a, if passes then some .success else none)

/-- An answer to an open transaction, with the failure case of `checkStart`. -/
def onAnswer (a : RoleAgent) (transactionId : ℕ) (answer : RoleAnswer) : RoleAgent :=
  match a.transactions.find? fun entry => entry.1.transactionId = transactionId with
  | none => a
  | some (message, kind) =>
    let a := { a with
      transactions := a.transactions.filter fun entry => entry.1.transactionId ≠ transactionId }
    if kind = .check ∧ answer = .roleConflict then a.switchRole (!message.iceControlling) else a

/-- A transaction that ends without an answer. -/
def onTimeout (a : RoleAgent) (transactionId : ℕ) : RoleAgent :=
  { a with
    transactions := a.transactions.filter fun entry => entry.1.transactionId ≠ transactionId }

end RoleAgent

/-! ## Two agents -/

/-- The two agents. -/
inductive Side
  | left
  | right
deriving DecidableEq

/-- The peer. -/
def Side.other : Side → Side
  | .left => .right
  | .right => .left

@[simp] lemma Side.other_other (side : Side) : side.other.other = side := by cases side <;> rfl

lemma Side.eq_or_eq_other (side side' : Side) : side' = side ∨ side' = side.other := by
  cases side <;> cases side' <;> simp [Side.other]

lemma Side.other_ne (side : Side) : side.other ≠ side := by cases side <;> simp [Side.other]

/-- What is sent between the agents. -/
inductive RolePacket
  | request (message : RoleRequest)
  | answer (transactionId : ℕ) (answer : RoleAnswer)
deriving DecidableEq

/-- The agents, and everything that was ever sent to each of them. -/
structure RoleSystem where
  agent : Side → RoleAgent
  wire : Side → List RolePacket

/-- A request is sent, a packet arrives (at any time, once, repeatedly or never), or a transaction
ends without an answer. -/
inductive RoleEvent
  | send (side : Side) (transactionId : ℕ) (kind : RequestKind)
  | deliver (side : Side) (packet : RolePacket) (passes : Bool)
  | timeout (side : Side) (transactionId : ℕ)

namespace RoleSystem

/-- One agent has changed. -/
def setAgent (s : RoleSystem) (side : Side) (a : RoleAgent) : RoleSystem :=
  { s with agent := Function.update s.agent side a }

/-- A packet has been sent to one side. -/
def post (s : RoleSystem) (side : Side) (packet : RolePacket) : RoleSystem :=
  { s with wire := Function.update s.wire side (packet :: s.wire side) }

/-- An answer has been sent to one side. -/
def postAnswer (s : RoleSystem) (side : Side) (transactionId : ℕ) :
    Option RoleAnswer → RoleSystem
  | some answer => s.post side (.answer transactionId answer)
  | none => s

/-- A side has already used a transaction id. -/
def Used (s : RoleSystem) (side : Side) (transactionId : ℕ) : Bool :=
  (s.wire side.other).any fun packet => match packet with
    | .request message => message.transactionId == transactionId
    | .answer _ _ => false

/-- What happens in an event.  Transaction ids are drawn afresh, and only what was sent arrives. -/
def step (s : RoleSystem) : RoleEvent → Option RoleSystem
  | .send side transactionId kind =>
    if s.Used side transactionId then none
    else
      let sent := (s.agent side).request transactionId kind
      some ((s.setAgent side sent.2).post side.other (.request sent.1))
  | .deliver side packet passes =>
    if packet ∈ s.wire side then
      match packet with
      | .request message =>
        let received := (s.agent side).onRequestReceived message passes
        some ((s.setAgent side received.1).postAnswer side.other message.transactionId received.2)
      | .answer transactionId answer =>
        some (s.setAgent side ((s.agent side).onAnswer transactionId answer))
    else none
  | .timeout side transactionId =>
    some (s.setAgent side ((s.agent side).onTimeout transactionId))

/-- Two full agents that start in the same role. -/
def start (iceControlling : Bool) (tieBreaker : Side → ℕ) : RoleSystem where
  agent side := { tieBreaker := tieBreaker side, iceControlling }
  wire _ := []

/-- A check of a side was answered by its peer. -/
def Answered (s : RoleSystem) (side : Side) : Prop :=
  ∃ transactionId answer, .answer transactionId answer ∈ s.wire side

end RoleSystem

/-! ## Convergence -/

variable {s s' : RoleSystem} {keeper side : Side} {role : Bool} {tieBreaker : Side → ℕ}

/-- A side wins a conflict over a role: the larger tie-breaker controls. -/
def Wins (role : Bool) (tieBreaker : Side → ℕ) (side : Side) : Prop :=
  if role then tieBreaker side.other < tieBreaker side
  else tieBreaker side < tieBreaker side.other

/-- **The invariant.**  The side that wins the conflict keeps the role for ever and is never refused,
and its peer has changed the role once it has answered one of its requests. -/
structure Repairs (role : Bool) (tieBreaker : Side → ℕ) (keeper : Side) (s : RoleSystem) :
    Prop where
  full : ∀ side : Side, (s.agent side).iceLite = false
  tie : ∀ side : Side, (s.agent side).tieBreaker = tieBreaker side
  sent : ∀ (side : Side) message, .request message ∈ s.wire side.other →
    message.tieBreaker = tieBreaker side
  opened : ∀ side : Side, ∀ entry ∈ (s.agent side).transactions, .request entry.1 ∈ s.wire side.other
  unique : ∀ (side : Side) message message', .request message ∈ s.wire side.other →
    .request message' ∈ s.wire side.other → message.transactionId = message'.transactionId →
      message = message'
  keeps : (s.agent keeper).iceControlling = role
  claims : ∀ message, .request message ∈ s.wire keeper.other → message.iceControlling = role
  accepted : ∀ transactionId, .answer transactionId .roleConflict ∉ s.wire keeper
  refused : ∀ transactionId, .answer transactionId .roleConflict ∈ s.wire keeper.other →
    ∃ message, .request message ∈ s.wire keeper ∧ message.transactionId = transactionId ∧
      message.iceControlling = role
  gives : s.Answered keeper → (s.agent keeper.other).iceControlling = !role

lemma onAnswer_success (a : RoleAgent) (transactionId : ℕ) :
    (a.onAnswer transactionId .success).iceControlling = a.iceControlling := by
  unfold RoleAgent.onAnswer
  split
  · rfl
  · simp

/-- A refused check changes to the opposite of the role that it claimed. -/
lemma onAnswer_roleConflict {a : RoleAgent} {transactionId : ℕ} (hlite : a.iceLite = false)
    (hclaims : ∀ entry ∈ a.transactions, entry.1.transactionId = transactionId →
      entry.1.iceControlling = role) :
    (a.onAnswer transactionId .roleConflict).iceControlling = a.iceControlling ∨
      (a.onAnswer transactionId .roleConflict).iceControlling = !role := by
  unfold RoleAgent.onAnswer
  split
  · exact Or.inl rfl
  · rename_i message kind hfind
    have hrole := hclaims _ (List.mem_of_find?_eq_some hfind)
      (by simpa using List.find?_some hfind)
    dsimp only at hrole ⊢
    split_ifs
    · right
      simp [RoleAgent.switchRole, hlite, hrole]
    · exact Or.inl rfl

/-- What an agent may become without sending a request, apart from its role. -/
structure RoleAgent.Settles (a a' : RoleAgent) : Prop where
  tieBreaker : a'.tieBreaker = a.tieBreaker
  iceLite : a'.iceLite = a.iceLite
  transactions : a'.transactions ⊆ a.transactions

lemma settles_onAnswer (a : RoleAgent) (transactionId : ℕ) (answer : RoleAnswer) :
    a.Settles (a.onAnswer transactionId answer) := by
  unfold RoleAgent.onAnswer
  split
  · exact ⟨rfl, rfl, List.Subset.refl _⟩
  · dsimp only
    split_ifs <;> exact ⟨rfl, rfl, List.filter_subset_self _⟩

lemma settles_onRequestReceived (a : RoleAgent) (message : RoleRequest) (passes : Bool) :
    a.Settles (a.onRequestReceived message passes).1 := by
  unfold RoleAgent.onRequestReceived
  split_ifs <;> exact ⟨rfl, rfl, List.Subset.refl _⟩

/-- The side that wins refuses a request that claims its role, and keeps the role. -/
lemma onRequestReceived_keeper {a : RoleAgent} {message : RoleRequest} (passes : Bool)
    (hrole : a.iceControlling = role)
    (hwins : if role then message.tieBreaker < a.tieBreaker
      else a.tieBreaker < message.tieBreaker) :
    (a.onRequestReceived message passes).1.iceControlling = role ∧
      ((a.onRequestReceived message passes).2 = some .roleConflict →
        message.iceControlling = role) := by
  subst hrole
  cases hown : a.iceControlling <;> cases hclaim : message.iceControlling
  · have hlt : a.tieBreaker < message.tieBreaker := by simpa [hown] using hwins
    simp [RoleAgent.onRequestReceived, hown, hclaim, hlt]
  · cases passes <;> simp [RoleAgent.onRequestReceived, hown, hclaim]
  · cases passes <;> simp [RoleAgent.onRequestReceived, hown, hclaim]
  · have hlt : message.tieBreaker < a.tieBreaker := by simpa [hown] using hwins
    simp [RoleAgent.onRequestReceived, hown, hclaim, hlt.le]

/-- The other side gives way: it never refuses a request, and has changed its role. -/
lemma onRequestReceived_follower {a : RoleAgent} {message : RoleRequest} (passes : Bool)
    (hclaim : message.iceControlling = role) (hlite : a.iceLite = false)
    (hwins : if role then a.tieBreaker < message.tieBreaker
      else message.tieBreaker < a.tieBreaker) :
    (a.onRequestReceived message passes).1.iceControlling = (!role) ∧
      (a.onRequestReceived message passes).2 ≠ some .roleConflict := by
  subst hclaim
  cases hown : a.iceControlling <;> cases hclaim : message.iceControlling
  · have hlt : message.tieBreaker < a.tieBreaker := by simpa [hclaim] using hwins
    simp [RoleAgent.onRequestReceived, RoleAgent.switchRole, hown, hclaim, hlite, hlt.not_gt]
  · cases passes <;> simp [RoleAgent.onRequestReceived, hown, hclaim]
  · cases passes <;> simp [RoleAgent.onRequestReceived, hown, hclaim]
  · have hlt : a.tieBreaker < message.tieBreaker := by simpa [hclaim] using hwins
    cases passes <;>
      simp [RoleAgent.onRequestReceived, RoleAgent.switchRole, hown, hclaim, hlite, hlt.not_ge]

/-! ## The invariant is kept -/

lemma mem_post {target side : Side} {packet packet' : RolePacket} :
    packet' ∈ (s.post target packet).wire side ↔
      (side = target ∧ packet' = packet) ∨ packet' ∈ s.wire side := by
  change packet' ∈ Function.update s.wire target (packet :: s.wire target) side ↔ _
  rw [Function.update_apply]
  split_ifs with h
  · simp [h]
  · simp [h]

lemma agent_setAgent {a : RoleAgent} {side' : Side} :
    (s.setAgent side a).agent side' = if side' = side then a else s.agent side' :=
  Function.update_apply _ _ _ _

/-- An agent changes without sending a request. -/
lemma Repairs.setAgent (h : Repairs role tieBreaker keeper s) {a : RoleAgent}
    (ha : (s.agent side).Settles a) (hkeeps : side = keeper → a.iceControlling = role)
    (hgives : side = keeper.other → s.Answered keeper → a.iceControlling = !role) :
    Repairs role tieBreaker keeper (s.setAgent side a) := by
  refine ⟨fun side' => ?_, fun side' => ?_, h.sent, fun side' => ?_, h.unique, ?_, h.claims,
    h.accepted, h.refused, fun hanswered => ?_⟩
  · rw [agent_setAgent]
    split_ifs with heq
    · rw [ha.iceLite, h.full]
    · exact h.full side'
  · rw [agent_setAgent]
    split_ifs with heq
    · rw [ha.tieBreaker, h.tie, heq]
    · exact h.tie side'
  · rw [agent_setAgent]
    split_ifs with heq
    · subst heq
      exact fun entry hmem => h.opened side' entry (ha.transactions hmem)
    · exact h.opened side'
  · rw [agent_setAgent]
    split_ifs with heq
    · exact hkeeps heq.symm
    · exact h.keeps
  · rw [agent_setAgent]
    split_ifs with heq
    · exact hgives heq.symm hanswered
    · exact h.gives hanswered

/-- An answer is sent. -/
lemma Repairs.postAnswer (h : Repairs role tieBreaker keeper s) {target : Side} {transactionId : ℕ}
    {answer : Option RoleAnswer}
    (hkeeper : target = keeper → answer ≠ some .roleConflict ∧
      (s.agent keeper.other).iceControlling = !role)
    (hother : target = keeper.other → answer = some .roleConflict → ∃ message,
      .request message ∈ s.wire keeper ∧ message.transactionId = transactionId ∧
        message.iceControlling = role) :
    Repairs role tieBreaker keeper (s.postAnswer target transactionId answer) := by
  cases answer with
  | none => exact h
  | some answer =>
    have hrequest {side : Side} {message : RoleRequest} :
        .request message ∈ (s.post target (.answer transactionId answer)).wire side ↔
          .request message ∈ s.wire side := by simp [mem_post]
    refine ⟨h.full, h.tie, ?_, ?_, ?_, h.keeps, ?_, ?_, ?_, ?_⟩
    · exact fun side message hmem => h.sent side message (hrequest.mp hmem)
    · exact fun side entry hmem => hrequest.mpr (h.opened side entry hmem)
    · exact fun side message message' hmem hmem' =>
        h.unique side message message' (hrequest.mp hmem) (hrequest.mp hmem')
    · exact fun message hmem => h.claims message (hrequest.mp hmem)
    · intro id hmem
      rcases mem_post.mp hmem with ⟨heq, hpacket⟩ | hmem
      · obtain ⟨-, rfl⟩ := RolePacket.answer.inj hpacket
        exact (hkeeper heq.symm).1 rfl
      · exact h.accepted id hmem
    · intro id hmem
      rcases mem_post.mp hmem with ⟨heq, hpacket⟩ | hmem
      · obtain ⟨rfl, rfl⟩ := RolePacket.answer.inj hpacket
        obtain ⟨message, hsent, hid, hrole⟩ := hother heq.symm rfl
        exact ⟨message, hrequest.mpr hsent, hid, hrole⟩
      · obtain ⟨message, hsent, hid, hrole⟩ := h.refused id hmem
        exact ⟨message, hrequest.mpr hsent, hid, hrole⟩
    · rintro ⟨id, answer', hmem⟩
      rcases mem_post.mp hmem with ⟨heq, -⟩ | hmem
      · exact (hkeeper heq.symm).2
      · exact h.gives ⟨id, answer', hmem⟩

/-- A request is sent. -/
lemma Repairs.send (h : Repairs role tieBreaker keeper s) {transactionId : ℕ} {kind : RequestKind}
    (hfresh : s.Used side transactionId = false) :
    Repairs role tieBreaker keeper
      ((s.setAgent side ((s.agent side).request transactionId kind).2).post side.other
        (.request ((s.agent side).request transactionId kind).1)) := by
  set message := ((s.agent side).request transactionId kind).1 with hmessage
  set s' := (s.setAgent side ((s.agent side).request transactionId kind).2).post side.other
    (.request message) with hs'
  have hnew (message' : RoleRequest) (hmem : .request message' ∈ s.wire side.other) :
      message'.transactionId ≠ transactionId := by
    intro heq
    have := List.any_eq_false.mp hfresh _ hmem
    simp [heq] at this
  have hagent (side' : Side) : (s'.agent side').iceControlling = (s.agent side').iceControlling ∧
      (s'.agent side').iceLite = (s.agent side').iceLite ∧
      (s'.agent side').tieBreaker = (s.agent side').tieBreaker := by
    change ((s.setAgent side _).agent side').iceControlling = _ ∧ _
    rw [hs', RoleSystem.post, agent_setAgent]
    split_ifs with heq
    · subst heq
      exact ⟨rfl, rfl, rfl⟩
    · exact ⟨rfl, rfl, rfl⟩
  have hrequest {side' : Side} {message' : RoleRequest}
      (hmem : .request message' ∈ s'.wire side'.other) :
      (side' = side ∧ message' = message) ∨ .request message' ∈ s.wire side'.other := by
    refine (mem_post.mp hmem).imp_left fun ⟨hside, hpacket⟩ => ⟨?_, RolePacket.request.inj hpacket⟩
    rw [← Side.other_other side', hside, Side.other_other]
  have hanswer {side' : Side} {id : ℕ} {answer : RoleAnswer} :
      .answer id answer ∈ s'.wire side' ↔ .answer id answer ∈ s.wire side' := by
    rw [hs', mem_post]
    simp [RoleSystem.setAgent]
  refine ⟨fun side' => (hagent side').2.1.trans (h.full side'), fun side' =>
    (hagent side').2.2.trans (h.tie side'), ?_, ?_, ?_, (hagent keeper).1.trans h.keeps, ?_, ?_, ?_,
    ?_⟩
  · intro side' message' hmem
    rcases hrequest hmem with ⟨rfl, rfl⟩ | hmem
    · exact h.tie side'
    · exact h.sent side' message' hmem
  · intro side' entry hmem
    change entry ∈ ((s.setAgent side _).agent side').transactions at hmem
    rw [agent_setAgent] at hmem
    split_ifs at hmem with heq
    · subst heq
      rcases List.mem_cons.mp hmem with rfl | hmem
      · exact mem_post.mpr (Or.inl ⟨rfl, rfl⟩)
      · exact mem_post.mpr (Or.inr (h.opened side' entry hmem))
    · exact mem_post.mpr (Or.inr (h.opened side' entry hmem))
  · intro side' m m' hm hm' hid
    rcases hrequest hm with ⟨rfl, rfl⟩ | hold <;> rcases hrequest hm' with ⟨heq, rfl⟩ | hold'
    · rfl
    · exact absurd hid.symm (hnew m' hold')
    · exact absurd hid (hnew m (heq ▸ hold))
    · exact h.unique side' m m' hold hold' hid
  · intro message' hmem
    rcases hrequest hmem with ⟨rfl, rfl⟩ | hmem
    · exact h.keeps
    · exact h.claims message' hmem
  · exact fun id hmem => h.accepted id (hanswer.mp hmem)
  · intro id hmem
    obtain ⟨message', hsent, hid, hrole⟩ := h.refused id (hanswer.mp hmem)
    exact ⟨message', mem_post.mpr (Or.inr hsent), hid, hrole⟩
  · rintro ⟨id, answer, hmem⟩
    rw [(hagent keeper.other).1]
    exact h.gives ⟨id, answer, hanswer.mp hmem⟩

/-- **A step** keeps the invariant. -/
lemma Repairs.step (h : Repairs role tieBreaker keeper s) (hwins : Wins role tieBreaker keeper)
    {e : RoleEvent} (hs : s.step e = some s') : Repairs role tieBreaker keeper s' := by
  cases e with
  | send side transactionId kind =>
    obtain ⟨hfresh, heq⟩ := Option.ite_none_left_eq_some.mp hs
    obtain rfl := Option.some.inj heq
    exact h.send (Bool.eq_false_iff.mpr hfresh)
  | timeout side transactionId =>
    obtain rfl := Option.some.inj hs
    refine h.setAgent ⟨rfl, rfl, List.filter_subset_self _⟩ ?_ ?_
    · rintro rfl
      exact h.keeps
    · rintro rfl hanswered
      exact h.gives hanswered
  | deliver side packet passes =>
    obtain ⟨hmem, hs⟩ := Option.ite_none_right_eq_some.mp hs
    cases packet with
    | request message =>
      obtain rfl := Option.some.inj hs
      rcases Side.eq_or_eq_other keeper side with rfl | rfl
      · -- the peer of the keeper has asked
        have htie : message.tieBreaker = tieBreaker side.other :=
          h.sent side.other message (by rwa [Side.other_other])
        obtain ⟨hrole, hrefused⟩ := onRequestReceived_keeper passes h.keeps
          (by rwa [htie, h.tie])
        refine (h.setAgent (settles_onRequestReceived _ _ _) (fun _ => hrole) fun heq =>
          absurd heq.symm (Side.other_ne side)).postAnswer (fun heq => ?_) fun _ hconflict => ?_
        · exact absurd heq (Side.other_ne side)
        · exact ⟨message, hmem, rfl, hrefused hconflict⟩
      · -- the keeper has asked
        have htie : message.tieBreaker = tieBreaker keeper := h.sent keeper message hmem
        obtain ⟨hrole, hrefused⟩ := onRequestReceived_follower passes (h.claims message hmem)
          (h.full keeper.other) (by rwa [htie, h.tie])
        refine (h.setAgent (settles_onRequestReceived _ _ _) (fun heq =>
          absurd heq (Side.other_ne keeper)) fun _ _ => hrole).postAnswer (fun _ => ⟨hrefused, ?_⟩)
          fun heq => ?_
        · rw [agent_setAgent, if_pos rfl]
          exact hrole
        · rw [Side.other_other] at heq
          exact absurd heq.symm (Side.other_ne keeper)
    | answer transactionId answer =>
      obtain rfl := Option.some.inj hs
      refine h.setAgent (settles_onAnswer _ _ _) ?_ ?_
      · rintro rfl
        cases answer with
        | success => exact (onAnswer_success _ _).trans h.keeps
        | roleConflict => exact absurd hmem (h.accepted transactionId)
      · rintro rfl hanswered
        cases answer with
        | success => exact (onAnswer_success _ _).trans (h.gives hanswered)
        | roleConflict =>
          obtain ⟨message, hsent, hid, hrole⟩ := h.refused transactionId hmem
          refine (onAnswer_roleConflict (h.full _) fun entry hentry hentryid => ?_).elim
            (fun heq => heq.trans (h.gives hanswered)) id
          have hopened := h.opened keeper.other entry hentry
          have hunique := h.unique keeper.other entry.1 message hopened
            (by rwa [Side.other_other]) (hentryid.trans hid.symm)
          rw [hunique, hrole]

/-- **Role conflicts are repaired.**  Two agents that start in the same role, with different
tie-breakers, have different roles as soon as one check was answered in each direction, whatever the
network does, and the agent with the larger tie-breaker controls. -/
theorem roles_converge {iceControlling : Bool} (hne : tieBreaker .left ≠ tieBreaker .right)
    (h : Reachable RoleSystem.step (RoleSystem.start iceControlling tieBreaker) s)
    (hanswered : ∀ side, s.Answered side) (side : Side) :
    (s.agent side).iceControlling = decide (tieBreaker side.other < tieBreaker side) := by
  obtain ⟨keeper, hwins⟩ : ∃ keeper, Wins iceControlling tieBreaker keeper := by
    unfold Wins
    rcases lt_or_gt_of_ne hne with hlt | hlt <;> cases iceControlling
    · exact ⟨.left, hlt⟩
    · exact ⟨.right, hlt⟩
    · exact ⟨.right, hlt⟩
    · exact ⟨.left, hlt⟩
  have hI : Repairs iceControlling tieBreaker keeper s := by
    refine h.invariant _ ?_ fun s e s' hs _ hstep => hs.step hwins hstep
    exact ⟨fun _ => rfl, fun _ => rfl, nofun, nofun, nofun, rfl, nofun, nofun, nofun, nofun⟩
  have hgives := hI.gives (hanswered keeper)
  have hkeeps := hI.keeps
  rcases Side.eq_or_eq_other keeper side with rfl | rfl
  · cases iceControlling <;> simp_all [Wins, le_of_lt]
  · cases iceControlling <;> simp_all [Wins, le_of_lt]

/-- The packets of a run in which both agents start controlling and ask each other. -/
def conflictEvents : List RoleEvent :=
  [.send .left 1 .check, .send .right 2 .check,
    .deliver .right (.request ⟨1, true, 7⟩) true, .deliver .left (.request ⟨2, true, 5⟩) true,
    .deliver .right (.answer 2 .roleConflict) true, .deliver .left (.answer 1 .success) true]

/-- The tie-breakers of this run. -/
def conflictTies : Side → ℕ
  | .left => 7
  | .right => 5

theorem roles_converge_conflictEvents : ∃ s,
    conflictEvents.foldlM RoleSystem.step (RoleSystem.start true conflictTies) = some s ∧
      (s.agent .left).iceControlling = true ∧ (s.agent .right).iceControlling = false := by
  obtain ⟨s, hs⟩ : ∃ s, conflictEvents.foldlM RoleSystem.step
    (RoleSystem.start true conflictTies) = some s := ⟨_, rfl⟩
  have hanswered : ∀ side, s.Answered side := by
    obtain rfl := Option.some.inj (hs.symm.trans rfl)
    rintro (_ | _)
    · exact ⟨1, .success, List.mem_cons_self⟩
    · exact ⟨2, .roleConflict, List.mem_cons_self⟩
  have hroles := roles_converge (by decide) (reachable_of_foldlM hs) hanswered
  exact ⟨s, hs, hroles .left, hroles .right⟩

end Werift.Ice
