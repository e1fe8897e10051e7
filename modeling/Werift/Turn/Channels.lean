import Werift.Lib.SerialQueue
import Werift.Lib.Transition

/-!
# The channels of a TURN client (`ice/src/turn/protocol.ts`)

`getPermission` and `getChannel` put what they ask the server for into a queue each.  A transaction may succeed
or fail at any time; a client that binds a new channel takes the next number, without looking whether there is
one (`run_safe`, `not_safe_channelsExhausted`).
-/

namespace Werift.Turn

open Transition

/-- The address of a peer: the IP address and the port. -/
abbrev PeerAddress := String × ℕ

/-- `TurnChannel`. -/
structure TurnChannel where
  number : ℕ
  address : PeerAddress
  refreshAt : ℕ
deriving DecidableEq

/-- The fields of a `TurnProtocol` for permissions and channels.  `binding i` is the channel that the operation
`i` of the queue binds, and whether it is a new one; `channelBinds` are the numbers and the peers of the requests
that have been sent. -/
structure ChannelTable where
  channelRefreshTime : ℕ := 500
  channelNumber : ℕ := 0x4000
  channelByAddr : PeerAddress → Option TurnChannel := fun _ => none
  addrByChannel : ℕ → Option PeerAddress := fun _ => none
  channelBindQueue : SerialQueue PeerAddress := {}
  permissionByAddr : String → Bool := fun _ => false
  permissionQueue : SerialQueue String := {}
  binding : ℕ → Option (TurnChannel × Bool) := fun _ => none
  channelBinds : List (ℕ × PeerAddress) := []

namespace ChannelTable

open Function

variable (s : ChannelTable)

/-- `getPermission(addr)`, up to the point where it waits. -/
def getPermission (addr : PeerAddress) : ChannelTable :=
  if s.permissionByAddr addr.1 = true ∨ (s.permissionQueue.inFlight addr.1).isSome then s
  else { s with permissionQueue := s.permissionQueue.enqueue addr.1 }

/-- The operation of `getPermission` begins: it has nothing to do, or sends a request. -/
def startPermission (i : ℕ) : Option ChannelTable := do
  let (key, queue) ← s.permissionQueue.start i
  if s.permissionByAddr key = true then
    let (_, queue) ← queue.settle i
    some { s with permissionQueue := queue }
  else some { s with permissionQueue := queue }

/-- The request of `createPermission` ends. -/
def permissionSettled (i : ℕ) (success : Bool) : Option ChannelTable := do
  let (key, queue) ← s.permissionQueue.settle i
  some { s with
    permissionQueue := queue
    permissionByAddr := if success then update s.permissionByAddr key true else s.permissionByAddr }

/-- The end of `getPermission`. -/
def permissionCleanUp (i : ℕ) : Option ChannelTable :=
  (s.permissionQueue.cleanUp i).map fun queue => { s with permissionQueue := queue }

/-- A channel that is bound and need not be refreshed. -/
def isFresh (addr : PeerAddress) (now : ℕ) : Prop := ∃ channel ∈ s.channelByAddr addr, now < channel.refreshAt

instance (addr : PeerAddress) (now : ℕ) : Decidable (s.isFresh addr now) :=
  decidable_of_iff ((s.channelByAddr addr).any fun channel => now < channel.refreshAt) (by
    simp [isFresh, Option.any_eq_true])

/-- `getChannel(addr)`, up to the point where it waits. -/
def getChannel (addr : PeerAddress) (now : ℕ) : ChannelTable :=
  if (s.channelBindQueue.inFlight addr).isSome ∨ s.isFresh addr now then s
  else { s with channelBindQueue := s.channelBindQueue.enqueue addr }

/-- A new channel, with its provisional mapping. -/
def newChannel (addr : PeerAddress) : TurnChannel × ChannelTable :=
  let channel : TurnChannel := { number := s.channelNumber, address := addr, refreshAt := 0 }
  (channel, { s with
    channelNumber := s.channelNumber + 1
    channelByAddr := update s.channelByAddr addr (some channel)
    addrByChannel := update s.addrByChannel channel.number (some addr) })

/-- `channelBind(channelNumber, addr)` for the operation `i`, up to the point where it waits. -/
def channelBind (i : ℕ) (channel : TurnChannel) (isNew : Bool) (addr : PeerAddress) : ChannelTable :=
  { s with
    binding := update s.binding i (some (channel, isNew))
    channelBinds := s.channelBinds ++ [(channel.number, addr)] }

/-- `ensureChannel(addr)`, up to the point where it waits. -/
def startChannel (i now : ℕ) : Option ChannelTable := do
  let (addr, queue) ← s.channelBindQueue.start i
  if s.isFresh addr now then
    let (_, queue) ← queue.settle i
    some { s with channelBindQueue := queue }
  else
    let s := { s with channelBindQueue := queue }
    match s.channelByAddr addr with
    | some channel => some (s.channelBind i channel false addr)
    | none =>
      let (channel, s) := s.newChannel addr
      some (s.channelBind i channel true addr)

/-- The request of `channelBind` ends, and `ensureChannel` with it. -/
def channelSettled (i now : ℕ) (success : Bool) : Option ChannelTable := do
  let (addr, queue) ← s.channelBindQueue.settle i
  let (channel, isNew) ← s.binding i
  let s := { s with channelBindQueue := queue, binding := update s.binding i none }
  if success then
    -- The object is in the table, if it has not been removed.
    some { s with channelByAddr := update s.channelByAddr addr ((s.channelByAddr addr).map fun current =>
      if current.number = channel.number then { current with refreshAt := now + s.channelRefreshTime }
      else current) }
  else if isNew then
    some { s with channelByAddr := update s.channelByAddr addr none
                  addrByChannel := update s.addrByChannel channel.number none }
  else some s

/-- The end of `getChannel`. -/
def channelCleanUp (i : ℕ) : Option ChannelTable :=
  (s.channelBindQueue.cleanUp i).map fun queue => { s with channelBindQueue := queue }

end ChannelTable

/-- What happens to a client, in any order.  `sendData` calls `getChannel` and, if it fails, `getPermission`. -/
inductive ChannelEvent
  | getPermission (addr : PeerAddress)
  | startPermission (i : ℕ)
  | permissionSettled (i : ℕ) (success : Bool)
  | permissionCleanUp (i : ℕ)
  | getChannel (addr : PeerAddress) (now : ℕ)
  | startChannel (i now : ℕ)
  | channelSettled (i now : ℕ) (success : Bool)
  | channelCleanUp (i : ℕ)

namespace ChannelTable

open Function

/-- One step of a client. -/
def step (s : ChannelTable) : ChannelEvent → Option ChannelTable
  | .getPermission addr => some (s.getPermission addr)
  | .startPermission i => s.startPermission i
  | .permissionSettled i success => s.permissionSettled i success
  | .permissionCleanUp i => s.permissionCleanUp i
  | .getChannel addr now => some (s.getChannel addr now)
  | .startChannel i now => s.startChannel i now
  | .channelSettled i now success => s.channelSettled i now success
  | .channelCleanUp i => s.channelCleanUp i

/-- The operation `i` has a request of `channelBind` in flight, for this peer. -/
def Binds (s : ChannelTable) (i : ℕ) (addr : PeerAddress) : Prop :=
  s.channelBindQueue.operations[i]? = some (addr, .running) ∧ (s.binding i).isSome = true

/-- **The table is safe**: a peer has at most one bind in flight, numbers are channel numbers, no number has been
bound to two peers, and the maps are inverse to each other. -/
structure Safe (s : ChannelTable) : Prop where
  bind : ∀ i j addr, s.Binds i addr → s.Binds j addr → i = j
  range : ∀ x ∈ s.channelBinds, 0x4000 ≤ x.1 ∧ x.1 ≤ 0x7fff
  peer : ∀ n addr addr', (n, addr) ∈ s.channelBinds → (n, addr') ∈ s.channelBinds → addr = addr'
  inverse : ∀ addr n, s.addrByChannel n = some addr ↔
    ∃ channel, s.channelByAddr addr = some channel ∧ channel.number = n

/-- A transaction has failed and changes at most the channel of its own peer. -/
def Isolated (s : ChannelTable) (e : ChannelEvent) (s' : ChannelTable) : Prop :=
  match e with
  | .permissionSettled _ false => s'.permissionByAddr = s.permissionByAddr ∧
      s'.channelByAddr = s.channelByAddr ∧ s'.addrByChannel = s.addrByChannel
  | .channelSettled i _ false => s'.permissionByAddr = s.permissionByAddr ∧
      ∀ addr, s.Binds i addr → ∀ other ≠ addr, s'.channelByAddr other = s.channelByAddr other ∧
        ∀ n, s'.addrByChannel n = some other ↔ s.addrByChannel n = some other
  | _ => True

/-- A number is left if the event takes one. -/
def NumberLeft (s : ChannelTable) : ChannelEvent → Prop
  | .startChannel i _ => ∀ addr, s.channelBindQueue.operations[i]? = some (addr, .waiting) →
      s.channelByAddr addr = none → s.channelNumber ≤ 0x7fff
  | _ => True

/-! ## The invariant -/

/-- **What holds in every state**, however many channels there are. -/
structure Consistent (s : ChannelTable) : Prop where
  channels : s.channelBindQueue.Ordered
  permissions : s.permissionQueue.Ordered
  binds : ∀ x ∈ s.channelBinds, 0x4000 ≤ x.1 ∧ x.1 < s.channelNumber
  peer : ∀ n addr addr', (n, addr) ∈ s.channelBinds → (n, addr') ∈ s.channelBinds → addr = addr'
  numbers : ∀ addr channel, s.channelByAddr addr = some channel → 0x4000 ≤ channel.number ∧
    channel.number < s.channelNumber ∧ ∀ addr', (channel.number, addr') ∈ s.channelBinds → addr' = addr
  inverse : ∀ addr n, s.addrByChannel n = some addr ↔
    ∃ channel, s.channelByAddr addr = some channel ∧ channel.number = n
  binding : ∀ i channel isNew, s.binding i = some (channel, isNew) →
    ∃ addr, s.channelBindQueue.operations[i]? = some (addr, .running) ∧
      ∃ current, s.channelByAddr addr = some current ∧ current.number = channel.number
  enough : 0x4000 ≤ s.channelNumber

variable {s s' : ChannelTable} {e : ChannelEvent} {i now : ℕ} {addr : PeerAddress} {success : Bool}

lemma consistent_empty : Consistent {} := by
  refine ⟨SerialQueue.ordered_empty, SerialQueue.ordered_empty, ?_, ?_, ?_, ?_, ?_, le_rfl⟩
  · exact fun _ h => absurd h List.not_mem_nil
  · exact fun _ _ _ h => absurd h List.not_mem_nil
  · rintro addr channel ⟨⟩
  · exact fun addr n => iff_of_false nofun fun ⟨_, h, _⟩ => nomatch h
  · rintro i channel isNew ⟨⟩

/-- Changes of the permissions do not matter for the channels. -/
lemma Consistent.withPermissions (h : Consistent s) {queue : SerialQueue String} (hqueue : queue.Ordered)
    (permissionByAddr : String → Bool) : Consistent { s with permissionQueue := queue, permissionByAddr } :=
  ⟨h.channels, hqueue, h.binds, h.peer, h.numbers, h.inverse, h.binding, h.enough⟩

lemma consistent_getPermission (h : Consistent s) (addr : PeerAddress) : Consistent (s.getPermission addr) := by
  rw [ChannelTable.getPermission]
  split_ifs with hskip
  · exact h
  · rw [not_or, Option.not_isSome_iff_eq_none] at hskip
    exact h.withPermissions (h.permissions.enqueue hskip.2) _

lemma consistent_startPermission (h : Consistent s) (hstep : s.startPermission i = some s') : Consistent s' := by
  obtain ⟨⟨key, queue⟩, hstart, hstep⟩ := Option.bind_eq_some_iff.mp hstep
  obtain ⟨hordered, -, -⟩ := h.permissions.start hstart
  dsimp only at hstep
  split_ifs at hstep
  · obtain ⟨⟨key', queue'⟩, hsettle, hstep⟩ := Option.bind_eq_some_iff.mp hstep
    cases hstep
    exact h.withPermissions (hordered.settle hsettle).1 _
  · cases hstep
    exact h.withPermissions hordered _

lemma consistent_permissionSettled (h : Consistent s) (hstep : s.permissionSettled i success = some s') :
    Consistent s' := by
  obtain ⟨⟨key, queue⟩, hsettle, hstep⟩ := Option.bind_eq_some_iff.mp hstep
  cases hstep
  exact h.withPermissions (h.permissions.settle hsettle).1 _

lemma consistent_permissionCleanUp (h : Consistent s) (hstep : s.permissionCleanUp i = some s') :
    Consistent s' := by
  obtain ⟨queue, hclean, rfl⟩ := Option.map_eq_some_iff.mp hstep
  exact h.withPermissions (h.permissions.cleanUp hclean).1 _

lemma consistent_getChannel (h : Consistent s) (addr : PeerAddress) (now : ℕ) :
    Consistent (s.getChannel addr now) := by
  rw [ChannelTable.getChannel]
  split_ifs with hskip
  · exact h
  · rw [not_or, Option.not_isSome_iff_eq_none] at hskip
    refine ⟨h.channels.enqueue hskip.1, h.permissions, h.binds, h.peer, h.numbers, h.inverse, ?_, h.enough⟩
    intro i channel isNew hbinding
    obtain ⟨addr', hrunning, hcurrent⟩ := h.binding i channel isNew hbinding
    obtain ⟨hlt, -⟩ := List.getElem?_eq_some_iff.mp hrunning
    exact ⟨addr', (List.getElem?_append_left hlt).trans hrunning, hcurrent⟩

lemma consistent_channelCleanUp (h : Consistent s) (hstep : s.channelCleanUp i = some s') : Consistent s' := by
  obtain ⟨queue, hclean, rfl⟩ := Option.map_eq_some_iff.mp hstep
  obtain ⟨hordered, hoperations⟩ := h.channels.cleanUp hclean
  refine ⟨hordered, h.permissions, h.binds, h.peer, h.numbers, h.inverse, ?_, h.enough⟩
  intro j channel isNew hbinding
  dsimp only
  rw [hoperations]
  exact h.binding j channel isNew hbinding

/-- **Sending a request** for a channel of the table. -/
lemma Consistent.channelBind (h : Consistent s) {channel : TurnChannel} (isNew : Bool)
    (hchannel : s.channelByAddr addr = some channel)
    (hrunning : s.channelBindQueue.operations[i]? = some (addr, .running)) :
    Consistent (s.channelBind i channel isNew addr) := by
  obtain ⟨hlow, hhigh, hpeer⟩ := h.numbers addr channel hchannel
  have hmem : ∀ n addr', (n, addr') ∈ (s.channelBind i channel isNew addr).channelBinds ↔
      (n, addr') ∈ s.channelBinds ∨ n = channel.number ∧ addr' = addr := by
    intro n addr'
    rw [ChannelTable.channelBind, List.mem_append, List.mem_singleton, Prod.mk.injEq]
  refine ⟨h.channels, h.permissions, ?_, ?_, ?_, h.inverse, ?_, h.enough⟩
  · rintro ⟨n, addr'⟩ hx
    rcases (hmem n addr').mp hx with hold | ⟨rfl, -⟩
    · exact h.binds _ hold
    · exact ⟨hlow, hhigh⟩
  · intro n first second hfirst hsecond
    rcases (hmem n first).mp hfirst with hold | ⟨rfl, rfl⟩
    · rcases (hmem n second).mp hsecond with hold' | ⟨rfl, rfl⟩
      · exact h.peer n first second hold hold'
      · exact hpeer first hold
    · rcases (hmem _ second).mp hsecond with hold | ⟨-, rfl⟩
      · exact (hpeer second hold).symm
      · rfl
  · intro other current hcurrent
    obtain ⟨hlow', hhigh', hpeer'⟩ := h.numbers other current hcurrent
    refine ⟨hlow', hhigh', fun addr' haddr' => ?_⟩
    rcases (hmem _ addr').mp haddr' with hold | ⟨hnumber, rfl⟩
    · exact hpeer' addr' hold
    · -- Two peers with one number are one peer.
      have hback := (h.inverse addr' _).mpr ⟨channel, hchannel, rfl⟩
      rw [← hnumber] at hback
      have hback' := (h.inverse other _).mpr ⟨current, hcurrent, rfl⟩
      rw [hback] at hback'
      exact Option.some.inj hback'
  · intro j current isNew' hbinding
    dsimp only [ChannelTable.channelBind] at hbinding
    by_cases hj : j = i
    · rw [hj, update_self] at hbinding
      cases hbinding
      rw [hj]
      exact ⟨addr, hrunning, channel, hchannel, rfl⟩
    · rw [update_of_ne hj] at hbinding
      exact h.binding j current isNew' hbinding

/-- **A new channel** has a number that no peer has. -/
lemma Consistent.newChannel (h : Consistent s) (haddr : s.channelByAddr addr = none) :
    Consistent (s.newChannel addr).2 := by
  have hfree : s.addrByChannel s.channelNumber = none := by
    by_contra hused
    obtain ⟨other, hother⟩ := Option.ne_none_iff_exists'.mp hused
    obtain ⟨channel, hchannel, hnumber⟩ := (h.inverse other _).mp hother
    have hlt := (h.numbers other channel hchannel).2.1
    omega
  refine ⟨h.channels, h.permissions, fun x hx => ?_, h.peer, ?_, ?_, ?_, ?_⟩
  · obtain ⟨hlow, hhigh⟩ := h.binds x hx
    exact ⟨hlow, hhigh.trans (Nat.lt_succ_self _)⟩
  · intro other channel hchannel
    dsimp only [ChannelTable.newChannel] at hchannel ⊢
    by_cases hsame : other = addr
    · subst hsame
      rw [update_self] at hchannel
      cases hchannel
      refine ⟨h.enough, Nat.lt_succ_self _, fun addr' haddr' => ?_⟩
      exact absurd (h.binds _ haddr').2 (lt_irrefl _)
    · rw [update_of_ne hsame] at hchannel
      obtain ⟨hlow, hhigh, hpeer⟩ := h.numbers other channel hchannel
      exact ⟨hlow, hhigh.trans (Nat.lt_succ_self _), hpeer⟩
  · intro other n
    dsimp only [ChannelTable.newChannel]
    by_cases hsame : other = addr
    · subst hsame
      rw [update_self]
      by_cases hn : n = s.channelNumber
      · rw [hn, update_self]
        exact iff_of_true rfl ⟨_, rfl, rfl⟩
      · rw [update_of_ne hn]
        refine iff_of_false (fun hback => ?_) fun ⟨channel, hchannel, hnumber⟩ => ?_
        · obtain ⟨channel, hchannel, -⟩ := (h.inverse other n).mp hback
          rw [haddr] at hchannel
          cases hchannel
        · cases hchannel
          exact hn hnumber.symm
    · rw [update_of_ne hsame]
      by_cases hn : n = s.channelNumber
      · rw [hn, update_self, ← h.inverse, hfree]
        exact iff_of_false (fun hsome => hsame (Option.some.inj hsome).symm) nofun
      · rw [update_of_ne hn]
        exact h.inverse other n
  · intro j channel isNew hbinding
    obtain ⟨addr', hj, current, hcurrent, hnumber⟩ := h.binding j channel isNew hbinding
    dsimp only [ChannelTable.newChannel]
    have hother : addr' ≠ addr := by
      rintro rfl
      rw [haddr] at hcurrent
      cases hcurrent
    exact ⟨addr', hj, current, (update_of_ne hother _ _).trans hcurrent, hnumber⟩
  · exact h.enough.trans (Nat.le_succ _)

/-- With another queue, in which what binds a channel still runs. -/
lemma Consistent.withQueue (h : Consistent s) {queue : SerialQueue PeerAddress} (hqueue : queue.Ordered)
    (hrunning : ∀ (j : ℕ) (addr : PeerAddress),
      s.channelBindQueue.operations[j]? = some (addr, SerialQueue.Status.running) →
      queue.operations[j]? = some (addr, SerialQueue.Status.running)) :
    Consistent { s with channelBindQueue := queue } := by
  refine ⟨hqueue, h.permissions, h.binds, h.peer, h.numbers, h.inverse, ?_, h.enough⟩
  intro j channel isNew hbinding
  obtain ⟨addr, hj, hcurrent⟩ := h.binding j channel isNew hbinding
  exact ⟨addr, hrunning j addr hj, hcurrent⟩

lemma consistent_startChannel (h : Consistent s) (hstep : s.startChannel i now = some s') : Consistent s' := by
  obtain ⟨⟨addr, queue⟩, hstart, hstep⟩ := Option.bind_eq_some_iff.mp hstep
  obtain ⟨hordered, hwaiting, rfl⟩ := h.channels.start hstart
  have hi : (s.channelBindQueue.setStatus i .running).operations[i]? = some (addr, .running) :=
    SerialQueue.getElem?_setStatus_eq_some.mpr (by rw [if_pos rfl]; exact ⟨rfl, _, hwaiting⟩)
  have hkeep : ∀ (status : SerialQueue.Status) (j : ℕ) (addr' : PeerAddress),
      s.channelBindQueue.operations[j]? = some (addr', SerialQueue.Status.running) →
      (s.channelBindQueue.setStatus i status).operations[j]? = some (addr', SerialQueue.Status.running) := by
    intro status j addr' hj
    refine SerialQueue.getElem?_setStatus_eq_some.mpr ?_
    rw [if_neg]
    · exact hj
    · rintro rfl
      rw [hwaiting] at hj
      cases hj
  have hstarted := h.withQueue hordered (hkeep .running)
  dsimp only at hstep
  split_ifs at hstep
  · obtain ⟨⟨addr', queue'⟩, hsettle, hstep⟩ := Option.bind_eq_some_iff.mp hstep
    cases hstep
    obtain ⟨hordered', -, rfl⟩ := hordered.settle hsettle
    refine h.withQueue hordered' fun j addr'' hj => ?_
    refine SerialQueue.getElem?_setStatus_eq_some.mpr ?_
    rw [if_neg]
    · exact hkeep .running j addr'' hj
    · rintro rfl
      rw [hwaiting] at hj
      cases hj
  · cases hchannel : s.channelByAddr addr with
    | some channel =>
      rw [hchannel] at hstep
      cases hstep
      exact hstarted.channelBind false hchannel hi
    | none =>
      rw [hchannel] at hstep
      cases hstep
      exact (hstarted.newChannel hchannel).channelBind true (update_self ..) hi

/-- **The end of a bind.** -/
lemma consistent_channelSettled (h : Consistent s) (hstep : s.channelSettled i now success = some s') :
    Consistent s' := by
  obtain ⟨⟨addr, queue⟩, hsettle, hstep⟩ := Option.bind_eq_some_iff.mp hstep
  obtain ⟨⟨channel, isNew⟩, hbinding, hstep⟩ := Option.bind_eq_some_iff.mp hstep
  obtain ⟨hordered, hrunning, rfl⟩ := h.channels.settle hsettle
  obtain ⟨addr', hi, current, hcurrent, hnumber⟩ := h.binding i channel isNew hbinding
  rw [hrunning] at hi
  cases hi
  -- No other operation has a bind in flight.
  have hnone : ∀ j, update s.binding i none j = none := by
    intro j
    by_cases hj : j = i
    · rw [hj, update_self]
    · rw [update_of_ne hj]
      by_contra hsome
      obtain ⟨⟨channel', isNew'⟩, hother⟩ := Option.ne_none_iff_exists'.mp hsome
      obtain ⟨addr', hj', -⟩ := h.binding j channel' isNew' hother
      exact hj (h.channels.running_unique hj' hrunning)
  dsimp only at hstep
  split_ifs at hstep
  · cases hstep
    have hchannels : ∀ other, update s.channelByAddr addr ((s.channelByAddr addr).map fun current =>
        if current.number = channel.number then { current with refreshAt := now + s.channelRefreshTime }
        else current) other = (s.channelByAddr other).map fun current =>
          if other = addr ∧ current.number = channel.number then
            { current with refreshAt := now + s.channelRefreshTime } else current := by
      intro other
      by_cases hother : other = addr
      · rw [hother, update_self]
        refine congrArg (Option.map · _) (funext fun current => ?_)
        exact if_congr (by simp) rfl rfl
      · rw [update_of_ne hother]
        simp [hother]
    have hnumbers : ∀ (c : Prop) [Decidable c] (current : TurnChannel) refreshAt,
        (if c then { current with refreshAt } else current).number = current.number := by
      intro c _ current refreshAt
      split_ifs <;> rfl
    refine ⟨hordered, h.permissions, h.binds, h.peer, ?_, ?_, ?_, h.enough⟩
    · intro other found hfound
      dsimp only at hfound
      rw [hchannels] at hfound
      obtain ⟨old, hold, rfl⟩ := Option.map_eq_some_iff.mp hfound
      rw [hnumbers]
      exact h.numbers other old hold
    · intro other n
      dsimp only
      rw [h.inverse, hchannels]
      constructor
      · rintro ⟨old, hold, rfl⟩
        rw [hold]
        exact ⟨_, rfl, hnumbers _ _ _⟩
      · rintro ⟨found, hfound, rfl⟩
        obtain ⟨old, hold, rfl⟩ := Option.map_eq_some_iff.mp hfound
        exact ⟨old, hold, (hnumbers _ _ _).symm⟩
    · intro j channel' isNew' hj
      dsimp only at hj
      rw [hnone] at hj
      cases hj
  · cases hstep
    refine ⟨hordered, h.permissions, h.binds, h.peer, ?_, ?_, ?_, h.enough⟩
    · intro other found hfound
      dsimp only at hfound
      by_cases hother : other = addr
      · rw [hother, update_self] at hfound
        cases hfound
      · rw [update_of_ne hother] at hfound
        exact h.numbers other found hfound
    · intro other n
      dsimp only
      have hback := (h.inverse addr channel.number).mpr ⟨current, hcurrent, hnumber⟩
      by_cases hn : n = channel.number
      · rw [hn, update_self]
        refine iff_of_false nofun ?_
        rintro ⟨found, hfound, hfoundNumber⟩
        by_cases hother : other = addr
        · rw [hother, update_self] at hfound
          cases hfound
        · rw [update_of_ne hother] at hfound
          have hback' := (h.inverse other channel.number).mpr ⟨found, hfound, hfoundNumber⟩
          rw [hback] at hback'
          exact hother (Option.some.inj hback').symm
      · rw [update_of_ne hn, h.inverse]
        by_cases hother : other = addr
        · rw [hother, update_self]
          refine iff_of_false ?_ fun ⟨_, hfound, _⟩ => nomatch hfound
          rintro ⟨found, hfound, hfoundNumber⟩
          rw [hcurrent] at hfound
          cases hfound
          exact hn (hfoundNumber.symm.trans hnumber)
        · rw [update_of_ne hother]
    · intro j channel' isNew' hj
      dsimp only at hj
      rw [hnone] at hj
      cases hj
  · cases hstep
    refine ⟨hordered, h.permissions, h.binds, h.peer, h.numbers, h.inverse, ?_, h.enough⟩
    intro j channel' isNew' hj
    dsimp only at hj
    rw [hnone] at hj
    cases hj

/-- **Every step** keeps the table consistent. -/
lemma consistent_step (h : Consistent s) (hstep : s.step e = some s') : Consistent s' := by
  cases e with
  | getPermission addr => exact Option.some.inj hstep ▸ consistent_getPermission h addr
  | startPermission i => exact consistent_startPermission h hstep
  | permissionSettled i success => exact consistent_permissionSettled h hstep
  | permissionCleanUp i => exact consistent_permissionCleanUp h hstep
  | getChannel addr now => exact Option.some.inj hstep ▸ consistent_getChannel h addr now
  | startChannel i now => exact consistent_startChannel h hstep
  | channelSettled i now success => exact consistent_channelSettled h hstep
  | channelCleanUp i => exact consistent_channelCleanUp h hstep

/-! ## Numbers -/

/-- **The next number** grows only when a new channel takes it. -/
lemma channelNumber_step (hleft : s.NumberLeft e) (hstep : s.step e = some s')
    (h : s.channelNumber ≤ 0x8000) : s'.channelNumber ≤ 0x8000 := by
  cases e with
  | getPermission addr =>
    obtain rfl := Option.some.inj hstep
    rw [ChannelTable.getPermission]
    split_ifs <;> exact h
  | startPermission i =>
    obtain ⟨x, -, hstep⟩ := Option.bind_eq_some_iff.mp hstep
    dsimp only at hstep
    split_ifs at hstep
    · obtain ⟨y, -, hstep⟩ := Option.bind_eq_some_iff.mp hstep
      cases hstep
      exact h
    · cases hstep
      exact h
  | permissionSettled i success =>
    obtain ⟨x, -, hstep⟩ := Option.bind_eq_some_iff.mp hstep
    cases hstep
    exact h
  | permissionCleanUp i =>
    obtain ⟨queue, -, rfl⟩ := Option.map_eq_some_iff.mp hstep
    exact h
  | getChannel addr now =>
    obtain rfl := Option.some.inj hstep
    rw [ChannelTable.getChannel]
    split_ifs <;> exact h
  | startChannel i now =>
    obtain ⟨⟨addr, queue⟩, hstart, hstep⟩ := Option.bind_eq_some_iff.mp hstep
    dsimp only at hstep
    split_ifs at hstep
    · obtain ⟨y, -, hstep⟩ := Option.bind_eq_some_iff.mp hstep
      cases hstep
      exact h
    · cases hchannel : s.channelByAddr addr with
      | some channel =>
        rw [hchannel] at hstep
        cases hstep
        exact h
      | none =>
        rw [hchannel] at hstep
        cases hstep
        have hwaiting : s.channelBindQueue.operations[i]? = some (addr, .waiting) := by
          rw [SerialQueue.start] at hstart
          split_ifs at hstart
          obtain ⟨key, hkey, heq⟩ := Option.map_eq_some_iff.mp hstart
          cases heq
          exact SerialQueue.keyOf_eq_some.mp hkey
        have hle := hleft addr hwaiting hchannel
        change s.channelNumber + 1 ≤ 0x8000
        omega
  | channelSettled i now success =>
    obtain ⟨x, -, hstep⟩ := Option.bind_eq_some_iff.mp hstep
    obtain ⟨y, -, hstep⟩ := Option.bind_eq_some_iff.mp hstep
    dsimp only at hstep
    split_ifs at hstep <;> cases hstep <;> exact h
  | channelCleanUp i =>
    obtain ⟨queue, -, rfl⟩ := Option.map_eq_some_iff.mp hstep
    exact h

/-- A consistent table with few channels is safe. -/
lemma Consistent.safe (h : Consistent s) (hnumber : s.channelNumber ≤ 0x8000) : Safe s := by
  refine ⟨?_, fun x hx => ?_, h.peer, h.inverse⟩
  · rintro i j addr ⟨hi, -⟩ ⟨hj, -⟩
    exact h.channels.running_unique hi hj
  · obtain ⟨hlow, hhigh⟩ := h.binds x hx
    omega

/-- **A failure** of one peer does not concern the others. -/
lemma Consistent.isolated (h : Consistent s) (hstep : s.step e = some s') : Isolated s e s' := by
  cases e with
  | permissionSettled i success =>
    cases success with
    | true => trivial
    | false =>
      obtain ⟨x, -, hstep⟩ := Option.bind_eq_some_iff.mp hstep
      cases hstep
      exact ⟨rfl, rfl, rfl⟩
  | channelSettled i now success =>
    cases success with
    | true => trivial
    | false =>
      obtain ⟨⟨addr, queue⟩, hsettle, hstep⟩ := Option.bind_eq_some_iff.mp hstep
      obtain ⟨⟨channel, isNew⟩, hbinding, hstep⟩ := Option.bind_eq_some_iff.mp hstep
      obtain ⟨-, hrunning, -⟩ := h.channels.settle hsettle
      obtain ⟨addr', hi, current, hcurrent, hnumber⟩ := h.binding i channel isNew hbinding
      rw [hrunning] at hi
      cases hi
      dsimp only at hstep
      rw [if_neg Bool.false_ne_true] at hstep
      have hown : ∀ addr', s.Binds i addr' → addr' = addr := by
        rintro addr' ⟨hi, -⟩
        rw [hrunning] at hi
        cases hi
        rfl
      split_ifs at hstep
      · cases hstep
        refine ⟨rfl, fun addr' haddr' other hother => ?_⟩
        rw [hown addr' haddr'] at hother
        refine ⟨update_of_ne hother _ _, fun n => ?_⟩
        dsimp only
        by_cases hn : n = channel.number
        · have hback := (h.inverse addr channel.number).mpr ⟨current, hcurrent, hnumber⟩
          rw [hn, update_self, hback]
          exact iff_of_false nofun fun heq => hother (Option.some.inj heq).symm
        · rw [update_of_ne hn]
      · cases hstep
        exact ⟨rfl, fun _ _ _ _ => ⟨rfl, fun _ => Iff.rfl⟩⟩
  | _ => trivial

/-- **In every run** in which a new channel finds a number, the table is safe, and a failure of one peer does not
concern the others. -/
theorem run_safe (h : Run step NumberLeft {} s) :
    Safe s ∧ ∀ e s', s.NumberLeft e → s.step e = some s' → Isolated s e s' := by
  have hinv : Consistent s ∧ s.channelNumber ≤ 0x8000 := by
    refine h.invariant (fun s => Consistent s ∧ s.channelNumber ≤ 0x8000) ⟨consistent_empty, by decide⟩ ?_
    rintro s e s' ⟨hconsistent, hnumber⟩ hleft hstep
    exact ⟨consistent_step hconsistent hstep, channelNumber_step hleft hstep hnumber⟩
  exact ⟨hinv.1.safe hinv.2, fun e s' _ hstep => hinv.1.isolated hstep⟩

/-! ## All numbers taken -/

/-- All operations have settled, and the peer has no channel; `k` numbers have been taken. -/
structure Idle (s : ChannelTable) (addr : PeerAddress) (k : ℕ) : Prop where
  number : s.channelNumber = 0x4000 + k
  settled : ∀ operation ∈ s.channelBindQueue.operations, operation.2 = .settled
  inFlight : s.channelBindQueue.inFlight addr = none
  channel : s.channelByAddr addr = none

/-- The operation that the peer asks for begins. -/
lemma Idle.start {k : ℕ} (h : Idle s addr k) : ∃ s' i, Reachable step s s' ∧
    s'.channelBindQueue = (s.channelBindQueue.enqueue addr).setStatus i .running ∧
    i = s.channelBindQueue.operations.length ∧ s'.channelNumber = 0x4000 + (k + 1) ∧
    (∃ channel, s'.binding i = some (channel, true)) ∧ (0x4000 + k, addr) ∈ s'.channelBinds := by
  have hfresh : ¬s.isFresh addr 0 := by
    rintro ⟨channel, hchannel, -⟩
    rw [h.channel] at hchannel
    cases hchannel
  have hget : s.getChannel addr 0 = { s with channelBindQueue := s.channelBindQueue.enqueue addr } := by
    rw [ChannelTable.getChannel, if_neg]
    rw [not_or, h.inFlight]
    exact ⟨Bool.false_ne_true, hfresh⟩
  have hlast : (s.channelBindQueue.enqueue addr).operations[s.channelBindQueue.operations.length]? =
      some (addr, .waiting) := List.getElem?_concat_length ..
  have htake : (s.channelBindQueue.enqueue addr).operations.take s.channelBindQueue.operations.length =
      s.channelBindQueue.operations := List.take_left
  set queue := (s.channelBindQueue.enqueue addr).setStatus s.channelBindQueue.operations.length .running
    with hqueue
  have hstart : (s.channelBindQueue.enqueue addr).start s.channelBindQueue.operations.length =
      some (addr, queue) := by
    rw [SerialQueue.start, htake, if_pos h.settled, SerialQueue.keyOf_eq_some.mpr hlast]
    rfl
  have hbegin : (s.getChannel addr 0).startChannel s.channelBindQueue.operations.length 0 =
      some (({ s with channelBindQueue := queue } : ChannelTable).newChannel addr |>.2.channelBind
        s.channelBindQueue.operations.length ⟨s.channelNumber, addr, 0⟩ true addr) := by
    rw [hget, ChannelTable.startChannel]
    dsimp only
    rw [hstart, Option.bind_eq_bind, Option.bind_some]
    dsimp only
    rw [if_neg (show ¬({ s with channelBindQueue := s.channelBindQueue.enqueue addr } : ChannelTable).isFresh
      addr 0 from hfresh), h.channel]
    rfl
  refine ⟨_, _, (Run.start.next (e := .getChannel addr 0) trivial rfl).next
    (e := .startChannel s.channelBindQueue.operations.length 0) trivial hbegin, rfl, rfl, ?_,
    ⟨_, update_self ..⟩, ?_⟩
  · change s.channelNumber + 1 = _
    rw [h.number]
    rfl
  · refine List.mem_append_right _ ?_
    rw [List.mem_singleton, h.number]

/-- A bind that fails takes a number. -/
lemma Idle.next {k : ℕ} (h : Idle s addr k) : ∃ s', Reachable step s s' ∧ Idle s' addr (k + 1) := by
  obtain ⟨s₁, i, hrun, hqueue, rfl, hnumber, ⟨channel, hbinding⟩, -⟩ := h.start
  set i := s.channelBindQueue.operations.length
  have hlast : (s.channelBindQueue.enqueue addr).operations[i]? = some (addr, .waiting) :=
    List.getElem?_concat_length ..
  have hrunning : s₁.channelBindQueue.operations[i]? = some (addr, .running) := by
    rw [hqueue, SerialQueue.getElem?_setStatus_eq_some, if_pos rfl]
    exact ⟨rfl, _, hlast⟩
  have hsettle : s₁.channelBindQueue.settle i = some (addr, s₁.channelBindQueue.setStatus i .settled) := by
    rw [SerialQueue.settle, SerialQueue.keyOf_eq_some.mpr hrunning]
    rfl
  have hsettled : (s₁.channelBindQueue.setStatus i .settled).operations[i]? = some (addr, .settled) := by
    rw [SerialQueue.getElem?_setStatus_eq_some, if_pos rfl]
    exact ⟨rfl, _, hrunning⟩
  have hflight : (s₁.channelBindQueue.setStatus i .settled).inFlight addr = some i := by
    rw [hqueue]
    exact update_self ..
  have hfailed : step s₁ (.channelSettled i 0 false) = some { s₁ with
      channelBindQueue := s₁.channelBindQueue.setStatus i .settled
      binding := update s₁.binding i none
      channelByAddr := update s₁.channelByAddr addr none
      addrByChannel := update s₁.addrByChannel channel.number none } := by
    rw [step, ChannelTable.channelSettled, hsettle, Option.bind_eq_bind, Option.bind_some]
    dsimp only
    rw [hbinding, Option.bind_eq_bind, Option.bind_some]
    rfl
  have hclean : step { s₁ with
      channelBindQueue := s₁.channelBindQueue.setStatus i .settled
      binding := update s₁.binding i none
      channelByAddr := update s₁.channelByAddr addr none
      addrByChannel := update s₁.addrByChannel channel.number none } (.channelCleanUp i) = some { s₁ with
      channelBindQueue := { s₁.channelBindQueue.setStatus i .settled with
        inFlight := update (s₁.channelBindQueue.setStatus i .settled).inFlight addr none }
      binding := update s₁.binding i none
      channelByAddr := update s₁.channelByAddr addr none
      addrByChannel := update s₁.addrByChannel channel.number none } := by
    rw [step, ChannelTable.channelCleanUp, SerialQueue.cleanUp, SerialQueue.keyOf_eq_some.mpr hsettled,
      Option.map_some, if_pos hflight]
    rfl
  refine ⟨_, (hrun.next trivial hfailed).next trivial hclean, hnumber, ?_, update_self .., update_self ..⟩
  rintro ⟨key, status⟩ hmem
  obtain ⟨j, hj⟩ := List.mem_iff_getElem?.mp hmem
  have hj' := SerialQueue.getElem?_setStatus_eq_some.mp hj
  split_ifs at hj' with hij
  · exact hj'.1
  · rw [hqueue] at hj'
    have hold := SerialQueue.getElem?_setStatus_eq_some.mp hj'
    rw [if_neg hij] at hold
    dsimp only [SerialQueue.enqueue] at hold
    rw [List.getElem?_append] at hold
    split_ifs at hold with hlt
    · exact h.settled _ (List.mem_of_getElem? hold)
    · rw [List.getElem?_singleton] at hold
      split_ifs at hold with hzero
      omega

/-- As many numbers as one likes are taken. -/
lemma exists_idle (addr : PeerAddress) (k : ℕ) : ∃ s, Reachable step {} s ∧ Idle s addr k := by
  induction k with
  | zero => exact ⟨{}, .start, rfl, fun _ h => absurd h List.not_mem_nil, rfl, rfl⟩
  | succ k ih =>
    obtain ⟨s, hrun, hidle⟩ := ih
    obtain ⟨s', hrun', hidle'⟩ := hidle.next
    exact ⟨s', hrun.trans hrun', hidle'⟩

/-- **After 16384 binds that have failed** the next one has the number `0x8000`. -/
theorem not_safe_channelsExhausted : ∃ s, Reachable step {} s ∧ ¬Safe s ∧
    (0x8000, (("192.0.2.1", 5000) : PeerAddress)) ∈ s.channelBinds := by
  obtain ⟨s, hrun, hidle⟩ := exists_idle ("192.0.2.1", 5000) 0x4000
  obtain ⟨s', i, hrun', -, -, -, -, hbind⟩ := hidle.start
  refine ⟨s', hrun.trans hrun', fun hsafe => ?_, hbind⟩
  exact absurd (hsafe.range _ hbind).2 (by decide)

/-- Two peers ask for channels; the bind of the first one fails, the other one is bound. -/
theorem run_safe_twoPeers : ∃ s, Run step NumberLeft {} s ∧
    s.channelBinds = [(0x4000, ("192.0.2.1", 5000)), (0x4001, ("192.0.2.2", 5000))] ∧
    s.addrByChannel 0x4000 = none ∧ s.addrByChannel 0x4001 = some ("192.0.2.2", 5000) ∧ Safe s := by
  have hrun : ∃ s, Run step NumberLeft {} s ∧
      s.channelBinds = [(0x4000, ("192.0.2.1", 5000)), (0x4001, ("192.0.2.2", 5000))] ∧
      s.addrByChannel 0x4000 = none ∧ s.addrByChannel 0x4001 = some ("192.0.2.2", 5000) := by
    have hgood : ∀ (s : ChannelTable) (e : ChannelEvent), decide (s.channelNumber ≤ 0x7fff) = true →
        s.NumberLeft e := by
      intro s e hcheck
      cases e with
      | startChannel i now => exact fun _ _ _ => of_decide_eq_true hcheck
      | _ => trivial
    have hevents : [ChannelEvent.getChannel ("192.0.2.1", 5000) 0, .getChannel ("192.0.2.2", 5000) 0,
        .startChannel 0 0, .channelSettled 0 0 false, .startChannel 1 0, .channelSettled 1 0 true].foldlM
        (fun s e => if decide (s.channelNumber ≤ 0x7fff) then step s e else none) {} = some _ := rfl
    exact ⟨_, Run.of_checked hgood hevents, by decide, by decide, by decide⟩
  obtain ⟨s, hrun, hbinds, hfirst, hsecond⟩ := hrun
  exact ⟨s, hrun, hbinds, hfirst, hsecond, (run_safe hrun).1⟩

end ChannelTable

end Werift.Turn
