import Werift.Lib.Promises
import Werift.Lib.Transition

/-!
# The remote candidates of an agent (`ice/src/ice.ts`, `ice/src/dns/lookup.ts`)

Trickled candidates, end-of-candidates and the mDNS resolutions that they wait for, in the live
generation and beside it in a provisional one.  The two copies of the logic differ in what they
capture before an `await` and in one test before a candidate is put into the list; a `Generation` is
what they capture.

Candidates that a check discovers, `dropOtherRemoteGenerations` and the pairs that are formed with a
candidate are not part of the model.
-/

namespace Werift.Ice

open Function Promises

/-- The part of a `Candidate` that decides whether it is put into a remote candidate list. -/
structure Candidate where
  host : String
  port : ℕ
  transport : String
  type : String
deriving DecidableEq

namespace Candidate

/-- `validateRemoteCandidate(candidate)` does not throw. -/
def validateRemoteCandidate (candidate : Candidate) : Bool :=
  candidate.type ∈ ["host", "relay", "srflx"]

/-- `candidate.host.includes(".local")`. -/
def isLocal (candidate : Candidate) : Bool :=
  decide (".local".toList <:+: candidate.host.toList)

/-- The test for a candidate that a provisional generation has already. -/
def sameAddress (c candidate : Candidate) : Bool :=
  c.host == candidate.host && c.port == candidate.port &&
    c.transport.toLower == candidate.transport.toLower

end Candidate

/-- The remote half of a generation. -/
structure RemoteSide where
  remoteCandidates : List Candidate := []
  remoteCandidatesEnd : Bool := false
  remoteCandidatesEndRequested : Bool := false
  resolutions : List ℕ := []

/-- The part of a `ProvisionalGeneration` that its remote candidates depend on. -/
structure ProvisionalGeneration where
  localUsername : String := ""
  remoteUsername : Option String := none
  remotePassword : Option String := none
  remote : RemoteSide := {}
  revision : ℕ := 0

/-- What a call captures before it waits: the counter of the live generation, or the provisional
generation, an object of the heap, with its revision. -/
inductive Generation
  | live (remoteGeneration : ℕ)
  | provisional (generation revision : ℕ)
deriving DecidableEq

/-- The rest of `addRemoteCandidate` or `addProvisionalRemoteCandidate` behind its `await`. -/
inductive Continuation
  | candidate (g : Generation) (remoteCandidate : Candidate)
  | endOfCandidates (g : Generation)

/-- The part of a `Connection` that its remote candidates depend on.  `lookup` are the pending lookups
of the `MdnsLookup`, `generations` is the heap of provisional generations. -/
structure CandidateAgent where
  closed : Bool := false
  remoteGeneration : ℕ := 1
  remote : RemoteSide := {}
  lookup : Option (List ℕ) := none
  provisional : Option ℕ := none
  generations : ℕ → ProvisionalGeneration := fun _ => {}
  nextGeneration : ℕ := 0
  promises : Promises Continuation String := {}

namespace CandidateAgent

variable (a : CandidateAgent)

/-- The remote half that a call for `g` reads. -/
def remoteSide : Generation → RemoteSide
  | .live _ => a.remote
  | .provisional o _ => (a.generations o).remote

/-- The remote half that a call for `g` writes. -/
def modify (f : RemoteSide → RemoteSide) : Generation → CandidateAgent
  | .live _ => { a with remote := f a.remote }
  | .provisional o _ =>
    let generation := a.generations o
    { a with
      generations := update a.generations o { generation with remote := f generation.remote } }

section Modify

variable (f : RemoteSide → RemoteSide) (g g' : Generation)

@[simp] lemma closed_modify : (a.modify f g).closed = a.closed := by cases g <;> rfl
@[simp] lemma lookup_modify : (a.modify f g).lookup = a.lookup := by cases g <;> rfl
@[simp] lemma promises_modify : (a.modify f g).promises = a.promises := by cases g <;> rfl
@[simp] lemma provisional_modify : (a.modify f g).provisional = a.provisional := by
  cases g <;> rfl
@[simp] lemma remoteGeneration_modify : (a.modify f g).remoteGeneration = a.remoteGeneration := by
  cases g <;> rfl
@[simp] lemma nextGeneration_modify : (a.modify f g).nextGeneration = a.nextGeneration := by
  cases g <;> rfl

@[simp] lemma revision_modify (o : ℕ) :
    ((a.modify f g).generations o).revision = (a.generations o).revision := by
  cases g with
  | live n => rfl
  | provisional o' r =>
    by_cases ho : o = o'
    · simp [modify, ho]
    · simp [modify, ho]

@[simp] lemma remoteSide_modify_self : (a.modify f g).remoteSide g = f (a.remoteSide g) := by
  cases g with
  | live n => rfl
  | provisional o r => simp [modify, remoteSide]

/-- Two generations with the same remote half, or with different ones. -/
lemma remoteSide_modify : (a.modify f g).remoteSide g' = f (a.remoteSide g') ∨
    (a.modify f g).remoteSide g' = a.remoteSide g' := by
  cases g with
  | live n => cases g' <;> simp [modify, remoteSide]
  | provisional o r =>
    cases g' with
    | live n => simp [modify, remoteSide]
    | provisional o' r' =>
      by_cases ho : o' = o
      · simp [modify, remoteSide, ho]
      · simp [modify, remoteSide, ho]

end Modify

/-- `g` is the live generation, or the provisional one. -/
def Has : Generation → Prop
  | .live n => a.remoteGeneration = n
  | .provisional o r => a.provisional = some o ∧ (a.generations o).revision = r

instance decidableHas : DecidablePred a.Has
  | .live n => inferInstanceAs (Decidable (a.remoteGeneration = n))
  | .provisional o r =>
    inferInstanceAs (Decidable (a.provisional = some o ∧ (a.generations o).revision = r))

@[simp] lemma has_modify (f : RemoteSide → RemoteSide) (g g' : Generation) :
    (a.modify f g).Has g' ↔ a.Has g' := by
  cases g' <;> simp [Has]

/-- The two generations of an agent do not share their remote half. -/
lemma remoteSide_modify_of_ne {a : CandidateAgent} {g g' : Generation} (f : RemoteSide → RemoteSide)
    (hg : a.Has g) (hg' : a.Has g') (hne : g' ≠ g) :
    (a.modify f g).remoteSide g' = a.remoteSide g' := by
  cases g with
  | live n =>
    cases g' with
    | live n' => exact absurd (congrArg Generation.live (hg'.symm.trans hg)) hne
    | provisional o' r' => rfl
  | provisional o r =>
    cases g' with
    | live n' => rfl
    | provisional o' r' =>
      obtain ⟨ho, hr⟩ := hg
      obtain ⟨ho', hr'⟩ := hg'
      obtain rfl : o' = o := Option.some.inj (ho'.symm.trans ho)
      exact absurd (by rw [← hr', ← hr]) hne

/-- `current()`, and the test of `remoteGeneration` and `closed` in the live copy. -/
def current (g : Generation) : Bool := !a.closed && decide (a.Has g)

/-- The last part of adding a candidate.  Only a provisional generation looks for a duplicate. -/
def push (g : Generation) (remoteCandidate : Candidate) : CandidateAgent :=
  if !remoteCandidate.validateRemoteCandidate then a
  else
    let refused := match g with
      | .live _ => false
      | .provisional .. =>
        !a.current g || (a.remoteSide g).remoteCandidates.any (·.sameAddress remoteCandidate)
    if refused then a
    else a.modify (fun r =>
      { r with remoteCandidates := r.remoteCandidates ++ [remoteCandidate] }) g

/-- `this.lookup.lookup(host)`, awaited by `k`; nothing where no socket can be opened for a new
`MdnsLookup`. -/
def startLookup (opens : Bool) (k : Continuation) : Option (ℕ × CandidateAgent) :=
  if a.lookup.isNone && !opens then none
  else
    let (resolution, promises) := a.promises.call k
    some (resolution, { a with lookup := some (a.lookup.getD [] ++ [resolution]), promises })

/-- A call for the generation `g`, up to its first `await`. -/
def add (g : Generation) (opens : Bool) : Option Candidate → CandidateAgent
  | none =>
    let r := a.remoteSide g
    if r.remoteCandidatesEnd || r.remoteCandidatesEndRequested then a
    else
      let a := a.modify (fun r => { r with remoteCandidatesEndRequested := true }) g
      if r.resolutions.isEmpty then a.modify (fun r => { r with remoteCandidatesEnd := true }) g
      else { a with promises := a.promises.awaitAllSettled r.resolutions (.endOfCandidates g) }
  | some remoteCandidate =>
    let r := a.remoteSide g
    if r.remoteCandidatesEnd || r.remoteCandidatesEndRequested then a
    else if remoteCandidate.isLocal then
      match a.startLookup opens (.candidate g remoteCandidate) with
      | none => a
      | some (resolution, a) =>
        a.modify (fun r => { r with resolutions := r.resolutions ++ [resolution] }) g
    else a.push g remoteCandidate

/-- The generation of a call of `addRemoteCandidate`. -/
def liveGeneration : Option Generation :=
  if a.closed then none else some (.live a.remoteGeneration)

/-- The generation of a call of `addProvisionalRemoteCandidate`. -/
def provisionalGeneration : Option Generation :=
  match a.provisional with
  | none => none
  | some o => if a.closed then none else some (.provisional o (a.generations o).revision)

/-- `addRemoteCandidate(remoteCandidate)`, up to its first `await`. -/
def addRemoteCandidate (opens : Bool) (remoteCandidate : Option Candidate) : CandidateAgent :=
  match a.liveGeneration with
  | none => a
  | some g => a.add g opens remoteCandidate

/-- `addProvisionalRemoteCandidate(remoteCandidate)`, up to its first `await`. -/
def addProvisionalRemoteCandidate (opens : Bool) (remoteCandidate : Option Candidate) :
    CandidateAgent :=
  match a.provisionalGeneration with
  | none => a
  | some g => a.add g opens remoteCandidate

/-- The rest of a call, when the promise `p` that it awaits has been settled. -/
def resume (p : ℕ) : Continuation → CandidateAgent
  | .candidate g remoteCandidate =>
    let a := a.modify (fun r => { r with resolutions := r.resolutions.filter (· ≠ p) }) g
    match a.promises.outcome p with
    | some (.fulfilled host) =>
      if !a.current g || (a.remoteSide g).remoteCandidatesEnd then a
      else a.push g { remoteCandidate with host }
    | _ => a
  | .endOfCandidates g =>
    if !a.current g then a else a.modify (fun r => { r with remoteCandidatesEnd := true }) g

/-- The next job. -/
def runJob : CandidateAgent :=
  match a.promises.run with
  | (promises, none) => { a with promises }
  | (promises, some (p, k)) => { a with promises }.resume p k

/-- A pending lookup ends: with the address of a response, or by its timeout. -/
def settleLookup (resolution : ℕ) (address : Option String) : CandidateAgent :=
  match a.lookup with
  | none => a
  | some pending =>
    if resolution ∈ pending then
      { a with
        lookup := some (pending.filter (· ≠ resolution))
        promises := a.promises.settle resolution (address.elim .rejected .fulfilled) }
    else a

/-- `this.lookup?.close?.(); this.lookup = undefined`. -/
def closeLookup : CandidateAgent :=
  { a with
    lookup := none
    promises := (a.lookup.getD []).foldl (fun s p => s.settle p .rejected) a.promises }

/-- `endProvisional()`. -/
def endProvisional : CandidateAgent := { a with provisional := none }

/-- `restart()`. -/
def restart : CandidateAgent :=
  { a with remoteGeneration := a.remoteGeneration + 1, remote := {} }.closeLookup.endProvisional

/-- `restartRemote()`. -/
def restartRemote : CandidateAgent :=
  { a with remoteGeneration := a.remoteGeneration + 1, remote := {} }.endProvisional

/-- `close()`. -/
def close : CandidateAgent :=
  let a := { a with closed := true }.endProvisional.closeLookup
  { a with remote := { a.remote with resolutions := [] } }

/-- `stageLocalCredentials(usernameFragment, ..)`. -/
def stageLocalCredentials (usernameFragment : String) : CandidateAgent :=
  let a := a.endProvisional
  { a with
    provisional := some a.nextGeneration
    generations := update a.generations a.nextGeneration { localUsername := usernameFragment }
    nextGeneration := a.nextGeneration + 1 }

/-- `discardStagedLocalCredentials(usernameFragment)`. -/
def discardStagedLocalCredentials (usernameFragment : String) : CandidateAgent :=
  match a.provisional with
  | none => a
  | some o => if (a.generations o).localUsername = usernameFragment then a.endProvisional else a

/-- `setProvisionalRemoteParams({ usernameFragment, password })`. -/
def setProvisionalRemoteParams (usernameFragment password : String) : CandidateAgent :=
  match a.provisional with
  | none => a
  | some o =>
    let generation := a.generations o
    if generation.remoteUsername = some usernameFragment ∧
      generation.remotePassword = some password then a
    else { a with generations := update a.generations o { generation with
      remoteUsername := some usernameFragment
      remotePassword := some password
      remote := {}
      revision := generation.revision + 1 } }

end CandidateAgent

/-! ## Runs -/

/-- A call of the application, with the lookup that it waits for. -/
inductive Call
  | candidate (remoteCandidate : Candidate) (resolution : Option ℕ)
  | endOfCandidates
deriving DecidableEq

/-- An agent, and the calls that were made for each of its generations, the last one first. -/
structure Trickle where
  agent : CandidateAgent := {}
  calls : Generation → List Call := fun _ => []

/-- A call of the application, the end of a lookup, or the next job. -/
inductive TrickleEvent
  | addRemoteCandidate (opens : Bool) (remoteCandidate : Option Candidate)
  | addProvisionalRemoteCandidate (opens : Bool) (remoteCandidate : Option Candidate)
  | settleLookup (resolution : ℕ) (address : Option String)
  | runJob
  | restart
  | restartRemote
  | close
  | stageLocalCredentials (usernameFragment : String)
  | discardStagedLocalCredentials (usernameFragment : String)
  | setProvisionalRemoteParams (usernameFragment password : String)

namespace Trickle

/-- The call that has led from the agent `before` to the agent `after`. -/
def callOf (before after : CandidateAgent) : Option Candidate → Call
  | none => .endOfCandidates
  | some remoteCandidate => .candidate remoteCandidate
      (if before.promises.next < after.promises.next then some before.promises.next else none)

/-- A call for a generation, or for none. -/
def call (w : Trickle) (g : Option Generation) (remoteCandidate : Option Candidate)
    (after : CandidateAgent) : Trickle :=
  match g with
  | none => { w with agent := after }
  | some g =>
    { agent := after
      calls := update w.calls g (callOf w.agent after remoteCandidate :: w.calls g) }

/-- One event. -/
def step (w : Trickle) : TrickleEvent → Trickle
  | .addRemoteCandidate opens c =>
    w.call w.agent.liveGeneration c (w.agent.addRemoteCandidate opens c)
  | .addProvisionalRemoteCandidate opens c =>
    w.call w.agent.provisionalGeneration c (w.agent.addProvisionalRemoteCandidate opens c)
  | .settleLookup resolution address =>
    { w with agent := w.agent.settleLookup resolution address }
  | .runJob => { w with agent := w.agent.runJob }
  | .restart => { w with agent := w.agent.restart }
  | .restartRemote => { w with agent := w.agent.restartRemote }
  | .close => { w with agent := w.agent.close }
  | .stageLocalCredentials u => { w with agent := w.agent.stageLocalCredentials u }
  | .discardStagedLocalCredentials u => { w with agent := w.agent.discardStagedLocalCredentials u }
  | .setProvisionalRemoteParams u p =>
    { w with agent := w.agent.setProvisionalRemoteParams u p }

/-- The states that the events lead to. -/
abbrev Reachable : Trickle → Trickle → Prop :=
  Transition.Reachable fun w e => some (step w e)

end Trickle

end Werift.Ice
