import Werift.Ice.RemoteCandidates

/-!
# End-of-candidates waits for the candidates before it

A candidate with an mDNS name is the owner of its resolution, so that its continuation runs before
the element functions of the end-of-candidates that waits for it.  `Tracks` is the invariant of one
generation, `Tracked` the one of the agent.
-/

namespace Werift.Ice

open Function Promises

/-- A call for a candidate that no end-of-candidates precedes. -/
inductive GivenBeforeEnd (remoteCandidate : Candidate) (resolution : Option ℕ) : List Call → Prop
  | here {calls : List Call} (h : Call.endOfCandidates ∉ calls) :
      GivenBeforeEnd remoteCandidate resolution (.candidate remoteCandidate resolution :: calls)
  | there {call : Call} {calls : List Call} (h : GivenBeforeEnd remoteCandidate resolution calls) :
      GivenBeforeEnd remoteCandidate resolution (call :: calls)

namespace CandidateAgent

/-- The candidate that a given one stands for: itself, or the one with the address that its name
resolves to. -/
def ResolvesTo (a : CandidateAgent) (remoteCandidate : Candidate) (resolution : Option ℕ)
    (resolved : Candidate) : Prop :=
  if remoteCandidate.isLocal then
    ∃ p host, resolution = some p ∧ a.promises.outcome p = some (.fulfilled host) ∧
      resolved = { remoteCandidate with host }
  else resolved = remoteCandidate

/-- A candidate is in the list of the live generation; in a provisional one, it or one with the same
address. -/
def Listed (a : CandidateAgent) (g : Generation) (candidate : Candidate) : Prop :=
  match g with
  | .live _ => candidate ∈ a.remote.remoteCandidates
  | .provisional o _ =>
    ∃ c ∈ (a.generations o).remote.remoteCandidates, c = candidate ∨ c.sameAddress candidate

/-- A generation that is or has been one of the agent. -/
def Issued (a : CandidateAgent) : Generation → Prop
  | .live n => n ≤ a.remoteGeneration
  | .provisional o r => o < a.nextGeneration ∧ r ≤ (a.generations o).revision

/-- A given candidate is settled: what it stands for is listed, if it is supported. -/
structure Done (a : CandidateAgent) (g : Generation) (remoteCandidate : Candidate)
    (resolution : Option ℕ) : Prop where
  settled : ∀ p, resolution = some p → a.promises.outcome p ≠ none
  listed : ∀ c, a.ResolvesTo remoteCandidate resolution c → c.validateRemoteCandidate → a.Listed g c

/-- The call for a candidate still waits for its resolution. -/
structure Resolving (a : CandidateAgent) (g : Generation) (remoteCandidate : Candidate)
    (p : ℕ) : Prop where
  isLocal : remoteCandidate.isLocal
  mem : p ∈ (a.remoteSide g).resolutions
  owner : a.promises.owner p = some (.candidate g remoteCandidate)

end CandidateAgent

/-- What holds of the live generation and of the provisional one. -/
structure Tracks (a : CandidateAgent) (calls : List Call) (g : Generation) : Prop where
  requested : (a.remoteSide g).remoteCandidatesEndRequested = true ↔ Call.endOfCandidates ∈ calls
  ended : (a.remoteSide g).remoteCandidatesEnd = true →
    (a.remoteSide g).remoteCandidatesEndRequested = true ∧ (a.remoteSide g).resolutions = []
  owned : ∀ p ∈ (a.remoteSide g).resolutions, ∃ c, a.promises.owner p = some (.candidate g c)
  given : ∀ c resolution, GivenBeforeEnd c resolution calls → a.Done g c resolution ∨
    (a.closed = false ∧ ∃ p, resolution = some p ∧ a.Resolving g c p) ∨
    (a.closed = true ∧ (a.remoteSide g).remoteCandidatesEnd = false)
  origin : ∀ c ∈ (a.remoteSide g).remoteCandidates, ∃ c₀ resolution,
    GivenBeforeEnd c₀ resolution calls ∧ a.ResolvesTo c₀ resolution c ∧
      ∀ p, resolution = some p → a.promises.outcome p ≠ none

/-- The invariant of an agent and the calls for its generations. -/
structure Tracked (w : Trickle) : Prop where
  wf : w.agent.promises.Wf
  provisional : ∀ o, w.agent.provisional = some o → o < w.agent.nextGeneration
  lookup : ∀ p ∈ w.agent.lookup.getD [],
    p < w.agent.promises.next ∧ w.agent.promises.remaining p = []
  candidate : ∀ p g c, w.agent.promises.owner p = some (.candidate g c) → w.agent.Issued g ∧
    (w.agent.current g = true → c.isLocal ∧ p ∈ (w.agent.remoteSide g).resolutions ∧
      GivenBeforeEnd c (some p) (w.calls g))
  endOfCandidates : ∀ q g, w.agent.promises.owner q = some (.endOfCandidates g) →
    w.agent.Issued g ∧ (w.agent.current g = true →
      (w.agent.remoteSide g).remoteCandidatesEndRequested = true ∧
        ∀ p ∈ (w.agent.remoteSide g).resolutions, p ∈ w.agent.promises.remaining q)
  fresh : ∀ g, ¬w.agent.Issued g → w.calls g = []
  tracks : ∀ g, w.agent.Has g → Tracks w.agent (w.calls g) g

namespace CandidateAgent

variable {a a' : CandidateAgent} {g g' : Generation} {c : Candidate} {resolution : Option ℕ}

lemma current_eq_true : a.current g = true ↔ a.closed = false ∧ a.Has g := by
  simp [current]

@[simp] lemma current_modify (f : RemoteSide → RemoteSide) :
    (a.modify f g).current g' = a.current g' := by
  simp [current]

/-- What a candidate stands for does not change once its resolution is settled. -/
lemma resolvesTo_iff (hsettled : ∀ p, resolution = some p → a.promises.outcome p ≠ none)
    (houtcome : ∀ p, a.promises.outcome p ≠ none → a'.promises.outcome p = a.promises.outcome p)
    (c' : Candidate) : a'.ResolvesTo c resolution c' ↔ a.ResolvesTo c resolution c' := by
  unfold ResolvesTo
  split
  case isTrue =>
    constructor
    · rintro ⟨p, host, hp, ho, rfl⟩
      exact ⟨p, host, hp, (houtcome p (hsettled p hp)).symm.trans ho, rfl⟩
    · rintro ⟨p, host, hp, ho, rfl⟩
      exact ⟨p, host, hp, (houtcome p (hsettled p hp)).trans ho, rfl⟩
  case isFalse => exact Iff.rfl

lemma Listed.mono (h : a.Listed g c)
    (hmem : ∀ c ∈ (a.remoteSide g).remoteCandidates, c ∈ (a'.remoteSide g).remoteCandidates) :
    a'.Listed g c := by
  cases g with
  | live n => exact hmem c h
  | provisional o r =>
    obtain ⟨c', hc', hsame⟩ := h
    exact ⟨c', hmem c' hc', hsame⟩

lemma Done.mono (h : a.Done g c resolution)
    (houtcome : ∀ p, a.promises.outcome p ≠ none → a'.promises.outcome p = a.promises.outcome p)
    (hmem : ∀ c ∈ (a.remoteSide g).remoteCandidates, c ∈ (a'.remoteSide g).remoteCandidates) :
    a'.Done g c resolution where
  settled := fun p hp => by
    rw [houtcome p (h.settled p hp)]
    exact h.settled p hp
  listed := fun c' hc' hvalid =>
    (h.listed c' ((resolvesTo_iff h.settled houtcome c').mp hc') hvalid).mono hmem

end CandidateAgent

open CandidateAgent

/-- A generation that a step does not touch. -/
lemma Tracks.frame {a a' : CandidateAgent} {calls : List Call} {g : Generation}
    (t : Tracks a calls g) (hside : a'.remoteSide g = a.remoteSide g) (hclosed : a'.closed = a.closed)
    (houtcome : ∀ p, a.promises.outcome p ≠ none → a'.promises.outcome p = a.promises.outcome p)
    (howner : ∀ p c, a.promises.owner p = some (.candidate g c) →
      a'.promises.owner p = some (.candidate g c)) : Tracks a' calls g where
  requested := by rw [hside]; exact t.requested
  ended := by rw [hside]; exact t.ended
  owned := by
    intro p hp
    rw [hside] at hp
    obtain ⟨c, hc⟩ := t.owned p hp
    exact ⟨c, howner p c hc⟩
  given := by
    intro c resolution hgiven
    rcases t.given c resolution hgiven with hdone | ⟨hopen, p, hp, hres⟩ | hclosed'
    · exact Or.inl (hdone.mono houtcome fun c hc => by rwa [hside])
    · refine Or.inr (Or.inl ⟨hclosed.trans hopen, p, hp, ?_⟩)
      exact ⟨hres.isLocal, by rw [hside]; exact hres.mem, howner p c hres.owner⟩
    · rw [← hclosed, ← hside] at hclosed'
      exact Or.inr (Or.inr hclosed')
  origin := by
    intro c hc
    rw [hside] at hc
    obtain ⟨c₀, resolution, hgiven, hresolves, hsettled⟩ := t.origin c hc
    refine ⟨c₀, resolution, hgiven, (resolvesTo_iff hsettled houtcome c).mpr hresolves, ?_⟩
    intro p hp
    rw [houtcome p (hsettled p hp)]
    exact hsettled p hp

/-- A generation that has just begun. -/
lemma Tracks.empty {a : CandidateAgent} {g : Generation} (h : a.remoteSide g = {}) :
    Tracks a [] g where
  requested := by simp [h]
  ended := by simp [h]
  owned := by simp [h]
  given := fun _ _ hgiven => nomatch hgiven
  origin := by simp [h]

/-- **Steps without a call.**  No async function is called or resumed, and every generation is
untouched or a new one. -/
lemma Tracked.quiet {w : Trickle} {a' : CandidateAgent} (t : Tracked w)
    (hquiet : Quiet w.agent.promises a'.promises)
    (hlookup : ∀ p ∈ a'.lookup.getD [], p ∈ w.agent.lookup.getD [])
    (hprovisional : ∀ o, a'.provisional = some o → o < a'.nextGeneration)
    (hissued : ∀ g, w.agent.Issued g → a'.Issued g)
    (hclosed : a'.closed = w.agent.closed)
    (hhas : ∀ g, a'.Has g → w.agent.Has g ∧ a'.remoteSide g = w.agent.remoteSide g ∨
      ¬w.agent.Issued g ∧ a'.remoteSide g = {}) : Tracked { w with agent := a' } where
  wf := hquiet.wf
  provisional := hprovisional
  lookup := by
    intro p hp
    obtain ⟨hlt, hnil⟩ := t.lookup p (hlookup p hp)
    exact ⟨by rwa [hquiet.next], hquiet.remaining_nil p hnil⟩
  candidate := by
    intro p g c howner
    rw [hquiet.owner p] at howner
    obtain ⟨hg, hcurrent⟩ := t.candidate p g c howner
    refine ⟨hissued g hg, fun hcur => ?_⟩
    obtain ⟨hopen, hhas'⟩ := current_eq_true.mp hcur
    rcases hhas g hhas' with ⟨hold, hside⟩ | ⟨hnew, -⟩
    · rw [hside]
      exact hcurrent (current_eq_true.mpr ⟨hclosed.symm.trans hopen, hold⟩)
    · exact absurd hg hnew
  endOfCandidates := by
    intro q g howner
    rw [hquiet.owner q] at howner
    obtain ⟨hg, hcurrent⟩ := t.endOfCandidates q g howner
    refine ⟨hissued g hg, fun hcur => ?_⟩
    obtain ⟨hopen, hhas'⟩ := current_eq_true.mp hcur
    rcases hhas g hhas' with ⟨hold, hside⟩ | ⟨hnew, -⟩
    · obtain ⟨hreq, hrem⟩ := hcurrent (current_eq_true.mpr ⟨hclosed.symm.trans hopen, hold⟩)
      rw [hside]
      refine ⟨hreq, fun p hp => ?_⟩
      obtain ⟨c, hc⟩ := (t.tracks g hold).owned p hp
      exact hquiet.remaining p q (by rw [hc]; simp) (hrem p hp)
    · exact absurd hg hnew
  fresh := fun g hg => t.fresh g fun h => hg (hissued g h)
  tracks := by
    intro g hg
    rcases hhas g hg with ⟨hold, hside⟩ | ⟨hnew, hside⟩
    · exact (t.tracks g hold).frame hside hclosed hquiet.outcome fun p c hc => by
        rw [hquiet.owner p, hc]
    · change Tracks a' (w.calls g) g
      rw [t.fresh g hnew]
      exact Tracks.empty hside

/-! ## Steps that begin or end a generation -/

variable {w : Trickle}

lemma Tracked.issued_of_has (t : Tracked w) {g : Generation} (h : w.agent.Has g) :
    w.agent.Issued g := by
  cases g with
  | live n => exact h.ge
  | provisional o r => exact ⟨t.provisional o h.1, h.2.ge⟩

lemma Tracked.quiet_closeLookup (t : Tracked w) :
    Quiet w.agent.promises w.agent.closeLookup.promises :=
  t.wf.quiet_foldl_settle t.lookup

lemma Tracked.settleLookup (t : Tracked w) (resolution : ℕ) (address : Option String) :
    Tracked { w with agent := w.agent.settleLookup resolution address } := by
  unfold CandidateAgent.settleLookup
  split
  case h_1 => exact t
  case h_2 pending hpending =>
    split
    case isTrue hmem =>
      obtain ⟨hlt, hnil⟩ := t.lookup resolution (by rw [hpending]; exact hmem)
      refine t.quiet (t.wf.quiet_settle hlt hnil) ?_ t.provisional (fun g h => ?_) rfl fun g h => ?_
      · intro p hp
        rw [hpending]
        exact List.mem_of_mem_filter hp
      · cases g <;> exact h
      · left
        cases g <;> exact ⟨h, rfl⟩
    case isFalse => exact t

/-- The live generation and the provisional one are both replaced. -/
lemma Tracked.nextRemote (t : Tracked w) {a' : CandidateAgent}
    (hquiet : Quiet w.agent.promises a'.promises)
    (hlookup : ∀ p ∈ a'.lookup.getD [], p ∈ w.agent.lookup.getD [])
    (hgeneration : a'.remoteGeneration = w.agent.remoteGeneration + 1) (hremote : a'.remote = {})
    (hprovisional : a'.provisional = none) (hgenerations : a'.generations = w.agent.generations)
    (hnext : a'.nextGeneration = w.agent.nextGeneration) (hclosed : a'.closed = w.agent.closed) :
    Tracked { w with agent := a' } := by
  refine t.quiet hquiet hlookup (by simp [hprovisional]) ?_ hclosed ?_
  · intro g hg
    cases g with
    | live n =>
      have hn : n ≤ w.agent.remoteGeneration := hg
      change n ≤ a'.remoteGeneration
      omega
    | provisional o r =>
      obtain ⟨ho, hr⟩ := hg
      exact ⟨by omega, by rwa [hgenerations]⟩
  · intro g hg
    cases g with
    | live n =>
      refine Or.inr ⟨fun hn => ?_, hremote⟩
      have hle : n ≤ w.agent.remoteGeneration := hn
      have heq : a'.remoteGeneration = n := hg
      omega
    | provisional o r =>
      have hsome : a'.provisional = some o := hg.1
      rw [hprovisional] at hsome
      cases hsome

lemma Tracked.restart (t : Tracked w) : Tracked { w with agent := w.agent.restart } :=
  t.nextRemote t.quiet_closeLookup (fun _ hp => nomatch hp) rfl rfl rfl rfl rfl rfl

lemma Tracked.restartRemote (t : Tracked w) : Tracked { w with agent := w.agent.restartRemote } :=
  t.nextRemote t.wf.quiet (fun _ hp => hp) rfl rfl rfl rfl rfl rfl

lemma Tracked.endProvisional (t : Tracked w) :
    Tracked { w with agent := w.agent.endProvisional } := by
  refine t.quiet t.wf.quiet (fun _ hp => hp) (fun _ h => nomatch h) (fun g h => ?_) rfl
    fun g h => ?_
  · cases g <;> exact h
  · cases g with
    | live n => exact Or.inl ⟨h, rfl⟩
    | provisional o r => exact nomatch h.1

lemma Tracked.stageLocalCredentials (t : Tracked w) (u : String) :
    Tracked { w with agent := w.agent.stageLocalCredentials u } := by
  refine t.quiet t.wf.quiet (fun _ hp => hp) ?_ (fun g h => ?_) rfl fun g h => ?_
  · intro o ho
    obtain rfl : w.agent.nextGeneration = o := Option.some.inj ho
    exact Nat.lt_succ_self _
  · cases g with
    | live n => exact h
    | provisional o r =>
      obtain ⟨ho, hr⟩ := h
      have hne : o ≠ w.agent.nextGeneration := Nat.ne_of_lt ho
      refine ⟨Nat.lt_succ_of_lt ho, ?_⟩
      change r ≤ (update w.agent.generations w.agent.nextGeneration _ o).revision
      rwa [update_of_ne hne]
  · cases g with
    | live n => exact Or.inl ⟨h, rfl⟩
    | provisional o r =>
      obtain rfl : w.agent.nextGeneration = o := Option.some.inj h.1
      refine Or.inr ⟨fun hissued => Nat.lt_irrefl _ hissued.1, ?_⟩
      change (update w.agent.generations w.agent.nextGeneration _ _).remote = {}
      rw [update_self]

lemma Tracked.discardStagedLocalCredentials (t : Tracked w) (u : String) :
    Tracked { w with agent := w.agent.discardStagedLocalCredentials u } := by
  unfold CandidateAgent.discardStagedLocalCredentials
  split
  case h_1 => exact t
  case h_2 =>
    split
    · exact t.endProvisional
    · exact t

lemma Tracked.setProvisionalRemoteParams (t : Tracked w) (u p : String) :
    Tracked { w with agent := w.agent.setProvisionalRemoteParams u p } := by
  unfold CandidateAgent.setProvisionalRemoteParams
  split
  case h_1 => exact t
  case h_2 o ho =>
    dsimp only
    split
    case isTrue => exact t
    case isFalse =>
      refine t.quiet t.wf.quiet (fun _ hp => hp) t.provisional (fun g h => ?_) rfl fun g h => ?_
      · cases g with
        | live n => exact h
        | provisional o' r =>
          obtain ⟨ho', hr⟩ := h
          refine ⟨ho', hr.trans ?_⟩
          by_cases hne : o' = o
          · simp [hne]
          · simp [hne]
      · cases g with
        | live n => exact Or.inl ⟨h, rfl⟩
        | provisional o' r =>
          obtain ⟨ho', hr⟩ := h
          obtain rfl : o' = o := Option.some.inj (ho'.symm.trans ho)
          simp only [update_self] at hr
          refine Or.inr ⟨fun hissued => ?_, by simp [remoteSide]⟩
          have hle : r ≤ (w.agent.generations o').revision := hissued.2
          omega

/-- Nothing that still waits belongs to a closed agent. -/
lemma Tracked.close (t : Tracked w) : Tracked { w with agent := w.agent.close } := by
  have hquiet : Quiet w.agent.promises w.agent.close.promises := t.quiet_closeLookup
  have hcurrent : ∀ g, w.agent.close.current g = false := fun g => rfl
  exact
    { wf := hquiet.wf
      provisional := fun _ h => nomatch h
      lookup := fun _ h => nomatch h
      candidate := by
        intro p g c howner
        refine ⟨?_, fun h => nomatch (hcurrent g).symm.trans h⟩
        have hissued := (t.candidate p g c ((hquiet.owner p).symm.trans howner)).1
        cases g <;> exact hissued
      endOfCandidates := by
        intro q g howner
        refine ⟨?_, fun h => nomatch (hcurrent g).symm.trans h⟩
        have hissued := (t.endOfCandidates q g ((hquiet.owner q).symm.trans howner)).1
        cases g <;> exact hissued
      fresh := by
        intro g hg
        refine t.fresh g fun h => hg ?_
        cases g <;> exact h
      tracks := by
        intro g hg
        cases g with
        | provisional o r => exact nomatch hg.1
        | live n =>
          have tg := t.tracks (.live n) hg
          exact
            { requested := tg.requested
              ended := fun h => ⟨(tg.ended h).1, rfl⟩
              owned := fun _ hp => nomatch hp
              given := by
                intro c resolution hgiven
                by_cases hend : w.agent.remote.remoteCandidatesEnd = true
                · rcases tg.given c resolution hgiven with hdone | ⟨-, p, -, hres⟩ | ⟨-, hnot⟩
                  · exact Or.inl (hdone.mono hquiet.outcome fun _ h => h)
                  · have hnil := (tg.ended hend).2
                    have hmem := hres.mem
                    rw [hnil] at hmem
                    exact nomatch hmem
                  · exact nomatch hnot.symm.trans hend
                · exact Or.inr (Or.inr ⟨rfl, Bool.eq_false_of_not_eq_true hend⟩)
              origin := by
                intro c hc
                obtain ⟨c₀, resolution, hgiven, hresolves, hsettled⟩ := tg.origin c hc
                refine ⟨c₀, resolution, hgiven,
                  (resolvesTo_iff hsettled hquiet.outcome c).mpr hresolves, fun p hp => ?_⟩
                rw [hquiet.outcome p (hsettled p hp)]
                exact hsettled p hp } }

/-! ## Calls -/

namespace CandidateAgent

variable {a : CandidateAgent} {g g' : Generation} {c : Candidate} {f : RemoteSide → RemoteSide}
  {L : Option (List ℕ)} {P : Promises Continuation String}

@[simp] lemma issued_modify : (a.modify f g).Issued g' ↔ a.Issued g' := by
  cases g' <;> simp [Issued]

/-- What a part of a call may change: the remote half that it writes, the lookups and the promises. -/
def touch (a : CandidateAgent) (f : RemoteSide → RemoteSide) (g : Generation) (L : Option (List ℕ))
    (P : Promises Continuation String) : CandidateAgent :=
  { a.modify f g with lookup := L, promises := P }

lemma touch_modify : a.modify f g = a.touch f g a.lookup a.promises := by
  cases g <;> rfl

lemma modify_touch : { a with lookup := L, promises := P }.modify f g = a.touch f g L P := by
  cases g <;> rfl

lemma modify_eq_self (h : ∀ r, f r = r) : a.modify f g = a := by
  obtain rfl : f = id := funext h
  cases g with
  | live n => rfl
  | provisional o r => simp [modify]

@[simp] lemma closed_touch : (a.touch f g L P).closed = a.closed := closed_modify ..
@[simp] lemma provisional_touch : (a.touch f g L P).provisional = a.provisional :=
  provisional_modify ..
@[simp] lemma nextGeneration_touch : (a.touch f g L P).nextGeneration = a.nextGeneration :=
  nextGeneration_modify ..
@[simp] lemma lookup_touch : (a.touch f g L P).lookup = L := rfl
@[simp] lemma promises_touch : (a.touch f g L P).promises = P := rfl

lemma remoteSide_touch : (a.touch f g L P).remoteSide g' = (a.modify f g).remoteSide g' := by
  cases g' <;> rfl

@[simp] lemma remoteSide_touch_self : (a.touch f g L P).remoteSide g = f (a.remoteSide g) := by
  rw [remoteSide_touch, remoteSide_modify_self]

@[simp] lemma has_touch : (a.touch f g L P).Has g' ↔ a.Has g' := by
  rw [← has_modify a f g g']
  cases g' <;> exact Iff.rfl

@[simp] lemma issued_touch : (a.touch f g L P).Issued g' ↔ a.Issued g' := by
  rw [← issued_modify (a := a) (f := f) (g := g)]
  cases g' <;> exact Iff.rfl

@[simp] lemma current_touch : (a.touch f g L P).current g' = a.current g' := by
  simp [current]

/-- **Adding a candidate.**  A supported one is listed afterwards. -/
lemma push_spec (hcur : a.current g = true) : ∃ added : List Candidate,
    a.push g c = a.modify (fun r => { r with remoteCandidates := r.remoteCandidates ++ added }) g ∧
      (∀ c' ∈ added, c' = c) ∧ (c.validateRemoteCandidate → (a.push g c).Listed g c) := by
  have hsame : a = a.modify (fun r => { r with remoteCandidates := r.remoteCandidates ++ [] }) g :=
    (modify_eq_self fun r => by rw [List.append_nil]).symm
  unfold push
  split
  case isTrue hinvalid =>
    refine ⟨[], hsame, by simp, fun hvalid => ?_⟩
    rw [hvalid] at hinvalid
    exact absurd hinvalid Bool.false_ne_true
  case isFalse =>
    cases g with
    | live n =>
      refine ⟨[c], rfl, by simp, fun _ => ?_⟩
      exact List.mem_append_right _ List.mem_cons_self
    | provisional o r =>
      dsimp only
      split
      case isTrue hdup =>
        refine ⟨[], hsame, by simp, fun _ => ?_⟩
        rw [hcur, Bool.not_true, Bool.false_or, List.any_eq_true] at hdup
        obtain ⟨c', hc', haddress⟩ := hdup
        exact ⟨c', hc', Or.inr haddress⟩
      case isFalse =>
        refine ⟨[c], rfl, by simp, fun _ => ⟨c, ?_, Or.inl rfl⟩⟩
        change c ∈ ((a.modify _ (.provisional o r)).remoteSide (.provisional o r)).remoteCandidates
        rw [remoteSide_modify_self]
        exact List.mem_append_right _ List.mem_cons_self

end CandidateAgent

/-- **A call for a current generation**, from what it does to the remote half of that generation and
to the promises. -/
lemma Tracked.called (t : Tracked w) {g : Generation} (hcur : w.agent.current g = true)
    {f : RemoteSide → RemoteSide} {L : Option (List ℕ)} {P : Promises Continuation String}
    {call : Call} (wf : P.Wf)
    (hlookup : ∀ p ∈ L.getD [], p < P.next ∧ P.remaining p = [])
    (houtcome : ∀ p, w.agent.promises.outcome p ≠ none → P.outcome p = w.agent.promises.outcome p)
    (howner : ∀ p, p < w.agent.promises.next → P.owner p = w.agent.promises.owner p)
    (hremaining : ∀ p, p < w.agent.promises.next → P.remaining p = w.agent.promises.remaining p)
    (hcandidate : ∀ p g' c, w.agent.promises.next ≤ p → P.owner p = some (.candidate g' c) →
      g' = g ∧ c.isLocal ∧ p ∈ (f (w.agent.remoteSide g)).resolutions ∧
        GivenBeforeEnd c (some p) (call :: w.calls g))
    (hend : ∀ q g', w.agent.promises.next ≤ q → P.owner q = some (.endOfCandidates g') →
      g' = g ∧ (f (w.agent.remoteSide g)).remoteCandidatesEndRequested = true ∧
        ∀ p ∈ (f (w.agent.remoteSide g)).resolutions, p ∈ P.remaining q)
    (hmono : ∀ p ∈ (w.agent.remoteSide g).resolutions, p ∈ (f (w.agent.remoteSide g)).resolutions)
    (hrequested : (w.agent.remoteSide g).remoteCandidatesEndRequested = true →
      (f (w.agent.remoteSide g)).remoteCandidatesEndRequested = true ∧
        (f (w.agent.remoteSide g)).resolutions = (w.agent.remoteSide g).resolutions)
    (htracks : Tracks (w.agent.touch f g L P) (call :: w.calls g) g) :
    Tracked { agent := w.agent.touch f g L P, calls := update w.calls g (call :: w.calls g) } := by
  obtain ⟨hopen, hhas⟩ := current_eq_true.mp hcur
  have hside : ∀ g', w.agent.Has g' → g' ≠ g →
      (w.agent.touch f g L P).remoteSide g' = w.agent.remoteSide g' := fun g' hg' hne =>
    remoteSide_touch.trans (remoteSide_modify_of_ne f hhas hg' hne)
  have hlt : ∀ p k, w.agent.promises.owner p = some k → p < w.agent.promises.next := fun p k h =>
    t.wf.lt_next_of_owner h
  exact
    { wf := wf
      provisional := by simpa using t.provisional
      lookup := hlookup
      candidate := by
        intro p g' c hp
        change P.owner p = _ at hp
        by_cases hp' : p < w.agent.promises.next
        · rw [howner p hp'] at hp
          obtain ⟨hissued, hcurrent⟩ := t.candidate p g' c hp
          refine ⟨issued_touch.mpr hissued, fun hcur' => ?_⟩
          rw [current_touch] at hcur'
          obtain ⟨hlocal, hmem, hgiven⟩ := hcurrent hcur'
          refine ⟨hlocal, ?_⟩
          by_cases hne : g' = g
          · subst hne
            rw [remoteSide_touch_self]
            simpa only [update_self] using ⟨hmono p hmem, hgiven.there⟩
          · simpa only [hside g' (current_eq_true.mp hcur').2 hne, update_of_ne hne] using
              ⟨hmem, hgiven⟩
        · obtain ⟨rfl, hlocal, hmem, hgiven⟩ := hcandidate p g' c (by omega) hp
          refine ⟨issued_touch.mpr (t.issued_of_has hhas), fun _ => ⟨hlocal, ?_⟩⟩
          rw [remoteSide_touch_self]
          simpa only [update_self] using ⟨hmem, hgiven⟩
      endOfCandidates := by
        intro q g' hq
        change P.owner q = _ at hq
        by_cases hq' : q < w.agent.promises.next
        · rw [howner q hq'] at hq
          obtain ⟨hissued, hcurrent⟩ := t.endOfCandidates q g' hq
          refine ⟨issued_touch.mpr hissued, fun hcur' => ?_⟩
          rw [current_touch] at hcur'
          obtain ⟨hreq, hrem⟩ := hcurrent hcur'
          rw [promises_touch, hremaining q hq']
          by_cases hne : g' = g
          · subst hne
            obtain ⟨hreq', hres⟩ := hrequested hreq
            rw [remoteSide_touch_self, hres]
            exact ⟨hreq', hrem⟩
          · rw [hside g' (current_eq_true.mp hcur').2 hne]
            exact ⟨hreq, hrem⟩
        · obtain ⟨rfl, hreq, hrem⟩ := hend q g' (by omega) hq
          refine ⟨issued_touch.mpr (t.issued_of_has hhas), fun _ => ?_⟩
          rw [remoteSide_touch_self]
          exact ⟨hreq, hrem⟩
      fresh := by
        intro g' hg'
        rw [issued_touch] at hg'
        have hne : g' ≠ g := by rintro rfl; exact hg' (t.issued_of_has hhas)
        simpa only [update_of_ne hne] using t.fresh g' hg'
      tracks := by
        intro g' hg'
        rw [has_touch] at hg'
        by_cases hne : g' = g
        · subst hne
          simpa only [update_self] using htracks
        · simp only [update_of_ne hne]
          refine (t.tracks g' hg').frame (hside g' hg' hne) closed_touch houtcome ?_
          intro p c hp
          rw [promises_touch, howner p (hlt p _ hp), hp] }

/-- The log entry of the last call does not change what was given before. -/
lemma givenBeforeEnd_cons {c c' : Candidate} {resolution resolution' : Option ℕ} {calls : List Call}
    (h : GivenBeforeEnd c resolution (.candidate c' resolution' :: calls)) :
    GivenBeforeEnd c resolution calls ∨
      (c = c' ∧ resolution = resolution' ∧ Call.endOfCandidates ∉ calls) := by
  cases h with
  | here h => exact Or.inr ⟨rfl, rfl, h⟩
  | there h => exact Or.inl h

lemma givenBeforeEnd_end {c : Candidate} {resolution : Option ℕ} {calls : List Call}
    (h : GivenBeforeEnd c resolution (.endOfCandidates :: calls)) :
    GivenBeforeEnd c resolution calls := by
  cases h with
  | there h => exact h

/-! ### The branches of a call -/

namespace CandidateAgent

variable {a : CandidateAgent} {g : Generation} {opens : Bool} {c : Candidate}

lemma add_refused {c : Option Candidate} (hrefused : ((a.remoteSide g).remoteCandidatesEnd ||
    (a.remoteSide g).remoteCandidatesEndRequested) = true) : a.add g opens c = a := by
  cases c <;> exact if_pos hrefused

variable (hopen : ¬((a.remoteSide g).remoteCandidatesEnd ||
  (a.remoteSide g).remoteCandidatesEndRequested) = true)

include hopen

lemma add_end_now (hnil : (a.remoteSide g).resolutions = []) : a.add g opens none = a.touch
    (fun r => { r with remoteCandidatesEndRequested := true, remoteCandidatesEnd := true }) g
    a.lookup a.promises := by
  have hadd : a.add g opens none =
      (a.modify (fun r => { r with remoteCandidatesEndRequested := true }) g).modify
        (fun r => { r with remoteCandidatesEnd := true }) g := by
    simp [add, hopen, hnil]
  rw [hadd]
  cases g <;> simp [CandidateAgent.modify, touch]

lemma add_end_later (hne : (a.remoteSide g).resolutions ≠ []) : a.add g opens none = a.touch
    (fun r => { r with remoteCandidatesEndRequested := true }) g a.lookup
    (a.promises.awaitAllSettled (a.remoteSide g).resolutions (.endOfCandidates g)) := by
  simp only [add, hopen, hne, List.isEmpty_iff, if_false, promises_modify]
  cases g <;> rfl

lemma add_candidate_push (hlocal : c.isLocal = false) : a.add g opens (some c) = a.push g c := by
  simp [add, hopen, hlocal]

lemma add_candidate_noSocket (hlocal : c.isLocal = true)
    (hsocket : (a.lookup.isNone && !opens) = true) : a.add g opens (some c) = a := by
  simp [add, hopen, hlocal, startLookup, hsocket]

lemma add_candidate_lookup (hlocal : c.isLocal = true)
    (hsocket : ¬(a.lookup.isNone && !opens) = true) : a.add g opens (some c) = a.touch
      (fun r => { r with resolutions := r.resolutions ++ [a.promises.next] }) g
      (some (a.lookup.getD [] ++ [a.promises.next])) (a.promises.call (.candidate g c)).2 := by
  rw [← modify_touch]
  simp [add, hopen, hlocal, startLookup, hsocket, call_fst]

end CandidateAgent

section CallSteps

variable {g : Generation} {opens : Bool} {c : Candidate}

/-- A completed generation takes no candidate. -/
lemma Tracked.refused (t : Tracked w) (hcur : w.agent.current g = true) {call : Call}
    (htracks : Tracks w.agent (call :: w.calls g) g) :
    Tracked { w with calls := update w.calls g (call :: w.calls g) } := by
  have hself : w.agent = w.agent.touch id g w.agent.lookup w.agent.promises :=
    (modify_eq_self fun _ => rfl).symm.trans touch_modify
  have hcalled := t.called (f := id) (L := w.agent.lookup) (P := w.agent.promises) hcur t.wf
    t.lookup (fun _ _ => rfl) (fun _ _ => rfl) (fun _ _ => rfl)
    (fun p g' c hp h => absurd (t.wf.lt_next_of_owner h) (Nat.not_lt.mpr hp))
    (fun p g' hp h => absurd (t.wf.lt_next_of_owner h) (Nat.not_lt.mpr hp))
    (fun _ hp => hp) (fun h => ⟨h, rfl⟩) (hself ▸ htracks)
  rwa [← hself] at hcalled

/-- What a refused candidate leaves as it was. -/
lemma Tracks.refused {a : CandidateAgent} {calls : List Call} (tg : Tracks a calls g)
    (h : Call.endOfCandidates ∈ calls ∨ c.isLocal) :
    Tracks a (.candidate c none :: calls) g where
  requested := by rw [tg.requested]; simp
  ended := tg.ended
  owned := tg.owned
  given := by
    intro c' resolution hgiven
    rcases givenBeforeEnd_cons hgiven with hgiven | ⟨rfl, rfl, hend⟩
    · exact tg.given c' resolution hgiven
    · rcases h with h | hlocal
      · exact absurd h hend
      · refine Or.inl ⟨fun _ hp => (nomatch hp), fun c'' hresolves _ => ?_⟩
        rw [ResolvesTo, if_pos hlocal] at hresolves
        obtain ⟨p, -, hp, -⟩ := hresolves
        exact nomatch hp
  origin := by
    intro c' hc'
    obtain ⟨c₀, resolution, hgiven, hrest⟩ := tg.origin c' hc'
    exact ⟨c₀, resolution, hgiven.there, hrest⟩

/-- A call that is refused finds the generation with an end. -/
lemma Tracks.requested_of_refused {a : CandidateAgent} {calls : List Call} (tg : Tracks a calls g)
    (h : ((a.remoteSide g).remoteCandidatesEnd || (a.remoteSide g).remoteCandidatesEndRequested)
      = true) : (a.remoteSide g).remoteCandidatesEndRequested = true := by
  rcases Bool.or_eq_true_iff.mp h with hend | hreq
  · exact (tg.ended hend).1
  · exact hreq

/-- A call that is not refused finds the generation without an end. -/
lemma Tracks.not_mem {a : CandidateAgent} {calls : List Call} (tg : Tracks a calls g)
    (h : ¬((a.remoteSide g).remoteCandidatesEnd || (a.remoteSide g).remoteCandidatesEndRequested)
      = true) :
    (a.remoteSide g).remoteCandidatesEnd = false ∧
      (a.remoteSide g).remoteCandidatesEndRequested = false ∧ Call.endOfCandidates ∉ calls := by
  rw [Bool.or_eq_true, not_or, Bool.not_eq_true, Bool.not_eq_true] at h
  refine ⟨h.1, h.2, fun hmem => ?_⟩
  rw [tg.requested.mpr hmem] at h
  exact nomatch h.2

/-- A plain candidate is put into the list at once. -/
lemma Tracked.push (t : Tracked w) (hcur : w.agent.current g = true) (hlocal : c.isLocal = false)
    (hopen : ¬((w.agent.remoteSide g).remoteCandidatesEnd ||
      (w.agent.remoteSide g).remoteCandidatesEndRequested) = true) :
    Tracked { agent := w.agent.push g c
              calls := update w.calls g (.candidate c none :: w.calls g) } := by
  have tg := t.tracks g (current_eq_true.mp hcur).2
  obtain ⟨hend, hreq, hnot⟩ := tg.not_mem hopen
  obtain ⟨added, heq, hadded, hlisted⟩ := push_spec (c := c) hcur
  have hself : w.agent.push g c = w.agent.touch
      (fun r => { r with remoteCandidates := r.remoteCandidates ++ added }) g w.agent.lookup
      w.agent.promises := heq.trans touch_modify
  rw [hself] at hlisted ⊢
  refine t.called hcur t.wf t.lookup (fun _ _ => rfl) (fun _ _ => rfl) (fun _ _ => rfl)
    (fun p g' c hp h => absurd (t.wf.lt_next_of_owner h) (Nat.not_lt.mpr hp))
    (fun p g' hp h => absurd (t.wf.lt_next_of_owner h) (Nat.not_lt.mpr hp))
    (fun _ hp => hp) (fun h => ⟨h, rfl⟩) ?_
  exact
    { requested := by rw [remoteSide_touch_self]; simpa using tg.requested
      ended := by rw [remoteSide_touch_self]; exact tg.ended
      owned := by rw [remoteSide_touch_self]; exact tg.owned
      given := by
        intro c' resolution hgiven
        rcases givenBeforeEnd_cons hgiven with hgiven | ⟨rfl, rfl, -⟩
        · rcases tg.given c' resolution hgiven with hdone | ⟨hopen', p, hp, hres⟩ | ⟨hclosed, -⟩
          · refine Or.inl (hdone.mono (fun _ _ => rfl) fun c hc => ?_)
            rw [remoteSide_touch_self]
            exact List.mem_append_left _ hc
          · refine Or.inr (Or.inl ⟨closed_touch.trans hopen', p, hp, hres.isLocal, ?_, hres.owner⟩)
            rw [remoteSide_touch_self]
            exact hres.mem
          · exact nomatch hclosed.symm.trans (current_eq_true.mp hcur).1
        · refine Or.inl ⟨fun _ hp => (nomatch hp), fun c'' hresolves hvalid => ?_⟩
          rw [ResolvesTo, hlocal] at hresolves
          obtain rfl : c'' = c' := by simpa using hresolves
          exact hlisted hvalid
      origin := by
        intro c' hc'
        rw [remoteSide_touch_self] at hc'
        rcases List.mem_append.mp hc' with hc' | hc'
        · obtain ⟨c₀, resolution, hgiven, hrest⟩ := tg.origin c' hc'
          exact ⟨c₀, resolution, hgiven.there, hrest⟩
        · refine ⟨c, none, .here hnot, ?_, fun _ hp => (nomatch hp)⟩
          rw [ResolvesTo, hlocal, if_neg Bool.false_ne_true]
          exact hadded c' hc' }

/-- A candidate with an mDNS name becomes the owner of its resolution. -/
lemma Tracked.startLookup (t : Tracked w) (hcur : w.agent.current g = true) (hlocal : c.isLocal)
    (hopen : ¬((w.agent.remoteSide g).remoteCandidatesEnd ||
      (w.agent.remoteSide g).remoteCandidatesEndRequested) = true) :
    Tracked
      { agent := w.agent.touch
          (fun r => { r with resolutions := r.resolutions ++ [w.agent.promises.next] }) g
          (some (w.agent.lookup.getD [] ++ [w.agent.promises.next]))
          (w.agent.promises.call (.candidate g c)).2
        calls := update w.calls g
          (.candidate c (some w.agent.promises.next) :: w.calls g) } := by
  have tg := t.tracks g (current_eq_true.mp hcur).2
  obtain ⟨hend, hreq, hnot⟩ := tg.not_mem hopen
  set n := w.agent.promises.next
  set P := (w.agent.promises.call (.candidate g c)).2
  have hself : P.owner n = some (.candidate g c) := t.wf.owner_call_self
  have howner : ∀ p, p ≠ n → P.owner p = w.agent.promises.owner p := fun p hp =>
    owner_call_of_ne hp
  have hne : ∀ p k, w.agent.promises.owner p = some k → p ≠ n := fun p k h =>
    Nat.ne_of_lt (t.wf.lt_next_of_owner h)
  -- the only new owner is the call itself
  have hnew : ∀ p k, n ≤ p → P.owner p = some k → p = n ∧ k = .candidate g c := by
    intro p k hp hk
    by_cases hpn : p = n
    · rw [hpn, hself] at hk
      exact ⟨hpn, (Option.some.inj hk).symm⟩
    · rw [howner p hpn] at hk
      exact absurd (t.wf.lt_next_of_owner hk) (Nat.not_lt.mpr hp)
  refine t.called hcur t.wf.call ?_ (fun p _ => ?_) (fun p hp => howner p (Nat.ne_of_lt hp))
    (fun p _ => ?_) ?_ ?_ ?_ (fun h => nomatch hreq.symm.trans h) ?_
  · intro p hp
    rw [next_call, remaining_call]
    rcases List.mem_append.mp hp with hp | hp
    · obtain ⟨hlt, hnil⟩ := t.lookup p hp
      exact ⟨Nat.lt_succ_of_lt hlt, hnil⟩
    · obtain rfl := List.mem_singleton.mp hp
      exact ⟨Nat.lt_succ_self _, (t.wf.fresh _ le_rfl).2.2⟩
  · rw [outcome_call]
  · rw [remaining_call]
  · intro p g' c' hp hk
    obtain ⟨rfl, hk'⟩ := hnew p _ hp hk
    obtain ⟨rfl, rfl⟩ := Continuation.candidate.inj hk'
    exact ⟨rfl, hlocal, List.mem_append_right _ List.mem_cons_self, .here hnot⟩
  · intro q g' hq hk
    exact nomatch (hnew q _ hq hk).2
  · exact fun p hp => List.mem_append_left _ hp
  · exact
      { requested := by rw [remoteSide_touch_self]; simpa using tg.requested
        ended := by
          rw [remoteSide_touch_self]
          exact fun h => nomatch hend.symm.trans h
        owned := by
          rw [remoteSide_touch_self]
          intro p hp
          rcases List.mem_append.mp hp with hp | hp
          · obtain ⟨c', hc'⟩ := tg.owned p hp
            exact ⟨c', (howner p (hne p _ hc')).trans hc'⟩
          · obtain rfl := List.mem_singleton.mp hp
            exact ⟨c, hself⟩
        given := by
          intro c' resolution hgiven
          rcases givenBeforeEnd_cons hgiven with hgiven | ⟨rfl, rfl, -⟩
          · rcases tg.given c' resolution hgiven with hdone | ⟨hopen', p, hp, hres⟩ | ⟨hclosed, -⟩
            · refine Or.inl (hdone.mono (fun p _ => ?_) fun c hc => ?_)
              · rw [promises_touch, outcome_call]
              · rwa [remoteSide_touch_self]
            · refine Or.inr (Or.inl ⟨closed_touch.trans hopen', p, hp, hres.isLocal, ?_, ?_⟩)
              · rw [remoteSide_touch_self]
                exact List.mem_append_left _ hres.mem
              · exact (howner p (hne p _ hres.owner)).trans hres.owner
            · exact nomatch hclosed.symm.trans (current_eq_true.mp hcur).1
          · refine Or.inr (Or.inl ⟨closed_touch.trans (current_eq_true.mp hcur).1, n, rfl, hlocal, ?_,
              hself⟩)
            rw [remoteSide_touch_self]
            exact List.mem_append_right _ List.mem_cons_self
        origin := by
          intro c' hc'
          rw [remoteSide_touch_self] at hc'
          obtain ⟨c₀, resolution, hgiven, hresolves, hsettled⟩ := tg.origin c' hc'
          have houtcome : ∀ p, P.outcome p = w.agent.promises.outcome p := fun p => by
            rw [outcome_call]
          refine ⟨c₀, resolution, hgiven.there, ?_, fun p hp => ?_⟩
          · exact (resolvesTo_iff hsettled (fun p _ => houtcome p) c').mpr hresolves
          · rw [promises_touch, houtcome p]
            exact hsettled p hp }

/-- What an end-of-candidates leaves of a generation that has not had one, with the promises of the
state behind it. -/
lemma Tracks.endOfCandidates {a a' : CandidateAgent} {calls : List Call} (tg : Tracks a calls g)
    (hopen : a.closed = false) (hclosed : a'.closed = a.closed)
    (hside : (a'.remoteSide g).remoteCandidatesEndRequested = true ∧
      (a'.remoteSide g).resolutions = (a.remoteSide g).resolutions ∧
      (a'.remoteSide g).remoteCandidates = (a.remoteSide g).remoteCandidates)
    (hend : (a'.remoteSide g).remoteCandidatesEnd = true → (a.remoteSide g).resolutions = [])
    (houtcome : ∀ p, a.promises.outcome p ≠ none → a'.promises.outcome p = a.promises.outcome p)
    (howner : ∀ p k, a.promises.owner p = some k → a'.promises.owner p = some k) :
    Tracks a' (.endOfCandidates :: calls) g := by
  obtain ⟨hreq, hres, hlist⟩ := hside
  exact
    { requested := by simp [hreq]
      ended := fun h => ⟨hreq, hres.trans (hend h)⟩
      owned := by
        rw [hres]
        intro p hp
        obtain ⟨c, hc⟩ := tg.owned p hp
        exact ⟨c, howner p _ hc⟩
      given := by
        intro c resolution hgiven
        rcases tg.given c resolution (givenBeforeEnd_end hgiven) with hdone | ⟨-, p, hp, h⟩ | ⟨h, -⟩
        · exact Or.inl (hdone.mono houtcome fun c hc => by rwa [hlist])
        · refine Or.inr (Or.inl ⟨hclosed.trans hopen, p, hp, h.isLocal, ?_, howner p _ h.owner⟩)
          rw [hres]
          exact h.mem
        · exact nomatch h.symm.trans hopen
      origin := by
        intro c hc
        rw [hlist] at hc
        obtain ⟨c₀, resolution, hgiven, hresolves, hsettled⟩ := tg.origin c hc
        refine ⟨c₀, resolution, hgiven.there, ?_, fun p hp => ?_⟩
        · exact (resolvesTo_iff hsettled houtcome c).mpr hresolves
        · rw [houtcome p (hsettled p hp)]
          exact hsettled p hp }

/-- End-of-candidates while nothing is resolved. -/
lemma Tracked.endNow (t : Tracked w) (hcur : w.agent.current g = true)
    (hopen : ¬((w.agent.remoteSide g).remoteCandidatesEnd ||
      (w.agent.remoteSide g).remoteCandidatesEndRequested) = true)
    (hnil : (w.agent.remoteSide g).resolutions = []) :
    Tracked
      { agent := w.agent.touch
          (fun r => { r with remoteCandidatesEndRequested := true, remoteCandidatesEnd := true }) g
          w.agent.lookup w.agent.promises
        calls := update w.calls g (.endOfCandidates :: w.calls g) } := by
  have tg := t.tracks g (current_eq_true.mp hcur).2
  obtain ⟨-, hreq, -⟩ := tg.not_mem hopen
  refine t.called hcur t.wf t.lookup (fun _ _ => rfl) (fun _ _ => rfl) (fun _ _ => rfl)
    (fun p g' c hp h => absurd (t.wf.lt_next_of_owner h) (Nat.not_lt.mpr hp))
    (fun p g' hp h => absurd (t.wf.lt_next_of_owner h) (Nat.not_lt.mpr hp))
    (fun _ hp => hp) (fun h => nomatch hreq.symm.trans h) ?_
  refine tg.endOfCandidates (current_eq_true.mp hcur).1 closed_touch ?_ (fun _ => hnil)
    (fun _ _ => rfl) (fun _ _ h => h)
  rw [remoteSide_touch_self]
  exact ⟨rfl, rfl, rfl⟩

/-- End-of-candidates that waits for the resolutions. -/
lemma Tracked.endLater (t : Tracked w) (hcur : w.agent.current g = true)
    (hopen : ¬((w.agent.remoteSide g).remoteCandidatesEnd ||
      (w.agent.remoteSide g).remoteCandidatesEndRequested) = true) :
    Tracked
      { agent := w.agent.touch (fun r => { r with remoteCandidatesEndRequested := true }) g
          w.agent.lookup
          (w.agent.promises.awaitAllSettled (w.agent.remoteSide g).resolutions (.endOfCandidates g))
        calls := update w.calls g (.endOfCandidates :: w.calls g) } := by
  have tg := t.tracks g (current_eq_true.mp hcur).2
  obtain ⟨hend, hreq, -⟩ := tg.not_mem hopen
  have hlt : ∀ p ∈ (w.agent.remoteSide g).resolutions, p < w.agent.promises.next := by
    intro p hp
    obtain ⟨c, hc⟩ := tg.owned p hp
    exact t.wf.lt_next_of_owner hc
  have waits := t.wf.awaitAllSettled (k := .endOfCandidates g) hlt
  set P := w.agent.promises.awaitAllSettled (w.agent.remoteSide g).resolutions (.endOfCandidates g)
  have hne : ∀ p, p < w.agent.promises.next → p ≠ w.agent.promises.next := fun _ h => Nat.ne_of_lt h
  have houtcome : ∀ p, w.agent.promises.outcome p ≠ none →
      P.outcome p = w.agent.promises.outcome p := by
    intro p hp
    refine waits.outcome p ?_
    rintro rfl
    exact hp (t.wf.fresh _ le_rfl).1
  have hnew : ∀ q k, w.agent.promises.next ≤ q → P.owner q = some k →
      q = w.agent.promises.next ∧ k = .endOfCandidates g := by
    intro q k hq hk
    by_cases hqn : q = w.agent.promises.next
    · rw [hqn, waits.owner_self] at hk
      exact ⟨hqn, (Option.some.inj hk).symm⟩
    · rw [waits.owner q hqn] at hk
      exact absurd (t.wf.lt_next_of_owner hk) (Nat.not_lt.mpr hq)
  refine t.called hcur waits.wf ?_ houtcome (fun p hp => waits.owner p (hne p hp))
    (fun p hp => waits.remaining p (hne p hp)) ?_ ?_ (fun _ hp => hp)
    (fun h => nomatch hreq.symm.trans h) ?_
  · intro p hp
    obtain ⟨hp', hnil⟩ := t.lookup p hp
    rw [waits.next, waits.remaining p (hne p hp')]
    exact ⟨Nat.lt_succ_of_lt hp', hnil⟩
  · intro p g' c hp hk
    exact nomatch (hnew p _ hp hk).2
  · intro q g' hq hk
    obtain ⟨rfl, hk'⟩ := hnew q _ hq hk
    obtain rfl := Continuation.endOfCandidates.inj hk'
    refine ⟨rfl, rfl, fun p hp => ?_⟩
    rw [waits.remaining_self]
    exact hp
  · refine tg.endOfCandidates (current_eq_true.mp hcur).1 closed_touch ?_ ?_ houtcome ?_
    · rw [remoteSide_touch_self]
      exact ⟨rfl, rfl, rfl⟩
    · rw [remoteSide_touch_self]
      exact fun h => nomatch hend.symm.trans h
    · intro p k hk
      exact (waits.owner p (hne p (t.wf.lt_next_of_owner hk))).trans hk

lemma Tracked.addEnd (t : Tracked w) (hcur : w.agent.current g = true) :
    Tracked
      { agent := w.agent.add g opens none
        calls := update w.calls g (.endOfCandidates :: w.calls g) } := by
  have tg := t.tracks g (current_eq_true.mp hcur).2
  by_cases hrefused : ((w.agent.remoteSide g).remoteCandidatesEnd ||
      (w.agent.remoteSide g).remoteCandidatesEndRequested) = true
  case pos =>
    have hreq := tg.requested_of_refused hrefused
    rw [add_refused hrefused]
    refine t.refused hcur ?_
    exact
      { requested := by simp [hreq]
        ended := tg.ended
        owned := tg.owned
        given := fun c resolution hgiven => tg.given c resolution (givenBeforeEnd_end hgiven)
        origin := by
          intro c hc
          obtain ⟨c₀, resolution, hgiven, hrest⟩ := tg.origin c hc
          exact ⟨c₀, resolution, hgiven.there, hrest⟩ }
  case neg =>
    by_cases hnil : (w.agent.remoteSide g).resolutions = []
    · rw [add_end_now hrefused hnil]
      exact t.endNow hcur hrefused hnil
    · rw [add_end_later hrefused hnil]
      exact t.endLater hcur hrefused

lemma Tracked.addCandidate (t : Tracked w) (hcur : w.agent.current g = true) :
    Tracked
      { agent := w.agent.add g opens (some c)
        calls := update w.calls g
          (Trickle.callOf w.agent (w.agent.add g opens (some c)) (some c) :: w.calls g) } := by
  have tg := t.tracks g (current_eq_true.mp hcur).2
  have hnone : ∀ a : CandidateAgent, a.promises = w.agent.promises →
      Trickle.callOf w.agent a (some c) = .candidate c none := by
    intro a ha
    rw [Trickle.callOf, ha, if_neg (Nat.lt_irrefl _)]
  by_cases hrefused : ((w.agent.remoteSide g).remoteCandidatesEnd ||
      (w.agent.remoteSide g).remoteCandidatesEndRequested) = true
  case pos =>
    have hreq := tg.requested_of_refused hrefused
    rw [add_refused hrefused, hnone _ rfl]
    exact t.refused hcur (tg.refused (Or.inl (tg.requested.mp hreq)))
  case neg =>
    by_cases hlocal : c.isLocal = true
    case pos =>
      by_cases hsocket : (w.agent.lookup.isNone && !opens) = true
      · rw [add_candidate_noSocket hrefused hlocal hsocket, hnone _ rfl]
        exact t.refused hcur (tg.refused (Or.inr hlocal))
      · rw [add_candidate_lookup hrefused hlocal hsocket, Trickle.callOf, promises_touch, next_call,
          if_pos (Nat.lt_succ_self _)]
        exact t.startLookup hcur hlocal hrefused
    case neg =>
      have hlocal' : c.isLocal = false := Bool.eq_false_of_not_eq_true hlocal
      have hpromises : (w.agent.push g c).promises = w.agent.promises := by
        obtain ⟨added, heq, -⟩ := push_spec (c := c) hcur
        rw [heq, promises_modify]
      rw [add_candidate_push hrefused hlocal', hnone _ hpromises]
      exact t.push hcur hlocal' hrefused

end CallSteps

/-! ## Jobs -/

/-- **An async function is resumed**, from what it does to the remote half of its generation. -/
lemma Tracked.resumed (t : Tracked w) {g : Generation} {f : RemoteSide → RemoteSide}
    {P : Promises Continuation String} {p₀ : ℕ} {k₀ : Continuation} (wf : P.Wf)
    (hnext : P.next = w.agent.promises.next) (houtcome : P.outcome = w.agent.promises.outcome)
    (hremaining : P.remaining = w.agent.promises.remaining)
    (hk₀ : w.agent.promises.owner p₀ = some k₀) (hgone : P.owner p₀ = none)
    (hothers : ∀ q, q ≠ p₀ → P.owner q = w.agent.promises.owner q)
    (hside : ∀ g', w.agent.Has g' → g' ≠ g →
      (w.agent.modify f g).remoteSide g' = w.agent.remoteSide g')
    (hfor : ∀ g' c, k₀ = .candidate g' c → g' = g)
    (hres : w.agent.Has g → ∀ p, p ∈ (f (w.agent.remoteSide g)).resolutions ↔
      p ∈ (w.agent.remoteSide g).resolutions ∧ p ≠ p₀)
    (hreq : (f (w.agent.remoteSide g)).remoteCandidatesEndRequested =
      (w.agent.remoteSide g).remoteCandidatesEndRequested)
    (htracks : w.agent.Has g → Tracks (w.agent.touch f g w.agent.lookup P) (w.calls g) g) :
    Tracked { w with agent := w.agent.touch f g w.agent.lookup P } := by
  have hold : ∀ p k, P.owner p = some k → p ≠ p₀ ∧ w.agent.promises.owner p = some k := by
    intro p k hk
    have hne : p ≠ p₀ := by
      rintro rfl
      exact nomatch hgone.symm.trans hk
    exact ⟨hne, (hothers p hne).symm.trans hk⟩
  have htouch : ∀ g', w.agent.Has g' → g' ≠ g →
      (w.agent.touch f g w.agent.lookup P).remoteSide g' = w.agent.remoteSide g' := fun g' hg' hne =>
    remoteSide_touch.trans (hside g' hg' hne)
  exact
    { wf := wf
      provisional := by simpa using t.provisional
      lookup := by
        intro p hp
        rw [promises_touch, hnext, hremaining]
        exact t.lookup p hp
      candidate := by
        intro p g' c hp
        obtain ⟨hne, hp⟩ := hold p _ hp
        obtain ⟨hissued, hcurrent⟩ := t.candidate p g' c hp
        refine ⟨issued_touch.mpr hissued, fun hcur => ?_⟩
        rw [current_touch] at hcur
        obtain ⟨hlocal, hmem, hgiven⟩ := hcurrent hcur
        refine ⟨hlocal, ?_, hgiven⟩
        by_cases hg : g' = g
        · subst hg
          rw [remoteSide_touch_self]
          exact (hres (current_eq_true.mp hcur).2 p).mpr ⟨hmem, hne⟩
        · rwa [htouch g' (current_eq_true.mp hcur).2 hg]
      endOfCandidates := by
        intro q g' hq
        obtain ⟨-, hq⟩ := hold q _ hq
        obtain ⟨hissued, hcurrent⟩ := t.endOfCandidates q g' hq
        refine ⟨issued_touch.mpr hissued, fun hcur => ?_⟩
        rw [current_touch] at hcur
        obtain ⟨hrequested, hrem⟩ := hcurrent hcur
        rw [promises_touch, hremaining]
        by_cases hg : g' = g
        · subst hg
          rw [remoteSide_touch_self]
          refine ⟨hreq.trans hrequested, fun p hp => hrem p ?_⟩
          exact ((hres (current_eq_true.mp hcur).2 p).mp hp).1
        · rw [htouch g' (current_eq_true.mp hcur).2 hg]
          exact ⟨hrequested, hrem⟩
      fresh := by
        intro g' hg'
        rw [issued_touch] at hg'
        exact t.fresh g' hg'
      tracks := by
        intro g' hg'
        rw [has_touch] at hg'
        by_cases hg : g' = g
        · subst hg
          exact htracks hg'
        · refine (t.tracks g' hg').frame (htouch g' hg' hg) closed_touch
            (fun p _ => by rw [promises_touch, houtcome]) fun p c hp => ?_
          have hne : p ≠ p₀ := by
            rintro rfl
            exact hg (hfor g' c (Option.some.inj (hk₀.symm.trans hp)))
          exact (hothers p hne).trans hp }

/-- The rest of end-of-candidates finds no resolution left. -/
lemma Tracked.resumeEnd (t : Tracked w) {g : Generation} {P : Promises Continuation String} {q : ℕ}
    (wf : P.Wf) (hnext : P.next = w.agent.promises.next)
    (houtcome : P.outcome = w.agent.promises.outcome)
    (hremaining : P.remaining = w.agent.promises.remaining)
    (howner : w.agent.promises.owner q = some (.endOfCandidates g))
    (hsettled : w.agent.promises.outcome q ≠ none) (hgone : P.owner q = none)
    (hothers : ∀ q', q' ≠ q → P.owner q' = w.agent.promises.owner q') :
    Tracked { w with agent := { w.agent with promises := P }.resume q (.endOfCandidates g) } := by
  -- the promise of `allSettled` does not own a resolution
  have hres : w.agent.Has g → ∀ p ∈ (w.agent.remoteSide g).resolutions, p ≠ q := by
    rintro hg p hp rfl
    obtain ⟨c, hc⟩ := (t.tracks g hg).owned p hp
    exact nomatch hc.symm.trans howner
  have hkeep : ∀ p c, w.agent.promises.owner p = some (.candidate g c) →
      P.owner p = some (.candidate g c) := by
    intro p c hp
    refine (hothers p ?_).trans hp
    rintro rfl
    exact nomatch hp.symm.trans howner
  have hresume : ({ w.agent with promises := P } : CandidateAgent).resume q (.endOfCandidates g) =
      if w.agent.current g then
        w.agent.touch (fun r => { r with remoteCandidatesEnd := true }) g w.agent.lookup P
      else w.agent.touch id g w.agent.lookup P := by
    have hcur : ({ w.agent with promises := P } : CandidateAgent).current g = w.agent.current g := by
      cases g <;> rfl
    rw [CandidateAgent.resume, hcur]
    cases w.agent.current g
    · exact (modify_eq_self (f := id) fun _ => rfl).symm.trans (modify_touch (L := w.agent.lookup))
    · rw [Bool.not_true, if_neg Bool.false_ne_true, if_pos rfl]
      exact modify_touch (a := w.agent) (L := w.agent.lookup)
  rw [hresume]
  split
  case isTrue hcur =>
    obtain ⟨hopen, hhas⟩ := current_eq_true.mp hcur
    have tg := t.tracks g hhas
    obtain ⟨hreq, hrem⟩ := (t.endOfCandidates q g howner).2 hcur
    have hnil : (w.agent.remoteSide g).resolutions = [] := by
      rw [List.eq_nil_iff_forall_not_mem]
      intro p hp
      have hmem := hrem p hp
      rw [t.wf.results q hsettled] at hmem
      exact nomatch hmem
    refine t.resumed wf hnext houtcome hremaining howner hgone hothers
      (fun g' hg' hne => remoteSide_modify_of_ne _ hhas hg' hne) (fun _ _ h => nomatch h)
      (fun hg p => ⟨fun hp => ⟨hp, hres hg p hp⟩, fun hp => hp.1⟩) rfl fun _ => ?_
    exact
      { requested := by rw [remoteSide_touch_self]; exact tg.requested
        ended := by
          rw [remoteSide_touch_self]
          exact fun _ => ⟨hreq, hnil⟩
        owned := by
          rw [remoteSide_touch_self, hnil]
          exact fun _ hp => nomatch hp
        given := by
          intro c resolution hgiven
          rcases tg.given c resolution hgiven with hdone | ⟨-, p, -, h⟩ | ⟨h, -⟩
          · refine Or.inl (hdone.mono (fun p _ => by rw [promises_touch, houtcome]) fun c hc => ?_)
            rwa [remoteSide_touch_self]
          · have hmem := h.mem
            rw [hnil] at hmem
            exact nomatch hmem
          · exact nomatch h.symm.trans hopen
        origin := by
          rw [remoteSide_touch_self]
          intro c hc
          obtain ⟨c₀, resolution, hgiven, hresolves, hsettled⟩ := tg.origin c hc
          refine ⟨c₀, resolution, hgiven, ?_, fun p hp => ?_⟩
          · exact (resolvesTo_iff hsettled (fun p _ => by rw [promises_touch, houtcome]) c).mpr
              hresolves
          · rw [promises_touch, houtcome]
            exact hsettled p hp }
  case isFalse =>
    refine t.resumed wf hnext houtcome hremaining howner hgone hothers
      (fun g' _ _ => by rw [modify_eq_self (f := id) fun _ => rfl]) (fun _ _ h => nomatch h)
      (fun hg p => ⟨fun hp => ⟨hp, hres hg p hp⟩, fun hp => hp.1⟩) rfl fun hhas => ?_
    refine (t.tracks g hhas).frame remoteSide_touch_self closed_touch
      (fun p _ => by rw [promises_touch, houtcome]) hkeep

/-- What the rest of a call for a candidate does: it crosses the resolution out, and adds what the name
resolves to if the generation is still the current one. -/
lemma CandidateAgent.resume_candidate_spec (a : CandidateAgent) (P : Promises Continuation String)
    (p : ℕ) (g : Generation) (c : Candidate) : ∃ added : List Candidate,
    { a with promises := P }.resume p (.candidate g c) =
        a.touch (fun r => { r with
          resolutions := r.resolutions.filter (· ≠ p)
          remoteCandidates := r.remoteCandidates ++ added }) g a.lookup P ∧
      (∀ c' ∈ added, a.current g = true ∧
        ∃ host, P.outcome p = some (.fulfilled host) ∧ c' = { c with host }) ∧
      (a.current g = true → (a.remoteSide g).remoteCandidatesEnd = false →
        ∀ host, P.outcome p = some (.fulfilled host) →
          ({ c with host } : Candidate).validateRemoteCandidate →
            ({ a with promises := P }.resume p (.candidate g c)).Listed g { c with host }) := by
  set a₁ := a.touch (fun r => { r with resolutions := r.resolutions.filter (· ≠ p) }) g a.lookup P
    with ha₁
  have hmodify : ({ a with promises := P } : CandidateAgent).modify
      (fun r => { r with resolutions := r.resolutions.filter (· ≠ p) }) g = a₁ :=
    modify_touch (a := a) (L := a.lookup)
  have hsame : a₁ = a.touch (fun r => { r with
      resolutions := r.resolutions.filter (· ≠ p)
      remoteCandidates := r.remoteCandidates ++ [] }) g a.lookup P := by
    simp [ha₁]
  rw [CandidateAgent.resume]
  simp only [hmodify]
  rw [ha₁, promises_touch, current_touch, remoteSide_touch_self, ← ha₁]
  split
  case h_1 host hhost =>
    split
    case isTrue hstale =>
      refine ⟨[], hsame, by simp, fun hcur hend => ?_⟩
      rw [hcur, hend] at hstale
      exact absurd hstale Bool.false_ne_true
    case isFalse hopen =>
      rw [Bool.or_eq_true, not_or, Bool.not_eq_true, Bool.not_eq_false'] at hopen
      have hcur₁ : a₁.current g = true := current_touch.trans hopen.1
      obtain ⟨added, hpush, hadded, hlisted⟩ := push_spec (c := { c with host }) hcur₁
      refine ⟨added, ?_, ?_, ?_⟩
      · rw [hpush, ha₁]
        cases g <;> simp [touch, CandidateAgent.modify]
      · intro c' hc'
        exact ⟨hopen.1, host, hhost, hadded c' hc'⟩
      · intro _ _ host' hhost' hvalid
        obtain rfl : host = host' := by
          rw [hhost] at hhost'
          simpa using hhost'
        exact hlisted hvalid
  case h_2 hnot =>
    refine ⟨[], hsame, by simp, fun _ _ host hhost => ?_⟩
    exact absurd hhost (hnot host)

/-- The rest of a call for a candidate puts what its name resolves to into the list. -/
lemma Tracked.resumeCandidate (t : Tracked w) {g : Generation} {c : Candidate}
    {P : Promises Continuation String} {p₀ : ℕ} (wf : P.Wf)
    (hnext : P.next = w.agent.promises.next) (houtcome : P.outcome = w.agent.promises.outcome)
    (hremaining : P.remaining = w.agent.promises.remaining)
    (howner : w.agent.promises.owner p₀ = some (.candidate g c))
    (hsettled : w.agent.promises.outcome p₀ ≠ none) (hgone : P.owner p₀ = none)
    (hothers : ∀ q, q ≠ p₀ → P.owner q = w.agent.promises.owner q) :
    Tracked { w with agent := { w.agent with promises := P }.resume p₀ (.candidate g c) } := by
  obtain ⟨added, hresume, hadded, hlisted⟩ := w.agent.resume_candidate_spec P p₀ g c
  rw [hresume] at hlisted ⊢
  -- the resolution belongs to no other generation
  have hmine : ∀ g', w.agent.Has g' → g' ≠ g → p₀ ∉ (w.agent.remoteSide g').resolutions := by
    intro g' hg' hne hmem
    obtain ⟨c', hc'⟩ := (t.tracks g' hg').owned p₀ hmem
    rw [howner] at hc'
    exact hne (Continuation.candidate.inj (Option.some.inj hc')).1.symm
  have hkeep : ∀ p k, p ≠ p₀ → w.agent.promises.owner p = some k → P.owner p = some k :=
    fun p k hne hk => (hothers p hne).trans hk
  have hout : ∀ p, w.agent.promises.outcome p ≠ none → P.outcome p = w.agent.promises.outcome p :=
    fun p _ => by rw [houtcome]
  refine t.resumed wf hnext houtcome hremaining howner hgone hothers ?_ ?_ ?_ rfl ?_
  · intro g' hg' hne
    by_cases hhas : w.agent.Has g
    · exact remoteSide_modify_of_ne _ hhas hg' hne
    · have hnil : added = [] := by
        rw [List.eq_nil_iff_forall_not_mem]
        intro c' hc'
        exact hhas (current_eq_true.mp (hadded c' hc').1).2
      rcases remoteSide_modify w.agent _ g g' with h | h
      · rw [h, hnil, List.append_nil]
        have hfilter : (w.agent.remoteSide g').resolutions.filter (· ≠ p₀) =
            (w.agent.remoteSide g').resolutions := by
          rw [List.filter_eq_self]
          intro p hp
          have hne' : p ≠ p₀ := by rintro rfl; exact hmine g' hg' hne hp
          simpa using hne'
        rw [hfilter]
      · exact h
  · intro g' c' h
    exact (Continuation.candidate.inj h).1.symm
  · intro _ p
    simp
  · intro hhas
    have tg := t.tracks g hhas
    have hmem : ∀ p, p ∈ (w.agent.remoteSide g).resolutions → p ≠ p₀ →
        p ∈ (w.agent.remoteSide g).resolutions.filter (· ≠ p₀) := by
      intro p hp hne
      rw [List.mem_filter]
      exact ⟨hp, by simpa using hne⟩
    exact
      { requested := by rw [remoteSide_touch_self]; exact tg.requested
        ended := by
          rw [remoteSide_touch_self]
          intro hend
          obtain ⟨hreq, hnil⟩ := tg.ended hend
          exact ⟨hreq, by simp [hnil]⟩
        owned := by
          rw [remoteSide_touch_self]
          intro p hp
          obtain ⟨hp, hne⟩ := List.mem_filter.mp hp
          obtain ⟨c', hc'⟩ := tg.owned p hp
          exact ⟨c', hkeep p _ (by simpa using hne) hc'⟩
        given := by
          intro c' resolution hgiven
          rcases tg.given c' resolution hgiven with hdone | ⟨hopen, p, rfl, hres⟩ | ⟨hclosed, hend⟩
          · refine Or.inl (hdone.mono hout fun c'' hc'' => ?_)
            rw [remoteSide_touch_self]
            exact List.mem_append_left _ hc''
          · by_cases hne : p = p₀
            · -- this is the call that is resumed
              subst hne
              left
              have hcur : w.agent.current g = true := current_eq_true.mpr ⟨hopen, hhas⟩
              have hend : (w.agent.remoteSide g).remoteCandidatesEnd = false := by
                by_contra hend
                have hnil := (tg.ended (Bool.eq_true_of_not_eq_false hend)).2
                have hin := hres.mem
                rw [hnil] at hin
                exact nomatch hin
              obtain rfl : c = c' :=
                (Continuation.candidate.inj (Option.some.inj (howner.symm.trans hres.owner))).2
              refine ⟨?_, ?_⟩
              · intro p' hp'
                obtain rfl := Option.some.inj hp'
                rwa [promises_touch, houtcome]
              · intro c'' hresolves hvalid
                rw [ResolvesTo, if_pos hres.isLocal] at hresolves
                obtain ⟨p', host, hp', hhost, rfl⟩ := hresolves
                obtain rfl := Option.some.inj hp'
                exact hlisted hcur hend host hhost hvalid
            · refine Or.inr (Or.inl ⟨closed_touch.trans hopen, p, rfl, hres.isLocal, ?_,
                hkeep p _ hne hres.owner⟩)
              rw [remoteSide_touch_self]
              exact hmem p hres.mem hne
          · refine Or.inr (Or.inr ⟨closed_touch.trans hclosed, ?_⟩)
            rw [remoteSide_touch_self]
            exact hend
        origin := by
          rw [remoteSide_touch_self]
          intro c' hc'
          rcases List.mem_append.mp hc' with hc' | hc'
          · obtain ⟨c₀, resolution, hgiven, hresolves, hsettled'⟩ := tg.origin c' hc'
            refine ⟨c₀, resolution, hgiven, (resolvesTo_iff hsettled' hout c').mpr hresolves, ?_⟩
            intro p hp
            rw [promises_touch, houtcome]
            exact hsettled' p hp
          · obtain ⟨hcur, host, hhost, rfl⟩ := hadded c' hc'
            obtain ⟨hlocal, -, hgiven⟩ := (t.candidate p₀ g c howner).2 hcur
            refine ⟨c, some p₀, hgiven, ?_, fun p hp => ?_⟩
            · rw [ResolvesTo, if_pos hlocal]
              exact ⟨p₀, host, rfl, hhost, rfl⟩
            · obtain rfl := Option.some.inj hp
              rwa [promises_touch, houtcome] }

/-! ## Runs -/

lemma Tracked.runJob (t : Tracked w) : Tracked { w with agent := w.agent.runJob } := by
  have hrun := t.wf.run
  unfold CandidateAgent.runJob
  generalize w.agent.promises.run = result at hrun
  cases hrun with
  | quiet hquiet =>
    refine t.quiet hquiet (fun _ hp => hp) t.provisional (fun g h => ?_) rfl fun g h => ?_
    · cases g <;> exact h
    · left
      cases g <;> exact ⟨h, rfl⟩
  | @resume P p k wf hnext houtcome hremaining howner hsettled hgone hothers =>
    cases k with
    | candidate g c =>
      exact t.resumeCandidate wf hnext houtcome hremaining howner hsettled hgone hothers
    | endOfCandidates g =>
      exact t.resumeEnd wf hnext houtcome hremaining howner hsettled hgone hothers

lemma current_of_liveGeneration {a : CandidateAgent} {g : Generation}
    (h : a.liveGeneration = some g) : a.current g = true := by
  unfold liveGeneration at h
  split at h
  case isTrue => cases h
  case isFalse hopen =>
    obtain rfl := Option.some.inj h
    exact current_eq_true.mpr ⟨by simpa using hopen, rfl⟩

lemma current_of_provisionalGeneration {a : CandidateAgent} {g : Generation}
    (h : a.provisionalGeneration = some g) : a.current g = true := by
  unfold provisionalGeneration at h
  split at h
  case h_1 => cases h
  case h_2 o ho =>
    split at h
    case isTrue => cases h
    case isFalse hopen =>
      obtain rfl := Option.some.inj h
      exact current_eq_true.mpr ⟨by simpa using hopen, ho, rfl⟩

lemma Tracked.call (t : Tracked w) {g : Generation} (hcur : w.agent.current g = true)
    (opens : Bool) (remoteCandidate : Option Candidate) :
    Tracked (w.call (some g) remoteCandidate (w.agent.add g opens remoteCandidate)) := by
  cases remoteCandidate with
  | none => exact t.addEnd hcur
  | some c => exact t.addCandidate hcur

theorem Tracked.step (t : Tracked w) (e : TrickleEvent) : Tracked (w.step e) := by
  cases e with
  | addRemoteCandidate opens c =>
    simp only [Trickle.step, CandidateAgent.addRemoteCandidate]
    cases hg : w.agent.liveGeneration with
    | none => exact t
    | some g => exact t.call (current_of_liveGeneration hg) opens c
  | addProvisionalRemoteCandidate opens c =>
    simp only [Trickle.step, CandidateAgent.addProvisionalRemoteCandidate]
    cases hg : w.agent.provisionalGeneration with
    | none => exact t
    | some g => exact t.call (current_of_provisionalGeneration hg) opens c
  | settleLookup resolution address => exact t.settleLookup resolution address
  | runJob => exact t.runJob
  | restart => exact t.restart
  | restartRemote => exact t.restartRemote
  | close => exact t.close
  | stageLocalCredentials u => exact t.stageLocalCredentials u
  | discardStagedLocalCredentials u => exact t.discardStagedLocalCredentials u
  | setProvisionalRemoteParams u p => exact t.setProvisionalRemoteParams u p

lemma tracked_initial : Tracked {} where
  wf := wf_empty
  provisional := fun _ h => nomatch h
  lookup := fun _ h => nomatch h
  candidate := fun _ _ _ h => nomatch h
  endOfCandidates := fun _ _ h => nomatch h
  fresh := fun _ _ => rfl
  tracks := by
    intro g hg
    cases g with
    | live n => exact Tracks.empty rfl
    | provisional o r => exact nomatch hg.1

theorem tracked_of_reachable (h : Trickle.Reachable {} w) : Tracked w := by
  refine Transition.Run.invariant Tracked tracked_initial ?_ h
  intro w e w' t _ hstep
  obtain rfl := Option.some.inj hstep
  exact t.step e

/-! ## A completed generation -/

/-- From one state to another the end of a generation is not taken back, and where it has been reached
the candidates are those of the first state. -/
structure Frozen (r r' : RemoteSide) : Prop where
  ended : r.remoteCandidatesEnd = true → r'.remoteCandidatesEnd = true
  same : r'.remoteCandidatesEnd = true → r'.remoteCandidates = r.remoteCandidates

lemma Frozen.refl (r : RemoteSide) : Frozen r r := ⟨fun h => h, fun _ => rfl⟩

lemma Frozen.of_eq {r r' : RemoteSide} (h : r' = r) : Frozen r r' := h ▸ Frozen.refl r

lemma frozen_push {a : CandidateAgent} {g : Generation} {c : Candidate}
    (hcur : a.current g = true) (hend : (a.remoteSide g).remoteCandidatesEnd = false) :
    Frozen (a.remoteSide g) ((a.push g c).remoteSide g) := by
  obtain ⟨added, heq, -⟩ := push_spec (c := c) hcur
  rw [heq, remoteSide_modify_self]
  exact ⟨fun h => h, fun h => nomatch hend.symm.trans h⟩

/-- What is touched without adding a candidate. -/
lemma frozen_touch {a : CandidateAgent} {g g' : Generation} {f : RemoteSide → RemoteSide}
    {L : Option (List ℕ)} {P : Promises Continuation String}
    (hf : ∀ r, (f r).remoteCandidates = r.remoteCandidates ∧
      (r.remoteCandidatesEnd = true → (f r).remoteCandidatesEnd = true)) :
    Frozen (a.remoteSide g') ((a.touch f g L P).remoteSide g') := by
  rw [remoteSide_touch]
  rcases remoteSide_modify a f g g' with h | h
  · rw [h]
    exact ⟨(hf _).2, fun _ => (hf _).1⟩
  · exact Frozen.of_eq h

lemma frozen_add {a : CandidateAgent} {g g' : Generation} (opens : Bool) (c : Option Candidate)
    (hcur : a.current g = true) (hg' : a.Has g') :
    Frozen (a.remoteSide g') ((a.add g opens c).remoteSide g') := by
  by_cases hrefused : ((a.remoteSide g).remoteCandidatesEnd ||
      (a.remoteSide g).remoteCandidatesEndRequested) = true
  case pos => exact Frozen.of_eq (by rw [add_refused hrefused])
  case neg =>
    cases c with
    | none =>
      by_cases hnil : (a.remoteSide g).resolutions = []
      · rw [add_end_now hrefused hnil]
        exact frozen_touch fun _ => ⟨rfl, fun _ => rfl⟩
      · rw [add_end_later hrefused hnil]
        exact frozen_touch fun _ => ⟨rfl, fun h => h⟩
    | some c =>
      by_cases hlocal : c.isLocal = true
      case pos =>
        by_cases hsocket : (a.lookup.isNone && !opens) = true
        · exact Frozen.of_eq (by rw [add_candidate_noSocket hrefused hlocal hsocket])
        · rw [add_candidate_lookup hrefused hlocal hsocket]
          exact frozen_touch fun _ => ⟨rfl, fun h => h⟩
      case neg =>
        rw [add_candidate_push hrefused (Bool.eq_false_of_not_eq_true hlocal)]
        by_cases hne : g' = g
        · rw [hne]
          refine frozen_push hcur ?_
          rw [Bool.or_eq_true, not_or, Bool.not_eq_true] at hrefused
          exact hrefused.1
        · obtain ⟨added, heq, -⟩ := push_spec (c := c) hcur
          refine Frozen.of_eq ?_
          rw [heq, remoteSide_modify_of_ne _ (current_eq_true.mp hcur).2 hg' hne]

lemma Tracked.frozen_resume (t : Tracked w) {P : Promises Continuation String} {p : ℕ}
    {k : Continuation} {g' : Generation} (howner : w.agent.promises.owner p = some k)
    (hg' : w.agent.Has g') : Frozen (w.agent.remoteSide g')
      ((({ w.agent with promises := P } : CandidateAgent).resume p k).remoteSide g') := by
  have hpromises : ({ w.agent with promises := P } : CandidateAgent).remoteSide g' =
      w.agent.remoteSide g' := by
    cases g' <;> rfl
  cases k with
  | endOfCandidates g =>
    rw [CandidateAgent.resume]
    cases ({ w.agent with promises := P } : CandidateAgent).current g
    · exact Frozen.of_eq hpromises
    · rw [Bool.not_true, if_neg Bool.false_ne_true,
        modify_touch (a := w.agent) (L := w.agent.lookup)]
      exact frozen_touch fun _ => ⟨rfl, fun _ => rfl⟩
  | candidate g c =>
    obtain ⟨added, hresume, hadded, -⟩ := w.agent.resume_candidate_spec P p g c
    rw [hresume]
    by_cases hnil : added = []
    · rw [hnil]
      exact frozen_touch fun _ => ⟨List.append_nil _, fun h => h⟩
    · obtain ⟨c', hc'⟩ := List.exists_mem_of_ne_nil added hnil
      have hcur := (hadded c' hc').1
      have hhas := (current_eq_true.mp hcur).2
      by_cases hne : g' = g
      · have hmem := ((t.candidate p g c howner).2 hcur).2.1
        have hend : (w.agent.remoteSide g).remoteCandidatesEnd = false := by
          by_contra hend
          rw [((t.tracks g hhas).ended (Bool.eq_true_of_not_eq_false hend)).2] at hmem
          exact nomatch hmem
        rw [hne, remoteSide_touch_self]
        exact ⟨fun h => h, fun h => nomatch hend.symm.trans h⟩
      · refine Frozen.of_eq ?_
        rw [remoteSide_touch, remoteSide_modify_of_ne _ hhas hg' hne]

lemma Tracked.frozen_runJob (t : Tracked w) {g : Generation} (hg : w.agent.Has g) :
    Frozen (w.agent.remoteSide g) (w.agent.runJob.remoteSide g) := by
  have hrun := t.wf.run
  unfold CandidateAgent.runJob
  generalize w.agent.promises.run = result at hrun
  cases hrun with
  | quiet => exact Frozen.of_eq (by cases g <;> rfl)
  | resume wf hnext houtcome hremaining howner => exact t.frozen_resume howner hg

/-- A generation that survives the step of an event keeps its remote half unless the event is a call
for it or a job. -/
theorem Tracked.frozen (t : Tracked w) {e : TrickleEvent} {g : Generation} (hg : w.agent.Has g)
    (hg' : (w.step e).agent.Has g) :
    Frozen (w.agent.remoteSide g) ((w.step e).agent.remoteSide g) := by
  cases e with
  | addRemoteCandidate opens c =>
    simp only [Trickle.step, CandidateAgent.addRemoteCandidate]
    cases hlive : w.agent.liveGeneration with
    | none => exact Frozen.refl _
    | some g₀ => exact frozen_add opens c (current_of_liveGeneration hlive) hg
  | addProvisionalRemoteCandidate opens c =>
    simp only [Trickle.step, CandidateAgent.addProvisionalRemoteCandidate]
    cases hprovisional : w.agent.provisionalGeneration with
    | none => exact Frozen.refl _
    | some g₀ => exact frozen_add opens c (current_of_provisionalGeneration hprovisional) hg
  | settleLookup resolution address =>
    refine Frozen.of_eq ?_
    simp only [Trickle.step, CandidateAgent.settleLookup]
    split
    · rfl
    · split <;> cases g <;> rfl
  | runJob => exact t.frozen_runJob hg
  | restart =>
    cases g with
    | live n => exact absurd (hg.trans hg'.symm) (Nat.ne_of_lt (Nat.lt_succ_self _))
    | provisional o r => exact nomatch hg'.1
  | restartRemote =>
    cases g with
    | live n => exact absurd (hg.trans hg'.symm) (Nat.ne_of_lt (Nat.lt_succ_self _))
    | provisional o r => exact nomatch hg'.1
  | close =>
    cases g with
    | live n => exact ⟨fun h => h, fun _ => rfl⟩
    | provisional o r => exact nomatch hg'.1
  | stageLocalCredentials u =>
    cases g with
    | live n => exact Frozen.refl _
    | provisional o r =>
      have hlt := t.provisional o hg.1
      have heq : w.agent.nextGeneration = o := Option.some.inj hg'.1
      omega
  | discardStagedLocalCredentials u =>
    refine Frozen.of_eq ?_
    simp only [Trickle.step, CandidateAgent.discardStagedLocalCredentials]
    split
    · rfl
    · split <;> cases g <;> rfl
  | setProvisionalRemoteParams u p =>
    refine Frozen.of_eq ?_
    simp only [Trickle.step, CandidateAgent.setProvisionalRemoteParams] at hg' ⊢
    split
    case h_1 => rfl
    case h_2 o ho =>
      split
      case isTrue => rfl
      case isFalse hnew =>
        cases g with
        | live n => rfl
        | provisional o' r =>
          obtain rfl : o' = o := Option.some.inj (hg.1.symm.trans ho)
          have hrevision : (w.agent.generations o').revision = r := hg.2
          have hrevision' := hg'.2
          simp only [ho, if_neg hnew, update_self] at hrevision'
          omega

/-- **End-of-candidates.**  In every state that calls, lookups, jobs and restarts lead to, and for the
live generation as for the provisional one: once the end of the candidates has been reached, every
supported candidate that was given before it and whose name resolves is listed; the list holds
candidates of that generation only, given before its end; and a step that leaves the generation at its
end does not change the list. -/
theorem remoteCandidates_complete (h : Trickle.Reachable {} w) {g : Generation}
    (hg : w.agent.Has g) :
    ((w.agent.remoteSide g).remoteCandidatesEnd = true → ∀ c resolution c',
      GivenBeforeEnd c resolution (w.calls g) → w.agent.ResolvesTo c resolution c' →
        c'.validateRemoteCandidate → w.agent.Listed g c') ∧
    (∀ c ∈ (w.agent.remoteSide g).remoteCandidates, ∃ c₀ resolution,
      GivenBeforeEnd c₀ resolution (w.calls g) ∧ w.agent.ResolvesTo c₀ resolution c) ∧
    ∀ e, (w.step e).agent.Has g →
      Frozen (w.agent.remoteSide g) ((w.step e).agent.remoteSide g) := by
  have t := tracked_of_reachable h
  have tg := t.tracks g hg
  refine ⟨?_, ?_, fun e hg' => t.frozen hg hg'⟩
  · intro hend c resolution c' hgiven hresolves hvalid
    rcases tg.given c resolution hgiven with hdone | ⟨-, p, -, hres⟩ | ⟨-, hnot⟩
    · exact hdone.listed c' hresolves hvalid
    · have hmem := hres.mem
      rw [(tg.ended hend).2] at hmem
      exact nomatch hmem
    · exact nomatch hnot.symm.trans hend
  · intro c hc
    obtain ⟨c₀, resolution, hgiven, hresolves, -⟩ := tg.origin c hc
    exact ⟨c₀, resolution, hgiven, hresolves⟩

section Example

/-- Two candidates with the same address. -/
private abbrev hostCandidate : Candidate := ⟨"192.0.2.1", 5000, "udp", "host"⟩
private abbrev srflxCandidate : Candidate := ⟨"192.0.2.1", 5000, "udp", "srflx"⟩

/-- A name is resolved while end-of-candidates waits for it, and the end follows. -/
private abbrev resolvingEvents : List TrickleEvent :=
  [.addRemoteCandidate true (some ⟨"a.local", 5000, "udp", "host"⟩), .addRemoteCandidate true none,
    .settleLookup 0 (some "192.0.2.1"), .runJob, .runJob, .runJob]

theorem remoteCandidates_complete_live :
    Candidate.mk "192.0.2.1" 5000 "udp" "host" ∈
      (resolvingEvents.foldl Trickle.step {}).agent.remote.remoteCandidates := by
  have hrun : resolvingEvents.foldlM (fun s e => some (Trickle.step s e)) {} =
      some (resolvingEvents.foldl Trickle.step {}) := List.foldlM_pure
  have hreachable : Trickle.Reachable {} (resolvingEvents.foldl Trickle.step {}) :=
    Transition.reachable_of_foldlM hrun
  have hcomplete := remoteCandidates_complete hreachable (g := .live 1) (by decide +kernel)
  have hend : ((resolvingEvents.foldl Trickle.step {}).agent.remoteSide
      (.live 1)).remoteCandidatesEnd = true := by decide +kernel
  have hgiven : GivenBeforeEnd ⟨"a.local", 5000, "udp", "host"⟩ (some 0)
      ((resolvingEvents.foldl Trickle.step {}).calls (.live 1)) := .there (.here (by simp))
  refine hcomplete.1 hend _ _ _ hgiven ?_ (by decide)
  rw [CandidateAgent.ResolvesTo, if_pos (by decide +kernel)]
  exact ⟨0, "192.0.2.1", rfl, by decide +kernel, rfl⟩

/-- **Candidates with one address.**  The list of a provisional generation takes only the first of them,
so that the second is missing when the end has been reached. -/
theorem provisional_duplicate_missing :
    let events := [.stageLocalCredentials "u",
      .addProvisionalRemoteCandidate true (some hostCandidate),
      .addProvisionalRemoteCandidate true (some srflxCandidate),
      .addProvisionalRemoteCandidate true none]
    let w := events.foldl Trickle.step {}
    w.agent.Has (.provisional 0 0) ∧
      (w.agent.remoteSide (.provisional 0 0)).remoteCandidatesEnd = true ∧
      GivenBeforeEnd srflxCandidate none (w.calls (.provisional 0 0)) ∧
      w.agent.ResolvesTo srflxCandidate none srflxCandidate ∧
      srflxCandidate.validateRemoteCandidate = true ∧
      srflxCandidate ∉ (w.agent.remoteSide (.provisional 0 0)).remoteCandidates := by
  intro events w
  have hcalls : w.calls (.provisional 0 0) =
      [.endOfCandidates, .candidate srflxCandidate none, .candidate hostCandidate none] := by
    decide +kernel
  refine ⟨by decide +kernel, by decide +kernel, ?_, ?_, by decide, by decide +kernel⟩
  · rw [hcalls]
    exact .there (.here (by simp))
  rw [CandidateAgent.ResolvesTo, if_neg (by decide +kernel)]

end Example

end Werift.Ice
