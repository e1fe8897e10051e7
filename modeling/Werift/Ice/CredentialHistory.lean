import Werift.Js.Map
import Werift.Lib.Transition

/-!
# Local ICE credentials across restarts (`ice/src/ice.ts`)

The history of ufrags and passwords that `restart`, `restartRemote`, `stageLocalCredentials`,
`discardStagedLocalCredentials` and `commitLocalCredentials` keep, and the password with which a
connectivity check is answered.
-/

namespace Werift.Ice

/-- A username fragment with its password. -/
structure Credentials where
  usernameFragment : String
  password : String
deriving DecidableEq

/-- The part of a `Connection` that its local credentials are in.  Of the provisional generation these are
the credentials it was staged with. -/
structure CredentialAgent where
  localPasswordPrefix : Option String
  localUsername : String
  localPassword : String
  userHistory : Js.Map String String := {}
  restarted : Bool := false
  provisional : Option Credentials := none

/-- `text.length`: characters beyond `U+FFFF` count twice. -/
def textLength (text : String) : ℕ := (text.toList.map fun c => if c.toNat < 0x10000 then 1 else 2).sum

/-- Put the configured prefix in the place of the first characters of a random password. -/
def markPassword : Option String → String → String
  | none, password => password
  | some mark, password => mark ++ String.ofList (password.toList.drop (textLength mark))

namespace CredentialAgent

variable (a : CredentialAgent)

/-- `endProvisional()`. -/
def endProvisional : CredentialAgent := { a with provisional := none }

/-- `restart()`: the arguments are what the two calls of `randomString` return. -/
def restart (randomUsername randomPassword : String) : CredentialAgent :=
  let previous : Js.Map String String :=
    if a.restarted then Js.Map.set {} a.localUsername a.localPassword else {}
  let localPassword := markPassword a.localPasswordPrefix randomPassword
  endProvisional
    { a with
      localUsername := randomUsername
      localPassword
      userHistory := previous.set randomUsername localPassword
      restarted := true }

/-- `restartRemote()`. -/
def restartRemote : CredentialAgent := a.endProvisional

/-- `stageLocalCredentials(usernameFragment, password)`. -/
def stageLocalCredentials (c : Credentials) : CredentialAgent :=
  { a with userHistory := a.userHistory.set c.usernameFragment c.password, provisional := some c }

/-- `discardStagedLocalCredentials(usernameFragment)`. -/
def discardStagedLocalCredentials (usernameFragment : String) : CredentialAgent :=
  let a := if a.provisional.map (·.usernameFragment) = some usernameFragment then a.endProvisional else a
  if usernameFragment ≠ a.localUsername then
    { a with userHistory := a.userHistory.delete usernameFragment }
  else a

/-- `commitLocalCredentials(usernameFragment, password)`. -/
def commitLocalCredentials (c : Credentials) : CredentialAgent :=
  let userHistory :=
    if a.localUsername ≠ c.usernameFragment then a.userHistory.delete a.localUsername else a.userHistory
  { a with
    localUsername := c.usernameFragment
    localPassword := c.password
    userHistory := userHistory.set c.usernameFragment c.password }

/-- The password that signs the answer to a check for `localUsername`: of an unknown ufrag, the current
one. -/
def answerPassword (localUsername : String) : String :=
  (a.userHistory.get? localUsername).getD a.localPassword

/-- The credentials of the current generation. -/
def localCredentials : Credentials := ⟨a.localUsername, a.localPassword⟩

/-- `new Connection(..)` with the `restart()` at the end of the constructor. -/
def create (localPasswordPrefix : Option String) (localUsername localPassword randomUsername
    randomPassword : String) : CredentialAgent :=
  restart { localPasswordPrefix, localUsername, localPassword } randomUsername randomPassword

variable {a : CredentialAgent} {u : String}

lemma get?_restart (hrestarted : a.restarted = true) {randomUsername randomPassword : String} :
    (a.restart randomUsername randomPassword).userHistory.get? u =
      if u = randomUsername then some (markPassword a.localPasswordPrefix randomPassword)
      else if u = a.localUsername then some a.localPassword else none := by
  rw [restart, endProvisional]
  dsimp only
  rw [Js.Map.get?_set, if_pos hrestarted, Js.Map.get?_set, Js.Map.get?_empty]

lemma get?_discard {usernameFragment : String} :
    (a.discardStagedLocalCredentials usernameFragment).userHistory.get? u =
      if u = usernameFragment ∧ usernameFragment ≠ a.localUsername then none else a.userHistory.get? u := by
  have hsame : ∀ b : CredentialAgent, b.userHistory = a.userHistory → b.localUsername = a.localUsername →
      (if usernameFragment ≠ b.localUsername then
        { b with userHistory := b.userHistory.delete usernameFragment } else b).userHistory.get? u =
      if u = usernameFragment ∧ usernameFragment ≠ a.localUsername then none else a.userHistory.get? u := by
    intro b hhistory hname
    rw [hname]
    by_cases hcurrent : usernameFragment = a.localUsername
    · rw [if_neg (not_not.mpr hcurrent), if_neg fun h => h.2 hcurrent, hhistory]
    · rw [if_pos hcurrent]
      dsimp only
      rw [hhistory, Js.Map.get?_delete]
      simp only [hcurrent, ne_eq, not_false_eq_true, and_true]
  rw [discardStagedLocalCredentials]
  apply hsame <;> split_ifs <;> rfl

lemma get?_commit {c : Credentials} :
    (a.commitLocalCredentials c).userHistory.get? u =
      if u = c.usernameFragment then some c.password
      else if u = a.localUsername then none else a.userHistory.get? u := by
  rw [commitLocalCredentials]
  dsimp only
  rw [Js.Map.get?_set]
  by_cases hu : u = c.usernameFragment
  · rw [if_pos hu, if_pos hu]
  · rw [if_neg hu, if_neg hu]
    by_cases hcurrent : a.localUsername = c.usernameFragment
    · rw [if_neg (not_not.mpr hcurrent), if_neg fun h => hu (h.trans hcurrent)]
    · rw [if_pos hcurrent, Js.Map.get?_delete]

variable (a) in
lemma localCredentials_discard (usernameFragment : String) :
    (a.discardStagedLocalCredentials usernameFragment).localCredentials = a.localCredentials := by
  rw [discardStagedLocalCredentials]
  split_ifs <;> rfl

variable (a) in
lemma restarted_discard (usernameFragment : String) :
    (a.discardStagedLocalCredentials usernameFragment).restarted = a.restarted := by
  rw [discardStagedLocalCredentials]
  split_ifs <;> rfl

variable (a) in
lemma provisional_discard (usernameFragment : String) :
    (a.discardStagedLocalCredentials usernameFragment).provisional =
      a.provisional.filter fun d => d.usernameFragment ≠ usernameFragment := by
  have hsame : ∀ b : CredentialAgent, (if usernameFragment ≠ b.localUsername then
      { b with userHistory := b.userHistory.delete usernameFragment } else b).provisional =
      b.provisional := by
    intro b
    split_ifs <;> rfl
  rw [discardStagedLocalCredentials, hsame]
  cases hd : a.provisional with
  | none => rw [Option.map_none, if_neg nofun, hd, Option.filter_none]
  | some d =>
    by_cases hu : d.usernameFragment = usernameFragment
    · simp [hu, endProvisional, Option.filter]
    · simp [hu, hd, Option.filter]

end CredentialAgent

/-- A call of one of the five methods. -/
inductive CredentialCall
  | restart (randomUsername randomPassword : String)
  | restartRemote
  | stageLocalCredentials (c : Credentials)
  | discardStagedLocalCredentials (usernameFragment : String)
  | commitLocalCredentials (c : Credentials)

/-- What a call does to the agent. -/
def CredentialAgent.call (a : CredentialAgent) : CredentialCall → CredentialAgent
  | .restart randomUsername randomPassword => a.restart randomUsername randomPassword
  | .restartRemote => a.restartRemote
  | .stageLocalCredentials c => a.stageLocalCredentials c
  | .discardStagedLocalCredentials usernameFragment => a.discardStagedLocalCredentials usernameFragment
  | .commitLocalCredentials c => a.commitLocalCredentials c

/-! ## The generations -/

/-- The local generations an agent may be asked for: the current one, the one that the last restart
replaced, and a provisional one. -/
structure Generations where
  current : Credentials
  replaced : Option Credentials := none
  provisional : Option Credentials := none

namespace Generations

/-- The credentials of one of the generations. -/
def Live (g : Generations) (c : Credentials) : Prop :=
  c = g.current ∨ g.replaced = some c ∨ g.provisional = some c

/-- The credentials that stay when the provisional generation ends. -/
def Settled (g : Generations) (c : Credentials) : Prop := c = g.current ∨ g.replaced = some c

/-- What a call means for the generations. -/
def call (g : Generations) (localPasswordPrefix : Option String) : CredentialCall → Generations
  | .restart randomUsername randomPassword =>
    { current := ⟨randomUsername, markPassword localPasswordPrefix randomPassword⟩, replaced := some g.current }
  | .restartRemote => { g with provisional := none }
  | .stageLocalCredentials c => { g with provisional := some c }
  | .discardStagedLocalCredentials usernameFragment =>
    { g with provisional := g.provisional.filter fun d => d.usernameFragment ≠ usernameFragment }
  | .commitLocalCredentials c => { g with current := c }

end Generations

/-- The credentials that a call brings. -/
def CredentialCall.credentials (localPasswordPrefix : Option String) : CredentialCall → Option Credentials
  | .restart randomUsername randomPassword =>
    some ⟨randomUsername, markPassword localPasswordPrefix randomPassword⟩
  | .restartRemote => none
  | .stageLocalCredentials c => some c
  | .discardStagedLocalCredentials _ => none
  | .commitLocalCredentials c => some c

/-- An agent beside its generations, with all credentials that ever were those of a generation. -/
structure CredentialSession where
  agent : CredentialAgent
  generations : Generations
  used : List Credentials

namespace CredentialSession

/-- A call of one of the methods. -/
def step (w : CredentialSession) (e : CredentialCall) : CredentialSession where
  agent := w.agent.call e
  generations := w.generations.call w.agent.localPasswordPrefix e
  used := (e.credentials w.agent.localPasswordPrefix).toList ++ w.used

/-- The agent that a constructor returns. -/
def start (localPasswordPrefix : Option String) (localUsername localPassword randomUsername
    randomPassword : String) : CredentialSession :=
  let a := CredentialAgent.create localPasswordPrefix localUsername localPassword randomUsername randomPassword
  ⟨a, { current := a.localCredentials }, [a.localCredentials]⟩

/-- The calls of a list, one after the other. -/
def run (w : CredentialSession) (calls : List CredentialCall) : CredentialSession := calls.foldl step w

/-- The history holds the credentials of the generations only, each ufrag with its own password, and a
check with credentials of the past is not answered with their password. -/
structure Bounded (w : CredentialSession) : Prop where
  history : ∀ u p, w.agent.userHistory.get? u = some p → w.generations.Live ⟨u, p⟩
  answers : ∀ c ∈ w.used, ¬ w.generations.Live c → w.agent.answerPassword c.usernameFragment ≠ c.password

/-- No password is that of two ufrags. -/
def PasswordsDiffer (w : CredentialSession) : Prop :=
  ∀ c ∈ w.used, ∀ d ∈ w.used, c.password = d.password → c.usernameFragment = d.usernameFragment

/-- A call ends the provisional generation with the credentials `d`, and does not take away its entry. -/
def Leaves (w : CredentialSession) (d : Credentials) : CredentialCall → Prop
  | .restart _ _ => False
  | .restartRemote => True
  | .stageLocalCredentials c => d.usernameFragment ≠ c.usernameFragment
  | .discardStagedLocalCredentials usernameFragment =>
    d.usernameFragment = usernameFragment ∧ usernameFragment = w.agent.localUsername
  | .commitLocalCredentials _ => False

/-- A provisional generation that is in the history ends with its entry, or its credentials are those of
another generation as well. -/
def Retires (w : CredentialSession) (e : CredentialCall) : Prop :=
  ∀ d, w.agent.provisional = some d → w.agent.userHistory.get? d.usernameFragment = some d.password →
    w.Leaves d e → w.generations.Settled d

/-- What the agent has in common with its generations. -/
structure Refines (w : CredentialSession) : Prop where
  restarted : w.agent.restarted = true
  current : w.generations.current = w.agent.localCredentials
  provisional : w.generations.provisional = w.agent.provisional
  used : w.agent.localCredentials ∈ w.used

variable {w : CredentialSession} {e : CredentialCall}

lemma refines_start (localPasswordPrefix : Option String) (localUsername localPassword randomUsername
    randomPassword : String) :
    Refines (start localPasswordPrefix localUsername localPassword randomUsername randomPassword) :=
  ⟨rfl, rfl, rfl, List.mem_singleton_self _⟩

lemma Refines.step (hw : w.Refines) (e : CredentialCall) : (w.step e).Refines := by
  obtain ⟨hrestarted, hcurrent, hprovisional, hused⟩ := hw
  cases e with
  | restart randomUsername randomPassword => exact ⟨rfl, rfl, rfl, List.mem_cons_self⟩
  | restartRemote => exact ⟨hrestarted, hcurrent, rfl, hused⟩
  | stageLocalCredentials c => exact ⟨hrestarted, hcurrent, rfl, List.mem_cons_of_mem _ hused⟩
  | commitLocalCredentials c => exact ⟨hrestarted, rfl, hprovisional, List.mem_cons_self⟩
  | discardStagedLocalCredentials usernameFragment =>
    have hsame : (w.agent.discardStagedLocalCredentials usernameFragment).localCredentials =
        w.agent.localCredentials := CredentialAgent.localCredentials_discard _ _
    refine ⟨(CredentialAgent.restarted_discard _ _).trans hrestarted, hcurrent.trans hsame.symm, ?_, ?_⟩
    · change w.generations.provisional.filter _ = _
      rw [hprovisional]
      exact (CredentialAgent.provisional_discard _ _).symm
    · exact hsame ▸ hused

/-! ## The history after a call -/

/-- The history holds the credentials of the generations only. -/
def Contained (w : CredentialSession) : Prop :=
  ∀ u p, w.agent.userHistory.get? u = some p → w.generations.Live ⟨u, p⟩

lemma Refines.contained_restart (hw : w.Refines) (randomUsername randomPassword : String) :
    (w.step (.restart randomUsername randomPassword)).Contained := by
  intro u p hp
  change (w.agent.restart randomUsername randomPassword).userHistory.get? u = some p at hp
  rw [CredentialAgent.get?_restart hw.restarted] at hp
  split_ifs at hp with hnew hold
  · obtain rfl := Option.some.inj hp
    exact .inl (by rw [hnew]; rfl)
  · obtain rfl := Option.some.inj hp
    refine .inr (.inl (congrArg some ?_))
    rw [hw.current, hold, CredentialAgent.localCredentials]

lemma Refines.contained_commit (hw : w.Refines) (hold : w.Contained) (c : Credentials) :
    (w.step (.commitLocalCredentials c)).Contained := by
  intro u p hp
  change (w.agent.commitLocalCredentials c).userHistory.get? u = some p at hp
  rw [CredentialAgent.get?_commit] at hp
  split_ifs at hp with hnew hcurrent
  · obtain rfl := Option.some.inj hp
    exact .inl (by rw [hnew]; rfl)
  · -- an entry under another ufrag is not that of the generation that was current
    rcases hold u p hp with h | h | h
    · rw [hw.current, CredentialAgent.localCredentials, Credentials.mk.injEq] at h
      exact absurd h.1 hcurrent
    · exact .inr (.inl h)
    · exact .inr (.inr h)

/-- An entry that stays is that of a generation that stays, where the provisional one is retired. -/
lemma Refines.settled_of_retires (hw : w.Refines) (hold : w.Contained) (hretires : w.Retires e) {u p : String}
    (hp : w.agent.userHistory.get? u = some p)
    (hleaves : w.agent.provisional = some ⟨u, p⟩ → w.Leaves ⟨u, p⟩ e) : w.generations.Settled ⟨u, p⟩ := by
  rcases hold u p hp with h | h | h
  · exact .inl h
  · exact .inr h
  · rw [hw.provisional] at h
    exact hretires _ h hp (hleaves h)

lemma Refines.contained_step (hw : w.Refines) (hold : w.Contained) (hretires : w.Retires e) :
    (w.step e).Contained := by
  cases e with
  | restart randomUsername randomPassword => exact hw.contained_restart _ _
  | commitLocalCredentials c => exact hw.contained_commit hold c
  | restartRemote =>
    intro u p hp
    rcases hw.settled_of_retires hold hretires hp fun _ => trivial with h | h
    · exact .inl h
    · exact .inr (.inl h)
  | stageLocalCredentials c =>
    intro u p hp
    change (w.agent.userHistory.set _ _).get? u = some p at hp
    rw [Js.Map.get?_set] at hp
    split_ifs at hp with hnew
    · obtain rfl := Option.some.inj hp
      exact .inr (.inr (by rw [hnew]; rfl))
    · rcases hw.settled_of_retires hold hretires hp fun _ => hnew with h | h
      · exact .inl h
      · exact .inr (.inl h)
  | discardStagedLocalCredentials usernameFragment =>
    intro u p hp
    change (w.agent.discardStagedLocalCredentials usernameFragment).userHistory.get? u = some p at hp
    rw [CredentialAgent.get?_discard] at hp
    split_ifs at hp with hdeleted
    by_cases hu : u = usernameFragment
    · have hcurrent : usernameFragment = w.agent.localUsername := by
        by_contra hne
        exact hdeleted ⟨hu, hne⟩
      rcases hw.settled_of_retires hold hretires hp fun _ => ⟨hu, hcurrent⟩ with h | h
      · exact .inl h
      · exact .inr (.inl h)
    · rcases hold u p hp with h | h | h
      · exact .inl h
      · exact .inr (.inl h)
      · refine .inr (.inr ?_)
        change w.generations.provisional.filter _ = _
        rw [h, Option.filter_some, if_pos (decide_eq_true hu)]

/-- Where an entry is left behind, the history holds more than the credentials of the generations. -/
lemma retires_of_contained_step (h : (w.step e).Contained) : w.Retires e := by
  intro d hd hp hleaves
  cases e with
  | restart randomUsername randomPassword => exact hleaves.elim
  | commitLocalCredentials c => exact hleaves.elim
  | restartRemote =>
    rcases h _ _ hp with h | h | h
    · exact .inl h
    · exact .inr h
    · exact absurd h nofun
  | stageLocalCredentials c =>
    have hp' : (w.agent.userHistory.set c.usernameFragment c.password).get? d.usernameFragment =
        some d.password := by
      rw [Js.Map.get?_set, if_neg hleaves, hp]
    rcases h _ _ hp' with h | h | h
    · exact .inl h
    · exact .inr h
    · exact absurd (congrArg Credentials.usernameFragment (Option.some.inj h)).symm hleaves
  | discardStagedLocalCredentials usernameFragment =>
    obtain ⟨hu, hcurrent⟩ := hleaves
    have hp' : (w.agent.discardStagedLocalCredentials usernameFragment).userHistory.get? d.usernameFragment =
        some d.password := by
      rw [CredentialAgent.get?_discard, if_neg fun hboth => hboth.2 hcurrent, hp]
    rcases h _ _ hp' with h | h | h
    · exact .inl h
    · exact .inr h
    · have hmem : (⟨d.usernameFragment, d.password⟩ : Credentials) ∈
          w.generations.provisional.filter fun d => d.usernameFragment ≠ usernameFragment := h
      rw [Option.mem_filter_iff] at hmem
      exact absurd hu (of_decide_eq_true hmem.2)

/-- A bounded history has an entry for each of the three generations at most. -/
lemma Bounded.size_le (h : w.Bounded) : w.agent.userHistory.size ≤ 3 := by
  have hnodup : w.agent.userHistory.entries.Nodup := w.agent.userHistory.nodup.of_map
  let live := w.generations.current :: (w.generations.replaced.toList ++ w.generations.provisional.toList)
  have hsubset : w.agent.userHistory.entries ⊆ live.map fun c => (c.usernameFragment, c.password) := by
    rintro ⟨u, p⟩ hentry
    refine List.mem_map.mpr ⟨⟨u, p⟩, ?_, rfl⟩
    rcases h.history u p (Js.Map.get?_eq_some.mpr hentry) with h | h | h
    · exact h ▸ List.mem_cons_self
    · exact List.mem_cons_of_mem _ (List.mem_append_left _ (Option.mem_toList.mpr h))
    · exact List.mem_cons_of_mem _ (List.mem_append_right _ (Option.mem_toList.mpr h))
  have hone : ∀ o : Option Credentials, o.toList.length ≤ 1 := fun o => by cases o <;> simp
  calc w.agent.userHistory.size ≤ (live.map fun c => (c.usernameFragment, c.password)).length :=
        (List.subperm_of_subset hnodup hsubset).length_le
    _ = 1 + (w.generations.replaced.toList.length + w.generations.provisional.toList.length) := by
        rw [List.length_map, List.length_cons, List.length_append, Nat.add_comm]
    _ ≤ 3 := by
        have := hone w.generations.replaced
        have := hone w.generations.provisional
        omega

/-! ## Runs -/

lemma run_concat (w : CredentialSession) (calls : List CredentialCall) (e : CredentialCall) :
    w.run (calls ++ [e]) = (w.run calls).step e := by
  rw [run, run, List.foldl_append, List.foldl_cons, List.foldl_nil]

lemma Refines.run (hw : w.Refines) (calls : List CredentialCall) : (w.run calls).Refines := by
  induction calls using List.reverseRecOn with
  | nil => exact hw
  | append_singleton calls e ih =>
    rw [run_concat]
    exact ih.step e

lemma used_subset {before calls : List CredentialCall} (hfront : before <+: calls) (w : CredentialSession) :
    (w.run before).used ⊆ (w.run calls).used := by
  obtain ⟨rest, rfl⟩ := hfront
  induction rest using List.reverseRecOn with
  | nil =>
    rw [List.append_nil]
    exact List.Subset.refl _
  | append_singleton rest e ih =>
    rw [← List.append_assoc, run_concat]
    exact List.Subset.trans ih (List.subset_append_right _ _)

/-- Under different passwords, a check with credentials that are not in the history is not answered with
their password. -/
lemma Refines.bounded_iff (hw : w.Refines) (hpasswords : w.PasswordsDiffer) : w.Bounded ↔ w.Contained := by
  refine ⟨Bounded.history, fun h => ⟨h, fun c hused hnot hanswer => ?_⟩⟩
  rw [CredentialAgent.answerPassword] at hanswer
  cases hp : w.agent.userHistory.get? c.usernameFragment with
  | some p =>
    rw [hp, Option.getD_some] at hanswer
    subst hanswer
    exact hnot (h _ _ hp)
  | none =>
    -- the current password: its ufrag is that of `c`, as no other one has the password
    rw [hp, Option.getD_none] at hanswer
    have hname : w.agent.localUsername = c.usernameFragment :=
      hpasswords w.agent.localCredentials hw.used c hused hanswer
    refine hnot (.inl ?_)
    rw [hw.current, CredentialAgent.localCredentials, hname, hanswer]

/-- **Bounded history.**  Where no two ufrags share a password, the history is bounded in all states of a run
if and only if each call retires the provisional generation that it ends. -/
theorem history_bounded_iff (localPasswordPrefix : Option String) (localUsername localPassword randomUsername
    randomPassword : String) (w : CredentialSession)
    (hw : w = start localPasswordPrefix localUsername localPassword randomUsername randomPassword)
    (calls : List CredentialCall) (hpasswords : (w.run calls).PasswordsDiffer) :
    (∀ before, before <+: calls → (w.run before).Bounded) ↔
      ∀ before e, before ++ [e] <+: calls → (w.run before).Retires e := by
  have hrefines : ∀ before, (w.run before).Refines := hw ▸ (refines_start _ _ _ _ _).run
  have hbounded : ∀ before, before <+: calls → ((w.run before).Bounded ↔ (w.run before).Contained) := by
    intro before hfront
    apply (hrefines before).bounded_iff
    exact fun c hc d hd => hpasswords c (used_subset hfront w hc) d (used_subset hfront w hd)
  have hstart : w.Contained := by
    subst hw
    intro u p hp
    change (Js.Map.set {} randomUsername (markPassword localPasswordPrefix randomPassword)).get? u = some p at hp
    rw [Js.Map.get?_set] at hp
    split_ifs at hp with hu
    · obtain rfl := Option.some.inj hp
      exact .inl (by rw [hu]; rfl)
    · exact absurd hp.symm (Option.some_ne_none p)
  calc (∀ before, before <+: calls → (w.run before).Bounded)
      ↔ ∀ before, before <+: calls → (w.run before).Contained := forall₂_congr hbounded
    _ ↔ ∀ before e, before ++ [e] <+: calls → (w.run before).Retires e := by
        refine Transition.forall_prefix_iff hstart fun before e _ hbefore => ?_
        rw [run_concat]
        exact ⟨retires_of_contained_step, (hrefines before).contained_step hbefore⟩

/-- An offer that restarts, and the answer that commits it. -/
def restartCalls : List CredentialCall :=
  [.stageLocalCredentials ⟨"gen0", "restart-password-0"⟩, .restart "9f3c" "6f1d2a",
    .commitLocalCredentials ⟨"gen0", "restart-password-0"⟩]

theorem history_bounded_restart : ((start none "" "" "1b7e" "04c9e1").run restartCalls).Bounded := by
  refine (history_bounded_iff none "" "" "1b7e" "04c9e1" _ rfl restartCalls ?_).mpr ?_ restartCalls
    (List.prefix_refl _)
  · unfold PasswordsDiffer
    decide
  · intro before e hfront
    obtain ⟨rest, h⟩ := hfront
    match before with
    | [] =>
      obtain rfl := (List.cons.inj h).1
      exact nofun
    | [_] =>
      obtain rfl := (List.cons.inj (List.cons.inj h).2).1
      exact fun _ _ _ hleaves => hleaves.elim
    | [_, _] =>
      obtain rfl := (List.cons.inj (List.cons.inj (List.cons.inj h).2).2).1
      exact fun _ _ _ hleaves => hleaves.elim
    | _ :: _ :: _ :: before =>
      have hlength := congrArg List.length h
      simp [restartCalls] at hlength

/-- A second `createOffer` that stages other credentials leaves those of the first one in the history. -/
theorem not_history_bounded : ¬ ∀ (localPasswordPrefix : Option String) (localUsername localPassword
    randomUsername randomPassword : String) (calls : List CredentialCall),
    ((start localPasswordPrefix localUsername localPassword randomUsername randomPassword).run
      calls).PasswordsDiffer →
    ((start localPasswordPrefix localUsername localPassword randomUsername randomPassword).run
      calls).Bounded := by
  intro h
  have hbounded := h none "" "" "1b7e" "04c9e1"
    [.stageLocalCredentials ⟨"gen0", "restart-password-0"⟩, .stageLocalCredentials ⟨"gen1", "restart-password-1"⟩]
    (by unfold PasswordsDiffer; decide)
  have hlive := hbounded.history "gen0" "restart-password-0" (by decide)
  revert hlive
  unfold Generations.Live
  decide

end CredentialSession

end Werift.Ice
