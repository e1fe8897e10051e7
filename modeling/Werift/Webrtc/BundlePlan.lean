import Werift.Webrtc.BundleTopology

/-!
# What `stageLocalOffer` and `preparePending` do

A call that fails has stopped every transport it has created, and the live bindings are as before.  A call that
succeeds gives every accepted m-line the transport of its owner.
-/

namespace Werift.Webrtc.BundleTopology

open Js

namespace Connection

variable {c c₀ c' : Connection} {description offer : SessionDescription} {mid owner : String} {env : Environment}
  {register : String → ℕ → Connection → Connection} {created created' : List ℕ} {transport t : ℕ}
  {current assigned : Map String ℕ} {creation : Except DOMException Unit} {error : DOMException}

/-! ## Steps -/

@[simp] lemma progress_none : c.progress .none = c := rfl

@[simp] lemma transceivers_progress (p : Progress) : (c.progress p).transceivers = c.transceivers := by
  cases p with
  | none => rfl
  | closes => rfl
  | disposes => rw [progress]; split_ifs <;> rfl

@[simp] lemma sctpTransport_progress (p : Progress) : (c.progress p).sctpTransport = c.sctpTransport := by
  cases p with
  | none => rfl
  | closes => rfl
  | disposes => rw [progress]; split_ifs <;> rfl

@[simp] lemma nextTransport_progress (p : Progress) : (c.progress p).nextTransport = c.nextTransport := by
  cases p with
  | none => rfl
  | closes => rfl
  | disposes => rw [progress]; split_ifs <;> rfl

/-- What `close` does is to dispose of the negotiation or nothing that matters to it. -/
lemma progress_cases (p : Progress) : (∃ closed : Bool, c.progress p = { c with isClosed := closed } ∧
    (c.isClosed = true → closed = true)) ∨
      c.isDisposed = false ∧ c.progress p = { c with isClosed := true }.dispose := by
  cases p with
  | none => exact .inl ⟨c.isClosed, rfl, id⟩
  | closes => exact .inl ⟨true, rfl, fun _ => rfl⟩
  | disposes =>
    rw [progress]
    split_ifs with h
    · exact .inl ⟨c.isClosed, rfl, id⟩
    · exact .inr ⟨Bool.eq_false_iff.mpr h, rfl⟩

lemma mem_stopped_progress (p : Progress) (h : t ∈ c.stopped) : t ∈ (c.progress p).stopped := by
  obtain ⟨closed, heq, -⟩ | ⟨-, heq⟩ := c.progress_cases p
  · rw [heq]
    exact h
  · rw [heq]
    exact List.mem_append_right _ h

lemma createTransport_eq_ok (h : c.createTransport creation = .ok (transport, c')) :
    c.isClosed = false ∧ transport = c.nextTransport ∧
      c' = { c with
        createdTransports := c.createdTransports ++ [c.nextTransport]
        nextTransport := c.nextTransport + 1 } := by
  unfold createTransport at h
  split_ifs at h with hclosed
  cases creation with
  | error e => exact absurd h nofun
  | ok u =>
    obtain ⟨rfl, rfl⟩ := Prod.mk.inj (Except.ok.inj h)
    exact ⟨Bool.eq_false_iff.mpr hclosed, rfl, rfl⟩

/-- What the single steps of both functions preserve. -/
structure Preserved (register : String → ℕ → Connection → Connection) (P : List ℕ → Connection → Prop) : Prop where
  create : ∀ {created : List ℕ} {c c' : Connection} {creation : Except DOMException Unit} {transport : ℕ}
    (owner : String), P created c → c.createTransport creation = .ok (transport, c') →
    P (created ++ [transport]) (register owner transport c')
  progress : ∀ {created : List ℕ} {c : Connection} (p : Progress), P created c → P created (c.progress p)
  stop : ∀ {created : List ℕ} {c : Connection}, P created c → P created (c.stopAll created)

variable {P : List ℕ → Connection → Prop}

lemma Preserved.assertOpen (h : Preserved register P) (env : Environment) (hc : P created c) :
    P created (c.assertOpen env created).1 := by
  rw [Connection.assertOpen]
  split_ifs
  · exact h.progress _ (h.stop hc)
  · exact hc

lemma Preserved.provide (h : Preserved register P) (env : Environment) (owner : String) (hc : P created c) :
    P (c.provide env (register owner) owner created).2.1 (c.provide env (register owner) owner created).1 := by
  dsimp only [Connection.provide]
  split
  · exact hc
  · rename_i transport c' hcreate
    have hgather := h.progress (env.attempts owner).whileGathering (h.create owner hc hcreate)
    split
    · exact hgather
    · have hopen := h.assertOpen env hgather
      split
      · rename_i heq
        rwa [heq] at hopen
      · rename_i heq
        rw [heq] at hopen
        exact h.progress _ hopen

lemma Preserved.stageOwners (h : Preserved (fun _ _ c => c) P) (env : Environment) (current : Map String ℕ)
    (owners : List String) (staging : Staging) (hc : P staging.created c) :
    P (stageOwners env current owners staging c).2.1.created (stageOwners env current owners staging c).1 := by
  induction owners generalizing staging c with
  | nil => exact hc
  | cons owner owners ih =>
    rw [Connection.stageOwners]
    split
    · exact ih _ hc
    · have hprovide := h.provide env owner hc
      split
      · rename_i heq
        rwa [heq] at hprovide
      · rename_i heq
        rw [heq] at hprovide
        exact ih _ hprovide

lemma Preserved.prepareOwners
    (h : Preserved (fun owner transport c => c.prepareTransport offer owner transport true) P)
    (env : Environment) (owners : List (String × Option ℕ)) (ownerTransports : Map String ℕ) (hc : P created c) :
    P (prepareOwners offer env owners ownerTransports created c).2.1
      (prepareOwners offer env owners ownerTransports created c).1 := by
  induction owners generalizing ownerTransports created c with
  | nil => exact hc
  | cons plan owners ih =>
    obtain ⟨owner, _ | reuse⟩ := plan
    · rw [Connection.prepareOwners]
      have hprovide := h.provide env owner hc
      split
      · rename_i heq
        rwa [heq] at hprovide
      · rename_i heq
        rw [heq] at hprovide
        exact ih _ hprovide
    · exact ih _ hc

/-! ## Invariants -/

/-- What holds since the call has been made. -/
structure Since (c₀ : Connection) (created : List ℕ) (c : Connection) : Prop where
  transceivers : c.transceivers = c₀.transceivers
  sctpTransport : c.sctpTransport = c₀.sctpTransport
  le : c₀.nextTransport ≤ c.nextTransport
  mem_created : ∀ t : ℕ, t ∈ created ↔ c₀.nextTransport ≤ t ∧ t < c.nextTransport
  isClosed : c.isDisposed = true → c.isClosed = true
  noted : ∀ t ∈ created, t ∈ c.stopped ∨ t ∈ c.createdTransports ∧ c.isDisposed = false

/-- `register` changes only what is prepared. -/
def Registers (register : String → ℕ → Connection → Connection) : Prop :=
  ∀ (owner : String) (transport : ℕ) (c : Connection),
    ∃ resources : ProposalResources, register owner transport c = { c with resources := resources }

lemma registers_id : Registers fun _ _ c => c := fun _ _ c => ⟨c.resources, rfl⟩

lemma registers_prepareTransport (offer : SessionDescription) :
    Registers fun owner transport c => c.prepareTransport offer owner transport true := fun _ _ _ => ⟨_, rfl⟩

lemma preserved_since (c₀ : Connection) (hregister : Registers register) : Preserved register (Since c₀) where
  create := by
    intro created c c' creation transport owner h hcreate
    obtain ⟨hopen, rfl, rfl⟩ := createTransport_eq_ok hcreate
    obtain ⟨resources, heq⟩ := hregister owner c.nextTransport
      { c with
        createdTransports := c.createdTransports ++ [c.nextTransport]
        nextTransport := c.nextTransport + 1 }
    rw [heq]
    refine ⟨h.transceivers, h.sctpTransport, h.le.trans (Nat.le_succ _), fun t => ?_, h.isClosed, ?_⟩
    · rw [List.mem_append, List.mem_singleton, h.mem_created t]
      have := h.le
      dsimp only
      omega
    · intro t ht
      obtain ht | ht := List.mem_append.mp ht
      · exact (h.noted t ht).imp_right fun h => ⟨List.mem_append_left _ h.1, h.2⟩
      · refine .inr ⟨List.mem_append_right _ ht, Bool.eq_false_iff.mpr fun hdisposed => ?_⟩
        exact absurd (h.isClosed hdisposed) (Bool.eq_false_iff.mp hopen)
  progress := by
    intro created c p h
    obtain ⟨closed, heq, hclosed⟩ | ⟨hdisposed, heq⟩ := c.progress_cases p
    · rw [heq]
      exact ⟨h.transceivers, h.sctpTransport, h.le, h.mem_created, fun h' => hclosed (h.isClosed h'), h.noted⟩
    · rw [heq]
      refine ⟨h.transceivers, h.sctpTransport, h.le, h.mem_created, fun _ => rfl, fun t ht => .inl ?_⟩
      obtain hstopped | ⟨hnoted, -⟩ := h.noted t ht
      · exact List.mem_append_right _ hstopped
      · exact List.mem_append_left _ (by simp [disposable, hnoted])
  stop := by
    intro created c h
    refine ⟨h.transceivers, h.sctpTransport, h.le, h.mem_created, h.isClosed, fun t ht => .inl ?_⟩
    exact List.mem_append_left _ ht

/-- The resources of the negotiation are as before, unless `close` has disposed of them. -/
def Untouched (c₀ : Connection) (_ : List ℕ) (c : Connection) : Prop :=
  (c.isDisposed = c₀.isDisposed ∧ c.resources = c₀.resources) ∨
    c₀.isDisposed = false ∧ c.isDisposed = true ∧ c.resources = {} ∧
      ∀ t ∈ c₀.resources.prepared.values, t ∈ c.stopped

lemma preserved_untouched (c₀ : Connection) : Preserved (fun _ _ c => c) (Untouched c₀) where
  create := by
    intro created c c' creation transport owner h hcreate
    obtain ⟨-, -, rfl⟩ := createTransport_eq_ok hcreate
    exact h
  progress := by
    intro created c p h
    obtain ⟨closed, heq, -⟩ | ⟨hdisposed, heq⟩ := c.progress_cases p
    · rw [heq]
      exact h
    · rw [heq]
      obtain ⟨hsame, hresources⟩ | ⟨-, hdisposed', -⟩ := h
      · refine .inr ⟨hsame ▸ hdisposed, rfl, rfl, fun t ht => List.mem_append_left _ ?_⟩
        rw [← hresources] at ht
        simp [disposable, ht]
      · exact absurd hdisposed' (Bool.eq_false_iff.mp hdisposed)
  stop := by
    intro created c h
    refine h.imp_right fun ⟨h₁, h₂, h₃, h₄⟩ => ⟨h₁, h₂, h₃, fun t ht => List.mem_append_right _ (h₄ t ht)⟩

/-- Every transport that has been created is pending or stopped. -/
def Pending (created : List ℕ) (c : Connection) : Prop :=
  ∀ t ∈ created, t ∈ c.resources.pendingOnly ∨ t ∈ c.stopped

lemma preserved_pending (offer : SessionDescription) :
    Preserved (fun owner transport c => c.prepareTransport offer owner transport true) Pending where
  create := by
    intro created c c' creation transport owner h hcreate
    obtain ⟨-, -, rfl⟩ := createTransport_eq_ok hcreate
    intro t ht
    obtain ht | ht := List.mem_append.mp ht
    · exact (h t ht).imp_left (List.mem_append_left _)
    · exact .inl (List.mem_append_right _ ht)
  progress := by
    intro created c p h t ht
    obtain ⟨closed, heq, -⟩ | ⟨-, heq⟩ := c.progress_cases p
    · rw [heq]
      exact h t ht
    · rw [heq]
      refine .inr ?_
      obtain hpending | hstopped := h t ht
      · exact List.mem_append_left _ (by simp [disposable, hpending])
      · exact List.mem_append_right _ hstopped
  stop := by
    intro created c h t ht
    exact .inr (List.mem_append_left _ ht)

/-! ## Success -/

lemma provide_eq_ok (hregister : Registers register)
    (h : c.provide env (register owner) owner created = (c', created', .ok transport)) :
    transport = c.nextTransport ∧ c'.nextTransport = c.nextTransport + 1 := by
  dsimp only [Connection.provide] at h
  split at h
  · exact absurd (Prod.mk.inj (Prod.mk.inj h).2).2 nofun
  · rename_i new c₁ hcreate
    obtain ⟨-, rfl, hc₁⟩ := createTransport_eq_ok hcreate
    obtain ⟨resources, hregistered⟩ := hregister owner c.nextTransport c₁
    split at h
    · exact absurd (Prod.mk.inj (Prod.mk.inj h).2).2 nofun
    · rw [assertOpen] at h
      split_ifs at h
      · exact absurd (Prod.mk.inj (Prod.mk.inj h).2).2 nofun
      · obtain ⟨rfl, hrest⟩ := Prod.mk.inj h
        refine ⟨(Except.ok.inj (Prod.mk.inj hrest).2).symm, ?_⟩
        rw [nextTransport_progress, nextTransport_progress, hregistered, hc₁]

/-- A staged owner has what is assigned to it. -/
lemma stageOwners_ok {owners : List String} {staging staging' : Staging} (howners : owners.Nodup)
    (h : stageOwners env current owners staging c = (c', staging', .ok ())) :
    (∀ owner ∉ owners, staging'.ownerTransport.get? owner = staging.ownerTransport.get? owner) ∧
      ∀ entry ∈ Claiming.assign current.get? id c.nextTransport staging.used owners,
        staging'.ownerTransport.get? entry.1 = some entry.2 := by
  induction owners generalizing staging c with
  | nil =>
    obtain ⟨rfl, hrest⟩ := Prod.mk.inj h
    obtain ⟨rfl, -⟩ := Prod.mk.inj hrest
    exact ⟨fun _ _ => rfl, fun _ hentry => absurd hentry List.not_mem_nil⟩
  | cons owner owners ih =>
    obtain ⟨hnot, hnodup⟩ := List.nodup_cons.mp howners
    -- the owners that follow leave the transport of this one alone
    have hkeep : ∀ (c : Connection) (staging : Staging) (transport : ℕ × Bool),
        stageOwners env current owners { staging with
          ownerTransport := staging.ownerTransport.set owner transport } c = (c', staging', .ok ()) →
        (∀ owner' ∉ owner :: owners, staging'.ownerTransport.get? owner' = staging.ownerTransport.get? owner') ∧
          staging'.ownerTransport.get? owner = some transport ∧
          ∀ entry ∈ Claiming.assign current.get? id c.nextTransport staging.used owners,
            staging'.ownerTransport.get? entry.1 = some entry.2 := by
      intro c staging transport h
      obtain ⟨hrest, hentries⟩ := ih hnodup h
      refine ⟨fun owner' howner' => ?_, ?_, hentries⟩
      · rw [List.mem_cons, not_or] at howner'
        rw [hrest owner' howner'.2, Map.get?_set, if_neg howner'.1]
      · rw [hrest owner hnot, Map.get?_set_self]
    rw [stageOwners] at h
    rw [Claiming.assign]
    split at h
    · rename_i transport hclaim
      obtain ⟨hrest, hown, hentries⟩ := hkeep c { staging with used := transport :: staging.used } _ h
      refine ⟨hrest, ?_⟩
      rw [hclaim]
      exact List.forall_mem_cons.mpr ⟨hown, hentries⟩
    · rename_i hclaim
      split at h
      · exact absurd (Prod.mk.inj (Prod.mk.inj h).2).2 (by simp)
      · rename_i c₁ created transport hprovide
        obtain ⟨rfl, hnext⟩ := provide_eq_ok registers_id hprovide
        obtain ⟨hrest, hown, hentries⟩ := hkeep c₁
          { staging with used := c.nextTransport :: staging.used, created := created } _ h
        refine ⟨hrest, ?_⟩
        rw [hclaim]
        rw [hnext] at hentries
        exact List.forall_mem_cons.mpr ⟨hown, hentries⟩

/-- A prepared owner has what its plan says, or what is made for it. -/
lemma prepareOwners_ok {owners : List (String × Option ℕ)} {ownerTransports ownerTransports' : Map String ℕ}
    (howners : (owners.map Prod.fst).Nodup)
    (h : prepareOwners offer env owners ownerTransports created c = (c', created', .ok ownerTransports')) :
    (∀ owner ∉ owners.map Prod.fst, ownerTransports'.get? owner = ownerTransports.get? owner) ∧
      ∀ entry ∈ Claiming.realize id c.nextTransport owners, ownerTransports'.get? entry.1 = some entry.2.1 := by
  induction owners generalizing ownerTransports created c with
  | nil =>
    obtain ⟨rfl, hrest⟩ := Prod.mk.inj h
    obtain ⟨-, hrest⟩ := Prod.mk.inj hrest
    obtain rfl := Except.ok.inj hrest
    exact ⟨fun _ _ => rfl, fun _ hentry => absurd hentry List.not_mem_nil⟩
  | cons plan owners ih =>
    obtain ⟨owner, reuse⟩ := plan
    obtain ⟨hnot, hnodup⟩ := List.nodup_cons.mp howners
    have hkeep : ∀ (c : Connection) (created : List ℕ) (transport : ℕ),
        prepareOwners offer env owners (ownerTransports.set owner transport) created c =
          (c', created', .ok ownerTransports') →
        (∀ owner' ∉ owner :: owners.map Prod.fst, ownerTransports'.get? owner' = ownerTransports.get? owner') ∧
          ownerTransports'.get? owner = some transport ∧
          ∀ entry ∈ Claiming.realize id c.nextTransport owners, ownerTransports'.get? entry.1 = some entry.2.1 := by
      intro c created transport h
      obtain ⟨hrest, hentries⟩ := ih hnodup h
      refine ⟨fun owner' howner' => ?_, ?_, hentries⟩
      · rw [List.mem_cons, not_or] at howner'
        rw [hrest owner' howner'.2, Map.get?_set, if_neg howner'.1]
      · rw [hrest owner hnot, Map.get?_set_self]
    cases reuse with
    | some transport =>
      obtain ⟨hrest, hown, hentries⟩ := hkeep c created transport h
      exact ⟨hrest, List.forall_mem_cons.mpr ⟨hown, hentries⟩⟩
    | none =>
      rw [prepareOwners] at h
      split at h
      · exact absurd (Prod.mk.inj (Prod.mk.inj h).2).2 (by simp)
      · rename_i c₁ created₁ transport hprovide
        obtain ⟨rfl, hnext⟩ := provide_eq_ok (registers_prepareTransport offer) hprovide
        obtain ⟨hrest, hown, hentries⟩ := hkeep c₁ created₁ _ h
        rw [hnext] at hentries
        exact ⟨hrest, List.forall_mem_cons.mpr ⟨hown, hentries⟩⟩

/-- **What a call gives the m-lines**: each that is accepted uses one transport, and two use the same one just when
they have the same owner.  A transport that existed before is the one to which the owner is bound, and a new one is
for an owner that is not bound, or whose transport another owner uses. -/
structure TransportPlan (ownerOf : String → Option String) (bound : String → Option ℕ) (next : ℕ)
    (uses : String → String → ℕ → Prop) : Prop where
  given : ∀ mid owner : String, ownerOf mid = some owner ↔ ∃ t : ℕ, uses mid owner t
  shared : ∀ (mid owner : String) (t : ℕ) (mid' owner' : String) (t' : ℕ), uses mid owner t →
    uses mid' owner' t' → (t = t' ↔ owner = owner')
  reused : ∀ (mid owner : String) (t : ℕ), uses mid owner t → t < next → bound owner = some t
  made : ∀ (mid owner : String) (t : ℕ), uses mid owner t → next ≤ t → ∀ t' : ℕ, bound owner = some t' →
    ∃ mid' owner' : String, owner' ≠ owner ∧ uses mid' owner' t'

section Plan

variable {ownerOf : String → Option String} {held : String → Option ℕ} {next : ℕ} {owners : List String}
  {made : Bool}

/-- The transports that are made are those that did not exist before. -/
lemma made_iff (hheld : ∀ (owner : String) (t : ℕ), held owner = some t → t < next)
    (h : (owner, t, made) ∈ Claiming.assign held id next [] owners) : made = true ↔ next ≤ t := by
  cases made with
  | false =>
    have := hheld owner t (Claiming.held_of_mem_assign h)
    simp only [Bool.false_eq_true, false_iff]
    omega
  | true =>
    obtain ⟨⟨m, hm, rfl⟩, -⟩ := Claiming.taken_of_mem_assign h
    exact ⟨fun _ => hm, fun _ => rfl⟩

lemma transportPlan_assign (hheld : ∀ (owner : String) (t : ℕ), held owner = some t → t < next)
    (hnodup : owners.Nodup)
    (howners : ∀ owner : String, owner ∈ owners ↔ ∃ mid : String, ownerOf mid = some owner)
    {uses : String → String → ℕ → Prop}
    (huses : ∀ (mid owner : String) (t : ℕ), uses mid owner t ↔ ownerOf mid = some owner ∧
      ∃ made : Bool, (owner, t, made) ∈ Claiming.assign held id next [] owners) :
    TransportPlan ownerOf held next uses := by
  have hfresh : Claiming.Fresh held id next [] := by
    refine ⟨fun _ _ => List.not_mem_nil, fun owner m hm hown => ?_, Function.injective_id⟩
    exact absurd (hheld owner m hown) (by omega)
  have hkeys : ((Claiming.assign held id next [] owners).map Prod.fst).Nodup := by
    rwa [Claiming.map_fst_assign]
  have hsame : ∀ (owner : String) (t t' : ℕ) (made made' : Bool),
      (owner, t, made) ∈ Claiming.assign held id next [] owners →
      (owner, t', made') ∈ Claiming.assign held id next [] owners → t = t' := by
    intro owner t t' made made' h h'
    exact (Prod.mk.inj (Prod.mk.inj (List.inj_on_of_nodup_map hkeys h h' rfl)).2).1
  refine ⟨fun mid owner => ?_, ?_, ?_, ?_⟩
  · constructor
    · intro hown
      have hmem : owner ∈ (Claiming.assign held id next [] owners).map Prod.fst := by
        rw [Claiming.map_fst_assign]
        exact (howners owner).mpr ⟨mid, hown⟩
      obtain ⟨⟨owner, t, made⟩, hentry, rfl⟩ := List.mem_map.mp hmem
      exact ⟨t, (huses _ _ _).mpr ⟨hown, made, hentry⟩⟩
    · rintro ⟨t, ht⟩
      exact ((huses _ _ _).mp ht).1
  · intro mid owner t mid' owner' t' h h'
    obtain ⟨-, made, hentry⟩ := (huses _ _ _).mp h
    obtain ⟨-, made', hentry'⟩ := (huses _ _ _).mp h'
    constructor
    · rintro rfl
      exact (Prod.mk.inj (List.inj_on_of_nodup_map (Claiming.nodup_assign hfresh) hentry hentry' rfl)).1
    · rintro rfl
      exact hsame _ _ _ _ _ hentry hentry'
  · intro mid owner t h hlt
    obtain ⟨-, made, hentry⟩ := (huses _ _ _).mp h
    cases made with
    | false => exact Claiming.held_of_mem_assign hentry
    | true => exact absurd ((made_iff hheld hentry).mp rfl) (by omega)
  · intro mid owner t h hle t' hbound
    obtain ⟨-, made, hentry⟩ := (huses _ _ _).mp h
    obtain rfl := (made_iff hheld hentry).mpr hle
    obtain hnil | hmem := (Claiming.taken_of_mem_assign hentry).2 t' hbound
    · exact absurd hnil List.not_mem_nil
    · obtain ⟨⟨owner', t', made'⟩, hentry', rfl⟩ := List.mem_map.mp hmem
      have howner' : owner' ∈ (Claiming.assign held id next [] owners).map Prod.fst :=
        List.mem_map_of_mem (f := Prod.fst) hentry'
      rw [Claiming.map_fst_assign] at howner'
      obtain ⟨mid', hown'⟩ := (howners owner').mp howner'
      refine ⟨mid', owner', ?_, (huses _ _ _).mpr ⟨hown', made', hentry'⟩⟩
      rintro rfl
      have hlt : t' < next := hheld owner' t' hbound
      exact absurd (hsame _ _ _ _ _ hentry' hentry) (by omega)

end Plan

/-! ## Both calls -/

/-- A connection whose live transports exist, and of which only `close` disposes. -/
structure WellFormed (c : Connection) : Prop where
  live : ∀ (mid : String) (t : ℕ), c.liveTransportByMid.get? mid = some t → t < c.nextTransport
  isClosed : c.isDisposed = true → c.isClosed = true

lemma WellFormed.since (h : c.WellFormed) : Since c [] c where
  transceivers := rfl
  sctpTransport := rfl
  le := le_rfl
  mem_created t := by simp
  isClosed := h.isClosed
  noted t ht := absurd ht List.not_mem_nil

lemma Since.liveTransportByMid (h : Since c₀ created c) : c.liveTransportByMid = c₀.liveTransportByMid := by
  rw [Connection.liveTransportByMid, Connection.liveTransportByMid, h.transceivers, h.sctpTransport]

/-- Calls keep a connection well-formed. -/
lemma Since.wellFormed (h : Since c₀ created c) (hc : c₀.WellFormed) : c.WellFormed := by
  refine ⟨fun mid t ht => ?_, h.isClosed⟩
  rw [h.liveTransportByMid] at ht
  exact (hc.live mid t ht).trans_le h.le

/-- Once `close` is done, all transports that have been created are stopped. -/
lemma Since.mem_stopped_disposes (h : Since c₀ created c) (ht : t ∈ created) :
    t ∈ (c.progress .disposes).stopped := by
  obtain hstopped | ⟨hnoted, hdisposed⟩ := h.noted t ht
  · exact mem_stopped_progress _ hstopped
  · rw [progress, if_neg (Bool.eq_false_iff.mp hdisposed)]
    exact List.mem_append_left _ (by simp [disposable, hnoted])

lemma Since.discardPreparedTransports (h : Since c₀ created c) : Since c₀ created c.discardPreparedTransports := by
  refine ⟨h.transceivers, h.sctpTransport, h.le, h.mem_created, h.isClosed, fun t ht => ?_⟩
  obtain hstopped | ⟨hnoted, hdisposed⟩ := h.noted t ht
  · exact .inl (List.mem_append_right _ hstopped)
  · by_cases hpending : t ∈ c.resources.pendingOnly
    · exact .inl (List.mem_append_left _ hpending)
    · exact .inr ⟨List.mem_filter.mpr ⟨hnoted, decide_eq_true hpending⟩, hdisposed⟩

/-- The owner of each of the MIDs. -/
def ownerIn (mids : List String) (owner : String → String) (mid : String) : Option String :=
  if mid ∈ mids then some (owner mid) else none

lemma get?_offerOwnerByMid : (c.offerOwnerByMid offer current).get? mid =
    ownerIn (offerMids offer) (c.offerOwner offer · current) mid := by
  rw [offerOwnerByMid, Map.get?_setAll, ownerIn, Map.get?_empty]

lemma get?_pendingOwnerByMid : (c.pendingOwnerByMid offer).get? mid =
    ownerIn (c.pendingMids offer) (c.pendingOwner offer) mid := by
  rw [pendingOwnerByMid, Map.get?_setAll, ownerIn, Map.get?_empty]

lemma mem_distinct_values {ownerByMid : Map String String} :
    owner ∈ FrontOrder.distinct ownerByMid.values ↔ ∃ mid : String, ownerByMid.get? mid = some owner := by
  rw [FrontOrder.mem_distinct, Map.mem_values]

/-- The current transports are live ones and assigned ones. -/
lemma get?_currentByMid (h : (c.currentByMid assigned).get? mid = some t) :
    c.liveTransportByMid.get? mid = some t ∨ assigned.get? mid = some t := by
  have hfold : ∀ (entries : List (String × ℕ)) (current : Map String ℕ),
      (entries.foldl (fun current entry =>
        if (current.get? entry.1).isSome then current else current.set entry.1 entry.2) current).get? mid = some t →
      current.get? mid = some t ∨ (mid, t) ∈ entries := by
    intro entries
    induction entries with
    | nil => exact fun current h => .inl h
    | cons entry entries ih =>
      intro current h
      obtain h | h := ih _ h
      · dsimp only at h
        split_ifs at h with hsome
        · exact .inl h
        · rw [Map.get?_set] at h
          split_ifs at h with heq
          · obtain rfl := Option.some.inj h
            exact .inr (heq ▸ List.mem_cons_self)
          · exact .inl h
      · exact .inr (List.mem_cons_of_mem _ h)
  exact (hfold _ _ h).imp_right Map.get?_eq_some.mpr

/-- What holds of a call, whether it fails or not, from `c` to `c'`. -/
structure Leaves (c c' : Connection) (failed : Prop) : Prop where
  live : c'.liveTransportByMid = c.liveTransportByMid
  stops : failed → ∀ t : ℕ, c.nextTransport ≤ t → t < c'.nextTransport → t ∈ c'.stopped
  closes : ∀ t : ℕ, c.nextTransport ≤ t → t < c'.nextTransport → t ∈ (c'.progress .disposes).stopped
  wellFormed : c'.WellFormed

lemma Since.leaves (h : Since c₀ created c) (hc : c₀.WellFormed) {failed : Prop}
    (hstops : failed → ∀ t ∈ created, t ∈ c.stopped) : Leaves c₀ c failed where
  live := h.liveTransportByMid
  stops hfailed t hle hlt := hstops hfailed t ((h.mem_created t).mpr ⟨hle, hlt⟩)
  closes t hle hlt := h.mem_stopped_disposes ((h.mem_created t).mpr ⟨hle, hlt⟩)
  wellFormed := h.wellFormed hc

/-! ## Local offers -/

/-- What `stageLocalOffer` does. -/
structure StagesOffer (c : Connection) (offer : SessionDescription) (assigned : Map String ℕ) (c' : Connection)
    (result : Except DOMException (List StagedTransport)) : Prop where
  plan : ∀ staged : List StagedTransport, result = .ok staged →
    TransportPlan (ownerIn (offerMids offer) (c.offerOwner offer · (c.currentByMid assigned)))
      (c.currentByMid assigned).get? c.nextTransport
      fun mid owner t => ⟨mid, owner, some t, some (decide (c.nextTransport ≤ t))⟩ ∈ staged
  staged : ∀ staged : List StagedTransport, result = .ok staged → ∀ s ∈ staged,
    ∃ t : ℕ, s = ⟨s.mid, s.owner, some t, some (decide (c.nextTransport ≤ t))⟩
  leaves : Leaves c c' (∃ error : DOMException, result = .error error)
  untouched : c'.resources = c.resources ∨
    c.isDisposed = false ∧ c'.isDisposed = true ∧ c'.resources = {} ∧
      ∀ t ∈ c.resources.prepared.values, t ∈ c'.stopped

/-- The transports of a connection's current MIDs exist. -/
lemma WellFormed.current_lt (hc : c.WellFormed)
    (hassigned : ∀ (mid : String) (t : ℕ), assigned.get? mid = some t → t < c.nextTransport) (mid : String) (t : ℕ)
    (ht : (c.currentByMid assigned).get? mid = some t) : t < c.nextTransport :=
  (get?_currentByMid ht).elim (hc.live mid t) (hassigned mid t)

/-- What has been staged when all owners have their transports. -/
lemma mem_staged {staging : Staging} {s : StagedTransport}
    (hheld : ∀ (mid : String) (t : ℕ), current.get? mid = some t → t < c.nextTransport)
    (h : stageOwners env current (FrontOrder.distinct (c.offerOwnerByMid offer current).values) {} c =
      (c', staging, .ok ())) :
    s ∈ (c.offerOwnerByMid offer current).entries.map (fun (mid, owner) =>
        (⟨mid, owner, (staging.ownerTransport.get? owner).map Prod.fst,
          (staging.ownerTransport.get? owner).map Prod.snd⟩ : StagedTransport)) ↔
      ∃ (mid owner : String) (t : ℕ) (made : Bool), (c.offerOwnerByMid offer current).get? mid = some owner ∧
        (owner, t, made) ∈ Claiming.assign current.get? id c.nextTransport []
          (FrontOrder.distinct (c.offerOwnerByMid offer current).values) ∧
        s = ⟨mid, owner, some t, some (decide (c.nextTransport ≤ t))⟩ := by
  have hassign := (stageOwners_ok (FrontOrder.nodup_distinct _) h).2
  have hmade : ∀ (owner : String) (t : ℕ) (made : Bool),
      (owner, t, made) ∈ Claiming.assign current.get? id c.nextTransport []
        (FrontOrder.distinct (c.offerOwnerByMid offer current).values) →
      staging.ownerTransport.get? owner = some (t, decide (c.nextTransport ≤ t)) := by
    intro owner t made hentry
    have hflag : made = decide (c.nextTransport ≤ t) := by
      rw [Bool.eq_iff_iff, decide_eq_true_eq]
      exact made_iff hheld hentry
    rw [← hflag]
    exact hassign _ hentry
  rw [List.mem_map]
  constructor
  · rintro ⟨⟨mid, owner⟩, hmem, rfl⟩
    have hown := Map.get?_eq_some.mpr hmem
    have hkey : owner ∈ (Claiming.assign current.get? id c.nextTransport []
        (FrontOrder.distinct (c.offerOwnerByMid offer current).values)).map Prod.fst := by
      rw [Claiming.map_fst_assign]
      exact mem_distinct_values.mpr ⟨mid, hown⟩
    obtain ⟨⟨owner, t, made⟩, hentry, rfl⟩ := List.mem_map.mp hkey
    refine ⟨mid, owner, t, made, hown, hentry, ?_⟩
    dsimp only
    rw [hmade owner t made hentry, Option.map_some, Option.map_some]
  · rintro ⟨mid, owner, t, made, hown, hentry, rfl⟩
    refine ⟨(mid, owner), Map.get?_eq_some.mp hown, ?_⟩
    dsimp only
    rw [hmade owner t made hentry, Option.map_some, Option.map_some]

theorem stageLocalOffer_spec (hc : c.WellFormed)
    (hassigned : ∀ (mid : String) (t : ℕ), assigned.get? mid = some t → t < c.nextTransport) :
    StagesOffer c offer assigned (c.stageLocalOffer offer env assigned).1
      (c.stageLocalOffer offer env assigned).2 := by
  have hsince := (preserved_since c registers_id).stageOwners env (c.currentByMid assigned)
    (FrontOrder.distinct (c.offerOwnerByMid offer (c.currentByMid assigned)).values) {} hc.since
  have huntouched := (preserved_untouched c).stageOwners env (c.currentByMid assigned)
    (FrontOrder.distinct (c.offerOwnerByMid offer (c.currentByMid assigned)).values) {} (c := c) (.inl ⟨rfl, rfl⟩)
  unfold stageLocalOffer
  dsimp only
  cases hrun : stageOwners env (c.currentByMid assigned)
    (FrontOrder.distinct (c.offerOwnerByMid offer (c.currentByMid assigned)).values) {} c with
  | mk c₁ rest =>
    obtain ⟨staging, result⟩ := rest
    rw [hrun] at hsince huntouched
    cases result with
    | error e =>
      have hstopped := (preserved_since c registers_id).progress env.whileStopping
        ((preserved_since c registers_id).stop hsince)
      refine ⟨fun _ h => absurd h nofun, fun _ h => absurd h nofun, hstopped.leaves hc fun _ t ht => ?_, ?_⟩
      · exact mem_stopped_progress _ (List.mem_append_left _ ht)
      · exact ((preserved_untouched c).progress _ ((preserved_untouched c).stop huntouched)).imp_left And.right
    | ok u =>
      have hheld := hc.current_lt hassigned
      have hmem := fun s : StagedTransport => mem_staged (s := s) hheld hrun
      refine ⟨?_, ?_, hsince.leaves hc fun ⟨e, he⟩ => absurd he nofun, huntouched.imp_left And.right⟩
      · rintro staged ⟨⟩
        apply transportPlan_assign hheld (FrontOrder.nodup_distinct _)
        · intro owner
          rw [mem_distinct_values]
          exact exists_congr fun mid => by rw [get?_offerOwnerByMid]
        · intro mid owner t
          rw [hmem, ← get?_offerOwnerByMid]
          constructor
          · rintro ⟨mid', owner', t', made, hown, hentry, heq⟩
            obtain ⟨rfl, rfl, ht, -⟩ := StagedTransport.mk.inj heq
            obtain rfl := Option.some.inj ht
            exact ⟨hown, made, hentry⟩
          · rintro ⟨hown, made, hentry⟩
            exact ⟨mid, owner, t, made, hown, hentry, rfl⟩
      · rintro staged ⟨⟩ s hs
        obtain ⟨mid, owner, t, made, -, -, rfl⟩ := (hmem s).mp hs
        exact ⟨t, rfl⟩

/-! ## Remote offers -/

lemma prepared_prepareAll (c : Connection) (offer : SessionDescription) (ownerTransports : Map String ℕ)
    {entries : List (String × String)}
    (hkeys : (entries.map Prod.fst).Nodup) :
    (∀ mid ∉ entries.map Prod.fst,
      (c.prepareAll offer ownerTransports entries).resources.prepared.get? mid = c.resources.prepared.get? mid) ∧
    ∀ (mid owner : String) (t : ℕ), (mid, owner) ∈ entries → ownerTransports.get? owner = some t →
      (c.prepareAll offer ownerTransports entries).resources.prepared.get? mid = some t := by
  induction entries generalizing c with
  | nil => exact ⟨fun _ _ => rfl, fun _ _ _ h => absurd h List.not_mem_nil⟩
  | cons entry entries ih =>
    obtain ⟨mid, owner⟩ := entry
    obtain ⟨hnot, hnodup⟩ := List.nodup_cons.mp hkeys
    rw [prepareAll, List.foldl_cons, ← prepareAll]
    constructor
    · intro mid' hmid'
      rw [List.map_cons, List.mem_cons, not_or] at hmid'
      rw [(ih _ hnodup).1 mid' hmid'.2]
      split
      · exact Map.get?_set.trans (if_neg hmid'.1)
      · rfl
    · intro mid' owner' t hmem ht
      obtain heq | hmem := List.mem_cons.mp hmem
      · obtain ⟨rfl, rfl⟩ := Prod.mk.inj heq
        rw [(ih _ hnodup).1 mid' hnot, ht]
        exact Map.get?_set_self
      · exact (ih _ hnodup).2 mid' owner' t hmem ht

/-- `prepareAll` changes only what is prepared. -/
lemma prepareAll_eq (c : Connection) (offer : SessionDescription) (ownerTransports : Map String ℕ)
    (entries : List (String × String)) :
    ∃ resources : ProposalResources,
      c.prepareAll offer ownerTransports entries = { c with resources := resources } := by
  induction entries generalizing c with
  | nil => exact ⟨c.resources, rfl⟩
  | cons entry entries ih =>
    rw [prepareAll, List.foldl_cons, ← prepareAll]
    split
    · exact ih _
    · exact ih _

/-- What `preparePending` does. -/
structure PreparesPending (c c' : Connection) (result : Except DOMException Unit) : Prop where
  plan : ∀ offer : SessionDescription, c.unpreparedOffer = some offer → result = .ok () →
    TransportPlan (ownerIn (c.pendingMids offer) (c.pendingOwner offer)) c.liveTransportByMid.get? c.nextTransport
      fun mid owner t => ownerIn (c.pendingMids offer) (c.pendingOwner offer) mid = some owner ∧
        c'.resources.prepared.get? mid = some t
  idle : c.unpreparedOffer = none → c' = c ∧ result = .ok ()
  leaves : Leaves c c' (∃ error : DOMException, result = .error error)

/-- What has been prepared when all owners have their transports. -/
lemma transportPlan_prepareAll {ownerTransports : Map String ℕ} (hc : c.WellFormed)
    (h : prepareOwners offer env (c.planPending offer) {} [] c = (c', created, .ok ownerTransports)) :
    TransportPlan (ownerIn (c.pendingMids offer) (c.pendingOwner offer)) c.liveTransportByMid.get? c.nextTransport
      fun mid owner t => ownerIn (c.pendingMids offer) (c.pendingOwner offer) mid = some owner ∧
        (c'.prepareAll offer ownerTransports (c.pendingOwnerByMid offer).entries).resources.prepared.get? mid =
          some t := by
  have hkeys : ((c.planPending offer).map Prod.fst).Nodup := by
    rw [planPending, Claiming.map_fst_plan]
    exact FrontOrder.nodup_distinct _
  have hassign := (prepareOwners_ok hkeys h).2
  have hfresh : ∀ (mid : String) (m : ℕ), c.nextTransport ≤ m →
      c.liveTransportByMid.get? mid ≠ some (id m) := fun mid m hm hmid =>
    absurd (hc.live mid m hmid) (not_lt.mpr hm)
  rw [planPending, Claiming.realize_plan hfresh (fun _ _ _ => Iff.rfl)] at hassign
  apply transportPlan_assign hc.live (FrontOrder.nodup_distinct (c.pendingOwnerByMid offer).values)
  · intro owner
    rw [mem_distinct_values]
    exact exists_congr fun mid => by rw [get?_pendingOwnerByMid]
  · intro mid owner t
    refine and_congr_right fun hown => ?_
    rw [← get?_pendingOwnerByMid] at hown
    have hprepared := (prepared_prepareAll c' offer ownerTransports (c.pendingOwnerByMid offer).nodup).2 mid owner
    have hkey : owner ∈ (Claiming.assign c.liveTransportByMid.get? id c.nextTransport []
        (FrontOrder.distinct (c.pendingOwnerByMid offer).values)).map Prod.fst := by
      rw [Claiming.map_fst_assign]
      exact mem_distinct_values.mpr ⟨mid, hown⟩
    obtain ⟨⟨owner, t', made⟩, hentry, rfl⟩ := List.mem_map.mp hkey
    constructor
    · intro ht
      rw [hprepared t' (Map.get?_eq_some.mp hown) (hassign _ hentry)] at ht
      obtain rfl := Option.some.inj ht
      exact ⟨made, hentry⟩
    · rintro ⟨made', hentry'⟩
      exact hprepared t (Map.get?_eq_some.mp hown) (hassign _ hentry')

theorem preparePending_spec (hc : c.WellFormed) :
    PreparesPending c (c.preparePending env).1 (c.preparePending env).2 := by
  have hstay : ∀ failed : Prop, Leaves c c failed := fun failed => hc.since.leaves hc fun _ t ht =>
    absurd ht List.not_mem_nil
  unfold preparePending
  cases hoffer : c.unpreparedOffer with
  | none => exact ⟨fun _ h => absurd (hoffer.symm.trans h) nofun, fun _ => ⟨rfl, rfl⟩, hstay _⟩
  | some offer =>
    have hidle : ∀ (c' : Connection) (result : Except DOMException Unit),
        c.unpreparedOffer = none → c' = c ∧ result = .ok () := fun _ _ h => absurd (hoffer.symm.trans h) nofun
    dsimp only
    cases hbinding : c.assertPendingSctpBinding offer with
    | error e => exact ⟨fun _ _ h => absurd h nofun, hidle _ _, hstay _⟩
    | ok u =>
      have hsince := (preserved_since c (registers_prepareTransport offer)).prepareOwners env
        (c.planPending offer) {} hc.since
      have hpending := (preserved_pending offer).prepareOwners env (c.planPending offer) {}
        (show Pending [] c from fun _ ht => absurd ht List.not_mem_nil)
      cases hrun : prepareOwners offer env (c.planPending offer) {} [] c with
      | mk c₁ rest =>
        obtain ⟨created, result⟩ := rest
        rw [hrun] at hsince hpending
        dsimp only at hsince hpending ⊢
        cases result with
        | error e =>
          have hdiscarded := (preserved_since c (registers_prepareTransport offer)).progress env.whileStopping
            hsince.discardPreparedTransports
          refine ⟨fun _ _ h => absurd h nofun, hidle _ _, hdiscarded.leaves hc fun _ t ht => ?_⟩
          -- what has been created was pending until it was discarded, or has been stopped before
          exact mem_stopped_progress _ (List.mem_append.mpr (hpending t ht))
        | ok ownerTransports =>
          obtain ⟨resources, hprepared⟩ := c₁.prepareAll_eq offer ownerTransports
            (c.pendingOwnerByMid offer).entries
          have hall :
              Since c created (c₁.prepareAll offer ownerTransports (c.pendingOwnerByMid offer).entries) := by
            rw [hprepared]
            exact ⟨hsince.transceivers, hsince.sctpTransport, hsince.le, hsince.mem_created, hsince.isClosed,
              hsince.noted⟩
          refine ⟨?_, hidle _ _, hall.leaves hc fun ⟨e, he⟩ => absurd he nofun⟩
          rintro offer' hoffer' -
          obtain rfl := Option.some.inj (hoffer.symm.trans hoffer')
          exact transportPlan_prepareAll hc hrun

/-- **BUNDLE transports**, for a local offer and for a remote one. -/
theorem bundle_transports (c : Connection) (offer : SessionDescription) (assigned : Map String ℕ)
    (env : Environment) (hc : c.WellFormed)
    (hassigned : ∀ (mid : String) (t : ℕ), assigned.get? mid = some t → t < c.nextTransport) :
    StagesOffer c offer assigned (c.stageLocalOffer offer env assigned).1 (c.stageLocalOffer offer env assigned).2 ∧
      PreparesPending c (c.preparePending env).1 (c.preparePending env).2 :=
  ⟨stageLocalOffer_spec hc hassigned, preparePending_spec hc⟩

/-- Two m-lines on one transport, of which an offer takes the second out of the BUNDLE group.  A transport for the
second one has been prepared before. -/
def splitOffer : SessionDescription :=
  ⟨1, .offer, [⟨"BUNDLE", ["0"]⟩], [⟨"audio", 9, some "0"⟩, ⟨"video", 9, some "1"⟩]⟩

def bundled : Connection :=
  { currentRemoteDescription := some ⟨0, .answer, [⟨"BUNDLE", ["0", "1"]⟩], []⟩
    pendingRemoteDescription := some splitOffer
    transceivers := [⟨some "0", ["audio/opus"], 0⟩, ⟨some "1", ["video/VP8"], 0⟩]
    resources := { prepared := ({} : Map String ℕ).set "1" 1 }
    nextTransport := 2 }

lemma wellFormed_bundled : bundled.WellFormed := by
  refine ⟨fun mid t ht => ?_, fun h => absurd h nofun⟩
  have hmem := Map.mem_values.mpr ⟨mid, ht⟩
  have hvalues : bundled.liveTransportByMid.values = [0, 0] := by decide +kernel
  rw [hvalues] at hmem
  obtain rfl : t = 0 := by simpa using hmem
  exact Nat.zero_lt_two

theorem bundle_transports_split :
    StagesOffer bundled splitOffer {} (bundled.stageLocalOffer splitOffer {} {}).1
        (bundled.stageLocalOffer splitOffer {} {}).2 ∧
      PreparesPending bundled (bundled.preparePending {}).1 (bundled.preparePending {}).2 :=
  bundle_transports bundled splitOffer {} {} wellFormed_bundled fun _ _ h => absurd h nofun

/-- Where `close` gets through while a transport gathers its candidates, what has been prepared before is gone. -/
theorem not_prepared_untouched : ¬ ∀ (c : Connection) (offer : SessionDescription) (assigned : Map String ℕ)
    (env : Environment), c.WellFormed →
    (∀ (mid : String) (t : ℕ), assigned.get? mid = some t → t < c.nextTransport) →
    ∀ error : DOMException, (c.stageLocalOffer offer env assigned).2 = .error error →
      (c.stageLocalOffer offer env assigned).1.resources.prepared.entries = c.resources.prepared.entries := by
  intro h
  have hsame := h bundled splitOffer {} { attempts := fun _ => { whileGathering := .disposes } } wellFormed_bundled
    (fun _ _ h => absurd h nofun) closedError (by decide +kernel)
  exact absurd hsame (by decide +kernel)

end Connection

end Werift.Webrtc.BundleTopology
