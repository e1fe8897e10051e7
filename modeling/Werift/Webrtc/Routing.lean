import Werift.Lib.Transition
import Werift.Webrtc.Router

/-!
# Routes during negotiations

A `Routing` is a router with its past: the snapshots that have been taken, and the routes that
packets have taught and that no description has registered since (`learned`).

The router marks such routes in `learnedSsrcs`, which no snapshot contains.  A route that is
restored from a snapshot may therefore have the wrong mark, and a later return to an older snapshot
then drops a learned route or keeps one that was not learned.  `routesKept` is what holds in every
run in which the restored routes have the marks they had (`MarksRestored`).
-/

namespace Werift.Webrtc

open Js Transition

/-- A snapshot with the marks and the learned routes of its time. -/
structure CapturedRoutes where
  routes : RouterSnapshot
  learnedSsrcs : Finset ℕ
  learned : ℕ → Option RtpEndpoint

/-- A router with its past. -/
structure Routing where
  router : RtpRouter
  learned : ℕ → Option RtpEndpoint
  captured : List CapturedRoutes := []

namespace Routing

/-- What can happen to the routes. -/
inductive Event
  | registerRtpReceiverBySsrc (receiver : ℕ) (encodings : List RtpEncoding)
      (headerExtensions : List (ℕ × String)) (deferConflicts : Bool)
  | registerRtpReceiverByRid (receiver : ℕ) (mid : Option String) (rid : String)
      (deferConflicts : Bool)
  | routeRtp (trackBySSRC : ℕ → ℕ → Bool) (packet : RoutedPacket)
  | discardProvisional
  | commitStaged
  | snapshotRoutes
  | restoreRoutes (i : ℕ) (endpoints : List RtpEndpoint) (liveSenders : List RtpSenderRoute)

/-- The learned routes after a description has registered SSRCs: the ones that it does not stage are
routes of the description. -/
def learnedAfter (receiver : ℕ) (deferConflicts : Bool) :
    RtpRouter → (ℕ → Option RtpEndpoint) → List ℕ → ℕ → Option RtpEndpoint
  | _, learned, [] => learned
  | router, learned, ssrc :: ssrcs =>
    learnedAfter receiver deferConflicts (router.registerRtpReceiver receiver ssrc deferConflicts)
      (if router.defersSsrc receiver ssrc deferConflicts then learned
        else Function.update learned ssrc none) ssrcs

/-- The routing after a snapshot has been restored. -/
def restore (s : Routing) (c : CapturedRoutes) (endpoints : List RtpEndpoint)
    (liveSenders : List RtpSenderRoute) : Routing :=
  { s with
    router := s.router.restoreRoutes c.routes endpoints liveSenders
    learned := fun ssrc =>
      if (c.routes.ssrcTable ssrc).isSome then c.learned ssrc
      else (s.learned ssrc).filter fun endpoint => endpoint ∈ endpoints }

/-- A step of the routing; `none` if there is no such snapshot. -/
def step (s : Routing) : Event → Option Routing
  | .registerRtpReceiverBySsrc receiver encodings headerExtensions deferConflicts =>
    some { s with
      router :=
        s.router.registerRtpReceiverBySsrc receiver encodings headerExtensions deferConflicts
      learned := learnedAfter receiver deferConflicts s.router s.learned
        (RtpRouter.encodingSsrcs encodings) }
  | .registerRtpReceiverByRid receiver mid rid deferConflicts =>
    some { s with router := s.router.registerRtpReceiverByRid receiver mid rid deferConflicts }
  | .routeRtp trackBySSRC packet =>
    let router := (s.router.routeRtp trackBySSRC packet).2
    some { s with
      router
      learned := fun ssrc =>
        if ssrc = packet.ssrc ∧ s.router.ssrcTable ssrc = none then router.ssrcTable ssrc
        else s.learned ssrc }
  | .discardProvisional =>
    let router := s.router.discardProvisional
    some { s with
      router
      learned := fun ssrc => if router.ssrcTable ssrc = none then none else s.learned ssrc }
  | .commitStaged =>
    some { s with
      router := s.router.commitStaged
      learned := fun ssrc =>
        if (s.router.stagedSsrc.get? ssrc).isSome then none else s.learned ssrc }
  | .snapshotRoutes =>
    some { s with captured :=
      s.captured ++ [⟨s.router.snapshotRoutes, s.router.learnedSsrcs, s.learned⟩] }
  | .restoreRoutes i endpoints liveSenders =>
    s.captured[i]?.map fun c => s.restore c endpoints liveSenders

/-- A routing without a past: what is marked as learned has been learned. -/
def start (router : RtpRouter) : Routing where
  router := router
  learned := fun ssrc => if ssrc ∈ router.learnedSsrcs then router.ssrcTable ssrc else none

/-! ## The marks are accurate -/

/-- What is marked as learned has been learned, in the tables and in the snapshots. -/
structure Accurate (s : Routing) : Prop where
  now : ∀ ssrc, s.learned ssrc =
    if ssrc ∈ s.router.learnedSsrcs then s.router.ssrcTable ssrc else none
  captured : ∀ c ∈ s.captured, ∀ ssrc, c.learned ssrc =
    if ssrc ∈ c.learnedSsrcs then c.routes.ssrcTable ssrc else none

/-- The snapshots of a restored route agree on whether it has been learned: the mark is the one that
it had when the snapshot was taken. -/
def MarksRestored (s : Routing) : Event → Prop
  | .restoreRoutes i _ _ => ∀ c, s.captured[i]? = some c → ∀ ssrc,
      (c.routes.ssrcTable ssrc).isSome = true →
        (ssrc ∈ s.router.learnedSsrcs ↔ ssrc ∈ c.learnedSsrcs)
  | _ => True

/-- Registering SSRCs keeps the marks accurate. -/
lemma learnedAfter_eq {receiver : ℕ} {deferConflicts : Bool} {ssrcs : List ℕ} {router : RtpRouter}
    {learned : ℕ → Option RtpEndpoint}
    (h : ∀ ssrc, learned ssrc =
      if ssrc ∈ router.learnedSsrcs then router.ssrcTable ssrc else none) (ssrc : ℕ) :
    learnedAfter receiver deferConflicts router learned ssrcs ssrc =
      if ssrc ∈ (router.registerSsrcs receiver deferConflicts ssrcs).learnedSsrcs then
        (router.registerSsrcs receiver deferConflicts ssrcs).ssrcTable ssrc
      else none := by
  induction ssrcs generalizing router learned with
  | nil => exact h ssrc
  | cons key ssrcs ih =>
    rw [learnedAfter, RtpRouter.registerSsrcs, List.foldl_cons, ← RtpRouter.registerSsrcs]
    apply ih
    intro k
    unfold RtpRouter.registerRtpReceiver
    by_cases hdefer : router.defersSsrc receiver key deferConflicts = true
    · rw [if_pos hdefer, if_pos hdefer]
      exact h k
    · rw [if_neg hdefer, if_neg hdefer]
      by_cases hkey : k = key
      · subst hkey
        simp
      · simp only [Function.update_of_ne hkey, Finset.mem_erase, ne_eq, hkey, not_false_eq_true,
          true_and]
        exact h k

/-- The routes of a restored router. -/
lemma restoreRoutes_ssrcTable (s : RtpRouter) (snapshot : RouterSnapshot)
    (endpoints : List RtpEndpoint) (liveSenders : List RtpSenderRoute) (ssrc : ℕ) :
    (s.restoreRoutes snapshot endpoints liveSenders).ssrcTable ssrc =
        ((s.learnedRoutes snapshot endpoints ssrc).or (snapshot.ssrcTable ssrc)).or
          ((liveSenders.find? fun sender => sender.ssrc == ssrc).map
            fun sender => .sender sender.id) ∧
      (ssrc ∈ (s.restoreRoutes snapshot endpoints liveSenders).learnedSsrcs ↔
        ssrc ∈ s.learnedSsrcs ∧
          (((s.learnedRoutes snapshot endpoints ssrc).or (snapshot.ssrcTable ssrc)).isSome = true ∨
            ∀ sender ∈ liveSenders, sender.ssrc ≠ ssrc)) :=
  RtpRouter.foldl_restoreSender liveSenders _ ssrc

/-- The learned routes that survive are the ones that have been learned. -/
lemma learnedRoutes_eq {s : Routing} (h : Accurate s) {snapshot : RouterSnapshot}
    {endpoints : List RtpEndpoint} {ssrc : ℕ} (hnone : snapshot.ssrcTable ssrc = none) :
    s.router.learnedRoutes snapshot endpoints ssrc =
      (s.learned ssrc).filter fun endpoint => endpoint ∈ endpoints := by
  rw [RtpRouter.learnedRoutes, h.now ssrc, hnone]
  cases htable : s.router.ssrcTable ssrc with
  | none => simp
  | some endpoint =>
    by_cases hmark : ssrc ∈ s.router.learnedSsrcs
    · by_cases hend : endpoint ∈ endpoints
      · simp [hmark, hend, Option.filter]
      · simp [hmark, hend, Option.filter]
    · simp [hmark]

/-- A route of the snapshot is restored. -/
lemma restoreRoutes_of_some (s : RtpRouter) {snapshot : RouterSnapshot}
    (endpoints : List RtpEndpoint) (liveSenders : List RtpSenderRoute) {ssrc : ℕ}
    {endpoint : RtpEndpoint} (h : snapshot.ssrcTable ssrc = some endpoint) :
    (s.restoreRoutes snapshot endpoints liveSenders).ssrcTable ssrc = some endpoint ∧
      (ssrc ∈ (s.restoreRoutes snapshot endpoints liveSenders).learnedSsrcs ↔
        ssrc ∈ s.learnedSsrcs) := by
  obtain ⟨htable, hlearned⟩ := restoreRoutes_ssrcTable s snapshot endpoints liveSenders ssrc
  have hnone : s.learnedRoutes snapshot endpoints ssrc = none := by
    rw [RtpRouter.learnedRoutes]
    cases s.ssrcTable ssrc with
    | none => rfl
    | some e => simp [h]
  rw [htable, hlearned, hnone, h]
  simp

/-- Registering a RID does not change the routes of SSRCs. -/
lemma registerRtpReceiverByRid_same (s : RtpRouter) (receiver : ℕ) (mid : Option String)
    (rid : String) (deferConflicts : Bool) :
    (s.registerRtpReceiverByRid receiver mid rid deferConflicts).ssrcTable = s.ssrcTable ∧
      (s.registerRtpReceiverByRid receiver mid rid deferConflicts).learnedSsrcs =
        s.learnedSsrcs := by
  unfold RtpRouter.registerRtpReceiverByRid
  dsimp only
  by_cases hdefer : s.defersRid receiver ⟨mid.getD "", rid⟩ deferConflicts = true
  · rw [if_pos hdefer]
    exact ⟨rfl, rfl⟩
  · rw [if_neg hdefer]
    exact ⟨rfl, rfl⟩

lemma accurate_start (router : RtpRouter) : Accurate (start router) :=
  ⟨fun _ => rfl, fun _ hc => absurd hc List.not_mem_nil⟩

/-- A restored snapshot. -/
lemma Accurate.restore {s : Routing} (h : Accurate s) {c : CapturedRoutes} (hc : c ∈ s.captured)
    (hmarks : ∀ ssrc, (c.routes.ssrcTable ssrc).isSome = true →
      (ssrc ∈ s.router.learnedSsrcs ↔ ssrc ∈ c.learnedSsrcs))
    (endpoints : List RtpEndpoint) (liveSenders : List RtpSenderRoute) :
    Accurate (s.restore c endpoints liveSenders) := by
  refine ⟨fun ssrc => ?_, h.captured⟩
  change (if (c.routes.ssrcTable ssrc).isSome then c.learned ssrc
      else (s.learned ssrc).filter fun endpoint => endpoint ∈ endpoints) =
    if ssrc ∈ (s.router.restoreRoutes c.routes endpoints liveSenders).learnedSsrcs then
      (s.router.restoreRoutes c.routes endpoints liveSenders).ssrcTable ssrc else none
  cases hsnap : c.routes.ssrcTable ssrc with
  | some endpoint =>
    obtain ⟨htable, hlearned⟩ :=
      restoreRoutes_of_some s.router endpoints liveSenders hsnap
    have hmark := hmarks ssrc (by rw [hsnap]; rfl)
    rw [Option.isSome_some, if_pos rfl, h.captured c hc ssrc, htable, hsnap]
    by_cases hin : ssrc ∈ c.learnedSsrcs
    · rw [if_pos hin, if_pos (hlearned.mpr (hmark.mpr hin))]
    · rw [if_neg hin, if_neg fun hl => hin (hmark.mp (hlearned.mp hl))]
  | none =>
    obtain ⟨htable, hlearned⟩ :=
      restoreRoutes_ssrcTable s.router c.routes endpoints liveSenders ssrc
    rw [htable, hsnap, Option.or_none, learnedRoutes_eq h hsnap]
    rw [hsnap, Option.or_none, learnedRoutes_eq h hsnap] at hlearned
    have hmark : ((s.learned ssrc).filter fun endpoint => endpoint ∈ endpoints).isSome = true →
        ssrc ∈ s.router.learnedSsrcs := by
      intro hsome
      by_contra hnot
      rw [h.now ssrc, if_neg hnot] at hsome
      exact absurd hsome (by simp)
    rw [Option.isSome_none, if_neg Bool.false_ne_true]
    cases hkept : (s.learned ssrc).filter fun endpoint => endpoint ∈ endpoints with
    | some endpoint =>
      rw [hkept] at hlearned hmark
      rw [if_pos (hlearned.mpr ⟨hmark rfl, Or.inl rfl⟩)]
      rfl
    | none =>
      rw [hkept] at hlearned
      split_ifs with hin
      · -- a mark that is left belongs to no live sender
        have hno := (hlearned.mp hin).2.resolve_left Bool.false_ne_true
        have hfind : (liveSenders.find? fun sender => sender.ssrc == ssrc) = none := by
          rw [List.find?_eq_none]
          exact fun sender hsender => by simpa using hno sender hsender
        rw [hfind]
        rfl
      · rfl

lemma Accurate.step {s s' : Routing} {e : Event} (h : Accurate s) (hok : MarksRestored s e)
    (hs : s.step e = some s') : Accurate s' := by
  cases e with
  | registerRtpReceiverBySsrc receiver encodings headerExtensions deferConflicts =>
    obtain rfl := Option.some.inj hs
    exact ⟨learnedAfter_eq h.now, h.captured⟩
  | registerRtpReceiverByRid receiver mid rid deferConflicts =>
    obtain rfl := Option.some.inj hs
    obtain ⟨htable, hlearned⟩ :=
      registerRtpReceiverByRid_same s.router receiver mid rid deferConflicts
    refine ⟨fun ssrc => ?_, h.captured⟩
    dsimp only
    rw [htable, hlearned]
    exact h.now ssrc
  | routeRtp trackBySSRC packet =>
    obtain rfl := Option.some.inj hs
    refine ⟨fun ssrc => ?_, h.captured⟩
    dsimp only
    rcases s.router.routeRtp_cases trackBySSRC packet with heq | ⟨id, -, hnone, -, heq⟩
    · rw [heq]
      split_ifs with hkey hmark
      · rfl
      · exact hkey.2
      · exact (h.now ssrc).trans (if_pos ‹_›)
      · exact (h.now ssrc).trans (if_neg ‹_›)
    · rw [heq]
      by_cases hkey : ssrc = packet.ssrc
      · subst hkey
        simp [hnone]
      · simp only [hkey, false_and, if_false, Function.update_of_ne hkey, Finset.mem_insert,
          false_or]
        exact h.now ssrc
  | discardProvisional =>
    obtain rfl := Option.some.inj hs
    refine ⟨fun ssrc => ?_, h.captured⟩
    obtain ⟨htable, hlearned, -⟩ :=
      RtpRouter.foldl_discardSsrc s.router.provisionalSsrc.entries s.router
    change (if (s.router.provisionalSsrc.entries.foldl RtpRouter.discardSsrc s.router).ssrcTable
        ssrc = none then none else s.learned ssrc) =
      if ssrc ∈ (s.router.provisionalSsrc.entries.foldl RtpRouter.discardSsrc s.router).learnedSsrcs
      then (s.router.provisionalSsrc.entries.foldl RtpRouter.discardSsrc s.router).ssrcTable ssrc
      else none
    rw [hlearned]
    rcases htable ssrc with heq | ⟨-, hnot, hnone⟩
    · rw [heq, h.now ssrc]
      split_ifs with hnone hmark
      · exact hnone.symm
      · rfl
      · rfl
      · rfl
    · rw [if_pos hnone, if_neg hnot]
  | commitStaged =>
    obtain rfl := Option.some.inj hs
    refine ⟨fun ssrc => ?_, h.captured⟩
    obtain ⟨htable, -, hlearned⟩ := s.router.commitStaged_routes
    dsimp only
    rw [htable ssrc, h.now ssrc]
    cases hstaged : s.router.stagedSsrc.get? ssrc with
    | some receiver =>
      rw [if_neg fun hin => absurd ((hlearned ssrc).mp hin).2 (by rw [hstaged]; simp)]
      rfl
    | none =>
      have hiff : ssrc ∈ s.router.commitStaged.learnedSsrcs ↔ ssrc ∈ s.router.learnedSsrcs := by
        rw [hlearned ssrc, hstaged]
        exact and_iff_left rfl
      simp only [hiff]
      rfl
  | snapshotRoutes =>
    obtain rfl := Option.some.inj hs
    refine ⟨h.now, List.forall_mem_append.mpr ⟨h.captured, fun c hc => ?_⟩⟩
    obtain rfl := List.mem_singleton.mp hc
    exact h.now
  | restoreRoutes i endpoints liveSenders =>
    obtain ⟨c, hc, rfl⟩ := Option.map_eq_some_iff.mp hs
    exact h.restore (List.mem_of_getElem? hc) (hok c hc) endpoints liveSenders

/-! ## Routes of the current session -/

/-- The events while a description is pending, which started when there were `n` snapshots.
`discards` tells whether provisional routes are dropped meanwhile. -/
def Pending (n : ℕ) (discards : Bool) (_ : Routing) : Event → Prop
  | .registerRtpReceiverBySsrc _ _ _ deferConflicts => deferConflicts = true
  | .registerRtpReceiverByRid _ _ _ deferConflicts => deferConflicts = true
  | .routeRtp _ _ => True
  | .discardProvisional => discards = true
  | .commitStaged => False
  | .snapshotRoutes => True
  | .restoreRoutes i _ _ => n ≤ i

/-- The SSRC keeps its endpoint, in the table and in the snapshots taken since. -/
structure KeepsSsrc (n : ℕ) (discards : Bool) (ssrc : ℕ) (endpoint : RtpEndpoint) (s : Routing) :
    Prop where
  route : s.router.ssrcTable ssrc = some endpoint
  provisional : discards = true → s.router.provisionalSsrc.get? ssrc = none
  captured : ∀ i c, n ≤ i → s.captured[i]? = some c → c.routes.ssrcTable ssrc = some endpoint ∧
    (discards = true → c.routes.staged.provisional.get? ssrc = none)
  length : n ≤ s.captured.length

/-- A deferred registration keeps the route. -/
lemma registerRtpReceiver_keeps {s : RtpRouter} {ssrc : ℕ} {endpoint : RtpEndpoint}
    {discards : Bool} (hroute : s.ssrcTable ssrc = some endpoint)
    (hprovisional : discards = true → s.provisionalSsrc.get? ssrc = none) (receiver key : ℕ) :
    (s.registerRtpReceiver receiver key true).ssrcTable ssrc = some endpoint ∧
      (discards = true →
        (s.registerRtpReceiver receiver key true).provisionalSsrc.get? ssrc = none) := by
  unfold RtpRouter.registerRtpReceiver
  by_cases hdefer : s.defersSsrc receiver key true = true
  · rw [if_pos hdefer]
    exact ⟨hroute, hprovisional⟩
  · rw [if_neg hdefer]
    by_cases hkey : ssrc = key
    · subst hkey
      obtain rfl := (RtpRouter.defersSsrc_of_route hroute).resolve_left hdefer
      refine ⟨Function.update_self _ _ _, fun hd => ?_⟩
      simpa [hroute] using hprovisional hd
    · refine ⟨(Function.update_of_ne hkey _ _).trans hroute, fun hd => ?_⟩
      dsimp only
      rw [if_pos rfl]
      split_ifs
      · rw [Map.get?_set, if_neg hkey]
        exact hprovisional hd
      · exact hprovisional hd

lemma registerSsrcs_keeps {s : RtpRouter} {ssrc : ℕ} {endpoint : RtpEndpoint} {discards : Bool}
    (hroute : s.ssrcTable ssrc = some endpoint)
    (hprovisional : discards = true → s.provisionalSsrc.get? ssrc = none) (receiver : ℕ)
    (ssrcs : List ℕ) :
    (s.registerSsrcs receiver true ssrcs).ssrcTable ssrc = some endpoint ∧
      (discards = true → (s.registerSsrcs receiver true ssrcs).provisionalSsrc.get? ssrc = none) := by
  induction ssrcs generalizing s with
  | nil => exact ⟨hroute, hprovisional⟩
  | cons key ssrcs ih =>
    obtain ⟨hr, hp⟩ := registerRtpReceiver_keeps hroute hprovisional receiver key
    exact ih hr hp

lemma KeepsSsrc.step {n ssrc : ℕ} {discards : Bool} {endpoint : RtpEndpoint} {s s' : Routing}
    {e : Event} (h : KeepsSsrc n discards ssrc endpoint s) (hok : Pending n discards s e)
    (hs : s.step e = some s') : KeepsSsrc n discards ssrc endpoint s' := by
  cases e with
  | registerRtpReceiverBySsrc receiver encodings headerExtensions deferConflicts =>
    obtain rfl := Option.some.inj hs
    obtain rfl : deferConflicts = true := hok
    obtain ⟨hr, hp⟩ := registerSsrcs_keeps h.route h.provisional receiver
      (RtpRouter.encodingSsrcs encodings)
    exact ⟨hr, hp, h.captured, h.length⟩
  | registerRtpReceiverByRid receiver mid rid deferConflicts =>
    obtain rfl := Option.some.inj hs
    refine ⟨?_, ?_, h.captured, h.length⟩
    all_goals
      dsimp only
      unfold RtpRouter.registerRtpReceiverByRid
      dsimp only
      split_ifs
    · exact h.route
    · exact h.route
    · exact h.provisional
    · exact h.provisional
  | routeRtp trackBySSRC packet =>
    obtain rfl := Option.some.inj hs
    rcases s.router.routeRtp_cases trackBySSRC packet with heq | ⟨id, -, hnone, -, heq⟩
    · refine ⟨?_, ?_, h.captured, h.length⟩
      · exact (congrFun (congrArg RtpRouter.ssrcTable heq) ssrc).trans h.route
      · intro hd
        exact (congrArg (fun r => r.provisionalSsrc.get? ssrc) heq).trans (h.provisional hd)
    · have hne : ssrc ≠ packet.ssrc := by
        rintro rfl
        rw [h.route] at hnone
        exact absurd hnone (by simp)
      refine ⟨?_, ?_, h.captured, h.length⟩
      · refine (congrFun (congrArg RtpRouter.ssrcTable heq) ssrc).trans ?_
        exact (Function.update_of_ne hne _ _).trans h.route
      · intro hd
        exact (congrArg (fun r => r.provisionalSsrc.get? ssrc) heq).trans (h.provisional hd)
  | discardProvisional =>
    obtain rfl := Option.some.inj hs
    obtain ⟨htable, -, -⟩ :=
      RtpRouter.foldl_discardSsrc s.router.provisionalSsrc.entries s.router
    refine ⟨?_, fun _ => Map.get?_empty ssrc, h.captured, h.length⟩
    rcases htable ssrc with heq | ⟨hmem, -, -⟩
    · exact heq.trans h.route
    · exact absurd hmem (Map.lookup_eq_none.mp (h.provisional hok))
  | commitStaged => exact absurd hok (by simp [Pending])
  | snapshotRoutes =>
    obtain rfl := Option.some.inj hs
    refine ⟨h.route, h.provisional, fun i c hi hc => ?_, ?_⟩
    · dsimp only at hc
      rcases Nat.lt_or_ge i s.captured.length with hlt | hge
      · rw [List.getElem?_append_left hlt] at hc
        exact h.captured i c hi hc
      · rw [List.getElem?_append_right hge] at hc
        obtain rfl := List.mem_singleton.mp (List.mem_of_getElem? hc)
        exact ⟨h.route, h.provisional⟩
    · dsimp only
      rw [List.length_append]
      exact Nat.le_add_right_of_le h.length
  | restoreRoutes i endpoints liveSenders =>
    obtain ⟨c, hc, rfl⟩ := Option.map_eq_some_iff.mp hs
    obtain ⟨hsnap, hprov⟩ := h.captured i c hok hc
    exact ⟨(restoreRoutes_of_some _ _ _ hsnap).1, hprov, h.captured, h.length⟩

/-- The RID keeps its endpoint, in the table and in the snapshots taken since. -/
structure KeepsRid (n : ℕ) (key : RidKey) (endpoint : RtpEndpoint) (s : Routing) : Prop where
  route : s.router.ridTable.get? key = some endpoint
  captured : ∀ i c, n ≤ i → s.captured[i]? = some c → c.routes.ridTable.get? key = some endpoint
  length : n ≤ s.captured.length

/-- Registering SSRCs does not change the routes of RIDs. -/
lemma registerSsrcs_ridTable (s : RtpRouter) (receiver : ℕ) (deferConflicts : Bool)
    (ssrcs : List ℕ) : (s.registerSsrcs receiver deferConflicts ssrcs).ridTable = s.ridTable := by
  induction ssrcs generalizing s with
  | nil => rfl
  | cons key ssrcs ih =>
    refine (ih _).trans ?_
    change (s.registerRtpReceiver receiver key deferConflicts).ridTable = _
    unfold RtpRouter.registerRtpReceiver
    by_cases hdefer : s.defersSsrc receiver key deferConflicts = true
    · rw [if_pos hdefer]
    · rw [if_neg hdefer]

lemma KeepsRid.step {n : ℕ} {discards : Bool} {key : RidKey} {endpoint : RtpEndpoint}
    {s s' : Routing} {e : Event} (h : KeepsRid n key endpoint s) (hok : Pending n discards s e)
    (hs : s.step e = some s') : KeepsRid n key endpoint s' := by
  cases e with
  | registerRtpReceiverBySsrc receiver encodings headerExtensions deferConflicts =>
    obtain rfl := Option.some.inj hs
    refine ⟨?_, h.captured, h.length⟩
    change (s.router.registerSsrcs receiver deferConflicts _).ridTable.get? key = _
    rw [registerSsrcs_ridTable]
    exact h.route
  | registerRtpReceiverByRid receiver mid rid deferConflicts =>
    obtain rfl := Option.some.inj hs
    obtain rfl : deferConflicts = true := hok
    refine ⟨?_, h.captured, h.length⟩
    dsimp only
    unfold RtpRouter.registerRtpReceiverByRid
    dsimp only
    split_ifs with hdefer
    · exact h.route
    · dsimp only
      rw [Map.get?_set]
      split_ifs with hkey
      · subst hkey
        obtain rfl := (RtpRouter.defersRid_of_route h.route).resolve_left hdefer
        rfl
      · exact h.route
  | routeRtp trackBySSRC packet =>
    obtain rfl := Option.some.inj hs
    refine ⟨?_, h.captured, h.length⟩
    rcases s.router.routeRtp_cases trackBySSRC packet with heq | ⟨id, -, -, -, heq⟩
    · exact (congrArg (fun r => r.ridTable.get? key) heq).trans h.route
    · exact (congrArg (fun r => r.ridTable.get? key) heq).trans h.route
  | discardProvisional =>
    obtain rfl := Option.some.inj hs
    obtain ⟨-, -, hrid⟩ := RtpRouter.foldl_discardSsrc s.router.provisionalSsrc.entries s.router
    refine ⟨?_, h.captured, h.length⟩
    change (s.router.provisionalSsrc.entries.foldl RtpRouter.discardSsrc s.router).ridTable.get? key
      = _
    rw [hrid]
    exact h.route
  | commitStaged => exact absurd hok (by simp [Pending])
  | snapshotRoutes =>
    obtain rfl := Option.some.inj hs
    refine ⟨h.route, fun i c hi hc => ?_, ?_⟩
    · dsimp only at hc
      rcases Nat.lt_or_ge i s.captured.length with hlt | hge
      · rw [List.getElem?_append_left hlt] at hc
        exact h.captured i c hi hc
      · rw [List.getElem?_append_right hge] at hc
        obtain rfl := List.mem_singleton.mp (List.mem_of_getElem? hc)
        exact h.route
    · dsimp only
      rw [List.length_append]
      exact Nat.le_add_right_of_le h.length
  | restoreRoutes i endpoints liveSenders =>
    obtain ⟨c, hc, rfl⟩ := Option.map_eq_some_iff.mp hs
    exact ⟨h.captured i c hok hc, h.captured, h.length⟩

/-! ## Main results -/

/-- What holds of the routes in a state of a run. -/
structure RoutesKept (s : Routing) : Prop where
  /-- A route of an SSRC stays while a description is pending. -/
  ssrc : ∀ (discards : Bool) (s' : Routing), Run step (Pending s.captured.length discards) s s' →
    ∀ ssrc endpoint, s.router.ssrcTable ssrc = some endpoint →
      (discards = true → s.router.provisionalSsrc.get? ssrc = none) →
        s'.router.ssrcTable ssrc = some endpoint
  /-- A route of a RID stays while a description is pending. -/
  rid : ∀ (discards : Bool) (s' : Routing), Run step (Pending s.captured.length discards) s s' →
    ∀ key endpoint, s.router.ridTable.get? key = some endpoint →
      s'.router.ridTable.get? key = some endpoint
  /-- After the commit every staged key has its staged endpoint. -/
  committed : (∀ ssrc receiver, s.router.stagedSsrc.get? ssrc = some receiver →
      s.router.commitStaged.ssrcTable ssrc = some (.receiver receiver)) ∧
    (∀ key receiver, s.router.stagedRid.get? key = some receiver →
      s.router.commitStaged.ridTable.get? key = some (.receiver receiver)) ∧
    s.router.commitStaged.snapshotStaged = {}
  /-- A restored router has the routes of the snapshot, and besides the learned routes of attached
  endpoints and the SSRCs of live senders. -/
  restored : ∀ c ∈ s.captured, ∀ endpoints liveSenders,
    (∀ ssrc, (s.router.restoreRoutes c.routes endpoints liveSenders).ssrcTable ssrc =
      ((c.routes.ssrcTable ssrc).or
        ((s.learned ssrc).filter fun endpoint => endpoint ∈ endpoints)).or
          ((liveSenders.find? fun sender => sender.ssrc == ssrc).map
            fun sender => .sender sender.id)) ∧
    (s.router.restoreRoutes c.routes endpoints liveSenders).ridTable = c.routes.ridTable ∧
    (s.router.restoreRoutes c.routes endpoints liveSenders).extIdUriMap = c.routes.extIdUriMap ∧
    (s.router.restoreRoutes c.routes endpoints liveSenders).snapshotStaged = c.routes.staged
  /-- No route to a detached endpoint is left, if the endpoints of the snapshot and the live senders
  are attached. -/
  attached : ∀ c ∈ s.captured, ∀ endpoints liveSenders,
    (∀ ssrc endpoint, c.routes.ssrcTable ssrc = some endpoint → endpoint ∈ endpoints) →
    (∀ key endpoint, c.routes.ridTable.get? key = some endpoint → endpoint ∈ endpoints) →
    (∀ sender ∈ liveSenders, RtpEndpoint.sender sender.id ∈ endpoints) →
    (∀ ssrc endpoint, (s.router.restoreRoutes c.routes endpoints liveSenders).ssrcTable ssrc =
      some endpoint → endpoint ∈ endpoints) ∧
    ∀ key endpoint, (s.router.restoreRoutes c.routes endpoints liveSenders).ridTable.get? key =
      some endpoint → endpoint ∈ endpoints

/-- The routes of a restored router, if the marks are accurate. -/
lemma Accurate.restored {s : Routing} (h : Accurate s) (c : CapturedRoutes)
    (endpoints : List RtpEndpoint) (liveSenders : List RtpSenderRoute) (ssrc : ℕ) :
    (s.router.restoreRoutes c.routes endpoints liveSenders).ssrcTable ssrc =
      ((c.routes.ssrcTable ssrc).or
        ((s.learned ssrc).filter fun endpoint => endpoint ∈ endpoints)).or
          ((liveSenders.find? fun sender => sender.ssrc == ssrc).map
            fun sender => .sender sender.id) := by
  cases hsnap : c.routes.ssrcTable ssrc with
  | some endpoint =>
    rw [(restoreRoutes_of_some _ _ _ hsnap).1]
    rfl
  | none =>
    rw [(restoreRoutes_ssrcTable s.router c.routes endpoints liveSenders ssrc).1, hsnap,
      learnedRoutes_eq h hsnap, Option.or_none, Option.none_or]

lemma Accurate.kept {s : Routing} (h : Accurate s) : RoutesKept s where
  ssrc := by
    intro discards s' hrun ssrc endpoint hroute hprovisional
    have hkeeps : KeepsSsrc s.captured.length discards ssrc endpoint s' := by
      refine hrun.invariant (KeepsSsrc s.captured.length discards ssrc endpoint) ?_
        fun _ _ _ hk hok hstep => hk.step hok hstep
      refine ⟨hroute, hprovisional, fun i c hi hc => ?_, le_rfl⟩
      exact absurd (List.getElem?_eq_some_iff.mp hc).1 (by omega)
    exact hkeeps.route
  rid := by
    intro discards s' hrun key endpoint hroute
    have hkeeps : KeepsRid s.captured.length key endpoint s' := by
      refine hrun.invariant (KeepsRid s.captured.length key endpoint) ?_
        fun _ _ _ hk hok hstep => hk.step hok hstep
      refine ⟨hroute, fun i c hi hc => ?_, le_rfl⟩
      exact absurd (List.getElem?_eq_some_iff.mp hc).1 (by omega)
    exact hkeeps.route
  committed := by
    obtain ⟨hssrc, hrid, -⟩ := s.router.commitStaged_routes
    refine ⟨fun ssrc receiver hstaged => ?_, fun key receiver hstaged => ?_, rfl⟩
    · rw [hssrc ssrc, hstaged]
      rfl
    · rw [hrid key, hstaged]
      rfl
  restored := fun c _ endpoints liveSenders =>
    ⟨h.restored c endpoints liveSenders, rfl, rfl, rfl⟩
  attached := by
    intro c _ endpoints liveSenders hssrc hrid hsenders
    refine ⟨fun ssrc endpoint hroute => ?_, hrid⟩
    rw [h.restored c endpoints liveSenders ssrc, Option.or_eq_some_iff, Option.or_eq_some_iff]
      at hroute
    rcases hroute with (hsnap | ⟨-, hlearned⟩) | ⟨-, hsender⟩
    · exact hssrc ssrc endpoint hsnap
    · simpa using (Option.filter_eq_some_iff.mp hlearned).2
    · obtain ⟨sender, hfind, rfl⟩ := Option.map_eq_some_iff.mp hsender
      exact hsenders sender (List.mem_of_find?_eq_some hfind)

/-- **The routes are kept** in every run in which the restored routes have the marks they had when
the snapshot was taken. -/
theorem routesKept {router : RtpRouter} {s : Routing}
    (h : Run step MarksRestored (start router) s) : RoutesKept s :=
  (h.invariant Accurate (accurate_start router) fun _ _ _ hs hok hstep => hs.step hok hstep).kept

/-- A router that knows the receiver `1` by a RID and the receiver `2` by an SSRC. -/
def twoReceivers : RtpRouter where
  ssrcTable := Function.update (fun _ => none) 5 (some (.receiver 2))
  ridTable := ({} : Map RidKey RtpEndpoint).set ⟨"0", "r"⟩ (.receiver 1)

/-- The receiver `1` has a track for the SSRC `7`. -/
def hasTrack (id ssrc : ℕ) : Bool := id == 1 && ssrc == 7

/-- A packet has taught the route of the SSRC `7`, and the return to an older snapshot keeps it. -/
theorem routesKept_afterRestore : ∃ s : Routing,
    Run step MarksRestored (start twoReceivers) s ∧ RoutesKept s ∧
    s.router.ssrcTable 5 = some (.receiver 2) ∧ s.router.ssrcTable 7 = some (.receiver 1) := by
  have hlearn : Run step MarksRestored (start twoReceivers) _ :=
    (Run.start.next (e := .snapshotRoutes) trivial rfl).next
      (e := .routeRtp hasTrack ⟨7, none, none⟩) trivial rfl
  have hrun := hlearn.next (e := .restoreRoutes 0 [.receiver 1, .receiver 2] []) ?_ rfl
  · exact ⟨_, hrun, routesKept hrun, rfl, rfl⟩
  · intro c hc ssrc hsome
    obtain rfl := Option.some.inj hc
    have hroute : (Function.update (fun _ => none) 5 (some (RtpEndpoint.receiver 2)) ssrc).isSome =
        true := hsome
    obtain rfl : ssrc = 5 := by
      by_contra hne
      rw [Function.update_of_ne hne] at hroute
      exact absurd hroute (by decide)
    exact iff_of_false (by decide) (by decide)

/-- A packet has taught the route of the SSRC `7`.  A description that names the SSRC is applied and
undone, which restores the route without its mark; the return to the first snapshot drops it. -/
theorem learnedRoute_dropped : ∃ (s : Routing) (c : CapturedRoutes),
    Reachable step (start twoReceivers) s ∧ s.captured[0]? = some c ∧
    c.routes.ssrcTable 7 = none ∧ s.learned 7 = some (.receiver 1) ∧
    (s.router.restoreRoutes c.routes [.receiver 1, .receiver 2] []).ssrcTable 7 = none ∧
    ¬ RoutesKept s := by
  have hlearn : Reachable step (start twoReceivers) _ :=
    ((Run.start.next (e := .snapshotRoutes) trivial rfl).next
      (e := .routeRtp hasTrack ⟨7, none, none⟩) trivial rfl).next (e := .snapshotRoutes) trivial rfl
  have hrun := (hlearn.next
    (e := .registerRtpReceiverBySsrc 1 [⟨some 7, none⟩] [] true) trivial rfl).next
      (e := .restoreRoutes 1 [.receiver 1, .receiver 2] []) trivial rfl
  refine ⟨_, _, hrun, rfl, rfl, rfl, rfl, fun hkept => ?_⟩
  have hroute := (hkept.restored _ List.mem_cons_self [.receiver 1, .receiver 2] []).1 7
  exact absurd (hroute.symm.trans (rfl : _ = none)) (by decide)

end Routing

end Werift.Webrtc
