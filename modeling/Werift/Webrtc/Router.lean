import Werift.Js.Map

/-!
# Routing RTP to receivers

`RtpRouter` keeps the routes of a peer connection: SSRC to sender or receiver, and MID and RID to
receiver.  A pending description may add routes at once (`provisionalSsrc`), but a route that the
current session uses is only staged until the commit.  A packet can teach the router the SSRC of a
receiver that is known by its RIDs (`learnedSsrcs`).
-/

namespace Werift.Webrtc

open Js

/-- An `RTCRtpReceiver` or an `RTCRtpSender`, by its identity. -/
inductive RtpEndpoint
  | receiver (id : ℕ)
  | sender (id : ℕ)
deriving DecidableEq

/-- An `RTCRtpSender`, as far as the router reads it. -/
structure RtpSenderRoute where
  id : ℕ
  ssrc : ℕ
deriving DecidableEq

/-- `ridRouteKey(mid, rid)`. -/
structure RidKey where
  mid : String
  rid : String
deriving DecidableEq

/-- `RTCRtpEncodingParameters`, as far as the router reads them. -/
structure RtpEncoding where
  ssrc : Option ℕ
  rtx : Option ℕ := none

/-- The extensions of an RTP packet that the router reads, and its SSRC. -/
structure RoutedPacket where
  ssrc : ℕ
  rid : Option String := none
  mid : Option String := none

/-- `StagedRoutes`. -/
structure StagedRoutes where
  ssrc : Map ℕ ℕ := {}
  rid : Map RidKey ℕ := {}
  provisional : Map ℕ ℕ := {}

/-- `RouterSnapshot`. -/
structure RouterSnapshot where
  ssrcTable : ℕ → Option RtpEndpoint
  ridTable : Map RidKey RtpEndpoint
  extIdUriMap : ℕ → Option String
  staged : StagedRoutes

/-- The tables of `RtpRouter`.  Receivers of staged and provisional routes are given by their
identity. -/
structure RtpRouter where
  ssrcTable : ℕ → Option RtpEndpoint := fun _ => none
  ridTable : Map RidKey RtpEndpoint := {}
  stagedSsrc : Map ℕ ℕ := {}
  stagedRid : Map RidKey ℕ := {}
  provisionalSsrc : Map ℕ ℕ := {}
  extIdUriMap : ℕ → Option String := fun _ => none
  learnedSsrcs : Finset ℕ := ∅

namespace RtpRouter

/-- `registerRtpSender(sender)`. -/
def registerRtpSender (s : RtpRouter) (sender : RtpSenderRoute) : RtpRouter :=
  { s with
    ssrcTable := Function.update s.ssrcTable sender.ssrc (some (.sender sender.id))
    learnedSsrcs := s.learnedSsrcs.erase sender.ssrc }

/-- One entry of `stagedSsrc` is committed. -/
def commitSsrc (s : RtpRouter) (entry : ℕ × ℕ) : RtpRouter :=
  { s with
    ssrcTable := Function.update s.ssrcTable entry.1 (some (.receiver entry.2))
    learnedSsrcs := s.learnedSsrcs.erase entry.1 }

/-- One entry of `stagedRid` is committed. -/
def commitRid (s : RtpRouter) (entry : RidKey × ℕ) : RtpRouter :=
  { s with ridTable := s.ridTable.set entry.1 (.receiver entry.2) }

/-- `commitStaged()`. -/
def commitStaged (s : RtpRouter) : RtpRouter :=
  let committed := s.stagedRid.entries.foldl commitRid (s.stagedSsrc.entries.foldl commitSsrc s)
  { committed with stagedSsrc := {}, stagedRid := {}, provisionalSsrc := {} }

/-- One entry of `provisionalSsrc` is dropped, unless the route has changed or has been learned. -/
def discardSsrc (s : RtpRouter) (entry : ℕ × ℕ) : RtpRouter :=
  if s.ssrcTable entry.1 = some (.receiver entry.2) ∧ entry.1 ∉ s.learnedSsrcs then
    { s with ssrcTable := Function.update s.ssrcTable entry.1 none }
  else s

/-- `discardProvisional()`. -/
def discardProvisional (s : RtpRouter) : RtpRouter :=
  { s.provisionalSsrc.entries.foldl discardSsrc s with provisionalSsrc := {} }

/-- `snapshotStaged()`. -/
def snapshotStaged (s : RtpRouter) : StagedRoutes := ⟨s.stagedSsrc, s.stagedRid, s.provisionalSsrc⟩

/-- `restoreStaged(snapshot)`. -/
def restoreStaged (s : RtpRouter) (snapshot : StagedRoutes) : RtpRouter :=
  { s with
    stagedSsrc := snapshot.ssrc
    stagedRid := snapshot.rid
    provisionalSsrc := snapshot.provisional }

/-- `snapshotRoutes()`. -/
def snapshotRoutes (s : RtpRouter) : RouterSnapshot :=
  ⟨s.ssrcTable, s.ridTable, s.extIdUriMap, s.snapshotStaged⟩

/-- `learnedRoutes` of `restoreRoutes`: the learned routes that the snapshot has no route for. -/
def learnedRoutes (s : RtpRouter) (snapshot : RouterSnapshot) (endpoints : List RtpEndpoint)
    (ssrc : ℕ) : Option RtpEndpoint :=
  match s.ssrcTable ssrc with
  | none => none
  | some endpoint =>
    if ssrc ∈ s.learnedSsrcs ∧ snapshot.ssrcTable ssrc = none ∧ endpoint ∈ endpoints then
      some endpoint
    else none

/-- The body of the loop of `restoreRoutes` over the live senders. -/
def restoreSender (s : RtpRouter) (sender : RtpSenderRoute) : RtpRouter :=
  if (s.ssrcTable sender.ssrc).isNone then s.registerRtpSender sender else s

/-- `restoreRoutes(snapshot, { endpoints, liveSenders })`. -/
def restoreRoutes (s : RtpRouter) (snapshot : RouterSnapshot) (endpoints : List RtpEndpoint)
    (liveSenders : List RtpSenderRoute) : RtpRouter :=
  let restored := { s with
    ssrcTable := fun ssrc =>
      (s.learnedRoutes snapshot endpoints ssrc).or (snapshot.ssrcTable ssrc) }
  { liveSenders.foldl restoreSender restored with
    ridTable := snapshot.ridTable
    extIdUriMap := snapshot.extIdUriMap }.restoreStaged snapshot.staged

/-- `registerRtpReceiver` leaves the route as it is and stages the new one. -/
def defersSsrc (s : RtpRouter) (receiver ssrc : ℕ) (deferConflicts : Bool) : Bool :=
  match s.ssrcTable ssrc with
  | none => false
  | some existing => deferConflicts && existing != .receiver receiver

/-- `registerRtpReceiver(receiver, ssrc, deferConflicts)`. -/
def registerRtpReceiver (s : RtpRouter) (receiver ssrc : ℕ) (deferConflicts : Bool) : RtpRouter :=
  if s.defersSsrc receiver ssrc deferConflicts then
    { s with stagedSsrc := s.stagedSsrc.set ssrc receiver }
  else
    { s with
      provisionalSsrc :=
        if deferConflicts then
          if (s.ssrcTable ssrc).isNone then s.provisionalSsrc.set ssrc receiver
          else s.provisionalSsrc
        else s.provisionalSsrc.delete ssrc
      stagedSsrc := s.stagedSsrc.delete ssrc
      ssrcTable := Function.update s.ssrcTable ssrc (some (.receiver receiver))
      learnedSsrcs := s.learnedSsrcs.erase ssrc }

/-- The SSRCs that `registerRtpReceiverBySsrc` registers, in order. -/
def encodingSsrcs (encodings : List RtpEncoding) : List ℕ :=
  encodings.flatMap fun encoding => (encoding.ssrc.map fun ssrc => ssrc :: encoding.rtx.toList).getD []

/-- The loop of `registerRtpReceiverBySsrc` over the encodings. -/
def registerSsrcs (s : RtpRouter) (receiver : ℕ) (deferConflicts : Bool) (ssrcs : List ℕ) :
    RtpRouter :=
  ssrcs.foldl (fun s ssrc => s.registerRtpReceiver receiver ssrc deferConflicts) s

/-- `registerRtpReceiverBySsrc(transceiver, params, { deferConflicts })`. -/
def registerRtpReceiverBySsrc (s : RtpRouter) (receiver : ℕ) (encodings : List RtpEncoding)
    (headerExtensions : List (ℕ × String)) (deferConflicts : Bool) : RtpRouter :=
  { s.registerSsrcs receiver deferConflicts (encodingSsrcs encodings) with
    extIdUriMap := headerExtensions.foldl
      (fun map extension => Function.update map extension.1 (some extension.2)) s.extIdUriMap }

/-- `registerRtpReceiverByRid` leaves the route as it is and stages the new one. -/
def defersRid (s : RtpRouter) (receiver : ℕ) (key : RidKey) (deferConflicts : Bool) : Bool :=
  match s.ridTable.get? key with
  | none => false
  | some existing => deferConflicts && existing != .receiver receiver

/-- `registerRtpReceiverByRid(transceiver, param, params, { deferConflicts })`. -/
def registerRtpReceiverByRid (s : RtpRouter) (receiver : ℕ) (mid : Option String) (rid : String)
    (deferConflicts : Bool) : RtpRouter :=
  let key : RidKey := ⟨mid.getD "", rid⟩
  if s.defersRid receiver key deferConflicts then
    { s with stagedRid := s.stagedRid.set key receiver }
  else
    { s with
      stagedRid := s.stagedRid.delete key
      ridTable := s.ridTable.set key (.receiver receiver) }

/-- `receiverByRid(rid, mid)`. -/
def receiverByRid (s : RtpRouter) (rid : String) (mid : Option String) : Option RtpEndpoint :=
  (mid.bind fun mid => s.ridTable.get? ⟨mid, rid⟩).or
    ((s.ridTable.entries.find? fun entry => entry.1.rid == rid).map Prod.snd)

/-- The receiver of a RID route that knows the SSRC of a packet (`trackBySSRC`). -/
def knownReceiver (s : RtpRouter) (trackBySSRC : ℕ → ℕ → Bool) (ssrc : ℕ) : Option ℕ :=
  (s.ridTable.values.filterMap fun endpoint =>
    match endpoint with
    | .receiver id => some id
    | .sender _ => none).find? fun id => trackBySSRC id ssrc

/-- `routeRtp(packet)`: the endpoint that gets the packet, and the router afterwards.
`trackBySSRC` tells which receivers have a track for an SSRC. -/
def routeRtp (s : RtpRouter) (trackBySSRC : ℕ → ℕ → Bool) (packet : RoutedPacket) :
    Option RtpEndpoint × RtpRouter :=
  match packet.rid with
  | some rid => (s.receiverByRid rid packet.mid, s)
  | none =>
    match s.ssrcTable packet.ssrc with
    | some endpoint => (some endpoint, s)
    | none =>
      match s.knownReceiver trackBySSRC packet.ssrc with
      | none => (none, s)
      | some id =>
        (some (.receiver id), { s with
          ssrcTable := Function.update s.ssrcTable packet.ssrc (some (.receiver id))
          learnedSsrcs := insert packet.ssrc s.learnedSsrcs })

/-! ## What the operations do -/

/-- A packet without a RID teaches the router a route that it does not have, or nothing. -/
lemma routeRtp_cases (s : RtpRouter) (trackBySSRC : ℕ → ℕ → Bool) (packet : RoutedPacket) :
    (s.routeRtp trackBySSRC packet).2 = s ∨
    ∃ id, packet.rid = none ∧ s.ssrcTable packet.ssrc = none ∧
      s.knownReceiver trackBySSRC packet.ssrc = some id ∧
      (s.routeRtp trackBySSRC packet).2 = { s with
        ssrcTable := Function.update s.ssrcTable packet.ssrc (some (.receiver id))
        learnedSsrcs := insert packet.ssrc s.learnedSsrcs } := by
  unfold routeRtp
  cases hrid : packet.rid with
  | some rid => exact Or.inl rfl
  | none =>
    cases htable : s.ssrcTable packet.ssrc with
    | some endpoint => exact Or.inl rfl
    | none =>
      cases hknown : s.knownReceiver trackBySSRC packet.ssrc with
      | none => exact Or.inl rfl
      | some id => exact Or.inr ⟨id, rfl, rfl, rfl, rfl⟩

/-- A deferred registration leaves a route to another endpoint as it is. -/
lemma defersSsrc_of_route {s : RtpRouter} {receiver ssrc : ℕ} {endpoint : RtpEndpoint}
    (h : s.ssrcTable ssrc = some endpoint) :
    s.defersSsrc receiver ssrc true = true ∨ endpoint = .receiver receiver := by
  rw [defersSsrc, h]
  by_cases heq : endpoint = .receiver receiver
  · exact Or.inr heq
  · exact Or.inl (by simpa using heq)

lemma defersRid_of_route {s : RtpRouter} {receiver : ℕ} {key : RidKey} {endpoint : RtpEndpoint}
    (h : s.ridTable.get? key = some endpoint) :
    s.defersRid receiver key true = true ∨ endpoint = .receiver receiver := by
  rw [defersRid, h]
  by_cases heq : endpoint = .receiver receiver
  · exact Or.inr heq
  · exact Or.inl (by simpa using heq)

/-- The routes after staged SSRCs have been committed. -/
lemma foldl_commitSsrc {entries : List (ℕ × ℕ)} (hnodup : (entries.map Prod.fst).Nodup)
    (s : RtpRouter) (ssrc : ℕ) :
    (entries.foldl commitSsrc s).ssrcTable ssrc =
        ((Map.lookup entries ssrc).map RtpEndpoint.receiver).or (s.ssrcTable ssrc) ∧
      (ssrc ∈ (entries.foldl commitSsrc s).learnedSsrcs ↔
        ssrc ∈ s.learnedSsrcs ∧ Map.lookup entries ssrc = none) := by
  induction entries generalizing s with
  | nil => simp [Map.lookup]
  | cons entry entries ih =>
    obtain ⟨hnot, hnodup⟩ := List.nodup_cons.mp hnodup
    obtain ⟨htable, hlearned⟩ := ih hnodup (s.commitSsrc entry)
    rw [List.foldl_cons, htable, hlearned, Map.lookup]
    by_cases heq : entry.1 = ssrc
    · subst heq
      rw [Map.lookup_eq_none.mpr hnot, if_pos rfl]
      simp [commitSsrc]
    · rw [if_neg heq]
      refine ⟨?_, ?_⟩
      · exact congrArg (Option.or _) (Function.update_of_ne (Ne.symm heq) _ _)
      · simp [commitSsrc, Ne.symm heq]

/-- What the commit of staged SSRCs leaves alone. -/
lemma foldl_commitSsrc_same (entries : List (ℕ × ℕ)) (s : RtpRouter) :
    (entries.foldl commitSsrc s).ridTable = s.ridTable := by
  induction entries generalizing s with
  | nil => rfl
  | cons entry entries ih => exact ih _

/-- The routes after staged RIDs have been committed. -/
lemma foldl_commitRid {entries : List (RidKey × ℕ)} (hnodup : (entries.map Prod.fst).Nodup)
    (s : RtpRouter) (key : RidKey) :
    (entries.foldl commitRid s).ridTable.get? key =
        ((Map.lookup entries key).map RtpEndpoint.receiver).or (s.ridTable.get? key) ∧
      (entries.foldl commitRid s).ssrcTable = s.ssrcTable ∧
      (entries.foldl commitRid s).learnedSsrcs = s.learnedSsrcs := by
  induction entries generalizing s with
  | nil => simp [Map.lookup]
  | cons entry entries ih =>
    obtain ⟨hnot, hnodup⟩ := List.nodup_cons.mp hnodup
    obtain ⟨htable, hsame⟩ := ih hnodup (s.commitRid entry)
    rw [List.foldl_cons, htable, Map.lookup, commitRid, Map.get?_set]
    refine ⟨?_, hsame⟩
    by_cases heq : entry.1 = key
    · subst heq
      rw [Map.lookup_eq_none.mpr hnot, if_pos rfl, if_pos rfl]
      rfl
    · rw [if_neg heq, if_neg (Ne.symm heq)]

/-- **After the commit** every staged key has its staged route, and the other routes stay. -/
lemma commitStaged_routes (s : RtpRouter) :
    (∀ ssrc, s.commitStaged.ssrcTable ssrc =
      ((s.stagedSsrc.get? ssrc).map RtpEndpoint.receiver).or (s.ssrcTable ssrc)) ∧
    (∀ key, s.commitStaged.ridTable.get? key =
      ((s.stagedRid.get? key).map RtpEndpoint.receiver).or (s.ridTable.get? key)) ∧
    ∀ ssrc, ssrc ∈ s.commitStaged.learnedSsrcs ↔
      ssrc ∈ s.learnedSsrcs ∧ s.stagedSsrc.get? ssrc = none := by
  have hssrc := foldl_commitSsrc s.stagedSsrc.nodup s
  have hrid := foldl_commitRid s.stagedRid.nodup (s.stagedSsrc.entries.foldl commitSsrc s)
  refine ⟨fun ssrc => ?_, fun key => ?_, fun ssrc => ?_⟩
  · change (s.stagedRid.entries.foldl commitRid _).ssrcTable ssrc = _
    rw [(hrid ⟨"", ""⟩).2.1, (hssrc ssrc).1]
    rfl
  · change (s.stagedRid.entries.foldl commitRid _).ridTable.get? key = _
    rw [(hrid key).1, foldl_commitSsrc_same]
    rfl
  · change ssrc ∈ (s.stagedRid.entries.foldl commitRid _).learnedSsrcs ↔ _
    rw [(hrid ⟨"", ""⟩).2.2, (hssrc ssrc).2]
    rfl

/-- Only provisional routes that have not been learned are discarded. -/
lemma foldl_discardSsrc (entries : List (ℕ × ℕ)) (s : RtpRouter) :
    (∀ ssrc, (entries.foldl discardSsrc s).ssrcTable ssrc = s.ssrcTable ssrc ∨
      ssrc ∈ entries.map Prod.fst ∧ ssrc ∉ s.learnedSsrcs ∧
        (entries.foldl discardSsrc s).ssrcTable ssrc = none) ∧
    (entries.foldl discardSsrc s).learnedSsrcs = s.learnedSsrcs ∧
    (entries.foldl discardSsrc s).ridTable = s.ridTable := by
  induction entries generalizing s with
  | nil => exact ⟨fun _ => Or.inl rfl, rfl, rfl⟩
  | cons entry entries ih =>
    obtain ⟨htable, hlearned, hrid⟩ := ih (s.discardSsrc entry)
    have hsame : (s.discardSsrc entry).learnedSsrcs = s.learnedSsrcs ∧
        (s.discardSsrc entry).ridTable = s.ridTable := by
      unfold discardSsrc
      split_ifs <;> exact ⟨rfl, rfl⟩
    refine ⟨fun ssrc => ?_, hlearned.trans hsame.1, hrid.trans hsame.2⟩
    rw [List.foldl_cons, List.map_cons, List.mem_cons]
    rcases htable ssrc with heq | ⟨hmem, hnot, hnone⟩
    · by_cases hdrop : s.ssrcTable entry.1 = some (.receiver entry.2) ∧ entry.1 ∉ s.learnedSsrcs
      · by_cases hkey : ssrc = entry.1
        · subst hkey
          refine Or.inr ⟨Or.inl rfl, hdrop.2, heq.trans ?_⟩
          rw [discardSsrc, if_pos hdrop]
          exact Function.update_self _ _ _
        · refine Or.inl (heq.trans ?_)
          rw [discardSsrc, if_pos hdrop]
          exact Function.update_of_ne hkey _ _
      · refine Or.inl (heq.trans ?_)
        rw [discardSsrc, if_neg hdrop]
    · exact Or.inr ⟨Or.inr hmem, hsame.1 ▸ hnot, hnone⟩

/-- The live senders get the SSRCs that have no route. -/
lemma foldl_restoreSender (liveSenders : List RtpSenderRoute) (s : RtpRouter) (ssrc : ℕ) :
    (liveSenders.foldl restoreSender s).ssrcTable ssrc =
        (s.ssrcTable ssrc).or ((liveSenders.find? fun sender => sender.ssrc == ssrc).map
          fun sender => .sender sender.id) ∧
      (ssrc ∈ (liveSenders.foldl restoreSender s).learnedSsrcs ↔ ssrc ∈ s.learnedSsrcs ∧
        ((s.ssrcTable ssrc).isSome = true ∨ ∀ sender ∈ liveSenders, sender.ssrc ≠ ssrc)) := by
  induction liveSenders generalizing s with
  | nil => simp
  | cons sender liveSenders ih =>
    obtain ⟨htable, hlearned⟩ := ih (s.restoreSender sender)
    rw [List.foldl_cons, htable, hlearned, List.find?_cons, restoreSender]
    by_cases hkey : sender.ssrc = ssrc
    · subst hkey
      cases hs : s.ssrcTable sender.ssrc with
      | none => simp [registerRtpSender]
      | some endpoint => simp [hs]
    · have hbeq : (sender.ssrc == ssrc) = false := by simpa using hkey
      rw [hbeq]
      cases hs : s.ssrcTable sender.ssrc with
      | none =>
        have hkey' : ssrc ≠ sender.ssrc := Ne.symm hkey
        simp [registerRtpSender, hkey, hkey']
      | some endpoint => simp [hkey]

end RtpRouter

end Werift.Webrtc
