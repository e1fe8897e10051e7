import Werift.Container.WebmContainer

/-!
# Recording to WebM (`WebmBase` of `rtp/src/extra/processor/webm.ts`)

Frames become blocks of clusters.  A keyframe of the video starts a cluster, and so does a frame that is too late
for 16 bits.  The times, the positions of the clusters and the cues are kept in different places, and agree when no
cluster starts before the first frame (`Recorded`).
-/

namespace Werift.Container

open Rtp (Bytes)

/-- `MediaKind`. -/
inductive MediaKind
  | video
  | audio
deriving DecidableEq

/-- `WebmTrack`, as far as the blocks need it. -/
structure WebmTrack where
  kind : MediaKind
  trackNumber : ℕ
  trackNumber_lt : trackNumber < 2 ^ 53

/-- The tracks, the container and the options of a recording. -/
structure WebmSettings where
  tracks : List WebmTrack
  trackEntries : List EBMLData
  encryption : Option AesCtr
  float : ℤ → Bytes
  duration : Option ℤ
  strictTimestamp : Bool

/-- A frame of a track.  No buffer is longer than the bound. -/
structure WebmFrame where
  data : Bytes
  data_lt : data.length < 2 ^ 52
  isKeyframe : Bool
  time : ℤ
  trackNumber : ℕ

/-- `WebmClusterInfo`. -/
structure WebmClusterInfo where
  position : ℕ
  size : ℤ
deriving DecidableEq

/-- `MaxSinged16Int`. -/
def MaxSinged16Int : ℤ := 32767

/-- `SegmentSizePosition`. -/
def SegmentSizePosition : ℕ := 40

/-- `SegmentHeaderLength`. -/
def SegmentHeaderLength : ℕ := SegmentSizePosition + 8

/-- `ClusterSizeOffset`. -/
def ClusterSizeOffset : ℕ := 4

/-- `ClusterHeaderLength`. -/
def ClusterHeaderLength : ℕ := ClusterSizeOffset + 8

/-- `ClusterTimestamp`. -/
structure ClusterTimestamp where
  baseTime : Option ℤ := none
  elapsed : ℤ := 0
  offset : ℤ := 0

/-- `shift(elapsed)`. -/
def ClusterTimestamp.shift (t : ClusterTimestamp) (elapsed : ℤ) : ClusterTimestamp :=
  { t with offset := t.offset + elapsed }

/-- `update(time)`. -/
def ClusterTimestamp.update (t : ClusterTimestamp) (time : ℤ) : Except String ClusterTimestamp :=
  match t.baseTime with
  | none => .error "baseTime not exist"
  | some baseTime => .ok { t with elapsed := time - baseTime - t.offset }

/-- `CuePoint`. -/
structure CuePoint where
  trackNumber : ℕ
  relativeTimestamp : ℤ
  position : ℕ
  cuesLength : ℤ := 0
  blockNumber : ℤ := 0

/-- `build()`. -/
def CuePoint.build (cue : CuePoint) : Except String EBMLData :=
  createCuePoint cue.relativeTimestamp cue.trackNumber (cue.position - SegmentHeaderLength + cue.cuesLength)
    cue.blockNumber

/-- `WebmOutput`.  A cluster and a block come with what they were created from, and so do the cues. -/
inductive WebmOutput
  | initial (saveToFile : Bytes)
  | cluster (timestamp previousDuration : ℤ) (saveToFile : Bytes)
  | block (frame : WebmFrame) (relativeTimestamp : ℤ) (saveToFile : Bytes)
  | cuePoints (cuePoints : List CuePoint) (previousDuration : ℤ) (saveToFile : Bytes)
  | eol (duration : ℤ) (durationElement header : Bytes) (clusters : List WebmClusterInfo)

/-- `WebmBase`, and what it has output. -/
structure WebmBase where
  relativeTimestamp : ℤ := 0
  timestamps : ℕ → ClusterTimestamp := fun _ => {}
  cuePoints : List CuePoint := []
  position : ℕ := 0
  clusterCounts : ℕ := 0
  clusters : List WebmClusterInfo := []
  elapsed : Option ℤ := none
  stopped : Bool := false
  trackIvs : ℕ → IvCounter
  outputs : List WebmOutput := []

namespace WebmBase

section

variable (settings : WebmSettings) (w : WebmBase)

/-- The header of the file. -/
def staticPart (duration : Option ℤ) : Except String Bytes := do
  let header ← ebmlHeader
  let segment ← createSegment settings.float settings.trackEntries duration
  return header ++ segment

/-- A new recording after `start()`. -/
def start (trackIvs : ℕ → IvCounter) : Except String WebmBase := do
  let staticPart ← staticPart settings settings.duration
  let video := settings.tracks.find? fun t => t.kind = .video
  return {
    trackIvs
    outputs := [.initial staticPart]
    position := staticPart.length
    cuePoints := (video.map fun video => (⟨video.trackNumber, 0, staticPart.length, 0, 0⟩ : CuePoint)).toList }

/-- `closeCluster()`. -/
def closeCluster : WebmBase :=
  { w with clusters := w.clusters.modifyLast fun latest =>
      { latest with size := w.position - (latest.position + ClusterHeaderLength) } }

/-- A cluster is output. -/
def openCluster (timestamp duration : ℤ) (cluster : Bytes) : WebmBase :=
  { w.closeCluster with
    clusterCounts := w.clusterCounts + 1
    clusters := w.closeCluster.clusters ++ [⟨w.position, 0⟩]
    outputs := w.outputs ++ [.cluster timestamp duration cluster]
    position := w.position + cluster.length
    elapsed := none }

/-- `createCluster(timestamp, duration)`. -/
def createCluster (timestamp duration : ℤ) : Except String WebmBase := do
  let cluster ← Container.createCluster timestamp
  return w.openCluster timestamp duration cluster

/-- A block is output. -/
def addBlock (frame : WebmFrame) (elapsed : ℤ) (block : Bytes) : WebmBase :=
  { w with
    outputs := w.outputs ++ [.block frame elapsed block]
    position := w.position + block.length
    cuePoints := w.cuePoints.modifyLast fun cue => { cue with blockNumber := cue.blockNumber + 1 } }

/-- `createSimpleBlock({ frame, trackNumber, elapsed })`, and the error, if there is one. -/
def createSimpleBlock (frame : WebmFrame) (elapsed : ℤ) : WebmBase × Option String :=
  let present := w.elapsed.getD elapsed
  if elapsed < present ∧ settings.strictTimestamp then ({ w with elapsed := some present }, none)
  else
    let ivCounter := w.trackIvs frame.trackNumber
    let trackIvs := Function.update w.trackIvs frame.trackNumber ivCounter.next
    let w := { w with elapsed := some elapsed, trackIvs }
    match Container.createSimpleBlock settings.encryption ivCounter frame.data frame.isKeyframe frame.trackNumber
      elapsed with
    | .error message => (w, some message)
    | .ok block => (w.addBlock frame elapsed block, none)

/-- A frame that is not before its cluster becomes a block. -/
def writeFrame (frame : WebmFrame) (elapsed : ℤ) : WebmBase × Option String :=
  if 0 ≤ elapsed then w.createSimpleBlock settings frame elapsed else (w, none)

/-- The first frame fixes the base time of all tracks. -/
def setBaseTime (frame : WebmFrame) : WebmBase :=
  if (w.timestamps frame.trackNumber).baseTime = none then
    { w with timestamps := fun t => { w.timestamps t with baseTime := some frame.time } }
  else w

/-- `timestampManager.update(frame.time)`. -/
def update (frame : WebmFrame) : Except String (ℤ × WebmBase) := do
  let timestampManager ← (w.timestamps frame.trackNumber).update frame.time
  return (timestampManager.elapsed,
    { w with timestamps := Function.update w.timestamps frame.trackNumber timestampManager })

/-- A cue for a cluster that a frame starts. -/
def addCue (frame : WebmFrame) : WebmBase :=
  { w with cuePoints := w.cuePoints ++ [⟨frame.trackNumber, w.relativeTimestamp, w.position, 0, 0⟩] }

/-- All tracks are shifted. -/
def shiftAll (elapsed : ℤ) : WebmBase := { w with timestamps := fun t => (w.timestamps t).shift elapsed }

/-- A frame that starts a cluster, unless it starts at the same time as the last one. -/
def nextCluster (frame : WebmFrame) (elapsed : ℤ) : WebmBase × Option String :=
  let w := { w with relativeTimestamp := w.relativeTimestamp + elapsed }
  if elapsed = 0 then w.writeFrame settings frame elapsed
  else
    let w := w.addCue frame
    match w.createCluster w.relativeTimestamp elapsed with
    | .error message => (w, some message)
    | .ok w =>
      let w := w.shiftAll elapsed
      match w.update frame with
      | .error message => (w, some message)
      | .ok (elapsed, w) => w.writeFrame settings frame elapsed

/-- A frame `elapsed` after the start of the last cluster. -/
def placeFrame (track : WebmTrack) (frame : WebmFrame) (elapsed : ℤ) : WebmBase × Option String :=
  if w.clusterCounts = 0 then
    match w.createCluster 0 0 with
    | .error message => (w, some message)
    | .ok w => w.writeFrame settings frame elapsed
  else if (track.kind = .video ∧ frame.isKeyframe) ∨ MaxSinged16Int < elapsed then
    w.nextCluster settings frame elapsed
  else w.writeFrame settings frame elapsed

/-- `onFrameReceived(frame)`, and the error, if there is one. -/
def onFrameReceived (frame : WebmFrame) : WebmBase × Option String :=
  match settings.tracks.find? fun t => t.trackNumber = frame.trackNumber with
  | none => (w, none)
  | some track =>
    let w := w.setBaseTime frame
    match w.update frame with
    | .error message => (w, some message)
    | .ok (elapsed, w) => w.placeFrame settings track frame elapsed

/-- A recording that receives these frames.  One that throws goes on from the state that it left. -/
def run (frames : List WebmFrame) : WebmBase := frames.foldl (fun w frame => (w.onFrameReceived settings frame).1) w

/-- The bytes of the cues. -/
def cues : Except String Bytes := do
  let cuePoints ← w.cuePoints.mapM CuePoint.build
  createCues cuePoints

/-- The last parts of the `eol`. -/
def finalParts (duration : ℤ) : Except String (Bytes × Bytes) := do
  let durationElement ← createDuration settings.float duration
  let header ← staticPart settings (some duration)
  return (durationElement, header)

/-- `stop()`, and the error, if there is one. -/
def stop : WebmBase × Option String :=
  if w.stopped then (w, none)
  else
    let w := { w with stopped := true }
    match (settings.tracks.map fun t => (w.timestamps t.trackNumber).elapsed).max? with
    | none => (w, some "TypeError")
    | some latestTimestamp =>
      let duration := w.relativeTimestamp + latestTimestamp
      let w := w.closeCluster
      match w.cues with
      | .error message => (w, some message)
      | .ok cues =>
        let w := { w with outputs := w.outputs ++ [.cuePoints w.cuePoints duration cues] }
        match finalParts settings duration with
        | .error message => (w, some message)
        | .ok (durationElement, header) =>
          ({ w with
            outputs := w.outputs ++ [.eol duration durationElement header w.clusters]
            timestamps := fun _ => {}
            clusters := []
            cuePoints := [] }, none)

end

end WebmBase

/-! ## What is in an output -/

/-- `saveToFile`. -/
def WebmOutput.saveToFile : WebmOutput → Bytes
  | initial saveToFile => saveToFile
  | cluster _ _ saveToFile => saveToFile
  | block _ _ saveToFile => saveToFile
  | cuePoints _ _ saveToFile => saveToFile
  | eol _ _ _ _ => []

/-- The blocks of an output: the timestamp of the cluster before each, its frame and its own timestamp. -/
def blocksOf : ℤ → List WebmOutput → List (ℤ × WebmFrame × ℤ)
  | _, [] => []
  | _, .cluster timestamp _ _ :: outputs => blocksOf timestamp outputs
  | timestamp, .block frame relativeTimestamp _ :: outputs =>
    (timestamp, frame, relativeTimestamp) :: blocksOf timestamp outputs
  | timestamp, _ :: outputs => blocksOf timestamp outputs

/-- The length of the blocks up to something else. -/
def blocksLength : List WebmOutput → ℕ
  | .block _ _ saveToFile :: outputs => saveToFile.length + blocksLength outputs
  | _ => 0

/-- Where the clusters of an output start, and the lengths of their bodies. -/
def layout : ℕ → List WebmOutput → List WebmClusterInfo
  | _, [] => []
  | position, .cluster _ _ saveToFile :: outputs =>
    ⟨position, saveToFile.length + blocksLength outputs - ClusterHeaderLength⟩ ::
      layout (position + saveToFile.length) outputs
  | position, output :: outputs => layout (position + output.saveToFile.length) outputs

/-! ## The frames of a recording -/

namespace WebmSettings

variable (settings : WebmSettings)

/-- The track of a frame. -/
def trackOf (frame : WebmFrame) : Option WebmTrack :=
  settings.tracks.find? fun t => t.trackNumber = frame.trackNumber

/-- The frames of the tracks. -/
def framesOf (frames : List WebmFrame) : List WebmFrame :=
  frames.filter fun frame => (settings.trackOf frame).isSome

/-- A keyframe of the video. -/
def isVideoKeyframe (frame : WebmFrame) : Bool :=
  (settings.trackOf frame).any fun track => track.kind = .video ∧ frame.isKeyframe

/-- The frames that are not late for their clusters, from a cluster that starts at `start` on whose last block is at
`present`.  With `strictTimestamp` a frame before the last block is late, too. -/
def timely (base : ℤ) : ℤ → ℤ → List WebmFrame → List WebmFrame
  | _, _, [] => []
  | start, present, frame :: frames =>
    let time := frame.time - base
    if (settings.isVideoKeyframe frame ∧ time ≠ start) ∨ MaxSinged16Int < time - start then
      frame :: timely base time time frames
    else if time < start ∨ (time < present ∧ settings.strictTimestamp) then timely base start present frames
    else frame :: timely base start time frames

/-- The frames of a recording that are not late for their clusters. -/
def timelyFrames : List WebmFrame → List WebmFrame
  | [] => []
  | first :: frames => first :: settings.timely first.time 0 0 frames

/-- **The recordings that are seekable.**  No keyframe of the video is before the first frame, and the times are
numbers.  A recording with video has a frame. -/
def InTime : List WebmFrame → Prop
  | [] => ∀ track ∈ settings.tracks, track.kind ≠ .video
  | first :: frames => ∀ frame ∈ frames,
    (settings.isVideoKeyframe frame → first.time ≤ frame.time) ∧ frame.time - first.time < 2 ^ 53

end WebmSettings

/-! ## Clusters with their blocks -/

/-- A cluster and its blocks. -/
structure Group where
  timestamp : ℤ
  previousDuration : ℤ
  header : Bytes
  blocks : List (WebmFrame × ℤ × Bytes)

namespace Group

/-- What a cluster and its blocks output. -/
def outputs (g : Group) : List WebmOutput :=
  .cluster g.timestamp g.previousDuration g.header :: g.blocks.map fun b => .block b.1 b.2.1 b.2.2

/-- The length of a cluster and its blocks. -/
def length (g : Group) : ℕ := g.header.length + (g.blocks.map fun b => b.2.2.length).sum

/-- A cluster with one more block. -/
def addBlock (g : Group) (block : WebmFrame × ℤ × Bytes) : Group := { g with blocks := g.blocks ++ [block] }

/-- The length of all. -/
def total (groups : List Group) : ℕ := (groups.map length).sum

/-- Where the clusters start. -/
def positions : ℕ → List Group → List WebmClusterInfo
  | _, [] => []
  | position, g :: groups => ⟨position, g.length - ClusterHeaderLength⟩ :: positions (position + g.length) groups

/-- The blocks of a cluster, with its timestamp. -/
def stamps (g : Group) : List (ℤ × WebmFrame × ℤ) := g.blocks.map fun b => (g.timestamp, b.1, b.2.1)

lemma total_cons (g : Group) (groups : List Group) : total (g :: groups) = g.length + total groups := by
  rw [total, List.map_cons, List.sum_cons, total]

lemma total_concat (groups : List Group) (g : Group) : total (groups ++ [g]) = total groups + g.length := by
  rw [total, List.map_append, List.sum_append, List.map_singleton, List.sum_singleton, total]

lemma positions_concat (position : ℕ) (groups : List Group) (g : Group) : positions position (groups ++ [g]) =
    positions position groups ++ [⟨position + total groups, g.length - ClusterHeaderLength⟩] := by
  induction groups generalizing position with
  | nil => rfl
  | cons g' groups ih =>
    rw [List.cons_append, positions, ih, positions, total_cons, Nat.add_assoc]
    rfl

lemma blocksOf_map_block (timestamp : ℤ) (blocks : List (WebmFrame × ℤ × Bytes)) (outputs : List WebmOutput) :
    blocksOf timestamp ((blocks.map fun b => .block b.1 b.2.1 b.2.2) ++ outputs) =
      (blocks.map fun b => (timestamp, b.1, b.2.1)) ++ blocksOf timestamp outputs := by
  induction blocks with
  | nil => rfl
  | cons b blocks ih =>
    rw [List.map_cons, List.cons_append, blocksOf, ih]
    rfl

lemma blocksOf_outputs (timestamp : ℤ) (g : Group) (outputs : List WebmOutput) :
    blocksOf timestamp (g.outputs ++ outputs) = g.stamps ++ blocksOf g.timestamp outputs :=
  blocksOf_map_block g.timestamp g.blocks outputs

/-- What is behind the clusters has no blocks of its own. -/
lemma blocksOf_flatMap (timestamp : ℤ) (groups : List Group) {outputs : List WebmOutput}
    (h : ∀ timestamp, blocksOf timestamp outputs = []) :
    blocksOf timestamp (groups.flatMap Group.outputs ++ outputs) = groups.flatMap stamps := by
  induction groups generalizing timestamp with
  | nil => exact h timestamp
  | cons g groups ih => rw [List.flatMap_cons, List.append_assoc, blocksOf_outputs, ih, List.flatMap_cons]

lemma blocksLength_map_block (blocks : List (WebmFrame × ℤ × Bytes)) {outputs : List WebmOutput}
    (h : blocksLength outputs = 0) :
    blocksLength ((blocks.map fun b => .block b.1 b.2.1 b.2.2) ++ outputs) =
      (blocks.map fun b => b.2.2.length).sum := by
  induction blocks with
  | nil => exact h
  | cons b blocks ih =>
    rw [List.map_cons, List.cons_append, blocksLength, ih]
    rfl

lemma layout_map_block (position : ℕ) (blocks : List (WebmFrame × ℤ × Bytes)) (outputs : List WebmOutput) :
    layout position ((blocks.map fun b => .block b.1 b.2.1 b.2.2) ++ outputs) =
      layout (position + (blocks.map fun b => b.2.2.length).sum) outputs := by
  induction blocks generalizing position with
  | nil => rfl
  | cons b blocks ih =>
    rw [List.map_cons, List.cons_append, layout, ih, List.map_cons, List.sum_cons, Nat.add_assoc]
    · rfl
    · exact nofun

lemma layout_flatMap (position : ℕ) (groups : List Group) {outputs : List WebmOutput}
    (h : blocksLength outputs = 0) : layout position (groups.flatMap Group.outputs ++ outputs) =
      positions position groups ++ layout (position + total groups) outputs := by
  induction groups generalizing position with
  | nil => rfl
  | cons g groups ih =>
    have hnext : blocksLength (groups.flatMap Group.outputs ++ outputs) = 0 := by
      cases groups with
      | nil => exact h
      | cons g' groups => rfl
    rw [List.flatMap_cons, List.append_assoc, Group.outputs, List.cons_append, layout,
      blocksLength_map_block _ hnext, layout_map_block, ih, positions, total_cons, Group.length, Nat.add_assoc,
      Nat.add_assoc, Nat.cast_add, ← Nat.add_assoc position]
    rfl

end Group

namespace WebmBase

variable {settings : WebmSettings} {w w' : WebmBase} {frame : WebmFrame} {frames : List WebmFrame}
variable {base elapsed : ℤ} {present : Option ℤ} {header : Bytes} {groups : List Group} {g : Group}

/-- **What a recording keeps** once it has a cluster. -/
structure Recorded (base : ℤ) (present : Option ℤ) (header : Bytes) (groups : List Group) (g : Group)
    (w : WebmBase) : Prop where
  outputs : w.outputs = .initial header :: (groups ++ [g]).flatMap Group.outputs
  position : w.position = header.length + Group.total (groups ++ [g])
  clusters : ∃ size, w.clusters =
    Group.positions header.length groups ++ [⟨header.length + Group.total groups, size⟩]
  baseTime : ∀ t, (w.timestamps t).baseTime = some base
  offset : ∀ t, (w.timestamps t).offset = w.relativeTimestamp
  timestamp : g.timestamp = w.relativeTimestamp
  nonneg : 0 ≤ w.relativeTimestamp
  counts : w.clusterCounts ≠ 0
  elapsed : w.elapsed = present
  running : w.stopped = false
  cues : ∀ cue ∈ w.cuePoints,
    cue.position ∈ (Group.positions header.length (groups ++ [g])).map WebmClusterInfo.position
  blocks : ∀ block ∈ (groups ++ [g]).flatMap Group.stamps,
    block.1 + block.2.2 = block.2.1.time - base ∧ 0 ≤ block.2.2 ∧ block.2.2 ≤ MaxSinged16Int

/-- The frames that have become blocks. -/
def written (groups : List Group) : List WebmFrame := (groups.flatMap Group.stamps).map fun block => block.2.1

lemma mem_modifyLast_cue {cues : List CuePoint} {cue : CuePoint} (h : cue ∈ cues.modifyLast fun cue =>
    { cue with blockNumber := cue.blockNumber + 1 }) : ∃ before ∈ cues, before.position = cue.position := by
  induction cues using List.reverseRecOn with
  | nil => exact absurd h List.not_mem_nil
  | append_singleton cues last _ =>
    rw [List.modifyLast_concat] at h
    obtain hbefore | hlast := List.mem_append.mp h
    · exact ⟨cue, List.mem_append_left _ hbefore, rfl⟩
    · obtain rfl := List.mem_singleton.mp hlast
      exact ⟨last, List.mem_append_right _ (List.mem_singleton_self last), rfl⟩

lemma map_position_concat (groups : List Group) (g : Group) :
    (Group.positions header.length (groups ++ [g])).map WebmClusterInfo.position =
      (Group.positions header.length groups).map WebmClusterInfo.position ++
        [header.length + Group.total groups] := by
  rw [Group.positions_concat, List.map_append, List.map_singleton]

lemma Recorded.addBlock (h : Recorded base present header groups g w) (hnonneg : 0 ≤ elapsed)
    (hle : elapsed ≤ MaxSinged16Int) (htime : w.relativeTimestamp + elapsed = frame.time - base) (bytes : Bytes)
    (trackIvs : ℕ → IvCounter) : Recorded base (some elapsed) header groups (g.addBlock (frame, elapsed, bytes))
      ({ w with elapsed := some elapsed, trackIvs }.addBlock frame elapsed bytes) := by
  obtain ⟨size, hclusters⟩ := h.clusters
  have houtputs : (g.addBlock (frame, elapsed, bytes)).outputs = g.outputs ++ [.block frame elapsed bytes] := by
    rw [Group.outputs, Group.addBlock, List.map_append]
    rfl
  have hlength : (g.addBlock (frame, elapsed, bytes)).length = g.length + bytes.length := by
    rw [Group.length, Group.addBlock, List.map_append, List.sum_append, Group.length, Nat.add_assoc]
    rfl
  have hstamps : (g.addBlock (frame, elapsed, bytes)).stamps = g.stamps ++ [(g.timestamp, frame, elapsed)] := by
    rw [Group.stamps, Group.addBlock, List.map_append]
    rfl
  refine ⟨?_, ?_, ⟨size, hclusters⟩, h.baseTime, h.offset, h.timestamp, h.nonneg, h.counts, rfl, h.running,
    fun cue hcue => ?_, fun block hblock => ?_⟩
  · change w.outputs ++ [.block frame elapsed bytes] = _
    rw [h.outputs, List.flatMap_append, List.flatMap_append, List.flatMap_singleton, List.flatMap_singleton,
      houtputs, List.cons_append, List.append_assoc]
  · change w.position + bytes.length = _
    rw [h.position, Group.total_concat, Group.total_concat, hlength]
    omega
  · obtain ⟨before, hbefore, hposition⟩ := mem_modifyLast_cue hcue
    have hmem := h.cues before hbefore
    rw [map_position_concat] at hmem ⊢
    rw [← hposition]
    exact hmem
  · rw [List.flatMap_append, List.flatMap_singleton, hstamps, ← List.append_assoc,
      ← List.flatMap_singleton (f := Group.stamps), ← List.flatMap_append] at hblock
    obtain hbefore | hnew := List.mem_append.mp hblock
    · exact h.blocks block hbefore
    · obtain rfl := List.mem_singleton.mp hnew
      rw [h.timestamp]
      exact ⟨htime, hnonneg, hle⟩

/-- **A block is output** unless the frame is before the last block and that matters. -/
lemma Recorded.createSimpleBlock (h : Recorded base present header groups g w) (settings : WebmSettings)
    (hnonneg : 0 ≤ elapsed) (hle : elapsed ≤ MaxSinged16Int) (htrack : frame.trackNumber < 2 ^ 53)
    (htime : w.relativeTimestamp + elapsed = frame.time - base) :
    if elapsed < present.getD elapsed ∧ settings.strictTimestamp then
      Recorded base (some (present.getD elapsed)) header groups g (w.createSimpleBlock settings frame elapsed).1
    else ∃ bytes, Recorded base (some elapsed) header groups (g.addBlock (frame, elapsed, bytes))
        (w.createSimpleBlock settings frame elapsed).1 := by
  unfold WebmBase.createSimpleBlock
  dsimp only
  rw [h.elapsed]
  split_ifs with hlate
  · exact ⟨h.outputs, h.position, h.clusters, h.baseTime, h.offset, h.timestamp, h.nonneg, h.counts, rfl, h.running,
      h.cues, h.blocks⟩
  · obtain ⟨bytes, hbytes⟩ := exists_createSimpleBlock settings.encryption (w.trackIvs frame.trackNumber)
      frame.data_lt frame.isKeyframe htrack hnonneg hle
    rw [hbytes]
    exact ⟨bytes, h.addBlock hnonneg hle htime bytes _⟩

/-- **A cluster is output**, and the times are relative to it. -/
lemma recorded_openCluster (houtputs : w.outputs = .initial header :: groups.flatMap Group.outputs)
    (hposition : w.position = header.length + Group.total groups)
    (hclosed : w.closeCluster.clusters = Group.positions header.length groups)
    (hrunning : w.stopped = false) (hnonneg : 0 ≤ w.relativeTimestamp)
    (hcues : ∀ cue ∈ w.cuePoints,
      cue.position ∈ (Group.positions header.length groups).map WebmClusterInfo.position ∨
        cue.position = w.position)
    (hblocks : ∀ block ∈ groups.flatMap Group.stamps,
      block.1 + block.2.2 = block.2.1.time - base ∧ 0 ≤ block.2.2 ∧ block.2.2 ≤ MaxSinged16Int)
    {timestamps : ℕ → ClusterTimestamp} (hbase : ∀ t, (timestamps t).baseTime = some base)
    (hoffset : ∀ t, (timestamps t).offset = w.relativeTimestamp) (duration : ℤ) (bytes : Bytes) :
    Recorded base none header groups ⟨w.relativeTimestamp, duration, bytes, []⟩
      { w.openCluster w.relativeTimestamp duration bytes with timestamps } := by
  refine ⟨?_, ?_, ⟨0, ?_⟩, hbase, hoffset, rfl, hnonneg, Nat.succ_ne_zero _, rfl, hrunning, fun cue hcue => ?_,
    fun block hblock => ?_⟩
  · change w.outputs ++ _ = _
    rw [houtputs, List.flatMap_append, List.flatMap_singleton]
    rfl
  · change w.position + bytes.length = _
    rw [hposition, Group.total_concat, Group.length]
    simp only [List.map_nil, List.sum_nil]
    omega
  · change w.closeCluster.clusters ++ [⟨w.position, 0⟩] = _
    rw [hclosed, hposition]
  · rw [map_position_concat, List.mem_append, List.mem_singleton, ← hposition]
    exact hcues cue hcue
  · rw [List.flatMap_append, List.flatMap_singleton] at hblock
    obtain hbefore | hnew := List.mem_append.mp hblock
    · exact hblocks block hbefore
    · exact absurd hnew List.not_mem_nil

/-- Once the last cluster is closed, all have their sizes. -/
lemma Recorded.closeCluster (h : Recorded base present header groups g w) :
    w.closeCluster.clusters = Group.positions header.length (groups ++ [g]) := by
  obtain ⟨size, hclusters⟩ := h.clusters
  have hsize : (w.position : ℤ) - ((header.length + Group.total groups : ℕ) + ClusterHeaderLength) =
      g.length - ClusterHeaderLength := by
    rw [h.position, Group.total_concat]
    push_cast
    ring
  rw [WebmBase.closeCluster, hclusters, List.modifyLast_concat, Group.positions_concat]
  dsimp only
  rw [hsize]

/-! ## A frame -/

lemma Recorded.withTimestamps (h : Recorded base present header groups g w) {timestamps : ℕ → ClusterTimestamp}
    (hbase : ∀ t, (timestamps t).baseTime = some base)
    (hoffset : ∀ t, (timestamps t).offset = w.relativeTimestamp) :
    Recorded base present header groups g { w with timestamps } :=
  ⟨h.outputs, h.position, h.clusters, hbase, hoffset, h.timestamp, h.nonneg, h.counts, h.elapsed, h.running, h.cues,
    h.blocks⟩

/-- What `update` makes of the timestamps. -/
def touch (timestamps : ℕ → ClusterTimestamp) (frame : WebmFrame) (elapsed : ℤ) : ℕ → ClusterTimestamp :=
  Function.update timestamps frame.trackNumber { timestamps frame.trackNumber with elapsed }

lemma touch_keeps (timestamps : ℕ → ClusterTimestamp) (frame : WebmFrame) (elapsed : ℤ) (t : ℕ) :
    (touch timestamps frame elapsed t).baseTime = (timestamps t).baseTime ∧
      (touch timestamps frame elapsed t).offset = (timestamps t).offset := by
  rw [touch, Function.update_apply]
  split_ifs with ht
  · rw [ht]
    exact ⟨rfl, rfl⟩
  · exact ⟨rfl, rfl⟩

lemma update_eq {offset : ℤ} (hbase : ∀ t, (w.timestamps t).baseTime = some base)
    (hoffset : ∀ t, (w.timestamps t).offset = offset) (frame : WebmFrame) : w.update frame =
      .ok (frame.time - base - offset,
        { w with timestamps := touch w.timestamps frame (frame.time - base - offset) }) := by
  have hmanager : { w.timestamps frame.trackNumber with elapsed := frame.time - base - offset } =
      (⟨some base, frame.time - base - offset, offset⟩ : ClusterTimestamp) := by
    dsimp only
    rw [hbase, hoffset]
  have hupdate : (w.timestamps frame.trackNumber).update frame.time =
      .ok ⟨some base, frame.time - base - offset, offset⟩ := by
    simp only [ClusterTimestamp.update, hbase, hoffset]
  rw [update, hupdate, touch, hmanager]
  rfl

/-- A frame on a cluster becomes a block, or is late. -/
lemma Recorded.writeFrame {p : ℤ} (h : Recorded base (some p) header groups g w) (settings : WebmSettings)
    (hle : elapsed ≤ MaxSinged16Int) (htrack : frame.trackNumber < 2 ^ 53)
    (htime : w.relativeTimestamp + elapsed = frame.time - base) :
    if elapsed < 0 ∨ (elapsed < p ∧ settings.strictTimestamp) then
      Recorded base (some p) header groups g (w.writeFrame settings frame elapsed).1
    else ∃ bytes, Recorded base (some elapsed) header groups (g.addBlock (frame, elapsed, bytes))
        (w.writeFrame settings frame elapsed).1 := by
  rw [WebmBase.writeFrame]
  by_cases hnonneg : 0 ≤ elapsed
  · have hblock := h.createSimpleBlock settings hnonneg hle htrack htime
    rw [if_pos hnonneg]
    by_cases hlate : elapsed < p ∧ settings.strictTimestamp
    · rw [if_pos (.inr hlate)]
      rw [Option.getD_some, if_pos hlate] at hblock
      exact hblock
    · rw [if_neg fun h => h.elim hnonneg.not_gt hlate]
      rw [Option.getD_some, if_neg hlate] at hblock
      exact hblock
  · rw [if_neg hnonneg, if_pos (.inl (not_le.mp hnonneg))]
    exact h

/-- The first frame of a cluster becomes a block. -/
lemma Recorded.writeFirst (h : Recorded base none header groups g w) (settings : WebmSettings)
    (htrack : frame.trackNumber < 2 ^ 53)
    (htime : w.relativeTimestamp = frame.time - base) :
    ∃ bytes, Recorded base (some 0) header groups (g.addBlock (frame, 0, bytes))
      (w.writeFrame settings frame 0).1 := by
  have hblock := h.createSimpleBlock settings le_rfl (by norm_num [MaxSinged16Int]) htrack
    ((add_zero _).trans htime)
  rw [Option.getD_none, if_neg fun hlate => lt_irrefl 0 hlate.1] at hblock
  rw [WebmBase.writeFrame, if_pos le_rfl]
  exact hblock

/-- **A frame that starts a cluster** is its first block. -/
lemma Recorded.nextCluster (h : Recorded base present header groups g w) (settings : WebmSettings)
    (htrack : frame.trackNumber < 2 ^ 53) (htime : w.relativeTimestamp + elapsed = frame.time - base)
    (hne : elapsed ≠ 0)
    (hnonneg : 0 ≤ frame.time - base) (hlt : frame.time - base < 2 ^ 53) :
    ∃ g' bytes, g'.timestamp = frame.time - base ∧ g'.blocks = [(frame, 0, bytes)] ∧
      Recorded base (some 0) header (groups ++ [g]) g' (w.nextCluster settings frame elapsed).1 := by
  obtain ⟨cluster, hcluster⟩ := exists_createCluster hnonneg hlt
  let w₁ := addCue { w with relativeTimestamp := w.relativeTimestamp + elapsed } frame
  have hopen : Recorded base none header (groups ++ [g]) ⟨w₁.relativeTimestamp, elapsed, cluster, []⟩
      ((w₁.openCluster w₁.relativeTimestamp elapsed cluster).shiftAll elapsed) := by
    apply recorded_openCluster
    · exact h.outputs
    · exact h.position
    · exact h.closeCluster
    · exact h.running
    · exact hnonneg.trans_eq htime.symm
    · intro cue hcue
      obtain hbefore | hnew := List.mem_append.mp hcue
      · exact .inl (h.cues cue hbefore)
      · exact .inr (congrArg CuePoint.position (List.mem_singleton.mp hnew))
    · exact h.blocks
    · exact h.baseTime
    · intro t
      change (w.timestamps t).offset + elapsed = _
      rw [h.offset]
      rfl
  have hcreate : w₁.createCluster w₁.relativeTimestamp elapsed =
      .ok (w₁.openCluster w₁.relativeTimestamp elapsed cluster) := by
    rw [WebmBase.createCluster, show w₁.relativeTimestamp = frame.time - base from htime, hcluster]
    rfl
  obtain ⟨w₂, hw₂⟩ : ∃ w₂, (w₁.openCluster w₁.relativeTimestamp elapsed cluster).shiftAll elapsed = w₂ := ⟨_, rfl⟩
  rw [hw₂] at hopen
  have hstart : w₂.relativeTimestamp = frame.time - base := hopen.timestamp.symm.trans htime
  have hupdate := update_eq hopen.baseTime hopen.offset frame
  rw [hstart, sub_self] at hupdate
  have hnext : w.nextCluster settings frame elapsed =
      { w₂ with timestamps := touch w₂.timestamps frame 0 }.writeFrame settings frame 0 := by
    rw [WebmBase.nextCluster]
    dsimp only
    rw [if_neg hne, hcreate]
    dsimp only
    rw [hw₂, hupdate, hstart]
  have htouched : Recorded base none header (groups ++ [g]) _
      { w₂ with timestamps := touch w₂.timestamps frame 0 } :=
    hopen.withTimestamps (fun t => (touch_keeps _ _ _ t).1.trans (hopen.baseTime t))
      fun t => (touch_keeps _ _ _ t).2.trans (hopen.offset t)
  obtain ⟨bytes, hwritten⟩ := htouched.writeFirst settings htrack hstart
  rw [hnext]
  exact ⟨_, bytes, htime, rfl, hwritten⟩

/-- The frames of the blocks of a cluster. -/
lemma written_concat (groups : List Group) (g : Group) :
    written (groups ++ [g]) = written groups ++ g.blocks.map Prod.fst := by
  rw [written, List.flatMap_append, List.map_append, List.flatMap_singleton, Group.stamps, List.map_map]
  rfl

lemma written_addBlock (groups : List Group) (g : Group) (block : WebmFrame × ℤ × Bytes) :
    written (groups ++ [g.addBlock block]) = written (groups ++ [g]) ++ [block.1] := by
  rw [written_concat, Group.addBlock, List.map_append, ← List.append_assoc, ← written_concat]
  rfl

lemma trackNumber_lt (hknown : (settings.trackOf frame).isSome) : frame.trackNumber < 2 ^ 53 := by
  obtain ⟨track, htrack⟩ := Option.isSome_iff_exists.mp hknown
  rw [WebmSettings.trackOf] at htrack
  have hnumber := List.find?_some htrack
  rw [← of_decide_eq_true hnumber]
  exact track.trackNumber_lt

/-- A frame that does not start a cluster. -/
lemma Recorded.stay {p : ℤ} (h : Recorded base (some p) header groups g w) (htrack : frame.trackNumber < 2 ^ 53)
    (htime : w.relativeTimestamp + elapsed = frame.time - base)
    (hstay : ¬((settings.isVideoKeyframe frame ∧ elapsed ≠ 0) ∨ MaxSinged16Int < elapsed)) : ∃ groups' g' p',
      Recorded base (some p') header groups' g' (w.writeFrame settings frame elapsed).1 ∧
      ∀ frames, written (groups' ++ [g']) ++ settings.timely base g'.timestamp (g'.timestamp + p') frames =
        written (groups ++ [g]) ++ settings.timely base g.timestamp (g.timestamp + p) (frame :: frames) := by
  rw [← h.timestamp] at htime
  have htimely (frames : List WebmFrame) : settings.timely base g.timestamp (g.timestamp + p) (frame :: frames) =
      if elapsed < 0 ∨ (elapsed < p ∧ settings.strictTimestamp) then
        settings.timely base g.timestamp (g.timestamp + p) frames
      else frame :: settings.timely base g.timestamp (g.timestamp + elapsed) frames := by
    rw [WebmSettings.timely, ← htime, if_neg (by rw [add_sub_cancel_left, ne_eq, add_eq_left]; exact hstay)]
    simp only [add_lt_iff_neg_left, add_lt_add_iff_left]
  have hwrite := h.writeFrame settings (not_lt.mp fun hlt => hstay (.inr hlt)) htrack
    (h.timestamp ▸ htime)
  split_ifs at hwrite with hlate
  · refine ⟨groups, g, p, hwrite, fun frames => ?_⟩
    rw [htimely, if_pos hlate]
  · obtain ⟨bytes, hwritten⟩ := hwrite
    refine ⟨groups, g.addBlock (frame, elapsed, bytes), elapsed, hwritten, fun frames => ?_⟩
    rw [htimely, if_neg hlate, written_addBlock, List.append_assoc]
    rfl

/-- **A frame** becomes a block, unless it is late for its cluster. -/
lemma Recorded.onFrameReceived {p : ℤ} (h : Recorded base (some p) header groups g w)
    (hknown : (settings.trackOf frame).isSome) (hkey : settings.isVideoKeyframe frame → base ≤ frame.time)
    (hlt : frame.time - base < 2 ^ 53) : ∃ groups' g' p',
      Recorded base (some p') header groups' g' (w.onFrameReceived settings frame).1 ∧
      ∀ frames, written (groups' ++ [g']) ++ settings.timely base g'.timestamp (g'.timestamp + p') frames =
        written (groups ++ [g]) ++ settings.timely base g.timestamp (g.timestamp + p) (frame :: frames) := by
  have htrack := trackNumber_lt hknown
  obtain ⟨track, hfind⟩ := Option.isSome_iff_exists.mp hknown
  have hvideo : settings.isVideoKeyframe frame = decide (track.kind = .video ∧ frame.isKeyframe) := by
    rw [WebmSettings.isVideoKeyframe, hfind]
    rfl
  have hupdate := update_eq h.baseTime h.offset frame
  have htouched : Recorded base (some p) header groups g { w with
      timestamps := touch w.timestamps frame (frame.time - base - w.relativeTimestamp) } :=
    h.withTimestamps (fun t => (touch_keeps _ _ _ t).1.trans (h.baseTime t))
      fun t => (touch_keeps _ _ _ t).2.trans (h.offset t)
  have hset : w.setBaseTime frame = w := by
    rw [setBaseTime, h.baseTime, if_neg (Option.some_ne_none base)]
  have hreceived : w.onFrameReceived settings frame = { w with
      timestamps := touch w.timestamps frame (frame.time - base - w.relativeTimestamp) }.placeFrame settings track
        frame (frame.time - base - w.relativeTimestamp) := by
    rw [WebmSettings.trackOf] at hfind
    rw [WebmBase.onFrameReceived, hfind]
    dsimp only
    rw [hset, hupdate]
  have htime : w.relativeTimestamp + (frame.time - base - w.relativeTimestamp) = frame.time - base := by ring
  have hnonneg := h.nonneg
  rw [hreceived]
  generalize frame.time - base - w.relativeTimestamp = elapsed at htouched htime ⊢
  rw [placeFrame, if_neg htouched.counts]
  have hopens : ((track.kind = .video ∧ frame.isKeyframe) ∨ MaxSinged16Int < elapsed) =
      ((settings.isVideoKeyframe frame : Prop) ∨ MaxSinged16Int < elapsed) := by
    rw [hvideo, decide_eq_true_eq]
  simp only [hopens]
  by_cases hzero : elapsed = 0
  · have hnext : ({ w with timestamps := touch w.timestamps frame elapsed }.nextCluster settings frame elapsed) =
        { w with timestamps := touch w.timestamps frame elapsed }.writeFrame settings frame elapsed := by
      rw [WebmBase.nextCluster]
      dsimp only
      rw [if_pos hzero, hzero, add_zero]
    rw [hnext, ite_self]
    exact htouched.stay htrack htime (by rw [hzero]; norm_num [MaxSinged16Int])
  · split_ifs with hopen
    · have hstart : 0 ≤ frame.time - base := by
        obtain hvideo | hover := hopen
        · exact sub_nonneg.mpr (hkey hvideo)
        · rw [MaxSinged16Int] at hover
          omega
      obtain ⟨g', bytes, htimestamp, hblocks, hrecorded⟩ :=
        htouched.nextCluster settings htrack htime hzero hstart hlt
      refine ⟨groups ++ [g], g', 0, hrecorded, fun frames => ?_⟩
      have hopen' : (settings.isVideoKeyframe frame ∧ frame.time - base ≠ g.timestamp) ∨
          MaxSinged16Int < frame.time - base - g.timestamp := by
        rw [h.timestamp, ← htime, add_sub_cancel_left]
        exact hopen.imp_left fun hvideo => ⟨hvideo, fun heq => hzero (add_eq_left.mp heq)⟩
      rw [WebmSettings.timely, if_pos hopen', written_concat, hblocks, htimestamp, add_zero, List.append_assoc]
      rfl
    · exact htouched.stay htrack htime fun hopen' => hopen (hopen'.imp And.left id)

/-! ## Runs -/

/-- A recording before its first frame. -/
structure Started (settings : WebmSettings) (header : Bytes) (w : WebmBase) : Prop where
  outputs : w.outputs = [.initial header]
  position : w.position = header.length
  clusters : w.clusters = []
  timestamps : w.timestamps = fun _ => {}
  relativeTimestamp : w.relativeTimestamp = 0
  counts : w.clusterCounts = 0
  running : w.stopped = false
  cues : ∀ cue ∈ w.cuePoints, cue.position = header.length
  video : (∀ track ∈ settings.tracks, track.kind ≠ .video) → w.cuePoints = []

/-- The body of the segment starts where the cues have it. -/
lemma exists_started {trackIvs : ℕ → IvCounter} (h : start settings trackIvs = .ok w) :
    ∃ front body : Bytes, Started settings (front ++ (ID.Segment.bytes ++ (UNKNOWN_SIZE ++ body))) w ∧
      (front ++ (ID.Segment.bytes ++ UNKNOWN_SIZE)).length = SegmentHeaderLength := by
  obtain ⟨header, hstatic, h⟩ := Except.bind_eq_ok.mp h
  obtain rfl := Except.ok.inj h
  obtain ⟨front, hfront, hstatic⟩ := Except.bind_eq_ok.mp hstatic
  obtain ⟨segment, hsegment, hstatic⟩ := Except.bind_eq_ok.mp hstatic
  obtain rfl := Except.ok.inj hstatic
  obtain ⟨timecodeScale, -, hbuild⟩ := Except.bind_eq_ok.mp hsegment
  obtain ⟨body, rfl⟩ := build_unknownSizeElement hbuild
  obtain rfl := Except.ok.inj (ebmlHeader_eq.symm.trans hfront)
  refine ⟨_, body, ⟨rfl, rfl, rfl, rfl, rfl, rfl, rfl, fun cue hcue => ?_, fun hvideo => ?_⟩, rfl⟩
  · obtain ⟨video, -, rfl⟩ := Option.map_eq_some_iff.mp (Option.mem_toList.mp hcue)
    rfl
  · have hnone : settings.tracks.find? (fun t => t.kind = .video) = none := by
      refine List.find?_eq_none.mpr fun track htrack => ?_
      rw [decide_eq_true_eq]
      exact hvideo track htrack
    change (Option.map _ (settings.tracks.find? fun t => t.kind = .video)).toList = []
    rw [hnone]
    rfl

/-- **The first frame** starts the first cluster. -/
lemma Started.onFrameReceived (h : Started settings header w) (hknown : (settings.trackOf frame).isSome) :
    ∃ g bytes, g.timestamp = 0 ∧ g.blocks = [(frame, 0, bytes)] ∧
      Recorded frame.time (some 0) header [] g (w.onFrameReceived settings frame).1 := by
  have htrack := trackNumber_lt hknown
  obtain ⟨track, hfind⟩ := Option.isSome_iff_exists.mp hknown
  obtain ⟨cluster, hcluster⟩ := exists_createCluster le_rfl (by norm_num : (0 : ℤ) < 2 ^ 53)
  let w₁ : WebmBase := { w with timestamps := fun _ => { baseTime := some frame.time } }
  have hset : w.setBaseTime frame = w₁ := by
    rw [setBaseTime, h.timestamps]
    rfl
  have hupdate : w₁.update frame = .ok (0, { w₁ with timestamps := touch w₁.timestamps frame 0 }) := by
    have hbase (t : ℕ) : (w₁.timestamps t).baseTime = some frame.time := rfl
    have hoffset (t : ℕ) : (w₁.timestamps t).offset = 0 := rfl
    have hupdate := update_eq hbase hoffset frame
    rw [sub_self, sub_zero] at hupdate
    exact hupdate
  obtain ⟨w₂, hw₂⟩ : ∃ w₂ : WebmBase, { w₁ with timestamps := touch w₁.timestamps frame 0 } = w₂ := ⟨_, rfl⟩
  have hrelative : w₂.relativeTimestamp = 0 := by
    rw [← hw₂]
    exact h.relativeTimestamp
  have hopen : Recorded frame.time none header [] ⟨w₂.relativeTimestamp, 0, cluster, []⟩
      { w₂.openCluster w₂.relativeTimestamp 0 cluster with timestamps := w₂.timestamps } := by
    rw [← hw₂]
    apply recorded_openCluster
    · exact h.outputs
    · exact h.position
    · change List.modifyLast _ w.clusters = _
      rw [h.clusters]
      rfl
    · exact h.running
    · exact h.relativeTimestamp.ge
    · exact fun cue hcue => .inr ((h.cues cue hcue).trans h.position.symm)
    · exact fun block hblock => absurd hblock List.not_mem_nil
    · exact fun t => (touch_keeps _ _ _ t).1
    · exact fun t => (touch_keeps _ _ _ t).2.trans h.relativeTimestamp.symm
  rw [hrelative] at hopen
  obtain ⟨bytes, hwritten⟩ := hopen.writeFirst settings htrack
    (hrelative.trans (sub_self _).symm)
  have hreceived : w.onFrameReceived settings frame = (w₂.openCluster 0 0 cluster).writeFrame settings frame 0 := by
    rw [WebmSettings.trackOf] at hfind
    rw [WebmBase.onFrameReceived, hfind]
    dsimp only
    rw [hset, hupdate, hw₂]
    have hcounts : w₂.clusterCounts = 0 := by
      rw [← hw₂]
      exact h.counts
    have hcreate : w₂.createCluster 0 0 = .ok (w₂.openCluster 0 0 cluster) := by
      rw [WebmBase.createCluster, hcluster]
      rfl
    dsimp only
    rw [placeFrame, if_pos hcounts, hcreate]
  rw [hreceived]
  exact ⟨_, bytes, rfl, rfl, hwritten⟩

lemma onFrameReceived_of_unknown (hunknown : ¬(settings.trackOf frame).isSome) :
    w.onFrameReceived settings frame = (w, none) := by
  rw [Option.not_isSome_iff_eq_none, WebmSettings.trackOf] at hunknown
  rw [onFrameReceived, hunknown]

/-- Frames of no track change nothing. -/
lemma run_framesOf (settings : WebmSettings) (w : WebmBase) (frames : List WebmFrame) :
    w.run settings frames = w.run settings (settings.framesOf frames) := by
  induction frames generalizing w with
  | nil => rfl
  | cons frame frames ih =>
    rw [WebmSettings.framesOf, List.filter_cons]
    split_ifs with hknown
    · exact ih _
    · rw [run, List.foldl_cons, onFrameReceived_of_unknown hknown]
      exact ih w

/-- **A run**: the blocks are the frames that are not late. -/
lemma Recorded.run {p : ℤ} (h : Recorded base (some p) header groups g w)
    (hframes : ∀ frame ∈ frames, (settings.trackOf frame).isSome ∧
      (settings.isVideoKeyframe frame → base ≤ frame.time) ∧ frame.time - base < 2 ^ 53) :
    ∃ groups' g' p', Recorded base (some p') header groups' g' (w.run settings frames) ∧
      written (groups' ++ [g']) =
        written (groups ++ [g]) ++ settings.timely base g.timestamp (g.timestamp + p) frames := by
  induction frames generalizing w groups g p with
  | nil => exact ⟨groups, g, p, h, (List.append_nil _).symm⟩
  | cons frame frames ih =>
    obtain ⟨hknown, hkey, hlt⟩ := hframes frame List.mem_cons_self
    obtain ⟨groups', g', p', h', hwritten⟩ := h.onFrameReceived hknown hkey hlt
    obtain ⟨groups'', g'', p'', h'', hwritten'⟩ := ih h' fun later hlater =>
      hframes later (List.mem_cons_of_mem frame hlater)
    exact ⟨groups'', g'', p'', h'', hwritten'.trans (hwritten frames)⟩

/-- What `stop` outputs. -/
lemma stop_outputs (hstop : w.stop settings = (w', none)) (hrunning : w.stopped = false) :
    ∃ duration bytes durationElement header, w'.outputs = w.outputs ++
      [.cuePoints w.cuePoints duration bytes, .eol duration durationElement header w.closeCluster.clusters] := by
  rw [stop, if_neg (by rw [hrunning]; exact Bool.false_ne_true)] at hstop
  dsimp only at hstop
  split at hstop
  · cases hstop
  · split at hstop
    · cases hstop
    · split at hstop
      · cases hstop
      · obtain rfl := (Prod.mk.inj hstop).1
        exact ⟨_, _, _, _, List.append_assoc _ _ _⟩

/-- What a recording has output, as clusters with their blocks. -/
structure Grouped (settings : WebmSettings) (frames : List WebmFrame) (header : Bytes) (groups : List Group)
    (w : WebmBase) : Prop where
  outputs : w.outputs = .initial header :: groups.flatMap Group.outputs
  closed : w.closeCluster.clusters = Group.positions header.length groups
  cues : ∀ cue ∈ w.cuePoints, cue.position ∈ (Group.positions header.length groups).map WebmClusterInfo.position
  blocks : ∀ block ∈ groups.flatMap Group.stamps, ∀ first ∈ frames.head?,
    block.1 + block.2.2 = block.2.1.time - first.time ∧ 0 ≤ block.2.2 ∧ block.2.2 ≤ MaxSinged16Int
  written : written groups = settings.timelyFrames frames
  running : w.stopped = false

lemma Started.run (h : Started settings header w) (hframes : settings.InTime (settings.framesOf frames)) :
    ∃ groups, Grouped settings (settings.framesOf frames) header groups (w.run settings frames) := by
  have hknown : ∀ frame ∈ settings.framesOf frames, (settings.trackOf frame).isSome := fun frame hframe =>
    (List.mem_filter.mp hframe).2
  rw [run_framesOf]
  cases hcases : settings.framesOf frames with
  | nil =>
    rw [hcases] at hframes
    refine ⟨[], h.outputs, ?_, fun cue hcue => ?_, fun block hblock => absurd hblock List.not_mem_nil, rfl,
      h.running⟩
    · change List.modifyLast _ w.clusters = _
      rw [h.clusters]
      rfl
    · rw [show (WebmBase.run settings w []).cuePoints = [] from h.video hframes] at hcue
      exact absurd hcue List.not_mem_nil
  | cons first rest =>
    rw [hcases] at hframes hknown
    obtain ⟨g, bytes, htimestamp, hblocks, hfirst⟩ := h.onFrameReceived (hknown first List.mem_cons_self)
    obtain ⟨groups', g', p', h', hwritten⟩ := hfirst.run fun frame hframe =>
      ⟨hknown frame (List.mem_cons_of_mem first hframe), hframes frame hframe⟩
    refine ⟨groups' ++ [g'], h'.outputs, h'.closeCluster, h'.cues, fun block hblock first' hmem => ?_, ?_,
      h'.running⟩
    · obtain rfl := Option.some.inj hmem
      exact h'.blocks block hblock
    · rw [hwritten, written_concat, hblocks, htimestamp, add_zero]
      rfl

/-- **A recording is seekable** when no keyframe of the video is before the first frame: the times of the blocks are
right, the frames that are not late have one block each, the clusters are where the `eol` says, with the lengths of
their bodies, and the cues are at clusters.  The positions count from the start of the output, and the body of the
segment starts at `SegmentHeaderLength`. -/
theorem seekable {trackIvs : ℕ → IvCounter} (hstart : start settings trackIvs = .ok w)
    (hframes : settings.InTime (settings.framesOf frames)) :
    (∃ front body : Bytes, w.outputs = [.initial (front ++ (ID.Segment.bytes ++ (UNKNOWN_SIZE ++ body)))] ∧
      (front ++ (ID.Segment.bytes ++ UNKNOWN_SIZE)).length = SegmentHeaderLength) ∧
    (∀ block ∈ blocksOf 0 (w.run settings frames).outputs, ∀ first ∈ (settings.framesOf frames).head?,
      block.1 + block.2.2 = block.2.1.time - first.time ∧ 0 ≤ block.2.2 ∧ block.2.2 ≤ MaxSinged16Int) ∧
    (blocksOf 0 (w.run settings frames).outputs).map (fun block => block.2.1) =
      settings.timelyFrames (settings.framesOf frames) ∧
    ∀ w', (w.run settings frames).stop settings = (w', none) →
      ∃ cues duration bytes durationElement header clusters, w'.outputs = (w.run settings frames).outputs ++
        [.cuePoints cues duration bytes, .eol duration durationElement header clusters] ∧
      clusters = layout 0 w'.outputs ∧ ∀ cue ∈ cues, cue.position ∈ clusters.map WebmClusterInfo.position := by
  obtain ⟨front, body, hstarted, hlength⟩ := exists_started hstart
  obtain ⟨groups, hgrouped⟩ := hstarted.run hframes
  have hblocks : blocksOf 0 (w.run settings frames).outputs = groups.flatMap Group.stamps := by
    rw [hgrouped.outputs, blocksOf, ← List.append_nil (groups.flatMap Group.outputs),
      Group.blocksOf_flatMap _ _ fun _ => rfl]
    all_goals exact nofun
  refine ⟨⟨front, body, hstarted.outputs, hlength⟩, ?_, ?_, fun w' hstop => ?_⟩
  · rw [hblocks]
    exact hgrouped.blocks
  · rw [hblocks]
    exact hgrouped.written
  · obtain ⟨duration, bytes, durationElement, header, houtputs⟩ := stop_outputs hstop hgrouped.running
    refine ⟨_, duration, bytes, durationElement, header, _, houtputs, ?_, ?_⟩
    · rw [houtputs, hgrouped.outputs, hgrouped.closed, List.cons_append, layout, Group.layout_flatMap _ _ rfl,
        layout, layout, layout, List.append_nil, Nat.zero_add]
      · rfl
      all_goals exact nofun
    · rw [hgrouped.closed]
      exact hgrouped.cues

/-! ## A keyframe before the first frame -/

/-- A recording of the video track 1 and the audio track 2. -/
def twoTracks : WebmSettings where
  tracks := [⟨.video, 1, by norm_num⟩, ⟨.audio, 2, by norm_num⟩]
  trackEntries := []
  encryption := none
  float := fun _ => [0, 0, 0, 0]
  duration := none
  strictTimestamp := false

/-- A frame of one byte. -/
def byteFrame (trackNumber : ℕ) (isKeyframe : Bool) (time : ℤ) : WebmFrame where
  data := [0]
  data_lt := by norm_num
  isKeyframe
  time
  trackNumber

/-- A keyframe of the video is 10 ms before the first frame of the audio.  Its cluster is an error, and the next one
is 10 ms too early. -/
theorem seekable_late_video : ((start twoTracks fun _ => (0, 0)).map fun w =>
    (blocksOf 0 (w.run twoTracks
      [byteFrame 2 true 10, byteFrame 1 true 0, byteFrame 1 true 1010]).outputs).map fun block =>
        (block.1 + block.2.2, block.2.1.time - 10)) = .ok [(0, 0), (990, 1000)] := by
  decide +kernel

/-- A frame of the audio is late for the cluster of the video. -/
theorem seekable_late_audio : ∃ w, start twoTracks (fun _ => (0, 0)) = .ok w ∧
    (blocksOf 0 (w.run twoTracks
      [byteFrame 2 true 10, byteFrame 1 true 30, byteFrame 2 true 20, byteFrame 1 true 2030]).outputs).map
        (fun block => block.2.1) = [byteFrame 2 true 10, byteFrame 1 true 30, byteFrame 1 true 2030] := by
  have hok : (start twoTracks fun _ => (0, 0)).toBool = true := by decide +kernel
  cases hstart : start twoTracks fun _ => (0, 0) with
  | error message =>
    rw [hstart] at hok
    cases hok
  | ok w =>
    refine ⟨w, rfl, (seekable hstart fun frame hframe => ?_).2.2.1.trans rfl⟩
    obtain ⟨rfl | rfl | rfl, -⟩ : (frame = byteFrame 1 true 30 ∨ frame = byteFrame 2 true 20 ∨
        frame = byteFrame 1 true 2030) ∧ (twoTracks.trackOf frame).isSome := by
      simpa using hframe
    · exact ⟨fun _ => by decide, by decide⟩
    · exact ⟨fun _ => by decide, by decide⟩
    · exact ⟨fun _ => by decide, by decide⟩

end WebmBase

end Werift.Container
