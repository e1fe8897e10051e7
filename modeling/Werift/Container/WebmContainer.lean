import Werift.Container.Ebml

/-!
# The elements of a WebM file (`WEBMContainer` of `rtp/src/extra/container/webm/container.ts`)

The segment and the clusters have an unknown size.  A number is written in as many bytes as it needs, and a negative
one is an error.
-/

namespace Werift.Container

open Rtp (Bytes)

/-! ## Values -/

/-- `getNumberByteLength(num)`. -/
def getNumberByteLength (num : ℤ) : Except String ℕ :=
  if num < 0 then .error "EBML.typedArrayUtils.getNumberByteLength: negative number not implemented"
  else if num < 0x100 then .ok 1
  else if num < 0x10000 then .ok 2
  else if num < 0x1000000 then .ok 3
  else if num < 0x100000000 then .ok 4
  else if num < 0x10000000000 then .ok 5
  else if num < 0x1000000000000 then .ok 6
  else if num < 0x20000000000000 then .ok 7
  else .error "EBML.typedArrayUtils.getNumberByteLength: number exceeds Number.MAX_SAFE_INTEGER"

/-- `EBML.number(num)`. -/
def number (num : ℤ) : Except String EBMLData := do
  let byteLength ← getNumberByteLength num
  let bytes ← numberToByteArray num.toNat byteLength
  return .value bytes

/-- `EBML.string(str)`. -/
def string (str : String) : EBMLData := .value (str.toList.map fun c => UInt8.ofNat c.toNat)

/-- `EBML.ID`, as far as it is used here. -/
inductive ID
  | EBML
  | EBMLVersion
  | EBMLReadVersion
  | EBMLMaxIDLength
  | EBMLMaxSizeLength
  | DocType
  | DocTypeVersion
  | DocTypeReadVersion
  | Segment
  | SeekHead
  | Info
  | TimecodeScale
  | Duration
  | MuxingApp
  | WritingApp
  | Cluster
  | Timecode
  | Tracks
  | Cues
  | CuePoint
  | CueTime
  | CueTrackPositions
  | CueTrack
  | CueClusterPosition
  | CueBlockNumber

/-- The bytes of an id. -/
def ID.bytes : ID → Bytes
  | EBML => [0x1a, 0x45, 0xdf, 0xa3]
  | EBMLVersion => [0x42, 0x86]
  | EBMLReadVersion => [0x42, 0xf7]
  | EBMLMaxIDLength => [0x42, 0xf2]
  | EBMLMaxSizeLength => [0x42, 0xf3]
  | DocType => [0x42, 0x82]
  | DocTypeVersion => [0x42, 0x87]
  | DocTypeReadVersion => [0x42, 0x85]
  | Segment => [0x18, 0x53, 0x80, 0x67]
  | SeekHead => [0x11, 0x4d, 0x9b, 0x74]
  | Info => [0x15, 0x49, 0xa9, 0x66]
  | TimecodeScale => [0x2a, 0xd7, 0xb1]
  | Duration => [0x44, 0x89]
  | MuxingApp => [0x4d, 0x80]
  | WritingApp => [0x57, 0x41]
  | Cluster => [0x1f, 0x43, 0xb6, 0x75]
  | Timecode => [0xe7]
  | Tracks => [0x16, 0x54, 0xae, 0x6b]
  | Cues => [0x1c, 0x53, 0xbb, 0x6b]
  | CuePoint => [0xbb]
  | CueTime => [0xb3]
  | CueTrackPositions => [0xb7]
  | CueTrack => [0xf7]
  | CueClusterPosition => [0xf1]
  | CueBlockNumber => [0x53, 0x78]

/-- `EBML.element(id, child)`. -/
def element (id : ID) (child : List EBMLData) : EBMLData := .element id.bytes child false

/-- `EBML.unknownSizeElement(id, child)`. -/
def unknownSizeElement (id : ID) (child : List EBMLData) : EBMLData := .element id.bytes child true

/-- An element with one number. -/
def numberElement (id : ID) (num : ℤ) : Except String EBMLData := do
  let value ← number num
  return element id [value]

/-! ## The container -/

/-- `millisecond`. -/
def millisecond : ℤ := 1000000

/-- `ebmlHeader`. -/
def ebmlHeader : Except String Bytes := do
  let version ← numberElement .EBMLVersion 1
  let readVersion ← numberElement .EBMLReadVersion 1
  let maxIDLength ← numberElement .EBMLMaxIDLength 4
  let maxSizeLength ← numberElement .EBMLMaxSizeLength 8
  let docTypeVersion ← numberElement .DocTypeVersion 2
  let docTypeReadVersion ← numberElement .DocTypeReadVersion 2
  (element .EBML [version, readVersion, maxIDLength, maxSizeLength, element .DocType [string "webm"],
    docTypeVersion, docTypeReadVersion]).build

/-- `createSegment(duration)`, where `float` is `EBML.float`. -/
def createSegment (float : ℤ → Bytes) (trackEntries : List EBMLData) (duration : Option ℤ) :
    Except String Bytes := do
  let timecodeScale ← numberElement .TimecodeScale millisecond
  let elements := [timecodeScale, element .MuxingApp [string "webrtc"], element .WritingApp [string "webrtc"]] ++
    (duration.map fun duration => element .Duration [.value (float duration)]).toList
  (unknownSizeElement .Segment [element .SeekHead [], element .Info elements, element .Tracks trackEntries]).build

/-- `createDuration(duration)`. -/
def createDuration (float : ℤ → Bytes) (duration : ℤ) : Except String Bytes :=
  (element .Duration [.value (float duration)]).build

/-- `createCuePoint(relativeTimestamp, trackNumber, clusterPosition, blockNumber)`. -/
def createCuePoint (relativeTimestamp trackNumber clusterPosition blockNumber : ℤ) : Except String EBMLData := do
  let cueTime ← numberElement .CueTime relativeTimestamp
  let cueTrack ← numberElement .CueTrack trackNumber
  let cueClusterPosition ← numberElement .CueClusterPosition clusterPosition
  let cueBlockNumber ← numberElement .CueBlockNumber blockNumber
  return element .CuePoint [cueTime, element .CueTrackPositions [cueTrack, cueClusterPosition, cueBlockNumber]]

/-- `createCues(cuePoints)`. -/
def createCues (cuePoints : List EBMLData) : Except String Bytes := (element .Cues cuePoints).build

/-- `createCluster(timecode)`. -/
def createCluster (timecode : ℤ) : Except String Bytes := do
  let value ← numberElement .Timecode timecode
  (unknownSizeElement .Cluster [value]).build

/-- AES-128-CTR under a key, as a function of the IV and the data. -/
structure AesCtr where
  encrypt : Bytes → Bytes → Bytes
  length_encrypt : ∀ iv data, (encrypt iv data).length = data.length

/-- The counter of a track for its IVs, two numbers of 32 bits. -/
abbrev IvCounter := ℕ × ℕ

/-- `ivCounter[1]++`, with a carry. -/
def IvCounter.next (ivCounter : IvCounter) : IvCounter :=
  if (ivCounter.2 + 1) % 2 ^ 32 = 0 then ((ivCounter.1 + 1) % 2 ^ 32, 0) else (ivCounter.1, ivCounter.2 + 1)

/-- The data of a block, encrypted if there is a key. -/
def blockData (encryption : Option AesCtr) (ivCounter : IvCounter) (frame : Bytes) : Bytes :=
  match encryption with
  | none => frame
  | some aes =>
    let iv := setUint 4 ivCounter.1 ++ setUint 4 ivCounter.2 ++ List.replicate 8 0
    [1] ++ iv.take 8 ++ aes.encrypt iv frame

/-- `writeInt16BE(value)`. -/
def writeInt16BE (value : ℤ) : Except String Bytes :=
  if value < -0x8000 ∨ 0x7fff < value then .error "ERR_OUT_OF_RANGE" else .ok (setUint 2 (value % 2 ^ 16).toNat)

/-- `createSimpleBlock(frame, isKeyframe, trackNumber, relativeTimestamp)`. -/
def createSimpleBlock (encryption : Option AesCtr) (ivCounter : IvCounter) (frame : Bytes) (isKeyframe : Bool)
    (trackNumber : ℕ) (relativeTimestamp : ℤ) : Except String Bytes := do
  let frame := blockData encryption ivCounter frame
  let contentSize ← vintEncodedNumber (1 + 2 + 1 + frame.length)
  let track ← vintEncodedNumber trackNumber
  let timestamp ← writeInt16BE relativeTimestamp
  let flags : UInt8 := if isKeyframe then 0x80 else 0
  return [0xa3] ++ contentSize ++ track ++ timestamp ++ [flags] ++ frame

/-! ## What is created -/

lemma ebmlHeader_eq : ebmlHeader = .ok [
    0x1a, 0x45, 0xdf, 0xa3, 0x9f, 0x42, 0x86, 0x81, 0x01, 0x42, 0xf7, 0x81, 0x01, 0x42, 0xf2, 0x81, 0x04, 0x42,
    0xf3, 0x81, 0x08, 0x42, 0x82, 0x84, 0x77, 0x65, 0x62, 0x6d, 0x42, 0x87, 0x81, 0x02, 0x42, 0x85, 0x81,
    0x02] := by
  decide +kernel

/-- An element of unknown size is its id, the reserved size and its body. -/
lemma build_unknownSizeElement {id : ID} {child : List EBMLData} {bytes : Bytes}
    (h : (unknownSizeElement id child).build = .ok bytes) :
    ∃ body : Bytes, bytes = id.bytes ++ (UNKNOWN_SIZE ++ body) := by
  obtain ⟨size, hsize, -⟩ := Except.bind_eq_ok.mp h
  obtain ⟨bytes', hbuild, -, hwritten⟩ := EBMLData.build_eq hsize
  obtain rfl := Except.ok.inj (hbuild.symm.trans h)
  cases hwritten with
  | unknownSizeElement id children body hbody => exact ⟨body, rfl⟩

lemma exists_numberToByteArray {byteLength : ℕ} (num : ℕ) (hlow : 1 ≤ byteLength) (hhigh : byteLength ≤ 8) :
    ∃ bytes : Bytes, numberToByteArray num byteLength = .ok bytes ∧ bytes.length ≤ 8 := by
  have hlength (k n : ℕ) : (setUint k n).length = k := BigEndian.length_encode k n
  unfold numberToByteArray
  iterate 9 refine exists_ok_ite (fun _ => by simp [hlength]) fun _ => ?_
  omega

/-- A number below `2 ^ 53` is written. -/
lemma exists_number {num : ℤ} (hnonneg : 0 ≤ num) (hlt : num < 2 ^ 53) :
    ∃ bytes : Bytes, number num = .ok (.value bytes) ∧ bytes.length ≤ 8 := by
  have hlength : ∃ byteLength : ℕ, getNumberByteLength num = .ok byteLength ∧ 1 ≤ byteLength ∧ byteLength ≤ 8 := by
    rw [getNumberByteLength, if_neg (not_lt.mpr hnonneg)]
    iterate 6 refine exists_ok_ite (fun _ => by decide) fun _ => ?_
    exact ⟨7, if_pos hlt, by decide⟩
  obtain ⟨byteLength, hnumber, hlow, hhigh⟩ := hlength
  obtain ⟨bytes, hbytes, hle⟩ := exists_numberToByteArray num.toNat hlow hhigh
  refine ⟨bytes, ?_, hle⟩
  rw [number, hnumber, Except.ok_bind, hbytes]
  rfl

lemma countSizes_singleton {v : EBMLData} {size : ℕ} (h : v.countSize = .ok size) :
    EBMLData.countSizes [v] = .ok size := by
  rw [EBMLData.countSizes, h, Except.ok_bind, EBMLData.countSizes]
  rfl

lemma countSize_element (id : Bytes) {children : List EBMLData} {isSizeUnknown : Bool} {bodySize : ℕ}
    {sizeBytes : Bytes} (hbody : EBMLData.countSizes children = .ok bodySize)
    (hsize : EBMLData.sizeMetaData bodySize isSizeUnknown = .ok sizeBytes) :
    (EBMLData.element id children isSizeUnknown).countSize = .ok (id.length + sizeBytes.length + bodySize) := by
  rw [EBMLData.countSize, hbody, Except.ok_bind, hsize]
  rfl

/-- A cluster can start at any time from 0 on that is a number. -/
lemma exists_createCluster {timecode : ℤ} (hnonneg : 0 ≤ timecode) (hlt : timecode < 2 ^ 53) :
    ∃ bytes : Bytes, createCluster timecode = .ok bytes := by
  obtain ⟨value, hvalue, hle⟩ := exists_number hnonneg hlt
  obtain ⟨byteLength, hsize, -⟩ := vintEncodedNumber_eq (show value.length < 2 ^ 53 by omega)
  have hvalueSize : EBMLData.countSizes [.value value] = .ok value.length := countSizes_singleton rfl
  have htimecode := countSizes_singleton (countSize_element ID.Timecode.bytes hvalueSize
    (show EBMLData.sizeMetaData value.length false = _ from hsize))
  have hcount := countSize_element ID.Cluster.bytes htimecode (show EBMLData.sizeMetaData _ true = _ from rfl)
  obtain ⟨bytes, hbuild, -⟩ := EBMLData.build_eq hcount
  refine ⟨bytes, ?_⟩
  rw [createCluster, numberElement, hvalue]
  exact hbuild

lemma length_createCluster {timecode : ℤ} {bytes : Bytes} (h : createCluster timecode = .ok bytes) :
    12 ≤ bytes.length := by
  obtain ⟨value, -, hbuild⟩ := Except.bind_eq_ok.mp h
  obtain ⟨body, rfl⟩ := build_unknownSizeElement hbuild
  rw [List.length_append, List.length_append]
  exact Nat.le_add_right 12 body.length |>.trans_eq (Nat.add_assoc 4 8 _)

/-- A cluster before the time 0 is an error. -/
lemma createCluster_of_neg {timecode : ℤ} (h : timecode < 0) : createCluster timecode =
    .error "EBML.typedArrayUtils.getNumberByteLength: negative number not implemented" := by
  rw [createCluster, numberElement, number, getNumberByteLength, if_pos h]
  rfl

lemma length_blockData_le (encryption : Option AesCtr) (ivCounter : IvCounter) (frame : Bytes) :
    (blockData encryption ivCounter frame).length ≤ frame.length + 9 := by
  cases encryption with
  | none => exact Nat.le_add_right _ _
  | some aes =>
    change ([1] ++ List.take 8 _ ++ aes.encrypt _ frame).length ≤ _
    rw [List.length_append, List.length_append, List.length_take, aes.length_encrypt, List.length_singleton]
    omega

lemma exists_createSimpleBlock (encryption : Option AesCtr) (ivCounter : IvCounter) {frame : Bytes}
    (hframe : frame.length < 2 ^ 52) (isKeyframe : Bool) {trackNumber : ℕ} (htrack : trackNumber < 2 ^ 53)
    {relativeTimestamp : ℤ} (hnonneg : 0 ≤ relativeTimestamp) (hle : relativeTimestamp ≤ 0x7fff) :
    ∃ bytes : Bytes,
      createSimpleBlock encryption ivCounter frame isKeyframe trackNumber relativeTimestamp = .ok bytes := by
  have hdata := length_blockData_le encryption ivCounter frame
  obtain ⟨_, hsize, -⟩ := vintEncodedNumber_eq
    (show 1 + 2 + 1 + (blockData encryption ivCounter frame).length < 2 ^ 53 by omega)
  obtain ⟨_, hnumber, -⟩ := vintEncodedNumber_eq htrack
  have htimestamp : writeInt16BE relativeTimestamp = _ := if_neg (by omega)
  exact ⟨_, Except.bind_eq_ok.mpr ⟨_, hsize, Except.bind_eq_ok.mpr ⟨_, hnumber,
    Except.bind_eq_ok.mpr ⟨_, htimestamp, rfl⟩⟩⟩⟩

end Werift.Container
