import Werift.Container.Vint

/-!
# Trees of EBML elements (`rtp/src/extra/container/webm/ebml/ebml.ts`)

An element is its id, the size of its body, and its body.  The sizes are computed when the tree is built, and the
bytes are written into one buffer then.
-/

namespace Werift.Container

open Rtp (Bytes)

/-- `UNKNOWN_SIZE`. -/
def UNKNOWN_SIZE : Bytes := [0x01, 0xff, 0xff, 0xff, 0xff, 0xff, 0xff, 0xff]

/-- `EBMLData`: a `Value` or an `Element`. -/
inductive EBMLData
  | value (bytes : Bytes)
  | element (id : Bytes) (children : List EBMLData) (isSizeUnknown : Bool)

namespace EBMLData

/-- `sizeMetaData` of an element with a body of this size. -/
def sizeMetaData (bodySize : ℕ) (isSizeUnknown : Bool) : Except String Bytes :=
  if isSizeUnknown then .ok UNKNOWN_SIZE else vintEncodedNumber bodySize

mutual

/-- `countSize()`, which the constructor of an element computes. -/
def countSize : EBMLData → Except String ℕ
  | .value bytes => .ok bytes.length
  | .element id children isSizeUnknown => do
    let bodySize ← countSizes children
    let sizeMetaData ← sizeMetaData bodySize isSizeUnknown
    return id.length + sizeMetaData.length + bodySize

/-- The sum over the children. -/
def countSizes : List EBMLData → Except String ℕ
  | [] => .ok 0
  | child :: children => do
    let size ← countSize child
    let sizes ← countSizes children
    return size + sizes

end

/-- The buffer with other bytes from `pos` on. -/
def splice (buf : Bytes) (pos : ℕ) (bytes : Bytes) : Bytes :=
  buf.take pos ++ (bytes ++ buf.drop (pos + bytes.length))

/-- `buf.set(bytes, pos)`. -/
def set (buf : Bytes) (pos : ℕ) (bytes : Bytes) : Except String Bytes :=
  if buf.length < pos + bytes.length then .error "offset is out of bounds" else .ok (splice buf pos bytes)

mutual

/-- `write(buf, pos)`: the buffer, and the position behind. -/
def write : EBMLData → Bytes → ℕ → Except String (Bytes × ℕ)
  | .value bytes, buf, pos => do
    let buf ← set buf pos bytes
    return (buf, pos + bytes.length)
  | .element id children isSizeUnknown, buf, pos => do
    let bodySize ← countSizes children
    let sizeMetaData ← sizeMetaData bodySize isSizeUnknown
    let buf ← set buf pos id
    let buf ← set buf (pos + id.length) sizeMetaData
    writeAll children buf (pos + id.length + sizeMetaData.length)

/-- The children, one after the other. -/
def writeAll : List EBMLData → Bytes → ℕ → Except String (Bytes × ℕ)
  | [], buf, pos => .ok (buf, pos)
  | child :: children, buf, pos => do
    let (buf, pos) ← write child buf pos
    writeAll children buf pos

end

/-- `build(v)`. -/
def build (v : EBMLData) : Except String Bytes := do
  let size ← countSize v
  let (buf, _) ← write v (List.replicate size 0) 0
  return buf

/-! ## What is written -/

mutual

/-- The bytes of a tree: the size of an element is read as the length of its body. -/
inductive Written : EBMLData → Bytes → Prop
  | value (bytes : Bytes) : Written (.value bytes) bytes
  | element (id : Bytes) (children : List EBMLData) (size body : Bytes) (hbody : WrittenAll children body)
      (hsize : ∀ pre rest : Bytes,
        decodeVintEncodedNumber (pre ++ (size ++ rest)) pre.length = .ok (body.length, size.length)) :
      Written (.element id children false) (id ++ (size ++ body))
  | unknownSizeElement (id : Bytes) (children : List EBMLData) (body : Bytes) (hbody : WrittenAll children body) :
      Written (.element id children true) (id ++ (UNKNOWN_SIZE ++ body))

/-- The bytes of trees, one after the other. -/
inductive WrittenAll : List EBMLData → Bytes → Prop
  | nil : WrittenAll [] []
  | cons (child : EBMLData) (children : List EBMLData) (bytes rest : Bytes) (hchild : Written child bytes)
      (hchildren : WrittenAll children rest) : WrittenAll (child :: children) (bytes ++ rest)

end

variable {buf a b : Bytes} {pos n : ℕ}

lemma length_splice (h : pos + a.length ≤ buf.length) : (splice buf pos a).length = buf.length := by
  rw [splice, List.length_append, List.length_append, List.length_take, List.length_drop]
  omega

lemma set_eq (h : pos + a.length ≤ buf.length) : set buf pos a = .ok (splice buf pos a) := by
  rw [set, if_neg h.not_gt]

/-- Bytes behind bytes. -/
lemma splice_splice (h : pos + a.length ≤ buf.length) (b : Bytes) :
    splice (splice buf pos a) (pos + a.length) b = splice buf pos (a ++ b) := by
  have hfront : (buf.take pos ++ a).length = pos + a.length := by
    rw [List.length_append, List.length_take]
    omega
  have htake : (splice buf pos a).take (pos + a.length) = buf.take pos ++ a := by
    rw [splice, ← List.append_assoc]
    exact List.take_left' hfront
  have hdrop : (splice buf pos a).drop (pos + a.length + b.length) = buf.drop (pos + (a ++ b).length) := by
    rw [splice, ← List.append_assoc, ← List.drop_drop, List.drop_left' hfront, List.drop_drop, List.length_append,
      Nat.add_assoc]
  rw [splice, htake, hdrop, splice, List.append_assoc, List.append_assoc]

/-- The whole buffer. -/
lemma splice_replicate (h : a.length = n) : splice (List.replicate n 0) 0 a = a := by
  rw [splice, List.take_zero, List.nil_append, List.drop_of_length_le (by rw [List.length_replicate]; omega),
    List.append_nil]

/-- The size of a body as it is written. -/
lemma sizeMetaData_false {bytes : Bytes} (h : sizeMetaData n false = .ok bytes) (pre rest : Bytes) :
    decodeVintEncodedNumber (pre ++ (bytes ++ rest)) pre.length = .ok (n, bytes.length) := by
  have hn := lt_of_vintEncodedNumber h
  obtain ⟨byteLength, hvint, hlow, hhigh, hlt⟩ := vintEncodedNumber_eq hn
  obtain rfl := Except.ok.inj (hvint.symm.trans h)
  rw [decodeVintEncodedNumber_vint hlow hhigh hlt, length_vint]

mutual

/-- A tree writes its bytes at the position that it is given. -/
theorem exists_written {v : EBMLData} {size : ℕ} (h : countSize v = .ok size) :
    ∃ bytes : Bytes, Written v bytes ∧ bytes.length = size ∧ ∀ (buf : Bytes) (pos : ℕ),
      pos + size ≤ buf.length → write v buf pos = .ok (splice buf pos bytes, pos + size) := by
  match v with
  | .value bytes =>
    rw [countSize] at h
    obtain rfl := Except.ok.inj h
    refine ⟨bytes, .value bytes, rfl, fun buf pos hpos => ?_⟩
    rw [write, set_eq hpos]
    rfl
  | .element id children isSizeUnknown =>
    rw [countSize] at h
    obtain ⟨bodySize, hbody, h⟩ := Except.bind_eq_ok.mp h
    obtain ⟨sizeBytes, hsize, h⟩ := Except.bind_eq_ok.mp h
    obtain rfl := Except.ok.inj h
    obtain ⟨body, hwritten, hlength, hwrite⟩ := exists_writtenAll hbody
    refine ⟨id ++ (sizeBytes ++ body), ?_, ?_, fun buf pos hpos => ?_⟩
    · cases isSizeUnknown with
      | false =>
        refine .element id children sizeBytes body hwritten fun pre rest => ?_
        rw [sizeMetaData_false hsize, hlength]
      | true =>
        obtain rfl := Except.ok.inj hsize
        exact .unknownSizeElement id children body hwritten
    · rw [List.length_append, List.length_append, hlength, Nat.add_assoc]
    · have hid : pos + id.length ≤ buf.length := by omega
      have hboth : pos + id.length + sizeBytes.length ≤ (splice buf pos id).length := by
        rw [length_splice hid]
        omega
      have hjoined : splice (splice buf pos id) (pos + id.length) sizeBytes = splice buf pos (id ++ sizeBytes) :=
        splice_splice hid sizeBytes
      have hfit : pos + (id ++ sizeBytes).length ≤ buf.length := by
        rw [List.length_append]
        omega
      have hend : pos + id.length + sizeBytes.length = pos + (id ++ sizeBytes).length := by
        rw [List.length_append, Nat.add_assoc]
      rw [write, hbody, Except.ok_bind, hsize, Except.ok_bind, set_eq hid, Except.ok_bind, set_eq hboth,
        Except.ok_bind, hjoined, hend, hwrite _ _ (by rw [length_splice hfit, ← hend]; omega),
        splice_splice hfit, List.append_assoc, List.length_append]
      congr 2
      omega

/-- Trees write their bytes one after the other. -/
theorem exists_writtenAll {children : List EBMLData} {size : ℕ} (h : countSizes children = .ok size) :
    ∃ bytes : Bytes, WrittenAll children bytes ∧ bytes.length = size ∧ ∀ (buf : Bytes) (pos : ℕ),
      pos + size ≤ buf.length → writeAll children buf pos = .ok (splice buf pos bytes, pos + size) := by
  match children with
  | [] =>
    rw [countSizes] at h
    obtain rfl := Except.ok.inj h
    refine ⟨[], .nil, rfl, fun buf pos hpos => ?_⟩
    rw [writeAll, splice, List.nil_append, List.length_nil, Nat.add_zero, List.take_append_drop]
  | child :: children =>
    rw [countSizes] at h
    obtain ⟨first, hfirst, h⟩ := Except.bind_eq_ok.mp h
    obtain ⟨sizes, hsizes, h⟩ := Except.bind_eq_ok.mp h
    obtain rfl := Except.ok.inj h
    obtain ⟨bytes, hwritten, hlength, hwrite⟩ := exists_written hfirst
    obtain ⟨rest, hwritten', hlength', hwrite'⟩ := exists_writtenAll hsizes
    refine ⟨bytes ++ rest, .cons child children bytes rest hwritten hwritten', ?_, fun buf pos hpos => ?_⟩
    · rw [List.length_append, hlength, hlength']
    · have hfit : pos + bytes.length ≤ buf.length := by omega
      rw [writeAll, hwrite _ _ (by omega), Except.ok_bind, ← hlength]
      dsimp only
      rw [hwrite' _ _ (by rw [length_splice hfit]; omega), splice_splice hfit, Nat.add_assoc]

end

/-- **A tree is built** when its sizes can be counted. -/
lemma build_eq {v : EBMLData} {size : ℕ} (h : countSize v = .ok size) :
    ∃ bytes : Bytes, build v = .ok bytes ∧ bytes.length = size ∧ Written v bytes := by
  obtain ⟨bytes, hwritten, hlength, hwrite⟩ := exists_written h
  refine ⟨bytes, ?_, hlength, hwritten⟩
  rw [build, h, Except.ok_bind, hwrite _ _ (by rw [List.length_replicate]; omega), Except.ok_bind,
    splice_replicate hlength]
  rfl

end EBMLData

/-! ## What is read back -/

/-- The first byte of an id tells its length. -/
structure IsElementId (id : Bytes) : Prop where
  ne_nil : id ≠ []
  length : vintLength (id.getD 0 0) = id.length

/-- A tree with data in its leaves. -/
inductive EBMLNode
  | leaf (id data : Bytes)
  | master (id : Bytes) (children : List EBMLNode)

namespace EBMLNode

mutual

/-- The elements of known size that make up a tree. -/
def toData : EBMLNode → EBMLData
  | .leaf id data => .element id [.value data] false
  | .master id children => .element id (toDataAll children) false

/-- The elements of trees. -/
def toDataAll : List EBMLNode → List EBMLData
  | [] => []
  | node :: nodes => toData node :: toDataAll nodes

end

variable (isMaster : Bytes → Bool)

mutual

/-- The ids are such, and tell the elements with children from those with data. -/
def WellFormed : EBMLNode → Prop
  | .leaf id _ => IsElementId id ∧ isMaster id = false
  | .master id children => IsElementId id ∧ isMaster id = true ∧ AllWellFormed children

/-- The trees are well formed. -/
def AllWellFormed : List EBMLNode → Prop
  | [] => True
  | node :: nodes => WellFormed node ∧ AllWellFormed nodes

end

/-- The id of the first element, its body, and what comes behind. -/
def readElement (data : Bytes) : Except String (Bytes × Bytes × Bytes) := do
  let result ← vintDecode data 0
  let (size, length) ← decodeVintEncodedNumber data result.length
  let dataPosition := result.length + length
  if data.length < dataPosition + size then throw "insufficient bytes for declared size"
  return (data.take result.length, (data.drop dataPosition).take size, data.drop (dataPosition + size))

/-- The elements, one behind the other, down to the data.  The fuel bounds their number. -/
def readNodes : ℕ → Bytes → Except String (List EBMLNode)
  | 0, _ => .error "endless"
  | fuel + 1, data =>
    if data = [] then .ok []
    else do
      let (id, body, rest) ← readElement data
      let node ← if isMaster id then (readNodes fuel body).map (master id) else .ok (leaf id body)
      let nodes ← readNodes fuel rest
      return node :: nodes

variable {isMaster}

/-- The length of an id is read from it. -/
lemma vintDecode_id {id : Bytes} (hid : IsElementId id) (rest : Bytes) :
    ∃ result : VIntDecodeResult, vintDecode (id ++ rest) 0 = .ok result ∧ result.length = id.length := by
  obtain ⟨first, tail, rfl⟩ := List.exists_cons_of_ne_nil hid.ne_nil
  have hlength : vintLength first = (first :: tail).length := hid.length
  have hne : first ≠ 0 := by
    rintro rfl
    exact absurd hlength.symm (Nat.succ_ne_zero _)
  have hget : (first :: tail ++ rest).getD 0 0 = first := rfl
  rw [vintDecode, if_neg (by simp), hget]
  dsimp only
  rw [if_neg hne, if_neg (by rw [hlength]; exact Nat.succ_ne_zero _),
    if_neg (by rw [hlength, List.length_append]; omega)]
  exact ⟨_, rfl, hlength⟩

lemma readElement_eq {id size body : Bytes} (hid : IsElementId id)
    (hsize : ∀ pre rest : Bytes,
      decodeVintEncodedNumber (pre ++ (size ++ rest)) pre.length = .ok (body.length, size.length)) (rest : Bytes) :
    readElement (id ++ (size ++ body) ++ rest) = .ok (id, body, rest) := by
  have hjoin : id ++ (size ++ body) ++ rest = id ++ (size ++ (body ++ rest)) := by simp only [List.append_assoc]
  obtain ⟨result, hresult, hlength⟩ := vintDecode_id hid (size ++ (body ++ rest))
  have hlong : ¬ (id ++ (size ++ (body ++ rest))).length < id.length + size.length + body.length := by
    simp only [List.length_append]
    omega
  have hbody : (id ++ (size ++ (body ++ rest))).drop (id.length + size.length) = body ++ rest := by
    rw [← List.drop_drop, List.drop_left, List.drop_left]
  have hrest : (id ++ (size ++ (body ++ rest))).drop (id.length + size.length + body.length) = rest := by
    rw [← List.drop_drop, hbody, List.drop_left]
  rw [hjoin, readElement, hresult, Except.ok_bind, hlength, hsize, Except.ok_bind]
  dsimp only
  rw [if_neg hlong, hrest, hbody, List.take_left, List.take_left]
  rfl

/-- **The trees are read back** from their bytes. -/
lemma readNodes_eq {fuel : ℕ} {nodes : List EBMLNode} {bytes : Bytes} (hnodes : AllWellFormed isMaster nodes)
    (hwritten : EBMLData.WrittenAll (toDataAll nodes) bytes) (hfuel : bytes.length < fuel) :
    readNodes isMaster fuel bytes = .ok nodes := by
  induction fuel generalizing nodes bytes with
  | zero => exact absurd hfuel (Nat.not_lt_zero _)
  | succ fuel ih =>
    cases nodes with
    | nil =>
      rw [toDataAll] at hwritten
      cases hwritten
      rw [readNodes, if_pos rfl]
    | cons node nodes =>
      rw [toDataAll] at hwritten
      rw [AllWellFormed] at hnodes
      obtain ⟨hnode, hrest⟩ := hnodes
      cases hwritten with
      | cons _ _ first rest hfirst hlater =>
        rw [List.length_append] at hfuel
        cases node with
        | leaf id data =>
          rw [toData] at hfirst
          rw [WellFormed] at hnode
          cases hfirst with
          | element _ _ size body hbody hsize =>
            have hdata : body = data := by
              cases hbody with
              | cons _ _ _ _ hvalue hnil =>
                cases hvalue
                cases hnil
                exact List.append_nil data
            have hpos := List.length_pos_iff.mpr hnode.1.ne_nil
            have hlength : rest.length < fuel := by
              simp only [List.length_append] at hfuel
              omega
            have hne : ¬ id ++ (size ++ body) ++ rest = [] := by simp [hnode.1.ne_nil]
            rw [readNodes, if_neg hne, readElement_eq hnode.1 hsize, Except.ok_bind]
            dsimp only
            rw [hnode.2, if_neg Bool.false_ne_true, Except.ok_bind, ih hrest hlater hlength, hdata]
            rfl
        | master id children =>
          rw [toData] at hfirst
          rw [WellFormed] at hnode
          cases hfirst with
          | element _ _ size body hbody hsize =>
            have hpos := List.length_pos_iff.mpr hnode.1.ne_nil
            have hlength : body.length < fuel ∧ rest.length < fuel := by
              simp only [List.length_append] at hfuel
              omega
            have hne : ¬ id ++ (size ++ body) ++ rest = [] := by simp [hnode.1.ne_nil]
            rw [readNodes, if_neg hne, readElement_eq hnode.1 hsize, Except.ok_bind]
            dsimp only
            rw [hnode.2.1, if_pos rfl, ih hnode.2.2 hbody hlength.1, ih hrest hlater hlength.2]
            rfl

/-- **Sizes of EBML.**  The numbers below `2 ^ 53` and those that fit a fixed length are read back with the length
that they were written in, and none is the reserved one.  A tree whose sizes can be counted is built, the size of
each element of known size is the length of its body, and trees with data in their leaves are read back. -/
theorem sizes_right :
    (∀ n < 2 ^ 53, ∃ bytes : Bytes, vintEncodedNumber n = .ok bytes ∧
      decodeVintEncodedNumber bytes 0 = .ok (n, bytes.length) ∧
      (vintDecode bytes 0).map VIntDecodeResult.unknown = .ok false) ∧
    (∀ byteLength : ℕ, 1 ≤ byteLength → byteLength ≤ 8 → ∀ (num : ℤ) (bytes : Bytes),
      vintEncodeFixed num byteLength = .ok bytes → bytes.length = byteLength ∧ ∃ n : ℕ, num = n ∧
        decodeVintEncodedNumber bytes 0 = .ok (n, byteLength) ∧
        (vintDecode bytes 0).map VIntDecodeResult.unknown = .ok false) ∧
    (∀ (v : EBMLData) (size : ℕ), EBMLData.countSize v = .ok size → ∃ bytes : Bytes,
      EBMLData.build v = .ok bytes ∧ bytes.length = size ∧ EBMLData.Written v bytes) ∧
    ∀ (isMaster : Bytes → Bool) (node : EBMLNode), WellFormed isMaster node → ∀ bytes : Bytes,
      EBMLData.build (toData node) = .ok bytes → readNodes isMaster (bytes.length + 1) bytes = .ok [node] := by
  have hvint {byteLength n : ℕ} (hlow : 1 ≤ byteLength) (hhigh : byteLength ≤ 8)
      (hn : n < 2 ^ (7 * byteLength) - 1) : decodeVintEncodedNumber (vint byteLength n) 0 = .ok (n, byteLength) ∧
        (vintDecode (vint byteLength n) 0).map VIntDecodeResult.unknown = .ok false := by
    have hdecode := vintDecode_vint hlow hhigh hn [] []
    have hnumber := decodeVintEncodedNumber_vint hlow hhigh hn [] []
    rw [List.nil_append, List.append_nil, List.length_nil] at hdecode hnumber
    exact ⟨hnumber, by rw [hdecode]; rfl⟩
  refine ⟨fun n hn => ?_, fun byteLength hlow hhigh num bytes h => ?_, fun v size h => EBMLData.build_eq h,
    fun isMaster node hnode bytes h => ?_⟩
  · obtain ⟨byteLength, hbytes, hlow, hhigh, hlt⟩ := vintEncodedNumber_eq hn
    refine ⟨_, hbytes, ?_⟩
    rw [length_vint]
    exact hvint hlow hhigh hlt
  · obtain ⟨hnonneg, hlt, rfl⟩ := vintEncodedFixed_eq h
    exact ⟨length_vint _ _, num.toNat, (Int.toNat_of_nonneg hnonneg).symm, hvint hlow hhigh hlt⟩
  · obtain ⟨size, hsize, -⟩ := Except.bind_eq_ok.mp h
    obtain ⟨bytes', hbuild, -, hwritten⟩ := EBMLData.build_eq hsize
    obtain rfl := Except.ok.inj (hbuild.symm.trans h)
    have hall := EBMLData.WrittenAll.cons _ _ _ _ hwritten .nil
    rw [List.append_nil] at hall
    refine readNodes_eq ⟨hnode, trivial⟩ ?_ (Nat.lt_succ_self _)
    rw [toDataAll, toDataAll]
    exact hall

/-- An element with one element in it. -/
theorem sizes_right_nested : readNodes (fun id => id = [0x1a, 0x45, 0xdf, 0xa3]) 10
    [0x1a, 0x45, 0xdf, 0xa3, 0x84, 0x42, 0x86, 0x81, 0x01] =
      .ok [.master [0x1a, 0x45, 0xdf, 0xa3] [.leaf [0x42, 0x86] [0x01]]] := by
  refine sizes_right.2.2.2 (fun id => id = [0x1a, 0x45, 0xdf, 0xa3])
    (.master [0x1a, 0x45, 0xdf, 0xa3] [.leaf [0x42, 0x86] [0x01]]) ?_ _ rfl
  refine ⟨⟨nofun, by decide⟩, by decide, ⟨⟨nofun, by decide⟩, by decide⟩, trivial⟩

end EBMLNode

end Werift.Container
