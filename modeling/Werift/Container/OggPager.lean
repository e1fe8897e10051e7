import Werift.Container.OggPage
import Werift.Lib.Lacing

/-!
# Packing packets into Ogg pages (`rtp/src/extra/container/ogg/writer.ts`)

`OggPager` splits packets into segments and collects these in a page until its segment table is full or it is
flushed.
-/

namespace Werift.Container

open Rtp (Bytes)
open Js

/-- The lacing values of a packet. -/
def oggLacingValues (packetLength : ℕ) : List ℕ := List.replicate (packetLength / 255) 255 ++ [packetLength % 255]

/-- `OggPager`. -/
structure OggPager where
  serialNumber : ℤ
  pageSequence : ℕ := 0
  segmentTable : List ℕ := []
  chunks : List Bytes := []
  pendingGranule : ℤ := OggNoGranulePosition
  pendingContinued : Bool := false
  bos : Bool := true
  lastGranulePosition : ℤ := 0
  ended : Bool := false

namespace OggPager

def buildPage (p : OggPager) (flags : ℕ) : Except String (Bytes × OggPager) := do
  let headerType := if p.bos then flags ||| OggHeaderTypeBos else flags
  let headerType := if p.pendingContinued then headerType ||| OggHeaderTypeContinued else headerType
  let page ← createOggPage ⟨headerType, p.pendingGranule, p.serialNumber, p.pageSequence, p.segmentTable,
    p.chunks.flatten⟩
  return (page,
    { p with
      bos := false
      pageSequence := p.pageSequence + 1
      segmentTable := []
      chunks := []
      pendingGranule := OggNoGranulePosition
      pendingContinued := false })

/-- Add the segment `i` of a packet, which has `size` bytes and begins at `offset`. -/
def addSegment (packet : Bytes) (i offset size : ℕ) (p : OggPager) : Except String (List Bytes × OggPager) := do
  let (pages, p) ←
    if p.segmentTable.length = OggMaxSegments then do
      let (page, p) ← p.buildPage 0
      pure ([page], { p with pendingContinued := decide (0 < i) })
    else pure ([], p)
  return (pages,
    { p with
      segmentTable := p.segmentTable ++ [size]
      chunks := p.chunks ++ [slice packet offset (offset + size)] })

/-- The loop of `addPacket`. -/
def addSegments (packet : Bytes) : List ℕ → ℕ → ℕ → OggPager → Except String (List Bytes × OggPager)
  | [], _, _, p => .ok ([], p)
  | size :: lacing, i, offset, p => do
    let (pages, p) ← addSegment packet i offset size p
    let (rest, p) ← addSegments packet lacing (i + 1) (offset + size) p
    return (pages ++ rest, p)

def addPacket (p : OggPager) (packet : Bytes) (granulePosition : ℤ) : Except String (List Bytes × OggPager) := do
  if p.ended then .error "ogg stream already ended"
  else
    let (pages, p) ← addSegments packet (oggLacingValues packet.length) 0 0 p
    return (pages, { p with pendingGranule := granulePosition, lastGranulePosition := granulePosition })

def flush (p : OggPager) (eos : Bool) : Except String (List Bytes × OggPager) :=
  if p.ended then .ok ([], p)
  else if p.segmentTable.length = 0 ∧ eos = false then .ok ([], p)
  else do
    let p := if p.segmentTable.length = 0 then { p with pendingGranule := p.lastGranulePosition } else p
    let (page, p) ← p.buildPage (if eos then OggHeaderTypeEos else 0)
    return ([page], if eos then { p with ended := true } else p)

/-- A call of the application. -/
inductive Call
  | addPacket (packet : Bytes) (granulePosition : ℤ)
  | flush

/-- Calls one after the other, and the pages that they return. -/
def run (p : OggPager) : List Call → Except String (List Bytes × OggPager)
  | [] => .ok ([], p)
  | .addPacket packet granulePosition :: calls => do
    let (pages, p) ← p.addPacket packet granulePosition
    let (rest, p) ← run p calls
    return (pages ++ rest, p)
  | .flush :: calls => do
    let (pages, p) ← p.flush false
    let (rest, p) ← run p calls
    return (pages ++ rest, p)

/-- A whole stream: calls, and a flush that ends it. -/
def stream (serialNumber : ℤ) (calls : List Call) : Except String (List Bytes) := do
  let (pages, p) ← run { serialNumber } calls
  let (last, _) ← p.flush true
  return pages ++ last

end OggPager

/-! ## Segments -/

/-- A segment of a packet: whether it continues it, its bytes, and the granule position of the packet if it ends
there. -/
structure OggSegment where
  continued : Bool
  data : Bytes
  granule : Option ℤ

/-- The granule position of the last packet that ends in a row of segments. -/
def granuleOf (segments : List OggSegment) : ℤ :=
  ((segments.filterMap OggSegment.granule).getLast?).getD OggNoGranulePosition

/-- The first of the segments continues a packet. -/
def continues (segments : List OggSegment) : Bool := segments.head?.elim false OggSegment.continued

/-- The segments of a packet. -/
def segmentsOf (packet : Bytes) : List Bytes :=
  (List.range (packet.length / 255 + 1)).map fun i => (packet.drop (255 * i)).take 255

/-- The segments of a packet with a granule position. -/
def markedSegments (packet : Bytes) (granulePosition : ℤ) : List OggSegment :=
  (List.range (packet.length / 255 + 1)).map fun i =>
    ⟨decide (0 < i), (packet.drop (255 * i)).take 255,
      if i = packet.length / 255 then some granulePosition else none⟩

/-- What a page with these segments is written with. -/
def pageProps (serialNumber : ℤ) (pageSequence : ℕ) (eos : Bool) (granulePosition : ℤ)
    (segments : List OggSegment) : OggPageProps where
  headerType := (if eos then OggHeaderTypeEos else 0) ||| (if pageSequence = 0 then OggHeaderTypeBos else 0) |||
    (if continues segments then OggHeaderTypeContinued else 0)
  granulePosition := granulePosition
  serialNumber := serialNumber
  pageSequence := pageSequence
  segmentTable := segments.map fun segment => segment.data.length
  data := (segments.map OggSegment.data).flatten

/-- Segments fit into a page. -/
structure Fit (segments : List OggSegment) : Prop where
  length : segments.length ≤ OggMaxSegments
  data : ∀ segment ∈ segments, segment.data.length ≤ 255
  granule : ∀ segment ∈ segments, ∀ g : ℤ, segment.granule = some g → -2 ^ 63 ≤ g ∧ g < 2 ^ 63

namespace OggPager

variable {p p' p'' : OggPager} {pending : List OggSegment} {packet : Bytes}

/-- The page that is being filled has these segments. -/
structure Holds (p : OggPager) (pending : List OggSegment) : Prop where
  segmentTable : p.segmentTable = pending.map fun segment => segment.data.length
  chunks : p.chunks = pending.map OggSegment.data
  granule : p.pendingGranule = granuleOf pending
  continued : p.pendingContinued = continues pending
  bos : p.bos = decide (p.pageSequence = 0)
  fit : Fit pending

lemma granuleOf_range (h : Fit pending) : -2 ^ 63 ≤ granuleOf pending ∧ granuleOf pending < 2 ^ 63 := by
  rw [granuleOf]
  cases hlast : (pending.filterMap OggSegment.granule).getLast? with
  | none => norm_num [OggNoGranulePosition]
  | some g =>
    obtain ⟨segment, hmem, hg⟩ := List.mem_filterMap.mp (List.mem_of_getLast? hlast)
    exact h.granule segment hmem g hg

/-- A page that is written from what is pending, with a granule position. -/
lemma exists_buildPage (h : Holds p pending) {granulePosition : ℤ}
    (hgranule : -2 ^ 63 ≤ granulePosition ∧ granulePosition < 2 ^ 63) (eos : Bool) :
    ∃ page : OggPage, page.segments = pending.map OggSegment.data ∧
      createOggPage (pageProps p.serialNumber p.pageSequence eos granulePosition pending) = .ok page.bytes ∧
      buildPage { p with pendingGranule := granulePosition } (if eos then OggHeaderTypeEos else 0) =
        .ok (page.bytes,
          { p with
            bos := false
            pageSequence := p.pageSequence + 1
            segmentTable := []
            chunks := []
            pendingGranule := OggNoGranulePosition
            pendingContinued := false }) := by
  have htype : ∀ seq : ℕ, (pageProps p.serialNumber seq eos granulePosition pending).headerType < 256 := by
    intro seq
    simp only [pageProps, OggHeaderTypeEos, OggHeaderTypeBos, OggHeaderTypeContinued]
    split_ifs <;> decide
  have hdata : ∀ segment ∈ pending.map OggSegment.data, segment.length ≤ 255 := by
    intro segment hsegment
    obtain ⟨marked, hmem, rfl⟩ := List.mem_map.mp hsegment
    exact h.fit.data marked hmem
  obtain ⟨page, hpage, hsegments⟩ := exists_createOggPage p.serialNumber p.pageSequence
    (htype p.pageSequence) hgranule ((List.length_map _).trans_le h.fit.length) hdata
  rw [List.map_map] at hpage
  refine ⟨page, hsegments, hpage, ?_⟩
  have hprops : (⟨if p.pendingContinued then
        (if p.bos then (if eos then OggHeaderTypeEos else 0) ||| OggHeaderTypeBos
          else if eos then OggHeaderTypeEos else 0) ||| OggHeaderTypeContinued else
        if p.bos then (if eos then OggHeaderTypeEos else 0) ||| OggHeaderTypeBos
          else if eos then OggHeaderTypeEos else 0,
      granulePosition, p.serialNumber, p.pageSequence, p.segmentTable, p.chunks.flatten⟩ : OggPageProps) =
      pageProps p.serialNumber p.pageSequence eos granulePosition pending := by
    rw [pageProps, h.segmentTable, h.chunks, h.continued, h.bos]
    congr 1
    by_cases hseq : p.pageSequence = 0 <;> by_cases hcont : continues pending = true <;> simp [hseq, hcont]
  rw [buildPage]
  dsimp only
  rw [hprops]
  exact congrArg (fun result => result >>= _) hpage

/-- From `p` to `p'` pages of these segments have been written. -/
structure Writes (p p' : OggPager) (parts : List (List OggSegment)) (pages : List Bytes) : Prop where
  serialNumber : p'.serialNumber = p.serialNumber
  pageSequence : p'.pageSequence = p.pageSequence + parts.length
  ended : p'.ended = p.ended
  fit : ∀ part ∈ parts, part ≠ [] ∧ Fit part
  pages : List.Forall₂ (fun part page => ∃ oggPage : OggPage, page = oggPage.bytes ∧
    oggPage.segments = part.1.map OggSegment.data ∧
    createOggPage (pageProps p.serialNumber part.2 false (granuleOf part.1) part.1) = .ok page)
    (parts.zipIdx p.pageSequence) pages

lemma Writes.refl (p : OggPager) : Writes p p [] [] :=
  ⟨rfl, rfl, rfl, fun _ h => absurd h List.not_mem_nil, List.Forall₂.nil⟩

lemma Writes.trans {parts parts' : List (List OggSegment)} {pages pages' : List Bytes} (h : Writes p p' parts pages)
    (h' : Writes p' p'' parts' pages') : Writes p p'' (parts ++ parts') (pages ++ pages') := by
  refine ⟨h'.serialNumber.trans h.serialNumber, ?_, h'.ended.trans h.ended, ?_, ?_⟩
  · rw [h'.pageSequence, h.pageSequence, List.length_append, Nat.add_assoc]
  · intro part hpart
    exact (List.mem_append.mp hpart).elim (h.fit part) (h'.fit part)
  · rw [List.zipIdx_append]
    refine List.rel_append h.pages ?_
    have hpages := h'.pages
    rw [h.serialNumber, h.pageSequence] at hpages
    exact hpages

/-! ## Adding a packet -/

/-- A segment of a packet of which it is not said that it ends. -/
def openSegment (packet : Bytes) (i : ℕ) : OggSegment := ⟨decide (0 < i), (packet.drop (255 * i)).take 255, none⟩

lemma granuleOf_append_open (pending : List OggSegment) (packet : Bytes) (i : ℕ) :
    granuleOf (pending ++ [openSegment packet i]) = granuleOf pending := by
  simp [granuleOf, openSegment]

lemma continues_append (h : pending ≠ []) (segment : OggSegment) :
    continues (pending ++ [segment]) = continues pending := by
  obtain ⟨first, rest, rfl⟩ := List.exists_cons_of_ne_nil h
  rfl

lemma fit_append_open (h : Fit pending) (hlt : pending.length < OggMaxSegments) (packet : Bytes) (i : ℕ) :
    Fit (pending ++ [openSegment packet i]) := by
  refine ⟨?_, fun segment hsegment => ?_, fun segment hsegment g hg => ?_⟩
  · rw [List.length_append, List.length_singleton]
    exact hlt
  · obtain hsegment | hsegment := List.mem_append.mp hsegment
    · exact h.data segment hsegment
    · obtain rfl := List.mem_singleton.mp hsegment
      exact List.length_take_le 255 _
  · obtain hsegment | hsegment := List.mem_append.mp hsegment
    · exact h.granule segment hsegment g hg
    · obtain rfl := List.mem_singleton.mp hsegment
      exact absurd hg nofun

/-- One more segment, on the page that is being filled or on a new one. -/
lemma exists_addSegment (h : Holds p pending) {i size : ℕ} (hfirst : pending = [] → i = 0)
    (hslice : slice packet (255 * i) (255 * i + size) = (packet.drop (255 * i)).take 255)
    (hsize : ((packet.drop (255 * i)).take 255).length = size) :
    ∃ (parts : List (List OggSegment)) (pages : List Bytes) (p' : OggPager) (front : List OggSegment),
      addSegment packet i (255 * i) size p = .ok (pages, p') ∧ Writes p p' parts pages ∧
      Holds p' (front ++ [openSegment packet i]) ∧ parts.flatten ++ front = pending ∧
      p'.lastGranulePosition = p.lastGranulePosition := by
  have hlength : p.segmentTable.length = pending.length := by rw [h.segmentTable, List.length_map]
  by_cases hfull : pending.length = OggMaxSegments
  · obtain ⟨page, hsegments, hpage, hbuild⟩ := exists_buildPage h (granuleOf_range h.fit) false
    have hsame : { p with pendingGranule := granuleOf pending } = p := by rw [← h.granule]
    rw [hsame] at hbuild
    have hne : pending ≠ [] := fun hnil => by simp [hnil, OggMaxSegments] at hfull
    refine ⟨[pending], [page.bytes],
      { p with
        bos := false
        pageSequence := p.pageSequence + 1
        segmentTable := [size]
        chunks := [slice packet (255 * i) (255 * i + size)]
        pendingGranule := OggNoGranulePosition
        pendingContinued := decide (0 < i) }, [], ?_, ⟨rfl, rfl, rfl, ?_, ?_⟩, ⟨?_, ?_, rfl, rfl, ?_, ?_⟩, ?_, rfl⟩
    · rw [addSegment, if_pos (hlength.trans hfull)]
      simp only [Bool.false_eq_true, if_false] at hbuild
      rw [hbuild]
      rfl
    · intro part hpart
      obtain rfl := List.mem_singleton.mp hpart
      exact ⟨hne, h.fit⟩
    · exact List.Forall₂.cons ⟨page, rfl, hsegments, hpage⟩ List.Forall₂.nil
    · rw [List.nil_append, List.map_singleton, openSegment, hsize]
    · rw [hslice]
      rfl
    · exact (decide_eq_false (Nat.succ_ne_zero p.pageSequence)).symm
    · exact fit_append_open
        ⟨Nat.zero_le _, fun _ h => absurd h List.not_mem_nil, fun _ h => absurd h List.not_mem_nil⟩
        (by decide) packet i
    · rw [List.flatten_singleton, List.append_nil]
  · have hlt : pending.length < OggMaxSegments := lt_of_le_of_ne h.fit.length hfull
    refine ⟨[], [],
      { p with
        segmentTable := p.segmentTable ++ [size]
        chunks := p.chunks ++ [slice packet (255 * i) (255 * i + size)] }, pending, ?_,
      ⟨rfl, rfl, rfl, fun _ h => absurd h List.not_mem_nil, List.Forall₂.nil⟩,
      ⟨?_, ?_, ?_, ?_, h.bos, fit_append_open h.fit hlt packet i⟩, List.nil_append _, rfl⟩
    · rw [addSegment, if_neg (hlength ▸ hfull)]
      rfl
    · rw [List.map_append, List.map_singleton, ← h.segmentTable, openSegment, hsize]
    · rw [List.map_append, List.map_singleton, ← h.chunks, openSegment, hslice]
    · exact h.granule.trans (granuleOf_append_open pending packet i).symm
    · rw [show continues (pending ++ [openSegment packet i]) = continues pending from ?_]
      · exact h.continued
      · by_cases hnil : pending = []
        · rw [hnil, hfirst hnil]
          rfl
        · exact continues_append hnil _

/-- The segments of a packet from the segment `i` on: `m` full ones and the last one. -/
lemma exists_addSegments {m i r : ℕ} (h : Holds p pending) (hfirst : pending = [] → i = 0)
    (hlength : packet.length = 255 * (i + m) + r) (hr : r < 255) :
    ∃ (parts : List (List OggSegment)) (pages : List Bytes) (p' : OggPager) (front : List OggSegment),
      addSegments packet (List.replicate m 255 ++ [r]) i (255 * i) p = .ok (pages, p') ∧ Writes p p' parts pages ∧
      Holds p' (front ++ [openSegment packet (i + m)]) ∧
      parts.flatten ++ front = pending ++ (List.range' i m).map (openSegment packet) ∧
      p'.lastGranulePosition = p.lastGranulePosition := by
  induction m generalizing p pending i with
  | zero =>
    have hdrop : (packet.drop (255 * i)).length = r := by
      rw [List.length_drop, hlength]
      omega
    have htake : (packet.drop (255 * i)).take 255 = packet.drop (255 * i) := List.take_of_length_le (by omega)
    have hslice : slice packet (255 * i) (255 * i + r) = (packet.drop (255 * i)).take 255 := by
      rw [slice, Nat.add_sub_cancel_left, htake, List.take_of_length_le (by omega)]
    obtain ⟨parts, pages, p', front, hadd, hwrites, hholds, hparts, hlast⟩ :=
      exists_addSegment h hfirst hslice (by rw [htake, hdrop])
    refine ⟨parts, pages, p', front, ?_, hwrites, hholds, ?_, hlast⟩
    · rw [List.replicate_zero, List.nil_append, addSegments, hadd]
      simp only [addSegments, bind, Except.bind, pure, Except.pure, List.append_nil]
    · rw [hparts, List.range'_zero, List.map_nil, List.append_nil]
  | succ m ih =>
    have hfull : ((packet.drop (255 * i)).take 255).length = 255 := by
      rw [List.length_take, List.length_drop, hlength]
      omega
    have hslice : slice packet (255 * i) (255 * i + 255) = (packet.drop (255 * i)).take 255 := by
      rw [slice, Nat.add_sub_cancel_left]
    obtain ⟨parts, pages, p₁, front, hadd, hwrites, hholds, hparts, hlast⟩ :=
      exists_addSegment h hfirst hslice hfull
    obtain ⟨parts', pages', p', front', hadd', hwrites', hholds', hparts', hlast'⟩ :=
      ih hholds (fun hnil => absurd hnil (List.append_ne_nil_of_right_ne_nil _ (List.cons_ne_nil _ _)))
        (i := i + 1) (by omega)
    refine ⟨parts ++ parts', pages ++ pages', p', front', ?_, hwrites.trans hwrites', ?_, ?_, hlast'.trans hlast⟩
    · rw [List.replicate_succ, List.cons_append, addSegments, hadd]
      rw [Nat.mul_add, Nat.mul_one] at hadd'
      simp only [hadd', bind, Except.bind, pure, Except.pure]
    · rwa [Nat.add_assoc, Nat.add_comm 1 m] at hholds'
    · rw [List.flatten_append, List.append_assoc, hparts', ← List.append_assoc, ← List.append_assoc, hparts,
        List.range'_succ, List.map_cons, List.append_assoc, List.singleton_append]

/-! ## Streams -/

/-- The segments of a packet, the last one with its granule position. -/
lemma markedSegments_eq (packet : Bytes) (g : ℤ) : markedSegments packet g =
    (List.range' 0 (packet.length / 255)).map (openSegment packet) ++
      [{ openSegment packet (packet.length / 255) with granule := some g }] := by
  rw [markedSegments, List.range_succ, List.map_append, List.map_singleton, if_pos rfl, List.range_eq_range']
  congr 1
  refine List.map_congr_left fun i hi => ?_
  have hlt : i < packet.length / 255 := by simpa using hi
  rw [if_neg hlt.ne, openSegment]

/-- The last segment of a packet is closed when its granule position is known. -/
lemma Holds.close {front : List OggSegment} {i : ℕ} {g : ℤ} (h : Holds p (front ++ [openSegment packet i]))
    (hg : -2 ^ 63 ≤ g ∧ g < 2 ^ 63) :
    Holds { p with pendingGranule := g, lastGranulePosition := g }
      (front ++ [{ openSegment packet i with granule := some g }]) := by
  refine ⟨?_, ?_, ?_, ?_, h.bos, ⟨?_, fun segment hsegment => ?_, fun segment hsegment g' hg' => ?_⟩⟩
  · rw [List.map_append, List.map_singleton]
    simpa using h.segmentTable
  · rw [List.map_append, List.map_singleton]
    simpa using h.chunks
  · simp [granuleOf]
  · have hcontinued := h.continued
    cases front with
    | nil => exact hcontinued
    | cons first rest => exact hcontinued
  · simpa using h.fit.length
  · obtain hsegment | hsegment := List.mem_append.mp hsegment
    · exact h.fit.data segment (List.mem_append_left _ hsegment)
    · obtain rfl := List.mem_singleton.mp hsegment
      exact h.fit.data (openSegment packet i) (List.mem_append_right _ (List.mem_singleton_self _))
  · obtain hsegment | hsegment := List.mem_append.mp hsegment
    · exact h.fit.granule segment (List.mem_append_left _ hsegment) g' hg'
    · obtain rfl := List.mem_singleton.mp hsegment
      obtain rfl := Option.some.inj hg'
      exact hg

lemma exists_addPacket (packet : Bytes) (h : Holds p pending) (hended : p.ended = false) {g : ℤ}
    (hg : -2 ^ 63 ≤ g ∧ g < 2 ^ 63) :
    ∃ (parts : List (List OggSegment)) (pages : List Bytes) (p' : OggPager) (pending' : List OggSegment),
      p.addPacket packet g = .ok (pages, p') ∧ Writes p p' parts pages ∧ Holds p' pending' ∧
      parts.flatten ++ pending' = pending ++ markedSegments packet g ∧ p'.lastGranulePosition = g := by
  have hsplit : packet.length = 255 * (0 + packet.length / 255) + packet.length % 255 := by omega
  obtain ⟨parts, pages, p', front, hadd, hwrites, hholds, hparts, -⟩ :=
    exists_addSegments h (fun _ => rfl) hsplit (Nat.mod_lt _ (by norm_num))
  rw [Nat.zero_add] at hholds
  refine ⟨parts, pages, { p' with pendingGranule := g, lastGranulePosition := g }, _, ?_,
    ⟨hwrites.1, hwrites.2, hwrites.3, hwrites.4, hwrites.5⟩, hholds.close hg, ?_, rfl⟩
  · rw [addPacket, if_neg (by rw [hended]; exact Bool.false_ne_true), oggLacingValues]
    rw [Nat.mul_zero] at hadd
    rw [hadd]
    rfl
  · rw [← List.append_assoc, hparts, List.append_assoc, markedSegments_eq]

lemma exists_flush (h : Holds p pending) (hended : p.ended = false) :
    ∃ (parts : List (List OggSegment)) (pages : List Bytes) (p' : OggPager) (pending' : List OggSegment),
      p.flush false = .ok (pages, p') ∧ Writes p p' parts pages ∧ Holds p' pending' ∧
      parts.flatten ++ pending' = pending ∧ p'.lastGranulePosition = p.lastGranulePosition := by
  have hlength : p.segmentTable.length = pending.length := by rw [h.segmentTable, List.length_map]
  have hnot : ¬ p.ended = true := by
    rw [hended]
    exact Bool.false_ne_true
  by_cases hnil : pending = []
  · refine ⟨[], [], p, pending, ?_, Writes.refl p, h, List.nil_append _, rfl⟩
    rw [flush, if_neg hnot, if_pos ⟨by rw [hlength, hnil]; rfl, rfl⟩]
  · have hne : p.segmentTable.length ≠ 0 := by
      rw [hlength]
      exact List.length_pos_iff.mpr hnil |>.ne'
    obtain ⟨page, hsegments, hpage, hbuild⟩ := exists_buildPage h (granuleOf_range h.fit) false
    have hsame : { p with pendingGranule := granuleOf pending } = p := by rw [← h.granule]
    rw [hsame] at hbuild
    refine ⟨[pending], [page.bytes],
      { p with
        bos := false
        pageSequence := p.pageSequence + 1
        segmentTable := []
        chunks := []
        pendingGranule := OggNoGranulePosition
        pendingContinued := false }, [], ?_, ⟨rfl, rfl, rfl, ?_, ?_⟩, ⟨rfl, rfl, rfl, rfl, ?_, ?_⟩, ?_, rfl⟩
    · rw [flush, if_neg hnot, if_neg fun h => hne h.1]
      dsimp only
      rw [if_neg hne, hbuild]
      rfl
    · intro part hpart
      obtain rfl := List.mem_singleton.mp hpart
      exact ⟨hnil, h.fit⟩
    · exact List.Forall₂.cons ⟨page, rfl, hsegments, hpage⟩ List.Forall₂.nil
    · exact (decide_eq_false (Nat.succ_ne_zero p.pageSequence)).symm
    · exact ⟨Nat.zero_le _, fun _ h => absurd h List.not_mem_nil, fun _ h => absurd h List.not_mem_nil⟩
    · rw [List.flatten_singleton, List.append_nil]

/-- The packets that calls add, with their granule positions. -/
def packetsOf (calls : List Call) : List (Bytes × ℤ) :=
  calls.filterMap fun call =>
    match call with
    | .addPacket packet granulePosition => some (packet, granulePosition)
    | .flush => none

/-- The granule position of the last packet. -/
def lastGranule (start : ℤ) (packets : List (Bytes × ℤ)) : ℤ := (packets.getLast?.map Prod.snd).getD start

lemma exists_run {calls : List Call} (h : Holds p pending) (hended : p.ended = false)
    (hcalls : ∀ packet ∈ packetsOf calls, -2 ^ 63 ≤ packet.2 ∧ packet.2 < 2 ^ 63) :
    ∃ (parts : List (List OggSegment)) (pages : List Bytes) (p' : OggPager) (pending' : List OggSegment),
      p.run calls = .ok (pages, p') ∧ Writes p p' parts pages ∧ Holds p' pending' ∧
      parts.flatten ++ pending' =
        pending ++ (packetsOf calls).flatMap (fun packet => markedSegments packet.1 packet.2) ∧
      p'.lastGranulePosition = lastGranule p.lastGranulePosition (packetsOf calls) := by
  induction calls generalizing p pending with
  | nil => exact ⟨[], [], p, pending, rfl, Writes.refl p, h, (List.append_nil _).symm, rfl⟩
  | cons call calls ih =>
    cases call with
    | addPacket packet g =>
      obtain ⟨hg, hrest⟩ := List.forall_mem_cons.mp hcalls
      obtain ⟨parts, pages, p₁, pending₁, hadd, hwrites, hholds, hparts, hlast⟩ :=
        exists_addPacket packet h hended hg
      obtain ⟨parts', pages', p', pending', hrun, hwrites', hholds', hparts', hlast'⟩ :=
        ih hholds (hwrites.ended.trans hended) hrest
      refine ⟨parts ++ parts', pages ++ pages', p', pending', ?_, hwrites.trans hwrites', hholds', ?_, ?_⟩
      · rw [run, hadd]
        simp only [bind, Except.bind, hrun, pure, Except.pure]
      · rw [List.flatten_append, List.append_assoc, hparts', ← List.append_assoc, hparts, List.append_assoc]
        rfl
      · rw [hlast', hlast]
        show lastGranule g (packetsOf calls) = lastGranule _ ((packet, g) :: packetsOf calls)
        rw [lastGranule, lastGranule, List.getLast?_cons]
        cases (packetsOf calls).getLast? <;> rfl
    | flush =>
      obtain ⟨parts, pages, p₁, pending₁, hflush, hwrites, hholds, hparts, hlast⟩ := exists_flush h hended
      obtain ⟨parts', pages', p', pending', hrun, hwrites', hholds', hparts', hlast'⟩ :=
        ih hholds (hwrites.ended.trans hended) hcalls
      refine ⟨parts ++ parts', pages ++ pages', p', pending', ?_, hwrites.trans hwrites', hholds', ?_, ?_⟩
      · rw [run, hflush]
        simp only [bind, Except.bind, hrun, pure, Except.pure]
      · rw [List.flatten_append, List.append_assoc, hparts', ← List.append_assoc, hparts]
        rfl
      · rw [hlast', hlast]
        rfl

lemma exists_of_forall₂_zipIdx {α β : Type} {R : α × ℕ → β → Prop} {l : List α} {l' : List β} {n : ℕ}
    (h : List.Forall₂ R (l.zipIdx n) l') {k : ℕ} {a : α} (ha : l[k]? = some a) :
    ∃ b : β, l'[k]? = some b ∧ R (a, n + k) b := by
  have hk : (l.zipIdx n)[k]? = some (a, n + k) := by rw [List.getElem?_zipIdx, ha, Option.map_some]
  obtain ⟨hlt, hget⟩ := List.getElem?_eq_some_iff.mp hk
  have hlt' : k < l'.length := h.length_eq ▸ hlt
  have hrel := h.get hlt hlt'
  rw [List.get_eq_getElem, List.get_eq_getElem] at hrel
  rw [hget] at hrel
  exact ⟨l'[k], List.getElem?_eq_getElem hlt', hrel⟩

/-- **How a stream is paged.**  The pages hold the segments of the packets in order, and no packet has a segment
left over.  The page number `k` has the sequence number `k`; only the first one begins the stream, and only the last
one ends it.  A page continues a packet when its first segment does, and it has the granule position of the last
packet that ends on it, or none.  Only the last page can be empty: then it has that of the last packet of all. -/
structure Paged (serialNumber : ℤ) (packets : List (Bytes × ℤ)) (pages : List Bytes)
    (parts : List (List OggSegment)) : Prop where
  segments : parts.flatten = packets.flatMap fun packet => markedSegments packet.1 packet.2
  unlaced : Lacing.unlace 255 [] (parts.flatten.map OggSegment.data) = (packets.map Prod.fst, [])
  length : pages.length = parts.length
  ne_nil : parts ≠ []
  nonempty : ∀ k : ℕ, parts[k]? = some [] → k + 1 = parts.length
  page : ∀ (k : ℕ) (part : List OggSegment), parts[k]? = some part → part.length ≤ OggMaxSegments ∧
    ∃ page : OggPage, pages[k]? = some page.bytes ∧ page.segments = part.map OggSegment.data ∧
      createOggPage (pageProps serialNumber k (decide (k + 1 = parts.length))
        (if part = [] then lastGranule 0 packets else granuleOf part) part) = .ok page.bytes

/-- A packet is laced into its segments. -/
lemma laces_markedSegments (packet : Bytes) (g : ℤ) :
    Lacing.Laces 255 ((markedSegments packet g).map OggSegment.data) packet := by
  have hlast : (packet.drop (255 * (packet.length / 255))).length < 255 := by
    rw [List.length_drop]
    omega
  have htake := List.take_of_length_le hlast.le
  have hmap : (markedSegments packet g).map OggSegment.data =
      ((List.range (packet.length / 255)).map fun i => (packet.drop (255 * i)).take 255) ++
        [packet.drop (255 * (packet.length / 255))] := by
    rw [markedSegments_eq, List.map_append, List.map_map, ← List.range_eq_range', List.map_singleton]
    dsimp only [openSegment]
    rw [htake]
    rfl
  refine ⟨_, _, hmap, fun segment hsegment => ?_, hlast, ?_⟩
  · obtain ⟨i, hi, rfl⟩ := List.mem_map.mp hsegment
    have hlt := List.mem_range.mp hi
    rw [List.length_take, List.length_drop]
    omega
  · rw [hmap, List.flatten_append, List.flatten_singleton, Lacing.flatten_pieces]

theorem exists_stream (serialNumber : ℤ) (calls : List Call)
    (hcalls : ∀ packet ∈ packetsOf calls, -2 ^ 63 ≤ packet.2 ∧ packet.2 < 2 ^ 63) :
    ∃ (pages : List Bytes) (parts : List (List OggSegment)), stream serialNumber calls = .ok pages ∧
      Paged serialNumber (packetsOf calls) pages parts := by
  have hstart : Holds { serialNumber := serialNumber } [] :=
    ⟨rfl, rfl, rfl, rfl, rfl, Nat.zero_le _, fun _ h => absurd h List.not_mem_nil,
      fun _ h => absurd h List.not_mem_nil⟩
  obtain ⟨parts, pages, p, pending, hrun, hwrites, hholds, hparts, hlast⟩ := exists_run hstart rfl hcalls
  have hended : p.ended = false := hwrites.ended
  -- the granule position of the page that ends the stream
  have hgranule : -2 ^ 63 ≤ (if pending = [] then lastGranule 0 (packetsOf calls) else granuleOf pending) ∧
      (if pending = [] then lastGranule 0 (packetsOf calls) else granuleOf pending) < 2 ^ 63 := by
    split_ifs
    · rw [lastGranule]
      cases hget : (packetsOf calls).getLast? with
      | none => norm_num
      | some packet => exact hcalls packet (List.mem_of_getLast? hget)
    · exact granuleOf_range hholds.fit
  obtain ⟨page, hsegments, hpage, hbuild⟩ := exists_buildPage hholds hgranule true
  have hsequence : p.pageSequence = parts.length := by
    rw [hwrites.pageSequence, Nat.zero_add]
  have hserial : p.serialNumber = serialNumber := hwrites.serialNumber
  have hlength : p.segmentTable.length = pending.length := by rw [hholds.segmentTable, List.length_map]
  have hpagesLength : pages.length = parts.length := by
    rw [← hwrites.pages.length_eq, List.length_zipIdx]
  refine ⟨pages ++ [page.bytes], parts ++ [pending], ?_, ?_⟩
  · have hflush : p.flush true = .ok ([page.bytes],
        { p with
          bos := false
          pageSequence := p.pageSequence + 1
          segmentTable := []
          chunks := []
          pendingGranule := OggNoGranulePosition
          pendingContinued := false
          ended := true }) := by
      have hchosen : (if p.segmentTable.length = 0 then { p with pendingGranule := p.lastGranulePosition } else p) =
          { p with pendingGranule :=
            if pending = [] then lastGranule 0 (packetsOf calls) else granuleOf pending } := by
        by_cases hnil : pending = []
        · rw [if_pos (hlength.trans (List.length_eq_zero_iff.mpr hnil)), if_pos hnil, hlast]
        · rw [if_neg (hlength ▸ fun h => hnil (List.length_eq_zero_iff.mp h)), if_neg hnil, ← hholds.granule]
      rw [flush, if_neg (by rw [hended]; exact Bool.false_ne_true), if_neg (fun h => absurd h.2 nofun)]
      dsimp only
      rw [hchosen, hbuild]
      rfl
    simp only [stream, hrun, bind, Except.bind, hflush, pure, Except.pure]
  · have hflatten : (parts ++ [pending]).flatten =
        (packetsOf calls).flatMap fun packet => markedSegments packet.1 packet.2 := by
      rw [List.flatten_append, List.flatten_singleton, hparts, List.nil_append]
    refine ⟨hflatten, ?_, ?_, ?_, ?_, ?_⟩
    · rw [hflatten, List.map_flatMap]
      exact Lacing.unlace_flatMap fun packet _ => laces_markedSegments packet.1 packet.2
    · rw [List.length_append, List.length_append, hpagesLength]
      rfl
    · exact List.append_ne_nil_of_right_ne_nil _ (List.cons_ne_nil _ _)
    · intro k hk
      rw [List.length_append, List.length_singleton]
      by_contra hne
      have hlt : k < parts.length := by
        have := (List.getElem?_eq_some_iff.mp hk).1
        rw [List.length_append, List.length_singleton] at this
        omega
      rw [List.getElem?_append_left hlt] at hk
      exact (hwrites.fit [] (List.mem_of_getElem? hk)).1 rfl
    · intro k part hk
      rw [List.length_append, List.length_singleton]
      obtain hlt | hle := lt_or_ge k parts.length
      · rw [List.getElem?_append_left hlt] at hk
        obtain ⟨hne, hfit⟩ := hwrites.fit part (List.mem_of_getElem? hk)
        obtain ⟨_, hget, oggPage, rfl, hdata, hcreate⟩ := exists_of_forall₂_zipIdx hwrites.pages hk
        rw [Nat.zero_add] at hcreate
        refine ⟨hfit.length, oggPage, ?_, hdata, ?_⟩
        · rw [List.getElem?_append_left (hpagesLength ▸ hlt), hget]
        · rw [decide_eq_false (by omega), if_neg hne]
          exact hcreate
      · have hk' : k = parts.length := by
          have := (List.getElem?_eq_some_iff.mp hk).1
          rw [List.length_append, List.length_singleton] at this
          omega
        rw [hk', List.getElem?_concat_length] at hk
        obtain rfl := Option.some.inj hk
        refine ⟨hholds.fit.length, page, ?_, hsegments, ?_⟩
        · rw [hk', ← hpagesLength, List.getElem?_concat_length]
        · rw [hk', decide_eq_true rfl, ← hserial, ← hsequence]
          exact hpage

/-- A packet of 255 bytes, which has an empty last segment. -/
theorem exists_stream_255 : ∃ (pages : List Bytes) (parts : List (List OggSegment)),
    stream 1 [.addPacket (List.replicate 255 7) 960] = .ok pages ∧
      Paged 1 [(List.replicate 255 7, 960)] pages parts :=
  exists_stream 1 [.addPacket (List.replicate 255 7) 960] (by
    intro packet hpacket
    obtain rfl := List.mem_singleton.mp hpacket
    norm_num)

/-- No packet ends on an empty page that ends the stream, but it has a granule position. -/
theorem not_granule_none : ¬ ∀ (serialNumber : ℤ) (calls : List Call) (pages : List Bytes),
    stream serialNumber calls = .ok pages → ∀ page ∈ pages, page.getD 26 0 = 0 →
      (page.drop 6).take 8 = List.replicate 8 0xff := by
  intro h
  have hsome : (stream 1 []).toOption.any (fun pages => pages.any fun page =>
      page.getD 26 0 = 0 ∧ (page.drop 6).take 8 ≠ List.replicate 8 0xff) = true := by decide +kernel
  cases hstream : stream 1 [] with
  | error e => simp [hstream, Except.toOption] at hsome
  | ok pages =>
    rw [hstream, Except.toOption, Option.any_some] at hsome
    obtain ⟨page, hmem, hpage⟩ := List.any_eq_true.mp hsome
    obtain ⟨hempty, hgranule⟩ := of_decide_eq_true hpage
    exact hgranule (h 1 [] pages hstream page hmem hempty)

end OggPager

end Werift.Container
