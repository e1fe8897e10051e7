import Werift.Lib.Filling
import Werift.Container.OggPage

/-!
# Ogg parsing (`rtp/src/extra/container/ogg/parser.ts`)

The bytes of a file arrive in chunks.  A page that is cut off behind its first segment is filled from the next
chunk; one that is cut off before is lost, or exported as it is.
-/

namespace Werift.Container.OggParser

open Rtp (Bytes)
open Js Filling

/-- The segments of a page, with the sizes of its segment table. -/
abbrev Page := List (Piece UInt8)

/-- `checkSegments(page).invalid`. -/
def checkSegments (page : Option Page) : Option ℕ := page.bind firstShort

/-- `!invalid`, which is true of the index 0 as well. -/
def notInvalid : Option ℕ → Bool
  | none => true
  | some i => i = 0

/-- A page that is exported. -/
def exportable (page : Page) : Bool := notInvalid (checkSegments (some page))

/-- The segments that are exported, and the pages that stay: those from the first one on that is invalid. -/
def exportSegments (pages : List Page) : List Bytes × List Page :=
  ((pages.takeWhile exportable).flatMap fun page => page.map Piece.data, pages.dropWhile exportable)

/-- `buf.readBigInt64LE(pos)`. -/
def readBigInt64LE (buf : Bytes) (pos : ℕ) : Option ℤ :=
  if pos + 8 ≤ buf.length then
    let value := BigEndian.decode ((buf.drop pos).take 8).reverse
    some (if value < 2 ^ 63 then value else value - 2 ^ 64)
  else none

/-- The next `n` segments, and where they end. -/
def readSegments (buf segmentTable : Bytes) : ℕ → ℕ → ℕ → Option (Page × ℕ)
  | 0, _, index => some ([], index)
  | n + 1, i, index => do
    let segment ← readUInt8 segmentTable i
    let size := segment.toNat
    let rest ← readSegments buf segmentTable n (i + 1) (index + size)
    return (⟨size, (buf.drop index).take size, List.length_take_le size _⟩ :: rest.1, rest.2)

/-- A page and where it ends.  There is none where the magic number is missing or a read throws. -/
def readPage (buf : Bytes) (index : ℕ) : Option (Page × ℕ) :=
  if slice buf index (index + 4) ≠ [0x4f, 0x67, 0x67, 0x53] then none
  else do
    let _headerType ← readUInt8 buf (index + 5)
    let _granulePosition ← readBigInt64LE buf (index + 6)
    let _bitstreamSerialNumber ← readUInt32LE buf (index + 14)
    let _pageSequenceNumber ← readUInt32LE buf (index + 18)
    let _pageChecksum ← readUInt32LE buf (index + 22)
    let pageSegments ← readUInt8 buf (index + 26)
    let segmentTable := slice buf (index + 27) (index + 27 + pageSegments.toNat)
    readSegments buf segmentTable pageSegments.toNat 0 (index + 27 + pageSegments.toNat)

/-- The segments filled from `index` on, and where what they take ends. -/
def fillSegments (buf : Bytes) : Page → ℕ → Page × ℕ
  | [], index => ([], index)
  | segment :: segments, index =>
    let diff := segment.missing
    let rest := fillSegments buf segments (index + diff)
    (segment.append (slice buf index (index + diff)) :: rest.1, rest.2)

/-- The loop of `read`, with a bound on its rounds. -/
def readLoop (buf : Bytes) : ℕ → ℕ → List Page → Option (List Page)
  | 0, _, _ => none
  | fuel + 1, index, pages =>
    if buf.length < index then some pages
    else
      match pages.getLast?, checkSegments pages.getLast? with
      | some lastPage, some (i + 1) =>
        let filled := fillSegments buf (lastPage.drop (i + 1)) index
        readLoop buf fuel filled.2 (pages.dropLast ++ [lastPage.take (i + 1) ++ filled.1])
      | _, _ =>
        match readPage buf index with
        | none => some pages
        | some (page, index') => readLoop buf fuel index' (pages ++ [page])

/-- `read`.  There are not more rounds than bytes, and two more. -/
def read (pages : List Page) (buf : Bytes) : Option (List Page) := readLoop buf (buf.length + 2) 0 pages

/-! ## The loop ends -/

lemma le_of_readSegments {buf segmentTable : Bytes} {n i index : ℕ} {page : Page} {index' : ℕ}
    (h : readSegments buf segmentTable n i index = some (page, index')) : index ≤ index' := by
  induction n generalizing i index page with
  | zero =>
    cases h
    exact le_rfl
  | succ n ih =>
    rw [readSegments] at h
    obtain ⟨segment, -, hrest⟩ := Option.bind_eq_some_iff.mp h
    obtain ⟨⟨rest, index''⟩, hread, hpage⟩ := Option.bind_eq_some_iff.mp hrest
    cases hpage
    exact (Nat.le_add_right _ _).trans (ih hread)

lemma lt_of_readPage {buf : Bytes} {index : ℕ} {page : Page} {index' : ℕ}
    (h : readPage buf index = some (page, index')) : index < index' := by
  rw [readPage] at h
  split_ifs at h
  obtain ⟨_, -, h⟩ := Option.bind_eq_some_iff.mp h
  obtain ⟨_, -, h⟩ := Option.bind_eq_some_iff.mp h
  obtain ⟨_, -, h⟩ := Option.bind_eq_some_iff.mp h
  obtain ⟨_, -, h⟩ := Option.bind_eq_some_iff.mp h
  obtain ⟨_, -, h⟩ := Option.bind_eq_some_iff.mp h
  obtain ⟨pageSegments, -, h⟩ := Option.bind_eq_some_iff.mp h
  have := le_of_readSegments h
  omega

lemma fillSegments_eq (buf : Bytes) (page : Page) (index : ℕ) :
    fillSegments buf page index = (fill page (buf.drop index), index + missing page) := by
  induction page generalizing index with
  | nil => rfl
  | cons segment page ih =>
    have happend : segment.append (slice buf index (index + segment.missing)) =
        segment.append (buf.drop index) := by
      simp only [Piece.append, slice, Nat.add_sub_cancel_left, List.take_take, min_self]
    rw [fillSegments, ih]
    dsimp only
    rw [happend, fill, missing_cons, List.drop_drop, Nat.add_assoc]

variable {buf : Bytes} {fuel index : ℕ} {pages : List Page}

lemma readLoop_of_lt (h : buf.length < index) (pages : List Page) :
    readLoop buf (fuel + 1) index pages = some pages := by
  rw [readLoop, if_pos h]

/-- A round that fills the last page. -/
lemma readLoop_fill {lastPage : Page} {i : ℕ} (hindex : index ≤ buf.length)
    (h : firstShort lastPage = some (i + 1)) (pages : List Page) :
    readLoop buf (fuel + 1) index (pages ++ [lastPage]) =
      readLoop buf fuel (index + missing lastPage) (pages ++ [fill lastPage (buf.drop index)]) := by
  have hlast : (pages ++ [lastPage]).getLast? = some lastPage := List.getLast?_concat
  have hcheck : checkSegments (some lastPage) = some (i + 1) := h
  rw [readLoop, if_neg hindex.not_gt, hlast, hcheck]
  dsimp only
  rw [fillSegments_eq, List.dropLast_concat, missing_drop h, take_append_fill h]

/-- A round that reads a page. -/
lemma readLoop_page (hindex : index ≤ buf.length) (h : notInvalid (checkSegments pages.getLast?) = true) :
    readLoop buf (fuel + 1) index pages =
      (match readPage buf index with
      | none => some pages
      | some (page, index') => readLoop buf fuel index' (pages ++ [page])) := by
  rw [readLoop, if_neg hindex.not_gt]
  generalize checkSegments pages.getLast? = invalid at h
  match invalid, h with
  | none, _ => cases pages.getLast? <;> rfl
  | some 0, _ => cases pages.getLast? <;> rfl

lemma exists_of_invalid (h : notInvalid (checkSegments pages.getLast?) = false) :
    ∃ (front : List Page) (lastPage : Page) (i : ℕ), pages = front ++ [lastPage] ∧
      firstShort lastPage = some (i + 1) := by
  induction pages using List.reverseRecOn with
  | nil => cases h
  | append_singleton front lastPage _ =>
    rw [List.getLast?_concat] at h
    change notInvalid (firstShort lastPage) = false at h
    cases hshort : firstShort lastPage with
    | none =>
      rw [hshort] at h
      cases h
    | some n =>
      cases n with
      | zero =>
        rw [hshort] at h
        cases h
      | succ i => exact ⟨front, lastPage, i, rfl, hshort⟩

/-- Each round moves on. -/
lemma isSome_readLoop (hfuel : 0 < fuel) (h : buf.length + 2 ≤ fuel + index) (pages : List Page) :
    (readLoop buf fuel index pages).isSome = true := by
  induction fuel generalizing index pages with
  | zero => omega
  | succ fuel ih =>
    obtain hlt | hle := lt_or_ge buf.length index
    · rw [readLoop_of_lt hlt]
      rfl
    · cases hnot : notInvalid (checkSegments pages.getLast?) with
      | true =>
        rw [readLoop_page hle hnot]
        cases hpage : readPage buf index with
        | none => rfl
        | some page =>
          have := lt_of_readPage hpage
          exact ih (by omega) (by omega) _
      | false =>
        obtain ⟨front, lastPage, i, rfl, hshort⟩ := exists_of_invalid hnot
        rw [readLoop_fill hle hshort]
        have := missing_pos hshort
        exact ih (by omega) (by omega) _

/-- **`read` ends** on every input. -/
lemma isSome_read (pages : List Page) (buf : Bytes) : (read pages buf).isSome = true :=
  isSome_readLoop (Nat.succ_pos _) le_rfl pages

/-! ## The pages of a file -/

/-- The sizes of the segments of a page. -/
def sizesOf (page : OggPage) : List ℕ := page.segments.map List.length

/-- What is held of the pages of a file when `k` of its bytes have been read. -/
def held : List OggPage → ℕ → List Page
  | [], _ => []
  | page :: file, k =>
    if k = 0 then []
    else if page.bytes.length ≤ k then cut (sizesOf page) page.segments.flatten :: held file (k - page.bytes.length)
    else [cut (sizesOf page) (page.segments.flatten.take (k - page.header.length))]

/-- The pages that lie within the first `k` bytes of a file. -/
def complete : List OggPage → ℕ → List OggPage
  | [], _ => []
  | page :: file, k =>
    if page.bytes.length ≤ k then page :: complete file (k - page.bytes.length) else []

/-- A cut behind `k` bytes of a file is at the start of a page or behind the first segment of one. -/
def Resumable : List OggPage → ℕ → Prop
  | [], _ => True
  | page :: file, k => k = 0 ∨
      (∃ (first : Bytes) (others : List Bytes), page.segments = first :: others ∧
        page.header.length + first.length ≤ k ∧ k < page.bytes.length) ∨
      (page.bytes.length ≤ k ∧ Resumable file (k - page.bytes.length))

lemma length_header (page : OggPage) : page.header.length = 27 + page.segments.length := by
  simp [OggPage.header, page.length_fields]
  omega

lemma length_bytes (page : OggPage) :
    page.bytes.length = page.header.length + page.segments.flatten.length := List.length_append

lemma exists_readUIntBE {k pos : ℕ} (h : pos + k ≤ buf.length) : ∃ v : ℤ, readUIntBE k buf pos = some v :=
  ⟨_, if_pos h⟩

lemma exists_readUInt32LE {pos : ℕ} (h : pos + 4 ≤ buf.length) : ∃ v : ℤ, readUInt32LE buf pos = some v :=
  ⟨_, if_pos h⟩

lemma exists_readBigInt64LE {pos : ℕ} (h : pos + 8 ≤ buf.length) : ∃ v : ℤ, readBigInt64LE buf pos = some v :=
  ⟨_, if_pos h⟩

lemma readUInt8_length (pre : Bytes) {n : ℕ} (hn : n < 256) (post : Bytes) :
    readUInt8 (pre ++ UInt8.ofNat n :: post) pre.length = some (n : ℤ) := by
  have h := readUIntBE_append (writeUInt8_natCast hn) pre post
  rwa [List.append_assoc] at h

/-- Segments of the sizes in the table. -/
lemma readSegments_map {sizes : List ℕ} (hsizes : ∀ size ∈ sizes, size < 256) (buf front : Bytes) (index : ℕ) :
    readSegments buf (front ++ sizes.map UInt8.ofNat) sizes.length front.length index =
      some (cut sizes (buf.drop index), index + sizes.sum) := by
  induction sizes generalizing front index with
  | nil => rfl
  | cons size sizes ih =>
    obtain ⟨hsize, hrest⟩ := List.forall_mem_cons.mp hsizes
    have hread := ih hrest (front ++ [UInt8.ofNat size]) (index + size)
    rw [List.append_assoc, List.length_append, List.length_singleton] at hread
    rw [List.length_cons, readSegments, List.map_cons, readUInt8_length front hsize]
    simp only [Option.bind_eq_bind, Option.bind_some, Int.toNat_natCast, Option.pure_def]
    rw [show front ++ UInt8.ofNat size :: sizes.map UInt8.ofNat =
      front ++ ([UInt8.ofNat size] ++ sizes.map UInt8.ofNat) from rfl, hread, Option.bind_some, List.sum_cons,
      ← Nat.add_assoc, cut, List.drop_drop]

/-- A page is read when its header is there. -/
lemma readPage_header (pre : Bytes) (page : OggPage) (d : Bytes) :
    readPage (pre ++ (page.header ++ d)) pre.length =
      some (cut (sizesOf page) d, pre.length + page.bytes.length) := by
  set buf := pre ++ (page.header ++ d) with hbuf
  have hlength : buf.length = pre.length + (27 + page.segments.length + d.length) := by
    rw [hbuf, List.length_append, List.length_append, length_header]
  have hcount : page.segments.length < 256 := Nat.lt_succ_of_le page.length_segments
  have hmagic : slice buf pre.length (pre.length + 4) = [0x4f, 0x67, 0x67, 0x53] := by
    rw [slice, Nat.add_sub_cancel_left, hbuf, List.drop_left, OggPage.header, List.append_assoc, List.append_assoc,
      List.append_assoc]
    rfl
  obtain ⟨_, h5⟩ := exists_readUIntBE (show pre.length + 5 + 1 ≤ buf.length by omega)
  obtain ⟨_, h6⟩ := exists_readBigInt64LE (show pre.length + 6 + 8 ≤ buf.length by omega)
  obtain ⟨_, h14⟩ := exists_readUInt32LE (show pre.length + 14 + 4 ≤ buf.length by omega)
  obtain ⟨_, h18⟩ := exists_readUInt32LE (show pre.length + 18 + 4 ≤ buf.length by omega)
  obtain ⟨_, h22⟩ := exists_readUInt32LE (show pre.length + 22 + 4 ≤ buf.length by omega)
  have hfront : (pre ++ ([0x4f, 0x67, 0x67, 0x53] ++ page.fields)).length = pre.length + 26 := by
    simp [page.length_fields]
  have h26 : readUInt8 buf (pre.length + 26) = some (page.segments.length : ℤ) := by
    have h := readUInt8_length (pre ++ ([0x4f, 0x67, 0x67, 0x53] ++ page.fields)) hcount
      (page.segments.map (fun segment => UInt8.ofNat segment.length) ++ d)
    rw [hfront] at h
    rw [hbuf, OggPage.header, ← h]
    simp only [List.append_assoc, List.cons_append, List.nil_append]
  have hdrop : buf.drop (pre.length + 27) =
      page.segments.map (fun segment => UInt8.ofNat segment.length) ++ d := by
    rw [← List.drop_drop, hbuf, List.drop_left, OggPage.header, List.append_assoc]
    exact List.drop_left' (by simp [page.length_fields])
  have htable : slice buf (pre.length + 27) (pre.length + 27 + page.segments.length) =
      [] ++ (sizesOf page).map UInt8.ofNat := by
    rw [slice, Nat.add_sub_cancel_left, hdrop, List.take_left' (List.length_map _), sizesOf, List.map_map]
    rfl
  have hsizes : ∀ size ∈ sizesOf page, size < 256 := by
    intro size hsize
    obtain ⟨segment, hsegment, rfl⟩ := List.mem_map.mp hsize
    exact Nat.lt_succ_of_le (page.length_segment segment hsegment)
  have hcountSizes : page.segments.length = (sizesOf page).length := (List.length_map _).symm
  have hdata : buf.drop (pre.length + 27 + page.segments.length) = d := by
    rw [← List.drop_drop, hdrop]
    exact List.drop_left' (List.length_map _)
  have hread := readSegments_map hsizes buf [] (pre.length + 27 + page.segments.length)
  rw [hdata, ← hcountSizes, ← htable] at hread
  rw [readPage, if_neg (not_not.mpr hmagic)]
  simp only [readUInt8] at h26 ⊢
  simp only [h5, h6, h14, h18, h22, h26, Option.bind_eq_bind, Option.bind_some, Int.toNat_natCast]
  rw [List.length_nil] at hread
  rw [hread, length_bytes, length_header, sizesOf, ← List.length_flatten]
  congr 2
  omega

lemma readPage_length (pre : Bytes) : readPage pre pre.length = none := by
  have hslice : slice pre pre.length (pre.length + 4) = [] := by
    rw [slice, List.drop_length, List.take_nil]
  rw [readPage, if_pos (by rw [hslice]; exact nofun)]

lemma bytes_ne_nil (page : OggPage) : 0 < page.bytes.length := by
  rw [length_bytes, length_header]
  omega

lemma sum_sizesOf (page : OggPage) : (sizesOf page).sum = page.segments.flatten.length :=
  List.length_flatten.symm

lemma held_zero (file : List OggPage) : held file 0 = [] := by
  cases file with
  | nil => rfl
  | cons page file => rw [held, if_pos rfl]

lemma held_of_le {page : OggPage} {k : ℕ} (h : page.bytes.length ≤ k) (file : List OggPage) :
    held (page :: file) k = cut (sizesOf page) page.segments.flatten :: held file (k - page.bytes.length) := by
  have := bytes_ne_nil page
  rw [held, if_neg (by omega), if_pos h]

lemma held_of_lt {page : OggPage} {k : ℕ} (hpos : 0 < k) (h : k < page.bytes.length) (file : List OggPage) :
    held (page :: file) k = [cut (sizesOf page) (page.segments.flatten.take (k - page.header.length))] := by
  rw [held, if_neg hpos.ne', if_neg h.not_ge]

/-- A chunk that is at least as long as what comes next. -/
lemma exists_eq_append {d rest front back : Bytes} (h : d ++ rest = front ++ back) (hle : front.length ≤ d.length) :
    ∃ d' : Bytes, d = front ++ d' ∧ d' ++ rest = back := by
  obtain ⟨d', rfl⟩ := List.prefix_of_prefix_length_le (h ▸ List.prefix_append front back)
    (List.prefix_append d rest) hle
  rw [List.append_assoc] at h
  exact ⟨d', rfl, List.append_cancel_left h⟩

lemma Resumable.of_le {page : OggPage} {file : List OggPage} {k : ℕ} (h : Resumable (page :: file) k)
    (hk : page.bytes.length ≤ k) : Resumable file (k - page.bytes.length) := by
  obtain rfl | ⟨first, others, -, -, hlt⟩ | ⟨-, hfile⟩ := h
  · exact absurd hk (bytes_ne_nil page).not_ge
  · omega
  · exact hfile

/-- A whole page is held as it is. -/
lemma notInvalid_cut (page : OggPage) {l : Bytes} (h : page.segments.flatten.length ≤ l.length) :
    notInvalid (firstShort (cut (sizesOf page) l)) = true := by
  rw [firstShort_cut_of_le ((sum_sizesOf page).trans_le h)]
  rfl

/-- A page with its first segment is filled later. -/
lemma exists_firstShort {page : OggPage} {first : Bytes} {others : List Bytes} {l : Bytes}
    (h : page.segments = first :: others) (hfirst : first.length ≤ l.length)
    (hl : l.length < page.segments.flatten.length) :
    ∃ i : ℕ, firstShort (cut (sizesOf page) l) = some (i + 1) := by
  have hsizes : sizesOf page = first.length :: others.map List.length := by rw [sizesOf, h, List.map_cons]
  rw [← sum_sizesOf, hsizes] at hl
  rw [hsizes]
  exact firstShort_cut_of_lt hfirst hl

lemma notInvalid_concat (pages : List Page) {page : Page} (h : notInvalid (firstShort page) = true) :
    notInvalid (checkSegments (pages ++ [page]).getLast?) = true := by
  rw [List.getLast?_concat]
  exact h

/-- From the start of a page on. -/
lemma readLoop_start {file : List OggPage} {d rest : Bytes} (pre : Bytes)
    (hfile : d ++ rest = file.flatMap OggPage.bytes) (hcut : Resumable file d.length)
    (hpages : notInvalid (checkSegments pages.getLast?) = true) (hfuel : d.length + 2 ≤ fuel) :
    readLoop (pre ++ d) fuel pre.length pages = some (pages ++ held file d.length) := by
  induction file generalizing pre d pages fuel with
  | nil =>
    obtain ⟨rfl, -⟩ := List.append_eq_nil_iff.mp hfile
    obtain ⟨fuel, rfl⟩ := Nat.exists_eq_add_of_le' (show 1 ≤ fuel by omega)
    rw [List.append_nil, readLoop_page le_rfl hpages, readPage_length]
    exact congrArg some (List.append_nil pages).symm
  | cons page file ih =>
    obtain ⟨fuel, rfl⟩ := Nat.exists_eq_add_of_le' (show 1 ≤ fuel by omega)
    have hle : pre.length ≤ (pre ++ d).length := by
      rw [List.length_append]
      omega
    rw [List.flatMap_cons] at hfile
    rw [readLoop_page hle hpages]
    obtain hzero | ⟨first, others, hsegments, hfirst, hlt⟩ | ⟨hwhole, hcut'⟩ := hcut
    · obtain rfl := List.length_eq_zero_iff.mp hzero
      rw [List.append_nil, readPage_length, List.length_nil, held_zero, List.append_nil]
    · -- the chunk ends in the page
      rw [OggPage.bytes, List.append_assoc] at hfile
      obtain ⟨d', rfl, hdata⟩ := exists_eq_append hfile (by omega)
      have hpos : 0 < (page.header ++ d').length := by
        rw [List.length_append, length_header]
        omega
      have hlt' : d'.length < page.segments.flatten.length := by
        rw [length_bytes, List.length_append] at hlt
        omega
      have htake : page.segments.flatten.take d'.length = d' := by
        obtain ⟨tail, htail, -⟩ := exists_eq_append hdata.symm hlt'.le
        rw [htail, List.take_left]
      obtain ⟨fuel, rfl⟩ := Nat.exists_eq_add_of_le' (show 1 ≤ fuel by omega)
      rw [readPage_header, held_of_lt hpos hlt, List.length_append, Nat.add_sub_cancel_left, htake]
      exact readLoop_of_lt (by rw [List.length_append]; omega) _
    · -- the page is read, and the next one starts
      obtain ⟨d', rfl, hnext⟩ := exists_eq_append hfile hwhole
      have hpre : pre ++ (page.bytes ++ d') = (pre ++ page.bytes) ++ d' := (List.append_assoc _ _ _).symm
      have hcut'' : Resumable file d'.length := by
        rwa [List.length_append, Nat.add_sub_cancel_left] at hcut'
      have hpage : cut (sizesOf page) (page.segments.flatten ++ d') = cut (sizesOf page) page.segments.flatten :=
        cut_append (sum_sizesOf page).le d'
      have hread : readPage (pre ++ (page.bytes ++ d')) pre.length =
          some (cut (sizesOf page) page.segments.flatten, (pre ++ page.bytes).length) := by
        rw [OggPage.bytes, List.append_assoc, readPage_header, hpage, List.length_append]
        rfl
      have hfuel' : d'.length + 2 ≤ fuel := by
        have := bytes_ne_nil page
        rw [List.length_append] at hfuel
        omega
      rw [hread, held_of_le hwhole]
      dsimp only
      rw [hpre, ih (pre ++ page.bytes) hnext hcut'' (notInvalid_concat pages (notInvalid_cut page le_rfl)) hfuel',
        List.append_assoc, List.length_append, Nat.add_sub_cancel_left]
      rfl

/-- From what is held on. -/
lemma readLoop_held {file : List OggPage} {k : ℕ} {d rest : Bytes}
    (hfile : d ++ rest = (file.flatMap OggPage.bytes).drop k) (hcut : Resumable file k)
    (hcut' : Resumable file (k + d.length)) (hpages : notInvalid (checkSegments pages.getLast?) = true) :
    readLoop d (d.length + 2) 0 (pages ++ held file k) = some (pages ++ held file (k + d.length)) := by
  induction file generalizing k pages with
  | nil =>
    rw [List.flatMap_nil, List.drop_nil] at hfile
    have hread := readLoop_start [] (hfile.trans List.flatMap_nil.symm) trivial hpages le_rfl
    simp only [held, List.append_nil] at hread ⊢
    exact hread
  | cons page file ih =>
    rw [List.flatMap_cons] at hfile
    obtain rfl | ⟨first, others, hsegments, hfirst, hlt⟩ | ⟨hwhole, hcutFile⟩ := hcut
    · rw [held_zero, List.append_nil, Nat.zero_add] at *
      exact readLoop_start [] hfile hcut' hpages le_rfl
    · -- the page is filled
      set a := page.segments.flatten.take (k - page.header.length) with ha
      set b := page.segments.flatten.drop (k - page.header.length) with hb
      have hheader := length_header page
      have hab : a ++ b = page.segments.flatten := List.take_append_drop _ _
      have hk : k - page.header.length < page.segments.flatten.length := by
        rw [length_bytes] at hlt
        omega
      have halength : a.length = k - page.header.length := List.length_take_of_le hk.le
      have hblength : b.length = page.segments.flatten.length - (k - page.header.length) := List.length_drop
      have hdrop : d ++ rest = b ++ file.flatMap OggPage.bytes := by
        rw [hfile, List.drop_append_of_le_length hlt.le, OggPage.bytes, List.drop_append,
          List.drop_of_length_le (by omega), List.nil_append]
      obtain ⟨i, hshort⟩ := exists_firstShort hsegments (l := a) (by omega) (by omega)
      have hmissing : missing (cut (sizesOf page) a) = b.length := by
        rw [missing_cut, sum_sizesOf, halength, hblength]
      rw [held_of_lt (show 0 < k by omega) hlt, ← ha, readLoop_fill (Nat.zero_le _) hshort, hmissing,
        List.drop_zero, fill_cut, Nat.zero_add]
      obtain hle | hgt := le_or_gt b.length d.length
      · obtain ⟨d', rfl, hnext⟩ := exists_eq_append hdrop hle
        have hwhole : page.bytes.length ≤ k + (b ++ d').length := by
          rw [List.length_append, length_bytes]
          omega
        have hrest : k + (b ++ d').length - page.bytes.length = d'.length := by
          rw [List.length_append, length_bytes]
          omega
        have hcutFile := hcut'.of_le hwhole
        rw [hrest] at hcutFile
        have hpage : cut (sizesOf page) (a ++ (b ++ d')) = cut (sizesOf page) page.segments.flatten := by
          rw [← List.append_assoc, hab, cut_append (sum_sizesOf page).le]
        have hfuel : d'.length + 2 ≤ (b ++ d').length + 1 := by
          rw [List.length_append]
          omega
        rw [hpage, held_of_le hwhole, hrest, readLoop_start b hnext hcutFile
          (notInvalid_concat pages (notInvalid_cut page le_rfl)) hfuel, List.append_assoc]
        rfl
      · obtain ⟨tail, htail, -⟩ := exists_eq_append hdrop.symm hgt.le
        have hlength : k + d.length - page.header.length = (a ++ d).length := by
          rw [List.length_append]
          omega
        have htake : page.segments.flatten.take (k + d.length - page.header.length) = a ++ d := by
          rw [hlength, ← hab, htail, ← List.append_assoc, List.take_left]
        have hlt' : k + d.length < page.bytes.length := by
          rw [length_bytes]
          omega
        rw [readLoop_of_lt hgt, held_of_lt (show 0 < k + d.length by omega) hlt', htake]
    · have hdrop : d ++ rest = (file.flatMap OggPage.bytes).drop (k - page.bytes.length) := by
        rw [hfile, List.drop_append, List.drop_of_length_le hwhole, List.nil_append]
      have hsum : k + d.length - page.bytes.length = k - page.bytes.length + d.length := by omega
      have hnext := hcut'.of_le (by omega)
      rw [hsum] at hnext
      have hread := ih hdrop hcutFile hnext (notInvalid_concat pages (notInvalid_cut page le_rfl))
      rw [List.append_assoc, List.append_assoc] at hread
      rw [held_of_le hwhole, held_of_le (by omega), hsum]
      exact hread

/-- **A chunk between two cuts.** -/
lemma read_held {file : List OggPage} {k : ℕ} {d rest : Bytes}
    (hfile : d ++ rest = (file.flatMap OggPage.bytes).drop k) (hcut : Resumable file k)
    (hcut' : Resumable file (k + d.length)) : read (held file k) d = some (held file (k + d.length)) := by
  have hread : readLoop d (d.length + 2) 0 ([] ++ held file k) = some ([] ++ held file (k + d.length)) :=
    readLoop_held hfile hcut hcut' rfl
  rwa [List.nil_append, List.nil_append] at hread

/-! ## Chunks and exports -/

/-- What is done with a parser. -/
inductive Call where
  | read (buf : Bytes)
  | exportSegments

/-- A parser, and the segments that have been exported. -/
structure Parsing where
  pages : List Page
  exported : List Bytes

/-- A call. -/
def Parsing.call (p : Parsing) : Call → Option Parsing
  | .read buf => (OggParser.read p.pages buf).map fun pages => ⟨pages, p.exported⟩
  | .exportSegments =>
    some ⟨(OggParser.exportSegments p.pages).2, p.exported ++ (OggParser.exportSegments p.pages).1⟩

/-- The calls, one after the other, on a new parser. -/
def run (calls : List Call) : Option Parsing := calls.foldlM Parsing.call ⟨[], []⟩

/-- The bytes that have been read. -/
def given (calls : List Call) : Bytes :=
  calls.flatMap fun
    | .read buf => buf
    | .exportSegments => []

/-- The parser holds what has been read and not been exported. -/
def Holds (file : List OggPage) (k : ℕ) (p : Parsing) : Prop :=
  ∃ front back : List OggPage, file = front ++ back ∧ (front.flatMap OggPage.bytes).length ≤ k ∧
    p.pages = held back (k - (front.flatMap OggPage.bytes).length) ∧
    p.exported = front.flatMap OggPage.segments

lemma Resumable.back {front back : List OggPage} {k : ℕ} (h : Resumable (front ++ back) k)
    (hk : (front.flatMap OggPage.bytes).length ≤ k) :
    Resumable back (k - (front.flatMap OggPage.bytes).length) := by
  induction front generalizing k with
  | nil => exact h
  | cons page front ih =>
    rw [List.flatMap_cons, List.length_append] at hk ⊢
    rw [← Nat.sub_sub]
    exact ih (h.of_le (by omega)) (by omega)

/-- The whole pages are exported. -/
lemma exportSegments_held {file : List OggPage} {k : ℕ} (hcut : Resumable file k) :
    ∃ back : List OggPage, file = complete file k ++ back ∧ ((complete file k).flatMap OggPage.bytes).length ≤ k ∧
      exportSegments (held file k) = ((complete file k).flatMap OggPage.segments,
        held back (k - ((complete file k).flatMap OggPage.bytes).length)) := by
  induction file generalizing k with
  | nil => exact ⟨[], rfl, Nat.zero_le k, rfl⟩
  | cons page file ih =>
    obtain rfl | ⟨first, others, hsegments, hfirst, hlt⟩ | ⟨hwhole, hcutFile⟩ := hcut
    · rw [complete, if_neg (bytes_ne_nil page).not_ge]
      refine ⟨page :: file, rfl, le_rfl, ?_⟩
      rw [held_zero, List.flatMap_nil, List.flatMap_nil, List.length_nil, held_zero]
      rfl
    · have hheader := length_header page
      have hk : k - page.header.length < page.segments.flatten.length := by
        rw [length_bytes] at hlt
        omega
      have hlength : (page.segments.flatten.take (k - page.header.length)).length = k - page.header.length :=
        List.length_take_of_le hk.le
      obtain ⟨i, hshort⟩ := exists_firstShort hsegments (l := page.segments.flatten.take (k - page.header.length))
        (by omega) (by omega)
      have hnot : exportable
          (cut (sizesOf page) (page.segments.flatten.take (k - page.header.length))) = false := by
        change notInvalid (firstShort _) = false
        rw [hshort]
        rfl
      rw [complete, if_neg hlt.not_ge]
      refine ⟨page :: file, rfl, Nat.zero_le k, ?_⟩
      rw [List.flatMap_nil, List.flatMap_nil, List.length_nil, Nat.sub_zero,
        held_of_lt (show 0 < k by omega) hlt, exportSegments,
        List.takeWhile_cons_of_neg (by rw [hnot]; exact nofun),
        List.dropWhile_cons_of_neg (by rw [hnot]; exact nofun), List.flatMap_nil]
    · obtain ⟨back, hfile, hle, hexport⟩ := ih hcutFile
      rw [exportSegments, Prod.mk.injEq] at hexport
      have hwholePage : exportable (cut (sizesOf page) page.segments.flatten) = true := notInvalid_cut page le_rfl
      rw [complete, if_pos hwhole]
      refine ⟨back, by rw [List.cons_append, ← hfile], ?_, ?_⟩
      · rw [List.flatMap_cons, List.length_append]
        omega
      · rw [held_of_le hwhole, exportSegments, List.takeWhile_cons_of_pos hwholePage,
          List.dropWhile_cons_of_pos hwholePage, List.flatMap_cons, List.flatMap_cons, List.flatMap_cons,
          hexport.1, hexport.2, List.length_append, Nat.sub_sub, sizesOf, data_cut]

lemma complete_append (front back : List OggPage) {k : ℕ} (hk : (front.flatMap OggPage.bytes).length ≤ k) :
    complete (front ++ back) k = front ++ complete back (k - (front.flatMap OggPage.bytes).length) := by
  induction front generalizing k with
  | nil => rfl
  | cons page front ih =>
    rw [List.flatMap_cons, List.length_append] at hk ⊢
    rw [List.cons_append, complete, if_pos (by omega), ih (by omega), Nat.sub_sub, List.cons_append]

lemma complete_length (file : List OggPage) : complete file (file.flatMap OggPage.bytes).length = file := by
  induction file with
  | nil => rfl
  | cons page file ih =>
    rw [List.flatMap_cons, List.length_append, complete, if_pos (Nat.le_add_right _ _), Nat.add_sub_cancel_left, ih]

variable {file : List OggPage} {k : ℕ} {p : Parsing}

/-- What has been exported, and what would be exported now, are the pages that have come whole. -/
lemma Holds.exported_append (h : Holds file k p) (hcut : Resumable file k) :
    p.exported ++ (exportSegments p.pages).1 = (complete file k).flatMap OggPage.segments := by
  obtain ⟨front, back, rfl, hle, hpages, hexported⟩ := h
  obtain ⟨_, -, -, hexport⟩ := exportSegments_held (hcut.back hle)
  rw [hpages, hexport, hexported, complete_append front back hle, List.flatMap_append]

lemma Holds.exportSegments (h : Holds file k p) (hcut : Resumable file k) :
    ∃ p' : Parsing, p.call .exportSegments = some p' ∧ Holds file k p' := by
  have hexported := h.exported_append hcut
  obtain ⟨front, back, rfl, hle, hpages, -⟩ := h
  obtain ⟨back', hback, hle', hexport⟩ := exportSegments_held (hcut.back hle)
  refine ⟨_, rfl, complete (front ++ back) k, back', ?_, ?_, ?_, hexported⟩
  · rw [complete_append front back hle, List.append_assoc, ← hback]
  · rw [complete_append front back hle, List.flatMap_append, List.length_append]
    omega
  · rw [complete_append front back hle, List.flatMap_append, List.length_append, ← Nat.sub_sub, hpages, hexport]

lemma Holds.read (h : Holds file k p) (hcut : Resumable file k) {buf rest : Bytes}
    (hfile : buf ++ rest = (file.flatMap OggPage.bytes).drop k) (hcut' : Resumable file (k + buf.length)) :
    ∃ p' : Parsing, p.call (.read buf) = some p' ∧ Holds file (k + buf.length) p' := by
  obtain ⟨front, back, rfl, hle, hpages, hexported⟩ := h
  rw [List.flatMap_append, List.drop_append, List.drop_of_length_le hle, List.nil_append] at hfile
  have hsum : k + buf.length - (front.flatMap OggPage.bytes).length =
      k - (front.flatMap OggPage.bytes).length + buf.length := by omega
  have hnext := hcut'.back (by omega)
  rw [hsum] at hnext
  refine ⟨⟨held back (k + buf.length - (front.flatMap OggPage.bytes).length), p.exported⟩, ?_, front, back, rfl,
    by omega, rfl, hexported⟩
  rw [Parsing.call, hpages, read_held hfile (hcut.back hle) hnext, hsum, Option.map_some]

lemma given_concat (calls : List Call) (call : Call) : given (calls ++ [call]) = given calls ++ given [call] :=
  List.flatMap_append

/-- The calls of a run keep it so. -/
lemma exists_run {calls : List Call} {rest : Bytes} (hfile : given calls ++ rest = file.flatMap OggPage.bytes)
    (hcuts : ∀ calls' : List Call, calls' <+: calls → Resumable file (given calls').length) :
    ∃ p : Parsing, run calls = some p ∧ Holds file (given calls).length p := by
  induction calls using List.reverseRecOn generalizing rest with
  | nil => exact ⟨⟨[], []⟩, rfl, [], file, rfl, le_rfl, (held_zero file).symm, rfl⟩
  | append_singleton calls call ih =>
    rw [given_concat, List.append_assoc] at hfile
    obtain ⟨p, hrun, hholds⟩ := ih hfile fun calls' h => hcuts calls' (h.trans (List.prefix_append calls [call]))
    have hcut := hcuts calls (List.prefix_append calls [call])
    have hcut' := hcuts (calls ++ [call]) (List.prefix_refl _)
    rw [given_concat, List.length_append] at hcut' ⊢
    have hdrop : given [call] ++ rest = (file.flatMap OggPage.bytes).drop (given calls).length := by
      rw [← hfile, List.drop_left]
    have hstep : ∃ p' : Parsing, p.call call = some p' ∧
        Holds file ((given calls).length + (given [call]).length) p' := by
      cases call with
      | read buf =>
        rw [show given [.read buf] = buf from List.append_nil buf] at hcut' hdrop ⊢
        exact hholds.read hcut hdrop hcut'
      | exportSegments => exact hholds.exportSegments hcut
    obtain ⟨p', hcall, hholds'⟩ := hstep
    refine ⟨p', ?_, hholds'⟩
    rw [run, List.foldlM_append, ← run, hrun, Option.bind_eq_bind, Option.bind_some, List.foldlM_cons, hcall]
    rfl

/-- **Ogg parsing.**  `read` always ends.  Of a file that arrives in chunks with all cuts at the start of a page or
behind the first segment of one, the segments of the pages that have come whole are exported, each once and in
order, wherever the exports come. -/
theorem exported_of_resumable (file : List OggPage) (calls : List Call) :
    (∀ (pages : List Page) (buf : Bytes), (read pages buf).isSome = true) ∧
      (given calls = file.flatMap OggPage.bytes →
        (∀ calls' : List Call, calls' <+: calls → Resumable file (given calls').length) →
        (∀ calls' : List Call, calls' <+: calls → ∃ p : Parsing, run calls' = some p ∧
          p.exported ++ (exportSegments p.pages).1 =
            (complete file (given calls').length).flatMap OggPage.segments) ∧
        (run (calls ++ [.exportSegments])).map Parsing.exported = some (file.flatMap OggPage.segments)) := by
  refine ⟨isSome_read, fun hfile hcuts => ⟨fun calls' hcalls => ?_, ?_⟩⟩
  · obtain ⟨following, rfl⟩ := hcalls
    have hgiven : given calls' ++ given following = file.flatMap OggPage.bytes := by
      rw [← hfile]
      exact List.flatMap_append.symm
    obtain ⟨p, hrun, hholds⟩ := exists_run hgiven fun front h => hcuts front (h.trans (List.prefix_append _ _))
    exact ⟨p, hrun, hholds.exported_append (hcuts calls' (List.prefix_append _ _))⟩
  · obtain ⟨p, hrun, hholds⟩ := exists_run ((List.append_nil _).trans hfile) hcuts
    have hexported := hholds.exported_append (hcuts calls (List.prefix_refl _))
    rw [hfile, complete_length] at hexported
    rw [run, List.foldlM_append, ← run, hrun, ← hexported]
    rfl

/-- A page with two segments. -/
def twoSegments : OggPage where
  fields := List.replicate 22 0
  segments := [[1, 2], [3]]
  length_fields := rfl
  length_segments := by decide
  length_segment := by decide

/-- The first chunk ends behind the first segment, and there is an export before the rest comes. -/
theorem exported_of_resumable_twoSegments :
    (run [.read (twoSegments.bytes.take 31), .exportSegments, .read [3], .exportSegments]).map Parsing.exported =
      some [[1, 2], [3]] := by
  have hcuts : ∀ calls' : List Call, calls' <+: [.read (twoSegments.bytes.take 31), .exportSegments, .read [3]] →
      Resumable [twoSegments] (given calls').length := by
    intro calls' h
    rw [← List.mem_inits] at h
    simp only [List.inits, List.mem_cons, List.not_mem_nil, or_false, List.map_cons, List.map_nil] at h
    obtain rfl | rfl | rfl | rfl := h
    · exact .inl rfl
    · exact .inr (.inl ⟨[1, 2], [[3]], rfl, by decide, by decide⟩)
    · exact .inr (.inl ⟨[1, 2], [[3]], rfl, by decide, by decide⟩)
    · exact .inr (.inr ⟨by decide, trivial⟩)
  exact ((exported_of_resumable [twoSegments]
    [.read (twoSegments.bytes.take 31), .exportSegments, .read [3]]).2 (by decide) hcuts).2

/-- A first chunk that ends in the first segment: the page is exported as it is then, and what comes is lost. -/
theorem not_exported_of_cut : ¬ ∀ (file : List OggPage) (calls : List Call),
    given calls = file.flatMap OggPage.bytes →
      (run (calls ++ [.exportSegments])).map Parsing.exported = some (file.flatMap OggPage.segments) := by
  intro h
  have hall := h [twoSegments] [.read (twoSegments.bytes.take 30), .read [2, 3]] (by decide)
  have hcut : (run [.read (twoSegments.bytes.take 30), .read [2, 3], .exportSegments]).map Parsing.exported =
      some [[1], []] := by decide
  have hne : some [[1], []] = some (([twoSegments] : List OggPage).flatMap OggPage.segments) := hcut.symm.trans hall
  exact absurd hne (by decide)

end Werift.Container.OggParser
