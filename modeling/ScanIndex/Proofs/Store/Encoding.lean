import Mathlib.Algebra.GroupWithZero.Nat
import ScanIndex.Proofs.Store.Joining
import ScanIndex.Proofs.Store.Refusal

/-!
# Tables that encode documents

Whatever calls are made, and whether they fail or not, the four tables encode the documents that the
calls leave: every row has its parent, every line has one row of coordinates, positions count the
rows below one parent from zero on, and there are no rows but those of the documents
(`Tables.Encodes`).  A document that is removed or replaced leaves no row behind
(`Relational.tables_encode`).
-/

namespace ScanIndex

open Sql

namespace Sql.Tables

/-- Identifiers and files are told apart, every row has its parent, every line has one row of
coordinates, and the rows below one parent stand at the positions from zero on. -/
structure Sound (t : Tables) : Prop where
  files : (t.documents.map DocumentRow.file).Nodup
  documents : (t.documents.map DocumentRow.id).Nodup
  pages : (t.pages.map PageRow.id).Nodup
  lines : (t.lines.map LineRow.id).Nodup
  coordinates : (t.coordinates.map CoordinatesRow.id).Nodup
  documentOfPage : ∀ p ∈ t.pages, ∃ d ∈ t.documents, p.document = d.id
  pageOfLine : ∀ l ∈ t.lines, ∃ p ∈ t.pages, l.page = p.id
  lineOfCoordinates : ∀ c ∈ t.coordinates, ∃ l ∈ t.lines, c.line = l.id
  coordinatesOfLine : ∀ l ∈ t.lines, ∃ c, (t.coordinates.filter fun c => c.line = l.id) = [c]
  pagePositions : ∀ d ∈ t.documents,
    (t.pagesOf d.id).map PageRow.position = List.range (t.pagesOf d.id).length
  linePositions : ∀ p ∈ t.pages,
    (t.linesOf p.id).map LineRow.position = List.range (t.linesOf p.id).length

/-- The tables encode the documents, in their order: below each document stand its pages, below each
page its lines, and below each line its coordinates, in their order and with no other rows. -/
structure Encodes (t : Tables) (ds : List Document) : Prop where
  sound : t.Sound
  documents : t.documents = ds.map Document.row
  pages : ∀ d ∈ ds, t.pagesOf d.id = d.pageRows
  lines : ∀ d ∈ ds, ∀ p ∈ d.pages, t.linesOf p.id = p.lineRows
  coordinates : ∀ d ∈ ds, ∀ l ∈ d.lines,
    (t.coordinates.filter fun c => c.line = l.id) = [l.coordinatesRow]
  pageCount : t.pages.length = (ds.map fun d => d.pages.length).sum
  lineCount : t.lines.length = (ds.map Document.lineCount).sum
  coordinatesCount : t.coordinates.length = (ds.map Document.lineCount).sum

/-- The identifiers of the rows of a kind. -/
def ids (t : Tables) : RowKind → List String
  | .page => t.pages.map PageRow.id
  | .line => t.lines.map LineRow.id
  | .coordinates => t.coordinates.map CoordinatesRow.id

namespace Represents

variable {t : Tables} {ds : List Document}

/-- The identifiers of the rows of a kind are those that the documents take. -/
theorem perm_ids (h : t.Represents ds) (k : RowKind) :
  (t.ids k).Perm (ds.flatMap fun d => d.idsBelow k)
  := by
  cases k with
  | page =>
    simp only [Document.idsBelow_page, ← List.map_flatMap]
    apply h.below.perm_page_ids
  | line =>
    simp only [Document.idsBelow_line, ← List.map_flatMap]
    apply h.below.perm_line_ids
  | coordinates =>
    simp only [Document.idsBelow_coordinates, ← List.map_flatMap]
    apply h.below.perm_coordinates_ids

theorem nodup_ids (h : t.Represents ds) (k : RowKind) :
  (t.ids k).Nodup
  := by
  cases k with
  | page => apply h.below.perm_page_ids.nodup_iff.2 h.storable.pages
  | line => apply h.below.perm_line_ids.nodup_iff.2 h.storable.lines
  | coordinates => apply h.below.perm_coordinates_ids.nodup_iff.2 h.storable.coordinates

/-- Different documents take different identifiers. -/
theorem eq_of_mem_idsBelow (h : t.Represents ds) {d e : Document} (hd : d ∈ ds) (he : e ∈ ds)
    {k : RowKind} {id : String} (hid : id ∈ d.idsBelow k) (hid' : id ∈ e.idsBelow k) :
  d = e
  := by
  have hnodup := (h.perm_ids k).nodup_iff.1 (h.nodup_ids k)
  have hsymm : Std.Symm (Function.onFun List.Disjoint fun d : Document => d.idsBelow k) :=
    ⟨fun _ _ => List.disjoint_symm⟩
  by_contra hne
  apply (List.nodup_flatMap.1 hnodup).2.forall hd he hne hid hid'

/-! ### Parents -/

theorem exists_page (h : t.Represents ds) {r : PageRow} (hr : r ∈ t.pages) :
  ∃ d ∈ ds, ∃ p ∈ d.pages, r.document = d.id ∧ r.id = p.id
  := by
  rw [h.below.pages.mem_iff, List.mem_flatMap] at hr
  obtain ⟨d, hd, hr⟩ := hr
  obtain ⟨p, hp, hid, hdocument, -⟩ := exists_of_mem_pageRows hr
  exact ⟨d, hd, p, hp, hdocument, hid⟩

theorem exists_line (h : t.Represents ds) {r : LineRow} (hr : r ∈ t.lines) :
  ∃ d ∈ ds, ∃ p ∈ d.pages, ∃ l ∈ p.lines, r.page = p.id ∧ r.id = l.id
  := by
  rw [h.below.lines.mem_iff, List.mem_flatMap] at hr
  obtain ⟨d, hd, hr⟩ := hr
  obtain ⟨p, hp, hr⟩ := List.mem_flatMap.1 hr
  obtain ⟨l, hl, hid, hpage, -⟩ := exists_of_mem_lineRows hr
  exact ⟨d, hd, p, hp, l, hl, hpage, hid⟩

theorem exists_coordinates (h : t.Represents ds) {r : CoordinatesRow} (hr : r ∈ t.coordinates) :
  ∃ d ∈ ds, ∃ p ∈ d.pages, ∃ l ∈ p.lines, r = l.coordinatesRow
  := by
  rw [h.below.coordinates.mem_iff, List.mem_flatMap] at hr
  obtain ⟨d, hd, hr⟩ := hr
  obtain ⟨l, hl, rfl⟩ := List.mem_map.1 hr
  obtain ⟨p, hp, hl⟩ := List.mem_flatMap.1 hl
  exact ⟨d, hd, p, hp, l, hl, rfl⟩

/-- A page of a document has a row. -/
theorem exists_pageRow (h : t.Represents ds) {d : Document} (hd : d ∈ ds) {p : Page}
    (hp : p ∈ d.pages) :
  ∃ r ∈ t.pages, r.id = p.id
  := by
  obtain ⟨r, hr, hid, -⟩ := exists_mem_pageRows d.id 0 hp
  exact ⟨r, h.below.pages.mem_iff.2 (List.mem_flatMap.2 ⟨d, hd, hr⟩), hid⟩

/-- A line of a page has a row. -/
theorem exists_lineRow (h : t.Represents ds) {d : Document} (hd : d ∈ ds) {p : Page}
    (hp : p ∈ d.pages) {l : Line} (hl : l ∈ p.lines) :
  ∃ r ∈ t.lines, r.id = l.id
  := by
  obtain ⟨r, hr, hid, -⟩ := exists_mem_lineRows p.id 0 hl
  exact ⟨r, h.below.lines.mem_iff.2 (List.mem_flatMap.2 ⟨d, hd, List.mem_flatMap.2 ⟨p, hp, hr⟩⟩),
    hid⟩

theorem sound (h : t.Represents ds) :
  t.Sound
  := by
  constructor
  case files =>
    rw [h.documents, List.map_map]
    exact h.storable.files
  case documents =>
    rw [h.documents, List.map_map]
    exact h.storable.documents
  case pages => apply h.nodup_ids .page
  case lines => apply h.nodup_ids .line
  case coordinates => apply h.nodup_ids .coordinates
  case documentOfPage =>
    intro r hr
    obtain ⟨d, hd, -, -, hdocument, -⟩ := h.exists_page hr
    use d.row
    rw [h.documents]
    exact ⟨List.mem_map_of_mem hd, hdocument⟩
  case pageOfLine =>
    intro r hr
    obtain ⟨d, hd, p, hp, -, -, hpage, -⟩ := h.exists_line hr
    obtain ⟨q, hq, hid⟩ := h.exists_pageRow hd hp
    exact ⟨q, hq, hpage.trans hid.symm⟩
  case lineOfCoordinates =>
    intro r hr
    obtain ⟨d, hd, p, hp, l, hl, rfl⟩ := h.exists_coordinates hr
    obtain ⟨q, hq, hid⟩ := h.exists_lineRow hd hp hl
    exact ⟨q, hq, hid.symm⟩
  case coordinatesOfLine =>
    intro r hr
    obtain ⟨d, hd, p, hp, l, hl, -, hid⟩ := h.exists_line hr
    use l.coordinatesRow
    rw [hid]
    apply h.below.filter_coordinates_eq h.storable hd (List.mem_flatMap.2 ⟨p, hp, hl⟩)
  case pagePositions =>
    intro r hr
    rw [h.documents] at hr
    obtain ⟨d, hd, rfl⟩ := List.mem_map.1 hr
    have hpages : t.pagesOf d.row.id = d.pageRows := h.below.pagesOf_eq h.storable hd
    rw [hpages, Document.pageRows, map_position_pageRows, length_pageRows, List.range_eq_range']
  case linePositions =>
    intro r hr
    obtain ⟨d, hd, p, hp, -, hid⟩ := h.exists_page hr
    rw [hid, h.below.linesOf_eq h.storable hd hp, Page.lineRows, map_position_lineRows,
      length_lineRows, List.range_eq_range']

theorem encodes (h : t.Represents ds) :
  t.Encodes ds
  := by
  constructor
  case sound => exact h.sound
  case documents => exact h.documents
  case pages =>
    intro d hd
    apply h.below.pagesOf_eq h.storable hd
  case lines =>
    intro d hd p hp
    apply h.below.linesOf_eq h.storable hd hp
  case coordinates =>
    intro d hd l hl
    apply h.below.filter_coordinates_eq h.storable hd hl
  case pageCount =>
    rw [h.below.pages.length_eq, List.length_flatMap]
    simp only [Document.pageRows, length_pageRows]
  case lineCount =>
    have hlength (d : Document) : d.lineRows.length = d.lineCount := by
      simp only [Document.lineRows, Page.lineRows, Document.lineCount, Document.lines,
        List.length_flatMap, length_lineRows]
    rw [h.below.lines.length_eq, List.length_flatMap]
    simp only [hlength]
  case coordinatesCount =>
    have hlength (d : Document) : d.coordinatesRows.length = d.lineCount := List.length_map _
    rw [h.below.coordinates.length_eq, List.length_flatMap]
    simp only [hlength]

end Represents

end Sql.Tables

/-- The documents that come with a call. -/
def StoreCall.given : StoreCall → List Document
  | upsert ds => ds
  | _ => []

/-- A document that a call leaves was stored before, or it has the pages of one that came with the
call. -/
theorem StoreCall.Leaves.mem_cases {c : StoreCall} {m m' : Memory} (h : c.Leaves m m')
    (hm : m.files.Nodup) {d : Document} (hd : d ∈ m'.documents) :
  d ∈ m.documents ∨ ∃ e ∈ c.given, d.pages = e.pages
  := by
  cases c with
  | upsert ds =>
    obtain ⟨n, -, -, rfl⟩ := h
    rcases Memory.mem_upsert hm hd with ⟨hd, -⟩ | ⟨pre, e, post, hds, -, -, hpages⟩
    · exact .inl hd
    · have he : e ∈ ds.take n := by
        rw [hds]
        apply List.mem_append_right pre List.mem_cons_self
      exact .inr ⟨e, List.mem_of_mem_take he, hpages⟩
  | delete ids =>
    obtain rfl := h
    apply Or.inl (List.mem_of_mem_filter hd)
  | deleteWhere q =>
    obtain rfl := h
    split at hd
    next => apply Or.inl (List.mem_of_mem_filter hd)
    next => apply Or.inl hd
  | setup | documents q | keys q | count =>
    obtain rfl := h
    apply Or.inl hd

namespace Relational

/-- In every state that calls lead to, the tables encode the documents that the calls leave.  Of a
document that one more call does not leave as it is, no row stays behind, unless the call comes with
its identifier. -/
theorem tables_encode (cs : List StoreCall) :
  ∃ t m, ScanIndex.after cs Relational.empty = ofTables t ∧ LeavesAll cs .empty m
    ∧ t.Encodes m.documents
    ∧ ∀ c : StoreCall, ∃ t' m', (c.run (ofTables t)).2 = ofTables t' ∧ c.Leaves m m'
      ∧ t'.Encodes m'.documents
      ∧ ∀ d ∈ m.documents, d ∉ m'.documents → ∀ k, ∀ id ∈ d.idsBelow k, id ∈ t'.ids k →
        ∃ e ∈ c.given, id ∈ e.idsBelow k
  := by
  obtain ⟨m, hleaves, t, ht, h⟩ := represents_empty.after_leaves cs
  refine ⟨t, m, ht, hleaves, h.encodes, ?_⟩
  intro c
  obtain ⟨m', hm', t', ht', h'⟩ := Represents.run ⟨t, rfl, h⟩ c
  refine ⟨t', m', ht', hm', h'.encodes, ?_⟩
  intro d hd hgone k id hid hleft
  rw [(h'.perm_ids k).mem_iff, List.mem_flatMap] at hleft
  obtain ⟨x, hx, hidx⟩ := hleft
  rcases hm'.mem_cases h.storable.files hx with hold | ⟨e, he, hpages⟩
  · obtain rfl := h.eq_of_mem_idsBelow hd hold hid hidx
    exact absurd hx hgone
  · use e, he
    rw [Document.idsBelow, ← hpages]
    exact hidx

end Relational

end ScanIndex
