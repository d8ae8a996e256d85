import Mathlib.Data.List.Flatten
import Mathlib.Data.List.Nodup
import Mathlib.Tactic.Use
import ScanIndex.Proofs.FloatOrder
import ScanIndex.Sql.Tables

/-!
# Documents laid out as rows

The rows that a document takes in the four tables: a row of its own, one for each page and each line
with its position below its parent, and one for the coordinates of each line.  `Tables.Holds` says
that the rows below a document in some tables are exactly those of its tree, and `Tables.Represents`
that the tables consist of the rows of some documents.  The rows are those of the plain tree, in
which no zero has a sign.
-/

namespace ScanIndex

namespace Sql

/-- The rows of pages of a document, the first of them at the given position. -/
def pageRows (document : String) : (position : Nat) → List Page → List PageRow
  | _, [] => []
  | n, p :: ps => ⟨p.id, document, p.number, n⟩ :: pageRows document (n + 1) ps

/-- The rows of lines of a page, the first of them at the given position. -/
def lineRows (page : String) : (position : Nat) → List Line → List LineRow
  | _, [] => []
  | n, l :: ls => ⟨l.id, page, l.text, n⟩ :: lineRows page (n + 1) ls

end Sql

open Sql

/-- The row of the coordinates of a line. -/
def Line.coordinatesRow (l : Line) : CoordinatesRow :=
  ⟨l.coordinates.id, l.id, l.coordinates.corners.plain⟩

/-- The rows of the lines of a page. -/
def Page.lineRows (p : Page) : List LineRow := Sql.lineRows p.id 0 p.lines

namespace Document

/-- The row of a document. -/
def row (d : Document) : DocumentRow := ⟨d.id, d.file⟩

/-- The rows of the pages of a document. -/
def pageRows (d : Document) : List PageRow := Sql.pageRows d.id 0 d.pages

/-- The rows of the lines of a document. -/
def lineRows (d : Document) : List LineRow := d.pages.flatMap Page.lineRows

/-- The rows of the coordinates of a document. -/
def coordinatesRows (d : Document) : List CoordinatesRow := d.lines.map Line.coordinatesRow

end Document

/-! ### Plain trees -/

/-- The line, without the signs of zeros. -/
def Line.plain (l : Line) : Line :=
  { l with coordinates := { l.coordinates with corners := l.coordinates.corners.plain } }

/-- The page, without the signs of zeros. -/
def Page.plain (p : Page) : Page := { p with lines := p.lines.map Line.plain }

/-- The document, without the signs of zeros. -/
def Document.plain (d : Document) : Document := { d with pages := d.pages.map Page.plain }

@[simp] theorem Document.file_plain (d : Document) :
  d.plain.file = d.file
  := rfl

@[simp] theorem Document.plain_plain (d : Document) :
  d.plain.plain = d.plain
  := by
  simp [plain, Page.plain, Line.plain, Corners.plain_plain]

/-! ### Trees without some of their lines -/

/-- The page, without the lines that are lost. -/
def Page.without (lost : String → Bool) (p : Page) : Page :=
  { p with lines := p.lines.filter fun l => !lost l.id }

/-- The document, without the lines that are lost; its pages stay. -/
def Document.without (lost : String → Bool) (d : Document) : Document :=
  { d with pages := d.pages.map (Page.without lost) }

@[simp] theorem Document.row_without (lost : String → Bool) (d : Document) :
  (d.without lost).row = d.row
  := rfl

theorem Page.without_none (p : Page) :
  p.without (fun _ => false) = p
  := by
  simp [without]

theorem Document.without_none (d : Document) :
  d.without (fun _ => false) = d
  := by
  rw [without, List.map_id'' Page.without_none]

namespace Sql

/-! ### Rows of a document -/

/-- The rows below the document are exactly those of its tree. -/
structure Tables.Holds (t : Tables) (d : Document) : Prop where
  pages (r : PageRow) : r ∈ t.pages ∧ r.document = d.id ↔ r ∈ d.pageRows
  lines {p : Page} (hp : p ∈ d.pages) (r : LineRow) : r ∈ t.lines ∧ r.page = p.id ↔ r ∈ p.lineRows
  coordinates {l : Line} (hl : l ∈ d.lines) (r : CoordinatesRow) :
    r ∈ t.coordinates ∧ r.line = l.id ↔ r = l.coordinatesRow

/-! ### Membership -/

theorem exists_of_mem_pageRows {document : String} {n : Nat} {ps : List Page} {r : PageRow}
    (h : r ∈ pageRows document n ps) :
  ∃ p ∈ ps, r.id = p.id ∧ r.document = document ∧ r.number = p.number
  := by
  fun_induction pageRows document n ps with
  | case1 => cases h
  | case2 n p ps ih =>
    rcases List.mem_cons.1 h with rfl | h
    · exact ⟨p, List.mem_cons_self, rfl, rfl, rfl⟩
    · obtain ⟨q, hq, hr⟩ := ih h
      exact ⟨q, List.mem_cons_of_mem p hq, hr⟩

theorem exists_mem_pageRows (document : String) (n : Nat) {ps : List Page} {p : Page}
    (h : p ∈ ps) :
  ∃ r ∈ pageRows document n ps, r.id = p.id ∧ r.document = document ∧ r.number = p.number
  := by
  induction ps generalizing n with
  | nil => cases h
  | cons q ps ih =>
    rcases List.mem_cons.1 h with rfl | h
    · exact ⟨_, List.mem_cons_self, rfl, rfl, rfl⟩
    · obtain ⟨r, hr, heq⟩ := ih (n + 1) h
      exact ⟨r, List.mem_cons_of_mem _ hr, heq⟩

theorem exists_of_mem_lineRows {page : String} {n : Nat} {ls : List Line} {r : LineRow}
    (h : r ∈ lineRows page n ls) :
  ∃ l ∈ ls, r.id = l.id ∧ r.page = page ∧ r.text = l.text
  := by
  fun_induction lineRows page n ls with
  | case1 => cases h
  | case2 n l ls ih =>
    rcases List.mem_cons.1 h with rfl | h
    · exact ⟨l, List.mem_cons_self, rfl, rfl, rfl⟩
    · obtain ⟨m, hm, hr⟩ := ih h
      exact ⟨m, List.mem_cons_of_mem l hm, hr⟩

theorem exists_mem_lineRows (page : String) (n : Nat) {ls : List Line} {l : Line}
    (h : l ∈ ls) :
  ∃ r ∈ lineRows page n ls, r.id = l.id ∧ r.page = page ∧ r.text = l.text
  := by
  induction ls generalizing n with
  | nil => cases h
  | cons m ls ih =>
    rcases List.mem_cons.1 h with rfl | h
    · exact ⟨_, List.mem_cons_self, rfl, rfl, rfl⟩
    · obtain ⟨r, hr, heq⟩ := ih (n + 1) h
      exact ⟨r, List.mem_cons_of_mem _ hr, heq⟩

/-! ### Identifiers -/

@[simp] theorem map_id_pageRows (document : String) (n : Nat) (ps : List Page) :
  (pageRows document n ps).map PageRow.id = ps.map Page.id
  := by
  fun_induction pageRows document n ps with
  | case1 => rfl
  | case2 n p ps ih => rw [List.map_cons, ih, List.map_cons]

@[simp] theorem map_id_lineRows (page : String) (n : Nat) (ls : List Line) :
  (lineRows page n ls).map LineRow.id = ls.map Line.id
  := by
  fun_induction lineRows page n ls with
  | case1 => rfl
  | case2 n l ls ih => rw [List.map_cons, ih, List.map_cons]

end Sql

/-- The pages of documents. -/
def pagesIn (ds : List Document) : List Page := ds.flatMap Document.pages

/-- The lines of documents. -/
def linesIn (ds : List Document) : List Line := ds.flatMap Document.lines

theorem flatMap_lineRows (ds : List Document) :
  ds.flatMap Document.lineRows = (pagesIn ds).flatMap Page.lineRows
  := List.flatMap_assoc.symm

theorem flatMap_coordinatesRows (ds : List Document) :
  ds.flatMap Document.coordinatesRows = (linesIn ds).map Line.coordinatesRow
  := List.map_flatMap.symm

/-- Documents that may stand together in the tables: files and identifiers are told apart, and no
coordinate is missing. -/
structure Storable (ds : List Document) : Prop where
  files : (ds.map Document.file).Nodup
  documents : (ds.map Document.id).Nodup
  pages : ((pagesIn ds).map Page.id).Nodup
  lines : ((linesIn ds).map Line.id).Nodup
  coordinates : ((linesIn ds).map fun l => l.coordinates.id).Nodup
  full : ∀ l ∈ linesIn ds, hasEmptyCell l.coordinates.corners = false

namespace Storable

variable {ds : List Document}

theorem eq_of_id_eq (h : Storable ds) {d e : Document} (hd : d ∈ ds) (he : e ∈ ds)
    (hid : d.id = e.id) :
  d = e
  := List.inj_on_of_nodup_map h.documents hd he hid

theorem sublist (h : Storable ds) {es : List Document} (hs : es.Sublist ds) :
  Storable es
  := by
  have hpages : (pagesIn es).Sublist (pagesIn ds) := hs.flatMap _
  have hlines : (linesIn es).Sublist (linesIn ds) := hs.flatMap _
  constructor
  · apply h.files.sublist (hs.map _)
  · apply h.documents.sublist (hs.map _)
  · apply h.pages.sublist (hpages.map _)
  · apply h.lines.sublist (hlines.map _)
  · apply h.coordinates.sublist (hlines.map _)
  · intro l hl
    apply h.full l (hlines.subset hl)

theorem page_eq_of_id_eq (h : Storable ds) {p q : Page} (hp : p ∈ pagesIn ds)
    (hq : q ∈ pagesIn ds) (hid : p.id = q.id) :
  p = q
  := List.inj_on_of_nodup_map h.pages hp hq hid

theorem line_eq_of_id_eq (h : Storable ds) {l m : Line} (hl : l ∈ linesIn ds)
    (hm : m ∈ linesIn ds) (hid : l.id = m.id) :
  l = m
  := List.inj_on_of_nodup_map h.lines hl hm hid

end Storable

namespace Sql

namespace Tables

/-- The rows below documents are those of the given documents, in some order. -/
structure RowsBelow (t : Tables) (ds : List Document) : Prop where
  pages : t.pages.Perm (ds.flatMap Document.pageRows)
  lines : t.lines.Perm (ds.flatMap Document.lineRows)
  coordinates : t.coordinates.Perm (ds.flatMap Document.coordinatesRows)

/-- The tables consist of the rows of the given documents, which stand in the order of their
insertion. -/
structure Represents (t : Tables) (ds : List Document) : Prop where
  documents : t.documents = ds.map Document.row
  below : t.RowsBelow ds
  storable : Storable ds

namespace RowsBelow

variable {t : Tables} {ds : List Document}

theorem perm_page_ids (h : t.RowsBelow ds) :
  (t.pages.map PageRow.id).Perm ((pagesIn ds).map Page.id)
  := by
  apply (h.pages.map PageRow.id).trans
  rw [pagesIn, List.map_flatMap, List.map_flatMap]
  simp [Document.pageRows]

theorem perm_line_ids (h : t.RowsBelow ds) :
  (t.lines.map LineRow.id).Perm ((linesIn ds).map Line.id)
  := by
  apply (h.lines.map LineRow.id).trans
  rw [linesIn, List.map_flatMap, List.map_flatMap]
  simp [Document.lineRows, Document.lines, Page.lineRows, List.map_flatMap]

theorem perm_coordinates_ids (h : t.RowsBelow ds) :
  (t.coordinates.map CoordinatesRow.id).Perm ((linesIn ds).map fun l => l.coordinates.id)
  := by
  apply (h.coordinates.map CoordinatesRow.id).trans
  rw [flatMap_coordinatesRows, List.map_map]
  rfl

theorem perm_coordinates_lines (h : t.RowsBelow ds) :
  (t.coordinates.map CoordinatesRow.line).Perm ((linesIn ds).map Line.id)
  := by
  apply (h.coordinates.map CoordinatesRow.line).trans
  rw [flatMap_coordinatesRows, List.map_map]
  rfl

/-- Tables with the rows below storable documents hold each of them. -/
theorem holds (h : t.RowsBelow ds) (hs : Storable ds) {d : Document} (hd : d ∈ ds) :
  t.Holds d
  := by
  constructor
  · intro r
    rw [h.pages.mem_iff, List.mem_flatMap]
    constructor
    · rintro ⟨⟨e, he, hr⟩, hdoc⟩
      obtain ⟨-, -, -, hre, -⟩ := exists_of_mem_pageRows hr
      rw [hs.eq_of_id_eq hd he (hdoc.symm.trans hre)]
      exact hr
    · intro hr
      obtain ⟨-, -, -, hre, -⟩ := exists_of_mem_pageRows hr
      exact ⟨⟨d, hd, hr⟩, hre⟩
  · intro p hp r
    have hp : p ∈ pagesIn ds := List.mem_flatMap.2 ⟨d, hd, hp⟩
    rw [h.lines.mem_iff, flatMap_lineRows, List.mem_flatMap]
    constructor
    · rintro ⟨⟨q, hq, hr⟩, hpage⟩
      obtain ⟨-, -, -, hrq, -⟩ := exists_of_mem_lineRows hr
      rw [hs.page_eq_of_id_eq hp hq (hpage.symm.trans hrq)]
      exact hr
    · intro hr
      obtain ⟨-, -, -, hrp, -⟩ := exists_of_mem_lineRows hr
      exact ⟨⟨p, hp, hr⟩, hrp⟩
  · intro l hl r
    have hl : l ∈ linesIn ds := List.mem_flatMap.2 ⟨d, hd, hl⟩
    rw [h.coordinates.mem_iff, flatMap_coordinatesRows, List.mem_map]
    constructor
    · rintro ⟨⟨m, hm, rfl⟩, hline⟩
      rw [hs.line_eq_of_id_eq hl hm hline.symm]
    · rintro rfl
      exact ⟨⟨l, hl, rfl⟩, rfl⟩

end RowsBelow

/-- The tables with the rows of some documents. -/
def ofDocuments (ds : List Document) : Tables where
  documents := ds.map Document.row
  pages := ds.flatMap Document.pageRows
  lines := ds.flatMap Document.lineRows
  coordinates := ds.flatMap Document.coordinatesRows

theorem represents_ofDocuments {ds : List Document} (h : Storable ds) :
  (ofDocuments ds).Represents ds
  := ⟨rfl, ⟨.refl _, .refl _, .refl _⟩, h⟩

theorem Represents.holds {t : Tables} {ds : List Document} (h : t.Represents ds) {d : Document}
    (hd : d ∈ ds) :
  t.Holds d
  := h.below.holds h.storable hd

end Tables

end Sql

end ScanIndex
