import ScanIndex.Document

/-!
# The four tables

The rows of the tables of documents, pages, lines and coordinates.  A row refers to its parent by
the identifier of the parent, and `position` counts the rows below one parent.  The insertions
refuse a row that would break a rule of its table: identifiers are unique in every table, a file has
one document, a line has one row of coordinates, and no coordinate is empty.  Removing a document
removes all rows below it.
-/

namespace ScanIndex.Sql

/-- A row of the table of documents. -/
structure DocumentRow where
  id : String
  file : File
deriving DecidableEq

/-- A row of the table of pages. -/
structure PageRow where
  id : String
  document : String
  number : Int64
  position : Nat
deriving DecidableEq

/-- A row of the table of lines. -/
structure LineRow where
  id : String
  page : String
  text : String
  position : Nat
deriving DecidableEq

/-- A row of the table of coordinates. -/
structure CoordinatesRow where
  id : String
  line : String
  corners : Corners
deriving DecidableEq

/-- The tables; the rows of each are listed in the order of their insertion. -/
structure Tables where
  documents : List DocumentRow
  pages : List PageRow
  lines : List LineRow
  coordinates : List CoordinatesRow
deriving DecidableEq

/-- Some coordinate of the corners is no number, and would be stored as an empty cell. -/
def hasEmptyCell (c : Corners) : Bool :=
  [c.topLeft, c.topRight, c.bottomLeft, c.bottomRight].any fun p => p.x.isNaN || p.y.isNaN

namespace Tables

/-- The tables without rows. -/
def empty : Tables := ⟨[], [], [], []⟩

/-- The row of the document of a file. -/
def documentOf? (t : Tables) (f : File) : Option DocumentRow :=
  t.documents.find? fun r => r.file = f

/-- Insert a document, unless there is one of its file; the identifier must be free. -/
def insertDocument (r : DocumentRow) (t : Tables) : Option Tables :=
  if t.documents.any fun s => s.file = r.file then some t
  else if t.documents.any fun s => s.id = r.id then none
  else some { t with documents := t.documents ++ [r] }

/-- Insert a page; the identifier must be free. -/
def insertPage (r : PageRow) (t : Tables) : Option Tables :=
  if t.pages.any fun s => s.id = r.id then none
  else some { t with pages := t.pages ++ [r] }

/-- Insert a line; the identifier must be free. -/
def insertLine (r : LineRow) (t : Tables) : Option Tables :=
  if t.lines.any fun s => s.id = r.id then none
  else some { t with lines := t.lines ++ [r] }

/-- Insert coordinates; the identifier must be free, the line must have no coordinates yet, and no
cell may be empty.  A cell does not keep the sign of a zero. -/
def insertCoordinates (r : CoordinatesRow) (t : Tables) : Option Tables :=
  if t.coordinates.any fun s => s.id = r.id || s.line = r.line then none
  else if hasEmptyCell r.corners then none
  else some { t with coordinates := t.coordinates ++ [{ r with corners := r.corners.plain }] }

/-- Insert the lines of a page, the first of them at the given position. -/
def insertLines (page : String) : (position : Nat) → List Line → Tables → Option Tables
  | _, [], t => some t
  | n, l :: ls, t => do
    let t ← t.insertLine ⟨l.id, page, l.text, n⟩
    let t ← t.insertCoordinates ⟨l.coordinates.id, l.id, l.coordinates.corners⟩
    insertLines page (n + 1) ls t

/-- Insert the pages of a document, the first of them at the given position. -/
def insertPages (document : String) : (position : Nat) → List Page → Tables → Option Tables
  | _, [], t => some t
  | n, p :: ps, t => do
    let t ← t.insertPage ⟨p.id, document, p.number, n⟩
    let t ← insertLines p.id 0 p.lines t
    insertPages document (n + 1) ps t

/-- Remove the coordinates of the lines that satisfy `p`. -/
def dropCoordinates (p : String → Bool) (t : Tables) : Tables :=
  { t with coordinates := t.coordinates.filter fun r => !p r.line }

/-- Remove the lines of the pages that satisfy `p`, with their coordinates. -/
def dropLines (p : String → Bool) (t : Tables) : Tables :=
  let gone := t.lines.filter fun r => p r.page
  { t.dropCoordinates (fun id => gone.any fun r => r.id = id) with
    lines := t.lines.filter fun r => !p r.page }

/-- Remove the pages of the documents that satisfy `p`, with their lines. -/
def dropPages (p : String → Bool) (t : Tables) : Tables :=
  let gone := t.pages.filter fun r => p r.document
  { t.dropLines (fun id => gone.any fun r => r.id = id) with
    pages := t.pages.filter fun r => !p r.document }

/-- Remove the documents whose identifiers satisfy `p`, with their pages. -/
def dropDocuments (p : String → Bool) (t : Tables) : Tables :=
  let gone := t.documents.filter fun r => p r.id
  { t.dropPages (fun id => gone.any fun r => r.id = id) with
    documents := t.documents.filter fun r => !p r.id }

end Tables

end ScanIndex.Sql
