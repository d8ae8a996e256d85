import ScanIndex.Sql.Tables
import ScanIndex.Store.Error

/-!
# Documents from joined rows

`Tables.joined` lists the rows of documents, each with the rows of its pages, lines and coordinates,
in the order of the documents, and below each in the order of the positions.  A document without
pages, a page without lines and a line without coordinates have a row of their own.  `assemble` puts
neighbouring rows of one document, and of one page, together again.
-/

namespace ScanIndex.Sql

/-- A line with its coordinates, if it has them. -/
structure LinePart where
  line : LineRow
  coordinates : Option CoordinatesRow

/-- A page with one of its lines, if it has lines. -/
structure PagePart where
  page : PageRow
  line : Option LinePart

/-- A row of the join of the four tables. -/
structure JoinedRow where
  document : DocumentRow
  page : Option PagePart

/-- The items, or a single gap if there are none. -/
def orGap {α : Type} : List α → List (Option α)
  | [] => [none]
  | xs => xs.map some

namespace Tables

/-- The pages of a document in the order of their positions. -/
def pagesOf (t : Tables) (document : String) : List PageRow :=
  (t.pages.filter fun p => p.document = document).mergeSort fun p q => p.position ≤ q.position

/-- The lines of a page in the order of their positions. -/
def linesOf (t : Tables) (page : String) : List LineRow :=
  (t.lines.filter fun l => l.page = page).mergeSort fun l m => l.position ≤ m.position

/-- A line with its coordinates. -/
def lineParts (t : Tables) (l : LineRow) : List LinePart :=
  (orGap (t.coordinates.filter fun c => c.line = l.id)).map (LinePart.mk l)

/-- A page with its lines. -/
def pageParts (t : Tables) (p : PageRow) : List PagePart :=
  (orGap ((t.linesOf p.id).flatMap t.lineParts)).map (PagePart.mk p)

/-- A document with its pages. -/
def joinedRows (t : Tables) (d : DocumentRow) : List JoinedRow :=
  (orGap ((t.pagesOf d.id).flatMap t.pageParts)).map (JoinedRow.mk d)

/-- The joined rows of documents. -/
def joined (t : Tables) (ds : List DocumentRow) : List JoinedRow := ds.flatMap t.joinedRows

end Tables

/-- The line that a part of a row gives. -/
def LinePart.toLine (l : LinePart) : Except StoreError Line :=
  match l.coordinates with
  | some c => .ok ⟨l.line.id, l.line.text, ⟨c.id, c.corners⟩⟩
  | none => .error (.decode (.readLine l.line.id))

/-- The page that neighbouring rows of one page give. -/
def pageOfParts : List PagePart → Except StoreError (List Page)
  | [] => .ok []
  | p :: ps => do
    let lines ← ((p :: ps).filterMap PagePart.line).mapM LinePart.toLine
    return [⟨p.page.id, p.page.number, lines⟩]

/-- The document that neighbouring rows of one document give. -/
def documentOfRows : List JoinedRow → Except StoreError (List Document)
  | [] => .ok []
  | r :: rs => do
    let parts := (r :: rs).filterMap JoinedRow.page
    let pages ← (parts.splitBy fun p q => p.page.id = q.page.id).mapM pageOfParts
    return [⟨r.document.id, r.document.file.bucket, r.document.file.key, pages.flatten⟩]

/-- The documents that joined rows give. -/
def assemble (rows : List JoinedRow) : Except StoreError (List Document) := do
  let ds ← (rows.splitBy fun r s => r.document.id = s.document.id).mapM documentOfRows
  return ds.flatten

end ScanIndex.Sql
