import ScanIndex.Json.Printer
import ScanIndex.Json.Reader
import ScanIndex.Store.Relational

/-!
# Tables as text

The form in which the tables of a store are kept in a file: a heading, and behind it a list of rows
for each table as JSON, each row a list of its cells, and floats as the integers that have the same
bits.
-/

namespace ScanIndex

open Sql

namespace Archive

/-- Write a float. -/
def ofFloat (x : Float) : Json := .ofInt x.toBits.toNat

/-- Write a point. -/
def ofPoint (p : Point) : Json := .array [ofFloat p.x, ofFloat p.y]

/-- Write a row of the table of documents. -/
def ofDocument (r : DocumentRow) : Json :=
  .array [.string r.id, .string r.file.bucket, .string r.file.key]

/-- Write a row of the table of pages. -/
def ofPage (r : PageRow) : Json :=
  .array [.string r.id, .string r.document, .ofInt r.number.toInt, .ofInt r.position]

/-- Write a row of the table of lines. -/
def ofLine (r : LineRow) : Json :=
  .array [.string r.id, .string r.page, .string r.text, .ofInt r.position]

/-- Write a row of the table of coordinates. -/
def ofCoordinates (r : CoordinatesRow) : Json :=
  .array [.string r.id, .string r.line, ofPoint r.corners.topLeft, ofPoint r.corners.topRight,
    ofPoint r.corners.bottomLeft, ofPoint r.corners.bottomRight]

/-- Write the tables. -/
def ofTables (t : Tables) : Json :=
  .array [
    .array (t.documents.map ofDocument),
    .array (t.pages.map ofPage),
    .array (t.lines.map ofLine),
    .array (t.coordinates.map ofCoordinates)]

/-- Write a store; one that has not been set up is null. -/
def ofStore (s : Relational) : Json :=
  match s.tables with
  | none => .null
  | some t => ofTables t

/-- Read a point. -/
def point? : Json → Option Point
  | .array [.number (.int x), .number (.int y)] =>
    some ⟨Float.ofBits (UInt64.ofNat x.toNat), Float.ofBits (UInt64.ofNat y.toNat)⟩
  | _ => none

/-- Read a row of the table of documents. -/
def document? : Json → Option DocumentRow
  | .array [.string id, .string bucket, .string key] => some ⟨id, ⟨bucket, key⟩⟩
  | _ => none

/-- Read a row of the table of pages. -/
def page? : Json → Option PageRow
  | .array [.string id, .string document, .number (.int number), .number (.int position)] =>
    some ⟨id, document, Int64.ofInt number, position.toNat⟩
  | _ => none

/-- Read a row of the table of lines. -/
def line? : Json → Option LineRow
  | .array [.string id, .string page, .string text, .number (.int position)] =>
    some ⟨id, page, text, position.toNat⟩
  | _ => none

/-- Read a row of the table of coordinates. -/
def coordinates? : Json → Option CoordinatesRow
  | .array [.string id, .string line, a, b, c, d] => do
    let a ← point? a
    let b ← point? b
    let c ← point? c
    let d ← point? d
    return ⟨id, line, ⟨a, b, c, d⟩⟩
  | _ => none

/-- Read the tables. -/
def tables? : Json → Option Tables
  | .array [.array documents, .array pages, .array lines, .array coordinates] => do
    let documents ← documents.mapM document?
    let pages ← pages.mapM page?
    let lines ← lines.mapM line?
    let coordinates ← coordinates.mapM coordinates?
    return ⟨documents, pages, lines, coordinates⟩
  | _ => none

/-- Read a store. -/
def store? : Json → Option Relational
  | .null => some .fresh
  | j => (tables? j).map Relational.ofTables

/-- The line that a file of tables begins with. -/
def heading : String := "pagegrep tables\n"

/-- The text of a file of tables. -/
def text (s : Relational) : String := heading ++ (ofStore s).compact

/-- Read the text of a file of tables. -/
def ofText? (text : String) : Option Relational :=
  if heading.toList.isPrefixOf text.toList then
    (Json.parse? (String.ofList (text.toList.drop heading.length))).bind store?
  else none

end Archive

end ScanIndex
