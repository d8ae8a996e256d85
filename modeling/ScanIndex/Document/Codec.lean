import ScanIndex.Document
import ScanIndex.Json.Decode

/-!
# Documents as JSON

The decoder and the encoder of documents and of their parts.  Every part is an object with a field
for each of its components.
-/

namespace ScanIndex

/-- Read a point. -/
def Point.decoder : Decoder Point :=
  Record.decoder "Point"
    (((Record.pure Point.mk).ap (.field "x" .float)).ap (.field "y" .float))

/-- Write a point. -/
def Point.toJson (p : Point) : Json := .object [("x", .ofFloat p.x), ("y", .ofFloat p.y)]

/-- Read the corners of a line with their identifier. -/
def Coordinates.decoder : Decoder Coordinates :=
  Record.decoder "Coordinates"
    ((((((Record.pure fun id tl tr bl br => Coordinates.mk id ⟨tl, tr, bl, br⟩).ap
      (.field "id" .string)).ap
      (.field "top_left" Point.decoder)).ap
      (.field "top_right" Point.decoder)).ap
      (.field "bottom_left" Point.decoder)).ap
      (.field "bottom_right" Point.decoder))

/-- Write the corners of a line with their identifier. -/
def Coordinates.toJson (c : Coordinates) : Json :=
  .object [
    ("bottom_left", c.corners.bottomLeft.toJson),
    ("bottom_right", c.corners.bottomRight.toJson),
    ("id", .string c.id),
    ("top_left", c.corners.topLeft.toJson),
    ("top_right", c.corners.topRight.toJson)]

/-- Read a line. -/
def Line.decoder : Decoder Line :=
  Record.decoder "Line"
    ((((Record.pure Line.mk).ap
      (.field "id" .string)).ap
      (.field "text" .string)).ap
      (.field "coordinates" Coordinates.decoder))

/-- Write a line. -/
def Line.toJson (l : Line) : Json :=
  .object [("coordinates", l.coordinates.toJson), ("id", .string l.id), ("text", .string l.text)]

/-- Read a page. -/
def Page.decoder : Decoder Page :=
  Record.decoder "Page"
    ((((Record.pure Page.mk).ap
      (.field "id" .string)).ap
      (.field "page_number" .int64)).ap
      (.field "lines" (.list Line.decoder)))

/-- Write a page. -/
def Page.toJson (p : Page) : Json :=
  .object [
    ("id", .string p.id),
    ("lines", .array (p.lines.map Line.toJson)),
    ("page_number", .ofInt p.number.toInt)]

/-- Read a document. -/
def Document.decoder : Decoder Document :=
  Record.decoder "Document"
    (((((Record.pure Document.mk).ap
      (.field "id" .string)).ap
      (.field "bucket" .string)).ap
      (.field "key" .string)).ap
      (.field "pages" (.list Page.decoder)))

/-- Write a document. -/
def Document.toJson (d : Document) : Json :=
  .object [
    ("bucket", .string d.bucket),
    ("id", .string d.id),
    ("key", .string d.key),
    ("pages", .array (d.pages.map Page.toJson))]

end ScanIndex
