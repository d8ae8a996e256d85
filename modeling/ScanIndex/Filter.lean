import ScanIndex.Document
import ScanIndex.Formula

/-!
# Filters and queries

A `Filter` is a boolean combination of conditions on documents: a `LineFilter` asks for a line on a
page of a given number, with a given text, whose corners satisfy bounds; a `FileFilter` asks for one
of several files of a bucket.  A `Query` is a filter together with the buckets it is confined to.
`Query.accepts` decides whether a document belongs to the answer.
-/

namespace ScanIndex

/-- One of the four corners of a line. -/
inductive Corner where
  | topLeft
  | topRight
  | bottomLeft
  | bottomRight
deriving DecidableEq

namespace Corner

/-- The name of a corner. -/
def name : Corner → String
  | topLeft => "top_left"
  | topRight => "top_right"
  | bottomLeft => "bottom_left"
  | bottomRight => "bottom_right"

/-- The point at a corner. -/
def point (c : Corners) : Corner → Point
  | topLeft => c.topLeft
  | topRight => c.topRight
  | bottomLeft => c.bottomLeft
  | bottomRight => c.bottomRight

end Corner

/-- One of the two axes. -/
inductive Axis where
  | x
  | y
deriving DecidableEq

namespace Axis

/-- The name of an axis. -/
def name : Axis → String
  | x => "x"
  | y => "y"

/-- The coordinate of a point on an axis. -/
def coordinate (p : Point) : Axis → Float
  | x => p.x
  | y => p.y

end Axis

/-- A comparison of a coordinate with a constant. -/
inductive Comparison where
  | le
  | ge
deriving DecidableEq

namespace Comparison

/-- The sign of a comparison. -/
def sign : Comparison → String
  | le => "<="
  | ge => ">="

/-- The comparison holds; it does not if either side is no number. -/
def holds (coordinate value : Float) : Comparison → Bool
  | le => coordinate ≤ value
  | ge => value ≤ coordinate

end Comparison

/-- A bound on one coordinate of one corner. -/
structure Bound where
  corner : Corner
  axis : Axis
  comparison : Comparison
  value : Float

namespace Bound

/-- The name of the coordinate that a bound is about. -/
def column (b : Bound) : String := b.corner.name ++ "_" ++ b.axis.name

/-- The coordinate that a bound is about. -/
def coordinate (b : Bound) (c : Corners) : Float := b.axis.coordinate (b.corner.point c)

/-- The corners satisfy the bound. -/
def holds (b : Bound) (c : Corners) : Bool := b.comparison.holds (b.coordinate c) b.value

end Bound

/-- Some line on a page of the given number has the given text and satisfies the bounds. -/
structure LineFilter where
  pageNumber : Int64
  text : String
  bounds : List Bound

namespace LineFilter

/-- The line on the page is one that the filter asks for. -/
def acceptsLine (f : LineFilter) (p : Page) (l : Line) : Bool :=
  p.number = f.pageNumber && l.text = f.text
    && f.bounds.all fun b => b.holds l.coordinates.corners

/-- The document has a line that the filter asks for. -/
def accepts (f : LineFilter) (d : Document) : Bool :=
  d.pages.any fun p => p.lines.any fun l => f.acceptsLine p l

end LineFilter

/-- The document is made from one of the keys of the bucket. -/
structure FileFilter where
  bucket : String
  keys : List String

/-- The document is one of those that the filter asks for. -/
def FileFilter.accepts (f : FileFilter) (d : Document) : Bool :=
  d.bucket = f.bucket && f.keys.any fun k => k = d.key

/-- A condition on a document. -/
inductive Condition where
  | line (f : LineFilter)
  | file (f : FileFilter)

/-- The document satisfies the condition. -/
def Condition.accepts (d : Document) : Condition → Bool
  | line f => f.accepts d
  | file f => f.accepts d

/-- A boolean combination of conditions. -/
abbrev Filter := Formula Condition

/-- The document satisfies the filter. -/
def Filter.accepts (f : Filter) (d : Document) : Bool := f.holds (Condition.accepts d)

/-- A filter, and the buckets that it is confined to, if it is confined. -/
structure Query where
  filter : Filter
  scope : Option (List String)

namespace Query

/-- The query for the documents of some keys of a bucket. -/
def ofFiles (bucket : String) (keys : List String) : Query :=
  ⟨.leaf (.file ⟨bucket, keys⟩), none⟩

/-- The document is in a bucket that the query is confined to. -/
def inScope (q : Query) (d : Document) : Bool :=
  match q.scope with
  | none => true
  | some buckets => buckets.any fun b => b = d.bucket

/-- The document belongs to the answer of the query. -/
def accepts (q : Query) (d : Document) : Bool := q.inScope d && q.filter.accepts d

end Query

end ScanIndex
