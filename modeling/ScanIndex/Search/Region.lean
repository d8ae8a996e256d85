import ScanIndex.Filter
import ScanIndex.Search.Syntax

/-!
# From search requests to filters

A rectangle of a caller has `y` growing upwards, and corners of lines have it growing downwards.
`Rectangle.region` brings a rectangle into the frame of the lines, whichever of its `y` comes first.
`SearchTerm.validate` checks a term, and `SearchTree.compile` turns a request into the filter for
the lines whose boxes meet the regions of its terms.
-/

namespace ScanIndex

/-- A rectangle in the frame of the lines, with `y` growing downwards. -/
structure Region where
  left : Float
  top : Float
  right : Float
  bottom : Float
deriving DecidableEq

/-- The region that a rectangle covers. -/
def Rectangle.region (r : Rectangle) : Region where
  left := r.first.x
  top := lesser r.first.y r.second.y
  right := r.second.x
  bottom := greater r.first.y r.second.y

namespace Region

/-- The region has its edges in order. -/
def isProper (r : Region) : Bool := r.left < r.right && r.top < r.bottom

/-- The bounds on the corners of a line that say that its box meets the region. -/
def bounds (r : Region) : List Bound := [
  ⟨.bottomRight, .x, .ge, r.left⟩,
  ⟨.topLeft, .x, .le, r.right⟩,
  ⟨.bottomLeft, .y, .ge, r.top⟩,
  ⟨.topRight, .y, .le, r.bottom⟩]

end Region

namespace SearchTerm

/-- Check a term; its region, or the first of the errors that it has. -/
def validate (t : SearchTerm) : Except QueryError Region :=
  let region := t.rectangle.region
  if t.text = "" then .error .missingText
  else if t.pageNumber = 0 then .error .pageZero
  else if region.right == 0 || region.bottom == 0 then .error .bottomCoordZero
  else if region.isProper then .ok region
  else .error .coordMisplaced

/-- The condition that a term stands for. -/
def compile (t : SearchTerm) : Except QueryError Condition :=
  t.validate.map fun region => .line ⟨t.pageNumber, t.text, region.bounds⟩

end SearchTerm

/-- The filter that a request stands for. -/
def SearchTree.compile (t : SearchTree) : Except QueryError Filter :=
  Formula.traverse SearchTerm.compile t

/-- Read a request and turn it into a filter. -/
def Filter.ofJson (j : Json) : Except QueryError Filter := do
  let t ← SearchTree.ofJson j
  SearchTree.compile t

end ScanIndex
