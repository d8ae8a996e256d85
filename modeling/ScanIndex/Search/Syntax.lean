import ScanIndex.Formula
import ScanIndex.Geometry
import ScanIndex.Json.Decode

/-!
# Search requests

A search request is a `SearchTree`: a boolean combination of search terms, each asking for a text on
a page within a rectangle.  In JSON every node is an object with one field: `search` with an object
of the three components of a term, or `and`, `or` or `not` with an array of nodes.
`SearchTree.ofJson` reads a request and checks its structure only, and `SearchTree.toJson` writes
one.
-/

namespace ScanIndex

/-- A rectangle as a caller gives it, with `y` growing upwards: its top left corner and its bottom
right corner. -/
structure Rectangle where
  first : Point
  second : Point
deriving DecidableEq

/-- A text on a page within a rectangle. -/
structure SearchTerm where
  text : String
  pageNumber : Int64
  rectangle : Rectangle
deriving DecidableEq

/-- A boolean combination of search terms. -/
abbrev SearchTree := Formula SearchTerm

/-- How a node of a request misses its shape. -/
inductive ShapeError where
  | nodeKind (kind : String)
  | emptyNode
  | searchKind (kind : String)
  | search (e : DecodeError)
  | listKind (key kind : String)

/-- The part of a request that misses its shape, and how. -/
def ShapeError.message : ShapeError → String
  | nodeKind kind => "query (expected object, got " ++ kind ++ ")"
  | emptyNode => "empty query object"
  | searchKind kind => "search (expected object, got " ++ kind ++ ")"
  | search e => "search: " ++ e.message
  | listKind key kind => key ++ " (expected array, got " ++ kind ++ ")"

/-- Why a search request is refused. -/
inductive QueryError where
  | missingText
  | pageZero
  | bottomCoordZero
  | coordMisplaced
  | tooManyAttrs (count : Nat)
  | keyUnsupported (key : String)
  | typeIncorrect (e : ShapeError)

namespace QueryError

/-- The code of an error. -/
def code : QueryError → String
  | missingText => "MISSING_TEXT"
  | pageZero => "PAGE_ZERO"
  | bottomCoordZero => "BOTTOM_COORD_ZERO"
  | coordMisplaced => "COORD_MISPLACED"
  | tooManyAttrs _ => "TOO_MANY_ATTRS"
  | keyUnsupported _ => "KEY_UNSUPPORTED"
  | typeIncorrect _ => "TYPE_INCORRECT"

/-- The message of an error. -/
def message : QueryError → String
  | missingText => "search text must not be empty"
  | pageZero => "page_number must not be 0"
  | bottomCoordZero => "bottom-right coordinate must not be 0"
  | coordMisplaced =>
    "top-left coordinate must be above and to the left of the bottom-right coordinate"
  | tooManyAttrs n => "query object must have exactly one attribute, found " ++ toString n
  | keyUnsupported key => "unsupported query key: " ++ key
  | typeIncorrect e => "incorrect type for " ++ e.message

end QueryError

namespace Rectangle

/-- The rectangle between two pairs of coordinates. -/
def ofPairs (r : (Float × Float) × (Float × Float)) : Rectangle :=
  ⟨⟨r.1.1, r.1.2⟩, ⟨r.2.1, r.2.2⟩⟩

/-- The rectangle whose coordinates are all zero. -/
def zero : Rectangle := ⟨⟨0, 0⟩, ⟨0, 0⟩⟩

/-- Read a rectangle from an array of two arrays of two numbers. -/
def decoder : Decoder Rectangle := fun j => ofPairs <$> Decoder.pair (Decoder.pair .float) j

/-- Write a rectangle. -/
def toJson (r : Rectangle) : Json :=
  .array [
    .array [.ofFloat r.first.x, .ofFloat r.first.y],
    .array [.ofFloat r.second.x, .ofFloat r.second.y]]

end Rectangle

namespace SearchTerm

/-- The components of a term; those that are left out are empty or zero. -/
def record : Record SearchTerm :=
  (((Record.pure SearchTerm.mk).ap
    (.fieldD "text" .string "")).ap
    (.fieldD "page_number" .int64 0)).ap
    (.fieldD "coordinates" Rectangle.decoder .zero)

/-- Write a term. -/
def toJson (t : SearchTerm) : Json :=
  .object [
    ("coordinates", t.rectangle.toJson),
    ("page_number", .ofInt t.pageNumber.toInt),
    ("text", .string t.text)]

/-- Read a term from the value of the field `search`. -/
def ofJson : Json → Except QueryError SearchTerm
  | .object fields =>
    match record.ofFields fields with
    | .ok t => .ok t
    | .error e => .error (.typeIncorrect (.search e))
  | j => .error (.typeIncorrect (.searchKind j.kind))

end SearchTerm

namespace SearchTree

mutual

/-- Read a request. -/
def ofJson : Json → Except QueryError SearchTree
  | .object [] => .error (.typeIncorrect .emptyNode)
  | .object [("search", j)] => .leaf <$> SearchTerm.ofJson j
  | .object [("and", .array items)] => .and <$> ofItems items
  | .object [("or", .array items)] => .or <$> ofItems items
  | .object [("not", .array items)] => .not <$> ofItems items
  | .object [(key, j)] =>
    if key = "and" ∨ key = "or" ∨ key = "not" then
      .error (.typeIncorrect (.listKind key j.kind))
    else .error (.keyUnsupported key)
  | .object fields => .error (.tooManyAttrs fields.length)
  | j => .error (.typeIncorrect (.nodeKind j.kind))

/-- Read a list of requests from left to right. -/
def ofItems : List Json → Except QueryError (List SearchTree)
  | [] => .ok []
  | j :: js => do
    let t ← ofJson j
    let ts ← ofItems js
    return t :: ts

end

mutual

/-- Write a request. -/
def toJson : SearchTree → Json
  | .leaf t => .object [("search", t.toJson)]
  | .and parts => .object [("and", .array (toItems parts))]
  | .or parts => .object [("or", .array (toItems parts))]
  | .not parts => .object [("not", .array (toItems parts))]

/-- Write a list of requests. -/
def toItems : List SearchTree → List Json
  | [] => []
  | t :: ts => toJson t :: toItems ts

end

end SearchTree

end ScanIndex
