import ScanIndex.Sql.Depth
import ScanIndex.Sql.Reader
import ScanIndex.Sql.Statement
import ScanIndex.Sql.Tables

/-!
# Evaluating SQL predicates

`Expr.eval` gives the truth value of a predicate on rows of the tables.  A comparison with an empty
cell is neither true nor false, and so are the combinations that hang on it.
-/

namespace ScanIndex.Sql

/-- What a cell holds. -/
inductive Datum where
  /-- An empty cell. -/
  | null
  | text (s : String)
  | int (n : Int64)
  | real (x : Float)

/-- A bound value as the content of a cell; a float that is no number gives an empty cell. -/
def Value.datum : Value → Datum
  | text s => .text s
  | int n => .int n
  | real x => if x.isNaN then .null else .real x

/-- A truth value; the unknown one is `none`. -/
abbrev Truth := Option Bool

namespace Truth

/-- The negation of a truth value. -/
def not (a : Truth) : Truth := a.map Bool.not

/-- The conjunction of two truth values. -/
def and : Truth → Truth → Truth
  | some false, _ => some false
  | _, some false => some false
  | some true, some true => some true
  | _, _ => none

/-- The disjunction of two truth values. -/
def or : Truth → Truth → Truth
  | some true, _ => some true
  | _, some true => some true
  | some false, some false => some false
  | _, _ => none

/-- The truth value is true. -/
def isTrue (a : Truth) : Bool := a = some true

end Truth

/-- The outcome of a comparison of two cells; cells of different kinds are not compared. -/
def Operator.test : Operator → Datum → Datum → Truth
  | eq, .text a, .text b => some (a = b)
  | eq, .int a, .int b => some (a = b)
  | eq, .real a, .real b => some (a == b)
  | le, .text a, .text b => some (a ≤ b)
  | le, .int a, .int b => some (a ≤ b)
  | le, .real a, .real b => some (a ≤ b)
  | ge, .text a, .text b => some (b ≤ a)
  | ge, .int a, .int b => some (b ≤ a)
  | ge, .real a, .real b => some (b ≤ a)
  | _, _, _ => none

/-- The rows that the four aliases stand for. -/
structure Cursor where
  document : DocumentRow
  page : Option PageRow
  line : Option LineRow
  coordinates : Option CoordinatesRow

/-- The content of an optional cell. -/
def cell {α : Type} (f : α → Datum) : Option α → Datum
  | some r => f r
  | none => .null

/-- The content of a column. -/
def Column.datum (k : Cursor) : Column → Datum
  | documentId => .text k.document.id
  | documentBucket => .text k.document.file.bucket
  | documentKey => .text k.document.file.key
  | pageId => cell (fun r => .text r.id) k.page
  | pageDocument => cell (fun r => .text r.document) k.page
  | pageNumber => cell (fun r => .int r.number) k.page
  | lineId => cell (fun r => .text r.id) k.line
  | linePage => cell (fun r => .text r.page) k.line
  | lineText => cell (fun r => .text r.text) k.line
  | coordinatesLine => cell (fun r => .text r.line) k.coordinates
  | corner c a => cell (fun r => .real (a.coordinate (c.point r.corners))) k.coordinates

namespace Expr

/-- The truth value of the membership of a cell in a list of values. -/
def memberOf (d : Datum) : List Value → Truth
  | [] => some false
  | v :: vs => (Operator.eq.test d v.datum).or (memberOf d vs)

mutual

/-- The truth value of a predicate at some rows. -/
def eval (t : Tables) : Expr Value → Cursor → Truth
  | constant b, _ => some b
  | columns a b, k => Operator.eq.test (a.datum k) (b.datum k)
  | compare c o v, k => o.test (c.datum k) v.datum
  | among c vs, k => memberOf (c.datum k) vs
  | existsLine a b w, k =>
    some (t.pages.any fun p => t.lines.any fun l =>
      let k := { k with page := some p, line := some l }
      (eval t a k).isTrue && t.coordinates.any fun c =>
        let k := { k with coordinates := some c }
        (eval t b k).isTrue && (eval t w k).isTrue)
  | not e, k => (eval t e k).not
  | and es, k => evalAnd t es k
  | or es, k => evalOr t es k
  | group e, k => eval t e k

/-- The truth value of the conjunction of a list. -/
def evalAnd (t : Tables) : List (Expr Value) → Cursor → Truth
  | [], _ => some true
  | e :: es, k => (eval t e k).and (evalAnd t es k)

/-- The truth value of the disjunction of a list. -/
def evalOr (t : Tables) : List (Expr Value) → Cursor → Truth
  | [], _ => some false
  | e :: es, k => (eval t e k).or (evalOr t es k)

end

/-- The predicate is true of the row of a document. -/
def selects (t : Tables) (e : Expr Value) (r : DocumentRow) : Bool :=
  (eval t e ⟨r, none, none, none⟩).isTrue

end Expr

/-- The greatest number of values that can be bound in one statement. -/
def maxBinds : Nat := 32766

/-- The rows of the documents that a statement selects for a purpose, in the order of their
insertion; none if the statement cannot be run. -/
def Tables.select? (t : Tables) (p : Purpose) (s : Statement) : Option (List DocumentRow) :=
  if maxBinds < s.binds.length then none
  else
    match Expr.bind? s.clause s.binds with
    | none => none
    | some e => if e.fits p then some (t.documents.filter (e.selects t)) else none

end ScanIndex.Sql
