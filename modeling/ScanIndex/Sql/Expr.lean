import ScanIndex.Filter
import ScanIndex.Sql.Token

/-!
# SQL predicates

An `Expr β` is a predicate on the rows of the tables, with operands from `β` in the places for bound
values.  `Expr.tokens` writes it as a clause in which every operand is a hole, and `Expr.binds`
lists the operands in the order of their holes.
-/

namespace ScanIndex.Sql

/-- A column of one of the four tables, under the alias that the table has in a clause. -/
inductive Column where
  | documentId
  | documentBucket
  | documentKey
  | pageId
  | pageDocument
  | pageNumber
  | lineId
  | linePage
  | lineText
  | coordinatesLine
  | corner (c : Corner) (a : Axis)
deriving DecidableEq

namespace Column

/-- The name of a column in a clause. -/
def name : Column → String
  | documentId => "d.id"
  | documentBucket => "d.bucket"
  | documentKey => "d.object_key"
  | pageId => "p.id"
  | pageDocument => "p.document_id"
  | pageNumber => "p.page_number"
  | lineId => "l.id"
  | linePage => "l.page_id"
  | lineText => "l.text"
  | coordinatesLine => "c.line_id"
  | corner .topLeft .x => "c.top_left_x"
  | corner .topLeft .y => "c.top_left_y"
  | corner .topRight .x => "c.top_right_x"
  | corner .topRight .y => "c.top_right_y"
  | corner .bottomLeft .x => "c.bottom_left_x"
  | corner .bottomLeft .y => "c.bottom_left_y"
  | corner .bottomRight .x => "c.bottom_right_x"
  | corner .bottomRight .y => "c.bottom_right_y"

/-- All columns. -/
def all : List Column := [
  documentId, documentBucket, documentKey, pageId, pageDocument, pageNumber, lineId, linePage,
  lineText, coordinatesLine, corner .topLeft .x, corner .topLeft .y, corner .topRight .x,
  corner .topRight .y, corner .bottomLeft .x, corner .bottomLeft .y, corner .bottomRight .x,
  corner .bottomRight .y]

/-- The column of a given name. -/
def ofName? (s : String) : Option Column := all.find? fun c => c.name = s

@[simp] theorem ofName?_name (c : Column) :
  ofName? c.name = some c
  := by
  cases c with
  | corner c a => cases c <;> cases a <;> decide
  | _ => decide

end Column

/-- A predicate with operands from `β`. -/
inductive Expr (β : Type) where
  | constant (b : Bool)
  /-- Two columns are equal. -/
  | columns (a b : Column)
  /-- A column compared with an operand. -/
  | compare (c : Column) (o : Operator) (v : β)
  /-- A column equals one of the operands. -/
  | among (c : Column) (vs : List β)
  /-- There are a page, a line and coordinates such that the line joins the page under the first
  predicate, the coordinates join the line under the second, and the third holds of them. -/
  | existsLine (onLine onCoordinates where_ : Expr β)
  | not (e : Expr β)
  | and (parts : List (Expr β))
  | or (parts : List (Expr β))
  /-- A predicate in brackets. -/
  | group (e : Expr β)

namespace Expr

variable {β γ : Type}

/-- The tokens of a list of operands. -/
def holeTokens : List β → List Token
  | [] => []
  | [_] => [.hole]
  | _ :: vs => .hole :: .comma :: holeTokens vs

mutual

/-- The tokens of a predicate. -/
def tokens : Expr β → List Token
  | constant b => [.word (if b then "1" else "0")]
  | columns a b => [.word a.name, .operator .eq, .word b.name]
  | compare c o _ => [.word c.name, .operator o, .hole]
  | among c vs => .word c.name :: .word "IN" :: .opening :: (holeTokens vs ++ [.closing])
  | existsLine a b w =>
    [.word "EXISTS", .opening, .word "SELECT", .word "1", .word "FROM", .word "pages", .word "p",
      .word "JOIN", .word "lines", .word "l", .word "ON"] ++ tokens a ++
    [.word "JOIN", .word "coordinates", .word "c", .word "ON"] ++ tokens b ++
    [.word "WHERE"] ++ tokens w ++ [.closing]
  | not e => .word "NOT" :: tokens e
  | and parts => listTokens (.word "AND") parts
  | or parts => listTokens (.word "OR") parts
  | group e => .opening :: (tokens e ++ [.closing])

/-- The tokens of a list of predicates with a word between neighbours. -/
def listTokens (w : Token) : List (Expr β) → List Token
  | [] => []
  | e :: es => tokens e ++ tailTokens w es

/-- The tokens of a list of predicates with a word before each. -/
def tailTokens (w : Token) : List (Expr β) → List Token
  | [] => []
  | e :: es => w :: (tokens e ++ tailTokens w es)

end

mutual

/-- The operands of a predicate in the order of their holes. -/
def binds : Expr β → List β
  | constant _ => []
  | columns _ _ => []
  | compare _ _ v => [v]
  | among _ vs => vs
  | existsLine a b w => binds a ++ binds b ++ binds w
  | not e => binds e
  | and parts => listBinds parts
  | or parts => listBinds parts
  | group e => binds e

/-- The operands of a list of predicates. -/
def listBinds : List (Expr β) → List β
  | [] => []
  | e :: es => binds e ++ listBinds es

end

/-- The operands for a list of holes, taken from the front of a list. -/
def fillHoles : List γ → List β → Option (List β × List β)
  | [], vs => some ([], vs)
  | _ :: _, [] => none
  | _ :: hs, v :: vs => (fillHoles hs vs).map fun (xs, rest) => (v :: xs, rest)

mutual

/-- Replace the operands by values from the front of a list; the rest of the list is returned. -/
def fill : Expr γ → List β → Option (Expr β × List β)
  | constant b, vs => some (constant b, vs)
  | columns a b, vs => some (columns a b, vs)
  | compare _ _ _, [] => none
  | compare c o _, v :: vs => some (compare c o v, vs)
  | among c hs, vs => (fillHoles hs vs).map fun (xs, rest) => (among c xs, rest)
  | existsLine a b w, vs => do
    let (a, vs) ← fill a vs
    let (b, vs) ← fill b vs
    let (w, vs) ← fill w vs
    return (existsLine a b w, vs)
  | not e, vs => (fill e vs).map fun (e, vs) => (not e, vs)
  | and parts, vs => (fillList parts vs).map fun (es, vs) => (and es, vs)
  | or parts, vs => (fillList parts vs).map fun (es, vs) => (or es, vs)
  | group e, vs => (fill e vs).map fun (e, vs) => (group e, vs)

/-- Replace the operands of a list of predicates. -/
def fillList : List (Expr γ) → List β → Option (List (Expr β) × List β)
  | [], vs => some ([], vs)
  | e :: es, vs => do
    let (e, vs) ← fill e vs
    let (es, vs) ← fillList es vs
    return (e :: es, vs)

end

end Expr

end ScanIndex.Sql
