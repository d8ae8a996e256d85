import ScanIndex.Sql.Expr

/-!
# Queries as SQL

`Query.expr` writes a query as a predicate on a row of the documents, and `Query.statement` is its
clause together with the values to bind.  No value of a query stands in the clause itself.
-/

namespace ScanIndex

namespace Sql

/-- A value to bind. -/
inductive Value where
  | text (s : String)
  | int (n : Int64)
  | real (x : Float)

/-- A clause and the values for its holes, in their order. -/
structure Statement where
  clause : String
  binds : List Value

/-- The statement of a predicate. -/
def Expr.statement (e : Expr Value) : Statement := ⟨Token.render e.tokens, e.binds⟩

/-- The text of a list of `n` holes. -/
def placeholders (n : Nat) : String := Token.render (Expr.holeTokens (List.replicate n ()))

namespace Expr

/-- The column holds one of the texts. -/
def inTexts (c : Column) : List String → Expr Value
  | [] => constant false
  | texts => among c (texts.map .text)

/-- Predicates joined in brackets; an empty list is the given constant. -/
def joined (identity : Bool) (join : List (Expr Value) → Expr Value) :
    List (Expr Value) → Expr Value
  | [] => constant identity
  | [e] => group e
  | es => group (join es)

/-- No predicate of the list holds. -/
def noneOf : List (Expr Value) → Expr Value
  | [] => constant true
  | es => not (joined false or es)

end Expr

end Sql

open Sql

/-- The operator of a comparison. -/
def Comparison.operator : Comparison → Operator
  | le => .le
  | ge => .ge

/-- A bound on a coordinate as a predicate. -/
def Bound.expr (b : Bound) : Expr Value :=
  .compare (.corner b.corner b.axis) b.comparison.operator (.real b.value)

/-- A line filter as a predicate. -/
def LineFilter.expr (f : LineFilter) : Expr Value :=
  .existsLine (.columns .linePage .pageId) (.columns .coordinatesLine .lineId)
    (.and (.columns .pageDocument .documentId
      :: .compare .pageNumber .eq (.int f.pageNumber)
      :: .compare .lineText .eq (.text f.text)
      :: f.bounds.map Bound.expr))

/-- A file filter as a predicate. -/
def FileFilter.expr (f : FileFilter) : Expr Value :=
  .group (.and [
    .compare .documentBucket .eq (.text f.bucket),
    Expr.inTexts .documentKey f.keys])

/-- A condition as a predicate. -/
def Condition.expr : Condition → Expr Value
  | line f => f.expr
  | file f => f.expr

namespace Filter

mutual

/-- A filter as a predicate. -/
def expr : Filter → Expr Value
  | .leaf c => c.expr
  | .and parts => Expr.joined true .and (exprs parts)
  | .or parts => Expr.joined false .or (exprs parts)
  | .not parts => Expr.noneOf (exprs parts)

/-- The predicates of a list of filters. -/
def exprs : List Filter → List (Expr Value)
  | [] => []
  | f :: fs => expr f :: exprs fs

end

end Filter

namespace Query

/-- A query as a predicate. -/
def expr (q : Query) : Expr Value :=
  match q.scope with
  | none => q.filter.expr
  | some buckets =>
    .and [.group q.filter.expr, .group (Expr.inTexts .documentBucket buckets)]

/-- The clause and the values of a query. -/
def statement (q : Query) : Statement := q.expr.statement

end Query

end ScanIndex
