import ScanIndex.Proofs.FloatOrder
import ScanIndex.Proofs.Sql.Clause
import ScanIndex.Proofs.Store.Layout
import ScanIndex.Sql.Eval

/-!
# The meaning of clauses

The clause of a query, read as SQL with the values of the query in its holes, is true of the row of
a document exactly if the query accepts the document (`clause_selects_iff_accepts`), whatever the
tables hold besides the tree of the document.  No empty cell makes a combination unknown, since
comparisons with bounds stand only below the question whether there is a line.

Only the answers to line filters depend on the rows below a document (`Tables.Answers`), so tables
that have lost the coordinates of some lines answer a query as if the document had no such lines
(`Holds.answers_without`).
-/

namespace ScanIndex

namespace Sql

namespace Truth

@[simp] theorem isTrue_some (b : Bool) :
  isTrue (some b) = b
  := by
  cases b <;> rfl

@[simp] theorem isTrue_and (a b : Truth) :
  (a.and b).isTrue = (a.isTrue && b.isTrue)
  := by
  rcases a with _ | _ | _ <;> rcases b with _ | _ | _ <;> rfl

@[simp] theorem some_and (a b : Bool) :
  Truth.and (some a) (some b) = some (a && b)
  := by
  cases a <;> cases b <;> rfl

@[simp] theorem some_or (a b : Bool) :
  Truth.or (some a) (some b) = some (a || b)
  := by
  cases a <;> cases b <;> rfl

theorem and_true (a : Truth) :
  a.and (some true) = a
  := by
  rcases a with _ | _ | _ <;> rfl

theorem or_false (a : Truth) :
  a.or (some false) = a
  := by
  rcases a with _ | _ | _ <;> rfl

end Truth

namespace Expr

theorem isTrue_evalAnd (t : Tables) (k : Cursor) :
  ∀ es : List (Expr Value), (evalAnd t es k).isTrue = es.all fun e => (eval t e k).isTrue
  | [] => rfl
  | e :: es => by rw [evalAnd, Truth.isTrue_and, isTrue_evalAnd t k es, List.all_cons]

theorem memberOf_texts (s : String) (texts : List String) :
  memberOf (.text s) (texts.map .text) = some (texts.any fun x => x = s)
  := by
  induction texts with
  | nil => rfl
  | cons x texts ih =>
    rw [List.map_cons, memberOf, ih, List.any_cons]
    simp [Value.datum, Operator.test, eq_comm]

theorem eval_inTexts (t : Tables) {c : Column} {k : Cursor} {s : String}
    (hc : c.datum k = .text s) (texts : List String) :
  eval t (inTexts c texts) k = some (texts.any fun x => x = s)
  := by
  cases texts with
  | nil => rfl
  | cons x texts =>
    rw [inTexts, eval, hc, memberOf_texts]
    simp

theorem eval_joined_and (t : Tables) (k : Cursor) (es : List (Expr Value)) :
  eval t (joined true and es) k = evalAnd t es k
  := by
  match es with
  | [] => rfl
  | [e] => rw [joined, eval, evalAnd, evalAnd, Truth.and_true]
  | e :: e' :: es => rfl

theorem eval_joined_or (t : Tables) (k : Cursor) (es : List (Expr Value)) :
  eval t (joined false or es) k = evalOr t es k
  := by
  match es with
  | [] => rfl
  | [e] => rw [joined, eval, evalOr, evalOr, Truth.or_false]
  | e :: e' :: es => rfl

theorem eval_noneOf (t : Tables) (k : Cursor) (es : List (Expr Value)) :
  eval t (noneOf es) k = (evalOr t es k).not
  := by
  match es with
  | [] => rfl
  | e :: es =>
    rw [← eval_joined_or]
    rfl

end Expr

/-! ### Conditions on lines -/

/-- The rows of a line on a page of a document, under the aliases of a clause. -/
def cursorAt (r : DocumentRow) (p : PageRow) (l : LineRow) (c : CoordinatesRow) : Cursor :=
  ⟨r, some p, some l, some c⟩

end Sql

open Sql

/-- The predicate of a bound is true of the corners that satisfy the bound; a bound that is no
number is an empty cell, and the predicate is never true. -/
theorem Bound.isTrue_eval_expr (b : Bound) (t : Tables) (r : DocumentRow) (p : PageRow)
    (l : LineRow) (c : CoordinatesRow) :
  (Expr.eval t b.expr (cursorAt r p l c)).isTrue = b.holds c.corners
  := by
  obtain ⟨corner, axis, comparison, value⟩ := b
  simp only [Bound.expr, Expr.eval, cursorAt, Column.datum, cell, Value.datum, Bound.holds,
    Bound.coordinate]
  by_cases hv : value.isNaN = true
  · rw [if_pos hv]
    cases comparison with
    | le =>
      simp [Comparison.operator, Operator.test, Comparison.holds, not_le_of_isNaN hv, Truth.isTrue]
    | ge =>
      simp [Comparison.operator, Operator.test, Comparison.holds, not_ge_of_isNaN hv, Truth.isTrue]
  · rw [if_neg hv]
    cases comparison with
    | le => simp [Comparison.operator, Operator.test, Comparison.holds]
    | ge => simp [Comparison.operator, Operator.test, Comparison.holds]

/-- A bound does not see the signs of zeros. -/
theorem Bound.holds_plain (b : Bound) (c : Corners) :
  b.holds c.plain = b.holds c
  := by
  obtain ⟨corner, axis, comparison, value⟩ := b
  have hcoordinate : axis.coordinate (corner.point c.plain)
      = plainNumber (axis.coordinate (corner.point c)) := by
    cases corner <;> cases axis <;> rfl
  simp only [holds, coordinate, hcoordinate]
  cases comparison with
  | le => simp [Comparison.holds, plainNumber_le_iff]
  | ge => simp [Comparison.holds, le_plainNumber_iff]

namespace LineFilter

/-- The rows are those of a line of the document that a line filter asks for. -/
def acceptsRows (f : LineFilter) (r : DocumentRow) (p : PageRow) (l : LineRow)
    (c : CoordinatesRow) : Bool :=
  l.page = p.id && (c.line = l.id && (p.document = r.id && (p.number = f.pageNumber
    && (l.text = f.text && f.bounds.all fun b => b.holds c.corners))))

/-- The predicate of a line filter asks for rows of a page, a line and coordinates. -/
theorem eval_expr (f : LineFilter) (t : Tables) (r : DocumentRow) :
  Expr.eval t f.expr ⟨r, none, none, none⟩
    = some (t.pages.any fun p => t.lines.any fun l => t.coordinates.any fun c =>
        f.acceptsRows r p l c)
  := by
  have hbounds (p : PageRow) (l : LineRow) (c : CoordinatesRow) :
      (Expr.evalAnd t (f.bounds.map Bound.expr) (cursorAt r p l c)).isTrue
        = f.bounds.all fun b => b.holds c.corners
    := by
    rw [Expr.isTrue_evalAnd, List.all_map]
    congr 1
    funext b
    apply b.isTrue_eval_expr t r p l c
  simp only [cursorAt] at hbounds
  simp [LineFilter.expr, Expr.eval, Expr.evalAnd, Column.datum, cell, Operator.test, Value.datum,
    hbounds, List.and_any_distrib_left, acceptsRows]

/-- The rows of a document in tables that hold it, but for the coordinates of lost lines, are those
of a line that the filter asks for, for some line of the document that is not lost. -/
theorem any_acceptsRows {t : Tables} {d : Document} (h : t.Holds d) (lost : String → Bool)
    (f : LineFilter) :
  (t.pages.any fun p => t.lines.any fun l => (t.dropCoordinates lost).coordinates.any fun c =>
    f.acceptsRows d.row p l c) = f.accepts (d.without lost)
  := by
  have hplain (l : Line) : (f.bounds.all fun b => b.holds l.coordinatesRow.corners)
      = f.bounds.all fun b => b.holds l.coordinates.corners := by
    simp only [Line.coordinatesRow, Bound.holds_plain]
  rw [Bool.eq_iff_iff]
  simp only [List.any_eq_true, acceptsRows, accepts, acceptsLine, Bool.and_eq_true,
    decide_eq_true_eq, ← hplain, Tables.dropCoordinates, List.mem_filter, Document.without,
    List.mem_map, exists_exists_and_eq_and, Page.without]
  constructor
  · rintro ⟨p, hp, l, hl, c, ⟨hc, hkept⟩, hlp, hcl, hpd, hnumber, htext, hbounds⟩
    obtain ⟨page, hpage, hpid, -, hpnumber⟩ := exists_of_mem_pageRows ((h.pages p).1 ⟨hp, hpd⟩)
    obtain ⟨line, hline, hlid, -, hltext⟩ :=
      exists_of_mem_lineRows ((h.lines hpage l).1 ⟨hl, hlp.trans hpid⟩)
    have hmem : line ∈ d.lines := List.mem_flatMap.2 ⟨page, hpage, hline⟩
    have hrow := (h.coordinates hmem c).1 ⟨hc, hcl.trans hlid⟩
    subst hrow
    use page, hpage, line, ⟨hline, hkept⟩
    exact ⟨⟨hpnumber ▸ hnumber, hltext ▸ htext⟩, hbounds⟩
  · rintro ⟨page, hpage, line, ⟨hline, hkept⟩, ⟨hnumber, htext⟩, hbounds⟩
    obtain ⟨p, hp, hpid, -, hpnumber⟩ := exists_mem_pageRows d.id 0 hpage
    obtain ⟨l, hl, hlid, -, hltext⟩ := exists_mem_lineRows page.id 0 hline
    have hmem : line ∈ d.lines := List.mem_flatMap.2 ⟨page, hpage, hline⟩
    obtain ⟨hp, hpd⟩ := (h.pages p).2 hp
    obtain ⟨hl, hlp⟩ := (h.lines hpage l).2 hl
    obtain ⟨hc, hcl⟩ := (h.coordinates hmem line.coordinatesRow).2 rfl
    use p, hp, l, hl, line.coordinatesRow, ⟨hc, hkept⟩
    exact ⟨hlp.trans hpid.symm, hcl.trans hlid.symm, hpd, hpnumber.trans hnumber,
      hltext.trans htext, hbounds⟩

end LineFilter

namespace Sql.Tables

variable {t : Tables} {d : Document}

/-- At the row of the document, the predicates of line filters have a truth value: whether the
filters accept the document. -/
def Answers (t : Tables) (d : Document) : Prop :=
  ∀ f : LineFilter, Expr.eval t f.expr ⟨d.row, none, none, none⟩ = some (f.accepts d)

/-- Tables that have lost the coordinates of lines of a document answer as if the document had no
such lines. -/
theorem Holds.answers_without (h : t.Holds d) (lost : String → Bool) :
  (t.dropCoordinates lost).Answers (d.without lost)
  := by
  intro f
  rw [LineFilter.eval_expr, Document.row_without, ← LineFilter.any_acceptsRows h lost f]
  rfl

theorem dropCoordinates_none (t : Tables) :
  t.dropCoordinates (fun _ => false) = t
  := by
  simp [dropCoordinates]

theorem Holds.answers (h : t.Holds d) :
  t.Answers d
  := by
  have hnone := h.answers_without fun _ => false
  rw [dropCoordinates_none, Document.without_none] at hnone
  exact hnone

end Sql.Tables

/-! ### Queries -/

theorem FileFilter.eval_expr (f : FileFilter) (t : Tables) (d : Document) :
  Expr.eval t f.expr ⟨d.row, none, none, none⟩ = some (f.accepts d)
  := by
  have hkeys := Expr.eval_inTexts t (c := .documentKey) (k := ⟨d.row, none, none, none⟩) rfl f.keys
  simp only [FileFilter.expr, Expr.eval, Expr.evalAnd, hkeys]
  simp [Column.datum, Operator.test, Value.datum, FileFilter.accepts, Document.row, Document.file]
  rfl

namespace Filter

variable {t : Tables} {d : Document}

mutual

/-- The predicate of a filter has a truth value at the row of a document: whether the filter accepts
the document. -/
theorem eval_expr (h : t.Answers d) :
  ∀ f : Filter, Expr.eval t (expr f) ⟨d.row, none, none, none⟩ = some (f.accepts d)
  | .leaf (.line f) => by
      rw [expr, Condition.expr, h f]
      rfl
  | .leaf (.file f) => f.eval_expr t d
  | .and parts => by
      rw [expr, Expr.eval_joined_and, evalAnd_exprs h parts]
      rfl
  | .or parts => by
      rw [expr, Expr.eval_joined_or, evalOr_exprs h parts]
      rfl
  | .not parts => by
      rw [expr, Expr.eval_noneOf, evalOr_exprs h parts]
      rfl

theorem evalAnd_exprs (h : t.Answers d) :
  ∀ fs : List Filter, Expr.evalAnd t (exprs fs) ⟨d.row, none, none, none⟩
    = some (Formula.allHold (Condition.accepts d) fs)
  | [] => rfl
  | f :: fs => by
      rw [exprs, Expr.evalAnd, eval_expr h f, evalAnd_exprs h fs, Truth.some_and]
      rfl

theorem evalOr_exprs (h : t.Answers d) :
  ∀ fs : List Filter, Expr.evalOr t (exprs fs) ⟨d.row, none, none, none⟩
    = some (Formula.anyHolds (Condition.accepts d) fs)
  | [] => rfl
  | f :: fs => by
      rw [exprs, Expr.evalOr, eval_expr h f, evalOr_exprs h fs, Truth.some_or]
      rfl

end

end Filter

/-- The predicate of a query is true of the row of a document exactly if the query accepts the
document. -/
theorem Query.selects_expr_of_answers {t : Tables} {d : Document} (h : t.Answers d) (q : Query) :
  q.expr.selects t d.row = q.accepts d
  := by
  rw [Expr.selects, Query.expr]
  split
  next hscope =>
    rw [Filter.eval_expr h, Truth.isTrue_some, Query.accepts, Query.inScope, hscope]
    rfl
  next buckets hscope =>
    have hin :=
      Expr.eval_inTexts t (c := .documentBucket) (k := ⟨d.row, none, none, none⟩) rfl buckets
    rw [Expr.eval, Expr.isTrue_evalAnd]
    simp only [List.all_cons, List.all_nil, Expr.eval, Filter.eval_expr h, hin, Truth.isTrue_some,
      Query.accepts, Query.inScope, hscope, Bool.and_true]
    rw [Bool.and_comm]
    rfl

theorem Query.selects_expr {t : Tables} {d : Document} (h : t.Holds d) (q : Query) :
  q.expr.selects t d.row = q.accepts d
  := q.selects_expr_of_answers h.answers

/-- The clause of a query is one predicate, alone and in the text of every statement, with a hole
for each operand.  With the operands in its holes, it is true of the row of a document exactly if
the query accepts the document. -/
theorem Query.clause_selects_iff_accepts (q : Query) :
  ∃ e, Expr.bind? q.statement.clause q.statement.binds = some e
    ∧ (∀ p : Purpose, p.predicate? (p.text q.statement.clause) = some e.shape)
    ∧ q.statement.clause.toList.count '?' = q.statement.binds.length
    ∧ ∀ (t : Tables) (d : Document), t.Holds d → e.selects t d.row = q.accepts d
  := by
  have h := q.grammatical_expr
  use q.expr, h.bind?_statement, h.predicate?_text, Expr.count_clause q.expr
  intro t d ht
  apply Query.selects_expr ht q

/-- A denied condition on a line with a bound that is no number selects a document with such
a line. -/
theorem Query.clause_selects_iff_accepts_nan :
  ∃ (q : Query) (e : Expr Value) (t : Tables) (d : Document),
    q.filter = .not [.leaf (.line ⟨1, "total", [⟨.topLeft, .x, .ge, 0 / 0⟩]⟩), .or []]
      ∧ q.scope = some ["b", "b"] ∧ t.Holds d
      ∧ Expr.bind? q.statement.clause q.statement.binds = some e ∧ e.selects t d.row = true
  := by
  let q : Query := ⟨.not [.leaf (.line ⟨1, "total", [⟨.topLeft, .x, .ge, 0 / 0⟩]⟩), .or []],
    some ["b", "b"]⟩
  let d : Document := ⟨"d", "b", "p.jpg",
    [⟨"p", 1, [⟨"l", "total", ⟨"c", .ofEdges 0 0 1 1⟩⟩]⟩]⟩
  have hd : Storable [d] := by constructor <;> decide +kernel
  have ht : (Tables.ofDocuments [d]).Holds d :=
    (Tables.represents_ofDocuments hd).holds List.mem_cons_self
  have hq : q.accepts d = true := by decide +kernel
  obtain ⟨e, he, -, -, hselects⟩ := q.clause_selects_iff_accepts
  use q, e, Tables.ofDocuments [d], d, rfl, rfl, ht, he
  apply (hselects _ d ht).trans hq

end ScanIndex
