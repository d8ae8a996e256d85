import ScanIndex.Proofs.Formula
import ScanIndex.Proofs.Sql.Clause

/-!
# Queries of one shape

The clause of a predicate depends only on the shape of the predicate (`Expr.clause_eq_of_shape_eq`),
and the shape of the predicate of a query only on the shape of the query (`Query.shape_expr_eq`): on
how its conditions are combined, on the lengths of its lists, and on what its bounds compare.  So no
value of a query has an effect on the clause.  The values are bound, in the order in which they
stand in the query (`Query.clause_free_of_values`).
-/

namespace ScanIndex

open Sql

/-! ### Shapes and values -/

/-- What a bound compares, and how, but not with which number. -/
def Bound.kind (b : Bound) : Corner × Axis × Comparison := (b.corner, b.axis, b.comparison)

/-- The conditions ask for the same, but with other values. -/
inductive Condition.SameShape : Condition → Condition → Prop where
  | line {f g : LineFilter} (h : f.bounds.map Bound.kind = g.bounds.map Bound.kind) :
    SameShape (.line f) (.line g)
  | file {f g : FileFilter} (h : f.keys.length = g.keys.length) : SameShape (.file f) (.file g)

/-- The queries combine conditions of the same shape in the same way, and both are confined to
equally many buckets, or neither is confined. -/
structure Query.SameShape (q q' : Query) : Prop where
  filter : Formula.Related Condition.SameShape q.filter q'.filter
  scope : q.scope.map List.length = q'.scope.map List.length

/-- The values of a condition from left to right. -/
def Condition.values : Condition → List Value
  | line f => .int f.pageNumber :: .text f.text :: f.bounds.map fun b => .real b.value
  | file f => .text f.bucket :: f.keys.map .text

/-- The values of a query: those of its conditions from left to right, then the buckets that it is
confined to. -/
def Query.values (q : Query) : List Value :=
  q.filter.leaves.flatMap Condition.values ++ (q.scope.getD []).map .text

namespace Sql.Expr

variable {β : Type}

/-! ### Clauses -/

theorem holeTokens_map {γ : Type} (f : β → γ) (vs : List β) :
  holeTokens (vs.map f) = holeTokens vs
  := by
  fun_induction holeTokens vs with
  | case1 => rfl
  | case2 v => rfl
  | case3 v vs hne ih =>
    cases vs with
    | nil => exact absurd rfl hne
    | cons w vs =>
      rw [← ih]
      rfl

mutual

/-- Without its operands, a predicate has the same tokens. -/
theorem tokens_shape :
  ∀ e : Expr β, tokens (shape e) = tokens e
  | constant _ => rfl
  | columns _ _ => rfl
  | compare _ _ _ => rfl
  | among c vs => by rw [shape, tokens, tokens, holeTokens_map]
  | existsLine a b w => by
      rw [shape, tokens, tokens, tokens_shape a, tokens_shape b, tokens_shape w]
  | not e => by rw [shape, tokens, tokens, tokens_shape e]
  | and parts => by rw [shape, tokens, tokens, listTokens_shapes]
  | or parts => by rw [shape, tokens, tokens, listTokens_shapes]
  | group e => by rw [shape, tokens, tokens, tokens_shape e]

theorem listTokens_shapes (w : Token) :
  ∀ es : List (Expr β), listTokens w (shapes es) = listTokens w es
  | [] => rfl
  | e :: es => by rw [shapes, listTokens, listTokens, tokens_shape e, tailTokens_shapes w es]

theorem tailTokens_shapes (w : Token) :
  ∀ es : List (Expr β), tailTokens w (shapes es) = tailTokens w es
  | [] => rfl
  | e :: es => by rw [shapes, tailTokens, tailTokens, tokens_shape e, tailTokens_shapes w es]

end

/-- The operands of a predicate have no effect on its clause. -/
theorem clause_eq_of_shape_eq {e e' : Expr Value} (h : shape e = shape e') :
  e.statement.clause = e'.statement.clause
  := by
  rw [statement, statement, ← tokens_shape e, h, tokens_shape e']

/-- A predicate has as many operands as its shape has holes. -/
theorem length_binds_shape (e : Expr β) :
  (binds (shape e)).length = (binds e).length
  := by
  rw [← count_tokens, tokens_shape, count_tokens]

/-! ### Combinations -/

theorem shape_inTexts_eq (c : Column) {texts texts' : List String}
    (h : texts.length = texts'.length) :
  shape (inTexts c texts) = shape (inTexts c texts')
  := by
  cases texts with
  | nil =>
    rw [List.length_nil, eq_comm, List.length_eq_zero_iff] at h
    rw [h]
  | cons s texts =>
    cases texts' with
    | nil => cases h
    | cons s' texts' =>
      simp only [inTexts, shape, List.map_const', List.length_map, h]

theorem binds_inTexts (c : Column) (texts : List String) :
  binds (inTexts c texts) = texts.map .text
  := by
  cases texts <;> rfl

theorem shapes_eq_map (es : List (Expr β)) :
  shapes es = es.map shape
  := by
  induction es with
  | nil => rfl
  | cons e es ih => rw [shapes, ih, List.map_cons]

/-- Joined predicates have the shape of any others of the same shapes that are joined in the same
way. -/
theorem shape_joined_eq {join : List (Expr Value) → Expr Value}
    (hjoin : ∀ es es', shapes es = shapes es' → shape (join es) = shape (join es'))
    (identity : Bool) {es es' : List (Expr Value)} (h : shapes es = shapes es') :
  shape (joined identity join es) = shape (joined identity join es')
  := by
  have hmap := h
  rw [shapes_eq_map, shapes_eq_map] at hmap
  rcases es with _ | ⟨e, _ | ⟨f, es⟩⟩
  · rw [List.map_nil, eq_comm, List.map_eq_nil_iff] at hmap
    rw [hmap]
  · obtain ⟨e', rfl, he⟩ := List.map_eq_singleton_iff.1 hmap.symm
    exact congrArg group he.symm
  · obtain ⟨e', rest, rfl, -, hrest⟩ := List.map_eq_cons_iff.1 hmap.symm
    obtain ⟨f', es', rfl, -, -⟩ := List.map_eq_cons_iff.1 hrest
    exact congrArg group (hjoin _ _ h)

theorem shape_and_eq (es es' : List (Expr Value)) (h : shapes es = shapes es') :
  shape (and es) = shape (and es')
  := congrArg and h

theorem shape_or_eq (es es' : List (Expr Value)) (h : shapes es = shapes es') :
  shape (or es) = shape (or es')
  := congrArg or h

theorem shape_noneOf_eq {es es' : List (Expr Value)} (h : shapes es = shapes es') :
  shape (noneOf es) = shape (noneOf es')
  := by
  cases es with
  | nil =>
    rw [shapes_eq_map, shapes_eq_map, List.map_nil, eq_comm, List.map_eq_nil_iff] at h
    rw [h]
  | cons e es =>
    cases es' with
    | nil =>
      rw [shapes_eq_map, shapes_eq_map, List.map_nil, List.map_eq_nil_iff] at h
      cases h
    | cons e' es' => exact congrArg not (shape_joined_eq shape_or_eq false h)

theorem binds_joined {join : List (Expr Value) → Expr Value}
    (hjoin : ∀ es, binds (join es) = listBinds es) (identity : Bool) (es : List (Expr Value)) :
  binds (joined identity join es) = listBinds es
  := by
  rcases es with _ | ⟨e, _ | ⟨f, es⟩⟩
  · rfl
  · exact (List.append_nil _).symm
  · exact hjoin _

theorem binds_noneOf (es : List (Expr Value)) :
  binds (noneOf es) = listBinds es
  := by
  cases es with
  | nil => rfl
  | cons e es => exact binds_joined (fun _ => rfl) false _

end Sql.Expr

/-! ### Queries -/

theorem Bound.shapes_map_expr (bs : List Bound) :
  Expr.shapes (bs.map expr)
    = (bs.map kind).map fun k => .compare (.corner k.1 k.2.1) k.2.2.operator ()
  := by
  rw [Expr.shapes_eq_map, List.map_map, List.map_map]
  rfl

theorem Bound.listBinds_map_expr (bs : List Bound) :
  Expr.listBinds (bs.map expr) = bs.map fun b => .real b.value
  := by
  induction bs with
  | nil => rfl
  | cons b bs ih =>
    rw [List.map_cons, Expr.listBinds, ih]
    rfl

theorem Condition.SameShape.shape_expr_eq {c c' : Condition} (h : SameShape c c') :
  c.expr.shape = c'.expr.shape
  := by
  cases h with
  | line h => simp only [expr, LineFilter.expr, Expr.shape, Expr.shapes, Bound.shapes_map_expr, h]
  | file h =>
    have hkeys := Expr.shape_inTexts_eq .documentKey h
    simp only [expr, FileFilter.expr, Expr.shape, Expr.shapes, hkeys]

theorem Condition.binds_expr (c : Condition) :
  c.expr.binds = c.values
  := by
  cases c with
  | line f =>
    simp [expr, LineFilter.expr, Expr.binds, Expr.listBinds, Bound.listBinds_map_expr, values]
  | file f => simp [expr, FileFilter.expr, Expr.binds, Expr.listBinds, Expr.binds_inTexts, values]

namespace Filter

mutual

/-- Filters that combine conditions of the same shape in the same way have predicates of the same
shape. -/
theorem shape_expr_eq :
  ∀ {f g : Filter}, Formula.Related Condition.SameShape f g → (expr f).shape = (expr g).shape
  | _, _, .leaf h => h.shape_expr_eq
  | _, _, .and h => Expr.shape_joined_eq Expr.shape_and_eq true (shapes_exprs_eq h)
  | _, _, .or h => Expr.shape_joined_eq Expr.shape_or_eq false (shapes_exprs_eq h)
  | _, _, .not h => Expr.shape_noneOf_eq (shapes_exprs_eq h)

theorem shapes_exprs_eq :
  ∀ {fs gs : List Filter}, Formula.RelatedLists Condition.SameShape fs gs →
    Expr.shapes (exprs fs) = Expr.shapes (exprs gs)
  | _, _, .nil => rfl
  | _, _, .cons h hs => by
      rw [exprs, exprs, Expr.shapes, Expr.shapes, shape_expr_eq h, shapes_exprs_eq hs]

end

mutual

/-- The operands of the predicate of a filter are the values of its conditions, from left
to right. -/
theorem binds_expr :
  ∀ f : Filter, (expr f).binds = f.leaves.flatMap Condition.values
  | .leaf c => by
      rw [expr, Condition.binds_expr, Formula.leaves, List.flatMap_singleton]
  | .and parts => (Expr.binds_joined (fun _ => rfl) true _).trans (listBinds_exprs parts)
  | .or parts => (Expr.binds_joined (fun _ => rfl) false _).trans (listBinds_exprs parts)
  | .not parts => (Expr.binds_noneOf _).trans (listBinds_exprs parts)

theorem listBinds_exprs :
  ∀ fs : List Filter, Expr.listBinds (exprs fs) = (Formula.leavesOfList fs).flatMap Condition.values
  | [] => rfl
  | f :: fs => by
      rw [exprs, Expr.listBinds, binds_expr f, listBinds_exprs fs, Formula.leavesOfList,
        List.flatMap_append]

end

end Filter

namespace Query

/-- Queries of the same shape have predicates of the same shape. -/
theorem SameShape.shape_expr_eq {q q' : Query} (h : SameShape q q') :
  q.expr.shape = q'.expr.shape
  := by
  obtain ⟨filter, scope⟩ := q
  obtain ⟨filter', scope'⟩ := q'
  obtain ⟨hfilter, hscope⟩ := h
  have hfilter := Filter.shape_expr_eq hfilter
  cases scope with
  | none =>
    cases scope' with
    | none => exact hfilter
    | some buckets' => cases hscope
  | some buckets =>
    cases scope' with
    | none => cases hscope
    | some buckets' =>
      have hbuckets := Expr.shape_inTexts_eq .documentBucket (Option.some.inj hscope)
      simp only [expr, Expr.shape, Expr.shapes, hfilter, hbuckets]

/-- The operands of the predicate of a query are its values. -/
theorem binds_expr (q : Query) :
  q.expr.binds = q.values
  := by
  obtain ⟨filter, scope⟩ := q
  cases scope with
  | none => simp [expr, values, Filter.binds_expr]
  | some buckets =>
    simp [expr, values, Expr.binds, Expr.listBinds, Filter.binds_expr, Expr.binds_inTexts]

/-- The clause of a query is that of every query of the same shape, whatever their values are.  Its
question marks are the holes of the predicate that it is read as, one for each bound value, and the
bound values are the values of the query from left to right. -/
theorem clause_free_of_values (q : Query) :
  (∀ q', q.SameShape q' → q'.statement.clause = q.statement.clause)
    ∧ (∃ e : Expr Unit, Expr.read? q.statement.clause = some e
      ∧ e.binds.length = q.statement.clause.toList.count '?')
    ∧ q.statement.clause.toList.count '?' = q.statement.binds.length
    ∧ q.statement.binds = q.values
  := by
  have hcount := Expr.count_clause q.expr
  refine ⟨?_, ⟨_, q.grammatical_expr.read?_clause, ?_⟩, hcount, q.binds_expr⟩
  · intro q' h
    apply Expr.clause_eq_of_shape_eq h.shape_expr_eq.symm
  · rw [Expr.length_binds_shape]
    exact hcount.symm

/-- Values that would be SQL themselves, or are no numbers, leave the clause as it is. -/
theorem clause_free_of_values_hostile :
  ∃ q q' : Query,
    q = ⟨.and [.leaf (.line ⟨1, "alpha", [⟨.topLeft, .x, .le, 0.5⟩]⟩),
      .not [.leaf (.file ⟨"b", ["p.jpg"]⟩), .or []]], some ["b", "c"]⟩
    ∧ q' = ⟨.and [.leaf (.line ⟨-7, "' OR 1 = 1; --?", [⟨.topLeft, .x, .le, 0 / 0⟩]⟩),
      .not [.leaf (.file ⟨"?", ["p.jpg') OR ('1' = '1"]⟩), .or []]], some ["?, ?", ""]⟩
    ∧ q.SameShape q' ∧ q'.statement.clause = q.statement.clause
  := by
  let q : Query := ⟨.and [.leaf (.line ⟨1, "alpha", [⟨.topLeft, .x, .le, 0.5⟩]⟩),
    .not [.leaf (.file ⟨"b", ["p.jpg"]⟩), .or []]], some ["b", "c"]⟩
  let q' : Query := ⟨.and [.leaf (.line ⟨-7, "' OR 1 = 1; --?", [⟨.topLeft, .x, .le, 0 / 0⟩]⟩),
    .not [.leaf (.file ⟨"?", ["p.jpg') OR ('1' = '1"]⟩), .or []]], some ["?, ?", ""]⟩
  have h : q.SameShape q' := by
    constructor
    · apply Formula.Related.and (.cons (.leaf (.line rfl)) (.cons (.not _) .nil))
      apply Formula.RelatedLists.cons (.leaf (.file rfl)) (.cons (.or .nil) .nil)
    · rfl
  exact ⟨q, q', rfl, rfl, h, q.clause_free_of_values.1 q' h⟩

end Query

end ScanIndex
