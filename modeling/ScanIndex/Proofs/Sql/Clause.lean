import Mathlib.Tactic.Use
import ScanIndex.Proofs.Sql.Lexing
import ScanIndex.Proofs.Sql.Reading
import ScanIndex.Sql.Depth
import ScanIndex.Sql.Statement

/-!
# The clauses of queries

The clause of a grammatical predicate is read as the predicate without its operands
(`Grammatical.read?_clause`), also inside the text of a statement (`Grammatical.predicate?_text`),
and with its operands it is the predicate again (`Grammatical.bind?_statement`).  It has a hole for
every operand (`count_clause`).  The predicates of queries are grammatical
(`Query.grammatical_expr`).
-/

namespace ScanIndex

namespace Sql

/-! ### Statements around a clause -/

namespace Purpose

/-- The text of a statement in front of its clause; line breaks are written as blanks. -/
def before : Purpose → String
  | keys => "SELECT d.id FROM documents d WHERE"
  | documents => "WITH matched AS ( SELECT d.id, d.rowid AS seq FROM documents d WHERE"
  | removal => "DELETE FROM documents WHERE id IN (SELECT d.id FROM documents d WHERE"

/-- The texts of the columns and tables from which the rows of matched documents are read. -/
def joinedRows : List String :=
  [" SELECT doc.id AS document_id, doc.bucket, doc.object_key,", " p.id AS page_id, p.page_number,",
    " l.id AS line_id, l.text,", " c.id AS coord_id,",
    " c.top_left_x, c.top_left_y, c.top_right_x, c.top_right_y,",
    " c.bottom_left_x, c.bottom_left_y, c.bottom_right_x, c.bottom_right_y",
    " FROM matched m", " JOIN documents doc ON doc.id = m.id",
    " LEFT JOIN pages p ON p.document_id = doc.id", " LEFT JOIN lines l ON l.page_id = p.id",
    " LEFT JOIN coordinates c ON c.line_id = l.id", " ORDER BY m.seq, p.position, l.position"]

/-- The text of a statement behind its clause. -/
def after : Purpose → String
  | keys => " ORDER BY d.rowid"
  | documents => " )" ++ String.join joinedRows
  | removal => ")"

/-- The text of the statement with a clause. -/
def text (p : Purpose) (clause : String) : String := p.before ++ " " ++ clause ++ p.after

/-- The predicate in the text of a statement: what stands between its fixed parts, read as one
disjunction that ends where the second part begins. -/
def predicate? (p : Purpose) (text : String) : Option (Expr Unit) := do
  let before ← Token.lex? p.before
  let after ← Token.lex? p.after
  let ts ← Token.lex? text
  let (e, rest) ← Expr.readOr? (3 * ts.length + 3) (ts.drop before.length)
  if before.isPrefixOf ts ∧ rest = after then some e else none

theorem all_isPlain_before (p : Purpose) :
  p.before.toList.all Token.isPlain = true
  := by
  cases p <;> rw [before] <;> decide +kernel

theorem all_isPlain_joinedRows :
  (String.join joinedRows).toList.all Token.isPlain = true
  := by
  have hrows : (joinedRows.all fun s => s.toList.all Token.isPlain) = true := by decide +kernel
  rw [String.toList_join, List.all_flatMap]
  exact hrows

theorem exists_lex?_before (p : Purpose) :
  ∃ ts, Token.lex? p.before = some ts
  := Token.exists_lexChars_eq p.all_isPlain_before []

/-- No word of a clause runs into what stands behind it. -/
theorem breaks_after (p : Purpose) :
  Token.Breaks p.after.toList
  := by
  cases p with
  | keys => simp [after, Token.blank_breaks]
  | documents => simp [after, Token.blank_breaks]
  | removal => simp [after, Token.Breaks]; decide

/-- What stands behind a clause begins with a token that does not go on with the clause. -/
theorem exists_lex?_after (p : Purpose) :
  ∃ ts, Token.lex? p.after = some ts ∧ Expr.EndsOr ts
  := by
  cases p with
  | keys =>
    use [.word "ORDER", .word "BY", .word "d.rowid"], by decide +kernel
    simp [Expr.EndsOr, Expr.EndsAnd]
  | documents =>
    obtain ⟨ts, hts⟩ := Token.exists_lexChars_eq all_isPlain_joinedRows []
    use .closing :: ts
    constructor
    · simp [after, Token.lex?, Token.lexChars, -String.toList_join, hts]
    · simp [Expr.EndsOr, Expr.EndsAnd]
  | removal =>
    use [.closing], by decide +kernel
    simp [Expr.EndsOr, Expr.EndsAnd]

end Purpose

namespace Expr

variable {β : Type}

/-! ### Tokens -/

theorem isProper_name (c : Column) :
  (Token.word c.name).IsProper
  := by
  cases c with
  | corner c a => cases c <;> cases a <;> exact ⟨by decide, by decide⟩
  | _ => exact ⟨by decide, by decide⟩

theorem isProper_holeTokens (vs : List β) :
  ∀ t ∈ holeTokens vs, t.IsProper
  := by
  fun_induction holeTokens vs with
  | case1 => simp
  | case2 v => simp [Token.IsProper]
  | case3 v vs hne ih => simpa [Token.IsProper] using ih

mutual

theorem isProper_tokens :
  ∀ e : Expr β, ∀ t ∈ tokens e, t.IsProper
  | constant b => by
      simp only [tokens, List.forall_mem_cons]
      exact ⟨by cases b <;> decide, by simp⟩
  | columns a b => by
      simp only [tokens, List.forall_mem_cons]
      exact ⟨isProper_name a, trivial, isProper_name b, by simp⟩
  | compare c o v => by
      simp only [tokens, List.forall_mem_cons]
      exact ⟨isProper_name c, trivial, trivial, by simp⟩
  | among c vs => by
      have hin : (Token.word "IN").IsProper := by decide
      have hvs := isProper_holeTokens vs
      simp only [tokens, List.forall_mem_cons, List.forall_mem_append]
      exact ⟨isProper_name c, hin, trivial, hvs, trivial, by simp⟩
  | existsLine a b w => by
      simp only [tokens, List.forall_mem_append]
      refine ⟨⟨⟨⟨⟨⟨?_, isProper_tokens a⟩, ?_⟩, isProper_tokens b⟩, ?_⟩, isProper_tokens w⟩, ?_⟩
      all_goals decide
  | not e => by
      have hnot : (Token.word "NOT").IsProper := by decide
      apply List.forall_mem_cons.2 ⟨hnot, isProper_tokens e⟩
  | and parts => isProper_listTokens (by decide) parts
  | or parts => isProper_listTokens (by decide) parts
  | group e => by
      simp only [tokens, List.forall_mem_cons, List.forall_mem_append]
      exact ⟨trivial, isProper_tokens e, trivial, by simp⟩

theorem isProper_listTokens {w : Token} (hw : w.IsProper) :
  ∀ es : List (Expr β), ∀ t ∈ listTokens w es, t.IsProper
  | [] => by simp [listTokens]
  | e :: es => List.forall_mem_append.2 ⟨isProper_tokens e, isProper_tailTokens hw es⟩

theorem isProper_tailTokens {w : Token} (hw : w.IsProper) :
  ∀ es : List (Expr β), ∀ t ∈ tailTokens w es, t.IsProper
  | [] => by simp [tailTokens]
  | e :: es => List.forall_mem_cons.2
      ⟨hw, List.forall_mem_append.2 ⟨isProper_tokens e, isProper_tailTokens hw es⟩⟩

end

theorem count_holeTokens (vs : List β) :
  (holeTokens vs).count .hole = vs.length
  := by
  fun_induction holeTokens vs with
  | case1 => rfl
  | case2 v => rfl
  | case3 v vs hne ih => simp [ih]

mutual

/-- The tokens of a predicate have a hole for every operand. -/
theorem count_tokens :
  ∀ e : Expr β, (tokens e).count .hole = (binds e).length
  | constant b => by cases b <;> rfl
  | columns _ _ => rfl
  | compare _ _ _ => rfl
  | among c vs => by simp [tokens, binds, count_holeTokens]
  | existsLine a b w => by simp [tokens, binds, count_tokens a, count_tokens b, count_tokens w]
  | not e => by simp [tokens, binds, count_tokens e]
  | and parts => count_listTokens (by simp) parts
  | or parts => count_listTokens (by simp) parts
  | group e => by simp [tokens, binds, count_tokens e]

theorem count_listTokens {w : Token} (hw : w ≠ .hole) :
  ∀ es : List (Expr β), (listTokens w es).count .hole = (listBinds es).length
  | [] => rfl
  | e :: es => by simp [listTokens, listBinds, count_tokens e, count_tailTokens hw es]

theorem count_tailTokens {w : Token} (hw : w ≠ .hole) :
  ∀ es : List (Expr β), (tailTokens w es).count .hole = (listBinds es).length
  | [] => rfl
  | e :: es => by simp [tailTokens, listBinds, hw, count_tokens e, count_tailTokens hw es]

end

/-! ### Clauses -/

/-- The clause of a predicate has a question mark for every operand. -/
theorem count_clause (e : Expr Value) :
  e.statement.clause.toList.count '?' = e.statement.binds.length
  := by
  rw [Expr.statement, Token.render, String.toList_ofList,
    Token.count_mark_renderChars (isProper_tokens e), count_tokens]

theorem Grammatical.read?_clause {e : Expr Value} (h : Grammatical .or e) :
  read? e.statement.clause = some e.shape
  := by
  have hread := h.readsAs (3 * (tokens e).length + 3) [] (by omega) (by simp [EndsOr, EndsAnd])
  rw [List.append_nil] at hread
  rw [read?, Expr.statement, Token.lex?_render (isProper_tokens e)]
  simp [ofTokens?, hread]

/-- The clause and the operands of a grammatical predicate are read as the predicate. -/
theorem Grammatical.bind?_statement {e : Expr Value} (h : Grammatical .or e) :
  bind? e.statement.clause e.statement.binds = some e
  := by
  have hfill := fill_shape [] e
  rw [List.append_nil] at hfill
  rw [bind?, h.read?_clause]
  simp [Expr.statement, hfill]

/-- The clause of a grammatical predicate is read as the predicate without its operands also where
it stands in the text of a statement. -/
theorem Grammatical.predicate?_text {e : Expr Value} (h : Grammatical .or e) (p : Purpose) :
  p.predicate? (p.text e.statement.clause) = some e.shape
  := by
  obtain ⟨us, hus⟩ := p.exists_lex?_before
  obtain ⟨vs, hvs, hends⟩ := p.exists_lex?_after
  have htext : Token.lex? (p.text e.statement.clause) = some (us ++ (tokens e ++ vs)) := by
    have hchars : (p.text e.statement.clause).toList
        = p.before.toList ++ ' ' :: (Token.renderChars (tokens e) ++ p.after.toList) := by
      simp [Purpose.text, Expr.statement, Token.render]
    rw [Token.lex?] at hus hvs ⊢
    rw [hchars, Token.lexChars_append_blank,
      Token.lexChars_renderChars (isProper_tokens e) p.breaks_after, hus, hvs]
    rfl
  have hread := h.readsAs (3 * (us ++ (tokens e ++ vs)).length + 3) vs
    (by simp only [List.length_append]; omega) hends
  simp only [Purpose.predicate?, hus, hvs, htext, Option.bind_eq_bind, Option.bind_some,
    List.drop_left, hread]
  simp

theorem length_binds_inTexts (c : Column) (texts : List String) :
  (inTexts c texts).binds.length = texts.length
  := by
  cases texts <;> simp [inTexts, binds]

/-! ### Grammatical combinations -/

theorem grammatical_inTexts (c : Column) (texts : List String) :
  Grammatical .not (inTexts c texts)
  := by
  cases texts with
  | nil => exact .constant false
  | cons s texts => exact .among c (by simp)

theorem grammatical_joined {join : List (Expr Value) → Expr Value}
    (hjoin : ∀ e e' es, (∀ x ∈ e :: e' :: es, Grammatical .not x) →
      Grammatical .or (join (e :: e' :: es)))
    (identity : Bool) {es : List (Expr Value)} (h : ∀ e ∈ es, Grammatical .not e) :
  Grammatical .not (joined identity join es)
  := by
  match es with
  | [] => exact .constant identity
  | [e] => exact .group (.alone (.single (h e List.mem_cons_self)))
  | e :: e' :: es => exact .group (hjoin e e' es h)

theorem grammatical_or_and (e e' : Expr Value) (es : List (Expr Value))
    (h : ∀ x ∈ e :: e' :: es, Grammatical .not x) :
  Grammatical .or (and (e :: e' :: es))
  := by
  rw [List.forall_mem_cons] at h
  exact .alone (.and h.1 h.2)

theorem grammatical_or_or (e e' : Expr Value) (es : List (Expr Value))
    (h : ∀ x ∈ e :: e' :: es, Grammatical .not x) :
  Grammatical .or (or (e :: e' :: es))
  := by
  rw [List.forall_mem_cons] at h
  exact .or (.single h.1) fun x hx => .single (h.2 x hx)

theorem grammatical_noneOf {es : List (Expr Value)} (h : ∀ e ∈ es, Grammatical .not e) :
  Grammatical .not (noneOf es)
  := by
  cases es with
  | nil => exact .constant true
  | cons e es => exact .not (grammatical_joined grammatical_or_or false h)

end Expr

end Sql

open Sql

/-! ### The predicates of queries -/

theorem LineFilter.grammatical_expr (f : LineFilter) :
  Expr.Grammatical .not f.expr
  := by
  apply Expr.Grammatical.existsLine
  · exact .alone (.single (.columns _ _))
  · exact .alone (.single (.columns _ _))
  · apply Expr.grammatical_or_and
    simp only [List.forall_mem_cons]
    refine ⟨.columns _ _, .compare _ _ _, .compare _ _ _, ?_⟩
    intro x hx
    obtain ⟨b, -, rfl⟩ := List.mem_map.1 hx
    exact .compare _ _ _

theorem FileFilter.grammatical_expr (f : FileFilter) :
  Expr.Grammatical .not f.expr
  := by
  apply Expr.Grammatical.group
  apply Expr.grammatical_or_and
  simp only [List.forall_mem_cons]
  exact ⟨.compare _ _ _, Expr.grammatical_inTexts _ _, by simp⟩

namespace Filter

mutual

theorem grammatical_expr :
  ∀ f : Filter, Expr.Grammatical .not (expr f)
  | .leaf (.line f) => f.grammatical_expr
  | .leaf (.file f) => f.grammatical_expr
  | .and parts => Expr.grammatical_joined Expr.grammatical_or_and true (grammatical_exprs parts)
  | .or parts => Expr.grammatical_joined Expr.grammatical_or_or false (grammatical_exprs parts)
  | .not parts => Expr.grammatical_noneOf (grammatical_exprs parts)

theorem grammatical_exprs :
  ∀ fs : List Filter, ∀ e ∈ exprs fs, Expr.Grammatical .not e
  | [] => by simp [exprs]
  | f :: fs => List.forall_mem_cons.2 ⟨grammatical_expr f, grammatical_exprs fs⟩

end

end Filter

/-- The predicate of a query is grammatical. -/
theorem Query.grammatical_expr (q : Query) :
  Expr.Grammatical .or q.expr
  := by
  unfold Query.expr
  split
  · exact .alone (.single (Filter.grammatical_expr q.filter))
  · apply Expr.grammatical_or_and
    simp only [List.forall_mem_cons]
    refine ⟨.group (.alone (.single (Filter.grammatical_expr q.filter))), ?_, by simp⟩
    exact .group (.alone (.single (Expr.grammatical_inTexts _ _)))

/-- The operands of a query that is confined to buckets are those of its filter, and the buckets. -/
theorem Query.length_binds_of_scope (filter : Filter) (buckets : List String) :
  (⟨filter, some buckets⟩ : Query).statement.binds.length
    = filter.expr.binds.length + buckets.length
  := by
  simp [Query.statement, Expr.statement, Query.expr, Expr.binds, Expr.listBinds,
    Expr.length_binds_inTexts]

/-- The operands of a query for files are their bucket and their keys. -/
theorem Query.length_binds_ofFiles (bucket : String) (keys : List String) :
  (Query.ofFiles bucket keys).statement.binds.length = keys.length + 1
  := by
  simp [Query.statement, Expr.statement, Query.expr, Query.ofFiles, Filter.expr, Condition.expr,
    FileFilter.expr, Expr.binds, Expr.listBinds, Expr.length_binds_inTexts]

end ScanIndex
