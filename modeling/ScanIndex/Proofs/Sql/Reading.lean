import ScanIndex.Sql.Reader

/-!
# Reading predicates back

`Grammatical` says at which place of a clause a predicate may stand without brackets.  The tokens of
a grammatical predicate are read as its `Expr.shape`, whatever follows that cannot belong to it
(`Grammatical.readsAs`), and binding its operands to the shape gives the predicate back
(`fill_shape`).
-/

namespace ScanIndex.Sql.Expr

variable {β : Type}

/-! ### Shapes -/

mutual

/-- The predicate without its operands. -/
def shape : Expr β → Expr Unit
  | constant b => constant b
  | columns a b => columns a b
  | compare c o _ => compare c o ()
  | among c vs => among c (vs.map fun _ => ())
  | existsLine a b w => existsLine (shape a) (shape b) (shape w)
  | not e => not (shape e)
  | and parts => and (shapes parts)
  | or parts => or (shapes parts)
  | group e => group (shape e)

/-- The predicates of a list without their operands. -/
def shapes : List (Expr β) → List (Expr Unit)
  | [] => []
  | e :: es => shape e :: shapes es

end

theorem fillHoles_map (vs rest : List β) :
  fillHoles (vs.map fun _ => ()) (vs ++ rest) = some (vs, rest)
  := by
  induction vs with
  | nil => rfl
  | cons v vs ih =>
    rw [List.map_cons, List.cons_append, fillHoles, ih]
    rfl

mutual

/-- The operands of a predicate fill the holes of its shape. -/
theorem fill_shape (rest : List β) :
  ∀ e : Expr β, fill (shape e) (binds e ++ rest) = some (e, rest)
  | constant _ => rfl
  | columns _ _ => rfl
  | compare _ _ _ => rfl
  | among c vs => by
      rw [shape, binds, fill, fillHoles_map]
      rfl
  | existsLine a b w => by
      rw [shape, binds, fill, List.append_assoc, List.append_assoc, fill_shape _ a]
      simp [fill_shape _ b, fill_shape rest w]
  | not e => by
      rw [shape, binds, fill, fill_shape rest e]
      rfl
  | and parts => by
      rw [shape, binds, fill, fillList_shapes rest parts]
      rfl
  | or parts => by
      rw [shape, binds, fill, fillList_shapes rest parts]
      rfl
  | group e => by
      rw [shape, binds, fill, fill_shape rest e]
      rfl

/-- The operands of a list of predicates fill the holes of their shapes. -/
theorem fillList_shapes (rest : List β) :
  ∀ es : List (Expr β), fillList (shapes es) (listBinds es ++ rest) = some (es, rest)
  | [] => rfl
  | e :: es => by
      rw [shapes, listBinds, fillList, List.append_assoc, fill_shape _ e]
      simp [fillList_shapes rest es]

end

/-! ### Grammatical predicates -/

/-- The places of a clause at which a predicate may stand without brackets: an operand of `NOT` and
`AND`, an operand of `OR`, and any place. -/
inductive Place where
  | not
  | and
  | or

/-- The predicate may stand at a place without brackets. -/
inductive Grammatical : Place → Expr β → Prop where
  | constant (b : Bool) : Grammatical .not (constant b)
  | columns (a b : Column) : Grammatical .not (columns a b)
  | compare (c : Column) (o : Operator) (v : β) : Grammatical .not (compare c o v)
  | among (c : Column) {vs : List β} (h : vs ≠ []) : Grammatical .not (among c vs)
  | existsLine {a b w : Expr β} (ha : Grammatical .or a) (hb : Grammatical .or b)
      (hw : Grammatical .or w) : Grammatical .not (existsLine a b w)
  | not {e : Expr β} (h : Grammatical .not e) : Grammatical .not (not e)
  | group {e : Expr β} (h : Grammatical .or e) : Grammatical .not (group e)
  | single {e : Expr β} (h : Grammatical .not e) : Grammatical .and e
  | and {e e' : Expr β} {es : List (Expr β)} (he : Grammatical .not e)
      (h : ∀ x ∈ e' :: es, Grammatical .not x) : Grammatical .and (and (e :: e' :: es))
  | alone {e : Expr β} (h : Grammatical .and e) : Grammatical .or e
  | or {e e' : Expr β} {es : List (Expr β)} (he : Grammatical .and e)
      (h : ∀ x ∈ e' :: es, Grammatical .and x) : Grammatical .or (or (e :: e' :: es))

/-! ### Reading -/

/-- No conjunction goes on with the tokens. -/
def EndsAnd (ts : List Token) : Prop := ∀ us, ts ≠ .word "AND" :: us

/-- Neither a conjunction nor a disjunction goes on with the tokens. -/
def EndsOr (ts : List Token) : Prop := EndsAnd ts ∧ ∀ us, ts ≠ .word "OR" :: us

/-- The tokens of the predicate are read as its shape where an operand of `NOT` is expected. -/
def ReadsAsNot (e : Expr β) : Prop :=
  ∀ fuel rest, 3 * (tokens e).length ≤ fuel + 2 →
    readNot? fuel (tokens e ++ rest) = some (shape e, rest)

/-- The tokens of the predicate are read as its shape where a conjunction is expected. -/
def ReadsAsAnd (e : Expr β) : Prop :=
  ∀ fuel rest, 3 * (tokens e).length ≤ fuel + 1 → EndsAnd rest →
    readAnd? fuel (tokens e ++ rest) = some (shape e, rest)

/-- The tokens of the predicate are read as its shape where a disjunction is expected. -/
def ReadsAsOr (e : Expr β) : Prop :=
  ∀ fuel rest, 3 * (tokens e).length ≤ fuel → EndsOr rest →
    readOr? fuel (tokens e ++ rest) = some (shape e, rest)

/-- A name that is not a keyword is read as a column. -/
theorem readNot?_column (fuel : Nat) (c : Column) (ts : List Token) :
  readNot? (fuel + 1) (.word c.name :: ts) = readAfterColumn? c ts
  := by
  have h : readNot? (fuel + 1) (.word c.name :: ts)
      = (Column.ofName? c.name).bind fun c => readAfterColumn? c ts
    := by
    cases c with
    | corner c a => cases c <;> cases a <;> rfl
    | _ => rfl
  rw [h, Column.ofName?_name]
  rfl

theorem readHoles?_holeTokens {vs : List β} (h : vs ≠ []) (rest : List Token) :
  readHoles? (holeTokens vs ++ .closing :: rest) = some (vs.map fun _ => (), rest)
  := by
  fun_induction holeTokens vs with
  | case1 => exact absurd rfl h
  | case2 v => rfl
  | case3 v vs hne ih =>
    rw [List.cons_append, List.cons_append, readHoles?, ih hne]
    rfl

/-- A predicate with a token is read once its reading takes one step. -/
theorem ReadsAsNot.of_succ {e : Expr β} (hpos : 0 < (tokens e).length)
    (h : ∀ fuel rest, readNot? (fuel + 1) (tokens e ++ rest) = some (shape e, rest)) :
  ReadsAsNot e
  := by
  intro fuel rest hfuel
  obtain ⟨fuel, rfl⟩ : ∃ n, fuel = n + 1 := ⟨fuel - 1, by omega⟩
  apply h fuel rest

theorem readsAsNot_constant (b : Bool) :
  ReadsAsNot (constant b : Expr β)
  := by
  apply ReadsAsNot.of_succ
  · apply Nat.succ_pos
  intro fuel rest
  cases b <;> rfl

theorem readsAsNot_columns (a b : Column) :
  ReadsAsNot (columns a b : Expr β)
  := by
  apply ReadsAsNot.of_succ
  · apply Nat.succ_pos
  intro fuel rest
  apply (readNot?_column fuel a _).trans
  change (Column.ofName? b.name).map _ = _
  rw [Column.ofName?_name]
  rfl

theorem readsAsNot_compare (c : Column) (o : Operator) (v : β) :
  ReadsAsNot (compare c o v)
  := by
  apply ReadsAsNot.of_succ
  · apply Nat.succ_pos
  intro fuel rest
  apply (readNot?_column fuel c _).trans
  rfl

theorem readsAsNot_among (c : Column) {vs : List β} (hvs : vs ≠ []) :
  ReadsAsNot (among c vs)
  := by
  apply ReadsAsNot.of_succ
  · apply Nat.succ_pos
  intro fuel rest
  apply (readNot?_column fuel c _).trans
  change (readHoles? ((holeTokens vs ++ [.closing]) ++ rest)).map _ = _
  rw [List.append_assoc, List.singleton_append, readHoles?_holeTokens hvs]
  rfl

section

variable {fuel : Nat} {ts us vs rest : List Token} {a b e w : Expr Unit}

theorem readNot?_not (h : readNot? fuel ts = some (e, us)) :
  readNot? (fuel + 1) (.word "NOT" :: ts) = some (not e, us)
  := by
  change (readNot? fuel ts).bind _ = _
  rw [h]
  rfl

theorem readNot?_group (h : readOr? fuel ts = some (e, .closing :: us)) :
  readNot? (fuel + 1) (.opening :: ts) = some (group e, us)
  := by
  change (readOr? fuel ts).bind _ = _
  rw [h]
  rfl

theorem readNot?_existsLine
    (ha : readOr? fuel ts
      = some (a, .word "JOIN" :: .word "coordinates" :: .word "c" :: .word "ON" :: us))
    (hb : readOr? fuel us = some (b, .word "WHERE" :: vs))
    (hw : readOr? fuel vs = some (w, .closing :: rest)) :
  readNot? (fuel + 1) (.word "EXISTS" :: .opening :: .word "SELECT" :: .word "1" :: .word "FROM" ::
      .word "pages" :: .word "p" :: .word "JOIN" :: .word "lines" :: .word "l" :: .word "ON" :: ts)
    = some (existsLine a b w, rest)
  := by
  change (readOr? fuel ts).bind _ = _
  rw [ha]
  change (readOr? fuel us).bind _ = _
  rw [hb]
  change (readOr? fuel vs).bind _ = _
  rw [hw]
  rfl

end

theorem ReadsAsNot.not {e : Expr β} (he : ReadsAsNot e) :
  ReadsAsNot (not e)
  := by
  intro fuel rest h
  simp only [tokens, List.length_cons] at h
  obtain ⟨fuel, rfl⟩ : ∃ n, fuel = n + 1 := ⟨fuel - 1, by omega⟩
  rw [tokens, shape]
  apply readNot?_not (he fuel rest (by omega))

theorem ReadsAsOr.group {e : Expr β} (he : ReadsAsOr e) :
  ReadsAsNot (group e)
  := by
  intro fuel rest h
  simp only [tokens, List.length_cons, List.length_append] at h
  obtain ⟨fuel, rfl⟩ : ∃ n, fuel = n + 1 := ⟨fuel - 1, by omega⟩
  have hend : EndsOr (.closing :: rest) := by simp [EndsOr, EndsAnd]
  rw [tokens, shape, List.cons_append, List.append_assoc]
  apply readNot?_group (he fuel _ (by omega) hend)

theorem ReadsAsOr.existsLine {a b w : Expr β} (ha : ReadsAsOr a) (hb : ReadsAsOr b)
    (hw : ReadsAsOr w) :
  ReadsAsNot (existsLine a b w)
  := by
  intro fuel rest h
  simp only [tokens, List.length_cons, List.length_append] at h
  obtain ⟨fuel, rfl⟩ : ∃ n, fuel = n + 1 := ⟨fuel - 1, by omega⟩
  have hjoin (ts : List Token) : EndsOr (.word "JOIN" :: ts) := by simp [EndsOr, EndsAnd]
  have hwhere (ts : List Token) : EndsOr (.word "WHERE" :: ts) := by simp [EndsOr, EndsAnd]
  have hclosing : EndsOr (.closing :: rest) := by simp [EndsOr, EndsAnd]
  simp only [tokens, shape, List.cons_append, List.nil_append, List.append_assoc]
  apply readNot?_existsLine
  · apply ha fuel _ (by omega) (hjoin _)
  · apply hb fuel _ (by omega) (hwhere _)
  · apply hw fuel _ (by omega) hclosing

/-! ### Conjunctions and disjunctions -/

theorem tokens_tail_endsAnd (es : List (Expr β)) {rest : List Token} (h : EndsAnd rest) :
  EndsAnd (tailTokens (.word "OR") es ++ rest)
  := by
  cases es with
  | nil => exact h
  | cons e es => simp [tailTokens, EndsAnd]

theorem readAndTail?_tokens {es : List (Expr β)} (hes : ∀ e ∈ es, ReadsAsNot e) :
  ∀ fuel rest, 3 * (tailTokens (.word "AND") es).length + 1 ≤ fuel → EndsAnd rest →
    readAndTail? fuel (tailTokens (.word "AND") es ++ rest) = some (shapes es, rest)
  := by
  induction es with
  | nil =>
    intro fuel rest h hrest
    obtain ⟨fuel, rfl⟩ : ∃ n, fuel = n + 1 := ⟨fuel - 1, by omega⟩
    rw [tailTokens, List.nil_append, readAndTail?, shapes]
    exact hrest
  | cons e es ih =>
    intro fuel rest h hrest
    simp only [tailTokens, List.length_cons, List.length_append] at h
    obtain ⟨fuel, rfl⟩ : ∃ n, fuel = n + 1 := ⟨fuel - 1, by omega⟩
    have he := hes e List.mem_cons_self fuel (tailTokens (.word "AND") es ++ rest) (by omega)
    have htail := ih (fun x hx => hes x (List.mem_cons_of_mem e hx)) fuel rest (by omega) hrest
    simp [tailTokens, readAndTail?, shapes, he, htail]

theorem readOrTail?_tokens {es : List (Expr β)} (hes : ∀ e ∈ es, ReadsAsAnd e) :
  ∀ fuel rest, 3 * (tailTokens (.word "OR") es).length + 1 ≤ fuel → EndsOr rest →
    readOrTail? fuel (tailTokens (.word "OR") es ++ rest) = some (shapes es, rest)
  := by
  induction es with
  | nil =>
    intro fuel rest h hrest
    obtain ⟨fuel, rfl⟩ : ∃ n, fuel = n + 1 := ⟨fuel - 1, by omega⟩
    rw [tailTokens, List.nil_append, readOrTail?, shapes]
    apply hrest.2
  | cons e es ih =>
    intro fuel rest h hrest
    simp only [tailTokens, List.length_cons, List.length_append] at h
    obtain ⟨fuel, rfl⟩ : ∃ n, fuel = n + 1 := ⟨fuel - 1, by omega⟩
    have he := hes e List.mem_cons_self fuel (tailTokens (.word "OR") es ++ rest) (by omega)
      (tokens_tail_endsAnd es hrest.1)
    have htail := ih (fun x hx => hes x (List.mem_cons_of_mem e hx)) fuel rest (by omega) hrest
    simp [tailTokens, readOrTail?, shapes, he, htail]

theorem shape_conjoin (e : Expr β) :
  ∀ es : List (Expr β), shape (conjoin e es) = conjoin (shape e) (shapes es)
  | [] => rfl
  | _ :: _ => rfl

theorem shape_disjoin (e : Expr β) :
  ∀ es : List (Expr β), shape (disjoin e es) = disjoin (shape e) (shapes es)
  | [] => rfl
  | _ :: _ => rfl

theorem tokens_conjoin (e : Expr β) :
  ∀ es : List (Expr β), tokens (conjoin e es) = tokens e ++ tailTokens (.word "AND") es
  | [] => by simp [conjoin, tailTokens]
  | _ :: _ => rfl

theorem tokens_disjoin (e : Expr β) :
  ∀ es : List (Expr β), tokens (disjoin e es) = tokens e ++ tailTokens (.word "OR") es
  | [] => by simp [disjoin, tailTokens]
  | _ :: _ => rfl

theorem readsAsAnd_conjoin {e : Expr β} (es : List (Expr β)) (hpos : 0 < (tokens e).length)
    (he : ReadsAsNot e) (hes : ∀ x ∈ es, ReadsAsNot x) :
  ReadsAsAnd (conjoin e es)
  := by
  intro fuel rest h hrest
  rw [tokens_conjoin, List.length_append] at h
  obtain ⟨fuel, rfl⟩ : ∃ n, fuel = n + 1 := ⟨fuel - 1, by omega⟩
  have he := he fuel (tailTokens (.word "AND") es ++ rest) (by omega)
  have htail := readAndTail?_tokens hes fuel rest (by omega) hrest
  simp [tokens_conjoin, shape_conjoin, readAnd?, he, htail]

theorem readsAsOr_disjoin {e : Expr β} (es : List (Expr β)) (hpos : 0 < (tokens e).length)
    (he : ReadsAsAnd e) (hes : ∀ x ∈ es, ReadsAsAnd x) :
  ReadsAsOr (disjoin e es)
  := by
  intro fuel rest h hrest
  rw [tokens_disjoin, List.length_append] at h
  obtain ⟨fuel, rfl⟩ : ∃ n, fuel = n + 1 := ⟨fuel - 1, by omega⟩
  have he := he fuel (tailTokens (.word "OR") es ++ rest) (by omega)
    (tokens_tail_endsAnd es hrest.1)
  have htail := readOrTail?_tokens hes fuel rest (by omega) hrest
  simp [tokens_disjoin, shape_disjoin, readOr?, he, htail]

/-! ### Grammatical predicates are read back -/

theorem Grammatical.tokens_length_pos {p : Place} {e : Expr β} (h : Grammatical p e) :
  0 < (tokens e).length
  := by
  induction h with
  | single h ih => exact ih
  | alone h ih => exact ih
  | and he h ih =>
    rw [tokens, listTokens, List.length_append]
    omega
  | or he h ih =>
    rw [tokens, listTokens, List.length_append]
    omega
  | _ => simp [tokens]

/-- What it means that the tokens of a predicate are read at a place. -/
def ReadsAs : Place → Expr β → Prop
  | .not, e => ReadsAsNot e
  | .and, e => ReadsAsAnd e
  | .or, e => ReadsAsOr e

/-- The tokens of a grammatical predicate are read as its shape. -/
theorem Grammatical.readsAs {p : Place} {e : Expr β} (h : Grammatical p e) :
  ReadsAs p e
  := by
  induction h with
  | constant b => apply readsAsNot_constant b
  | columns a b => apply readsAsNot_columns a b
  | compare c o v => apply readsAsNot_compare c o v
  | among c h => apply readsAsNot_among c h
  | existsLine ha hb hw iha ihb ihw => apply ReadsAsOr.existsLine iha ihb ihw
  | not h ih => apply ReadsAsNot.not ih
  | group h ih => apply ReadsAsOr.group ih
  | single h ih => apply readsAsAnd_conjoin [] h.tokens_length_pos ih (by simp)
  | and he h ih ihs => apply readsAsAnd_conjoin _ he.tokens_length_pos ih ihs
  | alone h ih => apply readsAsOr_disjoin [] h.tokens_length_pos ih (by simp)
  | or he h ih ihs => apply readsAsOr_disjoin _ he.tokens_length_pos ih ihs

end ScanIndex.Sql.Expr
