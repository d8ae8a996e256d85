import ScanIndex.Sql.Expr

/-!
# Reading SQL predicates

`Expr.read?` reads a clause as a predicate whose operands are holes.  `NOT` binds more tightly than
`AND`, and `AND` more tightly than `OR`.
-/

namespace ScanIndex.Sql.Expr

/-- The conjunction of a list with a first part. -/
def conjoin {β : Type} (e : Expr β) : List (Expr β) → Expr β
  | [] => e
  | es => and (e :: es)

/-- The disjunction of a list with a first part. -/
def disjoin {β : Type} (e : Expr β) : List (Expr β) → Expr β
  | [] => e
  | es => or (e :: es)

/-- A list of holes and the closing bracket after it. -/
def readHoles? : List Token → Option (List Unit × List Token)
  | .hole :: .closing :: ts => some ([()], ts)
  | .hole :: .comma :: ts => (readHoles? ts).map fun (hs, ts) => (() :: hs, ts)
  | _ => none

/-- The comparison or membership that follows a column. -/
def readAfterColumn? (c : Column) : List Token → Option (Expr Unit × List Token)
  | .operator o :: .hole :: ts => some (compare c o (), ts)
  | .operator .eq :: .word w :: ts => (Column.ofName? w).map fun d => (columns c d, ts)
  | .word "IN" :: .opening :: ts => (readHoles? ts).map fun (hs, ts) => (among c hs, ts)
  | _ => none

mutual

/-- A disjunction at the front of some tokens; `fuel` bounds the number of steps. -/
def readOr? : (fuel : Nat) → List Token → Option (Expr Unit × List Token)
  | 0, _ => none
  | fuel + 1, ts => do
    let (e, ts) ← readAnd? fuel ts
    let (es, ts) ← readOrTail? fuel ts
    return (disjoin e es, ts)

/-- The further parts of a disjunction. -/
def readOrTail? : (fuel : Nat) → List Token → Option (List (Expr Unit) × List Token)
  | 0, _ => none
  | fuel + 1, .word "OR" :: ts => do
    let (e, ts) ← readAnd? fuel ts
    let (es, ts) ← readOrTail? fuel ts
    return (e :: es, ts)
  | _ + 1, ts => some ([], ts)

/-- A conjunction at the front of some tokens. -/
def readAnd? : (fuel : Nat) → List Token → Option (Expr Unit × List Token)
  | 0, _ => none
  | fuel + 1, ts => do
    let (e, ts) ← readNot? fuel ts
    let (es, ts) ← readAndTail? fuel ts
    return (conjoin e es, ts)

/-- The further parts of a conjunction. -/
def readAndTail? : (fuel : Nat) → List Token → Option (List (Expr Unit) × List Token)
  | 0, _ => none
  | fuel + 1, .word "AND" :: ts => do
    let (e, ts) ← readNot? fuel ts
    let (es, ts) ← readAndTail? fuel ts
    return (e :: es, ts)
  | _ + 1, ts => some ([], ts)

/-- A negation or an atom at the front of some tokens. -/
def readNot? : (fuel : Nat) → List Token → Option (Expr Unit × List Token)
  | 0, _ => none
  | fuel + 1, ts =>
    match ts with
    | .word "NOT" :: ts => do
      let (e, ts) ← readNot? fuel ts
      return (not e, ts)
    | .opening :: ts => do
      let (e, ts) ← readOr? fuel ts
      match ts with
      | .closing :: ts => return (group e, ts)
      | _ => none
    | .word "EXISTS" :: .opening :: .word "SELECT" :: .word "1" :: .word "FROM" :: .word "pages" ::
        .word "p" :: .word "JOIN" :: .word "lines" :: .word "l" :: .word "ON" :: ts => do
      let (a, ts) ← readOr? fuel ts
      match ts with
      | .word "JOIN" :: .word "coordinates" :: .word "c" :: .word "ON" :: ts => do
        let (b, ts) ← readOr? fuel ts
        match ts with
        | .word "WHERE" :: ts => do
          let (w, ts) ← readOr? fuel ts
          match ts with
          | .closing :: ts => return (existsLine a b w, ts)
          | _ => none
        | _ => none
      | _ => none
    | .word "0" :: ts => some (constant false, ts)
    | .word "1" :: ts => some (constant true, ts)
    | .word w :: ts => do
      let c ← Column.ofName? w
      readAfterColumn? c ts
    | _ => none

end

/-- The predicate that a list of tokens writes. -/
def ofTokens? (ts : List Token) : Option (Expr Unit) :=
  match readOr? (3 * ts.length + 3) ts with
  | some (e, []) => some e
  | _ => none

/-- The predicate that a clause writes. -/
def read? (clause : String) : Option (Expr Unit) := do
  let ts ← Token.lex? clause
  ofTokens? ts

/-- The predicate that a clause writes, with the values in the places of its holes; there must be as
many values as holes. -/
def bind? {β : Type} (clause : String) (values : List β) : Option (Expr β) := do
  let e ← read? clause
  match fill e values with
  | some (e, []) => some e
  | _ => none

end ScanIndex.Sql.Expr
