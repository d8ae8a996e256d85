import ScanIndex.Sql.Expr

/-!
# Depth of predicates

A statement can be run only if no predicate in it is too deep.  A predicate stands on a level above
its parts, a list of conditions nests to the left, and a column counts as two levels because of the
name of its table.  `Expr.depth?` finds the depth of a predicate, and `Depth.fits` says whether a
statement with that predicate can be run.
-/

namespace ScanIndex.Sql

/-- The greatest number of levels that a predicate may have. -/
def maxDepth : Nat := 1000

/-- What the rows that a statement selects are used for. -/
inductive Purpose where
  /-- Their identifiers are listed. -/
  | keys
  /-- Their documents are read. -/
  | documents
  /-- They are removed. -/
  | removal
deriving DecidableEq

/-- The depth of a predicate. -/
structure Depth where
  levels : Nat
  /-- The number of levels of the deepest condition on lines in it. -/
  inner : Nat
  /-- The predicate is the constant that never holds. -/
  isNever : Bool
deriving DecidableEq

namespace Depth

/-- The depth of a constant. -/
def constant (b : Bool) : Depth := ⟨1, 0, !b⟩

/-- The depth of a comparison with a column. -/
def comparison : Depth := ⟨3, 0, false⟩

/-- The depth, unless it is too great. -/
def bounded? (d : Depth) : Option Depth := if d.levels ≤ maxDepth then some d else none

/-- The depth of a predicate that denies one of depth `d`. -/
def not? (d : Depth) : Option Depth := bounded? ⟨d.levels + 1, d.inner, false⟩

/-- The depth of a disjunction. -/
def or? (d e : Depth) : Option Depth :=
  bounded? ⟨max d.levels e.levels + 1, max d.inner e.inner, false⟩

/-- The depth of a conjunction; one that never holds is the constant. -/
def and? (d e : Depth) : Option Depth :=
  if d.isNever || e.isNever then some (constant false) else or? d e

/-- The depth of the question whether there is a line under a condition; the conditions under which
lines and coordinates are joined are added to it inside. -/
def exists? (onLine onCoordinates where_ : Depth) : Option Depth :=
  let joined := max (max where_.levels onLine.levels + 1) onCoordinates.levels + 1
  bounded? ⟨where_.levels + 1, joined, false⟩

/-- The number of levels of a statement with a predicate.  Conditions on lines are looked at below
the whole predicate.  The documents are read with one condition more, and a removal looks at the
predicate below another one that holds it. -/
def levelsFor (d : Depth) : Purpose → Nat
  | .keys => d.levels + d.inner
  | .documents => d.levels + max d.inner 1
  | .removal => d.levels + 1 + d.levels + d.inner

/-- A statement with a predicate of the depth can be run. -/
def fits (d : Depth) (p : Purpose) : Bool := d.levelsFor p ≤ maxDepth

end Depth

namespace Expr

variable {β : Type}

mutual

/-- The depth of a predicate, unless it is too great. -/
def depth? : Expr β → Option Depth
  | constant b => some (.constant b)
  | columns _ _ => some .comparison
  | compare _ _ _ => some .comparison
  | among _ _ => some .comparison
  | existsLine a b w => do
    let a ← depth? a
    let b ← depth? b
    let w ← depth? w
    Depth.exists? a b w
  | not e => depth? e >>= Depth.not?
  | and parts => listDepth? Depth.and? none parts
  | or parts => listDepth? Depth.or? none parts
  | group e => depth? e

/-- The depth of a list of predicates that are joined from the left, behind those whose depth is
given. -/
def listDepth? (join : Depth → Depth → Option Depth) :
    (before : Option Depth) → List (Expr β) → Option Depth
  | before, [] => before
  | before, e :: es => do
    let d ← depth? e
    match before with
    | none => listDepth? join (some d) es
    | some c =>
      let d ← join c d
      listDepth? join (some d) es

end

/-- A statement with the predicate can be run for a purpose. -/
def fits (e : Expr β) (p : Purpose) : Bool :=
  match depth? e with
  | some d => d.fits p
  | none => false

end Expr

end ScanIndex.Sql
