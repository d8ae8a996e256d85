/-!
# Boolean formulas

The type `Formula α` of boolean combinations of leaves from `α`.  `Formula.holds` evaluates a
formula, the empty conjunction being true and the empty disjunction false, where `not` says that
none of its parts holds.  `Formula.traverse` replaces every leaf by a computation that may fail, and
`Formula.leaves` lists the leaves from left to right.
-/

namespace ScanIndex

/-- A boolean combination of leaves. -/
inductive Formula (α : Type) where
  | leaf (a : α)
  /-- Every part holds. -/
  | and (parts : List (Formula α))
  /-- Some part holds. -/
  | or (parts : List (Formula α))
  /-- No part holds. -/
  | not (parts : List (Formula α))

namespace Formula

variable {α β ε : Type}

instance : Inhabited (Formula α) := ⟨and []⟩

mutual

/-- The truth value of a formula whose leaves have the truth values `p`. -/
def holds (p : α → Bool) : Formula α → Bool
  | leaf a => p a
  | and parts => allHold p parts
  | or parts => anyHolds p parts
  | not parts => !anyHolds p parts

/-- Every formula of a list holds. -/
def allHold (p : α → Bool) : List (Formula α) → Bool
  | [] => true
  | f :: fs => holds p f && allHold p fs

/-- Some formula of a list holds. -/
def anyHolds (p : α → Bool) : List (Formula α) → Bool
  | [] => false
  | f :: fs => holds p f || anyHolds p fs

end

mutual

/-- Replace the leaves from left to right; the first failure is the result. -/
def traverse (g : α → Except ε β) : Formula α → Except ε (Formula β)
  | leaf a => leaf <$> g a
  | and parts => and <$> traverseList g parts
  | or parts => or <$> traverseList g parts
  | not parts => not <$> traverseList g parts

/-- Replace the leaves of a list of formulas from left to right. -/
def traverseList (g : α → Except ε β) : List (Formula α) → Except ε (List (Formula β))
  | [] => .ok []
  | f :: fs => do
    let f ← traverse g f
    let fs ← traverseList g fs
    return f :: fs

end

mutual

/-- The leaves of a formula from left to right. -/
def leaves : Formula α → List α
  | leaf a => [a]
  | and parts => leavesOfList parts
  | or parts => leavesOfList parts
  | not parts => leavesOfList parts

/-- The leaves of a list of formulas from left to right. -/
def leavesOfList : List (Formula α) → List α
  | [] => []
  | f :: fs => leaves f ++ leavesOfList fs

end

end Formula

end ScanIndex
