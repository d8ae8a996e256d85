import ScanIndex.Json.Value

/-!
# Equality of JSON values

`Json.same` compares two values.  Integers and floats are different even where their values agree,
and floats are compared as numbers, so that both zeros are the same.
-/

namespace ScanIndex

/-- Two numbers are the same. -/
def Number.same : Number → Number → Bool
  | int m, int n => m = n
  | float x, float y => x == y
  | _, _ => false

namespace Json

mutual

/-- Two values are the same. -/
def same : Json → Json → Bool
  | null, null => true
  | bool a, bool b => a = b
  | number m, number n => m.same n
  | string s, string t => s = t
  | array xs, array ys => sameItems xs ys
  | object fs, object gs => sameFields fs gs
  | _, _ => false

/-- Two lists of items are the same. -/
def sameItems : List Json → List Json → Bool
  | [], [] => true
  | x :: xs, y :: ys => same x y && sameItems xs ys
  | _, _ => false

/-- Two lists of fields are the same. -/
def sameFields : List (String × Json) → List (String × Json) → Bool
  | [], [] => true
  | (k, x) :: fs, (l, y) :: gs => k = l && same x y && sameFields fs gs
  | _, _ => false

end

end Json

end ScanIndex
