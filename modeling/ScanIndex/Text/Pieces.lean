/-!
# Texts in pieces

Splitting a list of characters at a separator: `splitFirst` at the first one, and `pieces` at all of
them.
-/

namespace ScanIndex

/-- The characters before the first `c`, and those after it if there is one. -/
def splitFirst (c : Char) : List Char → List Char × Option (List Char)
  | [] => ([], none)
  | x :: xs =>
    if x = c then ([], some xs)
    else
      let (before, after) := splitFirst c xs
      (x :: before, after)

/-- The pieces between the characters `c`. -/
def pieces (c : Char) : List Char → List (List Char)
  | [] => [[]]
  | x :: xs =>
    if x = c then [] :: pieces c xs
    else
      match pieces c xs with
      | [] => [[x]]
      | p :: ps => (x :: p) :: ps

end ScanIndex
