import ScanIndex.Text.Pieces

/-!
# Paths

A path leads by steps between slashes to a place, from the root if it begins with a slash and from a
directory otherwise.  `steps` are all its steps as they are written.  `components` leaves out those
that lead nowhere, but for a dot at the beginning.
-/

namespace ScanIndex.Disk

/-- The place of a file or of a directory: the names that lead to it from the root. -/
abbrev Place := List String

namespace Place

/-- The path from the root to a place. -/
def path (p : Place) : String := "/" ++ "/".intercalate p

/-- The place to which one step leads. -/
def step (p : Place) (s : String) : Place :=
  if s = "" ∨ s = "." then p
  else if s = ".." then p.dropLast
  else p ++ [s]

/-- The place of the directory that holds a place. -/
def parent (p : Place) : Place := p.dropLast

/-- The place from which a path leads on when it is used in a directory. -/
def start (directory : Place) (path : String) : Place :=
  if path.toList.head? = some '/' then [] else directory

end Place

/-- The steps of a path as they are written. -/
def steps (path : String) : List String := (pieces '/' path.toList).map String.ofList

/-- The step is empty or a dot, and leads nowhere. -/
def isIdle (s : String) : Bool := s = "" || s = "."

/-- The steps of a path that lead somewhere, and a dot at its beginning. -/
def components (path : String) : List String :=
  match steps path with
  | [] => []
  | first :: rest => (if first = "" then [] else [first]) ++ rest.filter fun s => !isIdle s

/-- The place that a path names if every step leads on. -/
def nominalPlace (directory : Place) (path : String) : Place :=
  (steps path).foldl Place.step (Place.start directory path)

end ScanIndex.Disk
