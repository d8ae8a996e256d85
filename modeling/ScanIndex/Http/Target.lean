import ScanIndex.Text.Blank
import ScanIndex.Text.Form

/-!
# Targets of requests

A target is a path, which a question mark separates from a query string.  A scheme and a host may
stand before the path.  The query string is a form; `bucketsOf` reads its field `buckets`, a list of
names between commas.
-/

namespace ScanIndex.Http

/-- The characters behind the first `://`, if there is one. -/
def behindScheme : List Char → Option (List Char)
  | ':' :: '/' :: '/' :: cs => some cs
  | _ :: cs => behindScheme cs
  | [] => none

/-- The path and the query string of a target without its scheme and host; a target that names no
path and has no scheme is kept as it is. -/
def withoutHost (cs : List Char) : List Char :=
  if cs.head? = some '/' then cs
  else
    match behindScheme cs with
    | none => cs
    | some cs =>
      let path := cs.dropWhile fun c => c ≠ '/' ∧ c ≠ '?' ∧ c ≠ '#'
      if path.head? = some '/' then path else '/' :: path

/-- The path of a target and its query string. -/
def splitTarget (target : String) : String × String :=
  let (path, query) := splitFirst '?' (splitFirst '#' (withoutHost target.toList)).1
  (String.ofList path, String.ofList (query.getD []))

/-- The names in a list between commas. -/
def namesOf (list : String) : List String :=
  ((pieces ',' list.toList).map fun p => String.ofList (trimmed p)).filter fun s => s ≠ ""

/-- The names that the query string confines a search to, if it does; the error is a repeated
field. -/
def bucketsOf (query : String) : Except String (Option (List String)) :=
  match (formFields query).filter fun f => f.1 = "buckets" with
  | [] => .ok none
  | [(_, list)] => .ok (if namesOf list = [] then none else some (namesOf list))
  | _ => .error "duplicate field `buckets`"

end ScanIndex.Http
