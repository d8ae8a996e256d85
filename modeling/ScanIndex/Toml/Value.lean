/-!
# TOML values

The type `Toml` of values and tables.  A table remembers how it came into being, since that decides
which later lines of a document may add to it.
-/

namespace ScanIndex

/-- How a table came into being. -/
inductive TableOrigin where
  /-- By a header of its own. -/
  | header
  /-- As the parent of a table with a header. -/
  | implied
  /-- By a dotted key. -/
  | dotted
  /-- Between braces. -/
  | inline
deriving DecidableEq

/-- A value or a table. -/
inductive Toml where
  | string (s : String)
  | integer (n : Int)
  | float (x : Float)
  | boolean (b : Bool)
  /-- A date, a time or both. -/
  | datetime
  | array (items : List Toml)
  | table (origin : TableOrigin) (entries : List (String × Toml))
  /-- The tables that were given one after the other under one name, the last one apart. -/
  | tables (earlier : List (List (String × Toml))) (last : List (String × Toml))

namespace Toml

/-- The entries of a table. -/
abbrev Entries := List (String × Toml)

/-- The entry of the given name. -/
def find? (name : String) : Entries → Option Toml
  | [] => none
  | (k, v) :: rest => if k = name then some v else find? name rest

/-- Change the entry of the given name, or add one, if the change allows it. -/
def update (name : String) (f : Option Toml → Option Toml) : Entries → Option Entries
  | [] => (f none).map fun v => [(name, v)]
  | (k, v) :: rest =>
    if k = name then (f (some v)).map fun v => (k, v) :: rest
    else (update name f rest).map fun rest => (k, v) :: rest

/-- Change the entries of the table under the keys of a header, which are made where they are
missing. -/
def within (f : Entries → Option Entries) : List String → Entries → Option Entries
  | [], es => f es
  | k :: ks, es => es |> update k fun
    | none => (within f ks []).map (table .implied)
    | some (table .inline _) => none
    | some (table o es) => (within f ks es).map (table o)
    | some (tables earlier last) => (within f ks last).map (tables earlier)
    | some _ => none

/-- Add a value under a key that is not taken. -/
def put (k : String) (v : Toml) (es : Entries) : Option Entries :=
  es |> update k fun
    | none => some v
    | some _ => none

/-- Add a value under dotted keys.  The innermost table must have been made by a dotted key, and the
tables around it must not have a header. -/
def putDotted (k : String) (v : Toml) : List String → Entries → Option Entries
  | [], es => put k v es
  | d :: ds, es => es |> update d fun
    | none => (putDotted k v ds []).map (table .dotted)
    | some (table .dotted es) => (putDotted k v ds es).map (table .dotted)
    | some (table .implied es) =>
      if ds.isEmpty then none else (putDotted k v ds es).map (table .implied)
    | some (tables earlier last) =>
      if ds.isEmpty then none else (putDotted k v ds last).map (tables earlier)
    | some _ => none

/-- Open the table of a header. -/
def openTable (k : String) (es : Entries) : Option Entries :=
  es |> update k fun
    | none => some (table .header [])
    | some (table .implied es) => some (table .header es)
    | some _ => none

/-- Open one more table of a name that may be given several times. -/
def openNext (k : String) (es : Entries) : Option Entries :=
  es |> update k fun
    | none => some (tables [] [])
    | some (tables earlier last) => some (tables (earlier ++ [last]) [])
    | some _ => none

end Toml

end ScanIndex
