/-!
# JSON values

The type `Json` of JSON values, with integers and floating-point numbers kept apart; the look-up
`Json.field?`; and `Json.canonical`, which puts the fields of every object in ascending order and
keeps the last of several fields of one name.  A value is `Json.Canonical` when every object in it
lists its fields in strictly ascending order.
-/

namespace ScanIndex

/-- A JSON number: an integer, or a number that was written with a fraction or an exponent. -/
inductive Number where
  | int (n : Int)
  | float (x : Float)

/-- A JSON value.  The fields of an object are kept as a list. -/
inductive Json where
  | null
  | bool (b : Bool)
  | number (n : Number)
  | string (s : String)
  | array (items : List Json)
  | object (fields : List (String × Json))

namespace Json

instance : Inhabited Json := ⟨null⟩

/-- The name of the kind of a value. -/
def kind : Json → String
  | null => "null"
  | bool _ => "boolean"
  | number _ => "number"
  | string _ => "string"
  | array _ => "array"
  | object _ => "object"

/-- The integer `n` as a value. -/
def ofInt (n : Int) : Json := number (.int n)

/-- The number `x` as a value; no number of JSON stands for a float that is not finite, and null
takes its place. -/
def ofFloat (x : Float) : Json := if x.isFinite then number (.float x) else null

/-- The first field of the given name in a list of fields. -/
def lookup (name : String) : List (String × Json) → Option Json
  | [] => none
  | (k, v) :: rest => if k = name then some v else lookup name rest

/-- The field of the given name, if the value is an object that has one. -/
def field? (name : String) : Json → Option Json
  | object fields => lookup name fields
  | _ => none

/-- Put a field in its place in an ascending list of fields; a field of the same name is
replaced. -/
def insertField (name : String) (v : Json) : List (String × Json) → List (String × Json)
  | [] => [(name, v)]
  | (k, w) :: rest =>
    if name < k then (name, v) :: (k, w) :: rest
    else if name = k then (name, v) :: rest
    else (k, w) :: insertField name v rest

mutual

/-- The value with the fields of every object in ascending order of their names, the last of
several fields of one name being kept. -/
def canonical : Json → Json
  | null => null
  | bool b => bool b
  | number n => number n
  | string s => string s
  | array items => array (canonicalItems items)
  | object fields => object (canonicalFields fields [])

/-- The canonical forms of the items of an array. -/
def canonicalItems : List Json → List Json
  | [] => []
  | v :: rest => canonical v :: canonicalItems rest

/-- Insert the canonical forms of the fields into the fields `done` one after the other. -/
def canonicalFields : List (String × Json) → List (String × Json) → List (String × Json)
  | [], done => done
  | (k, v) :: rest, done => canonicalFields rest (insertField k (canonical v) done)

end

mutual

/-- Every object in the value lists its fields in strictly ascending order of their names. -/
def Canonical : Json → Prop
  | array items => CanonicalItems items
  | object fields => fields.Pairwise (fun f g => f.1 < g.1) ∧ CanonicalFields fields
  | _ => True

/-- Every item is canonical. -/
def CanonicalItems : List Json → Prop
  | [] => True
  | v :: rest => Canonical v ∧ CanonicalItems rest

/-- The value of every field is canonical. -/
def CanonicalFields : List (String × Json) → Prop
  | [] => True
  | (_, v) :: rest => Canonical v ∧ CanonicalFields rest

end

end Json

end ScanIndex
