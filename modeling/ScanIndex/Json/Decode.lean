import ScanIndex.Decimal.Notation
import ScanIndex.Json.Value
import ScanIndex.Text.Quoted

/-!
# Decoding JSON values

A `Decoder α` turns a JSON value into a value of `α`, or says what is wrong with it.  A `Record α`
lists the fields of a record in the order of their declaration; `Record.decoder` reads it from an
object, whose fields are visited in the order in which the object lists them, or from an array of
the fields in the order of their declaration.  Fields of other names are passed over.
-/

namespace ScanIndex

/-- What a decoder asked for. -/
inductive Expected where
  | string
  | int64
  | float64
  | sequence
  | arrayOfLength (n : Nat)
  | record (name : String)
  | recordOfSize (name : String) (size : Nat)
  | fewerElements
  | unit
  | stringOrMap
  | singleKeyMap

/-- The text of an expectation. -/
def Expected.text : Expected → String
  | string => "a string"
  | int64 => "i64"
  | float64 => "f64"
  | sequence => "a sequence"
  | arrayOfLength n => "an array of length " ++ toString n
  | record name => "struct " ++ name
  | recordOfSize name n =>
    "struct " ++ name ++ " with " ++ toString n ++ (if n = 1 then " element" else " elements")
  | fewerElements => "fewer elements in array"
  | unit => "unit"
  | stringOrMap => "string or map"
  | singleKeyMap => "map with a single key"

/-- Why a value could not be decoded. -/
inductive DecodeError where
  /-- A value of the wrong kind. -/
  | wrongType (found : Json) (expected : Expected)
  /-- A value of the right kind that is out of range. -/
  | wrongValue (found : Json) (expected : Expected)
  /-- An array of the wrong length. -/
  | wrongLength (length : Nat) (expected : Expected)
  | missingField (name : String)
  | duplicateField (name : String)

/-- A value as an error message shows it. -/
def Json.found : Json → String
  | .null => "null"
  | .bool b => "boolean `" ++ toString b ++ "`"
  | .number (.int n) => "integer `" ++ toString n ++ "`"
  | .number (.float x) => "floating point `" ++ floatText x ++ "`"
  | .string s => "string " ++ quoted s
  | .array _ => "sequence"
  | .object _ => "map"

/-- The text of a decoding error. -/
def DecodeError.message : DecodeError → String
  | wrongType j e => "invalid type: " ++ j.found ++ ", expected " ++ e.text
  | wrongValue j e => "invalid value: " ++ j.found ++ ", expected " ++ e.text
  | wrongLength n e => "invalid length " ++ toString n ++ ", expected " ++ e.text
  | missingField name => "missing field `" ++ name ++ "`"
  | duplicateField name => "duplicate field `" ++ name ++ "`"

/-- A way to read values of `α` from JSON. -/
abbrev Decoder (α : Type) := Json → Except DecodeError α

namespace Decoder

/-- Read a text. -/
def string : Decoder String
  | .string s => .ok s
  | j => .error (.wrongType j .string)

/-- Read an integer of 64 bits with sign. -/
def int64 : Decoder Int64
  | .number (.int n) =>
    if -0x8000000000000000 ≤ n ∧ n < 0x8000000000000000 then .ok (Int64.ofInt n)
    else .error (.wrongValue (.number (.int n)) .int64)
  | j => .error (.wrongType j .int64)

/-- The float nearest to an integer of 64 bits. -/
def floatOfInt (n : Int) : Float :=
  if n < 0 then -n.natAbs.toUInt64.toFloat else n.natAbs.toUInt64.toFloat

/-- Read a float; an integer is taken as one. -/
def float : Decoder Float
  | .number (.int n) => .ok (floatOfInt n)
  | .number (.float x) => .ok x
  | j => .error (.wrongType j .float64)

/-- Read a list from an array. -/
def list {α : Type} (item : Decoder α) : Decoder (List α)
  | .array items => items.mapM item
  | j => .error (.wrongType j .sequence)

/-- Read a value that may be null. -/
def optional {α : Type} (value : Decoder α) : Decoder (Option α)
  | .null => .ok none
  | j => some <$> value j

/-- Read a pair from an array of two items. -/
def pair {α : Type} (item : Decoder α) : Decoder (α × α)
  | .array [] => .error (.wrongLength 0 (.arrayOfLength 2))
  | .array [a] => do
    let _ ← item a
    .error (.wrongLength 1 (.arrayOfLength 2))
  | .array [a, b] => do
    let x ← item a
    let y ← item b
    return (x, y)
  | .array (a :: b :: rest) => do
    let _ ← item a
    let _ ← item b
    .error (.wrongLength (rest.length + 2) .fewerElements)
  | j => .error (.wrongType j (.arrayOfLength 2))

end Decoder

/-- A reader of records. -/
structure Record (α : Type) where
  /-- The names of the fields in the order of their declaration. -/
  names : List String
  /-- Check the value of a field of the given name. -/
  check : String → Json → Except DecodeError Unit
  /-- Put the record together from the values of its fields, all of which have been checked. -/
  collect : (String → Option Json) → Except DecodeError α
  /-- Put the record together from the items of an array, of which the given number have been
  used.  The error for a missing item is given by the number of items. -/
  take : (Nat → DecodeError) → Nat → List Json → Except DecodeError (α × Nat × List Json)

namespace Record

variable {α β : Type}

/-- The record without fields. -/
def pure (a : α) : Record α where
  names := []
  check _ _ := .ok ()
  collect _ := .ok a
  take _ used items := .ok (a, used, items)

/-- The record with one field.  `absent` is its value if an object does not have it, and `short`
its value if an array ends before it. -/
def one (name : String) (value : Decoder α) (absent short : Option α) : Record α where
  names := [name]
  check k j := if k = name then (fun _ => ()) <$> value j else .ok ()
  collect look :=
    match look name, absent with
    | some j, _ => value j
    | none, some a => .ok a
    | none, none => .error (.missingField name)
  take missing used items :=
    match items, short with
    | j :: rest, _ => (fun a => (a, used + 1, rest)) <$> value j
    | [], some a => .ok (a, used, [])
    | [], none => .error (missing used)

/-- A field that must be there. -/
def field (name : String) (value : Decoder α) : Record α := one name value none none

/-- A field that may be left out. -/
def fieldD (name : String) (value : Decoder α) (default : α) : Record α :=
  one name value (some default) (some default)

/-- Two records side by side. -/
def ap (r : Record (α → β)) (s : Record α) : Record β where
  names := r.names ++ s.names
  check k j := do
    r.check k j
    s.check k j
  collect look := do
    let f ← r.collect look
    let a ← s.collect look
    .ok (f a)
  take missing used items := do
    let (f, used, items) ← r.take missing used items
    let (a, used, items) ← s.take missing used items
    .ok (f a, used, items)

/-- Check the fields of an object one after the other; `seen` are the names that have come up. -/
def visit (r : Record α) (seen : List String) : List (String × Json) → Except DecodeError Unit
  | [] => .ok ()
  | (k, j) :: rest =>
    if k ∈ r.names then
      if k ∈ seen then .error (.duplicateField k)
      else do
        r.check k j
        r.visit (k :: seen) rest
    else r.visit seen rest

/-- Read the record from the fields of an object. -/
def ofFields (r : Record α) (fields : List (String × Json)) : Except DecodeError α := do
  r.visit [] fields
  r.collect fun name => Json.lookup name fields

/-- Read the record from the items of an array. -/
def ofItems (name : String) (r : Record α) (items : List Json) : Except DecodeError α := do
  let size := r.names.length
  let (a, _, rest) ← r.take (fun n => .wrongLength n (.recordOfSize name size)) 0 items
  if rest.isEmpty then .ok a else .error (.wrongLength items.length .fewerElements)

/-- Read the record, which goes by the given name in error messages. -/
def decoder (name : String) (r : Record α) : Decoder α
  | .object fields => r.ofFields fields
  | .array items => r.ofItems name items
  | j => .error (.wrongType j (.record name))

end Record

end ScanIndex
