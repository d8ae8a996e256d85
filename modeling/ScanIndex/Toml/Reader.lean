import ScanIndex.Toml.Scalar

/-!
# Reading TOML documents

`Toml.parse?` reads a document as the entries of its outermost table.  A document is a list of
lines, each of which opens a table or gives a value to a key.
-/

namespace ScanIndex.Toml

mutual

/-- The value at the front of a text; `depth` values may be nested, and `fuel` bounds the number of
steps. -/
def value? : (fuel : Nat) → (depth : Nat) → List Char → Option (Toml × List Char)
  | 0, _, _ => none
  | fuel + 1, depth, cs =>
    match cs, depth with
    | '[' :: _, 0 => none
    | '\x7b' :: _, 0 => none
    | '[' :: cs, depth + 1 =>
      match skipLines false cs with
      | ']' :: cs => some (.array [], cs)
      | cs => items? fuel depth [] cs
    | '\x7b' :: cs, depth + 1 =>
      match skipGap cs with
      | '\x7d' :: cs => some (.table .inline [], cs)
      | cs => pairs? fuel depth [] cs
    | cs, _ => scalarValue? cs

/-- The rest of an array of which the items `done`, the last one first, have been read. -/
def items? : (fuel : Nat) → (depth : Nat) → (done : List Toml) → List Char →
    Option (Toml × List Char)
  | 0, _, _, _ => none
  | fuel + 1, depth, done, cs =>
    match value? fuel depth cs with
    | none => none
    | some (v, cs) =>
      match skipLines false cs with
      | ']' :: cs => some (.array (v :: done).reverse, cs)
      | ',' :: cs =>
        match skipLines false cs with
        | ']' :: cs => some (.array (v :: done).reverse, cs)
        | cs => items? fuel depth (v :: done) cs
      | _ => none

/-- The rest of a table between braces that has the entries `done` so far. -/
def pairs? : (fuel : Nat) → (depth : Nat) → (done : Entries) → List Char →
    Option (Toml × List Char)
  | 0, _, _, _ => none
  | fuel + 1, depth, done, cs =>
    match key? cs with
    | some (ks, '=' :: cs) =>
      match value? fuel depth (skipGap cs) with
      | none => none
      | some (v, cs) =>
        match putDotted (ks.getLastD "") v ks.dropLast done with
        | none => none
        | some done =>
          match skipGap cs with
          | '\x7d' :: cs => some (.table .inline done, cs)
          | ',' :: cs => pairs? fuel depth done cs
          | _ => none
    | _ => none

end

/-- What a line of a document says. -/
inductive Statement where
  /-- The following lines belong to the table under these keys. -/
  | header (keys : List String)
  /-- The following lines belong to one more table under these keys. -/
  | nextHeader (keys : List String)
  | pair (keys : List String) (v : Toml)

/-- The statement at the front of a text that begins with neither a blank nor a line break. -/
def statement? (cs : List Char) : Option (Statement × List Char) :=
  match cs with
  | '[' :: '[' :: cs =>
    match key? cs with
    | some (ks, ']' :: ']' :: cs) => some (.nextHeader ks, cs)
    | _ => none
  | '[' :: cs =>
    match key? cs with
    | some (ks, ']' :: cs) => some (.header ks, cs)
    | _ => none
  | cs =>
    match key? cs with
    | some (ks, '=' :: cs) =>
      (value? (2 * cs.length + 2) maxDepth (skipGap cs)).map fun (v, cs) => (.pair ks v, cs)
    | _ => none

/-- The tables of a document, and the keys of the table that the next line belongs to. -/
structure State where
  root : Entries
  keys : List String

/-- Carry out a statement. -/
def State.step (s : State) : Statement → Option State
  | .header ks =>
    (within (openTable (ks.getLastD "")) ks.dropLast s.root).map fun root => ⟨root, ks⟩
  | .nextHeader ks =>
    (within (openNext (ks.getLastD "")) ks.dropLast s.root).map fun root => ⟨root, ks⟩
  | .pair ks v =>
    (within (putDotted (ks.getLastD "") v ks.dropLast) s.keys s.root).map fun root =>
      { s with root := root }

/-- Carry out the lines of a document; `fuel` bounds their number. -/
def run : (fuel : Nat) → State → List Char → Option State
  | 0, _, _ => none
  | fuel + 1, s, cs =>
    match skipGap cs with
    | [] => some s
    | c :: cs =>
      if c = '#' ∨ c = '\n' ∨ c = '\r' then do
        let cs ← lineEnd? (c :: cs)
        run fuel s cs
      else do
        let (statement, cs) ← statement? (c :: cs)
        let s ← s.step statement
        let cs ← lineEnd? cs
        run fuel s cs

/-- The entries of the outermost table of a document. -/
def parse? (text : String) : Option Entries :=
  let cs :=
    match text.toList with
    | '\ufeff' :: cs => cs
    | cs => cs
  (run (cs.length + 1) ⟨[], []⟩ cs).map State.root

end ScanIndex.Toml
