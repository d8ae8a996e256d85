import ScanIndex.Sql.Eval
import ScanIndex.Store.Chunk
import ScanIndex.Store.Interface
import ScanIndex.Store.Rows

/-!
# Documents in tables

A `Relational` store keeps documents in the four tables and answers queries by their statements.  It
fails when a rule of the tables would be broken, when it has not been set up, and once it is closed.
The document during which an upsert fails leaves no trace.
-/

namespace ScanIndex

open Sql

/-- The tables of a store, if they have been set up, and whether the store is open. -/
structure Relational where
  tables : Option Tables
  isOpen : Bool

namespace Relational

/-- The open store that has not been set up. -/
def fresh : Relational := ⟨none, true⟩

/-- The open store with the given tables. -/
def ofTables (t : Tables) : Relational := ⟨some t, true⟩

/-- The store without tables and documents that has been set up. -/
def empty : Relational := ofTables .empty

/-- The tables, if they can be reached. -/
def reach? (s : Relational) : Option Tables := if s.isOpen then s.tables else none

/-- Close the store. -/
def close (s : Relational) : Relational := { s with isOpen := false }

/-- The number of keys that one statement removes. -/
def deleteChunk : Nat := 500

/-- The tables with the pages of a document in place of those of the stored document of its file, or
with the document at the end if there is none. -/
def upsertOne (t : Tables) (d : Document) : Except StoreError Tables :=
  match t.insertDocument ⟨d.id, d.file⟩ with
  | none => .error (.write (.insertDocument d.file))
  | some u =>
    let id := ((u.documentOf? d.file).map DocumentRow.id).getD d.id
    match (u.dropPages fun x => x = id).insertPages id 0 d.pages with
    | none => .error (.write (.insertPages d.file))
    | some u => .ok u

/-- Store documents one after the other, up to the first failure. -/
def upsertAll : List Document → Tables → Except StoreError Unit × Tables
  | [], t => (.ok (), t)
  | d :: ds, t =>
    match upsertOne t d with
    | .ok t => upsertAll ds t
    | .error e => (.error e, t)

/-- Set up the tables. -/
def setup (s : Relational) : Except StoreError Unit × Relational :=
  if s.isOpen then (.ok (), { s with tables := some (s.tables.getD .empty) })
  else (.error (.schema .createSchema), s)

/-- Store documents; nothing is done for an empty list. -/
def upsert (ds : List Document) (s : Relational) : Except StoreError Unit × Relational :=
  match ds, s.isOpen, s.tables with
  | [], _, _ => (.ok (), s)
  | d :: _, false, _ => (.error (.write (.beginUpsert d.file)), s)
  | d :: _, true, none => (.error (.write (.insertDocument d.file)), s)
  | ds, true, some t =>
    let (r, t) := upsertAll ds t
    (r, { s with tables := some t })

/-- Remove the documents with the given identifiers, chunk by chunk. -/
def delete (ids : List String) (s : Relational) : Except StoreError Unit × Relational :=
  match chunks deleteChunk ids, s.reach? with
  | [], _ => (.ok (), s)
  | chunk :: _, none => (.error (.write (.deleteChunk chunk.length)), s)
  | cs, some t =>
    let t := cs.foldl (fun t chunk => t.dropDocuments fun id => id ∈ chunk) t
    (.ok (), { s with tables := some t })

/-- The rows of the documents that a query selects for a purpose, and the tables. -/
def select? (p : Purpose) (q : Query) (s : Relational) : Option (Tables × List DocumentRow) := do
  let t ← s.reach?
  let rows ← t.select? p q.statement
  return (t, rows)

/-- Remove the documents that a query selects. -/
def deleteWhere (q : Query) (s : Relational) : Except StoreError Unit × Relational :=
  match s.select? .removal q with
  | none => (.error (.write .deleteByQuery), s)
  | some (t, rows) =>
    let t := t.dropDocuments fun id => rows.any fun r => r.id = id
    (.ok (), { s with tables := some t })

/-- The documents that a query selects. -/
def documents (q : Query) (s : Relational) : Except StoreError (List Document) :=
  match s.select? .documents q with
  | none => .error (.read .queryDocuments)
  | some (t, rows) => assemble (t.joined rows)

/-- The identifiers of the documents that a query selects. -/
def keys (q : Query) (s : Relational) : Except StoreError (List String) :=
  match s.select? .keys q with
  | none => .error (.read .queryKeys)
  | some (_, rows) => .ok (rows.map DocumentRow.id)

/-- The number of stored documents. -/
def count (s : Relational) : Except StoreError Nat :=
  match s.reach? with
  | none => .error (.read .countDocuments)
  | some t => .ok t.documents.length

instance : DocumentStore Relational where
  setup := setup
  upsert := upsert
  delete := delete
  deleteWhere := deleteWhere
  documents := documents
  keys := keys
  count := count

/-- The numbers of rows of the four tables, if they can be reached. -/
def rowCounts? (s : Relational) : Option (List Nat) :=
  s.reach?.map fun t =>
    [t.documents.length, t.pages.length, t.lines.length, t.coordinates.length]

/-- Remove the coordinates of a line, if the tables can be reached; the number of removed rows is
returned. -/
def loseCoordinates? (line : String) (s : Relational) : Option (Nat × Relational) :=
  s.reach?.map fun t =>
    let lost := t.coordinates.filter fun r => r.line = line
    (lost.length, { s with tables := some (t.dropCoordinates fun id => id = line) })

end Relational

end ScanIndex
