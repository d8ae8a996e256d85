import ScanIndex.Store.Interface

/-!
# Documents in memory

A `Memory` is a list of documents in stored order.  Its methods never fail and keep no other rule
than that a document replaces the pages of the first stored document of its file.
-/

namespace ScanIndex

/-- A list of documents in stored order. -/
structure Memory where
  documents : List Document
deriving DecidableEq

namespace Memory

/-- The store without documents. -/
def empty : Memory := ⟨[]⟩

/-- Store a document in a list of documents. -/
def insert (d : Document) : List Document → List Document
  | [] => [d]
  | e :: es => if e.isFile d.file then { e with pages := d.pages } :: es else e :: insert d es

/-- Store documents one after the other. -/
def upsert (ds : List Document) (m : Memory) : Memory :=
  ⟨ds.foldl (fun es d => insert d es) m.documents⟩

/-- Remove the documents with the given identifiers. -/
def delete (ids : List String) (m : Memory) : Memory :=
  ⟨m.documents.filter fun d => d.id ∉ ids⟩

/-- Remove the documents that a query accepts. -/
def deleteWhere (q : Query) (m : Memory) : Memory :=
  ⟨m.documents.filter fun d => !q.accepts d⟩

/-- The documents that a query accepts. -/
def select (q : Query) (m : Memory) : List Document := m.documents.filter q.accepts

instance : DocumentStore Memory where
  setup m := (.ok (), m)
  upsert ds m := (.ok (), m.upsert ds)
  delete ids m := (.ok (), m.delete ids)
  deleteWhere q m := (.ok (), m.deleteWhere q)
  documents q m := .ok (m.select q)
  keys q m := .ok ((m.select q).map Document.id)
  count m := .ok m.documents.length

end Memory

end ScanIndex
