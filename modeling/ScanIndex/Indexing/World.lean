import ScanIndex.Indexing.Engine
import ScanIndex.Store.Interface

/-!
# The state of a running index

A `World` is a store together with the number of identifiers that have been drawn and a log of the
calls that were made to the engine and to the store.
-/

namespace ScanIndex

/-- A call to the engine or to the store. -/
inductive Call where
  | detect (file : File)
  | upsert (documents : List Document)
  | delete (ids : List String)
  | keys (query : Query)
  | documents (query : Query)

/-- A store with the number of drawn identifiers and the calls so far, the first one first. -/
structure World (σ : Type) where
  store : σ
  drawn : Nat
  calls : List Call

namespace World

variable {σ : Type}

/-- The world of a store from which nothing has been drawn and to which no call was made. -/
def ofStore (s : σ) : World σ := ⟨s, 0, []⟩

/-- Write a call into the log. -/
def log (w : World σ) (c : Call) : World σ := { w with calls := w.calls ++ [c] }

/-- The files whose text was asked for. -/
def detected (w : World σ) : List File :=
  w.calls.filterMap fun
    | .detect f => some f
    | _ => none

variable [DocumentStore σ]

/-- Store documents. -/
def upsert (ds : List Document) (w : World σ) : Except StoreError Unit × World σ :=
  let w := w.log (.upsert ds)
  let (r, s) := DocumentStore.upsert ds w.store
  (r, { w with store := s })

/-- Remove the documents with the given identifiers. -/
def delete (ids : List String) (w : World σ) : Except StoreError Unit × World σ :=
  let w := w.log (.delete ids)
  let (r, s) := DocumentStore.delete ids w.store
  (r, { w with store := s })

/-- The identifiers of the documents that a query accepts. -/
def keys (q : Query) (w : World σ) : Except StoreError (List String) × World σ :=
  (DocumentStore.keys q w.store, w.log (.keys q))

/-- The documents that a query accepts. -/
def documents (q : Query) (w : World σ) : Except StoreError (List Document) × World σ :=
  (DocumentStore.documents q w.store, w.log (.documents q))

end World

end ScanIndex
