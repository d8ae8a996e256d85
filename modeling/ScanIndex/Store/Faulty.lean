import ScanIndex.Store.Interface

/-!
# Stores with methods out of order

A `Faulty σ` is a store of which some methods fail and leave the store as it is.
-/

namespace ScanIndex

/-- A method of a store. -/
inductive StoreMethod where
  | setup
  | upsert
  | delete
  | deleteWhere
  | documents
  | keys
  | count
deriving DecidableEq

/-- A store, and those of its methods that are out of order. -/
structure Faulty (σ : Type) where
  store : σ
  broken : List StoreMethod

namespace Faulty

variable {σ : Type}

/-- Run a method that changes the store, unless it is out of order. -/
def change (m : StoreMethod) (e : StoreError) (f : σ → Except StoreError Unit × σ) (s : Faulty σ) :
    Except StoreError Unit × Faulty σ :=
  if m ∈ s.broken then (.error e, s)
  else
    let (r, store) := f s.store
    (r, { s with store := store })

/-- Run a method that reads the store, unless it is out of order. -/
def look {α : Type} (m : StoreMethod) (e : StoreError) (f : σ → Except StoreError α)
    (s : Faulty σ) : Except StoreError α :=
  if m ∈ s.broken then .error e else f s.store

instance [DocumentStore σ] : DocumentStore (Faulty σ) where
  setup := change .setup (.schema .outOfOrder) DocumentStore.setup
  upsert ds := change .upsert (.write .outOfOrder) (DocumentStore.upsert ds)
  delete ids := change .delete (.write .outOfOrder) (DocumentStore.delete ids)
  deleteWhere q := change .deleteWhere (.write .outOfOrder) (DocumentStore.deleteWhere q)
  documents q := look .documents (.decode .outOfOrder) (DocumentStore.documents q)
  keys q := look .keys (.read .outOfOrder) (DocumentStore.keys q)
  count := look .count (.read .outOfOrder) DocumentStore.count

end Faulty

end ScanIndex
