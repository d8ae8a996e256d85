import ScanIndex.Filter
import ScanIndex.Store.Error

/-!
# Stores of documents

The class `DocumentStore σ` of stores with states in `σ`.  A method that changes the store returns
the state that it leaves behind also when it fails.
-/

namespace ScanIndex

/-- A store of documents. -/
class DocumentStore (σ : Type) where
  /-- Prepare the store; a store that is prepared already is left as it is. -/
  setup : σ → Except StoreError Unit × σ
  /-- Store documents, one after the other up to the first failure.  A document replaces the pages
  of the stored document of its file, which keeps its identifier. -/
  upsert : List Document → σ → Except StoreError Unit × σ
  /-- Remove the documents with the given identifiers. -/
  delete : List String → σ → Except StoreError Unit × σ
  /-- Remove the documents that a query accepts. -/
  deleteWhere : Query → σ → Except StoreError Unit × σ
  /-- The documents that a query accepts, in stored order. -/
  documents : Query → σ → Except StoreError (List Document)
  /-- The identifiers of the documents that a query accepts, in stored order. -/
  keys : Query → σ → Except StoreError (List String)
  /-- The number of stored documents. -/
  count : σ → Except StoreError Nat

/-- The query that every document satisfies. -/
def Query.everything : Query := ⟨.and [], none⟩

end ScanIndex
