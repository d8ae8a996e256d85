import ScanIndex.Buckets
import ScanIndex.Indexing.World
import ScanIndex.Search.Region

/-!
# Searching

`search` answers a search request from a store: the files of the documents that it accepts, under
their buckets.  A request that is refused makes no call to the store.
-/

namespace ScanIndex

/-- Why a search failed. -/
inductive SearchError where
  | query (e : QueryError)
  | store (e : StoreError)

namespace SearchError

/-- The code of an error. -/
def code : SearchError → String
  | query e => e.code
  | store e => e.code

/-- The message of an error. -/
def message : SearchError → String
  | query e => e.message
  | store e => e.message

end SearchError

/-- Answer a search request, confined to some buckets if a scope is given. -/
def search {σ : Type} [DocumentStore σ] (request : Json) (scope : Option (List String))
    (w : World σ) : Except SearchError Buckets × World σ :=
  match Filter.ofJson request with
  | .error e => (.error (.query e), w)
  | .ok filter =>
    match w.documents ⟨filter, scope⟩ with
    | (.error e, w) => (.error (.store e), w)
    | (.ok ds, w) => (.ok (Buckets.ofDocuments ds), w)

end ScanIndex
