import ScanIndex.Change.Event
import ScanIndex.Indexing.World
import ScanIndex.Store.Chunk
import ScanIndex.Transcript

/-!
# Processing a batch of change events

`process` carries out a batch in four stages: the text of the created files is recognised, the
identifiers of the documents of the removed files are looked up, the new documents are stored, and
the documents that were looked up are removed.  A batch that is refused, and one without anything to
do, make no call.  The outcome is `none` if the engine never answers.
-/

namespace ScanIndex

/-- Why a batch failed. -/
inductive ProcessError where
  | event (e : EventError)
  | parseFailed (file : File) (source : OcrError)
  | resolveFailed (bucket : String) (source : StoreError)
  | upsertFailed (source : StoreError)
  | deleteFailed (source : StoreError)

namespace ProcessError

/-- The code of an error. -/
def code : ProcessError → String
  | event e => e.code
  | parseFailed _ _ => "PARSE_FAILED"
  | resolveFailed _ e => e.code
  | upsertFailed _ => "UPSERT_FAILED"
  | deleteFailed _ => "DELETE_FAILED"

/-- The message of an error. -/
def message : ProcessError → String
  | event e => e.message
  | parseFailed f _ => "failed to parse s3://" ++ f.path
  | resolveFailed bucket _ => "failed to resolve removed files in bucket " ++ bucket
  | upsertFailed _ => "failed to upsert documents"
  | deleteFailed _ => "failed to delete documents"

/-- The batch itself is at fault, and not the engine or the store. -/
def isClientError : ProcessError → Bool
  | event _ => true
  | _ => false

end ProcessError

/-- What a batch has done. -/
structure Report where
  /-- The number of documents that were stored. -/
  upserted : Nat
  /-- The number of documents that were removed. -/
  deleted : Nat
  /-- The number of events without a supported extension. -/
  skipped : Nat
deriving DecidableEq

/-- The number of keys that one look-up of removed files asks for. -/
def resolveChunk : Nat := 500

/-- The queries that look up the documents of removed files, each with its bucket. -/
def resolveQueries (deletes : Buckets) : List (String × Query) :=
  deletes.flatMap fun (bucket, keys) =>
    (chunks resolveChunk keys).map fun chunk => (bucket, Query.ofFiles bucket chunk)

/-- The items of a list in ascending order, each once. -/
def ascending (ids : List String) : List String :=
  ids.foldl (fun done id => place id done) []
where
  /-- Put an item in its place, unless it is there. -/
  place (id : String) : List String → List String
    | [] => [id]
    | x :: xs => if id < x then id :: x :: xs else if id = x then x :: xs else x :: place id xs

/-- The outcome of some work on a batch: an error, a value, or none if the engine never answers. -/
abbrev Attempt (α : Type) := Option (Except ProcessError α)

variable {σ : Type}

/-- The documents of files, in their order. -/
def recognise (engine : Engine) (ids : Supply) :
    List File → World σ → Attempt (List Document) × World σ
  | [], w => (some (.ok []), w)
  | f :: fs, w =>
    let call := w.detected.length
    let w := w.log (.detect f)
    match engine call f with
    | none => (none, w)
    | some (.error e) => (some (.error (.parseFailed f e)), w)
    | some (.ok blocks) =>
      let (d, n) := Document.ofBlocks ids w.drawn f blocks
      match recognise engine ids fs { w with drawn := n } with
      | (some (.ok ds), w) => (some (.ok (d :: ds)), w)
      | (r, w) => (r, w)

variable [DocumentStore σ]

/-- The identifiers that the look-ups find, one look-up after the other. -/
def resolve : List (String × Query) → World σ → Except ProcessError (List String) × World σ
  | [], w => (.ok [], w)
  | (bucket, q) :: qs, w =>
    match w.keys q with
    | (.error e, w) => (.error (.resolveFailed bucket e), w)
    | (.ok found, w) =>
      match resolve qs w with
      | (.ok more, w) => (.ok (found ++ more), w)
      | (.error e, w) => (.error e, w)

/-- Store documents, unless there are none, and then remove documents, unless there are none. -/
def commit (documents : List Document) (doomed : List String) (w : World σ) :
    Except ProcessError Unit × World σ :=
  let (stored, w) := if documents.isEmpty then (.ok (), w) else w.upsert documents
  match stored with
  | .error e => (.error (.upsertFailed e), w)
  | .ok () =>
    let (removed, w) := if doomed.isEmpty then (.ok (), w) else w.delete doomed
    match removed with
    | .error e => (.error (.deleteFailed e), w)
    | .ok () => (.ok (), w)

/-- Look up the documents of removed files, store the new documents, and remove those that were
looked up. -/
def apply (documents : List Document) (plan : Plan) (w : World σ) :
    Except ProcessError Report × World σ :=
  match resolve (resolveQueries plan.deletes) w with
  | (.error e, w) => (.error e, w)
  | (.ok found, w) =>
    let doomed := ascending found
    match commit documents doomed w with
    | (.error e, w) => (.error e, w)
    | (.ok (), w) => (.ok ⟨documents.length, doomed.length, plan.skipped⟩, w)

/-- Carry out a plan that asks for something. -/
def carryOut (engine : Engine) (ids : Supply) (plan : Plan) (w : World σ) :
    Attempt Report × World σ :=
  match recognise engine ids plan.upserts w with
  | (none, w) => (none, w)
  | (some (.error e), w) => (some (.error e), w)
  | (some (.ok documents), w) =>
    let (r, w) := apply documents plan w
    (some r, w)

/-- Process a batch of events. -/
def process (engine : Engine) (ids : Supply) (events : List ChangeEvent) (w : World σ) :
    Attempt Report × World σ :=
  match route events with
  | .error e => (some (.error (.event e)), w)
  | .ok plan =>
    if plan.isEmpty then (some (.ok ⟨0, 0, plan.skipped⟩), w) else carryOut engine ids plan w

end ScanIndex
