import ScanIndex.Buckets
import ScanIndex.Json.Decode
import ScanIndex.Text.Utf8

/-!
# Change events

A `ChangeEvent` says that a file of the object store was created or removed.  Only keys with one of
the supported extensions are of interest.  `route` turns a list of events into a `Plan`, or refuses
it as a whole.
-/

namespace ScanIndex

/-- A change of a file, under the name of its kind. -/
structure ChangeEvent where
  name : String
  file : File
deriving DecidableEq

namespace ChangeEvent

/-- The name of the creation of a file. -/
def created : String := "OBJECT_CREATED"

/-- The name of the removal of a file. -/
def removed : String := "OBJECT_REMOVED"

end ChangeEvent

/-- The ends of the keys that are of interest. -/
def supportedSuffixes : List String := [".jpg", ".jpeg", ".png"]

/-- The key has one of the supported extensions. -/
def isSupported (key : String) : Bool :=
  supportedSuffixes.any fun s => s.toList.isSuffixOf key.toList

/-- Why a batch of events cannot be read. -/
inductive BatchError where
  | decode (e : DecodeError)
  /-- The bytes of a key are no text. -/
  | key (raw : String) (e : Utf8.Malformed)
  /-- The batch is neither a list of events nor a notification. -/
  | shape

/-- The message of an error in a batch. -/
def BatchError.message : BatchError → String
  | decode e => e.message
  | key raw e => "object key " ++ quoted raw ++ ": " ++ e.message
  | shape => "expected an array of events or a Records notification"

/-- Why a batch of events is refused. -/
inductive EventError where
  | unsupported (name : String)
  | malformed (e : BatchError)

namespace EventError

/-- The code of an error. -/
def code : EventError → String
  | unsupported _ => "UNSUPPORTED_EVENT"
  | malformed _ => "MALFORMED_EVENTS"

/-- The message of an error. -/
def message : EventError → String
  | unsupported name => "unsupported event: " ++ name
  | malformed e => "malformed event batch: " ++ e.message

end EventError

/-- What a batch of events asks for. -/
structure Plan where
  /-- The files to index, in the order of their events. -/
  upserts : List File
  /-- The files to remove, under each bucket in the order of their events. -/
  deletes : Buckets
  /-- The number of events without a supported extension. -/
  skipped : Nat
deriving DecidableEq

namespace Plan

/-- The plan of the empty batch. -/
def empty : Plan := ⟨[], [], 0⟩

/-- There is nothing to index and nothing to remove. -/
def isEmpty (p : Plan) : Bool := p.upserts.isEmpty && p.deletes.isEmpty

/-- The number of files to remove. -/
def deleteCount (p : Plan) : Nat := p.deletes.size

/-- The plan with one more event. -/
def add (p : Plan) (e : ChangeEvent) : Except EventError Plan :=
  if isSupported e.file.key then
    if e.name = ChangeEvent.created then .ok { p with upserts := p.upserts ++ [e.file] }
    else if e.name = ChangeEvent.removed then .ok { p with deletes := p.deletes.push e.file }
    else .error (.unsupported e.name)
  else .ok { p with skipped := p.skipped + 1 }

end Plan

/-- The plan of a batch of events.  Events without a supported extension are passed over, whatever
their name. -/
def route (events : List ChangeEvent) : Except EventError Plan := events.foldlM Plan.add .empty

end ScanIndex
