import ScanIndex.Change.Event
import ScanIndex.Text.Percent

/-!
# Batches of change events as JSON

A batch is an array of events, or a notification: an object whose field `Records` lists the events,
with keys in the encoding of forms and with names that say more than the kind of the change.
-/

namespace ScanIndex

/-- Read an event. -/
def ChangeEvent.decoder : Decoder ChangeEvent :=
  Record.decoder "ChangeEvent"
    ((((Record.pure fun name bucket key => ChangeEvent.mk name ⟨bucket, key⟩).ap
      (.field "event_name" .string)).ap
      (.field "bucket" .string)).ap
      (.field "key" .string))

/-- An event of a notification. -/
structure NotifiedEvent where
  name : String
  bucket : String
  /-- The key in the encoding of forms. -/
  rawKey : String

namespace NotifiedEvent

/-- Read the name of a bucket. -/
def bucketDecoder : Decoder String :=
  Record.decoder "Named" ((Record.pure id).ap (.field "name" .string))

/-- Read the key of an object. -/
def keyDecoder : Decoder String :=
  Record.decoder "ObjectKey" ((Record.pure id).ap (.field "key" .string))

/-- Read the bucket and the key of an event. -/
def placeDecoder : Decoder (String × String) :=
  Record.decoder "S3Entity"
    (((Record.pure Prod.mk).ap (.field "bucket" bucketDecoder)).ap (.field "object" keyDecoder))

/-- Read an event of a notification. -/
def decoder : Decoder NotifiedEvent :=
  Record.decoder "Record"
    (((Record.pure fun name place => NotifiedEvent.mk name place.1 place.2).ap
      (.field "eventName" .string)).ap
      (.field "s3" placeDecoder))

/-- Read the events of a notification. -/
def listDecoder : Decoder (List NotifiedEvent) :=
  Record.decoder "Notification" ((Record.pure id).ap (.field "Records" (.list decoder)))

/-- The name of the kind of change that a name in a notification belongs to. -/
def kindName (name : String) : String :=
  if "ObjectCreated:".toList.isPrefixOf name.toList then ChangeEvent.created
  else if "ObjectRemoved:".toList.isPrefixOf name.toList then ChangeEvent.removed
  else name

/-- The key that the encoding of forms writes as `raw`. -/
def decodeKey (raw : String) : Except EventError String :=
  match Utf8.decode (percentDecode (spaced (Utf8.encode raw))) with
  | .ok key => .ok key
  | .error e => .error (.malformed (.key raw e))

/-- The event that an event of a notification stands for. -/
def toEvent (e : NotifiedEvent) : Except EventError ChangeEvent := do
  let key ← decodeKey e.rawKey
  return ⟨kindName e.name, e.bucket, key⟩

end NotifiedEvent

/-- The outcome of a decoder as that of reading a batch. -/
def BatchError.ofDecoder {α : Type} : Except DecodeError α → Except EventError α
  | .ok a => .ok a
  | .error e => .error (.malformed (.decode e))

/-- Read a batch of events. -/
def readBatch : Json → Except EventError (List ChangeEvent)
  | .array items => BatchError.ofDecoder (items.mapM ChangeEvent.decoder)
  | j =>
    match j.field? "Records" with
    | none => .error (.malformed .shape)
    | some _ => do
      let events ← BatchError.ofDecoder (NotifiedEvent.listDecoder j)
      events.mapM NotifiedEvent.toEvent

end ScanIndex
