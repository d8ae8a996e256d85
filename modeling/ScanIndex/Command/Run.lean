import ScanIndex.Change.Batch
import ScanIndex.Command.Arguments
import ScanIndex.Config.Reader
import ScanIndex.Disk.Database
import ScanIndex.Indexing.Process
import ScanIndex.Indexing.Provider
import ScanIndex.Internet.Endpoint
import ScanIndex.Json.Printer
import ScanIndex.Json.Reader
import ScanIndex.Search.Service
import ScanIndex.Version

/-!
# Runs of the command line

`run` carries out one run of the program on a `Machine`: the files, the variables and the databases
that the run finds.  The databases that it leaves behind are those that the next run finds.
-/

namespace ScanIndex.Command

/-- What a run finds. -/
structure Machine where
  tree : Disk.Tree
  /-- The directory in which the program is run. -/
  directory : Disk.Place
  environment : Environment
  /-- The ports of the loopback address at which other programs accept connections. -/
  takenPorts : List Nat
  /-- The number of identifiers that have been drawn. -/
  drawn : Nat

/-- What a run needs from outside: a way to send requests, the date, and identifiers. -/
structure Outside where
  send : Textract.Transport
  date : String
  ids : Supply
  /-- What the reader of JSON text says of a text that holds no value. -/
  syntaxError : String → String

/-- How a run ends. -/
inductive Outcome where
  | done (output : String)
  | failed (message : String)
  | misuse
  /-- The service is started at an address. -/
  | listening (address : String)
deriving DecidableEq

namespace Outcome

/-- The exit code of a run. -/
def code : Outcome → Nat
  | done _ => 0
  | failed _ => 1
  | misuse => 2
  | listening _ => 0

/-- What a run writes to its output. -/
def output : Outcome → String
  | done s => s
  | failed _ => ""
  | misuse => ""
  | listening address => "pagegrep server listening on http://" ++ address ++ "\n"

/-- The message of a failed run. -/
def error? : Outcome → Option String
  | failed m => some m
  | _ => none

end Outcome

namespace Machine

/-- The text of a file. -/
def read? (m : Machine) (path : String) : Option String := m.tree.read? m.directory path

/-- Open the database with settings. -/
def connect (m : Machine) (c : Config) : Except String Disk.Connection × Machine :=
  match m.tree.connect m.directory c.databasePath with
  | (.ok d, tree) => (.ok d, { m with tree := tree })
  | (.error e, tree) => (.error e.message, { m with tree := tree })

/-- Put a database back. -/
def keep (m : Machine) (d : Disk.Connection) : Machine := { m with tree := m.tree.keep d }

end Machine

/-- An error with its code behind it. -/
def withCode (message code : String) : String := message ++ " (" ++ code ++ ")"

/-- The line that reports on a batch of so many events. -/
def summary (events : Nat) (r : Report) : String :=
  "events: " ++ toString events ++ "  upserted: " ++ toString r.upserted ++ "  deleted: "
    ++ toString r.deleted ++ "  skipped: " ++ toString r.skipped ++ "\n"

/-- Read the events of a file. -/
def loadEvents (m : Machine) (path : String) : Except String (List ChangeEvent) :=
  match m.read? path with
  | none => .error ("Failed to read events file: " ++ path)
  | some text =>
    match Json.parse? text with
    | none => .error ("Events file is not valid JSON: " ++ path)
    | some j =>
      match readBatch j with
      | .ok events => .ok events
      | .error e => .error e.message

/-- Set up the database. -/
def initialise (c : Config) (m : Machine) : Outcome × Machine :=
  match m.connect c with
  | (.error e, m) => (.failed e, m)
  | (.ok d, m) =>
    match DocumentStore.setup d.store with
    | (.ok (), s) => (.done "Database initialized successfully.\n", m.keep { d with store := s })
    | (.error _, _) => (.failed Disk.OpenError.readOnlyMessage, m)

/-- Set up the database and select the provider of text recognition. -/
def prepare (c : Config) (m : Machine) : Except String (Disk.Connection × Provider) × Machine :=
  match m.connect c with
  | (.error e, m) => (.error e, m)
  | (.ok d, m) =>
    match DocumentStore.setup d.store with
    | (.error e, _) => (.error e.message, m)
    | (.ok (), s) =>
      let d := { d with store := s }
      match Provider.ofConfig c.ocr m.environment with
      | .error e => (.error e.message, m.keep d)
      | .ok p => (.ok (d, p), m.keep d)

/-- Process events. -/
def runEvents (o : Outside) (c : Config) (events : List ChangeEvent) (m : Machine) :
    Outcome × Machine :=
  match prepare c m with
  | (.error e, m) => (.failed e, m)
  | (.ok (d, p), m) =>
    let world : World (Faulty Relational) := { World.ofStore d.store with drawn := m.drawn }
    let (r, world) := process (p.engine o.send o.date) o.ids events world
    let m := { m.keep { d with store := world.store } with drawn := world.drawn }
    match r with
    | some (.ok r) => (.done (summary events.length r), m)
    | some (.error e) => (.failed (withCode e.message e.code), m)
    | none => (.failed "no answer", m)

/-- Answer a search. -/
def runSearch (o : Outside) (c : Config) (query : String) (buckets : List String) (m : Machine) :
    Outcome × Machine :=
  match Json.parse? query with
  | none => (.failed ("Search body is not valid JSON: " ++ o.syntaxError query), m)
  | some j =>
    match m.connect c with
    | (.error e, m) => (.failed e, m)
    | (.ok d, m) =>
      let scope := if buckets.isEmpty then none else some buckets
      match (search j scope (World.ofStore d.store)).1 with
      | .error e => (.failed (withCode e.message e.code), m)
      | .ok groups =>
        let data :=
          Json.object (groups.map fun (bucket, keys) => (bucket, .array (keys.map .string)))
        (.done (Json.pretty (.object [("data", data), ("message", .string "success")]) ++ "\n"), m)

/-- Start the service. -/
def runServe (c : Config) (m : Machine) : Outcome × Machine :=
  match prepare c m with
  | (.error e, m) => (.failed e, m)
  | (.ok _, m) =>
    match Internet.Endpoint.ofText c.server.bind with
    | .error e => (.failed e.message, m)
    | .ok e =>
      match e.bindFailure? m.takenPorts with
      | some e => (.failed e.message, m)
      | none => (.listening c.server.bind, m)

/-- Carry out an action with settings. -/
def perform (o : Outside) (c : Config) (a : Action) (m : Machine) : Outcome × Machine :=
  match a with
  | .init => initialise c m
  | .index f => runEvents o c [⟨ChangeEvent.created, f⟩] m
  | .remove f => runEvents o c [⟨ChangeEvent.removed, f⟩] m
  | .ingest path =>
    match loadEvents m path with
    | .error e => (.failed e, m)
    | .ok events => runEvents o c events m
  | .search query buckets => runSearch o c query buckets m
  | .serve => runServe c m

/-- Read the settings in a file. -/
def loadConfig (m : Machine) (path : String) : Except ConfigError Config :=
  match m.read? path with
  | none => .error (.unreadable path)
  | some text => Config.parse text

/-- Carry out a run. -/
def run (o : Outside) (args : List String) (m : Machine) : Outcome × Machine :=
  match Request.ofArguments args with
  | .version => (.done ("pagegrep " ++ version ++ "\n"), m)
  | .help => (.done "", m)
  | .misuse => (.misuse, m)
  | .run settings action =>
    match loadConfig m settings with
    | .error e => (.failed e.message, m)
    | .ok c => perform o c action m

end ScanIndex.Command
