import ScanIndex.Command.Run
import ScanIndex.Identifier
import ScanIndex.Signing.Date
import ScanIndex.Store.Archive
import Std.Time.DateTime.Timestamp

/-!
# The program

One run of the command line: the files that the run needs are read, the run is carried out, and the
database that it leaves behind is written.  Requests to other machines are not sent from here.
-/

namespace ScanIndex.Main

open Command

/-- The text of a file, if it can be read. -/
def readText? (path : String) : IO (Option String) := do
  try
    let bytes ← IO.FS.readBinFile path
    return (Utf8.decode bytes.toList).toOption
  catch _ => return none

/-- Note what stands at a place. -/
def surveyPlace (p : Disk.Place) (t : Disk.Tree) : IO Disk.Tree := do
  if (t.node? p).isSome then return t
  if ← ((← IO.currentDir) / p.path).isDir then return t.put p (.directory true)
  match ← readText? p.path with
  | none => return t
  | some s =>
    match Archive.ofText? s with
    | some d => return t.put p (.database d)
    | none => return t.put p (.text s)

/-- Note what stands at the places to which the steps of a path lead. -/
def surveyPath (directory : Disk.Place) (path : String) (t : Disk.Tree) : IO Disk.Tree := do
  let mut tree := t
  let mut place := Disk.Place.start directory path
  tree ← surveyPlace place tree
  for s in Disk.steps path do
    place := place.step s
    tree ← surveyPlace place tree
  return tree

/-- The paths that a request reads. -/
def pathsOf : Request → List String
  | .run settings (.ingest path) => [settings, path]
  | .run settings _ => [settings]
  | _ => []

/-- The paths that the database of a request leads over. -/
def databasePaths (m : Machine) : Request → List String
  | .run settings _ =>
    match loadConfig m settings with
    | .error _ => []
    | .ok c =>
      match Disk.Location.ofText? c.databasePath >>= Disk.Location.settled? with
      | .ok l => [c.databasePath, l.name]
      | .error _ => [c.databasePath]
  | _ => []

/-- What the run finds. -/
def survey (request : Request) : IO Machine := do
  let directory := Disk.nominalPlace [] (← IO.currentDir).toString
  let mut environment : Environment := []
  for name in ["AWS_ACCESS_KEY_ID", "AWS_SECRET_ACCESS_KEY", "AWS_SESSION_TOKEN"] do
    if let some value ← IO.getEnv name then
      environment := environment ++ [(name, value)]
  let mut m : Machine := ⟨⟨[]⟩, directory, environment, [], 0⟩
  for path in pathsOf request do
    m := { m with tree := ← surveyPath directory path m.tree }
  for path in databasePaths m request do
    m := { m with tree := ← surveyPath directory path m.tree }
  return m

/-- Write the directories and the databases that a run leaves behind. -/
def writeTree (t : Disk.Tree) : IO Unit := do
  for (place, node) in t.nodes.reverse do
    match node with
    | .directory _ => IO.FS.createDirAll place.path
    | .database d => IO.FS.writeFile place.path (Archive.text d)
    | .text _ => pure ()

/-- Carry out a run. -/
def program (args : List String) : IO UInt32 := do
  let request := Request.ofArguments args
  let m ← survey request
  let seed ← IO.getRandomBytes 32
  let now ← Std.Time.Timestamp.now
  let outside : Outside := {
    send := fun _ => none
    date := requestDate now.toSecondsSinceUnixEpoch.val
    ids := Identifier.supply seed.toList
    syntaxError := fun _ => "it holds no value" }
  let (outcome, m) := run outside args m
  writeTree m.tree
  match outcome with
  | .done output => IO.print output
  | .failed message => IO.eprintln ("Error: " ++ message)
  | .misuse => IO.eprintln "Error: unusable arguments"
  | .listening _ => IO.eprintln "Error: connections are not accepted from here"
  match outcome with
  | .listening _ => return 1
  | o => return o.code.toUInt32

end ScanIndex.Main

/-- The entry point. -/
def main (args : List String) : IO UInt32 := ScanIndex.Main.program args
