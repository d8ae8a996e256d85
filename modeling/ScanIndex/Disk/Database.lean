import ScanIndex.Disk.Location
import ScanIndex.Disk.Tree
import ScanIndex.Store.Faulty

/-!
# Databases in files

`Tree.connect` opens the database at a location, which may make its file, and `Tree.keep` puts it
back.  A database that must not be changed is one whose changing methods are out of order; it can be
set up only if it has been set up already.
-/

namespace ScanIndex.Disk

/-- Why a database cannot be opened. -/
inductive OpenError where
  | path (e : PathError)
  | location (e : LocationError)
  /-- There is no such file, and none can be made. -/
  | noFile
  /-- The file holds something else. -/
  | notDatabase
  | notWritable
deriving DecidableEq

namespace OpenError

/-- The message for a database that must not be changed. -/
def readOnlyMessage : String := failureWithCode 8 "attempt to write a readonly database"

/-- The message for a database that cannot be opened. -/
def message : OpenError → String
  | path e => e.message
  | location e => e.message
  | noFile => failureWithCode 14 "unable to open database file"
  | notDatabase => failureWithCode 26 "file is not a database"
  | notWritable => readOnlyMessage

end OpenError

/-- A database that has been opened, and the place of its file if it is kept. -/
structure Connection where
  store : Faulty Relational
  place : Option Place

namespace Connection

/-- The methods of a database that are out of order because it must not be changed. -/
def barred (s : Relational) : List StoreMethod :=
  (if s.tables.isSome then [] else [.setup]) ++ [.upsert, .delete, .deleteWhere]

/-- A connection to a database. -/
def ofStore (s : Relational) (isReadOnly : Bool) (place : Option Place) : Connection :=
  ⟨⟨s, if isReadOnly then barred s else []⟩, place⟩

end Connection

namespace Tree

/-- The place that a name leads to by its words alone; none if a step on the way starts from a
file. -/
def nominalPlace? (t : Tree) (directory : Place) (name : String) : Option Place :=
  (steps name).foldlM
    (fun p s =>
      match t.node? p with
      | some (.directory _) | none => some (p.step s)
      | some _ => if isIdle s ∨ s = ".." then some (p.step s) else none)
    (Place.start directory name)

/-- Open the file of a database at a place. -/
def openAt (t : Tree) (l : Location) (p : Place) : Except OpenError (Connection × Tree) :=
  let isReadOnly := l.isReadOnly || l.isImmutable
  match t.node? p with
  | some (.database s) => .ok (.ofStore s isReadOnly (some p), t)
  | some (.directory _) => .error .noFile
  | some (.text s) =>
    if s ≠ "" then .error .notDatabase
    else if l.isImmutable then .ok (.ofStore .fresh true none, t)
    else if l.isReadOnly then .error .notWritable
    else .ok (.ofStore .fresh false (some p), t)
  | none =>
    match t.node? p.parent with
    | some (.directory true) =>
      if l.isReadOnly || !l.makesFile then .error .noFile
      else if l.isImmutable then .ok (.ofStore .fresh true none, t.put p (.text ""))
      else .ok (.ofStore .fresh false (some p), t)
    | _ => .error .noFile

/-- Open the database at a location. -/
def openLocation (t : Tree) (directory : Place) (text : String) :
    Except OpenError (Connection × Tree) :=
  match Location.ofText? text >>= Location.settled? with
  | .error e => .error (.location e)
  | .ok l =>
    if l.isPassing then .ok (.ofStore .fresh l.isReadOnly none, t)
    else
      match t.nominalPlace? directory l.name with
      | none => .error .noFile
      | some p => t.openAt l p

/-- Put a database back. -/
def keep (t : Tree) (c : Connection) : Tree :=
  match c.place with
  | some p => t.put p (.database c.store.store)
  | none => t

/-- Make the missing directories on the path of a location, and open the database there. -/
def connect (t : Tree) (directory : Place) (text : String) : Except OpenError Connection × Tree :=
  match t.makeParents directory text with
  | (.error e, t) => (.error (.path e), t)
  | (.ok (), t) =>
    match t.openLocation directory text with
    | .error e => (.error e, t)
    | .ok (c, t) => (.ok c, t.keep c)

end Tree

end ScanIndex.Disk
