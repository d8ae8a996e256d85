import ScanIndex.Disk.Path
import ScanIndex.Store.Relational

/-!
# Trees of files

A `Tree` says which directories and files there are, and what the files hold.  Every step of a path
has to start from a directory (`enter`), so that a path through a file or through a missing
directory leads nowhere.  `makeDirectories` makes the directories on a path that are missing.
-/

namespace ScanIndex.Disk

/-- What stands at a place. -/
inductive Node where
  | directory (isWritable : Bool)
  | text (content : String)
  | database (content : Relational)

/-- The directories and the files, each at its place. -/
structure Tree where
  nodes : List (Place × Node)

/-- Why a path cannot be used. -/
inductive PathError where
  /-- A step starts from nowhere. -/
  | missing
  /-- A step starts from a file. -/
  | notDirectory
  /-- Something stands at the place already. -/
  | occupied
  /-- The directory must not be changed. -/
  | denied
  /-- The path holds a null character. -/
  | nullCharacter
deriving DecidableEq

/-- The message for a path that cannot be used. -/
def PathError.message : PathError → String
  | missing => "No such file or directory (os error 2)"
  | notDirectory => "Not a directory (os error 20)"
  | occupied => "File exists (os error 17)"
  | denied => "Permission denied (os error 13)"
  | nullCharacter => "file name contained an unexpected NUL byte"

namespace Tree

/-- What stands at a place. -/
def node? (t : Tree) (p : Place) : Option Node :=
  (t.nodes.find? fun n => n.1 = p).map Prod.snd

/-- Put something at a place, instead of what stands there. -/
def put (t : Tree) (p : Place) (n : Node) : Tree :=
  ⟨(p, n) :: t.nodes.filter fun m => m.1 ≠ p⟩

/-- Put directories at the places on the way to a place where nothing stands. -/
def clearWay (t : Tree) (p : Place) : Tree :=
  ((List.range p.length).map p.take).foldl
    (fun t q => if (t.node? q).isSome then t else t.put q (.directory true)) t

/-- Put something at a place, and directories on the way to it. -/
def plant (t : Tree) (p : Place) (n : Node) : Tree := (t.clearWay p).put p n

/-- The place is that of a directory. -/
def isDirectory (t : Tree) (p : Place) : Bool :=
  match t.node? p with
  | some (.directory _) => true
  | _ => false

/-- Take the next step from a place, which has to be that of a directory. -/
def stepFrom (t : Tree) (p : Place) (s : String) : Except PathError Place :=
  match t.node? p with
  | some (.directory _) => .ok (p.step s)
  | some _ => .error .notDirectory
  | none => .error .missing

/-- The place to which steps lead; nothing needs to stand there. -/
def enter (t : Tree) (p : Place) (ss : List String) : Except PathError Place :=
  ss.foldlM t.stepFrom p

/-- The text of the file to which a path leads from a directory.  A database without tables reads as
the mark of databases, and one with tables as no text. -/
def read? (t : Tree) (directory : Place) (path : String) : Option String :=
  match t.enter (Place.start directory path) (steps path) with
  | .error _ => none
  | .ok p =>
    match t.node? p with
    | some (.text s) => some s
    | some (.database d) => if d.tables.isSome then none else some "SQLite format 3\x00"
    | _ => none

/-- Make the directory to which steps and a last step lead. -/
def makeDirectory (t : Tree) (start : Place) (front : List String) (last : String) :
    Except PathError Tree :=
  match t.enter start front with
  | .error e => .error e
  | .ok p =>
    match t.node? p with
    | none => .error .missing
    | some (.directory isWritable) =>
      let q := p.step last
      if isIdle last ∨ last = ".." ∨ (t.node? q).isSome then .error .occupied
      else if isWritable then .ok (t.put q (.directory true))
      else .error .denied
    | some _ => .error .notDirectory

/-- The steps lead to a directory. -/
def leadsToDirectory (t : Tree) (start : Place) (ss : List String) : Bool :=
  match t.enter start ss with
  | .ok p => t.isDirectory p
  | .error _ => false

/-- Make the directories to which steps lead, which are listed from the last one; the tree is
returned also if that fails. -/
def makeDirectories (start : Place) : List String → Tree → Except PathError Unit × Tree
  | [], t => (.ok (), t)
  | last :: front, t =>
    let settle (t : Tree) (e : PathError) : Except PathError Unit × Tree :=
      if t.leadsToDirectory start (front.reverse ++ [last]) then (.ok (), t) else (.error e, t)
    match t.makeDirectory start front.reverse last with
    | .ok t => (.ok (), t)
    | .error .missing =>
      match makeDirectories start front t with
      | (.error e, t) => (.error e, t)
      | (.ok (), t) =>
        match t.makeDirectory start front.reverse last with
        | .ok t => (.ok (), t)
        | .error e => settle t e
    | .error e => settle t e

/-- Make the directories on a path to a file that are missing. -/
def makeParents (t : Tree) (directory : Place) (path : String) : Except PathError Unit × Tree :=
  let parents := (components path).dropLast
  if parents.any fun s => s.toList.contains '\x00' then (.error .nullCharacter, t)
  else makeDirectories (Place.start directory path) parents.reverse t

end Tree

end ScanIndex.Disk
