import ScanIndex.Document
import ScanIndex.Text.Pieces

/-!
# Arguments of the command line

`Request.ofArguments` reads the arguments of a run from the left.  Options begin with hyphens,
except behind an argument of two hyphens, and may take a value from behind an equals sign or from
the next argument.  The first argument that is no option names a verb; the option for the settings
may stand on either side of it.  Whatever is wrong is found before a later request for help is.
-/

namespace ScanIndex.Command

/-- What a run is to do. -/
inductive Action where
  | init
  | index (file : File)
  | remove (file : File)
  | ingest (path : String)
  | search (query : String) (buckets : List String)
  | serve
deriving DecidableEq

/-- What the arguments of a run ask for. -/
inductive Request where
  | run (settings : String) (action : Action)
  | version
  | help
  /-- The arguments make no sense. -/
  | misuse
deriving DecidableEq

/-- The file of settings if none is named. -/
def defaultSettings : String := "./config/pagegrep.toml"

/-- The word that names an action. -/
inductive Verb where
  | init
  | index
  | remove
  | ingest
  | search
  | serve
deriving DecidableEq

namespace Verb

/-- The word itself. -/
def word : Verb → String
  | init => "init"
  | index => "index"
  | remove => "remove"
  | ingest => "ingest"
  | search => "search"
  | serve => "serve"

/-- The verbs. -/
def all : List Verb := [init, index, remove, ingest, search, serve]

/-- The verb that a word is. -/
def ofWord? (w : String) : Option Verb := all.find? fun v => v.word = w

/-- The number of arguments of a verb that are no options. -/
def arity : Verb → Nat
  | init => 0
  | index => 2
  | remove => 2
  | ingest => 1
  | search => 1
  | serve => 0

/-- The action of a verb with its arguments and the buckets that options name. -/
def action? (v : Verb) (others buckets : List String) : Option Action :=
  match v, others with
  | init, [] => some .init
  | index, [bucket, key] => some (.index ⟨bucket, key⟩)
  | remove, [bucket, key] => some (.remove ⟨bucket, key⟩)
  | ingest, [path] => some (.ingest path)
  | search, [query] => some (.search query buckets)
  | serve, [] => some .serve
  | _, _ => none

end Verb

/-- An argument that is taken by itself. -/
inductive Piece where
  /-- Two hyphens. -/
  | escape
  /-- A long option, with the value behind its equals sign if there is one. -/
  | long (name : String) (value : Option String)
  /-- A letter behind a hyphen. -/
  | short (letter : Char)
  | other
deriving DecidableEq

/-- The kind of an argument. -/
def Piece.ofArgument (arg : String) : Piece :=
  match arg.toList with
  | ['-', '-'] => escape
  | '-' :: '-' :: cs =>
    let (name, value) := splitFirst '=' cs
    long (String.ofList name) (value.map String.ofList)
  | '-' :: c :: _ => short c
  | _ => other

/-- The argument can be the value of the option before it. -/
def isValue (arg : String) : Bool := Piece.ofArgument arg = .other

/-- A file of settings that is named where `named` has been named before it; no file has the empty
name, and no second one may be named. -/
def nameSettings? (named : Option String) (path : String) : Option String :=
  if path = "" ∨ named.isSome then none else some path

/-- What has been read behind a verb. -/
structure Reading where
  settings : Option String
  buckets : List String
  /-- The arguments that are no options. -/
  others : List String
deriving DecidableEq

namespace Reading

/-- The reading before the first argument. -/
def empty : Reading := ⟨none, [], []⟩

/-- Read an option and its value. -/
def option? (v : Verb) (r : Reading) (name value : String) : Option Reading :=
  if name = "config" then
    (nameSettings? r.settings value).map fun path => { r with settings := some path }
  else if name = "bucket" ∧ v = .search then some { r with buckets := r.buckets ++ [value] }
  else none

/-- Read an argument that is no option. -/
def other? (v : Verb) (r : Reading) (arg : String) : Option Reading :=
  if v.arity ≤ r.others.length ∨ (v = .ingest ∧ arg = "") then none
  else some { r with others := r.others ++ [arg] }

/-- Read the arguments behind a verb; the error is a request that is made without them. -/
def scan (v : Verb) : Reading → List String → Except Request Reading
  | r, [] => .ok r
  | r, arg :: rest =>
    match Piece.ofArgument arg with
    | .escape =>
      match rest.foldlM (other? v) r with
      | some r => .ok r
      | none => .error .misuse
    | .long name (some value) =>
      match r.option? v name value with
      | some r => scan v r rest
      | none => .error .misuse
    | .long name none =>
      if name = "help" then .error .help
      else
        match rest with
        | [] => .error .misuse
        | value :: rest =>
          if isValue value then
            match r.option? v name value with
            | some r => scan v r rest
            | none => .error .misuse
          else .error .misuse
    | .short c => .error (if c = 'h' then .help else .misuse)
    | .other =>
      match r.other? v arg with
      | some r => scan v r rest
      | none => .error .misuse

end Reading

namespace Request

/-- The request of a verb with the arguments behind it; `outer` is the file of settings that is
named before the verb. -/
def ofVerb (outer : Option String) (v : Verb) (rest : List String) : Request :=
  match Reading.empty.scan v rest with
  | .error r => r
  | .ok r =>
    match v.action? r.others r.buckets with
    | some a => run ((r.settings.or outer).getD defaultSettings) a
    | none => misuse

/-- The request for help, about the program or about one word. -/
def ofHelp (words : List String) : Request :=
  match words with
  | [] => help
  | [w] => if w = "help" ∨ (Verb.ofWord? w).isSome then help else misuse
  | _ => misuse

/-- The request that begins with a word. -/
def ofWord (outer : Option String) (word : String) (rest : List String) : Request :=
  if word = "help" then ofHelp rest
  else
    match Verb.ofWord? word with
    | some v => ofVerb outer v rest
    | none => misuse

/-- The request that begins with a word, behind the name of a file of settings that is looked at
only after it. -/
def ofWordBehind (named : Option String) (path : String) (word : String) (rest : List String) :
    Request :=
  match ofWord (named.or (some path)) word rest with
  | run settings action => if (nameSettings? named path).isSome then run settings action else misuse
  | r => r

/-- Read the arguments of a run; `named` is the file of settings that has been named so far. -/
def read : (named : Option String) → List String → Request
  | _, [] => misuse
  | named, arg :: rest =>
    match Piece.ofArgument arg with
    | .escape => misuse
    | .long name (some value) =>
      if name = "config" then
        match nameSettings? named value with
        | some path => read (some path) rest
        | none => misuse
      else misuse
    | .long name none =>
      if name = "help" then help
      else if name = "version" then version
      else if name = "config" then
        match rest with
        | path :: word :: rest =>
          if !isValue path then misuse
          else if isValue word then ofWordBehind named path word rest
          else
            match nameSettings? named path with
            | some path => read (some path) (word :: rest)
            | none => misuse
        | _ => misuse
      else misuse
    | .short c => if c = 'h' then help else if c = 'V' then version else misuse
    | .other => ofWord named arg rest

/-- Read the arguments of a run. -/
def ofArguments (args : List String) : Request := read none args

end Request

end ScanIndex.Command
