import ScanIndex.Text.Digit
import ScanIndex.Text.Form
import ScanIndex.Text.Quoted

/-!
# Locations of databases

A location is a text that names the file of a database and, behind a question mark, the options with
which it is opened.  `Location.ofText?` reads it, and `Location.settled?` brings a file that is
named by an address with the scheme `file` into the plain form.
-/

namespace ScanIndex.Disk

/-- Why a location cannot be used. -/
inductive LocationError where
  /-- The name of the file is no text. -/
  | malformed (m : Utf8.Malformed)
  | badValue (option value : String)
  | unknownOption (option : String)
  /-- The name of the file holds a null character. -/
  | nullCharacter
  | unknownAuthority (authority : String)
  | unknownMode (mode : String)
  | unknownCache (cache : String)
  /-- The mode asks for more than the options allow. -/
  | forbiddenMode (mode : String)
  | unknownSystem (system : String)
deriving DecidableEq

/-- A failure of the database, with its code. -/
def failureWithCode (code : Nat) (text : String) : String :=
  "error returned from database: (code: " ++ toString code ++ ") " ++ text

/-- The message for a location that cannot be used. -/
def LocationError.message : LocationError → String
  | malformed m => "error with configuration: " ++ m.message
  | badValue option value =>
    "error with configuration: unknown value " ++ quoted value ++ " for \x60" ++ option ++ "\x60"
  | unknownOption option =>
    "error with configuration: unknown query parameter \x60" ++ option
      ++ "\x60 while parsing connection URL"
  | nullCharacter =>
    "error communicating with database: filename passed to SQLite must not contain nul bytes"
  | unknownAuthority authority => failureWithCode 1 ("invalid uri authority: " ++ authority)
  | unknownMode mode => failureWithCode 1 ("no such access mode: " ++ mode)
  | unknownCache cache => failureWithCode 1 ("no such cache mode: " ++ cache)
  | forbiddenMode mode => failureWithCode 3 ("access mode not allowed: " ++ mode)
  | unknownSystem system => failureWithCode 1 ("no such vfs: " ++ system)

/-- How the file of a database is named and opened. -/
structure Location where
  name : String
  /-- The database is kept in memory. -/
  isMemory : Bool
  /-- The database must not be changed. -/
  isReadOnly : Bool
  /-- The file is taken to change never, and so the database must not be changed. -/
  isImmutable : Bool
  /-- A file that is missing is made. -/
  makesFile : Bool
  /-- The way in which files are used, if one is chosen. -/
  system : Option String
deriving DecidableEq

namespace Location

/-- The location of a file that is read and written. -/
def ofName (name : String) : Location := ⟨name, false, false, false, true, none⟩

/-- The rest of a text behind all copies of its beginning; `fuel` bounds their number. -/
def withoutCopies (start : List Char) : (fuel : Nat) → List Char → List Char
  | 0, cs => cs
  | fuel + 1, cs =>
    if start.isPrefixOf cs then withoutCopies start fuel (cs.drop start.length) else cs

/-- Apply an option. -/
def withOption (l : Location) : String × String → Except LocationError Location
  | ("mode", value) =>
    match value with
    | "ro" => .ok { l with isReadOnly := true }
    | "rw" => .ok l
    | "rwc" => .ok l
    | "memory" => .ok { l with isMemory := true }
    | _ => .error (.badValue "mode" value)
  | ("cache", value) =>
    if value = "private" ∨ value = "shared" then .ok l else .error (.badValue "cache" value)
  | ("immutable", value) =>
    if value = "true" ∨ value = "1" then .ok { l with isImmutable := true }
    else if value = "false" ∨ value = "0" then .ok { l with isImmutable := false }
    else .error (.badValue "immutable" value)
  | ("vfs", value) => .ok { l with system := some value }
  | (option, _) => .error (.unknownOption option)

/-- The location without options of a file whose name is percent-encoded. -/
def ofEncoded? (cs : List Char) : Except LocationError Location :=
  if cs = ":memory:".toList then .ok { ofName ":memory:" with isMemory := true }
  else
    match Utf8.decode (percentDecode (Utf8.encode (String.ofList cs))) with
    | .ok name => .ok (ofName name)
    | .error m => .error (.malformed m)

/-- Read a location, before which its scheme may stand. -/
def ofText? (text : String) : Except LocationError Location := do
  let cs := text.toList
  let cs := withoutCopies "sqlite://".toList cs.length ("sqlite:".toList ++ cs)
  let cs := withoutCopies "sqlite:".toList cs.length cs
  let (name, options) := splitFirst '?' cs
  let l ← ofEncoded? name
  (formFields (String.ofList (options.getD []))).foldlM withOption l

/-- The ways in which files can be used. -/
def systems : List String := ["unix", "unix-none", "unix-dotfile", "unix-excl", "memdb"]

/-- Choose the way in which files are used. -/
def withSystem (l : Location) (system : String) : Except LocationError Location :=
  if system ∈ systems then .ok { l with isMemory := l.isMemory || system = "memdb" }
  else .error (.unknownSystem system)

/-- The text that a piece of an address stands for. -/
def addressText (cs : List Char) : String :=
  Utf8.decodeLossy (percentDecode (Utf8.encode (String.ofList cs)))

/-- Apply an option of an address. -/
def withAddressOption (l : Location) : String × String → Except LocationError Location
  | ("mode", mode) =>
    if mode ∉ ["ro", "rw", "rwc", "memory"] then .error (.unknownMode mode)
    else if l.isReadOnly ∧ (mode = "rw" ∨ mode = "rwc") then .error (.forbiddenMode mode)
    else
      .ok { l with
        isReadOnly := mode = "ro", makesFile := mode = "rwc", isMemory := mode = "memory" }
  | ("cache", cache) =>
    if cache = "private" ∨ cache = "shared" then .ok l else .error (.unknownCache cache)
  | ("immutable", value) =>
    .ok { l with
      isImmutable := value.toLower ∈ ["yes", "true", "on"]
        || digitsValue 10 (value.toList.takeWhile Char.isDigit) ≠ 0 }
  | ("vfs", system) => .ok { l with system := some system }
  | _ => .ok l

/-- The rest of an address behind the machine that it names, which has to be this one. -/
def behindAuthority : List Char → Except LocationError (List Char)
  | '/' :: '/' :: cs =>
    let authority := cs.takeWhile (· ≠ '/')
    if authority = [] ∨ authority = "localhost".toList then .ok (cs.dropWhile (· ≠ '/'))
    else .error (.unknownAuthority (String.ofList authority))
  | cs => .ok cs

/-- Read the rest of an address behind the scheme `file`. -/
def ofAddress? (l : Location) (cs : List Char) : Except LocationError Location := do
  let cs ← behindAuthority cs
  let (name, options) := splitFirst '?' (splitFirst '#' cs).1
  let fields := ((pieces '&' (options.getD [])).map fun p =>
    let (name, value) := splitFirst '=' p
    (addressText name, addressText (value.getD []))).filter fun f => f.1 ≠ ""
  fields.foldlM withAddressOption { l with name := addressText name }

/-- The location in plain form, if it can be used. -/
def settled? (l : Location) : Except LocationError Location := do
  if l.name.toList.contains '\x00' then .error .nullCharacter
  else
    let l ←
      match "file:".toList.isPrefixOf l.name.toList && !l.isImmutable && l.system.isNone with
      | true => l.ofAddress? (l.name.toList.drop 5)
      | false => .ok l
    match l.system with
    | some system => l.withSystem system
    | none => .ok l

/-- The database is in no file, or in one that is removed at the end. -/
def isPassing (l : Location) : Bool := l.isMemory || l.name = ":memory:" || l.name = ""

end Location

end ScanIndex.Disk
