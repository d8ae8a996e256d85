import ScanIndex.Http.Host
import ScanIndex.Text.Case

/-!
# Addresses

`Url.parse?` reads the scheme, the host and the port of an absolute address.  The schemes of the web
are special: they need a host, and a backslash is as good as a slash in them.
-/

namespace ScanIndex.Http

/-- The scheme, the host and the port of an address. -/
structure Url where
  scheme : String
  host : Option String
  /-- The port, unless it is the usual one of the scheme. -/
  port : Option Nat
deriving DecidableEq

/-- What a scheme says about the form of its addresses. -/
inductive SchemeKind where
  /-- One of the schemes of the web. -/
  | special
  | file
  | plain
deriving DecidableEq

/-- The kind of a scheme. -/
def SchemeKind.ofScheme (scheme : String) : SchemeKind :=
  if scheme ∈ ["http", "https", "ws", "wss", "ftp"] then special
  else if scheme = "file" then file
  else plain

/-- The usual port of a scheme. -/
def defaultPort? (scheme : String) : Option Nat :=
  if scheme = "http" ∨ scheme = "ws" then some 80
  else if scheme = "https" ∨ scheme = "wss" then some 443
  else if scheme = "ftp" then some 21
  else none

namespace Url

/-- The character ends the part of an address that holds the host. -/
def endsAuthority (kind : SchemeKind) (c : Char) : Bool :=
  c = '/' || c = '?' || c = '#' || (c = '\\' && kind ≠ .plain)

/-- The name of a user before the last `@`, if there is one, and the characters behind it. -/
def splitUser (cs : List Char) : Option (List Char) × List Char :=
  let (back, front) := splitFirst '@' cs.reverse
  (front.map List.reverse, back.reverse)

/-- The characters of the host, and those of the port behind a colon, if there is one. -/
def splitPort : (inBrackets : Bool) → List Char → List Char × Option (List Char)
  | _, [] => ([], none)
  | false, ':' :: cs => ([], some cs)
  | b, c :: cs =>
    let (host, port) := splitPort (if c = '[' then true else if c = ']' then false else b) cs
    (c :: host, port)

/-- Read a port, which a backslash ends; an empty one and the usual one of the scheme are left
out. -/
def port? (scheme : String) : Option (List Char) → Option (Option Nat)
  | none => some none
  | some cs =>
    let ds := cs.takeWhile fun c => c ≠ '\\'
    let n := digitsValue 10 ds
    if !ds.all Char.isDigit || 65535 < n then none
    else if ds.isEmpty || defaultPort? scheme = some n then some none
    else some (some n)

/-- Read what is behind two slashes. -/
def authority? (scheme : String) (kind : SchemeKind) (cs : List Char) : Option Url := do
  let (user, rest) := splitUser (cs.takeWhile fun c => !endsAuthority kind c)
  let isCut := cs.any (endsAuthority kind)
  let (host, port) := splitPort false rest
  let host ← if kind = .special then Host.name? host else Host.plain? host
  if host = "" && (port.isSome || (user = some [] && rest = [] && isCut)
      || (user.any fun u => u ≠ [] && u ≠ [':'])) then none
  else
    let port ← port? scheme port
    return ⟨scheme, if host = "" then none else some host, port⟩

/-- The characters are the name of a drive. -/
def isDrive : List Char → Bool
  | [c, d] => c.isAlpha && (d = ':' || d = '|')
  | _ => false

/-- The number of points that a part of a path is made of, if it is made of points. -/
def points? : List Char → Option Nat
  | [] => some 0
  | '.' :: cs => (points? cs).map (· + 1)
  | '%' :: '2' :: e :: cs => if e = 'e' ∨ e = 'E' then (points? cs).map (· + 1) else none
  | _ => none

/-- The number of steps back that a part of a path asks for, if it is one point or two. -/
def stepsBack? (part : List Char) : Option Nat :=
  match points? part with
  | some 1 => some 0
  | some 2 => some 1
  | _ => none

/-- The path of a file, in parts, begins with a drive; `depth` parts of it have been read. -/
def beginsWithDrive : (depth : Nat) → List (List Char) → Bool
  | _, [] => false
  | depth, part :: parts =>
    match stepsBack? part with
    | some n => beginsWithDrive (depth - n) parts
    | none => (depth = 0 && isDrive part) || beginsWithDrive (depth + 1) parts

/-- Read the host of a file; a drive at the beginning of the path is a place of its own. -/
def fileHost? (cs : List Char) : Option Url :=
  let host := cs.takeWhile fun c => !endsAuthority .file c
  if host.isEmpty || isDrive host then some ⟨"file", none, none⟩
  else do
    let host ← Host.name? host
    let path := (cs.dropWhile fun c => !endsAuthority .file c).takeWhile fun c => c ≠ '?' && c ≠ '#'
    let parts := pieces '/' ((path.drop 1).map fun c => if c = '\\' then '/' else c)
    return ⟨"file", if host = "localhost" || beginsWithDrive 0 parts then none else some host, none⟩

/-- Read an address. -/
def parse? (text : String) : Option Url :=
  let isOuter (c : Char) : Bool := c.toNat ≤ 0x20
  let cs := ((text.toList.dropWhile isOuter).reverse.dropWhile isOuter).reverse
  let cs := cs.filter fun c => !(c = '\t' || c = '\n' || c = '\r')
  let isSchemeChar (c : Char) : Bool := c.isAlphanum || c = '+' || c = '-' || c = '.'
  let isSlash (c : Char) : Bool := c = '/' || c = '\\'
  match cs.takeWhile isSchemeChar, cs.dropWhile isSchemeChar with
  | c :: scheme, ':' :: rest =>
    if !c.isAlpha then none
    else
      let scheme := lowerAscii (String.ofList (c :: scheme))
      match SchemeKind.ofScheme scheme with
      | .special => authority? scheme .special (rest.dropWhile isSlash)
      | .file =>
        match rest with
        | a :: b :: rest =>
          if isSlash a && isSlash b then fileHost? rest else some ⟨scheme, none, none⟩
        | _ => some ⟨scheme, none, none⟩
      | .plain =>
        match rest with
        | '/' :: '/' :: rest => authority? scheme .plain rest
        | _ => some ⟨scheme, none, none⟩
  | _, _ => none

end Url

end ScanIndex.Http
