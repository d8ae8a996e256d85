import ScanIndex.Http.Domain
import ScanIndex.Internet.Address
import ScanIndex.Text.Percent

/-!
# Hosts

A host is the name of a domain, an address of four numbers, or an address of eight numbers in square
brackets.  A name that ends in a number has to be an address of four numbers.
-/

namespace ScanIndex.Http

namespace Host

/-- The value of a number in an address of four numbers; `0x` alone is zero. -/
def number? (cs : List Char) : Option Nat :=
  if cs.map Char.toLower = ['0', 'x'] then some 0 else Internet.number? cs

/-- The name ends in a number, so that it has to be an address. -/
def endsInNumber (name : List Char) : Bool :=
  match (Internet.labels name).getLast? with
  | some l => (!l.isEmpty && l.all Char.isDigit) || (number? l).isSome
  | none => false

/-- Read an address of four numbers, of which the last may stand for several. -/
def address4? (name : List Char) : Option String := do
  let ns ← (Internet.labels name).mapM number?
  let n ← Internet.ofParts? ns
  return Internet.text4 n

/-- Read an address of eight numbers in square brackets, of which the first has been read. -/
def bracketed? (cs : List Char) : Option String :=
  if cs.getLast? = some ']' then
    (Internet.address6? cs.dropLast).map fun ns => "[" ++ Internet.text6 ns ++ "]"
  else none

/-- Read the host of an address of the web. -/
def name? : List Char → Option String
  | '[' :: cs => bracketed? cs
  | cs =>
    match Utf8.decode (percentDecode (Utf8.encode (String.ofList cs))) with
    | .error _ => none
    | .ok s =>
      match Domain.ascii? s.toList with
      | none | some [] => none
      | some name => if endsInNumber name then address4? name else some (String.ofList name)

/-- The character may not stand in a host of another kind. -/
def isForbidden (c : Char) : Bool :=
  c = '\x00' || c = '\t' || c = '\n' || c = '\r' || "#/:<>?@[\\]^| ".toList.contains c

/-- A byte of a host: controls and bytes above ASCII are percent-encoded. -/
def hostByte (b : UInt8) : List Char :=
  if 0x20 ≤ b && b < 0x7f then [Char.ofNat b.toNat]
  else '%' :: ((if b < 0x10 then ['0'] else []) ++ Nat.toDigits 16 b.toNat).map Char.toUpper

/-- Read the host of another address, which may be empty. -/
def plain? : List Char → Option String
  | '[' :: cs => bracketed? cs
  | cs =>
    if cs.any isForbidden then none
    else some (String.ofList ((Utf8.encode (String.ofList cs)).flatMap hostByte))

end Host

end ScanIndex.Http
