import ScanIndex.Json.Printer
import ScanIndex.Text.Case

/-!
# HTTP messages

Requests as they reach the service, and its responses.
-/

namespace ScanIndex.Http

/-- A request. -/
structure Request where
  method : String
  /-- The path, with the query string if there is one. -/
  target : String
  /-- The names and the values of the headers in their order. -/
  headers : List (String × List UInt8)
  body : List UInt8

/-- A response. -/
structure Response where
  status : Nat
  headers : List (String × String)
  body : String
deriving DecidableEq

/-- The value of the first header of a name, which is given in lower case. -/
def Request.header? (r : Request) (name : String) : Option (List UInt8) :=
  (r.headers.find? fun h => lowerAscii h.1 = name).map Prod.snd

/-- The value of a header as text, if all its bytes are visible ASCII characters, blanks or tabs. -/
def visibleText? (bytes : List UInt8) : Option String :=
  if bytes.all fun b => (0x20 ≤ b && b < 0x7f) || b = 0x09 then
    some (String.ofList (bytes.map fun b => Char.ofNat b.toNat))
  else none

namespace Response

/-- A response without a body. -/
def empty (status : Nat) : Response := ⟨status, [], ""⟩

/-- A response with a JSON value. -/
def json (status : Nat) (j : Json) : Response :=
  ⟨status, [("content-type", "application/json")], j.compact⟩

/-- A response with plain text. -/
def plain (status : Nat) (s : String) : Response :=
  ⟨status, [("content-type", "text/plain; charset=utf-8")], s⟩

/-- A response that reports an error. -/
def failure (status : Nat) (message : String) : Response :=
  json status (.object [("error", .string message)])

/-- A response that reports a success. -/
def success (data : Json) : Response :=
  json 200 (.object [("message", .string "success"), ("data", data)])

/-- The response with one more header. -/
def withHeader (r : Response) (name value : String) : Response :=
  { r with headers := r.headers ++ [(name, value)] }

/-- The response without its body. -/
def withoutBody (r : Response) : Response := { r with body := "" }

end Response

end ScanIndex.Http
