import ScanIndex.Config.Settings
import ScanIndex.Http.Status
import ScanIndex.Http.Url
import ScanIndex.Indexing.Engine
import ScanIndex.Json.Printer
import ScanIndex.Signing.Authorization
import ScanIndex.Textract.Response

/-!
# The client of Textract

A `Client` asks Textract for the text of a file: it sends a signed request to an endpoint and reads
the answer.  How requests are sent is left to a `Transport`.
-/

namespace ScanIndex.Textract

/-- A request as it is sent. -/
structure Outgoing where
  endpoint : Http.Url
  headers : List (String × String)
  payload : String

/-- An answer as it arrives. -/
structure Incoming where
  status : Nat
  body : String

/-- A way to send a request; there is no answer if the endpoint cannot be reached, or breaks off. -/
abbrev Transport := Outgoing → Option Incoming

/-- What a client needs to know. -/
structure Client where
  endpoint : Http.Url
  host : String
  region : String
  credentials : Credentials

/-- Why a client cannot be made. -/
inductive EndpointError where
  | invalid (endpoint : String)
  | noHost (endpoint : String)
deriving DecidableEq

/-- The message of an error. -/
def EndpointError.message : EndpointError → String
  | invalid e => "Invalid ocr.endpoint_url: " ++ e
  | noHost e => "ocr.endpoint_url has no host: " ++ e

namespace Client

/-- The endpoint that settings ask for. -/
def endpointOf (c : OcrConfig) : String :=
  c.endpoint.getD ("https://textract." ++ c.region ++ ".amazonaws.com")

/-- The client for settings and credentials. -/
def ofConfig (c : OcrConfig) (credentials : Credentials) : Except EndpointError Client :=
  match Http.Url.parse? (endpointOf c) with
  | none => .error (.invalid (endpointOf c))
  | some url =>
    match url.host, url.port with
    | none, _ => .error (.noHost (endpointOf c))
    | some host, none => .ok ⟨url, host, c.region, credentials⟩
    | some host, some port => .ok ⟨url, host ++ ":" ++ toString port, c.region, credentials⟩

/-- The file that a request or an error is about. -/
def context (f : File) : String := "DetectDocumentText s3://" ++ f.path

/-- The payload of the request for a file. -/
def payload (f : File) : String :=
  Json.compact (.object [
    ("Document", .object [
      ("S3Object", .object [("Bucket", .string f.bucket), ("Name", .string f.key)])])])

/-- The headers that are signed, the security token among them if there is one. -/
def signedHeaders (c : Client) (date : String) : List (String × String) :=
  [("content-type", "application/x-amz-json-1.1"),
    ("host", c.host),
    ("x-amz-date", date),
    ("x-amz-target", "Textract.DetectDocumentText")]
    ++ (c.credentials.sessionToken.map fun t => ("x-amz-security-token", t)).toList

/-- The text may be the value of a header: it has no control character other than tabs. -/
def isHeaderValue (s : String) : Bool :=
  s.toList.all fun c => c = '\t' || (0x20 ≤ c.toNat && c.toNat ≠ 0x7f)

/-- The request for a file on a date; none if a header cannot be sent. -/
def request? (c : Client) (date : String) (f : File) : Option Outgoing := do
  let payload := payload f
  let headers := c.signedHeaders date
  let authorization ← authorization? c.credentials c.region "textract" date
    ⟨"POST", "/", "", headers, Utf8.encode payload⟩
  let sent := ("authorization", authorization) :: headers
  if sent.all fun h => isHeaderValue h.2 then return ⟨c.endpoint, sent, payload⟩ else none

/-- The greatest number of characters of an answer that an error shows. -/
def shownBody : Nat := 512

/-- The blocks of an answer to the request for a file. -/
def readAnswer (f : File) (a : Incoming) : Except OcrError (List Block) :=
  if 200 ≤ a.status ∧ a.status < 300 then
    match Response.parse? a.body with
    | some r => .ok r.toBlocks
    | none => .error (.rejected (context f) none)
  else
    .error (.rejected (context f)
      (some ("HTTP " ++ Http.statusText a.status ++ ": "
        ++ String.ofList (a.body.toList.take shownBody))))

/-- Ask for the text of a file on a date. -/
def detect (c : Client) (send : Transport) (date : String) (f : File) :
    Except OcrError (List Block) :=
  match (c.request? date f).bind send with
  | some a => readAnswer f a
  | none => .error (.unavailable (context f) none)

end Client

end ScanIndex.Textract
