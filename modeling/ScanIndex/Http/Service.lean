import ScanIndex.Change.Batch
import ScanIndex.Http.Access
import ScanIndex.Http.Target
import ScanIndex.Indexing.Process
import ScanIndex.Json.Reader
import ScanIndex.Search.Service
import ScanIndex.Version

/-!
# The service

`respond` answers a request: searches under `/search`, batches of change events under `/events`, and
the state of the service under `/health`.  Requests of the method `OPTIONS` ask whether other sites
may use the service, and they may.
-/

namespace ScanIndex.Http

/-- The greatest number of bytes of a body. -/
def maxBody : Nat := 2097152

/-- The parts of a service that do not change. -/
structure Service where
  secret : Option String
  engine : Engine
  ids : Supply
  /-- What the reader of JSON text says of a body that holds no value. -/
  syntaxError : List UInt8 → String

/-- A place where the service answers requests. -/
inductive Route where
  | search
  | events
  | health
deriving DecidableEq

namespace Route

/-- The route of a path. -/
def ofPath? (path : String) : Option Route :=
  if path = "/search" then some search
  else if path = "/events" then some events
  else if path = "/health" then some health
  else none

/-- The methods that a route answers, as its responses list them. -/
def allow : Route → String
  | search => "POST"
  | events => "POST"
  | health => "GET,HEAD"

end Route

/-- The value that a body holds. -/
def bodyValue? (body : List UInt8) : Option Json :=
  match Utf8.decode body with
  | .ok text => Json.parse? text
  | .error _ => none

/-- Keys under buckets as a value. -/
def bucketsJson (g : Buckets) : Json :=
  .object (g.map fun (bucket, keys) => (bucket, .array (keys.map .string)))

/-- A report as a value. -/
def reportJson (r : Report) : Json :=
  .object [("upserted", .ofInt r.upserted), ("deleted", .ofInt r.deleted),
    ("skipped", .ofInt r.skipped)]

/-- The response to a failed search. -/
def searchFailure : SearchError → Response
  | .query e => .failure 400 e.message
  | .store e => .failure 500 e.message

/-- The response to a failed batch. -/
def processFailure (e : ProcessError) : Response :=
  .failure (if e.isClientError then 400 else 500) e.message

variable {σ : Type} [DocumentStore σ]

/-- Answer a search. -/
def handleSearch (scope : Option (List String)) (j : Json) (w : World σ) : Response × World σ :=
  match search j scope w with
  | (.ok g, w) => (.success (bucketsJson g), w)
  | (.error e, w) => (searchFailure e, w)

/-- Answer a batch of change events. -/
def handleEvents (s : Service) (j : Json) (w : World σ) : Response × World σ :=
  match readBatch j with
  | .error e => (.failure 400 e.message, w)
  | .ok events =>
    match process s.engine s.ids events w with
    | (some (.ok r), w) => (.success (reportJson r), w)
    | (some (.error e), w) => (processFailure e, w)
    | (none, w) => (.failure 500 "request deadline exceeded", w)

/-- Answer a request that carries a value, if it may be answered and its body holds one. -/
def handleBody (s : Service) (r : Request) (w : World σ)
    (handle : Json → World σ → Response × World σ) : Response × World σ :=
  if maxBody < r.body.length then
    (.plain 413 "Failed to buffer the request body: length limit exceeded", w)
  else if authorized s.secret r then
    match bodyValue? r.body with
    | none => (.failure 400 ("invalid JSON body: " ++ s.syntaxError r.body), w)
    | some j => handle j w
  else (.failure 401 "unauthorized", w)

/-- The state of the service. -/
def health : Response :=
  .json 200 (.object [("status", .string "ok"), ("version", .string version)])

/-- Answer a request on a route. -/
def handle (s : Service) (r : Request) (query : String) (w : World σ) : Route → Response × World σ
  | .search =>
    if r.method = "POST" then
      match bucketsOf query with
      | .error e => (.plain 400 ("Failed to deserialize query string: " ++ e), w)
      | .ok scope => handleBody s r w (handleSearch scope)
    else ((Response.empty 405).withHeader "allow" Route.search.allow, w)
  | .events =>
    if r.method = "POST" then handleBody s r w (handleEvents s)
    else ((Response.empty 405).withHeader "allow" Route.events.allow, w)
  | .health =>
    if r.method = "GET" then (health, w)
    else if r.method = "HEAD" then (health.withoutBody, w)
    else ((Response.empty 405).withHeader "allow" Route.health.allow, w)

/-- The response to the question whether other sites may use a route. -/
def preflight (route : Option Route) : Response :=
  let r := ((Response.empty 200).withHeader "access-control-allow-methods" "*").withHeader
    "access-control-allow-headers" "*"
  match route with
  | some route => r.withHeader "allow" route.allow
  | none => r

/-- Answer a request. -/
def respond (s : Service) (r : Request) (w : World σ) : Response × World σ :=
  let (path, query) := splitTarget r.target
  let route := Route.ofPath? path
  let (response, w) :=
    if r.method = "OPTIONS" then (preflight route, w)
    else
      match route with
      | some route => handle s r query w route
      | none => (Response.empty 404, w)
  (response.withHeader "access-control-allow-origin" "*", w)

end ScanIndex.Http
