import IngressBalancer.Address.Target
import IngressBalancer.Metrics.Exposition
import IngressBalancer.Program.About
import IngressBalancer.Rest.Response
import IngressBalancer.World.Operator
import IngressBalancer.Text.FormEncoding
/-!
# The REST server

Four pages, which can only be read: the registry, the health checks, the
readiness and the metrics. The first two wait for the state lock, the
others never do. Each page answers to `GET`, and to `HEAD` with the same
response without its body.
-/

namespace IngressBalancer

namespace Rest

/-- A page of the server. -/
inductive Page
  | state
  | status
  | readiness
  | metrics
deriving DecidableEq, Repr

/-- The page at a path. -/
def Page.atPath? (path : String) : Option Page :=
  if path = "/state" then some .state
  else if path = "/status" then some .status
  else if path = "/readyz" then some .readiness
  else if path = "/metrics" then some .metrics
  else none

/-- Whether the query of the status page asks for all results; it may say so once. -/
def wantsFull? (query : List Char) : Option Bool :=
  match Text.formValues "full" query with
  | [] => some false
  | [value] => some (value = Text.bytesOf "1")
  | _ => none

/-- The page with the results of the health checks; they are shown only where that is wanted. -/
def statusPage (full : Bool) (report : HealthReport) : Response where
  status := if report.healthy then 200 else 503
  contentType := some "application/json; charset=utf-8"
  body := if full then indented report.results else "\x7b\x7d\n"

/-- The answer to a query that says `full` more than once. -/
def repeatedFull : Response where
  status := 400
  contentType := some "text/plain; charset=utf-8"
  body := "Failed to deserialize query string: duplicate field \x60full\x60"

/-- The page that says whether the initial resync was tried. -/
def readinessPage (ready : Bool) : Response :=
  .json (if ready then 200 else 503)
    (.object [("ready", .bool ready), ("version", .string Program.version)])

def metricsPage (m : Metrics) : Response where
  status := 200
  contentType := some "application/openmetrics-text; version=1.0.0; charset=utf-8"
  body := m.expose

/-- Read a page, with `write` to write the state. -/
def read (write : Snapshot → Json) (w : World) (page : Page) (query : List Char) :
    World × Response :=
  match page with
  | .state =>
    match w.snapshot none with
    | (w, some s) => (w, .json 200 (write s))
    | (w, none) => (w, .bare 500)
  | .status =>
    match wantsFull? query with
    | none => (w, repeatedFull)
    | some full =>
      match w.check with
      | (w, some report) => (w, statusPage full report)
      | (w, none) => (w, .bare 500)
  | .readiness => (w, readinessPage w.ready)
  | .metrics => (w, metricsPage w.metrics)

/-- Answer a request, with `write` to write the state. -/
def respond (write : Snapshot → Json) (w : World) (method address : String) : World × Response :=
  let target := Target.ofAddress address
  match Page.atPath? target.path with
  | none => (w, .bare 404)
  | some page =>
    let query := (target.query.getD "").toList
    if method = "GET" then read write w page query
    else if method = "HEAD" then
      let (w, r) := read write w page query
      (w, r.headOnly)
    else (w, .bare 405)

end Rest

end IngressBalancer
