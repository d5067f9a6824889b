import Namebook.Http.Body
import Namebook.Metrics.Exposition

/-!
Which request does what. Paths are compared as they are written; every path has one method, and a
path that is read may also be asked for its head alone.
-/

namespace Namebook.Http

inductive Route where
  | names
  | stream
  | check
  | groups
  | reference
  | summary
  | health
  | ready
  | metrics
  deriving DecidableEq, Repr

namespace Route

def all : List Route :=
  [names, stream, check, groups, reference, summary, health, ready, metrics]

def path : Route → String
  | names => "/api/v1/fqdns"
  | stream => "/api/v1/fqdns/stream"
  | check => "/api/v1/fqdns/check"
  | groups => "/api/v1/groups/resolve"
  | reference => "/api/v1/resource-refs/parse"
  | summary => "/api/v1/summary"
  | health => "/healthz"
  | ready => "/readyz"
  | metrics => "/metrics"

def ofPath? (path : String) : Option Route := all.find? fun r => r.path == path

/-- Whether the route takes a body. -/
def isPosted : Route → Bool
  | check => true
  | groups => true
  | _ => false

end Route

/-! Parameters of lists and streams. A blank parameter counts as missing. -/

def listParameters : List String :=
  ["namespace", "portal", "source", "search", "pageSize", "pageToken"]

def given? (r : Request) (name : String) : Option String :=
  (r.parameter? name).bind Text.nonBlank?

def provenance? (raw : Option String) : Except Refusal (Option Provenance) :=
  match raw with
  | none => .ok none
  | some raw =>
    match Provenance.parse raw with
    | .ok p => .ok (some p)
    | .error _ => .error (.unknownSource raw)

def filters (r : Request) : Except Refusal Filters := do
  let provenance ← provenance? (given? r "source")
  return { space := given? r "namespace", portal := given? r "portal", provenance,
           search := given? r "search" }

/-- A page size that is no number means the whole list. -/
def pageSize (r : Request) : Nat :=
  ((r.parameter? "pageSize").bind fun raw =>
    Text.natUpTo? Text.maxWord (Text.trimChars raw.toList)).getD 0

def pageToken (r : Request) : String := (r.parameter? "pageToken").getD ""

def repeated : Reply := Reply.rejected 400 "a parameter is given twice"

/-! What the routes do. -/

def refusal (e : Refusal) : Reply := (Problem.refused e).reply

def list (d : Directory) (r : Request) : Reply × Directory :=
  if r.repeats listParameters then (repeated, d)
  else match filters r with
    | .error e => (refusal e, d)
    | .ok f =>
      match d.list f (pageSize r) (pageToken r) with
      | (.ok page, d) => (Reply.json page.toJson, d)
      | (.error e, d) => (refusal e, d)

/-- Opens a feed that is known by `id`; asked for the head alone, leaves it at once. -/
def openStream (d : Directory) (id : String) (r : Request) : Reply × Directory :=
  if r.repeats listParameters then (repeated, d)
  else match filters r with
    | .error e => (refusal e, d)
    | .ok f =>
      let d := if r.method = "HEAD" then d.touchFeed id f else d.openFeed id f
      ({ status := 200, contentType := some eventsType,
         content := .events (EventStream.start d id) }, d)

def checkName (d : Directory) (r : Request) : Reply × Directory :=
  match decodeBody CheckRequest.shape r with
  | .error reply => (reply, d)
  | .ok asked =>
    let (result, d) := d.checkName asked.name asked.type asked.targets
    (Reply.json result.toJson, d)

def resolveGroups (d : Directory) (r : Request) : Reply :=
  match decodeBody GroupsRequest.shape r with
  | .error reply => reply
  | .ok asked =>
    Reply.json (.record [("groups", .texts (d.resolveGroups asked.labels asked.space))])

def parseReference (r : Request) : Reply :=
  if r.repeats ["raw"] then repeated
  else match Directory.parseReference ((r.parameter? "raw").getD "") with
    | .ok ref => Reply.json ref.toJson
    | .error e => refusal e

def readiness (d : Directory) : Reply :=
  if d.snapshot.isReady then Reply.plain 200 "ready"
  else Reply.plain 503 "waiting for first refresh"

def perform (d : Directory) (id : String) (r : Request) : Route → Reply × Directory
  | .names => list d r
  | .stream => openStream d id r
  | .check => checkName d r
  | .groups => (resolveGroups d r, d)
  | .reference => (parseReference r, d)
  | .summary => (Reply.json d.snapshot.summary.toJson, d)
  | .health => (Reply.plain 200 "ok", d)
  | .ready => (readiness d, d)
  | .metrics =>
    ({ status := 200, contentType := some metricsType, content := .text d.metrics.render }, d)

/-- Answers a request. A stream that it opens is known by `id`. -/
def handle (d : Directory) (id : String) (r : Request) : Reply × Directory :=
  match Route.ofPath? r.path with
  | none => (Reply.notFound, d)
  | some route =>
    if route.isPosted then
      if r.method = "POST" then perform d id r route else (Reply.wrongMethod "POST", d)
    else if r.method = "GET" then perform d id r route
    else if r.method = "HEAD" then
      let (reply, d) := perform d id r route
      (reply.head, d)
    else (Reply.wrongMethod "GET,HEAD", d)

end Namebook.Http
