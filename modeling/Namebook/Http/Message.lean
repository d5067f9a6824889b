import Namebook.Http.EventStream
import Namebook.Http.MediaType
import Namebook.Directory.Service
import Namebook.Text.Form

/-!
Requests and replies. A target is a path, or a whole address with a scheme and a host before the
path; the parameters after its question mark are form-encoded.
-/

namespace Namebook.Http

structure Request where
  method : String
  target : String
  headers : List (String × String) := []
  body : String := ""

namespace Request

def isSchemeChar (c : Char) : Bool := c.isAlphanum || c = '+' || c = '-' || c = '.'

/-- A target without its scheme and host, and without a fragment. -/
def relative (target : List Char) : List Char :=
  let target := target.takeWhile (· != '#')
  match target.dropWhile isSchemeChar with
  | ':' :: '/' :: '/' :: rest => rest.dropWhile fun c => c != '/' && c != '?'
  | _ => target

def path (r : Request) : String :=
  String.ofList ((relative r.target.toList).takeWhile (· != '?'))

/-- The parameters in the order of the target. -/
def parameters (r : Request) : List (String × String) :=
  match Text.cut? '?' (relative r.target.toList) with
  | some (_, query) => Text.Form.decodePairs query
  | none => []

/-- Names of headers have no case. -/
def header? (r : Request) (name : String) : Option String :=
  (r.headers.find? fun (n, _) => Text.asciiLower n.toList == name.toList).map (·.2)

/-- Whether one of the known parameters is given more than once. -/
def repeats (r : Request) (known : List String) : Bool :=
  known.any fun name => 1 < r.parameters.countP fun (n, _) => n == name

def parameter? (r : Request) (name : String) : Option String := r.parameters.lookup name

end Request

inductive Content where
  | empty
  | text (content : String)
  | json (value : Json)
  /-- Says why a request was not understood at all. -/
  | rejection (why : String)
  | events (stream : EventStream)

structure Reply where
  status : Nat
  contentType : Option String := none
  /-- The methods that there are, in the answer to another one. -/
  allow : Option String := none
  content : Content := .empty

def plainType : String := "text/plain; charset=utf-8"

def jsonType : String := "application/json"

def eventsType : String := "text/event-stream"

def metricsType : String := "text/plain; version=0.0.4; charset=utf-8"

namespace Reply

def json (value : Json) : Reply :=
  { status := 200, contentType := some jsonType, content := .json value }

def plain (status : Nat) (content : String) : Reply :=
  { status, contentType := some plainType, content := .text content }

def rejected (status : Nat) (why : String) : Reply :=
  { status, contentType := some plainType, content := .rejection why }

def notFound : Reply := { status := 404 }

def wrongMethod (allow : String) : Reply := { status := 405, allow := some allow }

/-- The reply to a request for the head alone. -/
def head (r : Reply) : Reply := { r with content := .empty }

end Reply

/-! Problems that a client is told about. -/

inductive Problem where
  | refused (r : Refusal)
  | metrics (reason : String)
  deriving DecidableEq, Repr

namespace Problem

def message : Problem → String
  | refused r => r.message
  | metrics reason => "Failed to encode metrics: Error: " ++ reason

def status : Problem → Nat
  | refused (.notReady _) => 503
  | refused (.notAReference _) => 400
  | refused (.unknownSource _) => 400
  | metrics _ => 500

def reason : Problem → String
  | refused (.notReady _) => "NotReady"
  | refused (.notAReference _) => "InvalidResourceRef"
  | refused (.unknownSource _) => "InvalidSource"
  | metrics _ => "MetricsEncodingFailed"

def reply (p : Problem) : Reply where
  status := p.status
  contentType := some jsonType
  content := .json (.record [("reason", .text p.reason), ("message", .text p.message)])

end Problem

end Namebook.Http
