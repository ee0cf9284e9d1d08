import HostMonitor.Access.Gate
import HostMonitor.Gateway.Methods
import HostMonitor.Gateway.Offer
import HostMonitor.Journal.Record
import HostMonitor.Service.Lister

/-!
# Answering requests

Messages are posted to one path.  Two others can be read without a token.  A path
that ends in slashes leads to the one without them.

The access gate decides before the body of a message is looked at.  A message
with nothing to answer is acknowledged without a body.  A message that uses up the
stack has no answer, and a reply that cannot be written, because of an infinite number
or a broken text, cannot be sent.  Both are failures of the whole request.
-/

namespace HostMonitor.Gateway

open Access Host Query Rpc Settings Time Tool

/-- What a request does not choose. -/
structure Surroundings where
  machine : Machine
  now : Instant
  charNames : Pattern.CharNames
  errorIds : ErrorIds
  /-- How long the answer took, in milliseconds, for the log. -/
  duration : String

structure HttpRequest where
  method : String
  path : String
  /-- The address of the peer, as the listener gives it. -/
  peer : Option String
  headers : Headers
  body : List UInt8

structure HttpResponse where
  status : Nat
  /-- The document in the body; nothing for an empty body. -/
  body : Option Json
  failed : Bool
  deriving Repr

namespace HttpResponse

def of (status : Nat) (body : Json) : HttpResponse := ⟨status, some body, false⟩

/-- A response without a body. -/
def bare (status : Nat) : HttpResponse := ⟨status, none, false⟩

/-- A response that says what is wrong. -/
def complaint (status : Nat) (detail : String) : HttpResponse :=
  of status (.record [("detail", .ofString detail)])

/-- The response to a request that failed as a whole. -/
def failure : HttpResponse :=
  ⟨500, some (.record [("code", .ofString "internal_error"),
    ("message", .ofString "internal server error"), ("details", .obj [])]), true⟩

end HttpResponse

/-! ## Sources -/

/-- The sources that run commands on the host. -/
def sources (s : Settings) (machine : Machine) (charNames : Pattern.CharNames) : Sources where
  units := Service.list machine (.real s.timeout)
  logs := Journal.read machine (.real s.timeout) s.journalMost
  scanLimit := some s.journalMost
  charNames

/-- The methods that answer messages. -/
def methodsFor (s : Settings) (around : Surroundings) : Methods :=
  methods (catalog (sources s around.machine around.charNames) around.now)

/-! ## Paths -/

/-- The path that messages are posted to. -/
def endpoint : String := "/mcp"

/-- The paths and the method of each. -/
def routes : List (String × String) :=
  [(endpoint, "POST"), ("/health", "GET"), ("/.well-known/mcp", "GET")]

def withoutSlashes (path : String) : String :=
  String.ofList (Text.trimEndBy (· == '/') path.toList)

/-- The path leads to another one. -/
def isDetour (path : String) : Bool :=
  path != "/" && path.endsWith "/" && (routes.lookup (withoutSlashes path)).isSome

/-! ## Responses -/

/-- The response with a document, if it can be written. -/
def written (document : Json) : HttpResponse :=
  if document.isRenderable then .of 200 document else .failure

/-- The response to what became of a message. -/
def responseOf : Except Fault Answer → HttpResponse
  | .ok answer =>
    match answer.document? with
    | none => .bare 202
    | some document => written document
  | .error _ => .failure

/-- The context of a refusal in the log. -/
def contextOf (r : HttpRequest) : String := "method=" ++ r.method ++ " path=" ++ r.path

/-- The response to a message, by what the gate decides. -/
def messageWithin (ms : Methods) (reach : Nat) (s : Settings) (around : Surroundings)
    (r : HttpRequest) : Run HttpResponse := do
  match ← authenticate s r.peer r.headers (contextOf r) with
  | .error d => return .of d.status d.document
  | .ok _ => return responseOf (← (ms.dispatchWithin reach around.errorIds r.body).attempt)

def health : Json := .record [("status", .ofString "ok")]

/-- What the server says about itself. -/
def discovery : Json :=
  .record [("name", .ofString serverName), ("version", .ofString serverVersion),
    ("mcp_endpoint", .ofString endpoint)]

/-- The response to a request, by its path. -/
def routeWithin (ms : Methods) (reach : Nat) (s : Settings) (around : Surroundings)
    (r : HttpRequest) : Run HttpResponse :=
  match routes.lookup r.path with
  | none =>
    .done (if isDetour r.path then .bare 307 else .complaint 404 "Not Found")
  | some method =>
    if r.method ≠ method then .done (.complaint 405 "Method Not Allowed")
    else if r.path = endpoint then messageWithin ms reach s around r
    else .done (.of 200 (if r.path = "/health" then health else discovery))

/-- Writes to the log how a request was answered. -/
def noteResponse (around : Surroundings) (r : HttpRequest) (response : HttpResponse) :
    Run Unit := do
  if response.failed then .note (.unanswered r.path)
  else
    if response.status = 401 then .note (.unauthorized r.method r.path)
    .note (.answered r.method r.path response.status around.duration)

/-- The response to a request, when redaction reaches so many levels deep. -/
def respondWithin (ms : Methods) (reach : Nat) (s : Settings) (around : Surroundings)
    (r : HttpRequest) : Run HttpResponse := do
  let response ← routeWithin ms reach s around r
  noteResponse around r response
  return response

/-- The response of the gateway, with its own methods. -/
def respond (reach : Nat) (s : Settings) (around : Surroundings) (r : HttpRequest) :
    Run HttpResponse :=
  respondWithin (methodsFor s around) reach s around r

end HostMonitor.Gateway
