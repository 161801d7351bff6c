import JobEngine.Value.Bind
import JobEngine.Job.Event
import JobEngine.Net.Url
import JobEngine.Text.Blank

/-!
# Invocation requests

The body of an invocation request names an operation, an input and optionally a callback:
`{"operation": "test:echo", "input": {...}, "callback": {"url": ..., "key": ..., "events": [...]}}`.

A request is checked before anything runs: the operation, without surrounding blanks, must
be given and at most 256 bytes long; a callback needs an absolute `http` or `https` URL with
a host, and at most 16 event types, each `venue.job.update` or `venue.job.finish`.

## Main Definitions

* `InvokeRequest` — a decoded invocation request.
* `InvokeRequest.read` — the request a body holds.
* `InvokeRequest.validate` — the request checked, its operation trimmed.
* `callbackUrlProblem` — what is wrong with a callback URL.
-/

namespace JobEngine

/-- An invocation request. -/
structure InvokeRequest where
  operation : String
  input : Value
  callback : Option Callback

namespace InvokeRequest

/-- The shape of a callback in a request. -/
def callbackShape : Shape :=
  .record "engine.Callback" "Callback"
    [("url", .text "string"), ("key", .text "string"), ("events", .texts)] true

/-- The shape of an invocation request. -/
def shape : Shape :=
  .record "api.InvokeRequest" "InvokeRequest"
    [("operation", .text "string"), ("input", .any), ("callback", callbackShape)] false

/-- The callback a bound value holds. -/
def callbackOf : Option Value → Option Callback
  | some (.obj fs) =>
    let text (k : String) : String := match fs.lookup k with
      | some (.str s) => s
      | _ => ""
    let events := match fs.lookup "events" with
      | some (.arr xs) => xs.filterMap Value.asString?
      | _ => []
    some { url := text "url", key := text "key", events }
  | _ => none

/-- The request a body holds: its first JSON document bound to the request's shape. -/
def read (body : String) : Except Fault InvokeRequest := do
  let v ← shape.readStream body
  let operation := match v.field? "operation" with
    | some (.str s) => s
    | _ => ""
  pure { operation, input := (v.field? "input").getD .null, callback := callbackOf (v.field? "callback") }

/-- The longest operation reference accepted, in bytes. -/
def maxReference : Nat := 256

/-- The most event types a callback may name. -/
def maxEvents : Nat := 16

end InvokeRequest

/-- What is wrong with a callback URL, if anything. -/
def callbackUrlProblem (url : String) : Option String :=
  if url.isEmpty then some "URL is required"
  else match Url.parse url with
    | .error _ => some "malformed URL"
    | .ok u =>
      if u.scheme != "http" && u.scheme != "https" then
        some ("URL scheme must be http or https, got " ++ Text.quote u.scheme)
      else if u.host.isEmpty then some "URL must have a host"
      else none

namespace InvokeRequest

/-- The request checked, with its operation trimmed; the first problem otherwise. -/
def validate (r : InvokeRequest) : Except Fault InvokeRequest := do
  let operation := Text.trimBlank r.operation
  if operation.isEmpty then throw (Fault.validation "operation" "operation is required")
  if operation.utf8ByteSize > maxReference then
    throw (Fault.validation "operation"
      ("operation reference exceeds maximum length of " ++ toString maxReference))
  match r.callback with
  | none => pure ()
  | some cb =>
    if let some p := callbackUrlProblem cb.url then
      throw (Fault.validation "callback.url" ("invalid callback URL: " ++ p))
    if cb.events.length > maxEvents then
      throw (Fault.validation "callback.events"
        ("callback events exceed maximum of " ++ toString maxEvents))
    for e in cb.events do
      if e != updateEventType && e != finishEventType then
        throw (Fault.validation "callback.events" ("unknown event type " ++ Text.quote e))
  pure { r with operation }

end InvokeRequest

end JobEngine
