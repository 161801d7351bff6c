import JobEngine.World.Engine
import JobEngine.Http.Route
import JobEngine.Http.MediaType
import JobEngine.Api.Invocation

/-!
# A venue's HTTP API

A request passes through layers before an endpoint answers it, outermost first:

1. **metrics** — on a metered venue, `http_request method=M path=P status=N` is recorded
   after the answer, with the decoded path;
2. **cross-origin** — a preflight is answered here; any other request gets its
   cross-origin headers (see `CorsPolicy`);
3. **content type** — a `POST` or `PUT` whose `Content-Type` is given but is no
   `application/json` is refused with 415;
4. **routing** — redirects, 404 and 405 (see `route`);
5. **authentication** — every endpoint but the probes needs `Authorization: Bearer <key>`
   when the venue has a key;
6. **rate limiting** — invocations draw from the venue's token bucket, if it has one.

Endpoints answer JSON. A refused operation is answered with the status of its fault (400
for validation, 404 not found, 409 conflict, 429, 503, else 500) and `{"error": message}`.

## Main Definitions

* `World.serve` — the answer of a venue's API to a request.
-/

namespace JobEngine

namespace World

open Http

/-- The answer to a refused operation: the fault's status and message. -/
def faultResponse (h : Headers) (f : Fault) : Response := Response.jsonError h f.httpStatus f.message

/-- The readiness report of a venue at the current time, its own check answering whether it
takes work. -/
def readiness (v : Nat) : WorldM HealthReport := do
  let some x := (← get).venue? v | return HealthChecker.liveness
  let own := (← ready v).map (·.message)
  let answer (n : String) : Option String :=
    if n == "engine" then own else (x.gate.answers.lookup n).getD none
  let (report, _, health) := x.gate.health.readiness (← get).now answer
  modifyVenue v fun x => { x with gate := { x.gate with health } }
  return report

/-- An `Authorization` value cut at its first space: the scheme before it and the credentials
after it; none without a space. -/
def splitCredentials (auth : String) : Option (String × String) :=
  match auth.toList.span (· != ' ') with
  | (scheme, _ :: token) => some (String.ofList scheme, String.ofList token)
  | (_, []) => none

/-- The refusal of a request without the venue's key, if it is refused. -/
def authProblem (key : String) (r : Request) : Option String :=
  if key.isEmpty then none
  else
    let auth := r.headers.get "Authorization"
    if auth.isEmpty then some "Authorization header required"
    else match splitCredentials auth with
      | some (scheme, token) =>
        if scheme.toLower != "bearer" then some "Invalid authorization header format"
        else if token != key then some "Invalid API key"
        else none
      | none => some "Invalid authorization header format"

/-- Whether the venue's token bucket lets an invocation through now. -/
def takesInvocation (v : Nat) : WorldM Bool := do
  let w ← get
  match (w.venue? v).bind (·.gate.limiter) with
  | none => return true
  | some l =>
    let (ok, l) := l.allow w.now
    modifyVenue v fun x => { x with gate := { x.gate with limiter := some l } }
    return ok

/-- Answers an invocation request. -/
def invokeEndpoint (v : Nat) (r : Request) (h : Headers) : WorldM Response := do
  match InvokeRequest.read r.body with
  | .error .eof => return Response.jsonError h 400 "Request body is required"
  | .error f => return Response.jsonError h 400 ("Invalid request body: " ++ f.message)
  | .ok req =>
    match req.validate with
    | .error f => return faultResponse h f
    | .ok req =>
      match ← invoke v req.operation req.input req.callback none with
      | .error f => return faultResponse h f
      | .ok c =>
        let rec_ := (← get).recordOf c
        return Response.json (h.set "Location" ("/v1/jobs/" ++ rec_.id)) 202 rec_.toValue

/-- Answers the job list, filtered by the `status` query parameter when it is given. -/
def listEndpoint (v : Nat) (r : Request) (h : Headers) : WorldM Response := do
  let records ← listJobs v
  let raw := (queryValue r.query "status").getD ""
  if raw.isEmpty then return Response.json h 200 (.obj [("jobs", .arr (records.map (·.toValue)))])
  match Status.parse raw with
  | none => return faultResponse h (Fault.validation "status" ("unknown job status " ++ Text.quote raw))
  | some st =>
    let kept := records.filter (·.status == st)
    return Response.json h 200 (.obj [("jobs", .arr (kept.map (·.toValue)))])

/-- Answers an endpoint that needs no key. -/
def probeEndpoint (v : Nat) (h : Headers) (ready : Bool) : WorldM Response := do
  if !ready then return Response.json h 200 HealthChecker.liveness.toValue
  let report ← readiness v
  return Response.json h (if report.isReady then 200 else 503) report.toValue

/-- Answers an endpoint behind the key. -/
def keyedEndpoint (v : Nat) (r : Request) (h : Headers) : Endpoint → WorldM Response
  | .invoke => do
    if !(← takesInvocation v) then
      return Response.jsonError (h.set "Retry-After" "1") 429 "rate limit exceeded"
    invokeEndpoint v r h
  | .listJobs => listEndpoint v r h
  | .getJob id => do
    match ← getJob v id with
    | .ok rec_ => return Response.json h 200 rec_.toValue
    | .error f => return faultResponse h f
  | .cancelJob id => do
    match ← cancelJobById v id with
    | (rec_, none) => return Response.json h 200 rec_.toValue
    | (_, some f) => return faultResponse h f
  | .deleteJob id => do
    match ← deleteJob v id with
    | none => return { status := 204, headers := h }
    | some f => return faultResponse h f
  | .listOperations => do
    let entries := (((← get).venue? v).map (·.catalog.entries)).getD []
    return Response.json h 200 (.obj [("operations", .arr (entries.map fun (hash, m) =>
      .obj [("hash", .str hash), ("meta", m.toValue)]))])
  | .getOperation hash => do
    match (((← get).venue? v).map (·.catalog)).bind (·.get? hash) with
    | some m => return Response.json h 200 m.toValue
    | none => return faultResponse h (.notFound "operation" hash)
  | .listAdapters => do
    let some x := (← get).venue? v | return Response.json h 200 .null
    let ops := operationLists x
    let body := [("adapters", Value.strings (adapterNames x))] ++
      (if ops.isEmpty then [] else
        [("operations", Value.map (ops.map fun (n, os) => (n, Value.strings os)))])
    return Response.json h 200 (.obj body)
  | .livez => probeEndpoint v h false
  | .readyz => probeEndpoint v h true

/-- Routes a request and answers it, after the key check where one is needed. -/
def answerRouted (v : Nat) (key : String) (r : Request) (h : Headers) : WorldM Response := do
  match route r with
  | .redirect location => return redirectResponse r.method h location
  | .notFound => return Response.plainError h 404 "404 page not found"
  | .methodNotAllowed allow =>
    return Response.plainError (h.set "Allow" (", ".intercalate allow)) 405 "Method Not Allowed"
  | .endpoint .livez => probeEndpoint v h false
  | .endpoint .readyz => probeEndpoint v h true
  | .endpoint e =>
    match authProblem key r with
    | some problem => return Response.plainError h 401 problem
    | none => keyedEndpoint v r h e

/-- Whether a request carries a body of a type other than JSON. -/
def wrongContentType (r : Request) : Bool :=
  if r.method != "POST" && r.method != "PUT" then false
  else
    let ct := r.headers.get "Content-Type"
    if ct.isEmpty then false
    else match MediaType.parse ct with
      | .ok t => t != "application/json"
      | .error _ => true

/-- The answer of a venue's API to a request. -/
def serve (v : Nat) (r : Request) : WorldM Response := do
  let some x := (← get).venue? v | return Response.plainError {} 404 "404 page not found"
  let gate := x.gate
  let resp ← if CorsPolicy.isPreflight r then
      pure { status := 204, headers := gate.cors.preflight r {} }
    else
      let h := gate.cors.actual r {}
      if wrongContentType r then
        pure (Response.plainError h 415 "Content-Type must be application/json")
      else answerRouted v gate.key r h
  if gate.metered then
    emit ("http_request method=" ++ r.method ++ " path=" ++ r.path ++ " status=" ++
      toString resp.status)
  return resp

end World

end JobEngine
