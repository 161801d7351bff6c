import JobEngine.Http.Message
import JobEngine.Net.Url

/-!
# Routing API requests

The API answers a fixed set of **endpoints**, each a method and a path pattern whose
segments are literal or a wildcard standing for one non-empty segment:

| method | pattern |
|---|---|
| GET | `/livez`, `/readyz` |
| POST | `/v1/invoke` |
| GET | `/v1/jobs`, `/v1/jobs/{id}`, `/v1/operations`, `/v1/operations/{hash}`, `/v1/adapters` |
| POST | `/v1/jobs/{id}/cancel` |
| DELETE | `/v1/jobs/{id}` |

Segments are compared after their escapes are decoded, so `a%2Fb` is the one segment `a/b`.
A `GET` pattern also answers `HEAD`.

A request whose path is not **clean** (doubled slashes, `.` or `..` segments) is redirected
to the clean path with `307 Temporary Redirect`, which keeps the method. Otherwise a path that some endpoint answers with another method gets
`405 Method Not Allowed` listing the methods that would do, and any other path `404`.

## Main Definitions

* `cleanPath` — the clean form of a path.
* `Endpoint` — what a request asks for.
* `route` — where a request goes.
* `Request.ofTarget` — a request for a path and query on the API's host.
* `queryValue` — the first value of a query parameter.
-/

namespace JobEngine.Http

/-- The clean form of a slash-separated path: rooted, without empty, `.` or `..` segments
(`..` removes the segment before it, and nothing at the root). -/
def cleanSegments (segs : List String) : List String :=
  (segs.foldl (fun acc s =>
    if s.isEmpty || s == "." then acc
    else if s == ".." then acc.drop 1
    else s :: acc) []).reverse

/-- The clean form of a request path: rooted, with `.`, `..` and empty segments removed, and
a trailing slash kept. -/
def cleanPath (p : String) : String :=
  if p.isEmpty then "/"
  else
    let p := if p.startsWith "/" then p else "/" ++ p
    let np := "/" ++ "/".intercalate (cleanSegments (p.splitOn "/"))
    if p.endsWith "/" && np != "/" then np ++ "/" else np

/-- What an API request asks for. -/
inductive Endpoint where
  | livez
  | readyz
  | invoke
  | listJobs
  | getJob (id : String)
  | cancelJob (id : String)
  | deleteJob (id : String)
  | listOperations
  | getOperation (hash : String)
  | listAdapters
  deriving DecidableEq, Repr

/-- A segment of a path pattern. -/
inductive Segment where
  | lit (s : String)
  | wild

/-- A route: a method, a pattern, and the endpoint made of the wildcard values. -/
structure RouteEntry where
  method : String
  pattern : List Segment
  endpoint : List String → Endpoint

/-- The first wildcard value. -/
def firstValue (vs : List String) : String := vs.headD ""

/-- The API's routes. -/
def routes : List RouteEntry :=
  [ ⟨"GET", [.lit "livez"], fun _ => .livez⟩,
    ⟨"GET", [.lit "readyz"], fun _ => .readyz⟩,
    ⟨"POST", [.lit "v1", .lit "invoke"], fun _ => .invoke⟩,
    ⟨"GET", [.lit "v1", .lit "jobs"], fun _ => .listJobs⟩,
    ⟨"GET", [.lit "v1", .lit "jobs", .wild], fun vs => .getJob (firstValue vs)⟩,
    ⟨"POST", [.lit "v1", .lit "jobs", .wild, .lit "cancel"], fun vs => .cancelJob (firstValue vs)⟩,
    ⟨"DELETE", [.lit "v1", .lit "jobs", .wild], fun vs => .deleteJob (firstValue vs)⟩,
    ⟨"GET", [.lit "v1", .lit "operations"], fun _ => .listOperations⟩,
    ⟨"GET", [.lit "v1", .lit "operations", .wild], fun vs => .getOperation (firstValue vs)⟩,
    ⟨"GET", [.lit "v1", .lit "adapters"], fun _ => .listAdapters⟩ ]

/-- A path segment with its escapes decoded; one with a malformed escape is kept as is. -/
def decodeSegment (s : String) : String :=
  match Url.unescape (Url.bytesOf s) .pathSegment with
  | .ok bs => Url.textOf bs
  | .error _ => s

/-- The decoded segments of a rooted path; a trailing slash gives a last empty segment. -/
def segmentsOf (path : String) : List String :=
  match path.splitOn "/" with
  | "" :: segs => segs.map decodeSegment
  | segs => segs.map decodeSegment

/-- The wildcard values of a pattern matching segments, if it does. -/
def matchSegments : List Segment → List String → Option (List String)
  | [], [] => some []
  | .lit l :: ps, s :: ss => if l == s then matchSegments ps ss else none
  | .wild :: ps, s :: ss => if s.isEmpty then none else (matchSegments ps ss).map (s :: ·)
  | _, _ => none

/-- The endpoint of a method and segments, trying the method's own routes and, for `HEAD`,
those of `GET`. -/
def findEndpoint (method : String) (segs : List String) : Option Endpoint :=
  let find (m : String) : Option Endpoint :=
    routes.findSome? fun r =>
      if r.method == m then (matchSegments r.pattern segs).map r.endpoint else none
  match find method with
  | some e => some e
  | none => if method == "HEAD" then find "GET" else none

/-- The methods whose routes match the segments, sorted, with `HEAD` wherever `GET` is. -/
def allowedMethods (segs : List String) : List String :=
  let ms := (routes.filter fun r => (matchSegments r.pattern segs).isSome).map (·.method)
  let ms := if ms.contains "GET" then "HEAD" :: ms else ms
  (ms.eraseDups).mergeSort fun a b => decide (a ≤ b)

/-- Where a request goes. -/
inductive Routed where
  | endpoint (e : Endpoint)
  /-- To the clean form of the path, written as a URL reference. -/
  | redirect (location : String)
  | methodNotAllowed (allow : List String)
  | notFound

/-- The URL reference of a clean path and a query. -/
def redirectTarget (path query : String) : String :=
  Url.render { path := Url.bytesOf path, rawQuery := Url.bytesOf query }

/-- Where a request goes. -/
def route (r : Request) : Routed :=
  let path := if r.method == "CONNECT" then r.rawPath else cleanPath r.rawPath
  if path != r.rawPath then .redirect (redirectTarget path r.query)
  else
    let segs := segmentsOf path
    match findEndpoint r.method segs with
    | some e => .endpoint e
    | none =>
      let allow := allowedMethods segs
      if allow.isEmpty then .notFound else .methodNotAllowed allow

/-- The text of a reference inside an HTML attribute. -/
def htmlEscape (s : String) : String :=
  String.join (s.toList.map fun c =>
    match c with
    | '&' => "&amp;"
    | '<' => "&lt;"
    | '>' => "&gt;"
    | '"' => "&#34;"
    | c => if c.toNat == 39 then "&#39;" else c.toString)

/-- A location as a header carries it: every byte outside ASCII written as `%` and its
lowercase hexadecimal value. -/
def escapeNonAscii (location : String) : String :=
  String.join (location.toUTF8.toList.map fun b =>
    if b < 0x80 then (Char.ofNat b.toNat).toString else "%" ++ Text.hexDigits 2 b.toNat)

/-- The answer redirecting temporarily, with the same method, to a location: `GET` and `HEAD`
are told it is HTML, and `GET` gets a link to it. -/
def redirectResponse (method : String) (h : Headers) (location : String) : Response :=
  let h := h.set "Location" (escapeNonAscii location)
  let h := if method == "GET" || method == "HEAD" then h.set "Content-Type" "text/html; charset=utf-8"
    else h
  let body := if method == "GET" then
      "<a href=\"" ++ htmlEscape location ++ "\">Temporary Redirect</a>.\n\n" else ""
  { status := 307, headers := h, body }

/-- A request for a path and query on the API's host, read as a URL; the fault of a
malformed one. -/
def Request.ofTarget (method target : String) (headers : Headers) (body : String) :
    Except String Request := do
  let u ← Url.parse ("http://venue.test" ++ target)
  let path := Url.textOf u.path
  let rawPath := Url.textOf u.escapedPath
  let query := Url.textOf u.rawQuery
  pure { method, path, rawPath, query, headers, body }

/-- The first value of a query parameter. Parameters are separated by `&`; one holding a
`;` or a malformed escape is skipped, and `+` stands for a space. -/
def queryValue (query key : String) : Option String :=
  let decode (s : String) : Option String :=
    match Url.unescape (Url.bytesOf s) .queryComponent with
    | .ok bs => some (Url.textOf bs)
    | .error _ => none
  (query.splitOn "&").findSome? fun part =>
    if part.isEmpty || part.contains ';' then none
    else
      let (k, v) := match part.splitOn "=" with
        | k :: rest => (k, "=".intercalate rest)
        | [] => ("", "")
      match decode k, decode v with
      | some k', some v' => if k' == key then some v' else none
      | _, _ => none

end JobEngine.Http
