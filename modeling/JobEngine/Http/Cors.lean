import JobEngine.Http.Message
import JobEngine.Text.Case

/-!
# Cross-origin requests

A venue's API tells browsers which other origins may call it. The policy names the allowed
origins (all of them when the list is empty or holds `*`; an entry with one `*` matches every
origin with the text before the star as prefix and the text after it as suffix; origins are
compared in lower case), and fixes the methods `GET`, `POST`, `DELETE` and `OPTIONS`, the
request headers `Authorization` and `Content-Type`, the response headers a page may read
(`Location` and `Retry-After`) and how long a browser may remember a preflight: 600 s.

A **preflight** is an `OPTIONS` request naming the method it is for. It is answered here,
with status 204, and never reaches the API. Its answer always varies by origin and requested
method and headers; it grants access only when the origin, the method and every requested
header are allowed. Requested headers must come as a comma-separated list in lower case, in
sorted order, without repetition, each with at most one blank on either side; up to 16
empty elements are tolerated.

Any other request goes on to the API, with headers that vary by origin and, for an allowed
origin and method, grant it access.

## Main Definitions

* `CorsPolicy` — the allowed origins.
* `CorsPolicy.isPreflight` — whether a request is a preflight.
* `CorsPolicy.preflight` — the headers answering a preflight.
* `CorsPolicy.actual` — the headers added to any other request's answer.
-/

namespace JobEngine.Http

/-- An allowed origin: every origin, one origin, or those with a prefix and a suffix. -/
inductive OriginRule where
  | any
  | exact (origin : String)
  | around (pre post : String)

/-- Whether an origin, in lower case, is allowed by a rule. -/
def OriginRule.allows (origin : String) : OriginRule → Bool
  | .any => true
  | .exact o => o == origin
  | .around pre post =>
    pre.utf8ByteSize + post.utf8ByteSize ≤ origin.utf8ByteSize && pre.isPrefixOf origin &&
      post.toList.isSuffixOf origin.toList

/-- The rule of one configured origin. -/
def OriginRule.ofText (o : String) : OriginRule :=
  let o := Text.lower o
  if o == "*" then .any
  else match o.splitOn "*" with
    | pre :: rest@(_ :: _) => .around pre ("*".intercalate rest)
    | _ => .exact o

/-- The cross-origin policy of an API: its allowed origins. -/
structure CorsPolicy where
  rules : List OriginRule

namespace CorsPolicy

/-- The policy of a list of origins; an empty list allows every origin. -/
def ofOrigins (origins : List String) : CorsPolicy :=
  { rules := if origins.isEmpty then [.any] else origins.map OriginRule.ofText }

/-- Whether every origin is allowed. -/
def allowsAll (p : CorsPolicy) : Bool := p.rules.any fun | .any => true | _ => false

/-- Whether an origin is allowed. -/
def allowsOrigin (p : CorsPolicy) (origin : String) : Bool :=
  p.allowsAll || p.rules.any (·.allows (Text.lower origin))

/-- The allowed methods, in upper case. -/
def methods : List String := ["GET", "POST", "DELETE", "OPTIONS"]

/-- Whether a method may be used; `OPTIONS` always may. -/
def allowsMethod (m : String) : Bool := m == "OPTIONS" || methods.contains m

/-- The request headers a caller may send, in lower case and sorted. -/
def headerNames : List String := ["authorization", "content-type"]

/-- How many bytes of a requested list are looked at for the next comma: enough for the
longest allowed name with a blank on either side. -/
def scanLimit : Nat := 1 + 13 + 1 + 1

/-- How many empty elements a requested list may hold. -/
def maxEmpty : Nat := 16

/-- Drops at most one blank (space or tab) from the start of a text; more than one before
anything else refuses it. -/
def trimFront (cs : List Char) : Option (List Char) :=
  let blank (c : Char) : Bool := c == ' ' || c == '\t'
  match cs with
  | c :: rest =>
    if blank c then
      match rest with
      | d :: rest' => if blank d then (if rest'.isEmpty then some [] else none) else some rest
      | [] => some []
    else some cs
  | [] => some []

/-- Drops at most one blank from each end of a name; refused when more would have to go. -/
def trimName (cs : List Char) : Option (List Char) := do
  let back ← trimFront cs.reverse
  trimFront back.reverse

/-- Splits at the first comma within the scan limit. -/
def cutComma (cs : List Char) : List Char × List Char × Bool :=
  match (cs.take scanLimit).findIdx? (· == ',') with
  | some i => (cs.take i, cs.drop (i + 1), true)
  | none => (cs, [], false)

/-- Checks one requested list: every name allowed, in increasing order of the allowed list
after position `last`, with `empty` empty elements seen. Returns the new position and count. -/
def acceptList : Nat → List Char → Option Nat → Nat → Option (Option Nat × Nat)
  | 0, _, last, empty => some (last, empty)
  | fuel + 1, cs, last, empty => do
    let (name, rest, more) := cutComma cs
    let name ← trimName name
    if name.isEmpty then
      let empty := empty + 1
      if empty > maxEmpty then none
      else if more then acceptList fuel rest last empty else some (last, empty)
    else
      let pos ← headerNames.idxOf? (String.ofList name)
      if last.any (pos ≤ ·) then none
      else if more then acceptList fuel rest (some pos) empty else some (some pos, empty)

/-- Whether the requested headers, possibly split over several values, are all allowed. -/
def acceptsHeaders (values : List String) : Bool :=
  let step (acc : Option (Option Nat × Nat)) (v : String) : Option (Option Nat × Nat) :=
    acc.bind fun (last, empty) => acceptList (v.length + 1) v.toList last empty
  (values.foldl step (some (none, 0))).isSome

/-- Whether a request is a preflight: `OPTIONS` naming the method it is for. -/
def isPreflight (r : Request) : Bool :=
  r.method == "OPTIONS" && !(r.headers.get "Access-Control-Request-Method").isEmpty

/-- The headers answering a preflight, added to `h`. -/
def preflight (p : CorsPolicy) (r : Request) (h : Headers) : Headers :=
  let vary := "Origin, Access-Control-Request-Method, Access-Control-Request-Headers"
  let h := h.add "Vary" vary
  let origin := r.headers.get "Origin"
  let method := r.headers.get "Access-Control-Request-Method"
  let requested := r.headers.values? "Access-Control-Request-Headers"
  if origin.isEmpty || !p.allowsOrigin origin || !allowsMethod method then h
  else if requested.any (!acceptsHeaders ·) then h
  else
    let h := if p.allowsAll then h.set "Access-Control-Allow-Origin" "*"
      else h.setAll "Access-Control-Allow-Origin" ((r.headers.values? "Origin").getD [])
    let h := h.setAll "Access-Control-Allow-Methods"
      ((r.headers.values? "Access-Control-Request-Method").getD [])
    let h := match requested with
      | some vs@(first :: _) => if first.isEmpty then h else h.setAll "Access-Control-Allow-Headers" vs
      | _ => h
    h.set "Access-Control-Max-Age" "600"

/-- The headers added to the answer of a request that is not a preflight. -/
def actual (p : CorsPolicy) (r : Request) (h : Headers) : Headers :=
  let h := h.add "Vary" "Origin"
  let origin := r.headers.get "Origin"
  if origin.isEmpty || !p.allowsOrigin origin || !allowsMethod r.method then h
  else
    let h := if p.allowsAll then h.set "Access-Control-Allow-Origin" "*"
      else h.setAll "Access-Control-Allow-Origin" ((r.headers.values? "Origin").getD [])
    h.set "Access-Control-Expose-Headers" "Location, Retry-After"

end CorsPolicy

end JobEngine.Http
