import JobEngine.Net.Url
import JobEngine.Fault
import JobEngine.Text.Blank
import JobEngine.Resilience.Breaker
import JobEngine.Operation.Metadata

/-!
# Remote venues

A venue can forward operations to other venues. Each remote venue is named and reached at a
base URL; the client that talks to it polls the remote job with growing intervals.

## Main Definitions

* `addVenuePair`, `parseVenues` — reads `name=url` pairs.
* `ClientSettings` — what configures a client, with `ClientSettings.resolve` filling defaults.
* `Client` — a resolved client: base URL, label, polling and breaker settings.

## Design Notes

A client needs an absolute `http` or `https` URL with a host. Its base is the URL in normal
form without trailing slashes, and its label defaults to the URL's host with port.
-/

namespace JobEngine

/-- Adds a `name=url` pair to the venues read so far. Names and URLs are trimmed; a name must
not hold a colon, since `name:op` is how operations are forwarded, and may appear once. -/
def addVenuePair (venues : List (String × String)) (pair : String) :
    Except Fault (List (String × String)) :=
  let (name, url, found) := cut (Text.trimBlank pair) '='
  let name := Text.trimBlank name
  if !found || name.isEmpty || url.isEmpty then
    .error (.validation "REMOTE_VENUES" ("expected name=url, got " ++ Text.quote pair))
  else if name.contains ':' then
    .error (.validation "REMOTE_VENUES" ("venue name " ++ Text.quote name ++
      " must not contain ':'"))
  else if (venues.lookup name).isSome then
    .error (.validation "REMOTE_VENUES" ("venue " ++ Text.quote name ++ " listed twice"))
  else .ok (venues ++ [(name, Text.trimBlank url)])

/-- Reads `name=url` pairs into a map from names to URLs; the first pair refused stops it. -/
def parseVenues (pairs : List String) : Except Fault (List (String × String)) :=
  pairs.foldlM addVenuePair []

/-- What configures a client of a remote venue; durations in nanoseconds, zero for the
default. -/
structure ClientSettings where
  url : String
  apiKey : String := ""
  name : String := ""
  pollInitial : Int := 0
  pollFactor : Float := 0
  /-- The longest poll interval; zero leaves the interval uncapped. -/
  pollMax : Int := 0
  fetchTimeout : Int := 0
  breaker : BreakerSettings := {}

/-- A client of a remote venue with its settings resolved. -/
structure Client where
  /-- The venue's URL in normal form, without trailing slashes. -/
  base : String
  apiKey : String
  name : String
  pollInitial : Int
  pollFactor : Float
  pollMax : Int
  fetchTimeout : Int
  breaker : BreakerSettings

/-- Drops trailing slashes. -/
def dropTrailingSlashes (s : String) : String :=
  String.ofList (s.toList.reverse.dropWhile (· == '/')).reverse

/-- Checks the URL and fills defaults: first poll after 300 ms, factor 1.5 (when below 1),
fetch timeout 10 s, and the URL's host as the label. -/
def ClientSettings.resolve (c : ClientSettings) : Except Fault Client :=
  let refused : Fault := .validation "url" ("venue URL must be an absolute http(s) URL, got " ++
    Text.quote c.url)
  match Url.parse c.url with
  | .error _ => .error refused
  | .ok u =>
    if (u.scheme != "http" && u.scheme != "https") || u.host.isEmpty then .error refused
    else .ok {
      base := dropTrailingSlashes u.render, apiKey := c.apiKey,
      name := if c.name.isEmpty then u.hostText else c.name,
      pollInitial := if c.pollInitial ≤ 0 then 300 * Duration.nanosPerMilli else c.pollInitial,
      pollFactor := if c.pollFactor < 1 then 1.5 else c.pollFactor,
      pollMax := c.pollMax,
      fetchTimeout := if c.fetchTimeout ≤ 0 then 10 * Duration.nanosPerSecond else c.fetchTimeout,
      breaker := c.breaker }

end JobEngine
