import JobEngine.World.Api
import JobEngine.Job.Wire

/-!
# Remote venues

A venue can hand work to another venue over HTTP. Its **client** sends JSON requests: an
invocation (`POST /v1/invoke`), a fetch (`GET /v1/jobs/{id}`), a cancellation
(`POST /v1/jobs/{id}/cancel`) and a liveness ping (`GET /livez`), with the key as a bearer
token when it has one, and otherwise the user name and password of its URL, if it has them, as
basic credentials. Errors show the URL with its password hidden. A venue's redirect to the
clean form of a path is followed. Peers answer from inside the world: a venue of the world through its
API, or a script of canned replies. A peer marked down refuses every connection.

A reply other than 2xx is an API error carrying the reply's `error` message, if it has one;
a 404 for a job is the remote job being unknown. A 2xx reply's record is read back; a
malformed one is a decoding fault.

**Following** a remote job keeps a local *copy* of it up to date: while the
copy is not finished, the remote record is fetched through the link's circuit breaker
(API errors below 500 and unknown jobs do not count against it), every fetch's outcome is
recorded as a metric, and the copy takes the fetched record; between fetches the follower
sleeps for the next delay of the link's poll sequence. Following ends when the copy
finishes, when a fetch fails, when the remote status is no status, or when the follower's
scope ends, which cancels the copy.

A **relay** runs a job of a forwarding adapter: it invokes the operation remotely, marks the
job started and follows the remote job with a copy that passes its changes on to the job.
If following stops because the job's scope ended, the remote job is cancelled; if it fails
for any other reason than the remote job failing or being cancelled, the job fails.

## Main Definitions

* `World.exchange` — one request to a remote venue and its reply.
* `World.submitRemote`, `World.fetchRemote`, `World.cancelRemote`, `World.pingRemote`.
* `World.pollRemote` — a fetch through the breaker, recorded as a metric.
* `Tracking.advance` — one round of following a remote job: a fetch, and what follows it.
* `Tracking.round` — a round as the follower takes it, at once or after a sleep.
* `Relay.step` — one step of a forwarded job.
-/

namespace JobEngine

namespace World

open Http

/-- The word naming a method in connection faults: `GET` is `Get`. -/
def methodWord (m : String) : String :=
  match m.toList with
  | c :: rest => String.ofList (c :: rest.map Char.toLower)
  | [] => ""

/-- The line a scripted venue logs for a request: method, path, authorization and body,
without blanks at either end. -/
def logLine (r : Request) : String :=
  Text.trimBlank (r.method ++ " " ++ r.path ++ " auth=" ++ r.headers.get "Authorization" ++ " " ++
    r.body)

/-- The reply a script gives a request, if it has one for it. -/
def scriptedReply (l : Nat) (r : Request) : WorldM (Option Reply) := do
  let some link := (← get).links[l]? | return none
  match link.peer with
  | .venue _ _ => return none
  | .script invoke fetch cancel ping =>
    if r.method == "POST" && r.path == "/v1/invoke" then return invoke
    else if r.method == "GET" && r.path == "/livez" then return ping
    else if r.method == "POST" && r.path.startsWith "/v1/jobs/" && r.path.endsWith "/cancel" then
      return cancel
    else if r.method == "GET" && r.path.startsWith "/v1/jobs/" then
      match fetch with
      | [] => return none
      | first :: _ =>
        let k := link.fetches
        modifyLink l fun x => { x with fetches := x.fetches + 1 }
        return some (fetch[k]?.getD (fetch.getLastD first))
    else return none

/-- The reply of a scripted venue, logging the request. -/
def scriptResponse (l : Nat) (r : Request) : WorldM Response := do
  modifyLink l fun x => { x with log := x.log ++ [logLine r] }
  match ← scriptedReply l r with
  | some reply =>
    return { status := reply.status, headers := ({} : Headers).set "Content-Type" "application/json",
             body := reply.body }
  | none => return Response.jsonError {} 404 "no script"

/-- Sends a request to a venue of the world, following its redirects, at most `hops` of them:
a reply that moves the request elsewhere on the venue (a `Location` that is a path) is
followed. After `307` and `308` the request keeps its method and body; after `301`, `302` and
`303` a request other than `GET` or `HEAD` becomes a `GET` without a body. -/
def serveFollowing (v : Nat) (req : Request) : Nat → WorldM Response
  | 0 => serve v req
  | hops + 1 => do
    let resp ← serve v req
    let location := resp.headers.get "Location"
    if [301, 302, 303, 307, 308].contains resp.status && location.startsWith "/" then
      match Url.parse location with
      | .ok u =>
        let keep := resp.status == 307 || resp.status == 308 || req.method == "GET" ||
          req.method == "HEAD"
        let next := if keep then req
          else { req with method := "GET", body := "",
                          headers := (req.headers.erase "Content-Type").erase "Content-Length" }
        serveFollowing v { next with path := Url.textOf u.path, rawPath := Url.textOf u.escapedPath,
                                     query := Url.textOf u.rawQuery } hops
      | .error _ => return resp
    else return resp

/-- Sends a request to a remote venue: the reply, or why there is none. -/
def exchange (l : Nat) (method path : String) (body : Option Value) : WorldM (Except Fault Response) := do
  let some link := (← get).links[l]? | return .error (.plain "unknown venue")
  let target := link.client.base ++ path
  match Url.parse target with
  | .error e => return .error (.plain e)
  | .ok u =>
    if link.down then
      return .error (.plain (methodWord method ++ " " ++ Text.quote u.redacted ++
        ": connection refused"))
    let text := (body.map (·.render true)).getD ""
    let h : Headers := ({} : Headers).set "Accept" "application/json"
    let h := if body.isSome then h.set "Content-Type" "application/json" else h
    let h := if !link.client.apiKey.isEmpty then h.set "Authorization" ("Bearer " ++ link.client.apiKey)
      else match u.basicAuth with
        | some credentials => h.set "Authorization" credentials
        | none => h
    let req : Request := { method, path := Url.textOf u.path, rawPath := Url.textOf u.escapedPath,
                           query := Url.textOf u.rawQuery, headers := h, body := text }
    match link.peer with
    | .venue v _ => return .ok (← serveFollowing v req 10)
    | .script .. => return .ok (← scriptResponse l req)

/-- Sends a request and checks the reply: a 404 for a job is an unknown remote job, and any
other status outside 2xx an API error. Returns the body of a 2xx reply. -/
def call (l : Nat) (method path : String) (body : Option Value) : WorldM (Except Fault String) := do
  match ← exchange l method path body with
  | .error f => return .error f
  | .ok resp =>
    if resp.status == 404 && path.startsWith "/v1/jobs/" then return .error .remoteNotFound
    else if resp.status < 200 || resp.status ≥ 300 then
      return .error (.api resp.status (errorReplyMessage resp.body))
    else return .ok resp.body

/-- Reads the record of a 2xx reply. -/
def recordReply (r : Except Fault String) : Except Fault Record :=
  match r with
  | .error f => .error f
  | .ok body =>
    match Record.read body with
    | .ok rec => .ok rec
    | .error f => .error (.wrap "decode response" f)

/-- The path of a remote job. -/
def jobPath (id : String) : String :=
  "/v1/jobs/" ++ Url.textOf (Url.escape (Url.bytesOf id) .pathSegment)

/-- Invokes an operation remotely; the remote job's first record. -/
def submitRemote (l : Nat) (ref : String) (input : Value) : WorldM (Except Fault Record) := do
  let body : Value := .obj [("operation", .str ref), ("input", input)]
  match recordReply (← call l "POST" "/v1/invoke" (some body)) with
  | .error f => return .error (.wrap ("submit " ++ ref) f)
  | .ok rec =>
    if rec.id.isEmpty then
      return .error (.plain ("submit " ++ ref ++ ": venue returned a record without an id"))
    return .ok rec

/-- The current record of a remote job. -/
def fetchRemote (l : Nat) (id : String) : WorldM (Except Fault Record) := do
  return recordReply (← call l "GET" (jobPath id) none)

/-- Cancels a remote job; its record after. -/
def cancelRemote (l : Nat) (id : String) : WorldM (Except Fault Record) := do
  return recordReply (← call l "POST" (jobPath id ++ "/cancel") none)

/-- Checks that a remote venue is alive. -/
def pingRemote (l : Nat) : WorldM (Option Fault) := do
  match ← call l "GET" "/livez" none with
  | .ok _ => return none
  | .error f => return some f

/-- Whether a failed fetch leaves the breaker closed: an unknown job, or an API error below
500. -/
def harmless (f : Fault) : Bool := f.isRemoteNotFound || (f.apiStatus?.any (· < 500))

/-- Fetches a remote job through the link's breaker, recording the outcome as a metric:
`pending`, `finished`, `not_found` or `error`. -/
def pollRemote (l : Nat) (id : String) : WorldM (Except Fault Record) := do
  let w ← get
  let some link := w.links[l]? | return .error (.plain "unknown venue")
  let (ok, breaker) := link.breaker.allow w.now
  modifyLink l fun x => { x with breaker }
  let result ← if !ok then pure (.error .breakerOpen) else do
    let r ← fetchRemote l id
    let now := (← get).now
    modifyLink l fun x => { x with breaker := match r with
      | .ok _ => x.breaker.recordSuccess
      | .error f => if harmless f then x.breaker.recordSuccess else x.breaker.recordFailure now }
    pure r
  let outcome := match result with
    | .error f => if f.isRemoteNotFound then "not_found" else "error"
    | .ok rec => if rec.isFinished then "finished" else "pending"
  emit ("remote_poll venue=" ++ link.client.name ++ " outcome=" ++ outcome)
  return result

/-- A new copy of a remote record, passing its changes to `keeper`'s job if it follows one. -/
def newCopy (rec : Record) (keeper : Keeper) : WorldM Nat := do
  let ms := (← get).millis
  newCell { job := Job.create ms rec, keeper }

/-- The delays between fetches of a link. -/
def pollDelays (l : Nat) : WorldM DelaySequence := do
  match (← get).links[l]? with
  | some link =>
    let c := link.client
    return DelaySequence.start c.pollInitial c.pollFactor c.pollMax
  | none => return DelaySequence.start 0 1 0

end World

/-- Where following a remote job stands after a round. -/
inductive TrackStep where
  /-- Following ended: none when the job completed, else why not. -/
  | done (error : Option Fault)
  /-- Sleeping until `due`. -/
  | sleep (t : Tracking) (due : Int)

namespace Tracking

open World

/-- Ends following because the scope ended: the copy is cancelled. -/
def interrupted (t : Tracking) : WorldM TrackStep := do
  let e := ((← get).ending? t.scope).getD .canceled
  let _ ← cancelJob t.copy
  return .done (some e.fault)

/-- Ends following once the copy finished. -/
def concluded (t : Tracking) : WorldM TrackStep := do
  return .done (← finalError t.copy)

/-- What following does with one fetch of the remote job `id`: a failed fetch ends it, a
record is applied to the copy, and unless that finished the copy the follower sleeps for the
next delay. -/
def afterFetch (t : Tracking) (id : String) : Except Fault Record → WorldM TrackStep
  | .error f => do
    if ((← get).ending? t.scope).isSome then t.interrupted
    else if f.isRemoteNotFound then return .done (some (.wrap ("sync job " ++ id) .remoteNotFound))
    else return .done (some (.poll id f))
  | .ok rec =>
    match rec.status with
    | .unknown text => return .done (some (.poll id (.unknownStatus text)))
    | _ => do
      let _ ← updateJob t.copy rec
      if (← get).isFinished t.copy then return ← t.concluded
      let (delay, delays) := t.delays.next
      if ((← get).ending? t.scope).isSome then t.interrupted
      else return .sleep { t with delays, sleeping := true } ((← get).now + delay)

/-- One round of following: unless the copy finished, fetch the remote record and go on
with what was fetched. -/
def advance (t : Tracking) : WorldM TrackStep := do
  let w ← get
  if w.isFinished t.copy then return ← t.concluded
  let id := (w.recordOf t.copy).id
  t.afterFetch id (← pollRemote t.link id)

/-- Goes on after a sleep: the alarm (`choice` 0) starts the next round, the scope's end
stops. -/
def resume (t : Tracking) (r : Resume) : WorldM TrackStep :=
  if r.choice == 0 then t.advance else t.interrupted

/-- One round of following: a follower that is not asleep fetches at once, a sleeping one goes
on as it was woken. -/
def round (t : Tracking) (r : Resume) : WorldM TrackStep :=
  if t.sleeping then t.resume r else t.advance

/-- The waits of a sleeping follower: its alarm, then its scope's end. -/
def waits (t : Tracking) (due : Int) : List Wait := [.alarm due, .scope t.scope]

end Tracking

namespace Relay

open World

/-- The name of the relay's remote venue. -/
def venueName (x : Relay) : WorldM String := do
  return (((← get).links[x.link]?).map (·.client.name)).getD ""

/-- Ends a relay once following stopped. A remote failure or cancellation was passed on by
the copy already; a scope that ended cancels the remote job; anything else fails the job. -/
def conclude (x : Relay) (remoteId : String) (error : Option Fault) : WorldM Next := do
  match error with
  | none => return .exit
  | some f =>
    match f with
    | .jobFailed .. | .jobCancelled => return .exit
    | _ =>
      if ((← get).ending? x.scope).isSome then
        let _ ← cancelRemote x.link remoteId
        return .exit
      let _ ← failJob x.cell ("remote venue " ++ (← x.venueName) ++ ": " ++ f.message)
      return .exit

/-- Goes on from a round of following. -/
def follow (x : Relay) (remoteId : String) : TrackStep → WorldM Next
  | .sleep t due => return .wait (.relay { x with phase := .tracking t remoteId }) (t.waits due)
  | .done error => x.conclude remoteId error

/-- One step of a forwarded job. -/
def step (x : Relay) (r : Resume) : WorldM Next := do
  match x.phase with
  | .submit =>
    match ← submitRemote x.link x.operation x.input with
    | .error f =>
      let _ ← failJob x.cell ("remote venue " ++ (← x.venueName) ++ ": " ++ f.message)
      return .exit
    | .ok rec =>
      let _ ← setStatus x.cell .started
      let copy ← newCopy rec (.follower x.cell)
      let w ← get
      if w.isFinished copy then
        let m := w.recordOf copy
        let _ ← updateJob x.cell { status := m.status, output := m.output, error := m.error }
        return .exit
      let delays ← pollDelays x.link
      let t : Tracking := { link := x.link, copy, scope := x.scope, delays }
      x.follow rec.id (← t.advance)
  | .tracking t remoteId => x.follow remoteId (← t.resume r)

end Relay

end JobEngine
