import JobEngine.Session.Setup
import JobEngine.Catalog.Script

/-!
# Session requests

Each request of a session runs against the local venue and then lets the world settle:
every fiber that can run does, without the clock moving. Requests that block (sleeping,
awaiting, closing) run the world until they have their answer, moving the clock as needed.

## Main Definitions

* `Record.ofValue` — a record written in a request.
* `Session.step` — the answer to one request.
* `Session.run` — the answers to a configuration and its requests, with the webhook
  deliveries recorded during each.
-/

namespace JobEngine

/-- A record written in a request; absent fields are empty. -/
def Record.ofValue (v : Value) : Record :=
  { id := v.text "id", op := v.text "op", status := Status.ofText (v.text "status"),
    input := (v.field? "input").getD .null, output := (v.field? "output").getD .null,
    error := v.text "error", created := v.whole "created" 0, updated := v.whole "updated" 0,
    name := v.text "name" }

/-- How a session shows a delivery. -/
def Delivery.report (d : Delivery) : Value :=
  .obj [("url", .str d.url), ("key", .str d.key), ("event", d.event.toValue)]

/-- A catalog request named by `verb`, its fields read from `st`; `expand` replaces the
tokens of a hash. -/
def CatalogRequest.read (verb : String) (st : Value) (expand : String → String) :
    CatalogRequest :=
  match verb with
  | "put" => .put ((st.field? "meta").getD .null)
  | "get" => .get (expand (st.text "hash"))
  | "hash" => .hash ((st.field? "meta").getD .null)
  | "list" => .list
  | "load" => .load (st.text "yaml")
  | "load_file" => .loadFile (st.text "path")
  | other => .unknown other

/-- Replaces the `$hN` tokens of a text by the hashes stored so far. -/
def Catalog.expandHashes (hashes : List String) (t : String) : String :=
  ({ world := { now := 0 }, hashes } : Session).expand t

/-- The answers to a script of catalog requests against one fresh catalog. -/
def Catalog.script (steps : List Value) : Value :=
  let (answers, _, _) := steps.foldl (fun (acc, c, hashes) st =>
    let req := CatalogRequest.read (st.text "do") st (Catalog.expandHashes hashes)
    let (ans, c, hs) := c.answer req
    (acc ++ [ans.report], c, hashes ++ hs)) (([] : List Value), ({} : Catalog), ([] : List String))
  .obj [("steps", .arr answers)]

namespace Session

open World

/-- Runs a world computation, then lets the world settle. -/
def settled (s : Session) (m : WorldM α) : α × Session :=
  s.exec (do let a ← m; settle roundBudget; pure a)

/-- Runs a blocking request to its answer. -/
def blocking (s : Session) (c : Chore) : Option ChoreResult × Session := s.exec (perform c)

/-- The callback of an invocation request; one without a URL is none. -/
def callbackOf (st : Value) : Option Callback :=
  match st.field? "callback" with
  | some c =>
    let url := c.text "url"
    if url.isEmpty then none else some { url, key := c.text "key", events := c.texts "events" }
  | none => none

/-- The answer to an invocation: the job's index and record, or the refusal. -/
def invokeStep (s : Session) (st : Value) : Value × Session :=
  let ref := s.expand (st.text "ref")
  let input := (st.field? "input").getD .null
  let given := match st.field? "metadata" with
    | some m@(.obj _) => some (Metadata.ofValue m)
    | _ => none
  let (r, s) := s.settled (invoke 0 ref input (callbackOf st) given)
  match r with
  | .ok c =>
    let made := s.world.recordOf c
    (.obj [("index", .int s.jobs.length), ("record", made.report)],
     { s with jobs := s.jobs ++ [made.id] })
  | .error f => (f.report, s)

/-- The entry of a job id in the local venue. -/
def lookup (s : Session) (id : String) : Option TableEntry :=
  (s.world.venue? 0).bind (·.lookup id)

/-- The answer about a live job: its record, failure message and output. -/
def liveStep (s : Session) (id : String) : Value :=
  match s.lookup id with
  | none => .obj [("found", .bool false)]
  | some e =>
    match s.world.job? e.cell with
    | none => .obj [("found", .bool false)]
    | some j =>
      let (out, outErr) := match j.output with
        | .ok v => (v, Value.null)
        | .error f => (Value.null, f.report)
      .obj [("found", .bool true), ("record", j.record.report),
        ("error_message", .str j.errorMessage), ("output", out), ("output_error", outErr)]

/-- The answer to awaiting a job with a timeout. -/
def awaitStep (s : Session) (id : String) (timeout : Int) : Value × Session :=
  match s.lookup id with
  | none => (.obj [("found", .bool false)], s)
  | some e =>
    let (scope, s) := s.exec (newScope 0 (some timeout))
    let (r, s) := s.blocking (.await e.cell scope false)
    let (_, s) := s.exec (endScope scope .canceled)
    match r with
    | some (.awaited (.ok v)) => (.obj [("value", v), ("error", .null)], s)
    | some (.awaited (.error f)) => (.obj [("value", .null), ("error", f.report)], s)
    | _ => (.null, s)

/-- The answer to closing the local venue with a timeout. -/
def closeStep (s : Session) (timeout : Int) : Value × Session :=
  match s.world.venue? 0 with
  | none => (.null, s)
  | some x =>
    if x.closed then (.obj [("error", .null)], s)
    else
      let (scope, s) := s.exec do
        modifyVenue 0 fun x => { x with closed := true }
        newScope 0 (some timeout)
      let now := s.world.now
      let (r, s) := s.blocking (.close 0 scope (now + closeTick) false)
      let (_, s) := s.exec (endScope scope .canceled)
      match r with
      | some (.closed e) => (.obj [("error", Fault.reportOpt e)], s)
      | _ => (.null, s)

/-- The answer to a catalog request against the local venue's catalog. -/
def catalogStep (s : Session) (st : Value) : Value × Session :=
  let req := CatalogRequest.read (st.text "action") st s.expand
  match s.world.venue? 0 with
  | none => (.null, s)
  | some x =>
    let (ans, c, hs) := x.catalog.answer req
    let (_, s) := s.exec (modifyVenue 0 fun x => { x with catalog := c })
    (ans.report, { s with hashes := s.hashes ++ hs })

/-- The answer listing the adapters and their operations. -/
def adaptersStep (s : Session) : Value :=
  match s.world.venue? 0 with
  | none => .null
  | some x =>
    .obj [("adapters", Value.strings (adapterNames x)),
      ("operations", .obj ((operationLists x).map fun (n, ops) => (n, Value.strings ops)))]

/-- The answer to registering an adapter by name; `<nil>` stands for no adapter. -/
def registerStep (s : Session) (name : String) : Value × Session :=
  if name == "<nil>" then
    (.obj [("error", (Fault.validation "adapter" "adapter name is required").report)], s)
  else
    let (r, s) := s.exec do
      let a ← adapterFor name 0 0
      register 0 a
    (.obj [("error", Fault.reportOpt r)], s)

/-- The answer to a request to the local venue's API. A reply that points at a job with
`Location: /v1/jobs/ID` makes that job the session's next. -/
def httpStep (s : Session) (st : Value) : Value × Session :=
  let headers := match st.field? "headers" with
    | some (.obj fs) => fs.foldl (fun (h : Http.Headers) (k, v) => match v with
        | .str t => h.set k (s.expand t)
        | _ => h) {}
    | _ => {}
  match Http.Request.ofTarget (st.text "method") (s.expand (st.text "path")) headers
      (s.expand (st.text "body")) with
  | .error e => (.obj [("error", .str e)], s)
  | .ok r =>
    let (resp, s) := s.settled (serve 0 r)
    let location := resp.headers.get "Location"
    let s := if location.startsWith "/v1/jobs/" then
        { s with jobs := s.jobs ++ [(location.drop "/v1/jobs/".length).toString] }
      else s
    (resp.toValue, s)

/-- The answer to a change of the local venue's readiness checks: a named check's answer,
or the checker shutting down. -/
def healthStep (s : Session) (st : Value) : Value × Session :=
  let (_, s) := s.exec (modifyVenue 0 fun x =>
    let gate := x.gate
    let gate := match st.field? "name" with
      | some (.str n) =>
        let e := (st.field? "error").bind Value.asString?
        { gate with answers := (n, e) :: gate.answers.filter (·.1 != n) }
      | _ => gate
    let gate := if st.flag "shutdown" false then { gate with health := gate.health.shutdown }
      else gate
    { x with gate })
  (.null, s)

/-- The copies of remote jobs the session follows on a link, in order. -/
def copiesOn (s : Session) (l : Nat) : List Nat := (s.copies.filter (·.1 == l)).map (·.2)

/-- An answer carrying a remote record, or the fault. -/
def recordAnswer : Except Fault Record → Value
  | .ok r => .obj [("record", r.report)]
  | .error f => f.report

/-- The answer to submitting a job remotely: the index of the copy that follows it and its
record. -/
def submitStep (s : Session) (l : Nat) (st : Value) : Value × Session :=
  let ref := s.expand (st.text "ref")
  let input := (st.field? "input").getD .null
  let made : WorldM (Except Fault Nat) := do
    match ← submitRemote l ref input with
    | .error f => pure (.error f)
    | .ok r => pure (.ok (← newCopy r .none))
  let (r, s) := s.settled made
  match r with
  | .error f => (f.report, s)
  | .ok c =>
    (.obj [("mirror", .int (s.copiesOn l).length), ("record", (s.world.recordOf c).report)],
     { s with copies := s.copies ++ [(l, c)] })

/-- The answer to following a copy until it finishes, within a timeout. -/
def syncStep (s : Session) (l : Nat) (index : Int) (timeout : Int) : Value × Session :=
  match if index < 0 then none else (s.copiesOn l)[index.toNat]? with
  | none => (.obj [("mirror_missing", .bool true)], s)
  | some c =>
    let (t, s) := s.exec do
      let scope ← newScope 0 (some timeout)
      let delays ← pollDelays l
      let t : Tracking := { link := l, copy := c, scope, delays }
      pure t
    let (r, s) := s.blocking (.track t)
    let (_, s) := s.exec (endScope t.scope .canceled)
    match r with
    | some (.tracked e) =>
      (.obj [("error", Fault.reportOpt e), ("record", (s.world.recordOf c).report)], s)
    | _ => (.null, s)

/-- The answer to invoking an operation remotely and waiting for its outcome. -/
def remoteInvokeStep (s : Session) (l : Nat) (st : Value) (timeout : Int) : Value × Session :=
  let ref := s.expand (st.text "ref")
  let input := (st.field? "input").getD .null
  let (scope, s) := s.exec (newScope 0 (some timeout))
  let (r, s) := s.blocking (.invoke l scope ref input none)
  let (_, s) := s.exec (endScope scope .canceled)
  match r with
  | some (.invoked (.ok v)) => (.obj [("value", v), ("error", .null)], s)
  | some (.invoked (.error f)) => (.obj [("value", .null), ("error", f.report)], s)
  | _ => (.null, s)

/-- The answer to a request about the remote venue behind link `l`. -/
def linkStep (s : Session) (l : Nat) (st : Value) : Value × Session :=
  let id := s.expand (st.text "id")
  let timeout := Duration.ofMillis (st.whole "timeout_ms" 60000)
  match st.text "action" with
  | "submit" => s.submitStep l st
  | "sync" => s.syncStep l (st.whole "mirror" 0) timeout
  | "fetch" =>
    let (r, s) := s.settled (fetchRemote l id)
    (recordAnswer r, s)
  | "cancel" =>
    let (r, s) := s.settled (cancelRemote l id)
    (recordAnswer r, s)
  | "ping" =>
    let (e, s) := s.settled (pingRemote l)
    (.obj [("error", Fault.reportOpt e)], s)
  | "invoke" => s.remoteInvokeStep l st timeout
  | "down" =>
    let (_, s) := s.exec (modifyLink l fun x => { x with down := st.flag "down" false })
    (.null, s)
  | "peer_jobs" =>
    match (s.world.links[l]?).map RemoteLink.peer with
    | some (.venue v _) =>
      let (rs, s) := s.exec (listJobs v)
      (.obj [("jobs", .arr (rs.map (·.report)))], s)
    | _ => (.null, s)
  | "peer_catalog" =>
    match (s.world.links[l]?).map RemoteLink.peer with
    | some (.venue v _) =>
      match s.world.venue? v with
      | some x =>
        let (ans, c, hs) := x.catalog.answer (.put ((st.field? "meta").getD .null))
        let (_, s) := s.exec (modifyVenue v fun x => { x with catalog := c })
        (ans.report, { s with hashes := s.hashes ++ hs })
      | none => (.null, s)
    | _ => (.null, s)
  | "log" =>
    let lines := ((s.world.links[l]?).map (·.log)).getD []
    let (_, s) := s.exec (modifyLink l fun x => { x with log := [] })
    (.obj [("requests", Value.strings lines)], s)
  | _ => (.null, s)

/-- The answer to a request about a remote venue, named by `venue`. -/
def remoteStep (s : Session) (st : Value) : Value × Session :=
  match s.world.linkNames.findIdx? (· == st.text "venue") with
  | some l => s.linkStep l st
  | none => (.null, s)

/-- The update event a `dispatch` request hands to the outlet. -/
def sampleEvent (now : Int) : CloudEvent :=
  { type := updateEventType, source := engineEventSource, subject := "job-1", id := "job-1-1",
    time := now, data := .obj [("status", .str "STARTED")] }

/-- The answer about the delivery queue's counters; all zero for a recording outlet. -/
def statsStep (s : Session) : Value :=
  match s.world.outlet with
  | .queue q => queueStats s.world q
  | .recording _ =>
    .obj [("breakers_open", .int 0), ("delivered", .int 0), ("dropped", .int 0),
      ("failed", .int 0), ("queue_depth", .int 0), ("queued", .int 0), ("requeued", .int 0),
      ("retries_total", .int 0)]
  | .none => .null

/-- The answer to closing the delivery queue, which may take a second. -/
def closeQueueStep (s : Session) : Value × Session :=
  let (scope, s) := s.exec (newScope 0 (some Duration.nanosPerSecond))
  let (r, s) := s.blocking (.closeQueue scope none)
  let (_, s) := s.exec (endScope scope .canceled)
  match r with
  | some (.closed e) => (.obj [("error", Fault.reportOpt e)], s)
  | _ => (.null, s)

/-- The answer to one request. -/
def step (s : Session) (st : Value) : Value × Session :=
  let id := s.expand (st.text "id")
  match st.text "do" with
  | "invoke" => s.invokeStep st
  | "get" =>
    let (r, s) := s.exec (getJob 0 id)
    match r with
    | .ok found => (.obj [("record", found.report)], s)
    | .error f => (f.report, s)
  | "live" => (s.liveStep id, s)
  | "cancel" =>
    let ((after, e), s) := s.settled (cancelJobById 0 id)
    (.obj [("record", after.report), ("error", Fault.reportOpt e)], s)
  | "delete" =>
    let (e, s) := s.settled (deleteJob 0 id)
    (.obj [("error", Fault.reportOpt e)], s)
  | "list" =>
    let (rs, s) := s.exec (listJobs 0)
    (.obj [("jobs", .arr (rs.map (·.report)))], s)
  | "update" =>
    let r := (st.field? "record").getD .null
    let given := Record.ofValue r
    let given := { given with id := s.expand given.id }
    let (ok, s) := s.settled (updateJobStatus 0 given)
    (.obj [("applied", .bool ok)], s)
  | "sleep" =>
    let due := s.world.now + Duration.ofMillis (st.whole "ms" 0)
    let (_, s) := s.blocking (.sleep due false)
    (.null, s)
  | "adapters" => (s.adaptersStep, s)
  | "ready" =>
    let (e, s) := s.exec (ready 0)
    (.obj [("error", Fault.reportOpt e)], s)
  | "await" => s.awaitStep id (Duration.ofMillis (st.whole "timeout_ms" 0))
  | "close" => s.closeStep (Duration.ofMillis (st.whole "timeout_ms" 0))
  | "register" =>
    let (v, s) := s.registerStep (st.text "name")
    let (_, s) := s.settled (pure ())
    (v, s)
  | "catalog" => s.catalogStep st
  | "http" => s.httpStep st
  | "health" => s.healthStep st
  | "remote" => s.remoteStep st
  | "dstats" => (s.statsStep, s)
  | "dclose" => s.closeQueueStep
  | "dispatch" =>
    let d : Delivery := { event := sampleEvent s.world.now, url := st.text "url", key := "" }
    let (e, s) := s.settled (dispatch d)
    (.obj [("error", Fault.reportOpt e)], s)
  | "dispatch_fail" =>
    let on := st.flag "on" false
    let (_, s) := s.exec (modify fun w => match w.outlet with
      | .recording _ => { w with outlet := .recording on }
      | _ => w)
    (.null, s)
  | "metrics" =>
    let lines := s.world.metrics.mergeSort fun a b => decide (a ≤ b)
    (.obj [("metrics", Value.strings lines)], { s with world := { s.world with metrics := [] } })
  | _ => (.null, s)

/-- The deliveries recorded since they were last taken, stably ordered by event subject. -/
def takeDeliveries (s : Session) : List Delivery × Session :=
  let ds := s.world.recorded.mergeSort fun a b => decide (a.event.subject ≤ b.event.subject)
  (ds, { s with world := { s.world with recorded := [] } })

/-- The answers to a configuration and its requests. Each answer holds the request's result
and, when any were recorded, the webhook deliveries made while it ran. A refused
configuration is answered by its fault alone. -/
def run (cfg : Value) (steps : List Value) : Value :=
  match start cfg with
  | .error f => f.report
  | .ok first =>
    let (answers, _) := steps.foldl (fun (acc, s) st =>
      let (result, s) := s.step st
      let (ds, s) := s.takeDeliveries
      let entry := if ds.isEmpty then .obj [("result", result)]
        else .obj [("result", result), ("events", .arr (ds.map (·.report)))]
      (acc ++ [entry], s)) (([] : List Value), first)
    .obj [("steps", .arr answers)]

end Session

end JobEngine
