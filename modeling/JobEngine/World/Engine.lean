import JobEngine.World.Core

/-!
# The engine of a venue

A venue turns an operation reference and an input into a job. The reference is resolved to
metadata (a literal `adapter:operation`, or the hash of catalog metadata), a job is created
and entered in the venue's table, and the adapter named by the metadata is asked to run it.
A reference that resolves to nothing still makes a job, which fails at once with the reason.

## Main Definitions

* `World.invoke` — creates and starts a job.
* `World.finishWith` — ends a job with a handler's answer.
* `Handler.echo`, `Handler.fail`, `Handler.delay`, `Handler.never` — the test adapter's handlers.
* `World.getJob`, `World.listJobs`, `World.cancelJobById`, `World.deleteJob`,
  `World.updateJobStatus` — the job table.
* `World.register`, `World.adapterNames`, `World.operationLists`, `World.ready` — adapters.

## Design Notes

Refusals change nothing: an invocation refused because the venue is closed, the reference is
empty or the adapter is unknown mints no id and makes no job.
-/

namespace JobEngine

namespace Metadata

/-- The metadata with its `operation.adapter` set to a reference. -/
def withAdapter (m : Metadata) (ref : String) : Metadata :=
  let op := Value.bindSorted "adapter" (.str ref) ((m.operation.getD []).filter (·.1 != "adapter"))
  ⟨Value.bindSorted "operation" (.obj op) (m.entries.filter (·.1 != "operation"))⟩

end Metadata

namespace Venue

/-- Resolves a reference to metadata, or says why it cannot be run. A literal reference
stands for itself, with the given metadata when there is some; any other reference is a
catalog hash. -/
def resolve (x : Venue) (ref : String) (given : Option Metadata) : Except String Metadata :=
  if isLiteralRef ref then
    .ok (match given with
      | some m => m.withAdapter ref
      | none => Metadata.literal ref)
  else if !x.usesCatalog then .error ("operation metadata not found: " ++ ref)
  else
    match x.catalog.get? ref with
    | none => .error ("operation metadata not found: " ++ ref)
    | some m =>
      if m.adapterOp.isEmpty then .error ("metadata " ++ ref ++ " has no operation.adapter")
      else .ok m

/-- The table entry of a job id. -/
def lookup (x : Venue) (id : String) : Option TableEntry := x.table.find? (·.id == id)

/-- The table's records, ordered by id. -/
def records (x : Venue) : List Record :=
  (x.table.map (·.record)).mergeSort fun a b => decide (a.id ≤ b.id)

/-- The entries whose jobs have not finished. -/
def running (x : Venue) : List TableEntry := x.table.filter (!·.record.isFinished)

end Venue

/-- The message of the fail handler: the input's non-empty `message` string, else `error`. -/
def failureText (input : Value) : String :=
  match input.field? "message" with
  | some (.str s) => if s.isEmpty then "error" else s
  | _ => "error"

/-- How long `delay` waits: the input's `millis` number of milliseconds, truncated to whole
nanoseconds; zero for anything else. -/
def delayNanos (input : Value) : Int :=
  let millis : Float := match input with
    | .obj _ => match input.field? "millis" with
      | some (.num x) => x
      | some (.int n) => Float.ofInt n
      | _ => 0
    | _ => 0
  Duration.ofFloat (millis * 1e6)

namespace Handler

/-- Returns an object input as it is, anything else under `message`. -/
def echo : Handler := .sync fun input => .value (echoOutput input)

/-- Fails with the input's `message`, or with `error`. -/
def fail : Handler := .async fun input => .answers (.error (failureText input))

/-- Waits for the input's `millis`, then echoes; fails with the reason if its scope ends
first. -/
def delay : Handler :=
  .async fun input => .works (delayNanos input) (.value (echoOutput input)) fun e => .error e.fault.message

/-- Waits until its scope ends, then fails with the reason. -/
def never : Handler := .async fun _ => .blocks fun e => .error e.fault.message

end Handler

namespace World

/-- A venue of the world. -/
def venue? (w : World) (v : Nat) : Option Venue := w.venues[v]?

/-- Mints an id and enters a new `PENDING` job in a venue's table, under a fresh scope below
the venue's. The initial record is announced to the callback, if any. Returns the job's cell
and scope. -/
def startJob (v : Nat) (ref : String) (input : Value) (md : Option Metadata) (adapter : String)
    (cb : Option Callback) : WorldM (Except Fault (Nat × Nat)) := do
  let w ← get
  let some x := w.venue? v | return .error (.plain "unknown venue")
  let (minted, ids) := x.ids.next w.millis
  modifyVenue v fun x => { x with ids }
  match minted with
  | .error f => return .error (Fault.internal "generate job id" (some f))
  | .ok jid =>
    let id := jid.text
    let scope ← newScope x.base none
    let notice : Option Notice := if x.notifies then
        cb.map fun c => { url := c.url, key := c.key, events := c.events,
                          numbering := { jobId := id, source := engineEventSource } }
      else none
    let name := (md.map (·.name)).getD ""
    let job := Job.create (← get).millis { id, op := ref, status := .pending, input, name }
    if (x.lookup id).isSome then
      endScope scope .canceled
      return .error (Fault.conflict "job" "job already exists")
    let c ← newCell { job, keeper := .venue v adapter scope notice }
    modifyVenue v fun x => { x with table := x.table ++ [{ id, cell := c, record := job.record }] }
    if x.metered then emit ("job_created adapter=" ++ adapter)
    notify c job.record
    return .ok (c, scope)

/-- Ends a job with a handler's answer: `COMPLETE` with a value, `FAILED` with an error's message
or with the panic. A job that already finished keeps its record. -/
def finishWith (c : Nat) : Outcome → WorldM Unit
  | .value v => do let _ ← completeJob c v
  | .error message => do let _ ← failJob c message
  | .panic shown => do let _ ← failJob c ("panic: " ++ shown)

/-- Asks an adapter to run a job. Synchronous operations finish here; other work starts a
fiber. -/
def runAdapter (v : Nat) (a : Adapter) (c scope : Nat) (operation : String) (md : Metadata)
    (input : Value) : WorldM Unit := do
  match a.kind with
  | .funcs ops sem =>
    match (ops.find? (·.name == operation)).bind (·.handler) with
    | none =>
      let _ ← failJob c ("operation " ++ Text.quote operation ++ " not supported by adapter " ++
        Text.quote a.name)
    | some (.sync reply) =>
      let _ ← setStatus c .started
      finishWith c (reply input)
    | some (.async handle) =>
      let _ ← spawn (.work { adapter := a.name, sem, cell := c, scope, handle, input })
  | .orchestrator poll =>
    match Plan.build md input with
    | .error f => let _ ← failJob c ("invalid orchestration: " ++ describeInvalid f)
    | .ok plan =>
      let inbox ← newChannel plan.tasks.length
      let metered := ((← get).venue? v |>.map (·.metered)).getD false
      let _ ← spawn (.conduct { venue := v, cell := c, scope, plan, progress := Progress.start plan,
                                inbox, poll, metered })
  | .forward link =>
    if operation.isEmpty then
      let _ ← failJob c ("remote venue " ++ a.name ++ ": operation is required")
    else
      let _ ← spawn (.relay { link, cell := c, scope, operation, input })

/-- Invokes an operation on a venue: resolves the reference, creates the job and starts it.
Returns the job's cell. -/
def invoke (v : Nat) (ref : String) (input : Value) (cb : Option Callback)
    (given : Option Metadata) : WorldM (Except Fault Nat) := do
  let some x := (← get).venue? v | return .error (.plain "unknown venue")
  if x.closed then return .error (.unavailable "engine is shutting down")
  if ref.isEmpty then return .error (.validation "operation" "operation reference is required")
  match x.resolve ref given with
  | .error reason =>
    match ← startJob v ref input none "unresolved" cb with
    | .error f => return .error f
    | .ok (c, _) =>
      let _ ← failJob c reason
      return .ok c
  | .ok md =>
    let (name, operation) := splitRef md.adapterOp
    match x.adapters.find? (·.name == name) with
    | none => return .error (.configuration "adapter" name "not registered")
    | some a =>
      match ← startJob v ref input (some md) name cb with
      | .error f => return .error f
      | .ok (c, scope) =>
        runAdapter v a c scope operation md input
        return .ok c

/-- The stored record of a job. -/
def getJob (v : Nat) (id : String) : WorldM (Except Fault Record) := do
  match ((← get).venue? v).bind (·.lookup id) with
  | some e => return .ok e.record
  | none => return .error (.notFound "job" id)

/-- The stored records, ordered by id. -/
def listJobs (v : Nat) : WorldM (List Record) := do
  return (((← get).venue? v).map (·.records)).getD []

/-- Cancels a job by id. Returns the job's record, with a fault when the id is unknown or
the job already finished. -/
def cancelJobById (v : Nat) (id : String) : WorldM (Record × Option Fault) := do
  match ((← get).venue? v).bind (·.lookup id) with
  | none => return ({}, some (.notFound "job" id))
  | some e =>
    let taken ← if e.record.isFinished then pure false else cancelJob e.cell
    let r := (← get).recordOf e.cell
    return (r, if taken then none else some (Fault.conflict "job" "job already finished"))

/-- Removes a finished job from the table. -/
def deleteJob (v : Nat) (id : String) : WorldM (Option Fault) := do
  match ((← get).venue? v).bind (·.lookup id) with
  | none => return some (.notFound "job" id)
  | some e =>
    if !e.record.isFinished then return some (Fault.conflict "job" "job is still running")
    modifyVenue v fun x => { x with table := x.table.filter (·.id != id) }
    return none

/-- Applies a record to the job with its id, unless the job is unknown or finished. -/
def updateJobStatus (v : Nat) (r : Record) : WorldM Bool := do
  match ((← get).venue? v).bind (·.lookup r.id) with
  | none => return false
  | some e => if e.record.isFinished then return false else updateJob e.cell r

/-- The adapter a venue registers under a name: the test adapter, the orchestrator, or a
function adapter whose one operation `noop` has no handler. -/
def adapterFor (name : String) (concurrency : Int) (poll : Int) : WorldM Adapter := do
  if name == "test" then
    let sem ← newSem (if concurrency ≤ 0 then 64 else concurrency.toNat)
    return { name, kind := .funcs [⟨"echo", some .echo⟩, ⟨"error", some .fail⟩,
                                   ⟨"delay", some .delay⟩, ⟨"never", some .never⟩] sem }
  else if name == "orchestrator" then
    return { name, kind := .orchestrator (if poll ≤ 0 then 50 * Duration.nanosPerMilli else poll) }
  else
    let sem ← newSem 64
    return { name, kind := .funcs [⟨"noop", none⟩] sem }

/-- Registers an adapter; the name must be new and non-empty. -/
def register (v : Nat) (a : Adapter) : WorldM (Option Fault) := do
  let some x := (← get).venue? v | return some (.plain "unknown venue")
  if a.name.isEmpty then return some (.validation "adapter" "adapter name is required")
  if x.adapters.any (·.name == a.name) then return some (.adapterExists a.name)
  modifyVenue v fun x => { x with adapters := x.adapters ++ [a] }
  return none

/-- The names of a venue's adapters, sorted. -/
def adapterNames (x : Venue) : List String :=
  (x.adapters.map (·.name)).mergeSort fun a b => decide (a ≤ b)

/-- The operations of each function adapter, sorted, by adapter name. -/
def operationLists (x : Venue) : List (String × List String) :=
  (x.adapters.filterMap fun a => match a.kind with
    | .funcs ops _ => some (a.name, (ops.map (·.name)).mergeSort fun a b => decide (a ≤ b))
    | _ => none).mergeSort fun a b => decide (a.1 ≤ b.1)

/-- Whether a venue can take work. -/
def ready (v : Nat) : WorldM (Option Fault) := do
  match (← get).venue? v with
  | some x => return if x.closed then some (.unavailable "engine is shutting down") else none
  | none => return none

end World

end JobEngine
