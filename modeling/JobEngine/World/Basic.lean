import JobEngine.World.Scope
import JobEngine.World.RunQueue
import JobEngine.Job.Basic
import JobEngine.Job.Event
import JobEngine.Job.Id
import JobEngine.Orchestrate.Progress
import JobEngine.Remote.Venue
import JobEngine.Resilience.Backoff
import JobEngine.Catalog.Store
import JobEngine.Dispatch.Config
import JobEngine.Health.Checker
import JobEngine.Http.Cors
import JobEngine.Http.Limiter

/-!
# The venue world

A **world** holds every venue that takes part in a session (the local one and its peers),
the jobs they run, the webhook outlet, the clients of remote venues, and the fibers that do
the work, all under one fake clock.

Work happens in **fibers**: each adapter run, each orchestration, each forwarded job and each
webhook worker is a fiber with a state of its own. A fiber runs until it has to wait; it then
names what it waits for (a **wait**: an alarm, a scope's end, a job's end, a message, a
permit, a signal), and some later change of the world makes it ready again.

## Main Definitions

* `Outcome`, `Handling`, `Handler` — what a handler answers, and how.
* `FuncOp`, `AdapterKind`, `Adapter` — what an adapter of a venue is.
* `Notice`, `Keeper`, `JobCell` — a job with whoever is told of its changes.
* `Gate` — a venue's HTTP front.
* `TableEntry`, `Venue` — a venue: adapters, job table, id generator, catalog.
* `Peer`, `RemoteLink` — a remote venue as seen by its client.
* `Delivery`, `Outlet` — where webhook deliveries go.
* `Wait`, `Message`, `Resume` — what a fiber waits for and what wakes it.
* `Fiber` — the fibers, one constructor per kind of work, each with its phase.
* `World` — all of it, with the clock.

## Design Notes

Objects refer to each other by index into the world's arrays: a job cell, a scope, a venue, a
fiber. Indices are never reused, so a stale index still names the same object.
-/

namespace JobEngine

/-- What a handler gives back: a value, an error with its message, or a panic with the value it
panicked with, as printed. -/
inductive Outcome where
  | value (v : Value)
  | error (message : String)
  | panic (shown : String)

/-- How an asynchronous handler goes on once it runs: it answers at once; or it works for
`nanos` and answers `done`, unless its scope ends first, when it answers `stopped` with the
reason; or it blocks until its scope ends. -/
inductive Handling where
  | answers (o : Outcome)
  | works (nanos : Int) (done : Outcome) (stopped : Ending → Outcome)
  | blocks (stopped : Ending → Outcome)

/-- The handler of an operation. A synchronous handler answers inside the invocation, so it
does only constant work; an asynchronous one runs as a fiber. A handler reads the job's input:
the metadata the engine also hands it is read by none of the handlers a venue registers. -/
inductive Handler where
  | sync (reply : Value → Outcome)
  | async (handle : Value → Handling)

/-- An operation of a function adapter; an operation without a handler is listed but refused. -/
structure FuncOp where
  name : String
  handler : Option Handler

/-- The kinds of adapter a venue can have. -/
inductive AdapterKind where
  /-- Named operations with handlers, running at most as many at once as the permits of the
  semaphore `sem` allow. -/
  | funcs (ops : List FuncOp) (sem : Nat)
  /-- Runs multi-step orchestrations, polling for step completions every `poll` ns. -/
  | orchestrator (poll : Int)
  /-- Forwards operations to the remote venue with link index `link`. -/
  | forward (link : Nat)

/-- A registered adapter. -/
structure Adapter where
  name : String
  kind : AdapterKind

/-- Where a job's lifecycle events go: a callback URL, its signing key, the event types
wanted (all when empty) and the numbering of the job's events. -/
structure Notice where
  url : String
  key : String
  events : List String
  numbering : EventNumbering

/-- Who is told of a job's changes. -/
inductive Keeper where
  /-- A job of venue `venue`, run by adapter `adapter` under scope `scope`. -/
  | venue (venue : Nat) (adapter : String) (scope : Nat) (notice : Option Notice)
  /-- A local copy of a remote job: its changes, other than to `PENDING`, go to job `target`. -/
  | follower (target : Nat)
  /-- Nobody. -/
  | none

/-- A job and its keeper. -/
structure JobCell where
  job : Job
  keeper : Keeper := .none

/-- A job table entry: the job's id, its cell and the record the table last stored. -/
structure TableEntry where
  id : String
  cell : Nat
  record : Record

/-- The HTTP front of a venue: who may call it, how often, and how it reports its health. -/
structure Gate where
  /-- The key callers must present; none is needed when empty. -/
  key : String := ""
  cors : Http.CorsPolicy := Http.CorsPolicy.ofOrigins []
  limiter : Option Http.Limiter := none
  /-- The readiness checks: the venue's own, named `engine`, and the configured ones. -/
  health : HealthChecker := HealthChecker.register "engine" true {}
  /-- What the configured checks answer, by name: none when healthy, else the error. -/
  answers : List (String × Option String) := []
  /-- Requests are recorded in the metrics. -/
  metered : Bool := false

/-- A venue: an engine with its adapters, job table and catalog. -/
structure Venue where
  name : String
  adapters : List Adapter := []
  table : List TableEntry := []
  ids : IdGenerator
  closed : Bool := false
  /-- The scope every job scope of the venue lives under. -/
  base : Nat
  /-- The catalog serves as the venue's metadata store. -/
  usesCatalog : Bool := true
  catalog : Catalog := {}
  /-- Job and step metrics are recorded. -/
  metered : Bool := false
  /-- Callbacks are honoured: the venue has a webhook outlet. -/
  notifies : Bool := false
  gate : Gate := {}

/-- A canned reply of a scripted remote venue. -/
structure Reply where
  status : Nat
  body : String

/-- What answers a remote venue's requests. -/
inductive Peer where
  /-- A venue of this world, with the API key its router requires. -/
  | venue (index : Nat) (serverKey : String)
  /-- Canned replies: fetches answer in order, the last one repeating. -/
  | script (invoke : Option Reply) (fetch : List Reply) (cancel : Option Reply) (ping : Option Reply)

/-- A remote venue as its client sees it. -/
structure RemoteLink where
  client : Client
  breaker : Breaker
  peer : Peer
  /-- The venue answers nothing: every request fails to connect. -/
  down : Bool := false
  /-- How many fetches the script answered. -/
  fetches : Nat := 0
  /-- The requests a scripted venue received, oldest first. -/
  log : List String := []

/-- A webhook delivery: an event, its destination and signing key, and how often it was
parked behind an open breaker. -/
structure Delivery where
  event : CloudEvent
  url : String
  key : String
  requeues : Nat := 0

/-- The state of the in-memory delivery queue. -/
structure DeliveryQueue where
  settings : DeliverySettings
  /-- The channel holding queued deliveries. -/
  queue : Nat
  /-- The signal closed at shutdown. -/
  shutdown : Nat
  /-- The counters of running workers and of parked deliveries. -/
  workers : Nat
  parked : Nat
  breakers : BreakerRegistry
  closed : Bool := false
  queued : Nat := 0
  delivered : Nat := 0
  failed : Nat := 0
  dropped : Nat := 0
  requeued : Nat := 0
  retries : Nat := 0

/-- Where webhook deliveries go. -/
inductive Outlet where
  /-- Nowhere: callbacks are ignored. -/
  | none
  /-- Deliveries are recorded; a refusing recorder fails every delivery. -/
  | recording (refusing : Bool)
  /-- The in-memory delivery queue. -/
  | queue (q : DeliveryQueue)

/-- A message in a channel. -/
inductive Message where
  | completion (c : Completion)
  | delivery (d : Delivery)

/-- A channel: its buffered messages and how many it can hold. -/
structure Channel where
  buffer : List Message := []
  capacity : Nat

/-- What a fiber can wait for. -/
inductive Wait where
  /-- The clock reaching a time. -/
  | alarm (due : Int)
  /-- A scope ending. -/
  | scope (s : Nat)
  /-- A job finishing. -/
  | finished (cell : Nat)
  /-- A job's completion future settling. -/
  | settled (cell : Nat)
  /-- A message in a channel. -/
  | inbox (ch : Nat)
  /-- A permit of a semaphore, for the waiter holding a ticket. -/
  | permit (sem : Nat) (ticket : Nat)
  /-- A signal being raised. -/
  | signal (g : Nat)
  /-- A counter reaching zero. -/
  | drained (g : Nat)
  deriving DecidableEq

/-- What a fiber is told when it runs again: which of its waits fired, and the message it
received, if that wait was a channel. -/
structure Resume where
  choice : Nat := 0
  message : Option Message := none

/-- A counting semaphore with a first-in first-out line of waiters. -/
structure Semaphore where
  size : Nat
  used : Nat := 0
  /-- Tickets waiting for a permit, oldest first. -/
  waiting : List Nat := []
  /-- Tickets given a permit that their holder has not yet seen. -/
  granted : List Nat := []
  nextTicket : Nat := 0

/-- The phases of an adapter run. -/
inductive WorkPhase where
  | acquire
  | queued (ticket : Nat)
  /-- The handler works until it answers `done`, or its scope ends. -/
  | working (done : Outcome) (stopped : Ending → Outcome)
  /-- The handler waits for its scope to end. -/
  | blocked (stopped : Ending → Outcome)

/-- An asynchronous run of a function adapter's operation for a job. -/
structure Work where
  adapter : String
  sem : Nat
  cell : Nat
  scope : Nat
  handle : Value → Handling
  input : Value
  phase : WorkPhase := .acquire

/-- The phases of an orchestration. -/
inductive ConductPhase where
  | start
  | receiving

/-- An orchestration run: the job, its scope, the plan and its progress. -/
structure Conduct where
  venue : Nat
  cell : Nat
  scope : Nat
  plan : Plan
  progress : Progress
  inbox : Nat
  poll : Int
  metered : Bool
  phase : ConductPhase := .start

/-- A watcher of one orchestration step: it awaits the step's sub-job and reports to the
orchestration's channel. -/
structure Watch where
  index : Nat
  sub : Nat
  scope : Nat
  inbox : Nat
  since : Int
  waiting : Bool := false

/-- Following a remote job: the link, the local copy, the scope bounding the wait, and the
remaining poll delays. -/
structure Tracking where
  link : Nat
  copy : Nat
  scope : Nat
  delays : DelaySequence
  sleeping : Bool := false

/-- The phases of a forwarded job. -/
inductive RelayPhase where
  | submit
  | tracking (t : Tracking) (remoteId : String)

/-- A job forwarded to a remote venue. -/
structure Relay where
  link : Nat
  cell : Nat
  scope : Nat
  operation : String
  input : Value
  phase : RelayPhase := .submit

/-- A webhook worker: it takes deliveries from the queue until shutdown, then sends what is
left in the queue and stops. -/
structure Courier where
  /-- A delivery waiting to be sent again: the delivery, the scope bounding its attempts, and
  the number of the retry it waits for. -/
  sending : Option (Delivery × Nat × Nat) := none
  /-- Shutdown was seen: the worker empties the queue without waiting. -/
  draining : Bool := false

/-- What the session's own blocking operation is doing. -/
inductive Chore where
  /-- Sleeping until a time; `waiting` once the alarm is set. -/
  | sleep (due : Int) (waiting : Bool)
  | await (cell : Nat) (scope : Nat) (waiting : Bool)
  /-- Closing a venue: checks at each tick whether jobs still run, until the scope ends. -/
  | close (venue : Nat) (scope : Nat) (tick : Int) (waiting : Bool)
  /-- Following a remote job's copy. -/
  | track (t : Tracking)
  /-- Invoking an operation remotely and following it, once submitted, with `t`. -/
  | invoke (link : Nat) (scope : Nat) (ref : String) (input : Value) (t : Option Tracking)
  /-- Closing the delivery queue: once started, waits for the signal `done` until the scope
  ends. -/
  | closeQueue (scope : Nat) (done : Option Nat)

/-- What the session's blocking operation ended with. -/
inductive ChoreResult where
  | slept
  | awaited (outcome : Except Fault Value)
  | closed (error : Option Fault)
  | tracked (error : Option Fault)
  | invoked (outcome : Except Fault Value)
  deriving Inhabited

/-- A fiber: one piece of work that runs until it has to wait. -/
inductive Fiber where
  | work (w : Work)
  | conduct (c : Conduct)
  | watch (w : Watch)
  | relay (r : Relay)
  /-- Ends a scope whose deadline passed. -/
  | expire (scope : Nat)
  | courier (c : Courier)
  /-- A delivery parked behind an open breaker until the breaker may let it through. -/
  | parked (d : Delivery) (due : Int) (waiting : Bool)
  /-- Waits for the webhook workers and then the parked deliveries, then raises `done`. -/
  | closer (phase : Nat) (done : Nat)
  | chore (c : Chore)

/-- What a fiber does after a step: it ends, or it waits with a new state for one of its
waits, listed in order of preference. -/
inductive Next where
  | exit
  | wait (f : Fiber) (waits : List Wait)

/-- A fiber that waits, with its waits in order of preference. -/
structure Blocked where
  fiber : Nat
  waits : List Wait

/-- An alarm: at `due` it wakes a fiber waiting on wait number `choice`, or ends a scope. -/
structure Alarm where
  due : Int
  seq : Nat
  fiber : Option Nat
  choice : Nat
  scope : Option Nat

/-- The world. Times are nanoseconds since the Unix epoch. -/
structure World where
  now : Int
  seq : Nat := 0
  scopes : Scopes := {}
  cells : Array JobCell := #[]
  venues : Array Venue := #[]
  links : Array RemoteLink := #[]
  /-- The venue names of the links, as the session names them. -/
  linkNames : List String := []
  sems : Array Semaphore := #[]
  channels : Array Channel := #[]
  signals : Array Bool := #[]
  counters : Array Nat := #[]
  fibers : Array (Option Fiber) := #[]
  resumes : Array Resume := #[]
  queue : RunQueue := {}
  blocked : List Blocked := []
  alarms : List Alarm := []
  outlet : Outlet := .none
  /-- Metric lines recorded since they were last read. -/
  metrics : List String := []
  /-- Deliveries recorded since they were last read. -/
  recorded : List Delivery := []
  /-- The outcome of the session's blocking operation, once it ended. -/
  choreResult : Option ChoreResult := none

/-- Computations that change the world. -/
abbrev WorldM := StateM World

end JobEngine
