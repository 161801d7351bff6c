import JobEngine.Job.Status
import JobEngine.Text.Quoted

/-!
# Faults

Every failure the library reports is a `Fault`: a tree whose nodes are causes and whose
inner nodes add context (`wrap`), group several failures (`join`), or say what a failure
happened to (`app`, `poll`). A fault has one message, and a *kind*: the name of the most
significant cause found anywhere in the tree.

## Main Definitions

* `Sentinel` — the classes of application errors, with their HTTP status.
* `AppError` — an application error: class, message and what it concerns.
* `Fault` — the fault tree.
* `Fault.message` — the text that reports a fault.
* `Fault.kind` — the name of its most significant cause.
* `Fault.httpStatus` — the HTTP status that answers it.

## Design Notes

Causes are looked for in the whole tree, depth first and in order. `kind` ranks the causes:
application errors first (named by the class of the first one met), then the job, remote,
delivery and context causes in a fixed order, and `error` when none is found.
-/

namespace JobEngine

/-- The classes of application errors. -/
inductive Sentinel where
  | validation
  | notFound
  | conflict
  | configuration
  | unavailable
  | rateLimited
  | internal
  deriving DecidableEq, Repr

namespace Sentinel

/-- All classes, in the order in which answers list them. -/
def all : List Sentinel :=
  [validation, notFound, conflict, configuration, unavailable, rateLimited, internal]

/-- The short name of a class. -/
def name : Sentinel → String
  | validation => "validation"
  | notFound => "not_found"
  | conflict => "conflict"
  | configuration => "configuration"
  | unavailable => "unavailable"
  | rateLimited => "rate_limited"
  | internal => "internal"

end Sentinel

/-- An application error: its class and message, and for validation the field at fault,
for lookups the kind of resource, for internal errors the failed operation. -/
structure AppError where
  sentinel : Sentinel
  message : String
  field : String := ""
  resource : String := ""
  opName : String := ""
  deriving Repr

/-- A failure and its causes. -/
inductive Fault where
  /-- An application error, possibly caused by another fault. -/
  | app (e : AppError) (cause : Option Fault)
  /-- A job finished in a terminal status other than `COMPLETE` and `CANCELLED`. -/
  | jobFailed (id : String) (status : Status) (message : String)
  /-- A job was cancelled. -/
  | jobCancelled
  /-- A second completion future was attached to a job. -/
  | futureAttached
  /-- A finished job was completed again. -/
  | alreadyFinished (id : String) (status : Status)
  /-- The output of a job that did not complete was asked for. -/
  | notComplete (id : String) (status : Status)
  /-- An adapter name was registered twice. -/
  | adapterExists (name : String)
  /-- Polling a remote job failed. -/
  | poll (jobId : String) (cause : Fault)
  /-- A remote venue answered with a non-success HTTP status. -/
  | api (code : Int) (message : String)
  /-- A remote venue does not know a job. -/
  | remoteNotFound
  /-- A remote venue reported a status that is none of the ten. -/
  | unknownStatus (text : String)
  /-- A webhook delivery found the queue full. -/
  | bufferFull
  /-- A webhook delivery came after the dispatcher closed. -/
  | dispatcherClosed
  /-- A circuit breaker refused a call. -/
  | breakerOpen
  /-- A webhook endpoint answered with a non-success HTTP status. -/
  | webhookRefused (code : Int)
  /-- A deadline passed. -/
  | deadlineExceeded
  /-- A context was cancelled. -/
  | canceled
  /-- A stream ended before anything was read. -/
  | eof
  /-- A stream ended in the middle of an item. -/
  | unexpectedEof
  /-- A fault reported with some context in front: `context: inner`. -/
  | wrap (context : String) (inner : Fault)
  /-- Several faults at once, reported one per line. -/
  | join (parts : List Fault)
  /-- A fault known only by its message. -/
  | plain (message : String)
  deriving Inhabited

namespace Fault

/-- A validation error of a field. -/
def validation (field message : String) : Fault :=
  .app { sentinel := .validation, message, field } none

/-- A lookup that found nothing: `resource id not found`. -/
def notFound (resource id : String) : Fault :=
  .app { sentinel := .notFound, message := resource ++ " " ++ id ++ " not found", resource } none

/-- A request that conflicts with the state of a resource. -/
def conflict (resource reason : String) : Fault :=
  .app { sentinel := .conflict, message := reason, resource } none

/-- A deployment problem: `resource "name": reason`. -/
def configuration (resource name reason : String) : Fault :=
  .app { sentinel := .configuration,
         message := resource ++ " " ++ Text.quote name ++ ": " ++ reason, resource } none

/-- A request that cannot be served now. -/
def unavailable (reason : String) : Fault :=
  .app { sentinel := .unavailable, message := reason } none

/-- A request refused by admission control. -/
def rateLimited (reason : String) : Fault :=
  .app { sentinel := .rateLimited, message := reason } none

mutual
/-- The text that reports a fault. -/
def message : Fault → String
  | .app e _ => e.message
  | .jobFailed id st msg =>
    "job " ++ id ++ " finished with status " ++ st.text ++ (if msg.isEmpty then "" else ": " ++ msg)
  | .jobCancelled => "job cancelled"
  | .futureAttached => "job already has a completion future"
  | .alreadyFinished id st =>
    "complete job " ++ id ++ ": job already finished (status " ++ st.text ++ ")"
  | .notComplete id st => "job is not complete: job " ++ id ++ " is " ++ st.text
  | .adapterExists n => "adapter already registered: " ++ n
  | .poll id c => "polling job " ++ id ++ " failed: " ++ message c
  | .api code msg =>
    "venue returned HTTP " ++ toString code ++ (if msg.isEmpty then "" else ": " ++ msg)
  | .remoteNotFound => "remote job not found"
  | .unknownStatus t => "unknown job status " ++ Text.quote t
  | .bufferFull => "dispatcher buffer full, event dropped"
  | .dispatcherClosed => "dispatcher is closed"
  | .breakerOpen => "circuit breaker is open"
  | .webhookRefused code => "HTTP " ++ toString code
  | .deadlineExceeded => "context deadline exceeded"
  | .canceled => "context canceled"
  | .eof => "EOF"
  | .unexpectedEof => "unexpected EOF"
  | .wrap ctx inner => ctx ++ ": " ++ message inner
  | .join parts => messageLines parts
  | .plain m => m

/-- The messages of several faults, one per line. -/
def messageLines : List Fault → String
  | [] => ""
  | [f] => message f
  | f :: rest => message f ++ "\n" ++ messageLines rest
end

/-- An internal error of a named operation, caused by another fault or by none:
`op: cause`, where a missing cause reads `<nil>`. -/
def internal (opName : String) (cause : Option Fault) : Fault :=
  let text := match cause with
    | some c => c.message
    | none => "<nil>"
  .app { sentinel := .internal, message := opName ++ ": " ++ text, opName } cause

mutual
/-- Every node of the tree, depth first, each node before its causes. -/
def nodes : Fault → List Fault
  | .app e (some c) => .app e (some c) :: nodes c
  | .poll id c => .poll id c :: nodes c
  | .wrap ctx inner => .wrap ctx inner :: nodes inner
  | .join parts => .join parts :: nodesOf parts
  | f => [f]

/-- The nodes of several trees, in order. -/
def nodesOf : List Fault → List Fault
  | [] => []
  | f :: rest => nodes f ++ nodesOf rest
end

/-- The first application error of the tree. -/
def firstApp? (f : Fault) : Option AppError :=
  f.nodes.findSome? fun
    | .app e _ => some e
    | _ => none

/-- The classes of all application errors in the tree. -/
def sentinels (f : Fault) : List Sentinel :=
  f.nodes.filterMap fun
    | .app e _ => some e.sentinel
    | _ => none

/-- Whether the tree holds an application error of class `s`. -/
def hasSentinel (f : Fault) (s : Sentinel) : Bool := f.sentinels.contains s

/-- The classes of application errors that match a fault, in the order of `Sentinel.all`. -/
def matchedSentinels (f : Fault) : List Sentinel := Sentinel.all.filter fun s => f.hasSentinel s

/-- The kind name of a single node, for the causes that have one. -/
def nodeKind? : Fault → Option (Nat × String)
  | .jobFailed .. => some (0, "job_failed")
  | .jobCancelled => some (1, "job_cancelled")
  | .alreadyFinished .. => some (2, "already_finished")
  | .notComplete .. => some (3, "not_complete")
  | .futureAttached => some (4, "future_attached")
  | .adapterExists _ => some (5, "adapter_exists")
  | .poll .. => some (6, "poll_error")
  | .remoteNotFound => some (7, "remote_not_found")
  | .api .. => some (8, "api_error")
  | .bufferFull => some (9, "buffer_full")
  | .dispatcherClosed => some (10, "dispatcher_closed")
  | .breakerOpen => some (11, "breaker_open")
  | .webhookRefused _ => some (12, "http_error")
  | .deadlineExceeded => some (13, "deadline_exceeded")
  | .canceled => some (14, "canceled")
  | .unexpectedEof => some (15, "unexpected_eof")
  | .eof => some (16, "eof")
  | _ => none

/-- The name of the most significant cause in the tree. -/
def kind (f : Fault) : String :=
  match f.firstApp? with
  | some e => e.sentinel.name
  | none =>
    let ranked := f.nodes.filterMap nodeKind?
    match ranked.foldl (fun best k => match best with
        | none => some k
        | some b => if k.1 < b.1 then some k else some b) none with
    | some (_, n) => n
    | none => "error"

/-- The HTTP status answering a fault: 400 for validation, 404 for a missing resource, 409 for
a conflict, 429 for rate limiting, 503 when unavailable, 500 otherwise. -/
def httpStatus (f : Fault) : Nat :=
  if f.hasSentinel .validation then 400
  else if f.hasSentinel .notFound then 404
  else if f.hasSentinel .conflict then 409
  else if f.hasSentinel .rateLimited then 429
  else if f.hasSentinel .unavailable then 503
  else 500

/-- Whether the tree holds a node satisfying `p`. -/
def holds (f : Fault) (p : Fault → Bool) : Bool := f.nodes.any p

/-- Whether the tree holds a cancelled-job cause. -/
def isJobCancelled (f : Fault) : Bool := f.holds fun | .jobCancelled => true | _ => false

/-- The first failed-job cause of the tree, as its status and message. -/
def jobFailure? (f : Fault) : Option (Status × String) :=
  f.nodes.findSome? fun
    | .jobFailed _ st msg => some (st, msg)
    | _ => none

/-- Whether the tree says a remote job is unknown. -/
def isRemoteNotFound (f : Fault) : Bool := f.holds fun | .remoteNotFound => true | _ => false

/-- The first non-success HTTP status a remote venue answered, if the tree holds one. -/
def apiStatus? (f : Fault) : Option Int :=
  f.nodes.findSome? fun
    | .api code _ => some code
    | _ => none

/-- The first webhook HTTP status of the tree. -/
def webhookStatus? (f : Fault) : Option Int :=
  f.nodes.findSome? fun
    | .webhookRefused code => some code
    | _ => none

end Fault

end JobEngine
