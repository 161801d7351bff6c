import JobEngine.Job.Record
import JobEngine.Fault

/-!
# Jobs

A job holds its status record, whether a completion future is attached, and whether
cancellation was signalled. Every change goes through one transition, `Job.apply`, which
refuses any change to a finished job: a job therefore reaches at most one terminal status,
and every call after that does nothing.

## Main Definitions

* `Hook` — what a transition tells the job's owner: an update, or the finish.
* `Job.create` — a job from an initial record.
* `Job.apply` — the one transition; `setStatus`, `fail`, `complete` and `cancel` build on it.
* `Record.outcome` — what awaiting a finished job gives.

## Design Notes

Transitions take the clock reading `now` (Unix milliseconds) and return the new job with the
hook it fires, or `none` when refused. The completion future of a job settles exactly when the
job finishes, with a result computed from the final record, so the job keeps only whether a
future is attached.
-/

namespace JobEngine

/-- A notification from a job to its owner, carrying the new record. -/
inductive Hook where
  /-- An accepted change to a non-terminal status. -/
  | update (r : Record)
  /-- The terminal transition. -/
  | finish (r : Record)

/-- The record a hook carries. -/
def Hook.record : Hook → Record
  | .update r => r
  | .finish r => r

/-- A job. -/
structure Job where
  record : Record
  /-- A completion future is attached. -/
  futureAttached : Bool := false
  /-- Cancellation was signalled to the job's worker. -/
  cancelSignalled : Bool := false
  deriving Inhabited

namespace Job

/-- A job from an initial record: an empty status becomes `PENDING`, a zero creation time
becomes `now`, and a zero update time the creation time. -/
def create (now : Int) (r : Record) : Job :=
  let status := if r.status = .unknown "" then .pending else r.status
  let created := if r.created = 0 then now else r.created
  let updated := if r.updated = 0 then created else r.updated
  { record := { r with status, created, updated }.normalize }

/-- Whether the job reached a terminal status. -/
def isFinished (j : Job) : Bool := j.record.isFinished

/-- Replaces the record by `r`, keeping the job's identity. An empty status in `r` keeps the
current status, an empty operation, input or name keeps the current one, and a zero update
time becomes `now`. Refused when the job is finished or the new status is no status. -/
def apply (now : Int) (r : Record) (j : Job) : Option (Job × Hook) :=
  if j.isFinished then none
  else
    let cur := j.record
    let status := if r.status = .unknown "" then cur.status else r.status
    if !status.isValid then none
    else
      let r' : Record := { r with
        status
        id := cur.id
        created := cur.created
        op := if r.op.isEmpty then cur.op else r.op
        input := if r.input.isNull then cur.input else r.input
        name := if r.name.isEmpty then cur.name else r.name
        updated := if r.updated = 0 then now else r.updated }
      let r' := r'.normalize
      let j' := { j with record := r' }
      some (j', if r'.isFinished then .finish r' else .update r')

/-- Moves the job to a non-terminal status; terminal statuses are refused. -/
def setStatus (now : Int) (s : Status) (j : Job) : Option (Job × Hook) :=
  if s.isFinished then none
  else j.apply now { j.record with status := s, updated := 0 }

/-- Fails the job with a message. -/
def fail (now : Int) (message : String) (j : Job) : Option (Job × Hook) :=
  j.apply now { j.record with status := .failed, error := message, updated := 0 }

/-- Completes the job with an output; completing a finished job is a fault. -/
def complete (now : Int) (output : Value) (j : Job) : Except Fault (Job × Hook) :=
  if j.isFinished then .error (.alreadyFinished j.record.id j.record.status)
  else match j.apply now { j.record with status := .complete, output, updated := 0 } with
    | some r => .ok r
    | none => .error (.alreadyFinished j.record.id j.record.status)

/-- Cancels a running job and signals cancellation; refused when finished. -/
def cancel (now : Int) (j : Job) : Option (Job × Hook) :=
  if j.isFinished then none
  else ({ j with cancelSignalled := true }).apply now { j.record with status := .cancelled, updated := 0 }

/-- Attaches a completion future; a second one is a fault. -/
def attachFuture (j : Job) : Except Fault Job :=
  if j.futureAttached then .error .futureAttached else .ok { j with futureAttached := true }

/-- The output of a complete job; for any other status a fault. -/
def output (j : Job) : Except Fault Value :=
  if j.record.status = .complete then .ok j.record.output
  else .error (.notComplete j.record.id j.record.status)

/-- The failure message of a `FAILED` job, and empty otherwise. -/
def errorMessage (j : Job) : String :=
  if j.record.status = .failed then j.record.error else ""

end Job

/-- What awaiting a finished job gives: the output if `COMPLETE`, a cancellation if
`CANCELLED`, and otherwise a failure naming the job, its status and its error text. -/
def Record.outcome (r : Record) : Except Fault Value :=
  match r.status with
  | .complete => .ok r.output
  | .cancelled => .error .jobCancelled
  | st => .error (.jobFailed r.id st r.error)

/-- A one-shot result cell: the first result given to it stays. -/
structure Future where
  result : Option (Except Fault Value) := none

namespace Future

/-- Settles the future; reports whether this call settled it. -/
def settle (x : Except Fault Value) (f : Future) : Future × Bool :=
  match f.result with
  | some _ => (f, false)
  | none => ({ result := some x }, true)

/-- Whether the future is settled. -/
def isSettled (f : Future) : Bool := f.result.isSome

end Future

end JobEngine
