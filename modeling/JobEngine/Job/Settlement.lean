import JobEngine.Job.Session

/-!
# Settling a job's completion future

A job settles the completion future attached to it with what its final record calls for:
`Record.outcome`, the output of a `COMPLETE` record, a cancellation for `CANCELLED`, and
otherwise a failure naming the job, its status and its error text. Three calls settle it:

* the call that takes the job from a running record to a terminal one settles the future
  attached by then;
* attaching a future to a finished job settles it at once;
* awaiting a job that has no future creates one, and settles it at once if the job is
  finished.

## Main Definitions

* `FutureSession` — a job driven by hand, with the future attached to it.
* `FutureSession.step` — one call: the session's own call, what it does to the future, and
  the results the future was settled with.
* `FutureSession.awaited` — what awaiting the attached future gives.

## Design Notes

`JobSession` keeps only whether a future is attached, and answers an await from the job's
record. Here the future is a cell of its own beside the session, settled by the calls above
and by nothing else, so that what the session answers can be compared with what the cell
holds. A future attached by hand is a fresh one: nobody but the job settles it.
-/

namespace JobEngine

/-- A job driven by hand, and the completion future attached to it, if any. -/
structure FutureSession where
  session : JobSession
  future : Option Future := none

namespace FutureSession

/-- Settles the attached future, if any, with the outcome of `r`. Returns the future and the
results it was settled with. -/
def settleAttached (r : Record) : Option Future → Option Future × List (Except Fault Value)
  | some f => (some (f.settle r.outcome).1, [r.outcome])
  | none => (none, [])

/-- Attaches a fresh future unless one is attached; the future of a finished job is settled
at once. -/
def attach (j : Job) : Option Future → Option Future × List (Except Fault Value)
  | some f => (some f, [])
  | none => if j.isFinished then settleAttached j.record (some {}) else (some {}, [])

/-- What a call does to the future, given the session `s` it leaves: attaching a future and
awaiting attach one unless one is attached; any other call settles the attached future when
it takes the job from running to terminal. -/
def futureAfter (c : FutureSession) (s : JobSession) :
    JobSession.Action → Option Future × List (Except Fault Value)
  | .attachFuture | .await => attach c.session.job c.future
  | _ =>
    if !c.session.job.isFinished && s.job.isFinished then settleAttached s.job.record c.future
    else (c.future, [])

/-- One call on the job: the session after it, with the future it leaves, and the results the
future was settled with. -/
def step (c : FutureSession) (a : JobSession.Action) :
    FutureSession × List (Except Fault Value) :=
  let s := (c.session.perform a).1
  ({ session := s, future := (c.futureAfter s a).1 }, (c.futureAfter s a).2)

/-- What awaiting the attached future gives: its result once settled, and otherwise the end
of the wait at its deadline, since nothing else settles it meanwhile. -/
def awaited (c : FutureSession) : Except Fault Value :=
  (c.future.bind (·.result)).getD (.error .deadlineExceeded)

end FutureSession

end JobEngine
