import JobEngine.Job.Basic
import JobEngine.Clock.Duration

/-!
# Driving one job by hand

A `JobSession` is a single job on a clock that moves only when told to, with no worker
behind the job. It is the smallest setting in which the job's transitions, hooks and
completion future can be observed one call at a time.

## Main Definitions

* `JobSession.Action` — the calls a caller can make.
* `JobSession.Answer` — what a call returns.
* `JobSession.perform` — one call: the answer, the hooks it fired, and the new session.

## Design Notes

Awaiting an unfinished job waits for one second with its deadline: nothing else can finish
the job meanwhile, so the wait always ends at the deadline, and the clock moves by a second.
Awaiting attaches a completion future if none was attached.

Sleeping for a count of milliseconds sleeps for that many as a 64-bit duration, which wraps
when it overflows; a duration that is not positive does not move the clock.
-/

namespace JobEngine

/-- A job and the clock reading in Unix nanoseconds. -/
structure JobSession where
  job : Job
  now : Int

namespace JobSession

/-- The clock reading in Unix milliseconds, as the job's timestamps take it. -/
def millis (s : JobSession) : Int := s.now / Duration.nanosPerMilli

/-- A call on the job. -/
inductive Action where
  | update (r : Record)
  | setStatus (s : Status)
  | fail (message : String)
  | complete (output : Value)
  | cancel
  | attachFuture
  | await
  | output
  | errorMessage
  | sleep (ms : Int)
  | id
  | status

/-- The answer of a call. -/
inductive Answer where
  /-- Whether the change was accepted. -/
  | accepted (b : Bool)
  /-- A call that can only fail, and did or did not. -/
  | failure (f : Option Fault)
  /-- A value or the fault instead of it. -/
  | outcome (x : Except Fault Value)
  | text (s : String)
  | statusInfo (s : Status) (finished : Bool)
  | nothing

/-- Applies a transition result: the new job and its hook, or the job unchanged. -/
def accept (s : JobSession) : Option (Job × Hook) → JobSession × Answer × List Hook
  | some (j, h) => ({ s with job := j }, .accepted true, [h])
  | none => (s, .accepted false, [])

/-- Performs one call. -/
def perform (s : JobSession) : Action → JobSession × Answer × List Hook
  | .update r => s.accept (s.job.apply s.millis r)
  | .setStatus st => s.accept (s.job.setStatus s.millis st)
  | .fail m => s.accept (s.job.fail s.millis m)
  | .complete v =>
    match s.job.complete s.millis v with
    | .ok (j, h) => ({ s with job := j }, .failure none, [h])
    | .error f => (s, .failure (some f), [])
  | .cancel => s.accept (s.job.cancel s.millis)
  | .attachFuture =>
    match s.job.attachFuture with
    | .ok j => ({ s with job := j }, .failure none, [])
    | .error f => (s, .failure (some f), [])
  | .await =>
    let s' := { s with job := { s.job with futureAttached := true } }
    if s.job.isFinished then (s', .outcome s.job.record.outcome, [])
    else ({ s' with now := s.now + Duration.nanosPerSecond }, .outcome (.error .deadlineExceeded), [])
  | .output => (s, .outcome s.job.output, [])
  | .errorMessage => (s, .text s.job.errorMessage, [])
  | .sleep ms =>
    let d := Duration.ofMillis ms
    ({ s with now := if d > 0 then s.now + d else s.now }, .nothing, [])
  | .id => (s, .text s.job.record.id, [])
  | .status => (s, .statusInfo s.job.record.status s.job.isFinished, [])

end JobSession

/-- A future driven by hand: resolving and rejecting settle it once; awaiting an unsettled
future waits one second and ends at its deadline. -/
inductive FutureAction where
  | resolve (v : Value)
  | reject (message : String)
  | await

/-- One call on a future: its answer (whether it settled it, or what awaiting gave) and the
new future. -/
def Future.perform (f : Future) : FutureAction → Future × Sum Bool (Except Fault Value)
  | .resolve v => let (f', b) := f.settle (.ok v); (f', .inl b)
  | .reject m => let (f', b) := f.settle (.error (.plain m)); (f', .inl b)
  | .await => (f, .inr (f.result.getD (.error .deadlineExceeded)))

end JobEngine
