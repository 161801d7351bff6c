import JobEngine.World.Engine

/-!
# Adapter runs

A function adapter runs each asynchronous operation as a fiber. The fiber first takes a
permit of the adapter's semaphore, so that no more runs than permits are in progress, then
marks the job `STARTED` and runs the handler, which answers at once, works for a while and
answers, or waits for its scope to end. The answer ends the job as `finishWith` says. A run
whose scope ends while it waits for a permit fails the job with `adapter NAME: <reason>`; a
handler interrupted by its scope answers as it chooses for the reason. None of these endings
does anything to a job that already finished, which is how a cancelled job stays cancelled.

## Main Definitions

* `Work.step` — one step of an adapter run.
-/

namespace JobEngine

namespace Work

open World

/-- The message a run gives when its scope ends before a permit is taken. -/
def refusal (x : Work) (e : Ending) : String := "adapter " ++ x.adapter ++ ": " ++ e.fault.message

/-- Ends the run with the handler's answer, and returns the permit. -/
def settle (x : Work) (o : Outcome) : WorldM Next := do
  finishWith x.cell o
  release x.sem
  return .exit

/-- Marks the job started and runs the handler, with the permit held. -/
def runHandler (x : Work) : WorldM Next := do
  let _ ← setStatus x.cell .started
  match x.handle x.input with
  | .answers o => x.settle o
  | .works nanos done stopped =>
    let w ← get
    return .wait (.work { x with phase := .working done stopped }) [.alarm (w.now + nanos), .scope x.scope]
  | .blocks stopped => return .wait (.work { x with phase := .blocked stopped }) [.scope x.scope]

/-- One step of an adapter run. -/
def step (x : Work) (r : Resume) : WorldM Next := do
  match x.phase with
  | .acquire =>
    match (← get).ending? x.scope with
    | some e =>
      let _ ← failJob x.cell (x.refusal e)
      return .exit
    | none =>
      if ← tryAcquire x.sem then runHandler x
      else
        let t ← enqueueTicket x.sem
        return .wait (.work { x with phase := .queued t }) [.scope x.scope, .permit x.sem t]
  | .queued t =>
    if r.choice == 0 then
      abandonTicket x.sem t
      let e := ((← get).ending? x.scope).getD .canceled
      let _ ← failJob x.cell (x.refusal e)
      return .exit
    else
      claimTicket x.sem t
      match (← get).ending? x.scope with
      | some e =>
        release x.sem
        let _ ← failJob x.cell (x.refusal e)
        return .exit
      | none => runHandler x
  | .working done stopped =>
    if r.choice == 0 then x.settle done
    else x.settle (stopped (((← get).ending? x.scope).getD .canceled))
  | .blocked stopped => x.settle (stopped (((← get).ending? x.scope).getD .canceled))

end Work

end JobEngine
