import JobEngine.World.Engine

/-!
# Running orchestrations

An orchestration runs as a fiber. It marks its job `STARTED`, then repeats rounds: every
pending step whose inputs are all available is started as a sub-job of the same venue, with
a *watcher* fiber that awaits the sub-job and reports to the orchestration's channel; then
the orchestration waits for reports, polling at its interval. Each report records a step's
output, or fails the orchestration with `step i (op) failed: …`. When no step is
outstanding the result expression is evaluated and the job completes with it.

The orchestration stops early when its job finishes some other way (cancelled, updated from
outside) or its scope ends; it then cancels the sub-jobs still running.

## Main Definitions

* `Watch.step` — one step of a step watcher.
* `Conduct.step` — one step of an orchestration.
-/

namespace JobEngine

open World

namespace Watch

/-- One step of a step watcher: attach to the sub-job's completion, then report its outcome,
or the scope's ending when that comes first. -/
def step (x : Watch) (r : Resume) : WorldM Next := do
  if !x.waiting then
    attachFuture x.sub
    let now := (← get).now
    return .wait (.watch { x with waiting := true, since := now }) [.settled x.sub, .scope x.scope]
  else
    let w ← get
    let outcome := if r.choice == 0 then outcomeOf w x.sub
      else .error ((w.ending? x.scope).getD .canceled).fault
    let _ ← send x.inbox (.completion { index := x.index, outcome, took := w.now - x.since })
    return .exit

end Watch

namespace Conduct

/-- The step of a plan at an index. -/
def task? (x : Conduct) (i : Nat) : Option Task := x.plan.tasks[i]?

/-- Cancels the sub-jobs still running. -/
def stop (x : Conduct) : WorldM Unit := do
  for sub in x.progress.subJobs do
    let _ ← cancelJob sub

/-- Starts the given ready steps in order, each with its watcher. Returns none when the
orchestration ended because a step's input or invocation failed. -/
def launch (x : Conduct) : List Nat → WorldM (Option Conduct)
  | [] => return some x
  | i :: rest => do
    let x := { x with progress := x.progress.take i }
    match x.task? i with
    | none => launch x rest
    | some t =>
      match t.input.eval x.progress.env with
      | .error f =>
        let _ ← failJob x.cell ("step " ++ toString i ++ " (" ++ t.op ++ "): " ++ f.message)
        return none
      | .ok input =>
        match ← invoke x.venue t.op input none none with
        | .error f =>
          let _ ← failJob x.cell ("step " ++ toString i ++ " (" ++ t.op ++ "): " ++ f.message)
          stop x
          return none
        | .ok sub =>
          let x := { x with progress := x.progress.launch i sub }
          let _ ← spawn (.watch { index := i, sub, scope := x.scope, inbox := x.inbox, since := 0 })
          launch x rest

/-- One round: start the ready steps, then wait for reports. -/
def round (x : Conduct) : WorldM Next := do
  match ← launch x x.progress.ready with
  | none => return .exit
  | some x =>
    let now := (← get).now
    return .wait (.conduct { x with phase := .receiving })
      [.inbox x.inbox, .alarm (now + x.poll), .finished x.cell, .scope x.scope]

/-- Takes every buffered report. -/
def drain (ch : Nat) : Nat → WorldM (List Completion)
  | 0 => return []
  | fuel + 1 => do
    match ← receive? ch with
    | some (.completion c) => return c :: (← drain ch fuel)
    | some _ => drain ch fuel
    | none => return []

/-- Records a step report in the metrics of a metered venue. -/
def recordStep (x : Conduct) (c : Completion) : WorldM Unit := do
  if x.metered then
    let op := ((x.task? c.index).map (·.op)).getD ""
    let success := match c.outcome with
      | .ok _ => true
      | .error _ => false
    emit ("step adapter=" ++ stepLabel op ++ " success=" ++ toString success ++ " seconds=" ++
      secondsText c.took)

/-- Takes in a batch of reports in order. Returns none when a failed step ended the
orchestration. -/
def absorb (x : Conduct) : List Completion → WorldM (Option Conduct)
  | [] => return some x
  | c :: rest => do
    let x := { x with progress := x.progress.settle c.index }
    recordStep x c
    match c.outcome with
    | .error f =>
      let op := ((x.task? c.index).map (·.op)).getD ""
      let _ ← failJob x.cell ("step " ++ toString c.index ++ " (" ++ op ++ ") failed: " ++
        failureMessage f)
      return none
    | .ok out => absorb { x with progress := x.progress.record c.index out } rest

/-- Goes on: the next round while steps are outstanding, else the result. -/
def proceed (x : Conduct) : WorldM Next := do
  if x.progress.outstanding > 0 then round x
  else
    match x.plan.result.eval x.progress.env with
    | .error f =>
      let _ ← failJob x.cell ("result: " ++ f.message)
      return .exit
    | .ok v =>
      let _ ← completeJob x.cell v
      return .exit

/-- Goes on after a batch of reports. -/
def afterBatch (x : Conduct) (batch : List Completion) : WorldM Next := do
  if (← get).isFinished x.cell then
    stop x
    return .exit
  match ← absorb x batch with
  | none => return .exit
  | some x => proceed x

/-- One step of an orchestration. -/
def step (x : Conduct) (r : Resume) : WorldM Next := do
  match x.phase with
  | .start =>
    let _ ← setStatus x.cell .started
    proceed x
  | .receiving =>
    let fuel := (x.plan.tasks.length + 1)
    match r.choice with
    | 0 =>
      let first := match r.message with
        | some (.completion c) => [c]
        | _ => []
      afterBatch x (first ++ (← drain x.inbox fuel))
    | 1 => afterBatch x (← drain x.inbox fuel)
    | 2 =>
      stop x
      return .exit
    | _ =>
      let _ ← cancelJob x.cell
      stop x
      return .exit

end Conduct

end JobEngine
