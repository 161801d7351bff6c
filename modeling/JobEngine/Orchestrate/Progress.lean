import JobEngine.Orchestrate.Plan

/-!
# Orchestration progress

While an orchestration runs, each of its steps is *pending* (not started; it waits for the
steps it reads), *running* (its sub-job was started), or *done* (its output is recorded). A
step is started once every step it reads is done; the orchestration completes when no step
is outstanding, and fails at the first step that does not complete.

## Main Definitions

* `Completion` — what the watcher of a running step reports.
* `Progress` — the state of one run: outputs so far, pending and running steps.
* `Progress.ready` — the pending steps whose inputs are all available, in step order.
* `Progress.launch`, `Progress.record` — a step starts; a step's output arrives.
* `failureMessage` — how a failed step is described.

## Design Notes

The pending steps keep the step order, and each keeps only the steps it still waits for, so
`ready` is a filter and `record` removes one step from every wait list.
-/

namespace JobEngine

/-- What a step's watcher reports: the step, its sub-job's outcome and how long the wait
took, in nanoseconds. -/
structure Completion where
  index : Nat
  outcome : Except Fault Value
  took : Int

/-- The state of a running orchestration. -/
structure Progress where
  env : Env
  /-- Steps not yet started, in step order, each with the steps it still waits for. -/
  pending : List (Nat × List Nat)
  /-- Started steps that have not reported, with their sub-jobs. -/
  running : List (Nat × Nat) := []
  /-- Steps whose output is not yet recorded. -/
  outstanding : Nat

namespace Progress

/-- The progress of a plan before any step started. -/
def start (p : Plan) : Progress :=
  { env := Env.start p.input p.tasks.length,
    pending := p.tasks.map fun t => (t.index, t.deps),
    outstanding := p.tasks.length }

/-- The pending steps that wait for nothing, in step order. -/
def ready (g : Progress) : List Nat := (g.pending.filter (·.2.isEmpty)).map (·.1)

/-- Takes a step out of the pending ones. -/
def take (i : Nat) (g : Progress) : Progress :=
  { g with pending := g.pending.filter (·.1 != i) }

/-- Notes that step `i` runs as sub-job `sub`. -/
def launch (i sub : Nat) (g : Progress) : Progress :=
  { g with running := g.running ++ [(i, sub)] }

/-- Notes that step `i` stopped running. -/
def settle (i : Nat) (g : Progress) : Progress :=
  { g with running := g.running.filter (·.1 != i) }

/-- Records the output of step `i`: no pending step waits for it any more, and one step
fewer is outstanding. -/
def record (i : Nat) (out : Value) (g : Progress) : Progress :=
  { g with env := g.env.setOutput i out,
           pending := g.pending.map fun (k, ds) => (k, ds.filter (· != i)),
           outstanding := g.outstanding - 1 }

/-- The sub-jobs still running, in step order of their start. -/
def subJobs (g : Progress) : List Nat := g.running.map (·.2)

end Progress

/-- The description of a step failure: a failed sub-job's error message, else its status;
`cancelled` for a cancelled sub-job; otherwise the fault's message. -/
def failureMessage (f : Fault) : String :=
  match f.jobFailure? with
  | some (st, msg) => if msg.isEmpty then st.text else msg
  | none => if f.isJobCancelled then "cancelled" else f.message

/-- The description of an invalid orchestration: `field: message` for a fault about a field. -/
def describeInvalid (f : Fault) : String :=
  match f.firstApp? with
  | some e => if e.field.isEmpty then f.message else e.field ++ ": " ++ e.message
  | none => f.message

/-- The metric label of a step's operation: the adapter of a literal reference, else
`catalog`. -/
def stepLabel (op : String) : String :=
  if isLiteralRef op then (splitRef op).1 else "catalog"

end JobEngine
