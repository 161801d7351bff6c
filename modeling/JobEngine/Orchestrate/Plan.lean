import JobEngine.Orchestrate.Spec
import JobEngine.Operation.Metadata

/-!
# Orchestration plans

The `operation` section of a composite operation lists steps, each an operation reference
and an input expression, and optionally a result expression. `Plan.build` checks them all
before anything runs: steps may only read earlier steps, so the steps form an acyclic graph
in list order, and the result may read any step.

## Main Definitions

* `Task` — one step with its position and the steps it reads.
* `Plan` — the tasks and the result expression of one invocation.
* `Plan.build` — the plan of metadata and input, or the validation error of the first fault.

## Design Notes

Without a result expression the result is the output of the last step, or `null` when there
are no steps. Faults carry the field they were found in, such as `operation.steps[1].input`.
-/

namespace JobEngine

/-- One step of an orchestration. -/
structure Task where
  index : Nat
  op : String
  input : Spec
  /-- The earlier steps whose outputs the input reads, ascending. -/
  deps : List Nat

/-- The checked form of one composite invocation. -/
structure Plan where
  input : Value
  tasks : List Task
  result : Spec

namespace Plan

/-- The field name of step `i`, or of its member `name`. -/
def stepField (i : Nat) (name : String) : String :=
  let base := "operation.steps[" ++ toString i ++ "]"
  if name.isEmpty then base else base ++ "." ++ name

/-- The task of step `i` described by `raw`. -/
def buildTask (i : Nat) (raw : Value) : Except Fault Task := do
  let some fields := raw.asObject? | .error (.validation (stepField i "") "step must be an object")
  let op := match fields.lookup "op" with
    | some (.str s) => s
    | _ => ""
  if op.isEmpty then .error (.validation (stepField i "op") "step operation is required")
  let input ← match Spec.parse ((fields.lookup "input").getD .null) with
    | .ok s => pure s
    | .error f => .error (.validation (stepField i "input") f.message)
  let deps := input.deps
  match deps.find? (· ≥ i) with
  | some d => .error (.validation (stepField i "input") ("step " ++ toString i ++
      " references step " ++ toString d ++ "; steps may only reference earlier steps"))
  | none => return { index := i, op, input, deps }

/-- The tasks of the raw steps from position `i` on. -/
def buildTasks (i : Nat) : List Value → Except Fault (List Task)
  | [] => return []
  | raw :: rest => return (← buildTask i raw) :: (← buildTasks (i + 1) rest)

/-- The plan of a composite operation's metadata for an input. -/
def build (md : Metadata) (input : Value) : Except Fault Plan := do
  let op := md.operation.getD []
  let rawSteps ← match op.lookup "steps" with
    | none | some .null => .error (.validation "operation.steps" "steps are required")
    | some (.arr xs) => pure xs
    | some _ => .error (.validation "operation.steps" "steps must be a list")
  let tasks ← buildTasks 0 rawSteps
  let result ← match op.lookup "result" with
    | some raw =>
      let spec ← match Spec.parse raw with
        | .ok s => pure s
        | .error f => .error (.validation "operation.result" f.message)
      match spec.deps.find? (· ≥ tasks.length) with
      | some d => .error (.validation "operation.result" ("result references step " ++
          toString d ++ " of " ++ toString tasks.length))
      | none => pure spec
    | none => pure (if tasks.isEmpty then .literal .null else .step (tasks.length - 1) [])
  return { input, tasks, result }

end Plan

end JobEngine
