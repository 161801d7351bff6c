/-!
# The run queue of a single processor

Tasks that are ready to run wait in a **run queue**. The queue has a *front slot* besides its
first-in first-out line: a task made ready goes into the front slot and runs next, and the
task it displaces from there joins the end of the line. A task that wakes another therefore
hands over to it as soon as it stops, while older ready tasks keep their order.

## Main Definitions

* `RunQueue` — the front slot and the line.
* `RunQueue.ready` — makes a task ready.
* `RunQueue.pop?` — takes the task that runs next.
* `RunQueue.toList` — the ready tasks in the order they will run.
-/

namespace JobEngine

/-- Ready tasks: the one in the front slot runs first, then the line in order. -/
structure RunQueue where
  front : Option Nat := none
  line : List Nat := []

namespace RunQueue

/-- Makes a task ready: it takes the front slot, and the task that held it joins the line. -/
def ready (t : Nat) (q : RunQueue) : RunQueue :=
  match q.front with
  | none => { q with front := some t }
  | some r => { front := some t, line := q.line ++ [r] }

/-- The task that runs next, and the queue without it. -/
def pop? (q : RunQueue) : Option (Nat × RunQueue) :=
  match q.front with
  | some t => some (t, { q with front := none })
  | none =>
    match q.line with
    | [] => none
    | t :: rest => some (t, { q with line := rest })

/-- The ready tasks in the order they will run. -/
def toList (q : RunQueue) : List Nat :=
  match q.front with
  | some t => t :: q.line
  | none => q.line

/-- Whether no task is ready. -/
def isEmpty (q : RunQueue) : Bool := q.toList.isEmpty

theorem toList_ready (t : Nat) (q : RunQueue) :
    (q.ready t).toList = t :: (q.line ++ (q.front.map ([·])).getD []) := by
  cases h : q.front <;> simp [ready, toList, h]

end RunQueue

end JobEngine
