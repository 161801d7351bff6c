import JobEngine.World.Work
import JobEngine.World.Conduct
import JobEngine.World.Chore

/-!
# Scheduling fibers

Fibers share one processor: the one taken from the run queue runs until it waits or ends,
and only then does another run. A fiber that asks to wait for something already at hand
goes on at once without giving up the processor.

Time is a fake clock. It stands still while any fiber is ready; when none is, it jumps to
the earliest alarm, and every alarm due then fires in the order the alarms were set. An
alarm wakes the fiber that set it, or, for a scope's deadline, starts a fiber that ends the
scope.

## Main Definitions

* `World.satisfied` — whether a wait is satisfied now.
* `World.settle` — runs ready fibers until none is ready, without moving the clock.
* `World.advance` — moves the clock to the earliest alarm and fires what is due.
* `World.perform` — runs the session's blocking request to its end, then settles.

## Design Notes

Every loop here runs on an explicit budget of steps, far above what a session needs; a
session that exhausts it simply stops where it is, and a fiber that exhausts its own yields.
-/

namespace JobEngine

/-- One step of an expiring deadline: the scope ends as expired. -/
def expireStep (s : Nat) : WorldM Next := do
  World.endScope s .deadlineExceeded
  return .exit

/-- One step of a fiber. -/
def Fiber.step (x : Fiber) (r : Resume) : WorldM Next :=
  match x with
  | .work w => w.step r
  | .conduct c => c.step r
  | .watch w => w.step r
  | .relay x => x.step r
  | .expire s => expireStep s
  | .chore c => c.step r
  | .courier c => c.step r
  | .parked d due waiting => World.parkedStep d due waiting r
  | .closer phase done => World.closerStep phase done

namespace World

/-- Whether a wait is satisfied now. -/
def satisfied (w : World) : Wait → Bool
  | .alarm due => due ≤ w.now
  | .scope s => w.scopes.isEnded s
  | .finished c => w.isFinished c
  | .settled c => w.isFinished c && ((w.job? c).map (·.futureAttached)).getD false
  | .inbox ch => w.depth ch > 0
  | .permit s t => ((w.sems[s]?).map (·.granted.contains t)).getD false
  | .signal g => w.isRaised g
  | .drained g => (w.counters[g]?.getD 0) == 0

/-- Leaves a fiber waiting on its waits; when one is satisfied already, the fiber goes on at
once and the resume is returned instead. -/
def park (f : Nat) (x : Fiber) (waits : List Wait) : WorldM (Option Resume) := do
  modify fun w => { w with fibers := w.fibers.set! f (some x) }
  let w ← get
  match waits.findIdx? (satisfied w) with
  | some k =>
    match waits[k]? with
    | some (.inbox ch) => return some { choice := k, message := ← receive? ch }
    | _ => return some { choice := k }
  | none =>
    modify fun w => { w with blocked := w.blocked ++ [{ fiber := f, waits }] }
    for (wt, k) in waits.zipIdx do
      match wt with
      | .alarm due => addAlarm due (some f) k none
      | _ => pure ()
    return none

/-- Runs a fiber from a resume until it waits or ends. A fiber that used up its budget of
consecutive steps yields: it is made ready to go on with its resume. -/
def runFiber (f : Nat) : Nat → Resume → WorldM Unit
  | 0, r => modify fun w => { w with resumes := w.resumes.set! f r, queue := w.queue.ready f }
  | fuel + 1, r => do
    match (← get).fibers[f]? with
    | some (some x) =>
      match ← x.step r with
      | .exit => modify fun w => { w with fibers := w.fibers.set! f none }
      | .wait x' waits =>
        match ← park f x' waits with
        | some r' => runFiber f fuel r'
        | none => pure ()
    | _ => pure ()

/-- The budget of consecutive steps of one fiber. -/
def stepBudget : Nat := 100000

/-- Runs the next ready fiber; false when none is ready. -/
def runNext : WorldM Bool := do
  match (← get).queue.pop? with
  | none => return false
  | some (f, q) =>
    modify fun w => { w with queue := q }
    let r := (← get).resumes[f]?.getD {}
    runFiber f stepBudget r
    return true

/-- Runs ready fibers until none is ready. -/
def settle : Nat → WorldM Unit
  | 0 => pure ()
  | fuel + 1 => do
    if ← runNext then settle fuel

/-- Moves the clock to the earliest alarm and fires every alarm then due, in the order they
were set. False when no alarm is set. -/
def advance : WorldM Bool := do
  let w ← get
  match w.alarms.map (·.due) |>.min? with
  | none => return false
  | some t =>
    let due := w.alarms.filter (·.due ≤ t)
    set { w with now := t, alarms := w.alarms.filter (·.due > t) }
    for a in due.mergeSort fun a b => decide (a.seq ≤ b.seq) do
      match a.fiber, a.scope with
      | some f, _ =>
        if (← get).blocked.any (·.fiber == f) then wake f { choice := a.choice }
      | none, some s =>
        if !(← get).scopes.isEnded s then
          let _ ← spawn (.expire s)
      | none, none => pure ()
    return true

/-- The budget of scheduling rounds of one request. -/
def roundBudget : Nat := 1000000

/-- Runs fibers, moving the clock when none is ready, until the session's request has its
result; then runs what is ready without moving the clock. -/
def finish : Nat → WorldM Unit
  | 0 => pure ()
  | fuel + 1 => do
    if (← get).choreResult.isSome then settle roundBudget
    else if ← runNext then finish fuel
    else if ← advance then finish fuel
    else pure ()

/-- Starts a blocking request of the session: its fiber is added and its first step runs at
once. -/
def begin (c : Chore) : WorldM Unit := do
  modify fun w => { w with choreResult := none }
  let f ← modifyGet fun w =>
    (w.fibers.size, { w with fibers := w.fibers.push (some (.chore c)), resumes := w.resumes.push {} })
  runFiber f stepBudget {}

/-- Runs a blocking request of the session: its first step runs at once, then the world runs
until the request has its result and everything ready has run. -/
def perform (c : Chore) : WorldM (Option ChoreResult) := do
  begin c
  finish roundBudget
  return (← get).choreResult

end World

end JobEngine
