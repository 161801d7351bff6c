import JobEngine.World.Remote
import JobEngine.World.Courier

/-!
# The session's own waits

Some requests of a session block the caller: sleeping, awaiting a job, closing a venue. The
caller is then a fiber like any other, and its result is kept in the world when it ends.

Closing a venue refuses new work at once, then checks every 50 ms whether any job is still
running; when none is, or when the caller's deadline passes first (after cancelling the
running jobs), the venue's scope ends and the close returns.

## Main Definitions

* `closeTick` — how often a closing venue checks for running jobs.
* `World.closeVenue` — a close that can answer at once.
* `Chore.step` — one step of the session's blocking request.
-/

namespace JobEngine

/-- How often a closing venue checks for running jobs: 50 ms. -/
def closeTick : Int := 50 * Duration.nanosPerMilli

namespace World

/-- Ends a close: the venue's scope ends, and the close answers. -/
def finishClose (v : Nat) (error : Option Fault) : WorldM Next := do
  match (← get).venue? v with
  | some x => endScope x.base .canceled
  | none => pure ()
  modify fun w => { w with choreResult := some (.closed error) }
  return .exit

/-- One check of a closing venue: done when no job runs, else wait for the next tick or the
deadline. -/
def closeCheck (v scope : Nat) (tick : Int) : WorldM Next := do
  let running := (((← get).venue? v).map (·.running)).getD []
  if running.isEmpty then finishClose v none
  else return .wait (.chore (.close v scope tick true)) [.scope scope, .alarm tick]

end World

namespace Chore

open World

/-- Ends the session's request with a result. -/
def answer (r : ChoreResult) : WorldM Next := do
  modify fun w => { w with choreResult := some r }
  return .exit

/-- One step of the session's blocking request. -/
def step (c : Chore) (r : Resume) : WorldM Next := do
  match c with
  | .sleep due waiting =>
    if waiting then answer .slept
    else return .wait (.chore (.sleep due true)) [.alarm due]
  | .await cell scope waiting =>
    if !waiting then
      attachFuture cell
      return .wait (.chore (.await cell scope true)) [.settled cell, .scope scope]
    else
      let w ← get
      if r.choice == 0 then answer (.awaited (outcomeOf w cell))
      else answer (.awaited (.error ((w.ending? scope).getD .canceled).fault))
  | .close v scope tick waiting =>
    if !waiting then closeCheck v scope tick
    else if r.choice == 0 then
      let running := (((← get).venue? v).map (·.running)).getD []
      let sorted := running.mergeSort fun a b => decide (a.id ≤ b.id)
      for e in sorted do
        let _ ← cancelJob e.cell
      let e := ((← get).ending? scope).getD .canceled
      finishClose v (some e.fault)
    else closeCheck v scope (tick + closeTick)
  | .track t =>
    trackOn (← t.round r)
  | .invoke l scope ref input none =>
    match ← submitRemote l ref input with
    | .error f => answer (.invoked (.error f))
    | .ok rec =>
      let copy ← newCopy rec .none
      let delays ← pollDelays l
      let t : Tracking := { link := l, copy, scope, delays }
      invokeOn l scope ref input copy (← t.advance)
  | .invoke l scope ref input (some t) => invokeOn l scope ref input t.copy (← t.resume r)
  | .closeQueue scope none =>
    match queue? (← get) with
    | some q =>
      if q.closed then answer (.closed none)
      else
        modifyQueue fun q => { q with closed := true }
        raise q.shutdown
        let done ← newSignal
        let _ ← spawn (.closer 0 done)
        return .wait (.chore (.closeQueue scope (some done))) [.signal done, .scope scope]
    | none => answer (.closed none)
  | .closeQueue scope (some _) =>
    if r.choice == 0 then answer (.closed none)
    else answer (.closed (some (((← get).ending? scope).getD .canceled).fault))
where
  /-- Goes on with the session's following of a copy. -/
  trackOn : TrackStep → WorldM Next
    | .sleep t due => return .wait (.chore (.track t)) (t.waits due)
    | .done e => answer (.tracked e)
  /-- Goes on with the session's remote invocation. -/
  invokeOn (l scope : Nat) (ref : String) (input : Value) (copy : Nat) :
      TrackStep → WorldM Next
    | .sleep t due => return .wait (.chore (.invoke l scope ref input (some t))) (t.waits due)
    | .done (some f) => answer (.invoked (.error f))
    | .done none => do answer (.invoked ((← get).recordOf copy).outcome)

end Chore

end JobEngine
