import JobEngine.World.Basic
import JobEngine.Decimal.Layout

/-!
# Changing the world

The operations every part of the world is built from: starting fibers and waking them,
ending scopes, setting alarms, passing messages, handing out semaphore permits, and changing
jobs, which tells the job's keeper.

## Main Definitions

* `World.spawn`, `World.wake` — a new fiber, and a waiting fiber made ready.
* `World.endScope` — ends a scope and everything below it, waking their watchers.
* `World.send`, `World.receive?` — channels.
* `World.change` — applies a transition to a job and runs its keeper's hooks.
* `World.notify`, `World.dispatch` — lifecycle events and webhook deliveries.

## Design Notes

**Order of wakeups.** A fiber made ready goes to the front slot of the run queue. When one
change wakes several fibers at once (a scope ending, a job finishing, a signal), they are made
ready from the most recent waiter back to the oldest, so that the oldest runs first and the
others follow from the most recent on. A message goes to the oldest fiber waiting for it.

**Hooks.** When a job of a venue changes, the venue's table takes the new record and the
job's callback is told; when it finishes, watchers of its end are woken first, then those of
its completion future, and then its scope is cancelled, its callback told and its metrics
recorded. A change of a remote job's local copy is passed on to the job it follows.
-/

namespace JobEngine

/-- The result of an echo: an object input itself, anything else under `message`. -/
def echoOutput (input : Value) : Value :=
  match input with
  | .obj _ => input
  | _ => .obj [("message", input)]

/-- The text of a duration in seconds, as metric lines write it. -/
def secondsText (ns : Int) : String := Decimal.Layout.general.render (Duration.seconds ns)

namespace World

/-- The clock in Unix milliseconds. -/
def millis (w : World) : Int := w.now / Duration.nanosPerMilli

/-- Records a metric line. -/
def emit (line : String) : WorldM Unit := modify fun w => { w with metrics := w.metrics ++ [line] }

/-- Changes a job cell. -/
def modifyCell (c : Nat) (f : JobCell → JobCell) : WorldM Unit :=
  modify fun w => { w with cells := w.cells.modify c f }

/-- Changes a venue. -/
def modifyVenue (v : Nat) (f : Venue → Venue) : WorldM Unit :=
  modify fun w => { w with venues := w.venues.modify v f }

/-- Changes a remote link. -/
def modifyLink (l : Nat) (f : RemoteLink → RemoteLink) : WorldM Unit :=
  modify fun w => { w with links := w.links.modify l f }

/-- Changes a semaphore. -/
def modifySem (s : Nat) (f : Semaphore → Semaphore) : WorldM Unit :=
  modify fun w => { w with sems := w.sems.modify s f }

/-- The job of a cell. -/
def job? (w : World) (c : Nat) : Option Job := (w.cells[c]?).map (·.job)

/-- The record of a cell's job; the empty record for an unknown cell. -/
def recordOf (w : World) (c : Nat) : Record := ((w.job? c).map (·.record)).getD {}

/-- Whether a cell's job finished. -/
def isFinished (w : World) (c : Nat) : Bool := (w.recordOf c).isFinished

/-- A new job cell. -/
def newCell (x : JobCell) : WorldM Nat :=
  modifyGet fun w => (w.cells.size, { w with cells := w.cells.push x })

/-- A new channel holding up to `capacity` messages. -/
def newChannel (capacity : Nat) : WorldM Nat :=
  modifyGet fun w => (w.channels.size, { w with channels := w.channels.push { capacity } })

/-- A new signal, not raised. -/
def newSignal : WorldM Nat :=
  modifyGet fun w => (w.signals.size, { w with signals := w.signals.push false })

/-- A new counter. -/
def newCounter (n : Nat) : WorldM Nat :=
  modifyGet fun w => (w.counters.size, { w with counters := w.counters.push n })

/-- A new semaphore with `size` permits. -/
def newSem (size : Nat) : WorldM Nat :=
  modifyGet fun w => (w.sems.size, { w with sems := w.sems.push { size } })

/-- Starts a fiber: it is made ready and runs next. -/
def spawn (f : Fiber) : WorldM Nat :=
  modifyGet fun w =>
    let i := w.fibers.size
    (i, { w with fibers := w.fibers.push (some f), resumes := w.resumes.push {},
                 queue := w.queue.ready i })

/-- Makes a waiting fiber ready, telling it which wait fired. Its other waits and alarms
are dropped. -/
def wake (f : Nat) (r : Resume) : WorldM Unit :=
  modify fun w =>
    { w with blocked := w.blocked.filter (·.fiber != f),
             alarms := w.alarms.filter (·.fiber != some f),
             resumes := w.resumes.set! f r,
             queue := w.queue.ready f }

/-- The waiting fibers with a wait satisfying `p`, oldest first, each with the position of
its first such wait. -/
def waiters (p : Wait → Bool) (w : World) : List (Nat × Nat) :=
  w.blocked.filterMap fun b => (b.waits.findIdx? p).map (b.fiber, ·)

/-- Wakes every fiber with a wait satisfying `p`, the most recent waiter first. -/
def wakeEvery (p : Wait → Bool) : WorldM Unit := do
  for (f, k) in (waiters p (← get)).reverse do
    wake f { choice := k }

/-- Wakes every fiber with a wait satisfying `p`, the oldest waiter first. -/
def wakeInOrder (p : Wait → Bool) : WorldM Unit := do
  for (f, k) in waiters p (← get) do
    wake f { choice := k }

/-- Sets an alarm. -/
def addAlarm (due : Int) (fiber : Option Nat) (choice : Nat) (scope : Option Nat) : WorldM Unit :=
  modify fun w => { w with alarms := w.alarms ++ [{ due, seq := w.seq, fiber, choice, scope }],
                           seq := w.seq + 1 }

/-- Creates a scope under `parent`, ending after `timeout` nanoseconds if one is given. -/
def newScope (parent : Nat) (timeout : Option Int) : WorldM Nat := do
  let w ← get
  let deadline := timeout.map (w.now + ·)
  let (i, needsAlarm, scopes) := w.scopes.create parent deadline w.now
  set { w with scopes }
  match needsAlarm, deadline with
  | true, some d => addAlarm d none 0 (some i)
  | _, _ => pure ()
  return i

/-- Ends a scope and every running scope below it; the alarms of their deadlines are dropped
and their watchers woken, parent scope first. -/
def endScope (s : Nat) (e : Ending) : WorldM Unit := do
  let w ← get
  let (ended, scopes) := w.scopes.cancel s e
  set { w with scopes, alarms := w.alarms.filter fun a => !(a.scope.any ended.contains) }
  for i in ended do
    wakeEvery (· == .scope i)

/-- Why a scope ended, if it did. -/
def ending? (w : World) (s : Nat) : Option Ending := w.scopes.ending? s

/-- Sends a message: the oldest fiber waiting on the channel receives it, else it is
buffered. Returns false, changing nothing, when the buffer is full. -/
def send (ch : Nat) (m : Message) : WorldM Bool := do
  let w ← get
  match (waiters (· == .inbox ch) w).head? with
  | some (f, k) =>
    wake f { choice := k, message := some m }
    return true
  | none =>
    match w.channels[ch]? with
    | some c =>
      if c.buffer.length < c.capacity then
        set { w with channels := w.channels.set! ch { c with buffer := c.buffer ++ [m] } }
        return true
      else return false
    | none => return false

/-- Takes the oldest buffered message of a channel, if any. -/
def receive? (ch : Nat) : WorldM (Option Message) :=
  modifyGet fun w =>
    match w.channels[ch]? with
    | some c =>
      match c.buffer with
      | m :: rest => (some m, { w with channels := w.channels.set! ch { c with buffer := rest } })
      | [] => (none, w)
    | none => (none, w)

/-- The number of buffered messages of a channel. -/
def depth (w : World) (ch : Nat) : Nat := ((w.channels[ch]?).map (·.buffer.length)).getD 0

/-- Raises a signal, waking its watchers. -/
def raise (g : Nat) : WorldM Unit := do
  modify fun w => { w with signals := w.signals.set! g true }
  wakeEvery (· == .signal g)

/-- Whether a signal is raised. -/
def isRaised (w : World) (g : Nat) : Bool := w.signals[g]?.getD false

/-- Counts a counter down; at zero its watchers are woken, oldest first. -/
def countDown (g : Nat) : WorldM Unit := do
  modify fun w => { w with counters := w.counters.modify g (· - 1) }
  if ((← get).counters[g]?.getD 0) == 0 then wakeInOrder (· == .drained g)

/-- Counts a counter up. -/
def countUp (g : Nat) : WorldM Unit :=
  modify fun w => { w with counters := w.counters.modify g (· + 1) }

/-- Hands free permits to waiting tickets in their order; each holder is woken. -/
def grantWaiting (s : Nat) : Nat → WorldM Unit
  | 0 => pure ()
  | fuel + 1 => do
    let w ← get
    match w.sems[s]? with
    | some x =>
      match x.waiting with
      | t :: rest =>
        if x.used < x.size then
          modifySem s fun x => { x with used := x.used + 1, waiting := rest,
                                        granted := x.granted ++ [t] }
          match (waiters (· == .permit s t) (← get)).head? with
          | some (f, k) => wake f { choice := k }
          | none => pure ()
          grantWaiting s fuel
      | [] => pure ()
    | none => pure ()

/-- Returns a permit and hands free permits to waiters. -/
def release (s : Nat) : WorldM Unit := do
  modifySem s fun x => { x with used := x.used - 1 }
  grantWaiting s (((← get).sems[s]?.map (·.waiting.length)).getD 0)

/-- Takes a permit when one is free and nobody waits. -/
def tryAcquire (s : Nat) : WorldM Bool := do
  match (← get).sems[s]? with
  | some x =>
    if x.used < x.size && x.waiting.isEmpty then
      modifySem s fun x => { x with used := x.used + 1 }
      return true
    else return false
  | none => return false

/-- Joins the line of a semaphore; returns the ticket. -/
def enqueueTicket (s : Nat) : WorldM Nat := do
  let t := (((← get).sems[s]?).map (·.nextTicket)).getD 0
  modifySem s fun x => { x with waiting := x.waiting ++ [t], nextTicket := t + 1 }
  return t

/-- Gives up a ticket whose holder's scope ended: a permit already granted to it is
returned, and otherwise the ticket leaves the line. -/
def abandonTicket (s t : Nat) : WorldM Unit := do
  match (← get).sems[s]? with
  | some x =>
    if x.granted.contains t then
      modifySem s fun x => { x with granted := x.granted.erase t }
      release s
    else
      let front := x.waiting.head? == some t
      modifySem s fun x => { x with waiting := x.waiting.erase t }
      if front && x.used < x.size then
        grantWaiting s x.waiting.length
  | none => pure ()

/-- Takes a granted permit into use. -/
def claimTicket (s t : Nat) : WorldM Unit :=
  modifySem s fun x => { x with granted := x.granted.erase t }

/-- Stores a record in a venue's table, unless the entry is gone or already terminal. -/
def tableUpdate (v : Nat) (r : Record) : WorldM Unit :=
  modifyVenue v fun x =>
    { x with table := x.table.map fun e =>
        if e.id == r.id && !e.record.isFinished then { e with record := r } else e }

/-- Records a webhook delivery that was refused for a full buffer. -/
def dropDelivery : WorldM Unit := do
  modify fun w => match w.outlet with
    | .queue q => { w with outlet := .queue { q with dropped := q.dropped + 1 } }
    | _ => w
  emit "dispatcher_dropped"

/-- Hands a delivery to the outlet. A closed queue refuses it; a full one drops it. -/
def dispatch (d : Delivery) : WorldM (Option Fault) := do
  match (← get).outlet with
  | .none => return none
  | .recording refusing =>
    if refusing then return some (.plain "delivery refused")
    modify fun w => { w with recorded := w.recorded ++ [d] }
    return none
  | .queue q =>
    if q.closed then return some .dispatcherClosed
    if ← send q.queue (.delivery d) then
      modify fun w => match w.outlet with
        | .queue q => { w with outlet := .queue { q with queued := q.queued + 1 } }
        | _ => w
      return none
    else
      dropDelivery
      return some .bufferFull

/-- Tells a job's callback about a record, when its filter wants the record's event type. -/
def notify (c : Nat) (r : Record) : WorldM Unit := do
  let w ← get
  match w.cells[c]? with
  | some ⟨_, .venue v a s (some n)⟩ =>
    if eventWanted r.eventType n.events then
      let (event, numbering) := n.numbering.forRecord r w.now
      modifyCell c fun x => { x with keeper := .venue v a s (some { n with numbering }) }
      let _ ← dispatch { event, url := n.url, key := n.key }
  | _ => pure ()

/-- Records the finish of a job in the metrics of a metered venue. -/
def recordFinished (v : Nat) (adapter : String) (r : Record) : WorldM Unit := do
  if ((← get).venues[v]?.map (·.metered)).getD false then
    let failure := r.status.isFailure || r.status == .timeout
    emit ("job_finished adapter=" ++ adapter ++ " status=" ++ r.status.text ++ " failure=" ++
      toString failure ++ " seconds=" ++ secondsText ((r.updated - r.created) * Duration.nanosPerMilli))

/-- Applies a transition to a job and runs the hooks of its keeper, except passing the
change on for a follower. Returns the keeper and the hook when the transition was taken. -/
def changeHere (c : Nat) (t : Job → Option (Job × Hook)) : WorldM (Option (Keeper × Hook)) := do
  let w ← get
  match w.cells[c]? with
  | none => return none
  | some cell =>
    match t cell.job with
    | none => return none
    | some (j, h) =>
      modifyCell c fun x => { x with job := j }
      match h with
      | .finish _ =>
        wakeEvery (· == .finished c)
        if j.futureAttached then wakeEvery (· == .settled c)
      | .update _ => pure ()
      match cell.keeper, h with
      | .venue v _ _ _, .update r =>
        tableUpdate v r
        notify c r
      | .venue v a s _, .finish r =>
        tableUpdate v r
        endScope s .canceled
        notify c r
        recordFinished v a r
      | _, _ => pure ()
      return some (cell.keeper, h)

/-- Applies a transition to a job and runs its keeper's hooks; a follower passes every change
other than to `PENDING` on to the job it follows, as status, output and error. Returns
whether the transition was taken. -/
def change (c : Nat) (t : Job → Option (Job × Hook)) : WorldM Bool := do
  match ← changeHere c t with
  | none => return false
  | some (.follower target, h) =>
    let r := h.record
    if r.status != .pending then
      let ms := (← get).millis
      let _ ← changeHere target fun j =>
        j.apply ms { status := r.status, output := r.output, error := r.error }
    return true
  | some _ => return true

/-- Replaces a job's record by `r` (see `Job.apply`). -/
def updateJob (c : Nat) (r : Record) : WorldM Bool := do
  let ms := (← get).millis
  change c (·.apply ms r)

/-- Moves a job to a non-terminal status. -/
def setStatus (c : Nat) (s : Status) : WorldM Bool := do
  let ms := (← get).millis
  change c (·.setStatus ms s)

/-- Fails a job. -/
def failJob (c : Nat) (message : String) : WorldM Bool := do
  let ms := (← get).millis
  change c (·.fail ms message)

/-- Completes a job; completing a finished job does nothing. -/
def completeJob (c : Nat) (output : Value) : WorldM Bool := do
  let ms := (← get).millis
  change c fun j => (j.complete ms output).toOption

/-- Cancels a job. -/
def cancelJob (c : Nat) : WorldM Bool := do
  let ms := (← get).millis
  change c (·.cancel ms)

/-- Attaches a completion future to a job unless it has one. -/
def attachFuture (c : Nat) : WorldM Unit :=
  modifyCell c fun x => { x with job := { x.job with futureAttached := true } }

/-- What awaiting a finished job gives: its output, or why it did not complete. -/
def outcomeOf (w : World) (c : Nat) : Except Fault Value := (w.recordOf c).outcome

/-- The error of a followed job that finished: none when it completed, else what awaiting it
gives. -/
def finalError (c : Nat) : WorldM (Option Fault) := do
  let w ← get
  if (w.recordOf c).status == .complete then return none
  attachFuture c
  match outcomeOf w c with
  | .ok _ => return none
  | .error f => return some f

end World

end JobEngine
