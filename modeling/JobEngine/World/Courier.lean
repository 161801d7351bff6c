import JobEngine.World.Core
import JobEngine.Net.Url

/-!
# The in-memory delivery queue

Webhook deliveries can go to a bounded queue that a pool of workers, the **couriers**, drains.
Handing a delivery to a full queue drops it at once, so that a job never waits for its
callbacks.

A courier takes the oldest delivery and asks the circuit breaker of its destination host
whether it may send. If the breaker refuses, the delivery is **parked**: it waits one breaker
cooldown and then goes back on the queue, unless it was parked too often already, in which
case it is dropped. Otherwise the courier makes a first attempt and up to the configured number
of retries, waiting the exponential backoff delay before each retry, all within 30 seconds;
the outcome is recorded with the breaker.

Every destination here is unreachable: a queue is only set up with callback URLs that are not
`http` or `https` with a host, so every attempt fails at once and only the waits take time.

Closing the queue refuses new deliveries and tells the workers and the parked deliveries to
stop: workers first send what is still queued, parked deliveries are abandoned. The close
waits until all of them stopped, or until its own deadline.

## Main Definitions

* `World.openQueue` — a new delivery queue with its workers.
* `Courier.step` — one step of a worker.
* `World.parkedStep` — one step of a parked delivery.
* `World.closerStep` — one step of the fiber that sees every worker and parked delivery stop.
* `World.queueStats` — the queue's counters.

## Design Notes

The number of open breakers counts the breakers whose recorded state is open. A breaker
only notices that its cooldown passed when it is next asked, so it counts as open until then.
-/

namespace JobEngine

namespace World

/-- The delivery queue, when the outlet is one. -/
def queue? (w : World) : Option DeliveryQueue :=
  match w.outlet with
  | .queue q => some q
  | _ => none

/-- Changes the delivery queue. -/
def modifyQueue (f : DeliveryQueue → DeliveryQueue) : WorldM Unit :=
  modify fun w => match w.outlet with
    | .queue q => { w with outlet := .queue (f q) }
    | _ => w

/-- The key of a destination's breaker: the URL's host, or the whole URL when it has none or
does not parse. -/
def hostKey (url : String) : String :=
  match Url.parse url with
  | .ok u => if u.host.isEmpty then url else Url.textOf u.host
  | .error _ => url

/-- How long the attempts at one delivery may take in all. -/
def sendWindow : Int := 30 * Duration.nanosPerSecond

/-- A new delivery queue with its channel, shutdown signal and counters, and `workers`
couriers started. -/
def openQueue (settings : DeliverySettings) : WorldM Unit := do
  let settings := settings.withDefaults
  let queue ← newChannel settings.bufferSize.toNat
  let shutdown ← newSignal
  let workers ← newCounter settings.workers.toNat
  let parked ← newCounter 0
  let breakers : BreakerRegistry :=
    { settings := { threshold := settings.breakerThreshold, cooldown := settings.breakerCooldown } }
  modify fun w => { w with outlet := .queue { settings, queue, shutdown, workers, parked, breakers } }
  for _ in List.range settings.workers.toNat do
    let _ ← spawn (.courier {})

/-- Asks the breaker of a host whether a delivery may go now. -/
def breakerAllows (host : String) : WorldM Bool := do
  let w ← get
  let some q := queue? w | return false
  let (b, reg) := q.breakers.get host
  let (ok, b) := b.allow w.now
  modifyQueue fun q => { q with breakers := reg.put host b }
  return ok

/-- Records a failed delivery: with its host's breaker, in the counters and as a metric. -/
def recordFailedDelivery (host : String) : WorldM Unit := do
  let w ← get
  let some q := queue? w | return
  let (b, reg) := q.breakers.get host
  modifyQueue fun q => { q with breakers := reg.put host (b.recordFailure w.now),
                                failed := q.failed + 1 }
  emit "dispatcher_failed"

/-- Parks a delivery behind an open breaker for one cooldown, or drops it when it was parked
as often as allowed. -/
def parkDelivery (d : Delivery) : WorldM Unit := do
  let some q := queue? (← get) | return
  if (d.requeues : Int) ≥ q.settings.maxRequeues then dropDelivery
  else
    modifyQueue fun q => { q with requeued := q.requeued + 1 }
    emit "dispatcher_requeued"
    countUp q.parked
    let due := (← get).now + q.settings.breakerCooldown
    let _ ← spawn (.parked { d with requeues := d.requeues + 1 } due false)

/-- One step of a parked delivery: it waits for its due time or for shutdown; when due, it
goes back on the queue, or is dropped if the queue is full. -/
def parkedStep (d : Delivery) (due : Int) (waiting : Bool) (r : Resume) : WorldM Next := do
  let some q := queue? (← get) | return .exit
  if !waiting then return .wait (.parked d due true) [.signal q.shutdown, .alarm due]
  if r.choice == 1 then
    if !(← send q.queue (.delivery d)) then dropDelivery
  countDown q.parked
  return .exit

/-- One step of the closer: it waits until no worker runs, then until no delivery is parked,
then raises `done`. -/
def closerStep (phase done : Nat) : WorldM Next := do
  let some q := queue? (← get) | return .exit
  match phase with
  | 0 => return .wait (.closer 1 done) [.drained q.workers]
  | 1 => return .wait (.closer 2 done) [.drained q.parked]
  | _ =>
    raise done
    return .exit

/-- The queue's counters as a session shows them. -/
def queueStats (w : World) (q : DeliveryQueue) : Value :=
  .obj [("breakers_open", .int q.breakers.census.opened), ("delivered", .int q.delivered),
    ("dropped", .int q.dropped), ("failed", .int q.failed), ("queue_depth", .int (w.depth q.queue)),
    ("queued", .int q.queued), ("requeued", .int q.requeued), ("retries_total", .int q.retries)]

end World

namespace Courier

open World

/-- The waits of an idle courier: a delivery, or shutdown. -/
def idle (q : DeliveryQueue) : List Wait := [.inbox q.queue, .signal q.shutdown]

mutual

/-- Goes on after a delivery: an idle courier waits for the next one, a draining one takes
the next queued delivery or stops when the queue is empty. -/
def next (c : Courier) (fuel : Nat) : WorldM Next := do
  let some q := queue? (← get) | return .exit
  if !c.draining then return .wait (.courier { c with sending := none }) (idle q)
  match fuel with
  | 0 => return .exit
  | fuel + 1 =>
    match ← receive? q.queue with
    | some (.delivery d) => deliver c d fuel
    | _ =>
      countDown q.workers
      return .exit
termination_by 3 * fuel

/-- Takes a delivery: parks it when its breaker refuses, otherwise makes the first attempt,
which fails, and goes on to the retries. -/
def deliver (c : Courier) (d : Delivery) (fuel : Nat) : WorldM Next := do
  if !(← breakerAllows (hostKey d.url)) then
    parkDelivery d
    next c fuel
  else
    let scope ← newScope 0 (some sendWindow)
    retry c d scope 1 fuel
termination_by 3 * fuel + 2

/-- Before retry number `attempt`: when no retry is left the delivery failed; otherwise the
courier counts the retry and waits its backoff delay, or for the attempts' deadline. -/
def retry (c : Courier) (d : Delivery) (scope attempt : Nat) (fuel : Nat) : WorldM Next := do
  let some q := queue? (← get) | return .exit
  if (attempt : Int) > max q.settings.maxRetries 0 then
    endScope scope .canceled
    recordFailedDelivery (hostKey d.url)
    next c fuel
  else
    modifyQueue fun q => { q with retries := q.retries + 1 }
    let delay := exponential attempt (some { initial := q.settings.retryInitial })
    return .wait (.courier { c with sending := some (d, scope, attempt) })
      [.scope scope, .alarm ((← get).now + delay)]
termination_by 3 * fuel + 1

end

/-- One step of a courier. Woken during a delivery's retries, it makes the retry, which
fails, or, when the attempts' deadline passed, records the failure. Otherwise it takes the
delivery it received, or starts draining at shutdown. -/
def step (c : Courier) (r : Resume) : WorldM Next := do
  let w ← get
  let some q := queue? w | return .exit
  let fuel := w.depth q.queue + 1
  match c.sending with
  | some (d, scope, attempt) =>
    let c := { c with sending := none }
    if r.choice == 0 then
      endScope scope .canceled
      recordFailedDelivery (hostKey d.url)
      next c fuel
    else retry c d scope (attempt + 1) fuel
  | none =>
    if c.draining then next c fuel
    else match r.message with
      | some (.delivery d) => deliver c d fuel
      | _ => if r.choice == 1 then next { c with draining := true } fuel else next c fuel

end Courier

end JobEngine
