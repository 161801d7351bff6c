import JobEngine.Proofs.Dispatch.Steps

/-!
# The steps of the workers and of the parked deliveries

A worker's step is a chain of small operations: it takes a delivery from the queue, asks the
delivery's breaker, parks the delivery or starts its attempts, records a failure, waits for a
retry. Each operation keeps the invariant with the worker running and the worker counted among
the workers, `World.Working`, and changes no signal, `World.Continues`; the worker's step is
assembled from these, by induction on the fuel that bounds a draining worker.

## Main Statements

* `World.courierStep_stepped` — a worker's step leaves what a step must.
* `World.parkedStep_stepped` — a parked delivery's step leaves what a step must.
-/

namespace JobEngine

namespace World

open Std.Do

/-- Worker `f` runs: the invariant holds with it running, and it is counted among the
workers. -/
structure Working (q₀ : DeliveryQueue) (f : Nat) (w : World) : Prop where
  sound : w.Sound q₀ (some f)
  courier : ∃ c, w.fiberAt f = some (.courier c)
  counted : w.census (some f) Fiber.isCourier + 1 ≤ w.counter q₀.workers

section Working

variable {q₀ : DeliveryQueue} {f : Nat} {w w' : World}

/-- A change that keeps the invariant, the worker's fiber, the number of other workers and the
worker counter keeps a worker working. -/
theorem Working.of_kept (working : Working q₀ f w) (sound : w'.Sound q₀ (some f))
    (alive : w'.fiberAt f = w.fiberAt f)
    (census : w'.census (some f) Fiber.isCourier = w.census (some f) Fiber.isCourier)
    (counter : w'.counter q₀.workers = w.counter q₀.workers) : Working q₀ f w' where
  sound := sound
  courier := by rw [alive]; exact working.courier
  counted := by rw [census, counter]; exact working.counted

/-- An operation that keeps the invariant, the fibers and the counters keeps a worker
working. -/
theorem Working.of_fibers (working : Working q₀ f w) (sound : w'.Sound q₀ (some f))
    (fibers : w'.fibers = w.fibers) (counters : w'.counters = w.counters) : Working q₀ f w' := by
  have fiberAt_eq : w'.fiberAt = w.fiberAt := by
    funext g
    simp [fiberAt, fibers]
  have census_eq : w'.census (some f) Fiber.isCourier = w.census (some f) Fiber.isCourier := by
    simp only [census, othersSum, fibers, fiberAt_eq]
  exact working.of_kept sound (congrFun fiberAt_eq f) census_eq (by simp [counter, counters])

/-- No done signal is raised while a worker runs: a raised one means the queue drained, and no
worker is left then. -/
theorem Working.quiet (working : Working q₀ f w) (g : Nat) (x : Fiber) (e : Nat)
    (alive : w.fiberAt g = some x) (signal : x.doneSignal = some e) : w.isRaised e = false := by
  by_contra raised
  obtain ⟨c, here⟩ := working.courier
  have := ((working.sound.done g x e alive signal (by simpa using raised)).2 f _ here).1
  simp [Fiber.isCourier] at this

end Working


/-- A run of a world computation, read as its result and the world it leaves. -/
theorem run_bind {α β : Type} (x : WorldM α) (g : α → WorldM β) (w : World) :
    (x >>= g).run w = (g (x.run w).run.1).run (x.run w).run.2 := rfl

section Queue

variable {q₀ : DeliveryQueue} {running : Option Nat} {w : World}

/-- Changing the queue's counters, but for the deliveries accepted, or its breakers keeps the
invariant. -/
theorem Sound.withQueue (sound : w.Sound q₀ running) {g : DeliveryQueue → DeliveryQueue}
    (keeps : ∀ q, (g q).Agrees q ∧ (g q).closed = q.closed) : (w.withQueue g).Sound q₀ running := by
  obtain ⟨q, found, -⟩ := sound.outlet
  rw [withQueue_eq q found]
  exact sound.reoutlet found (keeps q).1 (keeps q).2

theorem withQueue_fibers (g : DeliveryQueue → DeliveryQueue) : (w.withQueue g).fibers = w.fibers := by
  unfold withQueue
  split <;> rfl

theorem withQueue_counters (g : DeliveryQueue → DeliveryQueue) :
    (w.withQueue g).counters = w.counters := by
  unfold withQueue
  split <;> rfl

theorem emit_alike (w : World) (line : String) : Alike w ((emit line).run w).run.2 :=
  ⟨rfl, rfl, rfl, rfl, rfl, rfl, rfl, rfl, fun _ mem _ => mem⟩

/-- Opening a scope changes only the scopes and the alarms of no fiber. -/
theorem newScope_alike (w : World) (parent : Nat) (timeout : Option Int) :
    Alike w ((newScope parent timeout).run w).run.2 ∧
      ((newScope parent timeout).run w).run.2.channels = w.channels := by
  simp only [newScope, run_bind, StateT.run_get, Id.run_pure, StateT.run_set]
  split
  · refine ⟨⟨rfl, rfl, rfl, rfl, rfl, rfl, rfl, rfl, fun a mem some_ => ?_⟩, rfl⟩
    rcases List.mem_append.mp mem with old | new
    · exact old
    · rw [List.mem_singleton] at new
      subst new
      cases some_
  · exact ⟨⟨rfl, rfl, rfl, rfl, rfl, rfl, rfl, rfl, fun _ mem _ => mem⟩, rfl⟩

/-- An idle worker waits on the queue's channel and shutdown, which never change. -/
theorem idle_of_agrees {q q' : DeliveryQueue} (agrees : q.Agrees q') :
    Courier.idle q = Courier.idle q' := by
  simp [Courier.idle, agrees.queue, agrees.shutdown]

/-- The queue's settings as the invariant fixes them. -/
theorem Sound.settings (sound : w.Sound q₀ running) {q : DeliveryQueue} (found : queue? w = some q) :
    q.Agrees q₀ := by
  obtain ⟨q', found', agrees⟩ := sound.outlet
  rw [found] at found'
  cases found'
  exact agrees

theorem account_emitted (line : String) :
    ((emit line).run w).run.2.account running = w.account running :=
  (emit_alike w line).account rfl running

theorem account_scopeOpened (parent : Nat) (timeout : Option Int) :
    ((newScope parent timeout).run w).run.2.account running = w.account running :=
  (newScope_alike w parent timeout).1.account (newScope_alike w parent timeout).2 running

/-- Changing the queue's counters adds to the account what it adds to the deliveries
delivered, failed and dropped. -/
theorem account_withQueue (sound : w.Sound q₀ running) {g : DeliveryQueue → DeliveryQueue}
    (added : Nat) (channel : ∀ q, (g q).queue = q.queue)
    (counted : ∀ q, (g q).delivered + (g q).failed + (g q).dropped =
      q.delivered + q.failed + q.dropped + added) :
    (w.withQueue g).account running = w.account running + added := by
  obtain ⟨q, found, -⟩ := sound.outlet
  have moved : ({ w with outlet := .queue (g q) } : World).account running +
      (q.delivered + q.failed + q.dropped) =
      w.account running + ((g q).delivered + (g q).failed + (g q).dropped) :=
    account_reoutlet found (channel q)
  rw [withQueue_eq q found]
  rw [counted q] at moved
  omega

theorem account_breakerAsked (sound : w.Sound q₀ running) (host : String) :
    ((breakerAllows host).run w).run.2.account running = w.account running := by
  simp only [breakerAllows, run_bind, StateT.run_get, Id.run_pure]
  split
  · exact account_withQueue sound 0 (fun _ => rfl) fun _ => rfl
  · rfl

theorem account_failureRecorded (sound : w.Sound q₀ running) (host : String) :
    ((recordFailedDelivery host).run w).run.2.account running = w.account running + 1 := by
  obtain ⟨q, found, -⟩ := sound.outlet
  simp only [recordFailedDelivery, run_bind, StateT.run_get, Id.run_pure, found]
  rw [account_emitted]
  exact account_withQueue sound 1 (fun _ => rfl) fun _ => by dsimp only; omega

theorem account_dropped (sound : w.Sound q₀ running) :
    (dropDelivery.run w).run.2.account running = w.account running + 1 := by
  show ((emit "dispatcher_dropped").run
    (w.withQueue fun q => { q with dropped := q.dropped + 1 })).run.2.account running = _
  rw [account_emitted]
  exact account_withQueue sound 1 (fun _ => rfl) fun _ => by dsimp only; omega

theorem account_countDown {g : Nat} (sched : (w.recounted g (· - 1)).Scheduled running) :
    ((countDown g).run w).run.2.account running = w.account running :=
  (countDown_stirred sched).account sched

/-- Parking a delivery, or dropping it, adds it to the account: a parked delivery holds it. -/
theorem account_parkedDelivery (sound : w.Sound q₀ running) (busy : 1 ≤ w.counter q₀.workers)
    (d : Delivery) : ((parkDelivery d).run w).run.2.account running = w.account running + 1 := by
  obtain ⟨q, found, agrees⟩ := sound.outlet
  simp only [parkDelivery, run_bind, StateT.run_get, Id.run_pure, found]
  split
  · exact account_dropped sound
  · simp only [run_bind, modifyQueue_run, countUp_run, StateT.run_get, Id.run_pure, spawn_run,
      agrees.parked]
    have requeued := sound.withQueue (g := fun q => { q with requeued := q.requeued + 1 })
      fun _ => ⟨⟨rfl, rfl, rfl, rfl, rfl, rfl⟩, rfl⟩
    have emitted := (emit_alike _ "dispatcher_requeued").sound rfl requeued
    have counted := emitted.countedUp (by
      rw [(emit_alike _ _).counter, World.counter, withQueue_counters]
      exact busy)
    calc _ = _ := account_spawned counted
      _ = w.account running + 1 := by
        rw [recounted_account, account_emitted,
          account_withQueue sound 0 (g := fun q => { q with requeued := q.requeued + 1 })
            (fun _ => rfl) fun _ => rfl]
        rfl

end Queue


/-- Worker `f`, working in `w`, goes on working in `w'`, with no signal and not the session's
result changed. -/
structure Continues (q₀ : DeliveryQueue) (f : Nat) (w w' : World) : Prop where
  working : Working q₀ f w'
  signals : w'.signals = w.signals
  chore : w'.choreResult = w.choreResult
  openings : w'.census (some f) Fiber.opening = w.census (some f) Fiber.opening

theorem Continues.trans {q₀ : DeliveryQueue} {f : Nat} {w₁ w₂ w₃ : World}
    (first : Continues q₀ f w₁ w₂) (second : Continues q₀ f w₂ w₃) : Continues q₀ f w₁ w₃ :=
  ⟨second.working, second.signals.trans first.signals, second.chore.trans first.chore,
    second.openings.trans first.openings⟩

theorem Continues.isRaised {q₀ : DeliveryQueue} {f : Nat} {w w' : World}
    (continues : Continues q₀ f w w') : w'.isRaised = w.isRaised :=
  isRaised_eq_of_signals continues.signals

section Operations

variable {q₀ : DeliveryQueue} {f : Nat} {w : World}

/-- Changing the queue's counters, but for the deliveries accepted, or its breakers keeps a worker
working. -/
theorem Working.withQueue (working : Working q₀ f w) {g : DeliveryQueue → DeliveryQueue}
    (keeps : ∀ q, (g q).Agrees q ∧ (g q).closed = q.closed) : Continues q₀ f w (w.withQueue g) where
  working := working.of_fibers (working.sound.withQueue keeps) (withQueue_fibers g)
    (withQueue_counters g)
  signals := by
    unfold World.withQueue
    split <;> rfl
  chore := by
    unfold World.withQueue
    split <;> rfl
  openings := census_of_fibers (withQueue_fibers g) _ _

/-- An operation that changes nothing the invariant reads but the queue's buffer and alarms
of no fiber keeps a worker working. -/
theorem Working.alike (working : Working q₀ f w) {w' : World} (alike : Alike w w')
    (sound : w'.Sound q₀ (some f)) : Continues q₀ f w w' :=
  ⟨working.of_fibers sound alike.fibers alike.counters, alike.signals, alike.chore,
    alike.census _ _⟩

theorem Working.emitted (working : Working q₀ f w) (line : String) :
    Continues q₀ f w ((emit line).run w).run.2 :=
  working.alike (emit_alike w line) ((emit_alike w line).sound rfl working.sound)

theorem Continues.emitted {w₁ : World} (continues : Continues q₀ f w w₁) (line : String) :
    Continues q₀ f w ((emit line).run w₁).run.2 :=
  continues.trans (continues.working.emitted line)

/-- Asking a breaker changes only the breakers. -/
theorem Working.breakerAsked (working : Working q₀ f w) (host : String) :
    Continues q₀ f w ((breakerAllows host).run w).run.2 := by
  simp only [breakerAllows, run_bind, StateT.run_get, Id.run_pure]
  split
  · exact working.withQueue fun q => ⟨⟨rfl, rfl, rfl, rfl, rfl, rfl⟩, rfl⟩
  · exact ⟨working, rfl, rfl, rfl⟩

/-- Recording a failed delivery changes only the breakers, the counters and the metrics. -/
theorem Working.failureRecorded (working : Working q₀ f w) (host : String) :
    Continues q₀ f w ((recordFailedDelivery host).run w).run.2 := by
  simp only [recordFailedDelivery, run_bind, StateT.run_get, Id.run_pure]
  split
  · refine Continues.emitted ?_ _
    exact working.withQueue fun q => ⟨⟨rfl, rfl, rfl, rfl, rfl, rfl⟩, rfl⟩
  · exact ⟨working, rfl, rfl, rfl⟩

/-- Dropping a delivery changes only the counters and the metrics. -/
theorem Working.dropped (working : Working q₀ f w) : Continues q₀ f w (dropDelivery.run w).run.2 := by
  show Continues q₀ f w
    ((emit "dispatcher_dropped").run (w.withQueue fun q => { q with dropped := q.dropped + 1 })).run.2
  refine Continues.emitted ?_ _
  exact working.withQueue fun q => ⟨⟨rfl, rfl, rfl, rfl, rfl, rfl⟩, rfl⟩

/-- Counting a parked delivery and starting it, one parked no more often than allowed,
keeps a worker working: no done signal is raised while it works. -/
theorem Working.parkedSpawned (working : Working q₀ f w) {d : Delivery} (bounded : q₀.Bounded d)
    (due : Int) :
    Continues q₀ f w ((w.recounted q₀.parked (· + 1)).spawned (.parked d due false)) := by
  have sound := working.sound
  have counts := @counter_countedUp w q₀.parked sound.parkedSlot
  have counted : Working q₀ f (w.recounted q₀.parked (· + 1)) :=
    working.of_kept (sound.countedUp (Nat.le_of_add_left_le working.counted)) rfl rfl
      (by rw [counts, if_neg sound.apart])
  have inside : f < w.fibers.size := sound.scheduled.runningExists f rfl
  have spawned := counted.sound.spawned (x := .parked d due false) rfl bounded trivial
    (fun courier => nomatch courier) (fun _ => by
      rw [recounted_census, counts, if_pos rfl]
      exact Nat.succ_le_succ sound.parkedCounted)
    (fun e signal => nomatch signal)
    (fun g y e alive signal raised => by
      rw [counted.quiet g y e alive signal] at raised
      cases raised)
  refine ⟨counted.of_kept spawned ?_ ?_ rfl, rfl, rfl, ?_⟩
  · rw [fiberAt_spawned]
    exact if_neg (Nat.ne_of_lt inside)
  · rw [census_spawned counted.sound.scheduled]
    rfl
  · rw [census_spawned counted.sound.scheduled]
    rfl

/-- Parking a delivery, or dropping it when it was parked as often as allowed, keeps a worker
working. -/
theorem Working.parkedDelivery (working : Working q₀ f w) (d : Delivery) :
    Continues q₀ f w ((parkDelivery d).run w).run.2 := by
  obtain ⟨q, found, agrees⟩ := working.sound.outlet
  simp only [parkDelivery, run_bind, StateT.run_get, Id.run_pure, found]
  split
  · exact working.dropped
  · next often =>
    simp only [run_bind, modifyQueue_run, countUp_run, StateT.run_get, Id.run_pure, spawn_run,
      agrees.parked]
    have first := Continues.emitted (working.withQueue (g := fun q => { q with requeued := q.requeued + 1 })
      fun q => ⟨⟨rfl, rfl, rfl, rfl, rfl, rfl⟩, rfl⟩) "dispatcher_requeued"
    have bounded : q₀.Bounded { d with requeues := d.requeues + 1 } := by
      simp only [DeliveryQueue.Bounded, ← agrees.settings]
      push_cast
      omega
    exact first.trans (first.working.parkedSpawned bounded _)

/-- Opening a scope changes only the scopes and the alarms of no fiber. -/
theorem Working.scopeOpened (working : Working q₀ f w) (parent : Nat) (timeout : Option Int) :
    Continues q₀ f w ((newScope parent timeout).run w).run.2 :=
  have opened := newScope_alike w parent timeout
  working.alike opened.1 (opened.1.sound opened.2 working.sound)

theorem Working.scopeEnded (working : Working q₀ f w) (s : Nat) (e : Ending) :
    Continues q₀ f w ((endScope s e).run w).run.2 where
  working := working.of_fibers (working.sound.scopeEnded s e)
    (endScope_keeps working.sound.scheduled s e World.fibers (fun _ _ _ => rfl) rfl)
    (endScope_keeps working.sound.scheduled s e World.counters (fun _ _ _ => rfl) rfl)
  signals := endScope_keeps working.sound.scheduled s e World.signals (fun _ _ _ => rfl) rfl
  chore := endScope_keeps working.sound.scheduled s e World.choreResult (fun _ _ _ => rfl) rfl
  openings := endScope_keeps working.sound.scheduled s e (·.census (some f) Fiber.opening)
    (fun _ _ _ => rfl) rfl

theorem Working.received (working : Working q₀ f w) :
    Continues q₀ f w ((receive? q₀.queue).run w).run.2 :=
  working.alike (receive?_alike w q₀.queue) working.sound.received

/-- What a worker takes from the queue is a delivery parked no more often than allowed. -/
theorem Sound.receivedBounded {running : Option Nat} (sound : w.Sound q₀ running) {m : Message}
    (taken : ((receive? q₀.queue).run w).run.1 = some m) : ∃ d, m = .delivery d ∧ q₀.Bounded d := by
  rw [receive?_result] at taken
  exact sound.buffered m (List.mem_of_mem_head? taken)

/-- Counting a counter down, as `Sound.countedDown` allows, keeps the invariant and every
signal. -/
theorem Sound.countDown {running : Option Nat} (sound : w.Sound q₀ running) {g : Nat}
    (workers : g = q₀.workers → w.closedQueue = true ∧ w.depth q₀.queue = 0 ∧
      w.census running Fiber.isCourier + 1 ≤ w.counter q₀.workers)
    (parked : g = q₀.parked → w.census running Fiber.isParked + 1 ≤ w.counter q₀.parked) :
    ((countDown g).run w).run.2.Sound q₀ running ∧ ((countDown g).run w).run.2.signals = w.signals ∧
      ((countDown g).run w).run.2.choreResult = w.choreResult := by
  have sound' := sound.countedDown workers parked
  have stirred := countDown_stirred sound'.scheduled
  exact ⟨stirred.sound sound', stirred.keeps World.signals fun _ _ _ => rfl,
    stirred.keeps World.choreResult fun _ _ _ => rfl⟩

/-- A worker that finds the queue closed and empty counts itself out and stops. -/
theorem Working.countedOut (working : Working q₀ f w) (closed : w.closedQueue = true)
    (empty : w.depth q₀.queue = 0) :
    ((countDown q₀.workers).run w).run.2.Sound q₀ (some f) ∧
      ((countDown q₀.workers).run w).run.2.signals = w.signals ∧
      ((countDown q₀.workers).run w).run.2.choreResult = w.choreResult :=
  working.sound.countDown (fun _ => ⟨closed, empty, working.counted⟩)
    (fun same => absurd same working.sound.apart)

end Operations


/-- What a worker's step leaves, from `w`: what a step must, with no signal and not the
session's result changed, and the account, with what the worker holds once its step ends, at
`total`. -/
structure Leaves (q₀ : DeliveryQueue) (f : Nat) (w : World) (total : Nat) (p : Next × World) :
    Prop where
  stepped : Stepped q₀ f p.1 p.2
  signals : p.2.signals = w.signals
  chore : p.2.choreResult = w.choreResult
  tally : p.2.account (some f) + p.1.holding = total
  openings : p.2.census (some f) Fiber.opening = w.census (some f) Fiber.opening
  onward : ∀ y waits, p.1 = .wait y waits → y.opening = false ∧ y.isParked = false

/-- A worker that goes on as `c`: it is working, and drains only after shutdown. -/
structure Going (q₀ : DeliveryQueue) (f : Nat) (c : Courier) (w : World) : Prop where
  working : Working q₀ f w
  draining : c.draining = true → w.isRaised q₀.shutdown = true

section Courier

variable {q₀ : DeliveryQueue} {f : Nat} {w w₁ : World} {total : Nat}

theorem Continues.leaves {p : Next × World} (continues : Continues q₀ f w w₁)
    (leaves : Leaves q₀ f w₁ total p) : Leaves q₀ f w total p :=
  ⟨leaves.stepped, leaves.signals.trans continues.signals, leaves.chore.trans continues.chore,
    leaves.tally, leaves.openings.trans continues.openings, leaves.onward⟩

theorem Continues.going {c : Courier} (continues : Continues q₀ f w w₁) (going : Going q₀ f c w) :
    Going q₀ f c w₁ :=
  ⟨continues.working, by rw [continues.isRaised]; exact going.draining⟩

theorem Working.leavesExit (working : Working q₀ f w) :
    Leaves q₀ f w (w.account (some f)) (.exit, w) :=
  ⟨working.sound, rfl, rfl, rfl, rfl, fun _ _ exit => nomatch exit⟩

/-- A worker asking to wait as `c` on `waits` parks well when its state and waits fit, it
drains only after shutdown, and an idle worker goes on at its second wait only after
shutdown. -/
theorem Working.parks (working : Working q₀ f w) {c : Courier} {waits : List Wait}
    (fits : q₀.Fits (.courier c)) (fit : q₀.WaitsFit (.courier c) waits)
    (draining : c.draining = true → w.isRaised q₀.shutdown = true)
    (woken : c.sending = none → waits.findIdx? w.satisfied = some 1 →
      w.isRaised q₀.shutdown = true) :
    Leaves q₀ f w (w.account (some f) + ((Fiber.courier c).carried {}).length)
      (.wait (.courier c) waits, w) where
  stepped := by
    refine ⟨working.sound, ?_⟩
    exact
      { kind := rfl
        fits := fits
        waitsFit := fit
        kept := by
          obtain ⟨c', alive⟩ := working.courier
          exact ⟨_, alive, rfl, rfl⟩
        counted := fun _ => working.counted
        parkedCounted := fun parked => nomatch parked
        done := fun e signal => nomatch signal
        blocks := fun _ => ⟨draining, fun _ waiting => nomatch waiting⟩
        goesOn := fun k first _ => ⟨draining, fun idle _ one => woken idle (by subst one; exact first)⟩ }
  signals := rfl
  chore := rfl
  tally := rfl
  openings := rfl
  onward := fun _ _ same => by cases same; exact ⟨rfl, rfl⟩

/-- Before a retry: a worker out of retries records the failure and goes on; otherwise it
counts the retry and waits for its backoff, within the limit of retries. -/
theorem retry_leaves_of_next {fuel : Nat}
    (next_ok : ∀ c w, Going q₀ f c w →
      Leaves q₀ f w (w.account (some f)) ((Courier.next c fuel).run w).run)
    {c : Courier} {d : Delivery} {scope attempt : Nat} (going : Going q₀ f c w)
    (bounded : q₀.Bounded d) (first : 1 ≤ attempt) :
    Leaves q₀ f w (w.account (some f) + 1) ((Courier.retry c d scope attempt fuel).run w).run := by
  have working := going.working
  obtain ⟨q, found, agrees⟩ := working.sound.outlet
  rw [Courier.retry]
  simp only [run_bind, StateT.run_get, Id.run_pure, found]
  split
  · have ended := working.scopeEnded scope .canceled
    have recorded := ended.trans (ended.working.failureRecorded (hostKey d.url))
    have failed : ((recordFailedDelivery (hostKey d.url)).run
        ((endScope scope .canceled).run w).run.2).run.2.account (some f) = w.account (some f) + 1 := by
      rw [account_failureRecorded ended.working.sound, account_scopeEnded working.sound.scheduled]
    have after := next_ok _ _ (recorded.going going)
    rw [failed] at after
    exact recorded.leaves after
  · next within =>
    simp only [run_bind, modifyQueue_run, StateT.run_get, Id.run_pure, StateT.run_pure]
    have counted := working.withQueue (g := fun q => { q with retries := q.retries + 1 })
      fun q => ⟨⟨rfl, rfl, rfl, rfl, rfl, rfl⟩, rfl⟩
    have same : (w.withQueue fun q => { q with retries := q.retries + 1 }).account (some f) =
        w.account (some f) :=
      account_withQueue working.sound 0 (fun _ => rfl) fun _ => rfl
    refine counted.leaves ?_
    rw [← same]
    refine counted.working.parks (c := { c with sending := some (d, scope, attempt) }) ?_ ?_ ?_
      fun none_ => by cases none_
    · unfold DeliveryQueue.Fits
      refine ⟨fun none_ => (by cases none_), fun d' s k same => ?_⟩
      simp only [Option.some.injEq, Prod.mk.injEq] at same
      obtain ⟨rfl, rfl, rfl⟩ := same
      refine ⟨bounded, first, ?_⟩
      rw [DeliveryQueue.retryLimit, ← agrees.settings]
      omega
    · unfold DeliveryQueue.WaitsFit
      exact .inr ⟨d, scope, attempt, _, rfl, rfl⟩
    · rw [counted.isRaised]
      exact going.draining

/-- Taking a delivery: the worker parks it when its breaker refuses, else opens the scope of
its attempts and goes on to the first retry. -/
theorem deliver_leaves_of_next {fuel : Nat}
    (next_ok : ∀ c w, Going q₀ f c w →
      Leaves q₀ f w (w.account (some f)) ((Courier.next c fuel).run w).run)
    {c : Courier} {d : Delivery} (going : Going q₀ f c w) (bounded : q₀.Bounded d) :
    Leaves q₀ f w (w.account (some f) + 1) ((Courier.deliver c d fuel).run w).run := by
  have working := going.working
  have asked := working.breakerAsked (hostKey d.url)
  have askedSame := account_breakerAsked working.sound (hostKey d.url)
  rw [Courier.deliver]
  simp only [run_bind]
  split
  · have parked := asked.trans (asked.working.parkedDelivery d)
    have held : ((parkDelivery d).run ((breakerAllows (hostKey d.url)).run w).run.2).run.2.account
        (some f) = w.account (some f) + 1 := by
      rw [account_parkedDelivery asked.working.sound
        (Nat.le_of_add_left_le asked.working.counted) d, askedSame]
    have after := next_ok _ _ (parked.going going)
    rw [held] at after
    simp only [run_bind]
    exact parked.leaves after
  · have opened := asked.trans (asked.working.scopeOpened 0 (some sendWindow))
    have same : ((newScope 0 (some sendWindow)).run ((breakerAllows (hostKey d.url)).run w).run.2).run.2.account
        (some f) = w.account (some f) := by
      rw [account_scopeOpened, askedSame]
    simp only [run_bind]
    rw [← same]
    exact opened.leaves (retry_leaves_of_next next_ok (opened.going going) bounded le_rfl)

/-- An idle worker waits for a delivery or shutdown, and goes on at shutdown only once it is
raised. -/
theorem Working.idles (working : Working q₀ f w) {c : Courier} (idle : c.draining = false) :
    Leaves q₀ f w (w.account (some f)) (.wait (.courier { c with sending := none }) (Courier.idle q₀), w) := by
  refine working.parks (c := { c with sending := none }) ?_ (.inl ⟨rfl, rfl⟩)
    (fun draining => absurd draining (by simp [idle])) fun _ first => ?_
  · unfold DeliveryQueue.Fits
    exact ⟨fun _ => idle, fun _ _ _ sending => nomatch sending⟩
  · obtain ⟨_, hit, -⟩ := List.findIdx?_eq_some_iff_getElem.mp first
    simpa [Courier.idle, satisfied] using hit

/-- Going on after a delivery: an idle worker waits; a draining one takes the next delivery,
or, the queue closed and empty, counts itself out. -/
theorem next_leaves (fuel : Nat) :
    ∀ c w, Going q₀ f c w → Leaves q₀ f w (w.account (some f)) ((Courier.next c fuel).run w).run := by
  induction fuel with
  | zero =>
    intro c w going
    obtain ⟨q, found, agrees⟩ := going.working.sound.outlet
    rw [Courier.next]
    simp only [run_bind, StateT.run_get, Id.run_pure, found]
    split
    · next idle =>
      rw [idle_of_agrees agrees]
      exact going.working.idles (by simpa using idle)
    · exact going.working.leavesExit
  | succ fuel ih =>
    intro c w going
    have working := going.working
    obtain ⟨q, found, agrees⟩ := working.sound.outlet
    rw [Courier.next]
    simp only [run_bind, StateT.run_get, Id.run_pure, found]
    split
    · next idle =>
      rw [idle_of_agrees agrees]
      exact working.idles (by simpa using idle)
    · next draining =>
      simp only [run_bind, agrees.queue, agrees.workers]
      have received := working.received
      split
      · next d taken =>
        obtain ⟨d', same, bounded⟩ := working.sound.receivedBounded taken
        cases same
        have after := deliver_leaves_of_next ih (received.going going) bounded
        have moved := account_received working.sound
        rw [taken] at moved
        rw [show ((receive? q₀.queue).run w).run.2.account (some f) + 1 = w.account (some f)
          from moved] at after
        exact received.leaves after
      · next other =>
        -- nothing but deliveries is queued, so the queue was empty
        have empty : w.buffer q₀.queue = [] := by
          cases buffered : w.buffer q₀.queue with
          | nil => rfl
          | cons m rest =>
            obtain ⟨d, rfl, -⟩ := working.sound.buffered m (by simp [buffered])
            have := receive?_result w q₀.queue
            rw [buffered] at this
            exact absurd this (other d)
        have closed : ((receive? q₀.queue).run w).run.2.closedQueue = true := by
          rw [← received.working.sound.shut, received.isRaised]
          exact going.draining (by simpa using draining)
        have depth : ((receive? q₀.queue).run w).run.2.depth q₀.queue = 0 := by
          rw [depth_eq_length, receive?_buffer, empty]
          rfl
        have out := received.working.countedOut closed depth
        have moved := account_received working.sound
        rw [receive?_result, empty] at moved
        have sched := recounted_scheduled (g := q₀.workers) (f := (· - 1))
          received.working.sound.scheduled
        -- the run counted out and exits; said so, the fields check without running it again
        simp only [run_bind, StateT.run_pure, Id.run_pure]
        exact ⟨out.1, out.2.1.trans received.signals, out.2.2.trans received.chore,
          (account_countDown sched).trans moved,
          ((countDown_stirred sched).keeps (·.census (some f) Fiber.opening) fun _ _ _ => rfl).trans
            received.openings, fun _ _ exit => by cases exit⟩

theorem deliver_leaves (fuel : Nat) {c : Courier} {d : Delivery} (going : Going q₀ f c w)
    (bounded : q₀.Bounded d) :
    Leaves q₀ f w (w.account (some f) + 1) ((Courier.deliver c d fuel).run w).run :=
  deliver_leaves_of_next (next_leaves fuel) going bounded

/-- A worker's step: woken during a delivery's retries it makes the retry or records the
failure; otherwise it takes the delivery handed to it, or starts draining at shutdown. -/
theorem courierStep_stepped (c : Courier) {r : Resume} (poised : Poised q₀ w f (.courier c) r) :
    ⦃fun w' => ⌜w' = w⌝⦄ Courier.step c r
      ⦃⇓ n w' => ⌜Moved q₀ f w (.courier c) r n w'⌝⦄ := by
  apply triple_of_run
  intro w' same
  subst w'
  suffices leaves : Leaves q₀ f w (w.account (some f) + ((Fiber.courier c).carried r).length)
      ((Courier.step c r).run w).run from
    .of_keeps leaves.stepped (.of_kept leaves.signals leaves.chore) leaves.tally leaves.openings
      leaves.onward
  have working : Working q₀ f w := ⟨poised.sound, ⟨c, poised.alive⟩, poised.counted rfl⟩
  obtain ⟨q, found, agrees⟩ := poised.sound.outlet
  obtain ⟨draining, woken⟩ := poised.primed
  have fits := poised.sound.fits f _ poised.alive
  rw [Courier.step]
  simp only [run_bind, StateT.run_get, Id.run_pure, found]
  split
  · next d scope attempt sending =>
    have bounded := (fits.2 d scope attempt sending).1
    have held : ((Fiber.courier c).carried r).length = 1 := by simp [Fiber.carried, sending]
    rw [held]
    split
    · -- the attempts' deadline passed: the delivery failed
      simp only [run_bind]
      have ended := working.scopeEnded scope .canceled
      have recorded := ended.trans (ended.working.failureRecorded (hostKey d.url))
      have failed : ((recordFailedDelivery (hostKey d.url)).run
          ((endScope scope .canceled).run w).run.2).run.2.account (some f) = w.account (some f) + 1 := by
        rw [account_failureRecorded ended.working.sound, account_scopeEnded working.sound.scheduled]
      rw [← failed]
      exact recorded.leaves (next_leaves _ _ _ (recorded.going ⟨working, draining⟩))
    · exact retry_leaves_of_next (next_leaves _) ⟨working, draining⟩ bounded (Nat.le_add_left 1 attempt)
  · next sending =>
    split
    · next drains =>
      -- an idle worker does not drain
      exact absurd (fits.1 sending) (by simp [drains])
    · next idle =>
      split
      · next d handed =>
        have held : ((Fiber.courier c).carried r).length = 1 := by
          simp [Fiber.carried, sending, Resume.delivery?, handed]
        rw [held]
        refine deliver_leaves _ ⟨working, draining⟩ (poised.bounded d ?_)
        simp [Resume.delivery?, handed]
      · next other =>
        -- nothing was handed over
        have held : ((Fiber.courier c).carried r).length = 0 := by
          simp only [Fiber.carried, sending, Resume.delivery?]
          rfl
        rw [held, Nat.add_zero]
        split
        · next one =>
          exact next_leaves _ _ _ ⟨working, fun _ => woken sending rfl (by simpa using one)⟩
        · exact next_leaves _ _ _ ⟨working, draining⟩

end Courier


/-- `w'` has the fibers, the counters, the signals and the session's result of `w`. -/
structure Framed (w w' : World) : Prop where
  fibers : w'.fibers = w.fibers
  counters : w'.counters = w.counters
  signals : w'.signals = w.signals
  chore : w'.choreResult = w.choreResult

section Parked

variable {q₀ : DeliveryQueue} {f : Nat} {w w' : World}

theorem Framed.trans {w₂ : World} (first : Framed w w') (second : Framed w' w₂) : Framed w w₂ :=
  ⟨second.fibers.trans first.fibers, second.counters.trans first.counters,
    second.signals.trans first.signals, second.chore.trans first.chore⟩

theorem Framed.census (framed : Framed w w') (running : Option Nat) (kind : Fiber → Bool) :
    w'.census running kind = w.census running kind := by
  have fiberAt_eq : w'.fiberAt = w.fiberAt := by
    funext g
    simp [fiberAt, framed.fibers]
  simp only [World.census, othersSum, framed.fibers, fiberAt_eq]

theorem Framed.counter (framed : Framed w w') : w'.counter = w.counter := by
  funext g
  simp [World.counter, framed.counters]

/-- Sending a message wakes a fiber or buffers the message: no fiber, counter or signal
changes. -/
theorem send_framed (w : World) (ch : Nat) (m : Message) : Framed w ((send ch m).run w).run.2 := by
  rcases send_cases w ch m with ⟨g, k, -, sent⟩ | ⟨-, -, alike, -⟩ | kept
  · rw [sent]
    exact ⟨rfl, rfl, rfl, rfl⟩
  · exact ⟨alike.fibers, alike.counters, alike.signals, alike.chore⟩
  · rw [kept]
    exact ⟨rfl, rfl, rfl, rfl⟩

theorem dropDelivery_framed (w : World) : Framed w (dropDelivery.run w).run.2 := by
  show Framed w ((emit "dispatcher_dropped").run (w.withQueue fun q => { q with dropped := q.dropped + 1 })).run.2
  exact ⟨withQueue_fibers _, withQueue_counters _, by unfold World.withQueue; split <;> rfl,
    by unfold World.withQueue; split <;> rfl⟩

theorem Sound.dropped {running : Option Nat} (sound : w.Sound q₀ running) :
    (dropDelivery.run w).run.2.Sound q₀ running := by
  show ((emit "dispatcher_dropped").run (w.withQueue fun q => { q with dropped := q.dropped + 1 })).run.2.Sound q₀ running
  exact (emit_alike _ _).sound rfl (sound.withQueue fun q => ⟨⟨rfl, rfl, rfl, rfl, rfl, rfl⟩, rfl⟩)

/-- A parked delivery is the running fiber: no done signal is raised, as none is once the
queue drained and no parked delivery is left. -/
theorem quiet_of_parked (sound : w.Sound q₀ (some f)) {d : Delivery} {due : Int} {waiting : Bool}
    (alive : w.fiberAt f = some (.parked d due waiting)) :
    ∀ g x e, w.fiberAt g = some x → x.doneSignal = some e → w.isRaised e = false := by
  intro g x e owner signal
  by_contra raised
  have := ((sound.done g x e owner signal (by simpa using raised)).2 f _ alive).2
  simp [Fiber.isParked] at this

/-- A parked delivery's step: at first it waits for shutdown or its due time; woken at its
due time it goes back on the queue, or is dropped when the queue is full; at shutdown it is
abandoned. Either way it then counts itself out. -/
theorem parkedStep_stepped (d : Delivery) (due : Int) (waiting : Bool) {r : Resume}
    (poised : Poised q₀ w f (.parked d due waiting) r) :
    ⦃fun w' => ⌜w' = w⌝⦄ parkedStep d due waiting r
      ⦃⇓ n w' => ⌜Moved q₀ f w (.parked d due waiting) r n w'⌝⦄ := by
  apply triple_of_run
  intro w' same
  subst w'
  have sound := poised.sound
  obtain ⟨q, found, agrees⟩ := sound.outlet
  have bounded : q₀.Bounded d := sound.fits f _ poised.alive
  have counted := poised.parkedCounted rfl
  simp only [parkedStep, run_bind, StateT.run_get, Id.run_pure, found, agrees.queue,
    agrees.parked, agrees.shutdown]
  split
  · next first =>
    obtain rfl : waiting = false := by simpa using first
    show Moved q₀ f w _ r (.wait (.parked d due true) [.signal q₀.shutdown, .alarm due]) w
    refine .of_keeps ⟨sound, ?_⟩ (.of_kept rfl rfl) rfl rfl fun _ _ waits => by cases waits; exact ⟨rfl, rfl⟩
    exact
      { kind := rfl
        fits := bounded
        waitsFit := rfl
        kept := ⟨_, poised.alive, rfl, rfl⟩
        counted := fun courier => by cases courier
        parkedCounted := fun _ => counted
        done := fun e signal => by cases signal
        blocks := fun none_ up => by
          have := List.findIdx?_eq_none_iff.mp none_ (.signal q₀.shutdown) (by simp)
          simp [satisfied, up] at this
        goesOn := fun k first _ up => by
          have : k = 0 := by simpa [List.findIdx?_cons, satisfied, up] using first.symm
          subst this
          exact ⟨rfl, by simp⟩ }
  · next again =>
    obtain rfl : waiting = true := by simpa using again
    have primed : w.isRaised q₀.shutdown = true → r.choice ≠ 1 := fun up => (poised.primed up).2
    -- what is left is to count the parked delivery out
    suffices out : ∀ w', w'.Sound q₀ (some f) → Framed w w' →
        ((countDown q₀.parked).run w').run.2.Sound q₀ (some f) ∧
          Keeps q₀ w .exit ((countDown q₀.parked).run w').run.2 ∧
          ((countDown q₀.parked).run w').run.2.account (some f) = w'.account (some f) ∧
          ((countDown q₀.parked).run w').run.2.census (some f) Fiber.opening =
            w.census (some f) Fiber.opening by
      split
      · next one =>
        have open_ : w.closedQueue = false := by
          rw [← sound.shut]
          cases up : w.isRaised q₀.shutdown
          · rfl
          · exact absurd (by simpa using one) (primed up)
        have kept : (Fiber.parked d due true).abandons r = false := by simpa [Fiber.abandons] using one
        have sent := sound.sent bounded open_ (quiet_of_parked sound poised.alive)
        have framed := send_framed w q₀.queue (.delivery d)
        have added := account_sent sound d
        simp only [run_bind]
        -- name what the send answers and the world it leaves, so the worlds below stay small
        generalize ((send q₀.queue (.delivery d)).run w).run = sending at sent framed added ⊢
        obtain ⟨taken, w₁⟩ := sending
        cases taken with
        | false =>
          -- the queue is full: the delivery is dropped
          simp only [Bool.not_false, if_true]
          obtain ⟨down, keeps, same, openings⟩ :=
            out _ sent.dropped (framed.trans (dropDelivery_framed _))
          refine .of_keeps down keeps ?_ openings fun _ _ exit => by cases exit
          change Tallied f w _ r .exit ((countDown q₀.parked).run (dropDelivery.run w₁).run.2).run.2
          simp only [Tallied, Next.holding, kept, same, account_dropped sent, added]
          rfl
        | true =>
          -- the delivery goes back on the queue
          simp only [Bool.not_true, Bool.false_eq_true, if_false]
          obtain ⟨down, keeps, same, openings⟩ := out _ sent framed
          refine .of_keeps down keeps ?_ openings fun _ _ exit => by cases exit
          change Tallied f w _ r .exit ((countDown q₀.parked).run w₁).run.2
          simp only [Tallied, Next.holding, kept, same, added]
          rfl
      · -- at shutdown the delivery is given up
        next other =>
        obtain ⟨down, keeps, same, openings⟩ := out w sound ⟨rfl, rfl, rfl, rfl⟩
        have given : (Fiber.parked d due true).abandons r = true := by simpa [Fiber.abandons] using other
        refine .of_keeps down keeps ?_ openings fun _ _ exit => by cases exit
        change Tallied f w _ r .exit ((countDown q₀.parked).run w).run.2
        simp only [Tallied, Next.holding, given, same]
        rfl
    intro w' sound' framed
    have down := sound'.countDown (g := q₀.parked) (fun same => absurd same.symm sound.apart)
      fun _ => by rw [framed.census, framed.counter]; exact counted
    have sched := recounted_scheduled (g := q₀.parked) (f := (· - 1)) sound'.scheduled
    exact ⟨down.1, .of_kept (down.2.1.trans framed.signals) (down.2.2.trans framed.chore),
      account_countDown sched,
      ((countDown_stirred sched).keeps (·.census (some f) Fiber.opening) fun _ _ _ => rfl).trans
        (framed.census _ _)⟩

end Parked

end World

end JobEngine
