import JobEngine.Proofs.Dispatch.Runs

/-!
# The scheduler's operations on the queue

Between two runs of fibers, with no fiber running, the scheduler hands deliveries to the queue,
moves the clock to its next alarm, opens and ends scopes, and starts the close of the queue.
This module proves that each of them keeps what holds while no fiber runs (`World.AtRest`) and
loses no delivery: a delivery handed over is counted as accepted and then held, sent, failed
or dropped, and every other operation keeps the account.

## Main Statements

* `World.AtRest.dispatched` — handing a delivery to the queue.
* `World.AtRest.advanced` — moving the clock and firing the alarms then due.
* `World.AtRest.scopeOpened`, `World.AtRest.scopeEnded` — opening and ending a scope.
* `World.AtRest.closeBegun` — starting the close once no fiber is ready.
* `World.atRest_opened` — opening the queue in a world without fibers.
-/

namespace JobEngine

/-- A fiber made ready when none is runs next, and leaves none ready. -/
theorem RunQueue.pop?_ready_of_toList {q : RunQueue} (idle : q.toList = []) (t : Nat) :
    (q.ready t).pop? = some (t, q) := by
  obtain ⟨front, line⟩ := q
  cases front with
  | none =>
    cases line with
    | nil => rfl
    | cons _ _ => cases idle
  | some _ => cases idle

namespace World

section Calls

variable {q₀ : DeliveryQueue} {w : World}

/-- The outlet of a world whose queue is `q`. -/
theorem outlet_of_queue? {q : DeliveryQueue} (found : queue? w = some q) : w.outlet = .queue q := by
  simp only [queue?] at found
  split at found
  · next same => cases found; exact same
  · cases found

/-- Handing a delivery to an open queue sends it, counting it as accepted, or drops it when
the buffer is full. -/
theorem dispatch_run_open {q : DeliveryQueue} (found : w.outlet = .queue q) (open_ : q.closed = false)
    (d : Delivery) : ((dispatch d).run w).run =
      if ((send q.queue (.delivery d)).run w).run.1 then
        (none, ((send q.queue (.delivery d)).run w).run.2.withQueue
          fun q => { q with queued := q.queued + 1 })
      else (some .bufferFull, (dropDelivery.run ((send q.queue (.delivery d)).run w).run.2).run.2) := by
  simp only [dispatch, StateT.run_bind, StateT.run_get, pure_bind, found, open_, Bool.false_eq_true,
    if_false]
  rw [Id.run_bind]
  cases ((send q.queue (.delivery d)).run w).run.1 <;> rfl

/-- A closed queue refuses every delivery handed to it, and nothing changes. -/
theorem dispatch_run_closed {q : DeliveryQueue} (found : w.outlet = .queue q) (shut : q.closed = true)
    (d : Delivery) : ((dispatch d).run w).run = (some .dispatcherClosed, w) := by
  simp only [dispatch, StateT.run_bind, StateT.run_get, pure_bind, found, shut, if_true]
  rfl

/-- Sending a message leaves the outlet as it was. -/
theorem queue?_send (ch : Nat) (m : Message) : queue? ((send ch m).run w).run.2 = queue? w := by
  rcases send_cases w ch m with ⟨g, k, -, sent⟩ | ⟨-, -, alike, -⟩ | kept
  · rw [sent]
    rfl
  · exact alike.queue?
  · rw [kept]

/-- While the queue is open no done signal is raised: no closer and no close that waits
exists yet. -/
theorem Sound.signalsDown (sound : w.Sound q₀ none) (open_ : w.closedQueue = false) :
    ∀ g x e, w.fiberAt g = some x → x.doneSignal = some e → w.isRaised e = false := by
  intro g x e alive signal
  have primed := sound.primed g x alive (by simp)
  cases x with
  | closer p done => simp [DeliveryQueue.Primed, open_] at primed
  | chore c =>
    cases c with
    | closeQueue s done =>
      cases done with
      | none => cases signal
      | some done => simp [DeliveryQueue.Primed, open_] at primed
    | _ => cases signal
  | _ => cases signal

/-- **Handing a delivery to the queue** keeps what holds while no fiber runs: a closed queue
refuses it and changes nothing; an open one accepts it, buffered or handed to an idle worker,
or drops it when the buffer is full. Either way the account gains it. -/
theorem AtRest.dispatched (quiet : AtRest q₀ w) {d : Delivery} (bounded : q₀.Bounded d) :
    ((dispatch d).run w).run = (some .dispatcherClosed, w) ∨
    (((dispatch d).run w).run.1 = none ∧
      AtRest { q₀ with queued := q₀.queued + 1 } ((dispatch d).run w).run.2 ∧
      ((dispatch d).run w).run.2.account none = w.account none + 1) ∨
    (((dispatch d).run w).run.1 = some .bufferFull ∧ AtRest q₀ ((dispatch d).run w).run.2 ∧
      ((dispatch d).run w).run.2.account none = w.account none + 1) := by
  have sound := quiet.sound
  obtain ⟨q, found, agrees⟩ := sound.outlet
  have outlet := outlet_of_queue? found
  cases closed : q.closed
  · have open_ : w.closedQueue = false := by simp [closedQueue, found, closed]
    have sent := sound.sent bounded open_ (sound.signalsDown open_)
    have counted := account_sent sound d
    have framed := send_framed w q₀.queue (.delivery d)
    have fiberAt_eq : ((send q₀.queue (.delivery d)).run w).run.2.fiberAt = w.fiberAt := by
      funext g
      simp [fiberAt, framed.fibers]
    rw [dispatch_run_open outlet closed, agrees.queue]
    cases result : ((send q₀.queue (.delivery d)).run w).run.1
    · -- the buffer is full: the delivery is dropped
      refine .inr (.inr ⟨by simp, ?_, ?_⟩)
      · have dropped := dropDelivery_framed ((send q₀.queue (.delivery d)).run w).run.2
        simp only [Bool.false_eq_true, if_false]
        refine ⟨sent.dropped, fun g x alive => quiet.unopened g x ?_⟩
        rw [← fiberAt_eq]
        simpa [fiberAt, dropped.fibers] using alive
      · simp only [Bool.false_eq_true, if_false]
        rw [account_dropped sent, counted, result]
        rfl
    · -- the delivery is buffered or handed to an idle worker, and counted as accepted
      have found' : queue? ((send q₀.queue (.delivery d)).run w).run.2 = some q := by
        rw [queue?_send, found]
      have accepting : DeliveryQueue.Agrees { q with queued := q.queued + 1 }
          { q with queued := q.queued + 1 } := ⟨rfl, rfl, rfl, rfl, rfl, rfl⟩
      have recounted := sent.recounted found' accepting rfl
      have accepted : ({ q₀ with queued := ({ q with queued := q.queued + 1 } : DeliveryQueue).queued } :
          DeliveryQueue) = { q₀ with queued := q₀.queued + 1 } := by
        simp [agrees.queued]
      rw [accepted] at recounted
      refine .inr (.inl ⟨by simp, ?_, ?_⟩)
      · simp only [if_true]
        rw [withQueue_eq q found']
        refine ⟨recounted, fun g x alive => quiet.unopened g x ?_⟩
        rw [← fiberAt_eq]
        simpa [fiberAt, withQueue_fibers] using alive
      · simp only [if_true]
        rw [account_withQueue sent 0 (g := fun q => { q with queued := q.queued + 1 }) (fun _ => rfl)
          (fun _ => rfl), counted, result]
        rfl
  · exact .inl (dispatch_run_closed outlet closed d)

/-- What a pass over the alarms due keeps: the invariant with no fiber running, no close waiting
for its first step, the account, the clock, and waits only of fibers that waited before. -/
structure Firing (q₀ : DeliveryQueue) (w : World) (t : Int) (v : World) : Prop where
  quiet : AtRest q₀ v
  account : v.account none = w.account none
  now : v.now = t
  blocked : ∀ b ∈ v.blocked, b ∈ w.blocked

/-- **Moving the clock to the next alarm** keeps what holds while no fiber runs, and moves no
delivery: each alarm due wakes the fiber that set it, if it still waits, at the alarm's wait,
or starts the expiry of a scope's deadline. -/
theorem AtRest.advanced (quiet : AtRest q₀ w) :
    AtRest q₀ (advance.run w).run.2 ∧ (advance.run w).run.2.account none = w.account none := by
  simp only [advance, StateT.run_bind, StateT.run_get, pure_bind]
  split
  · exact ⟨quiet, rfl⟩
  · next t _ =>
    simp only [StateT.run_bind, StateT.run_set, pure_bind, Id.run_bind]
    have alike : Alike w { w with now := t, alarms := w.alarms.filter (·.due > t) } :=
      ⟨rfl, rfl, rfl, rfl, rfl, rfl, rfl, rfl, fun _ mem _ => List.mem_of_mem_filter mem⟩
    have start : Firing q₀ w t { w with now := t, alarms := w.alarms.filter (·.due > t) } :=
      ⟨⟨alike.sound rfl quiet.sound, by rw [alike.fiberAt]; exact quiet.unopened⟩,
        alike.account rfl none, rfl, fun _ mem => mem⟩
    refine (fun fired => ⟨fired.quiet, fired.account⟩) (forIn_keeps (I := Firing q₀ w t) ?_ start)
    intro a mem v firing
    obtain ⟨owned, due⟩ : a ∈ w.alarms ∧ a.due ≤ t := by
      simpa using List.mem_filter.mp (List.mem_mergeSort.mp mem)
    have sound := firing.quiet.sound
    split
    · next _ _ g fib =>
      simp only [StateT.run_bind, StateT.run_get, pure_bind]
      split
      · next waiting =>
        -- the fiber that set the alarm still waits, at the alarm's wait, which is due
        obtain ⟨b, entry, owner⟩ : ∃ b ∈ v.blocked, b.fiber = g := by simpa using waiting
        obtain ⟨b₀, entry₀, owner₀, at_⟩ := quiet.sound.alarms a owned g fib
        obtain rfl : b = b₀ := List.inj_on_of_nodup_map quiet.sound.scheduled.waitsOnce
          (firing.blocked b entry) entry₀ (owner.trans owner₀.symm)
        subst owner
        have fired : v.answers (.alarm a.due) = true := by
          simp [answers, satisfied, firing.now, due]
        have other : (none : Option Nat) ≠ some b.fiber := by simp
        have waitsNow : v.isBlocked b.fiber = true := isBlocked_iff.mpr ⟨b, entry, rfl⟩
        refine ⟨rfl, ?_⟩
        show Firing q₀ w t (v.woken b.fiber { choice := a.choice })
        refine ⟨⟨sound.woken entry at_ fired other, firing.quiet.unopened⟩, ?_, firing.now,
          fun b' mem => firing.blocked b' (List.mem_of_mem_filter mem)⟩
        rw [account_woken sound.scheduled waitsNow other (by simp [Resume.delivery?]), firing.account]
      · exact ⟨rfl, firing⟩
    · next _ _ s fib scope =>
      -- a scope's deadline passed: its expiry starts
      simp only [StateT.run_bind, StateT.run_get, pure_bind]
      split
      · refine ⟨rfl, ?_⟩
        show Firing q₀ w t (v.spawned (.expire s))
        refine ⟨⟨sound.spawned rfl trivial trivial (fun h => by cases h) (fun h => by cases h)
          (fun _ h => by cases h) (fun _ _ _ _ _ _ => ⟨rfl, rfl⟩), fun g x alive => ?_⟩, ?_,
          firing.now, firing.blocked⟩
        · rw [fiberAt_spawned] at alive
          split at alive
          · cases alive
            rfl
          · exact firing.quiet.unopened g x alive
        · rw [account_spawned sound, firing.account]
          rfl
      · exact ⟨rfl, firing⟩
    · exact ⟨rfl, firing⟩

/-- **Opening a scope** keeps what holds while no fiber runs, and the account. -/
theorem AtRest.scopeOpened (quiet : AtRest q₀ w) (parent : Nat) (timeout : Option Int) :
    AtRest q₀ ((newScope parent timeout).run w).run.2 ∧
      ((newScope parent timeout).run w).run.2.account none = w.account none := by
  obtain ⟨alike, channels⟩ := newScope_alike w parent timeout
  refine ⟨⟨alike.sound channels quiet.sound, fun g x alive => quiet.unopened g x ?_⟩,
    account_scopeOpened parent timeout⟩
  rwa [alike.fiberAt] at alive

/-- **Ending a scope** keeps what holds while no fiber runs, and the account: its watchers are
woken, and no fiber is added. -/
theorem AtRest.scopeEnded (quiet : AtRest q₀ w) (s : Nat) (e : Ending) :
    AtRest q₀ ((endScope s e).run w).run.2 ∧
      ((endScope s e).run w).run.2.account none = w.account none := by
  have fibers := endScope_keeps quiet.sound.scheduled s e World.fiberAt (fun _ _ _ => rfl) rfl
  refine ⟨⟨quiet.sound.scopeEnded s e, fun g x alive => quiet.unopened g x ?_⟩,
    account_scopeEnded quiet.sound.scheduled s e⟩
  rwa [fibers] at alive

/-- The session's request `c` starts with its fiber added, not yet ready, and runs its first
steps at once. -/
theorem begin_run (w : World) (c : Chore) :
    ((begin c).run w).run.2 = ((runFiber w.fibers.size stepBudget {}).run
      { w with choreResult := none, fibers := w.fibers.push (some (.chore c)),
               resumes := w.resumes.push {} }).run.2 := by
  simp only [begin, StateT.run_bind, StateT.run_modify, StateT.run_modifyGet, Id.run_bind]
  rfl

/-- **Starting the close of the queue** once no fiber is ready keeps what holds while no fiber
runs, and moves no delivery: the close's first step runs while every parked delivery that
waited still waits, and the close holds no delivery. -/
theorem AtRest.closeBegun (quiet : AtRest q₀ w) (idle : w.queue.toList = []) (s : Nat) :
    AtRest q₀ ((begin (.closeQueue s none)).run w).run.2 ∧
      ((begin (.closeQueue s none)).run w).run.2.account none = w.account none ∧
      ((begin (.closeQueue s none)).run w).run.2.retries = w.retries := by
  let x : Fiber := .chore (.closeQueue s none)
  -- the close as a fiber started and then taken from the run queue, where it was alone
  let S : World := ({ w with choreResult := none } : World).spawned x
  let B : World := { S with queue := w.queue }
  have answered := quiet.sound.answered none
  have spawned : S.Sound q₀ none := answered.spawned rfl trivial trivial
    (fun h => by cases h) (fun h => by cases h) (fun _ h => by cases h)
    (fun _ _ _ _ _ _ => ⟨rfl, rfl⟩)
  have popped : S.queue.pop? = some (w.fibers.size, w.queue) :=
    RunQueue.pop?_ready_of_toList idle w.fibers.size
  have alive : S.fiberAt w.fibers.size = some x := by
    rw [fiberAt_spawned, if_pos rfl]
  have fresh : (S.resumes[w.fibers.size]?).getD {} = {} := by
    show ((w.resumes.push {})[w.fibers.size]?).getD {} = {}
    rw [← quiet.sound.scheduled.slots, Array.getElem?_push_size]
    rfl
  have poised : Poised q₀ B w.fibers.size x {} := fresh ▸ spawned.poised popped alive
  -- the close is the only fiber not yet past its first step
  have unopened : B.census (some w.fibers.size) Fiber.opening = 0 := by
    have whole := census_release (w := S) (show w.fibers.size < S.fibers.size by simp [S])
      Fiber.opening
    have before : ({ w with choreResult := none } : World).census none Fiber.opening = 0 :=
      census_eq_zero quiet.unopened
    have grown : S.census none Fiber.opening = 0 + 1 := by
      rw [census_spawned answered.scheduled, before]
      rfl
    rw [alive] at whole
    show S.census (some w.fibers.size) Fiber.opening = 0
    simp only [Option.map_some, Option.getD_some, x, Fiber.opening, if_true] at whole
    omega
  -- every parked delivery is one of the world's, and none is ready
  have waited : ParkedWait B := fun g d due parked => by
    rw [show B.fiberAt = S.fiberAt from rfl, fiberAt_spawned] at parked
    split at parked
    · simp [x] at parked
    · rcases quiet.sound.stranded g _ parked (by simp) with blocked | ready
      · exact blocked
      · rw [idle] at ready
        cases ready
  have nothing : (x.carried {}).length = 0 := rfl
  obtain ⟨n, m, ran⟩ := runFiber_ran w.fibers.size stepBudget {} B
  have tally := ran.quiet poised.sound poised.bounded
    (fun y alive' => by
      obtain rfl : y = x := Option.some.inj (alive'.symm.trans poised.alive)
      exact ⟨poised, fun _ => ⟨by decide, waited⟩⟩)
    unopened
  have counted := tally.account
  have kept := tally.unparked
  have idle := tally.idle
  rw [poised.alive] at counted kept idle
  simp only [Option.map_some, Option.getD_some, nothing, Nat.add_zero] at counted kept idle
  -- the close gives up no delivery and begins no retry: it is neither a parked delivery nor a
  -- worker
  rw [kept rfl, Nat.add_zero] at counted
  have same : ({ w with choreResult := none, fibers := w.fibers.push (some x),
                        resumes := w.resumes.push {} } : World) = B := rfl
  rw [begin_run, same]
  refine ⟨tally.rest, ?_, by rw [tally.retries, idle rfl]; rfl⟩
  calc _ = B.account (some w.fibers.size) := counted
    _ = S.account none := by
      rw [account_popped spawned popped, alive, fresh]
      simp only [Option.map_some, Option.getD_some, nothing, Nat.add_zero]
      rfl
    _ = w.account none := by
      rw [account_spawned answered, nothing, Nat.add_zero]
      rfl

end Calls

section Opening

/-- Starting fiber `x` once for each item of a list, one after another. -/
theorem forIn_spawn_run {α : Type} (L : List α) (x : Fiber) (w : World) :
    ((forIn L PUnit.unit fun _ _ => do
        let _ ← spawn x
        pure (ForInStep.yield PUnit.unit)).run w).run.2 = (·.spawned x)^[L.length] w := by
  induction L generalizing w with
  | nil => rfl
  | cons a L ih =>
    simp only [List.forIn_cons, StateT.run_bind, spawn_run, StateT.run_pure, Id.run_bind,
      Id.run_pure]
    rw [ih, List.length_cons, Function.iterate_succ_apply]
    rfl

/-- Opening the queue in a world with nothing in it makes its channel, its shutdown signal and
its two counters, and then starts its workers. -/
theorem openQueue_run (settings : DeliverySettings) (t : Int) :
    ((openQueue settings).run { now := t }).run.2 =
      (·.spawned (.courier {}))^[settings.withDefaults.workers.toNat]
        { now := t, channels := #[{ capacity := settings.withDefaults.bufferSize.toNat }],
          signals := #[false], counters := #[settings.withDefaults.workers.toNat, 0],
          outlet := .queue
            { settings := settings.withDefaults, queue := 0, shutdown := 0, workers := 0,
              parked := 1,
              breakers :=
                { settings := { threshold := settings.withDefaults.breakerThreshold,
                                cooldown := settings.withDefaults.breakerCooldown } } } } := by
  unfold openQueue
  simp only [StateT.run_bind, StateT.run_pure, Id.run_bind, Id.run_pure]
  rw [forIn_spawn_run, List.length_range]
  rfl

/-- At least one worker is started. -/
theorem one_le_workers (settings : DeliverySettings) : 1 ≤ settings.withDefaults.workers.toNat := by
  show 1 ≤ (if settings.workers ≤ 0 then 10 else settings.workers).toNat
  split <;> omega

/-- A delivery never parked before is parked no more often than allowed. -/
theorem bounded_fresh {q₀ : DeliveryQueue} (settings : q₀.settings = DeliverySettings.withDefaults s)
    {d : Delivery} (fresh : d.requeues = 0) : q₀.Bounded d := by
  unfold DeliveryQueue.Bounded
  rw [settings, fresh]
  show ((0 : Nat) : Int) ≤ if s.maxRequeues ≤ 0 then 10 else s.maxRequeues
  split <;> omega

/-- **Opening the queue** in a world with nothing in it leaves what holds while no fiber runs,
with no delivery accepted and none accounted for. -/
theorem atRest_opened (settings : DeliverySettings) (t : Int) :
    ∃ q₀ : DeliveryQueue, q₀.settings = settings.withDefaults ∧ q₀.queued = 0 ∧
      AtRest q₀ ((openQueue settings).run { now := t }).run.2 ∧
      ((openQueue settings).run { now := t }).run.2.account none = 0 := by
  let n := settings.withDefaults.workers.toNat
  let Q : DeliveryQueue :=
    { settings := settings.withDefaults, queue := 0, shutdown := 0, workers := 0, parked := 1,
      breakers := { settings := { threshold := settings.withDefaults.breakerThreshold,
                                  cooldown := settings.withDefaults.breakerCooldown } } }
  let W : World :=
    { now := t, channels := #[{ capacity := settings.withDefaults.bufferSize.toNat }],
      signals := #[false], counters := #[n, 0], outlet := .queue Q }
  have none_ : ∀ g, W.fiberAt g = none := fun g => by simp [fiberAt, W]
  have start : W.Sound Q none :=
    { scheduled := ⟨List.nodup_nil, List.nodup_nil, (fun _ mem => by cases mem),
        (fun _ running => by cases running), (fun _ running => by cases running),
        (fun _ mem => by cases mem), (fun _ mem => by cases mem), rfl⟩
      outlet := ⟨Q, rfl, ⟨rfl, rfl, rfl, rfl, rfl, rfl⟩⟩
      signal := Nat.one_pos
      kinds := fun g _ alive => by simp [none_ g] at alive
      fits := fun g _ alive => by simp [none_ g] at alive
      waits := fun _ mem => by cases mem
      buffered := fun _ mem => by simp [buffer, W, Q] at mem
      resumes := fun _ mem => by simp [W] at mem
      alarms := fun _ mem => by cases mem
      stranded := fun g _ alive => by simp [none_ g] at alive
      primed := fun g _ alive => by simp [none_ g] at alive
      shut := rfl
      opened := fun _ => one_le_workers settings
      emptied := fun closed => by cases closed
      done := fun g _ _ alive => by simp [none_ g] at alive
      staffed := by
        rw [census_eq_zero fun g _ alive => by simp [none_ g] at alive]
        exact Nat.zero_le _
      parkedCounted := by
        rw [census_eq_zero fun g _ alive => by simp [none_ g] at alive]
        exact Nat.zero_le _
      apart := Nat.zero_ne_one
      parkedSlot := Nat.one_lt_two }
  -- the workers are started one at a time, each with a place on the workers' counter
  have started : ∀ k ≤ n, ((·.spawned (.courier {}))^[k] W).Sound Q none ∧
      (∀ g y, ((·.spawned (.courier {}))^[k] W).fiberAt g = some y → y = .courier {}) ∧
      ((·.spawned (.courier {}))^[k] W).account none = 0 ∧
      ((·.spawned (.courier {}))^[k] W).census none Fiber.isCourier = k ∧
      ((·.spawned (.courier {}))^[k] W).counter Q.workers = n := by
    intro k
    induction k with
    | zero =>
      intro _
      refine ⟨start, fun g _ alive => by simp [none_ g] at alive, ?_,
        census_eq_zero fun g _ alive => by simp [none_ g] at alive, rfl⟩
      simp [account, queue?, W, Q, depth, held, othersSum]
    | succ k ih =>
      intro within
      obtain ⟨sound, couriers, account_eq, census_eq, counter_eq⟩ := ih (by omega)
      rw [Function.iterate_succ_apply']
      refine ⟨sound.spawned rfl ⟨(fun _ => rfl), (fun _ _ _ sending => by cases sending)⟩
          ⟨(fun draining => by cases draining), (fun _ _ choice => by cases choice)⟩
          (fun _ => by rw [census_eq, counter_eq]; omega) (fun parked => by cases parked)
          (fun _ done => by cases done)
          (fun g y _ alive done _ => by rw [couriers g y alive] at done; cases done),
        fun g y alive => ?_, ?_, ?_, counter_eq⟩
      · rw [fiberAt_spawned] at alive
        split at alive
        · cases alive
          rfl
        · exact couriers g y alive
      · rw [account_spawned sound, account_eq]
        rfl
      · rw [census_spawned sound.scheduled, census_eq]
        rfl
  obtain ⟨sound, couriers, accounted, -, -⟩ := started n le_rfl
  refine ⟨Q, rfl, rfl, ?_⟩
  rw [openQueue_run]
  exact ⟨⟨sound, fun g y alive => by rw [couriers g y alive]; rfl⟩, accounted⟩

/-- The queue opens with no retry counted. -/
theorem retries_opened (settings : DeliverySettings) (t : Int) :
    ((openQueue settings).run { now := t }).run.2.retries = 0 := by
  -- starting the workers leaves the outlet as it is
  have kept : ∀ k (v : World), ((·.spawned (.courier {}))^[k] v).outlet = v.outlet := by
    intro k
    induction k with
    | zero => intro v; rfl
    | succ k ih =>
      intro v
      rw [Function.iterate_succ_apply']
      exact ih v
  rw [openQueue_run, retries_of_outlet (kept _ _)]
  rfl

end Opening


end World

end JobEngine
