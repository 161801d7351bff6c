import JobEngine.Proofs.Dispatch.Closing

/-!
# The count of retries begun

The queue counts a retry when a worker, its attempt at a delivery failed, starts waiting for
the backoff delay before the next one. This module proves that the count moves only then: a
step of a fiber of the queue adds one to it exactly when it leaves a worker waiting before a
retry (`Next.retrying`), and nothing else the scheduler does changes it. No invariant is
needed: no operation but a worker's retry touches the count.

## Main Definitions

* `Fiber.retrying`, `Next.retrying` — a worker waiting before a retry, and a step leaving one.
* `World.CountsRetry` — a step that counts exactly the retry it begins.

## Main Statements

* `World.fiberStep_countsRetry` — every step of a fiber of the queue counts its retry.
* `World.retries_park`, `World.retries_dispatch`, `World.retries_advance` — parking a fiber,
  handing over a delivery and moving the clock change no count.
-/

namespace JobEngine

namespace Fiber

/-- One for a worker waiting before a retry of its delivery, zero for any other fiber. -/
def retrying : Fiber → Nat
  | .courier c => if c.sending.isSome then 1 else 0
  | _ => 0

end Fiber

/-- The retry a step begins: one when it leaves a worker waiting before a retry. -/
def Next.retrying : Next → Nat
  | .exit => 0
  | .wait x _ => x.retrying

namespace World

section Frame

variable {w w' : World}

/-- A loop whose body always goes on keeps what each pass keeps. -/
theorem forIn_keeps {α : Type} {L : List α} {body : α → PUnit → WorldM (ForInStep PUnit)}
    {I : World → Prop}
    (pass : ∀ a ∈ L, ∀ v, I v → ((body a PUnit.unit).run v).run.1 = .yield PUnit.unit ∧
      I ((body a PUnit.unit).run v).run.2) {v : World} (start : I v) :
    I ((forIn L PUnit.unit body).run v).run.2 := by
  induction L generalizing v with
  | nil => exact start
  | cons a rest ih =>
    obtain ⟨goesOn, kept⟩ := pass a List.mem_cons_self v start
    simp only [List.forIn_cons, StateT.run_bind, Id.run_bind]
    rw [goesOn]
    exact ih (fun b mem => pass b (List.mem_cons_of_mem a mem)) kept

theorem retries_of_outlet (same : w'.outlet = w.outlet) : w'.retries = w.retries := by
  simp only [retries, queue?, same]

/-- Changing the queue's record but for its count of retries keeps the count. -/
theorem retries_withQueue {g : DeliveryQueue → DeliveryQueue}
    (kept : ∀ q, (g q).retries = q.retries) : (w.withQueue g).retries = w.retries := by
  unfold withQueue
  split
  · next q same => simp [retries, queue?, same, kept]
  · rfl

theorem wakes_outlet (L : List (Nat × Nat)) (w : World) :
    ((forIn L PUnit.unit fun (x : Nat × Nat) _ => do
      wake x.1 { choice := x.2 }
      pure (ForInStep.yield PUnit.unit) : WorldM PUnit).run w).run.2.outlet = w.outlet := by
  apply forIn_keeps (I := fun v => v.outlet = w.outlet) _ rfl
  intro _ _ _ same
  exact ⟨rfl, same⟩

theorem wakeEvery_outlet (p : Wait → Bool) (w : World) :
    ((wakeEvery p).run w).run.2.outlet = w.outlet := by
  unfold wakeEvery
  simp only [StateT.run_bind, StateT.run_get, Id.run_bind]
  exact wakes_outlet _ w

theorem wakeInOrder_outlet (p : Wait → Bool) (w : World) :
    ((wakeInOrder p).run w).run.2.outlet = w.outlet := by
  unfold wakeInOrder
  simp only [StateT.run_bind, StateT.run_get, Id.run_bind]
  exact wakes_outlet _ w

theorem endScope_outlet (s : Nat) (e : Ending) (w : World) :
    ((endScope s e).run w).run.2.outlet = w.outlet := by
  unfold endScope
  simp only [StateT.run_bind, StateT.run_get, StateT.run_set, Id.run_bind]
  exact forIn_keeps (I := fun v => v.outlet = w.outlet)
    (fun _ _ v same => ⟨rfl, (wakeEvery_outlet _ v).trans same⟩) rfl

theorem countDown_outlet (g : Nat) (w : World) : ((countDown g).run w).run.2.outlet = w.outlet := by
  unfold countDown
  simp only [StateT.run_bind, StateT.run_modify, StateT.run_get, Id.run_bind]
  split
  · exact wakeInOrder_outlet _ _
  · rfl

theorem raise_outlet (g : Nat) (w : World) : ((raise g).run w).run.2.outlet = w.outlet := by
  unfold raise
  simp only [StateT.run_bind, StateT.run_modify, Id.run_bind]
  exact wakeEvery_outlet _ _

theorem send_outlet (ch : Nat) (m : Message) (w : World) :
    ((send ch m).run w).run.2.outlet = w.outlet := by
  rcases send_cases w ch m with ⟨g, k, -, sent⟩ | ⟨-, -, alike, -⟩ | kept
  · rw [sent]
    rfl
  · exact alike.outlet
  · rw [kept]

/-- Parking a fiber sets its slot and leaves the outlet as it was: it only waits, or takes what
it waited for. -/
theorem park_frame (f : Nat) (x : Fiber) (waits : List Wait) (w : World) :
    ((park f x waits).run w).run.2.outlet = w.outlet ∧
      ((park f x waits).run w).run.2.fibers = w.fibers.set! f (some x) := by
  unfold park
  simp only [StateT.run_bind, StateT.run_modify, StateT.run_get, Id.run_bind]
  split
  · split
    · simp only [StateT.run_bind, Id.run_bind, StateT.run_pure, Id.run_pure]
      exact ⟨(receive?_alike _ _).outlet, (receive?_alike _ _).fibers⟩
    · exact ⟨rfl, rfl⟩
  · simp only [StateT.run_bind, StateT.run_modify, Id.run_bind, StateT.run_pure, Id.run_pure]
    refine forIn_keeps (I := fun v => v.outlet = w.outlet ∧ v.fibers = w.fibers.set! f (some x))
      (fun a _ v same => ?_) ⟨rfl, rfl⟩
    split <;> exact ⟨rfl, same⟩

/-- Parking a fiber changes no count. -/
theorem retries_park (f : Nat) (x : Fiber) (waits : List Wait) (w : World) :
    ((park f x waits).run w).run.2.retries = w.retries :=
  retries_of_outlet (park_frame f x waits w).1

end Frame

section Queue

variable {w : World}

theorem retries_dropDelivery (w : World) : (dropDelivery.run w).run.2.retries = w.retries :=
  retries_withQueue (g := fun q => { q with dropped := q.dropped + 1 }) fun _ => rfl

theorem retries_breakerAllows (host : String) (w : World) :
    ((breakerAllows host).run w).run.2.retries = w.retries := by
  unfold breakerAllows
  simp only [StateT.run_bind, StateT.run_get, Id.run_bind]
  split
  · exact retries_withQueue fun _ => rfl
  · rfl

theorem retries_recordFailedDelivery (host : String) (w : World) :
    ((recordFailedDelivery host).run w).run.2.retries = w.retries := by
  unfold recordFailedDelivery
  simp only [StateT.run_bind, StateT.run_get, Id.run_bind]
  split
  · exact retries_withQueue fun _ => rfl
  · rfl

theorem retries_parkDelivery (d : Delivery) (w : World) :
    ((parkDelivery d).run w).run.2.retries = w.retries := by
  unfold parkDelivery
  simp only [StateT.run_bind, StateT.run_get, Id.run_bind]
  split
  · split
    · exact retries_dropDelivery w
    · -- the parked delivery is counted as requeued and started
      exact retries_withQueue fun _ => rfl
  · rfl

/-- Handing a delivery to the queue changes no count. -/
theorem retries_dispatch (d : Delivery) (w : World) :
    ((dispatch d).run w).run.2.retries = w.retries := by
  unfold dispatch
  simp only [StateT.run_bind, StateT.run_get, Id.run_bind]
  split
  · rfl
  · split <;> rfl
  · next q found =>
    split
    · rfl
    · simp only [StateT.run_bind, Id.run_bind]
      have sent := retries_of_outlet (send_outlet q.queue (.delivery d) w)
      split
      · exact (retries_withQueue (g := fun q => { q with queued := q.queued + 1 })
          fun _ => rfl).trans sent
      · exact (retries_dropDelivery _).trans sent

end Queue

section Steps

variable {w w₁ : World} {p : Next × World}

/-- A step from `w` that ends as `p` counts exactly the retry it begins, if any. -/
def CountsRetry (w : World) (p : Next × World) : Prop := p.2.retries = w.retries + p.1.retrying

theorem CountsRetry.of_retries (kept : w₁.retries = w.retries) (counts : CountsRetry w₁ p) :
    CountsRetry w p := by
  unfold CountsRetry at *
  rw [counts, kept]

theorem countsRetry_exit (w : World) : CountsRetry w (.exit, w) := rfl

/-- Counting a retry adds one to the count. -/
theorem retries_counted {q : DeliveryQueue} (found : queue? w = some q) :
    (w.withQueue fun q => { q with retries := q.retries + 1 }).retries = w.retries + 1 := by
  have counted : queue? ({ w with outlet := .queue { q with retries := q.retries + 1 } } : World) =
      some { q with retries := q.retries + 1 } := rfl
  rw [withQueue_eq q found]
  simp only [retries, counted, found, Option.map_some, Option.getD_some]

end Steps

section Courier

variable {fuel : Nat}

/-- Before a retry: a worker out of retries records the failure and goes on; otherwise it
counts the retry and waits before it, a retry begun. -/
theorem retry_countsRetry_of_next (next_ok : ∀ c w, CountsRetry w ((Courier.next c fuel).run w).run)
    (c : Courier) (d : Delivery) (scope attempt : Nat) (w : World) :
    CountsRetry w ((Courier.retry c d scope attempt fuel).run w).run := by
  rw [Courier.retry]
  simp only [run_bind, StateT.run_get, Id.run_pure]
  split
  · next q found =>
    split
    · -- no retry is left: the failure is recorded
      simp only [run_bind]
      refine .of_retries ?_ (next_ok _ _)
      rw [retries_recordFailedDelivery, retries_of_outlet (endScope_outlet _ _ _)]
    · simp only [run_bind, modifyQueue_run, StateT.run_get, Id.run_pure, StateT.run_pure]
      exact retries_counted found
  · exact countsRetry_exit w

/-- Taking a delivery: the worker parks it when its breaker refuses, else goes on to the first
retry. -/
theorem deliver_countsRetry_of_next
    (next_ok : ∀ c w, CountsRetry w ((Courier.next c fuel).run w).run)
    (c : Courier) (d : Delivery) (w : World) :
    CountsRetry w ((Courier.deliver c d fuel).run w).run := by
  rw [Courier.deliver]
  simp only [run_bind]
  split
  · simp only [run_bind]
    refine .of_retries ?_ (next_ok _ _)
    rw [retries_parkDelivery, retries_breakerAllows]
  · simp only [run_bind]
    refine .of_retries ?_ (retry_countsRetry_of_next next_ok _ _ _ _ _)
    rw [retries_of_outlet (newScope_alike _ _ _).1.outlet, retries_breakerAllows]

/-- Going on after a delivery: an idle worker waits, no retry begun; a draining one takes the
next delivery, or counts itself out. -/
theorem next_countsRetry (fuel : Nat) :
    ∀ c w, CountsRetry w ((Courier.next c fuel).run w).run := by
  induction fuel with
  | zero =>
    intro c w
    rw [Courier.next]
    simp only [run_bind, StateT.run_get, Id.run_pure]
    split
    · split
      · exact (rfl : w.retries = w.retries + 0)
      · exact countsRetry_exit w
    · exact countsRetry_exit w
  | succ fuel ih =>
    intro c w
    rw [Courier.next]
    simp only [run_bind, StateT.run_get, Id.run_pure]
    split
    · next _ q found =>
      split
      · exact (rfl : w.retries = w.retries + 0)
      · simp only [run_bind]
        have taken := retries_of_outlet (receive?_alike w q.queue).outlet
        split
        · exact .of_retries taken (deliver_countsRetry_of_next ih _ _ _)
        · simp only [run_bind, StateT.run_pure, Id.run_pure]
          exact ((retries_of_outlet (countDown_outlet _ _)).trans taken : _)
    · exact countsRetry_exit w

/-- **A worker's step counts exactly the retry it begins**: the count moves by one when the
step leaves the worker waiting before a retry, and stays otherwise. -/
theorem courierStep_countsRetry (c : Courier) (r : Resume) (w : World) :
    CountsRetry w ((Courier.step c r).run w).run := by
  rw [Courier.step]
  simp only [run_bind, StateT.run_get, Id.run_pure]
  split
  · next q found =>
    split
    · split
      · -- the attempts' deadline passed: the failure is recorded
        simp only [run_bind]
        refine .of_retries ?_ (next_countsRetry _ _ _)
        rw [retries_recordFailedDelivery, retries_of_outlet (endScope_outlet _ _ _)]
      · exact retry_countsRetry_of_next (next_countsRetry _) _ _ _ _ _
    · split
      · exact next_countsRetry _ _ _
      · split
        · exact deliver_countsRetry_of_next (next_countsRetry _) _ _ _
        · split
          · exact next_countsRetry _ _ _
          · exact next_countsRetry _ _ _
  · exact countsRetry_exit w

end Courier

section Others

variable {w w' : World} {p : Next × World}

/-- A step from `w` ending as `p` that changes no count and leaves no worker waiting. -/
structure Uncounted (w : World) (p : Next × World) : Prop where
  retries : p.2.retries = w.retries
  other : ∀ y waits, p.1 = .wait y waits → y.isCourier = false

theorem uncounted_exit (kept : w'.retries = w.retries) : Uncounted w (.exit, w') :=
  ⟨kept, fun _ _ exit => by cases exit⟩

/-- Only a worker waits before a retry. -/
theorem retrying_of_other {y : Fiber} (other : y.isCourier = false) : y.retrying = 0 := by
  cases y <;> simp_all [Fiber.isCourier, Fiber.retrying]

theorem Uncounted.countsRetry (uncounted : Uncounted w p) : CountsRetry w p := by
  obtain ⟨n, w'⟩ := p
  unfold CountsRetry
  rw [uncounted.retries]
  cases n with
  | exit => rfl
  | wait y waits => exact (congrArg (w.retries + ·) (retrying_of_other (uncounted.other y waits rfl))).symm

/-- A parked delivery's step changes no count: it waits, or goes back on the queue, or is
dropped. -/
theorem parkedStep_uncounted (d : Delivery) (due : Int) (waiting : Bool) (r : Resume)
    (w : World) : Uncounted w ((parkedStep d due waiting r).run w).run := by
  unfold parkedStep
  simp only [run_bind, StateT.run_get, Id.run_pure]
  split
  · next _ q found =>
    split
    · exact ⟨rfl, fun _ _ waits => by cases waits; rfl⟩
    · split
      · simp only [run_bind]
        have sent := retries_of_outlet (send_outlet q.queue (.delivery d) w)
        split
        · simp only [run_bind, StateT.run_pure, Id.run_pure]
          exact uncounted_exit ((retries_of_outlet (countDown_outlet _ _)).trans
            ((retries_dropDelivery _).trans sent))
        · simp only [run_bind, StateT.run_pure, Id.run_pure]
          exact uncounted_exit ((retries_of_outlet (countDown_outlet _ _)).trans sent)
      · simp only [run_bind, StateT.run_pure, Id.run_pure]
        exact uncounted_exit (retries_of_outlet (countDown_outlet _ _))
  · exact uncounted_exit rfl

/-- The closer's step changes no count. -/
theorem closerStep_uncounted (phase done : Nat) (w : World) :
    Uncounted w ((closerStep phase done).run w).run := by
  unfold closerStep
  simp only [run_bind, StateT.run_get, Id.run_pure]
  split
  · split
    · exact ⟨rfl, fun _ _ waits => by cases waits; rfl⟩
    · exact ⟨rfl, fun _ _ waits => by cases waits; rfl⟩
    · simp only [run_bind, StateT.run_pure, Id.run_pure]
      exact uncounted_exit (retries_of_outlet (raise_outlet _ _))
  · exact uncounted_exit rfl

/-- The expiry of a scope's deadline changes no count. -/
theorem expireStep_uncounted (s : Nat) (w : World) : Uncounted w ((expireStep s).run w).run := by
  unfold expireStep
  simp only [run_bind, StateT.run_pure, Id.run_pure]
  exact uncounted_exit (retries_of_outlet (endScope_outlet _ _ _))

/-- The close of the queue changes no count: it closes the queue, raises shutdown and starts
the closer, or answers. -/
theorem closeQueueStep_uncounted (s : Nat) (done : Option Nat) (r : Resume) (w : World) :
    Uncounted w (((Chore.closeQueue s done).step r).run w).run := by
  cases done with
  | none =>
    simp only [Chore.step, run_bind, StateT.run_get, Id.run_pure]
    split
    · next _ q found =>
      split
      · exact uncounted_exit rfl
      · simp only [run_bind, modifyQueue_run, StateT.run_pure, Id.run_pure]
        -- the signal and the closer started change nothing the count reads
        have raised := retries_of_outlet
          (raise_outlet q.shutdown (w.withQueue fun q => { q with closed := true }))
        exact ⟨((retries_of_outlet rfl).trans raised).trans (retries_withQueue fun _ => rfl),
          fun _ _ waits => by cases waits; rfl⟩
    · exact uncounted_exit rfl
  | some done =>
    simp only [Chore.step]
    split
    · exact uncounted_exit rfl
    · exact uncounted_exit rfl

/-- A step of a fiber of the queue other than a worker changes no count, and leaves no worker
waiting. -/
theorem fiberStep_uncounted {x : Fiber} (kind : x.dispatching = true) (other : x.isCourier = false)
    (r : Resume) (w : World) : Uncounted w ((x.step r).run w).run := by
  cases x with
  | courier c => cases other
  | parked d due waiting => exact parkedStep_uncounted d due waiting r w
  | closer phase done => exact closerStep_uncounted phase done w
  | expire s => exact expireStep_uncounted s w
  | chore c =>
    cases c with
    | closeQueue s done => exact closeQueueStep_uncounted s done r w
    | _ => cases kind
  | _ => cases kind

/-- **Every step of a fiber of the queue counts exactly the retry it begins.** -/
theorem fiberStep_countsRetry {x : Fiber} (kind : x.dispatching = true) (r : Resume) (w : World) :
    CountsRetry w ((x.step r).run w).run := by
  cases courier : x.isCourier with
  | false => exact (fiberStep_uncounted kind courier r w).countsRetry
  | true =>
    cases x with
    | courier c => exact courierStep_countsRetry c r w
    | _ => cases courier

/-- Moving the clock changes no count: its alarms only wake fibers and start expiries. -/
theorem retries_advance (w : World) : (advance.run w).run.2.retries = w.retries := by
  apply retries_of_outlet
  simp only [advance, StateT.run_bind, StateT.run_get, pure_bind]
  split
  · rfl
  · simp only [StateT.run_bind, StateT.run_set, pure_bind, Id.run_bind]
    refine forIn_keeps (I := fun v => v.outlet = w.outlet) ?_ rfl
    intro a _ v same
    split
    · simp only [StateT.run_bind, StateT.run_get, pure_bind]
      split
      · exact ⟨rfl, same⟩
      · exact ⟨rfl, same⟩
    · simp only [StateT.run_bind, StateT.run_get, pure_bind]
      split
      · exact ⟨rfl, same⟩
      · exact ⟨rfl, same⟩
    · exact ⟨rfl, same⟩

end Others

end World

end JobEngine
