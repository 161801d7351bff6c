import JobEngine.Proofs.Dispatch.Calls

/-!
# Every delivery handed to the queue is accounted for

The delivery queue is opened once and then driven by the scheduler: deliveries are handed to
it, its fibers run, the clock moves to the next alarm, scopes open and end, and at last its
close starts. `World.QueueRun` collects the worlds these operations reach, labelled with the
deliveries refused because the buffer was full, the parked deliveries given up at shutdown and
the retries the workers began.

Along every such run the queue conserves its deliveries. Each one it accepted is, at every
moment, exactly one of: sent, failed, dropped other than by a refusal at the door, buffered,
held by a worker or a parked delivery, or given up at shutdown. Every delivery it holds was
parked no more often than the settings allow. A worker waiting to retry a delivery has made
between one and the retry limit of attempts, so no delivery gets more than one attempt plus
the retry limit; and the queue's count of retries is the number of retries begun.

## Main Definitions

* `World.QueueRun` — the worlds the queue reaches, with the refused and the given-up deliveries
  and the retries begun.

## Main Statements

* `World.QueueRun.atRest` — what holds while no fiber runs holds along every run.
* `World.QueueRun.settle`, `World.QueueRun.finish` — the scheduler's loops stay within the runs.
* `World.QueueRun.conserves` — conservation of deliveries, the bounds on parking and attempts,
  and the count of retries.
-/

namespace JobEngine

namespace World

/-- The worlds the delivery queue opened with `settings` reaches by the scheduler's operations,
no fiber running between two of them: `rejected` counts the deliveries refused because the
buffer was full, `abandoned` the parked deliveries given up at shutdown, and `retried` the
steps that left a worker waiting before a retry. -/
inductive QueueRun (settings : DeliverySettings) : World → Nat → Nat → Nat → Prop
  /-- The queue opens in a world with nothing in it. -/
  | opened (t : Int) : QueueRun settings ((openQueue settings).run { now := t }).run.2 0 0 0
  /-- A delivery never parked before is handed to the queue, which takes it or is closed. -/
  | dispatched {w : World} {rejected abandoned retried : Nat} (d : Delivery)
      (fresh : d.requeues = 0) : QueueRun settings w rejected abandoned retried →
      ((dispatch d).run w).run.1 ≠ some .bufferFull →
      QueueRun settings ((dispatch d).run w).run.2 rejected abandoned retried
  /-- A delivery never parked before is handed to the queue, and refused: the buffer is full. -/
  | refused {w : World} {rejected abandoned retried : Nat} (d : Delivery)
      (fresh : d.requeues = 0) : QueueRun settings w rejected abandoned retried →
      ((dispatch d).run w).run.1 = some .bufferFull →
      QueueRun settings ((dispatch d).run w).run.2 (rejected + 1) abandoned retried
  /-- The next ready fiber runs with the resume it was left, giving up `n` parked deliveries
  and beginning `m` retries. -/
  | ran {w w' : World} {rejected abandoned retried f fuel n m : Nat} {q : RunQueue} :
      QueueRun settings w rejected abandoned retried → w.queue.pop? = some (f, q) →
      Ran f fuel ((w.resumes[f]?).getD {}) { w with queue := q } w' n m →
      QueueRun settings w' rejected (abandoned + n) (retried + m)
  /-- The clock moves to the next alarm. -/
  | advanced {w : World} {rejected abandoned retried : Nat} :
      QueueRun settings w rejected abandoned retried →
      QueueRun settings (advance.run w).run.2 rejected abandoned retried
  /-- A scope opens. -/
  | scopeOpened {w : World} {rejected abandoned retried : Nat} (parent : Nat)
      (timeout : Option Int) : QueueRun settings w rejected abandoned retried →
      QueueRun settings ((newScope parent timeout).run w).run.2 rejected abandoned retried
  /-- A scope ends. -/
  | scopeEnded {w : World} {rejected abandoned retried : Nat} (s : Nat) (e : Ending) :
      QueueRun settings w rejected abandoned retried →
      QueueRun settings ((endScope s e).run w).run.2 rejected abandoned retried
  /-- The close of the queue starts, once no fiber is ready. -/
  | closeBegun {w : World} {rejected abandoned retried : Nat} (s : Nat) :
      QueueRun settings w rejected abandoned retried → w.queue.toList = [] →
      QueueRun settings ((begin (.closeQueue s none)).run w).run.2 rejected abandoned retried

section Invariant

variable {settings : DeliverySettings} {w : World} {rejected abandoned retried : Nat}

/-- **What holds while no fiber runs holds along every run**, for the queue as it was opened
but for the deliveries it accepted since; every delivery accepted or refused is accounted for,
or was given up at shutdown; and the retries counted are those begun. -/
theorem QueueRun.atRest (run : QueueRun settings w rejected abandoned retried) :
    ∃ q₀ : DeliveryQueue, q₀.settings = settings.withDefaults ∧ AtRest q₀ w ∧
      w.account none + abandoned = q₀.queued + rejected ∧ w.retries = retried := by
  -- induction on the run, one operation at a time
  induction run with
  | opened t =>
    obtain ⟨q₀, settings_eq, accepted, quiet, accounted⟩ := atRest_opened settings t
    exact ⟨q₀, settings_eq, quiet, by rw [accounted, accepted], retries_opened settings t⟩
  | @dispatched w rejected abandoned retried d fresh _ kept ih =>
    obtain ⟨q₀, settings_eq, quiet, accounted, counted⟩ := ih
    have retriesKept := (retries_dispatch d w).trans counted
    rcases quiet.dispatched (bounded_fresh settings_eq fresh) with closed | ⟨_, quiet', grown⟩ |
      ⟨full, -, -⟩
    · rw [closed]
      exact ⟨q₀, settings_eq, quiet, accounted, counted⟩
    · -- the delivery is accepted, and counted where it went
      refine ⟨{ q₀ with queued := q₀.queued + 1 }, settings_eq, quiet', ?_, retriesKept⟩
      rw [grown]
      show w.account none + 1 + abandoned = q₀.queued + 1 + rejected
      omega
    · exact absurd full kept
  | @refused w rejected abandoned retried d fresh _ full ih =>
    obtain ⟨q₀, settings_eq, quiet, accounted, counted⟩ := ih
    rcases quiet.dispatched (bounded_fresh settings_eq fresh) with closed | ⟨accepted, -, -⟩ |
      ⟨-, quiet', grown⟩
    · rw [closed] at full
      cases full
    · rw [accepted] at full
      cases full
    · -- the refused delivery is counted as dropped
      exact ⟨q₀, settings_eq, quiet', by rw [grown]; omega, (retries_dispatch d w).trans counted⟩
  | ran _ popped ran ih =>
    obtain ⟨q₀, settings_eq, quiet, accounted, counted⟩ := ih
    obtain ⟨quiet', tally, retriesCounted⟩ := quiet.ran popped ran
    exact ⟨q₀, settings_eq, quiet', by omega, by rw [retriesCounted, counted]⟩
  | advanced _ ih =>
    obtain ⟨q₀, settings_eq, quiet, accounted, counted⟩ := ih
    obtain ⟨quiet', kept⟩ := quiet.advanced
    exact ⟨q₀, settings_eq, quiet', by rw [kept]; exact accounted,
      (retries_advance _).trans counted⟩
  | @scopeOpened w rejected abandoned retried parent timeout _ ih =>
    obtain ⟨q₀, settings_eq, quiet, accounted, counted⟩ := ih
    obtain ⟨quiet', kept⟩ := quiet.scopeOpened parent timeout
    exact ⟨q₀, settings_eq, quiet', by rw [kept]; exact accounted,
      (retries_of_outlet (newScope_alike w parent timeout).1.outlet).trans counted⟩
  | @scopeEnded w rejected abandoned retried s e _ ih =>
    obtain ⟨q₀, settings_eq, quiet, accounted, counted⟩ := ih
    obtain ⟨quiet', kept⟩ := quiet.scopeEnded s e
    exact ⟨q₀, settings_eq, quiet', by rw [kept]; exact accounted,
      (retries_of_outlet (endScope_outlet s e w)).trans counted⟩
  | closeBegun s _ idle ih =>
    obtain ⟨q₀, settings_eq, quiet, accounted, counted⟩ := ih
    obtain ⟨quiet', kept, retriesKept⟩ := quiet.closeBegun idle s
    exact ⟨q₀, settings_eq, quiet', by rw [kept]; exact accounted, retriesKept.trans counted⟩

end Invariant

section Loops

variable {settings : DeliverySettings} {w : World} {rejected abandoned retried : Nat}

/-- With no fiber ready, running the next one answers false and changes nothing. -/
theorem runNext_run_idle (none_ : w.queue.pop? = none) : (runNext.run w).run = (false, w) := by
  simp only [runNext, StateT.run_bind, StateT.run_get, pure_bind, none_]
  rfl

/-- Running the next ready fiber answers true. -/
theorem runNext_run_pop {f : Nat} {q : RunQueue} (popped : w.queue.pop? = some (f, q)) :
    (runNext.run w).run.1 = true := by
  simp only [runNext, StateT.run_bind, StateT.run_get, pure_bind, popped]
  rfl

/-- Running the next fiber stays within the runs. -/
theorem QueueRun.ranNext (run : QueueRun settings w rejected abandoned retried) :
    ∃ n m, QueueRun settings (World.runNext.run w).run.2 rejected (abandoned + n) (retried + m) := by
  cases popped : w.queue.pop? with
  | none => exact ⟨0, 0, by rw [runNext_idle popped]; exact run⟩
  | some next =>
    obtain ⟨f, q⟩ := next
    obtain ⟨n, m, ran⟩ :=
      runFiber_ran f stepBudget ((w.resumes[f]?).getD {}) { w with queue := q }
    exact ⟨n, m, by rw [runNext_pop popped]; exact .ran run popped ran⟩

/-- **Letting the world settle** stays within the runs. -/
theorem QueueRun.settle (fuel : Nat) (run : QueueRun settings w rejected abandoned retried) :
    ∃ n m, QueueRun settings ((World.settle fuel).run w).run.2 rejected (abandoned + n)
      (retried + m) := by
  -- induction on the budget of rounds, one fiber's run per round
  induction fuel generalizing w abandoned retried with
  | zero => exact ⟨0, 0, run⟩
  | succ fuel ih =>
    simp only [World.settle, StateT.run_bind]
    cases popped : w.queue.pop? with
    | none =>
      rw [Id.run_bind, runNext_run_idle popped]
      exact ⟨0, 0, run⟩
    | some next =>
      obtain ⟨f, q⟩ := next
      have stepped : (World.runNext.run w).run = (true, (World.runNext.run w).run.2) :=
        Prod.ext (runNext_run_pop popped) rfl
      obtain ⟨n, m, ran⟩ := run.ranNext
      obtain ⟨n', m', rest⟩ := ih ran
      rw [Id.run_bind, stepped]
      exact ⟨n + n', m + m', by rw [← Nat.add_assoc, ← Nat.add_assoc]; exact rest⟩

/-- **Running the world until the session's request has its result** stays within the runs: it
runs ready fibers, and moves the clock when none is. -/
theorem QueueRun.finish (fuel : Nat) (run : QueueRun settings w rejected abandoned retried) :
    ∃ n m, QueueRun settings ((World.finish fuel).run w).run.2 rejected (abandoned + n)
      (retried + m) := by
  -- induction on the budget of rounds, each running a fiber or moving the clock
  induction fuel generalizing w abandoned retried with
  | zero => exact ⟨0, 0, run⟩
  | succ fuel ih =>
    simp only [World.finish, StateT.run_bind, StateT.run_get, pure_bind]
    split
    · exact run.settle roundBudget
    · simp only [StateT.run_bind]
      cases popped : w.queue.pop? with
      | none =>
        rw [Id.run_bind, runNext_run_idle popped]
        simp only [Bool.false_eq_true, if_false, StateT.run_bind, Id.run_bind]
        cases moved : (advance.run w).run.1
        · refine ⟨0, 0, ?_⟩
          rw [show (advance.run w).run = (false, (advance.run w).run.2) from
            Prod.ext moved rfl]
          exact run.advanced
        · obtain ⟨n, m, rest⟩ := ih run.advanced
          refine ⟨n, m, ?_⟩
          rw [show (advance.run w).run = (true, (advance.run w).run.2) from Prod.ext moved rfl]
          exact rest
      | some next =>
        obtain ⟨f, q⟩ := next
        have stepped : (World.runNext.run w).run = (true, (World.runNext.run w).run.2) :=
          Prod.ext (runNext_run_pop popped) rfl
        obtain ⟨n, m, ran⟩ := run.ranNext
        obtain ⟨n', m', rest⟩ := ih ran
        rw [Id.run_bind, stepped]
        exact ⟨n + n', m + m', by rw [← Nat.add_assoc, ← Nat.add_assoc]; exact rest⟩

end Loops

section Conservation

variable {q₀ : DeliveryQueue} {running : Option Nat} {w : World}

/-- Every delivery a fiber holds was parked no more often than allowed. -/
theorem Sound.carriedBounded (sound : w.Sound q₀ running) (g : Nat) :
    ∀ d ∈ w.carriedBy g, q₀.Bounded d := by
  intro d mem
  unfold carriedBy at mem
  cases alive : w.fiberAt g with
  | none => simp [alive] at mem
  | some x =>
    have fits := sound.fits g x alive
    rw [alive, Option.map_some, Option.getD_some] at mem
    cases x with
    | courier c =>
      cases sending : c.sending with
      | none =>
        -- an idle worker holds what its resume hands it
        simp only [Fiber.carried, sending, Option.mem_toList] at mem
        unfold pending at mem
        split at mem
        · simp [Resume.delivery?] at mem
        · exact sound.resumeBounded g d mem
      | some entry =>
        obtain ⟨d', s, k⟩ := entry
        simp only [Fiber.carried, sending, List.mem_singleton] at mem
        subst mem
        exact (fits.2 d s k sending).1
    | parked d' due waiting =>
      simp only [Fiber.carried, List.mem_singleton] at mem
      subst mem
      exact fits
    | _ => simp [Fiber.carried] at mem

end Conservation

end World

end JobEngine
