import JobEngine.Proofs.Dispatch.Holdings

/-!
# What the delivery queue's fibers keep true

The workers, the parked deliveries, the closer and the close of the queue keep a set of facts
about the world true between any two of their steps, and within a worker's step about every
fiber but the worker itself: `World.Sound`. It says what each fiber may hold and wait for,
that the alarms and the waits agree, that shutdown is raised exactly when the queue is closed,
and what a fiber will do when it next runs.

## Main Definitions

* `DeliveryQueue.Fits` — what a fiber's own state may be.
* `DeliveryQueue.WaitsFit` — what a fiber may wait for.
* `DeliveryQueue.Primed` — what a fiber's next step may rely on, given its resume.
* `DeliveryQueue.Drained` — nothing left queued, no worker and no parked delivery.
* `World.Sound` — the invariant.
* `World.account` — what the counters and the holders account for.
-/

namespace JobEngine

namespace Fiber

/-- A fiber of the delivery queue: a worker, a parked delivery, the closer, a deadline's
expiry, or the close of the queue. -/
def dispatching : Fiber → Bool
  | .courier _ | .parked .. | .closer .. | .expire _ | .chore (.closeQueue _ _) => true
  | _ => false

/-- Whether a fiber is a worker. -/
def isCourier : Fiber → Bool
  | .courier _ => true
  | _ => false

/-- Whether a fiber is a parked delivery. -/
def isParked : Fiber → Bool
  | .parked .. => true
  | _ => false

/-- The signal a closer raises, and that the close waits for. -/
def doneSignal : Fiber → Option Nat
  | .closer _ done => some done
  | .chore (.closeQueue _ (some done)) => some done
  | _ => none

end Fiber

namespace World

/-- The value of a counter. -/
def counter (w : World) (g : Nat) : Nat := (w.counters[g]?).getD 0

/-- The messages buffered in a channel. -/
def buffer (w : World) (ch : Nat) : List Message := ((w.channels[ch]?).map (·.buffer)).getD []

theorem depth_eq_length (w : World) (ch : Nat) : w.depth ch = (w.buffer ch).length := by
  unfold depth buffer
  cases w.channels[ch]? <;> rfl

/-- Whether the delivery queue is closed. -/
def closedQueue (w : World) : Bool := ((queue? w).map (·.closed)).getD false

/-- The number of fibers of a kind, the running one, if any, left out. -/
def census (w : World) (running : Option Nat) (kind : Fiber → Bool) : Nat :=
  w.othersSum running fun g => if ((w.fiberAt g).map kind).getD false then 1 else 0

/-- What the counters and the holders account for: deliveries sent, failed, dropped and
buffered, and those the fibers hold, the running one, if any, left out. -/
def account (w : World) (running : Option Nat) : Nat :=
  match queue? w with
  | some q => q.delivered + q.failed + q.dropped + w.depth q.queue + w.held running
  | none => 0

end World

namespace DeliveryQueue

open World

/-- The parts of a delivery queue that no fiber of it changes: what is fixed once it is open,
and the count of deliveries it accepted, which only a hand-over changes. -/
structure Agrees (q q₀ : DeliveryQueue) : Prop where
  settings : q.settings = q₀.settings
  queue : q.queue = q₀.queue
  shutdown : q.shutdown = q₀.shutdown
  workers : q.workers = q₀.workers
  parked : q.parked = q₀.parked
  queued : q.queued = q₀.queued

variable (q : DeliveryQueue)

/-- A delivery parked no more often than the queue allows. -/
def Bounded (d : Delivery) : Prop := (d.requeues : Int) ≤ q.settings.maxRequeues

/-- The number of retries after a first attempt. -/
def retryLimit : Int := max q.settings.maxRetries 0

/-- What a fiber's own state may be: an idle worker does not drain, a sending one waits for a
retry within the limit; every delivery held was parked no more often than allowed. -/
def Fits : Fiber → Prop
  | .courier c => (c.sending = none → c.draining = false) ∧
      ∀ d s k, c.sending = some (d, s, k) → q.Bounded d ∧ 1 ≤ k ∧ (k : Int) ≤ q.retryLimit
  | .parked d _ _ => q.Bounded d
  | _ => True

/-- What a fiber waits for: an idle worker for a delivery or shutdown, a sending worker for
its attempts' scope or its backoff; a parked delivery for shutdown or its due time; the closer
for a counter to drain; the close for the closer or its deadline. -/
def WaitsFit : Fiber → List Wait → Prop
  | .courier c, waits => (c.sending = none ∧ waits = Courier.idle q) ∨
      ∃ d s k t, c.sending = some (d, s, k) ∧ waits = [.scope s, .alarm t]
  | .parked _ due true, waits => waits = [.signal q.shutdown, .alarm due]
  | .closer 1 _, waits => waits = [.drained q.workers]
  | .closer 2 _, waits => waits = [.drained q.parked]
  | .chore (.closeQueue s (some done)), waits => waits = [.signal done, .scope s]
  | _, _ => False

/-- The closer waits only in its phases 1 and 2, each time for a counter to drain. -/
theorem waitsFit_closer {p done : Nat} {waits : List Wait} (fit : q.WaitsFit (.closer p done) waits) :
    p = 1 ∧ waits = [.drained q.workers] ∨ p = 2 ∧ waits = [.drained q.parked] := by
  rcases p with _ | _ | _ | p <;> simp [WaitsFit] at fit ⊢ <;> exact fit

/-- What a fiber's next step relies on, when it goes on with resume `r` and `waiting` says
whether it still waits: a worker drains only after shutdown; after shutdown a parked delivery
never goes back on the queue; the closer runs on only once the counter it waited for drained;
the close answers that the queue drained only once the closer said so. -/
def Primed (w : World) : Fiber → Bool → Resume → Prop
  | .courier c, waiting, r => (c.draining = true → w.isRaised q.shutdown = true) ∧
      (c.sending = none → waiting = false → r.choice = 1 → w.isRaised q.shutdown = true)
  | .parked _ _ true, waiting, r => w.isRaised q.shutdown = true → waiting = false ∧ r.choice ≠ 1
  | .closer p done, waiting, _ => w.closedQueue = true ∧ done ≠ q.shutdown ∧
      done < w.signals.size ∧ (p = 1 → waiting = false → w.counter q.workers = 0) ∧
      (2 ≤ p → w.counter q.workers = 0 ∧ (waiting = false → w.counter q.parked = 0))
  | .chore (.closeQueue _ (some done)), waiting, r => w.closedQueue = true ∧ done ≠ q.shutdown ∧
      done < w.signals.size ∧ (waiting = false → r.choice = 0 → w.isRaised done = true)
  | _, _, _ => True

/-- Nothing is left: the queue's channel is empty and no worker and no parked delivery is
left. -/
def Drained (w : World) : Prop :=
  w.depth q.queue = 0 ∧ ∀ g x, w.fiberAt g = some x → x.isCourier = false ∧ x.isParked = false

end DeliveryQueue

namespace World

/-- What the queue's fibers keep true, for the queue opened as `q₀`, with `running` the fiber
that runs, if any. -/
structure Sound (q₀ : DeliveryQueue) (w : World) (running : Option Nat) : Prop where
  scheduled : w.Scheduled running
  outlet : ∃ q, queue? w = some q ∧ q.Agrees q₀
  signal : q₀.shutdown < w.signals.size
  kinds : ∀ g x, w.fiberAt g = some x → x.dispatching = true
  fits : ∀ g x, w.fiberAt g = some x → q₀.Fits x
  waits : ∀ b ∈ w.blocked, ∃ x, w.fiberAt b.fiber = some x ∧ q₀.WaitsFit x b.waits
  buffered : ∀ m ∈ w.buffer q₀.queue, ∃ d, m = .delivery d ∧ q₀.Bounded d
  resumes : ∀ r ∈ w.resumes, ∀ d ∈ r.delivery?, q₀.Bounded d
  alarms : ∀ a ∈ w.alarms, ∀ g, a.fiber = some g →
    ∃ b ∈ w.blocked, b.fiber = g ∧ b.waits[a.choice]? = some (.alarm a.due)
  stranded : ∀ g x, w.fiberAt g = some x → running ≠ some g →
    w.isBlocked g = true ∨ g ∈ w.queue.toList
  primed : ∀ g x, w.fiberAt g = some x → running ≠ some g →
    q₀.Primed w x (w.isBlocked g) (w.pending g)
  shut : w.isRaised q₀.shutdown = w.closedQueue
  opened : w.closedQueue = false → 1 ≤ w.counter q₀.workers
  emptied : w.closedQueue = true → w.counter q₀.workers = 0 → w.depth q₀.queue = 0
  done : ∀ g x d, w.fiberAt g = some x → x.doneSignal = some d → w.isRaised d = true →
    q₀.Drained w
  staffed : w.census running Fiber.isCourier ≤ w.counter q₀.workers
  parkedCounted : w.census running Fiber.isParked ≤ w.counter q₀.parked
  apart : q₀.workers ≠ q₀.parked
  parkedSlot : q₀.parked < w.counters.size


/-- `w'` agrees with `w` on everything the invariant and the account read, and on the
session's result, but for the channels and for alarms that wake no fiber. -/
structure Alike (w w' : World) : Prop where
  fibers : w'.fibers = w.fibers
  resumes : w'.resumes = w.resumes
  blocked : w'.blocked = w.blocked
  queue : w'.queue = w.queue
  signals : w'.signals = w.signals
  counters : w'.counters = w.counters
  outlet : w'.outlet = w.outlet
  chore : w'.choreResult = w.choreResult
  alarms : ∀ a ∈ w'.alarms, a.fiber.isSome → a ∈ w.alarms

section Alike

variable {w w' : World} (alike : Alike w w')
include alike

theorem Alike.fiberAt : w'.fiberAt = w.fiberAt := by
  funext g
  simp [World.fiberAt, alike.fibers]

theorem Alike.isBlocked : w'.isBlocked = w.isBlocked := by
  funext g
  simp [World.isBlocked, alike.blocked]

theorem Alike.pending : w'.pending = w.pending := by
  funext g
  simp [World.pending, alike.isBlocked, alike.resumes]

theorem Alike.carriedBy : w'.carriedBy = w.carriedBy := by
  funext g
  simp [World.carriedBy, alike.fiberAt, alike.pending]

theorem Alike.othersSum (running : Option Nat) (v : Nat → Nat) :
    w'.othersSum running v = w.othersSum running v := by
  simp [World.othersSum, alike.fibers]

theorem Alike.held (running : Option Nat) : w'.held running = w.held running := by
  simp only [World.held, alike.othersSum, alike.carriedBy]

theorem Alike.census (running : Option Nat) (kind : Fiber → Bool) :
    w'.census running kind = w.census running kind := by
  simp only [World.census, alike.othersSum, alike.fiberAt]

theorem Alike.queue? : queue? w' = queue? w := by
  simp [World.queue?, alike.outlet]

theorem Alike.account (channels : w'.channels = w.channels) (running : Option Nat) :
    w'.account running = w.account running := by
  simp only [World.account, alike.queue?, World.depth, channels, alike.held]

theorem Alike.counter : w'.counter = w.counter := by
  funext g
  simp [World.counter, alike.counters]


theorem Alike.isRaised : w'.isRaised = w.isRaised := by
  funext g
  simp [World.isRaised, alike.signals]

theorem Alike.closedQueue : w'.closedQueue = w.closedQueue := by
  simp [World.closedQueue, alike.queue?]

theorem Alike.primed (q₀ : DeliveryQueue) : q₀.Primed w' = q₀.Primed w := by
  funext x waiting r
  cases x with
  | parked d due waiting' => cases waiting' <;> simp [DeliveryQueue.Primed, alike.isRaised]
  | chore c =>
    cases c with
    | closeQueue s done =>
      cases done <;> simp [DeliveryQueue.Primed, alike.isRaised, alike.closedQueue, alike.signals]
    | _ => rfl
  | _ => simp [DeliveryQueue.Primed, alike.isRaised, alike.closedQueue, alike.signals,
      alike.counter]

theorem Alike.drained (q₀ : DeliveryQueue) : q₀.Drained w' ↔
    w'.depth q₀.queue = 0 ∧ ∀ g x, w.fiberAt g = some x → x.isCourier = false ∧ x.isParked = false := by
  simp [DeliveryQueue.Drained, alike.fiberAt]

theorem Alike.scheduled {running : Option Nat} (sched : w.Scheduled running) :
    w'.Scheduled running where
  waitsOnce := by rw [alike.blocked]; exact sched.waitsOnce
  readyOnce := by rw [alike.queue]; exact sched.readyOnce
  readyFree := by rw [alike.queue, alike.isBlocked]; exact sched.readyFree
  runningFree := by rw [alike.queue, alike.isBlocked]; exact sched.runningFree
  runningExists := by rw [alike.fibers]; exact sched.runningExists
  waitersExist := by rw [alike.blocked, alike.fibers]; exact sched.waitersExist
  readyExist := by rw [alike.queue, alike.fibers]; exact sched.readyExist
  slots := by rw [alike.resumes, alike.fibers]; exact sched.slots

/-- An operation that changes nothing the invariant reads but the queue's buffer keeps the
invariant when the buffer holds only deliveries parked no more often than allowed, is empty
once the queue closed and its workers stopped, and is empty if a done signal is raised. -/
theorem Alike.sound_rebuffered {q₀ : DeliveryQueue} {running : Option Nat}
    (sound : w.Sound q₀ running)
    (buffered : ∀ m ∈ w'.buffer q₀.queue, ∃ d, m = .delivery d ∧ q₀.Bounded d)
    (emptied : w'.closedQueue = true → w'.counter q₀.workers = 0 → w'.depth q₀.queue = 0)
    (done : ∀ g x d, w.fiberAt g = some x → x.doneSignal = some d → w.isRaised d = true →
      w'.depth q₀.queue = 0) :
    w'.Sound q₀ running where
  scheduled := alike.scheduled sound.scheduled
  outlet := by rw [alike.queue?]; exact sound.outlet
  signal := by rw [alike.signals]; exact sound.signal
  kinds := by rw [alike.fiberAt]; exact sound.kinds
  fits := by rw [alike.fiberAt]; exact sound.fits
  waits := by rw [alike.blocked, alike.fiberAt]; exact sound.waits
  buffered := buffered
  resumes := by rw [alike.resumes]; exact sound.resumes
  alarms := fun a mem g owner => by
    rw [alike.blocked]
    exact sound.alarms a (alike.alarms a mem (by simp [owner])) g owner
  stranded := by rw [alike.fiberAt, alike.isBlocked, alike.queue]; exact sound.stranded
  primed := by rw [alike.fiberAt, alike.isBlocked, alike.pending, alike.primed]; exact sound.primed
  shut := by rw [alike.isRaised, alike.closedQueue]; exact sound.shut
  opened := by rw [alike.closedQueue, alike.counter]; exact sound.opened
  emptied := emptied
  done := fun g x d alive signal raised => by
    rw [alike.fiberAt] at alive
    rw [alike.isRaised] at raised
    exact (alike.drained q₀).mpr ⟨done g x d alive signal raised,
      (sound.done g x d alive signal raised).2⟩
  staffed := by rw [alike.census, alike.counter]; exact sound.staffed
  parkedCounted := by rw [alike.census, alike.counter]; exact sound.parkedCounted
  apart := sound.apart
  parkedSlot := by rw [alike.counters]; exact sound.parkedSlot

/-- An operation that changes nothing the invariant reads keeps it. -/
theorem Alike.sound {q₀ : DeliveryQueue} {running : Option Nat} (channels : w'.channels = w.channels)
    (sound : w.Sound q₀ running) : w'.Sound q₀ running := by
  have buffer : w'.buffer = w.buffer := by
    funext ch
    simp [World.buffer, channels]
  have depth : w'.depth = w.depth := by
    funext ch
    simp [World.depth, channels]
  refine alike.sound_rebuffered sound (buffer ▸ sound.buffered) ?_ ?_
  · rw [alike.closedQueue, alike.counter, depth]
    exact sound.emptied
  · intro g x d alive signal raised
    rw [depth]
    exact (sound.done g x d alive signal raised).1

end Alike


section Wakes

variable {q₀ : DeliveryQueue} {running : Option Nat}

theorem primed_woken (w : World) (g : Nat) (r : Resume) :
    q₀.Primed (w.woken g r) = q₀.Primed w := rfl

theorem drained_woken (w : World) (g : Nat) (r : Resume) :
    q₀.Drained (w.woken g r) = q₀.Drained w := rfl

theorem census_woken (w : World) (g : Nat) (r : Resume) (kind : Fiber → Bool) :
    (w.woken g r).census running kind = w.census running kind := rfl

/-- A fiber woken at a wait it answers is primed for the resume that names the wait. -/
theorem primed_of_answers {w : World} {x : Fiber} {waits : List Wait} (fit : q₀.WaitsFit x waits)
    {k : Nat} {wt : Wait} (at_ : waits[k]? = some wt) (fired : w.answers wt = true)
    (before : q₀.Primed w x true {}) : q₀.Primed w x false { choice := k } := by
  cases x with
  | courier c =>
    refine ⟨before.1, fun idle _ one => ?_⟩
    rcases fit with ⟨-, rfl⟩ | ⟨d, s, k', t, sending, -⟩
    · subst one
      simp only [Courier.idle, List.getElem?_cons_succ, List.getElem?_cons_zero,
        Option.some.injEq] at at_
      subst at_
      exact fired
    · simp [idle] at sending
  | parked d due waiting =>
    cases waiting with
    | false => trivial
    | true => exact fun raised => absurd (before raised).1 (by simp)
  | closer p done =>
    obtain ⟨closed, apart, sized, one, two⟩ := before
    refine ⟨closed, apart, sized, fun same _ => ?_, fun big => ⟨(two big).1, fun _ => ?_⟩⟩
    · subst same
      simp only [DeliveryQueue.WaitsFit] at fit
      subst fit
      cases k with
      | zero =>
        simp only [List.getElem?_cons_zero, Option.some.injEq] at at_
        subst at_
        simpa [answers, satisfied, counter] using fired
      | succ => simp at at_
    · rcases Nat.lt_or_ge p 3 with small | large
      · obtain rfl : p = 2 := by omega
        simp only [DeliveryQueue.WaitsFit] at fit
        subst fit
        cases k with
        | zero =>
          simp only [List.getElem?_cons_zero, Option.some.injEq] at at_
          subst at_
          simpa [answers, satisfied, counter] using fired
        | succ => simp at at_
      · obtain ⟨p, rfl⟩ : ∃ n, p = n + 3 := ⟨p - 3, by omega⟩
        simp [DeliveryQueue.WaitsFit] at fit
  | chore c =>
    cases c with
    | closeQueue s done =>
      cases done with
      | none => trivial
      | some done =>
        obtain ⟨closed, apart, sized, _⟩ := before
        refine ⟨closed, apart, sized, fun _ zero => ?_⟩
        simp only [DeliveryQueue.WaitsFit] at fit
        subst fit zero
        simp only [List.getElem?_cons_zero, Option.some.injEq] at at_
        subst at_
        exact fired
    | _ => trivial
  | _ => trivial

/-- Waking a waiting fiber other than the running one keeps the invariant when the resume hands
over a delivery parked no more often than allowed and the fiber is primed for it. -/
theorem Sound.wake {w : World} (sound : w.Sound q₀ running) {b : Blocked} (entry : b ∈ w.blocked)
    (other : running ≠ some b.fiber) {r : Resume} (bounded : ∀ d ∈ r.delivery?, q₀.Bounded d)
    (primed : ∀ x, w.fiberAt b.fiber = some x → q₀.Primed w x false r) :
    (w.woken b.fiber r).Sound q₀ running := by
  have waiting : w.isBlocked b.fiber = true := isBlocked_iff.mpr ⟨b, entry, rfl⟩
  have inside : b.fiber < w.fibers.size := sound.scheduled.waitersExist b entry
  refine
    { scheduled := woken_scheduled sound.scheduled waiting other
      outlet := sound.outlet
      signal := sound.signal
      kinds := sound.kinds
      fits := sound.fits
      waits := fun b' mem => sound.waits b' (List.mem_of_mem_filter mem)
      buffered := sound.buffered
      resumes := fun r' mem => ?_
      alarms := fun a mem g owner' => ?_
      stranded := fun g y alive other' => ?_
      primed := fun g y alive other' => ?_
      shut := sound.shut
      opened := sound.opened
      emptied := sound.emptied
      done := sound.done
      staffed := sound.staffed
      parkedCounted := sound.parkedCounted
      apart := sound.apart
      parkedSlot := sound.parkedSlot }
  · rcases Array.mem_or_eq_of_mem_setIfInBounds mem with old | rfl
    · exact sound.resumes r' old
    · exact bounded
  · obtain ⟨kept, apart⟩ := List.mem_filter.mp mem
    obtain ⟨b', entry', rfl, at'⟩ := sound.alarms a kept g owner'
    refine ⟨b', List.mem_filter.mpr ⟨entry', ?_⟩, rfl, at'⟩
    simpa [owner'] using apart
  · rw [woken_isBlocked]
    by_cases same : g = b.fiber
    · subst same
      exact .inr (RunQueue.mem_ready.mpr (.inl rfl))
    · rcases sound.stranded g y alive other' with blocked | ready
      · exact .inl (by simp [same, blocked])
      · exact .inr (RunQueue.mem_ready.mpr (.inr ready))
  · rw [primed_woken, woken_isBlocked, woken_pending sound.scheduled inside]
    by_cases same : g = b.fiber
    · subst same
      simpa using primed y alive
    · rw [show (g != b.fiber) = true from bne_iff_ne.mpr same, Bool.true_and]
      simpa [same] using sound.primed g y alive other'

/-- Waking a waiting fiber other than the running one at a wait it answers, with a resume that
hands over nothing, keeps the invariant. -/
theorem Sound.woken {w : World} (sound : w.Sound q₀ running) {b : Blocked} (entry : b ∈ w.blocked)
    {k : Nat} {wt : Wait} (at_ : b.waits[k]? = some wt) (fired : w.answers wt = true)
    (other : running ≠ some b.fiber) : (w.woken b.fiber { choice := k }).Sound q₀ running := by
  have waiting : w.isBlocked b.fiber = true := isBlocked_iff.mpr ⟨b, entry, rfl⟩
  obtain ⟨x, owner, fit⟩ := sound.waits b entry
  refine sound.wake entry other (by simp [Resume.delivery?]) fun y alive => ?_
  have : y = x := Option.some.inj (alive.symm.trans owner)
  subst this
  have before := sound.primed b.fiber y alive other
  rw [waiting, pending, if_pos waiting] at before
  exact primed_of_answers fit at_ fired before

/-- Waking a waiting fiber with a resume that hands over nothing keeps the account. -/
theorem account_woken {w : World} (sched : w.Scheduled running) {g : Nat}
    (waiting : w.isBlocked g = true) (other : running ≠ some g) {r : Resume}
    (quiet : r.delivery? = none) : (w.woken g r).account running = w.account running := by
  simp only [account, queue?, woken_outlet, depth, woken_channels,
    held_woken_of_quiet sched waiting other quiet]

theorem Stirred.sound {w w' : World} (stirred : Stirred running w w') (sound : w.Sound q₀ running) :
    w'.Sound q₀ running := by
  induction stirred with
  | refl => exact sound
  | wake entry at_ fired other _ ih => exact ih (sound.woken entry at_ fired other)

theorem Stirred.account {w w' : World} (stirred : Stirred running w w')
    (sched : w.Scheduled running) : w'.account running = w.account running := by
  induction stirred with
  | refl => rfl
  | wake entry _ _ other _ ih =>
    have waiting := isBlocked_iff.mpr ⟨_, entry, rfl⟩
    rw [ih (woken_scheduled sched waiting other),
      account_woken sched waiting other (by simp [Resume.delivery?])]

end Wakes


section Stirring

variable {running : Option Nat}

theorem Stirred.trans {w₁ w₂ w₃ : World} (first : Stirred running w₁ w₂)
    (second : Stirred running w₂ w₃) : Stirred running w₁ w₃ := by
  induction first with
  | refl => exact second
  | wake entry at_ fired other _ ih => exact .wake entry at_ fired other (ih second)

theorem Stirred.scheduled {w w' : World} (stirred : Stirred running w w')
    (sched : w.Scheduled running) : w'.Scheduled running := by
  induction stirred with
  | refl => exact sched
  | wake entry _ _ other _ ih =>
    exact ih (woken_scheduled sched (isBlocked_iff.mpr ⟨_, entry, rfl⟩) other)

theorem wakeEvery_stirred {w : World} (sched : w.Scheduled running) {p : Wait → Bool}
    (picked : ∀ wt, p wt = true → w.answers wt = true) :
    Stirred running w ((wakeEvery p).run w).run.2 := by
  unfold wakeEvery
  simp only [StateT.run_bind, StateT.run_get, Id.run_bind]
  refine stirred_of_wakes _ sched (fun x mem => waiters_wakeable picked x (List.mem_reverse.mp mem)) ?_
  rw [List.map_reverse, List.nodup_reverse]
  exact waiters_nodup sched

theorem wakeInOrder_stirred {w : World} (sched : w.Scheduled running) {p : Wait → Bool}
    (picked : ∀ wt, p wt = true → w.answers wt = true) :
    Stirred running w ((wakeInOrder p).run w).run.2 := by
  unfold wakeInOrder
  simp only [StateT.run_bind, StateT.run_get, Id.run_bind]
  exact stirred_of_wakes _ sched (waiters_wakeable picked) (waiters_nodup sched)

/-- Waking the watchers of ended scopes, one scope after the other. -/
theorem scopeWakes_stirred (ended : List Nat) {w : World} (sched : w.Scheduled running) :
    Stirred running w ((forIn ended PUnit.unit fun (i : Nat) _ => do
      wakeEvery (· == .scope i)
      pure (ForInStep.yield PUnit.unit) : WorldM PUnit).run w).run.2 := by
  induction ended generalizing w with
  | nil => exact .refl w
  | cons i rest ih =>
    have first := wakeEvery_stirred sched (p := (· == .scope i)) fun wt hit => by
      simp only [beq_iff_eq] at hit
      subst hit
      rfl
    simp only [List.forIn_eq_foldlM, List.foldlM_cons] at ih ⊢
    exact first.trans (ih (first.scheduled sched))

/-- The world once scope `s` and those below it ended, before their watchers are woken. -/
def scopesEnded (w : World) (s : Nat) (e : Ending) : World :=
  { w with scopes := (w.scopes.cancel s e).2,
           alarms := w.alarms.filter fun a => !(a.scope.any (w.scopes.cancel s e).1.contains) }

theorem scopesEnded_alike (w : World) (s : Nat) (e : Ending) : Alike w (w.scopesEnded s e) :=
  ⟨rfl, rfl, rfl, rfl, rfl, rfl, rfl, rfl, fun _ mem _ => List.mem_of_mem_filter mem⟩

theorem endScope_stirred {w : World} (s : Nat) (e : Ending) (sched : w.Scheduled running) :
    Stirred running (w.scopesEnded s e) ((endScope s e).run w).run.2 := by
  unfold endScope
  simp only [StateT.run_bind, StateT.run_get, StateT.run_set, Id.run_bind]
  exact scopeWakes_stirred _ ((scopesEnded_alike w s e).scheduled sched)

end Stirring


section Receive

variable {q₀ : DeliveryQueue} {running : Option Nat}

theorem receive?_alike (w : World) (ch : Nat) : Alike w ((receive? ch).run w).run.2 := by
  unfold receive?
  simp only [modifyGet, MonadStateOf.modifyGet, StateT.modifyGet, StateT.run]
  split
  · split <;> exact ⟨rfl, rfl, rfl, rfl, rfl, rfl, rfl, rfl, fun _ mem _ => mem⟩
  · exact ⟨rfl, rfl, rfl, rfl, rfl, rfl, rfl, rfl, fun _ mem _ => mem⟩

theorem receive?_result (w : World) (ch : Nat) :
    ((receive? ch).run w).run.1 = (w.buffer ch).head? := by
  unfold receive? buffer
  simp only [modifyGet, MonadStateOf.modifyGet, StateT.modifyGet, StateT.run]
  split
  · next c found =>
    simp only [found, Option.map_some, Option.getD_some]
    split <;> simp_all
  · next missing => simp [missing]

theorem receive?_buffer (w : World) (ch : Nat) :
    ((receive? ch).run w).run.2.buffer ch = (w.buffer ch).tail := by
  unfold receive? buffer
  simp only [modifyGet, MonadStateOf.modifyGet, StateT.modifyGet, StateT.run]
  split
  · next c found =>
    have inside : ch < w.channels.size := by
      by_contra out
      simp [Array.getElem?_eq_none (Nat.le_of_not_lt out)] at found
    rw [Array.getElem?_eq_getElem inside, Option.some.injEq] at found
    subst found
    split
    · next m rest same => simp [same, inside]
    · next same => simp [Array.getElem?_eq_getElem inside, same]
  · next missing => simp [missing]

/-- Taking a message from the queue's channel keeps the invariant. -/
theorem Sound.received {w : World} (sound : w.Sound q₀ running) :
    ((receive? q₀.queue).run w).run.2.Sound q₀ running := by
  have alike := receive?_alike w q₀.queue
  have shrink := receive?_buffer w q₀.queue
  have empty_of_zero :
      w.depth q₀.queue = 0 → ((receive? q₀.queue).run w).run.2.depth q₀.queue = 0 := by
    simp only [depth_eq_length, shrink, List.length_tail]
    omega
  refine alike.sound_rebuffered sound (fun m mem => ?_) (fun closed idle => ?_) ?_
  · rw [shrink] at mem
    exact sound.buffered m (List.mem_of_mem_tail mem)
  · rw [alike.closedQueue] at closed
    rw [alike.counter] at idle
    exact empty_of_zero (sound.emptied closed idle)
  · intro g x d alive signal raised
    exact empty_of_zero (sound.done g x d alive signal raised).1

/-- Taking a message from the queue's channel moves it out of the account. -/
theorem account_received {w : World} (sound : w.Sound q₀ running) :
    ((receive? q₀.queue).run w).run.2.account running +
      (((receive? q₀.queue).run w).run.1.map fun _ => 1).getD 0 = w.account running := by
  have alike := receive?_alike w q₀.queue
  obtain ⟨q, found, agrees⟩ := sound.outlet
  have found' : queue? ((receive? q₀.queue).run w).run.2 = some q := alike.queue? ▸ found
  simp only [account, found, found', agrees.queue, depth_eq_length, receive?_buffer,
    receive?_result, alike.held]
  cases w.buffer q₀.queue <;> simp
  omega

end Receive


section Send

variable {q₀ : DeliveryQueue} {running : Option Nat}

/-- What sending a message does: the oldest waiter is woken with it, else it is buffered when
there is room, else nothing changes. -/
theorem send_cases (w : World) (ch : Nat) (m : Message) :
    (∃ g k, (waiters (· == .inbox ch) w).head? = some (g, k) ∧
      ((send ch m).run w).run = (true, w.woken g { choice := k, message := some m })) ∨
    ((waiters (· == .inbox ch) w).head? = none ∧ ((send ch m).run w).run.1 = true ∧
      Alike w ((send ch m).run w).run.2 ∧
      ((send ch m).run w).run.2.buffer ch = w.buffer ch ++ [m]) ∨
    ((send ch m).run w).run = (false, w) := by
  unfold send
  simp only [StateT.run_bind, StateT.run_get, Id.run_bind, Id.run_pure]
  split
  · next g k found => exact .inl ⟨g, k, found, rfl⟩
  · next none_ =>
    split
    · next c found =>
      have inside : ch < w.channels.size := by
        by_contra out
        simp [Array.getElem?_eq_none (Nat.le_of_not_lt out)] at found
      rw [Array.getElem?_eq_getElem inside, Option.some.injEq] at found
      subst found
      split
      · refine .inr (.inl ⟨none_, rfl, ⟨rfl, rfl, rfl, rfl, rfl, rfl, rfl, rfl, fun _ mem _ => mem⟩, ?_⟩)
        simp [buffer, inside]
      · exact .inr (.inr rfl)
    · exact .inr (.inr rfl)

/-- The oldest waiter on the queue's channel is an idle worker, woken at its first wait. -/
theorem Sound.inbox_waiter {w : World} (sound : w.Sound q₀ running) {g k : Nat}
    (found : (waiters (· == .inbox q₀.queue) w).head? = some (g, k)) :
    ∃ b ∈ w.blocked, b.fiber = g ∧ k = 0 ∧ ∃ c, w.fiberAt g = some (.courier c) ∧ c.sending = none := by
  have mem := List.mem_of_mem_head? found
  simp only [waiters, List.mem_filterMap, Option.map_eq_some_iff] at mem
  obtain ⟨b, entry, k', hit, same⟩ := mem
  simp only [Prod.mk.injEq] at same
  obtain ⟨rfl, rfl⟩ := same
  obtain ⟨x, owner, fit⟩ := sound.waits b entry
  refine ⟨b, entry, rfl, ?_⟩
  cases x with
  | courier c =>
    rcases fit with ⟨idle, same⟩ | ⟨d, s, k, t, -, same⟩
    · simp [same, Courier.idle, List.findIdx?_cons] at hit
      exact ⟨hit.symm, c, owner, idle⟩
    · simp [same, List.findIdx?_cons] at hit
  | parked d due waiting =>
    cases waiting <;> simp only [DeliveryQueue.WaitsFit] at fit
    simp [fit, List.findIdx?_cons] at hit
  | closer p done =>
    rcases q₀.waitsFit_closer fit with ⟨-, fit⟩ | ⟨-, fit⟩ <;>
      simp [fit, List.findIdx?_cons] at hit
  | chore c =>
    cases c with
    | closeQueue s done =>
      cases done <;> simp only [DeliveryQueue.WaitsFit] at fit
      simp [fit, List.findIdx?_cons] at hit
    | _ => simp [DeliveryQueue.WaitsFit] at fit
  | _ => simp [DeliveryQueue.WaitsFit] at fit

/-- Sending a delivery parked no more often than allowed to the open queue keeps the
invariant. -/
theorem Sound.sent {w : World} (sound : w.Sound q₀ running) {d : Delivery} (bounded : q₀.Bounded d)
    (open_ : w.closedQueue = false)
    (quiet : ∀ g x e, w.fiberAt g = some x → x.doneSignal = some e → w.isRaised e = false) :
    ((send q₀.queue (.delivery d)).run w).run.2.Sound q₀ running := by
  rcases send_cases w q₀.queue (.delivery d) with ⟨g, k, found, sent⟩ | ⟨-, -, alike, grown⟩ | kept
  · rw [sent]
    obtain ⟨b, entry, rfl, rfl, c, owner, idle⟩ := sound.inbox_waiter found
    have other : running ≠ some b.fiber := fun self => by
      have := (sound.scheduled.runningFree _ self).1
      simp [isBlocked_iff.mpr ⟨b, entry, rfl⟩] at this
    refine sound.wake entry other (by simpa [Resume.delivery?] using bounded) fun x alive => ?_
    have : x = .courier c := Option.some.inj (alive.symm.trans owner)
    subst this
    have before := sound.primed b.fiber _ owner other
    exact ⟨before.1, fun _ _ one => absurd one (by simp)⟩
  · refine alike.sound_rebuffered sound (fun m mem => ?_) (fun closed _ => ?_) ?_
    · rw [grown, List.mem_append, List.mem_singleton] at mem
      rcases mem with old | rfl
      · exact sound.buffered m old
      · exact ⟨d, rfl, bounded⟩
    · rw [alike.closedQueue, open_] at closed
      cases closed
    · intro g x e alive signal raised
      rw [quiet g x e alive signal] at raised
      cases raised
  · rw [kept]
    exact sound

/-- Sending a delivery to the queue adds it to the account when it is taken. -/
theorem account_sent {w : World} (sound : w.Sound q₀ running) (d : Delivery) :
    ((send q₀.queue (.delivery d)).run w).run.2.account running =
      w.account running + if ((send q₀.queue (.delivery d)).run w).run.1 then 1 else 0 := by
  obtain ⟨q, found, agrees⟩ := sound.outlet
  rcases send_cases w q₀.queue (.delivery d) with ⟨g, k, hit, sent⟩ | ⟨-, taken, alike, grown⟩ | kept
  · rw [sent]
    obtain ⟨b, entry, rfl, rfl, c, owner, idle⟩ := sound.inbox_waiter hit
    have other : running ≠ some b.fiber := fun self => by
      have := (sound.scheduled.runningFree _ self).1
      simp [isBlocked_iff.mpr ⟨b, entry, rfl⟩] at this
    have more := held_woken_of_handed (r := { choice := 0, message := some (.delivery d) })
      sound.scheduled (isBlocked_iff.mpr ⟨b, entry, rfl⟩) other owner idle rfl
    simp only [account, queue?, woken_outlet, depth, woken_channels, more, if_true]
    simp only [queue?] at found
    split <;> simp_all
    omega
  · rw [taken, if_pos rfl]
    have found' := alike.queue? ▸ found
    simp only [account, found, found', agrees.queue, depth_eq_length, grown, alike.held,
      List.length_append, List.length_singleton]
    omega
  · rw [kept]
    simp

end Send


/-- The world once fiber `x` is started, as `spawn` leaves it. -/
def spawned (w : World) (x : Fiber) : World :=
  { w with fibers := w.fibers.push (some x), resumes := w.resumes.push {},
           queue := w.queue.ready w.fibers.size }

theorem spawn_run (w : World) (x : Fiber) : (spawn x).run w = (w.fibers.size, w.spawned x) := rfl

section Spawn

variable {q₀ : DeliveryQueue} {running : Option Nat} {w : World} {x : Fiber}

@[simp] theorem spawned_size : (w.spawned x).fibers.size = w.fibers.size + 1 := by
  simp [spawned]

theorem fiberAt_spawned (g : Nat) :
    (w.spawned x).fiberAt g = if g = w.fibers.size then some x else w.fiberAt g := by
  unfold fiberAt spawned
  split
  · next same => simp [same]
  · next other =>
    simp only [Array.getElem?_push, other, if_false]

theorem isBlocked_spawned : (w.spawned x).isBlocked = w.isBlocked := rfl

theorem pending_spawned (sched : w.Scheduled running) (g : Nat) :
    (w.spawned x).pending g = if g = w.fibers.size then {} else w.pending g := by
  unfold pending
  rw [isBlocked_spawned]
  by_cases same : g = w.fibers.size
  · subst same
    simp [spawned, ← sched.slots, Array.getElem_push]
  · by_cases blocked : w.isBlocked g <;> simp [blocked, spawned, Array.getElem?_push, sched.slots, same]

theorem carriedBy_spawned (sched : w.Scheduled running) (g : Nat) :
    (w.spawned x).carriedBy g = if g = w.fibers.size then x.carried {} else w.carriedBy g := by
  unfold carriedBy
  rw [fiberAt_spawned, pending_spawned sched]
  split <;> simp

theorem spawned_scheduled (sched : w.Scheduled running) : (w.spawned x).Scheduled running := by
  have fresh : w.fibers.size ∉ w.queue.toList := fun mem => by
    have := sched.readyExist _ mem
    omega
  have free : w.isBlocked w.fibers.size = false := by
    by_contra blocked
    obtain ⟨b, entry, owner⟩ := isBlocked_iff.mp (by simpa using blocked)
    have := sched.waitersExist b entry
    omega
  constructor
  · exact sched.waitsOnce
  · exact RunQueue.nodup_ready fresh sched.readyOnce
  · intro f mem
    rw [isBlocked_spawned]
    rcases RunQueue.mem_ready.mp mem with rfl | mem
    · exact free
    · exact sched.readyFree f mem
  · intro f self
    obtain ⟨unblocked, unready⟩ := sched.runningFree f self
    have : f < w.fibers.size := sched.runningExists f self
    refine ⟨unblocked, fun mem => ?_⟩
    rcases RunQueue.mem_ready.mp mem with rfl | mem
    · omega
    · exact unready mem
  · intro f self
    have := sched.runningExists f self
    simp only [spawned_size]
    omega
  · intro b entry
    have := sched.waitersExist b entry
    simp only [spawned_size]
    omega
  · intro f mem
    simp only [spawned_size]
    rcases RunQueue.mem_ready.mp mem with rfl | mem
    · omega
    · have := sched.readyExist f mem
      omega
  · simp [spawned, sched.slots]

/-- Starting a fiber counts it among the fibers of its kind. -/
theorem census_spawned (sched : w.Scheduled running) (kind : Fiber → Bool) :
    (w.spawned x).census running kind = w.census running kind + if kind x then 1 else 0 := by
  have other : running ≠ some w.fibers.size := fun self => by
    have := sched.runningExists _ self
    omega
  unfold census
  rw [othersSum_push spawned_size other fun g lt _ => by
      rw [fiberAt_spawned, if_neg (Nat.ne_of_lt lt)],
    fiberAt_spawned, if_pos rfl]
  rfl

/-- Starting a fiber of the queue that is primed for its first step keeps the invariant, when
a worker or a parked delivery has a place on its counter, and nothing it holds or raises breaks
what a raised done signal says. -/
theorem Sound.spawned (sound : w.Sound q₀ running) (kind : x.dispatching = true) (fits : q₀.Fits x)
    (primed : q₀.Primed w x false {})
    (worker : x.isCourier = true → w.census running Fiber.isCourier + 1 ≤ w.counter q₀.workers)
    (place : x.isParked = true → w.census running Fiber.isParked + 1 ≤ w.counter q₀.parked)
    (fresh : ∀ e, x.doneSignal = some e → w.isRaised e = false)
    (keeps : ∀ g y e, w.fiberAt g = some y → y.doneSignal = some e → w.isRaised e = true →
      x.isCourier = false ∧ x.isParked = false) :
    (w.spawned x).Sound q₀ running := by
  have sched := sound.scheduled
  have size_ne : ∀ g, g < w.fibers.size → g ≠ w.fibers.size := fun g lt => Nat.ne_of_lt lt
  have old : ∀ g y, w.fiberAt g = some y → g < w.fibers.size := fun g y alive => by
    by_contra out
    simp [fiberAt, Array.getElem?_eq_none (Nat.le_of_not_lt out)] at alive
  have census_eq := census_spawned (x := x) sched
  have primed' : q₀.Primed (w.spawned x) = q₀.Primed w := rfl
  refine
    { scheduled := spawned_scheduled sched
      outlet := sound.outlet
      signal := sound.signal
      kinds := fun g y alive => ?_
      fits := fun g y alive => ?_
      waits := fun b entry => ?_
      buffered := sound.buffered
      resumes := fun r mem => ?_
      alarms := sound.alarms
      stranded := fun g y alive self => ?_
      primed := fun g y alive self => ?_
      shut := sound.shut
      opened := sound.opened
      emptied := sound.emptied
      done := fun g y e alive signal raised => ?_
      staffed := ?_
      parkedCounted := ?_
      apart := sound.apart
      parkedSlot := sound.parkedSlot }
  · rw [fiberAt_spawned] at alive
    split at alive
    · cases alive
      exact kind
    · exact sound.kinds g y alive
  · rw [fiberAt_spawned] at alive
    split at alive
    · cases alive
      exact fits
    · exact sound.fits g y alive
  · obtain ⟨y, alive, fit⟩ := sound.waits b entry
    refine ⟨y, ?_, fit⟩
    rw [fiberAt_spawned, if_neg (size_ne _ (sched.waitersExist b entry))]
    exact alive
  · simp only [World.spawned, Array.mem_push] at mem
    rcases mem with old | rfl
    · exact sound.resumes r old
    · simp [Resume.delivery?]
  · rw [isBlocked_spawned]
    rw [fiberAt_spawned] at alive
    split at alive
    · next same => exact .inr (RunQueue.mem_ready.mpr (.inl same))
    · rcases sound.stranded g y alive self with blocked | ready
      · exact .inl blocked
      · exact .inr (RunQueue.mem_ready.mpr (.inr ready))
  · rw [primed', isBlocked_spawned, pending_spawned sched]
    rw [fiberAt_spawned] at alive
    split at alive
    · next same =>
      cases alive
      subst same
      have free : w.isBlocked w.fibers.size = false := by
        by_contra blocked
        obtain ⟨b, entry, owner⟩ := isBlocked_iff.mp (by simpa using blocked)
        have := sched.waitersExist b entry
        omega
      rw [free]
      simpa using primed
    · next other' => simpa [other'] using sound.primed g y alive self
  · rw [fiberAt_spawned] at alive
    change w.isRaised e = true at raised
    have drained : q₀.Drained w := by
      split at alive
      · cases alive
        rw [fresh e signal] at raised
        cases raised
      · exact sound.done g y e alive signal raised
    refine ⟨drained.1, fun g' y' alive' => ?_⟩
    rw [fiberAt_spawned] at alive'
    split at alive'
    · cases alive'
      split at alive
      · cases alive
        rw [fresh e signal] at raised
        cases raised
      · exact keeps g y e alive signal raised
    · exact drained.2 g' y' alive'
  · rw [census_eq]
    cases courier : x.isCourier
    · simpa [counter, World.spawned] using sound.staffed
    · simpa [counter, World.spawned] using worker courier
  · rw [census_eq]
    cases parked : x.isParked
    · simpa [counter, World.spawned] using sound.parkedCounted
    · simpa [counter, World.spawned] using place parked

/-- Starting a fiber adds what it holds to the account. -/
theorem account_spawned (sound : w.Sound q₀ running) :
    (w.spawned x).account running = w.account running + (x.carried {}).length := by
  have sched := sound.scheduled
  have other : running ≠ some w.fibers.size := fun self => by
    have := sched.runningExists _ self
    omega
  have grown : (w.spawned x).held running = w.held running + (x.carried {}).length := by
    unfold held
    rw [othersSum_push spawned_size other fun g lt _ => by
      rw [carriedBy_spawned sched, if_neg (Nat.ne_of_lt lt)]]
    simp [carriedBy_spawned sched]
  obtain ⟨q, found, -⟩ := sound.outlet
  simp only [account, found, show queue? (w.spawned x) = some q from found, grown]
  simp [spawned, depth]
  omega

end Spawn


/-- The world with counter `g` changed by `f`. -/
def recounted (w : World) (g : Nat) (f : Nat → Nat) : World :=
  { w with counters := w.counters.modify g f }

theorem countUp_run (w : World) (g : Nat) : (countUp g).run w = ((), w.recounted g (· + 1)) := rfl

section Counters

variable {q₀ : DeliveryQueue} {running : Option Nat} {w : World} {g : Nat} {f : Nat → Nat}

theorem counter_recounted (g' : Nat) :
    (w.recounted g f).counter g' =
      if g' = g then ((w.counters[g]?).map f).getD 0 else w.counter g' := by
  unfold counter recounted
  by_cases same : g' = g
  · subst same
    simp [Array.getElem?_modify]
  · simp [Array.getElem?_modify, Ne.symm same, same]

theorem counter_countedDown (g' : Nat) :
    (w.recounted g (· - 1)).counter g' = if g' = g then w.counter g - 1 else w.counter g' := by
  rw [counter_recounted]
  split
  · unfold counter
    cases w.counters[g]? <;> rfl
  · rfl

theorem counter_countedUp (inside : g < w.counters.size) (g' : Nat) :
    (w.recounted g (· + 1)).counter g' = if g' = g then w.counter g + 1 else w.counter g' := by
  rw [counter_recounted]
  split
  · simp [counter, Array.getElem?_eq_getElem inside]
  · rfl

theorem recounted_scheduled (sched : w.Scheduled running) : (w.recounted g f).Scheduled running :=
  ⟨sched.waitsOnce, sched.readyOnce, sched.readyFree, sched.runningFree, sched.runningExists,
    sched.waitersExist, sched.readyExist, sched.slots⟩
theorem recounted_fiberAt : (w.recounted g f).fiberAt = w.fiberAt := rfl
theorem recounted_isBlocked : (w.recounted g f).isBlocked = w.isBlocked := rfl
theorem recounted_pending : (w.recounted g f).pending = w.pending := rfl
theorem recounted_census (kind : Fiber → Bool) :
    (w.recounted g f).census running kind = w.census running kind := rfl
theorem recounted_isRaised : (w.recounted g f).isRaised = w.isRaised := rfl
theorem recounted_closedQueue : (w.recounted g f).closedQueue = w.closedQueue := rfl
theorem recounted_depth : (w.recounted g f).depth = w.depth := rfl
theorem recounted_account : (w.recounted g f).account running = w.account running := rfl

/-- Counting one of the queue's counters down keeps every fiber primed: what a closer relies
on is that a counter is zero, and it stays zero. -/
theorem primed_countedDown {x : Fiber} {waiting : Bool} {r : Resume} (before : q₀.Primed w x waiting r) :
    q₀.Primed (w.recounted g (· - 1)) x waiting r := by
  cases x with
  | closer p done =>
    obtain ⟨closed, apart, sized, one, two⟩ := before
    refine ⟨closed, apart, sized, fun same idle => ?_, fun big => ?_⟩
    · rw [counter_countedDown]
      split
      · next h => rw [← h, one same idle]
      · exact one same idle
    · obtain ⟨workers, parked⟩ := two big
      refine ⟨?_, fun idle => ?_⟩
      · rw [counter_countedDown]
        split
        · next h => rw [← h, workers]
        · exact workers
      · rw [counter_countedDown]
        split
        · next h => rw [← h, parked idle]
        · exact parked idle
  | parked d due waiting' => cases waiting' <;> exact before
  | chore c =>
    cases c with
    | closeQueue s done => cases done <;> exact before
    | _ => exact before
  | _ => exact before

/-- Counting the workers down when the queue is closed and empty, or the parked deliveries
down, each for a fiber that still counted, keeps the invariant. -/
theorem Sound.countedDown (sound : w.Sound q₀ running)
    (workers : g = q₀.workers → w.closedQueue = true ∧ w.depth q₀.queue = 0 ∧
      w.census running Fiber.isCourier + 1 ≤ w.counter q₀.workers)
    (parked : g = q₀.parked → w.census running Fiber.isParked + 1 ≤ w.counter q₀.parked) :
    (w.recounted g (· - 1)).Sound q₀ running := by
  have counts := @counter_countedDown w g
  refine
    { scheduled := recounted_scheduled sound.scheduled
      outlet := sound.outlet
      signal := sound.signal
      kinds := sound.kinds
      fits := sound.fits
      waits := sound.waits
      buffered := sound.buffered
      resumes := sound.resumes
      alarms := sound.alarms
      stranded := sound.stranded
      primed := fun g' x alive other => primed_countedDown (sound.primed g' x alive other)
      shut := sound.shut
      opened := fun open_ => ?_
      emptied := fun closed idle => ?_
      done := fun g' x e alive signal raised => sound.done g' x e alive signal raised
      staffed := ?_
      parkedCounted := ?_
      apart := sound.apart
      parkedSlot := by simpa [recounted] using sound.parkedSlot }
  · rw [recounted_closedQueue] at open_
    rw [counts]
    split
    · next same => simp [workers same.symm] at open_
    · exact sound.opened open_
  · rw [recounted_closedQueue] at closed
    rw [counts] at idle
    rw [recounted_depth]
    split at idle
    · next same => exact (workers same.symm).2.1
    · exact sound.emptied closed idle
  · rw [recounted_census, counts]
    split
    · next same =>
      have := (workers same.symm).2.2
      subst same
      omega
    · exact sound.staffed
  · rw [recounted_census, counts]
    split
    · next same =>
      have := parked same.symm
      subst same
      omega
    · exact sound.parkedCounted

/-- Counting the parked deliveries up keeps the invariant while a worker is counted: no closer
has seen the workers stop. -/
theorem Sound.countedUp (sound : w.Sound q₀ running) (busy : 1 ≤ w.counter q₀.workers) :
    (w.recounted q₀.parked (· + 1)).Sound q₀ running := by
  have counts := @counter_countedUp w q₀.parked sound.parkedSlot
  have workers : (w.recounted q₀.parked (· + 1)).counter q₀.workers = w.counter q₀.workers := by
    rw [counts, if_neg sound.apart]
  refine
    { scheduled := recounted_scheduled sound.scheduled
      outlet := sound.outlet
      signal := sound.signal
      kinds := sound.kinds
      fits := sound.fits
      waits := sound.waits
      buffered := sound.buffered
      resumes := sound.resumes
      alarms := sound.alarms
      stranded := sound.stranded
      primed := fun g' x alive other => ?_
      shut := sound.shut
      opened := fun open_ => workers ▸ sound.opened open_
      emptied := fun closed idle => sound.emptied closed (workers ▸ idle)
      done := fun g' x e alive signal raised => sound.done g' x e alive signal raised
      staffed := workers ▸ sound.staffed
      parkedCounted := ?_
      apart := sound.apart
      parkedSlot := by simpa [recounted] using sound.parkedSlot }
  · have before := sound.primed g' x alive other
    cases x with
    | closer p done =>
      obtain ⟨closed, apart, sized, one, two⟩ := before
      refine ⟨closed, apart, sized, fun same idle => workers ▸ one same idle, fun big => ?_⟩
      have := (two big).1
      omega
    | parked d due waiting' => cases waiting' <;> exact before
    | chore c =>
      cases c with
      | closeQueue s done => cases done <;> exact before
      | _ => exact before
    | _ => exact before
  · rw [recounted_census, counts, if_pos rfl]
    exact Nat.le_succ_of_le sound.parkedCounted

/-- What counting down does: the counter is changed, and at zero its waiters are woken. -/
theorem countDown_stirred (sched : (w.recounted g (· - 1)).Scheduled running) :
    Stirred running (w.recounted g (· - 1)) ((countDown g).run w).run.2 := by
  unfold countDown
  simp only [StateT.run_bind, StateT.run_modify, StateT.run_get, Id.run_bind, Id.run_pure]
  split
  · next zero =>
    unfold wakeInOrder
    simp only [StateT.run_bind, StateT.run_get, Id.run_bind]
    refine stirred_of_wakes _ sched (waiters_wakeable fun wt hit => ?_) (waiters_nodup sched)
    simp only [beq_iff_eq] at hit
    subst hit
    simpa [answers, satisfied, recounted] using zero
  · exact .refl _

end Counters


/-- The world with the delivery queue changed by `f`. -/
def withQueue (w : World) (f : DeliveryQueue → DeliveryQueue) : World :=
  match w.outlet with
  | .queue q => { w with outlet := .queue (f q) }
  | _ => w

theorem modifyQueue_run (w : World) (f : DeliveryQueue → DeliveryQueue) :
    (modifyQueue f).run w = ((), w.withQueue f) := rfl

/-- The number of retries begun. -/
def retries (w : World) : Nat := ((queue? w).map (·.retries)).getD 0

section Outlet

variable {q₀ : DeliveryQueue} {running : Option Nat} {w : World} {f : DeliveryQueue → DeliveryQueue}

theorem withQueue_eq (q : DeliveryQueue) (found : queue? w = some q) :
    w.withQueue f = { w with outlet := .queue (f q) } := by
  simp only [queue?] at found
  split at found
  · next q' same =>
    cases found
    simp [withQueue, same]
  · cases found

theorem primed_reoutlet {q q' : DeliveryQueue} (found : queue? w = some q) (closed : q'.closed = q.closed) :
    q₀.Primed { w with outlet := .queue q' } = q₀.Primed w := by
  have same : ({ w with outlet := .queue q' } : World).closedQueue = w.closedQueue := by
    have found' : queue? ({ w with outlet := .queue q' } : World) = some q' := rfl
    simp only [closedQueue, found', found, Option.map_some, Option.getD_some, closed]
  funext x waiting r
  cases x with
  | closer p done => simp only [DeliveryQueue.Primed, same]; rfl
  | chore c =>
    cases c with
    | closeQueue s done =>
      cases done
      · rfl
      · simp only [DeliveryQueue.Primed, same]
        rfl
    | _ => rfl
  | parked d due waiting' => cases waiting' <;> rfl
  | _ => rfl

/-- Changing the queue's counters or breakers, and not what the invariant reads of it, keeps
the invariant, for the queue with the count of deliveries accepted that the new record shows:
nothing else the invariant reads depends on that count. -/
theorem Sound.recounted (sound : w.Sound q₀ running) {q q' : DeliveryQueue} (found : queue? w = some q)
    (agrees : q'.Agrees { q with queued := q'.queued }) (closed : q'.closed = q.closed) :
    ({ w with outlet := .queue q' } : World).Sound { q₀ with queued := q'.queued } running := by
  obtain ⟨q₁, found₁, agrees₁⟩ := sound.outlet
  obtain rfl : q₁ = q := Option.some.inj (found₁.symm.trans found)
  have same : ({ w with outlet := .queue q' } : World).closedQueue = w.closedQueue := by
    have found' : queue? ({ w with outlet := .queue q' } : World) = some q' := rfl
    simp only [closedQueue, found', found, Option.map_some, Option.getD_some, closed]
  refine
    { scheduled := ⟨sound.scheduled.waitsOnce, sound.scheduled.readyOnce, sound.scheduled.readyFree,
        sound.scheduled.runningFree, sound.scheduled.runningExists, sound.scheduled.waitersExist,
        sound.scheduled.readyExist, sound.scheduled.slots⟩
      outlet := ⟨q', rfl, ?_⟩
      signal := sound.signal
      kinds := sound.kinds
      fits := sound.fits
      waits := sound.waits
      buffered := ?_
      resumes := sound.resumes
      alarms := sound.alarms
      stranded := sound.stranded
      primed := by rw [primed_reoutlet found closed]; exact sound.primed
      shut := same ▸ sound.shut
      opened := same ▸ sound.opened
      emptied := same ▸ sound.emptied
      done := sound.done
      staffed := sound.staffed
      parkedCounted := sound.parkedCounted
      apart := sound.apart
      parkedSlot := sound.parkedSlot }
  · exact ⟨agrees.settings.trans agrees₁.settings, agrees.queue.trans agrees₁.queue,
      agrees.shutdown.trans agrees₁.shutdown, agrees.workers.trans agrees₁.workers,
      agrees.parked.trans agrees₁.parked, rfl⟩
  · exact sound.buffered

/-- Changing the queue's counters or breakers, and not what the invariant reads of it nor the
count of deliveries accepted, keeps the invariant. -/
theorem Sound.reoutlet (sound : w.Sound q₀ running) {q q' : DeliveryQueue} (found : queue? w = some q)
    (agrees : q'.Agrees q) (closed : q'.closed = q.closed) :
    ({ w with outlet := .queue q' } : World).Sound q₀ running := by
  obtain ⟨q₁, found₁, agrees₁⟩ := sound.outlet
  obtain rfl : q₁ = q := Option.some.inj (found₁.symm.trans found)
  have counted : q'.queued = q₀.queued := agrees.queued.trans agrees₁.queued
  have recounted := sound.recounted found
    ⟨agrees.settings, agrees.queue, agrees.shutdown, agrees.workers, agrees.parked, rfl⟩ closed
  rw [counted] at recounted
  exact recounted

theorem account_reoutlet {q q' : DeliveryQueue}
    (found : queue? w = some q) (channel : q'.queue = q.queue) :
    ({ w with outlet := .queue q' } : World).account running + (q.delivered + q.failed + q.dropped) =
      w.account running + (q'.delivered + q'.failed + q'.dropped) := by
  have found' : queue? ({ w with outlet := .queue q' } : World) = some q' := rfl
  simp only [account, found, found', channel]
  rw [show ({ w with outlet := .queue q' } : World).held running = w.held running from rfl,
    show ({ w with outlet := .queue q' } : World).depth q.queue = w.depth q.queue from rfl]
  omega

end Outlet

end World

end JobEngine
